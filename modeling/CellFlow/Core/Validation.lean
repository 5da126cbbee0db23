/-
# CellFlow.Core.Validation — normal forms of hashes and inputs (`packages/core/src/validation.ts`).
-/
import CellFlow.Core.Types

namespace CellFlow

/-- `/^0x[0-9a-f]{64}$/`. -/
def isTxHash (value : String) : Bool :=
  match value.toList with
  | '0' :: 'x' :: digits =>
      digits.length = 64 && digits.all fun c => ('0' ≤ c && c ≤ '9') || ('a' ≤ c && c ≤ 'f')
  | _ => false

/-- `normalizeTxHash`: lower case, and 32 bytes. -/
def normalizeTxHash (value : String) : Except CellFlowError String :=
  let normalized := toLowerCase value
  if isTxHash normalized then .ok normalized
  else .error
    ⟨.invalidTxHash, "Transaction hash must be a 32-byte 0x-prefixed hex value", 400⟩

/-- `normalizeOutPointIndex`: a `uint32`. -/
def normalizeOutPointIndex (value : Nat) : Except CellFlowError Nat :=
  if value ≤ 0xffffffff then .ok value
  else .error ⟨.invalidSignedTransaction, "Input OutPoint index must be a uint32", 400⟩

/-- `normalizeOutPointRef`: the hash first, then the index. -/
def normalizeOutPointRef (value : OutPointRef) : Except CellFlowError OutPointRef := do
  let txHash ← normalizeTxHash value.txHash
  let index ← normalizeOutPointIndex value.index
  return { txHash := txHash, index := index, keys := .source }

/-- `normalizeOutPointRefs`: at most 1024, and each of them. -/
def normalizeOutPointRefs (values : List OutPointRef) : Except CellFlowError (List OutPointRef) :=
  if 1024 < values.length then
    .error ⟨.invalidSignedTransaction,
      "A transaction may not persist more than 1024 input OutPoints", 400⟩
  else values.mapM normalizeOutPointRef

/-- The characters `String.prototype.trim` removes. -/
def isTrimmed (c : Char) : Bool :=
  (9 ≤ c.toNat && c.toNat ≤ 13) || (0x2000 ≤ c.toNat && c.toNat ≤ 0x200a) ||
    [0x20, 0xa0, 0x1680, 0x2028, 0x2029, 0x202f, 0x205f, 0x3000, 0xfeff].contains c.toNat

/-- `String.prototype.trim`. -/
def trim (s : String) : String :=
  String.ofList ((s.toList.dropWhile isTrimmed).reverse.dropWhile isTrimmed).reverse

/-- `normalizeInputRef`: a blank resource key is none. -/
def normalizeInputRef (value : InputRef) : Except CellFlowError InputRef := do
  let outPoint ← normalizeOutPointRef value.outPoint
  let resourceKey := truthy (value.resourceKey.map trim)
  -- the schema bounds keys at 256 characters, so this cut never splits one
  let resourceKey := resourceKey.map fun key => String.ofList (key.toList.take 256)
  return { outPoint := outPoint, role := value.role, resourceKey := resourceKey, keys := .source }

/-- `normalizeInputRefs`: at most 1024, and each of them. -/
def normalizeInputRefs (values : List InputRef) : Except CellFlowError (List InputRef) :=
  if 1024 < values.length then
    .error ⟨.invalidSignedTransaction,
      "A transaction may not persist more than 1024 input references", 400⟩
  else values.mapM normalizeInputRef

/-! ## Normal forms -/

/-- Whatever a normalized list holds, the normalization of one of the values returned. -/
theorem mem_of_mapM_ok {α β ε : Type} {f : α → Except ε β} {xs : List α} {ys : List β}
    (h : xs.mapM f = .ok ys) : ∀ y ∈ ys, ∃ x ∈ xs, f x = .ok y := by
  induction xs generalizing ys with
  | nil =>
      cases h
      simp
  | cons x xs ih =>
      rw [List.mapM_cons] at h
      cases hx : f x with
      | error e =>
          rw [hx] at h
          cases h
      | ok z =>
          cases hxs : xs.mapM f with
          | error e =>
              rw [hx, hxs] at h
              cases h
          | ok zs =>
              rw [hx, hxs] at h
              cases h
              intro y hy
              rcases List.mem_cons.mp hy with rfl | hy
              · exact ⟨x, List.mem_cons_self, hx⟩
              · obtain ⟨x', hx', hf⟩ := ih hxs y hy
                exact ⟨x', List.mem_cons_of_mem x hx', hf⟩

theorem normalizeInputRefs_built {values refs : List InputRef}
    (h : normalizeInputRefs values = .ok refs) : ∀ r ∈ refs, r.keys = .source := by
  unfold normalizeInputRefs at h
  split at h
  · cases h
  · intro r hr
    obtain ⟨value, -, hvalue⟩ := mem_of_mapM_ok h r hr
    unfold normalizeInputRef at hvalue
    cases ho : normalizeOutPointRef value.outPoint with
    | error e =>
        rw [ho] at hvalue
        cases hvalue
    | ok outPoint =>
        rw [ho] at hvalue
        cases hvalue
        rfl

end CellFlow
