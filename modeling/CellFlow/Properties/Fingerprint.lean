/-
# CellFlow.Properties.Fingerprint — the canonical text of a signed transaction names that transaction.

A transaction is written in two styles: a wallet library hands over camelCase records with `bigint`
or `number` integers, a node answers in snake_case with hexadecimal ones.  `Style.transaction` says
which values write down a given transaction, whatever the case of their digits and the zeros before
them.  The normalizers take every such value to one JSON value (`canonicalPayload_written`), and
that value, so also its text, differs between different transactions (`Transaction.canonical_inj`).
-/
import CellFlow.Core.SignedPayload

namespace CellFlow

open Js (Json Value)

/-! ## Transactions -/

namespace Ckb

/-- The bytes of a field. -/
abbrev Bytes := List UInt8

/-- An output of a transaction. -/
structure OutPoint where
  txHash : Bytes
  index : Nat

/-- A script of a Cell. -/
structure Script where
  codeHash : Bytes
  hashType : String
  args : Bytes

/-- Whether a dependency is the code itself or a list of them. -/
inductive DepType where
  | code
  | depGroup

/-- A Cell a transaction depends on. -/
structure CellDep where
  outPoint : OutPoint
  depType : DepType

/-- An input of a transaction. -/
structure Input where
  since : Nat
  previousOutput : OutPoint

/-- An output, less its data. -/
structure Output where
  capacity : Nat
  lock : Script
  type : Option Script

/-- A signed transaction; its witnesses are part of it. -/
structure Transaction where
  version : Nat
  cellDeps : List CellDep
  headerDeps : List Bytes
  inputs : List Input
  outputs : List Output
  outputsData : List Bytes
  witnesses : List Bytes

/-! ## The canonical value of each part -/

/-- The two digits of a byte. -/
def hexByte (b : UInt8) : List Char :=
  [Nat.digitChar (b.toNat / 16), Nat.digitChar (b.toNat % 16)]

/-- Bytes as lower-case hexadecimal text. -/
def hexBytes (bytes : Bytes) : List Char := '0' :: 'x' :: bytes.flatMap hexByte

/-- An integer as hexadecimal text without leading zeros. -/
def hexInteger (n : Nat) : List Char := '0' :: 'x' :: Nat.toDigits 16 n

/-- Bytes as canonical text. -/
def canonicalBytes (bytes : Bytes) : Json := .str (String.ofList (hexBytes bytes))

/-- An integer as canonical text. -/
def canonicalInteger (n : Nat) : Json := .str (String.ofList (hexInteger n))

/-- The canonical value of an out point. -/
def OutPoint.canonical (o : OutPoint) : Json :=
  .obj [("txHash", canonicalBytes o.txHash), ("index", canonicalInteger o.index)]

/-- The canonical value of a script. -/
def Script.canonical (script : Script) : Json :=
  .obj [("codeHash", canonicalBytes script.codeHash), ("hashType", .str script.hashType),
    ("args", canonicalBytes script.args)]

/-- The canonical text of a dep type, in the spelling of the RPC. -/
def DepType.canonical : DepType → String
  | .code => "code"
  | .depGroup => "dep_group"

/-- The canonical value of a Cell dependency. -/
def CellDep.canonical (dep : CellDep) : Json :=
  .obj [("outPoint", dep.outPoint.canonical), ("depType", .str dep.depType.canonical)]

/-- The canonical value of an input. -/
def Input.canonical (input : Input) : Json :=
  .obj [("since", canonicalInteger input.since),
    ("previousOutput", input.previousOutput.canonical)]

/-- The canonical value of a type script, or `null`. -/
def canonicalType : Option Script → Json
  | some script => script.canonical
  | none => .null

/-- The canonical value of an output. -/
def Output.canonical (output : Output) : Json :=
  .obj [("capacity", canonicalInteger output.capacity), ("lock", output.lock.canonical),
    ("type", canonicalType output.type)]

/-- The canonical value of a transaction. -/
def Transaction.canonical (tx : Transaction) : Json :=
  .obj
    [("version", canonicalInteger tx.version), ("cellDeps", .arr (tx.cellDeps.map CellDep.canonical)),
      ("headerDeps", .arr (tx.headerDeps.map canonicalBytes)),
      ("inputs", .arr (tx.inputs.map Input.canonical)),
      ("outputs", .arr (tx.outputs.map Output.canonical)),
      ("outputsData", .arr (tx.outputsData.map canonicalBytes)),
      ("witnesses", .arr (tx.witnesses.map canonicalBytes))]

/-! ## Different parts have different canonical values -/

theorem hexByte_inj {a b : UInt8} (h : hexByte a = hexByte b) : a = b := by
  have hdigit : ∀ d e : Fin 16, Nat.digitChar d = Nat.digitChar e → d.val = e.val := by decide
  have hhigh := hdigit ⟨a.toNat / 16, by have := a.toNat_lt; omega⟩
    ⟨b.toNat / 16, by have := b.toNat_lt; omega⟩ (List.cons.inj h).1
  have hlow := hdigit ⟨a.toNat % 16, by omega⟩ ⟨b.toNat % 16, by omega⟩
    (List.cons.inj (List.cons.inj h).2).1
  simp only at hhigh hlow
  apply UInt8.toNat_inj.mp
  omega

/-- Every byte takes two digits, so equal digits are equal bytes. -/
theorem flatMap_hexByte_inj {a b : Bytes} (h : a.flatMap hexByte = b.flatMap hexByte) : a = b := by
  induction a generalizing b with
  | nil =>
      cases b with
      | nil => rfl
      | cons x b => cases h
  | cons x a ih =>
      cases b with
      | nil => cases h
      | cons y b =>
          rw [List.flatMap_cons, List.flatMap_cons] at h
          obtain ⟨hbyte, hrest⟩ := List.append_inj h rfl
          rw [hexByte_inj hbyte, ih hrest]

theorem canonicalBytes_inj {a b : Bytes} (h : canonicalBytes a = canonicalBytes b) : a = b := by
  simp only [canonicalBytes, hexBytes, Json.str.injEq, String.ofList_inj, List.cons.injEq,
    true_and] at h
  exact flatMap_hexByte_inj h

theorem canonicalInteger_inj {m n : Nat} (h : canonicalInteger m = canonicalInteger n) : m = n := by
  simp only [canonicalInteger, hexInteger, Json.str.injEq, String.ofList_inj, List.cons.injEq,
    true_and] at h
  exact Js.toDigits_sixteen_inj h

theorem OutPoint.canonical_inj {a b : OutPoint} (h : a.canonical = b.canonical) : a = b := by
  simp only [OutPoint.canonical, Json.obj.injEq, List.cons.injEq, Prod.mk.injEq, true_and,
    and_true] at h
  cases a
  cases b
  rw [OutPoint.mk.injEq]
  exact ⟨canonicalBytes_inj h.1, canonicalInteger_inj h.2⟩

theorem Script.canonical_inj {a b : Script} (h : a.canonical = b.canonical) : a = b := by
  simp only [Script.canonical, Json.obj.injEq, List.cons.injEq, Prod.mk.injEq, true_and, and_true,
    Json.str.injEq] at h
  cases a
  cases b
  rw [Script.mk.injEq]
  exact ⟨canonicalBytes_inj h.1, h.2.1, canonicalBytes_inj h.2.2⟩

theorem DepType.canonical_inj {a b : DepType} (h : a.canonical = b.canonical) : a = b := by
  revert h
  cases a <;> cases b <;> simp [DepType.canonical]

theorem CellDep.canonical_inj {a b : CellDep} (h : a.canonical = b.canonical) : a = b := by
  simp only [CellDep.canonical, Json.obj.injEq, List.cons.injEq, Prod.mk.injEq, true_and, and_true,
    Json.str.injEq] at h
  cases a
  cases b
  rw [CellDep.mk.injEq]
  exact ⟨OutPoint.canonical_inj h.1, DepType.canonical_inj h.2⟩

theorem Input.canonical_inj {a b : Input} (h : a.canonical = b.canonical) : a = b := by
  simp only [Input.canonical, Json.obj.injEq, List.cons.injEq, Prod.mk.injEq, true_and,
    and_true] at h
  cases a
  cases b
  rw [Input.mk.injEq]
  exact ⟨canonicalInteger_inj h.1, OutPoint.canonical_inj h.2⟩

theorem canonicalType_inj {a b : Option Script} (h : canonicalType a = canonicalType b) :
    a = b := by
  cases a with
  | none =>
      cases b with
      | none => rfl
      | some script => cases h
  | some script =>
      cases b with
      | none => cases h
      | some script' => exact congrArg some (Script.canonical_inj h)

theorem Output.canonical_inj {a b : Output} (h : a.canonical = b.canonical) : a = b := by
  simp only [Output.canonical, Json.obj.injEq, List.cons.injEq, Prod.mk.injEq, true_and,
    and_true] at h
  cases a
  cases b
  rw [Output.mk.injEq]
  exact ⟨canonicalInteger_inj h.1, Script.canonical_inj h.2.1, canonicalType_inj h.2.2⟩

/-- **Different transactions** have different canonical values. -/
theorem Transaction.canonical_inj {a b : Transaction} (h : a.canonical = b.canonical) : a = b := by
  simp only [Transaction.canonical, Json.obj.injEq, List.cons.injEq, Prod.mk.injEq, true_and,
    and_true, Json.arr.injEq] at h
  obtain ⟨hversion, hdeps, hheaders, hinputs, houtputs, hdata, hwitnesses⟩ := h
  have hbytes : ∀ {l l' : List Bytes}, l.map canonicalBytes = l'.map canonicalBytes → l = l' :=
    fun heq => List.map_injective_iff.mpr (fun _ _ => canonicalBytes_inj) heq
  cases a
  cases b
  rw [Transaction.mk.injEq]
  exact ⟨canonicalInteger_inj hversion,
    List.map_injective_iff.mpr (fun _ _ => CellDep.canonical_inj) hdeps, hbytes hheaders,
    List.map_injective_iff.mpr (fun _ _ => Input.canonical_inj) hinputs,
    List.map_injective_iff.mpr (fun _ _ => Output.canonical_inj) houtputs, hbytes hdata,
    hbytes hwitnesses⟩

end Ckb

/-! ## The two styles -/

/-- How a transaction is written: as the wallet library holds it, or as a node answers it. -/
inductive Style where
  | ccc
  | rpc

/-- A member under one key. -/
def HasMember (record : List (String × Value)) (key : String) (p : Value → Prop) : Prop :=
  ∃ value, record.lookup key = some value ∧ p value

/-- A member under the key of the style. -/
def Style.Has (style : Style) (record : List (String × Value)) (camel snake : String)
    (p : Value → Prop) : Prop :=
  match style with
  | .ccc => HasMember record camel p
  | .rpc => record.lookup camel = none ∧ HasMember record snake p

/-- Hexadecimal text of some bytes, in any case. -/
def IsHex (bytes : Ckb.Bytes) : Value → Prop
  | .string s => s.toList.map Char.toLower = Ckb.hexBytes bytes
  | _ => False

/-- An integer: `bigint` or `number`, or hexadecimal text behind any zeros and in any case. -/
def Style.IsInteger (style : Style) (n : Nat) : Value → Prop
  | .bigint m => style = .ccc ∧ m = n
  | .number x => style = .ccc ∧ x = .ofInt n
  | .string s => style = .rpc ∧ ∃ zeros,
      s.toList.map Char.toLower = '0' :: 'x' :: (List.replicate zeros '0' ++ Nat.toDigits 16 n)
  | _ => False

/-- The text of a dep type in the style. -/
def Style.depType : Style → Ckb.DepType → String
  | _, .code => "code"
  | .ccc, .depGroup => "depGroup"
  | .rpc, .depGroup => "dep_group"

/-- A list, item by item. -/
def IsList {α : Type} (p : α → Value → Prop) (xs : List α) : Value → Prop
  | .array items => List.Forall₂ p xs items
  | _ => False

/-- The value writes the out point in the style. -/
def Style.IsOutPoint (style : Style) (o : Ckb.OutPoint) : Value → Prop
  | .object record =>
      style.Has record "txHash" "tx_hash" (IsHex o.txHash) ∧
        HasMember record "index" (style.IsInteger o.index)
  | _ => False

/-- The value writes the script in the style. -/
def Style.IsScript (style : Style) (script : Ckb.Script) : Value → Prop
  | .object record =>
      style.Has record "codeHash" "code_hash" (IsHex script.codeHash) ∧
        style.Has record "hashType" "hash_type" (· = .string script.hashType) ∧
        HasMember record "args" (IsHex script.args)
  | _ => False

/-- The value writes the Cell dependency in the style. -/
def Style.IsCellDep (style : Style) (dep : Ckb.CellDep) : Value → Prop
  | .object record =>
      style.Has record "outPoint" "out_point" (style.IsOutPoint dep.outPoint) ∧
        style.Has record "depType" "dep_type" (· = .string (style.depType dep.depType))
  | _ => False

/-- The value writes the input in the style. -/
def Style.IsInput (style : Style) (input : Ckb.Input) : Value → Prop
  | .object record =>
      style.Has record "previousOutput" "previous_output" (style.IsOutPoint input.previousOutput) ∧
        HasMember record "since" (style.IsInteger input.since)
  | _ => False

/-- A type script, or none: the member is absent, `undefined` or `null`. -/
def Style.IsType (style : Style) (record : List (String × Value)) : Option Ckb.Script → Prop
  | some script => HasMember record "type" (style.IsScript script)
  | none => ∀ value, record.lookup "type" = some value → value.isNullish = true

/-- The value writes the output in the style. -/
def Style.IsOutput (style : Style) (output : Ckb.Output) : Value → Prop
  | .object record =>
      HasMember record "capacity" (style.IsInteger output.capacity) ∧
        HasMember record "lock" (style.IsScript output.lock) ∧ style.IsType record output.type
  | _ => False

/-- The value writes the transaction in the style. -/
def Style.IsTransaction (style : Style) (tx : Ckb.Transaction) : Value → Prop
  | .object record =>
      HasMember record "version" (style.IsInteger tx.version) ∧
        style.Has record "cellDeps" "cell_deps" (IsList style.IsCellDep tx.cellDeps) ∧
        style.Has record "headerDeps" "header_deps" (IsList IsHex tx.headerDeps) ∧
        HasMember record "inputs" (IsList style.IsInput tx.inputs) ∧
        HasMember record "outputs" (IsList style.IsOutput tx.outputs) ∧
        style.Has record "outputsData" "outputs_data" (IsList IsHex tx.outputsData) ∧
        HasMember record "witnesses" (IsList IsHex tx.witnesses)
  | _ => False

/-! ## What the normalizers make of a written transaction -/

section Written

variable {style : Style} {record : List (String × Value)}

theorem pick_cons {key : String} {keys : List String} {value : Value}
    (h : record.lookup key = some value) (hvalue : value.isUndefined = false) :
    pick record (key :: keys) = value := by
  rw [pick, h]
  simp [hvalue]

/-- The member under the key of the style is the one picked. -/
theorem Style.Has.pick {camel snake : String} {p : Value → Prop}
    (h : style.Has record camel snake p) (hp : ∀ value, p value → value.isUndefined = false) :
    ∃ value, pick record [camel, snake] = value ∧ p value := by
  cases style with
  | ccc =>
      obtain ⟨value, hlookup, hvalue⟩ := h
      exact ⟨value, pick_cons hlookup (hp value hvalue), hvalue⟩
  | rpc =>
      obtain ⟨hcamel, value, hlookup, hvalue⟩ := h
      refine ⟨value, ?_, hvalue⟩
      rw [CellFlow.pick, hcamel]
      exact pick_cons hlookup (hp value hvalue)

theorem HasMember.pick {key : String} {p : Value → Prop} (h : HasMember record key p)
    (hp : ∀ value, p value → value.isUndefined = false) :
    ∃ value, pick record [key] = value ∧ p value := by
  obtain ⟨value, hlookup, hvalue⟩ := h
  exact ⟨value, pick_cons hlookup (hp value hvalue), hvalue⟩

/-- Hexadecimal digits are no blanks. -/
theorem isTrimmed_of_hexDigit {c : Char} (h : (Js.hexDigit c).isSome = true) :
    isTrimmed c = false := by
  have hcode : 48 ≤ c.toNat ∧ c.toNat ≤ 102 := by
    unfold Js.hexDigit at h
    split_ifs at h with hdigit hlower hupper
    · have := Js.toNat_of_isDigit hdigit
      omega
    · have h₀ : 97 ≤ c.toNat := hlower.1
      have h₁ : c.toNat ≤ 102 := hlower.2
      omega
    · have h₀ : 65 ≤ c.toNat := hupper.1
      have h₁ : c.toNat ≤ 70 := hupper.2
      omega
    · cases h
  simp only [isTrimmed, List.contains_eq_mem, List.mem_cons, List.not_mem_nil, or_false,
    Bool.or_eq_false_iff, Bool.and_eq_false_iff, decide_eq_false_iff_not]
  omega

theorem isSome_hexDigit_digitChar (d : Fin 16) :
    (Js.hexDigit (Nat.digitChar d)).isSome = true := by
  rw [Js.hexDigit_digitChar]
  rfl

theorem isTrimmed_hexBytes (bytes : Ckb.Bytes) :
    ∀ c ∈ Ckb.hexBytes bytes, isTrimmed c = false := by
  intro c hc
  rw [Ckb.hexBytes, List.mem_cons, List.mem_cons, List.mem_flatMap] at hc
  rcases hc with rfl | rfl | ⟨b, -, hc⟩
  · decide
  · decide
  · have hb := b.toNat_lt
    rw [Ckb.hexByte, List.mem_pair] at hc
    rcases hc with rfl | rfl
    · exact isTrimmed_of_hexDigit (isSome_hexDigit_digitChar ⟨b.toNat / 16, by omega⟩)
    · exact isTrimmed_of_hexDigit (isSome_hexDigit_digitChar ⟨b.toNat % 16, by omega⟩)

theorem isHexText_hexBytes (bytes : Ckb.Bytes) :
    isHexText (String.ofList (Ckb.hexBytes bytes)) = true := by
  have hdigit : ∀ d : Fin 16, (('0' ≤ Nat.digitChar d && Nat.digitChar d ≤ '9') ||
      ('a' ≤ Nat.digitChar d && Nat.digitChar d ≤ 'f')) = true := by decide
  rw [isHexText, String.toList_ofList, Ckb.hexBytes]
  simp only [List.all_eq_true, List.mem_flatMap]
  rintro c ⟨b, -, hc⟩
  have hb := b.toNat_lt
  rw [Ckb.hexByte, List.mem_pair] at hc
  rcases hc with rfl | rfl
  · exact hdigit ⟨b.toNat / 16, by omega⟩
  · exact hdigit ⟨b.toNat % 16, by omega⟩

theorem normalizeHex_written {bytes : Ckb.Bytes} {value : Value} (h : IsHex bytes value) :
    normalizeHex value = some (String.ofList (Ckb.hexBytes bytes)) := by
  cases value with
  | string s =>
      have hs : s.toList.map Char.toLower = Ckb.hexBytes bytes := h
      have hlower : toLowerCase (trim s) = String.ofList (Ckb.hexBytes bytes) := by
        rw [trim_of_toLower hs (isTrimmed_hexBytes bytes), toLowerCase, hs]
      have hdefined : ¬ (Value.string s).isNullish = true := Bool.false_ne_true
      rw [normalizeHex, if_neg hdefined]
      simp only [Value.text_string, hlower]
      rw [if_pos (isHexText_hexBytes bytes)]
  | undefined | null | bool | number | bigint | array | object => exact absurd h not_false

theorem IsHex.defined {bytes : Ckb.Bytes} (value : Value) (h : IsHex bytes value) :
    value.isUndefined = false := by
  cases value with
  | string s => rfl
  | undefined | null | bool | number | bigint | array | object => exact absurd h not_false

theorem parseInteger_written {n : Nat} {value : Value} (h : style.IsInteger n value) :
    parseInteger value = some (n : Int) := by
  cases value with
  | bigint m =>
      obtain ⟨-, rfl⟩ := h
      rfl
  | number x =>
      obtain ⟨-, rfl⟩ := h
      have hsign : decide ((n : Int) < 0) = false := by simp
      simp [parseInteger, Js.Number.ofInt, hsign]
  | string s =>
      obtain ⟨-, zeros, hs⟩ := h
      have hblank : ∀ c ∈ '0' :: 'x' :: (List.replicate zeros '0' ++ Nat.toDigits 16 n),
          isTrimmed c = false := by
        intro c hc
        rw [List.mem_cons, List.mem_cons, List.mem_append, List.mem_replicate] at hc
        rcases hc with rfl | rfl | ⟨-, rfl⟩ | hc
        · decide
        · decide
        · decide
        · exact isTrimmed_of_hexDigit (Js.isSome_of_readRadix (Js.readRadix_toDigits n) c hc)
      simp only [parseInteger, Value.text_string]
      rw [trim_of_toLower hs hblank]
      exact Js.readBigInt_hex hs
  | undefined | null | bool | array | object => exact absurd h not_false

theorem Style.IsInteger.nullish {n : Nat} {value : Value} (h : style.IsInteger n value) :
    value.isNullish = false := by
  cases value with
  | bigint | number | string => rfl
  | undefined | null | bool | array | object => exact absurd h not_false

theorem normalizeInteger_written {n : Nat} {value : Value} (h : style.IsInteger n value) :
    normalizeInteger value = some (String.ofList (Ckb.hexInteger n)) := by
  rw [normalizeInteger, h.nullish, parseInteger_written h]
  have hsign : ¬ (n : Int) < 0 := by omega
  simp [hsign, Ckb.hexInteger]

theorem Style.IsInteger.defined {n : Nat} (value : Value) (h : style.IsInteger n value) :
    value.isUndefined = false := by
  cases value with
  | bigint | number | string => rfl
  | undefined | null | bool | array | object => exact absurd h not_false

/-- No hexadecimal text is empty. -/
theorem truthy_hexBytes (bytes : Ckb.Bytes) :
    truthy (some (String.ofList (Ckb.hexBytes bytes))) =
      some (String.ofList (Ckb.hexBytes bytes)) := by
  have hne : String.ofList (Ckb.hexBytes bytes) ≠ "" := by
    intro h
    have hlist := congrArg String.toList h
    rw [String.toList_ofList] at hlist
    cases hlist
  simp [truthy, hne]

theorem normalizeOutPoint_written {o : Ckb.OutPoint} {value : Value} (h : style.IsOutPoint o value) :
    normalizeOutPoint value = some o.canonical := by
  cases value with
  | object record =>
      obtain ⟨hhash, hindex⟩ := h
      obtain ⟨txHash, hpick, htxHash⟩ := hhash.pick IsHex.defined
      obtain ⟨index, hpick', hinteger⟩ := hindex.pick Style.IsInteger.defined
      simp only [normalizeOutPoint, asRecord, hpick, hpick', normalizeHex_written htxHash,
        normalizeInteger_written hinteger, truthy_hexBytes, Option.bind_eq_bind, Option.bind_some]
      rfl
  | undefined | null | bool | number | bigint | string | array => exact absurd h not_false

theorem normalizeScript_written {script : Ckb.Script} {value : Value}
    (h : style.IsScript script value) : normalizeScript value = some script.canonical := by
  cases value with
  | object record =>
      obtain ⟨hcode, htype, hargs⟩ := h
      obtain ⟨codeHash, hpick, hcodeHash⟩ := hcode.pick IsHex.defined
      obtain ⟨hashType, hpick', rfl⟩ := htype.pick (by rintro _ rfl; rfl)
      obtain ⟨args, hpick'', hbytes⟩ := hargs.pick IsHex.defined
      simp only [normalizeScript, asRecord, asText, hpick, hpick', hpick'',
        normalizeHex_written hcodeHash, normalizeHex_written hbytes, truthy_hexBytes,
        Option.bind_eq_bind, Option.bind_some]
      rfl
  | undefined | null | bool | number | bigint | string | array => exact absurd h not_false

theorem Style.IsOutPoint.defined {o : Ckb.OutPoint} (value : Value) (h : style.IsOutPoint o value) :
    value.isUndefined = false := by
  cases value with
  | object => rfl
  | undefined | null | bool | number | bigint | string | array => exact absurd h not_false

theorem Style.IsScript.defined {script : Ckb.Script} (value : Value)
    (h : style.IsScript script value) : value.isUndefined = false ∧ value.isNullish = false := by
  cases value with
  | object => exact ⟨rfl, rfl⟩
  | undefined | null | bool | number | bigint | string | array => exact absurd h not_false

/-- Either spelling of a dependency type is the one of the node. -/
theorem Style.depType_canonical (style : Style) (t : Ckb.DepType) :
    (if style.depType t = "depGroup" then "dep_group" else style.depType t) = t.canonical := by
  cases style <;> cases t <;> decide

theorem normalizeCellDep_written {dep : Ckb.CellDep} {value : Value}
    (h : style.IsCellDep dep value) : normalizeCellDep value = some dep.canonical := by
  cases value with
  | object record =>
      obtain ⟨houtPoint, htype⟩ := h
      obtain ⟨outPoint, hpick, ho⟩ := houtPoint.pick Style.IsOutPoint.defined
      obtain ⟨depType, hpick', rfl⟩ := htype.pick (by rintro _ rfl; rfl)
      simp only [normalizeCellDep, asRecord, asText, hpick, hpick', normalizeOutPoint_written ho,
        Option.bind_eq_bind, Option.bind_some, Style.depType_canonical]
      rfl
  | undefined | null | bool | number | bigint | string | array => exact absurd h not_false

theorem normalizeInput_written {input : Ckb.Input} {value : Value} (h : style.IsInput input value) :
    normalizeInput value = some input.canonical := by
  cases value with
  | object record =>
      obtain ⟨hprevious, hsince⟩ := h
      obtain ⟨previousOutput, hpick, ho⟩ := hprevious.pick Style.IsOutPoint.defined
      obtain ⟨since, hpick', hinteger⟩ := hsince.pick Style.IsInteger.defined
      simp only [normalizeInput, asRecord, hpick, hpick', normalizeOutPoint_written ho,
        normalizeInteger_written hinteger, Option.bind_eq_bind, Option.bind_some]
      rfl
  | undefined | null | bool | number | bigint | string | array => exact absurd h not_false

/-- A type script is normalized as a script, an absent one as `null`. -/
theorem normalizeType_written {script : Option Ckb.Script} (h : style.IsType record script) :
    normalizeType (pick record ["type"]) = some (Ckb.canonicalType script) := by
  rw [normalizeType]
  cases script with
  | some script =>
      obtain ⟨type, hpick, hscript⟩ := HasMember.pick h fun _ hs => (Style.IsScript.defined _ hs).1
      rw [hpick, (Style.IsScript.defined _ hscript).2, normalizeScript_written hscript]
      rfl
  | none =>
      have hnullish : (pick record ["type"]).isNullish = true := by
        rw [pick]
        split
        next value hlookup =>
          split
          · rfl
          · exact h value hlookup
        · rfl
      rw [if_pos hnullish]
      rfl

theorem normalizeOutput_written {output : Ckb.Output} {value : Value}
    (h : style.IsOutput output value) : normalizeOutput value = some output.canonical := by
  cases value with
  | object record =>
      obtain ⟨hcapacity, hlock, htype⟩ := h
      obtain ⟨capacity, hpick, hinteger⟩ := hcapacity.pick Style.IsInteger.defined
      obtain ⟨lock, hpick', hscript⟩ := hlock.pick fun _ hs => (Style.IsScript.defined _ hs).1
      simp only [normalizeOutput, asRecord, hpick, hpick', normalizeInteger_written hinteger,
        normalizeScript_written hscript, normalizeType_written htype, Option.bind_eq_bind,
        Option.bind_some]
      rfl
  | undefined | null | bool | number | bigint | string | array => exact absurd h not_false

/-- A list is normalized item by item. -/
theorem normalizeArray_written {α : Type} {p : α → Value → Prop} {item : Value → Option Json}
    {f : α → Json} (hitem : ∀ x value, p x value → item value = some (f x)) {xs : List α}
    {value : Value} (h : IsList p xs value) : normalizeArray value item = some (xs.map f) := by
  cases value with
  | array items =>
      have hitems : List.Forall₂ p xs items := h
      show items.mapM item = _
      induction hitems with
      | nil => rfl
      | cons hx _ ih =>
          rw [List.mapM_cons, hitem _ _ hx, ih (by assumption)]
          rfl
  | undefined | null | bool | number | bigint | string | object => exact absurd h not_false

theorem IsList.defined {α : Type} {p : α → Value → Prop} {xs : List α} (value : Value)
    (h : IsList p xs value) : value.isUndefined = false := by
  cases value with
  | array => rfl
  | undefined | null | bool | number | bigint | string | object => exact absurd h not_false

theorem normalizeHexArray_written {xs : List Ckb.Bytes} {value : Value} (h : IsList IsHex xs value) :
    normalizeHexArray value = some (xs.map Ckb.canonicalBytes) := by
  refine normalizeArray_written (fun bytes entry hentry => ?_) h
  rw [normalizeHex_written hentry]
  rfl

/-- **Every way to write a transaction** normalizes to its one canonical value, where each output
has its data. -/
theorem canonicalPayload_written {tx : Ckb.Transaction} {value : Value}
    (h : style.IsTransaction tx value) :
    canonicalPayload value =
      if tx.outputs.length ≠ tx.outputsData.length then none else some tx.canonical := by
  cases value with
  | object record =>
      obtain ⟨hversion, hdeps, hheaders, hinputs, houtputs, hdata, hwitnesses⟩ := h
      obtain ⟨_, hpick₁, hversion⟩ := hversion.pick Style.IsInteger.defined
      obtain ⟨_, hpick₂, hdeps⟩ := hdeps.pick IsList.defined
      obtain ⟨_, hpick₃, hheaders⟩ := hheaders.pick IsList.defined
      obtain ⟨_, hpick₄, hinputs⟩ := hinputs.pick IsList.defined
      obtain ⟨_, hpick₅, houtputs⟩ := houtputs.pick IsList.defined
      obtain ⟨_, hpick₆, hdata⟩ := hdata.pick IsList.defined
      obtain ⟨_, hpick₇, hwitnesses⟩ := hwitnesses.pick IsList.defined
      have hdeps := normalizeArray_written (fun _ _ h => normalizeCellDep_written h) hdeps
      have hinputs := normalizeArray_written (fun _ _ h => normalizeInput_written h) hinputs
      have houtputs := normalizeArray_written (fun _ _ h => normalizeOutput_written h) houtputs
      simp only [canonicalPayload, asRecord, hpick₁, hpick₂, hpick₃, hpick₄, hpick₅, hpick₆, hpick₇,
        normalizeInteger_written hversion, normalizeHexArray_written hheaders,
        hdeps, hinputs, houtputs, normalizeHexArray_written hdata,
        normalizeHexArray_written hwitnesses,
        Option.bind_eq_bind, Option.bind_some, List.length_map]
      rfl
  | undefined | null | bool | number | bigint | string | array => exact absurd h not_false

end Written

/-! ## The canonical text -/

theorem canonicalText_written {style : Style} {tx : Ckb.Transaction} {value : Value}
    (h : style.IsTransaction tx value) :
    canonicalText value =
      if tx.outputs.length ≠ tx.outputsData.length then none
      else some tx.canonical.stringify := by
  rw [canonicalText, canonicalPayload_written h]
  split <;> rfl

/-- **One text for each transaction**: however two transactions are written, what is hashed exists
exactly where each output has its data, is the same for the same transaction, and differs for
different ones. -/
theorem canonicalText_canonical {style style' : Style} {tx tx' : Ckb.Transaction}
    {value value' : Value} (h : style.IsTransaction tx value)
    (h' : style'.IsTransaction tx' value') :
    ((canonicalText value).isSome ↔ tx.outputs.length = tx.outputsData.length) ∧
      (tx = tx' → canonicalText value = canonicalText value') ∧
      (tx ≠ tx' → ∀ text, canonicalText value = some text → canonicalText value' ≠ some text) := by
  rw [canonicalText_written h, canonicalText_written h']
  refine ⟨?_, ?_, ?_⟩
  · by_cases hpaired : tx.outputs.length = tx.outputsData.length <;> simp [hpaired]
  · rintro rfl
    rfl
  · intro hne text htext htext'
    split at htext
    · cases htext
    · split at htext'
      · cases htext'
      · refine hne (Ckb.Transaction.canonical_inj (Json.stringify_injective ?_))
        exact (Option.some.inj htext).trans (Option.some.inj htext').symm

/-- A transfer with one item of each kind, written in both styles. -/
def transfer : Ckb.Transaction where
  version := 0
  cellDeps := [⟨⟨[0x11, 0xaf], 1⟩, .depGroup⟩]
  headerDeps := [[0x22]]
  inputs := [⟨0, ⟨[0x11, 0xaf], 2⟩⟩]
  outputs := [⟨1000, ⟨[0x33], "type", [0x12]⟩, none⟩]
  outputsData := [[0xab]]
  witnesses := [[1, 2]]

/-- A transfer as the client library writes it. -/
def transferCcc : Value :=
  let outPoint (index : Int) :=
    Value.object [("txHash", .string "0x11AF"), ("index", .bigint index)]
  .object
    [("version", .number (.ofInt 0)),
      ("cellDeps", .array [.object [("outPoint", outPoint 1), ("depType", .string "depGroup")]]),
      ("headerDeps", .array [.string "0x22"]),
      ("inputs", .array [.object [("since", .bigint 0), ("previousOutput", outPoint 2)]]),
      ("outputs", .array [.object
        [("capacity", .bigint 1000),
          ("lock", .object [("codeHash", .string "0x33"), ("hashType", .string "type"),
            ("args", .string "0x12")]), ("type", .undefined)]]),
      ("outputsData", .array [.string "0xAB"]), ("witnesses", .array [.string "0x0102"])]

/-- The same transfer as the RPC writes it. -/
def transferRpc : Value :=
  let outPoint (index : String) :=
    Value.object [("tx_hash", .string "0x11af"), ("index", .string index)]
  .object
    [("version", .string "0x0"),
      ("cell_deps", .array [.object [("out_point", outPoint "0x1"),
        ("dep_type", .string "dep_group")]]),
      ("header_deps", .array [.string "0x22"]),
      ("inputs", .array [.object [("since", .string "0x0"), ("previous_output", outPoint "0x02")]]),
      ("outputs", .array [.object
        [("capacity", .string "0x3e8"),
          ("lock", .object [("code_hash", .string "0x33"), ("hash_type", .string "type"),
            ("args", .string "0x12")]), ("type", .null)]]),
      ("outputs_data", .array [.string "0xab"]), ("witnesses", .array [.string "0x0102"])]

theorem transferCcc_written : Style.ccc.IsTransaction transfer transferCcc := by
  have houtPoint : ∀ index : Nat, Style.ccc.IsOutPoint ⟨[0x11, 0xaf], index⟩
      (.object [("txHash", .string "0x11AF"), ("index", .bigint index)]) :=
    fun index => ⟨⟨_, rfl, rfl⟩, _, rfl, rfl, rfl⟩
  refine ⟨⟨_, rfl, rfl, rfl⟩, ⟨_, rfl, .cons ⟨⟨_, rfl, houtPoint 1⟩, _, rfl, rfl⟩ .nil⟩,
    ⟨_, rfl, .cons rfl .nil⟩, ⟨_, rfl, .cons ⟨⟨_, rfl, houtPoint 2⟩, _, rfl, rfl, rfl⟩ .nil⟩,
    ⟨_, rfl, .cons ⟨⟨_, rfl, rfl, rfl⟩, ⟨_, rfl, ⟨_, rfl, rfl⟩, ⟨_, rfl, rfl⟩, _, rfl, rfl⟩, ?_⟩ .nil⟩,
    ⟨_, rfl, .cons rfl .nil⟩, ⟨_, rfl, .cons rfl .nil⟩⟩
  intro value hvalue
  rw [← Option.some.inj hvalue]
  rfl

theorem transferRpc_written : Style.rpc.IsTransaction transfer transferRpc := by
  refine ⟨⟨_, rfl, rfl, 0, rfl⟩,
    ⟨rfl, _, rfl,
      .cons ⟨⟨rfl, _, rfl, ⟨rfl, _, rfl, rfl⟩, _, rfl, rfl, 0, rfl⟩, rfl, _, rfl, rfl⟩ .nil⟩,
    ⟨rfl, _, rfl, .cons rfl .nil⟩,
    ⟨_, rfl,
      .cons ⟨⟨rfl, _, rfl, ⟨rfl, _, rfl, rfl⟩, _, rfl, rfl, 1, rfl⟩, _, rfl, rfl, 0, rfl⟩ .nil⟩,
    ⟨_, rfl, .cons ⟨⟨_, rfl, rfl, 0, rfl⟩,
      ⟨_, rfl, ⟨rfl, _, rfl, rfl⟩, ⟨rfl, _, rfl, rfl⟩, _, rfl, rfl⟩, ?_⟩ .nil⟩,
    ⟨rfl, _, rfl, .cons rfl .nil⟩, ⟨_, rfl, .cons rfl .nil⟩⟩
  intro value hvalue
  rw [← Option.some.inj hvalue]
  rfl

theorem canonicalText_canonical_transfer :
    (canonicalText transferCcc).isSome ∧ canonicalText transferCcc = canonicalText transferRpc :=
  have h := canonicalText_canonical transferCcc_written transferRpc_written
  ⟨h.1.mpr rfl, h.2.1 rfl⟩

/-- With an injective hash the fingerprints agree exactly where the transactions do. -/
theorem fingerprint_eq_iff {sha256 : String → String} (hsha : Function.Injective sha256)
    {style style' : Style} {tx tx' : Ckb.Transaction} {value value' : Value}
    (h : style.IsTransaction tx value) (h' : style'.IsTransaction tx' value')
    (hpaired : tx.outputs.length = tx.outputsData.length)
    (hpaired' : tx'.outputs.length = tx'.outputsData.length) :
    signedPayloadFingerprintSha256 sha256 value = signedPayloadFingerprintSha256 sha256 value' ↔
      tx = tx' := by
  rw [signedPayloadFingerprintSha256, signedPayloadFingerprintSha256, canonicalText_written h,
    canonicalText_written h', if_neg (not_not.mpr hpaired), if_neg (not_not.mpr hpaired')]
  constructor
  · intro heq
    have htext := Option.some.inj heq
    have hcanonical := hsha ((String.append_right_inj "0x").mp htext)
    exact Ckb.Transaction.canonical_inj (Json.stringify_injective hcanonical)
  · rintro rfl
    rfl

end CellFlow
