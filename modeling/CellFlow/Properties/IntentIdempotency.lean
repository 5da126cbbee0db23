/-
# CellFlow.Properties.IntentIdempotency — a repeated create request finds its intent.

The row an intent was created with never changes (`findIntent_kept`), so a later request under the
same key is compared with the first one as `jsonb` returns it.  That comparison is equality of values
but for one thing: keys that `localeCompare` calls equal keep the order in which they came.
-/
import CellFlow.Api.IntentCreation

namespace CellFlow

open Js (Json)

namespace IntentCreation

section Requests

variable {localeCompare : String → String → Ordering} {rows : List IntentColumns}

/-! ## The row of a key -/

/-- No request changes a row that is there. -/
theorem findIntent_rowsAfter {projectId intentId : String} {row : IntentColumns}
    (h : findIntent projectId intentId rows = some row) (input : CreateIntentInput) :
    findIntent projectId intentId (rowsAfter localeCompare rows input) = some row := by
  have hcreated : ∀ key, findIntent projectId intentId
      (createIntent input key rows).2.2 = some row := by
    intro key
    unfold createIntent
    split
    · exact h
    · show findIntent projectId intentId (rows ++ [_]) = some row
      rw [findIntent, List.find?_append]
      rw [findIntent] at h
      rw [h]
      rfl
  unfold rowsAfter serviceCreateIntent
  split
  next answer hanswer =>
    split at hanswer
    · cases hanswer
    next key _ =>
      simp only at hanswer
      split at hanswer
      · cases hanswer
      · cases hanswer
        exact hcreated key
  next => exact h

/-- Nor does any sequence of requests. -/
theorem findIntent_kept {projectId intentId : String} {row : IntentColumns}
    (h : findIntent projectId intentId rows = some row) (others : List CreateIntentInput) :
    findIntent projectId intentId (others.foldl (rowsAfter localeCompare) rows) = some row := by
  induction others generalizing rows with
  | nil => exact h
  | cons input others ih =>
      rw [List.foldl_cons]
      exact ih (findIntent_rowsAfter h input)

/-- A request that created its intent left the row of its key: its body as `jsonb` returns it. -/
theorem serviceCreateIntent_created {input : CreateIntentInput} {row : IntentColumns}
    {after : List IntentColumns}
    (h : serviceCreateIntent localeCompare input rows = .ok (row, true, after)) :
    ∃ key, normalizeIntentId input.intentId = .ok key ∧
      findIntent input.projectId key after = some row ∧
      row.metadata = input.metadata.readBack ∧ row.expectedCells = input.expectedCells.readBack := by
  unfold serviceCreateIntent at h
  split at h
  · cases h
  next key hkey =>
    simp only at h
    split at h
    · cases h
    · have hcreate := Except.ok.inj h
      refine ⟨key, hkey, ?_⟩
      unfold createIntent at hcreate
      split at hcreate
      · cases hcreate
      next hnone =>
        simp only [Prod.mk.injEq, true_and] at hcreate
        obtain ⟨rfl, rfl⟩ := hcreate
        refine ⟨?_, rfl, rfl⟩
        rw [findIntent] at hnone
        rw [findIntent, List.find?_append, hnone]
        simp

/-- A request under a key that is taken: the row is there, and the texts decide. -/
theorem serviceCreateIntent_taken {input : CreateIntentInput} {key : String} {row : IntentColumns}
    (hkey : normalizeIntentId input.intentId = .ok key)
    (h : findIntent input.projectId key rows = some row) :
    serviceCreateIntent localeCompare input rows =
      if stable localeCompare row.metadata = stable localeCompare input.metadata ∧
          stable localeCompare row.expectedCells = stable localeCompare input.expectedCells then
        .ok (row, false, rows)
      else .error intentDiffers := by
  unfold serviceCreateIntent createIntent
  simp only [hkey, h, true_and]
  by_cases hmetadata : stable localeCompare row.metadata = stable localeCompare input.metadata
  · by_cases hcells : stable localeCompare row.expectedCells =
        stable localeCompare input.expectedCells
    · simp [hmetadata, hcells]
    · simp [hmetadata, hcells]
  · simp [hmetadata]

/-! ## The repeated request -/

/-- The two requests ask for the same, as JSON values. -/
def SameBody (first second : CreateIntentInput) : Prop :=
  Json.Same first.metadata second.metadata ∧ Json.Same first.expectedCells second.expectedCells

/-- Keys that compare equal stand in the repeated request as they come back from the column. -/
def SameBodyTies (localeCompare : String → String → Ordering) (first second : CreateIntentInput) :
    Prop :=
  Json.SameTies localeCompare first.metadata.readBack second.metadata ∧
    Json.SameTies localeCompare first.expectedCells.readBack second.expectedCells

/-- A stored value has the text of a requested one where the two are the same and their ties are. -/
theorem stable_readBack_iff [Std.TransCmp localeCompare] {a b : Json} (ha : a.Keyed)
    (hb : b.Keyed) :
    stable localeCompare a.readBack = stable localeCompare b ↔
      Json.Same a b ∧ Json.SameTies localeCompare a.readBack b := by
  obtain ⟨hsame, hkeyed⟩ := Json.same_readBack ha
  rw [stable_eq_iff localeCompare hkeyed hb, Json.same_congr ha hkeyed hb hsame]

end Requests

/-! ## Keys that compare equal -/

section Runs

/-- A comparison that ignores soft hyphens, as collations do. -/
def ignoreSoftHyphens : String → String → Ordering :=
  compareOn fun s => s.toList.filter fun c => c.toNat ≠ 0xad

instance : Std.TransCmp ignoreSoftHyphens := inferInstanceAs (Std.TransCmp (compareOn _))

/-- A request whose metadata has one member under each of two keys. -/
def twoKeys (first second : String) (h : first ≠ second) : CreateIntentInput where
  projectId := "project-1"
  intentId := "order-1"
  metadata := .obj [(first, .int 1), (second, .int 2)]
  expectedCells := .arr []
  keyed := by simp [Json.Keyed, Json.KeyedMembers, Json.KeyedItems, Json.int, h]

/-- The row such a request creates. -/
def twoKeysRow (input : CreateIntentInput) : IntentColumns :=
  ⟨"project-1", "order-1", input.metadata.readBack, input.expectedCells.readBack⟩

theorem sameBody_refl (input : CreateIntentInput) : SameBody input input :=
  ⟨(Json.same_iff_sorted input.keyed.1 input.keyed.1).mpr rfl,
    (Json.same_iff_sorted input.keyed.2 input.keyed.2).mpr rfl⟩

/-- Metadata of two words that every comparison tells apart. -/
def words : CreateIntentInput := twoKeys "memo" "tag" (by decide)

/-- Metadata of two keys that differ by a soft hyphen. -/
def hyphened : CreateIntentInput := twoKeys "a\u00ad" "a" (by decide)

end Runs

end IntentCreation

end CellFlow
