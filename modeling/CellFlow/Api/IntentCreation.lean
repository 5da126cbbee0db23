/-
# CellFlow.Api.IntentCreation — creating an intent twice (`service.createIntent`).

The intents of all projects are rows keyed by project and `intentId`; an insert that finds its key
taken changes nothing.  The service then compares what is stored with what was asked for, by the text
`stable` prints.  The locale's comparison of keys is a parameter.
-/
import CellFlow.Core.Validation
import CellFlow.Lib.JsonEquality

namespace CellFlow

open Js (Json)

/-! ## stable -/

section Stable

variable (localeCompare : String → String → Ordering)

/-- `texts.join(",")`. -/
def joinComma : List (List Char) → List Char
  | [] => []
  | [text] => text
  | text :: rest => text ++ ',' :: joinComma rest

mutual

/-- The characters of `stable(value)`.  The sort reads the keys alone, so each value is printed
before its key is put in place. -/
def stableChars : Json → List Char
  | .arr items => '[' :: (joinComma (stableItems items) ++ [']'])
  | .obj members =>
      '\x7b' :: (joinComma ((StableSort.sortByKey localeCompare (stableMembers members)).map
        fun p => Json.quote p.1 ++ ':' :: p.2) ++ ['\x7d'])
  | .null => Json.render .null
  | .bool b => Json.render (.bool b)
  | .num x => Json.render (.num x)
  | .str s => Json.render (.str s)

/-- The text of each item. -/
def stableItems : List Json → List (List Char)
  | [] => []
  | j :: rest => stableChars j :: stableItems rest

/-- Each key with the text of its value. -/
def stableMembers : List (String × Json) → List (String × List Char)
  | [] => []
  | (k, j) :: rest => (k, stableChars j) :: stableMembers rest

end

/-- `stable`: the JSON text with the keys of every object sorted by `localeCompare`. -/
def stable (j : Json) : String := String.ofList (stableChars localeCompare j)

/-! ## The requests -/

/-- The body of a create request, whose objects repeat no key. -/
structure CreateIntentInput where
  projectId : String
  intentId : String
  metadata : Json
  expectedCells : Json
  keyed : metadata.Keyed ∧ expectedCells.Keyed

/-- The columns of an intent that creation writes, as the driver reads them. -/
structure IntentColumns where
  projectId : String
  intentId : String
  metadata : Json
  expectedCells : Json

namespace IntentCreation

/-- `/^[A-Za-z0-9][A-Za-z0-9._:-]{0,127}$/` on the trimmed text. -/
def normalizeIntentId (value : String) : Except CellFlowError String :=
  let normalized := trim value
  match normalized.toList with
  | first :: rest =>
      if first.isAlphanum ∧ rest.length ≤ 127 ∧
          rest.all fun c => c.isAlphanum || ['.', '_', ':', '-'].contains c then
        .ok normalized
      else .error ⟨.intentConflict,
        "intentId must be 1-128 characters using letters, numbers, . _ : or -", 400⟩
  | [] => .error ⟨.intentConflict,
      "intentId must be 1-128 characters using letters, numbers, . _ : or -", 400⟩

/-- The row of an intent. -/
def findIntent (projectId intentId : String) (rows : List IntentColumns) : Option IntentColumns :=
  rows.find? fun row => row.projectId = projectId && row.intentId = intentId

/-- `repository.createIntent`: the row of the key, whether it is new, and the rows after. -/
def createIntent (input : CreateIntentInput) (intentId : String) (rows : List IntentColumns) :
    IntentColumns × Bool × List IntentColumns :=
  match findIntent input.projectId intentId rows with
  | some row => (row, false, rows)
  | none =>
      let row :=
        { projectId := input.projectId
          intentId := intentId
          metadata := input.metadata.readBack
          expectedCells := input.expectedCells.readBack }
      (row, true, rows ++ [row])

/-- The error of a create call whose intent exists with another content. -/
def intentDiffers : CellFlowError :=
  ⟨.intentConflict,
    "The same intentId already exists with different metadata or expected Cell assertions", 409⟩

/-- `service.createIntent`: the row it answers with, whether it is new, and the rows after. -/
def serviceCreateIntent (input : CreateIntentInput) (rows : List IntentColumns) :
    Except CellFlowError (IntentColumns × Bool × List IntentColumns) :=
  match normalizeIntentId input.intentId with
  | .error e => .error e
  | .ok intentId =>
      let (row, created, after) := createIntent input intentId rows
      if created = false ∧
          (stable localeCompare row.metadata ≠ stable localeCompare input.metadata ∨
            stable localeCompare row.expectedCells ≠ stable localeCompare input.expectedCells) then
        .error intentDiffers
      else .ok (row, created, after)

/-- The rows a request leaves, answered or refused. -/
def rowsAfter (rows : List IntentColumns) (input : CreateIntentInput) : List IntentColumns :=
  match serviceCreateIntent localeCompare input rows with
  | .ok (_, _, after) => after
  | .error _ => rows

end IntentCreation

/-! ## The text of `stable` is the text of the sorted value -/

theorem renderItems_eq_join (items : List Json) :
    Json.renderItems items true = joinComma (items.map Json.render) ++ [']'] := by
  have hrest : ∀ items : List Json, items ≠ [] →
      Json.renderItems items false = ',' :: (joinComma (items.map Json.render) ++ [']']) := by
    intro items
    induction items with
    | nil => exact fun h => absurd rfl h
    | cons j rest ih =>
        intro _
        cases rest with
        | nil => simp [Json.renderItems, joinComma]
        | cons j' rest' =>
            rw [Json.renderItems, ih (by simp)]
            simp [joinComma]
  cases items with
  | nil => rfl
  | cons j rest =>
      cases rest with
      | nil => simp [Json.renderItems, joinComma]
      | cons j' rest' =>
          rw [Json.renderItems, hrest _ (by simp)]
          simp [joinComma]

/-- One member as it is printed. -/
def memberText (p : String × List Char) : List Char := Json.quote p.1 ++ ':' :: p.2

theorem renderMembers_eq_join (members : List (String × Json)) :
    Json.renderMembers members true =
      joinComma (members.map fun p => memberText (p.1, p.2.render)) ++ ['\x7d'] := by
  have hrest : ∀ members : List (String × Json), members ≠ [] →
      Json.renderMembers members false =
        ',' :: (joinComma (members.map fun p => memberText (p.1, p.2.render)) ++ ['\x7d']) := by
    intro members
    induction members with
    | nil => exact fun h => absurd rfl h
    | cons p rest ih =>
        intro _
        obtain ⟨k, j⟩ := p
        cases rest with
        | nil => simp [Json.renderMembers, joinComma, memberText]
        | cons p' rest' =>
            rw [Json.renderMembers, ih (by simp)]
            simp [joinComma, memberText]
  cases members with
  | nil => rfl
  | cons p rest =>
      obtain ⟨k, j⟩ := p
      cases rest with
      | nil => simp [Json.renderMembers, joinComma, memberText]
      | cons p' rest' =>
          rw [Json.renderMembers, hrest _ (by simp)]
          simp [joinComma, memberText]

/-- The sort reads the keys alone. -/
theorem sortByKey_map {α β : Type} (f : α → β) (l : List (String × α)) :
    StableSort.sortByKey localeCompare (l.map fun p => (p.1, f p.2)) =
      (StableSort.sortByKey localeCompare l).map fun p => (p.1, f p.2) := by
  have hmap := List.map_insertionSort (StableSort.KeyLe localeCompare)
    (StableSort.KeyLe localeCompare) (fun p : String × α => (p.1, f p.2)) l fun _ _ _ _ => Iff.rfl
  exact hmap.symm

mutual

theorem stableChars_eq (j : Json) :
    stableChars localeCompare j = (Json.sorted localeCompare j).render := by
  match j with
  | .null => rfl
  | .bool _ => rfl
  | .num _ => rfl
  | .str _ => rfl
  | .arr items =>
      rw [stableChars, Json.sorted, Json.render, renderItems_eq_join, stableItems_eq]
  | .obj members =>
      rw [stableChars, Json.sorted, Json.render, renderMembers_eq_join, stableMembers_eq,
        sortByKey_map, List.map_map]
      rfl

theorem stableItems_eq (items : List Json) :
    stableItems localeCompare items = (Json.sortedItems localeCompare items).map Json.render := by
  match items with
  | [] => rfl
  | j :: rest =>
      rw [stableItems, Json.sortedItems, List.map_cons, stableChars_eq j, stableItems_eq rest]

theorem stableMembers_eq (members : List (String × Json)) :
    stableMembers localeCompare members =
      (Json.sortedMembers localeCompare members).map fun p => (p.1, p.2.render) := by
  match members with
  | [] => rfl
  | (k, j) :: rest =>
      rw [stableMembers, Json.sortedMembers, List.map_cons, stableChars_eq j, stableMembers_eq rest]

end

/-- Two texts of `stable` are equal where the sorted values are. -/
theorem stable_inj {a b : Json} :
    stable localeCompare a = stable localeCompare b ↔
      Json.sorted localeCompare a = Json.sorted localeCompare b := by
  rw [stable, stable, stableChars_eq, stableChars_eq]
  constructor
  · exact Json.stringify_injective
  · intro h
    rw [h]

/-- **The text `stable` prints** is equal for two values exactly where they are the same and keys
that compare equal stand in the same order. -/
theorem stable_eq_iff [Std.TransCmp localeCompare] {a b : Json} (ha : a.Keyed) (hb : b.Keyed) :
    stable localeCompare a = stable localeCompare b ↔
      Json.Same a b ∧ Json.SameTies localeCompare a b := by
  rw [← Json.sorted_eq_iff localeCompare ha hb, stable_inj]

end Stable

end CellFlow
