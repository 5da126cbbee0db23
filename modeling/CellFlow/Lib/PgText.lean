/-
# CellFlow.Lib.PgText — which strings and JSON values PostgreSQL stores.

A `text` column has no room for the character U+0000, and a `jsonb` column refuses a document in which
a string or a key has one.  `textStorable` and `Json.storable` are the two tests; the lemmas say what
they ask of a value that is read back, of a member and of an object spread.
-/
import CellFlow.Lib.Json

namespace Js

/-! ## Texts -/

/-- A `text` value: no character is U+0000. -/
def textStorable (s : String) : Bool := s.toList.all fun c => c ≠ Char.ofNat 0

/-- A nullable `text` value. -/
def textStorable? (s : Option String) : Bool := s.all textStorable

theorem textStorable_iff {s : String} :
    textStorable s = true ↔ ∀ c ∈ s.toList, c ≠ Char.ofNat 0 := by
  simp [textStorable]

@[simp] theorem textStorable?_none : textStorable? none = true := rfl

@[simp] theorem textStorable?_some (s : String) : textStorable? (some s) = textStorable s := rfl

/-- The first of two texts is stored where there is one. -/
theorem textStorable?_or {a b : Option String} (hb : textStorable? b = true) :
    textStorable? (a.or b) = true ↔ textStorable? a = true := by
  cases a with
  | none => simpa using hb
  | some s => rfl

/-! ## Documents -/

namespace Json

mutual

/-- A `jsonb` document: no string or key has the character U+0000. -/
def storable : Json → Bool
  | .null => true
  | .bool _ => true
  | .num _ => true
  | .str s => textStorable s
  | .arr items => storableItems items
  | .obj members => storableMembers members

/-- `storable` on the items of an array. -/
def storableItems : List Json → Bool
  | [] => true
  | j :: rest => storable j && storableItems rest

/-- `storable` on the members of an object, keys included. -/
def storableMembers : List (String × Json) → Bool
  | [] => true
  | (k, j) :: rest => textStorable k && storable j && storableMembers rest

end

/-- A nullable `jsonb` value. -/
def storable? (j : Option Json) : Bool := j.all storable

@[simp] theorem storable?_none : storable? none = true := rfl

@[simp] theorem storable?_some (j : Json) : storable? (some j) = j.storable := rfl

@[simp] theorem storable_null : Json.null.storable = true := rfl

@[simp] theorem storable_bool (b : Bool) : (Json.bool b).storable = true := rfl

@[simp] theorem storable_num (x : Number) : (Json.num x).storable = true := rfl

@[simp] theorem storable_int (n : Int) : (Json.int n).storable = true := rfl

@[simp] theorem storable_str (s : String) : (Json.str s).storable = textStorable s := by
  rw [storable]

@[simp] theorem storable_ofOption (s : Option String) :
    (Json.ofOption s).storable = textStorable? s := by
  cases s <;> simp [ofOption]

/-- An absent document is handed over as `null`. -/
theorem storable_getD (j : Option Json) : (j.getD .null).storable = storable? j := by
  cases j <;> rfl

theorem storableItems_iff {items : List Json} :
    storableItems items = true ↔ ∀ j ∈ items, j.storable = true := by
  induction items with
  | nil => simp [storableItems]
  | cons j rest ih => simp [storableItems, ih]

theorem storableMembers_iff {members : List (String × Json)} :
    storableMembers members = true ↔
      ∀ p ∈ members, textStorable p.1 = true ∧ p.2.storable = true := by
  induction members with
  | nil => simp [storableMembers]
  | cons p rest ih =>
      obtain ⟨k, j⟩ := p
      simp [storableMembers, ih, and_assoc]

theorem storable_obj {members : List (String × Json)} :
    (Json.obj members).storable = true ↔
      ∀ p ∈ members, textStorable p.1 = true ∧ p.2.storable = true := by
  rw [storable, storableMembers_iff]

/-- The members of any stored value are stored. -/
theorem storable_members {j : Json} (h : j.storable = true) :
    ∀ p ∈ j.members, textStorable p.1 = true ∧ p.2.storable = true := by
  cases j with
  | obj members => exact storable_obj.mp h
  | _ => simp [members]

/-- A member of a stored value is stored. -/
theorem storable_get? {j v : Json} {key : String} (h : j.storable = true)
    (hv : j.get? key = some v) : v.storable = true := by
  cases j with
  | obj members =>
      have hmem : (key, v) ∈ members := by
        change members.lookup key = some v at hv
        rw [List.lookup_eq_some_iff] at hv
        obtain ⟨front, rear, rfl, -⟩ := hv
        simp
      exact (storable_obj.mp h (key, v) hmem).2
  | _ => simp [get?] at hv

theorem storable_string? {j : Json} {key s : String} (h : j.storable = true)
    (hs : j.string? key = some s) : textStorable s = true := by
  rw [← storable_str]
  exact storable_get? h (string?_eq_some.mp hs)

/-- A member read with a fallback is stored where both are. -/
theorem storable_getD_key {j fallback : Json} {key : String} (h : j.storable = true)
    (hf : fallback.storable = true) : (j.getD key fallback).storable = true := by
  unfold getD
  split
  · exact hf
  next v _ hv => exact storable_get? h hv
  · exact hf

/-! ## Writing and reading back -/

theorem mem_insertMember {p q : String × Json} {l : List (String × Json)} :
    q ∈ insertMember p l ↔ q = p ∨ q ∈ l := by
  induction l with
  | nil => simp [insertMember]
  | cons r rest ih =>
      unfold insertMember
      split
      · simp
      · simp only [List.mem_cons, ih]
        tauto

mutual

/-- What a column returns is stored where the value written was. -/
theorem storable_jsonb : (j : Json) → j.jsonb.storable = j.storable
  | .arr items => by
      rw [jsonb, storable, storable, storableItems_jsonb items]
  | .obj members => by
      rw [jsonb, storable, storable, storableMembers_jsonb members]
  | .null => rfl
  | .bool _ => rfl
  | .num _ => rfl
  | .str s => by rw [jsonb]

theorem storableItems_jsonb : (items : List Json) →
    storableItems (jsonbItems items) = storableItems items
  | [] => by rw [jsonbItems]
  | j :: rest => by
      rw [jsonbItems, storableItems, storableItems, storable_jsonb j, storableItems_jsonb rest]

theorem storableMembers_jsonb : (members : List (String × Json)) →
    storableMembers (jsonbMembers members) = storableMembers members
  | [] => by rw [jsonbMembers]
  | (k, j) :: rest => by
      -- the insertion only moves the member
      have hrest := storableMembers_jsonb rest
      rw [jsonbMembers, storableMembers, ← hrest, ← storable_jsonb j, Bool.eq_iff_iff,
        Bool.and_eq_true, Bool.and_eq_true, storableMembers_iff, storableMembers_iff]
      simp only [mem_insertMember, forall_eq_or_imp]

end

/-- A nullable column returns what was written, or nothing. -/
theorem storable?_jsonb (j : Option Json) : storable? (j.map jsonb) = storable? j := by
  cases j with
  | none => rfl
  | some v => exact storable_jsonb v

/-! ## Object spreads -/

theorem mem_assign {key : String} {v : Json} {p : String × Json} {l : List (String × Json)}
    (h : p ∈ assign key v l) : p = (key, v) ∨ p ∈ l := by
  induction l with
  | nil => exact Or.inl (by simpa [assign] using h)
  | cons q rest ih =>
      obtain ⟨k, w⟩ := q
      unfold assign at h
      split at h
      next hk =>
        rcases List.mem_cons.mp h with rfl | hrest
        · exact Or.inl (by rw [hk])
        · exact Or.inr (List.mem_cons_of_mem _ hrest)
      · rcases List.mem_cons.mp h with rfl | hrest
        · exact Or.inr List.mem_cons_self
        · exact (ih hrest).imp_right (List.mem_cons_of_mem _)

theorem mem_assign_self (key : String) (v : Json) (l : List (String × Json)) :
    (key, v) ∈ assign key v l := by
  induction l with
  | nil => simp [assign]
  | cons q rest ih =>
      obtain ⟨k, w⟩ := q
      unfold assign
      split
      next hk =>
        rw [hk]
        exact List.mem_cons_self
      · exact List.mem_cons_of_mem _ ih

theorem mem_assign_of_ne {key : String} {v : Json} {p : String × Json} {l : List (String × Json)}
    (hp : p ∈ l) (hne : p.1 ≠ key) : p ∈ assign key v l := by
  induction l with
  | nil => cases hp
  | cons q rest ih =>
      obtain ⟨k, w⟩ := q
      unfold assign
      split
      next hk =>
        rcases List.mem_cons.mp hp with rfl | hrest
        · exact absurd hk hne
        · exact List.mem_cons_of_mem _ hrest
      · rcases List.mem_cons.mp hp with rfl | hrest
        · exact List.mem_cons_self
        · exact List.mem_cons_of_mem _ (ih hrest)

/-- A spread keeps the members its updates do not name. -/
theorem mem_spread_base {base updates : List (String × Json)} {p : String × Json} (hp : p ∈ base)
    (hne : ∀ u ∈ updates, p.1 ≠ u.1) : p ∈ (spread base updates).members := by
  show p ∈ updates.foldl (fun acc u => assign u.1 u.2 acc) base
  induction updates generalizing base with
  | nil => exact hp
  | cons u rest ih =>
      exact ih (mem_assign_of_ne hp (hne u List.mem_cons_self)) fun v hv =>
        hne v (List.mem_cons_of_mem _ hv)

/-- Updates of different keys all stand in the spread. -/
theorem mem_spread_update {base updates : List (String × Json)} {p : String × Json}
    (hkeys : (updates.map Prod.fst).Nodup) (hp : p ∈ updates) :
    p ∈ (spread base updates).members := by
  show p ∈ updates.foldl (fun acc u => assign u.1 u.2 acc) base
  induction updates generalizing base with
  | nil => cases hp
  | cons u rest ih =>
      obtain ⟨hu, hrest⟩ := List.nodup_cons.mp hkeys
      rcases List.mem_cons.mp hp with rfl | hp
      · refine mem_spread_base (mem_assign_self p.1 p.2 base) fun v hv => ?_
        rintro heq
        exact hu (heq ▸ List.mem_map_of_mem hv)
      · exact ih hrest hp

/-- A spread of stored members with stored updates is stored. -/
theorem storable_spread {base updates : List (String × Json)}
    (hbase : ∀ p ∈ base, textStorable p.1 = true ∧ p.2.storable = true)
    (hupdates : ∀ p ∈ updates, textStorable p.1 = true ∧ p.2.storable = true) :
    (spread base updates).storable = true := by
  rw [spread, storable_obj]
  induction updates generalizing base with
  | nil => exact hbase
  | cons u rest ih =>
      rw [List.foldl_cons]
      refine ih (fun p hp => ?_) fun p hp => hupdates p (List.mem_cons_of_mem _ hp)
      rcases mem_assign hp with rfl | hp
      · exact hupdates u List.mem_cons_self
      · exact hbase p hp

end Json

end Js
