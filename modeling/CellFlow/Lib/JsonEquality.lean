/-
# CellFlow.Lib.JsonEquality — equality of JSON values up to the order of object keys.

`Same` ignores the order of the members of an object at any depth.  A program that compares values
by a text with sorted keys compares `sorted` values instead: these are equal exactly where the values
are the same and keys its comparison cannot tell apart stand in the same order (`sorted_eq_iff`).
The round trip through a `jsonb` column, read back by `JSON.parse`, gives the same value
(`same_readBack`).
-/
import CellFlow.Lib.JsonText
import CellFlow.Lib.StableSort
import CellFlow.Lib.Value
import Mathlib.Data.String.Basic

namespace Js

namespace Json

open StableSort (sortByKey TiesKept)

/-! ## Values of objects with distinct keys -/

mutual

/-- No object repeats a key. -/
def Keyed : Json → Prop
  | .arr items => KeyedItems items
  | .obj members => (members.map Prod.fst).Nodup ∧ KeyedMembers members
  | .null | .bool _ | .num _ | .str _ => True

/-- No object in the items repeats a key. -/
def KeyedItems : List Json → Prop
  | [] => True
  | j :: rest => Keyed j ∧ KeyedItems rest

/-- No object in the values of the members repeats a key. -/
def KeyedMembers : List (String × Json) → Prop
  | [] => True
  | (_, j) :: rest => Keyed j ∧ KeyedMembers rest

end

mutual

/-- Equality of values: the items of arrays in order, the members of objects by their keys. -/
def Same : Json → Json → Prop
  | .null, .null => True
  | .bool b, .bool b' => b = b'
  | .num x, .num x' => x = x'
  | .str s, .str s' => s = s'
  | .arr items, .arr items' => SameItems items items'
  | .obj members, .obj members' => members.length = members'.length ∧ SameMembers members members'
  | _, _ => False

/-- Equality item by item. -/
def SameItems : List Json → List Json → Prop
  | [], [] => True
  | j :: rest, j' :: rest' => Same j j' ∧ SameItems rest rest'
  | _, _ => False

/-- Every member has an equal one under its key. -/
def SameMembers : List (String × Json) → List (String × Json) → Prop
  | [], _ => True
  | (k, j) :: rest, members => (∃ v, members.lookup k = some v ∧ Same j v) ∧ SameMembers rest members

end

section Sorted

variable (cmp : String → String → Ordering)

mutual

/-- In objects under the same path, keys that compare equal stand in the same order. -/
def SameTies : Json → Json → Prop
  | .arr items, .arr items' => SameTiesItems items items'
  | .obj members, .obj members' =>
      TiesKept cmp (members.map Prod.fst) (members'.map Prod.fst) ∧ SameTiesMembers members members'
  | _, _ => True

/-- The ties agree item by item. -/
def SameTiesItems : List Json → List Json → Prop
  | j :: rest, j' :: rest' => SameTies j j' ∧ SameTiesItems rest rest'
  | _, _ => True

/-- The ties agree in the values under each key of both. -/
def SameTiesMembers : List (String × Json) → List (String × Json) → Prop
  | [], _ => True
  | (k, j) :: rest, members =>
      (∀ v, members.lookup k = some v → SameTies j v) ∧ SameTiesMembers rest members

end

mutual

/-- The value with the keys of every object sorted. -/
def sorted : Json → Json
  | .arr items => .arr (sortedItems items)
  | .obj members => .obj (sortByKey cmp (sortedMembers members))
  | .null => .null
  | .bool b => .bool b
  | .num x => .num x
  | .str s => .str s

/-- The items of an array, each sorted. -/
def sortedItems : List Json → List Json
  | [] => []
  | j :: rest => sorted j :: sortedItems rest

/-- The members of an object, each value sorted. -/
def sortedMembers : List (String × Json) → List (String × Json)
  | [] => []
  | (k, j) :: rest => (k, sorted j) :: sortedMembers rest

end

/-! ## Members by their keys -/

theorem keys_sortedMembers (members : List (String × Json)) :
    (sortedMembers cmp members).map Prod.fst = members.map Prod.fst := by
  induction members with
  | nil => rfl
  | cons p rest ih =>
      obtain ⟨k, j⟩ := p
      rw [sortedMembers, List.map_cons, List.map_cons, ih]

theorem lookup_sortedMembers (k : String) (members : List (String × Json)) :
    (sortedMembers cmp members).lookup k = (members.lookup k).map (sorted cmp) := by
  induction members with
  | nil => rfl
  | cons p rest ih =>
      obtain ⟨k', j⟩ := p
      rw [sortedMembers, List.lookup_cons, List.lookup_cons, ih]
      split <;> rfl

/-- A member found under a key is a value of the object. -/
theorem keyed_of_lookup {members : List (String × Json)} (h : KeyedMembers members) {k : String}
    {v : Json} (hv : members.lookup k = some v) : v.Keyed := by
  induction members with
  | nil => cases hv
  | cons p rest ih =>
      obtain ⟨k', j⟩ := p
      rw [List.lookup_cons] at hv
      split at hv
      · rw [← Option.some.inj hv]
        exact h.1
      · exact ih h.2 hv

/-- With distinct keys, a member is what its key finds. -/
theorem lookup_of_mem {α : Type} {l : List (String × α)} (hl : (l.map Prod.fst).Nodup)
    {p : String × α} : p ∈ l ↔ l.lookup p.1 = some p.2 := by
  induction l with
  | nil => simp
  | cons q rest ih =>
      obtain ⟨k, a⟩ := q
      rw [List.map_cons, List.nodup_cons] at hl
      rw [List.mem_cons, List.lookup_cons]
      by_cases hk : p.1 = k
      · have hb : (p.1 == k) = true := beq_iff_eq.mpr hk
        have hfresh : p ∉ rest := by
          intro hp
          have hkey : p.1 ∈ rest.map Prod.fst := List.mem_map_of_mem hp
          exact hl.1 (hk ▸ hkey)
        rw [hb]
        simp only [hfresh, or_false, Option.some.injEq]
        constructor
        · rintro rfl
          rfl
        · intro ha
          exact Prod.ext hk ha.symm
      · have hb : (p.1 == k) = false := beq_eq_false_iff_ne.mpr hk
        rw [hb, ih hl.2]
        constructor
        · rintro (rfl | h)
          · exact absurd rfl hk
          · exact h
        · exact Or.inr

/-- Lists of distinct members are permutations where one holds the other and is no longer. -/
theorem perm_iff {α : Type} {l l' : List (String × α)} (hl : (l.map Prod.fst).Nodup)
    (hl' : (l'.map Prod.fst).Nodup) :
    l.Perm l' ↔ l.length = l'.length ∧ ∀ p ∈ l, l'.lookup p.1 = some p.2 := by
  constructor
  · intro h
    exact ⟨h.length_eq, fun p hp => (lookup_of_mem hl').mp (h.mem_iff.mp hp)⟩
  · rintro ⟨hlength, hmem⟩
    have hsub : l ⊆ l' := fun p hp => (lookup_of_mem hl').mpr (hmem p hp)
    exact (List.subperm_of_subset (List.Nodup.of_map _ hl) hsub).perm_of_length_le hlength.ge

/-- A permutation of distinct members finds the same under every key. -/
theorem lookup_perm {α : Type} {l l' : List (String × α)} (hl : (l.map Prod.fst).Nodup)
    (h : l.Perm l') (k : String) : l.lookup k = l'.lookup k := by
  have hl' : (l'.map Prod.fst).Nodup := (h.map Prod.fst).nodup_iff.mp hl
  apply Option.ext
  intro a
  exact (lookup_of_mem hl (p := (k, a))).symm.trans
    (h.mem_iff.trans (lookup_of_mem hl' (p := (k, a))))

/-- Objects with equal sorted values find equal sorted values under every key. -/
theorem lookup_sorted {members members' : List (String × Json)}
    (hkeys : (members.map Prod.fst).Nodup)
    (h : sorted cmp (.obj members) = sorted cmp (.obj members')) (k : String) :
    (members.lookup k).map (sorted cmp) = (members'.lookup k).map (sorted cmp) := by
  rw [sorted, sorted, Json.obj.injEq] at h
  have hperm : (sortedMembers cmp members).Perm (sortedMembers cmp members') := by
    have hleft := List.perm_insertionSort (StableSort.KeyLe cmp) (sortedMembers cmp members)
    have hright := List.perm_insertionSort (StableSort.KeyLe cmp) (sortedMembers cmp members')
    rw [sortByKey, sortByKey] at h
    exact hleft.symm.trans (h ▸ hright)
  rw [← lookup_sortedMembers, ← lookup_sortedMembers]
  refine lookup_perm ?_ hperm k
  rw [keys_sortedMembers]
  exact hkeys

theorem kind_sorted (j : Json) : (sorted cmp j).kind = j.kind := by
  cases j with
  | bool b => cases b <;> simp [sorted, kind]
  | null | num x | str s | arr items | obj members => simp [sorted, kind]

theorem kind_eq_of_same {a b : Json} (h : Same a b) : a.kind = b.kind := by
  cases a with
  | bool x =>
      cases b with
      | bool y =>
          rw [Same] at h
          rw [h]
      | null | num | str | arr | obj => simp [Same] at h
  | null | num | str | arr | obj => cases b <;> first | rfl | simp [Same] at h

/-! ## The sorted value -/

mutual

/-- **Sorted values are equal** exactly where the values are the same and their ties stand in the
same order. -/
theorem sorted_eq_iff [Std.TransCmp cmp] {a b : Json} (ha : a.Keyed) (hb : b.Keyed) :
    sorted cmp a = sorted cmp b ↔ Same a b ∧ SameTies cmp a b := by
  by_cases hkind : a.kind = b.kind
  swap
  · refine iff_of_false (fun h => hkind ?_) fun h => hkind (kind_eq_of_same h.1)
    rw [← kind_sorted cmp a, h, kind_sorted]
  match a, b with
  | .null, .null => simp [sorted, Same, SameTies]
  | .bool true, .bool true => simp [sorted, Same, SameTies]
  | .bool false, .bool false => simp [sorted, Same, SameTies]
  | .num x, .num x' => simp [sorted, Same, SameTies]
  | .str s, .str s' => simp [sorted, Same, SameTies]
  | .arr items, .arr items' =>
      rw [sorted, sorted, Json.arr.injEq, Same, SameTies]
      exact sortedItems_eq_iff ha hb
  | .obj members, .obj members' =>
      have hkeys : ((sortedMembers cmp members).map Prod.fst).Nodup := by
        rw [keys_sortedMembers]
        exact ha.1
      have hkeys' : ((sortedMembers cmp members').map Prod.fst).Nodup := by
        rw [keys_sortedMembers]
        exact hb.1
      have hlength : ∀ m, (sortedMembers cmp m).length = m.length := by
        intro m
        have hmap := congrArg List.length (keys_sortedMembers cmp m)
        rwa [List.length_map, List.length_map] at hmap
      rw [sorted, sorted, Json.obj.injEq, Same, SameTies,
        StableSort.sortByKey_eq_iff cmp hkeys hkeys', perm_iff hkeys hkeys', hlength, hlength,
        sortedMembers_found_iff ha.2 hb.2, keys_sortedMembers, keys_sortedMembers]
      constructor
      · rintro ⟨⟨hlen, hsame, hbelow⟩, hties⟩
        exact ⟨⟨hlen, hsame⟩, hties, hbelow⟩
      · rintro ⟨⟨hlen, hsame⟩, hties, hbelow⟩
        exact ⟨⟨hlen, hsame, hbelow⟩, hties⟩

theorem sortedItems_eq_iff [Std.TransCmp cmp] {items items' : List Json} (h : KeyedItems items)
    (h' : KeyedItems items') :
    sortedItems cmp items = sortedItems cmp items' ↔
      SameItems items items' ∧ SameTiesItems cmp items items' := by
  match items, items' with
  | [], [] => simp [sortedItems, SameItems, SameTiesItems]
  | [], j :: rest => simp [sortedItems, SameItems]
  | j :: rest, [] => simp [sortedItems, SameItems]
  | j :: rest, j' :: rest' =>
      rw [sortedItems, sortedItems, List.cons.injEq, sorted_eq_iff h.1 h'.1,
        sortedItems_eq_iff h.2 h'.2, SameItems, SameTiesItems]
      exact and_and_and_comm

/-- Member by member, by the keys of the first object. -/
theorem sortedMembers_found_iff [Std.TransCmp cmp] {members members' : List (String × Json)}
    (h : KeyedMembers members) (h' : KeyedMembers members') :
    (∀ p ∈ sortedMembers cmp members, (sortedMembers cmp members').lookup p.1 = some p.2) ↔
      SameMembers members members' ∧ SameTiesMembers cmp members members' := by
  match members with
  | [] => simp [sortedMembers, SameMembers, SameTiesMembers]
  | (k, j) :: rest =>
      rw [sortedMembers, List.forall_mem_cons, sortedMembers_found_iff h.2 h', SameMembers,
        SameTiesMembers, lookup_sortedMembers]
      have hone : (members'.lookup k).map (sorted cmp) = some (sorted cmp j) ↔
          (∃ v, members'.lookup k = some v ∧ Same j v) ∧
            ∀ v, members'.lookup k = some v → SameTies cmp j v := by
        cases hv : members'.lookup k with
        | none => simp
        | some v =>
            have hsorted := sorted_eq_iff h.1 (keyed_of_lookup h' hv)
            simp only [Option.map_some, Option.some.injEq, exists_eq_left', forall_eq']
            rw [eq_comm, hsorted]
      rw [hone]
      exact and_and_and_comm

end

mutual

/-- A comparison that tells all keys apart leaves no ties. -/
theorem sameTies_of_lawful [Std.LawfulEqCmp cmp] {a b : Json} (ha : a.Keyed) : SameTies cmp a b := by
  match a, b with
  | .arr items, .arr items' =>
      rw [SameTies]
      exact sameTiesItems_of_lawful ha
  | .obj members, .obj members' =>
      rw [SameTies]
      refine ⟨?_, sameTiesMembers_of_lawful ha.2⟩
      intro k k' htie hpair
      have hsame : k = k' := Std.LawfulEqCmp.eq_of_compare htie
      subst hsame
      exact absurd (hpair.nodup ha.1) (by simp)
  | .arr _, .null | .arr _, .bool _ | .arr _, .num _ | .arr _, .str _ | .arr _, .obj _ =>
      simp [SameTies]
  | .obj _, .null | .obj _, .bool _ | .obj _, .num _ | .obj _, .str _ | .obj _, .arr _ =>
      simp [SameTies]
  | .null, _ | .bool _, _ | .num _, _ | .str _, _ => simp [SameTies]

theorem sameTiesItems_of_lawful [Std.LawfulEqCmp cmp] {items items' : List Json}
    (h : KeyedItems items) : SameTiesItems cmp items items' := by
  match items, items' with
  | [], _ => simp [SameTiesItems]
  | _ :: _, [] => simp [SameTiesItems]
  | j :: rest, j' :: rest' => exact ⟨sameTies_of_lawful h.1, sameTiesItems_of_lawful h.2⟩

theorem sameTiesMembers_of_lawful [Std.LawfulEqCmp cmp] {members members' : List (String × Json)}
    (h : KeyedMembers members) : SameTiesMembers cmp members members' := by
  match members with
  | [] => simp [SameTiesMembers]
  | (k, j) :: rest =>
      exact ⟨fun _ _ => sameTies_of_lawful h.1, sameTiesMembers_of_lawful h.2⟩

end

end Sorted

/-- Values are the same where their sorted forms are, under any order that tells keys apart. -/
theorem same_iff_sorted {a b : Json} (ha : a.Keyed) (hb : b.Keyed) :
    Same a b ↔ sorted compare a = sorted compare b := by
  rw [sorted_eq_iff compare ha hb]
  exact ⟨fun h => ⟨h, sameTies_of_lawful compare ha⟩, And.left⟩

theorem same_congr {a a' b : Json} (ha : a.Keyed) (ha' : a'.Keyed) (hb : b.Keyed)
    (h : Same a a') : Same a' b ↔ Same a b := by
  rw [same_iff_sorted ha ha'] at h
  rw [same_iff_sorted ha' hb, same_iff_sorted ha hb, h]

/-! ## The round trip through the database -/

/-- The index of an array index key: a canonical numeral below `2 ** 32 - 1`. -/
def arrayIndex? (key : String) : Option Nat :=
  match readNat 10 key.toList with
  | some n => if toString n = key ∧ n < 4294967295 then some n else none
  | none => none

/-- The key of the member is an array index. -/
def isIndexed (p : String × Json) : Bool := (arrayIndex? p.1).isSome

/-- Members in the order of their array indices. -/
def IndexLe (p q : String × Json) : Prop := (arrayIndex? p.1).getD 0 ≤ (arrayIndex? q.1).getD 0

instance : DecidableRel IndexLe := fun _ _ => inferInstanceAs (Decidable (_ ≤ _))

/-- The order in which the members of an object enumerate that was built in the given order: array
indices first, by their value. -/
def enumerate (members : List (String × Json)) : List (String × Json) :=
  (members.filter isIndexed).insertionSort IndexLe ++ members.filter fun p => !isIndexed p

mutual

/-- The value `JSON.parse` makes of a text whose members stand in the given order. -/
def parsed : Json → Json
  | .arr items => .arr (parsedItems items)
  | .obj members => .obj (enumerate (parsedMembers members))
  | .null => .null
  | .bool b => .bool b
  | .num x => .num x
  | .str s => .str s

/-- The items of an array, each as `JSON.parse` makes it. -/
def parsedItems : List Json → List Json
  | [] => []
  | j :: rest => parsed j :: parsedItems rest

/-- The members of an object, each value as `JSON.parse` makes it. -/
def parsedMembers : List (String × Json) → List (String × Json)
  | [] => []
  | (k, j) :: rest => (k, parsed j) :: parsedMembers rest

end

/-- A value stored in a `jsonb` column and read back. -/
def readBack (j : Json) : Json := parsed (jsonb j)

theorem enumerate_perm (members : List (String × Json)) : (enumerate members).Perm members := by
  have hindices := List.perm_insertionSort IndexLe (members.filter isIndexed)
  exact (hindices.append_right _).trans (List.filter_append_perm isIndexed members)

theorem insertMember_perm (p : String × Json) (members : List (String × Json)) :
    (insertMember p members).Perm (p :: members) := by
  induction members with
  | nil => exact .refl _
  | cons q rest ih =>
      rw [insertMember]
      split
      · exact .refl _
      · exact (ih.cons q).trans (List.Perm.swap p q rest)

theorem parsedMembers_eq_map (members : List (String × Json)) :
    parsedMembers members = members.map fun p => (p.1, p.2.parsed) := by
  induction members with
  | nil => rfl
  | cons p rest ih =>
      obtain ⟨k, j⟩ := p
      rw [parsedMembers, ih, List.map_cons]

theorem jsonbMembers_perm (members : List (String × Json)) :
    (jsonbMembers members).Perm (members.map fun p => (p.1, p.2.jsonb)) := by
  induction members with
  | nil => exact .refl _
  | cons p rest ih =>
      obtain ⟨k, j⟩ := p
      rw [jsonbMembers, List.map_cons]
      exact (insertMember_perm _ _).trans (ih.cons _)

theorem sameMembers_iff {members members' : List (String × Json)} :
    SameMembers members members' ↔
      ∀ p ∈ members, ∃ v, members'.lookup p.1 = some v ∧ Same p.2 v := by
  induction members with
  | nil => simp [SameMembers]
  | cons p rest ih =>
      obtain ⟨k, j⟩ := p
      rw [SameMembers, ih, List.forall_mem_cons]

theorem keyedMembers_iff {members : List (String × Json)} :
    KeyedMembers members ↔ ∀ p ∈ members, p.2.Keyed := by
  induction members with
  | nil => simp [KeyedMembers]
  | cons p rest ih =>
      obtain ⟨k, j⟩ := p
      rw [KeyedMembers, ih, List.forall_mem_cons]

/-- An object rebuilt from its members, each changed to the same value. -/
theorem same_rebuilt {f : Json → Json} {members full : List (String × Json)}
    (hperm : full.Perm (members.map fun p => (p.1, f p.2))) (hkeys : (members.map Prod.fst).Nodup)
    (h : ∀ p ∈ members, Same p.2 (f p.2) ∧ (f p.2).Keyed) :
    Same (.obj members) (.obj full) ∧ Keyed (.obj full) := by
  have hfst : (full.map Prod.fst).Perm (members.map Prod.fst) := by
    have hmap := hperm.map Prod.fst
    rwa [List.map_map] at hmap
  have hfull : (full.map Prod.fst).Nodup := hfst.nodup_iff.mpr hkeys
  refine ⟨⟨?_, sameMembers_iff.mpr fun p hp => ?_⟩, hfull, keyedMembers_iff.mpr fun q hq => ?_⟩
  · rw [hperm.length_eq, List.length_map]
  · refine ⟨f p.2, ?_, (h p hp).1⟩
    have hmem : (p.1, f p.2) ∈ full := hperm.mem_iff.mpr (List.mem_map_of_mem hp)
    exact (lookup_of_mem hfull).mp hmem
  · obtain ⟨p, hp, rfl⟩ := List.mem_map.mp (hperm.mem_iff.mp hq)
    exact (h p hp).2

mutual

theorem same_jsonb {j : Json} (h : j.Keyed) : Same j j.jsonb ∧ j.jsonb.Keyed := by
  match j with
  | .null => simp [jsonb, Same, Keyed]
  | .bool _ => simp [jsonb, Same, Keyed]
  | .num _ => simp [jsonb, Same, Keyed]
  | .str _ => simp [jsonb, Same, Keyed]
  | .arr items => exact sameItems_jsonb h
  | .obj members => exact same_rebuilt (jsonbMembers_perm members) h.1 (same_jsonb_members h.2)

theorem sameItems_jsonb {items : List Json} (h : KeyedItems items) :
    SameItems items (jsonbItems items) ∧ KeyedItems (jsonbItems items) := by
  match items with
  | [] => simp [jsonbItems, SameItems, KeyedItems]
  | j :: rest =>
      have hone := same_jsonb h.1
      have hrest := sameItems_jsonb h.2
      exact ⟨⟨hone.1, hrest.1⟩, hone.2, hrest.2⟩

theorem same_jsonb_members {members : List (String × Json)} (h : KeyedMembers members) :
    ∀ p ∈ members, Same p.2 p.2.jsonb ∧ p.2.jsonb.Keyed := by
  match members with
  | [] => simp
  | (_, _) :: _ => exact List.forall_mem_cons.mpr ⟨same_jsonb h.1, same_jsonb_members h.2⟩

end

mutual

theorem same_parsed {j : Json} (h : j.Keyed) : Same j j.parsed ∧ j.parsed.Keyed := by
  match j with
  | .null => simp [parsed, Same, Keyed]
  | .bool _ => simp [parsed, Same, Keyed]
  | .num _ => simp [parsed, Same, Keyed]
  | .str _ => simp [parsed, Same, Keyed]
  | .arr items => exact sameItems_parsed h
  | .obj members =>
      have hperm : (enumerate (parsedMembers members)).Perm
          (members.map fun p => (p.1, p.2.parsed)) := by
        rw [← parsedMembers_eq_map]
        exact enumerate_perm _
      exact same_rebuilt hperm h.1 (same_parsed_members h.2)

theorem sameItems_parsed {items : List Json} (h : KeyedItems items) :
    SameItems items (parsedItems items) ∧ KeyedItems (parsedItems items) := by
  match items with
  | [] => simp [parsedItems, SameItems, KeyedItems]
  | j :: rest =>
      have hone := same_parsed h.1
      have hrest := sameItems_parsed h.2
      exact ⟨⟨hone.1, hrest.1⟩, hone.2, hrest.2⟩

theorem same_parsed_members {members : List (String × Json)} (h : KeyedMembers members) :
    ∀ p ∈ members, Same p.2 p.2.parsed ∧ p.2.parsed.Keyed := by
  match members with
  | [] => simp
  | (_, _) :: _ => exact List.forall_mem_cons.mpr ⟨same_parsed h.1, same_parsed_members h.2⟩

end

/-- **The round trip** gives the same value, with other orders of keys. -/
theorem same_readBack {j : Json} (h : j.Keyed) : Same j j.readBack ∧ j.readBack.Keyed := by
  have hstored := same_jsonb h
  have hread := same_parsed hstored.2
  exact ⟨(same_congr hstored.2 h hread.2 ((same_iff_sorted hstored.2 h).mpr
    ((same_iff_sorted h hstored.2).mp hstored.1).symm)).mpr hread.1, hread.2⟩

/-! ## Objects as a column returns them -/

theorem keyLe_total (a b : String) : keyLe a b = true ∨ keyLe b a = true := by
  simp only [keyLe, Bool.or_eq_true, Bool.and_eq_true, decide_eq_true_eq, beq_iff_eq, not_lt]
  rcases Nat.lt_trichotomy a.utf8ByteSize b.utf8ByteSize with h | h | h
  · exact Or.inl (Or.inl h)
  · rcases le_total a b with hle | hle
    · exact Or.inl (Or.inr ⟨h, hle⟩)
    · exact Or.inr (Or.inr ⟨h.symm, hle⟩)
  · exact Or.inr (Or.inl h)

theorem keyLe_trans {a b c : String} (hab : keyLe a b = true) (hbc : keyLe b c = true) :
    keyLe a c = true := by
  simp only [keyLe, Bool.or_eq_true, Bool.and_eq_true, decide_eq_true_eq, beq_iff_eq, not_lt] at *
  rcases hab with hab | ⟨hab, hle⟩
  · left
    rcases hbc with hbc | ⟨hbc, -⟩
    · omega
    · omega
  · rcases hbc with hbc | ⟨hbc, hle'⟩
    · left
      omega
    · exact Or.inr ⟨hab.trans hbc, hle.trans hle'⟩

/-- Members in the key order of `jsonb`. -/
def Ordered (members : List (String × Json)) : Prop :=
  members.Pairwise fun p q => keyLe p.1 q.1 = true

theorem ordered_insertMember (p : String × Json) {members : List (String × Json)}
    (h : Ordered members) : Ordered (insertMember p members) := by
  induction members with
  | nil => exact List.pairwise_singleton _ _
  | cons q rest ih =>
      obtain ⟨hq, hrest⟩ := List.pairwise_cons.mp h
      rw [insertMember]
      split
      next hle =>
        refine List.pairwise_cons.mpr ⟨fun r hr => ?_, h⟩
        rcases List.mem_cons.mp hr with rfl | hr
        · exact hle
        · exact keyLe_trans hle (hq r hr)
      next hle =>
        refine List.pairwise_cons.mpr ⟨fun r hr => ?_, ih hrest⟩
        rcases List.mem_cons.mp ((insertMember_perm p rest).mem_iff.mp hr) with rfl | hr
        · exact (keyLe_total q.1 r.1).resolve_right hle
        · exact hq r hr

theorem ordered_jsonbMembers (members : List (String × Json)) : Ordered (jsonbMembers members) := by
  induction members with
  | nil => exact List.Pairwise.nil
  | cons p rest ih =>
      obtain ⟨k, j⟩ := p
      exact ordered_insertMember (k, j.jsonb) ih

/-- **An object with a key out of order** is none a column returns. -/
theorem jsonb_ne_obj {j : Json} {p q : String × Json} {rest : List (String × Json)} (hq : q ∈ rest)
    (horder : keyLe p.1 q.1 = false) : j.jsonb ≠ .obj (p :: rest) := by
  intro h
  cases j with
  | obj members =>
      rw [jsonb, Json.obj.injEq] at h
      have hordered := ordered_jsonbMembers members
      rw [h] at hordered
      have hle := (List.pairwise_cons.mp hordered).1 q hq
      rw [horder] at hle
      cases hle
  | null => cases h
  | bool b => cases h
  | num x => cases h
  | str s => cases h
  | arr items => cases h

/-! ## Assignments that change nothing -/

theorem assign_of_lookup {key : String} {v : Json} {members : List (String × Json)}
    (h : members.lookup key = some v) : assign key v members = members := by
  induction members with
  | nil => cases h
  | cons p rest ih =>
      obtain ⟨k, w⟩ := p
      by_cases hk : k = key
      · subst hk
        rw [List.lookup_cons_self, Option.some.injEq] at h
        rw [assign, if_pos rfl, h]
      · have hb : (key == k) = false := beq_eq_false_iff_ne.mpr (Ne.symm hk)
        rw [List.lookup_cons, hb] at h
        rw [assign, if_neg hk, ih h]

/-- A spread of members the object has already. -/
theorem spread_of_lookup {members updates : List (String × Json)}
    (h : ∀ u ∈ updates, members.lookup u.1 = some u.2) : spread members updates = .obj members := by
  show Json.obj (updates.foldl (fun acc u => assign u.1 u.2 acc) members) = .obj members
  induction updates with
  | nil => rfl
  | cons u rest ih =>
      rw [List.foldl_cons, assign_of_lookup (h u List.mem_cons_self)]
      exact ih fun w hw => h w (List.mem_cons_of_mem _ hw)

/-- A spread keeps the first member, unless an update names it. -/
theorem spread_cons {p : String × Json} {members updates : List (String × Json)}
    (h : ∀ u ∈ updates, u.1 ≠ p.1) :
    ∃ rest, spread (p :: members) updates = .obj (p :: rest) ∧
      spread members updates = .obj rest := by
  show ∃ rest,
    Json.obj (updates.foldl (fun acc u => assign u.1 u.2 acc) (p :: members)) = .obj (p :: rest) ∧
      Json.obj (updates.foldl (fun acc u => assign u.1 u.2 acc) members) = .obj rest
  induction updates generalizing members with
  | nil => exact ⟨members, rfl, rfl⟩
  | cons u rest ih =>
      rw [List.foldl_cons, List.foldl_cons, assign, if_neg (h u List.mem_cons_self).symm]
      exact ih fun w hw => h w (List.mem_cons_of_mem _ hw)

end Json

end Js
