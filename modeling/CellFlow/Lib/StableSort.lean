/-
# CellFlow.Lib.StableSort — what a stable sort by keys keeps of the order it was given.

A comparison may call two different keys equal.  Sorting then leaves them in the order in which they
came, so two lists of the same members sort to one list exactly where such keys stand in the same
order in both (`sortByKey_eq_iff`).
-/
import Mathlib.Data.List.Sort

namespace StableSort

variable {κ α : Type} (cmp : κ → κ → Ordering)

/-- The key of the first comes no later than that of the second. -/
def KeyLe (p q : κ × α) : Prop := (cmp p.1 q.1).isLE = true

instance : DecidableRel (KeyLe (α := α) cmp) := fun _ _ => inferInstanceAs (Decidable (_ = true))

/-- A stable sort by keys. -/
def sortByKey (l : List (κ × α)) : List (κ × α) := l.insertionSort (KeyLe cmp)

/-- Keys the comparison calls equal stand in the second list as they do in the first. -/
def TiesKept (keys keys' : List κ) : Prop :=
  ∀ k k', cmp k k' = .eq → List.Sublist [k, k'] keys → List.Sublist [k, k'] keys'

/-! ## Pairs of a list without repetition -/

/-- Of two members one comes first. -/
theorem pair_or {α : Type} {l : List α} {a b : α} (ha : a ∈ l) (hb : b ∈ l) (hne : a ≠ b) :
    List.Sublist [a, b] l ∨ List.Sublist [b, a] l := by
  induction l with
  | nil => cases ha
  | cons c l ih =>
      rcases List.mem_cons.mp ha with rfl | ha'
      · rcases List.mem_cons.mp hb with rfl | hb'
        · exact absurd rfl hne
        · exact Or.inl ((List.singleton_sublist.mpr hb').cons_cons a)
      · rcases List.mem_cons.mp hb with rfl | hb'
        · exact Or.inr ((List.singleton_sublist.mpr ha').cons_cons b)
        · exact (ih ha' hb').imp (List.Sublist.cons c) (List.Sublist.cons c)

/-- And only one of them does. -/
theorem not_both {α : Type} {l : List α} {a b : α} (hl : l.Nodup) (hab : List.Sublist [a, b] l) :
    ¬ List.Sublist [b, a] l := by
  induction l with
  | nil => cases hab
  | cons c l ih =>
      have hfresh := List.nodup_cons.mp hl
      intro hba
      cases hab with
      | cons _ hab =>
          cases hba with
          | cons _ hba => exact ih hfresh.2 hab hba
          | cons_cons _ hba => exact hfresh.1 (hab.subset (by simp))
      | cons_cons _ hab =>
          have hb : b ∈ l := List.singleton_sublist.mp hab
          cases hba with
          | cons _ hba => exact hfresh.1 (hba.subset (by simp))
          | cons_cons _ hba => exact hfresh.1 hb

/-- Members with different keys are ordered as their keys are. -/
theorem pair_keys {l : List (κ × α)} (hl : (l.map Prod.fst).Nodup) {p q : κ × α} (hp : p ∈ l)
    (hq : q ∈ l) : List.Sublist [p.1, q.1] (l.map Prod.fst) ↔ List.Sublist [p, q] l := by
  constructor
  · intro h
    obtain ⟨pair, hpair, hkeys⟩ := List.sublist_map_iff.mp h
    obtain ⟨p', rest, rfl, hp', hrest⟩ := List.map_eq_cons_iff.mp hkeys.symm
    obtain ⟨q', rest, rfl, hq', hnil⟩ := List.map_eq_cons_iff.mp hrest
    rw [List.map_eq_nil_iff.mp hnil] at hpair
    have hsame : p' = p := List.inj_on_of_nodup_map hl (hpair.subset (by simp)) hp hp'
    have hsame' : q' = q := List.inj_on_of_nodup_map hl (hpair.subset (by simp)) hq hq'
    rwa [hsame, hsame'] at hpair
  · exact fun h => h.map Prod.fst

/-! ## The sort -/

section Sorted

variable [Std.TransCmp cmp]

instance : Std.Total (KeyLe (α := α) cmp) where
  total p q := by
    by_cases h : (cmp p.1 q.1).isLE = true
    · exact Or.inl h
    · refine Or.inr (Std.OrientedCmp.isGE_iff_isLE.mp ?_)
      have hgt := Std.OrientedCmp.lt_of_not_isLE h
      rw [← Std.OrientedCmp.gt_iff_lt] at hgt
      rw [hgt]
      rfl

instance : IsTrans (κ × α) (KeyLe cmp) where
  trans _ _ _ h h' := Std.TransCmp.isLE_trans h h'

variable {cmp} in
theorem eq_of_keyLe {p q : κ × α} (h : KeyLe cmp p q) (h' : KeyLe cmp q p) :
    cmp p.1 q.1 = .eq := Std.OrientedCmp.isLE_antisymm h h'

/-- **Two lists of members with different keys** sort to one list exactly where they have the same
members and the keys called equal in the same order. -/
theorem sortByKey_eq_iff {l l' : List (κ × α)} (hl : (l.map Prod.fst).Nodup)
    (hl' : (l'.map Prod.fst).Nodup) :
    sortByKey cmp l = sortByKey cmp l' ↔
      l.Perm l' ∧ TiesKept cmp (l.map Prod.fst) (l'.map Prod.fst) := by
  have hperm : ∀ m : List (κ × α), (sortByKey cmp m).Perm m := List.perm_insertionSort _
  constructor
  · intro h
    have hsame : l.Perm l' := (hperm l).symm.trans (h ▸ hperm l')
    refine ⟨hsame, ?_⟩
    intro k k' htie hpair
    obtain ⟨pair, hsub, hkeys⟩ := List.sublist_map_iff.mp hpair
    obtain ⟨p, rest, rfl, rfl, hrest⟩ := List.map_eq_cons_iff.mp hkeys.symm
    obtain ⟨q, rest, rfl, rfl, hnil⟩ := List.map_eq_cons_iff.mp hrest
    rw [List.map_eq_nil_iff.mp hnil] at hsub
    have hp : p ∈ l' := hsame.mem_iff.mp (hsub.subset (by simp))
    have hq : q ∈ l' := hsame.mem_iff.mp (hsub.subset (by simp))
    have hne : p ≠ q := by
      rintro rfl
      exact (List.nodup_cons.mp (hpair.nodup hl)).1 (by simp)
    -- the sort keeps the two as they stand in either list
    have hle : KeyLe cmp p q := by rw [KeyLe, htie]; rfl
    have hle' : KeyLe cmp q p := by rw [KeyLe, Std.OrientedCmp.eq_symm htie]; rfl
    have hsorted := List.pair_sublist_insertionSort hle hsub
    rw [pair_keys hl' hp hq]
    refine (pair_or hp hq hne).resolve_right fun hback => ?_
    have hback := List.pair_sublist_insertionSort hle' hback
    have hnodup : (sortByKey cmp l').Nodup :=
      ((hperm l').nodup_iff).mpr (List.Nodup.of_map _ hl')
    exact not_both hnodup (h ▸ hsorted) hback
  · rintro ⟨hsame, hties⟩
    -- sorted, and with the ties in the order of `l'`, is an order that leaves no choice
    have hpairs : ∀ m : List (κ × α), (m.map Prod.fst).Nodup → m.Perm l' →
        TiesKept cmp (m.map Prod.fst) (l'.map Prod.fst) →
        (sortByKey cmp m).Pairwise fun p q =>
          KeyLe cmp p q ∧ (KeyLe cmp q p → List.Sublist [p, q] l') := by
      intro m hm hml hmties
      rw [List.pairwise_iff_forall_sublist]
      intro p q hpq
      have hle : KeyLe cmp p q :=
        List.pairwise_iff_forall_sublist.mp (List.pairwise_insertionSort (KeyLe cmp) m) hpq
      refine ⟨hle, fun hle' => ?_⟩
      have hp : p ∈ m := (hperm m).mem_iff.mp (hpq.subset (by simp))
      have hq : q ∈ m := (hperm m).mem_iff.mp (hpq.subset (by simp))
      have hnodup : (sortByKey cmp m).Nodup :=
        ((hperm m).nodup_iff).mpr (List.Nodup.of_map _ hm)
      have hne : p ≠ q := by
        rintro rfl
        exact (List.nodup_cons.mp (hpq.nodup hnodup)).1 (by simp)
      have hfirst : List.Sublist [p, q] m := by
        refine (pair_or hp hq hne).resolve_right fun hback => ?_
        exact not_both hnodup hpq (List.pair_sublist_insertionSort hle' hback)
      rw [← pair_keys hl' (hml.mem_iff.mp hp) (hml.mem_iff.mp hq)]
      exact hmties p.1 q.1 (eq_of_keyLe hle hle') ((pair_keys hm hp hq).mpr hfirst)
    refine List.Perm.eq_of_pairwise ?_ (hpairs l hl hsame hties)
      (hpairs l' hl' (.refl _) fun _ _ _ h => h)
      ((hperm l).trans (hsame.trans (hperm l').symm))
    intro p q hp hq hpq hqp
    by_contra hne
    exact not_both (List.Nodup.of_map _ hl') (hpq.2 hqp.1) (hqp.2 hpq.1)

end Sorted

end StableSort
