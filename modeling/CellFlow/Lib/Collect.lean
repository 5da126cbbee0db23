/-
# CellFlow.Lib.Collect — collecting normal forms behind a set of what was seen.

Spellings are read in turn; each that has a normal form adds it to the list and to the set of what
was seen.  The set is probed with the spelling and filled with the normal form, so a repeated entry
is caught only where it is spelled in its normal form.  `collect_nodup_iff` says exactly when no
entry comes out twice; then the list is the first appearance of every normal form
(`collect_eq_eraseDups`).
-/
import Mathlib.Data.List.Nodup
import Mathlib.Tactic.Common

namespace Js

variable {α : Type} [DecidableEq α] (norm : α → Option α)

/-- The normal forms of the spellings, in order; `seen` is probed with the spelling itself. -/
def collect : List α → List α → List α
  | _, [] => []
  | seen, v :: rest =>
      if v ∈ seen then collect seen rest
      else
        match norm v with
        | none => collect seen rest
        | some e => e :: collect (e :: seen) rest

/-- Normalizing a normal form changes nothing. -/
def Idempotent {α : Type} (norm : α → Option α) : Prop := ∀ v e, norm v = some e → norm e = some e

/-- Whatever normalizes to `e` is spelled `e`. -/
def SpelledNormally {α : Type} (norm : α → Option α) (e : α) (spellings : List α) : Prop :=
  ∀ w ∈ spellings, norm w = some e → w = e

/-- Every repetition is spelled in its normal form. -/
def RepeatsNormal {α : Type} (norm : α → Option α) (spellings : List α) : Prop :=
  spellings.Pairwise fun v w => ∀ e, norm v = some e → norm w = some e → w = e

theorem repeatsNormal_cons_some {α : Type} {norm : α → Option α} {v e : α} {rest : List α}
    (hn : norm v = some e) :
    RepeatsNormal norm (v :: rest) ↔ SpelledNormally norm e rest ∧ RepeatsNormal norm rest := by
  rw [RepeatsNormal, List.pairwise_cons, RepeatsNormal]
  refine and_congr_left fun _ => ?_
  constructor
  · intro h w hw hwe
    exact h w hw e hn hwe
  · intro h w hw x hx hwx
    obtain rfl : e = x := Option.some.inj (hn.symm.trans hx)
    exact h w hw hwx

theorem repeatsNormal_cons_none {α : Type} {norm : α → Option α} {v : α} {rest : List α}
    (hn : norm v = none) : RepeatsNormal norm (v :: rest) ↔ RepeatsNormal norm rest := by
  rw [RepeatsNormal, List.pairwise_cons, RepeatsNormal]
  refine and_iff_right fun w _ x hx => ?_
  rw [hn] at hx
  cases hx

/-! ## What is collected -/

variable {norm}

theorem collect_seen {seen rest : List α} {v : α} (hv : v ∈ seen) :
    collect norm seen (v :: rest) = collect norm seen rest := by
  rw [collect, if_pos hv]

theorem collect_none {seen rest : List α} {v : α} (hv : v ∉ seen) (hn : norm v = none) :
    collect norm seen (v :: rest) = collect norm seen rest := by
  rw [collect, if_neg hv, hn]

theorem collect_some {seen rest : List α} {v e : α} (hv : v ∉ seen) (hn : norm v = some e) :
    collect norm seen (v :: rest) = e :: collect norm (e :: seen) rest := by
  rw [collect, if_neg hv, hn]

/-- Only normal forms are seen. -/
theorem seen_cons {α : Type} {norm : α → Option α} (hnorm : Idempotent norm) {seen : List α} (hseen : ∀ e ∈ seen, norm e = some e)
    {v e : α} (hn : norm v = some e) : ∀ x ∈ e :: seen, norm x = some x := by
  intro x hx
  rcases List.mem_cons.mp hx with rfl | hx
  · exact hnorm v _ hn
  · exact hseen x hx

/-- A normal form that was seen comes out again exactly when something else is spelled that
normalizes to it. -/
theorem not_mem_collect_iff (hnorm : Idempotent norm) {seen spellings : List α}
    (hseen : ∀ e ∈ seen, norm e = some e) {e : α} (he : e ∈ seen) :
    e ∉ collect norm seen spellings ↔ SpelledNormally norm e spellings := by
  induction spellings generalizing seen with
  | nil =>
      refine iff_of_true List.not_mem_nil fun w hw => ?_
      cases hw
  | cons v rest ih =>
      have hsplit : SpelledNormally norm e (v :: rest) ↔
          (norm v = some e → v = e) ∧ SpelledNormally norm e rest := List.forall_mem_cons
      rw [hsplit]
      by_cases hv : v ∈ seen
      · rw [collect_seen hv, ih hseen he]
        refine (and_iff_right fun hve => ?_).symm
        exact Option.some.inj ((hseen v hv).symm.trans hve)
      · rcases hn : norm v with _ | x
        · rw [collect_none hv hn, ih hseen he]
          exact (and_iff_right (by simp)).symm
        · rw [collect_some hv hn, List.mem_cons, not_or,
            ih (seen_cons hnorm hseen hn) (List.mem_cons_of_mem x he)]
          refine and_congr_left fun _ => ?_
          constructor
          · intro hne hxe
            exact absurd (Option.some.inj hxe).symm hne
          · rintro hxe rfl
            -- `v` would be `e`, which was seen
            exact hv (hxe rfl ▸ he)

/-- **Nothing comes out twice** exactly when every repetition is spelled in its normal form. -/
theorem nodup_collect_iff (hnorm : Idempotent norm) {seen spellings : List α}
    (hseen : ∀ e ∈ seen, norm e = some e)
    (hkept : ∀ e ∈ seen, SpelledNormally norm e spellings) :
    (collect norm seen spellings).Nodup ↔ RepeatsNormal norm spellings := by
  induction spellings generalizing seen with
  | nil => exact iff_of_true List.nodup_nil List.Pairwise.nil
  | cons v rest ih =>
      have hrest : ∀ e ∈ seen, SpelledNormally norm e rest :=
        fun e he w hw => hkept e he w (List.mem_cons_of_mem v hw)
      by_cases hv : v ∈ seen
      · rw [collect_seen hv, ih hseen hrest, repeatsNormal_cons_some (hseen v hv)]
        exact (and_iff_right (hrest v hv)).symm
      · rcases hn : norm v with _ | x
        · rw [collect_none hv hn, ih hseen hrest, repeatsNormal_cons_none hn]
        · have hseen' := seen_cons hnorm hseen hn
          rw [collect_some hv hn, List.nodup_cons, repeatsNormal_cons_some hn,
            not_mem_collect_iff hnorm hseen' List.mem_cons_self]
          refine and_congr_right fun hx => ih hseen' fun e he => ?_
          rcases List.mem_cons.mp he with rfl | he
          · exact hx
          · exact hrest e he

/-- **First appearances**: where every repetition is spelled in its normal form, the list is that of
all normal forms, each where it stands first, without those already seen. -/
theorem collect_eq_eraseDups (hnorm : Idempotent norm) {seen spellings : List α}
    (hseen : ∀ e ∈ seen, norm e = some e)
    (hkept : ∀ e ∈ seen, SpelledNormally norm e spellings)
    (h : RepeatsNormal norm spellings) :
    collect norm seen spellings =
      ((spellings.filterMap norm).filter fun e => decide (e ∉ seen)).eraseDups := by
  induction spellings generalizing seen with
  | nil => rfl
  | cons v rest ih =>
      have hrest : ∀ e ∈ seen, SpelledNormally norm e rest :=
        fun e he w hw => hkept e he w (List.mem_cons_of_mem v hw)
      have htail : RepeatsNormal norm rest := (List.pairwise_cons.mp h).2
      by_cases hv : v ∈ seen
      · rw [collect_seen hv, List.filterMap_cons_some (hseen v hv),
          List.filter_cons_of_neg (by simpa using hv)]
        exact ih hseen hrest htail
      · rcases hn : norm v with _ | x
        · rw [collect_none hv hn, List.filterMap_cons_none hn]
          exact ih hseen hrest htail
        · have hx : x ∉ seen := fun hmem => hv (hkept x hmem v List.mem_cons_self hn ▸ hmem)
          have hnext := (repeatsNormal_cons_some hn).mp h
          have hkept' : ∀ e ∈ x :: seen, SpelledNormally norm e rest := by
            intro e he
            rcases List.mem_cons.mp he with rfl | he
            · exact hnext.1
            · exact hrest e he
          rw [collect_some hv hn, List.filterMap_cons_some hn,
            List.filter_cons_of_pos (by simpa using hx), List.eraseDups_cons,
            ih (seen_cons hnorm hseen hn) hkept' htail, List.filter_filter]
          congr 2
          refine List.filter_congr fun e _ => ?_
          simp [Bool.beq_eq_decide_eq, not_or]

/-- A list without repetitions is its own list of first appearances. -/
theorem eraseDups_of_nodup {l : List α} (h : l.Nodup) : l.eraseDups = l := by
  induction l with
  | nil => rfl
  | cons v rest ih =>
      have hnodup := List.nodup_cons.mp h
      have hkept : rest.filter (fun w => !w == v) = rest := by
        refine List.filter_eq_self.mpr fun w hw => ?_
        have hne : w ≠ v := fun heq => hnodup.1 (heq ▸ hw)
        simpa using hne
      rw [List.eraseDups_cons, hkept, ih hnodup.2]

/-- Collecting again what came out without repetitions returns it unchanged. -/
theorem collect_again (hnorm : Idempotent norm) {l : List α} (hl : ∀ e ∈ l, norm e = some e)
    (hnodup : l.Nodup) : collect norm [] l = l := by
  have hfixed : l.filterMap norm = l := by
    induction l with
    | nil => rfl
    | cons v rest ih =>
        rw [List.filterMap_cons_some (hl v List.mem_cons_self),
          ih (fun e he => hl e (List.mem_cons_of_mem v he)) (List.nodup_cons.mp hnodup).2]
  have hnormal : RepeatsNormal norm l := by
    refine List.Pairwise.imp_of_mem (fun {v w} _ hw _ e _ hwe => ?_) hnodup
    exact Option.some.inj ((hl w hw).symm.trans hwe)
  rw [collect_eq_eraseDups hnorm (by simp) (by simp) hnormal, hfixed]
  simpa using eraseDups_of_nodup hnodup

/-- What is collected are normal forms. -/
theorem normal_of_mem_collect (hnorm : Idempotent norm) {seen spellings : List α} {e : α}
    (h : e ∈ collect norm seen spellings) : norm e = some e := by
  induction spellings generalizing seen with
  | nil => exact absurd h List.not_mem_nil
  | cons v rest ih =>
      by_cases hv : v ∈ seen
      · exact ih (collect_seen hv ▸ h)
      · rcases hn : norm v with _ | x
        · exact ih (collect_none hv hn ▸ h)
        · rw [collect_some hv hn, List.mem_cons] at h
          rcases h with rfl | h
          · exact hnorm v _ hn
          · exact ih h

/-- What is collected is every normal form of a spelling, whatever the repetitions. -/
theorem mem_collect_iff (hnorm : Idempotent norm) {spellings : List α} (e : α) :
    e ∈ collect norm [] spellings ↔ e ∈ spellings.filterMap norm := by
  have hgeneral : ∀ (spellings seen : List α), (∀ e ∈ seen, norm e = some e) →
      (e ∈ seen ∨ e ∈ collect norm seen spellings ↔ e ∈ seen ∨ e ∈ spellings.filterMap norm) := by
    intro spellings
    induction spellings with
    | nil =>
        intro seen _
        exact Iff.rfl
    | cons v rest ih =>
        intro seen hseen
        by_cases hv : v ∈ seen
        · rw [collect_seen hv, ih seen hseen, List.filterMap_cons_some (hseen v hv), List.mem_cons]
          constructor
          · rintro (h | h)
            · exact Or.inl h
            · exact Or.inr (Or.inr h)
          · rintro (h | rfl | h)
            · exact Or.inl h
            · exact Or.inl hv
            · exact Or.inr h
        · rcases hn : norm v with _ | x
          · rw [collect_none hv hn, List.filterMap_cons_none hn]
            exact ih seen hseen
          · have hrest := ih (x :: seen) (seen_cons hnorm hseen hn)
            rw [List.mem_cons, or_assoc, or_assoc] at hrest
            rw [collect_some hv hn, List.filterMap_cons_some hn, List.mem_cons, List.mem_cons,
              or_left_comm, hrest, or_left_comm]
  simpa using hgeneral spellings [] (by simp)

end Js
