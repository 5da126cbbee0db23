/-
# CellFlow.Lib.Sequenced — a log whose entries are numbered before they are committed.

Writers draw numbers from one counter when they insert an entry, and their entries join the log when
they commit.  So the order of the numbers is not the order of the commits, and a reader who sorts by
number takes the entry with the greatest one for the last (`Latest`).  An entry that commits after a
greater number has is `Overtaken`: it joins the log without becoming its last entry.
-/
import Mathlib.Data.List.Nodup
import Mathlib.Logic.Function.Basic

namespace Sequenced

variable {ι ε : Type}

/-! ## The last entry by number -/

/-- The entry with the greatest number. -/
def Latest (log : List (Nat × ε)) (entry : Nat × ε) : Prop :=
  entry ∈ log ∧ ∀ other ∈ log, other.1 ≤ entry.1

/-- A greater number stands in the log. -/
def Overtaken (log : List (Nat × ε)) (number : Nat) : Prop :=
  ∃ other ∈ log, number < other.1

/-- Entries in the order of their numbers. -/
def Ascending (entries : List (Nat × ε)) : Prop :=
  entries.Pairwise fun a b => a.1 < b.1

variable {log entries : List (Nat × ε)} {entry last : Nat × ε}

theorem Ascending.snoc {n : Nat} {e : ε} (h : Ascending entries) (hlt : ∀ x ∈ entries, x.1 < n) :
    Ascending (entries ++ [(n, e)]) := by
  refine List.pairwise_append.mpr ⟨h, List.pairwise_singleton _ _, ?_⟩
  intro x hx y hy
  rw [List.mem_singleton.mp hy]
  exact hlt x hx

/-- The last of ascending entries has the greatest number. -/
theorem Ascending.lt_last (h : Ascending entries) (hlast : entries.getLast? = some last) :
    ∀ x ∈ entries, x = last ∨ x.1 < last.1 := by
  obtain ⟨front, rfl⟩ := List.getLast?_eq_some_iff.mp hlast
  intro x hx
  rcases List.mem_append.mp hx with hx | hx
  · exact Or.inr ((List.pairwise_append.mp h).2.2 x hx last List.mem_cons_self)
  · exact Or.inl (List.mem_singleton.mp hx)

/-- Where no number stands twice, there is one last entry. -/
theorem Latest.unique {a b : Nat × ε} (ha : Latest log a) (hb : Latest log b)
    (hnodup : (log.map Prod.fst).Nodup) : a = b :=
  List.inj_on_of_nodup_map hnodup ha.1 hb.1 (Nat.le_antisymm (hb.2 a ha.1) (ha.2 b hb.1))

/-- **Overtaken entries** leave the last entry of the log. -/
theorem latest_overtaken (hasc : Ascending entries) (hlast : entries.getLast? = some last)
    (hover : Overtaken log last.1) : Latest (log ++ entries) entry ↔ Latest log entry := by
  obtain ⟨later, hlater, hlt⟩ := hover
  have hbelow : ∀ x ∈ entries, x.1 < later.1 := by
    intro x hx
    rcases hasc.lt_last hlast x hx with rfl | hx
    · exact hlt
    · omega
  constructor
  · rintro ⟨hmem, hmax⟩
    refine ⟨?_, fun other hother => hmax other (List.mem_append_left _ hother)⟩
    rcases List.mem_append.mp hmem with hmem | hmem
    · exact hmem
    · have := hbelow entry hmem
      have := hmax later (List.mem_append_left _ hlater)
      omega
  · rintro ⟨hmem, hmax⟩
    refine ⟨List.mem_append_left _ hmem, fun other hother => ?_⟩
    rcases List.mem_append.mp hother with hother | hother
    · exact hmax other hother
    · have := hbelow other hother
      have := hmax later hlater
      omega

/-- **Entries no one overtook** end the log. -/
theorem latest_appended (hasc : Ascending entries) (hlast : entries.getLast? = some last)
    (hfresh : ∀ other ∈ log, other.1 ≠ last.1) (hover : ¬ Overtaken log last.1) :
    Latest (log ++ entries) entry ↔ entry = last := by
  have hmem := List.mem_of_getLast? hlast
  have hlog : ∀ other ∈ log, other.1 < last.1 := by
    intro other hother
    have hne := hfresh other hother
    have hle : ¬ last.1 < other.1 := fun hlt => hover ⟨other, hother, hlt⟩
    omega
  have hall : ∀ other ∈ log ++ entries, other = last ∨ other.1 < last.1 := by
    intro other hother
    rcases List.mem_append.mp hother with hother | hother
    · exact Or.inr (hlog other hother)
    · exact hasc.lt_last hlast other hother
  constructor
  · rintro ⟨hentry, hmax⟩
    rcases hall entry hentry with heq | hlt
    · exact heq
    · have := hmax last (List.mem_append_right _ hmem)
      omega
  · rintro rfl
    refine ⟨List.mem_append_right _ hmem, fun other hother => ?_⟩
    rcases hall other hother with rfl | hlt
    · exact Nat.le_refl _
    · exact Nat.le_of_lt hlt

/-- In a log numbered as it was appended to, the last entry appended is the last by number. -/
theorem latest_zipIdx {entries : List ε} {n : Nat} {e : ε} :
    Latest (entries.zipIdx.map Prod.swap) (n, e) ↔
      entries.getLast? = some e ∧ n + 1 = entries.length := by
  constructor
  · rintro ⟨hmem, hmax⟩
    obtain ⟨p, hzip, hswap⟩ := List.mem_map.mp hmem
    obtain rfl : p = (e, n) := by
      rw [← Prod.swap_swap p, hswap]
      rfl
    obtain ⟨hlt, he⟩ := List.mem_zipIdx' hzip
    have hlen : n + 1 = entries.length := by
      have hlast : entries.length - 1 < entries.length := by omega
      have := hmax (entries.length - 1, entries[entries.length - 1])
        (List.mem_map.mpr ⟨(entries[entries.length - 1], entries.length - 1),
          List.mem_zipIdx_iff_getElem?.mpr (List.getElem?_eq_getElem hlast), rfl⟩)
      dsimp only at this
      omega
    refine ⟨?_, hlen⟩
    rw [List.getLast?_eq_getElem?, ← hlen, Nat.add_sub_cancel, List.getElem?_eq_getElem hlt, he]
  · rintro ⟨hlast, hlen⟩
    refine ⟨List.mem_map.mpr ⟨(e, n), List.mem_zipIdx_iff_getElem?.mpr ?_, rfl⟩, ?_⟩
    · rw [List.getLast?_eq_getElem?, ← hlen, Nat.add_sub_cancel] at hlast
      exact hlast
    · intro other hother
      obtain ⟨⟨e', n'⟩, hzip, rfl⟩ := List.mem_map.mp hother
      have hlt := List.snd_lt_of_mem_zipIdx hzip
      simp only [Prod.swap_prod_mk] at hlt ⊢
      omega

/-! ## Writers -/

/-- The committed log, the next number, and what each open writer has inserted. -/
structure Book (ι ε : Type) where
  log : List (Nat × ε)
  next : Nat
  pending : ι → List (Nat × ε)

namespace Book

variable [DecidableEq ι]

/-- A writer inserts an entry under the next number. -/
def insert (b : Book ι ε) (i : ι) (e : ε) : Book ι ε :=
  { b with next := b.next + 1
           pending := Function.update b.pending i (b.pending i ++ [(b.next, e)]) }

/-- The entries of a writer join the log. -/
def commit (b : Book ι ε) (i : ι) : Book ι ε :=
  { b with log := b.log ++ b.pending i, pending := Function.update b.pending i [] }

/-- The entries of a writer are dropped; its numbers are not drawn again. -/
def discard (b : Book ι ε) (i : ι) : Book ι ε :=
  { b with pending := Function.update b.pending i [] }

/-- A writer inserts several entries in a row. -/
def insertAll (b : Book ι ε) (i : ι) (entries : List ε) : Book ι ε :=
  entries.foldl (fun b e => b.insert i e) b

section

variable {b : Book ι ε} {i j : ι} {e : ε}

@[simp]
theorem insert_pending_self : (b.insert i e).pending i = b.pending i ++ [(b.next, e)] :=
  Function.update_self ..

@[simp]
theorem insert_pending_of_ne (h : j ≠ i) : (b.insert i e).pending j = b.pending j :=
  Function.update_of_ne h ..

@[simp]
theorem commit_pending_of_ne (h : j ≠ i) : (b.commit i).pending j = b.pending j :=
  Function.update_of_ne h ..

@[simp]
theorem discard_pending_of_ne (h : j ≠ i) : (b.discard i).pending j = b.pending j :=
  Function.update_of_ne h ..

end

/-- Entries inserted in a row have the next numbers in order. -/
theorem insertAll_eq (b : Book ι ε) (i : ι) (entries : List ε) :
    b.insertAll i entries =
      { log := b.log, next := b.next + entries.length
        pending := Function.update b.pending i
          (b.pending i ++ (entries.zipIdx b.next).map Prod.swap) } := by
  induction entries generalizing b with
  | nil => simp [insertAll]
  | cons e rest ih =>
      have hrest : b.insertAll i (e :: rest) = (b.insert i e).insertAll i rest := rfl
      rw [hrest, ih]
      simp only [insert, Function.update_self, Function.update_idem, List.length_cons,
        List.zipIdx_cons, List.map_cons, Prod.swap_prod_mk, List.append_assoc, List.singleton_append,
        Book.mk.injEq, and_true, true_and]
      omega

/-- No number has been drawn twice, and every writer's numbers ascend. -/
structure Numbered (b : Book ι ε) : Prop where
  log_lt : ∀ e ∈ b.log, e.1 < b.next
  log_nodup : (b.log.map Prod.fst).Nodup
  pending_lt : ∀ i, ∀ e ∈ b.pending i, e.1 < b.next
  ascending : ∀ i, Ascending (b.pending i)
  fresh : ∀ i, ∀ e ∈ b.pending i, ∀ other ∈ b.log, other.1 ≠ e.1
  apart : ∀ i j, i ≠ j → ∀ e ∈ b.pending i, ∀ other ∈ b.pending j, other.1 ≠ e.1

variable {b : Book ι ε}

theorem Numbered.insert (h : b.Numbered) (i : ι) (e : ε) : (b.insert i e).Numbered := by
  have hold : ∀ j, ∀ x ∈ (b.insert i e).pending j, x ∈ b.pending j ∨ (j = i ∧ x = (b.next, e)) := by
    intro j x hx
    by_cases hj : j = i
    · subst hj
      simpa [Book.insert] using hx
    · exact Or.inl (by simpa [Book.insert, hj] using hx)
  refine ⟨fun x hx => Nat.lt_succ_of_lt (h.log_lt x hx), h.log_nodup, ?_, ?_, ?_, ?_⟩
  · intro j x hx
    rcases hold j x hx with hx | ⟨-, rfl⟩
    · exact Nat.lt_succ_of_lt (h.pending_lt j x hx)
    · exact Nat.lt_succ_self _
  · intro j
    by_cases hj : j = i
    · subst hj
      simpa [Book.insert] using (h.ascending j).snoc (h.pending_lt j)
    · simpa [Book.insert, hj] using h.ascending j
  · intro j x hx other hother
    rcases hold j x hx with hx | ⟨-, rfl⟩
    · exact h.fresh j x hx other hother
    · exact Nat.ne_of_lt (h.log_lt other hother)
  · intro j k hne x hx other hother
    rcases hold j x hx with hold₁ | ⟨hj, rfl⟩ <;>
      rcases hold k other hother with hold₂ | ⟨hk, rfl⟩
    · exact h.apart j k hne x hold₁ other hold₂
    · exact Nat.ne_of_gt (h.pending_lt j x hold₁)
    · exact Nat.ne_of_lt (h.pending_lt k other hold₂)
    · exact absurd (hj.trans hk.symm) hne

/-- What an emptied writer leaves of the others. -/
theorem mem_emptied {pending : ι → List (Nat × ε)} {i j : ι} {x : Nat × ε}
    (hx : x ∈ Function.update pending i [] j) : j ≠ i ∧ x ∈ pending j := by
  by_cases hj : j = i
  · subst hj
    simp at hx
  · exact ⟨hj, by simpa [hj] using hx⟩

theorem Numbered.emptied_ascending (h : b.Numbered) (i j : ι) :
    Ascending (Function.update b.pending i [] j) := by
  by_cases hj : j = i
  · subst hj
    simp [Ascending]
  · simpa [hj] using h.ascending j

theorem Numbered.commit (h : b.Numbered) (i : ι) : (b.commit i).Numbered := by
  have hpending : ((b.pending i).map Prod.fst).Nodup := by
    rw [List.Nodup, List.pairwise_map]
    exact (h.ascending i).imp fun hlt => Nat.ne_of_lt hlt
  refine ⟨?_, ?_, fun j x hx => h.pending_lt j x (mem_emptied hx).2, h.emptied_ascending i, ?_, ?_⟩
  · intro x hx
    rcases List.mem_append.mp hx with hx | hx
    · exact h.log_lt x hx
    · exact h.pending_lt i x hx
  · show ((b.log ++ b.pending i).map Prod.fst).Nodup
    rw [List.map_append, List.nodup_append]
    refine ⟨h.log_nodup, hpending, ?_⟩
    rintro n hn m hm rfl
    obtain ⟨x, hx, rfl⟩ := List.mem_map.mp hn
    obtain ⟨y, hy, hxy⟩ := List.mem_map.mp hm
    exact h.fresh i y hy x hx hxy.symm
  · intro j x hx other hother
    obtain ⟨hj, hx⟩ := mem_emptied hx
    rcases List.mem_append.mp hother with hother | hother
    · exact h.fresh j x hx other hother
    · exact h.apart j i hj x hx other hother
  · intro j k hne x hx other hother
    exact h.apart j k hne x (mem_emptied hx).2 other (mem_emptied hother).2

theorem Numbered.discard (h : b.Numbered) (i : ι) : (b.discard i).Numbered := by
  refine ⟨h.log_lt, h.log_nodup, fun j x hx => h.pending_lt j x (mem_emptied hx).2,
    h.emptied_ascending i, fun j x hx => h.fresh j x (mem_emptied hx).2, ?_⟩
  intro j k hne x hx other hother
  exact h.apart j k hne x (mem_emptied hx).2 other (mem_emptied hother).2

end Book

end Sequenced
