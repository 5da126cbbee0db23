/-
# CellFlow.Lib.Keyset — paging through a sorted list by the key of the last row seen.

A reader takes the first `n` rows below a bound and asks again below the bound it makes of the last
row it saw.  That bound goes through a token: `cut b` is the key the token of `b` is read back as,
and `none` where it is refused.  A token may round a key down, never up.

Such a reader sees every row exactly once iff no page boundary is lost: at each one the token is read
back and the next row still lies below it (`walk_all_iff`).  Where a boundary is lost the reader
stops or sees strictly fewer rows.
-/
import Mathlib.Data.List.Sort
import Mathlib.Order.Basic

namespace Keyset

variable {α κ : Type*} [LinearOrder κ] {n : Nat} {key : α → κ} {cut : α → Option κ}

/-! ## Walks -/

/-- `Walk n key cut rows seen`: from the remaining `rows`, asking for `n` at a time until none
follow, the reader sees `seen`. -/
inductive Walk (n : Nat) (key : α → κ) (cut : α → Option κ) : List α → List α → Prop
  | last {rows : List α} (h : rows.length ≤ n) : Walk n key cut rows rows
  | more {rows seen : List α} {b : α} {c : κ} (h : n < rows.length)
      (hlast : (rows.take n).getLast? = some b) (hcut : cut b = some c)
      (hrest : Walk n key cut ((rows.drop n).filter (key · < c)) seen) :
      Walk n key cut rows (rows.take n ++ seen)

/-- No page boundary is lost: the last row of every full page is cut above the row behind it. -/
def Kept (n : Nat) (key : α → κ) (cut : α → Option κ) (rows : List α) : Prop :=
  ∀ i b r, rows[i]? = some b → rows[i + 1]? = some r → n ∣ i + 1 → ∃ c, cut b = some c ∧ key r < c

/-- The first page of a list that does not fit one. -/
theorem Walk.page {rows seen : List α} (hw : Walk n key cut rows seen) (h : n < rows.length) :
    ∃ b c rest, (rows.take n).getLast? = some b ∧ cut b = some c ∧
      Walk n key cut ((rows.drop n).filter (key · < c)) rest ∧ seen = rows.take n ++ rest := by
  cases hw with
  | last hfits => exact absurd hfits (by omega)
  | more _ hlast hcut hrest => exact ⟨_, _, _, hlast, hcut, hrest, rfl⟩

/-- What was seen was there, in its order, and no row is seen twice. -/
theorem Walk.sublist {rows seen : List α} (h : Walk n key cut rows seen) : seen.Sublist rows := by
  induction h with
  | last h => exact List.Sublist.refl _
  | @more rows seen b c h hlast hcut hrest ih =>
      have hdrop : seen.Sublist (rows.drop n) := ih.trans List.filter_sublist
      have hsplit : rows = rows.take n ++ rows.drop n := (List.take_append_drop n rows).symm
      rw [hsplit, List.take_left' (by simp; omega)]
      exact List.Sublist.append_left hdrop _

theorem last_take (hn : 0 < n) {rows : List α} (h : n ≤ rows.length) :
    (rows.take n).getLast? = rows[n - 1]? := by
  rw [List.getLast?_eq_getElem?, List.length_take, Nat.min_eq_left h,
    List.getElem?_take_of_lt (by omega)]

/-- The boundary of the first page, and those of the pages behind it. -/
theorem kept_iff (hn : 0 < n) {rows : List α} (h : n < rows.length) :
    Kept n key cut rows ↔
      (∀ b r, (rows.take n).getLast? = some b → rows[n]? = some r → ∃ c, cut b = some c ∧ key r < c) ∧
        Kept n key cut (rows.drop n) := by
  have hpred : n - 1 + 1 = n := by omega
  rw [last_take hn h.le]
  constructor
  · intro hkept
    have hpage : n ∣ n - 1 + 1 := hpred.symm ▸ Nat.dvd_refl n
    refine ⟨fun b r hb hr => hkept (n - 1) b r hb (hpred ▸ hr) hpage, ?_⟩
    intro i b r hb hr hdvd
    rw [List.getElem?_drop] at hb hr
    have hdvd' : n ∣ n + i + 1 := by
      rw [Nat.add_assoc]
      exact (Nat.dvd_add_right (Nat.dvd_refl n)).mpr hdvd
    exact hkept (n + i) b r hb hr hdvd'
  · rintro ⟨hhead, htail⟩ i b r hb hr hdvd
    by_cases hi : i + 1 = n
    · have hi' : i = n - 1 := by omega
      subst hi'
      exact hhead b r hb (hpred ▸ hr)
    · have hle : n ≤ i := by
        have := Nat.le_of_dvd (by omega) hdvd
        omega
      obtain ⟨j, rfl⟩ := Nat.exists_eq_add_of_le hle
      refine htail j b r ?_ ?_ ?_
      · rw [List.getElem?_drop]
        exact hb
      · rw [List.getElem?_drop]
        exact hr
      · rw [Nat.add_assoc] at hdvd
        exact (Nat.dvd_add_right (Nat.dvd_refl n)).mp hdvd

/-- Below a bound above its first row, a descending list keeps every row. -/
theorem filter_of_head {rows : List α} {c : κ} (hs : rows.Pairwise (key · > key ·))
    (h : ∀ r, rows.head? = some r → key r < c) : rows.filter (key · < c) = rows := by
  rw [List.filter_eq_self]
  intro r hr
  cases rows with
  | nil => cases hr
  | cons first rest =>
      have hfirst : key first < c := h first rfl
      rcases List.mem_cons.mp hr with rfl | hr
      · simpa using hfirst
      · have hlt : key r < key first := (List.pairwise_cons.mp hs).1 r hr
        simpa using hlt.trans hfirst

/-- **A walk sees every row exactly where no boundary is lost.** -/
theorem walk_all_iff (hn : 0 < n) {rows : List α} (hs : rows.Pairwise (key · > key ·)) :
    Walk n key cut rows rows ↔ Kept n key cut rows := by
  induction hlen : rows.length using Nat.strong_induction_on generalizing rows with
  | _ m ih =>
      by_cases h : rows.length ≤ n
      · refine iff_of_true (.last h) ?_
        intro i b r hb hr hdvd
        have hi : i + 1 < rows.length := (List.getElem?_eq_some_iff.mp hr).1
        have := Nat.le_of_dvd (by omega) hdvd
        omega
      have hlt : n < rows.length := by omega
      have htail := ih (rows.drop n).length (by simp; omega)
        (hs.sublist (List.drop_sublist n rows)) rfl
      rw [kept_iff hn hlt, ← htail]
      have hhead : (rows.drop n).head? = rows[n]? := List.head?_drop
      have hbelow := hs.sublist (List.drop_sublist n rows)
      constructor
      · intro hw
        obtain ⟨b, c, rest, hlast, hcut, hrest, hseen⟩ := hw.page hlt
        have hsplit : rows.take n ++ rest = rows.take n ++ rows.drop n := by
          rw [← hseen, List.take_append_drop]
        have heq : rest = rows.drop n := List.append_cancel_left hsplit
        -- nothing behind the page was left out
        have hlong := hrest.sublist.length_le
        rw [heq] at hlong
        have hall : (rows.drop n).filter (key · < c) = rows.drop n :=
          List.filter_sublist.eq_of_length_le hlong
        rw [hall, heq] at hrest
        refine ⟨?_, hrest⟩
        intro b' r hb' hr
        obtain rfl : b = b' := Option.some.inj (hlast.symm.trans hb')
        have hmem : r ∈ rows.drop n := List.mem_of_mem_head? (hhead.trans hr)
        rw [← hall, List.mem_filter] at hmem
        exact ⟨c, hcut, by simpa using hmem.2⟩
      · rintro ⟨hfirst, hrest⟩
        have hpred : n - 1 < rows.length := by omega
        have hlast : (rows.take n).getLast? = some rows[n - 1] := by
          rw [last_take hn hlt.le]
          exact List.getElem?_eq_getElem hpred
        obtain ⟨c, hcut, hc⟩ := hfirst _ rows[n] hlast (List.getElem?_eq_getElem hlt)
        have hall : (rows.drop n).filter (key · < c) = rows.drop n := by
          apply filter_of_head hbelow
          intro r hr
          rw [hhead, List.getElem?_eq_getElem hlt] at hr
          rwa [← Option.some.inj hr]
        have hw : Walk n key cut rows (rows.take n ++ rows.drop n) := by
          refine .more hlt hlast hcut ?_
          rw [hall]
          exact hrest
        rwa [List.take_append_drop] at hw

/-! ## Asking again -/

/-- Nothing of a page lies below a bound that is at most its last key. -/
theorem filter_drop {rows : List α} {c : κ} {b : α} (hs : rows.Pairwise (key · > key ·))
    (hlast : (rows.take n).getLast? = some b) (hle : c ≤ key b) :
    (rows.drop n).filter (key · < c) = rows.filter (key · < c) := by
  obtain ⟨page, hpage⟩ := List.getLast?_eq_some_iff.mp hlast
  have hbefore : (rows.take n).filter (key · < c) = [] := by
    have hdesc := hs.sublist (List.take_sublist n rows)
    rw [hpage] at hdesc ⊢
    rw [List.filter_eq_nil_iff]
    intro r hr
    have hge : key b ≤ key r := by
      rcases List.mem_append.mp hr with hr | hr
      · exact ((List.pairwise_append.mp hdesc).2.2 r hr b List.mem_cons_self).le
      · rw [List.mem_singleton.mp hr]
    simpa using hle.trans hge
  conv_rhs => rw [← List.take_append_drop n rows]
  rw [List.filter_append, hbefore, List.nil_append]

/-- **Asking the table again**: below the cut of a row that was itself below the bound, the table
answers with what remained behind that row. -/
theorem filter_again {table : List α} {below : α → Bool} {c : κ} {b : α}
    (hs : table.Pairwise (key · > key ·))
    (hlast : ((table.filter below).take n).getLast? = some b) (hle : c ≤ key b)
    (hdown : ∀ r, key r < key b → below r = true) :
    ((table.filter below).drop n).filter (key · < c) = table.filter (key · < c) := by
  rw [filter_drop (hs.sublist List.filter_sublist) hlast hle, List.filter_filter]
  apply List.filter_congr
  intro r _
  by_cases hr : key r < c
  · simp [hr, hdown r (hr.trans_le hle)]
  · simp [hr]

end Keyset
