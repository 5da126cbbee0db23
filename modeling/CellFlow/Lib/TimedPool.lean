/-
# CellFlow.Lib.TimedPool — how long an item waits for its runner.

A worker pool on a clock.  Time passes only while no runner stands idle with an item left, and no item
is worked on for longer than `duration`.  With `concurrency` runners the items are then taken in rounds:
an item is taken within as many durations as whole rounds come before it (`ScheduleInv`).  The one step
that is not bookkeeping is `ScheduleInv.pass`: the runners hold as many different items, so one of them
was taken a round ago.
-/
import CellFlow.Lib.WorkerPool
import Mathlib.Data.Set.List
import Mathlib.Order.Interval.Finset.Nat

namespace WorkerPool

/-- A pool, and when each item was taken. -/
structure Timed where
  pool : Pool
  takenAt : Nat → Int

/-- A move at an instant. -/
def Timed.move (size : Nat) (fails : Nat → Bool) (now : Int) (t : Timed) (m : Move) : Option Timed :=
  match WorkerPool.move size fails t.pool m with
  | none => none
  | some q =>
      some
        { pool := q
          takenAt :=
            if t.pool.cursor < q.cursor then Function.update t.takenAt t.pool.cursor now
            else t.takenAt }

/-- No runner stands idle while an item is left. -/
def Pool.Eager (size : Nat) (p : Pool) : Prop := .idle ∈ p.runners → size ≤ p.cursor

/-- No item is worked on for longer than `duration`. -/
def Timed.OnTime (duration now : Int) (t : Timed) : Prop :=
  ∀ item, .busy item ∈ t.pool.runners → now ≤ t.takenAt item + duration

/-! ## Different runners hold different items -/

/-- No two runners are busy with one item. -/
def Once (runners : List Runner) : Prop :=
  ∀ r r' item : Nat, runners[r]? = some (.busy item) → runners[r']? = some (.busy item) → r = r'

theorem once_replicate_idle (n : Nat) : Once (List.replicate n .idle) := by
  intro r r' item hr
  cases List.eq_of_mem_replicate (List.mem_of_getElem? hr)

/-- A runner changes, to an item no other holds. -/
theorem Once.set {runners : List Runner} (h : Once runners) {r : Nat} {new : Runner}
    (hnew : ∀ item, new = .busy item → .busy item ∉ runners) : Once (runners.set r new) := by
  intro i j item hi hj
  rw [List.getElem?_set] at hi hj
  split at hi
  next hri =>
    split at hj
    next hrj => omega
    next =>
      split at hi
      · exact absurd (List.mem_of_getElem? hj) (hnew item (Option.some.inj hi))
      · cases hi
  next =>
    split at hj
    next =>
      split at hj
      · exact absurd (List.mem_of_getElem? hi) (hnew item (Option.some.inj hj))
      · cases hj
    next => exact h i j item hi hj

/-- Of different numbers below a bound, one is below it by as many as they are. -/
theorem exists_add_length_le {items : List Nat} {bound : Nat} (hnodup : items.Nodup)
    (hlt : ∀ item ∈ items, item < bound) (hne : items ≠ []) :
    ∃ item ∈ items, item + items.length ≤ bound := by
  by_contra hall
  push Not at hall
  have hsub : items.toFinset ⊆ Finset.Ico (bound + 1 - items.length) bound := by
    intro item hitem
    rw [List.mem_toFinset] at hitem
    have hlow := hall item hitem
    have hhigh := hlt item hitem
    rw [Finset.mem_Ico]
    omega
  have hcard := Finset.card_le_card hsub
  rw [List.toFinset_card_of_nodup hnodup, Nat.card_Ico] at hcard
  have hpos := List.length_pos_of_ne_nil hne
  omega

/-- Where every runner is busy, one of them holds an item of a round ago. -/
theorem exists_round_ago {runners : List Runner} {cursor : Nat} (hone : Once runners)
    (hbusy : ∀ runner ∈ runners, ∃ item < cursor, runner = .busy item) (hne : runners ≠ []) :
    ∃ item, .busy item ∈ runners ∧ item + runners.length ≤ cursor := by
  have hrange : runners ∈ Set.range (List.map Runner.busy) := by
    rw [Set.range_list_map]
    intro runner hrunner
    obtain ⟨item, -, hitem⟩ := hbusy runner hrunner
    exact ⟨item, hitem.symm⟩
  obtain ⟨items, rfl⟩ := hrange
  have hnodup : items.Nodup := by
    rw [List.nodup_iff_getElem?_ne_getElem?]
    intro i j hij hj heq
    have hitem : items[j]? = some items[j] := List.getElem?_eq_getElem hj
    have h := hone i j items[j] (by rw [List.getElem?_map, heq, hitem]; rfl)
      (by rw [List.getElem?_map, hitem]; rfl)
    omega
  have hlt : ∀ item ∈ items, item < cursor := by
    intro item hitem
    obtain ⟨other, hother, heq⟩ := hbusy _ (List.mem_map_of_mem hitem)
    obtain rfl := Runner.busy.inj heq
    exact hother
  obtain ⟨item, hitem, hround⟩ :=
    exists_add_length_le hnodup hlt fun h => hne (by rw [h, List.map_nil])
  refine ⟨item, List.mem_map_of_mem hitem, ?_⟩
  rw [List.length_map]
  exact hround

/-! ## What a move does to the items -/

section Items

variable {size : Nat} {fails : Nat → Bool} {now duration : Int} {t t' : Timed} {m : Move} {item : Nat}

theorem Timed.poolInv_move {concurrency : Nat} (hi : PoolInv size concurrency fails t.pool)
    (hc : 0 < concurrency) (h : t.move size fails now m = some t') :
    PoolInv size concurrency fails t'.pool := by
  unfold Timed.move at h
  split at h
  · cases h
  next q hq =>
    obtain rfl := Option.some.inj h
    exact hi.step hc (change_of_step hq)

/-- An item worked on after a move was worked on before it, or is the next one, taken now. -/
theorem Timed.busy_cases (h : t.move size fails now m = some t')
    (hbusy : .busy item ∈ t'.pool.runners) (htaken : ∀ item, .busy item ∈ t.pool.runners →
      item < t.pool.cursor) :
    .busy item ∈ t.pool.runners ∧ t'.takenAt item = t.takenAt item ∨
      item = t.pool.cursor ∧ t'.takenAt item = now := by
  unfold Timed.move at h
  split at h
  · cases h
  next q hq =>
    obtain rfl := Option.some.inj h
    cases change_of_step hq with
    | taken hrunner hleft =>
        simp only [if_pos (Nat.lt_succ_self t.pool.cursor)]
        rcases List.mem_or_eq_of_mem_set hbusy with hbefore | hsame
        · left
          rw [Function.update_of_ne (Nat.ne_of_lt (htaken item hbefore))]
          exact ⟨hbefore, rfl⟩
        · obtain rfl := Runner.busy.inj hsame
          right
          rw [Function.update_self]
          exact ⟨rfl, rfl⟩
    | finished hrunner hnext =>
        simp only [lt_irrefl, if_false]
        left
        refine ⟨mem_of_mem_set hbusy ?_, trivial⟩
        rintro rfl
        simp at hnext
    | stopped hrunner hover =>
        simp only [lt_irrefl, if_false]
        exact Or.inl ⟨mem_of_mem_set hbusy (by simp), trivial⟩
    | settled hready =>
        simp only [lt_irrefl, if_false]
        exact Or.inl ⟨hbusy, trivial⟩

/-- An item stays with its runner until that runner is done with it. -/
theorem Timed.busy_kept (h : t.move size fails now m = some t')
    (hbusy : .busy item ∈ t.pool.runners) (htaken : item < t.pool.cursor)
    (hnot : ∀ r, m = .finish r → t.pool.runners[r]? ≠ some (.busy item)) :
    .busy item ∈ t'.pool.runners ∧ t'.takenAt item = t.takenAt item := by
  unfold Timed.move at h
  split at h
  · cases h
  next q hq =>
    obtain rfl := Option.some.inj h
    cases m with
    | take r =>
        simp only [WorkerPool.move] at hq
        split at hq
        next hrunner =>
          split_ifs at hq with hleft
          obtain rfl := Option.some.inj hq
          simp only [if_pos (Nat.lt_succ_self t.pool.cursor)]
          rw [Function.update_of_ne (Nat.ne_of_lt htaken)]
          exact ⟨mem_set_of_ne hrunner hbusy (by simp), rfl⟩
        · cases hq
    | finish r =>
        simp only [WorkerPool.move] at hq
        split at hq
        next other hrunner =>
          obtain rfl := Option.some.inj hq
          simp only [lt_irrefl, if_false]
          refine ⟨mem_set_of_ne hrunner hbusy ?_, trivial⟩
          intro hsame
          exact hnot r rfl (by rw [hrunner, hsame])
        · cases hq
    | stop r =>
        simp only [WorkerPool.move] at hq
        split at hq
        next hrunner =>
          split_ifs at hq with hover
          obtain rfl := Option.some.inj hq
          simp only [lt_irrefl, if_false]
          exact ⟨mem_set_of_ne hrunner hbusy (by simp), trivial⟩
        · cases hq
    | settle =>
        simp only [WorkerPool.move] at hq
        split_ifs at hq with hready
        obtain rfl := Option.some.inj hq
        simp only [lt_irrefl, if_false]
        exact ⟨hbusy, trivial⟩

/-- An item finished after a move was finished before it, or its runner is done with it now. -/
theorem Timed.finished_cases (h : t.move size fails now m = some t')
    (hfinished : item ∈ t'.pool.finished) :
    item ∈ t.pool.finished ∨ ∃ r, m = .finish r ∧ t.pool.runners[r]? = some (.busy item) := by
  unfold Timed.move at h
  split at h
  · cases h
  next q hq =>
    obtain rfl := Option.some.inj h
    cases m with
    | take r =>
        simp only [WorkerPool.move] at hq
        split at hq
        · split_ifs at hq
          obtain rfl := Option.some.inj hq
          exact Or.inl hfinished
        · cases hq
    | finish r =>
        simp only [WorkerPool.move] at hq
        split at hq
        next other hrunner =>
          obtain rfl := Option.some.inj hq
          rcases List.mem_cons.mp hfinished with rfl | hbefore
          · exact Or.inr ⟨r, rfl, hrunner⟩
          · exact Or.inl hbefore
        · cases hq
    | stop r =>
        simp only [WorkerPool.move] at hq
        split at hq
        · split_ifs at hq
          obtain rfl := Option.some.inj hq
          exact Or.inl hfinished
        · cases hq
    | settle =>
        simp only [WorkerPool.move] at hq
        split_ifs at hq
        obtain rfl := Option.some.inj hq
        exact Or.inl hfinished

end Items

/-! ## The schedule -/

section Schedule

variable {size concurrency : Nat} {fails : Nat → Bool} {start duration now later : Int} {t : Timed}

/-- Items are taken in rounds of one duration each; `start` is when the pool was started. -/
structure ScheduleInv (size concurrency : Nat) (fails : Nat → Bool) (start duration now : Int)
    (t : Timed) : Prop where
  pool : PoolInv size concurrency fails t.pool
  once : Once t.pool.runners
  taken : ∀ item < t.pool.cursor,
    t.takenAt item ≤ now ∧ t.takenAt item ≤ start + duration * (item / concurrency : Nat)
  next : t.pool.cursor < size → now ≤ start + duration * (t.pool.cursor / concurrency : Nat)
  onTime : t.OnTime duration now

theorem scheduleInv_start (takenAt : Nat → Int) :
    ScheduleInv size concurrency fails start duration start
      ⟨WorkerPool.start size concurrency, takenAt⟩ where
  pool := poolInv_start
  once := once_replicate_idle _
  taken := by
    intro item hitem
    exact absurd hitem (Nat.not_lt_zero _)
  next := by
    intro _
    show start ≤ start + duration * (0 / concurrency : Nat)
    rw [Nat.zero_div]
    omega
  onTime := by
    intro item hbusy
    cases List.eq_of_mem_replicate hbusy

theorem ScheduleInv.move {m : Move} {t' : Timed}
    (hi : ScheduleInv size concurrency fails start duration now t) (hc : 0 < concurrency)
    (hd : 0 ≤ duration) (h : t.move size fails now m = some t') :
    ScheduleInv size concurrency fails start duration now t' := by
  have hontime : t'.OnTime duration now := by
    intro item hbusy
    rcases Timed.busy_cases h hbusy hi.pool.taken with ⟨hbefore, hsame⟩ | ⟨-, htaken⟩
    · rw [hsame]
      exact hi.onTime item hbefore
    · omega
  unfold Timed.move at h
  split at h
  · cases h
  next q hq =>
    obtain rfl := Option.some.inj h
    have hchange := change_of_step hq
    have hpool := hi.pool.step hc hchange
    cases hchange with
    | @taken r hrunner hleft =>
        have hcursor : t.pool.cursor < t.pool.cursor + 1 := Nat.lt_succ_self _
        refine ⟨hpool, ?_, ?_, ?_, hontime⟩
        · refine hi.once.set ?_
          rintro item hsame hmem
          obtain rfl := Runner.busy.inj hsame
          exact absurd (hi.pool.taken _ hmem) (Nat.lt_irrefl _)
        · intro item hitem
          simp only [if_pos hcursor]
          rcases Nat.lt_succ_iff_lt_or_eq.mp hitem with hbefore | rfl
          · rw [Function.update_of_ne (Nat.ne_of_lt hbefore)]
            exact hi.taken item hbefore
          · rw [Function.update_self]
            exact ⟨le_refl now, hi.next hleft⟩
        · intro _
          have hround : t.pool.cursor / concurrency ≤ (t.pool.cursor + 1) / concurrency :=
            Nat.div_le_div_right (Nat.le_succ _)
          have hmore : duration * (t.pool.cursor / concurrency : Nat) ≤
              duration * ((t.pool.cursor + 1) / concurrency : Nat) :=
            mul_le_mul_of_nonneg_left (Int.ofNat_le.mpr hround) hd
          exact (hi.next hleft).trans (by simpa using hmore)
    | finished hrunner hnext =>
        simp only [lt_irrefl, if_false] at hontime ⊢
        refine ⟨hpool, hi.once.set ?_, hi.taken, hi.next, hontime⟩
        rintro item rfl
        simp at hnext
    | stopped hrunner hover =>
        simp only [lt_irrefl, if_false] at hontime ⊢
        refine ⟨hpool, hi.once.set ?_, hi.taken, hi.next, hontime⟩
        rintro item hsame
        cases hsame
    | settled hready =>
        simp only [lt_irrefl, if_false] at hontime ⊢
        exact ⟨hpool, hi.once, hi.taken, hi.next, hontime⟩

/-- **Time passes**: where none is idle and none late, the next item still comes within its round. -/
theorem ScheduleInv.pass (hi : ScheduleInv size concurrency fails start duration now t)
    (hc : 0 < concurrency) (hd : 0 ≤ duration) (hfails : ∀ item, fails item = false)
    (hlater : now ≤ later) (heager : t.pool.Eager size) (hontime : t.OnTime duration later) :
    ScheduleInv size concurrency fails start duration later t := by
  refine ⟨hi.pool, hi.once, ?_, ?_, hontime⟩
  · intro item hitem
    exact ⟨(hi.taken item hitem).1.trans hlater, (hi.taken item hitem).2⟩
  · intro hleft
    have hbusy : ∀ runner ∈ t.pool.runners, ∃ item < t.pool.cursor, runner = .busy item := by
      intro runner hrunner
      cases runner with
      | idle =>
          have hover := heager hrunner
          omega
      | busy item => exact ⟨item, hi.pool.taken item hrunner, rfl⟩
      | done =>
          have hover := hi.pool.done hrunner
          omega
      | failed =>
          obtain ⟨item, -, hfailed⟩ := hi.pool.failed hrunner
          rw [hfails item] at hfailed
          cases hfailed
    have hcount := hi.pool.count
    have hne : t.pool.runners ≠ [] := by
      rintro hnil
      rw [hnil] at hcount
      simp only [List.length_nil] at hcount
      omega
    obtain ⟨item, hitem, hround⟩ := exists_round_ago hi.once hbusy hne
    rw [hcount] at hround
    have hwhole : item + concurrency ≤ t.pool.cursor := by omega
    -- the item of a round ago is not late, and was taken in its own round
    have hrounds : item / concurrency + 1 ≤ t.pool.cursor / concurrency := by
      rw [← Nat.add_div_right _ hc]
      exact Nat.div_le_div_right hwhole
    have htaken := (hi.taken item (hi.pool.taken item hitem)).2
    have hdone := hontime item hitem
    have hmore : duration * ((item / concurrency : Nat) + 1) ≤
        duration * (t.pool.cursor / concurrency : Nat) :=
      mul_le_mul_of_nonneg_left (by exact_mod_cast hrounds) hd
    rw [mul_add, mul_one] at hmore
    omega

end Schedule

end WorkerPool
