/-
# CellFlow.Lib.WorkerPool — runners that share a cursor over a batch.

`size` items are handed out in order to a number of runners.  A runner takes the next item, works on
it, and comes back for another; a runner whose work fails ends there.  The caller goes on (`settle`) as
soon as a runner has failed, or once all have stopped, and the others still run after that.  Whatever
the order of the moves, a pool settles after every item was finished, or after a failure
(`settled_cases`).
-/
import CellFlow.Lib.Runs
import Mathlib.Algebra.Order.Ring.Int

namespace WorkerPool

open Runs (Run)

/-- What a runner is doing. -/
inductive Runner where
  | idle
  | busy (item : Nat)
  | done
  | failed
  deriving DecidableEq, Repr

/-- `handed` are the items taken, in order; `settled` those taken when the caller went on. -/
structure Pool where
  cursor : Nat
  runners : List Runner
  handed : List Nat
  finished : List Nat
  settled : Option (List Nat)
  deriving DecidableEq, Repr

/-- What happens next in the pool. -/
inductive Move where
  | take (runner : Nat)
  | finish (runner : Nat)
  | stop (runner : Nat)
  | settle
  deriving DecidableEq, Repr

/-- No more runners than items. -/
def start (size concurrency : Nat) : Pool where
  cursor := 0
  runners := List.replicate (min concurrency size) .idle
  handed := []
  finished := []
  settled := none

section

variable (size : Nat) (fails : Nat → Bool)

/-- The pool after a move, if the move can be made. -/
def move (p : Pool) : Move → Option Pool
  | .take r =>
      match p.runners[r]? with
      | some .idle =>
          if p.cursor < size then
            some { p with
              cursor := p.cursor + 1
              runners := p.runners.set r (.busy p.cursor)
              handed := p.handed ++ [p.cursor] }
          else none
      | _ => none
  | .finish r =>
      match p.runners[r]? with
      | some (.busy item) =>
          some { p with
            runners := p.runners.set r (if fails item then .failed else .idle)
            finished := item :: p.finished }
      | _ => none
  | .stop r =>
      match p.runners[r]? with
      | some .idle =>
          if size ≤ p.cursor then some { p with runners := p.runners.set r .done } else none
      | _ => none
  | .settle =>
      if p.settled = none ∧ (.failed ∈ p.runners ∨ ∀ runner ∈ p.runners, runner = .done) then
        some { p with settled := some p.handed }
      else none

/-- One move of the pool, as a relation. -/
def Step (p : Pool) (m : Move) (q : Pool) : Prop := move size fails p m = some q

end

/-! ## What a move does -/

variable {size concurrency : Nat} {fails : Nat → Bool} {p q : Pool} {m : Move}

/-- The changes a move can make. -/
inductive Change (size : Nat) (fails : Nat → Bool) (p : Pool) : Pool → Prop where
  | taken {r : Nat} (hrunner : p.runners[r]? = some .idle) (hleft : p.cursor < size) :
      Change size fails p
        { p with
          cursor := p.cursor + 1
          runners := p.runners.set r (.busy p.cursor)
          handed := p.handed ++ [p.cursor] }
  | finished {r item : Nat} {next : Runner} (hrunner : p.runners[r]? = some (.busy item))
      (hnext : fails item = true ∧ next = .failed ∨ fails item = false ∧ next = .idle) :
      Change size fails p
        { p with runners := p.runners.set r next, finished := item :: p.finished }
  | stopped {r : Nat} (hrunner : p.runners[r]? = some .idle) (hover : size ≤ p.cursor) :
      Change size fails p { p with runners := p.runners.set r .done }
  | settled (hready : .failed ∈ p.runners ∨ ∀ runner ∈ p.runners, runner = .done) :
      Change size fails p { p with settled := some p.handed }

/-- **What a move does.** -/
theorem change_of_step (h : Step size fails p m q) : Change size fails p q := by
  unfold Step at h
  cases m with
  | take r =>
      simp only [move] at h
      split at h
      next hrunner =>
        split_ifs at h with hleft
        obtain rfl := Option.some.inj h
        exact .taken hrunner hleft
      · cases h
  | finish r =>
      simp only [move] at h
      split at h
      next item hrunner =>
        obtain rfl := Option.some.inj h
        refine .finished hrunner ?_
        cases fails item with
        | true => exact Or.inl ⟨rfl, rfl⟩
        | false => exact Or.inr ⟨rfl, rfl⟩
      · cases h
  | stop r =>
      simp only [move] at h
      split at h
      next hrunner =>
        split_ifs at h with hover
        obtain rfl := Option.some.inj h
        exact .stopped hrunner hover
      · cases h
  | settle =>
      simp only [move] at h
      split_ifs at h with hready
      obtain rfl := Option.some.inj h
      exact .settled hready.2

/-! ## The invariant -/

/-- A runner of another place, or of another state, is still there when one runner changes. -/
theorem mem_set_of_ne {runners : List Runner} {r : Nat} {old new other : Runner}
    (hold : runners[r]? = some old) (hmem : other ∈ runners) (hne : other ≠ old) :
    other ∈ runners.set r new := by
  obtain ⟨k, hk, rfl⟩ := List.mem_iff_getElem.mp hmem
  have hkr : r ≠ k := by
    rintro rfl
    rw [List.getElem?_eq_getElem hk] at hold
    exact hne (Option.some.inj hold)
  refine List.mem_iff_getElem.mpr ⟨k, by rwa [List.length_set], ?_⟩
  exact List.getElem_set_ne hkr _

theorem mem_of_mem_set {runners : List Runner} {r : Nat} {new other : Runner}
    (hmem : other ∈ runners.set r new) (hne : other ≠ new) : other ∈ runners :=
  (List.mem_or_eq_of_mem_set hmem).resolve_right hne

/-- Items are handed out in order, and worked on by a runner until they are finished; a pool has
settled after a failure, or with every item finished. -/
structure PoolInv (size concurrency : Nat) (fails : Nat → Bool) (p : Pool) : Prop where
  handed : p.handed = List.range p.cursor
  bound : p.cursor ≤ size
  worked : ∀ item < p.cursor, item ∈ p.finished ∨ .busy item ∈ p.runners
  taken : ∀ item, .busy item ∈ p.runners → item < p.cursor
  finished : ∀ item ∈ p.finished, item < p.cursor
  done : .done ∈ p.runners → p.cursor = size
  failed : .failed ∈ p.runners → ∃ item ∈ p.finished, fails item = true
  count : p.runners.length = min concurrency size
  settled : ∀ handed, p.settled = some handed → (∃ item ∈ p.finished, fails item = true) ∨
    handed = List.range size ∧ ∀ item < size, item ∈ p.finished

theorem poolInv_start : PoolInv size concurrency fails (start size concurrency) where
  handed := rfl
  bound := Nat.zero_le _
  worked := by
    intro item hitem
    exact absurd hitem (Nat.not_lt_zero _)
  taken := by
    intro item hitem
    cases List.eq_of_mem_replicate hitem
  finished := by
    intro item hitem
    cases hitem
  done := by
    intro hdone
    cases List.eq_of_mem_replicate hdone
  failed := by
    intro hfailed
    cases List.eq_of_mem_replicate hfailed
  count := List.length_replicate
  settled := by
    intro handed hsettled
    cases hsettled

/-- Once every runner has stopped, every item is finished. -/
theorem PoolInv.all_finished (hi : PoolInv size concurrency fails p) (hc : 0 < concurrency)
    (hdone : ∀ runner ∈ p.runners, runner = .done) :
    p.cursor = size ∧ ∀ item < size, item ∈ p.finished := by
  have hcursor : p.cursor = size := by
    -- an empty batch has no runner, any other at least one
    rcases Nat.eq_zero_or_pos size with hzero | hpos
    · have hbound := hi.bound
      omega
    · have hsome : 0 < p.runners.length := by
        rw [hi.count]
        omega
      obtain ⟨runner, hrunner⟩ := List.exists_mem_of_length_pos hsome
      obtain rfl := hdone runner hrunner
      exact hi.done hrunner
  refine ⟨hcursor, ?_⟩
  intro item hitem
  rcases hi.worked item (hcursor.symm ▸ hitem) with hfinished | hbusy
  · exact hfinished
  · cases hdone _ hbusy

theorem PoolInv.step (hi : PoolInv size concurrency fails p) (hc : 0 < concurrency)
    (h : Change size fails p q) : PoolInv size concurrency fails q := by
  cases h with
  | @taken r hrunner hleft =>
      have hlength : r < p.runners.length := (List.getElem?_eq_some_iff.mp hrunner).1
      have hnew : Runner.busy p.cursor ∈ p.runners.set r (.busy p.cursor) :=
        List.mem_set hlength _
      constructor
      · show p.handed ++ [p.cursor] = List.range (p.cursor + 1)
        rw [hi.handed, List.range_succ]
      · exact hleft
      · intro item hitem
        rcases Nat.lt_succ_iff_lt_or_eq.mp hitem with hbefore | rfl
        · refine (hi.worked item hbefore).imp_right fun hbusy => ?_
          exact mem_set_of_ne hrunner hbusy (by simp)
        · exact Or.inr hnew
      · intro item hbusy
        rcases List.mem_or_eq_of_mem_set hbusy with hbefore | hsame
        · exact Nat.lt_succ_of_lt (hi.taken item hbefore)
        · rw [Runner.busy.inj hsame]
          exact Nat.lt_succ_self _
      · intro item hitem
        exact Nat.lt_succ_of_lt (hi.finished item hitem)
      · intro hdone
        -- a runner has stopped only once nothing is left, but this item was
        have hover := hi.done (mem_of_mem_set hdone (by simp))
        omega
      · intro hfailed
        exact hi.failed (mem_of_mem_set hfailed (by simp))
      · rw [List.length_set]
        exact hi.count
      · exact hi.settled
  | @finished r item next hrunner hnext =>
      have hbusy : Runner.busy item ∈ p.runners := List.mem_of_getElem? hrunner
      constructor
      · exact hi.handed
      · exact hi.bound
      · intro other hother
        by_cases hsame : other = item
        · exact Or.inl (hsame ▸ List.mem_cons_self)
        · rcases hi.worked other hother with hfinished | hworked
          · exact Or.inl (List.mem_cons_of_mem _ hfinished)
          · exact Or.inr (mem_set_of_ne hrunner hworked fun heq => hsame (Runner.busy.inj heq))
      · intro other hother
        -- the runner is idle or failed now, so no busy one is new
        rcases List.mem_or_eq_of_mem_set hother with hbefore | rfl
        · exact hi.taken other hbefore
        · simp at hnext
      · exact List.forall_mem_cons.mpr ⟨hi.taken item hbusy, hi.finished⟩
      · intro hdone
        rcases List.mem_or_eq_of_mem_set hdone with hbefore | rfl
        · exact hi.done hbefore
        · simp at hnext
      · intro hfailed
        rcases List.mem_or_eq_of_mem_set hfailed with hbefore | rfl
        · obtain ⟨other, hother, hfails⟩ := hi.failed hbefore
          exact ⟨other, List.mem_cons_of_mem _ hother, hfails⟩
        · simp only [reduceCtorEq, and_true, and_false, or_false] at hnext
          exact ⟨item, List.mem_cons_self, hnext⟩
      · rw [List.length_set]
        exact hi.count
      · intro handed hsettled
        rcases hi.settled handed hsettled with ⟨other, hother, hfails⟩ | ⟨hall, hfinished⟩
        · exact Or.inl ⟨other, List.mem_cons_of_mem _ hother, hfails⟩
        · exact Or.inr ⟨hall, fun other hother => List.mem_cons_of_mem _ (hfinished other hother)⟩
  | @stopped r hrunner hover =>
      constructor
      · exact hi.handed
      · exact hi.bound
      · intro item hitem
        refine (hi.worked item hitem).imp_right fun hbusy => ?_
        exact mem_set_of_ne hrunner hbusy (by simp)
      · intro item hbusy
        exact hi.taken item (mem_of_mem_set hbusy (by simp))
      · exact hi.finished
      · intro _
        exact Nat.le_antisymm hi.bound hover
      · intro hfailed
        exact hi.failed (mem_of_mem_set hfailed (by simp))
      · rw [List.length_set]
        exact hi.count
      · exact hi.settled
  | settled hready =>
      refine ⟨hi.handed, hi.bound, hi.worked, hi.taken, hi.finished, hi.done, hi.failed, hi.count, ?_⟩
      intro handed hsettled
      obtain rfl := Option.some.inj hsettled
      rcases hready with hfailed | hdone
      · exact Or.inl (hi.failed hfailed)
      · obtain ⟨hcursor, hfinished⟩ := hi.all_finished hc hdone
        refine Or.inr ⟨?_, hfinished⟩
        rw [hi.handed, hcursor]

theorem poolInv_run {moves : List Move} (hc : 0 < concurrency)
    (h : Run (Step size fails) (start size concurrency) moves p) :
    PoolInv size concurrency fails p :=
  Run.inv (PoolInv size concurrency fails) poolInv_start
    (fun _ _ _ hi hs => hi.step hc (change_of_step hs)) h

/-- **How a pool settles**: after a failure, or with every item handed out once and finished. -/
theorem settled_cases {moves : List Move} (hc : 0 < concurrency)
    (h : Run (Step size fails) (start size concurrency) moves p) {handed : List Nat}
    (hs : p.settled = some handed) :
    (∃ item ∈ p.finished, item < size ∧ fails item = true) ∨
      handed = List.range size ∧ ∀ item < size, item ∈ p.finished := by
  have hi := poolInv_run hc h
  refine (hi.settled handed hs).imp_left ?_
  rintro ⟨item, hfinished, hfails⟩
  exact ⟨item, hfinished, Nat.lt_of_lt_of_le (hi.finished item hfinished) hi.bound, hfails⟩

/-! ## Progress -/

/-- The moves a runner still has to make for itself. -/
def Runner.weight : Runner → Nat
  | .idle => 1
  | .busy _ => 2
  | .done => 0
  | .failed => 0

/-- A bound on the moves before the pool settles. -/
def Pool.measure (size : Nat) (p : Pool) : Nat :=
  2 * (size - p.cursor) + (p.runners.map Runner.weight).sum

theorem sum_weight_set {runners : List Runner} {r : Nat} {old : Runner}
    (hold : runners[r]? = some old) (new : Runner) :
    ((runners.set r new).map Runner.weight).sum + old.weight =
      (runners.map Runner.weight).sum + new.weight := by
  induction runners generalizing r with
  | nil => cases hold
  | cons runner rest ih =>
      cases r with
      | zero =>
          obtain rfl : runner = old := Option.some.inj hold
          simp only [List.set_cons_zero, List.map_cons, List.sum_cons]
          omega
      | succ r =>
          have hrest := ih (r := r) hold
          simp only [List.set_cons_succ, List.map_cons, List.sum_cons]
          omega

/-- **Progress**: a pool that has not settled settles, or makes a move that brings it nearer. -/
theorem progress (size : Nat) (fails : Nat → Bool) (hs : p.settled = none) :
    ∃ m q, Step size fails p m q ∧
      (q.settled = some p.handed ∨ q.settled = none ∧ q.measure size < p.measure size) := by
  by_cases hready : Runner.failed ∈ p.runners ∨ ∀ runner ∈ p.runners, runner = .done
  · exact ⟨.settle, { p with settled := some p.handed }, if_pos ⟨hs, hready⟩, Or.inl rfl⟩
  · push Not at hready
    obtain ⟨hnone, runner, hmem, hrunning⟩ := hready
    obtain ⟨r, hr⟩ := List.mem_iff_getElem?.mp hmem
    cases runner with
    | idle =>
        by_cases hleft : p.cursor < size
        · have hstep : Step size fails p (.take r)
              { p with
                cursor := p.cursor + 1
                runners := p.runners.set r (.busy p.cursor)
                handed := p.handed ++ [p.cursor] } := by
            simp only [Step, move, hr, if_pos hleft]
          have hsum := sum_weight_set hr (.busy p.cursor)
          refine ⟨_, _, hstep, Or.inr ⟨hs, ?_⟩⟩
          simp only [Runner.weight] at hsum
          simp only [Pool.measure]
          omega
        · have hstep : Step size fails p (.stop r) { p with runners := p.runners.set r .done } := by
            simp only [Step, move, hr, if_pos (Nat.le_of_not_lt hleft)]
          have hsum := sum_weight_set hr .done
          refine ⟨_, _, hstep, Or.inr ⟨hs, ?_⟩⟩
          simp only [Runner.weight] at hsum
          simp only [Pool.measure]
          omega
    | busy item =>
        have hstep : Step size fails p (.finish r)
            { p with
              runners := p.runners.set r (if fails item then .failed else .idle)
              finished := item :: p.finished } := by
          simp only [Step, move, hr]
        have hsum := sum_weight_set hr (if fails item then .failed else .idle)
        refine ⟨_, _, hstep, Or.inr ⟨hs, ?_⟩⟩
        simp only [Pool.measure]
        cases hfails : fails item with
        | true =>
            simp only [hfails, if_true, Runner.weight] at hsum ⊢
            omega
        | false =>
            simp only [hfails, Bool.false_eq_true, if_false, Runner.weight] at hsum ⊢
            omega
    | done => exact absurd rfl hrunning
    | failed => exact absurd hmem hnone

/-- **Every pool settles**: from where it is, some moves lead to a settled pool. -/
theorem settles (size : Nat) (fails : Nat → Bool) (p : Pool) (hs : p.settled = none) :
    ∃ moves q handed, Run (Step size fails) p moves q ∧ q.settled = some handed := by
  obtain ⟨m, q, hstep, hsettled | ⟨hopen, hless⟩⟩ := progress size fails hs
  · exact ⟨[m], q, p.handed, .single hstep, hsettled⟩
  · obtain ⟨moves, q', handed, hrun, hsettled⟩ := settles size fails q hopen
    exact ⟨m :: moves, q', handed, (Run.single hstep).append hrun, hsettled⟩
termination_by p.measure size

end WorkerPool
