/-
# CellFlow.Api.EventLog — the audit log in the order a reader sees it.

`getEvents` orders by `state_events.sequence`, a `bigserial` drawn when the row is inserted and not when
its transaction commits.  The writes of the execution row insert their events after their update of
that row, and so under its lock; an operator note draws its number first and waits for the lock at its
last statement; a preflight result takes no lock at all.  `LogStep` is the machine of
`CellFlow.Api.Machine` with the statements of its transactions apart.
-/
import CellFlow.Lib.Sequenced
import CellFlow.Api.Machine

namespace CellFlow

open Optimistic (World)
open Runs (Run)
open Sequenced (Book)

/-- The event inserts of the operation stand after its update of the execution row. -/
def Op.guarded : Op → Bool
  | .attach _ _ _ => true
  | .mark _ _ => true
  | .observe _ => true
  | .probe _ _ => true
  | .preflight _ _ _ _ => false
  | .operatorNote _ _ => false

/-- The transaction updates the execution row before it commits.  A probe does so only where it
promotes, and then inserts events under the lock. -/
def Op.updatesRow : Op → Bool
  | .attach _ _ _ => true
  | .mark _ _ => true
  | .observe _ => true
  | .probe _ _ => false
  | .preflight _ _ _ _ => false
  | .operatorNote _ _ => true

/-- The rows of one intent, its numbered events, the transaction that holds the lock of the execution
row, and the transactions under way.  Other intents draw from the same sequence, which only leaves
gaps. -/
structure LogWorld where
  world : World Store
  book : Book Nat StateEvent
  writer : Option Nat
  running : Nat → Option Act

/-- The statements of the transactions.  The label of a commit names what it commits. -/
inductive LogMove where
  | begin (id : Nat) (act : Act)
  | lock (id : Nat)
  | insert (id : Nat) (event : StateEvent)
  | commit (id : Nat) (act : Act)
  | rollback (id : Nat)

namespace LogWorld

variable (w : LogWorld)

/-- The end of a transaction gives the lock back. -/
def closed (id : Nat) : LogWorld :=
  { w with
    writer := if w.writer = some id then none else w.writer
    running := Function.update w.running id none }

end LogWorld

/-- No transaction is under way, and the events are numbered as they were committed. -/
def LogWorld.quiet (w : World Store) : LogWorld where
  world := w
  book :=
    { log := w.current.events.zipIdx.map Prod.swap
      next := w.current.events.length
      pending := fun _ => [] }
  writer := none
  running := fun _ => none

/-- A new intent: the event of its creation is committed. -/
def LogWorld.opening (req : CreateRequest) : LogWorld := .quiet (CellFlow.opening req)

/-- **One statement.**  A transaction commits exactly the events it has inserted. -/
inductive LogStep (w : LogWorld) : LogMove → LogWorld → Prop where
  | begin {id : Nat} {act : Act} (hfree : w.running id = none) (hrows : act.rows ∈ w.world.views)
      (hlater : act.later ∈ w.world.views) :
      LogStep w (.begin id act) { w with running := Function.update w.running id (some act) }
  | lock {id : Nat} {act : Act} (hrun : w.running id = some act) (hfree : w.writer = none) :
      LogStep w (.lock id) { w with writer := some id }
  | insert {id : Nat} {act : Act} {event : StateEvent} (hrun : w.running id = some act)
      (hheld : act.op.guarded = true → w.writer = some id) :
      LogStep w (.insert id event) { w with book := w.book.insert id event }
  | commit {id : Nat} {act : Act} {db : Store} (hrun : w.running id = some act)
      (hheld : act.op.updatesRow = true → w.writer = some id)
      (hcommit : act.op.commit act.view w.world.current = some db)
      (hevents : db.events = w.world.current.events ++ (w.book.pending id).map Prod.snd) :
      LogStep w (.commit id act)
        { w.closed id with world := w.world.commit db, book := w.book.commit id }
  | rollback {id : Nat} {act : Act} (hrun : w.running id = some act) :
      LogStep w (.rollback id) { w.closed id with book := w.book.discard id }

/-! ## What every run keeps -/

/-- The rows are those of a run of the machine, every transaction has read states the store has had,
and the numbers are in order. -/
structure LogInv (req : CreateRequest) (w : LogWorld) : Prop where
  reachable : ∃ acts, Run Step (opening req) acts w.world
  views : ∀ id act, w.running id = some act →
    act.rows ∈ w.world.views ∧ act.later ∈ w.world.views
  numbered : w.book.Numbered

section Invariant

variable {req : CreateRequest} {w w' : LogWorld} {move : LogMove}

theorem LogInv.opening (req : CreateRequest) : LogInv req (LogWorld.opening req) := by
  refine ⟨⟨[], .start⟩, fun id act hrun => (by cases hrun), ?_⟩
  refine ⟨?_, ?_, ?_, ?_, ?_, ?_⟩
  · intro e he
    obtain ⟨⟨event, n⟩, hmem, rfl⟩ := List.mem_map.mp he
    have hn := List.snd_lt_of_mem_zipIdx hmem
    show n < (CellFlow.opening req).current.events.length
    simpa using hn
  · show ((((serviceCreateIntent req).events.zipIdx).map Prod.swap).map Prod.fst).Nodup
    rw [List.map_map, show Prod.fst ∘ Prod.swap = (Prod.snd : StateEvent × Nat → Nat) from rfl,
      List.zipIdx_map_snd]
    exact List.nodup_range'
  · intro id e he
    cases he
  · intro id
    exact List.Pairwise.nil
  · intro id e he
    cases he
  · intro i j _ e he
    cases he

/-- A commit of the log is a step of the machine. -/
theorem LogStep.commit_step {id : Nat} {act : Act} (hi : LogInv req w)
    (h : LogStep w (.commit id act) w') : Step w.world act w'.world := by
  cases h with
  | commit hrun hheld hcommit hevents =>
      obtain ⟨hrows, hlater⟩ := hi.views id act hrun
      exact ⟨hrows, hlater, _, hcommit, rfl⟩

/-- A closed transaction is not under way. -/
theorem LogWorld.running_closed {id other : Nat} {act : Act}
    (h : (w.closed id).running other = some act) : w.running other = some act := by
  by_cases ho : other = id
  · subst ho
    simp [closed] at h
  · simpa [closed, ho] using h

/-- **One statement** keeps the invariant. -/
theorem LogInv.step (hi : LogInv req w) (h : LogStep w move w') : LogInv req w' := by
  obtain ⟨⟨acts, hrun⟩, hviews, hnumbered⟩ := hi
  cases h with
  | @begin id act hfree hrows hlater =>
      refine ⟨⟨acts, hrun⟩, fun other act' h => ?_, hnumbered⟩
      by_cases ho : other = id
      · subst ho
        rw [show act' = act by simpa using h.symm]
        exact ⟨hrows, hlater⟩
      · exact hviews other act' (by simpa [ho] using h)
  | lock _ _ => exact ⟨⟨acts, hrun⟩, hviews, hnumbered⟩
  | @insert id act event _ _ => exact ⟨⟨acts, hrun⟩, hviews, hnumbered.insert id event⟩
  | @commit id act db hact hheld hcommit hevents =>
      -- the rows change here and nowhere else, by one step of the machine
      have hstep : Step w.world act (w.world.commit db) :=
        ⟨(hviews id act hact).1, (hviews id act hact).2, db, hcommit, rfl⟩
      refine ⟨⟨_, hrun.next hstep⟩, fun other act' h => ?_, hnumbered.commit id⟩
      obtain ⟨hrows, hlater⟩ := hviews other act' (LogWorld.running_closed h)
      exact ⟨List.mem_cons_of_mem _ hrows, List.mem_cons_of_mem _ hlater⟩
  | @rollback id act hact =>
      exact ⟨⟨acts, hrun⟩, fun other act' h => hviews other act' (LogWorld.running_closed h),
        hnumbered.discard id⟩

theorem log_inv {moves : List LogMove} (h : Run LogStep (LogWorld.opening req) moves w) :
    LogInv req w :=
  h.inv (LogInv req) (LogInv.opening req) fun _ _ _ hi hst => hi.step hst

end Invariant

/-! ## One transaction at a time -/

/-- One transaction is under way and holds the lock. -/
def LogWorld.alone (w : World Store) (act : Act) (book : Book Nat StateEvent) : LogWorld where
  world := w
  book := book
  writer := some 0
  running := Function.update (fun _ => none) 0 (some act)

theorem alone_running (w : World Store) (act : Act) (book : Book Nat StateEvent) :
    (LogWorld.alone w act book).running 0 = some act := by
  simp [LogWorld.alone]

/-- The inserts of the transaction. -/
theorem run_inserts (w : World Store) (act : Act) (book : Book Nat StateEvent)
    (events : List StateEvent) :
    Run LogStep (.alone w act book) (events.map (.insert 0))
      (.alone w act (book.insertAll 0 events)) := by
  induction events generalizing book with
  | nil => exact .start
  | cons event rest ih =>
      have hfirst : LogStep (.alone w act book) (.insert 0 event)
          (.alone w act (book.insert 0 event)) :=
        .insert (alone_running w act book) fun _ => rfl
      exact (Run.single hfirst).append (ih (book.insert 0 event))

/-- **A step of the machine is a transaction run alone**, statement by statement. -/
theorem quiet_step {w w' : World Store} {act : Act} (h : Step w act w') :
    ∃ moves, Run LogStep (.quiet w) moves (.quiet w') := by
  obtain ⟨hrows, hlater, db, hcommit, rfl⟩ := h
  obtain ⟨written, hwritten⟩ := Op.commit_appends hcommit
  have hbegin : LogStep (.quiet w) (.begin 0 act)
      { LogWorld.quiet w with running := Function.update (fun _ => none) 0 (some act) } :=
    .begin rfl hrows hlater
  have hlock : LogStep { LogWorld.quiet w with running := Function.update (fun _ => none) 0 (some act) }
      (.lock 0) (.alone w act (LogWorld.quiet w).book) :=
    .lock (show Function.update (fun _ => none) 0 (some act) 0 = some act by simp) rfl
  have hbook : (LogWorld.quiet w).book.insertAll 0 written =
      { log := w.current.events.zipIdx.map Prod.swap, next := w.current.events.length + written.length
        pending := Function.update (fun _ => []) 0
          ((written.zipIdx w.current.events.length).map Prod.swap) } := by
    rw [Sequenced.Book.insertAll_eq]
    rfl
  have hevents : ((written.zipIdx w.current.events.length).map Prod.swap).map Prod.snd = written := by
    rw [List.map_map, show Prod.snd ∘ Prod.swap = (Prod.fst : StateEvent × Nat → StateEvent) from rfl,
      List.zipIdx_map_fst]
  have hcommits : LogStep (.alone w act ((LogWorld.quiet w).book.insertAll 0 written))
      (.commit 0 act) (.quiet (w.commit db)) := by
    rw [hbook]
    have hend : ∀ book : Book Nat StateEvent, (book.pending 0).map Prod.snd = written →
        LogStep (.alone w act book) (.commit 0 act)
          { (LogWorld.alone w act book).closed 0 with world := w.commit db, book := book.commit 0 } :=
      fun book hpending =>
        .commit (alone_running w act book) (fun _ => rfl) hcommit (by rw [hwritten, ← hpending]; rfl)
    convert hend _ ?_ using 1
    · simp [LogWorld.quiet, LogWorld.alone, LogWorld.closed, Sequenced.Book.commit, hwritten,
        List.zipIdx_append]
    · simpa using hevents
  exact ⟨_, ((Run.single hbegin).append ((Run.single hlock).append
    (run_inserts w act _ written))).next hcommits⟩

/-- **Every run of the machine is a run of statements.** -/
theorem quiet_run {req : CreateRequest} {acts : List Act} {w : World Store}
    (h : Run Step (opening req) acts w) :
    ∃ moves, Run LogStep (LogWorld.opening req) moves (.quiet w) := by
  induction h with
  | start => exact ⟨[], .start⟩
  | next _ hst ih =>
      obtain ⟨before, hbefore⟩ := ih
      obtain ⟨moves, hmoves⟩ := quiet_step hst
      exact ⟨before ++ moves, hbefore.append hmoves⟩

end CellFlow
