/-
# CellFlow.Workers.ReconcileDue — batches of due executions, on a clock.

`reconcileDue` of `workflows/reconcile/src/reconcile.ts`: a batch claims rows under one lease id, reads
them, and hands them to its runners; a worker renews the lease of its row, reconciles, and releases.
Any number of batches run against one table of executions, which the rest of the program writes too.
`now` is the time; a statement reads its own `now()` earlier, or at that time.
-/
import CellFlow.Api.Machine
import CellFlow.Db.ReconcileLease
import CellFlow.Lib.TimedPool
import CellFlow.Workers.Batches

namespace CellFlow

/-! ## The settings of a batch -/

/-- The argument of `reconcileDue` and the two variables it reads, as floors of numbers. -/
structure DueSettings where
  limit : Int
  concurrency : Option Int
  rpcTimeoutMs : Option Int
  deriving DecidableEq, Repr

/-- `Math.ceil(a / b)`. -/
def ceilDiv (a b : Int) : Int := (a + b - 1) / b

namespace DueSettings

variable (settings : DueSettings)

/-- At least 1 and at most 100 rows. -/
def boundedLimit : Int := min (max settings.limit 1) 100

/-- The number of runners, 4 by default. -/
def reconcileConcurrency : Int := boundedInteger settings.concurrency 4 1 8

/-- `reconcileItemLeaseSeconds`: seven calls at the timeout and half a minute, within bounds. -/
def reconcileItemLeaseSeconds : Int :=
  let rpcTimeoutMs := boundedInteger settings.rpcTimeoutMs 10000 1000 30000
  min 900 (max 120 (ceilDiv (rpcTimeoutMs * 7) 1000 + 30))

/-- `Math.ceil(boundedLimit / concurrency)`, at least one. -/
def rounds : Int := max 1 (ceilDiv settings.boundedLimit settings.reconcileConcurrency)

/-- The lease at the claim: enough for all rounds, and an hour at most. -/
def initialLeaseSeconds : Int := min 3600 (settings.reconcileItemLeaseSeconds * settings.rounds)

/-- The item lease in milliseconds. -/
def itemLeaseMs : Int := settings.reconcileItemLeaseSeconds * 1000

theorem concurrency_bounds :
    1 ≤ settings.reconcileConcurrency ∧ settings.reconcileConcurrency ≤ 8 := by
  unfold reconcileConcurrency boundedInteger
  split <;> omega

theorem itemLease_bounds :
    120 ≤ settings.reconcileItemLeaseSeconds ∧ settings.reconcileItemLeaseSeconds ≤ 900 := by
  simp only [reconcileItemLeaseSeconds]
  omega

theorem one_le_rounds : 1 ≤ settings.rounds := le_max_left _ _

/-- An item of the batch waits for less than `rounds` rounds. -/
theorem round_lt {item : Nat} (h : (item : Int) < settings.boundedLimit) :
    ((item / settings.reconcileConcurrency.toNat : Nat) : Int) + 1 ≤ settings.rounds := by
  obtain ⟨hpos, -⟩ := settings.concurrency_bounds
  have hcast : (settings.reconcileConcurrency.toNat : Int) = settings.reconcileConcurrency :=
    Int.toNat_of_nonneg (by omega)
  rw [Int.natCast_div, hcast]
  have hnext : (item : Int) / settings.reconcileConcurrency + 1 =
      (item + settings.reconcileConcurrency) / settings.reconcileConcurrency := by
    rw [Int.add_ediv_of_dvd_right (dvd_refl _), Int.ediv_self (by omega)]
  rw [hnext]
  refine le_trans ?_ (le_max_right _ _)
  exact Int.ediv_le_ediv (by omega) (by omega)

end DueSettings

/-! ## Batches against the table -/

/-- A batch that has claimed its rows. -/
structure DueBatch where
  settings : DueSettings
  executions : List String
  claimedAt : Int
  deriving DecidableEq, Repr

namespace DueBatch

variable (batch : DueBatch)

/-- The number of rows. -/
def size : Nat := batch.executions.length

/-- The number of runners, before it is cut to the number of rows. -/
def concurrency : Nat := batch.settings.reconcileConcurrency.toNat

/-- The id of an item's execution. -/
def executionId (item : Nat) : String := batch.executions[item]?.getD ""

/-- The runners at the start. -/
def timed (now : Int) : WorkerPool.Timed :=
  ⟨WorkerPool.start batch.size batch.concurrency, fun _ => now⟩

/-- `reconcileWorker` catches what its calls throw, so no runner fails. -/
def move (now : Int) (timed : WorkerPool.Timed) (m : WorkerPool.Move) : Option WorkerPool.Timed :=
  timed.move batch.size (fun _ => false) now m

end DueBatch

/-- How far the worker of an item is.  `lost` and `failed` are a renewal that was refused, and one that
threw. -/
inductive ItemStage where
  | waiting
  | working (renewedAt : Int)
  | lost
  | failed
  | released
  deriving DecidableEq, Repr

/-- What a worker makes of the answer to its renewal; `none` is no answer. -/
def renewalStage (now : Int) : Option Bool → ItemStage
  | some true => .working now
  | some false => .lost
  | none => .failed

/-- A runner is done with its item once the worker has released the lease, or has tried to. -/
def mayMove (stage : Nat → ItemStage) (p : WorkerPool.Pool) : WorkerPool.Move → Bool
  | .finish r =>
      match p.runners[r]? with
      | some (.busy item) => stage item = .released
      | _ => false
  | _ => true

/-- A batch by its lease id: reading its rows, with its runners at work, or ended. -/
inductive DuePhase where
  | unborn
  | reading (batch : DueBatch)
  | running (batch : DueBatch) (startedAt : Int) (timed : WorkerPool.Timed) (stage : Nat → ItemStage)
  | gone

/-- The time, the rows of `executions`, and where each batch is. -/
structure LeaseWorld where
  now : Int
  rows : List LeasedExecution
  phase : String → DuePhase

/-- The batch has come further. -/
def LeaseWorld.set (w : LeaseWorld) (leaseId : String) (phase : DuePhase) : LeaseWorld :=
  { w with phase := Function.update w.phase leaseId phase }

/-- What happens next: time passes, a batch makes a move, or another writer does. -/
inductive DueEvent where
  | pass (elapsed : Nat)
  | claim (leaseId : String) (claimed : List String)
  | start (leaseId : String)
  | runner (leaseId : String) (m : WorkerPool.Move)
  | renew (leaseId : String) (item : Nat) (answer : Option Bool)
  | release (leaseId : String) (item : Nat)
  | crash (leaseId : String)
  | write (executionId : String) (op : Op)
  | insert (executionId : String) (req : CreateRequest)

/-- One move.  A batch may end at any time; a statement may take effect without an answer. -/
inductive DueStep : LeaseWorld → DueEvent → LeaseWorld → Prop where
  | passed {w : LeaseWorld} (elapsed : Nat) :
      DueStep w (.pass elapsed) { w with now := w.now + elapsed }
  | claimed {w : LeaseWorld} {leaseId : String} (settings : DueSettings) (locked : List String)
      {now : Int} {selected : List String} (hnew : w.phase leaseId = .unborn) (hnow : now ≤ w.now)
      (hselected : selected = selectDue settings.boundedLimit locked now w.rows) :
      DueStep w (.claim leaseId selected)
        { w.set leaseId (.reading ⟨settings, selected, now⟩) with
          rows := leaseSelected selected leaseId settings.initialLeaseSeconds now w.rows }
  | started {w : LeaseWorld} {leaseId : String} {batch : DueBatch}
      (hreading : w.phase leaseId = .reading batch) :
      DueStep w (.start leaseId)
        (w.set leaseId (.running batch w.now (batch.timed w.now) fun _ => .waiting))
  | ran {w : LeaseWorld} {leaseId : String} {m : WorkerPool.Move} {batch : DueBatch}
      {startedAt : Int} {timed timed' : WorkerPool.Timed} {stage : Nat → ItemStage}
      (hrunning : w.phase leaseId = .running batch startedAt timed stage)
      (hmay : mayMove stage timed.pool m = true) (hmove : batch.move w.now timed m = some timed') :
      DueStep w (.runner leaseId m) (w.set leaseId (.running batch startedAt timed' stage))
  | renewal {w : LeaseWorld} {leaseId : String} {item : Nat} {now : Int} {served : Bool}
      {answer : Option Bool} {batch : DueBatch} {startedAt : Int} {timed : WorkerPool.Timed}
      {stage : Nat → ItemStage} (hrunning : w.phase leaseId = .running batch startedAt timed stage)
      (hbusy : .busy item ∈ timed.pool.runners) (hwaiting : stage item = .waiting)
      (hsent : timed.takenAt item ≤ now) (hnow : now ≤ w.now)
      (hanswer : ∀ granted, answer = some granted →
        served = true ∧ granted = renewed (batch.executionId item) leaseId w.rows) :
      DueStep w (.renew leaseId item answer)
        { w.set leaseId
            (.running batch startedAt timed (Function.update stage item (renewalStage now answer))) with
          rows :=
            if served then
              renewReconcileLease (batch.executionId item) leaseId
                batch.settings.reconcileItemLeaseSeconds now w.rows
            else w.rows }
  | released {w : LeaseWorld} {leaseId : String} {item : Nat} (served : Bool) {batch : DueBatch}
      {startedAt : Int} {timed : WorkerPool.Timed} {stage : Nat → ItemStage}
      (hrunning : w.phase leaseId = .running batch startedAt timed stage)
      (hbusy : .busy item ∈ timed.pool.runners) (hdone : stage item ≠ .waiting)
      (honce : stage item ≠ .released) :
      DueStep w (.release leaseId item)
        { w.set leaseId (.running batch startedAt timed (Function.update stage item .released)) with
          rows :=
            if served then releaseReconcileLease (batch.executionId item) leaseId w.rows
            else w.rows }
  | crashed {w : LeaseWorld} (leaseId : String) : DueStep w (.crash leaseId) (w.set leaseId .gone)
  | written {w : LeaseWorld} {executionId : String} {row : LeasedExecution} {op : Op}
      {view : IntentAggregate} {db t : Store} (hrow : rowOf executionId w.rows = some row)
      (hdb : db.execution = row.execution) (hcommit : op.commit view db = some t) :
      DueStep w (.write executionId op)
        { w with rows := writeExecution executionId t.execution w.rows }
  | inserted {w : LeaseWorld} {executionId : String} (req : CreateRequest)
      (hfresh : executionId ∉ w.rows.map (·.id)) :
      DueStep w (.insert executionId req)
        { w with rows := insertExecution executionId (serviceCreateIntent req).execution w.rows }

/-- Rows without a lease, and no batch yet. -/
structure UnclaimedTable where
  rows : List LeasedExecution
  unique : (rows.map (·.id)).Nodup
  free : ∀ row ∈ rows, row.reconcileLeaseId = none ∧ row.execution.reconcileLeaseUntil = none

/-- The world before any claim. -/
def UnclaimedTable.world (table : UnclaimedTable) (now : Int) : LeaseWorld where
  now := now
  rows := table.rows
  phase := fun _ => .unborn

end CellFlow
