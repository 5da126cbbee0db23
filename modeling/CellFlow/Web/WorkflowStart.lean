/-
# CellFlow.Web.WorkflowStart — start calls and workflow runs of one execution.

`startReconciliationWorkflow` (`apps/web/lib/workflow.ts`) and `transactionReconciliationWorkflow`
(`apps/web/workflows/reconcile-intent.ts`) as the moves of any number of callers and runs on one row.
A caller may stop after any statement.  `start` may throw before or after the engine has begun the
run; the engine may repeat the completion step of a run.
-/
import CellFlow.Db.WorkflowClaim
import Mathlib.Logic.Function.Basic

namespace CellFlow

/-! ## Calls and runs -/

/-- Where a call of `startReconciliationWorkflow` is. -/
inductive StartPhase where
  /-- It holds the claim; `start` or the replacement of the claim is not done. -/
  | starting
  /-- Another claim stands; its id is still to be read. -/
  | refused
  /-- In the handler of a failed `start` or replacement. -/
  | failing
  | returned (result : String)
  | threw
  deriving DecidableEq, Repr

/-- The call is over. -/
def StartPhase.isOver : StartPhase → Bool
  | .returned _ => true
  | .threw => true
  | _ => false

/-- Where a run is in its loop of at most 720 iterations. -/
inductive RunPhase where
  | looping (iterations : Nat)
  /-- The loop is over, the row not yet marked. -/
  | completing
  | completed
  | dead
  deriving DecidableEq, Repr

/-- A run that has not marked the row, and has not died. -/
def RunPhase.isLive : RunPhase → Bool
  | .looping _ => true
  | .completing => true
  | .completed => false
  | .dead => false

/-- The number of passes a run makes at most. -/
def workflowHorizon : Nat := 720

/-- A start call, with the time of its claim and the run begun under it. -/
structure StartCall where
  phase : StartPhase
  claimedAt : Int
  run : Option (String × RunPhase)
  deriving DecidableEq, Repr

namespace StartCall

variable (call : StartCall)

/-- Its run is live. -/
def isLive : Bool := call.run.any (·.2.isLive)

/-- Its run may still begin. -/
def isPending : Bool := call.phase = .starting && call.run.isNone

/-- The values of `workflow_run_id` that stand for the claim of the call `uuid`. -/
def names (uuid : String) (id : WorkflowRunId) : Prop :=
  id = .starting uuid ∨ ∃ run, call.run = some run ∧ id = .run run.1

end StartCall

/-- The row, the calls by the UUID of their claim, and the run ids the engine has given out. -/
structure WorkflowWorld where
  clock : Int
  row : WorkflowColumns
  calls : String → Option StartCall
  runIds : List String

/-- A row before the first of the calls. -/
def quietWorld (row : WorkflowColumns) (clock : Int) : WorkflowWorld where
  clock := clock
  row := row
  calls := fun _ => none
  runIds := []

/-! ## Moves -/

/-- A statement carries the time of its start, which may lie before the clock: it may have waited for
the row. -/
inductive WorkflowMove where
  | tick (now : Int)
  | claim (uuid : String) (now : Int)
  | readCurrent (uuid : String)
  | begin (uuid runId : String)
  | replace (uuid : String) (answered : Bool)
  | fail (uuid : String)
  | release (uuid : String)
  | crash (uuid : String)
  | reconcile (uuid : String) (terminal : Bool)
  | complete (uuid : String) (now : Int)
  | die (uuid : String)
  deriving DecidableEq, Repr

/-- The call or the run, by its call, that makes the move. -/
def WorkflowMove.actor : WorkflowMove → Option String
  | .tick _ => none
  | .claim uuid _ => some uuid
  | .readCurrent uuid => some uuid
  | .begin uuid _ => some uuid
  | .replace uuid _ => some uuid
  | .fail uuid => some uuid
  | .release uuid => some uuid
  | .crash uuid => some uuid
  | .reconcile uuid _ => some uuid
  | .complete uuid _ => some uuid
  | .die uuid => some uuid

/-- One iteration of the loop. -/
def nextIteration (iterations : Nat) (terminal : Bool) : RunPhase :=
  if terminal || iterations + 1 = workflowHorizon then .completing else .looping (iterations + 1)

namespace WorkflowWorld

variable (w : WorkflowWorld)

/-- A start call has come further. -/
def setCall (uuid : String) (call : StartCall) : WorkflowWorld :=
  { w with calls := Function.update w.calls uuid (some call) }

/-- The world after a move; `none` where nobody is there to make it.  `start` of the workflow engine is
taken at its word: a run begins while its call is still waiting for `start`, and none begins for a call
after `start` has thrown. -/
def move : WorkflowMove → Option WorkflowWorld
  | .tick now => if w.clock ≤ now then some { w with clock := now } else none
  | .claim uuid now =>
      if w.calls uuid = none ∧ now ≤ w.clock then
        let claimed := claimWorkflowStart (.starting uuid) now w.row
        some ({ w with row := claimed.1 }.setCall uuid
          { phase := if claimed.2 then .starting else .refused, claimedAt := now, run := none })
      else none
  | .readCurrent uuid =>
      match w.calls uuid with
      | some ⟨.refused, claimedAt, run⟩ =>
          let result := (w.row.workflowRunId.map (·.text)).getD "already-active"
          some (w.setCall uuid ⟨.returned result, claimedAt, run⟩)
      | _ => none
  | .begin uuid runId =>
      match w.calls uuid with
      | some ⟨.starting, claimedAt, none⟩ =>
          if runId ∈ w.runIds then none
          else
            some ({ w with runIds := runId :: w.runIds }.setCall uuid
              ⟨.starting, claimedAt, some (runId, .looping 0)⟩)
      | _ => none
  | .replace uuid answered =>
      match w.calls uuid with
      | some ⟨.starting, claimedAt, some run⟩ =>
          -- the statement may have run though its answer is lost
          some ({ w with row := replaceWorkflowClaim (.starting uuid) (.run run.1) w.row }.setCall uuid
            ⟨if answered then .returned run.1 else .failing, claimedAt, some run⟩)
      | _ => none
  | .fail uuid =>
      match w.calls uuid with
      | some ⟨.starting, claimedAt, run⟩ => some (w.setCall uuid ⟨.failing, claimedAt, run⟩)
      | _ => none
  | .release uuid =>
      match w.calls uuid with
      | some ⟨.failing, claimedAt, run⟩ =>
          some ({ w with row := releaseWorkflowClaim (.starting uuid) w.row }.setCall uuid
            ⟨.threw, claimedAt, run⟩)
      | _ => none
  | .crash uuid =>
      match w.calls uuid with
      | some ⟨phase, claimedAt, run⟩ =>
          if phase.isOver then none else some (w.setCall uuid ⟨.threw, claimedAt, run⟩)
      | none => none
  | .reconcile uuid terminal =>
      match w.calls uuid with
      | some ⟨phase, claimedAt, some (runId, .looping iterations)⟩ =>
          some (w.setCall uuid
            ⟨phase, claimedAt, some (runId, nextIteration iterations terminal)⟩)
      | _ => none
  | .complete uuid now =>
      match w.calls uuid with
      | some ⟨phase, claimedAt, some (runId, runPhase)⟩ =>
          if (runPhase = .completing ∨ runPhase = .completed) ∧ now ≤ w.clock then
            some ({ w with row := markWorkflowCompleted now w.row }.setCall uuid
              ⟨phase, claimedAt, some (runId, .completed)⟩)
          else none
      | _ => none
  | .die uuid =>
      match w.calls uuid with
      | some ⟨phase, claimedAt, some (runId, _)⟩ =>
          some (w.setCall uuid ⟨phase, claimedAt, some (runId, .dead)⟩)
      | _ => none

end WorkflowWorld

/-- One move, as a relation. -/
def WorkflowStep (w : WorkflowWorld) (m : WorkflowMove) (w' : WorkflowWorld) : Prop :=
  w.move m = some w'

end CellFlow
