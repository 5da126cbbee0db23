/-
# CellFlow.Db.WorkflowClaim — the workflow claim of an execution row.

The four queries of `packages/db/src/repository.ts` on the workflow columns of `executions`, each as
what it does to the row.  Claiming, replacing and releasing say which claim they mean; completing does
not.  Times are milliseconds; `now` is the `now()` of a statement.
-/

namespace CellFlow

/-- A value of `workflow_run_id`: the claim of a start call, by its UUID, or a run of the engine. -/
inductive WorkflowRunId where
  | starting (uuid : String)
  | run (runId : String)
  deriving DecidableEq, Repr

/-- The text stored for it. -/
def WorkflowRunId.text : WorkflowRunId → String
  | .starting uuid => "starting:" ++ uuid
  | .run runId => runId

/-- The workflow columns of an execution row. -/
structure WorkflowColumns where
  workflowRunId : Option WorkflowRunId
  workflowStartedAt : Option Int
  workflowCompletedAt : Option Int
  deriving DecidableEq, Repr

/-- `interval '24 hours'`. -/
def workflowStaleMs : Int := 24 * 60 * 60 * 1000

/-- The guard of `claimWorkflowStart`. -/
def WorkflowColumns.claimable (row : WorkflowColumns) (now : Int) : Bool :=
  row.workflowRunId.isNone || row.workflowCompletedAt.isSome ||
    row.workflowStartedAt.any (· < now - workflowStaleMs)

/-- The update of `claimWorkflowStart`: the row, and whether it was updated. -/
def claimWorkflowStart (claimId : WorkflowRunId) (now : Int) (row : WorkflowColumns) :
    WorkflowColumns × Bool :=
  if row.claimable now then
    ({ workflowRunId := some claimId, workflowStartedAt := some now, workflowCompletedAt := none },
      true)
  else (row, false)

/-- `replaceWorkflowClaim`: the run takes over the claim, if it still stands. -/
def replaceWorkflowClaim (claimId runId : WorkflowRunId) (row : WorkflowColumns) : WorkflowColumns :=
  if row.workflowRunId = some claimId then { row with workflowRunId := some runId } else row

/-- `releaseWorkflowClaim`: only the claim that still stands is dropped. -/
def releaseWorkflowClaim (claimId : WorkflowRunId) (row : WorkflowColumns) : WorkflowColumns :=
  if row.workflowRunId = some claimId then
    { row with workflowRunId := none, workflowStartedAt := none }
  else row

/-- `markWorkflowCompleted`: whoever the row is claimed by. -/
def markWorkflowCompleted (now : Int) (row : WorkflowColumns) : WorkflowColumns :=
  { row with workflowCompletedAt := some now }

end CellFlow
