/-
# CellFlow.Db.ProjectHealth — the figures of a project.

`getProjectMetrics`, `getOperationalHealth` and `listWebhookEndpoints` of
`packages/db/src/repository.ts` on the rows they read.  Instants are microseconds here, as
`timestamptz` holds them, and `now` is the `now()` of the query.
-/
import CellFlow.Db.ApiKeys
import CellFlow.Db.Records
import CellFlow.Db.WebhookDelivery
import Mathlib.Data.Rat.Floor

namespace CellFlow

open Js (Json)

/-! ## Rows -/

/-- A row of `executions` and the assertions of its intent. -/
structure ProjectExecutionRow where
  projectId : String
  createdAt : Int
  expectedCells : List Json
  execution : ExecutionRecord

/-- A row of `webhook_deliveries` and its last update. -/
structure ProjectDeliveryRow where
  delivery : WebhookDeliveryRow
  updatedAt : Int

/-- A row of `webhook_endpoints`, as far as the report reads it. -/
structure WebhookEndpointRow where
  id : String
  projectId : String
  url : String
  secretVersion : Nat
  enabled : Bool
  createdAt : Int
  deriving DecidableEq, Repr

/-- A row of `state_events`. -/
structure ProjectEventRow where
  projectId : String
  createdAt : Int
  deriving DecidableEq, Repr

/-- A row of `project_evidence_exports`. -/
structure ProjectEvidenceExport where
  id : String
  projectId : String
  evidenceSha256 : String
  document : List (String × Json)
  createdAt : Int

/-- The tables a project export reads, and the one it writes. -/
structure ProjectTables where
  executions : List ProjectExecutionRow
  deliveries : List ProjectDeliveryRow
  endpoints : List WebhookEndpointRow
  keys : List ApiKeyRow
  events : List ProjectEventRow
  exports : List ProjectEvidenceExport

/-! ## getProjectMetrics -/

namespace ProjectExecutionRow

variable (row : ProjectExecutionRow)

/-- Confirmed, with every assertion verified. -/
def isConfirmed : Bool :=
  row.execution.workflowStatus = .confirmed &&
    (row.expectedCells.isEmpty || row.execution.assertionStatus = some .verified)

/-- The row is at an end that is not a confirmation. -/
def isTerminalFailure : Bool :=
  (row.execution.workflowStatus = .conflicted || row.execution.workflowStatus = .expired) ||
    row.execution.chainStatus = .rejected ||
    (row.execution.submissionStatus = .nodeRejected &&
      (row.execution.chainStatus = .unobserved || row.execution.chainStatus = .unknown))

/-- The row is one an operator should look at. -/
def needsAttention : Bool :=
  (row.execution.chainStatus = .unknown || row.execution.chainStatus = .rejected) ||
    (row.execution.workflowStatus = .reorged || row.execution.workflowStatus = .conflicted ||
      row.execution.workflowStatus = .expired) ||
    (row.execution.submissionStatus = .submissionUnknown ||
      row.execution.submissionStatus = .nodeRejected)

end ProjectExecutionRow

/-- The counts of a project's executions. -/
structure ProjectMetrics where
  total : Nat
  confirmed : Nat
  attention : Nat
  active : Nat
  deriving DecidableEq, Repr

/-- `getProjectMetrics`: the counts over the executions of a project. -/
def getProjectMetrics (projectId : String) (tables : ProjectTables) : ProjectMetrics :=
  let rows := tables.executions.filter (·.projectId = projectId)
  let confirmed := rows.countP (·.isConfirmed)
  { total := rows.length
    confirmed := confirmed
    attention := rows.countP (·.needsAttention)
    active := rows.length - confirmed - rows.countP (·.isTerminalFailure) }

/-! ## getOperationalHealth -/

/-- Times are in microseconds. -/
def microsPerSecond : Int := 1000000

/-- `interval '7 days'`. -/
def weekMicros : Int := 7 * 24 * 60 * 60 * microsPerSecond

/-- `extract(epoch from …)::bigint`: seconds, to the nearest, halves away from zero. -/
def epochSeconds (micros : Int) : Int :=
  if 0 ≤ micros then (micros + microsPerSecond / 2) / microsPerSecond
  else -((-micros + microsPerSecond / 2) / microsPerSecond)

/-- `${stale} * interval '1 minute'`, to the nearest microsecond; `stale` is between one minute and
a day. -/
def staleInterval (staleMinutes : Rat) : Int :=
  let stale := min (max staleMinutes 1) 1440
  ⌊stale * (60 * microsPerSecond : Int) + 1 / 2⌋

namespace ProjectExecutionRow

variable (row : ProjectExecutionRow) (now : Int)

/-- Neither settled nor rejected, or suspected to be in a conflict. -/
def isOpen : Bool :=
  !(row.execution.workflowStatus = .confirmed || row.execution.workflowStatus = .conflicted ||
      row.execution.workflowStatus = .expired) &&
    row.execution.chainStatus ≠ .rejected &&
    (row.execution.submissionStatus ≠ .nodeRejected ||
      row.execution.conflictType = some .inputConflictSuspected)

/-- `next_reconcile_at <= now()`. -/
def isDue : Bool := row.execution.nextReconcileAt.any (· ≤ now)

/-- `reconcile_lease_until > now()`. -/
def isLeased : Bool := row.execution.reconcileLeaseUntil.any (now < ·)

/-- An open row with a transaction that was not observed for the interval `stale`. -/
def isStale (stale : Int) : Bool :=
  row.isOpen && row.execution.txHash.isSome &&
    row.execution.lastObservedAt.all (· < now - stale)

end ProjectExecutionRow

/-- `expires_at > now() and expires_at <= now() + interval '7 days'`, on a key not revoked. -/
def ApiKeyRow.expiresWithin7Days (key : ApiKeyRow) (now : Int) : Bool :=
  key.revokedAt.isNone &&
    key.expiresAt.any fun expiresAt => now < expiresAt && expiresAt ≤ now + weekMicros

/-- `OperationalHealthRecord`; `lastEventAt` is an instant here. -/
structure OperationalHealth where
  dueReconciliations : Nat
  leasedReconciliations : Nat
  staleActiveIntents : Nat
  oldestActiveAgeSeconds : Option Int
  pendingWebhooks : Nat
  failedWebhooks : Nat
  activeApiKeys : Nat
  expiringApiKeys7d : Nat
  lastEventAt : Option Int
  deriving DecidableEq, Repr

/-- `status in ('PENDING','RETRY','CLAIMED')`. -/
def WebhookDeliveryRow.isPending (row : WebhookDeliveryRow) : Bool :=
  row.status = .pending || row.status = .retry || row.status = .claimed

namespace ProjectTables

variable (tables : ProjectTables) (projectId : String)

/-- The executions of a project. -/
def executionsOf : List ProjectExecutionRow := tables.executions.filter (·.projectId = projectId)

/-- The API keys of a project. -/
def keysOf : List ApiKeyRow := tables.keys.filter (·.projectId = projectId)

/-- The deliveries of a project. -/
def deliveriesOf : List ProjectDeliveryRow :=
  tables.deliveries.filter (·.delivery.projectId = projectId)

/-- `min(created_at)` of the open executions. -/
def oldestOpen : Option Int :=
  (((tables.executionsOf projectId).filter (·.isOpen)).map (·.createdAt)).min?

end ProjectTables

/-- `getOperationalHealth`: the figures of a project at one time, each from its own query. -/
def getOperationalHealth (projectId : String) (stale now : Int) (tables : ProjectTables) :
    OperationalHealth :=
  let executions := tables.executionsOf projectId
  let deliveries := tables.deliveriesOf projectId
  let keys := tables.keysOf projectId
  { dueReconciliations := executions.countP (·.isDue now)
    leasedReconciliations := executions.countP (·.isLeased now)
    staleActiveIntents := executions.countP (·.isStale now stale)
    oldestActiveAgeSeconds := (tables.oldestOpen projectId).map fun oldest =>
      epochSeconds (now - oldest)
    pendingWebhooks := deliveries.countP (·.delivery.isPending)
    failedWebhooks := deliveries.countP (·.delivery.status = .failed)
    activeApiKeys := keys.countP (·.isActive now)
    expiringApiKeys7d := keys.countP (·.expiresWithin7Days now)
    lastEventAt := ((tables.events.filter (·.projectId = projectId)).map (·.createdAt)).max? }

/-! ## listWebhookEndpoints -/

/-- An endpoint and the counts of its deliveries. -/
structure WebhookEndpointSummary where
  endpoint : WebhookEndpointRow
  deliveredCount : Nat
  failedCount : Nat
  pendingCount : Nat
  lastDeliveryAt : Option Int
  deriving DecidableEq, Repr

/-- `listWebhookEndpoints`, oldest first; endpoints of one instant stay in the order of the table. -/
def listWebhookEndpoints (projectId : String) (tables : ProjectTables) :
    List WebhookEndpointSummary :=
  let endpoints := (tables.endpoints.filter (·.projectId = projectId)).mergeSort
    fun a b => a.createdAt ≤ b.createdAt
  endpoints.map fun endpoint =>
    let deliveries := tables.deliveries.filter (·.delivery.endpointId = endpoint.id)
    { endpoint := endpoint
      deliveredCount := deliveries.countP (·.delivery.status = .delivered)
      failedCount := deliveries.countP (·.delivery.status = .failed)
      pendingCount := deliveries.countP (·.delivery.isPending)
      lastDeliveryAt := (deliveries.map (·.updatedAt)).max? }

end CellFlow
