/-
# CellFlow.Db.WebhookDelivery — the delivery rows and their leases.

The queries of `packages/db/src/repository.ts` on `webhook_deliveries`, each as what it does to one
row.  A row is claimed under a lease; every later write of the worker names the lease owner, so a
write that comes too late finds no row.  Times are milliseconds; `now` is the clock reading of a call.
-/
import CellFlow.Core.Types

namespace CellFlow

/-- The status of a delivery. -/
inductive WebhookDeliveryStatus where
  | pending
  | claimed
  | retry
  | delivered
  | failed
  deriving DecidableEq, Repr

/-- A row of `webhook_deliveries`. -/
structure WebhookDeliveryRow where
  projectId : String
  endpointId : String
  eventId : String
  attemptCount : Nat
  status : WebhookDeliveryStatus
  responseStatus : Option Nat
  lastError : Option String
  nextAttemptAt : Option Int
  deliveredAt : Option Int
  leaseOwner : Option String
  leaseUntil : Option Int
  deriving DecidableEq, Repr

/-- `enqueueWebhookDeliveries`, and the insert that follows an event: a row for one endpoint. -/
def enqueueWebhookDelivery (projectId endpointId eventId : String) (now : Int) :
    WebhookDeliveryRow where
  projectId := projectId
  endpointId := endpointId
  eventId := eventId
  attemptCount := 0
  status := .pending
  responseStatus := none
  lastError := none
  nextAttemptAt := some now
  deliveredAt := none
  leaseOwner := none
  leaseUntil := none

namespace WebhookDeliveryRow

variable (row : WebhookDeliveryRow) (now : Int)

/-- `coalesce(next_attempt_at, now()) <= now()`. -/
def isDue : Bool := row.nextAttemptAt.all (· ≤ now)

/-- `lease_until is null or lease_until < now()`. -/
def isFree : Bool := row.leaseUntil.all (· < now)

/-- `status in ('PENDING','RETRY')`. -/
def isWaiting : Bool := row.status = .pending || row.status = .retry

/-- `status = 'CLAIMED' and lease_until < now()`: a lease that ran out. -/
def isAbandoned : Bool := row.status = .claimed && row.leaseUntil.any (· < now)

/-- The row under a new lease. -/
def leased (leaseOwner : String) (leaseSeconds : Int) : WebhookDeliveryRow :=
  { row with
    status := .claimed
    leaseOwner := some leaseOwner
    leaseUntil := some (now + leaseSeconds * 1000) }

end WebhookDeliveryRow

/-- `claimDueWebhookDeliveries` on a row within its limit: the claimed row, if it is a candidate. -/
def claimDueWebhookDelivery (leaseOwner : String) (leaseSeconds : Int) (projectId : Option String)
    (now : Int) (row : WebhookDeliveryRow) : Option WebhookDeliveryRow :=
  if (truthy projectId).all (· = row.projectId) && (row.isWaiting || row.isAbandoned now) &&
      row.isDue now && row.isFree now then
    some (row.leased now leaseOwner leaseSeconds)
  else none

/-- `claimWebhookDeliveriesForEvent`, which takes no row over from another worker. -/
def claimWebhookDeliveryForEvent (projectId eventId leaseOwner : String) (leaseSeconds now : Int)
    (row : WebhookDeliveryRow) : Option WebhookDeliveryRow :=
  let seconds := min (max leaseSeconds 15) 300
  if row.projectId = projectId ∧ row.eventId = eventId ∧ row.isWaiting ∧ row.isDue now ∧
      row.isFree now then
    some (row.leased now leaseOwner seconds)
  else none

/-- `renewWebhookDeliveryLease`: the row, and whether the lease is still the worker's. -/
def renewWebhookDeliveryLease (leaseOwner : String) (leaseSeconds now : Int)
    (row : WebhookDeliveryRow) : WebhookDeliveryRow × Bool :=
  let seconds := min (max leaseSeconds 15) 900
  if row.leaseOwner = some leaseOwner ∧ row.status = .claimed then
    ({ row with leaseUntil := some (now + seconds * 1000) }, true)
  else (row, false)

/-- `releaseWebhookDeliveryLease`. -/
def releaseWebhookDeliveryLease (leaseOwner : String) (now : Int) (row : WebhookDeliveryRow) :
    WebhookDeliveryRow :=
  if row.leaseOwner = some leaseOwner ∧ row.status = .claimed then
    { row with
      status := .retry
      leaseOwner := none
      leaseUntil := none
      nextAttemptAt := some (row.nextAttemptAt.getD now) }
  else row

/-- The argument of `completeWebhookDelivery`. -/
structure WebhookCompletion where
  leaseOwner : Option String
  success : Bool
  responseStatus : Option Nat
  error : Option String
  retryAt : Option Int
  deriving DecidableEq, Repr

/-- The row with an outcome recorded. -/
def WebhookDeliveryRow.completed (row : WebhookDeliveryRow) (input : WebhookCompletion)
    (now : Int) : WebhookDeliveryRow :=
  { row with
    attemptCount := row.attemptCount + 1
    status := if input.success then .delivered else if input.retryAt.isSome then .retry else .failed
    responseStatus := input.responseStatus
    lastError := input.error
    nextAttemptAt := input.retryAt
    deliveredAt := if input.success then some now else none
    leaseOwner := none
    leaseUntil := none }

/-- `completeWebhookDelivery`: with a lease owner, only the row it still holds. -/
def completeWebhookDelivery (input : WebhookCompletion) (now : Int) (row : WebhookDeliveryRow) :
    WebhookDeliveryRow :=
  match truthy input.leaseOwner with
  | some leaseOwner =>
      if row.leaseOwner = some leaseOwner then row.completed input now else row
  | none => row.completed input now

/-- `retryFailedWebhookDeliveries`, on a row of the project and endpoint or of another. -/
def retryFailedWebhookDelivery (projectId : String) (endpointId : Option String) (now : Int)
    (row : WebhookDeliveryRow) : WebhookDeliveryRow :=
  if row.projectId = projectId ∧ (truthy endpointId).all (· = row.endpointId) ∧
      row.status = .failed then
    { row with status := .retry, nextAttemptAt := some now, leaseOwner := none, leaseUntil := none }
  else row

end CellFlow
