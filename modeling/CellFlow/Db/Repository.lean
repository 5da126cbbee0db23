/-
# CellFlow.Db.Repository — the database operations of `packages/db/src/repository.ts` on one intent.

Every operation works from an aggregate it was given, which may be older than the store, and writes
in one transaction: either the whole new store is committed or the store stays as it is.  `transact`
is the version check and the constraint check every version-guarded write goes through, so
`transact_ok` is the one inversion lemma those operations share.
-/
import CellFlow.Db.Schema

namespace CellFlow

open Js (Json)

/-! ## Transactions -/

/-- `where version = …`, then the constraints of the table, then commit. -/
def Store.transact (db : Store) (version : Nat) (next : Store) : Except Failure Store :=
  if db.execution.version ≠ version then .error .optimisticConcurrency
  else
    match next.execution.violation with
    | some name => .error (.constraint name)
    | none => .ok next

theorem Store.transact_ok {db next db' : Store} {version : Nat}
    (h : db.transact version next = .ok db') :
    db' = next ∧ db.execution.version = version ∧ next.execution.violation = none := by
  unfold transact at h
  split at h
  · cases h
  next hv =>
    split at h
    · cases h
    next hn => exact ⟨(Except.ok.inj h).symm, not_not.mp hv, hn⟩

/-- A guarded write throws no error of the state machine. -/
theorem Store.transact_ne_cellFlow {db next : Store} {version : Nat} (e : CellFlowError) :
    db.transact version next ≠ .error (.cellFlow e) := by
  unfold transact
  split
  · simp
  · split <;> simp

theorem Store.transact_eq {db next : Store} {version : Nat} (hv : db.execution.version = version)
    (hn : next.execution.violation = none) : db.transact version next = .ok next := by
  unfold transact
  rw [if_neg (not_not.mpr hv), hn]

/-! ## Rows of attempts -/

/-- `update transaction_attempts set … where id = …`. -/
def updateAttempt (id : String) (f : TransactionAttemptRecord → TransactionAttemptRecord)
    (attempts : List TransactionAttemptRecord) : List TransactionAttemptRecord :=
  attempts.map fun attempt => if attempt.id = id then f attempt else attempt

/-- The same for the active attempt, if there is one. -/
def updateActive (id : Option String) (f : TransactionAttemptRecord → TransactionAttemptRecord)
    (attempts : List TransactionAttemptRecord) : List TransactionAttemptRecord :=
  match id with
  | some id => updateAttempt id f attempts
  | none => attempts

/-- `set disposition = 'SUPERSEDED' where id <> … and disposition = 'ACTIVE'`. -/
def supersedeOthers (winner : String) (attempts : List TransactionAttemptRecord) :
    List TransactionAttemptRecord :=
  attempts.map fun attempt =>
    if attempt.id ≠ winner ∧ attempt.disposition = .active then
      { attempt with disposition := .superseded }
    else attempt

/-! ## Dispositions -/

/-- References of inputs nobody has classified. -/
def neutralInputRefs (outPoints : List OutPointRef) : List InputRef :=
  outPoints.map fun outPoint =>
    { outPoint := outPoint, role := .other, resourceKey := none, keys := .source }

/-- The disposition of an attempt another one replaces. -/
def priorAttemptDisposition (execution : ExecutionRecord) : AttemptDisposition :=
  if execution.workflowStatus = .confirmed then .confirmed
  else if execution.workflowStatus = .conflicted then .conflicted
  else if execution.chainStatus = .rejected ∨ execution.submissionStatus = .nodeRejected then
    .rejected
  else .superseded

/-- The disposition of an attempt whose transaction stands at the snapshot. -/
def dispositionForSnapshot (snapshot : ExecutionSnapshot) : AttemptDisposition :=
  if snapshot.workflowStatus = .confirmed then .confirmed
  else if snapshot.workflowStatus = .conflicted then .conflicted
  else if snapshot.chainStatus = .rejected ∨ snapshot.submissionStatus = .nodeRejected then
    .rejected
  else .active

/-! ## Events and outbox -/

/-- The type of the delivery an event is announced by. -/
def webhookEventType (kind : EventKind) (status : OverallStatus) : String :=
  match kind with
  | .created => "intent.created"
  | .assertionVerified => "intent.assertion_verified"
  | .assertionFailed => "intent.assertion_failed"
  | .reorgDetected => "intent.reorged"
  | .settlementReady => "intent.settlement_ready"
  | .settlementRevoked => "intent.settlement_revoked"
  | .confirmed => "intent.confirmed"
  | .operatorNote => "intent.operator_note"
  | _ => "intent." ++ toLowerCase status.text

/-- What an operation passes to `insertEventAndOutbox`. -/
structure EventInput where
  txHash : Option String
  kind : EventKind
  fromStatus : Option OverallStatus
  toStatus : OverallStatus
  reason : Option String
  rawObservation : Option Json
  occurredAt : Int
  snapshot : ExecutionSnapshot
  assertionStatus : Option AssertionStatus
  requiredAssertionCount : Nat
  conflictType : Option ConflictType

/-- The event row with the payload the outbox delivers. -/
def eventWithOutbox (input : EventInput) : StateEvent where
  kind := input.kind
  fromStatus := input.fromStatus
  toStatus := input.toStatus
  reason := input.reason
  rawObservation := input.rawObservation.map Json.jsonb
  occurredAt := input.occurredAt
  payload :=
    { type := webhookEventType input.kind input.toStatus
      txHash := input.txHash
      status := input.toStatus
      submissionStatus := input.snapshot.submissionStatus
      chainStatus := input.snapshot.chainStatus
      workflowStatus := input.snapshot.workflowStatus
      confirmationCount := input.snapshot.confirmationCount
      assertionStatus := input.assertionStatus
      settlementReady := isSettlementReady input.snapshot input.assertionStatus
        input.requiredAssertionCount input.conflictType }

@[simp] theorem eventWithOutbox_kind (input : EventInput) :
    (eventWithOutbox input).kind = input.kind := rfl

/-! ## createIntent -/

/-- The argument of `createIntent`, with the confirmation policy of its project. -/
structure CreateInput where
  intentId : String
  expectedCells : List ExpectedCellAssertion
  confirmationPolicy : ConfirmationPolicy
  txHash : Option String
  submissionStatus : Option SubmissionStatus

/-- The rows `createIntent` inserts for a new intent. -/
def createIntent (input : CreateInput) (hashesElsewhere : List String) (now : Int) : Store :=
  let submissionStatus := input.submissionStatus.getD
    (if (truthy input.txHash).isSome then .submitted else .notSubmitted)
  let snapshot :=
    { initialSnapshot input.confirmationPolicy with submissionStatus := submissionStatus }
  { intent :=
      { intentId := input.intentId, expectedCells := input.expectedCells
        activeAttemptId := none, winningAttemptId := none }
    execution :=
      { txHash := input.txHash, inputOutPoints := [], inputRefs := []
        submissionStatus := submissionStatus, chainStatus := .unobserved, workflowStatus := .idle
        confirmationPolicy := input.confirmationPolicy, confirmationCount := 0
        committedBlockHash := none, committedBlockNumber := none, rejectionReason := none
        submissionErrorCode := none, submissionErrorType := none, submissionErrorDetails := none
        conflictType := none, conflictDetails := none
        assertionStatus := none, settlementReadyAt := none, assertionResult := none
        lastRawObservation := none, lastObservedAt := none
        nextReconcileAt := if (truthy input.txHash).isSome then some now else none
        reconcileAttempts := 0, version := 0, reconcileLeaseUntil := none }
    attempts := []
    revisions := []
    events :=
      [eventWithOutbox
        { txHash := input.txHash, kind := .created, fromStatus := none
          toStatus := deriveOverallStatus snapshot
          reason := some "Intent accepted and persisted atomically with its audit event"
          rawObservation := none, occurredAt := now, snapshot := snapshot
          assertionStatus := none, requiredAssertionCount := input.expectedCells.length
          conflictType := none }]
    hashesElsewhere := hashesElsewhere }

end CellFlow
