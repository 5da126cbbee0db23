/-
# CellFlow.Db.Transitions — the repository writes of submission reports and reconciliation.

`markSubmissionStatus`, `applySnapshot` and `promoteAttemptProjection` are guarded by the version of
the aggregate they work from; `updateCandidateAttempt`, `appendEvent` and `addOperatorNote` are not.
Each guarded write is the store it commits, as a definition of its own, behind `Store.transact`.
-/
import CellFlow.Db.Repository

namespace CellFlow

open Js (Json)

/-! ## markSubmissionStatus -/

/-- The argument of `markSubmissionStatus`; `conflictDetails = some none` is an explicit `null`. -/
structure MarkInput where
  aggregate : IntentAggregate
  status : SubmissionStatus
  scheduleReconcile : Bool
  fromStatus : OverallStatus
  toStatus : OverallStatus
  reason : String
  submissionErrorCode : Option String
  submissionErrorType : Option SubmissionErrorType
  submissionErrorDetails : Option Json
  conflictType : Option ConflictType
  conflictDetails : Option (Option Json)
  now : Int

namespace MarkInput

variable (input : MarkInput)

/-- The conflict type the row is given: a new one, or the one it has. -/
def nextConflictType : Option ConflictType :=
  input.conflictType.or input.aggregate.execution.conflictType

/-- The conflict details the row is given, as `jsonb` keeps them. -/
def nextConflictDetails : Option Json :=
  match input.conflictDetails with
  | some details => details.map Json.jsonb
  | none => input.aggregate.execution.conflictDetails.map Json.jsonb

/-- The execution row after `markSubmissionStatus`. -/
def markedExecution (row : ExecutionRecord) : ExecutionRecord :=
  { row with
    submissionStatus := input.status
    submissionErrorCode := input.submissionErrorCode
    submissionErrorType := input.submissionErrorType
    submissionErrorDetails := input.submissionErrorDetails.map Json.jsonb
    conflictType := input.nextConflictType
    conflictDetails := input.nextConflictDetails
    nextReconcileAt :=
      if input.scheduleReconcile then some input.now
      else input.aggregate.execution.nextReconcileAt
    version := row.version + 1 }

/-- The active attempt after `markSubmissionStatus`. -/
def markedAttempt (attempt : TransactionAttemptRecord) : TransactionAttemptRecord :=
  { attempt with
    submissionStatus := input.status
    submissionErrorCode := input.submissionErrorCode
    submissionErrorType := input.submissionErrorType
    submissionErrorDetails := input.submissionErrorDetails.map Json.jsonb
    conflictType := input.nextConflictType
    conflictDetails := input.nextConflictDetails
    disposition := if input.status = .nodeRejected then .rejected else .active }

/-- The event `markSubmissionStatus` writes. -/
def markedEvent : StateEvent :=
  let execution := input.aggregate.execution
  eventWithOutbox
    { txHash := execution.txHash
      kind := .submissionUpdated
      fromStatus := some input.fromStatus
      toStatus := input.toStatus
      reason := some input.reason
      rawObservation := input.submissionErrorType.map fun errorType => .obj
        [("submissionErrorCode", Json.ofOption input.submissionErrorCode),
          ("submissionErrorType", .str errorType.text),
          ("submissionErrorDetails", input.submissionErrorDetails.getD .null),
          ("conflictType", Json.ofOption (input.conflictType.map ConflictType.text)),
          ("conflictDetails", (input.conflictDetails.getD none).getD .null)]
      occurredAt := input.now
      snapshot :=
        { submissionStatus := input.status
          chainStatus := execution.chainStatus
          workflowStatus := execution.workflowStatus
          confirmationPolicy := execution.confirmationPolicy
          confirmationCount := execution.confirmationCount
          committedBlockHash := truthy execution.committedBlockHash
          committedBlockNumber := truthy execution.committedBlockNumber
          rejectionReason := none }
      assertionStatus := execution.assertionStatus
      requiredAssertionCount := input.aggregate.intent.expectedCells.length
      conflictType := none }

/-- All rows after `markSubmissionStatus`. -/
def markedStore (db : Store) : Store :=
  { db with
    execution := input.markedExecution db.execution
    attempts :=
      updateActive input.aggregate.intent.activeAttemptId input.markedAttempt db.attempts
    events := db.events ++ [input.markedEvent] }

end MarkInput

/-- `repository.markSubmissionStatus`. -/
def markSubmissionStatus (input : MarkInput) (db : Store) : Except Failure Store :=
  db.transact input.aggregate.execution.version (input.markedStore db)

/-! ## applySnapshot -/

/-- The transition a caller of `applySnapshot` reports. -/
structure ApplyEvent where
  kind : EventKind
  fromStatus : OverallStatus
  toStatus : OverallStatus
  reason : Option String
  rawObservation : Option Json
  occurredAt : Int

/-- The argument of `applySnapshot`; `none` in an assertion or conflict field is `undefined`, that
is, keep what the aggregate has. -/
structure ApplyInput where
  aggregate : IntentAggregate
  snapshot : ExecutionSnapshot
  event : ApplyEvent
  nextReconcileAt : Option Int
  assertionStatus : Option (Option AssertionStatus)
  assertionResult : Option (Option Json)
  conflictType : Option (Option ConflictType)
  conflictDetails : Option (Option Json)

namespace ApplyInput

variable (input : ApplyInput)

/-- The execution row as the caller has read it. -/
def prior : ExecutionRecord := input.aggregate.execution

/-- The assertion status the row is given; `undefined` leaves it. -/
def nextAssertionStatus : Option AssertionStatus :=
  input.assertionStatus.getD input.prior.assertionStatus

/-- The number of Cells the intent expects. -/
def requiredAssertionCount : Nat := input.aggregate.intent.expectedCells.length

/-- A row without a durable settlement timestamp has not been settled yet. -/
def priorReady : Bool :=
  input.prior.settlementReadyAt.isSome &&
    isSettlementReady (snapshotFromExecution input.prior) input.prior.assertionStatus
      input.requiredAssertionCount input.prior.conflictType

/-- The conflict type the row is given; `undefined` leaves it. -/
def nextConflictType : Option ConflictType := input.conflictType.getD input.prior.conflictType

/-- The conflict details the row is given; `undefined` leaves them. -/
def nextConflictDetails : Option Json := input.conflictDetails.getD input.prior.conflictDetails

/-- The row is ready for settlement after the write. -/
def nextReady : Bool :=
  isSettlementReady input.snapshot input.nextAssertionStatus input.requiredAssertionCount
    input.nextConflictType

/-- The write changes whether the row is ready for settlement. -/
def settlementChanged : Bool := input.priorReady != input.nextReady

/-- Since when the row is ready: kept where it was ready before. -/
def settlementReadyAt : Option Int :=
  if input.nextReady then
    some (if input.priorReady then input.prior.settlementReadyAt.getD input.event.occurredAt
      else input.event.occurredAt)
  else none

/-- `JSON.stringify(toJsonValue(details))`. -/
def detailsText (details : Option Json) : String := (details.getD .null).stringify

/-- Whether the write changes anything the audit log records. -/
def meaningful : Bool :=
  input.prior.submissionStatus ≠ input.snapshot.submissionStatus ||
    input.prior.chainStatus ≠ input.snapshot.chainStatus ||
    input.prior.workflowStatus ≠ input.snapshot.workflowStatus ||
    input.prior.committedBlockHash ≠ input.snapshot.committedBlockHash ||
    input.prior.committedBlockNumber ≠ input.snapshot.committedBlockNumber ||
    input.prior.rejectionReason ≠ input.snapshot.rejectionReason ||
    input.prior.assertionStatus ≠ input.nextAssertionStatus ||
    input.prior.conflictType ≠ input.nextConflictType ||
    detailsText input.prior.conflictDetails ≠ detailsText input.nextConflictDetails

/-- The execution row after `applySnapshot`. -/
def appliedExecution (row : ExecutionRecord) : ExecutionRecord :=
  { row with
    submissionStatus := input.snapshot.submissionStatus
    chainStatus := input.snapshot.chainStatus
    workflowStatus := input.snapshot.workflowStatus
    confirmationCount := input.snapshot.confirmationCount
    committedBlockHash := truthy input.snapshot.committedBlockHash
    committedBlockNumber := truthy input.snapshot.committedBlockNumber
    rejectionReason := truthy input.snapshot.rejectionReason
    assertionStatus := input.nextAssertionStatus
    settlementReadyAt := input.settlementReadyAt
    conflictType := input.nextConflictType
    conflictDetails := input.nextConflictDetails.map Json.jsonb
    assertionResult := (input.assertionResult.getD input.prior.assertionResult).map Json.jsonb
    lastRawObservation :=
      (match input.event.rawObservation with
        | some raw => some raw
        | none => input.prior.lastRawObservation).map Json.jsonb
    lastObservedAt :=
      if input.event.rawObservation.isSome then some input.event.occurredAt
      else input.prior.lastObservedAt
    nextReconcileAt := input.nextReconcileAt
    reconcileAttempts := row.reconcileAttempts + 1
    version := row.version + 1 }

/-- What becomes of the active attempt. -/
def attemptDisposition : AttemptDisposition := dispositionForSnapshot input.snapshot

/-- The active attempt after `applySnapshot`. -/
def appliedAttempt (attempt : TransactionAttemptRecord) : TransactionAttemptRecord :=
  { attempt with
    submissionStatus := input.snapshot.submissionStatus
    chainStatus := input.snapshot.chainStatus
    workflowStatus := input.snapshot.workflowStatus
    disposition := input.attemptDisposition
    conflictType := input.nextConflictType
    conflictDetails := input.nextConflictDetails.map Json.jsonb }

/-- All attempts after `applySnapshot`: a confirmed one supersedes the other active ones. -/
def appliedAttempts (attempts : List TransactionAttemptRecord) : List TransactionAttemptRecord :=
  let updated := updateActive input.aggregate.intent.activeAttemptId input.appliedAttempt attempts
  match input.aggregate.intent.activeAttemptId with
  | some active =>
      if input.attemptDisposition = .confirmed then supersedeOthers active updated else updated
  | none => updated

/-- The events `applySnapshot` writes: that of the transition, and after it the settlement event where
readiness changed. -/
def appliedEvents : List StateEvent :=
  let settlement : EventInput :=
    { txHash := input.prior.txHash
      kind := if input.nextReady then .settlementReady else .settlementRevoked
      fromStatus := some input.event.fromStatus
      toStatus := input.event.toStatus
      reason := some (
        if input.nextReady then
          "Canonical confirmation policy and all required expected-Cell assertions verified"
        else
          "A previous settlement-ready observation is no longer valid; downstream applications must assess compensation")
      rawObservation := input.event.rawObservation
      occurredAt := input.event.occurredAt
      snapshot := input.snapshot
      assertionStatus := input.nextAssertionStatus
      requiredAssertionCount := input.requiredAssertionCount
      conflictType := input.nextConflictType }
  if input.meaningful = false ∧ input.settlementChanged = false then []
  else
    eventWithOutbox
        { settlement with kind := input.event.kind, reason := truthy input.event.reason } ::
      (if input.settlementChanged then [eventWithOutbox settlement] else [])

/-- All rows after `applySnapshot`. -/
def appliedStore (db : Store) : Store :=
  { db with
    execution := input.appliedExecution db.execution
    attempts := input.appliedAttempts db.attempts
    intent :=
      { db.intent with
        winningAttemptId :=
          if input.attemptDisposition = .confirmed then input.aggregate.intent.activeAttemptId
          else input.aggregate.intent.winningAttemptId }
    events := db.events ++ input.appliedEvents }

end ApplyInput

namespace ApplyInput

variable {input : ApplyInput}

/-- The row the write stores is ready exactly when the snapshot it was given is. -/
theorem appliedStore_settlementReady {db : Store}
    (hpolicy : db.execution.confirmationPolicy = input.snapshot.confirmationPolicy)
    (hcells : db.intent.expectedCells = input.aggregate.intent.expectedCells) :
    (input.appliedStore db).settlementReady = input.nextReady := by
  simp [Store.settlementReady, nextReady, appliedStore, appliedExecution, snapshotFromExecution,
    isSettlementReady, requiredAssertionCount, hpolicy, hcells]

/-- The timestamp is written exactly with readiness. -/
theorem settlementReadyAt_isSome : input.settlementReadyAt.isSome = input.nextReady := by
  unfold settlementReadyAt
  cases input.nextReady <;> simp

end ApplyInput

/-- `repository.applySnapshot`. -/
def applySnapshot (input : ApplyInput) (db : Store) : Except Failure Store :=
  db.transact input.aggregate.execution.version (input.appliedStore db)

/-! ## Candidates -/

/-- The argument of `updateCandidateAttempt`. -/
structure CandidateInput where
  attemptId : String
  snapshot : ExecutionSnapshot
  conflictType : Option ConflictType
  conflictDetails : Option Json

/-- The row of a candidate after `updateCandidateAttempt`. -/
def CandidateInput.updated (input : CandidateInput) (attempt : TransactionAttemptRecord) :
    TransactionAttemptRecord :=
  { attempt with
    submissionStatus := input.snapshot.submissionStatus
    chainStatus := input.snapshot.chainStatus
    workflowStatus := input.snapshot.workflowStatus
    disposition := dispositionForSnapshot input.snapshot
    conflictType := input.conflictType
    conflictDetails := input.conflictDetails.map Json.jsonb }

/-- `repository.updateCandidateAttempt`: no version check. -/
def updateCandidateAttempt (input : CandidateInput) (db : Store) : Store :=
  { db with attempts := updateAttempt input.attemptId input.updated db.attempts }

/-- The argument of `promoteAttemptProjection`, with the attempt it promotes. -/
structure PromoteInput where
  aggregate : IntentAggregate
  attempt : TransactionAttemptRecord
  snapshot : ExecutionSnapshot
  eventKind : EventKind
  reason : String
  rawObservation : Json
  occurredAt : Int
  nextReconcileAt : Int

namespace PromoteInput

variable (input : PromoteInput)

/-- The snapshot of the row the caller has read. -/
def before : ExecutionSnapshot := snapshotFromExecution input.aggregate.execution

/-- What becomes of the promoted attempt. -/
def disposition : AttemptDisposition := dispositionForSnapshot input.snapshot

/-- The number of Cells the intent expects. -/
def requiredAssertionCount : Nat := input.aggregate.intent.expectedCells.length

/-- The row was ready for settlement before. -/
def oldSettlementReady : Bool :=
  input.aggregate.execution.settlementReadyAt.isSome &&
    isSettlementReady input.before input.aggregate.execution.assertionStatus
      input.requiredAssertionCount input.aggregate.execution.conflictType

/-- The row is ready for settlement with the promoted attempt. -/
def promotedSettlementReady : Bool :=
  isSettlementReady input.snapshot none input.requiredAssertionCount input.attempt.conflictType

/-- The execution row after `promoteAttemptProjection`: it takes the attempt's transaction over. -/
def promotedExecution (row : ExecutionRecord) : ExecutionRecord :=
  { row with
    txHash := some input.attempt.txHash
    inputOutPoints := input.attempt.inputOutPoints.map OutPointRef.stored
    inputRefs := input.attempt.inputRefs.map InputRef.stored
    submissionStatus := input.snapshot.submissionStatus
    chainStatus := input.snapshot.chainStatus
    workflowStatus := input.snapshot.workflowStatus
    confirmationCount := input.snapshot.confirmationCount
    committedBlockHash := truthy input.snapshot.committedBlockHash
    committedBlockNumber := truthy input.snapshot.committedBlockNumber
    rejectionReason := truthy input.snapshot.rejectionReason
    submissionErrorCode := input.attempt.submissionErrorCode
    submissionErrorType := input.attempt.submissionErrorType
    submissionErrorDetails := input.attempt.submissionErrorDetails.map Json.jsonb
    conflictType := input.attempt.conflictType
    conflictDetails := input.attempt.conflictDetails.map Json.jsonb
    assertionStatus := none
    assertionResult := none
    settlementReadyAt := if input.promotedSettlementReady then some input.occurredAt else none
    lastRawObservation := some input.rawObservation.jsonb
    lastObservedAt := some input.occurredAt
    nextReconcileAt := some input.nextReconcileAt
    reconcileAttempts := 0
    version := row.version + 1 }

/-- The promoted attempt after `promoteAttemptProjection`. -/
def promotedAttempt (attempt : TransactionAttemptRecord) : TransactionAttemptRecord :=
  { attempt with
    submissionStatus := input.snapshot.submissionStatus
    chainStatus := input.snapshot.chainStatus
    workflowStatus := input.snapshot.workflowStatus
    disposition := input.disposition }

/-- All attempts after the promotion. -/
def promotedAttempts (attempts : List TransactionAttemptRecord) : List TransactionAttemptRecord :=
  let updated := updateAttempt input.attempt.id input.promotedAttempt attempts
  if input.disposition = .confirmed then supersedeOthers input.attempt.id updated else updated

/-- The events of the promotion: its own, and the settlement event after it where readiness changed. -/
def promotedEvents : List StateEvent :=
  let promotion : EventInput :=
    { txHash := some input.attempt.txHash
      kind := input.eventKind
      fromStatus := some (deriveOverallStatus input.before)
      toStatus := deriveOverallStatus input.snapshot
      reason := some input.reason
      rawObservation := some input.rawObservation
      occurredAt := input.occurredAt
      snapshot := input.snapshot
      assertionStatus := none
      requiredAssertionCount := input.requiredAssertionCount
      conflictType := none }
  eventWithOutbox promotion ::
    (if input.oldSettlementReady != input.promotedSettlementReady then
      [eventWithOutbox
        { promotion with
          kind := if input.promotedSettlementReady then .settlementReady else .settlementRevoked
          conflictType := input.attempt.conflictType
          reason := some (
            if input.promotedSettlementReady then
              "Promoted canonical competing transaction satisfied the confirmation policy with no required Cell assertions"
            else
              "Competing transaction replaced the previous settlement projection; downstream applications must assess compensation") }]
    else [])

/-- All rows after `promoteAttemptProjection`. -/
def promotedStore (db : Store) : Store :=
  { db with
    execution := input.promotedExecution db.execution
    attempts := input.promotedAttempts db.attempts
    intent :=
      { db.intent with
        activeAttemptId := some input.attempt.id
        winningAttemptId :=
          if input.disposition = .confirmed then some input.attempt.id
          else input.aggregate.intent.winningAttemptId }
    events := db.events ++ input.promotedEvents }

end PromoteInput

namespace PromoteInput

variable {input : PromoteInput}

/-- The promoted row is ready exactly when the promoted snapshot is. -/
theorem promotedStore_settlementReady {db : Store}
    (hpolicy : db.execution.confirmationPolicy = input.snapshot.confirmationPolicy)
    (hcells : db.intent.expectedCells = input.aggregate.intent.expectedCells) :
    (input.promotedStore db).settlementReady = input.promotedSettlementReady := by
  simp [Store.settlementReady, promotedSettlementReady, promotedStore, promotedExecution,
    snapshotFromExecution, isSettlementReady, requiredAssertionCount, hpolicy, hcells]

end PromoteInput

/-- `repository.promoteAttemptProjection`. -/
def promoteAttemptProjection (input : PromoteInput) (db : Store) : Except Failure Store :=
  db.transact input.aggregate.execution.version (input.promotedStore db)

/-! ## Events without a transition -/

/-- `repository.appendEvent`: an audit entry, no version check. -/
def appendEvent (aggregate : IntentAggregate) (kind : EventKind)
    (fromStatus toStatus : OverallStatus) (reason : String) (rawObservation : Option Json)
    (now : Int) (db : Store) : Store :=
  let execution := aggregate.execution
  { db with
    events := db.events ++
      [eventWithOutbox
        { txHash := execution.txHash, kind := kind, fromStatus := some fromStatus
          toStatus := toStatus, reason := truthy (some reason), rawObservation := rawObservation
          occurredAt := now
          snapshot :=
            { submissionStatus := execution.submissionStatus
              chainStatus := execution.chainStatus
              workflowStatus := execution.workflowStatus
              confirmationPolicy := execution.confirmationPolicy
              confirmationCount := execution.confirmationCount
              committedBlockHash := none
              committedBlockNumber := none
              rejectionReason := none }
          assertionStatus := execution.assertionStatus
          requiredAssertionCount := aggregate.intent.expectedCells.length
          conflictType := none }] }

/-- `repository.addOperatorNote`. -/
def addOperatorNote (aggregate : IntentAggregate) (note : String) (now : Int) (db : Store) : Store :=
  let snapshot := snapshotFromExecution aggregate.execution
  { db with
    events := db.events ++
      [eventWithOutbox
        { txHash := aggregate.execution.txHash, kind := .operatorNote
          fromStatus := some (deriveOverallStatus snapshot)
          toStatus := deriveOverallStatus snapshot, reason := some note, rawObservation := none
          occurredAt := now, snapshot := snapshot
          assertionStatus := aggregate.execution.assertionStatus
          requiredAssertionCount := aggregate.intent.expectedCells.length
          conflictType := none }] }

/-! ## Claiming due rows -/

/-- The selection predicate of `claimDueExecutions` at time `now`. -/
def claimable (row : ExecutionRecord) (now : Int) : Bool :=
  (match row.nextReconcileAt with
    | some due => decide (due ≤ now)
    | none => false) &&
  row.workflowStatus ≠ .conflicted && row.workflowStatus ≠ .expired &&
  row.chainStatus ≠ .rejected &&
  (row.submissionStatus ≠ .nodeRejected || row.conflictType = some .inputConflictSuspected) &&
  (match row.reconcileLeaseUntil with
    | some lease => decide (lease < now)
    | none => true)

end CellFlow
