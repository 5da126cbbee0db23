/-
# CellFlow.Db.Records — the rows of one intent as the repository reads them.

`Store` is what the database holds for one intent: the intent row, its execution row, its attempts in
attempt order, the signed-payload revisions and the state events with their outbox payloads.  Rows
stand in the form the `map…` functions of `packages/db/src/repository.ts` return, so an absent text
is `none`, a `jsonb` value has its stored key order and a timestamp is in milliseconds.
-/
import CellFlow.Assertions.ExpectedCell

namespace CellFlow

open Js (Json)

/-! ## Rows -/

/-- A row of `intents`. -/
structure IntentRecord where
  intentId : String
  expectedCells : List ExpectedCellAssertion
  activeAttemptId : Option String
  winningAttemptId : Option String
  deriving DecidableEq

/-- A row of `executions`. -/
structure ExecutionRecord where
  txHash : Option String
  inputOutPoints : List OutPointRef
  inputRefs : List InputRef
  submissionStatus : SubmissionStatus
  chainStatus : ChainStatus
  workflowStatus : WorkflowStatus
  confirmationPolicy : ConfirmationPolicy
  confirmationCount : Nat
  committedBlockHash : Option String
  committedBlockNumber : Option String
  rejectionReason : Option String
  submissionErrorCode : Option String
  submissionErrorType : Option SubmissionErrorType
  submissionErrorDetails : Option Json
  conflictType : Option ConflictType
  conflictDetails : Option Json
  assertionStatus : Option AssertionStatus
  settlementReadyAt : Option Int
  assertionResult : Option Json
  lastRawObservation : Option Json
  lastObservedAt : Option Int
  nextReconcileAt : Option Int
  reconcileAttempts : Nat
  version : Nat
  reconcileLeaseUntil : Option Int

/-- A row of `transaction_attempts`. -/
structure TransactionAttemptRecord where
  id : String
  attemptNumber : Nat
  txHash : String
  signedPayloadHashSha256 : Option String
  parentAttemptId : Option String
  attemptKind : AttemptKind
  disposition : AttemptDisposition
  inputOutPoints : List OutPointRef
  inputRefs : List InputRef
  submissionStatus : SubmissionStatus
  chainStatus : ChainStatus
  workflowStatus : WorkflowStatus
  submissionErrorCode : Option String
  submissionErrorType : Option SubmissionErrorType
  submissionErrorDetails : Option Json
  conflictType : Option ConflictType
  conflictDetails : Option Json

/-- Why a signed payload was stored. -/
inductive RevisionKind where
  | initial
  | cosignature
  | manualReplacement
  deriving DecidableEq, Repr

/-- A row of `signed_payload_revisions`. -/
structure SignedPayloadRevision where
  attemptId : String
  revisionNumber : Nat
  payloadHashSha256 : String
  revisionKind : RevisionKind
  deriving DecidableEq, Repr

/-- `data` of the outbox payload, with its event type. -/
structure WebhookPayload where
  type : String
  txHash : Option String
  status : OverallStatus
  submissionStatus : SubmissionStatus
  chainStatus : ChainStatus
  workflowStatus : WorkflowStatus
  confirmationCount : Nat
  assertionStatus : Option AssertionStatus
  settlementReady : Bool
  deriving DecidableEq, Repr

/-- A row of `state_events`, less its number and time. -/
structure StateEvent where
  kind : EventKind
  fromStatus : Option OverallStatus
  toStatus : OverallStatus
  reason : Option String
  rawObservation : Option Json
  occurredAt : Int
  payload : WebhookPayload

/-- The database rows of one intent, and the transaction hashes other intents of the project own. -/
structure Store where
  intent : IntentRecord
  execution : ExecutionRecord
  attempts : List TransactionAttemptRecord
  revisions : List SignedPayloadRevision
  events : List StateEvent
  hashesElsewhere : List String

/-! ## Aggregates -/

/-- An intent with its execution and its attempts, as `getIntent` returns it. -/
structure IntentAggregate where
  intent : IntentRecord
  execution : ExecutionRecord
  attempts : List TransactionAttemptRecord
  activeAttempt : Option TransactionAttemptRecord
  winningAttempt : Option TransactionAttemptRecord

/-- `attempts.find((attempt) => attempt.id === id) ?? null`. -/
def findAttempt (attempts : List TransactionAttemptRecord) (id : Option String) :
    Option TransactionAttemptRecord :=
  id.bind fun id => attempts.find? fun attempt => attempt.id = id

/-- `getIntent`: the rows as one read sees them. -/
def Store.aggregate (db : Store) : IntentAggregate where
  intent := db.intent
  execution := db.execution
  attempts := db.attempts
  activeAttempt := findAttempt db.attempts db.intent.activeAttemptId
  winningAttempt := findAttempt db.attempts db.intent.winningAttemptId

/-- The view has the rows of the store, up to what other attempts have been written since. -/
structure Current (view : IntentAggregate) (db : Store) : Prop where
  execution : view.execution = db.execution
  intent : view.intent = db.intent

theorem Store.current (db : Store) : Current db.aggregate db := ⟨rfl, rfl⟩

/-- `snapshotFromExecution`: the machine's snapshot in a row. -/
def snapshotFromExecution (row : ExecutionRecord) : ExecutionSnapshot where
  submissionStatus := row.submissionStatus
  chainStatus := row.chainStatus
  workflowStatus := row.workflowStatus
  confirmationPolicy := row.confirmationPolicy
  confirmationCount := row.confirmationCount
  committedBlockHash := truthy row.committedBlockHash
  committedBlockNumber := truthy row.committedBlockNumber
  rejectionReason := truthy row.rejectionReason

section Fields

variable (row : ExecutionRecord)

@[simp] theorem snapshotFromExecution_submission :
    (snapshotFromExecution row).submissionStatus = row.submissionStatus := rfl

@[simp] theorem snapshotFromExecution_chain :
    (snapshotFromExecution row).chainStatus = row.chainStatus := rfl

@[simp] theorem snapshotFromExecution_workflow :
    (snapshotFromExecution row).workflowStatus = row.workflowStatus := rfl

@[simp] theorem snapshotFromExecution_policy :
    (snapshotFromExecution row).confirmationPolicy = row.confirmationPolicy := rfl

@[simp] theorem snapshotFromExecution_count :
    (snapshotFromExecution row).confirmationCount = row.confirmationCount := rfl

@[simp] theorem snapshotFromExecution_hash :
    (snapshotFromExecution row).committedBlockHash = truthy row.committedBlockHash := rfl

@[simp] theorem snapshotFromExecution_number :
    (snapshotFromExecution row).committedBlockNumber = truthy row.committedBlockNumber := rfl

end Fields

/-- The attempts other than the active one that are still candidates. -/
def rivals (aggregate : IntentAggregate) : List TransactionAttemptRecord :=
  aggregate.attempts.filter fun attempt =>
    attempt.disposition = .active ∧ some attempt.id ≠ aggregate.intent.activeAttemptId

/-- Whether the stored row is settlement-ready. -/
def Store.settlementReady (db : Store) : Bool :=
  isSettlementReady (snapshotFromExecution db.execution) db.execution.assertionStatus
    db.intent.expectedCells.length db.execution.conflictType

/-! ## Failures -/

/-- The errors `attachTransaction` throws by message. -/
inductive RepositoryError where
  | attemptKindInvalid
  | unsafeAttemptReplacement
  | attemptParentConflict
  | rbfInputsDoNotOverlap
  | txHashConflict
  | attemptInputConflict
  | attemptSignedPayloadConflict
  deriving DecidableEq, Repr

/-- How an operation can fail; a failed database transaction leaves the store unchanged. -/
inductive Failure where
  | cellFlow (error : CellFlowError)
  | repository (error : RepositoryError)
  | optimisticConcurrency
  | constraint (name : String)
  | error (message : String)
  deriving DecidableEq, Repr

end CellFlow
