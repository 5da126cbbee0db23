/-
# CellFlow.Db.PublicView — what the API shows of an intent.

`executionPublicView` of `packages/db/src/repository.ts`: the stored row with its derived status,
settlement verdict and recommended action, and the attempts with the links between replacements.
-/
import CellFlow.Core.Recommendation
import CellFlow.Db.Records

namespace CellFlow

open Js (Json)

/-- An attempt as the API shows it. -/
structure PublicAttempt where
  id : String
  attemptNumber : Nat
  txHash : String
  signedPayloadHashSha256 : Option String
  parentAttemptId : Option String
  replacesAttemptId : Option String
  replacedByAttemptId : Option String
  attemptKind : AttemptKind
  disposition : AttemptDisposition
  submissionStatus : SubmissionStatus
  chainStatus : ChainStatus
  workflowStatus : WorkflowStatus
  inputRefs : List InputRef
  conflictType : Option ConflictType
  conflictDetails : Option Json

/-- An intent as the API shows it. -/
structure PublicView where
  intentId : String
  txHash : Option String
  inputOutPoints : List OutPointRef
  inputRefs : List InputRef
  activeAttemptId : Option String
  winningAttemptId : Option String
  attempts : List PublicAttempt
  status : OverallStatus
  submissionStatus : SubmissionStatus
  chainStatus : ChainStatus
  workflowStatus : WorkflowStatus
  confirmationPolicy : ConfirmationPolicy
  confirmationCount : Nat
  committedBlockHash : Option String
  committedBlockNumber : Option String
  assertionStatus : Option AssertionStatus
  settlementReady : Bool
  settlementReadyAt : Option Int
  assertionResult : Option Json
  submissionErrorCode : Option String
  submissionErrorType : Option SubmissionErrorType
  submissionErrorDetails : Option Json
  conflictType : Option ConflictType
  conflictDetails : Option Json
  recommendedAction : RecommendedAction

/-- One attempt, with the RBF replacement that names it as its parent. -/
def publicAttempt (attempts : List TransactionAttemptRecord) (attempt : TransactionAttemptRecord) :
    PublicAttempt where
  id := attempt.id
  attemptNumber := attempt.attemptNumber
  txHash := attempt.txHash
  signedPayloadHashSha256 := attempt.signedPayloadHashSha256
  parentAttemptId := attempt.parentAttemptId
  replacesAttemptId :=
    if attempt.attemptKind = .rbfReplacement then attempt.parentAttemptId else none
  replacedByAttemptId :=
    (attempts.find? fun candidate =>
      candidate.attemptKind = .rbfReplacement ∧
        candidate.parentAttemptId = some attempt.id).map (·.id)
  attemptKind := attempt.attemptKind
  disposition := attempt.disposition
  submissionStatus := attempt.submissionStatus
  chainStatus := attempt.chainStatus
  workflowStatus := attempt.workflowStatus
  inputRefs := attempt.inputRefs
  conflictType := attempt.conflictType
  conflictDetails := attempt.conflictDetails

/-- `executionPublicView`. -/
def executionPublicView (aggregate : IntentAggregate) : PublicView :=
  let execution := aggregate.execution
  let snapshot := snapshotFromExecution execution
  { intentId := aggregate.intent.intentId
    txHash := execution.txHash
    inputOutPoints := execution.inputOutPoints
    inputRefs := execution.inputRefs
    activeAttemptId := aggregate.intent.activeAttemptId
    winningAttemptId := aggregate.intent.winningAttemptId
    attempts := aggregate.attempts.map (publicAttempt aggregate.attempts)
    status := deriveOverallStatus snapshot
    submissionStatus := snapshot.submissionStatus
    chainStatus := snapshot.chainStatus
    workflowStatus := snapshot.workflowStatus
    confirmationPolicy := snapshot.confirmationPolicy
    confirmationCount := snapshot.confirmationCount
    committedBlockHash := snapshot.committedBlockHash
    committedBlockNumber := snapshot.committedBlockNumber
    assertionStatus := execution.assertionStatus
    settlementReady :=
      isSettlementReady snapshot execution.assertionStatus aggregate.intent.expectedCells.length
        execution.conflictType
    settlementReadyAt := execution.settlementReadyAt
    assertionResult := execution.assertionResult
    submissionErrorCode := execution.submissionErrorCode
    submissionErrorType := execution.submissionErrorType
    submissionErrorDetails := execution.submissionErrorDetails
    conflictType := execution.conflictType
    conflictDetails := execution.conflictDetails
    recommendedAction :=
      deriveRecommendedAction snapshot execution.conflictType execution.assertionStatus
        execution.conflictDetails execution.submissionErrorDetails
        aggregate.intent.expectedCells.length }

/-- The view reports the verdict of the stored row. -/
@[simp] theorem executionPublicView_settlementReady (db : Store) :
    (executionPublicView db.aggregate).settlementReady = db.settlementReady := rfl

@[simp] theorem executionPublicView_status (db : Store) :
    (executionPublicView db.aggregate).status =
      deriveOverallStatus (snapshotFromExecution db.execution) := rfl

end CellFlow
