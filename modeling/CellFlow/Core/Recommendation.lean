/-
# CellFlow.Core.Recommendation — the recovery a public view recommends.

`deriveRecommendedAction` of `packages/core/src/state-machine.ts`: one action from the three status
axes, the conflict and its details, the assertion verdict and the submission error.
-/
import CellFlow.Core.StateMachine

namespace CellFlow

open Js (Json)

/-- What a view advises its reader to do. -/
inductive RecommendedAction where
  | none
  | waitForReconciliation
  | waitAndReconcile
  | rebuildFromLiveState
  | recollectWalletInputs
  | rebuildAndResign
  | reconcileCanonicalState
  | waitForMaturity
  | manualReview
  deriving DecidableEq, Repr

/-- The actions that ask for a new transaction. -/
def RecommendedAction.rebuilds : RecommendedAction → Bool
  | .rebuildFromLiveState => true
  | .recollectWalletInputs => true
  | .rebuildAndResign => true
  | _ => false

/-- The domain of the contended inputs, as the conflict details name it. -/
def conflictDomainFromDetails (details : Option Json) : ConflictDomain :=
  match (details.getD .null).string? "inputDomain" with
  | some "APPLICATION" => .application
  | some "WALLET" => .wallet
  | some "MIXED" => .mixed
  | _ => .unknown

/-- The action for a conflict whose inputs belong to a domain. -/
def ConflictDomain.recovery : ConflictDomain → RecommendedAction
  | .wallet => .recollectWalletInputs
  | .mixed => .rebuildAndResign
  | .application => .rebuildFromLiveState
  | .unknown => .manualReview

/-- `deriveRecommendedAction`: the cases in the order of the source, the first that applies. -/
def deriveRecommendedAction (snapshot : ExecutionSnapshot) (conflictType : Option ConflictType)
    (assertionStatus : Option AssertionStatus) (conflictDetails submissionErrorDetails : Option Json)
    (requiredAssertionCount : Nat) : RecommendedAction :=
  let details := conflictDetails.getD .null
  let submissionDetails := submissionErrorDetails.getD .null
  if assertionStatus = some .failed ∨ conflictType = some .expectedCellAssertionFailed ∨
      conflictType = some .signedPayloadMismatch then .manualReview
  else if snapshot.workflowStatus = .confirmed then
    if isSettlementReady snapshot assertionStatus requiredAssertionCount conflictType then .none
    else .waitForReconciliation
  else if conflictType = some .inputSpent then (conflictDomainFromDetails conflictDetails).recovery
  else if snapshot.workflowStatus = .reorged ∨ conflictType = some .reorgConflict then
    .reconcileCanonicalState
  else if conflictType = some .inputConflictSuspected then
    if details.string? "classification" = some "MEMPOOL_CONTENDED" ∧
        details.flag "graceExpired" = true then
      (conflictDomainFromDetails conflictDetails).recovery
    else .waitAndReconcile
  else if snapshot.submissionStatus = .nodeRejected ∧ submissionDetails.flag "retryable" = true ∧
      submissionDetails.string? "retryReason" = some "CKB_MATURITY_OR_SINCE" then .waitForMaturity
  else if snapshot.submissionStatus = .submissionUnknown then .waitForReconciliation
  else if snapshot.workflowStatus = .reconciling ∨
      snapshot.workflowStatus = .waitingConfirmations then .waitForReconciliation
  else if snapshot.chainStatus = .rejected ∨ snapshot.submissionStatus = .nodeRejected then
    .manualReview
  else .none

variable {s : ExecutionSnapshot} {c : Option ConflictType} {a : Option AssertionStatus}
  {d e : Option Json} {n : Nat}

/-- **When nothing is recommended on a confirmed transaction**: exactly when it is settled and no
assertion failed. -/
theorem deriveRecommendedAction_none_iff (hw : s.workflowStatus = .confirmed) :
    deriveRecommendedAction s c a d e n = .none ↔
      isSettlementReady s a n c = true ∧ a ≠ some .failed := by
  unfold deriveRecommendedAction
  simp only [hw, if_true]
  by_cases hready : isSettlementReady s a n c = true
  · have hc : c = none := (isSettlementReady_eq_true.mp hready).2.2.2.2.2.1
    subst hc
    by_cases ha : a = some .failed
    · simp [ha]
    · simp [ha, hready]
  · simp only [hready, Bool.false_eq_true, if_false, false_and, iff_false]
    split <;> simp

/-- A spend conflict on a row that is not confirmed asks for a new transaction exactly where the
domain of its inputs is known, unless its assertions failed. -/
theorem deriveRecommendedAction_inputSpent (hw : s.workflowStatus ≠ .confirmed) :
    deriveRecommendedAction s (some .inputSpent) a d e n =
      if a = some .failed then .manualReview else (conflictDomainFromDetails d).recovery := by
  simp [deriveRecommendedAction, hw]

end CellFlow
