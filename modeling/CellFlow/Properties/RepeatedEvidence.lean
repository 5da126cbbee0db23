/-
# CellFlow.Properties.RepeatedEvidence — reconciling again without new evidence.

The write of a reconciliation inserts no state event where nothing the audit log records has changed.
Among what it records are the conflict details, compared as a text, and those carry clock readings.
Repeated evidence is silent exactly where no branch that writes such details is taken.
-/
import CellFlow.Api.AttemptRows
import CellFlow.Properties.CandidateWatch
import CellFlow.Properties.ObservedCommit
import CellFlow.Reconcile.Repetition

namespace CellFlow

open Js (Json toISOString)

/-! ## One write after another -/

namespace ApplyInput

variable {input input₁ input₂ : ApplyInput}

theorem appliedEvents_eq_nil :
    input.appliedEvents = [] ↔ input.meaningful = false ∧ input.settlementChanged = false := by
  unfold appliedEvents
  by_cases h : input.meaningful = false ∧ input.settlementChanged = false
  · simp [h]
  · simp [h]

/-- **What the audit log records**, unchanged. -/
theorem meaningful_eq_false : input.meaningful = false ↔
    input.prior.submissionStatus = input.snapshot.submissionStatus ∧
    input.prior.chainStatus = input.snapshot.chainStatus ∧
    input.prior.workflowStatus = input.snapshot.workflowStatus ∧
    input.prior.committedBlockHash = input.snapshot.committedBlockHash ∧
    input.prior.committedBlockNumber = input.snapshot.committedBlockNumber ∧
    input.prior.rejectionReason = input.snapshot.rejectionReason ∧
    input.prior.assertionStatus = input.nextAssertionStatus ∧
    input.prior.conflictType = input.nextConflictType ∧
    detailsText input.prior.conflictDetails = detailsText input.nextConflictDetails := by
  simp [meaningful, and_assoc]

end ApplyInput

/-- The view has the row another write has left, and the same intent and fingerprint. -/
structure Successor (input : ApplyInput) (view : IntentAggregate) : Prop where
  execution : view.execution = input.appliedExecution input.prior
  expectedCells : view.intent.expectedCells = input.aggregate.intent.expectedCells
  fingerprint : view.activeAttempt.bind (·.signedPayloadHashSha256) =
    input.aggregate.activeAttempt.bind (·.signedPayloadHashSha256)

section Writes

variable {input₁ input₂ : ApplyInput} {view : IntentAggregate}

/-- The snapshot of the row is the one written. -/
theorem Successor.snapshot (h : Successor input₁ view) (hread : ReadBack input₁.snapshot)
    (hpolicy : input₁.prior.confirmationPolicy = input₁.snapshot.confirmationPolicy) :
    snapshotFromExecution view.execution = input₁.snapshot := by
  have hhash := hread.hash
  have hnumber := hread.number
  have hreason := hread.reason
  rw [h.execution]
  cases hs : input₁.snapshot with
  | mk submission chain workflow policy count hash number reason =>
      rw [hs] at hhash hnumber hreason hpolicy
      simp only at hhash hnumber hreason hpolicy
      simp [snapshotFromExecution, ApplyInput.appliedExecution, hs, hpolicy, hhash, hnumber, hreason]

/-- **A write that repeats another** but for the confirmation count records an event exactly where
the conflict details print another text. -/
theorem appliedEvents_again (h : Successor input₁ view) (hread : ReadBack input₁.snapshot)
    (hpolicy : input₁.prior.confirmationPolicy = input₁.snapshot.confirmationPolicy)
    (hview : input₂.aggregate = view) {count : Nat}
    (hsnapshot : input₂.snapshot = { input₁.snapshot with confirmationCount := count })
    (hdepth : isConfirmationSatisfied input₁.snapshot.confirmationPolicy input₁.snapshot.chainStatus
        count =
      isConfirmationSatisfied input₁.snapshot.confirmationPolicy input₁.snapshot.chainStatus
        input₁.snapshot.confirmationCount)
    (hassertion : input₂.nextAssertionStatus = view.execution.assertionStatus)
    (htype : input₂.nextConflictType = view.execution.conflictType) :
    input₂.appliedEvents = [] ↔ ApplyInput.detailsText view.execution.conflictDetails =
      ApplyInput.detailsText input₂.nextConflictDetails := by
  have hprior : input₂.prior = view.execution := congrArg IntentAggregate.execution hview
  have hrow : snapshotFromExecution view.execution = input₁.snapshot := h.snapshot hread hpolicy
  have hcount : input₂.requiredAssertionCount = input₁.requiredAssertionCount := by
    show input₂.aggregate.intent.expectedCells.length = _
    rw [hview, h.expectedCells]
    rfl
  have hassertion₁ : view.execution.assertionStatus = input₁.nextAssertionStatus := by
    rw [h.execution]
    rfl
  have htype₁ : view.execution.conflictType = input₁.nextConflictType := by
    rw [h.execution]
    rfl
  have hsettlement : input₂.settlementChanged = false := by
    have hbefore : input₂.priorReady = input₁.nextReady := by
      have hat : view.execution.settlementReadyAt.isSome = input₁.nextReady := by
        rw [h.execution]
        exact ApplyInput.settlementReadyAt_isSome
      unfold ApplyInput.priorReady
      rw [hprior, hat, hrow, hassertion₁, htype₁, hcount]
      exact Bool.and_self _
    have hafter : input₂.nextReady = input₁.nextReady := by
      unfold ApplyInput.nextReady
      rw [hsnapshot, hassertion, htype, hassertion₁, htype₁, hcount]
      unfold isSettlementReady
      rw [hdepth]
    rw [ApplyInput.settlementChanged, hbefore, hafter]
    exact bne_self_eq_false _
  have hfields : input₂.snapshot = { snapshotFromExecution view.execution with
      confirmationCount := count } := by
    rw [hrow]
    exact hsnapshot
  have htexts : view.execution.committedBlockHash = truthy view.execution.committedBlockHash ∧
      view.execution.committedBlockNumber = truthy view.execution.committedBlockNumber ∧
      view.execution.rejectionReason = truthy view.execution.rejectionReason := by
    rw [h.execution]
    exact ⟨(truthy_truthy _).symm, (truthy_truthy _).symm, (truthy_truthy _).symm⟩
  rw [ApplyInput.appliedEvents_eq_nil, ApplyInput.meaningful_eq_false, hprior, hfields, hassertion,
    htype]
  constructor
  · rintro ⟨⟨-, -, -, -, -, -, -, -, hdetails⟩, -⟩
    exact hdetails
  · intro hdetails
    exact ⟨⟨rfl, rfl, rfl, htexts.1, htexts.2.1, htexts.2.2, rfl, rfl, hdetails⟩, hsettlement⟩

end Writes

/-! ## Two outages -/

section Outages

variable {env₁ env₂ : ReconcileEnv} {view₁ view₂ : IntentAggregate} {message₁ message₂ : String}
  {applied₁ applied₂ : ApplyObservationResult}

theorem failureInput_details (env : ReconcileEnv) (view : IntentAggregate) (message : String)
    (applied : ApplyObservationResult) :
    (failureInput env view message applied).nextConflictDetails =
      markedDetails view.execution.conflictDetails env.nowMs
        "RPC observation failed before canonical spend evidence could be rechecked" := by
  simp only [ApplyInput.nextConflictDetails, failureInput, markedDetails, ApplyInput.prior]
  cases breakSpendObservationContinuity (detailsOf view.execution.conflictDetails) env.nowMs
    "RPC observation failed before canonical spend evidence could be rechecked" <;> rfl

/-- **A second outage** records an event exactly where it marks a recorded spend once more. -/
theorem outage_again
    (happ₁ : applyChainObservation (snapshotFromExecution view₁.execution)
      (failureObservation env₁ message₁) = .ok applied₁)
    (happ₂ : applyChainObservation (snapshotFromExecution view₂.execution)
      (failureObservation env₂ message₂) = .ok applied₂)
    (h : Successor (failureInput env₁ view₁ message₁ applied₁) view₂) :
    (failureInput env₂ view₂ message₂ applied₂).appliedEvents = [] ↔
      ¬ breaksAgain (detailsOf view₂.execution.conflictDetails) env₂.nowMs := by
  have hsnap₁ := (applyChainObservation_ok happ₁).1
  have hsnap₂ := (applyChainObservation_ok happ₂).1
  have hread : ReadBack applied₁.snapshot := by
    rw [hsnap₁]
    exact (readBack_execution view₁.execution).observed _
  have hpolicy : view₁.execution.confirmationPolicy = applied₁.snapshot.confirmationPolicy := by
    rw [hsnap₁, observedSnapshot_policy]
    rfl
  have hrow : snapshotFromExecution view₂.execution = applied₁.snapshot := h.snapshot hread hpolicy
  have htimeless : (failureObservation env₁ message₁).timeless =
      (failureObservation env₂ message₂).timeless := rfl
  have hagain : observedSnapshot (snapshotFromExecution view₂.execution)
      (failureObservation env₂ message₂) = snapshotFromExecution view₂.execution :=
    observedSnapshot_again htimeless (hrow.trans hsnap₁) (by simp [failureObservation]) rfl
  have hsnapshot : applied₂.snapshot =
      { applied₁.snapshot with confirmationCount := applied₁.snapshot.confirmationCount } := by
    rw [hsnap₂, hagain, hrow]
  have hdetails : view₂.execution.conflictDetails =
      (markedDetails view₁.execution.conflictDetails env₁.nowMs
        "RPC observation failed before canonical spend evidence could be rechecked").map
          Json.jsonb := by
    rw [h.execution, ← failureInput_details]
    rfl
  rw [appliedEvents_again h hread hpolicy rfl hsnapshot rfl rfl rfl, failureInput_details, hdetails]
  exact marked_again _ _ _ _

end Outages

/-! ## Two answers -/

/-- `observe` asks whether the recorded block is canonical only where the row names one. -/
theorem observe_answersFor {row : ExecutionRecord} {endpoints : List Endpoint} {txHash : String}
    {expected : RpcIdentityExpectation} {targets : List InspectionTarget} {now : Int}
    {bundle : RpcObservationBundle}
    (h : CkbRpcClient.observe endpoints txHash (priorCommit (snapshotFromExecution row)) expected
      targets now = .ok bundle) : answersFor row bundle := by
  intro hasked
  obtain ⟨endpoint, -, hrun⟩ := withSession_ok h
  rcases observed_prior hrun with ⟨-, hnone⟩ | ⟨point, -, hpoint, -⟩
  · rw [hnone] at hasked
    cases hasked
  · unfold priorCommit at hpoint
    simp only [snapshotFromExecution_hash, snapshotFromExecution_number, truthy_truthy] at hpoint
    split at hpoint
    next hash number hhash hnumber => exact ⟨by simp [hhash], by simp [hnumber]⟩
    · cases hpoint

/-- The second of two steps with the same evidence, and what the first has left. -/
structure ObservedTwice (env₁ env₂ : ReconcileEnv) (view₁ view₂ : IntentAggregate)
    (b₁ b₂ : RpcObservationBundle) (txHash : String) (applied₁ applied₂ : ApplyObservationResult) :
    Prop where
  first : applyChainObservation (snapshotFromExecution view₁.execution) b₁.observation =
    .ok applied₁
  second : applyChainObservation (snapshotFromExecution view₂.execution) b₂.observation =
    .ok applied₂
  follows : Successor
    (plannedInput env₁ view₁ b₁ applied₁ (plannedDraft env₁ view₁ b₁ txHash applied₁)) view₂
  same : SameEvidence b₁ b₂
  fingerprint : env₁.fingerprint = env₂.fingerprint
  asked₁ : answersFor view₁.execution b₁
  asked₂ : answersFor view₂.execution b₂
  depth : isConfirmationSatisfied view₂.execution.confirmationPolicy .committed
      (computeConfirmationCount b₁.observation.blockNumber b₁.observation.tipBlockNumber) =
    isConfirmationSatisfied view₂.execution.confirmationPolicy .committed
      (computeConfirmationCount b₂.observation.blockNumber b₂.observation.tipBlockNumber)

namespace ObservedTwice

variable {env₁ env₂ : ReconcileEnv} {view₁ view₂ : IntentAggregate} {b₁ b₂ : RpcObservationBundle}
  {txHash : String} {applied₁ applied₂ : ApplyObservationResult}
  (h : ObservedTwice env₁ env₂ view₁ view₂ b₁ b₂ txHash applied₁ applied₂)

include h

/-- The first step has not marked the row, or the second would be refused. -/
theorem unmarked : stepConflicts env₁ view₁ b₁ txHash applied₁ = false := by
  obtain ⟨-, -, hopen, -⟩ := applyChainObservation_ok h.second
  by_contra hmarked
  rw [Bool.not_eq_false] at hmarked
  apply hopen
  rw [h.follows.execution]
  show (plannedDraft env₁ view₁ b₁ txHash applied₁).snapshot.workflowStatus = .conflicted
  rw [plannedDraft_snapshot, hmarked]
  rfl

theorem unmarked_verdict : (conflictVerdict env₁ view₁ b₁).conflicts env₁ view₁ = false := by
  have hunmarked := h.unmarked
  unfold stepConflicts at hunmarked
  rw [Bool.or_eq_false_iff] at hunmarked
  exact hunmarked.1

/-- What the first step has written of its snapshot. -/
theorem written : ∃ submission, snapshotFromExecution view₂.execution =
      { observedSnapshot (snapshotFromExecution view₁.execution) b₁.observation with
        submissionStatus := submission } ∧
    submission = (observedDraft view₁ b₁ applied₁).snapshot.submissionStatus ∧
    ReadBack (plannedDraft env₁ view₁ b₁ txHash applied₁).snapshot ∧
    view₁.execution.confirmationPolicy =
      (plannedDraft env₁ view₁ b₁ txHash applied₁).snapshot.confirmationPolicy ∧
    snapshotFromExecution view₂.execution =
      (plannedDraft env₁ view₁ b₁ txHash applied₁).snapshot := by
  obtain ⟨hsnap, -⟩ := applyChainObservation_ok h.first
  have hplanned := plannedDraft_snapshot env₁ view₁ b₁ txHash applied₁
  rw [h.unmarked, if_neg (by decide), hsnap] at hplanned
  have hread : ReadBack (plannedDraft env₁ view₁ b₁ txHash applied₁).snapshot := by
    rw [hplanned]
    have hobserved := (readBack_execution view₁.execution).observed b₁.observation
    exact ⟨hobserved.hash, hobserved.number, hobserved.reason⟩
  have hpolicy : view₁.execution.confirmationPolicy =
      (plannedDraft env₁ view₁ b₁ txHash applied₁).snapshot.confirmationPolicy := by
    rw [hplanned]
    show _ = (observedSnapshot _ _).confirmationPolicy
    rw [observedSnapshot_policy]
    rfl
  have hrow := h.follows.snapshot hread hpolicy
  exact ⟨_, hrow.trans hplanned, rfl, hread, hpolicy, hrow⟩

/-- The answer keeps the snapshot, up to the confirmation count. -/
theorem snapshot_again : applied₂.snapshot =
    { snapshotFromExecution view₂.execution with
      confirmationCount :=
        countAfter (snapshotFromExecution view₂.execution) b₂.observation } := by
  obtain ⟨submission, hrow, -⟩ := h.written
  have hpolicy : view₂.execution.confirmationPolicy = view₁.execution.confirmationPolicy := by
    rw [h.follows.execution]
    rfl
  rw [(applyChainObservation_ok h.second).1]
  refine observedSnapshot_again h.same.observation hrow ?_ ?_
  · intro hasked
    exact (h.asked₂ hasked).1
  · rw [snapshotFromExecution_policy, ← hpolicy]
    exact h.depth

/-- The confirmation policy judges the count as before. -/
theorem depth_again :
    isConfirmationSatisfied view₂.execution.confirmationPolicy view₂.execution.chainStatus
        (countAfter (snapshotFromExecution view₂.execution) b₂.observation) =
      isConfirmationSatisfied view₂.execution.confirmationPolicy view₂.execution.chainStatus
        view₂.execution.confirmationCount := by
  unfold countAfter
  by_cases hc : b₂.observation.status = .committed
  · have hc₁ := h.same.status.trans hc
    obtain ⟨submission, hrow, -⟩ := h.written
    have hp : preservesCommit (snapshotFromExecution view₁.execution) b₁.observation = false := by
      simp [preservesCommit, hc₁]
    rw [observedSnapshot, hp, if_neg (by decide)] at hrow
    have hchain : view₂.execution.chainStatus = .committed := by
      show (snapshotFromExecution view₂.execution).chainStatus = _
      rw [hrow]
      show (advancedSnapshot _ _).chainStatus = _
      rw [advancedSnapshot_chain, hc₁]
      rfl
    have hcount : view₂.execution.confirmationCount = computeConfirmationCount
        b₁.observation.blockNumber b₁.observation.tipBlockNumber := by
      show (snapshotFromExecution view₂.execution).confirmationCount = _
      rw [hrow]
      show (advancedSnapshot _ _).confirmationCount = _
      rw [advancedSnapshot_count, if_pos hc₁]
    rw [if_pos hc, hchain, hcount]
    exact h.depth.symm
  · rw [if_neg hc]
    rfl

/-- A node rejection is superseded once. -/
theorem submission_again :
    (observedDraft view₂ b₂ applied₂).snapshot.submissionStatus = view₂.execution.submissionStatus := by
  obtain ⟨submission, hrow, hsubmission, -⟩ := h.written
  have hsub₁ := observedDraft_submission view₁ b₁ applied₁ (by
    rw [(applyChainObservation_ok h.first).1, observedSnapshot_submission]
    rfl)
  have hsub₂ := observedDraft_submission view₂ b₂ applied₂ (by
    rw [(applyChainObservation_ok h.second).1, observedSnapshot_submission]
    rfl)
  have hrow' : view₂.execution.submissionStatus = submission :=
    congrArg ExecutionSnapshot.submissionStatus hrow
  have honce : rejectionSuperseded view₂ b₂ = false := by
    by_contra htwice
    simp only [Bool.not_eq_false, rejectionSuperseded, Bool.and_eq_true, decide_eq_true_eq]
      at htwice
    obtain ⟨hrejected, hfound⟩ := htwice
    rw [← h.same.status] at hfound
    rw [hrow', hsubmission, hsub₁] at hrejected
    split_ifs at hrejected with hr
    exact hr (by simp [rejectionSuperseded, hrejected, hfound])
  rw [hsub₂, honce, if_neg (by decide)]

theorem mismatch_first : signedPayloadMismatch env₁ view₁ b₁ = none := by
  cases hm : signedPayloadMismatch env₁ view₁ b₁ with
  | none => rfl
  | some pair =>
      have hunmarked := h.unmarked_verdict
      rw [conflictVerdict_mismatch hm] at hunmarked
      cases hunmarked

theorem mismatch_again : signedPayloadMismatch env₂ view₂ b₂ = none := by
  rw [← h.mismatch_first]
  unfold signedPayloadMismatch
  rw [h.follows.fingerprint, h.same.transaction, h.same.status, h.fingerprint]
  rfl

/-- An answer that comes again finds the row in no reorg. -/
theorem not_reorged : view₂.execution.workflowStatus ≠ .reorged := by
  obtain ⟨submission, hrow, -⟩ := h.written
  show (snapshotFromExecution view₂.execution).workflowStatus ≠ .reorged
  have hasked : b₂.observation.priorCommitCanonical.isSome →
      (snapshotFromExecution view₂.execution).committedBlockHash.isSome :=
    fun hasked => (h.asked₂ hasked).1
  rw [hrow] at hasked ⊢
  exact not_reorged_again h.same.observation hasked

/-- A reorg the second answer proves, the first has proved. -/
theorem reorg_again (hr : applied₂.reorgDetected = true) : applied₁.reorgDetected = true := by
  obtain ⟨submission, hrow, -⟩ := h.written
  rw [(applyChainObservation_ok h.second).2.1] at hr
  rw [(applyChainObservation_ok h.first).2.1]
  refine reorg_first h.same.observation hrow (fun hasked => ?_) hr
  rw [snapshotFromExecution_hash, truthy_truthy]
  exact (h.asked₁ hasked).1

end ObservedTwice

/-- A reorg asks for a check of every confirmed row with expected Cells. -/
theorem checksCells_of_reorg {view : IntentAggregate} {bundle : RpcObservationBundle}
    {applied : ApplyObservationResult}
    (happ : applyChainObservation (snapshotFromExecution view.execution) bundle.observation =
      .ok applied)
    (hr : applied.reorgDetected = true) :
    checksCells view bundle =
      (applied.snapshot.workflowStatus = .confirmed && view.intent.expectedCells ≠ []) := by
  obtain ⟨hsnap, hreorg, -⟩ := applyChainObservation_ok happ
  rw [hreorg] at hr
  rw [hsnap]
  simp [checksCells, shouldReverifyExpectedCells, hr]

/-- A step that finds no Cell contradicted keeps the details of its conflict stage. -/
theorem assertionDraft_details {env : ReconcileEnv} {view : IntentAggregate}
    {bundle : RpcObservationBundle} {reorgDetected : Bool} {draft : Draft}
    (h : assertionsFail env view bundle reorgDetected draft = false) :
    (assertionDraft env view bundle reorgDetected draft).conflictDetails = draft.conflictDetails := by
  rw [assertionDraft_conflictDetails, h, if_neg (by simp)]

theorem foundDraft_details (view : IntentAggregate) (bundle : RpcObservationBundle) (draft : Draft) :
    (foundDraft view bundle draft).conflictDetails = none := by
  unfold foundDraft
  split <;> rfl

theorem uncertainDraft_details (inspection : InputInspection) (draft : Draft) :
    (uncertainDraft inspection draft).conflictDetails =
      markedDetails draft.conflictDetails inspection.observedAt
        "Original input state became uncertain" := by
  simp only [uncertainDraft, markedDetails]
  cases breakSpendObservationContinuity (detailsOf draft.conflictDetails) inspection.observedAt
    "Original input state became uncertain" <;> rfl

theorem spentDraft_details {env : ReconcileEnv} {view : IntentAggregate}
    {inspection : InputInspection} (h : spendTerminal env view inspection = false) (draft : Draft) :
    ∃ corroboration, (spentDraft env view inspection draft).conflictDetails =
      some (spentSuspectedDetails view inspection corroboration) := by
  unfold spentDraft
  unfold spendTerminal at h
  by_cases hm : spendMatured view inspection = true
  · rw [hm, Bool.true_and] at h
    rw [if_pos hm]
    refine ⟨some (corroborateCanonicalSpend env inspection), ?_⟩
    simp [h]
  · exact ⟨none, by simp [hm]⟩

/-! ### Quiet answers -/

/-- The inspection of an absent transaction gives nothing to write down again. -/
def quietInspection (details : Json) : Option InputInspection → Prop
  | none => True
  | some inspection =>
      match inspection.state with
      | .mempoolContended => False
      | .canonicallySpent => False
      | .allLive => True
      | .unknown => ¬ breaksAgain details inspection.observedAt

/-- The expected Cells, where they are checked, come out as on record. -/
def quietCells (env : ReconcileEnv) (view : IntentAggregate) (bundle : RpcObservationBundle) : Prop :=
  checksCells view bundle = true → (evaluation env view bundle).status ≠ .failed ∧
    view.execution.assertionStatus = some (evaluation env view bundle).status

/-- An answer about a transaction that leaves the audit log as it is. -/
def Quiet (env : ReconcileEnv) (view : IntentAggregate) : Except String RpcObservationBundle → Prop
  | .error _ => ¬ breaksAgain (detailsOf view.execution.conflictDetails) env.nowMs
  | .ok bundle =>
      quietInspection (detailsOf view.execution.conflictDetails) bundle.inputInspection ∧
        quietCells env view bundle

namespace ObservedTwice

variable {env₁ env₂ : ReconcileEnv} {view₁ view₂ : IntentAggregate} {b₁ b₂ : RpcObservationBundle}
  {txHash : String} {applied₁ applied₂ : ApplyObservationResult}
  (h : ObservedTwice env₁ env₂ view₁ view₂ b₁ b₂ txHash applied₁ applied₂)

include h

theorem workflow_again : applied₂.snapshot.workflowStatus = view₂.execution.workflowStatus := by
  rw [h.snapshot_again]
  rfl

theorem workflow_first : view₂.execution.workflowStatus = applied₁.snapshot.workflowStatus := by
  obtain ⟨submission, hrow, -⟩ := h.written
  show (snapshotFromExecution view₂.execution).workflowStatus = _
  rw [hrow, (applyChainObservation_ok h.first).1]

/-- **The assertion status** stays where no Cell is checked. -/
theorem assertion_kept (hc : (conflictVerdict env₂ view₂ b₂).conflicts env₂ view₂ = false)
    (hunchecked : checksCells view₂ b₂ = false) :
    (plannedDraft env₂ view₂ b₂ txHash applied₂).assertionStatus =
      view₂.execution.assertionStatus := by
  rw [plannedDraft_assertionStatus, reevaluates_eq_checksCells h.second hc, hunchecked,
    if_neg (by decide)]
  have hworkflow : (conflictDraft env₂ view₂ b₂ txHash
      (observedDraft view₂ b₂ applied₂)).snapshot.workflowStatus = view₂.execution.workflowStatus := by
    rw [conflictDraft_snapshot env₂ view₂ b₂ txHash applied₂ hc]
    exact h.workflow_again
  by_cases hr : applied₂.reorgDetected = true
  · -- both steps saw the reorg, and neither has checked anything since
    have hr₁ := h.reorg_again hr
    have hunchecked₁ : checksCells view₁ b₁ = false := by
      rw [checksCells_of_reorg h.first hr₁, ← h.workflow_first, ← h.workflow_again]
      rw [checksCells_of_reorg h.second hr, h.follows.expectedCells] at hunchecked
      exact hunchecked
    have hcleared : view₂.execution.assertionStatus = none := by
      rw [h.follows.execution]
      show (plannedDraft env₁ view₁ b₁ txHash applied₁).assertionStatus = none
      rw [plannedDraft_assertionStatus, reevaluates_eq_checksCells h.first h.unmarked_verdict,
        hunchecked₁, hr₁]
      rfl
    simp [hr, hcleared]
  · simp [hr, hworkflow, h.not_reorged]

/-- The conflict fields the first step has written are those of its verdict. -/
theorem conflict_first :
    view₂.execution.conflictType = (conflictVerdict env₁ view₁ b₁).leaves env₁ view₁
        view₁.execution.conflictType view₁.execution.conflictDetails ∧
      view₂.execution.conflictDetails = (conflictDraft env₁ view₁ b₁ txHash
        (observedDraft view₁ b₁ applied₁)).conflictDetails.map Json.jsonb := by
  have hunmarked := h.unmarked
  unfold stepConflicts at hunmarked
  rw [Bool.or_eq_false_iff] at hunmarked
  rw [h.follows.execution]
  constructor
  · show (plannedDraft env₁ view₁ b₁ txHash applied₁).conflictType = _
    rw [plannedDraft_conflictType, hunmarked.2, if_neg (by decide)]
  · show (plannedDraft env₁ view₁ b₁ txHash applied₁).conflictDetails.map Json.jsonb = _
    rw [plannedDraft, assertionDraft_details hunmarked.2]

/-- **The conflict fields again**: the type stays, and the details print as before exactly for a
quiet inspection. -/
theorem conflict_again (hc : (conflictVerdict env₂ view₂ b₂).conflicts env₂ view₂ = false) :
    (conflictVerdict env₂ view₂ b₂).leaves env₂ view₂ view₂.execution.conflictType
        view₂.execution.conflictDetails = view₂.execution.conflictType ∧
      (ApplyInput.detailsText view₂.execution.conflictDetails =
          ApplyInput.detailsText (conflictDraft env₂ view₂ b₂ txHash
            (observedDraft view₂ b₂ applied₂)).conflictDetails ↔
        quietInspection (detailsOf view₂.execution.conflictDetails) b₂.inputInspection) := by
  obtain ⟨htype, hdetails⟩ := h.conflict_first
  have hc₁ := h.unmarked_verdict
  cases hi : b₂.inputInspection with
  | none =>
      have hi₁ := h.same.inspection_none hi
      by_cases hf : b₂.observation.status.found = true
      · have hf₁ : b₁.observation.status.found = true := h.same.status ▸ hf
        have hv₁ := conflictVerdict_found h.mismatch_first hf₁
        have hv₂ := conflictVerdict_found h.mismatch_again hf
        rw [hv₁] at htype
        have hnone : view₂.execution.conflictDetails = none := by
          rw [hdetails, conflictDraft, hv₁]
          simp only [foundDraft_details]
          rfl
        rw [hv₂, hnone, conflictDraft, hv₂]
        simp only [foundDraft_details]
        exact ⟨htype.symm, by simp [quietInspection]⟩
      · rw [Bool.not_eq_true] at hf
        rw [conflictVerdict_silent h.mismatch_again hf hi, conflictDraft,
          conflictVerdict_silent h.mismatch_again hf hi]
        exact ⟨rfl, iff_of_true rfl trivial⟩
  | some i₂ =>
      obtain ⟨i₁, hi₁, hstate⟩ := h.same.inspection_some hi
      have hv₁ := conflictVerdict_inspected h.mismatch_first hi₁
      have hv₂ := conflictVerdict_inspected h.mismatch_again hi
      unfold inspectedVerdict at hv₁ hv₂
      rw [hstate] at hv₁
      rw [hv₁] at htype hc₁
      rw [conflictDraft, hv₁] at hdetails
      rw [conflictDraft, hv₂]
      rw [hv₂] at hc
      cases hs : i₂.state with
      | allLive =>
          simp only [hs] at htype hdetails ⊢
          rw [hdetails]
          exact ⟨htype.symm, iff_of_true rfl (by simp [quietInspection, hs])⟩
      | mempoolContended =>
          simp only [hs] at htype hdetails ⊢
          refine ⟨htype.symm, iff_of_false ?_ (by simp [quietInspection, hs])⟩
          intro htext
          rw [hdetails] at htext
          exact contention_ne_stored _ _ _ (Js.Json.stringify_injective htext)
      | canonicallySpent =>
          simp only [hs] at htype hdetails hc hc₁ ⊢
          obtain ⟨corroboration, hrebuilt⟩ := spentDraft_details hc (observedDraft view₂ b₂ applied₂)
          obtain ⟨corroboration₁, hrebuilt₁⟩ :=
            spentDraft_details hc₁ (observedDraft view₁ b₁ applied₁)
          have hc' : spendTerminal env₂ view₂ i₂ = false := hc
          have hc₁' : spendTerminal env₁ view₁ i₁ = false := hc₁
          refine ⟨?_, iff_of_false ?_ (by simp [quietInspection, hs])⟩
          · rw [htype]
            simp [ConflictVerdict.leaves, hc', hc₁']
          · intro htext
            rw [hrebuilt, hdetails, hrebuilt₁] at htext
            exact spentSuspected_ne_stored _ _ _ (Js.Json.stringify_injective htext)
      | unknown =>
          simp only [hs] at htype hdetails ⊢
          rw [uncertainDraft_details] at hdetails ⊢
          have hkept : (observedDraft view₂ b₂ applied₂).conflictDetails =
              view₂.execution.conflictDetails := rfl
          constructor
          · rw [ConflictVerdict.leaves]
            by_cases hclass : (detailsOf view₂.execution.conflictDetails).string?
                "classification" = some "INPUT_SPENT_OBSERVED"
            · rw [if_pos hclass, htype, ConflictVerdict.leaves, if_pos]
              rw [hdetails, marked_classification] at hclass
              exact hclass
            · rw [if_neg hclass]
          · rw [show quietInspection (detailsOf view₂.execution.conflictDetails) (some i₂) ↔
                ¬ breaksAgain (detailsOf view₂.execution.conflictDetails) i₂.observedAt by
              simp [quietInspection, hs]]
            rw [hkept, hdetails]
            exact marked_again view₁.execution.conflictDetails i₁.observedAt i₂.observedAt _

/-- A step that marks the row records it. -/
theorem marks_loudly (hmarks : stepConflicts env₂ view₂ b₂ txHash applied₂ = true) :
    (plannedInput env₂ view₂ b₂ applied₂ (plannedDraft env₂ view₂ b₂ txHash applied₂)).appliedEvents ≠
      [] := by
  intro hnil
  obtain ⟨hmeaningful, -⟩ := ApplyInput.appliedEvents_eq_nil.mp hnil
  obtain ⟨-, -, hworkflow, -⟩ := ApplyInput.meaningful_eq_false.mp hmeaningful
  obtain ⟨-, -, hopen, -⟩ := applyChainObservation_ok h.second
  apply hopen
  show view₂.execution.workflowStatus = .conflicted
  have hwritten : view₂.execution.workflowStatus =
      (plannedDraft env₂ view₂ b₂ txHash applied₂).snapshot.workflowStatus := hworkflow
  rw [hwritten, plannedDraft_snapshot, hmarks]
  rfl

/-- **Without a mark and a changed assertion**, the details decide. -/
theorem details_decide (hmarks : stepConflicts env₂ view₂ b₂ txHash applied₂ = false)
    (hassertion : (plannedDraft env₂ view₂ b₂ txHash applied₂).assertionStatus =
      view₂.execution.assertionStatus) :
    (plannedInput env₂ view₂ b₂ applied₂ (plannedDraft env₂ view₂ b₂ txHash applied₂)).appliedEvents =
        [] ↔
      quietInspection (detailsOf view₂.execution.conflictDetails) b₂.inputInspection := by
  have hparts := hmarks
  unfold stepConflicts at hparts
  rw [Bool.or_eq_false_iff] at hparts
  obtain ⟨hc, hfails⟩ := hparts
  obtain ⟨submission, -, -, hread, hpolicy, hrow⟩ := h.written
  obtain ⟨htype, hdetails⟩ := h.conflict_again hc
  have hsnapshot : (plannedDraft env₂ view₂ b₂ txHash applied₂).snapshot =
      { (plannedDraft env₁ view₁ b₁ txHash applied₁).snapshot with
        confirmationCount := countAfter (snapshotFromExecution view₂.execution) b₂.observation } := by
    rw [plannedDraft_snapshot, hmarks, if_neg (by decide), h.submission_again, h.snapshot_again,
      ← hrow]
    rfl
  have hdepth := h.depth_again
  have htype' : (plannedDraft env₂ view₂ b₂ txHash applied₂).conflictType =
      view₂.execution.conflictType := by
    rw [plannedDraft_conflictType, hfails, if_neg (by decide)]
    exact htype
  have hdetails' : (plannedDraft env₂ view₂ b₂ txHash applied₂).conflictDetails =
      (conflictDraft env₂ view₂ b₂ txHash (observedDraft view₂ b₂ applied₂)).conflictDetails := by
    rw [plannedDraft, assertionDraft_details hfails]
  rw [← hdetails, ← hdetails']
  refine appliedEvents_again h.follows hread hpolicy rfl hsnapshot ?_ hassertion htype'
  show isConfirmationSatisfied (plannedDraft env₁ view₁ b₁ txHash applied₁).snapshot.confirmationPolicy
      (plannedDraft env₁ view₁ b₁ txHash applied₁).snapshot.chainStatus _ =
    isConfirmationSatisfied (plannedDraft env₁ view₁ b₁ txHash applied₁).snapshot.confirmationPolicy
      (plannedDraft env₁ view₁ b₁ txHash applied₁).snapshot.chainStatus
      (plannedDraft env₁ view₁ b₁ txHash applied₁).snapshot.confirmationCount
  rw [← hrow]
  exact hdepth

/-- **A second answer** records no event exactly where it is quiet. -/
theorem silent_iff :
    (plannedInput env₂ view₂ b₂ applied₂ (plannedDraft env₂ view₂ b₂ txHash applied₂)).appliedEvents =
        [] ↔ Quiet env₂ view₂ (.ok b₂) := by
  by_cases hc : (conflictVerdict env₂ view₂ b₂).conflicts env₂ view₂ = true
  · -- a terminal spend
    refine iff_of_false (h.marks_loudly (by rw [stepConflicts, hc, Bool.true_or])) ?_
    rintro ⟨hinspection, -⟩
    cases hi : b₂.inputInspection with
    | none =>
        by_cases hf : b₂.observation.status.found = true
        · rw [conflictVerdict_found h.mismatch_again hf] at hc
          cases hc
        · rw [Bool.not_eq_true] at hf
          rw [conflictVerdict_silent h.mismatch_again hf hi] at hc
          cases hc
    | some i₂ =>
        rw [hi] at hinspection
        rw [conflictVerdict_inspected h.mismatch_again hi, inspectedVerdict] at hc
        cases hs : i₂.state with
        | canonicallySpent => simp [quietInspection, hs] at hinspection
        | mempoolContended => simp [quietInspection, hs] at hinspection
        | allLive => simp [hs, ConflictVerdict.conflicts] at hc
        | unknown => simp [hs, ConflictVerdict.conflicts] at hc
  · rw [Bool.not_eq_true] at hc
    have hchecks : reevaluates view₂ applied₂.reorgDetected
        (conflictDraft env₂ view₂ b₂ txHash (observedDraft view₂ b₂ applied₂)) =
          checksCells view₂ b₂ := reevaluates_eq_checksCells h.second hc
    by_cases hcells : quietCells env₂ view₂ b₂
    · have hassertion : (plannedDraft env₂ view₂ b₂ txHash applied₂).assertionStatus =
          view₂.execution.assertionStatus := by
        cases hchecked : checksCells view₂ b₂ with
        | false => exact h.assertion_kept hc hchecked
        | true =>
            rw [plannedDraft_assertionStatus, hchecks, if_pos hchecked]
            exact (hcells hchecked).2.symm
      have hmarks : stepConflicts env₂ view₂ b₂ txHash applied₂ = false := by
        rw [stepConflicts, hc, Bool.false_or, assertionsFail, hchecks]
        cases hchecked : checksCells view₂ b₂ with
        | false => rfl
        | true => simp [(hcells hchecked).1]
      rw [h.details_decide hmarks hassertion]
      exact ⟨fun hinspection => ⟨hinspection, hcells⟩, fun hquiet => hquiet.1⟩
    · refine iff_of_false ?_ fun hquiet => hcells hquiet.2
      unfold quietCells at hcells
      rw [Classical.not_imp, not_and_or, not_not] at hcells
      obtain ⟨hchecked, hfailed | hrecorded⟩ := hcells
      · apply h.marks_loudly
        rw [stepConflicts, hc, Bool.false_or, assertionsFail, hchecks, hchecked, hfailed]
        rfl
      · intro hnil
        obtain ⟨hmeaningful, -⟩ := ApplyInput.appliedEvents_eq_nil.mp hnil
        obtain ⟨-, -, -, -, -, -, hassertion, -⟩ := ApplyInput.meaningful_eq_false.mp hmeaningful
        apply hrecorded
        have hkept : view₂.execution.assertionStatus =
            (plannedDraft env₂ view₂ b₂ txHash applied₂).assertionStatus := hassertion
        rw [hkept, plannedDraft_assertionStatus, hchecks, if_pos hchecked]

end ObservedTwice

/-! ## Two reconciliations -/

/-- Id and fingerprint of an attempt. -/
def TransactionAttemptRecord.signed (attempt : TransactionAttemptRecord) : String × Option String :=
  (attempt.id, attempt.signedPayloadHashSha256)

theorem statusFree_signed : StatusFree TransactionAttemptRecord.signed :=
  fun _ _ _ _ _ _ _ _ _ _ => rfl

theorem findAttempt_signed {attempts attempts' : List TransactionAttemptRecord}
    (h : attempts.map TransactionAttemptRecord.signed =
      attempts'.map TransactionAttemptRecord.signed) (id : Option String) :
    (findAttempt attempts id).bind (·.signedPayloadHashSha256) =
      (findAttempt attempts' id).bind (·.signedPayloadHashSha256) := by
  have hread : ∀ l : List TransactionAttemptRecord,
      (findAttempt l id).bind (·.signedPayloadHashSha256) =
        id.bind fun id => ((l.map TransactionAttemptRecord.signed).find? fun p => p.1 = id).bind
          (·.2) := by
    intro l
    cases id with
    | none => rfl
    | some id =>
        simp only [findAttempt, Option.bind_some, List.find?_map]
        cases hf : l.find? ((fun p : String × Option String => decide (p.1 = id)) ∘
            TransactionAttemptRecord.signed) with
        | none =>
            have hf' : l.find? (fun attempt => decide (attempt.id = id)) = none := hf
            rw [hf']
            rfl
        | some attempt =>
            have hf' : l.find? (fun attempt => decide (attempt.id = id)) = some attempt := hf
            rw [hf']
            rfl
  rw [hread, hread, h]

/-- A scan that promotes nothing writes statuses of candidates only. -/
theorem scan_unpromoted {env : ReconcileEnv} {view : IntentAggregate} {db t : Store}
    {candidates : List TransactionAttemptRecord}
    (h : scanCandidates env view candidates db = (t, .ok none)) :
    t.events = db.events ∧ t.attempts.map TransactionAttemptRecord.signed =
      db.attempts.map TransactionAttemptRecord.signed := by
  induction candidates generalizing db with
  | nil =>
      cases h
      exact ⟨rfl, rfl⟩
  | cons candidate rest ih =>
      simp only [scanCandidates] at h
      split at h
      · exact ih h
      next input hj =>
        obtain ⟨hevents, hsigned⟩ := ih h
        refine ⟨hevents, hsigned.trans ?_⟩
        exact updateAttempt_kept (fun a => statusFree_signed a _ _ _ _ _ _ _ _ _) _ _
      · split at h <;> cases h

/-- **An accepted reconciliation** of a prepared intent ends in the projection step of its view. -/
theorem serviceReconcile_projects {env : ReconcileEnv} {db db' : Store} {result : ReconcileResult}
    {txHash : String} (htx : db'.execution.txHash = some txHash)
    (h : serviceReconcile env db = (db', .ok result)) :
    ∃ mid, Current (projected env db) mid ∧
      (projected env db).activeAttempt.bind (·.signedPayloadHashSha256) =
        (findAttempt mid.attempts mid.intent.activeAttemptId).bind (·.signedPayloadHashSha256) ∧
      reconcileProjection env (projected env db) txHash mid = .ok (db', result) := by
  have hsettle : ∀ {mid : Store} {hash : String} {view : IntentAggregate},
      view.execution.txHash = some hash → Current view mid →
      settle mid (reconcileProjection env view hash mid) = (db', .ok result) →
      reconcileProjection env view txHash mid = .ok (db', result) := by
    intro mid hash view hhash hcur hs
    cases hp : reconcileProjection env view hash mid with
    | error e =>
        rw [hp] at hs
        cases hs
    | ok r =>
        rw [hp] at hs
        cases hs
        obtain ⟨input, -, hwritten⟩ := reconcileProjection_writes hp
        have hsame : mid.execution.txHash = some txHash := by
          rw [hwritten] at htx
          exact htx
        rw [← hcur.execution, hhash, Option.some.injEq] at hsame
        rw [← hsame]
        exact hp
  have hpath := serviceReconcile_path env db
  rw [h] at hpath
  generalize houtcome : (db', Except.ok result) = outcome at hpath
  cases hpath with
  | unprepared hnone =>
      cases houtcome
      rw [hnone] at htx
      cases htx
  | unconfigured hurls => cases houtcome
  | failed hscan => cases houtcome
  | @kept mid hash hhash hscan =>
      have hview : projected env db = db.aggregate := by
        unfold projected
        rw [hscan]
      have hrows := scan_none hscan
      rw [guardedRows, guardedRows, Prod.mk.injEq] at hrows
      have hcur : Current db.aggregate mid := ⟨hrows.1.symm, hrows.2.symm⟩
      rw [hview]
      refine ⟨mid, hcur, ?_, hsettle hhash hcur houtcome.symm⟩
      rw [← hcur.intent]
      exact findAttempt_signed (scan_unpromoted hscan).2.symm _
  | @cleared mid promoted hscan hnone =>
      cases houtcome
      obtain rfl := scanCandidates_promoted hscan
      rw [show db'.execution.txHash = none from hnone] at htx
      cases htx
  | @promoted mid promoted hash hscan hpromoted =>
      have hview : projected env db = promoted := by
        unfold projected
        rw [hscan]
      rw [hview]
      obtain rfl := scanCandidates_promoted hscan
      exact ⟨mid, mid.current, rfl, hsettle hpromoted mid.current houtcome.symm⟩

/-! ### Repetition -/

/-- No threshold lies between two answers: neither the confirmation policy nor the grace of a
contention nor the maturity of a spend judges them differently. -/
structure NoThresholdCrossed (env₁ env₂ : ReconcileEnv) (before after : ExecutionRecord)
    (b₁ b₂ : RpcObservationBundle) : Prop where
  policy : isConfirmationSatisfied after.confirmationPolicy .committed
      (computeConfirmationCount b₁.observation.blockNumber b₁.observation.tipBlockNumber) =
    isConfirmationSatisfied after.confirmationPolicy .committed
      (computeConfirmationCount b₂.observation.blockNumber b₂.observation.tipBlockNumber)
  grace : ∀ i₁ i₂, b₁.inputInspection = some i₁ → b₂.inputInspection = some i₂ →
    (contentionDetails env₁.settings (detailsOf before.conflictDetails) i₁).2 =
      (contentionDetails env₂.settings (detailsOf after.conflictDetails) i₂).2
  maturity : ∀ i₁ i₂, b₁.inputInspection = some i₁ → b₂.inputInspection = some i₂ →
    conflictObservationMatured before.confirmationPolicy (detailsOf before.conflictDetails)
        i₁.evidence =
      conflictObservationMatured after.confirmationPolicy (detailsOf after.conflictDetails)
        i₂.evidence

/-- Both steps failed to get an answer, or got the same evidence. -/
inductive SameAnswers (env₁ env₂ : ReconcileEnv) (before after : ExecutionRecord) :
    Except String RpcObservationBundle → Except String RpcObservationBundle → Prop where
  | outages (message₁ message₂ : String) :
      SameAnswers env₁ env₂ before after (.error message₁) (.error message₂)
  | observed {b₁ b₂ : RpcObservationBundle} (same : SameEvidence b₁ b₂)
      (asked₁ : answersFor before b₁) (asked₂ : answersFor after b₂)
      (thresholds : NoThresholdCrossed env₁ env₂ before after b₁ b₂) :
      SameAnswers env₁ env₂ before after (.ok b₁) (.ok b₂)

/-- Two consecutive reconciliations of one transaction, with the same evidence. -/
structure Repeats (env₁ env₂ : ReconcileEnv) (db₀ db₁ : Store) (txHash : String) : Prop where
  first : ∃ result, serviceReconcile env₁ db₀ = (db₁, .ok result)
  hash : db₁.execution.txHash = some txHash
  /-- The second observes that transaction too: it promotes no other candidate. -/
  unpromoted : (scanCandidates env₂ db₁.aggregate (rivals db₁.aggregate) db₁).2 = .ok none
  fingerprint : env₁.fingerprint = env₂.fingerprint
  answers : SameAnswers env₁ env₂ (projected env₁ db₀).execution db₁.execution
    (env₁.observe txHash) (env₂.observe txHash)

section Repeated

variable {env₁ env₂ : ReconcileEnv} {db₀ db₁ : Store} {txHash : String}

/-- The second reconciliation is its projection step. -/
theorem Repeats.second (h : Repeats env₁ env₂ db₀ db₁ txHash) :
    ∃ mid, Current db₁.aggregate mid ∧ mid.events = db₁.events ∧
      ((∃ failure, serviceReconcile env₂ db₁ = (mid, .error failure)) ∨
        ∃ db₂ result, serviceReconcile env₂ db₁ = (db₂, .ok result) ∧
          reconcileProjection env₂ db₁.aggregate txHash mid = .ok (db₂, result)) := by
  have hhash : db₁.aggregate.execution.txHash = some txHash := h.hash
  cases hs : scanCandidates env₂ db₁.aggregate (rivals db₁.aggregate) db₁ with
  | mk mid outcome =>
      have hnone : outcome = .ok none := by
        rw [← h.unpromoted, hs]
      subst hnone
      have hrows := scan_none hs
      rw [guardedRows, guardedRows, Prod.mk.injEq] at hrows
      unfold serviceReconcile reconcileIntentOnce
      simp only [hhash, hs]
      by_cases hurls : env₂.urls = []
      · refine ⟨db₁, db₁.current, rfl, Or.inl ⟨.error "No CKB RPC endpoint configured", ?_⟩⟩
        simp [hurls]
      · refine ⟨mid, ⟨hrows.1.symm, hrows.2.symm⟩, (scan_unpromoted hs).1, ?_⟩
        simp only [if_neg hurls]
        cases hp : reconcileProjection env₂ db₁.aggregate txHash mid with
        | error failure => exact Or.inl ⟨failure, rfl⟩
        | ok written =>
            obtain ⟨db₂, result⟩ := written
            exact Or.inr ⟨db₂, result, rfl, rfl⟩

/-- The view of the second step has the row the first has written. -/
theorem successor_of {input : ApplyInput} {mid : Store} (hcur : Current input.aggregate mid)
    (hsigned : input.aggregate.activeAttempt.bind (·.signedPayloadHashSha256) =
      (findAttempt mid.attempts mid.intent.activeAttemptId).bind (·.signedPayloadHashSha256))
    (hwritten : db₁ = input.appliedStore mid) : Successor input db₁.aggregate := by
  subst hwritten
  refine ⟨?_, ?_, ?_⟩
  · show input.appliedExecution mid.execution = input.appliedExecution input.prior
    rw [← hcur.execution]
    rfl
  · show mid.intent.expectedCells = input.aggregate.intent.expectedCells
    rw [hcur.intent]
  · rw [hsigned]
    refine findAttempt_signed ?_ mid.intent.activeAttemptId
    exact appliedAttempts_kept (fun a => statusFree_signed a _ _ _ _ _ _ _ _ _) input
      (fun a => statusFree_signed a _ _ _ _ _ _ _ _ _) mid.attempts

/-- **Repeated evidence is silent** exactly where the second answer is quiet; a second
reconciliation that fails is silent too. -/
theorem repeated_evidence_silent_iff (h : Repeats env₁ env₂ db₀ db₁ txHash) :
    (∀ failure, (serviceReconcile env₂ db₁).2 = .error failure →
        (serviceReconcile env₂ db₁).1.events = db₁.events) ∧
      ∀ result, (serviceReconcile env₂ db₁).2 = .ok result →
        ((serviceReconcile env₂ db₁).1.events = db₁.events ↔
          Quiet env₂ db₁.aggregate (env₂.observe txHash)) := by
  obtain ⟨mid₂, hcur₂, hevents, ⟨failure, hfailed⟩ | ⟨db₂, result₂, hok, hp₂⟩⟩ := h.second
  · rw [hfailed]
    refine ⟨fun _ _ => hevents, fun result hresult => ?_⟩
    cases hresult
  rw [hok]
  refine ⟨?_, fun result _ => ?_⟩
  · intro failure hfailure
    cases hfailure
  show db₂.events = db₁.events ↔ _
  obtain ⟨result₁, hfirst⟩ := h.first
  obtain ⟨mid₁, hcur₁, hsigned, hp₁⟩ := serviceReconcile_projects h.hash hfirst
  have hwrites : ∀ input : ApplyInput, db₂ = input.appliedStore mid₂ →
      (db₂.events = db₁.events ↔ input.appliedEvents = []) := by
    rintro input rfl
    rw [← hevents]
    exact List.append_right_eq_self
  obtain ⟨-, -, hcases₁⟩ := reconcileProjection_ok hp₁
  obtain ⟨-, -, hcases₂⟩ := reconcileProjection_ok hp₂
  have hanswers := h.answers
  rcases hcases₁ with ⟨message₁, applied₁, ho₁, happ₁, hw₁, -⟩ |
    ⟨b₁, applied₁, ho₁, happ₁, hw₁, -⟩
  · have hfollows := successor_of hcur₁ hsigned hw₁
    rcases hcases₂ with ⟨message₂, applied₂, ho₂, happ₂, hw₂, -⟩ | ⟨b₂, -, ho₂, -⟩
    · rw [hwrites _ hw₂, ho₂]
      exact outage_again happ₁ happ₂ hfollows
    · rw [ho₁, ho₂] at hanswers
      cases hanswers
  · have hfollows := successor_of hcur₁ hsigned hw₁
    rcases hcases₂ with ⟨message₂, -, ho₂, -⟩ | ⟨b₂, applied₂, ho₂, happ₂, hw₂, -⟩
    · rw [ho₁, ho₂] at hanswers
      cases hanswers
    · rw [ho₁, ho₂] at hanswers
      cases hanswers with
      | observed same asked₁ asked₂ thresholds =>
          have htwice : ObservedTwice env₁ env₂ (projected env₁ db₀) db₁.aggregate b₁ b₂ txHash
              applied₁ applied₂ :=
            ⟨happ₁, happ₂, hfollows, same, h.fingerprint, asked₁, asked₂, thresholds.policy⟩
          rw [hwrites _ hw₂, ho₂]
          exact htwice.silent_iff

end Repeated

/-! ## A contended input, polled twice -/

section Contended

open Scenario
open Runs (Run)

/-- A tracked transaction that was not observed yet. -/
def unpolled : Store := after (.depth 4) [attach 'a' false none [outPoint '1']]

/-- The transaction is absent while one of its inputs waits in the pool. -/
def contendedAt (now : Int) (tip : String) : RpcObservationBundle where
  observation :=
    { status := .unknown, observedAt := now, raw := .null, blockHash := none, blockNumber := none
      tipBlockNumber := none, rejectionReason := none, priorCommitCanonical := none }
  transaction := none
  endpoint := "http://node"
  inputInspection := some { inspection .mempoolContended tip with observedAt := now }
  committed_named := by simp
  inspected_unknown := fun _ => rfl

/-- A poll at a time and a tip, well inside the grace window. -/
def pollAt (now : Int) (tip : String) : ReconcileEnv :=
  { node (.ok (contendedAt now tip)) with nowMs := now }

/-- The store after the first poll. -/
def polled : Store := (serviceReconcile (pollAt 0 "0x8") unpolled).1

theorem polled_run :
    commitsAll (serviceCreateIntent (create (.depth 4))) [attach 'a' false none [outPoint '1']] = true ∧
    (serviceReconcile (pollAt 0 "0x8") unpolled).2.isOk = true ∧
    polled.execution.txHash = some (hashOf 'a') ∧ (rivals polled.aggregate).isEmpty = true := by
  decide +kernel

theorem polled_thresholds : NoThresholdCrossed (pollAt 0 "0x8") (pollAt 12000 "0x9")
    (projected (pollAt 0 "0x8") unpolled).execution polled.execution
    (contendedAt 0 "0x8") (contendedAt 12000 "0x9") := by
  refine ⟨rfl, ?_, ?_⟩
  · intro i₁ i₂ h₁ h₂
    obtain rfl := Option.some.inj h₁
    obtain rfl := Option.some.inj h₂
    decide +kernel
  · intro i₁ i₂ h₁ h₂
    obtain rfl := Option.some.inj h₁
    obtain rfl := Option.some.inj h₂
    decide +kernel

theorem polled_repeats :
    Repeats (pollAt 0 "0x8") (pollAt 12000 "0x9") unpolled polled (hashOf 'a') := by
  obtain ⟨-, hok, hhash, hrivals⟩ := polled_run
  refine ⟨?_, hhash, ?_, rfl, ?_⟩
  · cases hresult : (serviceReconcile (pollAt 0 "0x8") unpolled).2 with
    | error e =>
        rw [hresult] at hok
        cases hok
    | ok result => exact ⟨result, Prod.ext rfl hresult⟩
  · rw [List.isEmpty_iff.mp hrivals]
    rfl
  · exact .observed ⟨rfl, rfl, rfl, rfl⟩ (fun h => by cases h) (fun h => by cases h)
      polled_thresholds

theorem repeated_evidence_silent_iff_polled :
    (∀ failure, (serviceReconcile (pollAt 12000 "0x9") polled).2 = .error failure →
        (serviceReconcile (pollAt 12000 "0x9") polled).1.events = polled.events) ∧
      ∀ result, (serviceReconcile (pollAt 12000 "0x9") polled).2 = .ok result →
        ((serviceReconcile (pollAt 12000 "0x9") polled).1.events = polled.events ↔
          Quiet (pollAt 12000 "0x9") polled.aggregate (.ok (contendedAt 12000 "0x9"))) :=
  repeated_evidence_silent_iff polled_repeats

/-- **Polling a contended input** inserts an event at every poll. -/
theorem contention_polled_loudly :
    ¬ ∀ (req : CreateRequest) (acts : List Act) (db₀ : Store) (past : List Store)
      (env₁ env₂ : ReconcileEnv) (db₁ : Store) (txHash : String),
      Run Step (opening req) acts ⟨db₀, past⟩ → Repeats env₁ env₂ db₀ db₁ txHash →
      (serviceReconcile env₂ db₁).1.events = db₁.events := by
  intro h
  obtain ⟨acts, past, hrun⟩ := run_after polled_run.1
  have hsilent := h _ _ _ _ _ _ _ _ hrun polled_repeats
  have hlonger : (serviceReconcile (pollAt 12000 "0x9") polled).1.events.length ≠
      polled.events.length := by decide +kernel
  exact hlonger (congrArg List.length hsilent)

end Contended

end CellFlow
