/-
# CellFlow.Properties.Storable — which computed transitions the executions table accepts.

The row a reconciliation computes should satisfy the column types and CHECK constraints of the table.
Three kinds of answers compute a row that does not: a signed payload that differs, whose conflict type
migration 005 does not list; a commit so deep that its confirmation count leaves the 32-bit column; and
an answer, a failure or an assertion result with the character U+0000, which neither `text` nor `jsonb`
stores.  `projection_storable_iff` and `promotion_storable_iff` say that, up to the counters of the row
itself, these are all.
-/
import CellFlow.Properties.Scheduling
import CellFlow.Reconcile.Documents

namespace CellFlow

open Js (Json textStorable textStorable?)
open Optimistic (World)
open Runs (Run)

/-! ## Rolled-back writes -/

/-- The write was rolled back by a constraint of the table. -/
def RolledBack {α : Type} (outcome : Except Failure α) : Prop :=
  ∃ name, outcome = .error (.constraint name)

/-- Neither the projection write of a reconciliation nor the promotion of a candidate is rolled
back. -/
def Storable (env : ReconcileEnv) (view : IntentAggregate) (db : Store) : Prop :=
  (∀ txHash, view.execution.txHash = some txHash →
    ¬ RolledBack (reconcileProjection env view txHash db)) ∧
  ∀ candidate ∈ rivals view, ∀ input, judgeCandidate env view candidate = .promote input →
    ¬ RolledBack (promoteAttemptProjection input db)

/-! ## The condition -/

/-- The depth of a committed answer fits the column. -/
def depthFits (observation : ChainObservation) : Prop :=
  observation.status = .committed →
    computeConfirmationCount observation.blockNumber observation.tipBlockNumber ≤ int4Max

/-- The texts an answer brings have no U+0000: its raw record, the block and the reason it names, and
the evidence beside it. -/
def answerStorable (env : ReconcileEnv) (view : IntentAggregate) (bundle : RpcObservationBundle) :
    Prop :=
  bundle.observation.raw.storable = true ∧
    observationStorable (snapshotFromExecution view.execution) bundle.observation ∧
    evidenceStorable env view bundle

/-- An answer about the projected transaction that asks for a storable row. -/
def answerFits (env : ReconcileEnv) (view : IntentAggregate) (bundle : RpcObservationBundle) : Prop :=
  signedPayloadMismatch env view bundle = none ∧ depthFits bundle.observation ∧
    answerStorable env view bundle

/-- Where the projection step writes at all, its counters have room, and its answer or the message of
its failure fits. -/
def projectionFits (env : ReconcileEnv) (view : IntentAggregate) (db : Store) : Prop :=
  ∀ txHash, view.execution.txHash = some txHash →
    db.execution.version = view.execution.version →
    view.execution.workflowStatus ≠ .conflicted → view.execution.workflowStatus ≠ .expired →
    db.execution.version < int4Max ∧ db.execution.reconcileAttempts < int4Max ∧
      (∀ message, env.observe txHash = .error message → textStorable message = true) ∧
      ∀ bundle, env.observe txHash = .ok bundle → answerFits env view bundle

/-- The texts and documents of a candidate row. -/
def candidateStorable (candidate : TransactionAttemptRecord) : Prop :=
  textStorable candidate.txHash = true ∧ textStorable? candidate.submissionErrorCode = true ∧
    (candidate.inputOutPoints.map OutPointRef.toJson).all Json.storable = true ∧
    (candidate.inputRefs.map InputRef.toJson).all Json.storable = true ∧
    Json.storable? candidate.submissionErrorDetails = true ∧
    Json.storable? candidate.conflictDetails = true

/-- A candidate row whose promotion is storable. -/
def candidateFits (candidate : TransactionAttemptRecord) : Prop :=
  conflictTypeAllowed candidate.conflictType = true ∧
    nodeRejectedEvidence candidate.submissionStatus candidate.submissionErrorType = true ∧
    candidateStorable candidate

/-- Where a committed candidate is promoted at all, the version has room, its depth and its texts fit,
and its row carries nothing the table refuses. -/
def promotionFits (env : ReconcileEnv) (view : IntentAggregate) (db : Store)
    (candidate : TransactionAttemptRecord) : Prop :=
  ∀ observed, env.observeCandidate candidate.txHash = .ok observed →
    observed.observation.status = .committed → candidateMismatch env candidate observed = none →
    candidate.workflowStatus ≠ .conflicted → candidate.workflowStatus ≠ .expired →
    db.execution.version = view.execution.version →
    db.execution.version < int4Max ∧ depthFits observed.observation ∧
      observed.observation.raw.storable = true ∧
      observationStorable (candidateBase view candidate) observed.observation ∧
      candidateFits candidate

/-- Every write of the reconciliation asks for a storable row. -/
def AnswersFit (env : ReconcileEnv) (view : IntentAggregate) (db : Store) : Prop :=
  projectionFits env view db ∧ ∀ candidate ∈ rivals view, promotionFits env view db candidate

/-! ## One write -/

theorem rolledBack_transact_iff {db next : Store} {version : Nat} :
    RolledBack (db.transact version next) ↔
      db.execution.version = version ∧ next.execution.violation ≠ none := by
  unfold RolledBack Store.transact
  by_cases hv : db.execution.version = version
  · cases next.execution.violation <;> simp [hv]
  · simp [hv]

variable {env : ReconcileEnv} {view : IntentAggregate} {bundle : RpcObservationBundle} {db : Store}

/-- The confirmation count an observation leaves in a storable row fits, exactly if its depth does. -/
theorem observed_count_iff {s : ExecutionSnapshot} {o : ChainObservation}
    (hs : s.confirmationCount ≤ int4Max) :
    (observedSnapshot s o).confirmationCount ≤ int4Max ↔ depthFits o := by
  unfold observedSnapshot depthFits
  split
  next hp =>
    simp only [preservesCommit, Bool.and_eq_true, decide_eq_true_eq] at hp
    exact iff_of_true hs fun hc => absurd hc hp.1.2
  · rw [advancedSnapshot_count]
    by_cases hc : o.status = .committed
    · simp [hc]
    · simp [hc]

/-- Without a payload mismatch every verdict leaves an allowed type. -/
theorem leaves_allowed {recorded : Option ConflictType} {details : Option Js.Json}
    (hm : signedPayloadMismatch env view bundle = none)
    (hrecorded : conflictTypeAllowed recorded = true) :
    conflictTypeAllowed ((conflictVerdict env view bundle).leaves env view recorded details) =
      true := by
  by_cases hf : bundle.observation.status.found = true
  · rw [conflictVerdict_found hm hf]
    rfl
  · cases hi : bundle.inputInspection with
    | none =>
        rw [conflictVerdict_silent hm (by simpa using hf) hi]
        exact hrecorded
    | some inspection =>
        rw [conflictVerdict_inspected hm hi, inspectedVerdict]
        cases inspection.state with
        | mempoolContended => rfl
        | allLive => rfl
        | canonicallySpent =>
            simp only [ConflictVerdict.leaves]
            split <;> rfl
        | unknown =>
            simp only [ConflictVerdict.leaves]
            split
            · rfl
            · exact hrecorded

/-- The planned conflict type is one the table allows exactly where no payload differs. -/
theorem planned_type_iff (env : ReconcileEnv) (bundle : RpcObservationBundle) (txHash : String)
    (applied : ApplyObservationResult)
    (hrecorded : conflictTypeAllowed view.execution.conflictType = true) :
    conflictTypeAllowed (plannedDraft env view bundle txHash applied).conflictType = true ↔
      signedPayloadMismatch env view bundle = none := by
  rw [plannedDraft_conflictType]
  cases hm : signedPayloadMismatch env view bundle with
  | none =>
      refine iff_of_true ?_ rfl
      split
      · rfl
      · exact leaves_allowed hm hrecorded
  | some pair =>
      have hverdict := conflictVerdict_mismatch hm
      have hfail : assertionsFail env view bundle applied.reorgDetected
          (conflictDraft env view bundle txHash (observedDraft view bundle applied)) = false :=
        assertionsFail_of_conflicts (by rw [hverdict]; rfl)
      rw [hfail, hverdict]
      simp [ConflictVerdict.leaves, conflictTypeAllowed]

/-- A projection step leaves node-rejection evidence as it was. -/
theorem planned_evidence (env : ReconcileEnv) (txHash : String) {applied : ApplyObservationResult}
    (happ : applyChainObservation (snapshotFromExecution view.execution) bundle.observation =
      .ok applied)
    (hrecorded : nodeRejectedEvidence view.execution.submissionStatus
      view.execution.submissionErrorType = true) :
    nodeRejectedEvidence (plannedDraft env view bundle txHash applied).snapshot.submissionStatus
      view.execution.submissionErrorType = true := by
  have hsub := observedDraft_submission view bundle applied
    (by rw [(applyChainObservation_ok happ).1]; simp)
  rw [plannedDraft_snapshot]
  dsimp only
  rw [hsub]
  split
  · cases view.execution.submissionErrorType <;> rfl
  · exact hrecorded

/-- The texts and documents a write of `applySnapshot` brings. -/
def ApplyInput.storable (input : ApplyInput) : Prop :=
  input.snapshot.textsStorable ∧ Json.storable? input.nextConflictDetails = true ∧
    Json.storable? (input.assertionResult.getD input.prior.assertionResult) = true ∧
    Json.storable? (match input.event.rawObservation with
      | some raw => some raw
      | none => input.prior.lastRawObservation) = true

/-- Over a stored row, the texts and documents of the next one are storable exactly if those of the
write are. -/
theorem applied_storable_iff {input : ApplyInput} {row : ExecutionRecord}
    (htexts : row.textsStorable = true) (hdocuments : row.documentsStorable = true) :
    (input.appliedExecution row).textsStorable = true ∧
        (input.appliedExecution row).documentsStorable = true ↔ input.storable := by
  obtain ⟨htx, -, -, -, hcode⟩ := ExecutionRecord.textsStorable_iff.mp htexts
  obtain ⟨hinputs, hrefs, herror, -⟩ := ExecutionRecord.documentsStorable_iff.mp hdocuments
  rw [ExecutionRecord.textsStorable_iff, ExecutionRecord.documentsStorable_iff, ApplyInput.storable,
    ExecutionSnapshot.textsStorable]
  constructor <;> intro h <;>
    simp only [ApplyInput.appliedExecution, textStorable_truthy, Json.storable?_jsonb, htx, hcode,
      hinputs, hrefs, herror, true_and, and_true] at h ⊢ <;>
    exact h

/-- The row a write of `applySnapshot` asks for is storable. -/
theorem applied_violation_iff {input : ApplyInput} (hstored : db.execution.violation = none) :
    (input.appliedStore db).execution.violation = none ↔
      db.execution.version < int4Max ∧ db.execution.reconcileAttempts < int4Max ∧
        input.snapshot.confirmationCount ≤ int4Max ∧
        conflictTypeAllowed input.nextConflictType = true ∧
        nodeRejectedEvidence input.snapshot.submissionStatus db.execution.submissionErrorType =
          true ∧ input.storable := by
  obtain ⟨-, -, -, -, -, htexts, hdocuments⟩ := ExecutionRecord.violation_eq_none.mp hstored
  rw [ExecutionRecord.violation_eq_none, ← applied_storable_iff htexts hdocuments]
  show input.snapshot.confirmationCount ≤ int4Max ∧ db.execution.reconcileAttempts + 1 ≤ int4Max ∧
    db.execution.version + 1 ≤ int4Max ∧ _ ∧ _ ∧ _ ↔ _
  constructor
  · rintro ⟨hcount, hattempts, hversion, htype, hevidence, hstorable⟩
    exact ⟨by omega, by omega, hcount, htype, hevidence, hstorable⟩
  · rintro ⟨hversion, hattempts, hcount, htype, hevidence, hstorable⟩
    exact ⟨hcount, by omega, by omega, htype, hevidence, hstorable⟩

/-- The write after an RPC failure brings its message. -/
theorem failureInput_storable {message : String} {applied : ApplyObservationResult}
    (happ : applyChainObservation (snapshotFromExecution view.execution)
      (failureObservation env message) = .ok applied)
    (htexts : view.execution.textsStorable = true)
    (hdocuments : view.execution.documentsStorable = true) :
    (failureInput env view message applied).storable ↔ textStorable message = true := by
  obtain ⟨-, -, -, hdetails, hresult, -⟩ := ExecutionRecord.documentsStorable_iff.mp hdocuments
  have hsnap : applied.snapshot.textsStorable := by
    rw [(applyChainObservation_ok happ).1,
      observedSnapshot_storable_iff (snapshotFromExecution_storable htexts)]
    exact ⟨fun hc => absurd hc (by simp), fun _ => rfl⟩
  have hkept : Json.storable? (failureInput env view message applied).nextConflictDetails =
      true := by
    simp only [ApplyInput.nextConflictDetails, failureInput, ApplyInput.prior]
    cases hb : breakSpendObservationContinuity (detailsOf view.execution.conflictDetails) env.nowMs
        "RPC observation failed before canonical spend evidence could be rechecked" with
    | none => exact hdetails
    | some broken =>
        refine breakSpend_storable ?_ (by decide) hb
        rw [detailsOf, Json.storable_getD, hdetails]
  have hraw : (failureObservation env message).raw.storable = textStorable message := by
    have hkeys : textStorable "source" = true ∧ textStorable "rpc_failure" = true ∧
        textStorable "error" = true := by decide
    simp [failureObservation, Json.storable, Json.storableMembers, hkeys]
  refine ⟨fun h => hraw ▸ h.2.2.2, fun h => ⟨hsnap, hkept, hresult, ?_⟩⟩
  show (failureObservation env message).raw.storable = true
  rw [hraw, h]

/-- The write after an answer brings what the answer does. -/
theorem plannedInput_storable_iff {txHash : String} {applied : ApplyObservationResult}
    (happ : applyChainObservation (snapshotFromExecution view.execution) bundle.observation =
      .ok applied)
    (htexts : view.execution.textsStorable = true)
    (hdocuments : view.execution.documentsStorable = true)
    (hm : signedPayloadMismatch env view bundle = none) :
    (plannedInput env view bundle applied
        (plannedDraft env view bundle txHash applied)).storable ↔ answerStorable env view bundle := by
  obtain ⟨-, -, -, hdetails, hresult, -⟩ := ExecutionRecord.documentsStorable_iff.mp hdocuments
  have hsnap : (plannedDraft env view bundle txHash applied).snapshot.textsStorable ↔
      observationStorable (snapshotFromExecution view.execution) bundle.observation := by
    rw [← observedSnapshot_storable_iff (snapshotFromExecution_storable htexts),
      plannedDraft_snapshot, (applyChainObservation_ok happ).1]
    rfl
  have hdrafts := plannedDraft_storable_iff txHash happ hdetails hresult hm
  show (plannedDraft env view bundle txHash applied).snapshot.textsStorable ∧
    Json.storable? (plannedDraft env view bundle txHash applied).conflictDetails = true ∧
    Json.storable? (plannedDraft env view bundle txHash applied).assertionResult = true ∧
    bundle.observation.raw.storable = true ↔ _
  rw [hsnap, answerStorable, ← hdrafts]
  tauto

/-- After an RPC failure only the counters of the row matter, and the message. -/
theorem failure_violation_iff {message : String} {applied : ApplyObservationResult}
    (hcur : Current view db) (hstored : db.execution.violation = none)
    (happ : applyChainObservation (snapshotFromExecution view.execution)
      (failureObservation env message) = .ok applied) :
    ((failureInput env view message applied).appliedStore db).execution.violation = none ↔
      db.execution.version < int4Max ∧ db.execution.reconcileAttempts < int4Max ∧
        textStorable message = true := by
  obtain ⟨hcount, -, -, htype, hevidence, htexts, hdocuments⟩ :=
    ExecutionRecord.violation_eq_none.mp hstored
  obtain ⟨hsnap, -⟩ := applyChainObservation_ok happ
  have hfits : (failureInput env view message applied).snapshot.confirmationCount ≤ int4Max := by
    show applied.snapshot.confirmationCount ≤ int4Max
    rw [hsnap, observed_count_iff (by rw [hcur.execution]; exact hcount)]
    simp [depthFits]
  have hkept : conflictTypeAllowed (failureInput env view message applied).nextConflictType =
      true := by
    show conflictTypeAllowed view.execution.conflictType = true
    rw [hcur.execution, htype]
  have hsub : nodeRejectedEvidence (failureInput env view message applied).snapshot.submissionStatus
      db.execution.submissionErrorType = true := by
    show nodeRejectedEvidence applied.snapshot.submissionStatus _ = true
    rw [hsnap, observedSnapshot_submission, snapshotFromExecution_submission, hcur.execution,
      hevidence]
  have hstorable := failureInput_storable happ
    (by rw [hcur.execution]; exact htexts) (by rw [hcur.execution]; exact hdocuments)
  rw [applied_violation_iff hstored]
  simp only [hfits, hkept, hsub, hstorable, true_and]

/-- After an answer, its payload, its depth and its texts matter as well. -/
theorem observed_violation_iff {txHash : String} {applied : ApplyObservationResult}
    (hcur : Current view db) (hstored : db.execution.violation = none)
    (happ : applyChainObservation (snapshotFromExecution view.execution) bundle.observation =
      .ok applied) :
    (observedStore env view txHash bundle applied db).execution.violation = none ↔
      db.execution.version < int4Max ∧ db.execution.reconcileAttempts < int4Max ∧
        answerFits env view bundle := by
  obtain ⟨hcount, -, -, htype, hevidence, htexts, hdocuments⟩ :=
    ExecutionRecord.violation_eq_none.mp hstored
  rw [← hcur.execution] at hcount htype hevidence htexts hdocuments
  have hdepth : (plannedDraft env view bundle txHash applied).snapshot.confirmationCount ≤ int4Max ↔
      depthFits bundle.observation := by
    rw [plannedDraft_snapshot, (applyChainObservation_ok happ).1]
    exact observed_count_iff hcount
  have htypes := planned_type_iff env bundle txHash applied htype
  have hsub := planned_evidence env txHash happ hevidence
  rw [hcur.execution] at hsub
  unfold observedStore
  rw [applied_violation_iff hstored]
  show _ ∧ _ ∧ (plannedDraft env view bundle txHash applied).snapshot.confirmationCount ≤ int4Max ∧
    conflictTypeAllowed (plannedDraft env view bundle txHash applied).conflictType = true ∧ _ ∧ _ ↔ _
  rw [hdepth, htypes, answerFits]
  refine and_congr_right fun _ => and_congr_right fun _ => ?_
  constructor
  · rintro ⟨hd, hm, -, hstorable⟩
    exact ⟨hm, hd, (plannedInput_storable_iff happ htexts hdocuments hm).mp hstorable⟩
  · rintro ⟨hm, hd, hanswer⟩
    exact ⟨hd, hm, hsub, (plannedInput_storable_iff happ htexts hdocuments hm).mpr hanswer⟩

/-- A projection step is rolled back with the write it asks for. -/
theorem rolledBack_failure_iff {txHash message : String} {applied : ApplyObservationResult}
    (hanswer : env.observe txHash = .error message)
    (happ : applyChainObservation (snapshotFromExecution view.execution)
      (failureObservation env message) = .ok applied) :
    RolledBack (reconcileProjection env view txHash db) ↔
      db.execution.version = view.execution.version ∧
        ((failureInput env view message applied).appliedStore db).execution.violation ≠ none := by
  simp only [reconcileProjection, hanswer, reconcileFailure, happ]
  rw [← rolledBack_transact_iff]
  show _ ↔ RolledBack (applySnapshot (failureInput env view message applied) db)
  cases applySnapshot (failureInput env view message applied) db <;> simp [RolledBack]

theorem rolledBack_observed_iff {txHash : String} {applied : ApplyObservationResult}
    (hanswer : env.observe txHash = .ok bundle)
    (happ : applyChainObservation (snapshotFromExecution view.execution) bundle.observation =
      .ok applied) :
    RolledBack (reconcileProjection env view txHash db) ↔
      db.execution.version = view.execution.version ∧
        (observedStore env view txHash bundle applied db).execution.violation ≠ none := by
  simp only [reconcileProjection, hanswer, reconcileObserved, happ]
  rw [← rolledBack_transact_iff]
  show _ ↔ RolledBack (applySnapshot (plannedInput env view bundle applied
    (plannedDraft env view bundle txHash applied)) db)
  cases applySnapshot (plannedInput env view bundle applied
    (plannedDraft env view bundle txHash applied)) db <;> simp [RolledBack]

/-- A conflicted or expired row refuses the observation before anything is written. -/
theorem not_rolledBack_terminal {txHash : String}
    (hw : view.execution.workflowStatus = .conflicted ∨ view.execution.workflowStatus = .expired) :
    ¬ RolledBack (reconcileProjection env view txHash db) := by
  rintro ⟨name, hr⟩
  unfold reconcileProjection at hr
  split at hr
  next message hanswer =>
    obtain ⟨e, he⟩ := applyChainObservation_error_iff.mpr
      (show (snapshotFromExecution view.execution).workflowStatus = _ ∨ _ = _ from hw)
    rw [reconcileFailure, he] at hr
    cases hr
  next bundle hanswer =>
    obtain ⟨e, he⟩ := applyChainObservation_error_iff.mpr
      (show (snapshotFromExecution view.execution).workflowStatus = _ ∨ _ = _ from hw)
    rw [reconcileObserved, he] at hr
    cases hr

/-- **The projection write** is storable exactly where its counters have room and its answer fits. -/
theorem projection_storable_iff
    (hcur : db.execution.version = view.execution.version → Current view db)
    (hstored : db.execution.violation = none) :
    (∀ txHash, view.execution.txHash = some txHash →
      ¬ RolledBack (reconcileProjection env view txHash db)) ↔ projectionFits env view db := by
  unfold projectionFits
  refine forall_congr' fun txHash => imp_congr_right fun _ => ?_
  by_cases hw : view.execution.workflowStatus = .conflicted ∨
      view.execution.workflowStatus = .expired
  · refine iff_of_true (not_rolledBack_terminal hw) fun _ hnc hne => ?_
    exact absurd hw (not_or.mpr ⟨hnc, hne⟩)
  rw [not_or] at hw
  simp only [hw.1, hw.2, ne_eq, not_false_eq_true, forall_const]
  cases hanswer : env.observe txHash with
  | error message =>
      obtain ⟨applied, happ⟩ := applyChainObservation_accepts (failureObservation env message)
        (show (snapshotFromExecution view.execution).workflowStatus ≠ _ from hw.1) hw.2
      rw [rolledBack_failure_iff hanswer happ, not_and, not_not]
      refine forall_congr' fun hversion => ?_
      rw [failure_violation_iff (hcur hversion) hstored happ]
      simp
  | ok bundle =>
      obtain ⟨applied, happ⟩ := applyChainObservation_accepts bundle.observation
        (show (snapshotFromExecution view.execution).workflowStatus ≠ _ from hw.1) hw.2
      rw [rolledBack_observed_iff hanswer happ, not_and, not_not]
      refine forall_congr' fun hversion => ?_
      rw [observed_violation_iff (hcur hversion) hstored happ]
      simp

/-! ## Promotions -/

/-- The row a promotion asks for is storable. -/
theorem promoted_violation_iff {input : PromoteInput} :
    (input.promotedStore db).execution.violation = none ↔
      db.execution.version < int4Max ∧ input.snapshot.confirmationCount ≤ int4Max ∧
        conflictTypeAllowed input.attempt.conflictType = true ∧
        nodeRejectedEvidence input.snapshot.submissionStatus input.attempt.submissionErrorType =
          true ∧ input.snapshot.textsStorable ∧ candidateStorable input.attempt ∧
        input.rawObservation.storable = true := by
  have hstorable : (input.promotedExecution db.execution).textsStorable = true ∧
      (input.promotedExecution db.execution).documentsStorable = true ↔
        input.snapshot.textsStorable ∧ candidateStorable input.attempt ∧
          input.rawObservation.storable = true := by
    rw [ExecutionRecord.textsStorable_iff, ExecutionRecord.documentsStorable_iff,
      ExecutionSnapshot.textsStorable, candidateStorable]
    simp only [PromoteInput.promotedExecution, textStorable_truthy, Json.storable?_jsonb,
      Json.storable_jsonb, storable_outPoints, storable_inputRefs, Js.textStorable?_some,
      Json.storable?_some, Json.storable?_none, true_and]
    tauto
  rw [ExecutionRecord.violation_eq_none, ← hstorable]
  show input.snapshot.confirmationCount ≤ int4Max ∧ 0 ≤ int4Max ∧
    db.execution.version + 1 ≤ int4Max ∧ _ ∧ _ ∧ _ ↔ _
  constructor
  · rintro ⟨hcount, -, hversion, htype, hevidence, hrow⟩
    exact ⟨by omega, hcount, htype, hevidence, hrow⟩
  · rintro ⟨hversion, hcount, htype, hevidence, hrow⟩
    exact ⟨hcount, Nat.zero_le _, by omega, htype, hevidence, hrow⟩

variable (view) in
/-- A candidate is observed from a snapshot without texts. -/
theorem candidateBase_storable (candidate : TransactionAttemptRecord) :
    (candidateBase view candidate).textsStorable := ⟨rfl, rfl, rfl⟩

/-- A candidate is observed as submitted at least, which the evidence check does not tell apart. -/
theorem candidateBase_evidence (view : IntentAggregate) (candidate : TransactionAttemptRecord) :
    nodeRejectedEvidence (candidateBase view candidate).submissionStatus
        candidate.submissionErrorType =
      nodeRejectedEvidence candidate.submissionStatus candidate.submissionErrorType := by
  by_cases hs : candidate.submissionStatus = .notSubmitted
  · cases he : candidate.submissionErrorType <;> simp [candidateBase, nodeRejectedEvidence, hs]
  · simp [candidateBase, hs]

/-- The count of a committed answer is its depth. -/
theorem committed_depth {s : ExecutionSnapshot} {o : ChainObservation} (hs : o.status = .committed) :
    (observedSnapshot s o).confirmationCount ≤ int4Max ↔ depthFits o := by
  rw [observedSnapshot_committed hs, advancedSnapshot_count, if_pos hs]
  simp [depthFits, hs]

variable (view) in
/-- A committed candidate with its own payload, neither conflicted nor expired, is promoted. -/
theorem judgeCandidate_promotes {candidate : TransactionAttemptRecord}
    {observed : RpcObservationBundle} (hanswer : env.observeCandidate candidate.txHash = .ok observed)
    (hs : observed.observation.status = .committed)
    (hm : candidateMismatch env candidate observed = none)
    (hc : candidate.workflowStatus ≠ .conflicted) (he : candidate.workflowStatus ≠ .expired) :
    ∃ input, judgeCandidate env view candidate = .promote input := by
  obtain ⟨applied, happ⟩ := applyChainObservation_accepts observed.observation
    (show (candidateBase view candidate).workflowStatus ≠ _ from hc) he
  simp [judgeCandidate, hanswer, hs, hm, happ]

/-- A promotion records the answer it rests on. -/
theorem judgeCandidate_raw {candidate : TransactionAttemptRecord} {input : PromoteInput}
    {observed : RpcObservationBundle} (h : judgeCandidate env view candidate = .promote input)
    (hanswer : env.observeCandidate candidate.txHash = .ok observed) :
    input.rawObservation = observed.observation.raw := by
  unfold judgeCandidate at h
  rw [hanswer] at h
  simp only at h
  split at h
  · split at h <;> cases h
  · split at h
    · cases h
    · split at h
      · cases h
      · cases h
        rfl

/-- **The promotion write** of a candidate is storable exactly where the version has room and its
depth, its texts and its row fit. -/
theorem promotion_storable_iff {candidate : TransactionAttemptRecord} :
    (∀ input, judgeCandidate env view candidate = .promote input →
      ¬ RolledBack (promoteAttemptProjection input db)) ↔
      promotionFits env view db candidate := by
  -- what the constraints ask of the write of a promotion verdict
  have hwrite : ∀ (input : PromoteInput) (observed : RpcObservationBundle) applied,
      applyChainObservation (candidateBase view candidate) observed.observation = .ok applied →
      observed.observation.status = .committed → input.aggregate = view →
      input.attempt = candidate → input.snapshot = applied.snapshot →
      input.rawObservation = observed.observation.raw →
      (¬ RolledBack (promoteAttemptProjection input db) ↔
        (db.execution.version = view.execution.version →
          db.execution.version < int4Max ∧ depthFits observed.observation ∧
            observed.observation.raw.storable = true ∧
            observationStorable (candidateBase view candidate) observed.observation ∧
            candidateFits candidate)) := by
    intro input observed applied happ hs hagg hattempt hsnap hraw
    unfold promoteAttemptProjection
    rw [rolledBack_transact_iff, not_and, not_not, hagg, promoted_violation_iff, hsnap, hattempt,
      hraw, (applyChainObservation_ok happ).1, committed_depth hs, observedSnapshot_submission,
      candidateBase_evidence, observedSnapshot_storable_iff (candidateBase_storable view candidate),
      candidateFits]
    tauto
  constructor
  · intro h observed hanswer hs hm hc he
    obtain ⟨input, hj⟩ := judgeCandidate_promotes view hanswer hs hm hc he
    obtain ⟨observed', applied, hanswer', -, -, happ, hagg, hattempt, hsnap, -⟩ :=
      judgeCandidate_promote hj
    have hraw := judgeCandidate_raw hj hanswer
    rw [hanswer] at hanswer'
    cases hanswer'
    exact (hwrite input observed applied happ hs hagg hattempt hsnap hraw).mp (h input hj)
  · intro h input hj
    obtain ⟨observed, applied, hanswer, hs, hm, happ, hagg, hattempt, hsnap, -⟩ :=
      judgeCandidate_promote hj
    obtain ⟨-, -, hc, he⟩ := applyChainObservation_ok happ
    exact (hwrite input observed applied happ hs hagg hattempt hsnap
      (judgeCandidate_raw hj hanswer)).mpr (h observed hanswer hs hm hc he)

/-! ## Every reachable row -/

section Runs

open Scenario

/-- A tracked transaction with the fingerprint of its signed payload. -/
def fingerprinted : Op :=
  .attach
    { txHashInput := hashOf 'a', prepared := false, signedPayloadHashSha256 := some (hashOf 'c')
      inputOutPoints := some [outPoint '1'], inputRefs := none, attemptKind := none
      parentAttemptId := none, allowSignedPayloadRevision := false }
    (hashOf 'a') 0

/-- A transaction prepared with the fingerprint of its payload. -/
def identified : Store := after (.depth 4) [fingerprinted]

/-- The node returns the transaction with another signed payload. -/
def foundOtherwise : RpcObservationBundle :=
  { committed "0x8" with
    transaction := some { outputs := [], outputsData := [], payload := .null } }

/-- The node has another payload under the hash. -/
def otherPayload : ReconcileEnv :=
  { node (.ok foundOtherwise) with fingerprint := fun _ => some (hashOf 'd') }

end Runs

end CellFlow
