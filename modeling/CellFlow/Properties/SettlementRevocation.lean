/-
# CellFlow.Properties.SettlementRevocation — what makes a settled row unsettled.

A projection step on a settlement-ready row should revoke settlement only when its answer carries
evidence against it: the recorded block disproved, another commit block, or another signed payload.
Without such evidence the step keeps the row ready exactly when the answer is not a commit too shallow
for the policy, not an adverse input inspection, and not a failed re-check of a row that was never
durably settled.
-/
import CellFlow.Api.Scenario

namespace CellFlow

section Revocation

variable (env : ReconcileEnv) (view : IntentAggregate)

/-- The answer disproves the recorded commit, or names another payload. -/
def contradictsSettlement (bundle : RpcObservationBundle) : Prop :=
  bundle.observation.priorCommitCanonical = some false ∨
    (bundle.observation.status = .committed ∧
      truthy bundle.observation.blockHash ≠ truthy view.execution.committedBlockHash) ∨
    (signedPayloadMismatch env view bundle).isSome

/-- A commit in the recorded block, at a tip that does not satisfy the policy. -/
def shallowCommit (bundle : RpcObservationBundle) : Prop :=
  bundle.observation.status = .committed ∧
    isConfirmationSatisfied view.execution.confirmationPolicy .committed
      (computeConfirmationCount bundle.observation.blockNumber bundle.observation.tipBlockNumber) =
        false

/-- The row was verified but never durably settled, and its Cells do not verify this time. -/
def failedReassessment (bundle : RpcObservationBundle) : Prop :=
  view.intent.expectedCells ≠ [] ∧ view.execution.settlementReadyAt = none ∧
    (evaluation env view bundle).status ≠ .verified

/-- The answer that unsettles the row without speaking against its commit. -/
def unsettles (bundle : RpcObservationBundle) : Prop :=
  shallowCommit view bundle ∨ adverseInspection view bundle ∨ failedReassessment env view bundle

/-- The step's answer, if it got one, is positive evidence against the settlement. -/
def RevocationEvidence (txHash : String) : Prop :=
  ∃ bundle, env.observe txHash = .ok bundle ∧ contradictsSettlement env view bundle

/-- The step's answer, if it got one, unsettles the row. -/
def UnsettlingAnswer (txHash : String) : Prop :=
  ∃ bundle, env.observe txHash = .ok bundle ∧ unsettles env view bundle

end Revocation

/-! ## The observed snapshot of a ready row -/

variable {env : ReconcileEnv} {view : IntentAggregate} {bundle : RpcObservationBundle}

/-- A ready row, as the facts its readiness consists of. -/
structure ReadyRow (view : IntentAggregate) : Prop where
  confirmed : view.execution.workflowStatus = .confirmed
  committed : view.execution.chainStatus = .committed
  hash : (truthy view.execution.committedBlockHash).isSome
  number : (truthy view.execution.committedBlockNumber).isSome
  satisfied : isConfirmationSatisfied view.execution.confirmationPolicy .committed
    view.execution.confirmationCount = true
  unconflicted : view.execution.conflictType = none
  verified : view.intent.expectedCells.length = 0 ∨
    view.execution.assertionStatus = some .verified

theorem readyRow_of_ready {db : Store} (hcur : Current view db) (h : db.settlementReady = true) :
    ReadyRow view := by
  rw [Store.settlementReady, ← hcur.execution, ← hcur.intent] at h
  obtain ⟨hw, hc, hh, hb, hp, hn, ha⟩ := isSettlementReady_eq_true.mp h
  simp only [snapshotFromExecution, truthy_truthy] at hh hb
  exact ⟨hw, hc, hh, hb, hp, hn, ha⟩

theorem no_reorg (hr : ReadyRow view) (he : ¬ contradictsSettlement env view bundle) :
    reorgAgainstPriorCommit (snapshotFromExecution view.execution) bundle.observation = false := by
  obtain ⟨recorded, hrec⟩ := Option.isSome_iff_exists.mp hr.hash
  have hprior : bundle.observation.priorCommitCanonical ≠ some false := fun h => he (Or.inl h)
  have htr : truthy (snapshotFromExecution view.execution).committedBlockHash = some recorded := by
    rw [snapshotFromExecution_hash, truthy_truthy, hrec]
  simp only [reorgAgainstPriorCommit, htr, hprior, if_false]
  by_cases hs : bundle.observation.status = .committed
  · have hsame : truthy bundle.observation.blockHash = some recorded := by
      by_contra hne
      exact he (Or.inr (Or.inl ⟨hs, by rw [hrec]; exact hne⟩))
    simp [hs, hsame]
  · simp [hs]

/-- Without evidence, an answer other than COMMITTED leaves the snapshot of a ready row. -/
theorem observed_preserved (hr : ReadyRow view) (he : ¬ contradictsSettlement env view bundle)
    (hs : bundle.observation.status ≠ .committed) :
    observedSnapshot (snapshotFromExecution view.execution) bundle.observation =
      snapshotFromExecution view.execution := by
  have hp : preservesCommit (snapshotFromExecution view.execution) bundle.observation = true := by
    simp [preservesCommit, no_reorg hr he, hs, hr.committed]
  rw [observedSnapshot, if_pos hp]
  simp only [preservedSnapshot, snapshotFromExecution_workflow, hr.confirmed, if_true]
  rw [← hr.confirmed]
  rfl

theorem ready_of_row (hr : ReadyRow view) :
    isSettlementReady (snapshotFromExecution view.execution) view.execution.assertionStatus
      view.intent.expectedCells.length none = true :=
  isSettlementReady_eq_true.mpr ⟨hr.confirmed, hr.committed, by simpa using hr.hash,
    by simpa using hr.number, hr.satisfied, rfl, hr.verified⟩

/-- Without evidence, the observed snapshot of a ready row stays ready unless the commit is shallow;
it keeps the recorded hash. -/
theorem observed_ready (hr : ReadyRow view) (he : ¬ contradictsSettlement env view bundle)
    (hshallow : ¬ shallowCommit view bundle) :
    isSettlementReady (observedSnapshot (snapshotFromExecution view.execution) bundle.observation)
        view.execution.assertionStatus view.intent.expectedCells.length none = true ∧
      (observedSnapshot (snapshotFromExecution view.execution)
        bundle.observation).committedBlockHash = view.execution.committedBlockHash := by
  by_cases hs : bundle.observation.status = .committed
  · have hp : preservesCommit (snapshotFromExecution view.execution) bundle.observation = false := by
      simp [preservesCommit, hs]
    obtain ⟨hhash, hnumber⟩ := bundle.committed_named hs
    obtain ⟨hash, hhash⟩ := Option.isSome_iff_exists.mp hhash
    obtain ⟨number, hnumber⟩ := Option.isSome_iff_exists.mp hnumber
    have hsame : truthy bundle.observation.blockHash =
        truthy view.execution.committedBlockHash := by
      by_contra hne
      exact he (Or.inr (Or.inl ⟨hs, hne⟩))
    have hsat : isConfirmationSatisfied view.execution.confirmationPolicy .committed
        (computeConfirmationCount bundle.observation.blockNumber
          bundle.observation.tipBlockNumber) = true := by
      by_contra hne
      exact hshallow ⟨hs, by simpa using hne⟩
    rw [observedSnapshot, if_neg (by simp [hp])]
    refine ⟨isSettlementReady_eq_true.mpr ⟨?_, ?_, ?_, ?_, ?_, rfl, hr.verified⟩, ?_⟩
    · rw [advancedSnapshot_workflow, hs]
      simp [hsat]
    · simp [hs]
    · rw [advancedSnapshot_hash, hs]
      simp [hhash, truthy_some_of_eq hhash]
    · rw [advancedSnapshot_number, hs]
      simp [hnumber, truthy_some_of_eq hnumber]
    · rw [advancedSnapshot_policy, advancedSnapshot_count, if_pos hs]
      exact hsat
    · rw [advancedSnapshot_hash, hs, ← truthy_of_isSome hr.hash, ← hsame]
      simp [hhash]
  · rw [observed_preserved hr he hs]
    exact ⟨ready_of_row hr, truthy_of_isSome hr.hash⟩

/-! ## The draft of a step on a ready row -/

/-- A row that was never durably settled has its Cells evaluated again. -/
theorem reevaluates_unsettled {r : Bool} {draft : Draft}
    (hw : draft.snapshot.workflowStatus = .confirmed) (hcells : view.intent.expectedCells ≠ [])
    (hat : view.execution.settlementReadyAt = none) : reevaluates view r draft = true := by
  simp [reevaluates, reverifyAssertions, shouldReverifyExpectedCells, hw, hcells, hat]

/-- A durably settled row keeps its verdict while the block stays the same. -/
theorem settled_of_reevaluates {draft : Draft} (hr : ReadyRow view)
    (hhash : draft.snapshot.committedBlockHash = view.execution.committedBlockHash)
    (he : reevaluates view false draft = true) : view.execution.settlementReadyAt = none := by
  simp only [reevaluates, Bool.and_eq_true, decide_eq_true_eq] at he
  have hlen : view.intent.expectedCells.length ≠ 0 := by
    simpa using he.1.2
  have hver : view.execution.assertionStatus = some .verified := hr.verified.resolve_left hlen
  have hsome := hr.hash
  have hrev := he.2
  simp only [reverifyAssertions, shouldReverifyExpectedCells, hver, hhash] at hrev
  cases hat : view.execution.settlementReadyAt with
  | none => rfl
  | some at_ =>
      rw [Option.isSome_iff_ne_none] at hsome
      simp [hat, hsome] at hrev

theorem draft_ready_iff (txHash : String) {applied : ApplyObservationResult} (hr : ReadyRow view)
    (he : ¬ contradictsSettlement env view bundle)
    (happ : applyChainObservation (snapshotFromExecution view.execution) bundle.observation =
      .ok applied) :
    draftReady view (plannedDraft env view bundle txHash applied) = true ↔
      ¬ unsettles env view bundle := by
  have hm : signedPayloadMismatch env view bundle = none := by
    by_contra hne
    exact he (Or.inr (Or.inr (Option.isSome_iff_ne_none.mpr hne)))
  obtain ⟨hsnap, hreorg, -⟩ := applyChainObservation_ok happ
  rw [no_reorg hr he] at hreorg
  have hobs := observedDraft_snapshot view bundle applied
  obtain ⟨hs₁, hc₁, ha₁⟩ := conflictDraft_fields env view bundle txHash
    (observedDraft view bundle applied)
  have hleaves : (conflictDraft env view bundle txHash
      (observedDraft view bundle applied)).conflictType =
        (conflictVerdict env view bundle).leaves env view none view.execution.conflictDetails := by
    rw [hc₁]
    simp [observedDraft, hr.unconflicted]
  have hstatus : (conflictDraft env view bundle txHash
      (observedDraft view bundle applied)).assertionStatus = view.execution.assertionStatus := ha₁
  unfold plannedDraft
  rw [hreorg]
  generalize hd : conflictDraft env view bundle txHash (observedDraft view bundle applied) = d₁
    at hs₁ hleaves hstatus
  obtain ⟨hs, hc, ha⟩ := assertionDraft_fields env view bundle false d₁
  constructor
  · intro hready hun
    obtain ⟨hw, -, -, -, -, hcn, hver⟩ := isSettlementReady_eq_true.mp hready
    have hfail : assertionsFail env view bundle false d₁ = false := by
      by_contra hne
      rw [hc, if_pos (by simpa using hne)] at hcn
      cases hcn
    rw [hs, hfail, if_neg (by simp)] at hw
    rcases hun with hshallow | hadverse | ⟨hcells, hat, hne⟩
    · -- a shallow commit waits for confirmations
      rw [hs₁] at hw
      split at hw
      · cases hw
      · rw [hobs, hsnap] at hw
        have hp : preservesCommit (snapshotFromExecution view.execution) bundle.observation =
            false := by
          simp [preservesCommit, hshallow.1]
        simp only [observedSnapshot, hp, Bool.false_eq_true, if_false] at hw
        rw [advancedSnapshot_workflow, hshallow.1] at hw
        simp [hshallow.2] at hw
    · rw [hc, hfail, if_neg (by simp), hleaves] at hcn
      exact (leaves_eq_none_iff hm).mp hcn hadverse
    · rw [ha, if_pos (reevaluates_unsettled hw hcells hat)] at hver
      rcases hver with hzero | hver
      · exact hcells (List.length_eq_zero_iff.mp hzero)
      · exact hne (Option.some.inj hver)
  · intro hun
    have hshallow : ¬ shallowCommit view bundle := fun h => hun (Or.inl h)
    have hadverse : ¬ adverseInspection view bundle := fun h => hun (Or.inr (Or.inl h))
    obtain ⟨hcore, hhash⟩ := observed_ready hr he hshallow
    have hs₁ : d₁.snapshot = (observedDraft view bundle applied).snapshot := by
      rw [hs₁, conflicts_eq_false hm hadverse, if_neg (by simp)]
    rw [← hsnap] at hcore hhash
    have hcore₁ : isSettlementReady d₁.snapshot view.execution.assertionStatus
        view.intent.expectedCells.length none = true := by
      rw [hs₁, hobs]
      exact hcore
    obtain ⟨hw, hcom, hh, hb, hsat, -, -⟩ := isSettlementReady_eq_true.mp hcore₁
    have hnone : d₁.conflictType = none := by
      rw [hleaves]
      exact (leaves_eq_none_iff hm).mpr hadverse
    have hver : reevaluates view false d₁ = true →
        (evaluation env view bundle).status = .verified := by
      intro hre
      have hat : view.execution.settlementReadyAt = none := by
        refine settled_of_reevaluates hr ?_ hre
        rw [hs₁, hobs]
        exact hhash
      by_contra hne
      refine hun (Or.inr (Or.inr ⟨?_, hat, hne⟩))
      simp only [reevaluates, Bool.and_eq_true, decide_eq_true_eq] at hre
      exact hre.1.2
    have hfail : assertionsFail env view bundle false d₁ = false := by
      by_cases hre : reevaluates view false d₁ = true
      · simp [assertionsFail, hver hre]
      · simp [assertionsFail, hre]
    rw [hfail, if_neg (by simp)] at hs hc
    have hverified : view.intent.expectedCells.length = 0 ∨
        (assertionDraft env view bundle false d₁).assertionStatus = some .verified := by
      rw [ha]
      by_cases hre : reevaluates view false d₁ = true
      · rw [if_pos hre, hver hre]
        exact Or.inr rfl
      · rw [if_neg hre]
        have hkeep : (clearedDraft false d₁).assertionStatus = d₁.assertionStatus := by
          simp [clearedDraft, hw]
        rw [hkeep, hstatus]
        exact hr.verified
    rw [draftReady, hs, hc, hnone]
    exact isSettlementReady_eq_true.mpr ⟨hw, hcom, hh, hb, hsat, rfl, hverified⟩

/-! ## The step -/

/-- An RPC failure leaves a ready row ready. -/
theorem failure_keeps_ready {db : Store} {message : String} {applied : ApplyObservationResult}
    (hcur : Current view db) (hr : ReadyRow view)
    (happ : applyChainObservation (snapshotFromExecution view.execution)
      (failureObservation env message) = .ok applied) :
    ((failureInput env view message applied).appliedStore db).settlementReady = true := by
  have hp : preservesCommit (snapshotFromExecution view.execution)
      (failureObservation env message) = true := by
    simp [preservesCommit, hr.committed]
  obtain ⟨hsnap, -⟩ := applyChainObservation_ok happ
  have hkeep : applied.snapshot = snapshotFromExecution view.execution := by
    rw [hsnap, observedSnapshot, if_pos hp]
    simp only [preservedSnapshot, snapshotFromExecution_workflow, hr.confirmed, if_true]
    rw [← hr.confirmed]
    rfl
  have hpolicy : db.execution.confirmationPolicy =
      (failureInput env view message applied).snapshot.confirmationPolicy := by
    rw [failureInput, hkeep, ← hcur.execution]
    rfl
  have hcells : db.intent.expectedCells =
      (failureInput env view message applied).aggregate.intent.expectedCells := by
    rw [failureInput, hcur.intent]
  rw [ApplyInput.appliedStore_settlementReady hpolicy hcells]
  simp only [ApplyInput.nextReady, ApplyInput.nextAssertionStatus, ApplyInput.nextConflictType,
    ApplyInput.requiredAssertionCount, ApplyInput.prior, failureInput, Option.getD_none, hkeep,
    hr.unconflicted]
  exact ready_of_row hr

/-- **Settlement is revoked only by evidence, except**: a step on a ready row revokes settlement
without evidence exactly when its answer unsettles the row. -/
theorem settlement_revocation_iff {db db' : Store} {txHash : String} {result : ReconcileResult}
    (hcur : Current view db) (hready : db.settlementReady = true)
    (hstep : reconcileProjection env view txHash db = .ok (db', result)) :
    (db'.settlementReady = false → RevocationEvidence env view txHash) ↔
      (RevocationEvidence env view txHash ∨ ¬ UnsettlingAnswer env view txHash) := by
  have hr := readyRow_of_ready hcur hready
  obtain ⟨-, -, ⟨message, applied, hanswer, happ, rfl, -⟩ | ⟨bundle, applied, hanswer, happ, rfl, -⟩⟩ :=
    reconcileProjection_ok hstep
  · refine iff_of_true ?_ (Or.inr ?_)
    · rw [failure_keeps_ready hcur hr happ]
      intro h
      cases h
    · rintro ⟨bundle, hb, -⟩
      rw [hanswer] at hb
      cases hb
  · have honly : ∀ b, env.observe txHash = .ok b → b = bundle := by
      intro b hb
      rw [hanswer] at hb
      exact (Except.ok.inj hb).symm
    rw [observedStore_ready hcur happ]
    by_cases he : contradictsSettlement env view bundle
    · have hev : RevocationEvidence env view txHash := ⟨bundle, hanswer, he⟩
      exact iff_of_true (fun _ => hev) (Or.inl hev)
    · have hev : ¬ RevocationEvidence env view txHash := by
        rintro ⟨b, hb, hc⟩
        exact he (honly b hb ▸ hc)
      have hun : UnsettlingAnswer env view txHash ↔ unsettles env view bundle :=
        ⟨fun ⟨b, hb, hu⟩ => honly b hb ▸ hu, fun hu => ⟨bundle, hanswer, hu⟩⟩
      have hdraft := draft_ready_iff txHash hr he happ
      rw [hun, ← hdraft]
      simp [hev]

/-! ## A forgotten transaction -/

section Forgotten

open Scenario

/-- A node that forgot a settled transaction and reports its inputs spent. -/
def forgotten : ReconcileEnv := node (.ok (absent (some (inspection .canonicallySpent "0x9"))))

/-- The settled row, and what the answer makes of it. -/
theorem forgotten_run : settled.settlementReady = true ∧
    settled.aggregate.execution.txHash = some (hashOf 'a') ∧
    ((Op.observe forgotten).commit settled.aggregate settled).isSome ∧
    (perform settled (.observe forgotten)).settlementReady = false := by decide +kernel

theorem forgotten_step : ∃ result, reconcileProjection forgotten settled.aggregate (hashOf 'a')
    settled = .ok (perform settled (.observe forgotten), result) := by
  obtain ⟨-, hhash, hcommit, -⟩ := forgotten_run
  obtain ⟨txHash, result, htx, hp⟩ := Op.observe_commit (perform_commit hcommit)
  rw [hhash, Option.some.injEq] at htx
  subst htx
  exact ⟨result, hp⟩

/-- No answer of `forgotten` is evidence. -/
theorem forgotten_no_evidence :
    ¬ RevocationEvidence forgotten settled.aggregate (hashOf 'a') := by
  rintro ⟨bundle, hb, hc⟩
  cases hb
  rcases hc with hprior | ⟨hstatus, -⟩ | hmismatch
  · cases hprior
  · cases hstatus
  · have hnone : signedPayloadMismatch forgotten settled.aggregate
        (absent (some (inspection .canonicallySpent "0x9"))) = none := by
      unfold signedPayloadMismatch
      cases truthy (settled.aggregate.activeAttempt.bind (·.signedPayloadHashSha256)) <;> rfl
    rw [hnone] at hmismatch
    cases hmismatch

/-- The own spend of the inputs revokes the settlement. -/
theorem settlement_revoked_by_own_spend :
    ¬ ∀ (env : ReconcileEnv) (view : IntentAggregate) (db db' : Store) (txHash : String)
      (result : ReconcileResult), Current view db → db.settlementReady = true →
      reconcileProjection env view txHash db = .ok (db', result) →
      db'.settlementReady = false → RevocationEvidence env view txHash := by
  intro h
  obtain ⟨result, hstep⟩ := forgotten_step
  obtain ⟨hready, -, -, hrevoked⟩ := forgotten_run
  exact forgotten_no_evidence (h _ _ _ _ _ result settled.current hready hstep hrevoked)

theorem settlement_revocation_iff_forgotten :
    ((perform settled (.observe forgotten)).settlementReady = false →
        RevocationEvidence forgotten settled.aggregate (hashOf 'a')) ↔
      (RevocationEvidence forgotten settled.aggregate (hashOf 'a') ∨
        ¬ UnsettlingAnswer forgotten settled.aggregate (hashOf 'a')) := by
  obtain ⟨result, hstep⟩ := forgotten_step
  obtain ⟨hready, -⟩ := forgotten_run
  exact settlement_revocation_iff settled.current hready hstep

end Forgotten

end CellFlow
