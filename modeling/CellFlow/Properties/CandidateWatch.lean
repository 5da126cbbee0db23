/-
# CellFlow.Properties.CandidateWatch — claiming while a competing candidate is unresolved.

As long as another attempt is still a candidate, a reconciliation schedules a next one.  Three
predicates have to agree for that run to happen: the schedule of the reconciler, the selection of
`claimDueExecutions`, and the guard of `applyChainObservation`.  They agree exactly where the step
leaves the row in none of the states the selection leaves out: CONFLICTED, chain REJECTED, and
NODE_REJECTED without a suspected conflict.
-/
import CellFlow.Properties.Storable

namespace CellFlow

open Optimistic (World)
open Runs (Run)

/-! ## Agreement -/

/-- A reconciliation ended in an error of the state machine. -/
def ThrowsTransitionInvalid (outcome : Except Failure ReconcileResult) : Prop :=
  ∃ e, outcome = .error (.cellFlow e) ∧ e.code = .transitionInvalid

/-- The step scheduled a next one, the row is claimed when that time has passed, and the next
reconciliation does not throw, whatever it is answered. -/
structure KeepsWatching (env : ReconcileEnv) (result : ReconcileResult) (db : Store) : Prop where
  scheduled : ∃ delay, result.nextDelayMs = some delay ∧
    db.execution.nextReconcileAt = some (env.nowMs + delay)
  watched : Watched db
  accepts : ∀ next, ¬ ThrowsTransitionInvalid (serviceReconcile next db).2

/-- The columns `claimDueExecutions` selects by, apart from the time and the lease. -/
structure Selectable (row : ExecutionRecord) : Prop where
  not_conflicted : row.workflowStatus ≠ .conflicted
  not_expired : row.workflowStatus ≠ .expired
  not_rejected : row.chainStatus ≠ .rejected
  suspected : row.submissionStatus ≠ .nodeRejected ∨
    row.conflictType = some .inputConflictSuspected

/-- A scheduled row is watched exactly if it is selectable. -/
theorem watched_iff {db : Store} {due : Int} (hdue : db.execution.nextReconcileAt = some due) :
    Watched db ↔ Selectable db.execution := by
  constructor
  · rintro ⟨due', hdue', hclaim⟩
    have h := hclaim due' none (Int.le_refl _) (by simp)
    simp only [claimable, Bool.and_eq_true, Bool.or_eq_true, decide_eq_true_eq] at h
    exact ⟨h.1.1.1.1.2, h.1.1.1.2, h.1.1.2, h.1.2⟩
  · intro h
    refine ⟨due, hdue, fun now lease hle hfree => ?_⟩
    have hsuspected := h.suspected
    cases lease with
    | none =>
        simpa [claimable, hdue, hle, h.not_conflicted, h.not_expired, h.not_rejected] using
          hsuspected
    | some held =>
        have hheld : held < now := hfree held rfl
        simpa [claimable, hdue, hle, h.not_conflicted, h.not_expired, h.not_rejected, hheld] using
          hsuspected

/-! ## The condition -/

section Condition

variable (env : ReconcileEnv) (view : IntentAggregate) (bundle : RpcObservationBundle)

/-- The observation confirms the transaction, its expected Cells are due for a check, and they are
contradicted. -/
def cellsContradicted : Prop :=
  let row := view.execution
  let observed := observedSnapshot (snapshotFromExecution row) bundle.observation
  observed.workflowStatus = .confirmed ∧ view.intent.expectedCells ≠ [] ∧
    shouldReverifyExpectedCells row.settlementReadyAt.isSome (row.assertionStatus = some .verified)
      row.committedBlockHash observed.committedBlockHash
      (reorgAgainstPriorCommit (snapshotFromExecution row) bundle.observation) = true ∧
    (evaluation env view bundle).status = .failed

/-- The chain rejection of an answer, where no recorded commit stands against it. -/
def chainRejected : Prop :=
  bundle.observation.status = .rejected ∧
    preservesCommit (snapshotFromExecution view.execution) bundle.observation = false

/-- A node rejection the answer does not disprove and leaves without a suspected conflict: no
adverse inspection, and nothing suspected before or the inputs seen live. -/
def rejectionUnsuspected : Prop :=
  view.execution.submissionStatus = .nodeRejected ∧ bundle.observation.status.found = false ∧
    ¬ adverseInspection view bundle ∧
    (view.execution.conflictType ≠ some .inputConflictSuspected ∨
      ∃ inspection, bundle.inputInspection = some inspection ∧ inspection.state = .allLive)

/-- The answer about the projected transaction closes the row to the selection. -/
def closes : Prop :=
  ∃ txHash, view.execution.txHash = some txHash ∧
    match env.observe txHash with
    | .error _ => view.execution.submissionStatus = .nodeRejected ∧
        view.execution.conflictType ≠ some .inputConflictSuspected
    | .ok bundle => terminalSpend env view bundle ∨ cellsContradicted env view bundle ∨
        chainRejected view bundle ∨ rejectionUnsuspected view bundle

end Condition

/-- The aggregate the projection step works from: that of the store, or of a promoted candidate. -/
def projected (env : ReconcileEnv) (db : Store) : IntentAggregate :=
  match (scanCandidates env db.aggregate (rivals db.aggregate) db).2 with
  | .ok (some promoted) => promoted
  | _ => db.aggregate

/-! ## The columns a step leaves -/

section Columns

variable {env : ReconcileEnv} {view : IntentAggregate} {bundle : RpcObservationBundle}
  {txHash : String} {applied : ApplyObservationResult}

theorem conflicts_iff (hm : signedPayloadMismatch env view bundle = none) :
    (conflictVerdict env view bundle).conflicts env view = true ↔ terminalSpend env view bundle := by
  constructor
  · intro h
    by_cases hf : bundle.observation.status.found = true
    · rw [conflictVerdict_found hm hf] at h
      cases h
    · cases hi : bundle.inputInspection with
      | none =>
          rw [conflictVerdict_silent hm (by simpa using hf) hi] at h
          cases h
      | some inspection =>
          rw [conflictVerdict_inspected hm hi, inspectedVerdict] at h
          cases hs : inspection.state with
          | canonicallySpent =>
              rw [hs] at h
              exact ⟨inspection, hi, hs, h⟩
          | _ =>
              rw [hs] at h
              cases h
  · exact conflicts_of_terminalSpend hm

theorem assertionsFail_iff
    (happ : applyChainObservation (snapshotFromExecution view.execution) bundle.observation =
      .ok applied)
    (hc : (conflictVerdict env view bundle).conflicts env view = false) :
    assertionsFail env view bundle applied.reorgDetected
        (conflictDraft env view bundle txHash (observedDraft view bundle applied)) = true ↔
      cellsContradicted env view bundle := by
  obtain ⟨hsnap, hreorg, -⟩ := applyChainObservation_ok happ
  have hdraft := conflictDraft_snapshot env view bundle txHash applied hc
  simp only [assertionsFail, reevaluates, reverifyAssertions, hdraft, hsnap, hreorg,
    cellsContradicted, Bool.and_eq_true, decide_eq_true_eq, and_assoc]

variable (txHash) in
/-- **A step that stores its plan ends CONFLICTED** exactly on a terminal spend or on contradicted
Cells. -/
theorem stepConflicts_iff (hm : signedPayloadMismatch env view bundle = none)
    (happ : applyChainObservation (snapshotFromExecution view.execution) bundle.observation =
      .ok applied) :
    stepConflicts env view bundle txHash applied = true ↔
      terminalSpend env view bundle ∨ cellsContradicted env view bundle := by
  unfold stepConflicts
  rw [← conflicts_iff hm]
  cases hc : (conflictVerdict env view bundle).conflicts env view with
  | true => simp
  | false => simpa using assertionsFail_iff happ hc

theorem observed_chainRejected_iff {s : ExecutionSnapshot} {o : ChainObservation} :
    (observedSnapshot s o).chainStatus = .rejected ↔
      o.status = .rejected ∧ preservesCommit s o = false := by
  unfold observedSnapshot
  cases hp : preservesCommit s o with
  | true =>
      simp only [preservesCommit, Bool.and_eq_true, decide_eq_true_eq] at hp
      simp [preservedSnapshot, hp.1.1]
  | false =>
      rw [if_neg (by simp), advancedSnapshot_chain]
      cases o.status <;> simp

/-- Where the transaction was not found and no spend is terminal, a suspicion is left by an adverse
inspection, or by one on record over inputs that were not seen live. -/
theorem leaves_suspected_iff (hm : signedPayloadMismatch env view bundle = none)
    (hf : bundle.observation.status.found = false) (ht : ¬ terminalSpend env view bundle) :
    (conflictVerdict env view bundle).leaves env view view.execution.conflictType
        view.execution.conflictDetails = some .inputConflictSuspected ↔
      adverseInspection view bundle ∨
        (view.execution.conflictType = some .inputConflictSuspected ∧
          ∀ inspection, bundle.inputInspection = some inspection → inspection.state ≠ .allLive) := by
  cases hi : bundle.inputInspection with
  | none =>
      rw [conflictVerdict_silent hm hf hi]
      simp [ConflictVerdict.leaves, adverseInspection, hi]
  | some inspection =>
      rw [conflictVerdict_inspected hm hi]
      cases hs : inspection.state with
      | mempoolContended =>
          simp [inspectedVerdict, ConflictVerdict.leaves, adverseInspection, hi, hs]
      | canonicallySpent =>
          have hopen : spendTerminal env view inspection = false := by
            by_contra hne
            exact ht ⟨inspection, hi, hs, by simpa using hne⟩
          simp [inspectedVerdict, ConflictVerdict.leaves, adverseInspection, hi, hs, hopen]
      | allLive =>
          simp [inspectedVerdict, ConflictVerdict.leaves, adverseInspection, hi, hs]
      | unknown =>
          simp only [inspectedVerdict, hs, ConflictVerdict.leaves]
          split
          next hclass => simp [adverseInspection, hi, hs, hclass]
          next hclass => simp [adverseInspection, hi, hs, hclass]

/-- The plan is selectable exactly where its answer does not close the row. -/
theorem planned_selectable_iff (hm : signedPayloadMismatch env view bundle = none)
    (happ : applyChainObservation (snapshotFromExecution view.execution) bundle.observation =
      .ok applied) {row : ExecutionRecord}
    (hworkflow : row.workflowStatus =
      (plannedDraft env view bundle txHash applied).snapshot.workflowStatus)
    (hchain : row.chainStatus =
      (plannedDraft env view bundle txHash applied).snapshot.chainStatus)
    (hsub : row.submissionStatus =
      (plannedDraft env view bundle txHash applied).snapshot.submissionStatus)
    (htype : row.conflictType = (plannedDraft env view bundle txHash applied).conflictType) :
    Selectable row ↔
      ¬ (terminalSpend env view bundle ∨ cellsContradicted env view bundle ∨
        chainRejected view bundle ∨ rejectionUnsuspected view bundle) := by
  obtain ⟨hsnap, -⟩ := applyChainObservation_ok happ
  have hplan := plannedDraft_snapshot env view bundle txHash applied
  have hplanned := plannedDraft_conflictType env view bundle txHash applied
  have hobserved := observedDraft_submission view bundle applied (by rw [hsnap]; simp)
  have hconflicts := stepConflicts_iff txHash hm happ
  rw [hplan] at hworkflow hchain hsub
  by_cases hstep : stepConflicts env view bundle txHash applied = true
  · rw [if_pos hstep] at hworkflow
    refine iff_of_false (fun h => h.not_conflicted hworkflow) (not_not.mpr ?_)
    rcases hconflicts.mp hstep with hspend | hcells
    · exact Or.inl hspend
    · exact Or.inr (Or.inl hcells)
  rw [if_neg hstep] at hworkflow
  obtain ⟨hspend, hcells⟩ := not_or.mp (mt hconflicts.mpr hstep)
  have hfail : assertionsFail env view bundle applied.reorgDetected
      (conflictDraft env view bundle txHash (observedDraft view bundle applied)) = false := by
    rw [stepConflicts, Bool.or_eq_true, not_or] at hstep
    simpa using hstep.2
  rw [hplanned, hfail] at htype
  have hopen := observedSnapshot_open (snapshotFromExecution view.execution) bundle.observation
  rw [← hsnap, ← hworkflow] at hopen
  have hrejected : row.chainStatus = .rejected ↔ chainRejected view bundle := by
    rw [hchain, hsnap]
    exact observed_chainRejected_iff
  have hsub' : row.submissionStatus =
      if rejectionSuperseded view bundle then .submitted else view.execution.submissionStatus :=
    hsub.trans hobserved
  constructor
  · rintro h (hs | hc | hr | ⟨hrecorded, hf, hadverse, hlive⟩)
    · exact hspend hs
    · exact hcells hc
    · exact h.not_rejected (hrejected.mpr hr)
    · rcases h.suspected with hne | hsuspected
      · rw [not_superseded hf] at hsub'
        exact hne (hsub'.trans hrecorded)
      · rw [htype] at hsuspected
        rcases (leaves_suspected_iff hm hf hspend).mp hsuspected with ha | ⟨hkept, hnone⟩
        · exact hadverse ha
        · rcases hlive with hother | ⟨inspection, hi, hl⟩
          · exact hother hkept
          · exact hnone inspection hi hl
  · intro h
    rw [not_or, not_or, not_or] at h
    obtain ⟨-, -, hr, hu⟩ := h
    refine ⟨hopen.1, hopen.2, mt hrejected.mp hr, ?_⟩
    by_cases hn : row.submissionStatus = .nodeRejected
    · right
      have hkept : rejectionSuperseded view bundle = false := by
        by_contra hne
        rw [if_pos (by simpa using hne), hn] at hsub'
        cases hsub'
      rw [hkept, hn] at hsub'
      have hrecorded : view.execution.submissionStatus = .nodeRejected := hsub'.symm
      have hf : bundle.observation.status.found = false := by
        simpa [rejectionSuperseded, hrecorded] using hkept
      rw [htype]
      show (conflictVerdict env view bundle).leaves env view _ _ = _
      rw [leaves_suspected_iff hm hf hspend]
      by_contra hnone
      rw [not_or] at hnone
      refine hu ⟨hrecorded, hf, hnone.1, ?_⟩
      by_contra hlive
      rw [not_or, not_not] at hlive
      exact hnone.2 ⟨hlive.1, fun inspection hi hl => hlive.2 ⟨inspection, hi, hl⟩⟩
    · exact Or.inl hn

end Columns

/-! ## One projection step -/

section Projection

variable {env : ReconcileEnv} {view : IntentAggregate} {db db' : Store} {txHash : String}
  {result : ReconcileResult}

/-- **Where a projection step leaves a selectable row.** -/
theorem projection_selectable_iff (hcur : Current view db) (hstored : db.execution.violation = none)
    (htx : view.execution.txHash = some txHash)
    (h : reconcileProjection env view txHash db = .ok (db', result)) :
    Selectable db'.execution ↔ ¬ closes env view := by
  obtain ⟨hversion, hfits, ⟨message, applied, hanswer, happ, rfl, -⟩ |
    ⟨bundle, applied, hanswer, happ, rfl, -⟩⟩ := reconcileProjection_ok h
  · have hcloses : closes env view ↔ view.execution.submissionStatus = .nodeRejected ∧
        view.execution.conflictType ≠ some .inputConflictSuspected := by
      simp [closes, htx, hanswer]
    have hsnap := (applyChainObservation_ok happ).1
    have hopen := observedSnapshot_open (snapshotFromExecution view.execution)
      (failureObservation env message)
    have hchain : (observedSnapshot (snapshotFromExecution view.execution)
        (failureObservation env message)).chainStatus ≠ .rejected := by
      rw [ne_eq, observed_chainRejected_iff]
      simp
    have hsub : (observedSnapshot (snapshotFromExecution view.execution)
        (failureObservation env message)).submissionStatus = view.execution.submissionStatus := by
      simp
    rw [← hsnap] at hopen hchain hsub
    rw [hcloses, not_and_or, not_not]
    constructor
    · intro hs
      exact hs.suspected.imp (fun hne hn => hne (hsub.trans hn)) id
    · intro hs
      exact ⟨hopen.1, hopen.2, hchain, hs.imp (fun hne hn => hne (hsub.symm.trans hn)) id⟩
  · have hcloses : closes env view ↔ terminalSpend env view bundle ∨
        cellsContradicted env view bundle ∨ chainRejected view bundle ∨
        rejectionUnsuspected view bundle := by
      simp [closes, htx, hanswer]
    obtain ⟨-, -, hm, -⟩ := (observed_violation_iff hcur hstored happ).mp hfits
    rw [hcloses]
    exact planned_selectable_iff hm happ rfl rfl rfl rfl

theorem mem_rivals {aggregate : IntentAggregate} {attempt : TransactionAttemptRecord} :
    attempt ∈ rivals aggregate ↔ attempt ∈ aggregate.attempts ∧ attempt.disposition = .active ∧
      some attempt.id ≠ aggregate.intent.activeAttemptId := by
  simp [rivals]

/-- A write that leaves a rival found one, and does not confirm the active attempt. -/
theorem rivals_of_applied {input : ApplyInput} {active : String}
    (hview : input.aggregate.intent = db.intent) (hactive : db.intent.activeAttemptId = some active)
    (hr : rivals (input.appliedStore db).aggregate ≠ []) :
    input.snapshot.workflowStatus ≠ .confirmed ∧ rivals db.aggregate ≠ [] := by
  obtain ⟨attempt, hmem⟩ := List.exists_mem_of_ne_nil _ hr
  obtain ⟨hin, hdisposition, hid⟩ := mem_rivals.mp hmem
  have hid' : attempt.id ≠ active := by
    intro heq
    exact hid (by rw [heq]; exact hactive.symm)
  have hupdated : ∀ a ∈ updateAttempt active input.appliedAttempt db.attempts,
      a.id ≠ active → a ∈ db.attempts := by
    intro a ha hne
    obtain ⟨b, hb, rfl⟩ := List.mem_map.mp ha
    by_cases hbid : b.id = active
    · rw [if_pos hbid] at hne
      exact absurd hbid hne
    · rw [if_neg hbid]
      exact hb
  have hattempts : (input.appliedStore db).aggregate.attempts =
      if input.attemptDisposition = .confirmed then
        supersedeOthers active (updateAttempt active input.appliedAttempt db.attempts)
      else updateAttempt active input.appliedAttempt db.attempts := by
    show input.appliedAttempts db.attempts = _
    simp only [ApplyInput.appliedAttempts, hview, hactive, updateActive]
  rw [hattempts] at hin
  by_cases hconfirmed : input.attemptDisposition = .confirmed
  · rw [if_pos hconfirmed] at hin
    obtain ⟨a, -, rfl⟩ := List.mem_map.mp hin
    by_cases ha : a.id ≠ active ∧ a.disposition = .active
    · rw [if_pos ha] at hdisposition
      cases hdisposition
    · rw [if_neg ha] at hdisposition hid'
      exact absurd ⟨hid', hdisposition⟩ ha
  · rw [if_neg hconfirmed] at hin
    refine ⟨fun hw => hconfirmed ?_, List.ne_nil_of_mem (mem_rivals.mpr
      ⟨hupdated _ hin hid', hdisposition, ?_⟩)⟩
    · simp [ApplyInput.attemptDisposition, dispositionForSnapshot, hw]
    · show some attempt.id ≠ db.intent.activeAttemptId
      rw [hactive]
      simpa using hid'

/-- **A step that leaves a rival schedules a next one.** -/
theorem projection_schedules (hcur : Current view db) {active : String}
    (hactive : db.intent.activeAttemptId = some active)
    (hrivals : rivals db.aggregate ≠ [] → rivals view ≠ [])
    (h : reconcileProjection env view txHash db = .ok (db', result))
    (hr : rivals db'.aggregate ≠ []) :
    ∃ delay, result.nextDelayMs = some delay ∧
      db'.execution.nextReconcileAt = some (env.nowMs + delay) := by
  obtain ⟨-, -, ⟨message, applied, -, -, rfl, hdelay⟩ | ⟨bundle, applied, -, happ, rfl, hdelay⟩⟩ :=
    reconcileProjection_ok h
  · exact ⟨_, hdelay, rfl⟩
  · obtain ⟨hworkflow, hfound⟩ := rivals_of_applied hcur.intent hactive hr
    have hunresolved : unresolvedCompetingCandidate view
        (plannedDraft env view bundle txHash applied) = true := by
      have hview := hrivals hfound
      simp only [unresolvedCompetingCandidate, Bool.and_eq_true, decide_eq_true_eq]
      exact ⟨hworkflow, by simpa using hview⟩
    cases hnext : nextDelayMs env view bundle (plannedDraft env view bundle txHash applied) with
    | some delay =>
        refine ⟨delay, hdelay.trans hnext, ?_⟩
        show (nextDelayMs env view bundle _).map (env.nowMs + ·) = _
        rw [hnext]
        rfl
    | none =>
        rcases nextDelayMs_eq_none.mp hnext with hterminal | hresolved
        · simp [terminal, hunresolved] at hterminal
        · simp [nodeRejectionConflictResolved, hunresolved] at hresolved

/-- A projection step from an open row throws no transition error. -/
theorem projection_accepts (hc : view.execution.workflowStatus ≠ .conflicted)
    (he : view.execution.workflowStatus ≠ .expired) (e : CellFlowError) :
    reconcileProjection env view txHash db ≠ .error (.cellFlow e) := by
  intro h
  unfold reconcileProjection at h
  split at h
  next message hanswer =>
    obtain ⟨applied, happ⟩ := applyChainObservation_accepts (failureObservation env message)
      (show (snapshotFromExecution view.execution).workflowStatus ≠ _ from hc) he
    simp only [reconcileFailure, happ] at h
    split at h
    next failure hwrite =>
      cases h
      exact Store.transact_ne_cellFlow e hwrite
    · cases h
  next bundle hanswer =>
    obtain ⟨applied, happ⟩ := applyChainObservation_accepts bundle.observation
      (show (snapshotFromExecution view.execution).workflowStatus ≠ _ from hc) he
    simp only [reconcileObserved, happ] at h
    split at h
    next failure hwrite =>
      cases h
      exact Store.transact_ne_cellFlow e hwrite
    · cases h

end Projection

/-! ## The candidate scan -/

section Scan

variable {env : ReconcileEnv} {view promoted : IntentAggregate} {db t : Store}
  {candidates : List TransactionAttemptRecord}

/-- A scan that promotes nothing leaves the execution and the intent row. -/
theorem scan_none (h : scanCandidates env view candidates db = (t, .ok none)) :
    guardedRows t = guardedRows db := by
  induction candidates generalizing db with
  | nil =>
      cases h
      rfl
  | cons candidate rest ih =>
      simp only [scanCandidates] at h
      split at h
      · exact ih h
      next input hj =>
        have hrest := ih h
        exact hrest
      · split at h <;> cases h

/-- A scan that promotes leaves the row of an accepted promotion. -/
theorem scan_promoted (h : scanCandidates env view candidates db = (t, .ok (some promoted))) :
    promoted = t.aggregate ∧ t.execution.violation = none ∧
      ∃ (input : PromoteInput) (mid : Store), t = input.promotedStore mid ∧
        input.snapshot.workflowStatus ≠ .conflicted ∧
        input.snapshot.workflowStatus ≠ .expired := by
  induction candidates generalizing db with
  | nil => cases h
  | cons candidate rest ih =>
      simp only [scanCandidates] at h
      split at h
      · exact ih h
      · exact ih h
      next input hj =>
        split at h
        · cases h
        next db' hp =>
          cases h
          obtain ⟨-, hfits, rfl⟩ := promoteAttemptProjection_ok hp
          obtain ⟨observed, _, -, -, -, happ, -, -, hsnap, -⟩ := judgeCandidate_promote hj
          have hopen := observedSnapshot_open (candidateBase view candidate) observed.observation
          rw [← (applyChainObservation_ok happ).1, ← hsnap] at hopen
          exact ⟨rfl, hfits, input, db, rfl, hopen.1, hopen.2⟩

/-- A scan throws no error of the state machine: a throw inside a probe is absence of evidence. -/
theorem scan_ne_cellFlow {e : CellFlowError} :
    (scanCandidates env view candidates db).2 ≠ .error (.cellFlow e) := by
  induction candidates generalizing db with
  | nil => simp [scanCandidates]
  | cons candidate rest ih =>
      simp only [scanCandidates]
      split
      · exact ih
      · exact ih
      · split
        next failure hp =>
          intro h
          cases h
          exact Store.transact_ne_cellFlow e hp
        · simp

end Scan

/-! ## Whole reconciliations -/

/-- **A reconciliation of an open row throws no transition error**, whatever it is answered. -/
theorem serviceReconcile_accepts {db : Store} (hc : db.execution.workflowStatus ≠ .conflicted)
    (he : db.execution.workflowStatus ≠ .expired) (env : ReconcileEnv) :
    ¬ ThrowsTransitionInvalid (serviceReconcile env db).2 := by
  rintro ⟨e, h, -⟩
  have hsettle : ∀ {view : IntentAggregate} {txHash : String} {mid : Store},
      view.execution.workflowStatus ≠ .conflicted → view.execution.workflowStatus ≠ .expired →
      (settle mid (reconcileProjection env view txHash mid)).2 ≠ .error (.cellFlow e) := by
    intro view txHash mid hnc hne hs
    cases hp : reconcileProjection env view txHash mid with
    | ok r =>
        rw [hp] at hs
        cases hs
    | error failure =>
        rw [hp] at hs
        cases hs
        exact projection_accepts hnc hne e hp
  have hpath := serviceReconcile_path env db
  generalize serviceReconcile env db = run at hpath h
  cases hpath with
  | unprepared htx => cases h
  | unconfigured hurls => cases h
  | failed hscan =>
      cases h
      exact scan_ne_cellFlow (congrArg Prod.snd hscan)
  | kept htx hscan => exact hsettle hc he h
  | cleared hscan htx => cases h
  | promoted hscan htx =>
      obtain ⟨rfl, -, input, before, rfl, hnc, hne⟩ := scan_promoted hscan
      exact hsettle hnc hne h

/-- **How an accepted reconciliation of a prepared intent ends**: in the projection step of the
aggregate it projects. -/
theorem serviceReconcile_ok {env : ReconcileEnv} {db db' : Store} {result : ReconcileResult}
    {txHash : String} (htx : db.execution.txHash = some txHash)
    (hstored : db.execution.violation = none)
    (hactive : db.intent.activeAttemptId.isSome)
    (h : serviceReconcile env db = (db', .ok result)) :
    ∃ mid hash active, Current (projected env db) mid ∧ mid.execution.violation = none ∧
      mid.intent.activeAttemptId = some active ∧
      (rivals mid.aggregate ≠ [] → rivals (projected env db) ≠ []) ∧
      (projected env db).execution.txHash = some hash ∧
      reconcileProjection env (projected env db) hash mid = .ok (db', result) := by
  have hsettle : ∀ {mid : Store} {outcome : Except Failure (Store × ReconcileResult)},
      settle mid outcome = (db', .ok result) → outcome = .ok (db', result) := by
    intro mid outcome hs
    cases outcome with
    | error e => cases hs
    | ok r =>
        cases hs
        rfl
  have hpath := serviceReconcile_path env db
  rw [h] at hpath
  generalize houtcome : (db', Except.ok result) = outcome at hpath
  cases hpath with
  | unprepared hnone =>
      rw [hnone] at htx
      cases htx
  | unconfigured hurls => cases houtcome
  | failed hscan => cases houtcome
  | @kept mid own hown hscan =>
      have hview : projected env db = db.aggregate := by
        unfold projected
        rw [hscan]
      have hrows := scan_none hscan
      rw [guardedRows, guardedRows, Prod.mk.injEq] at hrows
      obtain ⟨active, hsome⟩ := Option.isSome_iff_exists.mp hactive
      rw [hview]
      refine ⟨mid, own, active, ⟨hrows.1.symm, hrows.2.symm⟩, ?_, ?_, ?_, hown,
        hsettle houtcome.symm⟩
      · rw [hrows.1]
        exact hstored
      · rw [hrows.2]
        exact hsome
      · -- without candidates the scan leaves the store
        intro hmid hnone
        rw [hnone] at hscan
        cases hscan
        exact hmid hnone
  | cleared hscan hnone =>
      obtain ⟨rfl, -, input, before, rfl, -⟩ := scan_promoted hscan
      cases hnone
  | @promoted mid promoted own hscan hown =>
      have hview : projected env db = promoted := by
        unfold projected
        rw [hscan]
      rw [hview]
      obtain ⟨rfl, hfits, input, before, rfl, -⟩ := scan_promoted hscan
      cases hown
      exact ⟨_, _, _, Store.current _, hfits, rfl, id, rfl, hsettle houtcome.symm⟩

/-! ## Reachable stores -/

/-- An intent with attempts has a hash, and one with a hash has an active attempt. -/
structure Prepared (db : Store) : Prop where
  hashed : db.attempts ≠ [] → db.execution.txHash.isSome
  active : db.execution.txHash.isSome → db.intent.activeAttemptId.isSome

theorem updateActive_ne_nil {id : Option String}
    {f : TransactionAttemptRecord → TransactionAttemptRecord}
    {attempts : List TransactionAttemptRecord} (h : updateActive id f attempts ≠ []) :
    attempts ≠ [] := by
  intro hnil
  cases id <;> simp [updateActive, updateAttempt, hnil] at h

theorem appliedAttempts_ne_nil {input : ApplyInput} {attempts : List TransactionAttemptRecord}
    (h : input.appliedAttempts attempts ≠ []) : attempts ≠ [] := by
  intro hnil
  refine h ?_
  unfold ApplyInput.appliedAttempts
  cases input.aggregate.intent.activeAttemptId with
  | none => exact hnil
  | some active =>
      simp only [updateActive, updateAttempt, supersedeOthers, hnil]
      split <;> rfl

theorem prepared_step {view : IntentAggregate} {op : Op} {db t : Store} (hi : Prepared db)
    (h : op.commit view db = some t) : Prepared t := by
  cases op with
  | attach req freshId now =>
      obtain ⟨_, _, _, _, _, -, -, -, -, -, rfl⟩ := Op.attach_writes h
      exact ⟨fun _ => by simp, fun _ => rfl⟩
  | mark req now =>
      obtain ⟨after, -, -, -, -, rfl⟩ := markAttempt_ok (Op.mark_commit h).2
      exact ⟨fun hne => hi.hashed (updateActive_ne_nil hne), hi.active⟩
  | observe env =>
      obtain ⟨txHash, result, -, hp⟩ := Op.observe_commit h
      obtain ⟨input, -, rfl⟩ := reconcileProjection_writes hp
      exact ⟨fun hne => hi.hashed (appliedAttempts_ne_nil hne), hi.active⟩
  | probe env index =>
      obtain ⟨candidate, -, ⟨input, -, rfl⟩ | ⟨input, -, hp⟩⟩ := Op.probe_commit h
      · refine ⟨fun hne => hi.hashed fun hnil => hne ?_, hi.active⟩
        simp [updateCandidateAttempt, updateAttempt, hnil]
      · obtain ⟨-, -, rfl⟩ := promoteAttemptProjection_ok hp
        exact ⟨fun _ => rfl, fun _ => rfl⟩
  | preflight verified reason rawObservation now =>
      cases h
      exact ⟨hi.hashed, hi.active⟩
  | operatorNote text now =>
      cases h
      exact ⟨hi.hashed, hi.active⟩

theorem prepared_run {req : CreateRequest} {acts : List Act} {w : World Store}
    (h : Run Step (opening req) acts w) : Prepared w.current := by
  refine h.inv (fun w => Prepared w.current) ?_ ?_
  · exact ⟨fun hne => absurd rfl hne, fun htx => by cases htx⟩
  · rintro w act w' hi ⟨-, -, t, hc, rfl⟩
    exact prepared_step hi hc

/-- **Scheduling and claiming agree** exactly where the answer does not close the row: whatever
state an intent has reached, if its reconciliation leaves another candidate, a next run is scheduled,
claimed when due, and free of transition errors, unless the step ended in one of the states
`closes` lists. -/
theorem candidate_watch_iff {req : CreateRequest} {acts : List Act} {w : World Store}
    (hrun : Run Step (opening req) acts w) {env : ReconcileEnv} {result : ReconcileResult}
    {db' : Store} (h : serviceReconcile env w.current = (db', .ok result))
    (hr : rivals db'.aggregate ≠ []) :
    KeepsWatching env result db' ↔ ¬ closes env (projected env w.current) := by
  cases htx : w.current.execution.txHash with
  | none =>
      -- an intent without a hash has no attempts
      have hnil : w.current.attempts = [] := by
        by_contra hne
        have hsome := (prepared_run hrun).hashed hne
        rw [htx] at hsome
        cases hsome
      have htx' : w.current.aggregate.execution.txHash = none := htx
      simp only [serviceReconcile, reconcileIntentOnce, htx', Prod.mk.injEq] at h
      rw [← h.1] at hr
      refine absurd ?_ hr
      show w.current.attempts.filter _ = []
      rw [hnil]
      rfl
  | some txHash =>
      have hactive := (prepared_run hrun).active (by simp [htx])
      obtain ⟨mid, hash, active, hcur, hstored, hmid, hrivals, hhash, hp⟩ :=
        serviceReconcile_ok htx (stored_fits hrun) hactive h
      have hselectable := projection_selectable_iff hcur hstored hhash hp
      obtain ⟨delay, hdelay, hnext⟩ := projection_schedules hcur hmid hrivals hp hr
      constructor
      · intro hk
        exact hselectable.mp ((watched_iff hnext).mp hk.watched)
      · intro hopen
        have hs := hselectable.mpr hopen
        exact ⟨⟨delay, hdelay, hnext⟩, (watched_iff hnext).mpr hs,
          serviceReconcile_accepts hs.not_conflicted hs.not_expired⟩

section Runs

open Scenario

/-- A reconciliation with a result, as the pair it returns. -/
theorem reconcile_pair {env : ReconcileEnv} {db current : Store} {result : ReconcileResult}
    (hdb : current = db) (h : (serviceReconcile env db).2.toOption = some result) :
    serviceReconcile env current = ((serviceReconcile env db).1, .ok result) := by
  rw [hdb, ← toOption_eq_some h]

/-- A submitted transaction and its RBF replacement. -/
def replaced : List Op :=
  [attach 'a' false none [outPoint '1'], attach 'b' false (some .rbfReplacement) [outPoint '1']]

/-- The replacement is still pending. -/
def pendingAnswer : RpcObservationBundle where
  observation :=
    { status := .pending, observedAt := 0, raw := .null, blockHash := none, blockNumber := none
      tipBlockNumber := none, rejectionReason := none, priorCommitCanonical := none }
  transaction := none
  endpoint := "http://node"
  inputInspection := none
  committed_named := by simp
  inspected_unknown := by simp

/-- The node rejected the replacement. -/
def rejectedAnswer : RpcObservationBundle where
  observation :=
    { status := .rejected, observedAt := 0, raw := .null, blockHash := none, blockNumber := none
      tipBlockNumber := none, rejectionReason := some "RBFRejected", priorCommitCanonical := none }
  transaction := none
  endpoint := "http://node"
  inputInspection := none
  committed_named := by simp
  inspected_unknown := by simp

/-- While the replacement is pending its parent keeps being observed. -/
theorem candidate_watch_iff_pending : ∃ result,
    (serviceReconcile (node (.ok pendingAnswer)) (after (.depth 4) replaced)).2 = .ok result ∧
      KeepsWatching (node (.ok pendingAnswer)) result
        (serviceReconcile (node (.ok pendingAnswer)) (after (.depth 4) replaced)).1 := by
  have hrow : commitsAll (serviceCreateIntent (create (.depth 4))) replaced = true ∧
      (serviceReconcile (node (.ok pendingAnswer)) (after (.depth 4) replaced)).2.toOption.isSome ∧
      rivals (serviceReconcile (node (.ok pendingAnswer))
        (after (.depth 4) replaced)).1.aggregate ≠ [] ∧
      (projected (node (.ok pendingAnswer)) (after (.depth 4) replaced)).intent.expectedCells = [] ∧
      (projected (node (.ok pendingAnswer))
        (after (.depth 4) replaced)).execution.submissionStatus = .submitted := by
    decide +kernel
  obtain ⟨hall, hok, hr, hcells, hsub⟩ := hrow
  obtain ⟨acts, w, hrun, hw, -⟩ := run_of_performs [] (performs_of_commitsAll hall)
  have hstore : w.current = after (.depth 4) replaced := hw
  obtain ⟨result, hresult⟩ := Option.isSome_iff_exists.mp hok
  have h := reconcile_pair hstore hresult
  refine ⟨result, toOption_eq_some hresult, (candidate_watch_iff hrun.of_when h hr).mpr ?_⟩
  rw [hstore]
  rintro ⟨txHash, -, ⟨_, hi, -⟩ | ⟨-, hne, -⟩ | ⟨hs, -⟩ | ⟨hn, -⟩⟩
  · cases hi
  · exact hne hcells
  · cases hs
  · rw [hsub] at hn
    cases hn

/-- Once the replacement is rejected, the run that was scheduled for its parent is never claimed. -/
theorem rejected_replacement_unwatched : ¬ ∀ (req : CreateRequest) (acts : List Act) (w : World Store)
    (env : ReconcileEnv) (result : ReconcileResult) (db' : Store), Run Step (opening req) acts w →
    serviceReconcile env w.current = (db', .ok result) → rivals db'.aggregate ≠ [] →
    KeepsWatching env result db' := by
  intro h
  have hrow : commitsAll (serviceCreateIntent (create (.depth 4))) replaced = true ∧
      (serviceReconcile (node (.ok rejectedAnswer)) (after (.depth 4) replaced)).2.toOption.isSome ∧
      rivals (serviceReconcile (node (.ok rejectedAnswer))
        (after (.depth 4) replaced)).1.aggregate ≠ [] ∧
      (serviceReconcile (node (.ok rejectedAnswer))
        (after (.depth 4) replaced)).1.execution.chainStatus = .rejected := by
    decide +kernel
  obtain ⟨hall, hok, hr, hrejected⟩ := hrow
  obtain ⟨acts, w, hrun, hw, -⟩ := run_of_performs [] (performs_of_commitsAll hall)
  have hstore : w.current = after (.depth 4) replaced := hw
  obtain ⟨result, hresult⟩ := Option.isSome_iff_exists.mp hok
  have hreconcile := reconcile_pair hstore hresult
  have hkeeps := h _ acts w _ result _ hrun.of_when hreconcile hr
  obtain ⟨delay, -, hnext⟩ := hkeeps.scheduled
  exact ((watched_iff hnext).mp hkeeps.watched).not_rejected hrejected

end Runs

end CellFlow
