/-
# CellFlow.Properties.ReorgEvents — which reorgs leave a REORG_DETECTED event.

The kind of a step's event is one variable that later stages overwrite.  A step on a reorg keeps the
kind exactly when it finds nothing else to report: no other payload, no node rejection to supersede,
no input inspection, and no expected Cells to decide in the new block.  It also writes no event at
all where the answer repeats what the row already says.
-/
import CellFlow.Api.CommittedRow
import CellFlow.Api.Scenario

namespace CellFlow

open Optimistic (World)
open Runs (Run)

/-! ## The condition on one answer -/

/-- The transaction between two stores inserted the event of a reorg, which the outbox delivers as
`intent.reorged`. -/
def RecordsReorg (before after : Store) : Prop :=
  ∃ event ∈ after.events.drop before.events.length,
    event.kind = .reorgDetected ∧ event.payload.type = "intent.reorged"

section Condition

variable (env : ReconcileEnv) (view : IntentAggregate) (bundle : RpcObservationBundle)

/-- The snapshot the answer leaves on the row. -/
def observedRow : ExecutionSnapshot :=
  observedSnapshot (snapshotFromExecution view.execution) bundle.observation

/-- A commit deep enough for the policy decides required Cells. -/
structure decidesCells : Prop where
  required : view.intent.expectedCells ≠ []
  committed : bundle.observation.status = .committed
  satisfied : isConfirmationSatisfied view.execution.confirmationPolicy .committed
    (computeConfirmationCount bundle.observation.blockNumber bundle.observation.tipBlockNumber) =
      true
  decided : (evaluation env view bundle).status ≠ .pending

/-- The step has something else to report. -/
def reportsOther : Prop :=
  (signedPayloadMismatch env view bundle).isSome ∨ rejectionSuperseded view bundle = true ∨
    bundle.inputInspection.isSome ∨ decidesCells env view bundle

/-- The answer leaves every column the audit log compares as it is. -/
structure repeatsRow : Prop where
  chain : view.execution.chainStatus = (observedRow view bundle).chainStatus
  workflow : view.execution.workflowStatus = (observedRow view bundle).workflowStatus
  hash : view.execution.committedBlockHash = (observedRow view bundle).committedBlockHash
  number : view.execution.committedBlockNumber = (observedRow view bundle).committedBlockNumber
  reason : view.execution.rejectionReason = (observedRow view bundle).rejectionReason
  assertion : view.execution.assertionStatus =
    if (observedRow view bundle).workflowStatus = .confirmed ∧ view.intent.expectedCells ≠ [] then
      some .pending
    else none
  conflict : bundle.observation.status.found = true → view.execution.conflictType = none ∧
    ApplyInput.detailsText view.execution.conflictDetails = ApplyInput.detailsText none

/-- The answer to a reorg is recorded as one. -/
def keepsReorg : Prop := ¬ reportsOther env view bundle ∧ ¬ repeatsRow view bundle

end Condition

variable {env : ReconcileEnv} {view : IntentAggregate} {bundle : RpcObservationBundle}
  {db t : Store} {txHash : String} {applied : ApplyObservationResult}

/-! ## The event kind -/

/-- An observation that reports a reorg proposes its event. -/
theorem applyChainObservation_reorg {s : ExecutionSnapshot} {o : ChainObservation}
    (h : applyChainObservation s o = .ok applied) (hr : applied.reorgDetected = true) :
    applied.event.kind = .reorgDetected ∧ preservesCommit s o = false := by
  simp only [applyChainObservation] at h
  split at h
  · cases h
  · split at h
    · cases h
      cases hr
    next hp =>
      cases h
      refine ⟨?_, by simpa using hp⟩
      simp only at hr
      simp [hr]

variable (env view bundle txHash) in
/-- The conflict stage keeps the kind exactly where it finds nothing. -/
theorem conflictDraft_reorg (draft : Draft) (hk : draft.eventKind = .reorgDetected) :
    (conflictDraft env view bundle txHash draft).eventKind = .reorgDetected ↔
      signedPayloadMismatch env view bundle = none ∧ rejectionSuperseded view bundle = false ∧
        bundle.inputInspection = none := by
  cases hm : signedPayloadMismatch env view bundle with
  | some pair => simp [conflictDraft, conflictVerdict_mismatch hm, mismatchDraft]
  | none =>
      by_cases hf : bundle.observation.status.found = true
      · -- a found transaction comes without an inspection
        have hi : bundle.inputInspection = none := by
          by_contra hne
          have hu := bundle.inspected_unknown (Option.isSome_iff_ne_none.mpr hne)
          rw [hu] at hf
          cases hf
        rw [conflictDraft, conflictVerdict_found hm hf]
        by_cases hs : rejectionSuperseded view bundle = true <;> simp [foundDraft, hs, hi, hk]
      · have hf' : bundle.observation.status.found = false := by simpa using hf
        have hs : rejectionSuperseded view bundle = false := by simp [rejectionSuperseded, hf']
        cases hi : bundle.inputInspection with
        | none => simp [conflictDraft, conflictVerdict_silent hm hf' hi, hk, hs]
        | some inspection =>
            rw [conflictDraft, conflictVerdict_inspected hm hi, inspectedVerdict]
            cases inspection.state with
            | mempoolContended =>
                simp only [contendedDraft, reduceCtorEq, and_false, iff_false]
                split <;> simp
            | canonicallySpent =>
                simp only [spentDraft, reduceCtorEq, and_false, iff_false]
                split
                · split <;> simp
                · simp
            | allLive => simp [allLiveDraft]
            | unknown => simp [uncertainDraft]

/-- The assertion stage keeps the kind exactly where it decides nothing. -/
theorem assertionDraft_reorg {r : Bool} {draft : Draft} (hk : draft.eventKind = .reorgDetected) :
    (assertionDraft env view bundle r draft).eventKind = .reorgDetected ↔
      ¬ (reevaluates view r draft = true ∧ (evaluation env view bundle).status ≠ .pending) := by
  unfold assertionDraft
  simp only [reevaluates_cleared]
  by_cases he : reevaluates view r draft = true
  · cases hs : (evaluation env view bundle).status <;>
      simp [assertionFailedDraft, he, hk]
  · simp [he, hk]

variable (txHash) in
/-- After a reorg the Cells are due exactly where the new commit satisfies the policy. -/
theorem reevaluates_reorg (hr : applied.reorgDetected = true)
    (hsnap : applied.snapshot = observedRow view bundle)
    (hv : (conflictVerdict env view bundle).conflicts env view = false) :
    reevaluates view applied.reorgDetected
        (conflictDraft env view bundle txHash (observedDraft view bundle applied)) = true ↔
      (observedRow view bundle).workflowStatus = .confirmed ∧ view.intent.expectedCells ≠ [] := by
  have hs := conflictDraft_snapshot env view bundle txHash applied hv
  simp [reevaluates, reverifyAssertions, shouldReverifyExpectedCells, hs, hsnap, hr]

/-- A reorged row ends confirmed exactly on a commit that satisfies the policy. -/
theorem observedRow_confirmed_iff
    (hp : preservesCommit (snapshotFromExecution view.execution) bundle.observation = false)
    (hr : reorgAgainstPriorCommit (snapshotFromExecution view.execution) bundle.observation =
      true) :
    (observedRow view bundle).workflowStatus = .confirmed ↔
      bundle.observation.status = .committed ∧
        isConfirmationSatisfied view.execution.confirmationPolicy .committed
          (computeConfirmationCount bundle.observation.blockNumber
            bundle.observation.tipBlockNumber) = true := by
  rw [observedRow, observedSnapshot, if_neg (by simp [hp]), advancedSnapshot_workflow]
  cases hs : bundle.observation.status with
  | committed =>
      simp only [true_and, snapshotFromExecution_policy]
      by_cases hsat : isConfirmationSatisfied view.execution.confirmationPolicy .committed
          (computeConfirmationCount bundle.observation.blockNumber
            bundle.observation.tipBlockNumber) = true <;> simp [hsat]
  | rejected => simp
  | unknown => simp [hr]
  | pending => simp [hr]
  | proposed => simp [hr]

/-- Where nothing else is reported, no conflict is declared either. -/
theorem conflicts_of_unreported (hm : signedPayloadMismatch env view bundle = none)
    (hi : bundle.inputInspection = none) :
    (conflictVerdict env view bundle).conflicts env view = false := by
  cases hf : bundle.observation.status.found with
  | true =>
      rw [conflictVerdict_found hm hf]
      rfl
  | false =>
      rw [conflictVerdict_silent hm hf hi]
      rfl

/-- **The kind of a step on a reorg**: that of the reorg exactly where it reports nothing else. -/
theorem plannedDraft_reorg_iff
    (happ : applyChainObservation (snapshotFromExecution view.execution) bundle.observation =
      .ok applied) (hr : applied.reorgDetected = true) :
    (plannedDraft env view bundle txHash applied).eventKind = .reorgDetected ↔
      ¬ reportsOther env view bundle := by
  obtain ⟨hsnap, hreorg, -⟩ := applyChainObservation_ok happ
  obtain ⟨hkind, hp⟩ := applyChainObservation_reorg happ hr
  have hconflict := conflictDraft_reorg env view bundle txHash
    (observedDraft view bundle applied) hkind
  by_cases hquiet : signedPayloadMismatch env view bundle = none ∧
      rejectionSuperseded view bundle = false ∧ bundle.inputInspection = none
  · obtain ⟨hm, hs, hi⟩ := hquiet
    have hdue := reevaluates_reorg txHash hr hsnap (conflicts_of_unreported hm hi)
    rw [observedRow_confirmed_iff hp (hreorg ▸ hr)] at hdue
    have hdecides : decidesCells env view bundle ↔
        reevaluates view applied.reorgDetected
            (conflictDraft env view bundle txHash (observedDraft view bundle applied)) = true ∧
          (evaluation env view bundle).status ≠ .pending := by
      rw [hdue]
      constructor
      · intro h
        exact ⟨⟨⟨h.committed, h.satisfied⟩, h.required⟩, h.decided⟩
      · rintro ⟨⟨⟨hcommitted, hsatisfied⟩, hrequired⟩, hdecided⟩
        exact ⟨hrequired, hcommitted, hsatisfied, hdecided⟩
    rw [plannedDraft, assertionDraft_reorg (hconflict.mpr ⟨hm, hs, hi⟩), ← hdecides]
    simp [reportsOther, hm, hs, hi]
  · refine iff_of_false (fun h => ?_) (fun h => hquiet ?_)
    · -- no later stage names a reorg again
      refine hquiet (hconflict.mp ?_)
      unfold plannedDraft assertionDraft at h
      simp only at h
      split at h
      · split at h
        · cases h
        · cases h
        · simpa using h
      · simpa using h
    · rw [reportsOther, not_or, not_or, not_or] at h
      exact ⟨by simpa using h.1, by simpa using h.2.1, by simpa using h.2.2.1⟩

/-! ## The write -/

variable (txHash) in
/-- **The plan of a step that reports nothing else**: the observed row, with the conflict cleared where
the transaction was found, and its Cells undecided. -/
theorem plannedDraft_quiet
    (happ : applyChainObservation (snapshotFromExecution view.execution) bundle.observation =
      .ok applied) (hr : applied.reorgDetected = true) (hother : ¬ reportsOther env view bundle) :
    (plannedDraft env view bundle txHash applied).snapshot = observedRow view bundle ∧
      (plannedDraft env view bundle txHash applied).assertionStatus =
        (if (observedRow view bundle).workflowStatus = .confirmed ∧
            view.intent.expectedCells ≠ [] then some .pending
        else none) ∧
      (plannedDraft env view bundle txHash applied).conflictType =
        (if bundle.observation.status.found then none else view.execution.conflictType) ∧
      (plannedDraft env view bundle txHash applied).conflictDetails =
        (if bundle.observation.status.found then none else view.execution.conflictDetails) := by
  obtain ⟨hsnap, hreorg, -⟩ := applyChainObservation_ok happ
  have hp := (applyChainObservation_reorg happ hr).2
  rw [reportsOther, not_or, not_or, not_or] at hother
  obtain ⟨hm, hs, hi, hdecides⟩ := hother
  rw [Bool.not_eq_true, Option.isSome_eq_false_iff, Option.isNone_iff_eq_none] at hm hi
  have hv := conflicts_of_unreported hm hi
  have hdue := reevaluates_reorg txHash hr hsnap hv
  have hpending : reevaluates view applied.reorgDetected
      (conflictDraft env view bundle txHash (observedDraft view bundle applied)) = true →
        (evaluation env view bundle).status = .pending := by
    intro h
    obtain ⟨hconfirmed, hrequired⟩ := hdue.mp h
    obtain ⟨hcommitted, hsatisfied⟩ :=
      (observedRow_confirmed_iff hp (hreorg ▸ hr)).mp hconfirmed
    by_contra hne
    exact hdecides ⟨hrequired, hcommitted, hsatisfied, hne⟩
  have hfail : assertionsFail env view bundle applied.reorgDetected
      (conflictDraft env view bundle txHash (observedDraft view bundle applied)) = false := by
    rw [assertionsFail, Bool.and_eq_false_imp]
    intro h
    simp [hpending h]
  have hleaves : (conflictVerdict env view bundle).leaves env view view.execution.conflictType
        view.execution.conflictDetails =
        (if bundle.observation.status.found then none else view.execution.conflictType) ∧
      (conflictDraft env view bundle txHash (observedDraft view bundle applied)).conflictDetails =
        (if bundle.observation.status.found then none else view.execution.conflictDetails) := by
    unfold conflictDraft
    cases hf : bundle.observation.status.found with
    | true =>
        rw [conflictVerdict_found hm hf]
        simp [ConflictVerdict.leaves, foundDraft, hs]
    | false =>
        rw [conflictVerdict_silent hm hf hi]
        exact ⟨rfl, rfl⟩
  refine ⟨?_, ?_, ?_, ?_⟩
  · rw [plannedDraft_snapshot, stepConflicts, hv, hfail,
      observedDraft_submission view bundle applied (by rw [hsnap]; simp), hsnap]
    simp only [hs, Bool.or_self, Bool.false_eq_true, if_false]
    rw [observedRow, ← snapshotFromExecution_submission, ← observedSnapshot_submission _
      bundle.observation]
  · rw [plannedDraft_assertionStatus, hr]
    simp only [Bool.true_or, if_true]
    by_cases h : reevaluates view true
        (conflictDraft env view bundle txHash (observedDraft view bundle applied)) = true
    · rw [hr] at hdue hpending
      rw [if_pos h, if_pos (hdue.mp h), hpending h]
    · rw [hr] at hdue
      rw [if_neg h, if_neg (fun hc => h (hdue.mpr hc))]
  · rw [plannedDraft_conflictType, hfail, if_neg (by simp)]
    exact hleaves.1
  · rw [← hleaves.2, plannedDraft]
    unfold assertionDraft
    simp only [reevaluates_cleared]
    split
    next h => simp only [hpending h, clearedDraft_conflictDetails]
    · exact clearedDraft_conflictDetails _ _

/-- Of an answer that reports nothing else, the write records an event exactly where the answer does
not repeat the row. -/
theorem recordsEvent_reorg_iff (hback : CommitBacked (snapshotFromExecution view.execution))
    (hstamped : isSettlementReady (snapshotFromExecution view.execution)
        view.execution.assertionStatus view.intent.expectedCells.length
        view.execution.conflictType = true → view.execution.settlementReadyAt.isSome)
    (happ : applyChainObservation (snapshotFromExecution view.execution) bundle.observation =
      .ok applied) (hr : applied.reorgDetected = true) (hother : ¬ reportsOther env view bundle) :
    (plannedInput env view bundle applied
        (plannedDraft env view bundle txHash applied)).recordsEvent = true ↔
      ¬ repeatsRow view bundle := by
  obtain ⟨hsnap, hassertion, htype, hdetails⟩ :=
    plannedDraft_quiet txHash happ hr hother
  have hnext : CommitBacked (observedRow view bundle) := hback.observed bundle.committed_named
  have hsub : (observedRow view bundle).submissionStatus = view.execution.submissionStatus := by
    simp [observedRow]
  generalize plannedDraft env view bundle txHash applied = draft at *
  have hmeaningful : (plannedInput env view bundle applied draft).meaningful = false ↔
      repeatsRow view bundle := by
    simp only [ApplyInput.meaningful, ApplyInput.prior, plannedInput,
      ApplyInput.nextAssertionStatus, ApplyInput.nextConflictType, ApplyInput.nextConflictDetails,
      Option.getD_some, hsnap, hassertion, htype, hdetails, hsub]
    constructor
    · intro h
      simp only [ne_eq, not_true, decide_false, Bool.false_or, Bool.or_eq_false_iff,
        decide_eq_false_iff_not, not_not] at h
      obtain ⟨⟨⟨⟨⟨⟨⟨h₁, h₂⟩, h₃⟩, h₄⟩, h₅⟩, h₆⟩, h₇⟩, h₈⟩ := h
      refine ⟨h₁, h₂, h₃, h₄, h₅, h₆, fun hf => ⟨?_, ?_⟩⟩
      · simpa [hf] using h₇
      · simpa [hf] using h₈
    · intro h
      have hc : view.execution.conflictType =
          (if bundle.observation.status.found then none else view.execution.conflictType) ∧
            ApplyInput.detailsText view.execution.conflictDetails = ApplyInput.detailsText
              (if bundle.observation.status.found then none
              else view.execution.conflictDetails) := by
        by_cases hf : bundle.observation.status.found = true
        · simpa [hf] using h.conflict hf
        · simp [hf]
      simp only [← h.chain, ← h.workflow, ← h.hash, ← h.number, ← h.reason, ne_eq, not_true,
        decide_false, Bool.false_or, Bool.or_eq_false_iff, decide_eq_false_iff_not, not_not]
      refine ⟨⟨?_, hc.1⟩, hc.2⟩
      rw [h.workflow]
      exact h.assertion
  -- an answer that repeats the row leaves its readiness, which was stamped
  have hsettlement : repeatsRow view bundle →
      (plannedInput env view bundle applied draft).settlementChanged = false := by
    intro h
    have htype' : draft.conflictType = view.execution.conflictType := by
      rw [htype]
      by_cases hf : bundle.observation.status.found = true
      · rw [if_pos hf, (h.conflict hf).1]
      · rw [if_neg hf]
    have hready : isSettlementReady draft.snapshot draft.assertionStatus
        view.intent.expectedCells.length draft.conflictType =
          isSettlementReady (snapshotFromExecution view.execution)
            view.execution.assertionStatus view.intent.expectedCells.length
            view.execution.conflictType := by
      rw [hsnap, hassertion, ← h.assertion, htype', Bool.eq_iff_iff, hnext.ready_iff,
        hback.ready_iff, ← h.workflow]
      exact Iff.rfl
    show ((view.execution.settlementReadyAt.isSome &&
      isSettlementReady (snapshotFromExecution view.execution) view.execution.assertionStatus
        view.intent.expectedCells.length view.execution.conflictType) !=
      isSettlementReady draft.snapshot draft.assertionStatus view.intent.expectedCells.length
        draft.conflictType) = false
    rw [hready]
    cases hr : isSettlementReady (snapshotFromExecution view.execution)
        view.execution.assertionStatus view.intent.expectedCells.length
        view.execution.conflictType with
    | false => simp
    | true => simp [hstamped hr]
  rw [ApplyInput.recordsEvent, Bool.or_eq_true]
  constructor
  · rintro (h | h) hrepeats
    · rw [hmeaningful.mpr hrepeats] at h
      cases h
    · rw [hsettlement hrepeats] at h
      cases h
  · intro h
    refine Or.inl ?_
    by_contra hne
    exact h (hmeaningful.mp (by simpa using hne))

/-! ## The step -/

/-- No event of the settlement is that of a reorg. -/
theorem appliedEvents_reorg_iff {input : ApplyInput} :
    (∃ event ∈ input.appliedEvents,
        event.kind = .reorgDetected ∧ event.payload.type = "intent.reorged") ↔
      input.recordsEvent = true ∧ input.event.kind = .reorgDetected := by
  have hsettlement : (if input.nextReady then EventKind.settlementReady else .settlementRevoked) ≠
      .reorgDetected := by
    cases input.nextReady <;> simp
  unfold ApplyInput.appliedEvents ApplyInput.recordsEvent
  by_cases hquiet : input.meaningful = false ∧ input.settlementChanged = false
  · rw [if_pos hquiet]
    simp [hquiet.1, hquiet.2]
  rw [if_neg hquiet]
  constructor
  · rintro ⟨event, hmem, hkind, -⟩
    refine ⟨by_contra fun hne => hquiet (by simpa using hne), ?_⟩
    rw [List.mem_cons] at hmem
    rcases hmem with rfl | hmem
    · exact hkind
    · by_cases hchange : input.settlementChanged = true
      · rw [if_pos hchange, List.mem_singleton] at hmem
        rw [hmem, eventWithOutbox_kind] at hkind
        exact absurd hkind hsettlement
      · rw [if_neg hchange] at hmem
        cases hmem
  · rintro ⟨-, hkind⟩
    refine ⟨_, List.mem_cons_self, hkind, ?_⟩
    show webhookEventType input.event.kind input.event.toStatus = "intent.reorged"
    rw [hkind]
    rfl

/-- What the rows of every state of a run satisfy. -/
theorem backed_stamped_run {req : CreateRequest} {acts : List Act} {w : World Store}
    (h : Run Step (opening req) acts w) : BackedRow w.current.execution ∧ Stamped w.current := by
  refine machine_inv (fun db => BackedRow db.execution ∧ Stamped db) (fun _ _ => True)
    (consistent_opening req) ⟨backedRow_opening req, stamped_opening req⟩ ?_
    (h.mono fun _ _ _ hst => ⟨trivial, hst⟩)
  intro view op db t hcur hi _ hc
  exact ⟨Op.commit_backed hcur hi.1 hc, Op.commit_stamped hcur hi.2 hc⟩

/-- **Which reorgs are recorded**: the step that persists a detected reorg, in any reachable state,
inserts its event exactly where the answer gives nothing else to report and does not repeat the
row. -/
theorem reorg_recorded_iff {req : CreateRequest} {acts : List Act} {w w' : World Store} {act : Act}
    {env : ReconcileEnv} {txHash : String} {bundle : RpcObservationBundle}
    {applied : ApplyObservationResult} (hrun : Run Step (opening req) acts w)
    (hop : act.op = .observe env) (hstep : Step w act w')
    (htx : act.view.execution.txHash = some txHash) (hanswer : env.observe txHash = .ok bundle)
    (happ : applyChainObservation (snapshotFromExecution act.view.execution)
      bundle.observation = .ok applied) (hr : applied.reorgDetected = true) :
    RecordsReorg w.current w'.current ↔ keepsReorg env act.view bundle := by
  obtain ⟨hrows, -, t, hc, rfl⟩ := hstep
  rw [hop] at hc
  obtain ⟨txHash', result, htx', hp⟩ := Op.observe_commit hc
  obtain rfl : txHash = txHash' := Option.some.inj (htx.symm.trans htx')
  obtain ⟨hversion, -, ⟨message, _, hfailure, -⟩ | ⟨bundle', applied', hanswer', happ', rfl, -⟩⟩ :=
    reconcileProjection_ok hp
  · rw [hanswer] at hfailure
    cases hfailure
  obtain rfl : bundle = bundle' := Except.ok.inj (hanswer.symm.trans hanswer')
  obtain rfl : applied = applied' := Except.ok.inj (happ.symm.trans happ')
  have hcur := current_of_version (consistent_run (consistent_opening req) hrun) hrows hversion
  obtain ⟨hback, hstamped⟩ := backed_stamped_run hrun
  have hevents : RecordsReorg w.current
      (observedStore env act.view txHash bundle applied w.current) ↔
        (plannedInput env act.view bundle applied
          (plannedDraft env act.view bundle txHash applied)).recordsEvent = true ∧
        (plannedDraft env act.view bundle txHash applied).eventKind = .reorgDetected := by
    rw [RecordsReorg, observedStore, ApplyInput.appliedStore, List.drop_left]
    exact appliedEvents_reorg_iff
  rw [World.commit_current, hevents, plannedDraft_reorg_iff happ hr, keepsReorg]
  by_cases hother : reportsOther env act.view bundle
  · simp [hother]
  · rw [recordsEvent_reorg_iff (hcur.execution ▸ hback.snapshot) ?_ happ hr hother, and_comm]
    rw [hcur.execution, hcur.intent]
    exact hstamped

section Runs

open Scenario

/-- The operations that reach `settled`. -/
def settledBy : List Op :=
  [attach 'a' false none [outPoint '1'], .observe (node (.ok (committed "0x8")))]

theorem settled_run : ∃ acts past, Run Step (opening (create (.depth 4))) acts ⟨settled, past⟩ :=
  run_after (show commitsAll _ settledBy = true by decide +kernel)

/-- The commit of a settled transaction is disproved, and nothing else is found. -/
theorem reorg_recorded_iff_dropped :
    RecordsReorg settled (perform settled (.observe (node (.ok (dropped none))))) := by
  have hrow : ((Op.observe (node (.ok (dropped none)))).commit settled.aggregate settled).isSome ∧
      settled.execution.txHash = some (hashOf 'a') ∧
      settled.aggregate.execution.chainStatus = .committed ∧
      (observedRow settled.aggregate (dropped none)).chainStatus = .unknown ∧
      ((applyChainObservation (snapshotFromExecution settled.execution)
        (dropped none).observation).toOption.map (·.reorgDetected)) = some true := by
    decide +kernel
  obtain ⟨hlast, htx, hchain, hobserved, hreorg⟩ := hrow
  obtain ⟨acts, past, hrun⟩ := settled_run
  generalize settled = db at *
  obtain ⟨applied, happ, hr⟩ := Option.map_eq_some_iff.mp hreorg
  refine (reorg_recorded_iff hrun rfl (step_alone (perform_commit hlast)) htx rfl
    (toOption_eq_some happ) hr).mpr ⟨?_, fun h => ?_⟩
  · rintro (hm | hs | hi | hd)
    · rw [signedPayloadMismatch] at hm
      split at hm <;> simp_all [dropped, absent]
    · rw [rejectionSuperseded, Bool.and_eq_true] at hs
      cases hs.2
    · cases hi
    · cases hd.committed
  · have hsame : db.aggregate.execution.chainStatus =
        (observedRow db.aggregate (dropped none)).chainStatus := h.chain
    rw [hchain, hobserved] at hsame
    cases hsame

/-- The inputs of the dropped transaction are seen live in the same step, and its reorg goes
unrecorded. -/
theorem reorg_unrecorded : ¬ ∀ (req : CreateRequest) (acts : List Act) (w w' : World Store) (act : Act)
    (env : ReconcileEnv) (txHash : String) (bundle : RpcObservationBundle)
    (applied : ApplyObservationResult), Run Step (opening req) acts w → act.op = .observe env →
    Step w act w' → act.view.execution.txHash = some txHash → env.observe txHash = .ok bundle →
    applyChainObservation (snapshotFromExecution act.view.execution) bundle.observation =
      .ok applied → applied.reorgDetected = true → RecordsReorg w.current w'.current := by
  intro h
  have hrow : ((Op.observe (node (.ok (dropped (some (inspection .allLive "0x9")))))).commit
        settled.aggregate settled).isSome ∧
      settled.execution.txHash = some (hashOf 'a') ∧
      ((applyChainObservation (snapshotFromExecution settled.execution)
        (dropped (some (inspection .allLive "0x9"))).observation).toOption.map
          (·.reorgDetected)) = some true ∧
      (perform settled (.observe (node (.ok
        (dropped (some (inspection .allLive "0x9"))))))).events.map (·.kind) =
          [.created, .submissionUpdated, .confirmed, .settlementReady, .inputStateInspected,
            .settlementRevoked] := by
    decide +kernel
  obtain ⟨hlast, htx, hreorg, hkinds⟩ := hrow
  obtain ⟨acts, past, hrun⟩ := settled_run
  generalize settled = db at *
  obtain ⟨applied, happ, hr⟩ := Option.map_eq_some_iff.mp hreorg
  obtain ⟨event, hmem, hkind, -⟩ := h _ acts _ _ _ _ _ _ applied hrun rfl
    (step_alone (perform_commit hlast)) htx rfl (toOption_eq_some happ) hr
  have hin := List.mem_map_of_mem (f := (·.kind)) (List.mem_of_mem_drop hmem)
  rw [hkind] at hin
  have hlisted : EventKind.reorgDetected ∈ (perform db (.observe (node (.ok
      (dropped (some (inspection .allLive "0x9"))))))).events.map (·.kind) := hin
  rw [hkinds] at hlisted
  simp at hlisted

end Runs

end CellFlow
