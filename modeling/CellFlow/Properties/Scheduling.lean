/-
# CellFlow.Properties.Scheduling — no possibly-broadcast transaction without a scheduled check.

A row whose transaction may be on the wire, that is neither settled nor in a terminal state, should
be due at some time and then be claimed.  Two operations leave such a row without a time: a report
that a broadcast started, on a row nothing has scheduled yet, and a projection step that keeps a
CONFIRMED commit together with a conflict type.  Every run without these two keeps the row watched.
-/
import CellFlow.Api.CommittedRow
import CellFlow.Api.Scenario

namespace CellFlow

open Runs (Run)

/-! ## Watched rows -/

/-- The transaction may still commit, and nothing has decided it. -/
structure PossiblyBroadcast (db : Store) : Prop where
  onWire : db.execution.submissionStatus.onWire = true
  unsettled : db.settlementReady = false
  not_conflicted : db.execution.workflowStatus ≠ .conflicted
  not_expired : db.execution.workflowStatus ≠ .expired
  not_rejected : db.execution.chainStatus ≠ .rejected

/-- The row is due at some time, from which on it is claimed whenever no lease is held. -/
def Watched (db : Store) : Prop :=
  ∃ due, db.execution.nextReconcileAt = some due ∧
    ∀ (now : Int) (lease : Option Int), due ≤ now → (∀ held, lease = some held → held < now) →
      claimable { db.execution with reconcileLeaseUntil := lease } now = true

/-- A possibly-broadcast row is claimable as soon as it is due. -/
theorem PossiblyBroadcast.watched {db : Store} (h : PossiblyBroadcast db)
    (hnext : db.execution.nextReconcileAt ≠ none) : Watched db := by
  obtain ⟨due, hdue⟩ := Option.ne_none_iff_exists'.mp hnext
  refine ⟨due, hdue, fun now lease hle hfree => ?_⟩
  have hsub : db.execution.submissionStatus ≠ .nodeRejected := by
    intro hs
    have hw := h.onWire
    rw [hs] at hw
    cases hw
  cases lease with
  | none => simp [claimable, hdue, hle, h.not_conflicted, h.not_expired, h.not_rejected, hsub]
  | some held =>
      have hheld : held < now := hfree held rfl
      simp [claimable, hdue, hle, h.not_conflicted, h.not_expired, h.not_rejected, hsub, hheld]

/-! ## The condition on one operation -/

section Condition

variable (env : ReconcileEnv) (view : IntentAggregate) (bundle : RpcObservationBundle)

/-- The answer leaves a conflict type: an adverse inspection, or the one on record where the
transaction was not found and its inputs were not seen live. -/
def keepsConflict : Prop :=
  adverseInspection view bundle ∨
    (view.execution.conflictType ≠ none ∧ bundle.observation.status.found = false ∧
      ∀ inspection, bundle.inputInspection = some inspection → inspection.state ≠ .allLive)

/-- The inspection finds the inputs terminally spent. -/
def terminalSpend : Prop :=
  ∃ inspection, bundle.inputInspection = some inspection ∧ inspection.state = .canonicallySpent ∧
    spendTerminal env view inspection = true

/-- No expected Cell is in doubt: none is required, they were verified for a settled row, or they
verify now. -/
def assertionsStand : Prop :=
  view.intent.expectedCells = [] ∨
    (view.execution.settlementReadyAt.isSome ∧ view.execution.assertionStatus = some .verified) ∨
    (evaluation env view bundle).status = .verified

/-- The answer keeps a CONFIRMED commit and a conflict type beside it. -/
structure strands : Prop where
  onWire : view.execution.submissionStatus.onWire = true
  confirmed : view.execution.workflowStatus = .confirmed
  preserved : preservesCommit (snapshotFromExecution view.execution) bundle.observation = true
  conflict : keepsConflict view bundle
  open_ : ¬ terminalSpend env view bundle
  asserted : assertionsStand env view bundle

/-- A broadcast is reported on a row that is neither scheduled nor settled. -/
def startsUnscheduled (req : MarkRequest) : Prop :=
  req.status = .broadcasting ∧ view.execution.nextReconcileAt = none ∧
    isSettlementReady (snapshotFromExecution view.execution) view.execution.assertionStatus
      view.intent.expectedCells.length view.execution.conflictType = false

/-- The operation keeps possibly-broadcast rows scheduled. -/
def keepsWatch : Op → Prop
  | .mark req _ => ¬ startsUnscheduled view req
  | .observe env => ∀ txHash bundle, view.execution.txHash = some txHash →
      env.observe txHash = .ok bundle → ¬ strands env view bundle
  | _ => True

end Condition

variable {env : ReconcileEnv} {view : IntentAggregate} {bundle : RpcObservationBundle}
  {db t : Store}

/-- Where no payload differs, a conflict type is left only by an answer that keeps one. -/
theorem keepsConflict_of_leaves (hm : signedPayloadMismatch env view bundle = none)
    (h : (conflictVerdict env view bundle).leaves env view view.execution.conflictType
      view.execution.conflictDetails ≠ none) :
    bundle.observation.status.found = false ∧ keepsConflict view bundle := by
  have hfound : bundle.observation.status.found = false := by
    by_contra hne
    rw [conflictVerdict_found hm (by simpa using hne)] at h
    exact h rfl
  refine ⟨hfound, ?_⟩
  by_cases ha : adverseInspection view bundle
  · exact Or.inl ha
  have hnone := (leaves_eq_none_iff hm).mpr ha
  have hrecorded : view.execution.conflictType ≠ none := fun hc => h (by rw [hc]; exact hnone)
  refine Or.inr ⟨hrecorded, hfound, fun inspection hi hlive => h ?_⟩
  rw [conflictVerdict_inspected hm hi, inspectedVerdict, hlive]
  rfl

/-- A terminal spend marks the snapshot. -/
theorem conflicts_of_terminalSpend (hm : signedPayloadMismatch env view bundle = none)
    (h : terminalSpend env view bundle) :
    (conflictVerdict env view bundle).conflicts env view = true := by
  obtain ⟨inspection, hi, hs, ht⟩ := h
  rw [conflictVerdict_inspected hm hi, inspectedVerdict, hs]
  exact ht

/-- An answer that did not find the transaction keeps the submission status. -/
theorem not_superseded (hf : bundle.observation.status.found = false) :
    rejectionSuperseded view bundle = false := by
  simp [rejectionSuperseded, hf]

/-- **An unscheduled plan**: where a backed row ends possibly broadcast, unsettled and without a next
check, its answer stranded it. -/
theorem strands_of_unscheduled {txHash : String} {applied : ApplyObservationResult}
    (hb : CommitBacked (snapshotFromExecution view.execution))
    (happ : applyChainObservation (snapshotFromExecution view.execution) bundle.observation =
      .ok applied)
    (hnext : nextDelayMs env view bundle (plannedDraft env view bundle txHash applied) = none)
    (hwire : (plannedDraft env view bundle txHash applied).snapshot.submissionStatus.onWire = true)
    (hready : draftReady view (plannedDraft env view bundle txHash applied) = false)
    (hconflicted : (plannedDraft env view bundle txHash applied).snapshot.workflowStatus ≠ .conflicted)
    (hexpired : (plannedDraft env view bundle txHash applied).snapshot.workflowStatus ≠ .expired)
    (hrejected : (plannedDraft env view bundle txHash applied).snapshot.chainStatus ≠ .rejected) :
    strands env view bundle := by
  obtain ⟨hsnap, hreorg, -⟩ := applyChainObservation_ok happ
  have hplan := plannedDraft_snapshot env view bundle txHash applied
  have hsub := observedDraft_submission view bundle applied
    (by rw [hsnap]; simp)
  have htype := plannedDraft_conflictType env view bundle txHash applied
  have hassert := plannedDraft_assertionStatus env view bundle txHash applied
  have hback : CommitBacked (plannedDraft env view bundle txHash applied).snapshot := by
    rw [hplan, hsnap]
    exact (hb.observed bundle.committed_named).replan _ _
  generalize hd : plannedDraft env view bundle txHash applied = draft at *
  have hdsub : draft.snapshot.submissionStatus =
      (observedDraft view bundle applied).snapshot.submissionStatus := by rw [hplan]
  rw [hdsub, hsub] at hwire
  -- only a terminal plan, or one that leaves a node rejection, has no next check
  obtain ⟨hworkflow, hverified⟩ : draft.snapshot.workflowStatus = .confirmed ∧
      (view.intent.expectedCells.length = 0 ∨ draft.assertionStatus = some .verified) := by
    rcases nextDelayMs_eq_none.mp hnext with hterminal | hresolved
    · simp only [terminal, Bool.and_eq_true, isTerminal, hconflicted, hexpired, hrejected, or_self,
        if_false] at hterminal
      by_cases hw : draft.snapshot.workflowStatus = .confirmed
      · exact ⟨hw, by simpa [hw] using hterminal.1.1⟩
      · simp [hw] at hterminal
    · simp only [nodeRejectionConflictResolved, Bool.and_eq_true, decide_eq_true_eq] at hresolved
      have hfound : bundle.observation.status.found = false := by rw [hresolved.1.1.2]; rfl
      rw [not_superseded hfound, hresolved.1.2] at hwire
      cases hwire
  have hconflict : draft.conflictType ≠ none := fun hnone => by
    rw [draftReady, hback.ready_iff.mpr ⟨hworkflow, hnone, hverified⟩] at hready
    cases hready
  -- nothing marked the snapshot, so the observation left it confirmed
  have hstep : stepConflicts env view bundle txHash applied = false := by
    by_contra hne
    rw [hplan] at hworkflow
    simp [hne] at hworkflow
  have happlied : applied.snapshot.workflowStatus = .confirmed := by
    rw [hplan, hstep] at hworkflow
    exact hworkflow
  simp only [stepConflicts, Bool.or_eq_false_iff] at hstep
  obtain ⟨hverdict, hfail⟩ := hstep
  have hm : signedPayloadMismatch env view bundle = none := by
    cases hm : signedPayloadMismatch env view bundle with
    | none => rfl
    | some pair =>
        rw [conflictVerdict_mismatch hm] at hverdict
        cases hverdict
  rw [htype, hfail, if_neg (by simp)] at hconflict
  obtain ⟨hfound, hkeeps⟩ := keepsConflict_of_leaves hm hconflict
  have hpreserved :
      preservesCommit (snapshotFromExecution view.execution) bundle.observation = true := by
    by_contra hne
    rw [hsnap, observedSnapshot, if_neg hne, advancedSnapshot_workflow] at happlied
    cases hs : bundle.observation.status <;> simp [hs] at happlied hfound
    all_goals split at happlied <;> cases happlied
  have hconfirmed : view.execution.workflowStatus = .confirmed := by
    rw [hsnap, observedSnapshot, if_pos hpreserved] at happlied
    by_contra hne
    simp [preservedSnapshot, hne] at happlied
  rw [not_superseded hfound] at hwire
  refine ⟨hwire, hconfirmed, hpreserved, hkeeps, fun hspent => ?_, ?_⟩
  · rw [conflicts_of_terminalSpend hm hspent] at hverdict
    cases hverdict
  · have hdraft := conflictDraft_snapshot env view bundle txHash applied hverdict
    rcases hverified with hzero | hverified
    · exact Or.inl (List.length_eq_zero_iff.mp hzero)
    rw [hassert] at hverified
    split at hverified
    · exact Or.inr (Or.inr (Option.some.inj hverified))
    next hre =>
      by_cases hcells : view.intent.expectedCells = []
      · exact Or.inl hcells
      refine Or.inr (Or.inl (verified_of_not_reevaluated ?_ hcells hre))
      rw [hdraft]
      exact happlied

/-! ## The run -/

/-- What every state of a run satisfies. -/
structure WatchInv (db : Store) : Prop where
  backed : BackedRow db.execution
  scheduled : PossiblyBroadcast db → db.execution.nextReconcileAt ≠ none

theorem watchInv_opening (req : CreateRequest) : WatchInv (serviceCreateIntent req) :=
  ⟨backedRow_opening req, fun h => by cases h.onWire⟩

/-- An attach leaves a prepared row, or schedules it. -/
theorem attach_scheduled {req : AttachRequest} {freshId : String} {now : Int}
    (h : (Op.attach req freshId now).commit view db = some t) (hp : PossiblyBroadcast t) :
    t.execution.nextReconcileAt ≠ none := by
  obtain ⟨normalized, after, _, _, _, hn, -, -, -, -, rfl⟩ := Op.attach_writes h
  have hstatus := (AttachRequest.normalize_ok hn).2.2.2.1
  have hwire := hp.onWire
  rw [AttachInput.attachedStore_execution] at hwire ⊢
  rw [AttachInput.attachedExecution_submission] at hwire
  rw [AttachInput.attachedExecution_nextReconcileAt]
  simp only [NormalizedAttach.input, hstatus] at hwire ⊢
  cases hprepared : req.prepared with
  | true =>
      rw [hprepared] at hwire
      cases hwire
  | false => simp

/-- A report leaves the row off the wire, schedules it, or keeps what a watched row had. -/
theorem mark_scheduled {req : MarkRequest} {now : Int} (hcur : Current view db)
    (hok : ¬ startsUnscheduled view req)
    (h : (Op.mark req now).commit view db = some t) (hp : PossiblyBroadcast t) :
    t.execution.nextReconcileAt ≠ none := by
  obtain ⟨hguard, hm⟩ := Op.mark_commit h
  obtain ⟨after, -, -, -, -, rfl⟩ := markAttempt_ok hm
  by_cases hbroadcast : req.status = .broadcasting
  · have htype : req.failure.bind (·.conflictType) = none := by
      rcases (MarkRequest.guard_ok hguard).2 with hnone | ⟨hrejected, -⟩
      · exact hnone
      · rw [hbroadcast] at hrejected
        cases hrejected
    intro hnone
    refine hok ⟨hbroadcast, ?_, ?_⟩
    · simpa [MarkInput.markedStore, MarkInput.markedExecution, MarkRequest.input,
        MarkRequest.schedules, hbroadcast] using hnone
    · have hunsettled := hp.unsettled
      simp only [Store.settlementReady, MarkInput.markedStore, MarkInput.markedExecution,
        MarkInput.nextConflictType, MarkRequest.input, htype, Option.none_or] at hunsettled
      rw [hcur.execution, hcur.intent]
      rw [hcur.execution] at hunsettled
      exact hunsettled
  · have hschedules : req.schedules = true := by
      have hwire := hp.onWire
      simp only [MarkInput.markedStore, MarkInput.markedExecution, MarkRequest.input] at hwire
      cases hs : req.status with
      | broadcasting => exact absurd hs hbroadcast
      | submitted => simp [MarkRequest.schedules, hs]
      | submissionUnknown => simp [MarkRequest.schedules, hs]
      | nodeRejected =>
          rw [hs] at hwire
          cases hwire
    simp [MarkInput.markedStore, MarkInput.markedExecution, MarkRequest.input, hschedules]

/-- A projection step that strands nothing schedules what it leaves. -/
theorem observe_scheduled {env : ReconcileEnv}
    (hcur : db.execution.version = view.execution.version → Current view db)
    (hb : BackedRow db.execution) (hok : keepsWatch view (.observe env))
    (h : (Op.observe env).commit view db = some t) (hp : PossiblyBroadcast t) :
    t.execution.nextReconcileAt ≠ none := by
  obtain ⟨txHash, result, htx, hproj⟩ := Op.observe_commit h
  obtain ⟨hversion, -, ⟨message, applied, -, -, rfl, -⟩ | ⟨bundle, applied, hanswer, happ, rfl, -⟩⟩ :=
    reconcileProjection_ok hproj
  · simp [failureInput, ApplyInput.appliedStore, ApplyInput.appliedExecution]
  · have hc := hcur hversion
    have hback : CommitBacked (snapshotFromExecution view.execution) := hc.execution ▸ hb.snapshot
    intro hnone
    refine hok txHash bundle htx hanswer
      (strands_of_unscheduled hback happ ?_ hp.onWire ?_ hp.not_conflicted hp.not_expired
        hp.not_rejected)
    · simpa [observedStore, plannedInput, ApplyInput.appliedStore, ApplyInput.appliedExecution]
        using hnone
    · rw [← observedStore_ready hc happ]
      exact hp.unsettled

/-- **One operation** that keeps the watch. -/
theorem watchInv_step {op : Op}
    (hcur : db.execution.version = view.execution.version → Current view db) (hi : WatchInv db)
    (hok : keepsWatch view op) (h : op.commit view db = some t) : WatchInv t := by
  refine ⟨Op.commit_backed hcur hi.backed h, fun hp => ?_⟩
  cases op with
  | attach req freshId now => exact attach_scheduled h hp
  | mark req now =>
      have hversion : db.execution.version = view.execution.version :=
        (markAttempt_ok (Op.mark_commit h).2).choose_spec.2.2.1
      exact mark_scheduled (hcur hversion) hok h hp
  | observe env => exact observe_scheduled hcur hi.backed hok h hp
  | probe env index =>
      obtain ⟨candidate, -, ⟨input, -, rfl⟩ | ⟨input, -, hpromote⟩⟩ := Op.probe_commit h
      · exact hi.scheduled ⟨hp.onWire, hp.unsettled, hp.not_conflicted, hp.not_expired,
          hp.not_rejected⟩
      · obtain ⟨-, -, rfl⟩ := promoteAttemptProjection_ok hpromote
        simp [PromoteInput.promotedStore, PromoteInput.promotedExecution]
  | preflight verified reason rawObservation now =>
      cases h
      exact hi.scheduled ⟨hp.onWire, hp.unsettled, hp.not_conflicted, hp.not_expired,
        hp.not_rejected⟩
  | operatorNote text now =>
      cases h
      exact hi.scheduled ⟨hp.onWire, hp.unsettled, hp.not_conflicted, hp.not_expired,
        hp.not_rejected⟩

/-- **No possibly-broadcast transaction is left unscheduled**, in any interleaving of operations
that keep the watch. -/
theorem possibly_broadcast_watched {req : CreateRequest} {acts : List Act}
    {w : Optimistic.World Store}
    (h : Run (Runs.when (fun _ act => keepsWatch act.view act.op) Step) (opening req) acts w) :
    PossiblyBroadcast w.current → Watched w.current := by
  have hi : WatchInv w.current :=
    machine_inv WatchInv keepsWatch (consistent_opening req) (watchInv_opening req)
      (fun _ _ _ _ hcur hi hok hc => watchInv_step hcur hi hok hc) h
  exact fun hp => hp.watched (hi.scheduled hp)

section Runs

open Scenario

/-- A row that is off the terminal states, by its four columns. -/
theorem possiblyBroadcast_idle {db : Store} (hsub : db.execution.submissionStatus.onWire = true)
    (hready : db.settlementReady = false) (hworkflow : db.execution.workflowStatus = .idle)
    (hchain : db.execution.chainStatus = .unobserved) : PossiblyBroadcast db :=
  ⟨hsub, hready, by simp [hworkflow], by simp [hworkflow], by simp [hchain]⟩

/-- A transaction that was registered as submitted. -/
def tracked : Store := after (.depth 4) [attach 'a' false none [outPoint '1']]

theorem possibly_broadcast_watched_tracked : ∃ acts w,
    Run (Runs.when (fun _ act => keepsWatch act.view act.op) Step)
      (opening (create (.depth 4))) acts w ∧ w.current = tracked ∧ Watched w.current := by
  have hcommit : ((attach 'a' false none [outPoint '1']).commit
      (serviceCreateIntent (create (.depth 4))).aggregate
      (serviceCreateIntent (create (.depth 4)))).isSome := by decide +kernel
  have hrow : tracked.execution.submissionStatus.onWire = true ∧ tracked.settlementReady = false ∧
      tracked.execution.workflowStatus = .idle ∧ tracked.execution.chainStatus = .unobserved := by
    decide +kernel
  have hcommits : Performs keepsWatch (serviceCreateIntent (create (.depth 4)))
      [attach 'a' false none [outPoint '1']] := ⟨trivial, hcommit, trivial⟩
  obtain ⟨acts, w, hrun, hw, -⟩ := run_of_performs [] hcommits
  have hstore : w.current = tracked := hw
  refine ⟨acts, w, hrun, hstore, possibly_broadcast_watched hrun ?_⟩
  rw [hstore]
  exact possiblyBroadcast_idle hrow.1 hrow.2.1 hrow.2.2.1 hrow.2.2.2

/-- A prepared transaction whose broadcast was reported. -/
def broadcast : Store :=
  after (.depth 4) [attach 'a' true none [outPoint '1'], report .broadcasting]

/-- Nothing schedules a prepared transaction whose broadcast is reported. -/
theorem broadcast_unscheduled : ¬ ∀ (req : CreateRequest) (acts : List Act)
    (w : Optimistic.World Store), Run Step (opening req) acts w →
    PossiblyBroadcast w.current → Watched w.current := by
  intro h
  have hcommits : Performs (fun _ _ => True) (serviceCreateIntent (create (.depth 4)))
      [attach 'a' true none [outPoint '1'], report .broadcasting] :=
    performs_of_commitsAll (by decide +kernel)
  have hrow : broadcast.execution.submissionStatus.onWire = true ∧
      broadcast.settlementReady = false ∧ broadcast.execution.workflowStatus = .idle ∧
      broadcast.execution.chainStatus = .unobserved ∧
      broadcast.execution.nextReconcileAt = none := by decide +kernel
  obtain ⟨acts, w, hrun, hw, -⟩ := run_of_performs [] hcommits
  have hstore : w.current = broadcast := hw
  have hbroadcast : PossiblyBroadcast w.current := by
    rw [hstore]
    exact possiblyBroadcast_idle hrow.1 hrow.2.1 hrow.2.2.1 hrow.2.2.2.1
  obtain ⟨due, hdue, -⟩ := h _ acts w hrun.of_when hbroadcast
  rw [hstore, hrow.2.2.2.2] at hdue
  cases hdue

end Runs

end CellFlow
