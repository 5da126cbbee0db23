/-
# CellFlow.Properties.Terminality — what undoes a terminal state.

CONFLICTED and EXPIRED rows refuse every observation, so only the promotion of a committed candidate
leaves them.  A REJECTED row refuses none: a manual reconciliation whose answer is UNKNOWN, or whose
call fails, writes UNKNOWN over the rejection.  Every run of reconciliations without such a step keeps
the three axes of a terminal row until something is found on chain.
-/
import CellFlow.Api.CommittedRow
import CellFlow.Properties.CandidateWatch

namespace CellFlow

open Optimistic (World)
open Runs (Run)

/-! ## Terminal rows and the evidence against them -/

/-- The submission, chain and workflow axes. -/
def ExecutionRecord.axes (row : ExecutionRecord) : SubmissionStatus × ChainStatus × WorkflowStatus :=
  (row.submissionStatus, row.chainStatus, row.workflowStatus)

/-- The overall statuses after which nothing more is expected. -/
def OverallStatus.terminal : OverallStatus → Bool
  | .rejected => true
  | .conflicted => true
  | .expired => true
  | _ => false

/-- The row shows a status that is terminal. -/
def TerminalRow (row : ExecutionRecord) : Prop :=
  (deriveOverallStatus (snapshotFromExecution row)).terminal = true

/-- The step found a transaction on chain: the projected one PENDING, PROPOSED or COMMITTED, or a
candidate COMMITTED.  Such a candidate becomes the projected one unless its payload does not match, which
is not asked here. -/
def Act.finds (act : Act) : Prop :=
  (∃ env txHash bundle, act.op = .observe env ∧ act.view.execution.txHash = some txHash ∧
      env.observe txHash = .ok bundle ∧ bundle.observation.status.found = true) ∨
    ∃ env index candidate observed, act.op = .probe env index ∧
      (rivals act.view)[index]? = some candidate ∧
      env.observeCandidate candidate.txHash = .ok observed ∧
      observed.observation.status = .committed

/-- The steps a reconciliation consists of. -/
def Op.ofReconcile : Op → Prop
  | .observe _ => True
  | .probe _ _ => True
  | _ => False

/-- No UNKNOWN answer and no failed call is applied to a REJECTED row. -/
def sparesRejection (view : IntentAggregate) : Op → Prop
  | .observe env =>
      deriveOverallStatus (snapshotFromExecution view.execution) = .rejected →
        ∃ txHash bundle, view.execution.txHash = some txHash ∧ env.observe txHash = .ok bundle ∧
          bundle.observation.status ≠ .unknown
  | _ => True

/-- Which rows are terminal, by their axes. -/
theorem terminalRow_iff {row : ExecutionRecord} : TerminalRow row ↔
    row.workflowStatus = .conflicted ∨ row.workflowStatus = .expired ∨
      row.chainStatus = .rejected := by
  unfold TerminalRow deriveOverallStatus
  simp only [apply_ite OverallStatus.terminal]
  simp only [OverallStatus.terminal, ite_self, snapshotFromExecution_workflow,
    snapshotFromExecution_chain]
  by_cases hc : row.workflowStatus = .conflicted
  · simp [hc]
  by_cases he : row.workflowStatus = .expired
  · simp [he]
  · simp [hc, he]

theorem terminalRow_of_axes {row row' : ExecutionRecord} (h : row'.axes = row.axes)
    (ht : TerminalRow row) : TerminalRow row' := by
  simp only [ExecutionRecord.axes, Prod.mk.injEq] at h
  rw [terminalRow_iff] at ht ⊢
  rwa [h.2.1, h.2.2]

/-! ## Rejected rows are idle -/

variable {env : ReconcileEnv} {view : IntentAggregate} {bundle : RpcObservationBundle}
  {db t : Store} {txHash : String} {applied : ApplyObservationResult}

/-- The workflow of a chain-rejected row is IDLE. -/
def RejectedIdle (row : ExecutionRecord) : Prop :=
  row.chainStatus = .rejected → row.workflowStatus = .idle

/-- An answer REJECTED marks no conflict. -/
theorem stepConflicts_rejected (hs : bundle.observation.status = .rejected)
    (hw : applied.snapshot.workflowStatus ≠ .confirmed) :
    stepConflicts env view bundle txHash applied = false := by
  have hm : signedPayloadMismatch env view bundle = none := by
    cases hm : signedPayloadMismatch env view bundle with
    | none => rfl
    | some pair =>
        have hf := found_of_mismatch hm
        rw [hs] at hf
        cases hf
  have hi : bundle.inputInspection = none := by
    by_contra hne
    have hu := bundle.inspected_unknown (Option.isSome_iff_ne_none.mpr hne)
    rw [hs] at hu
    cases hu
  have hv : (conflictVerdict env view bundle).conflicts env view = false := by
    rw [conflictVerdict_silent hm (by rw [hs]; rfl) hi]
    rfl
  have hsnap := conflictDraft_snapshot env view bundle txHash applied hv
  simp [stepConflicts, hv, assertionsFail, reevaluates, hsnap, hw]

variable (txHash) in
/-- **A REJECTED answer** that preserves no commit leaves the row REJECTED and IDLE. -/
theorem planned_rejected (hs : bundle.observation.status = .rejected)
    (happ : applyChainObservation (snapshotFromExecution view.execution) bundle.observation =
      .ok applied)
    (hp : preservesCommit (snapshotFromExecution view.execution) bundle.observation = false) :
    (plannedDraft env view bundle txHash applied).snapshot.submissionStatus =
        view.execution.submissionStatus ∧
      (plannedDraft env view bundle txHash applied).snapshot.chainStatus = .rejected ∧
      (plannedDraft env view bundle txHash applied).snapshot.workflowStatus = .idle := by
  obtain ⟨hsnap, -⟩ := applyChainObservation_ok happ
  rw [observedSnapshot, if_neg (by simp [hp])] at hsnap
  have hw : applied.snapshot.workflowStatus = .idle := by
    rw [hsnap, advancedSnapshot_workflow, hs]
  have hsuperseded : rejectionSuperseded view bundle = false := by
    simp [rejectionSuperseded, hs]
  rw [plannedDraft_snapshot, stepConflicts_rejected hs (by simp [hw])]
  refine ⟨?_, ?_, ?_⟩
  · rw [observedDraft_submission view bundle applied (by rw [hsnap]; simp)]
    simp [hsuperseded]
  · show applied.snapshot.chainStatus = .rejected
    rw [hsnap, advancedSnapshot_chain, hs]
    rfl
  · simpa using hw

/-- A plan that ends REJECTED comes from a REJECTED answer. -/
theorem rejected_of_planned (hchain : (plannedDraft env view bundle txHash applied).snapshot.chainStatus =
      .rejected)
    (happ : applyChainObservation (snapshotFromExecution view.execution) bundle.observation =
      .ok applied) :
    bundle.observation.status = .rejected ∧
      preservesCommit (snapshotFromExecution view.execution) bundle.observation = false := by
  obtain ⟨hsnap, -⟩ := applyChainObservation_ok happ
  rw [plannedDraft_snapshot] at hchain
  change applied.snapshot.chainStatus = .rejected at hchain
  rw [hsnap, observedSnapshot] at hchain
  by_cases hp : preservesCommit (snapshotFromExecution view.execution) bundle.observation = true
  · have hcommitted := hp
    simp only [preservesCommit, Bool.and_eq_true, decide_eq_true_eq] at hcommitted
    rw [if_pos hp] at hchain
    have hkept : (snapshotFromExecution view.execution).chainStatus = .rejected := hchain
    rw [hcommitted.1.1] at hkept
    cases hkept
  · rw [if_neg hp, advancedSnapshot_chain] at hchain
    refine ⟨?_, by simpa using hp⟩
    cases hs : bundle.observation.status <;> simp_all

/-- **One operation** leaves a rejected row idle. -/
theorem rejectedIdle_step {op : Op}
    (hcur : db.execution.version = view.execution.version → Current view db)
    (hi : RejectedIdle db.execution) (h : op.commit view db = some t) : RejectedIdle t.execution := by
  cases op with
  | attach req freshId now =>
      obtain ⟨_, _, _, _, _, -, -, -, -, -, rfl⟩ := Op.attach_writes h
      simp only [AttachInput.attachedStore_execution, AttachInput.attachedExecution]
      split
      · intro hchain
        cases hchain
      · exact hi
  | mark req now =>
      obtain ⟨after, -, -, -, -, rfl⟩ := markAttempt_ok (Op.mark_commit h).2
      exact hi
  | observe env =>
      obtain ⟨txHash, result, -, hp⟩ := Op.observe_commit h
      obtain ⟨hversion, -, ⟨message, applied, -, happ, rfl, -⟩ | ⟨bundle, applied, -, happ, rfl, -⟩⟩ :=
        reconcileProjection_ok hp
      · intro hchain
        have hc := hcur hversion
        change applied.snapshot.chainStatus = .rejected at hchain
        rw [(applyChainObservation_ok happ).1, observedSnapshot] at hchain
        split at hchain
        next hkeep =>
          simp only [preservesCommit, Bool.and_eq_true, decide_eq_true_eq] at hkeep
          have hkept : (snapshotFromExecution view.execution).chainStatus = .rejected := hchain
          rw [hkeep.1.1] at hkept
          cases hkept
        · rw [advancedSnapshot_chain] at hchain
          cases hchain
      · intro hchain
        obtain ⟨hs, hkeep⟩ := rejected_of_planned hchain happ
        exact (planned_rejected _ hs happ hkeep).2.2
  | probe env index =>
      obtain ⟨candidate, -, ⟨input, -, rfl⟩ | ⟨input, hj, hp⟩⟩ := Op.probe_commit h
      · exact hi
      · obtain ⟨-, -, rfl⟩ := promoteAttemptProjection_ok hp
        obtain ⟨observed, applied, -, hstatus, -, happ, -, -, hsnap, -⟩ := judgeCandidate_promote hj
        intro hchain
        change input.snapshot.chainStatus = .rejected at hchain
        rw [hsnap, (applyChainObservation_ok happ).1, observedSnapshot_committed hstatus,
          advancedSnapshot_chain, hstatus] at hchain
        cases hchain
  | preflight verified reason rawObservation now =>
      cases h
      exact hi
  | operatorNote text now =>
      cases h
      exact hi

theorem rejectedIdle_run {req : CreateRequest} {acts : List Act} {w : World Store}
    (h : Run Step (opening req) acts w) : RejectedIdle w.current.execution := by
  refine machine_inv (fun db => RejectedIdle db.execution) (fun _ _ => True)
    (consistent_opening req) (fun hchain => by cases hchain) ?_
    (h.mono fun _ _ _ hst => ⟨trivial, hst⟩)
  intro view op db t hcur hi _ hc
  exact rejectedIdle_step hcur hi hc

/-! ## The step -/

/-- A projection step commits only over a row that is neither conflicted nor expired. -/
theorem reconcileProjection_open {result : ReconcileResult}
    (h : reconcileProjection env view txHash db = .ok (t, result)) :
    view.execution.workflowStatus ≠ .conflicted ∧ view.execution.workflowStatus ≠ .expired := by
  obtain ⟨-, -, ⟨_, _, -, happ, -, -⟩ | ⟨_, _, -, happ, -, -⟩⟩ := reconcileProjection_ok h
  · exact (applyChainObservation_ok happ).2.2
  · exact (applyChainObservation_ok happ).2.2

/-- **One step of a reconciliation** on a terminal row finds something, or keeps the axes. -/
theorem terminal_step {w w' : World Store} {act : Act}
    (hcons : w.Consistent rowVersion guardedRows) (hidle : RejectedIdle w.current.execution)
    (ht : TerminalRow w.current.execution) (hop : act.op.ofReconcile)
    (hok : sparesRejection act.view act.op) (h : Step w act w') :
    act.finds ∨ w'.current.execution.axes = w.current.execution.axes := by
  obtain ⟨hrows, -, t, hc, rfl⟩ := h
  rw [World.commit_current]
  cases hact : act.op with
  | observe env =>
      rw [hact] at hc hok
      obtain ⟨txHash, result, htx, hp⟩ := Op.observe_commit hc
      obtain ⟨hconflicted, hexpired⟩ := reconcileProjection_open hp
      obtain ⟨hversion, -, hwritten⟩ := reconcileProjection_ok hp
      have hcur := current_of_version hcons hrows hversion
      rw [← hcur.execution] at ht hidle ⊢
      have hrejected : act.view.execution.chainStatus = .rejected := by
        rcases terminalRow_iff.mp ht with hw | hw | hchain
        · exact absurd hw hconflicted
        · exact absurd hw hexpired
        · exact hchain
      obtain ⟨txHash', bundle, htx', hanswer, hknown⟩ := hok (by
        simp [deriveOverallStatus, hconflicted, hexpired, hrejected])
      obtain rfl : txHash' = txHash := Option.some.inj (htx'.symm.trans htx)
      by_cases hf : bundle.observation.status.found = true
      · exact Or.inl (Or.inl ⟨env, txHash', bundle, hact, htx, hanswer, hf⟩)
      -- the answer is REJECTED once more
      refine Or.inr ?_
      have hs : bundle.observation.status = .rejected := by
        cases hs : bundle.observation.status <;> simp_all
      rcases hwritten with ⟨message, applied, hfailure, -⟩ | ⟨bundle', applied, hanswer', happ, rfl, -⟩
      · rw [hanswer] at hfailure
        cases hfailure
      · obtain rfl : bundle = bundle' := Except.ok.inj (hanswer.symm.trans hanswer')
        have hp' : preservesCommit (snapshotFromExecution act.view.execution) bundle.observation =
            false := by
          simp [preservesCommit, hrejected]
        obtain ⟨hsub, hchain, hworkflow⟩ := planned_rejected txHash' hs happ hp'
        have haxes : (plannedDraft env act.view bundle txHash' applied).snapshot.workflowStatus =
            act.view.execution.workflowStatus := hworkflow.trans (hidle hrejected).symm
        rw [← hrejected] at hchain
        exact Prod.ext hsub (Prod.ext hchain haxes)
  | probe env index =>
      rw [hact] at hc
      obtain ⟨candidate, hindex, ⟨input, -, rfl⟩ | ⟨input, hj, -⟩⟩ := Op.probe_commit hc
      · exact Or.inr rfl
      · obtain ⟨observed, _, hobserved, hstatus, -⟩ := judgeCandidate_promote hj
        exact Or.inl (Or.inr ⟨env, index, candidate, observed, hact, hindex, hobserved, hstatus⟩)
  | attach req freshId now => rw [hact] at hop; exact absurd hop id
  | mark req now => rw [hact] at hop; exact absurd hop id
  | preflight verified reason rawObservation now => rw [hact] at hop; exact absurd hop id
  | operatorNote text now => rw [hact] at hop; exact absurd hop id

/-! ## The run -/

/-- **Terminal states are not undone by absence of evidence**: from any reachable terminal row, every
run of reconciliations that spares a rejection either keeps the three axes or has found something on
chain. -/
theorem terminal_kept {req : CreateRequest} {before acts : List Act} {w₀ w : World Store}
    (hbefore : Run Step (opening req) before w₀) (ht : TerminalRow w₀.current.execution)
    (h : Run (Runs.when
      (fun _ act => act.op.ofReconcile ∧ sparesRejection act.view act.op) Step) w₀ acts w) :
    (∃ act ∈ acts, act.finds) ∨ w.current.execution.axes = w₀.current.execution.axes := by
  refine h.history (fun acts w => (∃ act ∈ acts, act.finds) ∨
    w.current.execution.axes = w₀.current.execution.axes) (Or.inr rfl) ?_
  rintro acts w act w' hrun hi ⟨⟨hop, hok⟩, hstep⟩
  rcases hi with ⟨found, hmem, hfinds⟩ | haxes
  · exact Or.inl ⟨found, List.mem_append_left _ hmem, hfinds⟩
  · have hreached : Run Step (opening req) (before ++ acts) w := hbefore.append hrun.of_when
    rcases terminal_step (consistent_run (consistent_opening req) hreached)
      (rejectedIdle_run hreached) (terminalRow_of_axes haxes ht) hop hok hstep with hfinds | hkept
    · exact Or.inl ⟨act, by simp, hfinds⟩
    · exact Or.inr (hkept.trans haxes)

section Runs

open Scenario

/-- A tracked transaction that the node rejected. -/
def rejectedOnce : List Op :=
  [attach 'a' false none [outPoint '1'], .observe (node (.ok rejectedAnswer))]

theorem rejected_run : ∃ acts past,
    Run Step (opening (create (.depth 4))) acts ⟨after (.depth 4) rejectedOnce, past⟩ :=
  run_after (by decide +kernel)

/-- The rejection is repeated. -/
theorem terminal_kept_rejected :
    (perform (after (.depth 4) rejectedOnce)
        (.observe (node (.ok rejectedAnswer)))).execution.axes =
      (after (.depth 4) rejectedOnce).execution.axes := by
  have hrow : ((Op.observe (node (.ok rejectedAnswer))).commit
        (after (.depth 4) rejectedOnce).aggregate (after (.depth 4) rejectedOnce)).isSome ∧
      (after (.depth 4) rejectedOnce).execution.chainStatus = .rejected ∧
      (after (.depth 4) rejectedOnce).execution.txHash = some (hashOf 'a') := by
    decide +kernel
  obtain ⟨hcommit, hchain, htx⟩ := hrow
  obtain ⟨acts, past, hrun⟩ := rejected_run
  generalize after (.depth 4) rejectedOnce = db at *
  have hstep : Step ⟨db, past⟩ ⟨db, db, .observe (node (.ok rejectedAnswer))⟩
      ⟨perform db (.observe (node (.ok rejectedAnswer))), db :: past⟩ :=
    step_alone (perform_commit hcommit)
  have hlater : Run (Runs.when
      (fun _ act => act.op.ofReconcile ∧ sparesRejection act.view act.op) Step) ⟨db, past⟩
      [⟨db, db, .observe (node (.ok rejectedAnswer))⟩]
      ⟨perform db (.observe (node (.ok rejectedAnswer))), db :: past⟩ :=
    Run.single ⟨⟨trivial, fun _ => ⟨_, _, htx, rfl, by simp [rejectedAnswer]⟩⟩, hstep⟩
  rcases terminal_kept hrun (terminalRow_iff.mpr (Or.inr (Or.inr hchain))) hlater with
    ⟨act, hmem, hfinds⟩ | hkept
  · rw [List.mem_singleton] at hmem
    subst hmem
    rcases hfinds with ⟨_, _, _, hop, -, hanswer, hf⟩ | ⟨_, _, _, _, hop, -⟩
    · cases hop
      cases hanswer
      cases hf
    · cases hop
  · exact hkept

/-- A failed call makes the rejected row unresolved again. -/
theorem rejection_undone : ¬ ∀ (req : CreateRequest) (before acts : List Act) (w₀ w : World Store),
    Run Step (opening req) before w₀ → TerminalRow w₀.current.execution →
    Run (Runs.when (fun _ act => act.op.ofReconcile) Step) w₀ acts w →
    (∃ act ∈ acts, act.finds) ∨ w.current.execution.axes = w₀.current.execution.axes := by
  intro h
  have hrow : ((Op.observe (node (.error "connection refused"))).commit
        (after (.depth 4) rejectedOnce).aggregate (after (.depth 4) rejectedOnce)).isSome ∧
      (after (.depth 4) rejectedOnce).execution.chainStatus = .rejected ∧
      (perform (after (.depth 4) rejectedOnce)
        (.observe (node (.error "connection refused")))).execution.axes =
          (.submitted, .unknown, .reconciling) := by
    decide +kernel
  obtain ⟨hcommit, hchain, haxes⟩ := hrow
  obtain ⟨acts, past, hrun⟩ := rejected_run
  generalize after (.depth 4) rejectedOnce = db at *
  have hstep : Step ⟨db, past⟩ ⟨db, db, .observe (node (.error "connection refused"))⟩
      ⟨perform db (.observe (node (.error "connection refused"))), db :: past⟩ :=
    step_alone (perform_commit hcommit)
  have hlater : Run (Runs.when (fun _ act => act.op.ofReconcile) Step) ⟨db, past⟩
      [⟨db, db, .observe (node (.error "connection refused"))⟩]
      ⟨perform db (.observe (node (.error "connection refused"))), db :: past⟩ :=
    Run.single ⟨trivial, hstep⟩
  rcases h _ _ _ _ _ hrun (terminalRow_iff.mpr (Or.inr (Or.inr hchain))) hlater with
    ⟨act, hmem, hfinds⟩ | hkept
  · rw [List.mem_singleton] at hmem
    subst hmem
    rcases hfinds with ⟨_, _, _, hop, -, hanswer, -⟩ | ⟨_, _, _, _, hop, -⟩
    · cases hop
      cases hanswer
    · cases hop
  · have hunresolved : db.execution.axes = (.submitted, .unknown, .reconciling) :=
      hkept.symm.trans haxes
    simp [ExecutionRecord.axes, hchain] at hunresolved

end Runs

end CellFlow
