/-
# CellFlow.Properties.ProjectFigures — what the figures of a project count.

Over any interleaving of requests and reconciliations the workflow status of a row fixes which chain
statuses it can stand with (`ChainAllowed`); EXPIRED is never written.  On such rows the figures of
`getProjectMetrics` split the intents of a project exactly, and count what the API shows of each
(`project_figures`): the clamp of `active` at zero is never reached.
-/
import CellFlow.Api.CommittedRow
import CellFlow.Api.Scenario
import CellFlow.Db.ProjectHealth

namespace CellFlow

open Optimistic (World)
open Runs (Run)

/-! ## The axes of a row -/

/-- The chain statuses a workflow status stands with. -/
def ChainAllowed : WorkflowStatus → ChainStatus → Prop
  | .idle, chain => chain = .unobserved ∨ chain = .rejected
  | .reconciling, chain => chain ≠ .unobserved ∧ chain ≠ .rejected
  | .waitingConfirmations, chain => chain = .committed
  | .confirmed, chain => chain = .committed
  | .reorged, chain => chain = .unknown ∨ chain = .pending ∨ chain = .proposed
  | .conflicted, chain => chain ≠ .unobserved
  | .expired, _ => False

/-- An observation leaves the transaction observed. -/
theorem observedSnapshot_chain_ne (s : ExecutionSnapshot) (o : ChainObservation) :
    (observedSnapshot s o).chainStatus ≠ .unobserved := by
  unfold observedSnapshot
  split
  next hp =>
    simp only [preservesCommit, Bool.and_eq_true, decide_eq_true_eq] at hp
    show s.chainStatus ≠ .unobserved
    rw [hp.1.1]
    decide
  · rw [advancedSnapshot_chain]
    cases o.status <;> decide

/-- **An observation** leaves axes that agree, whatever it is applied to. -/
theorem observedSnapshot_allowed (s : ExecutionSnapshot) (o : ChainObservation) :
    ChainAllowed (observedSnapshot s o).workflowStatus (observedSnapshot s o).chainStatus := by
  unfold observedSnapshot
  split
  next hp =>
    -- a preserved commit stays COMMITTED, and is confirmed or looked at again
    simp only [preservesCommit, Bool.and_eq_true, decide_eq_true_eq] at hp
    show ChainAllowed (if s.workflowStatus = .confirmed then .confirmed else .reconciling)
      s.chainStatus
    rw [hp.1.1]
    split
    · rfl
    · exact ⟨by decide, by decide⟩
  · rw [advancedSnapshot_workflow, advancedSnapshot_chain]
    cases o.status with
    | committed =>
        simp only
        split <;> rfl
    | rejected => exact Or.inr rfl
    | unknown =>
        simp only
        split
        · exact Or.inl rfl
        · exact ⟨by decide, by decide⟩
    | pending =>
        simp only
        split
        · exact Or.inr (Or.inl rfl)
        · exact ⟨by decide, by decide⟩
    | proposed =>
        simp only
        split
        · exact Or.inr (Or.inr rfl)
        · exact ⟨by decide, by decide⟩

/-- The workflow status is one its chain status allows. -/
def AxesAgree (row : ExecutionRecord) : Prop := ChainAllowed row.workflowStatus row.chainStatus

section Steps

variable {view : IntentAggregate} {db t : Store}

theorem AxesAgree.attached {input : AttachInput} {attemptId : String} {number : Nat}
    {attempts : List TransactionAttemptRecord} (h : AxesAgree db.execution) :
    AxesAgree (input.attachedStore db attemptId number attempts).execution := by
  simp only [AttachInput.attachedStore, AttachInput.attachedExecution]
  split
  · exact Or.inl rfl
  · exact h

/-- **One operation** leaves axes that agree. -/
theorem Op.commit_axes {op : Op} (hi : AxesAgree db.execution) (h : op.commit view db = some t) :
    AxesAgree t.execution := by
  cases op with
  | attach req freshId now =>
      obtain ⟨_, _, _, _, _, -, -, -, -, -, rfl⟩ := Op.attach_writes h
      exact hi.attached
  | mark req now =>
      obtain ⟨-, hm⟩ := Op.mark_commit h
      obtain ⟨after, -, -, -, -, rfl⟩ := markAttempt_ok hm
      exact hi
  | observe env =>
      -- a failure to observe is applied as an observation of its own
      obtain ⟨txHash, result, -, hp⟩ := Op.observe_commit h
      obtain ⟨-, -, ⟨message, applied, -, happ, rfl, -⟩ | ⟨bundle, applied, -, happ, rfl, -⟩⟩ :=
        reconcileProjection_ok hp
      · obtain ⟨hsnap, -⟩ := applyChainObservation_ok happ
        show ChainAllowed applied.snapshot.workflowStatus applied.snapshot.chainStatus
        rw [hsnap]
        exact observedSnapshot_allowed _ _
      · obtain ⟨hsnap, -⟩ := applyChainObservation_ok happ
        show ChainAllowed (plannedDraft env view bundle txHash applied).snapshot.workflowStatus
          (plannedDraft env view bundle txHash applied).snapshot.chainStatus
        rw [plannedDraft_snapshot, hsnap]
        simp only
        split
        · -- an input conflict makes the workflow CONFLICTED, on what was observed
          exact observedSnapshot_chain_ne _ _
        · exact observedSnapshot_allowed _ _
  | probe env index =>
      obtain ⟨candidate, -, ⟨input, -, rfl⟩ | ⟨input, hj, hp⟩⟩ := Op.probe_commit h
      · exact hi
      · obtain ⟨-, -, rfl⟩ := promoteAttemptProjection_ok hp
        obtain ⟨observed, applied, -, -, -, happ, -, -, hsnap, -⟩ := judgeCandidate_promote hj
        show ChainAllowed input.snapshot.workflowStatus input.snapshot.chainStatus
        rw [hsnap, (applyChainObservation_ok happ).1]
        exact observedSnapshot_allowed _ _
  | preflight verified reason rawObservation now =>
      cases h
      exact hi
  | operatorNote text now =>
      cases h
      exact hi

end Steps

/-- **Every run.** -/
theorem axesAgree_run {req : CreateRequest} {acts : List Act} {w : World Store}
    (h : Run Step (opening req) acts w) : AxesAgree w.current.execution := by
  have hopening : AxesAgree (serviceCreateIntent req).execution := by
    show ChainAllowed .idle .unobserved
    exact Or.inl rfl
  refine h.inv (fun w => AxesAgree w.current.execution) hopening ?_
  rintro w act w' hi ⟨-, -, t, hc, rfl⟩
  exact Op.commit_axes hi hc

/-! ## Counting -/

/-- A kind that splits into two. -/
theorem countP_split {α : Type} {p q r : α → Bool} {items : List α}
    (h : ∀ a ∈ items, p a = (q a || r a)) (hne : ∀ a ∈ items, q a = true → r a = false) :
    items.countP p = items.countP q + items.countP r := by
  have hq : (items.filter p).countP q = items.countP q := by
    rw [List.countP_filter]
    refine List.countP_congr fun a ha => ?_
    rw [h a ha, Bool.and_or_distrib_left, Bool.and_self, Bool.or_eq_true, Bool.and_eq_true]
    exact ⟨fun hor => hor.elim id And.left, Or.inl⟩
  have hr : (items.filter p).countP (fun a => ¬q a) = items.countP r := by
    rw [List.countP_filter]
    refine List.countP_congr fun a ha => ?_
    have hnea := hne a ha
    rw [h a ha]
    cases hqa : q a with
    | true => simp [hnea hqa]
    | false => simp
  rw [List.countP_eq_length_filter, List.length_eq_countP_add_countP q, hq, hr]

/-- Two kinds that exclude each other, and the rest. -/
theorem length_eq_countP {α : Type} {p q : α → Bool} {items : List α}
    (h : ∀ a ∈ items, p a = true → q a = false) :
    items.length = items.countP p + items.countP q + items.countP fun a => !p a && !q a := by
  have heither : items.countP (fun a => p a || q a) = items.countP p + items.countP q :=
    countP_split (fun a _ => rfl) h
  have hall : items.countP (fun _ => true) = items.countP (fun a => p a || q a) +
      items.countP fun a => !p a && !q a := by
    refine countP_split (fun a _ => ?_) fun a _ ha => ?_
    · cases p a <;> cases q a <;> rfl
    · rw [← Bool.not_or, ha]
      rfl
  rw [List.countP_true] at hall
  omega

/-! ## The figures -/

/-- The status the API shows of a row. -/
def ProjectExecutionRow.status (row : ProjectExecutionRow) : OverallStatus :=
  deriveOverallStatus (snapshotFromExecution row.execution)

section Row

variable {row : ProjectExecutionRow}

theorem isConfirmed_iff : row.isConfirmed = true ↔ row.execution.workflowStatus = .confirmed ∧
    (row.expectedCells.length = 0 ∨ row.execution.assertionStatus = some .verified) := by
  simp only [ProjectExecutionRow.isConfirmed, Bool.and_eq_true, Bool.or_eq_true, decide_eq_true_eq,
    List.isEmpty_iff, List.length_eq_zero_iff]

theorem isTerminalFailure_iff : row.isTerminalFailure = true ↔
    row.execution.workflowStatus = .conflicted ∨ row.execution.workflowStatus = .expired ∨
      row.execution.chainStatus = .rejected ∨
      (row.execution.submissionStatus = .nodeRejected ∧
        (row.execution.chainStatus = .unobserved ∨ row.execution.chainStatus = .unknown)) := by
  simp only [ProjectExecutionRow.isTerminalFailure, Bool.or_eq_true, Bool.and_eq_true,
    decide_eq_true_eq, or_assoc]

/-- The overall status of a failure: the failure itself, or the reorg a rejected broadcast went
through. -/
theorem failure_overall {s : ExecutionSnapshot} (h : ChainAllowed s.workflowStatus s.chainStatus) :
    (s.workflowStatus = .conflicted ∨ s.workflowStatus = .expired ∨ s.chainStatus = .rejected ∨
      (s.submissionStatus = .nodeRejected ∧
        (s.chainStatus = .unobserved ∨ s.chainStatus = .unknown))) ↔
    (deriveOverallStatus s = .conflicted ∨ deriveOverallStatus s = .rejected ∨
      deriveOverallStatus s = .nodeRejected ∨
      (deriveOverallStatus s = .reorged ∧ s.submissionStatus = .nodeRejected ∧
        s.chainStatus = .unknown)) := by
  obtain ⟨submission, chain, workflow, _, _, _, _, _⟩ := s
  simp only at h
  cases workflow with
  | conflicted => simp [deriveOverallStatus]
  | expired => exact h.elim
  | confirmed =>
      obtain rfl : chain = .committed := h
      simp [deriveOverallStatus]
  | waitingConfirmations =>
      obtain rfl : chain = .committed := h
      simp [deriveOverallStatus]
  | reorged =>
      obtain rfl | rfl | rfl : chain = .unknown ∨ chain = .pending ∨ chain = .proposed := h
      · simp [deriveOverallStatus]
      · simp [deriveOverallStatus]
      · simp [deriveOverallStatus]
  | idle =>
      obtain rfl | rfl : chain = .unobserved ∨ chain = .rejected := h
      · cases submission <;> simp [deriveOverallStatus]
      · simp [deriveOverallStatus]
  | reconciling =>
      obtain ⟨hobserved, hrejected⟩ : chain ≠ .unobserved ∧ chain ≠ .rejected := h
      cases chain with
      | unobserved => exact absurd rfl hobserved
      | rejected => exact absurd rfl hrejected
      | unknown => cases submission <;> simp [deriveOverallStatus]
      | pending => simp [deriveOverallStatus]
      | proposed => simp [deriveOverallStatus]
      | committed => simp [deriveOverallStatus]

theorem failure_status (h : AxesAgree row.execution) : row.isTerminalFailure = true ↔
    row.status = .conflicted ∨ row.status = .rejected ∨ row.status = .nodeRejected ∨
      (row.status = .reorged ∧ row.execution.submissionStatus = .nodeRejected ∧
        row.execution.chainStatus = .unknown) := by
  rw [isTerminalFailure_iff]
  exact failure_overall (s := snapshotFromExecution row.execution) h

/-- EXPIRED is shown of an expired workflow only. -/
theorem overall_ne_expired {s : ExecutionSnapshot} (h : s.workflowStatus ≠ .expired) :
    deriveOverallStatus s ≠ .expired := by
  have hite : ∀ {c : Prop} [Decidable c] {a b : OverallStatus}, a ≠ .expired → b ≠ .expired →
      (if c then a else b) ≠ .expired := by
    intro c _ a b ha hb
    split
    · exact ha
    · exact hb
  rw [deriveOverallStatus, if_neg h]
  repeat refine hite (by decide) ?_
  decide

theorem status_ne_expired (h : AxesAgree row.execution) : row.status ≠ .expired := by
  refine overall_ne_expired fun hw => ?_
  rw [snapshotFromExecution_workflow] at hw
  rw [AxesAgree, hw] at h
  exact h

/-- A confirmed row is COMMITTED, is shown CONFIRMED, and is no failure. -/
theorem confirmed_status (h : AxesAgree row.execution) (hconfirmed : row.isConfirmed = true) :
    row.status = .confirmed ∧ row.isTerminalFailure = false := by
  obtain ⟨hw, -⟩ := isConfirmed_iff.mp hconfirmed
  have hchain : row.execution.chainStatus = .committed := by
    rw [AxesAgree, hw] at h
    exact h
  constructor
  · simp [ProjectExecutionRow.status, deriveOverallStatus, hw, hchain]
  · rw [← Bool.not_eq_true, isTerminalFailure_iff]
    simp [hw, hchain]

end Row

/-! ### Settlement -/

/-- The settlement verdict the API shows of a row. -/
def ProjectExecutionRow.isSettled (row : ProjectExecutionRow) : Bool :=
  isSettlementReady (snapshotFromExecution row.execution) row.execution.assertionStatus
    row.expectedCells.length row.execution.conflictType

theorem isSettled_iff {row : ProjectExecutionRow} (h : BackedRow row.execution) :
    row.isSettled = true ↔ row.isConfirmed = true ∧ row.execution.conflictType = none := by
  rw [ProjectExecutionRow.isSettled, h.snapshot.ready_iff, isConfirmed_iff,
    snapshotFromExecution_workflow]
  constructor
  · rintro ⟨hw, hconflict, hassertions⟩
    exact ⟨⟨hw, hassertions⟩, hconflict⟩
  · rintro ⟨⟨hw, hassertions⟩, hconflict⟩
    exact ⟨hw, hconflict, hassertions⟩

/-- A confirmed row is settled, or has a conflict on record. -/
theorem isConfirmed_split {row : ProjectExecutionRow} (h : BackedRow row.execution) :
    row.isConfirmed =
      (row.isSettled || (row.isConfirmed && row.execution.conflictType.isSome)) := by
  have hsettled := isSettled_iff h
  rw [Bool.eq_iff_iff, Bool.or_eq_true, Bool.and_eq_true, hsettled]
  cases row.execution.conflictType with
  | none => simp
  | some conflict => simp

/-! ### A project -/

/-- Every row a project has is one that some run of its intent has left. -/
def ReachedRows (rows : List ProjectExecutionRow) : Prop :=
  ∀ row ∈ rows, ∃ req acts w, Run Step (opening req) acts w ∧ row.execution = w.current.execution

/-- What the figures of a project say of its rows. -/
structure FiguresExact (rows : List ProjectExecutionRow) (metrics : ProjectMetrics) : Prop where
  /-- every intent is counted confirmed, failed or active, and none twice -/
  split : metrics.total =
    metrics.confirmed + rows.countP (·.isTerminalFailure) + metrics.active
  active : metrics.active = rows.countP fun row => !row.isConfirmed && !row.isTerminalFailure
  attention : rows.countP (·.isTerminalFailure) ≤ metrics.attention
  /-- the confirmed ones are the settled ones and those with a conflict on record -/
  settled : metrics.confirmed = rows.countP (·.isSettled) +
    rows.countP fun row => row.isConfirmed && row.execution.conflictType.isSome
  confirmedShown : ∀ row ∈ rows, row.isConfirmed = true → row.status = .confirmed
  failureShown : ∀ row ∈ rows, row.isTerminalFailure = true ↔
    row.status = .conflicted ∨ row.status = .rejected ∨ row.status = .nodeRejected ∨
      (row.status = .reorged ∧ row.execution.submissionStatus = .nodeRejected ∧
        row.execution.chainStatus = .unknown)
  neverExpired : ∀ row ∈ rows, row.status ≠ .expired

/-- **The figures of a project**, whatever has run on each of its intents. -/
theorem project_figures {projectId : String} {tables : ProjectTables}
    (h : ReachedRows (tables.executionsOf projectId)) :
    FiguresExact (tables.executionsOf projectId) (getProjectMetrics projectId tables) := by
  have haxes : ∀ row ∈ tables.executionsOf projectId, AxesAgree row.execution := by
    intro row hrow
    obtain ⟨req, acts, w, hrun, hrow⟩ := h row hrow
    rw [hrow]
    exact axesAgree_run hrun
  have hbacked : ∀ row ∈ tables.executionsOf projectId, BackedRow row.execution := by
    intro row hrow
    obtain ⟨req, acts, w, hrun, hrow⟩ := h row hrow
    rw [hrow]
    exact (backedWorld_run hrun).backed
  have hlength : (tables.executionsOf projectId).length =
      (tables.executionsOf projectId).countP (·.isConfirmed) +
        (tables.executionsOf projectId).countP (·.isTerminalFailure) +
        (tables.executionsOf projectId).countP fun row =>
          !row.isConfirmed && !row.isTerminalFailure :=
    length_eq_countP fun row hrow hconfirmed => (confirmed_status (haxes row hrow) hconfirmed).2
  have htotal : (getProjectMetrics projectId tables).total =
      (tables.executionsOf projectId).length := rfl
  have hconfirmed : (getProjectMetrics projectId tables).confirmed =
      (tables.executionsOf projectId).countP (·.isConfirmed) := rfl
  have hactive : (getProjectMetrics projectId tables).active =
      (tables.executionsOf projectId).length -
        (tables.executionsOf projectId).countP (·.isConfirmed) -
        (tables.executionsOf projectId).countP (·.isTerminalFailure) := rfl
  refine ⟨?_, ?_, ?_, ?_, ?_, ?_, ?_⟩
  · omega
  · omega
  · -- every kind of failure is one of the kinds that ask for attention
    refine List.countP_mono_left fun row _ hfailed => ?_
    rw [isTerminalFailure_iff] at hfailed
    simp only [ProjectExecutionRow.needsAttention, Bool.or_eq_true, decide_eq_true_eq]
    rcases hfailed with hw | hw | hc | ⟨hs, -⟩
    · exact Or.inl (Or.inr (Or.inl (Or.inr hw)))
    · exact Or.inl (Or.inr (Or.inr hw))
    · exact Or.inl (Or.inl (Or.inr hc))
    · exact Or.inr (Or.inr hs)
  · rw [hconfirmed]
    refine countP_split (fun row hrow => ?_) fun row hrow hsettled => ?_
    · exact isConfirmed_split (hbacked row hrow)
    · obtain ⟨-, hnone⟩ := (isSettled_iff (hbacked row hrow)).mp hsettled
      rw [hnone]
      exact Bool.and_false _
  · exact fun row hrow hconfirmed => (confirmed_status (haxes row hrow) hconfirmed).1
  · exact fun row hrow => failure_status (haxes row hrow)
  · exact fun row hrow => status_ne_expired (haxes row hrow)

/-! ### A settled intent and a new one -/

/-- An execution as a row of project `p`. -/
def figureRow (execution : ExecutionRecord) : ProjectExecutionRow where
  projectId := "p"
  createdAt := 0
  expectedCells := []
  execution := execution

/-- An intent that was just created. -/
def newIntent : Store := serviceCreateIntent (Scenario.create (.depth 4))

/-- A project with one settled execution and a new one. -/
def settledAndNew : ProjectTables where
  executions := [figureRow Scenario.settled.execution, figureRow newIntent.execution]
  deliveries := []
  endpoints := []
  keys := []
  events := []
  exports := []

theorem project_figures_settled :
    FiguresExact (settledAndNew.executionsOf "p") (getProjectMetrics "p" settledAndNew) ∧
      getProjectMetrics "p" settledAndNew = ⟨2, 1, 0, 1⟩ := by
  have hcommits : commitsAll newIntent
      [Scenario.attach 'a' false none [Scenario.outPoint '1'],
        .observe (Scenario.node (.ok (Scenario.committed "0x8")))] = true := by
    decide +kernel
  obtain ⟨acts, past, hrun⟩ := Scenario.run_after hcommits
  refine ⟨project_figures fun row hrow => ?_, by decide +kernel⟩
  have hrow' : row ∈ [figureRow Scenario.settled.execution, figureRow newIntent.execution] :=
    List.mem_of_mem_filter hrow
  obtain rfl | hnew := List.mem_cons.mp hrow'
  · exact ⟨_, acts, _, hrun, rfl⟩
  · obtain rfl := List.mem_singleton.mp hnew
    exact ⟨Scenario.create (.depth 4), [], _, .start, rfl⟩

end CellFlow
