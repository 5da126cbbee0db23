/-
# CellFlow.Api.CommittedRow — the commit fields of the execution row over a run of the machine.

A COMMITTED row names its block and belongs to a transaction, and a CONFIRMED row is COMMITTED and
satisfies its policy.  Every operation keeps this (`Op.commit_backed`), whatever its requests and
answers, because the RPC layer answers COMMITTED only for a named block.  A settlement-ready row
carries its timestamp (`Op.commit_stamped`).
-/
import CellFlow.Api.Machine

namespace CellFlow

open Optimistic (World)
open Runs (Run)

/-! ## Snapshots -/

/-- A committed snapshot names its block, and a confirmed one satisfies its policy. -/
structure CommitBacked (s : ExecutionSnapshot) : Prop where
  named : s.chainStatus = .committed →
    (truthy s.committedBlockHash).isSome ∧ (truthy s.committedBlockNumber).isSome
  confirmed : s.workflowStatus = .confirmed → s.chainStatus = .committed ∧
    isConfirmationSatisfied s.confirmationPolicy .committed s.confirmationCount = true

variable {s : ExecutionSnapshot} {o : ChainObservation}

/-- The submission axis and a conflict mark do not matter. -/
theorem CommitBacked.replan (h : CommitBacked s) (next : SubmissionStatus) (conflicted : Bool) :
    CommitBacked
      { s with
        submissionStatus := next
        workflowStatus := if conflicted then .conflicted else s.workflowStatus } := by
  refine ⟨h.named, fun hw => h.confirmed ?_⟩
  by_contra hne
  cases conflicted <;> simp_all

/-- A COMMITTED answer is never preserved over. -/
theorem observedSnapshot_committed (hs : o.status = .committed) :
    observedSnapshot s o = advancedSnapshot s o := by
  simp [observedSnapshot, preservesCommit, hs]

/-- A COMMITTED answer confirms exactly at the depth of the policy. -/
theorem observedSnapshot_confirmed_iff (hs : o.status = .committed) :
    (observedSnapshot s o).workflowStatus = .confirmed ↔
      isConfirmationSatisfied s.confirmationPolicy .committed
        (computeConfirmationCount o.blockNumber o.tipBlockNumber) = true := by
  rw [observedSnapshot_committed hs, advancedSnapshot_workflow, hs]
  dsimp only
  split
  next hsat => simp [hsat]
  next hsat => simp [hsat]

/-- A confirmed snapshot stays confirmed under a preserved commit, or under a COMMITTED answer at the
depth of the policy. -/
theorem observedSnapshot_stays_confirmed (hw : s.workflowStatus = .confirmed) :
    (observedSnapshot s o).workflowStatus = .confirmed ↔
      preservesCommit s o = true ∨ (o.status = .committed ∧
        isConfirmationSatisfied s.confirmationPolicy .committed
          (computeConfirmationCount o.blockNumber o.tipBlockNumber) = true) := by
  by_cases hp : preservesCommit s o = true
  · simp [observedSnapshot, hp, preservedSnapshot, hw]
  · by_cases hs : o.status = .committed
    · rw [observedSnapshot_confirmed_iff hs]
      simp [hp, hs]
    · rw [observedSnapshot, if_neg hp, advancedSnapshot_workflow]
      cases ho : o.status <;> simp_all <;> split <;> simp

/-- A COMMITTED answer for a named block leaves a backed snapshot, whatever was recorded. -/
theorem commitBacked_of_committed (hs : o.status = .committed)
    (ho : (truthy o.blockHash).isSome ∧ (truthy o.blockNumber).isSome) :
    CommitBacked (observedSnapshot s o) := by
  obtain ⟨blockHash, hhash⟩ := Option.isSome_iff_exists.mp ho.1
  obtain ⟨blockNumber, hnumber⟩ := Option.isSome_iff_exists.mp ho.2
  rw [observedSnapshot_committed hs]
  refine ⟨fun _ => ?_, fun hw => ⟨by simp [hs], ?_⟩⟩
  · rw [advancedSnapshot_hash, advancedSnapshot_number, hs]
    simp [hhash, hnumber, truthy_some_of_eq hhash, truthy_some_of_eq hnumber]
  · rw [advancedSnapshot_workflow, hs] at hw
    rw [advancedSnapshot_policy, advancedSnapshot_count, if_pos hs]
    by_contra hne
    simp [hne] at hw

theorem CommitBacked.observed (h : CommitBacked s)
    (ho : o.status = .committed → (truthy o.blockHash).isSome ∧ (truthy o.blockNumber).isSome) :
    CommitBacked (observedSnapshot s o) := by
  by_cases hs : o.status = .committed
  · exact commitBacked_of_committed hs (ho hs)
  unfold observedSnapshot
  split
  next hp =>
    refine ⟨h.named, fun hw => h.confirmed ?_⟩
    by_contra hne
    simp [preservedSnapshot, hne] at hw
  · refine ⟨fun hc => absurd ?_ hs, fun hw => absurd ?_ hs⟩
    · rw [advancedSnapshot_chain] at hc
      cases hs : o.status <;> simp_all
    · rw [advancedSnapshot_workflow] at hw
      cases hs : o.status <;> simp [hs] at hw ⊢ <;> split at hw <;> cases hw

/-- Readiness of a backed snapshot, once it is confirmed. -/
theorem CommitBacked.ready_iff (h : CommitBacked s) {assertionStatus : Option AssertionStatus}
    {requiredAssertionCount : Nat} {conflictType : Option ConflictType} :
    isSettlementReady s assertionStatus requiredAssertionCount conflictType = true ↔
      s.workflowStatus = .confirmed ∧ conflictType = none ∧
        (requiredAssertionCount = 0 ∨ assertionStatus = some .verified) := by
  rw [isSettlementReady_eq_true]
  constructor
  · rintro ⟨hw, -, -, -, -, hn, ha⟩
    exact ⟨hw, hn, ha⟩
  · rintro ⟨hw, hn, ha⟩
    obtain ⟨hc, hsat⟩ := h.confirmed hw
    obtain ⟨hhash, hnumber⟩ := h.named hc
    exact ⟨hw, hc, hhash, hnumber, hsat, hn, ha⟩

/-! ## Rows -/

/-- The execution row is backed, and a committed one has a transaction. -/
structure BackedRow (row : ExecutionRecord) : Prop where
  snapshot : CommitBacked (snapshotFromExecution row)
  hashed : row.chainStatus = .committed → row.txHash.isSome

theorem backedRow_opening (req : CreateRequest) : BackedRow (serviceCreateIntent req).execution := by
  refine ⟨⟨?_, ?_⟩, ?_⟩ <;> intro h <;> cases h

/-- A row that stores a backed snapshot is backed. -/
theorem BackedRow.of_stored {row : ExecutionRecord} (h : CommitBacked s)
    (hchain : row.chainStatus = s.chainStatus) (hworkflow : row.workflowStatus = s.workflowStatus)
    (hpolicy : row.confirmationPolicy = s.confirmationPolicy)
    (hcount : row.confirmationCount = s.confirmationCount)
    (hhash : row.committedBlockHash = truthy s.committedBlockHash)
    (hnumber : row.committedBlockNumber = truthy s.committedBlockNumber)
    (htx : row.txHash.isSome) : BackedRow row := by
  refine ⟨⟨?_, ?_⟩, fun _ => htx⟩
  · simpa [hchain, hhash, hnumber] using h.named
  · simpa [hchain, hworkflow, hpolicy, hcount] using h.confirmed

/-- The rows of a store that was written by `applySnapshot`. -/
theorem BackedRow.applied {input : ApplyInput} {db : Store} (h : CommitBacked input.snapshot)
    (hpolicy : db.execution.confirmationPolicy = input.snapshot.confirmationPolicy)
    (htx : db.execution.txHash.isSome) : BackedRow (input.appliedStore db).execution :=
  .of_stored h rfl rfl hpolicy rfl rfl rfl htx

/-! ## The step lemma -/

variable {view : IntentAggregate} {db t : Store}

theorem BackedRow.attached {input : AttachInput} {attemptId : String} {number : Nat}
    {attempts : List TransactionAttemptRecord} (h : BackedRow db.execution) :
    BackedRow (input.attachedStore db attemptId number attempts).execution := by
  simp only [AttachInput.attachedStore, AttachInput.attachedExecution]
  split
  · refine ⟨⟨?_, ?_⟩, ?_⟩ <;> intro hc <;> cases hc
  · exact ⟨⟨h.snapshot.named, h.snapshot.confirmed⟩, fun _ => rfl⟩

/-- A committed row with a transaction is not replaced by an attach. -/
theorem attach_uncommitted {input : AttachInput} (hcur : Current input.aggregate db)
    (hb : BackedRow db.execution) (hguard : input.replacementGuard = .ok ())
    (hcreate : input.creatingAttempt = true) : db.execution.chainStatus ≠ .committed := by
  intro hcommitted
  have hhash : input.currentHash.isSome := by
    rw [AttachInput.currentHash, hcur.execution]
    exact hb.hashed hcommitted
  have hfinal : input.currentFinalized = true := by
    have hchain : input.aggregate.execution.chainStatus = .committed := by
      rw [hcur.execution]
      exact hcommitted
    simp [AttachInput.currentFinalized, hchain]
  simp only [AttachInput.replacementGuard, hcreate, hhash, and_self, if_true, hfinal] at hguard
  split at hguard <;> cases hguard

/-- **One operation** keeps the row backed. -/
theorem Op.commit_backed {op : Op}
    (hcur : db.execution.version = view.execution.version → Current view db)
    (hb : BackedRow db.execution) (h : op.commit view db = some t) : BackedRow t.execution := by
  cases op with
  | attach req freshId now =>
      obtain ⟨_, _, _, _, _, -, -, -, -, -, rfl⟩ := Op.attach_writes h
      exact hb.attached
  | mark req now =>
      obtain ⟨-, hm⟩ := Op.mark_commit h
      obtain ⟨after, -, -, -, -, rfl⟩ := markAttempt_ok hm
      exact ⟨⟨hb.snapshot.named, hb.snapshot.confirmed⟩, hb.hashed⟩
  | observe env =>
      obtain ⟨txHash, result, htx, hp⟩ := Op.observe_commit h
      obtain ⟨hversion, -, ⟨message, applied, -, happ, rfl, -⟩ | ⟨bundle, applied, -, happ, rfl, -⟩⟩ :=
        reconcileProjection_ok hp
      all_goals
        have hc := hcur hversion
        obtain ⟨hsnap, -⟩ := applyChainObservation_ok happ
        have htx' : db.execution.txHash.isSome := by simp [← hc.execution, htx]
        have hback : CommitBacked (snapshotFromExecution view.execution) := hc.execution ▸ hb.snapshot
      · have happlied : CommitBacked applied.snapshot := hsnap ▸ hback.observed (by simp)
        refine .applied happlied ?_ htx'
        simp [failureInput, hsnap, hc.execution]
      · have happlied : CommitBacked applied.snapshot :=
          hsnap ▸ hback.observed bundle.committed_named
        refine .applied ?_ ?_ htx'
        · rw [plannedInput, plannedDraft_snapshot]
          exact happlied.replan _ _
        · rw [plannedInput, plannedDraft_snapshot, hsnap]
          simp [hc.execution]
  | probe env index =>
      obtain ⟨candidate, -, ⟨input, -, rfl⟩ | ⟨input, hj, hp⟩⟩ := Op.probe_commit h
      · exact hb
      · obtain ⟨hversion, -, rfl⟩ := promoteAttemptProjection_ok hp
        obtain ⟨observed, applied, -, hstatus, -, happ, hagg, -, hsnap, -⟩ := judgeCandidate_promote hj
        rw [hagg] at hversion
        have hback : CommitBacked input.snapshot := by
          rw [hsnap, (applyChainObservation_ok happ).1]
          exact commitBacked_of_committed hstatus (observed.committed_named hstatus)
        have hpolicy : input.snapshot.confirmationPolicy = db.execution.confirmationPolicy := by
          rw [hsnap, (applyChainObservation_ok happ).1, observedSnapshot_policy,
            ← (hcur hversion).execution]
          rfl
        exact .of_stored hback rfl rfl hpolicy.symm rfl rfl rfl rfl
  | preflight verified reason rawObservation now =>
      cases h
      exact hb
  | operatorNote text now =>
      cases h
      exact hb

/-- The views of a world agree with its row, and the row is backed. -/
structure BackedWorld (w : World Store) : Prop where
  consistent : w.Consistent rowVersion guardedRows
  backed : BackedRow w.current.execution

/-- **Every run.** -/
theorem backedWorld_run {req : CreateRequest} {acts : List Act} {w : World Store}
    (h : Run Step (opening req) acts w) : BackedWorld w := by
  refine h.inv BackedWorld ⟨consistent_opening req, backedRow_opening req⟩ ?_
  rintro w act w' hw hst
  refine ⟨Step.consistent hw.consistent hst, ?_⟩
  obtain ⟨hrows, -, t, hc, rfl⟩ := hst
  exact Op.commit_backed (current_of_version hw.consistent hrows) hw.backed hc

/-! ## The settlement timestamp -/

/-- A ready row has its settlement timestamp. -/
def Stamped (db : Store) : Prop :=
  db.settlementReady = true → db.execution.settlementReadyAt.isSome

theorem stamped_opening (req : CreateRequest) : Stamped (serviceCreateIntent req) := by
  intro h
  cases h

/-- A new transaction is not settled, and a known one keeps what it had. -/
theorem Stamped.attached {input : AttachInput} {attemptId : String} {number : Nat}
    {attempts : List TransactionAttemptRecord} (h : Stamped db) :
    Stamped (input.attachedStore db attemptId number attempts) := by
  intro hready
  by_cases hcreate : input.creatingAttempt = true
  · simp [Store.settlementReady, AttachInput.attachedExecution, hcreate, isSettlementReady,
      snapshotFromExecution] at hready
  · rw [Store.settlementReady, AttachInput.attachedStore_execution,
      AttachInput.attachedExecution, if_neg hcreate] at hready
    rw [AttachInput.attachedStore_execution, AttachInput.attachedExecution, if_neg hcreate]
    exact h hready

/-- A report can take readiness away, but not give it. -/
theorem Stamped.marked {input : MarkInput} (hcur : Current input.aggregate db) (h : Stamped db) :
    Stamped (input.markedStore db) := by
  intro hready
  have hnone : input.nextConflictType = none := by
    have hc := (isSettlementReady_eq_true.mp hready).2.2.2.2.2.1
    exact hc
  have hkept : db.execution.conflictType = none := by
    rw [MarkInput.nextConflictType, hcur.execution] at hnone
    exact (Option.or_eq_none_iff.mp hnone).2
  refine h ?_
  rw [Store.settlementReady, hkept, ← hnone]
  exact hready

theorem Stamped.applied {input : ApplyInput}
    (hpolicy : db.execution.confirmationPolicy = input.snapshot.confirmationPolicy)
    (hcells : db.intent.expectedCells = input.aggregate.intent.expectedCells) :
    Stamped (input.appliedStore db) := by
  intro hready
  rw [ApplyInput.appliedStore_settlementReady hpolicy hcells] at hready
  show input.settlementReadyAt.isSome
  rw [ApplyInput.settlementReadyAt_isSome]
  exact hready

theorem Stamped.promoted {input : PromoteInput}
    (hpolicy : db.execution.confirmationPolicy = input.snapshot.confirmationPolicy)
    (hcells : db.intent.expectedCells = input.aggregate.intent.expectedCells) :
    Stamped (input.promotedStore db) := by
  intro hready
  rw [PromoteInput.promotedStore_settlementReady hpolicy hcells] at hready
  show (if input.promotedSettlementReady then some input.occurredAt else none).isSome
  rw [hready]
  rfl

/-- **One operation** stamps the row it makes ready. -/
theorem Op.commit_stamped {op : Op}
    (hcur : db.execution.version = view.execution.version → Current view db)
    (hs : Stamped db) (h : op.commit view db = some t) : Stamped t := by
  cases op with
  | attach req freshId now =>
      obtain ⟨_, _, _, _, _, -, -, -, -, -, rfl⟩ := Op.attach_writes h
      exact hs.attached
  | mark req now =>
      obtain ⟨-, hm⟩ := Op.mark_commit h
      obtain ⟨after, -, -, hversion, -, rfl⟩ := markAttempt_ok hm
      exact hs.marked (hcur hversion)
  | observe env =>
      obtain ⟨txHash, result, -, hp⟩ := Op.observe_commit h
      obtain ⟨hversion, -, ⟨message, applied, -, happ, rfl, -⟩ | ⟨bundle, applied, -, happ, rfl, -⟩⟩ :=
        reconcileProjection_ok hp
      all_goals
        have hc := hcur hversion
        have hsnap := (applyChainObservation_ok happ).1
        refine Stamped.applied ?_ (congrArg _ hc.intent.symm)
      · simp [failureInput, hsnap, hc.execution]
      · rw [plannedInput, plannedDraft_snapshot, hsnap]
        simp [hc.execution]
  | probe env index =>
      obtain ⟨candidate, -, ⟨input, -, rfl⟩ | ⟨input, hj, hp⟩⟩ := Op.probe_commit h
      · exact hs
      · obtain ⟨hversion, -, rfl⟩ := promoteAttemptProjection_ok hp
        obtain ⟨observed, applied, -, -, -, happ, rfl, -, hsnap, -⟩ := judgeCandidate_promote hj
        have hc := hcur hversion
        refine Stamped.promoted ?_ (congrArg _ hc.intent.symm)
        rw [hsnap, (applyChainObservation_ok happ).1, observedSnapshot_policy, ← hc.execution]
        rfl
  | preflight verified reason rawObservation now =>
      cases h
      exact hs
  | operatorNote text now =>
      cases h
      exact hs

end CellFlow
