/-
# CellFlow.Core.CommitEvidence — the commit evidence a snapshot carries over a run of the machine.

A run starts at `initialSnapshot` and applies submission reports, chain observations, superseded
node rejections and conflict marks in any order.  `CommitEvidence` is what every state of it should
satisfy, and `DisprovedHashDropped` what every observation should do to a recorded block hash.  Both
hold as long as no observation disproves the recorded block while answering REJECTED, or COMMITTED
without naming a block; the first observation that does breaks one of them.
-/
import CellFlow.Lib.Runs
import CellFlow.Core.StateMachine

namespace CellFlow

open Runs (Run)

/-! ## The machine on snapshots -/

/-- What can happen to a snapshot. -/
inductive SnapshotOp where
  | updateSubmission (next : SubmissionStatus)
  | applyChainObservation (observation : ChainObservation)
  | supersedeNodeRejection (observedStatus : ObservedStatus)
  | setConflicted

/-- The snapshot an operation leaves; an operation that throws leaves none. -/
def SnapshotOp.apply (s : ExecutionSnapshot) : SnapshotOp → Except CellFlowError ExecutionSnapshot
  | .updateSubmission next => CellFlow.updateSubmission s next
  | .applyChainObservation o => (CellFlow.applyChainObservation s o).map (·.snapshot)
  | .supersedeNodeRejection st => .ok (supersedeNodeRejectionFromChainEvidence s st)
  | .setConflicted => setWorkflowStatus s .conflicted

/-- One completed operation. -/
def SnapshotStep (s : ExecutionSnapshot) (op : SnapshotOp) (t : ExecutionSnapshot) : Prop :=
  op.apply s = .ok t

/-! ## What a snapshot should say about its commit -/

/-- The commit fields agree with the status axes. -/
structure CommitEvidence (s : ExecutionSnapshot) : Prop where
  hash_committed : s.committedBlockHash ≠ none → s.chainStatus = .committed
  confirmed_committed : s.workflowStatus = .confirmed → s.chainStatus = .committed ∧
    isConfirmationSatisfied s.confirmationPolicy s.chainStatus s.confirmationCount = true
  count_committed : 0 < s.confirmationCount → s.chainStatus = .committed
  reorged_empty : s.workflowStatus = .reorged →
    s.committedBlockHash = none ∧ s.committedBlockNumber = none

/-- After an observation that disproves the recorded block, its hash is gone, unless that same
observation reports the transaction committed in it. -/
def DisprovedHashDropped (s : ExecutionSnapshot) (op : SnapshotOp) (t : ExecutionSnapshot) : Prop :=
  ∀ o hash, op = .applyChainObservation o → o.priorCommitCanonical = some false →
    s.committedBlockHash = some hash →
    t.committedBlockHash ≠ some hash ∨ (o.status = .committed ∧ o.blockHash = some hash)

/-- The recorded block is disproved by an answer that drops no hash: REJECTED, or COMMITTED without
a block hash. -/
def keepsDisprovedHash (s : ExecutionSnapshot) (o : ChainObservation) : Prop :=
  o.priorCommitCanonical = some false ∧ s.committedBlockHash ≠ none ∧
    (o.status = .rejected ∨ (o.status = .committed ∧ truthy o.blockHash = none))

/-- The condition on one operation. -/
def dropsDisprovedHash (s : ExecutionSnapshot) : SnapshotOp → Prop
  | .applyChainObservation o => ¬ keepsDisprovedHash s o
  | _ => True

/-! ## One step -/

/-- What a run carries: truthful commit fields, and a recorded hash is never the empty text. -/
structure CommitInv (s : ExecutionSnapshot) : Prop where
  evidence : CommitEvidence s
  named : s.committedBlockHash ≠ some ""

theorem commitInv_initial (policy : ConfirmationPolicy) : CommitInv (initialSnapshot policy) where
  evidence :=
    { hash_committed := by simp [initialSnapshot]
      confirmed_committed := by simp [initialSnapshot]
      count_committed := by simp [initialSnapshot]
      reorged_empty := by simp [initialSnapshot] }
  named := by simp [initialSnapshot]

/-- Truthfulness reads neither the submission status nor the rejection reason. -/
theorem CommitEvidence.with_submission {s : ExecutionSnapshot} (h : CommitEvidence s)
    (next : SubmissionStatus) : CommitEvidence { s with submissionStatus := next } :=
  ⟨h.hash_committed, h.confirmed_committed, h.count_committed, h.reorged_empty⟩

theorem CommitEvidence.conflicted {s : ExecutionSnapshot} (h : CommitEvidence s) :
    CommitEvidence { s with workflowStatus := .conflicted } :=
  ⟨h.hash_committed, by simp, h.count_committed, by simp⟩

/-- A recorded hash that was not preserved was disproved, by an answer other than COMMITTED. -/
theorem disproved_of_not_preserved {s : ExecutionSnapshot} {o : ChainObservation} {hash : String}
    (hs : CommitInv s) (hh : s.committedBlockHash = some hash)
    (hp : preservesCommit s o = false) (ho : o.status ≠ .committed) :
    o.priorCommitCanonical = some false := by
  have hc : s.chainStatus = .committed := hs.evidence.hash_committed (by simp [hh])
  have hr : reorgAgainstPriorCommit s o = true := by
    simpa [preservesCommit, hc, ho] using hp
  have ht : truthy s.committedBlockHash = some hash := by
    rw [truthy_of_named hs.named, hh]
  simp only [reorgAgainstPriorCommit, ht, ho, if_false] at hr
  by_contra hne
  simp [hne] at hr

theorem reorg_of_disproved {s : ExecutionSnapshot} {o : ChainObservation} (hs : CommitInv s)
    (hh : s.committedBlockHash ≠ none) (hp : o.priorCommitCanonical = some false) :
    reorgAgainstPriorCommit s o = true := by
  obtain ⟨hash, hh⟩ := Option.ne_none_iff_exists'.mp hh
  have ht : truthy s.committedBlockHash = some hash := by
    rw [truthy_of_named hs.named, hh]
  simp [reorgAgainstPriorCommit, ht, hp]

theorem named_observed {s : ExecutionSnapshot} (hs : CommitInv s) (o : ChainObservation) :
    (observedSnapshot s o).committedBlockHash ≠ some "" := by
  unfold observedSnapshot
  split
  · exact hs.named
  · rw [advancedSnapshot_hash]
    cases o.status with
    | committed => exact or_truthy_named hs.named
    | rejected => exact hs.named
    | unknown => dsimp only; split <;> simp [hs.named]
    | pending => dsimp only; split <;> simp [hs.named]
    | proposed => dsimp only; split <;> simp [hs.named]

theorem CommitEvidence.preserved {s : ExecutionSnapshot} (h : CommitEvidence s)
    (hc : s.chainStatus = .committed) : CommitEvidence (preservedSnapshot s) where
  hash_committed := fun _ => hc
  confirmed_committed := by
    intro hw
    have hconf : s.workflowStatus = .confirmed := by
      by_contra hne
      simp [preservedSnapshot, hne] at hw
    exact h.confirmed_committed hconf
  count_committed := fun _ => hc
  reorged_empty := by
    intro hw
    simp only [preservedSnapshot] at hw
    split at hw <;> cases hw

/-- A COMMITTED answer leaves truthful fields, whatever was recorded. -/
theorem commitEvidence_advanced_committed {s : ExecutionSnapshot} {o : ChainObservation}
    (ho : o.status = .committed) : CommitEvidence (advancedSnapshot s o) := by
  have hc : (advancedSnapshot s o).chainStatus = .committed := by simp [ho]
  refine ⟨fun _ => hc, fun hw => ⟨hc, ?_⟩, fun _ => hc, fun hw => ?_⟩
  · rw [advancedSnapshot_workflow, ho] at hw
    rw [hc, advancedSnapshot_policy, advancedSnapshot_count, if_pos ho]
    by_contra hne
    simp [hne] at hw
  · rw [advancedSnapshot_workflow, ho] at hw
    dsimp only at hw
    split at hw <;> cases hw

/-- Any other answer that advances does so exactly when it leaves no hash behind. -/
theorem commitEvidence_advanced_iff {s : ExecutionSnapshot} {o : ChainObservation}
    (ho : o.status ≠ .committed) :
    CommitEvidence (advancedSnapshot s o) ↔ (advancedSnapshot s o).committedBlockHash = none := by
  have hc : (advancedSnapshot s o).chainStatus ≠ .committed := by
    rw [advancedSnapshot_chain]
    cases h : o.status <;> simp_all
  have hcount : (advancedSnapshot s o).confirmationCount = 0 := by
    rw [advancedSnapshot_count, if_neg ho]
  constructor
  · intro h
    by_contra hne
    exact hc (h.hash_committed hne)
  · intro hnone
    refine ⟨fun hne => absurd hnone hne, fun hw => ?_, fun hlt => ?_, fun hw => ⟨hnone, ?_⟩⟩
    · rw [advancedSnapshot_workflow] at hw
      cases h : o.status <;> simp [h] at hw ho <;> split at hw <;> cases hw
    · rw [hcount] at hlt
      exact absurd hlt (Nat.lt_irrefl 0)
    · rw [advancedSnapshot_workflow] at hw
      rw [advancedSnapshot_number]
      cases h : o.status <;> simp_all

/-- **One observation**: it keeps the evidence truthful and drops a disproved hash exactly when it
does not disprove the recorded block with an answer that drops no hash. -/
theorem observation_step_iff {s : ExecutionSnapshot} {o : ChainObservation} (hs : CommitInv s) :
    ¬ keepsDisprovedHash s o ↔ CommitEvidence (observedSnapshot s o) ∧
      DisprovedHashDropped s (.applyChainObservation o) (observedSnapshot s o) := by
  by_cases hp : preservesCommit s o = true
  · -- a preserved commit was not disproved
    have hc : s.chainStatus = .committed := by
      simp only [preservesCommit, Bool.and_eq_true, decide_eq_true_eq] at hp
      exact hp.1.1
    have hnot : ∀ hash, s.committedBlockHash = some hash →
        o.priorCommitCanonical ≠ some false := by
      intro hash hh hprior
      have hr := reorg_of_disproved hs (by simp [hh]) hprior
      simp [preservesCommit, hr] at hp
    have hobs : observedSnapshot s o = preservedSnapshot s := by
      simp [observedSnapshot, hp]
    rw [hobs]
    refine iff_of_true ?_ ⟨hs.evidence.preserved hc, ?_⟩
    · rintro ⟨hprior, hne, -⟩
      obtain ⟨hash, hh⟩ := Option.ne_none_iff_exists'.mp hne
      exact hnot hash hh hprior
    · intro o' hash ho hprior hh
      cases ho
      exact absurd hprior (hnot hash hh)
  · have hp : preservesCommit s o = false := by simpa using hp
    have hobs : observedSnapshot s o = advancedSnapshot s o := by
      simp [observedSnapshot, hp]
    rw [hobs]
    by_cases ho : o.status = .committed
    · have hhash : (advancedSnapshot s o).committedBlockHash =
          (truthy o.blockHash).or s.committedBlockHash := by
        rw [advancedSnapshot_hash, ho]
      constructor
      · intro hkeep
        refine ⟨commitEvidence_advanced_committed ho, ?_⟩
        intro o' hash heq hprior hh
        cases heq
        cases hb : truthy o.blockHash with
        | none => exact absurd ⟨hprior, by simp [hh], Or.inr ⟨ho, hb⟩⟩ hkeep
        | some b =>
            by_cases hbh : b = hash
            · subst hbh
              exact Or.inr ⟨ho, (truthy_eq_some.mp hb).1⟩
            · left
              rw [hhash, hb]
              simpa using hbh
      · rintro ⟨-, hdrop⟩ ⟨hprior, hne, hcase⟩
        obtain ⟨hash, hh⟩ := Option.ne_none_iff_exists'.mp hne
        rcases hcase with hrej | ⟨-, hb⟩
        · rw [ho] at hrej
          cases hrej
        · rcases hdrop o hash rfl hprior hh with hgone | ⟨-, hsame⟩
          · exact hgone (by rw [hhash, hb, hh]; rfl)
          · have hnamed : hash ≠ "" := fun he => hs.named (by rw [hh, he])
            rw [truthy_eq_some.mpr ⟨hsame, hnamed⟩] at hb
            cases hb
    · rw [commitEvidence_advanced_iff ho]
      constructor
      · intro hkeep
        have hnone : (advancedSnapshot s o).committedBlockHash = none := by
          by_contra hne
          cases hh : s.committedBlockHash with
          | none => 
              rw [advancedSnapshot_hash, hh] at hne
              cases h : o.status <;> simp_all
          | some hash =>
              have hprior := disproved_of_not_preserved hs hh hp ho
              have hr := reorg_of_disproved hs (by simp [hh]) hprior
              rw [advancedSnapshot_hash, hr] at hne
              cases h : o.status with
              | rejected => exact hkeep ⟨hprior, by simp [hh], Or.inl h⟩
              | committed => exact ho h
              | unknown => simp [h] at hne
              | pending => simp [h] at hne
              | proposed => simp [h] at hne
        refine ⟨hnone, fun _ _ _ _ _ => Or.inl ?_⟩
        rw [hnone]
        simp
      · rintro ⟨hnone, -⟩ ⟨-, hne, hrej | ⟨hcom, -⟩⟩
        · rw [advancedSnapshot_hash, hrej] at hnone
          exact hne hnone
        · exact ho hcom

/-- **One operation** from a state with the invariant. -/
theorem snapshotStep_iff {s t : ExecutionSnapshot} {op : SnapshotOp} (hs : CommitInv s)
    (h : SnapshotStep s op t) :
    t.committedBlockHash ≠ some "" ∧
      (dropsDisprovedHash s op ↔ CommitEvidence t ∧ DisprovedHashDropped s op t) := by
  cases op with
  | updateSubmission next =>
      obtain ⟨rfl, -⟩ := updateSubmission_ok h
      exact ⟨hs.named, iff_of_true trivial ⟨hs.evidence.with_submission next, by rintro _ _ ⟨⟩⟩⟩
  | supersedeNodeRejection st =>
      cases h
      unfold supersedeNodeRejectionFromChainEvidence
      refine ⟨by split_ifs <;> exact hs.named, iff_of_true trivial ⟨?_, by rintro _ _ ⟨⟩⟩⟩
      split_ifs
      · exact hs.evidence
      · exact hs.evidence
      · exact hs.evidence.with_submission _
  | setConflicted =>
      cases h
      exact ⟨hs.named, iff_of_true trivial ⟨hs.evidence.conflicted, by rintro _ _ ⟨⟩⟩⟩
  | applyChainObservation o =>
      cases happ : applyChainObservation s o with
      | error e => simp [SnapshotStep, SnapshotOp.apply, happ, Except.map] at h
      | ok r =>
          have ht : t = observedSnapshot s o := by
            rw [← (applyChainObservation_ok happ).1]
            simpa [SnapshotStep, SnapshotOp.apply, happ, Except.map] using h.symm
          rw [ht]
          exact ⟨named_observed hs o, observation_step_iff hs⟩

/-! ## Runs -/

theorem commitInv_run {policy : ConfirmationPolicy} {ops : List SnapshotOp} {s : ExecutionSnapshot}
    (h : Run (Runs.when dropsDisprovedHash SnapshotStep) (initialSnapshot policy) ops s) :
    CommitInv s :=
  h.inv CommitInv (commitInv_initial policy) fun _ _ _ hs hstep =>
    have hiff := snapshotStep_iff hs hstep.2
    ⟨(hiff.2.mp hstep.1).1, hiff.1⟩

/-- **Commit evidence over runs**: it is truthful in every state of a run whose observations all
drop a disproved hash, and the next operation keeps it truthful, and drops a disproved hash, exactly
when it meets that condition too. -/
theorem commitEvidence_run {policy : ConfirmationPolicy} {ops : List SnapshotOp}
    {s : ExecutionSnapshot}
    (h : Run (Runs.when dropsDisprovedHash SnapshotStep) (initialSnapshot policy) ops s) :
    CommitEvidence s ∧ ∀ op t, SnapshotStep s op t →
      (dropsDisprovedHash s op ↔ CommitEvidence t ∧ DisprovedHashDropped s op t) :=
  ⟨(commitInv_run h).evidence, fun _ _ hstep => (snapshotStep_iff (commitInv_run h) hstep).2⟩

/-- A block hash. -/
def blockA : String := "0xaaaaaaaaaaaaaaaaaaaaaaaaaaaaaaaaaaaaaaaaaaaaaaaaaaaaaaaaaaaaaaaa"

/-- The transaction is found in `blockA` at height 5, four blocks deep. -/
def committedAnswer : ChainObservation where
  status := .committed
  observedAt := 0
  raw := .null
  blockHash := some blockA
  blockNumber := some "0x5"
  tipBlockNumber := some "0x8"
  rejectionReason := none
  priorCommitCanonical := none

/-- The endpoint rejects the transaction and reports another canonical block at its height. -/
def disprovingRejection : ChainObservation where
  status := .rejected
  observedAt := 1
  raw := .null
  blockHash := none
  blockNumber := none
  tipBlockNumber := none
  rejectionReason := some "Resolve failed Dead"
  priorCommitCanonical := some false

/-- The snapshot `committedAnswer` leaves under the default policy. -/
def confirmedInBlock : ExecutionSnapshot where
  submissionStatus := .notSubmitted
  chainStatus := .committed
  workflowStatus := .confirmed
  confirmationPolicy := .depth 4
  confirmationCount := 4
  committedBlockHash := some blockA
  committedBlockNumber := some "0x5"
  rejectionReason := none

theorem commitEvidence_run_committed :
    CommitEvidence confirmedInBlock ∧ ∀ op t, SnapshotStep confirmedInBlock op t →
      (dropsDisprovedHash confirmedInBlock op ↔
        CommitEvidence t ∧ DisprovedHashDropped confirmedInBlock op t) := by
  have hok : dropsDisprovedHash (initialSnapshot (.depth 4))
      (.applyChainObservation committedAnswer) := by
    rintro ⟨-, hne, -⟩
    exact hne rfl
  have hstep : SnapshotStep (initialSnapshot (.depth 4)) (.applyChainObservation committedAnswer)
      confirmedInBlock := by
    rfl
  exact commitEvidence_run (.next .start ⟨hok, hstep⟩)

/-- A rejection that comes with proof of a reorg keeps the hash of the disproved block. -/
theorem disproved_hash_survives_rejection :
    ¬ ∀ policy ops s, Run SnapshotStep (initialSnapshot policy) ops s →
      CommitEvidence s ∧ ∀ op t, SnapshotStep s op t → DisprovedHashDropped s op t := by
  intro hclaim
  have hrun : Run SnapshotStep (initialSnapshot (.depth 4))
      [.applyChainObservation committedAnswer] confirmedInBlock :=
    .next .start rfl
  have hdrop := (hclaim _ _ _ hrun).2 (.applyChainObservation disprovingRejection)
    (advancedSnapshot confirmedInBlock disprovingRejection) rfl
  rcases hdrop disprovingRejection blockA rfl rfl rfl with hgone | ⟨hcom, -⟩
  · exact hgone rfl
  · cases hcom

end CellFlow
