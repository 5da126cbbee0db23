/-
# CellFlow.Properties.ProjectionMirror — the active attempt and the execution row say the same.

Every guarded write of a status writes it in the execution row and in the active attempt, and the
inputs of the two agree in every run.  Two writes touch only one of the rows: attaching the hash of an
earlier attempt starts the execution row over and keeps the chain statuses of the attempt, and a
candidate update that arrives after its candidate became active changes the attempt alone.
-/
import CellFlow.Api.AttemptEvidence
import CellFlow.Api.Scenario

namespace CellFlow

open Optimistic (World)
open Runs (Run)

/-! ## The two rows -/

/-- The active attempt has the hash, the statuses and the inputs of the execution row. -/
def Mirrored (db : Store) : Prop :=
  ∀ attempt ∈ db.attempts, some attempt.id = db.intent.activeAttemptId →
    db.execution.txHash = some attempt.txHash ∧ attempt.statuses = db.execution.statuses ∧
      attempt.inputOutPoints = db.execution.inputOutPoints ∧
      attempt.inputRefs = db.execution.inputRefs

/-- What an operation must not do, for the rows to go on agreeing. -/
def keepsMirror (view : IntentAggregate) (db : Store) : Op → Prop
  | .attach req _ _ =>
      -- an earlier attempt that is switched back to has not been observed yet
      ∀ attempt ∈ db.attempts, normalizeTxHash req.txHashInput = .ok attempt.txHash →
        db.execution.txHash ≠ some attempt.txHash →
        attempt.chainStatus = .unobserved ∧ attempt.workflowStatus = .idle
  | .probe env index =>
      -- a candidate that has become active is left as the execution row has it
      ∀ candidate observed, (rivals view)[index]? = some candidate →
        env.observeCandidate candidate.txHash = .ok observed →
        ¬ (observed.observation.status = .committed ∧
          candidateMismatch env candidate observed = none) →
        db.intent.activeAttemptId = some candidate.id →
        (probedSnapshot view candidate observed.observation).statuses = db.execution.statuses
  | _ => True

/-! ## Statuses of the active attempt -/

/-- The statuses agree. -/
def StatusesMirrored (db : Store) : Prop :=
  ∀ attempt ∈ db.attempts, some attempt.id = db.intent.activeAttemptId →
    attempt.statuses = db.execution.statuses

/-- Hash and inputs agree in every run, so only the statuses are left to see. -/
theorem mirrored_iff {w : World Store} (hi : EvidenceRows w) :
    Mirrored w.current ↔ StatusesMirrored w.current := by
  constructor
  · intro h attempt hmem hactive
    exact (h attempt hmem hactive).2.1
  · intro h attempt hmem hactive
    have hevidence := hi.mirrored attempt.evidence (List.mem_map_of_mem hmem) hactive
    exact ⟨hi.rows.points.active hi.rows.ids hmem hactive, h attempt hmem hactive,
      congrArg Prod.fst hevidence, congrArg Prod.snd hevidence⟩

section Operations

variable {w : World Store} {view : IntentAggregate} {db t : Store}

/-- An update of the active attempt alone gives it the statuses of the row exactly where the update
does. -/
theorem statusesMirrored_updated {f : TransactionAttemptRecord → TransactionAttemptRecord}
    {existing : TransactionAttemptRecord} (hid : ∀ a, (f a).id = a.id)
    (hids : (db.attempts.map (·.id)).Nodup) (hmem : existing ∈ db.attempts)
    (hrows : t.attempts = updateAttempt existing.id f db.attempts)
    (hactive : t.intent.activeAttemptId = some existing.id) :
    StatusesMirrored t ↔ (f existing).statuses = t.execution.statuses := by
  constructor
  · intro h
    refine h (f existing) ?_ ?_
    · rw [hrows]
      exact List.mem_map.mpr ⟨existing, hmem, if_pos rfl⟩
    · rw [hactive, hid]
  · intro h attempt hattempt hsame
    rw [hactive, Option.some.injEq] at hsame
    rw [hrows] at hattempt
    obtain ⟨before, hbefore, hname, heq⟩ := mem_updateAttempt hid hattempt
    rw [if_pos hsame] at heq
    have hone : before = existing :=
      List.inj_on_of_nodup_map hids hbefore hmem (hname.trans hsame)
    rw [heq, hone]
    exact h

/-- An attach starts the execution row over; only an attempt that was never observed looks like
that. -/
theorem statusesMirrored_attached {input : AttachInput} (hi : RowsInv w)
    (hcur : Current input.aggregate w.current) (h : StatusesMirrored w.current)
    (ht : attachTransaction input w.current = .ok t) :
    StatusesMirrored t ↔
      ∀ attempt ∈ w.current.attempts, attempt.txHash = input.txHash →
        w.current.execution.txHash ≠ some attempt.txHash →
        attempt.chainStatus = .unobserved ∧ attempt.workflowStatus = .idle := by
  have hids := hi.attemptIds
  have hcreates := creatingAttempt_iff hcur
  obtain ⟨-, -, -, ⟨existing, number, hmem, hhash, -, rfl⟩ | ⟨hnew, hinsert, rfl⟩⟩ :=
    attachTransaction_ok ht
  · rw [statusesMirrored_updated (f := input.reattached) (fun _ => rfl) hids hmem rfl rfl]
    have honly : ∀ attempt ∈ w.current.attempts, attempt.txHash = input.txHash →
        attempt = existing := by
      intro attempt hattempt hsame
      exact List.inj_on_of_nodup_map hi.attemptHashes hattempt hmem (hsame.trans hhash.symm)
    by_cases hcreate : input.creatingAttempt = true
    · have hrow : (input.attachedExecution w.current.execution).statuses =
          ⟨input.submissionStatus, .unobserved, .idle⟩ := by
        rw [AttachInput.attachedExecution, if_pos hcreate]
        rfl
      have hother := hcreates.mp hcreate
      show (⟨_, existing.chainStatus, existing.workflowStatus⟩ : Statuses) =
        (input.attachedExecution w.current.execution).statuses ↔ _
      rw [hrow, Statuses.mk.injEq]
      constructor
      · rintro ⟨-, hchain, hworkflow⟩ attempt hattempt hsame -
        rw [honly attempt hattempt hsame]
        exact ⟨hchain, hworkflow⟩
      · intro hfresh
        obtain ⟨hchain, hworkflow⟩ := hfresh existing hmem hhash (hhash ▸ hother)
        exact ⟨rfl, hchain, hworkflow⟩
    · have htx : w.current.execution.txHash = some existing.txHash := by
        rw [hhash]
        exact not_not.mp (mt hcreates.mpr hcreate)
      have hmirror := h existing hmem (hi.points.projected hi.hashes hmem htx)
      have hrow : (input.attachedExecution w.current.execution).statuses =
          ⟨input.submissionStatus, w.current.execution.chainStatus,
            w.current.execution.workflowStatus⟩ := by
        rw [AttachInput.attachedExecution, if_neg hcreate]
        rfl
      refine iff_of_true ?_ ?_
      · show (⟨_, existing.chainStatus, existing.workflowStatus⟩ : Statuses) =
          (input.attachedExecution w.current.execution).statuses
        simp only [TransactionAttemptRecord.statuses, ExecutionRecord.statuses,
          Statuses.mk.injEq] at hmirror
        rw [hrow, hmirror.2.1, hmirror.2.2]
        rfl
      · intro attempt hattempt hsame hne
        rw [honly attempt hattempt hsame] at hne
        exact absurd htx hne
  · refine iff_of_true ?_ fun attempt hattempt hsame => absurd hsame (hnew attempt hattempt)
    have hcreate := hi.points.creates hcur hnew
    intro attempt hattempt hactive
    have hid : attempt.id = input.freshId := Option.some.inj hactive
    rcases mem_insertedAttempts hinsert hattempt with rfl | ⟨hother, -⟩
    · rw [AttachInput.attachedStore_execution, AttachInput.attachedExecution, if_pos hcreate]
      rfl
    · exact absurd hid hother

/-- `applySnapshot` writes both rows. -/
theorem statusesMirrored_applied {input : ApplyInput} (hcur : Current input.aggregate db) :
    StatusesMirrored (input.appliedStore db) := by
  intro attempt hattempt hactive
  obtain ⟨middle, hmiddle, hsettles⟩ := mem_appliedAttempts hattempt
  obtain ⟨before, -, -, heq⟩ := mem_updateActive (f := input.appliedAttempt) (fun _ => rfl) hmiddle
  have hsame : some middle.id = input.aggregate.intent.activeAttemptId := by
    rw [hcur.intent, hsettles.id]
    exact hactive
  rw [if_pos hsame] at heq
  show attempt.statuses = input.snapshot.statuses
  rw [← hsettles.statuses, heq]
  rfl

/-- So does `promoteAttemptProjection`. -/
theorem statusesMirrored_promoted {input : PromoteInput} :
    StatusesMirrored (input.promotedStore db) := by
  intro attempt hattempt hactive
  obtain ⟨middle, hmiddle, hsettles⟩ := mem_promotedAttempts hattempt
  obtain ⟨before, -, -, heq⟩ := mem_updateActive (f := input.promotedAttempt) (fun _ => rfl) hmiddle
  have hsame : some middle.id = some input.attempt.id := by
    rw [hsettles.id]
    exact hactive
  rw [if_pos hsame] at heq
  show attempt.statuses = input.snapshot.statuses
  rw [← hsettles.statuses, heq]
  rfl

/-- A candidate update writes the attempt alone, which matters where it has become active. -/
theorem statusesMirrored_candidate {input : CandidateInput} (hi : RowsInv w)
    (h : StatusesMirrored w.current) {candidate : TransactionAttemptRecord}
    (hid : candidate.id = input.attemptId) (hkey : candidate.key ∈ w.current.attemptKeys) :
    StatusesMirrored (updateCandidateAttempt input w.current) ↔
      (w.current.intent.activeAttemptId = some candidate.id →
        input.snapshot.statuses = w.current.execution.statuses) := by
  have hids := hi.attemptIds
  obtain ⟨existing, hmem, hsame⟩ := List.mem_map.mp hkey
  have hname : existing.id = input.attemptId := (congrArg Prod.fst hsame).trans hid
  by_cases hactive : w.current.intent.activeAttemptId = some candidate.id
  · have hrows : (updateCandidateAttempt input w.current).attempts =
        updateAttempt existing.id input.updated w.current.attempts := by
      rw [hname]
      rfl
    have hpoints : (updateCandidateAttempt input w.current).intent.activeAttemptId =
        some existing.id := by
      rw [hname, ← hid]
      exact hactive
    rw [statusesMirrored_updated (f := input.updated) (fun _ => rfl) hids hmem hrows hpoints]
    exact ⟨fun heq _ => heq, fun heq => heq hactive⟩
  · refine iff_of_true ?_ fun hcontra => absurd hcontra hactive
    intro attempt hattempt hsome
    have hother : attempt.id ≠ input.attemptId := by
      intro heq
      exact hactive (by rw [hid, ← heq]; exact hsome.symm)
    obtain ⟨before, hbefore, hbid, heq⟩ := mem_updateAttempt (f := input.updated) (fun _ => rfl) hattempt
    rw [if_neg hother] at heq
    rw [heq] at hsome ⊢
    exact h before hbefore hsome

/-- A report writes both rows. -/
theorem statusesMirrored_marked {input : MarkInput} (hcur : Current input.aggregate db)
    (h : StatusesMirrored db) : StatusesMirrored (input.markedStore db) := by
  intro attempt hattempt hactive
  have hin : attempt ∈ updateActive input.aggregate.intent.activeAttemptId input.markedAttempt
      db.attempts := hattempt
  have hsame : some attempt.id = input.aggregate.intent.activeAttemptId := by
    rw [hcur.intent]
    exact hactive
  rw [← hsame] at hin
  obtain ⟨before, hbefore, hid, heq⟩ := mem_updateAttempt (f := input.markedAttempt) (fun _ => rfl) hin
  rw [if_pos rfl] at heq
  have hmirror := h before hbefore (hid ▸ hactive)
  simp only [TransactionAttemptRecord.statuses, ExecutionRecord.statuses,
    Statuses.mk.injEq] at hmirror
  show attempt.statuses = ⟨input.status, db.execution.chainStatus, db.execution.workflowStatus⟩
  rw [heq, ← hmirror.2.1, ← hmirror.2.2]
  rfl

/-- **One operation** keeps the statuses in agreement exactly where it does what the rows ask. -/
theorem statusesMirrored_iff {op : Op} (hi : RowsInv w)
    (hcur : w.current.execution.version = view.execution.version → Current view w.current)
    (hknown : ∀ attempt ∈ view.attempts, attempt.key ∈ w.current.attemptKeys)
    (h : StatusesMirrored w.current) (hc : op.commit view w.current = some t) :
    StatusesMirrored t ↔ keepsMirror view w.current op := by
  cases op with
  | attach req freshId now =>
      obtain ⟨normalized, hn, ha⟩ := Op.attach_commit hc
      obtain ⟨after, -, -, hw⟩ := attachAttempt_ok ha
      have hview := hcur (attachTransaction_ok hw).2.1
      rw [statusesMirrored_attached hi hview h hw, keepsMirror, (AttachRequest.normalize_ok hn).1]
      simp only [Except.ok.injEq]
      constructor
      · intro hall attempt hmem hsame
        exact hall attempt hmem hsame.symm
      · intro hall attempt hmem hsame
        exact hall attempt hmem hsame.symm
  | mark req now =>
      obtain ⟨after, -, -, hversion, -, rfl⟩ := markAttempt_ok (Op.mark_commit hc).2
      exact iff_of_true (statusesMirrored_marked (hcur hversion) h) trivial
  | observe env =>
      obtain ⟨txHash, result, -, hp⟩ := Op.observe_commit hc
      have hversion := (reconcileProjection_ok hp).1
      obtain ⟨input, rfl, rfl⟩ := reconcileProjection_writes hp
      exact iff_of_true (statusesMirrored_applied (hcur hversion)) trivial
  | probe env index =>
      obtain ⟨candidate, hindex, hwritten⟩ := Op.probe_commit hc
      have hkey : candidate.key ∈ w.current.attemptKeys :=
        hknown candidate (List.mem_filter.mp (List.mem_of_getElem? hindex)).1
      rcases hwritten with ⟨input, hj, rfl⟩ | ⟨input, hj, hp⟩
      · obtain ⟨observed, hobserved, hstays, hid, hsnapshot⟩ := judgeCandidate_update hj
        rw [statusesMirrored_candidate hi h hid.symm hkey, hsnapshot]
        constructor
        · rintro hagrees candidate' observed' hindex' hobserved' -
          cases hindex.symm.trans hindex'
          cases hobserved.symm.trans hobserved'
          exact hagrees
        · intro hall
          exact hall candidate observed hindex hobserved hstays
      · obtain ⟨-, -, rfl⟩ := promoteAttemptProjection_ok hp
        obtain ⟨observed, _, hobserved, hstatus, hmismatch, -⟩ := judgeCandidate_promote hj
        refine iff_of_true statusesMirrored_promoted ?_
        intro candidate' observed' hindex' hobserved' hstays
        cases hindex.symm.trans hindex'
        cases hobserved.symm.trans hobserved'
        exact absurd ⟨hstatus, hmismatch⟩ hstays
  | preflight verified reason rawObservation now =>
      cases hc
      exact iff_of_true h trivial
  | operatorNote text now =>
      cases hc
      exact iff_of_true h trivial

end Operations

/-! ## The run -/

/-- **The active attempt mirrors the execution row in every state exactly of the runs whose steps all
do what the rows ask.** -/
theorem mirrored_run_iff (req : CreateRequest) (acts : List Act) (w : World Store) :
    Run (fun w act w' => OrderedStep w act w' ∧ Mirrored w'.current) (opening req) acts w ↔
      Run (Runs.when (fun w act => keepsMirror act.view w.current act.op) OrderedStep) (opening req)
        acts w := by
  refine Run.good_iff ?_
  intro acts w act w' hrun hst
  have hordered : Run OrderedStep (opening req) acts w := hrun.mono fun _ _ _ hboth => hboth.1
  have hi := evidenceRows_run hordered
  have hopening : Mirrored (opening req).current := by
    intro attempt hmem
    cases hmem
  have hmirror : Mirrored w.current :=
    hrun.inv (fun w => Mirrored w.current) hopening fun _ _ _ _ hboth => hboth.2
  rw [mirrored_iff (hi.step hst)]
  obtain ⟨-, hrows, hlater, t, hc, rfl⟩ := hst
  have hconsistent := consistent_run (consistent_opening req) hordered.of_when
  refine statusesMirrored_iff hi.rows (current_of_version hconsistent hrows) ?_
    ((mirrored_iff hi).mp hmirror) hc
  intro attempt hmem
  exact hi.rows.kept act.later hlater _ (List.mem_map_of_mem hmem)

section Runs

open Scenario

/-- A transaction is prepared and looked for in vain, another one replaces it, and the first is
attached again. -/
def switchedBack : List Op :=
  [attach 'a' true none [outPoint '1'], .observe (node (.ok (absent none))),
    attach 'b' true (some .rebuild) [outPoint '1'], attach 'a' true (some .rebuild) []]

/-- The attempt still says what was observed of it; the execution row has forgotten. -/
theorem switched_back_differs : ¬ ∀ (req : CreateRequest) (acts : List Act) (w : World Store),
    Run OrderedStep (opening req) acts w → Mirrored w.current := by
  intro h
  have hfacts : commitsAll (serviceCreateIntent (create .committed)) switchedBack = true ∧
      ((after .committed switchedBack).attempts.any fun attempt =>
        some attempt.id = (after .committed switchedBack).intent.activeAttemptId &&
          attempt.statuses ≠ (after .committed switchedBack).execution.statuses) = true := by
    decide +kernel
  obtain ⟨hcommits, hdiffers⟩ := hfacts
  obtain ⟨acts, past, hrun⟩ := run_after_alone hcommits
  obtain ⟨attempt, hmem, hfields⟩ := List.any_eq_true.mp hdiffers
  rw [Bool.and_eq_true, decide_eq_true_eq, decide_eq_true_eq] at hfields
  exact hfields.2 (h _ acts _ (ordered_of_alone hrun) attempt hmem hfields.1).2.1

end Runs

end CellFlow
