/-
# CellFlow.Properties.Lifecycle — the submission status of an attempt never rewinds.

`updateSubmission` keeps the status of the execution row from moving backward.  Two writes go around
it: attaching the hash of an earlier attempt starts from a fresh snapshot and overwrites what that
attempt had reached, and a candidate probe writes the status its view had read.  Every other write
advances the status, in the order of `SubmissionStatus.stage`.
-/
import CellFlow.Api.AttemptRows
import CellFlow.Api.Scenario

namespace CellFlow

open Optimistic (World)
open Runs (Run)

/-! ## The order of the statuses -/

/-- From one recorded status to the next: forward in the order of submission, and out of
NODE_REJECTED only to SUBMITTED, where the step has `found` the transaction. -/
def Advances (found : Prop) : SubmissionStatus → SubmissionStatus → Prop
  | .nodeRejected, next => next = .nodeRejected ∨ (next = .submitted ∧ found)
  | _, .nodeRejected => True
  | prior, next => submissionOrder.idxOf prior ≤ submissionOrder.idxOf next

/-- How far a submission has come; a node rejection is overturned by a later acceptance. -/
def SubmissionStatus.stage : SubmissionStatus → Nat
  | .notSubmitted => 0
  | .prepared => 1
  | .broadcasting => 2
  | .submissionUnknown => 3
  | .nodeRejected => 4
  | .submitted => 5

/-- The status has not gone back a stage, and left NODE_REJECTED only where something was found. -/
structure Matures (found : Prop) (prior next : SubmissionStatus) : Prop where
  stage : prior.stage ≤ next.stage
  rejection : prior = .nodeRejected → next = .nodeRejected ∨ found

theorem stage_inj {s s' : SubmissionStatus} (h : s.stage = s'.stage) : s = s' := by
  cases s <;> cases s' <;> first | rfl | (exact absurd h (by decide))

theorem Matures.refl (found : Prop) (s : SubmissionStatus) : Matures found s s :=
  ⟨Nat.le_refl _, fun h => Or.inl h⟩

/-- Between statuses other than NODE_REJECTED, an advance is no step back. -/
theorem advances_iff {found : Prop} {s s' : SubmissionStatus} (hs : s ≠ .nodeRejected)
    (hs' : s' ≠ .nodeRejected) : Advances found s s' ↔ s.stage ≤ s'.stage := by
  have horder : submissionOrder.idxOf s ≤ submissionOrder.idxOf s' ↔ s.stage ≤ s'.stage := by
    revert hs hs'
    cases s <;> cases s' <;> decide
  rw [← horder]
  cases s <;> cases s' <;>
    first
    | exact Iff.rfl
    | exact absurd rfl hs
    | exact absurd rfl hs'

theorem Matures.advances {found : Prop} {s s' : SubmissionStatus} (h : Matures found s s') :
    Advances found s s' := by
  by_cases hs : s = .nodeRejected
  · subst hs
    rcases h.rejection rfl with hsame | hfound
    · exact Or.inl hsame
    · have hstage := h.stage
      cases s' with
      | nodeRejected => exact Or.inl rfl
      | submitted => exact Or.inr ⟨rfl, hfound⟩
      | notSubmitted | prepared | broadcasting | submissionUnknown =>
          exact absurd hstage (by decide)
  · by_cases hs' : s' = .nodeRejected
    · subst hs'
      cases s with
      | nodeRejected => exact absurd rfl hs
      | notSubmitted | prepared | broadcasting | submissionUnknown | submitted => trivial
    · exact (advances_iff hs hs').mpr h.stage

/-- Going back a stage is no advance, except into NODE_REJECTED. -/
theorem not_advances {found : Prop} {s s' : SubmissionStatus} (hrejected : s' ≠ .nodeRejected)
    (h : s'.stage < s.stage) : ¬ Advances found s s' := by
  by_cases hs : s = .nodeRejected
  · subst hs
    rintro (rfl | ⟨rfl, -⟩)
    · exact hrejected rfl
    · exact absurd h (by decide)
  · rw [advances_iff hs hrejected]
    omega

/-- An accepted report is an advance, whatever was observed. -/
theorem updateSubmission_matures {found : Prop} {s t : ExecutionSnapshot} {next : SubmissionStatus}
    (h : updateSubmission s next = .ok t) : Matures found s.submissionStatus next := by
  unfold updateSubmission at h
  split at h
  · cases h
  · split at h
    · cases h
    · split at h
      next hrejected =>
        split at h
        next hnext =>
          rw [hrejected, hnext]
          exact .refl found _
        · cases h
      next hrejected =>
        refine ⟨?_, fun hcontra => absurd hcontra hrejected⟩
        split at h
        next hnext =>
          split at h
          next hfrom =>
            rw [hnext]
            revert hfrom
            cases s.submissionStatus <;> decide
          · cases h
        next hnext =>
          simp only at h
          split at h
          · cases h
          next hback =>
            rw [not_and_or, not_not] at hback
            rcases hback with horder | ⟨hunknown, hsubmitted⟩
            · rw [not_lt] at horder
              revert horder hrejected hnext
              cases s.submissionStatus <;> cases next <;> decide
            · rw [hunknown, hsubmitted]
              decide

/-! ## What the claim says of a step -/

/-- The step has observed the transaction PENDING, PROPOSED or COMMITTED. -/
def Op.finds (txHash : String) : Op → Prop
  | .observe env =>
      ∃ bundle, env.observe txHash = .ok bundle ∧ bundle.observation.status.found = true
  | .probe env _ =>
      ∃ bundle, env.observeCandidate txHash = .ok bundle ∧ bundle.observation.status.found = true
  | _ => False

/-- The status of every attempt advances. -/
def NeverRewinds (op : Op) (db t : Store) : Prop :=
  ∀ a ∈ db.attempts, ∀ b ∈ t.attempts, a.txHash = b.txHash →
    Advances (op.finds a.txHash) a.submissionStatus b.submissionStatus

/-- What an operation must find, for no status to go back. -/
def keepsLifecycle (view : IntentAggregate) (db : Store) : Op → Prop
  | .attach req _ _ =>
      -- an earlier attempt is switched back to only as far as it had come
      ∀ attempt ∈ db.attempts, normalizeTxHash req.txHashInput = .ok attempt.txHash →
        db.execution.txHash ≠ some attempt.txHash →
        attempt.submissionStatus ≠ .nodeRejected ∧
          (req.prepared = true → attempt.submissionStatus = .prepared)
  | .probe _ index =>
      -- the status of the candidate has not changed since it was read
      ∀ candidate, (rivals view)[index]? = some candidate → ∀ attempt ∈ db.attempts,
        attempt.id = candidate.id → attempt.submissionStatus = candidate.submissionStatus
  | _ => True

/-! ## Rows after a write of one status -/

/-- Every recorded attempt has been submitted or prepared, and a rejected one is no candidate. -/
structure Recorded (attempt : TransactionAttemptRecord) : Prop where
  submitted : attempt.submissionStatus ≠ .notSubmitted
  rejected : attempt.submissionStatus = .nodeRejected → attempt.disposition ≠ .active

/-- The statuses are those of `db`, but for the attempt with the id `target`. -/
def StatusWritten (db t : Store) (target : Option String) (s : SubmissionStatus) : Prop :=
  ∀ b ∈ t.attempts, ∃ a ∈ db.attempts, a.id = b.id ∧
    b.submissionStatus = if some b.id = target then s else a.submissionStatus

section Written

variable {w : World Store} {db t : Store} {target : Option String} {s : SubmissionStatus}
  {f : TransactionAttemptRecord → TransactionAttemptRecord}

/-- An update of one attempt writes one status. -/
theorem statusWritten_of_update (hid : ∀ a, (f a).id = a.id) (hs : ∀ a, (f a).submissionStatus = s)
    (hrows : ∀ b ∈ t.attempts, ∃ middle ∈ updateActive target f db.attempts, Settles middle b) :
    StatusWritten db t target s := by
  intro b hb
  obtain ⟨middle, hmiddle, hsettles⟩ := hrows b hb
  obtain ⟨a, ha, haid, heq⟩ := mem_updateActive hid hmiddle
  have hstatus : middle.submissionStatus = b.submissionStatus :=
    congrArg Statuses.submission hsettles.statuses
  refine ⟨a, ha, haid.trans hsettles.id, ?_⟩
  rw [← hstatus, ← hsettles.id]
  split
  next htarget =>
    rw [if_pos htarget] at heq
    rw [heq]
    exact hs a
  next hother =>
    rw [if_neg hother] at heq
    rw [heq]

/-- It leaves every attempt recorded. -/
theorem recorded_of_update (hid : ∀ a, (f a).id = a.id) (hs : ∀ a, (f a).submissionStatus = s)
    (hreal : s ≠ .notSubmitted)
    (hrejected : s = .nodeRejected → ∀ a, (f a).disposition ≠ .active)
    (hrows : ∀ b ∈ t.attempts, ∃ middle ∈ updateActive target f db.attempts, Settles middle b)
    (hdb : ∀ a ∈ db.attempts, Recorded a) : ∀ b ∈ t.attempts, Recorded b := by
  intro b hb
  obtain ⟨middle, hmiddle, hsettles⟩ := hrows b hb
  obtain ⟨a, ha, -, heq⟩ := mem_updateActive hid hmiddle
  have hstatus : middle.submissionStatus = b.submissionStatus :=
    congrArg Statuses.submission hsettles.statuses
  have hrecorded : Recorded middle := by
    split at heq
    · subst heq
      refine ⟨?_, fun hnode => hrejected ((hs a).symm.trans hnode) a⟩
      rw [hs a]
      exact hreal
    · subst heq
      exact hdb middle ha
  refine ⟨hstatus ▸ hrecorded.submitted, ?_⟩
  intro hnode hactive
  exact hrecorded.rejected (hstatus.trans hnode) (hsettles.disposition hactive)

/-- Where the keys stay, attempts with one hash have one id. -/
theorem same_id (hi : RowsInv w) (hkeys : t.attemptKeys = w.current.attemptKeys)
    {a b : TransactionAttemptRecord} (ha : a ∈ w.current.attempts) (hb : b ∈ t.attempts)
    (hhash : a.txHash = b.txHash) : a.id = b.id := by
  have hkey : b.key ∈ w.current.attemptKeys := hkeys ▸ List.mem_map_of_mem hb
  obtain ⟨a', ha', heq⟩ := List.mem_map.mp hkey
  have hone : a = a' := List.inj_on_of_nodup_map hi.attemptHashes ha ha'
    (hhash.trans (congrArg Prod.snd heq).symm)
  rw [hone]
  exact congrArg Prod.fst heq

/-- **A write of one status** rewinds nothing exactly where that status is an advance. -/
theorem neverRewinds_written {o : Op} (hi : RowsInv w)
    (hkeys : t.attemptKeys = w.current.attemptKeys) (hw : StatusWritten w.current t target s) :
    NeverRewinds o w.current t ↔ ∀ a ∈ w.current.attempts, some a.id = target →
      Advances (o.finds a.txHash) a.submissionStatus s := by
  constructor
  · intro h a ha htarget
    have hkey : a.key ∈ t.attemptKeys := hkeys ▸ List.mem_map_of_mem ha
    obtain ⟨b, hb, heq⟩ := List.mem_map.mp hkey
    have hadvances := h a ha b hb (congrArg Prod.snd heq).symm
    obtain ⟨_, -, -, hstatus⟩ := hw b hb
    have hname : some b.id = target := (congrArg some (congrArg Prod.fst heq)).trans htarget
    rw [if_pos hname] at hstatus
    rw [hstatus] at hadvances
    exact hadvances
  · intro h a ha b hb hhash
    have hid := same_id hi hkeys ha hb hhash
    obtain ⟨a', ha', ha'id, hstatus⟩ := hw b hb
    have hone : a' = a := List.inj_on_of_nodup_map hi.attemptIds ha' ha (ha'id.trans hid.symm)
    rw [hstatus]
    split
    next htarget => exact h a ha (by rw [hid]; exact htarget)
    next hother =>
      rw [hone]
      exact (Matures.refl _ _).advances

end Written

/-! ## The invariant -/

/-- The execution row has the status of the active attempt, every attempt a view knows was recorded,
and none has gone back since. -/
structure LifecycleInv (w : World Store) : Prop where
  rows : RowsInv w
  consistent : w.Consistent rowVersion guardedRows
  mirrored : ∀ attempt ∈ w.current.attempts, some attempt.id = w.current.intent.activeAttemptId →
    attempt.submissionStatus = w.current.execution.submissionStatus
  recorded : ∀ view ∈ w.views, ∀ a ∈ view.attempts, Recorded a
  history : ∀ view ∈ w.views, ∀ a ∈ view.attempts, ∀ b ∈ w.current.attempts, a.id = b.id →
    a.submissionStatus.stage ≤ b.submissionStatus.stage

section Steps

variable {w : World Store} {t : Store} {target : Option String} {s : SubmissionStatus}

/-- A commit after which no attempt has gone back. -/
theorem LifecycleInv.commit (hi : LifecycleInv w) (hrows : RowsInv (w.commit t))
    (hconsistent : (w.commit t).Consistent rowVersion guardedRows)
    (hmirrored : ∀ attempt ∈ t.attempts, some attempt.id = t.intent.activeAttemptId →
      attempt.submissionStatus = t.execution.submissionStatus)
    (hrecorded : ∀ b ∈ t.attempts, Recorded b)
    (hstages : ∀ b ∈ t.attempts, (∀ a ∈ w.current.attempts, a.id ≠ b.id) ∨
      ∃ a ∈ w.current.attempts, a.id = b.id ∧ a.submissionStatus.stage ≤ b.submissionStatus.stage) :
    LifecycleInv (w.commit t) := by
  refine ⟨hrows, hconsistent, hmirrored, ?_, ?_⟩
  · intro view hview
    rw [World.views_commit, List.mem_cons] at hview
    rcases hview with rfl | hview
    · exact hrecorded
    · exact hi.recorded view hview
  · intro view hview a ha b hb hid
    rw [World.views_commit, List.mem_cons] at hview
    rcases hview with rfl | hview
    · have hone : a = b := List.inj_on_of_nodup_map hrows.attemptIds ha hb hid
      rw [hone]
    · -- the attempt the view knows is still there
      have hknown := hi.rows.kept view hview a.key (List.mem_map_of_mem ha)
      obtain ⟨a', ha', heq⟩ := List.mem_map.mp hknown
      have ha'id : a'.id = a.id := congrArg Prod.fst heq
      have hbefore := hi.history view hview a ha a' ha' ha'id.symm
      rcases hstages b hb with hfresh | ⟨a'', ha'', ha''id, hstage⟩
      · exact absurd (ha'id.trans hid) (hfresh a' ha')
      · have hone : a'' = a' := List.inj_on_of_nodup_map hi.rows.attemptIds ha'' ha'
          (ha''id.trans (hid.symm.trans ha'id.symm))
        rw [hone] at hstage
        omega

/-- A write of one status, which the attempt it is written to has not passed. -/
theorem LifecycleInv.written (hi : LifecycleInv w) (hrows : RowsInv (w.commit t))
    (hconsistent : (w.commit t).Consistent rowVersion guardedRows)
    (hw : StatusWritten w.current t target s) (hrecorded : ∀ b ∈ t.attempts, Recorded b)
    (hstage : ∀ a ∈ w.current.attempts, some a.id = target → a.submissionStatus.stage ≤ s.stage)
    (hmirror : (t.intent.activeAttemptId = target ∧ t.execution.submissionStatus = s) ∨
      (t.intent.activeAttemptId = w.current.intent.activeAttemptId ∧
        t.execution.submissionStatus = w.current.execution.submissionStatus ∧
        ∀ a ∈ w.current.attempts, some a.id = target → a.submissionStatus = s)) :
    LifecycleInv (w.commit t) := by
  refine hi.commit hrows hconsistent ?_ hrecorded ?_
  · intro b hb hactive
    obtain ⟨a, ha, haid, hstatus⟩ := hw b hb
    rcases hmirror with ⟨htarget, hrow⟩ | ⟨hpointer, hrow, hsame⟩
    · rw [if_pos (hactive.trans htarget)] at hstatus
      rw [hstatus, hrow]
    · have hbefore := hi.mirrored a ha (by rw [haid, hactive, hpointer])
      rw [hrow, ← hbefore, hstatus]
      split
      next htarget => exact (hsame a ha (by rw [haid]; exact htarget)).symm
      next hother => rfl
  · intro b hb
    obtain ⟨a, ha, haid, hstatus⟩ := hw b hb
    refine Or.inr ⟨a, ha, haid, ?_⟩
    rw [hstatus]
    split
    next htarget => exact hstage a ha (by rw [haid]; exact htarget)
    next hother => exact Nat.le_refl _

/-- **An update that matures its attempt** rewinds nothing and keeps the invariant. -/
theorem lifecycle_update {o : Op} {f : TransactionAttemptRecord → TransactionAttemptRecord}
    (hi : LifecycleInv w) (hrows : RowsInv (w.commit t))
    (hconsistent : (w.commit t).Consistent rowVersion guardedRows)
    (hkeys : t.attemptKeys = w.current.attemptKeys) (hid : ∀ a, (f a).id = a.id)
    (hs : ∀ a, (f a).submissionStatus = s) (hreal : s ≠ .notSubmitted)
    (hrejected : s = .nodeRejected → ∀ a, (f a).disposition ≠ .active)
    (hupdate : ∀ b ∈ t.attempts,
      ∃ middle ∈ updateActive target f w.current.attempts, Settles middle b)
    (hmatures : ∀ a ∈ w.current.attempts, some a.id = target →
      Matures (o.finds a.txHash) a.submissionStatus s)
    (hmirror : (t.intent.activeAttemptId = target ∧ t.execution.submissionStatus = s) ∨
      (t.intent.activeAttemptId = w.current.intent.activeAttemptId ∧
        t.execution.submissionStatus = w.current.execution.submissionStatus ∧
        ∀ a ∈ w.current.attempts, some a.id = target → a.submissionStatus = s)) :
    NeverRewinds o w.current t ∧ LifecycleInv (w.commit t) := by
  have hw := statusWritten_of_update hid hs hupdate
  have hdb := hi.recorded w.current (World.current_mem_views w)
  refine ⟨(neverRewinds_written hi.rows hkeys hw).mpr fun a ha htarget =>
    (hmatures a ha htarget).advances, ?_⟩
  exact hi.written hrows hconsistent hw
    (recorded_of_update hid hs hreal hrejected hupdate hdb)
    (fun a ha htarget => (hmatures a ha htarget).stage) hmirror

/-- The active attempt has the status of the row a current view has read. -/
theorem LifecycleInv.active (hi : LifecycleInv w) {view : IntentAggregate} (hcur : Current view w.current)
    {a : TransactionAttemptRecord} (ha : a ∈ w.current.attempts)
    (hactive : some a.id = view.intent.activeAttemptId) :
    a.submissionStatus = view.execution.submissionStatus := by
  rw [hcur.execution]
  exact hi.mirrored a ha (by rw [← hcur.intent]; exact hactive)

/-- A disposition derived from a rejected snapshot is no candidate's. -/
theorem dispositionForSnapshot_rejected {snapshot : ExecutionSnapshot}
    (h : snapshot.submissionStatus = .nodeRejected) : dispositionForSnapshot snapshot ≠ .active := by
  unfold dispositionForSnapshot
  split_ifs with hconfirmed hconflicted hrejected
  · decide
  · decide
  · decide
  · exact absurd (Or.inr h) hrejected

/-- A commit that leaves rows and attempts. -/
theorem lifecycle_untouched {o : Op} (hi : LifecycleInv w) (hrows : RowsInv (w.commit t))
    (hconsistent : (w.commit t).Consistent rowVersion guardedRows)
    (hattempts : t.attempts = w.current.attempts) (hintent : t.intent = w.current.intent)
    (hexecution : t.execution = w.current.execution) :
    NeverRewinds o w.current t ∧ LifecycleInv (w.commit t) := by
  constructor
  · intro a ha b hb hhash
    rw [hattempts] at hb
    have hone : a = b := List.inj_on_of_nodup_map hi.rows.attemptHashes ha hb hhash
    rw [hone]
    exact (Matures.refl _ _).advances
  · refine hi.commit hrows hconsistent ?_ ?_ ?_
    · rw [hattempts, hintent, hexecution]
      exact hi.mirrored
    · rw [hattempts]
      exact hi.recorded w.current (World.current_mem_views w)
    · intro b hb
      rw [hattempts] at hb
      exact Or.inr ⟨b, hb, rfl, Nat.le_refl _⟩

/-- A report. -/
theorem lifecycle_mark (hi : LifecycleInv w) {view : IntentAggregate} {req : MarkRequest} {now : Int}
    (hcur : w.current.execution.version = view.execution.version → Current view w.current)
    (hrows : RowsInv (w.commit t)) (hconsistent : (w.commit t).Consistent rowVersion guardedRows)
    (hc : (Op.mark req now).commit view w.current = some t) :
    NeverRewinds (.mark req now) w.current t ∧ LifecycleInv (w.commit t) := by
  have hkeys := (Op.other_keys (fun _ _ _ h => by cases h) hc).1
  obtain ⟨after, -, hafter, hversion, -, rfl⟩ := markAttempt_ok (Op.mark_commit hc).2
  have hview := hcur hversion
  refine lifecycle_update (f := (req.input view now (snapshotFromExecution view.execution)
    after).markedAttempt) (s := req.status.submission) hi hrows hconsistent hkeys (fun _ => rfl)
    (fun _ => rfl) ?_ ?_ (fun b hb => ⟨b, hb, .refl b⟩) ?_ (Or.inl ⟨?_, rfl⟩)
  · cases req.status <;> decide
  · intro hnode a
    show (if req.status.submission = .nodeRejected then AttemptDisposition.rejected else .active) ≠ _
    rw [if_pos hnode]
    decide
  · intro a ha hactive
    rw [hi.active hview ha hactive]
    exact updateSubmission_matures hafter
  · exact (congrArg IntentRecord.activeAttemptId hview.intent).symm

/-- A reconciliation of the projected transaction. -/
theorem lifecycle_observe (hi : LifecycleInv w) {view : IntentAggregate} {env : ReconcileEnv}
    (hcur : w.current.execution.version = view.execution.version → Current view w.current)
    (hrows : RowsInv (w.commit t)) (hconsistent : (w.commit t).Consistent rowVersion guardedRows)
    (hc : (Op.observe env).commit view w.current = some t) :
    NeverRewinds (.observe env) w.current t ∧ LifecycleInv (w.commit t) := by
  have hkeys := (Op.other_keys (fun _ _ _ h => by cases h) hc).1
  obtain ⟨txHash, result, htx, hp⟩ := Op.observe_commit hc
  obtain ⟨hversion, -, hwritten⟩ := reconcileProjection_ok hp
  have hview := hcur hversion
  -- the status written is that of the row, or an acceptance that was found
  have hinput : ∃ input : ApplyInput, input.aggregate = view ∧ t = input.appliedStore w.current ∧
      (input.snapshot.submissionStatus = view.execution.submissionStatus ∨
        (input.snapshot.submissionStatus = .submitted ∧ (Op.observe env).finds txHash)) := by
    rcases hwritten with ⟨message, applied, -, happ, rfl, -⟩ | ⟨bundle, applied, hanswer, happ, rfl, -⟩
    · refine ⟨_, rfl, rfl, Or.inl ?_⟩
      show applied.snapshot.submissionStatus = _
      rw [(applyChainObservation_ok happ).1]
      exact observedSnapshot_submission _ _
    · refine ⟨_, rfl, rfl, ?_⟩
      have hs : applied.snapshot.submissionStatus = view.execution.submissionStatus := by
        rw [(applyChainObservation_ok happ).1]
        exact observedSnapshot_submission _ _
      have hplanned : (plannedDraft env view bundle txHash applied).snapshot.submissionStatus =
          if rejectionSuperseded view bundle then .submitted
          else view.execution.submissionStatus := by
        rw [plannedDraft_snapshot]
        exact observedDraft_submission view bundle applied hs
      by_cases hsuperseded : rejectionSuperseded view bundle = true
      · rw [if_pos hsuperseded] at hplanned
        rw [rejectionSuperseded, Bool.and_eq_true] at hsuperseded
        exact Or.inr ⟨hplanned, bundle, hanswer, hsuperseded.2⟩
      · rw [if_neg hsuperseded] at hplanned
        exact Or.inl hplanned
  obtain ⟨input, hagg, rfl, hstatus⟩ := hinput
  have hactive : (input.appliedStore w.current).intent.activeAttemptId =
      input.aggregate.intent.activeAttemptId := by
    rw [hagg, hview.intent]
    rfl
  have hbefore : ∀ a ∈ w.current.attempts, some a.id = input.aggregate.intent.activeAttemptId →
      a.submissionStatus = view.execution.submissionStatus := by
    intro a ha ha'
    rw [hagg] at ha'
    exact hi.active hview ha ha'
  have hmatures : ∀ a ∈ w.current.attempts, some a.id = input.aggregate.intent.activeAttemptId →
      Matures ((Op.observe env).finds a.txHash) a.submissionStatus input.snapshot.submissionStatus := by
    intro a ha ha'
    rw [hbefore a ha ha']
    rcases hstatus with hsame | ⟨hsubmitted, hfound⟩
    · rw [hsame]
      exact .refl _ _
    · rw [hagg, hview.intent] at ha'
      have hprojected := hi.rows.points.active hi.rows.ids ha ha'
      rw [← hview.execution, htx, Option.some.injEq] at hprojected
      rw [hsubmitted, ← hprojected]
      refine ⟨?_, fun _ => Or.inr hfound⟩
      cases view.execution.submissionStatus <;> decide
  have hreal : input.snapshot.submissionStatus ≠ .notSubmitted := by
    rcases hstatus with hsame | ⟨hsubmitted, -⟩
    · obtain ⟨a, ha, hactive⟩ := hi.rows.points.exists_active (by rw [← hview.execution, htx]; simp)
      rw [hsame, ← hi.active hview ha (by rw [hview.intent]; exact hactive)]
      exact (hi.recorded w.current (World.current_mem_views w) a ha).submitted
    · rw [hsubmitted]
      decide
  exact lifecycle_update hi hrows hconsistent hkeys (f := input.appliedAttempt) (fun _ => rfl)
    (fun _ => rfl) hreal (fun hnode _ => dispositionForSnapshot_rejected hnode)
    (fun b hb => mem_appliedAttempts hb) hmatures (Or.inl ⟨hactive, rfl⟩)

/-- A probe of a candidate whose status has not changed since it was read. -/
theorem lifecycle_probe (hi : LifecycleInv w) {view : IntentAggregate} {env : ReconcileEnv}
    {index : Nat} (hview : ∀ a ∈ view.attempts, Recorded a)
    (hrows : RowsInv (w.commit t)) (hconsistent : (w.commit t).Consistent rowVersion guardedRows)
    (hknown : ∀ a ∈ view.attempts, ∀ b ∈ w.current.attempts, a.id = b.id →
      a.submissionStatus.stage ≤ b.submissionStatus.stage)
    (hc : (Op.probe env index).commit view w.current = some t) :
    (NeverRewinds (.probe env index) w.current t ↔
        keepsLifecycle view w.current (.probe env index)) ∧
      (keepsLifecycle view w.current (.probe env index) → LifecycleInv (w.commit t)) := by
  have hkeys := (Op.other_keys (fun _ _ _ h => by cases h) hc).1
  obtain ⟨candidate, hindex, hwritten⟩ := Op.probe_commit hc
  obtain ⟨hmem, hrival⟩ := List.mem_filter.mp (List.mem_of_getElem? hindex)
  rw [decide_eq_true_eq] at hrival
  have hcandidate := hview candidate hmem
  have hbase : (candidateBase view candidate).submissionStatus = candidate.submissionStatus := by
    show (if candidate.submissionStatus = .notSubmitted then SubmissionStatus.submitted
      else candidate.submissionStatus) = _
    rw [if_neg hcandidate.submitted]
  -- both verdicts write the status that was read in the row of the candidate
  have hupdate : ∃ f : TransactionAttemptRecord → TransactionAttemptRecord,
      (∀ a, (f a).id = a.id) ∧ (∀ a, (f a).submissionStatus = candidate.submissionStatus) ∧
      (∀ b ∈ t.attempts,
        ∃ middle ∈ updateActive (some candidate.id) f w.current.attempts, Settles middle b) ∧
      (∀ a, candidate.submissionStatus = .nodeRejected → (f a).disposition ≠ .active) ∧
      ((t.intent.activeAttemptId = some candidate.id ∧
          t.execution.submissionStatus = candidate.submissionStatus) ∨
        (t.intent.activeAttemptId = w.current.intent.activeAttemptId ∧
          t.execution.submissionStatus = w.current.execution.submissionStatus)) := by
    rcases hwritten with ⟨input, hj, rfl⟩ | ⟨input, hj, hp⟩
    · obtain ⟨observed, -, -, hid, hsnapshot⟩ := judgeCandidate_update hj
      have hs : input.snapshot.submissionStatus = candidate.submissionStatus := by
        rw [hsnapshot, probedSnapshot, ← hbase]
        split
        · rfl
        · exact observedSnapshot_submission _ _
      refine ⟨input.updated, fun _ => rfl, fun _ => hs, ?_, ?_, Or.inr ⟨rfl, rfl⟩⟩
      · intro b hb
        rw [← hid]
        exact ⟨b, hb, .refl b⟩
      · intro a hnode
        exact dispositionForSnapshot_rejected (hs.trans hnode)
    · obtain ⟨observed, applied, -, -, -, happ, -, hattempt, hsnapshot, -⟩ := judgeCandidate_promote hj
      have hs : input.snapshot.submissionStatus = candidate.submissionStatus := by
        rw [hsnapshot, (applyChainObservation_ok happ).1, ← hbase]
        exact observedSnapshot_submission _ _
      obtain ⟨-, -, rfl⟩ := promoteAttemptProjection_ok hp
      refine ⟨input.promotedAttempt, fun _ => rfl, fun _ => hs, ?_, ?_, Or.inl ⟨?_, hs⟩⟩
      · intro b hb
        rw [← hattempt]
        exact mem_promotedAttempts hb
      · intro a hnode
        exact dispositionForSnapshot_rejected (hs.trans hnode)
      · rw [← hattempt]
        rfl
  obtain ⟨f, hid, hs, hupdate, hrejected, hmirror⟩ := hupdate
  have hkeeps : keepsLifecycle view w.current (.probe env index) ↔
      ∀ a ∈ w.current.attempts, a.id = candidate.id →
        a.submissionStatus = candidate.submissionStatus := by
    constructor
    · intro h
      exact h candidate hindex
    · intro h candidate' hindex'
      cases hindex.symm.trans hindex'
      exact h
  rw [hkeeps, neverRewinds_written hi.rows hkeys (statusWritten_of_update hid hs hupdate)]
  refine ⟨⟨?_, ?_⟩, ?_⟩
  · intro hadvances a ha hname
    by_contra hne
    have hstage := hknown candidate hmem a ha hname.symm
    have hother : candidate.submissionStatus.stage ≠ a.submissionStatus.stage :=
      fun heq => hne (stage_inj heq).symm
    refine not_advances (fun hnode => hcandidate.rejected hnode hrival.1) ?_
      (hadvances a ha (congrArg some hname))
    omega
  · intro hsame a ha hname
    rw [hsame a ha (Option.some.inj hname)]
    exact (Matures.refl _ _).advances
  · intro hsame
    refine (lifecycle_update (o := .probe env index) hi hrows hconsistent hkeys hid hs
      hcandidate.submitted (fun hnode a => hrejected a hnode) hupdate ?_ ?_).2
    · intro a ha hname
      rw [hsame a ha (Option.some.inj hname)]
      exact .refl _ _
    · rcases hmirror with hboth | ⟨hpointer, hrow⟩
      · exact Or.inl hboth
      · exact Or.inr ⟨hpointer, hrow, fun a ha hname => hsame a ha (Option.some.inj hname)⟩

/-- The status a request writes is an advance from what was recorded. -/
theorem advances_requested {prior : SubmissionStatus} {prepared : Bool}
    (hreal : prior ≠ .notSubmitted) :
    Advances False prior (if prepared then .prepared else .submitted) ↔
      prior ≠ .nodeRejected ∧ (prepared = true → prior = .prepared) := by
  have hrequested : (if prepared then SubmissionStatus.prepared else .submitted) ≠ .nodeRejected := by
    cases prepared <;> decide
  by_cases hnode : prior = .nodeRejected
  · subst hnode
    refine iff_of_false ?_ fun h => h.1 rfl
    rintro (hsame | ⟨-, hfalse⟩)
    · exact hrequested hsame
    · exact hfalse
  · rw [advances_iff hnode hrequested]
    revert hreal hnode
    cases prepared <;> cases prior <;> decide

theorem matures_requested {prior : SubmissionStatus} {prepared : Bool}
    (hnode : prior ≠ .nodeRejected) (hprepared : prepared = true → prior = .prepared) :
    Matures False prior (if prepared then .prepared else .submitted) := by
  refine ⟨?_, fun h => absurd h hnode⟩
  cases prepared with
  | true =>
      rw [hprepared rfl]
      exact Nat.le_refl _
  | false => cases prior <;> decide

/-- The attempt that owns the hash gets the status of the request. -/
theorem lifecycle_reattached (hi : LifecycleInv w) {o : Op} {input : AttachInput}
    {existing : TransactionAttemptRecord} (hrows : RowsInv (w.commit t))
    (hconsistent : (w.commit t).Consistent rowVersion guardedRows)
    (hop : ∀ hash, ¬ o.finds hash) (hreal : input.submissionStatus ≠ .notSubmitted)
    (hnode : input.submissionStatus ≠ .nodeRejected) (hmem : existing ∈ w.current.attempts)
    (hattempts : t.attempts = updateAttempt existing.id input.reattached w.current.attempts)
    (hactive : t.intent.activeAttemptId = some existing.id)
    (hrow : t.execution.submissionStatus = input.submissionStatus) :
    (NeverRewinds o w.current t ↔
        Advances False existing.submissionStatus input.submissionStatus) ∧
      (Matures False existing.submissionStatus input.submissionStatus →
        LifecycleInv (w.commit t)) := by
  have hkeys : t.attemptKeys = w.current.attemptKeys := by
    rw [Store.attemptKeys, hattempts]
    exact updateAttempt_kept (f := input.reattached) (fun _ => rfl) _ _
  have hupdate : ∀ b ∈ t.attempts, ∃ middle ∈
      updateActive (some existing.id) input.reattached w.current.attempts, Settles middle b := by
    intro b hb
    rw [hattempts] at hb
    exact ⟨b, hb, .refl b⟩
  have honly : ∀ a ∈ w.current.attempts, some a.id = some existing.id → a = existing :=
    fun a ha hid => List.inj_on_of_nodup_map hi.rows.attemptIds ha hmem (Option.some.inj hid)
  have hnothing : o.finds existing.txHash ↔ False := iff_of_false (hop _) not_false
  constructor
  · rw [neverRewinds_written hi.rows hkeys (statusWritten_of_update (f := input.reattached)
      (fun _ => rfl) (fun _ => rfl) hupdate)]
    constructor
    · intro h
      have hadvances := h existing hmem rfl
      rwa [propext hnothing] at hadvances
    · intro h a ha hid
      rw [honly a ha hid, propext hnothing]
      exact h
  · intro hmatures
    refine (lifecycle_update (o := o) hi hrows hconsistent hkeys (f := input.reattached)
      (fun _ => rfl) (fun _ => rfl) hreal (fun h => absurd h hnode) hupdate ?_
      (Or.inl ⟨hactive, hrow⟩)).2
    intro a ha hid
    rw [honly a ha hid, propext hnothing]
    exact hmatures

/-- A new attempt leaves the statuses of the others. -/
theorem lifecycle_inserted (hi : LifecycleInv w) {o : Op} {input : AttachInput}
    (hrows : RowsInv (w.commit t)) (hconsistent : (w.commit t).Consistent rowVersion guardedRows)
    (hreal : input.submissionStatus ≠ .notSubmitted) (hnode : input.submissionStatus ≠ .nodeRejected)
    (hnew : ∀ attempt ∈ w.current.attempts, attempt.txHash ≠ input.txHash)
    (hinsert : input.insertGuard w.current = .ok ())
    (hattempts : t.attempts = input.insertedAttempts w.current)
    (hactive : t.intent.activeAttemptId = some input.freshId)
    (hrow : t.execution.submissionStatus = input.submissionStatus) :
    NeverRewinds o w.current t ∧ LifecycleInv (w.commit t) := by
  have hdb := hi.recorded w.current (World.current_mem_views w)
  have hbefore : ∀ b ∈ t.attempts, b = input.newAttempt w.current ∨ (b.id ≠ input.freshId ∧
      ∃ a ∈ w.current.attempts, a.id = b.id ∧ a.txHash = b.txHash ∧
        a.submissionStatus = b.submissionStatus ∧
        (b.disposition = .active → a.disposition = .active)) := by
    intro b hb
    rw [hattempts] at hb
    rcases mem_insertedAttempts hinsert hb with hsame | ⟨hfresh, a, ha, hid, heq⟩
    · exact Or.inl hsame
    · refine Or.inr ⟨hfresh, a, ha, hid, ?_⟩
      split at heq
      · subst heq
        exact ⟨rfl, rfl, fun hcontra => absurd hcontra (priorAttemptDisposition_ne_active _)⟩
      · subst heq
        exact ⟨rfl, rfl, fun h => h⟩
  constructor
  · intro a ha b hb hhash
    rcases hbefore b hb with rfl | ⟨-, a', ha', hid, hhash', hstatus, -⟩
    · exact absurd hhash (hnew a ha)
    · have hone : a = a' :=
        List.inj_on_of_nodup_map hi.rows.attemptHashes ha ha' (hhash.trans hhash'.symm)
      rw [hone, hstatus]
      exact (Matures.refl _ _).advances
  · refine hi.commit hrows hconsistent ?_ ?_ ?_
    · intro b hb hid
      rw [hactive] at hid
      rcases hbefore b hb with rfl | ⟨hfresh, -⟩
      · exact hrow.symm
      · exact absurd (Option.some.inj hid) hfresh
    · intro b hb
      rcases hbefore b hb with rfl | ⟨-, a, ha, -, -, hstatus, hdisposition⟩
      · exact ⟨hreal, fun h => absurd h hnode⟩
      · refine ⟨hstatus ▸ (hdb a ha).submitted, fun h hcandidate => ?_⟩
        exact (hdb a ha).rejected (hstatus.trans h) (hdisposition hcandidate)
    · intro b hb
      rcases hbefore b hb with rfl | ⟨-, a, ha, hid, -, hstatus, -⟩
      · refine Or.inl fun a ha hid => (AttachInput.insertGuard_ok hinsert).2 ?_
        exact List.mem_map.mpr ⟨a, ha, hid⟩
      · exact Or.inr ⟨a, ha, hid, hstatus ▸ Nat.le_refl _⟩

/-- An attach: a new hash touches no recorded status, and the projected one is guarded. -/
theorem lifecycle_attach (hi : LifecycleInv w) {view : IntentAggregate} {req : AttachRequest}
    {freshId : String} {now : Int}
    (hcur : w.current.execution.version = view.execution.version → Current view w.current)
    (hrows : RowsInv (w.commit t)) (hconsistent : (w.commit t).Consistent rowVersion guardedRows)
    (hc : (Op.attach req freshId now).commit view w.current = some t) :
    (NeverRewinds (.attach req freshId now) w.current t ↔
        keepsLifecycle view w.current (.attach req freshId now)) ∧
      (keepsLifecycle view w.current (.attach req freshId now) → LifecycleInv (w.commit t)) := by
  obtain ⟨normalized, hn, ha⟩ := Op.attach_commit hc
  obtain ⟨after, -, hafter, hw⟩ := attachAttempt_ok ha
  obtain ⟨hhash, -, -, hstatus, -⟩ := AttachRequest.normalize_ok hn
  have hview := hcur (attachTransaction_ok hw).2.1
  have hdb := hi.recorded w.current (World.current_mem_views w)
  generalize hinput : normalized.input view freshId now (snapshotFromExecution view.execution) after =
    input at hw
  have hnamed : input.txHash = normalized.txHash := by rw [← hinput]; rfl
  have hgiven : input.submissionStatus = normalized.submissionStatus := by rw [← hinput]; rfl
  have hrequested := hgiven.trans hstatus
  have hreal : input.submissionStatus ≠ .notSubmitted := by
    rw [hrequested]
    split <;> decide
  have hnode : input.submissionStatus ≠ .nodeRejected := by
    rw [hrequested]
    split <;> decide
  obtain ⟨-, -, -, ⟨existing, number, hmem, hsame, -, ht⟩ | ⟨hnew, hinsert, ht⟩⟩ :=
    attachTransaction_ok hw
  · obtain ⟨hgood, hinv⟩ := lifecycle_reattached (o := .attach req freshId now) hi hrows hconsistent
      (fun _ h => h) hreal hnode hmem (by rw [ht]; rfl) (by rw [ht]; rfl) (by rw [ht]; simp)
    have hone : ∀ a ∈ w.current.attempts, normalizeTxHash req.txHashInput = .ok a.txHash →
        a = existing := fun a ha hown => List.inj_on_of_nodup_map hi.rows.attemptHashes ha hmem
          ((Except.ok.inj (hown.symm.trans hhash)).trans (hnamed.symm.trans hsame.symm))
    by_cases hprojected : w.current.execution.txHash = some existing.txHash
    · -- the projected transaction: `updateSubmission` started from its status
      have hactive := hi.rows.points.projected hi.rows.hashes hmem hprojected
      have hsameView : view.execution.txHash = some normalized.txHash := by
        rw [hview.execution, hprojected, hsame, hnamed]
      rw [if_neg fun h => h.2 hsameView, ← hgiven] at hafter
      have hmatures : Matures False existing.submissionStatus input.submissionStatus := by
        rw [hi.active hview hmem (by rw [hview.intent]; exact hactive)]
        exact updateSubmission_matures hafter
      refine ⟨iff_of_true (hgood.mpr hmatures.advances) ?_, fun _ => hinv hmatures⟩
      intro a ha hown hother
      exact absurd (hone a ha hown ▸ hprojected) hother
    · have hasked : keepsLifecycle view w.current (.attach req freshId now) ↔
          existing.submissionStatus ≠ .nodeRejected ∧
            (req.prepared = true → existing.submissionStatus = .prepared) := by
        constructor
        · intro h
          exact h existing hmem (by rw [hhash, hsame, hnamed]) hprojected
        · intro h a ha hown _
          rw [hone a ha hown]
          exact h
      rw [hasked, hgood, hrequested]
      refine ⟨advances_requested (hdb existing hmem).submitted, fun h => hinv ?_⟩
      rw [hrequested]
      exact matures_requested h.1 h.2
  · obtain ⟨hgood, hinv⟩ := lifecycle_inserted (o := .attach req freshId now) hi hrows hconsistent
      hreal hnode hnew hinsert (by rw [ht]; rfl) (by rw [ht]; rfl) (by rw [ht]; simp)
    refine ⟨iff_of_true hgood ?_, fun _ => hinv⟩
    intro a ha hown
    exact absurd ((Except.ok.inj (hown.symm.trans hhash)).trans hnamed.symm) (hnew a ha)

/-- **One operation.** -/
theorem LifecycleInv.step (hi : LifecycleInv w) {act : Act} {w' : World Store} (h : Step w act w') :
    (NeverRewinds act.op w.current w'.current ↔ keepsLifecycle act.view w.current act.op) ∧
      (keepsLifecycle act.view w.current act.op → LifecycleInv w') := by
  have hrows' := hi.rows.step h
  have hconsistent' := Step.consistent hi.consistent h
  obtain ⟨hrows, hlater, t, hc, rfl⟩ := h
  have hcur := current_of_version hi.consistent hrows
  cases hop : act.op with
  | attach req freshId now =>
      rw [hop] at hc
      exact lifecycle_attach hi hcur hrows' hconsistent' hc
  | mark req now =>
      rw [hop] at hc
      obtain ⟨hgood, hinv⟩ := lifecycle_mark hi hcur hrows' hconsistent' hc
      exact ⟨iff_of_true hgood trivial, fun _ => hinv⟩
  | observe env =>
      rw [hop] at hc
      obtain ⟨hgood, hinv⟩ := lifecycle_observe hi hcur hrows' hconsistent' hc
      exact ⟨iff_of_true hgood trivial, fun _ => hinv⟩
  | probe env index =>
      rw [hop] at hc
      exact lifecycle_probe hi (hi.recorded act.later hlater) hrows' hconsistent'
        (hi.history act.later hlater) hc
  | preflight verified reason rawObservation now =>
      rw [hop] at hc
      cases hc
      obtain ⟨hgood, hinv⟩ := lifecycle_untouched (o := .preflight verified reason rawObservation now)
        hi hrows' hconsistent' rfl rfl rfl
      exact ⟨iff_of_true hgood trivial, fun _ => hinv⟩
  | operatorNote text now =>
      rw [hop] at hc
      cases hc
      obtain ⟨hgood, hinv⟩ := lifecycle_untouched (o := .operatorNote text now) hi hrows'
        hconsistent' rfl rfl rfl
      exact ⟨iff_of_true hgood trivial, fun _ => hinv⟩

end Steps

/-! ## Every interleaving -/

theorem lifecycleInv_opening (req : CreateRequest) : LifecycleInv (opening req) where
  rows := rowsInv_opening req
  consistent := consistent_opening req
  mirrored := by
    intro attempt hmem
    cases hmem
  recorded := by
    intro view hview a ha
    rw [opening, World.views, List.mem_singleton] at hview
    rw [hview] at ha
    cases ha
  history := by
    intro view hview a ha
    rw [opening, World.views, List.mem_singleton] at hview
    rw [hview] at ha
    cases ha

/-- **No step of a run rewinds an attempt exactly where every step finds what it must.** -/
theorem never_rewinds_iff (req : CreateRequest) (acts : List Act) (w : World Store) :
    Run (fun w act w' => Step w act w' ∧ NeverRewinds act.op w.current w'.current) (opening req)
        acts w ↔
      Run (Runs.when (fun w act => keepsLifecycle act.view w.current act.op) Step) (opening req)
        acts w := by
  refine Run.good_iff (fun acts w act w' hrun hst => ?_)
  have hi : LifecycleInv w := hrun.inv LifecycleInv (lifecycleInv_opening req)
    fun _ _ _ hi hboth => (hi.step hboth.1).2 ((hi.step hboth.1).1.mp hboth.2)
  exact (hi.step hst).1

section Runs

open Scenario

/-- A transaction is tracked, a replacement of it is prepared, and it is prepared again. -/
def preparedAgain : List Op :=
  [attach 'a' false none [outPoint '1'],
    attach 'b' true (some .rbfReplacement) [outPoint '1']]

/-- The attempt that was SUBMITTED is PREPARED again. -/
theorem preparedAgain_rewinds : ¬ ∀ (req : CreateRequest) (acts : List Act) (w : World Store),
    Run Step (opening req) acts w → ∀ act w', Step w act w' →
      NeverRewinds act.op w.current w'.current := by
  intro h
  have hfacts : commitsAll (serviceCreateIntent (create .committed)) preparedAgain = true ∧
      ((attach 'a' true (some .rebuild) []).commit (after .committed preparedAgain).aggregate
        (after .committed preparedAgain)).isSome ∧
      ∃ a ∈ (after .committed preparedAgain).attempts,
        ∃ b ∈ (perform (after .committed preparedAgain)
            (attach 'a' true (some .rebuild) [])).attempts,
          a.txHash = b.txHash ∧ a.submissionStatus = .submitted ∧ b.submissionStatus = .prepared := by
    decide +kernel
  obtain ⟨hcommits, hlast, a, ha, b, hb, hhash, hbefore, hafter⟩ := hfacts
  obtain ⟨acts, past, hrun⟩ := run_after hcommits
  have hadvances := h _ acts _ hrun _ _ (step_alone (perform_commit hlast)) a ha b hb hhash
  rw [hbefore, hafter] at hadvances
  exact not_advances (by decide) (by decide) hadvances

end Runs

end CellFlow
