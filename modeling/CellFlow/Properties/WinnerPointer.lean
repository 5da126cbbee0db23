/-
# CellFlow.Properties.WinnerPointer — what `winning_attempt_id` promises.

A set pointer should name the active attempt, confirmed on both rows, with no other attempt still
ACTIVE.  A confirmation sets it together with all of this, and a new transaction clears it, but every
other write leaves it as it stands: a reorg, a conflict, a submission report, a promotion that is not
confirmed yet, and a candidate update, which is not even checked against the version.
-/
import CellFlow.Api.AttemptRows
import CellFlow.Api.CommittedRow
import CellFlow.Api.Scenario

namespace CellFlow

open Optimistic (World)
open Runs (Run)

/-! ## Truthful pointers -/

/-- The attempt is the confirmed, active one, and no other attempt is a candidate. -/
structure Wins (db : Store) (winner : String) : Prop where
  active : db.intent.activeAttemptId = some winner
  confirmed : db.execution.workflowStatus = .confirmed
  projected : ∃ attempt ∈ db.attempts, attempt.id = winner ∧ attempt.disposition = .confirmed ∧
    db.execution.txHash = some attempt.txHash
  alone : ∀ attempt ∈ db.attempts, attempt.id ≠ winner → attempt.disposition ≠ .active

/-- A set pointer names an attempt that wins. -/
def WinnerTruthful (db : Store) : Prop :=
  ∀ winner, db.intent.winningAttemptId = some winner → Wins db winner

/-! ## What an operation must not do -/

/-- Every answer about a confirmed row leaves it confirmed: its commit survives, or is answered again
at the depth of the policy, and nothing proves a conflict. -/
def sustainsConfirmation (env : ReconcileEnv) (view : IntentAggregate) : Prop :=
  ∀ txHash bundle applied, view.execution.txHash = some txHash →
    env.observe txHash = .ok bundle →
    applyChainObservation (snapshotFromExecution view.execution) bundle.observation =
      .ok applied →
    stepConflicts env view bundle txHash applied = false ∧
      (preservesCommit (snapshotFromExecution view.execution) bundle.observation = true ∨
        (bundle.observation.status = .committed ∧
          isConfirmationSatisfied view.execution.confirmationPolicy .committed
            (computeConfirmationCount bundle.observation.blockNumber
              bundle.observation.tipBlockNumber) = true))

/-- The disposition a candidate is left with by an answer that does not promote it. -/
def probedDisposition (candidate : TransactionAttemptRecord) (status : ObservedStatus) :
    AttemptDisposition :=
  -- a COMMITTED answer that does not promote shows another signed payload
  if status = .committed then .conflicted
  else if candidate.chainStatus = .committed ∧ candidate.workflowStatus = .confirmed then .confirmed
  else if candidate.submissionStatus = .nodeRejected ∨
      (candidate.chainStatus ≠ .committed ∧ status = .rejected) then .rejected
  else .active

/-- An answer about a candidate leaves the pointer true: a promotion is confirmed at once, and any
other answer confirms the winner itself or reactivates no rival. -/
def probeKeepsWinner (env : ReconcileEnv) (view : IntentAggregate) (winner : String)
    (candidate : TransactionAttemptRecord) (observed : RpcObservationBundle) : Prop :=
  if observed.observation.status = .committed ∧ candidateMismatch env candidate observed = none then
    isConfirmationSatisfied view.execution.confirmationPolicy .committed
      (computeConfirmationCount observed.observation.blockNumber
        observed.observation.tipBlockNumber) = true
  else if candidate.id = winner then
    probedDisposition candidate observed.observation.status = .confirmed
  else probedDisposition candidate observed.observation.status ≠ .active

/-- What a set pointer asks of an operation. -/
def keepsWinner (view : IntentAggregate) (db : Store) : Op → Prop
  | .mark _ _ => db.intent.winningAttemptId = none
  | .observe env => db.intent.winningAttemptId = none ∨ sustainsConfirmation env view
  | .probe env index =>
      ∀ winner candidate observed, db.intent.winningAttemptId = some winner →
        (rivals view)[index]? = some candidate →
        env.observeCandidate candidate.txHash = .ok observed →
        probeKeepsWinner env view winner candidate observed
  | _ => True

/-! ## Writes that leave the pointer -/

section Writes

variable {w : World Store} {db t : Store}

theorem winnerTruthful_unset (h : db.intent.winningAttemptId = none) : WinnerTruthful db := by
  intro winner hw
  rw [h] at hw
  cases hw

/-- Where the row is not confirmed, only an empty pointer is truthful. -/
theorem winnerTruthful_iff_of_unconfirmed (h : db.execution.workflowStatus ≠ .confirmed) :
    WinnerTruthful db ↔ db.intent.winningAttemptId = none := by
  constructor
  · intro htruth
    cases hw : db.intent.winningAttemptId with
    | none => rfl
    | some winner => exact absurd (htruth winner hw).confirmed h
  · exact winnerTruthful_unset

/-- A write to the winner that leaves it confirmed, and to no other attempt that makes it active. -/
theorem Wins.rewritten {winner : String} {f : TransactionAttemptRecord → TransactionAttemptRecord}
    (h : Wins db winner) (hkeys : ∀ a, (f a).key = a.key)
    (hdisposition : ∀ a, (f a).disposition = a.disposition)
    (hrows : t.attempts = db.attempts.map f)
    (hactive : t.intent.activeAttemptId = db.intent.activeAttemptId)
    (htx : t.execution.txHash = db.execution.txHash)
    (hworkflow : t.execution.workflowStatus = db.execution.workflowStatus) : Wins t winner := by
  have hid : ∀ a, (f a).id = a.id := fun a => congrArg Prod.fst (hkeys a)
  have hhash : ∀ a, (f a).txHash = a.txHash := fun a => congrArg Prod.snd (hkeys a)
  obtain ⟨attempt, hmem, hwinner, hconfirmed, hprojected⟩ := h.projected
  refine ⟨hactive.trans h.active, hworkflow.trans h.confirmed, ⟨f attempt, ?_, ?_, ?_, ?_⟩, ?_⟩
  · rw [hrows]
    exact List.mem_map_of_mem hmem
  · exact (hid attempt).trans hwinner
  · exact (hdisposition attempt).trans hconfirmed
  · rw [htx, hprojected, hhash]
  · intro other hother hne
    rw [hrows] at hother
    obtain ⟨before, hbefore, rfl⟩ := List.mem_map.mp hother
    rw [hid] at hne
    rw [hdisposition]
    exact h.alone before hbefore hne

/-- A confirmation: the attempt of a key is updated to CONFIRMED and the others step back. -/
theorem wins_of_confirmation {winner : String}
    {f : TransactionAttemptRecord → TransactionAttemptRecord} {key : String × String}
    (hkey : key ∈ db.attemptKeys) (hwinner : key.1 = winner) (hkeys : ∀ a, (f a).key = a.key)
    (hconfirmed : ∀ a, (f a).disposition = .confirmed)
    (hrows : t.attempts = supersedeOthers winner (updateAttempt winner f db.attempts))
    (hactive : t.intent.activeAttemptId = some winner)
    (htx : t.execution.txHash = some key.2) (hworkflow : t.execution.workflowStatus = .confirmed) :
    Wins t winner := by
  subst hwinner
  obtain ⟨attempt, hmem, rfl⟩ := List.mem_map.mp hkey
  have hid : (f attempt).id = attempt.id := congrArg Prod.fst (hkeys attempt)
  have hhash : (f attempt).txHash = attempt.txHash := congrArg Prod.snd (hkeys attempt)
  refine ⟨hactive, hworkflow, ⟨f attempt, ?_, hid, hconfirmed attempt, ?_⟩, ?_⟩
  · rw [hrows]
    refine List.mem_map.mpr ⟨f attempt, ?_, if_neg fun hother => hother.1 hid⟩
    exact List.mem_map.mpr ⟨attempt, hmem, if_pos rfl⟩
  · rw [htx, hhash]
    rfl
  · intro other hother hne
    rw [hrows] at hother
    obtain ⟨before, -, rfl⟩ := List.mem_map.mp hother
    split
    · simp
    next hkept =>
      rw [if_neg hkept] at hne
      intro hstill
      exact hkept ⟨hne, hstill⟩

/-- An attach clears the pointer, or keeps the row it is about. -/
theorem winnerTruthful_attached {input : AttachInput} (hi : RowsInv w)
    (hcur : Current input.aggregate w.current) (h : WinnerTruthful w.current)
    (ht : attachTransaction input w.current = .ok t) : WinnerTruthful t := by
  have hcreates : input.creatingAttempt = true → t.intent.winningAttemptId = none := by
    intro hcreate
    obtain ⟨-, -, -, ⟨_, _, -, -, -, rfl⟩ | ⟨-, -, rfl⟩⟩ := attachTransaction_ok ht <;>
      exact if_pos hcreate
  by_cases hcreate : input.creatingAttempt = true
  · exact winnerTruthful_unset (hcreates hcreate)
  have htx : w.current.execution.txHash = some input.txHash :=
    not_not.mp (mt (creatingAttempt_iff hcur).mpr hcreate)
  obtain ⟨-, -, -, ⟨existing, number, hmem, hhash, -, rfl⟩ | ⟨hnew, -, -⟩⟩ := attachTransaction_ok ht
  · intro winner hwinner
    have hwins : Wins w.current winner := by
      refine h winner ?_
      rw [← hwinner, ← hcur.intent]
      exact (if_neg hcreate).symm
    have hrow : (input.attachedExecution w.current.execution).workflowStatus =
        w.current.execution.workflowStatus := by
      rw [AttachInput.attachedExecution, if_neg hcreate]
    refine hwins.rewritten
      (f := fun a => if a.id = existing.id then input.reattached a else a) ?_ ?_ rfl ?_ ?_ hrow
    · intro a
      split <;> rfl
    · intro a
      split <;> rfl
    · exact hi.points.projected hi.hashes hmem (hhash ▸ htx)
    · rw [AttachInput.attachedStore_execution, AttachInput.attachedExecution_txHash, htx]
  · exact absurd (hi.points.creates hcur hnew) hcreate

/-- A report takes the confirmation from the attempt, so it needs an empty pointer. -/
theorem winnerTruthful_marked {input : MarkInput} (hcur : Current input.aggregate db)
    (h : WinnerTruthful db) :
    WinnerTruthful (input.markedStore db) ↔ db.intent.winningAttemptId = none := by
  constructor
  · intro htruth
    by_contra hne
    obtain ⟨winner, hwinner⟩ := Option.ne_none_iff_exists'.mp hne
    have hactive : input.aggregate.intent.activeAttemptId = some winner := by
      rw [hcur.intent]
      exact (h winner hwinner).active
    obtain ⟨attempt, hmem, hid, hconfirmed, -⟩ := (htruth winner hwinner).projected
    have hmem' : attempt ∈ updateActive input.aggregate.intent.activeAttemptId input.markedAttempt
        db.attempts := hmem
    rw [hactive] at hmem'
    obtain ⟨before, -, rfl⟩ := List.mem_map.mp hmem'
    split at hconfirmed
    · have hdisposition : (if input.status = .nodeRejected then AttemptDisposition.rejected
          else .active) = .confirmed := hconfirmed
      split at hdisposition <;> cases hdisposition
    next hother =>
      rw [if_neg hother] at hid
      exact hother hid
  · exact fun hnone => winnerTruthful_unset hnone

theorem dispositionForSnapshot_eq_confirmed {s : ExecutionSnapshot} :
    dispositionForSnapshot s = .confirmed ↔ s.workflowStatus = .confirmed := by
  unfold dispositionForSnapshot
  split_ifs with h₁ h₂ h₃
  · simp [h₁]
  · simp [h₁]
  · simp [h₁]
  · simp [h₁]

/-- `applySnapshot` sets the pointer with a confirmation, and otherwise leaves it. -/
theorem winnerTruthful_applied {input : ApplyInput} (hi : RowsInv w)
    (hcur : Current input.aggregate w.current) :
    WinnerTruthful (input.appliedStore w.current) ↔
      w.current.intent.winningAttemptId = none ∨ input.snapshot.workflowStatus = .confirmed := by
  by_cases hconfirmed : input.snapshot.workflowStatus = .confirmed
  · have hdisposition : input.attemptDisposition = .confirmed :=
      dispositionForSnapshot_eq_confirmed.mpr hconfirmed
    have hpointer : (input.appliedStore w.current).intent.winningAttemptId =
        w.current.intent.activeAttemptId := by
      rw [← hcur.intent]
      exact if_pos hdisposition
    refine iff_of_true ?_ (Or.inr hconfirmed)
    intro winner hwinner
    rw [hpointer] at hwinner
    rcases hi.points with ⟨-, hnone, -⟩ | ⟨key, hkey, hactive, htx⟩
    · rw [hnone] at hwinner
      cases hwinner
    · have hkeyWinner : key.1 = winner := Option.some.inj (hactive.symm.trans hwinner)
      refine wins_of_confirmation (f := input.appliedAttempt) hkey hkeyWinner (fun _ => rfl)
        (fun _ => hdisposition) ?_ hwinner htx hconfirmed
      show input.appliedAttempts w.current.attempts = _
      rw [ApplyInput.appliedAttempts, hcur.intent, hwinner]
      exact if_pos hdisposition
  · have hdisposition : input.attemptDisposition ≠ .confirmed :=
      mt dispositionForSnapshot_eq_confirmed.mp hconfirmed
    have hpointer : (input.appliedStore w.current).intent.winningAttemptId =
        w.current.intent.winningAttemptId := by
      rw [← hcur.intent]
      exact if_neg hdisposition
    rw [winnerTruthful_iff_of_unconfirmed hconfirmed, hpointer]
    exact (or_iff_left hconfirmed).symm

/-- So does `promoteAttemptProjection`. -/
theorem winnerTruthful_promoted {input : PromoteInput}
    (hcur : Current input.aggregate w.current) (hkey : input.attempt.key ∈ w.current.attemptKeys) :
    WinnerTruthful (input.promotedStore w.current) ↔
      w.current.intent.winningAttemptId = none ∨ input.snapshot.workflowStatus = .confirmed := by
  by_cases hconfirmed : input.snapshot.workflowStatus = .confirmed
  · have hdisposition : input.disposition = .confirmed :=
      dispositionForSnapshot_eq_confirmed.mpr hconfirmed
    refine iff_of_true ?_ (Or.inr hconfirmed)
    intro winner hwinner
    have hpointer : (input.promotedStore w.current).intent.winningAttemptId =
        some input.attempt.id := if_pos hdisposition
    rw [hpointer] at hwinner
    have hsame : input.attempt.id = winner := Option.some.inj hwinner
    subst hsame
    refine wins_of_confirmation (f := input.promotedAttempt) hkey rfl (fun _ => rfl)
      (fun _ => hdisposition) ?_ rfl rfl hconfirmed
    show input.promotedAttempts w.current.attempts = _
    exact if_pos hdisposition
  · have hdisposition : input.disposition ≠ .confirmed :=
      mt dispositionForSnapshot_eq_confirmed.mp hconfirmed
    have hpointer : (input.promotedStore w.current).intent.winningAttemptId =
        w.current.intent.winningAttemptId := by
      rw [← hcur.intent]
      exact if_neg hdisposition
    rw [winnerTruthful_iff_of_unconfirmed hconfirmed, hpointer]
    exact (or_iff_left hconfirmed).symm

/-- A candidate update keeps the pointer true where it confirms the winner, or activates no rival. -/
theorem winnerTruthful_updated {input : CandidateInput}
    {candidate : TransactionAttemptRecord} (hmem : candidate ∈ db.attempts)
    (hid : candidate.id = input.attemptId) (h : WinnerTruthful db) :
    WinnerTruthful (updateCandidateAttempt input db) ↔
      ∀ winner, db.intent.winningAttemptId = some winner →
        if input.attemptId = winner then dispositionForSnapshot input.snapshot = .confirmed
        else dispositionForSnapshot input.snapshot ≠ .active := by
  have hupdated : input.updated candidate ∈ (updateCandidateAttempt input db).attempts :=
    List.mem_map.mpr ⟨candidate, hmem, if_pos hid⟩
  constructor
  · intro htruth winner hwinner
    have hwins := htruth winner hwinner
    split
    next hsame =>
      obtain ⟨attempt, hattempt, hname, hconfirmed, -⟩ := hwins.projected
      obtain ⟨before, -, rfl⟩ := List.mem_map.mp hattempt
      split at hconfirmed
      · exact hconfirmed
      next hother =>
        rw [if_neg hother] at hname
        exact absurd (hname.trans hsame.symm) hother
    next hother =>
      exact hwins.alone _ hupdated (by
        show candidate.id ≠ winner
        rw [hid]
        exact hother)
  · intro hprobe winner hwinner
    have hwins := h winner hwinner
    have hrule := hprobe winner hwinner
    obtain ⟨attempt, hattempt, hname, hconfirmed, hprojected⟩ := hwins.projected
    refine ⟨hwins.active, hwins.confirmed, ?_, ?_⟩
    · refine ⟨if attempt.id = input.attemptId then input.updated attempt else attempt,
        List.mem_map_of_mem hattempt, ?_⟩
      split
      next hsame =>
        rw [if_pos (hsame.symm.trans hname)] at hrule
        exact ⟨hname, hrule, hprojected⟩
      · exact ⟨hname, hconfirmed, hprojected⟩
    · intro other hother hne
      obtain ⟨before, hbefore, rfl⟩ := List.mem_map.mp hother
      split
      next hsame =>
        have hnot : input.attemptId ≠ winner := by
          rw [← hsame]
          rw [if_pos hsame] at hne
          exact hne
        rw [if_neg hnot] at hrule
        exact hrule
      next hsame =>
        rw [if_neg hsame] at hne
        exact hwins.alone before hbefore hne

end Writes

/-! ## Probes -/

section Probes

variable {view : IntentAggregate} {candidate : TransactionAttemptRecord}

/-- A candidate carries no commit block, so no answer proves a reorg of it. -/
theorem probedSnapshot_disposition (o : ChainObservation) :
    dispositionForSnapshot (probedSnapshot view candidate o) =
      probedDisposition candidate o.status := by
  by_cases hs : o.status = .committed
  · simp [probedSnapshot, probedDisposition, hs, dispositionForSnapshot, conflictedSnapshot]
  rw [probedSnapshot, if_neg hs]
  have hreorg : reorgAgainstPriorCommit (candidateBase view candidate) o = false := rfl
  have hsubmission : (candidateBase view candidate).submissionStatus = .nodeRejected ↔
      candidate.submissionStatus = .nodeRejected := by
    unfold candidateBase
    split
    next hnot => simp [hnot]
    · rfl
  have hchain : (candidateBase view candidate).chainStatus = candidate.chainStatus := rfl
  have hworkflow : (candidateBase view candidate).workflowStatus = candidate.workflowStatus := rfl
  have hp : preservesCommit (candidateBase view candidate) o =
      decide (candidate.chainStatus = .committed) := by
    simp [preservesCommit, hreorg, hchain, hs]
  unfold dispositionForSnapshot probedDisposition observedSnapshot
  rw [hp]
  by_cases hcommitted : candidate.chainStatus = .committed
  · by_cases hconfirmed : candidate.workflowStatus = .confirmed
    · simp [hcommitted, hconfirmed, hs, preservedSnapshot, hworkflow]
    · simp [hcommitted, hconfirmed, hs, preservedSnapshot, hworkflow, hchain, hsubmission]
  · have hrow := advancedSnapshot_workflow (candidateBase view candidate) o
    rw [hreorg] at hrow
    cases ho : o.status with
    | committed => exact absurd ho hs
    | rejected => simp [hcommitted, hrow, ho]
    | unknown => simp [hcommitted, hrow, ho, hsubmission]
    | pending => simp [hcommitted, hrow, ho, hsubmission]
    | proposed => simp [hcommitted, hrow, ho, hsubmission]

end Probes

/-! ## One operation -/

section Operations

variable {w : World Store} {view : IntentAggregate} {t : Store}

/-- A write that touches neither intent, execution row nor attempts. -/
theorem WinnerTruthful.untouched {db : Store} (h : WinnerTruthful db)
    (hintent : t.intent = db.intent) (hrow : t.execution = db.execution)
    (hattempts : t.attempts = db.attempts) : WinnerTruthful t := by
  intro winner hwinner
  rw [hintent] at hwinner
  have hwins := h winner hwinner
  exact ⟨hintent ▸ hwins.active, hrow ▸ hwins.confirmed, by rw [hattempts, hrow]; exact hwins.projected,
    by rw [hattempts]; exact hwins.alone⟩

/-- A confirmed row stays confirmed after an RPC failure. -/
theorem failure_stays_confirmed {env : ReconcileEnv} {message : String}
    {applied : ApplyObservationResult} (hb : CommitBacked (snapshotFromExecution view.execution))
    (hw : view.execution.workflowStatus = .confirmed)
    (happ : applyChainObservation (snapshotFromExecution view.execution)
      (failureObservation env message) = .ok applied) :
    (failureInput env view message applied).snapshot.workflowStatus = .confirmed := by
  show applied.snapshot.workflowStatus = .confirmed
  rw [(applyChainObservation_ok happ).1, observedSnapshot_stays_confirmed hw]
  left
  have hchain : view.execution.chainStatus = .committed := (hb.confirmed hw).1
  simp [preservesCommit, hchain]

/-- After an answer, a confirmed row is confirmed exactly where the answer sustains it. -/
theorem answer_stays_confirmed {env : ReconcileEnv} {txHash : String}
    {bundle : RpcObservationBundle} {applied : ApplyObservationResult}
    (hw : view.execution.workflowStatus = .confirmed) (htx : view.execution.txHash = some txHash)
    (hanswer : env.observe txHash = .ok bundle)
    (happ : applyChainObservation (snapshotFromExecution view.execution) bundle.observation =
      .ok applied) :
    (plannedInput env view bundle applied
        (plannedDraft env view bundle txHash applied)).snapshot.workflowStatus = .confirmed ↔
      sustainsConfirmation env view := by
  have hstays := observedSnapshot_stays_confirmed (o := bundle.observation)
    (s := snapshotFromExecution view.execution) hw
  have hplanned : (plannedInput env view bundle applied
        (plannedDraft env view bundle txHash applied)).snapshot.workflowStatus = .confirmed ↔
      stepConflicts env view bundle txHash applied = false ∧
        (observedSnapshot (snapshotFromExecution view.execution)
          bundle.observation).workflowStatus = .confirmed := by
    rw [plannedInput, plannedDraft_snapshot, ← (applyChainObservation_ok happ).1]
    cases stepConflicts env view bundle txHash applied <;> simp
  rw [hplanned, hstays]
  constructor
  · intro hsustained txHash' bundle' applied' htx' hanswer' happ'
    cases htx.symm.trans htx'
    cases hanswer.symm.trans hanswer'
    cases happ.symm.trans happ'
    exact hsustained
  · intro hsustains
    exact hsustains txHash bundle applied htx hanswer happ

theorem or_iff_forall_some {pointer : Option String} {p : Prop} :
    pointer = none ∨ p ↔ ∀ winner, pointer = some winner → p := by
  cases pointer with
  | none => simp
  | some winner => simp

/-- There is one candidate with an index, and one answer about it. -/
theorem probe_iff {env : ReconcileEnv} {index : Nat} {candidate : TransactionAttemptRecord}
    {observed : RpcObservationBundle} {pointer : Option String} {p : String → Prop}
    (hp : ∀ winner, p winner = probeKeepsWinner env view winner candidate observed)
    (hindex : (rivals view)[index]? = some candidate)
    (hobserved : env.observeCandidate candidate.txHash = .ok observed) :
    (∀ winner, pointer = some winner → p winner) ↔
      ∀ winner candidate observed, pointer = some winner →
        (rivals view)[index]? = some candidate →
        env.observeCandidate candidate.txHash = .ok observed →
        probeKeepsWinner env view winner candidate observed := by
  constructor
  · intro hall winner candidate' observed' hwinner hindex' hobserved'
    cases hindex.symm.trans hindex'
    cases hobserved.symm.trans hobserved'
    rw [← hp winner]
    exact hall winner hwinner
  · intro hall winner hwinner
    rw [hp winner]
    exact hall winner candidate observed hwinner hindex hobserved

/-- **One operation** keeps the pointer truthful exactly where it does what a set pointer asks. -/
theorem winnerTruthful_iff {op : Op} (hi : RowsInv w) (hb : BackedRow w.current.execution)
    (hcur : w.current.execution.version = view.execution.version → Current view w.current)
    (hknown : ∀ attempt ∈ view.attempts, attempt.key ∈ w.current.attemptKeys)
    (h : WinnerTruthful w.current) (hc : op.commit view w.current = some t) :
    WinnerTruthful t ↔ keepsWinner view w.current op := by
  cases op with
  | attach req freshId now =>
      obtain ⟨normalized, -, ha⟩ := Op.attach_commit hc
      obtain ⟨after, -, -, hw⟩ := attachAttempt_ok ha
      have hversion := (attachTransaction_ok hw).2.1
      exact iff_of_true (winnerTruthful_attached hi (hcur hversion) h hw) trivial
  | mark req now =>
      obtain ⟨after, -, -, hversion, -, rfl⟩ := markAttempt_ok (Op.mark_commit hc).2
      exact winnerTruthful_marked (hcur hversion) h
  | observe env =>
      obtain ⟨txHash, result, htx, hp⟩ := Op.observe_commit hc
      obtain ⟨hversion, -, ⟨message, applied, hanswer, happ, rfl, -⟩ |
        ⟨bundle, applied, hanswer, happ, rfl, -⟩⟩ := reconcileProjection_ok hp
      · have hview := hcur hversion
        rw [winnerTruthful_applied hi hview]
        refine or_congr_right' fun hset => ?_
        obtain ⟨winner, hwinner⟩ := Option.ne_none_iff_exists'.mp hset
        have hrow : view.execution.workflowStatus = .confirmed := by
          rw [hview.execution]
          exact (h winner hwinner).confirmed
        have hback : CommitBacked (snapshotFromExecution view.execution) := by
          rw [hview.execution]
          exact hb.snapshot
        refine iff_of_true (failure_stays_confirmed hback hrow happ) ?_
        intro txHash' bundle applied' htx' hanswer'
        cases htx.symm.trans htx'
        rw [hanswer] at hanswer'
        cases hanswer'
      · have hview := hcur hversion
        rw [observedStore, winnerTruthful_applied hi hview]
        refine or_congr_right' fun hset => ?_
        obtain ⟨winner, hwinner⟩ := Option.ne_none_iff_exists'.mp hset
        have hrow : view.execution.workflowStatus = .confirmed := by
          rw [hview.execution]
          exact (h winner hwinner).confirmed
        exact answer_stays_confirmed hrow htx hanswer happ
  | probe env index =>
      obtain ⟨candidate, hindex, hwritten⟩ := Op.probe_commit hc
      have hkey : candidate.key ∈ w.current.attemptKeys :=
        hknown candidate (List.mem_filter.mp (List.mem_of_getElem? hindex)).1
      rcases hwritten with ⟨input, hj, rfl⟩ | ⟨input, hj, hp⟩
      · obtain ⟨observed, hobserved, hstays, hid, hsnapshot⟩ := judgeCandidate_update hj
        obtain ⟨attempt, hmem, hsame⟩ := List.mem_map.mp hkey
        have hname : attempt.id = input.attemptId := (congrArg Prod.fst hsame).trans hid.symm
        rw [winnerTruthful_updated hmem hname h, hid, hsnapshot, probedSnapshot_disposition]
        exact probe_iff (fun winner => (if_neg hstays).symm) hindex hobserved
      · obtain ⟨hversion, -, rfl⟩ := promoteAttemptProjection_ok hp
        obtain ⟨observed, applied, hobserved, hstatus, hmismatch, happ, rfl, rfl, hsnap, -⟩ :=
          judgeCandidate_promote hj
        have hdeep : input.snapshot.workflowStatus = .confirmed ↔
            isConfirmationSatisfied input.aggregate.execution.confirmationPolicy .committed
              (computeConfirmationCount observed.observation.blockNumber
                observed.observation.tipBlockNumber) = true := by
          rw [hsnap, (applyChainObservation_ok happ).1, observedSnapshot_confirmed_iff hstatus]
          rfl
        rw [winnerTruthful_promoted (hcur hversion) hkey, hdeep, or_iff_forall_some]
        exact probe_iff (fun winner => (if_pos ⟨hstatus, hmismatch⟩).symm) hindex hobserved
  | preflight verified reason rawObservation now =>
      cases hc
      exact iff_of_true (h.untouched rfl rfl rfl) trivial
  | operatorNote text now =>
      cases hc
      exact iff_of_true (h.untouched rfl rfl rfl) trivial

end Operations

/-! ## The run -/

/-- **The winner pointer is truthful in every state exactly of the runs whose steps all do what a set
pointer asks.** -/
theorem winner_truthful_iff (req : CreateRequest) (acts : List Act) (w : World Store) :
    Run (fun w act w' => Step w act w' ∧ WinnerTruthful w'.current) (opening req) acts w ↔
      Run (Runs.when (fun w act => keepsWinner act.view w.current act.op) Step) (opening req)
        acts w := by
  refine Run.good_iff ?_
  rintro acts w act w' hrun ⟨hrows, hlater, t, hc, rfl⟩
  have hsteps : Run Step (opening req) acts w := hrun.mono fun _ _ _ hboth => hboth.1
  have hworld := backedWorld_run hsteps
  have hi := rowsInv_run hsteps
  have hopening : WinnerTruthful (opening req).current := winnerTruthful_unset rfl
  have htruth : WinnerTruthful w.current :=
    hrun.inv (fun w => WinnerTruthful w.current) hopening fun _ _ _ _ hboth => hboth.2
  refine winnerTruthful_iff hi hworld.backed (current_of_version hworld.consistent hrows) ?_ htruth hc
  intro attempt hmem
  exact hi.kept act.later hlater _ (List.mem_map_of_mem hmem)

section Runs

open Scenario

/-- A transaction is tracked and confirmed, and a reorg takes its block off the canonical chain. -/
def confirmedThenDropped : List Op :=
  [attach 'a' false none [outPoint '1'], .observe (node (.ok (committed "0x8"))),
    .observe (node (.ok (dropped none)))]

/-- The reorg leaves the pointer set, on a row that is no longer confirmed. -/
theorem reorg_keeps_winner : ¬ ∀ (req : CreateRequest) (acts : List Act) (w : World Store),
    Run Step (opening req) acts w → WinnerTruthful w.current := by
  intro h
  have hfacts : commitsAll (serviceCreateIntent (create (.depth 4))) confirmedThenDropped = true ∧
      (after (.depth 4) confirmedThenDropped).intent.winningAttemptId = some (hashOf 'a') ∧
      (after (.depth 4) confirmedThenDropped).execution.workflowStatus = .reorged := by
    decide +kernel
  obtain ⟨hcommits, hset, hreorged⟩ := hfacts
  obtain ⟨acts, past, hrun⟩ := run_after hcommits
  have hconfirmed := (h _ acts _ hrun _ hset).confirmed
  rw [hreorged] at hconfirmed
  cases hconfirmed

end Runs

end CellFlow
