/-
# CellFlow.Properties.Attribution — whose broadcast an outcome is recorded for.

Two clients run `prepareTrackedTransaction` and `broadcast` of `packages/ccc/src/ccc.ts` on one intent,
each with a transaction of its own.  The outcome endpoints name the intent only, and the server records
what they say on whatever attempt is active by then; a transaction that is only PREPARED may be
replaced, so a client can report on the attempt of the other.  The reports are attributed exactly in
the interleavings where each finds the transaction prepared last to be that of its client.
-/
import Mathlib.Logic.Function.Basic
import CellFlow.Api.AttemptRows
import CellFlow.Api.Scenario

namespace CellFlow

open Optimistic (World)
open Runs (Run)

/-! ## Sessions -/

/-- One of two signers. -/
inductive Party where
  | first
  | second
  deriving DecidableEq, Repr

/-- How far a client has come. -/
inductive Phase where
  | start
  | prepared
  | preflighted
  | broadcasting
  | sent
  | done
  deriving DecidableEq, Repr

/-- `markBroadcasting` of the client has succeeded. -/
def Phase.reported : Phase → Bool
  | .start | .prepared | .preflighted => false
  | .broadcasting | .sent | .done => true

/-- BROADCASTING or later. -/
def SubmissionStatus.reported : SubmissionStatus → Bool
  | .notSubmitted | .prepared => false
  | .broadcasting | .submissionUnknown | .submitted | .nodeRejected => true

/-- What the node's answer to the send makes the client report. -/
inductive Outcome where
  | submitted
  | ambiguous (failure : SubmissionFailureEvidence)
  | rejected (failure : SubmissionFailureEvidence)

/-- The report a party files on its send. -/
def Outcome.request : Outcome → MarkRequest
  | .submitted => ⟨.submitted, none⟩
  | .ambiguous failure => ⟨.submissionUnknown, some failure⟩
  | .rejected failure => ⟨.nodeRejected, some failure⟩

/-- A status the server recorded, with the attempt it stands on and the client that reported it. -/
structure Report where
  reporter : Party
  txHash : String
  status : SubmissionStatus

/-- The server, how far the clients have come, who prepared last and what was recorded. -/
structure Session where
  world : World Store
  phase : Party → Phase
  preparer : Option Party
  log : List Report

/-- What happens next: a step of a party, or a commit of anybody else. -/
inductive Move where
  | prepare (party : Party) (act : Act)
  | preflight (party : Party) (act : Act)
  | broadcasting (party : Party) (act : Act)
  | send (party : Party)
  | outcome (party : Party) (act : Act)

/-- The attempts a report is recorded on. -/
def recordedReports (party : Party) (act : Act) (status : SubmissionStatus) (t : Store) :
    List Report :=
  (t.attempts.filter fun attempt => some attempt.id = act.view.intent.activeAttemptId).map
    fun attempt => ⟨party, attempt.txHash, status⟩

/-- The next move of a client; a call that fails ends its session. -/
inductive Turn (own : Party → AttachRequest) : Session → Move → Session → Prop where
  | prepare {s : Session} {c : Party} {act : Act} {w' : World Store} {freshId : String} {now : Int}
      (hphase : s.phase c = .start)
      (hop : act.op = .attach { own c with prepared := true } freshId now)
      (hstep : Step s.world act w') :
      Turn own s (.prepare c act)
        { world := w', phase := Function.update s.phase c .prepared, preparer := some c, log := s.log }
  | preflight {s : Session} {c : Party} {act : Act} {w' : World Store} {reason : String}
      {rawObservation : Js.Json} {now : Int} (hphase : s.phase c = .prepared)
      (hop : act.op = .preflight true reason rawObservation now) (hstep : Step s.world act w') :
      Turn own s (.preflight c act)
        { s with world := w', phase := Function.update s.phase c .preflighted }
  | broadcasting {s : Session} {c : Party} {act : Act} {w' : World Store} {now : Int}
      (hphase : s.phase c = .preflighted) (hop : act.op = .mark ⟨.broadcasting, none⟩ now)
      (hstep : Step s.world act w') :
      Turn own s (.broadcasting c act)
        { s with
          world := w', phase := Function.update s.phase c .broadcasting
          log := s.log ++ recordedReports c act .broadcasting w'.current }
  | send {s : Session} {c : Party} (hphase : s.phase c = .broadcasting) :
      Turn own s (.send c) { s with phase := Function.update s.phase c .sent }
  | outcome {s : Session} {c : Party} {act : Act} {w' : World Store} {outcome : Outcome} {now : Int}
      (hphase : s.phase c = .sent) (hop : act.op = .mark outcome.request now)
      (hstep : Step s.world act w') :
      Turn own s (.outcome c act)
        { s with
          world := w', phase := Function.update s.phase c .done
          log := s.log ++ recordedReports c act outcome.request.status.submission w'.current }

/-- Nobody has prepared. -/
def openingSession (req : CreateRequest) : Session where
  world := opening req
  phase := fun _ => .start
  preparer := none
  log := []

/-! ## Attribution -/

/-- What was recorded was reported by the client of the transaction, and a client that reported its
broadcast finds its own transaction BROADCASTING or later. -/
structure Attributed (own : Party → AttachRequest) (s : Session) : Prop where
  reports : ∀ report ∈ s.log, normalizeTxHash (own report.reporter).txHashInput = .ok report.txHash
  recorded : ∀ c, (s.phase c).reported = true → ∃ attempt ∈ s.world.current.attempts,
    normalizeTxHash (own c).txHashInput = .ok attempt.txHash ∧
      attempt.submissionStatus.reported = true

/-- A report finds the transaction prepared last to be that of its client. -/
def reportsOnOwn (own : Party → AttachRequest) (s : Session) : Move → Prop
  | .broadcasting c _ | .outcome c _ =>
      ∃ p, s.preparer = some p ∧
        normalizeTxHash (own p).txHashInput = normalizeTxHash (own c).txHashInput
  | _ => True

/-! ## What every session satisfies -/

/-- The row projects the transaction prepared last, and stays BROADCASTING or later once the client of
that transaction has reported. -/
structure SessionInv (own : Party → AttachRequest) (s : Session) : Prop where
  rows : RowsInv s.world
  consistent : s.world.Consistent rowVersion guardedRows
  prepared : ∀ p, s.preparer = some p → s.phase p ≠ .start ∧
    ∃ hash, normalizeTxHash (own p).txHashInput = .ok hash ∧
      s.world.current.execution.txHash = some hash
  unprepared : s.preparer = none →
    s.world.current.execution.txHash = none ∧ ∀ c, s.phase c = .start
  live : ∀ p c, s.preparer = some p → (s.phase c).reported = true →
    normalizeTxHash (own p).txHashInput = normalizeTxHash (own c).txHashInput →
    s.world.current.execution.submissionStatus.reported = true

theorem sessionInv_opening (own : Party → AttachRequest) (req : CreateRequest) :
    SessionInv own (openingSession req) where
  rows := rowsInv_opening req
  consistent := consistent_opening req
  prepared := by
    intro p hp
    cases hp
  unprepared := fun _ => ⟨rfl, fun _ => rfl⟩
  live := by
    intro p c hp
    cases hp

/-! ## Preparing again -/

/-- A transaction that was reported is not prepared again. -/
theorem updateSubmission_prepared {s t : ExecutionSnapshot}
    (h : updateSubmission s .prepared = .ok t) : s.submissionStatus.reported = false := by
  unfold updateSubmission at h
  split at h
  · cases h
  · split at h
    · cases h
    · split at h
      next hnode => cases h
      · split at h
        next hnext => cases hnext
        next hnode _ =>
          simp only at h
          split at h
          next => cases h
          next hback =>
            cases hs : s.submissionStatus with
            | notSubmitted => rfl
            | prepared => rfl
            | nodeRejected => exact absurd hs hnode
            | broadcasting | submissionUnknown | submitted =>
                rw [hs] at hback
                exact absurd ⟨by decide, by decide⟩ hback

variable {own : Party → AttachRequest} {s s' : Session} {move : Move} {c d p : Party}

/-- There are two clients. -/
theorem Party.eq_of_ne (hp : p ≠ c) (hd : d ≠ c) : p = d := by
  cases c with
  | first =>
      cases p with
      | first => exact absurd rfl hp
      | second =>
          cases d with
          | first => exact absurd rfl hd
          | second => rfl
  | second =>
      cases p with
      | second => exact absurd rfl hp
      | first =>
          cases d with
          | second => exact absurd rfl hd
          | first => rfl

/-- A client that has started finds a transaction prepared. -/
theorem SessionInv.preparer (hi : SessionInv own s) (h : s.phase c ≠ .start) :
    ∃ p, s.preparer = some p := by
  cases hp : s.preparer with
  | none => exact absurd ((hi.unprepared hp).2 c) h
  | some p => exact ⟨p, rfl⟩

theorem Phase.started {phase : Phase} (h : phase.reported = true) : phase ≠ .start := by
  rintro rfl
  cases h

/-- **A transaction that its client reported is not prepared by the other.** -/
theorem SessionInv.prepares_other (hi : SessionInv own s) {act : Act} {w' : World Store}
    {freshId : String} {now : Int} (hphase : s.phase c = .start)
    (hop : act.op = .attach { own c with prepared := true } freshId now)
    (hstep : Step s.world act w') (hd : (s.phase d).reported = true) :
    normalizeTxHash (own d).txHashInput ≠ normalizeTxHash (own c).txHashInput := by
  intro hsame
  obtain ⟨p, hp⟩ := hi.preparer (Phase.started hd)
  obtain ⟨hstarted, hash, hhash, htx⟩ := hi.prepared p hp
  -- neither the last preparer nor the client that reported is the one that starts
  have hpc : p ≠ c := by
    rintro rfl
    exact hstarted hphase
  have hdc : d ≠ c := by
    rintro rfl
    exact Phase.started hd hphase
  obtain rfl := Party.eq_of_ne hpc hdc
  obtain ⟨hrows, -, t, hc, rfl⟩ := hstep
  rw [hop] at hc
  obtain ⟨normalized, after, _, _, _, hn, hafter, hversion, -, -, -⟩ := Op.attach_writes hc
  have hcur := current_of_version hi.consistent hrows hversion
  obtain ⟨hnhash, -, -, hstatus, -⟩ := AttachRequest.normalize_ok hn
  have hprojected : act.view.execution.txHash = some normalized.txHash := by
    have hboth : Except.ok hash = Except.ok normalized.txHash :=
      hhash.symm.trans (hsame.trans hnhash)
    rw [hcur.execution, htx, Except.ok.inj hboth]
  rw [hstatus, if_neg fun h => h.2 hprojected] at hafter
  have hlive := hi.live p p hp hd rfl
  have hfresh := updateSubmission_prepared hafter
  rw [hcur.execution] at hfresh
  exact absurd (hlive.symm.trans hfresh) (by decide)

/-! ## Reporting -/

/-- **An accepted report**: the execution row and the active attempt carry the status, the other
attempts and the projected hash stay. -/
theorem mark_records {w w' : World Store} {act : Act} {req : MarkRequest} {now : Int}
    (hw : w.Consistent rowVersion guardedRows) (hop : act.op = .mark req now)
    (hstep : Step w act w') :
    act.view.intent.activeAttemptId = w.current.intent.activeAttemptId ∧
      w'.current.intent = w.current.intent ∧
      w'.current.execution.txHash = w.current.execution.txHash ∧
      w'.current.execution.submissionStatus = req.status.submission ∧
      ∃ f : TransactionAttemptRecord → TransactionAttemptRecord,
        (∀ a, (f a).key = a.key ∧ (f a).submissionStatus = req.status.submission) ∧
          w'.current.attempts =
            updateActive w.current.intent.activeAttemptId f w.current.attempts := by
  obtain ⟨hrows, -, t, hc, rfl⟩ := hstep
  rw [hop] at hc
  obtain ⟨after, -, -, hversion, -, rfl⟩ := markAttempt_ok (Op.mark_commit hc).2
  have hcur := current_of_version hw hrows hversion
  have hactive : act.view.intent.activeAttemptId = w.current.intent.activeAttemptId := by
    rw [hcur.intent]
  refine ⟨hactive, rfl, rfl, rfl,
    (req.input act.view now (snapshotFromExecution act.view.execution) after).markedAttempt,
    fun a => ⟨rfl, rfl⟩, ?_⟩
  rw [← hactive]
  rfl

/-- The statuses a client reports. -/
theorem OutcomeStatus.submission_reported (status : OutcomeStatus) :
    status.submission.reported = true := by
  cases status <;> rfl

/-- **What a report is recorded on**: the attempt with the projected hash, and no other. -/
theorem recordedReports_projected (hi : SessionInv own s) {act : Act} {w' : World Store}
    {req : MarkRequest} {now : Int} {hash : String} (hop : act.op = .mark req now)
    (hstep : Step s.world act w') (htx : s.world.current.execution.txHash = some hash)
    (status : SubmissionStatus) :
    (∀ report ∈ recordedReports c act status w'.current,
        report.reporter = c ∧ report.txHash = hash) ∧
      ∃ attempt ∈ w'.current.attempts, attempt.txHash = hash ∧
        attempt.submissionStatus = req.status.submission ∧
        ⟨c, hash, status⟩ ∈ recordedReports c act status w'.current := by
  have hrows := hi.rows.step hstep
  obtain ⟨hactive, hintent, htx', -, f, hf, hattempts⟩ := mark_records hi.consistent hop hstep
  constructor
  · intro report hreport
    obtain ⟨attempt, hmem, rfl⟩ := List.mem_map.mp hreport
    obtain ⟨hmem, hid⟩ := List.mem_filter.mp hmem
    rw [decide_eq_true_eq, hactive, ← hintent] at hid
    have hprojected := hrows.points.active hrows.ids hmem hid
    rw [htx', htx] at hprojected
    exact ⟨rfl, (Option.some.inj hprojected).symm⟩
  · rcases hi.rows.points with ⟨-, -, hnone⟩ | ⟨key, hkey, hid, hprojected⟩
    · rw [htx] at hnone
      cases hnone
    · obtain ⟨before, hbefore, rfl⟩ := List.mem_map.mp hkey
      have hhash : (f before).txHash = hash := by
        rw [htx] at hprojected
        exact (congrArg Prod.snd (hf before).1).trans (Option.some.inj hprojected).symm
      have hname : some (f before).id = s.world.current.intent.activeAttemptId :=
        (congrArg some (congrArg Prod.fst (hf before).1)).trans hid.symm
      have hmem : f before ∈ w'.current.attempts := by
        rw [hattempts]
        have hafter := updateActive_mem (f := f) (t := s.world.current.intent.activeAttemptId) hbefore
        rw [if_pos] at hafter
        · exact hafter
        · exact hid.symm
      refine ⟨f before, hmem, hhash, (hf before).2, List.mem_map.mpr ⟨f before, ?_, ?_⟩⟩
      · rw [List.mem_filter, decide_eq_true_eq, hactive]
        exact ⟨hmem, hname⟩
      · rw [hhash]

/-- **A report is attributed exactly where it finds its own transaction projected.** -/
theorem attributed_report (req : MarkRequest) (hi : SessionInv own s) (ha : Attributed own s)
    {act : Act} {w' : World Store} {now : Int} {next : Phase} (hphase : s.phase c ≠ .start)
    (hop : act.op = .mark req now) (hstep : Step s.world act w') :
    Attributed own
        { s with
          world := w', phase := Function.update s.phase c next
          log := s.log ++ recordedReports c act req.status.submission w'.current } ↔
      ∃ p, s.preparer = some p ∧
        normalizeTxHash (own p).txHashInput = normalizeTxHash (own c).txHashInput := by
  obtain ⟨p, hp⟩ := hi.preparer hphase
  obtain ⟨-, hash, hhash, htx⟩ := hi.prepared p hp
  obtain ⟨hreports, attempt, hmem, hsame, hstatus, hrecorded⟩ :=
    recordedReports_projected (c := c) hi hop hstep htx req.status.submission
  constructor
  · intro h
    have hown := h.reports _ (List.mem_append_right _ hrecorded)
    exact ⟨p, hp, hhash.trans hown.symm⟩
  · rintro ⟨q, hq, hown⟩
    rw [hp, Option.some.injEq] at hq
    subst hq
    have howned : normalizeTxHash (own c).txHashInput = .ok hash := hown.symm.trans hhash
    refine ⟨?_, ?_⟩
    · intro report hreport
      rcases List.mem_append.mp hreport with hold | hnew
      · exact ha.reports report hold
      · obtain ⟨hreporter, hreported⟩ := hreports report hnew
        rw [hreporter, hreported]
        exact howned
    · intro d hd
      by_cases hdc : d = c
      · subst hdc
        exact ⟨attempt, hmem, by rw [hsame]; exact howned,
          by rw [hstatus]; exact OutcomeStatus.submission_reported _⟩
      · simp only [Function.update_of_ne hdc] at hd
        obtain ⟨before, hbefore, hbeforeHash, hbeforeStatus⟩ := ha.recorded d hd
        obtain ⟨-, -, -, -, f, hf, hattempts⟩ := mark_records hi.consistent hop hstep
        have hafter := updateActive_mem (f := f) (t := s.world.current.intent.activeAttemptId) hbefore
        rw [← hattempts] at hafter
        split at hafter
        · refine ⟨f before, hafter, ?_, ?_⟩
          · rw [hbeforeHash]
            exact congrArg Except.ok (congrArg Prod.snd (hf before).1).symm
          · rw [(hf before).2]
            exact OutcomeStatus.submission_reported _
        · exact ⟨before, hafter, hbeforeHash, hbeforeStatus⟩

/-! ## Every move -/

/-- A move that records no report leaves the reports attributed. -/
theorem attributed_prepare (hi : SessionInv own s) (ha : Attributed own s) {act : Act}
    {w' : World Store} {freshId : String} {now : Int} (hphase : s.phase c = .start)
    (hop : act.op = .attach { own c with prepared := true } freshId now)
    (hstep : Step s.world act w') :
    Attributed own
      { world := w', phase := Function.update s.phase c .prepared, preparer := some c
        log := s.log } := by
  refine ⟨ha.reports, ?_⟩
  intro d hd
  have hdc : d ≠ c := by
    rintro rfl
    simp only [Function.update_self] at hd
    cases hd
  simp only [Function.update_of_ne hdc] at hd
  have hother := hi.prepares_other hphase hop hstep hd
  obtain ⟨attempt, hmem, hhash, hstatus⟩ := ha.recorded d hd
  obtain ⟨-, -, t, hc, rfl⟩ := hstep
  rw [hop] at hc
  obtain ⟨normalized, hn, hattach⟩ := Op.attach_commit hc
  obtain ⟨after, -, -, hw⟩ := attachAttempt_ok hattach
  have hown := (AttachRequest.normalize_ok hn).1
  have hne : attempt.txHash ≠ normalized.txHash := by
    intro heq
    rw [heq] at hhash
    exact hother (hhash.trans hown.symm)
  obtain ⟨-, -, -, ⟨existing, _, hexisting, hsame, -, rfl⟩ | ⟨-, -, rfl⟩⟩ := attachTransaction_ok hw
  · have hid : attempt.id ≠ existing.id := by
      intro hid
      have hsameRow : attempt.key = existing.key :=
        List.inj_on_of_nodup_map hi.rows.ids (List.mem_map_of_mem hmem)
          (List.mem_map_of_mem hexisting) hid
      exact hne ((congrArg Prod.snd hsameRow).trans hsame)
    exact ⟨attempt, List.mem_map.mpr ⟨attempt, hmem, if_neg hid⟩, hhash, hstatus⟩
  · obtain ⟨disposition, hafter⟩ := insertedAttempts_mem _ hmem
    exact ⟨_, hafter, hhash, hstatus⟩

/-- Where only the phase of a client changes, and not into or out of a reported one, what was
attributed stays. -/
theorem attributed_phase (ha : Attributed own s) {w : World Store} {next : Phase}
    (hrows : w.current.attempts = s.world.current.attempts)
    (hnext : next.reported = (s.phase c).reported) :
    Attributed own { s with world := w, phase := Function.update s.phase c next } := by
  refine ⟨ha.reports, ?_⟩
  intro d hd
  show ∃ attempt ∈ w.current.attempts, _
  rw [hrows]
  by_cases hdc : d = c
  · subst hdc
    simp only [Function.update_self] at hd
    exact ha.recorded d (hnext.symm.trans hd)
  · simp only [Function.update_of_ne hdc] at hd
    exact ha.recorded d hd

/-- A preflight note changes no row. -/
theorem preflight_rows {w w' : World Store} {act : Act} {verified : Bool} {reason : String}
    {rawObservation : Js.Json} {now : Int}
    (hop : act.op = .preflight verified reason rawObservation now) (hstep : Step w act w') :
    w'.current.attempts = w.current.attempts ∧ w'.current.execution = w.current.execution := by
  obtain ⟨-, -, t, hc, rfl⟩ := hstep
  rw [hop] at hc
  cases hc
  exact ⟨rfl, rfl⟩

/-- **One move**, by what it records. -/
theorem attributed_iff (hi : SessionInv own s) (ha : Attributed own s) (h : Turn own s move s') :
    Attributed own s' ↔ reportsOnOwn own s move := by
  cases h with
  | prepare hphase hop hstep =>
      exact iff_of_true (attributed_prepare hi ha hphase hop hstep) trivial
  | preflight hphase hop hstep =>
      refine iff_of_true (attributed_phase ha (preflight_rows hop hstep).1 ?_) trivial
      rw [hphase]
      rfl
  | send hphase =>
      refine iff_of_true (attributed_phase (w := s.world) ha rfl ?_) trivial
      rw [hphase]
      rfl
  | broadcasting hphase hop hstep =>
      exact attributed_report ⟨.broadcasting, none⟩ hi ha (by rw [hphase]; decide) hop hstep
  | outcome hphase hop hstep =>
      exact attributed_report _ hi ha (by rw [hphase]; decide) hop hstep

/-! ## The invariant of a session -/

/-- A move after the prepare: the projected transaction stays, and the row is BROADCASTING or later,
or reported exactly as far as before. -/
theorem sessionInv_move (hi : SessionInv own s) {w : World Store} {next : Phase} {log : List Report}
    (hrows : RowsInv w) (hw : w.Consistent rowVersion guardedRows) (hphase : s.phase c ≠ .start)
    (hnext : next ≠ .start)
    (htx : w.current.execution.txHash = s.world.current.execution.txHash)
    (hlive : w.current.execution.submissionStatus.reported = true ∨
      (w.current.execution.submissionStatus = s.world.current.execution.submissionStatus ∧
        next.reported = (s.phase c).reported)) :
    SessionInv own
      { s with world := w, phase := Function.update s.phase c next, log := log } := by
  refine ⟨hrows, hw, ?_, ?_, ?_⟩
  · intro p hp
    obtain ⟨hstarted, hash, hhash, hprojected⟩ := hi.prepared p hp
    refine ⟨?_, hash, hhash, htx.trans hprojected⟩
    by_cases hpc : p = c
    · subst hpc
      simpa only [Function.update_self] using hnext
    · simpa only [Function.update_of_ne hpc] using hstarted
  · intro hnone
    exact absurd ((hi.unprepared hnone).2 c) hphase
  · intro p d hp hd hsame
    rcases hlive with hreported | ⟨hstatus, hkept⟩
    · exact hreported
    · show w.current.execution.submissionStatus.reported = true
      rw [hstatus]
      by_cases hdc : d = c
      · subst hdc
        simp only [Function.update_self] at hd
        exact hi.live p d hp (hkept.symm.trans hd) hsame
      · simp only [Function.update_of_ne hdc] at hd
        exact hi.live p d hp hd hsame

/-- A prepare projects the transaction of its client, which no client has reported. -/
theorem sessionInv_prepare (hi : SessionInv own s) {act : Act} {w' : World Store} {freshId : String}
    {now : Int} (hphase : s.phase c = .start)
    (hop : act.op = .attach { own c with prepared := true } freshId now)
    (hstep : Step s.world act w') :
    SessionInv own
      { world := w', phase := Function.update s.phase c .prepared, preparer := some c
        log := s.log } := by
  refine ⟨hi.rows.step hstep, Step.consistent hi.consistent hstep, ?_, ?_, ?_⟩
  · intro p hp
    cases hp
    refine ⟨by simp, ?_⟩
    obtain ⟨-, -, t, hc, rfl⟩ := hstep
    rw [hop] at hc
    obtain ⟨key, -, htx, hhash, -⟩ := Op.attach_keys hc
    exact ⟨key.2, hhash, htx⟩
  · intro hnone
    cases hnone
  · intro p d hp hd hsame
    cases hp
    have hdc : d ≠ c := by
      rintro rfl
      simp only [Function.update_self] at hd
      cases hd
    simp only [Function.update_of_ne hdc] at hd
    exact absurd hsame.symm (hi.prepares_other hphase hop hstep hd)

/-- **Every move keeps the invariant.** -/
theorem SessionInv.step (hi : SessionInv own s) (h : Turn own s move s') : SessionInv own s' := by
  cases h with
  | prepare hphase hop hstep => exact sessionInv_prepare hi hphase hop hstep
  | preflight hphase hop hstep =>
      have hrow := (preflight_rows hop hstep).2
      refine sessionInv_move hi (hi.rows.step hstep) (Step.consistent hi.consistent hstep) ?_ ?_ ?_
        (Or.inr ⟨?_, ?_⟩)
      · rw [hphase]
        decide
      · decide
      · rw [hrow]
      · rw [hrow]
      · rw [hphase]
        rfl
  | send hphase =>
      refine sessionInv_move hi hi.rows hi.consistent ?_ ?_ rfl (Or.inr ⟨rfl, ?_⟩)
      · rw [hphase]
        decide
      · decide
      · rw [hphase]
        rfl
  | broadcasting hphase hop hstep | outcome hphase hop hstep =>
      obtain ⟨-, -, htx, hstatus, -⟩ := mark_records hi.consistent hop hstep
      refine sessionInv_move hi (hi.rows.step hstep) (Step.consistent hi.consistent hstep) ?_ ?_ htx
        (Or.inl ?_)
      · rw [hphase]
        decide
      · decide
      · rw [hstatus]
        exact OutcomeStatus.submission_reported _

theorem attributed_opening (own : Party → AttachRequest) (req : CreateRequest) :
    Attributed own (openingSession req) := by
  refine ⟨?_, ?_⟩
  · intro report hreport
    cases hreport
  · intro c hc
    cases hc

/-! ## Every interleaving -/

/-- **The interleavings that attribute every report** are those in which each report finds the
transaction prepared last to be that of its client. -/
theorem attributed_run_iff (own : Party → AttachRequest) (req : CreateRequest) (moves : List Move)
    (s : Session) :
    Run (fun s move s' => Turn own s move s' ∧ Attributed own s') (openingSession req) moves s ↔
      Run (Runs.when (reportsOnOwn own) (Turn own)) (openingSession req) moves s := by
  refine Run.good_iff ?_
  intro _ s move s' hrun hturn
  have hboth : SessionInv own s ∧ Attributed own s := by
    refine hrun.inv (fun s => SessionInv own s ∧ Attributed own s)
      ⟨sessionInv_opening own req, attributed_opening own req⟩ ?_
    rintro s move s' ⟨hi, -⟩ ⟨hturn, hgood⟩
    exact ⟨hi.step hturn, hgood⟩
  exact attributed_iff hboth.1 hboth.2 hturn

section Runs

open Scenario

/-- Two transactions that spend different Cells. -/
def signed : Party → AttachRequest
  | .first =>
      { txHashInput := hashOf 'a', prepared := true, signedPayloadHashSha256 := none
        inputOutPoints := some [outPoint '1'], inputRefs := none, attemptKind := none
        parentAttemptId := none, allowSignedPayloadRevision := false }
  | .second =>
      { txHashInput := hashOf 'b', prepared := true, signedPayloadHashSha256 := none
        inputOutPoints := some [outPoint '2'], inputRefs := none, attemptKind := none
        parentAttemptId := none, allowSignedPayloadRevision := false }

/-- Both clients prepare, and the first one goes on to broadcast. -/
def overtaken : List Op :=
  [.attach (signed .first) "1" 0, .attach (signed .second) "2" 0, .preflight true "" .null 0,
    .mark ⟨.broadcasting, none⟩ 0]

/-- The broadcast of the first client is recorded on the transaction of the second. -/
theorem overtaken_misattributed : ¬ ∀ (own : Party → AttachRequest) (req : CreateRequest)
    (moves : List Move) (s : Session), Run (Turn own) (openingSession req) moves s →
      Attributed own s := by
  intro h
  have hfacts : commitsAll (serviceCreateIntent (create .committed)) overtaken = true ∧
      ((after .committed overtaken).attempts.any fun attempt =>
        some attempt.id = (after .committed (overtaken.take 3)).intent.activeAttemptId &&
          (normalizeTxHash (hashOf 'a')).toOption ≠ some attempt.txHash) = true := by
    decide +kernel
  obtain ⟨hcommits, hother⟩ := hfacts
  simp only [overtaken, commitsAll, Bool.and_eq_true, and_true] at hcommits
  obtain ⟨hfirst, hsecond, hpreflight, hreport⟩ := hcommits
  obtain ⟨attempt, hmem, hfields⟩ := List.any_eq_true.mp hother
  rw [Bool.and_eq_true, decide_eq_true_eq, decide_eq_true_eq] at hfields
  have hrun : Run (Turn signed) (openingSession (create .committed)) _ _ :=
    (((Run.start.next
      (Turn.prepare (c := .first) rfl rfl (step_alone (perform_commit hfirst)))).next
      (Turn.prepare (c := .second) rfl rfl (step_alone (perform_commit hsecond)))).next
      (Turn.preflight (c := .first) rfl rfl (step_alone (perform_commit hpreflight)))).next
      (Turn.broadcasting (c := .first) rfl rfl (step_alone (perform_commit hreport)))
  have hreported := (h _ _ _ _ hrun).reports ⟨.first, attempt.txHash, .broadcasting⟩
    (List.mem_map.mpr ⟨attempt, List.mem_filter.mpr ⟨hmem, decide_eq_true hfields.1⟩, rfl⟩)
  rw [show (signed .first).txHashInput = hashOf 'a' from rfl] at hreported
  rw [hreported] at hfields
  exact hfields.2 rfl

end Runs

end CellFlow
