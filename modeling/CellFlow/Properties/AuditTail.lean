/-
# CellFlow.Properties.AuditTail — where the audit log ends, the execution row is.

Every write of the execution row is guarded by its version and appends an event with the status it
leaves, or changes no status.  Preflight results and operator notes are appended from the aggregate
their request has read, without a guard.  The log is read in the order of its sequence numbers, so such
an event ends it with an old status where it is the last by number, and hides the event of a write that
drew its number before and commits after it.
-/
import CellFlow.Api.AttemptRows
import CellFlow.Api.EventLog
import CellFlow.Api.Scenario

namespace CellFlow

open Optimistic (World)
open Runs (Run)
open Sequenced (Latest Overtaken)

/-- The overall status of the stored execution row. -/
def Store.status (db : Store) : OverallStatus :=
  deriveOverallStatus (snapshotFromExecution db.execution)

/-- The last event of the log names the status of the row. -/
def AuditTail (w : LogWorld) : Prop :=
  ∃ entry, Latest w.book.log entry ∧ entry.2.toStatus = w.world.current.status

/-- What a commit must find, for the log to end at the row: an unguarded event that becomes the last,
and the event of a guarded write that an event with a later number overtook, name the stored status. -/
def keepsTail (w : LogWorld) : LogMove → Prop
  | .commit id act => ∀ entry, (w.book.pending id).getLast? = some entry →
      (act.op.guarded = true ↔ Overtaken w.book.log entry.1) →
      entry.2.toStatus = w.world.current.status
  | _ => True

/-! ## The derived status -/

/-- The overall status depends on the three recorded ones only. -/
theorem deriveOverallStatus_congr {s s' : ExecutionSnapshot} (h : s.statuses = s'.statuses) :
    deriveOverallStatus s = deriveOverallStatus s' := by
  simp only [ExecutionSnapshot.statuses, Statuses.mk.injEq] at h
  obtain ⟨hsubmission, hchain, hworkflow⟩ := h
  unfold deriveOverallStatus
  rw [hsubmission, hchain, hworkflow]

/-- The event of an observation names the status the observation leaves. -/
theorem applyChainObservation_toOverall {s : ExecutionSnapshot} {o : ChainObservation}
    {r : ApplyObservationResult} (h : applyChainObservation s o = .ok r) :
    r.event.toOverall = deriveOverallStatus r.snapshot := by
  simp only [applyChainObservation] at h
  split at h
  · cases h
  · split at h
    · cases h
      rfl
    · cases h
      rfl

section Tail

variable {db t : Store} {view : IntentAggregate}

variable (db t) in
/-- The write appends nothing and leaves the derived status, or the last event it appends names the
status it leaves. -/
inductive NamesStatus : Prop where
  | silent (hevents : t.events = db.events) (hstatus : t.status = db.status)
  | named (events : List StateEvent) (event : StateEvent) (hevents : t.events = db.events ++ events)
      (hlast : events.getLast? = some event) (hstatus : event.toStatus = t.status)

/-- A write that leaves the recorded statuses leaves the derived one. -/
theorem status_congr (h : t.execution.statuses = db.execution.statuses) : t.status = db.status := by
  have hderived : deriveOverallStatus (snapshotFromExecution t.execution) =
      deriveOverallStatus (snapshotFromExecution db.execution) := deriveOverallStatus_congr h
  exact hderived

/-! ## What each write appends -/

/-- An attach names the status of the row it leaves: the old chain statuses, or none. -/
theorem names_attached {normalized : NormalizedAttach} {after : ExecutionSnapshot}
    {freshId attemptId : String} {now : Int} {number : Nat}
    {attempts : List TransactionAttemptRecord} (hcur : Current view db)
    (hrow : db.execution.txHash = none →
      db.execution.chainStatus = .unobserved ∧ db.execution.workflowStatus = .idle)
    (hafter : updateSubmission
      (if view.execution.txHash.isSome ∧ view.execution.txHash ≠ some normalized.txHash then
        initialSnapshot view.execution.confirmationPolicy
      else snapshotFromExecution view.execution) normalized.submissionStatus = .ok after) :
    NamesStatus db ((normalized.input view freshId now (snapshotFromExecution view.execution)
      after).attachedStore db attemptId number attempts) := by
  generalize hinput : normalized.input view freshId now (snapshotFromExecution view.execution)
    after = input
  have hview : input.aggregate = view := by rw [← hinput]; rfl
  have hhash : input.txHash = normalized.txHash := by rw [← hinput]; rfl
  have hsubmission : input.submissionStatus = normalized.submissionStatus := by rw [← hinput]; rfl
  have hto : input.toStatus = deriveOverallStatus after := by rw [← hinput]; rfl
  refine .named [input.attachedEvent attemptId number] _ rfl rfl ?_
  show input.toStatus = deriveOverallStatus
    (snapshotFromExecution (input.attachedExecution db.execution))
  rw [hto]
  refine deriveOverallStatus_congr ?_
  obtain ⟨rfl, -⟩ := updateSubmission_ok hafter
  have hcreate : input.creatingAttempt = true ↔ db.execution.txHash ≠ some normalized.txHash := by
    rw [← hhash]
    exact creatingAttempt_iff (by rw [hview]; exact hcur)
  rw [hcur.execution]
  by_cases hnew : input.creatingAttempt = true
  · -- a new attempt starts its axes over, whatever the row showed
    have hreset : (snapshotFromExecution (input.attachedExecution db.execution)).statuses =
        ⟨normalized.submissionStatus, .unobserved, .idle⟩ := by
      rw [AttachInput.attachedExecution, if_pos hnew, ← hsubmission]
      rfl
    rw [hreset]
    split
    · rfl
    next hnone =>
      -- only the first attempt is attached from the untouched axes of a new intent
      have hunhashed : db.execution.txHash = none := by
        cases htx : db.execution.txHash with
        | none => rfl
        | some hash => exact absurd ⟨by rw [htx]; rfl, hcreate.mp hnew⟩ hnone
      obtain ⟨hchain, hworkflow⟩ := hrow hunhashed
      show (⟨_, db.execution.chainStatus, db.execution.workflowStatus⟩ : Statuses) = _
      rw [hchain, hworkflow]
  · rw [if_neg fun hboth => hnew (hcreate.mpr hboth.2), AttachInput.attachedExecution, if_neg hnew,
      ← hsubmission]
    rfl

theorem names_marked {req : MarkRequest} {after : ExecutionSnapshot} {now : Int}
    (hcur : Current view db)
    (hafter : updateSubmission (snapshotFromExecution view.execution) req.status.submission =
      .ok after) :
    NamesStatus db
      ((req.input view now (snapshotFromExecution view.execution) after).markedStore db) := by
  refine .named [(req.input view now (snapshotFromExecution view.execution) after).markedEvent] _ rfl
    rfl ?_
  obtain ⟨rfl, -⟩ := updateSubmission_ok hafter
  refine deriveOverallStatus_congr (s := { snapshotFromExecution view.execution with
    submissionStatus := req.status.submission }) ?_
  rw [hcur.execution]
  rfl

/-- `applySnapshot` appends nothing only where it changes no status. -/
theorem names_applied {input : ApplyInput} (hcur : Current input.aggregate db)
    (hto : input.event.toStatus = deriveOverallStatus input.snapshot) :
    NamesStatus db (input.appliedStore db) := by
  by_cases hsilent : input.meaningful = false ∧ input.settlementChanged = false
  · refine .silent ?_ (status_congr ?_)
    · show db.events ++ input.appliedEvents = db.events
      rw [ApplyInput.appliedEvents, if_pos hsilent, List.append_nil]
    · have hsame := hsilent.1
      simp only [ApplyInput.meaningful, ApplyInput.prior, Bool.or_eq_false_iff,
        decide_eq_false_iff_not, not_not, hcur.execution] at hsame
      show (⟨input.snapshot.submissionStatus, input.snapshot.chainStatus,
        input.snapshot.workflowStatus⟩ : Statuses) = _
      rw [ExecutionRecord.statuses, hsame.1.1.1.1.1.1.1.1, hsame.1.1.1.1.1.1.1.2, hsame.1.1.1.1.1.1.2]
  · have hlast : ∃ event, input.appliedEvents.getLast? = some event ∧
        event.toStatus = input.event.toStatus := by
      rw [ApplyInput.appliedEvents, if_neg hsilent]
      cases input.settlementChanged with
      | true => exact ⟨_, rfl, rfl⟩
      | false => exact ⟨_, rfl, rfl⟩
    obtain ⟨event, hevent, hstatus⟩ := hlast
    exact .named input.appliedEvents event rfl hevent (hstatus.trans hto)

theorem names_promoted {input : PromoteInput} : NamesStatus db (input.promotedStore db) := by
  have hlast : ∃ event, input.promotedEvents.getLast? = some event ∧
      event.toStatus = deriveOverallStatus input.snapshot := by
    rw [PromoteInput.promotedEvents]
    cases input.oldSettlementReady != input.promotedSettlementReady with
    | true => exact ⟨_, rfl, rfl⟩
    | false => exact ⟨_, rfl, rfl⟩
  obtain ⟨event, hevent, hstatus⟩ := hlast
  exact .named input.promotedEvents event rfl hevent hstatus

/-- **A guarded operation** names the status it leaves, or leaves the one there was. -/
theorem guarded_names {op : Op} (hop : op.guarded = true)
    (hcur : db.execution.version = view.execution.version → Current view db)
    (hrow : db.execution.txHash = none →
      db.execution.chainStatus = .unobserved ∧ db.execution.workflowStatus = .idle)
    (hc : op.commit view db = some t) : NamesStatus db t := by
  cases op with
  | attach req freshId now =>
      obtain ⟨normalized, after, _, _, _, -, hafter, hversion, -, -, rfl⟩ := Op.attach_writes hc
      exact names_attached (hcur hversion) hrow hafter
  | mark req now =>
      obtain ⟨after, -, hafter, hversion, -, rfl⟩ := markAttempt_ok (Op.mark_commit hc).2
      exact names_marked (hcur hversion) hafter
  | observe env =>
      obtain ⟨txHash, result, -, hp⟩ := Op.observe_commit hc
      obtain ⟨hversion, -, ⟨message, applied, -, happ, rfl, -⟩ | ⟨bundle, applied, -, -, rfl, -⟩⟩ :=
        reconcileProjection_ok hp
      · have hnames : NamesStatus db ((failureInput env view message applied).appliedStore db) :=
          names_applied (hcur hversion) (applyChainObservation_toOverall happ)
        exact hnames
      · exact names_applied (hcur hversion) rfl
  | probe env index =>
      obtain ⟨candidate, -, ⟨input, -, rfl⟩ | ⟨input, -, hp⟩⟩ := Op.probe_commit hc
      · exact .silent rfl (status_congr rfl)
      · obtain ⟨-, -, rfl⟩ := promoteAttemptProjection_ok hp
        exact names_promoted
  | preflight verified reason rawObservation now => cases hop
  | operatorNote text now => cases hop

/-- A preflight result or a note leaves the row and appends one event. -/
theorem unguarded_event {op : Op} (hop : op.guarded = false) (hc : op.commit view db = some t) :
    t.status = db.status ∧ ∃ event, t.events = db.events ++ [event] := by
  cases op with
  | preflight verified reason rawObservation now =>
      cases hc
      exact ⟨rfl, _, rfl⟩
  | operatorNote text now =>
      cases hc
      exact ⟨rfl, _, rfl⟩
  | attach req freshId now => cases hop
  | mark req now => cases hop
  | observe env => cases hop
  | probe env index => cases hop

end Tail

/-! ## One commit -/

section Commit

variable {req : CreateRequest} {w w' : LogWorld} {id : Nat} {act : Act}

/-- What a commit does to the log and to the derived status: it appends nothing and leaves the status;
or it appends entries whose last one names the status it leaves, if the operation is guarded, and it
leaves the status, if it is not. -/
theorem commit_tail (hi : LogInv req w) (h : LogStep w (.commit id act) w') :
    w'.book.log = w.book.log ++ w.book.pending id ∧
      ((w.book.pending id = [] ∧ w'.world.current.status = w.world.current.status) ∨
        ∃ entry, (w.book.pending id).getLast? = some entry ∧
          (act.op.guarded = true → entry.2.toStatus = w'.world.current.status) ∧
          (act.op.guarded = false → w'.world.current.status = w.world.current.status)) := by
  obtain ⟨acts, hrun⟩ := hi.reachable
  have hcur : w.world.current.execution.version = act.view.execution.version →
      Current act.view w.world.current :=
    current_of_version (consistent_run (consistent_opening req) hrun) (h.commit_step hi).1
  have hrow : w.world.current.execution.txHash = none →
      w.world.current.execution.chainStatus = .unobserved ∧
        w.world.current.execution.workflowStatus = .idle := by
    intro hnone
    rw [unhashed_run hrun hnone]
    exact ⟨rfl, rfl⟩
  cases h with
  | @commit _ _ db hact hheld hcommit hevents =>
      refine ⟨rfl, ?_⟩
      show (_ ∧ db.status = w.world.current.status) ∨ ∃ entry, _ ∧ (_ → _ = db.status) ∧
        (_ → db.status = w.world.current.status)
      cases hg : act.op.guarded with
      | true =>
          cases guarded_names hg hcur hrow hcommit with
          | silent hsame hstatus =>
              refine Or.inl ⟨?_, hstatus⟩
              rw [hsame] at hevents
              simpa using hevents
          | named events event happended hlast hstatus =>
              rw [happended, List.append_cancel_left_eq] at hevents
              rw [hevents, List.getLast?_map, Option.map_eq_some_iff] at hlast
              obtain ⟨entry, hentry, rfl⟩ := hlast
              exact Or.inr ⟨entry, hentry, fun _ => hstatus, fun hf => (by cases hf)⟩
      | false =>
          obtain ⟨hstatus, event, happended⟩ := unguarded_event hg hcommit
          rw [happended, List.append_cancel_left_eq] at hevents
          have hlast : ((w.book.pending id).map Prod.snd).getLast? = some event := by
            rw [← hevents]
            rfl
          rw [List.getLast?_map, Option.map_eq_some_iff] at hlast
          obtain ⟨entry, hentry, -⟩ := hlast
          exact Or.inr ⟨entry, hentry, fun hf => (by cases hf), fun _ => hstatus⟩

/-- **One commit** leaves the log at the row exactly where it finds what it must. -/
theorem commit_tail_iff (hi : LogInv req w) (htail : AuditTail w)
    (h : LogStep w (.commit id act) w') : AuditTail w' ↔ keepsTail w (.commit id act) := by
  obtain ⟨hlog, hcommit⟩ := commit_tail hi h
  obtain ⟨last, hlatest, hlast⟩ := htail
  unfold AuditTail
  rw [hlog]
  rcases hcommit with ⟨hnone, hstatus⟩ | ⟨entry, hentry, hguarded, hunguarded⟩
  · -- nothing is appended, and the status stays
    rw [hnone, List.append_nil, hstatus]
    refine iff_of_true ⟨last, hlatest, hlast⟩ fun entry hentry => ?_
    rw [hnone] at hentry
    cases hentry
  · have hasc := hi.numbered.ascending id
    have hfresh := hi.numbered.fresh id entry (List.mem_of_getLast? hentry)
    have hcondition : keepsTail w (.commit id act) ↔
        ((act.op.guarded = true ↔ Overtaken w.book.log entry.1) →
          entry.2.toStatus = w.world.current.status) := by
      unfold keepsTail
      simp [hentry]
    rw [hcondition]
    by_cases hover : Overtaken w.book.log entry.1
    · -- the last entry stays, so the status has to
      have hends : (∃ e, Latest (w.book.log ++ w.book.pending id) e ∧
          e.2.toStatus = w'.world.current.status) ↔
          w.world.current.status = w'.world.current.status := by
        simp only [Sequenced.latest_overtaken hasc hentry hover]
        constructor
        · rintro ⟨e, he, hnames⟩
          rw [← hlast, hlatest.unique he hi.numbered.log_nodup, hnames]
        · intro hsame
          exact ⟨last, hlatest, hlast.trans hsame⟩
      rw [hends]
      cases hg : act.op.guarded with
      | true =>
          rw [hguarded hg]
          simp [hover, eq_comm]
      | false =>
          rw [hunguarded hg]
          simp [hover]
    · -- the appended entry is the last one
      simp only [Sequenced.latest_appended hasc hentry hfresh hover, exists_eq_left]
      cases hg : act.op.guarded with
      | true =>
          rw [hguarded hg]
          simp [hover]
      | false =>
          rw [hunguarded hg]
          simp [hover]

/-- No other statement touches the log or the row. -/
theorem auditTail_kept {move : LogMove} (h : LogStep w move w') (htail : AuditTail w)
    (hmove : ∀ id act, move ≠ .commit id act) : AuditTail w' := by
  cases h with
  | commit _ _ _ _ => exact absurd rfl (hmove _ _)
  | begin _ _ _ => exact htail
  | lock _ _ => exact htail
  | insert _ _ => exact htail
  | rollback _ => exact htail

end Commit

/-! ## The run -/

/-- **The log ends at the row after every statement exactly of the runs** whose commits find what they
must. -/
theorem audit_tail_iff (req : CreateRequest) (moves : List LogMove) (w : LogWorld) :
    Run (fun w move w' => LogStep w move w' ∧ AuditTail w') (LogWorld.opening req) moves w ↔
      Run (Runs.when keepsTail LogStep) (LogWorld.opening req) moves w := by
  refine Run.good_iff ?_
  intro moves w move w' hrun hst
  have hopening : AuditTail (LogWorld.opening req) := by
    refine ⟨(0, _), ⟨List.mem_singleton.mpr rfl, fun other hother => ?_⟩, rfl⟩
    exact Nat.le_of_eq (congrArg Prod.fst (List.mem_singleton.mp hother))
  have htail : AuditTail w := hrun.inv AuditTail hopening fun _ _ _ _ hboth => hboth.2
  cases move with
  | commit id act => exact commit_tail_iff (log_inv (hrun.mono fun _ _ _ hboth => hboth.1)) htail hst
  | begin id act => exact iff_of_true (auditTail_kept hst htail (by simp)) trivial
  | lock id => exact iff_of_true (auditTail_kept hst htail (by simp)) trivial
  | insert id event => exact iff_of_true (auditTail_kept hst htail (by simp)) trivial
  | rollback id => exact iff_of_true (auditTail_kept hst htail (by simp)) trivial

section Runs

open Scenario

/-- Where the transactions ran one at a time, the last event committed is the last by number. -/
theorem auditTail_quiet {w : World Store} (h : AuditTail (.quiet w)) :
    ∃ event, w.current.events.getLast? = some event ∧ event.toStatus = w.current.status := by
  obtain ⟨⟨n, event⟩, hlatest, hstatus⟩ := h
  exact ⟨event, (Sequenced.latest_zipIdx.mp hlatest).1, hstatus⟩

/-- A note is written from the intent as it was before its transaction was tracked. -/
theorem stale_note_ends_log : ¬ ∀ (req : CreateRequest) (moves : List LogMove) (w : LogWorld),
    Run LogStep (LogWorld.opening req) moves w → AuditTail w := by
  intro h
  have hfacts : commitsAll (serviceCreateIntent (create .committed))
        [attach 'a' false none [outPoint '1']] = true ∧
      (serviceCreateIntent (create .committed)).status ≠
        (after .committed [attach 'a' false none [outPoint '1']]).status := by decide +kernel
  obtain ⟨hcommits, hchanged⟩ := hfacts
  simp only [commitsAll, Bool.and_true] at hcommits
  have hnote : Step ⟨after .committed [attach 'a' false none [outPoint '1']],
      [serviceCreateIntent (create .committed)]⟩
      ⟨serviceCreateIntent (create .committed), serviceCreateIntent (create .committed),
        .operatorNote "" 0⟩ _ :=
    ⟨by simp [World.views], by simp [World.views], _, rfl, rfl⟩
  obtain ⟨moves, hrun⟩ := quiet_run ((Run.single (step_alone (perform_commit hcommits))).next hnote)
  obtain ⟨event, hlast, hstatus⟩ := auditTail_quiet (h _ moves _ hrun)
  rw [World.commit_current, addOperatorNote, List.getLast?_append] at hlast
  have hevent := Option.some.inj hlast
  rw [← hevent] at hstatus
  exact hchanged hstatus

end Runs

end CellFlow
