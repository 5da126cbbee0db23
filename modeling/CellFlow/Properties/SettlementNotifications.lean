/-
# CellFlow.Properties.SettlementNotifications — SETTLEMENT_READY and SETTLEMENT_REVOKED alternate.

The settlement events of an intent should strictly alternate from SETTLEMENT_READY, and the row should
be ready, with a settlement timestamp, exactly when the last of them says so.  Only `applySnapshot`
and `promoteAttemptProjection` compare readiness; a submission report that records a conflict type on
a ready row takes readiness away without either, and every run without one keeps the agreement.
-/
import CellFlow.Lib.Alternation
import CellFlow.Api.CommittedRow
import CellFlow.Api.Scenario

namespace CellFlow

open Alternation (Alternates due)
open Runs (Run)

/-! ## The settlement log -/

/-- What a settlement event says about readiness. -/
def EventKind.settlement : EventKind → Option Bool
  | .settlementReady => some true
  | .settlementRevoked => some false
  | _ => none

/-- The settlement events in order. -/
def settlementLog (events : List StateEvent) : List Bool :=
  events.filterMap (·.kind.settlement)

/-- The settlement events alternate, and row, timestamp and last event agree. -/
structure NotificationsAgree (db : Store) : Prop where
  alternates : Alternates true (settlementLog db.events)
  ready : db.settlementReady = true ↔ (settlementLog db.events).getLast? = some true
  timestamp : db.execution.settlementReadyAt ≠ none ↔
    (settlementLog db.events).getLast? = some true

/-- The report records a conflict type on a ready row. -/
def unsettlesSilently (view : IntentAggregate) (req : MarkRequest) : Prop :=
  req.failure.bind (·.conflictType) ≠ none ∧
    isSettlementReady (snapshotFromExecution view.execution) view.execution.assertionStatus
      view.intent.expectedCells.length view.execution.conflictType = true

/-- The operation changes readiness only with a settlement event. -/
def announces (view : IntentAggregate) : Op → Prop
  | .mark req _ => ¬ unsettlesSilently view req
  | _ => True

/-! ## Kinds of other events -/

@[simp] theorem settlementLog_append (xs ys : List StateEvent) :
    settlementLog (xs ++ ys) = settlementLog xs ++ settlementLog ys := by
  simp [settlementLog]

theorem settlementLog_cons_other {event : StateEvent} {rest : List StateEvent}
    (h : event.kind.settlement = none) : settlementLog (event :: rest) = settlementLog rest := by
  simp [settlementLog, h]

theorem settlementLog_append_other {events : List StateEvent} {event : StateEvent}
    (h : event.kind.settlement = none) :
    settlementLog (events ++ [event]) = settlementLog events := by
  rw [settlementLog_append, settlementLog_cons_other h]
  exact List.append_nil _

theorem settlementLog_single {event : StateEvent} {ready : Bool}
    (h : event.kind.settlement = some ready) : settlementLog [event] = [ready] := by
  simp [settlementLog, h]

/-- The kind under which a change of readiness is announced. -/
theorem settlement_of_change (ready : Bool) :
    (if ready then EventKind.settlementReady else .settlementRevoked).settlement = some ready := by
  cases ready <;> rfl

theorem applyChainObservation_kind {s : ExecutionSnapshot} {o : ChainObservation}
    {r : ApplyObservationResult} (h : applyChainObservation s o = .ok r) :
    r.event.kind.settlement = none := by
  simp only [applyChainObservation] at h
  split at h
  · cases h
  · split at h
    · cases h
      rfl
    · cases h
      dsimp only
      split
      · rfl
      · split <;> rfl

variable {env : ReconcileEnv} {view : IntentAggregate} {bundle : RpcObservationBundle}
  {db t : Store}

/-- No conflict branch plans a settlement event. -/
theorem conflictDraft_kind (env : ReconcileEnv) (view : IntentAggregate)
    (bundle : RpcObservationBundle) (txHash : String) (draft : Draft)
    (h : draft.eventKind.settlement = none) :
    (conflictDraft env view bundle txHash draft).eventKind.settlement = none := by
  unfold conflictDraft
  cases conflictVerdict env view bundle with
  | mismatch expected observed => rfl
  | found =>
      simp only [foundDraft]
      split
      · rfl
      · exact h
  | contended inspection =>
      simp only [contendedDraft]
      split <;> rfl
  | spent inspection =>
      simp only [spentDraft]
      split
      · split <;> rfl
      · rfl
  | allLive => rfl
  | uncertain inspection => rfl
  | silent => exact h

theorem plannedDraft_kind {txHash : String} {applied : ApplyObservationResult}
    (h : applied.event.kind.settlement = none) :
    (plannedDraft env view bundle txHash applied).eventKind.settlement = none := by
  have hconflict := conflictDraft_kind env view bundle txHash
    (observedDraft view bundle applied) h
  unfold plannedDraft assertionDraft
  simp only
  split
  · split
    · rfl
    · rfl
    · simpa using hconflict
  · simpa using hconflict

/-! ## What an operation appends -/

/-- `applySnapshot` announces exactly the readiness it changes. -/
theorem settlementLog_applied {input : ApplyInput} (h : input.event.kind.settlement = none) :
    settlementLog input.appliedEvents = if input.settlementChanged then [input.nextReady] else [] := by
  unfold ApplyInput.appliedEvents
  by_cases hc : input.settlementChanged = true
  · simp only [hc, Bool.true_eq_false, and_false, if_true, if_false]
    rw [settlementLog_cons_other (by simpa using h)]
    exact settlementLog_single (settlement_of_change _)
  · simp only [hc, Bool.false_eq_true, if_false]
    split
    · rfl
    · exact settlementLog_cons_other (by simpa using h)

/-- So does `promoteAttemptProjection`. -/
theorem settlementLog_promoted {input : PromoteInput} (h : input.eventKind.settlement = none) :
    settlementLog input.promotedEvents =
      if input.oldSettlementReady != input.promotedSettlementReady then
        [input.promotedSettlementReady]
      else [] := by
  unfold PromoteInput.promotedEvents
  rw [settlementLog_cons_other (by simpa using h)]
  split
  · exact settlementLog_single (settlement_of_change _)
  · rfl

/-! ## The agreement is kept -/

/-- A write that announces exactly the readiness it changes. -/
theorem NotificationsAgree.written (h : NotificationsAgree db)
    (hat : t.execution.settlementReadyAt ≠ none ↔ t.settlementReady = true)
    (hlog : settlementLog t.events = settlementLog db.events ++
      if db.settlementReady != t.settlementReady then [t.settlementReady] else []) :
    NotificationsAgree t := by
  have hdue : due true (settlementLog db.events) = !db.settlementReady := by
    have hlast := Alternation.last_iff h.alternates
    rw [← h.ready] at hlast
    cases hr : db.settlementReady with
    | true => simpa using hlast.mp hr
    | false =>
        rw [hr] at hlast
        simpa using hlast
  by_cases hchange : (db.settlementReady != t.settlementReady) = true
  · rw [if_pos hchange] at hlog
    have hnew : t.settlementReady = due true (settlementLog db.events) := by
      rw [hdue]
      cases hr : db.settlementReady <;> simpa [hr] using hchange
    have hlast : (settlementLog t.events).getLast? = some t.settlementReady := by
      rw [hlog]
      simp
    refine ⟨?_, ?_, ?_⟩
    · rw [hlog]
      exact Alternation.alternates_concat.mpr ⟨h.alternates, hnew⟩
    · simp [hlast]
    · simp [hlast, hat]
  · rw [if_neg hchange, List.append_nil] at hlog
    have hsame : t.settlementReady = db.settlementReady := by
      rw [bne_iff_ne, not_not] at hchange
      exact hchange.symm
    refine ⟨hlog ▸ h.alternates, ?_, ?_⟩
    · rw [hlog, hsame, h.ready]
    · rw [hat, hlog, hsame, h.ready]

/-- A write that touches neither readiness, timestamp nor log. -/
theorem NotificationsAgree.untouched (h : NotificationsAgree db)
    (hready : t.settlementReady = db.settlementReady)
    (hat : t.execution.settlementReadyAt = db.execution.settlementReadyAt)
    (hlog : settlementLog t.events = settlementLog db.events) : NotificationsAgree t := by
  refine h.written ?_ (by simp [hready, hlog])
  rw [hat, hready, h.timestamp, h.ready]

/-- The readiness a write compares with is that of the row. -/
theorem NotificationsAgree.prior (h : NotificationsAgree db) (hcur : Current view db) :
    (view.execution.settlementReadyAt.isSome &&
      isSettlementReady (snapshotFromExecution view.execution) view.execution.assertionStatus
        view.intent.expectedCells.length view.execution.conflictType) = db.settlementReady := by
  rw [hcur.execution, hcur.intent]
  have hboth : db.execution.settlementReadyAt ≠ none ↔ db.settlementReady = true := by
    rw [h.timestamp, h.ready]
  change (db.execution.settlementReadyAt.isSome && db.settlementReady) = _
  cases hr : db.settlementReady with
  | false => simp
  | true =>
      rw [hr] at hboth
      simpa [Option.isSome_iff_ne_none] using hboth

/-- `applySnapshot` keeps the agreement. -/
theorem NotificationsAgree.applied {input : ApplyInput} (h : NotificationsAgree db)
    (hcur : Current input.aggregate db) (hkind : input.event.kind.settlement = none)
    (hpolicy : db.execution.confirmationPolicy = input.snapshot.confirmationPolicy) :
    NotificationsAgree (input.appliedStore db) := by
  have hready := ApplyInput.appliedStore_settlementReady hpolicy
    (congrArg _ hcur.intent.symm)
  refine h.written ?_ ?_
  · rw [hready, ← ApplyInput.settlementReadyAt_isSome, Option.isSome_iff_ne_none]
    exact Iff.rfl
  · have hprior : input.priorReady = db.settlementReady := h.prior hcur
    change settlementLog (db.events ++ input.appliedEvents) = _
    rw [settlementLog_append, settlementLog_applied hkind, hready, ← hprior]
    rfl

/-- So does `promoteAttemptProjection`. -/
theorem NotificationsAgree.promoted {input : PromoteInput} (h : NotificationsAgree db)
    (hcur : Current input.aggregate db) (hkind : input.eventKind.settlement = none)
    (hpolicy : db.execution.confirmationPolicy = input.snapshot.confirmationPolicy) :
    NotificationsAgree (input.promotedStore db) := by
  have hready := PromoteInput.promotedStore_settlementReady hpolicy
    (congrArg _ hcur.intent.symm)
  refine h.written ?_ ?_
  · rw [hready]
    change (if input.promotedSettlementReady then some input.occurredAt else none) ≠ none ↔ _
    cases input.promotedSettlementReady <;> simp
  · have hprior : input.oldSettlementReady = db.settlementReady := h.prior hcur
    change settlementLog (db.events ++ input.promotedEvents) = _
    rw [settlementLog_append, settlementLog_promoted hkind, hready, ← hprior]

/-- A settled row is not replaced by an attach. -/
theorem attach_unsettled {input : AttachInput} (hcur : Current input.aggregate db)
    (hb : BackedRow db.execution) (hguard : input.replacementGuard = .ok ())
    (hcreate : input.creatingAttempt = true) : db.settlementReady = false := by
  rw [← Bool.not_eq_true]
  intro hready
  exact attach_uncommitted hcur hb hguard hcreate (isSettlementReady_eq_true.mp hready).2.1

/-- An attach keeps the agreement. -/
theorem NotificationsAgree.attached {input : AttachInput} {attemptId : String} {number : Nat}
    {attempts : List TransactionAttemptRecord} (h : NotificationsAgree db)
    (hcur : Current input.aggregate db) (hb : BackedRow db.execution)
    (hguard : input.replacementGuard = .ok ()) :
    NotificationsAgree (input.attachedStore db attemptId number attempts) := by
  have hlog : settlementLog (input.attachedStore db attemptId number attempts).events =
      settlementLog db.events := by
    refine settlementLog_append_other ?_
    rw [AttachInput.attachedEvent, eventWithOutbox_kind]
    dsimp only
    split <;> rfl
  by_cases hcreate : input.creatingAttempt = true
  · have hunsettled := attach_unsettled hcur hb hguard hcreate
    have hat : db.execution.settlementReadyAt = none := by
      by_contra hne
      have hready := h.ready.mpr (h.timestamp.mp hne)
      rw [hunsettled] at hready
      cases hready
    refine h.untouched ?_ ?_ hlog
    · rw [hunsettled]
      simp [Store.settlementReady, AttachInput.attachedExecution, hcreate, isSettlementReady,
        snapshotFromExecution]
    · simp [AttachInput.attachedExecution, hcreate, hat]
  · refine h.untouched ?_ ?_ hlog
    · rw [Store.settlementReady, AttachInput.attachedStore_execution,
        AttachInput.attachedExecution, if_neg hcreate]
      rfl
    · simp [AttachInput.attachedExecution, hcreate]

/-- A report that records no conflict type on a ready row keeps the agreement. -/
theorem NotificationsAgree.marked {req : MarkRequest} {now : Int} {before after : ExecutionSnapshot}
    (h : NotificationsAgree db) (hcur : Current view db) (hok : ¬ unsettlesSilently view req) :
    NotificationsAgree ((req.input view now before after).markedStore db) := by
  refine h.untouched ?_ rfl ?_
  · by_cases htype : req.failure.bind (·.conflictType) = none
    · simp only [Store.settlementReady, MarkInput.markedStore, MarkInput.markedExecution,
        MarkInput.nextConflictType, MarkRequest.input, htype, Option.none_or, hcur.execution]
      rfl
    · have hunsettled : db.settlementReady = false := by
        by_contra hready
        rw [Bool.not_eq_false] at hready
        refine hok ⟨htype, ?_⟩
        rw [hcur.execution, hcur.intent]
        exact hready
      obtain ⟨conflict, hconflict⟩ := Option.ne_none_iff_exists'.mp htype
      rw [hunsettled]
      simp [Store.settlementReady, MarkInput.markedStore, MarkInput.markedExecution,
        MarkInput.nextConflictType, MarkRequest.input, hconflict, isSettlementReady]
  · exact settlementLog_append_other rfl

/-! ## The run -/

/-- What every state of a run satisfies. -/
structure NotificationInv (db : Store) : Prop where
  backed : BackedRow db.execution
  agree : NotificationsAgree db

theorem notificationInv_opening (req : CreateRequest) :
    NotificationInv (serviceCreateIntent req) := by
  have hempty : ¬ (settlementLog (serviceCreateIntent req).events).getLast? = some true := nofun
  exact ⟨backedRow_opening req, trivial, iff_of_false nofun hempty,
    iff_of_false (not_not.mpr rfl) hempty⟩

/-- **One operation** that announces what it changes. -/
theorem notificationInv_step {op : Op}
    (hcur : db.execution.version = view.execution.version → Current view db)
    (hi : NotificationInv db) (hok : announces view op) (h : op.commit view db = some t) :
    NotificationInv t := by
  refine ⟨Op.commit_backed hcur hi.backed h, ?_⟩
  cases op with
  | attach req freshId now =>
      obtain ⟨_, _, _, _, _, -, -, hversion, -, hguard, rfl⟩ := Op.attach_writes h
      exact hi.agree.attached (hcur hversion) hi.backed hguard
  | mark req now =>
      obtain ⟨-, hm⟩ := Op.mark_commit h
      obtain ⟨after, -, -, hversion, -, rfl⟩ := markAttempt_ok hm
      exact hi.agree.marked (hcur hversion) hok
  | observe env =>
      obtain ⟨txHash, result, -, hp⟩ := Op.observe_commit h
      obtain ⟨hversion, -, ⟨message, applied, -, happ, rfl, -⟩ | ⟨bundle, applied, -, happ, rfl, -⟩⟩ :=
        reconcileProjection_ok hp
      all_goals
        have hc := hcur hversion
        have hsnap := (applyChainObservation_ok happ).1
      · refine hi.agree.applied hc (applyChainObservation_kind happ) ?_
        simp [failureInput, hsnap, hc.execution]
      · refine hi.agree.applied hc (plannedDraft_kind (applyChainObservation_kind happ)) ?_
        rw [plannedInput, plannedDraft_snapshot, hsnap]
        simp [hc.execution]
  | probe env index =>
      obtain ⟨candidate, -, ⟨input, -, rfl⟩ | ⟨input, hj, hp⟩⟩ := Op.probe_commit h
      · exact hi.agree.untouched rfl rfl rfl
      · obtain ⟨hversion, -, rfl⟩ := promoteAttemptProjection_ok hp
        obtain ⟨observed, applied, -, -, -, happ, rfl, -, hsnap, hkind⟩ := judgeCandidate_promote hj
        have hc := hcur hversion
        refine hi.agree.promoted hc ?_ ?_
        · rw [hkind]
          split <;> rfl
        · rw [hsnap, (applyChainObservation_ok happ).1, observedSnapshot_policy, ← hc.execution]
          rfl
  | preflight verified reason rawObservation now =>
      cases h
      refine hi.agree.untouched rfl rfl (settlementLog_append_other ?_)
      rw [eventWithOutbox_kind]
      cases verified <;> rfl
  | operatorNote text now =>
      cases h
      exact hi.agree.untouched rfl rfl (settlementLog_append_other rfl)

/-- **Settlement notifications alternate and agree with the row**, in any interleaving of operations
that announce what they change. -/
theorem settlement_notifications_agree {req : CreateRequest} {acts : List Act}
    {w : Optimistic.World Store}
    (h : Run (Runs.when (fun _ act => announces act.view act.op) Step) (opening req) acts w) :
    NotificationsAgree w.current := by
  have hi : NotificationInv w.current :=
    machine_inv NotificationInv announces (consistent_opening req) (notificationInv_opening req)
      (fun _ _ _ _ hcur hi hok hc => notificationInv_step hcur hi hok hc) h
  exact hi.agree

section Runs

open Scenario

/-- A transaction is tracked and settles. -/
theorem settlement_notifications_agree_settled : ∃ acts w,
    Run (Runs.when (fun _ act => announces act.view act.op) Step) (opening (create (.depth 4)))
      acts w ∧ w.current = settled ∧ NotificationsAgree w.current := by
  have hcommits : Performs announces (serviceCreateIntent (create (.depth 4)))
      [attach 'a' false none [outPoint '1'], .observe (node (.ok (committed "0x8")))] :=
    ⟨trivial, by decide +kernel, trivial, by decide +kernel, trivial⟩
  obtain ⟨acts, w, hrun, hw, -⟩ := run_of_performs [] hcommits
  exact ⟨acts, w, hrun, hw, settlement_notifications_agree hrun⟩

/-- The broadcast is reported, the transaction settles, and then the node's late rejection arrives. -/
def lateRejection : List Op :=
  [attach 'a' true none [outPoint '1'], report .broadcasting,
    .observe (node (.ok (committed "0x8"))), rejectSuspected]

/-- A late node rejection takes readiness away without an event. -/
theorem late_rejection_disagrees : ¬ ∀ (req : CreateRequest) (acts : List Act)
    (w : Optimistic.World Store), Run Step (opening req) acts w → NotificationsAgree w.current := by
  intro h
  have hcommits : Performs (fun _ _ => True) (serviceCreateIntent (create (.depth 4)))
      lateRejection := performs_of_commitsAll (by decide +kernel)
  have hstore : (after (.depth 4) lateRejection).settlementReady = false ∧
      (settlementLog (after (.depth 4) lateRejection).events).getLast? = some true := by
    decide +kernel
  obtain ⟨acts, w, hrun, hw, -⟩ := run_of_performs [] hcommits
  have hready := (h _ acts w hrun.of_when).ready
  have hw' : w.current = after (.depth 4) lateRejection := hw
  rw [hw', hstore.1, hstore.2] at hready
  simp at hready

end Runs

end CellFlow
