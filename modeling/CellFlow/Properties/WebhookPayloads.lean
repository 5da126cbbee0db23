/-
# CellFlow.Properties.WebhookPayloads — the settlement verdict the outbox delivers.

The `settlementReady` of every payload should be the verdict of the row its own transaction commits.
`applySnapshot` hands its conflict type to the event; an attach, a submission report, the first event
of a promotion and an operator note leave it out, and a preflight event leaves out the commit block.
`payloads_agree_iff` says which operations those omissions reach.
-/
import CellFlow.Api.CommittedRow
import CellFlow.Api.Scenario
import CellFlow.Db.PublicView

namespace CellFlow

open Optimistic (World)
open Runs (Run)

/-! ## Verdicts -/

/-- The verdict on a row that leaves its conflict type out. -/
def verdictWithoutConflict (intent : IntentRecord) (execution : ExecutionRecord) : Bool :=
  isSettlementReady (snapshotFromExecution execution) execution.assertionStatus
    intent.expectedCells.length none

theorem isSettlementReady_conflict (s : ExecutionSnapshot)
    (assertionStatus : Option AssertionStatus) (required : Nat)
    (conflictType : Option ConflictType) :
    isSettlementReady s assertionStatus required conflictType =
      (isSettlementReady s assertionStatus required none && decide (conflictType = none)) := by
  rw [Bool.eq_iff_iff, Bool.and_eq_true, decide_eq_true_eq, isSettlementReady_eq_true,
    isSettlementReady_eq_true]
  tauto

/-- Without a named commit block nothing is settled. -/
theorem not_ready_unnamed {s : ExecutionSnapshot} {assertionStatus : Option AssertionStatus}
    {required : Nat} {conflictType : Option ConflictType} (h : s.committedBlockHash = none) :
    isSettlementReady s assertionStatus required conflictType = false := by
  rw [← Bool.not_eq_true, isSettlementReady_eq_true, h]
  rintro ⟨-, -, hnamed, -⟩
  cases hnamed

theorem Store.settlementReady_eq (db : Store) :
    db.settlementReady =
      (verdictWithoutConflict db.intent db.execution &&
        decide (db.execution.conflictType = none)) :=
  isSettlementReady_conflict _ _ _ _

/-- The two verdicts differ exactly where a conflict type is all that stands in the way. -/
theorem verdict_eq_iff {ready : Bool} {conflictType : Option ConflictType} :
    ready = (ready && decide (conflictType = none)) ↔ (ready = true → conflictType = none) := by
  cases ready <;> simp

/-! ## What the outbox tells -/

/-- The events a transaction inserts give the verdict of the row it commits, as the API shows it. -/
def TellsVerdict (before after : Store) : Prop :=
  ∃ inserted, after.events = before.events ++ inserted ∧
    ∀ event ∈ inserted,
      event.payload.settlementReady = (executionPublicView after.aggregate).settlementReady

/-- The same of every transaction, from the newest store to the one `createIntent` left. -/
def PayloadsAgree : List Store → Prop
  | [] => True
  | [created] => ∀ event ∈ created.events,
      event.payload.settlementReady = (executionPublicView created.aggregate).settlementReady
  | after :: before :: past => TellsVerdict before after ∧ PayloadsAgree (before :: past)

/-- The probe promotes a candidate with a recorded conflict type into a settled projection. -/
def settlesOverConflict (env : ReconcileEnv) (view : IntentAggregate)
    (candidate : TransactionAttemptRecord) : Prop :=
  candidate.conflictType ≠ none ∧ view.intent.expectedCells = [] ∧
    ∃ observed, env.observeCandidate candidate.txHash = .ok observed ∧
      observed.observation.status = .committed ∧ candidateMismatch env candidate observed = none ∧
      isConfirmationSatisfied view.execution.confirmationPolicy .committed
        (computeConfirmationCount observed.observation.blockNumber
          observed.observation.tipBlockNumber) = true

/-- What the omitted arguments ask of an operation. -/
def tellsTruth (view : IntentAggregate) (db : Store) : Op → Prop
  | .attach _ _ _ =>
      verdictWithoutConflict db.intent db.execution = true → db.execution.conflictType = none
  | .mark req _ =>
      verdictWithoutConflict db.intent db.execution = true →
        (req.failure.bind (·.conflictType)).or db.execution.conflictType = none
  | .observe _ => True
  | .probe env index =>
      ∀ candidate, (rivals view)[index]? = some candidate → ¬ settlesOverConflict env view candidate
  | .preflight _ _ _ _ => db.settlementReady = false
  | .operatorNote _ _ => verdictWithoutConflict view.intent view.execution = db.settlementReady

/-! ## One operation -/

section Operations

variable {view : IntentAggregate} {db t : Store}

theorem tellsVerdict_appended {inserted : List StateEvent} (h : t.events = db.events ++ inserted) :
    TellsVerdict db t ↔
      ∀ event ∈ inserted, event.payload.settlementReady = t.settlementReady := by
  constructor
  · rintro ⟨other, hother, hall⟩ event hevent
    rw [h, List.append_cancel_left_eq] at hother
    exact hall event (hother ▸ hevent)
  · intro hall
    exact ⟨inserted, h, hall⟩

theorem tellsVerdict_one {event : StateEvent} (h : t.events = db.events ++ [event]) :
    TellsVerdict db t ↔ event.payload.settlementReady = t.settlementReady := by
  rw [tellsVerdict_appended h]
  simp

/-- A transaction without an event has nothing to tell. -/
theorem tellsVerdict_silent (h : t.events = db.events) : TellsVerdict db t := by
  rw [← List.append_nil db.events] at h
  rw [tellsVerdict_appended h]
  simp

/-- `applySnapshot` tells the verdict it stores. -/
theorem tellsVerdict_applied {input : ApplyInput}
    (hpolicy : db.execution.confirmationPolicy = input.snapshot.confirmationPolicy)
    (hcells : db.intent.expectedCells = input.aggregate.intent.expectedCells) :
    TellsVerdict db (input.appliedStore db) := by
  have hevents : (input.appliedStore db).events = db.events ++ input.appliedEvents := rfl
  rw [tellsVerdict_appended hevents]
  intro event hevent
  rw [ApplyInput.appliedStore_settlementReady hpolicy hcells]
  unfold ApplyInput.appliedEvents at hevent
  dsimp only at hevent
  split at hevent
  · cases hevent
  · rcases List.mem_cons.mp hevent with rfl | hsettlement
    · rfl
    · split at hsettlement
      · rw [List.mem_singleton.mp hsettlement]
        rfl
      · cases hsettlement

/-- `promoteAttemptProjection` leaves the candidate's conflict type out of its first event. -/
theorem tellsVerdict_promoted {input : PromoteInput}
    (hpolicy : db.execution.confirmationPolicy = input.snapshot.confirmationPolicy)
    (hcells : db.intent.expectedCells = input.aggregate.intent.expectedCells) :
    TellsVerdict db (input.promotedStore db) ↔
      (isSettlementReady input.snapshot none input.requiredAssertionCount none = true →
        input.attempt.conflictType = none) := by
  have hevents : (input.promotedStore db).events = db.events ++ input.promotedEvents := rfl
  rw [tellsVerdict_appended hevents,
    PromoteInput.promotedStore_settlementReady hpolicy hcells, ← verdict_eq_iff,
    PromoteInput.promotedSettlementReady, ← isSettlementReady_conflict]
  unfold PromoteInput.promotedEvents
  constructor
  · intro hall
    exact hall _ List.mem_cons_self
  · intro hfirst event hevent
    rcases List.mem_cons.mp hevent with rfl | hsettlement
    · exact hfirst
    · split at hsettlement
      · rw [List.mem_singleton.mp hsettlement]
        rfl
      · cases hsettlement

/-- An attach leaves the conflict type out of its event. -/
theorem tellsVerdict_attached {input : AttachInput} {attemptId : String} {number : Nat}
    {attempts : List TransactionAttemptRecord} (hcur : Current input.aggregate db)
    (hb : BackedRow db.execution) (hguard : input.replacementGuard = .ok ()) :
    TellsVerdict db (input.attachedStore db attemptId number attempts) ↔
      (verdictWithoutConflict db.intent db.execution = true → db.execution.conflictType = none) := by
  have hevents : (input.attachedStore db attemptId number attempts).events =
      db.events ++ [input.attachedEvent attemptId number] := rfl
  rw [tellsVerdict_one hevents]
  by_cases hcreate : input.creatingAttempt = true
  · -- a new hash: the row starts over, and the old one was not settled
    have hunsettled : verdictWithoutConflict db.intent db.execution = false := by
      rw [← Bool.not_eq_true]
      intro hready
      exact attach_uncommitted hcur hb hguard hcreate (isSettlementReady_eq_true.mp hready).2.1
    simp [hunsettled, AttachInput.attachedEvent, AttachInput.attachedSnapshot, eventWithOutbox,
      hcreate, Store.settlementReady, AttachInput.attachedExecution, isSettlementReady,
      snapshotFromExecution, initialSnapshot]
  · have hstored : (input.attachedStore db attemptId number attempts).settlementReady =
        db.settlementReady := by
      rw [Store.settlementReady, AttachInput.attachedStore_execution,
        AttachInput.attachedExecution, if_neg hcreate]
      rfl
    have htold : (input.attachedEvent attemptId number).payload.settlementReady =
        verdictWithoutConflict db.intent db.execution := by
      simp only [AttachInput.attachedEvent, AttachInput.attachedSnapshot, eventWithOutbox, hcreate,
        Bool.false_eq_true, if_false, hcur.execution, hcur.intent]
      rfl
    rw [htold, hstored, Store.settlementReady_eq, verdict_eq_iff]

/-- A report leaves the conflict type out of its event. -/
theorem tellsVerdict_marked {req : MarkRequest} {now : Int} {before after : ExecutionSnapshot}
    (hcur : Current view db) :
    TellsVerdict db ((req.input view now before after).markedStore db) ↔
      (verdictWithoutConflict db.intent db.execution = true →
        (req.failure.bind (·.conflictType)).or db.execution.conflictType = none) := by
  have htold : (req.input view now before after).markedEvent.payload.settlementReady =
      verdictWithoutConflict db.intent db.execution := by
    simp only [MarkInput.markedEvent, MarkRequest.input, eventWithOutbox, hcur.execution,
      hcur.intent]
    rfl
  have hstored : ((req.input view now before after).markedStore db).settlementReady =
      (verdictWithoutConflict db.intent db.execution &&
        decide ((req.failure.bind (·.conflictType)).or db.execution.conflictType = none)) := by
    rw [Store.settlementReady_eq]
    simp only [MarkInput.markedStore, MarkInput.markedExecution, MarkInput.nextConflictType,
      MarkRequest.input, hcur.execution]
    rfl
  have hevents : ((req.input view now before after).markedStore db).events =
      db.events ++ [(req.input view now before after).markedEvent] := rfl
  rw [tellsVerdict_one hevents, htold, hstored, verdict_eq_iff]

/-- `appendEvent` leaves the commit block out of its event, so its payload never says ready. -/
theorem tellsVerdict_appendEvent (kind : EventKind) (fromStatus toStatus : OverallStatus)
    (reason : String) (rawObservation : Option Js.Json) (now : Int) :
    TellsVerdict db (appendEvent view kind fromStatus toStatus reason rawObservation now db) ↔
      db.settlementReady = false := by
  rw [tellsVerdict_appended (t := appendEvent view kind fromStatus toStatus reason rawObservation
    now db) rfl]
  simp only [List.mem_singleton, forall_eq]
  show isSettlementReady _ _ _ none = db.settlementReady ↔ _
  rw [not_ready_unnamed rfl, eq_comm]

/-- An operator note tells the verdict of the view it was written from, without its conflict type. -/
theorem tellsVerdict_note (text : String) (now : Int) :
    TellsVerdict db (addOperatorNote view text now db) ↔
      verdictWithoutConflict view.intent view.execution = db.settlementReady := by
  rw [tellsVerdict_appended (t := addOperatorNote view text now db) rfl]
  simp only [List.mem_singleton, forall_eq]
  rfl

/-- The depth a promoted snapshot is ready at is that of the answer. -/
theorem promoted_ready_iff {candidate : TransactionAttemptRecord} {o : ChainObservation}
    {required : Nat} (hs : o.status = .committed)
    (ho : (truthy o.blockHash).isSome ∧ (truthy o.blockNumber).isSome) :
    isSettlementReady (observedSnapshot (candidateBase view candidate) o) none required none =
        true ↔
      required = 0 ∧ isConfirmationSatisfied view.execution.confirmationPolicy .committed
        (computeConfirmationCount o.blockNumber o.tipBlockNumber) = true := by
  have hback : CommitBacked (observedSnapshot (candidateBase view candidate) o) :=
    commitBacked_of_committed hs ho
  rw [hback.ready_iff, observedSnapshot_confirmed_iff hs]
  have hpolicy : (candidateBase view candidate).confirmationPolicy =
      view.execution.confirmationPolicy := rfl
  rw [hpolicy]
  tauto

/-- **One operation** tells the truth exactly where its omissions do not matter. -/
theorem tellsVerdict_iff {op : Op}
    (hcur : db.execution.version = view.execution.version → Current view db)
    (hb : BackedRow db.execution) (h : op.commit view db = some t) :
    TellsVerdict db t ↔ tellsTruth view db op := by
  cases op with
  | attach req freshId now =>
      obtain ⟨_, _, _, _, _, -, -, hversion, -, hguard, rfl⟩ := Op.attach_writes h
      exact tellsVerdict_attached (hcur hversion) hb hguard
  | mark req now =>
      obtain ⟨-, hm⟩ := Op.mark_commit h
      obtain ⟨after, -, -, hversion, -, rfl⟩ := markAttempt_ok hm
      exact tellsVerdict_marked (hcur hversion)
  | observe env =>
      obtain ⟨txHash, result, -, hp⟩ := Op.observe_commit h
      obtain ⟨hversion, -, ⟨message, applied, -, happ, rfl, -⟩ | ⟨bundle, applied, -, happ, rfl, -⟩⟩ :=
        reconcileProjection_ok hp
      all_goals
        have hc := hcur hversion
        have hsnap := (applyChainObservation_ok happ).1
        have hcells := congrArg IntentRecord.expectedCells hc.intent.symm
        rw [tellsTruth, iff_true]
        refine tellsVerdict_applied ?_ hcells
      · simp [failureInput, hsnap, hc.execution]
      · rw [plannedInput, plannedDraft_snapshot, hsnap]
        simp [hc.execution]
  | probe env index =>
      obtain ⟨candidate, hindex, ⟨input, hj, rfl⟩ | ⟨input, hj, hp⟩⟩ := Op.probe_commit h
      · -- an update of the candidate row inserts no event
        refine iff_of_true (tellsVerdict_silent (t := updateCandidateAttempt input db) rfl) ?_
        obtain ⟨observed, hobserved, hstays, -⟩ := judgeCandidate_update hj
        rintro candidate' hindex' ⟨-, -, observed', hobserved', hstatus, hmismatch, -⟩
        cases hindex.symm.trans hindex'
        cases hobserved.symm.trans hobserved'
        exact hstays ⟨hstatus, hmismatch⟩
      · obtain ⟨hversion, -, rfl⟩ := promoteAttemptProjection_ok hp
        obtain ⟨observed, applied, hobserved, hstatus, hmismatch, happ, rfl, rfl, hsnap, -⟩ :=
          judgeCandidate_promote hj
        have hc := hcur hversion
        have hpolicy : db.execution.confirmationPolicy = input.snapshot.confirmationPolicy := by
          rw [hsnap, (applyChainObservation_ok happ).1, observedSnapshot_policy, ← hc.execution]
          rfl
        have hcells := congrArg IntentRecord.expectedCells hc.intent.symm
        rw [tellsVerdict_promoted hpolicy hcells, hsnap, (applyChainObservation_ok happ).1,
          promoted_ready_iff hstatus (observed.committed_named hstatus)]
        constructor
        · rintro hnone candidate' hindex' ⟨hconflict, hempty, observed', hobserved', -, -, hsat⟩
          rw [hindex, Option.some.injEq] at hindex'
          subst hindex'
          rw [hobserved, Except.ok.injEq] at hobserved'
          subst hobserved'
          exact hconflict (hnone ⟨List.length_eq_zero_iff.mpr hempty, hsat⟩)
        · rintro hno ⟨hempty, hsat⟩
          by_contra hconflict
          exact hno _ hindex ⟨hconflict, List.length_eq_zero_iff.mp hempty, observed, hobserved,
            hstatus, hmismatch, hsat⟩
  | preflight verified reason rawObservation now =>
      cases h
      exact tellsVerdict_appendEvent _ _ _ _ _ _
  | operatorNote text now =>
      cases h
      exact tellsVerdict_note text now

end Operations

/-! ## The run -/

/-- The event of `createIntent` tells the truth. -/
theorem payloadsAgree_opening (req : CreateRequest) : PayloadsAgree (opening req).views := by
  intro event hevent
  rw [List.mem_singleton.mp hevent]
  rfl

/-- **One step** keeps the payloads in agreement exactly when it told the truth. -/
theorem payloadsAgree_step {w w' : World Store} {act : Act} (hw : BackedWorld w)
    (hst : Step w act w') :
    PayloadsAgree w'.views ↔ tellsTruth act.view w.current act.op ∧ PayloadsAgree w.views := by
  obtain ⟨hrows, -, t, hc, rfl⟩ := hst
  rw [← tellsVerdict_iff (current_of_version hw.consistent hrows) hw.backed hc]
  rfl

/-- **The payloads of a run agree with the rows exactly when each of its steps told the truth.** -/
theorem payloads_agree_iff {req : CreateRequest} {acts : List Act} {w : World Store}
    (h : Run Step (opening req) acts w) :
    PayloadsAgree w.views ↔
      Run (Runs.when (fun w act => tellsTruth act.view w.current act.op) Step) (opening req)
        acts w := by
  constructor
  · intro hagree
    induction h with
    | start => exact .start
    | next hrun hst ih =>
        obtain ⟨htold, hbefore⟩ := (payloadsAgree_step (backedWorld_run hrun) hst).mp hagree
        exact .next (ih hbefore) ⟨htold, hst⟩
  · intro htruthful
    induction htruthful with
    | start => exact payloadsAgree_opening req
    | next hrun hst ih =>
        have hworld := backedWorld_run hrun.of_when
        exact (payloadsAgree_step hworld hst.2).mpr ⟨hst.1, ih hrun.of_when⟩

section Runs

open Scenario

/-- A transaction is tracked and settles, and every payload on the way tells the truth. -/
theorem payloads_agree_iff_settled : ∃ acts w,
    Run Step (opening (create (.depth 4))) acts w ∧ w.current.settlementReady = true ∧
      PayloadsAgree w.views := by
  let start := serviceCreateIntent (create (.depth 4))
  let track := attach 'a' false none [outPoint '1']
  let confirm := Op.observe (node (.ok (committed "0x8")))
  have hfacts : (track.commit start.aggregate start).isSome = true ∧
      (confirm.commit (perform start track).aggregate (perform start track)).isSome = true ∧
      (perform (perform start track) confirm).settlementReady = true := by
    decide +kernel
  obtain ⟨htrack, hconfirm, hready⟩ := hfacts
  have hfirst := perform_commit htrack
  have hsecond := perform_commit hconfirm
  generalize perform (perform start track) confirm = final at hsecond hready
  generalize perform start track = tracked at hfirst hsecond
  have htold : tellsTruth start.aggregate start track := fun _ => rfl
  have hrun : Run (Runs.when (fun w act => tellsTruth act.view w.current act.op) Step)
      (opening (create (.depth 4))) [⟨start, start, track⟩, ⟨tracked, tracked, confirm⟩]
      ⟨final, [tracked, start]⟩ := by
    have hone : Run (Runs.when (fun w act => tellsTruth act.view w.current act.op) Step)
        (opening (create (.depth 4))) [⟨start, start, track⟩] ⟨tracked, [start]⟩ :=
      .single ⟨htold, step_alone hfirst⟩
    exact hone.next ⟨trivial, step_alone hsecond⟩
  exact ⟨_, _, hrun.of_when, hready, (payloads_agree_iff hrun.of_when).mpr hrun⟩

/-- The broadcast is reported and the transaction settles. -/
def broadcastSettled : List Op :=
  [attach 'a' true none [outPoint '1'], report .broadcasting,
    .observe (node (.ok (committed "0x8")))]

/-- The payload of a late node rejection still says ready. -/
theorem late_rejection_payload : ¬ ∀ (req : CreateRequest) (acts : List Act) (w : World Store),
    Run Step (opening req) acts w → PayloadsAgree w.views := by
  intro h
  have hfacts : commitsAll (serviceCreateIntent (create (.depth 4))) broadcastSettled = true ∧
      (rejectSuspected.commit (after (.depth 4) broadcastSettled).aggregate
        (after (.depth 4) broadcastSettled)).isSome = true ∧
      verdictWithoutConflict (after (.depth 4) broadcastSettled).intent
        (after (.depth 4) broadcastSettled).execution = true := by
    decide +kernel
  obtain ⟨hcommits, hrejects, hready⟩ := hfacts
  obtain ⟨acts, past, hrun⟩ := run_after hcommits
  generalize after (.depth 4) broadcastSettled = db at hrun hrejects hready
  have hst : Step ⟨db, past⟩ ⟨db, db, rejectSuspected⟩ _ := step_alone (perform_commit hrejects)
  have hagree := h _ _ _ (hrun.next hst)
  have htold := ((payloadsAgree_step (backedWorld_run hrun) hst).mp hagree).1
  have hnone : (some ConflictType.inputConflictSuspected).or db.execution.conflictType = none :=
    htold hready
  cases hnone

end Runs

end CellFlow
