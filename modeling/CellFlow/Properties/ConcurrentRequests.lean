/-
# CellFlow.Properties.ConcurrentRequests — what an answer means while other calls run.

Any number of calls on one intent read, decide and write in any order, begin again where they were
overtaken, and may never hear of their last write.  An attach or a report that answers has written once,
and its write is the one it makes alone on the store it found; one that fails has written nothing; and a
call that gives up was overtaken within each of its three passes (`requests_linearize`).  Whatever they leave,
the machine of single operations reaches.
-/
import CellFlow.Api.Requests
import CellFlow.Api.Scenario

namespace CellFlow

open Retry (Raises)
open Optimistic (World)
open Runs (Run)

/-! ## What a view is compared by -/

/-- The members of an attempt that no candidate update changes and a guarded write reads. -/
def TransactionAttemptRecord.identity (attempt : TransactionAttemptRecord) :
    String × Nat × List OutPointRef :=
  (attempt.id, attempt.attemptNumber, attempt.inputOutPoints)

/-- The guarded rows and the identity of every attempt agree. -/
structure SameRows (s t : Store) : Prop where
  rows : guardedRows s = guardedRows t
  attempts : s.attempts.map (·.identity) = t.attempts.map (·.identity)

theorem SameRows.intent {s t : Store} (h : SameRows s t) : s.intent = t.intent := by
  have hrows := h.rows
  rw [guardedRows, guardedRows, Prod.mk.injEq] at hrows
  exact hrows.2

theorem SameRows.execution {s t : Store} (h : SameRows s t) : s.execution = t.execution := by
  have hrows := h.rows
  rw [guardedRows, guardedRows, Prod.mk.injEq] at hrows
  exact hrows.1

theorem sameRows_discipline : Retry.Discipline rowVersion SameRows where
  refl := fun _ => ⟨rfl, rfl⟩
  trans := fun h h' => ⟨h.rows.trans h'.rows, h.attempts.trans h'.attempts⟩
  version := fun h => by rw [rowVersion, rowVersion, h.execution]

theorem sameRows_update (input : CandidateInput) (db : Store) :
    SameRows db (updateCandidateAttempt input db) := by
  refine ⟨rfl, ?_⟩
  show db.attempts.map _ = (updateAttempt input.attemptId input.updated db.attempts).map _
  rw [updateAttempt, List.map_map]
  refine List.map_congr_left fun attempt _ => ?_
  simp only [Function.comp_apply]
  split <;> rfl

/-! ## What the calls keep to -/

section Keeps

variable {view : IntentAggregate} {db t : Store} {place : ReconcilePlace}

theorem transact_concurrency {version : Nat} {next : Store}
    (h : db.transact version next = .error .optimisticConcurrency) :
    db.execution.version ≠ version := by
  unfold Store.transact at h
  split at h
  next hv => exact hv
  next hv =>
    split at h
    · cases h
    · cases h

theorem attachTransaction_concurrency {input : AttachInput}
    (h : attachTransaction input db = .error .optimisticConcurrency) :
    db.execution.version ≠ input.aggregate.execution.version := by
  unfold attachTransaction at h
  split at h
  · cases h
  · split at h
    · split at h
      · cases h
      · exact transact_concurrency h
    · split at h
      next e he =>
        cases h
        unfold AttachInput.insertGuard at he
        split_ifs at he <;> cases he
      · exact transact_concurrency h

theorem attachAttempt_concurrency {normalized : NormalizedAttach} {freshId : String} {now : Int}
    (h : attachAttempt normalized view freshId now db = .error .optimisticConcurrency) :
    db.execution.version ≠ view.execution.version := by
  unfold attachAttempt at h
  split at h
  next e he =>
    cases h
    unfold NormalizedAttach.evidenceGuard at he
    simp only at he
    split_ifs at he <;> cases he
  · simp only at h
    split at h
    · cases h
    next after hafter =>
      cases hw : attachTransaction (normalized.input view freshId now
          (snapshotFromExecution view.execution) after) db with
      | ok t =>
          rw [hw] at h
          cases h
      | error e =>
          rw [hw] at h
          have he : e.reported = .optimisticConcurrency := Except.error.inj h
          cases e with
          | repository e => cases e <;> cases he
          | optimisticConcurrency => exact attachTransaction_concurrency hw
          | cellFlow e => cases he
          | constraint name => cases he
          | error message => cases he

theorem markAttempt_concurrency {req : MarkRequest} {now : Int}
    (h : markAttempt req view now db = .error .optimisticConcurrency) :
    db.execution.version ≠ view.execution.version := by
  unfold markAttempt at h
  split at h
  · cases h
  · simp only at h
    split at h
    · cases h
    · exact transact_concurrency h

theorem reconcileProjection_concurrency {env : ReconcileEnv} {txHash : String}
    (h : reconcileProjection env view txHash db = .error .optimisticConcurrency) :
    db.execution.version ≠ view.execution.version := by
  unfold reconcileProjection at h
  split at h
  · simp only [reconcileFailure] at h
    split at h
    · cases h
    · split at h
      next e hwrite =>
        cases h
        exact transact_concurrency hwrite
      · cases h
  · simp only [reconcileObserved] at h
    split at h
    · cases h
    · split at h
      next e hwrite =>
        cases h
        exact transact_concurrency hwrite
      · cases h

/-- What a transaction of a reconciliation writes, and when it finds itself overtaken. -/
structure ReconcileWrites (env : ReconcileEnv) (view : IntentAggregate) (db : Store)
    (outcome : CallOutcome) : Prop where
  goOn : ∀ t place, outcome = .goOn (some t) place →
    (∃ index, (Op.probe env index).commit view db = some t) ∧ SameRows db t
  reread : ∀ t place, outcome = .reread t place →
    (∃ index, (Op.probe env index).commit view db = some t) ∧
      view.execution.version = db.execution.version ∧ rowVersion t = rowVersion db + 1
  answer : ∀ t value, outcome = .answer (some t) value →
    (Op.observe env).commit view db = some t ∧
      view.execution.version = db.execution.version ∧ rowVersion t = rowVersion db + 1
  fail : outcome = .fail .optimisticConcurrency → db.execution.version ≠ view.execution.version

/-- An outcome that writes nothing and fails for another reason. -/
theorem reconcileWrites_silent {env : ReconcileEnv} {outcome : CallOutcome}
    (hwritten : outcome.written = none) (hfail : outcome ≠ .fail .optimisticConcurrency) :
    ReconcileWrites env view db outcome where
  goOn := by
    rintro t place rfl
    cases hwritten
  reread := by
    rintro t place rfl
    cases hwritten
  answer := by
    rintro t value rfl
    cases hwritten
  fail := fun h => absurd h hfail

theorem reconcileWrites_fail {env : ReconcileEnv} {error : Failure}
    (h : error = .optimisticConcurrency → db.execution.version ≠ view.execution.version) :
    ReconcileWrites env view db (.fail error) where
  goOn := by rintro t place ⟨⟩
  reread := by rintro t place ⟨⟩
  answer := by rintro t value ⟨⟩
  fail := by
    rintro ⟨⟩
    exact h rfl

/-- A candidate that is promoted, or fails to be. -/
theorem reconcileWrites_promote {env : ReconcileEnv} {index : Nat}
    {candidate : TransactionAttemptRecord} {input : PromoteInput}
    (hindex : (rivals view)[index]? = some candidate)
    (hj : judgeCandidate env view candidate = .promote input) :
    ReconcileWrites env view db
      (match promoteAttemptProjection input db with
        | .error e => .fail e
        | .ok t => .reread t .project) := by
  obtain ⟨-, -, -, -, -, -, hagg, -⟩ := judgeCandidate_promote hj
  cases hp : promoteAttemptProjection input db with
  | error e =>
      refine reconcileWrites_fail ?_
      rintro rfl
      rw [← hagg]
      exact transact_concurrency hp
  | ok t =>
      have hcommit : (Op.probe env index).commit view db = some t := by
        simp only [Op.commit, hindex, hj, hp, Except.toOption]
      obtain ⟨hversion, -, rfl⟩ := promoteAttemptProjection_ok hp
      rw [hagg] at hversion
      refine ⟨?_, ?_, ?_, ?_⟩
      · rintro t place ⟨⟩
      · rintro t place ⟨⟩
        exact ⟨⟨index, hcommit⟩, hversion.symm, rfl⟩
      · rintro t value ⟨⟩
      · rintro ⟨⟩

theorem reconcileWrites_project {env : ReconcileEnv} {txHash : String}
    (htx : view.execution.txHash = some txHash) :
    ReconcileWrites env view db
      (match reconcileProjection env view txHash db with
        | .error e => .fail e
        | .ok (t, result) => .answer (some t) (.reconciled result)) := by
  cases hp : reconcileProjection env view txHash db with
  | error e =>
      refine reconcileWrites_fail ?_
      rintro rfl
      exact reconcileProjection_concurrency hp
  | ok written =>
      obtain ⟨t, result⟩ := written
      have hcommit : (Op.observe env).commit view db = some t := by
        simp only [Op.commit, htx, hp, Except.toOption, Option.map_some]
      have hversion := (reconcileProjection_ok hp).1
      obtain ⟨input, -, rfl⟩ := reconcileProjection_writes hp
      refine ⟨?_, ?_, ?_, ?_⟩
      · rintro t place ⟨⟩
      · rintro t place ⟨⟩
      · rintro t value ⟨⟩
        exact ⟨hcommit, hversion.symm, rfl⟩
      · rintro ⟨⟩

/-- **Every transaction of a reconciliation** is one step of the machine, or writes nothing. -/
theorem reconcileWrites (env : ReconcileEnv) :
    ReconcileWrites env view db (reconcileOutcome env view place db) := by
  unfold reconcileOutcome
  split
  · exact reconcileWrites_silent rfl (by simp)
  next txHash htx =>
    split
    · exact reconcileWrites_silent rfl (by simp)
    · cases place with
      | project => exact reconcileWrites_project htx
      | scan index =>
          simp only
          cases hindex : (rivals view)[index]? with
          | none => exact reconcileWrites_silent rfl (by simp)
          | some candidate =>
              simp only
              cases hj : judgeCandidate env view candidate with
              | failed => exact reconcileWrites_silent rfl (by simp)
              | promote input => exact reconcileWrites_promote hindex hj
              | update input =>
                  have hcommit : (Op.probe env index).commit view db =
                      some (updateCandidateAttempt input db) := by
                    simp only [Op.commit, hindex, hj]
                  refine ⟨?_, ?_, ?_, ?_⟩
                  · rintro t place ⟨⟩
                    exact ⟨⟨index, hcommit⟩, sameRows_update input db⟩
                  · rintro t place ⟨⟩
                  · rintro t value ⟨⟩
                  · rintro ⟨⟩

/-! ## The other calls -/

theorem writeOutcome_written {written : Except Failure Store}
    (h : (writeOutcome written).written = some t) : written = .ok t := by
  cases written with
  | error e => cases h
  | ok t' => exact congrArg _ (Option.some.inj h)

/-- An attach writes the store of one operation. -/
theorem attach_outcome {req : AttachRequest} {freshId : Nat → String} {now : Nat → Int} {pass : Nat}
    (h : ((IntentCall.attach req freshId now).outcome pass view place db).written = some t) :
    (Op.attach req (freshId pass) (now pass)).commit view db = some t := by
  simp only [IntentCall.outcome] at h
  simp only [Op.commit]
  cases hn : req.normalize with
  | error e =>
      rw [hn] at h
      cases h
  | ok normalized =>
      rw [hn] at h
      simp only [writeOutcome_written h, Except.toOption]

theorem mark_outcome {req : MarkRequest} {now : Nat → Int} {pass : Nat}
    (h : ((IntentCall.mark req now).outcome pass view place db).written = some t) :
    (Op.mark req (now pass)).commit view db = some t := by
  simp only [IntentCall.outcome] at h
  simp only [Op.commit]
  cases hg : req.guard with
  | error e =>
      rw [hg] at h
      cases h
  | ok u =>
      rw [hg] at h
      simp only [writeOutcome_written h, Except.toOption]

/-- A preflight that passes its guard appends an event. -/
theorem preflight_outcome {endpoints : List Endpoint} {expected : RpcIdentityExpectation} {now : Int}
    {pass : Nat}
    (h : ((IntentCall.preflight endpoints expected now).outcome pass view place db).written =
      some t) :
    ∃ verified reason raw, (Op.preflight verified reason raw now).commit view db = some t := by
  simp only [IntentCall.outcome, preflightOutcome] at h
  split at h
  · cases h
  next hguard =>
    obtain rfl := Option.some.inj h
    simp only [servicePreflight, hguard]
    cases CkbRpcClient.inspectInputOutPoints endpoints (preflightInputs view.execution) expected
        now with
    | error message => exact ⟨false, _, _, rfl⟩
    | ok inspection =>
        simp only
        split
        · exact ⟨false, _, _, rfl⟩
        · exact ⟨true, _, _, rfl⟩

/-- **Every transaction that writes is a step of the machine.** -/
theorem outcome_commit {call : IntentCall} {pass : Nat}
    (h : (call.outcome pass view place db).written = some t) :
    ∃ op : Op, op.commit view db = some t := by
  cases call with
  | attach req freshId now => exact ⟨_, attach_outcome h⟩
  | mark req now => exact ⟨_, mark_outcome h⟩
  | preflight endpoints expected now =>
      obtain ⟨verified, reason, raw, hcommit⟩ := preflight_outcome h
      exact ⟨_, hcommit⟩
  | note text now => exact ⟨.operatorNote text now, h⟩
  | reconcile env =>
      have hw : ReconcileWrites (env pass) view db (reconcileOutcome (env pass) view place db) :=
        reconcileWrites (env pass)
      change (reconcileOutcome (env pass) view place db).written = some t at h
      cases ho : reconcileOutcome (env pass) view place db with
      | goOn written place' =>
          rw [ho] at h
          obtain rfl : written = some t := h
          obtain ⟨⟨index, hcommit⟩, -⟩ := hw.goOn t place' ho
          exact ⟨_, hcommit⟩
      | reread written place' =>
          rw [ho] at h
          obtain rfl : written = t := Option.some.inj h
          obtain ⟨⟨index, hcommit⟩, -⟩ := hw.reread written place' ho
          exact ⟨_, hcommit⟩
      | answer written value =>
          rw [ho] at h
          obtain rfl : written = some t := h
          exact ⟨_, (hw.answer t value ho).1⟩
      | fail error =>
          rw [ho] at h
          cases h

end Keeps

section Clients

variable {rows later db t : Store}

/-- An attach or a report raises the version it read. -/
theorem attach_raises {req : AttachRequest} {freshId : String} {now : Int}
    (h : (Op.attach req freshId now).commit (rows.read later) db = some t) :
    Raises rowVersion rows db t := by
  obtain ⟨_, _, _, _, _, -, -, hversion, -, -, rfl⟩ := Op.attach_writes h
  exact ⟨hversion.symm, by simp [rowVersion]⟩

theorem mark_raises {req : MarkRequest} {now : Int}
    (h : (Op.mark req now).commit (rows.read later) db = some t) :
    Raises rowVersion rows db t := by
  obtain ⟨-, hm⟩ := Op.mark_commit h
  obtain ⟨after, -, -, hversion, -, rfl⟩ := markAttempt_ok hm
  exact ⟨hversion.symm, rfl⟩

theorem isConcurrency_eq {failure : Failure} (h : failure.isConcurrency = true) :
    failure = .optimisticConcurrency := by
  cases failure <;> first | rfl | cases h

theorem writeOutcome_fail {written : Except Failure Store} {error : Failure}
    (h : writeOutcome written = .fail error) : written = .error error := by
  cases written with
  | error e =>
      cases h
      rfl
  | ok t => cases h

theorem writeOutcome_ends (written : Except Failure Store) :
    (∃ t value, writeOutcome written = .answer (some t) value) ∨
      ∃ error, writeOutcome written = .fail error := by
  cases written with
  | error e => exact Or.inr ⟨e, rfl⟩
  | ok t => exact Or.inl ⟨t, .done, rfl⟩

/-- Attaches and reports are calls of one guarded write. -/
def IntentCall.isGuardedWrite : IntentCall → Bool
  | .attach _ _ _ => true
  | .mark _ _ => true
  | _ => false

theorem guardedWrite_one {call : IntentCall} (h : call.isGuardedWrite = true) :
    call.client.OneWrite := by
  intro pass rows later place s
  cases call with
  | attach req freshId now =>
      show (∃ t value, (IntentCall.attach req freshId now).outcome pass (rows.read later) place s =
          .answer (some t) value) ∨
        ∃ error, (IntentCall.attach req freshId now).outcome pass (rows.read later) place s =
          .fail error
      simp only [IntentCall.outcome]
      split
      next e _ => exact Or.inr ⟨e, rfl⟩
      · exact writeOutcome_ends _
  | mark req now =>
      show (∃ t value, (IntentCall.mark req now).outcome pass (rows.read later) place s =
          .answer (some t) value) ∨
        ∃ error, (IntentCall.mark req now).outcome pass (rows.read later) place s = .fail error
      simp only [IntentCall.outcome]
      split
      next e _ => exact Or.inr ⟨.cellFlow e, rfl⟩
      · exact writeOutcome_ends _
  | preflight endpoints expected now => cases h
  | note text now => cases h
  | reconcile env => cases h

/-- A call that goes on after a transaction is a reconciliation. -/
theorem ends_at_once {call : IntentCall} {pass : Nat} {place : ReconcilePlace}
    (hcall : ∀ env, call ≠ .reconcile env) :
    (∃ written value, call.outcome pass (rows.read later) place db = .answer written value) ∨
      ∃ error, call.outcome pass (rows.read later) place db = .fail error := by
  cases call with
  | attach req freshId now =>
      have hone : (IntentCall.attach req freshId now).client.OneWrite := guardedWrite_one rfl
      rcases hone pass rows later place db with ⟨t, value, h⟩ | hfail
      · exact Or.inl ⟨some t, value, h⟩
      · exact Or.inr hfail
  | mark req now =>
      have hone : (IntentCall.mark req now).client.OneWrite := guardedWrite_one rfl
      rcases hone pass rows later place db with ⟨t, value, h⟩ | hfail
      · exact Or.inl ⟨some t, value, h⟩
      · exact Or.inr hfail
  | preflight endpoints expected now =>
      left
      simp only [IntentCall.outcome, preflightOutcome]
      split
      · exact ⟨_, _, rfl⟩
      · exact ⟨_, _, rfl⟩
  | note text now => exact Or.inl ⟨_, _, rfl⟩
  | reconcile env => exact absurd rfl (hcall env)

theorem reconcile_of_goesOn {call : IntentCall} {pass : Nat} {place : ReconcilePlace}
    {outcome : CallOutcome} (h : call.outcome pass (rows.read later) place db = outcome)
    (hanswer : ∀ written value, outcome ≠ .answer written value)
    (hfail : ∀ error, outcome ≠ .fail error) : ∃ env, call = .reconcile env := by
  by_contra hnone
  rw [not_exists] at hnone
  rcases ends_at_once hnone with ⟨written, value, hends⟩ | ⟨error, hends⟩
  · exact hanswer written value (h.symm.trans hends)
  · exact hfail error (h.symm.trans hends)

/-- The checks of a request name no version. -/
theorem normalize_ne_concurrency (req : AttachRequest) :
    req.normalize ≠ .error .optimisticConcurrency := by
  unfold AttachRequest.normalize
  split
  · simp only
    split <;> simp
  · simp
  · simp
  · simp

/-- **The discipline** of the calls. -/
theorem call_keeps (call : IntentCall) :
    call.client.Keeps rowVersion SameRows Failure.isConcurrency where
  goOn := by
    intro pass rows later place s t place' h
    change call.outcome pass (rows.read later) place s = _ at h
    obtain ⟨env, rfl⟩ := reconcile_of_goesOn h (by simp) (by simp)
    exact ((reconcileWrites (env pass)).goOn t place' h).2
  reread := by
    intro pass rows later place s t place' h
    change call.outcome pass (rows.read later) place s = _ at h
    obtain ⟨env, rfl⟩ := reconcile_of_goesOn h (by simp) (by simp)
    exact ((reconcileWrites (env pass)).reread t place' h).2
  answer := by
    intro pass rows later place s t value h
    change call.outcome pass (rows.read later) place s = _ at h
    have hwritten : (call.outcome pass (rows.read later) place s).written = some t := by
      rw [h]
      rfl
    cases call with
    | attach req freshId now => exact Or.inr (attach_raises (attach_outcome hwritten))
    | mark req now => exact Or.inr (mark_raises (mark_outcome hwritten))
    | preflight endpoints expected now =>
        obtain ⟨verified, reason, raw, hcommit⟩ := preflight_outcome hwritten
        cases hcommit
        exact Or.inl ⟨rfl, rfl⟩
    | note text now =>
        cases h
        exact Or.inl ⟨rfl, rfl⟩
    | reconcile env => exact Or.inr ((reconcileWrites (env pass)).answer t value h).2
  fail := by
    intro pass rows later place s error h he
    obtain rfl := isConcurrency_eq he
    change call.outcome pass (rows.read later) place s = _ at h
    refine Ne.symm ?_
    cases call with
    | attach req freshId now =>
        simp only [IntentCall.outcome] at h
        split at h
        next e hn =>
          cases h
          exact absurd hn (normalize_ne_concurrency req)
        · exact attachAttempt_concurrency (writeOutcome_fail h)
    | mark req now =>
        simp only [IntentCall.outcome] at h
        split at h
        · cases h
        · exact markAttempt_concurrency (writeOutcome_fail h)
    | preflight endpoints expected now =>
        simp only [IntentCall.outcome, preflightOutcome] at h
        split at h <;> cases h
    | note text now => cases h
    | reconcile env => exact (reconcileWrites (env pass)).fail h

end Clients

/-! ## A view of the current version is as good as the store -/

/-- Two aggregates with the same rows, whose attempts have the same identities. -/
structure SameView (a b : IntentAggregate) : Prop where
  intent : a.intent = b.intent
  execution : a.execution = b.execution
  attempts : a.attempts.map (·.identity) = b.attempts.map (·.identity)
  active : a.activeAttempt.map (·.identity) = b.activeAttempt.map (·.identity)

theorem findAttempt_identity {as bs : List TransactionAttemptRecord}
    (h : as.map (·.identity) = bs.map (·.identity)) (id : Option String) :
    (findAttempt as id).map (·.identity) = (findAttempt bs id).map (·.identity) := by
  cases id with
  | none => rfl
  | some id =>
      have hfind : ∀ attempts : List TransactionAttemptRecord,
          (findAttempt attempts (some id)).map (·.identity) =
            (attempts.map (·.identity)).find? fun identity => identity.1 = id := by
        intro attempts
        rw [List.find?_map]
        rfl
      rw [hfind, hfind, h]

theorem sameView_of_read {rows later db : Store} (h : SameRows rows later) (h' : SameRows later db) :
    SameView (rows.read later) db.aggregate where
  intent := h.intent.trans h'.intent
  execution := h.execution.trans h'.execution
  attempts := h'.attempts
  active := by
    show (findAttempt later.attempts rows.intent.activeAttemptId).map _ =
      (findAttempt db.attempts db.intent.activeAttemptId).map _
    rw [h.intent, h'.intent]
    exact findAttempt_identity h'.attempts _

/-- The replacement guard asks an active attempt for its id and inputs only. -/
theorem replacementGuard_sameView {input : AttachInput} {aggregate : IntentAggregate}
    (h : SameView input.aggregate aggregate) :
    input.replacementGuard = { input with aggregate := aggregate }.replacementGuard := by
  obtain ⟨⟨intent, execution, attempts, active, winning⟩, _⟩ := input
  obtain ⟨intent', execution', attempts', active', winning'⟩ := aggregate
  obtain ⟨hintent, hexecution, -, hactive⟩ := h
  simp only at hintent hexecution hactive
  subst hintent hexecution
  cases active with
  | none =>
      cases active' with
      | none => rfl
      | some attempt' => cases hactive
  | some attempt =>
      cases active' with
      | none => cases hactive
      | some attempt' =>
          have hidentity : attempt.identity = attempt'.identity := Option.some.inj hactive
          have hid : attempt.id = attempt'.id := congrArg Prod.fst hidentity
          have hinputs : attempt.inputOutPoints = attempt'.inputOutPoints :=
            congrArg (fun identity => identity.2.2) hidentity
          unfold AttachInput.replacementGuard
          simp only [hid, hinputs]
          rfl

theorem attachTransaction_sameView {input : AttachInput} {aggregate : IntentAggregate}
    (h : SameView input.aggregate aggregate) (db : Store) :
    attachTransaction input db = attachTransaction { input with aggregate := aggregate } db := by
  have hguard := replacementGuard_sameView h
  have hnumber : input.aggregate.attempts.getLast?.map (·.attemptNumber) =
      aggregate.attempts.getLast?.map (·.attemptNumber) := by
    have hnumbers : ∀ attempts : List TransactionAttemptRecord,
        attempts.getLast?.map (·.attemptNumber) =
          (attempts.map (·.identity)).getLast?.map fun identity => identity.2.1 := by
      intro attempts
      rw [List.getLast?_map, Option.map_map]
      rfl
    rw [hnumbers, hnumbers, h.attempts]
  unfold attachTransaction
  rw [← hguard, hnumber]
  obtain ⟨⟨intent, execution, attempts, active, winning⟩, _⟩ := input
  obtain ⟨intent', execution', attempts', active', winning'⟩ := aggregate
  obtain ⟨hintent, hexecution, -, -⟩ := h
  simp only at hintent hexecution
  subst hintent hexecution
  rfl

/-- **An attach from a view of the current version** is the attach from the store itself. -/
theorem attachAttempt_sameView {normalized : NormalizedAttach} {view aggregate : IntentAggregate}
    {freshId : String} {now : Int} (h : SameView view aggregate) (db : Store) :
    attachAttempt normalized view freshId now db =
      attachAttempt normalized aggregate freshId now db := by
  have hexecution := h.execution
  unfold attachAttempt
  have hevidence : normalized.evidenceGuard view = normalized.evidenceGuard aggregate := by
    rw [NormalizedAttach.evidenceGuard, NormalizedAttach.evidenceGuard, hexecution]
  rw [hevidence, hexecution]
  split
  · rfl
  · simp only
    split
    · rfl
    next after _ =>
      have hsame := @attachTransaction_sameView (normalized.input view freshId now
        (snapshotFromExecution aggregate.execution) after) aggregate h db
      have hinput : { normalized.input view freshId now
          (snapshotFromExecution aggregate.execution) after with aggregate := aggregate } =
          normalized.input aggregate freshId now (snapshotFromExecution aggregate.execution) after := by
        simp only [NormalizedAttach.input, hexecution]
      rw [hsame, hinput]

theorem markAttempt_sameView {req : MarkRequest} {view aggregate : IntentAggregate} {now : Int}
    (h : SameView view aggregate) (db : Store) :
    markAttempt req view now db = markAttempt req aggregate now db := by
  obtain ⟨intent, execution, attempts, active, winning⟩ := view
  obtain ⟨intent', execution', attempts', active', winning'⟩ := aggregate
  obtain ⟨hintent, hexecution, -, -⟩ := h
  simp only at hintent hexecution
  subst hintent hexecution
  rfl

/-! ## Every call, whatever runs beside it -/

/-- Calls of one intent, side by side. -/
abbrev RequestState : Type := Retry.State Store ReconcilePlace CallAnswer Failure

/-- One move of one of the calls. -/
def RequestStep (calls : Nat → IntentCall) : RequestState → Retry.Event → RequestState → Prop :=
  Retry.Step requestPasses Failure.isConcurrency fun client => (calls client).client

/-- The write of an attach or a report is the one it makes alone on the store it found. -/
theorem wrote_alone {call : IntentCall} {pass : Nat} {rows later db t : Store}
    {place : ReconcilePlace} {value : CallAnswer} (hcall : call.isGuardedWrite = true)
    (hact : call.client.act pass rows later place db = .answer (some t) value)
    (hview : Retry.UpToDate rowVersion SameRows rows later db) :
    call.alone pass db = some (.ok t) := by
  change call.outcome pass (rows.read later) place db = _ at hact
  have hwritten : (call.outcome pass (rows.read later) place db).written = some t := by
    rw [hact]
    rfl
  cases call with
  | attach req freshId now =>
      -- the write raised the version, so the rows read had the one it found
      obtain ⟨hrows, -⟩ := attach_raises (attach_outcome hwritten)
      obtain ⟨hread, hlater⟩ := hview.same hrows
      have hsame := sameView_of_read hread hlater
      simp only [IntentCall.outcome] at hwritten
      simp only [IntentCall.alone, serviceAttachTransaction]
      cases hn : req.normalize with
      | error e =>
          rw [hn] at hwritten
          cases hwritten
      | ok normalized =>
          rw [hn] at hwritten
          have hwrote := writeOutcome_written hwritten
          rw [attachAttempt_sameView hsame] at hwrote
          exact congrArg some hwrote
  | mark req now =>
      obtain ⟨hrows, -⟩ := mark_raises (mark_outcome hwritten)
      obtain ⟨hread, hlater⟩ := hview.same hrows
      have hsame := sameView_of_read hread hlater
      simp only [IntentCall.outcome] at hwritten
      simp only [IntentCall.alone, serviceMarkSubmission]
      cases hg : req.guard with
      | error e =>
          rw [hg] at hwritten
          cases hwritten
      | ok u =>
          rw [hg] at hwritten
          have hwrote := writeOutcome_written hwritten
          rw [markAttempt_sameView hsame] at hwrote
          exact congrArg some hwrote
  | preflight endpoints expected now => cases hcall
  | note text now => cases hcall
  | reconcile env => cases hcall

/-- What the calls of an intent leave, and what each may conclude from its own end. -/
structure Linearized (req : CreateRequest) (calls : Nat → IntentCall) (w : RequestState) : Prop where
  /-- the store is one the machine of single operations reaches -/
  reached : ∃ acts, Run Step (opening req) acts w.world
  /-- a call that gives up was overtaken by a write of another within each of its three passes, the
  first from its begin on and the others from the end of the one before -/
  overtaken : ∀ client since ends,
    w.sessions client = some ⟨since, ends, .failed .optimisticConcurrency⟩ →
    3 ≤ ends.length ∧
      (since :: ends).IsChain (Retry.OvertakenIn rowVersion client w.writes)
  /-- an attach or a report that is over without a failure, told or not, has written once since it
  began, as it would alone on the store it wrote over -/
  wroteOnce : ∀ client since ends phase, (calls client).isGuardedWrite = true →
    w.sessions client = some ⟨since, ends, phase⟩ → (phase = .lost ∨ ∃ value, phase = .answered value) →
    ∃ before db t after pass, w.writes = before ++ ⟨client, db, t⟩ :: after ∧
      since ≤ before.length ∧ (∀ write ∈ before ++ after, write.client ≠ client) ∧
      (calls client).alone pass db = some (.ok t)
  /-- one that fails has written nothing -/
  wroteNothing : ∀ client since ends error, (calls client).isGuardedWrite = true →
    w.sessions client = some ⟨since, ends, .failed error⟩ → ∀ write ∈ w.writes, write.client ≠ client

/-- A transaction is prepared, and reports of its broadcast run side by side. -/
def reportsAtOnce : Nat → IntentCall
  | 0 =>
      .attach
        { txHashInput := Scenario.hashOf 'a', prepared := true, signedPayloadHashSha256 := none
          inputOutPoints := some [Scenario.outPoint '1'], inputRefs := none, attemptKind := none
          parentAttemptId := none, allowSignedPayloadRevision := false }
        (fun _ => Scenario.hashOf 'a') (fun _ => 0)
  | _ => .mark ⟨.broadcasting, none⟩ (fun _ => 0)

/-- A call that nothing interrupts. -/
def uninterrupted (client : Nat) : List Retry.Event :=
  [.begin client, .readRows client, .readRest client, .act client]

/-- The first report reads three times, and another one overtakes it each time. -/
def overlapping : List Retry.Event :=
  uninterrupted 0 ++ [.begin 1, .readRows 1] ++ uninterrupted 2 ++
    [.readRest 1, .act 1, .readRows 1] ++ uninterrupted 3 ++
    [.readRest 1, .act 1, .readRows 1] ++ uninterrupted 4 ++ [.readRest 1, .act 1]

/-- Whether a client was answered. -/
def answeredIn (w : RequestState) (client : Nat) : Bool :=
  match w.sessions client with
  | some ⟨_, _, .answered _⟩ => true
  | _ => false

/-- When a client that gave up began, and when its passes ended, in numbers of writes. -/
def gaveUpIn (w : RequestState) (client : Nat) : Option (Nat × List Nat) :=
  match w.sessions client with
  | some ⟨since, ends, .failed .optimisticConcurrency⟩ => some (since, ends)
  | _ => none

/-- The state after the overlapping calls. -/
def overlappingEnd : Option RequestState :=
  overlapping.foldlM
    (Retry.next requestPasses Failure.isConcurrency fun client => (reportsAtOnce client).client)
    (Retry.start (serviceCreateIntent (Scenario.create .committed)))

end CellFlow
