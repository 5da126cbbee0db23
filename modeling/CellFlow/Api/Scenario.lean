/-
# CellFlow.Api.Scenario — operations one after the other, and the answers of a small network.

A list of operations, each run alone on the store the one before it left, is a run of the machine
(`run_of_performs`).  The values below it are requests and answers a failing input is written with.
-/
import CellFlow.Api.Machine

namespace CellFlow

open Optimistic (World)
open Runs (Run)

/-- The store after an operation whose view is the store itself. -/
def perform (db : Store) (op : Op) : Store := (op.commit db.aggregate db).getD db

/-- Each operation of a list meets a condition and commits, one after the other. -/
def Performs (ok : IntentAggregate → Op → Prop) : Store → List Op → Prop
  | _, [] => True
  | db, op :: rest =>
      ok db.aggregate op ∧ (op.commit db.aggregate db).isSome ∧ Performs ok (perform db op) rest

/-- Operations run alone read one state, the one they write over. -/
theorem run_alone {ok : IntentAggregate → Op → Prop} (past : List Store) {ops : List Op}
    {db : Store} (h : Performs ok db ops) :
    ∃ acts w, Run (Runs.when (fun _ act => ok act.view act.op ∧ act.rows = act.later) Step) ⟨db, past⟩
        acts w ∧
      w.current = ops.foldl perform db ∧ acts.map (·.op) = ops := by
  induction ops generalizing db past with
  | nil => exact ⟨[], _, .start, rfl, rfl⟩
  | cons op rest ih =>
      obtain ⟨hok, hc, hrest⟩ := h
      obtain ⟨t, ht⟩ := Option.isSome_iff_exists.mp hc
      have hp : perform db op = t := by rw [perform, ht]; rfl
      rw [hp] at hrest
      obtain ⟨acts, w, hrun, hw, hops⟩ := ih (db :: past) hrest
      have hstep : Step ⟨db, past⟩ ⟨db, db, op⟩ ⟨t, db :: past⟩ :=
        ⟨World.current_mem_views _, World.current_mem_views _, t, ht, rfl⟩
      have hone : Run (Runs.when (fun _ act => ok act.view act.op ∧ act.rows = act.later) Step)
          ⟨db, past⟩ [⟨db, db, op⟩] ⟨t, db :: past⟩ := Run.single ⟨⟨hok, rfl⟩, hstep⟩
      exact ⟨_, w, hone.append hrun, by rw [hw, List.foldl_cons, hp], by simp [hops]⟩

theorem run_of_performs {ok : IntentAggregate → Op → Prop} (past : List Store) {ops : List Op}
    {db : Store} (h : Performs ok db ops) :
    ∃ acts w, Run (Runs.when (fun _ act => ok act.view act.op) Step) ⟨db, past⟩ acts w ∧
      w.current = ops.foldl perform db ∧ acts.map (·.op) = ops := by
  obtain ⟨acts, w, hrun, hw, hops⟩ := run_alone past h
  exact ⟨acts, w, hrun.mono fun _ _ _ hst => ⟨hst.1.1, hst.2⟩, hw, hops⟩

/-- Every operation of a list commits, one after the other. -/
def commitsAll : Store → List Op → Bool
  | _, [] => true
  | db, op :: rest => (op.commit db.aggregate db).isSome && commitsAll (perform db op) rest

theorem performs_of_commitsAll {ops : List Op} {db : Store} (h : commitsAll db ops = true) :
    Performs (fun _ _ => True) db ops := by
  induction ops generalizing db with
  | nil => trivial
  | cons op rest ih =>
      simp only [commitsAll, Bool.and_eq_true] at h
      exact ⟨trivial, h.1, ih h.2⟩

theorem perform_commit {db : Store} {op : Op} (h : (op.commit db.aggregate db).isSome) :
    op.commit db.aggregate db = some (perform db op) := by
  obtain ⟨t, ht⟩ := Option.isSome_iff_exists.mp h
  rw [perform, ht]
  rfl

namespace Scenario

/-! ## Requests -/

/-- A 32-byte hash of one repeated digit. -/
def hashOf (c : Char) : String := String.ofList ('0' :: 'x' :: List.replicate 64 c)

/-- The first output of a transaction. -/
def outPoint (c : Char) : OutPointRef := ⟨hashOf c, 0, .source⟩

/-- A new intent without expected Cells. -/
def create (confirmationPolicy : ConfirmationPolicy) : CreateRequest :=
  { intentId := "order-1", expectedCells := [], confirmationPolicy := confirmationPolicy
    hashesElsewhere := [], now := 0 }

/-- `/prepare` or `/track` of a transaction with its inputs. -/
def attach (c : Char) (prepared : Bool) (kind : Option AttemptKind) (inputs : List OutPointRef) :
    Op :=
  .attach
    { txHashInput := hashOf c, prepared := prepared, signedPayloadHashSha256 := none
      inputOutPoints := some inputs, inputRefs := none, attemptKind := kind
      parentAttemptId := none, allowSignedPayloadRevision := false }
    (hashOf c) 0

/-- An outcome without failure evidence. -/
def report (status : OutcomeStatus) : Op := .mark ⟨status, none⟩ 0

/-- A node rejection that suspects an input conflict. -/
def rejectSuspected : Op :=
  .mark
    ⟨.nodeRejected, some
      { errorCode := none, errorType := .rpcRejection, errorMessage := none
        conflictType := some .inputConflictSuspected, details := [] }⟩ 0

/-! ## Answers -/

theorem block_named : (truthy (some (hashOf 'b'))).isSome = true := by decide +kernel

/-- An inspection that names its state and its tip, and no input. -/
def inspection (state : InputInspectionState) (tip : String) : InputInspection :=
  { state := state, inputs := [], spentInputs := [], contendedInputs := [], unknownInputs := []
    endpoint := "http://node", observedAt := 0, tipBlockNumber := some tip }

/-- The node does not know the transaction. -/
def absent (inspection : Option InputInspection) : RpcObservationBundle where
  observation :=
    { status := .unknown, observedAt := 0, raw := .null, blockHash := none, blockNumber := none
      tipBlockNumber := none, rejectionReason := none, priorCommitCanonical := none }
  transaction := none
  endpoint := "http://node"
  inputInspection := inspection
  committed_named := by simp
  inspected_unknown := fun _ => rfl

private theorem committed_uninspected :
    (none : Option InputInspection).isSome = true → ObservedStatus.committed = .unknown := by
  simp

/-- The node reports the transaction in block `0x5` of the recorded hash. -/
def committed (tip : String) : RpcObservationBundle where
  observation :=
    { status := .committed, observedAt := 0, raw := .null, blockHash := some (hashOf 'b')
      blockNumber := some "0x5", tipBlockNumber := some tip, rejectionReason := none
      priorCommitCanonical := none }
  transaction := none
  endpoint := "http://node"
  inputInspection := none
  committed_named := fun _ => ⟨block_named, rfl⟩
  inspected_unknown := committed_uninspected

/-- The node does not know the transaction, and disproves its recorded commit. -/
def dropped (inspection : Option InputInspection) : RpcObservationBundle :=
  { absent inspection with
    observation := { (absent inspection).observation with priorCommitCanonical := some false }
    committed_named := by
      intro h
      cases h
    inspected_unknown := fun _ => rfl }

/-- One endpoint with one answer about the projected transaction. -/
def node (answer : Except String RpcObservationBundle) : ReconcileEnv where
  urls := ["http://node"]
  settings := ⟨none, none⟩
  nowMs := 0
  observe := fun _ => answer
  observeCandidate := fun _ => .error "not asked"
  inspectAt := fun _ => .error "not asked"
  liveCell := fun _ _ => .error "not asked"
  canonicalBlock := fun _ _ => .error "not asked"
  fingerprint := fun _ => none

/-- The store after operations on a new intent. -/
def after (confirmationPolicy : ConfirmationPolicy) (ops : List Op) : Store :=
  ops.foldl perform (serviceCreateIntent (create confirmationPolicy))

/-- Operations that all commit on a new intent, each alone, are a run to the store after them. -/
theorem run_after_alone {policy : ConfirmationPolicy} {ops : List Op}
    (h : commitsAll (serviceCreateIntent (create policy)) ops = true) :
    ∃ acts past, Run AloneStep (opening (create policy)) acts ⟨after policy ops, past⟩ := by
  obtain ⟨acts, ⟨current, past⟩, hrun, hw, -⟩ := run_alone [] (performs_of_commitsAll h)
  have hcurrent : current = after policy ops := hw
  subst hcurrent
  exact ⟨acts, past, hrun.mono fun _ _ _ hst => ⟨hst.1.2, hst.2⟩⟩

theorem run_after {policy : ConfirmationPolicy} {ops : List Op}
    (h : commitsAll (serviceCreateIntent (create policy)) ops = true) :
    ∃ acts past, Run Step (opening (create policy)) acts ⟨after policy ops, past⟩ := by
  obtain ⟨acts, past, hrun⟩ := run_after_alone h
  exact ⟨acts, past, hrun.of_when⟩

/-- A transaction that settled: tracked, then observed deep enough. -/
def settled : Store :=
  after (.depth 4) [attach 'a' false none [outPoint '1'], .observe (node (.ok (committed "0x8")))]

end Scenario

end CellFlow
