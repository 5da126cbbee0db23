/-
# CellFlow.Properties.ConflictFrame — what a submission report does to the recorded conflict.

`markSubmission` passes on the conflict type of the failure it was given, and `null` details where there
is none; the repository keeps the recorded type for a missing one, and takes `null` details as they
are.  A report without conflict evidence therefore keeps the type and erases the details.
-/
import CellFlow.Api.Scenario

namespace CellFlow

open Runs (Run)

/-- The two columns of a recorded conflict. -/
def ExecutionRecord.conflict (row : ExecutionRecord) : Option ConflictType × Option Js.Json :=
  (row.conflictType, row.conflictDetails)

/-- The conflict evidence a report carries. -/
def MarkRequest.conflictEvidence (req : MarkRequest) : Option ConflictType :=
  req.failure.bind (·.conflictType)

section Mark

variable {req : MarkRequest} {view : IntentAggregate} {db t : Store} {now : Int}

/-- The columns after a report without conflict evidence. -/
theorem marked_conflict {before after : ExecutionSnapshot} (hcur : Current view db)
    (hsilent : req.conflictEvidence = none) :
    ((req.input view now before after).markedStore db).execution.conflict =
      (db.execution.conflictType, none) := by
  have htype : (req.input view now before after).nextConflictType = view.execution.conflictType := by
    show req.conflictEvidence.or view.execution.conflictType = _
    rw [hsilent]
    rfl
  have hdetails : (req.input view now before after).nextConflictDetails = none := by
    show (req.conflictEvidence.map _).map Js.Json.jsonb = none
    rw [hsilent]
    rfl
  show ((req.input view now before after).nextConflictType,
    (req.input view now before after).nextConflictDetails) = _
  rw [htype, hdetails, hcur.execution]

/-- **One report**: it keeps both columns exactly where there were no details. -/
theorem mark_conflict_iff (hcur : Current view db) (hsilent : req.conflictEvidence = none)
    (h : (Op.mark req now).commit view db = some t) :
    t.execution.conflict = db.execution.conflict ↔ db.execution.conflictDetails = none := by
  obtain ⟨after, -, -, -, -, rfl⟩ := markAttempt_ok (Op.mark_commit h).2
  rw [marked_conflict hcur hsilent, ExecutionRecord.conflict, Prod.mk.injEq]
  constructor
  · intro hboth
    exact hboth.2.symm
  · intro hnone
    exact ⟨rfl, hnone.symm⟩

end Mark

/-- **Every report on every reachable execution**: without conflict evidence it leaves the recorded
conflict exactly where that has no details. -/
theorem mark_leaves_conflict_iff {create : CreateRequest} {acts : List Act}
    {w w' : Optimistic.World Store} {act : Act} {req : MarkRequest} {now : Int}
    (hrun : Run Step (opening create) acts w) (hstep : Step w act w') (hop : act.op = .mark req now)
    (hsilent : req.conflictEvidence = none) :
    w'.current.execution.conflict = w.current.execution.conflict ↔
      w.current.execution.conflictDetails = none := by
  obtain ⟨hrows, -, t, hc, rfl⟩ := hstep
  rw [hop] at hc
  have hversion := (markAttempt_ok (Op.mark_commit hc).2).choose_spec.2.2.1
  exact mark_conflict_iff
    (current_of_version (consistent_run (consistent_opening create) hrun) hrows hversion) hsilent hc

section Runs

open Scenario

/-- A tracked transaction, and the same once its input was seen spent. -/
def submittedOnce : List Op := [attach 'a' false none [outPoint '1']]

/-- The inputs of a submitted transaction are found spent. -/
def seenSpent : List Op :=
  submittedOnce ++
    [.observe (node (.ok (absent (some (inspection .canonicallySpent "0x9")))))]

/-- A report on a transaction without a recorded conflict. -/
theorem mark_leaves_no_conflict :
    (perform (after (.depth 4) submittedOnce) (report .submitted)).execution.conflict =
      (after (.depth 4) submittedOnce).execution.conflict := by
  have hfacts : commitsAll (serviceCreateIntent (create (.depth 4))) submittedOnce = true ∧
      ((report .submitted).commit (after (.depth 4) submittedOnce).aggregate
        (after (.depth 4) submittedOnce)).isSome ∧
      (after (.depth 4) submittedOnce).execution.conflictDetails.isNone := by decide +kernel
  obtain ⟨hcommits, hlast, hnone⟩ := hfacts
  obtain ⟨acts, past, hrun⟩ := run_after hcommits
  exact (mark_leaves_conflict_iff hrun (step_alone (perform_commit hlast)) rfl rfl).mpr
    (Option.isNone_iff_eq_none.mp hnone)

/-- A late report erases what was recorded of the spend. -/
theorem late_report_erases : ¬ ∀ (create : CreateRequest) (acts : List Act)
    (w w' : Optimistic.World Store) (act : Act) (req : MarkRequest) (now : Int),
    Run Step (opening create) acts w → Step w act w' → act.op = .mark req now →
      req.conflictEvidence = none → w'.current.execution.conflict = w.current.execution.conflict := by
  intro h
  have hfacts : commitsAll (serviceCreateIntent (create (.depth 4))) seenSpent = true ∧
      ((report .submitted).commit (after (.depth 4) seenSpent).aggregate
        (after (.depth 4) seenSpent)).isSome ∧
      (after (.depth 4) seenSpent).execution.conflictDetails.isSome := by decide +kernel
  obtain ⟨hcommits, hlast, hsome⟩ := hfacts
  obtain ⟨acts, past, hrun⟩ := run_after hcommits
  have hkept := h _ acts _ _ _ _ _ hrun (step_alone (perform_commit hlast)) rfl rfl
  have hnone := (mark_conflict_iff (after (.depth 4) seenSpent).current rfl
    (perform_commit hlast)).mp hkept
  rw [hnone] at hsome
  cases hsome

end Runs

end CellFlow
