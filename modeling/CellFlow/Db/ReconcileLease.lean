/-
# CellFlow.Db.ReconcileLease — the reconciliation leases of execution rows.

`claimDueExecutions`, `renewReconcileLease` and `releaseReconcileLease` of
`packages/db/src/repository.ts` on the table of executions.  A claim takes due rows whose lease has run
out; a renewal only asks whose lease id stands in the row, not whether it has run out.  Times are
milliseconds, and `now` is the `now()` of a statement.
-/
import CellFlow.Db.Transitions
import Mathlib.Data.List.Nodup
import Mathlib.Data.List.Sort

namespace CellFlow

/-- A row of `executions`, with its id and the id of its lease. -/
structure LeasedExecution where
  id : String
  execution : ExecutionRecord
  reconcileLeaseId : Option String

namespace LeasedExecution

variable (row : LeasedExecution)

/-- The row under a lease. -/
def leased (leaseId : String) (leaseUntil : Int) : LeasedExecution :=
  { row with
    execution := { row.execution with reconcileLeaseUntil := some leaseUntil }
    reconcileLeaseId := some leaseId }

/-- The row without a lease. -/
def unleased : LeasedExecution :=
  { row with
    execution := { row.execution with reconcileLeaseUntil := none }
    reconcileLeaseId := none }

/-- `order by next_reconcile_at asc`. -/
def dueBefore (a b : LeasedExecution) : Prop :=
  a.execution.nextReconcileAt.getD 0 ≤ b.execution.nextReconcileAt.getD 0

instance : DecidableRel dueBefore := fun a b =>
  inferInstanceAs (Decidable (a.execution.nextReconcileAt.getD 0 ≤ b.execution.nextReconcileAt.getD 0))

end LeasedExecution

/-! ## The queries -/

/-- The `select` of `claimDueExecutions`: the ids of the rows it locks.  `locked` are the rows locked by
others, which it skips. -/
def selectDue (limit : Int) (locked : List String) (now : Int) (rows : List LeasedExecution) :
    List String :=
  let due := rows.filter fun row => claimable row.execution now && !locked.contains row.id
  ((due.insertionSort LeasedExecution.dueBefore).take (min (max limit 1) 100).toNat).map (·.id)

/-- The updates of `claimDueExecutions` on the rows selected. -/
def leaseSelected (selected : List String) (leaseId : String) (leaseSeconds now : Int)
    (rows : List LeasedExecution) : List LeasedExecution :=
  rows.map fun row =>
    if row.id ∈ selected then row.leased leaseId (now + leaseSeconds * 1000) else row

/-- `renewReconcileLease`; `leaseSeconds` is the floor of the number given. -/
def renewReconcileLease (executionId leaseId : String) (leaseSeconds now : Int)
    (rows : List LeasedExecution) : List LeasedExecution :=
  let seconds := min (max leaseSeconds 15) 3600
  rows.map fun row =>
    if row.id = executionId ∧ row.reconcileLeaseId = some leaseId then
      row.leased leaseId (now + seconds * 1000)
    else row

/-- `rows.length === 1`, of the rows a renewal returns. -/
def renewed (executionId leaseId : String) (rows : List LeasedExecution) : Bool :=
  rows.countP (fun row => row.id = executionId ∧ row.reconcileLeaseId = some leaseId) = 1

/-- `releaseReconcileLease`: only the lease that is held is given back. -/
def releaseReconcileLease (executionId leaseId : String) (rows : List LeasedExecution) :
    List LeasedExecution :=
  rows.map fun row =>
    if row.id = executionId ∧ row.reconcileLeaseId = some leaseId then row.unleased else row

/-- The row as another part of the program leaves it; no statement of theirs writes the lease id. -/
def writeExecution (executionId : String) (execution : ExecutionRecord)
    (rows : List LeasedExecution) : List LeasedExecution :=
  rows.map fun row => if row.id = executionId then { row with execution := execution } else row

/-- The row of a new intent. -/
def insertExecution (executionId : String) (execution : ExecutionRecord)
    (rows : List LeasedExecution) : List LeasedExecution :=
  rows ++ [⟨executionId, execution, none⟩]

/-! ## The row of an id -/

/-- The row of an execution. -/
def rowOf (id : String) (rows : List LeasedExecution) : Option LeasedExecution :=
  rows.find? fun row => row.id = id

section Rows

variable {rows : List LeasedExecution} {row : LeasedExecution} {id executionId leaseId : String}
  {now leaseSeconds limit : Int}

theorem rowOf_id (h : rowOf id rows = some row) : row.id = id := by
  have hfound := List.find?_some h
  rwa [decide_eq_true_eq] at hfound

theorem rowOf_mem (h : rowOf id rows = some row) : row ∈ rows := List.mem_of_find?_eq_some h

theorem rowOf_eq_some (hunique : (rows.map (·.id)).Nodup) (hmem : row ∈ rows) :
    rowOf row.id rows = some row := by
  cases hfind : rowOf row.id rows with
  | none =>
      have hnone := List.find?_eq_none.mp hfind row hmem
      simp at hnone
  | some other =>
      rw [List.inj_on_of_nodup_map hunique (rowOf_mem hfind) hmem (rowOf_id hfind)]

/-- An update keeps the ids. -/
theorem rowOf_map {f : LeasedExecution → LeasedExecution} (hf : ∀ row, (f row).id = row.id) :
    rowOf id (rows.map f) = (rowOf id rows).map f := by
  simp only [rowOf, List.find?_map, Function.comp_def, hf]

theorem map_id_map {f : LeasedExecution → LeasedExecution} (hf : ∀ row, (f row).id = row.id) :
    (rows.map f).map (·.id) = rows.map (·.id) := by
  simp only [List.map_map, Function.comp_def, hf]

theorem mem_selectDue {locked : List String} (hunique : (rows.map (·.id)).Nodup)
    (h : id ∈ selectDue limit locked now rows) :
    ∃ row, rowOf id rows = some row ∧ claimable row.execution now = true := by
  obtain ⟨row, hrow, rfl⟩ := List.mem_map.mp h
  have hsorted := List.mem_of_mem_take hrow
  rw [List.mem_insertionSort, List.mem_filter, Bool.and_eq_true] at hsorted
  exact ⟨row, rowOf_eq_some hunique hsorted.1, hsorted.2.1⟩

theorem nodup_selectDue {locked : List String} (hunique : (rows.map (·.id)).Nodup) :
    (selectDue limit locked now rows).Nodup := by
  have hdue : ((rows.filter fun row => claimable row.execution now && !locked.contains row.id).map
      (·.id)).Nodup := hunique.sublist (List.filter_sublist.map _)
  have hsorted := (List.perm_insertionSort LeasedExecution.dueBefore
    (rows.filter fun row => claimable row.execution now && !locked.contains row.id)).map (·.id)
  exact (hsorted.nodup_iff.mpr hdue).sublist ((List.take_sublist _ _).map _)

theorem length_selectDue_le (limit : Int) (locked : List String) (now : Int)
    (rows : List LeasedExecution) :
    (selectDue limit locked now rows).length ≤ (min (max limit 1) 100).toNat := by
  rw [selectDue, List.length_map]
  exact List.length_take_le _ _

/-- A row that is claimed has no lease, or one that has run out. -/
theorem claimable_lapsed {execution : ExecutionRecord} {leaseUntil : Int}
    (h : claimable execution now = true) (hlease : execution.reconcileLeaseUntil = some leaseUntil) :
    leaseUntil < now := by
  simp only [claimable, hlease, Bool.and_eq_true, decide_eq_true_eq] at h
  exact h.2

/-- A renewal is answered by the one row of the id. -/
theorem renewed_iff (hunique : (rows.map (·.id)).Nodup) :
    renewed executionId leaseId rows = true ↔
      ∃ row, rowOf executionId rows = some row ∧ row.reconcileLeaseId = some leaseId := by
  rw [renewed, decide_eq_true_eq]
  constructor
  · intro hone
    obtain ⟨row, hmem, hrow⟩ := List.countP_pos_iff.mp (by rw [hone]; exact Nat.one_pos)
    rw [decide_eq_true_eq] at hrow
    obtain ⟨rfl, hlease⟩ := hrow
    exact ⟨row, rowOf_eq_some hunique hmem, hlease⟩
  · rintro ⟨row, hrow, hlease⟩
    have hpos : 0 < rows.countP
        (fun row => row.id = executionId ∧ row.reconcileLeaseId = some leaseId) := by
      refine List.countP_pos_iff.mpr ⟨row, rowOf_mem hrow, ?_⟩
      rw [decide_eq_true_eq]
      exact ⟨rowOf_id hrow, hlease⟩
    have hids : (rows.map (·.id)).count executionId ≤ 1 := List.nodup_iff_count_le_one.mp hunique _
    rw [List.count, List.countP_map] at hids
    have hle : rows.countP
        (fun row => row.id = executionId ∧ row.reconcileLeaseId = some leaseId) ≤
          rows.countP ((· == executionId) ∘ (·.id)) := by
      refine List.countP_mono_left ?_
      intro row _ h
      rw [decide_eq_true_eq] at h
      simpa using h.1
    omega

end Rows

/-! ## What the queries do to the row of an id -/

section Effects

variable {rows : List LeasedExecution} {id : String}

theorem ids_leaseSelected (selected : List String) (leaseId : String) (leaseSeconds now : Int) :
    (leaseSelected selected leaseId leaseSeconds now rows).map (·.id) = rows.map (·.id) := by
  refine map_id_map fun row => ?_
  split <;> rfl

theorem ids_renew (executionId leaseId : String) (leaseSeconds now : Int) :
    (renewReconcileLease executionId leaseId leaseSeconds now rows).map (·.id) =
      rows.map (·.id) := by
  refine map_id_map fun row => ?_
  split <;> rfl

theorem ids_release (executionId leaseId : String) :
    (releaseReconcileLease executionId leaseId rows).map (·.id) = rows.map (·.id) := by
  refine map_id_map fun row => ?_
  split <;> rfl

theorem ids_write (executionId : String) (execution : ExecutionRecord) :
    (writeExecution executionId execution rows).map (·.id) = rows.map (·.id) := by
  refine map_id_map fun row => ?_
  split <;> rfl

theorem rowOf_leaseSelected (selected : List String) (leaseId : String) (leaseSeconds now : Int) :
    rowOf id (leaseSelected selected leaseId leaseSeconds now rows) =
      (rowOf id rows).map fun row =>
        if row.id ∈ selected then row.leased leaseId (now + leaseSeconds * 1000) else row := by
  refine rowOf_map fun row => ?_
  split <;> rfl

theorem rowOf_renew (executionId leaseId : String) (leaseSeconds now : Int) :
    rowOf id (renewReconcileLease executionId leaseId leaseSeconds now rows) =
      (rowOf id rows).map fun row =>
        if row.id = executionId ∧ row.reconcileLeaseId = some leaseId then
          row.leased leaseId (now + min (max leaseSeconds 15) 3600 * 1000)
        else row := by
  refine rowOf_map fun row => ?_
  split <;> rfl

theorem rowOf_release (executionId leaseId : String) :
    rowOf id (releaseReconcileLease executionId leaseId rows) =
      (rowOf id rows).map fun row =>
        if row.id = executionId ∧ row.reconcileLeaseId = some leaseId then row.unleased else row := by
  refine rowOf_map fun row => ?_
  split <;> rfl

theorem rowOf_write (executionId : String) (execution : ExecutionRecord) :
    rowOf id (writeExecution executionId execution rows) =
      (rowOf id rows).map fun row =>
        if row.id = executionId then { row with execution := execution } else row := by
  refine rowOf_map fun row => ?_
  split <;> rfl

theorem rowOf_insert {executionId : String} (execution : ExecutionRecord)
    (hfresh : executionId ∉ rows.map (·.id)) :
    rowOf id (insertExecution executionId execution rows) =
      if id = executionId then some ⟨executionId, execution, none⟩ else rowOf id rows := by
  rw [rowOf, insertExecution, List.find?_append]
  split_ifs with hsame
  · subst hsame
    have hnone : rows.find? (fun row => row.id = id) = none := by
      refine List.find?_eq_none.mpr fun row hrow hid => hfresh ?_
      rw [decide_eq_true_eq] at hid
      exact List.mem_map.mpr ⟨row, hrow, hid⟩
    simp [hnone]
  · have hother : [(⟨executionId, execution, none⟩ : LeasedExecution)].find?
        (fun row => row.id = id) = none := by
      simp [Ne.symm hsame]
    rw [hother, Option.or_none]
    rfl

end Effects

end CellFlow
