/-
# CellFlow.Db.Schema — what the executions table accepts.

The column types and CHECK constraints of migrations 001 to 009 on `executions`, for the columns whose
values the model computes.  `violation` names the first constraint a row breaks; a write that breaks
one is rolled back.  The `timestamptz` columns hold readings of the server's own clock and refuse
none.
-/
import CellFlow.Db.Records
import CellFlow.Lib.PgText

namespace CellFlow

open Js (Json textStorable textStorable?)

/-- Largest value of an `integer` column. -/
def int4Max : Nat := 2147483647

/-- `executions_conflict_type_check` of migration 005. -/
def conflictTypeAllowed : Option ConflictType → Bool
  | none => true
  | some .inputConflictSuspected => true
  | some .inputSpent => true
  | some .expectedCellAssertionFailed => true
  | some .reorgConflict => true
  | some .other => true
  | some .signedPayloadMismatch => false

/-- `executions_node_rejected_evidence_check` of migration 005. -/
def nodeRejectedEvidence (submissionStatus : SubmissionStatus)
    (submissionErrorType : Option SubmissionErrorType) : Bool :=
  match submissionErrorType with
  | some errorType => submissionStatus ≠ .nodeRejected || errorType = .rpcRejection
  -- a comparison with NULL is not false, so the check passes
  | none => true

/-- The `text` columns of a row hold what PostgreSQL stores as text. -/
def ExecutionRecord.textsStorable (row : ExecutionRecord) : Bool :=
  textStorable? row.txHash && textStorable? row.committedBlockHash &&
    textStorable? row.committedBlockNumber && textStorable? row.rejectionReason &&
    textStorable? row.submissionErrorCode

/-- The `jsonb` columns of a row hold documents PostgreSQL stores. -/
def ExecutionRecord.documentsStorable (row : ExecutionRecord) : Bool :=
  (row.inputOutPoints.map OutPointRef.toJson).all Json.storable &&
    (row.inputRefs.map InputRef.toJson).all Json.storable &&
    Json.storable? row.submissionErrorDetails && Json.storable? row.conflictDetails &&
    Json.storable? row.assertionResult && Json.storable? row.lastRawObservation

/-- The fallback to `null` for an empty text changes no stored text. -/
theorem textStorable_truthy (s : Option String) : textStorable? (truthy s) = textStorable? s := by
  cases s with
  | none => rfl
  | some t =>
      by_cases ht : t = ""
      · subst ht
        rfl
      · rw [truthy_eq_some.mpr ⟨rfl, ht⟩]

/-- A list of roles is stored as the column returns it where it is stored as it was built. -/
theorem storable_inputRefs (items : List InputRef) :
    ((items.map InputRef.stored).map InputRef.toJson).all Json.storable =
      (items.map InputRef.toJson).all Json.storable := by
  induction items with
  | nil => rfl
  | cons r rest ih =>
      simp only [List.map_cons, List.all_cons, ih, InputRef.toJson_stored, Json.storable_jsonb]

theorem storable_outPoints (items : List OutPointRef) :
    ((items.map OutPointRef.stored).map OutPointRef.toJson).all Json.storable =
      (items.map OutPointRef.toJson).all Json.storable := by
  induction items with
  | nil => rfl
  | cons o rest ih =>
      simp only [List.map_cons, List.all_cons, ih, OutPointRef.toJson_stored, Json.storable_jsonb]

theorem ExecutionRecord.textsStorable_iff {row : ExecutionRecord} :
    row.textsStorable = true ↔ textStorable? row.txHash = true ∧
      textStorable? row.committedBlockHash = true ∧ textStorable? row.committedBlockNumber = true ∧
      textStorable? row.rejectionReason = true ∧ textStorable? row.submissionErrorCode = true := by
  simp only [textsStorable, Bool.and_eq_true, and_assoc]

theorem ExecutionRecord.documentsStorable_iff {row : ExecutionRecord} :
    row.documentsStorable = true ↔
      (row.inputOutPoints.map OutPointRef.toJson).all Json.storable = true ∧
      (row.inputRefs.map InputRef.toJson).all Json.storable = true ∧
      Json.storable? row.submissionErrorDetails = true ∧ Json.storable? row.conflictDetails = true ∧
      Json.storable? row.assertionResult = true ∧ Json.storable? row.lastRawObservation = true := by
  simp only [documentsStorable, Bool.and_eq_true, and_assoc]

/-- The first constraint or column type a row breaks. -/
def ExecutionRecord.violation (row : ExecutionRecord) : Option String :=
  if int4Max < row.confirmationCount then some "confirmation_count: integer out of range"
  else if int4Max < row.reconcileAttempts then some "reconcile_attempts: integer out of range"
  else if int4Max < row.version then some "version: integer out of range"
  else if conflictTypeAllowed row.conflictType = false then some "executions_conflict_type_check"
  else if nodeRejectedEvidence row.submissionStatus row.submissionErrorType = false then
    some "executions_node_rejected_evidence_check"
  else if row.textsStorable = false then some "invalid byte sequence for encoding UTF8: 0x00"
  else if row.documentsStorable = false then some "unsupported Unicode escape sequence"
  else none

/-- **What a storable row satisfies.** -/
theorem ExecutionRecord.violation_eq_none {row : ExecutionRecord} :
    row.violation = none ↔ row.confirmationCount ≤ int4Max ∧ row.reconcileAttempts ≤ int4Max ∧
      row.version ≤ int4Max ∧ conflictTypeAllowed row.conflictType = true ∧
      nodeRejectedEvidence row.submissionStatus row.submissionErrorType = true ∧
      row.textsStorable = true ∧ row.documentsStorable = true := by
  unfold violation
  simp only [← Nat.not_lt, ← Bool.not_eq_false]
  split_ifs <;> simp_all

end CellFlow
