/-
# CellFlow.Properties.RecoveryAdvice — can a recommended rebuild be carried out?

A terminal spend of the inputs makes the public view recommend a new transaction.  The replacement
guard, though, does not look at the workflow axis: it refuses a REBUILD while the losing attempt is
recorded as on the wire, or as found on chain.  The advice can be followed exactly where neither is
on record.
-/
import CellFlow.Db.PublicView
import CellFlow.Api.AttemptRows
import CellFlow.Properties.Scheduling

namespace CellFlow

open Optimistic (World)
open Runs (Run)

/-- The view recommends a new transaction because the inputs are terminally spent. -/
structure AdvisesRebuild (db : Store) : Prop where
  rebuilds : (executionPublicView db.aggregate).recommendedAction.rebuilds = true
  spent : db.execution.conflictType = some .inputSpent
  conflicted : db.execution.workflowStatus = .conflicted

/-- The request attaches a hash of no attempt, of this intent or another, as a REBUILD. -/
structure FreshRebuild (req : NormalizedAttach) (db : Store) : Prop where
  kind : req.attemptKind = some .rebuild
  unknown : req.txHash ∉ db.attempts.map (·.txHash)
  unowned : req.txHash ∉ db.hashesElsewhere

/-- The losing attempt is recorded neither as on the wire nor as found on chain. -/
structure LosesOffWire (row : ExecutionRecord) : Prop where
  submission : row.submissionStatus.onWire = false
  pending : row.chainStatus ≠ .pending
  proposed : row.chainStatus ≠ .proposed
  committed : row.chainStatus ≠ .committed

/-! ## Errors -/

/-- Different repository errors are reported differently. -/
theorem attachConflict_injective {e e' : RepositoryError} (h : attachConflict e = attachConflict e') :
    e = e' := by
  cases e <;> cases e' <;> first | rfl | simp [attachConflict, intentConflict] at h

/-- A fresh transaction may be prepared or submitted. -/
theorem updateSubmission_initial (policy : ConfirmationPolicy) (prepared : Bool) :
    ∃ after, updateSubmission (initialSnapshot policy)
      (if prepared then .prepared else .submitted) = .ok after := by
  cases prepared <;> exact ⟨_, rfl⟩

/-- An attach pass whose hash differs from the projected one is refused as unsafe exactly by the
replacement guard. -/
theorem attachAttempt_unsafe_iff {req : NormalizedAttach} {current : IntentAggregate}
    (db : Store) (freshId : String) (now : Int) {after : ExecutionSnapshot}
    (hne : current.execution.txHash ≠ some req.txHash)
    (hafter : updateSubmission
      (if current.execution.txHash.isSome ∧ current.execution.txHash ≠ some req.txHash then
        initialSnapshot current.execution.confirmationPolicy
      else snapshotFromExecution current.execution) req.submissionStatus = .ok after) :
    attachAttempt req current freshId now db = .error (attachConflict .unsafeAttemptReplacement) ↔
      (req.input current freshId now (snapshotFromExecution current.execution)
        after).replacementGuard = .error .unsafeAttemptReplacement := by
  have hguard : req.evidenceGuard current = .ok () := by
    simp [NormalizedAttach.evidenceGuard, hne]
  rw [← attachTransaction_unsafe_iff db]
  unfold attachAttempt
  simp only [hguard, hafter]
  cases hw : attachTransaction (req.input current freshId now
      (snapshotFromExecution current.execution) after) db with
  | ok t => simp [Except.mapError]
  | error e =>
      simp only [Except.mapError, Except.error.injEq]
      cases e with
      | repository e' =>
          simp only [Failure.reported, Failure.repository.injEq]
          constructor
          · exact attachConflict_injective
          · exact congrArg attachConflict
      | cellFlow error => exact absurd hw (attachTransaction_ne_cellFlow error)
      | optimisticConcurrency => simp [Failure.reported, attachConflict, intentConflict]
      | constraint name => simp [Failure.reported, attachConflict, intentConflict]
      | error message => simp [Failure.reported, attachConflict, intentConflict]

/-! ## The guard on a rebuild -/

/-- The guard refuses a rebuild over a conflicted row exactly where the losing attempt is recorded on
the wire or on chain. -/
theorem rebuild_guard_iff (input : AttachInput) (hcreate : input.creatingAttempt = true)
    (hsome : input.currentHash.isSome) (hkind : input.kind = .rebuild)
    (hw : input.aggregate.execution.workflowStatus = .conflicted) :
    input.replacementGuard = .error .unsafeAttemptReplacement ↔
      ¬ LosesOffWire input.aggregate.execution := by
  have hfinal : input.currentFinalized =
      decide (input.aggregate.execution.chainStatus = .committed) := by
    simp [AttachInput.currentFinalized, hw]
  have hlive : input.potentiallyLive = (input.aggregate.execution.submissionStatus.onWire ||
      input.aggregate.execution.chainStatus = .pending ||
      input.aggregate.execution.chainStatus = .proposed) := by
    unfold AttachInput.potentiallyLive
    cases hs : input.aggregate.execution.submissionStatus <;> simp [SubmissionStatus.onWire, hs]
  simp only [AttachInput.replacementGuard, hcreate, hsome, hkind, hfinal, hlive, and_self, if_true,
    reduceCtorEq, if_false, decide_eq_true_eq, ne_eq, not_false_eq_true, and_true]
  constructor
  · intro h hoff
    simp [hoff.submission, hoff.pending, hoff.proposed, hoff.committed] at h
  · intro h
    split
    · rfl
    next hcommitted =>
      rw [if_pos]
      by_contra hne
      simp only [Bool.or_eq_true, decide_eq_true_eq, not_or, Bool.not_eq_true] at hne
      exact h ⟨hne.1.1, hne.1.2, hne.2, hcommitted⟩

/-- **When recommended recovery is executable**: over a terminal spend, a fresh REBUILD is not refused
as an unsafe replacement exactly where the losing attempt is neither on the wire nor on chain. -/
theorem rebuild_executable_iff {created : CreateRequest} {acts : List Act} {w : World Store}
    {req : AttachRequest} {normalized : NormalizedAttach} {freshId : String} {now : Int}
    (hrun : Run Step (opening created) acts w) (hadvice : AdvisesRebuild w.current)
    (hn : req.normalize = .ok normalized) (hfresh : FreshRebuild normalized w.current) :
    serviceAttachTransaction req freshId now w.current ≠
        .error (attachConflict .unsafeAttemptReplacement) ↔
      LosesOffWire w.current.execution := by
  have hinv := rowsInv_run hrun
  have hsome : w.current.execution.txHash ≠ none := by
    intro hnone
    have hrow := unhashed_run hrun hnone
    have hspent := hadvice.spent
    rw [hrow] at hspent
    cases hspent
  have hne : w.current.aggregate.execution.txHash ≠ some normalized.txHash := by
    intro htx
    refine hfresh.unknown ?_
    rcases hinv.points with ⟨-, -, hnone⟩ | ⟨key, hkey, -, hkeyed⟩
    · exact absurd hnone hsome
    · obtain ⟨attempt, hmem, rfl⟩ := List.mem_map.mp hkey
      have hhash : some normalized.txHash = some attempt.txHash := htx.symm.trans hkeyed
      rw [Option.some.inj hhash]
      exact List.mem_map_of_mem hmem
  have hbase : w.current.aggregate.execution.txHash.isSome ∧
      w.current.aggregate.execution.txHash ≠ some normalized.txHash :=
    ⟨Option.isSome_iff_ne_none.mpr hsome, hne⟩
  obtain ⟨-, -, -, hstatus, -⟩ := AttachRequest.normalize_ok hn
  obtain ⟨after, hafter⟩ := updateSubmission_initial
    w.current.aggregate.execution.confirmationPolicy req.prepared
  have hpass := attachAttempt_unsafe_iff w.current freshId now hne
    (by rw [if_pos hbase, hstatus]; exact hafter)
  have hinput := rebuild_guard_iff
    (normalized.input w.current.aggregate freshId now
      (snapshotFromExecution w.current.aggregate.execution) after)
    (by simp [AttachInput.creatingAttempt, AttachInput.sameHash, AttachInput.currentHash,
      NormalizedAttach.input, hne]) hbase.1
    (by simp [AttachInput.kind, NormalizedAttach.input, hfresh.kind]) hadvice.conflicted
  unfold serviceAttachTransaction
  rw [hn, ne_eq, hpass, hinput, not_not]
  exact Iff.rfl

section Runs

open Scenario

/-- A wallet input that is spent. -/
def spentWallet (tip : String) : InputInspection :=
  { inspection .canonicallySpent tip with
    spentInputs :=
      [{ outPoint := outPoint '1', input := ⟨outPoint '1', .walletFunding, none, .source⟩
         canonical := .spent, poolAware := .unknown, canonicalRpcStatus := none
         poolRpcStatus := none, creatorTxStatus := none, creatorBlockHash := none
         creatorBlockNumber := none, liveBlockHash := none }] }

/-- The transaction is absent and its wallet input spent, at a tip. -/
def walletSpentAt (tip : String) : Op := .observe (node (.ok (absent (some (spentWallet tip)))))

/-- The node rejected the transaction before its input was found spent. -/
def rejectedThenSpent : List Op :=
  [attach 'a' true none [outPoint '1'], report .broadcasting, rejectSuspected,
    walletSpentAt "0x9", walletSpentAt "0xd"]

/-- The transaction was submitted before its input was found spent. -/
def submittedThenSpent : List Op :=
  [attach 'a' false none [outPoint '1'], walletSpentAt "0x9", walletSpentAt "0xd"]

/-- The `/prepare` of a replacement. -/
def rebuild : AttachRequest where
  txHashInput := hashOf 'b'
  prepared := true
  signedPayloadHashSha256 := none
  inputOutPoints := some [outPoint '2']
  inputRefs := none
  attemptKind := some .rebuild
  parentAttemptId := none
  allowSignedPayloadRevision := false

/-- The requested hash, in normal form and new. -/
theorem rebuild_normalized : ∃ normalized, rebuild.normalize = .ok normalized ∧
    normalized.attemptKind = some .rebuild ∧ normalized.txHash ∉ [hashOf 'a'] := by
  have hrow : (rebuild.normalize.toOption.map (·.txHash)) = some (hashOf 'b') ∧
      hashOf 'b' ∉ [hashOf 'a'] := by decide +kernel
  obtain ⟨normalized, hn, htx⟩ := Option.map_eq_some_iff.mp hrow.1
  have hok := toOption_eq_some hn
  obtain ⟨-, -, -, -, hkind, -⟩ := AttachRequest.normalize_ok hok
  exact ⟨normalized, hok, hkind, htx ▸ hrow.2⟩

/-- What both runs leave. -/
theorem spent_advised : ∀ ops ∈ [rejectedThenSpent, submittedThenSpent],
    commitsAll (serviceCreateIntent (create (.depth 4))) ops = true ∧
      (executionPublicView (after (.depth 4) ops).aggregate).recommendedAction.rebuilds = true ∧
      (after (.depth 4) ops).execution.conflictType = some .inputSpent ∧
      (after (.depth 4) ops).execution.workflowStatus = .conflicted ∧
      (after (.depth 4) ops).attempts.map (·.txHash) = [hashOf 'a'] ∧
      (after (.depth 4) ops).hashesElsewhere = [] := by
  decide +kernel

/-- The rebuild over a rejected transaction is accepted. -/
theorem rebuild_executable_iff_rejected :
    serviceAttachTransaction rebuild (hashOf 'b') 0 (after (.depth 4) rejectedThenSpent) ≠
      .error (attachConflict .unsafeAttemptReplacement) := by
  have hoff : (after (.depth 4) rejectedThenSpent).execution.submissionStatus.onWire = false ∧
      (after (.depth 4) rejectedThenSpent).execution.chainStatus = .unknown := by decide +kernel
  obtain ⟨hall, hrebuilds, hspent, hconflicted, hhashes, howned⟩ :=
    spent_advised rejectedThenSpent (by simp)
  obtain ⟨acts, past, hrun⟩ := run_after hall
  obtain ⟨normalized, hn, hkind, hnew⟩ := rebuild_normalized
  generalize after (.depth 4) rejectedThenSpent = db at *
  refine (rebuild_executable_iff hrun ⟨hrebuilds, hspent, hconflicted⟩ hn
    ⟨hkind, hhashes ▸ hnew, by simp [howned]⟩).mpr ⟨hoff.1, ?_, ?_, ?_⟩ <;>
  simp [hoff.2]

/-- The rebuild over a submitted transaction is refused, though its inputs are terminally spent. -/
theorem advised_rebuild_refused : ¬ ∀ (created : CreateRequest) (acts : List Act) (w : World Store)
    (req : AttachRequest) (normalized : NormalizedAttach) (freshId : String) (now : Int),
    Run Step (opening created) acts w → AdvisesRebuild w.current →
    req.normalize = .ok normalized → FreshRebuild normalized w.current →
    serviceAttachTransaction req freshId now w.current ≠
      .error (attachConflict .unsafeAttemptReplacement) := by
  intro h
  have hrefused : (match serviceAttachTransaction rebuild (hashOf 'b') 0
        (after (.depth 4) submittedThenSpent) with
      | .ok _ => false
      | .error failure => decide (failure = attachConflict .unsafeAttemptReplacement)) = true := by
    decide +kernel
  obtain ⟨hall, hrebuilds, hspent, hconflicted, hhashes, howned⟩ :=
    spent_advised submittedThenSpent (by simp)
  obtain ⟨acts, past, hrun⟩ := run_after hall
  obtain ⟨normalized, hn, hkind, hnew⟩ := rebuild_normalized
  generalize after (.depth 4) submittedThenSpent = db at *
  have haccepted := h _ acts _ rebuild normalized (hashOf 'b') 0 hrun
    ⟨hrebuilds, hspent, hconflicted⟩ hn ⟨hkind, hhashes ▸ hnew, by simp [howned]⟩
  split at hrefused
  next => cases hrefused
  next failure hfailure => exact haccepted (hfailure.trans (congrArg _ (by simpa using hrefused)))

end Runs

end CellFlow
