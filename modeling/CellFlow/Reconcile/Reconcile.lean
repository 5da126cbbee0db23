/-
# CellFlow.Reconcile.Reconcile — one reconciliation of an intent.

`reconcileIntentOnce` first probes the other candidates, each probe committed on its own, and may
promote one of them; then it observes the projected transaction and writes one snapshot.  An RPC
failure is an UNKNOWN observation without new evidence.  A reconciliation that fails keeps what its
probes have written, so the result pairs the store with the outcome.
-/
import CellFlow.Reconcile.Draft

namespace CellFlow

open Js (Json toISOString)

/-- What a reconciliation returns. -/
structure ReconcileResult where
  txHash : Option String
  changed : Bool
  status : OverallStatus
  assertionStatus : Option AssertionStatus
  settlementReady : Bool
  terminal : Bool
  nextDelayMs : Option Int
  deriving DecidableEq

/-- `Boolean(eventId)` of the write. -/
def ApplyInput.recordsEvent (input : ApplyInput) : Bool :=
  input.meaningful || input.settlementChanged

section Reconcile

variable (env : ReconcileEnv) (aggregate : IntentAggregate)

/-! ## The projected transaction -/

/-- The observation an RPC failure stands for. -/
def failureObservation (message : String) : ChainObservation where
  status := .unknown
  observedAt := env.nowMs
  raw := .obj [("source", .str "rpc_failure"), ("error", .str message)]
  blockHash := none
  blockNumber := none
  tipBlockNumber := none
  rejectionReason := none
  priorCommitCanonical := none

@[simp] theorem failureObservation_status (message : String) :
    (failureObservation env message).status = .unknown := rfl

/-- An RPC failure never proves a reorg. -/
@[simp] theorem failureObservation_no_reorg (s : ExecutionSnapshot) (message : String) :
    reorgAgainstPriorCommit s (failureObservation env message) = false := by
  unfold reorgAgainstPriorCommit
  cases truthy s.committedBlockHash <;> simp [failureObservation]

/-- The delay after a failed observation. -/
def failureDelayMs : Int := nextReconcileDelayMs aggregate.execution.reconcileAttempts .unknown

/-- What the step hands to `applySnapshot` after an RPC failure. -/
def failureInput (message : String) (applied : ApplyObservationResult) : ApplyInput where
  aggregate := aggregate
  snapshot := applied.snapshot
  event :=
    { kind := applied.event.kind
      fromStatus := applied.event.fromOverall
      toStatus := applied.event.toOverall
      reason := applied.event.reason.or (some message)
      rawObservation := some (failureObservation env message).raw
      occurredAt := env.nowMs }
  nextReconcileAt := some (env.nowMs + failureDelayMs aggregate)
  assertionStatus := none
  assertionResult := none
  conflictType := none
  conflictDetails :=
    (breakSpendObservationContinuity (detailsOf aggregate.execution.conflictDetails) env.nowMs
      "RPC observation failed before canonical spend evidence could be rechecked").map some

/-- The step after an RPC failure.  The diagnostic row `recordRpcObservation` inserts first is left
out: here the source catches its failure. -/
def reconcileFailure (txHash message : String) (db : Store) :
    Except Failure (Store × ReconcileResult) :=
  match applyChainObservation (snapshotFromExecution aggregate.execution)
      (failureObservation env message) with
  | .error e => .error (.cellFlow e)
  | .ok applied =>
      let input := failureInput env aggregate message applied
      match applySnapshot input db with
      | .error e => .error e
      | .ok db' => .ok (db',
          { txHash := some txHash
            changed := input.recordsEvent
            status := deriveOverallStatus applied.snapshot
            assertionStatus := aggregate.execution.assertionStatus
            settlementReady := false
            terminal := false
            nextDelayMs := some (failureDelayMs aggregate) })

/-- The step after an answer.  The diagnostic row `recordRpcObservation` inserts first is left out.  On
this path the source does not catch its failure: a raw answer the `jsonb` column of that table refuses
ends the step there, and would be refused by `last_raw_observation` here. -/
def reconcileObserved (txHash : String) (bundle : RpcObservationBundle) (db : Store) :
    Except Failure (Store × ReconcileResult) :=
  match applyChainObservation (snapshotFromExecution aggregate.execution) bundle.observation with
  | .error e => .error (.cellFlow e)
  | .ok applied =>
      let draft := plannedDraft env aggregate bundle txHash applied
      let input := plannedInput env aggregate bundle applied draft
      match applySnapshot input db with
      | .error e => .error e
      | .ok db' => .ok (db',
          { txHash := some txHash
            changed := input.recordsEvent
            status := deriveOverallStatus draft.snapshot
            assertionStatus := draft.assertionStatus
            settlementReady := draftReady aggregate draft
            terminal := terminal env aggregate bundle draft
            nextDelayMs := nextDelayMs env aggregate bundle draft })

/-- The part of `reconcileIntentOnce` after the candidate scan. -/
def reconcileProjection (txHash : String) (db : Store) : Except Failure (Store × ReconcileResult) :=
  match env.observe txHash with
  | .error message => reconcileFailure env aggregate txHash message db
  | .ok bundle => reconcileObserved env aggregate txHash bundle db

/-- The store after an answer. -/
def observedStore (txHash : String) (bundle : RpcObservationBundle)
    (applied : ApplyObservationResult) (db : Store) : Store :=
  (plannedInput env aggregate bundle applied
    (plannedDraft env aggregate bundle txHash applied)).appliedStore db

variable {env aggregate} in
/-- **How an accepted projection step ends**: with the store of an RPC failure, or with the store its
answer asks for. -/
theorem reconcileProjection_ok {txHash : String} {db db' : Store} {result : ReconcileResult}
    (h : reconcileProjection env aggregate txHash db = .ok (db', result)) :
    db.execution.version = aggregate.execution.version ∧ db'.execution.violation = none ∧
      ((∃ message applied, env.observe txHash = .error message ∧
          applyChainObservation (snapshotFromExecution aggregate.execution)
            (failureObservation env message) = .ok applied ∧
          db' = (failureInput env aggregate message applied).appliedStore db ∧
          result.nextDelayMs = some (failureDelayMs aggregate)) ∨
        (∃ bundle applied, env.observe txHash = .ok bundle ∧
          applyChainObservation (snapshotFromExecution aggregate.execution)
            bundle.observation = .ok applied ∧
          db' = observedStore env aggregate txHash bundle applied db ∧
          result.nextDelayMs =
            nextDelayMs env aggregate bundle (plannedDraft env aggregate bundle txHash applied))) := by
  unfold reconcileProjection at h
  split at h
  next message hanswer =>
    simp only [reconcileFailure] at h
    split at h
    · cases h
    next applied happ =>
      split at h
      · cases h
      next hwrite =>
        obtain ⟨rfl, hversion, hfits⟩ := Store.transact_ok hwrite
        cases h
        exact ⟨hversion, hfits, Or.inl ⟨message, applied, hanswer, happ, rfl, rfl⟩⟩
  next bundle hanswer =>
    simp only [reconcileObserved] at h
    split at h
    · cases h
    next applied happ =>
      split at h
      · cases h
      next hwrite =>
        obtain ⟨rfl, hversion, hfits⟩ := Store.transact_ok hwrite
        cases h
        exact ⟨hversion, hfits, Or.inr ⟨bundle, applied, hanswer, happ, rfl, rfl⟩⟩

/-- After an answer, the stored row is ready exactly when the draft is. -/
theorem observedStore_ready {env : ReconcileEnv} {view : IntentAggregate}
    {bundle : RpcObservationBundle} {db : Store} {txHash : String} {applied : ApplyObservationResult}
    (hcur : Current view db)
    (happ : applyChainObservation (snapshotFromExecution view.execution) bundle.observation =
      .ok applied) :
    (observedStore env view txHash bundle applied db).settlementReady =
      draftReady view (plannedDraft env view bundle txHash applied) := by
  obtain ⟨hsnap, -⟩ := applyChainObservation_ok happ
  have hpolicy : db.execution.confirmationPolicy =
      (plannedInput env view bundle applied
        (plannedDraft env view bundle txHash applied)).snapshot.confirmationPolicy := by
    simp only [plannedInput]
    rw [plannedDraft_snapshot, hsnap]
    simp [hcur.execution]
  have hcells : db.intent.expectedCells =
      (plannedInput env view bundle applied
        (plannedDraft env view bundle txHash applied)).aggregate.intent.expectedCells := by
    rw [plannedInput, hcur.intent]
  exact ApplyInput.appliedStore_settlementReady hpolicy hcells

/-! ## The candidate scan -/

/-- What a probe of one candidate asks for. -/
inductive CandidateVerdict where
  | update (input : CandidateInput)
  | promote (input : PromoteInput)
  | failed

/-- The snapshot a candidate is observed from; it carries no commit evidence. -/
def candidateBase (candidate : TransactionAttemptRecord) : ExecutionSnapshot :=
  { initialSnapshot aggregate.execution.confirmationPolicy with
    submissionStatus :=
      if candidate.submissionStatus = .notSubmitted then .submitted else candidate.submissionStatus
    chainStatus := candidate.chainStatus
    workflowStatus := candidate.workflowStatus }

/-- The fingerprints of a committed candidate found with another signed payload. -/
def candidateMismatch (candidate : TransactionAttemptRecord) (observed : RpcObservationBundle) :
    Option (String × String) :=
  match truthy candidate.signedPayloadHashSha256, observed.transaction with
  | some expected, some transaction =>
      match truthy (env.fingerprint transaction) with
      | some fingerprint =>
          if fingerprint ≠ expected then some (expected, fingerprint) else none
      | none => none
  | _, _ => none

/-- The verdict on one candidate: whether it is the one that was committed. -/
def judgeCandidate (candidate : TransactionAttemptRecord) : CandidateVerdict :=
  match env.observeCandidate candidate.txHash with
  | .error _ => .failed
  | .ok observed =>
      let base := candidateBase aggregate candidate
      if observed.observation.status ≠ .committed then
        match applyChainObservation base observed.observation with
        -- a throw inside a probe is absence of evidence
        | .error _ => .failed
        | .ok side => .update
            { attemptId := candidate.id, snapshot := side.snapshot
              conflictType := none, conflictDetails := none }
      else
        match candidateMismatch env candidate observed with
        | some (expected, fingerprint) => .update
            { attemptId := candidate.id
              snapshot := conflictedSnapshot base
              conflictType := some .signedPayloadMismatch
              conflictDetails := some (.obj
                [("source", .str "competing_attempt_scan"),
                  ("expectedSignedPayloadHashSha256", .str expected),
                  ("observedSignedPayloadHashSha256", .str fingerprint),
                  ("rpcEndpoint", .str observed.endpoint),
                  ("observedAt", .str (toISOString observed.observation.observedAt))]) }
        | none =>
            match applyChainObservation base observed.observation with
            | .error _ => .failed
            | .ok applied => .promote
                { aggregate := aggregate
                  attempt := candidate
                  snapshot := applied.snapshot
                  eventKind :=
                    if applied.snapshot.workflowStatus = .confirmed then .competingAttemptConfirmed
                    else .competingAttemptCommitted
                  reason := "A previously unresolved transaction candidate committed on the canonical chain and now drives the intent projection"
                  rawObservation := observed.observation.raw
                  occurredAt := observed.observation.observedAt
                  nextReconcileAt := env.nowMs + 12000 }

/-- `promoteCommittedCompetingCandidate` on the candidates still to probe. -/
def scanCandidates :
    List TransactionAttemptRecord → Store → Store × Except Failure (Option IntentAggregate)
  | [], db => (db, .ok none)
  | candidate :: rest, db =>
      match judgeCandidate env aggregate candidate with
      | .failed => scanCandidates rest db
      | .update input => scanCandidates rest (updateCandidateAttempt input db)
      | .promote input =>
          match promoteAttemptProjection input db with
          | .error e => (db, .error e)
          | .ok db' => (db', .ok (some db'.aggregate))

/-! ## reconcileIntentOnce -/

/-- The store and the outcome of a step that either commits or leaves the store. -/
def settle (db : Store) : Except Failure (Store × ReconcileResult) →
    Store × Except Failure ReconcileResult
  | .ok (db', result) => (db', .ok result)
  | .error e => (db, .error e)

/-- The result for an intent without a transaction. -/
def unprepared : ReconcileResult where
  txHash := none
  changed := false
  status := deriveOverallStatus (snapshotFromExecution aggregate.execution)
  assertionStatus := aggregate.execution.assertionStatus
  settlementReady := false
  terminal := false
  nextDelayMs := none

/-- `reconcileIntentOnce`: one pass on one view, with the store it leaves. -/
def reconcileIntentOnce (db : Store) : Store × Except Failure ReconcileResult :=
  match aggregate.execution.txHash with
  | none => (db, .ok (unprepared aggregate))
  | some txHash =>
      if env.urls = [] then (db, .error (.error "No CKB RPC endpoint configured"))
      else
        match scanCandidates env aggregate (rivals aggregate) db with
        | (db', .error e) => (db', .error e)
        | (db', .ok none) => settle db' (reconcileProjection env aggregate txHash db')
        | (db', .ok (some promoted)) =>
            match promoted.execution.txHash with
            | none => (db', .ok (unprepared promoted))
            | some promotedHash => settle db' (reconcileProjection env promoted promotedHash db')

end Reconcile

/-- `service.reconcile` and `reconcileDue`, run alone: the view is the store itself. -/
def serviceReconcile (env : ReconcileEnv) (db : Store) : Store × Except Failure ReconcileResult :=
  reconcileIntentOnce env db.aggregate db

/-- How a reconciliation goes: it stops before the scan or in it, or ends in the projection step of the
aggregate the scan leaves it with. -/
inductive ReconcilePath (env : ReconcileEnv) (db : Store) :
    Store × Except Failure ReconcileResult → Prop where
  | unprepared (htx : db.execution.txHash = none) :
      ReconcilePath env db (db, .ok (unprepared db.aggregate))
  | unconfigured (hurls : env.urls = []) :
      ReconcilePath env db (db, .error (.error "No CKB RPC endpoint configured"))
  | failed {mid : Store} {failure : Failure}
      (hscan : scanCandidates env db.aggregate (rivals db.aggregate) db = (mid, .error failure)) :
      ReconcilePath env db (mid, .error failure)
  | kept {mid : Store} {txHash : String} (htx : db.execution.txHash = some txHash)
      (hscan : scanCandidates env db.aggregate (rivals db.aggregate) db = (mid, .ok none)) :
      ReconcilePath env db (settle mid (reconcileProjection env db.aggregate txHash mid))
  | cleared {mid : Store} {promoted : IntentAggregate}
      (hscan : scanCandidates env db.aggregate (rivals db.aggregate) db =
        (mid, .ok (some promoted)))
      (htx : promoted.execution.txHash = none) :
      ReconcilePath env db (mid, .ok (unprepared promoted))
  | promoted {mid : Store} {promoted : IntentAggregate} {txHash : String}
      (hscan : scanCandidates env db.aggregate (rivals db.aggregate) db =
        (mid, .ok (some promoted)))
      (htx : promoted.execution.txHash = some txHash) :
      ReconcilePath env db (settle mid (reconcileProjection env promoted txHash mid))

theorem serviceReconcile_path (env : ReconcileEnv) (db : Store) :
    ReconcilePath env db (serviceReconcile env db) := by
  unfold serviceReconcile reconcileIntentOnce
  cases htx : db.aggregate.execution.txHash with
  | none => exact .unprepared htx
  | some txHash =>
      simp only
      split_ifs with hurls
      · exact .unconfigured hurls
      · cases hscan : scanCandidates env db.aggregate (rivals db.aggregate) db with
        | mk mid outcome =>
            cases outcome with
            | error failure => exact .failed hscan
            | ok found =>
                cases found with
                | none => exact .kept htx hscan
                | some promoted =>
                    simp only
                    cases hpromoted : promoted.execution.txHash with
                    | none => exact .cleared hscan hpromoted
                    | some promotedHash => exact .promoted hscan hpromoted

end CellFlow
