/-
# CellFlow.Api.Service — the write requests of `apps/api/src/service.ts`.

A request reads the intent, decides on that view and hands the repository a write guarded by the
view's version; on a concurrent change it reads again, at most three times.  `attachAttempt` and
`markAttempt` are one pass of that loop, from any view; the requests themselves, run alone, take
their view from the store they write to.
-/
import CellFlow.Core.Validation
import CellFlow.Db.AttachTransaction
import CellFlow.Db.Transitions

namespace CellFlow

open Js (Json)

/-- The refusal of a request that contradicts what is on record. -/
def intentConflict (message : String) : Failure := .cellFlow ⟨.intentConflict, message, 409⟩

/-! ## createIntent -/

/-- A new intent, in a project with a confirmation policy and hashes of its own. -/
structure CreateRequest where
  intentId : String
  expectedCells : List ExpectedCellAssertion
  confirmationPolicy : ConfirmationPolicy
  hashesElsewhere : List String
  now : Int

/-- `service.createIntent` where the intent is new: the service never names a transaction. -/
def serviceCreateIntent (req : CreateRequest) : Store :=
  createIntent
    { intentId := req.intentId
      expectedCells := req.expectedCells
      confirmationPolicy := req.confirmationPolicy
      txHash := none
      submissionStatus := none }
    req.hashesElsewhere req.now

/-! ## attachTransaction -/

/-- The body of a `/prepare` or `/track` request; `prepared` tells the two apart. -/
structure AttachRequest where
  txHashInput : String
  prepared : Bool
  signedPayloadHashSha256 : Option String
  inputOutPoints : Option (List OutPointRef)
  inputRefs : Option (List InputRef)
  attemptKind : Option AttemptKind
  parentAttemptId : Option String
  allowSignedPayloadRevision : Bool

/-- The same request after `normalizeTxHash`, `normalizeOutPointRefs` and `normalizeInputRefs`. -/
structure NormalizedAttach where
  txHash : String
  submissionStatus : SubmissionStatus
  signedPayloadHashSha256 : Option String
  inputOutPoints : Option (List OutPointRef)
  inputRefs : Option (List InputRef)
  attemptKind : Option AttemptKind
  parentAttemptId : Option String
  allowSignedPayloadRevision : Bool

/-- `undefined` stays `undefined`. -/
def normalizeOptional {α : Type} (f : List α → Except CellFlowError (List α)) :
    Option (List α) → Except CellFlowError (Option (List α))
  | none => .ok none
  | some values => (f values).map some

/-- The checks of an attach request, in the order of the source; the first that fails is the answer. -/
def AttachRequest.normalize (req : AttachRequest) : Except Failure NormalizedAttach :=
  match normalizeTxHash req.txHashInput, normalizeOptional normalizeOutPointRefs req.inputOutPoints,
      normalizeOptional normalizeInputRefs req.inputRefs with
  | .ok txHash, .ok inputs, .ok refs =>
      let described := (refs.getD []).map (·.outPoint)
      if described ≠ [] ∧ inputs.getD [] ≠ [] ∧
          AttachInput.stringifyOutPoints described ≠
            AttachInput.stringifyOutPoints (inputs.getD []) then
        .error (.cellFlow ⟨.invalidSignedTransaction,
          "inputRefs and inputOutPoints must describe the same ordered transaction inputs", 400⟩)
      else .ok
        { txHash := txHash
          submissionStatus := if req.prepared then .prepared else .submitted
          signedPayloadHashSha256 := (truthy req.signedPayloadHashSha256).map toLowerCase
          inputOutPoints := inputs
          inputRefs := refs
          attemptKind := req.attemptKind
          parentAttemptId := req.parentAttemptId
          allowSignedPayloadRevision := req.allowSignedPayloadRevision }
  | .error e, _, _ => .error (.cellFlow e)
  | _, .error e, _ => .error (.cellFlow e)
  | _, _, .error e => .error (.cellFlow e)

theorem AttachRequest.normalize_ok {req : AttachRequest} {normalized : NormalizedAttach}
    (h : req.normalize = .ok normalized) :
    normalizeTxHash req.txHashInput = .ok normalized.txHash ∧
      normalizeOptional normalizeOutPointRefs req.inputOutPoints = .ok normalized.inputOutPoints ∧
      normalizeOptional normalizeInputRefs req.inputRefs = .ok normalized.inputRefs ∧
      normalized.submissionStatus = (if req.prepared then .prepared else .submitted) ∧
      normalized.attemptKind = req.attemptKind ∧
      normalized.parentAttemptId = req.parentAttemptId := by
  unfold normalize at h
  split at h
  next txHash inputs refs hhash hinputs hrefs =>
    simp only at h
    split at h
    · cases h
    · cases h
      exact ⟨hhash, hinputs, hrefs, rfl, rfl, rfl⟩
  · cases h
  · cases h
  · cases h

/-- What a request normalizes to is built on the call. -/
theorem normalized_built {req : AttachRequest} {normalized : NormalizedAttach}
    (h : req.normalize = .ok normalized) : ∀ r ∈ normalized.inputRefs.getD [], r.keys = .source := by
  obtain ⟨-, -, hrefs, -⟩ := AttachRequest.normalize_ok h
  cases hr : req.inputRefs with
  | none =>
      rw [hr] at hrefs
      have hnone : none = normalized.inputRefs := Except.ok.inj hrefs
      rw [← hnone]
      intro r hr
      cases hr
  | some refs =>
      rw [hr] at hrefs
      cases hn : normalizeInputRefs refs with
      | error e =>
          rw [normalizeOptional, hn] at hrefs
          cases hrefs
      | ok built =>
          rw [normalizeOptional, hn] at hrefs
          have hbuilt : some built = normalized.inputRefs := Except.ok.inj hrefs
          rw [← hbuilt]
          exact normalizeInputRefs_built hn

/-- The error a repository error is reported as. -/
def attachConflict : RepositoryError → Failure
  | .txHashConflict =>
      intentConflict "Transaction hash already belongs to another CellFlow intent"
  | .attemptInputConflict =>
      intentConflict "Transaction attempt already exists with different input evidence"
  | .attemptSignedPayloadConflict =>
      intentConflict "Transaction attempt already exists with a different signed-payload fingerprint"
  | .attemptParentConflict => intentConflict "parentAttemptId does not belong to this intent"
  | .attemptKindInvalid =>
      intentConflict "A replacement transaction must use REBUILD, RBF_REPLACEMENT, or MANUAL_RETRY"
  | .unsafeAttemptReplacement =>
      intentConflict "The current attempt may still commit. Use RBF_REPLACEMENT only for a genuine shared-input CKB replacement, otherwise reconcile the current attempt first"
  | .rbfInputsDoNotOverlap =>
      intentConflict "RBF_REPLACEMENT must share at least one input OutPoint with the active parent attempt"

/-- How a failure of the repository is reported: a conflict of attempts becomes an intent conflict. -/
def Failure.reported : Failure → Failure
  | .repository e => attachConflict e
  | failure => failure

/-- The argument the service hands to the repository, once the state after is known to be legal. -/
def NormalizedAttach.input (req : NormalizedAttach) (current : IntentAggregate) (freshId : String)
    (now : Int) (before after : ExecutionSnapshot) : AttachInput :=
  let replacingHash :=
    current.execution.txHash.isSome && current.execution.txHash ≠ some req.txHash
  let effectiveAttemptKind :=
    req.attemptKind.getD (if replacingHash then .rebuild else .initial)
  { aggregate := current
    txHash := req.txHash
    signedPayloadHashSha256 := req.signedPayloadHashSha256
    allowSignedPayloadRevision := req.allowSignedPayloadRevision
    submissionStatus := req.submissionStatus
    inputOutPoints := req.inputOutPoints
    inputRefs := req.inputRefs
    attemptKind := some effectiveAttemptKind
    parentAttemptId := req.parentAttemptId
    nextReconcileAt := if req.submissionStatus = .submitted then some now else none
    fromStatus := deriveOverallStatus before
    toStatus := deriveOverallStatus after
    reason :=
      if replacingHash then
        "New " ++ effectiveAttemptKind.text ++
          " transaction attempt persisted under the existing business intent"
      else if req.submissionStatus = .prepared then
        "Deterministic transaction hash persisted before broadcast"
      else "Transaction hash registered for reconciliation"
    freshId := freshId
    now := now }

/-- The evidence checks of the service against the execution row. -/
def NormalizedAttach.evidenceGuard (req : NormalizedAttach) (current : IntentAggregate) :
    Except Failure Unit :=
  let execution := current.execution
  if execution.txHash = some req.txHash ∧ req.inputOutPoints.getD [] ≠ [] ∧
      execution.inputOutPoints ≠ [] ∧
      AttachInput.stringifyOutPoints execution.inputOutPoints ≠
        AttachInput.stringifyOutPoints (req.inputOutPoints.getD []) then
    .error (intentConflict
      "Persisted input OutPoints do not match the existing evidence for this transaction attempt")
  else if execution.txHash = some req.txHash ∧ req.inputRefs.getD [] ≠ [] ∧
      execution.inputRefs ≠ [] ∧
      AttachInput.stringifyInputRefs execution.inputRefs ≠
        AttachInput.stringifyInputRefs (req.inputRefs.getD []) then
    .error (intentConflict
      "Persisted semantic input roles do not match the existing evidence for this transaction attempt")
  else .ok ()

/-- One pass of the attach loop from the view `current`. -/
def attachAttempt (req : NormalizedAttach) (current : IntentAggregate) (freshId : String)
    (now : Int) (db : Store) : Except Failure Store :=
  match req.evidenceGuard current with
  | .error e => .error e
  | .ok () =>
      let before := snapshotFromExecution current.execution
      let base :=
        if current.execution.txHash.isSome ∧ current.execution.txHash ≠ some req.txHash then
          initialSnapshot current.execution.confirmationPolicy
        else before
      match updateSubmission base req.submissionStatus with
      | .error e => .error (.cellFlow e)
      | .ok after =>
          (attachTransaction (req.input current freshId now before after) db).mapError
            Failure.reported

/-- **One accepted pass**: the evidence agreed, the requested status was legal, and the repository
wrote. -/
theorem attachAttempt_ok {req : NormalizedAttach} {current : IntentAggregate} {freshId : String}
    {now : Int} {db db' : Store} (h : attachAttempt req current freshId now db = .ok db') :
    ∃ after, req.evidenceGuard current = .ok () ∧
      updateSubmission
          (if current.execution.txHash.isSome ∧ current.execution.txHash ≠ some req.txHash then
            initialSnapshot current.execution.confirmationPolicy
          else snapshotFromExecution current.execution) req.submissionStatus = .ok after ∧
      attachTransaction
          (req.input current freshId now (snapshotFromExecution current.execution) after) db =
        .ok db' := by
  unfold attachAttempt at h
  split at h
  · cases h
  next hguard =>
    simp only at h
    split at h
    · cases h
    next after hafter =>
      refine ⟨after, hguard, hafter, ?_⟩
      cases hw : attachTransaction
          (req.input current freshId now (snapshotFromExecution current.execution) after) db with
      | error e => simp [hw, Except.mapError] at h
      | ok t => simpa [hw, Except.mapError] using h

/-- `service.attachTransaction`, run alone. -/
def serviceAttachTransaction (req : AttachRequest) (freshId : String) (now : Int) (db : Store) :
    Except Failure Store :=
  match req.normalize with
  | .error e => .error e
  | .ok normalized => attachAttempt normalized db.aggregate freshId now db

/-! ## markSubmission -/

/-- The statuses the outcome endpoints report. -/
inductive OutcomeStatus where
  | broadcasting
  | submitted
  | submissionUnknown
  | nodeRejected
  deriving DecidableEq, Repr

/-- The submission status a reported outcome is recorded as. -/
@[simp] def OutcomeStatus.submission : OutcomeStatus → SubmissionStatus
  | .broadcasting => .broadcasting
  | .submitted => .submitted
  | .submissionUnknown => .submissionUnknown
  | .nodeRejected => .nodeRejected

/-- A report on a submission: its outcome, and the evidence of the failure if there was one. -/
structure MarkRequest where
  status : OutcomeStatus
  failure : Option SubmissionFailureEvidence

/-- The evidence a status may, must or must not carry. -/
def MarkRequest.guard (req : MarkRequest) : Except CellFlowError Unit :=
  let errorType := req.failure.map (·.errorType)
  let conflictType := req.failure.bind (·.conflictType)
  if req.status = .nodeRejected ∧ errorType ≠ some .rpcRejection then
    .error ⟨.transitionInvalid, "NODE_REJECTED requires RPC_REJECTION evidence", 400⟩
  else if req.status = .submissionUnknown ∧ errorType = some .rpcRejection then
    .error ⟨.transitionInvalid,
      "Explicit RPC rejection cannot be recorded as SUBMISSION_UNKNOWN", 400⟩
  else if conflictType.isSome ∧ conflictType ≠ some .inputConflictSuspected then
    .error ⟨.transitionInvalid, "Broadcast classification may only record INPUT_CONFLICT_SUSPECTED before direct chain inspection", 400⟩
  else if req.status = .submissionUnknown ∧ conflictType.isSome then
    .error ⟨.transitionInvalid,
      "Ambiguous transport failures cannot claim an input conflict", 400⟩
  else if req.status ≠ .nodeRejected ∧ req.status ≠ .submissionUnknown ∧ req.failure.isSome then
    .error ⟨.transitionInvalid,
      "Submission failure evidence is not valid for " ++ req.status.submission.text, 400⟩
  else .ok ()

/-- **What the guard leaves**: only a node rejection may carry a conflict type, it must carry RPC
evidence, and the only type it may carry is a suspicion. -/
theorem MarkRequest.guard_ok {req : MarkRequest} (h : req.guard = .ok ()) :
    (req.status = .nodeRejected → req.failure.map (·.errorType) = some .rpcRejection) ∧
      (req.failure.bind (·.conflictType) = none ∨
        (req.status = .nodeRejected ∧
          req.failure.bind (·.conflictType) = some .inputConflictSuspected)) := by
  unfold guard at h
  simp only at h
  split_ifs at h with h₁ h₂ h₃ h₄ h₅
  refine ⟨fun hs => by_contra fun he => h₁ ⟨hs, he⟩, ?_⟩
  cases hc : req.failure.bind (·.conflictType) with
  | none => exact Or.inl rfl
  | some c =>
      have hsome : (req.failure.bind (·.conflictType)).isSome := by simp [hc]
      right
      have hunknown : req.status ≠ .submissionUnknown := fun hs => h₄ ⟨hs, hsome⟩
      have hfailure : req.failure.isSome := by
        cases hf : req.failure with
        | none => simp [hf] at hc
        | some f => rfl
      refine ⟨by_contra fun hs => h₅ ⟨hs, hunknown, hfailure⟩, ?_⟩
      rw [← hc]
      exact by_contra fun hne => h₃ ⟨hsome, hne⟩

/-- The reason the event of a report carries. -/
def MarkRequest.reason (req : MarkRequest) : String :=
  match req.status with
  | .submissionUnknown =>
      "Broadcast response was ambiguous; reconcile by deterministic tx hash before retry"
  | .nodeRejected =>
      "CKB RPC explicitly rejected the broadcast request; rejection is submission-layer evidence, not proof of canonical input spend"
  | .broadcasting => "Broadcast attempt started after transaction identity was persisted"
  | .submitted => "CKB RPC accepted the broadcast request"

/-- Whether the report asks for an immediate reconciliation. -/
def MarkRequest.schedules (req : MarkRequest) : Bool :=
  req.status = .submitted || req.status = .submissionUnknown ||
    (req.status = .nodeRejected &&
      req.failure.bind (·.conflictType) = some .inputConflictSuspected)

/-- What `markSubmission` hands to the repository: the next status, whether a poll is due, and the
statuses the event goes between. -/
def MarkRequest.input (req : MarkRequest) (current : IntentAggregate) (now : Int)
    (before after : ExecutionSnapshot) : MarkInput where
  aggregate := current
  status := req.status.submission
  scheduleReconcile := req.schedules
  fromStatus := deriveOverallStatus before
  toStatus := deriveOverallStatus after
  reason := req.reason
  submissionErrorCode := req.failure.bind (·.errorCode)
  submissionErrorType := req.failure.map (·.errorType)
  submissionErrorDetails := req.failure.map fun failure =>
    Json.spread [("message", Json.ofOption failure.errorMessage)] failure.details
  conflictType := req.failure.bind (·.conflictType)
  conflictDetails := some ((req.failure.bind (·.conflictType)).map fun _ =>
    .obj [("source", .str "broadcast"), ("canonicalSpendConfirmed", .bool false)])
  now := now

/-- One pass of the mark loop from the view `current`. -/
def markAttempt (req : MarkRequest) (current : IntentAggregate) (now : Int) (db : Store) :
    Except Failure Store :=
  if current.execution.txHash = none then
    .error (.cellFlow ⟨.invalidTxHash, "Intent has no transaction hash", 400⟩)
  else
    let before := snapshotFromExecution current.execution
    match updateSubmission before req.status.submission with
    | .error e => .error (.cellFlow e)
    | .ok after => markSubmissionStatus (req.input current now before after) db

/-- **One accepted pass**: the reported status was legal, and the view's row was current. -/
theorem markAttempt_ok {req : MarkRequest} {current : IntentAggregate} {now : Int} {db db' : Store}
    (h : markAttempt req current now db = .ok db') :
    ∃ after, current.execution.txHash ≠ none ∧
      updateSubmission (snapshotFromExecution current.execution) req.status.submission = .ok after ∧
      db.execution.version = current.execution.version ∧ db'.execution.violation = none ∧
      db' = (req.input current now (snapshotFromExecution current.execution) after).markedStore
        db := by
  unfold markAttempt at h
  split at h
  · cases h
  next htx =>
    simp only at h
    split at h
    · cases h
    next after hafter =>
      obtain ⟨rfl, hversion, hfits⟩ := Store.transact_ok h
      exact ⟨after, htx, hafter, hversion, hfits, rfl⟩

/-- `service.markSubmission`, run alone. -/
def serviceMarkSubmission (req : MarkRequest) (now : Int) (db : Store) : Except Failure Store :=
  match req.guard with
  | .error e => .error (.cellFlow e)
  | .ok () => markAttempt req db.aggregate now db

end CellFlow
