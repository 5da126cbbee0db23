/-
# CellFlow.Core.Types — the status axes and records shared by every layer.

The enumerations of `packages/core/src/types.ts` with the texts they are stored and printed under,
and the records that pass between the state machine, the repository and the reconciler.  Timestamps
are milliseconds since the epoch; their ISO text appears only inside JSON values.
-/
import CellFlow.Lib.Json

namespace CellFlow

open Js (Json)

/-! ## Status axes -/

/-- What a submitting client has reported about an attempt. -/
inductive SubmissionStatus where
  | notSubmitted
  | prepared
  | broadcasting
  | submitted
  | submissionUnknown
  | nodeRejected
  deriving DecidableEq, Repr

/-- The status as it is stored. -/
def SubmissionStatus.text : SubmissionStatus → String
  | .notSubmitted => "NOT_SUBMITTED"
  | .prepared => "PREPARED"
  | .broadcasting => "BROADCASTING"
  | .submitted => "SUBMITTED"
  | .submissionUnknown => "SUBMISSION_UNKNOWN"
  | .nodeRejected => "NODE_REJECTED"

/-- The recorded submission status of a transaction a node may have received. -/
def SubmissionStatus.onWire : SubmissionStatus → Bool
  | .broadcasting => true
  | .submissionUnknown => true
  | .submitted => true
  | _ => false

/-- What the chain was last seen to say about an attempt. -/
inductive ChainStatus where
  | unobserved
  | unknown
  | pending
  | proposed
  | committed
  | rejected
  deriving DecidableEq, Repr

/-- The status as it is stored. -/
def ChainStatus.text : ChainStatus → String
  | .unobserved => "UNOBSERVED"
  | .unknown => "UNKNOWN"
  | .pending => "PENDING"
  | .proposed => "PROPOSED"
  | .committed => "COMMITTED"
  | .rejected => "REJECTED"

/-- `Exclude<ChainStatus, "UNOBSERVED">`: the statuses an observation can carry. -/
inductive ObservedStatus where
  | unknown
  | pending
  | proposed
  | committed
  | rejected
  deriving DecidableEq, Repr

/-- The chain status an observation writes. -/
@[simp] def ObservedStatus.chain : ObservedStatus → ChainStatus
  | .unknown => .unknown
  | .pending => .pending
  | .proposed => .proposed
  | .committed => .committed
  | .rejected => .rejected

/-- `["PENDING", "PROPOSED", "COMMITTED"].includes(status)`: the exact transaction was found. -/
def ObservedStatus.found : ObservedStatus → Bool
  | .unknown => false
  | .pending => true
  | .proposed => true
  | .committed => true
  | .rejected => false

@[simp] theorem ObservedStatus.found_unknown : ObservedStatus.unknown.found = false := rfl

@[simp] theorem ObservedStatus.found_pending : ObservedStatus.pending.found = true := rfl

@[simp] theorem ObservedStatus.found_proposed : ObservedStatus.proposed.found = true := rfl

@[simp] theorem ObservedStatus.found_committed : ObservedStatus.committed.found = true := rfl

@[simp] theorem ObservedStatus.found_rejected : ObservedStatus.rejected.found = false := rfl

/-- Where the confirmation of an execution stands. -/
inductive WorkflowStatus where
  | idle
  | reconciling
  | waitingConfirmations
  | confirmed
  | reorged
  | conflicted
  | expired
  deriving DecidableEq, Repr

/-- The status as it is stored. -/
def WorkflowStatus.text : WorkflowStatus → String
  | .idle => "IDLE"
  | .reconciling => "RECONCILING"
  | .waitingConfirmations => "WAITING_CONFIRMATIONS"
  | .confirmed => "CONFIRMED"
  | .reorged => "REORGED"
  | .conflicted => "CONFLICTED"
  | .expired => "EXPIRED"

/-- The one status that is derived from the other three. -/
inductive OverallStatus where
  | created
  | prepared
  | submitting
  | submitted
  | unknown
  | pending
  | proposed
  | committed
  | confirmed
  | reconciling
  | reorged
  | rejected
  | nodeRejected
  | conflicted
  | expired
  deriving DecidableEq, Repr

/-- The status as callers see it. -/
def OverallStatus.text : OverallStatus → String
  | .created => "CREATED"
  | .prepared => "PREPARED"
  | .submitting => "SUBMITTING"
  | .submitted => "SUBMITTED"
  | .unknown => "UNKNOWN"
  | .pending => "PENDING"
  | .proposed => "PROPOSED"
  | .committed => "COMMITTED"
  | .confirmed => "CONFIRMED"
  | .reconciling => "RECONCILING"
  | .reorged => "REORGED"
  | .rejected => "REJECTED"
  | .nodeRejected => "NODE_REJECTED"
  | .conflicted => "CONFLICTED"
  | .expired => "EXPIRED"

/-- Why an attempt was made. -/
inductive AttemptKind where
  | initial
  | rebuild
  | rbfReplacement
  | manualRetry
  deriving DecidableEq, Repr

/-- The kind as it is stored. -/
def AttemptKind.text : AttemptKind → String
  | .initial => "INITIAL"
  | .rebuild => "REBUILD"
  | .rbfReplacement => "RBF_REPLACEMENT"
  | .manualRetry => "MANUAL_RETRY"

/-- What has become of an attempt. -/
inductive AttemptDisposition where
  | active
  | superseded
  | confirmed
  | rejected
  | conflicted
  | abandoned
  deriving DecidableEq, Repr

/-- What an execution is in conflict over. -/
inductive ConflictType where
  | inputConflictSuspected
  | inputSpent
  | expectedCellAssertionFailed
  | reorgConflict
  | signedPayloadMismatch
  | other
  deriving DecidableEq, Repr

/-- The type as it is stored. -/
def ConflictType.text : ConflictType → String
  | .inputConflictSuspected => "INPUT_CONFLICT_SUSPECTED"
  | .inputSpent => "INPUT_SPENT"
  | .expectedCellAssertionFailed => "EXPECTED_CELL_ASSERTION_FAILED"
  | .reorgConflict => "REORG_CONFLICT"
  | .signedPayloadMismatch => "SIGNED_PAYLOAD_MISMATCH"
  | .other => "OTHER"

/-- Whose inputs a conflict concerns. -/
inductive ConflictDomain where
  | application
  | wallet
  | mixed
  | unknown
  deriving DecidableEq, Repr

/-- The domain as it is stored. -/
def ConflictDomain.text : ConflictDomain → String
  | .application => "APPLICATION"
  | .wallet => "WALLET"
  | .mixed => "MIXED"
  | .unknown => "UNKNOWN"

/-- What went wrong with a broadcast. -/
inductive SubmissionErrorType where
  | transportUnknown
  | rpcRejection
  | hashMismatch
  deriving DecidableEq, Repr

/-- The type as it is stored. -/
def SubmissionErrorType.text : SubmissionErrorType → String
  | .transportUnknown => "TRANSPORT_UNKNOWN"
  | .rpcRejection => "RPC_REJECTION"
  | .hashMismatch => "HASH_MISMATCH"

/-- `assertion_status`: the verdicts `evaluateAssertions` reaches. -/
inductive AssertionStatus where
  | pending
  | verified
  | failed
  deriving DecidableEq, Repr

/-- Every kind a state event is recorded under. -/
inductive EventKind where
  | created
  | submissionUpdated
  | transactionAttemptCreated
  | chainObserved
  | reorgDetected
  | confirmed
  | assertionVerified
  | assertionFailed
  | operatorNote
  | settlementReady
  | settlementRevoked
  | competingAttemptConfirmed
  | competingAttemptCommitted
  | signedPayloadMismatch
  | submissionRejectionSuperseded
  | inputContentionGraceExpired
  | inputPoolContentionDetected
  | inputConflictConfirmed
  | inputConflictCorroborationPending
  | inputSpentObserved
  | inputStateInspected
  | inputStateUncertain
  | inputPreflightFailed
  | inputPreflightVerified
  deriving DecidableEq, Repr

/-! ## Inputs -/

/-- `value.toLowerCase()` on ASCII text. -/
def toLowerCase (s : String) : String := String.ofList (s.toList.map Char.toLower)

@[simp] theorem toLowerCase_toLowerCase (s : String) :
    toLowerCase (toLowerCase s) = toLowerCase s := by
  have hchar : Char.toLower ∘ Char.toLower = Char.toLower := by
    funext c
    show c.toLower.toLower = c.toLower
    unfold Char.toLower
    split
    · simp only
      grind
    · rfl
  simp [toLowerCase, hchar]

/-- The order in which the keys of a persisted object enumerate: as the source writes the literal,
or as a `jsonb` column returns it (shorter keys first). -/
inductive KeyOrder where
  | source
  | jsonb
  deriving DecidableEq, Repr

/-- An input by the transaction that made it and its place among the outputs. -/
structure OutPointRef where
  txHash : String
  index : Nat
  keys : KeyOrder
  deriving DecidableEq, Repr

/-- What an input is for. -/
inductive InputRole where
  | applicationState
  | walletFunding
  | fee
  | dependency
  | other
  deriving DecidableEq, Repr

/-- The role as it is stored. -/
def InputRole.text : InputRole → String
  | .applicationState => "APPLICATION_STATE"
  | .walletFunding => "WALLET_FUNDING"
  | .fee => "FEE"
  | .dependency => "DEPENDENCY"
  | .other => "OTHER"

/-- An input with its role, and the resource it stands for if one is named. -/
structure InputRef where
  outPoint : OutPointRef
  role : InputRole
  resourceKey : Option String
  keys : KeyOrder
  deriving DecidableEq, Repr

/-- The object an `OutPointRef` is, keys in its enumeration order. -/
def OutPointRef.toJson (o : OutPointRef) : Json :=
  match o.keys with
  | .source => .obj [("txHash", .str o.txHash), ("index", .int o.index)]
  | .jsonb => .obj [("index", .int o.index), ("txHash", .str o.txHash)]

/-- The object an `InputRef` is, keys in its enumeration order. -/
def InputRef.toJson (r : InputRef) : Json :=
  let resourceKey := (r.resourceKey.map fun k => ("resourceKey", Json.str k)).toList
  match r.keys with
  | .source => .obj ([("outPoint", r.outPoint.toJson), ("role", .str r.role.text)] ++ resourceKey)
  | .jsonb => .obj ([("role", .str r.role.text), ("outPoint", r.outPoint.toJson)] ++ resourceKey)

/-- The value a `jsonb` column returns for a stored `OutPointRef`. -/
def OutPointRef.stored (o : OutPointRef) : OutPointRef := { o with keys := .jsonb }

/-- The value a `jsonb` column returns for a stored `InputRef`. -/
def InputRef.stored (r : InputRef) : InputRef :=
  { r with outPoint := r.outPoint.stored, keys := .jsonb }

@[simp] theorem OutPointRef.stored_stored (o : OutPointRef) : o.stored.stored = o.stored := rfl

@[simp] theorem InputRef.stored_stored (r : InputRef) : r.stored.stored = r.stored := rfl

/-- `stored` is the round trip through the column. -/
theorem OutPointRef.toJson_stored (o : OutPointRef) : o.stored.toJson = o.toJson.jsonb := by
  have hle : Json.keyLe "txHash" "index" = false := by decide
  have hle' : Json.keyLe "index" "txHash" = true := by decide
  cases o with
  | mk txHash index keys =>
      cases keys <;>
        simp [stored, toJson, Json.jsonb, Json.jsonbMembers, Json.insertMember, Json.int, hle, hle']

theorem InputRef.toJson_stored (r : InputRef) : r.stored.toJson = r.toJson.jsonb := by
  have h₁ : Json.keyLe "outPoint" "role" = false := by decide
  have h₂ : Json.keyLe "role" "outPoint" = true := by decide
  have h₃ : Json.keyLe "role" "resourceKey" = true := by decide
  have h₄ : Json.keyLe "outPoint" "resourceKey" = true := by decide
  obtain ⟨outPoint, role, resourceKey, keys⟩ := r
  cases keys <;> cases resourceKey <;>
    simp [stored, toJson, OutPointRef.toJson_stored, Json.jsonb, Json.jsonbMembers,
      Json.insertMember, h₁, h₂, h₃, h₄]

/-- The text `` `${item.txHash.toLowerCase()}:${item.index}` `` the replacement guard compares. -/
def OutPointRef.key (o : OutPointRef) : String :=
  toLowerCase o.txHash ++ ":" ++ toString o.index

@[simp] theorem OutPointRef.key_stored (o : OutPointRef) : o.stored.key = o.key := rfl

/-! ## Snapshots and observations -/

/-- When an execution counts as confirmed: once committed, or under so many blocks. -/
inductive ConfirmationPolicy where
  | committed
  | depth (blocks : Nat)
  deriving DecidableEq, Repr

/-- JavaScript truthiness of an optional string: the empty string counts as absent. -/
def truthy (x : Option String) : Option String := x.filter (· ≠ "")

@[simp] theorem truthy_none : truthy none = none := rfl

@[simp] theorem truthy_truthy (x : Option String) : truthy (truthy x) = truthy x := by
  cases x with
  | none => rfl
  | some s => by_cases h : s = "" <;> simp [truthy, Option.filter, h]

theorem truthy_eq_some {x : Option String} {s : String} :
    truthy x = some s ↔ x = some s ∧ s ≠ "" := by
  cases x with
  | none => simp
  | some t =>
      by_cases h : t = ""
      · subst h
        simp only [truthy, Option.filter, ne_eq, not_true, decide_false, Bool.false_eq_true,
          if_false, Option.some.injEq, reduceCtorEq, false_iff, not_and, not_not]
        rintro rfl
        rfl
      · simp only [truthy, Option.filter, ne_eq, h, not_false_eq_true, decide_true, if_true,
          Option.some.injEq]
        constructor
        · rintro rfl
          exact ⟨rfl, h⟩
        · exact And.left

theorem truthy_some_of_eq {x : Option String} {s : String} (h : truthy x = some s) :
    truthy (some s) = some s := by
  rw [← h, truthy_truthy]

theorem truthy_of_isSome {x : Option String} (h : (truthy x).isSome) : truthy x = x := by
  obtain ⟨s, hs⟩ := Option.isSome_iff_exists.mp h
  rw [hs, (truthy_eq_some.mp hs).1]

theorem truthy_of_named {x : Option String} (h : x ≠ some "") : truthy x = x := by
  cases x with
  | none => rfl
  | some s =>
      have hs : s ≠ "" := fun he => h (by rw [he])
      exact truthy_eq_some.mpr ⟨rfl, hs⟩

theorem or_truthy_named {x y : Option String} (h : y ≠ some "") : (truthy x).or y ≠ some "" := by
  cases hx : truthy x with
  | none => simpa using h
  | some s =>
      have hs : s ≠ "" := (truthy_eq_some.mp hx).2
      simpa using hs

/-- The members of an execution that an observation changes. -/
structure ExecutionSnapshot where
  submissionStatus : SubmissionStatus
  chainStatus : ChainStatus
  workflowStatus : WorkflowStatus
  confirmationPolicy : ConfirmationPolicy
  confirmationCount : Nat
  committedBlockHash : Option String
  committedBlockNumber : Option String
  rejectionReason : Option String
  deriving DecidableEq, Repr

/-- What a node said of a transaction, and when. -/
structure ChainObservation where
  status : ObservedStatus
  observedAt : Int
  raw : Json
  blockHash : Option String
  blockNumber : Option String
  tipBlockNumber : Option String
  rejectionReason : Option String
  priorCommitCanonical : Option Bool

/-- The audit entry a transition proposes. -/
structure TransitionEvent where
  kind : EventKind
  fromOverall : OverallStatus
  toOverall : OverallStatus
  occurredAt : Int
  reason : Option String

/-- What `applyChainObservation` returns. -/
structure ApplyObservationResult where
  snapshot : ExecutionSnapshot
  event : TransitionEvent
  reorgDetected : Bool

/-- The failure evidence a client attaches to a submission outcome. -/
structure SubmissionFailureEvidence where
  errorCode : Option String
  errorType : SubmissionErrorType
  errorMessage : Option String
  conflictType : Option ConflictType
  details : List (String × Json)

/-! ## Errors -/

/-- The error codes the modelled operations raise. -/
inductive CellFlowErrorCode where
  | intentConflict
  | invalidTxHash
  | invalidSignedTransaction
  | transitionInvalid
  | internalError
  | invalidCursor
  | rpcUnavailable
  | inputsNotLive
  | inputsContended
  | inputStateUncertain
  deriving DecidableEq, Repr

/-- A `CellFlowError`. -/
structure CellFlowError where
  code : CellFlowErrorCode
  message : String
  httpStatus : Nat
  deriving DecidableEq, Repr

end CellFlow
