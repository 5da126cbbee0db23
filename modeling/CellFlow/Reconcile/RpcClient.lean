/-
# CellFlow.Reconcile.RpcClient — the node client (`workflows/reconcile/src/rpc.ts`).

An endpoint answers JSON-RPC calls; each call of a session has its number, and a call that is
refused, times out or returns no result throws.  `observe` turns the answers about one transaction
into an observation, and claims COMMITTED only for a block it could verify to be canonical.
-/
import CellFlow.Lib.Dialogue
import CellFlow.Core.HexText
import CellFlow.Reconcile.Rpc

namespace CellFlow

open Js (Json)

/-! ## Answers -/

/-- `tx_status` of a transaction. -/
structure RpcTransactionStatus where
  status : String
  blockHash : Option String
  reason : Option String

/-- The answer to `get_transaction`. -/
structure RpcTransactionResult where
  transaction : Option RpcTransaction
  txStatus : Option RpcTransactionStatus

/-- `get_live_cell` without data. -/
structure RpcLiveCellStatus where
  status : Option String
  blockHash : Option String

/-- What one endpoint answers to the n-th call of a session. -/
structure Endpoint where
  url : String
  getBlockchainInfo : Nat → Except String Json
  getTransaction : Nat → String → Except String (Option RpcTransactionResult)
  getBlockHash : Nat → String → Except String (Option String)
  getHeader : Nat → String → Except String Json
  getTipHeader : Nat → Except String Json
  getLiveCell : Nat → OutPointRef → Bool → Except String (Option RpcLiveCellStatus)

/-- A session with one endpoint. -/
abbrev RpcSession (α : Type) : Type := Dialogue Endpoint α

namespace RpcSession

/-- `get_blockchain_info`. -/
def getBlockchainInfo : RpcSession Json := .ask Endpoint.getBlockchainInfo

/-- `get_transaction`. -/
def getTransaction (txHash : String) : RpcSession (Option RpcTransactionResult) :=
  .ask fun endpoint n => endpoint.getTransaction n txHash

/-- `get_block_hash`. -/
def getBlockHash (blockNumber : String) : RpcSession (Option String) :=
  .ask fun endpoint n => endpoint.getBlockHash n blockNumber

/-- `get_header`. -/
def getHeader (blockHash : String) : RpcSession Json :=
  .ask fun endpoint n => endpoint.getHeader n blockHash

/-- `get_tip_header`. -/
def getTipHeader : RpcSession Json := .ask Endpoint.getTipHeader

/-- `get_live_cell`, with the pool counted or not. -/
def getLiveCell (outPoint : OutPointRef) (includeTxPool : Bool) :
    RpcSession (Option RpcLiveCellStatus) :=
  .ask fun endpoint n => endpoint.getLiveCell n outPoint includeTxPool

/-- `session.url`. -/
def url : RpcSession String := fun endpoint n => .ok (endpoint.url, n)

end RpcSession

/-! ## Reading answers -/

/-- The block number of a header: its own, or that of its inner header. -/
def headerNumber (header : Json) : Option String :=
  match header.string? "number" with
  | some number => some number
  | none =>
      match header.get? "inner" with
      | some inner => inner.string? "number"
      | none => none

/-! ## Identity -/

/-- What the endpoint must be of; `none` asks nothing. -/
structure RpcIdentityExpectation where
  chain : Option String
  genesisHash : Option String

/-- The complaint about answers that are not those of the expected chain. -/
def identityError (expected : RpcIdentityExpectation) (info : Json) (genesis : Option String) :
    Option String :=
  let wrongChain :=
    match truthy expected.chain with
    | none => none
    | some chain =>
        if info.string? "chain" = some chain then none
        else some ("RPC endpoint network mismatch: expected " ++ chain ++ ", received " ++
          (info.string? "chain").getD "unknown")
  let wrongGenesis :=
    match truthy expected.genesisHash with
    | none => none
    | some genesisHash =>
        if (normalizeHash (some genesisHash)).isSome ∧
            normalizeHash genesis = normalizeHash (some genesisHash) then none
        else some "RPC endpoint genesis hash mismatch"
  wrongChain.or wrongGenesis

/-- `session.assertIdentity`: the endpoint serves the expected chain. -/
def assertIdentity (expected : RpcIdentityExpectation) : RpcSession Unit := do
  let info ←
    match truthy expected.chain with
    | none => pure Json.null
    | some _ => RpcSession.getBlockchainInfo
  let genesis ←
    match truthy expected.genesisHash with
    | none => pure none
    | some _ => RpcSession.getBlockHash "0x0"
  match identityError expected info genesis with
  | some message => .fail message
  | none => pure ()

/-! ## Inspecting inputs -/

/-- What the chain says of the transaction that made an input. -/
structure CreatorEvidence where
  canonical : Bool
  txStatus : Option String
  blockHash : Option String
  blockNumber : Option String

/-- Whether the transaction that created an input is canonically committed with that output. -/
def creatorCanonicalEvidence (outPoint : OutPointRef) : RpcSession CreatorEvidence := do
  let creator ← RpcSession.getTransaction outPoint.txHash
  let txStatus := (creator.bind (·.txStatus)).map (·.status)
  let blockHash := normalizeHash ((creator.bind (·.txStatus)).bind (·.blockHash))
  match blockHash, creator.bind (·.transaction) with
  | some hash, some transaction =>
      if txStatus ≠ some "committed" ∨ transaction.outputs.length ≤ outPoint.index then
        pure ⟨false, txStatus, blockHash, none⟩
      else do
        let header ← RpcSession.getHeader hash
        match truthy (headerNumber header) with
        | none => pure ⟨false, txStatus, blockHash, none⟩
        | some blockNumber =>
            let canonical ← RpcSession.getBlockHash blockNumber
            pure ⟨normalizeHash canonical = some hash, txStatus, blockHash, some blockNumber⟩
  | _, _ => pure ⟨false, txStatus, blockHash, none⟩

/-- A target of an inspection: an input with its role, or an OutPoint alone. -/
inductive InspectionTarget where
  | outPoint (outPoint : OutPointRef)
  | input (input : InputRef)

/-- An OutPoint alone has no role. -/
def asInputRef : InspectionTarget → InputRef
  | .input input => input
  | .outPoint outPoint =>
      { outPoint := outPoint, role := .other, resourceKey := none, keys := .source }

/-- One pass of the inspection loop. -/
def inspectInput (input : InputRef) : RpcSession InputObservation := do
  let outPoint := input.outPoint
  let canonicalResult ← RpcSession.getLiveCell outPoint false
  let canonicalRpcStatus := (canonicalResult.bind (·.status)).map toLowerCase
  let liveBlockHash := normalizeHash (canonicalResult.bind (·.blockHash))
  if canonicalRpcStatus = some "live" then do
    let poolResult ← RpcSession.getLiveCell outPoint true
    let poolRpcStatus := (poolResult.bind (·.status)).map toLowerCase
    pure
      { outPoint := outPoint
        input := input
        canonical := .live
        poolAware := if poolRpcStatus = some "live" then .available else .unavailable
        canonicalRpcStatus := canonicalRpcStatus
        poolRpcStatus := poolRpcStatus
        creatorTxStatus := none
        creatorBlockHash := none
        creatorBlockNumber := none
        liveBlockHash := liveBlockHash }
  else do
    -- a spent Cell may be reported `unknown`: only its creator still standing proves the spend
    let creator ← creatorCanonicalEvidence outPoint
    pure
      { outPoint := outPoint
        input := input
        canonical := if creator.canonical then .spent else .unknown
        poolAware := .unknown
        canonicalRpcStatus := canonicalRpcStatus
        poolRpcStatus := none
        creatorTxStatus := creator.txStatus
        creatorBlockHash := creator.blockHash
        creatorBlockNumber := creator.blockNumber
        liveBlockHash := liveBlockHash }

/-- The inspection loop. -/
def inspectInputs : List InspectionTarget → RpcSession (List InputObservation)
  | [] => pure []
  | target :: rest => do
      let observed ← inspectInput (asInputRef target)
      let others ← inspectInputs rest
      pure (observed :: others)

/-- Its Cell was made and is no longer live. -/
def isSpent (item : InputObservation) : Bool := item.canonical = .spent

/-- The node could not tell. -/
def isUnknown (item : InputObservation) : Bool := item.canonical = .unknown

/-- Live on chain, and taken in the pool. -/
def isContended (item : InputObservation) : Bool :=
  item.canonical = .live && item.poolAware = .unavailable

/-- The verdict over all inputs: a spend first, then what is unknown, then what is contended. -/
def inspectionState (inputs : List InputObservation) : InputInspectionState :=
  if inputs.filter isSpent ≠ [] then .canonicallySpent
  else if inputs.filter isUnknown ≠ [] then .unknown
  else if inputs.filter isContended ≠ [] then .mempoolContended
  else .allLive

/-- `inspectInputOutPointsOnSession`. -/
def inspectInputOutPointsOnSession (targets : List InspectionTarget) (now : Int) :
    RpcSession InputInspection := do
  let inputs ← inspectInputs targets
  let tip ← RpcSession.getTipHeader
  let url ← RpcSession.url
  pure
    { state := inspectionState inputs
      inputs := inputs
      spentInputs := inputs.filter isSpent
      contendedInputs := inputs.filter isContended
      unknownInputs := inputs.filter isUnknown
      endpoint := url
      observedAt := now
      tipBlockNumber := headerNumber tip }

/-! ## Observing a transaction -/

/-- The recorded commit an observation checks. -/
structure CommitPoint where
  blockHash : String
  blockNumber : String

/-- Whether the recorded block is still the canonical one at its height; only a well-formed answer
says so. -/
def priorCanonical (prior : CommitPoint) (canonical : Option String) : Option Bool :=
  (normalizeHash canonical).map fun hash => decide (some hash = normalizeHash (some prior.blockHash))

/-- `get_block_hash` at the recorded height, where a commit is recorded. -/
def priorCommitCanonical (prior : Option CommitPoint) : RpcSession (Option Bool) :=
  match prior with
  | none => pure none
  | some prior => do
      let canonical ← RpcSession.getBlockHash prior.blockNumber
      pure (priorCanonical prior canonical)

/-- The members of an object literal whose value is defined. -/
def definedMembers (members : List (String × Option Json)) : Json :=
  .obj (members.filterMap fun p => p.2.map fun value => (p.1, value))

/-- The inspection of the inputs of a transaction that was not found. -/
def inspectAbsent (targets : List InspectionTarget) (now : Int) :
    RpcSession (Option InputInspection) :=
  if targets = [] then pure none
  else do
    let inspection ← inspectInputOutPointsOnSession targets now
    pure (some inspection)

/-- The state and inputs of an inspection, as the raw observation keeps them. -/
def InputInspection.toJson (inspection : InputInspection) : Json :=
  .obj [("state", .str inspection.state.text),
    ("inputs", .arr (inspection.inputs.map InputObservation.toJson)),
    ("spentInputs", .arr (inspection.spentInputs.map InputObservation.toJson)),
    ("contendedInputs", .arr (inspection.contendedInputs.map InputObservation.toJson)),
    ("unknownInputs", .arr (inspection.unknownInputs.map InputObservation.toJson)),
    ("endpoint", .str inspection.endpoint),
    ("observedAt", .str (Js.toISOString inspection.observedAt)),
    ("tipBlockNumber", Json.ofOption inspection.tipBlockNumber)]

/-- The answer that the node does not know the transaction, with the inspection of its inputs. -/
def unknownBundle (transaction : Option RpcTransaction) (txStatus : Json) (reason : Option Json)
    (url : String) (prior : Option Bool) (inspection : Option InputInspection) (now : Int) :
    RpcObservationBundle where
  observation :=
    { status := .unknown
      observedAt := now
      raw := definedMembers
        [("txStatus", some txStatus), ("rpcEndpoint", some (.str url)), ("reason", reason),
          ("priorCommitCanonical", prior.map Json.bool),
          ("inputInspection", inspection.map InputInspection.toJson)]
      blockHash := none
      blockNumber := none
      tipBlockNumber := none
      rejectionReason := none
      priorCommitCanonical := prior }
  transaction := transaction
  endpoint := url
  inputInspection := inspection
  committed_named := by simp
  inspected_unknown := fun _ => rfl

/-- What the answers say of the block a transaction is committed in. -/
structure CommitAnswers where
  blockHash : Option String
  blockNumber : Option String
  tipBlockNumber : Option String
  canonicalBlockHash : Option String

namespace CommitAnswers

/-- The block is well formed, canonical at its own height, and not above the tip. -/
def canonicalVerified (answers : CommitAnswers) : Bool :=
  match normalizeHash answers.blockHash, normalizeHash answers.canonicalBlockHash,
      parseHexBlockNumber answers.blockNumber, parseHexBlockNumber answers.tipBlockNumber with
  | some block, some canonical, some blockHeight, some tipHeight =>
      block = canonical && blockHeight ≤ tipHeight
  | _, _, _, _ => false

/-- Why a commit could not be verified. -/
def canonicalEvidence (answers : CommitAnswers) : String :=
  match normalizeHash answers.blockHash, normalizeHash answers.canonicalBlockHash with
  | some block, some canonical => if canonical ≠ block then "NON_CANONICAL" else "UNAVAILABLE"
  | _, _ => "UNAVAILABLE"

theorem canonicalVerified_iff {answers : CommitAnswers} :
    answers.canonicalVerified = true ↔ ∃ hash blockHeight tipHeight,
      normalizeHash answers.blockHash = some hash ∧
        normalizeHash answers.canonicalBlockHash = some hash ∧
        parseHexBlockNumber answers.blockNumber = some blockHeight ∧
        parseHexBlockNumber answers.tipBlockNumber = some tipHeight ∧ blockHeight ≤ tipHeight := by
  unfold canonicalVerified
  split
  next block canonical blockHeight tipHeight hblock hcanonical hheight htip =>
    rw [Bool.and_eq_true, decide_eq_true_eq, decide_eq_true_eq, hblock, hcanonical, hheight, htip]
    constructor
    · rintro ⟨rfl, hle⟩
      exact ⟨_, _, _, rfl, rfl, rfl, rfl, hle⟩
    · rintro ⟨hash, blockHeight', tipHeight', hb, hc, hh, ht, hle⟩
      cases hb
      cases hc
      cases hh
      cases ht
      exact ⟨rfl, hle⟩
  next hnone =>
    refine iff_of_false (by decide) ?_
    rintro ⟨hash, blockHeight, tipHeight, hb, hc, hh, ht, -⟩
    exact hnone _ _ _ _ hb hc hh ht

end CommitAnswers

theorem truthy_of_normalizeHash {value : Option String} {hash : String}
    (h : normalizeHash value = some hash) : (truthy value).isSome := by
  unfold normalizeHash at h
  split at h
  · cases h
  next heq => rw [heq]; rfl

theorem truthy_of_parseHexBlockNumber {value : Option String} {n : Nat}
    (h : parseHexBlockNumber value = some n) : (truthy value).isSome := by
  cases value with
  | none => cases h
  | some text =>
      have hne : text ≠ "" := by
        rintro rfl
        cases h
      simp [truthy, hne]

/-- The answer about a transaction the node calls committed: COMMITTED only where the block was
verified, and otherwise UNKNOWN. -/
def committedBundle (result : RpcTransactionResult) (answers : CommitAnswers) (url : String)
    (prior : Option Bool) (now : Int) : RpcObservationBundle :=
  let raw := [("txStatus", some (.str "committed")), ("rpcEndpoint", some (.str url)),
    ("blockHash", answers.blockHash.map Json.str), ("blockNumber", answers.blockNumber.map Json.str),
    ("tipBlockNumber", answers.tipBlockNumber.map Json.str),
    ("canonicalBlockHash", some (Json.ofOption answers.canonicalBlockHash)),
    ("priorCommitCanonical", prior.map Json.bool)]
  if h : answers.canonicalVerified = true then
    { observation :=
        { status := .committed
          observedAt := now
          raw := definedMembers raw
          blockHash := truthy answers.blockHash
          blockNumber := truthy answers.blockNumber
          tipBlockNumber := truthy answers.tipBlockNumber
          rejectionReason := none
          priorCommitCanonical := prior }
      transaction := result.transaction
      endpoint := url
      inputInspection := none
      committed_named := by
        obtain ⟨_, _, _, hb, -, hh, -⟩ := CommitAnswers.canonicalVerified_iff.mp h
        intro _
        rw [truthy_truthy, truthy_truthy]
        exact ⟨truthy_of_normalizeHash hb, truthy_of_parseHexBlockNumber hh⟩
      inspected_unknown := by simp }
  else
    { observation :=
        { status := .unknown
          observedAt := now
          raw := definedMembers (raw ++ [("canonicalEvidence", some (.str answers.canonicalEvidence))])
          blockHash := none
          blockNumber := none
          tipBlockNumber := none
          rejectionReason := none
          priorCommitCanonical := prior }
      transaction := result.transaction
      endpoint := url
      inputInspection := none
      committed_named := by simp
      inspected_unknown := by simp }

/-- The questions about the block of a transaction the node calls committed. -/
def commitAnswers (blockHash : Option String) : RpcSession CommitAnswers := do
  let header ←
    match truthy blockHash with
    | none => pure Json.null
    | some hash => RpcSession.getHeader hash
  let tip ← RpcSession.getTipHeader
  let canonicalBlockHash ←
    match truthy (headerNumber header) with
    | none => pure none
    | some blockNumber => RpcSession.getBlockHash blockNumber
  pure
    { blockHash := blockHash
      blockNumber := headerNumber header
      tipBlockNumber := headerNumber tip
      canonicalBlockHash := canonicalBlockHash }

/-- The answer about a transaction that is pending, proposed or rejected. -/
def statusBundle (status : ObservedStatus) (hstatus : status ≠ .committed)
    (result : RpcTransactionResult) (txStatus : RpcTransactionStatus) (url : String)
    (prior : Option Bool) (now : Int) : RpcObservationBundle where
  observation :=
    { status := status
      observedAt := now
      raw := definedMembers
        [("txStatus", some (.str txStatus.status)), ("rpcEndpoint", some (.str url)),
          ("reason", some (Json.ofOption txStatus.reason)),
          ("priorCommitCanonical", prior.map Json.bool)]
      blockHash := none
      blockNumber := none
      tipBlockNumber := none
      rejectionReason := if status = .rejected then truthy txStatus.reason else none
      priorCommitCanonical := prior }
  transaction := result.transaction
  endpoint := url
  inputInspection := none
  committed_named := fun h => absurd h hstatus
  inspected_unknown := by simp

/-- `observe` on the endpoint a session was opened with. -/
def observeOnSession (txHash : String) (prior : Option CommitPoint)
    (expected : RpcIdentityExpectation) (targets : List InspectionTarget) (now : Int) :
    RpcSession RpcObservationBundle := do
  assertIdentity expected
  let answer ← RpcSession.getTransaction txHash
  let disproved ← priorCommitCanonical prior
  let url ← RpcSession.url
  match answer with
  | none => do
      let inspection ← inspectAbsent targets now
      pure (unknownBundle none .null none url disproved inspection now)
  | some result =>
      match result.txStatus with
      | none => do
          let inspection ← inspectAbsent targets now
          pure (unknownBundle result.transaction .null none url disproved inspection now)
      | some txStatus =>
          if txStatus.status = "committed" then do
            let answers ← commitAnswers txStatus.blockHash
            pure (committedBundle result answers url disproved now)
          else if txStatus.status = "pending" then
            pure (statusBundle .pending (by decide) result txStatus url disproved now)
          else if txStatus.status = "proposed" then
            pure (statusBundle .proposed (by decide) result txStatus url disproved now)
          else if txStatus.status = "rejected" then
            pure (statusBundle .rejected (by decide) result txStatus url disproved now)
          else do
            let inspection ← inspectAbsent targets now
            pure (unknownBundle result.transaction (.str txStatus.status)
              (some (Json.ofOption txStatus.reason)) url disproved inspection now)

/-! ## The client -/

/-- `withSession`: the first endpoint whose session comes through, in the order of their health. -/
def withSession {α : Type} (operation : RpcSession α) : List Endpoint → Except String α
  | [] => .error "All configured CKB RPC endpoints failed or are cooling down"
  | [endpoint] => operation.run endpoint
  | endpoint :: rest =>
      match operation.run endpoint with
      | .ok result => .ok result
      | .error _ => withSession operation rest

/-- What a client answers, one of its endpoints has answered. -/
theorem withSession_ok {α : Type} {operation : RpcSession α} {endpoints : List Endpoint} {result : α}
    (h : withSession operation endpoints = .ok result) :
    ∃ endpoint ∈ endpoints, operation.run endpoint = .ok result := by
  induction endpoints with
  | nil => cases h
  | cons endpoint rest ih =>
      cases rest with
      | nil => exact ⟨endpoint, List.mem_cons_self .., h⟩
      | cons next rest =>
          rw [withSession] at h
          · cases hfirst : operation.run endpoint with
            | ok answer =>
                rw [hfirst] at h
                exact ⟨endpoint, List.mem_cons_self .., hfirst.trans h⟩
            | error message =>
                rw [hfirst] at h
                obtain ⟨other, hmem, hother⟩ := ih h
                exact ⟨other, List.mem_cons_of_mem _ hmem, hother⟩
          · simp

/-- `observe`: the observation of a transaction on the first endpoint that comes through. -/
def CkbRpcClient.observe (endpoints : List Endpoint) (txHash : String) (prior : Option CommitPoint)
    (expected : RpcIdentityExpectation) (targets : List InspectionTarget) (now : Int) :
    Except String RpcObservationBundle :=
  withSession (observeOnSession txHash prior expected targets now) endpoints

/-- `inspectInputOutPoints`: an inspection of inputs on the first endpoint that comes through. -/
def CkbRpcClient.inspectInputOutPoints (endpoints : List Endpoint)
    (targets : List InspectionTarget) (expected : RpcIdentityExpectation) (now : Int) :
    Except String InputInspection :=
  withSession
    (do
      assertIdentity expected
      inspectInputOutPointsOnSession targets now)
    endpoints

/-- The canonicality of one block on the endpoint that named it. -/
def verifyCanonicalBlockOnSession (blockHash : String) : RpcSession CanonicalBlock := do
  let header ← RpcSession.getHeader blockHash
  match truthy (headerNumber header) with
  | none => pure ⟨none, none, none⟩
  | some blockNumber =>
      let canonicalBlockHash ← RpcSession.getBlockHash blockNumber
      match truthy canonicalBlockHash with
      | none => pure ⟨none, some blockNumber, none⟩
      | some canonical =>
          pure ⟨some (toLowerCase canonical = toLowerCase blockHash), some blockNumber,
            some canonical⟩

/-- `verifyCanonicalBlockAt`: the check on the endpoint that is named, if it is configured. -/
def CkbRpcClient.verifyCanonicalBlockAt (urls : List String) (endpoint : Endpoint)
    (blockHash : String) : Except String CanonicalBlock :=
  if endpoint.url ∉ urls then .error "Requested canonicality endpoint is not configured"
  else (verifyCanonicalBlockOnSession blockHash).run endpoint

end CellFlow
