/-
# CellFlow.Reconcile.Rpc — what the node client hands to the reconciler.

The answers of `CkbRpcClient` (`workflows/reconcile/src/rpc.ts`): one observation of a transaction
with the inspection of its inputs where the transaction was absent, the inspection of one chosen
endpoint, live cells and the canonicality of their blocks.  A call that throws is an `Except` with
the message of the error.
-/
import CellFlow.Assertions.ExpectedCell
import CellFlow.Core.ConflictEvidence

namespace CellFlow

open Js (Json toISOString)

/-! ## Input inspections -/

/-- What the chain says of an input. -/
inductive CanonicalInputState where
  | live
  | spent
  | unknown
  deriving DecidableEq, Repr

/-- The text of a state in the evidence. -/
def CanonicalInputState.text : CanonicalInputState → String
  | .live => "LIVE"
  | .spent => "SPENT"
  | .unknown => "UNKNOWN"

/-- What the pool says of an input. -/
inductive PoolInputState where
  | available
  | unavailable
  | unknown
  deriving DecidableEq, Repr

/-- The text of a state in the evidence. -/
def PoolInputState.text : PoolInputState → String
  | .available => "AVAILABLE"
  | .unavailable => "UNAVAILABLE"
  | .unknown => "UNKNOWN"

/-- What an inspection finds of all the inputs together. -/
inductive InputInspectionState where
  | allLive
  | mempoolContended
  | canonicallySpent
  | unknown
  deriving DecidableEq, Repr

/-- The text of a state in the evidence. -/
def InputInspectionState.text : InputInspectionState → String
  | .allLive => "ALL_LIVE"
  | .mempoolContended => "MEMPOOL_CONTENDED"
  | .canonicallySpent => "CANONICALLY_SPENT"
  | .unknown => "UNKNOWN"

/-- What was seen of one input, with and without the pool. -/
structure InputObservation where
  outPoint : OutPointRef
  input : InputRef
  canonical : CanonicalInputState
  poolAware : PoolInputState
  canonicalRpcStatus : Option String
  poolRpcStatus : Option String
  creatorTxStatus : Option String
  creatorBlockHash : Option String
  creatorBlockNumber : Option String
  liveBlockHash : Option String
  deriving DecidableEq, Repr

/-- An observation as the evidence has it. -/
def InputObservation.toJson (i : InputObservation) : Json :=
  .obj [("outPoint", i.outPoint.toJson), ("input", i.input.toJson),
    ("canonical", .str i.canonical.text), ("poolAware", .str i.poolAware.text),
    ("canonicalRpcStatus", Json.ofOption i.canonicalRpcStatus),
    ("poolRpcStatus", Json.ofOption i.poolRpcStatus),
    ("creatorTxStatus", Json.ofOption i.creatorTxStatus),
    ("creatorBlockHash", Json.ofOption i.creatorBlockHash),
    ("creatorBlockNumber", Json.ofOption i.creatorBlockNumber),
    ("liveBlockHash", Json.ofOption i.liveBlockHash)]

/-- `inspectInputs`: what was seen of every input, at one endpoint and one tip. -/
structure InputInspection where
  state : InputInspectionState
  inputs : List InputObservation
  spentInputs : List InputObservation
  contendedInputs : List InputObservation
  unknownInputs : List InputObservation
  endpoint : String
  observedAt : Int
  tipBlockNumber : Option String
  deriving DecidableEq, Repr

/-- The part the conflict evidence keeps. -/
def InputInspection.evidence (i : InputInspection) : ConflictInputInspection where
  observedAt := i.observedAt
  tipBlockNumber := i.tipBlockNumber
  inputs := i.inputs.map InputObservation.toJson

/-! ## Observations -/

/-- The result of observing one transaction.  `observe` answers COMMITTED only for a named canonical
block at a known height, and inspects the inputs only where it answers UNKNOWN. -/
structure RpcObservationBundle where
  observation : ChainObservation
  transaction : Option RpcTransaction
  endpoint : String
  inputInspection : Option InputInspection
  committed_named : observation.status = .committed →
    (truthy observation.blockHash).isSome ∧ (truthy observation.blockNumber).isSome
  inspected_unknown : inputInspection.isSome → observation.status = .unknown

/-- The answer to a canonicality query about one block. -/
structure CanonicalBlock where
  canonical : Option Bool
  blockNumber : Option String
  canonicalBlockHash : Option String
  deriving DecidableEq, Repr

end CellFlow
