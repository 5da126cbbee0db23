/-
# CellFlow.Api.Preflight — the check of the inputs before a broadcast.

`service.preflight` of `apps/api/src/service.ts`: the recorded inputs are inspected on one node, and
the answer is written down either way.  Only where every input is live and free does the request
return.
-/
import CellFlow.Api.Machine
import CellFlow.Reconcile.RpcClient
import CellFlow.Db.PublicView

namespace CellFlow

open Js (Json)

/-- An error of a preflight; `details.inspectionState` where an inspection is the reason. -/
structure PreflightError where
  error : CellFlowError
  inspectionState : Option InputInspectionState

/-- The inputs to inspect: those with roles where they are recorded, else the bare OutPoints. -/
def preflightInputs (execution : ExecutionRecord) : List InspectionTarget :=
  if execution.inputRefs ≠ [] then execution.inputRefs.map .input
  else execution.inputOutPoints.map .outPoint

/-- What the event keeps of a failed inspection. -/
def uncertainObservation (message : String) : Json :=
  .obj [("state", .str "RPC_UNCERTAIN"), ("error", .str message)]

/-- The message of an execution that preflight blocks, by what the inspection found. -/
def blockedMessage (state : InputInspectionState) : String :=
  "Input preflight blocked broadcast: " ++ state.text

/-- The error a state other than ALL_LIVE throws. -/
def preflightBlocked (state : InputInspectionState) : PreflightError where
  error :=
    { code :=
        match state with
        | .mempoolContended => .inputsContended
        | .canonicallySpent => .inputsNotLive
        | _ => .inputStateUncertain
      message := blockedMessage state
      httpStatus := if state = .unknown then 503 else 409 }
  inspectionState := some state

/-- What a preflight refuses before it asks a node. -/
def preflightGuard (endpoints : List Endpoint) (execution : ExecutionRecord) :
    Except PreflightError Unit :=
  if truthy execution.txHash = none then
    .error ⟨⟨.invalidTxHash, "Intent has no prepared transaction hash", 400⟩, none⟩
  else if execution.inputOutPoints = [] ∧ execution.inputRefs = [] then
    .error ⟨⟨.invalidSignedTransaction,
      "Input preflight requires the prepared transaction input OutPoints", 409⟩, none⟩
  else if endpoints = [] then
    .error ⟨⟨.rpcUnavailable, "No CKB RPC endpoint configured", 503⟩, none⟩
  else .ok ()

/-- `service.preflight` on the aggregate `getIntent` has read: the store it leaves, with what it
returns or throws. -/
def servicePreflight (endpoints : List Endpoint) (expected : RpcIdentityExpectation)
    (aggregate : IntentAggregate) (now : Int) (db : Store) :
    Store × Except PreflightError PublicView :=
  let status := deriveOverallStatus (snapshotFromExecution aggregate.execution)
  match preflightGuard endpoints aggregate.execution with
  | .error e => (db, .error e)
  | .ok () =>
      match CkbRpcClient.inspectInputOutPoints endpoints (preflightInputs aggregate.execution)
          expected now with
      | .error message =>
          (appendEvent aggregate .inputPreflightFailed status status
              "Direct CKB RPC input preflight could not obtain trustworthy evidence"
              (some (uncertainObservation message)) now db,
            .error ⟨⟨.rpcUnavailable, message, 503⟩, none⟩)
      | .ok inspection =>
          if inspection.state ≠ .allLive then
            (appendEvent aggregate .inputPreflightFailed status status
                (blockedMessage inspection.state) (some inspection.toJson) now db,
              .error (preflightBlocked inspection.state))
          else
            (appendEvent aggregate .inputPreflightVerified status status
                "All original input OutPoints are canonically live and available against tx-pool state"
                (some inspection.toJson) now db,
              .ok (executionPublicView aggregate))

/-- **A preflight is one step of the machine**, or writes nothing. -/
theorem servicePreflight_commit (endpoints : List Endpoint) (expected : RpcIdentityExpectation)
    (view : IntentAggregate) (now : Int) (db : Store) :
    (servicePreflight endpoints expected view now db).1 = db ∨
      ∃ verified reason raw, (Op.preflight verified reason raw now).commit view db =
        some (servicePreflight endpoints expected view now db).1 := by
  unfold servicePreflight
  cases preflightGuard endpoints view.execution with
  | error e => exact Or.inl rfl
  | ok _ =>
      right
      simp only
      cases CkbRpcClient.inspectInputOutPoints endpoints (preflightInputs view.execution) expected
          now with
      | error message => exact ⟨false, _, _, rfl⟩
      | ok inspection =>
          simp only
          split
          · exact ⟨false, _, _, rfl⟩
          · exact ⟨true, _, _, rfl⟩

end CellFlow
