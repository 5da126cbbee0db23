/-
# CellFlow.Assertions.ExpectedCell — expected-Cell checks of `packages/assertions/src/index.ts`.

An assertion names an output of the committed transaction and the fields it must have.  In live mode
the same fields are checked against the live cell the node reports.
-/
import CellFlow.Core.StateMachine

namespace CellFlow

open Js (Json)

/-! ## What a node reports -/

/-- A script as a node returns it. -/
structure RpcScript where
  codeHash : String
  hashType : String
  args : String
  deriving DecidableEq, Repr

/-- An output as a node returns it. -/
structure RpcCellOutput where
  capacity : String
  lock : RpcScript
  type : Option RpcScript
  deriving DecidableEq, Repr

/-- A transaction as a node returns it; `payload` is the whole answer, of which the assertions read
the outputs and their data. -/
structure RpcTransaction where
  outputs : List RpcCellOutput
  outputsData : List String
  payload : Json

/-- `cell.data` of a live cell: a text, or a record with an optional content. -/
inductive RpcCellData where
  | text (content : String)
  | record (content : Option String)
  deriving DecidableEq, Repr

/-- The answer to `get_live_cell`, as far as the assertions read it. -/
structure RpcLiveCell where
  status : String
  blockHash : Option String
  cell : Option (RpcCellOutput × Option RpcCellData)
  deriving DecidableEq, Repr

/-! ## Assertions -/

/-- Whether the Cell need only have been created, or must be live too. -/
inductive AssertionMode where
  | created
  | live
  deriving DecidableEq, Repr

/-- The mode as it is written in results. -/
def AssertionMode.text : AssertionMode → String
  | .created => "created"
  | .live => "live"

/-- What is asserted of a script: each member may be left open. -/
structure ScriptAssertion where
  codeHash : Option String
  hashType : Option String
  args : Option String
  deriving DecidableEq, Repr

/-- `type = some none` is the explicit `null`: the output must have no type script. -/
structure ExpectedCellAssertion where
  outputIndex : Nat
  mode : Option AssertionMode
  capacity : Option String
  lock : Option ScriptAssertion
  type : Option (Option ScriptAssertion)
  data : Option String
  deriving DecidableEq, Repr

/-- One comparison of an assertion, with both values. -/
structure AssertionCheck where
  field : String
  expected : Json
  actual : Json
  ok : Bool

/-- What the comparisons of one assertion came to. -/
structure AssertionResult where
  ok : Bool
  outputIndex : Nat
  mode : AssertionMode
  checks : List AssertionCheck
  evidence : Option (List (String × Json))

/-- A comparison as it is stored. -/
def AssertionCheck.toJson (c : AssertionCheck) : Json :=
  .obj [("field", .str c.field), ("expected", c.expected), ("actual", c.actual), ("ok", .bool c.ok)]

/-- A result as it is stored; the evidence stands last, if there is any. -/
def AssertionResult.toJson (r : AssertionResult) : Json :=
  .obj ([("ok", .bool r.ok), ("outputIndex", .int r.outputIndex), ("mode", .str r.mode.text),
    ("checks", .arr (r.checks.map AssertionCheck.toJson))] ++
    (r.evidence.map fun e => ("evidence", Json.obj e)).toList)

/-- A script under the names a node uses. -/
def RpcScript.toJson (s : RpcScript) : Json :=
  .obj [("code_hash", .str s.codeHash), ("hash_type", .str s.hashType), ("args", .str s.args)]

/-! ## Checks -/

/-- Equality of hex texts up to letter case; an absent side equals only an absent side. -/
def hexEq (a b : Option String) : Bool :=
  match a, b with
  | some a, some b => toLowerCase a = toLowerCase b
  | none, none => true
  | _, _ => false

/-- Equality as integers where both are hex integers, else as hex texts. -/
def integerHexEq (a b : String) : Bool :=
  match parseHexBlockNumber (some a), parseHexBlockNumber (some b) with
  | some left, some right => left = right
  | _, _ => hexEq (some a) (some b)

/-- `prefix` is `lock` or `type`; `actual` is the script the output carries there. -/
def scriptChecks (pre : String) (expected : ScriptAssertion) (actual : Option RpcScript) :
    List AssertionCheck :=
  (match expected.codeHash with
    | some codeHash => [⟨pre ++ ".codeHash", .str codeHash,
        Json.ofOption (actual.map (·.codeHash)), hexEq (some codeHash) (actual.map (·.codeHash))⟩]
    | none => []) ++
  (match expected.hashType with
    | some hashType => [⟨pre ++ ".hashType", .str hashType,
        Json.ofOption (actual.map (·.hashType)), some hashType = actual.map (·.hashType)⟩]
    | none => []) ++
  (match expected.args with
    | some args => [⟨pre ++ ".args", .str args,
        Json.ofOption (actual.map (·.args)), hexEq (some args) (actual.map (·.args))⟩]
    | none => [])

/-- The assertion says something about the output. -/
def assertionHasChecks (assertion : ExpectedCellAssertion) : Bool :=
  assertion.capacity.isSome || assertion.lock.isSome || assertion.type.isSome ||
    assertion.data.isSome

/-- The checks an assertion makes on an output, in order. -/
def outputChecks (output : RpcCellOutput) (data : Option String)
    (assertion : ExpectedCellAssertion) : List AssertionCheck :=
  (match assertion.capacity with
    | some capacity => [⟨"capacity", .str capacity, .str output.capacity,
        integerHexEq capacity output.capacity⟩]
    | none => []) ++
  (match assertion.lock with
    | some lock => scriptChecks "lock" lock (some output.lock)
    | none => []) ++
  (match assertion.type with
    | some none => [⟨"type", .null, (output.type.map RpcScript.toJson).getD .null,
        output.type.isNone⟩]
    | some (some type) => scriptChecks "type" type output.type
    | none => []) ++
  (match assertion.data with
    | some expected => [⟨"data", .str expected, Json.ofOption data, hexEq (some expected) data⟩]
    | none => [])

/-- `verifyCellOutput`: an output that is missing is one failed check. -/
def verifyCellOutput (output : Option RpcCellOutput) (data : Option String)
    (assertion : ExpectedCellAssertion) (mode : AssertionMode) : AssertionResult :=
  match output with
  | none =>
      { ok := false, outputIndex := assertion.outputIndex, mode := mode, evidence := none
        checks := [⟨"outputIndex", .int assertion.outputIndex, .null, false⟩] }
  | some output =>
      if assertionHasChecks assertion = false then
        { ok := false, outputIndex := assertion.outputIndex, mode := mode, evidence := none
          checks := [⟨"assertion", .str "at least one Cell field check", .str "empty", false⟩] }
      else
        let checks := outputChecks output data assertion
        { ok := !checks.isEmpty && checks.all (·.ok), outputIndex := assertion.outputIndex
          mode := mode, checks := checks, evidence := none }

/-- `verifyExpectedCell`: the assertion against the transaction's own output. -/
def verifyExpectedCell (transaction : RpcTransaction) (assertion : ExpectedCellAssertion) :
    AssertionResult :=
  verifyCellOutput transaction.outputs[assertion.outputIndex]?
    transaction.outputsData[assertion.outputIndex]? assertion .created

/-- The data text of a live cell. -/
def RpcCellData.content : RpcCellData → Option String
  | .text content => some content
  | .record content => content

/-- `verifyLiveCell`: the assertion against what the node says is live. -/
def verifyLiveCell (liveCell : Option RpcLiveCell) (assertion : ExpectedCellAssertion) :
    AssertionResult :=
  let notLive : AssertionResult :=
    { ok := false, outputIndex := assertion.outputIndex, mode := .live, evidence := none
      checks := [⟨"live", .bool true, Json.ofOption (liveCell.map (·.status)), false⟩] }
  match liveCell with
  | none => notLive
  | some live =>
      match live.cell with
      | none => notLive
      | some (output, data) =>
          if live.status ≠ "live" then notLive
          else
            { verifyCellOutput (some output) (data.bind RpcCellData.content) assertion .live with
              evidence := some [("liveBlockHash", Json.ofOption live.blockHash)] }

end CellFlow
