/-
# CellFlow.Reconcile.Evidence — what the reconciler gathers around one observation.

The helpers of `workflows/reconcile/src/reconcile.ts`: the details of a contended input, the
corroboration of a canonical spend by a second endpoint, and the evaluation of the expected Cells.
What the RPC layer answers, the settings and the clock are a `ReconcileEnv`.
-/
import CellFlow.Reconcile.Rpc
import CellFlow.Reconcile.Monitoring

namespace CellFlow

open Js (Json toISOString parseISOString)

/-! ## The environment of one reconciliation -/

/-- The answers of the RPC layer, the configured endpoints, the settings and the clock.  `observe`
is the answer about the projected hash, `observeCandidate` the answer the candidate scan gets; the
lookups for the expected Cells carry the number of results recorded before them. -/
structure ReconcileEnv where
  urls : List String
  settings : ReconcileSettings
  nowMs : Int
  observe : String → Except String RpcObservationBundle
  observeCandidate : String → Except String RpcObservationBundle
  inspectAt : String → Except String InputInspection
  liveCell : Nat → Nat → Except String (Option RpcLiveCell)
  canonicalBlock : Nat → String → Except String CanonicalBlock
  fingerprint : RpcTransaction → Option String

/-- `setWorkflowStatus(snapshot, "CONFLICTED")`. -/
def conflictedSnapshot (snapshot : ExecutionSnapshot) : ExecutionSnapshot :=
  { snapshot with workflowStatus := .conflicted }

theorem setWorkflowStatus_conflicted (snapshot : ExecutionSnapshot) :
    setWorkflowStatus snapshot .conflicted = .ok (conflictedSnapshot snapshot) := rfl

/-! ## Conflict details -/

/-- What a conflict is evidence of: a spend on the chain, or a contender in the pool. -/
inductive ConflictMode where
  | spent
  | contended
  deriving DecidableEq, Repr

/-- The semantic domain of the inputs in conflict. -/
def inputConflictDomain (inspection : InputInspection) (mode : ConflictMode) : ConflictDomain :=
  let observations :=
    match mode with
    | .spent => inspection.spentInputs
    | .contended => inspection.contendedInputs
  let application := observations.any fun o => o.input.role = .applicationState
  let wallet := observations.any fun o => o.input.role = .walletFunding || o.input.role = .fee
  let unknown := observations.any fun o => o.input.role = .dependency || o.input.role = .other
  if application && wallet then .mixed
  else if application && !unknown then .application
  else if wallet && !unknown then .wallet
  else .unknown

/-- The observations as the evidence has them. -/
def observationsJson (observations : List InputObservation) : Json :=
  .arr (observations.map InputObservation.toJson)

/-- The details of a contended input; the second component is `graceExpired`. -/
def contentionDetails (settings : ReconcileSettings) (prior : Json) (inspection : InputInspection) :
    Json × Bool :=
  let sameContention := prior.string? "classification" = some "MEMPOOL_CONTENDED"
  let observedAt := toISOString inspection.observedAt
  let firstObservedAt :=
    match prior.string? "firstObservedAt" with
    | some first => if sameContention then first else observedAt
    | none => observedAt
  let graceMs : Js.Number :=
    match prior.number? "graceMs" with
    | some stored => if sameContention then stored else .ofInt (contentionGraceMs settings)
    | none => .ofInt (contentionGraceMs settings)
  let baseMs := (parseISOString firstObservedAt).getD inspection.observedAt
  let graceExpired := decide (baseMs + graceMs.floor ≤ inspection.observedAt)
  (.obj
    [("source", .str "reconciliation"),
      ("classification", .str "MEMPOOL_CONTENDED"),
      ("canonicalSpendConfirmed", .bool false),
      ("firstObservedAt", .str firstObservedAt),
      ("lastObservedAt", .str observedAt),
      ("observedAt", .str observedAt),
      ("graceMs", .num graceMs),
      ("graceExpiresAt", .str (toISOString (baseMs + graceMs.floor))),
      ("graceExpired", .bool graceExpired),
      ("tipBlockNumber", Json.ofOption inspection.tipBlockNumber),
      ("inputDomain", .str (inputConflictDomain inspection .contended).text),
      ("contendedInputs", observationsJson inspection.contendedInputs),
      ("inputs", observationsJson inspection.inputs)],
    graceExpired)

/-! ## Corroboration of a canonical spend -/

/-- What the other endpoints say of a spend. -/
structure Corroboration where
  confirmed : Bool
  requiredEndpoints : Nat
  observations : List Json

/-- One entry of the corroboration record. -/
def corroborationEntry (endpoint : String) (inspection : InputInspection) : Json :=
  .obj [("endpoint", .str endpoint), ("state", .str inspection.state.text),
    ("observedAt", .str (toISOString inspection.observedAt))]

/-- The endpoints are asked in turn until one other than the primary confirms the spend. -/
def corroborateAt (env : ReconcileEnv) (primary : String) :
    List String → List Json → Bool × List Json
  | [], observations => (false, observations)
  | endpoint :: rest, observations =>
      if endpoint = primary then corroborateAt env primary rest observations
      else
        match env.inspectAt endpoint with
        | .error message =>
            corroborateAt env primary rest (observations ++
              [.obj [("endpoint", .str endpoint), ("state", .str "RPC_UNAVAILABLE"),
                ("error", .str message)]])
        | .ok secondary =>
            let observations := observations ++ [corroborationEntry endpoint secondary]
            if secondary.state = .canonicallySpent then (true, observations)
            else corroborateAt env primary rest observations

/-- `corroborateCanonicalSpend`: with one endpoint its word is enough, else two must agree. -/
def corroborateCanonicalSpend (env : ReconcileEnv) (primary : InputInspection) : Corroboration :=
  let unique := env.urls.eraseDups
  let observations := [corroborationEntry primary.endpoint primary]
  if unique.length < 2 then
    { confirmed := primary.state = .canonicallySpent, requiredEndpoints := 1
      observations := observations }
  else
    let asked := corroborateAt env primary.endpoint unique observations
    { confirmed := asked.1, requiredEndpoints := 2, observations := asked.2 }

/-- A corroboration as the evidence has it. -/
def Corroboration.toJson (c : Corroboration) : Json :=
  .obj [("confirmed", .bool c.confirmed), ("requiredEndpoints", .int c.requiredEndpoints),
    ("observations", .arr c.observations)]

/-! ## Expected-Cell assertions -/

/-- What an evaluation of the assertions finds: its status, the results, and why it failed. -/
structure Evaluation where
  status : AssertionStatus
  results : Option (List AssertionResult)
  reason : Option String

/-- The live result once its block was looked up. -/
def withCanonicalCheck (liveResult : AssertionResult) (endpoint blockHash : String)
    (canonical : CanonicalBlock) : AssertionResult :=
  let answer := (canonical.canonical.map Json.bool).getD .null
  { liveResult with
    evidence := some (Json.members (Json.spread (liveResult.evidence.getD [])
      [("liveBlockHash", .str blockHash),
        ("liveBlockNumber", Json.ofOption canonical.blockNumber),
        ("canonicalBlockHash", Json.ofOption canonical.canonicalBlockHash),
        ("canonicalAtObservation", answer),
        ("rpcEndpoint", .str endpoint)]))
    checks := liveResult.checks ++
      [⟨"live.blockHashCanonical", .bool true, answer, canonical.canonical = some true⟩]
    ok := liveResult.ok && canonical.canonical = some true }

/-- The assertions still to check, after those that gave `results`. -/
def evaluateFrom (env : ReconcileEnv) (endpoint : String) (transaction : RpcTransaction) :
    List ExpectedCellAssertion → List AssertionResult → Evaluation
  | [], results => ⟨.verified, some results, none⟩
  | assertion :: rest, results =>
      let created := verifyExpectedCell transaction assertion
      let results := results ++ [created]
      if created.ok = false then
        ⟨.failed, some results,
          some "Committed transaction did not create the expected Cell state"⟩
      else if assertion.mode.getD .created ≠ .live then
        evaluateFrom env endpoint transaction rest results
      else
        match env.liveCell results.length assertion.outputIndex with
        | .error _ => ⟨.pending, none, none⟩
        | .ok live =>
            let liveResult := verifyLiveCell live assertion
            if liveResult.ok = false then
              ⟨.failed, some (results ++ [liveResult]), some "Expected output Cell is not live or no longer matches the asserted state"⟩
            else
              match truthy (live.bind (·.blockHash)) with
              | none => evaluateFrom env endpoint transaction rest (results ++ [liveResult])
              | some blockHash =>
                  match env.canonicalBlock results.length blockHash with
                  | .error _ => ⟨.pending, none, none⟩
                  | .ok canonical =>
                      let results :=
                        results ++ [withCanonicalCheck liveResult endpoint blockHash canonical]
                      match canonical.canonical with
                      | some true => evaluateFrom env endpoint transaction rest results
                      | some false =>
                          ⟨.failed, some results, some "Expected live Cell was reported from a block that is no longer canonical"⟩
                      | none =>
                          ⟨.pending, some results, some "Live Cell block canonicality could not yet be verified"⟩

/-- `evaluateAssertions`: pending without the transaction, else one result for each assertion. -/
def evaluateAssertions (env : ReconcileEnv) (endpoint : String)
    (transaction : Option RpcTransaction) (assertions : List ExpectedCellAssertion) : Evaluation :=
  match transaction with
  | none => ⟨.pending, none, none⟩
  | some transaction => evaluateFrom env endpoint transaction assertions []

/-- The results as the `assertion_results` column has them. -/
def resultsJson (results : Option (List AssertionResult)) : Option Json :=
  results.map fun results => .arr (results.map AssertionResult.toJson)

end CellFlow
