/-
# CellFlow.Properties.InputPreflight — an input preflight is fail-closed.

A broadcast waits for a preflight, so an input must never pass for available on an answer that was
missing.  The inspection loop asks about every recorded input in order; what an input is called goes
back to answers the node gave in the same session, and the preflight returns only where every input
is available.
-/
import CellFlow.Api.Preflight
import CellFlow.Api.Scenario

namespace CellFlow

open Js (Json)

/-! ## What an input is called -/

/-- Live canonically, and not taken by the pool. -/
def isAvailable (item : InputObservation) : Bool :=
  item.canonical = .live && item.poolAware = .available

section Answers

variable (endpoint : Endpoint) (n : Nat) (outPoint : OutPointRef)

/-- The n-th call asked about the Cell, with or without the pool, and the answer was `live`. -/
def SaidLive (includeTxPool : Bool) : Prop :=
  ∃ answer status, endpoint.getLiveCell n outPoint includeTxPool = .ok answer ∧
    answer.bind (·.status) = some status ∧ toLowerCase status = "live"

/-- The n-th call asked about the canonical Cell, and the answer was not `live`. -/
def SaidNotLive : Prop :=
  ∃ answer, endpoint.getLiveCell n outPoint false = .ok answer ∧
    (answer.bind (·.status)).map toLowerCase ≠ some "live"

/-- From the n-th call on, the node said that the creator is committed with an output at the index,
in a block whose hash is the canonical one at its height. -/
def CreatorStands : Prop :=
  ∃ result status transaction hash header number answer,
    endpoint.getTransaction n outPoint.txHash = .ok (some result) ∧
    result.txStatus = some status ∧ status.status = "committed" ∧
    result.transaction = some transaction ∧ outPoint.index < transaction.outputs.length ∧
    normalizeHash status.blockHash = some hash ∧
    endpoint.getHeader (n + 1) hash = .ok header ∧ truthy (headerNumber header) = some number ∧
    endpoint.getBlockHash (n + 2) number = .ok answer ∧ normalizeHash answer = some hash

end Answers

/-- One inspected input: it is called one thing, and the endpoint has said why. -/
structure BornOut (endpoint : Endpoint) (item : InputObservation) : Prop where
  outPoint : item.outPoint = item.input.outPoint
  verdict : (isSpent item).toNat + (isUnknown item).toNat + (isContended item).toNat +
    (isAvailable item).toNat = 1
  available : isAvailable item = true → ∃ n,
    SaidLive endpoint n item.outPoint false ∧ SaidLive endpoint (n + 1) item.outPoint true
  spent : isSpent item = true → ∃ n,
    SaidNotLive endpoint n item.outPoint ∧ CreatorStands endpoint (n + 1) item.outPoint

/-! ## The inspection loop -/

section Inspection

variable {endpoint : Endpoint} {n m : Nat}

theorem creatorCanonicalEvidence_stands {outPoint : OutPointRef} {evidence : CreatorEvidence}
    (h : creatorCanonicalEvidence outPoint endpoint n = .ok (evidence, m))
    (hcanonical : evidence.canonical = true) : CreatorStands endpoint n outPoint := by
  unfold creatorCanonicalEvidence at h
  obtain ⟨creator, k, hasked, h⟩ := Dialogue.bind_ok.mp h
  obtain ⟨hcreator, rfl⟩ := Dialogue.ask_ok.mp hasked
  cases hhash : normalizeHash ((creator.bind (·.txStatus)).bind (·.blockHash)) with
  | none =>
      simp only [hhash] at h
      obtain ⟨rfl, -⟩ := Dialogue.pure_ok.mp h
      cases hcanonical
  | some hash =>
      cases htransaction : creator.bind (·.transaction) with
      | none =>
          simp only [hhash, htransaction] at h
          obtain ⟨rfl, -⟩ := Dialogue.pure_ok.mp h
          cases hcanonical
      | some transaction =>
          simp only [hhash, htransaction] at h
          split_ifs at h with hbad
          · obtain ⟨rfl, -⟩ := Dialogue.pure_ok.mp h
            cases hcanonical
          · obtain ⟨header, k, hasked, h⟩ := Dialogue.bind_ok.mp h
            obtain ⟨hheader, rfl⟩ := Dialogue.ask_ok.mp hasked
            cases hnumber : truthy (headerNumber header) with
            | none =>
                simp only [hnumber] at h
                obtain ⟨rfl, -⟩ := Dialogue.pure_ok.mp h
                cases hcanonical
            | some number =>
                simp only [hnumber] at h
                obtain ⟨answer, k, hasked, h⟩ := Dialogue.bind_ok.mp h
                obtain ⟨hanswer, rfl⟩ := Dialogue.ask_ok.mp hasked
                obtain ⟨rfl, -⟩ := Dialogue.pure_ok.mp h
                have hsame : normalizeHash answer = some hash := of_decide_eq_true hcanonical
                obtain ⟨hstatus, hindex⟩ := not_or.mp hbad
                obtain ⟨status, hsome, hcommitted⟩ := Option.map_eq_some_iff.mp (not_not.mp hstatus)
                obtain ⟨result, rfl, hresult⟩ := Option.bind_eq_some_iff.mp hsome
                have hblock : normalizeHash status.blockHash = some hash := by
                  rw [← hhash]
                  simp [hresult]
                exact ⟨result, status, transaction, hash, header, number, answer, hcreator, hresult,
                  hcommitted, htransaction, not_le.mp hindex, hblock, hheader, hnumber, hanswer,
                  hsame⟩

/-- An answer that is `live`, with its text. -/
theorem saidLive_of_map {outPoint : OutPointRef} {includeTxPool : Bool}
    {answer : Option RpcLiveCellStatus}
    (hanswer : endpoint.getLiveCell n outPoint includeTxPool = .ok answer)
    (hlive : (answer.bind (·.status)).map toLowerCase = some "live") :
    SaidLive endpoint n outPoint includeTxPool := by
  obtain ⟨status, hstatus, hlower⟩ := Option.map_eq_some_iff.mp hlive
  exact ⟨answer, status, hanswer, hstatus, hlower⟩

/-- **One input**: whatever it is called rests on what the endpoint said of it. -/
theorem inspectInput_bornOut {input : InputRef} {item : InputObservation}
    (h : inspectInput input endpoint n = .ok (item, m)) :
    item.input = input ∧ BornOut endpoint item := by
  unfold inspectInput at h
  obtain ⟨answer, k, hasked, h⟩ := Dialogue.bind_ok.mp h
  obtain ⟨hanswer, rfl⟩ := Dialogue.ask_ok.mp hasked
  split_ifs at h with hlive
  · obtain ⟨poolAnswer, k, hasked, h⟩ := Dialogue.bind_ok.mp h
    obtain ⟨hpool, rfl⟩ := Dialogue.ask_ok.mp hasked
    obtain ⟨rfl, -⟩ := Dialogue.pure_ok.mp h
    refine ⟨rfl, rfl, ?_, fun havailable => ⟨n, saidLive_of_map hanswer hlive, ?_⟩, ?_⟩
    · by_cases hpoolLive : (poolAnswer.bind (·.status)).map toLowerCase = some "live"
      · simp only [isSpent, isUnknown, isContended, isAvailable, if_pos hpoolLive]
        rfl
      · simp only [isSpent, isUnknown, isContended, isAvailable, if_neg hpoolLive]
        rfl
    · apply saidLive_of_map hpool
      by_contra hno
      simp only [isAvailable, if_neg hno] at havailable
      exact absurd havailable (by decide)
    · intro hspent
      simp [isSpent] at hspent
  · obtain ⟨creator, k, hcreator, h⟩ := Dialogue.bind_ok.mp h
    obtain ⟨rfl, -⟩ := Dialogue.pure_ok.mp h
    refine ⟨rfl, rfl, ?_, ?_, fun hspent => ⟨n, ⟨answer, hanswer, hlive⟩, ?_⟩⟩
    · by_cases hcanonical : creator.canonical = true
      · simp [isSpent, isUnknown, isContended, isAvailable, hcanonical]
      · simp [isSpent, isUnknown, isContended, isAvailable, hcanonical]
    · intro havailable
      by_cases hcanonical : creator.canonical = true
      · simp [isAvailable, hcanonical] at havailable
      · simp [isAvailable, hcanonical] at havailable
    · apply creatorCanonicalEvidence_stands hcreator
      by_contra hno
      simp [isSpent, hno] at hspent

/-- **The loop** inspects every input, in order. -/
theorem inspectInputs_bornOut {targets : List InspectionTarget} {items : List InputObservation}
    (h : inspectInputs targets endpoint n = .ok (items, m)) :
    items.map (·.input) = targets.map asInputRef ∧ ∀ item ∈ items, BornOut endpoint item := by
  induction targets generalizing n m items with
  | nil =>
      obtain ⟨rfl, -⟩ := Dialogue.pure_ok.mp h
      simp
  | cons target rest ih =>
      unfold inspectInputs at h
      obtain ⟨observed, k, hobserved, h⟩ := Dialogue.bind_ok.mp h
      obtain ⟨others, k', hothers, h⟩ := Dialogue.bind_ok.mp h
      obtain ⟨rfl, -⟩ := Dialogue.pure_ok.mp h
      obtain ⟨hinput, hevidenced⟩ := inspectInput_bornOut hobserved
      obtain ⟨hinputs, hall⟩ := ih hothers
      constructor
      · rw [List.map_cons, List.map_cons, hinput, hinputs]
      · exact List.forall_mem_cons.mpr ⟨hevidenced, hall⟩

end Inspection

/-! ## The verdict -/

/-- An inspection of some inputs: one observation for each, in order, split by what the input is
called, under a verdict that every input has a part in. -/
structure FailClosed (endpoint : Endpoint) (targets : List InspectionTarget)
    (inspection : InputInspection) : Prop where
  inputs : inspection.inputs.map (·.input) = targets.map asInputRef
  evidenced : ∀ item ∈ inspection.inputs, BornOut endpoint item
  spent : inspection.spentInputs = inspection.inputs.filter isSpent
  unknown : inspection.unknownInputs = inspection.inputs.filter isUnknown
  contended : inspection.contendedInputs = inspection.inputs.filter isContended
  allLive : inspection.state = .allLive ↔ ∀ item ∈ inspection.inputs, isAvailable item = true
  canonicallySpent :
    inspection.state = .canonicallySpent ↔ ∃ item ∈ inspection.inputs, isSpent item = true
  mempoolContended : inspection.state = .mempoolContended ↔
    (∀ item ∈ inspection.inputs, isSpent item = false ∧ isUnknown item = false) ∧
      ∃ item ∈ inspection.inputs, isContended item = true

section Verdict

variable {endpoint : Endpoint} {items : List InputObservation}

/-- An input that is nothing else is available. -/
theorem BornOut.available_iff {item : InputObservation} (h : BornOut endpoint item) :
    isAvailable item = true ↔
      isSpent item = false ∧ isUnknown item = false ∧ isContended item = false := by
  have hone := h.verdict
  cases hs : isSpent item <;> cases hu : isUnknown item <;> cases hc : isContended item <;>
    cases ha : isAvailable item <;> simp [hs, hu, hc, ha] at hone ⊢

theorem filter_ne_nil_iff {p : InputObservation → Bool} :
    items.filter p ≠ [] ↔ ∃ item ∈ items, p item = true := by
  rw [ne_eq, List.filter_eq_nil_iff]
  simp

theorem filter_nil_iff {p : InputObservation → Bool} :
    ¬ items.filter p ≠ [] ↔ ∀ item ∈ items, p item = false := by
  rw [not_not, List.filter_eq_nil_iff]
  simp

/-- **The state** follows from what the inputs are called, worst first. -/
theorem inspectionState_cases (items : List InputObservation) :
    ((∃ item ∈ items, isSpent item = true) ∧ inspectionState items = .canonicallySpent) ∨
    (∀ item ∈ items, isSpent item = false) ∧
      (((∃ item ∈ items, isUnknown item = true) ∧ inspectionState items = .unknown) ∨
      (∀ item ∈ items, isUnknown item = false) ∧
        (((∃ item ∈ items, isContended item = true) ∧
          inspectionState items = .mempoolContended) ∨
        (∀ item ∈ items, isContended item = false) ∧ inspectionState items = .allLive)) := by
  unfold inspectionState
  split_ifs with hspent hunknown hcontended
  · exact Or.inl ⟨filter_ne_nil_iff.mp hspent, rfl⟩
  · exact Or.inr ⟨filter_nil_iff.mp hspent, Or.inl ⟨filter_ne_nil_iff.mp hunknown, rfl⟩⟩
  · exact Or.inr ⟨filter_nil_iff.mp hspent, Or.inr ⟨filter_nil_iff.mp hunknown,
      Or.inl ⟨filter_ne_nil_iff.mp hcontended, rfl⟩⟩⟩
  · exact Or.inr ⟨filter_nil_iff.mp hspent, Or.inr ⟨filter_nil_iff.mp hunknown,
      Or.inr ⟨filter_nil_iff.mp hcontended, rfl⟩⟩⟩

theorem state_allLive_iff (h : ∀ item ∈ items, BornOut endpoint item) :
    inspectionState items = .allLive ↔ ∀ item ∈ items, isAvailable item = true := by
  constructor
  · intro hstate item hmem
    rw [(h item hmem).available_iff]
    rcases inspectionState_cases items with ⟨-, hs⟩ | ⟨hspent, ⟨-, hs⟩ | ⟨hunknown, ⟨-, hs⟩ | ⟨hcontended, -⟩⟩⟩
    · cases hs.symm.trans hstate
    · cases hs.symm.trans hstate
    · cases hs.symm.trans hstate
    · exact ⟨hspent item hmem, hunknown item hmem, hcontended item hmem⟩
  · intro hall
    have hnone : ∀ item ∈ items, isSpent item = false ∧ isUnknown item = false ∧
        isContended item = false := fun item hmem => (h item hmem).available_iff.mp (hall item hmem)
    rcases inspectionState_cases items with
      ⟨⟨item, hmem, hyes⟩, -⟩ | ⟨-, ⟨⟨item, hmem, hyes⟩, -⟩ | ⟨-, ⟨⟨item, hmem, hyes⟩, -⟩ | ⟨-, hs⟩⟩⟩
    · rw [(hnone item hmem).1] at hyes
      cases hyes
    · rw [(hnone item hmem).2.1] at hyes
      cases hyes
    · rw [(hnone item hmem).2.2] at hyes
      cases hyes
    · exact hs

theorem state_canonicallySpent_iff :
    inspectionState items = .canonicallySpent ↔ ∃ item ∈ items, isSpent item = true := by
  rcases inspectionState_cases items with ⟨hyes, hs⟩ | ⟨hno, hs⟩
  · exact iff_of_true hs hyes
  · refine iff_of_false ?_ ?_
    · rcases hs with ⟨-, hs⟩ | ⟨-, ⟨-, hs⟩ | ⟨-, hs⟩⟩
      · rw [hs]; decide
      · rw [hs]; decide
      · rw [hs]; decide
    · rintro ⟨item, hmem, hyes⟩
      rw [hno item hmem] at hyes
      cases hyes

theorem state_mempoolContended_iff :
    inspectionState items = .mempoolContended ↔
      (∀ item ∈ items, isSpent item = false ∧ isUnknown item = false) ∧
        ∃ item ∈ items, isContended item = true := by
  rcases inspectionState_cases items with
    ⟨⟨item, hmem, hyes⟩, hs⟩ | ⟨hspent, ⟨⟨item, hmem, hyes⟩, hs⟩ | ⟨hunknown, ⟨hyes, hs⟩ | ⟨hno, hs⟩⟩⟩
  · refine iff_of_false (by rw [hs]; decide) fun h => ?_
    rw [(h.1 item hmem).1] at hyes
    cases hyes
  · refine iff_of_false (by rw [hs]; decide) fun h => ?_
    rw [(h.1 item hmem).2] at hyes
    cases hyes
  · exact iff_of_true hs ⟨fun item hmem => ⟨hspent item hmem, hunknown item hmem⟩, hyes⟩
  · refine iff_of_false (by rw [hs]; decide) ?_
    rintro ⟨-, item, hmem, hyes⟩
    rw [hno item hmem] at hyes
    cases hyes

/-- **An inspection that came through** is fail-closed. -/
theorem inspection_failClosed {targets : List InspectionTarget} {now : Int} {n m : Nat}
    {inspection : InputInspection}
    (h : inspectInputOutPointsOnSession targets now endpoint n = .ok (inspection, m)) :
    FailClosed endpoint targets inspection := by
  unfold inspectInputOutPointsOnSession at h
  obtain ⟨items, k, hitems, h⟩ := Dialogue.bind_ok.mp h
  obtain ⟨tip, k', -, h⟩ := Dialogue.bind_ok.mp h
  obtain ⟨url, k'', -, h⟩ := Dialogue.bind_ok.mp h
  obtain ⟨rfl, -⟩ := Dialogue.pure_ok.mp h
  obtain ⟨hinputs, hevidenced⟩ := inspectInputs_bornOut hitems
  exact
    { inputs := hinputs
      evidenced := hevidenced
      spent := rfl
      unknown := rfl
      contended := rfl
      allLive := state_allLive_iff hevidenced
      canonicallySpent := state_canonicallySpent_iff
      mempoolContended := state_mempoolContended_iff }

end Verdict

/-! ## The request -/

section Request

variable {endpoints : List Endpoint} {expected : RpcIdentityExpectation} {view : IntentAggregate}
  {now : Int} {db : Store}

/-- The inspection of a client is that of one endpoint, after its identity was checked. -/
theorem client_failClosed {targets : List InspectionTarget} {inspection : InputInspection}
    (h : CkbRpcClient.inspectInputOutPoints endpoints targets expected now = .ok inspection) :
    ∃ endpoint ∈ endpoints, FailClosed endpoint targets inspection := by
  obtain ⟨endpoint, hmem, hrun⟩ := withSession_ok h
  obtain ⟨m, hrun⟩ := Dialogue.run_ok.mp hrun
  obtain ⟨_, k, -, hinspected⟩ := Dialogue.bind_ok.mp hrun
  exact ⟨endpoint, hmem, inspection_failClosed hinspected⟩

/-- A preflight that asked a node was given inputs to ask about. -/
theorem preflightInputs_ne_nil (h : preflightGuard endpoints view.execution = .ok ()) :
    preflightInputs view.execution ≠ [] := by
  unfold preflightGuard at h
  split_ifs at h with _ hinputs
  unfold preflightInputs
  split_ifs with hrefs
  · simpa using hrefs
  · have hnone : view.execution.inputRefs = [] := not_not.mp hrefs
    simpa [hnone] using hinputs

/-- The request wrote down that it failed, and nothing else. -/
def RecordsFailure (db t : Store) : Prop :=
  ∃ event, t = { db with events := db.events ++ [event] } ∧ event.kind = .inputPreflightFailed

/-- **A preflight returns** only for inputs that a node found available, every one. -/
theorem servicePreflight_returns {answer : PublicView}
    (h : (servicePreflight endpoints expected view now db).2 = .ok answer) :
    preflightInputs view.execution ≠ [] ∧ ∃ endpoint ∈ endpoints, ∃ inspection,
      CkbRpcClient.inspectInputOutPoints endpoints (preflightInputs view.execution) expected now =
        .ok inspection ∧
      FailClosed endpoint (preflightInputs view.execution) inspection ∧
      ∀ item ∈ inspection.inputs, isAvailable item = true := by
  unfold servicePreflight at h
  cases hguard : preflightGuard endpoints view.execution with
  | error e =>
      rw [hguard] at h
      cases h
  | ok _ =>
      refine ⟨preflightInputs_ne_nil hguard, ?_⟩
      rw [hguard] at h
      simp only at h
      cases hasked : CkbRpcClient.inspectInputOutPoints endpoints (preflightInputs view.execution)
          expected now with
      | error message =>
          rw [hasked] at h
          cases h
      | ok inspection =>
          rw [hasked] at h
          simp only at h
          split_ifs at h with hstate
          obtain ⟨endpoint, hmem, hclosed⟩ := client_failClosed hasked
          exact ⟨endpoint, hmem, inspection, rfl, hclosed, hclosed.allLive.mp (not_not.mp hstate)⟩

/-- **Any other answer** throws and is written down. -/
theorem servicePreflight_refuses (hguard : preflightGuard endpoints view.execution = .ok ())
    (hother : ∀ inspection, CkbRpcClient.inspectInputOutPoints endpoints
      (preflightInputs view.execution) expected now = .ok inspection → inspection.state ≠ .allLive) :
    (∃ e, (servicePreflight endpoints expected view now db).2 = .error e) ∧
      RecordsFailure db (servicePreflight endpoints expected view now db).1 := by
  unfold servicePreflight
  rw [hguard]
  simp only
  cases hasked : CkbRpcClient.inspectInputOutPoints endpoints (preflightInputs view.execution)
      expected now with
  | error message => exact ⟨⟨_, rfl⟩, _, rfl, eventWithOutbox_kind _⟩
  | ok inspection =>
      simp only [if_pos (hother inspection hasked)]
      exact ⟨⟨_, rfl⟩, _, rfl, eventWithOutbox_kind _⟩

end Request

/-- A node that calls every Cell live, and once its pool is counted what is given. -/
def poolNode (pooled : String) : Endpoint where
  url := "http://node"
  getBlockchainInfo := fun _ => .error "refused"
  getTransaction := fun _ _ => .error "refused"
  getBlockHash := fun _ _ => .error "refused"
  getHeader := fun _ _ => .error "refused"
  getTipHeader := fun _ => .ok .null
  getLiveCell := fun _ _ includeTxPool =>
    .ok (some ⟨some (if includeTxPool then pooled else "live"), none⟩)

/-- Another transaction in its pool takes every input. -/
def busyPool : Endpoint := poolNode "unknown"

/-- The observation of an input that another transaction in the pool takes. -/
def takenInput (input : InputRef) : InputObservation where
  outPoint := input.outPoint
  input := input
  canonical := .live
  poolAware := .unavailable
  canonicalRpcStatus := some "live"
  poolRpcStatus := some "unknown"
  creatorTxStatus := none
  creatorBlockHash := none
  creatorBlockNumber := none
  liveBlockHash := none

/-- An input as it is recorded. -/
def recordedInput : InputRef := ⟨⟨Scenario.hashOf '1', 0, .jsonb⟩, .other, none, .jsonb⟩

/-- A transaction with that input is prepared. -/
def preparedOnce : Store :=
  Scenario.after .committed [Scenario.attach 'a' true none [Scenario.outPoint '1']]

/-- A project that names neither its genesis nor its chain. -/
def anyNetwork : RpcIdentityExpectation := ⟨none, none⟩

theorem preparedOnce_facts :
    preflightInputs preparedOnce.aggregate.execution = [.input recordedInput] ∧
      preflightGuard [busyPool] preparedOnce.aggregate.execution = .ok () := by
  constructor <;> rfl

end CellFlow
