/-
# CellFlow.Properties.ExpectedCells — what an evaluation of the expected Cells answers.

The evaluation walks the assertions in order and stops at the first that does not pass.  A wrong
Cell ends it FAILED, which is final for the business intent, so it must rest on something the node
said; an answer that is missing leaves it PENDING.  The specification below is stated on the answers
alone, and `evaluateAssertions_exact` compares the evaluation with it.
-/
import CellFlow.Reconcile.RpcClient
import CellFlow.Api.Scenario
import CellFlow.Core.HexText
import Mathlib.Data.List.Induction

namespace CellFlow

open Js (Json)

/-! ## Accepted assertions -/

/-- `/^0x[0-9a-fA-F]*$/`. -/
def isHex (value : String) : Bool :=
  match value.toList with
  | '0' :: 'x' :: digits => digits.all fun c => (hexDigit? c).isSome
  | _ => false

/-- `/^0x[0-9a-fA-F]{64}$/`. -/
def isHexHash (value : String) : Bool := isHex value && value.length = 66

/-- The hash types of a script. -/
def hashTypes : List String := ["data", "type", "data1", "data2"]

/-- `scriptAssertion`: at least one field is checked. -/
def scriptAssertion (s : ScriptAssertion) : Bool :=
  s.codeHash.all isHexHash && s.hashType.all (hashTypes.contains ·) && s.args.all isHex &&
    (s.codeHash.isSome || s.hashType.isSome || s.args.isSome)

/-- `expectedCellSchema`. -/
def expectedCellSchema (a : ExpectedCellAssertion) : Bool :=
  a.outputIndex ≤ 1024 && a.capacity.all isHex && a.lock.all scriptAssertion &&
    a.type.all (Option.all scriptAssertion) && a.data.all isHex && assertionHasChecks a

/-! ## What an assertion says -/

/-- The same integer; a text without digits is none, and equals only itself. -/
def SameCapacity (expected actual : String) : Prop :=
  (∃ n, parseHexBlockNumber (some expected) = some n ∧ parseHexBlockNumber (some actual) = some n) ∨
    expected = "0x" ∧ SameHex "0x" actual

/-- A script meets what is expected of it: each field that is given. -/
structure ScriptMatches (expected : ScriptAssertion) (actual : RpcScript) : Prop where
  codeHash : ∀ codeHash, expected.codeHash = some codeHash → SameHex codeHash actual.codeHash
  hashType : ∀ hashType, expected.hashType = some hashType → hashType = actual.hashType
  args : ∀ args, expected.args = some args → SameHex args actual.args

/-- Every field the assertion specifies is that of the output. -/
structure OutputMatches (assertion : ExpectedCellAssertion) (output : RpcCellOutput)
    (data : Option String) : Prop where
  capacity : ∀ capacity, assertion.capacity = some capacity → SameCapacity capacity output.capacity
  lock : ∀ lock, assertion.lock = some lock → ScriptMatches lock output.lock
  untyped : assertion.type = some none → output.type = none
  type : ∀ type, assertion.type = some (some type) →
    ∃ script, output.type = some script ∧ ScriptMatches type script
  data : ∀ expected, assertion.data = some expected →
    ∃ actual, data = some actual ∧ SameHex expected actual

/-- The transaction has the output, with every field as specified. -/
def Created (transaction : RpcTransaction) (assertion : ExpectedCellAssertion) : Prop :=
  ∃ output, transaction.outputs[assertion.outputIndex]? = some output ∧
    OutputMatches assertion output transaction.outputsData[assertion.outputIndex]?

/-- The answer about the Cell is a live one with every field as specified. -/
def LiveMatches (live : Option RpcLiveCell) (assertion : ExpectedCellAssertion) : Prop :=
  ∃ cell output data, live = some cell ∧ cell.status = "live" ∧ cell.cell = some (output, data) ∧
    OutputMatches assertion output (data.bind RpcCellData.content)

/-! ## Reading a capacity -/

/-- An accepted capacity is an integer, or has no digits. -/
theorem parse_of_isHex {text : String} (h : isHex text = true) :
    (∃ n, parseHexBlockNumber (some text) = some n) ∨
      text = "0x" ∧ parseHexBlockNumber (some text) = none := by
  unfold isHex at h
  split at h
  next digits htext =>
    cases digits with
    | nil =>
        right
        obtain rfl : text = "0x" := String.toList_injective htext
        exact ⟨rfl, by decide⟩
    | cons d rest =>
        left
        rw [parseHexBlockNumber, Option.map_some, htext]
        simp only [true_or, if_true]
        exact Option.isSome_iff_exists.mp (hexNumber?_isSome 0 h)
  · cases h

theorem hexEq_iff {a b : String} : hexEq (some a) (some b) = true ↔ SameHex a b := by
  simp [hexEq, SameHex]

theorem integerHexEq_iff {expected actual : String} (h : isHex expected = true) :
    integerHexEq expected actual = true ↔ SameCapacity expected actual := by
  have hempty : parseHexBlockNumber (some "0x") = none := by decide
  unfold integerHexEq SameCapacity
  rcases parse_of_isHex h with ⟨n, hn⟩ | ⟨rfl, hn⟩
  · have hne : expected ≠ "0x" := by
      rintro rfl
      rw [hempty] at hn
      cases hn
    cases hactual : parseHexBlockNumber (some actual) with
    | some m => simp [hn, hne, eq_comm]
    | none =>
        -- the two differ as texts, for else both would be integers
        simp only [hn, hexEq_iff, hne, false_and, or_false]
        refine iff_of_false ?_ (by simp)
        intro hsame
        rw [parseHexBlockNumber_of_sameHex hn hsame] at hactual
        cases hactual
  · simp [hn, hexEq_iff]

/-! ## Checks and what they say -/

section Checks

variable {assertion : ExpectedCellAssertion} {output : RpcCellOutput} {data : Option String}
  {mode : AssertionMode}

/-- The check of a field, if it is asserted. -/
def fieldCheck {α : Type} (field : Option α) (check : α → AssertionCheck) : List AssertionCheck :=
  (field.map check).toList

theorem fieldCheck_all {α : Type} (field : Option α) (check : α → AssertionCheck) :
    (fieldCheck field check).all (·.ok) = true ↔
      ∀ value, field = some value → (check value).ok = true := by
  cases field with
  | none => simp [fieldCheck]
  | some value => simp [fieldCheck]

/-- One check for each field the assertion of a script has. -/
theorem scriptChecks_eq (pre : String) (expected : ScriptAssertion) (actual : Option RpcScript) :
    scriptChecks pre expected actual =
      fieldCheck expected.codeHash (fun codeHash => ⟨pre ++ ".codeHash", .str codeHash,
        Json.ofOption (actual.map (·.codeHash)), hexEq (some codeHash) (actual.map (·.codeHash))⟩) ++
      fieldCheck expected.hashType (fun hashType => ⟨pre ++ ".hashType", .str hashType,
        Json.ofOption (actual.map (·.hashType)), some hashType = actual.map (·.hashType)⟩) ++
      fieldCheck expected.args (fun args => ⟨pre ++ ".args", .str args,
        Json.ofOption (actual.map (·.args)), hexEq (some args) (actual.map (·.args))⟩) := by
  obtain ⟨codeHash, hashType, args⟩ := expected
  cases codeHash <;> cases hashType <;> cases args <;> rfl

theorem scriptChecks_all {pre : String} {expected : ScriptAssertion} {script : RpcScript} :
    (scriptChecks pre expected (some script)).all (·.ok) = true ↔ ScriptMatches expected script := by
  rw [scriptChecks_eq, List.all_append, List.all_append, Bool.and_eq_true, Bool.and_eq_true,
    fieldCheck_all, fieldCheck_all, fieldCheck_all]
  simp only [Option.map_some, hexEq_iff, decide_eq_true_eq, Option.some.injEq]
  constructor
  · rintro ⟨⟨hcode, htype⟩, hargs⟩
    exact ⟨hcode, htype, hargs⟩
  · rintro ⟨hcode, htype, hargs⟩
    exact ⟨⟨hcode, htype⟩, hargs⟩

/-- Against an output without the script, an accepted assertion fails. -/
theorem scriptChecks_absent (pre : String) {expected : ScriptAssertion}
    (h : scriptAssertion expected = true) :
    ¬ (scriptChecks pre expected none).all (·.ok) = true := by
  rw [scriptChecks_eq, List.all_append, List.all_append, Bool.and_eq_true, Bool.and_eq_true,
    fieldCheck_all, fieldCheck_all, fieldCheck_all]
  rintro ⟨⟨hcode, htype⟩, hargs⟩
  unfold scriptAssertion at h
  rw [Bool.and_eq_true, Bool.or_eq_true, Bool.or_eq_true] at h
  rcases h.2 with (hsome | hsome) | hsome
  · obtain ⟨codeHash, hfield⟩ := Option.isSome_iff_exists.mp hsome
    cases hcode codeHash hfield
  · obtain ⟨hashType, hfield⟩ := Option.isSome_iff_exists.mp hsome
    cases htype hashType hfield
  · obtain ⟨args, hfield⟩ := Option.isSome_iff_exists.mp hsome
    cases hargs args hfield

/-- An accepted assertion of a script makes a check. -/
theorem scriptChecks_ne_nil {pre : String} {expected : ScriptAssertion} {actual : Option RpcScript}
    (h : scriptAssertion expected = true) : scriptChecks pre expected actual ≠ [] := by
  intro hnil
  have habsent : scriptChecks pre expected none = [] := by
    rw [scriptChecks_eq] at hnil ⊢
    simpa [fieldCheck] using hnil
  apply scriptChecks_absent pre h
  rw [habsent]
  rfl

/-- What the schema says of an assertion's scripts, and that something is asserted. -/
theorem expectedCellSchema_scripts (h : expectedCellSchema assertion = true) :
    (∀ capacity, assertion.capacity = some capacity → isHex capacity = true) ∧
      (∀ lock, assertion.lock = some lock → scriptAssertion lock = true) ∧
      (∀ type, assertion.type = some (some type) → scriptAssertion type = true) ∧
      assertionHasChecks assertion = true := by
  unfold expectedCellSchema at h
  simp only [Bool.and_eq_true, Option.all_eq_true] at h
  obtain ⟨⟨⟨⟨⟨-, hcapacity⟩, hlock⟩, htype⟩, -⟩, hchecks⟩ := h
  exact ⟨hcapacity, hlock, fun type hsome => htype (some type) hsome type rfl, hchecks⟩

/-- One check for each field of the output the assertion specifies, and those of its scripts. -/
theorem outputChecks_eq (output : RpcCellOutput) (data : Option String)
    (assertion : ExpectedCellAssertion) :
    outputChecks output data assertion =
      fieldCheck assertion.capacity (fun capacity => ⟨"capacity", .str capacity,
        .str output.capacity, integerHexEq capacity output.capacity⟩) ++
      assertion.lock.elim [] (fun lock => scriptChecks "lock" lock (some output.lock)) ++
      assertion.type.elim [] (fun type => type.elim
        [⟨"type", .null, (output.type.map RpcScript.toJson).getD .null, output.type.isNone⟩]
        (fun type => scriptChecks "type" type output.type)) ++
      fieldCheck assertion.data (fun expected => ⟨"data", .str expected, Json.ofOption data,
        hexEq (some expected) data⟩) := by
  obtain ⟨index, mode, capacity, lock, type, expected⟩ := assertion
  cases capacity <;> cases lock <;> rcases type with _ | _ | _ <;> cases expected <;> rfl

/-- **The checks of an accepted assertion** all pass where every specified field is as said. -/
theorem outputChecks_all (h : expectedCellSchema assertion = true) :
    (outputChecks output data assertion).all (·.ok) = true ↔ OutputMatches assertion output data := by
  obtain ⟨hcapacity, -, htype, -⟩ := expectedCellSchema_scripts h
  rw [outputChecks_eq, List.all_append, List.all_append, List.all_append, Bool.and_eq_true,
    Bool.and_eq_true, Bool.and_eq_true, fieldCheck_all, fieldCheck_all]
  have hlock : (assertion.lock.elim []
      fun lock => scriptChecks "lock" lock (some output.lock)).all (·.ok) = true ↔
        ∀ lock, assertion.lock = some lock → ScriptMatches lock output.lock := by
    cases assertion.lock with
    | none => simp
    | some lock => simpa using scriptChecks_all
  have htypes : (assertion.type.elim [] fun type => type.elim
      [⟨"type", .null, (output.type.map RpcScript.toJson).getD .null, output.type.isNone⟩]
      fun type => scriptChecks "type" type output.type).all (·.ok) = true ↔
        (assertion.type = some none → output.type = none) ∧
          ∀ type, assertion.type = some (some type) →
            ∃ script, output.type = some script ∧ ScriptMatches type script := by
    cases hasserted : assertion.type with
    | none => simp
    | some asserted =>
        cases asserted with
        | none => simp
        | some type =>
            cases hscript : output.type with
            | none => simpa [hscript] using scriptChecks_absent "type" (htype type hasserted)
            | some script => simpa using scriptChecks_all
  rw [hlock, htypes]
  constructor
  · rintro ⟨⟨⟨hc, hl⟩, hu, ht⟩, hd⟩
    refine ⟨fun capacity hsome => ?_, hl, hu, ht, fun expected hsome => ?_⟩
    · exact (integerHexEq_iff (hcapacity capacity hsome)).mp (hc capacity hsome)
    · have hsame := hd expected hsome
      cases data with
      | none => cases hsame
      | some actual => exact ⟨actual, rfl, hexEq_iff.mp hsame⟩
  · rintro ⟨hc, hl, hu, ht, hd⟩
    refine ⟨⟨⟨fun capacity hsome => ?_, hl⟩, hu, ht⟩, fun expected hsome => ?_⟩
    · exact (integerHexEq_iff (hcapacity capacity hsome)).mpr (hc capacity hsome)
    · obtain ⟨actual, rfl, hsame⟩ := hd expected hsome
      exact hexEq_iff.mpr hsame

theorem outputChecks_ne_nil (h : expectedCellSchema assertion = true) :
    outputChecks output data assertion ≠ [] := by
  obtain ⟨-, hlocks, htypes, hchecks⟩ := expectedCellSchema_scripts h
  rw [outputChecks_eq]
  simp only [ne_eq, List.append_eq_nil_iff]
  rintro ⟨⟨⟨hcapacity, hlock⟩, htype⟩, hdata⟩
  unfold assertionHasChecks at hchecks
  simp only [Bool.or_eq_true] at hchecks
  rcases hchecks with ((hsome | hsome) | hsome) | hsome
  · obtain ⟨capacity, hfield⟩ := Option.isSome_iff_exists.mp hsome
    simp [fieldCheck, hfield] at hcapacity
  · obtain ⟨lock, hfield⟩ := Option.isSome_iff_exists.mp hsome
    rw [hfield] at hlock
    exact scriptChecks_ne_nil (hlocks lock hfield) hlock
  · obtain ⟨asserted, hfield⟩ := Option.isSome_iff_exists.mp hsome
    rw [hfield] at htype
    cases asserted with
    | none => cases htype
    | some type => exact scriptChecks_ne_nil (htypes type hfield) htype
  · obtain ⟨expected, hfield⟩ := Option.isSome_iff_exists.mp hsome
    simp [fieldCheck, hfield] at hdata

/-- **An output passes** where every field the assertion specifies is as said. -/
theorem verifyCellOutput_ok (h : expectedCellSchema assertion = true) :
    (verifyCellOutput (some output) data assertion mode).ok = true ↔
      OutputMatches assertion output data := by
  have hchecks := (expectedCellSchema_scripts h).2.2.2
  have hne : (outputChecks output data assertion).isEmpty = false :=
    List.isEmpty_eq_false_iff.mpr (outputChecks_ne_nil h)
  rw [← outputChecks_all h]
  simp [verifyCellOutput, hchecks, hne]

theorem verifyExpectedCell_ok {transaction : RpcTransaction}
    (h : expectedCellSchema assertion = true) :
    (verifyExpectedCell transaction assertion).ok = true ↔ Created transaction assertion := by
  unfold verifyExpectedCell Created
  cases houtput : transaction.outputs[assertion.outputIndex]? with
  | none => simp [verifyCellOutput]
  | some output => simp [verifyCellOutput_ok h]

theorem verifyLiveCell_ok {live : Option RpcLiveCell} (h : expectedCellSchema assertion = true) :
    (verifyLiveCell live assertion).ok = true ↔ LiveMatches live assertion := by
  unfold verifyLiveCell LiveMatches
  cases live with
  | none => simp
  | some cell =>
      cases hcell : cell.cell with
      | none => simp [hcell]
      | some content =>
          obtain ⟨output, data⟩ := content
          by_cases hlive : cell.status = "live"
          · simp [hlive, hcell, verifyCellOutput_ok h]
          · simp [hlive, hcell]

end Checks

/-! ## Whether a block is canonical -/

section Canonicality

variable (urls : List String) (endpoint : Endpoint) (blockHash : String)

/-- The endpoint names a block at the height it gives for `blockHash`. -/
def NamesCanonical (canonical : String) : Prop :=
  endpoint.url ∈ urls ∧ ∃ header number answer, endpoint.getHeader 0 blockHash = .ok header ∧
    truthy (headerNumber header) = some number ∧
    endpoint.getBlockHash 1 number = .ok answer ∧ truthy answer = some canonical

/-- A call about the block threw, or the endpoint knows no height for it or no block there. -/
def BlockUndetermined : Prop :=
  endpoint.url ∉ urls ∨ (∃ message, endpoint.getHeader 0 blockHash = .error message) ∨
    ∃ header, endpoint.getHeader 0 blockHash = .ok header ∧
      (truthy (headerNumber header) = none ∨
        ∃ number, truthy (headerNumber header) = some number ∧
          ((∃ message, endpoint.getBlockHash 1 number = .error message) ∨
            ∃ answer, endpoint.getBlockHash 1 number = .ok answer ∧ truthy answer = none))

/-- The two calls of the check, one after the other. -/
theorem verifyCanonicalBlockAt_eq :
    CkbRpcClient.verifyCanonicalBlockAt urls endpoint blockHash =
      if endpoint.url ∉ urls then .error "Requested canonicality endpoint is not configured"
      else
        match endpoint.getHeader 0 blockHash with
        | .error message => .error message
        | .ok header =>
            match truthy (headerNumber header) with
            | none => .ok ⟨none, none, none⟩
            | some number =>
                match endpoint.getBlockHash 1 number with
                | .error message => .error message
                | .ok answer =>
                    match truthy answer with
                    | none => .ok ⟨none, some number, none⟩
                    | some canonical =>
                        .ok ⟨some (toLowerCase canonical = toLowerCase blockHash), some number,
                          some canonical⟩ := by
  unfold CkbRpcClient.verifyCanonicalBlockAt
  split
  · rfl
  · show Except.map Prod.fst (verifyCanonicalBlockOnSession blockHash endpoint 0) = _
    simp only [verifyCanonicalBlockOnSession, bind, RpcSession.getHeader, Dialogue.ask]
    cases endpoint.getHeader 0 blockHash with
    | error message => rfl
    | ok header =>
        simp only
        cases truthy (headerNumber header) with
        | none => rfl
        | some number =>
            simp only [RpcSession.getBlockHash, Dialogue.ask]
            cases endpoint.getBlockHash 1 number with
            | error message => rfl
            | ok answer =>
                simp only
                cases truthy answer with
                | none => rfl
                | some canonical => rfl

variable {urls endpoint blockHash}

theorem NamesCanonical.unique {canonical canonical' : String}
    (h : NamesCanonical urls endpoint blockHash canonical)
    (h' : NamesCanonical urls endpoint blockHash canonical') : canonical = canonical' := by
  obtain ⟨-, header, number, answer, hheader, hnumber, hanswer, hnamed⟩ := h
  obtain ⟨-, header', number', answer', hheader', hnumber', hanswer', hnamed'⟩ := h'
  obtain rfl : header = header' := Except.ok.inj (hheader.symm.trans hheader')
  obtain rfl : number = number' := Option.some.inj (hnumber.symm.trans hnumber')
  obtain rfl : answer = answer' := Except.ok.inj (hanswer.symm.trans hanswer')
  exact Option.some.inj (hnamed.symm.trans hnamed')

/-- A block named is not undetermined. -/
theorem NamesCanonical.determined {canonical : String}
    (h : NamesCanonical urls endpoint blockHash canonical) :
    ¬ BlockUndetermined urls endpoint blockHash := by
  obtain ⟨hurl, header, number, answer, hheader, hnumber, hanswer, hnamed⟩ := h
  rintro (hout | ⟨message, hthrew⟩ | ⟨header', hheader', hsilent⟩)
  · exact hout hurl
  · rw [hheader] at hthrew
    cases hthrew
  · obtain rfl : header = header' := Except.ok.inj (hheader.symm.trans hheader')
    rcases hsilent with hnone | ⟨number', hnumber', hsilent⟩
    · rw [hnumber] at hnone
      cases hnone
    · obtain rfl : number = number' := Option.some.inj (hnumber.symm.trans hnumber')
      rcases hsilent with ⟨message, hthrew⟩ | ⟨answer', hanswer', hnone⟩
      · rw [hanswer] at hthrew
        cases hthrew
      · obtain rfl : answer = answer' := Except.ok.inj (hanswer.symm.trans hanswer')
        rw [hnamed] at hnone
        cases hnone

variable (urls endpoint blockHash) in
/-- **What the check answers**: whether the block named at its height is the same, where one is. -/
theorem verifyCanonicalBlockAt_cases :
    (∃ canonical answer, NamesCanonical urls endpoint blockHash canonical ∧
      CkbRpcClient.verifyCanonicalBlockAt urls endpoint blockHash = .ok answer ∧
      answer.canonical = some (decide (SameHex canonical blockHash))) ∨
    BlockUndetermined urls endpoint blockHash ∧
      ((∃ message, CkbRpcClient.verifyCanonicalBlockAt urls endpoint blockHash = .error message) ∨
        ∃ answer, CkbRpcClient.verifyCanonicalBlockAt urls endpoint blockHash = .ok answer ∧
          answer.canonical = none) := by
  rw [verifyCanonicalBlockAt_eq]
  by_cases hurl : endpoint.url ∈ urls
  · rw [if_neg (not_not.mpr hurl)]
    cases hheader : endpoint.getHeader 0 blockHash with
    | error message => exact Or.inr ⟨Or.inr (Or.inl ⟨message, hheader⟩), Or.inl ⟨message, rfl⟩⟩
    | ok header =>
        simp only
        cases hnumber : truthy (headerNumber header) with
        | none =>
            right
            exact ⟨Or.inr (Or.inr ⟨header, hheader, Or.inl hnumber⟩), Or.inr ⟨_, rfl, rfl⟩⟩
        | some number =>
            simp only
            cases hanswer : endpoint.getBlockHash 1 number with
            | error message =>
                right
                exact ⟨Or.inr (Or.inr ⟨header, hheader, Or.inr ⟨number, hnumber,
                  Or.inl ⟨message, hanswer⟩⟩⟩), Or.inl ⟨message, rfl⟩⟩
            | ok answer =>
                simp only
                cases hnamed : truthy answer with
                | none =>
                    right
                    exact ⟨Or.inr (Or.inr ⟨header, hheader, Or.inr ⟨number, hnumber,
                      Or.inr ⟨answer, hanswer, hnamed⟩⟩⟩), Or.inr ⟨_, rfl, rfl⟩⟩
                | some canonical =>
                    left
                    exact ⟨canonical, _, ⟨hurl, header, number, answer, hheader, hnumber, hanswer,
                      hnamed⟩, rfl, rfl⟩
  · rw [if_pos hurl]
    exact Or.inr ⟨Or.inl hurl, Or.inl ⟨_, rfl⟩⟩

end Canonicality

/-! ## The evaluation -/

/-- The environment whose canonicality checks ask the endpoint of the observation, anew for every
lookup. -/
def ReconcileEnv.checking (env : ReconcileEnv) (endpoint : String) (answers : Nat → Endpoint) :
    ReconcileEnv :=
  { env with
    canonicalBlock := fun lookup blockHash =>
      CkbRpcClient.verifyCanonicalBlockAt env.urls { answers lookup with url := endpoint } blockHash }

/-- The assertion is checked against the live Cell too. -/
def ExpectedCellAssertion.isLive (assertion : ExpectedCellAssertion) : Prop :=
  assertion.mode.getD .created = .live

instance (assertion : ExpectedCellAssertion) : Decidable assertion.isLive :=
  inferInstanceAs (Decidable (_ = _))

/-- The results one passed assertion records. -/
def ExpectedCellAssertion.recorded (assertion : ExpectedCellAssertion) : Nat :=
  if assertion.isLive then 2 else 1

/-- The number of the lookups for an assertion that comes after `earlier`. -/
def lookupAfter (earlier : List ExpectedCellAssertion) : Nat :=
  (earlier.map ExpectedCellAssertion.recorded).sum + 1

section Evaluation

variable (env : ReconcileEnv) (endpoint : String) (answers : Nat → Endpoint)
  (transaction : RpcTransaction)

/-- The assertion passes: the transaction created the Cell and, in live mode, the node says it is
live with the same fields, in a block that is canonical if it names one. -/
def Passes (lookup : Nat) (assertion : ExpectedCellAssertion) : Prop :=
  Created transaction assertion ∧
    (assertion.isLive → ∃ live, env.liveCell lookup assertion.outputIndex = .ok live ∧
      LiveMatches live assertion ∧
      ∀ blockHash, truthy (live.bind (·.blockHash)) = some blockHash → ∃ canonical,
        NamesCanonical env.urls { answers lookup with url := endpoint } blockHash canonical ∧
          SameHex canonical blockHash)

/-- An answer received contradicts the assertion: the output is missing or has another field, the
Cell is not live or has another field, or the block it is live in is not canonical. -/
def Contradicted (lookup : Nat) (assertion : ExpectedCellAssertion) : Prop :=
  ¬ Created transaction assertion ∨
    assertion.isLive ∧ ∃ live, env.liveCell lookup assertion.outputIndex = .ok live ∧
      (¬ LiveMatches live assertion ∨
        ∃ blockHash canonical, truthy (live.bind (·.blockHash)) = some blockHash ∧
          NamesCanonical env.urls { answers lookup with url := endpoint } blockHash canonical ∧
          ¬ SameHex canonical blockHash)

/-- A lookup for the assertion threw, or could not tell whether the block is canonical. -/
def Undetermined (lookup : Nat) (assertion : ExpectedCellAssertion) : Prop :=
  Created transaction assertion ∧ assertion.isLive ∧
    ((∃ message, env.liveCell lookup assertion.outputIndex = .error message) ∨
      ∃ live blockHash, env.liveCell lookup assertion.outputIndex = .ok live ∧
        LiveMatches live assertion ∧ truthy (live.bind (·.blockHash)) = some blockHash ∧
        BlockUndetermined env.urls { answers lookup with url := endpoint } blockHash)

/-- Every assertion passes, each with its own lookups. -/
def AllPass (assertions : List ExpectedCellAssertion) : Prop :=
  ∀ earlier assertion later, assertions = earlier ++ assertion :: later →
    Passes env endpoint answers transaction (lookupAfter earlier) assertion

variable {env endpoint answers transaction} {lookup : Nat} {assertion : ExpectedCellAssertion}

theorem Contradicted.not_passes (h : Contradicted env endpoint answers transaction lookup assertion) :
    ¬ Passes env endpoint answers transaction lookup assertion := by
  rintro ⟨hcreated, hpasses⟩
  rcases h with hmissing | ⟨hmode, live, hlive, hwrong⟩
  · exact hmissing hcreated
  · obtain ⟨live', hlive', hmatches, hcanonical⟩ := hpasses hmode
    obtain rfl : live = live' := Except.ok.inj (hlive.symm.trans hlive')
    rcases hwrong with hmismatch | ⟨blockHash, canonical, hblock, hnamed, hother⟩
    · exact hmismatch hmatches
    · obtain ⟨canonical', hnamed', hsame⟩ := hcanonical blockHash hblock
      exact hother (hnamed.unique hnamed' ▸ hsame)

theorem Undetermined.not_passes (h : Undetermined env endpoint answers transaction lookup assertion) :
    ¬ Passes env endpoint answers transaction lookup assertion := by
  rintro ⟨-, hpasses⟩
  obtain ⟨-, hmode, ⟨message, hthrew⟩ | ⟨live, blockHash, hlive, -, hblock, hsilent⟩⟩ := h
  · obtain ⟨live, hlive, -⟩ := hpasses hmode
    rw [hthrew] at hlive
    cases hlive
  · obtain ⟨live', hlive', -, hcanonical⟩ := hpasses hmode
    obtain rfl : live = live' := Except.ok.inj (hlive.symm.trans hlive')
    obtain ⟨canonical, hnamed, -⟩ := hcanonical blockHash hblock
    exact hnamed.determined hsilent

theorem Undetermined.not_contradicted
    (h : Undetermined env endpoint answers transaction lookup assertion) :
    ¬ Contradicted env endpoint answers transaction lookup assertion := by
  obtain ⟨hcreated, -, hsilent⟩ := h
  rintro (hmissing | ⟨-, live, hlive, hwrong⟩)
  · exact hmissing hcreated
  · rcases hsilent with ⟨message, hthrew⟩ | ⟨live', blockHash, hlive', hmatches, hblock, hsilent⟩
    · rw [hlive] at hthrew
      cases hthrew
    · obtain rfl : live = live' := Except.ok.inj (hlive.symm.trans hlive')
      rcases hwrong with hmismatch | ⟨blockHash', canonical, hblock', hnamed, -⟩
      · exact hmismatch hmatches
      · obtain rfl : blockHash = blockHash' := Option.some.inj (hblock.symm.trans hblock')
        exact hnamed.determined hsilent

/-- **One assertion**: it passes and the evaluation goes on, or it ends the evaluation. -/
theorem evaluateFrom_cons (rest : List ExpectedCellAssertion) (results : List AssertionResult)
    (haccepted : expectedCellSchema assertion = true) :
    let ended := (evaluateFrom (env.checking endpoint answers) endpoint transaction
      (assertion :: rest) results).status
    (Passes env endpoint answers transaction (results.length + 1) assertion ∧
      ∃ recorded, recorded.length = results.length + assertion.recorded ∧
        evaluateFrom (env.checking endpoint answers) endpoint transaction (assertion :: rest)
          results = evaluateFrom (env.checking endpoint answers) endpoint transaction rest
          recorded) ∨
    (Contradicted env endpoint answers transaction (results.length + 1) assertion ∧
      ended = .failed) ∨
    (Undetermined env endpoint answers transaction (results.length + 1) assertion ∧
      ended = .pending) := by
  intro ended
  have hlookup : (results ++ [verifyExpectedCell transaction assertion]).length =
      results.length + 1 := by simp
  simp only [ended, evaluateFrom, hlookup]
  by_cases hcreated : Created transaction assertion
  · have hok : (verifyExpectedCell transaction assertion).ok = true :=
      (verifyExpectedCell_ok haccepted).mpr hcreated
    by_cases hmode : assertion.isLive
    · have htwo : assertion.recorded = 2 := if_pos hmode
      have hmode' : ¬ assertion.mode.getD .created ≠ .live := not_not.mpr hmode
      simp only [hok, Bool.true_eq_false, if_false, if_neg hmode']
      cases hlive : (env.checking endpoint answers).liveCell (results.length + 1)
          assertion.outputIndex with
      | error message =>
          exact Or.inr (Or.inr ⟨⟨hcreated, hmode, Or.inl ⟨message, hlive⟩⟩, rfl⟩)
      | ok live =>
          by_cases hmatches : LiveMatches live assertion
          · have hliveOk : (verifyLiveCell live assertion).ok = true :=
              (verifyLiveCell_ok haccepted).mpr hmatches
            simp only [hliveOk, Bool.true_eq_false, if_false]
            cases hblock : truthy (live.bind (·.blockHash)) with
            | none =>
                left
                refine ⟨⟨hcreated, fun _ => ⟨live, hlive, hmatches, ?_⟩⟩, _, ?_, rfl⟩
                · intro blockHash hnamed
                  rw [hblock] at hnamed
                  cases hnamed
                · simp [htwo]
            | some blockHash =>
                -- the block is named, so the endpoint is asked about it
                simp only
                rcases verifyCanonicalBlockAt_cases env.urls
                    { answers (results.length + 1) with url := endpoint } blockHash with
                  ⟨canonical, answer, hnamed, hanswer, hcanonical⟩ | ⟨hsilent, hanswer⟩
                · have hasked : (env.checking endpoint answers).canonicalBlock (results.length + 1)
                      blockHash = .ok answer := hanswer
                  simp only [hasked, hcanonical]
                  by_cases hsame : SameHex canonical blockHash
                  · simp only [hsame, decide_true]
                    left
                    refine ⟨⟨hcreated, fun _ => ⟨live, hlive, hmatches, ?_⟩⟩, _, ?_, rfl⟩
                    · intro blockHash' hblock'
                      obtain rfl : blockHash = blockHash' :=
                        Option.some.inj (hblock.symm.trans hblock')
                      exact ⟨canonical, hnamed, hsame⟩
                    · simp [htwo]
                  · simp only [hsame, decide_false]
                    right
                    left
                    exact ⟨Or.inr ⟨hmode, live, hlive,
                      Or.inr ⟨blockHash, canonical, hblock, hnamed, hsame⟩⟩, trivial⟩
                · have hundetermined : Undetermined env endpoint answers transaction
                      (results.length + 1) assertion :=
                    ⟨hcreated, hmode, Or.inr ⟨live, blockHash, hlive, hmatches, hblock, hsilent⟩⟩
                  right
                  right
                  refine ⟨hundetermined, ?_⟩
                  rcases hanswer with ⟨message, hanswer⟩ | ⟨answer, hanswer, hnone⟩
                  · have hasked : (env.checking endpoint answers).canonicalBlock
                        (results.length + 1) blockHash = .error message := hanswer
                    simp only [hasked]
                  · have hasked : (env.checking endpoint answers).canonicalBlock
                        (results.length + 1) blockHash = .ok answer := hanswer
                    simp only [hasked, hnone]
          · have hliveBad : (verifyLiveCell live assertion).ok = false :=
              Bool.eq_false_iff.mpr fun hliveOk => hmatches ((verifyLiveCell_ok haccepted).mp hliveOk)
            simp only [hliveBad, if_true]
            right
            left
            exact ⟨Or.inr ⟨hmode, live, hlive, Or.inl hmatches⟩, trivial⟩
    · have hmode' : assertion.mode.getD .created ≠ .live := hmode
      have hone : assertion.recorded = 1 := if_neg hmode
      simp only [hok, Bool.true_eq_false, if_false, if_pos hmode']
      left
      exact ⟨⟨hcreated, fun h => absurd h hmode⟩, _, by simp [hone], rfl⟩
  · have hbad : (verifyExpectedCell transaction assertion).ok = false :=
      Bool.eq_false_iff.mpr fun hok => hcreated ((verifyExpectedCell_ok haccepted).mp hok)
    simp only [hbad, if_true]
    right
    left
    exact ⟨Or.inl hcreated, trivial⟩

/-- Assertions that pass are walked over. -/
theorem evaluateFrom_append (rest : List ExpectedCellAssertion) (results : List AssertionResult)
    {earlier : List ExpectedCellAssertion}
    (haccepted : ∀ assertion ∈ earlier, expectedCellSchema assertion = true)
    (hpass : ∀ before assertion after, earlier = before ++ assertion :: after →
      Passes env endpoint answers transaction
        (results.length + lookupAfter before) assertion) :
    ∃ recorded, recorded.length + 1 = results.length + lookupAfter earlier ∧
      evaluateFrom (env.checking endpoint answers) endpoint transaction (earlier ++ rest) results =
        evaluateFrom (env.checking endpoint answers) endpoint transaction rest recorded := by
  induction earlier generalizing results with
  | nil => exact ⟨results, rfl, rfl⟩
  | cons assertion earlier ih =>
      have hfirst : Passes env endpoint answers transaction (results.length + 1) assertion :=
        hpass [] assertion earlier rfl
      rcases evaluateFrom_cons (earlier ++ rest) results (haccepted assertion (List.mem_cons_self ..))
          with ⟨-, recorded, hlength, heq⟩ | ⟨hno, -⟩ | ⟨hno, -⟩
      · have hshift : ∀ before, recorded.length + lookupAfter before =
            results.length + lookupAfter (assertion :: before) := by
          intro before
          simp only [lookupAfter, List.map_cons, List.sum_cons]
          omega
        obtain ⟨recorded', hlength', heq'⟩ := ih recorded
          (fun a ha => haccepted a (List.mem_cons_of_mem _ ha))
          (fun before a after hsplit => by
            rw [hshift]
            exact hpass (assertion :: before) a after (by rw [hsplit, List.cons_append]))
        refine ⟨recorded', hlength'.trans (hshift earlier), ?_⟩
        rw [List.cons_append, heq, heq']
      · exact absurd hfirst hno.not_passes
      · exact absurd hfirst hno.not_passes

end Evaluation

/-! ## Exactness -/

section Exact

variable {env : ReconcileEnv} {endpoint : String} {answers : Nat → Endpoint}
  {transaction : Option RpcTransaction} {assertions : List ExpectedCellAssertion}

theorem AllPass.snoc {found : RpcTransaction} {assertion : ExpectedCellAssertion}
    (h : AllPass env endpoint answers found assertions)
    (hlast : Passes env endpoint answers found (lookupAfter assertions) assertion) :
    AllPass env endpoint answers found (assertions ++ [assertion]) := by
  intro earlier middle later hsplit
  rcases List.eq_nil_or_concat later with rfl | ⟨later, last, rfl⟩
  · obtain ⟨rfl, hone⟩ := List.append_inj' hsplit rfl
    obtain rfl : assertion = middle := by simpa using hone
    exact hlast
  · have hshape : assertions ++ [assertion] = (earlier ++ middle :: later) ++ [last] := by
      rw [hsplit]
      simp
    exact h earlier middle later (List.append_inj' hshape rfl).1

/-- Assertions all pass, or there is a first one that does not. -/
theorem allPass_or_first (env : ReconcileEnv) (endpoint : String) (answers : Nat → Endpoint)
    (found : RpcTransaction) (assertions : List ExpectedCellAssertion) :
    AllPass env endpoint answers found assertions ∨
      ∃ earlier assertion later, assertions = earlier ++ assertion :: later ∧
        AllPass env endpoint answers found earlier ∧
        ¬ Passes env endpoint answers found (lookupAfter earlier) assertion := by
  induction assertions using List.reverseRecOn with
  | nil =>
      left
      intro earlier assertion later h
      simp at h
  | append_singleton assertions last ih =>
      rcases ih with hall | ⟨earlier, assertion, later, rfl, hall, hno⟩
      · by_cases hlast : Passes env endpoint answers found (lookupAfter assertions) last
        · exact Or.inl (hall.snoc hlast)
        · exact Or.inr ⟨assertions, last, [], rfl, hall, hlast⟩
      · exact Or.inr ⟨earlier, assertion, later ++ [last], by simp, hall, hno⟩

/-- The status where an assertion does not pass. -/
theorem evaluateAssertions_first {found : RpcTransaction} {earlier later : List ExpectedCellAssertion}
    {assertion : ExpectedCellAssertion}
    (haccepted : ∀ a ∈ earlier ++ assertion :: later, expectedCellSchema a = true)
    (hall : AllPass env endpoint answers found earlier)
    (hno : ¬ Passes env endpoint answers found (lookupAfter earlier) assertion) :
    let status := (evaluateAssertions (env.checking endpoint answers) endpoint (some found)
      (earlier ++ assertion :: later)).status
    Contradicted env endpoint answers found (lookupAfter earlier) assertion ∧ status = .failed ∨
      Undetermined env endpoint answers found (lookupAfter earlier) assertion ∧
        status = .pending := by
  intro status
  obtain ⟨recorded, hlength, heq⟩ := evaluateFrom_append (assertion :: later) []
    (fun a ha => haccepted a (List.mem_append_left _ ha))
    (fun before a after hsplit => by
      rw [List.length_nil, Nat.zero_add]
      exact hall before a after hsplit)
  have hlookup : recorded.length + 1 = lookupAfter earlier := by simpa using hlength
  have hstatus : status = (evaluateFrom (env.checking endpoint answers) endpoint found
      (assertion :: later) recorded).status := congrArg Evaluation.status heq
  rw [hstatus]
  rcases evaluateFrom_cons later recorded
      (haccepted assertion (List.mem_append_right _ (List.mem_cons_self ..))) with
    ⟨hpass, -⟩ | hfailed | hpending
  · rw [hlookup] at hpass
    exact absurd hpass hno
  · rw [hlookup] at hfailed
    exact Or.inl hfailed
  · rw [hlookup] at hpending
    exact Or.inr hpending

/-- The status where every assertion passes. -/
theorem evaluateAssertions_allPass {found : RpcTransaction}
    (haccepted : ∀ assertion ∈ assertions, expectedCellSchema assertion = true)
    (hall : AllPass env endpoint answers found assertions) :
    (evaluateAssertions (env.checking endpoint answers) endpoint (some found) assertions).status =
      .verified := by
  obtain ⟨recorded, -, heq⟩ := evaluateFrom_append [] [] haccepted
    (fun before a after hsplit => by
      rw [List.length_nil, Nat.zero_add]
      exact hall before a after hsplit)
  have hstatus := congrArg Evaluation.status heq
  rw [List.append_nil] at hstatus
  exact hstatus

/-- **The evaluation is exact.**  It is VERIFIED where the transaction is there and every assertion
passes.  Otherwise the first assertion that does not pass decides: FAILED where an answer contradicts
it, PENDING where a lookup threw or could not tell. -/
theorem evaluateAssertions_exact
    (haccepted : ∀ assertion ∈ assertions, expectedCellSchema assertion = true) :
    let status :=
      (evaluateAssertions (env.checking endpoint answers) endpoint transaction assertions).status
    (status = .verified ↔
      ∃ found, transaction = some found ∧ AllPass env endpoint answers found assertions) ∧
    (transaction = none → status = .pending) ∧
    ∀ found earlier assertion later, transaction = some found →
      assertions = earlier ++ assertion :: later →
      AllPass env endpoint answers found earlier →
      ¬ Passes env endpoint answers found (lookupAfter earlier) assertion →
      (status = .failed ↔
        Contradicted env endpoint answers found (lookupAfter earlier) assertion) ∧
      (status = .pending ↔
        Undetermined env endpoint answers found (lookupAfter earlier) assertion) := by
  intro status
  refine ⟨⟨fun hverified => ?_, ?_⟩, ?_, ?_⟩
  · cases transaction with
    | none => exact absurd (show AssertionStatus.pending = .verified from hverified) (by decide)
    | some found =>
        refine ⟨found, rfl, ?_⟩
        rcases allPass_or_first env endpoint answers found assertions with
          hall | ⟨earlier, assertion, later, rfl, hall, hno⟩
        · exact hall
        · rcases evaluateAssertions_first haccepted hall hno with ⟨-, hended⟩ | ⟨-, hended⟩
          · exact absurd (hverified.symm.trans hended) (by decide)
          · exact absurd (hverified.symm.trans hended) (by decide)
  · rintro ⟨found, rfl, hall⟩
    exact evaluateAssertions_allPass haccepted hall
  · rintro rfl
    rfl
  · rintro found earlier assertion later rfl rfl hall hno
    rcases evaluateAssertions_first haccepted hall hno with
      ⟨hcontradicted, hended⟩ | ⟨hundetermined, hended⟩
    · refine ⟨iff_of_true hended hcontradicted, iff_of_false ?_ ?_⟩
      · intro hpending
        exact absurd (hpending.symm.trans hended) (by decide)
      · exact fun hundetermined => hundetermined.not_contradicted hcontradicted
    · refine ⟨iff_of_false ?_ hundetermined.not_contradicted, iff_of_true hended hundetermined⟩
      intro hfailed
      exact absurd (hfailed.symm.trans hended) (by decide)

/-- A transaction with one output of 100 shannons. -/
def hundred : RpcTransaction where
  outputs := [⟨"0x64", ⟨"0x00", "type", "0x"⟩, none⟩]
  outputsData := ["0x"]
  payload := .null

/-- An endpoint with one canonical block, at height 5. -/
def oneBlock : Endpoint where
  url := "http://node"
  getBlockchainInfo := fun _ => .error "refused"
  getTransaction := fun _ _ => .error "refused"
  getBlockHash := fun _ _ => .ok (some (Scenario.hashOf 'b'))
  getHeader := fun _ _ => .ok (.obj [("number", .str "0x5")])
  getTipHeader := fun _ => .error "refused"
  getLiveCell := fun _ _ _ => .error "refused"

/-- The output is live in that block. -/
def liveHundred : ReconcileEnv :=
  { Scenario.node (.error "not asked") with
    liveCell := fun _ _ =>
      .ok (some ⟨"live", some (Scenario.hashOf 'b'),
        some (⟨"0x64", ⟨"0x00", "type", "0x"⟩, none⟩, some (.record (some "0x")))⟩) }

/-- The output as it was created, and as it is live. -/
def hundredCells : List ExpectedCellAssertion :=
  [⟨0, none, some "0x64", none, some none, none⟩, ⟨0, some .live, some "0x64", none, none, some "0x"⟩]

/-- Both assertions pass, and one of another capacity after them decides. -/
theorem evaluateAssertions_exact_capacity :
    AllPass liveHundred "http://node" (fun _ => oneBlock) hundred hundredCells ∧
    (evaluateAssertions (liveHundred.checking "http://node" fun _ => oneBlock) "http://node"
      (some hundred) (hundredCells ++ [⟨0, none, some "0x65", none, none, none⟩])).status =
        .failed := by
  have hverified : (evaluateAssertions (liveHundred.checking "http://node" fun _ => oneBlock)
      "http://node" (some hundred) hundredCells).status = .verified := by decide +kernel
  obtain ⟨found, hfound, hall⟩ := (evaluateAssertions_exact (by decide)).1.mp hverified
  obtain rfl := Option.some.inj hfound
  have hwrong : ¬ Created hundred ⟨0, none, some "0x65", none, none, none⟩ := by
    rintro ⟨output, houtput, hmatches⟩
    obtain rfl : _ = output := Option.some.inj houtput
    rcases hmatches.capacity "0x65" rfl with ⟨n, hexpected, hactual⟩ | ⟨hempty, -⟩
    · have hne : parseHexBlockNumber (some "0x65") ≠ parseHexBlockNumber (some "0x64") := by decide
      exact hne (hexpected.trans hactual.symm)
    · exact absurd hempty (by decide)
  exact ⟨hall, ((evaluateAssertions_exact (by decide)).2.2 hundred hundredCells _ [] rfl rfl hall
    fun hpass => hwrong hpass.1).1.mpr (Or.inl hwrong)⟩

end Exact

end CellFlow
