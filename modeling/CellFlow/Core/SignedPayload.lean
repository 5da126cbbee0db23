/-
# CellFlow.Core.SignedPayload — the canonical text of a signed transaction
(`packages/core/src/signed-payload.ts`).

Every normalizer takes a value of any shape and returns `none` where the source returns `null`.
`canonicalText` is the JSON text that is hashed; the hash itself is a parameter.
-/
import CellFlow.Core.Validation
import CellFlow.Lib.JsonText
import CellFlow.Lib.Value

namespace CellFlow

open Js (Json Value)

/-- `asRecord`: the members of an object. -/
def asRecord : Value → Option (List (String × Value))
  | .object members => some members
  | _ => none

/-- `pick`: the first of the keys that is there with a value. -/
def pick (record : List (String × Value)) : List String → Value
  | [] => .undefined
  | key :: keys =>
      match record.lookup key with
      | some value => if value.isUndefined then pick record keys else value
      | none => pick record keys

/-- `/^0x[0-9a-f]*$/`. -/
def isHexText (text : String) : Bool :=
  match text.toList with
  | '0' :: 'x' :: digits => digits.all fun c => ('0' ≤ c && c ≤ '9') || ('a' ≤ c && c ≤ 'f')
  | _ => false

/-- `normalizeHex`: trimmed and in lower case, if it is hexadecimal. -/
def normalizeHex (value : Value) : Option String :=
  if value.isNullish then none
  else
    let text := toLowerCase (trim value.text)
    if isHexText text then some text else none

/-- The integer `normalizeInteger` parses; `none` where `BigInt` throws. -/
def parseInteger : Value → Option Int
  | .bigint n => some n
  | .number x => if x.fraction = [] then some (if x.negative then -x.whole else x.whole) else none
  | value => Js.readBigInt (trim value.text).toList

/-- `normalizeInteger`: a natural number in minimal hexadecimal. -/
def normalizeInteger (value : Value) : Option String :=
  if value.isNullish then none
  else
    match parseInteger value with
    | some parsed =>
        if parsed < 0 then none
        else some (String.ofList ('0' :: 'x' :: Nat.toDigits 16 parsed.toNat))
    | none => none

/-- `normalizeOutPoint`, under either spelling of its keys. -/
def normalizeOutPoint (value : Value) : Option Json := do
  let record ← asRecord value
  let txHash ← truthy (normalizeHex (pick record ["txHash", "tx_hash"]))
  let index ← normalizeInteger (pick record ["index"])
  return .obj [("txHash", .str txHash), ("index", .str index)]

/-- `typeof value === "string"`, with that string. -/
def asText : Value → Option String
  | .string s => some s
  | _ => none

/-- `normalizeScript`, under either spelling of its keys. -/
def normalizeScript (value : Value) : Option Json := do
  let record ← asRecord value
  let codeHash ← truthy (normalizeHex (pick record ["codeHash", "code_hash"]))
  let hashType ← asText (pick record ["hashType", "hash_type"])
  let args ← normalizeHex (pick record ["args"])
  return .obj [("codeHash", .str codeHash), ("hashType", .str hashType), ("args", .str args)]

/-- `normalizeCellDep`: the dep type in the spelling of the RPC. -/
def normalizeCellDep (value : Value) : Option Json := do
  let record ← asRecord value
  let outPoint ← normalizeOutPoint (pick record ["outPoint", "out_point"])
  let depTypeValue ← asText (pick record ["depType", "dep_type"])
  let depType := if depTypeValue = "depGroup" then "dep_group" else depTypeValue
  return .obj [("outPoint", outPoint), ("depType", .str depType)]

/-- `normalizeInput`. -/
def normalizeInput (value : Value) : Option Json := do
  let record ← asRecord value
  let previousOutput ← normalizeOutPoint (pick record ["previousOutput", "previous_output"])
  let since ← normalizeInteger (pick record ["since"])
  return .obj [("since", .str since), ("previousOutput", previousOutput)]

/-- The type script of an output; one that is absent normalizes to `null`. -/
def normalizeType (typeValue : Value) : Option Json :=
  if typeValue.isNullish then some .null else normalizeScript typeValue

/-- `normalizeOutput`. -/
def normalizeOutput (value : Value) : Option Json := do
  let record ← asRecord value
  let capacity ← normalizeInteger (pick record ["capacity"])
  let lock ← normalizeScript (pick record ["lock"])
  let type ← normalizeType (pick record ["type"])
  return .obj [("capacity", .str capacity), ("lock", lock), ("type", type)]

/-- `normalizeArray`: all items, or nothing. -/
def normalizeArray (value : Value) (item : Value → Option Json) : Option (List Json) :=
  match value with
  | .array entries => entries.mapM item
  | _ => none

/-- An array of hexadecimal texts. -/
def normalizeHexArray (value : Value) : Option (List Json) :=
  normalizeArray value fun entry => (normalizeHex entry).map Json.str

/-- The value whose text is hashed. -/
def canonicalPayload (value : Value) : Option Json := do
  let record ← asRecord value
  let version ← normalizeInteger (pick record ["version"])
  let cellDeps ← normalizeArray (pick record ["cellDeps", "cell_deps"]) normalizeCellDep
  let headerDeps ← normalizeHexArray (pick record ["headerDeps", "header_deps"])
  let inputs ← normalizeArray (pick record ["inputs"]) normalizeInput
  let outputs ← normalizeArray (pick record ["outputs"]) normalizeOutput
  let outputsData ← normalizeHexArray (pick record ["outputsData", "outputs_data"])
  let witnesses ← normalizeHexArray (pick record ["witnesses"])
  if outputs.length ≠ outputsData.length then none
  else
    some (.obj
      [("version", .str version), ("cellDeps", .arr cellDeps), ("headerDeps", .arr headerDeps),
        ("inputs", .arr inputs), ("outputs", .arr outputs), ("outputsData", .arr outputsData),
        ("witnesses", .arr witnesses)])

/-- The text `signedPayloadFingerprintSha256` hashes. -/
def canonicalText (value : Value) : Option String := (canonicalPayload value).map Json.stringify

/-- `signedPayloadFingerprintSha256`, over the digits of a SHA-256. -/
def signedPayloadFingerprintSha256 (sha256 : String → String) (value : Value) : Option String :=
  (canonicalText value).map fun canonical => "0x" ++ sha256 canonical

/-! ## Spellings of hashes and integers -/

/-- A hash is read in any case, blanks around it dropped; here there are none. -/
theorem isTrimmed_toLower (c : Char) : isTrimmed c.toLower = isTrimmed c :=
  Js.toLower_ind (motive := fun c d => isTrimmed d = isTrimmed c) (by decide) (fun _ _ => rfl) c

/-- A text without blanks is its own trim. -/
theorem trim_eq_self {s : String} (h : ∀ c ∈ s.toList, isTrimmed c = false) : trim s = s := by
  have hkept : ∀ {l : List Char}, (∀ c ∈ l, isTrimmed c = false) → l.dropWhile isTrimmed = l := by
    intro l hl
    cases l with
    | nil => rfl
    | cons c l => rw [List.dropWhile_cons_of_neg (by rw [hl c List.mem_cons_self]; decide)]
  rw [trim, hkept h, hkept (fun c hc => h c (List.mem_reverse.mp hc)), List.reverse_reverse,
    String.ofList_toList]

/-- The same for a text whose lower case has none. -/
theorem trim_of_toLower {s : String} {lower : List Char} (hs : s.toList.map Char.toLower = lower)
    (h : ∀ c ∈ lower, isTrimmed c = false) : trim s = s := by
  refine trim_eq_self fun c hc => ?_
  rw [← isTrimmed_toLower]
  refine h _ ?_
  rw [← hs]
  exact List.mem_map_of_mem hc

end CellFlow
