/-
# CellFlow.Client.BroadcastErrors — what a failed broadcast says (`packages/ccc/src/broadcast-errors.ts`).

A wallet, a proxy or a node may throw anything.  The texts of an error and its causes are joined to one
evidence text, and four patterns over that text decide whether the node rejected the transaction or
whether the outcome is unknown.
-/
import CellFlow.Core.Validation
import CellFlow.Lib.Regex

namespace CellFlow

open Js (Json Regex)
open Js.Regex (lit oneOf optional)

/-! ## What is thrown -/

/-- `record.data`: absent, a string, or a value with what `JSON.stringify` makes of it (`none` where it
throws or gives none). -/
inductive EvidenceData where
  | absent
  | text (s : String)
  | value (json : Option String)
  deriving DecidableEq, Repr

/-- A thrown value.  An object has the members the classifier reads, `none` where one is not there with
its type; `text` is `String(error)`. -/
inductive Thrown where
  | primitive (text : String)
  | object (isError : Bool) (message name code : Option String) (data : EvidenceData)
      (cause : Thrown) (text : String)
  deriving DecidableEq, Repr

/-- `String(error)`. -/
def Thrown.asText : Thrown → String
  | .primitive text => text
  | .object _ _ _ _ _ _ text => text

/-! ## The patterns -/

/-- `.`: any character but a line terminator. -/
def isDot (c : Char) : Bool :=
  c ≠ '\n' && c ≠ '\r' && c ≠ Char.ofNat 0x2028 && c ≠ Char.ofNat 0x2029

/-- `.*`, which stops at the end of a line. -/
def anyRun : Regex := .many isDot

/-- `\s*`. -/
def blankRun : Regex := .many isTrimmed

/-- A text of a pattern. -/
def phrase (text : String) : Regex := lit text.toList

/-- `first.*(?:later)`. -/
def phraseThen (first : String) (later : List String) : Regex :=
  .seq (phrase first) (.seq anyRun (oneOf ((later.map String.toList).map lit)))

/-- `\bword\b`. -/
def wholeWord (text : String) : Regex := .seq .boundary (.seq (phrase text) .boundary)

/-- `\b50[234]\b`. -/
def gatewayStatus : Regex :=
  .seq .boundary (.seq (phrase "50") (.seq (.one fun c => ['2', '3', '4'].contains c) .boundary))

/-- `transportPattern`, an alternative for each text. -/
def transportPattern : Regex :=
  oneOf [phrase "timeout", phrase "timed out", phrase "network", phrase "fetch failed",
    phrase "connection", phrase "econnreset", phrase "econnrefused", phrase "socket",
    .seq (phrase "abort") (optional (oneOf [phrase "ed", phrase "error"])), phrase "dns",
    phrase "enotfound", phrase "gateway", phrase "internal error", phrase "server error",
    phrase "temporarily unavailable", gatewayStatus]

/-- `maturityOrSincePattern`: the rejections that pass with time. -/
def maturityOrSincePattern : Regex :=
  oneOf [wholeWord "immature", phraseThen "cellbase" ["mature", "maturity"],
    phraseThen "since" ["not", "invalid", "mature", "satisfied", "reached"],
    phraseThen "not" ["mature"], phraseThen "maturity" ["not", "require", "fail"]]

/-- `unknown out\s*point`. -/
def unknownOutPoint : Regex := .seq (phrase "unknown out") (.seq blankRun (phrase "point"))

/-- `replace(?:ment)?`. -/
def replaceWord : Regex := .seq (phrase "replace") (optional (phrase "ment"))

/-- The alternatives of `rejectionPattern` in their order. -/
def rejectionAlternatives : List Regex :=
  [phraseThen "pool" ["reject"], phraseThen "transaction" ["reject"], phrase "invalid transaction",
    phrase "invalid tx", phrase "verification failed", phraseThen "script" ["failed", "error"],
    phraseThen "resolve" ["failed"], unknownOutPoint, phrase "unknown(outpoint",
    phrase "dead(outpoint", phrase "dead input", phrase "already spent", phrase "fee too low",
    replaceWord, phrase "poolrejectedrbf", wholeWord "rbf", phrase "unconfirmed input",
    wholeWord "immature", phraseThen "cellbase" ["mature", "maturity"],
    phraseThen "since" ["not", "invalid", "mature", "satisfied", "reached"],
    phraseThen "not" ["mature"]]

/-- `rejectionPattern`. -/
def rejectionPattern : Regex := oneOf rejectionAlternatives

/-- `inputConflictPattern`: the rejections that point at another transaction. -/
def inputConflictPattern : Regex :=
  oneOf [unknownOutPoint, phrase "unknown(outpoint", phrase "dead(outpoint", phrase "dead input",
    phrase "already spent", phrase "fee too low", replaceWord, phrase "poolrejectedrbf",
    wholeWord "rbf", phrase "unconfirmed input", phraseThen "input" ["conflict"]]

/-- `pattern.test(text)`. -/
def testPattern (pattern : Regex) (text : String) : Bool := pattern.test text.toList

/-! ## The evidence text -/

/-- `text.slice(0, n)` in UTF-16 units; half a pair at the cut is left out, no pattern sees it. -/
def takeUnits : Nat → List Char → List Char
  | _, [] => []
  | n, c :: rest =>
      let units := if c.toNat < 0x10000 then 1 else 2
      if units ≤ n then c :: takeUnits (n - units) rest else []

/-- `text.slice(0, n)`, in UTF-16 units. -/
def sliceText (n : Nat) (text : String) : String := String.ofList (takeUnits n text.toList)

/-- The texts of an error and its causes, to a depth of `depth` objects. -/
def evidenceParts : Nat → Thrown → List String
  | 0, _ => []
  | _ + 1, .primitive _ => []
  | depth + 1, .object _ message _ _ data cause _ =>
      message.toList ++
        (match data with
        | .absent => []
        | .text s => [s]
        | .value json => json.toList) ++
        evidenceParts depth cause

/-- `collectEvidenceText`: the texts of the error and its causes, joined and cut at 4000 units. -/
def collectEvidenceText (error : Thrown) : String :=
  let parts := (evidenceParts 4 error).filter (· ≠ "")
  let joined := " | ".intercalate parts
  sliceText 4000 (if joined = "" then error.asText else joined)

/-- The first code among an error and its causes. -/
def errorCodeFrom : Nat → Thrown → Option String
  | 0, _ => none
  | _ + 1, .primitive _ => none
  | depth + 1, .object _ _ _ code _ cause _ =>
      match code with
      | some code => some (sliceText 128 code)
      | none => errorCodeFrom depth cause

/-- `errorCode`: the first code along the chain of causes. -/
def errorCode (error : Thrown) : Option String := errorCodeFrom 4 error

/-- The name of a thrown object. -/
def errorName : Thrown → Option String
  | .primitive _ => none
  | .object _ _ name _ _ _ _ => name

/-! ## Classification -/

/-- What a failed broadcast is taken for. -/
inductive BroadcastOutcome where
  | ambiguous
  | nodeRejected
  deriving DecidableEq, Repr

/-- `ClassifiedSubmissionFailure`. -/
structure ClassifiedSubmissionFailure where
  errorCode : Option String
  errorType : SubmissionErrorType
  errorMessage : String
  conflictType : Option ConflictType
  details : List (String × Json)

/-- `{ ...(name ? { name } : {}), … }`. -/
def nameDetail (error : Thrown) : List (String × Json) :=
  match truthy (errorName error) with
  | some name => [("name", .str name)]
  | none => []

/-- `classifyBroadcastError`: a rejection if the text names one, else the outcome is open. -/
def classifyBroadcastError (error : Thrown) : BroadcastOutcome × ClassifiedSubmissionFailure :=
  let message := collectEvidenceText error
  let code := truthy (errorCode error)
  let explicitRejection := testPattern rejectionPattern message
  let conflictSuspected := explicitRejection && testPattern inputConflictPattern message
  let retryableMaturityOrSince := explicitRejection && testPattern maturityOrSincePattern message
  if explicitRejection then
    (.nodeRejected,
      { errorCode := code, errorType := .rpcRejection, errorMessage := message
        conflictType := if conflictSuspected then some .inputConflictSuspected else none
        details := nameDetail error ++
          [("classification", .str "explicit-node-rejection"),
            ("canonicalSpendConfirmed", .bool false)] ++
          if retryableMaturityOrSince then
            [("retryable", .bool true), ("retryReason", .str "CKB_MATURITY_OR_SINCE"),
              ("requiresResign", .bool false)]
          else [] })
  else
    (.ambiguous,
      { errorCode := code, errorType := .transportUnknown, errorMessage := message
        conflictType := none
        details := nameDetail error ++
          [("classification", .str (if testPattern transportPattern message then
            "transport-unknown" else "rpc-outcome-unknown"))] })

end CellFlow
