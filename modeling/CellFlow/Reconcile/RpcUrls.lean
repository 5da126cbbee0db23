/-
# CellFlow.Reconcile.RpcUrls — the configured endpoints (`workflows/reconcile/src/rpc.ts`).

Endpoint lists come from the project and the environment, separated by blanks and commas.
`parseRpcUrls` reads them with the platform's URL parser, a parameter here.  The client parses the
list it is given once more, and opens its sessions along the result.
-/
import CellFlow.Core.SignedPayload
import CellFlow.Lib.Collect
import Mathlib.Data.List.Sort

namespace CellFlow

/-- A parsed `URL`, as far as endpoints are judged by it; `href` is its serialization. -/
structure Url where
  href : String
  protocol : String
  username : String
  password : String
  deriving DecidableEq, Repr

/-- `new URL(text)`; `none` where it throws. -/
abbrev UrlParser : Type := String → Option Url

/-! ## Splitting -/

/-- `[\s,]`. -/
def isSeparator (c : Char) : Bool := isTrimmed c || c = ','

/-- The character before the first part. -/
def prepend (c : Char) : List (List Char) → List (List Char)
  | [] => [[c]]
  | part :: parts => (c :: part) :: parts

/-- `source.split(/[\s,]+/)`. -/
def splitSource : List Char → List (List Char)
  | [] => [[]]
  | [c] => if isSeparator c then [[], []] else [[c]]
  | c :: d :: rest =>
      if isSeparator c then
        -- one run of separators is one boundary
        if isSeparator d then splitSource (d :: rest) else [] :: splitSource (d :: rest)
      else prepend c (splitSource (d :: rest))

/-! ## Parsing -/

/-- The URLs so far, and the keys they were told apart by. -/
structure ParsedUrls where
  seen : List String
  urls : List String
  deriving DecidableEq, Repr

section Parsing

variable (parse : UrlParser)

/-- The endpoint a spelling is accepted as. -/
def acceptedUrl (value : String) : Option String :=
  match parse value with
  | none => none
  | some parsed =>
      if parsed.protocol ≠ "https:" ∧ parsed.protocol ≠ "http:" then none
      else if parsed.username ≠ "" ∨ parsed.password ≠ "" then none
      else some parsed.href

/-- One turn of the inner loop. -/
def parsePart (acc : ParsedUrls) (part : List Char) : ParsedUrls :=
  let value := trim (String.ofList part)
  if value = "" ∨ value ∈ acc.seen then acc
  else
    match acceptedUrl parse value with
    | none => acc
    | some href => { seen := href :: acc.seen, urls := acc.urls ++ [href] }

/-- One turn of the outer loop. -/
def parseSource (acc : ParsedUrls) (source : Option String) : ParsedUrls :=
  match truthy source with
  | none => acc
  | some source => (splitSource source.toList).foldl (parsePart parse) acc

/-- `parseRpcUrls`: the URLs of all sources in order, each once. -/
def parseRpcUrls (sources : List (Option String)) : List String :=
  (sources.foldl (parseSource parse) { seen := [], urls := [] }).urls

/-! ## The client -/

/-- `new CkbRpcClient(urls)`: the list it holds. -/
def newCkbRpcClient (urls : List String) : Except String (List String) :=
  let parsed := parseRpcUrls parse (urls.map some)
  if parsed = [] then .error "At least one valid CKB RPC URL is required" else .ok parsed

end Parsing

section Failover

variable (cooldownUntil : String → Option Int) (now : Int)

/-- The endpoints that are not cooling down; if all are, the one that is ready first. -/
def healthyFirst (urls : List String) : List String :=
  let available := urls.filter fun url => (cooldownUntil url).getD 0 ≤ now
  if available ≠ [] then available
  else (urls.mergeSort fun a b => (cooldownUntil a).getD 0 ≤ (cooldownUntil b).getD 0).take 1

/-- The endpoints one call opens a session with, in turn, until one comes through. -/
def sessionsTried (comesThrough : Nat → String → Bool) : Nat → List String → List String
  | _, [] => []
  | n, url :: rest =>
      if comesThrough n url then [url] else url :: sessionsTried comesThrough (n + 1) rest

/-- `inspectInputOutPointsAt` answers for the endpoints the client holds. -/
def inspectableAt (urls : List String) (endpoint : String) : Bool := endpoint ∈ urls

end Failover

end CellFlow
