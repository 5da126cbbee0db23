/-
# CellFlow.Api.Auth — who may call the API (`apps/api/src/auth.ts`).

`authenticateBearer` asks the database twice: it looks the presented key up by its hash, and it counts
the request against the key.  Other calls come in between, and a key may be revoked there.  SHA-256 of
a key is a parameter.
-/
import CellFlow.Core.Validation
import CellFlow.Db.ApiKeys
import CellFlow.Db.RateLimit
import CellFlow.Lib.Text
import Mathlib.Logic.Function.Basic

namespace CellFlow

/-! ## The checks -/

/-- An error of `authenticateBearer`; the details are `requiredScope` and `grantedScopes`. -/
structure AuthError where
  code : String
  message : String
  statusCode : Nat
  details : Option (ApiKeyScope × List ApiKeyScope)
  deriving DecidableEq, Repr

/-- The error of a key that is missing, malformed, unknown, revoked or expired. -/
def authInvalid (message : String) : AuthError := ⟨"AUTH_INVALID", message, 401, none⟩

/-- The text of a scope in the `scopes` column. -/
def ApiKeyScope.text : ApiKeyScope → String
  | .read => "read"
  | .write => "write"
  | .admin => "admin"

/-- The key after `Bearer `, checked for its length. -/
def bearerKey (authorization : Option String) : Except AuthError String :=
  match authorization.bind fun header => "Bearer ".toList.isPrefixOf? header.toList with
  | none => .error (authInvalid "Missing Bearer API key")
  | some rest =>
      let key := trim (String.ofList rest)
      if Js.utf16Length key.toList < 20 then .error (authInvalid "Invalid API key") else .ok key

/-- `permitted`. -/
def ApiKeyRow.permits (key : ApiKeyRow) (requiredScope : ApiKeyScope) : Bool :=
  key.scopes.contains .admin || key.scopes.contains requiredScope

section Checks

variable (hashApiKey : String → String)

/-- `authenticateBearer` up to the check of the scope. -/
def lookUpBearer (authorization : Option String) (requiredScope : ApiKeyScope) (now : Int)
    (store : ApiKeyStore) : Except AuthError ApiKeyRow :=
  match bearerKey authorization with
  | .error e => .error e
  | .ok key =>
      match findAuthByApiKeyHash (hashApiKey key) now store with
      | none => .error (authInvalid "Invalid, revoked, or expired API key")
      | some row =>
          if row.permits requiredScope then .ok row
          else .error
            { code := "AUTH_SCOPE_REQUIRED"
              message := "API key requires " ++ requiredScope.text ++ " scope"
              statusCode := 403
              details := some (requiredScope, row.scopes) }

end Checks

/-- The statement that counts a request of a key.  `limit` is the floor of
`CELLFLOW_RATE_LIMIT_PER_MINUTE`, `none` where that is not finite. -/
def keyRequest (limit : Option Int) (projectId keyId : String) (now : Int) : RateRequest where
  projectId := projectId
  bucket := "api:" ++ keyId
  limit := limit.getD 240
  windowSeconds := 60
  now := now

/-- What `authenticateBearer` returns, the project's id, or throws after the count. -/
def answerBearer (projectId : String) :
    Except RateLimitError Bool → Except (AuthError ⊕ RateLimitError) String
  | .error thrown => .error (.inr thrown)
  | .ok false => .error (.inl ⟨"RATE_LIMITED", "API key rate limit exceeded", 429, none⟩)
  | .ok true => .ok projectId

/-! ## The first project -/

/-- The first key of a project. -/
def initialKey (projectId keyId prefixText hash : String) : ApiKeyRow where
  id := keyId
  projectId := projectId
  prefixText := prefixText
  hash := hash
  label := "default"
  scopes := [.read, .write, .admin]
  expiresAt := none
  revokedAt := none

/-- `createInitialProject`, with its advisory lock held: the project and its first key; `none` where a
project exists. -/
def createInitialProject (projectId keyId prefixText hash : String) (store : ApiKeyStore) :
    Option ApiKeyStore :=
  if store.projects = [] then
    some
      { projects := [projectId]
        keys := [initialKey projectId keyId prefixText hash]
        unique_id := List.nodup_singleton _
        unique_hash := List.nodup_singleton _
        owned := by
          intro key hkey
          rw [List.mem_singleton] at hkey ⊢
          rw [hkey]
          rfl }
  else none

/-! ## Calls under way -/

/-- The keys, the counts, and the calls that have been looked up and not yet counted. -/
structure AccessWorld where
  keys : ApiKeyStore
  rates : RateLimitStore
  pending : Nat → Option ApiKeyRow

/-- One statement or transaction, and what came of it. -/
inductive AccessEvent where
  | founded (projectId keyId prefixText hash : String)
  | created (input : ApiKeyInput)
  | revoked (projectId keyId : String) (result : RevokeResult)
  | lookedUp (call : Nat) (authorization : Option String) (requiredScope : ApiKeyScope) (now : Int)
      (refusal : Option AuthError)
  | counted (call : Nat) (projectId keyId : String) (now : Int) (result : Except RateLimitError Bool)
  | pruned (olderThanHours now : Int)

/-- The key an event has handed out, as it was then. -/
def AccessEvent.granted : AccessEvent → Option ApiKeyRow
  | .founded projectId keyId prefixText hash => some (initialKey projectId keyId prefixText hash)
  | .created input => some input.row
  | _ => none

section Steps

variable (hashApiKey : String → String) (limit : Option Int)

/-- What one call, or a cleanup, does next. -/
inductive AccessStep : AccessWorld → AccessEvent → AccessWorld → Prop where
  | found {w : AccessWorld} {projectId keyId prefixText hash : String} {keys : ApiKeyStore}
      (hfound : createInitialProject projectId keyId prefixText hash w.keys = some keys) :
      AccessStep w (.founded projectId keyId prefixText hash) { w with keys := keys }
  | create {w : AccessWorld} {input : ApiKeyInput} {keys : ApiKeyStore}
      (hcreate : createApiKey input w.keys = some keys) :
      AccessStep w (.created input) { w with keys := keys }
  | revoke {w : AccessWorld} (projectId keyId : String) (now clock : Int) :
      AccessStep w (.revoked projectId keyId (revokeApiKey projectId keyId now clock w.keys).2)
        { w with keys := (revokeApiKey projectId keyId now clock w.keys).1 }
  | refuse {w : AccessWorld} {call : Nat} {authorization : Option String}
      {requiredScope : ApiKeyScope} {now : Int} {refusal : AuthError} (hnew : w.pending call = none)
      (hlook : lookUpBearer hashApiKey authorization requiredScope now w.keys = .error refusal) :
      AccessStep w (.lookedUp call authorization requiredScope now (some refusal)) w
  | lookUp {w : AccessWorld} {call : Nat} {authorization : Option String}
      {requiredScope : ApiKeyScope} {now : Int} {key : ApiKeyRow} (hnew : w.pending call = none)
      (hlook : lookUpBearer hashApiKey authorization requiredScope now w.keys = .ok key) :
      AccessStep w (.lookedUp call authorization requiredScope now none)
        { w with pending := Function.update w.pending call (some key) }
  | count {w : AccessWorld} {call : Nat} {key : ApiKeyRow} (now : Int)
      (hpending : w.pending call = some key) :
      AccessStep w
        (.counted call key.projectId key.id now
          (consumeRateLimit (keyRequest limit key.projectId key.id now) w.rates).1)
        { w with
          rates := (consumeRateLimit (keyRequest limit key.projectId key.id now) w.rates).2
          pending := Function.update w.pending call none }
  | prune {w : AccessWorld} (olderThanHours now : Int) :
      AccessStep w (.pruned olderThanHours now)
        { w with rates := (pruneRateLimits olderThanHours now w.rates).1 }

end Steps

/-- The database before its first project. -/
def emptyAccess : AccessWorld where
  keys := ⟨[], [], List.nodup_nil, List.nodup_nil, by simp⟩
  rates := noRequests
  pending := fun _ => none

end CellFlow
