/-
# CellFlow.Scripts.DbTestGuard — the guard of the database tests (`scripts/db-test-guard.mjs`).

Tests that write PostgreSQL records run only against an isolated Neon branch or the service container
of a CI job.  `validateDbTestEnvironment` lists what speaks against the environment it is given.
The URL parser and `toLowerCase` are the platform's, and parameters here.
-/
import CellFlow.Core.Validation
import CellFlow.Lib.Text

namespace CellFlow

open Js (includes replaceFirst)

/-- A parsed `URL`, as far as the guard reads it; `sslmode` is `searchParams.get('sslmode')`. -/
structure ConnectionUrl where
  href : String
  protocol : String
  hostname : String
  port : String
  pathname : String
  username : String
  password : String
  sslmode : Option String
  deriving DecidableEq, Repr

/-- What the guard answers. -/
structure GuardVerdict where
  ok : Bool
  problems : List String
  deriving DecidableEq, Repr

/-- `if (found) problems.push(text)`. -/
def problemIf (found : Bool) (text : String) : List String := if found then [text] else []

@[simp] theorem problemIf_eq_nil {found : Bool} {text : String} :
    problemIf found text = [] ↔ found = false := by
  cases found <;> simp [problemIf]

/-- `/^[a-z0-9.-]+$/`. -/
def isHostText (text : String) : Bool :=
  text ≠ "" && text.toList.all fun c =>
    ('a' ≤ c && c ≤ 'z') || ('0' ≤ c && c ≤ '9') || c = '.' || c = '-'

/-- The protocol is PostgreSQL's. -/
def isPostgres (url : ConnectionUrl) : Bool :=
  url.protocol = "postgres:" || url.protocol = "postgresql:"

/-- The connection refuses to go without TLS. -/
def requiresTls (url : ConnectionUrl) : Bool :=
  url.sslmode = some "require" || url.sslmode = some "verify-ca" || url.sslmode = some "verify-full"

section Guard

variable (parse : String → Option ConnectionUrl) (lower : String → String)
  (env : String → Option String)

/-- The host the tests are meant for. -/
def expectedHost : String := lower (trim ((env "CELLFLOW_DB_TEST_EXPECTED_HOST").getD ""))

/-- The host of the production database. -/
def expectedProductionHost : String := lower (trim ((env "CELLFLOW_PRODUCTION_DB_HOST").getD ""))

/-- `new URL(env.DATABASE_URL ?? '')`. -/
def pooledUrl : Option ConnectionUrl := parse ((env "DATABASE_URL").getD "")

/-- The direct hostname that belongs to a pooled one. -/
def directHost (pooled : ConnectionUrl) : String :=
  lower (String.ofList (replaceFirst "-pooler.".toList ['.'] pooled.hostname.toList))

/-! ## The CI service container -/

/-- `validateLocal`: a connection to a database on this machine. -/
def validateLocal (value : Option String) (name : String) : List String × Option ConnectionUrl :=
  match parse (value.getD "") with
  | none => ([name ++ " is absent or is not a PostgreSQL URL."], none)
  | some url =>
      (problemIf (!isPostgres url || url.hostname ≠ "127.0.0.1" || url.port ≠ "5432" ||
          url.pathname ≠ "/cellflow_ci" || url.username ≠ "cellflow_ci" || url.password = "" ||
          url.sslmode ≠ some "disable")
        (name ++ " must target the disposable 127.0.0.1:5432/cellflow_ci PostgreSQL service."),
        some url)

/-- The checks of a CI service's own database. -/
def serviceProblems : List String :=
  let pooled := validateLocal parse (env "DATABASE_URL") "DATABASE_URL"
  let direct := validateLocal parse (env "DATABASE_URL_UNPOOLED") "DATABASE_URL_UNPOOLED"
  problemIf (env "GITHUB_ACTIONS" ≠ some "true" || env "CI" ≠ some "true")
      "Ephemeral PostgreSQL service mode requires GitHub Actions CI." ++
    problemIf (env "NODE_ENV" = some "production" || env "VERCEL_ENV" = some "production" ||
        env "CELLFLOW_TESTNET_CI" = some "true")
      "Database integration tests cannot run in production or Testnet wallet jobs." ++
    pooled.1 ++ direct.1 ++
    match pooled.2, direct.2 with
    | some a, some b =>
        problemIf (a.href ≠ b.href) "Both local PostgreSQL URLs must be exactly identical."
    | _, _ => []

/-! ## The isolated branch -/

/-- The checks of the host that is expected. -/
def hostProblems : List String :=
  problemIf (expectedHost lower env = "" || !isHostText (expectedHost lower env) ||
      includes "://".toList (expectedHost lower env).toList)
      "Set CELLFLOW_DB_TEST_EXPECTED_HOST to the exact pooled hostname of the isolated test branch." ++
    problemIf (expectedProductionHost lower env = "" || !isHostText (expectedProductionHost lower env))
      "Set CELLFLOW_PRODUCTION_DB_HOST to the real production hostname for negative isolation checks." ++
    problemIf (expectedProductionHost lower env ≠ "" &&
        expectedHost lower env = expectedProductionHost lower env)
      "The isolated test host and production host must be different." ++
    problemIf (env "NODE_ENV" = some "production" || env "VERCEL_ENV" = some "production")
      "Database integration tests must never run in a production runtime." ++
    problemIf (env "CELLFLOW_TESTNET_CI" = some "true")
      "Database tests and funded-wallet Testnet tests must be separate jobs."

/-- The checks of the pooled connection. -/
def pooledProblems : List String :=
  match pooledUrl parse env with
  | none => ["DATABASE_URL is missing or invalid."]
  | some pooled =>
      let host := lower pooled.hostname
      problemIf (!isPostgres pooled || pooled.hostname = "" || pooled.password = "")
          "DATABASE_URL must be a complete PostgreSQL connection URL." ++
        problemIf (!(".neon.tech".toList.isSuffixOf host.toList) ||
            !includes "-pooler.".toList host.toList)
          "Test runtime must use an actual Neon pooled hostname." ++
        problemIf (host ≠ expectedHost lower env)
          "DATABASE_URL hostname does not match the expected isolated test host." ++
        problemIf (expectedProductionHost lower env ≠ "" && host = expectedProductionHost lower env)
          "Test database must not share the production database hostname." ++
        problemIf (!requiresTls pooled)
          "Require TLS using sslmode=require (or stronger) for Neon test connections."

/-- The checks of the direct connection. -/
def directProblems : List String :=
  match truthy (env "DATABASE_URL_UNPOOLED") with
  | none => ["DATABASE_URL_UNPOOLED is required to migrate the isolated test branch directly."]
  | some text =>
      match parse text with
      | none => ["DATABASE_URL_UNPOOLED is invalid."]
      | some direct =>
          let pooled := pooledUrl parse env
          problemIf (some (lower direct.hostname) ≠ pooled.map (directHost lower) ||
              some direct.pathname ≠ pooled.map ConnectionUrl.pathname ||
              some direct.username ≠ pooled.map ConnectionUrl.username ||
              some direct.password ≠ pooled.map ConnectionUrl.password)
              "DATABASE_URL_UNPOOLED must identify the same isolated Neon test branch, database and user." ++
            problemIf (!requiresTls direct) "Direct migration connection must require TLS."

/-! ## The guard -/

/-- `validateDbTestEnvironment`: every problem found, in the order of the source. -/
def validateDbTestEnvironment : GuardVerdict :=
  let mode := env "CELLFLOW_DB_TEST_CONFIRM_ISOLATED"
  let problems :=
    problemIf (env "CELLFLOW_DB_TEST_ALLOW" ≠ some "true")
        "Explicit CELLFLOW_DB_TEST_ALLOW=true is required." ++
      problemIf (mode ≠ some "isolated-neon-branch" && mode ≠ some "github-actions-postgres-service")
        "Choose isolated-neon-branch or github-actions-postgres-service for CELLFLOW_DB_TEST_CONFIRM_ISOLATED." ++
      if mode = some "github-actions-postgres-service" then serviceProblems parse env
      else hostProblems lower env ++ pooledProblems parse lower env ++ directProblems parse lower env
  { ok := problems.isEmpty, problems := problems }

end Guard

end CellFlow
