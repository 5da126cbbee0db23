/-
# CellFlow.Properties.TestDatabase — the database tests stay away from production.

What the guard admits in branch mode is read off its list of problems, one fact for each check.  The
negative check compares the production hostname with the pooled URL only; the direct URL is tied to
the pooled one, so it is safe exactly when the production hostname is not the direct form of the
pooled test host (`guard_isolates_iff`).
-/
import CellFlow.Scripts.DbTestGuard

namespace CellFlow

section Admitted

variable {parse : String → Option ConnectionUrl} {lower : String → String}
  {env : String → Option String}

/-- What an accepted environment in branch mode names. -/
structure AdmittedTarget (parse : String → Option ConnectionUrl) (lower : String → String)
    (env : String → Option String) (pooled direct : ConnectionUrl) : Prop where
  pooled_url : pooledUrl parse env = some pooled
  direct_url : ∃ text, env "DATABASE_URL_UNPOOLED" = some text ∧ parse text = some direct
  pooled_host : lower pooled.hostname ≠ expectedProductionHost lower env
  pooled_tls : requiresTls pooled = true
  direct_host : lower direct.hostname = directHost lower pooled
  direct_tls : requiresTls direct = true
  database : direct.pathname = pooled.pathname
  user : direct.username = pooled.username
  password : direct.password = pooled.password

theorem productionHost_ne_empty (h : hostProblems lower env = []) :
    expectedProductionHost lower env ≠ "" := by
  intro hempty
  simp [hostProblems, hempty] at h

theorem pooledProblems_eq_nil (h : pooledProblems parse lower env = [])
    (hproduction : expectedProductionHost lower env ≠ "") :
    ∃ pooled, pooledUrl parse env = some pooled ∧
      lower pooled.hostname ≠ expectedProductionHost lower env ∧ requiresTls pooled = true := by
  rw [pooledProblems] at h
  split at h
  · cases h
  next pooled hpooled =>
    simp only [List.append_eq_nil_iff, problemIf_eq_nil] at h
    obtain ⟨⟨-, hhost⟩, htls⟩ := h
    refine ⟨pooled, hpooled, ?_, by simpa using htls⟩
    simpa [hproduction] using hhost

theorem directProblems_eq_nil (h : directProblems parse lower env = []) {pooled : ConnectionUrl}
    (hpooled : pooledUrl parse env = some pooled) :
    ∃ text direct, env "DATABASE_URL_UNPOOLED" = some text ∧ parse text = some direct ∧
      lower direct.hostname = directHost lower pooled ∧ direct.pathname = pooled.pathname ∧
      direct.username = pooled.username ∧ direct.password = pooled.password ∧
      requiresTls direct = true := by
  rw [directProblems] at h
  split at h
  · cases h
  next text htext =>
    split at h
    · cases h
    next direct hdirect =>
      simp only [List.append_eq_nil_iff, problemIf_eq_nil, hpooled, Option.map_some,
        Bool.or_eq_false_iff, decide_eq_false_iff_not, not_not, Option.some.injEq,
        Bool.not_eq_false'] at h
      obtain ⟨⟨⟨⟨hhost, hpath⟩, huser⟩, hpassword⟩, htls⟩ := h
      exact ⟨text, direct, (truthy_eq_some.mp htext).1, hdirect, hhost, hpath, huser, hpassword, htls⟩

/-- **What the guard admits** in branch mode. -/
theorem admitted_of_ok (hmode : env "CELLFLOW_DB_TEST_CONFIRM_ISOLATED" = some "isolated-neon-branch")
    (hok : (validateDbTestEnvironment parse lower env).ok = true) :
    ∃ pooled direct, AdmittedTarget parse lower env pooled direct := by
  rw [validateDbTestEnvironment, List.isEmpty_iff, hmode, if_neg (by decide)] at hok
  simp only [List.append_eq_nil_iff] at hok
  obtain ⟨-, ⟨hhosts, hpooled⟩, hdirect⟩ := hok
  obtain ⟨pooled, hurl, hhost, htls⟩ := pooledProblems_eq_nil hpooled (productionHost_ne_empty hhosts)
  obtain ⟨text, direct, htext, hparse, hderived, hpath, huser, hpassword, hdirectTls⟩ :=
    directProblems_eq_nil hdirect hurl
  exact ⟨pooled, direct, hurl, ⟨text, htext, hparse⟩, hhost, htls, hderived, hdirectTls, hpath,
    huser, hpassword⟩

end Admitted

/-! ## Isolation from production -/

/-- Both URLs are there; neither names the production host, both require TLS, and they name the same
database, user and password. -/
def IsolatedTarget (parse : String → Option ConnectionUrl) (lower : String → String)
    (env : String → Option String) : Prop :=
  ∃ pooled direct, pooledUrl parse env = some pooled ∧
    (∃ text, env "DATABASE_URL_UNPOOLED" = some text ∧ parse text = some direct) ∧
    lower pooled.hostname ≠ expectedProductionHost lower env ∧
    lower direct.hostname ≠ expectedProductionHost lower env ∧
    requiresTls pooled = true ∧ requiresTls direct = true ∧
    direct.pathname = pooled.pathname ∧ direct.username = pooled.username ∧
    direct.password = pooled.password

/-- An admitted environment keeps both URLs off the production host exactly when that host is not
the direct form of the pooled test host. -/
theorem guard_isolates_iff (parse : String → Option ConnectionUrl) (lower : String → String)
    (env : String → Option String)
    (hmode : env "CELLFLOW_DB_TEST_CONFIRM_ISOLATED" = some "isolated-neon-branch")
    (hok : (validateDbTestEnvironment parse lower env).ok = true) :
    IsolatedTarget parse lower env ↔
      ∀ pooled, pooledUrl parse env = some pooled →
        directHost lower pooled ≠ expectedProductionHost lower env := by
  obtain ⟨pooled, direct, admitted⟩ := admitted_of_ok hmode hok
  constructor
  · rintro ⟨pooled', direct', hpooled', ⟨text', htext', hparse'⟩, -, hhost', -⟩ other hother
    obtain rfl : other = pooled := Option.some.inj (hother.symm.trans admitted.pooled_url)
    obtain ⟨text, htext, hparse⟩ := admitted.direct_url
    obtain rfl : text' = text := Option.some.inj (htext'.symm.trans htext)
    obtain rfl : direct' = direct := Option.some.inj (hparse'.symm.trans hparse)
    rw [← admitted.direct_host]
    exact hhost'
  · intro h
    refine ⟨pooled, direct, admitted.pooled_url, admitted.direct_url, admitted.pooled_host, ?_,
      admitted.pooled_tls, admitted.direct_tls, admitted.database, admitted.user, admitted.password⟩
    rw [admitted.direct_host]
    exact h pooled admitted.pooled_url

/-! ## The production branch itself -/

/-- The parts of a connection URL to `host`. -/
def neonUrl (host : String) : ConnectionUrl where
  href := "postgresql://test_user:synthetic@" ++ host ++ "/neondb?sslmode=require"
  protocol := "postgresql:"
  hostname := host
  port := ""
  pathname := "/neondb"
  username := "test_user"
  password := "synthetic"
  sslmode := some "require"

/-- A URL parser for connection URLs to two hosts. -/
def neonParser (text : String) : Option ConnectionUrl :=
  ["ep-a-pooler.neon.tech", "ep-a.neon.tech"].findSome? fun host =>
    if text = (neonUrl host).href then some (neonUrl host) else none

/-- The environment of a test run on branch `ep-a`, with a production hostname. -/
def neonEnv (productionHost : String) : String → Option String
  | "CELLFLOW_DB_TEST_ALLOW" => some "true"
  | "CELLFLOW_DB_TEST_CONFIRM_ISOLATED" => some "isolated-neon-branch"
  | "CELLFLOW_DB_TEST_EXPECTED_HOST" => some "ep-a-pooler.neon.tech"
  | "CELLFLOW_PRODUCTION_DB_HOST" => some productionHost
  | "DATABASE_URL" => some (neonUrl "ep-a-pooler.neon.tech").href
  | "DATABASE_URL_UNPOOLED" => some (neonUrl "ep-a.neon.tech").href
  | _ => none

theorem guard_isolates_iff_neon :
    IsolatedTarget neonParser toLowerCase (neonEnv "ep-prod-pooler.neon.tech") ↔
      ∀ pooled, pooledUrl neonParser (neonEnv "ep-prod-pooler.neon.tech") = some pooled →
        directHost toLowerCase pooled ≠
          expectedProductionHost toLowerCase (neonEnv "ep-prod-pooler.neon.tech") :=
  guard_isolates_iff neonParser toLowerCase _ (by decide +kernel) (by decide +kernel)

/-- With the production hostname in direct form, the guard admits the production branch: tests would
write through both URLs to it. -/
theorem production_branch_admitted :
    (validateDbTestEnvironment neonParser toLowerCase (neonEnv "ep-a.neon.tech")).ok = true ∧
      ¬ IsolatedTarget neonParser toLowerCase (neonEnv "ep-a.neon.tech") := by
  have hok : (validateDbTestEnvironment neonParser toLowerCase (neonEnv "ep-a.neon.tech")).ok =
      true := by decide +kernel
  refine ⟨hok, ?_⟩
  rintro ⟨pooled, direct, -, ⟨text, htext, hparse⟩, -, hhost, -⟩
  obtain rfl : (neonUrl "ep-a.neon.tech").href = text := Option.some.inj htext
  have hdirect : neonParser (neonUrl "ep-a.neon.tech").href = some (neonUrl "ep-a.neon.tech") := by
    decide +kernel
  obtain rfl : neonUrl "ep-a.neon.tech" = direct := Option.some.inj (hdirect.symm.trans hparse)
  exact hhost (by decide +kernel)

end CellFlow
