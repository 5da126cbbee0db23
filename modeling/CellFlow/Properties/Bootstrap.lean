/-
# CellFlow.Properties.Bootstrap — one first project.

Any number of setups, by hand and automatic, of any number of processes, wait for the advisory lock, run
their statements, fail or come through, in any order.  The first to come through makes the only project
and its key lets in; every other is told so (`setup_once`).
-/
import CellFlow.Api.Bootstrap
import CellFlow.Properties.Authentication

namespace CellFlow

open Runs (Run)
open Locked (Alone Event start)

/-- A move of a connection that runs a setup. -/
abbrev SetupEvent : Type := Event ApiKeyStore (Option String) Unit

/-- The setups that came through, with what they returned, in the order of their commits. -/
def setupCalls (events : List SetupEvent) :
    List (Locked.Txn ApiKeyStore (Option String) Unit × Option String) :=
  events.filterMap Event.committed?

section

variable (hashApiKey : String → String)

/-- Every transaction is a call of `createInitialProject`, of a setup among those `allowed`. -/
def OnlySetups (allowed : Setup → Prop) (events : List SetupEvent) : Prop :=
  ∀ id program, .begin id program ∈ events →
    ∃ setup, allowed setup ∧ program = setup.createInitialProject hashApiKey

/-- The key passes the look-up of a request and its scope check, with any scope at any time.  The rate
limit, which comes after both, is apart. -/
def LetsIn (key : LiveKey) (projectId : String) (store : ApiKeyStore) : Prop :=
  ∀ requiredScope now, ∃ row, row.projectId = projectId ∧
    lookUpBearer hashApiKey (some ("Bearer " ++ key.text)) requiredScope now store = .ok row

/-- The first setup has made the only project, and the others were told. -/
structure SetUpBy (setup : Setup)
    (rest : List (Locked.Txn ApiKeyStore (Option String) Unit × Option String))
    (store : ApiKeyStore) : Prop where
  projects : store.projects = [setup.projectId]
  keys : store.keys = [setup.row hashApiKey]
  others : ∀ call ∈ rest, call.2 = none

variable {hashApiKey} {store store' : ApiKeyStore} {setup : Setup} {answer : Option String}

/-- A key as it is handed out passes the checks of the header. -/
theorem bearerKey_live (key : LiveKey) : bearerKey (some ("Bearer " ++ key.text)) = .ok key.text := by
  have hheader : "Bearer ".toList.isPrefixOf? ("Bearer " ++ key.text).toList =
      some key.text.toList := by
    rw [String.toList_append]
    exact Js.isPrefixOf?_append _ _
  unfold bearerKey
  rw [Option.bind_some, hheader]
  show (if Js.utf16Length (trim (String.ofList key.text.toList)).toList < 20 then _ else _) = _
  have hlong := key.long
  rw [String.ofList_toList, key.trimmed, if_neg (by omega)]

theorem SetUpBy.letsIn
    {rest : List (Locked.Txn ApiKeyStore (Option String) Unit × Option String)}
    (h : SetUpBy hashApiKey setup rest store) : LetsIn hashApiKey setup.key setup.projectId store := by
  intro requiredScope now
  refine ⟨setup.row hashApiKey, rfl, ?_⟩
  have hfound : findAuthByApiKeyHash (hashApiKey setup.key.text) now store =
      some (setup.row hashApiKey) := by
    rw [findAuthByApiKeyHash, h.keys, List.find?_cons_of_pos]
    rw [Bool.and_eq_true, decide_eq_true_eq]
    exact ⟨rfl, rfl⟩
  unfold lookUpBearer
  rw [bearerKey_live]
  simp only [hfound]
  exact if_pos rfl

/-- One setup alone, where there is no project and where there is one. -/
theorem createInitialProject_alone
    (h : Alone store (setup.createInitialProject hashApiKey, answer) store') :
    (store.projects = [] ∧ answer = some setup.projectId ∧ store'.projects = [setup.projectId] ∧
        store'.keys = [setup.row hashApiKey]) ∨
      store.projects ≠ [] ∧ answer = none ∧ store' = store := by
  have hrun := h
  rw [Alone, Setup.createInitialProject_run] at hrun
  unfold createInitialProject at hrun
  split_ifs at hrun with hempty
  · obtain ⟨rfl, rfl⟩ := Prod.mk.inj (Except.ok.inj hrun)
    exact Or.inl ⟨hempty, rfl, rfl, rfl⟩
  · obtain ⟨rfl, rfl⟩ := Prod.mk.inj (Except.ok.inj hrun)
    exact Or.inr ⟨hempty, rfl, rfl⟩

theorem setUp_serial {allowed : Setup → Prop}
    {calls : List (Locked.Txn ApiKeyStore (Option String) Unit × Option String)}
    (h : Run Alone emptyAccess.keys calls store)
    (honly : ∀ call ∈ calls, ∃ setup, allowed setup ∧
      call.1 = setup.createInitialProject hashApiKey) :
    (calls = [] ∧ store.projects = []) ∨
      ∃ setup rest, allowed setup ∧
        calls = (setup.createInitialProject hashApiKey, some setup.projectId) :: rest ∧
        SetUpBy hashApiKey setup rest store := by
  induction h with
  | start => exact Or.inl ⟨rfl, rfl⟩
  | @next calls store call store' hrun hs ih =>
      have hbefore := ih fun other hother => honly other (List.mem_append_left _ hother)
      obtain ⟨program, answer⟩ := call
      obtain ⟨setup, hallowed, hprogram⟩ :=
        honly (program, answer) (List.mem_append_right _ List.mem_cons_self)
      obtain rfl : program = setup.createInitialProject hashApiKey := hprogram
      right
      rcases createInitialProject_alone hs with
        ⟨hempty, rfl, hprojects, hkeys⟩ | ⟨hthere, rfl, rfl⟩
      · -- the first one
        rcases hbefore with ⟨rfl, -⟩ | ⟨first, rest, -, -, hfirst⟩
        · refine ⟨setup, [], hallowed, rfl, hprojects, hkeys, ?_⟩
          intro call hcall
          cases hcall
        · rw [hfirst.projects] at hempty
          cases hempty
      · -- a later one
        rcases hbefore with ⟨-, hnone⟩ | ⟨first, rest, hfirst, rfl, hset⟩
        · exact absurd hnone hthere
        · refine ⟨first, rest ++ [(_, none)], hfirst, rfl, hset.projects, hset.keys, ?_⟩
          intro other hother
          rcases List.mem_append.mp hother with hearlier | hlast
          · exact hset.others other hearlier
          · obtain rfl := List.mem_singleton.mp hlast
            rfl

end

/-- **One first project.**  Until a setup comes through there is no project.  The first that does makes
the only one, whose key is let in with any scope; every other setup is answered
`SETUP_ALREADY_COMPLETE`, which is no error for an automatic one.  So where all setups were given one key,
that key is let in as soon as any of them has come through. -/
theorem setup_once {hashApiKey : String → String} {allowed : Setup → Prop} {events : List SetupEvent}
    {w : Locked.World ApiKeyStore (Option String) Unit}
    (h : Run Locked.Step (start emptyAccess.keys) events w)
    (honly : OnlySetups hashApiKey allowed events) :
    (setupCalls events = [] ∧ w.committed.projects = []) ∨
      ∃ setup rest, allowed setup ∧
        setupCalls events = (setup.createInitialProject hashApiKey, some setup.projectId) :: rest ∧
        w.committed.projects = [setup.projectId] ∧
        LetsIn hashApiKey setup.key setup.projectId w.committed ∧
        ∀ call ∈ rest, ∃ e, setupAnswer call.2 = .error e ∧ e.code = "SETUP_ALREADY_COMPLETE" ∧
          automaticAnswer (setupAnswer call.2) = .ok () := by
  have hserial := Locked.serial_run h
  have hcalls : ∀ call ∈ events.filterMap Event.committed?, ∃ setup, allowed setup ∧
      call.1 = setup.createInitialProject hashApiKey := by
    intro call hcall
    obtain ⟨id, hbegun⟩ := Locked.begun_of_committed h hcall
    exact honly id call.1 hbegun
  rcases setUp_serial hserial hcalls with hnone | ⟨setup, rest, hallowed, heq, hset⟩
  · exact Or.inl hnone
  · refine Or.inr ⟨setup, rest, hallowed, heq, hset.projects, hset.letsIn, ?_⟩
    intro call hcall
    rw [hset.others call hcall]
    exact ⟨_, rfl, rfl, rfl⟩

/-- Two setups with the key of 24 zero bytes. -/
def zeroSetup (projectId keyId : String) : Setup where
  projectId := projectId
  keyId := keyId
  key := generateApiKey ⟨List.replicate 24 0, rfl⟩

/-- The second to begin takes the lock first. -/
def racingSetups : List SetupEvent :=
  [.begin 0 ((zeroSetup "q" "l").createInitialProject fun _ => firstKeyHash),
    .begin 1 ((zeroSetup "p" "k").createInitialProject fun _ => firstKeyHash),
    .acquire 1, .statement 1, .statement 1, .statement 1,
    .commit 1 ((zeroSetup "p" "k").createInitialProject fun _ => firstKeyHash) (some "p"),
    .acquire 0, .statement 0,
    .commit 0 ((zeroSetup "q" "l").createInitialProject fun _ => firstKeyHash) none]

theorem setup_once_racing :
    ∃ w : Locked.World ApiKeyStore (Option String) Unit,
      Run Locked.Step (start emptyAccess.keys) racingSetups w ∧
        ((setupCalls racingSetups = [] ∧ w.committed.projects = []) ∨
          ∃ setup rest, (∃ projectId keyId, setup = zeroSetup projectId keyId) ∧
            setupCalls racingSetups =
              (setup.createInitialProject (fun _ => firstKeyHash), some setup.projectId) :: rest ∧
            w.committed.projects = [setup.projectId] ∧
            LetsIn (fun _ => firstKeyHash) setup.key setup.projectId w.committed ∧
            ∀ call ∈ rest, ∃ e, setupAnswer call.2 = .error e ∧ e.code = "SETUP_ALREADY_COMPLETE" ∧
              automaticAnswer (setupAnswer call.2) = .ok ()) := by
  have hfirst : Run Locked.Step (start emptyAccess.keys)
      [.begin 0 ((zeroSetup "q" "l").createInitialProject fun _ => firstKeyHash),
        .begin 1 ((zeroSetup "p" "k").createInitialProject fun _ => firstKeyHash),
        .acquire 1, .statement 1, .statement 1, .statement 1,
        .commit 1 ((zeroSetup "p" "k").createInitialProject fun _ => firstKeyHash) (some "p")] _ :=
    .next (.next (.next (.next (.next (.next (.next .start (.begin _ rfl)) (.begin _ rfl))
      (.acquire rfl rfl)) (.statement rfl)) (.statement rfl)) (.statement rfl)) (.commit rfl)
  have hrun : Run Locked.Step (start emptyAccess.keys) racingSetups _ :=
    .next (.next (.next hfirst (.acquire rfl rfl)) (.statement rfl)) (.commit rfl)
  have honly : OnlySetups (fun _ => firstKeyHash)
      (fun setup => ∃ projectId keyId, setup = zeroSetup projectId keyId) racingSetups := by
    intro id program hbegun
    simp only [racingSetups, List.mem_cons, Event.begin.injEq, reduceCtorEq, List.not_mem_nil,
      or_false] at hbegun
    rcases hbegun with ⟨-, rfl⟩ | ⟨-, rfl⟩
    · exact ⟨_, ⟨"q", "l", rfl⟩, rfl⟩
    · exact ⟨_, ⟨"p", "k", rfl⟩, rfl⟩
  exact ⟨_, hrun, setup_once hrun honly⟩

end CellFlow
