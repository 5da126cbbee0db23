/-
# CellFlow.Api.Bootstrap — the first project.

`setupProject` (`apps/api/src/service.ts`) prepares the first admin key and calls
`createInitialProject`, statement by statement here; the check of the RPC endpoint, which may throw
before, and the naming of the key of an automatic setup are left out.  SHA-256 is a parameter.
-/
import CellFlow.Api.Auth
import CellFlow.Client.BroadcastErrors
import CellFlow.Core.SignedPayload
import CellFlow.Lib.LockedTransaction
import CellFlow.Lib.TextCodec
import Mathlib.Data.List.DropRight

namespace CellFlow

open Locked (Txn)

/-! ## Admin keys -/

/-- An error of the setup. -/
structure SetupError where
  code : String
  message : String
  statusCode : Nat
  deriving DecidableEq, Repr

/-- A key as it is handed out. -/
structure LiveKey where
  text : String
  live : "cf_live_".toList.isPrefixOf text.toList = true
  long : 32 ≤ Js.utf16Length text.toList
  trimmed : trim text = text

/-- `bytes.toString("base64url")`. -/
def base64url (bytes : List UInt8) : List Char := (Js.toSextets bytes).map Js.sextetChar

theorem isTrimmed_sextetChar : ∀ n : Fin 64, isTrimmed (Js.sextetChar n) = false := by
  decide +kernel

theorem isTrimmed_live {c : Char} (h : c ∈ "cf_live_".toList) : isTrimmed c = false := by
  have hall : "cf_live_".toList.all (fun c => !isTrimmed c) = true := by decide
  simpa using List.all_eq_true.mp hall c h

theorem utf16Length_append (cs ds : List Char) :
    Js.utf16Length (cs ++ ds) = Js.utf16Length cs + Js.utf16Length ds := by
  induction cs with
  | nil =>
      rw [List.nil_append, Js.utf16Length]
      omega
  | cons c cs ih =>
      rw [List.cons_append, Js.utf16Length, Js.utf16Length, ih]
      omega

theorem length_le_utf16Length (cs : List Char) : cs.length ≤ Js.utf16Length cs := by
  induction cs with
  | nil => exact Nat.le_refl _
  | cons c cs ih =>
      rw [List.length_cons, Js.utf16Length]
      split <;> omega

/-- `cf_live_` and at least 24 characters of base64url: a key made from at least 18 bytes. -/
def liveKey (bytes : List UInt8) (h : 18 ≤ bytes.length) : LiveKey where
  text := String.ofList ("cf_live_".toList ++ base64url bytes)
  live := by
    have htext : (String.ofList ("cf_live_".toList ++ base64url bytes)).toList =
        "cf_live_".toList ++ base64url bytes := String.toList_ofList
    rw [htext, List.isPrefixOf_iff_prefix]
    exact List.prefix_append _ _
  long := by
    have hsuffix := length_le_utf16Length (base64url bytes)
    have hbytes := Js.length_toSextets bytes
    have hlive : Js.utf16Length "cf_live_".toList = 8 := by decide
    rw [String.toList_ofList, utf16Length_append, hlive]
    rw [base64url, List.length_map] at hsuffix
    show 32 ≤ 8 + Js.utf16Length ((Js.toSextets bytes).map Js.sextetChar)
    omega
  trimmed := by
    apply trim_eq_self
    intro c hc
    rw [String.toList_ofList, List.mem_append] at hc
    rcases hc with hlive | hsuffix
    · exact isTrimmed_live hlive
    · obtain ⟨n, -, rfl⟩ := List.mem_map.mp hsuffix
      exact isTrimmed_sextetChar n

/-- The random bytes of `generateApiKey`. -/
structure KeyBytes where
  bytes : List UInt8
  length_eq : bytes.length = 24

/-- `generateApiKey`: the prefix of a live key and the random bytes in base64url. -/
def generateApiKey (random : KeyBytes) : LiveKey :=
  liveKey random.bytes (by rw [random.length_eq]; decide)

theorem trim_trim (s : String) : trim (trim s) = trim s := by
  have hfront : ∀ l : List Char, ((l.dropWhile isTrimmed).reverse.dropWhile isTrimmed).reverse.dropWhile
      isTrimmed = ((l.dropWhile isTrimmed).reverse.dropWhile isTrimmed).reverse := by
    intro l
    -- what is left is a front part of a list without blanks in front
    have hfirst := List.head?_dropWhile_not isTrimmed l
    generalize l.dropWhile isTrimmed = front at hfirst ⊢
    have hpart : (front.reverse.dropWhile isTrimmed).reverse <+: front := by
      rw [← List.reverse_suffix, List.reverse_reverse]
      exact List.dropWhile_suffix _
    obtain ⟨back, hback⟩ := hpart
    cases hkept : (front.reverse.dropWhile isTrimmed).reverse with
    | nil => rfl
    | cons c kept =>
        rw [hkept] at hback
        rw [← hback] at hfirst
        exact List.dropWhile_cons_of_neg (by simpa using hfirst)
  rw [trim, trim, String.toList_ofList, hfront s.toList, List.reverse_reverse, List.dropWhile_idempotent]

/-- `prepareApiKey`: a key the operator supplies must be long enough, and a live key by its prefix. -/
def prepareApiKey (key : String) : Except SetupError LiveKey :=
  if h : "cf_live_".toList.isPrefixOf (trim key).toList = true ∧
      32 ≤ Js.utf16Length (trim key).toList then
    .ok ⟨trim key, h.1, h.2, trim_trim key⟩
  else
    .error
      { code := "INTERNAL_ERROR"
        message := "CELLFLOW_INITIAL_ADMIN_API_KEY must be a valid cf_live_ API key with at least 32 characters"
        statusCode := 500 }

/-! ## The transaction -/

/-- A call of `createInitialProject`: its ids and the key it was given. -/
structure Setup where
  projectId : String
  keyId : String
  key : LiveKey

namespace Setup

variable (hashApiKey : String → String) (setup : Setup)

/-- The first key's row. -/
def row : ApiKeyRow :=
  initialKey setup.projectId setup.keyId (sliceText 16 setup.key.text) (hashApiKey setup.key.text)

/-- `insert into projects`. -/
def insertProject (store : ApiKeyStore) : ApiKeyStore where
  projects := setup.projectId :: store.projects
  keys := store.keys
  unique_id := store.unique_id
  unique_hash := store.unique_hash
  owned := fun key hkey => List.mem_cons_of_mem _ (store.owned key hkey)

/-- `insert into api_keys`; `none` where a constraint refuses the row. -/
def insertKey (store : ApiKeyStore) : Option ApiKeyStore :=
  createApiKey
    { projectId := setup.projectId
      id := setup.keyId
      prefixText := sliceText 16 setup.key.text
      hash := hashApiKey setup.key.text
      label := "default"
      scopes := [.read, .write, .admin]
      expiresAt := none } store

/-- `createInitialProject`, the lock taken: the project's id, or `none`. -/
def createInitialProject : Txn ApiKeyStore (Option String) Unit :=
  .read fun store =>
    if store.projects ≠ [] then .done none
    else
      .write setup.insertProject <|
        .stmt (fun store => (setup.insertKey hashApiKey store).getD store) fun store =>
          if (setup.insertKey hashApiKey store).isNone then .throws ()
          else .done (some setup.projectId)

end Setup

/-- What `setupProject` returns, the project's id, or throws after the transaction. -/
def setupAnswer : Option String → Except SetupError String
  | some projectId => .ok projectId
  | none => .error
      { code := "SETUP_ALREADY_COMPLETE"
        message := "Initial project bootstrap is already complete. Use the authenticated console for ongoing administration."
        statusCode := 409 }

/-- What is left of that in `performAutomaticBootstrap`: a project that is there already is no error. -/
def automaticAnswer (answer : Except SetupError String) : Except SetupError Unit :=
  match answer with
  | .ok _ => .ok ()
  | .error e => if e.code = "SETUP_ALREADY_COMPLETE" then .ok () else .error e

/-! ## One call alone -/

theorem Setup.createInitialProject_run (hashApiKey : String → String) (setup : Setup)
    (store : ApiKeyStore) : (setup.createInitialProject hashApiKey).run store =
      match CellFlow.createInitialProject setup.projectId setup.keyId
        (sliceText 16 setup.key.text) (hashApiKey setup.key.text) store with
      | some store' => .ok (store', some setup.projectId)
      | none => .ok (store, none) := by
  unfold Setup.createInitialProject CellFlow.createInitialProject
  rw [Txn.run_read]
  by_cases hempty : store.projects = []
  · -- no project, so no key: neither insert is refused
    have hkeys : store.keys = [] := by
      rw [List.eq_nil_iff_forall_not_mem]
      intro key hkey
      have howned := store.owned key hkey
      rw [hempty] at howned
      cases howned
    obtain ⟨projects, keys, unique_id, unique_hash, owned⟩ := store
    obtain rfl : projects = [] := hempty
    obtain rfl : keys = [] := hkeys
    have hinsert : ∀ empty : ApiKeyStore, empty.projects = [] → empty.keys = [] →
        (setup.insertKey hashApiKey (setup.insertProject empty)).map (fun s => (s.projects, s.keys)) =
          some ([setup.projectId], [setup.row hashApiKey]) := by
      intro empty hprojects hnone
      have hallowed : setup.projectId ∈ (setup.insertProject empty).projects ∧
          [ApiKeyScope.read, .write, .admin] ≠ [] ∧
          setup.keyId ∉ (setup.insertProject empty).keys.map (·.id) ∧
          hashApiKey setup.key.text ∉ (setup.insertProject empty).keys.map (·.hash) := by
        simp [Setup.insertProject, hnone]
      rw [Setup.insertKey, createApiKey, dif_pos hallowed]
      show some (_ :: empty.projects, _ :: empty.keys) = _
      rw [hprojects, hnone]
      rfl
    obtain ⟨⟨projects, keys, _, _, _⟩, hstore, hfields⟩ := Option.map_eq_some_iff.mp
      (hinsert ⟨[], [], unique_id, unique_hash, owned⟩ rfl rfl)
    obtain ⟨rfl, rfl⟩ := Prod.mk.inj hfields
    rw [if_neg (not_not.mpr rfl), if_pos rfl, Txn.run_write, Txn.run, hstore]
    rfl
  · rw [if_pos hempty, if_neg hempty]
    rfl

end CellFlow
