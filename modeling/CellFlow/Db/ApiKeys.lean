/-
# CellFlow.Db.ApiKeys — the API keys of the projects.

The queries of `packages/db/src/repository.ts` on `api_keys`.  Ids and hashes are unique and each key
has a project, by constraints of the table.  Times are instants of one scale; `now` is `now()`, the
start of the transaction, and `clock` a reading of `Date.now()`.
-/
import Mathlib.Data.List.Nodup

namespace CellFlow

/-- What a key may do. -/
inductive ApiKeyScope where
  | read
  | write
  | admin
  deriving DecidableEq, Repr

/-- A row of `api_keys`. -/
structure ApiKeyRow where
  id : String
  projectId : String
  prefixText : String
  hash : String
  label : String
  scopes : List ApiKeyScope
  expiresAt : Option Int
  revokedAt : Option Int
  deriving DecidableEq, Repr

namespace ApiKeyRow

variable (key : ApiKeyRow)

/-- `revoked_at is null and (expires_at is null or expires_at > now())`. -/
def isActive (now : Int) : Bool := key.revokedAt.isNone && key.expiresAt.all (now < ·)

/-- The key may administer its project. -/
def isAdmin : Bool := key.scopes.contains .admin

/-- `targetExpired`: the key has run out by the application clock. -/
def isExpired (clock : Int) : Bool := key.expiresAt.any (· ≤ clock)

end ApiKeyRow

/-- The projects and their keys. -/
structure ApiKeyStore where
  projects : List String
  keys : List ApiKeyRow
  unique_id : (keys.map (·.id)).Nodup
  unique_hash : (keys.map (·.hash)).Nodup
  owned : ∀ key ∈ keys, key.projectId ∈ projects

/-- `findAuthByApiKeyHash`: the key that authenticates. -/
def findAuthByApiKeyHash (hash : String) (now : Int) (store : ApiKeyStore) : Option ApiKeyRow :=
  store.keys.find? fun key => key.hash = hash && key.isActive now

/-- The argument of `createApiKey`. -/
structure ApiKeyInput where
  projectId : String
  id : String
  prefixText : String
  hash : String
  label : String
  scopes : List ApiKeyScope
  expiresAt : Option Int
  deriving DecidableEq, Repr

/-- The inserted row. -/
def ApiKeyInput.row (input : ApiKeyInput) : ApiKeyRow where
  id := input.id
  projectId := input.projectId
  prefixText := input.prefixText
  hash := input.hash
  label := input.label
  scopes := input.scopes
  expiresAt := input.expiresAt
  revokedAt := none

/-- `createApiKey`; `none` where it throws, for want of the project or by a constraint. -/
def createApiKey (input : ApiKeyInput) (store : ApiKeyStore) : Option ApiKeyStore :=
  if h : input.projectId ∈ store.projects ∧ input.scopes ≠ [] ∧
      input.id ∉ store.keys.map (·.id) ∧ input.hash ∉ store.keys.map (·.hash) then
    some
      { projects := store.projects
        keys := input.row :: store.keys
        unique_id := List.nodup_cons.mpr ⟨h.2.2.1, store.unique_id⟩
        unique_hash := List.nodup_cons.mpr ⟨h.2.2.2, store.unique_hash⟩
        owned := List.forall_mem_cons.mpr ⟨h.1, store.owned⟩ }
  else none

/-- What `revokeApiKey` answers. -/
inductive RevokeResult where
  | revoked
  | notFound
  | lastActive
  | lastAdmin
  deriving DecidableEq, Repr

/-- The update of `revokeApiKey` on a row. -/
def ApiKeyRow.revokedIf (projectId keyId : String) (now : Int) (key : ApiKeyRow) : ApiKeyRow :=
  if key.projectId = projectId ∧ key.id = keyId then { key with revokedAt := some now } else key

@[simp] theorem ApiKeyRow.revokedIf_id (projectId keyId : String) (now : Int) (key : ApiKeyRow) :
    (key.revokedIf projectId keyId now).id = key.id := by
  unfold ApiKeyRow.revokedIf
  split <;> rfl

@[simp] theorem ApiKeyRow.revokedIf_hash (projectId keyId : String) (now : Int) (key : ApiKeyRow) :
    (key.revokedIf projectId keyId now).hash = key.hash := by
  unfold ApiKeyRow.revokedIf
  split <;> rfl

@[simp] theorem ApiKeyRow.revokedIf_projectId (projectId keyId : String) (now : Int)
    (key : ApiKeyRow) : (key.revokedIf projectId keyId now).projectId = key.projectId := by
  unfold ApiKeyRow.revokedIf
  split <;> rfl

/-- `update api_keys set revoked_at = now() where project_id = … and id = …`. -/
def ApiKeyStore.revoke (store : ApiKeyStore) (projectId keyId : String) (now : Int) :
    ApiKeyStore where
  projects := store.projects
  keys := store.keys.map (·.revokedIf projectId keyId now)
  unique_id := by
    have h := store.unique_id
    simpa [List.map_map, Function.comp_def] using h
  unique_hash := by
    have h := store.unique_hash
    simpa [List.map_map, Function.comp_def] using h
  owned := by
    intro key hkey
    obtain ⟨key₀, hkey₀, rfl⟩ := List.mem_map.mp hkey
    rw [ApiKeyRow.revokedIf_projectId]
    exact store.owned key₀ hkey₀

/-- The active keys of the project, as `revokeApiKey` lists them. -/
def ApiKeyStore.activeKeys (store : ApiKeyStore) (projectId : String) (now : Int) :
    List ApiKeyRow :=
  store.keys.filter fun key => key.projectId = projectId && key.isActive now

/-- The target of a revocation. -/
def ApiKeyStore.findKey (store : ApiKeyStore) (projectId keyId : String) : Option ApiKeyRow :=
  store.keys.find? fun key => key.projectId = projectId && key.id = keyId

/-- `revokeApiKey`, with the project row locked. -/
def revokeApiKey (projectId keyId : String) (now clock : Int) (store : ApiKeyStore) :
    ApiKeyStore × RevokeResult :=
  if projectId ∉ store.projects then (store, .notFound)
  else
    match store.findKey projectId keyId with
    | none => (store, .notFound)
    | some target =>
        let active := store.activeKeys projectId now
        if target.revokedAt.isSome then (store, .revoked)
        -- neither check is made of a target that has expired by the application clock
        else if !target.isExpired clock && active.length ≤ 1 then (store, .lastActive)
        else if !target.isExpired clock && target.isAdmin &&
            (active.filter (·.isAdmin)).length ≤ 1 then (store, .lastAdmin)
        else (store.revoke projectId keyId now, .revoked)

/-! ## Keys by their id -/

namespace ApiKeyStore

variable {store : ApiKeyStore} {projectId keyId : String} {now : Int} {key target : ApiKeyRow}

/-- A key by its id. -/
theorem eq_of_id (hkey : key ∈ store.keys) (htarget : target ∈ store.keys)
    (h : key.id = target.id) : key = target :=
  List.inj_on_of_nodup_map store.unique_id hkey htarget h

theorem findKey_some (h : store.findKey projectId keyId = some target) :
    target ∈ store.keys ∧ target.projectId = projectId ∧ target.id = keyId := by
  have hfound := List.find?_some h
  simp only [Bool.and_eq_true, decide_eq_true_eq] at hfound
  exact ⟨List.mem_of_find?_eq_some h, hfound.1, hfound.2⟩

theorem findKey_none (h : store.findKey projectId keyId = none) (hkey : key ∈ store.keys)
    (hproject : key.projectId = projectId) : key.id ≠ keyId := by
  intro hid
  have hno := List.find?_eq_none.mp h key hkey
  simp [hproject, hid] at hno

theorem mem_activeKeys : key ∈ store.activeKeys projectId now ↔
    key ∈ store.keys ∧ key.projectId = projectId ∧ key.isActive now = true := by
  simp only [activeKeys, List.mem_filter, Bool.and_eq_true, decide_eq_true_eq]

theorem activeKeys_sublist : (store.activeKeys projectId now).Sublist store.keys :=
  List.filter_sublist

theorem mem_revoke : key ∈ (store.revoke projectId keyId now).keys ↔
    ∃ key₀ ∈ store.keys, key₀.revokedIf projectId keyId now = key :=
  List.mem_map

/-- Of the keys that meet `p`, the target among them, there is a second exactly if the list is longer
than one. -/
theorem one_lt_length_iff {keys : List ApiKeyRow} (hsub : keys.Sublist store.keys)
    (htarget : target ∈ keys) : 1 < keys.length ↔ ∃ key ∈ keys, key.id ≠ target.id := by
  constructor
  · intro hlength
    by_contra hnone
    push Not at hnone
    have hall : ∀ key ∈ keys, key = target := fun key hkey =>
      eq_of_id (hsub.subset hkey) (hsub.subset htarget) (hnone key hkey)
    have hrepeat := List.eq_replicate_of_mem hall
    have hnodup : keys.Nodup := (List.Nodup.of_map _ store.unique_id).sublist hsub
    rw [hrepeat, List.nodup_replicate] at hnodup
    omega
  · rintro ⟨key, hkey, hne⟩
    by_contra hshort
    have hone : keys.length = 1 := by
      have hpos := List.length_pos_of_mem htarget
      omega
    obtain ⟨only, rfl⟩ := List.length_eq_one_iff.mp hone
    rw [List.mem_singleton] at hkey htarget
    exact hne (congrArg ApiKeyRow.id (hkey.trans htarget.symm))

end ApiKeyStore

end CellFlow
