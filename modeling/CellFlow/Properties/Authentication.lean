/-
# CellFlow.Properties.Authentication — whose calls are let in.

From an empty database, over any interleaving of key creations, revocations, cleanups and the two
statements of any number of calls.  The rows tell which keys were handed out and which were revoked
(`keysInv_run`); so a call passes its lookup exactly if the history entitles it, what is counted was
entitled when it was looked up, and the counts are those of the rate limiter alone, one bucket a key
(`authentication_exact`).
-/
import CellFlow.Api.Auth
import CellFlow.Properties.RateLimits

namespace CellFlow

open Runs (Run)

/-! ## What the history says of a key -/

/-- A row as it was inserted. -/
def ApiKeyRow.unrevoked (row : ApiKeyRow) : ApiKeyRow := { row with revokedAt := none }

/-- The key was handed out. -/
def Granted (events : List AccessEvent) (key : ApiKeyRow) : Prop :=
  ∃ event ∈ events, event.granted = some key

/-- A revocation of the key came through. -/
def Withdrawn (events : List AccessEvent) (projectId keyId : String) : Prop :=
  .revoked projectId keyId .revoked ∈ events

/-- The table holds the key, revoked or not. -/
def ApiKeyStore.Holds (store : ApiKeyStore) (key : ApiKeyRow) (revoked : Bool) : Prop :=
  ∃ row ∈ store.keys, row.unrevoked = key ∧ row.revokedAt.isSome = revoked

/-- The table holds the keys that were handed out, and marks those that were withdrawn. -/
structure KeysInv (events : List AccessEvent) (store : ApiKeyStore) : Prop where
  holds_iff : ∀ key revoked, store.Holds key revoked ↔
    Granted events key ∧ (revoked = true ↔ Withdrawn events key.projectId key.id)
  known : ∀ projectId keyId, Withdrawn events projectId keyId →
    ∃ row ∈ store.keys, row.projectId = projectId ∧ row.id = keyId

section Keys

variable {events : List AccessEvent} {event : AccessEvent} {store store' : ApiKeyStore}
  {key row : ApiKeyRow} {projectId keyId : String}

theorem granted_snoc :
    Granted (events ++ [event]) key ↔ Granted events key ∨ event.granted = some key := by
  constructor
  · rintro ⟨other, hmem, hgrants⟩
    rcases List.mem_append.mp hmem with hbefore | hlast
    · exact Or.inl ⟨other, hbefore, hgrants⟩
    · obtain rfl := List.mem_singleton.mp hlast
      exact Or.inr hgrants
  · rintro (⟨other, hmem, hgrants⟩ | hgrants)
    · exact ⟨other, List.mem_append_left _ hmem, hgrants⟩
    · exact ⟨event, by simp, hgrants⟩

theorem withdrawn_snoc : Withdrawn (events ++ [event]) projectId keyId ↔
    Withdrawn events projectId keyId ∨ event = .revoked projectId keyId .revoked := by
  rw [Withdrawn, List.mem_append, List.mem_singleton, eq_comm (a := event)]
  rfl

/-- An event about no key leaves what the history says of keys. -/
theorem KeysInv.idle (hi : KeysInv events store) (hgrants : event.granted = none)
    (hrevokes : ∀ projectId keyId, event ≠ .revoked projectId keyId .revoked) :
    KeysInv (events ++ [event]) store := by
  constructor
  · intro key revoked
    rw [hi.holds_iff, granted_snoc, withdrawn_snoc]
    simp [hgrants, hrevokes]
  · intro projectId keyId hwithdrawn
    rcases withdrawn_snoc.mp hwithdrawn with hbefore | hlast
    · exact hi.known projectId keyId hbefore
    · exact absurd hlast (hrevokes projectId keyId)

/-- A new row, with an id no row has. -/
theorem KeysInv.inserted (hi : KeysInv events store) (hgrants : event.granted = some key)
    (hfresh : ∀ row ∈ store.keys, row.id ≠ key.id) (hunrevoked : key.revokedAt = none)
    (hkeys : store'.keys = key :: store.keys) : KeysInv (events ++ [event]) store' := by
  have hsilent : ∀ projectId keyId, Withdrawn (events ++ [event]) projectId keyId ↔
      Withdrawn events projectId keyId := by
    intro projectId keyId
    rw [withdrawn_snoc]
    constructor
    · rintro (hbefore | rfl)
      · exact hbefore
      · cases hgrants
    · exact Or.inl
  have hstanding : ¬ Withdrawn events key.projectId key.id := by
    intro hwithdrawn
    obtain ⟨row, hrow, -, hid⟩ := hi.known _ _ hwithdrawn
    exact hfresh row hrow hid
  have hself : key.unrevoked = key := by
    rw [ApiKeyRow.unrevoked, ← hunrevoked]
  constructor
  · intro other revoked
    have hholds : store'.Holds other revoked ↔
        store.Holds other revoked ∨ key = other ∧ revoked = false := by
      constructor
      · rintro ⟨row, hrow, rfl, rfl⟩
        rw [hkeys, List.mem_cons] at hrow
        rcases hrow with rfl | hrow
        · exact Or.inr ⟨hself.symm, by rw [hunrevoked]; rfl⟩
        · exact Or.inl ⟨row, hrow, rfl, rfl⟩
      · rintro (⟨row, hrow, hrows⟩ | ⟨rfl, rfl⟩)
        · exact ⟨row, hkeys ▸ List.mem_cons_of_mem _ hrow, hrows⟩
        · exact ⟨key, hkeys ▸ List.mem_cons_self, hself, by rw [hunrevoked]; rfl⟩
    rw [hholds, hi.holds_iff, granted_snoc, hsilent, hgrants, Option.some.injEq]
    constructor
    · rintro (⟨hgranted, hmarked⟩ | ⟨rfl, rfl⟩)
      · exact ⟨Or.inl hgranted, hmarked⟩
      · exact ⟨Or.inr rfl, by simp [hstanding]⟩
    · rintro ⟨hgranted | rfl, hmarked⟩
      · exact Or.inl ⟨hgranted, hmarked⟩
      · exact Or.inr ⟨rfl, by simpa [hstanding] using hmarked⟩
  · intro projectId keyId hwithdrawn
    obtain ⟨row, hrow, hids⟩ := hi.known _ _ ((hsilent _ _).mp hwithdrawn)
    exact ⟨row, hkeys ▸ List.mem_cons_of_mem _ hrow, hids⟩

theorem unrevoked_revokedIf (projectId keyId : String) (now : Int) (row : ApiKeyRow) :
    (row.revokedIf projectId keyId now).unrevoked = row.unrevoked := by
  unfold ApiKeyRow.revokedIf
  split <;> rfl

theorem isSome_revokedIf (projectId keyId : String) (now : Int) (row : ApiKeyRow) :
    (row.revokedIf projectId keyId now).revokedAt.isSome =
      (decide (row.projectId = projectId ∧ row.id = keyId) || row.revokedAt.isSome) := by
  unfold ApiKeyRow.revokedIf
  by_cases htarget : row.projectId = projectId ∧ row.id = keyId
  · rw [if_pos htarget, decide_eq_true htarget]
    rfl
  · rw [if_neg htarget, decide_eq_false htarget]
    rfl

/-- What a state of the table is after the key is revoked: marked, if it is the key; else as before. -/
def AfterRevocation (store : ApiKeyStore) (projectId keyId : String) (key : ApiKeyRow)
    (revoked : Bool) : Prop :=
  (key.projectId = projectId ∧ key.id = keyId ∧ revoked = true ∧ ∃ before, store.Holds key before) ∨
    ¬ (key.projectId = projectId ∧ key.id = keyId) ∧ store.Holds key revoked

theorem holds_revoke (store : ApiKeyStore) (projectId keyId : String) (now : Int) (revoked : Bool) :
    (store.revoke projectId keyId now).Holds key revoked ↔
      AfterRevocation store projectId keyId key revoked := by
  constructor
  · rintro ⟨row, hrow, rfl, rfl⟩
    obtain ⟨before, hbefore, rfl⟩ := ApiKeyStore.mem_revoke.mp hrow
    rw [unrevoked_revokedIf, isSome_revokedIf]
    by_cases htarget : before.projectId = projectId ∧ before.id = keyId
    · refine Or.inl ⟨htarget.1, htarget.2, ?_, _, before, hbefore, rfl, rfl⟩
      rw [decide_eq_true htarget, Bool.true_or]
    · refine Or.inr ⟨htarget, before, hbefore, rfl, ?_⟩
      rw [decide_eq_false htarget, Bool.false_or]
  · rintro (⟨hproject, hid, rfl, -, row, hrow, rfl, -⟩ | ⟨hother, row, hrow, rfl, rfl⟩)
    · refine ⟨_, ApiKeyStore.mem_revoke.mpr ⟨row, hrow, rfl⟩, unrevoked_revokedIf .., ?_⟩
      rw [isSome_revokedIf, decide_eq_true ⟨hproject, hid⟩, Bool.true_or]
    · refine ⟨_, ApiKeyStore.mem_revoke.mpr ⟨row, hrow, rfl⟩, unrevoked_revokedIf .., ?_⟩
      have hrow' : ¬ (row.projectId = projectId ∧ row.id = keyId) := hother
      rw [isSome_revokedIf, decide_eq_false hrow', Bool.false_or]

/-- A key whose row is revoked already is as it would be after one more revocation. -/
theorem holds_of_revoked {target : ApiKeyRow} (htarget : target ∈ store.keys)
    (hproject : target.projectId = projectId) (hid : target.id = keyId)
    (hrevoked : target.revokedAt.isSome = true) (revoked : Bool) :
    store.Holds key revoked ↔ AfterRevocation store projectId keyId key revoked := by
  by_cases hkey : key.projectId = projectId ∧ key.id = keyId
  · -- the only row of the key is the target
    have honly : ∀ before, store.Holds key before → before = true := by
      rintro _ ⟨row, hrow, rfl, rfl⟩
      obtain rfl := ApiKeyStore.eq_of_id hrow htarget (hkey.2.trans hid.symm)
      exact hrevoked
    constructor
    · intro hholds
      exact Or.inl ⟨hkey.1, hkey.2, honly _ hholds, _, hholds⟩
    · rintro (⟨-, -, rfl, before, hholds⟩ | ⟨hother, -⟩)
      · exact honly before hholds ▸ hholds
      · exact absurd hkey hother
  · constructor
    · intro hholds
      exact Or.inr ⟨hkey, hholds⟩
    · rintro (⟨hproject', hid', -⟩ | ⟨-, hholds⟩)
      · exact absurd ⟨hproject', hid'⟩ hkey
      · exact hholds

/-- **What `revokeApiKey` leaves**: where it answers `REVOKED` the target is there, and is revoked; else
the table is as it was. -/
theorem revokeApiKey_spec (projectId keyId : String) (now clock : Int) (store : ApiKeyStore) :
    (revokeApiKey projectId keyId now clock store).2 = .revoked ∧
        (∃ row ∈ store.keys, row.projectId = projectId ∧ row.id = keyId) ∧
        (∀ key revoked, (revokeApiKey projectId keyId now clock store).1.Holds key revoked ↔
          AfterRevocation store projectId keyId key revoked) ∨
      (revokeApiKey projectId keyId now clock store).2 ≠ .revoked ∧
        (revokeApiKey projectId keyId now clock store).1 = store := by
  unfold revokeApiKey
  by_cases hproject : projectId ∉ store.projects
  · rw [if_pos hproject]
    exact Or.inr ⟨RevokeResult.noConfusion, rfl⟩
  rw [if_neg hproject]
  cases hfind : store.findKey projectId keyId with
  | none => exact Or.inr ⟨RevokeResult.noConfusion, rfl⟩
  | some target =>
      obtain ⟨htarget, howner, hid⟩ := ApiKeyStore.findKey_some hfind
      simp only
      split_ifs with hrevoked hactive hadmin
      · exact Or.inl ⟨rfl, ⟨target, htarget, howner, hid⟩,
          fun _ revoked => holds_of_revoked htarget howner hid hrevoked revoked⟩
      · exact Or.inr ⟨RevokeResult.noConfusion, rfl⟩
      · exact Or.inr ⟨RevokeResult.noConfusion, rfl⟩
      · exact Or.inl ⟨rfl, ⟨target, htarget, howner, hid⟩,
          fun _ revoked => holds_revoke store projectId keyId now revoked⟩

theorem KeysInv.revoked (hi : KeysInv events store) (projectId keyId : String) (now clock : Int) :
    KeysInv (events ++ [.revoked projectId keyId
        (revokeApiKey projectId keyId now clock store).2])
      (revokeApiKey projectId keyId now clock store).1 := by
  rcases revokeApiKey_spec projectId keyId now clock store with
    ⟨hresult, ⟨row, hrow, hids⟩, hholds⟩ | ⟨hresult, hsame⟩
  · rw [hresult]
    have hmarks : ∀ projectId' keyId',
        Withdrawn (events ++ [.revoked projectId keyId .revoked]) projectId' keyId' ↔
          Withdrawn events projectId' keyId' ∨ projectId' = projectId ∧ keyId' = keyId := by
      intro projectId' keyId'
      rw [withdrawn_snoc, AccessEvent.revoked.injEq]
      simp [eq_comm]
    constructor
    · intro key revoked
      rw [hholds, AfterRevocation, granted_snoc, hmarks]
      simp only [hi.holds_iff, AccessEvent.granted, reduceCtorEq, or_false]
      by_cases hkey : key.projectId = projectId ∧ key.id = keyId
      · simp only [hkey, true_and, not_true, false_and, or_false, or_true, iff_true]
        constructor
        · rintro ⟨hmarked, -, hgranted, -⟩
          exact ⟨hgranted, hmarked⟩
        · rintro ⟨hgranted, hmarked⟩
          by_cases hwithdrawn : Withdrawn events projectId keyId
          · exact ⟨hmarked, true, hgranted, by simp [hwithdrawn]⟩
          · exact ⟨hmarked, false, hgranted, by simp [hwithdrawn]⟩
      · have hother : ¬ (key.projectId = projectId ∧ key.id = keyId ∧ revoked = true ∧
            ∃ before, Granted events key ∧
              (before = true ↔ Withdrawn events key.projectId key.id)) :=
          fun h => hkey ⟨h.1, h.2.1⟩
        simp only [hother, hkey, false_or, or_false, not_false_iff, true_and]
    · intro projectId' keyId' hwithdrawn
      have hrows : ∃ row' ∈ store.keys, row'.projectId = projectId' ∧ row'.id = keyId' := by
        rcases (hmarks _ _).mp hwithdrawn with hbefore | ⟨rfl, rfl⟩
        · exact hi.known _ _ hbefore
        · exact ⟨row, hrow, hids⟩
      obtain ⟨row', hrow', rfl, rfl⟩ := hrows
      -- the row is still there, as one the table held
      obtain ⟨before, hbefore⟩ : ∃ before,
          (revokeApiKey projectId keyId now clock store).1.Holds row'.unrevoked before := by
        by_cases hkey : row'.projectId = projectId ∧ row'.id = keyId
        · exact ⟨true, (hholds _ _).mpr (Or.inl ⟨hkey.1, hkey.2, rfl, _, row', hrow', rfl, rfl⟩)⟩
        · exact ⟨_, (hholds _ _).mpr (Or.inr ⟨hkey, row', hrow', rfl, rfl⟩)⟩
      obtain ⟨after, hafter, hsame, -⟩ := hbefore
      have hproject : after.unrevoked.projectId = row'.unrevoked.projectId := by rw [hsame]
      have hid : after.unrevoked.id = row'.unrevoked.id := by rw [hsame]
      exact ⟨after, hafter, hproject, hid⟩
  · rw [hsame]
    apply hi.idle rfl
    intro projectId' keyId' heq
    exact hresult (AccessEvent.revoked.inj heq).2.2

end Keys

/-! ## Lookups -/

section Lookups

variable (hashApiKey : String → String)

/-- What entitles a call at its lookup: the key it presents was handed out and not withdrawn, has not
run out, and has the scope. -/
structure Entitled (events : List AccessEvent) (authorization : Option String)
    (requiredScope : ApiKeyScope) (now : Int) (key : ApiKeyRow) : Prop where
  presented : ∃ text, bearerKey authorization = .ok text ∧ hashApiKey text = key.hash
  granted : Granted events key
  standing : ¬ Withdrawn events key.projectId key.id
  unexpired : key.expiresAt.all (now < ·) = true
  permitted : key.permits requiredScope = true

/-- The call passed its lookup with the key, and was entitled to. -/
def LookedUpAs (events : List AccessEvent) (call : Nat) (key : ApiKeyRow) : Prop :=
  ∃ before authorization requiredScope now after,
    events = before ++ .lookedUp call authorization requiredScope now none :: after ∧
      Entitled hashApiKey before authorization requiredScope now key

variable {hashApiKey} {events : List AccessEvent} {event : AccessEvent} {store : ApiKeyStore}
  {authorization : Option String} {requiredScope : ApiKeyScope} {now : Int} {key : ApiKeyRow}

theorem LookedUpAs.snoc {call : Nat} (h : LookedUpAs hashApiKey events call key) :
    LookedUpAs hashApiKey (events ++ [event]) call key := by
  obtain ⟨before, authorization, requiredScope, now, after, rfl, hentitled⟩ := h
  exact ⟨before, authorization, requiredScope, now, after ++ [event], by simp, hentitled⟩

theorem findAuth_eq_some {hash : String} : findAuthByApiKeyHash hash now store = some key ↔
    key ∈ store.keys ∧ key.hash = hash ∧ key.isActive now = true := by
  constructor
  · intro hfound
    have hkey := List.find?_some hfound
    rw [Bool.and_eq_true, decide_eq_true_eq] at hkey
    exact ⟨List.mem_of_find?_eq_some hfound, hkey⟩
  · rintro ⟨hkey, hhash, hactive⟩
    cases hfound : findAuthByApiKeyHash hash now store with
    | none =>
        have hnone := List.find?_eq_none.mp hfound key hkey
        rw [Bool.and_eq_true, decide_eq_true_eq] at hnone
        exact absurd ⟨hhash, hactive⟩ hnone
    | some other =>
        -- hashes are unique
        have hother := List.find?_some hfound
        rw [Bool.and_eq_true, decide_eq_true_eq] at hother
        rw [List.inj_on_of_nodup_map store.unique_hash (List.mem_of_find?_eq_some hfound) hkey
          (hother.1.trans hhash.symm)]

theorem lookUpBearer_ok_iff (hi : KeysInv events store) :
    lookUpBearer hashApiKey authorization requiredScope now store = .ok key ↔
      Entitled hashApiKey events authorization requiredScope now key := by
  have hrow : ∀ hash, findAuthByApiKeyHash hash now store = some key ↔
      key.hash = hash ∧ Granted events key ∧ ¬ Withdrawn events key.projectId key.id ∧
        key.expiresAt.all (now < ·) = true := by
    intro hash
    rw [findAuth_eq_some, ApiKeyRow.isActive, Bool.and_eq_true, Option.isNone_iff_eq_none]
    constructor
    · rintro ⟨hmem, hhash, hunrevoked, hexpires⟩
      have hholds : store.Holds key false := by
        refine ⟨key, hmem, ?_, by rw [hunrevoked]; rfl⟩
        rw [ApiKeyRow.unrevoked, ← hunrevoked]
      obtain ⟨hgranted, hmarked⟩ := (hi.holds_iff key false).mp hholds
      exact ⟨hhash, hgranted, fun h => Bool.false_ne_true (hmarked.mpr h), hexpires⟩
    · rintro ⟨hhash, hgranted, hstanding, hexpires⟩
      obtain ⟨row, hmem, hsame, hunrevoked⟩ :=
        (hi.holds_iff key false).mpr ⟨hgranted, by simp [hstanding]⟩
      have hnone : row.revokedAt = none := by simpa using hunrevoked
      have hself : row = key := by
        rw [← hsame, ApiKeyRow.unrevoked, ← hnone]
      subst hself
      exact ⟨hmem, hhash, hnone, hexpires⟩
  unfold lookUpBearer
  cases hkey : bearerKey authorization with
  | error e =>
      constructor
      · intro h
        cases h
      · rintro ⟨⟨text, htext, -⟩, -, -, -, -⟩
        rw [hkey] at htext
        cases htext
  | ok text =>
      simp only
      constructor
      · intro h
        cases hfound : findAuthByApiKeyHash (hashApiKey text) now store with
        | none =>
            rw [hfound] at h
            cases h
        | some row =>
            rw [hfound] at h
            simp only at h
            split_ifs at h with hscope
            obtain rfl := Except.ok.inj h
            obtain ⟨hhash, hgranted, hstanding, hexpires⟩ := (hrow _).mp hfound
            exact ⟨⟨text, hkey, hhash.symm⟩, hgranted, hstanding, hexpires, hscope⟩
      · rintro ⟨⟨text', htext', hhash⟩, hgranted, hstanding, hexpires, hscope⟩
        rw [hkey] at htext'
        obtain rfl := Except.ok.inj htext'
        rw [(hrow _).mpr ⟨hhash.symm, hgranted, hstanding, hexpires⟩]
        exact if_pos hscope

end Lookups

/-! ## Runs -/

section Runs

variable {hashApiKey : String → String} {limit : Option Int} {events : List AccessEvent}
  {event : AccessEvent} {w w' : AccessWorld}

/-- No project, no key. -/
theorem ApiKeyStore.keys_eq_nil {store : ApiKeyStore} (h : store.projects = []) : store.keys = [] := by
  rw [List.eq_nil_iff_forall_not_mem]
  intro key hkey
  have howned := store.owned key hkey
  rw [h] at howned
  cases howned

theorem KeysInv.step (hi : KeysInv events w.keys) (h : AccessStep hashApiKey limit w event w') :
    KeysInv (events ++ [event]) w'.keys := by
  cases h with
  | found hfound =>
      unfold createInitialProject at hfound
      split_ifs at hfound with hempty
      obtain rfl := Option.some.inj hfound
      have hnone := ApiKeyStore.keys_eq_nil hempty
      refine hi.inserted rfl ?_ rfl ?_
      · intro row hrow
        rw [hnone] at hrow
        cases hrow
      · rw [hnone]
  | @create input keys hcreate =>
      unfold createApiKey at hcreate
      split at hcreate
      next hallowed =>
        obtain rfl := Option.some.inj hcreate
        refine hi.inserted rfl ?_ rfl rfl
        intro row hrow hid
        exact hallowed.2.2.1 (List.mem_map.mpr ⟨row, hrow, hid⟩)
      next => cases hcreate
  | revoke projectId keyId now clock => exact hi.revoked projectId keyId now clock
  | refuse hnew hlook => exact hi.idle rfl fun _ _ => AccessEvent.noConfusion
  | lookUp hnew hlook => exact hi.idle rfl fun _ _ => AccessEvent.noConfusion
  | count now hpending => exact hi.idle rfl fun _ _ => AccessEvent.noConfusion
  | prune olderThanHours now => exact hi.idle rfl fun _ _ => AccessEvent.noConfusion

theorem keysInv_run (h : Run (AccessStep hashApiKey limit) emptyAccess events w) :
    KeysInv events w.keys := by
  refine Run.history (fun events w => KeysInv events w.keys) ?_ ?_ h
  · constructor
    · intro key revoked
      constructor
      · rintro ⟨row, hrow, -⟩
        cases hrow
      · rintro ⟨⟨event, hevent, -⟩, -⟩
        cases hevent
    · intro projectId keyId hwithdrawn
      cases hwithdrawn
  · intro events w event w' _ hi hs
    exact hi.step hs

/-- What is pending was looked up by a call that was entitled to. -/
theorem pending_run (h : Run (AccessStep hashApiKey limit) emptyAccess events w) :
    ∀ call key, w.pending call = some key → LookedUpAs hashApiKey events call key := by
  refine Run.history
    (fun events w => ∀ call key, w.pending call = some key → LookedUpAs hashApiKey events call key)
    ?_ ?_ h
  · intro call key hpending
    cases hpending
  · intro events w event w' hrun hi hs call key hpending
    cases hs with
    | @lookUp asked authorization requiredScope now found hnew hlook =>
        have hafter : Function.update w.pending asked (some found) call = some key := hpending
        by_cases hcall : call = asked
        · subst hcall
          rw [Function.update_self] at hafter
          obtain rfl := Option.some.inj hafter
          exact ⟨events, authorization, requiredScope, now, [], rfl,
            (lookUpBearer_ok_iff (keysInv_run hrun)).mp hlook⟩
        · rw [Function.update_of_ne hcall] at hafter
          exact (hi call key hafter).snoc
    | @count served row now hserved =>
        have hafter : Function.update w.pending served none call = some key := hpending
        by_cases hcall : call = served
        · subst hcall
          rw [Function.update_self] at hafter
          cases hafter
        · rw [Function.update_of_ne hcall] at hafter
          exact (hi call key hafter).snoc
    | found hfound => exact (hi call key hpending).snoc
    | create hcreate => exact (hi call key hpending).snoc
    | revoke projectId keyId now clock => exact (hi call key hpending).snoc
    | refuse hnew hlook => exact (hi call key hpending).snoc
    | prune olderThanHours now => exact (hi call key hpending).snoc

/-! ## The limiter alone -/

/-- The statement of an event on the counts. -/
def AccessEvent.rateEvent (limit : Option Int) : AccessEvent → Option RateEvent
  | .counted _ projectId keyId now result =>
      some (.consumed (keyRequest limit projectId keyId now) result)
  | .pruned olderThanHours now => some (.pruned olderThanHours now)
  | _ => none

/-- Of the calls only the counts reach the limiter. -/
theorem rates_run (h : Run (AccessStep hashApiKey limit) emptyAccess events w) :
    Run RateStep noRequests (events.filterMap (·.rateEvent limit)) w.rates := by
  refine Run.project (·.rates) (·.rateEvent limit) ?_ ?_ h
  · intro events w event w' _ hs hsilent
    cases hs with
    | count now hpending => cases hsilent
    | prune olderThanHours now => cases hsilent
    | found hfound => rfl
    | create hcreate => rfl
    | revoke projectId keyId now clock => rfl
    | refuse hnew hlook => rfl
    | lookUp hnew hlook => rfl
  · intro events w event w' rate _ hs hvisible
    cases hs with
    | count now hpending =>
        obtain rfl := Option.some.inj hvisible
        exact .consume _
    | prune olderThanHours now =>
        obtain rfl := Option.some.inj hvisible
        exact .prune olderThanHours now
    | found hfound => cases hvisible
    | create hcreate => cases hvisible
    | revoke projectId keyId now clock => cases hvisible
    | refuse hnew hlook => cases hvisible
    | lookUp hnew hlook => cases hvisible

/-- A call of the key that returned the project, counted within a minute from `start`. -/
def AccessEvent.isAcceptedFrom (projectId keyId : String) (start : Int) : AccessEvent → Bool
  | .counted _ project key now result =>
      decide (project = projectId ∧ key = keyId ∧ answerBearer project result = .ok projectId ∧
        start ≤ now ∧ now < start + 60000000)
  | _ => false

theorem answerBearer_ok {projectId project : String} {result : Except RateLimitError Bool}
    (h : answerBearer projectId result = .ok project) : result = .ok true := by
  unfold answerBearer at h
  split at h
  · cases h
  · cases h
  · rfl

theorem accepted_le (projectId keyId : String) (start : Int) :
    events.countP (·.isAcceptedFrom projectId keyId start) ≤
      (events.filterMap (·.rateEvent limit)).countP
        (·.isAllowedFrom projectId ("api:" ++ keyId) 60 (limit.getD 240) start) := by
  rw [List.countP_filterMap]
  apply List.countP_mono_left
  intro event _ haccepted
  unfold AccessEvent.isAcceptedFrom at haccepted
  split at haccepted
  next call project key now result =>
    rw [decide_eq_true_eq] at haccepted
    obtain ⟨rfl, rfl, hanswer, hfrom, hto⟩ := haccepted
    obtain rfl := answerBearer_ok hanswer
    show decide _ = true
    rw [decide_eq_true_eq]
    exact ⟨rfl, rfl, rfl, Int.le_refl _, hfrom, hto⟩
  next => cases haccepted

end Runs

/-- **Authentication is exact.**  A call passes its lookup exactly if some key handed out and not
withdrawn until then entitles it.  What is counted is a key that entitled the same call to pass, and is
answered by the requests of that key alone; and where no cleanup overtakes a request, any minute
lets in at most twice as many calls of a key as the limit. -/
theorem authentication_exact {hashApiKey : String → String} {limit : Option Int}
    {events : List AccessEvent} {w : AccessWorld}
    (h : Run (AccessStep hashApiKey limit) emptyAccess events w) :
    (∀ call authorization requiredScope now refusal w',
      AccessStep hashApiKey limit w (.lookedUp call authorization requiredScope now refusal) w' →
      (refusal = none ↔ ∃ key, Entitled hashApiKey events authorization requiredScope now key)) ∧
    (∀ call projectId keyId now result w',
      AccessStep hashApiKey limit w (.counted call projectId keyId now result) w' →
      (∃ key, key.projectId = projectId ∧ key.id = keyId ∧ LookedUpAs hashApiKey events call key) ∧
      result = (keyRequest limit projectId keyId now).answer
        (askedIn (keyRequest limit projectId keyId now).window
          (events.filterMap (·.rateEvent limit)))) ∧
    (Unovertaken (events.filterMap (·.rateEvent limit)) → ∀ projectId keyId start,
      events.countP (·.isAcceptedFrom projectId keyId start) ≤ 2 * (limit.getD 240).toNat) := by
  refine ⟨?_, ?_, ?_⟩
  · intro call authorization requiredScope now refusal w' hstep
    have hkeys := keysInv_run h
    cases hstep with
    | refuse hnew hlook =>
        constructor
        · intro hnone
          cases hnone
        · rintro ⟨key, hentitled⟩
          rw [(lookUpBearer_ok_iff hkeys).mpr hentitled] at hlook
          cases hlook
    | lookUp hnew hlook =>
        constructor
        · intro _
          exact ⟨_, (lookUpBearer_ok_iff hkeys).mp hlook⟩
        · intro _
          rfl
  · intro call projectId keyId now result w' hstep
    cases hstep with
    | count now hpending =>
        exact ⟨⟨_, rfl, rfl, pending_run h _ _ hpending⟩, (rateInv_run (rates_run h)).answer _⟩
  · intro hordered projectId keyId start
    have hrates := allowedFrom_le (rates_run h) hordered projectId ("api:" ++ keyId)
      (show 0 < 60 by decide) (limit.getD 240) start
    exact Nat.le_trans (accepted_le projectId keyId start) hrates

/-- SHA-256 of the key below. -/
def firstKeyHash : String := "bd38919e598928043df5f8d5188b18b48a0d35b2128bdddbde7a489bf35cabb7"

/-- The first key of a project, used for one call. -/
def firstCall : List AccessEvent :=
  [.founded "p" "k" "cf_live_AAAAAAAA" firstKeyHash,
    .lookedUp 0 (some "Bearer cf_live_AAAAAAAAAAAAAAAAAAAAAAAAAAAAAAAA") .write 5 none,
    .counted 0 "p" "k" 7 (.ok true)]

theorem authentication_exact_first_call :
    ∃ w, Run (AccessStep (fun _ => firstKeyHash) none) emptyAccess firstCall w ∧
      (∀ call authorization requiredScope now refusal w',
        AccessStep (fun _ => firstKeyHash) none w
          (.lookedUp call authorization requiredScope now refusal) w' →
        (refusal = none ↔ ∃ key,
          Entitled (fun _ => firstKeyHash) firstCall authorization requiredScope now key)) ∧
      ∀ start, firstCall.countP (·.isAcceptedFrom "p" "k" start) ≤ 480 := by
  have hrun : Run (AccessStep (fun _ => firstKeyHash) none) emptyAccess firstCall _ :=
    .next (.next (.next .start (.found rfl)) (.lookUp rfl rfl))
      (@AccessStep.count _ _ _ 0 (initialKey "p" "k" "cf_live_AAAAAAAA" firstKeyHash) 7 rfl)
  have hordered : Unovertaken (firstCall.filterMap (·.rateEvent none)) := by
    -- no cleanup was served
    intro before request answer after heq olderThanHours now hmem
    have hall : RateEvent.pruned olderThanHours now ∈ before ++ .consumed request answer :: after :=
      List.mem_append_left _ hmem
    rw [← heq] at hall
    simp [firstCall, AccessEvent.rateEvent] at hall
  exact ⟨_, hrun, (authentication_exact hrun).1,
    (authentication_exact hrun).2.2 hordered "p" "k"⟩

end CellFlow
