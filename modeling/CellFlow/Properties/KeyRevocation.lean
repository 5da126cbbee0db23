/-
# CellFlow.Properties.KeyRevocation — when a revocation locks a project out.

Calls of `createApiKey` and `revokeApiKey` wait for the project row and are served one at a time, each
with the `now()` of its start and a reading of the application clock.  A key that revocation takes to
have expired is not protected, and a list of active keys as of the start of a transaction may hold keys
that have run out since.  Those are the only ways in which a revocation takes the last active key, or
the last active admin key (`revocation_keeps_keys_iff`).
-/
import CellFlow.Db.ApiKeys
import CellFlow.Lib.Runs

namespace CellFlow

open Runs (Run)

/-! ## Active keys -/

namespace ApiKeyStore

variable (store : ApiKeyStore) (projectId keyId : String) (now : Int)

/-- The project has an active key. -/
def HasActive : Prop :=
  ∃ key ∈ store.keys, key.projectId = projectId ∧ key.isActive now = true

/-- The project has an active admin key. -/
def HasActiveAdmin : Prop :=
  ∃ key ∈ store.keys, key.projectId = projectId ∧ key.isActive now = true ∧ key.isAdmin = true

/-- The project has an active key besides `keyId`. -/
def OtherActive : Prop :=
  ∃ key ∈ store.keys, key.projectId = projectId ∧ key.isActive now = true ∧ key.id ≠ keyId

/-- The project has an active admin key besides `keyId`. -/
def OtherAdmin : Prop :=
  ∃ key ∈ store.keys,
    key.projectId = projectId ∧ key.isActive now = true ∧ key.isAdmin = true ∧ key.id ≠ keyId

end ApiKeyStore

/-- The project still has an active key, and an active admin key, where it had one. -/
structure KeepsKeys (projectId : String) (time : Int) (before after : ApiKeyStore) : Prop where
  active : before.HasActive projectId time → after.HasActive projectId time
  admin : before.HasActiveAdmin projectId time → after.HasActiveAdmin projectId time

/-- **A lock-out**: the target is the last active key, or the last active admin key, when the call is
served; and the check that would spare it is skipped by the application clock, or counts another key
that was active when the transaction started. -/
def LocksOut (store : ApiKeyStore) (projectId keyId : String) (now time clock : Int) : Prop :=
  ∃ target ∈ store.keys, target.projectId = projectId ∧ target.id = keyId ∧
    target.isActive time = true ∧
    (¬ store.OtherActive projectId keyId time ∧ (target.isExpired clock = true ∨
        store.OtherActive projectId keyId now ∧
          (target.isAdmin = true → store.OtherAdmin projectId keyId now)) ∨
      target.isAdmin = true ∧ ¬ store.OtherAdmin projectId keyId time ∧
        (target.isExpired clock = true ∨ store.OtherAdmin projectId keyId now))

section

variable {store : ApiKeyStore} {projectId keyId : String} {now time clock : Int}
  {key target : ApiKeyRow}

/-- Keys only run out. -/
theorem ApiKeyRow.isActive_mono (hle : now ≤ time) (h : key.isActive time = true) :
    key.isActive now = true := by
  rw [ApiKeyRow.isActive, Bool.and_eq_true, Option.all_eq_true] at h ⊢
  refine ⟨h.1, ?_⟩
  intro expiresAt hexpires
  have hlater := h.2 expiresAt hexpires
  rw [decide_eq_true_eq] at hlater ⊢
  omega

theorem ApiKeyStore.OtherAdmin.active (h : store.OtherAdmin projectId keyId now) :
    store.OtherActive projectId keyId now := by
  obtain ⟨key, hkey, hproject, hactive, -, hne⟩ := h
  exact ⟨key, hkey, hproject, hactive, hne⟩

/-! ## The counts -/

theorem one_lt_activeKeys (htarget : target ∈ store.keys) (hproject : target.projectId = projectId)
    (hactive : target.isActive now = true) :
    1 < (store.activeKeys projectId now).length ↔ store.OtherActive projectId target.id now := by
  rw [ApiKeyStore.one_lt_length_iff ApiKeyStore.activeKeys_sublist
    (ApiKeyStore.mem_activeKeys.mpr ⟨htarget, hproject, hactive⟩)]
  simp only [ApiKeyStore.mem_activeKeys, ApiKeyStore.OtherActive, and_assoc]

theorem one_lt_activeAdmins (htarget : target ∈ store.keys)
    (hproject : target.projectId = projectId) (hactive : target.isActive now = true)
    (hadmin : target.isAdmin = true) :
    1 < ((store.activeKeys projectId now).filter (·.isAdmin)).length ↔
      store.OtherAdmin projectId target.id now := by
  have hmem : target ∈ (store.activeKeys projectId now).filter (·.isAdmin) :=
    List.mem_filter.mpr ⟨ApiKeyStore.mem_activeKeys.mpr ⟨htarget, hproject, hactive⟩, hadmin⟩
  rw [ApiKeyStore.one_lt_length_iff (List.filter_sublist.trans ApiKeyStore.activeKeys_sublist) hmem]
  simp only [List.mem_filter, ApiKeyStore.mem_activeKeys, ApiKeyStore.OtherAdmin, and_assoc]

/-! ## After a revocation -/

theorem isActive_revoked (hproject : key.projectId = projectId) :
    (key.revokedIf projectId keyId now).isActive time = true ↔
      key.isActive time = true ∧ key.id ≠ keyId := by
  unfold ApiKeyRow.revokedIf
  split_ifs with htarget
  · simp [ApiKeyRow.isActive, htarget.2]
  · have hne : key.id ≠ keyId := fun hid => htarget ⟨hproject, hid⟩
    simp [hne]

theorem isAdmin_revoked : (key.revokedIf projectId keyId now).isAdmin = key.isAdmin := by
  unfold ApiKeyRow.revokedIf
  split_ifs <;> rfl

/-- The active keys after a revocation are the others. -/
theorem hasActive_revoke :
    (store.revoke projectId keyId now).HasActive projectId time ↔
      store.OtherActive projectId keyId time := by
  constructor
  · rintro ⟨key, hkey, hproject, hactive⟩
    obtain ⟨key₀, hkey₀, rfl⟩ := ApiKeyStore.mem_revoke.mp hkey
    rw [ApiKeyRow.revokedIf_projectId] at hproject
    obtain ⟨hactive₀, hne⟩ := (isActive_revoked hproject).mp hactive
    exact ⟨key₀, hkey₀, hproject, hactive₀, hne⟩
  · rintro ⟨key, hkey, hproject, hactive, hne⟩
    refine ⟨_, ApiKeyStore.mem_revoke.mpr ⟨key, hkey, rfl⟩, ?_, ?_⟩
    · rw [ApiKeyRow.revokedIf_projectId]
      exact hproject
    · exact (isActive_revoked hproject).mpr ⟨hactive, hne⟩

theorem hasActiveAdmin_revoke :
    (store.revoke projectId keyId now).HasActiveAdmin projectId time ↔
      store.OtherAdmin projectId keyId time := by
  constructor
  · rintro ⟨key, hkey, hproject, hactive, hadmin⟩
    obtain ⟨key₀, hkey₀, rfl⟩ := ApiKeyStore.mem_revoke.mp hkey
    rw [ApiKeyRow.revokedIf_projectId] at hproject
    rw [isAdmin_revoked] at hadmin
    obtain ⟨hactive₀, hne⟩ := (isActive_revoked hproject).mp hactive
    exact ⟨key₀, hkey₀, hproject, hactive₀, hadmin, hne⟩
  · rintro ⟨key, hkey, hproject, hactive, hadmin, hne⟩
    refine ⟨_, ApiKeyStore.mem_revoke.mpr ⟨key, hkey, rfl⟩, ?_, ?_, ?_⟩
    · rw [ApiKeyRow.revokedIf_projectId]
      exact hproject
    · exact (isActive_revoked hproject).mpr ⟨hactive, hne⟩
    · rw [isAdmin_revoked]
      exact hadmin

/-- The active keys before are the others and the target. -/
theorem hasActive_iff (htarget : target ∈ store.keys) (hproject : target.projectId = projectId) :
    store.HasActive projectId time ↔
      target.isActive time = true ∨ store.OtherActive projectId target.id time := by
  constructor
  · rintro ⟨key, hkey, hkeyProject, hactive⟩
    by_cases hid : key.id = target.id
    · obtain rfl := ApiKeyStore.eq_of_id hkey htarget hid
      exact Or.inl hactive
    · exact Or.inr ⟨key, hkey, hkeyProject, hactive, hid⟩
  · rintro (hactive | ⟨key, hkey, hkeyProject, hactive, -⟩)
    · exact ⟨target, htarget, hproject, hactive⟩
    · exact ⟨key, hkey, hkeyProject, hactive⟩

theorem hasActiveAdmin_iff (htarget : target ∈ store.keys)
    (hproject : target.projectId = projectId) :
    store.HasActiveAdmin projectId time ↔
      target.isActive time = true ∧ target.isAdmin = true ∨
        store.OtherAdmin projectId target.id time := by
  constructor
  · rintro ⟨key, hkey, hkeyProject, hactive, hadmin⟩
    by_cases hid : key.id = target.id
    · obtain rfl := ApiKeyStore.eq_of_id hkey htarget hid
      exact Or.inl ⟨hactive, hadmin⟩
    · exact Or.inr ⟨key, hkey, hkeyProject, hactive, hadmin, hid⟩
  · rintro (⟨hactive, hadmin⟩ | ⟨key, hkey, hkeyProject, hactive, hadmin, -⟩)
    · exact ⟨target, htarget, hproject, hactive, hadmin⟩
    · exact ⟨key, hkey, hkeyProject, hactive, hadmin⟩

/-- A revoked key was the last one, or others are left. -/
theorem keepsKeys_revoke_iff (htarget : target ∈ store.keys)
    (hproject : target.projectId = projectId) :
    KeepsKeys projectId time store (store.revoke projectId target.id now) ↔
      (target.isActive time = true → store.OtherActive projectId target.id time) ∧
        (target.isActive time = true → target.isAdmin = true →
          store.OtherAdmin projectId target.id time) := by
  constructor
  · rintro ⟨hkeeps, hadmins⟩
    rw [hasActive_revoke, hasActive_iff htarget hproject] at hkeeps
    rw [hasActiveAdmin_revoke, hasActiveAdmin_iff htarget hproject] at hadmins
    exact ⟨fun hactive => hkeeps (Or.inl hactive),
      fun hactive hadmin => hadmins (Or.inl ⟨hactive, hadmin⟩)⟩
  · rintro ⟨hother, hotherAdmin⟩
    constructor
    · rw [hasActive_revoke, hasActive_iff htarget hproject]
      rintro (hactive | hkept)
      · exact hother hactive
      · exact hkept
    · rw [hasActiveAdmin_revoke, hasActiveAdmin_iff htarget hproject]
      rintro (⟨hactive, hadmin⟩ | hkept)
      · exact hotherAdmin hactive hadmin
      · exact hkept

/-! ## One call -/

/-- The checks let the revocation of an unrevoked target pass. -/
def ChecksPass (store : ApiKeyStore) (projectId : String) (now clock : Int) (target : ApiKeyRow) : Prop :=
  target.isExpired clock = true ∨ 1 < (store.activeKeys projectId now).length ∧
    (target.isAdmin = true →
      1 < ((store.activeKeys projectId now).filter (·.isAdmin)).length)

/-- **What a revocation does**: it revokes an unrevoked target that the checks let pass, or nothing. -/
theorem revokeApiKey_cases (store : ApiKeyStore) (projectId keyId : String) (now clock : Int) :
    (∃ target, store.findKey projectId keyId = some target ∧ target.revokedAt = none ∧
        ChecksPass store projectId now clock target ∧
        revokeApiKey projectId keyId now clock store =
          (store.revoke projectId keyId now, .revoked)) ∨
      (revokeApiKey projectId keyId now clock store).1 = store ∧
        ∀ target, store.findKey projectId keyId = some target → target.revokedAt = none →
          ¬ ChecksPass store projectId now clock target := by
  unfold revokeApiKey
  by_cases hproject : projectId ∈ store.projects
  · rw [if_neg (not_not.mpr hproject)]
    cases hfind : store.findKey projectId keyId with
    | none => exact Or.inr ⟨rfl, fun target h => absurd h (by simp)⟩
    | some target =>
        simp only
        -- revoked before, refused by either check, or let pass
        split_ifs with hrevoked hactive hadmin
        · refine Or.inr ⟨rfl, ?_⟩
          rintro _ ⟨⟩ hnone
          rw [hnone] at hrevoked
          cases hrevoked
        · refine Or.inr ⟨rfl, ?_⟩
          rintro _ ⟨⟩ -
          simp only [Bool.and_eq_true, Bool.not_eq_true', decide_eq_true_eq] at hactive
          rintro (hexpired | ⟨htwo, -⟩)
          · rw [hactive.1] at hexpired
            cases hexpired
          · omega
        · refine Or.inr ⟨rfl, ?_⟩
          rintro _ ⟨⟩ -
          simp only [Bool.and_eq_true, Bool.not_eq_true', decide_eq_true_eq] at hadmin
          rintro (hexpired | ⟨-, htwo⟩)
          · rw [hadmin.1.1] at hexpired
            cases hexpired
          · have hadmins := htwo hadmin.1.2
            omega
        · refine Or.inl ⟨target, rfl, by simpa using hrevoked, ?_, rfl⟩
          cases hexpired : target.isExpired clock with
          | true => exact Or.inl hexpired
          | false =>
              simp only [hexpired, Bool.not_false, Bool.true_and, Bool.and_eq_true,
                decide_eq_true_eq, not_and, Nat.not_le] at hactive hadmin
              exact Or.inr ⟨hactive, hadmin⟩
  · -- no key belongs to a project that is not there
    rw [if_pos hproject]
    refine Or.inr ⟨rfl, ?_⟩
    intro target hfind
    obtain ⟨htarget, howner, -⟩ := ApiKeyStore.findKey_some hfind
    exact absurd (howner ▸ store.owned target htarget) hproject

/-- Where the target is active as the call is served, the checks count the others as of its start. -/
theorem checksPass_iff (hle : now ≤ time) (htarget : target ∈ store.keys)
    (hproject : target.projectId = projectId) (hactive : target.isActive time = true) :
    ChecksPass store projectId now clock target ↔ target.isExpired clock = true ∨
      store.OtherActive projectId target.id now ∧
        (target.isAdmin = true → store.OtherAdmin projectId target.id now) := by
  have hstart := ApiKeyRow.isActive_mono hle hactive
  unfold ChecksPass
  rw [one_lt_activeKeys htarget hproject hstart]
  apply or_congr_right
  apply and_congr_right
  intro _
  apply forall_congr'
  intro hadmin
  exact one_lt_activeAdmins htarget hproject hstart hadmin

/-- **One revocation** keeps the keys exactly where it is no lock-out. -/
theorem keepsKeys_iff (hle : now ≤ time) :
    KeepsKeys projectId time store (revokeApiKey projectId keyId now clock store).1 ↔
      ¬ LocksOut store projectId keyId now time clock := by
  rcases revokeApiKey_cases store projectId keyId now clock with
    ⟨target, hfind, hnone, hpasses, hresult⟩ | ⟨hsame, hrefused⟩
  · obtain ⟨htarget, hproject, rfl⟩ := ApiKeyStore.findKey_some hfind
    rw [hresult, keepsKeys_revoke_iff htarget hproject]
    constructor
    · rintro ⟨hother, hotherAdmin⟩ ⟨key, hkey, -, hid, hactive, hlast⟩
      obtain rfl := ApiKeyStore.eq_of_id hkey htarget hid
      rcases hlast with ⟨hlone, -⟩ | ⟨hadmin, hlone, -⟩
      · exact hlone (hother hactive)
      · exact hlone (hotherAdmin hactive hadmin)
    · intro hsafe
      constructor
      · intro hactive
        by_contra hlone
        have hpassed := (checksPass_iff hle htarget hproject hactive).mp hpasses
        exact hsafe ⟨target, htarget, hproject, rfl, hactive, Or.inl ⟨hlone, hpassed⟩⟩
      · intro hactive hadmin
        by_contra hlone
        refine hsafe ⟨target, htarget, hproject, rfl, hactive, Or.inr ⟨hadmin, hlone, ?_⟩⟩
        have hpassed := (checksPass_iff hle htarget hproject hactive).mp hpasses
        exact hpassed.imp_right fun hothers => hothers.2 hadmin
  · rw [hsame]
    refine iff_of_true ⟨id, id⟩ ?_
    -- a refused call is no lock-out: both of its cases let the target pass
    rintro ⟨target, htarget, hproject, rfl, hactive, hlast⟩
    have hfound : store.findKey projectId target.id = some target := by
      cases hfind : store.findKey projectId target.id with
      | none => exact absurd rfl (ApiKeyStore.findKey_none hfind htarget hproject)
      | some found =>
          obtain ⟨hmem, -, hid⟩ := ApiKeyStore.findKey_some hfind
          rw [ApiKeyStore.eq_of_id hmem htarget hid]
    have hnone : target.revokedAt = none := by
      rw [ApiKeyRow.isActive, Bool.and_eq_true, Option.isNone_iff_eq_none] at hactive
      exact hactive.1
    refine hrefused target hfound hnone ((checksPass_iff hle htarget hproject hactive).mpr ?_)
    rcases hlast with ⟨-, hpassed⟩ | ⟨-, -, hpassed⟩
    · exact hpassed
    · exact hpassed.imp_right fun hadmin => ⟨hadmin.active, fun _ => hadmin⟩

end

/-! ## Calls in any order -/

/-- A call on the keys of a project. -/
inductive KeyCall where
  | create (input : ApiKeyInput)
  | revoke (projectId keyId : String)
  deriving DecidableEq, Repr

/-- A transaction that has started, and not been served. -/
structure WaitingCall where
  call : KeyCall
  now : Int
  deriving DecidableEq, Repr

/-- The time, the table, and the calls that have begun and not been served. -/
structure KeyWorld where
  time : Int
  store : ApiKeyStore
  waiting : List WaitingCall

/-- The calls that hold the project row are served one by one; `clock` is what `Date.now()` gives to
the call served. -/
inductive KeyMove where
  | tick (time : Int)
  | start (call : KeyCall)
  | serve (index : Nat) (clock : Int)
  | abort (index : Nat)
  deriving DecidableEq, Repr

/-- The store after a call; a call that throws is rolled back. -/
def WaitingCall.run (waiting : WaitingCall) (clock : Int) (store : ApiKeyStore) : ApiKeyStore :=
  match waiting.call with
  | .create input => (createApiKey input store).getD store
  | .revoke projectId keyId => (revokeApiKey projectId keyId waiting.now clock store).1

/-- The world after a move, if the move can be made. -/
def KeyWorld.move (w : KeyWorld) : KeyMove → Option KeyWorld
  | .tick time => if w.time ≤ time then some { w with time := time } else none
  | .start call => some { w with waiting := ⟨call, w.time⟩ :: w.waiting }
  | .serve index clock =>
      match w.waiting[index]? with
      | some waiting =>
          some { w with
            store := waiting.run clock w.store
            waiting := w.waiting.eraseIdx index }
      | none => none
  | .abort index => some { w with waiting := w.waiting.eraseIdx index }

/-- One move, as a relation. -/
def KeyStep (w : KeyWorld) (m : KeyMove) (w' : KeyWorld) : Prop := w.move m = some w'

/-- Any store, before the first of the calls. -/
def idleKeys (store : ApiKeyStore) (time : Int) : KeyWorld where
  time := time
  store := store
  waiting := []

/-- The waiting calls have started. -/
def Started (w : KeyWorld) : Prop := ∀ waiting ∈ w.waiting, waiting.now ≤ w.time

theorem Started.step {w w' : KeyWorld} {m : KeyMove} (hi : Started w) (h : KeyStep w m w') :
    Started w' := by
  unfold KeyStep at h
  cases m with
  | tick time =>
      simp only [KeyWorld.move] at h
      split_ifs at h with hle
      obtain rfl := Option.some.inj h
      intro waiting hwaiting
      exact Int.le_trans (hi waiting hwaiting) hle
  | start call =>
      obtain rfl := Option.some.inj h
      exact List.forall_mem_cons.mpr ⟨Int.le_refl _, hi⟩
  | serve index clock =>
      simp only [KeyWorld.move] at h
      split at h
      · obtain rfl := Option.some.inj h
        intro waiting hwaiting
        exact hi waiting (List.mem_of_mem_eraseIdx hwaiting)
      · cases h
  | abort index =>
      obtain rfl := Option.some.inj h
      intro waiting hwaiting
      exact hi waiting (List.mem_of_mem_eraseIdx hwaiting)

theorem started_run {store : ApiKeyStore} {time : Int} {moves : List KeyMove} {w : KeyWorld}
    (h : Run KeyStep (idleKeys store time) moves w) : Started w :=
  Run.inv Started (fun _ hwaiting => by cases hwaiting) (fun _ _ _ hi hs => hi.step hs) h

/-- **Revocation locks a project out exactly where `LocksOut` says**: in every state that calls of any
number reach in any order, the call served next keeps an active key and an active admin key, unless it
is a lock-out. -/
theorem revocation_keeps_keys_iff {store : ApiKeyStore} {time now clock : Int} {index : Nat}
    {projectId keyId : String} {moves : List KeyMove} {w w' : KeyWorld}
    (h : Run KeyStep (idleKeys store time) moves w)
    (hcall : w.waiting[index]? = some ⟨.revoke projectId keyId, now⟩)
    (hserve : KeyStep w (.serve index clock) w') :
    KeepsKeys projectId w.time w.store w'.store ↔
      ¬ LocksOut w.store projectId keyId now w.time clock := by
  have hstarted : now ≤ w.time := started_run h _ (List.mem_of_getElem? hcall)
  simp only [KeyStep, KeyWorld.move, hcall] at hserve
  obtain rfl := Option.some.inj hserve
  exact keepsKeys_iff hstarted

/-- A call is no lock-out where the application clock is not ahead of the database, and no key of the
project runs out while the call waits. -/
theorem not_locksOut {store : ApiKeyStore} {projectId keyId : String} {now time clock : Int}
    (hclock : clock ≤ time)
    (hwait : ∀ key ∈ store.keys, key.projectId = projectId → key.isActive now = true →
      key.isActive time = true) :
    ¬ LocksOut store projectId keyId now time clock := by
  rintro ⟨target, -, -, -, hactive, hlast⟩
  -- the target is active, so on a clock that is not ahead it has not expired
  have hrunning : target.isExpired clock = false := by
    rw [ApiKeyRow.isActive, Bool.and_eq_true, Option.all_eq_true] at hactive
    rw [ApiKeyRow.isExpired, Option.any_eq_false]
    intro expiresAt hexpires
    have hlater := hactive.2 expiresAt hexpires
    rw [decide_eq_true_eq] at hlater
    rw [decide_eq_false_iff_not]
    omega
  rw [hrunning] at hlast
  rcases hlast with ⟨hlone, hexpired | ⟨hother, -⟩⟩ | ⟨-, hlone, hexpired | hother⟩
  · cases hexpired
  · obtain ⟨key, hkey, hproject, hkeyActive, hne⟩ := hother
    exact hlone ⟨key, hkey, hproject, hwait key hkey hproject hkeyActive, hne⟩
  · cases hexpired
  · obtain ⟨key, hkey, hproject, hkeyActive, hadmin, hne⟩ := hother
    exact hlone ⟨key, hkey, hproject, hwait key hkey hproject hkeyActive, hadmin, hne⟩

/-! ## Lock-outs -/

/-- An admin key of the project `p`. -/
def adminKey (id : String) (expiresAt : Option Int) : ApiKeyRow where
  id := id
  projectId := "p"
  prefixText := "cf_live_"
  hash := id
  label := "default"
  scopes := [.read, .write, .admin]
  expiresAt := expiresAt
  revokedAt := none

/-- The project `p` with one key, or two. -/
def oneKey (expiresAt : Option Int) : ApiKeyStore where
  projects := ["p"]
  keys := [adminKey "a" expiresAt]
  unique_id := show ["a"].Nodup by decide
  unique_hash := show ["a"].Nodup by decide
  owned := by simp [adminKey]

/-- Two admin keys of one project, the second with a time it ends at. -/
def twoKeys (expiresAt : Option Int) : ApiKeyStore where
  projects := ["p"]
  keys := [adminKey "a" none, adminKey "b" expiresAt]
  unique_id := show ["a", "b"].Nodup by decide
  unique_hash := show ["a", "b"].Nodup by decide
  owned := by simp [adminKey]

/-- One of two keys without an end is revoked. -/
theorem revocation_keeps_keys_iff_second :
    KeepsKeys "p" 0 (twoKeys none) ((twoKeys none).revoke "p" "a" 0) ↔
      ¬ LocksOut (twoKeys none) "p" "a" 0 0 0 := by
  have hrun : Run KeyStep (idleKeys (twoKeys none) 0) [.start (.revoke "p" "a")]
      ⟨0, twoKeys none, [⟨.revoke "p" "a", 0⟩]⟩ := .single rfl
  have hcall : (KeyWorld.mk 0 (twoKeys none) [⟨.revoke "p" "a", 0⟩]).waiting[0]? =
      some ⟨.revoke "p" "a", 0⟩ := rfl
  have hserve : KeyStep ⟨0, twoKeys none, [⟨.revoke "p" "a", 0⟩]⟩ (.serve 0 0)
      ⟨0, (twoKeys none).revoke "p" "a" 0, []⟩ := rfl
  exact revocation_keeps_keys_iff hrun hcall hserve

/-- The application clock is ahead: the only key of a project is revoked while it is active. -/
theorem fast_clock_locks_out :
    ∃ w w', Run KeyStep (idleKeys (oneKey (some 100)) 40) [.start (.revoke "p" "a")] w ∧
      KeyStep w (.serve 0 100) w' ∧
      (revokeApiKey "p" "a" 40 100 w.store).2 = .revoked ∧
      w.store.HasActiveAdmin "p" w.time ∧ ¬ w'.store.HasActive "p" w.time := by
  refine ⟨_, _, .single rfl, rfl, by decide, ?_, ?_⟩
  · exact ⟨adminKey "a" (some 100), List.mem_cons_self, rfl, by decide, by decide⟩
  · rintro ⟨key, hkey, -, hactive⟩
    obtain rfl := List.mem_singleton.mp hkey
    exact absurd hactive (by decide)

/-- A key runs out while a revocation waits for the project row: the other key, which has no end, is
revoked as one of two. -/
theorem expiry_while_waiting_locks_out :
    ∃ w w', Run KeyStep (idleKeys (twoKeys (some 60)) 40)
        [.start (.revoke "p" "a"), .tick 70] w ∧
      KeyStep w (.serve 0 70) w' ∧ w.store.HasActiveAdmin "p" w.time ∧
      ¬ w'.store.HasActive "p" w.time := by
  have hstart : Run KeyStep (idleKeys (twoKeys (some 60)) 40) [.start (.revoke "p" "a")] _ :=
    .single rfl
  refine ⟨_, _, hstart.next (a := KeyMove.tick 70) rfl, rfl, ?_, ?_⟩
  · exact ⟨adminKey "a" none, List.mem_cons_self, rfl, by decide, by decide⟩
  · rintro ⟨key, hkey, -, hactive⟩
    rcases List.mem_pair.mp hkey with rfl | rfl
    · exact absurd hactive (by decide)
    · exact absurd hactive (by decide)

end CellFlow
