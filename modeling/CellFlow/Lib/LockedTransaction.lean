/-
# CellFlow.Lib.LockedTransaction — transactions under one lock.

A transaction is a sequence of statements on the tables the lock guards; what it does next depends on
what it has read.  It takes the lock first and holds it until it commits or is rolled back.  Each
statement sees what is committed then, and the transaction's own writes over it.  Any number of
connections begin, wait, go on, fail and commit in any order; the lock makes the committed states those
of the transactions run one after another, in the order of their commits (`serial_run`).
-/
import CellFlow.Lib.Runs
import Mathlib.Logic.Function.Basic

namespace Locked

open Runs (Run)

/-! ## Transactions -/

/-- A transaction: `stmt write next` is a statement that reads the state it finds, writes it, and goes on
as `next` of the state found. -/
inductive Txn (σ ρ ε : Type) where
  | done (result : ρ)
  | throws (thrown : ε)
  | stmt (write : σ → σ) (next : σ → Txn σ ρ ε)

namespace Txn

variable {σ ρ ε : Type}

/-- The transaction alone, from a state. -/
def run : Txn σ ρ ε → σ → Except ε (σ × ρ)
  | .done result, s => .ok (s, result)
  | .throws thrown, _ => .error thrown
  | .stmt write next, s => (next s).run (write s)

/-- A statement that only reads. -/
def read (next : σ → Txn σ ρ ε) : Txn σ ρ ε := .stmt id next

/-- A statement that only writes. -/
def write (f : σ → σ) (next : Txn σ ρ ε) : Txn σ ρ ε := .stmt f fun _ => next

@[simp] theorem run_done (result : ρ) (s : σ) : (done result : Txn σ ρ ε).run s = .ok (s, result) := rfl

@[simp] theorem run_throws (thrown : ε) (s : σ) :
    (throws thrown : Txn σ ρ ε).run s = .error thrown := rfl

@[simp] theorem run_read (next : σ → Txn σ ρ ε) (s : σ) : (read next).run s = (next s).run s := rfl

@[simp] theorem run_write (f : σ → σ) (next : Txn σ ρ ε) (s : σ) :
    (write f next).run s = next.run (f s) := rfl

end Txn

/-! ## Connections -/

variable {σ ρ ε : Type}

/-- A connection with a transaction: waiting for the lock, or holding it.  `own` is what the transaction
has written so far, over whatever is committed. -/
inductive Phase (σ ρ ε : Type) where
  | waiting
  | holding (own : σ → σ) (rest : Txn σ ρ ε)

/-- An open connection: its transaction, and how far it has come. -/
structure Connection (σ ρ ε : Type) where
  program : Txn σ ρ ε
  phase : Phase σ ρ ε

/-- What is committed, who holds the lock, and the open connections. -/
structure World (σ ρ ε : Type) where
  committed : σ
  lock : Option Nat
  connections : Nat → Option (Connection σ ρ ε)

/-- What a connection does; a commit names the program and its result. -/
inductive Event (σ ρ ε : Type) where
  | begin (id : Nat) (program : Txn σ ρ ε)
  | acquire (id : Nat)
  | statement (id : Nat)
  | commit (id : Nat) (program : Txn σ ρ ε) (result : ρ)
  | rollback (id : Nat)

variable (w : World σ ρ ε)

/-- The connection is replaced, or closed. -/
def World.set (id : Nat) (connection : Option (Connection σ ρ ε)) : World σ ρ ε :=
  { w with connections := Function.update w.connections id connection }

/-- Nothing is committed; the lock is free again if the connection held it. -/
def World.drop (id : Nat) : World σ ρ ε :=
  { w.set id none with lock := if w.lock = some id then none else w.lock }

/-- One move of one connection.  A transaction may be rolled back at any time: it throws, a statement
of it fails, or the connection is lost. -/
inductive Step : World σ ρ ε → Event σ ρ ε → World σ ρ ε → Prop where
  | begin {w : World σ ρ ε} {id : Nat} (program : Txn σ ρ ε) (hnew : w.connections id = none) :
      Step w (.begin id program) (w.set id (some ⟨program, .waiting⟩))
  | acquire {w : World σ ρ ε} {id : Nat} {program : Txn σ ρ ε} (hfree : w.lock = none)
      (hwaiting : w.connections id = some ⟨program, .waiting⟩) :
      Step w (.acquire id)
        { w.set id (some ⟨program, .holding (fun s => s) program⟩) with lock := some id }
  | statement {w : World σ ρ ε} {id : Nat} {program : Txn σ ρ ε} {own write : σ → σ}
      {next : σ → Txn σ ρ ε}
      (hholding : w.connections id = some ⟨program, .holding own (.stmt write next)⟩) :
      Step w (.statement id)
        (w.set id (some ⟨program, .holding (write ∘ own) (next (own w.committed))⟩))
  | commit {w : World σ ρ ε} {id : Nat} {program : Txn σ ρ ε} {own : σ → σ} {result : ρ}
      (hholding : w.connections id = some ⟨program, .holding own (.done result)⟩) :
      Step w (.commit id program result) { w.drop id with committed := own w.committed }
  | rollback {w : World σ ρ ε} {id : Nat} {connection : Connection σ ρ ε}
      (hopen : w.connections id = some connection) : Step w (.rollback id) (w.drop id)

/-- No connection yet. -/
def start (s : σ) : World σ ρ ε where
  committed := s
  lock := none
  connections := fun _ => none

/-! ## One holder -/

variable {w w' : World σ ρ ε} {event : Event σ ρ ε} {s₀ : σ} {events : List (Event σ ρ ε)}

/-- Who goes on holds the lock; and what it has left comes to what its transaction comes to from the
committed state. -/
structure LockInv (w : World σ ρ ε) : Prop where
  holder : ∀ id program own rest, w.connections id = some ⟨program, .holding own rest⟩ →
    w.lock = some id
  left : ∀ id program own rest, w.connections id = some ⟨program, .holding own rest⟩ →
    rest.run (own w.committed) = program.run w.committed

theorem World.set_self (w : World σ ρ ε) (id : Nat) (connection : Option (Connection σ ρ ε)) :
    (w.set id connection).connections id = connection := Function.update_self ..

theorem World.set_of_ne (w : World σ ρ ε) {id other : Nat} (h : other ≠ id)
    (connection : Option (Connection σ ρ ε)) :
    (w.set id connection).connections other = w.connections other := Function.update_of_ne h ..

/-- A connection that ends leaves the others as they are. -/
theorem LockInv.drop (hi : LockInv w) (id : Nat) : LockInv (w.drop id) := by
  have hother : ∀ other program own rest,
      (w.drop id).connections other = some ⟨program, .holding own rest⟩ →
        other ≠ id ∧ w.connections other = some ⟨program, .holding own rest⟩ := by
    intro other program own rest hconnection
    by_cases hid : other = id
    · subst hid
      have hnone : (w.drop other).connections other = none := World.set_self w other none
      rw [hnone] at hconnection
      cases hconnection
    · exact ⟨hid, (World.set_of_ne w hid none).symm.trans hconnection⟩
  constructor
  · intro other program own rest hconnection
    obtain ⟨hid, hbefore⟩ := hother other program own rest hconnection
    have hlock := hi.holder other program own rest hbefore
    show (if w.lock = some id then none else w.lock) = some other
    rw [hlock, if_neg fun h => hid (Option.some.inj h)]
  · intro other program own rest hconnection
    exact hi.left other program own rest (hother other program own rest hconnection).2

theorem LockInv.step (hi : LockInv w) (h : Step w event w') : LockInv w' := by
  cases h with
  | @begin id program hnew =>
      have hbefore : ∀ other program' own rest,
          (w.set id (some ⟨program, .waiting⟩)).connections other =
            some ⟨program', .holding own rest⟩ →
          w.connections other = some ⟨program', .holding own rest⟩ := by
        intro other program' own rest hconnection
        by_cases hid : other = id
        · subst hid
          rw [World.set_self] at hconnection
          cases hconnection
        · rwa [World.set_of_ne w hid] at hconnection
      exact ⟨fun other program' own rest h => hi.holder _ _ _ _ (hbefore other program' own rest h),
        fun other program' own rest h => hi.left _ _ _ _ (hbefore other program' own rest h)⟩
  | @acquire id program hfree hwaiting =>
      -- nobody else holds the lock
      have honly : ∀ other program' own rest,
          (w.set id (some ⟨program, .holding (fun s => s) program⟩)).connections other =
            some ⟨program', .holding own rest⟩ →
          other = id ∧ program' = program ∧ own = (fun s => s) ∧ rest = program := by
        intro other program' own rest hconnection
        by_cases hid : other = id
        · subst hid
          rw [World.set_self] at hconnection
          cases hconnection
          exact ⟨rfl, rfl, rfl, rfl⟩
        · rw [World.set_of_ne w hid] at hconnection
          have hlock := hi.holder other program' own rest hconnection
          rw [hfree] at hlock
          cases hlock
      constructor
      · intro other program' own rest hconnection
        obtain ⟨rfl, -, -, -⟩ := honly other program' own rest hconnection
        rfl
      · intro other program' own rest hconnection
        obtain ⟨-, rfl, rfl, rfl⟩ := honly other program' own rest hconnection
        rfl
  | @statement id program own write next hholding =>
      have hlock := hi.holder id program own _ hholding
      constructor
      · intro other program' own' rest hconnection
        by_cases hid : other = id
        · subst hid
          exact hlock
        · rw [World.set_of_ne w hid] at hconnection
          exact hi.holder other program' own' rest hconnection
      · intro other program' own' rest hconnection
        by_cases hid : other = id
        · subst hid
          rw [World.set_self] at hconnection
          cases hconnection
          exact hi.left other program own _ hholding
        · rw [World.set_of_ne w hid] at hconnection
          exact hi.left other program' own' rest hconnection
  | @commit id program own result hholding =>
      have hlock := hi.holder id program own _ hholding
      -- whoever went on besides the one that commits would hold its lock
      have hnone : ∀ other program' own' rest,
          (w.drop id).connections other ≠ some ⟨program', .holding own' rest⟩ := by
        intro other program' own' rest hconnection
        have hafter := (hi.drop id).holder other program' own' rest hconnection
        have hfree : (w.drop id).lock = none := if_pos hlock
        rw [hfree] at hafter
        cases hafter
      exact ⟨fun other program' own' rest h => absurd h (hnone other program' own' rest),
        fun other program' own' rest h => absurd h (hnone other program' own' rest)⟩
  | rollback hopen => exact hi.drop _

theorem lockInv_run (h : Run Step (start s₀) events w) : LockInv w := by
  refine Run.inv LockInv ?_ ?_ h
  · constructor
    · intro id program own rest hconnection
      cases hconnection
    · intro id program own rest hconnection
      cases hconnection
  · intro w event w' hi hs
    exact hi.step hs

/-! ## One after another -/

/-- A transaction run alone, with what it returned. -/
def Alone (s : σ) (call : Txn σ ρ ε × ρ) (s' : σ) : Prop := call.1.run s = .ok (s', call.2)

/-- The transactions that committed, in the order of their commits. -/
def Event.committed? : Event σ ρ ε → Option (Txn σ ρ ε × ρ)
  | .commit _ program result => some (program, result)
  | _ => none

/-- **The lock serializes**: whatever the interleaving, the committed state is the one the committed
transactions come to when each is run alone, one after another. -/
theorem serial_run (h : Run Step (start s₀) events w) :
    Run Alone s₀ (events.filterMap Event.committed?) w.committed := by
  refine Run.project (·.committed) Event.committed? ?_ ?_ h
  · intro events w event w' _ hs hsilent
    cases hs with
    | commit hholding => cases hsilent
    | begin program hnew => rfl
    | acquire hfree hwaiting => rfl
    | statement hholding => rfl
    | rollback hopen => rfl
  · intro events w event w' call hrun hs hvisible
    cases hs with
    | @commit id program own result hholding =>
        obtain rfl := Option.some.inj hvisible
        exact ((lockInv_run hrun).left id program own _ hholding).symm
    | begin program hnew => cases hvisible
    | acquire hfree hwaiting => cases hvisible
    | statement hholding => cases hvisible
    | rollback hopen => cases hvisible

/-- A connection has a transaction that was begun. -/
theorem begun_run (h : Run Step (start s₀) events w) : ∀ id connection,
    w.connections id = some connection → .begin id connection.program ∈ events := by
  refine Run.history (fun events w => ∀ id connection, w.connections id = some connection →
    .begin id connection.program ∈ events) ?_ ?_ h
  · intro id connection hconnection
    cases hconnection
  · intro events w event w' _ hi hs other connection hconnection
    -- a move changes the program of no connection but the one it begins
    have hmoved : ∀ {id : Nat} {changed : Option (Connection σ ρ ε)},
        (∀ now, changed = some now → .begin id now.program ∈ events ++ [event]) →
        (w.set id changed).connections other = some connection →
        .begin other connection.program ∈ events ++ [event] := by
      intro id changed hchanged hafter
      by_cases hid : other = id
      · subst hid
        rw [World.set_self] at hafter
        exact hchanged connection hafter
      · rw [World.set_of_ne w hid] at hafter
        exact List.mem_append_left _ (hi other connection hafter)
    cases hs with
    | begin program hnew =>
        refine hmoved ?_ hconnection
        rintro _ ⟨⟩
        exact List.mem_append_right _ List.mem_cons_self
    | acquire hfree hwaiting =>
        refine hmoved ?_ hconnection
        rintro _ ⟨⟩
        have hbegun := hi _ _ hwaiting
        exact List.mem_append_left _ hbegun
    | statement hholding =>
        refine hmoved ?_ hconnection
        rintro _ ⟨⟩
        have hbegun := hi _ _ hholding
        exact List.mem_append_left _ hbegun
    | commit hholding =>
        refine hmoved ?_ hconnection
        rintro _ ⟨⟩
    | rollback hopen =>
        refine hmoved ?_ hconnection
        rintro _ ⟨⟩

/-- A transaction that committed was begun. -/
theorem begun_of_committed (h : Run Step (start s₀) events w) {call : Txn σ ρ ε × ρ}
    (hcall : call ∈ events.filterMap Event.committed?) : ∃ id, .begin id call.1 ∈ events := by
  induction h with
  | start => cases hcall
  | @next events w event w' hrun hs ih =>
      rw [List.filterMap_append, List.mem_append] at hcall
      rcases hcall with hbefore | hlast
      · obtain ⟨id, hid⟩ := ih hbefore
        exact ⟨id, List.mem_append_left _ hid⟩
      · obtain ⟨last, hmem, hcommitted⟩ := List.mem_filterMap.mp hlast
        obtain rfl := List.mem_singleton.mp hmem
        cases hs with
        | @commit id program own result hholding =>
            obtain rfl := Option.some.inj hcommitted
            exact ⟨id, List.mem_append_left _ (begun_run hrun id _ hholding)⟩
        | begin program hnew => cases hcommitted
        | acquire hfree hwaiting => cases hcommitted
        | statement hholding => cases hcommitted
        | rollback hopen => cases hcommitted

end Locked
