/-
# CellFlow.Lib.Dialogue — questions put to something that answers, each call numbered.

A session puts questions to an answerer `ω` one after the other and stops at the first call that
fails.  The answer may depend on the number of the call, so a question asked twice may be answered
differently.  What a session that came through has asked is read off with `Dialogue.bind_ok` and
`Dialogue.ask_ok`.
-/
import Mathlib.Data.Nat.Notation

/-- A computation that makes calls from a given number on; it fails with the message of the failed
call, or returns a value and the number of the next call. -/
def Dialogue (ω α : Type) : Type := ω → ℕ → Except String (α × ℕ)

namespace Dialogue

variable {ω α β : Type}

/-- One call. -/
def ask (answer : ω → ℕ → Except String α) : Dialogue ω α := fun answerer n =>
  match answer answerer n with
  | .error message => .error message
  | .ok a => .ok (a, n + 1)

/-- An exception. -/
def fail (message : String) : Dialogue ω α := fun _ _ => .error message

instance : Monad (Dialogue ω) where
  pure a := fun _ n => .ok (a, n)
  bind x f := fun answerer n =>
    match x answerer n with
    | .error message => .error message
    | .ok (a, k) => f a answerer k

/-- A session from its first call, with the value it returns. -/
def run (x : Dialogue ω α) (answerer : ω) : Except String α := (x answerer 0).map Prod.fst

section Runs

variable {answerer : ω} {n m : ℕ} {a : α} {b : β}

theorem bind_ok {x : Dialogue ω α} {f : α → Dialogue ω β} :
    (x >>= f) answerer n = .ok (b, m) ↔
      ∃ a k, x answerer n = .ok (a, k) ∧ f a answerer k = .ok (b, m) := by
  change (match x answerer n with
    | Except.error message => Except.error message
    | Except.ok (a, k) => f a answerer k) = Except.ok (b, m) ↔ _
  cases x answerer n with
  | error message => simp
  | ok r =>
      obtain ⟨a, k⟩ := r
      simp only [Except.ok.injEq, Prod.mk.injEq]
      constructor
      · intro h
        exact ⟨a, k, ⟨rfl, rfl⟩, h⟩
      · rintro ⟨_, _, ⟨rfl, rfl⟩, h⟩
        exact h

theorem pure_ok {a' : α} :
    (pure a : Dialogue ω α) answerer n = .ok (a', m) ↔ a = a' ∧ n = m := by
  show Except.ok (a, n) = .ok (a', m) ↔ _
  simp

theorem ask_ok {answer : ω → ℕ → Except String α} :
    ask answer answerer n = .ok (a, m) ↔ answer answerer n = .ok a ∧ m = n + 1 := by
  unfold ask
  cases answer answerer n with
  | error message => simp
  | ok a' =>
      simp only [Except.ok.injEq, Prod.mk.injEq]
      exact and_congr_right fun _ => eq_comm

theorem fail_ok {message : String} : fail message answerer n ≠ .ok (a, m) := by
  intro h
  cases h

/-- A session that came through. -/
theorem run_ok {x : Dialogue ω α} : x.run answerer = .ok a ↔ ∃ m, x answerer 0 = .ok (a, m) := by
  unfold run
  cases x answerer 0 with
  | error message => simp [Except.map]
  | ok r =>
      obtain ⟨a', k⟩ := r
      simp [Except.map]

end Runs

end Dialogue
