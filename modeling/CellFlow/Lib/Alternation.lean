/-
# CellFlow.Lib.Alternation — logs of two values that strictly alternate.

A log over `Bool` alternates from a first value if its entries are that value, its negation, and so
on.  Whoever appends needs one fact only: the value the next entry must have.
-/
import Mathlib.Data.List.Basic

namespace Alternation

/-- The log starts with `first` and strictly alternates. -/
def Alternates (first : Bool) : List Bool → Prop
  | [] => True
  | x :: rest => x = first ∧ Alternates (!first) rest

/-- The value the entry after a log must have. -/
def due (first : Bool) : List Bool → Bool
  | [] => first
  | _ :: rest => due (!first) rest

variable {first x : Bool} {log : List Bool}

theorem due_concat : due first (log ++ [x]) = !due first log := by
  induction log generalizing first with
  | nil => rfl
  | cons y rest ih => exact ih

/-- **The append rule.** -/
theorem alternates_concat :
    Alternates first (log ++ [x]) ↔ Alternates first log ∧ x = due first log := by
  induction log generalizing first with
  | nil => simp [Alternates, due]
  | cons y rest ih =>
      simp only [List.cons_append, Alternates, due, ih]
      exact and_assoc.symm

/-- The last entry of an alternating log is the opposite of the one that is due. -/
theorem last_iff (h : Alternates first log) :
    log.getLast? = some first ↔ due first log = !first := by
  rcases List.eq_nil_or_concat log with rfl | ⟨rest, y, rfl⟩
  · simp [due]
  · rw [List.concat_eq_append] at h ⊢
    obtain ⟨-, hy⟩ := alternates_concat.mp h
    rw [List.getLast?_append, due_concat, ← hy]
    simp

end Alternation
