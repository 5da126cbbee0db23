/-
# CellFlow.Lib.Optimistic — rows guarded by a version, and the views concurrent writers hold.

A state carries a version and a row.  A step either raises the version by one, or keeps version and
row; a writer that checks the version therefore writes over exactly the row it read.  `World` pairs
the current state with every state a writer may still hold a view of.
-/
import Mathlib.Data.List.Basic

namespace Optimistic

variable {σ ρ : Type}

/-- A step that writes the row raises the version; any other step keeps both. -/
def Evolves (version : σ → Nat) (row : σ → ρ) (s t : σ) : Prop :=
  version t = version s + 1 ∨ (version t = version s ∧ row t = row s)

/-- A view is not ahead of the current state, and has its row if it has its version. -/
structure Agrees (version : σ → Nat) (row : σ → ρ) (view current : σ) : Prop where
  le : version view ≤ version current
  same : version view = version current → row view = row current

variable {version : σ → Nat} {row : σ → ρ} {view s t : σ}

theorem Agrees.refl (s : σ) : Agrees version row s s := ⟨Nat.le_refl _, fun _ => rfl⟩

/-- A view that agrees with a state agrees with the next one. -/
theorem Agrees.step (h : Agrees version row view s) (hst : Evolves version row s t) :
    Agrees version row view t := by
  rcases hst with hup | ⟨hv, hr⟩
  · refine ⟨by have := h.le; omega, fun heq => ?_⟩
    have := h.le
    omega
  · exact ⟨hv ▸ h.le, fun heq => (h.same (heq.trans hv)).trans hr.symm⟩

/-- The current state, and the earlier ones. -/
structure World (σ : Type) where
  current : σ
  past : List σ

namespace World

variable {w : World σ}

/-- The views a writer may hold. -/
def views (w : World σ) : List σ := w.current :: w.past

/-- The world after a commit of `t`. -/
def commit (w : World σ) (t : σ) : World σ := ⟨t, w.current :: w.past⟩

@[simp] theorem commit_current (w : World σ) (t : σ) : (w.commit t).current = t := rfl

@[simp] theorem views_commit (w : World σ) (t : σ) : (w.commit t).views = t :: w.views := rfl

theorem current_mem_views (w : World σ) : w.current ∈ w.views := by
  simp [views]

/-- Every view agrees with the current state. -/
def Consistent (version : σ → Nat) (row : σ → ρ) (w : World σ) : Prop :=
  ∀ view ∈ w.views, Agrees version row view w.current

theorem consistent_start (s : σ) : Consistent version row ⟨s, []⟩ := by
  intro view hview
  simp only [views, List.mem_singleton] at hview
  subst hview
  exact .refl _

/-- **The commit rule**: evolving steps keep every view consistent. -/
theorem Consistent.commit (h : Consistent version row w) (ht : Evolves version row w.current t) :
    Consistent version row (w.commit t) := by
  intro view hview
  rw [views_commit, List.mem_cons] at hview
  rcases hview with rfl | hview
  · exact .refl _
  · exact (h view hview).step ht

/-- **The guard rule**: a view whose version passes the check has the current row. -/
theorem Consistent.row_eq (h : Consistent version row w) (hview : view ∈ w.views)
    (hversion : version w.current = version view) : row view = row w.current :=
  (h view hview).same hversion.symm

end World

end Optimistic
