/-
# CellFlow.Lib.Runs — labelled runs of a transition system and their induction rules.

A system is a relation `step s a t`: from `s`, the label `a` leads to `t`.  `Run` collects the labels
in order, so that an invariant may speak about the history as well as about the state reached.
`when ok step` is the system whose steps all meet `ok`; a result about runs "whose every step meets a
condition" is a result about its runs.
-/
import Mathlib.Data.List.Basic

namespace Runs

variable {σ α : Type}

/-- `Run step s₀ as s`: from `s₀`, the labels `as` in order lead to `s`. -/
inductive Run (step : σ → α → σ → Prop) (s₀ : σ) : List α → σ → Prop where
  | start : Run step s₀ [] s₀
  | next {as : List α} {s : σ} {a : α} {t : σ} :
      Run step s₀ as s → step s a t → Run step s₀ (as ++ [a]) t

/-- The steps of `step` that meet `ok`. -/
def when (ok : σ → α → Prop) (step : σ → α → σ → Prop) : σ → α → σ → Prop :=
  fun s a t => ok s a ∧ step s a t

variable {step : σ → α → σ → Prop} {ok : σ → α → Prop} {s₀ s : σ} {as : List α}

/-- **The history rule**: what holds of the empty history and is preserved by each step, given the
history before it, holds of every run. -/
theorem Run.history (Inv : List α → σ → Prop) (h₀ : Inv [] s₀)
    (hstep : ∀ as s a t, Run step s₀ as s → Inv as s → step s a t → Inv (as ++ [a]) t)
    (h : Run step s₀ as s) : Inv as s := by
  induction h with
  | start => exact h₀
  | next hrun hs ih => exact hstep _ _ _ _ hrun ih hs

/-- **The invariant rule**: a property of the start that every step preserves holds of every state
a run reaches. -/
theorem Run.inv (Inv : σ → Prop) (h₀ : Inv s₀) (hstep : ∀ s a t, Inv s → step s a t → Inv t)
    (h : Run step s₀ as s) : Inv s :=
  Run.history (fun _ s => Inv s) h₀ (fun _ s a t _ hi hs => hstep s a t hi hs) h

/-- Two systems with the same start: a run of the stronger one is a run of the weaker. -/
theorem Run.mono {step' : σ → α → σ → Prop} (hle : ∀ s a t, step s a t → step' s a t)
    (h : Run step s₀ as s) : Run step' s₀ as s := by
  induction h with
  | start => exact .start
  | next _ hs ih => exact .next ih (hle _ _ _ hs)

/-- A run goes on from where another ended. -/
theorem Run.append {bs : List α} {t : σ} (h : Run step s₀ as s) (h' : Run step s bs t) :
    Run step s₀ (as ++ bs) t := by
  induction h' with
  | start => simpa using h
  | next _ hs ih =>
      rw [← List.append_assoc]
      exact .next ih hs

/-- One step is a run. -/
theorem Run.single {a : α} {t : σ} (h : step s₀ a t) : Run step s₀ [a] t :=
  .next .start h

/-- A system whose steps are computed: the labels in order are a run. -/
theorem Run.of_foldlM {next : σ → α → Option σ} (as : List α)
    (h : as.foldlM next s₀ = some s) : Run (fun s a t => next s a = some t) s₀ as s := by
  induction as generalizing s₀ with
  | nil =>
      obtain rfl : s₀ = s := Option.some.inj h
      exact .start
  | cons a as ih =>
      rw [List.foldlM_cons, Option.bind_eq_bind] at h
      obtain ⟨t, hstep, hrest⟩ := Option.bind_eq_some_iff.mp h
      exact (Run.single hstep).append (ih hrest)

/-- **The projection rule**: a system seen through `f`, where the labels `g` drops leave what is seen, and
the others are steps of the system seen. -/
theorem Run.project {τ β : Type} {seen : τ → β → τ → Prop} (f : σ → τ) (g : α → Option β)
    (hsilent : ∀ as s a t, Run step s₀ as s → step s a t → g a = none → f t = f s)
    (hvisible : ∀ as s a t b, Run step s₀ as s → step s a t → g a = some b → seen (f s) b (f t))
    (h : Run step s₀ as s) : Run seen (f s₀) (as.filterMap g) (f s) := by
  induction h with
  | start => exact .start
  | @next as s a t hrun hs ih =>
      rw [List.filterMap_append]
      cases hg : g a with
      | none =>
          rw [hsilent as s a t hrun hs hg, List.filterMap_cons_none hg, List.filterMap_nil,
            List.append_nil]
          exact ih
      | some b =>
          rw [List.filterMap_cons_some hg, List.filterMap_nil]
          exact .next ih (hvisible as s a t b hrun hs hg)

/-- Forgetting the condition. -/
theorem Run.of_when (h : Run (when ok step) s₀ as s) : Run step s₀ as s :=
  h.mono fun _ _ _ hs => hs.2

/-- **The equivalence rule**: where a step is good exactly if it meets `ok`, the runs of good steps are
the runs whose steps all meet `ok`. -/
theorem Run.good_iff {good : σ → α → σ → Prop}
    (hstep : ∀ as s a t, Run (fun s a t => step s a t ∧ good s a t) s₀ as s → step s a t →
      (good s a t ↔ ok s a)) :
    Run (fun s a t => step s a t ∧ good s a t) s₀ as s ↔ Run (when ok step) s₀ as s := by
  constructor
  · intro h
    induction h with
    | start => exact .start
    | next hrun hs ih => exact .next ih ⟨(hstep _ _ _ _ hrun hs.1).mp hs.2, hs.1⟩
  · intro h
    induction h with
    | start => exact .start
    | next _ hs ih => exact .next ih ⟨hs.2, (hstep _ _ _ _ ih hs.2).mpr hs.1⟩

/-- A label of a history with one more is the last one or one before. -/
theorem snoc_split {l before after : List α} {a b : α} (h : l ++ [a] = before ++ b :: after) :
    (after = [] ∧ before = l ∧ b = a) ∨ ∃ rest, after = rest ++ [a] ∧ l = before ++ b :: rest := by
  rcases List.eq_nil_or_concat after with rfl | ⟨rest, last, rfl⟩
  · obtain ⟨rfl, hlast⟩ := List.append_inj' h rfl
    exact Or.inl ⟨rfl, rfl, (List.singleton_inj.mp hlast).symm⟩
  · rw [List.concat_eq_append, ← List.cons_append, ← List.append_assoc] at h
    obtain ⟨rfl, hlast⟩ := List.append_inj' h rfl
    obtain rfl := List.singleton_inj.mp hlast
    exact Or.inr ⟨rest, by rw [List.concat_eq_append], rfl⟩

/-! ## Past-time properties of a history -/

/-- Some label was a `first`, and `every` label from it on, itself included, is good. -/
def Since (first every : α → Prop) (as : List α) : Prop :=
  ∃ before a after, as = before ++ a :: after ∧ first a ∧ ∀ b ∈ a :: after, every b

variable {first every : α → Prop} {a : α}

theorem Since.here (hf : first a) (he : every a) : Since first every (as ++ [a]) :=
  ⟨as, a, [], rfl, hf, by simpa using he⟩

theorem Since.snoc (h : Since first every as) (he : every a) : Since first every (as ++ [a]) := by
  rcases h with ⟨before, b, after, rfl, hf, hall⟩
  refine ⟨before, b, after ++ [a], by simp, hf, ?_⟩
  intro c hc
  rw [← List.cons_append, List.mem_append, List.mem_singleton] at hc
  rcases hc with hc | rfl
  · exact hall c hc
  · exact he

/-- The last label is a good one. -/
theorem Since.last (h : Since first every as) (hlast : as.getLast? = some a) : every a := by
  rcases h with ⟨before, b, after, rfl, -, hall⟩
  rw [List.getLast?_append_of_ne_nil _ (List.cons_ne_nil b after)] at hlast
  exact hall a (List.mem_of_getLast? hlast)

end Runs
