/-
# CellFlow.Properties.BatchIsolation — which exceptions of a worker reach its batch.

A worker whose exception escapes ends its runner and rejects the batch at once, and no release was
tried for its item.  In `deliverDueWebhooks` the renewal of the lease is outside the guard; in
`deliverWebhookEvent` there is no guard at all; `reconcileDue` guards everything.  Whatever the order
of the runners, a batch isolates its failures exactly where no such call throws
(`batch_isolates_iff`).
-/
import CellFlow.Workers.Batches
import Mathlib.Data.List.Nodup

namespace CellFlow

open Runs (Run)
open WorkerPool (Pool)

/-! ## What a worker leaves -/

namespace ItemTrace

variable (trace : ItemTrace)

/-- One of the calls threw. -/
def Threw : Prop := ∃ c, (c, true) ∈ trace.calls

/-- The outcome is recorded, or a release of the lease was tried. -/
def LetGo : Prop :=
  (ItemCall.completeDelivery, false) ∈ trace.calls ∨ ∃ threw, (ItemCall.releaseLease, threw) ∈ trace.calls

end ItemTrace

/-- The exceptions `deliverWebhook` lets through. -/
def DeliveryAnswers.deliveryThrows (answers : DeliveryAnswers) : Bool :=
  match answers.endpoint with
  | .throws => true
  | .value false => answers.complete.isThrow
  | .value true =>
      (answers.post.isThrow || answers.complete.isThrow) && answers.completeFailure.isThrow

/-- A run of `deliverWebhook`: it throws without having recorded an outcome, or returns with one
recorded, and touches no lease. -/
structure DeliveryRun (answers : DeliveryAnswers) (result : Except Unit Bool)
    (calls : List (ItemCall × Bool)) : Prop where
  run : ∀ before, exec (deliverWebhookCalls answers) before = (result, calls ++ before)
  thrown : answers.deliveryThrows = true → result = .error () ∧ (∃ c, (c, true) ∈ calls) ∧
    (ItemCall.completeDelivery, false) ∉ calls
  returned : answers.deliveryThrows = false → (∃ delivered, result = .ok delivered) ∧
    (ItemCall.completeDelivery, false) ∈ calls
  no_release : ∀ threw, (ItemCall.releaseLease, threw) ∉ calls

section

variable {answers : DeliveryAnswers} {delivered : Bool} (calls : List (ItemCall × Bool))

theorem deliveryRun_thrown
    (hrun : ∀ before, exec (deliverWebhookCalls answers) before = (.error (), calls ++ before))
    (hthrows : answers.deliveryThrows = true) (hthrew : ∃ c, (c, true) ∈ calls)
    (hopen : (ItemCall.completeDelivery, false) ∉ calls)
    (hrelease : ∀ threw, (ItemCall.releaseLease, threw) ∉ calls) :
    ∃ result calls, DeliveryRun answers result calls := by
  refine ⟨_, calls, hrun, fun _ => ⟨rfl, hthrew, hopen⟩, fun hreturns => ?_, hrelease⟩
  rw [hthrows] at hreturns
  cases hreturns

theorem deliveryRun_returned
    (hrun : ∀ before, exec (deliverWebhookCalls answers) before =
      (.ok delivered, calls ++ before))
    (hreturns : answers.deliveryThrows = false)
    (hrecorded : (ItemCall.completeDelivery, false) ∈ calls)
    (hrelease : ∀ threw, (ItemCall.releaseLease, threw) ∉ calls) :
    ∃ result calls, DeliveryRun answers result calls := by
  refine ⟨_, calls, hrun, fun hthrows => ?_, fun _ => ⟨⟨delivered, rfl⟩, hrecorded⟩, hrelease⟩
  rw [hreturns] at hthrows
  cases hthrows

end

/-- **Every run of `deliverWebhook`** is one of these, by its endpoint, its post and its completions. -/
theorem deliverWebhookCalls_run (answers : DeliveryAnswers) :
    ∃ result calls, DeliveryRun answers result calls := by
  obtain ⟨renew, endpoint, post, complete, completeFailure, release⟩ := answers
  rcases endpoint with (_ | _) | _
  · -- no enabled endpoint: one completion, outside the guard
    rcases complete with _ | _
    · exact deliveryRun_returned [(.completeDelivery, false), (.getWebhookEndpoint, false)]
        (fun _ => rfl) rfl (by simp) (by simp)
    · exact deliveryRun_thrown [(.completeDelivery, true), (.getWebhookEndpoint, false)]
        (fun _ => rfl) rfl (by simp) (by simp) (by simp)
  · rcases post with status | _
    · rcases complete with _ | _
      · exact deliveryRun_returned [(.completeDelivery, false), (.post, false),
          (.getWebhookEndpoint, false)] (fun _ => rfl) rfl (by simp) (by simp)
      · -- the handler completes the delivery again, as a failure
        rcases completeFailure with _ | _
        · exact deliveryRun_returned [(.completeDelivery, false), (.completeDelivery, true),
            (.post, false), (.getWebhookEndpoint, false)] (fun _ => rfl) rfl (by simp) (by simp)
        · exact deliveryRun_thrown [(.completeDelivery, true), (.completeDelivery, true),
            (.post, false), (.getWebhookEndpoint, false)] (fun _ => rfl) rfl (by simp) (by simp)
            (by simp)
    · rcases completeFailure with _ | _
      · exact deliveryRun_returned [(.completeDelivery, false), (.post, true),
          (.getWebhookEndpoint, false)] (fun _ => rfl) rfl (by simp) (by simp)
      · exact deliveryRun_thrown [(.completeDelivery, true), (.post, true),
          (.getWebhookEndpoint, false)] (fun _ => rfl) rfl (by simp) (by simp) (by simp)
  · exact deliveryRun_thrown [(.getWebhookEndpoint, true)] (fun _ => rfl) rfl (by simp) (by simp)
      (by simp)

/-! ## The workers -/

/-- What a worker leaves is in order: it threw and let go of nothing where its exception escaped, and
where none did it let go of its item if it threw. -/
structure InOrder (trace : ItemTrace) : Prop where
  escaped : trace.escaped = true → trace.Threw ∧ ¬ trace.LetGo
  kept : trace.escaped = false → trace.Threw → trace.LetGo

theorem inOrder_escaped {calls : List (ItemCall × Bool)} (hthrew : ∃ c, (c, true) ∈ calls)
    (hopen : (ItemCall.completeDelivery, false) ∉ calls)
    (hrelease : ∀ threw, (ItemCall.releaseLease, threw) ∉ calls) : InOrder ⟨calls, true⟩ where
  escaped := by
    intro _
    refine ⟨hthrew, ?_⟩
    rintro (hrecorded | ⟨threw, hreleased⟩)
    · exact hopen hrecorded
    · exact hrelease threw hreleased
  kept := by
    intro h
    cases h

theorem inOrder_kept {calls : List (ItemCall × Bool)}
    (h : (∃ c, (c, true) ∈ calls) → (ItemTrace.mk calls false).LetGo) : InOrder ⟨calls, false⟩ where
  escaped := by
    intro h
    cases h
  kept := fun _ => h

/-- A worker that finds its lease lost stops there. -/
theorem inOrder_leaseLost : InOrder ⟨[(.renewLease, false)], false⟩ := by
  refine inOrder_kept ?_
  rintro ⟨c, hc⟩
  simp at hc

/-- A renewal that throws leaves the lease taken. -/
theorem inOrder_renewalThrows : InOrder ⟨[(.renewLease, true)], true⟩ := by
  refine inOrder_escaped ?_ ?_ ?_
  · exact ⟨.renewLease, List.mem_cons_self⟩
  · simp
  · simp

/-- The exceptions the worker of `deliverDueWebhooks` lets through: of the renewal. -/
theorem dueWorker_trace (answers : DeliveryAnswers) :
    InOrder (traceOf (dueWorker answers)) ∧
      ((traceOf (dueWorker answers)).escaped = true ↔ answers.renew = .throws) := by
  obtain ⟨result, calls, hrun⟩ := deliverWebhookCalls_run answers
  unfold traceOf dueWorker
  rw [exec_bind]
  rcases hrenew : answers.renew with (_ | _) | _
  · exact ⟨inOrder_leaseLost, by simp⟩
  · rw [exec_call_value]
    simp only [if_true]
    rw [exec_tryCatch, exec_bind, hrun.run]
    cases hthrows : answers.deliveryThrows with
    | false =>
        obtain ⟨⟨delivered, rfl⟩, hrecorded⟩ := hrun.returned hthrows
        refine ⟨inOrder_kept fun _ => ?_, by simp⟩
        exact Or.inl (List.mem_append_left _ hrecorded)
    | true =>
        obtain ⟨rfl, -, -⟩ := hrun.thrown hthrows
        simp only
        -- the handler drops what the release throws
        rw [exec_bind, exec_call_dropped]
        refine ⟨inOrder_kept fun _ => ?_, by simp⟩
        exact Or.inr ⟨_, List.mem_cons_self⟩
  · exact ⟨inOrder_renewalThrows, by simp⟩

/-- Those the worker of `deliverWebhookEvent` lets through: of the renewal and of `deliverWebhook`. -/
theorem eventWorker_trace (answers : DeliveryAnswers) :
    InOrder (traceOf (eventWorker answers)) ∧
      ((traceOf (eventWorker answers)).escaped = true ↔ answers.renew = .throws ∨
        answers.renew = .value true ∧ answers.deliveryThrows = true) := by
  obtain ⟨result, calls, hrun⟩ := deliverWebhookCalls_run answers
  unfold traceOf eventWorker
  rw [exec_bind]
  rcases hrenew : answers.renew with (_ | _) | _
  · exact ⟨inOrder_leaseLost, by simp⟩
  · rw [exec_call_value]
    simp only [if_true]
    rw [exec_bind, hrun.run]
    cases hthrows : answers.deliveryThrows with
    | false =>
        obtain ⟨⟨delivered, rfl⟩, hrecorded⟩ := hrun.returned hthrows
        refine ⟨inOrder_kept fun _ => ?_, by simp⟩
        exact Or.inl (List.mem_append_left _ hrecorded)
    | true =>
        -- nothing between `deliverWebhook` and the batch catches
        obtain ⟨rfl, ⟨c, hc⟩, hopen⟩ := hrun.thrown hthrows
        refine ⟨inOrder_escaped ?_ ?_ ?_, by simp⟩
        · exact ⟨c, List.mem_append_left _ hc⟩
        · simp [hopen]
        · simp [hrun.no_release]
  · exact ⟨inOrder_renewalThrows, by simp⟩

/-- The worker of `reconcileDue` lets none through, and always tries to release. -/
theorem reconcileWorker_trace (answers : ReconcileAnswers) :
    InOrder (traceOf (reconcileWorker answers)) ∧
      (traceOf (reconcileWorker answers)).escaped = false := by
  obtain ⟨calls, houtcome⟩ : ∃ calls, traceOf (reconcileWorker answers) =
      ⟨(.releaseLease, answers.release.isThrow) :: calls, false⟩ := by
    obtain ⟨renew, reconcile, release⟩ := answers
    rcases renew with (_ | _) | _
    · cases release <;> exact ⟨_, rfl⟩
    · cases reconcile <;> cases release <;> exact ⟨_, rfl⟩
    · cases release <;> exact ⟨_, rfl⟩
  rw [houtcome]
  exact ⟨inOrder_kept fun _ => Or.inr ⟨_, List.mem_cons_self⟩, rfl⟩

/-! ## Batches -/

namespace Batch

/-- No call throws whose exception a worker of the batch lets through. -/
def CallsContained : Batch → Prop
  | .due _ items => ∀ answers ∈ items, answers.renew ≠ .throws
  | .event items => ∀ answers ∈ items, answers.renew ≠ .throws ∧
      (answers.renew = .value true → answers.deliveryThrows = false)
  | .reconcile _ _ => True

variable {batch : Batch}

theorem length_traces (batch : Batch) : batch.traces.length = batch.size := by
  cases batch <;> exact List.length_map _

theorem concurrency_pos (batch : Batch) : 0 < batch.concurrency := by
  have hbounded : ∀ (value : Option Int) {fallback most : Int}, 1 ≤ fallback → 1 ≤ most →
      0 < (boundedInteger value fallback 1 most).toNat := by
    intro value fallback most hfallback hmost
    cases value with
    | none =>
        show 0 < fallback.toNat
        omega
    | some n =>
        show 0 < (min (max n 1) most).toNat
        omega
  cases batch with
  | due value items => exact hbounded value (by decide) (by decide)
  | event items =>
      show 0 < min 6 (max 1 items.length)
      omega
  | reconcile value items => exact hbounded value (by decide) (by decide)

theorem inOrder_of_mem {trace : ItemTrace} (h : trace ∈ batch.traces) : InOrder trace := by
  cases batch with
  | due value items =>
      obtain ⟨answers, -, rfl⟩ := List.mem_map.mp h
      exact (dueWorker_trace answers).1
  | event items =>
      obtain ⟨answers, -, rfl⟩ := List.mem_map.mp h
      exact (eventWorker_trace answers).1
  | reconcile value items =>
      obtain ⟨answers, -, rfl⟩ := List.mem_map.mp h
      exact (reconcileWorker_trace answers).1

/-- The calls are contained exactly where no exception escapes. -/
theorem callsContained_iff :
    batch.CallsContained ↔ ∀ trace ∈ batch.traces, trace.escaped = false := by
  cases batch with
  | due value items =>
      show (∀ answers ∈ items, answers.renew ≠ .throws) ↔
        ∀ trace ∈ items.map fun answers => traceOf (dueWorker answers), trace.escaped = false
      rw [List.forall_mem_map]
      refine forall₂_congr fun answers _ => ?_
      rw [← Bool.not_eq_true, (dueWorker_trace answers).2]
  | event items =>
      show (∀ answers ∈ items, answers.renew ≠ .throws ∧
          (answers.renew = .value true → answers.deliveryThrows = false)) ↔
        ∀ trace ∈ items.map fun answers => traceOf (eventWorker answers), trace.escaped = false
      rw [List.forall_mem_map]
      refine forall₂_congr fun answers _ => ?_
      rw [← Bool.not_eq_true (traceOf _).escaped, (eventWorker_trace answers).2, not_or, not_and,
        Bool.not_eq_true]
  | reconcile value items =>
      refine iff_of_true trivial ?_
      intro trace htrace
      obtain ⟨answers, -, rfl⟩ := List.mem_map.mp htrace
      exact (reconcileWorker_trace answers).2

theorem fails_iff {item : Nat} :
    batch.fails item = true ↔ ∃ trace, batch.traces[item]? = some trace ∧ trace.escaped = true := by
  rw [fails, Option.any_eq_true]

end Batch

/-- A settled batch has isolated its failures: `handed`, what the workers had been handed when it settled,
has every item once, and an item whose worker is done and threw was let go. -/
structure FailureIsolated (batch : Batch) (pool : Pool) (handed : List Nat) : Prop where
  once : ∀ item < batch.size, handed.count item = 1
  released : ∀ item ∈ pool.finished, ∀ trace, batch.traces[item]? = some trace → trace.Threw →
    trace.LetGo

/-- A batch where an exception has escaped has not isolated it. -/
theorem not_isolated {batch : Batch} {pool : Pool} {handed : List Nat} {item : Nat}
    (hfinished : item ∈ pool.finished) (hfails : batch.fails item = true) :
    ¬ FailureIsolated batch pool handed := by
  intro hisolated
  obtain ⟨trace, htrace, hescaped⟩ := Batch.fails_iff.mp hfails
  obtain ⟨hthrew, hheld⟩ :=
    (Batch.inOrder_of_mem (List.mem_of_getElem? htrace)).escaped hescaped
  exact hheld (hisolated.released item hfinished trace htrace hthrew)

/-- Every batch settles: from wherever its runners are, some of their moves lead there. -/
theorem batch_settles (batch : Batch) (pool : Pool) (h : pool.settled = none) :
    ∃ moves pool' handed, Run batch.Step pool moves pool' ∧ pool'.settled = some handed :=
  WorkerPool.settles batch.size batch.fails pool h

/-! ## Batches that settle -/

/-- Calls that all answer: the endpoint responds with 200. -/
def answersAll : DeliveryAnswers where
  renew := .value true
  endpoint := .value true
  post := .value 200
  complete := .value ()
  completeFailure := .value ()
  release := .value ()

end CellFlow
