/-
# CellFlow.Workers.Batches — the workers of a batch, call by call.

`deliverDueWebhooks` and `deliverWebhookEvent` (`workflows/webhook-delivery/src/index.ts`) and
`reconcileDue` (`workflows/reconcile/src/reconcile.ts`) hand claimed items to a worker each.  A worker is
a program over calls that answer or throw; it leaves a record of its calls.  `deliverWebhook` is
`packages/webhooks/src/delivery.ts` as far as it calls and catches.
-/
import CellFlow.Lib.WorkerPool

namespace CellFlow

/-! ## Calls -/

/-- What a call comes to. -/
inductive Answer (α : Type) where
  | value (a : α)
  | throws
  deriving DecidableEq, Repr

/-- The call throws. -/
def Answer.isThrow {α : Type} : Answer α → Bool
  | .value _ => false
  | .throws => true

/-- The calls a worker makes for its item; `post` is the way from the URL of the endpoint to the
response. -/
inductive ItemCall where
  | renewLease
  | getWebhookEndpoint
  | post
  | completeDelivery
  | reconcileIntent
  | releaseLease
  deriving DecidableEq, Repr

/-- A worker's program: it may throw, and keeps its calls, the last one first, each with whether it
threw. -/
abbrev ItemM := ExceptT Unit (StateM (List (ItemCall × Bool)))

/-- A call goes on record with its answer; the worker stops where it throws. -/
def call {α : Type} (c : ItemCall) : Answer α → ItemM α
  | .value a => do
      modify ((c, false) :: ·)
      return a
  | .throws => do
      modify ((c, true) :: ·)
      throw ()

/-- The result of a program, and the calls before it with its own. -/
def exec {α : Type} (program : ItemM α) (before : List (ItemCall × Bool)) :
    Except Unit α × List (ItemCall × Bool) :=
  program.run.run before

section Exec

variable {α β : Type} (before : List (ItemCall × Bool))

@[simp] theorem exec_pure (a : α) : exec (pure a) before = (.ok a, before) := rfl

@[simp] theorem exec_call_value (c : ItemCall) (a : α) :
    exec (call c (.value a)) before = (.ok a, (c, false) :: before) := rfl

@[simp] theorem exec_call_throws (c : ItemCall) :
    exec (call c (.throws : Answer α)) before = (.error (), (c, true) :: before) := rfl

theorem exec_bind (program : ItemM α) (next : α → ItemM β) :
    exec (program >>= next) before = match exec program before with
      | (.ok a, calls) => exec (next a) calls
      | (.error e, calls) => (.error e, calls) := by
  simp only [exec, ExceptT.run_bind, StateT.run_bind]
  rcases program.run.run before with ⟨_ | _, _⟩ <;> rfl

theorem exec_tryCatch (program : ItemM α) (handler : Unit → ItemM α) :
    exec (tryCatch program handler) before = match exec program before with
      | (.ok a, calls) => (.ok a, calls)
      | (.error e, calls) => exec (handler e) calls := by
  simp only [exec, ExceptT.run_tryCatch, StateT.run_bind]
  rcases program.run.run before with ⟨_ | _, _⟩ <;> rfl

/-- A call whose exception is dropped. -/
theorem exec_call_dropped (c : ItemCall) (answer : Answer Unit) :
    exec (tryCatch (call c answer) fun _ => pure ()) before =
      (.ok (), (c, answer.isThrow) :: before) := by
  rw [exec_tryCatch]
  cases answer <;> rfl

end Exec

/-- What a worker leaves behind. -/
structure ItemTrace where
  calls : List (ItemCall × Bool)
  escaped : Bool
  deriving DecidableEq, Repr

/-- What a worker leaves on record, and whether it rejects. -/
def traceOf {α : Type} (worker : ItemM α) : ItemTrace :=
  match exec worker [] with
  | (.ok _, calls) => ⟨calls, false⟩
  | (.error _, calls) => ⟨calls, true⟩

/-! ## Webhook deliveries -/

/-- The answers to the calls for one delivery.  `endpoint` says whether an enabled endpoint is found,
`post` gives a status; `completeFailure` is the completion in the handler of `deliverWebhook`. -/
structure DeliveryAnswers where
  renew : Answer Bool
  endpoint : Answer Bool
  post : Answer Nat
  complete : Answer Unit
  completeFailure : Answer Unit
  release : Answer Unit
  deriving DecidableEq, Repr

/-- What the worker adds to the counts of its batch. -/
inductive DeliveryOutcome where
  | leaseLost
  | delivered
  | undelivered
  deriving DecidableEq, Repr

/-- `deliverWebhook`: whether it delivered. -/
def deliverWebhookCalls (answers : DeliveryAnswers) : ItemM Bool := do
  let enabled ← call .getWebhookEndpoint answers.endpoint
  if enabled then
    tryCatch
      (do
        let status ← call .post answers.post
        call .completeDelivery answers.complete
        return 200 ≤ status && status < 300)
      (fun _ => do
        call .completeDelivery answers.completeFailure
        return false)
  else
    call .completeDelivery answers.complete
    return false

/-- How a delivery ended, by what was recorded of it. -/
def deliveryOutcome (delivered : Bool) : DeliveryOutcome :=
  if delivered then .delivered else .undelivered

/-- The worker of `deliverDueWebhooks`. -/
def dueWorker (answers : DeliveryAnswers) : ItemM DeliveryOutcome := do
  let renewed ← call .renewLease answers.renew
  if renewed then
    tryCatch
      (do
        let delivered ← deliverWebhookCalls answers
        return deliveryOutcome delivered)
      (fun _ => do
        tryCatch (call .releaseLease answers.release) (fun _ => return ())
        return .undelivered)
  else
    return .leaseLost

/-- The worker of `deliverWebhookEvent`. -/
def eventWorker (answers : DeliveryAnswers) : ItemM DeliveryOutcome := do
  let renewed ← call .renewLease answers.renew
  if renewed then
    let delivered ← deliverWebhookCalls answers
    return deliveryOutcome delivered
  else
    return .leaseLost

/-! ## Executions -/

/-- The answers to the calls for one execution. -/
structure ReconcileAnswers where
  renew : Answer Bool
  reconcile : Answer Unit
  release : Answer Unit
  deriving DecidableEq, Repr

/-- How the reconcile of an item ended. -/
inductive ReconcileOutcome where
  | leaseLost
  | reconciled
  | error
  deriving DecidableEq, Repr

/-- The worker of `reconcileDue`. -/
def reconcileWorker (answers : ReconcileAnswers) : ItemM ReconcileOutcome := do
  let outcome ← tryCatch
    (do
      let renewed ← call .renewLease answers.renew
      if renewed then
        call .reconcileIntent answers.reconcile
        return .reconciled
      else
        return .leaseLost)
    (fun _ => return .error)
  -- `finally`
  tryCatch (call .releaseLease answers.release) (fun _ => return ())
  return outcome

/-! ## Batches -/

/-- `boundedInteger(value, fallback, min, max)`, where `value` is the floor of a number. -/
def boundedInteger (value : Option Int) (fallback least most : Int) : Int :=
  match value with
  | some n => min (max n least) most
  | none => fallback

/-- A claimed batch, with the setting of its concurrency, and the answers to the calls for each item. -/
inductive Batch where
  | due (concurrency : Option Int) (items : List DeliveryAnswers)
  | event (items : List DeliveryAnswers)
  | reconcile (concurrency : Option Int) (items : List ReconcileAnswers)
  deriving DecidableEq, Repr

namespace Batch

/-- The number of items. -/
def size : Batch → Nat
  | .due _ items => items.length
  | .event items => items.length
  | .reconcile _ items => items.length

/-- The number of runners, before it is cut to the number of items. -/
def concurrency : Batch → Nat
  | .due value _ => (boundedInteger value 6 1 12).toNat
  | .event items => min 6 (max 1 items.length)
  | .reconcile value _ => (boundedInteger value 4 1 8).toNat

/-- What the workers leave, item by item. -/
def traces : Batch → List ItemTrace
  | .due _ items => items.map fun answers => traceOf (dueWorker answers)
  | .event items => items.map fun answers => traceOf (eventWorker answers)
  | .reconcile _ items => items.map fun answers => traceOf (reconcileWorker answers)

/-- The worker of an item rejects. -/
def fails (batch : Batch) (item : Nat) : Bool := batch.traces[item]?.any (·.escaped)

/-- `runWithConcurrency` on the batch. -/
def Step (batch : Batch) : WorkerPool.Pool → WorkerPool.Move → WorkerPool.Pool → Prop :=
  WorkerPool.Step batch.size batch.fails

/-- The pool before its first item. -/
def start (batch : Batch) : WorkerPool.Pool := WorkerPool.start batch.size batch.concurrency

end Batch

end CellFlow
