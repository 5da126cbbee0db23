/-
# CellFlow.Webhooks.Delivery — one delivery attempt (`packages/webhooks/src/delivery.ts`).

A worker posts the payload of a row it has claimed and records the outcome under its lease.  Whether
another attempt is made depends on the attempt count the claim has read.
-/
import CellFlow.Db.WebhookDelivery
import Mathlib.Algebra.Order.Ring.Int

namespace CellFlow

/-- The record of a claimed row, as far as a delivery reads it. -/
structure WebhookDeliveryRecord where
  attemptCount : Nat
  leaseOwner : Option String
  deriving DecidableEq, Repr

/-- What the post came to: an HTTP status with the delay its `Retry-After` names, or an exception. -/
inductive PostOutcome where
  | responded (status : Nat) (retryAfterMs : Option Nat)
  | threw (message : String)
  deriving DecidableEq, Repr

/-- `CELLFLOW_WEBHOOK_MAX_ATTEMPTS`, where it is a number: bounded to 1 … 20, eight by default. -/
def maxWebhookAttempts (configured : Option Int) : Nat := (min (max (configured.getD 8) 1) 20).toNat

/-- `jitter` is the random part, below a second. -/
def webhookBackoffMs (attempt jitter : Nat) : Nat :=
  min (60 * 60 * 1000) (5000 * 2 ^ min attempt 8) + jitter

/-- The time of the next attempt, if there is to be one. -/
def nextWebhookAttempt (configured : Option Int) (attemptCount : Nat) (retryAfterMs : Option Nat)
    (jitter : Nat) (now : Int) : Option Int :=
  let currentAttempt := attemptCount + 1
  if maxWebhookAttempts configured ≤ currentAttempt then none
  else
    let serverDelay := retryAfterMs.map (min (60 * 60 * 1000))
    some (now + (serverDelay.getD (webhookBackoffMs currentAttempt jitter) : Nat))

/-- `response.status` values after which the delivery is tried again. -/
def isRetryable (status : Nat) : Bool :=
  status = 408 || status = 425 || status = 429 || 500 ≤ status

/-- `deliverWebhook`: the completion it records, for an endpoint that is enabled or is not. -/
def deliverWebhook (configured : Option Int) (delivery : WebhookDeliveryRecord) (enabled : Bool)
    (post : PostOutcome) (jitter : Nat) (now : Int) : WebhookCompletion :=
  let leaseOwner := truthy delivery.leaseOwner
  if enabled = false then
    { leaseOwner := leaseOwner, success := false, responseStatus := none
      error := some "Endpoint disabled or missing", retryAt := none }
  else
    match post with
    | .responded status retryAfterMs =>
        if 200 ≤ status ∧ status < 300 then
          { leaseOwner := leaseOwner, success := true, responseStatus := some status, error := none
            retryAt := none }
        else
          { leaseOwner := leaseOwner, success := false, responseStatus := some status
            error := some ("HTTP " ++ toString status)
            retryAt :=
              if isRetryable status then
                nextWebhookAttempt configured delivery.attemptCount retryAfterMs jitter now
              else none }
    | .threw message =>
        { leaseOwner := leaseOwner, success := false, responseStatus := none, error := some message
          retryAt := nextWebhookAttempt configured delivery.attemptCount none jitter now }

section Completion

variable {configured : Option Int} {delivery : WebhookDeliveryRecord} {enabled : Bool}
  {post : PostOutcome} {jitter : Nat} {now : Int}

theorem one_le_maxWebhookAttempts : 1 ≤ maxWebhookAttempts configured := by
  unfold maxWebhookAttempts
  omega

/-- A delivery completes under the lease of its record. -/
theorem deliverWebhook_leaseOwner :
    (deliverWebhook configured delivery enabled post jitter now).leaseOwner =
      truthy delivery.leaseOwner := by
  cases post with
  | responded status retryAfterMs =>
      simp only [deliverWebhook]
      split_ifs
      · rfl
      · rfl
      · rfl
      · rfl
  | threw message =>
      simp only [deliverWebhook]
      split_ifs
      · rfl
      · rfl

/-- **The last attempt** is not followed by another. -/
theorem deliverWebhook_retryAt
    (hlast : maxWebhookAttempts configured ≤ delivery.attemptCount + 1) :
    (deliverWebhook configured delivery enabled post jitter now).retryAt = none := by
  have hnone : ∀ retryAfterMs, nextWebhookAttempt configured delivery.attemptCount retryAfterMs
      jitter now = none := fun retryAfterMs => if_pos hlast
  cases post with
  | responded status retryAfterMs =>
      simp only [deliverWebhook, hnone, ite_self]
      split_ifs
      · rfl
      · rfl
      · rfl
  | threw message =>
      simp only [deliverWebhook, hnone]
      split_ifs
      · rfl
      · rfl

end Completion

end CellFlow
