/-
# CellFlow.Properties.DeliveryLeases — webhook deliveries are leased safely, and end.

Any number of workers claim a delivery row, renew its lease, post its payload and record the outcome,
release it or crash; an operator may retry failed rows.  A worker is one run of the delivery
workflow, with a lease owner of its own, and claims a row at most once; what it does after that is
left in any order.  One invariant carries the safety of the leases, a count of outcomes their end.
-/
import CellFlow.Lib.Runs
import CellFlow.Webhooks.Delivery
import Mathlib.Logic.Function.Basic

namespace CellFlow

open Runs (Run)

/-! ## Workers and a row -/

/-- What a worker knows of the row: the attempt count its claim has read, while it works on it. -/
inductive WorkerPhase where
  | idle
  | holding (attemptCount : Nat)
  | gone
  deriving DecidableEq, Repr

/-- One delivery row and all workers, by lease owner. -/
structure DeliveryWorld where
  row : WebhookDeliveryRow
  worker : String → WorkerPhase

/-- The statements on `webhook_deliveries`, each with its arguments. -/
inductive DeliveryMove where
  | claimDue (leaseOwner : String) (leaseSeconds : Int) (projectId : Option String) (now : Int)
  | claimForEvent (projectId eventId leaseOwner : String) (leaseSeconds now : Int)
  | renew (leaseOwner : String) (leaseSeconds now : Int)
  | deliver (leaseOwner : String) (enabled : Bool) (post : PostOutcome) (jitter : Nat)
      (clock now : Int)
  | release (leaseOwner : String) (now : Int)
  | crash (leaseOwner : String)
  | retryFailed (projectId : String) (endpointId : Option String) (now : Int)
  deriving DecidableEq, Repr

namespace DeliveryWorld

variable (w : DeliveryWorld)

/-- The worker's part of a claim: it holds the row it got, and never asks for this row again. -/
def claim (leaseOwner : String) (claimed : Option WebhookDeliveryRow) : DeliveryWorld :=
  match claimed with
  | some row =>
      { row := row, worker := Function.update w.worker leaseOwner (.holding row.attemptCount) }
  | none => { w with worker := Function.update w.worker leaseOwner .gone }

/-- The world after a move; `none` where its worker is not there to make it.  Lease owners are UUIDs,
so none is empty. -/
def move (configured : Option Int) : DeliveryMove → Option DeliveryWorld
  | .claimDue leaseOwner leaseSeconds projectId now =>
      if leaseOwner ≠ "" ∧ w.worker leaseOwner = .idle then
        some (w.claim leaseOwner
          (claimDueWebhookDelivery leaseOwner leaseSeconds projectId now w.row))
      else none
  | .claimForEvent projectId eventId leaseOwner leaseSeconds now =>
      if leaseOwner ≠ "" ∧ w.worker leaseOwner = .idle then
        some (w.claim leaseOwner
          (claimWebhookDeliveryForEvent projectId eventId leaseOwner leaseSeconds now w.row))
      else none
  | .renew leaseOwner leaseSeconds now =>
      match w.worker leaseOwner with
      | .holding _ =>
          let renewed := renewWebhookDeliveryLease leaseOwner leaseSeconds now w.row
          -- a worker that lost its lease skips the delivery
          some
            { row := renewed.1
              worker :=
                if renewed.2 then w.worker else Function.update w.worker leaseOwner .gone }
      | _ => none
  | .deliver leaseOwner enabled post jitter clock now =>
      match w.worker leaseOwner with
      | .holding attemptCount =>
          some { w with
            row := completeWebhookDelivery
              (deliverWebhook configured ⟨attemptCount, some leaseOwner⟩ enabled post jitter clock)
              now w.row }
      | _ => none
  | .release leaseOwner now =>
      match w.worker leaseOwner with
      | .holding _ => some { w with row := releaseWebhookDeliveryLease leaseOwner now w.row }
      | _ => none
  | .crash leaseOwner => some { w with worker := Function.update w.worker leaseOwner .gone }
  | .retryFailed projectId endpointId now =>
      some { w with row := retryFailedWebhookDelivery projectId endpointId now w.row }

/-- The move records an outcome: a delivery that completes the row it still holds. -/
def records (m : DeliveryMove) : Bool :=
  match m with
  | .deliver leaseOwner _ _ _ _ _ => w.row.leaseOwner = some leaseOwner
  | _ => false

end DeliveryWorld

/-- A move of the history, with whether it recorded an outcome. -/
structure DeliveryAct where
  move : DeliveryMove
  recorded : Bool

/-- One statement on a row; `recorded` says whether it wrote an outcome. -/
def DeliveryStep (configured : Option Int) (w : DeliveryWorld) (act : DeliveryAct)
    (w' : DeliveryWorld) : Prop :=
  w.move configured act.move = some w' ∧ act.recorded = w.records act.move

/-- A row just enqueued, and workers that have not started. -/
def freshDelivery (projectId endpointId eventId : String) (now : Int) : DeliveryWorld where
  row := enqueueWebhookDelivery projectId endpointId eventId now
  worker := fun _ => .idle

/-- The number of outcomes that were written. -/
def outcomes (acts : List DeliveryAct) : Nat := (acts.filter (·.recorded)).length

/-- An operator sends the failed delivery again. -/
def DeliveryMove.isManualRetry : DeliveryMove → Bool
  | .retryFailed _ _ _ => true
  | _ => false

/-- The worker that makes the move. -/
def DeliveryMove.worker : DeliveryMove → Option String
  | .claimDue leaseOwner _ _ _ => some leaseOwner
  | .claimForEvent _ _ leaseOwner _ _ => some leaseOwner
  | .renew leaseOwner _ _ => some leaseOwner
  | .deliver leaseOwner _ _ _ _ _ => some leaseOwner
  | .release leaseOwner _ => some leaseOwner
  | .crash leaseOwner => some leaseOwner
  | .retryFailed _ _ _ => none

/-! ## The lease invariant -/

/-- A lease goes with the status CLAIMED, has an end, and belongs to a worker that read the row's
attempt count when it claimed. -/
structure LeaseInv (w : DeliveryWorld) : Prop where
  claimed : w.row.status = .claimed ↔ ∃ leaseOwner, w.row.leaseOwner = some leaseOwner
  until_some : (∃ leaseOwner, w.row.leaseOwner = some leaseOwner) ↔
    ∃ leaseUntil, w.row.leaseUntil = some leaseUntil
  holder : ∀ leaseOwner, w.row.leaseOwner = some leaseOwner → leaseOwner ≠ "" ∧
    (w.worker leaseOwner = .holding w.row.attemptCount ∨ w.worker leaseOwner = .gone)
  named : ∀ leaseOwner attemptCount, w.worker leaseOwner = .holding attemptCount → leaseOwner ≠ ""

section Moves

variable {configured : Option Int} {w w' : DeliveryWorld} {leaseOwner : String}

/-- What a move comes to: at most one write, by a claim of a row nobody holds, by the worker whose
lease the row is under, or by an operator on a failed row. -/
inductive DeliveryChange (configured : Option Int) (w : DeliveryWorld) :
    DeliveryMove → DeliveryWorld → Prop where
  | same {m : DeliveryMove} {w' : DeliveryWorld} (hrow : w'.row = w.row)
      (hworker : ∀ owner, w'.worker owner = w.worker owner ∨ w'.worker owner = .gone)
      (hrecords : w.records m = false) : DeliveryChange configured w m w'
  | claimed {m : DeliveryMove} {leaseOwner : String} {now leaseSeconds : Int} (hname : leaseOwner ≠ "")
      (hidle : w.worker leaseOwner = .idle) (hfree : w.row.isFree now = true)
      (hwaits : w.row.isWaiting = true ∨ w.row.isAbandoned now = true)
      (hrecords : w.records m = false) :
      DeliveryChange configured w m
        { row := w.row.leased now leaseOwner leaseSeconds
          worker := Function.update w.worker leaseOwner (.holding w.row.attemptCount) }
  | renewed {m : DeliveryMove} {leaseOwner : String} (leaseUntil : Int)
      (howner : w.row.leaseOwner = some leaseOwner) (hrecords : w.records m = false) :
      DeliveryChange configured w m { w with row := { w.row with leaseUntil := some leaseUntil } }
  | completed {m : DeliveryMove} {leaseOwner : String} {attemptCount jitter : Nat} {enabled : Bool}
      {post : PostOutcome} {clock now : Int} (howner : w.row.leaseOwner = some leaseOwner)
      (hholds : w.worker leaseOwner = .holding attemptCount) (hrecords : w.records m = true) :
      DeliveryChange configured w m
        { w with
          row := w.row.completed
            (deliverWebhook configured ⟨attemptCount, some leaseOwner⟩ enabled post jitter clock)
            now }
  | released {m : DeliveryMove} {leaseOwner : String} (nextAttemptAt : Int)
      (howner : w.row.leaseOwner = some leaseOwner) (hrecords : w.records m = false) :
      DeliveryChange configured w m
        { w with
          row :=
            { w.row with
              status := .retry
              leaseOwner := none
              leaseUntil := none
              nextAttemptAt := some nextAttemptAt } }
  | retried {m : DeliveryMove} (now : Int) (hmanual : m.isManualRetry = true)
      (hfailed : w.row.status = .failed) (hrecords : w.records m = false) :
      DeliveryChange configured w m
        { w with
          row :=
            { w.row with
              status := .retry
              nextAttemptAt := some now
              leaseOwner := none
              leaseUntil := none } }

/-- A worker that only leaves. -/
theorem worker_gone (worker : String → WorkerPhase) (leaseOwner owner : String) :
    Function.update worker leaseOwner .gone owner = worker owner ∨
      Function.update worker leaseOwner .gone owner = .gone := by
  by_cases h : owner = leaseOwner
  · right
    rw [h, Function.update_self]
  · left
    rw [Function.update_of_ne h]

theorem claimDue_some {projectId : Option String} {leaseSeconds now : Int}
    {row claimed : WebhookDeliveryRow}
    (h : claimDueWebhookDelivery leaseOwner leaseSeconds projectId now row = some claimed) :
    claimed = row.leased now leaseOwner leaseSeconds ∧ row.isFree now = true ∧
      (row.isWaiting = true ∨ row.isAbandoned now = true) := by
  unfold claimDueWebhookDelivery at h
  split_ifs at h with hguard
  simp only [Bool.and_eq_true, Bool.or_eq_true] at hguard
  exact ⟨(Option.some.inj h).symm, hguard.2, hguard.1.1.2⟩

theorem claimForEvent_some {projectId eventId : String} {leaseSeconds now : Int}
    {row claimed : WebhookDeliveryRow}
    (h : claimWebhookDeliveryForEvent projectId eventId leaseOwner leaseSeconds now row =
      some claimed) :
    claimed = row.leased now leaseOwner (min (max leaseSeconds 15) 300) ∧ row.isFree now = true ∧
      (row.isWaiting = true ∨ row.isAbandoned now = true) := by
  unfold claimWebhookDeliveryForEvent at h
  simp only at h
  split_ifs at h with hguard
  exact ⟨(Option.some.inj h).symm, hguard.2.2.2.2, Or.inl hguard.2.2.1⟩

/-- The worker's part of a claim. -/
theorem claim_change {m : DeliveryMove} {leaseSeconds now : Int} {claimed : Option WebhookDeliveryRow}
    (hname : leaseOwner ≠ "") (hidle : w.worker leaseOwner = .idle) (hrecords : w.records m = false)
    (hclaimed : ∀ row, claimed = some row → row = w.row.leased now leaseOwner leaseSeconds ∧
      w.row.isFree now = true ∧ (w.row.isWaiting = true ∨ w.row.isAbandoned now = true)) :
    DeliveryChange configured w m (w.claim leaseOwner claimed) := by
  cases claimed with
  | none => exact .same rfl (worker_gone w.worker leaseOwner) hrecords
  | some row =>
      obtain ⟨rfl, hfree, hwaits⟩ := hclaimed row rfl
      exact .claimed hname hidle hfree hwaits hrecords

/-- **What a move does.** -/
theorem move_change {m : DeliveryMove} (hi : LeaseInv w) (h : w.move configured m = some w') :
    DeliveryChange configured w m w' := by
  cases m with
  | claimDue leaseOwner leaseSeconds projectId now =>
      simp only [DeliveryWorld.move] at h
      split_ifs at h with hready
      obtain rfl := Option.some.inj h
      exact claim_change hready.1 hready.2 rfl fun row hrow => claimDue_some hrow
  | claimForEvent projectId eventId leaseOwner leaseSeconds now =>
      simp only [DeliveryWorld.move] at h
      split_ifs at h with hready
      obtain rfl := Option.some.inj h
      exact claim_change hready.1 hready.2 rfl fun row hrow => claimForEvent_some hrow
  | renew leaseOwner leaseSeconds now =>
      simp only [DeliveryWorld.move] at h
      split at h
      next attemptCount hholds =>
        obtain rfl := Option.some.inj h
        by_cases hlease : w.row.leaseOwner = some leaseOwner ∧ w.row.status = .claimed
        · have hrenewed : renewWebhookDeliveryLease leaseOwner leaseSeconds now w.row =
              ({ w.row with leaseUntil := some (now + min (max leaseSeconds 15) 900 * 1000) },
                true) := if_pos hlease
          rw [hrenewed]
          exact .renewed _ hlease.1 rfl
        · have hlost : renewWebhookDeliveryLease leaseOwner leaseSeconds now w.row =
              (w.row, false) := if_neg hlease
          rw [hlost]
          exact .same rfl (worker_gone w.worker leaseOwner) rfl
      · cases h
  | deliver leaseOwner enabled post jitter clock now =>
      simp only [DeliveryWorld.move] at h
      split at h
      next attemptCount hholds =>
        obtain rfl := Option.some.inj h
        have hname : truthy (some leaseOwner) = some leaseOwner :=
          truthy_eq_some.mpr ⟨rfl, hi.named leaseOwner attemptCount hholds⟩
        unfold completeWebhookDelivery
        simp only [deliverWebhook_leaseOwner, hname]
        split_ifs with hlease
        · exact .completed hlease hholds (by simpa [DeliveryWorld.records] using hlease)
        · exact .same rfl (fun _ => Or.inl rfl) (by simpa [DeliveryWorld.records] using hlease)
      · cases h
  | release leaseOwner now =>
      simp only [DeliveryWorld.move] at h
      split at h
      next attemptCount hholds =>
        obtain rfl := Option.some.inj h
        unfold releaseWebhookDeliveryLease
        split_ifs with hlease
        · exact .released _ hlease.1 rfl
        · exact .same rfl (fun _ => Or.inl rfl) rfl
      · cases h
  | crash leaseOwner =>
      obtain rfl := Option.some.inj h
      exact .same rfl (worker_gone w.worker leaseOwner) rfl
  | retryFailed projectId endpointId now =>
      obtain rfl := Option.some.inj h
      unfold retryFailedWebhookDelivery
      split_ifs with hfailed
      · exact .retried now rfl hfailed.2.2 rfl
      · exact .same rfl (fun _ => Or.inl rfl) rfl

theorem leaseInv_fresh (projectId endpointId eventId : String) (now : Int) :
    LeaseInv (freshDelivery projectId endpointId eventId now) where
  claimed := by simp [freshDelivery, enqueueWebhookDelivery]
  until_some := by simp [freshDelivery, enqueueWebhookDelivery]
  holder := by simp [freshDelivery, enqueueWebhookDelivery]
  named := by simp [freshDelivery]

/-- A row that may be claimed is under no lease, or under one that ran out. -/
theorem LeaseInv.holder_claimed (hi : LeaseInv w) {owner : String}
    (h : w.row.leaseOwner = some owner) : w.row.status = .claimed :=
  hi.claimed.mpr ⟨owner, h⟩

/-- **The leases stay in order.** -/
theorem LeaseInv.step {m : DeliveryMove} (hi : LeaseInv w)
    (h : DeliveryChange configured w m w') : LeaseInv w' := by
  cases h with
  | same hrow hworker _ =>
      refine ⟨hrow ▸ hi.claimed, hrow ▸ hi.until_some, fun owner howner => ?_, fun owner n hn => ?_⟩
      · rw [hrow] at howner ⊢
        obtain ⟨hname, hphase⟩ := hi.holder owner howner
        rcases hworker owner with hsame | hgone
        · exact ⟨hname, hsame ▸ hphase⟩
        · exact ⟨hname, Or.inr hgone⟩
      · rcases hworker owner with hsame | hgone
        · exact hi.named owner n (hsame ▸ hn)
        · rw [hgone] at hn
          cases hn
  | @claimed leaseOwner now leaseSeconds hname hidle hfree hwaits _ =>
      refine ⟨?_, ?_, fun owner howner => ?_, fun owner n hn => ?_⟩
      · simp [WebhookDeliveryRow.leased]
      · simp [WebhookDeliveryRow.leased]
      · obtain rfl : leaseOwner = owner := Option.some.inj howner
        exact ⟨hname, Or.inl (Function.update_self ..)⟩
      · by_cases hsame : owner = leaseOwner
        · exact hsame ▸ hname
        · refine hi.named owner n ?_
          rw [← hn]
          exact (Function.update_of_ne hsame ..).symm
  | renewed leaseUntil howner _ =>
      refine ⟨hi.claimed, ?_, hi.holder, hi.named⟩
      exact iff_of_true ⟨_, howner⟩ ⟨leaseUntil, rfl⟩
  | completed howner hholds _ =>
      refine ⟨?_, ?_, ?_, hi.named⟩
      · refine iff_of_false ?_ ?_
        · simp only [WebhookDeliveryRow.completed]
          split_ifs <;> decide
        · rintro ⟨owner, h⟩
          cases h
      · refine iff_of_false ?_ ?_
        · rintro ⟨owner, h⟩
          cases h
        · rintro ⟨leaseUntil, h⟩
          cases h
      · intro owner h
        cases h
  | released nextAttemptAt howner _ =>
      refine ⟨?_, ?_, ?_, hi.named⟩
      · simp
      · simp
      · intro owner h
        cases h
  | retried now _ hfailed _ =>
      refine ⟨?_, ?_, ?_, hi.named⟩
      · simp
      · simp
      · intro owner h
        cases h

theorem leaseInv_run {w₀ : DeliveryWorld} {acts : List DeliveryAct} (h₀ : LeaseInv w₀)
    (h : Run (DeliveryStep configured) w₀ acts w) : LeaseInv w :=
  Run.inv LeaseInv h₀ (fun _ _ _ hi hs => hi.step (move_change hi hs.1)) h

/-! ## One lease at a time -/

/-- **While a lease runs**, no claim takes the row. -/
theorem claims_refused {row : WebhookDeliveryRow} {leaseUntil now : Int}
    (hlease : row.leaseUntil = some leaseUntil) (hnow : now ≤ leaseUntil) (owner : String)
    (leaseSeconds : Int) (project : Option String) (projectId eventId : String) :
    claimDueWebhookDelivery owner leaseSeconds project now row = none ∧
      claimWebhookDeliveryForEvent projectId eventId owner leaseSeconds now row = none := by
  have hheld : row.isFree now = false := by
    simp only [WebhookDeliveryRow.isFree, hlease, Option.all_some, decide_eq_false_iff_not]
    omega
  constructor
  · simp [claimDueWebhookDelivery, hheld]
  · simp [claimWebhookDeliveryForEvent, hheld]

/-- A worker that has had its claim, and under whose lease the row is not. -/
def Superseded (owner : String) (w : DeliveryWorld) : Prop :=
  w.worker owner ≠ .idle ∧ w.row.leaseOwner ≠ some owner

/-- **A superseded worker stays so**: it claims no more, and nobody claims for it. -/
theorem Superseded.step {owner : String} {m : DeliveryMove} (hs : Superseded owner w)
    (h : DeliveryChange configured w m w') : Superseded owner w' := by
  obtain ⟨hphase, howner⟩ := hs
  cases h with
  | same hrow hworker _ =>
      refine ⟨fun hidle => ?_, hrow ▸ howner⟩
      rcases hworker owner with hsame | hgone
      · exact hphase (hsame ▸ hidle)
      · rw [hgone] at hidle
        cases hidle
  | @claimed leaseOwner now leaseSeconds hname hidle hfree hwaits _ =>
      have hother : owner ≠ leaseOwner := by
        rintro rfl
        exact hphase hidle
      refine ⟨fun h => hphase ?_, fun h => hother (Option.some.inj h).symm⟩
      rw [← h]
      exact (Function.update_of_ne hother ..).symm
  | renewed leaseUntil _ _ => exact ⟨hphase, howner⟩
  | completed _ _ _ => exact ⟨hphase, by simp [WebhookDeliveryRow.completed]⟩
  | released nextAttemptAt _ _ => exact ⟨hphase, by simp⟩
  | retried now _ _ _ => exact ⟨hphase, by simp⟩

/-! Whatever a superseded worker still writes finds no row. -/

theorem superseded_renew {row : WebhookDeliveryRow} {owner : String}
    (howner : row.leaseOwner ≠ some owner) (leaseSeconds now : Int) :
    renewWebhookDeliveryLease owner leaseSeconds now row = (row, false) := by
  apply if_neg
  intro hlease
  exact howner hlease.1

theorem superseded_release {row : WebhookDeliveryRow} {owner : String}
    (howner : row.leaseOwner ≠ some owner) (now : Int) :
    releaseWebhookDeliveryLease owner now row = row := by
  apply if_neg
  intro hlease
  exact howner hlease.1

theorem superseded_complete {row : WebhookDeliveryRow} {owner : String} {delivery : WebhookDeliveryRecord}
    {enabled : Bool} {post : PostOutcome} {jitter : Nat} {clock : Int} (hname : owner ≠ "")
    (howner : row.leaseOwner ≠ some owner) (hdelivery : delivery.leaseOwner = some owner) (now : Int) :
    completeWebhookDelivery (deliverWebhook configured delivery enabled post jitter clock) now row =
      row := by
  have htruthy : truthy (some owner) = some owner := truthy_eq_some.mpr ⟨rfl, hname⟩
  unfold completeWebhookDelivery
  rw [deliverWebhook_leaseOwner, hdelivery, htruthy, htruthy]
  exact if_neg howner

/-- **A superseded worker changes nothing.** -/
theorem Superseded.move {owner : String} {m : DeliveryMove} (hi : LeaseInv w)
    (hs : Superseded owner w) (hm : m.worker = some owner) (h : w.move configured m = some w') :
    w'.row = w.row := by
  obtain ⟨hphase, howner⟩ := hs
  cases m with
  | claimDue leaseOwner leaseSeconds projectId now =>
      obtain rfl := Option.some.inj hm
      simp only [DeliveryWorld.move] at h
      split_ifs at h with hready
      exact absurd hready.2 hphase
  | claimForEvent projectId eventId leaseOwner leaseSeconds now =>
      obtain rfl := Option.some.inj hm
      simp only [DeliveryWorld.move] at h
      split_ifs at h with hready
      exact absurd hready.2 hphase
  | renew leaseOwner leaseSeconds now =>
      obtain rfl := Option.some.inj hm
      simp only [DeliveryWorld.move] at h
      split at h
      next attemptCount hholds =>
        obtain rfl := Option.some.inj h
        rw [superseded_renew howner]
      · cases h
  | deliver leaseOwner enabled post jitter clock now =>
      obtain rfl := Option.some.inj hm
      simp only [DeliveryWorld.move] at h
      split at h
      next attemptCount hholds =>
        obtain rfl := Option.some.inj h
        exact superseded_complete (hi.named _ _ hholds) howner rfl now
      · cases h
  | release leaseOwner now =>
      obtain rfl := Option.some.inj hm
      simp only [DeliveryWorld.move] at h
      split at h
      next attemptCount hholds =>
        obtain rfl := Option.some.inj h
        exact superseded_release howner now
      · cases h
  | crash leaseOwner =>
      obtain rfl := Option.some.inj h
      rfl
  | retryFailed projectId endpointId now => cases hm

theorem superseded_run {owner : String} {w₀ : DeliveryWorld} {acts : List DeliveryAct}
    (hi : LeaseInv w₀) (hs : Superseded owner w₀) (h : Run (DeliveryStep configured) w₀ acts w) :
    LeaseInv w ∧ Superseded owner w := by
  refine Run.inv (fun w => LeaseInv w ∧ Superseded owner w) ⟨hi, hs⟩ ?_ h
  rintro s act t ⟨his, hss⟩ hstep
  have hchange := move_change his hstep.1
  exact ⟨his.step hchange, hss.step hchange⟩

/-! ## The end of a row -/

/-- **DELIVERED is absorbing.** -/
theorem delivered_step {m : DeliveryMove} (hi : LeaseInv w) (hdone : w.row.status = .delivered)
    (h : DeliveryChange configured w m w') : w'.row = w.row := by
  have hfree : ∀ owner, w.row.leaseOwner ≠ some owner := by
    intro owner howner
    rw [hi.holder_claimed howner] at hdone
    cases hdone
  cases h with
  | same hrow _ _ => exact hrow
  | claimed hname hidle hfree' hwaits _ =>
      simp [WebhookDeliveryRow.isWaiting, WebhookDeliveryRow.isAbandoned, hdone] at hwaits
  | renewed leaseUntil howner _ => exact absurd howner (hfree _)
  | completed howner _ _ => exact absurd howner (hfree _)
  | released nextAttemptAt howner _ => exact absurd howner (hfree _)
  | retried now _ hfailed _ =>
      rw [hdone] at hfailed
      cases hfailed

/-- **A row that is not at an end** can be claimed once its times have passed. -/
theorem LeaseInv.claimable (hi : LeaseInv w) {now : Int} (hdone : w.row.status ≠ .delivered)
    (hfailed : w.row.status ≠ .failed)
    (hlease : ∀ leaseUntil, w.row.leaseUntil = some leaseUntil → leaseUntil < now)
    (hnext : ∀ nextAttemptAt, w.row.nextAttemptAt = some nextAttemptAt → nextAttemptAt ≤ now)
    {project : Option String} (hproject : project = none ∨ project = some w.row.projectId)
    (owner : String) (leaseSeconds : Int) :
    claimDueWebhookDelivery owner leaseSeconds project now w.row =
      some (w.row.leased now owner leaseSeconds) := by
  have hin : (truthy project).all (· = w.row.projectId) = true := by
    rw [Option.all_eq_true]
    intro p hp
    obtain ⟨hsame, -⟩ := truthy_eq_some.mp hp
    rcases hproject with rfl | rfl
    · cases hsame
    · exact decide_eq_true (Option.some.inj hsame).symm
  have hfree : w.row.isFree now = true := by
    unfold WebhookDeliveryRow.isFree
    rw [Option.all_eq_true]
    exact fun leaseUntil h => decide_eq_true (hlease leaseUntil h)
  have hdue : w.row.isDue now = true := by
    unfold WebhookDeliveryRow.isDue
    rw [Option.all_eq_true]
    exact fun nextAttemptAt h => decide_eq_true (hnext nextAttemptAt h)
  have hwaits : (w.row.isWaiting || w.row.isAbandoned now) = true := by
    cases hstatus : w.row.status with
    | pending => simp [WebhookDeliveryRow.isWaiting, hstatus]
    | retry => simp [WebhookDeliveryRow.isWaiting, hstatus]
    | claimed =>
        -- a claimed row has a lease with an end, so it can be abandoned
        obtain ⟨leaseUntil, huntil⟩ := hi.until_some.mp (hi.claimed.mp hstatus)
        simp [WebhookDeliveryRow.isAbandoned, hstatus, huntil, hlease leaseUntil huntil]
    | delivered => exact absurd hstatus hdone
    | failed => exact absurd hstatus hfailed
  simp [claimDueWebhookDelivery, hin, hfree, hdue, hwaits]

/-- No more attempts are due: the count is below the maximum, or the row is at an end. -/
def Bounded (configured : Option Int) (w : DeliveryWorld) : Prop :=
  w.row.attemptCount < maxWebhookAttempts configured ∨ w.row.status = .delivered ∨
    w.row.status = .failed

/-- **An outcome** is counted, and is the last one at the maximum. -/
theorem completed_step {m : DeliveryMove} (hi : LeaseInv w) (hrecords : w.records m = true)
    (h : DeliveryChange configured w m w') :
    w'.row.attemptCount = w.row.attemptCount + 1 ∧ Bounded configured w' := by
  cases h with
  | @completed leaseOwner attemptCount jitter enabled post clock now howner hholds _ =>
      refine ⟨rfl, ?_⟩
      have hcount : attemptCount = w.row.attemptCount := by
        rcases (hi.holder leaseOwner howner).2 with hphase | hphase
        · exact WorkerPhase.holding.inj (hholds.symm.trans hphase)
        · rw [hholds] at hphase
          cases hphase
      by_cases hlast : maxWebhookAttempts configured ≤ w.row.attemptCount + 1
      · right
        have hretry : (deliverWebhook configured ⟨attemptCount, some leaseOwner⟩ enabled post jitter
            clock).retryAt = none := deliverWebhook_retryAt (hcount ▸ hlast)
        simp only [WebhookDeliveryRow.completed, hretry]
        split_ifs with hsuccess
        · exact Or.inl rfl
        · simp at *
        · exact Or.inr rfl
      · left
        simp only [WebhookDeliveryRow.completed]
        omega
  | same _ _ hno => rw [hrecords] at hno; cases hno
  | claimed _ _ _ _ hno => rw [hrecords] at hno; cases hno
  | renewed _ _ hno => rw [hrecords] at hno; cases hno
  | released _ _ hno => rw [hrecords] at hno; cases hno
  | retried _ _ _ hno => rw [hrecords] at hno; cases hno

/-- A row whose outcome is recorded is not at an end. -/
theorem completed_open {m : DeliveryMove} (hi : LeaseInv w) (hrecords : w.records m = true)
    (h : DeliveryChange configured w m w') :
    ¬ (w.row.status = .delivered ∨ w.row.status = .failed) := by
  intro hend
  cases h with
  | completed howner _ _ =>
      rw [hi.holder_claimed howner] at hend
      simp at hend
  | same _ _ hno => rw [hrecords] at hno; cases hno
  | claimed _ _ _ _ hno => rw [hrecords] at hno; cases hno
  | renewed _ _ hno => rw [hrecords] at hno; cases hno
  | released _ _ hno => rw [hrecords] at hno; cases hno
  | retried _ _ _ hno => rw [hrecords] at hno; cases hno

/-- Any other move but a manual retry keeps the count, and the end of a row. -/
theorem uncounted_step {m : DeliveryMove} (hi : LeaseInv w) (hrecords : w.records m = false)
    (hmanual : m.isManualRetry = false) (h : DeliveryChange configured w m w') :
    w'.row.attemptCount = w.row.attemptCount ∧
      (w.row.status = .delivered ∨ w.row.status = .failed → w'.row.status = w.row.status) := by
  have hleased : ∀ owner, w.row.leaseOwner = some owner →
      ¬ (w.row.status = .delivered ∨ w.row.status = .failed) := by
    intro owner howner hend
    rw [hi.holder_claimed howner] at hend
    simp at hend
  cases h with
  | same hrow _ _ => exact ⟨by rw [hrow], fun _ => by rw [hrow]⟩
  | claimed _ _ _ hwaits _ =>
      refine ⟨rfl, fun hend => ?_⟩
      rcases hend with hstatus | hstatus
      · simp [WebhookDeliveryRow.isWaiting, WebhookDeliveryRow.isAbandoned, hstatus] at hwaits
      · simp [WebhookDeliveryRow.isWaiting, WebhookDeliveryRow.isAbandoned, hstatus] at hwaits
  | renewed _ _ _ => exact ⟨rfl, fun _ => rfl⟩
  | completed _ _ hyes => rw [hrecords] at hyes; cases hyes
  | released _ howner _ => exact ⟨rfl, fun hend => absurd hend (hleased _ howner)⟩
  | retried _ hyes _ _ => rw [hmanual] at hyes; cases hyes

theorem delivered_run {w₀ : DeliveryWorld} {acts : List DeliveryAct} (hi : LeaseInv w₀)
    (hdone : w₀.row.status = .delivered) (h : Run (DeliveryStep configured) w₀ acts w) :
    w.row = w₀.row := by
  have hinv : LeaseInv w ∧ w.row = w₀.row := by
    refine Run.inv (fun w => LeaseInv w ∧ w.row = w₀.row) ⟨hi, rfl⟩ ?_ h
    rintro s act t ⟨his, hrow⟩ hstep
    have hchange := move_change his hstep.1
    refine ⟨his.step hchange, ?_⟩
    rw [delivered_step his (hrow ▸ hdone) hchange, hrow]
  exact hinv.2

theorem outcomes_snoc (acts : List DeliveryAct) (act : DeliveryAct) :
    outcomes (acts ++ [act]) = outcomes acts + if act.recorded then 1 else 0 := by
  unfold outcomes
  rw [List.filter_append, List.length_append]
  cases h : act.recorded with
  | true => simp [h]
  | false => simp [h]

/-- **Outcomes are counted**, and bounded, as long as no operator steps in. -/
theorem outcomes_run {w₀ : DeliveryWorld} {acts : List DeliveryAct} (hi : LeaseInv w₀)
    (h : Run (DeliveryStep configured) w₀ acts w)
    (hauto : ∀ act ∈ acts, act.move.isManualRetry = false) :
    LeaseInv w ∧ w.row.attemptCount = w₀.row.attemptCount + outcomes acts ∧
      outcomes acts ≤ maxWebhookAttempts configured ∧
      (1 ≤ outcomes acts → Bounded configured w) := by
  revert hauto
  refine Run.history
    (fun acts w => (∀ act ∈ acts, act.move.isManualRetry = false) →
      LeaseInv w ∧ w.row.attemptCount = w₀.row.attemptCount + outcomes acts ∧
        outcomes acts ≤ maxWebhookAttempts configured ∧
        (1 ≤ outcomes acts → Bounded configured w)) ?_ ?_ h
  · intro _
    exact ⟨hi, rfl, Nat.zero_le _, fun hone => absurd hone (by decide)⟩
  · intro acts s act t _ ih hstep hauto
    obtain ⟨his, hcount, hmax, hbounded⟩ := ih fun b hb => hauto b (List.mem_append_left _ hb)
    have hchange := move_change his hstep.1
    have hmanual : act.move.isManualRetry = false := hauto act (by simp)
    refine ⟨his.step hchange, ?_⟩
    rw [outcomes_snoc]
    cases hrecords : s.records act.move with
    | true =>
        rw [if_pos (hstep.2.trans hrecords)]
        obtain ⟨hnext, hlast⟩ := completed_step his hrecords hchange
        have hopen : 1 ≤ outcomes acts → s.row.attemptCount < maxWebhookAttempts configured := by
          intro hone
          rcases hbounded hone with hbelow | hend
          · exact hbelow
          · exact absurd hend (completed_open his hrecords hchange)
        have hpos : 1 ≤ maxWebhookAttempts configured := one_le_maxWebhookAttempts
        refine ⟨by omega, ?_, fun _ => hlast⟩
        by_cases hone : 1 ≤ outcomes acts
        · have := hopen hone
          omega
        · omega
    | false =>
        have hno : ¬ act.recorded = true := by
          rw [hstep.2, hrecords]
          decide
        rw [if_neg hno, Nat.add_zero]
        obtain ⟨hsame, hkept⟩ := uncounted_step his hrecords hmanual hchange
        refine ⟨by omega, hmax, fun hone => ?_⟩
        rcases hbounded hone with hbelow | hend
        · exact Or.inl (hsame ▸ hbelow)
        · exact Or.inr (hkept hend ▸ hend)

end Moves

/-! ## The promises of the leases -/

/-- What the leases promise of a row, whatever its workers and the operators do next. -/
structure LeasesSafe (configured : Option Int) (w : DeliveryWorld) : Prop where
  /-- While a lease runs, no worker's claim gets the row. -/
  exclusive : ∀ leaseUntil now, w.row.leaseUntil = some leaseUntil → now ≤ leaseUntil →
    ∀ owner leaseSeconds project projectId eventId,
      claimDueWebhookDelivery owner leaseSeconds project now w.row = none ∧
        claimWebhookDeliveryForEvent projectId eventId owner leaseSeconds now w.row = none
  /-- A worker that has claimed, and whose lease the row is no longer under, never changes it. -/
  superseded : ∀ owner, w.worker owner ≠ .idle → w.row.leaseOwner ≠ some owner →
    ∀ acts w₁, Run (DeliveryStep configured) w acts w₁ →
      ∀ (m : DeliveryMove) w₂, m.worker = some owner → w₁.move configured m = some w₂ →
        w₂.row = w₁.row
  /-- DELIVERED is absorbing. -/
  absorbing : w.row.status = .delivered →
    ∀ acts w₁, Run (DeliveryStep configured) w acts w₁ → w₁.row = w.row
  /-- A row that is not at an end is claimed by whoever asks after its times. -/
  claimable : w.row.status ≠ .delivered → w.row.status ≠ .failed → ∀ now,
    (∀ leaseUntil, w.row.leaseUntil = some leaseUntil → leaseUntil < now) →
    (∀ nextAttemptAt, w.row.nextAttemptAt = some nextAttemptAt → nextAttemptAt ≤ now) →
    ∀ project, project = none ∨ project = some w.row.projectId → ∀ owner leaseSeconds,
      claimDueWebhookDelivery owner leaseSeconds project now w.row =
        some (w.row.leased now owner leaseSeconds)
  /-- Without a manual retry no more than the maximum of outcomes is recorded, and the row is at an
  end when that many are. -/
  ends : ∀ acts w₁, Run (DeliveryStep configured) w acts w₁ →
    (∀ act ∈ acts, act.move.isManualRetry = false) →
    outcomes acts ≤ maxWebhookAttempts configured ∧
      (outcomes acts = maxWebhookAttempts configured →
        w₁.row.status = .delivered ∨ w₁.row.status = .failed)

/-- **Webhook deliveries are leased safely, and end.** -/
theorem deliveries_leased {configured : Option Int} {projectId endpointId eventId : String}
    {now : Int} {acts : List DeliveryAct} {w : DeliveryWorld}
    (h : Run (DeliveryStep configured) (freshDelivery projectId endpointId eventId now) acts w) :
    LeasesSafe configured w := by
  have hi : LeaseInv w := leaseInv_run (leaseInv_fresh projectId endpointId eventId now) h
  refine ⟨?_, ?_, ?_, ?_, ?_⟩
  · intro leaseUntil clock hlease hclock owner leaseSeconds project projectId eventId
    exact claims_refused hlease hclock owner leaseSeconds project projectId eventId
  · intro owner hphase howner later w₁ hrun m w₂ hm hmove
    obtain ⟨hi₁, hs₁⟩ := superseded_run hi ⟨hphase, howner⟩ hrun
    exact hs₁.move hi₁ hm hmove
  · intro hdone later w₁ hrun
    exact delivered_run hi hdone hrun
  · intro hdone hfailed clock hlease hnext project hproject owner leaseSeconds
    exact hi.claimable hdone hfailed hlease hnext hproject owner leaseSeconds
  · intro later w₁ hrun hauto
    obtain ⟨hi₁, hcount, hmax, hbounded⟩ := outcomes_run hi hrun hauto
    refine ⟨hmax, fun hall => ?_⟩
    have hpos : 1 ≤ maxWebhookAttempts configured := one_le_maxWebhookAttempts
    rcases hbounded (by omega) with hbelow | hend
    · omega
    · exact hend

/-- A worker claims the row, posts the payload, and is answered 200. -/
theorem deliveries_leased_delivered : ∃ acts w,
    Run (DeliveryStep none) (freshDelivery "p" "e" "v" 0) acts w ∧ w.row.status = .delivered ∧
      LeasesSafe none w := by
  have hrun : Run (DeliveryStep none) (freshDelivery "p" "e" "v" 0)
      ([⟨.claimDue "a" 60 none 5, false⟩] ++
        [⟨.deliver "a" true (.responded 200 none) 0 7 9, true⟩]) _ :=
    .next (.single ⟨rfl, rfl⟩) ⟨rfl, rfl⟩
  exact ⟨_, _, hrun, by decide, deliveries_leased hrun⟩

end CellFlow
