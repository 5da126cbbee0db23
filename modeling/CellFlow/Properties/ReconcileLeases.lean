/-
# CellFlow.Properties.ReconcileLeases — one worker at a time, and none in vain.

Any number of `reconcileDue` batches claim rows, renew, work, release, fail and crash, while requests and
reconciliations write the same rows.  A renewal does not ask whether the lease has run out, so who may
work on a row is settled by time alone: as long as a worker is done within the lease it renewed, no other
batch can have claimed its row.  And a first lease that was not cut at an hour covers the time an item
waits for its runner.
-/
import CellFlow.Api.Scenario
import CellFlow.Workers.ReconcileDue

namespace CellFlow

open Runs (Run)
open WorkerPool (PoolInv ScheduleInv Timed)

/-! ## What the rest of the program leaves of a lease -/

/-- No operation on an intent writes the lease of its row. -/
theorem Op.commit_keeps_lease {op : Op} {view : IntentAggregate} {db t : Store}
    (h : op.commit view db = some t) :
    t.execution.reconcileLeaseUntil = db.execution.reconcileLeaseUntil := by
  cases op with
  | attach req freshId now =>
      obtain ⟨_, _, _, _, _, -, -, -, -, -, rfl⟩ := Op.attach_writes h
      rw [AttachInput.attachedStore_execution]
      unfold AttachInput.attachedExecution
      split <;> rfl
  | mark req now =>
      obtain ⟨_, -, -, -, -, rfl⟩ := markAttempt_ok (Op.mark_commit h).2
      rfl
  | observe env =>
      obtain ⟨_, _, -, hp⟩ := Op.observe_commit h
      obtain ⟨_, -, rfl⟩ := reconcileProjection_writes hp
      rfl
  | probe env index =>
      obtain ⟨_, -, ⟨_, -, rfl⟩ | ⟨_, -, hp⟩⟩ := Op.probe_commit h
      · rfl
      · obtain ⟨-, -, rfl⟩ := promoteAttemptProjection_ok hp
        rfl
  | preflight verified reason rawObservation now =>
      cases h
      rfl
  | operatorNote text now =>
      cases h
      rfl

/-- The lease of the row of `id` is `leaseId`'s, and ends at `leaseUntil`. -/
def HeldUntil (rows : List LeasedExecution) (leaseId id : String) (leaseUntil : Int) : Prop :=
  ∃ row, rowOf id rows = some row ∧ row.reconcileLeaseId = some leaseId ∧
    row.execution.reconcileLeaseUntil = some leaseUntil

/-- The batch of a phase that has one. -/
def DuePhase.batch? : DuePhase → Option DueBatch
  | .reading batch => some batch
  | .running batch _ _ _ => some batch
  | _ => none

/-- The item whose lease a statement is about. -/
def DueEvent.item? : DueEvent → Option (String × Nat)
  | .renew leaseId item _ => some (leaseId, item)
  | .release leaseId item => some (leaseId, item)
  | _ => none

/-- The batch that makes the move. -/
def DueEvent.actor? : DueEvent → Option String
  | .claim leaseId _ => some leaseId
  | .start leaseId => some leaseId
  | .runner leaseId _ => some leaseId
  | .renew leaseId _ _ => some leaseId
  | .release leaseId _ => some leaseId
  | .crash leaseId => some leaseId
  | _ => none

section Steps

variable {w w' : LeaseWorld} {e : DueEvent} {leaseId id : String} {leaseUntil : Int}

/-- **A lease stands** until it runs out, whatever is not its own renewal or release. -/
theorem HeldUntil.step (h : HeldUntil w.rows leaseId id leaseUntil) (hs : DueStep w e w')
    (hunique : (w.rows.map (·.id)).Nodup) (hlive : w.now ≤ leaseUntil)
    (hother : ∀ item batch, e.item? = some (leaseId, item) →
      (w.phase leaseId).batch? = some batch → batch.executionId item ≠ id) :
    HeldUntil w'.rows leaseId id leaseUntil := by
  obtain ⟨row, hrow, hlease, huntil⟩ := h
  cases hs with
  | passed elapsed => exact ⟨row, hrow, hlease, huntil⟩
  | @claimed actor settings locked now selected hnew hnow hselected =>
      refine ⟨row, ?_, hlease, huntil⟩
      have hnot : row.id ∉ selected := by
        intro hmem
        rw [hselected] at hmem
        obtain ⟨other, hother, hclaimable⟩ := mem_selectDue hunique hmem
        rw [rowOf_id hrow, hrow] at hother
        obtain rfl := Option.some.inj hother
        have hlapsed := claimable_lapsed hclaimable huntil
        omega
      show rowOf id (leaseSelected _ _ _ _ _) = _
      rw [rowOf_leaseSelected, hrow, Option.map_some, if_neg hnot]
  | started => exact ⟨row, hrow, hlease, huntil⟩
  | ran => exact ⟨row, hrow, hlease, huntil⟩
  | @renewal actor item now served answer batch startedAt timed stage hrunning =>
      refine ⟨row, ?_, hlease, huntil⟩
      cases served with
      | false => exact hrow
      | true =>
          show rowOf id (renewReconcileLease _ _ _ _ _) = _
          rw [rowOf_renew, hrow, Option.map_some, if_neg]
          rintro ⟨hid, hactor⟩
          obtain rfl : leaseId = actor := Option.some.inj (hlease.symm.trans hactor)
          refine hother item batch rfl ?_ (hid.symm.trans (rowOf_id hrow))
          rw [hrunning]
          rfl
  | @released actor item served batch startedAt timed stage hrunning =>
      refine ⟨row, ?_, hlease, huntil⟩
      cases served with
      | false => exact hrow
      | true =>
          show rowOf id (releaseReconcileLease _ _ _) = _
          rw [rowOf_release, hrow, Option.map_some, if_neg]
          rintro ⟨hid, hactor⟩
          obtain rfl : leaseId = actor := Option.some.inj (hlease.symm.trans hactor)
          refine hother item batch rfl ?_ (hid.symm.trans (rowOf_id hrow))
          rw [hrunning]
          rfl
  | crashed => exact ⟨row, hrow, hlease, huntil⟩
  | @written executionId before op view db t hbefore hdb hcommit =>
      have hkept := Op.commit_keeps_lease hcommit
      have hafter : rowOf id (writeExecution executionId t.execution w.rows) =
          some (if row.id = executionId then { row with execution := t.execution } else row) := by
        rw [rowOf_write, hrow, Option.map_some]
      refine ⟨_, hafter, ?_⟩
      split_ifs with hid
      · rw [← hid, rowOf_id hrow, hrow] at hbefore
        obtain rfl := Option.some.inj hbefore
        refine ⟨hlease, ?_⟩
        show t.execution.reconcileLeaseUntil = _
        rw [hkept, hdb, huntil]
      · exact ⟨hlease, huntil⟩
  | @inserted executionId req hfresh =>
      refine ⟨row, ?_, hlease, huntil⟩
      show rowOf id (insertExecution _ _ _) = _
      rw [rowOf_insert _ hfresh, if_neg, hrow]
      rintro rfl
      exact hfresh (List.mem_map.mpr ⟨row, rowOf_mem hrow, rowOf_id hrow⟩)

/-! ## Batches hold different rows -/

/-- What holds of the table and of the batches, whatever the time. -/
structure TableInv (w : LeaseWorld) : Prop where
  unique : (w.rows.map (·.id)).Nodup
  batch : ∀ leaseId batch, (w.phase leaseId).batch? = some batch →
    batch.executions.Nodup ∧ (batch.size : Int) ≤ batch.settings.boundedLimit
  pool : ∀ leaseId batch startedAt timed stage,
    w.phase leaseId = .running batch startedAt timed stage →
      PoolInv batch.size batch.concurrency (fun _ => false) timed.pool

theorem DueBatch.concurrency_pos (batch : DueBatch) : 0 < batch.concurrency := by
  obtain ⟨hpos, -⟩ := batch.settings.concurrency_bounds
  show 0 < batch.settings.reconcileConcurrency.toNat
  omega

theorem DueBatch.executionId_eq {batch : DueBatch} {item : Nat} (h : item < batch.size) :
    batch.executions[item]? = some (batch.executionId item) := by
  rw [executionId, List.getElem?_eq_getElem h, Option.getD_some]

theorem DueBatch.executionId_mem {batch : DueBatch} {item : Nat} (h : item < batch.size) :
    batch.executionId item ∈ batch.executions := List.mem_of_getElem? (executionId_eq h)

/-- The items of a batch are different rows. -/
theorem DueBatch.executionId_inj {batch : DueBatch} {item other : Nat}
    (hnodup : batch.executions.Nodup) (hitem : item < batch.size) (hother : other < batch.size)
    (h : batch.executionId item = batch.executionId other) : item = other := by
  refine (@List.Nodup.getElem_inj_iff _ _ hnodup item hitem other hother).mp ?_
  have hleft := executionId_eq hitem
  have hright := executionId_eq hother
  rw [List.getElem?_eq_getElem hitem] at hleft
  rw [List.getElem?_eq_getElem hother] at hright
  rw [Option.some.inj hleft, Option.some.inj hright, h]

@[simp] theorem LeaseWorld.set_phase_self (w : LeaseWorld) (leaseId : String) (phase : DuePhase) :
    (w.set leaseId phase).phase leaseId = phase := Function.update_self ..

theorem LeaseWorld.set_phase_of_ne (w : LeaseWorld) {leaseId other : String} (phase : DuePhase)
    (h : other ≠ leaseId) : (w.set leaseId phase).phase other = w.phase other :=
  Function.update_of_ne h ..

/-- A move leaves the phase of every other batch. -/
theorem DueStep.phase_other (hs : DueStep w e w') (h : e.actor? ≠ some leaseId) :
    w'.phase leaseId = w.phase leaseId := by
  have hother : ∀ actor phase, e.actor? = some actor →
      (w.set actor phase).phase leaseId = w.phase leaseId := by
    intro actor phase hactor
    refine w.set_phase_of_ne phase ?_
    rintro rfl
    exact h hactor
  cases hs with
  | passed => rfl
  | claimed => exact hother _ _ rfl
  | started => exact hother _ _ rfl
  | ran => exact hother _ _ rfl
  | renewal => exact hother _ _ rfl
  | released => exact hother _ _ rfl
  | crashed => exact hother _ _ rfl
  | written => rfl
  | inserted => rfl

theorem DueEvent.actor_of_item {item : Nat} (h : e.item? = some (leaseId, item)) :
    e.actor? = some leaseId := by
  cases e with
  | renew actor _ _ =>
      obtain ⟨rfl, rfl⟩ := Prod.mk.inj (Option.some.inj h)
      rfl
  | release actor _ =>
      obtain ⟨rfl, rfl⟩ := Prod.mk.inj (Option.some.inj h)
      rfl
  | _ => cases h

/-- A lease stands through the moves of the other batches. -/
theorem HeldUntil.step_other (h : HeldUntil w.rows leaseId id leaseUntil) (hs : DueStep w e w')
    (hunique : (w.rows.map (·.id)).Nodup) (hlive : w.now ≤ leaseUntil)
    (hactor : e.actor? ≠ some leaseId) : HeldUntil w'.rows leaseId id leaseUntil := by
  refine h.step hs hunique hlive ?_
  intro item batch hitem
  exact absurd (DueEvent.actor_of_item hitem) hactor

theorem DueStep.unique (hs : DueStep w e w') (h : (w.rows.map (·.id)).Nodup) :
    (w'.rows.map (·.id)).Nodup := by
  cases hs with
  | claimed =>
      show ((leaseSelected ..).map (·.id)).Nodup
      rwa [ids_leaseSelected]
  | @renewal _ _ _ served =>
      cases served with
      | false => exact h
      | true =>
          show ((renewReconcileLease ..).map (·.id)).Nodup
          rwa [ids_renew]
  | released served =>
      cases served with
      | false => exact h
      | true =>
          show ((releaseReconcileLease ..).map (·.id)).Nodup
          rwa [ids_release]
  | written =>
      show ((writeExecution ..).map (·.id)).Nodup
      rwa [ids_write]
  | inserted req hfresh =>
      show ((insertExecution ..).map (·.id)).Nodup
      rw [insertExecution, List.map_append]
      exact List.nodup_append'.mpr ⟨h, List.nodup_singleton _, by simpa using hfresh⟩
  | _ => exact h

theorem TableInv.step (hi : TableInv w) (hs : DueStep w e w') : TableInv w' := by
  refine ⟨hs.unique hi.unique, ?_, ?_⟩
  · intro l batch hbatch
    by_cases hactor : e.actor? = some l
    · cases hs with
      | @claimed actor settings locked now selected hnew hnow hselected =>
          obtain rfl : actor = l := Option.some.inj hactor
          change ((w.set actor _).phase actor).batch? = some batch at hbatch
          rw [LeaseWorld.set_phase_self] at hbatch
          obtain rfl := Option.some.inj hbatch
          subst hselected
          refine ⟨nodup_selectDue hi.unique, ?_⟩
          have hlength := length_selectDue_le settings.boundedLimit locked now w.rows
          have hbound : settings.boundedLimit = min (max settings.limit 1) 100 := rfl
          show ((selectDue settings.boundedLimit locked now w.rows).length : Int) ≤
            settings.boundedLimit
          omega
      | @started actor other hreading =>
          obtain rfl : actor = l := Option.some.inj hactor
          rw [LeaseWorld.set_phase_self] at hbatch
          obtain rfl := Option.some.inj hbatch
          exact hi.batch actor other (by rw [hreading]; rfl)
      | @ran actor m other startedAt timed timed' stage hrunning =>
          obtain rfl : actor = l := Option.some.inj hactor
          rw [LeaseWorld.set_phase_self] at hbatch
          obtain rfl := Option.some.inj hbatch
          exact hi.batch actor other (by rw [hrunning]; rfl)
      | @renewal actor item now served answer other startedAt timed stage hrunning =>
          obtain rfl : actor = l := Option.some.inj hactor
          change ((w.set actor _).phase actor).batch? = some batch at hbatch
          rw [LeaseWorld.set_phase_self] at hbatch
          obtain rfl := Option.some.inj hbatch
          exact hi.batch actor other (by rw [hrunning]; rfl)
      | @released actor item served other startedAt timed stage hrunning =>
          obtain rfl : actor = l := Option.some.inj hactor
          change ((w.set actor _).phase actor).batch? = some batch at hbatch
          rw [LeaseWorld.set_phase_self] at hbatch
          obtain rfl := Option.some.inj hbatch
          exact hi.batch actor other (by rw [hrunning]; rfl)
      | crashed actor =>
          obtain rfl : actor = l := Option.some.inj hactor
          rw [LeaseWorld.set_phase_self] at hbatch
          cases hbatch
      | _ => cases hactor
    · rw [hs.phase_other hactor] at hbatch
      exact hi.batch l batch hbatch
  · intro l batch startedAt timed stage hphase
    by_cases hactor : e.actor? = some l
    · cases hs with
      | @claimed actor =>
          obtain rfl : actor = l := Option.some.inj hactor
          change (w.set actor _).phase actor = _ at hphase
          rw [LeaseWorld.set_phase_self] at hphase
          cases hphase
      | @started actor =>
          obtain rfl : actor = l := Option.some.inj hactor
          rw [LeaseWorld.set_phase_self] at hphase
          cases hphase
          exact WorkerPool.poolInv_start
      | @ran actor m other startedAt timed timed' stage hrunning hmay hmove =>
          obtain rfl : actor = l := Option.some.inj hactor
          rw [LeaseWorld.set_phase_self] at hphase
          cases hphase
          exact Timed.poolInv_move (hi.pool _ _ _ _ _ hrunning) batch.concurrency_pos hmove
      | @renewal actor item now served answer other startedAt timed stage hrunning =>
          obtain rfl : actor = l := Option.some.inj hactor
          change (w.set actor _).phase actor = _ at hphase
          rw [LeaseWorld.set_phase_self] at hphase
          cases hphase
          exact hi.pool _ _ _ _ _ hrunning
      | @released actor item served other startedAt timed stage hrunning =>
          obtain rfl : actor = l := Option.some.inj hactor
          change (w.set actor _).phase actor = _ at hphase
          rw [LeaseWorld.set_phase_self] at hphase
          cases hphase
          exact hi.pool _ _ _ _ _ hrunning
      | crashed actor =>
          obtain rfl : actor = l := Option.some.inj hactor
          rw [LeaseWorld.set_phase_self] at hphase
          cases hphase
      | _ => cases hactor
    · rw [hs.phase_other hactor] at hphase
      exact hi.pool l batch startedAt timed stage hphase

end Steps

/-! ## One worker at a time -/

/-- Where time passes, runners that are idle have nothing left to take, and no item is worked on for
longer than the lease its worker asks for. -/
def InTime (w : LeaseWorld) (e : DueEvent) : Prop :=
  ∀ elapsed, e = .pass elapsed → ∀ leaseId batch startedAt timed stage,
    w.phase leaseId = .running batch startedAt timed stage →
      timed.pool.Eager batch.size ∧ timed.OnTime batch.settings.itemLeaseMs (w.now + elapsed)

/-- A worker of the batch works on the row. -/
def LeaseWorld.Working (w : LeaseWorld) (leaseId id : String) : Prop :=
  ∃ batch startedAt timed stage item renewedAt,
    w.phase leaseId = .running batch startedAt timed stage ∧
      stage item = .working renewedAt ∧ batch.executionId item = id

/-- The runners keep to the schedule, and a worker's row is under the lease it renewed. -/
structure RunningInv (now : Int) (rows : List LeasedExecution) (leaseId : String) (batch : DueBatch)
    (startedAt : Int) (timed : Timed) (stage : Nat → ItemStage) : Prop where
  schedule : ScheduleInv batch.size batch.concurrency (fun _ => false) startedAt
    batch.settings.itemLeaseMs now timed
  working : ∀ item renewedAt, stage item = .working renewedAt →
    .busy item ∈ timed.pool.runners ∧ timed.takenAt item ≤ renewedAt ∧
      HeldUntil rows leaseId (batch.executionId item) (renewedAt + batch.settings.itemLeaseMs)

/-- What holds of the table, and of every batch that is running. -/
structure LeasesInv (w : LeaseWorld) : Prop where
  table : TableInv w
  running : ∀ leaseId batch startedAt timed stage,
    w.phase leaseId = .running batch startedAt timed stage →
      RunningInv w.now w.rows leaseId batch startedAt timed stage

section Running

variable {w w' : LeaseWorld} {e : DueEvent} {leaseId : String} {batch : DueBatch} {startedAt : Int}
  {timed : Timed} {stage : Nat → ItemStage}

theorem DueSettings.itemLeaseMs_nonneg (settings : DueSettings) : 0 ≤ settings.itemLeaseMs := by
  obtain ⟨hlong, -⟩ := settings.itemLease_bounds
  unfold itemLeaseMs
  omega

/-- The lease of a worker has not run out. -/
theorem RunningInv.live {now : Int} {rows : List LeasedExecution} {item : Nat} {renewedAt : Int}
    (hi : RunningInv now rows leaseId batch startedAt timed stage)
    (h : stage item = .working renewedAt) : now ≤ renewedAt + batch.settings.itemLeaseMs := by
  obtain ⟨hbusy, htaken, -⟩ := hi.working item renewedAt h
  have hontime := hi.schedule.onTime item hbusy
  omega

/-- The running batches keep their invariant where the table keeps the leases that have not run out. -/
theorem RunningInv.frame {now : Int} {rows rows' : List LeasedExecution}
    (hi : RunningInv now rows leaseId batch startedAt timed stage)
    (hrows : ∀ id leaseUntil, now ≤ leaseUntil → HeldUntil rows leaseId id leaseUntil →
      HeldUntil rows' leaseId id leaseUntil) :
    RunningInv now rows' leaseId batch startedAt timed stage := by
  refine ⟨hi.schedule, ?_⟩
  intro item renewedAt hstage
  obtain ⟨hbusy, htaken, hheld⟩ := hi.working item renewedAt hstage
  exact ⟨hbusy, htaken, hrows _ _ (hi.live hstage) hheld⟩

/-- The row a renewal was granted for. -/
theorem heldUntil_renewed {rows : List LeasedExecution} (hunique : (rows.map (·.id)).Nodup) {item : Nat}
    {now : Int} (h : renewed (batch.executionId item) leaseId rows = true) :
    HeldUntil (renewReconcileLease (batch.executionId item) leaseId
      batch.settings.reconcileItemLeaseSeconds now rows) leaseId (batch.executionId item)
      (now + batch.settings.itemLeaseMs) := by
  obtain ⟨row, hrow, hlease⟩ := (renewed_iff hunique).mp h
  refine ⟨row.leased leaseId (now + batch.settings.itemLeaseMs), ?_, rfl, rfl⟩
  obtain ⟨hlong, hshort⟩ := batch.settings.itemLease_bounds
  have hclamp : min (max batch.settings.reconcileItemLeaseSeconds 15) 3600 * 1000 =
      batch.settings.itemLeaseMs := by
    unfold DueSettings.itemLeaseMs
    omega
  rw [rowOf_renew, hrow, Option.map_some, if_pos ⟨rowOf_id hrow, hlease⟩, hclamp]

theorem LeasesInv.step (hi : LeasesInv w) (hintime : InTime w e) (hs : DueStep w e w') :
    LeasesInv w' := by
  have hstep := hs
  have hunique := hi.table.unique
  refine ⟨hi.table.step hs, ?_⟩
  intro l batch startedAt timed stage hphase
  by_cases hactor : e.actor? = some l
  · cases hs with
    | @claimed actor =>
        obtain rfl : actor = l := Option.some.inj hactor
        change (w.set actor _).phase actor = _ at hphase
        rw [LeaseWorld.set_phase_self] at hphase
        cases hphase
    | @started actor =>
        obtain rfl : actor = l := Option.some.inj hactor
        rw [LeaseWorld.set_phase_self] at hphase
        cases hphase
        refine ⟨WorkerPool.scheduleInv_start _, ?_⟩
        intro item renewedAt hstage
        cases hstage
    | @ran actor m _ _ before _ _ hrunning hmay hmove =>
        obtain rfl : actor = l := Option.some.inj hactor
        rw [LeaseWorld.set_phase_self] at hphase
        cases hphase
        have hrun := hi.running _ _ _ _ _ hrunning
        refine ⟨hrun.schedule.move batch.concurrency_pos batch.settings.itemLeaseMs_nonneg hmove, ?_⟩
        intro item renewedAt hstage
        obtain ⟨hbusy, htaken, hheld⟩ := hrun.working item renewedAt hstage
        -- only a runner whose item is released comes back
        have hnot : ∀ r, m = .finish r → before.pool.runners[r]? ≠ some (.busy item) := by
          rintro r rfl hrunner
          simp only [mayMove, hrunner, hstage] at hmay
          cases of_decide_eq_true hmay
        obtain ⟨hbusy', hsame⟩ :=
          Timed.busy_kept hmove hbusy (hrun.schedule.pool.taken item hbusy) hnot
        exact ⟨hbusy', hsame.symm ▸ htaken, hheld⟩
    | @renewal actor renewedItem now served answer _ _ _ before hrunning hbusy hwaiting hsent hnow
        hanswer =>
        obtain rfl : actor = l := Option.some.inj hactor
        change (w.set actor _).phase actor = _ at hphase
        rw [LeaseWorld.set_phase_self] at hphase
        cases hphase
        have hrun := hi.running _ _ _ _ _ hrunning
        refine ⟨hrun.schedule, ?_⟩
        intro item renewedAt hstage
        by_cases hitem : item = renewedItem
        · subst hitem
          rw [Function.update_self] at hstage
          obtain ⟨rfl, rfl⟩ : answer = some true ∧ now = renewedAt := by
            cases answer with
            | none => cases hstage
            | some granted =>
                cases granted with
                | false => cases hstage
                | true => exact ⟨rfl, ItemStage.working.inj hstage⟩
          obtain ⟨rfl, hgranted⟩ := hanswer true rfl
          exact ⟨hbusy, hsent, heldUntil_renewed hunique hgranted.symm⟩
        · rw [Function.update_of_ne hitem] at hstage
          obtain ⟨hbusy', htaken, hheld⟩ := hrun.working item renewedAt hstage
          refine ⟨hbusy', htaken, hheld.step hstep hunique (hrun.live hstage) ?_⟩
          intro other batch' hother hbatch hsame
          cases hother
          rw [hrunning] at hbatch
          cases hbatch
          have hnodup := (hi.table.batch actor batch (by rw [hrunning]; rfl)).1
          have hpool := hrun.schedule.pool
          refine hitem (DueBatch.executionId_inj hnodup ?_ ?_ hsame).symm
          · exact Nat.lt_of_lt_of_le (hpool.taken _ hbusy) hpool.bound
          · exact Nat.lt_of_lt_of_le (hpool.taken _ hbusy') hpool.bound
    | @released actor releasedItem served _ _ _ before hrunning hbusy hdone honce =>
        obtain rfl : actor = l := Option.some.inj hactor
        change (w.set actor _).phase actor = _ at hphase
        rw [LeaseWorld.set_phase_self] at hphase
        cases hphase
        have hrun := hi.running _ _ _ _ _ hrunning
        refine ⟨hrun.schedule, ?_⟩
        intro item renewedAt hstage
        by_cases hitem : item = releasedItem
        · rw [hitem, Function.update_self] at hstage
          cases hstage
        · rw [Function.update_of_ne hitem] at hstage
          obtain ⟨hbusy', htaken, hheld⟩ := hrun.working item renewedAt hstage
          refine ⟨hbusy', htaken, hheld.step hstep hunique (hrun.live hstage) ?_⟩
          intro other batch' hother hbatch hsame
          cases hother
          rw [hrunning] at hbatch
          cases hbatch
          have hnodup := (hi.table.batch actor batch (by rw [hrunning]; rfl)).1
          have hpool := hrun.schedule.pool
          refine hitem (DueBatch.executionId_inj hnodup ?_ ?_ hsame).symm
          · exact Nat.lt_of_lt_of_le (hpool.taken _ hbusy) hpool.bound
          · exact Nat.lt_of_lt_of_le (hpool.taken _ hbusy') hpool.bound
    | crashed actor =>
        obtain rfl : actor = l := Option.some.inj hactor
        rw [LeaseWorld.set_phase_self] at hphase
        cases hphase
    | _ => cases hactor
  · rw [hs.phase_other hactor] at hphase
    have hrun := hi.running l batch startedAt timed stage hphase
    have hrows : ∀ id leaseUntil, w.now ≤ leaseUntil → HeldUntil w.rows l id leaseUntil →
        HeldUntil w'.rows l id leaseUntil :=
      fun id leaseUntil hlive h => h.step_other hs hunique hlive hactor
    cases hs with
    | passed elapsed =>
        obtain ⟨heager, hontime⟩ := hintime elapsed rfl _ _ _ _ _ hphase
        refine ⟨?_, hrun.working⟩
        refine hrun.schedule.pass batch.concurrency_pos batch.settings.itemLeaseMs_nonneg
          (fun _ => rfl) ?_ heager hontime
        show w.now ≤ w.now + elapsed
        omega
    | _ => exact hrun.frame hrows

theorem UnclaimedTable.tableInv (table : UnclaimedTable) (now : Int) :
    TableInv (table.world now) where
  unique := table.unique
  batch := by
    intro leaseId batch hbatch
    cases hbatch
  pool := by
    intro leaseId batch startedAt timed stage hphase
    cases hphase

theorem UnclaimedTable.leasesInv (table : UnclaimedTable) (now : Int) :
    LeasesInv (table.world now) where
  table := table.tableInv now
  running := by
    intro leaseId batch startedAt timed stage hphase
    cases hphase

/-- Two workers on one row are of one batch: its lease has one holder. -/
theorem LeasesInv.exclusive (hi : LeasesInv w) {other id : String} (h : w.Working leaseId id)
    (hother : w.Working other id) : leaseId = other := by
  obtain ⟨_, _, _, _, _, _, hphase, hstage, rfl⟩ := h
  obtain ⟨_, _, _, _, _, _, hphase', hstage', hid⟩ := hother
  obtain ⟨-, -, row, hrow, hlease, -⟩ := (hi.running _ _ _ _ _ hphase).working _ _ hstage
  obtain ⟨-, -, row', hrow', hlease', -⟩ := (hi.running _ _ _ _ _ hphase').working _ _ hstage'
  rw [hid, hrow] at hrow'
  obtain rfl := Option.some.inj hrow'
  exact Option.some.inj (hlease.symm.trans hlease')

end Running

/-! ## None in vain -/

/-- A batch starts within the item lease of its claim, and the time from the claim to the start and from
taking an item to its renewal come to no more than the item lease. -/
def PromptAt (w : LeaseWorld) : Prop :=
  (∀ leaseId batch, w.phase leaseId = .reading batch →
    w.now ≤ batch.claimedAt + batch.settings.itemLeaseMs) ∧
  ∀ leaseId batch startedAt timed stage item,
    w.phase leaseId = .running batch startedAt timed stage → .busy item ∈ timed.pool.runners →
      stage item = .waiting →
        startedAt - batch.claimedAt + (w.now - timed.takenAt item) ≤ batch.settings.itemLeaseMs

/-- The first lease is not cut at an hour. -/
def DueSettings.Uncut (settings : DueSettings) : Prop :=
  settings.reconcileItemLeaseSeconds * settings.rounds ≤ 3600

instance (settings : DueSettings) : Decidable settings.Uncut :=
  inferInstanceAs (Decidable (_ ≤ _))

/-- The end of the lease of the claim. -/
def DueBatch.firstLease (batch : DueBatch) : Int :=
  batch.claimedAt + batch.settings.initialLeaseSeconds * 1000

/-- The items that wait are under the first lease. -/
structure WaitingInv (rows : List LeasedExecution) (leaseId : String) (batch : DueBatch)
    (startedAt : Int) (timed : Timed) (stage : Nat → ItemStage) : Prop where
  started : startedAt ≤ batch.claimedAt + batch.settings.itemLeaseMs
  granted : ∀ item, stage item ≠ .lost
  finished : ∀ item ∈ timed.pool.finished, stage item = .released
  waiting : ∀ item < batch.size, stage item = .waiting →
    HeldUntil rows leaseId (batch.executionId item) batch.firstLease

/-- What holds besides while every batch is prompt: the leases of what it has not taken stand. -/
structure PromptInv (w : LeaseWorld) : Prop where
  leases : LeasesInv w
  reading : ∀ leaseId batch, w.phase leaseId = .reading batch → batch.settings.Uncut →
    ∀ item < batch.size, HeldUntil w.rows leaseId (batch.executionId item) batch.firstLease
  running : ∀ leaseId batch startedAt timed stage,
    w.phase leaseId = .running batch startedAt timed stage → batch.settings.Uncut →
      WaitingInv w.rows leaseId batch startedAt timed stage

section Prompt

variable {w w' : LeaseWorld} {e : DueEvent} {leaseId : String} {batch : DueBatch} {startedAt : Int}
  {timed : Timed} {stage : Nat → ItemStage}

theorem DueBatch.firstLease_eq (h : batch.settings.Uncut) :
    batch.firstLease = batch.claimedAt + batch.settings.itemLeaseMs * batch.settings.rounds := by
  have hcut : batch.settings.initialLeaseSeconds =
      batch.settings.reconcileItemLeaseSeconds * batch.settings.rounds := min_eq_right h
  rw [firstLease, hcut, DueSettings.itemLeaseMs, mul_right_comm]

/-- The first lease covers the round of an item and one more. -/
theorem DueBatch.round_le_firstLease (h : batch.settings.Uncut)
    (hsize : (batch.size : Int) ≤ batch.settings.boundedLimit) {item : Nat} (hitem : item < batch.size) :
    batch.claimedAt + batch.settings.itemLeaseMs +
      batch.settings.itemLeaseMs * (item / batch.concurrency : Nat) ≤ batch.firstLease := by
  have hround : ((item / batch.concurrency : Nat) : Int) + 1 ≤ batch.settings.rounds :=
    batch.settings.round_lt (by omega)
  have hmore := mul_le_mul_of_nonneg_left hround batch.settings.itemLeaseMs_nonneg
  rw [firstLease_eq h]
  rw [mul_add, mul_one] at hmore
  omega

/-- **A waiting item is in time**: its first lease has not run out. -/
theorem WaitingInv.live (hi : WaitingInv w.rows leaseId batch startedAt timed stage)
    (hprompt : PromptAt w) (hphase : w.phase leaseId = .running batch startedAt timed stage)
    (hrun : RunningInv w.now w.rows leaseId batch startedAt timed stage) (h : batch.settings.Uncut)
    (hsize : (batch.size : Int) ≤ batch.settings.boundedLimit) {item : Nat} (hitem : item < batch.size)
    (hwaiting : stage item = .waiting) : w.now ≤ batch.firstLease := by
  have hround := batch.round_le_firstLease h hsize hitem
  rcases Nat.lt_or_ge item timed.pool.cursor with htaken | hleft
  · rcases hrun.schedule.pool.worked item htaken with hfinished | hbusy
    · rw [hi.finished item hfinished] at hwaiting
      cases hwaiting
    · have hsoon := hprompt.2 _ _ _ _ _ item hphase hbusy hwaiting
      have hat := (hrun.schedule.taken item htaken).2
      omega
  · -- not taken yet: the item at the cursor is due in its round, this one no earlier
    have hnext := hrun.schedule.next (by omega)
    have hlater : timed.pool.cursor / batch.concurrency ≤ item / batch.concurrency :=
      Nat.div_le_div_right hleft
    have hmore := mul_le_mul_of_nonneg_left (Int.ofNat_le.mpr hlater)
      batch.settings.itemLeaseMs_nonneg
    have hstarted := hi.started
    omega

theorem reading_live (hprompt : PromptAt w) (hphase : w.phase leaseId = .reading batch)
    (h : batch.settings.Uncut) : w.now ≤ batch.firstLease := by
  have hsoon := hprompt.1 _ _ hphase
  have hmore := mul_le_mul_of_nonneg_left batch.settings.one_le_rounds
    batch.settings.itemLeaseMs_nonneg
  rw [DueBatch.firstLease_eq h]
  omega

theorem WaitingInv.frame {rows rows' : List LeasedExecution}
    (hi : WaitingInv rows leaseId batch startedAt timed stage)
    (hrows : ∀ item < batch.size, stage item = .waiting →
      HeldUntil rows leaseId (batch.executionId item) batch.firstLease →
        HeldUntil rows' leaseId (batch.executionId item) batch.firstLease) :
    WaitingInv rows' leaseId batch startedAt timed stage :=
  ⟨hi.started, hi.granted, hi.finished, fun item hitem hwaiting =>
    hrows item hitem hwaiting (hi.waiting item hitem hwaiting)⟩

theorem PromptInv.step (hi : PromptInv w) (hintime : InTime w e) (hprompt : PromptAt w)
    (hs : DueStep w e w') : PromptInv w' := by
  have hstep := hs
  have hunique := hi.leases.table.unique
  refine ⟨hi.leases.step hintime hs, ?_, ?_⟩
  · intro l batch hphase huncut item hitem
    by_cases hactor : e.actor? = some l
    · cases hs with
      | @claimed actor settings locked now selected hnew hnow hselected =>
          obtain rfl : actor = l := Option.some.inj hactor
          change (w.set actor _).phase actor = _ at hphase
          rw [LeaseWorld.set_phase_self] at hphase
          cases hphase
          have hmem : (⟨settings, selected, now⟩ : DueBatch).executionId item ∈ selected :=
            DueBatch.executionId_mem hitem
          have hdue : (⟨settings, selected, now⟩ : DueBatch).executionId item ∈
              selectDue settings.boundedLimit locked now w.rows := by
            rw [← hselected]
            exact hmem
          obtain ⟨row, hrow, -⟩ := mem_selectDue hunique hdue
          refine ⟨row.leased actor (now + settings.initialLeaseSeconds * 1000), ?_, rfl, rfl⟩
          show rowOf _ (leaseSelected ..) = _
          rw [rowOf_leaseSelected, hrow, Option.map_some, if_pos (by rwa [rowOf_id hrow])]
      | @started actor =>
          obtain rfl : actor = l := Option.some.inj hactor
          rw [LeaseWorld.set_phase_self] at hphase
          cases hphase
      | @ran actor =>
          obtain rfl : actor = l := Option.some.inj hactor
          rw [LeaseWorld.set_phase_self] at hphase
          cases hphase
      | @renewal actor =>
          obtain rfl : actor = l := Option.some.inj hactor
          change (w.set actor _).phase actor = _ at hphase
          rw [LeaseWorld.set_phase_self] at hphase
          cases hphase
      | @released actor =>
          obtain rfl : actor = l := Option.some.inj hactor
          change (w.set actor _).phase actor = _ at hphase
          rw [LeaseWorld.set_phase_self] at hphase
          cases hphase
      | crashed actor =>
          obtain rfl : actor = l := Option.some.inj hactor
          rw [LeaseWorld.set_phase_self] at hphase
          cases hphase
      | _ => cases hactor
    · rw [hs.phase_other hactor] at hphase
      exact (hi.reading l batch hphase huncut item hitem).step_other hs hunique
        (reading_live hprompt hphase huncut) hactor
  · intro l batch startedAt timed stage hphase huncut
    by_cases hactor : e.actor? = some l
    · cases hs with
      | @claimed actor =>
          obtain rfl : actor = l := Option.some.inj hactor
          change (w.set actor _).phase actor = _ at hphase
          rw [LeaseWorld.set_phase_self] at hphase
          cases hphase
      | @started actor _ hreading =>
          obtain rfl : actor = l := Option.some.inj hactor
          rw [LeaseWorld.set_phase_self] at hphase
          cases hphase
          refine ⟨hprompt.1 _ _ hreading, ?_, ?_, ?_⟩
          · intro item hlost
            cases hlost
          · intro item hitem
            cases hitem
          · intro item hitem _
            exact hi.reading actor batch hreading huncut item hitem
      | @ran actor m _ _ before _ _ hrunning hmay hmove =>
          obtain rfl : actor = l := Option.some.inj hactor
          rw [LeaseWorld.set_phase_self] at hphase
          cases hphase
          have hwait := hi.running _ _ _ _ _ hrunning huncut
          refine ⟨hwait.started, hwait.granted, ?_, hwait.waiting⟩
          intro item hitem
          rcases Timed.finished_cases hmove hitem with hbefore | ⟨r, rfl, hrunner⟩
          · exact hwait.finished item hbefore
          · simp only [mayMove, hrunner] at hmay
            exact of_decide_eq_true hmay
      | @renewal actor renewedItem now served answer _ _ _ before hrunning hbusy hwaiting hsent hnow
          hanswer =>
          obtain rfl : actor = l := Option.some.inj hactor
          change (w.set actor _).phase actor = _ at hphase
          rw [LeaseWorld.set_phase_self] at hphase
          cases hphase
          have hwait := hi.running _ _ _ _ _ hrunning huncut
          have hrun := hi.leases.running _ _ _ _ _ hrunning
          obtain ⟨hnodup, hsize⟩ := hi.leases.table.batch actor batch (by rw [hrunning]; rfl)
          have hpool := hrun.schedule.pool
          have hitem : renewedItem < batch.size :=
            Nat.lt_of_lt_of_le (hpool.taken _ hbusy) hpool.bound
          refine ⟨hwait.started, ?_, ?_, ?_⟩
          · intro item
            by_cases hsame : item = renewedItem
            · rw [hsame, Function.update_self]
              cases answer with
              | none => exact fun hlost => by cases hlost
              | some granted =>
                  obtain ⟨row, hrow, hlease, -⟩ := hwait.waiting _ hitem hwaiting
                  have hgranted : granted = true := by
                    rw [(hanswer granted rfl).2]
                    exact (renewed_iff hunique).mpr ⟨row, hrow, hlease⟩
                  rw [hgranted]
                  exact fun hlost => by cases hlost
            · rw [Function.update_of_ne hsame]
              exact hwait.granted item
          · intro item hfinished
            have hreleased := hwait.finished item hfinished
            rw [Function.update_of_ne ?_]
            · exact hreleased
            · rintro rfl
              rw [hwaiting] at hreleased
              cases hreleased
          · intro item hsmall hstage
            by_cases hsame : item = renewedItem
            · rw [hsame, Function.update_self] at hstage
              cases answer with
              | none => cases hstage
              | some granted => cases granted <;> cases hstage
            · rw [Function.update_of_ne hsame] at hstage
              refine (hwait.waiting item hsmall hstage).step hstep hunique
                (hwait.live hprompt hrunning hrun huncut hsize hsmall hstage) ?_
              intro other batch' hother hbatch heq
              cases hother
              rw [hrunning] at hbatch
              cases hbatch
              exact hsame (DueBatch.executionId_inj hnodup hitem hsmall heq).symm
      | @released actor releasedItem served _ _ _ before hrunning hbusy hdone honce =>
          obtain rfl : actor = l := Option.some.inj hactor
          change (w.set actor _).phase actor = _ at hphase
          rw [LeaseWorld.set_phase_self] at hphase
          cases hphase
          have hwait := hi.running _ _ _ _ _ hrunning huncut
          have hrun := hi.leases.running _ _ _ _ _ hrunning
          obtain ⟨hnodup, hsize⟩ := hi.leases.table.batch actor batch (by rw [hrunning]; rfl)
          have hpool := hrun.schedule.pool
          have hitem : releasedItem < batch.size :=
            Nat.lt_of_lt_of_le (hpool.taken _ hbusy) hpool.bound
          refine ⟨hwait.started, ?_, ?_, ?_⟩
          · intro item
            by_cases hsame : item = releasedItem
            · rw [hsame, Function.update_self]
              exact fun hlost => by cases hlost
            · rw [Function.update_of_ne hsame]
              exact hwait.granted item
          · intro item hfinished
            by_cases hsame : item = releasedItem
            · rw [hsame, Function.update_self]
            · rw [Function.update_of_ne hsame]
              exact hwait.finished item hfinished
          · intro item hsmall hstage
            by_cases hsame : item = releasedItem
            · rw [hsame, Function.update_self] at hstage
              cases hstage
            · rw [Function.update_of_ne hsame] at hstage
              refine (hwait.waiting item hsmall hstage).step hstep hunique
                (hwait.live hprompt hrunning hrun huncut hsize hsmall hstage) ?_
              intro other batch' hother hbatch heq
              cases hother
              rw [hrunning] at hbatch
              cases hbatch
              exact hsame (DueBatch.executionId_inj hnodup hitem hsmall heq).symm
      | crashed actor =>
          obtain rfl : actor = l := Option.some.inj hactor
          rw [LeaseWorld.set_phase_self] at hphase
          cases hphase
      | _ => cases hactor
    · rw [hs.phase_other hactor] at hphase
      have hwait := hi.running l batch startedAt timed stage hphase huncut
      have hrun := hi.leases.running l batch startedAt timed stage hphase
      obtain ⟨-, hsize⟩ := hi.leases.table.batch l batch (by rw [hphase]; rfl)
      refine hwait.frame ?_
      intro item hitem hwaiting hheld
      exact hheld.step_other hs hunique
        (hwait.live hprompt hphase hrun huncut hsize hitem hwaiting) hactor

end Prompt

/-! ## Whose claim was the last -/

/-- The batch an event makes the claimer of the row. -/
def DueEvent.claimer? (id : String) : DueEvent → Option String
  | .claim leaseId claimed => if id ∈ claimed then some leaseId else none
  | _ => none

/-- The batch that claimed the row last. -/
def lastClaimer (id : String) (acts : List DueEvent) : Option String :=
  (acts.filterMap (·.claimer? id)).getLast?

theorem lastClaimer_snoc (id : String) (acts : List DueEvent) (e : DueEvent) :
    lastClaimer id (acts ++ [e]) = (e.claimer? id).or (lastClaimer id acts) := by
  unfold lastClaimer
  rw [List.filterMap_append, List.getLast?_append]
  cases h : e.claimer? id with
  | none => rw [List.filterMap_cons_none h, List.filterMap_nil, List.getLast?_nil]
  | some leaseId => rw [List.filterMap_cons_some h, List.filterMap_nil, List.getLast?_singleton]

/-- The row carries the lease of the batch. -/
def OwnedBy (rows : List LeasedExecution) (id leaseId : String) : Prop :=
  ∃ row, rowOf id rows = some row ∧ row.reconcileLeaseId = some leaseId

/-- The worker of the item has released its lease. -/
def DuePhase.Released (item : Nat) : DuePhase → Prop
  | .running _ _ _ stage => stage item = .released
  | _ => False

section Claimers

variable {w w' : LeaseWorld} {e : DueEvent} {id leaseId : String} {acts : List DueEvent}

/-- Only a claim makes an owner. -/
theorem OwnedBy.of_step (hs : DueStep w e w') (h : OwnedBy w'.rows id leaseId) :
    e.claimer? id = some leaseId ∨ e.claimer? id = none ∧ OwnedBy w.rows id leaseId := by
  obtain ⟨row, hrow, hlease⟩ := h
  cases hs with
  | @claimed actor settings locked now selected =>
      change rowOf id (leaseSelected ..) = _ at hrow
      rw [rowOf_leaseSelected, Option.map_eq_some_iff] at hrow
      obtain ⟨before, hbefore, rfl⟩ := hrow
      rw [rowOf_id hbefore] at hlease
      by_cases hmem : id ∈ selected
      · left
        rw [if_pos hmem] at hlease
        exact (if_pos hmem).trans hlease
      · right
        rw [if_neg hmem] at hlease
        exact ⟨if_neg hmem, before, hbefore, hlease⟩
  | @renewal actor item now served =>
      right
      refine ⟨rfl, ?_⟩
      cases served with
      | false => exact ⟨row, hrow, hlease⟩
      | true =>
          change rowOf id (renewReconcileLease ..) = _ at hrow
          rw [rowOf_renew, Option.map_eq_some_iff] at hrow
          obtain ⟨before, hbefore, rfl⟩ := hrow
          refine ⟨before, hbefore, ?_⟩
          split_ifs at hlease with hrenewed
          · exact hrenewed.2.trans hlease
          · exact hlease
  | released served =>
      right
      refine ⟨rfl, ?_⟩
      cases served with
      | false => exact ⟨row, hrow, hlease⟩
      | true =>
          change rowOf id (releaseReconcileLease ..) = _ at hrow
          rw [rowOf_release, Option.map_eq_some_iff] at hrow
          obtain ⟨before, hbefore, rfl⟩ := hrow
          refine ⟨before, hbefore, ?_⟩
          split_ifs at hlease
          · cases hlease
          · exact hlease
  | written =>
      right
      refine ⟨rfl, ?_⟩
      change rowOf id (writeExecution ..) = _ at hrow
      rw [rowOf_write, Option.map_eq_some_iff] at hrow
      obtain ⟨before, hbefore, rfl⟩ := hrow
      refine ⟨before, hbefore, ?_⟩
      split_ifs at hlease <;> exact hlease
  | inserted req hfresh =>
      right
      refine ⟨rfl, ?_⟩
      change rowOf id (insertExecution ..) = _ at hrow
      rw [rowOf_insert _ hfresh] at hrow
      split_ifs at hrow
      · obtain rfl := Option.some.inj hrow
        cases hlease
      · exact ⟨row, hrow, hlease⟩
  | _ => exact Or.inr ⟨rfl, row, hrow, hlease⟩

/-- An owner stays until a claim or its own release. -/
theorem OwnedBy.step (h : OwnedBy w.rows id leaseId) (hs : DueStep w e w')
    (hclaim : e.claimer? id = none)
    (hrelease : ∀ item batch, e = .release leaseId item → (w.phase leaseId).batch? = some batch →
      batch.executionId item ≠ id) : OwnedBy w'.rows id leaseId := by
  obtain ⟨row, hrow, hlease⟩ := h
  cases hs with
  | @claimed actor settings locked now selected =>
      refine ⟨row, ?_, hlease⟩
      have hnot : row.id ∉ selected := by
        intro hmem
        rw [rowOf_id hrow] at hmem
        simp [DueEvent.claimer?, hmem] at hclaim
      show rowOf id (leaseSelected ..) = _
      rw [rowOf_leaseSelected, hrow, Option.map_some, if_neg hnot]
  | @renewal actor item now served =>
      cases served with
      | false => exact ⟨row, hrow, hlease⟩
      | true =>
          refine ⟨_, (rowOf_renew ..).trans (congrArg (Option.map _) hrow), ?_⟩
          dsimp only
          split_ifs with hrenewed
          · exact hrenewed.2.symm.trans hlease
          · exact hlease
  | @released actor item served batch startedAt timed stage hrunning =>
      cases served with
      | false => exact ⟨row, hrow, hlease⟩
      | true =>
          refine ⟨_, (rowOf_release ..).trans (congrArg (Option.map _) hrow), ?_⟩
          dsimp only
          rw [if_neg]
          · exact hlease
          · rintro ⟨hid, hactor⟩
            obtain rfl : leaseId = actor := Option.some.inj (hlease.symm.trans hactor)
            refine hrelease item batch rfl ?_ (hid.symm.trans (rowOf_id hrow))
            rw [hrunning]
            rfl
  | written =>
      refine ⟨_, (rowOf_write ..).trans (congrArg (Option.map _) hrow), ?_⟩
      dsimp only
      split_ifs <;> exact hlease
  | @inserted executionId req hfresh =>
      refine ⟨row, ?_, hlease⟩
      show rowOf id (insertExecution ..) = _
      rw [rowOf_insert _ hfresh, if_neg, hrow]
      rintro rfl
      exact hfresh (List.mem_map.mpr ⟨row, rowOf_mem hrow, rowOf_id hrow⟩)
  | _ => exact ⟨row, hrow, hlease⟩

/-- A row's lease is of its last claimer, who keeps it until it has released it. -/
structure ClaimerInv (acts : List DueEvent) (w : LeaseWorld) : Prop where
  table : TableInv w
  owner : ∀ id leaseId, OwnedBy w.rows id leaseId → lastClaimer id acts = some leaseId
  kept : ∀ leaseId batch item, (w.phase leaseId).batch? = some batch → item < batch.size →
    ¬ (w.phase leaseId).Released item → lastClaimer (batch.executionId item) acts = some leaseId →
      OwnedBy w.rows (batch.executionId item) leaseId

theorem ClaimerInv.step (hi : ClaimerInv acts w) (hs : DueStep w e w') :
    ClaimerInv (acts ++ [e]) w' := by
  have hstep := hs
  refine ⟨hi.table.step hs, ?_, ?_⟩
  · intro id l howned
    rw [lastClaimer_snoc]
    rcases howned.of_step hs with hclaimed | ⟨hclaim, hbefore⟩
    · rw [hclaimed, Option.some_or]
    · rw [hclaim, Option.none_or]
      exact hi.owner id l hbefore
  · intro l batch item hbatch hitem hopen hlast
    rw [lastClaimer_snoc] at hlast
    by_cases hactor : e.actor? = some l
    · cases hs with
      | @claimed actor settings locked now selected hnew hnow hselected =>
          obtain rfl : actor = l := Option.some.inj hactor
          change ((w.set actor _).phase actor).batch? = some batch at hbatch
          rw [LeaseWorld.set_phase_self] at hbatch
          obtain rfl := Option.some.inj hbatch
          have hmem : (⟨settings, selected, now⟩ : DueBatch).executionId item ∈ selected :=
            DueBatch.executionId_mem hitem
          have hdue : (⟨settings, selected, now⟩ : DueBatch).executionId item ∈
              selectDue settings.boundedLimit locked now w.rows := by
            rw [← hselected]
            exact hmem
          obtain ⟨row, hrow, -⟩ := mem_selectDue hi.table.unique hdue
          refine ⟨_, (rowOf_leaseSelected ..).trans (congrArg (Option.map _) hrow), ?_⟩
          dsimp only
          rw [if_pos (by rwa [rowOf_id hrow])]
          rfl
      | @started actor other hreading =>
          obtain rfl : actor = l := Option.some.inj hactor
          rw [LeaseWorld.set_phase_self] at hbatch
          obtain rfl := Option.some.inj hbatch
          refine hi.kept actor other item (by rw [hreading]; rfl) hitem ?_ hlast
          rw [hreading]
          exact id
      | @ran actor m other startedAt timed timed' stage hrunning =>
          obtain rfl : actor = l := Option.some.inj hactor
          rw [LeaseWorld.set_phase_self] at hbatch hopen
          obtain rfl := Option.some.inj hbatch
          refine hi.kept actor other item (by rw [hrunning]; rfl) hitem ?_ hlast
          rw [hrunning]
          exact hopen
      | @renewal actor renewedItem now served answer other startedAt timed stage hrunning hbusy
          hwaiting =>
          obtain rfl : actor = l := Option.some.inj hactor
          change ((w.set actor _).phase actor).batch? = some batch at hbatch
          change ¬ ((w.set actor _).phase actor).Released item at hopen
          rw [LeaseWorld.set_phase_self] at hbatch hopen
          obtain rfl := Option.some.inj hbatch
          have howned := hi.kept actor other item (by rw [hrunning]; rfl) hitem
            (by
              rw [hrunning]
              intro hreleased
              refine hopen ?_
              show Function.update stage renewedItem _ item = _
              rw [Function.update_of_ne, hreleased]
              rintro rfl
              exact absurd (hwaiting.symm.trans hreleased) (by decide)) hlast
          refine howned.step hstep rfl ?_
          intro other' batch' hrelease
          cases hrelease
      | @released actor releasedItem served other startedAt timed stage hrunning hbusy =>
          obtain rfl : actor = l := Option.some.inj hactor
          change ((w.set actor _).phase actor).batch? = some batch at hbatch
          change ¬ ((w.set actor _).phase actor).Released item at hopen
          rw [LeaseWorld.set_phase_self] at hbatch hopen
          obtain rfl := Option.some.inj hbatch
          have hne : item ≠ releasedItem := by
            rintro rfl
            exact hopen (Function.update_self ..)
          have howned := hi.kept actor other item (by rw [hrunning]; rfl) hitem
            (by
              rw [hrunning]
              intro hreleased
              refine hopen ?_
              show Function.update stage releasedItem _ item = _
              rw [Function.update_of_ne hne, hreleased]) hlast
          refine howned.step hstep rfl ?_
          intro other' batch' hrelease hbatch' heq
          cases hrelease
          rw [hrunning] at hbatch'
          cases hbatch'
          have hpool := hi.table.pool _ _ _ _ _ hrunning
          have hnodup := (hi.table.batch actor other (by rw [hrunning]; rfl)).1
          refine hne (DueBatch.executionId_inj hnodup ?_ hitem heq).symm
          exact Nat.lt_of_lt_of_le (hpool.taken _ hbusy) hpool.bound
      | crashed actor =>
          obtain rfl : actor = l := Option.some.inj hactor
          rw [LeaseWorld.set_phase_self] at hbatch
          cases hbatch
      | _ => cases hactor
    · rw [hs.phase_other hactor] at hbatch hopen
      -- the row is not claimed now, or its claimer would be another batch
      have hclaim : e.claimer? (batch.executionId item) = none := by
        cases hclaimer : e.claimer? (batch.executionId item) with
        | none => rfl
        | some other =>
            rw [hclaimer, Option.some_or] at hlast
            obtain rfl := Option.some.inj hlast
            cases e with
            | claim actor claimed =>
                simp only [DueEvent.claimer?] at hclaimer
                split_ifs at hclaimer
                exact absurd hclaimer hactor
            | _ => cases hclaimer
      rw [hclaim, Option.none_or] at hlast
      refine (hi.kept l batch item hbatch hitem hopen hlast).step hs hclaim ?_
      rintro other batch' rfl
      exact absurd rfl hactor

/-- Every lease ends within an hour. -/
def LeasesEnd (w : LeaseWorld) : Prop :=
  ∀ row ∈ w.rows, ∀ leaseUntil, row.execution.reconcileLeaseUntil = some leaseUntil →
    leaseUntil ≤ w.now + 3600 * 1000

theorem LeasesEnd.step (hi : LeasesEnd w) (hs : DueStep w e w') : LeasesEnd w' := by
  cases hs with
  | passed elapsed =>
      intro row hrow leaseUntil huntil
      have hbound := hi row hrow leaseUntil huntil
      show leaseUntil ≤ w.now + elapsed + 3600 * 1000
      omega
  | @claimed actor settings locked now selected hnew hnow =>
      intro row hrow leaseUntil huntil
      obtain ⟨before, hbefore, rfl⟩ := List.mem_map.mp hrow
      split_ifs at huntil
      · obtain rfl := Option.some.inj huntil
        have hcut : settings.initialLeaseSeconds ≤ 3600 := min_le_left _ _
        show now + settings.initialLeaseSeconds * 1000 ≤ w.now + 3600 * 1000
        omega
      · exact hi before hbefore leaseUntil huntil
  | @renewal actor item now served _ batch _ _ _ hrunning _ _ _ hnow =>
      cases served with
      | false => exact hi
      | true =>
          intro row hrow leaseUntil huntil
          obtain ⟨before, hbefore, rfl⟩ := List.mem_map.mp hrow
          split_ifs at huntil
          · obtain rfl := Option.some.inj huntil
            show now + min (max batch.settings.reconcileItemLeaseSeconds 15) 3600 * 1000 ≤
              w.now + 3600 * 1000
            omega
          · exact hi before hbefore leaseUntil huntil
  | released served =>
      cases served with
      | false => exact hi
      | true =>
          intro row hrow leaseUntil huntil
          obtain ⟨before, hbefore, rfl⟩ := List.mem_map.mp hrow
          split_ifs at huntil
          · cases huntil
          · exact hi before hbefore leaseUntil huntil
  | @written executionId old op view db t hold hdb hcommit =>
      intro row hrow leaseUntil huntil
      obtain ⟨before, hbefore, rfl⟩ := List.mem_map.mp hrow
      split_ifs at huntil
      · change t.execution.reconcileLeaseUntil = _ at huntil
        rw [Op.commit_keeps_lease hcommit, hdb] at huntil
        exact hi old (rowOf_mem hold) leaseUntil huntil
      · exact hi before hbefore leaseUntil huntil
  | inserted req hfresh =>
      intro row hrow leaseUntil huntil
      rcases List.mem_append.mp hrow with hbefore | hnew
      · exact hi row hbefore leaseUntil huntil
      · rw [List.mem_singleton] at hnew
        subst hnew
        cases huntil
  | _ => exact hi

end Claimers

/-! ## Every run -/

/-- **Reconciliation leases** over every interleaving of batches and of writes to their rows.  A renewal
is granted exactly if no other batch has claimed the row since; a lease ends within an hour.  Where no
item is worked on for longer than its lease, two workers are never on one row.  And where renewals are
prompt besides, a batch whose first lease was not cut at an hour has every renewal granted. -/
theorem reconcile_leases {table : UnclaimedTable} {now : Int} {acts : List DueEvent} {w : LeaseWorld}
    (h : Run DueStep (table.world now) acts w) :
    (∀ leaseId item granted w', DueStep w (.renew leaseId item (some granted)) w' →
      ∃ batch, (w.phase leaseId).batch? = some batch ∧
        (granted = true ↔ lastClaimer (batch.executionId item) acts = some leaseId)) ∧
    LeasesEnd w ∧
    (Run (Runs.when InTime DueStep) (table.world now) acts w →
      ∀ leaseId other id, w.Working leaseId id → w.Working other id → leaseId = other) ∧
    (Run (Runs.when (fun w e => InTime w e ∧ PromptAt w) DueStep) (table.world now) acts w →
      ∀ leaseId batch startedAt timed stage item,
        w.phase leaseId = .running batch startedAt timed stage → batch.settings.Uncut →
          stage item ≠ .lost) := by
  refine ⟨?_, ?_, ?_, ?_⟩
  · have hi : ClaimerInv acts w := by
      refine h.history ClaimerInv ⟨table.tableInv now, ?_, ?_⟩ ?_
      · rintro id leaseId ⟨row, hrow, hlease⟩
        rw [(table.free row (rowOf_mem hrow)).1] at hlease
        cases hlease
      · intro leaseId batch item hbatch
        cases hbatch
      · intro as s a t _ hi hs
        exact hi.step hs
    intro leaseId item granted w' hs
    cases hs with
    | @renewal _ _ _ served _ batch startedAt timed stage hrunning hbusy hwaiting _ _ hanswer =>
        have hbatch : (w.phase leaseId).batch? = some batch := by
          rw [hrunning]
          rfl
        refine ⟨batch, hbatch, ?_⟩
        rw [(hanswer granted rfl).2, renewed_iff hi.table.unique]
        constructor
        · exact hi.owner _ _
        · have hpool := hi.table.pool _ _ _ _ _ hrunning
          refine hi.kept leaseId batch item hbatch ?_ ?_
          · exact Nat.lt_of_lt_of_le (hpool.taken _ hbusy) hpool.bound
          · rw [hrunning]
            show stage item ≠ .released
            rw [hwaiting]
            decide
  · refine h.inv LeasesEnd ?_ fun _ _ _ hi hs => hi.step hs
    intro row hrow leaseUntil huntil
    rw [(table.free row hrow).2] at huntil
    cases huntil
  · intro hintime leaseId other id
    have hi : LeasesInv w :=
      hintime.inv LeasesInv (table.leasesInv now) fun _ _ _ hi hs => hi.step hs.1 hs.2
    exact hi.exclusive
  · intro hprompt leaseId batch startedAt timed stage item hphase huncut
    have hi : PromptInv w := by
      refine hprompt.inv PromptInv ⟨table.leasesInv now, ?_, ?_⟩
        fun _ _ _ hi hs => hi.step hs.1.1 hs.1.2 hs.2
      · intro leaseId batch hphase
        cases hphase
      · intro leaseId batch startedAt timed stage hphase
        cases hphase
    exact (hi.running _ _ _ _ _ hphase huncut).granted item

/-! ## A run -/

/-- A row that is due. -/
def dueRow : LeasedExecution where
  id := "x"
  execution :=
    { (serviceCreateIntent (Scenario.create .committed)).execution with nextReconcileAt := some 0 }
  reconcileLeaseId := none

/-- A table with one row, which is due. -/
def dueTable : UnclaimedTable where
  rows := [dueRow]
  unique := List.nodup_singleton _
  free := by
    intro row hrow
    obtain rfl := List.mem_singleton.mp hrow
    exact ⟨rfl, rfl⟩

/-- The defaults of a batch. -/
def dueSettings : DueSettings where
  limit := 25
  concurrency := none
  rpcTimeoutMs := none

/-- Two batches: the second finds the row claimed. -/
def overlappingBatches : List DueEvent :=
  [.claim "a" ["x"], .start "a", .runner "a" (.take 0), .pass 1000, .claim "b" [],
    .renew "a" 0 (some true)]

/-- The batch that claims the row, and the one that finds none. -/
def claimingBatch : DueBatch := ⟨dueSettings, ["x"], 0⟩

/-- A batch that found nothing due. -/
def emptyBatch : DueBatch := ⟨dueSettings, [], 1000⟩

/-- The runner of the first batch holds its item, taken at the start. -/
def busyTimed : WorkerPool.Timed where
  pool := ⟨1, [.busy 0], [0], [], none⟩
  takenAt := Function.update (fun _ => 0) 0 0

/-- What `PromptAt` asks of one batch. -/
def DuePhase.Prompt (now : Int) : DuePhase → Prop
  | .reading batch => now ≤ batch.claimedAt + batch.settings.itemLeaseMs
  | .running batch startedAt timed stage => ∀ item, .busy item ∈ timed.pool.runners →
      stage item = .waiting →
        startedAt - batch.claimedAt + (now - timed.takenAt item) ≤ batch.settings.itemLeaseMs
  | _ => True

theorem promptAt_of_phases {w : LeaseWorld} (h : ∀ leaseId, (w.phase leaseId).Prompt w.now) :
    PromptAt w := by
  constructor
  · intro leaseId batch hphase
    have hprompt := h leaseId
    rw [hphase] at hprompt
    exact hprompt
  · intro leaseId batch startedAt timed stage item hphase
    have hprompt := h leaseId
    rw [hphase] at hprompt
    exact hprompt item

theorem prompt_set {w : LeaseWorld} {leaseId : String} {phase : DuePhase} {now : Int}
    (h : ∀ other, (w.phase other).Prompt now) (hphase : phase.Prompt now) (other : String) :
    ((w.set leaseId phase).phase other).Prompt now := by
  show (Function.update w.phase leaseId phase other).Prompt now
  rw [Function.update_apply]
  split
  · exact hphase
  · exact h other

/-- The item has been worked on for a second at most. -/
theorem busyTimed_prompt {now : Int} (hnow : now ≤ 1000) :
    (DuePhase.running claimingBatch 0 busyTimed fun _ => .waiting).Prompt now := by
  have htaken : busyTimed.takenAt = fun _ => 0 := Function.update_eq_self 0 _
  have hlease : claimingBatch.settings.itemLeaseMs = 120000 := by decide
  intro item _ _
  rw [htaken, hlease]
  show 0 - 0 + (now - 0) ≤ 120000
  omega

/-- The second passes in time: no runner is idle, and the item has its lease. -/
theorem busyTimed_inTime {w : LeaseWorld} (hnow : w.now = 0)
    (hphases : ∀ leaseId, w.phase leaseId = .unborn ∨
      w.phase leaseId = .running claimingBatch 0 busyTimed fun _ => .waiting) :
    InTime w (.pass 1000) := by
  rintro elapsed ⟨⟩ leaseId batch startedAt timed stage hphase
  rcases hphases leaseId with hunborn | hrunning
  · rw [hunborn] at hphase
    cases hphase
  · obtain ⟨rfl, rfl, rfl, rfl⟩ := DuePhase.running.inj (hrunning.symm.trans hphase)
    have htaken : busyTimed.takenAt = fun _ => 0 := Function.update_eq_self 0 _
    refine ⟨fun _ => by decide, fun item _ => ?_⟩
    rw [htaken, hnow]
    show (0 : Int) + (1000 : Nat) ≤ 0 + claimingBatch.settings.itemLeaseMs
    decide

/-- The run keeps to its times. -/
theorem overlappingBatches_run : ∃ w,
    Run (Runs.when (fun w e => InTime w e ∧ PromptAt w) DueStep) (dueTable.world 0)
      overlappingBatches w ∧
    w.phase "a" = .running claimingBatch 0 busyTimed
      (Function.update (fun _ => .waiting) 0 (.working 1000)) := by
  have hquiet : ∀ {w : LeaseWorld} {e : DueEvent}, (∀ elapsed, e ≠ .pass elapsed) → InTime w e :=
    fun hother elapsed heq => absurd heq (hother elapsed)
  let claimed : LeaseWorld :=
    { (dueTable.world 0).set "a" (.reading claimingBatch) with
      rows := leaseSelected ["x"] "a" dueSettings.initialLeaseSeconds 0 [dueRow] }
  let started := claimed.set "a" (.running claimingBatch 0 (claimingBatch.timed 0) fun _ => .waiting)
  let taken := started.set "a" (.running claimingBatch 0 busyTimed fun _ => .waiting)
  let passed : LeaseWorld := { taken with now := 0 + 1000 }
  let joined := passed.set "b" (.reading emptyBatch)
  have hunborn : ∀ leaseId, ((dueTable.world 0).phase leaseId).Prompt 0 := fun _ => trivial
  have hclaimed : ∀ leaseId, (claimed.phase leaseId).Prompt 0 :=
    prompt_set hunborn (show (0 : Int) ≤ 0 + _ by decide)
  have hstarted : ∀ leaseId, (started.phase leaseId).Prompt 0 := by
    refine prompt_set hclaimed fun item hbusy => ?_
    cases List.eq_of_mem_replicate hbusy
  have htaken : ∀ leaseId, (taken.phase leaseId).Prompt 0 :=
    prompt_set hstarted (busyTimed_prompt (by decide))
  have hphases : ∀ leaseId, taken.phase leaseId = .unborn ∨
      taken.phase leaseId = .running claimingBatch 0 busyTimed fun _ => .waiting := by
    intro leaseId
    by_cases hsame : leaseId = "a"
    · subst hsame
      exact Or.inr rfl
    · left
      simp [taken, started, claimed, LeaseWorld.set, UnclaimedTable.world, hsame]
  have hpassed : ∀ leaseId, (passed.phase leaseId).Prompt (0 + 1000) := by
    intro leaseId
    rcases hphases leaseId with hphase | hphase
    · rw [show passed.phase leaseId = _ from hphase]
      trivial
    · rw [show passed.phase leaseId = _ from hphase]
      exact busyTimed_prompt (by decide)
  have hjoined : ∀ leaseId, (joined.phase leaseId).Prompt (0 + 1000) :=
    prompt_set hpassed (show (1000 : Int) ≤ 1000 + _ by decide)
  have hrun : Run (Runs.when (fun w e => InTime w e ∧ PromptAt w) DueStep) (dueTable.world 0)
      overlappingBatches _ :=
    .next (.next (.next (.next (.next (.next .start
      ⟨⟨hquiet (by simp), promptAt_of_phases hunborn⟩,
        @DueStep.claimed _ "a" dueSettings [] 0 _ rfl (by decide) (by decide +kernel)⟩)
      ⟨⟨hquiet (by simp), promptAt_of_phases hclaimed⟩, @DueStep.started claimed "a" claimingBatch rfl⟩)
      ⟨⟨hquiet (by simp), promptAt_of_phases hstarted⟩,
        @DueStep.ran started "a" (.take 0) claimingBatch 0 _ busyTimed _ rfl rfl rfl⟩)
      ⟨⟨busyTimed_inTime rfl hphases, promptAt_of_phases htaken⟩, .passed 1000⟩)
      ⟨⟨hquiet (by simp), promptAt_of_phases hpassed⟩,
        @DueStep.claimed passed "b" dueSettings [] 1000 _ rfl (by decide +kernel) (by decide +kernel)⟩)
      ⟨⟨hquiet (by simp), promptAt_of_phases hjoined⟩,
        @DueStep.renewal _ "a" 0 1000 true _ claimingBatch 0 busyTimed _ rfl (by decide +kernel) rfl
          (by decide +kernel) (by decide +kernel)
          (by
            intro granted hgranted
            obtain rfl := Option.some.inj hgranted
            exact ⟨rfl, by decide +kernel⟩)⟩
  exact ⟨_, hrun, rfl⟩

/-- Two batches at once: one worker on the row, and its renewal is granted. -/
theorem reconcile_leases_overlapping :
    ∃ w, Run DueStep (dueTable.world 0) overlappingBatches w ∧
      (∀ leaseId item granted w', DueStep w (.renew leaseId item (some granted)) w' →
        ∃ batch, (w.phase leaseId).batch? = some batch ∧
          (granted = true ↔
            lastClaimer (batch.executionId item) overlappingBatches = some leaseId)) ∧
      LeasesEnd w ∧ w.Working "a" "x" ∧
      (∀ leaseId other id, w.Working leaseId id → w.Working other id → leaseId = other) ∧
      ∀ item, (Function.update (fun _ => ItemStage.waiting) 0 (.working 1000)) item ≠ .lost := by
  obtain ⟨w, hprompt, hphase⟩ := overlappingBatches_run
  have hrun : Run DueStep (dueTable.world 0) overlappingBatches w := hprompt.mono fun _ _ _ hs => hs.2
  have hintime : Run (Runs.when InTime DueStep) (dueTable.world 0) overlappingBatches w :=
    hprompt.mono fun _ _ _ hs => ⟨hs.1.1, hs.2⟩
  obtain ⟨hrenewals, hend, hexclusive, hgranted⟩ := reconcile_leases hrun
  exact ⟨w, hrun, hrenewals, hend, ⟨_, _, _, _, 0, 1000, hphase, Function.update_self .., rfl⟩,
    hexclusive hintime, fun item => hgranted hprompt "a" _ _ _ _ item hphase (by decide)⟩

end CellFlow
