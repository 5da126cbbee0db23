/-
# CellFlow.Properties.WorkflowClaims — a workflow run ends its own claim only.

Completing does not say which claim it means, and the handler of a failed start releases the claim
also where the run has begun.  Where a run completes under its own claim, or under no other young one,
and no young live run loses its claim to that handler, every young claim stays in the row
(`ClaimInv`), and at most one young run is live.
-/
import CellFlow.Lib.Runs
import CellFlow.Web.WorkflowStart

namespace CellFlow

open Runs (Run when)

/-! ## Young claims -/

namespace WorkflowWorld

variable (w : WorkflowWorld)

/-- The claim is younger than 24 hours. -/
def Young (call : StartCall) : Prop := w.clock < call.claimedAt + workflowStaleMs

instance (call : StartCall) : Decidable (w.Young call) :=
  inferInstanceAs (Decidable (_ < _))

/-- The run of the call is live, and its claim young. -/
def YoungRun (uuid : String) : Prop :=
  ∃ call, w.calls uuid = some call ∧ call.isLive = true ∧ w.Young call

/-- The call has a young claim that a run lives under, or may yet begin under. -/
def YoungClaim (uuid : String) : Prop :=
  ∃ call, w.calls uuid = some call ∧ (call.isPending = true ∨ call.isLive = true) ∧ w.Young call

/-- The row is under the claim of the call. -/
def Names (uuid : String) : Prop :=
  ∃ call id, w.calls uuid = some call ∧ w.row.workflowRunId = some id ∧ call.names uuid id

/-- The run begun under the call. -/
def runIdOf (uuid : String) : Option String := (w.calls uuid).bind fun call => call.run.map (·.1)

end WorkflowWorld

/-- A completion finds its own claim in the row, or no young claim but its own is left; a release takes
the claim of no young run that lives. -/
def OwnClaim (w : WorkflowWorld) : WorkflowMove → Prop
  | .complete uuid _ => w.Names uuid ∨ ∀ other, other ≠ uuid → ¬ w.YoungClaim other
  | .release uuid => w.row.workflowRunId = some (.starting uuid) → ¬ w.YoungRun uuid
  | _ => True

/-- The row is under the claim of the call, as the call has made it. -/
structure HoldsClaim (row : WorkflowColumns) (uuid : String) (call : StartCall) : Prop where
  named : ∃ id, row.workflowRunId = some id ∧ call.names uuid id
  since : row.workflowStartedAt = some call.claimedAt
  unfinished : row.workflowCompletedAt = none

/-! ## What a move does -/

/-- What becomes of a call: the claim and the run are the same, and no more alive. -/
structure StartCall.Follows (call call' : StartCall) : Prop where
  claimedAt : call'.claimedAt = call.claimedAt
  runId : call'.run.map (·.1) = call.run.map (·.1)
  live : call'.isLive = true → call.isLive = true
  pending : call'.isPending = true → call.isPending = true

/-- The changes a move can make. -/
inductive ClaimChange (w : WorkflowWorld) : WorkflowMove → WorkflowWorld → Prop where
  | ticked {now : Int} (hnow : w.clock ≤ now) : ClaimChange w (.tick now) { w with clock := now }
  | refused {uuid : String} {now : Int} (hnew : w.calls uuid = none) :
      ClaimChange w (.claim uuid now) (w.setCall uuid ⟨.refused, now, none⟩)
  | claimed {uuid : String} {now : Int} (hnew : w.calls uuid = none) (hnow : now ≤ w.clock)
      (hfree : w.row.claimable now = true) :
      ClaimChange w (.claim uuid now)
        ({ w with row := ⟨some (.starting uuid), some now, none⟩ }.setCall uuid
          ⟨.starting, now, none⟩)
  | began {uuid runId : String} {claimedAt : Int}
      (hcall : w.calls uuid = some ⟨.starting, claimedAt, none⟩) (hnew : runId ∉ w.runIds) :
      ClaimChange w (.begin uuid runId)
        ({ w with runIds := runId :: w.runIds }.setCall uuid
          ⟨.starting, claimedAt, some (runId, .looping 0)⟩)
  | kept {m : WorkflowMove} {uuid : String} {call call' : StartCall}
      (hactor : m.actor = some uuid) (hcall : w.calls uuid = some call)
      (hfollows : call.Follows call') : ClaimChange w m (w.setCall uuid call')
  | replaced {m : WorkflowMove} {uuid runId : String} {call call' : StartCall}
      (hactor : m.actor = some uuid) (hcall : w.calls uuid = some call)
      (hfollows : call.Follows call') (hrun : call.run.map (·.1) = some runId)
      (hrow : w.row.workflowRunId = some (.starting uuid)) :
      ClaimChange w m
        ({ w with row := { w.row with workflowRunId := some (.run runId) } }.setCall uuid call')
  | released {uuid : String} {call call' : StartCall} (hcall : w.calls uuid = some call)
      (hfollows : call.Follows call') (hover : call'.isPending = false)
      (hrow : w.row.workflowRunId = some (.starting uuid)) :
      ClaimChange w (.release uuid)
        ({ w with row := { w.row with workflowRunId := none, workflowStartedAt := none } }.setCall
          uuid call')
  | completed {uuid : String} {now : Int} {call call' : StartCall}
      (hcall : w.calls uuid = some call) (hfollows : call.Follows call')
      (hover : call'.isPending = false) (hdone : call'.isLive = false) :
      ClaimChange w (.complete uuid now)
        ({ w with row := markWorkflowCompleted now w.row }.setCall uuid call')

/-- A call that goes on to another phase. -/
theorem follows_phase {phase phase' : StartPhase} {claimedAt : Int}
    {run : Option (String × RunPhase)} (h : phase' ≠ .starting) :
    StartCall.Follows ⟨phase, claimedAt, run⟩ ⟨phase', claimedAt, run⟩ where
  claimedAt := rfl
  runId := rfl
  live := id
  pending := by
    intro hpending
    simp [StartCall.isPending, h] at hpending

/-- A run that goes on to another phase. -/
theorem follows_run {phase : StartPhase} {claimedAt : Int} {runId : String}
    {runPhase runPhase' : RunPhase} (h : runPhase'.isLive = true → runPhase.isLive = true) :
    StartCall.Follows ⟨phase, claimedAt, some (runId, runPhase)⟩
      ⟨phase, claimedAt, some (runId, runPhase')⟩ where
  claimedAt := rfl
  runId := rfl
  live := h
  pending := id

/-- **What a move does.** -/
theorem move_claimChange {w w' : WorkflowWorld} {m : WorkflowMove} (h : WorkflowStep w m w') :
    ClaimChange w m w' := by
  unfold WorkflowStep at h
  cases m with
  | tick now =>
      simp only [WorkflowWorld.move] at h
      split_ifs at h with hnow
      obtain rfl := Option.some.inj h
      exact .ticked hnow
  | claim uuid now =>
      simp only [WorkflowWorld.move] at h
      by_cases hready : w.calls uuid = none ∧ now ≤ w.clock
      · rw [if_pos hready] at h
        obtain rfl := Option.some.inj h
        by_cases hfree : w.row.claimable now = true
        · rw [claimWorkflowStart, if_pos hfree]
          exact .claimed hready.1 hready.2 hfree
        · rw [claimWorkflowStart, if_neg hfree]
          exact .refused hready.1
      · rw [if_neg hready] at h
        cases h
  | readCurrent uuid =>
      simp only [WorkflowWorld.move] at h
      split at h
      next claimedAt run hcall =>
        obtain rfl := Option.some.inj h
        exact .kept rfl hcall (follows_phase (by simp))
      · cases h
  | begin uuid runId =>
      simp only [WorkflowWorld.move] at h
      split at h
      next claimedAt hcall =>
        split_ifs at h with hnew
        obtain rfl := Option.some.inj h
        exact .began hcall hnew
      · cases h
  | replace uuid answered =>
      simp only [WorkflowWorld.move] at h
      split at h
      next claimedAt run hcall =>
        obtain rfl := Option.some.inj h
        have hfollows : StartCall.Follows ⟨.starting, claimedAt, some run⟩
            ⟨if answered then .returned run.1 else .failing, claimedAt, some run⟩ :=
          follows_phase (by split <;> simp)
        by_cases hrow : w.row.workflowRunId = some (.starting uuid)
        · rw [replaceWorkflowClaim, if_pos hrow]
          exact .replaced rfl hcall hfollows rfl hrow
        · rw [replaceWorkflowClaim, if_neg hrow]
          exact .kept rfl hcall hfollows
      · cases h
  | fail uuid =>
      simp only [WorkflowWorld.move] at h
      split at h
      next claimedAt run hcall =>
        obtain rfl := Option.some.inj h
        exact .kept rfl hcall (follows_phase (by simp))
      · cases h
  | release uuid =>
      simp only [WorkflowWorld.move] at h
      split at h
      next claimedAt run hcall =>
        obtain rfl := Option.some.inj h
        unfold releaseWorkflowClaim
        split_ifs with hrow
        · exact .released hcall (follows_phase (by simp)) rfl hrow
        · exact .kept rfl hcall (follows_phase (by simp))
      · cases h
  | crash uuid =>
      simp only [WorkflowWorld.move] at h
      split at h
      next phase claimedAt run hcall =>
        split_ifs at h with hover
        obtain rfl := Option.some.inj h
        exact .kept rfl hcall (follows_phase (by simp))
      · cases h
  | reconcile uuid terminal =>
      simp only [WorkflowWorld.move] at h
      split at h
      next phase claimedAt runId iterations hcall =>
        obtain rfl := Option.some.inj h
        exact .kept rfl hcall (follows_run fun _ => rfl)
      · cases h
  | complete uuid now =>
      simp only [WorkflowWorld.move] at h
      split at h
      next phase claimedAt runId runPhase hcall =>
        split_ifs at h with hready
        obtain rfl := Option.some.inj h
        refine .completed hcall (follows_run fun hlive => ?_) ?_ rfl
        · cases hlive
        · simp [StartCall.isPending]
      · cases h
  | die uuid =>
      simp only [WorkflowWorld.move] at h
      split at h
      next phase claimedAt runId runPhase hcall =>
        obtain rfl := Option.some.inj h
        refine .kept rfl hcall (follows_run fun hlive => ?_)
        cases hlive
      · cases h

/-! ## The invariant -/

/-- Every young claim is in the row; a run id belongs to one call. -/
structure ClaimInv (w : WorkflowWorld) : Prop where
  held : ∀ uuid call, w.calls uuid = some call → call.isPending = true ∨ call.isLive = true →
    w.Young call → HoldsClaim w.row uuid call
  known : ∀ uuid runId, w.runIdOf uuid = some runId → runId ∈ w.runIds
  distinct : ∀ uuid other runId, w.runIdOf uuid = some runId → w.runIdOf other = some runId →
    uuid = other

variable {w w' : WorkflowWorld} {m : WorkflowMove} {uuid other : String} {call call' : StartCall}

theorem setCall_self (h : (w.setCall uuid call).calls uuid = some call') : call' = call := by
  have hself : (w.setCall uuid call).calls uuid = some call := Function.update_self ..
  exact Option.some.inj (h.symm.trans hself)

theorem runIdOf_setCall (v : String) :
    (w.setCall uuid call).runIdOf v =
      if v = uuid then call.run.map (·.1) else w.runIdOf v := by
  unfold WorkflowWorld.runIdOf
  by_cases hv : v = uuid
  · subst hv
    simp [WorkflowWorld.setCall]
  · simp [WorkflowWorld.setCall, hv]

theorem names_iff {id : WorkflowRunId} :
    call.names uuid id ↔ id = .starting uuid ∨ ∃ runId, call.run.map (·.1) = some runId ∧
      id = .run runId := by
  unfold StartCall.names
  simp only [Option.map_eq_some_iff, ← exists_and_right]
  simp

theorem HoldsClaim.follows {row : WorkflowColumns} (h : HoldsClaim row uuid call)
    (hfollows : call.Follows call') : HoldsClaim row uuid call' := by
  obtain ⟨id, hid, hnames⟩ := h.named
  refine ⟨⟨id, hid, ?_⟩, ?_, h.unfinished⟩
  · rw [names_iff, hfollows.runId]
    exact names_iff.mp hnames
  · rw [hfollows.claimedAt]
    exact h.since

/-- **One claim in the row**: two calls whose claims the row holds are one call. -/
theorem ClaimInv.one_name (hi : ClaimInv w) (hcall : w.calls uuid = some call)
    (hother : w.calls other = some call') {id : WorkflowRunId} (h : call.names uuid id)
    (h' : call'.names other id) : uuid = other := by
  rw [names_iff] at h h'
  rcases h with rfl | ⟨runId, hrun, rfl⟩
  · rcases h' with hsame | ⟨_, -, hrun⟩
    · exact WorkflowRunId.starting.inj hsame
    · cases hrun
  · rcases h' with hstart | ⟨runId', hrun', hsame⟩
    · cases hstart
    · obtain rfl := WorkflowRunId.run.inj hsame
      refine hi.distinct uuid other runId ?_ ?_
      · rw [WorkflowWorld.runIdOf, hcall]
        exact hrun
      · rw [WorkflowWorld.runIdOf, hother]
        exact hrun'

/-- A claim is refused while the row holds a young one. -/
theorem not_claimable {row : WorkflowColumns} {now : Int} (h : HoldsClaim row uuid call)
    (hnow : now < call.claimedAt + workflowStaleMs) : row.claimable now = false := by
  obtain ⟨id, hid, -⟩ := h.named
  simp only [WorkflowColumns.claimable, hid, h.since, h.unfinished, Option.isNone_some,
    Option.isSome_none, Option.any_some, Bool.or_false, Bool.false_or, decide_eq_false_iff_not]
  omega

theorem runIdOf_follows (hcall : w.calls uuid = some call) (hfollows : call.Follows call')
    (w' : WorkflowWorld) (hcalls : w'.calls = w.calls) (v : String) :
    (w'.setCall uuid call').runIdOf v = w.runIdOf v := by
  rw [runIdOf_setCall]
  split_ifs with hv
  · subst hv
    rw [hfollows.runId, WorkflowWorld.runIdOf, hcall]
    rfl
  · rw [WorkflowWorld.runIdOf, WorkflowWorld.runIdOf, hcalls]

theorem runIdOf_new (hnew : w.calls uuid = none) (hrun : call.run = none) (w' : WorkflowWorld)
    (hcalls : w'.calls = w.calls) (v : String) :
    (w'.setCall uuid call).runIdOf v = w.runIdOf v := by
  rw [runIdOf_setCall]
  split_ifs with hv
  · subst hv
    rw [hrun, WorkflowWorld.runIdOf, hnew]
    rfl
  · rw [WorkflowWorld.runIdOf, WorkflowWorld.runIdOf, hcalls]

/-- The run ids: the engine gives out a new one, or they stay. -/
theorem ClaimChange.runIds (h : ClaimChange w m w') :
    (∀ v, w'.runIdOf v = w.runIdOf v) ∧ w'.runIds = w.runIds ∨
      ∃ uuid runId, runId ∉ w.runIds ∧ w'.runIds = runId :: w.runIds ∧
        ∀ v, w'.runIdOf v = if v = uuid then some runId else w.runIdOf v := by
  cases h with
  | ticked hnow => exact Or.inl ⟨fun _ => rfl, rfl⟩
  | refused hnew => exact Or.inl ⟨runIdOf_new hnew rfl _ rfl, rfl⟩
  | claimed hnew hnow hfree => exact Or.inl ⟨runIdOf_new hnew rfl _ rfl, rfl⟩
  | began hcall hnew => exact Or.inr ⟨_, _, hnew, rfl, runIdOf_setCall⟩
  | kept hactor hcall hfollows => exact Or.inl ⟨runIdOf_follows hcall hfollows _ rfl, rfl⟩
  | replaced hactor hcall hfollows hrun hrow =>
      exact Or.inl ⟨runIdOf_follows hcall hfollows _ rfl, rfl⟩
  | released hcall hfollows hover hrow =>
      exact Or.inl ⟨runIdOf_follows hcall hfollows _ rfl, rfl⟩
  | completed hcall hfollows hover hdone =>
      exact Or.inl ⟨runIdOf_follows hcall hfollows _ rfl, rfl⟩

/-- **Run ids stay apart.** -/
theorem ClaimInv.runIds_step (hi : ClaimInv w) (h : ClaimChange w m w') :
    (∀ uuid runId, w'.runIdOf uuid = some runId → runId ∈ w'.runIds) ∧
      ∀ uuid other runId, w'.runIdOf uuid = some runId → w'.runIdOf other = some runId →
        uuid = other := by
  rcases h.runIds with ⟨hsame, hids⟩ | ⟨u, newId, hnew, hids, hcases⟩
  · simp only [hsame, hids]
    exact ⟨hi.known, hi.distinct⟩
  · simp only [hcases, hids]
    constructor
    · intro v runId hv
      split_ifs at hv with hvu
      · obtain rfl := Option.some.inj hv
        exact List.mem_cons_self
      · exact List.mem_cons_of_mem _ (hi.known v runId hv)
    · intro v other runId hv hother
      split_ifs at hv hother with hvu hou hou
      · exact hvu.trans hou.symm
      · obtain rfl := Option.some.inj hv
        exact absurd (hi.known other _ hother) hnew
      · obtain rfl := Option.some.inj hother
        exact absurd (hi.known v _ hv) hnew
      · exact hi.distinct v other runId hv hother

/-- A row under the claim of one call is under no other's. -/
theorem ClaimInv.row_not_other (hi : ClaimInv w) (hcall : w.calls uuid = some call)
    (hrow : w.row.workflowRunId = some (.starting uuid)) (hother : w.calls other = some call')
    (hne : other ≠ uuid) : ¬ HoldsClaim w.row other call' := by
  intro hholds
  obtain ⟨id, hid, hnames⟩ := hholds.named
  obtain rfl := Option.some.inj (hrow.symm.trans hid)
  exact hne (hi.one_name hother hcall hnames (Or.inl rfl))

/-- A move is about its actor's call only. -/
theorem ClaimChange.frame (h : ClaimChange w m w') (hactor : m.actor = some uuid)
    (hne : other ≠ uuid) : w'.calls other = w.calls other ∧ w'.clock = w.clock := by
  have hset : ∀ (w₁ : WorkflowWorld) (u : String) (d : StartCall), some u = some uuid →
      (w₁.setCall u d).calls other = w₁.calls other := by
    intro w₁ u d hu
    obtain rfl := Option.some.inj hu
    exact Function.update_of_ne hne ..
  cases h with
  | ticked hnow => cases hactor
  | refused hnew => exact ⟨hset _ _ _ hactor, rfl⟩
  | claimed hnew hnow hfree => exact ⟨hset _ _ _ hactor, rfl⟩
  | began hcall hnew => exact ⟨hset _ _ _ hactor, rfl⟩
  | kept hactor' hcall hfollows => exact ⟨hset _ _ _ (hactor'.symm.trans hactor), rfl⟩
  | replaced hactor' hcall hfollows hrun hrow =>
      exact ⟨hset _ _ _ (hactor'.symm.trans hactor), rfl⟩
  | released hcall hfollows hover hrow => exact ⟨hset _ _ _ hactor, rfl⟩
  | completed hcall hfollows hover hdone => exact ⟨hset _ _ _ hactor, rfl⟩

/-- **The row is spared**: while another call has a young claim, a move leaves the row as it is. -/
theorem ClaimInv.row_spared (hi : ClaimInv w) (h : ClaimChange w m w') (hown : OwnClaim w m)
    (hactor : m.actor = some uuid) (hne : other ≠ uuid) (hcall : w.calls other = some call)
    (hactive : call.isPending = true ∨ call.isLive = true) (hyoung : w.Young call) :
    w'.row = w.row := by
  have hholds := hi.held other call hcall hactive hyoung
  cases h with
  | ticked hnow => rfl
  | refused hnew => rfl
  | began hcall' hnew => rfl
  | kept hactor' hcall' hfollows => rfl
  | @claimed u now hnew hnow hfree =>
      -- the statement's `now` is not later than the clock, so the claim it meets is young to it too
      have hlt : w.clock < call.claimedAt + workflowStaleMs := hyoung
      rw [not_claimable hholds (show now < call.claimedAt + workflowStaleMs by omega)] at hfree
      cases hfree
  | replaced hactor' hcall' hfollows hrun hrow =>
      obtain rfl := Option.some.inj (hactor'.symm.trans hactor)
      exact absurd hholds (hi.row_not_other hcall' hrow hcall hne)
  | released hcall' hfollows hover hrow =>
      obtain rfl := Option.some.inj hactor
      exact absurd hholds (hi.row_not_other hcall' hrow hcall hne)
  | completed hcall' hfollows hover hdone =>
      obtain rfl := Option.some.inj hactor
      -- the row names one call: the completing one, or the other whose young claim is still there
      rcases hown with hnames | hnone
      · obtain ⟨call₀, id, hcall₀, hid, hname⟩ := hnames
        obtain ⟨id', hid', hname'⟩ := hholds.named
        obtain rfl := Option.some.inj (hid.symm.trans hid')
        exact absurd (hi.one_name hcall hcall₀ hname' hname) hne
      · exact absurd ⟨call, hcall, hactive, hyoung⟩ (hnone other hne)

/-- The actor's own claim stays in the row as long as it is young and something may live under it. -/
theorem ClaimInv.held_own (hi : ClaimInv w) (h : ClaimChange w m w') (hown : OwnClaim w m)
    (hself : ∀ u, m.actor = some u → u = uuid) (hcall' : w'.calls uuid = some call')
    (hactive : call'.isPending = true ∨ call'.isLive = true) (hyoung : w'.Young call') :
    HoldsClaim w'.row uuid call' := by
  have hlt : w'.clock < call'.claimedAt + workflowStaleMs := hyoung
  cases h with
  | ticked hnow =>
      exact hi.held uuid call' hcall' hactive (Int.lt_of_le_of_lt hnow hlt)
  | refused hnew =>
      obtain rfl := hself _ rfl
      obtain rfl := setCall_self hcall'
      simp [StartCall.isPending, StartCall.isLive] at hactive
  | claimed hnew hnow hfree =>
      obtain rfl := hself _ rfl
      obtain rfl := setCall_self hcall'
      exact ⟨⟨_, rfl, Or.inl rfl⟩, rfl, rfl⟩
  | began hcall hnew =>
      obtain rfl := hself _ rfl
      obtain rfl := setCall_self hcall'
      -- before its run begins a call is named by its own token only
      have hholds := hi.held _ _ hcall (Or.inl rfl) hlt
      obtain ⟨id, hid, hnames⟩ := hholds.named
      refine ⟨⟨id, hid, ?_⟩, hholds.since, hholds.unfinished⟩
      rcases hnames with hstart | ⟨run, hrun, -⟩
      · exact Or.inl hstart
      · cases hrun
  | kept hactor hcall hfollows =>
      obtain rfl := hself _ hactor
      obtain rfl := setCall_self hcall'
      rw [hfollows.claimedAt] at hlt
      exact (hi.held _ _ hcall (hactive.imp hfollows.pending hfollows.live) hlt).follows hfollows
  | @replaced _ _ runId _ _ hactor hcall hfollows hrun hrow =>
      obtain rfl := hself _ hactor
      obtain rfl := setCall_self hcall'
      rw [hfollows.claimedAt] at hlt
      have hholds := hi.held _ _ hcall (hactive.imp hfollows.pending hfollows.live) hlt
      refine ⟨⟨_, rfl, ?_⟩, ?_, hholds.unfinished⟩
      · rw [names_iff, hfollows.runId]
        exact Or.inr ⟨runId, hrun, rfl⟩
      · rw [hfollows.claimedAt]
        exact hholds.since
  | @released _ call _ hcall hfollows hover hrow =>
      obtain rfl := hself _ rfl
      obtain rfl := setCall_self hcall'
      rw [hfollows.claimedAt] at hlt
      rw [hover] at hactive
      -- the call is over, so only its run can live; the condition excludes that
      rcases hactive with hpending | hlive
      · cases hpending
      · exact absurd ⟨call, hcall, hfollows.live hlive, hlt⟩ (hown hrow)
  | completed hcall hfollows hover hdone =>
      obtain rfl := hself _ rfl
      obtain rfl := setCall_self hcall'
      rw [hover, hdone] at hactive
      rcases hactive with h | h <;> cases h

/-- **Young claims stay in the row.** -/
theorem ClaimInv.held_step (hi : ClaimInv w) (h : ClaimChange w m w') (hown : OwnClaim w m)
    (v : String) (d : StartCall) (hv : w'.calls v = some d)
    (hactive : d.isPending = true ∨ d.isLive = true) (hyoung : w'.Young d) :
    HoldsClaim w'.row v d := by
  by_cases hother : ∃ u, m.actor = some u ∧ v ≠ u
  · obtain ⟨u, hactor, hne⟩ := hother
    obtain ⟨hcalls, hclock⟩ := h.frame hactor hne
    have hyoung₀ : w.Young d := by
      show w.clock < d.claimedAt + workflowStaleMs
      rw [← hclock]
      exact hyoung
    rw [hcalls] at hv
    rw [hi.row_spared h hown hactor hne hv hactive hyoung₀]
    exact hi.held v d hv hactive hyoung₀
  · refine hi.held_own h hown (fun u hu => ?_) hv hactive hyoung
    by_contra hne
    exact hother ⟨u, hu, fun hvu => hne hvu.symm⟩

theorem ClaimInv.step (hi : ClaimInv w) (h : ClaimChange w m w') (hown : OwnClaim w m) :
    ClaimInv w' where
  held := hi.held_step h hown
  known := (hi.runIds_step h).1
  distinct := (hi.runIds_step h).2

theorem claimInv_quiet (row : WorkflowColumns) (clock : Int) : ClaimInv (quietWorld row clock) where
  held := by
    intro uuid call hcall
    cases hcall
  known := by
    intro uuid runId hrun
    cases hrun
  distinct := by
    intro uuid other runId hrun
    cases hrun

theorem claimInv_run {row : WorkflowColumns} {clock : Int} {moves : List WorkflowMove}
    (h : Run (when OwnClaim WorkflowStep) (quietWorld row clock) moves w) : ClaimInv w :=
  Run.inv ClaimInv (claimInv_quiet row clock)
    (fun _ _ _ hi hs => hi.step (move_claimChange hs.2) hs.1) h

/-! ## One young run -/

/-- The move leaves the claims of the other live runs as they are, where they are young. -/
def SparesOthers (w : WorkflowWorld) (m : WorkflowMove) (w' : WorkflowWorld) : Prop :=
  ∀ uuid other call, m.actor = some uuid → other ≠ uuid → w.calls other = some call →
    call.isLive = true → w.Young call →
      w'.calls other = some call ∧ w'.row = w.row ∧ HoldsClaim w'.row other call

theorem ClaimInv.spares (hi : ClaimInv w) (h : ClaimChange w m w') (hown : OwnClaim w m) :
    SparesOthers w m w' := by
  intro uuid other call hactor hne hcall hlive hyoung
  have hrow := hi.row_spared h hown hactor hne hcall (Or.inr hlive) hyoung
  refine ⟨?_, hrow, ?_⟩
  · rw [(h.frame hactor hne).1, hcall]
  · rw [hrow]
    exact hi.held other call hcall (Or.inr hlive) hyoung

theorem ClaimInv.one_youngRun (hi : ClaimInv w) (h : w.YoungRun uuid) (h' : w.YoungRun other) :
    uuid = other := by
  obtain ⟨call, hcall, hlive, hyoung⟩ := h
  obtain ⟨call', hcall', hlive', hyoung'⟩ := h'
  obtain ⟨id, hid, hnames⟩ := (hi.held uuid call hcall (Or.inr hlive) hyoung).named
  obtain ⟨id', hid', hnames'⟩ := (hi.held other call' hcall' (Or.inr hlive') hyoung').named
  obtain rfl := Option.some.inj (hid.symm.trans hid')
  exact hi.one_name hcall hcall' hnames hnames'

/-- A run that completes under a young claim completes under its own. -/
theorem ClaimInv.own_of_young (hi : ClaimInv w) (h : w.YoungRun uuid) (now : Int) :
    OwnClaim w (.complete uuid now) := by
  obtain ⟨call, hcall, hlive, hyoung⟩ := h
  obtain ⟨id, hid, hnames⟩ := (hi.held uuid call hcall (Or.inr hlive) hyoung).named
  exact Or.inl ⟨call, id, hcall, hid, hnames⟩

/-- Runs that complete within 24 hours, once, and starts that fail before a run has begun. -/
def Timely (w : WorkflowWorld) : WorkflowMove → Prop
  | .complete uuid _ => w.YoungRun uuid
  | .release uuid => w.runIdOf uuid = none
  | _ => True

theorem ClaimInv.own_of_timely (hi : ClaimInv w) (h : Timely w m) : OwnClaim w m := by
  cases m with
  | complete uuid now => exact hi.own_of_young h now
  | release uuid =>
      rintro - ⟨call, hcall, hlive, -⟩
      have hnone : call.run = none := by
        have hrun : w.runIdOf uuid = none := h
        rw [WorkflowWorld.runIdOf, hcall] at hrun
        exact Option.map_eq_none_iff.mp hrun
      rw [StartCall.isLive, hnone] at hlive
      cases hlive
  | _ => exact trivial

/-- Where every run is timely, every step finds its own claim. -/
theorem own_of_timely_run {row : WorkflowColumns} {clock : Int} {moves : List WorkflowMove}
    (h : Run (when Timely WorkflowStep) (quietWorld row clock) moves w) :
    Run (when OwnClaim WorkflowStep) (quietWorld row clock) moves w := by
  induction h with
  | start => exact .start
  | next _ hstep ih => exact .next ih ⟨(claimInv_run ih).own_of_timely hstep.1, hstep.2⟩

/-- **A workflow run only ends its own claim**: where every step so far finds its own claim, at most one
young run is live, and the next such step spares the claims of the others. -/
theorem workflow_runs_end_own_claims (row : WorkflowColumns) (clock : Int)
    {moves : List WorkflowMove}
    (h : Run (when OwnClaim WorkflowStep) (quietWorld row clock) moves w) :
    (∀ uuid other, w.YoungRun uuid → w.YoungRun other → uuid = other) ∧
      ∀ m w', OwnClaim w m → WorkflowStep w m w' → SparesOthers w m w' := by
  have hi := claimInv_run h
  constructor
  · intro uuid other hrun hother
    exact hi.one_youngRun hrun hother
  · intro m w' hown hstep
    exact hi.spares (move_claimChange hstep) hown

/-- An execution whose row nobody has claimed. -/
def unclaimedRow : WorkflowColumns := ⟨none, none, none⟩

/-- A run that is started, and completes in time. -/
theorem workflow_runs_end_own_claims_once :
    ∃ moves w, Run (when OwnClaim WorkflowStep) (quietWorld unclaimedRow 0) moves w ∧
      w.row.workflowCompletedAt = some 0 ∧
      (∀ uuid other, w.YoungRun uuid → w.YoungRun other → uuid = other) ∧
      ∀ m w', OwnClaim w m → WorkflowStep w m w' → SparesOthers w m w' := by
  have hclaimed : Run (when OwnClaim WorkflowStep) (quietWorld unclaimedRow 0) [.claim "a" 0] _ :=
    .single ⟨trivial, rfl⟩
  have hbegun := hclaimed.next (a := WorkflowMove.begin "a" "run-a") ⟨trivial, rfl⟩
  have hreplaced := hbegun.next (a := WorkflowMove.replace "a" true) ⟨trivial, rfl⟩
  have hlooped := hreplaced.next (a := WorkflowMove.reconcile "a" true) ⟨trivial, rfl⟩
  have hcompleted := hlooped.next (a := WorkflowMove.complete "a" 0)
    ⟨Or.inl ⟨⟨.returned "run-a", 0, some ("run-a", .completing)⟩, .run "run-a", rfl, rfl,
      Or.inr ⟨_, rfl, rfl⟩⟩, rfl⟩
  exact ⟨_, _, hcompleted, rfl, workflow_runs_end_own_claims unclaimedRow 0 hcompleted⟩

/-! ## Where it fails -/

/-- The computed steps. -/
def runMoves (w : WorkflowWorld) (moves : List WorkflowMove) : Option WorkflowWorld :=
  moves.foldlM WorkflowWorld.move w

theorem run_of_runMoves {moves : List WorkflowMove} (h : runMoves w moves = some w') :
    Run WorkflowStep w moves w' :=
  Run.of_foldlM moves h

/-- Run `a` outlives its claim; `b` claims the row 25 hours later and starts. -/
def outlivedClaim : List WorkflowMove :=
  [.claim "a" 0, .begin "a" "run-a", .replace "a" true, .tick 90000000, .claim "b" 90000000,
    .begin "b" "run-b", .replace "b" true, .reconcile "a" true]

/-- A third call claims the row and starts. -/
def thirdCall : List WorkflowMove :=
  [.claim "c" 90000000, .begin "c" "run-c", .replace "c" true]

/-- Run `a` completes, and with it the young claim of `b`; then `b` and `c` live side by side. -/
theorem late_completion_ends_young_claim :
    ∃ w w' w'', Run WorkflowStep (quietWorld unclaimedRow 0) outlivedClaim w ∧
      WorkflowStep w (.complete "a" 90000000) w' ∧
      ¬ SparesOthers w (.complete "a" 90000000) w' ∧
      Run WorkflowStep w' thirdCall w'' ∧ w''.YoungRun "b" ∧ w''.YoungRun "c" := by
  refine ⟨_, _, _, run_of_runMoves rfl, rfl, ?_, run_of_runMoves rfl, ?_, ?_⟩
  · intro hspares
    obtain ⟨-, hrow, -⟩ := hspares "a" "b" _ rfl (by decide) rfl rfl (by decide)
    exact absurd (congrArg WorkflowColumns.workflowCompletedAt hrow) (by decide)
  · exact ⟨_, rfl, rfl, by decide⟩
  · exact ⟨_, rfl, rfl, by decide⟩

/-- The replacement of a claim fails after the run has begun: the claim is released under the live run,
and a second call starts another. -/
theorem release_after_begin_admits_second_run :
    ∃ moves w, Run WorkflowStep (quietWorld unclaimedRow 0) moves w ∧ w.YoungRun "a" ∧
      w.YoungRun "b" := by
  refine ⟨[.claim "a" 0, .begin "a" "run-a", .fail "a", .release "a", .claim "b" 0,
    .begin "b" "run-b"], _, run_of_runMoves rfl, ?_, ?_⟩
  · exact ⟨_, rfl, rfl, by decide⟩
  · exact ⟨_, rfl, rfl, by decide⟩

end CellFlow
