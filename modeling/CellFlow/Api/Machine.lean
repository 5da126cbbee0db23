/-
# CellFlow.Api.Machine — requests and reconciliations in any interleaving.

The database transactions of every request and every reconciliation are the steps of one machine.
Each step works from a view, which may be any state the store has had, and commits a new store or
nothing.  Rows are guarded by the version: a step that writes the execution or the intent row has read
exactly the rows it writes over (`Op.current_of_guarded`).  A request run alone, and a reconciliation
with its candidate scan, are runs of this machine (`serviceReconcile_run`).
-/
import CellFlow.Lib.Runs
import CellFlow.Lib.Optimistic
import CellFlow.Api.Service
import CellFlow.Reconcile.Reconcile

namespace CellFlow

open Js (Json)
open Optimistic (World Evolves)
open Runs (Run)

/-! ## Operations -/

/-- The transactions the service and the reconciler issue. -/
inductive Op where
  | attach (req : AttachRequest) (freshId : String) (now : Int)
  | mark (req : MarkRequest) (now : Int)
  | observe (env : ReconcileEnv)
  | probe (env : ReconcileEnv) (index : Nat)
  | preflight (verified : Bool) (reason : String) (rawObservation : Json) (now : Int)
  | operatorNote (text : String) (now : Int)

/-- The store an operation commits from a view; `none` where it fails or has nothing to write.  The
events of the store stand in commit order; their sequence numbers are those of
`CellFlow.Api.EventLog`. -/
def Op.commit (view : IntentAggregate) (db : Store) : Op → Option Store
  | .attach req freshId now =>
      match req.normalize with
      | .error _ => none
      | .ok normalized => (attachAttempt normalized view freshId now db).toOption
  | .mark req now =>
      match req.guard with
      | .error _ => none
      | .ok () => (markAttempt req view now db).toOption
  | .observe env =>
      match view.execution.txHash with
      | none => none
      | some txHash => ((reconcileProjection env view txHash db).toOption).map (·.1)
  | .probe env index =>
      match (rivals view)[index]? with
      | none => none
      | some candidate =>
          match judgeCandidate env view candidate with
          | .failed => none
          | .update input => some (updateCandidateAttempt input db)
          | .promote input => (promoteAttemptProjection input db).toOption
  | .preflight verified reason rawObservation now =>
      let status := deriveOverallStatus (snapshotFromExecution view.execution)
      some (appendEvent view
        (if verified then .inputPreflightVerified else .inputPreflightFailed) status status reason
        (some rawObservation) now db)
  | .operatorNote text now => some (addOperatorNote view text now db)

theorem toOption_eq_some {ε α : Type} {x : Except ε α} {a : α} (h : x.toOption = some a) :
    x = .ok a := by
  cases x with
  | error e => cases h
  | ok b => exact congrArg _ (Option.some.inj h)

/-! ## What each operation commits -/

section Commits

variable {view : IntentAggregate} {db t : Store}

theorem Op.attach_commit {req : AttachRequest} {freshId : String} {now : Int}
    (h : (Op.attach req freshId now).commit view db = some t) :
    ∃ normalized, req.normalize = .ok normalized ∧
      attachAttempt normalized view freshId now db = .ok t := by
  simp only [commit] at h
  split at h
  · cases h
  next normalized hn => exact ⟨normalized, hn, toOption_eq_some h⟩

/-- What an attach writes: the store of a repository call on the view, whichever attempt row it
ends in. -/
theorem Op.attach_writes {req : AttachRequest} {freshId : String} {now : Int}
    (h : (Op.attach req freshId now).commit view db = some t) :
    ∃ normalized after attemptId number attempts, req.normalize = .ok normalized ∧
      updateSubmission
          (if view.execution.txHash.isSome ∧ view.execution.txHash ≠ some normalized.txHash then
            initialSnapshot view.execution.confirmationPolicy
          else snapshotFromExecution view.execution) normalized.submissionStatus = .ok after ∧
      db.execution.version = view.execution.version ∧ t.execution.violation = none ∧
      (normalized.input view freshId now (snapshotFromExecution view.execution)
        after).replacementGuard = .ok () ∧
      t = (normalized.input view freshId now (snapshotFromExecution view.execution)
        after).attachedStore db attemptId number attempts := by
  obtain ⟨normalized, hn, ha⟩ := Op.attach_commit h
  obtain ⟨after, -, hafter, hw⟩ := attachAttempt_ok ha
  obtain ⟨hguard, hversion, hfits, ⟨_, _, -, -, -, ht⟩ | ⟨-, -, ht⟩⟩ := attachTransaction_ok hw
  · exact ⟨normalized, after, _, _, _, hn, hafter, hversion, hfits, hguard, ht⟩
  · exact ⟨normalized, after, _, _, _, hn, hafter, hversion, hfits, hguard, ht⟩

theorem Op.mark_commit {req : MarkRequest} {now : Int}
    (h : (Op.mark req now).commit view db = some t) :
    req.guard = .ok () ∧ markAttempt req view now db = .ok t := by
  simp only [commit] at h
  split at h
  · cases h
  next hg => exact ⟨hg, toOption_eq_some h⟩

theorem Op.observe_commit {env : ReconcileEnv} (h : (Op.observe env).commit view db = some t) :
    ∃ txHash result, view.execution.txHash = some txHash ∧
      reconcileProjection env view txHash db = .ok (t, result) := by
  simp only [commit] at h
  split at h
  · cases h
  next txHash htx =>
    obtain ⟨⟨db', result⟩, hp, rfl⟩ := Option.map_eq_some_iff.mp h
    exact ⟨txHash, result, htx, toOption_eq_some hp⟩

theorem Op.probe_commit {env : ReconcileEnv} {index : Nat}
    (h : (Op.probe env index).commit view db = some t) :
    ∃ candidate, (rivals view)[index]? = some candidate ∧
      ((∃ input, judgeCandidate env view candidate = .update input ∧
        t = updateCandidateAttempt input db) ∨
      (∃ input, judgeCandidate env view candidate = .promote input ∧
        promoteAttemptProjection input db = .ok t)) := by
  simp only [commit] at h
  split at h
  · cases h
  next candidate hindex =>
    refine ⟨candidate, hindex, ?_⟩
    split at h
    · cases h
    next input hj => exact Or.inl ⟨input, hj, (Option.some.inj h).symm⟩
    next input hj => exact Or.inr ⟨input, hj, toOption_eq_some h⟩

/-! ## The version guard -/

/-- The guarded rows. -/
def guardedRows (db : Store) : ExecutionRecord × IntentRecord := (db.execution, db.intent)

/-- The version of the execution row, which every guarded update compares. -/
def rowVersion (db : Store) : Nat := db.execution.version

/-- A projection step commits the store of one `applySnapshot`. -/
theorem reconcileProjection_writes {env : ReconcileEnv} {txHash : String} {result : ReconcileResult}
    (h : reconcileProjection env view txHash db = .ok (t, result)) :
    ∃ input : ApplyInput, input.aggregate = view ∧ t = input.appliedStore db := by
  obtain ⟨-, -, ⟨_, _, -, -, rfl, -⟩ | ⟨_, _, -, -, rfl, -⟩⟩ := reconcileProjection_ok h
  · exact ⟨_, rfl, rfl⟩
  · exact ⟨_, rfl, rfl⟩

/-- An accepted promotion is the store it writes. -/
theorem promoteAttemptProjection_ok {input : PromoteInput}
    (h : promoteAttemptProjection input db = .ok t) :
    db.execution.version = input.aggregate.execution.version ∧ t.execution.violation = none ∧
      t = input.promotedStore db := by
  obtain ⟨rfl, hversion, hfits⟩ := Store.transact_ok h
  exact ⟨hversion, hfits, rfl⟩

/-- The store of a promotion verdict promotes from the view it was judged on. -/
theorem judgeCandidate_promote {env : ReconcileEnv} {candidate : TransactionAttemptRecord}
    {input : PromoteInput} (h : judgeCandidate env view candidate = .promote input) :
    ∃ observed applied, env.observeCandidate candidate.txHash = .ok observed ∧
      observed.observation.status = .committed ∧ candidateMismatch env candidate observed = none ∧
      applyChainObservation (candidateBase view candidate) observed.observation = .ok applied ∧
      input.aggregate = view ∧ input.attempt = candidate ∧ input.snapshot = applied.snapshot ∧
      input.eventKind =
        if applied.snapshot.workflowStatus = .confirmed then .competingAttemptConfirmed
        else .competingAttemptCommitted := by
  unfold judgeCandidate at h
  split at h
  · cases h
  next observed hobserved =>
    simp only at h
    split at h
    · split at h <;> cases h
    next hstatus =>
      split at h
      · cases h
      next hmismatch =>
        split at h
        · cases h
        next applied happ =>
          cases h
          exact ⟨observed, applied, hobserved, not_not.mp hstatus, hmismatch, happ, rfl, rfl, rfl,
            rfl⟩

/-- The snapshot an answer that does not promote leaves of a candidate: a COMMITTED one shows another
signed payload. -/
def probedSnapshot (view : IntentAggregate) (candidate : TransactionAttemptRecord)
    (o : ChainObservation) : ExecutionSnapshot :=
  if o.status = .committed then conflictedSnapshot (candidateBase view candidate)
  else observedSnapshot (candidateBase view candidate) o

/-- An update verdict comes from an answer that does not promote. -/
theorem judgeCandidate_update {env : ReconcileEnv} {candidate : TransactionAttemptRecord}
    {input : CandidateInput} (h : judgeCandidate env view candidate = .update input) :
    ∃ observed, env.observeCandidate candidate.txHash = .ok observed ∧
      ¬ (observed.observation.status = .committed ∧
        candidateMismatch env candidate observed = none) ∧
      input.attemptId = candidate.id ∧
      input.snapshot = probedSnapshot view candidate observed.observation := by
  unfold judgeCandidate at h
  split at h
  · cases h
  next observed hobserved =>
    simp only at h
    refine ⟨observed, hobserved, ?_⟩
    split at h
    next hstatus =>
      split at h
      · cases h
      next side happ =>
        cases h
        refine ⟨fun hboth => hstatus hboth.1, rfl, ?_⟩
        rw [probedSnapshot, if_neg hstatus]
        exact (applyChainObservation_ok happ).1
    next hstatus =>
      rw [not_not] at hstatus
      split at h
      next hmismatch =>
        cases h
        refine ⟨fun hboth => ?_, rfl, ?_⟩
        · rw [hboth.2] at hmismatch
          cases hmismatch
        · rw [probedSnapshot, if_pos hstatus]
      · split at h <;> cases h

/-- **The version guard**: an operation either read the version it writes over and raises it, or
leaves the guarded rows. -/
theorem Op.commit_guarded {op : Op} (h : op.commit view db = some t) :
    (db.execution.version = view.execution.version ∧ rowVersion t = rowVersion db + 1) ∨
      guardedRows t = guardedRows db := by
  cases op with
  | attach req freshId now =>
      obtain ⟨_, _, _, _, _, -, -, hversion, -, -, rfl⟩ := Op.attach_writes h
      exact Or.inl ⟨hversion, by simp [rowVersion]⟩
  | mark req now =>
      obtain ⟨-, hm⟩ := Op.mark_commit h
      obtain ⟨after, -, -, hversion, -, rfl⟩ := markAttempt_ok hm
      exact Or.inl ⟨hversion, rfl⟩
  | observe env =>
      obtain ⟨txHash, result, -, hp⟩ := Op.observe_commit h
      obtain ⟨input, -, rfl⟩ := reconcileProjection_writes hp
      exact Or.inl ⟨(reconcileProjection_ok hp).1, rfl⟩
  | probe env index =>
      obtain ⟨candidate, -, ⟨input, -, rfl⟩ | ⟨input, hj, hp⟩⟩ := Op.probe_commit h
      · exact Or.inr rfl
      · obtain ⟨hversion, -, rfl⟩ := promoteAttemptProjection_ok hp
        obtain ⟨_, _, -, -, -, -, hagg, -⟩ := judgeCandidate_promote hj
        rw [hagg] at hversion
        exact Or.inl ⟨hversion, rfl⟩
  | preflight verified reason rawObservation now =>
      cases h
      exact Or.inr rfl
  | operatorNote text now =>
      cases h
      exact Or.inr rfl

theorem Op.commit_evolves {op : Op} (h : op.commit view db = some t) :
    Evolves rowVersion guardedRows db t := by
  rcases Op.commit_guarded h with ⟨-, hup⟩ | hrows
  · exact Or.inl hup
  · refine Or.inr ⟨?_, hrows⟩
    rw [guardedRows, guardedRows, Prod.mk.injEq] at hrows
    rw [rowVersion, rowVersion, hrows.1]

/-- **Every operation appends** to the log. -/
theorem Op.commit_appends {op : Op} (h : op.commit view db = some t) :
    ∃ written, t.events = db.events ++ written := by
  cases op with
  | attach req freshId now =>
      obtain ⟨_, _, _, _, _, -, -, -, -, -, rfl⟩ := Op.attach_writes h
      exact ⟨_, rfl⟩
  | mark req now =>
      obtain ⟨_, -, -, -, -, rfl⟩ := markAttempt_ok (Op.mark_commit h).2
      exact ⟨_, rfl⟩
  | observe env =>
      obtain ⟨_, _, -, hp⟩ := Op.observe_commit h
      obtain ⟨_, -, rfl⟩ := reconcileProjection_writes hp
      exact ⟨_, rfl⟩
  | probe env index =>
      obtain ⟨_, -, ⟨_, -, rfl⟩ | ⟨_, -, hp⟩⟩ := Op.probe_commit h
      · exact ⟨[], (List.append_nil _).symm⟩
      · obtain ⟨-, -, rfl⟩ := promoteAttemptProjection_ok hp
        exact ⟨_, rfl⟩
  | preflight verified reason rawObservation now =>
      cases h
      exact ⟨_, rfl⟩
  | operatorNote text now =>
      cases h
      exact ⟨_, rfl⟩

end Commits

/-! ## The machine -/

/-- What `getIntent` returns when its two queries read different states. -/
def Store.read (rows later : Store) : IntentAggregate where
  intent := rows.intent
  execution := rows.execution
  attempts := later.attempts
  activeAttempt := findAttempt later.attempts rows.intent.activeAttemptId
  winningAttempt := findAttempt later.attempts rows.intent.winningAttemptId

@[simp] theorem Store.read_self (db : Store) : db.read db = db.aggregate := rfl

/-- An operation with the states its view was read from. -/
structure Act where
  rows : Store
  later : Store
  op : Op

/-- The aggregate an act works on, read by `getIntent` in two queries. -/
def Act.view (act : Act) : IntentAggregate := act.rows.read act.later

/-- One operation commits. -/
def Step (w : World Store) (act : Act) (w' : World Store) : Prop :=
  act.rows ∈ w.views ∧ act.later ∈ w.views ∧
    ∃ t, act.op.commit act.view w.current = some t ∧ w' = w.commit t

/-- One operation is tried: it commits, or it leaves the store. -/
def Tried (w : World Store) (act : Act) (w' : World Store) : Prop :=
  Step w act w' ∨
    (act.rows ∈ w.views ∧ act.later ∈ w.views ∧ act.op.commit act.view w.current = none ∧ w' = w)

/-- The world of a new intent. -/
def opening (req : CreateRequest) : World Store := ⟨serviceCreateIntent req, []⟩

variable {w w' : World Store} {act : Act}

theorem Step.consistent (hw : w.Consistent rowVersion guardedRows) (h : Step w act w') :
    w'.Consistent rowVersion guardedRows := by
  obtain ⟨-, -, t, hc, rfl⟩ := h
  exact hw.commit (Op.commit_evolves hc)

/-- **The guard rule**: a view whose version is current has the current rows. -/
theorem current_of_version (hw : w.Consistent rowVersion guardedRows) (hrows : act.rows ∈ w.views)
    (hversion : w.current.execution.version = act.view.execution.version) :
    Current act.view w.current := by
  have hrow := hw.row_eq hrows hversion
  rw [guardedRows, guardedRows, Prod.mk.injEq] at hrow
  exact ⟨hrow.1, hrow.2⟩

/-- Every world of a run of a consistent one is consistent. -/
theorem consistent_run {w₀ : World Store} {acts : List Act}
    (h₀ : w₀.Consistent rowVersion guardedRows) (h : Run Step w₀ acts w) :
    w.Consistent rowVersion guardedRows :=
  h.inv (World.Consistent rowVersion guardedRows) h₀ fun _ _ _ hw hst => Step.consistent hw hst

theorem consistent_opening (req : CreateRequest) :
    (opening req).Consistent rowVersion guardedRows :=
  World.consistent_start _

/-- **The invariant rule of the machine**: a property of the store that every operation preserves,
given that a view of the current version is current, holds in every state of every run. -/
theorem machine_inv (Inv : Store → Prop) (ok : IntentAggregate → Op → Prop) {w₀ : World Store}
    {acts : List Act} (hw₀ : w₀.Consistent rowVersion guardedRows) (h₀ : Inv w₀.current)
    (hstep : ∀ (view : IntentAggregate) (op : Op) (db t : Store),
      (db.execution.version = view.execution.version → Current view db) →
      Inv db → ok view op → op.commit view db = some t → Inv t)
    (h : Run (Runs.when (fun _ act => ok act.view act.op) Step) w₀ acts w) : Inv w.current := by
  have key : w.Consistent rowVersion guardedRows ∧ Inv w.current := by
    refine h.inv (fun w => w.Consistent rowVersion guardedRows ∧ Inv w.current)
      ⟨hw₀, h₀⟩ ?_
    rintro w act w' ⟨hw, hi⟩ ⟨hok, hst⟩
    refine ⟨Step.consistent hw hst, ?_⟩
    obtain ⟨hrows, -, t, hc, rfl⟩ := hst
    exact hstep act.view act.op w.current t (current_of_version hw hrows) hi hok hc
  exact key.2

/-- What the machine reaches with failed operations, it reaches without them. -/
theorem tried_run {w₀ : World Store} {acts : List Act} (h : Run Tried w₀ acts w) :
    ∃ committed, Run Step w₀ committed w := by
  induction h with
  | start => exact ⟨[], .start⟩
  | next _ ht ih =>
      rcases ih with ⟨committed, hrun⟩
      rcases ht with hst | ⟨-, -, -, rfl⟩
      · exact ⟨_, hrun.next hst⟩
      · exact ⟨committed, hrun⟩

/-! ## The row on record -/

/-- The row of every reachable store satisfies the constraints. -/
theorem stored_fits {req : CreateRequest} {acts : List Act} {w : World Store}
    (h : Run Step (opening req) acts w) : w.current.execution.violation = none := by
  refine h.inv (fun w => w.current.execution.violation = none) (by rfl) ?_
  rintro w act w' hi ⟨-, -, t, hc, rfl⟩
  rw [World.commit_current]
  cases hop : act.op with
  | attach req freshId now =>
      rw [hop] at hc
      obtain ⟨_, _, _, _, _, -, -, -, hfits, -, -⟩ := Op.attach_writes hc
      exact hfits
  | mark req now =>
      rw [hop] at hc
      obtain ⟨_, -, -, -, hfits, -⟩ := markAttempt_ok (Op.mark_commit hc).2
      exact hfits
  | observe env =>
      rw [hop] at hc
      obtain ⟨_, _, -, hp⟩ := Op.observe_commit hc
      exact (reconcileProjection_ok hp).2.1
  | probe env index =>
      rw [hop] at hc
      obtain ⟨_, -, ⟨_, -, rfl⟩ | ⟨_, -, hp⟩⟩ := Op.probe_commit hc
      · exact hi
      · exact (promoteAttemptProjection_ok hp).2.1
  | preflight verified reason rawObservation now =>
      rw [hop] at hc
      cases hc
      exact hi
  | operatorNote text now =>
      rw [hop] at hc
      cases hc
      exact hi

/-! ## Calls run alone -/

/-- A call that writes once, run alone, is one step. -/
theorem step_alone {op : Op} {db t : Store} {past : List Store}
    (h : op.commit db.aggregate db = some t) :
    Step ⟨db, past⟩ ⟨db, db, op⟩ ⟨t, db :: past⟩ :=
  ⟨World.current_mem_views _, World.current_mem_views _, t, h, rfl⟩

theorem serviceAttachTransaction_step {req : AttachRequest} {freshId : String} {now : Int}
    {db t : Store} {past : List Store} (h : serviceAttachTransaction req freshId now db = .ok t) :
    Step ⟨db, past⟩ ⟨db, db, .attach req freshId now⟩ ⟨t, db :: past⟩ := by
  refine step_alone ?_
  unfold serviceAttachTransaction at h
  cases hn : req.normalize with
  | error e =>
      rw [hn] at h
      cases h
  | ok normalized =>
      simp only [hn] at h
      simp only [Op.commit, hn, h, Except.toOption]

theorem serviceMarkSubmission_step {req : MarkRequest} {now : Int} {db t : Store}
    {past : List Store} (h : serviceMarkSubmission req now db = .ok t) :
    Step ⟨db, past⟩ ⟨db, db, .mark req now⟩ ⟨t, db :: past⟩ := by
  refine step_alone ?_
  unfold serviceMarkSubmission at h
  cases hg : req.guard with
  | error e =>
      rw [hg] at h
      cases h
  | ok _ =>
      simp only [hg] at h
      simp only [Op.commit, hg, h, Except.toOption]

/-- A scan that promotes returns the view of the store it leaves. -/
theorem scanCandidates_promoted {env : ReconcileEnv} {view promoted : IntentAggregate}
    {candidates : List TransactionAttemptRecord} {db t : Store}
    (h : scanCandidates env view candidates db = (t, .ok (some promoted))) :
    promoted = t.aggregate := by
  induction candidates generalizing db with
  | nil => simp [scanCandidates] at h
  | cons candidate rest ih =>
      simp only [scanCandidates] at h
      split at h
      · exact ih h
      · exact ih h
      · split at h
        · simp at h
        next hp =>
          simp only [Prod.mk.injEq, Except.ok.injEq, Option.some.injEq] at h
          rw [← h.2, h.1]

/-- The steps whose view is one state. -/
def AloneStep : World Store → Act → World Store → Prop :=
  Runs.when (fun _ act => act.rows = act.later) Step

/-- The candidate scan is a run of probes from the view it was given. -/
theorem scanCandidates_run (env : ReconcileEnv) (db₀ : Store) (n : Nat) (w : World Store)
    {candidates : List TransactionAttemptRecord}
    (hc : (rivals db₀.aggregate).drop n = candidates) (hdb₀ : db₀ ∈ w.views) :
    ∃ acts w', Run AloneStep w acts w' ∧
      w'.current = (scanCandidates env db₀.aggregate candidates w.current).1 ∧ db₀ ∈ w'.views := by
  induction candidates generalizing n w with
  | nil => exact ⟨[], w, .start, rfl, hdb₀⟩
  | cons candidate rest ih =>
      have hindex : (rivals db₀.aggregate)[n]? = some candidate := by
        rw [← List.head?_drop, hc]
        rfl
      have hrest : (rivals db₀.aggregate).drop (n + 1) = rest := by
        rw [← List.tail_drop, hc]
        rfl
      have hstep : ∀ t, (Op.probe env n).commit db₀.aggregate w.current = some t →
          AloneStep w ⟨db₀, db₀, .probe env n⟩ (w.commit t) := fun t ht =>
        ⟨rfl, hdb₀, hdb₀, t, ht, rfl⟩
      simp only [Op.commit, hindex] at hstep
      simp only [scanCandidates]
      cases hj : judgeCandidate env db₀.aggregate candidate with
      | failed => exact ih (n + 1) w hrest hdb₀
      | update input =>
          simp only [hj] at hstep
          obtain ⟨acts, w', hrun, hcur, hmem⟩ :=
            ih (n + 1) (w.commit (updateCandidateAttempt input w.current)) hrest (by simp [hdb₀])
          exact ⟨_, w', (Run.single (hstep _ rfl)).append hrun, hcur, hmem⟩
      | promote input =>
          simp only [hj] at hstep
          cases hp : promoteAttemptProjection input w.current with
          | error e => exact ⟨[], w, .start, by simp [hp], hdb₀⟩
          | ok t =>
              rw [hp] at hstep
              exact ⟨_, w.commit t, Run.single (hstep t rfl), by simp [hp], by simp [hdb₀]⟩

/-- A projection step from a view the world has had is at most one step of the machine. -/
theorem reconcileProjection_run (env : ReconcileEnv) {rows : Store} {txHash : String}
    {w : World Store} (hrows : rows ∈ w.views) (htx : rows.execution.txHash = some txHash) :
    ∃ acts w', Run AloneStep w acts w' ∧
      w'.current = (settle w.current (reconcileProjection env rows.aggregate txHash w.current)).1 := by
  cases hp : reconcileProjection env rows.aggregate txHash w.current with
  | error e => exact ⟨[], w, .start, rfl⟩
  | ok written =>
      obtain ⟨t, result⟩ := written
      refine ⟨_, w.commit t,
        Run.single (a := ⟨rows, rows, .observe env⟩) ⟨rfl, hrows, hrows, t, ?_, rfl⟩, rfl⟩
      have htx' : rows.aggregate.execution.txHash = some txHash := htx
      simp [Op.commit, Act.view, htx', hp, Except.toOption]

/-- **A reconciliation is a run of the machine**: whatever it leaves, failed or not, the machine
reaches, each step from a view of one state. -/
theorem serviceReconcile_run (env : ReconcileEnv) (db : Store) (past : List Store) :
    ∃ acts w, Run AloneStep ⟨db, past⟩ acts w ∧ w.current = (serviceReconcile env db).1 := by
  obtain ⟨acts, w, hrun, hcur, hmem⟩ := scanCandidates_run env db 0 ⟨db, past⟩
    List.drop_zero (World.current_mem_views _)
  have hpath := serviceReconcile_path env db
  generalize serviceReconcile env db = run at hpath ⊢
  cases hpath with
  | unprepared htx => exact ⟨[], _, .start, rfl⟩
  | unconfigured hurls => exact ⟨[], _, .start, rfl⟩
  | failed hscan =>
      rw [hscan] at hcur
      exact ⟨acts, w, hrun, hcur⟩
  | @kept mid txHash htx hscan =>
      rw [hscan] at hcur
      obtain ⟨acts', w', hrun', hcur'⟩ := reconcileProjection_run env hmem htx
      rw [hcur] at hcur'
      exact ⟨_, w', hrun.append hrun', hcur'⟩
  | cleared hscan htx =>
      rw [hscan] at hcur
      exact ⟨acts, w, hrun, hcur⟩
  | @promoted mid promoted txHash hscan htx =>
      -- the promoted view is of the store the scan leaves
      rw [hscan] at hcur
      obtain rfl := scanCandidates_promoted hscan
      obtain rfl : w.current = mid := hcur
      obtain ⟨acts', w', hrun', hcur'⟩ :=
        reconcileProjection_run env (World.current_mem_views w) htx
      exact ⟨_, w', hrun.append hrun', hcur'⟩

end CellFlow
