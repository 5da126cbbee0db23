/-
# CellFlow.Properties.AssertionProvenance — a VERIFIED row was verified on the commit it reports.

The assertion status outlives most steps on purpose.  Over the history of a run, a VERIFIED status
always goes back to a projection step that checked every expected Cell of the intent against the
projected transaction and ended on the block that is still recorded: steps that change the block
either evaluate again or report a reorg, and a reorg, a new hash or a promotion clears the status.
-/
import CellFlow.Api.CommittedRow
import CellFlow.Api.Scenario

namespace CellFlow

open Optimistic (World)
open Runs (Run)

/-! ## What an evaluation proves -/

/-- One expected Cell holds: the transaction created it and, where it must be live, a lookup of the
node reported it live in a block it did not disown. -/
structure CellVerified (env : ReconcileEnv) (transaction : RpcTransaction)
    (assertion : ExpectedCellAssertion) : Prop where
  created : (verifyExpectedCell transaction assertion).ok = true
  live : assertion.mode.getD .created = .live → ∃ lookup cell,
    env.liveCell lookup assertion.outputIndex = .ok cell ∧
      (verifyLiveCell cell assertion).ok = true ∧
      ∀ blockHash, truthy (cell.bind (·.blockHash)) = some blockHash → ∃ canonical,
        env.canonicalBlock lookup blockHash = .ok canonical ∧ canonical.canonical = some true

theorem evaluateFrom_verified {env : ReconcileEnv} {endpoint : String} {transaction : RpcTransaction}
    {assertions : List ExpectedCellAssertion} {results : List AssertionResult}
    (h : (evaluateFrom env endpoint transaction assertions results).status = .verified) :
    ∀ assertion ∈ assertions, CellVerified env transaction assertion := by
  induction assertions generalizing results with
  | nil => simp
  | cons assertion rest ih =>
      simp only [evaluateFrom] at h
      rw [List.forall_mem_cons]
      split at h
      · cases h
      next hcreated =>
        have hcreated : (verifyExpectedCell transaction assertion).ok = true := by
          simpa using hcreated
        split at h
        next hmode => exact ⟨⟨hcreated, fun hlive => absurd hlive hmode⟩, ih h⟩
        · split at h
          · cases h
          next cell hcell =>
            split at h
            · cases h
            next hlive =>
              have hlive : (verifyLiveCell cell assertion).ok = true := by simpa using hlive
              split at h
              next hblock =>
                exact ⟨⟨hcreated, fun _ => ⟨_, cell, hcell, hlive, fun _ hb => by
                  rw [hblock] at hb
                  cases hb⟩⟩, ih h⟩
              next blockHash hblock =>
                split at h
                · cases h
                next canonical hcanonical =>
                  split at h
                  next hyes =>
                    refine ⟨⟨hcreated, fun _ => ⟨_, cell, hcell, hlive, fun b hb => ?_⟩⟩, ih h⟩
                    obtain rfl : blockHash = b := Option.some.inj (hblock.symm.trans hb)
                    exact ⟨canonical, hcanonical, hyes⟩
                  · cases h
                  · cases h

/-- **A VERIFIED evaluation** had the transaction, and checked every expected Cell on it. -/
theorem evaluateAssertions_verified {env : ReconcileEnv} {endpoint : String}
    {transaction : Option RpcTransaction} {assertions : List ExpectedCellAssertion}
    (h : (evaluateAssertions env endpoint transaction assertions).status = .verified) :
    ∃ found, transaction = some found ∧
      ∀ assertion ∈ assertions, CellVerified env found assertion := by
  unfold evaluateAssertions at h
  split at h
  · cases h
  next found => exact ⟨found, rfl, evaluateFrom_verified h⟩

/-! ## The history -/

/-- A projection step of the transaction `txHash` that evaluated the Cells, found every one of them,
and ended on the block `blockHash`. -/
def Act.verifies (act : Act) (cells : List ExpectedCellAssertion) (txHash blockHash : String) :
    Prop :=
  ∃ env bundle applied transaction, act.op = .observe env ∧
    act.view.execution.txHash = some txHash ∧ env.observe txHash = .ok bundle ∧
    applyChainObservation (snapshotFromExecution act.view.execution) bundle.observation =
      .ok applied ∧
    (plannedDraft env act.view bundle txHash applied).assertionStatus = some .verified ∧
    (plannedDraft env act.view bundle txHash applied).snapshot.committedBlockHash =
      some blockHash ∧
    bundle.transaction = some transaction ∧
    ∀ assertion ∈ cells, CellVerified env transaction assertion

/-- Some step of the history verified the intent's Cells for the projected transaction, on the block
the row records. -/
def VerifiedHere (acts : List Act) (db : Store) : Prop :=
  ∃ txHash blockHash, db.execution.txHash = some txHash ∧
    db.execution.committedBlockHash = some blockHash ∧
    ∃ act ∈ acts, act.verifies db.intent.expectedCells txHash blockHash

/-- The invariant: a VERIFIED status has its step in the history, and its block is a real one. -/
def Traced (acts : List Act) (db : Store) : Prop :=
  db.execution.assertionStatus = some .verified →
    (truthy db.execution.committedBlockHash).isSome ∧ VerifiedHere acts db

variable {acts : List Act} {act : Act} {db t : Store}

/-- A history only grows. -/
theorem VerifiedHere.snoc (h : VerifiedHere acts db)
    (htx : t.execution.txHash = db.execution.txHash)
    (hhash : t.execution.committedBlockHash = db.execution.committedBlockHash)
    (hcells : t.intent.expectedCells = db.intent.expectedCells) : VerifiedHere (acts ++ [act]) t := by
  obtain ⟨txHash, blockHash, hdb, hblock, found, hmem, hverifies⟩ := h
  refine ⟨txHash, blockHash, htx.trans hdb, hhash.trans hblock, found,
    List.mem_append_left _ hmem, ?_⟩
  rw [hcells]
  exact hverifies

/-- A write that keeps status, hash, block and Cells keeps the trace. -/
theorem Traced.kept (h : Traced acts db)
    (hstatus : t.execution.assertionStatus = db.execution.assertionStatus)
    (htx : t.execution.txHash = db.execution.txHash)
    (hhash : t.execution.committedBlockHash = db.execution.committedBlockHash)
    (hcells : t.intent.expectedCells = db.intent.expectedCells) : Traced (acts ++ [act]) t := by
  intro hverified
  rw [hstatus] at hverified
  obtain ⟨hsome, hhere⟩ := h hverified
  exact ⟨hhash ▸ hsome, hhere.snoc htx hhash hcells⟩

/-- Without a reorg, an observation keeps a recorded block. -/
theorem observedSnapshot_hash_kept {s : ExecutionSnapshot} {o : ChainObservation}
    (hsome : (truthy s.committedBlockHash).isSome) (hreorg : reorgAgainstPriorCommit s o = false)
    (hnamed : o.status = .committed → (truthy o.blockHash).isSome) :
    (observedSnapshot s o).committedBlockHash = s.committedBlockHash := by
  obtain ⟨recorded, hrecorded⟩ := Option.isSome_iff_exists.mp hsome
  unfold observedSnapshot
  split
  · rfl
  · rw [advancedSnapshot_hash]
    cases hs : o.status with
    | committed =>
        obtain ⟨named, hname⟩ := Option.isSome_iff_exists.mp (hnamed hs)
        have hsame : named = recorded := by
          by_contra hne
          simp [reorgAgainstPriorCommit, hrecorded, hs, hname, hne] at hreorg
        simp [hname, hsame, (truthy_eq_some.mp hrecorded).1]
    | rejected => rfl
    | unknown => simp [hreorg]
    | pending => simp [hreorg]
    | proposed => simp [hreorg]

/-! ## The projection step -/

section Observe

variable {env : ReconcileEnv} {view : IntentAggregate} {bundle : RpcObservationBundle}
  {txHash : String} {applied : ApplyObservationResult}

/-- An RPC failure keeps status and block. -/
theorem failure_traced {message : String} (hi : Traced acts db) (hcur : Current view db)
    (happ : applyChainObservation (snapshotFromExecution view.execution)
      (failureObservation env message) = .ok applied) :
    Traced (acts ++ [act]) ((failureInput env view message applied).appliedStore db) := by
  intro hverified
  have hstatus : db.execution.assertionStatus = some .verified := by
    rw [← hcur.execution]
    exact hverified
  obtain ⟨hsome, hhere⟩ := hi hstatus
  have hblock : applied.snapshot.committedBlockHash = truthy db.execution.committedBlockHash := by
    rw [(applyChainObservation_ok happ).1, ← hcur.execution]
    exact observedSnapshot_hash_kept (by rw [hcur.execution]; simpa using hsome) (by simp) (by simp)
  have hkept : ((failureInput env view message applied).appliedStore
      db).execution.committedBlockHash = db.execution.committedBlockHash := by
    show truthy applied.snapshot.committedBlockHash = _
    rw [hblock, truthy_truthy, truthy_of_isSome hsome]
  exact ⟨hkept ▸ hsome, hhere.snoc rfl hkept rfl⟩

/-- A plan that keeps a VERIFIED status saw no reorg. -/
theorem kept_of_planned
    (hverified : (plannedDraft env view bundle txHash applied).assertionStatus = some .verified)
    (hdue : ¬ reevaluates view applied.reorgDetected
      (conflictDraft env view bundle txHash (observedDraft view bundle applied)) = true) :
    view.execution.assertionStatus = some .verified ∧ applied.reorgDetected = false := by
  rw [plannedDraft_assertionStatus, if_neg hdue] at hverified
  by_cases hclear : (applied.reorgDetected || (conflictDraft env view bundle txHash
      (observedDraft view bundle applied)).snapshot.workflowStatus = .reorged) = true
  · rw [if_pos hclear] at hverified
    cases hverified
  · rw [if_neg hclear] at hverified
    refine ⟨hverified, ?_⟩
    by_contra hne
    exact hclear (by simp [hne])

/-- The plan of a step that evaluated to VERIFIED is confirmed in a named block. -/
theorem named_of_reevaluated (hback : CommitBacked (snapshotFromExecution view.execution))
    (happ : applyChainObservation (snapshotFromExecution view.execution) bundle.observation =
      .ok applied)
    (hdue : reevaluates view applied.reorgDetected
      (conflictDraft env view bundle txHash (observedDraft view bundle applied)) = true) :
    (truthy (plannedDraft env view bundle txHash applied).snapshot.committedBlockHash).isSome := by
  have hbacked : CommitBacked applied.snapshot := by
    rw [(applyChainObservation_ok happ).1]
    exact hback.observed bundle.committed_named
  have hworkflow : applied.snapshot.workflowStatus = .confirmed := by
    simp only [reevaluates, Bool.and_eq_true, decide_eq_true_eq] at hdue
    by_contra hne
    cases hv : (conflictVerdict env view bundle).conflicts env view with
    | true =>
        have hs := (conflictDraft_fields env view bundle txHash
          (observedDraft view bundle applied)).1
        rw [hv, if_pos rfl] at hs
        rw [hs] at hdue
        exact absurd hdue.1.1 (by simp [conflictedSnapshot])
    | false =>
        rw [conflictDraft_snapshot env view bundle txHash applied hv] at hdue
        exact hne hdue.1.1
  rw [plannedDraft_snapshot]
  exact (hbacked.named (hbacked.confirmed hworkflow).1).1

/-- **An answered step**: a VERIFIED status it leaves was evaluated on it, or was kept with its
block. -/
theorem observed_traced (hi : Traced acts db) (hcur : Current view db) (hview : act.view = view)
    (hop : act.op = .observe env) (hback : CommitBacked (snapshotFromExecution view.execution))
    (htx : view.execution.txHash = some txHash) (hanswer : env.observe txHash = .ok bundle)
    (happ : applyChainObservation (snapshotFromExecution view.execution) bundle.observation =
      .ok applied) :
    Traced (acts ++ [act]) (observedStore env view txHash bundle applied db) := by
  intro hverified
  have hstatus : (plannedDraft env view bundle txHash applied).assertionStatus =
      some .verified := hverified
  have hrow : (observedStore env view txHash bundle applied db).execution.txHash = some txHash := by
    rw [← htx, hcur.execution]
    rfl
  by_cases hdue : reevaluates view applied.reorgDetected
      (conflictDraft env view bundle txHash (observedDraft view bundle applied)) = true
  · have hsome := named_of_reevaluated hback happ hdue
    obtain ⟨blockHash, hblock⟩ := Option.isSome_iff_exists.mp hsome
    have hstored : (observedStore env view txHash bundle applied db).execution.committedBlockHash =
        some blockHash := hblock
    have hevaluated : (evaluation env view bundle).status = .verified := by
      rw [plannedDraft_assertionStatus, if_pos hdue] at hstatus
      exact Option.some.inj hstatus
    obtain ⟨transaction, hfound, hcells⟩ := evaluateAssertions_verified hevaluated
    refine ⟨?_, txHash, blockHash, hrow, hstored, act, by simp, env, bundle, applied, transaction,
      hop, ?_, hanswer, ?_, ?_, ?_, hfound, ?_⟩
    · rw [hstored, truthy_some_of_eq hblock]
      rfl
    · rw [hview, htx]
    · rw [hview, happ]
    · rw [hview, hstatus]
    · rw [hview]
      exact (truthy_eq_some.mp hblock).1
    · show ∀ assertion ∈ db.intent.expectedCells, _
      rw [← hcur.intent]
      exact hcells
  · obtain ⟨hprior, hreorg⟩ := kept_of_planned hstatus hdue
    rw [hcur.execution] at hprior
    obtain ⟨hsome, hhere⟩ := hi hprior
    have hkept : (observedStore env view txHash bundle applied db).execution.committedBlockHash =
        db.execution.committedBlockHash := by
      show truthy (plannedDraft env view bundle txHash applied).snapshot.committedBlockHash = _
      rw [plannedDraft_snapshot]
      obtain ⟨hsnap, hdetected, -⟩ := applyChainObservation_ok happ
      show truthy applied.snapshot.committedBlockHash = _
      rw [hsnap, observedSnapshot_hash_kept ?_ (hdetected ▸ hreorg)
        (fun hs => (bundle.committed_named hs).1), hcur.execution, snapshotFromExecution_hash,
        truthy_truthy, truthy_of_isSome hsome]
      rw [hcur.execution]
      simpa using hsome
    exact ⟨hkept ▸ hsome, hhere.snoc rfl hkept rfl⟩

end Observe

/-! ## The run -/

/-- **One operation.** -/
theorem traced_step {w w' : World Store} (hcons : w.Consistent rowVersion guardedRows)
    (hback : BackedRow w.current.execution) (hi : Traced acts w.current) (h : Step w act w') :
    Traced (acts ++ [act]) w'.current := by
  obtain ⟨hrows, -, t, hc, rfl⟩ := h
  rw [World.commit_current]
  cases hact : act.op with
  | attach req freshId now =>
      rw [hact] at hc
      obtain ⟨normalized, after, _, _, _, -, -, hversion, -, -, rfl⟩ := Op.attach_writes hc
      have hcur := current_of_version hcons hrows hversion
      simp only [AttachInput.attachedStore, AttachInput.attachedExecution]
      split
      · intro hverified
        cases hverified
      next hsame =>
        refine hi.kept rfl ?_ rfl rfl
        rw [AttachInput.creatingAttempt, Bool.not_eq_true', Bool.not_eq_false,
          AttachInput.sameHash, decide_eq_true_eq] at hsame
        rw [← hcur.execution]
        exact hsame.symm
  | mark req now =>
      rw [hact] at hc
      obtain ⟨after, -, -, -, -, rfl⟩ := markAttempt_ok (Op.mark_commit hc).2
      exact hi.kept rfl rfl rfl rfl
  | observe env =>
      rw [hact] at hc
      obtain ⟨txHash, result, htx, hp⟩ := Op.observe_commit hc
      obtain ⟨hversion, -, ⟨message, applied, -, happ, rfl, -⟩ |
        ⟨bundle, applied, hanswer, happ, rfl, -⟩⟩ := reconcileProjection_ok hp
      all_goals have hcur := current_of_version hcons hrows hversion
      · exact failure_traced hi hcur happ
      · exact observed_traced hi hcur rfl hact (hcur.execution ▸ hback.snapshot) htx hanswer happ
  | probe env index =>
      rw [hact] at hc
      obtain ⟨candidate, -, ⟨input, -, rfl⟩ | ⟨input, -, hp⟩⟩ := Op.probe_commit hc
      · exact hi.kept rfl rfl rfl rfl
      · obtain ⟨-, -, rfl⟩ := promoteAttemptProjection_ok hp
        intro hverified
        cases hverified
  | preflight verified reason rawObservation now =>
      rw [hact] at hc
      cases hc
      exact hi.kept rfl rfl rfl rfl
  | operatorNote text now =>
      rw [hact] at hc
      cases hc
      exact hi.kept rfl rfl rfl rfl

theorem traced_run {req : CreateRequest} {w : World Store} (h : Run Step (opening req) acts w) :
    Traced acts w.current := by
  have key : w.Consistent rowVersion guardedRows ∧ BackedRow w.current.execution ∧
      Traced acts w.current := by
    refine h.history (fun acts w => w.Consistent rowVersion guardedRows ∧
      BackedRow w.current.execution ∧ Traced acts w.current)
      ⟨consistent_opening req, backedRow_opening req, fun hverified => by cases hverified⟩ ?_
    rintro acts w act w' - ⟨hcons, hback, hi⟩ hstep
    refine ⟨Step.consistent hcons hstep, ?_, traced_step hcons hback hi hstep⟩
    obtain ⟨hrows, -, t, hc, rfl⟩ := hstep
    exact Op.commit_backed (current_of_version hcons hrows) hback hc
  exact key.2.2

/-- **A VERIFIED assertion always refers to the current commit**: in every state of every run, a
VERIFIED status, and so the readiness of an intent with expected Cells, goes back to a step that
verified every Cell for the projected transaction on the block the row reports. -/
theorem verified_on_current_commit {req : CreateRequest} {w : World Store}
    (h : Run Step (opening req) acts w) :
    (w.current.execution.assertionStatus = some .verified → VerifiedHere acts w.current) ∧
      (w.current.settlementReady = true → w.current.intent.expectedCells ≠ [] →
        VerifiedHere acts w.current) := by
  have htraced := traced_run h
  refine ⟨fun hverified => (htraced hverified).2, fun hready hcells => ?_⟩
  obtain ⟨-, -, -, -, -, -, hstatus⟩ := isSettlementReady_eq_true.mp hready
  rcases hstatus with hzero | hverified
  · exact absurd (List.length_eq_zero_iff.mp hzero) hcells
  · exact (htraced hverified).2

section Runs

open Scenario

/-- A new intent that expects its first output to hold one shannon. -/
def createExpecting : CreateRequest :=
  { create (.depth 4) with
    expectedCells :=
      [{ outputIndex := 0, mode := none, capacity := some "0x1", lock := none, type := none
         data := none }] }

/-- The commit, with a transaction that created the Cell. -/
def committedCreating : RpcObservationBundle :=
  { committed "0x8" with
    transaction := some
      { outputs := [{ capacity := "0x1", lock := ⟨"0x", "type", "0x"⟩, type := none }]
        outputsData := ["0x"], payload := .null }
    committed_named := fun _ => ⟨block_named, rfl⟩
    inspected_unknown := by
      intro h
      cases h }

/-- A transaction that creates the asserted Cell is tracked, and found committed. -/
def verifying : List Op :=
  [attach 'a' false none [outPoint '1'], .observe (node (.ok committedCreating))]

/-- A tracked transaction whose Cell is found with its commit. -/
theorem verified_on_current_commit_created : ∃ acts w, Run Step (opening createExpecting) acts w ∧
    w.current.settlementReady = true ∧ VerifiedHere acts w.current := by
  have hrow : commitsAll (serviceCreateIntent createExpecting) verifying = true ∧
      (verifying.foldl perform (serviceCreateIntent createExpecting)).settlementReady = true ∧
      (verifying.foldl perform
        (serviceCreateIntent createExpecting)).execution.assertionStatus = some .verified := by
    decide +kernel
  obtain ⟨acts, w, hrun, hw, -⟩ := run_of_performs [] (performs_of_commitsAll hrow.1)
  refine ⟨acts, w, hrun.of_when, hw ▸ hrow.2.1, ?_⟩
  exact (verified_on_current_commit hrun.of_when).1 (hw ▸ hrow.2.2)

end Runs

end CellFlow
