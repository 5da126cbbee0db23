/-
# CellFlow.Properties.CommittedSpend — a committed transaction in conflict with its own spend.

The inputs of a committed transaction are spent by that transaction.  The state machine keeps a COMMITTED
row over an UNKNOWN answer that disproves nothing, but the conflict branches read the raw answer: an
inspection that finds the inputs contended or spent records an input conflict beside the commit, and
two more such answers make it terminal.  Every run of reconciliations without such an inspection
records none.
-/
import CellFlow.Properties.Scheduling

namespace CellFlow

open Optimistic (World)
open Runs (Run)

/-! ## Input conflicts on a committed row -/

/-- The conflict types that speak about inputs. -/
def ConflictType.concernsInputs : ConflictType → Bool
  | .inputConflictSuspected => true
  | .inputSpent => true
  | _ => false

/-- The row is COMMITTED, and any input conflict it carries was on record before. -/
structure Undeclared (before after : ExecutionRecord) : Prop where
  committed : after.chainStatus = .committed
  unrecorded : ∀ conflict, after.conflictType = some conflict → conflict.concernsInputs = true →
    before.conflictType = some conflict

/-- The answer does not disprove the recorded commit block. -/
def undisproved (view : IntentAggregate) (bundle : RpcObservationBundle) : Prop :=
  bundle.observation.priorCommitCanonical ≠ some false ∧
    (bundle.observation.status = .committed →
      truthy bundle.observation.blockHash = truthy view.execution.committedBlockHash)

/-- A step of a reconciliation whose answer disproves nothing. -/
def reconcilesUndisproved (view : IntentAggregate) : Op → Prop
  | .observe env => ∀ txHash bundle, view.execution.txHash = some txHash →
      env.observe txHash = .ok bundle → undisproved view bundle
  | .probe _ _ => True
  | _ => False

section Condition

variable (env : ReconcileEnv) (view : IntentAggregate) (bundle : RpcObservationBundle)

/-- The expected Cells of a confirmed row that was never settled on them are contradicted. -/
def contradicted : Prop :=
  view.execution.workflowStatus = .confirmed ∧ view.intent.expectedCells ≠ [] ∧
    ¬ (view.execution.settlementReadyAt.isSome ∧
      view.execution.assertionStatus = some .verified) ∧
    (evaluation env view bundle).status = .failed

/-- The inspection speaks against the transaction, and no contradicted Cell takes precedence. -/
def accusesInputs : Prop :=
  adverseInspection view bundle ∧ (terminalSpend env view bundle ∨ ¬ contradicted env view bundle)

/-- The step records no input conflict of its own: its answer does not accuse the inputs, and a
candidate that committed carries no input conflict. -/
def sparesInputs : Op → Prop
  | .observe env => ∀ txHash bundle, view.execution.txHash = some txHash →
      env.observe txHash = .ok bundle → ¬ accusesInputs env view bundle
  | .probe env index => ∀ candidate observed, (rivals view)[index]? = some candidate →
      env.observeCandidate candidate.txHash = .ok observed →
      observed.observation.status = .committed → candidateMismatch env candidate observed = none →
      ∀ conflict, candidate.conflictType = some conflict → conflict.concernsInputs = false
  | _ => True

end Condition

/-! ## One answer -/

variable {env : ReconcileEnv} {view : IntentAggregate} {bundle : RpcObservationBundle}
  {db t : Store}

theorem undisproved_no_reorg (h : undisproved view bundle) :
    reorgAgainstPriorCommit (snapshotFromExecution view.execution) bundle.observation = false := by
  unfold reorgAgainstPriorCommit
  rw [snapshotFromExecution_hash, truthy_truthy]
  cases hrec : truthy view.execution.committedBlockHash with
  | none => rfl
  | some recorded =>
      simp only [h.1, if_false]
      by_cases hs : bundle.observation.status = .committed
      · have hsame := h.2 hs
        rw [hrec] at hsame
        simp [hs, hsame]
      · simp [hs]

/-- A COMMITTED row stays COMMITTED over an observation that proves no reorg. -/
theorem observedSnapshot_stays_committed {s : ExecutionSnapshot} {o : ChainObservation}
    (hc : s.chainStatus = .committed) (hr : reorgAgainstPriorCommit s o = false) :
    (observedSnapshot s o).chainStatus = .committed := by
  by_cases hs : o.status = .committed
  · rw [observedSnapshot_committed hs, advancedSnapshot_chain, hs]
    rfl
  · have hp : preservesCommit s o = true := by simp [preservesCommit, hc, hs, hr]
    rw [observedSnapshot, if_pos hp]
    exact hc

/-- A conflict type about inputs comes from the record, or from an adverse inspection. -/
theorem adverse_of_leaves {recorded : Option ConflictType} {conflict : ConflictType}
    (h : (conflictVerdict env view bundle).leaves env view recorded view.execution.conflictDetails =
      some conflict)
    (hinput : conflict.concernsInputs = true) (hnew : recorded ≠ some conflict) :
    signedPayloadMismatch env view bundle = none ∧ adverseInspection view bundle := by
  cases hm : signedPayloadMismatch env view bundle with
  | some pair =>
      rw [conflictVerdict_mismatch hm] at h
      cases h
      cases hinput
  | none =>
      refine ⟨rfl, ?_⟩
      by_cases hf : bundle.observation.status.found = true
      · rw [conflictVerdict_found hm hf] at h
        cases h
      · cases hi : bundle.inputInspection with
        | none =>
            rw [conflictVerdict_silent hm (by simpa using hf) hi] at h
            exact absurd h hnew
        | some inspection =>
            rw [conflictVerdict_inspected hm hi, inspectedVerdict] at h
            cases hs : inspection.state with
            | mempoolContended => exact ⟨inspection, hi, Or.inl hs⟩
            | canonicallySpent => exact ⟨inspection, hi, Or.inr (Or.inl hs)⟩
            | allLive =>
                rw [hs] at h
                cases h
            | unknown =>
                rw [hs] at h
                simp only [ConflictVerdict.leaves] at h
                split at h
                next hclass => exact ⟨inspection, hi, Or.inr (Or.inr ⟨hs, hclass⟩)⟩
                · exact absurd h hnew

theorem conflicts_of_not_terminal (hm : signedPayloadMismatch env view bundle = none)
    (h : ¬ terminalSpend env view bundle) :
    (conflictVerdict env view bundle).conflicts env view = false := by
  by_cases hf : bundle.observation.status.found = true
  · rw [conflictVerdict_found hm hf]
    rfl
  · cases hi : bundle.inputInspection with
    | none =>
        rw [conflictVerdict_silent hm (by simpa using hf) hi]
        rfl
    | some inspection =>
        rw [conflictVerdict_inspected hm hi, inspectedVerdict]
        cases hs : inspection.state with
        | canonicallySpent =>
            by_contra hne
            rw [Bool.not_eq_false] at hne
            exact h ⟨inspection, hi, hs, hne⟩
        | _ => rfl

/-- **One answer**: on a COMMITTED row it disproves nothing about, an answer that does not accuse the
inputs plans no input conflict. -/
theorem plan_unrecorded {txHash : String} {applied : ApplyObservationResult}
    {conflict : ConflictType} (hcommitted : view.execution.chainStatus = .committed)
    (hu : undisproved view bundle) (hok : ¬ accusesInputs env view bundle)
    (happ : applyChainObservation (snapshotFromExecution view.execution) bundle.observation =
      .ok applied)
    (h : (plannedDraft env view bundle txHash applied).conflictType = some conflict)
    (hinput : conflict.concernsInputs = true) : view.execution.conflictType = some conflict := by
  obtain ⟨hsnap, -⟩ := applyChainObservation_ok happ
  by_contra hnew
  rw [plannedDraft_conflictType] at h
  split at h
  · cases h
    cases hinput
  next hfail =>
    obtain ⟨hm, hadverse⟩ := adverse_of_leaves h hinput hnew
    refine hok ⟨hadverse, ?_⟩
    by_contra hne
    rw [not_or, not_not] at hne
    obtain ⟨hterminal, hconfirmed, hcells, hunsettled, hstatus⟩ := hne
    -- the contradicted Cells would have been the verdict of the step
    refine hfail ?_
    have hdraft := conflictDraft_snapshot env view bundle txHash applied
      (conflicts_of_not_terminal hm hterminal)
    have hpreserved : applied.snapshot.workflowStatus = .confirmed := by
      have hunknown : bundle.observation.status ≠ .committed := by
        obtain ⟨inspection, hi, -⟩ := hadverse
        rw [bundle.inspected_unknown (by simp [hi])]
        simp
      have hp : preservesCommit (snapshotFromExecution view.execution) bundle.observation =
          true := by
        simp [preservesCommit, hcommitted, hunknown, undisproved_no_reorg hu]
      rw [hsnap, observedSnapshot, if_pos hp]
      simp [preservedSnapshot, hconfirmed]
    simp only [assertionsFail, Bool.and_eq_true, decide_eq_true_eq]
    refine ⟨?_, hstatus⟩
    by_contra hre
    exact hunsettled (verified_of_not_reevaluated (by rw [hdraft]; exact hpreserved) hcells hre)

/-! ## The run -/

/-- **One step** of a reconciliation. -/
theorem undeclared_step {op : Op} {before : ExecutionRecord}
    (hcur : db.execution.version = view.execution.version → Current view db)
    (hi : Undeclared before db.execution) (hdomain : reconcilesUndisproved view op)
    (hok : sparesInputs view op) (h : op.commit view db = some t) :
    Undeclared before t.execution := by
  cases op with
  | observe env =>
      obtain ⟨txHash, result, htx, hp⟩ := Op.observe_commit h
      obtain ⟨hversion, -, ⟨message, applied, -, happ, rfl, -⟩ |
        ⟨bundle, applied, hanswer, happ, rfl, -⟩⟩ := reconcileProjection_ok hp
      all_goals
        have hc := hcur hversion
        have hcommitted : view.execution.chainStatus = .committed := hc.execution ▸ hi.committed
        obtain ⟨hsnap, -⟩ := applyChainObservation_ok happ
      · refine ⟨?_, ?_⟩
        · change applied.snapshot.chainStatus = _
          rw [hsnap]
          exact observedSnapshot_stays_committed hcommitted (by simp)
        · change ∀ conflict, view.execution.conflictType = some conflict → _
          rw [hc.execution]
          exact hi.unrecorded
      · have hu := hdomain txHash bundle htx hanswer
        refine ⟨?_, fun conflict htype hinput => hi.unrecorded conflict ?_ hinput⟩
        · change (plannedDraft env view bundle txHash applied).snapshot.chainStatus = _
          rw [plannedDraft_snapshot, hsnap]
          exact observedSnapshot_stays_committed hcommitted (undisproved_no_reorg hu)
        · rw [← hc.execution]
          exact plan_unrecorded hcommitted hu (hok txHash bundle htx hanswer) happ htype hinput
  | probe env index =>
      obtain ⟨candidate, hindex, ⟨input, -, rfl⟩ | ⟨input, hj, hp⟩⟩ := Op.probe_commit h
      · exact hi
      · obtain ⟨hversion, -, rfl⟩ := promoteAttemptProjection_ok hp
        obtain ⟨observed, applied, hobserved, hstatus, hmismatch, happ, -, rfl, hsnap, -⟩ :=
          judgeCandidate_promote hj
        have hclean := hok input.attempt observed hindex hobserved hstatus hmismatch
        refine ⟨?_, fun conflict htype hinput => ?_⟩
        · change input.snapshot.chainStatus = _
          rw [hsnap, (applyChainObservation_ok happ).1, observedSnapshot_committed hstatus,
            advancedSnapshot_chain, hstatus]
          rfl
        · rw [hclean conflict htype] at hinput
          cases hinput
  | attach req freshId now => exact absurd hdomain id
  | mark req now => exact absurd hdomain id
  | preflight verified reason rawObservation now => exact absurd hdomain id
  | operatorNote text now => exact absurd hdomain id

/-- **A committed transaction is never declared in conflict with itself**, in any run of
reconciliations that disprove nothing and spare its inputs, from any reachable state. -/
theorem committed_undeclared {req : CreateRequest} {before acts : List Act} {w₀ w : World Store}
    (hbefore : Run Step (opening req) before w₀)
    (hcommitted : w₀.current.execution.chainStatus = .committed)
    (h : Run (Runs.when
      (fun _ act => reconcilesUndisproved act.view act.op ∧ sparesInputs act.view act.op) Step)
      w₀ acts w) :
    Undeclared w₀.current.execution w.current.execution := by
  have hstart : Undeclared w₀.current.execution w₀.current.execution :=
    ⟨hcommitted, fun _ htype _ => htype⟩
  refine machine_inv (fun db => Undeclared w₀.current.execution db.execution)
    (fun view op => reconcilesUndisproved view op ∧ sparesInputs view op)
    (consistent_run (consistent_opening req) hbefore) hstart ?_ h
  rintro view op db t hcur hi ⟨hdomain, hspares⟩ hc
  exact undeclared_step hcur hi hdomain hspares hc

section Runs

open Scenario

/-- What settles a tracked transaction. -/
def settling : List Op :=
  [attach 'a' false none [outPoint '1'], .observe (node (.ok (committed "0x8")))]

/-- The node forgets the transaction and reports its inputs spent, at a tip. -/
def forgets (tip : String) : Op :=
  .observe (node (.ok (absent (some (inspection .canonicallySpent tip)))))

theorem forgets_undisproved (view : IntentAggregate) (tip : String) :
    reconcilesUndisproved view (forgets tip) := by
  rintro txHash bundle - hanswer
  cases hanswer
  exact ⟨nofun, nofun⟩

/-- The node does not know the transaction, and what it says of the inputs stays open. -/
def inspects (state : InputInspectionState) (tip : String) : Op :=
  .observe (node (.ok (absent (some (inspection state tip)))))

theorem inspects_spares {view : IntentAggregate} {state : InputInspectionState} {tip : String}
    (h : state = .allLive ∨ state = .unknown ∧
      (detailsOf view.execution.conflictDetails).string? "classification" ≠
        some "INPUT_SPENT_OBSERVED") :
    reconcilesUndisproved view (inspects state tip) ∧ sparesInputs view (inspects state tip) := by
  constructor
  · rintro txHash bundle - hanswer
    cases hanswer
    exact ⟨nofun, nofun⟩
  · rintro txHash bundle - hanswer ⟨⟨found, hfound, hadverse⟩, -⟩
    cases hanswer
    cases hfound
    change state = _ ∨ state = _ ∨ state = _ ∧ _ at hadverse
    rcases h with rfl | ⟨rfl, hclass⟩
    · simp at hadverse
    · simp [hclass] at hadverse

/-- The settled transaction is not known twice, its inputs once in doubt and once all live. -/
theorem committed_undeclared_inspected : ∃ before acts w₀ w,
    Run Step (opening (create (.depth 4))) before w₀ ∧ w₀.current = settled ∧
    Run (Runs.when
      (fun _ act => reconcilesUndisproved act.view act.op ∧ sparesInputs act.view act.op) Step)
      w₀ acts w ∧ acts.map (·.op) = [inspects .unknown "0x9", inspects .allLive "0xd"] ∧
    Undeclared w₀.current.execution w.current.execution := by
  have hsettling : commitsAll (serviceCreateIntent (create (.depth 4))) settling = true := by
    decide +kernel
  have hsettled : settled.execution.chainStatus = .committed ∧
      (detailsOf settled.aggregate.execution.conflictDetails).string? "classification" ≠
        some "INPUT_SPENT_OBSERVED" ∧
      commitsAll settled [inspects .unknown "0x9", inspects .allLive "0xd"] = true := by
    decide +kernel
  obtain ⟨hcommitted, hclass, hinspects⟩ := hsettled
  obtain ⟨before, ⟨current, past⟩, hbefore, hcurrent, -⟩ :=
    run_of_performs [] (performs_of_commitsAll hsettling)
  have hcurrent' : current = settled := hcurrent
  subst hcurrent'
  obtain ⟨-, hfirst, -, hsecond, -⟩ := performs_of_commitsAll hinspects
  have hperforms : Performs (fun view op => reconcilesUndisproved view op ∧ sparesInputs view op)
      settled [inspects .unknown "0x9", inspects .allLive "0xd"] :=
    ⟨inspects_spares (Or.inr ⟨rfl, hclass⟩), hfirst, inspects_spares (Or.inl rfl), hsecond, trivial⟩
  obtain ⟨acts, w, hrun, -, hops⟩ := run_of_performs past hperforms
  exact ⟨before, acts, _, w, hbefore.of_when, rfl, hrun, hops,
    committed_undeclared hbefore.of_when hcommitted hrun⟩

/-- A node that forgets a settled transaction twice, four blocks apart, moves it to CONFLICTED with
INPUT_SPENT. -/
theorem committed_declared_spent : ¬ ∀ (req : CreateRequest) (before acts : List Act)
    (w₀ w : World Store), Run Step (opening req) before w₀ →
    w₀.current.execution.chainStatus = .committed →
    Run (Runs.when (fun _ act => reconcilesUndisproved act.view act.op) Step) w₀ acts w →
    Undeclared w₀.current.execution w.current.execution := by
  intro h
  have hsettling : commitsAll (serviceCreateIntent (create (.depth 4))) settling = true := by
    decide +kernel
  have hspent : settled.execution.chainStatus = .committed ∧ settled.execution.conflictType = none ∧
      commitsAll settled [forgets "0x9", forgets "0xd"] = true ∧
      (perform (perform settled (forgets "0x9")) (forgets "0xd")).execution.conflictType =
        some .inputSpent := by decide +kernel
  obtain ⟨hcommitted, hnone, hforgets, htype⟩ := hspent
  obtain ⟨before, ⟨current, past⟩, hbefore, hcurrent, -⟩ :=
    run_of_performs [] (performs_of_commitsAll hsettling)
  have hcurrent' : current = settled := hcurrent
  subst hcurrent'
  obtain ⟨-, hfirst, -, hsecond, -⟩ := performs_of_commitsAll hforgets
  have hundisproved : Performs reconcilesUndisproved settled [forgets "0x9", forgets "0xd"] :=
    ⟨forgets_undisproved _ _, hfirst, forgets_undisproved _ _, hsecond, trivial⟩
  obtain ⟨acts, w, hrun, hw, -⟩ := run_of_performs past hundisproved
  have hundeclared := h _ before acts _ w hbefore.of_when hcommitted hrun
  have hw' : w.current = perform (perform settled (forgets "0x9")) (forgets "0xd") := hw
  rw [hw'] at hundeclared
  have hrecorded := hundeclared.unrecorded _ htype rfl
  rw [hnone] at hrecorded
  cases hrecorded

end Runs

end CellFlow
