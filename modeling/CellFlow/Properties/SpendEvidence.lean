/-
# CellFlow.Properties.SpendEvidence — a terminal INPUT_SPENT and the sightings it rests on.

The sightings of a spent input are folded into one JSON object, and a terminal conflict should mean
that every reconciliation since the first of them saw the input spent.  An answer that is REJECTED,
or UNKNOWN without an inspection, neither extends nor breaks the record, nor does a write the table
rolls back, so the record can span an interruption.  In every run without these, and without a
promoted attempt that brings an unbroken record with it, the terminal conflict rests on
uninterrupted evidence.
-/
import CellFlow.Properties.Storable

namespace CellFlow

open Js (Json)
open Optimistic (World)
open Runs (Run Since)

/-! ## Sightings -/

/-- The act is a reconciliation of the projected transaction. -/
def Act.reconciles (act : Act) : Prop := ∃ env, act.op = .observe env

/-- The reconciliation obtained this inspection, and it found an input canonically spent. -/
def Act.sights (act : Act) (inspection : InputInspection) : Prop :=
  ∃ env txHash bundle, act.op = .observe env ∧ act.view.execution.txHash = some txHash ∧
    env.observe txHash = .ok bundle ∧ bundle.inputInspection = some inspection ∧
    inspection.state = .canonicallySpent

/-- The act, if it is a reconciliation, saw the spend. -/
def Act.uninterrupted (act : Act) : Prop := act.reconciles → ∃ inspection, act.sights inspection

/-- A second endpoint saw the spend, where at least two are configured. -/
def Corroborated (env : ReconcileEnv) (primary : InputInspection) : Prop :=
  2 ≤ env.urls.eraseDups.length →
    ∃ endpoint ∈ env.urls, endpoint ≠ primary.endpoint ∧
      ∃ secondary, env.inspectAt endpoint = .ok secondary ∧ secondary.state = .canonicallySpent

/-- **What a terminal conflict of `act` rests on**, after the acts before it. -/
def Evidenced (before : List Act) (act : Act) (policy : ConfirmationPolicy) : Prop :=
  ∃ env inspection tip firstTip, act.op = .observe env ∧ act.sights inspection ∧
    parseHexBlockNumber inspection.tipBlockNumber = some tip ∧
    Since
      (fun first => ∃ sighting, first.sights sighting ∧
        parseHexBlockNumber sighting.tipBlockNumber = some firstTip)
      Act.uninterrupted before ∧
    firstTip + requiredBlocks policy ≤ tip ∧ Corroborated env inspection

/-! ## The condition -/

/-- The details of the row are an unbroken record of sightings. -/
def recordOpen (row : ExecutionRecord) : Prop :=
  spendUnbroken (detailsOf row.conflictDetails) = true

/-- The answer speaks about the evidence: the transaction was found, or its inputs were inspected. -/
def speaks (bundle : RpcObservationBundle) : Prop :=
  bundle.observation.status.found = true ∨ bundle.inputInspection.isSome

/-- While the record is open, a reconciliation works on the row as it stands, its write is storable,
and its answer speaks about the evidence; a promoted candidate brings no open record. -/
def keepsEvidence (w : World Store) (act : Act) : Prop :=
  match act.op with
  | .observe env => recordOpen w.current.execution →
      w.current.execution.version = act.view.execution.version ∧
      projectionFits env act.view w.current ∧
      ∀ txHash bundle, act.view.execution.txHash = some txHash → env.observe txHash = .ok bundle →
        speaks bundle
  | .probe env index => ∀ candidate observed, (rivals act.view)[index]? = some candidate →
      env.observeCandidate candidate.txHash = .ok observed →
      observed.observation.status = .committed → candidateMismatch env candidate observed = none →
      spendUnbroken (detailsOf candidate.conflictDetails) = false
  | _ => True

/-! ## The details a step leaves -/

section Details

variable {env : ReconcileEnv} {view : IntentAggregate} {bundle : RpcObservationBundle}

theorem detailsOf_jsonb (details : Option Json) :
    detailsOf (details.map Json.jsonb) = (detailsOf details).jsonb := by
  cases details <;> simp [detailsOf, Json.jsonb]

/-- An open record is left by a spend that is not terminal, or by an answer that does not speak. -/
theorem conflictDraft_open {txHash : String} {draft : Draft}
    (hopen : spendUnbroken (detailsOf (conflictDraft env view bundle txHash draft).conflictDetails) =
      true)
    (hdraft : draft.conflictDetails = view.execution.conflictDetails) :
    (∃ inspection updates, conflictVerdict env view bundle = .spent inspection ∧
      spendTerminal env view inspection = false ∧
      (∀ u ∈ updates, u.1 ≠ "firstObservedTipBlockNumber") ∧
      (conflictDraft env view bundle txHash draft).conflictDetails =
        some (Json.spread (spentMembers view inspection) updates)) ∨
    (conflictVerdict env view bundle = .silent ∧ recordOpen view.execution) := by
  unfold conflictDraft at hopen ⊢
  cases hv : conflictVerdict env view bundle with
  | mismatch expected observed =>
      rw [hv] at hopen
      cases hopen
  | found =>
      rw [hv] at hopen
      by_cases hr : rejectionSuperseded view bundle = true <;>
        · simp only [foundDraft, hr] at hopen
          cases hopen
  | contended inspection =>
      rw [hv] at hopen
      cases hopen
  | spent inspection =>
      left
      rw [hv] at hopen
      simp only [spentDraft] at hopen ⊢
      by_cases hm : spendMatured view inspection = true
      · by_cases hc : (corroborateCanonicalSpend env inspection).confirmed = true
        · simp [hm, hc, inputSpentDetails, spendUnbroken, detailsOf, Json.string?, Json.get?,
            Json.spread, Json.lookup_assign] at hopen
        · refine ⟨inspection, _, rfl, by simp [spendTerminal, hc], ?_, by simp [hm, hc]; rfl⟩
          simp
      · refine ⟨inspection, _, rfl, by simp [spendTerminal, hm], ?_, by simp [hm]; rfl⟩
        simp
  | allLive =>
      rw [hv] at hopen
      cases hopen
  | uncertain inspection =>
      rw [hv] at hopen
      simp only [uncertainDraft, hdraft] at hopen
      cases hb : breakSpendObservationContinuity (detailsOf view.execution.conflictDetails)
          inspection.observedAt "Original input state became uncertain" with
      | some broken =>
          rw [hb] at hopen
          simp only [Option.isSome_some, if_true, detailsOf, Option.getD_some] at hopen
          rw [breakSpend_broken hb] at hopen
          cases hopen
      | none =>
          rw [hb] at hopen
          simp only [Option.isSome_none, Bool.false_eq_true, if_false] at hopen
          rw [spendUnbroken_eq_false] at hopen
          · cases hopen
          · have hsome := breakSpend_isSome (detailsOf view.execution.conflictDetails)
              inspection.observedAt "Original input state became uncertain"
            rw [hb] at hsome
            simpa using hsome.symm
  | silent =>
      rw [hv] at hopen
      simp only [hdraft] at hopen
      exact Or.inr ⟨rfl, hopen⟩

/-- The assertion stage keeps the details, or replaces them by details of its own. -/
theorem assertionDraft_open {r : Bool} {draft : Draft}
    (hopen : spendUnbroken (detailsOf (assertionDraft env view bundle r draft).conflictDetails) =
      true) :
    assertionsFail env view bundle r draft = false ∧
      (assertionDraft env view bundle r draft).conflictDetails = draft.conflictDetails := by
  have hcleared : (clearedDraft r draft).conflictDetails = draft.conflictDetails := by
    unfold clearedDraft
    split <;> rfl
  unfold assertionDraft at hopen ⊢
  simp only [reevaluates_cleared] at hopen ⊢
  by_cases he : reevaluates view r draft = true
  · simp only [assertionsFail, he, if_true] at hopen ⊢
    cases hs : (evaluation env view bundle).status with
    | failed =>
        rw [hs] at hopen
        cases hopen
    | verified => exact ⟨rfl, hcleared⟩
    | pending => exact ⟨rfl, hcleared⟩
  · simp only [assertionsFail, he]
    exact ⟨rfl, hcleared⟩

/-- **An open plan**: the record is extended by a sighting, or left by an answer that does not
speak; the step does not end CONFLICTED. -/
theorem plannedDraft_open {txHash : String} {applied : ApplyObservationResult}
    (hopen : spendUnbroken
      (detailsOf (plannedDraft env view bundle txHash applied).conflictDetails) = true) :
    stepConflicts env view bundle txHash applied = false ∧
    ((∃ inspection updates, conflictVerdict env view bundle = .spent inspection ∧
      (∀ u ∈ updates, u.1 ≠ "firstObservedTipBlockNumber") ∧
      (plannedDraft env view bundle txHash applied).conflictDetails =
        some (Json.spread (spentMembers view inspection) updates)) ∨
    (conflictVerdict env view bundle = .silent ∧ recordOpen view.execution)) := by
  unfold plannedDraft at hopen ⊢
  rcases assertionDraft_open hopen with ⟨hfail, hkept⟩
  rw [hkept] at hopen ⊢
  unfold stepConflicts
  rw [hfail, Bool.or_false]
  rcases conflictDraft_open hopen rfl with
    ⟨inspection, updates, hv, hterminal, hkey, hdetails⟩ | ⟨hv, hrecord⟩
  · rw [hv]
    exact ⟨hterminal, Or.inl ⟨inspection, updates, rfl, hkey, hdetails⟩⟩
  · rw [hv]
    exact ⟨rfl, Or.inr ⟨rfl, hrecord⟩⟩

/-- A spend verdict comes from an inspection of the answer. -/
theorem inspected_of_spent {inspection : InputInspection}
    (hv : conflictVerdict env view bundle = .spent inspection) :
    bundle.inputInspection = some inspection ∧ inspection.state = .canonicallySpent := by
  cases hm : signedPayloadMismatch env view bundle with
  | some pair =>
      rw [conflictVerdict_mismatch hm] at hv
      cases hv
  | none =>
      by_cases hf : bundle.observation.status.found = true
      · rw [conflictVerdict_found hm hf] at hv
        cases hv
      · cases hi : bundle.inputInspection with
        | none =>
            rw [conflictVerdict_silent hm (by simpa using hf) hi] at hv
            cases hv
        | some found =>
            rw [conflictVerdict_inspected hm hi, inspectedVerdict] at hv
            cases hs : found.state <;> rw [hs] at hv <;> cases hv
            exact ⟨rfl, hs⟩

/-- A silent answer does not speak. -/
theorem not_speaks_of_silent (hv : conflictVerdict env view bundle = .silent) : ¬ speaks bundle := by
  cases hm : signedPayloadMismatch env view bundle with
  | some pair =>
      rw [conflictVerdict_mismatch hm] at hv
      cases hv
  | none =>
      rintro (hf | hi)
      · rw [conflictVerdict_found hm hf] at hv
        cases hv
      · rcases Option.isSome_iff_exists.mp hi with ⟨inspection, hi⟩
        rw [conflictVerdict_inspected hm hi, inspectedVerdict] at hv
        cases hs : inspection.state <;> rw [hs] at hv <;> cases hv

/-- An asked endpoint other than the primary confirmed. -/
theorem corroborateAt_confirmed {primary : String} {endpoints : List String} {seen : List Json}
    (h : (corroborateAt env primary endpoints seen).1 = true) :
    ∃ endpoint ∈ endpoints, endpoint ≠ primary ∧
      ∃ secondary, env.inspectAt endpoint = .ok secondary ∧ secondary.state = .canonicallySpent := by
  induction endpoints generalizing seen with
  | nil => cases h
  | cons endpoint rest ih =>
      have hlater : ∀ {seen}, (corroborateAt env primary rest seen).1 = true →
          ∃ e ∈ endpoint :: rest, e ≠ primary ∧
            ∃ secondary, env.inspectAt e = .ok secondary ∧ secondary.state = .canonicallySpent := by
        intro seen hrest
        rcases ih hrest with ⟨e, he, hfound⟩
        exact ⟨e, List.mem_cons_of_mem _ he, hfound⟩
      simp only [corroborateAt] at h
      split at h
      · exact hlater h
      next hother =>
        split at h
        · exact hlater h
        next secondary hanswer =>
          split at h
          next hspent => exact ⟨endpoint, List.mem_cons_self, hother, secondary, hanswer, hspent⟩
          · exact hlater h

theorem corroborated_of_confirmed {inspection : InputInspection}
    (h : (corroborateCanonicalSpend env inspection).confirmed = true) :
    Corroborated env inspection := by
  intro htwo
  simp only [corroborateCanonicalSpend] at h
  rw [if_neg (by omega)] at h
  rcases corroborateAt_confirmed h with ⟨endpoint, hmem, hfound⟩
  exact ⟨endpoint, List.mem_eraseDups.mp hmem, hfound⟩

end Details

/-! ## The record and its history -/

/-- **An open record, with the history behind it**: the row is observed on, and the recorded first
tip is that of a sighting since which no reconciliation was interrupted. -/
structure RecordTraced (acts : List Act) (row : ExecutionRecord) : Prop where
  hashed : row.txHash.isSome
  not_conflicted : row.workflowStatus ≠ .conflicted
  not_expired : row.workflowStatus ≠ .expired
  traced : ∀ text, (detailsOf row.conflictDetails).string? "firstObservedTipBlockNumber" = some text →
    Since (fun first => ∃ sighting, first.sights sighting ∧ sighting.tipBlockNumber = some text)
      Act.uninterrupted acts

/-- The invariant of a run. -/
structure EvidenceInv (acts : List Act) (w : World Store) : Prop where
  consistent : w.Consistent rowVersion guardedRows
  fits : w.current.execution.violation = none
  record : recordOpen w.current.execution → RecordTraced acts w.current.execution

variable {acts : List Act} {act : Act} {w w' : World Store} {db t : Store}

/-- An act that is no interruption goes on with the history of a kept record. -/
theorem RecordTraced.snoc {row next : ExecutionRecord} (h : RecordTraced acts row)
    (hact : act.uninterrupted) (htx : next.txHash.isSome)
    (hw : next.workflowStatus = row.workflowStatus)
    (hd : next.conflictDetails = row.conflictDetails) : RecordTraced (acts ++ [act]) next := by
  refine ⟨htx, hw ▸ h.not_conflicted, hw ▸ h.not_expired, ?_⟩
  intro text htext
  rw [hd] at htext
  exact (h.traced text htext).snoc hact

/-- An act that does not reconcile is no interruption. -/
theorem Act.uninterrupted_of_op {op : Op} (hop : act.op = op) (h : ∀ env, op ≠ .observe env) :
    act.uninterrupted := by
  rintro ⟨env, henv⟩
  exact absurd (hop ▸ henv) (h env)

/-- A projection step on an open row commits, or is rolled back by a constraint. -/
theorem reconcileProjection_commits {env : ReconcileEnv} {view : IntentAggregate} {txHash : String}
    (hversion : db.execution.version = view.execution.version)
    (hc : view.execution.workflowStatus ≠ .conflicted)
    (he : view.execution.workflowStatus ≠ .expired)
    (hkept : ¬ RolledBack (reconcileProjection env view txHash db)) :
    ∃ r, reconcileProjection env view txHash db = .ok r := by
  cases hanswer : env.observe txHash with
  | error message =>
      obtain ⟨applied, happ⟩ := applyChainObservation_accepts (failureObservation env message)
        (show (snapshotFromExecution view.execution).workflowStatus ≠ _ from hc) he
      rw [rolledBack_failure_iff hanswer happ, not_and, not_not] at hkept
      have hwrite : applySnapshot (failureInput env view message applied) db = .ok _ :=
        Store.transact_eq hversion (hkept hversion)
      simp [reconcileProjection, hanswer, reconcileFailure, happ, hwrite]
  | ok bundle =>
      obtain ⟨applied, happ⟩ := applyChainObservation_accepts bundle.observation
        (show (snapshotFromExecution view.execution).workflowStatus ≠ _ from hc) he
      rw [rolledBack_observed_iff hanswer happ, not_and, not_not] at hkept
      have hwrite : applySnapshot (plannedInput env view bundle applied
          (plannedDraft env view bundle txHash applied)) db = .ok _ :=
        Store.transact_eq hversion (hkept hversion)
      simp [reconcileProjection, hanswer, reconcileObserved, happ, hwrite]

/-- After a failed answer no record is open. -/
theorem failure_not_open {env : ReconcileEnv} {view : IntentAggregate} {message : String}
    {applied : ApplyObservationResult} :
    ¬ recordOpen ((failureInput env view message applied).appliedStore db).execution := by
  have hdetails : ((failureInput env view message applied).appliedStore db).execution.conflictDetails =
      (failureInput env view message applied).nextConflictDetails.map Json.jsonb := rfl
  unfold recordOpen
  rw [hdetails, detailsOf_jsonb, spendUnbroken_jsonb, Bool.not_eq_true]
  simp only [ApplyInput.nextConflictDetails, failureInput, ApplyInput.prior]
  cases hb : breakSpendObservationContinuity (detailsOf view.execution.conflictDetails) env.nowMs
      "RPC observation failed before canonical spend evidence could be rechecked" with
  | some broken => exact breakSpend_broken hb
  | none =>
      refine spendUnbroken_eq_false fun hclass => ?_
      have hsome := breakSpend_isSome (detailsOf view.execution.conflictDetails) env.nowMs
        "RPC observation failed before canonical spend evidence could be rechecked"
      rw [hb] at hsome
      simp only [Option.isSome_none, false_eq_decide_iff] at hsome
      exact hsome hclass

/-- **A reconciliation that commits** leaves no open record, or one it extended itself. -/
theorem observe_traced {env : ReconcileEnv} (hop : act.op = .observe env)
    (hcur : db.execution.version = act.view.execution.version → Current act.view db)
    (hspeaks : recordOpen db.execution → ∀ txHash bundle, act.view.execution.txHash = some txHash →
      env.observe txHash = .ok bundle → speaks bundle)
    (hrecord : recordOpen db.execution → RecordTraced acts db.execution)
    (h : (Op.observe env).commit act.view db = some t) (hopen : recordOpen t.execution) :
    RecordTraced (acts ++ [act]) t.execution := by
  obtain ⟨txHash, result, htx, hproj⟩ := Op.observe_commit h
  obtain ⟨hversion, -, ⟨message, applied, -, -, rfl, -⟩ | ⟨bundle, applied, hanswer, happ, rfl, -⟩⟩ :=
    reconcileProjection_ok hproj
  · exact absurd hopen failure_not_open
  · have hc := hcur hversion
    have hdetails : (observedStore env act.view txHash bundle applied db).execution.conflictDetails =
        (plannedDraft env act.view bundle txHash applied).conflictDetails.map Json.jsonb := rfl
    unfold recordOpen at hopen
    rw [hdetails, detailsOf_jsonb, spendUnbroken_jsonb] at hopen
    rcases plannedDraft_open hopen with
      ⟨hconflicts, ⟨inspection, updates, hv, hkey, hplan⟩ | ⟨hv, hprior⟩⟩
    · obtain ⟨hi, hspent⟩ := inspected_of_spent hv
      have hsights : act.sights inspection := ⟨env, txHash, bundle, hop, htx, hanswer, hi, hspent⟩
      have hact : act.uninterrupted := fun _ => ⟨inspection, hsights⟩
      have hworkflow : (observedStore env act.view txHash bundle applied db).execution.workflowStatus =
          (observedSnapshot (snapshotFromExecution act.view.execution)
            bundle.observation).workflowStatus := by
        show (plannedDraft env act.view bundle txHash applied).snapshot.workflowStatus = _
        rw [plannedDraft_snapshot, hconflicts, (applyChainObservation_ok happ).1]
        rfl
      obtain ⟨hnc, hne⟩ := observedSnapshot_open (snapshotFromExecution act.view.execution)
        bundle.observation
      refine ⟨?_, hworkflow ▸ hnc, hworkflow ▸ hne, ?_⟩
      · show db.execution.txHash.isSome
        rw [← hc.execution, htx]
        rfl
      · intro text htext
        rw [hdetails, detailsOf_jsonb, Json.string?_jsonb, hplan] at htext
        rcases nextSpent_firstTip hkey htext with htip | ⟨hprior, hfirst⟩
        · exact Since.here ⟨inspection, hsights, htip⟩ hact
        · rw [hc.execution] at hprior hfirst
          exact ((hrecord hprior).traced text hfirst).snoc hact
    · unfold recordOpen at hprior
      rw [hc.execution] at hprior
      exact absurd (hspeaks hprior txHash bundle htx hanswer) (not_speaks_of_silent hv)

/-- A submission report leaves no open record. -/
theorem mark_not_open {req : MarkRequest} {view : IntentAggregate} {now : Int}
    {before after : ExecutionSnapshot} :
    ¬ recordOpen ((req.input view now before after).markedStore db).execution := by
  unfold recordOpen
  simp only [MarkInput.markedStore, MarkInput.markedExecution, MarkInput.nextConflictDetails,
    MarkRequest.input]
  rw [detailsOf_jsonb, spendUnbroken_jsonb]
  cases req.failure.bind (·.conflictType) <;> simp [detailsOf, spendUnbroken, Json.string?, Json.get?,
    List.lookup_cons]

/-- **One operation that commits** keeps the history of the record. -/
theorem Step.traced (hi : EvidenceInv acts w) (hok : keepsEvidence w act) (h : Step w act w')
    (hopen : recordOpen w'.current.execution) :
    RecordTraced (acts ++ [act]) w'.current.execution := by
  obtain ⟨hrows, -, t, hc, rfl⟩ := h
  have hcur := current_of_version hi.consistent hrows
  rw [World.commit_current] at hopen ⊢
  cases hop : act.op with
  | attach req freshId now =>
      rw [hop] at hc
      obtain ⟨_, _, _, _, _, -, -, -, -, -, rfl⟩ := Op.attach_writes hc
      have hact : act.uninterrupted := Act.uninterrupted_of_op hop (by simp)
      simp only [AttachInput.attachedStore_execution, AttachInput.attachedExecution] at hopen ⊢
      split at hopen
      · cases hopen
      next hkeep =>
        rw [if_neg hkeep]
        exact (hi.record hopen).snoc hact rfl rfl rfl
  | mark req now =>
      rw [hop] at hc
      obtain ⟨after, -, -, -, -, rfl⟩ := markAttempt_ok (Op.mark_commit hc).2
      exact absurd hopen mark_not_open
  | observe env =>
      rw [hop] at hc
      unfold keepsEvidence at hok
      rw [hop] at hok
      exact observe_traced hop hcur (fun ho => (hok ho).2.2) hi.record hc hopen
  | probe env index =>
      rw [hop] at hc
      have hact : act.uninterrupted := Act.uninterrupted_of_op hop (by simp)
      obtain ⟨candidate, hindex, ⟨input, -, rfl⟩ | ⟨input, hj, hp⟩⟩ := Op.probe_commit hc
      · exact (hi.record hopen).snoc hact (hi.record hopen).hashed rfl rfl
      · obtain ⟨-, -, rfl⟩ := promoteAttemptProjection_ok hp
        obtain ⟨observed, _, hanswer, hs, hm, -, -, hattempt, -⟩ := judgeCandidate_promote hj
        unfold keepsEvidence at hok
        rw [hop] at hok
        have hbroken := hok candidate observed hindex hanswer hs hm
        -- the promoted row has the details of the attempt
        have hdetails : (input.promotedStore w.current).execution.conflictDetails =
            input.attempt.conflictDetails.map Json.jsonb := rfl
        unfold recordOpen at hopen
        rw [hdetails, detailsOf_jsonb, spendUnbroken_jsonb, hattempt, hbroken] at hopen
        cases hopen
  | preflight verified reason rawObservation now =>
      rw [hop] at hc
      cases hc
      have hact : act.uninterrupted := Act.uninterrupted_of_op hop (by simp)
      exact (hi.record hopen).snoc hact (hi.record hopen).hashed rfl rfl
  | operatorNote text now =>
      rw [hop] at hc
      cases hc
      have hact : act.uninterrupted := Act.uninterrupted_of_op hop (by simp)
      exact (hi.record hopen).snoc hact (hi.record hopen).hashed rfl rfl

/-- While a record is open, a reconciliation that keeps the evidence does not fail. -/
theorem commit_ne_none {env : ReconcileEnv} (hi : EvidenceInv acts w) (hok : keepsEvidence w act)
    (hrows : act.rows ∈ w.views) (hop : act.op = .observe env)
    (hopen : recordOpen w.current.execution) : act.op.commit act.view w.current ≠ none := by
  have htraced := hi.record hopen
  unfold keepsEvidence at hok
  rw [hop] at hok
  obtain ⟨hversion, hfits, -⟩ := hok hopen
  have hcur := current_of_version hi.consistent hrows hversion
  obtain ⟨txHash, htx⟩ := Option.isSome_iff_exists.mp htraced.hashed
  rw [← hcur.execution] at htx
  have hkept := (projection_storable_iff (fun _ => hcur) hi.fits).mpr hfits txHash htx
  obtain ⟨r, hr⟩ := reconcileProjection_commits hversion
    (by rw [hcur.execution]; exact htraced.not_conflicted)
    (by rw [hcur.execution]; exact htraced.not_expired) hkept
  simp [hop, Op.commit, htx, hr, Except.toOption]

/-- **One operation**, committed or failed. -/
theorem EvidenceInv.step (hi : EvidenceInv acts w) (hok : keepsEvidence w act)
    (h : Tried w act w') (hfits : w'.current.execution.violation = none) :
    EvidenceInv (acts ++ [act]) w' := by
  rcases h with hst | ⟨hrows, -, hnone, rfl⟩
  · exact ⟨hst.consistent hi.consistent, hfits, hst.traced hi hok⟩
  · refine ⟨hi.consistent, hfits, fun hopen => ?_⟩
    have hact : act.uninterrupted := by
      rintro ⟨env, hop⟩
      exact absurd hnone (commit_ne_none hi hok hrows hop hopen)
    exact (hi.record hopen).snoc hact (hi.record hopen).hashed rfl rfl

/-- **Every run that keeps the evidence** has the history of its open record. -/
theorem evidenceInv_run {req : CreateRequest}
    (h : Run (Runs.when keepsEvidence Tried) (opening req) acts w) : EvidenceInv acts w := by
  refine h.history EvidenceInv ⟨consistent_opening req, rfl, ?_⟩ ?_
  · intro hopen
    cases hopen
  · rintro acts w act w' hrun hi ⟨hok, ht⟩
    obtain ⟨committed, hcommitted⟩ := tried_run (hrun.of_when.next ht)
    exact hi.step hok ht (stored_fits hcommitted)

/-! ## Terminal conflicts -/

/-- A step that ends CONFLICTED with INPUT_SPENT judged its inspection a terminal spend. -/
theorem terminal_of_inputSpent {env : ReconcileEnv} {view : IntentAggregate}
    {bundle : RpcObservationBundle} {txHash : String} {applied : ApplyObservationResult}
    (happ : applyChainObservation (snapshotFromExecution view.execution) bundle.observation =
      .ok applied)
    (htype : (plannedDraft env view bundle txHash applied).conflictType = some .inputSpent)
    (hworkflow : (plannedDraft env view bundle txHash applied).snapshot.workflowStatus =
      .conflicted) :
    ∃ inspection, bundle.inputInspection = some inspection ∧
      inspection.state = .canonicallySpent ∧ spendTerminal env view inspection = true := by
  rw [plannedDraft_conflictType] at htype
  have hfail : assertionsFail env view bundle applied.reorgDetected
      (conflictDraft env view bundle txHash (observedDraft view bundle applied)) = false := by
    by_contra hne
    rw [if_pos (by simpa using hne)] at htype
    cases htype
  rw [hfail] at htype
  have hconflicts : (conflictVerdict env view bundle).conflicts env view = true := by
    by_contra hne
    rw [plannedDraft_snapshot, stepConflicts, hfail, Bool.or_false, if_neg hne,
      (applyChainObservation_ok happ).1] at hworkflow
    exact (observedSnapshot_open _ _).1 hworkflow
  cases hv : conflictVerdict env view bundle with
  | mismatch expected observed =>
      rw [hv] at htype
      cases htype
  | spent inspection =>
      rw [hv] at hconflicts
      obtain ⟨hi, hs⟩ := inspected_of_spent hv
      exact ⟨inspection, hi, hs, hconflicts⟩
  | _ =>
      rw [hv] at hconflicts
      cases hconflicts

/-- **A terminal INPUT_SPENT rests on uninterrupted evidence**: in every run that keeps the evidence,
whatever its answers and failures, the reconciliation that ends CONFLICTED with INPUT_SPENT follows a
sighting the policy's blocks earlier, no reconciliation since was anything but a sighting, and a
second endpoint agrees where there is one. -/
theorem input_spent_evidence {req : CreateRequest} {acts : List Act} {w w' : World Store} {act : Act}
    (h : Run (Runs.when keepsEvidence Tried) (opening req) acts w) (hst : Step w act w')
    (hact : act.reconciles) (htype : w'.current.execution.conflictType = some .inputSpent)
    (hworkflow : w'.current.execution.workflowStatus = .conflicted) :
    Evidenced acts act w.current.execution.confirmationPolicy := by
  have hi := evidenceInv_run h
  obtain ⟨env, hop⟩ := hact
  obtain ⟨hrows, -, t, hc, rfl⟩ := hst
  have hcur := current_of_version hi.consistent hrows
  rw [hop] at hc
  obtain ⟨txHash, result, htx, hproj⟩ := Op.observe_commit hc
  obtain ⟨hversion, -, ⟨message, applied, -, happ, rfl, -⟩ | ⟨bundle, applied, hanswer, happ, rfl, -⟩⟩ :=
    reconcileProjection_ok hproj
  · have hopen := (observedSnapshot_open (snapshotFromExecution act.view.execution)
      (failureObservation env message)).1
    rw [← (applyChainObservation_ok happ).1] at hopen
    exact absurd hworkflow hopen
  · obtain ⟨inspection, hinspection, hspent, hterminal⟩ :=
      terminal_of_inputSpent happ htype hworkflow
    simp only [spendTerminal, Bool.and_eq_true] at hterminal
    obtain ⟨hopen, text, firstTip, tip, htext, hfirst, htip, hblocks⟩ := matured_first hterminal.1
    rw [(hcur hversion).execution] at hopen htext hblocks
    refine ⟨env, inspection, tip, firstTip, hop,
      ⟨env, txHash, bundle, hop, htx, hanswer, hinspection, hspent⟩, htip, ?_, hblocks,
      corroborated_of_confirmed hterminal.2⟩
    rcases (hi.record hopen).traced text htext with ⟨before, first, after, hsplit, hsight, hall⟩
    rcases hsight with ⟨sighting, hsights, hsighted⟩
    exact ⟨before, first, after, hsplit, ⟨sighting, hsights, hsighted ▸ hfirst⟩, hall⟩

section Runs

open Scenario

/-- A reconciliation that finds the transaction absent and its inputs spent. -/
def spentAt (tip : String) : Op :=
  .observe (node (.ok (absent (some (inspection .canonicallySpent tip)))))

/-- A reconciliation whose answer is UNKNOWN and inspects nothing. -/
def uninspected : Op := .observe (node (.ok (absent none)))

/-- A tracked transaction whose input was seen spent once. -/
def sightedOnce : Store := perform tracked (spentAt "0x9")

/-- An act on a view of the store as it is. -/
def actOn (db : Store) (op : Op) : Act := ⟨db, db, op⟩

theorem input_spent_evidence_sighted :
    Evidenced
      [actOn (serviceCreateIntent (create (.depth 4))) (attach 'a' false none [outPoint '1']),
        actOn tracked (spentAt "0x9")]
      (actOn sightedOnce (spentAt "0xd")) sightedOnce.execution.confirmationPolicy := by
  have hcommits : commitsAll (serviceCreateIntent (create (.depth 4)))
        [attach 'a' false none [outPoint '1'], spentAt "0x9", spentAt "0xd"] = true ∧
      spendUnbroken (detailsOf tracked.execution.conflictDetails) = false ∧
      (perform sightedOnce (spentAt "0xd")).execution.conflictType = some .inputSpent ∧
      (perform sightedOnce (spentAt "0xd")).execution.workflowStatus = .conflicted := by
    decide +kernel
  obtain ⟨⟨-, hattach, -, hfirst, -, hsecond, -⟩, hclosed, htype, hworkflow⟩ :=
    And.imp_left performs_of_commitsAll hcommits
  have hrun : Run (Runs.when keepsEvidence Tried) (opening (create (.depth 4)))
      [actOn (serviceCreateIntent (create (.depth 4))) (attach 'a' false none [outPoint '1'])]
      ⟨tracked, [serviceCreateIntent (create (.depth 4))]⟩ :=
    Run.single ⟨trivial, Or.inl (step_alone (perform_commit hattach))⟩
  have hkeeps : keepsEvidence ⟨tracked, [serviceCreateIntent (create (.depth 4))]⟩
      (actOn tracked (spentAt "0x9")) := by
    intro hopen
    rw [recordOpen, hclosed] at hopen
    cases hopen
  exact input_spent_evidence (hrun.next ⟨hkeeps, Or.inl (step_alone (perform_commit hfirst))⟩)
    (step_alone (perform_commit hsecond)) ⟨_, rfl⟩ htype hworkflow

/-- An answer without an inspection does not stop the record from maturing. -/
theorem interrupted_spend_confirmed : ¬ ∀ (req : CreateRequest) (acts : List Act) (w w' : World Store)
    (act : Act), Run Tried (opening req) acts w → Step w act w' → act.reconciles →
    w'.current.execution.conflictType = some .inputSpent →
    w'.current.execution.workflowStatus = .conflicted →
    Evidenced acts act w.current.execution.confirmationPolicy := by
  intro h
  have hcommits : commitsAll (serviceCreateIntent (create (.depth 4)))
        [attach 'a' false none [outPoint '1'], spentAt "0x9", uninspected] = true ∧
      ((spentAt "0xd").commit (perform sightedOnce uninspected).aggregate
        (perform sightedOnce uninspected)).isSome ∧
      (perform (perform sightedOnce uninspected) (spentAt "0xd")).execution.conflictType =
        some .inputSpent ∧
      (perform (perform sightedOnce uninspected) (spentAt "0xd")).execution.workflowStatus =
        .conflicted := by
    decide +kernel
  obtain ⟨hall, hlast, htype, hworkflow⟩ := hcommits
  obtain ⟨acts, ⟨current, past⟩, hrun, hw, hops⟩ := run_of_performs [] (performs_of_commitsAll hall)
  have hcurrent : current = perform sightedOnce uninspected := hw
  subst hcurrent
  obtain ⟨_, _, _, _, -, -, -, hsince, -⟩ := h _ acts _ _ _
    (hrun.of_when.mono fun _ _ _ => Or.inl) (step_alone (perform_commit hlast)) ⟨_, rfl⟩ htype
    hworkflow
  -- the last reconciliation of the history inspected nothing
  rcases acts with _ | ⟨a, _ | ⟨b, _ | ⟨c, _ | _⟩⟩⟩ <;>
    simp only [List.map_cons, List.map_nil, List.cons.injEq, reduceCtorEq, and_false] at hops
  obtain ⟨-, -, hc, -⟩ := hops
  have hlastAct : c.uninterrupted := hsince.last rfl
  obtain ⟨inspection, env, txHash, bundle, hop, -, hanswer, hinspected, -⟩ := hlastAct ⟨_, hc⟩
  rw [hc] at hop
  cases hop
  cases hanswer
  cases hinspected

end Runs

end CellFlow
