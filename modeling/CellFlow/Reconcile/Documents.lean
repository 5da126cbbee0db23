/-
# CellFlow.Reconcile.Documents — which texts and documents a step asks the row to hold.

A step writes texts of the node and of its own record into `text` and `jsonb` columns.  What is on
record is stored already and the texts the reconciler builds are plain, so whether the planned row can
be stored turns on what the answer brings: `observationStorable` for the chain axis,
`ConflictVerdict.storable` for the details of its verdict, and the results of the expected Cells where
`stepEvaluates` says they are checked.
-/
import CellFlow.Reconcile.Draft

namespace CellFlow

open Js (Json toISOString textStorable textStorable?)

/-! ## The chain axis -/

/-- The texts an observation writes onto a snapshot. -/
def observationStorable (snapshot : ExecutionSnapshot) (observation : ChainObservation) : Prop :=
  (observation.status = .committed →
    textStorable? observation.blockHash = true ∧ textStorable? observation.blockNumber = true) ∧
  (preservesCommit snapshot observation = false →
    textStorable? observation.rejectionReason = true)

/-- The texts of a snapshot. -/
def ExecutionSnapshot.textsStorable (snapshot : ExecutionSnapshot) : Prop :=
  textStorable? snapshot.committedBlockHash = true ∧
    textStorable? snapshot.committedBlockNumber = true ∧
    textStorable? snapshot.rejectionReason = true

/-- Over a stored snapshot, an observation leaves a storable one exactly if its own texts are. -/
theorem observedSnapshot_storable_iff {s : ExecutionSnapshot} {o : ChainObservation}
    (hs : s.textsStorable) :
    (observedSnapshot s o).textsStorable ↔ observationStorable s o := by
  obtain ⟨hhash, hnumber, hreason⟩ := hs
  unfold observationStorable
  cases hp : preservesCommit s o with
  | true =>
      have hne : o.status ≠ .committed := by
        simp only [preservesCommit, Bool.and_eq_true, decide_eq_true_eq] at hp
        exact hp.1.2
      rw [observedSnapshot, if_pos hp]
      exact iff_of_true ⟨hhash, hnumber, hreason⟩ ⟨fun hc => absurd hc hne, by simp⟩
  | false =>
      have hkept : (advancedSnapshot s o).rejectionReason =
          (truthy o.rejectionReason).or s.rejectionReason := by
        unfold advancedSnapshot
        cases o.status <;> simp <;> split <;> rfl
      rw [observedSnapshot, if_neg (by simp [hp]), ExecutionSnapshot.textsStorable, hkept,
        advancedSnapshot_hash, advancedSnapshot_number, Js.textStorable?_or hreason,
        textStorable_truthy]
      simp only [forall_const]
      cases hst : o.status with
      | committed =>
          simp only [Js.textStorable?_or hhash, Js.textStorable?_or hnumber, textStorable_truthy,
            forall_const, and_assoc]
      | rejected => simp [hhash, hnumber]
      | unknown => cases reorgAgainstPriorCommit s o <;> simp [hhash, hnumber]
      | pending => cases reorgAgainstPriorCommit s o <;> simp [hhash, hnumber]
      | proposed => cases reorgAgainstPriorCommit s o <;> simp [hhash, hnumber]

/-- A stored row gives a stored snapshot. -/
theorem snapshotFromExecution_storable {row : ExecutionRecord} (h : row.textsStorable = true) :
    (snapshotFromExecution row).textsStorable := by
  obtain ⟨-, hhash, hnumber, hreason, -⟩ := ExecutionRecord.textsStorable_iff.mp h
  exact ⟨(textStorable_truthy _).trans hhash, (textStorable_truthy _).trans hnumber,
    (textStorable_truthy _).trans hreason⟩

/-! ## Texts the reconciler builds -/

theorem textStorable_toISOString (ms : Int) : textStorable (toISOString ms) = true := by
  rw [Js.textStorable_iff]
  intro c hc hzero
  have hiso := List.all_eq_true.mp (Js.isoChar_toISOString ms) c hc
  rw [hzero] at hiso
  exact absurd hiso (by decide)

theorem textStorable_domain (d : ConflictDomain) : textStorable d.text = true := by
  cases d <;> decide

theorem storable_confirmationPolicy (p : ConfirmationPolicy) :
    (confirmationPolicyJson p).storable = true := by
  cases p with
  | committed => decide
  | depth blocks =>
      rw [confirmationPolicyJson, Json.storable_obj]
      intro q hq
      simp only [List.mem_cons, List.not_mem_nil, or_false] at hq
      rcases hq with rfl | rfl <;> simp +decide

/-- A spend record marked as broken is stored with it. -/
theorem breakSpend_storable {details broken : Json} {at_ : Int} {reason : String}
    (hdetails : details.storable = true) (hreason : textStorable reason = true)
    (h : breakSpendObservationContinuity details at_ reason = some broken) :
    broken.storable = true := by
  unfold breakSpendObservationContinuity at h
  split at h
  · cases h
  · cases h
    refine Json.storable_spread (Json.storable_members hdetails) ?_
    intro p hp
    simp only [List.mem_cons, List.not_mem_nil, or_false] at hp
    rcases hp with rfl | rfl | rfl <;> simp +decide [textStorable_toISOString, hreason]

/-! ## The details of a conflict -/

/-- What an inspection hands over can be recorded. -/
def InputInspection.storable (inspection : InputInspection)
    (observations : List InputObservation) : Bool :=
  textStorable? inspection.tipBlockNumber && (observationsJson observations).storable &&
    (observationsJson inspection.inputs).storable

theorem InputInspection.storable_iff {inspection : InputInspection}
    {observations : List InputObservation} :
    inspection.storable observations = true ↔
      textStorable? inspection.tipBlockNumber = true ∧
        (observationsJson observations).storable = true ∧
        (observationsJson inspection.inputs).storable = true := by
  simp only [storable, Bool.and_eq_true, and_assoc]

/-- Over stored details, a contention record is stored exactly if its inspection is. -/
theorem contentionDetails_storable {settings : ReconcileSettings} {prior : Json}
    {inspection : InputInspection} (hprior : prior.storable = true) :
    (contentionDetails settings prior inspection).1.storable = true ↔
      inspection.storable inspection.contendedInputs = true := by
  rw [InputInspection.storable_iff, contentionDetails, Json.storable_obj]
  simp +decide only [List.mem_cons, List.not_mem_nil, or_false, forall_eq_or_imp, forall_eq,
    Json.storable_str, Json.storable_num, Json.storable_bool, Json.storable_ofOption,
    textStorable_toISOString, textStorable_domain, true_and, and_self, and_iff_right_iff_imp, and_imp]
  -- the time of the first sight is the one on record, or that of this inspection
  rintro - - -
  split
  next first hf =>
    split
    · exact Json.storable_string? hprior hf
    · exact textStorable_toISOString _
  · exact textStorable_toISOString _

section Spent

variable {env : ReconcileEnv} {aggregate : IntentAggregate} {inspection : InputInspection}

/-- The spend record a sighting extends is stored with the sighting. -/
theorem spentMembers_storable
    (hprior : Json.storable? aggregate.execution.conflictDetails = true)
    (htip : textStorable? inspection.tipBlockNumber = true)
    (hinputs : (observationsJson inspection.inputs).storable = true) :
    ∀ p ∈ spentMembers aggregate inspection, textStorable p.1 = true ∧ p.2.storable = true := by
  have hdetails : (detailsOf aggregate.execution.conflictDetails).storable = true := by
    rw [detailsOf, Json.storable_getD, hprior]
  have hat : (Json.str (toISOString inspection.evidence.observedAt)).storable = true := by
    rw [Json.storable_str, textStorable_toISOString]
  have htip' : (Json.ofOption inspection.evidence.tipBlockNumber).storable = true := by
    rw [Json.storable_ofOption]
    exact htip
  intro p hp
  simp only [spentMembers, nextSpentObservationDetails, List.mem_cons, List.not_mem_nil,
    or_false] at hp
  rcases hp with rfl | rfl | rfl | rfl | rfl | rfl | rfl | rfl | rfl | rfl
  · simp +decide
  · simp +decide
  · simp +decide
  · simp +decide
  · refine ⟨show textStorable "firstObservedAt" = true by decide, ?_⟩
    dsimp only
    split
    · exact Json.storable_getD_key hdetails hat
    · exact hat
  · refine ⟨show textStorable "firstObservedTipBlockNumber" = true by decide, ?_⟩
    dsimp only
    split
    · exact Json.storable_getD_key hdetails htip'
    · exact htip'
  · exact ⟨show textStorable "lastObservedAt" = true by decide, hat⟩
  · exact ⟨show textStorable "lastObservedTipBlockNumber" = true by decide, htip'⟩
  · exact ⟨show textStorable "spentObservationCount" = true by decide, rfl⟩
  · exact ⟨show textStorable "inputs" = true by decide, hinputs⟩

/-- The last tip stands in the spend record. -/
theorem lastTip_mem : ("lastObservedTipBlockNumber", Json.ofOption inspection.tipBlockNumber) ∈
    spentMembers aggregate inspection := by
  simp [spentMembers, nextSpentObservationDetails, InputInspection.evidence]

theorem spentInputs_mem : ("inputs", observationsJson inspection.inputs) ∈
    spentMembers aggregate inspection := by
  simp [spentMembers, nextSpentObservationDetails, InputInspection.evidence, observationsJson]

/-- The details of a terminal spend are stored exactly if the inspection and the corroboration
are. -/
theorem inputSpentDetails_storable {corroboration : Corroboration}
    (hprior : Json.storable? aggregate.execution.conflictDetails = true) :
    (inputSpentDetails aggregate inspection corroboration).storable = true ↔
      inspection.storable inspection.spentInputs = true ∧ corroboration.toJson.storable = true := by
  rw [InputInspection.storable_iff]
  constructor
  · intro h
    have hmem := Json.storable_members h
    have hupdate := fun p hp =>
      (hmem p (Json.mem_spread_update (by simp +decide) hp)).2
    refine ⟨⟨?_, ?_, ?_⟩, ?_⟩
    · rw [← Json.storable_ofOption]
      exact (hmem _ (Json.mem_spread_base lastTip_mem (by simp +decide))).2
    · exact hupdate ("spentInputs", observationsJson inspection.spentInputs) (by simp)
    · exact hupdate ("inputs", observationsJson inspection.inputs) (by simp)
    · exact hupdate ("corroboration", corroboration.toJson) (by simp)
  · rintro ⟨⟨htip, hspent, hinputs⟩, hcorroboration⟩
    refine Json.storable_spread (spentMembers_storable hprior htip hinputs) ?_
    simp +decide [textStorable_toISOString, textStorable_domain, storable_confirmationPolicy, htip,
      hspent, hinputs, hcorroboration]

/-- So are those of a spend that is not terminal yet. -/
theorem spentSuspectedDetails_storable {corroboration : Option Corroboration}
    (hprior : Json.storable? aggregate.execution.conflictDetails = true) :
    (spentSuspectedDetails aggregate inspection corroboration).storable = true ↔
      inspection.storable inspection.spentInputs = true ∧
        Json.storable? (corroboration.map Corroboration.toJson) = true := by
  rw [InputInspection.storable_iff]
  have hkeys : ((([("inputDomain", Json.str (inputConflictDomain inspection .spent).text),
      ("spentInputs", observationsJson inspection.spentInputs)] ++
      (corroboration.map fun c => ("corroboration", c.toJson)).toList).map Prod.fst)).Nodup := by
    cases corroboration <;> simp +decide
  constructor
  · intro h
    have hmem := Json.storable_members h
    refine ⟨⟨?_, ?_, ?_⟩, ?_⟩
    · rw [← Json.storable_ofOption]
      refine (hmem _ (Json.mem_spread_base lastTip_mem ?_)).2
      cases corroboration <;> simp +decide
    · exact (hmem ("spentInputs", observationsJson inspection.spentInputs)
        (Json.mem_spread_update hkeys (by simp))).2
    · refine (hmem _ (Json.mem_spread_base spentInputs_mem ?_)).2
      cases corroboration <;> simp +decide
    · cases corroboration with
      | none => rfl
      | some c =>
          exact (hmem ("corroboration", c.toJson) (Json.mem_spread_update hkeys (by simp))).2
  · rintro ⟨⟨htip, hspent, hinputs⟩, hcorroboration⟩
    refine Json.storable_spread (spentMembers_storable hprior htip hinputs) ?_
    cases corroboration with
    | none => simp +decide [textStorable_domain, hspent]
    | some c =>
        have hc : c.toJson.storable = true := hcorroboration
        simp +decide [textStorable_domain, hspent, hc]

end Spent

/-! ## The stages of a step -/

section Stages

variable (env : ReconcileEnv) (aggregate : IntentAggregate) (bundle : RpcObservationBundle)

/-- What the evidence of a verdict puts into the conflict details can be stored. -/
def ConflictVerdict.storable : ConflictVerdict → Bool
  | .contended inspection => inspection.storable inspection.contendedInputs
  | .spent inspection =>
      inspection.storable inspection.spentInputs &&
        (!spendMatured aggregate inspection ||
          (corroborateCanonicalSpend env inspection).toJson.storable)
  | _ => true

/-- Whether the step checks the expected Cells, where no conflict keeps it from doing so. -/
def checksCells : Bool :=
  let row := snapshotFromExecution aggregate.execution
  let next := observedSnapshot row bundle.observation
  next.workflowStatus = .confirmed && aggregate.intent.expectedCells ≠ [] &&
    shouldReverifyExpectedCells aggregate.execution.settlementReadyAt.isSome
      (aggregate.execution.assertionStatus = some .verified) aggregate.execution.committedBlockHash
      next.committedBlockHash (reorgAgainstPriorCommit row bundle.observation)

/-- The step checks the expected Cells. -/
def stepEvaluates : Bool :=
  !(conflictVerdict env aggregate bundle).conflicts env aggregate && checksCells aggregate bundle

/-- The expected Cells are checked and contradicted. -/
def stepContradicts : Bool :=
  stepEvaluates env aggregate bundle && (evaluation env aggregate bundle).status = .failed

variable {env aggregate bundle}

/-- An intent without expected Cells has none to check. -/
theorem stepEvaluates_eq_false (hcells : aggregate.intent.expectedCells = []) :
    stepEvaluates env aggregate bundle = false := by
  simp [stepEvaluates, checksCells, hcells]

theorem reevaluates_eq_checksCells {txHash : String} {applied : ApplyObservationResult}
    (happ : applyChainObservation (snapshotFromExecution aggregate.execution) bundle.observation =
      .ok applied)
    (hc : (conflictVerdict env aggregate bundle).conflicts env aggregate = false) :
    reevaluates aggregate applied.reorgDetected
        (conflictDraft env aggregate bundle txHash (observedDraft aggregate bundle applied)) =
      checksCells aggregate bundle := by
  obtain ⟨hsnap, hreorg, -⟩ := applyChainObservation_ok happ
  unfold reevaluates reverifyAssertions checksCells
  rw [conflictDraft_snapshot env aggregate bundle txHash applied hc, hsnap, hreorg]

theorem reevaluates_eq (txHash : String) {applied : ApplyObservationResult}
    (happ : applyChainObservation (snapshotFromExecution aggregate.execution) bundle.observation =
      .ok applied) :
    reevaluates aggregate applied.reorgDetected
        (conflictDraft env aggregate bundle txHash (observedDraft aggregate bundle applied)) =
      stepEvaluates env aggregate bundle := by
  unfold stepEvaluates
  cases hc : (conflictVerdict env aggregate bundle).conflicts env aggregate with
  | true =>
      obtain ⟨hs, -⟩ := conflictDraft_fields env aggregate bundle txHash
        (observedDraft aggregate bundle applied)
      simp [reevaluates, hs, hc, conflictedSnapshot]
  | false =>
      rw [reevaluates_eq_checksCells happ hc, Bool.not_false, Bool.true_and]

theorem assertionsFail_eq (txHash : String) {applied : ApplyObservationResult}
    (happ : applyChainObservation (snapshotFromExecution aggregate.execution) bundle.observation =
      .ok applied) :
    assertionsFail env aggregate bundle applied.reorgDetected
        (conflictDraft env aggregate bundle txHash (observedDraft aggregate bundle applied)) =
      stepContradicts env aggregate bundle := by
  rw [assertionsFail, reevaluates_eq txHash happ, stepContradicts]

/-- Where no payload differs, the conflict stage leaves storable details exactly if its verdict brings
some. -/
theorem conflictDraft_storable (txHash : String) (applied : ApplyObservationResult)
    (hprior : Json.storable? aggregate.execution.conflictDetails = true)
    (hm : signedPayloadMismatch env aggregate bundle = none) :
    Json.storable? (conflictDraft env aggregate bundle txHash
        (observedDraft aggregate bundle applied)).conflictDetails = true ↔
      (conflictVerdict env aggregate bundle).storable env aggregate = true := by
  have hdetails : (detailsOf aggregate.execution.conflictDetails).storable = true := by
    rw [detailsOf, Json.storable_getD, hprior]
  unfold conflictDraft
  cases hv : conflictVerdict env aggregate bundle with
  | mismatch expected observed =>
      by_cases hf : bundle.observation.status.found = true
      · rw [conflictVerdict_found hm hf] at hv
        cases hv
      · cases hi : bundle.inputInspection with
        | none =>
            rw [conflictVerdict_silent hm (by simpa using hf) hi] at hv
            cases hv
        | some inspection =>
            rw [conflictVerdict_inspected hm hi, inspectedVerdict] at hv
            cases hs : inspection.state <;> simp [hs] at hv
  | found =>
      simp only [foundDraft, ConflictVerdict.storable, iff_true]
      split <;> rfl
  | contended inspection => exact contentionDetails_storable hdetails
  | spent inspection =>
      simp only [spentDraft, ConflictVerdict.storable, Bool.and_eq_true]
      by_cases hmat : spendMatured aggregate inspection = true
      · by_cases hc : (corroborateCanonicalSpend env inspection).confirmed = true
        · simp only [hmat, hc, if_true, Json.storable?_some, inputSpentDetails_storable hprior,
            Bool.not_true, Bool.false_or]
        · simp only [hmat, hc, if_true, Json.storable?_some, Bool.not_true, Bool.false_or,
            Bool.false_eq_true, if_false, spentSuspectedDetails_storable hprior, Option.map_some]
      · simp [hmat, spentSuspectedDetails_storable hprior]
  | allLive => exact iff_of_true rfl rfl
  | uncertain inspection =>
      refine iff_of_true ?_ rfl
      simp only [uncertainDraft]
      split
      next hbroken =>
        obtain ⟨broken, hb⟩ := Option.isSome_iff_exists.mp hbroken
        rw [hb]
        exact breakSpend_storable hdetails (by decide) hb
      · exact hprior
  | silent => exact iff_of_true hprior rfl

/-- The conflict stage leaves the assertion result. -/
theorem conflictDraft_assertionResult (txHash : String) (draft : Draft) :
    (conflictDraft env aggregate bundle txHash draft).assertionResult = draft.assertionResult := by
  unfold conflictDraft
  cases conflictVerdict env aggregate bundle with
  | found =>
      simp only [foundDraft]
      split <;> rfl
  | spent inspection =>
      simp only [spentDraft]
      split_ifs <;> rfl
  | _ => rfl

/-- The results of an evaluation as the conflict details of a contradicted Cell keep them. -/
theorem assertionFailed_storable (evaluated : Evaluation) (draft : Draft) :
    Json.storable? (assertionFailedDraft bundle evaluated draft).conflictDetails = true ↔
      Json.storable? (resultsJson evaluated.results) = true := by
  simp only [assertionFailedDraft, Json.storable?_some, Json.storable_obj]
  simp +decide [textStorable_toISOString, Json.storable_getD]

variable (env aggregate bundle) in
/-- **The conflict details of the assertion stage** are those of a contradicted Cell, or the ones it
was given. -/
theorem assertionDraft_conflictDetails (r : Bool) (draft : Draft) :
    (assertionDraft env aggregate bundle r draft).conflictDetails =
      if assertionsFail env aggregate bundle r draft then
        (assertionFailedDraft bundle (evaluation env aggregate bundle) draft).conflictDetails
      else draft.conflictDetails := by
  unfold assertionDraft
  simp only [reevaluates_cleared]
  by_cases he : reevaluates aggregate r draft = true
  · cases hs : (evaluation env aggregate bundle).status <;>
      simp [assertionsFail, assertionFailedDraft, he, hs]
  · simp [assertionsFail, he]

variable (env aggregate bundle) in
/-- **The result of the assertion stage** is that of its evaluation, or the one it keeps. -/
theorem assertionDraft_assertionResult (r : Bool) (draft : Draft) :
    (assertionDraft env aggregate bundle r draft).assertionResult =
      if reevaluates aggregate r draft then resultsJson (evaluation env aggregate bundle).results
      else (clearedDraft r draft).assertionResult := by
  unfold assertionDraft
  simp only [reevaluates_cleared]
  by_cases he : reevaluates aggregate r draft = true
  · cases hs : (evaluation env aggregate bundle).status <;> simp [assertionFailedDraft, he, hs]
  · simp [he]

variable (env aggregate bundle) in
/-- What the step records beside the chain axis can be stored: the results of the expected Cells where
it checks them, and the evidence of its verdict where no Cell is contradicted. -/
def evidenceStorable : Prop :=
  (stepEvaluates env aggregate bundle = true →
    Json.storable? (resultsJson (evaluation env aggregate bundle).results) = true) ∧
  (stepContradicts env aggregate bundle = false →
    (conflictVerdict env aggregate bundle).storable env aggregate = true)

/-- **The documents a step plans** are storable exactly if the evidence of its answer is. -/
theorem plannedDraft_storable_iff (txHash : String) {applied : ApplyObservationResult}
    (happ : applyChainObservation (snapshotFromExecution aggregate.execution) bundle.observation =
      .ok applied)
    (hdetails : Json.storable? aggregate.execution.conflictDetails = true)
    (hresult : Json.storable? aggregate.execution.assertionResult = true)
    (hm : signedPayloadMismatch env aggregate bundle = none) :
    (Json.storable? (plannedDraft env aggregate bundle txHash applied).conflictDetails = true ∧
      Json.storable? (plannedDraft env aggregate bundle txHash applied).assertionResult = true) ↔
      evidenceStorable env aggregate bundle := by
  have hkept : Json.storable? (clearedDraft applied.reorgDetected
      (conflictDraft env aggregate bundle txHash
        (observedDraft aggregate bundle applied))).assertionResult = true := by
    unfold clearedDraft
    split
    · rfl
    · rw [conflictDraft_assertionResult]
      exact hresult
  unfold plannedDraft evidenceStorable
  rw [assertionDraft_conflictDetails, assertionDraft_assertionResult, assertionsFail_eq txHash happ,
    reevaluates_eq txHash happ]
  cases he : stepEvaluates env aggregate bundle with
  | false =>
      have hc : stepContradicts env aggregate bundle = false := by simp [stepContradicts, he]
      simp [hc, hkept, conflictDraft_storable txHash applied hdetails hm]
  | true =>
      cases hc : stepContradicts env aggregate bundle with
      | true => simp [assertionFailed_storable]
      | false => simp [conflictDraft_storable txHash applied hdetails hm, and_comm]

end Stages

end CellFlow
