/-
# CellFlow.Reconcile.Draft — from one observation to the row it asks for.

Between the observation and the write, `reconcileIntentOnce` of `workflows/reconcile/src/reconcile.ts`
carries a handful of mutable variables.  They are a `Draft` here, each stage of the function is a map
of drafts, and the last section reads the schedule and the argument of `applySnapshot` off the final
one.
-/
import CellFlow.Reconcile.Evidence
import CellFlow.Db.Transitions

namespace CellFlow

open Js (Json toISOString)

/-! ## The draft of the next row -/

/-- What a reconciliation is about to write, as its branches change it in turn. -/
structure Draft where
  snapshot : ExecutionSnapshot
  assertionStatus : Option AssertionStatus
  assertionResult : Option Json
  eventKind : EventKind
  reason : Option String
  conflictType : Option ConflictType
  conflictDetails : Option Json

/-- `unknown` values as JSON: an absent one is `null`. -/
def detailsOf (details : Option Json) : Json := details.getD .null

section Stages

variable (env : ReconcileEnv) (aggregate : IntentAggregate) (bundle : RpcObservationBundle)

/-- A node rejection the same step's observation disproves. -/
def rejectionSuperseded : Bool :=
  aggregate.execution.submissionStatus = .nodeRejected && bundle.observation.status.found

/-- The variables right after the observation was applied. -/
def observedDraft (applied : ApplyObservationResult) : Draft where
  snapshot :=
    if rejectionSuperseded aggregate bundle then
      supersedeNodeRejectionFromChainEvidence applied.snapshot bundle.observation.status
    else applied.snapshot
  assertionStatus := aggregate.execution.assertionStatus
  assertionResult := aggregate.execution.assertionResult
  eventKind := applied.event.kind
  reason := applied.event.reason
  conflictType := aggregate.execution.conflictType
  conflictDetails := aggregate.execution.conflictDetails

/-- The expected and the observed fingerprint, where the exact transaction was found with another
signed payload. -/
def signedPayloadMismatch : Option (String × String) :=
  match truthy (aggregate.activeAttempt.bind (·.signedPayloadHashSha256)), bundle.transaction with
  | some expected, some transaction =>
      if bundle.observation.status.found then
        match truthy (env.fingerprint transaction) with
        | some observed => if observed ≠ expected then some (expected, observed) else none
        | none => none
      else none
  | _, _ => none

/-- The draft after a transaction was found under the hash whose payload differs. -/
def mismatchDraft (txHash expected observed : String) (draft : Draft) : Draft :=
  { draft with
    snapshot := conflictedSnapshot draft.snapshot
    conflictType := some .signedPayloadMismatch
    conflictDetails := some (.obj
      [("source", .str "reconciliation"),
        ("classification", .str "SIGNED_PAYLOAD_MISMATCH"),
        ("txHash", .str txHash),
        ("expectedSignedPayloadHashSha256", .str expected),
        ("observedSignedPayloadHashSha256", .str observed),
        ("rpcEndpoint", .str bundle.endpoint),
        ("observedAt", .str (toISOString bundle.observation.observedAt))])
    eventKind := .signedPayloadMismatch
    reason := some "CKB RPC returned the expected raw transaction hash but a different complete signed-payload fingerprint" }

/-- Finding the exact transaction clears the current conflict field. -/
def foundDraft (draft : Draft) : Draft :=
  if rejectionSuperseded aggregate bundle then
    { draft with
      conflictType := none
      conflictDetails := none
      eventKind := .submissionRejectionSuperseded
      reason := some "A later direct chain observation proved that the exact transaction exists; earlier node rejection evidence was superseded" }
  else { draft with conflictType := none, conflictDetails := none }

/-- The draft after inputs were found taken in the pool. -/
def contendedDraft (inspection : InputInspection) (draft : Draft) : Draft :=
  let prior := detailsOf aggregate.execution.conflictDetails
  let details := contentionDetails env.settings prior inspection
  let graceJustExpired := details.2 && !prior.flag "graceExpired"
  { draft with
    conflictType := some .inputConflictSuspected
    conflictDetails := some details.1
    eventKind :=
      if graceJustExpired then .inputContentionGraceExpired else .inputPoolContentionDetected
    reason := some (
      if graceJustExpired then
        "The configured input-contention grace window expired; recovery is now selected from the semantic input role while reconciliation continues"
      else
        "Exact transaction is absent while an original input is live canonically but unavailable with tx-pool state") }

/-- The members of the spend record every canonical sighting extends. -/
def spentMembers (inspection : InputInspection) : List (String × Json) :=
  nextSpentObservationDetails (detailsOf aggregate.execution.conflictDetails) inspection.evidence

/-- The policy as it stands in the evidence. -/
def confirmationPolicyJson : ConfirmationPolicy → Json
  | .committed => .obj [("mode", .str "committed")]
  | .depth blocks => .obj [("mode", .str "depth"), ("blocks", .int blocks)]

/-- Details of a terminal spend conflict. -/
def inputSpentDetails (inspection : InputInspection) (corroboration : Corroboration) : Json :=
  Json.spread (spentMembers aggregate inspection)
    [("source", .str "reconciliation"),
      ("classification", .str "INPUT_SPENT"),
      ("canonicalSpendConfirmed", .bool true),
      ("confirmedAt", .str (toISOString inspection.observedAt)),
      ("confirmedTipBlockNumber", Json.ofOption inspection.tipBlockNumber),
      ("confirmationPolicy", confirmationPolicyJson aggregate.execution.confirmationPolicy),
      ("inputDomain", .str (inputConflictDomain inspection .spent).text),
      ("spentInputs", observationsJson inspection.spentInputs),
      ("corroboration", corroboration.toJson),
      ("inputs", observationsJson inspection.inputs)]

/-- Details of a spend that is not terminal yet. -/
def spentSuspectedDetails (inspection : InputInspection) (corroboration : Option Corroboration) :
    Json :=
  Json.spread (spentMembers aggregate inspection)
    ([("inputDomain", .str (inputConflictDomain inspection .spent).text),
      ("spentInputs", observationsJson inspection.spentInputs)] ++
      (corroboration.map fun c => ("corroboration", c.toJson)).toList)

/-- The spend has been seen for as long as the policy asks. -/
def spendMatured (inspection : InputInspection) : Bool :=
  conflictObservationMatured aggregate.execution.confirmationPolicy
    (detailsOf aggregate.execution.conflictDetails) inspection.evidence

/-- The spend is terminal: seen for long enough and corroborated. -/
def spendTerminal (inspection : InputInspection) : Bool :=
  spendMatured aggregate inspection && (corroborateCanonicalSpend env inspection).confirmed

/-- The draft after inputs were found spent on chain: suspected at first, then matured and corroborated.
-/
def spentDraft (inspection : InputInspection) (draft : Draft) : Draft :=
  if spendMatured aggregate inspection then
    let corroboration := corroborateCanonicalSpend env inspection
    if corroboration.confirmed then
      { draft with
        snapshot := conflictedSnapshot draft.snapshot
        conflictType := some .inputSpent
        conflictDetails := some (inputSpentDetails aggregate inspection corroboration)
        eventKind := .inputConflictConfirmed
        reason := some (
          if 1 < corroboration.requiredEndpoints then
            "Original input remained canonically spent through the recheck window and a second configured RPC corroborated the terminal conflict"
          else
            "Original input remained canonically spent through the recheck window; only one trusted RPC endpoint is configured") }
    else
      { draft with
        conflictType := some .inputConflictSuspected
        conflictDetails := some (spentSuspectedDetails aggregate inspection (some corroboration))
        eventKind := .inputConflictCorroborationPending
        reason := some "Primary RPC indicates canonical spend, but a second configured RPC has not corroborated the terminal conflict" }
  else
    { draft with
      conflictType := some .inputConflictSuspected
      conflictDetails := some (spentSuspectedDetails aggregate inspection none)
      eventKind := .inputSpentObserved
      reason := some "Original input is no longer live while its creator transaction remains canonical; waiting for repeated canonical spend evidence before confirming conflict" }

/-- The draft where the transaction is absent and its inputs are all free. -/
def allLiveDraft (draft : Draft) : Draft :=
  { draft with
    conflictType := none
    conflictDetails := none
    eventKind := .inputStateInspected
    reason := some "Exact transaction is absent and all original inputs remain live and available" }

/-- The draft where the state of the inputs could not be told. -/
def uncertainDraft (inspection : InputInspection) (draft : Draft) : Draft :=
  let broken :=
    breakSpendObservationContinuity (detailsOf draft.conflictDetails) inspection.observedAt
      "Original input state became uncertain"
  { draft with
    conflictType := if broken.isSome then some .inputConflictSuspected else draft.conflictType
    conflictDetails := if broken.isSome then broken else draft.conflictDetails
    eventKind := .inputStateUncertain
    reason := some "Exact transaction is absent but the original input state could not be proven; spend-evidence continuity is paused" }

/-- The branch the conflict evidence of a step falls into. -/
inductive ConflictVerdict where
  | mismatch (expected observed : String)
  | found
  | contended (inspection : InputInspection)
  | spent (inspection : InputInspection)
  | allLive
  | uncertain (inspection : InputInspection)
  | silent

/-- The conflict branches, on the raw observation. -/
def conflictVerdict : ConflictVerdict :=
  match signedPayloadMismatch env aggregate bundle with
  | some (expected, observed) => .mismatch expected observed
  | none =>
      if bundle.observation.status.found then .found
      else
        match bundle.observation.status, bundle.inputInspection with
        | .unknown, some inspection =>
            match inspection.state with
            | .mempoolContended => .contended inspection
            | .canonicallySpent => .spent inspection
            | .allLive => .allLive
            | .unknown => .uncertain inspection
        | _, _ => .silent

/-- The draft after the branch that the verdict selects. -/
def conflictDraft (txHash : String) (draft : Draft) : Draft :=
  match conflictVerdict env aggregate bundle with
  | .mismatch expected observed => mismatchDraft bundle txHash expected observed draft
  | .found => foundDraft aggregate bundle draft
  | .contended inspection => contendedDraft env aggregate inspection draft
  | .spent inspection => spentDraft env aggregate inspection draft
  | .allLive => allLiveDraft draft
  | .uncertain inspection => uncertainDraft inspection draft
  | .silent => draft

/-- Whether the expected Cells are checked again on this step. -/
def reverifyAssertions (reorgDetected : Bool) (draft : Draft) : Bool :=
  shouldReverifyExpectedCells aggregate.execution.settlementReadyAt.isSome
    (aggregate.execution.assertionStatus = some .verified) aggregate.execution.committedBlockHash
    draft.snapshot.committedBlockHash reorgDetected

/-- The draft after an expected Cell was contradicted. -/
def assertionFailedDraft (evaluated : Evaluation) (draft : Draft) : Draft :=
  { draft with
    snapshot := conflictedSnapshot draft.snapshot
    assertionStatus := some evaluated.status
    assertionResult := resultsJson evaluated.results
    conflictType := some .expectedCellAssertionFailed
    conflictDetails := some (.obj
      [("source", .str "assertion"),
        ("classification", .str "EXPECTED_CELL_ASSERTION_FAILED"),
        ("evaluatedAt", .str (toISOString bundle.observation.observedAt)),
        ("results", (resultsJson evaluated.results).getD .null)])
    eventKind := .assertionFailed
    reason := evaluated.reason }

/-- Assertions of an earlier block are never carried over a reorg. -/
def clearedDraft (reorgDetected : Bool) (draft : Draft) : Draft :=
  if reorgDetected || draft.snapshot.workflowStatus = .reorged then
    { draft with assertionStatus := none, assertionResult := none }
  else draft

/-- Whether the assertion stage evaluates. -/
def reevaluates (reorgDetected : Bool) (draft : Draft) : Bool :=
  draft.snapshot.workflowStatus = .confirmed && aggregate.intent.expectedCells ≠ [] &&
    reverifyAssertions aggregate reorgDetected draft

/-- The evaluation of a step. -/
def evaluation : Evaluation :=
  evaluateAssertions env bundle.endpoint bundle.transaction aggregate.intent.expectedCells

/-- The assertion stage. -/
def assertionDraft (reorgDetected : Bool) (draft : Draft) : Draft :=
  let draft := clearedDraft reorgDetected draft
  if reevaluates aggregate reorgDetected draft then
    let evaluated := evaluation env aggregate bundle
    match evaluated.status with
    | .failed => assertionFailedDraft bundle evaluated draft
    | .verified =>
        { draft with
          assertionStatus := some evaluated.status
          assertionResult := resultsJson evaluated.results
          eventKind := .assertionVerified }
    | .pending =>
        { draft with
          assertionStatus := some evaluated.status
          assertionResult := resultsJson evaluated.results }
  else draft

/-- All stages after the observation. -/
def plannedDraft (txHash : String) (applied : ApplyObservationResult) : Draft :=
  assertionDraft env aggregate bundle applied.reorgDetected
    (conflictDraft env aggregate bundle txHash (observedDraft aggregate bundle applied))

/-! ## What the stages leave -/

variable {env aggregate bundle}

variable (aggregate bundle) in
/-- The observed snapshot with the submission axis the step leaves. -/
theorem observedDraft_snapshot (applied : ApplyObservationResult) :
    (observedDraft aggregate bundle applied).snapshot =
      { applied.snapshot with
        submissionStatus := (observedDraft aggregate bundle applied).snapshot.submissionStatus } := by
  simp only [observedDraft, supersedeNodeRejectionFromChainEvidence]
  split_ifs <;> rfl

variable (aggregate bundle) in
theorem observedDraft_submission (applied : ApplyObservationResult)
    (hs : applied.snapshot.submissionStatus = aggregate.execution.submissionStatus) :
    (observedDraft aggregate bundle applied).snapshot.submissionStatus =
      if rejectionSuperseded aggregate bundle then .submitted
      else aggregate.execution.submissionStatus := by
  simp only [observedDraft, supersedeNodeRejectionFromChainEvidence]
  by_cases hr : rejectionSuperseded aggregate bundle = true
  · have hr' := hr
    simp only [rejectionSuperseded, Bool.and_eq_true, decide_eq_true_eq] at hr'
    simp [hr, hs, hr'.1, hr'.2]
  · simp [hr, hs]

/-- The verdict of an inspection. -/
def inspectedVerdict (inspection : InputInspection) : ConflictVerdict :=
  match inspection.state with
  | .mempoolContended => .contended inspection
  | .canonicallySpent => .spent inspection
  | .allLive => .allLive
  | .unknown => .uncertain inspection

theorem conflictVerdict_mismatch {expected observed : String}
    (hm : signedPayloadMismatch env aggregate bundle = some (expected, observed)) :
    conflictVerdict env aggregate bundle = .mismatch expected observed := by
  simp [conflictVerdict, hm]

theorem conflictVerdict_found (hm : signedPayloadMismatch env aggregate bundle = none)
    (hf : bundle.observation.status.found = true) :
    conflictVerdict env aggregate bundle = .found := by
  simp [conflictVerdict, hm, hf]

/-- An answer with an inspection is judged by it. -/
theorem conflictVerdict_inspected {inspection : InputInspection}
    (hm : signedPayloadMismatch env aggregate bundle = none)
    (hi : bundle.inputInspection = some inspection) :
    conflictVerdict env aggregate bundle = inspectedVerdict inspection := by
  have hu : bundle.observation.status = .unknown := bundle.inspected_unknown (by simp [hi])
  simp [conflictVerdict, inspectedVerdict, hm, hu, hi]

theorem conflictVerdict_silent (hm : signedPayloadMismatch env aggregate bundle = none)
    (hf : bundle.observation.status.found = false) (hi : bundle.inputInspection = none) :
    conflictVerdict env aggregate bundle = .silent := by
  simp [conflictVerdict, hm, hf, hi]

/-- A payload is compared only where the transaction was found. -/
theorem found_of_mismatch {pair : String × String}
    (hm : signedPayloadMismatch env aggregate bundle = some pair) :
    bundle.observation.status.found = true := by
  by_contra hne
  simp only [signedPayloadMismatch, hne] at hm
  split at hm <;> simp at hm

variable (env aggregate) in
/-- Whether a verdict marks the snapshot CONFLICTED. -/
def ConflictVerdict.conflicts : ConflictVerdict → Bool
  | .mismatch _ _ => true
  | .spent inspection => spendTerminal env aggregate inspection
  | _ => false

variable (env aggregate) in
/-- The conflict type a verdict leaves, from the one on record. -/
def ConflictVerdict.leaves (recorded : Option ConflictType) (details : Option Json) :
    ConflictVerdict → Option ConflictType
  | .mismatch _ _ => some .signedPayloadMismatch
  | .found => none
  | .contended _ => some .inputConflictSuspected
  | .spent inspection =>
      if spendTerminal env aggregate inspection then some .inputSpent
      else some .inputConflictSuspected
  | .allLive => none
  | .uncertain _ =>
      if (detailsOf details).string? "classification" = some "INPUT_SPENT_OBSERVED" then
        some .inputConflictSuspected
      else recorded
  | .silent => recorded

theorem breakSpend_isSome (details : Json) (at_ : Int) (reason : String) :
    (breakSpendObservationContinuity details at_ reason).isSome =
      decide (details.string? "classification" = some "INPUT_SPENT_OBSERVED") := by
  unfold breakSpendObservationContinuity
  by_cases h : details.string? "classification" = some "INPUT_SPENT_OBSERVED" <;> simp [h]

variable (env aggregate bundle) in
/-- **The conflict stage**: it may mark the snapshot, sets the conflict type of its verdict, and
leaves the assertion fields. -/
theorem conflictDraft_fields (txHash : String) (draft : Draft) :
    (conflictDraft env aggregate bundle txHash draft).snapshot =
        (if (conflictVerdict env aggregate bundle).conflicts env aggregate then
          conflictedSnapshot draft.snapshot
        else draft.snapshot) ∧
      (conflictDraft env aggregate bundle txHash draft).conflictType =
        (conflictVerdict env aggregate bundle).leaves env aggregate draft.conflictType
          draft.conflictDetails ∧
      (conflictDraft env aggregate bundle txHash draft).assertionStatus = draft.assertionStatus := by
  unfold conflictDraft
  cases conflictVerdict env aggregate bundle with
  | mismatch expected observed => exact ⟨rfl, rfl, rfl⟩
  | found =>
      by_cases hr : rejectionSuperseded aggregate bundle = true <;>
        simp [foundDraft, ConflictVerdict.conflicts, ConflictVerdict.leaves, hr]
  | contended inspection => exact ⟨rfl, rfl, rfl⟩
  | spent inspection =>
      simp only [spentDraft, ConflictVerdict.conflicts, ConflictVerdict.leaves, spendTerminal]
      by_cases hm : spendMatured aggregate inspection = true
      · by_cases hc : (corroborateCanonicalSpend env inspection).confirmed = true <;> simp [hm, hc]
      · simp [hm]
  | allLive => exact ⟨rfl, rfl, rfl⟩
  | uncertain inspection =>
      simp [uncertainDraft, breakSpend_isSome, ConflictVerdict.conflicts, ConflictVerdict.leaves]
  | silent => exact ⟨rfl, rfl, rfl⟩

variable (aggregate bundle) in
/-- The transaction is absent and its inputs speak against it: contended, spent, or uncertain after
a recorded spend. -/
def adverseInspection : Prop :=
  ∃ inspection, bundle.inputInspection = some inspection ∧
    (inspection.state = .mempoolContended ∨ inspection.state = .canonicallySpent ∨
      (inspection.state = .unknown ∧
        (detailsOf aggregate.execution.conflictDetails).string? "classification" =
          some "INPUT_SPENT_OBSERVED"))

/-- Where no payload differs, only an adverse inspection leaves a conflict type on a row that had
none. -/
theorem leaves_eq_none_iff (hm : signedPayloadMismatch env aggregate bundle = none) :
    (conflictVerdict env aggregate bundle).leaves env aggregate none
        aggregate.execution.conflictDetails = none ↔ ¬ adverseInspection aggregate bundle := by
  unfold conflictVerdict adverseInspection
  simp only [hm]
  cases hi : bundle.inputInspection with
  | none =>
      cases bundle.observation.status <;> simp [ConflictVerdict.leaves]
  | some inspection =>
      have hu : bundle.observation.status = .unknown := bundle.inspected_unknown (by simp [hi])
      simp only [hu, ObservedStatus.found_unknown, Bool.false_eq_true, if_false,
        Option.some.injEq, exists_eq_left']
      cases inspection.state with
      | mempoolContended => simp [ConflictVerdict.leaves]
      | allLive => simp [ConflictVerdict.leaves]
      | unknown => simp [ConflictVerdict.leaves]
      | canonicallySpent =>
          simp only [ConflictVerdict.leaves]
          split_ifs <;> simp

/-- Nor does any other answer mark the snapshot. -/
theorem conflicts_eq_false (hm : signedPayloadMismatch env aggregate bundle = none)
    (ha : ¬ adverseInspection aggregate bundle) :
    (conflictVerdict env aggregate bundle).conflicts env aggregate = false := by
  unfold conflictVerdict
  simp only [hm]
  cases hi : bundle.inputInspection with
  | none =>
      cases bundle.observation.status <;> simp [ConflictVerdict.conflicts]
  | some inspection =>
      have hu : bundle.observation.status = .unknown := bundle.inspected_unknown (by simp [hi])
      have hs : inspection.state ≠ .canonicallySpent := fun h =>
        ha ⟨inspection, hi, Or.inr (Or.inl h)⟩
      simp only [hu, ObservedStatus.found_unknown, Bool.false_eq_true, if_false]
      cases h : inspection.state with
      | canonicallySpent => exact absurd h hs
      | _ => rfl

@[simp] theorem clearedDraft_snapshot (r : Bool) (draft : Draft) :
    (clearedDraft r draft).snapshot = draft.snapshot := by
  unfold clearedDraft
  split <;> rfl

@[simp] theorem clearedDraft_conflictType (r : Bool) (draft : Draft) :
    (clearedDraft r draft).conflictType = draft.conflictType := by
  unfold clearedDraft
  split <;> rfl

@[simp] theorem clearedDraft_conflictDetails (r : Bool) (draft : Draft) :
    (clearedDraft r draft).conflictDetails = draft.conflictDetails := by
  unfold clearedDraft
  split <;> rfl

@[simp] theorem clearedDraft_eventKind (r : Bool) (draft : Draft) :
    (clearedDraft r draft).eventKind = draft.eventKind := by
  unfold clearedDraft
  split <;> rfl

@[simp] theorem reevaluates_cleared (r : Bool) (draft : Draft) :
    reevaluates aggregate r (clearedDraft r draft) = reevaluates aggregate r draft := by
  simp [reevaluates, reverifyAssertions]

/-- A confirmed draft that is not evaluated again belongs to a settled and verified row. -/
theorem verified_of_not_reevaluated {r : Bool} {draft : Draft}
    (hw : draft.snapshot.workflowStatus = .confirmed) (hcells : aggregate.intent.expectedCells ≠ [])
    (h : ¬ reevaluates aggregate r draft = true) :
    aggregate.execution.settlementReadyAt.isSome ∧
      aggregate.execution.assertionStatus = some .verified := by
  by_contra hne
  refine h ?_
  rw [not_and_or] at hne
  simp only [reevaluates, reverifyAssertions, shouldReverifyExpectedCells, hw]
  rcases hne with hat | hver
  · simp [hat, hcells]
  · simp [hver, hcells]

variable (env aggregate bundle) in
/-- The assertion stage finds the expected Cells contradicted. -/
def assertionsFail (reorgDetected : Bool) (draft : Draft) : Bool :=
  reevaluates aggregate reorgDetected draft &&
    (evaluation env aggregate bundle).status = .failed

variable (env aggregate bundle) in
/-- **The assertion stage**: a contradicted Cell marks the snapshot and the conflict type; an
evaluation sets the assertion status. -/
theorem assertionDraft_fields (r : Bool) (draft : Draft) :
    (assertionDraft env aggregate bundle r draft).snapshot =
        (if assertionsFail env aggregate bundle r draft then conflictedSnapshot draft.snapshot
        else draft.snapshot) ∧
      (assertionDraft env aggregate bundle r draft).conflictType =
        (if assertionsFail env aggregate bundle r draft then some .expectedCellAssertionFailed
        else draft.conflictType) ∧
      (assertionDraft env aggregate bundle r draft).assertionStatus =
        (if reevaluates aggregate r draft then some (evaluation env aggregate bundle).status
        else (clearedDraft r draft).assertionStatus) := by
  unfold assertionDraft
  simp only [reevaluates_cleared]
  by_cases he : reevaluates aggregate r draft = true
  · cases hs : (evaluation env aggregate bundle).status <;>
      simp [assertionsFail, assertionFailedDraft, he, hs]
  · simp [assertionsFail, he]

/-- A draft the conflict stage marked is not evaluated again. -/
theorem assertionsFail_of_conflicts {txHash : String} {draft : Draft} {r : Bool}
    (hc : (conflictVerdict env aggregate bundle).conflicts env aggregate = true) :
    assertionsFail env aggregate bundle r (conflictDraft env aggregate bundle txHash draft) =
      false := by
  obtain ⟨hs, -⟩ := conflictDraft_fields env aggregate bundle txHash draft
  rw [hc, if_pos rfl] at hs
  simp [assertionsFail, reevaluates, hs, conflictedSnapshot]

variable (env aggregate bundle) in
/-- The step marks the snapshot CONFLICTED, by its conflict evidence or by its assertions. -/
def stepConflicts (txHash : String) (applied : ApplyObservationResult) : Bool :=
  (conflictVerdict env aggregate bundle).conflicts env aggregate ||
    assertionsFail env aggregate bundle applied.reorgDetected
      (conflictDraft env aggregate bundle txHash (observedDraft aggregate bundle applied))

variable (env aggregate bundle) in
/-- **The snapshot a step plans**: the observed one, with its submission axis and, where the step
found a conflict, the workflow axis changed. -/
theorem plannedDraft_snapshot (txHash : String) (applied : ApplyObservationResult) :
    (plannedDraft env aggregate bundle txHash applied).snapshot =
      { applied.snapshot with
        submissionStatus := (observedDraft aggregate bundle applied).snapshot.submissionStatus
        workflowStatus :=
          if stepConflicts env aggregate bundle txHash applied then .conflicted
          else applied.snapshot.workflowStatus } := by
  have hobs := observedDraft_snapshot aggregate bundle applied
  obtain ⟨hs₁, -⟩ := conflictDraft_fields env aggregate bundle txHash
    (observedDraft aggregate bundle applied)
  obtain ⟨hs, -⟩ := assertionDraft_fields env aggregate bundle applied.reorgDetected
    (conflictDraft env aggregate bundle txHash (observedDraft aggregate bundle applied))
  unfold plannedDraft stepConflicts
  rw [hs, hs₁]
  cases (conflictVerdict env aggregate bundle).conflicts env aggregate <;>
    cases assertionsFail env aggregate bundle applied.reorgDetected
      (conflictDraft env aggregate bundle txHash (observedDraft aggregate bundle applied)) <;>
    simp only [Bool.or_true, Bool.or_false, if_true, if_false, Bool.false_eq_true,
      conflictedSnapshot] <;>
    rw [hobs]

variable (env aggregate bundle) in
/-- **The conflict type a step plans.** -/
theorem plannedDraft_conflictType (txHash : String) (applied : ApplyObservationResult) :
    (plannedDraft env aggregate bundle txHash applied).conflictType =
      if assertionsFail env aggregate bundle applied.reorgDetected
          (conflictDraft env aggregate bundle txHash (observedDraft aggregate bundle applied)) then
        some .expectedCellAssertionFailed
      else (conflictVerdict env aggregate bundle).leaves env aggregate
        aggregate.execution.conflictType aggregate.execution.conflictDetails := by
  obtain ⟨-, hc₁, -⟩ := conflictDraft_fields env aggregate bundle txHash
    (observedDraft aggregate bundle applied)
  obtain ⟨-, hc, -⟩ := assertionDraft_fields env aggregate bundle applied.reorgDetected
    (conflictDraft env aggregate bundle txHash (observedDraft aggregate bundle applied))
  unfold plannedDraft
  rw [hc, hc₁]
  rfl

variable (env aggregate bundle) in
/-- **The assertion status a step plans**: that of its evaluation, or the one on record where no
reorg cleared it. -/
theorem plannedDraft_assertionStatus (txHash : String) (applied : ApplyObservationResult) :
    (plannedDraft env aggregate bundle txHash applied).assertionStatus =
      if reevaluates aggregate applied.reorgDetected
          (conflictDraft env aggregate bundle txHash (observedDraft aggregate bundle applied)) then
        some (evaluation env aggregate bundle).status
      else if applied.reorgDetected ||
          (conflictDraft env aggregate bundle txHash
            (observedDraft aggregate bundle applied)).snapshot.workflowStatus = .reorged then none
      else aggregate.execution.assertionStatus := by
  obtain ⟨-, -, ha₁⟩ := conflictDraft_fields env aggregate bundle txHash
    (observedDraft aggregate bundle applied)
  obtain ⟨-, -, ha⟩ := assertionDraft_fields env aggregate bundle applied.reorgDetected
    (conflictDraft env aggregate bundle txHash (observedDraft aggregate bundle applied))
  have hkeep : (observedDraft aggregate bundle applied).assertionStatus =
      aggregate.execution.assertionStatus := rfl
  unfold plannedDraft
  rw [ha]
  congr 1
  simp only [clearedDraft]
  split
  · rfl
  · rw [ha₁, hkeep]

variable (env aggregate bundle) in
/-- Without a conflict mark the step keeps the workflow axis of the observation. -/
theorem conflictDraft_snapshot (txHash : String) (applied : ApplyObservationResult)
    (hc : (conflictVerdict env aggregate bundle).conflicts env aggregate = false) :
    (conflictDraft env aggregate bundle txHash (observedDraft aggregate bundle applied)).snapshot =
      { applied.snapshot with
        submissionStatus :=
          (observedDraft aggregate bundle applied).snapshot.submissionStatus } := by
  obtain ⟨hs, -⟩ := conflictDraft_fields env aggregate bundle txHash
    (observedDraft aggregate bundle applied)
  rw [hs, hc, if_neg (by simp)]
  exact observedDraft_snapshot aggregate bundle applied

variable (env aggregate bundle)

/-! ## Scheduling -/

/-- `isTerminal`. -/
def isTerminal (snapshot : ExecutionSnapshot) (assertionStatus : Option AssertionStatus)
    (expectedCount : Nat) : Bool :=
  if snapshot.workflowStatus = .conflicted ∨ snapshot.workflowStatus = .expired ∨
      snapshot.chainStatus = .rejected then true
  else if snapshot.workflowStatus ≠ .confirmed then false
  else expectedCount = 0 || assertionStatus = some .verified

/-- Another attempt may still commit. -/
def unresolvedCompetingCandidate (draft : Draft) : Bool :=
  draft.snapshot.workflowStatus ≠ .confirmed && !(rivals aggregate).isEmpty

/-- The draft is ready for settlement. -/
def draftReady (draft : Draft) : Bool :=
  isSettlementReady draft.snapshot draft.assertionStatus aggregate.intent.expectedCells.length
    draft.conflictType

/-- Whether the finite post-settlement watch is still running. -/
def monitoring (draft : Draft) : Bool :=
  let firstReadyAt :=
    if draftReady aggregate draft then
      some (aggregate.execution.settlementReadyAt.getD bundle.observation.observedAt)
    else none
  shouldContinueSettlementMonitoring (draftReady aggregate draft) firstReadyAt env.nowMs
    (postSettlementMonitorMs env.settings)

/-- Nothing more is to be watched. -/
def terminal (draft : Draft) : Bool :=
  isTerminal draft.snapshot draft.assertionStatus aggregate.intent.expectedCells.length &&
    !unresolvedCompetingCandidate aggregate draft && !monitoring env aggregate bundle draft

/-- A rejected submission has lost its conflict, and nothing else is open. -/
def nodeRejectionConflictResolved (draft : Draft) : Bool :=
  !unresolvedCompetingCandidate aggregate draft && bundle.observation.status = .unknown &&
    aggregate.execution.submissionStatus = .nodeRejected && draft.conflictType.isNone

/-- When the execution is due again, if ever. -/
def nextDelayMs (draft : Draft) : Option Int :=
  if terminal env aggregate bundle draft || nodeRejectionConflictResolved aggregate bundle draft then
    none
  else if monitoring env aggregate bundle draft then
    some (min 60000 (max 12000 (postSettlementMonitorMs env.settings / 20)))
  else some (nextReconcileDelayMs aggregate.execution.reconcileAttempts draft.snapshot.chainStatus)

variable {env aggregate bundle} in
/-- A step schedules no next one exactly where it is terminal, or leaves a resolved node rejection. -/
theorem nextDelayMs_eq_none {draft : Draft} : nextDelayMs env aggregate bundle draft = none ↔
    terminal env aggregate bundle draft = true ∨
      nodeRejectionConflictResolved aggregate bundle draft = true := by
  unfold nextDelayMs
  by_cases ht : terminal env aggregate bundle draft = true
  · simp [ht]
  · by_cases hr : nodeRejectionConflictResolved aggregate bundle draft = true
    · simp [hr]
    · by_cases hm : monitoring env aggregate bundle draft = true <;> simp [ht, hr, hm]

/-- What the step hands to `applySnapshot`. -/
def plannedInput (applied : ApplyObservationResult) (draft : Draft) : ApplyInput where
  aggregate := aggregate
  snapshot := draft.snapshot
  event :=
    { kind := draft.eventKind
      fromStatus := applied.event.fromOverall
      toStatus := deriveOverallStatus draft.snapshot
      reason := truthy draft.reason
      rawObservation := some bundle.observation.raw
      occurredAt := bundle.observation.observedAt }
  nextReconcileAt := (nextDelayMs env aggregate bundle draft).map (env.nowMs + ·)
  assertionStatus := some draft.assertionStatus
  assertionResult := some draft.assertionResult
  conflictType := some draft.conflictType
  conflictDetails := some draft.conflictDetails

end Stages

end CellFlow
