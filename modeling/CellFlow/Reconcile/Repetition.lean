/-
# CellFlow.Reconcile.Repetition — the same evidence, observed twice.

Two answers carry the same evidence where they differ in clock readings and in the tip only.  The
state machine keeps the snapshot of such an answer when it comes again (`observedSnapshot_again`).
The conflict details of a step are another matter: a contended or spent input rebuilds them, in an
order no `jsonb` column returns, and a broken spend record is marked with the time once more.
-/
import CellFlow.Reconcile.Reconcile
import CellFlow.Lib.JsonEquality

namespace CellFlow

open Js (Json toISOString)

/-! ## Evidence -/

/-- An observation without its clock reading, its tip and the raw record of both. -/
def ChainObservation.timeless (observation : ChainObservation) : ChainObservation :=
  { observation with observedAt := 0, tipBlockNumber := none, raw := .null }

/-- An inspection without its clock reading and its tip. -/
def InputInspection.timeless (inspection : InputInspection) : InputInspection :=
  { inspection with observedAt := 0, tipBlockNumber := none }

/-- Two answers that differ in clock readings and in the tip only. -/
structure SameEvidence (b₁ b₂ : RpcObservationBundle) : Prop where
  observation : b₁.observation.timeless = b₂.observation.timeless
  transaction : b₁.transaction = b₂.transaction
  endpoint : b₁.endpoint = b₂.endpoint
  inspection : b₁.inputInspection.map InputInspection.timeless =
    b₂.inputInspection.map InputInspection.timeless

/-- What such observations agree on. -/
theorem timeless_eq {o₁ o₂ : ChainObservation} (h : o₁.timeless = o₂.timeless) :
    o₁.status = o₂.status ∧ o₁.blockHash = o₂.blockHash ∧ o₁.blockNumber = o₂.blockNumber ∧
      o₁.rejectionReason = o₂.rejectionReason ∧
      o₁.priorCommitCanonical = o₂.priorCommitCanonical := by
  simp only [ChainObservation.timeless, ChainObservation.mk.injEq] at h
  obtain ⟨hstatus, -, -, hhash, hnumber, -, hreason, hprior⟩ := h
  exact ⟨hstatus, hhash, hnumber, hreason, hprior⟩

namespace SameEvidence

variable {b₁ b₂ : RpcObservationBundle} (h : SameEvidence b₁ b₂)

include h

theorem status : b₁.observation.status = b₂.observation.status := (timeless_eq h.observation).1

theorem priorCommitCanonical :
    b₁.observation.priorCommitCanonical = b₂.observation.priorCommitCanonical :=
  (timeless_eq h.observation).2.2.2.2

/-- Where the second answer has no inspection, neither has the first. -/
theorem inspection_none (hnone : b₂.inputInspection = none) : b₁.inputInspection = none := by
  have hmap := h.inspection
  rw [hnone, Option.map_none, Option.map_eq_none_iff] at hmap
  exact hmap

/-- An inspection of the second answer is one of the first at another time. -/
theorem inspection_some {i₂ : InputInspection} (hsome : b₂.inputInspection = some i₂) :
    ∃ i₁, b₁.inputInspection = some i₁ ∧ i₁.state = i₂.state := by
  have hmap := h.inspection
  rw [hsome, Option.map_some] at hmap
  obtain ⟨i₁, hi₁, hsame⟩ := Option.map_eq_some_iff.mp hmap
  refine ⟨i₁, hi₁, ?_⟩
  show i₁.timeless.state = i₂.timeless.state
  rw [hsame]

end SameEvidence

/-- `observe` asks whether the recorded block is canonical only where the row names one. -/
def answersFor (row : ExecutionRecord) (bundle : RpcObservationBundle) : Prop :=
  bundle.observation.priorCommitCanonical.isSome →
    (truthy row.committedBlockHash).isSome ∧ (truthy row.committedBlockNumber).isSome

/-! ## Observing twice -/

section Snapshots

variable {s t : ExecutionSnapshot} {o o₁ o₂ : ChainObservation}

/-- The texts of a snapshot as a row gives them back: none is empty. -/
structure ReadBack (s : ExecutionSnapshot) : Prop where
  hash : truthy s.committedBlockHash = s.committedBlockHash
  number : truthy s.committedBlockNumber = s.committedBlockNumber
  reason : truthy s.rejectionReason = s.rejectionReason

theorem readBack_execution (row : ExecutionRecord) : ReadBack (snapshotFromExecution row) :=
  ⟨truthy_truthy _, truthy_truthy _, truthy_truthy _⟩

theorem truthy_or {x y : Option String} (hy : truthy y = y) :
    truthy ((truthy x).or y) = (truthy x).or y := by
  cases hx : truthy x with
  | none => simpa using hy
  | some text =>
      rw [Option.some_or]
      exact truthy_some_of_eq hx

theorem advancedSnapshot_reason (s : ExecutionSnapshot) (o : ChainObservation) :
    (advancedSnapshot s o).rejectionReason = (truthy o.rejectionReason).or s.rejectionReason := by
  unfold advancedSnapshot
  cases o.status <;> simp <;> split <;> rfl

/-- An observation leaves no empty text either. -/
theorem ReadBack.observed (h : ReadBack s) (o : ChainObservation) : ReadBack (observedSnapshot s o) := by
  unfold observedSnapshot
  split
  · exact ⟨h.hash, h.number, h.reason⟩
  · refine ⟨?_, ?_, ?_⟩
    · rw [advancedSnapshot_hash]
      by_cases hr : reorgAgainstPriorCommit s o = true
      · cases o.status <;> simp [hr, truthy_or h.hash, h.hash]
      · cases o.status <;> simp [hr, truthy_or h.hash, h.hash]
    · rw [advancedSnapshot_number]
      by_cases hr : reorgAgainstPriorCommit s o = true
      · cases o.status <;> simp [hr, truthy_or h.number, h.number]
      · cases o.status <;> simp [hr, truthy_or h.number, h.number]
    · rw [advancedSnapshot_reason]
      exact truthy_or h.reason

/-- Whether an answer disproves the recorded commit is no matter of clock and tip. -/
theorem reorg_timeless (s : ExecutionSnapshot) (ho : o₁.timeless = o₂.timeless) :
    reorgAgainstPriorCommit s o₁ = reorgAgainstPriorCommit s o₂ := by
  show reorgAgainstPriorCommit s o₁.timeless = reorgAgainstPriorCommit s o₂.timeless
  rw [ho]

/-- Nor of anything but the recorded hash. -/
theorem reorg_congr (h : s.committedBlockHash = t.committedBlockHash) (o : ChainObservation) :
    reorgAgainstPriorCommit s o = reorgAgainstPriorCommit t o := by
  unfold reorgAgainstPriorCommit
  rw [h]

/-- A reorg a non-committed answer proves is one the endpoint was asked about. -/
theorem prior_of_reorg (hr : reorgAgainstPriorCommit s o = true) (hc : o.status ≠ .committed) :
    o.priorCommitCanonical = some false := by
  unfold reorgAgainstPriorCommit at hr
  split at hr
  · cases hr
  · by_contra hne
    rw [if_neg hne, if_neg hc] at hr
    cases hr

/-- The commit an answer of this status clears cannot be asked about again, so an answer that comes
again has cleared none. -/
theorem unreorged_again (ho : o₁.timeless = o₂.timeless)
    (hasked : o₂.priorCommitCanonical.isSome → (observedSnapshot s o₁).committedBlockHash.isSome)
    (hc : o₁.status ≠ .committed) (hj : o₁.status ≠ .rejected) :
    reorgAgainstPriorCommit s o₁ = false := by
  by_contra hr
  rw [Bool.not_eq_false] at hr
  have hprior : o₂.priorCommitCanonical = some false := by
    rw [← (timeless_eq ho).2.2.2.2]
    exact prior_of_reorg hr hc
  have hcleared : (observedSnapshot s o₁).committedBlockHash = none := by
    have hp : preservesCommit s o₁ = false := by simp [preservesCommit, hr]
    rw [observedSnapshot, hp, if_neg (by decide), advancedSnapshot_hash]
    cases hstatus : o₁.status with
    | committed => exact absurd hstatus hc
    | rejected => exact absurd hstatus hj
    | unknown => simp [hr]
    | pending => simp [hr]
    | proposed => simp [hr]
  rw [hprior, hcleared] at hasked
  exact absurd (hasked rfl) (by decide)

/-- Nor does it leave the row in a reorg. -/
theorem not_reorged_again (ho : o₁.timeless = o₂.timeless)
    (hasked : o₂.priorCommitCanonical.isSome →
      (observedSnapshot s o₁).committedBlockHash.isSome) :
    (observedSnapshot s o₁).workflowStatus ≠ .reorged := by
  have hr := unreorged_again ho hasked
  unfold observedSnapshot
  split
  · simp only [preservedSnapshot]
    split <;> decide
  · rw [advancedSnapshot_workflow]
    cases hc : o₁.status with
    | committed =>
        simp only
        split <;> decide
    | rejected => simp
    | unknown => simp [hr (by simp [hc]) (by simp [hc])]
    | pending => simp [hr (by simp [hc]) (by simp [hc])]
    | proposed => simp [hr (by simp [hc]) (by simp [hc])]

/-- The confirmation count an observation leaves. -/
def countAfter (t : ExecutionSnapshot) (o : ChainObservation) : Nat :=
  if o.status = .committed then computeConfirmationCount o.blockNumber o.tipBlockNumber
  else t.confirmationCount

/-- **The same evidence keeps the snapshot it left**, up to the confirmation count. -/
theorem observedSnapshot_again (ho : o₁.timeless = o₂.timeless)
    {submission : SubmissionStatus}
    (ht : t = { observedSnapshot s o₁ with submissionStatus := submission })
    (hasked : o₂.priorCommitCanonical.isSome → t.committedBlockHash.isSome)
    (hdepth : isConfirmationSatisfied s.confirmationPolicy .committed
        (computeConfirmationCount o₁.blockNumber o₁.tipBlockNumber) =
      isConfirmationSatisfied s.confirmationPolicy .committed
        (computeConfirmationCount o₂.blockNumber o₂.tipBlockNumber)) :
    observedSnapshot t o₂ = { t with confirmationCount := countAfter t o₂ } := by
  obtain ⟨hstatus, hhash, hnumber, hreason, -⟩ := timeless_eq ho
  have hasked' : o₂.priorCommitCanonical.isSome →
      (observedSnapshot s o₁).committedBlockHash.isSome := by
    rw [ht] at hasked
    exact hasked
  by_cases hp : preservesCommit s o₁ = true
  · -- a preserved commit is preserved again
    have hp' := hp
    simp only [preservesCommit, Bool.and_eq_true, decide_eq_true_eq, Bool.not_eq_true'] at hp'
    obtain ⟨⟨hchain, hne⟩, hr⟩ := hp'
    rw [observedSnapshot, if_pos hp] at ht
    have hp₂ : preservesCommit t o₂ = true := by
      have hr₂ : reorgAgainstPriorCommit t o₂ = false := by
        rw [← hr, reorg_timeless s ho]
        apply reorg_congr
        rw [ht]
        rfl
      have hchain₂ : t.chainStatus = .committed := by
        rw [ht]
        exact hchain
      simp [preservesCommit, hchain₂, hr₂, ← hstatus, hne]
    rw [observedSnapshot, if_pos hp₂, countAfter, if_neg (hstatus ▸ hne), ht]
    simp only [preservedSnapshot]
    by_cases hw : s.workflowStatus = .confirmed
    · simp [hw]
    · simp [hw]
  · rw [observedSnapshot, if_neg hp] at ht
    have hchain : t.chainStatus = o₁.status.chain := by
      rw [ht]
      exact advancedSnapshot_chain s o₁
    have hp₂ : ¬ preservesCommit t o₂ = true := by
      simp only [preservesCommit, hchain, hstatus]
      cases o₂.status <;> simp
    rw [observedSnapshot, if_neg hp₂]
    have hor : ∀ x y : Option String, x.or (x.or y) = x.or y := by
      intro x y
      cases x <;> rfl
    have hplain : o₁.status ≠ .committed → o₁.status ≠ .rejected →
        reorgAgainstPriorCommit s o₁ = false ∧ reorgAgainstPriorCommit t o₂ = false := by
      intro hnc hnj
      have hr := unreorged_again ho hasked' hnc hnj
      refine ⟨hr, ?_⟩
      rw [← hr, reorg_timeless s ho]
      apply reorg_congr
      rw [ht]
      show (advancedSnapshot s o₁).committedBlockHash = s.committedBlockHash
      rw [advancedSnapshot_hash]
      cases hc : o₁.status with
      | committed => exact absurd hc hnc
      | rejected => rfl
      | unknown => simp [hr]
      | pending => simp [hr]
      | proposed => simp [hr]
    cases hc : o₁.status with
    | committed =>
        have hc₂ := hstatus.symm.trans hc
        subst ht
        simp [advancedSnapshot, hc, hc₂, ← hhash, ← hnumber, ← hreason, hor, hdepth, countAfter]
    | rejected =>
        have hc₂ := hstatus.symm.trans hc
        subst ht
        simp [advancedSnapshot, hc, hc₂, ← hreason, hor, countAfter]
    | unknown =>
        obtain ⟨hr, hr₂⟩ := hplain (by simp [hc]) (by simp [hc])
        have hc₂ := hstatus.symm.trans hc
        subst ht
        simp [advancedSnapshot, hc, hr] at hr₂
        simp [advancedSnapshot, hc, hc₂, hr, hr₂, ← hreason, hor, countAfter]
    | pending =>
        obtain ⟨hr, hr₂⟩ := hplain (by simp [hc]) (by simp [hc])
        have hc₂ := hstatus.symm.trans hc
        subst ht
        simp [advancedSnapshot, hc, hr] at hr₂
        simp [advancedSnapshot, hc, hc₂, hr, hr₂, ← hreason, hor, countAfter]
    | proposed =>
        obtain ⟨hr, hr₂⟩ := hplain (by simp [hc]) (by simp [hc])
        have hc₂ := hstatus.symm.trans hc
        subst ht
        simp [advancedSnapshot, hc, hr] at hr₂
        simp [advancedSnapshot, hc, hc₂, hr, hr₂, ← hreason, hor, countAfter]

/-- A reorg the second answer proves, the first has proved. -/
theorem reorg_first (ho : o₁.timeless = o₂.timeless) {submission : SubmissionStatus}
    (ht : t = { observedSnapshot s o₁ with submissionStatus := submission })
    (hasked : o₁.priorCommitCanonical.isSome → (truthy s.committedBlockHash).isSome)
    (hr : reorgAgainstPriorCommit t o₂ = true) : reorgAgainstPriorCommit s o₁ = true := by
  obtain ⟨hstatus, hhash, -, -, hprior⟩ := timeless_eq ho
  by_cases hdisproved : o₁.priorCommitCanonical = some false
  · obtain ⟨recorded, hrecorded⟩ := Option.isSome_iff_exists.mp (hasked (by simp [hdisproved]))
    simp [reorgAgainstPriorCommit, hrecorded, hdisproved]
  · exfalso
    have hc : o₂.status = .committed := by
      by_contra hne
      exact hdisproved (hprior.trans (prior_of_reorg hr hne))
    -- the block of a committed answer is the one it has just recorded
    have hrecorded : t.committedBlockHash = (truthy o₂.blockHash).or s.committedBlockHash := by
      have hp : preservesCommit s o₁ = false := by simp [preservesCommit, hstatus, hc]
      rw [ht]
      show (observedSnapshot s o₁).committedBlockHash = _
      rw [observedSnapshot, hp, if_neg (by decide), advancedSnapshot_hash, hstatus, hc, hhash]
    unfold reorgAgainstPriorCommit at hr
    rw [hrecorded, ← hprior] at hr
    simp only [if_neg hdisproved, if_pos hc] at hr
    cases hblock : truthy o₂.blockHash with
    | none =>
        simp only [hblock] at hr
        split at hr <;> cases hr
    | some block =>
        have hnormal : truthy (some block) = some block := truthy_some_of_eq hblock
        simp [hblock, hnormal] at hr

end Snapshots

/-! ## Conflict details -/

section Details

variable {details : Json} {inspection : InputInspection} {at₁ at₂ : Int} {reason : String}

/-- Details that are rebuilt start with their source, which no column returns first. -/
theorem rebuilt_ne_stored {stored source : Json} {rest : List (String × Json)}
    (h : (rest.lookup "inputs").isSome) : stored.jsonb ≠ .obj (("source", source) :: rest) := by
  obtain ⟨inputs, hinputs⟩ := Option.isSome_iff_exists.mp h
  obtain ⟨before, after, rfl, -⟩ := List.lookup_eq_some_iff.mp hinputs
  apply Json.jsonb_ne_obj (q := ("inputs", inputs)) (by simp)
  show Json.keyLe "source" "inputs" = false
  decide

theorem contention_ne_stored (settings : ReconcileSettings) (prior stored : Json) :
    stored.jsonb ≠ (contentionDetails settings prior inspection).1 := by
  apply rebuilt_ne_stored
  rfl

theorem spentSuspected_ne_stored (view : IntentAggregate) (corroboration : Option Corroboration)
    (stored : Json) :
    stored.jsonb ≠ spentSuspectedDetails view inspection corroboration := by
  have hkeys : ∀ u ∈ [("inputDomain", Json.str (inputConflictDomain inspection .spent).text),
      ("spentInputs", observationsJson inspection.spentInputs)] ++
        (corroboration.map fun c => ("corroboration", c.toJson)).toList,
      u.1 ≠ "source" ∧ u.1 ≠ "inputs" := by
    cases corroboration <;> simp
  obtain ⟨rest, hspread, htail⟩ :
      ∃ rest, spentSuspectedDetails view inspection corroboration =
          .obj (("source", .str "reconciliation") :: rest) ∧
        Json.spread (spentMembers view inspection).tail _ = .obj rest :=
    Json.spread_cons fun u hu => (hkeys u hu).1
  rw [hspread]
  apply rebuilt_ne_stored
  have hinputs : (Json.obj rest).get? "inputs" =
      (spentMembers view inspection).tail.lookup "inputs" := by
    rw [← htail]
    exact Json.get?_spread_of_ne fun u hu => (hkeys u hu).2
  show ((Json.obj rest).get? "inputs").isSome = true
  rw [hinputs]
  rfl

/-! ### A broken record -/

/-- The details with a recorded spend marked as broken, as an outage or an uncertain input leaves
them. -/
def markedDetails (details : Option Json) (now : Int) (reason : String) : Option Json :=
  (breakSpendObservationContinuity (detailsOf details) now reason).or details

/-- A recorded spend whose mark is of another time. -/
def breaksAgain (details : Json) (now : Int) : Prop :=
  details.string? "classification" = some "INPUT_SPENT_OBSERVED" ∧
    details.string? "continuityBrokenAt" ≠ some (toISOString now)

theorem detailsOf_stored (details : Option Json) :
    detailsOf (details.map Json.jsonb) = (detailsOf details).jsonb := by
  cases details <;> rfl

/-- What a mark leaves in the members a reader asks for. -/
theorem marked_members {details broken : Json} {now : Int} {reason : String}
    (h : breakSpendObservationContinuity details now reason = some broken) :
    details.string? "classification" = some "INPUT_SPENT_OBSERVED" ∧
      ∃ members, broken = .obj members ∧
        members.lookup "classification" = some (.str "INPUT_SPENT_OBSERVED") ∧
        members.lookup "continuityBroken" = some (.bool true) ∧
        members.lookup "continuityBrokenAt" = some (.str (toISOString now)) ∧
        members.lookup "continuityBreakReason" = some (.str reason) := by
  unfold breakSpendObservationContinuity at h
  split_ifs at h with hclass
  rw [not_not] at hclass
  obtain rfl := Option.some.inj h
  refine ⟨hclass, _, rfl, ?_, ?_, ?_, ?_⟩
  · cases details with
    | obj members =>
        have hread : members.lookup "classification" = some (.str "INPUT_SPENT_OBSERVED") :=
          Json.string?_eq_some.mp hclass
        simpa [Json.members, Json.lookup_assign] using hread
    | null => cases hclass
    | bool b => cases hclass
    | num x => cases hclass
    | str s => cases hclass
    | arr items => cases hclass
  · simp [Json.lookup_assign]
  · simp [Json.lookup_assign]
  · simp [Json.lookup_assign]

/-- A mark leaves the classification. -/
theorem marked_classification (details : Option Json) (now : Int) (reason : String) :
    (detailsOf ((markedDetails details now reason).map Json.jsonb)).string? "classification" =
      (detailsOf details).string? "classification" := by
  rw [detailsOf_stored, Json.string?_jsonb]
  cases hmark : breakSpendObservationContinuity (detailsOf details) now reason with
  | none => rw [markedDetails, hmark, Option.none_or]
  | some broken =>
      obtain ⟨hclass, members, rfl, hread, -⟩ := marked_members hmark
      rw [markedDetails, hmark, Option.some_or, hclass]
      exact Json.string?_eq_some.mpr hread

/-- **A record marked before** is marked as it stands exactly where the mark is of the same time. -/
theorem marked_again (details : Option Json) (at₁ at₂ : Int) (reason : String) :
    ApplyInput.detailsText ((markedDetails details at₁ reason).map Json.jsonb) =
        ApplyInput.detailsText
          (markedDetails ((markedDetails details at₁ reason).map Json.jsonb) at₂ reason) ↔
      ¬ breaksAgain (detailsOf ((markedDetails details at₁ reason).map Json.jsonb)) at₂ := by
  cases hfirst : breakSpendObservationContinuity (detailsOf details) at₁ reason with
  | none =>
      -- no spend is on record, so nothing is marked
      have hclass : (detailsOf (details.map Json.jsonb)).string? "classification" ≠
          some "INPUT_SPENT_OBSERVED" := by
        rw [detailsOf_stored, Json.string?_jsonb]
        intro hclass
        have hsome := breakSpend_isSome (detailsOf details) at₁ reason
        rw [hfirst, hclass] at hsome
        cases hsome
      have hsecond : breakSpendObservationContinuity (detailsOf (details.map Json.jsonb)) at₂ reason =
          none := if_pos hclass
      have hkept : markedDetails details at₁ reason = details := by simp [markedDetails, hfirst]
      rw [hkept, markedDetails, hsecond, Option.none_or]
      exact iff_of_true rfl fun h => hclass h.1
  | some broken =>
      obtain ⟨-, members, rfl, hclass, hbroken, hat, hreason⟩ := marked_members hfirst
      have hkept : (markedDetails details at₁ reason).map Json.jsonb =
          some (.obj (Json.jsonbMembers members)) := by
        simp [markedDetails, hfirst, Json.jsonb]
      have hstored : ∀ key v, members.lookup key = some v →
          (Json.jsonbMembers members).lookup key = some v.jsonb := by
        intro key v hv
        rw [Json.lookup_jsonbMembers, hv]
        rfl
      have hat' : (Json.obj (Json.jsonbMembers members)).string? "continuityBrokenAt" =
          some (toISOString at₁) := Json.string?_eq_some.mpr (hstored _ _ hat)
      have hclass' : (Json.obj (Json.jsonbMembers members)).string? "classification" =
          some "INPUT_SPENT_OBSERVED" := Json.string?_eq_some.mpr (hstored _ _ hclass)
      have hagain : breaksAgain (.obj (Json.jsonbMembers members)) at₂ ↔
          toISOString at₁ ≠ toISOString at₂ := by
        unfold breaksAgain
        rw [hat', hclass']
        simp
      obtain ⟨again, hsecond⟩ : ∃ again, breakSpendObservationContinuity
          (.obj (Json.jsonbMembers members)) at₂ reason = some again :=
        ⟨_, if_neg (not_not.mpr hclass')⟩
      rw [hkept]
      simp only [markedDetails, detailsOf, Option.getD_some, hsecond, Option.some_or,
        ApplyInput.detailsText]
      rw [hagain, not_not]
      constructor
      · intro htext
        have hsame := Json.stringify_injective htext
        obtain ⟨-, members', rfl, -, -, hat₂, -⟩ := marked_members hsecond
        rw [Json.obj.injEq] at hsame
        rw [← hsame, hstored _ _ hat] at hat₂
        exact Json.str.inj (Option.some.inj hat₂)
      · intro hsame
        have hspread : Json.spread (Json.jsonbMembers members)
            [("continuityBroken", .bool true), ("continuityBrokenAt", .str (toISOString at₂)),
              ("continuityBreakReason", .str reason)] = .obj (Json.jsonbMembers members) := by
          apply Json.spread_of_lookup
          simp only [List.mem_cons, List.not_mem_nil, or_false, forall_eq_or_imp, forall_eq]
          rw [← hsame]
          exact ⟨hstored _ _ hbroken, hstored _ _ hat, hstored _ _ hreason⟩
        have hnamed : breakSpendObservationContinuity (.obj (Json.jsonbMembers members)) at₂ reason =
            some (.obj (Json.jsonbMembers members)) := by
          exact (if_neg (not_not.mpr hclass')).trans (congrArg some hspread)
        rw [Option.some.inj (hsecond.symm.trans hnamed)]

end Details

end CellFlow
