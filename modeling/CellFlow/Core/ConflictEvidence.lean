/-
# CellFlow.Core.ConflictEvidence — the spend evidence folded into a conflict's details.

`packages/core/src/conflict-evidence.ts`: every canonical sighting of a spent input extends one JSON
object, an observation that obtained no such sighting marks its continuity broken, and a terminal
conflict needs an unbroken record that spans the confirmation policy.
-/
import CellFlow.Lib.Time
import CellFlow.Core.StateMachine

namespace CellFlow

open Js (Json toISOString)

/-- The part of an input inspection the evidence keeps. -/
structure ConflictInputInspection where
  observedAt : Int
  tipBlockNumber : Option String
  inputs : List Json

/-- `details.classification === "INPUT_SPENT_OBSERVED" && details.continuityBroken !== true`. -/
def spendUnbroken (details : Json) : Bool :=
  details.string? "classification" == some "INPUT_SPENT_OBSERVED" &&
    !details.flag "continuityBroken"

theorem spendUnbroken_jsonb (details : Json) : spendUnbroken details.jsonb = spendUnbroken details := by
  simp only [spendUnbroken, Json.string?_jsonb, Json.flag_jsonb]

/-- Details of another classification are no spend record. -/
theorem spendUnbroken_eq_false {details : Json}
    (h : details.string? "classification" ≠ some "INPUT_SPENT_OBSERVED") :
    spendUnbroken details = false := by
  simp [spendUnbroken, h]

/-- The blocks a spend must stay visible for before it is terminal. -/
def requiredBlocks : ConfirmationPolicy → Nat
  | .depth blocks => max blocks 1
  | .committed => 1

/-- `conflictObservationMatured`: the spend has been seen without a break over as many blocks as the
confirmation policy asks for. -/
def conflictObservationMatured (confirmationPolicy : ConfirmationPolicy) (conflictDetails : Json)
    (inspection : ConflictInputInspection) : Bool :=
  if spendUnbroken conflictDetails = false then false
  else
    let firstTip :=
      parseHexBlockNumber (conflictDetails.string? "firstObservedTipBlockNumber")
    let lastTip := parseHexBlockNumber (conflictDetails.string? "lastObservedTipBlockNumber")
    let currentTip := parseHexBlockNumber inspection.tipBlockNumber
    match firstTip, lastTip, currentTip with
    | some firstTip, some lastTip, some currentTip =>
        if currentTip ≤ lastTip then false
        else
          let observationCount : Int :=
            match conflictDetails.number? "spentObservationCount" with
            | some n => n.floor
            | none => 1
          if observationCount < 1 then false
          else decide (firstTip + requiredBlocks confirmationPolicy ≤ currentTip)
    | _, _, _ => false

/-- **A matured spend**: an unbroken record whose first tip lies the policy's blocks below. -/
theorem matured_first {confirmationPolicy : ConfirmationPolicy} {details : Json}
    {inspection : ConflictInputInspection}
    (h : conflictObservationMatured confirmationPolicy details inspection = true) :
    spendUnbroken details = true ∧ ∃ text firstTip tip,
      details.string? "firstObservedTipBlockNumber" = some text ∧
      parseHexBlockNumber (some text) = some firstTip ∧
      parseHexBlockNumber inspection.tipBlockNumber = some tip ∧
      firstTip + requiredBlocks confirmationPolicy ≤ tip := by
  unfold conflictObservationMatured at h
  split at h
  · cases h
  next hu =>
    refine ⟨by simpa using hu, ?_⟩
    simp only at h
    split at h
    next firstTip lastTip tip hfirst hlast htip =>
      cases ht : details.string? "firstObservedTipBlockNumber" with
      | none =>
          rw [ht] at hfirst
          cases hfirst
      | some text =>
          rw [ht] at hfirst
          refine ⟨text, firstTip, tip, rfl, hfirst, htip, ?_⟩
          simp only [Bool.if_false_left, Bool.and_eq_true, decide_eq_true_eq] at h
          exact h.2.2
    · cases h

/-- The members `nextSpentObservationDetails` returns, in order. -/
def nextSpentObservationDetails (conflictDetails : Json) (inspection : ConflictInputInspection) :
    List (String × Json) :=
  let continues := spendUnbroken conflictDetails
  let previousTip := parseHexBlockNumber (conflictDetails.string? "lastObservedTipBlockNumber")
  let currentTip := parseHexBlockNumber inspection.tipBlockNumber
  let distinctObservation :=
    match previousTip, currentTip with
    | some previousTip, some currentTip => decide (previousTip < currentTip)
    | _, _ => true
  let previousCount :=
    match conflictDetails.number? "spentObservationCount" with
    | some n => max 1 n.floor
    | none => 1
  let observedAt := Json.str (toISOString inspection.observedAt)
  let tip := Json.ofOption inspection.tipBlockNumber
  [("source", .str "reconciliation"),
    ("classification", .str "INPUT_SPENT_OBSERVED"),
    ("canonicalSpendConfirmed", .bool false),
    ("continuityBroken", .bool false),
    ("firstObservedAt",
      if continues then conflictDetails.getD "firstObservedAt" observedAt else observedAt),
    ("firstObservedTipBlockNumber",
      if continues then conflictDetails.getD "firstObservedTipBlockNumber" tip else tip),
    ("lastObservedAt", observedAt),
    ("lastObservedTipBlockNumber", tip),
    ("spentObservationCount",
      .int (if continues then previousCount + (if distinctObservation then 1 else 0) else 1)),
    ("inputs", .arr inspection.inputs)]

/-- The first tip on the record a sighting leaves: the one on record where that was unbroken, or the
tip of the sighting. -/
theorem nextSpent_firstTip {details : Json} {inspection : ConflictInputInspection}
    {updates : List (String × Json)} {text : String}
    (hkey : ∀ u ∈ updates, u.1 ≠ "firstObservedTipBlockNumber")
    (h : (Json.spread (nextSpentObservationDetails details inspection) updates).string?
      "firstObservedTipBlockNumber" = some text) :
    inspection.tipBlockNumber = some text ∨
      (spendUnbroken details = true ∧
        details.string? "firstObservedTipBlockNumber" = some text) := by
  rw [Json.string?_eq_some, Json.get?_spread_of_ne hkey] at h
  by_cases hu : spendUnbroken details = true
  · have hfirst : details.getD "firstObservedTipBlockNumber"
        (Json.ofOption inspection.tipBlockNumber) = .str text := by
      simpa [nextSpentObservationDetails, List.lookup_cons, hu] using h
    rcases Json.getD_eq_str hfirst with htip | hkept
    · exact Or.inl (Json.ofOption_eq_str.mp htip)
    · exact Or.inr ⟨hu, hkept⟩
  · have hfirst : Json.ofOption inspection.tipBlockNumber = .str text := by
      simpa [nextSpentObservationDetails, List.lookup_cons, hu] using h
    exact Or.inl (Json.ofOption_eq_str.mp hfirst)

/-- The marked details; `none` where the source returns its argument unchanged. -/
def breakSpendObservationContinuity (conflictDetails : Json) (observedAt : Int) (reason : String) :
    Option Json :=
  if conflictDetails.string? "classification" ≠ some "INPUT_SPENT_OBSERVED" then none
  else some (Json.spread conflictDetails.members
    [("continuityBroken", .bool true),
      ("continuityBrokenAt", .str (toISOString observedAt)),
      ("continuityBreakReason", .str reason)])

/-- A marked record is broken. -/
theorem breakSpend_broken {details broken : Json} {observedAt : Int} {reason : String}
    (h : breakSpendObservationContinuity details observedAt reason = some broken) :
    spendUnbroken broken = false := by
  unfold breakSpendObservationContinuity at h
  split at h
  · cases h
  · cases h
    simp [spendUnbroken, Json.flag, Json.get?, Json.spread, Json.lookup_assign]

end CellFlow
