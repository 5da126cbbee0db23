/-
# CellFlow.Properties.BroadcastOutcomes — transport uncertainty and node rejections.

The rejection pattern is a list of alternatives.  Three of them are ordinary words: `replace`, `since`
with a verb after it on one line, and `not` with `mature` after it.  Of the texts with no phrase that
is about the transaction, these three decide whether a failed transport is taken for a rejection
(`transport_uncertain_iff`).
-/
import CellFlow.Client.BroadcastErrors

namespace CellFlow

open Js (Json Regex)
open Js.Regex (Mentions FollowedBy)

/-- The alternatives that name the transaction or its inputs and stand before `replace`. -/
def inputPhrases : List Regex :=
  [phraseThen "pool" ["reject"], phraseThen "transaction" ["reject"], phrase "invalid transaction",
    phrase "invalid tx", phrase "verification failed", phraseThen "script" ["failed", "error"],
    phraseThen "resolve" ["failed"], unknownOutPoint, phrase "unknown(outpoint",
    phrase "dead(outpoint", phrase "dead input", phrase "already spent", phrase "fee too low"]

/-- Those that stand after it. -/
def poolPhrases : List Regex :=
  [phrase "poolrejectedrbf", wholeWord "rbf", phrase "unconfirmed input",
    wholeWord "immature", phraseThen "cellbase" ["mature", "maturity"]]

/-- The alternatives of the rejection pattern that name the transaction, its inputs or the pool. -/
def specificAlternatives : List Regex := inputPhrases ++ poolPhrases

/-- `since.*(?:…)` and `not.*mature`. -/
def sinceAndNot : List Regex :=
  [phraseThen "since" ["not", "invalid", "mature", "satisfied", "reached"],
    phraseThen "not" ["mature"]]

/-- Some phrase of the text is about the transaction. -/
def NamesRejection (text : String) : Prop :=
  ∃ re ∈ specificAlternatives, testPattern re text = true

instance (text : String) : Decidable (NamesRejection text) :=
  inferInstanceAs (Decidable (∃ re ∈ specificAlternatives, _))

/-- The ordinary words the rejection pattern takes for a rejection. -/
def HasRejectionWord (text : String) : Prop :=
  Mentions "replace".toList text.toList ∨
    FollowedBy isDot "since".toList
      (["not", "invalid", "mature", "satisfied", "reached"].map String.toList) text.toList ∨
    FollowedBy isDot "not".toList (["mature"].map String.toList) text.toList

theorem testPattern_replaceWord (text : String) :
    testPattern replaceWord text = true ↔ Mentions "replace".toList text.toList :=
  Regex.test_lit_optional "replace".toList (phrase "ment") text.toList

theorem testPattern_phraseThen (first : String) (later : List String) (text : String) :
    testPattern (phraseThen first later) text = true ↔
      FollowedBy isDot first.toList (later.map String.toList) text.toList :=
  Regex.test_followedBy isDot first.toList (later.map String.toList) text.toList

theorem exists_mem_append_iff {α : Type} {p : α → Prop} {l l' : List α} :
    (∃ a ∈ l ++ l', p a) ↔ (∃ a ∈ l, p a) ∨ ∃ a ∈ l', p a := by
  simp only [List.mem_append, or_and_right, exists_or]

theorem rejectionAlternatives_eq :
    rejectionAlternatives = inputPhrases ++ ([replaceWord] ++ (poolPhrases ++ sinceAndNot)) := by
  simp only [rejectionAlternatives, inputPhrases, poolPhrases, sinceAndNot, List.cons_append,
    List.nil_append]

theorem hasRejectionWord_iff (text : String) :
    HasRejectionWord text ↔ (∃ re ∈ [replaceWord], testPattern re text = true) ∨
      ∃ re ∈ sinceAndNot, testPattern re text = true := by
  rw [HasRejectionWord, ← testPattern_replaceWord, ← testPattern_phraseThen,
    ← testPattern_phraseThen]
  simp only [sinceAndNot, List.mem_cons, List.not_mem_nil, or_false, exists_eq_or_imp,
    exists_eq_left]

/-- **The rejection pattern** matches a phrase about the transaction or an ordinary word. -/
theorem rejection_iff (text : String) :
    testPattern rejectionPattern text = true ↔ NamesRejection text ∨ HasRejectionWord text := by
  have hany : testPattern rejectionPattern text = true ↔
      ∃ re ∈ rejectionAlternatives, testPattern re text = true := by
    rw [testPattern, rejectionPattern, Regex.test_oneOf, List.any_eq_true]
    exact Iff.rfl
  rw [hany, rejectionAlternatives_eq, NamesRejection, specificAlternatives, hasRejectionWord_iff]
  simp only [exists_mem_append_iff]
  -- the words stand between the phrases in the pattern
  rw [or_assoc, or_left_comm (c := ∃ re ∈ sinceAndNot, testPattern re text = true)]

/-! ## Uncertainty -/

/-- The verdict of a failed transport whose outcome is unknown. -/
structure TransportUncertain (result : BroadcastOutcome × ClassifiedSubmissionFailure) : Prop where
  outcome : result.1 = .ambiguous
  errorType : result.2.errorType = .transportUnknown
  classification : ("classification", Json.str "transport-unknown") ∈ result.2.details

theorem classify_rejected {error : Thrown}
    (h : testPattern rejectionPattern (collectEvidenceText error) = true) :
    (classifyBroadcastError error).1 = .nodeRejected := by
  simp only [classifyBroadcastError, h, if_true]

theorem classify_transport {error : Thrown}
    (h : testPattern rejectionPattern (collectEvidenceText error) = false)
    (htransport : testPattern transportPattern (collectEvidenceText error) = true) :
    TransportUncertain (classifyBroadcastError error) := by
  have hclassified : classifyBroadcastError error =
      (.ambiguous,
        { errorCode := truthy (errorCode error), errorType := .transportUnknown
          errorMessage := collectEvidenceText error, conflictType := none
          details := nameDetail error ++ [("classification", .str "transport-unknown")] }) := by
    simp only [classifyBroadcastError, h, htransport, Bool.false_eq_true, if_false, if_true]
  rw [hclassified]
  exact ⟨rfl, rfl, List.mem_append_right _ List.mem_cons_self⟩

/-- A failed transport whose text has no phrase about the transaction is AMBIGUOUS exactly when the
text has none of the ordinary words of the rejection pattern. -/
theorem transport_uncertain_iff (error : Thrown)
    (htransport : testPattern transportPattern (collectEvidenceText error) = true)
    (hspecific : ¬ NamesRejection (collectEvidenceText error)) :
    TransportUncertain (classifyBroadcastError error) ↔
      ¬ HasRejectionWord (collectEvidenceText error) := by
  have hpattern := rejection_iff (collectEvidenceText error)
  rw [or_iff_right hspecific] at hpattern
  constructor
  · intro huncertain hword
    have hrejected := classify_rejected (hpattern.mpr hword)
    rw [huncertain.outcome] at hrejected
    cases hrejected
  · intro hnone
    refine classify_transport ?_ htransport
    rw [← Bool.not_eq_true]
    exact fun h => hnone (hpattern.mp h)

/-- An `Error` with a message and nothing else. -/
def plainError (message : String) : Thrown :=
  .object true (some message) (some "Error") none .absent (.primitive "undefined")
    ("Error: " ++ message)

theorem transport_uncertain_iff_timeout :
    TransportUncertain (classifyBroadcastError (plainError "fetch failed: connection timed out")) ↔
      ¬ HasRejectionWord (collectEvidenceText (plainError "fetch failed: connection timed out")) :=
  transport_uncertain_iff _ (by decide +kernel) (by decide +kernel)

/-- A timeout that is taken for a rejection. -/
def TakenForRejection (message : String) : Prop :=
  testPattern transportPattern (collectEvidenceText (plainError message)) = true ∧
    ¬ NamesRejection (collectEvidenceText (plainError message)) ∧
    (classifyBroadcastError (plainError message)).1 = .nodeRejected

/-- Two of them, by `replace` and by `since … not`. -/
theorem timeout_taken_for_rejection :
    TakenForRejection "gateway timeout: replace the upstream server" ∧
      TakenForRejection "socket timeout: idle since 12:00, host did not answer" := by
  constructor
  · exact ⟨by decide +kernel, by decide +kernel, classify_rejected (by decide +kernel)⟩
  · exact ⟨by decide +kernel, by decide +kernel, classify_rejected (by decide +kernel)⟩

end CellFlow
