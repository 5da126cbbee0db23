/-
# CellFlow.Core.StateMachine — the execution state machine of `packages/core/src/state-machine.ts`.

Chain observations, submission reports and workflow updates act on an `ExecutionSnapshot`.  An
operation that throws is an `Except`.  The two ways an accepted observation can end, a preserved
commit and an advanced snapshot, are definitions of their own; `applyChainObservation_ok` says which
one a result is.
-/
import CellFlow.Core.Types

namespace CellFlow

/-! ## Block heights and confirmation depth -/

/-- The value of one hexadecimal digit, either case. -/
def hexDigit? (c : Char) : Option Nat :=
  if '0' ≤ c ∧ c ≤ '9' then some (c.toNat - '0'.toNat)
  else if 'a' ≤ c ∧ c ≤ 'f' then some (c.toNat - 'a'.toNat + 10)
  else if 'A' ≤ c ∧ c ≤ 'F' then some (c.toNat - 'A'.toNat + 10)
  else none

/-- The number a string of hexadecimal digits denotes, read after the digits that gave `acc`. -/
def hexNumber? : List Char → Nat → Option Nat
  | [], acc => some acc
  | c :: rest, acc =>
      match hexDigit? c with
      | some d => hexNumber? rest (16 * acc + d)
      | none => none

/-- `/^0x[0-9a-f]+$/i`, with the number it denotes. -/
def parseHexBlockNumber (value : Option String) : Option Nat :=
  match value.map String.toList with
  | some ('0' :: x :: d :: rest) => if x = 'x' ∨ x = 'X' then hexNumber? (d :: rest) 0 else none
  | _ => none

/-- `Number.MAX_SAFE_INTEGER`. -/
def maxSafeInteger : Nat := 9007199254740991

/-- Depth of the tip above the commit block, counting both; saturates at `maxSafeInteger`. -/
def computeConfirmationCount (committedBlockNumber tipBlockNumber : Option String) : Nat :=
  match parseHexBlockNumber committedBlockNumber, parseHexBlockNumber tipBlockNumber with
  | some committed, some tip => if tip < committed then 0 else min (tip - committed + 1) maxSafeInteger
  | _, _ => 0

/-- `isConfirmationSatisfied`: the commit is as deep as the policy asks. -/
def isConfirmationSatisfied (policy : ConfirmationPolicy) (chainStatus : ChainStatus)
    (confirmationCount : Nat) : Bool :=
  match chainStatus, policy with
  | .committed, .committed => true
  | .committed, .depth blocks => decide (blocks ≤ confirmationCount)
  | _, _ => false

/-- Business settlement: stricter than chain confirmation, and closed against an absent required
assertion, a recorded conflict and missing commit evidence. -/
def isSettlementReady (snapshot : ExecutionSnapshot) (assertionStatus : Option AssertionStatus)
    (requiredAssertionCount : Nat) (conflictType : Option ConflictType) : Bool :=
  snapshot.workflowStatus = .confirmed &&
    snapshot.chainStatus = .committed &&
    ((truthy snapshot.committedBlockHash).isSome && (truthy snapshot.committedBlockNumber).isSome) &&
    isConfirmationSatisfied snapshot.confirmationPolicy snapshot.chainStatus
      snapshot.confirmationCount &&
    conflictType.isNone &&
    (requiredAssertionCount = 0 || assertionStatus = some .verified)

theorem isSettlementReady_eq_true {s : ExecutionSnapshot} {a : Option AssertionStatus} {n : Nat}
    {c : Option ConflictType} :
    isSettlementReady s a n c = true ↔ s.workflowStatus = .confirmed ∧ s.chainStatus = .committed ∧
      (truthy s.committedBlockHash).isSome ∧ (truthy s.committedBlockNumber).isSome ∧
      isConfirmationSatisfied s.confirmationPolicy .committed s.confirmationCount = true ∧
      c = none ∧ (n = 0 ∨ a = some .verified) := by
  simp only [isSettlementReady, Bool.and_eq_true, Bool.or_eq_true, decide_eq_true_eq,
    Option.isNone_iff_eq_none]
  constructor
  · rintro ⟨⟨⟨⟨⟨hw, hc⟩, hh, hb⟩, hp⟩, hn⟩, ha⟩
    exact ⟨hw, hc, hh, hb, hc ▸ hp, hn, ha⟩
  · rintro ⟨hw, hc, hh, hb, hp, hn, ha⟩
    exact ⟨⟨⟨⟨⟨hw, hc⟩, hh, hb⟩, hc ▸ hp⟩, hn⟩, ha⟩

/-- `deriveOverallStatus`: the one status that is shown, from the three axes; the first case that
applies. -/
def deriveOverallStatus (snapshot : ExecutionSnapshot) : OverallStatus :=
  if snapshot.workflowStatus = .conflicted then .conflicted
  else if snapshot.workflowStatus = .expired then .expired
  else if snapshot.chainStatus = .rejected then .rejected
  else if snapshot.workflowStatus = .reorged then .reorged
  else if snapshot.workflowStatus = .confirmed then .confirmed
  else if snapshot.chainStatus = .committed then .committed
  else if snapshot.chainStatus = .proposed then .proposed
  else if snapshot.chainStatus = .pending then .pending
  else if snapshot.submissionStatus = .nodeRejected then .nodeRejected
  else if snapshot.workflowStatus = .reconciling then .reconciling
  else if snapshot.chainStatus = .unknown then .unknown
  else if snapshot.submissionStatus = .submitted then .submitted
  else if snapshot.submissionStatus = .submissionUnknown then .unknown
  else if snapshot.submissionStatus = .broadcasting then .submitting
  else if snapshot.submissionStatus = .prepared then .prepared
  else .created

/-! ## Submission reports -/

/-- Finding the exact transaction on chain is stronger than an earlier node rejection of it. -/
def supersedeNodeRejectionFromChainEvidence (snapshot : ExecutionSnapshot)
    (observedStatus : ObservedStatus) : ExecutionSnapshot :=
  if snapshot.submissionStatus ≠ .nodeRejected then snapshot
  else if observedStatus.found = false then snapshot
  else { snapshot with submissionStatus := .submitted }

/-- The snapshot of an intent without a transaction. -/
def initialSnapshot (confirmationPolicy : ConfirmationPolicy) : ExecutionSnapshot where
  submissionStatus := .notSubmitted
  chainStatus := .unobserved
  workflowStatus := .idle
  confirmationPolicy := confirmationPolicy
  confirmationCount := 0
  committedBlockHash := none
  committedBlockNumber := none
  rejectionReason := none

/-- The forward order of submission statuses; `NODE_REJECTED` has no place in it. -/
def submissionOrder : List SubmissionStatus :=
  [.notSubmitted, .prepared, .broadcasting, .submissionUnknown, .submitted]

/-- The error of a transition the machine refuses. -/
def transitionInvalid (message : String) : CellFlowError := ⟨.transitionInvalid, message, 409⟩

/-- `updateSubmission`: a report on the submission, which a conflicted or expired snapshot refuses. -/
def updateSubmission (snapshot : ExecutionSnapshot) (next : SubmissionStatus) :
    Except CellFlowError ExecutionSnapshot :=
  if snapshot.workflowStatus = .conflicted ∨ snapshot.workflowStatus = .expired then
    .error (transitionInvalid
      ("Cannot change submission state after " ++ snapshot.workflowStatus.text))
  else if snapshot.chainStatus = .rejected then
    .error (transitionInvalid "Cannot change submission state after authoritative rejection")
  else if snapshot.submissionStatus = .nodeRejected then
    if next = .nodeRejected then .ok snapshot
    else .error (transitionInvalid
      "Cannot change submission state after an explicit node rejection")
  else if next = .nodeRejected then
    if snapshot.submissionStatus ∈
        [SubmissionStatus.prepared, .broadcasting, .submissionUnknown] then
      .ok { snapshot with submissionStatus := next }
    else .error (transitionInvalid
      ("Cannot record node rejection from " ++ snapshot.submissionStatus.text))
  else
    let allowedAmbiguousRecovery :=
      snapshot.submissionStatus = .submissionUnknown ∧ next = .submitted
    if submissionOrder.idxOf next < submissionOrder.idxOf snapshot.submissionStatus ∧
        ¬ allowedAmbiguousRecovery then
      .error (transitionInvalid
        ("Submission state cannot move backward from " ++ snapshot.submissionStatus.text ++
          " to " ++ next.text))
    else .ok { snapshot with submissionStatus := next }

/-- An accepted report changes the submission axis only. -/
theorem updateSubmission_ok {s t : ExecutionSnapshot} {next : SubmissionStatus}
    (h : updateSubmission s next = .ok t) :
    t = { s with submissionStatus := next } ∧ s.workflowStatus ≠ .conflicted ∧
      s.workflowStatus ≠ .expired ∧ s.chainStatus ≠ .rejected := by
  unfold updateSubmission at h
  split at h
  · cases h
  next hw =>
    split at h
    · cases h
    next hc =>
      rw [not_or] at hw
      refine ⟨?_, hw.1, hw.2, hc⟩
      split at h
      next hn =>
        split at h
        next hnext =>
          cases h
          subst hnext
          rw [← hn]
        · cases h
      · split at h
        · split at h
          · exact (Except.ok.inj h).symm
          · cases h
        · simp only at h
          split at h
          · cases h
          · exact (Except.ok.inj h).symm

/-! ## Chain observations -/

/-- Whether an observation proves that the recorded commit left the canonical chain: the endpoint
disproved the recorded block, or the transaction is committed in another one. -/
def reorgAgainstPriorCommit (snapshot : ExecutionSnapshot) (observation : ChainObservation) : Bool :=
  match truthy snapshot.committedBlockHash with
  | none => false
  | some recorded =>
      if observation.priorCommitCanonical = some false then true
      else if observation.status = .committed then
        match truthy observation.blockHash with
        | some blockHash => blockHash != recorded
        | none => false
      else false

/-- A commit no observation disproved survives every non-committed answer. -/
def preservesCommit (snapshot : ExecutionSnapshot) (observation : ChainObservation) : Bool :=
  snapshot.chainStatus = .committed && observation.status ≠ .committed &&
    !reorgAgainstPriorCommit snapshot observation

/-- The snapshot a preserved commit leaves. -/
def preservedSnapshot (snapshot : ExecutionSnapshot) : ExecutionSnapshot :=
  { snapshot with
    workflowStatus := if snapshot.workflowStatus = .confirmed then .confirmed else .reconciling }

/-- The snapshot an observation leaves when no commit is preserved. -/
def advancedSnapshot (snapshot : ExecutionSnapshot) (observation : ChainObservation) :
    ExecutionSnapshot :=
  let confirmationCount :=
    if observation.status = .committed then
      computeConfirmationCount observation.blockNumber observation.tipBlockNumber
    else 0
  let next : ExecutionSnapshot :=
    { snapshot with
      chainStatus := observation.status.chain
      confirmationCount := confirmationCount
      rejectionReason := (truthy observation.rejectionReason).or snapshot.rejectionReason }
  match observation.status with
  | .committed =>
      { next with
        committedBlockHash := (truthy observation.blockHash).or next.committedBlockHash
        committedBlockNumber := (truthy observation.blockNumber).or next.committedBlockNumber
        workflowStatus :=
          if isConfirmationSatisfied snapshot.confirmationPolicy .committed confirmationCount then
            .confirmed
          else .waitingConfirmations }
  -- the rejection branch stands before the reorg branch, as in the source
  | .rejected => { next with workflowStatus := .idle }
  | _ =>
      if reorgAgainstPriorCommit snapshot observation then
        { next with
          committedBlockHash := none
          committedBlockNumber := none
          workflowStatus := .reorged }
      else { next with workflowStatus := .reconciling }

/-- The commit fields of an advanced snapshot, by the observed status. -/
theorem advancedSnapshot_hash (s : ExecutionSnapshot) (o : ChainObservation) :
    (advancedSnapshot s o).committedBlockHash =
      match o.status with
      | .committed => (truthy o.blockHash).or s.committedBlockHash
      | .rejected => s.committedBlockHash
      | _ => if reorgAgainstPriorCommit s o then none else s.committedBlockHash := by
  unfold advancedSnapshot
  cases o.status with
  | committed => rfl
  | rejected => rfl
  | unknown => by_cases h : reorgAgainstPriorCommit s o = true <;> simp [h]
  | pending => by_cases h : reorgAgainstPriorCommit s o = true <;> simp [h]
  | proposed => by_cases h : reorgAgainstPriorCommit s o = true <;> simp [h]

theorem advancedSnapshot_number (s : ExecutionSnapshot) (o : ChainObservation) :
    (advancedSnapshot s o).committedBlockNumber =
      match o.status with
      | .committed => (truthy o.blockNumber).or s.committedBlockNumber
      | .rejected => s.committedBlockNumber
      | _ => if reorgAgainstPriorCommit s o then none else s.committedBlockNumber := by
  unfold advancedSnapshot
  cases o.status with
  | committed => rfl
  | rejected => rfl
  | unknown => by_cases h : reorgAgainstPriorCommit s o = true <;> simp [h]
  | pending => by_cases h : reorgAgainstPriorCommit s o = true <;> simp [h]
  | proposed => by_cases h : reorgAgainstPriorCommit s o = true <;> simp [h]

@[simp] theorem advancedSnapshot_chain (s : ExecutionSnapshot) (o : ChainObservation) :
    (advancedSnapshot s o).chainStatus = o.status.chain := by
  unfold advancedSnapshot
  cases o.status <;> simp <;> split <;> rfl

@[simp] theorem advancedSnapshot_submission (s : ExecutionSnapshot) (o : ChainObservation) :
    (advancedSnapshot s o).submissionStatus = s.submissionStatus := by
  unfold advancedSnapshot
  cases o.status <;> simp <;> split <;> rfl

@[simp] theorem advancedSnapshot_policy (s : ExecutionSnapshot) (o : ChainObservation) :
    (advancedSnapshot s o).confirmationPolicy = s.confirmationPolicy := by
  unfold advancedSnapshot
  cases o.status <;> simp <;> split <;> rfl

theorem advancedSnapshot_count (s : ExecutionSnapshot) (o : ChainObservation) :
    (advancedSnapshot s o).confirmationCount =
      if o.status = .committed then computeConfirmationCount o.blockNumber o.tipBlockNumber
      else 0 := by
  unfold advancedSnapshot
  cases o.status <;> simp <;> split <;> rfl

theorem advancedSnapshot_workflow (s : ExecutionSnapshot) (o : ChainObservation) :
    (advancedSnapshot s o).workflowStatus =
      match o.status with
      | .committed =>
          if isConfirmationSatisfied s.confirmationPolicy .committed
              (computeConfirmationCount o.blockNumber o.tipBlockNumber) then .confirmed
          else .waitingConfirmations
      | .rejected => .idle
      | _ => if reorgAgainstPriorCommit s o then .reorged else .reconciling := by
  unfold advancedSnapshot
  cases o.status with
  | committed => simp
  | rejected => rfl
  | unknown => by_cases h : reorgAgainstPriorCommit s o = true <;> simp [h]
  | pending => by_cases h : reorgAgainstPriorCommit s o = true <;> simp [h]
  | proposed => by_cases h : reorgAgainstPriorCommit s o = true <;> simp [h]

/-- The snapshot an accepted observation leaves. -/
def observedSnapshot (snapshot : ExecutionSnapshot) (observation : ChainObservation) :
    ExecutionSnapshot :=
  if preservesCommit snapshot observation then preservedSnapshot snapshot
  else advancedSnapshot snapshot observation

@[simp] theorem observedSnapshot_policy (s : ExecutionSnapshot) (o : ChainObservation) :
    (observedSnapshot s o).confirmationPolicy = s.confirmationPolicy := by
  unfold observedSnapshot
  split
  · rfl
  · exact advancedSnapshot_policy s o

@[simp] theorem observedSnapshot_submission (s : ExecutionSnapshot) (o : ChainObservation) :
    (observedSnapshot s o).submissionStatus = s.submissionStatus := by
  unfold observedSnapshot
  split
  · rfl
  · exact advancedSnapshot_submission s o

/-- An observation never ends a workflow. -/
theorem observedSnapshot_open (s : ExecutionSnapshot) (o : ChainObservation) :
    (observedSnapshot s o).workflowStatus ≠ .conflicted ∧
      (observedSnapshot s o).workflowStatus ≠ .expired := by
  unfold observedSnapshot
  split
  · simp only [preservedSnapshot]
    split <;> simp
  · rw [advancedSnapshot_workflow]
    cases o.status <;> simp <;> split <;> simp

/-- `applyChainObservation`: what an observation of the node makes of the snapshot. -/
def applyChainObservation (snapshot : ExecutionSnapshot) (observation : ChainObservation) :
    Except CellFlowError ApplyObservationResult :=
  let before := deriveOverallStatus snapshot
  if snapshot.workflowStatus = .conflicted ∨ snapshot.workflowStatus = .expired then
    .error (transitionInvalid
      ("Cannot apply chain observation after " ++ snapshot.workflowStatus.text))
  else
    let reorgDetected := reorgAgainstPriorCommit snapshot observation
    let next := observedSnapshot snapshot observation
    if preservesCommit snapshot observation then
      .ok
        { snapshot := next
          reorgDetected := false
          event :=
            { kind := .chainObserved
              fromOverall := before
              toOverall := deriveOverallStatus next
              occurredAt := observation.observedAt
              reason := some (
                if observation.status = .rejected then
                  "Contradictory RPC rejection did not override a previously committed transaction whose recorded block remains canonical"
                else
                  "Non-committed RPC observation did not prove the previously committed block left the canonical chain") } }
    else
      .ok
        { snapshot := next
          reorgDetected := reorgDetected
          event :=
            { kind :=
                if reorgDetected then .reorgDetected
                else if next.workflowStatus = .confirmed then .confirmed
                else .chainObserved
              fromOverall := before
              toOverall := deriveOverallStatus next
              occurredAt := observation.observedAt
              reason :=
                if reorgDetected then
                  some "Previously committed transaction is no longer observed in the same canonical block"
                else none } }

/-- An observation is refused exactly on a conflicted or expired snapshot. -/
theorem applyChainObservation_error_iff {s : ExecutionSnapshot} {o : ChainObservation} :
    (∃ e, applyChainObservation s o = .error e) ↔
      s.workflowStatus = .conflicted ∨ s.workflowStatus = .expired := by
  unfold applyChainObservation
  by_cases hw : s.workflowStatus = .conflicted ∨ s.workflowStatus = .expired
  · simp [hw]
  · simp only [hw, if_false, iff_false, not_exists]
    intro e h
    split at h <;> cases h

/-- **What an accepted observation leaves**: the snapshot of `observedSnapshot`, with a reorg
reported exactly when one was proved and nothing was preserved. -/
theorem applyChainObservation_ok {s : ExecutionSnapshot} {o : ChainObservation}
    {r : ApplyObservationResult} (h : applyChainObservation s o = .ok r) :
    r.snapshot = observedSnapshot s o ∧ r.reorgDetected = reorgAgainstPriorCommit s o ∧
      s.workflowStatus ≠ .conflicted ∧ s.workflowStatus ≠ .expired := by
  simp only [applyChainObservation] at h
  split at h
  · cases h
  next hw =>
    rw [not_or] at hw
    split at h
    next hp =>
      cases h
      have hreorg : reorgAgainstPriorCommit s o = false := by
        simp only [preservesCommit, Bool.and_eq_true, Bool.not_eq_true'] at hp
        exact hp.2
      exact ⟨rfl, hreorg.symm, hw⟩
    · cases h
      exact ⟨rfl, rfl, hw⟩

/-- Conversely, a snapshot that is neither conflicted nor expired accepts every observation. -/
theorem applyChainObservation_accepts {s : ExecutionSnapshot} (o : ChainObservation)
    (hc : s.workflowStatus ≠ .conflicted) (he : s.workflowStatus ≠ .expired) :
    ∃ r, applyChainObservation s o = .ok r := by
  cases h : applyChainObservation s o with
  | ok r => exact ⟨r, rfl⟩
  | error e =>
      rcases applyChainObservation_error_iff.mp ⟨e, h⟩ with hw | hw
      · exact absurd hw hc
      · exact absurd hw he

/-- `setWorkflowStatus`: it is confirmed only on a committed chain state. -/
def setWorkflowStatus (snapshot : ExecutionSnapshot) (status : WorkflowStatus) :
    Except CellFlowError ExecutionSnapshot :=
  if status = .confirmed ∧ snapshot.chainStatus ≠ .committed then
    .error (transitionInvalid "CONFIRMED requires COMMITTED chain state")
  else .ok { snapshot with workflowStatus := status }

end CellFlow
