/-
# CellFlow.Properties.ObservedCommit — what an observation of a commit rests on.

An observation calls a transaction committed only for a block the endpoint could show to be
canonical, and disproves a recorded block only by a well-formed answer at its height.  The state
machine then compares block hashes as texts: a node that spells the recorded hash another way is
taken for a reorg.  `observation_sound_iff` says that nothing else goes wrong.
-/
import CellFlow.Reconcile.RpcClient

namespace CellFlow

open Js (Json)

/-! ## Reading the answers -/

/-- Whether the recorded block is disproved is a matter of 32-byte values. -/
theorem priorCanonical_eq_false {prior : CommitPoint} {canonical : Option String} :
    priorCanonical prior canonical = some false ↔
      ∃ value, hashValue canonical = some value ∧ hashValue (some prior.blockHash) ≠ some value := by
  unfold priorCanonical
  cases hcanonical : normalizeHash canonical with
  | none =>
      have hvalue : hashValue canonical = none := by
        rw [hashValue, hcanonical]
        rfl
      simp [hvalue]
  | some hash =>
      obtain ⟨value, hvalue⟩ := hashValue_eq_some hcanonical
      have hdiffer : (some hash = normalizeHash (some prior.blockHash)) ↔
          hashValue (some prior.blockHash) = some value := by
        cases hprior : normalizeHash (some prior.blockHash) with
        | none => simp [hashValue, hprior, parseHexBlockNumber]
        | some recorded =>
            rw [← hvalue, hashValue_eq_iff hprior hcanonical, Option.some.injEq, eq_comm]
      simp [hvalue, hdiffer]

/-- The number of calls that check the identity of an endpoint. -/
def identityCalls (expected : RpcIdentityExpectation) : Nat :=
  (if (truthy expected.chain).isSome then 1 else 0) +
    (if (truthy expected.genesisHash).isSome then 1 else 0)

section Session

variable {endpoint : Endpoint} {n m : Nat}

/-- Judging the answers makes no call. -/
theorem identityVerdict_ok {complaint : Option String}
    (h : (match complaint with
      | some message => Dialogue.fail message
      | none => pure () : RpcSession Unit) endpoint n = .ok ((), m)) : m = n := by
  cases complaint with
  | some message => exact absurd h Dialogue.fail_ok
  | none => exact (Dialogue.pure_ok.mp h).2.symm

theorem assertIdentity_calls {expected : RpcIdentityExpectation}
    (h : assertIdentity expected endpoint n = .ok ((), m)) : m = n + identityCalls expected := by
  unfold assertIdentity at h
  unfold identityCalls
  cases hchain : truthy expected.chain with
  | none =>
      simp only [hchain] at h
      obtain ⟨info, k, hinfo, h⟩ := Dialogue.bind_ok.mp h
      obtain ⟨rfl, rfl⟩ := Dialogue.pure_ok.mp hinfo
      cases hhash : truthy expected.genesisHash with
      | none =>
          simp only [hhash] at h
          obtain ⟨genesis, k, hgenesis, h⟩ := Dialogue.bind_ok.mp h
          obtain ⟨rfl, rfl⟩ := Dialogue.pure_ok.mp hgenesis
          exact identityVerdict_ok h
      | some hash =>
          simp only [hhash] at h
          obtain ⟨genesis, k, hgenesis, h⟩ := Dialogue.bind_ok.mp h
          obtain ⟨-, rfl⟩ := Dialogue.ask_ok.mp hgenesis
          exact identityVerdict_ok h
  | some chain =>
      simp only [hchain] at h
      obtain ⟨info, k, hinfo, h⟩ := Dialogue.bind_ok.mp h
      obtain ⟨-, rfl⟩ := Dialogue.ask_ok.mp hinfo
      cases hhash : truthy expected.genesisHash with
      | none =>
          simp only [hhash] at h
          obtain ⟨genesis, k, hgenesis, h⟩ := Dialogue.bind_ok.mp h
          obtain ⟨rfl, rfl⟩ := Dialogue.pure_ok.mp hgenesis
          exact identityVerdict_ok h
      | some hash =>
          simp only [hhash] at h
          obtain ⟨genesis, k, hgenesis, h⟩ := Dialogue.bind_ok.mp h
          obtain ⟨-, rfl⟩ := Dialogue.ask_ok.mp hgenesis
          exact identityVerdict_ok h

/-- The answer at the recorded height, where a commit is recorded. -/
theorem priorCommitCanonical_ok {prior : Option CommitPoint} {disproved : Option Bool}
    (h : priorCommitCanonical prior endpoint n = .ok (disproved, m)) :
    (prior = none ∧ disproved = none ∧ m = n) ∨
      ∃ point answer, prior = some point ∧ endpoint.getBlockHash n point.blockNumber = .ok answer ∧
        disproved = priorCanonical point answer ∧ m = n + 1 := by
  unfold priorCommitCanonical at h
  cases prior with
  | none =>
      obtain ⟨hnone, hm⟩ := Dialogue.pure_ok.mp h
      exact Or.inl ⟨rfl, hnone.symm, hm.symm⟩
  | some point =>
      obtain ⟨answer, k, hasked, h⟩ := Dialogue.bind_ok.mp h
      obtain ⟨hanswer, rfl⟩ := Dialogue.ask_ok.mp hasked
      obtain ⟨hdisproved, hm⟩ := Dialogue.pure_ok.mp h
      exact Or.inr ⟨point, answer, rfl, hanswer, hdisproved.symm, hm.symm⟩

end Session

/-! ## Verified commits -/

/-- From the n-th call on, the endpoint gives the block `text` the height `number`, names the same
block as the canonical one there, and has a tip that is not below. -/
def CanonicalCommit (endpoint : Endpoint) (n : Nat) (text number tipNumber : String) : Prop :=
  ∃ header tip canonical value height tipHeight,
    endpoint.getHeader n text = .ok header ∧ headerNumber header = some number ∧
    endpoint.getTipHeader (n + 1) = .ok tip ∧ headerNumber tip = some tipNumber ∧
    endpoint.getBlockHash (n + 2) number = .ok canonical ∧
    hashValue (some text) = some value ∧ hashValue canonical = some value ∧
    parseHexBlockNumber (some number) = some height ∧
    parseHexBlockNumber (some tipNumber) = some tipHeight ∧ height ≤ tipHeight

section Commit

variable {endpoint : Endpoint} {n m : Nat}

/-- What the questions about a block have brought in. -/
theorem commitAnswers_ok {text : String} {answers : CommitAnswers} (htext : text ≠ "")
    (h : commitAnswers (some text) endpoint n = .ok (answers, m)) :
    ∃ header tip, endpoint.getHeader n text = .ok header ∧
      endpoint.getTipHeader (n + 1) = .ok tip ∧ answers.blockHash = some text ∧
      answers.blockNumber = headerNumber header ∧ answers.tipBlockNumber = headerNumber tip ∧
      ∀ number, truthy (headerNumber header) = some number →
        endpoint.getBlockHash (n + 2) number = .ok answers.canonicalBlockHash := by
  have htruthy : truthy (some text) = some text := truthy_eq_some.mpr ⟨rfl, htext⟩
  unfold commitAnswers at h
  simp only [htruthy] at h
  obtain ⟨header, k, hasked, h⟩ := Dialogue.bind_ok.mp h
  obtain ⟨hheader, rfl⟩ := Dialogue.ask_ok.mp hasked
  obtain ⟨tip, k, hasked, h⟩ := Dialogue.bind_ok.mp h
  obtain ⟨htip, rfl⟩ := Dialogue.ask_ok.mp hasked
  refine ⟨header, tip, hheader, htip, ?_⟩
  cases hnumber : truthy (headerNumber header) with
  | none =>
      simp only [hnumber] at h
      obtain ⟨canonical, k, hcanonical, h⟩ := Dialogue.bind_ok.mp h
      obtain ⟨rfl, -⟩ := Dialogue.pure_ok.mp h
      exact ⟨rfl, rfl, rfl, by simp⟩
  | some number =>
      simp only [hnumber] at h
      obtain ⟨canonical, k, hasked, h⟩ := Dialogue.bind_ok.mp h
      obtain ⟨hcanonical, rfl⟩ := Dialogue.ask_ok.mp hasked
      obtain ⟨rfl, -⟩ := Dialogue.pure_ok.mp h
      refine ⟨rfl, rfl, rfl, fun number' hnumber' => ?_⟩
      obtain rfl : number = number' := Option.some.inj hnumber'
      exact hcanonical

/-- The verdict over the answers is about values. -/
theorem canonicalVerified_values {answers : CommitAnswers} :
    answers.canonicalVerified = true ↔ ∃ value height tipHeight,
      hashValue answers.blockHash = some value ∧ hashValue answers.canonicalBlockHash = some value ∧
      parseHexBlockNumber answers.blockNumber = some height ∧
      parseHexBlockNumber answers.tipBlockNumber = some tipHeight ∧ height ≤ tipHeight := by
  rw [CommitAnswers.canonicalVerified_iff]
  constructor
  · rintro ⟨hash, height, tipHeight, hblock, hcanonical, hheight, htip, hle⟩
    obtain ⟨value, hvalue⟩ := hashValue_eq_some hblock
    have hsame : hashValue answers.canonicalBlockHash = some value := by
      rw [← hvalue, hashValue_eq_iff hcanonical hblock]
    exact ⟨value, height, tipHeight, hvalue, hsame, hheight, htip, hle⟩
  · rintro ⟨value, height, tipHeight, hblock, hcanonical, hheight, htip, hle⟩
    obtain ⟨hash, hhash⟩ := normalizeHash_of_hashValue hblock
    obtain ⟨hash', hhash'⟩ := normalizeHash_of_hashValue hcanonical
    have hsame : hash' = hash := (hashValue_eq_iff hhash' hhash).mp (hcanonical.trans hblock.symm)
    exact ⟨hash, height, tipHeight, hhash, hsame ▸ hhash', hheight, htip, hle⟩

/-- The questions keep the hash they are about. -/
theorem commitAnswers_blockHash {blockHash : Option String} {answers : CommitAnswers}
    (hnone : truthy blockHash = none)
    (h : commitAnswers blockHash endpoint n = .ok (answers, m)) :
    answers.blockHash = blockHash := by
  unfold commitAnswers at h
  simp only [hnone] at h
  obtain ⟨header, k, hheader, h⟩ := Dialogue.bind_ok.mp h
  obtain ⟨tip, k', htip, h⟩ := Dialogue.bind_ok.mp h
  cases hnumber : truthy (headerNumber header) with
  | none =>
      simp only [hnumber] at h
      obtain ⟨canonical, k'', hcanonical, h⟩ := Dialogue.bind_ok.mp h
      obtain ⟨rfl, -⟩ := Dialogue.pure_ok.mp h
      rfl
  | some number =>
      simp only [hnumber] at h
      obtain ⟨canonical, k'', hcanonical, h⟩ := Dialogue.bind_ok.mp h
      obtain ⟨rfl, -⟩ := Dialogue.pure_ok.mp h
      rfl

theorem truthy_isSome_some {text : String} : (truthy (some text)).isSome = true ↔ text ≠ "" := by
  simp [truthy]

theorem truthy_of_hashValue {value : Option String} {v : Nat} (h : hashValue value = some v) :
    (truthy value).isSome := by
  obtain ⟨hash, hhash⟩ := normalizeHash_of_hashValue h
  exact truthy_of_normalizeHash hhash

/-- A verified commit is one the endpoint shows to be canonical. -/
theorem commit_of_canonicalVerified {blockHash : Option String} {answers : CommitAnswers}
    (h : commitAnswers blockHash endpoint n = .ok (answers, m))
    (hverified : answers.canonicalVerified = true) :
    ∃ text number tipNumber, blockHash = some text ∧ truthy answers.blockHash = some text ∧
      truthy answers.blockNumber = some number ∧ truthy answers.tipBlockNumber = some tipNumber ∧
      CanonicalCommit endpoint n text number tipNumber := by
  obtain ⟨value, height, tipHeight, hblock, hsame, hheight, htipHeight, hle⟩ :=
    canonicalVerified_values.mp hverified
  cases htruthy : truthy blockHash with
  | none =>
      rw [commitAnswers_blockHash htruthy h] at hblock
      have hsome := truthy_of_hashValue hblock
      rw [htruthy] at hsome
      cases hsome
  | some text =>
      obtain ⟨rfl, htext⟩ := truthy_eq_some.mp htruthy
      obtain ⟨header, tip, hheader, htip, hblockHash, hblockNumber, htipNumber, hcanonical⟩ :=
        commitAnswers_ok htext h
      obtain ⟨number, hnumber⟩ := Option.isSome_iff_exists.mp (truthy_of_parseHexBlockNumber hheight)
      obtain ⟨tipNumber, htipName⟩ :=
        Option.isSome_iff_exists.mp (truthy_of_parseHexBlockNumber htipHeight)
      have hnumber' := (truthy_eq_some.mp hnumber).1
      have htipName' := (truthy_eq_some.mp htipName).1
      refine ⟨text, number, tipNumber, rfl, hblockHash ▸ htruthy, hnumber, htipName, header, tip, _,
        value, height, tipHeight, hheader, hblockNumber.symm.trans hnumber', htip,
        htipNumber.symm.trans htipName', hcanonical number (hblockNumber ▸ hnumber), ?_, hsame, ?_,
        ?_, hle⟩
      · rw [← hblockHash, hblock]
      · rw [← hnumber', hheight]
      · rw [← htipName', htipHeight]

/-- **A canonical commit is verified.** -/
theorem canonicalVerified_of_commit {text number tipNumber : String} {answers : CommitAnswers}
    (h : commitAnswers (some text) endpoint n = .ok (answers, m))
    (hcommit : CanonicalCommit endpoint n text number tipNumber) :
    answers.canonicalVerified = true := by
  obtain ⟨header', tip', canonical, value, height, tipHeight, hheader', hnumber, htip', htipName,
    hasked, hvalue, hsame, hheight, htipHeight, hle⟩ := hcommit
  have htext : text ≠ "" := (truthy_isSome_some.mp (truthy_of_hashValue hvalue))
  obtain ⟨header, tip, hheader, htip, hblockHash, hblockNumber, htipNumber, hcanonical⟩ :=
    commitAnswers_ok htext h
  obtain rfl : header = header' := Except.ok.inj (hheader.symm.trans hheader')
  obtain rfl : tip = tip' := Except.ok.inj (htip.symm.trans htip')
  have hnamed : truthy (headerNumber header) = some number :=
    truthy_eq_some.mpr ⟨hnumber, truthy_isSome_some.mp (truthy_of_parseHexBlockNumber hheight)⟩
  have hanswer : canonical = answers.canonicalBlockHash :=
    Except.ok.inj (hasked.symm.trans (hcanonical number hnamed))
  refine canonicalVerified_values.mpr ⟨value, height, tipHeight, ?_, hanswer ▸ hsame, ?_, ?_, hle⟩
  · rw [hblockHash, hvalue]
  · rw [hblockNumber, hnumber, hheight]
  · rw [htipNumber, htipName, htipHeight]

end Commit

/-! ## The observation -/

section Observation

variable {endpoint : Endpoint} {txHash : String} {prior : Option CommitPoint}
  {expected : RpcIdentityExpectation} {targets : List InspectionTarget} {now : Int}
  {bundle : RpcObservationBundle}

/-- The call that asks for the canonical block at the recorded height. -/
def priorCall (expected : RpcIdentityExpectation) : Nat := identityCalls expected + 1

/-- The first call about the block of a committed transaction. -/
def commitCall (expected : RpcIdentityExpectation) (prior : Option CommitPoint) : Nat :=
  identityCalls expected + 1 + if prior.isSome then 1 else 0

/-- The node calls the transaction committed in the block `text`. -/
def ReportsCommit (endpoint : Endpoint) (n : Nat) (txHash text : String) : Prop :=
  ∃ result status, endpoint.getTransaction n txHash = .ok (some result) ∧
    result.txStatus = some status ∧ status.status = "committed" ∧ status.blockHash = some text

/-- The bundle over the answers about a commit. -/
theorem committedBundle_status (result : RpcTransactionResult) (answers : CommitAnswers)
    (url : String) (disproved : Option Bool) (now : Int) :
    ((committedBundle result answers url disproved now).observation.status = .committed ↔
      answers.canonicalVerified = true) ∧
    (committedBundle result answers url disproved now).observation.priorCommitCanonical =
      disproved ∧
    (answers.canonicalVerified = true →
      (committedBundle result answers url disproved now).observation.blockHash =
        truthy answers.blockHash ∧
      (committedBundle result answers url disproved now).observation.blockNumber =
        truthy answers.blockNumber ∧
      (committedBundle result answers url disproved now).observation.tipBlockNumber =
        truthy answers.tipBlockNumber) := by
  unfold committedBundle
  by_cases hverified : answers.canonicalVerified = true
  · simp [hverified]
  · simp [hverified]

/-- **One observation**, in the order of its calls. -/
theorem observeOnSession_ok
    (h : (observeOnSession txHash prior expected targets now).run endpoint = .ok bundle) :
    ∃ answer k, endpoint.getTransaction (identityCalls expected) txHash = .ok answer ∧
      priorCommitCanonical prior endpoint (priorCall expected) =
        .ok (bundle.observation.priorCommitCanonical, k) ∧
      (bundle.observation.status ≠ .committed ∧
          (∀ result status, answer = some result → result.txStatus = some status →
            status.status ≠ "committed") ∨
        ∃ result status answers m url, answer = some result ∧ result.txStatus = some status ∧
          status.status = "committed" ∧
          commitAnswers status.blockHash endpoint k = .ok (answers, m) ∧
          bundle = committedBundle result answers url bundle.observation.priorCommitCanonical
            now) := by
  obtain ⟨m, h⟩ := Dialogue.run_ok.mp h
  unfold observeOnSession at h
  obtain ⟨_, k, hidentity, h⟩ := Dialogue.bind_ok.mp h
  obtain rfl : k = identityCalls expected := by simpa using assertIdentity_calls hidentity
  obtain ⟨answer, k, hasked, h⟩ := Dialogue.bind_ok.mp h
  obtain ⟨hanswer, rfl⟩ := Dialogue.ask_ok.mp hasked
  obtain ⟨disproved, k, hprior, h⟩ := Dialogue.bind_ok.mp h
  obtain ⟨url, k', hurl, h⟩ := Dialogue.bind_ok.mp h
  have hk : k' = k := by
    have hsame : (endpoint.url, k) = (url, k') := Except.ok.inj hurl
    exact (congrArg Prod.snd hsame).symm
  rw [hk] at h
  refine ⟨answer, k, hanswer, ?_⟩
  cases answer with
  | none =>
      simp only at h
      obtain ⟨inspection, k, -, h⟩ := Dialogue.bind_ok.mp h
      obtain ⟨rfl, -⟩ := Dialogue.pure_ok.mp h
      exact ⟨hprior, Or.inl ⟨by simp [unknownBundle], by simp⟩⟩
  | some result =>
      simp only at h
      cases hstatus : result.txStatus with
      | none =>
          simp only [hstatus] at h
          obtain ⟨inspection, k, -, h⟩ := Dialogue.bind_ok.mp h
          obtain ⟨rfl, -⟩ := Dialogue.pure_ok.mp h
          refine ⟨hprior, Or.inl ⟨by simp [unknownBundle], fun result' status hresult hsome => ?_⟩⟩
          obtain rfl : result = result' := Option.some.inj hresult
          rw [hstatus] at hsome
          cases hsome
      | some status =>
          simp only [hstatus] at h
          have hother : status.status ≠ "committed" →
              ∀ result' status', some result = some result' → result'.txStatus = some status' →
                status'.status ≠ "committed" := by
            intro hne result' status' hresult hstatus'
            obtain rfl : result = result' := Option.some.inj hresult
            rw [← Option.some.inj (hstatus.symm.trans hstatus')]
            exact hne
          split_ifs at h with hcommitted hpending hproposed hrejected
          · obtain ⟨answers, m', hanswers, h⟩ := Dialogue.bind_ok.mp h
            obtain ⟨rfl, -⟩ := Dialogue.pure_ok.mp h
            rw [(committedBundle_status _ _ _ _ _).2.1]
            exact ⟨hprior, Or.inr ⟨result, status, answers, m', url, rfl, hstatus, hcommitted,
              hanswers, rfl⟩⟩
          · obtain ⟨rfl, -⟩ := Dialogue.pure_ok.mp h
            exact ⟨hprior, Or.inl ⟨by simp [statusBundle], hother hcommitted⟩⟩
          · obtain ⟨rfl, -⟩ := Dialogue.pure_ok.mp h
            exact ⟨hprior, Or.inl ⟨by simp [statusBundle], hother hcommitted⟩⟩
          · obtain ⟨rfl, -⟩ := Dialogue.pure_ok.mp h
            exact ⟨hprior, Or.inl ⟨by simp [statusBundle], hother hcommitted⟩⟩
          · obtain ⟨inspection, k, -, h⟩ := Dialogue.bind_ok.mp h
            obtain ⟨rfl, -⟩ := Dialogue.pure_ok.mp h
            exact ⟨hprior, Or.inl ⟨by simp [unknownBundle], hother hcommitted⟩⟩

/-- The answer about the recorded block, where one is recorded. -/
theorem observed_prior
    (h : (observeOnSession txHash prior expected targets now).run endpoint = .ok bundle) :
    (prior = none ∧ bundle.observation.priorCommitCanonical = none) ∨
      ∃ point answer, prior = some point ∧
        endpoint.getBlockHash (priorCall expected) point.blockNumber = .ok answer ∧
        bundle.observation.priorCommitCanonical = priorCanonical point answer := by
  obtain ⟨_, k, -, hprior, -⟩ := observeOnSession_ok h
  rcases priorCommitCanonical_ok hprior with ⟨hnone, hdisproved, -⟩ |
    ⟨point, answer, hpoint, hanswer, hdisproved, -⟩
  · exact Or.inl ⟨hnone, hdisproved⟩
  · exact Or.inr ⟨point, answer, hpoint, hanswer, hdisproved⟩

/-- The calls about a block start after the one about the recorded block, if there was one. -/
theorem commitCall_of {disproved : Option Bool} {k : Nat}
    (h : priorCommitCanonical prior endpoint (priorCall expected) = .ok (disproved, k)) :
    k = commitCall expected prior := by
  unfold commitCall
  rcases priorCommitCanonical_ok h with ⟨rfl, -, hk⟩ | ⟨point, _, rfl, -, -, hk⟩
  · exact hk
  · exact hk

/-- **A committed observation** repeats what the node reported of a canonical commit. -/
theorem observed_committed
    (h : (observeOnSession txHash prior expected targets now).run endpoint = .ok bundle)
    (hstatus : bundle.observation.status = .committed) : ∃ text number tipNumber,
      ReportsCommit endpoint (identityCalls expected) txHash text ∧
      CanonicalCommit endpoint (commitCall expected prior) text number tipNumber ∧
      bundle.observation.blockHash = some text ∧ bundle.observation.blockNumber = some number ∧
      bundle.observation.tipBlockNumber = some tipNumber := by
  obtain ⟨answer, k, hanswer, hprior, hcases⟩ := observeOnSession_ok h
  rcases hcases with ⟨hother, -⟩ | ⟨result, status, answers, m, url, rfl, hresult, hcommitted,
    hanswers, hbundle⟩
  · exact absurd hstatus hother
  · rw [commitCall_of hprior] at hanswers
    obtain ⟨hiff, -, hfields⟩ := committedBundle_status result answers url
      bundle.observation.priorCommitCanonical now
    rw [← hbundle] at hiff hfields
    have hverified := hiff.mp hstatus
    obtain ⟨hb, hn, ht⟩ := hfields hverified
    obtain ⟨text, number, tipNumber, htext, hblock, hnumber, htip, hcommit⟩ :=
      commit_of_canonicalVerified hanswers hverified
    exact ⟨text, number, tipNumber, ⟨result, status, hanswer, hresult, hcommitted, htext⟩, hcommit,
      hb.trans hblock, hn.trans hnumber, ht.trans htip⟩

/-- **A canonical commit is observed.** -/
theorem observed_of_commit {text number tipNumber : String}
    (h : (observeOnSession txHash prior expected targets now).run endpoint = .ok bundle)
    (hreports : ReportsCommit endpoint (identityCalls expected) txHash text)
    (hcommit : CanonicalCommit endpoint (commitCall expected prior) text number tipNumber) :
    bundle.observation.status = .committed := by
  obtain ⟨answer, k, hanswer, hprior, hcases⟩ := observeOnSession_ok h
  obtain ⟨result', status', hasked, hresult', hcommitted', htext⟩ := hreports
  obtain rfl : answer = some result' := Except.ok.inj (hanswer.symm.trans hasked)
  rcases hcases with ⟨-, hother⟩ | ⟨result, status, answers, m, url, hsome, hresult, -, hanswers,
    hbundle⟩
  · exact absurd hcommitted' (hother result' status' rfl hresult')
  · obtain rfl : result' = result := Option.some.inj hsome
    obtain rfl : status' = status := Option.some.inj (hresult'.symm.trans hresult)
    rw [commitCall_of hprior, htext] at hanswers
    rw [hbundle, (committedBundle_status _ _ _ _ _).1]
    exact canonicalVerified_of_commit hanswers hcommit

end Observation

/-! ## Soundness -/

/-- The commit a reconciliation asks about: the recorded block, where its height is recorded too. -/
def priorCommit (s : ExecutionSnapshot) : Option CommitPoint :=
  match truthy s.committedBlockHash, truthy s.committedBlockNumber with
  | some blockHash, some blockNumber => some ⟨blockHash, blockNumber⟩
  | _, _ => none

/-- The commit a snapshot records was observed before, or it records none. -/
def EvidenceObserved (s : ExecutionSnapshot) : Prop :=
  (s.committedBlockHash = none ∧ s.committedBlockNumber = none) ∨
    ∃ endpoints txHash prior expected targets now earlier,
      CkbRpcClient.observe endpoints txHash prior expected targets now = .ok earlier ∧
      earlier.observation.status = .committed ∧
      s.committedBlockHash = earlier.observation.blockHash ∧
      s.committedBlockNumber = earlier.observation.blockNumber

/-- The endpoint named a well-formed hash at the recorded height, with another value than the
recorded one. -/
def Disproved (endpoint : Endpoint) (expected : RpcIdentityExpectation) (s : ExecutionSnapshot) :
    Prop :=
  ∃ point answer value, priorCommit s = some point ∧
    endpoint.getBlockHash (priorCall expected) point.blockNumber = .ok answer ∧
    hashValue answer = some value ∧ hashValue (some point.blockHash) ≠ some value

/-- What an observation may claim, and what a reorg may rest on. -/
structure ObservationSound (endpoint : Endpoint) (expected : RpcIdentityExpectation)
    (s : ExecutionSnapshot) (bundle : RpcObservationBundle) (r : ApplyObservationResult) : Prop where
  committed : bundle.observation.status = .committed → ∃ text number tipNumber,
    bundle.observation.blockHash = some text ∧ bundle.observation.blockNumber = some number ∧
    bundle.observation.tipBlockNumber = some tipNumber ∧
    CanonicalCommit endpoint (commitCall expected (priorCommit s)) text number tipNumber
  disproved : bundle.observation.priorCommitCanonical = some false → Disproved endpoint expected s
  reorg : r.reorgDetected = true → Disproved endpoint expected s ∨
    bundle.observation.status = .committed ∧ ∃ value recorded,
      hashValue bundle.observation.blockHash = some value ∧
      hashValue s.committedBlockHash = some recorded ∧ value ≠ recorded

/-- The node reports the recorded block as the canonical commit, under another spelling of its hash,
and does not disprove it. -/
def Respelled (endpoint : Endpoint) (txHash : String) (expected : RpcIdentityExpectation)
    (s : ExecutionSnapshot) : Prop :=
  ∃ point text number tipNumber, priorCommit s = some point ∧
    ReportsCommit endpoint (identityCalls expected) txHash text ∧
    CanonicalCommit endpoint (commitCall expected (priorCommit s)) text number tipNumber ∧
    text ≠ point.blockHash ∧ hashValue (some text) = hashValue (some point.blockHash) ∧
    ¬ Disproved endpoint expected s

section Soundness

variable {s : ExecutionSnapshot} {endpoint : Endpoint} {txHash : String}
  {expected : RpcIdentityExpectation} {targets : List InspectionTarget} {now : Int}
  {bundle : RpcObservationBundle} {r : ApplyObservationResult}

/-- A recorded commit is well formed, with its height. -/
theorem EvidenceObserved.recorded (h : EvidenceObserved s) :
    (priorCommit s = none ∧ truthy s.committedBlockHash = none) ∨
      ∃ point value, priorCommit s = some point ∧ s.committedBlockHash = some point.blockHash ∧
        truthy s.committedBlockHash = some point.blockHash ∧
        hashValue (some point.blockHash) = some value := by
  rcases h with ⟨hhash, hnumber⟩ | ⟨endpoints, txHash, prior, expected, targets, now, earlier, hclient,
    hcommitted, hhash, hnumber⟩
  · left
    simp [priorCommit, hhash]
  · right
    obtain ⟨endpoint, -, hrun⟩ := withSession_ok hclient
    obtain ⟨text, number, tipNumber, -, hcommit, hblock, hheight, -⟩ :=
      observed_committed hrun hcommitted
    obtain ⟨header, tip, canonical, value, height, tipHeight, -, -, -, -, -, hvalue, -, hparsed, -⟩ :=
      hcommit
    have htext : truthy (some text) = some text :=
      truthy_of_isSome (truthy_of_hashValue hvalue)
    have hnumeral : truthy (some number) = some number :=
      truthy_of_isSome (truthy_of_parseHexBlockNumber hparsed)
    refine ⟨⟨text, number⟩, value, ?_, hhash.trans hblock, ?_, hvalue⟩
    · simp only [priorCommit, hhash.trans hblock, hnumber.trans hheight, htext, hnumeral]
    · rw [hhash.trans hblock, htext]

/-- What disproves the recorded block, as the observation reports it. -/
theorem disproved_iff
    (hobserved : (observeOnSession txHash (priorCommit s) expected targets now).run endpoint =
      .ok bundle) :
    bundle.observation.priorCommitCanonical = some false ↔ Disproved endpoint expected s := by
  rcases observed_prior hobserved with ⟨hnone, hprior⟩ | ⟨point, answer, hpoint, hanswer, hprior⟩
  · rw [hprior]
    refine iff_of_false (by simp) ?_
    rintro ⟨point, answer, value, hsome, -⟩
    rw [hnone] at hsome
    cases hsome
  · rw [hprior, priorCanonical_eq_false]
    constructor
    · rintro ⟨value, hvalue, hdiffer⟩
      exact ⟨point, answer, value, hpoint, hanswer, hvalue, hdiffer⟩
    · rintro ⟨point', answer', value, hpoint', hanswer', hvalue, hdiffer⟩
      obtain rfl : point = point' := Option.some.inj (hpoint.symm.trans hpoint')
      obtain rfl : answer = answer' := Except.ok.inj (hanswer.symm.trans hanswer')
      exact ⟨value, hvalue, hdiffer⟩

/-- **A reorg is reported** where the recorded block is disproved, or the transaction is committed
under another text. -/
theorem reorg_iff (hevidence : EvidenceObserved s)
    (hobserved : (observeOnSession txHash (priorCommit s) expected targets now).run endpoint =
      .ok bundle)
    (happlied : applyChainObservation s bundle.observation = .ok r) :
    r.reorgDetected = true ↔ Disproved endpoint expected s ∨
      ∃ point text number tipNumber, priorCommit s = some point ∧
        ReportsCommit endpoint (identityCalls expected) txHash text ∧
        CanonicalCommit endpoint (commitCall expected (priorCommit s)) text number tipNumber ∧
        bundle.observation.blockHash = some text ∧ text ≠ point.blockHash := by
  rw [(applyChainObservation_ok happlied).2.1]
  unfold reorgAgainstPriorCommit
  rcases hevidence.recorded with ⟨hprior, hnone⟩ | ⟨point, recorded, hprior, -, htruthy, -⟩
  · simp only [hnone]
    refine iff_of_false (by decide) ?_
    rintro (⟨point, _, _, hsome, -⟩ | ⟨point, _, _, _, hsome, -⟩)
    · rw [hprior] at hsome
      cases hsome
    · rw [hprior] at hsome
      cases hsome
  · simp only [htruthy]
    by_cases hdisproved : Disproved endpoint expected s
    · rw [if_pos ((disproved_iff hobserved).mpr hdisproved)]
      exact iff_of_true rfl (Or.inl hdisproved)
    · rw [if_neg fun h => hdisproved ((disproved_iff hobserved).mp h)]
      by_cases hcommitted : bundle.observation.status = .committed
      · obtain ⟨text, number, tipNumber, hreports, hcommit, hblock, -⟩ :=
          observed_committed hobserved hcommitted
        have htext : truthy (some text) = some text := by
          obtain ⟨_, _, _, value, _, _, -, -, -, -, -, hvalue, -⟩ := hcommit
          exact truthy_of_isSome (truthy_of_hashValue hvalue)
        simp only [if_pos hcommitted, hblock, htext, bne_iff_ne]
        constructor
        · intro hdiffer
          exact Or.inr ⟨point, text, number, tipNumber, hprior, hreports, hcommit, rfl, hdiffer⟩
        · rintro (hyes | ⟨point', text', _, _, hprior', -, -, hblock', hdiffer⟩)
          · exact absurd hyes hdisproved
          · obtain rfl : point = point' := Option.some.inj (hprior.symm.trans hprior')
            obtain rfl : text = text' := Option.some.inj hblock'
            exact hdiffer
      · simp only [if_neg hcommitted]
        refine iff_of_false (by decide) ?_
        rintro (hyes | ⟨_, text, number, tipNumber, -, hreports, hcommit, -⟩)
        · exact hdisproved hyes
        · exact hcommitted (observed_of_commit hobserved hreports hcommit)

/-- A committed observation and a disproved block are what they claim, whatever is answered. -/
theorem observation_committed
    (hobserved : (observeOnSession txHash (priorCommit s) expected targets now).run endpoint =
      .ok bundle)
    (hcommitted : bundle.observation.status = .committed) : ∃ text number tipNumber,
      bundle.observation.blockHash = some text ∧ bundle.observation.blockNumber = some number ∧
      bundle.observation.tipBlockNumber = some tipNumber ∧
      CanonicalCommit endpoint (commitCall expected (priorCommit s)) text number tipNumber := by
  obtain ⟨text, number, tipNumber, -, hcommit, hblock, hheight, htip⟩ :=
    observed_committed hobserved hcommitted
  exact ⟨text, number, tipNumber, hblock, hheight, htip, hcommit⟩

/-- A reorg that rests on a block of another value, or on nothing. -/
theorem respelled_of_reorg (hevidence : EvidenceObserved s)
    (hobserved : (observeOnSession txHash (priorCommit s) expected targets now).run endpoint =
      .ok bundle)
    (happlied : applyChainObservation s bundle.observation = .ok r)
    (hreorg : r.reorgDetected = true) (hundisproved : ¬ Disproved endpoint expected s) :
    (bundle.observation.status = .committed ∧ ∃ value recorded,
      hashValue bundle.observation.blockHash = some value ∧
      hashValue s.committedBlockHash = some recorded ∧ value ≠ recorded) ∨
    Respelled endpoint txHash expected s := by
  rcases (reorg_iff hevidence hobserved happlied).mp hreorg with hyes |
    ⟨point, text, number, tipNumber, hprior, hreports, hcommit, hblock, hdiffer⟩
  · exact absurd hyes hundisproved
  · rcases hevidence.recorded with ⟨hnone, -⟩ | ⟨point', recorded, hprior', hhash, -, hvalue⟩
    · rw [hnone] at hprior
      cases hprior
    · obtain rfl : point = point' := Option.some.inj (hprior.symm.trans hprior')
      obtain ⟨_, _, _, value, _, _, -, -, -, -, -, htext, -⟩ := id hcommit
      by_cases hsame : value = recorded
      · right
        refine ⟨point, text, number, tipNumber, hprior, hreports, hcommit, hdiffer, ?_,
          hundisproved⟩
        rw [htext, hvalue, hsame]
      · left
        refine ⟨observed_of_commit hobserved hreports hcommit, value, recorded, ?_, ?_, hsame⟩
        · rw [hblock, htext]
        · rw [hhash, hvalue]

/-- Another spelling of the recorded block is reported as a reorg. -/
theorem reorg_of_respelled (hevidence : EvidenceObserved s)
    (hobserved : (observeOnSession txHash (priorCommit s) expected targets now).run endpoint =
      .ok bundle)
    (happlied : applyChainObservation s bundle.observation = .ok r)
    (hrespelled : Respelled endpoint txHash expected s) :
    r.reorgDetected = true ∧ ¬ Disproved endpoint expected s ∧
      hashValue bundle.observation.blockHash = hashValue s.committedBlockHash := by
  obtain ⟨point, text, number, tipNumber, hprior, hreports, hcommit, hdiffer, hsame,
    hundisproved⟩ := hrespelled
  have hcommitted := observed_of_commit hobserved hreports hcommit
  obtain ⟨text', _, _, ⟨result', status', hasked', hresult', -, htext'⟩, -, hblock, -⟩ :=
    observed_committed hobserved hcommitted
  have htext : text' = text := by
    obtain ⟨result, status, hasked, hresult, -, htext⟩ := hreports
    obtain rfl : result = result' :=
      Option.some.inj (Except.ok.inj (hasked.symm.trans hasked'))
    obtain rfl : status = status' := Option.some.inj (hresult.symm.trans hresult')
    exact Option.some.inj (htext'.symm.trans htext)
  rw [htext] at hblock
  refine ⟨(reorg_iff hevidence hobserved happlied).mpr
    (Or.inr ⟨point, text, number, tipNumber, hprior, hreports, hcommit, hblock, hdiffer⟩),
    hundisproved, ?_⟩
  rcases hevidence.recorded with ⟨hnone, -⟩ | ⟨point', recorded, hprior', hhash, -, -⟩
  · rw [hnone] at hprior
    cases hprior
  · obtain rfl : point = point' := Option.some.inj (hprior.symm.trans hprior')
    rw [hblock, hhash, hsame]

/-- **An observation is sound**, a reorg report included, unless the node spells the hash of the
recorded block another way. -/
theorem observation_sound_iff (hevidence : EvidenceObserved s)
    (hobserved : (observeOnSession txHash (priorCommit s) expected targets now).run endpoint =
      .ok bundle)
    (happlied : applyChainObservation s bundle.observation = .ok r) :
    ObservationSound endpoint expected s bundle r ↔ ¬ Respelled endpoint txHash expected s := by
  constructor
  · intro hsound hrespelled
    obtain ⟨hreorg, hundisproved, hsame⟩ :=
      reorg_of_respelled hevidence hobserved happlied hrespelled
    rcases hsound.reorg hreorg with hdisproved | ⟨-, value, recorded, hvalue, hrecorded, hdiffer⟩
    · exact hundisproved hdisproved
    · rw [hvalue, hrecorded] at hsame
      exact hdiffer (Option.some.inj hsame)
  · intro hspelled
    refine ⟨observation_committed hobserved, (disproved_iff hobserved).mp, fun hreorg => ?_⟩
    by_cases hdisproved : Disproved endpoint expected s
    · exact Or.inl hdisproved
    · rcases respelled_of_reorg hevidence hobserved happlied hreorg hdisproved with
        hother | hrespelled
      · exact Or.inr hother
      · exact absurd hrespelled hspelled

end Soundness

/-! ## One block in two spellings -/

/-- A hash in lower case. -/
def lowerHash : String := "0xaaaaaaaaaaaaaaaaaaaaaaaaaaaaaaaaaaaaaaaaaaaaaaaaaaaaaaaaaaaaaaaa"

/-- The same hash in upper case. -/
def upperHash : String := "0xAAAAAAAAAAAAAAAAAAAAAAAAAAAAAAAAAAAAAAAAAAAAAAAAAAAAAAAAAAAAAAAA"

/-- A node on which every transaction is committed in one block at height 5, its tip. -/
def commitNode (blockHash : String) : Endpoint where
  url := "http://node"
  getBlockchainInfo := fun _ => .error "refused"
  getTransaction := fun _ _ => .ok (some ⟨none, some ⟨"committed", some blockHash, none⟩⟩)
  getBlockHash := fun _ _ => .ok (some blockHash)
  getHeader := fun _ _ => .ok (.obj [("number", .str "0x5")])
  getTipHeader := fun _ => .ok (.obj [("number", .str "0x5")])
  getLiveCell := fun _ _ _ => .error "refused"

/-- No expectation about chain or genesis block. -/
def anyChain : RpcIdentityExpectation := ⟨none, none⟩

/-- A snapshot with the commit of `commitNode lowerHash`. -/
def lowerSnapshot : ExecutionSnapshot :=
  { initialSnapshot .committed with
    chainStatus := .committed
    workflowStatus := .confirmed
    confirmationCount := 1
    committedBlockHash := some lowerHash
    committedBlockNumber := some "0x5" }

/-- What the examples read of an observation. -/
def commitShape (bundle : RpcObservationBundle) : ObservedStatus × Option String × Option String :=
  (bundle.observation.status, bundle.observation.blockHash, bundle.observation.blockNumber)

theorem exists_of_shape {answer : Except String RpcObservationBundle}
    {shape : ObservedStatus × Option String × Option String}
    (h : answer.toOption.map commitShape = some shape) :
    ∃ bundle, answer = .ok bundle ∧ commitShape bundle = shape := by
  cases answer with
  | error message => cases h
  | ok bundle => exact ⟨bundle, rfl, Option.some.inj h⟩

/-- The recorded commit was observed on the node that spells it in lower case. -/
theorem lowerSnapshot_observed : EvidenceObserved lowerSnapshot := by
  obtain ⟨earlier, hearlier, hshape⟩ := exists_of_shape
    (show ((observeOnSession "0x11" none anyChain [] 0).run
      (commitNode lowerHash)).toOption.map commitShape =
        some (.committed, some lowerHash, some "0x5") by decide +kernel)
  have hstatus : earlier.observation.status = .committed := congrArg Prod.fst hshape
  have hblock : earlier.observation.blockHash = some lowerHash :=
    congrArg (fun shape => shape.2.1) hshape
  have hnumber : earlier.observation.blockNumber = some "0x5" :=
    congrArg (fun shape => shape.2.2) hshape
  exact Or.inr ⟨[commitNode lowerHash], "0x11", none, anyChain, [], 0, earlier, hearlier, hstatus,
    hblock.symm, hnumber.symm⟩

theorem lowerSnapshot_prior : priorCommit lowerSnapshot = some ⟨lowerHash, "0x5"⟩ := by
  have hhash : truthy (some lowerHash) = some lowerHash := by decide +kernel
  have hnumber : truthy (some "0x5") = some "0x5" := by decide
  simp only [priorCommit, lowerSnapshot, hhash, hnumber]

/-- The same block in the recorded spelling is no reorg. -/
theorem observation_sound_iff_same : ∃ bundle r,
    (observeOnSession "0x11" (priorCommit lowerSnapshot) anyChain [] 0).run
      (commitNode lowerHash) = .ok bundle ∧
    applyChainObservation lowerSnapshot bundle.observation = .ok r ∧
    ObservationSound (commitNode lowerHash) anyChain lowerSnapshot bundle r := by
  obtain ⟨bundle, hbundle, -⟩ := exists_of_shape
    (show ((observeOnSession "0x11" (priorCommit lowerSnapshot) anyChain [] 0).run
      (commitNode lowerHash)).toOption.map commitShape =
        some (.committed, some lowerHash, some "0x5") by decide +kernel)
  obtain ⟨r, hr⟩ := applyChainObservation_accepts (s := lowerSnapshot) bundle.observation
    (by decide) (by decide)
  refine ⟨bundle, r, hbundle, hr,
    (observation_sound_iff lowerSnapshot_observed hbundle hr).mpr ?_⟩
  rintro ⟨point, text, -, -, hpoint, ⟨result, status, hasked, hresult, -, htext⟩, -, hdiffer, -⟩
  apply hdiffer
  rw [lowerSnapshot_prior] at hpoint
  obtain rfl := Option.some.inj hpoint
  obtain rfl := Option.some.inj (Except.ok.inj hasked)
  obtain rfl := Option.some.inj hresult
  exact (Option.some.inj htext).symm

/-- **The same block in capital letters** is reported as a reorg, though no 32-byte value differs. -/
theorem respelled_hash_reorgs : ∃ bundle r, EvidenceObserved lowerSnapshot ∧
    (observeOnSession "0x11" (priorCommit lowerSnapshot) anyChain [] 0).run
      (commitNode upperHash) = .ok bundle ∧
    applyChainObservation lowerSnapshot bundle.observation = .ok r ∧
    hashValue (some upperHash) = hashValue (some lowerHash) ∧
    ¬ ObservationSound (commitNode upperHash) anyChain lowerSnapshot bundle r := by
  have hsame : hashValue (some upperHash) = hashValue (some lowerHash) := by decide +kernel
  obtain ⟨value, hvalue⟩ : ∃ value, hashValue (some lowerHash) = some value :=
    Option.isSome_iff_exists.mp (by decide +kernel)
  obtain ⟨bundle, hbundle, hshape⟩ := exists_of_shape
    (show ((observeOnSession "0x11" (priorCommit lowerSnapshot) anyChain [] 0).run
      (commitNode upperHash)).toOption.map commitShape =
        some (.committed, some upperHash, some "0x5") by decide +kernel)
  have hstatus : bundle.observation.status = .committed := congrArg Prod.fst hshape
  have hblock : bundle.observation.blockHash = some upperHash :=
    congrArg (fun shape => shape.2.1) hshape
  obtain ⟨r, hr⟩ := applyChainObservation_accepts (s := lowerSnapshot) bundle.observation
    (by decide) (by decide)
  have hundisproved : ¬ Disproved (commitNode upperHash) anyChain lowerSnapshot := by
    rintro ⟨point, answer, found, hpoint, hanswer, hfound, hdiffer⟩
    rw [lowerSnapshot_prior] at hpoint
    obtain rfl := Option.some.inj hpoint
    obtain rfl := Except.ok.inj hanswer
    exact hdiffer (hsame.symm.trans hfound)
  obtain ⟨text, number, tipNumber, hreports, hcommit, htext, -⟩ :=
    observed_committed hbundle hstatus
  obtain rfl : upperHash = text := Option.some.inj (hblock.symm.trans htext)
  have hne : upperHash ≠ lowerHash := by decide +kernel
  refine ⟨bundle, r, lowerSnapshot_observed, hbundle, hr, hsame, fun hsound => ?_⟩
  have hrespelled : Respelled (commitNode upperHash) "0x11" anyChain lowerSnapshot :=
    ⟨_, upperHash, number, tipNumber, lowerSnapshot_prior, hreports, hcommit, hne, hsame,
      hundisproved⟩
  obtain ⟨hreorg, -, heq⟩ := reorg_of_respelled lowerSnapshot_observed hbundle hr hrespelled
  rcases hsound.reorg hreorg with hdisproved | ⟨-, found, recorded, hfound, hrecorded, hdiffer⟩
  · exact hundisproved hdisproved
  · rw [hfound, hrecorded] at heq
    exact hdiffer (Option.some.inj heq)

end CellFlow
