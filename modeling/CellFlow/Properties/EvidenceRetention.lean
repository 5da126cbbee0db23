/-
# CellFlow.Properties.EvidenceRetention — recorded attempt evidence is write-once.

Once an attempt has recorded inputs, input roles or a fingerprint, no accepted request should change
or empty them.  A request for the projected hash falls back on the recorded lists; one that switches
back to an earlier hash does not, and since a list from a request never prints like a recorded one, it
is accepted only without lists and then empties both.  Every other step of every run keeps the
evidence, and the accepted fingerprints stay listed and consecutively numbered in any case.
-/
import CellFlow.Api.AttemptEvidence
import CellFlow.Api.Scenario

namespace CellFlow

open Optimistic (World)
open Runs (Run)

/-! ## The steps of a project -/

/-- An act on the intent, or attempts that other intents of the project have taken. -/
inductive ProjectAct where
  | intent (act : Act)
  | elsewhere (hashes : List String)

/-- An operation on the intent commits, or other intents of the project come to own other hashes. -/
def ProjectStep (w : World Store) : ProjectAct → World Store → Prop
  | .intent act, w' => OrderedStep w act w'
  | .elsewhere hashes, w' => w' = w.commit { w.current with hashesElsewhere := hashes }

/-! ## Write-once evidence -/

/-- The request may replace a recorded fingerprint. -/
def allowsRevision : ProjectAct → Prop
  | .intent ⟨_, _, .attach req _ _⟩ => req.allowSignedPayloadRevision = true
  | _ => False

/-- The evidence `before` has recorded stands in `after`. -/
structure KeepsEvidence (act : ProjectAct) (before after : TransactionAttemptRecord) : Prop where
  inputs : before.inputOutPoints ≠ [] → after.inputOutPoints = before.inputOutPoints
  refs : before.inputRefs ≠ [] → after.inputRefs = before.inputRefs
  fingerprint : ∀ recorded, truthy before.signedPayloadHashSha256 = some recorded →
    truthy after.signedPayloadHashSha256 = some recorded ∨
      (allowsRevision act ∧ (truthy after.signedPayloadHashSha256).isSome)

/-- The step keeps the recorded evidence of every attempt. -/
def WriteOnce (act : ProjectAct) (before after : Store) : Prop :=
  ∀ attempt ∈ before.attempts,
    ∃ kept ∈ after.attempts, kept.id = attempt.id ∧ KeepsEvidence act attempt kept

/-- The revisions of every attempt are numbered from one. -/
def Numbered (revisions : List SignedPayloadRevision) : Prop :=
  ∀ id, (revisions.filter (fun revision => revision.attemptId = id)).map (·.revisionNumber) =
    List.range' 1 (revisions.filter (fun revision => revision.attemptId = id)).length

/-- The fingerprint an accepted request brought is listed for the attempt of its hash. -/
def Listed (db : Store) (act : ProjectAct) : Prop :=
  ∀ rows later req freshId now fingerprint, act = .intent ⟨rows, later, .attach req freshId now⟩ →
    truthy req.signedPayloadHashSha256 = some fingerprint →
    ∃ key ∈ db.attemptKeys, normalizeTxHash req.txHashInput = .ok key.2 ∧
      ∃ revision ∈ db.revisions, revision.attemptId = key.1 ∧
        revision.payloadHashSha256 = toLowerCase fingerprint

/-- The request switches back to an attempt, other than the projected one, that has recorded inputs
or roles. -/
def switchesBack (db : Store) : ProjectAct → Prop
  | .intent ⟨_, _, .attach req _ _⟩ =>
      ∃ attempt ∈ db.attempts, normalizeTxHash req.txHashInput = .ok attempt.txHash ∧
        db.execution.txHash ≠ some attempt.txHash ∧
        (attempt.inputOutPoints ≠ [] ∨ attempt.inputRefs ≠ [])
  | _ => False

/-! ## The revision table -/

theorem foldl_max_range' (n : Nat) : (List.range' 1 n).foldl max 0 = n := by
  induction n with
  | zero => rfl
  | succ n ih =>
      rw [List.range'_1_concat, List.foldl_concat, ih]
      omega

section Revisions

variable {input : AttachInput} {revisions : List SignedPayloadRevision} {id : String}

/-- A revision row is never removed. -/
theorem recordedRevisions_keeps {revision : SignedPayloadRevision} (h : revision ∈ revisions) :
    revision ∈ input.recordedRevisions id revisions := by
  unfold AttachInput.recordedRevisions
  split
  · exact h
  · dsimp only
    split
    · exact h
    · exact List.mem_append_left _ h

/-- The supplied fingerprint is listed afterwards. -/
theorem recordedRevisions_lists {fingerprint : String}
    (h : truthy input.signedPayloadHashSha256 = some fingerprint) :
    ∃ revision ∈ input.recordedRevisions id revisions,
      revision.attemptId = id ∧ revision.payloadHashSha256 = toLowerCase fingerprint := by
  unfold AttachInput.recordedRevisions
  rw [h]
  dsimp only
  split
  next hany =>
    obtain ⟨revision, hmem, hpayload⟩ := List.any_eq_true.mp hany
    obtain ⟨hin, hid⟩ := List.mem_filter.mp hmem
    exact ⟨revision, hin, of_decide_eq_true hid, of_decide_eq_true hpayload⟩
  · exact ⟨_, List.mem_append_right _ List.mem_cons_self, rfl, rfl⟩

/-- A new revision takes the next number of its attempt. -/
theorem Numbered.recorded (h : Numbered revisions) :
    Numbered (input.recordedRevisions id revisions) := by
  unfold AttachInput.recordedRevisions
  split
  · exact h
  · dsimp only
    split
    · exact h
    · intro other
      rw [List.filter_append, List.map_append, List.length_append, h other, h id,
        foldl_max_range']
      by_cases hid : id = other
      · subst hid
        rw [List.filter_cons_of_pos (by simp), List.filter_nil, List.map_singleton,
          List.length_singleton, List.range'_1_concat, Nat.add_comm 1]
      · rw [List.filter_cons_of_neg (by simpa using hid), List.filter_nil]
        simp

end Revisions

/-! ## Fingerprints -/

/-- Recorded fingerprints are in lower case. -/
def LowerCased (attempts : List TransactionAttemptRecord) : Prop :=
  ∀ attempt ∈ attempts, ∀ recorded,
    attempt.signedPayloadHashSha256 = some recorded → toLowerCase recorded = recorded

/-- The service hands on a fingerprint in lower case, an empty one as none, and the leave to revise
it as it stands. -/
theorem normalize_fingerprint {req : AttachRequest} {normalized : NormalizedAttach}
    (h : req.normalize = .ok normalized) :
    normalized.signedPayloadHashSha256 = (truthy req.signedPayloadHashSha256).map toLowerCase ∧
      normalized.allowSignedPayloadRevision = req.allowSignedPayloadRevision := by
  unfold AttachRequest.normalize at h
  split at h
  next txHash inputs refs hhash hinputs hrefs =>
    simp only at h
    split at h
    · cases h
    · cases h
      exact ⟨rfl, rfl⟩
  · cases h
  · cases h
  · cases h

theorem truthy_toLowerCase {s : String} (h : s ≠ "") :
    truthy (some (toLowerCase s)) = some (toLowerCase s) := by
  have hne : s.toList ≠ [] := mt String.toList_eq_nil_iff.mp h
  simpa [truthy, Option.filter, toLowerCase] using hne

/-- What the service hands on is printable and in lower case. -/
theorem normalized_fingerprint {req : AttachRequest} {normalized : NormalizedAttach}
    (h : req.normalize = .ok normalized) {supplied : String}
    (hs : normalized.signedPayloadHashSha256 = some supplied) :
    toLowerCase supplied = supplied ∧ truthy (some supplied) = some supplied := by
  rw [(normalize_fingerprint h).1] at hs
  obtain ⟨raw, hraw, rfl⟩ := Option.map_eq_some_iff.mp hs
  exact ⟨toLowerCase_toLowerCase raw, truthy_toLowerCase (truthy_eq_some.mp hraw).2⟩

namespace AttachInput

variable {input : AttachInput} {existing : TransactionAttemptRecord}

/-- An accepted evidence check lets a fingerprint through only as `FingerprintAgrees` says. -/
theorem existingGuard_fingerprint (h : input.existingGuard existing = .ok ()) :
    FingerprintAgrees input.signedPayloadHashSha256 input.allowSignedPayloadRevision
      existing.signedPayloadHashSha256 := by
  intro supplied recorded hs hr
  unfold existingGuard at h
  rw [hs, hr] at h
  split at h
  · cases h
  · split at h
    · cases h
    · dsimp only at h
      split at h
      · cases h
      next hagrees =>
        by_contra hneither
        rw [not_or, Bool.not_eq_true] at hneither
        exact hagrees hneither

/-- An accepted evidence check compared no list. -/
theorem existingGuard_silent (hbuilt : ∀ r ∈ input.inputRefs.getD [], r.keys = .source)
    (hstored : existing.inputRefs.map InputRef.stored = existing.inputRefs)
    (h : input.existingGuard existing = .ok ()) :
    input.inputRefs.getD [] = [] ∧ input.persistedInputs = [] := by
  by_contra hlists
  have hbrings : input.inputRefs.getD [] ≠ [] ∨ input.persistedInputs ≠ [] := by
    by_contra hnone
    rw [not_or, not_not, not_not] at hnone
    exact hlists hnone
  rw [existingGuard_of_built hbuilt hstored hbrings] at h
  cases h

/-- Without lists, a request for another hash than the projected one persists none. -/
theorem persistedInputRefs_eq_nil (hsame : input.sameHash = false)
    (hrefs : input.inputRefs.getD [] = []) (hinputs : input.persistedInputs = []) :
    input.persistedInputRefs = [] := by
  unfold persistedInputRefs
  rw [hsame, hinputs]
  cases hr : input.inputRefs with
  | none => simp
  | some items =>
      cases items with
      | nil => simp
      | cons item rest =>
          rw [hr] at hrefs
          cases hrefs

end AttachInput

/-! ## One request -/

/-- What is written once, with the id. -/
def TransactionAttemptRecord.retained (attempt : TransactionAttemptRecord) :
    String × List OutPointRef × List InputRef × Option String :=
  (attempt.id, attempt.inputOutPoints, attempt.inputRefs, attempt.signedPayloadHashSha256)

theorem statusFree_retained : StatusFree TransactionAttemptRecord.retained :=
  fun _ _ _ _ _ _ _ _ _ _ => rfl

theorem KeepsEvidence.of_retained {act : ProjectAct} {before after : TransactionAttemptRecord}
    (h : after.retained = before.retained) : KeepsEvidence act before after := by
  simp only [TransactionAttemptRecord.retained, Prod.mk.injEq] at h
  obtain ⟨-, hinputs, hrefs, hfingerprint⟩ := h
  exact ⟨fun _ => hinputs, fun _ => hrefs, fun _ hr => Or.inl (hfingerprint ▸ hr)⟩

/-- A step that keeps every row's evidence as it is. -/
theorem writeOnce_of_retained {act : ProjectAct} {before after : Store}
    (h : ∀ attempt ∈ before.attempts,
      attempt.retained ∈ after.attempts.map TransactionAttemptRecord.retained) :
    WriteOnce act before after := by
  intro attempt hmem
  obtain ⟨kept, hkept, heq⟩ := List.mem_map.mp (h attempt hmem)
  exact ⟨kept, hkept, congrArg (·.1) heq, .of_retained heq⟩

/-- An update of one row that keeps its evidence, where the others stay. -/
theorem writeOnce_updated {act : ProjectAct} {db t : Store} {existing : TransactionAttemptRecord}
    {f : TransactionAttemptRecord → TransactionAttemptRecord} (hid : ∀ a, (f a).id = a.id)
    (ht : t.attempts = updateAttempt existing.id f db.attempts)
    (hids : (db.attempts.map (·.id)).Nodup) (hmem : existing ∈ db.attempts) :
    WriteOnce act db t ↔ KeepsEvidence act existing (f existing) := by
  have hin : f existing ∈ t.attempts := by
    rw [ht]
    exact List.mem_map.mpr ⟨existing, hmem, if_pos rfl⟩
  constructor
  · intro h
    obtain ⟨kept, hkept, hsame, hkeeps⟩ := h existing hmem
    rw [ht] at hkept
    obtain ⟨before, hbefore, rfl⟩ := List.mem_map.mp hkept
    split at hsame
    next heq =>
      rw [if_pos heq] at hkeeps
      rwa [List.inj_on_of_nodup_map hids hbefore hmem heq] at hkeeps
    next hne => exact absurd hsame hne
  · intro h attempt hattempt
    by_cases heq : attempt.id = existing.id
    · rw [List.inj_on_of_nodup_map hids hattempt hmem heq]
      exact ⟨f existing, hin, hid existing, h⟩
    · refine ⟨attempt, ?_, rfl, .of_retained rfl⟩
      rw [ht]
      exact List.mem_map.mpr ⟨attempt, hattempt, if_neg heq⟩

section Requests

variable {w : World Store} {act : Act} {req : AttachRequest} {normalized : NormalizedAttach}
  {after : ExecutionSnapshot} {existing : TransactionAttemptRecord} {freshId : String} {now : Int}

/-- The fingerprint of an accepted request is the recorded one, or may replace it. -/
theorem keepsEvidence_fingerprint (hn : req.normalize = .ok normalized)
    (hlower : ∀ recorded, existing.signedPayloadHashSha256 = some recorded →
      toLowerCase recorded = recorded)
    (hagrees : FingerprintAgrees normalized.signedPayloadHashSha256
      normalized.allowSignedPayloadRevision existing.signedPayloadHashSha256) :
    ∀ recorded, truthy existing.signedPayloadHashSha256 = some recorded →
      truthy (normalized.signedPayloadHashSha256.or existing.signedPayloadHashSha256) =
          some recorded ∨
        (normalized.allowSignedPayloadRevision = true ∧
          (truthy (normalized.signedPayloadHashSha256.or
            existing.signedPayloadHashSha256)).isSome) := by
  intro recorded hrecorded
  cases hs : normalized.signedPayloadHashSha256 with
  | none => exact Or.inl (by simpa using hrecorded)
  | some supplied =>
      obtain ⟨hlow, hprints⟩ := normalized_fingerprint hn hs
      rw [Option.some_or, hprints]
      rw [hs] at hagrees
      rcases hagrees supplied recorded hprints hrecorded with hsame | hrevision
      · rw [hlow, hlower recorded (truthy_eq_some.mp hrecorded).1] at hsame
        exact Or.inl (congrArg some hsame.symm)
      · exact Or.inr ⟨hrevision, rfl⟩

/-- A request for the projected hash keeps the evidence. -/
theorem keepsEvidence_projected {input : AttachInput} (hi : EvidenceRows w)
    (hcur : Current input.aggregate w.current) (hmem : existing ∈ w.current.attempts)
    (hhash : existing.txHash = input.txHash) (hsame : input.sameHash = true)
    (hsilent : input.inputRefs.getD [] = [] ∧ input.persistedInputs = []) :
    existing.inputOutPoints = [] ∧ (input.reattached existing).inputRefs = existing.inputRefs := by
  have htx : w.current.execution.txHash = some existing.txHash := by
    have hprojected : input.currentHash = some input.txHash := of_decide_eq_true hsame
    rw [AttachInput.currentHash, hcur.execution] at hprojected
    rw [hprojected, hhash]
  have hmirror := hi.projected hmem htx
  have hinputs : existing.inputOutPoints = w.current.execution.inputOutPoints :=
    congrArg Prod.fst hmirror
  have hrefs : existing.inputRefs = w.current.execution.inputRefs := congrArg Prod.snd hmirror
  have hform : w.current.execution.inputRefs.map InputRef.stored = w.current.execution.inputRefs :=
    hi.row.2
  constructor
  · rw [hinputs, ← hcur.execution]
    exact ((AttachInput.persistedInputs_eq_nil hsame).mp hsilent.2).2
  · show input.persistedInputRefs.map InputRef.stored = existing.inputRefs
    rw [AttachInput.persistedInputRefs_kept hsame hsilent.1 hsilent.2, hcur.execution, hform, hrefs]

/-- A request for the hash of a row, which no list is compared for, keeps the evidence exactly where
the hash is the projected one or the row has none. -/
theorem writeOnce_known {input : AttachInput} {t : Store} {act : ProjectAct} (hi : EvidenceRows w)
    (hcur : Current input.aggregate w.current) (hmem : existing ∈ w.current.attempts)
    (hhash : existing.txHash = input.txHash)
    (hsilent : input.inputRefs.getD [] = [] ∧ input.persistedInputs = [])
    (hfingerprint : ∀ recorded, truthy existing.signedPayloadHashSha256 = some recorded →
      truthy (input.reattached existing).signedPayloadHashSha256 = some recorded ∨
        (allowsRevision act ∧ (truthy (input.reattached existing).signedPayloadHashSha256).isSome))
    (ht : t.attempts = updateAttempt existing.id input.reattached w.current.attempts) :
    WriteOnce act w.current t ↔
      (input.sameHash = false → existing.inputOutPoints = [] ∧ existing.inputRefs = []) := by
  have hids := hi.rows.attemptIds
  have hblank : (input.reattached existing).inputOutPoints = [] := by
    simp [AttachInput.reattached, hsilent.2]
  rw [writeOnce_updated (f := input.reattached) (fun _ => rfl) ht hids hmem]
  constructor
  · intro hkeeps hother
    have hnoRefs : (input.reattached existing).inputRefs = [] := by
      simp [AttachInput.reattached,
        AttachInput.persistedInputRefs_eq_nil hother hsilent.1 hsilent.2]
    constructor
    · by_contra hne
      exact hne ((hkeeps.inputs hne).symm.trans hblank)
    · by_contra hne
      exact hne ((hkeeps.refs hne).symm.trans hnoRefs)
  · intro hknown
    cases hsame : input.sameHash with
    | false =>
        obtain ⟨hinputs, hrefs⟩ := hknown hsame
        exact ⟨fun hne => absurd hinputs hne, fun hne => absurd hrefs hne, hfingerprint⟩
    | true =>
        obtain ⟨hinputs, hrefs⟩ := keepsEvidence_projected hi hcur hmem hhash hsame hsilent
        exact ⟨fun hne => absurd hinputs hne, fun _ => hrefs, hfingerprint⟩

/-- **An accepted request** keeps the evidence unless it switches back. -/
theorem writeOnce_attach_iff {rows later t : Store} (hi : EvidenceRows w)
    (hlower : LowerCased w.current.attempts) {view : IntentAggregate}
    (hcur : w.current.execution.version = view.execution.version → Current view w.current)
    (h : (Op.attach req freshId now).commit view w.current = some t) :
    WriteOnce (.intent ⟨rows, later, .attach req freshId now⟩) w.current t ↔
      ¬ switchesBack w.current (.intent ⟨rows, later, .attach req freshId now⟩) := by
  obtain ⟨normalized, hn, ha⟩ := Op.attach_commit h
  obtain ⟨after, -, -, hw⟩ := attachAttempt_ok ha
  have hnorm := (AttachRequest.normalize_ok hn).1
  obtain ⟨-, hversion, -, ⟨existing, number, hmem, hhash, hexisting, rfl⟩ | ⟨hnew, -, rfl⟩⟩ :=
    attachTransaction_ok hw
  · have hc : Current view w.current := hcur hversion
    have hform : existing.inputRefs.map InputRef.stored = existing.inputRefs :=
      (hi.stored existing.evidence (List.mem_map_of_mem hmem)).2
    have hsilent := AttachInput.existingGuard_silent (normalized_built hn) hform hexisting
    have hfingerprint := keepsEvidence_fingerprint hn (hlower existing hmem)
      (AttachInput.existingGuard_fingerprint hexisting)
    rw [(normalize_fingerprint hn).2] at hfingerprint
    refine Iff.trans (writeOnce_known hi hc hmem hhash hsilent ?_ rfl) ?_
    · exact hfingerprint
    have hsame : (normalized.input view freshId now (snapshotFromExecution view.execution)
        after).sameHash = false ↔ w.current.execution.txHash ≠ some normalized.txHash := by
      rw [← hc.execution]
      exact decide_eq_false_iff_not
    rw [hsame]
    constructor
    · rintro hknown ⟨attempt, hattempt, hnorm', hother, hrecorded⟩
      have hhash' : attempt.txHash = normalized.txHash := Except.ok.inj (hnorm'.symm.trans hnorm)
      have heq : attempt = existing := by
        have hhashes := hi.rows.hashes
        rw [Store.attemptKeys, List.map_map] at hhashes
        exact List.inj_on_of_nodup_map hhashes hattempt hmem (hhash'.trans hhash.symm)
      rw [hhash'] at hother
      rw [heq] at hrecorded
      obtain ⟨hinputs, hrefs⟩ := hknown hother
      rcases hrecorded with hne | hne
      · exact hne hinputs
      · exact hne hrefs
    · intro hback hother
      by_contra hrecorded
      refine hback ⟨existing, hmem, ?_, ?_, not_and_or.mp hrecorded⟩
      · rw [hhash]
        exact hnorm
      · rw [hhash]
        exact hother
  · refine iff_of_true (writeOnce_of_retained ?_) ?_
    · intro attempt hmem
      rw [AttachInput.attachedStore, insertedAttempts_kept statusFree_retained]
      exact List.mem_append_left _ (List.mem_map_of_mem hmem)
    · rintro ⟨attempt, hmem, hsame, -⟩
      exact hnew attempt hmem (Except.ok.inj (hsame.symm.trans hnorm))

end Requests

/-! ## What every step keeps -/

section Operations

variable {view : IntentAggregate} {db t : Store}

theorem LowerCased.of_retained (h : LowerCased db.attempts)
    (hsub : ∀ attempt ∈ t.attempts,
      attempt.retained ∈ db.attempts.map TransactionAttemptRecord.retained) :
    LowerCased t.attempts := by
  intro attempt hmem recorded hrecorded
  obtain ⟨before, hbefore, heq⟩ := List.mem_map.mp (hsub attempt hmem)
  have hsame : before.signedPayloadHashSha256 = attempt.signedPayloadHashSha256 :=
    congrArg (·.2.2.2) heq
  exact h before hbefore recorded (hsame.trans hrecorded)

/-- An operation that is no attach leaves the revisions, and every fingerprint. -/
theorem Op.other_revisions {op : Op} (hop : ∀ req freshId now, op ≠ .attach req freshId now)
    (h : op.commit view db = some t) : t.revisions = db.revisions := by
  cases op with
  | attach req freshId now => exact absurd rfl (hop req freshId now)
  | mark req now =>
      obtain ⟨after, -, -, -, -, rfl⟩ := markAttempt_ok (Op.mark_commit h).2
      rfl
  | observe env =>
      obtain ⟨txHash, result, -, hp⟩ := Op.observe_commit h
      obtain ⟨input, -, rfl⟩ := reconcileProjection_writes hp
      rfl
  | probe env index =>
      obtain ⟨candidate, -, ⟨input, -, rfl⟩ | ⟨input, -, hp⟩⟩ := Op.probe_commit h
      · rfl
      · obtain ⟨-, -, rfl⟩ := promoteAttemptProjection_ok hp
        rfl
  | preflight verified reason rawObservation now =>
      cases h
      rfl
  | operatorNote text now =>
      cases h
      rfl

/-- **An accepted request** records its fingerprint under the attempt of its hash. -/
theorem Op.attach_revisions {req : AttachRequest} {freshId : String} {now : Int}
    (h : (Op.attach req freshId now).commit view db = some t) :
    (LowerCased db.attempts → LowerCased t.attempts) ∧
      ∃ (key : String × String) (input : AttachInput), key ∈ t.attemptKeys ∧
        normalizeTxHash req.txHashInput = .ok key.2 ∧
        input.signedPayloadHashSha256 = (truthy req.signedPayloadHashSha256).map toLowerCase ∧
        t.revisions = input.recordedRevisions key.1 db.revisions := by
  obtain ⟨normalized, hn, ha⟩ := Op.attach_commit h
  obtain ⟨after, -, -, hw⟩ := attachAttempt_ok ha
  have hnorm := (AttachRequest.normalize_ok hn).1
  have hfingerprint := (normalize_fingerprint hn).1
  have hlow : ∀ supplied, normalized.signedPayloadHashSha256 = some supplied →
      toLowerCase supplied = supplied := fun _ hs => (normalized_fingerprint hn hs).1
  obtain ⟨-, -, -, ⟨existing, number, hmem, hhash, -, rfl⟩ | ⟨hnew, -, rfl⟩⟩ :=
    attachTransaction_ok hw
  · refine ⟨?_, existing.key, _, ?_, ?_, hfingerprint, rfl⟩
    · intro hlower attempt hattempt recorded hrecorded
      obtain ⟨before, hbefore, rfl⟩ := List.mem_map.mp hattempt
      split at hrecorded
      · rcases Option.or_eq_some_iff.mp hrecorded with hs | ⟨-, hr⟩
        · exact hlow recorded hs
        · exact hlower before hbefore recorded hr
      · exact hlower before hbefore recorded hrecorded
    · exact List.mem_map.mpr ⟨_, List.mem_map.mpr ⟨existing, hmem, if_pos rfl⟩, rfl⟩
    · rw [hnorm]
      exact congrArg Except.ok hhash.symm
  · refine ⟨?_, (freshId, normalized.txHash), _, ?_, hnorm, hfingerprint, rfl⟩
    · intro hlower attempt hattempt recorded hrecorded
      have hin := List.mem_map_of_mem (f := TransactionAttemptRecord.retained) hattempt
      rw [AttachInput.attachedStore, insertedAttempts_kept statusFree_retained,
        List.mem_append, List.mem_singleton] at hin
      rcases hin with hin | heq
      · obtain ⟨before, hbefore, hsame⟩ := List.mem_map.mp hin
        have hrow : before.signedPayloadHashSha256 = attempt.signedPayloadHashSha256 :=
          congrArg (·.2.2.2) hsame
        exact hlower before hbefore recorded (hrow.trans hrecorded)
      · have hrow : attempt.signedPayloadHashSha256 = normalized.signedPayloadHashSha256 :=
          congrArg (·.2.2.2) heq
        exact hlow recorded (hrow.symm.trans hrecorded)
    · rw [Store.attemptKeys, AttachInput.attachedStore, insertedAttempts_kept statusFree_key]
      exact List.mem_append_right _ List.mem_cons_self

end Operations

/-! ## The run -/

/-- What every world of a project satisfies, with the steps that led to it. -/
structure RetentionInv (acts : List ProjectAct) (w : World Store) : Prop where
  guarded : w.Consistent rowVersion guardedRows
  evidence : EvidenceRows w
  lower : LowerCased w.current.attempts
  numbered : Numbered w.current.revisions
  listed : ∀ act ∈ acts, Listed w.current act

variable {w w' : World Store} {acts : List ProjectAct} {act : ProjectAct}

theorem retentionInv_opening (req : CreateRequest) : RetentionInv [] (opening req) where
  guarded := consistent_opening req
  evidence := evidenceRows_opening req
  lower := by
    intro attempt hmem
    cases hmem
  numbered := fun _ => rfl
  listed := by
    intro act hmem
    cases hmem

/-- What is listed stays listed while keys and revisions are only added. -/
theorem Listed.kept {db t : Store} (hkeys : ∀ key ∈ db.attemptKeys, key ∈ t.attemptKeys)
    (hrevisions : ∀ revision ∈ db.revisions, revision ∈ t.revisions) (h : Listed db act) :
    Listed t act := by
  intro rows later req freshId now fingerprint heq hf
  obtain ⟨key, hkey, hnorm, revision, hrevision, hid⟩ :=
    h rows later req freshId now fingerprint heq hf
  exact ⟨key, hkeys key hkey, hnorm, revision, hrevisions revision hrevision, hid⟩

/-- Other intents of the project change no row of this one. -/
theorem EvidenceRows.elsewhere (h : EvidenceRows w) (hashes : List String) :
    EvidenceRows (w.commit { w.current with hashesElsewhere := hashes }) where
  rows :=
    { ids := h.rows.ids
      hashes := h.rows.hashes
      points := h.rows.points
      kept := by
        intro view hview key hkey
        rw [World.views_commit, List.mem_cons] at hview
        rcases hview with rfl | hview
        · exact hkey
        · exact h.rows.kept view hview key hkey }
  consistent := h.consistent.commit (Or.inr ⟨rfl, rfl⟩)
  stored := h.stored
  row := h.row
  mirrored := h.mirrored

/-- **One step of the project.** -/
theorem RetentionInv.step (hi : RetentionInv acts w) (h : ProjectStep w act w') :
    RetentionInv (acts ++ [act]) w' := by
  match act, h with
  | .elsewhere hashes, h =>
      cases h
      refine ⟨hi.guarded.commit (Or.inr ⟨rfl, rfl⟩), hi.evidence.elsewhere hashes, hi.lower,
        hi.numbered, ?_⟩
      intro act hmem
      rcases List.mem_append.mp hmem with hmem | hmem
      · exact (hi.listed act hmem).kept (fun _ hk => hk) (fun _ hr => hr)
      · rw [List.mem_singleton.mp hmem]
        intro rows later req freshId now fingerprint heq
        cases heq
  | .intent ⟨rows, later, op⟩, h =>
      have hevidence := hi.evidence.step h
      have hguarded := Step.consistent hi.guarded h.2
      have hkept := hevidence.rows.kept w.current
      obtain ⟨-, hrows, hlater, t, hc, rfl⟩ := h
      have hkeys : ∀ key ∈ w.current.attemptKeys, key ∈ t.attemptKeys :=
        hkept (List.mem_cons_of_mem _ (World.current_mem_views w))
      by_cases hop : ∃ req freshId now, op = .attach req freshId now
      · obtain ⟨req, freshId, now, rfl⟩ := hop
        obtain ⟨hlower, key, input, hkey, hnorm, hfingerprint, hrevisions⟩ :=
          Op.attach_revisions hc
        refine ⟨hguarded, hevidence, hlower hi.lower, ?_, ?_⟩
        · show Numbered t.revisions
          rw [hrevisions]
          exact hi.numbered.recorded
        · intro act hmem
          rcases List.mem_append.mp hmem with hmem | hmem
          · refine (hi.listed act hmem).kept hkeys ?_
            intro revision hrevision
            rw [World.commit_current, hrevisions]
            exact recordedRevisions_keeps hrevision
          · rw [List.mem_singleton.mp hmem]
            intro _ _ _ _ _ fingerprint heq hf
            cases heq
            have hsupplied : truthy input.signedPayloadHashSha256 =
                some (toLowerCase fingerprint) := by
              rw [hfingerprint, hf]
              exact truthy_toLowerCase (truthy_eq_some.mp hf).2
            obtain ⟨revision, hin, hid, hpayload⟩ :
                ∃ revision ∈ input.recordedRevisions key.1 w.current.revisions,
                  revision.attemptId = key.1 ∧
                    revision.payloadHashSha256 = toLowerCase (toLowerCase fingerprint) :=
              recordedRevisions_lists hsupplied
            rw [toLowerCase_toLowerCase] at hpayload
            refine ⟨key, hkey, hnorm, revision, ?_, hid, hpayload⟩
            rw [World.commit_current, hrevisions]
            exact hin
      · have hother : ∀ req freshId now, op ≠ .attach req freshId now :=
          fun req freshId now heq => hop ⟨req, freshId, now, heq⟩
        have hretained := Op.other_kept statusFree_retained hother hc
        have hrevisions := Op.other_revisions hother hc
        refine ⟨hguarded, hevidence, hi.lower.of_retained ?_, ?_, ?_⟩
        · intro attempt hmem
          rw [← hretained]
          exact List.mem_map_of_mem hmem
        · show Numbered t.revisions
          rw [hrevisions]
          exact hi.numbered
        · intro act hmem
          rcases List.mem_append.mp hmem with hmem | hmem
          · refine (hi.listed act hmem).kept hkeys ?_
            rw [World.commit_current, hrevisions]
            exact fun _ hr => hr
          · rw [List.mem_singleton.mp hmem]
            intro _ _ req freshId now _ heq
            cases heq
            exact absurd rfl (hother req freshId now)

/-- A run of the intent alone is a run of the project. -/
theorem project_run {w₀ : World Store} {acts : List Act} (h : Run OrderedStep w₀ acts w) :
    Run ProjectStep w₀ (acts.map .intent) w := by
  induction h with
  | start => exact .start
  | next _ hst ih =>
      rw [List.map_append]
      exact ih.next hst

theorem retentionInv_run {req : CreateRequest} (h : Run ProjectStep (opening req) acts w) :
    RetentionInv acts w :=
  h.history RetentionInv (retentionInv_opening req) fun _ _ _ _ _ hi hst => hi.step hst

/-- **One step keeps the evidence unless it switches back.** -/
theorem writeOnce_iff (hi : RetentionInv acts w) (h : ProjectStep w act w') :
    WriteOnce act w.current w'.current ↔ ¬ switchesBack w.current act := by
  have hsilent : ∀ {t : Store}, (∀ attempt ∈ w.current.attempts,
      attempt.retained ∈ t.attempts.map TransactionAttemptRecord.retained) →
      ¬ switchesBack w.current act →
      (WriteOnce act w.current t ↔ ¬ switchesBack w.current act) :=
    fun hretained hback => iff_of_true (writeOnce_of_retained hretained) hback
  match act, h with
  | .elsewhere hashes, h =>
      cases h
      exact hsilent (fun attempt hmem => List.mem_map_of_mem hmem) not_false
  | .intent ⟨rows, later, op⟩, h =>
      obtain ⟨-, hrows, -, t, hc, rfl⟩ := h
      by_cases hop : ∃ req freshId now, op = .attach req freshId now
      · obtain ⟨req, freshId, now, rfl⟩ := hop
        exact writeOnce_attach_iff hi.evidence hi.lower (current_of_version hi.guarded hrows) hc
      · have hother : ∀ req freshId now, op ≠ .attach req freshId now :=
          fun req freshId now heq => hop ⟨req, freshId, now, heq⟩
        refine hsilent ?_ ?_
        · intro attempt hmem
          rw [World.commit_current, Op.other_kept statusFree_retained hother hc]
          exact List.mem_map_of_mem hmem
        · cases op with
          | attach req freshId now => exact absurd rfl (hother req freshId now)
          | _ => exact not_false

/-- **Recorded evidence is write-once exactly in the runs that never switch back** to an attempt with
recorded inputs or roles, and in every run the accepted fingerprints stay listed, numbered from
one. -/
theorem evidence_write_once_iff (req : CreateRequest) (acts : List ProjectAct) (w : World Store) :
    (Run (fun w act w' => ProjectStep w act w' ∧ WriteOnce act w.current w'.current) (opening req)
        acts w ↔
      Run (Runs.when (fun w act => ¬ switchesBack w.current act) ProjectStep) (opening req)
        acts w) ∧
      (Run ProjectStep (opening req) acts w →
        (∀ act ∈ acts, Listed w.current act) ∧ Numbered w.current.revisions) := by
  refine ⟨Run.good_iff ?_, ?_⟩
  · intro acts w act w' hrun hst
    exact writeOnce_iff (retentionInv_run (hrun.mono fun _ _ _ hboth => hboth.1)) hst
  · intro h
    have hi := retentionInv_run h
    exact ⟨hi.listed, hi.numbered⟩

section Runs

open Scenario

/-- Two transactions are prepared, one after the other. -/
def preparedTwice : List Op :=
  [attach 'a' true none [outPoint '1'], attach 'b' true (some .rebuild) [outPoint '1']]

/-- Switching back to the first transaction empties its inputs. -/
theorem switching_back_empties : ¬ ∀ (req : CreateRequest) (acts : List ProjectAct)
    (w w' : World Store) (act : ProjectAct), Run ProjectStep (opening req) acts w →
      ProjectStep w act w' → WriteOnce act w.current w'.current := by
  intro h
  let again := attach 'a' true (some .rebuild) []
  have hfacts : commitsAll (serviceCreateIntent (create .committed)) preparedTwice = true ∧
      (again.commit (after .committed preparedTwice).aggregate
        (after .committed preparedTwice)).isSome = true ∧
      ((after .committed preparedTwice).attempts.any fun attempt =>
        attempt.id = hashOf 'a' && attempt.inputOutPoints ≠ []) = true ∧
      ((perform (after .committed preparedTwice) again).attempts.all fun attempt =>
        attempt.id ≠ hashOf 'a' || attempt.inputOutPoints = []) = true := by
    decide +kernel
  obtain ⟨hcommits, hagain, hrecorded, hblank⟩ := hfacts
  obtain ⟨acts, past, hrun⟩ := run_after_alone hcommits
  have hagain := perform_commit hagain
  generalize perform (after .committed preparedTwice) again = t at hagain hblank
  generalize after .committed preparedTwice = db at hrun hagain hrecorded
  have hst : Step ⟨db, past⟩ ⟨db, db, again⟩ ⟨t, db :: past⟩ := step_alone hagain
  have honce := h _ _ _ _ (.intent ⟨db, db, again⟩) (project_run (ordered_of_alone hrun))
    ⟨le_refl _, hst⟩
  obtain ⟨attempt, hmem, hfields⟩ := List.any_eq_true.mp hrecorded
  simp only [Bool.and_eq_true, decide_eq_true_eq] at hfields
  obtain ⟨kept, hkept, hid, hkeeps⟩ := honce attempt hmem
  have hempty := List.all_eq_true.mp hblank kept hkept
  simp only [Bool.or_eq_true, decide_eq_true_eq] at hempty
  rcases hempty with hne | hnil
  · exact hne (hid.trans hfields.1)
  · exact hfields.2 ((hkeeps.inputs hfields.2).symm.trans hnil)

end Runs

end CellFlow
