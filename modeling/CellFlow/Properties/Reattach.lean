/-
# CellFlow.Properties.Reattach — attaching the projected transaction again.

A retry of a lost response, and a `/track` without evidence, should succeed and change nothing.  The
evidence is compared as JSON text, though, and a list that went through a `jsonb` column prints its
keys in another order than one built from the request: two lists with the same values never print
alike unless both are empty.  The roles are rebuilt from the recorded inputs where none are supplied,
so even a request without evidence is refused once inputs are recorded.  `reattach_idempotent_iff`
says that nothing else goes wrong.
-/
import CellFlow.Api.AttemptEvidence
import CellFlow.Api.Scenario

namespace CellFlow

open Js (Json)
open Optimistic (World)
open Runs (Run)


/-! ## Agreement of evidence -/

/-- What a request supplies of a kind of evidence agrees with what is recorded, as values: it is the
recorded list, or there is none. -/
def ListAgrees {α : Type} (stored : α → α) (supplied : Option (List α)) (recorded : List α) : Prop :=
  supplied.getD [] = [] ∨ (supplied.getD []).map stored = recorded

/-- The evidence of a request agrees with the recorded one. -/
structure EvidenceAgrees (req : NormalizedAttach) (db : Store) : Prop where
  inputs : ListAgrees OutPointRef.stored req.inputOutPoints db.execution.inputOutPoints
  refs : ListAgrees InputRef.stored req.inputRefs db.execution.inputRefs
  fingerprint : ∀ attempt ∈ db.attempts, attempt.txHash = req.txHash →
    FingerprintAgrees req.signedPayloadHashSha256 req.allowSignedPayloadRevision
      attempt.signedPayloadHashSha256

/-- **Attaching again is idempotent**: it succeeds and keeps the evidence where the supplied one
agrees, and it is refused as a conflict exactly where it differs. -/
structure Idempotent (req : AttachRequest) (normalized : NormalizedAttach) (freshId : String)
    (now : Int) (db : Store) : Prop where
  accepted : EvidenceAgrees normalized db →
    ∃ t, serviceAttachTransaction req freshId now db = .ok t ∧
      t.execution.evidence = db.execution.evidence ∧ t.evidence = db.evidence
  refused : (∃ message, serviceAttachTransaction req freshId now db =
    .error (intentConflict message)) ↔ ¬ EvidenceAgrees normalized db

/-- No list is compared: none is supplied, and there are no recorded inputs to fall back on. -/
def ComparesNothing (req : NormalizedAttach) (db : Store) : Prop :=
  req.inputOutPoints.getD [] = [] ∧ req.inputRefs.getD [] = [] ∧ db.execution.inputOutPoints = []

/-! ## One request -/

section Request

variable {req : NormalizedAttach} {w : World Store} {freshId : String} {now : Int}
  {after : ExecutionSnapshot}

theorem evidenceGuard_error {view : IntentAggregate} {e : Failure}
    (h : req.evidenceGuard view = .error e) : ∃ message, e = intentConflict message := by
  unfold NormalizedAttach.evidenceGuard at h
  simp only at h
  split_ifs at h <;> cases h <;> exact ⟨_, rfl⟩

/-- The attempt that owns the projected hash is the active one, with the evidence of the row. -/
theorem projected_attempt (hi : EvidenceRows w) (htx : w.current.execution.txHash = some req.txHash) :
    ∃ existing, w.current.attempts.find? (fun attempt => attempt.txHash = req.txHash) =
        some existing ∧ existing ∈ w.current.attempts ∧ existing.txHash = req.txHash ∧
      some existing.id = w.current.intent.activeAttemptId ∧
      existing.inputOutPoints = w.current.execution.inputOutPoints ∧
      existing.inputRefs = w.current.execution.inputRefs := by
  obtain ⟨existing, hfind⟩ : ∃ existing, w.current.attempts.find?
      (fun attempt => attempt.txHash = req.txHash) = some existing := by
    rcases hi.rows.points with ⟨-, -, hnone⟩ | ⟨key, hkey, -, htx'⟩
    · rw [htx] at hnone
      cases hnone
    · obtain ⟨attempt, hmem, rfl⟩ := List.mem_map.mp hkey
      rw [← Option.isSome_iff_exists, List.find?_isSome]
      exact ⟨attempt, hmem, decide_eq_true (Option.some.inj (htx.symm.trans htx')).symm⟩
  have hmem := List.mem_of_find?_eq_some hfind
  have hhash : existing.txHash = req.txHash := by simpa using List.find?_some hfind
  rw [← hhash] at htx
  have hmirror := hi.projected hmem htx
  exact ⟨existing, hfind, hmem, hhash, hi.rows.points.projected hi.rows.hashes hmem htx,
    congrArg Prod.fst hmirror, congrArg Prod.snd hmirror⟩

variable (freshId now after) in
theorem sameHash_of_projected {db : Store} (htx : db.execution.txHash = some req.txHash) :
    (req.input db.aggregate freshId now (snapshotFromExecution db.execution) after).sameHash =
      true := by
  have htx' : db.aggregate.execution.txHash = some req.txHash := htx
  simp [AttachInput.sameHash, AttachInput.currentHash, NormalizedAttach.input, htx']

variable (freshId now) in
/-- A pass with the projected hash, behind the checks of the service. -/
theorem attachAttempt_same {db : Store} {existing : TransactionAttemptRecord}
    (htx : db.execution.txHash = some req.txHash)
    (hafter : updateSubmission (snapshotFromExecution db.execution) req.submissionStatus = .ok after)
    (hfind : db.attempts.find? (fun attempt => attempt.txHash = req.txHash) = some existing)
    (hguard : req.evidenceGuard db.aggregate = .ok ()) :
    ∃ number, attachAttempt req db.aggregate freshId now db =
      let input := req.input db.aggregate freshId now (snapshotFromExecution db.execution) after
      match input.existingGuard existing with
      | .error e => .error (attachConflict e)
      | .ok () =>
          (db.transact db.execution.version
            (input.attachedStore db existing.id number
              (updateAttempt existing.id input.reattached db.attempts))).mapError
            Failure.reported := by
  refine ⟨(db.aggregate.attempts.getLast?.map (·.attemptNumber)).getD 0, ?_⟩
  have hbase : ¬ (db.aggregate.execution.txHash.isSome ∧
      db.aggregate.execution.txHash ≠ some req.txHash) := fun h => h.2 htx
  have hcreating : (req.input db.aggregate freshId now (snapshotFromExecution db.execution)
      after).creatingAttempt = false := by
    rw [AttachInput.creatingAttempt, sameHash_of_projected freshId now after htx]
    rfl
  have hreplace : (req.input db.aggregate freshId now (snapshotFromExecution db.execution)
      after).replacementGuard = .ok () := by
    simp [AttachInput.replacementGuard, hcreating]
  have hafter' : updateSubmission (snapshotFromExecution db.aggregate.execution)
      req.submissionStatus = .ok after := hafter
  unfold attachAttempt
  simp only [hguard, if_neg hbase, hafter']
  show (attachTransaction (req.input db.aggregate freshId now (snapshotFromExecution db.execution)
    after) db).mapError Failure.reported = _
  unfold attachTransaction
  have hfind' : db.attempts.find? (fun attempt => attempt.txHash =
      (req.input db.aggregate freshId now (snapshotFromExecution db.execution) after).txHash) =
        some existing := hfind
  rw [hreplace]
  simp only [hfind']
  cases (req.input db.aggregate freshId now (snapshotFromExecution db.execution) after).existingGuard
      existing with
  | error e => rfl
  | ok _ => rfl

variable (freshId now) in
/-- **A request that compares a list is refused.** -/
theorem reattach_compared (hi : EvidenceRows w)
    (htx : w.current.execution.txHash = some req.txHash)
    (hafter : updateSubmission (snapshotFromExecution w.current.execution) req.submissionStatus =
      .ok after)
    (hbuilt : ∀ r ∈ req.inputRefs.getD [], r.keys = .source)
    (hcompares : ¬ ComparesNothing req w.current) :
    ∃ message, attachAttempt req w.current.aggregate freshId now w.current =
      .error (intentConflict message) := by
  cases hguard : req.evidenceGuard w.current.aggregate with
  | error e =>
      obtain ⟨message, rfl⟩ := evidenceGuard_error hguard
      refine ⟨message, ?_⟩
      unfold attachAttempt
      rw [hguard]
  | ok u =>
      obtain ⟨existing, hfind, hmem, -⟩ := projected_attempt hi htx
      obtain ⟨number, heq⟩ :=
        attachAttempt_same freshId now htx hafter hfind hguard
      have hstored : existing.inputRefs.map InputRef.stored = existing.inputRefs :=
        (hi.stored existing.evidence (List.mem_map_of_mem hmem)).2
      have hlists : req.inputRefs.getD [] ≠ [] ∨
          (req.input w.current.aggregate freshId now
            (snapshotFromExecution w.current.execution) after).persistedInputs ≠ [] := by
        rw [ne_eq, ne_eq, AttachInput.persistedInputs_eq_nil (sameHash_of_projected freshId now after htx)]
        by_contra hnone
        rw [not_or, not_not, not_not] at hnone
        exact hcompares ⟨hnone.2.1, hnone.1, hnone.2.2⟩
      have hrefused : (req.input w.current.aggregate freshId now
          (snapshotFromExecution w.current.execution) after).existingGuard existing =
            .error .attemptInputConflict :=
        AttachInput.existingGuard_of_built hbuilt hstored hlists
      rw [heq]
      simp only [hrefused]
      exact ⟨_, rfl⟩

/-- What the write of a request with the projected hash leaves of the constraints. -/
theorem reattached_fits {db : Store} (hfits : db.execution.violation = none) {input : AttachInput}
    (hsame : input.sameHash = true) (hsub : input.submissionStatus ≠ .nodeRejected)
    (htx : db.execution.txHash = some input.txHash) (hinputs : input.persistedInputs = [])
    (hrefs : input.persistedInputRefs = db.execution.inputRefs) :
    (input.attachedExecution db.execution).violation = none ↔ db.execution.version < int4Max := by
  rw [ExecutionRecord.violation_eq_none] at hfits ⊢
  obtain ⟨hcount, hattempts, -, htype, -, htexts, hdocuments⟩ := hfits
  have hrow : input.attachedExecution db.execution =
      { db.execution with
        txHash := db.execution.txHash, submissionStatus := input.submissionStatus
        inputOutPoints := [], inputRefs := db.execution.inputRefs.map InputRef.stored
        nextReconcileAt := input.nextReconcileAt, version := db.execution.version + 1 } := by
    simp [AttachInput.attachedExecution, AttachInput.creatingAttempt, hsame, htx, hinputs, hrefs]
  -- the recorded texts are kept, and the recorded roles as the column returned them
  have hkept : (input.attachedExecution db.execution).documentsStorable = true := by
    rw [hrow]
    obtain ⟨-, hroles, hdetails⟩ := ExecutionRecord.documentsStorable_iff.mp hdocuments
    refine ExecutionRecord.documentsStorable_iff.mpr ⟨rfl, ?_, hdetails⟩
    rw [storable_inputRefs]
    exact hroles
  have hevidence : nodeRejectedEvidence input.submissionStatus
      db.execution.submissionErrorType = true := by
    unfold nodeRejectedEvidence
    split
    · simp [hsub]
    · rfl
  rw [hrow] at hkept ⊢
  constructor
  · rintro ⟨-, -, hversion, -⟩
    exact hversion
  · intro hversion
    exact ⟨hcount, hattempts, hversion, htype, hevidence, htexts, hkept⟩

variable (freshId now) in
/-- **A request that compares nothing** is refused exactly by its fingerprint; otherwise the
evidence stays as it was, if the version has room. -/
theorem reattach_silent (hi : EvidenceRows w) (hfits : w.current.execution.violation = none)
    (htx : w.current.execution.txHash = some req.txHash)
    (hafter : updateSubmission (snapshotFromExecution w.current.execution) req.submissionStatus =
      .ok after) (hsub : req.submissionStatus ≠ .nodeRejected)
    (hsilent : ComparesNothing req w.current) :
    ∃ existing ∈ w.current.attempts, existing.txHash = req.txHash ∧
      (¬ FingerprintAgrees req.signedPayloadHashSha256 req.allowSignedPayloadRevision
          existing.signedPayloadHashSha256 →
        ∃ message, attachAttempt req w.current.aggregate freshId now w.current =
          .error (intentConflict message)) ∧
      (FingerprintAgrees req.signedPayloadHashSha256 req.allowSignedPayloadRevision
          existing.signedPayloadHashSha256 →
        (w.current.execution.version < int4Max ∧
          ∃ t, attachAttempt req w.current.aggregate freshId now w.current = .ok t ∧
            t.execution.evidence = w.current.execution.evidence ∧ t.evidence = w.current.evidence) ∨
        (¬ w.current.execution.version < int4Max ∧
          ∃ name, attachAttempt req w.current.aggregate freshId now w.current =
            .error (.constraint name))) := by
  obtain ⟨hnoInputs, hnoRefs, hnone⟩ := hsilent
  have hguard : req.evidenceGuard w.current.aggregate = .ok () := by
    simp [NormalizedAttach.evidenceGuard, hnoInputs, hnoRefs]
  obtain ⟨existing, hfind, hmem, hhash, hactive, hinputs, hrefs⟩ := projected_attempt hi htx
  obtain ⟨number, heq⟩ :=
    attachAttempt_same freshId now htx hafter hfind hguard
  have hsame := sameHash_of_projected freshId now after htx
  generalize hinput : req.input w.current.aggregate freshId now
    (snapshotFromExecution w.current.execution) after = input at heq hsame
  have hpersisted : input.persistedInputs = [] := by
    rw [AttachInput.persistedInputs_eq_nil hsame, ← hinput]
    exact ⟨hnoInputs, hnone⟩
  have hpersistedRefs : input.persistedInputRefs = w.current.execution.inputRefs := by
    rw [AttachInput.persistedInputRefs_kept hsame (by rw [← hinput]; exact hnoRefs) hpersisted,
      ← hinput]
    rfl
  have hcheck := AttachInput.existingGuard_of_silent hpersisted (hrefs.trans hpersistedRefs.symm)
  have hfields : input.signedPayloadHashSha256 = req.signedPayloadHashSha256 ∧
      input.allowSignedPayloadRevision = req.allowSignedPayloadRevision ∧
      input.submissionStatus = req.submissionStatus := by
    rw [← hinput]
    exact ⟨rfl, rfl, rfl⟩
  rw [hfields.1, hfields.2.1] at hcheck
  refine ⟨existing, hmem, hhash, ?_, ?_⟩
  · intro hdiffers
    rw [heq]
    simp only [hcheck.2 hdiffers]
    exact ⟨_, rfl⟩
  · intro hagrees
    rw [heq]
    simp only [hcheck.1 hagrees]
    have hroom := reattached_fits hfits hsame (by rw [hfields.2.2]; exact hsub)
      (by rw [htx, ← hinput]; rfl) hpersisted hpersistedRefs
    by_cases hversion : w.current.execution.version < int4Max
    · refine Or.inl ⟨hversion, _, by rw [Store.transact_eq rfl (hroom.mpr hversion)]; rfl, ?_, ?_⟩
      · show (input.attachedExecution w.current.execution).evidence = _
        have hstoredRefs : w.current.execution.inputRefs.map InputRef.stored =
            w.current.execution.inputRefs := hi.row.2
        simp [ExecutionRecord.evidence, AttachInput.attachedExecution, AttachInput.creatingAttempt,
          hsame, hpersisted, hpersistedRefs, hstoredRefs, hnone]
      · show (updateAttempt existing.id input.reattached w.current.attempts).map
          TransactionAttemptRecord.evidence = w.current.evidence
        rw [Store.evidence, updateAttempt, List.map_map]
        refine List.map_congr_left fun attempt hattempt => ?_
        show (if attempt.id = existing.id then input.reattached attempt else attempt).evidence = _
        split
        next hid =>
          -- the active attempt has the evidence of the row
          have hmirror := hi.mirrored attempt.evidence (List.mem_map_of_mem hattempt)
            ((congrArg some hid).trans hactive)
          have hstoredRefs : w.current.execution.inputRefs.map InputRef.stored =
              w.current.execution.inputRefs := hi.row.2
          refine Prod.ext rfl (Eq.trans ?_ hmirror.symm)
          simp [AttachInput.reattached, TransactionAttemptRecord.evidence, ExecutionRecord.evidence,
            hpersisted, hpersistedRefs, hstoredRefs, hnone]
        · rfl
    · refine Or.inr ⟨hversion, ?_⟩
      have hbroken := mt hroom.mp hversion
      rw [Store.transact, if_neg (not_not.mpr rfl), AttachInput.attachedStore_execution]
      cases hv : (input.attachedExecution w.current.execution).violation with
      | none => exact absurd hv hbroken
      | some name => exact ⟨name, rfl⟩

end Request

/-! ## The claim -/

/-- Where no list is compared, the evidence agrees exactly where the fingerprint does. -/
theorem evidenceAgrees_iff_of_silent {req : NormalizedAttach} {w : World Store} (hi : RowsInv w)
    (hsilent : ComparesNothing req w.current) {existing : TransactionAttemptRecord}
    (hmem : existing ∈ w.current.attempts) (hhash : existing.txHash = req.txHash) :
    EvidenceAgrees req w.current ↔
      FingerprintAgrees req.signedPayloadHashSha256 req.allowSignedPayloadRevision
        existing.signedPayloadHashSha256 := by
  constructor
  · intro hagrees
    exact hagrees.fingerprint existing hmem hhash
  · intro hfingerprint
    refine ⟨Or.inl hsilent.1, Or.inl hsilent.2.1, ?_⟩
    intro attempt hattempt hhash'
    have hhashes : (w.current.attempts.map (·.txHash)).Nodup := by
      have hsame : w.current.attempts.map (·.txHash) = w.current.attemptKeys.map (·.2) := by
        rw [Store.attemptKeys, List.map_map]
        rfl
      rw [hsame]
      exact hi.hashes
    rwa [List.inj_on_of_nodup_map hhashes hattempt hmem (hhash'.trans hhash.symm)]

/-- **Attaching the projected transaction again is idempotent** iff the supplied evidence differs
from the recorded one, or there is nothing to compare and the version has room. -/
theorem reattach_idempotent_iff {create : CreateRequest} {acts : List Act} {w : World Store}
    (h : Run OrderedStep (opening create) acts w) {req : AttachRequest}
    {normalized : NormalizedAttach} (hn : req.normalize = .ok normalized)
    (htx : w.current.execution.txHash = some normalized.txHash)
    (hstate : ∃ after, updateSubmission (snapshotFromExecution w.current.execution)
      normalized.submissionStatus = .ok after) (freshId : String) (now : Int) :
    Idempotent req normalized freshId now w.current ↔
      ¬ EvidenceAgrees normalized w.current ∨
        (ComparesNothing normalized w.current ∧ w.current.execution.version < int4Max) := by
  obtain ⟨after, hafter⟩ := hstate
  have hi := evidenceRows_run h
  have hfits := stored_fits h.of_when
  have hsub : normalized.submissionStatus ≠ .nodeRejected := by
    rw [(AttachRequest.normalize_ok hn).2.2.2.1]
    split <;> simp
  have hcall : serviceAttachTransaction req freshId now w.current =
      attachAttempt normalized w.current.aggregate freshId now w.current := by
    rw [serviceAttachTransaction, hn]
  by_cases hsilent : ComparesNothing normalized w.current
  · obtain ⟨existing, hmem, hhash, hrefuse, haccept⟩ :=
      reattach_silent freshId now hi hfits htx hafter hsub hsilent
    have hagrees := evidenceAgrees_iff_of_silent hi.rows hsilent hmem hhash
    by_cases hfingerprint : FingerprintAgrees normalized.signedPayloadHashSha256
        normalized.allowSignedPayloadRevision existing.signedPayloadHashSha256
    · rcases haccept hfingerprint with ⟨hversion, t, ht, hkept⟩ | ⟨hfull, name, he⟩
      · refine iff_of_true ⟨fun _ => ⟨t, hcall.trans ht, hkept⟩, ?_⟩ (Or.inr ⟨hsilent, hversion⟩)
        refine iff_of_false ?_ (not_not.mpr (hagrees.mpr hfingerprint))
        rintro ⟨message, hm⟩
        rw [hcall, ht] at hm
        cases hm
      · refine iff_of_false ?_ ?_
        · intro hidem
          obtain ⟨t, ht, -⟩ := hidem.accepted (hagrees.mpr hfingerprint)
          rw [hcall, he] at ht
          cases ht
        · rintro (hdiffers | ⟨-, hversion⟩)
          · exact hdiffers (hagrees.mpr hfingerprint)
          · exact hfull hversion
    · have hdiffers : ¬ EvidenceAgrees normalized w.current := mt hagrees.mp hfingerprint
      refine iff_of_true ⟨fun hagrees => absurd hagrees hdiffers, ?_⟩ (Or.inl hdiffers)
      rw [hcall]
      exact iff_of_true (hrefuse hfingerprint) hdiffers
  · have hrefused := reattach_compared freshId now hi htx hafter
      (normalized_built hn) hsilent
    by_cases hagrees : EvidenceAgrees normalized w.current
    · refine iff_of_false ?_ ?_
      · intro hidem
        rw [← hcall] at hrefused
        exact hidem.refused.mp hrefused hagrees
      · rintro (hdiffers | ⟨hnothing, -⟩)
        · exact hdiffers hagrees
        · exact hsilent hnothing
    · refine iff_of_true ⟨fun h => absurd h hagrees, ?_⟩ (Or.inl hagrees)
      rw [hcall]
      exact iff_of_true hrefused hagrees

section Runs

open Scenario

/-- The body of a `/prepare` with its inputs. -/
def prepareWith (inputs : List OutPointRef) : AttachRequest where
  txHashInput := hashOf 'a'
  prepared := true
  signedPayloadHashSha256 := none
  inputOutPoints := some inputs
  inputRefs := none
  attemptKind := none
  parentAttemptId := none
  allowSignedPayloadRevision := false

/-- The intent after it. -/
def preparedWith (inputs : List OutPointRef) : Store :=
  after .committed [attach 'a' true none inputs]

/-- The state of the retry. -/
theorem prepareWith_retry : ∀ inputs ∈ [[], [outPoint '1']],
    commitsAll (serviceCreateIntent (create .committed)) [attach 'a' true none inputs] = true ∧
      ((prepareWith inputs).normalize.toOption.any fun n =>
        n.txHash = hashOf 'a' && n.submissionStatus = .prepared &&
          n.signedPayloadHashSha256 = none && n.inputOutPoints = some inputs &&
          n.inputRefs = none) = true ∧
      (preparedWith inputs).execution.txHash = some (hashOf 'a') ∧
      (preparedWith inputs).execution.inputOutPoints = inputs.map OutPointRef.stored ∧
      (preparedWith inputs).execution.version < int4Max ∧
      (updateSubmission (snapshotFromExecution (preparedWith inputs).execution)
        .prepared).toOption.isSome = true := by
  decide +kernel

/-- A retry meets what the theorem asks for. -/
theorem retry_reached (inputs : List OutPointRef) (hin : inputs ∈ [[], [outPoint '1']]) :
    ∃ acts past normalized,
      Run OrderedStep (opening (create .committed)) acts ⟨preparedWith inputs, past⟩ ∧
        (prepareWith inputs).normalize = .ok normalized ∧
        (preparedWith inputs).execution.txHash = some normalized.txHash ∧
        (∃ after, updateSubmission (snapshotFromExecution (preparedWith inputs).execution)
          normalized.submissionStatus = .ok after) ∧
        normalized.signedPayloadHashSha256 = none ∧ normalized.inputOutPoints = some inputs ∧
        normalized.inputRefs = none ∧
        (preparedWith inputs).execution.inputOutPoints = inputs.map OutPointRef.stored ∧
        (preparedWith inputs).execution.version < int4Max := by
  obtain ⟨hall, hnorm, htx, hinputs, hversion, hstate⟩ := prepareWith_retry inputs hin
  obtain ⟨acts, past, hrun⟩ := run_after_alone hall
  obtain ⟨normalized, hn, hfields⟩ := (Option.any_eq_true _ _).mp hnorm
  obtain ⟨after, hafter⟩ := Option.isSome_iff_exists.mp hstate
  simp only [Bool.and_eq_true, decide_eq_true_eq] at hfields
  obtain ⟨⟨⟨⟨hhash, hsub⟩, hfingerprint⟩, hsupplied⟩, hrefs⟩ := hfields
  refine ⟨acts, past, normalized, ordered_of_alone hrun, toOption_eq_some hn, hhash ▸ htx,
    ⟨after, ?_⟩, hfingerprint, hsupplied, hrefs, hinputs, hversion⟩
  rw [hsub]
  exact toOption_eq_some hafter

/-- The retry of an attach without inputs is idempotent. -/
theorem reattach_idempotent_iff_bare : ∃ normalized,
    (prepareWith []).normalize = .ok normalized ∧
      Idempotent (prepareWith []) normalized (hashOf 'a') 0 (preparedWith []) := by
  obtain ⟨acts, past, normalized, hrun, hn, htx, hstate, -, hsupplied, hrefs, hinputs, hversion⟩ :=
    retry_reached [] (by simp)
  generalize preparedWith [] = db at *
  exact ⟨normalized, hn, (reattach_idempotent_iff hrun hn htx hstate (hashOf 'a') 0).mpr
    (Or.inr ⟨⟨by rw [hsupplied]; rfl, by rw [hrefs]; rfl, hinputs⟩, hversion⟩)⟩

/-- The retry of a `/prepare` with one input, identical in every byte, is refused as a conflict. -/
theorem identical_retry_refused : ∃ acts past normalized,
    Run OrderedStep (opening (create .committed)) acts ⟨preparedWith [outPoint '1'], past⟩ ∧
      (prepareWith [outPoint '1']).normalize = .ok normalized ∧
      EvidenceAgrees normalized (preparedWith [outPoint '1']) ∧
      ¬ Idempotent (prepareWith [outPoint '1']) normalized (hashOf 'a') 0
        (preparedWith [outPoint '1']) := by
  obtain ⟨acts, past, normalized, hrun, hn, htx, ⟨after, hafter⟩, hfingerprint, hsupplied, hrefs,
    hinputs, -⟩ := retry_reached [outPoint '1'] (by simp)
  generalize preparedWith [outPoint '1'] = db at *
  have hagrees : EvidenceAgrees normalized db := by
    refine ⟨Or.inr ?_, Or.inl (by rw [hrefs]; rfl), ?_⟩
    · rw [hsupplied]
      exact hinputs.symm
    · intro attempt _ _ supplied recorded hs _
      rw [hfingerprint] at hs
      cases hs
  refine ⟨acts, past, normalized, hrun, hn, hagrees, fun hidem => ?_⟩
  have hrefused := reattach_compared (hashOf 'a') 0 (evidenceRows_run hrun) htx
    hafter (normalized_built hn) (by
      rintro ⟨hnone, -⟩
      rw [hsupplied] at hnone
      cases hnone)
  have hcall : serviceAttachTransaction (prepareWith [outPoint '1']) (hashOf 'a') 0 db =
      attachAttempt normalized db.aggregate (hashOf 'a') 0 db := by
    rw [serviceAttachTransaction, hn]
  exact hidem.refused.mp (hcall ▸ hrefused) hagrees

end Runs

end CellFlow
