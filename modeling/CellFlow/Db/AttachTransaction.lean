/-
# CellFlow.Db.AttachTransaction — recording a transaction hash under an intent.

`CellFlowRepository.attachTransaction`: the replacement guard looks at the aggregate it was given, the
evidence checks look at the attempt row that already owns the hash, and the write resets the
execution row for a new hash.  `attachTransaction_ok` lists the two ways an accepted call ends: a new
attempt row, or an update of the row that owns the hash.
-/
import CellFlow.Db.Repository

namespace CellFlow

open Js (Json)

/-- The argument of `attachTransaction`, with the id `randomUUID` returns for a new attempt and the
time of the event. -/
structure AttachInput where
  aggregate : IntentAggregate
  txHash : String
  signedPayloadHashSha256 : Option String
  allowSignedPayloadRevision : Bool
  submissionStatus : SubmissionStatus
  inputOutPoints : Option (List OutPointRef)
  inputRefs : Option (List InputRef)
  attemptKind : Option AttemptKind
  parentAttemptId : Option String
  nextReconcileAt : Option Int
  fromStatus : OverallStatus
  toStatus : OverallStatus
  reason : String
  freshId : String
  now : Int

namespace AttachInput

variable (input : AttachInput)

/-- The hash the execution row names now. -/
def currentHash : Option String := input.aggregate.execution.txHash

/-- The hash that is current is attached again. -/
def sameHash : Bool := input.currentHash = some input.txHash

/-- Another attempt becomes the active one. -/
def creatingAttempt : Bool := !input.sameHash

/-- The kind of the attempt: without one given, the first is `INITIAL` and a later one `REBUILD`. -/
def kind : AttemptKind :=
  input.attemptKind.getD (if input.currentHash.isSome then .rebuild else .initial)

/-- The inputs to be stored: those given, else those on the row if its hash is attached again. -/
def persistedInputs : List OutPointRef :=
  match input.inputOutPoints with
  | some (item :: rest) => item :: rest
  | _ => if input.sameHash then input.aggregate.execution.inputOutPoints else []

/-- The input references to be stored: those given, else neutral ones of the inputs. -/
def persistedInputRefs : List InputRef :=
  match input.inputRefs with
  | some (item :: rest) => item :: rest
  | _ =>
      if input.persistedInputs ≠ [] then neutralInputRefs input.persistedInputs
      else if input.sameHash then input.aggregate.execution.inputRefs
      else []

/-! ## The replacement guard -/

/-- The current transaction is committed or confirmed. -/
def currentFinalized : Bool :=
  input.aggregate.execution.chainStatus = .committed ||
    input.aggregate.execution.workflowStatus = .confirmed

/-- The current transaction may be on its way, or on the chain. -/
def potentiallyLive : Bool :=
  let execution := input.aggregate.execution
  execution.submissionStatus = .broadcasting || execution.submissionStatus = .submissionUnknown ||
    execution.submissionStatus = .submitted || execution.chainStatus = .pending ||
    execution.chainStatus = .proposed

/-- Whether two input lists share an OutPoint, as the guard compares them. -/
def sharesInput (items parent : List OutPointRef) : Bool :=
  items.any fun item => parent.any fun other => other.key = item.key

/-- What may replace the transaction currently projected into the execution row. -/
def replacementGuard : Except RepositoryError Unit :=
  if input.creatingAttempt ∧ input.currentHash.isSome then
    if input.kind = .initial then .error .attemptKindInvalid
    else if input.currentFinalized then .error .unsafeAttemptReplacement
    else if input.potentiallyLive ∧ input.kind ≠ .rbfReplacement then
      .error .unsafeAttemptReplacement
    else if input.kind = .rbfReplacement then
      match input.aggregate.activeAttempt with
      | none => .error .attemptParentConflict
      | some activeParent =>
          if input.parentAttemptId.isSome ∧ input.parentAttemptId ≠ some activeParent.id then
            .error .attemptParentConflict
          else if sharesInput input.persistedInputs activeParent.inputOutPoints = false then
            .error .rbfInputsDoNotOverlap
          else .ok ()
    else .ok ()
  else .ok ()

/-! ## The row that already owns the hash -/

/-- `JSON.stringify` of an OutPoint list. -/
def stringifyOutPoints (items : List OutPointRef) : String :=
  (Json.arr (items.map OutPointRef.toJson)).stringify

/-- `JSON.stringify` of an input-role list. -/
def stringifyInputRefs (items : List InputRef) : String :=
  (Json.arr (items.map InputRef.toJson)).stringify

/-- The evidence checks against the existing attempt. -/
def existingGuard (existing : TransactionAttemptRecord) : Except RepositoryError Unit :=
  if input.persistedInputs ≠ [] ∧
      stringifyOutPoints existing.inputOutPoints ≠ stringifyOutPoints input.persistedInputs then
    .error .attemptInputConflict
  else if input.persistedInputRefs ≠ [] ∧
      stringifyInputRefs existing.inputRefs ≠ stringifyInputRefs input.persistedInputRefs then
    .error .attemptInputConflict
  else
    match truthy input.signedPayloadHashSha256, truthy existing.signedPayloadHashSha256 with
    | some supplied, some recorded =>
        if toLowerCase recorded ≠ toLowerCase supplied ∧
            input.allowSignedPayloadRevision = false then
          .error .attemptSignedPayloadConflict
        else .ok ()
    | _, _ => .ok ()

/-- The attempt row after its update. -/
def reattached (existing : TransactionAttemptRecord) : TransactionAttemptRecord :=
  { existing with
    submissionStatus := input.submissionStatus
    signedPayloadHashSha256 := input.signedPayloadHashSha256.or existing.signedPayloadHashSha256
    inputOutPoints := input.persistedInputs.map OutPointRef.stored
    inputRefs := input.persistedInputRefs.map InputRef.stored }

/-! ## A new attempt row -/

/-- `coalesce(max(attempt_number), 0) + 1`. -/
def nextAttemptNumber (db : Store) : Nat :=
  (db.attempts.map (·.attemptNumber)).foldl max 0 + 1

/-- The parent of a new attempt: the one given, else the active attempt. -/
def newParentId : Option String :=
  input.parentAttemptId.or input.aggregate.intent.activeAttemptId

/-- The parent must be an attempt of this intent, and the fresh id must be unused. -/
def insertGuard (db : Store) : Except Failure Unit :=
  if input.txHash ∈ db.hashesElsewhere then .error (.repository .txHashConflict)
  else if input.newParentId.isSome ∧ findAttempt db.attempts input.newParentId = none then
    .error (.repository .attemptParentConflict)
  else if input.freshId ∈ db.attempts.map (·.id) then
    .error (.constraint "transaction_attempts_pkey")
  else .ok ()

variable {input} in
theorem insertGuard_ok {db : Store} (h : input.insertGuard db = .ok ()) :
    input.txHash ∉ db.hashesElsewhere ∧ input.freshId ∉ db.attempts.map (·.id) := by
  unfold insertGuard at h
  split_ifs at h with howner hparent hfresh
  exact ⟨howner, hfresh⟩

/-- The row of a new attempt. -/
def newAttempt (db : Store) : TransactionAttemptRecord where
  id := input.freshId
  attemptNumber := nextAttemptNumber db
  txHash := input.txHash
  signedPayloadHashSha256 := input.signedPayloadHashSha256
  parentAttemptId := input.newParentId
  attemptKind := input.kind
  disposition := .active
  inputOutPoints := input.persistedInputs.map OutPointRef.stored
  inputRefs := input.persistedInputRefs.map InputRef.stored
  submissionStatus := input.submissionStatus
  chainStatus := .unobserved
  workflowStatus := .idle
  submissionErrorCode := none
  submissionErrorType := none
  submissionErrorDetails := none
  conflictType := none
  conflictDetails := none

/-- The attempt rows after the insert; the previously active attempt steps back unless the new one
is an RBF replacement. -/
def insertedAttempts (db : Store) : List TransactionAttemptRecord :=
  (if input.kind ≠ .rbfReplacement then
    updateActive input.aggregate.intent.activeAttemptId
      (fun attempt =>
        { attempt with disposition := priorAttemptDisposition input.aggregate.execution })
      db.attempts
  else db.attempts) ++ [input.newAttempt db]

/-! ## The rest of the transaction -/

/-- The revisions after a fingerprint was supplied for an attempt. -/
def recordedRevisions (attemptId : String) (revisions : List SignedPayloadRevision) :
    List SignedPayloadRevision :=
  match truthy input.signedPayloadHashSha256 with
  | none => revisions
  | some fingerprint =>
      let own := revisions.filter fun revision => revision.attemptId = attemptId
      if own.any fun revision => revision.payloadHashSha256 = toLowerCase fingerprint then revisions
      else
        let revisionNumber := (own.map (·.revisionNumber)).foldl max 0 + 1
        revisions ++
          [{ attemptId := attemptId, revisionNumber := revisionNumber
             payloadHashSha256 := toLowerCase fingerprint
             revisionKind :=
               if revisionNumber = 1 then .initial
               else if input.allowSignedPayloadRevision then .cosignature
               else .manualReplacement }]

/-- The execution row: reset for a new hash, kept for the same one. -/
def attachedExecution (row : ExecutionRecord) : ExecutionRecord :=
  let inputOutPoints := input.persistedInputs.map OutPointRef.stored
  let inputRefs := input.persistedInputRefs.map InputRef.stored
  if input.creatingAttempt then
    { row with
      txHash := some input.txHash, submissionStatus := input.submissionStatus
      inputOutPoints := inputOutPoints, inputRefs := inputRefs
      chainStatus := .unobserved, workflowStatus := .idle, confirmationCount := 0
      committedBlockHash := none, committedBlockNumber := none, rejectionReason := none
      submissionErrorCode := none, submissionErrorType := none, submissionErrorDetails := none
      conflictType := none, conflictDetails := none, assertionStatus := none
      assertionResult := none, settlementReadyAt := none
      lastRawObservation := none, lastObservedAt := none, reconcileAttempts := 0
      nextReconcileAt := input.nextReconcileAt, version := row.version + 1 }
  else
    { row with
      txHash := some input.txHash, submissionStatus := input.submissionStatus
      inputOutPoints := inputOutPoints, inputRefs := inputRefs
      nextReconcileAt := input.nextReconcileAt, version := row.version + 1 }

section Fields

variable (row : ExecutionRecord)

@[simp] theorem attachedExecution_txHash :
    (input.attachedExecution row).txHash = some input.txHash := by
  unfold attachedExecution
  split <;> rfl

@[simp] theorem attachedExecution_submission :
    (input.attachedExecution row).submissionStatus = input.submissionStatus := by
  unfold attachedExecution
  split <;> rfl

@[simp] theorem attachedExecution_nextReconcileAt :
    (input.attachedExecution row).nextReconcileAt = input.nextReconcileAt := by
  unfold attachedExecution
  split <;> rfl

@[simp] theorem attachedExecution_version :
    (input.attachedExecution row).version = row.version + 1 := by
  unfold attachedExecution
  split <;> rfl

end Fields

/-- The snapshot the event reports. -/
def attachedSnapshot : ExecutionSnapshot :=
  let execution := input.aggregate.execution
  if input.creatingAttempt then
    { initialSnapshot execution.confirmationPolicy with submissionStatus := input.submissionStatus }
  else
    { submissionStatus := input.submissionStatus
      chainStatus := execution.chainStatus
      workflowStatus := execution.workflowStatus
      confirmationPolicy := execution.confirmationPolicy
      confirmationCount := execution.confirmationCount
      committedBlockHash := truthy execution.committedBlockHash
      committedBlockNumber := truthy execution.committedBlockNumber
      rejectionReason := none }

/-- The event an attach files. -/
def attachedEvent (attemptId : String) (attemptNumber : Nat) : StateEvent :=
  eventWithOutbox
    { txHash := some input.txHash
      kind :=
        if input.creatingAttempt ∧ input.currentHash.isSome then .transactionAttemptCreated
        else .submissionUpdated
      fromStatus := some input.fromStatus
      toStatus := input.toStatus
      reason := some input.reason
      rawObservation := some (.obj
        [("attemptId", .str attemptId), ("attemptNumber", .int attemptNumber),
          ("attemptKind", .str input.kind.text),
          ("inputOutPoints", .arr (input.persistedInputs.map OutPointRef.toJson)),
          ("inputRefs", .arr (input.persistedInputRefs.map InputRef.toJson))])
      occurredAt := input.now
      snapshot := input.attachedSnapshot
      assertionStatus :=
        if input.creatingAttempt then none else input.aggregate.execution.assertionStatus
      requiredAssertionCount := input.aggregate.intent.expectedCells.length
      conflictType := none }

/-- The store after the transaction, given the attempt rows it leaves. -/
def attachedStore (db : Store) (attemptId : String) (attemptNumber : Nat)
    (attempts : List TransactionAttemptRecord) : Store :=
  { db with
    attempts := attempts
    revisions := input.recordedRevisions attemptId db.revisions
    execution := input.attachedExecution db.execution
    intent :=
      { db.intent with
        activeAttemptId := some attemptId
        winningAttemptId :=
          if input.creatingAttempt then none else input.aggregate.intent.winningAttemptId }
    events := db.events ++ [input.attachedEvent attemptId attemptNumber] }

@[simp] theorem attachedStore_execution (db : Store) (attemptId : String) (attemptNumber : Nat)
    (attempts : List TransactionAttemptRecord) :
    (input.attachedStore db attemptId attemptNumber attempts).execution =
      input.attachedExecution db.execution := rfl

end AttachInput

/-- `repository.attachTransaction`. -/
def attachTransaction (input : AttachInput) (db : Store) : Except Failure Store :=
  match input.replacementGuard with
  | .error e => .error (.repository e)
  | .ok () =>
      match db.attempts.find? fun attempt => attempt.txHash = input.txHash with
      | some existing =>
          match input.existingGuard existing with
          | .error e => .error (.repository e)
          | .ok () =>
              db.transact input.aggregate.execution.version
                (input.attachedStore db existing.id
                  ((input.aggregate.attempts.getLast?.map (·.attemptNumber)).getD 0)
                  (updateAttempt existing.id input.reattached db.attempts))
      | none =>
          match input.insertGuard db with
          | .error e => .error e
          | .ok () =>
              db.transact input.aggregate.execution.version
                (input.attachedStore db input.freshId (AttachInput.nextAttemptNumber db)
                  (input.insertedAttempts db))

/-- **How an accepted attach ends**: in a new attempt row, or in an update of the row that owns the
hash. -/
theorem attachTransaction_ok {input : AttachInput} {db db' : Store}
    (h : attachTransaction input db = .ok db') :
    input.replacementGuard = .ok () ∧ db.execution.version = input.aggregate.execution.version ∧
      db'.execution.violation = none ∧
      ((∃ existing number, existing ∈ db.attempts ∧ existing.txHash = input.txHash ∧
          input.existingGuard existing = .ok () ∧
          db' = input.attachedStore db existing.id number
            (updateAttempt existing.id input.reattached db.attempts)) ∨
        ((∀ attempt ∈ db.attempts, attempt.txHash ≠ input.txHash) ∧
          input.insertGuard db = .ok () ∧
          db' = input.attachedStore db input.freshId (AttachInput.nextAttemptNumber db)
            (input.insertedAttempts db))) := by
  unfold attachTransaction at h
  split at h
  · cases h
  next hguard =>
    split at h
    next existing hfind =>
      split at h
      · cases h
      next hexisting =>
        obtain ⟨rfl, hversion, hfits⟩ := Store.transact_ok h
        refine ⟨hguard, hversion, hfits, Or.inl ⟨existing, _, ?_, ?_, hexisting, rfl⟩⟩
        · exact List.mem_of_find?_eq_some hfind
        · simpa using List.find?_some hfind
    next hfind =>
      split at h
      · cases h
      next hinsert =>
        obtain ⟨rfl, hversion, hfits⟩ := Store.transact_ok h
        refine ⟨hguard, hversion, hfits, Or.inr ⟨?_, hinsert, rfl⟩⟩
        simpa using hfind

/-! ## How an attach fails -/

/-- The repository throws no error of the state machine. -/
theorem attachTransaction_ne_cellFlow {input : AttachInput} {db : Store} (e : CellFlowError) :
    attachTransaction input db ≠ .error (.cellFlow e) := by
  unfold attachTransaction
  split
  · simp
  · split
    · split
      · simp
      · exact Store.transact_ne_cellFlow e
    · split
      next he =>
        intro h
        cases h
        unfold AttachInput.insertGuard at he
        split_ifs at he <;> cases he
      · exact Store.transact_ne_cellFlow e

/-- The evidence checks never speak of the replacement. -/
theorem AttachInput.existingGuard_ne_unsafe (input : AttachInput)
    (existing : TransactionAttemptRecord) :
    input.existingGuard existing ≠ .error .unsafeAttemptReplacement := by
  unfold AttachInput.existingGuard
  split
  · simp
  · split
    · simp
    · split
      · split <;> simp
      · simp

/-- **An attach is refused as unsafe exactly by the replacement guard.** -/
theorem attachTransaction_unsafe_iff {input : AttachInput} (db : Store) :
    attachTransaction input db = .error (.repository .unsafeAttemptReplacement) ↔
      input.replacementGuard = .error .unsafeAttemptReplacement := by
  have htransact : ∀ {version : Nat} {next : Store},
      db.transact version next ≠ .error (.repository .unsafeAttemptReplacement) := by
    intro version next
    unfold Store.transact
    split
    · simp
    · split <;> simp
  unfold attachTransaction
  cases hguard : input.replacementGuard with
  | error e => simp
  | ok u =>
      simp only [reduceCtorEq, iff_false]
      split
      next existing _ =>
        split
        next e he =>
          intro h
          cases h
          exact input.existingGuard_ne_unsafe existing he
        · exact htransact
      · split
        next e he =>
          intro h
          cases h
          unfold AttachInput.insertGuard at he
          split_ifs at he <;> cases he
        · exact htransact

/-! ## The texts of recorded evidence -/

section Texts

variable {α : Type} {toJson : α → Json} {keys : α → KeyOrder} {f : KeyOrder → Char}

/-- A list as it is built prints another text than one a column returned, where the first key of an
item shows their order. -/
theorem built_ne_stored (hf : f .source ≠ f .jsonb)
    (hprint : ∀ x, ∃ rest, (toJson x).render = '\x7b' :: Char.ofNat 34 :: f (keys x) :: rest)
    {a b : List α} (ha : ∀ x ∈ a, keys x = .source) (hne : a ≠ []) (hb : ∀ x ∈ b, keys x = .jsonb) :
    (Json.arr (b.map toJson)).stringify ≠ (Json.arr (a.map toJson)).stringify := by
  intro h
  have hrender := Json.stringify_inj_render.mp h
  have hhead : ∀ (x : α) (xs : List α), ∃ rest, (Json.arr ((x :: xs).map toJson)).render =
      '[' :: '\x7b' :: Char.ofNat 34 :: f (keys x) :: rest := by
    intro x xs
    obtain ⟨rest, hx⟩ := hprint x
    refine ⟨rest ++ Json.renderItems (xs.map toJson) false, ?_⟩
    simp [Json.render, Json.renderItems, hx]
  obtain ⟨x, xs, rfl⟩ := List.exists_cons_of_ne_nil hne
  obtain ⟨rest, hx⟩ := hhead x xs
  rw [hx, ha x List.mem_cons_self] at hrender
  cases b with
  | nil => simp [Json.render, Json.renderItems] at hrender
  | cons y ys =>
      obtain ⟨rest', hy⟩ := hhead y ys
      rw [hy, hb y List.mem_cons_self] at hrender
      simp only [List.cons.injEq, true_and] at hrender
      exact hf hrender.1.symm

end Texts

/-- Every role as a `jsonb` column returns it. -/
theorem refKeys_of_stored {items : List InputRef} (h : items.map InputRef.stored = items) :
    ∀ r ∈ items, r.keys = .jsonb := by
  intro r hr
  rw [← h] at hr
  obtain ⟨r', -, rfl⟩ := List.mem_map.mp hr
  rfl

/-- Roles print `outPoint` first as they are built, `role` first as they are stored. -/
theorem stringifyInputRefs_ne {built recorded : List InputRef}
    (hbuilt : ∀ r ∈ built, r.keys = .source) (hne : built ≠ [])
    (hrecorded : recorded.map InputRef.stored = recorded) :
    AttachInput.stringifyInputRefs recorded ≠ AttachInput.stringifyInputRefs built := by
  refine built_ne_stored (f := fun k => if k = .source then 'o' else 'r') (by decide) ?_ hbuilt hne
    (refKeys_of_stored hrecorded)
  rintro ⟨outPoint, role, resourceKey, _ | _⟩ <;> exact ⟨_, rfl⟩

/-- Neutral roles are built from the inputs on every call. -/
theorem neutralInputRefs_built (items : List OutPointRef) :
    ∀ r ∈ neutralInputRefs items, r.keys = .source := by
  intro r hr
  obtain ⟨o, -, rfl⟩ := List.mem_map.mp hr
  rfl

/-- A supplied fingerprint is the recorded one, up to case, or may replace it. -/
def FingerprintAgrees (supplied : Option String) (revision : Bool) (recorded : Option String) :
    Prop :=
  ∀ s r, truthy supplied = some s → truthy recorded = some r →
    toLowerCase r = toLowerCase s ∨ revision = true

namespace AttachInput

variable {input : AttachInput}

/-- A request for the projected hash has no inputs to persist where it brings none and none are
recorded. -/
theorem persistedInputs_eq_nil (hsame : input.sameHash = true) :
    input.persistedInputs = [] ↔
      input.inputOutPoints.getD [] = [] ∧ input.aggregate.execution.inputOutPoints = [] := by
  unfold persistedInputs
  rw [hsame]
  cases hi : input.inputOutPoints with
  | none => simp
  | some items => cases items <;> simp

/-- It keeps the recorded roles where it brings none and has no inputs. -/
theorem persistedInputRefs_kept (hsame : input.sameHash = true)
    (hrefs : input.inputRefs.getD [] = []) (hinputs : input.persistedInputs = []) :
    input.persistedInputRefs = input.aggregate.execution.inputRefs := by
  unfold persistedInputRefs
  rw [hsame, hinputs]
  cases hr : input.inputRefs with
  | none => simp
  | some items =>
      cases items with
      | nil => simp
      | cons item rest =>
          rw [hr] at hrefs
          cases hrefs

/-- The roles of a request that brings a list, or has inputs to fall back on, are built on the
call. -/
theorem persistedInputRefs_built (hrefs : ∀ r ∈ input.inputRefs.getD [], r.keys = .source)
    (h : input.inputRefs.getD [] ≠ [] ∨ input.persistedInputs ≠ []) :
    input.persistedInputRefs ≠ [] ∧ ∀ r ∈ input.persistedInputRefs, r.keys = .source := by
  have hneutral : input.persistedInputs ≠ [] →
      neutralInputRefs input.persistedInputs ≠ [] ∧
        ∀ r ∈ neutralInputRefs input.persistedInputs, r.keys = .source := by
    intro hne
    refine ⟨?_, neutralInputRefs_built _⟩
    rw [neutralInputRefs, ne_eq, List.map_eq_nil_iff]
    exact hne
  unfold persistedInputRefs
  split
  next item rest hsupplied =>
    rw [hsupplied] at hrefs
    exact ⟨List.cons_ne_nil item rest, hrefs⟩
  next hsupplied =>
    have hnone : input.inputRefs.getD [] = [] := by
      cases hr : input.inputRefs with
      | none => rfl
      | some refs =>
          cases refs with
          | nil => rfl
          | cons item rest => exact absurd hr (hsupplied item rest)
    have hne : input.persistedInputs ≠ [] := h.resolve_left (not_not.mpr hnone)
    rw [if_pos hne]
    exact hneutral hne

/-- **The evidence checks against a recorded attempt**: a request that brings a list, or falls back
on recorded inputs, is refused as different. -/
theorem existingGuard_of_built {existing : TransactionAttemptRecord}
    (hrefs : ∀ r ∈ input.inputRefs.getD [], r.keys = .source)
    (hstored : existing.inputRefs.map InputRef.stored = existing.inputRefs)
    (h : input.inputRefs.getD [] ≠ [] ∨ input.persistedInputs ≠ []) :
    input.existingGuard existing = .error .attemptInputConflict := by
  obtain ⟨hne, hbuilt⟩ := persistedInputRefs_built hrefs h
  unfold existingGuard
  split
  · rfl
  · rw [if_pos ⟨hne, stringifyInputRefs_ne hbuilt hne hstored⟩]

/-- Where no list is compared, only the fingerprint is. -/
theorem existingGuard_of_silent {existing : TransactionAttemptRecord}
    (hinputs : input.persistedInputs = []) (hrefs : existing.inputRefs = input.persistedInputRefs) :
    (FingerprintAgrees input.signedPayloadHashSha256 input.allowSignedPayloadRevision
        existing.signedPayloadHashSha256 → input.existingGuard existing = .ok ()) ∧
      (¬ FingerprintAgrees input.signedPayloadHashSha256 input.allowSignedPayloadRevision
        existing.signedPayloadHashSha256 →
          input.existingGuard existing = .error .attemptSignedPayloadConflict) := by
  unfold existingGuard FingerprintAgrees
  rw [if_neg (fun h => h.1 hinputs), if_neg (fun h => h.2 (by rw [hrefs]))]
  cases hs : truthy input.signedPayloadHashSha256 with
  | none => simp
  | some supplied =>
      cases hr : truthy existing.signedPayloadHashSha256 with
      | none => simp
      | some recorded =>
          constructor
          · intro hagrees
            refine if_neg ?_
            rintro ⟨hne, hrevision⟩
            rcases hagrees supplied recorded rfl rfl with heq | hallowed
            · exact hne heq
            · exact absurd (hrevision.symm.trans hallowed) (by decide)
          · intro hdiffers
            refine if_pos ⟨fun heq => hdiffers ?_, (Bool.not_eq_true _).mp fun hallowed =>
              hdiffers fun _ _ _ _ => Or.inr hallowed⟩
            intro s r hs hr
            cases hs
            cases hr
            exact Or.inl heq

end AttachInput

end CellFlow
