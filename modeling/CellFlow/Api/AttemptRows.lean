/-
# CellFlow.Api.AttemptRows — the identity of the attempts of an intent over a run of the machine.

An attempt row keeps its id and its transaction hash for good, no two rows share either, and the
execution row projects the attempt the intent row calls active.  Every operation keeps this
(`RowsInv.step`), also one that works from an old view, because attempts are only ever added.
-/
import Mathlib.Data.List.Nodup
import CellFlow.Api.Machine

namespace CellFlow

open Optimistic (World)
open Runs (Run)

/-! ## Keys -/

/-- Id and hash of an attempt. -/
def TransactionAttemptRecord.key (attempt : TransactionAttemptRecord) : String × String :=
  (attempt.id, attempt.txHash)

/-- The id and the hash of every attempt, in the order of the rows. -/
def Store.attemptKeys (db : Store) : List (String × String) :=
  db.attempts.map TransactionAttemptRecord.key

/-! ## The three statuses -/

/-- The statuses both tables have. -/
structure Statuses where
  submission : SubmissionStatus
  chain : ChainStatus
  workflow : WorkflowStatus
  deriving DecidableEq, Repr

/-- The three axes of a snapshot. -/
def ExecutionSnapshot.statuses (s : ExecutionSnapshot) : Statuses :=
  ⟨s.submissionStatus, s.chainStatus, s.workflowStatus⟩

/-- The three axes of the intent's execution row. -/
def ExecutionRecord.statuses (row : ExecutionRecord) : Statuses :=
  ⟨row.submissionStatus, row.chainStatus, row.workflowStatus⟩

/-- The three axes an attempt's row carries. -/
def TransactionAttemptRecord.statuses (attempt : TransactionAttemptRecord) : Statuses :=
  ⟨attempt.submissionStatus, attempt.chainStatus, attempt.workflowStatus⟩

/-! ## What an update of the rows keeps -/

section Kept

variable {β : Type} {π : TransactionAttemptRecord → β}

/-- Updates that keep a part of every row. -/
theorem map_kept {f : TransactionAttemptRecord → TransactionAttemptRecord}
    (hf : ∀ a, π (f a) = π a) (attempts : List TransactionAttemptRecord) :
    (attempts.map f).map π = attempts.map π := by
  rw [List.map_map]
  exact List.map_congr_left fun a _ => hf a

theorem updateAttempt_kept {f : TransactionAttemptRecord → TransactionAttemptRecord}
    (hf : ∀ a, π (f a) = π a) (id : String) (attempts : List TransactionAttemptRecord) :
    (updateAttempt id f attempts).map π = attempts.map π := by
  refine map_kept (fun a => ?_) attempts
  split
  · exact hf a
  · rfl

theorem updateActive_kept {f : TransactionAttemptRecord → TransactionAttemptRecord}
    (hf : ∀ a, π (f a) = π a) (id : Option String) (attempts : List TransactionAttemptRecord) :
    (updateActive id f attempts).map π = attempts.map π := by
  cases id with
  | none => rfl
  | some id => exact updateAttempt_kept hf id attempts

theorem supersedeOthers_kept (hπ : ∀ a, π { a with disposition := .superseded } = π a)
    (winner : String) (attempts : List TransactionAttemptRecord) :
    (supersedeOthers winner attempts).map π = attempts.map π := by
  refine map_kept (fun a => ?_) attempts
  split
  · exact hπ a
  · rfl

theorem appliedAttempts_kept (hπ : ∀ a, π { a with disposition := .superseded } = π a)
    (input : ApplyInput) (hf : ∀ a, π (input.appliedAttempt a) = π a)
    (attempts : List TransactionAttemptRecord) :
    (input.appliedAttempts attempts).map π = attempts.map π := by
  have hupdated := updateActive_kept hf input.aggregate.intent.activeAttemptId attempts
  unfold ApplyInput.appliedAttempts
  cases hactive : input.aggregate.intent.activeAttemptId with
  | none => rfl
  | some active =>
      rw [hactive] at hupdated
      simp only
      split
      · rw [supersedeOthers_kept hπ]
        exact hupdated
      · exact hupdated

theorem promotedAttempts_kept (hπ : ∀ a, π { a with disposition := .superseded } = π a)
    (input : PromoteInput) (hf : ∀ a, π (input.promotedAttempt a) = π a)
    (attempts : List TransactionAttemptRecord) :
    (input.promotedAttempts attempts).map π = attempts.map π := by
  have hupdated := updateAttempt_kept hf input.attempt.id attempts
  unfold PromoteInput.promotedAttempts
  simp only
  split
  · rw [supersedeOthers_kept hπ]
    exact hupdated
  · exact hupdated

end Kept

section Rows

variable {attempts : List TransactionAttemptRecord} {attempt : TransactionAttemptRecord}
  {f : TransactionAttemptRecord → TransactionAttemptRecord}

/-- An updated row, by its id. -/
theorem mem_updateAttempt {id : String} (hid : ∀ a, (f a).id = a.id)
    (h : attempt ∈ updateAttempt id f attempts) :
    ∃ before ∈ attempts, before.id = attempt.id ∧
      attempt = if attempt.id = id then f before else before := by
  obtain ⟨before, hbefore, rfl⟩ := List.mem_map.mp h
  refine ⟨before, hbefore, ?_, ?_⟩
  · split
    · exact (hid before).symm
    · rfl
  · split
    next hsame => rw [if_pos ((hid before).trans hsame)]
    next hother => rfl

/-- The same for the active attempt. -/
theorem mem_updateActive {active : Option String} (hid : ∀ a, (f a).id = a.id)
    (h : attempt ∈ updateActive active f attempts) :
    ∃ before ∈ attempts, before.id = attempt.id ∧
      attempt = if some attempt.id = active then f before else before := by
  cases active with
  | none => exact ⟨attempt, h, rfl, by simp⟩
  | some id =>
      obtain ⟨before, hbefore, hname, heq⟩ := mem_updateAttempt hid h
      refine ⟨before, hbefore, hname, ?_⟩
      simp only [Option.some.injEq]
      exact heq

/-- What an update of the active attempt makes of a row. -/
theorem updateActive_mem {t : Option String} {before : TransactionAttemptRecord}
    (h : before ∈ attempts) :
    (if some before.id = t then f before else before) ∈ updateActive t f attempts := by
  cases t with
  | none => simpa [updateActive] using h
  | some id =>
      simp only [Option.some.injEq]
      exact List.mem_map.mpr ⟨before, h, rfl⟩

/-- A row that is kept, or superseded. -/
structure Settles (before after : TransactionAttemptRecord) : Prop where
  id : before.id = after.id
  statuses : before.statuses = after.statuses
  disposition : after.disposition = .active → before.disposition = .active

theorem Settles.refl (attempt : TransactionAttemptRecord) : Settles attempt attempt :=
  ⟨rfl, rfl, fun h => h⟩

/-- Superseding changes dispositions only. -/
theorem mem_supersedeOthers {winner : String} (h : attempt ∈ supersedeOthers winner attempts) :
    ∃ before ∈ attempts, Settles before attempt := by
  obtain ⟨before, hbefore, rfl⟩ := List.mem_map.mp h
  refine ⟨before, hbefore, ?_⟩
  split
  · exact ⟨rfl, rfl, fun hactive => by cases hactive⟩
  · exact .refl before

/-- `applySnapshot` updates the active attempt, and may supersede others. -/
theorem mem_appliedAttempts {input : ApplyInput} (h : attempt ∈ input.appliedAttempts attempts) :
    ∃ middle ∈ updateActive input.aggregate.intent.activeAttemptId input.appliedAttempt attempts,
      Settles middle attempt := by
  unfold ApplyInput.appliedAttempts at h
  dsimp only at h
  split at h
  next active hactive =>
    rw [hactive]
    rw [hactive] at h
    split at h
    · exact mem_supersedeOthers h
    · exact ⟨attempt, h, .refl attempt⟩
  next hnone => exact ⟨attempt, h, .refl attempt⟩

/-- So does a promotion, with the attempt promoted. -/
theorem mem_promotedAttempts {input : PromoteInput}
    (h : attempt ∈ input.promotedAttempts attempts) :
    ∃ middle ∈ updateActive (some input.attempt.id) input.promotedAttempt attempts,
      Settles middle attempt := by
  unfold PromoteInput.promotedAttempts at h
  dsimp only at h
  split at h
  · exact mem_supersedeOthers h
  · exact ⟨attempt, h, .refl attempt⟩

end Rows

/-- A part of an attempt row that no status update touches. -/
def StatusFree {β : Type} (π : TransactionAttemptRecord → β) : Prop :=
  ∀ a submission chain workflow disposition code type details conflict conflictDetails,
    π { a with
        submissionStatus := submission, chainStatus := chain, workflowStatus := workflow
        disposition := disposition, submissionErrorCode := code, submissionErrorType := type
        submissionErrorDetails := details, conflictType := conflict
        conflictDetails := conflictDetails } = π a

section Operations

variable {view : IntentAggregate} {db t : Store} {β : Type} {π : TransactionAttemptRecord → β}

/-- **Any operation but an attach** keeps what is no status of every attempt. -/
theorem Op.other_kept (hπ : StatusFree π) {op : Op}
    (hop : ∀ req freshId now, op ≠ .attach req freshId now) (h : op.commit view db = some t) :
    t.attempts.map π = db.attempts.map π := by
  cases op with
  | attach req freshId now => exact absurd rfl (hop req freshId now)
  | mark req now =>
      obtain ⟨after, -, -, -, -, rfl⟩ := markAttempt_ok (Op.mark_commit h).2
      exact updateActive_kept (fun a => hπ a _ _ _ _ _ _ _ _ _) _ _
  | observe env =>
      obtain ⟨txHash, result, -, hp⟩ := Op.observe_commit h
      obtain ⟨input, -, rfl⟩ := reconcileProjection_writes hp
      exact appliedAttempts_kept (fun a => hπ a _ _ _ _ _ _ _ _ _) input
        (fun a => hπ a _ _ _ _ _ _ _ _ _) _
  | probe env index =>
      obtain ⟨candidate, -, ⟨input, -, rfl⟩ | ⟨input, -, hp⟩⟩ := Op.probe_commit h
      · exact updateAttempt_kept (fun a => hπ a _ _ _ _ _ _ _ _ _) _ _
      · obtain ⟨-, -, rfl⟩ := promoteAttemptProjection_ok hp
        exact promotedAttempts_kept (fun a => hπ a _ _ _ _ _ _ _ _ _) input
          (fun a => hπ a _ _ _ _ _ _ _ _ _) _
  | preflight verified reason rawObservation now =>
      cases h
      rfl
  | operatorNote text now =>
      cases h
      rfl

/-- A new attempt row leaves what is no status of the others. -/
theorem insertedAttempts_kept (hπ : StatusFree π) (input : AttachInput) :
    (input.insertedAttempts db).map π = db.attempts.map π ++ [π (input.newAttempt db)] := by
  rw [AttachInput.insertedAttempts, List.map_append]
  congr 1
  split
  · exact updateActive_kept (fun a => hπ a _ _ _ _ _ _ _ _ _) _ _
  · rfl

/-- The rows after an insert: the new one, and the earlier ones; the active one steps back unless the
new one is an RBF replacement. -/
theorem mem_insertedAttempts {input : AttachInput} {attempt : TransactionAttemptRecord}
    (hinsert : input.insertGuard db = .ok ()) (h : attempt ∈ input.insertedAttempts db) :
    attempt = input.newAttempt db ∨
      (attempt.id ≠ input.freshId ∧ ∃ before ∈ db.attempts, before.id = attempt.id ∧
        attempt =
          if input.kind ≠ .rbfReplacement ∧ some before.id = input.aggregate.intent.activeAttemptId then
            { before with disposition := priorAttemptDisposition input.aggregate.execution }
          else before) := by
  rw [AttachInput.insertedAttempts, List.mem_append, List.mem_singleton] at h
  rcases h with h | rfl
  · right
    have hfresh : ∀ before ∈ db.attempts, before.id ≠ input.freshId := by
      intro before hbefore hid
      exact (AttachInput.insertGuard_ok hinsert).2 (hid ▸ List.mem_map_of_mem hbefore)
    by_cases hkind : input.kind ≠ .rbfReplacement
    · rw [if_pos hkind] at h
      obtain ⟨before, hbefore, hid, heq⟩ := mem_updateActive
        (f := fun a => { a with disposition := priorAttemptDisposition input.aggregate.execution })
        (fun _ => rfl) h
      refine ⟨hid ▸ hfresh before hbefore, before, hbefore, hid, ?_⟩
      simpa only [hkind, true_and, hid, ne_eq, not_false_eq_true] using heq
    · rw [if_neg hkind] at h
      refine ⟨hfresh attempt h, attempt, h, rfl, ?_⟩
      rw [if_neg fun hboth => hkind hboth.1]
  · exact Or.inl rfl

/-- An attempt that steps back is no candidate. -/
theorem priorAttemptDisposition_ne_active (row : ExecutionRecord) :
    priorAttemptDisposition row ≠ .active := by
  unfold priorAttemptDisposition
  split_ifs <;> decide

/-- An earlier row after an insert: at most its disposition has changed. -/
theorem insertedAttempts_mem (input : AttachInput) {before : TransactionAttemptRecord}
    (h : before ∈ db.attempts) :
    ∃ disposition, { before with disposition := disposition } ∈ input.insertedAttempts db := by
  have hkeep : ∃ disposition, { before with disposition := disposition } ∈
      if input.kind ≠ .rbfReplacement then
        updateActive input.aggregate.intent.activeAttemptId
          (fun attempt =>
            { attempt with disposition := priorAttemptDisposition input.aggregate.execution })
          db.attempts
      else db.attempts := by
    split
    · have hafter := updateActive_mem (t := input.aggregate.intent.activeAttemptId)
        (f := fun attempt =>
          { attempt with disposition := priorAttemptDisposition input.aggregate.execution }) h
      split at hafter
      · exact ⟨_, hafter⟩
      · exact ⟨before.disposition, hafter⟩
    · exact ⟨before.disposition, h⟩
  obtain ⟨disposition, hmem⟩ := hkeep
  exact ⟨disposition, List.mem_append_left _ hmem⟩

end Operations

/-! ## What one operation does to the keys -/

section Keys

variable {view : IntentAggregate} {db t : Store}

theorem statusFree_key : StatusFree TransactionAttemptRecord.key :=
  fun _ _ _ _ _ _ _ _ _ _ => rfl

/-- The attempt the rows point at: none before the first transaction, afterwards one of the
attempts. -/
def Store.Points (db : Store) : Prop :=
  (db.attemptKeys = [] ∧ db.intent.activeAttemptId = none ∧ db.execution.txHash = none) ∨
    ∃ key ∈ db.attemptKeys, db.intent.activeAttemptId = some key.1 ∧
      db.execution.txHash = some key.2

/-- **An accepted attach**, by its keys: the hash is new and gets a row with a fresh id, or it is
that of a row; either way the rows point at it. -/
theorem Op.attach_keys {req : AttachRequest} {freshId : String} {now : Int}
    (h : (Op.attach req freshId now).commit view db = some t) :
    ∃ key, t.intent.activeAttemptId = some key.1 ∧ t.execution.txHash = some key.2 ∧
      normalizeTxHash req.txHashInput = .ok key.2 ∧
      ((t.attemptKeys = db.attemptKeys ∧ key ∈ db.attemptKeys) ∨
        (t.attemptKeys = db.attemptKeys ++ [key] ∧ key.1 ∉ db.attemptKeys.map (·.1) ∧
          key.2 ∉ db.attemptKeys.map (·.2))) := by
  obtain ⟨normalized, hn, ha⟩ := Op.attach_commit h
  obtain ⟨after, -, -, hw⟩ := attachAttempt_ok ha
  have hhash := (AttachRequest.normalize_ok hn).1
  obtain ⟨-, -, -, ⟨existing, number, hmem, hsame, -, rfl⟩ | ⟨hnew, hinsert, rfl⟩⟩ :=
    attachTransaction_ok hw
  · refine ⟨existing.key, rfl, ?_, ?_, Or.inl ⟨?_, List.mem_map_of_mem hmem⟩⟩
    · rw [AttachInput.attachedStore_execution, AttachInput.attachedExecution_txHash]
      exact congrArg some hsame.symm
    · rw [hhash]
      exact congrArg Except.ok hsame.symm
    · exact updateAttempt_kept (by intro; rfl) _ _
  · refine ⟨(freshId, normalized.txHash), rfl, ?_, hhash, Or.inr ⟨?_, ?_, ?_⟩⟩
    · rw [AttachInput.attachedStore_execution, AttachInput.attachedExecution_txHash]
      rfl
    · exact insertedAttempts_kept statusFree_key _
    · intro hin
      rw [Store.attemptKeys, List.map_map] at hin
      exact (AttachInput.insertGuard_ok hinsert).2 hin
    · intro hin
      rw [Store.attemptKeys, List.map_map] at hin
      obtain ⟨a, ha, heq⟩ := List.mem_map.mp hin
      exact hnew a ha heq

/-- Any other operation keeps the keys, and points where it did, or at an attempt of its view. -/
theorem Op.other_keys {op : Op} (hop : ∀ req freshId now, op ≠ .attach req freshId now)
    (h : op.commit view db = some t) :
    t.attemptKeys = db.attemptKeys ∧
      ((t.intent.activeAttemptId = db.intent.activeAttemptId ∧
        t.execution.txHash = db.execution.txHash) ∨
      ∃ candidate ∈ view.attempts, t.intent.activeAttemptId = some candidate.id ∧
        t.execution.txHash = some candidate.txHash) := by
  refine ⟨Op.other_kept statusFree_key hop h, ?_⟩
  cases op with
  | attach req freshId now => exact absurd rfl (hop req freshId now)
  | mark req now =>
      obtain ⟨after, -, -, -, -, rfl⟩ := markAttempt_ok (Op.mark_commit h).2
      exact Or.inl ⟨rfl, rfl⟩
  | observe env =>
      obtain ⟨txHash, result, -, hp⟩ := Op.observe_commit h
      obtain ⟨input, -, rfl⟩ := reconcileProjection_writes hp
      exact Or.inl ⟨rfl, rfl⟩
  | probe env index =>
      obtain ⟨candidate, hindex, ⟨input, -, rfl⟩ | ⟨input, hj, hp⟩⟩ := Op.probe_commit h
      · exact Or.inl ⟨rfl, rfl⟩
      · obtain ⟨-, -, rfl⟩ := promoteAttemptProjection_ok hp
        obtain ⟨_, _, -, -, -, -, -, hattempt, -⟩ := judgeCandidate_promote hj
        have hmem : candidate ∈ view.attempts :=
          (List.mem_filter.mp (List.mem_of_getElem? hindex)).1
        subst hattempt
        exact Or.inr ⟨input.attempt, hmem, rfl, rfl⟩
  | preflight verified reason rawObservation now =>
      cases h
      exact Or.inl ⟨rfl, rfl⟩
  | operatorNote text now =>
      cases h
      exact Or.inl ⟨rfl, rfl⟩

end Keys

/-! ## The invariant -/

/-- **Attempts are identified**: ids and hashes are unique, the rows point at one of the attempts,
and an old view knows no attempt the store has lost. -/
structure RowsInv (w : World Store) : Prop where
  ids : (w.current.attemptKeys.map (·.1)).Nodup
  hashes : (w.current.attemptKeys.map (·.2)).Nodup
  points : w.current.Points
  kept : ∀ view ∈ w.views, ∀ key ∈ view.attemptKeys, key ∈ w.current.attemptKeys

variable {w w' : World Store} {act : Act}

theorem RowsInv.attemptIds (hi : RowsInv w) : (w.current.attempts.map (·.id)).Nodup := by
  have hids := hi.ids
  rwa [Store.attemptKeys, List.map_map] at hids

theorem RowsInv.attemptHashes (hi : RowsInv w) : (w.current.attempts.map (·.txHash)).Nodup := by
  have hhashes := hi.hashes
  rwa [Store.attemptKeys, List.map_map] at hhashes

/-- **One operation.** -/
theorem RowsInv.step (hi : RowsInv w) (h : Step w act w') : RowsInv w' := by
  obtain ⟨-, hlater, t, hc, rfl⟩ := h
  have hkept : ∀ {keys : List (String × String)},
      (∀ key ∈ w.current.attemptKeys, key ∈ keys) → t.attemptKeys = keys →
      ∀ view ∈ (w.commit t).views, ∀ key ∈ view.attemptKeys, key ∈ t.attemptKeys := by
    intro keys hsub ht view hview key hkey
    rw [World.views_commit, List.mem_cons] at hview
    rcases hview with rfl | hview
    · exact hkey
    · rw [ht]
      exact hsub key (hi.kept view hview key hkey)
  by_cases hop : ∃ req freshId now, act.op = .attach req freshId now
  · obtain ⟨req, freshId, now, hop⟩ := hop
    rw [hop] at hc
    obtain ⟨key, hactive, htx, -, ⟨hkeys, hmem⟩ | ⟨hkeys, hid, hhash⟩⟩ := Op.attach_keys hc
    · refine ⟨?_, ?_, Or.inr ⟨key, ?_, hactive, htx⟩, hkept (fun _ hk => hk) hkeys⟩
      · rw [World.commit_current, hkeys]
        exact hi.ids
      · rw [World.commit_current, hkeys]
        exact hi.hashes
      · rw [World.commit_current, hkeys]
        exact hmem
    · refine ⟨?_, ?_, Or.inr ⟨key, ?_, hactive, htx⟩,
        hkept (fun _ hk => List.mem_append_left _ hk) hkeys⟩
      · rw [World.commit_current, hkeys, List.map_append]
        exact hi.ids.append (List.nodup_singleton _) (by simpa using hid)
      · rw [World.commit_current, hkeys, List.map_append]
        exact hi.hashes.append (List.nodup_singleton _) (by simpa using hhash)
      · rw [World.commit_current, hkeys]
        simp
  · have hop' : ∀ req freshId now, act.op ≠ .attach req freshId now :=
      fun req freshId now heq => hop ⟨req, freshId, now, heq⟩
    obtain ⟨hkeys, hpoints⟩ := Op.other_keys hop' hc
    refine ⟨?_, ?_, ?_, hkept (fun _ hk => hk) hkeys⟩
    · rw [World.commit_current, hkeys]
      exact hi.ids
    · rw [World.commit_current, hkeys]
      exact hi.hashes
    · rw [World.commit_current]
      unfold Store.Points
      rw [hkeys]
      rcases hpoints with ⟨hactive, htx⟩ | ⟨candidate, hmem, hactive, htx⟩
      · rw [hactive, htx]
        exact hi.points
      · exact Or.inr ⟨candidate.key,
          hi.kept act.later hlater _ (List.mem_map_of_mem hmem), hactive, htx⟩

theorem rowsInv_opening (req : CreateRequest) : RowsInv (opening req) := by
  refine ⟨List.nodup_nil, List.nodup_nil, Or.inl ⟨rfl, rfl, rfl⟩, ?_⟩
  intro view hview key hkey
  rw [opening, World.views, List.mem_singleton] at hview
  rw [hview] at hkey
  exact hkey

/-- **Every run.** -/
theorem rowsInv_run {req : CreateRequest} {acts : List Act} (h : Run Step (opening req) acts w) :
    RowsInv w :=
  h.inv RowsInv (rowsInv_opening req) fun _ _ _ hi hst => hi.step hst

/-- A row with a transaction has an active attempt. -/
theorem Store.Points.exists_active {db : Store} (h : db.Points) (htx : db.execution.txHash ≠ none) :
    ∃ attempt ∈ db.attempts, some attempt.id = db.intent.activeAttemptId := by
  rcases h with ⟨-, -, hnone⟩ | ⟨key, hkey, hactive, -⟩
  · exact absurd hnone htx
  · obtain ⟨attempt, hmem, rfl⟩ := List.mem_map.mp hkey
    exact ⟨attempt, hmem, hactive.symm⟩

/-- The attempt with the active id has the projected hash. -/
theorem Store.Points.active {db : Store} (h : db.Points) (hids : (db.attemptKeys.map (·.1)).Nodup)
    {attempt : TransactionAttemptRecord} (hmem : attempt ∈ db.attempts)
    (hid : some attempt.id = db.intent.activeAttemptId) :
    db.execution.txHash = some attempt.txHash := by
  have hkey : attempt.key ∈ db.attemptKeys := List.mem_map_of_mem hmem
  rcases h with ⟨hnil, -, -⟩ | ⟨key, hin, hactive, htx⟩
  · rw [hnil] at hkey
    cases hkey
  · rw [hactive] at hid
    have hsame : key = attempt.key :=
      List.inj_on_of_nodup_map hids hin hkey (Option.some.inj hid).symm
    rw [htx, hsame]
    rfl

/-- The attempt with the projected hash has the active id. -/
theorem Store.Points.projected {db : Store} (h : db.Points)
    (hhashes : (db.attemptKeys.map (·.2)).Nodup) {attempt : TransactionAttemptRecord}
    (hmem : attempt ∈ db.attempts) (htx : db.execution.txHash = some attempt.txHash) :
    some attempt.id = db.intent.activeAttemptId := by
  have hkey : attempt.key ∈ db.attemptKeys := List.mem_map_of_mem hmem
  rcases h with ⟨hnil, -, -⟩ | ⟨key, hin, hactive, htx'⟩
  · rw [hnil] at hkey
    cases hkey
  · rw [htx'] at htx
    have hsame : key = attempt.key :=
      List.inj_on_of_nodup_map hhashes hin hkey (Option.some.inj htx)
    rw [hactive, hsame]
    rfl

/-- An attach starts the execution row over unless its hash is the projected one. -/
theorem creatingAttempt_iff {db : Store} {input : AttachInput} (hcur : Current input.aggregate db) :
    input.creatingAttempt = true ↔ db.execution.txHash ≠ some input.txHash := by
  rw [← hcur.execution, AttachInput.creatingAttempt, Bool.not_eq_true']
  exact decide_eq_false_iff_not

/-- The projected hash has a row, so a hash without one starts the execution row over. -/
theorem Store.Points.creates {db : Store} (h : db.Points) {input : AttachInput}
    (hcur : Current input.aggregate db)
    (hnew : ∀ attempt ∈ db.attempts, attempt.txHash ≠ input.txHash) :
    input.creatingAttempt = true := by
  rw [creatingAttempt_iff hcur]
  intro htx
  rcases h with ⟨-, -, hnone⟩ | ⟨key, hkey, -, htx'⟩
  · rw [htx] at hnone
    cases hnone
  · obtain ⟨attempt, hmem, rfl⟩ := List.mem_map.mp hkey
    exact hnew attempt hmem (Option.some.inj (htx'.symm.trans htx))

/-! ## Rows without a transaction -/

/-- An operation leaves the execution row, or the row has a transaction afterwards. -/
theorem Op.commit_hashed {view : IntentAggregate} {db t : Store} {op : Op}
    (hcur : db.execution.version = view.execution.version → Current view db)
    (h : op.commit view db = some t) :
    t.execution = db.execution ∨ t.execution.txHash ≠ none := by
  cases op with
  | attach req freshId now =>
      obtain ⟨_, _, _, _, _, -, -, -, -, -, rfl⟩ := Op.attach_writes h
      exact Or.inr (by simp)
  | mark req now =>
      obtain ⟨after, htx, -, hversion, -, rfl⟩ := markAttempt_ok (Op.mark_commit h).2
      rw [(hcur hversion).execution] at htx
      exact Or.inr htx
  | observe env =>
      obtain ⟨txHash, result, htx, hp⟩ := Op.observe_commit h
      have hc := hcur (reconcileProjection_ok hp).1
      obtain ⟨input, -, rfl⟩ := reconcileProjection_writes hp
      rw [hc.execution] at htx
      refine Or.inr ?_
      show db.execution.txHash ≠ none
      simp [htx]
  | probe env index =>
      obtain ⟨candidate, -, ⟨input, -, rfl⟩ | ⟨input, -, hp⟩⟩ := Op.probe_commit h
      · exact Or.inl rfl
      · obtain ⟨-, -, rfl⟩ := promoteAttemptProjection_ok hp
        exact Or.inr (by simp [PromoteInput.promotedStore, PromoteInput.promotedExecution])
  | preflight verified reason rawObservation now =>
      cases h
      exact Or.inl rfl
  | operatorNote text now =>
      cases h
      exact Or.inl rfl

/-- **A row without a transaction is the one the intent was created with.** -/
theorem unhashed_run {req : CreateRequest} {acts : List Act} (h : Run Step (opening req) acts w) :
    w.current.execution.txHash = none →
      w.current.execution = (serviceCreateIntent req).execution := by
  refine machine_inv
    (fun db => db.execution.txHash = none → db.execution = (serviceCreateIntent req).execution)
    (fun _ _ => True) (consistent_opening req) (fun _ => rfl) ?_
    (h.mono fun _ _ _ hst => ⟨trivial, hst⟩)
  intro view op db t hcur hi _ hc htx
  rcases Op.commit_hashed hcur hc with hsame | hsome
  · rw [hsame] at htx ⊢
    exact hi htx
  · exact absurd htx hsome

end CellFlow
