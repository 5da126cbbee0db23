/-
# CellFlow.Api.AttemptEvidence — the inputs recorded of the transactions of an intent.

The input OutPoints and the input roles of a transaction stand in its attempt row and, while it is the
active one, in the execution row.  Only an accepted attach writes them in an attempt row, so a view of
the current version knows the evidence of every attempt, and the execution row mirrors the active
attempt (`evidenceInv_run`) in every run whose views read the attempts after the rows, as `getIntent`
does.
-/
import CellFlow.Api.AttemptRows

namespace CellFlow

open Optimistic (World Evolves)
open Runs (Run)

/-! ## Ordered reads -/

/-- `getIntent` reads the intent and the execution row first, the attempts after them. -/
def Act.Ordered (act : Act) : Prop := rowVersion act.rows ≤ rowVersion act.later

/-- One operation commits, from a view read in that order. -/
def OrderedStep : World Store → Act → World Store → Prop :=
  Runs.when (fun _ act => act.Ordered) Step

/-- Operations run alone read one state. -/
theorem ordered_of_alone {w₀ w : World Store} {acts : List Act}
    (h : Run AloneStep w₀ acts w) : Run OrderedStep w₀ acts w := by
  refine h.mono ?_
  rintro _ act _ ⟨hsame, hst⟩
  refine ⟨?_, hst⟩
  show rowVersion act.rows ≤ rowVersion act.later
  rw [hsame]

/-! ## What an operation does to the evidence -/

/-- Id, inputs and roles of an attempt. -/
def TransactionAttemptRecord.evidence (attempt : TransactionAttemptRecord) :
    String × List OutPointRef × List InputRef :=
  (attempt.id, attempt.inputOutPoints, attempt.inputRefs)

/-- The inputs on record of every attempt of the intent, in the order of the rows. -/
def Store.evidence (db : Store) : List (String × List OutPointRef × List InputRef) :=
  db.attempts.map TransactionAttemptRecord.evidence

/-- Inputs and roles of the execution row. -/
def ExecutionRecord.evidence (row : ExecutionRecord) : List OutPointRef × List InputRef :=
  (row.inputOutPoints, row.inputRefs)

section Operations

variable {view : IntentAggregate} {db t : Store}

theorem statusFree_evidence : StatusFree TransactionAttemptRecord.evidence :=
  fun _ _ _ _ _ _ _ _ _ _ => rfl

/-- **Any operation but an attach** keeps the evidence of every attempt; the execution row keeps its
own, or takes that of a candidate of the view. -/
theorem Op.other_evidence {op : Op} (hop : ∀ req freshId now, op ≠ .attach req freshId now)
    (h : op.commit view db = some t) :
    t.evidence = db.evidence ∧
      ((t.intent.activeAttemptId = db.intent.activeAttemptId ∧
        t.execution.evidence = db.execution.evidence) ∨
      ∃ candidate ∈ view.attempts, db.execution.version = view.execution.version ∧
        t.intent.activeAttemptId = some candidate.id ∧
        t.execution.evidence =
          (candidate.inputOutPoints.map OutPointRef.stored,
            candidate.inputRefs.map InputRef.stored)) := by
  refine ⟨Op.other_kept statusFree_evidence hop h, ?_⟩
  cases op with
  | attach req freshId now => exact absurd rfl (hop req freshId now)
  | mark req now =>
      obtain ⟨after, -, -, -, -, rfl⟩ := markAttempt_ok (Op.mark_commit h).2
      exact Or.inl ⟨rfl, rfl⟩
  | observe env =>
      obtain ⟨txHash, result, -, hp⟩ := Op.observe_commit h
      obtain ⟨input, -, rfl⟩ := reconcileProjection_writes hp
      exact Or.inl ⟨rfl, rfl⟩
  | probe env index =>
      obtain ⟨candidate, hindex, ⟨input, -, rfl⟩ | ⟨input, hj, hp⟩⟩ := Op.probe_commit h
      · exact Or.inl ⟨rfl, rfl⟩
      · obtain ⟨hversion, -, rfl⟩ := promoteAttemptProjection_ok hp
        obtain ⟨_, _, -, -, -, -, hview, hattempt, -⟩ := judgeCandidate_promote hj
        have hmem : candidate ∈ view.attempts :=
          (List.mem_filter.mp (List.mem_of_getElem? hindex)).1
        subst hattempt
        rw [hview] at hversion
        exact Or.inr ⟨input.attempt, hmem, hversion, rfl, rfl⟩
  | preflight verified reason rawObservation now =>
      cases h
      exact Or.inl ⟨rfl, rfl⟩
  | operatorNote text now =>
      cases h
      exact Or.inl ⟨rfl, rfl⟩

/-- **An accepted attach** writes one evidence, that of the execution row and of the attempt it
makes active; every other attempt keeps its own. -/
theorem Op.attach_evidence {req : AttachRequest} {freshId : String} {now : Int}
    (h : (Op.attach req freshId now).commit view db = some t) :
    ∃ (id : String) (inputs : List OutPointRef) (refs : List InputRef),
      t.intent.activeAttemptId = some id ∧
      t.execution.evidence = (inputs.map OutPointRef.stored, refs.map InputRef.stored) ∧
      (∃ attempt ∈ t.attempts, attempt.id = id) ∧
      ∀ e ∈ t.evidence, (e.1 = id ∧ e.2 = t.execution.evidence) ∨ (e.1 ≠ id ∧ e ∈ db.evidence) := by
  obtain ⟨normalized, -, ha⟩ := Op.attach_commit h
  obtain ⟨after, -, -, hw⟩ := attachAttempt_ok ha
  generalize normalized.input view freshId now (snapshotFromExecution view.execution) after = input
    at hw
  have hrow : (input.attachedExecution db.execution).evidence =
      (input.persistedInputs.map OutPointRef.stored, input.persistedInputRefs.map InputRef.stored) := by
    unfold AttachInput.attachedExecution
    split <;> rfl
  obtain ⟨-, -, -, ⟨existing, number, hmem, -, -, rfl⟩ | ⟨-, hinsert, rfl⟩⟩ := attachTransaction_ok hw
  · refine ⟨existing.id, _, _, rfl, hrow, ⟨input.reattached existing, ?_, rfl⟩, ?_⟩
    · exact List.mem_map.mpr ⟨existing, hmem, if_pos rfl⟩
    · intro e he
      obtain ⟨attempt, hattempt, rfl⟩ := List.mem_map.mp he
      obtain ⟨before, hbefore, rfl⟩ := List.mem_map.mp hattempt
      by_cases hid : before.id = existing.id
      · rw [if_pos hid]
        exact Or.inl ⟨hid, hrow.symm⟩
      · rw [if_neg hid]
        exact Or.inr ⟨hid, List.mem_map_of_mem hbefore⟩
  · have hfresh := (AttachInput.insertGuard_ok hinsert).2
    refine ⟨input.freshId, _, _, rfl, hrow, ⟨input.newAttempt db, ?_, rfl⟩, ?_⟩
    · exact List.mem_append_right _ List.mem_cons_self
    · intro e he
      rw [Store.evidence, AttachInput.attachedStore, insertedAttempts_kept statusFree_evidence] at he
      rcases List.mem_append.mp he with he | he
      · refine Or.inr ⟨?_, he⟩
        obtain ⟨attempt, hattempt, rfl⟩ := List.mem_map.mp he
        intro hid
        exact hfresh (hid ▸ List.mem_map_of_mem hattempt)
      · obtain rfl := List.mem_singleton.mp he
        exact Or.inl ⟨rfl, hrow.symm⟩

/-- Evidence is guarded by the version. -/
theorem Op.commit_evidence_evolves {op : Op} (h : op.commit view db = some t) :
    Evolves rowVersion Store.evidence db t := by
  by_cases hop : ∃ req freshId now, op = .attach req freshId now
  · obtain ⟨req, freshId, now, rfl⟩ := hop
    obtain ⟨_, _, _, _, _, -, -, -, -, -, rfl⟩ := Op.attach_writes h
    exact Or.inl (by simp [rowVersion])
  · have hother := Op.other_evidence (fun req freshId now heq => hop ⟨req, freshId, now, heq⟩) h
    rcases Op.commit_evolves h with hup | ⟨hversion, -⟩
    · exact Or.inl hup
    · exact Or.inr ⟨hversion, hother.1⟩

end Operations

/-! ## The invariant -/

/-- Both lists as a `jsonb` column returns them. -/
def InStoredForm (evidence : List OutPointRef × List InputRef) : Prop :=
  evidence.1.map OutPointRef.stored = evidence.1 ∧ evidence.2.map InputRef.stored = evidence.2

/-- **The evidence of an intent**: views of the current version know it, it stands as the columns
return it, and the execution row mirrors the active attempt. -/
structure EvidenceRows (w : World Store) : Prop where
  rows : RowsInv w
  consistent : w.Consistent rowVersion Store.evidence
  stored : ∀ e ∈ w.current.evidence, InStoredForm e.2
  row : InStoredForm w.current.execution.evidence
  mirrored : ∀ e ∈ w.current.evidence, some e.1 = w.current.intent.activeAttemptId →
    e.2 = w.current.execution.evidence

variable {w w' : World Store} {act : Act}

theorem inStoredForm_stored (inputs : List OutPointRef) (refs : List InputRef) :
    InStoredForm (inputs.map OutPointRef.stored, refs.map InputRef.stored) := by
  constructor <;> simp [List.map_map, Function.comp_def]

/-- The attempt with the projected hash has the evidence of the row. -/
theorem EvidenceRows.projected (hi : EvidenceRows w) {attempt : TransactionAttemptRecord}
    (hmem : attempt ∈ w.current.attempts)
    (htx : w.current.execution.txHash = some attempt.txHash) :
    attempt.evidence.2 = w.current.execution.evidence :=
  hi.mirrored attempt.evidence (List.mem_map_of_mem hmem)
    (hi.rows.points.projected hi.rows.hashes hmem htx)

/-- A view whose rows have the current version has the evidence of every attempt. -/
theorem evidence_of_ordered (hc : w.Consistent rowVersion Store.evidence) (hlater : act.later ∈ w.views)
    (hordered : act.Ordered)
    (hversion : w.current.execution.version = act.view.execution.version) :
    act.later.evidence = w.current.evidence := by
  refine hc.row_eq hlater ?_
  have hle : rowVersion act.later ≤ rowVersion w.current := (hc act.later hlater).le
  have hrows : rowVersion w.current = rowVersion act.rows := hversion
  have hread : rowVersion act.rows ≤ rowVersion act.later := hordered
  omega

/-- **One operation.** -/
theorem EvidenceRows.step (hi : EvidenceRows w) (h : OrderedStep w act w') : EvidenceRows w' := by
  obtain ⟨hordered, hst⟩ := h
  have hrows' := hi.rows.step hst
  obtain ⟨-, hlater, t, hc, rfl⟩ := hst
  have hconsistent := hi.consistent.commit (Op.commit_evidence_evolves hc)
  by_cases hop : ∃ req freshId now, act.op = .attach req freshId now
  · obtain ⟨req, freshId, now, hop⟩ := hop
    rw [hop] at hc
    obtain ⟨id, inputs, refs, hactive, hrow, -, hall⟩ := Op.attach_evidence hc
    have hstored : InStoredForm t.execution.evidence := hrow ▸ inStoredForm_stored inputs refs
    refine ⟨hrows', hconsistent, ?_, hstored, ?_⟩
    · intro e he
      rcases hall e he with ⟨-, heq⟩ | ⟨-, hold⟩
      · exact heq ▸ hstored
      · exact hi.stored e hold
    · intro e he hid
      rcases hall e he with ⟨-, heq⟩ | ⟨hne, -⟩
      · exact heq
      · rw [World.commit_current, hactive] at hid
        exact absurd (Option.some.inj hid) hne
  · obtain ⟨hevidence, hrow⟩ :=
      Op.other_evidence (fun req freshId now heq => hop ⟨req, freshId, now, heq⟩) hc
    have hstored : ∀ e ∈ t.evidence, InStoredForm e.2 := by
      rw [hevidence]
      exact hi.stored
    rcases hrow with ⟨hactive, hrow⟩ | ⟨candidate, hmem, hversion, hactive, hrow⟩
    · refine ⟨hrows', hconsistent, hstored, ?_, ?_⟩
      · rw [World.commit_current, hrow]
        exact hi.row
      · rw [World.commit_current, hevidence, hactive, hrow]
        exact hi.mirrored
    · refine ⟨hrows', hconsistent, hstored, hrow ▸ inStoredForm_stored _ _, ?_⟩
      -- the candidate is known as it is, so the row takes the evidence of its attempt
      have hknown : candidate.evidence ∈ w.current.evidence := by
        rw [← evidence_of_ordered hi.consistent hlater hordered hversion]
        exact List.mem_map_of_mem hmem
      have hform : InStoredForm candidate.evidence.2 := hi.stored _ hknown
      intro e he hid
      rw [World.commit_current, hactive] at hid
      rw [World.commit_current, hevidence] at he
      have hids : (w.current.evidence.map (·.1)).Nodup := by
        have hsame : w.current.evidence.map (·.1) = w.current.attemptKeys.map (·.1) := by
          rw [Store.evidence, Store.attemptKeys, List.map_map, List.map_map]
          rfl
        rw [hsame]
        exact hi.rows.ids
      have heq : e = candidate.evidence :=
        List.inj_on_of_nodup_map hids he hknown (Option.some.inj hid)
      rw [World.commit_current, hrow, heq]
      exact Prod.ext hform.1.symm hform.2.symm

theorem evidenceRows_opening (req : CreateRequest) : EvidenceRows (opening req) where
  rows := rowsInv_opening req
  consistent := World.consistent_start _
  stored := by
    intro e he
    cases he
  row := ⟨rfl, rfl⟩
  mirrored := by
    intro e he
    cases he

/-- **Every run.** -/
theorem evidenceRows_run {req : CreateRequest} {acts : List Act}
    (h : Run OrderedStep (opening req) acts w) : EvidenceRows w :=
  h.inv EvidenceRows (evidenceRows_opening req) fun _ _ _ hi hst => hi.step hst

end CellFlow
