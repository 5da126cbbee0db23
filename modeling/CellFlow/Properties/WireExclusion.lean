/-
# CellFlow.Properties.WireExclusion — which attempts of an intent exclude each other on chain.

Two transactions that spend a common Cell cannot both commit.  `attachTransaction` asks a replacement
for a shared input with the transaction it replaces, while older candidates that may still commit
stand in other rows.  Over any sequence of calls, attempts on the wire exclude each other as long as
each new transaction shares an input with every one of those candidates too.
-/
import CellFlow.Properties.ProjectionMirror

namespace CellFlow

open Optimistic (World)
open Runs (Run)

/-! ## Exclusion -/

/-- Put on the wire, and recorded neither as chain-REJECTED nor as CONFLICTED. -/
def TransactionAttemptRecord.exposed (attempt : TransactionAttemptRecord) : Bool :=
  attempt.submissionStatus.onWire && attempt.chainStatus ≠ .rejected &&
    attempt.workflowStatus ≠ .conflicted

/-- A common input OutPoint. -/
def SharesInput (inputs others : List OutPointRef) : Prop :=
  ∃ o ∈ inputs, ∃ o' ∈ others, o.txHash = o'.txHash ∧ o.index = o'.index

instance (inputs others : List OutPointRef) : Decidable (SharesInput inputs others) :=
  inferInstanceAs (Decidable (∃ o ∈ inputs, ∃ o' ∈ others, o.txHash = o'.txHash ∧ o.index = o'.index))

/-- Any two attempts on the wire share an input. -/
def WireExclusive (db : Store) : Prop :=
  ∀ a ∈ db.attempts, ∀ b ∈ db.attempts, a.exposed = true → b.exposed = true → a.id ≠ b.id →
    SharesInput a.inputOutPoints b.inputOutPoints

/-! ## Calls -/

/-- The calls on an intent. -/
inductive Call where
  | attach (req : AttachRequest) (freshId : String) (now : Int)
  | mark (req : MarkRequest) (now : Int)
  | reconcile (env : ReconcileEnv)

/-- One call after another is answered.  A refused request leaves the store, so only a reconciliation
is followed where it fails. -/
inductive Called : Store → Call → Store → Prop where
  | attach {db t : Store} {req : AttachRequest} {freshId : String} {now : Int}
      (h : serviceAttachTransaction req freshId now db = .ok t) :
      Called db (.attach req freshId now) t
  | mark {db t : Store} {req : MarkRequest} {now : Int} (h : serviceMarkSubmission req now db = .ok t) :
      Called db (.mark req now) t
  | reconcile {db : Store} (env : ReconcileEnv) :
      Called db (.reconcile env) (serviceReconcile env db).1

/-- Every transaction is attached with its inputs; the projected one may be named again without. -/
def Call.carriesInputs (db : Store) : Call → Prop
  | .attach req _ _ =>
      req.inputOutPoints.getD [] ≠ [] ∨
        ∃ hash, normalizeTxHash req.txHashInput = .ok hash ∧ db.execution.txHash = some hash
  | _ => True

/-- The attempts in the other rows that may still commit: candidates of the scan, and attempts on the
wire. -/
def Store.contenders (db : Store) : List TransactionAttemptRecord :=
  db.attempts.filter fun attempt =>
    some attempt.id ≠ db.intent.activeAttemptId && (attempt.disposition = .active || attempt.exposed)

/-- The transaction attached shares an input with every contender. -/
def Call.excludesContenders (db : Store) : Call → Prop
  | .attach req _ _ =>
      ∀ inputs, normalizeOptional normalizeOutPointRefs req.inputOutPoints = .ok inputs →
        ∀ attempt ∈ db.contenders, SharesInput (inputs.getD []) attempt.inputOutPoints
  | _ => True

/-! ## OutPoints -/

theorem SharesInput.symm {inputs others : List OutPointRef} (h : SharesInput inputs others) :
    SharesInput others inputs := by
  obtain ⟨o, ho, o', ho', hhash, hindex⟩ := h
  exact ⟨o', ho', o, ho, hhash.symm, hindex.symm⟩

/-- Storing a list changes no OutPoint of it. -/
theorem SharesInput.stored {inputs others : List OutPointRef} (h : SharesInput inputs others) :
    SharesInput (inputs.map OutPointRef.stored) others := by
  obtain ⟨o, ho, o', ho', hsame⟩ := h
  exact ⟨o.stored, List.mem_map_of_mem ho, o', ho', hsame⟩

/-- A hash as the service stores it. -/
def NormalHash (hash : String) : Prop := isTxHash hash = true ∧ toLowerCase hash = hash

theorem normalHash_of_normalize {value hash : String} (h : normalizeTxHash value = .ok hash) :
    NormalHash hash := by
  unfold normalizeTxHash at h
  simp only at h
  split at h
  next hform =>
    cases h
    exact ⟨hform, toLowerCase_toLowerCase value⟩
  · cases h

theorem NormalHash.length {hash : String} (h : NormalHash hash) : hash.toList.length = 66 := by
  have hform := h.1
  unfold isTxHash at hform
  split at hform
  next digits heq =>
    rw [Bool.and_eq_true, decide_eq_true_eq] at hform
    rw [heq, List.length_cons, List.length_cons, hform.1]
  · cases hform

/-- The decimal text of an index gives it back. -/
theorem toString_inj {m n : Nat} (h : (toString m).toList = (toString n).toList) : m = n := by
  rw [Nat.toString_eq_repr, Nat.toString_eq_repr, Nat.toList_repr, Nat.toList_repr] at h
  have hboth := congrArg (Nat.ofDigitChars 10 · 0) h
  simpa only [Nat.ofDigitChars_ten_toDigits] using hboth

/-- **The text the guard compares** names one OutPoint. -/
theorem OutPointRef.key_inj {o o' : OutPointRef} (ho : NormalHash o.txHash)
    (ho' : NormalHash o'.txHash) (h : o.key = o'.key) :
    o.txHash = o'.txHash ∧ o.index = o'.index := by
  rw [key, key, ho.2, ho'.2] at h
  have hchars := congrArg String.toList h
  simp only [String.toList_append, List.append_assoc] at hchars
  obtain ⟨hhash, hrest⟩ := List.append_inj hchars (ho.length.trans ho'.length.symm)
  exact ⟨String.toList_inj.mp hhash, toString_inj (List.append_cancel_left hrest)⟩

/-- The comparison of the guard, on normalized inputs. -/
theorem sharesInput_of_guard {items parent : List OutPointRef}
    (hitems : ∀ o ∈ items, NormalHash o.txHash) (hparent : ∀ o ∈ parent, NormalHash o.txHash)
    (h : AttachInput.sharesInput items parent = true) : SharesInput items parent := by
  obtain ⟨o, ho, hany⟩ := List.any_eq_true.mp h
  obtain ⟨o', ho', hkey⟩ := List.any_eq_true.mp hany
  obtain ⟨hhash, hindex⟩ :=
    OutPointRef.key_inj (hparent o' ho') (hitems o ho) (of_decide_eq_true hkey)
  exact ⟨o, ho, o', ho', hhash.symm, hindex.symm⟩

/-- A normalized OutPoint list is in normal form, and empty only where the request's was. -/
theorem normalizeOutPointRefs_ok {values refs : List OutPointRef}
    (h : normalizeOutPointRefs values = .ok refs) :
    (∀ o ∈ refs, NormalHash o.txHash) ∧ (values ≠ [] → refs ≠ []) := by
  unfold normalizeOutPointRefs at h
  split at h
  · cases h
  · constructor
    · intro o ho
      obtain ⟨value, -, hvalue⟩ := mem_of_mapM_ok h o ho
      unfold normalizeOutPointRef at hvalue
      cases hhash : normalizeTxHash value.txHash with
      | error e =>
          rw [hhash] at hvalue
          cases hvalue
      | ok hash =>
          cases hindex : normalizeOutPointIndex value.index with
          | error e =>
              rw [hhash, hindex] at hvalue
              cases hvalue
          | ok index =>
              rw [hhash, hindex] at hvalue
              cases hvalue
              exact normalHash_of_normalize hhash
    · intro hvalues hrefs
      obtain ⟨value, rest, rfl⟩ := List.exists_cons_of_ne_nil hvalues
      rw [List.mapM_cons, hrefs] at h
      cases hvalue : normalizeOutPointRef value with
      | error e =>
          rw [hvalue] at h
          cases h
      | ok o =>
          cases hrest : rest.mapM normalizeOutPointRef with
          | error e =>
              rw [hvalue, hrest] at h
              cases h
          | ok os =>
              rw [hvalue, hrest] at h
              cases h

theorem normalizeOptional_inputs {inputs normalized : Option (List OutPointRef)}
    (h : normalizeOptional normalizeOutPointRefs inputs = .ok normalized) :
    (∀ o ∈ normalized.getD [], NormalHash o.txHash) ∧
      (inputs.getD [] ≠ [] → normalized.getD [] ≠ []) := by
  cases inputs with
  | none =>
      cases h
      exact ⟨by simp, fun hne => hne⟩
  | some values =>
      cases hrefs : normalizeOutPointRefs values with
      | error e =>
          rw [normalizeOptional, hrefs] at h
          cases h
      | ok refs =>
          rw [normalizeOptional, hrefs] at h
          cases h
          exact normalizeOutPointRefs_ok hrefs

/-! ## Attempts that may still commit -/

/-- The projected attempt, a candidate of the scan, or one on the wire. -/
def TransactionAttemptRecord.Live (db : Store) (attempt : TransactionAttemptRecord) : Prop :=
  some attempt.id = db.intent.activeAttemptId ∨ attempt.disposition = .active ∨
    attempt.exposed = true

/-- Any two attempts that may still commit share an input. -/
def Exclusive (db : Store) : Prop :=
  ∀ a ∈ db.attempts, ∀ b ∈ db.attempts, a.Live db → b.Live db → a.id ≠ b.id →
    SharesInput a.inputOutPoints b.inputOutPoints

/-- Whatever may still commit may so far. -/
def StaysLive (db t : Store) : Prop :=
  ∀ attempt ∈ t.attempts, attempt.Live t → ∃ before ∈ db.attempts, before.Live db ∧
    before.id = attempt.id

theorem Exclusive.wire {db : Store} (h : Exclusive db) : WireExclusive db :=
  fun a ha b hb hexposed hexposed' hne =>
    h a ha b hb (Or.inr (Or.inr hexposed)) (Or.inr (Or.inr hexposed')) hne

section Liveness

variable {db t u : Store} {attempt before : TransactionAttemptRecord}

/-- Where nothing becomes live and the recorded inputs stay, exclusion stays. -/
theorem Exclusive.kept (h : Exclusive db) (hids : (db.attempts.map (·.id)).Nodup)
    (hevidence : t.evidence = db.evidence) (hlive : StaysLive db t) : Exclusive t := by
  have hrow : ∀ attempt ∈ t.attempts, attempt.Live t → ∃ before ∈ db.attempts,
      before.Live db ∧ before.id = attempt.id ∧ before.inputOutPoints = attempt.inputOutPoints := by
    intro attempt hmem hattempt
    obtain ⟨before, hbefore, hbeforeLive, hid⟩ := hlive attempt hmem hattempt
    have hkept : attempt.evidence ∈ db.evidence := hevidence ▸ List.mem_map_of_mem hmem
    obtain ⟨same, hsame, heq⟩ := List.mem_map.mp hkept
    have hone : before = same :=
      List.inj_on_of_nodup_map hids hbefore hsame (hid.trans (congrArg Prod.fst heq).symm)
    exact ⟨before, hbefore, hbeforeLive, hid, hone ▸ congrArg (·.2.1) heq⟩
  intro a ha b hb halive hblive hne
  obtain ⟨a', ha', ha'live, haid, hainputs⟩ := hrow a ha halive
  obtain ⟨b', hb', hb'live, hbid, hbinputs⟩ := hrow b hb hblive
  rw [← hainputs, ← hbinputs]
  exact h a' ha' b' hb' ha'live hb'live (by rw [haid, hbid]; exact hne)

theorem StaysLive.refl (db : Store) : StaysLive db db :=
  fun attempt hmem hlive => ⟨attempt, hmem, hlive, rfl⟩

theorem Settles.exposed (h : Settles before attempt) : before.exposed = attempt.exposed := by
  have hstatuses := h.statuses
  simp only [TransactionAttemptRecord.statuses, Statuses.mk.injEq] at hstatuses
  rw [TransactionAttemptRecord.exposed, TransactionAttemptRecord.exposed, hstatuses.1,
    hstatuses.2.1, hstatuses.2.2]

/-- **The rule for an update** of one attempt, which was live in `u`: the rows are those of `db`
but for the update, and the intent row keeps its pointer or moves it to that attempt. -/
theorem StaysLive.update {target : Option String}
    {f : TransactionAttemptRecord → TransactionAttemptRecord} (h : StaysLive u db)
    (hid : ∀ a, (f a).id = a.id)
    (htarget : ∀ a ∈ db.attempts, some a.id = target →
      ∃ before ∈ u.attempts, before.Live u ∧ before.id = a.id)
    (hactive : t.intent.activeAttemptId = target ∨
      t.intent.activeAttemptId = db.intent.activeAttemptId)
    (hrows : ∀ attempt ∈ t.attempts,
      ∃ middle ∈ updateActive target f db.attempts, Settles middle attempt) : StaysLive u t := by
  intro attempt hmem hlive
  obtain ⟨middle, hmiddle, hsettles⟩ := hrows attempt hmem
  obtain ⟨before, hbefore, hname, heq⟩ := mem_updateActive hid hmiddle
  by_cases hupdated : some middle.id = target
  · obtain ⟨first, hfirst, hfirstLive, hfirstId⟩ := htarget before hbefore (by rw [hname, hupdated])
    exact ⟨first, hfirst, hfirstLive, hfirstId.trans (hname.trans hsettles.id)⟩
  · rw [if_neg hupdated] at heq
    subst heq
    have hmiddleLive : middle.Live db := by
      rcases hlive with hpointer | hdisposition | hexposed
      · rw [← hsettles.id] at hpointer
        rcases hactive with hmoved | hkept
        · exact absurd (hpointer.trans hmoved) hupdated
        · exact Or.inl (hpointer.trans hkept)
      · exact Or.inr (Or.inl (hsettles.disposition hdisposition))
      · exact Or.inr (Or.inr (hsettles.exposed.trans hexposed))
    obtain ⟨first, hfirst, hfirstLive, hfirstId⟩ := h middle hbefore hmiddleLive
    exact ⟨first, hfirst, hfirstLive, hfirstId.trans hsettles.id⟩

end Liveness

/-! ## Reports and reconciliations -/

/-- What a call that attaches nothing keeps of the store it found. -/
structure Keeps (db t : Store) : Prop where
  live : StaysLive db t
  evidence : t.evidence = db.evidence
  mirrored : StatusesMirrored t

section Operations

variable {db db₀ t : Store}

theorem keeps_marked {input : MarkInput} (hcur : Current input.aggregate db)
    (hm : StatusesMirrored db) : Keeps db (input.markedStore db) where
  live := by
    refine (StaysLive.refl db).update (f := input.markedAttempt)
      (t := input.markedStore db) (fun _ => rfl) ?_ (Or.inr rfl) fun attempt hmem =>
        ⟨attempt, hmem, .refl attempt⟩
    intro attempt hmem hid
    rw [hcur.intent] at hid
    exact ⟨attempt, hmem, Or.inl hid, rfl⟩
  evidence := updateActive_kept (fun a => statusFree_evidence a _ _ _ _ _ _ _ _ _) _ _
  mirrored := statusesMirrored_marked hcur hm

theorem Keeps.applied {input : ApplyInput} (hcur : Current input.aggregate db) (h : Keeps db₀ db) :
    Keeps db₀ (input.appliedStore db) where
  live := by
    refine h.live.update (f := input.appliedAttempt) (t := input.appliedStore db) (fun _ => rfl) ?_
      (Or.inr rfl) fun attempt hmem => mem_appliedAttempts hmem
    intro attempt hmem hid
    rw [hcur.intent] at hid
    exact h.live attempt hmem (Or.inl hid)
  evidence := by
    rw [← h.evidence]
    exact appliedAttempts_kept (fun a => statusFree_evidence a _ _ _ _ _ _ _ _ _) input
      (fun a => statusFree_evidence a _ _ _ _ _ _ _ _ _) _
  mirrored := statusesMirrored_applied hcur

theorem Keeps.promoted {input : PromoteInput} (h : Keeps db₀ db)
    (hcandidate : ∃ before ∈ db₀.attempts, before.Live db₀ ∧ before.id = input.attempt.id) :
    Keeps db₀ (input.promotedStore db) where
  live := by
    refine h.live.update (f := input.promotedAttempt) (t := input.promotedStore db) (fun _ => rfl) ?_
      (Or.inl rfl) fun attempt hmem => mem_promotedAttempts hmem
    intro attempt hmem hid
    rw [Option.some.inj hid]
    exact hcandidate
  evidence := by
    rw [← h.evidence]
    exact promotedAttempts_kept (fun a => statusFree_evidence a _ _ _ _ _ _ _ _ _) input
      (fun a => statusFree_evidence a _ _ _ _ _ _ _ _ _) _
  mirrored := statusesMirrored_promoted

theorem Keeps.probed {input : CandidateInput} (h : Keeps db₀ db)
    (hcandidate : ∃ before ∈ db₀.attempts, before.Live db₀ ∧ before.id = input.attemptId)
    (hother : some input.attemptId ≠ db.intent.activeAttemptId) :
    Keeps db₀ (updateCandidateAttempt input db) where
  live := by
    refine h.live.update (f := input.updated) (t := updateCandidateAttempt input db)
      (fun _ => rfl) ?_ (Or.inr rfl) fun attempt hmem =>
        (⟨attempt, hmem, .refl attempt⟩ : ∃ middle ∈ updateActive (some input.attemptId) _ _, _)
    intro attempt hmem hid
    rw [Option.some.inj hid]
    exact hcandidate
  evidence := by
    rw [← h.evidence]
    exact updateAttempt_kept (fun a => statusFree_evidence a _ _ _ _ _ _ _ _ _) _ _
  mirrored := by
    intro attempt hmem hid
    obtain ⟨before, hbefore, -, heq⟩ := mem_updateAttempt (f := input.updated) (fun _ => rfl) hmem
    have hne : attempt.id ≠ input.attemptId := by
      intro hsame
      exact hother (by rw [← hsame]; exact hid)
    rw [if_neg hne] at heq
    rw [heq] at hid ⊢
    exact h.mirrored before hbefore hid

/-- **The candidate scan**: it updates candidates of the view it was given, which are all live, and
leaves the guarded rows unless it promotes one. -/
theorem scanCandidates_keeps (env : ReconcileEnv) {candidates : List TransactionAttemptRecord}
    (hcandidates : ∀ candidate ∈ candidates, candidate ∈ rivals db₀.aggregate)
    (hrows : guardedRows db = guardedRows db₀) (h : Keeps db₀ db) :
    Keeps db₀ (scanCandidates env db₀.aggregate candidates db).1 ∧
      ((scanCandidates env db₀.aggregate candidates db).2 = .ok none →
        guardedRows (scanCandidates env db₀.aggregate candidates db).1 = guardedRows db₀) := by
  induction candidates generalizing db with
  | nil => exact ⟨h, fun _ => hrows⟩
  | cons candidate rest ih =>
      have hrest := fun c hc => hcandidates c (List.mem_cons_of_mem candidate hc)
      obtain ⟨hmem, hcandidate⟩ := List.mem_filter.mp (hcandidates candidate List.mem_cons_self)
      rw [decide_eq_true_eq] at hcandidate
      have hlive : ∃ before ∈ db₀.attempts, before.Live db₀ ∧ before.id = candidate.id :=
        ⟨candidate, hmem, Or.inr (Or.inl hcandidate.1), rfl⟩
      simp only [scanCandidates]
      split
      · exact ih hrest hrows h
      next input hj =>
        obtain ⟨_, -, -, hid, -⟩ := judgeCandidate_update hj
        refine ih hrest hrows (h.probed (by rw [hid]; exact hlive) ?_)
        rw [hid, show db.intent = db₀.intent from congrArg Prod.snd hrows]
        exact hcandidate.2
      next input hj =>
        obtain ⟨_, _, -, -, -, -, -, hattempt, -⟩ := judgeCandidate_promote hj
        split
        next e he => exact ⟨h, fun hnone => by cases hnone⟩
        next promoted hp =>
          obtain ⟨-, -, rfl⟩ := promoteAttemptProjection_ok hp
          exact ⟨h.promoted (by rw [hattempt]; exact hlive), fun hnone => by cases hnone⟩

/-- The projection step after the scan. -/
theorem Keeps.settled {env : ReconcileEnv} {view : IntentAggregate} {txHash : String}
    (hcur : Current view db) (h : Keeps db₀ db) :
    Keeps db₀ (settle db (reconcileProjection env view txHash db)).1 := by
  cases hp : reconcileProjection env view txHash db with
  | error e => exact h
  | ok written =>
      obtain ⟨t, result⟩ := written
      obtain ⟨input, rfl, rfl⟩ := reconcileProjection_writes hp
      exact h.applied hcur

/-- **A reconciliation**, promoting or not, failed or not. -/
theorem serviceReconcile_keeps (env : ReconcileEnv) (hm : StatusesMirrored db) :
    Keeps db (serviceReconcile env db).1 := by
  have hself : Keeps db db := ⟨.refl db, rfl, hm⟩
  obtain ⟨hkeeps, hunpromoted⟩ := scanCandidates_keeps env (fun _ hmem => hmem) rfl hself
  have hpath := serviceReconcile_path env db
  generalize serviceReconcile env db = run at hpath ⊢
  cases hpath with
  | unprepared htx => exact hself
  | unconfigured hurls => exact hself
  | failed hscan =>
      rw [hscan] at hkeeps
      exact hkeeps
  | kept htx hscan =>
      rw [hscan] at hkeeps hunpromoted
      have hrows := hunpromoted rfl
      exact hkeeps.settled ⟨(congrArg Prod.fst hrows).symm, (congrArg Prod.snd hrows).symm⟩
  | cleared hscan htx =>
      rw [hscan] at hkeeps
      exact hkeeps
  | @promoted scanned promoted txHash hscan htx =>
      rw [hscan] at hkeeps
      obtain rfl := scanCandidates_promoted hscan
      exact hkeeps.settled scanned.current

end Operations

/-! ## Attaching -/

section Attach

variable {w : World Store} {t : Store} {input : AttachInput}

/-- What the replacement guard leaves: a transaction that may be on the wire is only replaced by an
RBF replacement, and that shares an input with the active attempt. -/
theorem replacementGuard_ok (hcreate : input.creatingAttempt = true)
    (hsome : input.currentHash.isSome) (h : input.replacementGuard = .ok ()) :
    (input.kind ≠ .rbfReplacement → input.potentiallyLive = false) ∧
      (input.kind = .rbfReplacement → ∃ parent, input.aggregate.activeAttempt = some parent ∧
        AttachInput.sharesInput input.persistedInputs parent.inputOutPoints = true) := by
  rw [AttachInput.replacementGuard, if_pos ⟨hcreate, hsome⟩] at h
  split at h
  · cases h
  · split at h
    · cases h
    · split at h
      · cases h
      next hlive =>
        refine ⟨fun hkind => ?_, fun hkind => ?_⟩
        · exact (Bool.not_eq_true _).mp fun hpotentially => hlive ⟨hpotentially, hkind⟩
        · rw [if_pos hkind] at h
          split at h
          · cases h
          next parent hparent =>
            split at h
            · cases h
            · split at h
              · cases h
              next hshares =>
                exact ⟨parent, hparent, (Bool.not_eq_false _).mp hshares⟩

theorem potentiallyLive_of_onWire
    (h : input.aggregate.execution.submissionStatus.onWire = true) :
    input.potentiallyLive = true := by
  unfold AttachInput.potentiallyLive
  cases hs : input.aggregate.execution.submissionStatus with
  | notSubmitted | prepared | nodeRejected =>
      rw [hs] at h
      cases h
  | broadcasting | submissionUnknown | submitted => simp [hs]

theorem persistedInputs_supplied (h : input.inputOutPoints.getD [] ≠ []) :
    input.persistedInputs = input.inputOutPoints.getD [] := by
  unfold AttachInput.persistedInputs
  cases hi : input.inputOutPoints with
  | none =>
      rw [hi] at h
      exact absurd rfl h
  | some items =>
      cases items with
      | nil =>
          rw [hi] at h
          exact absurd rfl h
      | cons item rest => rfl

/-- Recorded inputs: some, and in normal form. -/
def Filled (db : Store) : Prop :=
  ∀ e ∈ db.evidence, e.2.1 ≠ [] ∧ ∀ o ∈ e.2.1, NormalHash o.txHash

/-- **A transaction with recorded inputs is not attached again**: its roles are built anew, and
compared as text with the stored ones. -/
theorem reattach_refused (hi : EvidenceRows w) (hf : Filled w.current) {req : AttachRequest}
    {normalized : NormalizedAttach} (hn : req.normalize = .ok normalized)
    (hcarries : req.inputOutPoints.getD [] ≠ [] ∨
      w.current.execution.txHash = some normalized.txHash)
    (hhash : input.txHash = normalized.txHash)
    (hinputs : input.inputOutPoints = normalized.inputOutPoints)
    (hrefs : input.inputRefs = normalized.inputRefs) (hcur : Current input.aggregate w.current)
    {existing : TransactionAttemptRecord} (hmem : existing ∈ w.current.attempts)
    (hsame : existing.txHash = input.txHash) : input.existingGuard existing ≠ .ok () := by
  have hpersists : input.persistedInputs ≠ [] := by
    rcases hcarries with hsupplied | hprojected
    · have hne := (normalizeOptional_inputs (AttachRequest.normalize_ok hn).2.1).2 hsupplied
      rw [← hinputs] at hne
      rw [persistedInputs_supplied hne]
      exact hne
    · -- without a list, the recorded inputs are persisted again
      have hsameHash : input.sameHash = true := by
        rw [AttachInput.sameHash, AttachInput.currentHash, hcur.execution, hprojected, hhash]
        simp
      intro hnone
      have hempty := (AttachInput.persistedInputs_eq_nil hsameHash).mp hnone
      rw [hcur.execution] at hempty
      have hrow := hi.projected hmem (by rw [hprojected, hsame, hhash])
      refine (hf existing.evidence (List.mem_map_of_mem hmem)).1 ?_
      rw [hrow]
      exact hempty.2
  have hbuilt := normalized_built hn
  rw [← hrefs] at hbuilt
  have hstored := (hi.stored existing.evidence (List.mem_map_of_mem hmem)).2
  rw [AttachInput.existingGuard_of_built hbuilt hstored (Or.inr hpersists)]
  intro h
  cases h

/-- Everything the calls keep: exclusion, the mirrored statuses and the recorded inputs. -/
structure Contended (db : Store) : Prop where
  exclusive : Exclusive db
  mirrored : StatusesMirrored db
  filled : Filled db

/-- An earlier attempt that is live beside a new one shares an input with it. -/
theorem inserted_shares (hi : EvidenceRows w) (hc : Contended w.current)
    (hcur : Current input.aggregate w.current) (hview : input.aggregate = w.current.aggregate)
    (hnew : ∀ attempt ∈ w.current.attempts, attempt.txHash ≠ input.txHash)
    (hguard : input.replacementGuard = .ok ()) (hinsert : input.insertGuard w.current = .ok ())
    (hnormal : ∀ o ∈ input.persistedInputs, NormalHash o.txHash)
    (hexcludes : ∀ attempt ∈ w.current.contenders,
      SharesInput input.persistedInputs attempt.inputOutPoints)
    {attempt : TransactionAttemptRecord} (hmem : attempt ∈ input.insertedAttempts w.current)
    (hlive : attempt.disposition = .active ∨ attempt.exposed = true) :
    attempt = input.newAttempt w.current ∨
      (attempt.id ≠ input.freshId ∧ ∃ before ∈ w.current.attempts, before.Live w.current ∧
        before.id = attempt.id ∧ before.inputOutPoints = attempt.inputOutPoints ∧
        SharesInput (input.newAttempt w.current).inputOutPoints attempt.inputOutPoints) := by
  rcases mem_insertedAttempts hinsert hmem with hsame | ⟨hfresh, before, hbefore, hid, heq⟩
  · exact Or.inl hsame
  refine Or.inr ⟨hfresh, before, hbefore, ?_⟩
  have hids := hi.rows.attemptIds
  by_cases hactive : some before.id = w.current.intent.activeAttemptId
  · -- the active attempt: the guard speaks of it
    have htx := hi.rows.points.active hi.rows.ids hbefore hactive
    have hcreate := hi.rows.points.creates hcur hnew
    have hsome : input.currentHash.isSome := by
      rw [AttachInput.currentHash, hcur.execution, htx]
      rfl
    obtain ⟨hdead, hshares⟩ := replacementGuard_ok hcreate hsome hguard
    by_cases hkind : input.kind = .rbfReplacement
    · rw [if_neg fun hboth => hboth.1 hkind] at heq
      subst heq
      obtain ⟨parent, hparent, hoverlap⟩ := hshares hkind
      have hone : parent = attempt := by
        rw [hview] at hparent
        have hfound : findAttempt w.current.attempts w.current.intent.activeAttemptId = some parent :=
          hparent
        rw [← hactive, findAttempt, Option.bind_some] at hfound
        have hname : parent.id = attempt.id := by simpa using List.find?_some hfound
        exact List.inj_on_of_nodup_map hids (List.mem_of_find?_eq_some hfound) hbefore hname
      subst hone
      have hown := (hc.filled parent.evidence (List.mem_map_of_mem hbefore)).2
      exact ⟨Or.inl hactive, rfl, rfl, (sharesInput_of_guard hnormal hown hoverlap).stored⟩
    · exfalso
      rw [if_pos ⟨hkind, by rw [hcur.intent]; exact hactive⟩] at heq
      subst heq
      rcases hlive with hdisposition | hexposed
      · exact priorAttemptDisposition_ne_active _ hdisposition
      · have hstatus := hc.mirrored before hbefore hactive
        simp only [TransactionAttemptRecord.statuses, ExecutionRecord.statuses,
          Statuses.mk.injEq] at hstatus
        simp only [TransactionAttemptRecord.exposed, Bool.and_eq_true] at hexposed
        have honWire := hexposed.1.1
        rw [hstatus.1, ← hcur.execution] at honWire
        exact absurd ((potentiallyLive_of_onWire honWire).symm.trans (hdead hkind)) (by decide)
  · rw [if_neg fun hboth => hactive (by rw [← hcur.intent]; exact hboth.2)] at heq
    subst heq
    have hcontends : attempt ∈ w.current.contenders := by
      rw [Store.contenders, List.mem_filter, Bool.and_eq_true, Bool.or_eq_true, decide_eq_true_eq,
        decide_eq_true_eq]
      exact ⟨hbefore, hactive, hlive⟩
    exact ⟨Or.inr hlive, rfl, rfl, (hexcludes attempt hcontends).stored⟩

/-- The store with the new row. -/
theorem contended_inserted (hi : EvidenceRows w) (hc : Contended w.current)
    (hview : input.aggregate = w.current.aggregate)
    (hnew : ∀ attempt ∈ w.current.attempts, attempt.txHash ≠ input.txHash)
    (hguard : input.replacementGuard = .ok ()) (hinsert : input.insertGuard w.current = .ok ())
    (hnormal : ∀ o ∈ input.persistedInputs, NormalHash o.txHash) (hne : input.persistedInputs ≠ [])
    (hexcludes : ∀ attempt ∈ w.current.contenders,
      SharesInput input.persistedInputs attempt.inputOutPoints)
    (hw : attachTransaction input w.current = .ok t)
    (ht : t = input.attachedStore w.current input.freshId (AttachInput.nextAttemptNumber w.current)
      (input.insertedAttempts w.current)) : Contended t where
  exclusive := by
    have hcur : Current input.aggregate w.current := by rw [hview]; exact w.current.current
    have hrow : ∀ attempt ∈ t.attempts, attempt.Live t →
        attempt = input.newAttempt w.current ∨
          (attempt.id ≠ input.freshId ∧ ∃ before ∈ w.current.attempts, before.Live w.current ∧
            before.id = attempt.id ∧ before.inputOutPoints = attempt.inputOutPoints ∧
            SharesInput (input.newAttempt w.current).inputOutPoints attempt.inputOutPoints) := by
      subst ht
      intro attempt hmem hlive
      rcases hlive with hpointer | hlive
      · rcases mem_insertedAttempts hinsert hmem with hsame | ⟨hfresh, -⟩
        · exact Or.inl hsame
        · exact absurd (Option.some.inj hpointer) hfresh
      · exact inserted_shares hi hc hcur hview hnew hguard hinsert hnormal hexcludes hmem hlive
    intro a ha b hb halive hblive hid
    rcases hrow a ha halive with rfl | ⟨-, a', ha', ha'live, haid, hainputs, hashares⟩
    · rcases hrow b hb hblive with rfl | ⟨-, _, -, -, -, -, hbshares⟩
      · exact absurd rfl hid
      · exact hbshares
    · rcases hrow b hb hblive with rfl | ⟨-, b', hb', hb'live, hbid, hbinputs, -⟩
      · exact hashares.symm
      · rw [← hainputs, ← hbinputs]
        exact hc.exclusive a' ha' b' hb' ha'live hb'live (by rw [haid, hbid]; exact hid)
  mirrored := by
    have hcur : Current input.aggregate w.current := by rw [hview]; exact w.current.current
    rw [statusesMirrored_attached hi.rows hcur hc.mirrored hw]
    intro attempt hmem hsame
    exact absurd hsame (hnew attempt hmem)
  filled := by
    subst ht
    intro e he
    rw [Store.evidence, AttachInput.attachedStore, insertedAttempts_kept statusFree_evidence] at he
    rcases List.mem_append.mp he with hold | hlast
    · exact hc.filled e hold
    · rw [List.mem_singleton] at hlast
      subst hlast
      refine ⟨?_, ?_⟩
      · intro hnil
        exact hne (List.map_eq_nil_iff.mp hnil)
      · intro o ho
        obtain ⟨o', ho', rfl⟩ := List.mem_map.mp ho
        exact hnormal o' ho'

/-- **An accepted attach** of a transaction that shares an input with every contender. -/
theorem contended_attached (hi : EvidenceRows w) (hc : Contended w.current) {req : AttachRequest}
    {freshId : String} {now : Int} (hcarries : (Call.attach req freshId now).carriesInputs w.current)
    (hexcludes : (Call.attach req freshId now).excludesContenders w.current)
    (h : serviceAttachTransaction req freshId now w.current = .ok t) : Contended t := by
  unfold serviceAttachTransaction at h
  split at h
  · cases h
  next normalized hn =>
    obtain ⟨after, -, -, hw⟩ := attachAttempt_ok h
    obtain ⟨hhash, hinputs, -⟩ := AttachRequest.normalize_ok hn
    generalize hinput : normalized.input w.current.aggregate freshId now
      (snapshotFromExecution w.current.aggregate.execution) after = input at hw
    have hview : input.aggregate = w.current.aggregate := by rw [← hinput]; rfl
    have hcur : Current input.aggregate w.current := by rw [hview]; exact w.current.current
    have hnamed : input.txHash = normalized.txHash := by rw [← hinput]; rfl
    have hsupplied : input.inputOutPoints = normalized.inputOutPoints := by rw [← hinput]; rfl
    obtain ⟨hguard, -, -, ⟨existing, _, hmem, hsame, hexisting, -⟩ | ⟨hnew, hinsert, ht⟩⟩ :=
      attachTransaction_ok hw
    · refine absurd hexisting (reattach_refused hi hc.filled hn ?_ hnamed hsupplied
        (by rw [← hinput]; rfl) hcur hmem hsame)
      rcases hcarries with hbrings | ⟨hash, hown, hprojected⟩
      · exact Or.inl hbrings
      · rw [Except.ok.inj (hown.symm.trans hhash)] at hprojected
        exact Or.inr hprojected
    · -- a transaction without a row is not the projected one, so it comes with its inputs
      have hbrings : req.inputOutPoints.getD [] ≠ [] := by
        rcases hcarries with hbrings | ⟨hash, hown, hprojected⟩
        · exact hbrings
        · have hcreate := (creatingAttempt_iff hcur).mp (hi.rows.points.creates hcur hnew)
          rw [hnamed, ← Except.ok.inj (hown.symm.trans hhash)] at hcreate
          exact absurd hprojected hcreate
      obtain ⟨hnormal, hnonempty⟩ := normalizeOptional_inputs hinputs
      have hpersisted : input.persistedInputs = normalized.inputOutPoints.getD [] := by
        rw [persistedInputs_supplied (by rw [hsupplied]; exact hnonempty hbrings), hsupplied]
      rw [← hpersisted] at hnormal
      have hne : input.persistedInputs ≠ [] := by rw [hpersisted]; exact hnonempty hbrings
      refine contended_inserted hi hc hview hnew hguard hinsert hnormal hne ?_ hw ht
      rw [hpersisted]
      exact hexcludes _ hinputs

end Attach

/-! ## Every sequence of calls -/

section Runs

variable {db t : Store} {call : Call}

/-- An answered call is a run of the machine. -/
theorem Called.run (h : Called db call t) (past : List Store) :
    ∃ acts w, Run AloneStep ⟨db, past⟩ acts w ∧ w.current = t := by
  cases h with
  | attach h => exact ⟨_, _, Run.single ⟨rfl, serviceAttachTransaction_step h⟩, rfl⟩
  | mark h => exact ⟨_, _, Run.single ⟨rfl, serviceMarkSubmission_step h⟩, rfl⟩
  | reconcile env => exact serviceReconcile_run env db past

/-- A call that attaches nothing keeps everything. -/
theorem Contended.kept (hc : Contended db) (hids : (db.attempts.map (·.id)).Nodup)
    (h : Keeps db t) : Contended t where
  exclusive := hc.exclusive.kept hids h.evidence h.live
  mirrored := h.mirrored
  filled := by
    rw [Filled, h.evidence]
    exact hc.filled

/-- **One call.** -/
theorem Contended.step {w : World Store} (hi : EvidenceRows w) (hc : Contended w.current)
    (hcarries : call.carriesInputs w.current) (hexcludes : call.excludesContenders w.current)
    (h : Called w.current call t) : Contended t := by
  cases h with
  | attach h => exact contended_attached hi hc hcarries hexcludes h
  | mark h =>
      refine hc.kept hi.rows.attemptIds ?_
      unfold serviceMarkSubmission at h
      split at h
      · cases h
      · obtain ⟨after, -, -, -, -, rfl⟩ := markAttempt_ok h
        exact keeps_marked w.current.current hc.mirrored
  | reconcile env => exact hc.kept hi.rows.attemptIds (serviceReconcile_keeps env hc.mirrored)

theorem contended_created (req : CreateRequest) : Contended (serviceCreateIntent req) where
  exclusive := by
    intro a ha
    cases ha
  mirrored := by
    intro attempt hmem
    cases hmem
  filled := by
    intro e he
    cases he

/-- **At most one attempt commits**: over any sequence of calls whose transactions share an input with
every contender, any two attempts on the wire exclude each other. -/
theorem wire_exclusive {req : CreateRequest} {calls : List Call} {db : Store}
    (h : Run (Runs.when (fun db call => call.carriesInputs db ∧ call.excludesContenders db) Called)
      (serviceCreateIntent req) calls db) : WireExclusive db := by
  have hboth : (∃ past, EvidenceRows ⟨db, past⟩) ∧ Contended db := by
    refine h.inv (fun db => (∃ past, EvidenceRows ⟨db, past⟩) ∧ Contended db)
      ⟨⟨[], evidenceRows_opening req⟩, contended_created req⟩ ?_
    rintro db call t ⟨⟨past, hi⟩, hc⟩ ⟨⟨hcarries, hexcludes⟩, hcall⟩
    refine ⟨?_, hc.step hi hcarries hexcludes hcall⟩
    obtain ⟨acts, ⟨current, past'⟩, hrun, rfl⟩ := hcall.run past
    exact ⟨past', (ordered_of_alone hrun).inv EvidenceRows hi fun _ _ _ hi hst => hi.step hst⟩
  exact hboth.2.exclusive.wire

open Scenario

theorem called_of_commit {req : AttachRequest} {freshId : String} {now : Int}
    (h : (Op.attach req freshId now).commit db.aggregate db = some t) :
    Called db (.attach req freshId now) t := by
  obtain ⟨normalized, hn, ha⟩ := Op.attach_commit h
  refine .attach ?_
  unfold serviceAttachTransaction
  rw [hn]
  exact ha

/-- The inputs a request brings share one with every contender. -/
def AttachRequest.excludes (req : AttachRequest) (db : Store) : Bool :=
  (normalizeOptional normalizeOutPointRefs req.inputOutPoints).toOption.all fun inputs =>
    db.contenders.all fun attempt => decide (SharesInput (inputs.getD []) attempt.inputOutPoints)

theorem AttachRequest.excludesContenders {req : AttachRequest} {freshId : String} {now : Int}
    (h : req.excludes db = true) : (Call.attach req freshId now).excludesContenders db := by
  intro inputs hinputs attempt hmem
  unfold excludes at h
  rw [hinputs] at h
  exact of_decide_eq_true (List.all_eq_true.mp h attempt hmem)

/-- The attach of a request whose hash is in lower case already, at time 0. -/
def AttachRequest.op (req : AttachRequest) : Op := .attach req req.txHashInput 0

/-- Requests are checked and accepted, one after the other. -/
def accepted (check : Store → AttachRequest → Bool) : Store → List AttachRequest → Bool
  | _, [] => true
  | db, req :: rest =>
      check db req && (req.op.commit db.aggregate db).isSome &&
        accepted check (perform db req.op) rest

theorem run_of_accepted {check : Store → AttachRequest → Bool} {ok : Store → Call → Prop}
    (hcheck : ∀ db req, check db req = true → ok db (.attach req req.txHashInput 0))
    {requests : List AttachRequest} (h : accepted check db requests = true) :
    ∃ calls, Run (Runs.when ok Called) db calls
      (requests.foldl (fun db req => perform db req.op) db) := by
  induction requests generalizing db with
  | nil => exact ⟨[], .start⟩
  | cons req rest ih =>
      simp only [accepted, Bool.and_eq_true] at h
      obtain ⟨calls, hrun⟩ := ih h.2
      have hone : Run (Runs.when ok Called) db [_] (perform db req.op) :=
        Run.single ⟨hcheck db req h.1.1, called_of_commit (perform_commit h.1.2)⟩
      exact ⟨_, hone.append hrun⟩

/-- A transaction sent at once, as a replacement where there is one to replace. -/
def sent (c : Char) (kind : Option AttemptKind) (inputs : List OutPointRef) : AttachRequest where
  txHashInput := hashOf c
  prepared := false
  signedPayloadHashSha256 := none
  inputOutPoints := some inputs
  inputRefs := none
  attemptKind := kind
  parentAttemptId := none
  allowSignedPayloadRevision := false

/-- Two replacements of a transaction. -/
def replacedTwice (second third : List OutPointRef) : List AttachRequest :=
  [sent 'a' none [outPoint '1'], sent 'b' (some .rbfReplacement) second,
    sent 'c' (some .rbfReplacement) third]

/-- Where all three spend the same Cell, they exclude each other. -/
theorem wire_exclusive_replacedTwice :
    WireExclusive ((replacedTwice [outPoint '1'] [outPoint '1', outPoint '2']).foldl
      (fun db req => perform db req.op) (serviceCreateIntent (create .committed))) := by
  have haccepted : accepted (fun db req => req.inputOutPoints.getD [] ≠ [] && req.excludes db)
      (serviceCreateIntent (create .committed))
      (replacedTwice [outPoint '1'] [outPoint '1', outPoint '2']) = true := by decide +kernel
  have hcheck : ∀ (db : Store) (req : AttachRequest),
      (req.inputOutPoints.getD [] ≠ [] && req.excludes db) = true →
        (Call.attach req req.txHashInput 0).carriesInputs db ∧
          (Call.attach req req.txHashInput 0).excludesContenders db := by
    intro db req h
    rw [Bool.and_eq_true, decide_eq_true_eq] at h
    exact ⟨Or.inl h.1, AttachRequest.excludesContenders h.2⟩
  have hrun : ∃ calls, Run (Runs.when (fun db call =>
      call.carriesInputs db ∧ call.excludesContenders db) Called) _ calls _ :=
    run_of_accepted hcheck haccepted
  obtain ⟨calls, hrun⟩ := hrun
  exact wire_exclusive hrun

/-- The third transaction shares a Cell with the second and none with the first: two of them can
commit. -/
theorem replacedTwice_not_exclusive : ¬ ∀ (req : CreateRequest) (calls : List Call) (db : Store),
    Run (Runs.when (fun db call => call.carriesInputs db) Called) (serviceCreateIntent req) calls db →
      WireExclusive db := by
  intro h
  have hfacts : accepted (fun _ req => req.inputOutPoints.getD [] ≠ [])
        (serviceCreateIntent (create .committed))
        (replacedTwice [outPoint '1', outPoint '2'] [outPoint '2']) = true ∧
      ∃ a ∈ ((replacedTwice [outPoint '1', outPoint '2'] [outPoint '2']).foldl
          (fun db req => perform db req.op) (serviceCreateIntent (create .committed))).attempts,
        ∃ b ∈ ((replacedTwice [outPoint '1', outPoint '2'] [outPoint '2']).foldl
          (fun db req => perform db req.op) (serviceCreateIntent (create .committed))).attempts,
        a.exposed = true ∧ b.exposed = true ∧ a.id ≠ b.id ∧
          ¬ SharesInput a.inputOutPoints b.inputOutPoints := by
    decide +kernel
  obtain ⟨haccepted, a, ha, b, hb, haexposed, hbexposed, hne, hapart⟩ := hfacts
  have hcheck : ∀ (db : Store) (req : AttachRequest),
      decide (req.inputOutPoints.getD [] ≠ []) = true →
        (Call.attach req req.txHashInput 0).carriesInputs db := by
    intro db req h
    exact Or.inl (of_decide_eq_true h)
  obtain ⟨calls, hrun⟩ := run_of_accepted hcheck haccepted
  exact hapart (h _ calls _ hrun a ha b hb haexposed hbexposed hne)

end Runs

end CellFlow
