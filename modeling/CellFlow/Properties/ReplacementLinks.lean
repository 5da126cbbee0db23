/-
# CellFlow.Properties.ReplacementLinks — the attempts of an intent, as the API links them.

Over any interleaving of requests and reconciliations, also from old views, attempts are numbered as they
come, and each but the first comes from one before it (`Lineage`).  So the links the API shows hold
together: every attempt goes back to the first, a replacement is shown at both of its ends, and an attempt
is shown replaced by the first of its replacements (`replacement_links`).
-/
import CellFlow.Api.AttemptRows
import CellFlow.Api.Scenario
import CellFlow.Db.PublicView
import Mathlib.Logic.Relation

namespace CellFlow

open Optimistic (World)
open Runs (Run)

/-! ## Lineage -/

/-- What links an attempt to the others. -/
structure AttemptLink where
  id : String
  number : Nat
  parent : Option String
  kind : AttemptKind

/-- How an attempt is linked to its parent. -/
def TransactionAttemptRecord.link (attempt : TransactionAttemptRecord) : AttemptLink :=
  ⟨attempt.id, attempt.attemptNumber, attempt.parentAttemptId, attempt.attemptKind⟩

/-- The links of every attempt, in the order of the rows. -/
def Store.links (db : Store) : List AttemptLink := db.attempts.map (·.link)

/-- Attempts are numbered as they come, and each but the first comes from one before it. -/
inductive Lineage : List AttemptLink → Prop
  | nil : Lineage []
  | snoc {links : List AttemptLink} {link : AttemptLink} (h : Lineage links)
      (hnumber : link.number = links.length + 1)
      (hparent : ∀ id, link.parent = some id → id ∈ links.map (·.id))
      (hroot : link.parent = none → links = []) : Lineage (links ++ [link])

section Links

variable {links : List AttemptLink} {link : AttemptLink}

theorem Lineage.numbers (h : Lineage links) :
    links.map (·.number) = List.range' 1 links.length := by
  induction h with
  | nil => rfl
  | @snoc links last _ hnumber _ _ ih =>
      rw [List.map_append, ih, List.length_append, List.length_singleton, List.range'_1_concat,
        List.map_singleton, hnumber, Nat.add_comm 1]

theorem Lineage.max_number (h : Lineage links) :
    (links.map (·.number)).foldl max 0 = links.length := by
  induction h with
  | nil => rfl
  | @snoc links last _ hnumber _ _ ih =>
      rw [List.map_append, List.foldl_append, ih, List.length_append, List.length_singleton]
      show max links.length last.number = links.length + 1
      omega

theorem Lineage.number_le (h : Lineage links) (hmem : link ∈ links) :
    link.number ≤ links.length := by
  have hin : link.number ∈ List.range' 1 links.length := h.numbers ▸ List.mem_map_of_mem hmem
  have hbound := List.mem_range'_1.mp hin
  omega

/-- A parent comes before its child. -/
theorem Lineage.parent_before (h : Lineage links) (hmem : link ∈ links) {id : String}
    (hid : link.parent = some id) :
    ∃ parent ∈ links, parent.id = id ∧ parent.number < link.number := by
  induction h with
  | nil => cases hmem
  | @snoc links last hbefore hnumber hparent _ ih =>
      rw [List.mem_append, List.mem_singleton] at hmem
      rcases hmem with hmem | rfl
      · obtain ⟨parent, hin, hfacts⟩ := ih hmem
        exact ⟨parent, List.mem_append_left _ hin, hfacts⟩
      · obtain ⟨parent, hin, heq⟩ := List.mem_map.mp (hparent id hid)
        have hle := hbefore.number_le hin
        exact ⟨parent, List.mem_append_left _ hin, heq, by omega⟩

theorem Lineage.root_iff (h : Lineage links) (hmem : link ∈ links) :
    link.parent = none ↔ link.number = 1 := by
  induction h with
  | nil => cases hmem
  | @snoc links last _ hnumber hparent hroot ih =>
      rw [List.mem_append, List.mem_singleton] at hmem
      rcases hmem with hmem | rfl
      · exact ih hmem
      · constructor
        · intro hnone
          rw [hnumber, hroot hnone]
          rfl
        · intro hone
          have hempty : links = [] := List.length_eq_zero_iff.mp (by omega)
          cases hp : link.parent with
          | none => rfl
          | some id =>
              have hin := hparent id hp
              rw [hempty] at hin
              cases hin

end Links

/-! ## Every operation keeps the lineage -/

section Steps

variable {view : IntentAggregate} {db t : Store}

theorem statusFree_link : StatusFree TransactionAttemptRecord.link :=
  fun _ _ _ _ _ _ _ _ _ _ => rfl

/-- The parent of an inserted attempt is an attempt of the intent, however old the view. -/
theorem insertGuard_parent {input : AttachInput} (h : input.insertGuard db = .ok ()) {id : String}
    (hid : input.newParentId = some id) : id ∈ db.attempts.map (·.id) := by
  unfold AttachInput.insertGuard at h
  split_ifs at h with howner hparent hfresh
  have hfound : findAttempt db.attempts (some id) ≠ none := by
    intro hnone
    exact hparent ⟨by rw [hid]; rfl, by rw [hid]; exact hnone⟩
  obtain ⟨attempt, hfind⟩ := Option.ne_none_iff_exists'.mp hfound
  have hname : attempt.id = id := by simpa using List.find?_some hfind
  exact hname ▸ List.mem_map_of_mem (List.mem_of_find?_eq_some hfind)

/-- **An accepted attach** keeps the links, or adds that of a new attempt. -/
theorem Op.attach_lineage {req : AttachRequest} {freshId : String} {now : Int}
    (hpoints : db.Points) (hcur : db.execution.version = view.execution.version → Current view db)
    (hi : Lineage db.links) (h : (Op.attach req freshId now).commit view db = some t) :
    Lineage t.links := by
  obtain ⟨normalized, hn, ha⟩ := Op.attach_commit h
  obtain ⟨after, -, -, hw⟩ := attachAttempt_ok ha
  obtain ⟨-, hversion, -, ⟨existing, number, -, -, -, rfl⟩ | ⟨-, hinsert, rfl⟩⟩ :=
    attachTransaction_ok hw
  · -- the hash has a row already, and an update of it keeps its links
    refine Eq.mpr (congrArg Lineage ?_) hi
    exact updateAttempt_kept (by intro; rfl) _ _
  · show Lineage ((AttachInput.insertedAttempts _ db).map (·.link))
    rw [insertedAttempts_kept statusFree_link]
    refine .snoc hi ?_ (fun id hid => ?_) fun hnone => ?_
    · show AttachInput.nextAttemptNumber db = db.links.length + 1
      rw [← hi.max_number, Store.links, List.map_map]
      rfl
    · -- the transaction looks the parent up in the rows it finds, not in the view
      have hparent := insertGuard_parent hinsert hid
      rw [List.map_map]
      exact hparent
    · -- the view had no active attempt, and the row it read is the one it writes
      have hactive : view.intent.activeAttemptId = none := (Option.or_eq_none_iff.mp hnone).2
      rw [(hcur hversion).intent] at hactive
      rcases hpoints with ⟨hnil, -, -⟩ | ⟨key, -, hsome, -⟩
      · rw [Store.attemptKeys, List.map_eq_nil_iff] at hnil
        rw [hnil]
        rfl
      · rw [hsome] at hactive
        cases hactive

/-- **One operation.** -/
theorem Lineage.step {w w' : World Store} {act : Act}
    (hconsistent : w.Consistent rowVersion guardedRows) (hrows : RowsInv w)
    (hi : Lineage w.current.links) (h : Step w act w') : Lineage w'.current.links := by
  obtain ⟨hview, -, t, hc, rfl⟩ := h
  rw [World.commit_current]
  by_cases hop : ∃ req freshId now, act.op = .attach req freshId now
  · obtain ⟨req, freshId, now, hop⟩ := hop
    rw [hop] at hc
    exact Op.attach_lineage hrows.points (current_of_version hconsistent hview) hi hc
  · have hkept := Op.other_kept statusFree_link
      (fun req freshId now heq => hop ⟨req, freshId, now, heq⟩) hc
    rw [Store.links, hkept]
    exact hi

/-- **Every run**, with every state a read may have been of. -/
theorem lineage_run {req : CreateRequest} {acts : List Act} {w : World Store}
    (h : Run Step (opening req) acts w) :
    ∀ db ∈ w.views, Lineage db.links ∧ (db.attempts.map (·.id)).Nodup := by
  have hopening : ∀ db ∈ (opening req).views,
      Lineage db.links ∧ (db.attempts.map (·.id)).Nodup := by
    intro db hdb
    rw [opening, World.views, List.mem_singleton] at hdb
    rw [hdb]
    exact ⟨.nil, List.nodup_nil⟩
  have hall : w.Consistent rowVersion guardedRows ∧ RowsInv w ∧
      ∀ db ∈ w.views, Lineage db.links ∧ (db.attempts.map (·.id)).Nodup := by
    refine h.inv (fun w => w.Consistent rowVersion guardedRows ∧ RowsInv w ∧
      ∀ db ∈ w.views, Lineage db.links ∧ (db.attempts.map (·.id)).Nodup)
      ⟨consistent_opening req, rowsInv_opening req, hopening⟩ ?_
    rintro w act w' ⟨hconsistent, hrows, hi⟩ hst
    have hcurrent := (hi w.current (World.current_mem_views _)).1
    have hafter := hcurrent.step hconsistent hrows hst
    have hids := (hrows.step hst).attemptIds
    refine ⟨Step.consistent hconsistent hst, hrows.step hst, ?_⟩
    obtain ⟨-, -, t, -, rfl⟩ := hst
    intro db hdb
    rw [World.views_commit, List.mem_cons] at hdb
    rcases hdb with rfl | hdb
    · exact ⟨hafter, hids⟩
    · exact hi db hdb
  exact hall.2.2

end Steps

/-! ## What the API shows -/

/-- An attempt goes back to another by the parents shown. -/
def ComesFrom (attempts : List PublicAttempt) : PublicAttempt → PublicAttempt → Prop :=
  Relation.ReflTransGen fun child parent =>
    parent ∈ attempts ∧ child.parentAttemptId = some parent.id

/-- What the links shown of the attempts of an intent say. -/
structure LinksHold (attempts : List PublicAttempt) : Prop where
  numbered : attempts.map (·.attemptNumber) = List.range' 1 attempts.length
  ids : (attempts.map (·.id)).Nodup
  /-- the first attempt, and no other, has no parent -/
  root : ∀ attempt ∈ attempts, attempt.parentAttemptId = none ↔ attempt.attemptNumber = 1
  /-- a parent is an earlier attempt -/
  parent : ∀ attempt ∈ attempts, ∀ id, attempt.parentAttemptId = some id →
    ∃ parent ∈ attempts, parent.id = id ∧ parent.attemptNumber < attempt.attemptNumber
  ancestry : ∀ attempt ∈ attempts, ∃ first ∈ attempts, first.attemptNumber = 1 ∧
    ComesFrom attempts attempt first
  /-- what an attempt is shown replaced by replaces it, and is the first to -/
  replaced : ∀ attempt ∈ attempts, ∀ id, attempt.replacedByAttemptId = some id →
    ∃ replacement ∈ attempts, replacement.id = id ∧
      replacement.replacesAttemptId = some attempt.id ∧
      attempt.attemptNumber < replacement.attemptNumber ∧
      ∀ other ∈ attempts, other.replacesAttemptId = some attempt.id →
        replacement.attemptNumber ≤ other.attemptNumber
  /-- what an attempt replaces is shown replaced -/
  replaces : ∀ replacement ∈ attempts, ∀ id, replacement.replacesAttemptId = some id →
    ∃ attempt ∈ attempts, attempt.id = id ∧ attempt.replacedByAttemptId.isSome = true

section Shown

variable {attempts : List TransactionAttemptRecord} {attempt : TransactionAttemptRecord}

theorem replaces_iff {id : String} : (publicAttempt attempts attempt).replacesAttemptId = some id ↔
    attempt.attemptKind = .rbfReplacement ∧ attempt.parentAttemptId = some id := by
  show (if attempt.attemptKind = .rbfReplacement then attempt.parentAttemptId else none) = some id ↔ _
  split
  next hkind => exact ⟨fun h => ⟨hkind, h⟩, And.right⟩
  next hother =>
    constructor
    · intro h
      cases h
    · intro h
      exact absurd h.1 hother

theorem parent_attempt (hl : Lineage (attempts.map (·.link))) (hmem : attempt ∈ attempts)
    {id : String} (hid : attempt.parentAttemptId = some id) :
    ∃ parent ∈ attempts, parent.id = id ∧ parent.attemptNumber < attempt.attemptNumber := by
  obtain ⟨link, hin, hfacts⟩ := hl.parent_before (List.mem_map_of_mem hmem) hid
  obtain ⟨parent, hparent, rfl⟩ := List.mem_map.mp hin
  exact ⟨parent, hparent, hfacts⟩

theorem attempts_numbered (hl : Lineage (attempts.map (·.link))) :
    attempts.map (·.attemptNumber) = List.range' 1 attempts.length := by
  have hnumbers := hl.numbers
  rw [List.map_map, List.length_map] at hnumbers
  exact hnumbers

/-- Parents are earlier, so following them ends at the first attempt. -/
theorem goes_back (hl : Lineage (attempts.map (·.link))) :
    ∀ number, ∀ attempt ∈ attempts, attempt.attemptNumber = number → ∃ first ∈ attempts,
      first.attemptNumber = 1 ∧ ComesFrom (attempts.map (publicAttempt attempts))
        (publicAttempt attempts attempt) (publicAttempt attempts first) := by
  -- on the number of the attempt, which is larger than that of its parent
  intro number
  induction number using Nat.strong_induction_on with
  | _ number ih =>
      rintro attempt hmem rfl
      cases hparent : attempt.parentAttemptId with
      | none =>
          have hone := (hl.root_iff (List.mem_map_of_mem hmem)).mp hparent
          exact ⟨attempt, hmem, hone, .refl⟩
      | some id =>
          obtain ⟨parent, hin, hid, hlt⟩ := parent_attempt hl hmem hparent
          obtain ⟨first, hfirst, hone, hchain⟩ := ih parent.attemptNumber hlt parent hin rfl
          refine ⟨first, hfirst, hone, .head ⟨List.mem_map_of_mem hin, ?_⟩ hchain⟩
          show attempt.parentAttemptId = some parent.id
          rw [hparent, hid]

/-- The first replacement in the list has the least number of them. -/
theorem first_replacement (hl : Lineage (attempts.map (·.link))) {id : String}
    {replacement other : TransactionAttemptRecord}
    (hfind : attempts.find? (fun candidate => candidate.attemptKind = .rbfReplacement ∧
      candidate.parentAttemptId = some id) = some replacement)
    (hother : other ∈ attempts) (hkind : other.attemptKind = .rbfReplacement)
    (hparent : other.parentAttemptId = some id) :
    replacement.attemptNumber ≤ other.attemptNumber := by
  obtain ⟨-, before, rest, hsplit, hbefore⟩ := List.find?_eq_some_iff_append.mp hfind
  have hsorted : (attempts.map (·.attemptNumber)).Pairwise (· < ·) := by
    rw [attempts_numbered hl]
    exact List.pairwise_lt_range'
  rw [hsplit, List.map_append, List.map_cons, List.pairwise_append, List.pairwise_cons] at hsorted
  rw [hsplit, List.mem_append, List.mem_cons] at hother
  -- nothing before it in the list replaces the attempt, and numbers only grow after it
  rcases hother with hin | rfl | hin
  · have hnot := hbefore other hin
    simp [hkind, hparent] at hnot
  · exact Nat.le_refl _
  · exact Nat.le_of_lt (hsorted.2.1.1 _ (List.mem_map_of_mem hin))

theorem links_hold (hl : Lineage (attempts.map (·.link))) (hids : (attempts.map (·.id)).Nodup) :
    LinksHold (attempts.map (publicAttempt attempts)) := by
  constructor
  · rw [List.map_map, List.length_map]
    exact attempts_numbered hl
  · rw [List.map_map]
    exact hids
  · intro shown hshown
    obtain ⟨attempt, hmem, rfl⟩ := List.mem_map.mp hshown
    exact hl.root_iff (List.mem_map_of_mem hmem)
  · intro shown hshown id hid
    obtain ⟨attempt, hmem, rfl⟩ := List.mem_map.mp hshown
    obtain ⟨parent, hin, hfacts⟩ := parent_attempt hl hmem hid
    exact ⟨_, List.mem_map_of_mem hin, hfacts⟩
  · intro shown hshown
    obtain ⟨attempt, hmem, rfl⟩ := List.mem_map.mp hshown
    obtain ⟨first, hfirst, hone, hchain⟩ := goes_back hl _ attempt hmem rfl
    exact ⟨_, List.mem_map_of_mem hfirst, hone, hchain⟩
  · intro shown hshown id hid
    obtain ⟨attempt, hmem, rfl⟩ := List.mem_map.mp hshown
    obtain ⟨replacement, hfind, rfl⟩ := Option.map_eq_some_iff.mp hid
    have hin := List.mem_of_find?_eq_some hfind
    obtain ⟨hkind, hparent⟩ : replacement.attemptKind = .rbfReplacement ∧
        replacement.parentAttemptId = some attempt.id := by
      simpa using List.find?_some hfind
    refine ⟨_, List.mem_map_of_mem hin, rfl, replaces_iff.mpr ⟨hkind, hparent⟩, ?_, ?_⟩
    · -- the parent of the replacement is the attempt itself, since ids are unique
      obtain ⟨parent, hparentIn, hsame, hlt⟩ := parent_attempt hl hin hparent
      obtain rfl : parent = attempt := List.inj_on_of_nodup_map hids hparentIn hmem hsame
      exact hlt
    · intro other hother hreplaces
      obtain ⟨candidate, hcandidate, rfl⟩ := List.mem_map.mp hother
      obtain ⟨hokind, hoparent⟩ := replaces_iff.mp hreplaces
      exact first_replacement hl hfind hcandidate hokind hoparent
  · intro shown hshown id hid
    obtain ⟨replacement, hmem, rfl⟩ := List.mem_map.mp hshown
    obtain ⟨hkind, hparent⟩ := replaces_iff.mp hid
    obtain ⟨attempt, hin, hsame, -⟩ := parent_attempt hl hmem hparent
    refine ⟨_, List.mem_map_of_mem hin, hsame, ?_⟩
    show (Option.map _ (attempts.find? _)).isSome = true
    rw [Option.isSome_map, List.find?_isSome]
    exact ⟨replacement, hmem, by simp [hkind, hparent, hsame]⟩

end Shown

/-- **The links the API shows**, of any state of a run and beside whatever row was read before it. -/
theorem replacement_links {req : CreateRequest} {acts : List Act} {w : World Store}
    (h : Run Step (opening req) acts w) {rows later : Store} (hlater : later ∈ w.views) :
    LinksHold (executionPublicView (rows.read later)).attempts := by
  obtain ⟨hlineage, hids⟩ := lineage_run h later hlater
  exact links_hold hlineage hids

/-- A transaction is tracked and then replaced. -/
def replacedOnce : Store :=
  Scenario.after .committed
    [Scenario.attach 'a' false none [Scenario.outPoint '1'],
      Scenario.attach 'b' false (some .rbfReplacement) [Scenario.outPoint '1']]

theorem replacement_links_once :
    LinksHold (executionPublicView (replacedOnce.read replacedOnce)).attempts ∧
      (executionPublicView (replacedOnce.read replacedOnce)).attempts.map
        (·.replacedByAttemptId) = [some (Scenario.hashOf 'b'), none] := by
  have hcommits : commitsAll (serviceCreateIntent (Scenario.create .committed))
      [Scenario.attach 'a' false none [Scenario.outPoint '1'],
        Scenario.attach 'b' false (some .rbfReplacement) [Scenario.outPoint '1']] = true := by
    decide +kernel
  obtain ⟨acts, past, hrun⟩ := Scenario.run_after hcommits
  exact ⟨replacement_links hrun (World.current_mem_views _), by decide +kernel⟩

end CellFlow
