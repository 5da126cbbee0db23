/-
# CellFlow.Lib.Regex — regular expressions as `RegExp.prototype.test` searches them.

A pattern is built from single characters, runs of a class, word boundaries, sequences and
alternatives.  `ends` lists every place where a match from a place can end, and `test` searches all
places.  `Spans` says the same about the text that is read, and `test_iff` relates the two; for a
pattern without a boundary that is its language alone.
-/
import Mathlib.Data.List.Basic
import Mathlib.Tactic.Common

namespace Js

/-- Regular expressions over predicates of characters. -/
inductive Regex where
  | empty
  | one (p : Char → Bool)
  | many (p : Char → Bool)
  | boundary
  | seq (a b : Regex)
  | alt (a b : Regex)

/-- A place in a text: the character before it, and the text after it. -/
structure Place where
  prev : Option Char
  rest : List Char
  deriving DecidableEq, Repr

/-- `[A-Za-z0-9_]`. -/
def isWordChar (c : Char) : Bool := c.isAlphanum || c = '_'

/-- `\b`: one side is a word character and the other is not. -/
def isBoundary (prev : Option Char) (rest : List Char) : Bool :=
  prev.any isWordChar != rest.head?.any isWordChar

namespace Regex

/-! ## Searching -/

/-- The places a run of `p` can end at. -/
def manyEnds (p : Char → Bool) : Option Char → List Char → List Place
  | prev, [] => [⟨prev, []⟩]
  | prev, c :: rest => ⟨prev, c :: rest⟩ :: if p c then manyEnds p (some c) rest else []

/-- The places a match from a place can end at. -/
def ends : Regex → Place → List Place
  | .empty, place => [place]
  | .one p, ⟨_, c :: rest⟩ => if p c then [⟨some c, rest⟩] else []
  | .one _, ⟨_, []⟩ => []
  | .many p, ⟨prev, rest⟩ => manyEnds p prev rest
  | .boundary, ⟨prev, rest⟩ => if isBoundary prev rest then [⟨prev, rest⟩] else []
  | .seq a b, place => (ends a place).flatMap (ends b)
  | .alt a b, place => ends a place ++ ends b place

/-- A match from some place on. -/
def testFrom (re : Regex) : Option Char → List Char → Bool
  | prev, [] => !(ends re ⟨prev, []⟩).isEmpty
  | prev, c :: rest => !(ends re ⟨prev, c :: rest⟩).isEmpty || testFrom re (some c) rest

/-- `re.test(text)`. -/
def test (re : Regex) (text : List Char) : Bool := testFrom re none text

/-! ## Building -/

/-- A letter under the flag `i`; the pattern writes it in lower case. -/
def letter (c : Char) : Regex := .one fun d => d.toLower = c

/-- A text under the flag `i`. -/
def lit (text : List Char) : Regex := text.foldr (fun c re => .seq (letter c) re) .empty

/-- `a|b|…`. -/
def oneOf : List Regex → Regex
  | [] => .one fun _ => false
  | [re] => re
  | re :: rest => .alt re (oneOf rest)

/-- `(?:re)?`. -/
def optional (re : Regex) : Regex := .alt re .empty

/-! ## What is read -/

/-- The character before the place behind `w`. -/
def lastOf : Option Char → List Char → Option Char
  | prev, [] => prev
  | _, c :: w => lastOf (some c) w

@[simp] theorem lastOf_nil (prev : Option Char) : lastOf prev [] = prev := rfl

@[simp] theorem lastOf_cons (prev : Option Char) (c : Char) (w : List Char) :
    lastOf prev (c :: w) = lastOf (some c) w := rfl

theorem lastOf_append (prev : Option Char) (u v : List Char) :
    lastOf prev (u ++ v) = lastOf (lastOf prev u) v := by
  induction u generalizing prev with
  | nil => rfl
  | cons c u ih => rw [List.cons_append, lastOf_cons, lastOf_cons, ih]

/-- `w` is read between what stands before and after it. -/
def Spans : Regex → Option Char → List Char → List Char → Prop
  | .empty, _, w, _ => w = []
  | .one p, _, w, _ => ∃ c, w = [c] ∧ p c = true
  | .many p, _, w, _ => ∀ c ∈ w, p c = true
  | .boundary, prev, w, rest => w = [] ∧ isBoundary prev rest = true
  | .seq a b, prev, w, rest =>
      ∃ u v, w = u ++ v ∧ Spans a prev u (v ++ rest) ∧ Spans b (lastOf prev u) v rest
  | .alt a b, prev, w, rest => Spans a prev w rest ∨ Spans b prev w rest

theorem mem_manyEnds {p : Char → Bool} {prev : Option Char} {l : List Char} {q : Place} :
    q ∈ manyEnds p prev l ↔
      ∃ w, l = w ++ q.rest ∧ q.prev = lastOf prev w ∧ ∀ c ∈ w, p c = true := by
  induction l generalizing prev with
  | nil =>
      rw [manyEnds, List.mem_singleton]
      constructor
      · rintro rfl
        exact ⟨[], rfl, rfl, by simp⟩
      · rintro ⟨w, hw, hprev, -⟩
        obtain ⟨rfl, hrest⟩ := List.append_eq_nil_iff.mp hw.symm
        rcases q with ⟨qprev, qrest⟩
        rw [show qrest = [] from hrest, show qprev = prev from hprev]
  | cons c rest ih =>
      rw [manyEnds, List.mem_cons]
      constructor
      · rintro (rfl | hq)
        · exact ⟨[], rfl, rfl, by simp⟩
        · split_ifs at hq with hc
          · obtain ⟨w, rfl, hprev, hw⟩ := ih.mp hq
            refine ⟨c :: w, rfl, ?_, List.forall_mem_cons.mpr ⟨hc, hw⟩⟩
            rw [lastOf_cons, hprev]
          · cases hq
      · rintro ⟨w, hw, hprev, hall⟩
        rcases w with _ | ⟨d, w⟩
        · left
          rcases q with ⟨qprev, qrest⟩
          rw [List.nil_append] at hw
          rw [hw, show qprev = prev from hprev]
        · obtain ⟨rfl, hrest⟩ := List.cons.inj hw
          obtain ⟨hc, hall⟩ := List.forall_mem_cons.mp hall
          right
          rw [if_pos hc]
          exact ih.mpr ⟨w, hrest, by rw [hprev, lastOf_cons], hall⟩

/-- **Where a match ends** is what it reads. -/
theorem mem_ends {re : Regex} {place q : Place} :
    q ∈ ends re place ↔
      ∃ w, place.rest = w ++ q.rest ∧ q.prev = lastOf place.prev w ∧
        Spans re place.prev w q.rest := by
  induction re generalizing place q with
  | empty =>
      rw [ends, List.mem_singleton]
      constructor
      · rintro rfl
        exact ⟨[], rfl, rfl, rfl⟩
      · rintro ⟨w, hrest, hprev, rfl⟩
        rcases place with ⟨prev, rest⟩
        rcases q with ⟨qprev, qrest⟩
        obtain rfl : rest = qrest := hrest
        obtain rfl : qprev = prev := hprev
        rfl
  | one p =>
      rcases place with ⟨prev, rest⟩
      rcases rest with _ | ⟨c, rest⟩
      · refine iff_of_false List.not_mem_nil ?_
        rintro ⟨w, hrest, -, d, rfl, -⟩
        cases hrest
      · rw [ends]
        constructor
        · intro hq
          split_ifs at hq with hc
          · obtain rfl := List.mem_singleton.mp hq
            exact ⟨[c], rfl, rfl, c, rfl, hc⟩
          · cases hq
        · rintro ⟨w, hrest, hprev, d, rfl, hd⟩
          obtain ⟨rfl, htail⟩ := List.cons.inj hrest
          rw [if_pos hd, List.mem_singleton]
          rcases q with ⟨qprev, qrest⟩
          rw [show qrest = rest from htail.symm, show qprev = some c from hprev]
  | many p => exact mem_manyEnds
  | boundary =>
      rcases place with ⟨prev, rest⟩
      rw [ends]
      constructor
      · intro hq
        split_ifs at hq with hb
        · obtain rfl := List.mem_singleton.mp hq
          exact ⟨[], rfl, rfl, rfl, hb⟩
        · cases hq
      · rintro ⟨w, hrest, hprev, rfl, hb⟩
        rcases q with ⟨qprev, qrest⟩
        obtain rfl : rest = qrest := hrest
        obtain rfl : qprev = prev := hprev
        rw [if_pos hb]
        exact List.mem_singleton_self _
  | seq a b iha ihb =>
      rw [ends, List.mem_flatMap]
      constructor
      · rintro ⟨m, hm, hq⟩
        obtain ⟨u, hu, hmprev, ha⟩ := iha.mp hm
        obtain ⟨v, hv, hqprev, hb⟩ := ihb.mp hq
        refine ⟨u ++ v, ?_, ?_, u, v, rfl, ?_, ?_⟩
        · rw [hu, hv, List.append_assoc]
        · rw [hqprev, hmprev, lastOf_append]
        · rw [← hv]
          exact ha
        · rw [← hmprev]
          exact hb
      · rintro ⟨w, hrest, hprev, u, v, rfl, ha, hb⟩
        refine ⟨⟨lastOf place.prev u, v ++ q.rest⟩, ?_, ?_⟩
        · exact iha.mpr ⟨u, by rw [hrest, List.append_assoc], rfl, ha⟩
        · exact ihb.mpr ⟨v, rfl, by rw [hprev, lastOf_append], hb⟩
  | alt a b iha ihb =>
      rw [ends, List.mem_append, iha, ihb]
      constructor
      · rintro (⟨w, hrest, hprev, h⟩ | ⟨w, hrest, hprev, h⟩)
        · exact ⟨w, hrest, hprev, Or.inl h⟩
        · exact ⟨w, hrest, hprev, Or.inr h⟩
      · rintro ⟨w, hrest, hprev, h | h⟩
        · exact Or.inl ⟨w, hrest, hprev, h⟩
        · exact Or.inr ⟨w, hrest, hprev, h⟩

theorem ends_ne_nil_iff {re : Regex} {prev : Option Char} {l : List Char} :
    (!(ends re ⟨prev, l⟩).isEmpty) = true ↔ ∃ w post, l = w ++ post ∧ Spans re prev w post := by
  rw [Bool.not_eq_true', List.isEmpty_eq_false_iff]
  constructor
  · intro hne
    obtain ⟨q, hq⟩ := List.exists_mem_of_ne_nil _ hne
    obtain ⟨w, hrest, -, h⟩ := mem_ends.mp hq
    exact ⟨w, q.rest, hrest, h⟩
  · rintro ⟨w, post, hrest, h⟩
    have hq : (⟨lastOf prev w, post⟩ : Place) ∈ ends re ⟨prev, l⟩ :=
      mem_ends.mpr ⟨w, hrest, rfl, h⟩
    exact List.ne_nil_of_mem hq

/-- **A search succeeds** exactly when some part of the text is read. -/
theorem test_iff {re : Regex} {text : List Char} :
    test re text = true ↔
      ∃ pre w post, text = pre ++ (w ++ post) ∧ Spans re (lastOf none pre) w post := by
  have hfrom : ∀ (l : List Char) (prev : Option Char), testFrom re prev l = true ↔
      ∃ pre w post, l = pre ++ (w ++ post) ∧ Spans re (lastOf prev pre) w post := by
    intro l
    induction l with
    | nil =>
        intro prev
        rw [testFrom, ends_ne_nil_iff]
        constructor
        · rintro ⟨w, post, hl, h⟩
          exact ⟨[], w, post, hl, h⟩
        · rintro ⟨pre, w, post, hl, h⟩
          obtain ⟨rfl, hrest⟩ := List.append_eq_nil_iff.mp hl.symm
          exact ⟨w, post, hrest.symm, h⟩
    | cons c rest ih =>
        intro prev
        rw [testFrom, Bool.or_eq_true, ends_ne_nil_iff, ih]
        constructor
        · rintro (⟨w, post, hl, h⟩ | ⟨pre, w, post, rfl, h⟩)
          · exact ⟨[], w, post, hl, h⟩
          · exact ⟨c :: pre, w, post, rfl, by rwa [lastOf_cons]⟩
        · rintro ⟨pre, w, post, hl, h⟩
          rcases pre with _ | ⟨d, pre⟩
          · exact Or.inl ⟨w, post, hl, h⟩
          · obtain ⟨rfl, hrest⟩ := List.cons.inj hl
            rw [lastOf_cons] at h
            exact Or.inr ⟨pre, w, post, hrest, h⟩
  exact hfrom text none

/-! ## Alternatives -/

theorem spans_oneOf {res : List Regex} {prev : Option Char} {w rest : List Char} :
    Spans (oneOf res) prev w rest ↔ ∃ re ∈ res, Spans re prev w rest := by
  induction res with
  | nil =>
      refine iff_of_false ?_ ?_
      · rintro ⟨c, -, hc⟩
        cases hc
      · rintro ⟨re, hre, -⟩
        cases hre
  | cons re res ih =>
      rcases res with _ | ⟨next, res⟩
      · simp [oneOf]
      · rw [List.exists_mem_cons_iff, ← ih]
        rfl

theorem test_oneOf (res : List Regex) (text : List Char) :
    test (oneOf res) text = res.any fun re => test re text := by
  rw [Bool.eq_iff_iff, test_iff, List.any_eq_true]
  simp only [spans_oneOf, test_iff]
  constructor
  · rintro ⟨pre, w, post, htext, re, hre, h⟩
    exact ⟨re, hre, pre, w, post, htext, h⟩
  · rintro ⟨re, hre, pre, w, post, htext, h⟩
    exact ⟨pre, w, post, htext, re, hre, h⟩

/-! ## Words -/

/-- `word` stands somewhere in the text, in any case. -/
def Mentions (word text : List Char) : Prop :=
  ∃ pre w post, text = pre ++ (w ++ post) ∧ w.map Char.toLower = word

/-- `first` stands in the text and one of `later` after it, with only characters of `p` between. -/
def FollowedBy (p : Char → Bool) (first : List Char) (later : List (List Char))
    (text : List Char) : Prop :=
  ∃ pre u mid v post, text = pre ++ (u ++ (mid ++ (v ++ post))) ∧ u.map Char.toLower = first ∧
    (∀ c ∈ mid, p c = true) ∧ v.map Char.toLower ∈ later

theorem spans_lit {word w rest : List Char} {prev : Option Char} :
    Spans (lit word) prev w rest ↔ w.map Char.toLower = word := by
  induction word generalizing prev w with
  | nil => exact List.map_eq_nil_iff.symm
  | cons c word ih =>
      constructor
      · rintro ⟨u, v, rfl, ⟨d, rfl, hd⟩, hv⟩
        rw [List.singleton_append, List.map_cons, ih.mp hv, of_decide_eq_true hd]
      · intro h
        obtain ⟨d, v, rfl, hd, hv⟩ := List.map_eq_cons_iff.mp h
        exact ⟨[d], v, rfl, ⟨d, rfl, decide_eq_true hd⟩, ih.mpr hv⟩

/-- What may follow a word does not decide whether it is found. -/
theorem test_lit_optional (word : List Char) (re : Regex) (text : List Char) :
    test (.seq (lit word) (optional re)) text = true ↔ Mentions word text := by
  rw [test_iff]
  constructor
  · rintro ⟨pre, w, post, rfl, u, v, rfl, hu, -⟩
    exact ⟨pre, u, v ++ post, by rw [List.append_assoc], spans_lit.mp hu⟩
  · rintro ⟨pre, w, post, rfl, hw⟩
    exact ⟨pre, w, post, rfl, w, [], (List.append_nil w).symm, spans_lit.mpr hw, Or.inr rfl⟩

/-- **One word after another.** -/
theorem test_followedBy (p : Char → Bool) (first : List Char) (later : List (List Char))
    (text : List Char) :
    test (.seq (lit first) (.seq (.many p) (oneOf (later.map lit)))) text = true ↔
      FollowedBy p first later text := by
  rw [test_iff]
  constructor
  · rintro ⟨pre, w, post, rfl, u, w', rfl, hu, mid, v, rfl, hmid, hv⟩
    obtain ⟨re, hre, hre'⟩ := spans_oneOf.mp hv
    obtain ⟨word, hword, rfl⟩ := List.mem_map.mp hre
    refine ⟨pre, u, mid, v, post, ?_, spans_lit.mp hu, hmid, spans_lit.mp hre' ▸ hword⟩
    simp only [List.append_assoc]
  · rintro ⟨pre, u, mid, v, post, rfl, hu, hmid, hv⟩
    refine ⟨pre, u ++ (mid ++ v), post, by simp only [List.append_assoc], u, mid ++ v, rfl,
      spans_lit.mpr hu, mid, v, rfl, hmid, ?_⟩
    exact spans_oneOf.mpr ⟨lit (v.map Char.toLower), List.mem_map_of_mem hv, spans_lit.mpr rfl⟩

end Regex

end Js
