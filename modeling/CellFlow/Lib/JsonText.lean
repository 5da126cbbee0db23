/-
# CellFlow.Lib.JsonText — a printed JSON value is printed by no other value.

`JSON.stringify` loses nothing: a value is determined by its text (`stringify_injective`).  Objects
count as equal here when their members stand in the same order.  The induction carries what follows
the value: a number is the one value that does not say where it ends, so the rest must begin with a
character that ends it (`Ends`), as the comma and the brackets do.
-/
import CellFlow.Lib.TextCodec

namespace Js

open Json (escape quote)

/-! ## What may follow a value -/

/-- Nothing follows, or a character that ends the value. -/
def Ends (rest : List Char) : Prop := ∀ c ∈ rest.head?, c = ',' ∨ c = ']' ∨ c = '\x7d'

theorem ends_nil : Ends [] := by
  intro c hc
  cases hc

theorem ends_cons {c : Char} (hc : c = ',' ∨ c = ']' ∨ c = '\x7d') (rest : List Char) :
    Ends (c :: rest) := by
  intro d hd
  cases hd
  exact hc

/-! ## Numbers -/

/-- Two runs of digits, each followed by something else. -/
theorem digits_append_inj {l l' r r' : List Char} (hl : ∀ c ∈ l, c.isDigit = true)
    (hl' : ∀ c ∈ l', c.isDigit = true) (hr : ∀ c ∈ r.head?, c.isDigit = false)
    (hr' : ∀ c ∈ r'.head?, c.isDigit = false) (h : l ++ r = l' ++ r') : l = l' ∧ r = r' := by
  have hstop : ∀ {s : List Char}, (∀ c ∈ s.head?, c.isDigit = false) →
      s.takeWhile Char.isDigit = [] := by
    intro s hs
    cases s with
    | nil => rfl
    | cons c s => simp [List.takeWhile, hs c rfl]
  have htake := congrArg (List.takeWhile Char.isDigit) h
  rw [List.takeWhile_append_of_pos hl, List.takeWhile_append_of_pos hl', hstop hr, hstop hr',
    List.append_nil, List.append_nil] at htake
  subst htake
  exact ⟨rfl, List.append_cancel_left h⟩

theorem isDigit_digitChar : ∀ d : Fin 10, (Nat.digitChar d).isDigit = true := by decide

theorem digitChar_inj : ∀ d e : Fin 10, Nat.digitChar d = Nat.digitChar e → d = e := by decide

/-- The point and the fraction of a number. -/
def Number.fractionText (x : Number) : List Char :=
  if x.fraction = [] then [] else '.' :: x.fraction.map fun d : Fin 10 => Nat.digitChar d

/-- A number is its sign, its digits and its fraction. -/
theorem Number.text_eq (x : Number) :
    x.text = (if x.negative then ['-'] else []) ++ (Nat.toDigits 10 x.whole ++ x.fractionText) := by
  have hfraction : List.map (fun d => Nat.digitChar d) (do let a ← x.fraction; pure a.val) =
      x.fraction.map fun d : Fin 10 => Nat.digitChar d := by
    change List.map _ (List.flatMap (fun d : Fin 10 => [d.val]) x.fraction) = _
    rw [← List.map_eq_flatMap, List.map_map]
    rfl
  simp only [Number.text, Number.fractionText, Nat.toString_eq_repr, Nat.toList_repr,
    List.append_assoc]
  rw [hfraction]

theorem digits_isDigit (n : Nat) : ∀ c ∈ Nat.toDigits 10 n, c.isDigit = true :=
  fun _ hc => Nat.isDigit_of_mem_toDigits (by decide) (by decide) hc

/-- The first character of a number is its sign or a digit. -/
theorem Number.head_text (x : Number) (r : List Char) :
    ∃ c rest, x.text ++ r = c :: rest ∧
      (if x.negative then c = '-' else c.isDigit = true) := by
  rw [Number.text_eq]
  cases x.negative with
  | true => exact ⟨_, _, rfl, rfl⟩
  | false =>
      cases hdigits : Nat.toDigits 10 x.whole with
      | nil => exact absurd hdigits Nat.toDigits_ne_nil
      | cons c digits =>
          refine ⟨c, _, rfl, ?_⟩
          exact digits_isDigit x.whole c (by rw [hdigits]; exact List.mem_cons_self)

theorem isDigit_of_ends {r : List Char} (hr : Ends r) : ∀ c ∈ r.head?, c.isDigit = false := by
  intro c hc
  rcases hr c hc with rfl | rfl | rfl <;> decide

/-- The fraction of a number starts with its point, and ends where the number does. -/
theorem Number.fraction_append_inj {x y : Number} {r r' : List Char} (hr : Ends r) (hr' : Ends r')
    (h : x.fractionText ++ r = y.fractionText ++ r') : x.fraction = y.fraction ∧ r = r' := by
  have hpoint : ∀ {z : List (Fin 10)} {s t : List Char}, Ends s →
      s ≠ '.' :: (z.map fun d : Fin 10 => Nat.digitChar d) ++ t := by
    rintro z s t hs rfl
    rcases hs '.' rfl with hc | hc | hc <;> exact absurd hc (by decide)
  unfold Number.fractionText at h
  split at h
  next hx =>
    split at h
    next hy => exact ⟨hx.trans hy.symm, h⟩
    next hy => exact absurd h (hpoint hr)
  next hx =>
    split at h
    next hy => exact absurd h.symm (hpoint hr')
    next hy =>
      have hdigits : ∀ z : List (Fin 10), ∀ c ∈ z.map fun d : Fin 10 => Nat.digitChar d,
          c.isDigit = true := by
        intro z c hc
        obtain ⟨d, -, rfl⟩ := List.mem_map.mp hc
        exact isDigit_digitChar d
      have hsame := digits_append_inj (hdigits x.fraction) (hdigits y.fraction)
        (isDigit_of_ends hr) (isDigit_of_ends hr') (List.cons.inj h).2
      exact ⟨List.map_injective_iff.mpr (fun d e => digitChar_inj d e) hsame.1, hsame.2⟩

/-- **A number** is determined by its text, whatever ends it. -/
theorem Number.text_append_inj {x y : Number} {r r' : List Char} (hr : Ends r) (hr' : Ends r')
    (h : x.text ++ r = y.text ++ r') : x = y ∧ r = r' := by
  have hsign : x.negative = y.negative := by
    obtain ⟨c, rest, hx, hc⟩ := x.head_text r
    obtain ⟨d, rest', hy, hd⟩ := y.head_text r'
    have hhead : c = d := (List.cons.inj (hx.symm.trans (h.trans hy))).1
    subst hhead
    rw [Bool.eq_iff_iff]
    constructor
    · intro hneg
      rw [if_pos hneg] at hc
      by_contra hpos
      rw [if_neg hpos, hc] at hd
      exact absurd hd (by decide)
    · intro hneg
      rw [if_pos hneg] at hd
      by_contra hpos
      rw [if_neg hpos, hd] at hc
      exact absurd hc (by decide)
  have hfraction : ∀ {z : Number} {s : List Char}, Ends s →
      ∀ c ∈ (z.fractionText ++ s).head?, c.isDigit = false := by
    intro z s hs c hc
    unfold Number.fractionText at hc
    split at hc
    · exact isDigit_of_ends hs c hc
    · cases hc
      decide
  rw [Number.text_eq, Number.text_eq, hsign] at h
  rw [List.append_assoc, List.append_assoc, List.append_assoc, List.append_assoc] at h
  have hdigits := digits_append_inj (digits_isDigit x.whole) (digits_isDigit y.whole)
    (hfraction hr) (hfraction hr') (List.append_cancel_left h)
  have hwhole : x.whole = y.whole := by
    have hboth := congrArg (Nat.ofDigitChars 10 · 0) hdigits.1
    simpa only [Nat.ofDigitChars_ten_toDigits] using hboth
  have hrest := Number.fraction_append_inj hr hr' hdigits.2
  refine ⟨?_, hrest.2⟩
  cases x
  cases y
  simp only [Number.mk.injEq]
  exact ⟨hsign, hwhole, hrest.1⟩

/-! ## Texts -/

/-- A quoted text ends at its closing quote. -/
theorem quote_append_inj {s t : String} {r r' : List Char} (h : quote s ++ r = quote t ++ r') :
    s = t ∧ r = r' := by
  have hbody : s.toList.flatMap escape ++ Char.ofNat 34 :: r =
      t.toList.flatMap escape ++ Char.ofNat 34 :: r' := by
    have htail := (List.cons.inj h).2
    rw [← List.append_eq, ← List.append_eq] at htail
    simpa using htail
  have hs := readLiteral_escape
    (Nat.lt_succ_of_le (Nat.le_max_left s.toList.length t.toList.length)) r
  have ht := readLiteral_escape
    (Nat.lt_succ_of_le (Nat.le_max_right s.toList.length t.toList.length)) r'
  rw [hbody, ht] at hs
  have hpair := Option.some.inj hs
  exact ⟨(String.toList_inj.mp (congrArg Prod.fst hpair)).symm, (congrArg Prod.snd hpair).symm⟩

/-! ## Values -/

namespace Json

/-- What the first character of a value says of its kind. -/
def leadKind : List Char → Nat
  | 'n' :: _ => 0
  | 't' :: _ => 1
  | 'f' :: _ => 2
  | '[' :: _ => 3
  | '\x7b' :: _ => 4
  | c :: _ => if c = Char.ofNat 34 then 5 else 6
  | [] => 6

/-- The kind of a value, the two truth values apart. -/
def kind : Json → Nat
  | .null => 0
  | .bool true => 1
  | .bool false => 2
  | .arr _ => 3
  | .obj _ => 4
  | .str _ => 5
  | .num _ => 6

theorem leadKind_render (j : Json) (r : List Char) : leadKind (j.render ++ r) = j.kind := by
  cases j with
  | null => rfl
  | bool b => cases b <;> rfl
  | arr items => rfl
  | obj members => rfl
  | str s => rfl
  | num x =>
      obtain ⟨c, rest, htext, hc⟩ := x.head_text r
      show leadKind (x.text ++ r) = 6
      rw [htext]
      have hcode : c.toNat < 58 ∧ c.toNat ≠ 34 := by
        split at hc
        · rw [hc]
          decide
        · have hdigit := toNat_of_isDigit hc
          omega
      unfold leadKind
      split
      all_goals first
        | (next heq => cases heq; exact absurd hcode (by decide))
        | rfl
        | skip
      next heq =>
        cases heq
        rw [if_neg]
        rintro rfl
        exact absurd hcode (by decide)

/-- The items of an array after its first, and the members of an object, end a value before them. -/
theorem ends_renderItems (items : List Json) (r : List Char) :
    Ends (renderItems items false ++ r) := by
  cases items with
  | nil => exact ends_cons (by decide) _
  | cons j rest => exact ends_cons (by decide) _

theorem ends_renderMembers (members : List (String × Json)) (r : List Char) :
    Ends (renderMembers members false ++ r) := by
  cases members with
  | nil => exact ends_cons (by decide) _
  | cons p rest =>
      obtain ⟨k, j⟩ := p
      exact ends_cons (by decide) _

/-- No value begins with a closing bracket. -/
theorem render_ne_bracket (j : Json) (r s : List Char) : j.render ++ r ≠ ']' :: s := by
  intro h
  cases j with
  | null | arr items | obj members | str s => exact absurd (List.cons.inj h).1 (by decide)
  | bool b => cases b <;> exact absurd (List.cons.inj h).1 (by decide)
  | num x =>
      obtain ⟨c, rest, htext, hc⟩ := x.head_text r
      have hlead := (List.cons.inj (htext.symm.trans h)).1
      subst hlead
      split at hc <;> exact absurd hc (by decide)

/-- A list with items does not print as the empty one. -/
theorem renderItems_ne_nil (j : Json) (rest : List Json) (first : Bool) (r s : List Char) :
    renderItems (j :: rest) first ++ r ≠ renderItems [] first ++ s := by
  cases first with
  | true =>
      show ([] ++ j.render ++ renderItems rest false) ++ r ≠ ']' :: s
      rw [List.nil_append, List.append_assoc]
      exact render_ne_bracket j _ s
  | false =>
      intro h
      exact absurd (List.cons.inj h).1 (by decide)

theorem renderMembers_ne_nil (k : String) (j : Json) (rest : List (String × Json)) (first : Bool)
    (r s : List Char) : renderMembers ((k, j) :: rest) first ++ r ≠ renderMembers [] first ++ s := by
  intro h
  cases first <;> exact absurd (List.cons.inj h).1 (by decide)

mutual

/-- **A value** is determined by its text, whatever ends it. -/
theorem render_append_inj {a b : Json} {r r' : List Char} (hr : Ends r) (hr' : Ends r')
    (h : a.render ++ r = b.render ++ r') : a = b ∧ r = r' := by
  have hkind : a.kind = b.kind := by
    rw [← leadKind_render a r, ← leadKind_render b r', h]
  match a, b with
  | .null, .null => exact ⟨rfl, List.append_cancel_left h⟩
  | .bool true, .bool true => exact ⟨rfl, List.append_cancel_left h⟩
  | .bool false, .bool false => exact ⟨rfl, List.append_cancel_left h⟩
  | .num x, .num y =>
      have hsame := Number.text_append_inj hr hr' h
      exact ⟨congrArg Json.num hsame.1, hsame.2⟩
  | .str s, .str t =>
      have hsame := quote_append_inj h
      exact ⟨congrArg Json.str hsame.1, hsame.2⟩
  | .arr items, .arr items' =>
      have hsame := renderItems_append_inj (List.cons.inj h).2
      exact ⟨congrArg Json.arr hsame.1, hsame.2⟩
  | .obj members, .obj members' =>
      have hsame := renderMembers_append_inj (List.cons.inj h).2
      exact ⟨congrArg Json.obj hsame.1, hsame.2⟩

/-- The items of an array end at its bracket. -/
theorem renderItems_append_inj {items items' : List Json} {first : Bool} {r r' : List Char}
    (h : renderItems items first ++ r = renderItems items' first ++ r') :
    items = items' ∧ r = r' := by
  match items, items' with
  | [], [] => exact ⟨rfl, List.append_cancel_left h⟩
  | [], j :: rest => exact absurd h.symm (renderItems_ne_nil j rest first r' r)
  | j :: rest, [] => exact absurd h (renderItems_ne_nil j rest first r r')
  | j :: rest, j' :: rest' =>
      simp only [renderItems, List.append_assoc] at h
      have hitem := render_append_inj (ends_renderItems rest r) (ends_renderItems rest' r')
        (List.append_cancel_left h)
      have hrest := renderItems_append_inj hitem.2
      exact ⟨by rw [hitem.1, hrest.1], hrest.2⟩

/-- The members of an object end at its brace. -/
theorem renderMembers_append_inj {members members' : List (String × Json)} {first : Bool}
    {r r' : List Char} (h : renderMembers members first ++ r = renderMembers members' first ++ r') :
    members = members' ∧ r = r' := by
  match members, members' with
  | [], [] => exact ⟨rfl, List.append_cancel_left h⟩
  | [], (k, j) :: rest => exact absurd h.symm (renderMembers_ne_nil k j rest first r' r)
  | (k, j) :: rest, [] => exact absurd h (renderMembers_ne_nil k j rest first r r')
  | (k, j) :: rest, (k', j') :: rest' =>
      simp only [renderMembers, List.append_assoc, List.cons_append] at h
      have hkey := quote_append_inj (List.append_cancel_left h)
      have hvalue := render_append_inj (ends_renderMembers rest r) (ends_renderMembers rest' r')
        (List.cons.inj hkey.2).2
      have hrest := renderMembers_append_inj hvalue.2
      exact ⟨by rw [hkey.1, hvalue.1, hrest.1], hrest.2⟩

end

/-- **`JSON.stringify` loses nothing.** -/
theorem stringify_injective {a b : Json} (h : stringify a = stringify b) : a = b := by
  have htext : a.render ++ [] = b.render ++ [] := by
    rw [stringify_inj_render.mp h]
  exact (render_append_inj ends_nil ends_nil htext).1

end Json

end Js
