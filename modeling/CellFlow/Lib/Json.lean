/-
# CellFlow.Lib.Json — JSON values as a JavaScript runtime and a `jsonb` column hold them.

An object is a list of members in the order its keys enumerate, so two objects that are equal as
values may still print to different texts.  `stringify` is `JSON.stringify`, and `Json.jsonb` is the
round trip through a PostgreSQL `jsonb` column: the same value, with the members of every object
ordered by the byte length of their keys and then bytewise.  A read of a member is unaffected by
that round trip (`Json.get?_jsonb`); the printed text is what changes.
-/
import Mathlib.Data.List.Basic

namespace Js

/-! ## Numbers -/

/-- A JSON number by the decimal its text denotes: sign, whole part and fraction digits.  The two
fields state that no two numbers print alike: the fraction has no trailing zero, and zero is not
negative. -/
structure Number where
  negative : Bool
  whole : Nat
  fraction : List (Fin 10)
  trimmed : fraction.getLast? ≠ some 0
  signed : negative = true → whole ≠ 0 ∨ fraction ≠ []
  deriving DecidableEq

/-- An integer as a JSON number. -/
def Number.ofInt (n : Int) : Number where
  negative := decide (n < 0)
  whole := n.natAbs
  fraction := []
  trimmed := by simp
  signed := by
    intro h
    have hneg : n < 0 := by simpa using h
    exact Or.inl (by omega)

/-- `Math.floor`. -/
def Number.floor (x : Number) : Int :=
  if x.negative then
    if x.fraction = [] then -(x.whole : Int) else -(x.whole : Int) - 1
  else x.whole

theorem Number.floor_ofInt (n : Int) : (Number.ofInt n).floor = n := by
  simp only [Number.floor, Number.ofInt]
  by_cases h : n < 0
  · simp only [h, decide_true, if_true]
    omega
  · simp only [h, decide_false, Bool.false_eq_true, if_false]
    omega

/-- `Number.prototype.toString` for numbers it prints without an exponent. -/
def Number.text (x : Number) : List Char :=
  (if x.negative then ['-'] else []) ++ (toString x.whole).toList ++
    (if x.fraction = [] then [] else '.' :: x.fraction.map fun d => Nat.digitChar d)

/-! ## Values -/

/-- A JSON value.  Object members stand in enumeration order. -/
inductive Json where
  | null
  | bool (b : Bool)
  | num (x : Number)
  | str (s : String)
  | arr (items : List Json)
  | obj (members : List (String × Json))

namespace Json

instance : Inhabited Json := ⟨.null⟩

/-- An integer value. -/
def int (n : Int) : Json := .num (.ofInt n)

/-- `value ?? null` for an optional string. -/
def ofOption : Option String → Json
  | some s => .str s
  | none => .null

/-- `value[key]` on an object; any other value has no members (`undefined`). -/
def get? (j : Json) (key : String) : Option Json :=
  match j with
  | .obj members => members.lookup key
  | _ => none

/-- The members an object spread `{ ...value }` copies. -/
def members : Json → List (String × Json)
  | .obj members => members
  | _ => []

/-- `typeof value[key] === "string"`, with that string. -/
def string? (j : Json) (key : String) : Option String :=
  match j.get? key with
  | some (.str s) => some s
  | _ => none

/-- `typeof value[key] === "number"`, with that number. -/
def number? (j : Json) (key : String) : Option Number :=
  match j.get? key with
  | some (.num x) => some x
  | _ => none

/-- `value[key] === true`. -/
def flag (j : Json) (key : String) : Bool :=
  match j.get? key with
  | some (.bool b) => b
  | _ => false

/-- `value[key] ?? fallback`. -/
def getD (j : Json) (key : String) (fallback : Json) : Json :=
  match j.get? key with
  | some .null => fallback
  | some v => v
  | none => fallback

theorem string?_eq_some {j : Json} {key s : String} :
    j.string? key = some s ↔ j.get? key = some (.str s) := by
  unfold string?
  split
  next t ht => simp [ht]
  next hne =>
    simp only [reduceCtorEq, false_iff]
    exact fun h => hne s h

theorem ofOption_eq_str {o : Option String} {s : String} : ofOption o = .str s ↔ o = some s := by
  cases o <;> simp [ofOption]

/-- A text read with a fallback is the fallback, or the member. -/
theorem getD_eq_str {j fallback : Json} {key s : String} (h : j.getD key fallback = .str s) :
    fallback = .str s ∨ j.string? key = some s := by
  rw [string?_eq_some]
  unfold getD at h
  split at h
  · exact Or.inl h
  next v _ hv => exact Or.inr (h ▸ hv)
  · exact Or.inl h

/-- One assignment of an object literal: an existing key keeps its place, a new key goes last. -/
def assign (key : String) (v : Json) : List (String × Json) → List (String × Json)
  | [] => [(key, v)]
  | (k, w) :: rest => if k = key then (k, v) :: rest else (k, w) :: assign key v rest

/-- `{ ...base, k₁: v₁, …, kₙ: vₙ }`. -/
def spread (base : List (String × Json)) (updates : List (String × Json)) : Json :=
  .obj (updates.foldl (fun acc u => assign u.1 u.2 acc) base)

theorem lookup_assign (key k : String) (v : Json) (l : List (String × Json)) :
    (assign key v l).lookup k = if k = key then some v else l.lookup k := by
  induction l with
  | nil =>
      by_cases h : k = key
      · simp [assign, h]
      · have hb : (k == key) = false := beq_eq_false_iff_ne.mpr h
        simp [assign, List.lookup_cons, h, hb]
  | cons p rest ih =>
      obtain ⟨k', w⟩ := p
      by_cases hk : k' = key
      · subst hk
        by_cases h : k = k'
        · simp [assign, h]
        · have hb : (k == k') = false := beq_eq_false_iff_ne.mpr h
          simp [assign, List.lookup_cons, h, hb]
      · by_cases h : k = k'
        · subst h
          simp [assign, hk]
        · have hb : (k == k') = false := beq_eq_false_iff_ne.mpr h
          simp only [assign, hk, if_false, List.lookup_cons, hb, ih]

/-- A member the updates of a spread do not name. -/
theorem get?_spread_of_ne {base updates : List (String × Json)} {key : String}
    (h : ∀ u ∈ updates, u.1 ≠ key) : (spread base updates).get? key = base.lookup key := by
  show (updates.foldl (fun acc u => assign u.1 u.2 acc) base).lookup key = base.lookup key
  induction updates generalizing base with
  | nil => rfl
  | cons u rest ih =>
      rw [List.foldl_cons, ih fun v hv => h v (List.mem_cons_of_mem _ hv), lookup_assign,
        if_neg (h u List.mem_cons_self).symm]

/-! ## The printed text -/

/-- One character of a string literal, escaped as `JSON.stringify` escapes it. -/
def escape (c : Char) : List Char :=
  if c = Char.ofNat 34 then [Char.ofNat 92, Char.ofNat 34]
  else if c = Char.ofNat 92 then [Char.ofNat 92, Char.ofNat 92]
  else if c = Char.ofNat 8 then [Char.ofNat 92, 'b']
  else if c = Char.ofNat 9 then [Char.ofNat 92, 't']
  else if c = Char.ofNat 10 then [Char.ofNat 92, 'n']
  else if c = Char.ofNat 12 then [Char.ofNat 92, 'f']
  else if c = Char.ofNat 13 then [Char.ofNat 92, 'r']
  else if c.toNat < 32 then
    [Char.ofNat 92, 'u', '0', '0', Nat.digitChar (c.toNat / 16), Nat.digitChar (c.toNat % 16)]
  else [c]

/-- A quoted string literal. -/
def quote (s : String) : List Char :=
  Char.ofNat 34 :: (s.toList.flatMap escape ++ [Char.ofNat 34])

mutual

/-- The characters `JSON.stringify` prints. -/
def render : Json → List Char
  | .null => "null".toList
  | .bool true => "true".toList
  | .bool false => "false".toList
  | .num x => x.text
  | .str s => quote s
  | .arr items => '[' :: renderItems items true
  | .obj members => '\x7b' :: renderMembers members true

/-- The items of an array and its closing bracket; `first` says no item was printed yet. -/
def renderItems : List Json → Bool → List Char
  | [], _ => [']']
  | j :: rest, first => (if first then [] else [',']) ++ render j ++ renderItems rest false

/-- The members of an object and its closing brace. -/
def renderMembers : List (String × Json) → Bool → List Char
  | [], _ => ['\x7d']
  | (k, j) :: rest, first =>
      (if first then [] else [',']) ++ quote k ++ ':' :: render j ++ renderMembers rest false

end

/-- `JSON.stringify`. -/
def stringify (j : Json) : String := String.ofList j.render

theorem stringify_inj_render {a b : Json} : stringify a = stringify b ↔ a.render = b.render := by
  simp [stringify, String.ofList_inj]

/-! ## Storage in a `jsonb` column -/

/-- Key order of `jsonb`: byte length first, then bytewise. -/
def keyLe (a b : String) : Bool :=
  a.utf8ByteSize < b.utf8ByteSize || (a.utf8ByteSize == b.utf8ByteSize && decide (¬ b < a))

theorem keyLe_refl (a : String) : keyLe a a = true := by
  simp [keyLe]

/-- Insert one member before the first key that does not come earlier. -/
def insertMember (p : String × Json) : List (String × Json) → List (String × Json)
  | [] => [p]
  | q :: rest => if keyLe p.1 q.1 then p :: q :: rest else q :: insertMember p rest

theorem lookup_member (p : String × Json) (k : String) (l : List (String × Json)) :
    (p :: l).lookup k = if k == p.1 then some p.2 else l.lookup k := by
  obtain ⟨q, j⟩ := p
  rw [List.lookup_cons]
  cases k == q <;> rfl

theorem lookup_insertMember (p : String × Json) (k : String) (l : List (String × Json)) :
    (insertMember p l).lookup k = if k = p.1 then some p.2 else l.lookup k := by
  induction l with
  | nil =>
      by_cases h : k = p.1
      · simp [insertMember, lookup_member, h]
      · have hb : (k == p.1) = false := beq_eq_false_iff_ne.mpr h
        simp [insertMember, lookup_member, h, hb]
  | cons q rest ih =>
      simp only [insertMember]
      by_cases hle : keyLe p.1 q.1 = true
      · rw [if_pos hle]
        by_cases h : k = p.1
        · simp [lookup_member, h]
        · have hb : (k == p.1) = false := beq_eq_false_iff_ne.mpr h
          simp [lookup_member, h, hb]
      · rw [if_neg hle]
        by_cases hq : k = q.1
        · have hp : k ≠ p.1 := by
            rintro rfl
            exact hle (by rw [← hq]; exact keyLe_refl _)
          simp [lookup_member, hq, if_neg (hq ▸ hp)]
        · have hb : (k == q.1) = false := beq_eq_false_iff_ne.mpr hq
          simp [lookup_member, hb, ih]

mutual

/-- The value a `jsonb` column returns for a stored value. -/
def jsonb : Json → Json
  | .arr items => .arr (jsonbItems items)
  | .obj members => .obj (jsonbMembers members)
  | .null => .null
  | .bool b => .bool b
  | .num x => .num x
  | .str s => .str s

/-- `jsonb` on array items. -/
def jsonbItems : List Json → List Json
  | [] => []
  | j :: rest => jsonb j :: jsonbItems rest

/-- `jsonb` on object members, sorted by `keyLe`. -/
def jsonbMembers : List (String × Json) → List (String × Json)
  | [] => []
  | (k, j) :: rest => insertMember (k, jsonb j) (jsonbMembers rest)

end

theorem lookup_jsonbMembers (k : String) (l : List (String × Json)) :
    (jsonbMembers l).lookup k = (l.lookup k).map jsonb := by
  induction l with
  | nil => simp [jsonbMembers]
  | cons p rest ih =>
      obtain ⟨k', j⟩ := p
      rw [jsonbMembers, lookup_insertMember, ih]
      by_cases h : k = k'
      · simp [h]
      · have hb : (k == k') = false := beq_eq_false_iff_ne.mpr h
        simp [List.lookup_cons, h, hb]

/-- A member read from the column is the stored member read from the column. -/
theorem get?_jsonb (j : Json) (k : String) : j.jsonb.get? k = (j.get? k).map jsonb := by
  cases j with
  | obj members => simp [jsonb, get?, lookup_jsonbMembers]
  | null => simp [jsonb, get?]
  | bool b => simp [jsonb, get?]
  | num x => simp [jsonb, get?]
  | str s => simp [jsonb, get?]
  | arr items => simp [jsonb, get?]

theorem string?_jsonb (j : Json) (k : String) : j.jsonb.string? k = j.string? k := by
  simp only [string?, get?_jsonb]
  cases j.get? k with
  | none => rfl
  | some v => cases v <;> simp [jsonb]

theorem flag_jsonb (j : Json) (k : String) : j.jsonb.flag k = j.flag k := by
  simp only [flag, get?_jsonb]
  cases j.get? k with
  | none => rfl
  | some v => cases v <;> simp [jsonb]

end Json

end Js
