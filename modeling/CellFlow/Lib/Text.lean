/-
# CellFlow.Lib.Text — searching and replacing in a text.

`includes` and `replaceFirst` are `String.prototype.includes` and `replace` with a text as the
pattern, on characters.  A text is split off in front in one way.
-/
import Mathlib.Data.List.Basic

namespace Js

/-- `text.includes(pattern)`. -/
def includes (pattern : List Char) : List Char → Bool
  | [] => pattern.isPrefixOf []
  | c :: rest => pattern.isPrefixOf (c :: rest) || includes pattern rest

/-- `text.replace(pattern, replacement)`: the first occurrence only. -/
def replaceFirst (pattern replacement : List Char) : List Char → List Char
  | [] => if pattern.isPrefixOf [] then replacement else []
  | c :: rest =>
      if pattern.isPrefixOf (c :: rest) then replacement ++ (c :: rest).drop pattern.length
      else c :: replaceFirst pattern replacement rest

/-- The length of a text in UTF-16 units. -/
def utf16Length : List Char → Nat
  | [] => 0
  | c :: rest => (if c.toNat < 0x10000 then 1 else 2) + utf16Length rest

theorem isPrefixOf?_append (l rest : List Char) : l.isPrefixOf? (l ++ rest) = some rest := by
  induction l with
  | nil => rfl
  | cons c l ih =>
      rw [List.cons_append, List.isPrefixOf?, if_pos (beq_self_eq_true c)]
      exact ih

theorem eq_append_of_isPrefixOf? {l text rest : List Char} (h : l.isPrefixOf? text = some rest) :
    text = l ++ rest := by
  induction l generalizing text with
  | nil =>
      obtain rfl := Option.some.inj h
      rfl
  | cons c l ih =>
      rcases text with _ | ⟨d, text⟩
      · cases h
      · rw [List.isPrefixOf?] at h
        split_ifs at h with hd
        rw [List.cons_append, ← ih h, eq_of_beq hd]

end Js
