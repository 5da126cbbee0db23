/-
# CellFlow.Lib.Value — the values a JavaScript function may be handed, and the integers they spell.

`Value` is what `unknown` stands for: JSON values, `undefined` and `bigint`.  `Value.text` is
`String(value)` and `readBigInt` the numeral `BigInt(text)` accepts once blanks are trimmed.  Reading
does not depend on the case of hexadecimal digits nor on leading zeros (`readBigInt_hex`).
-/
import CellFlow.Lib.TextCodec

namespace Js

/-! ## Values -/

/-- A value of type `unknown`, without functions and symbols; numbers are finite. -/
inductive Value where
  | undefined
  | null
  | bool (b : Bool)
  | number (x : Number)
  | bigint (n : Int)
  | string (s : String)
  | array (items : List Value)
  | object (members : List (String × Value))

namespace Value

instance : Inhabited Value := ⟨.undefined⟩

/-- `value === undefined`. -/
def isUndefined : Value → Bool
  | .undefined => true
  | _ => false

/-- `value === null || value === undefined`. -/
def isNullish : Value → Bool
  | .undefined => true
  | .null => true
  | _ => false

mutual

/-- `String(value)`. -/
def text : Value → String
  | .undefined => "undefined"
  | .null => "null"
  | .bool b => if b then "true" else "false"
  | .number x => String.ofList x.text
  | .bigint n => toString n
  | .string s => s
  | .array items => itemsText items true
  | .object _ => "[object Object]"

/-- `items.join(",")`, where `null` and `undefined` print nothing; `first` says that no item was
printed yet. -/
def itemsText : List Value → Bool → String
  | [], _ => ""
  | v :: rest, first =>
      (if first then "" else ",") ++ (if v.isNullish then "" else text v) ++ itemsText rest false

end

@[simp] theorem text_string (s : String) : text (.string s) = s := by
  rw [text]

end Value

/-! ## Numerals -/

/-- The number some digits denote, read after the digits that gave `acc`. -/
def readRadix (radix : Nat) : List Char → Nat → Option Nat
  | [], acc => some acc
  | c :: rest, acc =>
      match hexDigit c with
      | some d => if d < radix then readRadix radix rest (radix * acc + d) else none
      | none => none

/-- A numeral has at least one digit. -/
def readNat (radix : Nat) (digits : List Char) : Option Nat :=
  if digits = [] then none else readRadix radix digits 0

/-- The integer `BigInt(text)` reads from a trimmed text; `none` stands for its `SyntaxError`. -/
def readBigInt : List Char → Option Int
  | [] => some 0
  | '0' :: 'x' :: digits => (readNat 16 digits).map Int.ofNat
  | '0' :: 'X' :: digits => (readNat 16 digits).map Int.ofNat
  | '0' :: 'o' :: digits => (readNat 8 digits).map Int.ofNat
  | '0' :: 'O' :: digits => (readNat 8 digits).map Int.ofNat
  | '0' :: 'b' :: digits => (readNat 2 digits).map Int.ofNat
  | '0' :: 'B' :: digits => (readNat 2 digits).map Int.ofNat
  | '+' :: digits => (readNat 10 digits).map Int.ofNat
  | '-' :: digits => (readNat 10 digits).map fun n => -Int.ofNat n
  | digits => (readNat 10 digits).map Int.ofNat

theorem readRadix_append {radix : Nat} (l l' : List Char) (acc : Nat) :
    readRadix radix (l ++ l') acc = (readRadix radix l acc).bind (readRadix radix l') := by
  induction l generalizing acc with
  | nil => rfl
  | cons c l ih =>
      simp only [List.cons_append, readRadix]
      split
      next d hd =>
        split
        · exact ih _
        · rfl
      next hd => rfl

theorem readRadix_zeros {radix : Nat} (h : 0 < radix) (k : Nat) :
    readRadix radix (List.replicate k '0') 0 = some 0 := by
  induction k with
  | zero => rfl
  | succ k ih =>
      have hzero : hexDigit '0' = some 0 := by decide
      rw [List.replicate_succ, readRadix, hzero]
      simp only [h, if_true, Nat.mul_zero, Nat.add_zero]
      exact ih

/-- Whatever is read is made of digits. -/
theorem isSome_of_readRadix {radix : Nat} {l : List Char} {acc n : Nat}
    (h : readRadix radix l acc = some n) : ∀ c ∈ l, (hexDigit c).isSome = true := by
  induction l generalizing acc with
  | nil =>
      intro c hc
      cases hc
  | cons d l ih =>
      rw [readRadix] at h
      split at h
      next v hv =>
        split at h
        · intro c hc
          rcases List.mem_cons.mp hc with rfl | hc
          · rw [hv]
            rfl
          · exact ih h c hc
        · cases h
      · cases h

/-- What is printed in base sixteen reads back. -/
theorem readRadix_toDigits (n : Nat) : readRadix 16 (Nat.toDigits 16 n) 0 = some n := by
  induction n using Nat.strongRecOn with
  | _ n ih =>
      have hdigit : ∀ d, d < 16 → ∀ acc, readRadix 16 [Nat.digitChar d] acc = some (16 * acc + d) := by
        intro d hd acc
        have hread := hexDigit_digitChar ⟨d, hd⟩
        simp only at hread
        simp only [readRadix, hread, hd, if_true]
      by_cases hn : n < 16
      · rw [Nat.toDigits_of_lt_base hn, hdigit n hn]
        simp
      · -- the last digit is read after the rest of the number
        rw [Nat.toDigits_of_base_le (by decide) (by omega), readRadix_append,
          ih (n / 16) (by omega), Option.bind_some, hdigit (n % 16) (by omega)]
        congr 1
        omega

/-! ## Case -/

/-- Lowering touches the ASCII characters only. -/
theorem toLower_ind {motive : Char → Char → Prop}
    (hascii : ∀ n : Fin 128, motive (Char.ofNat n) (Char.ofNat n).toLower)
    (hrest : ∀ c : Char, 128 ≤ c.toNat → motive c c) (c : Char) : motive c c.toLower := by
  by_cases hc : c.toNat < 128
  · have hone := hascii ⟨c.toNat, hc⟩
    rwa [Char.ofNat_toNat] at hone
  · have hsame : c.toLower = c := by
      unfold Char.toLower
      rw [dif_neg]
      rintro ⟨-, hcapital⟩
      have hle : c.toNat ≤ 90 := hcapital
      omega
    rw [hsame]
    exact hrest c (by omega)

theorem hexDigit_toLower (c : Char) : hexDigit c.toLower = hexDigit c :=
  toLower_ind (motive := fun c d => hexDigit d = hexDigit c) (by decide) (fun _ _ => rfl) c

/-- Digits are read in either case. -/
theorem readRadix_toLower {radix : Nat} (l : List Char) (acc : Nat) :
    readRadix radix (l.map Char.toLower) acc = readRadix radix l acc := by
  induction l generalizing acc with
  | nil => rfl
  | cons c l ih =>
      simp only [List.map_cons, readRadix, hexDigit_toLower]
      split
      · split
        · exact ih _
        · rfl
      · rfl

theorem eq_zero_of_toLower (c : Char) : c.toLower = '0' → c = '0' :=
  toLower_ind (motive := fun c d => d = '0' → c = '0') (by decide) (fun _ _ h => h) c

theorem eq_x_of_toLower (c : Char) : c.toLower = 'x' → c = 'x' ∨ c = 'X' :=
  toLower_ind (motive := fun c d => d = 'x' → c = 'x' ∨ c = 'X') (by decide)
    (fun _ _ h => Or.inl h) c

/-- **A hexadecimal numeral** is read in any case and behind any zeros. -/
theorem readBigInt_hex {cs : List Char} {k n : Nat}
    (h : cs.map Char.toLower = '0' :: 'x' :: (List.replicate k '0' ++ Nat.toDigits 16 n)) :
    readBigInt cs = some (n : Int) := by
  obtain ⟨zero, cs, rfl, hzero, h⟩ := List.map_eq_cons_iff.mp h
  obtain ⟨x, digits, rfl, hx, hdigits⟩ := List.map_eq_cons_iff.mp h
  have hread : readNat 16 digits = some n := by
    have hne : digits ≠ [] := by
      rintro rfl
      have hnil := List.append_eq_nil_iff.mp hdigits.symm
      exact Nat.toDigits_ne_nil hnil.2
    rw [readNat, if_neg hne, ← readRadix_toLower, hdigits, readRadix_append,
      readRadix_zeros (by decide), Option.bind_some, readRadix_toDigits]
  rw [eq_zero_of_toLower zero hzero]
  rcases eq_x_of_toLower x hx with rfl | rfl
  · rw [readBigInt, hread]
    rfl
  · rw [readBigInt, hread]
    rfl

/-- Integers printed in base sixteen differ where the integers do. -/
theorem toDigits_sixteen_inj {m n : Nat} (h : Nat.toDigits 16 m = Nat.toDigits 16 n) : m = n := by
  have hread := readRadix_toDigits m
  rw [h, readRadix_toDigits n] at hread
  exact (Option.some.inj hread).symm

end Js
