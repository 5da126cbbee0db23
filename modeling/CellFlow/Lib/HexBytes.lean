/-
# CellFlow.Lib.HexBytes — bytes and their hexadecimal text.

`hexOf` prints bytes in lower-case digits, `bytesOfHex` reads pairs of digits in either case and
stops at the first pair that is none.  A text of digits only is read as one byte for every two, and
printing them again gives the text in lower case (`hexOf_bytesOfHex`).
-/
import CellFlow.Lib.Value
import CellFlow.Lib.TextCodec

namespace Js

/-- `digest("hex")`: two digits a byte. -/
def hexOf (bytes : List (Fin 256)) : List Char :=
  bytes.flatMap fun b => [Nat.digitChar (b / 16), Nat.digitChar (b % 16)]

/-- The value of one hexadecimal digit, in either case. -/
def hexValue (c : Char) : Option (Fin 16) :=
  match hexDigit c with
  | some d => if h : d < 16 then some ⟨d, h⟩ else none
  | none => none

/-- `/^[0-9a-fA-F]*$/`. -/
def isHexDigits (l : List Char) : Bool := l.all fun c => (hexValue c).isSome

/-- `Buffer.from(text, "hex")`. -/
def bytesOfHex : List Char → List (Fin 256)
  | high :: low :: rest =>
      match hexValue high, hexValue low with
      | some h, some l => ⟨16 * h + l, by omega⟩ :: bytesOfHex rest
      | _, _ => []
  | _ => []

theorem hexValue_digitChar : ∀ d : Fin 16, hexValue (Nat.digitChar d) = some d := by decide

theorem toLower_digitChar : ∀ d : Fin 16, (Nat.digitChar d).toLower = Nat.digitChar d := by decide

/-- A digit is printed as itself in lower case. -/
theorem digitChar_of_hexValue (c : Char) : ∀ d, hexValue c = some d → Nat.digitChar d = c.toLower := by
  refine toLower_ind (motive := fun c c' => ∀ d, hexValue c = some d → Nat.digitChar d = c')
    (by decide) (fun c hc d hd => ?_) c
  -- no digit lies outside ASCII
  have hnone : hexDigit c = none := by
    unfold hexDigit
    have hdigit : c.isDigit = false := by
      rw [← Bool.not_eq_true]
      intro h
      have := toNat_of_isDigit h
      omega
    rw [hdigit, if_neg (by decide), if_neg, if_neg]
    · rintro ⟨-, hle⟩
      have hle : c.toNat ≤ 70 := hle
      omega
    · rintro ⟨-, hle⟩
      have hle : c.toNat ≤ 102 := hle
      omega
  rw [hexValue, hnone] at hd
  cases hd

/-! ## Printing -/

theorem hexOf_cons (b : Fin 256) (bytes : List (Fin 256)) :
    hexOf (b :: bytes) = Nat.digitChar (b / 16) :: Nat.digitChar (b % 16) :: hexOf bytes := rfl

theorem length_hexOf (bytes : List (Fin 256)) : (hexOf bytes).length = 2 * bytes.length := by
  induction bytes with
  | nil => rfl
  | cons b rest ih =>
      rw [hexOf_cons, List.length_cons, List.length_cons, List.length_cons, ih]
      omega

theorem isHexDigits_hexOf (bytes : List (Fin 256)) : isHexDigits (hexOf bytes) = true := by
  induction bytes with
  | nil => rfl
  | cons b rest ih =>
      have hhigh := hexValue_digitChar ⟨b / 16, by omega⟩
      have hlow := hexValue_digitChar ⟨b % 16, by omega⟩
      rw [isHexDigits] at ih
      simp only [isHexDigits, hexOf_cons, List.all_cons, hhigh, hlow, Option.isSome_some, ih,
        Bool.and_self]

theorem map_toLower_hexOf (bytes : List (Fin 256)) :
    (hexOf bytes).map Char.toLower = hexOf bytes := by
  induction bytes with
  | nil => rfl
  | cons b rest ih =>
      have hhigh := toLower_digitChar ⟨b / 16, by omega⟩
      have hlow := toLower_digitChar ⟨b % 16, by omega⟩
      rw [hexOf_cons, List.map_cons, List.map_cons, ih, hhigh, hlow]

/-! ## Reading -/

theorem bytesOfHex_hexOf (bytes : List (Fin 256)) : bytesOfHex (hexOf bytes) = bytes := by
  induction bytes with
  | nil => rfl
  | cons b rest ih =>
      have hhigh := hexValue_digitChar ⟨b / 16, by omega⟩
      have hlow := hexValue_digitChar ⟨b % 16, by omega⟩
      have hbyte : 16 * (b.val / 16) + b.val % 16 = b.val := Nat.div_add_mod b.val 16
      rw [hexOf_cons, bytesOfHex, hhigh, hlow]
      simp only [ih, hbyte, Fin.eta]

/-- **Printing what was read** gives the text in lower case. -/
theorem hexOf_bytesOfHex {n : Nat} {l : List Char} (hlength : l.length = 2 * n)
    (h : isHexDigits l = true) : hexOf (bytesOfHex l) = l.map Char.toLower := by
  induction n generalizing l with
  | zero =>
      obtain rfl := List.length_eq_zero_iff.mp hlength
      rfl
  | succ n ih =>
      have hpair : l.length = (2 * n + 1) + 1 := by omega
      obtain ⟨high, tail, rfl⟩ := List.exists_of_length_succ l hpair
      obtain ⟨low, rest, rfl⟩ := List.exists_of_length_succ tail (Nat.succ.inj hpair)
      rw [isHexDigits, List.all_cons, List.all_cons, Bool.and_eq_true, Bool.and_eq_true] at h
      obtain ⟨hhigh, hlow, hrest⟩ := h
      obtain ⟨a, ha⟩ := Option.isSome_iff_exists.mp hhigh
      obtain ⟨b, hb⟩ := Option.isSome_iff_exists.mp hlow
      have hlength' : rest.length = 2 * n := by
        rw [List.length_cons, List.length_cons] at hlength
        omega
      have hdiv : (16 * a.val + b.val) / 16 = a.val := by omega
      have hmod : (16 * a.val + b.val) % 16 = b.val := by omega
      rw [bytesOfHex, ha, hb]
      simp only [hexOf_cons, List.map_cons, hdiv, hmod]
      rw [digitChar_of_hexValue high a ha, digitChar_of_hexValue low b hb, ih hlength' hrest]

/-- **Equal bytes are equal text**, but for the case of the digits. -/
theorem bytesOfHex_eq_iff {n : Nat} {l : List Char} {bytes : List (Fin 256)}
    (hlength : l.length = 2 * n) (h : isHexDigits l = true) :
    bytesOfHex l = bytes ↔ l.map Char.toLower = hexOf bytes := by
  rw [← hexOf_bytesOfHex hlength h]
  constructor
  · intro heq
    rw [heq]
  · intro heq
    rw [← bytesOfHex_hexOf (bytesOfHex l), heq, bytesOfHex_hexOf]

theorem hexOf_inj {bytes bytes' : List (Fin 256)} (h : hexOf bytes = hexOf bytes') :
    bytes = bytes' := by
  rw [← bytesOfHex_hexOf bytes, h, bytesOfHex_hexOf]

end Js
