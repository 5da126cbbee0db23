/-
# CellFlow.Core.HexText — hexadecimal texts and what they denote.

Nodes and clients write the same number in more than one way.  `parseHexBlockNumber` reads a text in
any case; the 32-byte value of a hash is read from its normal spelling, and two normal spellings are
the same text exactly when their values are the same.
-/
import CellFlow.Core.Validation
import CellFlow.Core.StateMachine
import CellFlow.Lib.Value

namespace CellFlow

/-! ## Letter case -/

/-- Equal up to the case of their letters. -/
def SameHex (a b : String) : Prop := toLowerCase a = toLowerCase b

instance (a b : String) : Decidable (SameHex a b) :=
  inferInstanceAs (Decidable (toLowerCase a = toLowerCase b))

theorem hexDigit?_toLower (c : Char) : hexDigit? c.toLower = hexDigit? c :=
  Js.toLower_ind (motive := fun c d => hexDigit? d = hexDigit? c) (by decide) (fun _ _ => rfl) c

theorem hexNumber?_toLower (l : List Char) (acc : Nat) :
    hexNumber? (l.map Char.toLower) acc = hexNumber? l acc := by
  induction l generalizing acc with
  | nil => rfl
  | cons c l ih =>
      simp only [List.map_cons, hexNumber?, hexDigit?_toLower]
      split
      · exact ih _
      · rfl

/-- A text is read as hexadecimal digits. -/
theorem hexNumber?_isSome {l : List Char} (acc : Nat)
    (h : (l.all fun c => (hexDigit? c).isSome) = true) : (hexNumber? l acc).isSome := by
  induction l generalizing acc with
  | nil => rfl
  | cons c l ih =>
      rw [List.all_cons, Bool.and_eq_true] at h
      obtain ⟨d, hd⟩ := Option.isSome_iff_exists.mp h.1
      rw [hexNumber?, hd]
      exact ih _ h.2

/-- What a text is read as, from its characters in lower case. -/
theorem parseHexBlockNumber_lower {text : String} {d : Char} {rest : List Char} {n : Nat}
    (hlower : text.toList.map Char.toLower = '0' :: 'x' :: d :: rest)
    (hread : hexNumber? (d :: rest) 0 = some n) : parseHexBlockNumber (some text) = some n := by
  obtain ⟨zero, cs, htext, hzero, hcs⟩ := List.map_eq_cons_iff.mp hlower
  obtain ⟨x, digits, rfl, hx, hdigits⟩ := List.map_eq_cons_iff.mp hcs
  obtain ⟨first, others, rfl, -, -⟩ := List.map_eq_cons_iff.mp hdigits
  have hvalue : hexNumber? (first :: others) 0 = some n := by
    rw [← hexNumber?_toLower, hdigits, hread]
  obtain rfl : zero = '0' := Js.eq_zero_of_toLower zero hzero
  have hx : x = 'x' ∨ x = 'X' := Js.eq_x_of_toLower x hx
  rw [parseHexBlockNumber, Option.map_some, htext]
  simp only [hx, if_true, hvalue]

/-- **Case does not matter** to what a text is read as. -/
theorem parseHexBlockNumber_of_sameHex {a b : String} {n : Nat}
    (ha : parseHexBlockNumber (some a) = some n) (h : SameHex a b) :
    parseHexBlockNumber (some b) = some n := by
  have hchars : a.toList.map Char.toLower = b.toList.map Char.toLower := String.ofList_injective h
  rw [parseHexBlockNumber, Option.map_some] at ha
  split at ha
  next x d rest htext =>
    split at ha
    next hx =>
      have htext : a.toList = '0' :: x :: d :: rest := Option.some.inj htext
      have hlower : b.toList.map Char.toLower =
          '0' :: 'x' :: d.toLower :: rest.map Char.toLower := by
        rw [← hchars, htext]
        rcases hx with rfl | rfl <;> rfl
      refine parseHexBlockNumber_lower hlower ?_
      rw [← List.map_cons, hexNumber?_toLower, ha]
    · cases ha
  · cases ha

/-! ## 32-byte values -/

/-- A 32-byte hash in its normal spelling. -/
def normalizeHash (value : Option String) : Option String :=
  match truthy value with
  | none => none
  | some value =>
      let normalized := toLowerCase (trim value)
      if isTxHash normalized then some normalized else none

/-- The 32-byte value of a well-formed hash. -/
def hashValue (value : Option String) : Option Nat := parseHexBlockNumber (normalizeHash value)

/-- A digit as a normal spelling writes it. -/
def isLowerDigit (c : Char) : Bool := ('0' ≤ c && c ≤ '9') || ('a' ≤ c && c ≤ 'f')

/-- What holds of every ASCII character holds of every lower-case digit. -/
theorem isLowerDigit_ind {motive : Char → Prop} (hascii : ∀ n : Fin 128, motive (Char.ofNat n))
    {c : Char} (h : isLowerDigit c = true) : motive c := by
  have hsmall : c.toNat < 128 := by
    unfold isLowerDigit at h
    simp only [Bool.or_eq_true, Bool.and_eq_true, decide_eq_true_eq] at h
    rcases h with ⟨-, hle⟩ | ⟨-, hle⟩
    · have hle : c.toNat ≤ 57 := hle
      omega
    · have hle : c.toNat ≤ 102 := hle
      omega
  have hone := hascii ⟨c.toNat, hsmall⟩
  rwa [Char.ofNat_toNat] at hone

theorem isSome_of_isLowerDigit {c : Char} (h : isLowerDigit c = true) : (hexDigit? c).isSome :=
  isLowerDigit_ind (motive := fun c => isLowerDigit c = true → (hexDigit? c).isSome) (by decide) h h

/-- A lower-case digit is the one written for its value. -/
theorem digitChar_of_hexDigit? {c : Char} (h : isLowerDigit c = true) :
    (hexDigit? c).map Nat.digitChar = some c :=
  isLowerDigit_ind
    (motive := fun c => isLowerDigit c = true → (hexDigit? c).map Nat.digitChar = some c)
    (by decide) h h

theorem written_digits {l : List Char} (h : ∀ c ∈ l, isLowerDigit c = true) :
    (l.map hexDigit?).map (Option.map Nat.digitChar) = l.map some := by
  rw [List.map_map]
  exact List.map_congr_left fun c hc => digitChar_of_hexDigit? (h c hc)

theorem hexDigit?_lt {c : Char} {d : Nat} (h : hexDigit? c = some d) : d < 16 := by
  unfold hexDigit? at h
  have h0 : '0'.toNat = 48 := rfl
  have ha : 'a'.toNat = 97 := rfl
  have hA : 'A'.toNat = 65 := rfl
  split_ifs at h with hdigit hlower hupper
  · have hle : c.toNat ≤ 57 := hdigit.2
    obtain rfl := Option.some.inj h
    omega
  · have hle : c.toNat ≤ 102 := hlower.2
    obtain rfl := Option.some.inj h
    omega
  · have hle : c.toNat ≤ 70 := hupper.2
    obtain rfl := Option.some.inj h
    omega

/-- **Digits are read one to one**: what was read before, and every digit's value. -/
theorem hexNumber?_inj {l l' : List Char} {acc acc' v : Nat} (hlength : l.length = l'.length)
    (h : hexNumber? l acc = some v) (h' : hexNumber? l' acc' = some v) :
    acc = acc' ∧ l.map hexDigit? = l'.map hexDigit? := by
  induction l generalizing l' acc acc' with
  | nil =>
      obtain rfl : l' = [] := List.length_eq_zero_iff.mp hlength.symm
      exact ⟨Option.some.inj (h.trans h'.symm), rfl⟩
  | cons c l ih =>
      obtain ⟨c', l', rfl⟩ := List.exists_of_length_succ l' hlength.symm
      rw [hexNumber?] at h h'
      cases hc : hexDigit? c with
      | none =>
          rw [hc] at h
          cases h
      | some d =>
          cases hc' : hexDigit? c' with
          | none =>
              rw [hc'] at h'
              cases h'
          | some d' =>
              rw [hc] at h
              rw [hc'] at h'
              obtain ⟨hacc, hrest⟩ := ih (Nat.succ.inj hlength) h h'
              have hd := hexDigit?_lt hc
              have hd' := hexDigit?_lt hc'
              have hsame : d = d' := by omega
              refine ⟨by omega, ?_⟩
              rw [List.map_cons, List.map_cons, hc, hc', hsame, hrest]

theorem isTxHash_of_normalizeHash {value : Option String} {hash : String}
    (h : normalizeHash value = some hash) : isTxHash hash = true := by
  unfold normalizeHash at h
  split at h
  · cases h
  · simp only at h
    split_ifs at h with hhash
    obtain rfl := Option.some.inj h
    exact hhash

/-- A normal spelling has 64 lower-case digits. -/
theorem isTxHash_digits {x : String} (h : isTxHash x = true) :
    ∃ l, x.toList = '0' :: 'x' :: l ∧ l.length = 64 ∧ ∀ c ∈ l, isLowerDigit c = true := by
  unfold isTxHash at h
  split at h
  next digits hdigits =>
    rw [Bool.and_eq_true, decide_eq_true_eq, List.all_eq_true] at h
    exact ⟨digits, hdigits, h.1, h.2⟩
  · cases h

theorem parseHexBlockNumber_digits {x : String} {l : List Char} (hx : x.toList = '0' :: 'x' :: l)
    (hlength : l.length = 64) : parseHexBlockNumber (some x) = hexNumber? l 0 := by
  cases l with
  | nil => cases hlength
  | cons d rest =>
      rw [parseHexBlockNumber, Option.map_some, hx]
      simp only [true_or, if_true]

/-- **Normal spellings of one value are one text.** -/
theorem isTxHash_inj {x y : String} (hx : isTxHash x = true) (hy : isTxHash y = true) :
    parseHexBlockNumber (some x) = parseHexBlockNumber (some y) ↔ x = y := by
  refine ⟨fun h => ?_, fun h => h ▸ rfl⟩
  obtain ⟨l, hl, hlength, hlower⟩ := isTxHash_digits hx
  obtain ⟨l', hl', hlength', hlower'⟩ := isTxHash_digits hy
  obtain ⟨v, hv⟩ := Option.isSome_iff_exists.mp
    (hexNumber?_isSome 0 (List.all_eq_true.mpr fun c hc => isSome_of_isLowerDigit (hlower c hc)))
  rw [parseHexBlockNumber_digits hl hlength, parseHexBlockNumber_digits hl' hlength', hv] at h
  obtain ⟨-, hdigits⟩ := hexNumber?_inj (hlength.trans hlength'.symm) hv h.symm
  have hsame : l = l' := by
    have hwritten := congrArg (List.map (Option.map Nat.digitChar)) hdigits
    rw [written_digits hlower, written_digits hlower'] at hwritten
    exact List.map_injective_iff.mpr (fun _ _ h => Option.some.inj h) hwritten
  exact String.toList_injective (by rw [hl, hl', hsame])

/-- **Equal as 32-byte values** is equal in the normal spelling. -/
theorem hashValue_eq_iff {a b : Option String} {x y : String} (ha : normalizeHash a = some x)
    (hb : normalizeHash b = some y) : hashValue a = hashValue b ↔ x = y := by
  unfold hashValue
  rw [ha, hb]
  exact isTxHash_inj (isTxHash_of_normalizeHash ha) (isTxHash_of_normalizeHash hb)

/-- Only a well-formed hash has a value. -/
theorem normalizeHash_of_hashValue {a : Option String} {v : Nat} (h : hashValue a = some v) :
    ∃ x, normalizeHash a = some x := by
  unfold hashValue at h
  cases hx : normalizeHash a with
  | none =>
      rw [hx] at h
      cases h
  | some x => exact ⟨x, rfl⟩

theorem hashValue_eq_some {a : Option String} {x : String} (h : normalizeHash a = some x) :
    ∃ v, hashValue a = some v := by
  obtain ⟨l, hl, hlength, hlower⟩ := isTxHash_digits (isTxHash_of_normalizeHash h)
  unfold hashValue
  rw [h, parseHexBlockNumber_digits hl hlength]
  exact Option.isSome_iff_exists.mp
    (hexNumber?_isSome 0 (List.all_eq_true.mpr fun c hc => isSome_of_isLowerDigit (hlower c hc)))

end CellFlow
