/-
# CellFlow.Lib.Ip — IPv4 and IPv6 addresses and their texts.

An IPv4 address is a word of 32 bits with one dotted text.  An IPv6 address is eight pieces of 16 bits
and has many texts; `IPv6.serialize` is the canonical one a URL prints, in lower case and with its
longest run of zero pieces compressed.  `Embedding` lists the ways to write an IPv4 address as IPv6.
-/
import CellFlow.Lib.TextCodec
import CellFlow.Lib.Value
import Mathlib.Algebra.Order.Ring.Int

namespace Js

/-! ## IPv4 -/

/-- Octets in decimal, joined by dots. -/
def dottedText (octets : List Nat) : String :=
  String.ofList (['.'].intercalate (octets.map (Nat.toDigits 10)))

/-- The four octets of an address. -/
def octetsOf (a : BitVec 32) : List Nat :=
  [a.toNat / 2 ^ 24, a.toNat / 2 ^ 16 % 256, a.toNat / 2 ^ 8 % 256, a.toNat % 256]

/-- The dotted text of an address. -/
def dotted (a : BitVec 32) : String := dottedText (octetsOf a)

/-- `[0-9]|[1-9][0-9]|1[0-9][0-9]|2[0-4][0-9]|25[0-5]`. -/
def isOctet (l : List Char) : Bool :=
  match readNat 10 l with
  | some n => n < 256 && l = Nat.toDigits 10 n
  | none => false

/-- `net.isIPv4`. -/
def isIPv4 (text : String) : Bool :=
  let parts := text.toList.splitOn '.'
  parts.length = 4 && parts.all isOctet

/-- The addresses whose first `bits` bits are those of `base`. -/
def InCidr (base : BitVec 32) (bits : Nat) (a : BitVec 32) : Prop :=
  a.toNat / 2 ^ (32 - bits) = base.toNat / 2 ^ (32 - bits)

instance (base : BitVec 32) (bits : Nat) (a : BitVec 32) : Decidable (InCidr base bits a) :=
  inferInstanceAs (Decidable (_ = _))

/-! ## IPv6 -/

/-- A 128-bit address in eight pieces. -/
structure IPv6 where
  pieces : List (Fin 65536)
  length_eq : pieces.length = 8
  deriving DecidableEq

/-- The number of zero pieces a list starts with. -/
def zeroRun : List (Fin 65536) → Nat
  | [] => 0
  | p :: rest => if p = 0 then zeroRun rest + 1 else 0

/-- Start and length of the first longest run of zeros, against the best one before index `i`. -/
def longestRun : List (Fin 65536) → Nat → Nat × Nat → Nat × Nat
  | [], _, best => best
  | p :: rest, i, best =>
      let n := zeroRun (p :: rest)
      longestRun rest (i + 1) (if best.2 < n then (i, n) else best)

/-- Pieces in hexadecimal, joined by colons. -/
def colonText (pieces : List (Fin 65536)) : List Char :=
  [':'].intercalate (pieces.map fun p => Nat.toDigits 16 p)

/-- The canonical text: a single zero piece is not compressed. -/
def IPv6.serialize (address : IPv6) : List Char :=
  let run := longestRun address.pieces 0 (0, 0)
  if run.2 < 2 then colonText address.pieces
  else
    colonText (address.pieces.take run.1) ++ ':' :: ':' ::
      colonText (address.pieces.drop (run.1 + run.2))

/-! ## Embedded addresses -/

/-- How an IPv6 address can embed an IPv4 one: `::a`, `::ffff:a` and `::ffff:0:a`. -/
inductive Embedding where
  | compatible
  | mapped
  | translated
  deriving DecidableEq, Repr

/-- The six pieces before the embedded address. -/
def Embedding.head : Embedding → List (Fin 65536)
  | .compatible => [0, 0, 0, 0, 0, 0]
  | .mapped => [0, 0, 0, 0, 0, 0xffff]
  | .translated => [0, 0, 0, 0, 0xffff, 0]

/-- The two halves of an address. -/
def highHalf (a : BitVec 32) : Fin 65536 := ⟨a.toNat / 65536, by omega⟩

/-- The lower 16 bits. -/
def lowHalf (a : BitVec 32) : Fin 65536 := ⟨a.toNat % 65536, by omega⟩

/-- The address that embeds a 32-bit one. -/
def embed (kind : Embedding) (a : BitVec 32) : IPv6 where
  pieces := kind.head ++ [highHalf a, lowHalf a]
  length_eq := by cases kind <;> rfl

/-! ## The dotted text -/

theorem toDigits_octet : ∀ n : Fin 256, isOctet (Nat.toDigits 10 n) = true := by decide +kernel

theorem readNat_octet : ∀ n : Fin 256, readNat 10 (Nat.toDigits 10 n) = some n.val := by
  decide +kernel

theorem dottedText_parts {octets : List Nat} (hne : octets ≠ []) :
    (dottedText octets).toList.splitOn '.' = octets.map (Nat.toDigits 10) := by
  rw [dottedText, String.toList_ofList]
  refine List.splitOn_intercalate '.' (fun l hl hdot => ?_) (by simpa using hne)
  obtain ⟨n, -, rfl⟩ := List.mem_map.mp hl
  have hdigit := Nat.isDigit_of_mem_toDigits (by decide) (by decide) hdot
  exact absurd hdigit (by decide)

theorem octetsOf_lt (a : BitVec 32) : ∀ n ∈ octetsOf a, n < 256 := by
  intro n hn
  simp only [octetsOf, List.mem_cons, List.not_mem_nil, or_false] at hn
  rcases hn with rfl | rfl | rfl | rfl <;> omega

/-- A dotted text is an IPv4 address. -/
theorem isIPv4_dottedText {octets : List Nat} (hlength : octets.length = 4)
    (h : ∀ n ∈ octets, n < 256) : isIPv4 (dottedText octets) = true := by
  have hne : octets ≠ [] := by
    rintro rfl
    cases hlength
  rw [isIPv4, dottedText_parts hne]
  simp only [List.length_map, hlength, decide_true, Bool.true_and, List.all_map, List.all_eq_true]
  intro n hn
  exact toDigits_octet ⟨n, h n hn⟩

/-! ## The canonical texts of embedded addresses -/

/-- The two halves as the text prints them. -/
def halvesText (a : BitVec 32) : List Char :=
  Nat.toDigits 16 (highHalf a) ++ ':' :: Nat.toDigits 16 (lowHalf a)

theorem colonText_cons (p q : Fin 65536) (rest : List (Fin 65536)) :
    colonText (p :: q :: rest) = Nat.toDigits 16 p ++ ':' :: colonText (q :: rest) := by
  simp [colonText, List.intercalate]

theorem colonText_pair (p q : Fin 65536) :
    colonText [p, q] = Nat.toDigits 16 p ++ ':' :: Nat.toDigits 16 q := by
  simp [colonText, List.intercalate]

@[simp] theorem zeroRun_zero (rest : List (Fin 65536)) : zeroRun (0 :: rest) = zeroRun rest + 1 :=
  if_pos rfl

theorem zeroRun_of_ne {p : Fin 65536} (hp : p ≠ 0) (rest : List (Fin 65536)) :
    zeroRun (p :: rest) = 0 :=
  if_neg hp

theorem zeroRun_le (l : List (Fin 65536)) : zeroRun l ≤ l.length := by
  induction l with
  | nil => exact Nat.le_refl 0
  | cons p rest ih =>
      rw [zeroRun, List.length_cons]
      split
      · omega
      · omega

/-- A run that is as long as what is left stays the longest. -/
theorem longestRun_of_le {l : List (Fin 65536)} {i : Nat} {best : Nat × Nat}
    (h : l.length ≤ best.2) : longestRun l i best = best := by
  induction l generalizing i with
  | nil => rfl
  | cons p rest ih =>
      have hrun := zeroRun_le (p :: rest)
      rw [List.length_cons] at h
      rw [longestRun, if_neg (by rw [List.length_cons] at hrun; omega)]
      exact ih (by omega)

theorem serialize_of_run {address : IPv6} {start count : Nat} (hcount : 2 ≤ count)
    (hrun : longestRun address.pieces 0 (0, 0) = (start, count)) :
    address.serialize = colonText (address.pieces.take start) ++ ':' :: ':' ::
      colonText (address.pieces.drop (start + count)) := by
  rw [IPv6.serialize, hrun]
  exact if_neg (by omega)

theorem serialize_mapped (a : BitVec 32) :
    (embed .mapped a).serialize = "::ffff:".toList ++ halvesText a := by
  have hrun : longestRun (embed .mapped a).pieces 0 (0, 0) = (0, 5) := by
    show longestRun [highHalf a, lowHalf a] 6 (0, 5) = (0, 5)
    exact longestRun_of_le (show 2 ≤ 5 by decide)
  rw [serialize_of_run (by decide) hrun]
  show ':' :: ':' :: colonText (0xffff :: [highHalf a, lowHalf a]) = _
  rw [colonText_cons, colonText_pair]
  rfl

theorem serialize_translated (a : BitVec 32) :
    (embed .translated a).serialize = "::ffff:0:".toList ++ halvesText a := by
  have hrun : longestRun (embed .translated a).pieces 0 (0, 0) = (0, 4) := by
    show longestRun [0, highHalf a, lowHalf a] 5 (0, 4) = (0, 4)
    exact longestRun_of_le (show 3 ≤ 4 by decide)
  rw [serialize_of_run (by decide) hrun]
  show ':' :: ':' :: colonText (0xffff :: 0 :: [highHalf a, lowHalf a]) = _
  rw [colonText_cons, colonText_cons, colonText_pair]
  rfl

/-- The embedded halves of a compatible address stand behind its run of zeros. -/
theorem serialize_compatible {a : BitVec 32} (ha : highHalf a ≠ 0) :
    (embed .compatible a).serialize = "::".toList ++ halvesText a := by
  have hrun : longestRun (embed .compatible a).pieces 0 (0, 0) = (0, 6) := by
    show longestRun [0, 0, 0, 0, 0, 0, highHalf a, lowHalf a] 0 (0, 0) = (0, 6)
    by_cases hlow : lowHalf a = 0
    · have hnil : zeroRun [] = 0 := rfl
      simp [longestRun, zeroRun_of_ne ha, hlow, hnil]
    · simp [longestRun, zeroRun_of_ne ha, zeroRun_of_ne hlow]
  rw [serialize_of_run (by decide) hrun]
  show ':' :: ':' :: colonText [highHalf a, lowHalf a] = _
  rw [colonText_pair]
  rfl

/-- Where the upper half is zero it is part of that run. -/
theorem serialize_compatible_zero {a : BitVec 32} (ha : highHalf a = 0) :
    (embed .compatible a).serialize =
      "::".toList ++ if lowHalf a = 0 then [] else Nat.toDigits 16 (lowHalf a) := by
  by_cases hlow : lowHalf a = 0
  · have hpieces : (embed .compatible a).pieces = [0, 0, 0, 0, 0, 0, 0, 0] := by
      show [0, 0, 0, 0, 0, 0, highHalf a, lowHalf a] = _
      rw [ha, hlow]
    have hrun : longestRun (embed .compatible a).pieces 0 (0, 0) = (0, 8) := by
      rw [hpieces]
      decide
    rw [serialize_of_run (by decide) hrun, hpieces, if_pos hlow]
    decide
  · have hpieces : (embed .compatible a).pieces = [0, 0, 0, 0, 0, 0, 0, lowHalf a] := by
      show [0, 0, 0, 0, 0, 0, highHalf a, lowHalf a] = _
      rw [ha]
    have hrun : longestRun (embed .compatible a).pieces 0 (0, 0) = (0, 7) := by
      rw [hpieces]
      simp [longestRun, zeroRun_of_ne hlow]
    rw [serialize_of_run (by decide) hrun, hpieces, if_neg hlow]
    show ':' :: ':' :: colonText [lowHalf a] = _
    simp [colonText, List.intercalate]

end Js
