/-
# CellFlow.Properties.BlockedAddresses — the blocked-address policy.

On IPv4 the policy is membership in the listed ranges: a masked comparison of words is a comparison of
their first bits (`blocked_v4_iff`).  On IPv6 the canonical text of an embedded address is matched and
judged as the address it embeds, with one gap: the text of `::a` has two groups only where the upper
half of `a` is not zero (`blocked_policy_iff`).
-/
import CellFlow.Webhooks.IpPolicy
import CellFlow.Lib.Text

namespace CellFlow

open Js (IPv6 isIPv4 dotted embed Embedding InCidr highHalf lowHalf halvesText)

/-! ## Words and octets -/

/-- A shift by eight makes room for an octet. -/
theorem toNat_shift_or (acc : BitVec 32) {octet : Nat} (h : octet < 256) :
    ((acc <<< 8) ||| BitVec.ofNat 32 octet).toNat = (acc.toNat * 256 + octet) % 2 ^ 32 := by
  have hlt := acc.isLt
  have hshift : (acc <<< 8).toNat = (acc.toNat % 2 ^ 24) <<< 8 := by
    rw [BitVec.toNat_shiftLeft, Nat.shiftLeft_eq, Nat.shiftLeft_eq]
    omega
  have hoctet : (BitVec.ofNat 32 octet).toNat = octet := by
    rw [BitVec.toNat_ofNat]
    omega
  rw [BitVec.toNat_or, hshift, hoctet, ← Nat.shiftLeft_add_eq_or_of_lt (by simpa using h),
    Nat.shiftLeft_eq]
  omega

theorem octetNumber_toDigits {n : Nat} (h : n < 256) : octetNumber (Nat.toDigits 10 n) = n := by
  have hread : Js.readNat 10 (Nat.toDigits 10 n) = some n := Js.readNat_octet ⟨n, h⟩
  rw [octetNumber, hread, Option.getD_some]

/-- **The word** read from a dotted text is the address. -/
theorem ipv4ToInt_dotted (a : BitVec 32) : ipv4ToInt (dotted a) = a := by
  have hlt := a.isLt
  have hoctets := Js.octetsOf_lt a
  simp only [Js.octetsOf, List.forall_mem_cons] at hoctets
  obtain ⟨h₁, h₂, h₃, h₄, -⟩ := hoctets
  apply BitVec.eq_of_toNat_eq
  rw [ipv4ToInt, dotted, Js.dottedText_parts (by simp [Js.octetsOf]), List.foldl_map, Js.octetsOf]
  simp only [List.foldl_cons, List.foldl_nil, octetNumber_toDigits h₁, octetNumber_toDigits h₂,
    octetNumber_toDigits h₃, octetNumber_toDigits h₄]
  rw [toNat_shift_or _ h₄, toNat_shift_or _ h₃, toNat_shift_or _ h₂, toNat_shift_or _ h₁]
  show ((((0 * 256 + _) % _ * 256 + _) % _ * 256 + _) % _ * 256 + _) % _ = _
  omega

/-! ## Masks -/

/-- Masking the last `k` bits of a word. -/
theorem and_mask {w : Nat} (x : BitVec w) (k : Nat) :
    x &&& (BitVec.allOnes w <<< k) = (x >>> k) <<< k := by
  ext i hi
  by_cases hik : i < k
  · simp [hik]
  · have hback : k + (i - k) = i := by omega
    simp [hik, hback, BitVec.getLsbD_eq_getElem hi]

theorem toNat_and_mask {w : Nat} (x : BitVec w) (k : Nat) :
    (x &&& (BitVec.allOnes w <<< k)).toNat = x.toNat / 2 ^ k * 2 ^ k := by
  rw [and_mask, BitVec.toNat_shiftLeft, BitVec.toNat_ushiftRight, Nat.shiftRight_eq_div_pow,
    Nat.shiftLeft_eq]
  exact Nat.mod_eq_of_lt (Nat.lt_of_le_of_lt (Nat.div_mul_le_self _ _) x.isLt)

/-- A masked comparison compares the first bits. -/
theorem inV4Range_iff {a base : BitVec 32} {bits : Nat} (hbits : bits ≠ 0) :
    inV4Range (dotted a) (dotted base) bits = true ↔ InCidr base bits a := by
  have hpos : 0 < 2 ^ (32 - bits) := Nat.two_pow_pos _
  rw [inV4Range, if_neg hbits, decide_eq_true_eq, ipv4ToInt_dotted, ipv4ToInt_dotted]
  constructor
  · intro h
    have hwords := congrArg BitVec.toNat h
    rw [toNat_and_mask, toNat_and_mask] at hwords
    exact Nat.eq_of_mul_eq_mul_right hpos hwords
  · intro h
    apply BitVec.eq_of_toNat_eq
    rw [toNat_and_mask, toNat_and_mask]
    exact congrArg (· * 2 ^ (32 - bits)) h

/-! ## The listed ranges -/

/-- The listed ranges as words. -/
def blockedV4Words : List (BitVec 32 × Nat) :=
  [(0x00000000, 8), (0x0a000000, 8), (0x64400000, 10), (0x7f000000, 8),
    (0xa9fe0000, 16), (0xac100000, 12), (0xc0000000, 24), (0xc0000200, 24),
    (0xc0a80000, 16), (0xc6120000, 15), (0xc6336400, 24), (0xcb007100, 24),
    (0xe0000000, 4), (0xf0000000, 4)]

theorem blockedV4Ranges_eq :
    blockedV4Ranges = blockedV4Words.map fun range => (dotted range.1, range.2) := by
  decide +kernel

section Policy

variable {isIPv6 : String → Bool} {addressOf : String → Option IPv6}

theorem isIPv4_dotted (a : BitVec 32) : isIPv4 (dotted a) = true :=
  Js.isIPv4_dottedText rfl (Js.octetsOf_lt a)

/-- **On IPv4** the policy is membership in the listed ranges. -/
theorem blocked_v4_iff (a : BitVec 32) :
    blockedAddress isIPv6 addressOf (dotted a) = true ↔
      ∃ range ∈ blockedV4Words, InCidr range.1 range.2 a := by
  have hbits : ∀ range ∈ blockedV4Words, range.2 ≠ 0 := by decide
  rw [blockedAddress, blockedStep_v4 (isIPv4_dotted a), blockedV4Ranges_eq, List.any_map,
    List.any_eq_true]
  refine exists_congr fun range => and_congr_right fun hrange => ?_
  exact inV4Range_iff (hbits range hrange)

/-! ## Canonical texts -/

theorem toLower_of_isLowerDigit {c : Char} (h : isLowerDigit c = true) : c.toLower = c :=
  isLowerDigit_ind (motive := fun c => isLowerDigit c = true → c.toLower = c) (by decide) h h

theorem digits_isLowerDigit (n : Nat) : ∀ c ∈ Nat.toDigits 16 n, isLowerDigit c = true := by
  have hdigit : ∀ d : Fin 16, isLowerDigit (Nat.digitChar d) = true := by decide
  induction n using Nat.strongRecOn with
  | _ n ih =>
      intro c hc
      by_cases hn : n < 16
      · rw [Nat.toDigits_of_lt_base hn] at hc
        obtain rfl := List.mem_singleton.mp hc
        exact hdigit ⟨n, hn⟩
      · rw [Nat.toDigits_of_base_le (by decide) (by omega), List.mem_append] at hc
        rcases hc with hc | hc
        · exact ih (n / 16) (by omega) c hc
        · obtain rfl := List.mem_singleton.mp hc
          exact hdigit ⟨n % 16, by omega⟩

/-- The digits of a piece are a group. -/
theorem isHexGroup_toDigits (p : Fin 65536) : isHexGroup (Nat.toDigits 16 p) = true := by
  have hpos : 1 ≤ (Nat.toDigits 16 p).length := Nat.length_toDigits_pos
  have hshort : (Nat.toDigits 16 p).length ≤ 4 :=
    (Nat.length_toDigits_le_iff (by decide) (by decide)).mpr p.isLt
  simp only [isHexGroup, hpos, hshort, decide_true, Bool.true_and, List.all_eq_true]
  exact digits_isLowerDigit p

theorem parseHex_toDigits (n : Nat) : parseHex (Nat.toDigits 16 n) = n := by
  rw [parseHex, Js.readRadix_toDigits, Option.getD_some]

theorem not_colon_of_digits (n : Nat) : ':' ∉ Nat.toDigits 16 n := by
  intro hcolon
  exact absurd (digits_isLowerDigit n ':' hcolon) (by decide)

theorem count_colon_digits (n : Nat) : (Nat.toDigits 16 n).count ':' = 0 :=
  List.count_eq_zero.mpr (not_colon_of_digits n)

theorem count_colon_halves (a : BitVec 32) : (halvesText a).count ':' = 1 := by
  rw [halvesText, List.count_append, List.count_cons_self, count_colon_digits, count_colon_digits]

/-- What matches as a pair of groups holds one colon. -/
theorem count_colon_of_hexPair {l : List Char} (h : (hexPair l).isSome) : l.count ':' = 1 := by
  obtain ⟨⟨high, low⟩, hpair⟩ := Option.isSome_iff_exists.mp h
  obtain ⟨rfl, hhigh, hlow⟩ := hexPair_eq_some hpair
  have hnone : ∀ {g : List Char}, isHexGroup g = true → g.count ':' = 0 := by
    intro g hg
    refine List.count_eq_zero.mpr fun hcolon => ?_
    simp only [isHexGroup, Bool.and_eq_true, List.all_eq_true] at hg
    exact absurd (hg.2 ':' hcolon) (by decide)
  rw [List.count_append, List.count_cons_self, hnone hhigh, hnone hlow]

theorem hexPair_eq_none {l : List Char} (h : l.count ':' ≠ 1) : hexPair l = none := by
  by_contra hne
  exact h (count_colon_of_hexPair (Option.isSome_iff_ne_none.mpr hne))

theorem hexPair_halves (a : BitVec 32) :
    hexPair (halvesText a) = some (Nat.toDigits 16 (highHalf a), Nat.toDigits 16 (lowHalf a)) := by
  have hsplit : (halvesText a).splitOn ':' =
      [Nat.toDigits 16 (highHalf a), Nat.toDigits 16 (lowHalf a)] := by
    have hjoined : halvesText a =
        [':'].intercalate [Nat.toDigits 16 (highHalf a), Nat.toDigits 16 (lowHalf a)] := by
      simp [halvesText, List.intercalate]
    rw [hjoined]
    refine List.splitOn_intercalate ':' (fun l hl => ?_) (by simp)
    rcases List.mem_pair.mp hl with rfl | rfl
    · exact not_colon_of_digits _
    · exact not_colon_of_digits _
  rw [hexPair, hsplit]
  simp only [isHexGroup_toDigits, Bool.and_self, if_true]

/-- An alternative with at least as many colons leaves none for a pair of groups. -/
theorem alternative_eq_none {alternative l : List Char} (h : l.count ':' ≤ alternative.count ':') :
    (alternative.isPrefixOf? l).bind hexPair = none := by
  rcases hrest : alternative.isPrefixOf? l with _ | rest
  · rfl
  · obtain rfl := Js.eq_append_of_isPrefixOf? hrest
    rw [List.count_append] at h
    exact hexPair_eq_none (by omega)

/-! ## The match -/

/-- The halves as groups. -/
def halfGroups (a : BitVec 32) : List Char × List Char :=
  (Nat.toDigits 16 (highHalf a), Nat.toDigits 16 (lowHalf a))

theorem mappedHex_mapped (a : BitVec 32) :
    mappedHex ("::ffff:".toList ++ halvesText a) = some (halfGroups a) := by
  show prefixedPair ("ffff:".toList ++ halvesText a) = some (halfGroups a)
  rw [prefixedPair, Js.isPrefixOf?_append, Option.bind_some, hexPair_halves]
  rfl

theorem mappedHex_translated (a : BitVec 32) :
    mappedHex ("::ffff:0:".toList ++ halvesText a) = some (halfGroups a) := by
  -- after `ffff:` there are two colons left, one too many for a pair
  have hfirst : ("ffff:".toList.isPrefixOf? ("ffff:0:".toList ++ halvesText a)).bind hexPair =
      none := by
    have hsplit : "ffff:0:".toList ++ halvesText a = "ffff:".toList ++ ("0:".toList ++ halvesText a) :=
      rfl
    rw [hsplit, Js.isPrefixOf?_append, Option.bind_some]
    refine hexPair_eq_none ?_
    rw [List.count_append, count_colon_halves]
    decide
  show prefixedPair ("ffff:0:".toList ++ halvesText a) = some (halfGroups a)
  rw [prefixedPair, hfirst, Js.isPrefixOf?_append, Option.bind_some, hexPair_halves]
  rfl

/-- Where no alternative matches, the text itself is the pair. -/
theorem prefixedPair_plain {l : List Char} (h : l.count ':' ≤ 1) : prefixedPair l = hexPair l := by
  rw [prefixedPair, alternative_eq_none (Nat.le_trans h (by decide)),
    alternative_eq_none (Nat.le_trans h (by decide))]

theorem mappedHex_compatible (a : BitVec 32) :
    mappedHex ("::".toList ++ halvesText a) = some (halfGroups a) := by
  show prefixedPair (halvesText a) = some (halfGroups a)
  rw [prefixedPair_plain (Nat.le_of_eq (count_colon_halves a)), hexPair_halves]
  rfl

theorem mappedHex_single {l : List Char} (h : l.count ':' = 0) :
    mappedHex ("::".toList ++ l) = none := by
  show prefixedPair l = none
  rw [prefixedPair_plain (by omega), hexPair_eq_none (by omega)]

/-! ## Embedded addresses -/

/-- The halves of an address are printed as its dotted text. -/
theorem mappedText_halves (a : BitVec 32) : mappedText (highHalf a) (lowHalf a) = dotted a := by
  have hmask : ∀ n : Nat, n &&& 255 = n % 256 := fun n => Nat.and_two_pow_sub_one_eq_mod n 8
  have hlt := a.isLt
  have htop : (highHalf a).val >>> 8 = a.toNat / 2 ^ 24 := by
    rw [Nat.shiftRight_eq_div_pow]
    show a.toNat / 65536 / 2 ^ 8 = a.toNat / 2 ^ 24
    omega
  have hlow : (lowHalf a).val >>> 8 = a.toNat / 2 ^ 8 % 256 := by
    rw [Nat.shiftRight_eq_div_pow]
    show a.toNat % 65536 / 2 ^ 8 = a.toNat / 2 ^ 8 % 256
    omega
  have hbottom : (lowHalf a).val % 256 = a.toNat % 256 := by
    show a.toNat % 65536 % 256 = a.toNat % 256
    omega
  rw [mappedText, dotted, Js.octetsOf, hmask, hmask, htop, hlow, hbottom]
  rfl

/-- The canonical text between the brackets. -/
theorem bareHostname_brackets {l : List Char} (h : ∀ c ∈ l, c.toLower = c) :
    bareHostname ('[' :: l ++ [']']) = l := by
  rw [bareHostname, List.cons_append, List.tail_cons, List.dropLast_concat]
  exact (List.map_congr_left h).trans (List.map_id l)

theorem toLower_of_map {l : List Char} (h : l.map Char.toLower = l) : ∀ c ∈ l, c.toLower = c :=
  List.map_inj_left.mp (h.trans (List.map_id l).symm)

theorem toLower_halves (a : BitVec 32) : ∀ c ∈ halvesText a, c.toLower = c := by
  intro c hc
  rw [halvesText, List.mem_append, List.mem_cons] at hc
  rcases hc with hc | rfl | hc
  · exact toLower_of_isLowerDigit (digits_isLowerDigit _ c hc)
  · decide
  · exact toLower_of_isLowerDigit (digits_isLowerDigit _ c hc)

/-- A step on an IPv6 text whose canonical text is `l`. -/
theorem blockedAddress_of_text {ip : String} {address : IPv6} {l : List Char}
    (hfamily : isIP isIPv6 ip = 6) (haddress : addressOf ip = some address)
    (hserialize : address.serialize = l) (hlower : ∀ c ∈ l, c.toLower = c) :
    blockedAddress isIPv6 addressOf ip =
      match mappedHex l with
      | some (high, low) => blockedAddress isIPv6 addressOf (mappedText (parseHex high) (parseHex low))
      | none => isBlockedV6Text l := by
  have hne : isIP isIPv6 ip ≠ 4 := by
    rw [hfamily]
    decide
  have hhostname : urlHostname addressOf ip = some ('[' :: l ++ [']']) := by
    rw [urlHostname, haddress, Option.map_some, hserialize]
  rw [blockedAddress_eq, blockedStep, if_neg hne, if_pos hfamily, hhostname]
  show (match mappedHex (bareHostname ('[' :: l ++ [']'])) with
    | some (high, low) => blockedAddress isIPv6 addressOf (mappedText (parseHex high) (parseHex low))
    | none => isBlockedV6Text (bareHostname ('[' :: l ++ [']']))) = _
  rw [bareHostname_brackets hlower]

/-- Where the halves are matched, the verdict is that for the embedded address. -/
theorem blockedAddress_embedded {ip : String} {address : IPv6} {head : List Char} {a : BitVec 32}
    (hfamily : isIP isIPv6 ip = 6) (haddress : addressOf ip = some address)
    (hserialize : address.serialize = head ++ halvesText a) (hlower : ∀ c ∈ head, c.toLower = c)
    (hmatch : mappedHex (head ++ halvesText a) = some (halfGroups a)) :
    blockedAddress isIPv6 addressOf ip = blockedAddress isIPv6 addressOf (dotted a) := by
  have hboth : ∀ c ∈ head ++ halvesText a, c.toLower = c := by
    intro c hc
    rcases List.mem_append.mp hc with hc | hc
    · exact hlower c hc
    · exact toLower_halves a c hc
  rw [blockedAddress_of_text hfamily haddress hserialize hboth, hmatch]
  simp only [halfGroups, parseHex_toDigits, mappedText_halves]

/-! ## The gap -/

/-- A text that starts with a colon is blocked only as `::` or `::1`. -/
theorem isBlockedV6Text_colons (l : List Char) :
    isBlockedV6Text ("::".toList ++ l) = (decide (l = []) || decide (l = ['1'])) := by
  have hprefixes : (blockedV6Prefixes.any fun text =>
      text.toList.isPrefixOf ("::".toList ++ l)) = false := by
    have hheads : ∀ text ∈ blockedV6Prefixes, ∃ c rest, text.toList = c :: rest ∧ c ≠ ':' := by
      have hfirst : ∀ text ∈ blockedV6Prefixes, text.toList.head?.any (· ≠ ':') = true := by decide
      intro text htext
      have hhead := hfirst text htext
      rcases hchars : text.toList with _ | ⟨c, rest⟩
      · rw [hchars] at hhead
        cases hhead
      · rw [hchars] at hhead
        exact ⟨c, rest, rfl, of_decide_eq_true hhead⟩
    rw [List.any_eq_false]
    intro text htext
    obtain ⟨c, rest, hchars, hne⟩ := hheads text htext
    have hc : (c == ':') = false := beq_eq_false_iff_ne.mpr hne
    rw [hchars]
    show ¬ (c == ':' && rest.isPrefixOf (':' :: l)) = true
    rw [hc]
    exact Bool.false_ne_true
  have hlocal : isLinkLocal ("::".toList ++ l) = false := rfl
  have hany : ("::".toList ++ l = "::".toList) = (l = []) := by simp
  have hone : ("::".toList ++ l = "::1".toList) = (l = ['1']) := by simp
  simp only [isBlockedV6Text, hprefixes, hlocal, hany, hone, Bool.or_false]

theorem toDigits_eq_one {n : Nat} : Nat.toDigits 16 n = ['1'] ↔ n = 1 := by
  constructor
  · intro h
    rw [← parseHex_toDigits n, h]
    decide
  · rintro rfl
    decide

/-- The compatible addresses the pattern does not see: `::2` to `::ffff`. -/
def MissedCompatible (kind : Embedding) (a : BitVec 32) : Prop :=
  kind = .compatible ∧ 2 ≤ a.toNat ∧ a.toNat < 65536

/-- Addresses below 2¹⁶ are in `0.0.0.0/8`. -/
theorem blocked_of_small {a : BitVec 32} (h : a.toNat < 65536) :
    blockedAddress isIPv6 addressOf (dotted a) = true := by
  refine (blocked_v4_iff a).mpr ⟨(0x00000000, 8), List.mem_cons_self, ?_⟩
  show a.toNat / 2 ^ 24 = 0 / 2 ^ 24
  omega

theorem highHalf_eq_zero {a : BitVec 32} : highHalf a = 0 ↔ a.toNat < 65536 := by
  rw [Fin.ext_iff]
  show a.toNat / 65536 = 0 ↔ a.toNat < 65536
  omega

/-- With an upper half of zero, `::a` is blocked only for 0 and 1. -/
theorem blocked_compatible_small {ip : String} {a : BitVec 32} (hfamily : isIP isIPv6 ip = 6)
    (haddress : addressOf ip = some (embed .compatible a)) (h : a.toNat < 65536) :
    blockedAddress isIPv6 addressOf ip = decide (a.toNat < 2) := by
  have hserialize := Js.serialize_compatible_zero (highHalf_eq_zero.mpr h)
  have hlow : (lowHalf a).val = a.toNat := Nat.mod_eq_of_lt h
  have hzero : lowHalf a = 0 ↔ a.toNat = 0 := by
    rw [Fin.ext_iff, hlow]
    rfl
  by_cases ha : a.toNat = 0
  · rw [if_pos (hzero.mpr ha)] at hserialize
    rw [blockedAddress_of_text hfamily haddress hserialize (toLower_of_map rfl), mappedHex_single rfl,
      ha]
    exact isBlockedV6Text_colons []
  · rw [if_neg (fun h => ha (hzero.mp h)), hlow] at hserialize
    have hcolons : ∀ c ∈ "::".toList, c.toLower = c := toLower_of_map rfl
    have hlower : ∀ c ∈ "::".toList ++ Nat.toDigits 16 a.toNat, c.toLower = c := by
      intro c hc
      rcases List.mem_append.mp hc with hc | hc
      · exact hcolons c hc
      · exact toLower_of_isLowerDigit (digits_isLowerDigit _ c hc)
    rw [blockedAddress_of_text hfamily haddress hserialize hlower,
      mappedHex_single (count_colon_digits _)]
    show isBlockedV6Text ("::".toList ++ Nat.toDigits 16 a.toNat) = decide (a.toNat < 2)
    rw [isBlockedV6Text_colons, decide_eq_false Nat.toDigits_ne_nil, Bool.false_or]
    refine decide_eq_decide.mpr ?_
    rw [toDigits_eq_one]
    omega

/-- **An embedded address** gets the verdict of the address it embeds, outside the gap. -/
theorem embedded_verdict_iff {ip : String} {kind : Embedding} {a : BitVec 32}
    (hfamily : isIP isIPv6 ip = 6) (haddress : addressOf ip = some (embed kind a)) :
    blockedAddress isIPv6 addressOf ip = blockedAddress isIPv6 addressOf (dotted a) ↔
      ¬ MissedCompatible kind a := by
  rcases kind with _ | _ | _
  · by_cases hsmall : a.toNat < 65536
    · rw [blocked_compatible_small hfamily haddress hsmall, blocked_of_small hsmall,
        decide_eq_true_eq]
      constructor
      · rintro hlt ⟨-, hle, -⟩
        omega
      · intro h
        by_contra hge
        exact h ⟨rfl, by omega, hsmall⟩
    · refine iff_of_true ?_ fun h => hsmall h.2.2
      have hhigh : highHalf a ≠ 0 := fun h => hsmall (highHalf_eq_zero.mp h)
      exact blockedAddress_embedded hfamily haddress (Js.serialize_compatible hhigh)
        (toLower_of_map rfl) (mappedHex_compatible a)
  · refine iff_of_true ?_ fun h => by cases h.1
    exact blockedAddress_embedded hfamily haddress (Js.serialize_mapped a)
        (toLower_of_map rfl) (mappedHex_mapped a)
  · refine iff_of_true ?_ fun h => by cases h.1
    exact blockedAddress_embedded hfamily haddress (Js.serialize_translated a)
        (toLower_of_map rfl) (mappedHex_translated a)

end Policy

/-! ## Both clients -/

/-- On every IPv4 address the policy is membership in the listed ranges; on every text of an IPv6
address that embeds one it agrees with the embedded address exactly outside the gap. -/
structure PolicyExact (isIPv6 : String → Bool) (addressOf : String → Option IPv6)
    (blocked : String → Bool) : Prop where
  v4 : ∀ a, blocked (dotted a) = true ↔ ∃ range ∈ blockedV4Words, InCidr range.1 range.2 a
  embedded : ∀ ip kind a, isIP isIPv6 ip = 6 → addressOf ip = some (embed kind a) →
    (blocked ip = blocked (dotted a) ↔ ¬ MissedCompatible kind a)

theorem policy_exact (isIPv6 : String → Bool) (addressOf : String → Option IPv6) :
    PolicyExact isIPv6 addressOf (blockedAddress isIPv6 addressOf) where
  v4 := blocked_v4_iff
  embedded := fun _ _ _ hfamily haddress => embedded_verdict_iff hfamily haddress

/-- The blocked-address policy of both clients. -/
theorem blocked_policy_iff (isIPv6 : String → Bool) (addressOf : String → Option IPv6) :
    PolicyExact isIPv6 addressOf (isBlockedIp isIPv6 addressOf) ∧
      PolicyExact isIPv6 addressOf (isBlockedRpcIp isIPv6 addressOf) :=
  ⟨policy_exact isIPv6 addressOf, policy_exact isIPv6 addressOf⟩

theorem blocked_policy_iff_loopback :
    isBlockedIp (· = "::ffff:127.0.0.1") (fun _ => some (embed .mapped 0x7f000001))
        "::ffff:127.0.0.1" =
      isBlockedIp (· = "::ffff:127.0.0.1") (fun _ => some (embed .mapped 0x7f000001))
        (dotted 0x7f000001) := by
  refine ((blocked_policy_iff _ _).1.embedded _ .mapped 0x7f000001 (by decide +kernel) rfl).mpr ?_
  intro h
  cases h.1

/-- `::2` is let through; the address it embeds, 0.0.0.2, is blocked. -/
theorem compatible_two_unblocked :
    isIP (· = "::2") "::2" = 6 ∧
      isBlockedIp (· = "::2") (fun _ => some (embed .compatible 2)) "::2" = false ∧
      isBlockedIp (· = "::2") (fun _ => some (embed .compatible 2)) (dotted 2) = true := by
  have hfamily : isIP (· = "::2") "::2" = 6 := by decide +kernel
  refine ⟨hfamily, ?_, blocked_of_small (by decide)⟩
  show blockedAddress (· = "::2") (fun _ => some (embed .compatible 2)) "::2" = false
  exact blocked_compatible_small (a := 2) hfamily rfl (by decide)

end CellFlow
