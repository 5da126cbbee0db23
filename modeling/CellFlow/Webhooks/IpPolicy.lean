/-
# CellFlow.Webhooks.IpPolicy — the addresses no request goes to (`packages/webhooks/src/ssrf.ts`).

The RPC client has the same policy (`workflows/reconcile/src/rpc.ts`).  Which texts are IPv6
addresses, and which address a text denotes to the URL parser, is the platform's; the hostname of a
parsed URL is the canonical text of that address.
-/
import CellFlow.Core.HexText
import CellFlow.Lib.Ip

namespace CellFlow

open Js (IPv6 isIPv4 readNat)

/-! ## IPv4 -/

/-- `Number(octet)`, as far as `|` sees it: what is no number counts as zero. -/
def octetNumber (octet : List Char) : Nat := (readNat 10 octet).getD 0

/-- The word of an address; numbers are 32-bit words at every step. -/
def ipv4ToInt (ip : String) : BitVec 32 :=
  (ip.toList.splitOn '.').foldl
    (fun acc octet => (acc <<< 8) ||| BitVec.ofNat 32 (octetNumber octet)) 0

/-- `inV4Range`: the bits under the mask agree. -/
def inV4Range (ip base : String) (bits : Nat) : Bool :=
  let mask := if bits = 0 then 0 else BitVec.allOnes 32 <<< (32 - bits)
  (ipv4ToInt ip &&& mask) = (ipv4ToInt base &&& mask)

/-- The ranges no webhook is sent to, in the order of the source. -/
def blockedV4Ranges : List (String × Nat) :=
  [("0.0.0.0", 8), ("10.0.0.0", 8), ("100.64.0.0", 10), ("127.0.0.0", 8),
    ("169.254.0.0", 16), ("172.16.0.0", 12), ("192.0.0.0", 24), ("192.0.2.0", 24),
    ("192.168.0.0", 16), ("198.18.0.0", 15), ("198.51.100.0", 24), ("203.0.113.0", 24),
    ("224.0.0.0", 4), ("240.0.0.0", 4)]

/-! ## IPv6 -/

/-- `[0-9a-f]{1,4}`. -/
def isHexGroup (l : List Char) : Bool := 1 ≤ l.length && l.length ≤ 4 && l.all isLowerDigit

/-- `([0-9a-f]{1,4}):([0-9a-f]{1,4})$`. -/
def hexPair (l : List Char) : Option (List Char × List Char) :=
  match l.splitOn ':' with
  | [high, low] => if isHexGroup high && isHexGroup low then some (high, low) else none
  | _ => none

/-- `(?:(?:ffff:|ffff:0:))?([0-9a-f]{1,4}):([0-9a-f]{1,4})$`; the alternatives are tried in turn. -/
def prefixedPair (rest : List Char) : Option (List Char × List Char) :=
  match ("ffff:".toList.isPrefixOf? rest).bind hexPair with
  | some pair => some pair
  | none =>
      match ("ffff:0:".toList.isPrefixOf? rest).bind hexPair with
      | some pair => some pair
      | none => hexPair rest

/-- `value.match(/^::(?:(?:ffff:|ffff:0:))?([0-9a-f]{1,4}):([0-9a-f]{1,4})$/)`. -/
def mappedHex (value : List Char) : Option (List Char × List Char) :=
  match value with
  | ':' :: ':' :: rest => prefixedPair rest
  | _ => none

/-- `Number.parseInt(text, 16)` on hexadecimal digits. -/
def parseHex (l : List Char) : Nat := (Js.readRadix 16 l 0).getD 0

/-- The dotted text of the two halves. -/
def mappedText (high low : Nat) : String :=
  Js.dottedText [high >>> 8, high &&& 255, low >>> 8, low &&& 255]

/-- `/^fe[89ab]/`. -/
def isLinkLocal (value : List Char) : Bool :=
  match value with
  | 'f' :: 'e' :: c :: _ => ['8', '9', 'a', 'b'].contains c
  | _ => false

/-- The prefixes that are blocked whatever follows them. -/
def blockedV6Prefixes : List String :=
  ["fc", "fd", "ff", "2001:db8", "2002:", "2001::", "2001:0:", "2001:10:", "2001:20:",
    "64:ff9b::", "64:ff9b:1:", "3fff:"]

/-- The texts of a 128-bit address that are blocked. -/
def isBlockedV6Text (value : List Char) : Bool :=
  value = "::".toList || value = "::1".toList || isLinkLocal value ||
    blockedV6Prefixes.any fun text => text.toList.isPrefixOf value

/-! ## The policy -/

section Policy

variable (isIPv6 : String → Bool) (addressOf : String → Option IPv6)

/-- `net.isIP`. -/
def isIP (ip : String) : Nat := if isIPv4 ip then 4 else if isIPv6 ip then 6 else 0

/-- `new URL("http://[" + ip + "]/").hostname`; `none` where it throws. -/
def urlHostname (ip : String) : Option (List Char) :=
  (addressOf ip).map fun address => '[' :: address.serialize ++ [']']

/-- The text between the brackets, in lower case. -/
def bareHostname (hostname : List Char) : List Char := hostname.tail.dropLast.map Char.toLower

/-- One call of the policy; `again` is its call on the embedded IPv4 address. -/
def blockedStep (again : String → Bool) (ip : String) : Bool :=
  if isIP isIPv6 ip = 4 then
    blockedV4Ranges.any fun range => inV4Range ip range.1 range.2
  else if isIP isIPv6 ip = 6 then
    match urlHostname addressOf ip with
    | none => true
    | some hostname =>
        let value := bareHostname hostname
        match mappedHex value with
        | some (high, low) => again (mappedText (parseHex high) (parseHex low))
        | none => isBlockedV6Text value
  else true

/-- The policy of both clients.  Its second call is always on an IPv4 address and makes none. -/
def blockedAddress (ip : String) : Bool :=
  blockedStep isIPv6 addressOf (blockedStep isIPv6 addressOf fun _ => true) ip

/-- `packages/webhooks/src/ssrf.ts`. -/
def isBlockedIp : String → Bool := blockedAddress isIPv6 addressOf

/-- `workflows/reconcile/src/rpc.ts`. -/
def isBlockedRpcIp : String → Bool := blockedAddress isIPv6 addressOf

end Policy

/-! ## What the second call sees -/

section Calls

variable {isIPv6 : String → Bool} {addressOf : String → Option IPv6}

theorem blockedStep_v4 {again : String → Bool} {ip : String} (h : isIPv4 ip = true) :
    blockedStep isIPv6 addressOf again ip =
      blockedV4Ranges.any fun range => inV4Range ip range.1 range.2 := by
  have hfamily : isIP isIPv6 ip = 4 := if_pos h
  exact if_pos hfamily

theorem hexPair_eq_some {l high low : List Char} (h : hexPair l = some (high, low)) :
    l = high ++ ':' :: low ∧ isHexGroup high = true ∧ isHexGroup low = true := by
  unfold hexPair at h
  split at h
  next first second hsplit =>
    split_ifs at h with hgroups
    obtain ⟨rfl, rfl⟩ := Prod.mk.inj (Option.some.inj h)
    rw [Bool.and_eq_true] at hgroups
    have hjoined : [':'].intercalate (l.splitOn ':') = l := List.intercalate_splitOn ':'
    rw [hsplit] at hjoined
    refine ⟨hjoined.symm.trans ?_, hgroups⟩
    simp [List.intercalate]
  · cases h

theorem mappedHex_groups {value high low : List Char} (h : mappedHex value = some (high, low)) :
    isHexGroup high = true ∧ isHexGroup low = true := by
  have hbind : ∀ {o : Option (List Char)}, o.bind hexPair = some (high, low) →
      isHexGroup high = true ∧ isHexGroup low = true := by
    intro o ho
    obtain ⟨l, -, hl⟩ := Option.bind_eq_some_iff.mp ho
    exact (hexPair_eq_some hl).2
  unfold mappedHex at h
  split at h
  next rest =>
    unfold prefixedPair at h
    split at h
    next pair hpair => exact hbind (hpair.trans h)
    next =>
      split at h
      next pair hpair => exact hbind (hpair.trans h)
      next => exact (hexPair_eq_some h).2
  · cases h

theorem readRadix_lt {l : List Char} {acc n : Nat} (h : Js.readRadix 16 l acc = some n) :
    n < (acc + 1) * 16 ^ l.length := by
  induction l generalizing acc with
  | nil =>
      obtain rfl := Option.some.inj h
      simp
  | cons c rest ih =>
      rw [Js.readRadix] at h
      split at h
      next d hd =>
        split_ifs at h with hsmall
        have hrest := ih h
        have hstep : 16 * acc + d + 1 ≤ (acc + 1) * 16 := by omega
        calc n < (16 * acc + d + 1) * 16 ^ rest.length := hrest
          _ ≤ (acc + 1) * 16 * 16 ^ rest.length := Nat.mul_le_mul_right _ hstep
          _ = (acc + 1) * 16 ^ (c :: rest).length := by
            rw [List.length_cons, Nat.pow_succ, Nat.mul_assoc, Nat.mul_comm 16]
      · cases h

/-- A group denotes 16 bits. -/
theorem parseHex_lt {l : List Char} (h : isHexGroup l = true) : parseHex l < 65536 := by
  simp only [isHexGroup, Bool.and_eq_true, decide_eq_true_eq] at h
  rcases hread : Js.readRadix 16 l 0 with _ | n
  · rw [parseHex, hread]
    decide
  · have hlt := readRadix_lt hread
    have hpow : 16 ^ l.length ≤ 16 ^ 4 := Nat.pow_le_pow_right (by decide) h.1.2
    rw [parseHex, hread, Option.getD_some]
    omega

/-- The text of two halves is an IPv4 address. -/
theorem isIPv4_mappedText {high low : Nat} (hhigh : high < 65536) (hlow : low < 65536) :
    isIPv4 (mappedText high low) = true := by
  refine Js.isIPv4_dottedText rfl fun n hn => ?_
  have hshift : ∀ m : Nat, m < 65536 → m >>> 8 < 256 := by
    intro m hm
    rw [Nat.shiftRight_eq_div_pow]
    omega
  have hmask : ∀ m : Nat, m &&& 255 < 256 := fun m => Nat.lt_succ_of_le Nat.and_le_right
  simp only [List.mem_cons, List.not_mem_nil, or_false] at hn
  rcases hn with rfl | rfl | rfl | rfl
  · exact hshift high hhigh
  · exact hmask high
  · exact hshift low hlow
  · exact hmask low

/-- A step asks again for IPv4 addresses only. -/
theorem blockedStep_congr {f g : String → Bool} (h : ∀ ip, isIPv4 ip = true → f ip = g ip)
    (ip : String) :
    blockedStep isIPv6 addressOf f ip = blockedStep isIPv6 addressOf g ip := by
  unfold blockedStep
  split_ifs with h4 h6
  · rfl
  · rcases urlHostname addressOf ip with _ | hostname
    · rfl
    · simp only
      rcases hmapped : mappedHex (bareHostname hostname) with _ | ⟨high, low⟩
      · rfl
      · obtain ⟨hhigh, hlow⟩ := mappedHex_groups hmapped
        exact h _ (isIPv4_mappedText (parseHex_lt hhigh) (parseHex_lt hlow))
  · rfl

/-- **The policy calls itself**: it is the recursion of the source. -/
theorem blockedAddress_eq (ip : String) :
    blockedAddress isIPv6 addressOf ip =
      blockedStep isIPv6 addressOf (blockedAddress isIPv6 addressOf) ip := by
  refine blockedStep_congr (fun ip' h => ?_) ip
  rw [blockedAddress, blockedStep_v4 h, blockedStep_v4 h]

end Calls

end CellFlow
