/-
# CellFlow.Properties.WebhookSignatures — a signature binds the body and its time.

A header is accepted exactly when the numbers are in range and its digits are those of the signature
in some case (`verify_iff`).  The signed text splits at the first dot after its timestamp, so it
determines timestamp and body as long as a timestamp is printed without a dot
(`canonicalMessage_inj`).  Numbers from 10²¹ on are printed with an exponent and may hold one.
-/
import CellFlow.Core.HexText
import CellFlow.Lib.JsonText
import CellFlow.Webhooks.Signature
import Mathlib.Data.Set.Function

namespace CellFlow

open Js (hexOf bytesOfHex isHexDigits)

/-! ## What is relied on -/

/-- The integers a double can be. -/
def IsDouble (n : Int) : Prop := ∃ (m : Int) (k : Nat), m.natAbs ≤ 2 ^ 53 ∧ n = m * 2 ^ k

theorem Numeric.isDouble_of_safe {x : Numeric} {n : Int} (h : x.safe = some n) :
    IsDouble n ∧ n.natAbs < 10 ^ 21 := by
  unfold Numeric.safe at h
  split at h
  · split_ifs at h with hsmall
    obtain rfl := Option.some.inj h
    refine ⟨⟨_, 0, hsmall.le, by simp⟩, ?_⟩
    exact lt_trans hsmall (by decide)
  · cases h

theorem Numeric.integer_of_safe {x : Numeric} {n : Int} (h : x.safe = some n) : x = .integer n := by
  unfold Numeric.safe at h
  split at h
  · split_ifs at h
    rw [Option.some.inj h]
  · cases h

/-- A printed number is read back as the same number, and below 10²¹ it has no fraction point. -/
structure PrintsNumbers (numberText : Int → String) : Prop where
  undotted : ∀ n, IsDouble n → n.natAbs < 10 ^ 21 → '.' ∉ (numberText n).toList
  roundTrips : ∀ m n, IsDouble m → IsDouble n → numberText m = numberText n → m = n

/-! ## Acceptance -/

section Acceptance

variable {hmac : String → String → Digest} {numberText : Int → String} {clock : Int}
  {input : VerifyInput}

theorem length_signWebhook {rawBody secret : String} {timestamp : Int} :
    (signWebhook hmac numberText rawBody timestamp secret).toList.length = 64 := by
  rw [signWebhook, String.toList_ofList, Js.length_hexOf, Digest.length_eq]

/-- The bytes of the presented digits are those of the digest when the texts agree but for case. -/
theorem presented_iff {presented : List Char} {digest : Digest} (hlength : presented.length = 64)
    (hhex : isHexDigits presented = true) :
    bytesOfHex presented = bytesOfHex (hexOf digest.bytes) ↔
      SameHex (String.ofList presented) (String.ofList (hexOf digest.bytes)) := by
  rw [Js.bytesOfHex_hexOf, Js.bytesOfHex_eq_iff (n := 32) hlength hhex, SameHex, toLowerCase,
    toLowerCase, String.toList_ofList, String.toList_ofList, Js.map_toLower_hexOf,
    String.ofList_inj]

/-- When a header is accepted. -/
structure Accepted (hmac : String → String → Digest) (numberText : Int → String) (clock : Int)
    (input : VerifyInput) (now timestamp tolerance : Int) : Prop where
  now_safe : (input.now.getD (.integer clock)).safe = some now
  timestamp_safe : input.timestamp.safe = some timestamp
  tolerance_safe : (input.toleranceSeconds.getD (.integer 300)).safe = some tolerance
  bounds : 0 ≤ tolerance ∧ tolerance ≤ 3600
  recent : (now - timestamp).natAbs ≤ tolerance
  length : (presentedSignature input.signatureHeader).length = 64
  digits : isHexDigits (presentedSignature input.signatureHeader) = true
  same : SameHex (String.ofList (presentedSignature input.signatureHeader))
    (signWebhook hmac numberText input.rawBody timestamp input.secret)

/-- **A header is accepted** exactly when the numbers are safe and in range and it presents the
signature, in any case. -/
theorem verify_iff :
    verifyWebhookSignature hmac numberText clock input = true ↔
      ∃ now timestamp tolerance, Accepted hmac numberText clock input now timestamp tolerance := by
  constructor
  · intro h
    simp only [verifyWebhookSignature] at h
    split at h
    next now timestamp tolerance hnow htimestamp htolerance =>
      split_ifs at h with hrange hshape
      rw [not_or, not_or, not_lt, not_lt, not_lt] at hrange
      refine ⟨now, timestamp, tolerance, hnow, htimestamp, htolerance, ⟨hrange.1, hrange.2.1⟩,
        hrange.2.2, hshape.1, hshape.2, ?_⟩
      rw [Bool.and_eq_true, decide_eq_true_eq, signWebhook, String.toList_ofList] at h
      exact (presented_iff hshape.1 hshape.2).mp h.2
    · cases h
  · rintro ⟨now, timestamp, tolerance, hnow, htimestamp, htolerance, hbounds, hrecent, hlength,
      hdigits, hsame⟩
    have hrange : ¬ (tolerance < 0 ∨ tolerance > 3600 ∨
        ((now - timestamp).natAbs : Int) > tolerance) := by omega
    have hbytes := (presented_iff hlength hdigits).mpr hsame
    have hcount : (bytesOfHex (hexOf
        (hmac input.secret (canonicalMessage numberText input.rawBody timestamp)).bytes)).length =
        32 := by
      rw [Js.bytesOfHex_hexOf]
      exact Digest.length_eq _
    simp only [verifyWebhookSignature, hnow, htimestamp, htolerance, if_neg hrange, hlength, hdigits,
      and_self, not_true_eq_false, if_false, signWebhook, String.toList_ofList, hbytes, hcount]
    decide

end Acceptance

/-- The digits of a header that is sent. -/
theorem presented_signatureHeader (hmac : String → String → Digest) (numberText : Int → String)
    (rawBody : String) (timestamp : Int) (secret : String) :
    presentedSignature (signatureHeader hmac numberText rawBody timestamp secret) =
      (signWebhook hmac numberText rawBody timestamp secret).toList := by
  have hchars : (signatureHeader hmac numberText rawBody timestamp secret).toList =
      'v' :: '1' :: '=' :: (signWebhook hmac numberText rawBody timestamp secret).toList := by
    simp [signatureHeader]
  rw [presentedSignature, hchars]
  rfl

/-- **A delivered signature** is accepted by a receiver whose clock is within the tolerance. -/
theorem delivered_signature_accepted (hmac : String → String → Digest) (numberText : Int → String)
    {rawBody secret : String} {timestamp now tolerance clock : Int}
    (htimestamp : (Numeric.integer timestamp).safe = some timestamp)
    (hnow : (Numeric.integer now).safe = some now) (hbounds : 0 ≤ tolerance ∧ tolerance ≤ 3600)
    (hrecent : (now - timestamp).natAbs ≤ tolerance) :
    verifyWebhookSignature hmac numberText clock
      { rawBody := rawBody, timestamp := .integer timestamp
        signatureHeader := signatureHeader hmac numberText rawBody timestamp secret
        secret := secret, now := some (.integer now)
        toleranceSeconds := some (.integer tolerance) } = true := by
  refine verify_iff.mpr ⟨now, timestamp, tolerance, hnow, htimestamp, ?_, hbounds, hrecent, ?_, ?_, ?_⟩
  · have hsafe : tolerance.natAbs < 2 ^ 53 := by omega
    exact if_pos hsafe
  · rw [presented_signatureHeader]
    exact length_signWebhook
  · rw [presented_signatureHeader, signWebhook, String.toList_ofList]
    exact Js.isHexDigits_hexOf _
  · rw [presented_signatureHeader, String.ofList_toList]
    rfl

/-! ## The signed text -/

/-- A text splits at its first dot in one way. -/
theorem split_at_dot {a a' b b' : List Char} (ha : '.' ∉ a) (ha' : '.' ∉ a')
    (h : a ++ '.' :: b = a' ++ '.' :: b') : a = a' ∧ b = b' := by
  induction a generalizing a' with
  | nil =>
      rcases a' with _ | ⟨c', a'⟩
      · exact ⟨rfl, (List.cons.inj h).2⟩
      · obtain ⟨rfl, -⟩ := List.cons.inj h
        exact absurd List.mem_cons_self ha'
  | cons c a ih =>
      rcases a' with _ | ⟨c', a'⟩
      · obtain ⟨rfl, -⟩ := List.cons.inj h
        exact absurd List.mem_cons_self ha
      · obtain ⟨rfl, hrest⟩ := List.cons.inj h
        obtain ⟨rfl, rfl⟩ := ih (fun hmem => ha (List.mem_cons_of_mem c hmem))
          (fun hmem => ha' (List.mem_cons_of_mem c hmem)) hrest
        exact ⟨rfl, rfl⟩

theorem canonicalMessage_chars (numberText : Int → String) (rawBody : String) (timestamp : Int) :
    (canonicalMessage numberText rawBody timestamp).toList =
      "v1.".toList ++ ((numberText timestamp).toList ++ '.' :: rawBody.toList) := by
  simp [canonicalMessage]

/-- **The signed text** determines its timestamp and body. -/
theorem canonicalMessage_inj {numberText : Int → String} (hprints : PrintsNumbers numberText)
    {timestamp timestamp' : Int} (ht : IsDouble timestamp) (ht' : IsDouble timestamp')
    (hsmall : timestamp.natAbs < 10 ^ 21) (hsmall' : timestamp'.natAbs < 10 ^ 21)
    {rawBody rawBody' : String}
    (h : canonicalMessage numberText rawBody timestamp =
      canonicalMessage numberText rawBody' timestamp') :
    timestamp = timestamp' ∧ rawBody = rawBody' := by
  have hchars := congrArg String.toList h
  rw [canonicalMessage_chars, canonicalMessage_chars] at hchars
  obtain ⟨htext, hbody⟩ := split_at_dot (hprints.undotted timestamp ht hsmall)
    (hprints.undotted timestamp' ht' hsmall') (List.append_cancel_left hchars)
  exact ⟨hprints.roundTrips _ _ ht ht' (String.toList_inj.mp htext), String.toList_inj.mp hbody⟩

/-! ## Binding -/

/-- A header that presents the signature of `rawBody` at `timestamp`, in any case. -/
def MadeFor (hmac : String → String → Digest) (numberText : Int → String) (header rawBody : String)
    (timestamp : Int) (secret : String) : Prop :=
  SameHex (String.ofList (presentedSignature header))
    (signWebhook hmac numberText rawBody timestamp secret)

theorem signWebhook_eq_iff {hmac : String → String → Digest} {numberText : Int → String}
    {rawBody rawBody' secret secret' : String} {timestamp timestamp' : Int} :
    SameHex (signWebhook hmac numberText rawBody timestamp secret)
        (signWebhook hmac numberText rawBody' timestamp' secret') ↔
      hmac secret (canonicalMessage numberText rawBody timestamp) =
        hmac secret' (canonicalMessage numberText rawBody' timestamp') := by
  rw [SameHex, toLowerCase, toLowerCase, signWebhook, signWebhook, String.toList_ofList,
    String.toList_ofList, Js.map_toLower_hexOf, Js.map_toLower_hexOf, String.ofList_inj]
  constructor
  · intro h
    have hbytes := Js.hexOf_inj h
    generalize hmac secret _ = digest at hbytes ⊢
    generalize hmac secret' _ = digest' at hbytes ⊢
    cases digest
    cases digest'
    cases hbytes
    rfl
  · intro h
    rw [h]

/-- What a signature is worth.  HMAC need be injective only on the pairs of secret and text in `used`,
any set that holds the two pairs compared. -/
structure SignatureBinds (hmac : String → String → Digest) (numberText : Int → String) : Prop where
  accepts_iff : ∀ clock input, verifyWebhookSignature hmac numberText clock input = true ↔
    ∃ now timestamp tolerance, Accepted hmac numberText clock input now timestamp tolerance
  determines : ∀ timestamp timestamp', IsDouble timestamp → IsDouble timestamp' →
    timestamp.natAbs < 10 ^ 21 → timestamp'.natAbs < 10 ^ 21 → ∀ rawBody rawBody',
    canonicalMessage numberText rawBody timestamp =
      canonicalMessage numberText rawBody' timestamp' →
    timestamp = timestamp' ∧ rawBody = rawBody'
  binds : ∀ used : Set (String × String), Set.InjOn (fun pair => hmac pair.1 pair.2) used →
    ∀ rawBody timestamp secret, IsDouble timestamp → timestamp.natAbs < 10 ^ 21 →
    (secret, canonicalMessage numberText rawBody timestamp) ∈ used →
    ∀ clock input, MadeFor hmac numberText input.signatureHeader rawBody timestamp secret →
    (∀ timestamp', input.timestamp = .integer timestamp' →
      (input.secret, canonicalMessage numberText input.rawBody timestamp') ∈ used) →
    verifyWebhookSignature hmac numberText clock input = true →
    input.timestamp = .integer timestamp ∧ input.rawBody = rawBody ∧ input.secret = secret

/-- Webhook signatures are accepted exactly as stated and bind the body and its time. -/
theorem signature_binds (hmac : String → String → Digest) (numberText : Int → String)
    (hprints : PrintsNumbers numberText) : SignatureBinds hmac numberText where
  accepts_iff := fun _ _ => verify_iff
  determines := by
    intro timestamp timestamp' ht ht' hsmall hsmall' rawBody rawBody' h
    exact canonicalMessage_inj hprints ht ht' hsmall hsmall' h
  binds := by
    intro used hinj rawBody timestamp secret ht hsmall hmem clock input hmade hused hverify
    obtain ⟨now, timestamp', tolerance, accepted⟩ := verify_iff.mp hverify
    have hinteger := Numeric.integer_of_safe accepted.timestamp_safe
    obtain ⟨ht', hsmall'⟩ := Numeric.isDouble_of_safe accepted.timestamp_safe
    have hdigest := signWebhook_eq_iff.mp (hmade.symm.trans accepted.same)
    obtain ⟨hsecret, htext⟩ := Prod.mk.inj (hinj hmem (hused timestamp' hinteger) hdigest)
    obtain ⟨rfl, hbody⟩ := canonicalMessage_inj hprints ht ht' hsmall hsmall' htext
    exact ⟨hinteger, hbody.symm, hsecret.symm⟩

/-! ## Printed numbers -/

/-- An integer in decimal. -/
def plainText (n : Int) : String := String.ofList (Js.Number.ofInt n).text

theorem plainText_chars (n : Int) :
    (plainText n).toList = (if n < 0 then ['-'] else []) ++ Nat.toDigits 10 n.natAbs := by
  rw [plainText, String.toList_ofList, Js.Number.text_eq]
  simp [Js.Number.ofInt, Js.Number.fractionText]

theorem plainText_undotted (n : Int) : '.' ∉ (plainText n).toList := by
  rw [plainText_chars, List.mem_append, not_or]
  constructor
  · split <;> decide
  · intro hdot
    exact absurd (Js.digits_isDigit n.natAbs '.' hdot) (by decide)

theorem plainText_inj {m n : Int} (h : plainText m = plainText n) : m = n := by
  have hchars : (Js.Number.ofInt m).text ++ [] = (Js.Number.ofInt n).text ++ [] := by
    rw [List.append_nil, List.append_nil]
    exact String.ofList_injective h
  have hsame := (Js.Number.text_append_inj Js.ends_nil Js.ends_nil hchars).1
  rw [← Js.Number.floor_ofInt m, hsame, Js.Number.floor_ofInt]

/-- Integers in decimal, but one number past 10²¹ with its exponent, as it is printed. -/
def decimalText (n : Int) : String := if n = 15 * 10 ^ 20 then "1.5e+21" else plainText n

theorem decimalText_prints : PrintsNumbers decimalText where
  undotted := by
    intro n _ hsmall
    have hn : n ≠ 15 * 10 ^ 20 := by
      rintro rfl
      exact absurd hsmall (by decide)
    rw [decimalText, if_neg hn]
    exact plainText_undotted n
  roundTrips := by
    intro m n _ _ h
    have hlarge : ∀ k, plainText k ≠ "1.5e+21" := by
      intro k hk
      exact plainText_undotted k (hk ▸ by decide)
    unfold decimalText at h
    split_ifs at h with hm hn hn
    · exact hm.trans hn.symm
    · exact absurd h.symm (hlarge n)
    · exact absurd h (hlarge m)
    · exact plainText_inj h

/-- The digest of the texts a run never signs. -/
def blankDigest : Digest := ⟨List.replicate 32 0, List.length_replicate⟩

/-- HMAC-SHA256 of `v1.1.x` and `v1.1.y` under `secret`. -/
def sampleHmac (secret text : String) : Digest :=
  if secret = "secret" ∧ text = "v1.1.x" then
    { bytes := [64, 175, 58, 239, 181, 47, 62, 110, 141, 169, 209, 112, 220, 23, 29, 188, 34, 80, 56,
        224, 98, 24, 32, 98, 244, 56, 137, 53, 41, 55, 45, 193]
      length_eq := rfl }
  else if secret = "secret" ∧ text = "v1.1.y" then
    { bytes := [3, 236, 11, 246, 15, 204, 9, 92, 236, 49, 128, 200, 87, 83, 4, 11, 133, 176, 82, 251, 43,
        55, 66, 144, 151, 97, 208, 81, 196, 188, 39, 101]
      length_eq := rfl }
  else blankDigest

/-- A body presented at second 1 with the header made for `x`. -/
def presented (rawBody : String) : VerifyInput where
  rawBody := rawBody
  timestamp := .integer 1
  signatureHeader := signatureHeader sampleHmac decimalText "x" 1 "secret"
  secret := "secret"
  now := none
  toleranceSeconds := none

/-- The header is accepted for `x` and not for `y`. -/
theorem signature_binds_decimal :
    verifyWebhookSignature sampleHmac decimalText 1 (presented "x") = true ∧
      ((presented "x").timestamp = .integer 1 ∧ (presented "x").rawBody = "x" ∧
        (presented "x").secret = "secret") ∧
      verifyWebhookSignature sampleHmac decimalText 1 (presented "y") = false := by
  have hbinds := signature_binds sampleHmac decimalText decimalText_prints
  have hone : decimalText 1 = "1" := by decide +kernel
  have htext : ∀ rawBody, canonicalMessage decimalText rawBody 1 = "v1.1." ++ rawBody := by
    intro rawBody
    rw [canonicalMessage, hone]
    rfl
  let used : Set (String × String) := {("secret", "v1.1.x"), ("secret", "v1.1.y")}
  have hinj : Set.InjOn (fun pair => sampleHmac pair.1 pair.2) used := by
    have hdiffer : sampleHmac "secret" "v1.1.x" ≠ sampleHmac "secret" "v1.1.y" := by decide
    rintro pair (rfl | rfl) other (rfl | rfl) hsame
    · rfl
    · exact absurd hsame hdiffer
    · exact absurd hsame.symm hdiffer
    · rfl
  have hmade : MadeFor sampleHmac decimalText (signatureHeader sampleHmac decimalText "x" 1 "secret")
      "x" 1 "secret" := by
    rw [MadeFor, presented_signatureHeader, String.ofList_toList]
    rfl
  have hbound : ∀ rawBody, ("secret", "v1.1." ++ rawBody) ∈ used →
      verifyWebhookSignature sampleHmac decimalText 1 (presented rawBody) = true →
      (presented rawBody).timestamp = .integer 1 ∧ (presented rawBody).rawBody = "x" ∧
        (presented rawBody).secret = "secret" := by
    intro rawBody hused haccepted
    refine hbinds.binds used hinj "x" 1 "secret" ⟨1, 0, by decide, by decide⟩ (by decide) ?_ 1
      (presented rawBody) hmade ?_ haccepted
    · rw [htext]
      exact Or.inl rfl
    · rintro timestamp' hsame
      obtain rfl : 1 = timestamp' := Numeric.integer.inj hsame
      rw [show (presented rawBody).rawBody = rawBody from rfl, htext]
      exact hused
  have haccepted : verifyWebhookSignature sampleHmac decimalText 1 (presented "x") = true := by
    decide +kernel
  refine ⟨haccepted, hbound "x" (Or.inl rfl) haccepted, ?_⟩
  rw [Bool.eq_false_iff]
  intro haccepted'
  have hbody := (hbound "y" (Or.inr rfl) haccepted').2.1
  exact absurd hbody (by decide)

/-- **The exponent of a large number holds a dot**: a header made for body `x` at 1.5·10²¹ is accepted
for another body at second 1, whatever the digest. -/
theorem large_timestamp_not_bound :
    IsDouble (15 * 10 ^ 20) ∧ decimalText (15 * 10 ^ 20) = "1.5e+21" ∧
      canonicalMessage decimalText "x" (15 * 10 ^ 20) = canonicalMessage decimalText "5e+21.x" 1 ∧
      ∀ hmac, verifyWebhookSignature hmac decimalText 1
        { rawBody := "5e+21.x", timestamp := .integer 1
          signatureHeader := signatureHeader hmac decimalText "x" (15 * 10 ^ 20) "secret"
          secret := "secret", now := none, toleranceSeconds := none } = true := by
  have hlarge : decimalText (15 * 10 ^ 20) = "1.5e+21" := if_pos rfl
  have hone : decimalText 1 = "1" := by decide +kernel
  have hmessage : canonicalMessage decimalText "x" (15 * 10 ^ 20) =
      canonicalMessage decimalText "5e+21.x" 1 := by
    rw [canonicalMessage, canonicalMessage, hlarge, hone]
    decide +kernel
  refine ⟨⟨15 * 5 ^ 20, 20, by decide, by decide⟩, hlarge, hmessage, fun hmac => ?_⟩
  have hheader : signatureHeader hmac decimalText "x" (15 * 10 ^ 20) "secret" =
      signatureHeader hmac decimalText "5e+21.x" 1 "secret" := by
    rw [signatureHeader, signatureHeader, signWebhook, signWebhook, hmessage]
  refine verify_iff.mpr ⟨1, 1, 300, rfl, rfl, rfl, by decide, by decide, ?_, ?_, ?_⟩
  · show (presentedSignature (signatureHeader hmac decimalText "x" (15 * 10 ^ 20) "secret")).length = 64
    rw [presented_signatureHeader]
    exact length_signWebhook
  · show isHexDigits
      (presentedSignature (signatureHeader hmac decimalText "x" (15 * 10 ^ 20) "secret")) = true
    rw [presented_signatureHeader, signWebhook, String.toList_ofList]
    exact Js.isHexDigits_hexOf _
  · show SameHex (String.ofList (presentedSignature
      (signatureHeader hmac decimalText "x" (15 * 10 ^ 20) "secret"))) _
    rw [hheader, presented_signatureHeader, String.ofList_toList]
    rfl

end CellFlow
