/-
# CellFlow.Webhooks.Secrets — signing secrets at rest (`packages/webhooks/src/crypto.ts`).

A signing secret is stored under AES-256-GCM, as three texts in base64url: the initialisation vector, the
tag and the sealed bytes.  The cipher and SHA-256 are parameters, and so is what `toString("utf8")` makes
of bytes that are not UTF-8.  A secret is read back as it was, but for the empty one
(`decryptSecret_encryptSecret`).
-/
import CellFlow.Api.Bootstrap

namespace CellFlow

/-! ## Bytes as text -/

/-- `Buffer.from(text, "base64url")`. -/
def ofBase64url (text : List Char) : List UInt8 :=
  Js.ofSextets ((text.takeWhile (· ≠ '=')).filterMap Js.charSextet)

theorem ofBase64url_base64url (bytes : List UInt8) : ofBase64url (base64url bytes) = bytes := by
  have hread : ∀ ns : List (Fin 64),
      ((ns.map Js.sextetChar).takeWhile (· ≠ '=')).filterMap Js.charSextet = ns := by
    intro ns
    induction ns with
    | nil => rfl
    | cons n ns ih =>
        obtain ⟨hsextet, hne⟩ := Js.charSextet_sextetChar n
        rw [List.map_cons, List.takeWhile_cons_of_pos (by simpa using hne),
          List.filterMap_cons_some hsextet, ih]
  rw [ofBase64url, base64url, hread, Js.ofSextets_toSextets]

theorem base64url_eq_nil {bytes : List UInt8} : base64url bytes = [] ↔ bytes = [] := by
  constructor
  · intro h
    have hlength := Js.length_toSextets bytes
    rw [base64url, List.map_eq_nil_iff] at h
    rw [h, List.length_nil] at hlength
    have hzero : bytes.length = 0 := by omega
    exact List.eq_nil_of_length_eq_zero hzero
  · rintro rfl
    rfl

theorem sextetChar_ne_dot : ∀ n : Fin 64, Js.sextetChar n ≠ '.' := by
  decide +kernel

theorem dot_not_mem_base64url (bytes : List UInt8) : '.' ∉ base64url bytes := by
  intro h
  obtain ⟨n, -, hn⟩ := List.mem_map.mp h
  exact sextetChar_ne_dot n hn

/-- `Buffer.from(text, "utf8")`. -/
def utf8Bytes (text : String) : List UInt8 := text.toByteArray.data.toList

theorem utf8Bytes_eq_nil {text : String} : utf8Bytes text = [] ↔ text = "" := by
  constructor
  · intro h
    have hsize : text.toByteArray.size = 0 := by
      show text.toByteArray.data.size = 0
      rw [← Array.length_toList]
      show (utf8Bytes text).length = 0
      rw [h]
      rfl
    exact String.toByteArray_eq_empty_iff.mp (ByteArray.size_eq_zero_iff.mp hsize)
  · rintro rfl
    rfl

/-! ## The cipher -/

/-- `createHash("sha256")`: a key. -/
structure CipherKey where
  bytes : List UInt8
  length_eq : bytes.length = 32

/-- What the code takes from `node:crypto` and `Buffer`.  `cipher` gives the sealed bytes and the tag;
`replaced` is the text of bytes that are not UTF-8. -/
structure CryptoPlatform where
  sha256 : String → CipherKey
  cipher : CipherKey → List UInt8 → List UInt8 → List UInt8 × List UInt8
  decipher : CipherKey → List UInt8 → List UInt8 → List UInt8 → Except String (List UInt8)
  replaced : List UInt8 → String

/-- `randomBytes(12)`. -/
structure InitVector where
  bytes : List UInt8
  length_eq : bytes.length = 12

/-- GCM: what was sealed is opened under the same key and vector; its tag has 16 bytes, and the sealed
bytes are as many as the plain ones. -/
structure CryptoPlatform.IsGcm (platform : CryptoPlatform) : Prop where
  opens : ∀ (key : CipherKey) (iv : InitVector) plain,
    platform.decipher key iv.bytes (platform.cipher key iv.bytes plain).2
      (platform.cipher key iv.bytes plain).1 = .ok plain
  length_tag : ∀ (key : CipherKey) (iv : InitVector) plain,
    (platform.cipher key iv.bytes plain).2.length = 16
  length_sealed : ∀ (key : CipherKey) (iv : InitVector) plain,
    (platform.cipher key iv.bytes plain).1.length = plain.length

section Secrets

variable (platform : CryptoPlatform)

/-- `bytes.toString("utf8")`. -/
def bufferText (bytes : List UInt8) : String :=
  (String.fromUTF8? ⟨bytes.toArray⟩).getD (platform.replaced bytes)

/-- The cipher key: the SHA-256 of a master secret that is long enough. -/
def encryptionKey (masterSecret : String) : Except String CipherKey :=
  if Js.utf16Length masterSecret.toList < 32 then
    .error "CELLFLOW_ENCRYPTION_KEY must be at least 32 characters"
  else .ok (platform.sha256 masterSecret)

/-- `iv` is what `randomBytes(12)` gives. -/
def encryptSecret (secret masterSecret : String) (iv : InitVector) : Except String String :=
  match encryptionKey platform masterSecret with
  | .error message => .error message
  | .ok key =>
      let encrypted := platform.cipher key iv.bytes (utf8Bytes secret)
      .ok (String.ofList
        (['.'].intercalate [base64url iv.bytes, base64url encrypted.2, base64url encrypted.1]))

/-- `decryptSecret`: the text is split at its dots into vector, tag and body. -/
def decryptSecret (ciphertext masterSecret : String) : Except String String :=
  match ciphertext.toList.splitOn '.' with
  | [ivText, tagText, bodyText] =>
      if ivText = [] ∨ tagText = [] ∨ bodyText = [] then .error "Invalid encrypted secret format"
      else
        match encryptionKey platform masterSecret with
        | .error message => .error message
        | .ok key =>
            (platform.decipher key (ofBase64url ivText) (ofBase64url tagText)
              (ofBase64url bodyText)).map (bufferText platform)
  | _ => .error "Invalid encrypted secret format"

variable {platform}

theorem bufferText_utf8Bytes (text : String) : bufferText platform (utf8Bytes text) = text := by
  have hbytes : String.fromUTF8? text.toByteArray = some text := by
    simp [String.fromUTF8?, String.fromUTF8, text.isValidUTF8]
  rw [bufferText, utf8Bytes, Array.toArray_toList, hbytes, Option.getD_some]

/-- **A secret is read back** under the master secret it was stored under; the empty one is not. -/
theorem decryptSecret_encryptSecret (hgcm : platform.IsGcm) {secret masterSecret stored : String}
    {iv : InitVector} (h : encryptSecret platform secret masterSecret iv = .ok stored) :
    decryptSecret platform stored masterSecret =
      if secret = "" then .error "Invalid encrypted secret format" else .ok secret := by
  unfold encryptSecret at h
  split at h
  · cases h
  next key hkey =>
    obtain rfl := Except.ok.inj h
    have hsplit : (['.'].intercalate [base64url iv.bytes,
        base64url (platform.cipher key iv.bytes (utf8Bytes secret)).2,
        base64url (platform.cipher key iv.bytes (utf8Bytes secret)).1]).splitOn '.' =
        [base64url iv.bytes, base64url (platform.cipher key iv.bytes (utf8Bytes secret)).2,
          base64url (platform.cipher key iv.bytes (utf8Bytes secret)).1] := by
      refine List.splitOn_intercalate '.' ?_ (List.cons_ne_nil _ _)
      intro part hpart
      simp only [List.mem_cons, List.not_mem_nil, or_false] at hpart
      rcases hpart with rfl | rfl | rfl
      · exact dot_not_mem_base64url _
      · exact dot_not_mem_base64url _
      · exact dot_not_mem_base64url _
    have hiv : base64url iv.bytes ≠ [] := by
      rw [Ne, base64url_eq_nil]
      intro hnil
      have hlength := iv.length_eq
      rw [hnil] at hlength
      cases hlength
    have htag : base64url (platform.cipher key iv.bytes (utf8Bytes secret)).2 ≠ [] := by
      rw [Ne, base64url_eq_nil]
      intro hnil
      have hlength := hgcm.length_tag key iv (utf8Bytes secret)
      rw [hnil] at hlength
      cases hlength
    -- the body is empty exactly for the empty secret
    have hbody : base64url (platform.cipher key iv.bytes (utf8Bytes secret)).1 = [] ↔ secret = "" := by
      rw [base64url_eq_nil, ← List.length_eq_zero_iff, hgcm.length_sealed, List.length_eq_zero_iff,
        utf8Bytes_eq_nil]
    unfold decryptSecret
    rw [String.toList_ofList, hsplit]
    simp only [hiv, htag, hbody, false_or, hkey, ofBase64url_base64url, hgcm.opens]
    split_ifs
    · rfl
    · rw [Except.map, bufferText_utf8Bytes]

end Secrets

end CellFlow
