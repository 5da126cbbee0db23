/-
# CellFlow.Lib.TextCodec — objects of texts through JSON, UTF-8 and base64url.

What a program does with an opaque token: `JSON.stringify` a small object, encode its bytes in
base64url, and read both back.  `parseTexts` reads what `Json.stringify` prints of an object whose
members are texts, and `fromBase64url` what `toBase64url` prints; each is shown to lose nothing
(`parseTexts_stringify`, `fromBase64url_toBase64url`).
-/
import CellFlow.Lib.Json

namespace Js

open Json (escape quote renderMembers)

/-! ## String literals -/

/-- The character a two-character escape denotes. -/
def unescape (c : Char) : Option Char :=
  if c = Char.ofNat 34 ∨ c = Char.ofNat 92 ∨ c = '/' then some c
  else if c = 'b' then some (Char.ofNat 8)
  else if c = 't' then some (Char.ofNat 9)
  else if c = 'n' then some (Char.ofNat 10)
  else if c = 'f' then some (Char.ofNat 12)
  else if c = 'r' then some (Char.ofNat 13)
  else none

/-- The value of a hexadecimal digit, in any case. -/
def hexDigit (c : Char) : Option Nat :=
  if c.isDigit then some (c.toNat - 48)
  else if 'a' ≤ c ∧ c ≤ 'f' then some (c.toNat - 87)
  else if 'A' ≤ c ∧ c ≤ 'F' then some (c.toNat - 55)
  else none

/-- One character of a string literal, as it stands or escaped.  A `u` escape is read for the
characters below 256, where `JSON.stringify` writes one only for control characters. -/
def readChar : List Char → Option (Char × List Char)
  | [] => none
  | c :: rest =>
      if c = Char.ofNat 92 then
        match rest with
        | 'u' :: '0' :: '0' :: a :: b :: rest => do
            let high ← hexDigit a
            let low ← hexDigit b
            some (Char.ofNat (16 * high + low), rest)
        | e :: rest => (unescape e).map fun d => (d, rest)
        | [] => none
      else if c.toNat < 32 then none
      else some (c, rest)

/-- The text of a literal whose opening quote was read, and what follows its closing quote. -/
def readLiteral : Nat → List Char → Option (List Char × List Char)
  | 0, _ => none
  | n + 1, cs =>
      if cs.head? = some (Char.ofNat 34) then some ([], cs.tail)
      else do
        let (c, rest) ← readChar cs
        let (text, rest) ← readLiteral n rest
        some (c :: text, rest)

/-- A printable character other than the quote and the backslash stands for itself. -/
theorem escape_eq_self {c : Char} (hprint : 32 ≤ c.toNat) (hquote : c.toNat ≠ 34)
    (hslash : c.toNat ≠ 92) : escape c = [c] := by
  have hcode : ∀ n : Fin 128, (Char.ofNat n).toNat = n := by decide
  have hne : ∀ n : Nat, n < 128 → c.toNat ≠ n → c ≠ Char.ofNat n := by
    rintro n hn h rfl
    exact h (hcode ⟨n, hn⟩)
  unfold escape
  rw [if_neg (hne 34 (by omega) hquote), if_neg (hne 92 (by omega) hslash),
    if_neg (hne 8 (by omega) (by omega)), if_neg (hne 9 (by omega) (by omega)),
    if_neg (hne 10 (by omega) (by omega)), if_neg (hne 12 (by omega) (by omega)),
    if_neg (hne 13 (by omega) (by omega)), if_neg (by omega)]

theorem toNat_of_isDigit {c : Char} (h : c.isDigit = true) : 48 ≤ c.toNat ∧ c.toNat ≤ 57 := by
  simp only [Char.isDigit, Bool.and_eq_true, decide_eq_true_eq] at h
  exact h

theorem toNat_of_hexDigit {c : Char} (h : (hexDigit c).isSome = true) :
    48 ≤ c.toNat ∧ c.toNat ≠ 92 := by
  unfold hexDigit at h
  split_ifs at h with hdigit hlower hupper
  · have := toNat_of_isDigit hdigit
    omega
  · have : 97 ≤ c.toNat := hlower.1
    omega
  · have h₀ : 65 ≤ c.toNat := hupper.1
    have h₁ : c.toNat ≤ 70 := hupper.2
    omega
  · cases h

/-- What is not escaped is printed as it stands. -/
theorem flatMap_escape_of {cs : List Char} (h : ∀ c ∈ cs, escape c = [c]) :
    cs.flatMap escape = cs := by
  induction cs with
  | nil => rfl
  | cons c cs ih =>
      rw [List.flatMap_cons, h c List.mem_cons_self,
        ih fun d hd => h d (List.mem_cons_of_mem c hd)]
      rfl

theorem hexDigit_digitChar : ∀ n : Fin 16, hexDigit (Nat.digitChar n) = some n.val := by decide

theorem readChar_escape (c : Char) (rest : List Char) :
    readChar (escape c ++ rest) = some (c, rest) := by
  unfold escape
  split
  · subst c; rfl
  split
  · subst c; rfl
  split
  · subst c; rfl
  split
  · subst c; rfl
  split
  · subst c; rfl
  split
  · subst c; rfl
  split
  · subst c; rfl
  rename_i hquote hslash _ _ _ _ _
  split
  · -- the other control characters, by their two hexadecimal digits
    rename_i hcontrol
    have hhigh := hexDigit_digitChar ⟨c.toNat / 16, by omega⟩
    have hlow := hexDigit_digitChar ⟨c.toNat % 16, by omega⟩
    have hvalue : 16 * (c.toNat / 16) + c.toNat % 16 = c.toNat := by omega
    show (do
      let high ← hexDigit (Nat.digitChar (c.toNat / 16))
      let low ← hexDigit (Nat.digitChar (c.toNat % 16))
      some (Char.ofNat (16 * high + low), rest)) = some (c, rest)
    simp only at hhigh hlow
    simp only [hhigh, hlow, Option.bind_eq_bind, Option.bind_some, hvalue, Char.ofNat_toNat]
  · rename_i hcontrol
    show (if c = Char.ofNat 92 then _ else if c.toNat < 32 then _ else some (c, rest)) = _
    rw [if_neg hslash, if_neg hcontrol]

/-- No character is escaped into a closing quote. -/
theorem head?_escape (c : Char) (rest : List Char) :
    (escape c ++ rest).head? ≠ some (Char.ofNat 34) := by
  unfold escape
  split
  · show some (Char.ofNat 92) ≠ _
    decide
  rename_i hquote
  split_ifs <;> first
    | (show some (Char.ofNat 92) ≠ some (Char.ofNat 34); decide)
    | (show some c ≠ some (Char.ofNat 34); exact fun h => hquote (Option.some.inj h))

theorem readLiteral_escape {text : List Char} {n : Nat} (hn : text.length < n)
    (rest : List Char) :
    readLiteral n (text.flatMap escape ++ Char.ofNat 34 :: rest) = some (text, rest) := by
  induction text generalizing n with
  | nil =>
      obtain ⟨m, rfl⟩ := Nat.exists_eq_add_of_lt hn
      simp [readLiteral]
  | cons c text ih =>
      obtain ⟨m, rfl⟩ : ∃ m, n = m + 1 := ⟨n - 1, by simp only [List.length_cons] at hn; omega⟩
      have hm : text.length < m := by
        simp only [List.length_cons] at hn
        omega
      rw [List.flatMap_cons, List.append_assoc, readLiteral, if_neg (head?_escape c _),
        readChar_escape]
      simp only [Option.bind_eq_bind, Option.bind_some, ih hm]

/-! ## Objects of texts -/

/-- What follows `lead`, which must come first. -/
def expect (lead cs : List Char) : Option (List Char) :=
  if lead.isPrefixOf cs then some (cs.drop lead.length) else none

@[simp] theorem expect_append (lead rest : List Char) : expect lead (lead ++ rest) = some rest := by
  simp [expect]

/-- The members of an object of texts, behind its opening brace; `first` says that none was read
yet. -/
def readMembers : Nat → Bool → List Char → Option (List (String × String))
  | 0, _, _ => none
  | n + 1, first, cs =>
      if cs = ['\x7d'] then some []
      else do
        let cs ← expect ((if first then [] else [',']) ++ [Char.ofNat 34]) cs
        let (key, cs) ← readLiteral n cs
        let cs ← expect [':', Char.ofNat 34] cs
        let (text, cs) ← readLiteral n cs
        let members ← readMembers n false cs
        some ((String.ofList key, String.ofList text) :: members)

/-- `JSON.parse` on what `JSON.stringify` prints of an object of texts. -/
def parseTexts (text : String) : Option (List (String × String)) := do
  let cs ← expect ['\x7b'] text.toList
  readMembers (cs.length + 1) true cs

/-- An object of texts. -/
def ofTexts (members : List (String × String)) : Json :=
  .obj (members.map fun member => (member.1, .str member.2))

theorem length_le_escape (text : List Char) : text.length ≤ (text.flatMap escape).length := by
  induction text with
  | nil => simp
  | cons c rest ih =>
      have hc : 1 ≤ (escape c).length := by
        unfold escape
        split_ifs <;> simp
      simp only [List.flatMap_cons, List.length_append, List.length_cons]
      omega

theorem readMembers_render {members : List (String × String)} (first : Bool) {n : Nat}
    (hn : (renderMembers (members.map fun m => (m.1, .str m.2)) first).length ≤ n) :
    readMembers n first (renderMembers (members.map fun m => (m.1, .str m.2)) first) =
      some members := by
  induction members generalizing first n with
  | nil =>
      obtain ⟨m, rfl⟩ : ∃ m, n = m + 1 := ⟨n - 1, by simp [renderMembers] at hn; omega⟩
      simp [renderMembers, readMembers]
  | cons member members ih =>
      obtain ⟨key, text⟩ := member
      set rendered := renderMembers (members.map fun m => (m.1, .str m.2)) false with hrendered
      have htext : renderMembers (((key, text) :: members).map fun m => (m.1, .str m.2)) first =
          (if first then [] else [',']) ++ [Char.ofNat 34] ++ (key.toList.flatMap escape ++
            Char.ofNat 34 :: ([':', Char.ofNat 34] ++ (text.toList.flatMap escape ++
              Char.ofNat 34 :: rendered))) := by
        simp [renderMembers, Json.render, quote, hrendered]
      rw [htext] at hn ⊢
      have hkey := length_le_escape key.toList
      have hvalue := length_le_escape text.toList
      simp only [List.length_append, List.length_cons] at hn
      obtain ⟨m, rfl⟩ : ∃ m, n = m + 1 := ⟨n - 1, by omega⟩
      have hrest := ih false (n := m) (by rw [← hrendered]; omega)
      rw [readMembers, if_neg (by cases first <;> simp), expect_append]
      simp only [Option.bind_eq_bind, Option.bind_some,
        readLiteral_escape (show key.toList.length < m by omega), expect_append,
        readLiteral_escape (show text.toList.length < m by omega)]
      rw [hrendered, hrest]
      simp

/-- **Objects of texts are read back.** -/
theorem parseTexts_stringify (members : List (String × String)) :
    parseTexts (Json.stringify (ofTexts members)) = some members := by
  set rendered := renderMembers (members.map fun m => (m.1, .str m.2)) true with hrendered
  have htext : (Json.stringify (ofTexts members)).toList = ['\x7b'] ++ rendered := by
    simp [Json.stringify, ofTexts, Json.render, hrendered]
  rw [parseTexts, htext, expect_append]
  exact readMembers_render true (Nat.le_succ _)

/-! ## base64url -/

/-- The alphabet of base64url. -/
def alphabet : List Char :=
  "ABCDEFGHIJKLMNOPQRSTUVWXYZabcdefghijklmnopqrstuvwxyz0123456789-_".toList

/-- The character of six bits. -/
def sextetChar (n : Fin 64) : Char := alphabet.getD n 'A'

/-- The six bits of a character; the two of plain base64 are accepted as well. -/
def charSextet (c : Char) : Option (Fin 64) :=
  if c = '+' then some 62
  else if c = '/' then some 63
  else (alphabet.findIdx? (· = c)).map (Fin.ofNat 64)

/-- Three bytes as four times six bits, and what one or two last bytes leave. -/
def toSextets : List UInt8 → List (Fin 64)
  | a :: b :: c :: rest =>
      .ofNat 64 (a.toNat / 4) :: .ofNat 64 (a.toNat % 4 * 16 + b.toNat / 16) ::
        .ofNat 64 (b.toNat % 16 * 4 + c.toNat / 64) :: .ofNat 64 (c.toNat % 64) :: toSextets rest
  | [a, b] =>
      [.ofNat 64 (a.toNat / 4), .ofNat 64 (a.toNat % 4 * 16 + b.toNat / 16),
        .ofNat 64 (b.toNat % 16 * 4)]
  | [a] => [.ofNat 64 (a.toNat / 4), .ofNat 64 (a.toNat % 4 * 16)]
  | [] => []

/-- The bytes in groups of six bits: four make three bytes, and a shorter group at the end fewer. -/
def ofSextets : List (Fin 64) → List UInt8
  | a :: b :: c :: d :: rest =>
      .ofNat (a.val * 4 + b.val / 16) :: .ofNat (b.val % 16 * 16 + c.val / 4) ::
        .ofNat (c.val % 4 * 64 + d.val) :: ofSextets rest
  | [a, b, c] => [.ofNat (a.val * 4 + b.val / 16), .ofNat (b.val % 16 * 16 + c.val / 4)]
  | [a, b] => [.ofNat (a.val * 4 + b.val / 16)]
  | _ => []

/-- `Buffer.from(text, "utf8").toString("base64url")`. -/
def toBase64url (text : String) : String :=
  String.ofList ((toSextets text.toByteArray.data.toList).map sextetChar)

/-- `Buffer.from(text, "base64url").toString("utf8")` where the bytes are UTF-8.  Characters outside
the alphabet are skipped, and the first `=` ends the text. -/
def fromBase64url (text : String) : Option String :=
  String.fromUTF8?
    ⟨(ofSextets ((text.toList.takeWhile (· ≠ '=')).filterMap charSextet)).toArray⟩

theorem charSextet_sextetChar :
    ∀ n : Fin 64, charSextet (sextetChar n) = some n ∧ sextetChar n ≠ '=' := by
  decide +kernel

theorem ofSextets_toSextets (bytes : List UInt8) : ofSextets (toSextets bytes) = bytes := by
  fun_induction toSextets bytes with
  | case1 a b c rest ih =>
      have ha := a.toNat_lt
      have hb := b.toNat_lt
      have hc := c.toNat_lt
      simp only [ofSextets, ih, List.cons.injEq, and_true, ← UInt8.toNat_inj,
        UInt8.toNat_ofNat', Fin.val_ofNat]
      omega
  | case2 a b =>
      have ha := a.toNat_lt
      have hb := b.toNat_lt
      simp only [ofSextets, List.cons.injEq, and_true, ← UInt8.toNat_inj, UInt8.toNat_ofNat',
        Fin.val_ofNat]
      omega
  | case3 a =>
      have ha := a.toNat_lt
      simp only [ofSextets, List.cons.injEq, and_true, ← UInt8.toNat_inj, UInt8.toNat_ofNat',
        Fin.val_ofNat]
      omega
  | case4 => rfl

theorem length_toSextets (bytes : List UInt8) :
    (toSextets bytes).length = (4 * bytes.length + 2) / 3 := by
  fun_induction toSextets bytes with
  | case1 a b c rest ih =>
      simp only [List.length_cons, ih]
      omega
  | case2 a b => simp
  | case3 a => simp
  | case4 => rfl

/-- **Texts are read back from base64url.** -/
theorem fromBase64url_toBase64url (text : String) : fromBase64url (toBase64url text) = some text := by
  have htake : ∀ ns : List (Fin 64),
      ((ns.map sextetChar).takeWhile (· ≠ '=')).filterMap charSextet = ns := by
    intro ns
    induction ns with
    | nil => rfl
    | cons n ns ih =>
        obtain ⟨hread, hne⟩ := charSextet_sextetChar n
        rw [List.map_cons, List.takeWhile_cons_of_pos (by simpa using hne),
          List.filterMap_cons_some hread, ih]
  have hbytes : String.fromUTF8? text.toByteArray = some text := by
    simp [String.fromUTF8?, String.fromUTF8, text.isValidUTF8]
  rw [fromBase64url, toBase64url, String.toList_ofList, htake, ofSextets_toSextets,
    Array.toArray_toList]
  exact hbytes

theorem size_utf8Encode_le (cs : List Char) : cs.utf8Encode.size ≤ 4 * cs.length := by
  induction cs with
  | nil => simp
  | cons c cs ih =>
      have hc := c.utf8Size_le_four
      rw [List.utf8Encode_cons, ByteArray.size_append, List.utf8Encode_singleton]
      simp only [List.size_toByteArray, String.length_utf8EncodeChar, List.length_cons]
      omega

/-- Four characters carry three bytes, and no character takes more than four bytes. -/
theorem length_toBase64url_le (cs : List Char) :
    (toBase64url (String.ofList cs)).length ≤ (16 * cs.length + 2) / 3 := by
  have hsize := size_utf8Encode_le cs
  have hlen : (toBase64url (String.ofList cs)).length = (4 * cs.utf8Encode.size + 2) / 3 := by
    rw [toBase64url, String.length_ofList, List.length_map, length_toSextets,
      String.toByteArray_ofList, Array.length_toList]
    rfl
  omega

end Js
