/-
# CellFlow.Api.IntentListing — a project's intents, page by page.

`listIntents` of `apps/api/src/service.ts` over `listIntentsPage` of `packages/db/src/repository.ts`.
A page is asked for with the cursor of the page before it: the creation time and the id of its last
intent, through an ISO text, JSON and base64url.  The database keeps creation times in microseconds,
a JavaScript `Date` in milliseconds, so the cursor of an intent is its key rounded down
(`decode_token`).
-/
import CellFlow.Db.PublicView
import CellFlow.Lib.TextCodec
import CellFlow.Lib.Time
import Mathlib.Data.List.Sort
import Mathlib.Data.Prod.Lex
import Mathlib.Data.String.Basic

namespace CellFlow

open Js (Number toISOString dateParse maxDateMs)

/-! ## The table -/

/-- The order in which the database compares texts. -/
structure Collation where
  Key : Type
  [order : LinearOrder Key]
  key : String → Key
  injective : Function.Injective key

attribute [instance] Collation.order

/-- Texts compared character by character. -/
def Collation.bytewise : Collation where
  Key := String
  key := id
  injective := Function.injective_id

/-- An intent row with its execution; `createdAt` is in microseconds and within a `Date`. -/
structure StoredIntent where
  id : String
  createdAt : Int
  intent : IntentRecord
  execution : ExecutionRecord
  dated : -maxDateMs ≤ createdAt / 1000 ∧ createdAt / 1000 ≤ maxDateMs

/-- The intents of a project. -/
structure IntentTable where
  rows : List StoredIntent
  ids : (rows.map (·.id)).Nodup

section

variable (collation : Collation)

/-- `(created_at, id)`. -/
def rowKey (createdAt : Int) (id : String) : Int ×ₗ collation.Key :=
  toLex (createdAt, collation.key id)

/-- What the rows are ordered by: the time of creation, then the id as the collation compares it. -/
def StoredIntent.key (row : StoredIntent) : Int ×ₗ collation.Key :=
  rowKey collation row.createdAt row.id

/-- `order by created_at desc, id desc`. -/
def IntentTable.ordered (table : IntentTable) : List StoredIntent :=
  table.rows.insertionSort fun a b => b.key collation ≤ a.key collation

end

/-! ## listIntentsPage -/

/-- The driver makes a `Date` of a `timestamptz`, in milliseconds. -/
def iso (createdAt : Int) : String := toISOString (createdAt / 1000)

/-- Where a page ended: the time of its last row as a text, and that row's id. -/
structure IntentListCursor where
  createdAt : String
  id : String
  deriving DecidableEq

/-- A page of aggregates, and where it ended if there are more. -/
structure IntentListPage where
  items : List IntentAggregate
  nextCursor : Option IntentListCursor

/-- An item of a page: the intent with its execution, without its attempts. -/
def StoredIntent.item (row : StoredIntent) : IntentAggregate where
  intent := row.intent
  execution := row.execution
  attempts := []
  activeAttempt := none
  winningAttempt := none

/-- The cursor of a page that ends with this row. -/
def StoredIntent.cursor (row : StoredIntent) : IntentListCursor where
  createdAt := iso row.createdAt
  id := row.id

/-- The rows of a page: at least 1 and at most 200. -/
def pageSize (limit : Number) : Nat := (min (max limit.floor 1) 200).toNat

/-- The rows behind a cursor. -/
def belowCursor (collation : Collation) (cursor : Option (Int × String)) (row : StoredIntent) :
    Bool :=
  match cursor with
  | none => true
  | some (ms, id) => row.key collation < rowKey collation (ms * 1000) id

/-- The instant and the id a page query compares with. -/
def cursorBound : Option IntentListCursor → Except Failure (Option (Int × String))
  | none => .ok none
  | some cursor =>
      match dateParse cursor.createdAt with
      | none => .error (.error "Invalid time value")
      | some ms => .ok (some (ms, cursor.id))

/-- `listIntentsPage`: it asks for one row more than the page has, to tell whether there are more. -/
def listIntentsPage (collation : Collation) (table : IntentTable) (limit : Number)
    (cursor : Option IntentListCursor) : Except Failure IntentListPage := do
  let fetchSize := pageSize limit + 1
  let bound ← cursorBound cursor
  let rows := ((table.ordered collation).filter (belowCursor collation bound)).take fetchSize
  let hasMore := decide (rows.length > pageSize limit)
  let visible := if hasMore then rows.take (pageSize limit) else rows
  return {
    items := visible.map StoredIntent.item
    nextCursor := if hasMore then visible.getLast?.map StoredIntent.cursor else none }

/-! ## The cursor -/

/-- `[0-9a-fA-F]`. -/
def isHexDigit (c : Char) : Bool := (Js.hexDigit c).isSome

/-- `-`. -/
def isDash (c : Char) : Bool := c = '-'

/-- `[1-5]`. -/
def isUuidVersion (c : Char) : Bool := '1' ≤ c && c ≤ '5'

/-- `[89abAB]`. -/
def isUuidVariant (c : Char) : Bool := ['8', '9', 'a', 'b', 'A', 'B'].contains c

/-- The characters of a UUID, in either case. -/
def uuidPattern : List (Char → Bool) :=
  List.replicate 8 isHexDigit ++ [isDash] ++ List.replicate 4 isHexDigit ++ [isDash] ++
    [isUuidVersion] ++ List.replicate 3 isHexDigit ++ [isDash] ++ [isUuidVariant] ++
    List.replicate 3 isHexDigit ++ [isDash] ++ List.replicate 12 isHexDigit

/-- One character for each predicate, and no more. -/
def matchesAll : List (Char → Bool) → List Char → Bool
  | [], [] => true
  | p :: ps, c :: cs => p c && matchesAll ps cs
  | _, _ => false

/-- The pattern the id of a cursor is held against. -/
def isUuid (id : String) : Bool := matchesAll uuidPattern id.toList

/-- The error of a cursor that cannot be read. -/
def invalidCursor (message : String) : Failure := .cellFlow ⟨.invalidCursor, message, 400⟩

/-- `decodeIntentCursor`, on the tokens `encodeIntentCursor` makes; any other token is refused. -/
def decodeIntentCursor (value : Option String) : Except Failure (Option IntentListCursor) :=
  match truthy value with
  | none => .ok none
  | some value =>
      if value.length > 512 then .error (invalidCursor "Cursor is too long")
      else
        let parsed := (do
          let members ← Js.parseTexts (← Js.fromBase64url value)
          let ms ← dateParse (← members.lookup "createdAt")
          let id ← members.lookup "id"
          if isUuid id then some { createdAt := toISOString ms, id := id } else none :
            Option IntentListCursor)
        match parsed with
        | some cursor => .ok (some cursor)
        | none => .error (invalidCursor "Cursor is invalid or expired")

/-- The text of a cursor: its JSON in base64url. -/
def IntentListCursor.token (cursor : IntentListCursor) : String :=
  Js.toBase64url (Js.Json.stringify
    (Js.ofTexts [("createdAt", cursor.createdAt), ("id", cursor.id)]))

/-- `encodeIntentCursor`. -/
def encodeIntentCursor (cursor : Option IntentListCursor) : Option String :=
  cursor.map IntentListCursor.token

/-! ## listIntents -/

/-- A page as the API returns it. -/
structure IntentViewPage where
  intents : List PublicView
  nextCursor : Option String

/-- `listIntents` of the service, from a request's texts. -/
def serviceListIntents (collation : Collation) (table : IntentTable) (limit : Option Number)
    (cursor : Option String) : Except Failure IntentViewPage := do
  let decoded ← decodeIntentCursor cursor
  let page ← listIntentsPage collation table (limit.getD (.ofInt 100)) decoded
  return {
    intents := page.items.map executionPublicView
    nextCursor := encodeIntentCursor page.nextCursor }

/-- A client that asks from `cursor` on, with the cursor of each page for the next, until there is
none, is shown `seen`. -/
inductive Follows (collation : Collation) (table : IntentTable) (limit : Option Number) :
    Option String → List PublicView → Prop
  | last {cursor : Option String} {page : IntentViewPage}
      (hpage : serviceListIntents collation table limit cursor = .ok page)
      (hnext : page.nextCursor = none) : Follows collation table limit cursor page.intents
  | more {cursor : Option String} {page : IntentViewPage} {token : String} {seen : List PublicView}
      (hpage : serviceListIntents collation table limit cursor = .ok page)
      (hnext : page.nextCursor = some token)
      (hrest : Follows collation table limit (some token) seen) :
      Follows collation table limit cursor (page.intents ++ seen)

/-! ## The cursor round trip -/

theorem cursor_parses (cursor : IntentListCursor) :
    (Js.fromBase64url cursor.token).bind Js.parseTexts =
      some [("createdAt", cursor.createdAt), ("id", cursor.id)] := by
  rw [IntentListCursor.token, Js.fromBase64url_toBase64url, Option.bind_some,
    Js.parseTexts_stringify]

theorem token_ne_empty (cursor : IntentListCursor) : cursor.token ≠ "" := by
  intro h
  have hparse := cursor_parses cursor
  rw [h] at hparse
  have hempty : Js.fromBase64url "" = some "" := by decide +kernel
  rw [hempty] at hparse
  cases hparse

theorem matchesAll_spec {ps : List (Char → Bool)} {cs : List Char} (h : matchesAll ps cs = true) :
    cs.length = ps.length ∧ ∀ c ∈ cs, ∃ p ∈ ps, p c = true := by
  induction ps generalizing cs with
  | nil =>
      cases cs with
      | nil => simp
      | cons c cs => cases h
  | cons p ps ih =>
      cases cs with
      | nil => cases h
      | cons c cs =>
          rw [matchesAll, Bool.and_eq_true] at h
          obtain ⟨hlen, hmem⟩ := ih h.2
          refine ⟨by simp [hlen], fun d hd => ?_⟩
          rcases List.mem_cons.mp hd with rfl | hd
          · exact ⟨p, List.mem_cons_self, h.1⟩
          · obtain ⟨q, hq, hqd⟩ := hmem d hd
            exact ⟨q, List.mem_cons_of_mem p hq, hqd⟩

/-- The characters of a UUID are printed as they stand. -/
theorem escape_uuid {p : Char → Bool} (hp : p ∈ uuidPattern) {c : Char} (h : p c = true) :
    Js.Json.escape c = [c] := by
  have hclass : p = isHexDigit ∨ p = isDash ∨ p = isUuidVersion ∨ p = isUuidVariant := by
    simp only [uuidPattern, List.mem_append, List.mem_replicate, List.mem_singleton] at hp
    tauto
  rcases hclass with rfl | rfl | rfl | rfl
  · have hcode := Js.toNat_of_hexDigit h
    exact Js.escape_eq_self (by omega) (by omega) (by omega)
  · obtain rfl : c = '-' := of_decide_eq_true h
    rfl
  · rw [isUuidVersion, Bool.and_eq_true, decide_eq_true_eq, decide_eq_true_eq] at h
    have hlow : 49 ≤ c.toNat := h.1
    have hhigh : c.toNat ≤ 53 := h.2
    exact Js.escape_eq_self (by omega) (by omega) (by omega)
  · simp only [isUuidVariant, List.contains_iff_mem, List.mem_cons, List.not_mem_nil,
      or_false] at h
    rcases h with rfl | rfl | rfl | rfl | rfl | rfl <;> rfl

theorem uuid_chars {id : String} (h : isUuid id = true) :
    id.toList.length = 36 ∧ id.toList.flatMap Js.Json.escape = id.toList := by
  obtain ⟨hlen, hmem⟩ := matchesAll_spec h
  refine ⟨hlen, Js.flatMap_escape_of fun c hc => ?_⟩
  obtain ⟨p, hp, hpc⟩ := hmem c hc
  exact escape_uuid hp hpc

theorem iso_chars (createdAt : Int) :
    (iso createdAt).toList.flatMap Js.Json.escape = (iso createdAt).toList := by
  refine Js.flatMap_escape_of fun c hc => ?_
  have hiso := List.all_eq_true.mp (Js.isoChar_toISOString (createdAt / 1000)) c hc
  rw [Js.isoChar, Bool.or_eq_true] at hiso
  rcases hiso with hdigit | hmark
  · have hcode := Js.toNat_of_isDigit hdigit
    exact Js.escape_eq_self (by omega) (by omega) (by omega)
  · simp only [List.contains_iff_mem, List.mem_cons, List.not_mem_nil, or_false] at hmark
    rcases hmark with rfl | rfl | rfl | rfl | rfl | rfl <;> rfl

/-- A token of a UUID is short enough to be read. -/
theorem length_token_le {row : StoredIntent} (h : isUuid row.id = true) :
    row.cursor.token.length ≤ 512 := by
  obtain ⟨hlen, hid⟩ := uuid_chars h
  have hdate : (iso row.createdAt).toList.length ≤ 27 := by
    rw [String.length_toList]
    exact Js.length_toISOString_le row.dated.1 row.dated.2
  have hkey : ("createdAt" : String).toList.flatMap Js.Json.escape = "createdAt".toList := by decide
  have hkey' : ("id" : String).toList.flatMap Js.Json.escape = "id".toList := by decide
  have htoken := Js.length_toBase64url_le
    (Js.ofTexts [("createdAt", row.cursor.createdAt), ("id", row.cursor.id)]).render
  have hrender : (Js.ofTexts [("createdAt", row.cursor.createdAt), ("id", row.cursor.id)]).render.length
      = 24 + (iso row.createdAt).toList.length + row.id.toList.length := by
    simp only [Js.ofTexts, List.map_cons, List.map_nil, Js.Json.render, Js.Json.renderMembers,
      Js.Json.quote, hkey, hkey', StoredIntent.cursor, hid, iso_chars]
    simp
    omega
  refine Nat.le_trans htoken ?_
  omega

/-- **A cursor is read back as the millisecond of the creation time and the id**, where the id is a
UUID. -/
theorem decode_token {row : StoredIntent} (h : isUuid row.id = true) :
    decodeIntentCursor (some row.cursor.token) = .ok (some row.cursor) := by
  have htruthy : truthy (some row.cursor.token) = some row.cursor.token := by
    simp [truthy, token_ne_empty]
  have hparse := cursor_parses row.cursor
  have hdate : dateParse row.cursor.createdAt = some (row.createdAt / 1000) :=
    Js.dateParse_toISOString row.dated.1 row.dated.2
  have hshort : ¬ row.cursor.token.length > 512 := Nat.not_lt.mpr (length_token_le h)
  obtain ⟨text, htext, hmembers⟩ := Option.bind_eq_some_iff.mp hparse
  have hid : isUuid row.cursor.id = true := h
  unfold decodeIntentCursor
  rw [htruthy]
  simp [hshort, htext, hmembers, hdate, hid, List.lookup_cons]
  rfl

/-- The cursor of any other id is refused. -/
theorem decode_refused {row : StoredIntent} (h : isUuid row.id = false) :
    ∃ e, decodeIntentCursor (some row.cursor.token) = .error e := by
  have htruthy : truthy (some row.cursor.token) = some row.cursor.token := by
    simp [truthy, token_ne_empty]
  obtain ⟨text, htext, hmembers⟩ := Option.bind_eq_some_iff.mp (cursor_parses row.cursor)
  have hid : isUuid row.cursor.id = false := h
  unfold decodeIntentCursor
  rw [htruthy]
  by_cases hlong : row.cursor.token.length > 512
  · exact ⟨_, if_pos hlong⟩
  · refine ⟨invalidCursor "Cursor is invalid or expired", ?_⟩
    simp [hlong, htext, hmembers, hid, List.lookup_cons]

end CellFlow
