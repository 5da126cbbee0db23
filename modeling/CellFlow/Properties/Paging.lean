/-
# CellFlow.Properties.Paging — what a client that follows the cursors is shown.

Asking page after page is a walk through the intents in descending order, with each cursor read back
as the key of its intent rounded down to a millisecond.  So an intent behind a page boundary is lost
when it lies in the same millisecond as the last intent of the page, or below that millisecond only
by an id: the client sees every intent exactly once iff no boundary falls so (`paging_complete_iff`).
-/
import CellFlow.Api.IntentListing
import CellFlow.Api.Service
import CellFlow.Lib.Keyset

namespace CellFlow

open Js (Number)
open Keyset (Walk Kept)

variable (collation : Collation) (table : IntentTable) (limit : Option Number)

/-! ## The order -/

theorem ordered_descending :
    (table.ordered collation).Pairwise fun a b => a.key collation > b.key collation := by
  let down : StoredIntent → StoredIntent → Prop := fun a b => b.key collation ≤ a.key collation
  have : Std.Total down := ⟨fun a b => le_total (b.key collation) (a.key collation)⟩
  have : IsTrans StoredIntent down := ⟨fun a b c hab hbc => le_trans hbc hab⟩
  have hsorted : (table.ordered collation).Pairwise down := List.pairwise_insertionSort down _
  have hids : ((table.ordered collation).map (·.id)).Nodup :=
    ((List.perm_insertionSort _ _).map _).nodup_iff.mpr table.ids
  have hdistinct : (table.ordered collation).Pairwise fun a b => a.id ≠ b.id :=
    List.pairwise_map.mp hids
  refine (hsorted.and hdistinct).imp ?_
  rintro a b ⟨hle, hne⟩
  refine lt_of_le_of_ne hle fun heq => hne ?_
  have hkey : collation.key b.id = collation.key a.id := (Prod.ext_iff.mp (toLex.injective heq)).2
  exact (collation.injective hkey).symm

/-- What the cursor of an intent is read back as. -/
def cutKey (row : StoredIntent) : Option (Int ×ₗ collation.Key) :=
  if isUuid row.id then some (rowKey collation (row.createdAt / 1000 * 1000) row.id) else none

/-- A cursor rounds down. -/
theorem cut_le (row : StoredIntent) :
    rowKey collation (row.createdAt / 1000 * 1000) row.id ≤ row.key collation := by
  have hfloor : row.createdAt / 1000 * 1000 ≤ row.createdAt := by omega
  rw [StoredIntent.key, rowKey, rowKey, Prod.Lex.toLex_le_toLex]
  rcases hfloor.lt_or_eq with hlt | heq
  · exact Or.inl hlt
  · exact Or.inr ⟨heq, le_refl _⟩

theorem pageSize_pos (limit : Number) : 0 < pageSize limit := by
  unfold pageSize
  omega

/-! ## One page -/

/-- The view of an intent in a page. -/
def StoredIntent.view (row : StoredIntent) : PublicView := executionPublicView row.item

/-- The rows a request has not passed. -/
def remaining (bound : Option (Int × String)) : List StoredIntent :=
  (table.ordered collation).filter (belowCursor collation bound)

/-- What a request with this cursor asks below. -/
inductive Asks : Option String → Option (Int × String) → Prop
  | first : Asks none none
  | behind {b : StoredIntent} (h : isUuid b.id = true) :
      Asks (some b.cursor.token) (some (b.createdAt / 1000, b.id))

/-- The query of a page: one row more than it shows tells whether more follow. -/
theorem listIntentsPage_ok {size : Number} {decoded : Option IntentListCursor}
    {bound : Option (Int × String)} (h : cursorBound decoded = .ok bound) :
    let rows := remaining collation table bound
    listIntentsPage collation table size decoded =
      .ok { items := (rows.take (pageSize size)).map StoredIntent.item
            nextCursor :=
              if pageSize size < rows.length then
                (rows.take (pageSize size)).getLast?.map StoredIntent.cursor
              else none } := by
  intro rows
  show (do
    let bound ← cursorBound decoded
    _) = _
  rw [h]
  show Except.ok _ = Except.ok _
  rw [Except.ok.injEq]
  by_cases hmore : pageSize size < rows.length
  · have hvisible : (rows.take (pageSize size + 1)).take (pageSize size) =
        rows.take (pageSize size) := by
      rw [List.take_take, Nat.min_eq_left (Nat.le_succ _)]
    simp only [remaining, rows] at hvisible hmore ⊢
    simp [hmore, hvisible]
  · have hvisible : rows.take (pageSize size + 1) = rows.take (pageSize size) := by
      rw [List.take_of_length_le (by omega), List.take_of_length_le (by omega)]
    simp only [remaining, rows] at hvisible hmore ⊢
    simp [hmore, hvisible]

theorem Asks.decodes {cursor : Option String} {bound : Option (Int × String)}
    (h : Asks cursor bound) :
    ∃ decoded, decodeIntentCursor cursor = .ok decoded ∧ cursorBound decoded = .ok bound := by
  cases h with
  | first => exact ⟨none, rfl, rfl⟩
  | @behind b h =>
      have hdate : Js.dateParse b.cursor.createdAt = some (b.createdAt / 1000) :=
        Js.dateParse_toISOString b.dated.1 b.dated.2
      refine ⟨some b.cursor, decode_token h, ?_⟩
      simp only [cursorBound, hdate]
      rfl

/-- **A page**: the first of the remaining rows, with a cursor where more follow. -/
theorem serviceListIntents_page {cursor : Option String} {bound : Option (Int × String)}
    (h : Asks cursor bound) :
    let n := pageSize (limit.getD (.ofInt 100))
    let rows := remaining collation table bound
    serviceListIntents collation table limit cursor =
      .ok { intents := (rows.take n).map StoredIntent.view
            nextCursor :=
              if n < rows.length then (rows.take n).getLast?.map (·.cursor.token) else none } := by
  intro n rows
  obtain ⟨decoded, hdecoded, hbound⟩ := h.decodes
  rw [serviceListIntents, hdecoded]
  show (do
    let page ← listIntentsPage collation table (limit.getD (.ofInt 100)) decoded
    _) = _
  rw [listIntentsPage_ok collation table hbound]
  show Except.ok _ = Except.ok _
  rw [Except.ok.injEq, IntentViewPage.mk.injEq]
  refine ⟨List.map_map, ?_⟩
  by_cases hmore : n < rows.length
  · simp only [n, rows] at hmore ⊢
    simp [hmore, encodeIntentCursor]
    rfl
  · simp only [n, rows] at hmore ⊢
    simp [hmore, encodeIntentCursor]

/-! ## Following the cursors -/

/-- What remains behind a page once its last intent is the cursor. -/
theorem remaining_behind {bound : Option (Int × String)} {n : Nat} {b : StoredIntent}
    (hlast : ((remaining collation table bound).take n).getLast? = some b) :
    remaining collation table (some (b.createdAt / 1000, b.id)) =
      ((remaining collation table bound).drop n).filter
        (·.key collation < rowKey collation (b.createdAt / 1000 * 1000) b.id) := by
  refine (Keyset.filter_again (ordered_descending collation table) hlast (cut_le collation b)
    ?_).symm
  have hb : b ∈ remaining collation table bound :=
    List.mem_of_mem_take (List.mem_of_getLast? hlast)
  have hbelow := (List.mem_filter.mp hb).2
  intro r hr
  cases bound with
  | none => rfl
  | some pair =>
      have hlt : b.key collation < rowKey collation (pair.1 * 1000) pair.2 := of_decide_eq_true hbelow
      exact decide_eq_true (hr.trans hlt)

/-- The last intent of a page that is not the last page. -/
theorem exists_last {n : Nat} (hn : 0 < n) {rows : List StoredIntent} (h : n < rows.length) :
    ∃ b, (rows.take n).getLast? = some b := by
  rw [Keyset.last_take hn h.le]
  exact ⟨_, List.getElem?_eq_getElem (by omega)⟩

/-- A client that follows the cursors walks through the remaining rows. -/
theorem Follows.walk {cursor : Option String} {seen : List PublicView}
    (hf : Follows collation table limit cursor seen) :
    ∀ {bound}, Asks cursor bound → ∃ rows,
      Walk (pageSize (limit.getD (.ofInt 100))) (·.key collation) (cutKey collation)
        (remaining collation table bound) rows ∧ seen = rows.map StoredIntent.view := by
  have hn := pageSize_pos (limit.getD (.ofInt 100))
  induction hf with
  | @last cursor page hpage hnext =>
      intro bound hasks
      rw [serviceListIntents_page collation table limit hasks] at hpage
      cases hpage
      by_cases hmore : pageSize (limit.getD (.ofInt 100)) < (remaining collation table bound).length
      · obtain ⟨b, hb⟩ := exists_last hn hmore
        simp only [hmore, if_true, hb] at hnext
        cases hnext
      · refine ⟨_, .last (Nat.not_lt.mp hmore), ?_⟩
        rw [List.take_of_length_le (Nat.not_lt.mp hmore)]
  | @more cursor page token seen hpage hnext hrest ih =>
      intro bound hasks
      rw [serviceListIntents_page collation table limit hasks] at hpage
      cases hpage
      by_cases hmore : pageSize (limit.getD (.ofInt 100)) < (remaining collation table bound).length
      · obtain ⟨b, hb⟩ := exists_last hn hmore
        simp only [hmore, if_true, hb, Option.map_some, Option.some.injEq] at hnext
        subst hnext
        -- the next request was answered, so the token was read back
        have huuid : isUuid b.id = true := by
          by_contra hrefused
          obtain ⟨e, he⟩ := decode_refused (Bool.eq_false_of_not_eq_true hrefused)
          have hanswer : ∃ page, serviceListIntents collation table limit
              (some b.cursor.token) = .ok page := by
            cases hrest with
            | last h _ => exact ⟨_, h⟩
            | more h _ _ => exact ⟨_, h⟩
          obtain ⟨page, hpage⟩ := hanswer
          rw [serviceListIntents, he] at hpage
          cases hpage
        obtain ⟨rows, hwalk, rfl⟩ := ih (.behind huuid)
        rw [remaining_behind collation table hb] at hwalk
        exact ⟨_, .more hmore hb (if_pos huuid) hwalk, List.map_append.symm⟩
      · simp only [hmore, if_false] at hnext
        cases hnext

/-- Whoever walks through the remaining rows follows the cursors. -/
theorem follows_of_walk {left rows : List StoredIntent}
    (hw : Walk (pageSize (limit.getD (.ofInt 100))) (·.key collation) (cutKey collation) left rows) :
    ∀ {cursor bound}, Asks cursor bound → remaining collation table bound = left →
      Follows collation table limit cursor (rows.map StoredIntent.view) := by
  induction hw with
  | @last rows h =>
      intro cursor bound hasks hleft
      have hpage := serviceListIntents_page collation table limit hasks
      dsimp only at hpage
      rw [hleft, if_neg (Nat.not_lt.mpr h), List.take_of_length_le h] at hpage
      exact .last hpage rfl
  | @more left seen b c h hlast hcut hrest ih =>
      intro cursor bound hasks hleft
      have hpage := serviceListIntents_page collation table limit hasks
      dsimp only at hpage
      rw [hleft, if_pos h, hlast] at hpage
      have huuid : isUuid b.id = true := by
        by_contra hrefused
        rw [cutKey, if_neg hrefused] at hcut
        cases hcut
      rw [cutKey, if_pos huuid, Option.some.injEq] at hcut
      have hbehind := remaining_behind collation table (hleft ▸ hlast)
      rw [hleft, hcut] at hbehind
      rw [List.map_append]
      exact .more hpage rfl (ih (.behind huuid) hbehind)

/-- **The client sees every intent exactly where no page boundary is lost.** -/
theorem follows_all_iff :
    Follows collation table limit none ((table.ordered collation).map StoredIntent.view) ↔
      Kept (pageSize (limit.getD (.ofInt 100))) (·.key collation) (cutKey collation)
        (table.ordered collation) := by
  have hall : remaining collation table none = table.ordered collation :=
    List.filter_eq_self.mpr fun _ _ => rfl
  rw [← Keyset.walk_all_iff (pageSize_pos _) (ordered_descending collation table)]
  constructor
  · intro hf
    obtain ⟨rows, hwalk, hviews⟩ := hf.walk collation table limit .first
    rw [hall] at hwalk
    have hlen : (table.ordered collation).length ≤ rows.length := by
      have := congrArg List.length hviews
      simp only [List.length_map] at this
      exact this.le
    rwa [hwalk.sublist.eq_of_length_le hlen] at hwalk
  · intro hw
    exact follows_of_walk collation table limit hw .first hall

/-! ## The intents that are lost -/

/-- **Paging visits every intent exactly once**, in descending order, iff at every page boundary the
last intent of the page has a UUID and the next one lies below its creation time rounded down to a
millisecond. -/
theorem paging_complete_iff :
    Follows collation table limit none ((table.ordered collation).map StoredIntent.view) ↔
      ∀ i b r, (table.ordered collation)[i]? = some b → (table.ordered collation)[i + 1]? = some r →
        pageSize (limit.getD (.ofInt 100)) ∣ i + 1 →
          isUuid b.id = true ∧
            r.key collation < rowKey collation (b.createdAt / 1000 * 1000) b.id := by
  rw [follows_all_iff]
  refine forall_congr' fun i => forall_congr' fun b => forall_congr' fun r =>
    imp_congr_right fun _ => imp_congr_right fun _ => imp_congr_right fun _ => ?_
  constructor
  · rintro ⟨c, hcut, hlt⟩
    have huuid : isUuid b.id = true := by
      by_contra hrefused
      rw [cutKey, if_neg hrefused] at hcut
      cases hcut
    rw [cutKey, if_pos huuid, Option.some.injEq] at hcut
    exact ⟨huuid, hcut ▸ hlt⟩
  · rintro ⟨huuid, hlt⟩
    exact ⟨_, if_pos huuid, hlt⟩

/-- A stored intent, as it was created. -/
def createdIntent (id intentId : String) (micros : Fin 1000) : StoredIntent where
  id := id
  createdAt := 1700000000000000 + micros
  intent := (serviceCreateIntent ⟨intentId, [], .committed, [], 1700000000000⟩).intent
  execution := (serviceCreateIntent ⟨intentId, [], .committed, [], 1700000000000⟩).execution
  dated := by
    unfold Js.maxDateMs
    omega

/-- Two intents of one millisecond, a microsecond apart. -/
def sameMillisecond : IntentTable where
  rows := [createdIntent "0a6f0b62-8c0e-4d55-9a39-6b9d5f2f7c10" "invoice-1" 1,
    createdIntent "7d1d5a0c-2f1b-4c67-8d5e-0c9a1b2e3f40" "invoice-2" 2]
  ids := by decide

/-- The page boundary between them loses the older one. -/
theorem same_millisecond_skipped :
    ¬ Follows .bytewise sameMillisecond (some (.ofInt 1)) none
      ((sameMillisecond.ordered .bytewise).map StoredIntent.view) := by
  rw [follows_all_iff]
  intro hkept
  have hboundary := hkept 0 (createdIntent "7d1d5a0c-2f1b-4c67-8d5e-0c9a1b2e3f40" "invoice-2" 2)
    (createdIntent "0a6f0b62-8c0e-4d55-9a39-6b9d5f2f7c10" "invoice-1" 1) rfl rfl (by decide)
  obtain ⟨c, hcut, hlt⟩ := hboundary
  have huuid : isUuid "7d1d5a0c-2f1b-4c67-8d5e-0c9a1b2e3f40" = true := by decide +kernel
  obtain rfl : rowKey .bytewise 1700000000000000 "7d1d5a0c-2f1b-4c67-8d5e-0c9a1b2e3f40" = c :=
    Option.some.inj ((if_pos huuid).symm.trans hcut)
  -- the cursor is a microsecond or two below both
  rcases Prod.Lex.toLex_lt_toLex.mp hlt with hlt | ⟨heq, -⟩
  · exact absurd hlt (by decide)
  · exact absurd heq (by decide)

end CellFlow
