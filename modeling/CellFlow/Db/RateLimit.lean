/-
# CellFlow.Db.RateLimit — the request counts of the rate limiter.

`consumeRateLimit` and `pruneRateLimits` of `packages/db/src/repository.ts`.  A row of
`rate_limit_windows` counts the requests of one bucket in one window, and `(project_id, bucket,
window_start)` is its key.  Instants are microseconds of the epoch; `now` is `now()`, the start of the
statement, which may be served a good while later.
-/
import CellFlow.Db.Schema
import Mathlib.Data.List.Nodup

namespace CellFlow

/-- The primary key of a row. -/
structure RateWindow where
  projectId : String
  bucket : String
  windowStart : Int
  deriving DecidableEq, Repr

/-- A row of `rate_limit_windows`; its count fits the `integer` column. -/
structure RateLimitRow where
  window : RateWindow
  requestCount : Nat
  fits : requestCount ≤ int4Max

/-- The rows of `rate_limit_windows`. -/
structure RateLimitStore where
  rows : List RateLimitRow
  unique : (rows.map (·.window)).Nodup

/-- No request has been counted. -/
def noRequests : RateLimitStore := ⟨[], List.nodup_nil⟩

/-- `to_timestamp(floor(extract(epoch from now()) / windowSeconds) * windowSeconds)`. -/
def windowStart (windowSeconds : Nat) (now : Int) : Int :=
  now / (windowSeconds * 1000000) * (windowSeconds * 1000000)

/-- The arguments of `consumeRateLimit` and the `now()` of its statement.  `limit` is the floor of the
number passed. -/
structure RateRequest where
  projectId : String
  bucket : String
  limit : Int
  windowSeconds : Nat
  now : Int
  deriving DecidableEq, Repr

/-- The window a request falls into. -/
def RateRequest.window (request : RateRequest) : RateWindow where
  projectId := request.projectId
  bucket := request.bucket
  windowStart := windowStart request.windowSeconds request.now

/-- What the statement throws. -/
inductive RateLimitError where
  | divisionByZero
  | integerOutOfRange
  deriving DecidableEq, Repr

namespace RateLimitStore

variable (store : RateLimitStore) (window : RateWindow)

/-- The count of a window; `none` where it has no row. -/
def count : Option Nat := (store.rows.find? (·.window = window)).map (·.requestCount)

/-- The row of a first request, where there is none yet. -/
def insert : RateLimitStore :=
  if h : window ∈ store.rows.map (·.window) then store
  else
    { rows := ⟨window, 1, by decide⟩ :: store.rows
      unique := List.nodup_cons.mpr ⟨h, store.unique⟩ }

/-- `do update set request_count = rate_limit_windows.request_count + 1`, on a row that can take it. -/
def raise (row : RateLimitRow) : RateLimitRow :=
  if h : row.window = window ∧ row.requestCount < int4Max then
    ⟨row.window, row.requestCount + 1, h.2⟩
  else row

@[simp] theorem raise_window (row : RateLimitRow) : (raise window row).window = row.window := by
  unfold raise
  split <;> rfl

/-- The rows with the count of the window raised, in `ON CONFLICT DO UPDATE`. -/
def update : RateLimitStore where
  rows := store.rows.map (raise window)
  unique := by
    have h := store.unique
    rw [List.map_map]
    simpa [Function.comp_def] using h

end RateLimitStore

/-- `consumeRateLimit`: one statement.  Where it throws, nothing is written. -/
def consumeRateLimit (request : RateRequest) (store : RateLimitStore) :
    Except RateLimitError Bool × RateLimitStore :=
  if request.windowSeconds = 0 then (.error .divisionByZero, store)
  else
    match store.count request.window with
    | none => (.ok (1 ≤ request.limit), store.insert request.window)
    | some requestCount =>
        if int4Max ≤ requestCount then (.error .integerOutOfRange, store)
        else (.ok ((requestCount + 1 : Nat) ≤ request.limit), store.update request.window)

/-- The instant before which a cleanup drops windows. -/
def pruneCutoff (olderThanHours now : Int) : Int :=
  now - max 1 (min olderThanHours 720) * 3600000000

/-- `pruneRateLimits`, with the number of rows it has deleted. -/
def pruneRateLimits (olderThanHours now : Int) (store : RateLimitStore) : RateLimitStore × Nat :=
  let kept := store.rows.filter fun row => pruneCutoff olderThanHours now ≤ row.window.windowStart
  (⟨kept, store.unique.sublist (List.filter_sublist.map _)⟩, store.rows.length - kept.length)

/-! ## Counts -/

namespace RateLimitStore

variable {store : RateLimitStore} {window : RateWindow}

theorem count_eq_none_iff : store.count window = none ↔ window ∉ store.rows.map (·.window) := by
  rw [count, Option.map_eq_none_iff, List.find?_eq_none]
  constructor
  · intro h hmem
    obtain ⟨row, hrow, hwindow⟩ := List.mem_map.mp hmem
    exact h row hrow (decide_eq_true hwindow)
  · intro h row hrow hwindow
    exact h (List.mem_map.mpr ⟨row, hrow, of_decide_eq_true hwindow⟩)

theorem count_le {n : Nat} (h : store.count window = some n) : n ≤ int4Max := by
  obtain ⟨row, -, rfl⟩ := Option.map_eq_some_iff.mp h
  exact row.fits

theorem count_insert (h : store.count window = none) (other : RateWindow) :
    (store.insert window).count other = if other = window then some 1 else store.count other := by
  unfold insert
  rw [dif_neg (count_eq_none_iff.mp h)]
  by_cases hwindow : other = window
  · subst hwindow
    rw [if_pos rfl, count, List.find?_cons_of_pos]
    · rfl
    · exact decide_eq_true rfl
  · rw [if_neg hwindow, count, List.find?_cons_of_neg]
    · rfl
    · rw [decide_eq_true_eq]
      exact fun h => hwindow h.symm

theorem find_raise (rows : List RateLimitRow) (other : RateWindow) :
    (rows.map (raise window)).find? (·.window = other) =
      (rows.find? (·.window = other)).map (raise window) := by
  rw [List.find?_map]
  congr 2
  funext row
  simp

theorem raise_requestCount (row : RateLimitRow) : (raise window row).requestCount =
    if row.window = window then min (row.requestCount + 1) int4Max else row.requestCount := by
  have hfits := row.fits
  unfold raise
  split_ifs with hraise hwindow hwindow
  · show row.requestCount + 1 = _
    omega
  · exact absurd hraise.1 hwindow
  · -- a full row stays as it is
    have hfull : ¬ row.requestCount < int4Max := fun h => hraise ⟨hwindow, h⟩
    omega
  · rfl

theorem count_update (other : RateWindow) :
    (store.update window).count other =
      if other = window then (store.count other).map fun n => min (n + 1) int4Max
      else store.count other := by
  show Option.map _ (List.find? _ (store.rows.map (raise window))) = _
  rw [find_raise, count]
  cases hfound : store.rows.find? fun row => decide (row.window = other) with
  | none => simp
  | some row =>
      have hother := List.find?_some hfound
      rw [decide_eq_true_eq] at hother
      simp only [Option.map_some, raise_requestCount, hother]
      split_ifs <;> rfl

/-- A cleanup takes the windows before its cutoff and no others. -/
theorem count_prune (olderThanHours now : Int) (other : RateWindow) :
    (pruneRateLimits olderThanHours now store).1.count other =
      if pruneCutoff olderThanHours now ≤ other.windowStart then store.count other else none := by
  show Option.map _ (List.find? _ (List.filter _ store.rows)) = _
  rw [List.find?_filter]
  by_cases hkept : pruneCutoff olderThanHours now ≤ other.windowStart
  · rw [if_pos hkept, count]
    congr 2
    funext row
    by_cases hrow : row.window = other
    · simp [hrow, hkept]
    · simp [hrow]
  · rw [if_neg hkept, Option.map_eq_none_iff, List.find?_eq_none]
    intro row _ hrow
    simp only [decide_eq_true_eq] at hrow
    exact hkept (hrow.2 ▸ hrow.1)

end RateLimitStore

/-- The answer to a request of whose window `asked` requests have been counted. -/
def RateRequest.answer (request : RateRequest) (asked : Nat) : Except RateLimitError Bool :=
  if request.windowSeconds = 0 then .error .divisionByZero
  else if int4Max ≤ asked then .error .integerOutOfRange
  else .ok ((asked + 1 : Nat) ≤ request.limit)

theorem consumeRateLimit_answer (request : RateRequest) (store : RateLimitStore) :
    (consumeRateLimit request store).1 =
      request.answer ((store.count request.window).getD 0) := by
  unfold consumeRateLimit RateRequest.answer
  by_cases hzero : request.windowSeconds = 0
  · rw [if_pos hzero, if_pos hzero]
  · rw [if_neg hzero, if_neg hzero]
    cases store.count request.window with
    | none => rfl
    | some n =>
        show (if int4Max ≤ n then _ else _ : _ × _).1 = if int4Max ≤ n then _ else _
        split_ifs <;> rfl

/-- A request raises the count of its window, up to the largest one, and leaves the others. -/
theorem consumeRateLimit_count (request : RateRequest) (store : RateLimitStore) (other : RateWindow) :
    ((consumeRateLimit request store).2.count other).getD 0 =
      if request.windowSeconds ≠ 0 ∧ other = request.window then
        min ((store.count other).getD 0 + 1) int4Max
      else (store.count other).getD 0 := by
  unfold consumeRateLimit
  by_cases hzero : request.windowSeconds = 0
  · rw [if_pos hzero, if_neg fun h => h.1 hzero]
  rw [if_neg hzero]
  cases hcount : store.count request.window with
  | none =>
      show ((store.insert request.window).count other).getD 0 = _
      rw [RateLimitStore.count_insert hcount]
      by_cases hother : other = request.window
      · rw [if_pos hother, if_pos ⟨hzero, hother⟩, hother, hcount]
        rfl
      · rw [if_neg hother, if_neg fun h => hother h.2]
  | some n =>
      have hfits := RateLimitStore.count_le hcount
      by_cases hfull : int4Max ≤ n
      · -- the row is full: the statement throws, and the count is the largest one
        simp only [if_pos hfull]
        split_ifs with hother
        · rw [hother.2, hcount]
          show n = min (n + 1) int4Max
          omega
        · rfl
      · simp only [if_neg hfull]
        rw [RateLimitStore.count_update]
        by_cases hother : other = request.window
        · rw [if_pos hother, if_pos ⟨hzero, hother⟩, hother, hcount]
          rfl
        · rw [if_neg hother, if_neg fun h => hother h.2]

end CellFlow
