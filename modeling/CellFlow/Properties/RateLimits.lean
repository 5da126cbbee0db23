/-
# CellFlow.Properties.RateLimits — how many requests a bucket is allowed.

Requests and cleanups are served one statement at a time, in any order: the `now()` of one may lie
before that of another served earlier.  The count of a window is the number of requests served in it
since a cleanup last dropped it (`rateInv_run`), so each answer is told by the history; and where no
cleanup has overtaken a request, a window allows no more requests than its limit, and any interval as
long as a window no more than twice as many (`rate_limit_exact`).
-/
import CellFlow.Db.RateLimit
import CellFlow.Lib.Runs
import Mathlib.Algebra.Order.Ring.Int

namespace CellFlow

open Runs (Run)

/-! ## The statements -/

/-- A statement that was served, and what it answered. -/
inductive RateEvent where
  | consumed (request : RateRequest) (answer : Except RateLimitError Bool)
  | pruned (olderThanHours now : Int)

/-- One statement on the rows. -/
inductive RateStep : RateLimitStore → RateEvent → RateLimitStore → Prop where
  | consume {store : RateLimitStore} (request : RateRequest) :
      RateStep store (.consumed request (consumeRateLimit request store).1)
        (consumeRateLimit request store).2
  | prune {store : RateLimitStore} (olderThanHours now : Int) :
      RateStep store (.pruned olderThanHours now) (pruneRateLimits olderThanHours now store).1

/-! ## The count of a window -/

/-- The count of a window after one more statement. -/
def RateEvent.counted (window : RateWindow) (asked : Nat) : RateEvent → Nat
  | .consumed request _ =>
      if request.windowSeconds ≠ 0 ∧ window = request.window then asked + 1 else asked
  | .pruned olderThanHours now =>
      if pruneCutoff olderThanHours now ≤ window.windowStart then asked else 0

/-- The requests served in a window since a cleanup last dropped it. -/
def askedIn (window : RateWindow) (events : List RateEvent) : Nat :=
  events.foldl (RateEvent.counted window) 0

theorem askedIn_snoc (window : RateWindow) (events : List RateEvent) (event : RateEvent) :
    askedIn window (events ++ [event]) = event.counted window (askedIn window events) := by
  rw [askedIn, List.foldl_append]
  rfl

/-- The rows hold the counts, up to the largest one a row can hold. -/
def RateInv (events : List RateEvent) (store : RateLimitStore) : Prop :=
  ∀ window, (store.count window).getD 0 = min (askedIn window events) int4Max

section

variable {events : List RateEvent} {store store' : RateLimitStore} {event : RateEvent}

theorem RateInv.step (hi : RateInv events store) (h : RateStep store event store') :
    RateInv (events ++ [event]) store' := by
  intro window
  have hcount := hi window
  rw [askedIn_snoc]
  cases h with
  | consume request =>
      rw [consumeRateLimit_count, hcount]
      show _ = min (if request.windowSeconds ≠ 0 ∧ window = request.window then _ else _) int4Max
      by_cases hcounted : request.windowSeconds ≠ 0 ∧ window = request.window
      · rw [if_pos hcounted, if_pos hcounted]
        omega
      · rw [if_neg hcounted, if_neg hcounted]
  | prune olderThanHours now =>
      rw [RateLimitStore.count_prune]
      show _ = min (if _ then _ else _) int4Max
      split_ifs
      · exact hcount
      · show 0 = min 0 int4Max
        omega

theorem rateInv_run (h : Run RateStep noRequests events store) : RateInv events store := by
  refine Run.history RateInv ?_ ?_ h
  · intro window
    rfl
  · intro events store event store' _ hi hs
    exact hi.step hs

/-- A row that holds no more than the largest count answers as the history does. -/
theorem RateRequest.answer_min (request : RateRequest) (asked : Nat) :
    request.answer (min asked int4Max) = request.answer asked := by
  unfold RateRequest.answer
  by_cases hfull : int4Max ≤ asked
  · have hmin : min asked int4Max = int4Max := by omega
    rw [hmin, if_pos hfull, if_pos (Nat.le_refl _)]
  · have hmin : min asked int4Max = asked := by omega
    rw [hmin]

theorem RateInv.answer (hi : RateInv events store) (request : RateRequest) :
    (consumeRateLimit request store).1 = request.answer (askedIn request.window events) := by
  rw [consumeRateLimit_answer, hi request.window, RateRequest.answer_min]

/-! ## What a window allows -/

/-- A request that was allowed, of one of the windows in `of`, under a limit of at most `limit`. -/
def RateEvent.isAllowed (ofWindow : RateWindow → Bool) (limit : Int) : RateEvent → Bool
  | .consumed request (.ok true) => ofWindow request.window && decide (request.limit ≤ limit)
  | _ => false

/-- The requests allowed in a window under a limit of at most `limit`. -/
def allowedIn (window : RateWindow) (limit : Int) (events : List RateEvent) : Nat :=
  events.countP (·.isAllowed (· = window) limit)

/-- No cleanup has overtaken a request: none served before it drops its window. -/
def Unovertaken (events : List RateEvent) : Prop :=
  ∀ before request answer after, events = before ++ .consumed request answer :: after →
    ∀ olderThanHours now, .pruned olderThanHours now ∈ before →
      pruneCutoff olderThanHours now ≤ request.window.windowStart

theorem Unovertaken.init (h : Unovertaken (events ++ [event])) : Unovertaken events := by
  intro before request answer after heq
  apply h before request answer (after ++ [event])
  rw [heq, List.append_assoc]
  rfl

theorem Unovertaken.last {request : RateRequest} {answer : Except RateLimitError Bool}
    (h : Unovertaken (events ++ [.consumed request answer])) {olderThanHours now : Int}
    (hpruned : .pruned olderThanHours now ∈ events) :
    pruneCutoff olderThanHours now ≤ request.window.windowStart :=
  h events request answer [] rfl olderThanHours now hpruned

/-- The answer of a request that was allowed. -/
theorem RateRequest.answer_allowed {request : RateRequest} {asked : Nat}
    (h : request.answer asked = .ok true) :
    request.windowSeconds ≠ 0 ∧ ((asked + 1 : Nat) : Int) ≤ request.limit := by
  unfold RateRequest.answer at h
  split_ifs at h with hzero hfull
  refine ⟨hzero, ?_⟩
  exact of_decide_eq_true (Except.ok.inj h)

/-- What a window has allowed: never more than the limit; and as long as no cleanup has dropped it,
never more than it has counted. -/
structure Within (window : RateWindow) (limit : Int) (events : List RateEvent) : Prop where
  most : allowedIn window limit events ≤ limit.toNat
  counted : (∀ olderThanHours now, .pruned olderThanHours now ∈ events →
      pruneCutoff olderThanHours now ≤ window.windowStart) →
    allowedIn window limit events ≤ askedIn window events

theorem Within.step {window : RateWindow} {limit : Int} (hi : Within window limit events)
    (hcounts : RateInv events store) (hordered : Unovertaken (events ++ [event]))
    (h : RateStep store event store') : Within window limit (events ++ [event]) := by
  have hkept : ∀ {other : RateEvent}, (∀ olderThanHours now,
      .pruned olderThanHours now ∈ events ++ [other] →
        pruneCutoff olderThanHours now ≤ window.windowStart) →
      allowedIn window limit events ≤ askedIn window events := by
    intro other hall
    exact hi.counted fun olderThanHours now hmem =>
      hall olderThanHours now (List.mem_append_left _ hmem)
  cases h with
  | consume request =>
      have hanswer := hcounts.answer request
      by_cases hallowed : RateEvent.isAllowed (· = window) limit
          (.consumed request (consumeRateLimit request store).1) = true
      · -- an allowed request is one of those its window has counted
        have hone : allowedIn window limit
            (events ++ [.consumed request (consumeRateLimit request store).1]) =
              allowedIn window limit events + 1 := by
          rw [allowedIn, List.countP_append, List.countP_singleton, if_pos hallowed]
          rfl
        rw [hanswer] at hallowed
        have hok : request.answer (askedIn request.window events) = .ok true := by
          unfold RateEvent.isAllowed at hallowed
          split at hallowed
          next heq =>
            obtain ⟨-, heq⟩ := RateEvent.consumed.inj heq
            exact heq
          next => cases hallowed
        rw [hok] at hallowed
        have hboth : decide (request.window = window) = true ∧ decide (request.limit ≤ limit) = true :=
          Bool.and_eq_true_iff.mp hallowed
        have hwindow : request.window = window := of_decide_eq_true hboth.1
        have hlimit : request.limit ≤ limit := of_decide_eq_true hboth.2
        obtain ⟨hzero, hroom⟩ := request.answer_allowed hok
        subst hwindow
        have hbefore : allowedIn request.window limit events ≤ askedIn request.window events :=
          hi.counted fun olderThanHours now hmem => hordered.last hmem
        constructor
        · rw [hone]
          omega
        · intro _
          rw [hone, askedIn_snoc]
          show _ ≤ if _ then _ else _
          rw [if_pos ⟨hzero, rfl⟩]
          omega
      · have hsame : allowedIn window limit
            (events ++ [.consumed request (consumeRateLimit request store).1]) =
              allowedIn window limit events := by
          rw [allowedIn, List.countP_append, List.countP_singleton, if_neg hallowed]
          rfl
        constructor
        · rw [hsame]
          exact hi.most
        · intro hall
          have hle := hkept hall
          rw [hsame, askedIn_snoc]
          show _ ≤ if request.windowSeconds ≠ 0 ∧ window = request.window then _ else _
          by_cases hcounted : request.windowSeconds ≠ 0 ∧ window = request.window
          · rw [if_pos hcounted]
            omega
          · rw [if_neg hcounted]
            exact hle
  | prune olderThanHours now =>
      have hsame : allowedIn window limit (events ++ [.pruned olderThanHours now]) =
          allowedIn window limit events := by
        rw [allowedIn, List.countP_append]
        rfl
      constructor
      · rw [hsame]
        exact hi.most
      · intro hall
        rw [hsame, askedIn_snoc]
        show _ ≤ if _ then _ else _
        rw [if_pos (hall olderThanHours now (by simp))]
        exact hkept hall

theorem within_run (h : Run RateStep noRequests events store) (hordered : Unovertaken events)
    (window : RateWindow) (limit : Int) : Within window limit events := by
  induction h with
  | start => exact ⟨Nat.zero_le _, fun _ => Nat.zero_le _⟩
  | next hrun hs ih => exact (ih hordered.init).step (rateInv_run hrun) hordered hs

/-! ## Intervals -/

/-- A request of the bucket that was allowed under a limit of at most `limit`, and started within a
window's length from `start`. -/
def RateEvent.isAllowedFrom (projectId bucket : String) (windowSeconds : Nat) (limit start : Int) :
    RateEvent → Bool
  | .consumed request (.ok true) =>
      decide (request.projectId = projectId ∧ request.bucket = bucket ∧
        request.windowSeconds = windowSeconds ∧ request.limit ≤ limit ∧
        start ≤ request.now ∧ request.now < start + windowSeconds * 1000000)
  | _ => false

/-- Instants less than a window apart lie in one window or in two that follow each other. -/
theorem windowStart_cases {windowSeconds : Nat} (hpos : 0 < windowSeconds) {start now : Int}
    (hfrom : start ≤ now) (hto : now < start + windowSeconds * 1000000) :
    windowStart windowSeconds now = windowStart windowSeconds start ∨
      windowStart windowSeconds now =
        windowStart windowSeconds start + windowSeconds * 1000000 := by
  have hlen : 0 < (windowSeconds : Int) * 1000000 := by omega
  unfold windowStart
  generalize (windowSeconds : Int) * 1000000 = len at hlen hto
  have hlow : start / len ≤ now / len := Int.ediv_le_ediv hlen hfrom
  have hhigh : now / len ≤ start / len + 1 := by
    have hstep : (start + len) / len = start / len + 1 :=
      Int.add_ediv_of_dvd_right (dvd_refl len) |>.trans (by rw [Int.ediv_self (by omega)])
    rw [← hstep]
    apply Int.ediv_le_ediv hlen
    omega
  rcases Int.lt_or_eq_of_le hhigh with hlt | heq
  · left
    rw [show now / len = start / len by omega]
  · right
    rw [heq, Int.add_mul, Int.one_mul]

theorem countP_le_add {α : Type} {p q r : α → Bool} {l : List α}
    (h : ∀ a ∈ l, p a = true → q a = true ∨ r a = true) : l.countP p ≤ l.countP q + l.countP r := by
  induction l with
  | nil => exact Nat.zero_le _
  | cons a l ih =>
      have hrest := ih fun b hb => h b (List.mem_cons_of_mem _ hb)
      have hhead := h a List.mem_cons_self
      simp only [List.countP_cons]
      by_cases hp : p a = true
      · rcases hhead hp with hq | hr
        · rw [if_pos hp, if_pos hq]
          omega
        · rw [if_pos hp, if_pos hr]
          omega
      · rw [if_neg hp]
        omega

theorem allowedFrom_le (h : Run RateStep noRequests events store) (hordered : Unovertaken events)
    (projectId bucket : String) {windowSeconds : Nat} (hpos : 0 < windowSeconds) (limit start : Int) :
    events.countP (·.isAllowedFrom projectId bucket windowSeconds limit start) ≤ 2 * limit.toNat := by
  have hfirst := (within_run h hordered
    ⟨projectId, bucket, windowStart windowSeconds start⟩ limit).most
  have hsecond := (within_run h hordered
    ⟨projectId, bucket, windowStart windowSeconds start + windowSeconds * 1000000⟩ limit).most
  have hsplit : events.countP (·.isAllowedFrom projectId bucket windowSeconds limit start) ≤
      allowedIn ⟨projectId, bucket, windowStart windowSeconds start⟩ limit events +
        allowedIn ⟨projectId, bucket, windowStart windowSeconds start + windowSeconds * 1000000⟩
          limit events := by
    apply countP_le_add
    intro event _ hevent
    unfold RateEvent.isAllowedFrom at hevent
    split at hevent
    next request =>
      rw [decide_eq_true_eq] at hevent
      obtain ⟨hproject, hbucket, hseconds, hlimit, hfrom, hto⟩ := hevent
      rcases windowStart_cases hpos hfrom hto with hstart | hstart
      · left
        simp [RateEvent.isAllowed, RateRequest.window, hproject, hbucket, hseconds, hlimit, hstart]
      · right
        simp [RateEvent.isAllowed, RateRequest.window, hproject, hbucket, hseconds, hlimit, hstart]
    next => cases hevent
  omega

end

/-- **The rate limit is exact**: a request is answered by the number of requests served before it in its
window since a cleanup last dropped it, and by no other bucket.  Where no cleanup overtakes a request, a
window allows at most as many requests as its limit, and any interval as long as a window at most
twice as many. -/
theorem rate_limit_exact {events : List RateEvent} {store : RateLimitStore}
    (h : Run RateStep noRequests events store) :
    (∀ request answer store', RateStep store (.consumed request answer) store' →
      answer = request.answer (askedIn request.window events)) ∧
    (Unovertaken events → ∀ projectId bucket windowSeconds limit, 0 < windowSeconds →
      (∀ window, allowedIn window limit events ≤ limit.toNat) ∧
      ∀ start, events.countP (·.isAllowedFrom projectId bucket windowSeconds limit start) ≤
        2 * limit.toNat) := by
  constructor
  · intro request answer store' hstep
    cases hstep with
    | consume request => exact (rateInv_run h).answer request
  · intro hordered projectId bucket windowSeconds limit hpos
    exact ⟨fun window => (within_run h hordered window limit).most,
      allowedFrom_le h hordered projectId bucket hpos limit⟩

/-- Two requests of one minute, of which one is allowed. -/
def onePerMinute (now : Int) : RateRequest where
  projectId := "p"
  bucket := "api:k"
  limit := 1
  windowSeconds := 60
  now := now

theorem rate_limit_exact_one_per_minute :
    ∃ store, Run RateStep noRequests
        [.consumed (onePerMinute 59000000) (.ok true), .consumed (onePerMinute 3000000) (.ok false)]
        store ∧
      (∀ request answer store', RateStep store (.consumed request answer) store' →
        answer = request.answer (askedIn request.window
          [.consumed (onePerMinute 59000000) (.ok true),
            .consumed (onePerMinute 3000000) (.ok false)])) ∧
      ∀ start, [.consumed (onePerMinute 59000000) (.ok true),
        .consumed (onePerMinute 3000000) (.ok false)].countP
          (RateEvent.isAllowedFrom "p" "api:k" 60 1 start) ≤ 2 := by
  have hrun : Run RateStep noRequests
      [.consumed (onePerMinute 59000000) (.ok true), .consumed (onePerMinute 3000000) (.ok false)]
      _ := .next (.next .start (.consume (onePerMinute 59000000))) (.consume (onePerMinute 3000000))
  have hordered : Unovertaken
      [.consumed (onePerMinute 59000000) (.ok true),
        .consumed (onePerMinute 3000000) (.ok false)] := by
    -- no cleanup was served
    intro before request answer after heq olderThanHours now hmem
    have hall : RateEvent.pruned olderThanHours now ∈ before ++ .consumed request answer :: after :=
      List.mem_append_left _ hmem
    rw [← heq] at hall
    simp at hall
  exact ⟨_, hrun, (rate_limit_exact hrun).1, ((rate_limit_exact hrun).2 hordered "p" "api:k" 60 1
    (by decide)).2⟩

end CellFlow
