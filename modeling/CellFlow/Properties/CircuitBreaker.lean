/-
# CellFlow.Properties.CircuitBreaker — which endpoints a call passes over.

The process keeps a count and a time for each endpoint.  Whatever the order in which the sessions of
any number of calls end, these tell exactly how often the endpoint has failed since it last came
through (`breakerInv_run`); so a call passes over an endpoint exactly if enough failures in a row were
noted, the last one not a cooldown ago.
-/
import CellFlow.Reconcile.Circuit

namespace CellFlow

open Runs (Run)

/-! ## Streaks -/

/-- The failures of the endpoint since it last came through, the latest first. -/
def failureStreak (url : String) (noted : List Noted) : List Noted :=
  (noted.filter (·.url = url)).takeWhile (!·.success)

section Streaks

variable {url : String} {time : Int} {noted : List Noted}

theorem failureStreak_success : failureStreak url (⟨url, true, time⟩ :: noted) = [] := by
  simp [failureStreak]

theorem failureStreak_failure :
    failureStreak url (⟨url, false, time⟩ :: noted) =
      ⟨url, false, time⟩ :: failureStreak url noted := by
  simp [failureStreak]

theorem failureStreak_other {note : Noted} (h : note.url ≠ url) :
    failureStreak url (note :: noted) = failureStreak url noted := by
  simp [failureStreak, h]

end Streaks

variable (settings : CircuitSettings)

/-- The endpoint has failed often enough in a row, the last time not a cooldown ago. -/
def isTripped (noted : List Noted) (now : Int) (url : String) : Bool :=
  decide (rpcCircuitThreshold settings ≤ (failureStreak url noted).length) &&
    (failureStreak url noted).head?.any (now < ·.time + rpcCircuitCooldownMs settings)

/-- What a process keeps of a streak. -/
def keptOf : List Noted → Option EndpointFailureState
  | [] => none
  | last :: before =>
      some ⟨before.length + 1,
        if rpcCircuitThreshold settings ≤ before.length + 1 then
          last.time + rpcCircuitCooldownMs settings
        else 0⟩

/-! ## The invariant -/

/-- The notes kept are those of the streaks. -/
structure BreakerInv (w : CircuitWorld) : Prop where
  kept : ∀ url, w.endpointFailures url = keptOf settings (failureStreak url w.noted)
  clock : 0 ≤ w.clock

variable {settings} {w w' : CircuitWorld} {m : CircuitMove} {url : String}

/-- A failure is counted on top of the streak before it. -/
theorem noteEndpointFailure_self {endpointFailures : EndpointFailures} {streak : List Noted}
    (h : endpointFailures url = keptOf settings streak) (now : Int) :
    noteEndpointFailure settings url now endpointFailures url =
      keptOf settings (⟨url, false, now⟩ :: streak) := by
  rw [noteEndpointFailure, Function.update_self, h]
  rcases streak with _ | ⟨last, before⟩
  · rfl
  · rfl

theorem BreakerInv.note (hi : BreakerInv settings w) (ended : String) (success : Bool) :
    BreakerInv settings (w.note settings ended success) := by
  refine ⟨fun url => ?_, hi.clock⟩
  by_cases hurl : ended = url
  · subst hurl
    cases success with
    | true =>
        show noteEndpointSuccess ended w.endpointFailures ended = _
        rw [CircuitWorld.note, failureStreak_success, noteEndpointSuccess, Function.update_self]
        rfl
    | false =>
        show noteEndpointFailure settings ended w.clock w.endpointFailures ended = _
        rw [CircuitWorld.note, failureStreak_failure, noteEndpointFailure_self (hi.kept ended)]
  · -- a note about one endpoint leaves the others
    have hother : (w.note settings ended success).endpointFailures url = w.endpointFailures url := by
      have hne : url ≠ ended := fun h => hurl h.symm
      cases success with
      | true => exact Function.update_of_ne hne ..
      | false => exact Function.update_of_ne hne ..
    rw [hother, hi.kept url, CircuitWorld.note, failureStreak_other hurl]

/-- What a move does to the calls. -/
inductive CallChange (settings : CircuitSettings) (w : CircuitWorld) :
    CircuitMove → CircuitWorld → Prop where
  | ticked {now : Int} (hnow : 0 ≤ now) : CallChange settings w (.tick now) { w with clock := now }
  | started {id : Nat} {urls : List String} (hnew : w.calls id = none) :
      CallChange settings w (.start id urls)
        { w with
          calls := Function.update w.calls id
            (some ⟨healthyFirst w.endpointFailures.cooldownUntil w.clock urls, []⟩) }
  | finished {id : Nat} {success : Bool} {call : SessionCall} {url : String}
      (hcall : w.calls id = some call) (hcurrent : call.current = some url) :
      CallChange settings w (.finish id success)
        { w.note settings url success with
          calls := Function.update w.calls id
            (some { call with tried := call.tried ++ [(url, success)] }) }

theorem callChange_of_step (h : CircuitStep settings w m w') : CallChange settings w m w' := by
  unfold CircuitStep at h
  cases m with
  | tick now =>
      simp only [CircuitWorld.move] at h
      split_ifs at h with hnow
      obtain rfl := Option.some.inj h
      exact .ticked hnow
  | start id urls =>
      simp only [CircuitWorld.move] at h
      split_ifs at h with hnew
      obtain rfl := Option.some.inj h
      exact .started hnew
  | finish id success =>
      simp only [CircuitWorld.move] at h
      split at h
      · cases h
      next call hcall =>
        split at h
        · cases h
        next url hcurrent =>
          obtain rfl := Option.some.inj h
          exact .finished hcall hcurrent

theorem BreakerInv.step (hi : BreakerInv settings w) (h : CallChange settings w m w') :
    BreakerInv settings w' := by
  cases h with
  | ticked hnow => exact ⟨hi.kept, hnow⟩
  | started hnew => exact ⟨hi.kept, hi.clock⟩
  | @finished id success call url hcall hcurrent =>
      have hnoted := hi.note url success
      exact ⟨hnoted.kept, hnoted.clock⟩

theorem breakerInv_run {clock : Int} (hclock : 0 ≤ clock) {moves : List CircuitMove}
    (h : Run (CircuitStep settings) (freshProcess clock) moves w) : BreakerInv settings w := by
  refine Run.inv (BreakerInv settings) ⟨fun url => rfl, hclock⟩ ?_ h
  intro w m w' hi hs
  exact hi.step (callChange_of_step hs)

/-! ## Passed over -/

/-- A cooldown that is not over is one of a tripped endpoint. -/
theorem BreakerInv.cooling_iff (hi : BreakerInv settings w) (url : String) :
    w.clock < (w.endpointFailures.cooldownUntil url).getD 0 ↔
      isTripped settings w.noted w.clock url = true := by
  have hclock := hi.clock
  rw [EndpointFailures.cooldownUntil, hi.kept url, isTripped]
  rcases failureStreak url w.noted with _ | ⟨last, before⟩
  · simp [keptOf, hclock]
  · by_cases hlong : rpcCircuitThreshold settings ≤ before.length + 1
    · simp [keptOf, hlong]
    · simp [keptOf, hlong, hclock]

/-- The end of a cooldown that is not over comes a cooldown after the last failure. -/
theorem BreakerInv.cooldown_eq (hi : BreakerInv settings w)
    (htripped : isTripped settings w.noted w.clock url = true) :
    ∃ last, (failureStreak url w.noted).head? = some last ∧
      (w.endpointFailures.cooldownUntil url).getD 0 =
        last.time + rpcCircuitCooldownMs settings := by
  rw [isTripped, Bool.and_eq_true, decide_eq_true_eq] at htripped
  rw [EndpointFailures.cooldownUntil, hi.kept url]
  rcases hstreak : failureStreak url w.noted with _ | ⟨last, before⟩
  · rw [hstreak] at htripped
    cases htripped.2
  · have hlong : rpcCircuitThreshold settings ≤ before.length + 1 := by
      rw [hstreak] at htripped
      exact htripped.1
    exact ⟨last, rfl, by simp [keptOf, hlong]⟩

/-- Of a list that is not empty, the shortest wait comes first. -/
theorem take_one_mergeSort {α : Type} (wait : α → Int) {l : List α} (hne : l ≠ []) :
    ∃ first ∈ l, (l.mergeSort fun a b => wait a ≤ wait b).take 1 = [first] ∧
      ∀ other ∈ l, wait first ≤ wait other := by
  have htrans : ∀ a b c : α, (decide (wait a ≤ wait b)) = true → (decide (wait b ≤ wait c)) = true →
      (decide (wait a ≤ wait c)) = true := by
    intro a b c hab hbc
    rw [decide_eq_true_eq] at hab hbc ⊢
    omega
  have htotal : ∀ a b : α, (decide (wait a ≤ wait b) || decide (wait b ≤ wait a)) = true := by
    intro a b
    rw [Bool.or_eq_true, decide_eq_true_eq, decide_eq_true_eq]
    omega
  have hsorted := List.pairwise_mergeSort htrans htotal l
  have hperm := List.mergeSort_perm l fun a b => decide (wait a ≤ wait b)
  rcases hsort : l.mergeSort fun a b => decide (wait a ≤ wait b) with _ | ⟨first, rest⟩
  · rw [hsort] at hperm
    exact absurd hperm.symm.eq_nil hne
  · rw [hsort] at hsorted hperm
    refine ⟨first, hperm.mem_iff.mp List.mem_cons_self, rfl, ?_⟩
    intro other hother
    rcases List.mem_cons.mp (hperm.mem_iff.mpr hother) with rfl | hrest
    · exact Int.le_refl _
    · exact of_decide_eq_true (List.rel_of_pairwise_cons hsorted hrest)

/-- The endpoints a call opens its sessions with: those that are not tripped, in the order configured;
if all are, the one whose last failure is the oldest. -/
structure OpensAlong (settings : CircuitSettings) (w : CircuitWorld) (urls endpoints : List String) :
    Prop where
  closed : (∃ url ∈ urls, isTripped settings w.noted w.clock url = false) →
    endpoints = urls.filter fun url => !isTripped settings w.noted w.clock url
  fallback : urls ≠ [] → (∀ url ∈ urls, isTripped settings w.noted w.clock url = true) →
    ∃ url ∈ urls, endpoints = [url] ∧ ∀ other ∈ urls,
      ∀ last ∈ (failureStreak url w.noted).head?, ∀ last' ∈ (failureStreak other w.noted).head?,
        last.time ≤ last'.time

theorem BreakerInv.opensAlong (hi : BreakerInv settings w) (urls : List String) :
    OpensAlong settings w urls
      (healthyFirst w.endpointFailures.cooldownUntil w.clock urls) := by
  have havailable : (urls.filter fun url =>
      (w.endpointFailures.cooldownUntil url).getD 0 ≤ w.clock) =
        urls.filter fun url => !isTripped settings w.noted w.clock url := by
    refine List.filter_congr fun url _ => ?_
    rw [Bool.eq_iff_iff, decide_eq_true_eq, Bool.not_eq_true', ← Bool.not_eq_true,
      ← hi.cooling_iff url]
    omega
  constructor
  · rintro ⟨url, hurl, hclosed⟩
    have hne : (urls.filter fun url => !isTripped settings w.noted w.clock url) ≠ [] := by
      refine List.ne_nil_of_mem (a := url) (List.mem_filter.mpr ⟨hurl, ?_⟩)
      rw [hclosed]
      rfl
    rw [healthyFirst, havailable]
    exact if_pos hne
  · intro hne hall
    have hnone : (urls.filter fun url => !isTripped settings w.noted w.clock url) = [] := by
      rw [List.filter_eq_nil_iff]
      intro url hurl
      rw [hall url hurl]
      exact Bool.false_ne_true
    obtain ⟨first, hfirst, htake, hleast⟩ :=
      take_one_mergeSort (fun url => (w.endpointFailures.cooldownUntil url).getD 0) hne
    refine ⟨first, hfirst, ?_, ?_⟩
    · rw [healthyFirst, havailable, hnone]
      exact htake
    · -- every cooldown is equally long, so the ends stand in the order of the failures
      intro other hother last hlast last' hlast'
      obtain ⟨own, hown, hend⟩ := hi.cooldown_eq (hall first hfirst)
      obtain ⟨own', hown', hend'⟩ := hi.cooldown_eq (hall other hother)
      obtain rfl := Option.some.inj (hown.symm.trans hlast)
      obtain rfl := Option.some.inj (hown'.symm.trans hlast')
      have hle := hleast other hother
      rw [hend, hend'] at hle
      omega

/-! ## Sessions in turn -/

/-- The sessions of a call: `count` endpoints have failed, and after them one may have come through. -/
inductive SessionCall.InTurn : SessionCall → Prop where
  | failing {endpoints : List String} (count : Nat) (hcount : count ≤ endpoints.length) :
      InTurn ⟨endpoints, (endpoints.take count).map (·, false)⟩
  | through {endpoints : List String} {url : String} (count : Nat)
      (hurl : endpoints[count]? = some url) :
      InTurn ⟨endpoints, (endpoints.take count).map (·, false) ++ [(url, true)]⟩

theorem not_returned (endpoints : List String) (count : Nat) :
    SessionCall.returned ⟨endpoints, (endpoints.take count).map (·, false)⟩ = false := by
  rw [SessionCall.returned, List.any_eq_false]
  intro entry hentry
  obtain ⟨url, -, rfl⟩ := List.mem_map.mp hentry
  exact Bool.false_ne_true

theorem SessionCall.InTurn.finish {call : SessionCall} (h : call.InTurn)
    (hcurrent : call.current = some url) (success : Bool) :
    SessionCall.InTurn { call with tried := call.tried ++ [(url, success)] } := by
  cases h with
  | @failing endpoints count hcount =>
      have hlength : ((endpoints.take count).map fun url => (url, false)).length = count := by
        rw [List.length_map, List.length_take]
        omega
      have hurl : endpoints[count]? = some url := by
        rw [SessionCall.current, not_returned, if_neg Bool.false_ne_true] at hcurrent
        simp only at hcurrent
        rwa [hlength] at hcurrent
      cases success with
      | true => exact .through count hurl
      | false =>
          have hlt : count < endpoints.length := (List.getElem?_eq_some_iff.mp hurl).1
          have htake : (endpoints.take count).map (·, false) ++ [(url, false)] =
              (endpoints.take (count + 1)).map (·, false) := by
            rw [List.take_add_one, hurl, List.map_append]
            rfl
          show SessionCall.InTurn ⟨endpoints, (endpoints.take count).map (·, false) ++ [(url, false)]⟩
          rw [htake]
          exact .failing (count + 1) hlt
  | through count hurl =>
      rw [SessionCall.current, SessionCall.returned] at hcurrent
      simp at hcurrent

/-- Every call has its sessions in turn. -/
def CallsInTurn (w : CircuitWorld) : Prop := ∀ id call, w.calls id = some call → call.InTurn

theorem CallsInTurn.step (hi : CallsInTurn w) (h : CallChange settings w m w') : CallsInTurn w' := by
  have hset : ∀ {id : Nat} {call : SessionCall}, call.InTurn → ∀ other call',
      Function.update w.calls id (some call) other = some call' → call'.InTurn := by
    intro id call hcall other call' hother
    by_cases hid : other = id
    · subst hid
      rw [Function.update_self] at hother
      exact Option.some.inj hother ▸ hcall
    · rw [Function.update_of_ne hid] at hother
      exact hi other call' hother
  cases h with
  | ticked hnow => exact hi
  | started hnew => exact hset (.failing 0 (Nat.zero_le _))
  | finished hcall hcurrent => exact hset ((hi _ _ hcall).finish hcurrent _)

theorem callsInTurn_run {clock : Int} {moves : List CircuitMove}
    (h : Run (CircuitStep settings) (freshProcess clock) moves w) : CallsInTurn w := by
  refine Run.inv CallsInTurn ?_ ?_ h
  · intro id call hcall
    cases hcall
  · intro w m w' hi hs
    exact hi.step (callChange_of_step hs)

/-- A call that has thrown has failed with every endpoint. -/
theorem SessionCall.InTurn.thrown {call : SessionCall} (h : call.InTurn)
    (hthrown : call.thrown = true) : call.tried = call.endpoints.map (·, false) := by
  rw [SessionCall.thrown, Bool.and_eq_true, decide_eq_true_eq, Bool.not_eq_true'] at hthrown
  cases h with
  | @failing endpoints count hcount =>
      have hall : endpoints.length ≤ count := by
        have hle := hthrown.2
        simp only [List.length_map, List.length_take] at hle
        omega
      show (endpoints.take count).map (·, false) = endpoints.map (·, false)
      rw [List.take_of_length_le hall]
  | through count hurl =>
      have hreturned := hthrown.1
      simp [SessionCall.returned] at hreturned

/-! ## Calls follow the breaker -/

/-- **Calls follow the breaker**, whatever the order in which sessions end: a call opens its sessions
with the endpoints whose breaker is closed, and each call tries them one after the other until one
comes through; where it throws, every one has failed. -/
theorem calls_follow_breaker (settings : CircuitSettings) {clock : Int} (hclock : 0 ≤ clock)
    {moves : List CircuitMove} {w : CircuitWorld}
    (h : Run (CircuitStep settings) (freshProcess clock) moves w) :
    (∀ id urls w', CircuitStep settings w (.start id urls) w' →
      ∃ endpoints, w'.calls id = some ⟨endpoints, []⟩ ∧ OpensAlong settings w urls endpoints) ∧
    ∀ id call, w.calls id = some call → call.InTurn ∧
      (call.thrown = true → call.tried = call.endpoints.map (·, false)) := by
  constructor
  · intro id urls w' hstep
    cases callChange_of_step hstep with
    | started hnew =>
        refine ⟨_, ?_, (breakerInv_run hclock h).opensAlong urls⟩
        show Function.update w.calls id _ id = _
        exact Function.update_self ..
  · intro id call hcall
    have hturn := callsInTurn_run h id call hcall
    exact ⟨hturn, hturn.thrown⟩

/-- Two calls run into the same endpoint, the second before the first has ended. -/
theorem overlapping_calls_follow_breaker :
    ∃ w, Run (CircuitStep ⟨none, none⟩) (freshProcess 5)
        [.start 0 ["http://a", "http://b"], .start 1 ["http://a", "http://b"], .finish 0 false,
          .finish 1 false, .finish 0 true] w ∧
      isTripped ⟨none, none⟩ w.noted w.clock "http://a" = true ∧
      (∀ id urls w', CircuitStep ⟨none, none⟩ w (.start id urls) w' →
        ∃ endpoints, w'.calls id = some ⟨endpoints, []⟩ ∧
          OpensAlong ⟨none, none⟩ w urls endpoints) ∧
      ∀ id call, w.calls id = some call → call.InTurn ∧
        (call.thrown = true → call.tried = call.endpoints.map (·, false)) := by
  have hrun : Run (CircuitStep ⟨none, none⟩) (freshProcess 5)
      [.start 0 ["http://a", "http://b"], .start 1 ["http://a", "http://b"], .finish 0 false,
        .finish 1 false, .finish 0 true] _ := Run.of_foldlM _ rfl
  exact ⟨_, hrun, by decide, calls_follow_breaker ⟨none, none⟩ (by decide) hrun⟩

end CellFlow
