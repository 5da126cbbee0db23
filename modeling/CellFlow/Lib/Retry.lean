/-
# CellFlow.Lib.Retry — clients that read, decide and write under a version, and begin again when overtaken.

A client reads the store in two queries, works from what it read in one or more transactions, reads again
where it has raised the version itself, and where a transaction finds the version raised it begins again,
a bounded number of times.  Any number of clients run at once, and the answer to a transaction may be
lost.  Two results say what an answer means: a client of one transaction has written exactly once where it
answers and not at all where it fails (`recorded_run`), and one that gives up was overtaken by a write of
another within each of its passes (`overtaken_each_pass`).
-/
import CellFlow.Lib.Optimistic
import CellFlow.Lib.Runs
import Mathlib.Data.List.Chain

namespace Retry

open Optimistic (World)
open Runs (Run)

variable {σ P A E : Type}

/-! ## Clients -/

/-- How one transaction of a pass ends. -/
inductive Outcome (σ P A E : Type) where
  /-- goes on at another place, from what was read -/
  | goOn (written : Option σ) (place : P)
  /-- writes, and reads again before it goes on at another place -/
  | reread (written : σ) (place : P)
  | answer (written : Option σ) (value : A)
  | fail (error : E)

/-- What a transaction writes. -/
def Outcome.written : Outcome σ P A E → Option σ
  | .goOn written _ => written
  | .reread written _ => some written
  | .answer written _ => written
  | .fail _ => none

/-- A client: where a pass begins, and what the transaction at a place does in a pass that read `rows`
and then `later`, on the store it finds. -/
structure Client (σ P A E : Type) where
  first : P
  act : (pass : Nat) → (rows later : σ) → P → σ → Outcome σ P A E

/-- Where a client is in its call. -/
inductive Phase (σ P A E : Type) where
  | reading (place : P)
  | halfRead (place : P) (rows : σ)
  | working (rows later : σ) (place : P)
  | answered (value : A)
  | failed (error : E)
  /-- its last transaction came through, and it was never told -/
  | lost

/-- A client that has begun, after so many writes, and has ended so many overtaken passes, each after so
many writes. -/
structure Session (σ P A E : Type) where
  since : Nat
  ends : List Nat
  phase : Phase σ P A E

/-- The number of writes when its present pass began. -/
def Session.start (session : Session σ P A E) : Nat := session.ends.getLast?.getD session.since

/-- A write on record. -/
structure Write (σ : Type) where
  client : Nat
  before : σ
  after : σ

/-- The store, every write so far in order, and the clients that have begun. -/
structure State (σ P A E : Type) where
  store : σ
  writes : List (Write σ)
  sessions : Nat → Option (Session σ P A E)

/-- What a client does next: it begins, reads in two queries, acts, or is cut off from its answer. -/
inductive Event where
  | begin (client : Nat)
  | readRows (client : Nat)
  | readRest (client : Nat)
  | act (client : Nat)
  | lose (client : Nat)
  deriving DecidableEq, Repr

/-- Nobody has begun. -/
def start (store : σ) : State σ P A E := ⟨store, [], fun _ => none⟩

namespace State

variable (s : State σ P A E)

/-- The states a client may have read. -/
def world : World σ := ⟨s.store, (s.writes.map (·.before)).reverse⟩

/-- The client has come to a new place. -/
def enter (client : Nat) (session : Session σ P A E) : State σ P A E :=
  { s with sessions := Function.update s.sessions client (some session) }

/-- A transaction of a client comes through. -/
def write (client : Nat) : Option σ → State σ P A E
  | none => s
  | some t => { s with store := t, writes := s.writes ++ [⟨client, s.store, t⟩] }

end State

/-- Where a client is after a transaction that leaves so many writes; an overtaken one has ended a pass,
and begins again while it has passes left. -/
def Outcome.session (passes : Nat) (overtaken : E → Bool) (first : P) (writes since : Nat)
    (ends : List Nat) (rows later : σ) : Outcome σ P A E → Session σ P A E
  | .goOn _ place => ⟨since, ends, .working rows later place⟩
  | .reread _ place => ⟨since, ends, .reading place⟩
  | .answer _ value => ⟨since, ends, .answered value⟩
  | .fail error =>
      if overtaken error = true then
        if ends.length + 1 < passes then ⟨since, ends ++ [writes], .reading first⟩
        else ⟨since, ends ++ [writes], .failed error⟩
      else ⟨since, ends, .failed error⟩

section Step

variable (passes : Nat) (overtaken : E → Bool) (clients : Nat → Client σ P A E)

/-- One client makes one move; a transaction finds the store as it is. -/
inductive Step : State σ P A E → Event → State σ P A E → Prop
  | begun {s : State σ P A E} (client : Nat) (hnew : s.sessions client = none) :
      Step s (.begin client)
        (s.enter client ⟨s.writes.length, [], .reading (clients client).first⟩)
  | rows {s : State σ P A E} {client since : Nat} {ends : List Nat} {place : P}
      (hphase : s.sessions client = some ⟨since, ends, .reading place⟩) :
      Step s (.readRows client) (s.enter client ⟨since, ends, .halfRead place s.store⟩)
  | rest {s : State σ P A E} {client since : Nat} {ends : List Nat} {place : P} {rows : σ}
      (hphase : s.sessions client = some ⟨since, ends, .halfRead place rows⟩) :
      Step s (.readRest client) (s.enter client ⟨since, ends, .working rows s.store place⟩)
  | acted {s : State σ P A E} {client since : Nat} {ends : List Nat} {rows later : σ} {place : P}
      {outcome : Outcome σ P A E}
      (hphase : s.sessions client = some ⟨since, ends, .working rows later place⟩)
      (hact : (clients client).act ends.length rows later place s.store = outcome) :
      Step s (.act client) ((s.write client outcome.written).enter client
        (outcome.session passes overtaken (clients client).first s.writes.length since ends rows later))
  | lost {s : State σ P A E} {client since : Nat} {ends : List Nat} {rows later t : σ} {place : P}
      {outcome : Outcome σ P A E}
      (hphase : s.sessions client = some ⟨since, ends, .working rows later place⟩)
      (hact : (clients client).act ends.length rows later place s.store = outcome)
      (hwritten : outcome.written = some t) :
      Step s (.lose client) ((s.write client (some t)).enter client ⟨since, ends, .lost⟩)

end Step

/-! ## One pass alone -/

/-- A pass of a client that nothing interrupts: the store it leaves, with its answer. -/
inductive Pass (client : Client σ P A E) (pass : Nat) : σ → σ → P → σ → σ × Except E A → Prop
  | answer {rows later s : σ} {place : P} {written : Option σ} {value : A}
      (hact : client.act pass rows later place s = .answer written value) :
      Pass client pass rows later place s (written.getD s, .ok value)
  | fail {rows later s : σ} {place : P} {error : E}
      (hact : client.act pass rows later place s = .fail error) :
      Pass client pass rows later place s (s, .error error)
  | goOn {rows later s : σ} {place place' : P} {written : Option σ} {result : σ × Except E A}
      (hact : client.act pass rows later place s = .goOn written place')
      (hrest : Pass client pass rows later place' (written.getD s) result) :
      Pass client pass rows later place s result
  | reread {rows later s t : σ} {place place' : P} {result : σ × Except E A}
      (hact : client.act pass rows later place s = .reread t place')
      (hrest : Pass client pass t t place' t result) :
      Pass client pass rows later place s result

/-! ## The discipline -/

/-- What clients keep to: a write either raises the version, from rows of the version it finds, or leaves
the version and, for what `same` compares, the store. -/
structure Discipline (version : σ → Nat) (same : σ → σ → Prop) : Prop where
  refl : ∀ s, same s s
  trans : ∀ {r s t}, same r s → same s t → same r t
  version : ∀ {s t}, same s t → version s = version t

/-- A raise from the version that was read. -/
def Raises (version : σ → Nat) (rows s t : σ) : Prop :=
  version rows = version s ∧ version t = version s + 1

/-- A client keeps to the discipline, and is overtaken only where the version has moved on since it read.
-/
structure Client.Keeps (version : σ → Nat) (same : σ → σ → Prop) (overtaken : E → Bool)
    (client : Client σ P A E) : Prop where
  goOn : ∀ {pass rows later place s t place'},
    client.act pass rows later place s = .goOn (some t) place' → same s t
  reread : ∀ {pass rows later place s t place'},
    client.act pass rows later place s = .reread t place' → Raises version rows s t
  answer : ∀ {pass rows later place s t value},
    client.act pass rows later place s = .answer (some t) value →
      same s t ∨ Raises version rows s t
  fail : ∀ {pass rows later place s error},
    client.act pass rows later place s = .fail error → overtaken error = true →
      version rows ≠ version s

variable {version : σ → Nat} {same : σ → σ → Prop} {overtaken : E → Bool} {passes : Nat}
  {clients : Nat → Client σ P A E} {s s₀ : State σ P A E} {events : List Event}

/-- Every write keeps the version or raises it by one. -/
theorem Client.Keeps.written {client : Client σ P A E}
    (h : client.Keeps version same overtaken) {pass : Nat} {rows later t u : σ} {place : P}
    {outcome : Outcome σ P A E} (hact : client.act pass rows later place u = outcome)
    (hw : outcome.written = some t) : same u t ∨ Raises version rows u t := by
  cases outcome with
  | goOn written place' =>
      obtain rfl : written = some t := hw
      exact Or.inl (h.goOn hact)
  | reread written place' =>
      obtain rfl : written = t := Option.some.inj hw
      exact Or.inr (h.reread hact)
  | answer written value =>
      obtain rfl : written = some t := hw
      exact h.answer hact
  | fail error => cases hw

/-! ## What a session knows -/

/-- A view of two queries is not ahead of the store, and is all it compares where its version is that of
the store. -/
structure UpToDate (version : σ → Nat) (same : σ → σ → Prop) (rows later s : σ) : Prop where
  le : version rows ≤ version s
  same : version rows = version s → same rows later ∧ same later s

variable {rows later t u : σ}

theorem UpToDate.read (hd : Discipline version same) (h : version rows ≤ version u)
    (hsame : version rows = version u → same rows u) : UpToDate version same rows u u :=
  ⟨h, fun heq => ⟨hsame heq, hd.refl u⟩⟩

/-- **A write of another client** leaves a view up to date, or behind. -/
theorem UpToDate.step (hd : Discipline version same) (h : UpToDate version same rows later u)
    (hw : same u t ∨ version t = version u + 1) : UpToDate version same rows later t := by
  rcases hw with hsame | hraised
  · have hversion := hd.version hsame
    refine ⟨hversion ▸ h.le, fun heq => ?_⟩
    obtain ⟨hrows, hlater⟩ := h.same (heq.trans hversion.symm)
    exact ⟨hrows, hd.trans hlater hsame⟩
  · have hle := h.le
    refine ⟨by omega, fun heq => ?_⟩
    omega

/-- From a number of writes to another, one of another client raised the version. -/
def OvertakenIn (version : σ → Nat) (client : Nat) (writes : List (Write σ)) (m n : Nat) : Prop :=
  ∃ k w, m ≤ k ∧ k < n ∧ writes[k]? = some w ∧ w.client ≠ client ∧
    version w.before < version w.after

theorem OvertakenIn.append {client m n : Nat} {writes : List (Write σ)}
    (h : OvertakenIn version client writes m n) (more : List (Write σ)) :
    OvertakenIn version client (writes ++ more) m n := by
  obtain ⟨k, w, hm, hn, hw, hraised⟩ := h
  refine ⟨k, w, hm, hn, ?_, hraised⟩
  rw [List.getElem?_append_left (List.getElem?_eq_some_iff.mp hw).1]
  exact hw

theorem OvertakenIn.mono {client m n n' : Nat} {writes : List (Write σ)}
    (h : OvertakenIn version client writes m n) (hle : n ≤ n') :
    OvertakenIn version client writes m n' := by
  obtain ⟨k, w, hm, hn, hrest⟩ := h
  exact ⟨k, w, hm, by omega, hrest⟩

/-- A write of another client that raises the version overtakes whoever has begun a pass. -/
theorem overtakenIn_last {client start : Nat} {writes : List (Write σ)} {w : Write σ}
    (hstart : start ≤ writes.length) (hother : w.client ≠ client)
    (hraised : version w.before < version w.after) :
    OvertakenIn version client (writes ++ [w]) start (writes ++ [w]).length :=
  ⟨writes.length, w, hstart, by simp, List.getElem?_concat_length, hother, hraised⟩

/-- **The account of a phase**: what is read is up to date, or the pass has been overtaken. -/
def Phase.Accounted (version : σ → Nat) (same : σ → σ → Prop) (store : σ) (behind : Prop) :
    Phase σ P A E → Prop
  | .halfRead _ rows =>
      version rows ≤ version store ∧ (version rows = version store → same rows store) ∧
        (version rows < version store → behind)
  | .working rows later _ =>
      UpToDate version same rows later store ∧ (version rows < version store → behind)
  | _ => True

/-- A write of another client keeps the account. -/
theorem Phase.Accounted.other (hd : Discipline version same) {phase : Phase σ P A E}
    {behind behind' : Prop} (h : phase.Accounted version same u behind)
    (hw : same u t ∨ version t = version u + 1) (himp : behind → behind')
    (hraised : version u < version t → behind') :
    phase.Accounted version same t behind' := by
  have hle : version u ≤ version t := by
    rcases hw with hsame | hraised
    · exact Nat.le_of_eq (hd.version hsame)
    · omega
  have hbehind : ∀ rows : σ, (version rows < version u → behind) → version rows < version t →
      behind' := by
    intro rows hrows hlt
    by_cases hnow : version u < version t
    · exact hraised hnow
    · exact himp (hrows (by omega))
  cases phase with
  | halfRead place rows =>
      obtain ⟨hrows, hsame, hcount⟩ := h
      refine ⟨Nat.le_trans hrows hle, fun heq => ?_, hbehind rows hcount⟩
      rcases hw with hkept | hraised
      · exact hd.trans (hsame (heq.trans (hd.version hkept).symm)) hkept
      · omega
  | working rows later place => exact ⟨h.1.step hd hw, hbehind rows h.2⟩
  | _ => trivial

/-- **The account of a session**: each pass that is over was overtaken, and so was the present one where
the version has gone on from what it read. -/
structure Session.Accounted (version : σ → Nat) (same : σ → σ → Prop) (overtaken : E → Bool)
    (passes : Nat) (s : State σ P A E) (client : Nat) (session : Session σ P A E) : Prop where
  began : session.since ≤ s.writes.length ∧ session.start ≤ s.writes.length
  each : (session.since :: session.ends).IsChain (OvertakenIn version client s.writes)
  phase : session.phase.Accounted version same s.store
    (OvertakenIn version client s.writes session.start s.writes.length)
  gaveUp : ∀ error, session.phase = .failed error → overtaken error = true →
    passes ≤ session.ends.length

/-! ## Runs -/

/-- Every session is accounted for. -/
def SessionsInv (version : σ → Nat) (same : σ → σ → Prop) (overtaken : E → Bool) (passes : Nat)
    (s : State σ P A E) : Prop :=
  ∀ client session, s.sessions client = some session →
    session.Accounted version same overtaken passes s client

theorem sessionsInv_start (store : σ) :
    SessionsInv (P := P) (A := A) version same overtaken passes (start store) := by
  intro client session h
  cases h

theorem State.sessions_enter {client other : Nat} {session : Session σ P A E} :
    (s.enter client session).sessions other =
      if other = client then some session else s.sessions other := by
  simp only [enter, Function.update_apply]

@[simp] theorem State.sessions_write {client : Nat} {written : Option σ} :
    (s.write client written).sessions = s.sessions := by
  cases written <;> rfl

/-- Entering a session that is accounted for. -/
theorem SessionsInv.enter (hi : SessionsInv version same overtaken passes s) {client : Nat}
    {session : Session σ P A E} (h : session.Accounted version same overtaken passes s client) :
    SessionsInv version same overtaken passes (s.enter client session) := by
  intro other session' hother
  rw [State.sessions_enter] at hother
  split at hother
  next heq =>
    cases hother
    subst heq
    exact ⟨h.began, h.each, h.phase, h.gaveUp⟩
  · obtain ⟨hbegan, heach, hphase, hgaveUp⟩ := hi other session' hother
    exact ⟨hbegan, heach, hphase, hgaveUp⟩

/-- What a session is accounted for by outlasts a write. -/
theorem Session.Accounted.kept {client other : Nat} {session session' : Session σ P A E}
    (h : session.Accounted version same overtaken passes s client)
    (hsince : session'.since = session.since) (hends : session'.ends = session.ends)
    (hphase : session'.phase.Accounted version same t
      (OvertakenIn version client (s.write other (some t)).writes session.start
        (s.write other (some t)).writes.length))
    (hgaveUp : ∀ error, session'.phase = .failed error → overtaken error = true →
      passes ≤ session'.ends.length) :
    session'.Accounted version same overtaken passes (s.write other (some t)) client := by
  have hstart : session'.start = session.start := by
    rw [Session.start, Session.start, hends, hsince]
  have hlength : s.writes.length ≤ (s.write other (some t)).writes.length := by
    simp [State.write]
  refine ⟨?_, ?_, ?_, hgaveUp⟩
  · rw [hstart, hsince]
    exact ⟨Nat.le_trans h.began.1 hlength, Nat.le_trans h.began.2 hlength⟩
  · rw [hsince, hends]
    exact h.each.imp fun _ _ hin => hin.append _
  · rw [hstart]
    exact hphase

/-- A write, and the session it leaves its client in. -/
theorem SessionsInv.written (hd : Discipline version same)
    (hi : SessionsInv version same overtaken passes s) {client : Nat} {session : Session σ P A E}
    (hw : same s.store t ∨ version t = version s.store + 1)
    (h : session.Accounted version same overtaken passes (s.write client (some t)) client) :
    SessionsInv version same overtaken passes ((s.write client (some t)).enter client session) := by
  intro other session' hother
  rw [State.sessions_enter, State.sessions_write] at hother
  split at hother
  next heq =>
    cases hother
    subst heq
    exact ⟨h.began, h.each, h.phase, h.gaveUp⟩
  next hne =>
    have hbefore := hi other session' hother
    have hphase : session'.phase.Accounted version same t
        (OvertakenIn version other (s.write client (some t)).writes session'.start
          (s.write client (some t)).writes.length) := by
      refine hbefore.phase.other hd hw (fun hin => (hin.append _).mono (by simp [State.write])) ?_
      intro hraised
      exact overtakenIn_last hbefore.began.2 (Ne.symm hne) hraised
    have hkept : session'.Accounted version same overtaken passes (s.write client (some t)) other :=
      hbefore.kept rfl rfl hphase hbefore.gaveUp
    obtain ⟨hbegan, heach, hafter, hgaveUp⟩ := hkept
    exact ⟨hbegan, heach, hafter, hgaveUp⟩

/-- An overtaken pass ends, and the account begins anew. -/
theorem Session.Accounted.ended {client : Nat} {session : Session σ P A E}
    (h : session.Accounted version same overtaken passes s client)
    (hbehind : OvertakenIn version client s.writes session.start s.writes.length)
    {phase : Phase σ P A E} (hphase : ∀ behind, phase.Accounted version same s.store behind)
    (hgaveUp : ∀ error, phase = .failed error → passes ≤ session.ends.length + 1) :
    Session.Accounted version same overtaken passes s client
      ⟨session.since, session.ends ++ [s.writes.length], phase⟩ := by
  refine ⟨⟨h.began.1, ?_⟩, ?_, hphase _, ?_⟩
  · rw [Session.start, List.getLast?_concat, Option.getD_some]
  · rw [← List.cons_append, List.isChain_append]
    refine ⟨h.each, .singleton _, ?_⟩
    intro x hx y hy
    rw [List.getLast?_cons, Option.mem_some_iff] at hx
    rw [List.head?_singleton, Option.mem_some_iff] at hy
    subst hx hy
    exact hbehind
  · intro error herror _
    rw [List.length_append]
    exact hgaveUp error herror

/-- A transaction that fails ends the pass if it was overtaken, and else the call. -/
theorem Session.Accounted.failed {client since : Nat} {ends : List Nat} {rows later : σ}
    {place first : P} {error : E}
    (h : Session.Accounted version same overtaken passes s client
      (⟨since, ends, .working rows later place⟩ : Session σ P A E))
    (hfail : overtaken error = true → version rows ≠ version s.store) :
    Session.Accounted version same overtaken passes s client
      ((Outcome.fail error : Outcome σ P A E).session passes overtaken first s.writes.length since ends
        rows later) := by
  simp only [Outcome.session]
  split
  next hovertaken =>
    -- the rows were up to date or behind, and the discipline rules out the first
    have hne := hfail hovertaken
    obtain ⟨hview, hbehind⟩ := h.phase
    have hle := hview.le
    have hover := hbehind (by omega)
    split
    · exact h.ended hover (fun _ => trivial) (by rintro error ⟨⟩)
    next hlast => exact h.ended hover (fun _ => trivial) fun _ _ => Nat.le_of_not_lt hlast
  next hnot =>
    refine ⟨h.began, h.each, trivial, ?_⟩
    rintro error' ⟨⟩ hovertaken
    exact absurd hovertaken hnot

theorem sessionsInv_step (hd : Discipline version same)
    (hclients : ∀ client, (clients client).Keeps version same overtaken) {event : Event}
    {s' : State σ P A E} (hs : Step passes overtaken clients s event s')
    (hi : SessionsInv version same overtaken passes s) :
    SessionsInv version same overtaken passes s' := by
  cases hs with
  | begun client hnew =>
      exact hi.enter ⟨⟨Nat.le_refl _, Nat.le_refl _⟩, .singleton _, trivial, by rintro error ⟨⟩⟩
  | @rows client since ends place hphase =>
      obtain ⟨hbegan, heach, -, -⟩ := hi client _ hphase
      refine hi.enter ⟨hbegan, heach, ⟨Nat.le_refl _, fun _ => hd.refl _, ?_⟩, by rintro error ⟨⟩⟩
      exact fun hlt => absurd hlt (Nat.lt_irrefl _)
  | @rest client since ends place rows hphase =>
      obtain ⟨hbegan, heach, ⟨hle, hsame, hbehind⟩, -⟩ := hi client _ hphase
      exact hi.enter ⟨hbegan, heach, ⟨.read hd hle hsame, hbehind⟩, by rintro error ⟨⟩⟩
  | @acted client since ends rows later place outcome hphase hact =>
      have hbefore := hi client _ hphase
      obtain ⟨hview, hbehind⟩ : UpToDate version same rows later s.store ∧
          (version rows < version s.store → OvertakenIn version client s.writes
            (Session.start ⟨since, ends, Phase.working (A := A) (E := E) rows later place⟩)
            s.writes.length) := hbefore.phase
      have hkeeps := hclients client
      cases outcome with
      | goOn written place' =>
          cases written with
          | none =>
              exact hi.enter ⟨hbefore.began, hbefore.each, ⟨hview, hbehind⟩, by rintro error ⟨⟩⟩
          | some t =>
              have hsame := hkeeps.goOn hact
              -- its own write leaves the version, so the view is as good as before
              refine hi.written hd (Or.inl hsame)
                (hbefore.kept rfl rfl ⟨hview.step hd (Or.inl hsame), fun hlt => ?_⟩
                  (by rintro error ⟨⟩))
              rw [← hd.version hsame] at hlt
              exact ((hbehind hlt).append _).mono (by simp [State.write])
      | reread t place' =>
          -- nothing of the old view is kept, so nothing has to be said of it
          obtain ⟨-, hraised⟩ := hkeeps.reread hact
          exact hi.written hd (Or.inr hraised)
            (hbefore.kept rfl rfl trivial (by rintro error ⟨⟩))
      | answer written value =>
          cases written with
          | none => exact hi.enter ⟨hbefore.began, hbefore.each, trivial, by rintro error ⟨⟩⟩
          | some t =>
              exact hi.written hd ((hkeeps.answer hact).imp_right And.right)
                (hbefore.kept rfl rfl trivial (by rintro error ⟨⟩))
      | fail error => exact hi.enter (hbefore.failed (hkeeps.fail hact))
  | @lost client since ends rows later t place outcome hphase hact hwritten =>
      exact hi.written hd (((hclients client).written hact hwritten).imp_right And.right)
        ((hi client _ hphase).kept rfl rfl trivial (by rintro error ⟨⟩))

/-- **Giving up**: a client that fails as overtaken has been overtaken within each of its passes, by a
write of another client. -/
theorem overtaken_each_pass (hd : Discipline version same)
    (hclients : ∀ client, (clients client).Keeps version same overtaken) {store : σ}
    (h : Run (Step passes overtaken clients) (start store) events s) {client : Nat}
    {session : Session σ P A E} {error : E} (hsession : s.sessions client = some session)
    (hphase : session.phase = .failed error) (he : overtaken error = true) :
    passes ≤ session.ends.length ∧
      (session.since :: session.ends).IsChain (OvertakenIn version client s.writes) := by
  have hi := h.inv (SessionsInv version same overtaken passes) (sessionsInv_start store)
    fun _ _ _ hi hs => sessionsInv_step hd hclients hs hi
  have haccounted := hi client session hsession
  exact ⟨haccounted.gaveUp error hphase he, haccounted.each⟩

/-! ## Clients of one transaction -/

/-- Every pass is one transaction, which writes where it answers. -/
def Client.OneWrite (client : Client σ P A E) : Prop :=
  ∀ pass rows later place s, (∃ t value, client.act pass rows later place s = .answer (some t) value) ∨
    ∃ error, client.act pass rows later place s = .fail error

/-- One write of a client is on record, made after it began, by a transaction on rows that were up to
date or had been overtaken. -/
def WroteOnce (version : σ → Nat) (same : σ → σ → Prop) (process : Client σ P A E)
    (client since : Nat) (value : A) (writes : List (Write σ)) : Prop :=
  ∃ before u t after pass rows later place, writes = before ++ ⟨client, u, t⟩ :: after ∧
    since ≤ before.length ∧ (∀ w ∈ before ++ after, w.client ≠ client) ∧
    process.act pass rows later place u = .answer (some t) value ∧
    UpToDate version same rows later u

/-- What is on record of a client, by its phase. -/
def Recorded (version : σ → Nat) (same : σ → σ → Prop) (process : Client σ P A E) (client : Nat)
    (writes : List (Write σ)) : Option (Session σ P A E) → Prop
  | some ⟨since, _, .answered value⟩ => WroteOnce version same process client since value writes
  | some ⟨since, _, .lost⟩ => ∃ value, WroteOnce version same process client since value writes
  | _ => ∀ w ∈ writes, w.client ≠ client

theorem WroteOnce.other {process : Client σ P A E} {client since other : Nat} {value : A}
    {writes : List (Write σ)} (h : WroteOnce version same process client since value writes)
    (hother : other ≠ client) :
    WroteOnce version same process client since value (writes ++ [⟨other, u, t⟩]) := by
  obtain ⟨before, v, v', after, pass, rows, later, place, rfl, hsince, honly, hact, hview⟩ := h
  refine ⟨before, v, v', after ++ [⟨other, u, t⟩], pass, rows, later, place, ?_, hsince, ?_, hact,
    hview⟩
  · rw [List.append_assoc, List.cons_append]
  · intro w hw
    rw [← List.append_assoc, List.mem_append, List.mem_singleton] at hw
    rcases hw with hw | rfl
    · exact honly w hw
    · exact hother

/-- A write of another client. -/
theorem Recorded.other {process : Client σ P A E} {client other : Nat} {writes : List (Write σ)}
    {session : Option (Session σ P A E)}
    (h : Recorded version same process client writes session) (hother : other ≠ client) :
    Recorded version same process client (writes ++ [⟨other, u, t⟩]) session := by
  have hnone : (∀ w ∈ writes, w.client ≠ client) →
      ∀ w ∈ writes ++ [⟨other, u, t⟩], w.client ≠ client := by
    intro hnone w hw
    rw [List.mem_append, List.mem_singleton] at hw
    rcases hw with hw | rfl
    · exact hnone w hw
    · exact hother
  cases session with
  | none => exact hnone h
  | some session =>
      obtain ⟨since, ends, phase⟩ := session
      cases phase with
      | answered value => exact WroteOnce.other h hother
      | lost =>
          obtain ⟨value, hvalue⟩ := h
          exact ⟨value, hvalue.other hother⟩
      | reading place => exact hnone h
      | halfRead place rows => exact hnone h
      | working rows later place => exact hnone h
      | failed error => exact hnone h

/-- The write of the client itself. -/
theorem wroteOnce_now {process : Client σ P A E} {client since pass : Nat} {place : P} {value : A}
    {writes : List (Write σ)} (hnone : ∀ w ∈ writes, w.client ≠ client) (hsince : since ≤ writes.length)
    (hact : process.act pass rows later place u = .answer (some t) value)
    (hview : UpToDate version same rows later u) :
    WroteOnce version same process client since value (writes ++ [⟨client, u, t⟩]) :=
  ⟨writes, u, t, [], pass, rows, later, place, rfl, hsince, by simpa using hnone, hact, hview⟩

/-- Entering a phase that leaves the client where it is on record. -/
theorem Recorded.enter {process client : Nat} {session : Session σ P A E}
    (hr : Recorded version same (clients process) process s.writes (s.sessions process))
    (hown : client = process →
      Recorded version same (clients process) process s.writes (some session)) :
    Recorded version same (clients process) process (s.enter client session).writes
      ((s.enter client session).sessions process) := by
  rw [State.sessions_enter]
  split
  next heq => exact hown heq.symm
  · exact hr

theorem recorded_step {process : Nat} (hone : (clients process).OneWrite) {event : Event}
    {s' : State σ P A E} (hs : Step passes overtaken clients s event s')
    (hi : SessionsInv version same overtaken passes s)
    (hr : Recorded version same (clients process) process s.writes (s.sessions process)) :
    Recorded version same (clients process) process s'.writes (s'.sessions process) := by
  cases hs with
  | begun client hnew =>
      refine Recorded.enter hr fun heq => ?_
      subst heq
      rw [hnew] at hr
      exact hr
  | @rows client since ends place hphase =>
      refine Recorded.enter hr fun heq => ?_
      subst heq
      rw [hphase] at hr
      exact hr
  | @rest client since ends place rows hphase =>
      refine Recorded.enter hr fun heq => ?_
      subst heq
      rw [hphase] at hr
      exact hr
  | @acted client since ends rows later place outcome hphase hact =>
      rw [State.sessions_enter, State.sessions_write]
      split
      next heq =>
        subst heq
        rw [hphase] at hr
        obtain ⟨hview, -⟩ := (hi process _ hphase).phase
        rcases hone ends.length rows later place s.store with ⟨t, value, hanswer⟩ | ⟨error, hfail⟩
        · obtain rfl := hanswer.symm.trans hact
          exact wroteOnce_now hr (hi process _ hphase).began.1 hanswer hview
        · obtain rfl := hfail.symm.trans hact
          -- it begins again or gives up, and nothing is on record either way
          simp only [Outcome.session]
          split
          · split
            · exact hr
            · exact hr
          · exact hr
      next hother =>
        cases hw : outcome.written with
        | none => exact hr
        | some t => exact Recorded.other hr (Ne.symm hother)
  | @lost client since ends rows later t place outcome hphase hact hwritten =>
      rw [State.sessions_enter, State.sessions_write]
      split
      next heq =>
        subst heq
        rw [hphase] at hr
        obtain ⟨hview, -⟩ := (hi process _ hphase).phase
        rcases hone ends.length rows later place s.store with ⟨t', value, hanswer⟩ | ⟨error, hfail⟩
        · obtain rfl := hanswer.symm.trans hact
          obtain rfl : t' = t := Option.some.inj hwritten
          exact ⟨value, wroteOnce_now hr (hi process _ hphase).began.1 hanswer hview⟩
        · obtain rfl := hfail.symm.trans hact
          cases hwritten
      next hother => exact Recorded.other hr (Ne.symm hother)

/-- **Exactly once**: what a run has on record of a client of one transaction. -/
theorem recorded_run (hd : Discipline version same)
    (hclients : ∀ client, (clients client).Keeps version same overtaken) (process : Nat)
    (hone : (clients process).OneWrite) {store : σ}
    (h : Run (Step passes overtaken clients) (start store) events s) :
    Recorded version same (clients process) process s.writes (s.sessions process) := by
  have hboth := h.inv
    (fun s => SessionsInv version same overtaken passes s ∧
      Recorded version same (clients process) process s.writes (s.sessions process))
    ⟨sessionsInv_start store, fun w hw => by cases hw⟩
    fun _ _ _ hi hs => ⟨sessionsInv_step hd hclients hs hi.1, recorded_step hone hs hi.1 hi.2⟩
  exact hboth.2

/-! ## The machine of their writes -/

/-- The states a session has read are states the store has had. -/
def Phase.Reads (views : List σ) : Phase σ P A E → Prop
  | .halfRead _ rows => rows ∈ views
  | .working rows later _ => rows ∈ views ∧ later ∈ views
  | _ => True

theorem Phase.Reads.mono {phase : Phase σ P A E} {views views' : List σ} (h : phase.Reads views)
    (hle : ∀ v ∈ views, v ∈ views') : phase.Reads views' := by
  cases phase with
  | halfRead place rows => exact hle _ h
  | working rows later place => exact ⟨hle _ h.1, hle _ h.2⟩
  | _ => trivial

theorem State.world_write (client : Nat) (t : σ) :
    (s.write client (some t)).world = s.world.commit t := by
  simp [world, write, World.commit]

/-- The machine reaches the store, and the sessions have read states it had. -/
structure MachineInv {α : Type} (step : World σ → α → World σ → Prop) (store : σ)
    (s : State σ P A E) : Prop where
  reached : ∃ acts, Run step ⟨store, []⟩ acts s.world
  reads : ∀ client session, s.sessions client = some session → session.phase.Reads s.world.views

section Machine

variable {α : Type} {step : World σ → α → World σ → Prop} {store : σ}

theorem MachineInv.enter (hi : MachineInv step store s) {client : Nat} {session : Session σ P A E}
    (hphase : session.phase.Reads s.world.views) : MachineInv step store (s.enter client session) := by
  refine ⟨hi.reached, fun other session hsession => ?_⟩
  rw [State.sessions_enter] at hsession
  split at hsession
  · cases hsession
    exact hphase
  · exact hi.reads other session hsession

theorem MachineInv.write (hi : MachineInv step store s) {a : α}
    (ha : step s.world a (s.world.commit t)) (client : Nat) :
    MachineInv step store (s.write client (some t)) := by
  obtain ⟨acts, hrun⟩ := hi.reached
  constructor
  · rw [State.world_write]
    exact ⟨_, hrun.next ha⟩
  · intro other session hsession
    rw [State.sessions_write] at hsession
    rw [State.world_write]
    exact (hi.reads other session hsession).mono fun v hv => List.mem_cons_of_mem _ hv

theorem machineInv_step
    (hstep : ∀ {client pass : Nat} {rows later t : σ} {place : P} {w : World σ}, rows ∈ w.views →
      later ∈ w.views →
      ((clients client).act pass rows later place w.current).written = some t →
      ∃ a, step w a (w.commit t))
    {event : Event} {s' : State σ P A E} (hs : Step passes overtaken clients s event s')
    (hi : MachineInv step store s) : MachineInv step store s' := by
  have hcurrent : s.store ∈ s.world.views := World.current_mem_views _
  cases hs with
  | begun client hnew => exact hi.enter trivial
  | @rows client since ends place hphase => exact hi.enter hcurrent
  | @rest client since ends place rows hphase =>
      have hrows : rows ∈ s.world.views := hi.reads client _ hphase
      exact hi.enter ⟨hrows, hcurrent⟩
  | @acted client since ends rows later place outcome hphase hact =>
      have hread : rows ∈ s.world.views ∧ later ∈ s.world.views := hi.reads client _ hphase
      cases hw : outcome.written with
      | none =>
          refine hi.enter ?_
          cases outcome with
          | goOn written place' => exact hread
          | reread t place' => cases hw
          | answer written value => trivial
          | fail error =>
              simp only [Outcome.session]
              split
              · split <;> trivial
              · trivial
      | some t =>
          have hwritten : ((clients client).act ends.length rows later place s.store).written =
              some t := by
            rw [hact, hw]
          obtain ⟨a, ha⟩ := hstep (w := s.world) hread.1 hread.2 hwritten
          refine (hi.write ha client).enter ?_
          rw [State.world_write]
          cases outcome with
          | goOn written place' =>
              exact ⟨List.mem_cons_of_mem _ hread.1, List.mem_cons_of_mem _ hread.2⟩
          | reread t' place' => trivial
          | answer written value => trivial
          | fail error => cases hw
  | @lost client since ends rows later t place outcome hphase hact hwritten =>
      have hread : rows ∈ s.world.views ∧ later ∈ s.world.views := hi.reads client _ hphase
      rw [← hact] at hwritten
      obtain ⟨a, ha⟩ := hstep (w := s.world) hread.1 hread.2 hwritten
      exact (hi.write ha client).enter trivial

/-- **Refinement**: where each transaction that writes is a step of a machine on the states read, the
store of every run is one the machine reaches. -/
theorem writes_run
    (hstep : ∀ {client pass : Nat} {rows later t : σ} {place : P} {w : World σ}, rows ∈ w.views →
      later ∈ w.views →
      ((clients client).act pass rows later place w.current).written = some t →
      ∃ a, step w a (w.commit t))
    (h : Run (Step passes overtaken clients) (start store) events s) :
    ∃ acts, Run step ⟨store, []⟩ acts s.world := by
  have hstart : MachineInv (P := P) (A := A) (E := E) step store (start store) :=
    ⟨⟨[], .start⟩, fun client session hnone => by cases hnone⟩
  have hi := h.inv (MachineInv step store) hstart fun _ _ _ hi hs => machineInv_step hstep hs hi
  exact hi.reached

end Machine

/-! ## A pass alone is a run -/

/-- **A pass that nothing interrupts** is a run that ends in its answer. -/
theorem Pass.run {client since : Nat} {ends : List Nat} {rows later u : σ} {place : P}
    {result : σ × Except E A} {value : A}
    (h : Pass (clients client) ends.length rows later place u result)
    (hvalue : result.2 = .ok value) (hstore : s.store = u)
    (hphase : s.sessions client = some ⟨since, ends, .working rows later place⟩) :
    ∃ events s', Run (Step passes overtaken clients) s events s' ∧ s'.store = result.1 ∧
      s'.sessions client = some ⟨since, ends, .answered value⟩ := by
  have hentered : ∀ {s : State σ P A E} {phase : Phase σ P A E},
      (s.enter client ⟨since, ends, phase⟩).sessions client = some ⟨since, ends, phase⟩ := by
    intro s phase
    rw [State.sessions_enter, if_pos rfl]
  induction h generalizing s with
  | @answer rows later u place written value' hact =>
      subst hstore
      obtain rfl := Except.ok.inj hvalue
      refine ⟨_, _, .single (.acted hphase hact), ?_, hentered⟩
      cases written <;> rfl
  | fail hact => cases hvalue
  | @goOn rows later u place place' written result hact hrest ih =>
      subst hstore
      obtain ⟨events, s', hrun, hend⟩ := ih
        (s := (s.write client written).enter client ⟨since, ends, .working rows later place'⟩) hvalue
        (by cases written <;> rfl) hentered
      exact ⟨_, s', (Run.single (.acted hphase hact)).append hrun, hend⟩
  | @reread rows later u t place place' result hact hrest ih =>
      subst hstore
      -- the two queries read what the client has just written
      have hacted : Step passes overtaken clients s (.act client)
          ((s.write client (some t)).enter client ⟨since, ends, .reading place'⟩) :=
        .acted hphase hact
      have hreads := ((Run.single hacted).next (.rows hentered)).next (.rest hentered)
      obtain ⟨events, s', hrun, hend⟩ := ih
        (s := (((s.write client (some t)).enter client ⟨since, ends, .reading place'⟩).enter client
          ⟨since, ends, .halfRead place' t⟩).enter client ⟨since, ends, .working t t place'⟩)
        hvalue rfl hentered
      exact ⟨_, s', hreads.append hrun, hend⟩

/-! ## Runs that are computed -/

/-- The state after an event that can happen. -/
def next (passes : Nat) (overtaken : E → Bool) (clients : Nat → Client σ P A E) (s : State σ P A E) :
    Event → Option (State σ P A E)
  | .begin client =>
      match s.sessions client with
      | none => some (s.enter client ⟨s.writes.length, [], .reading (clients client).first⟩)
      | some _ => none
  | .readRows client =>
      match s.sessions client with
      | some ⟨since, ends, .reading place⟩ =>
          some (s.enter client ⟨since, ends, .halfRead place s.store⟩)
      | _ => none
  | .readRest client =>
      match s.sessions client with
      | some ⟨since, ends, .halfRead place rows⟩ =>
          some (s.enter client ⟨since, ends, .working rows s.store place⟩)
      | _ => none
  | .act client =>
      match s.sessions client with
      | some ⟨since, ends, .working rows later place⟩ =>
          let outcome := (clients client).act ends.length rows later place s.store
          some ((s.write client outcome.written).enter client
            (outcome.session passes overtaken (clients client).first s.writes.length since ends rows
              later))
      | _ => none
  | .lose client =>
      match s.sessions client with
      | some ⟨since, ends, .working rows later place⟩ =>
          match ((clients client).act ends.length rows later place s.store).written with
          | some t => some ((s.write client (some t)).enter client ⟨since, ends, .lost⟩)
          | none => none
      | _ => none

theorem step_of_next {event : Event} {s' : State σ P A E}
    (h : next passes overtaken clients s event = some s') :
    Step passes overtaken clients s event s' := by
  cases event with
  | begin client =>
      simp only [next] at h
      split at h
      next hnew =>
        cases h
        exact .begun client hnew
      · cases h
  | readRows client =>
      simp only [next] at h
      split at h
      next hphase =>
        cases h
        exact .rows hphase
      · cases h
  | readRest client =>
      simp only [next] at h
      split at h
      next hphase =>
        cases h
        exact .rest hphase
      · cases h
  | act client =>
      simp only [next] at h
      split at h
      next hphase =>
        cases h
        exact .acted hphase rfl
      · cases h
  | lose client =>
      simp only [next] at h
      split at h
      next hphase =>
        split at h
        next hwritten =>
          cases h
          exact .lost hphase rfl hwritten
        · cases h
      · cases h

/-- **Events that can happen one after the other** are a run. -/
theorem run_of_next (h : events.foldlM (next passes overtaken clients) s₀ = some s) :
    Run (Step passes overtaken clients) s₀ events s :=
  (Run.of_foldlM events h).mono fun _ _ _ hs => step_of_next hs

end Retry
