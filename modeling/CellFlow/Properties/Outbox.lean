/-
# CellFlow.Properties.Outbox — which deliveries an event leaves.

The event log of an intent, the webhook endpoints of all projects and the delivery rows, over any
interleaving of the statements of the intent's requests and reconciliations, registrations and removals
of endpoints, and the workers' moves on the rows.  Each event is followed, in its transaction, by one
insert into `webhook_deliveries`, which reads the endpoints as they are committed at that moment: a row
for each endpoint the project has enabled then, and never another (`outbox_exact`).  Events of other
intents leave rows of their own and are not modelled.
-/
import CellFlow.Api.EventLog
import CellFlow.Api.Scenario
import CellFlow.Db.WebhookEndpoints
import CellFlow.Properties.DeliveryLeases

namespace CellFlow

open Optimistic (World)
open Runs (Run)
open Sequenced (Book)

/-! ## The outbox -/

/-- A delivery row with its workers, and the sequence number of the event it is of. -/
structure Delivery where
  endpointId : String
  eventNumber : Nat
  payload : WebhookPayload
  world : DeliveryWorld

/-- The key of a row. -/
def Delivery.key (delivery : Delivery) : String × Nat := (delivery.endpointId, delivery.eventNumber)

/-- The committed rows, the rows each transaction under way has inserted, and the event whose rows it
inserts next. -/
structure OutboxWorld where
  log : LogWorld
  endpoints : EndpointTable
  deliveries : List Delivery
  pending : Nat → List Delivery
  due : Nat → Option (Nat × StateEvent)

/-- A move: a statement on the rows of the intent, the delivery inserts of an event, a registration, a
removal, or a move of the workers. -/
inductive OutboxEvent where
  | stated (move : LogMove)
  | queued (id number : Nat)
  | created (projectId endpointId : String)
  | disabled (projectId endpointId : String)
  | worked (index : Nat) (act : DeliveryAct)

section Outbox

variable (projectId : String) (eventIds : Nat → String) (configured : Option Int)

/-- The insert that follows one event.  The id of the event is new, so `on conflict do nothing` has
nothing to skip. -/
def enqueueEvent (now : Int) (endpoints : EndpointTable) (entry : Nat × StateEvent) : List Delivery :=
  (enabledEndpoints projectId endpoints).map fun endpointId =>
    { endpointId := endpointId
      eventNumber := entry.1
      payload := entry.2.payload
      world := freshDelivery projectId endpointId (eventIds entry.1) now }

/-- **One move.**  A transaction inserts the rows of an event before its next event and before it
commits; its rows are seen by no one else until then. -/
inductive OutboxStep (w : OutboxWorld) : OutboxEvent → OutboxWorld → Prop where
  | begin {id : Nat} {act : Act} {log : LogWorld} (hstep : LogStep w.log (.begin id act) log) :
      OutboxStep w (.stated (.begin id act)) { w with log := log }
  | lock {id : Nat} {log : LogWorld} (hstep : LogStep w.log (.lock id) log) :
      OutboxStep w (.stated (.lock id)) { w with log := log }
  | insert {id : Nat} {event : StateEvent} {log : LogWorld}
      (hstep : LogStep w.log (.insert id event) log) (hdue : w.due id = none) :
      OutboxStep w (.stated (.insert id event))
        { w with
          log := log
          due := Function.update w.due id (some (w.log.book.next, event)) }
  | queue {id : Nat} {entry : Nat × StateEvent} (now : Int) (hdue : w.due id = some entry) :
      OutboxStep w (.queued id entry.1)
        { w with
          pending := Function.update w.pending id
            (w.pending id ++ enqueueEvent projectId eventIds now w.endpoints entry)
          due := Function.update w.due id none }
  | commit {id : Nat} {act : Act} {log : LogWorld} (hstep : LogStep w.log (.commit id act) log)
      (hdue : w.due id = none) :
      OutboxStep w (.stated (.commit id act))
        { w with
          log := log
          deliveries := w.deliveries ++ w.pending id
          pending := Function.update w.pending id [] }
  | rollback {id : Nat} {log : LogWorld} (hstep : LogStep w.log (.rollback id) log) :
      OutboxStep w (.stated (.rollback id))
        { w with
          log := log
          pending := Function.update w.pending id []
          due := Function.update w.due id none }
  | create {input : EndpointInput} {endpoints : EndpointTable} {endpointId : String}
      (hcreate : createWebhookEndpoint input w.endpoints = some (endpoints, endpointId)) :
      OutboxStep w (.created input.projectId endpointId) { w with endpoints := endpoints }
  | disable (owner endpointId : String) :
      OutboxStep w (.disabled owner endpointId)
        { w with endpoints := (disableWebhookEndpoint owner endpointId w.endpoints).1 }
  | work {index : Nat} {delivery : Delivery} {act : DeliveryAct} {world : DeliveryWorld}
      (hdelivery : w.deliveries[index]? = some delivery)
      (hstep : DeliveryStep configured delivery.world act world) :
      OutboxStep w (.worked index act)
        { w with deliveries := w.deliveries.set index { delivery with world := world } }

/-- A new intent, with the inserts of its first event. -/
def openingOutbox (req : CreateRequest) (endpoints : EndpointTable) (now : Int) : OutboxWorld where
  log := LogWorld.opening req
  endpoints := endpoints
  deliveries :=
    (LogWorld.opening req).book.log.flatMap (enqueueEvent projectId eventIds now endpoints)
  pending := fun _ => []
  due := fun _ => none

end Outbox

/-! ## The log only grows -/

/-- A statement adds to the committed log, or leaves it. -/
theorem LogStep.log_prefix {w w' : LogWorld} {move : LogMove} (h : LogStep w move w') :
    w.book.log <+: w'.book.log := by
  cases h with
  | commit _ _ _ _ => exact List.prefix_append _ _
  | begin _ _ _ => exact List.prefix_rfl
  | lock _ _ => exact List.prefix_rfl
  | insert _ _ => exact List.prefix_rfl
  | rollback _ => exact List.prefix_rfl

theorem OutboxStep.log_prefix {projectId : String} {eventIds : Nat → String}
    {configured : Option Int} {w w' : OutboxWorld} {event : OutboxEvent}
    (h : OutboxStep projectId eventIds configured w event w') :
    w.log.book.log <+: w'.log.book.log := by
  cases h with
  | begin hstep => exact hstep.log_prefix
  | lock hstep => exact hstep.log_prefix
  | insert hstep _ => exact hstep.log_prefix
  | commit hstep _ => exact hstep.log_prefix
  | rollback hstep => exact hstep.log_prefix
  | queue _ _ => exact List.prefix_rfl
  | create _ => exact List.prefix_rfl
  | disable _ _ => exact List.prefix_rfl
  | work _ _ => exact List.prefix_rfl

/-- **The log only grows**: what it once lists, it lists in the same place from then on. -/
theorem log_grows {projectId : String} {eventIds : Nat → String} {configured : Option Int}
    {w w' : OutboxWorld} {more : List OutboxEvent}
    (h : Run (OutboxStep projectId eventIds configured) w more w') :
    w.log.book.log <+: w'.log.book.log := by
  induction h with
  | start => exact List.prefix_rfl
  | next _ hs ih => exact ih.trans hs.log_prefix

/-! ## What the history says -/

section History

variable (projectId : String)

/-- Whether an endpoint of the project is enabled after one more move. -/
def OutboxEvent.enables (endpointId : String) (enabled : Bool) : OutboxEvent → Bool
  | .created owner id => if owner = projectId ∧ endpointId = id then true else enabled
  | .disabled owner id => if owner = projectId ∧ endpointId = id then false else enabled
  | _ => enabled

/-- Whether an endpoint of the project is enabled after the moves. -/
def enabledAfter (endpoints : EndpointTable) (history : List OutboxEvent) (endpointId : String) : Bool :=
  history.foldl (OutboxEvent.enables projectId endpointId)
    (decide (endpointId ∈ enabledEndpoints projectId endpoints))

/-- The event a move inserts the deliveries of. -/
def OutboxEvent.queues : OutboxEvent → Option Nat
  | .queued _ number => some number
  | _ => none

/-- The events whose deliveries have been inserted: with the intent, or by a move since. -/
def queuedNumbers (req : CreateRequest) (history : List OutboxEvent) : List Nat :=
  (LogWorld.opening req).book.log.map Prod.fst ++ history.filterMap OutboxEvent.queues

/-- The endpoint was enabled when they were. -/
def QueuedFor (req : CreateRequest) (endpoints : EndpointTable) (history : List OutboxEvent)
    (endpointId : String) (number : Nat) : Prop :=
  (number ∈ (LogWorld.opening req).book.log.map Prod.fst ∧
      endpointId ∈ enabledEndpoints projectId endpoints) ∨
    ∃ before id after, history = before ++ .queued id number :: after ∧
      enabledAfter projectId endpoints before endpointId = true

variable {projectId} {req : CreateRequest} {endpoints : EndpointTable} {history : List OutboxEvent}
  {event : OutboxEvent} {endpointId : String} {number : Nat}

theorem enabledAfter_snoc : enabledAfter projectId endpoints (history ++ [event]) endpointId =
    event.enables projectId endpointId (enabledAfter projectId endpoints history endpointId) := by
  rw [enabledAfter, List.foldl_append]
  rfl

theorem queuedNumbers_snoc :
    queuedNumbers req (history ++ [event]) = queuedNumbers req history ++ event.queues.toList := by
  rw [queuedNumbers, queuedNumbers, List.filterMap_append, List.append_assoc]
  cases hq : event.queues with
  | none => rw [List.filterMap_cons_none hq]; rfl
  | some n => rw [List.filterMap_cons_some hq]; rfl

theorem queuedFor_snoc : QueuedFor projectId req endpoints (history ++ [event]) endpointId number ↔
    QueuedFor projectId req endpoints history endpointId number ∨
      event.queues = some number ∧
        enabledAfter projectId endpoints history endpointId = true := by
  constructor
  · rintro (hfirst | ⟨before, id, after, heq, henabled⟩)
    · exact Or.inl (Or.inl hfirst)
    · rcases Runs.snoc_split heq with ⟨-, rfl, rfl⟩ | ⟨rest, -, rfl⟩
      · exact Or.inr ⟨rfl, henabled⟩
      · exact Or.inl (Or.inr ⟨before, id, rest, rfl, henabled⟩)
  · rintro ((hfirst | ⟨before, id, after, rfl, henabled⟩) | ⟨hqueues, henabled⟩)
    · exact Or.inl hfirst
    · exact Or.inr ⟨before, id, after ++ [event], by simp, henabled⟩
    · cases event with
      | queued id n =>
          obtain rfl := Option.some.inj hqueues
          exact Or.inr ⟨history, id, [], rfl, henabled⟩
      | stated move => cases hqueues
      | created owner created => cases hqueues
      | disabled owner disabled => cases hqueues
      | worked index act => cases hqueues

theorem QueuedFor.queued (h : QueuedFor projectId req endpoints history endpointId number) :
    number ∈ queuedNumbers req history := by
  rcases h with ⟨hfirst, -⟩ | ⟨before, id, after, rfl, -⟩
  · exact List.mem_append_left _ hfirst
  · apply List.mem_append_right
    rw [List.filterMap_append]
    exact List.mem_append_right _ (List.mem_filterMap.mpr ⟨_, List.mem_cons_self, rfl⟩)

end History

/-! ## Events and their rows -/

/-- What a row is: of an event's payload, and where the workers' moves have brought it. -/
structure DeliveryOf (projectId : String) (eventIds : Nat → String) (configured : Option Int)
    (entries : List (Nat × StateEvent)) (delivery : Delivery) : Prop where
  payload : ∃ event, (delivery.eventNumber, event) ∈ entries ∧ delivery.payload = event.payload
  leased : ∃ now acts, Run (DeliveryStep configured)
    (freshDelivery projectId delivery.endpointId (eventIds delivery.eventNumber) now) acts
    delivery.world

/-- The rows are those the history asks for of the events. -/
structure Filed (projectId : String) (eventIds : Nat → String) (configured : Option Int)
    (req : CreateRequest) (endpoints : EndpointTable) (history : List OutboxEvent)
    (entries : List (Nat × StateEvent)) (deliveries : List Delivery) : Prop where
  once : (deliveries.map Delivery.key).Nodup
  queued : ∀ endpointId number, (endpointId, number) ∈ deliveries.map Delivery.key ↔
    number ∈ entries.map Prod.fst ∧ QueuedFor projectId req endpoints history endpointId number
  rows : ∀ delivery ∈ deliveries, DeliveryOf projectId eventIds configured entries delivery

section Filing

variable {projectId : String} {eventIds : Nat → String} {configured : Option Int}
  {req : CreateRequest} {endpoints : EndpointTable} {history : List OutboxEvent}
  {event : OutboxEvent} {entries others : List (Nat × StateEvent)}
  {deliveries rows : List Delivery}

/-- The rows one event asks for. -/
theorem mem_enqueueEvent {now : Int} {table : EndpointTable} {entry : Nat × StateEvent}
    {endpointId : String} {number : Nat} :
    (endpointId, number) ∈
        (enqueueEvent projectId eventIds now table entry).map Delivery.key ↔
      number = entry.1 ∧ endpointId ∈ enabledEndpoints projectId table := by
  rw [enqueueEvent, List.map_map, List.mem_map]
  constructor
  · rintro ⟨id, henabled, hkey⟩
    obtain ⟨rfl, rfl⟩ := Prod.mk.inj hkey
    exact ⟨rfl, henabled⟩
  · rintro ⟨rfl, henabled⟩
    exact ⟨endpointId, henabled, rfl⟩

theorem nodup_enqueueEvent {now : Int} {table : EndpointTable} {entry : Nat × StateEvent} :
    ((enqueueEvent projectId eventIds now table entry).map Delivery.key).Nodup := by
  rw [enqueueEvent, List.map_map]
  exact (nodup_enabledEndpoints projectId table).map fun a b h => (Prod.mk.inj h).1

theorem deliveryOf_enqueueEvent {now : Int} {table : EndpointTable} {entry : Nat × StateEvent}
    (hentry : entry ∈ entries) :
    ∀ delivery ∈ enqueueEvent projectId eventIds now table entry,
      DeliveryOf projectId eventIds configured entries delivery := by
  intro delivery hdelivery
  obtain ⟨endpointId, -, rfl⟩ := List.mem_map.mp hdelivery
  exact ⟨⟨entry.2, hentry, rfl⟩, now, [], .start⟩

theorem DeliveryOf.mono {delivery : Delivery}
    (h : DeliveryOf projectId eventIds configured entries delivery) (hsub : entries ⊆ others) :
    DeliveryOf projectId eventIds configured others delivery := by
  obtain ⟨⟨event, hmem, hpayload⟩, hleased⟩ := h
  exact ⟨⟨event, hsub hmem, hpayload⟩, hleased⟩

theorem filed_nil :
    Filed projectId eventIds configured req endpoints history [] [] :=
  ⟨List.nodup_nil, by simp, fun _ hdelivery => by cases hdelivery⟩

/-- Moves that queue none of the events leave their rows. -/
theorem Filed.snoc
    (h : Filed projectId eventIds configured req endpoints history entries deliveries)
    (hother : ∀ number ∈ entries.map Prod.fst, event.queues ≠ some number) :
    Filed projectId eventIds configured req endpoints (history ++ [event]) entries deliveries := by
  refine ⟨h.once, fun endpointId number => ?_, h.rows⟩
  rw [h.queued, queuedFor_snoc]
  refine and_congr_right fun hnumber => ?_
  simp [hother number hnumber]

/-- An event whose rows are not inserted yet asks for none. -/
theorem Filed.insert
    (h : Filed projectId eventIds configured req endpoints history entries deliveries)
    {entry : Nat × StateEvent} (hnew : entry.1 ∉ queuedNumbers req history) :
    Filed projectId eventIds configured req endpoints history (entries ++ [entry]) deliveries := by
  refine ⟨h.once, fun endpointId number => ?_, fun delivery hdelivery =>
    (h.rows delivery hdelivery).mono (List.subset_append_left _ _)⟩
  rw [h.queued, List.map_append, List.mem_append, List.map_singleton, List.mem_singleton]
  constructor
  · rintro ⟨hnumber, hqueued⟩
    exact ⟨Or.inl hnumber, hqueued⟩
  · rintro ⟨hnumber | rfl, hqueued⟩
    · exact ⟨hnumber, hqueued⟩
    · exact absurd hqueued.queued hnew

/-- The rows of an event, inserted while its transaction is under way. -/
theorem Filed.queue
    (h : Filed projectId eventIds configured req endpoints history entries deliveries)
    {entry : Nat × StateEvent} {id : Nat} {now : Int} {table : EndpointTable}
    (hentry : entry ∈ entries) (hnew : entry.1 ∉ queuedNumbers req history)
    (henabled : ∀ endpointId, endpointId ∈ enabledEndpoints projectId table ↔
      enabledAfter projectId endpoints history endpointId = true) :
    Filed projectId eventIds configured req endpoints (history ++ [.queued id entry.1]) entries
      (deliveries ++ enqueueEvent projectId eventIds now table entry) := by
  refine ⟨?_, fun endpointId number => ?_, fun delivery hdelivery => ?_⟩
  · rw [List.map_append, List.nodup_append]
    refine ⟨h.once, nodup_enqueueEvent, ?_⟩
    rintro ⟨endpointId, number⟩ hbefore other hrow rfl
    obtain ⟨rfl, -⟩ := mem_enqueueEvent.mp hrow
    exact hnew ((h.queued _ _).mp hbefore).2.queued
  · rw [List.map_append, List.mem_append, h.queued, mem_enqueueEvent, henabled, queuedFor_snoc]
    show _ ↔ _ ∧ (_ ∨ some entry.1 = some number ∧ _)
    rw [Option.some.injEq]
    constructor
    · rintro (⟨hnumber, hqueued⟩ | ⟨rfl, hafter⟩)
      · exact ⟨hnumber, Or.inl hqueued⟩
      · exact ⟨List.mem_map_of_mem hentry, Or.inr ⟨rfl, hafter⟩⟩
    · rintro ⟨hnumber, hqueued | ⟨rfl, hafter⟩⟩
      · exact Or.inl ⟨hnumber, hqueued⟩
      · exact Or.inr ⟨rfl, hafter⟩
  · rcases List.mem_append.mp hdelivery with hbefore | hrow
    · exact h.rows delivery hbefore
    · exact deliveryOf_enqueueEvent hentry delivery hrow

/-- The rows of a transaction join the committed ones with its events. -/
theorem Filed.append
    (h : Filed projectId eventIds configured req endpoints history entries deliveries)
    (h' : Filed projectId eventIds configured req endpoints history others rows)
    (hapart : ∀ entry ∈ others, ∀ other ∈ entries, other.1 ≠ entry.1) :
    Filed projectId eventIds configured req endpoints history (entries ++ others)
      (deliveries ++ rows) := by
  refine ⟨?_, fun endpointId number => ?_, fun delivery hdelivery => ?_⟩
  · rw [List.map_append, List.nodup_append]
    refine ⟨h.once, h'.once, ?_⟩
    rintro ⟨endpointId, number⟩ hbefore other hrow rfl
    obtain ⟨entry, hentry, hnumber⟩ := List.mem_map.mp ((h'.queued _ _).mp hrow).1
    obtain ⟨other, hother, hnumber'⟩ := List.mem_map.mp ((h.queued _ _).mp hbefore).1
    exact hapart entry hentry other hother (hnumber'.trans hnumber.symm)
  · rw [List.map_append, List.mem_append, h.queued, h'.queued, List.map_append, List.mem_append,
      or_and_right]
  · rcases List.mem_append.mp hdelivery with hbefore | hrow
    · exact (h.rows delivery hbefore).mono (List.subset_append_left _ _)
    · exact (h'.rows delivery hrow).mono (List.subset_append_right _ _)

/-- The workers' moves on a row leave its key. -/
theorem Filed.work
    (h : Filed projectId eventIds configured req endpoints history entries deliveries)
    {index : Nat} {delivery : Delivery} {act : DeliveryAct} {world : DeliveryWorld}
    (hdelivery : deliveries[index]? = some delivery)
    (hstep : DeliveryStep configured delivery.world act world) :
    Filed projectId eventIds configured req endpoints history entries
      (deliveries.set index { delivery with world := world }) := by
  have hkeys : (deliveries.set index { delivery with world := world }).map Delivery.key =
      deliveries.map Delivery.key := by
    rw [List.map_set]
    obtain ⟨hlt, hplace⟩ := List.getElem?_eq_some_iff.mp hdelivery
    show (deliveries.map Delivery.key).set index delivery.key = _
    rw [← hplace, ← List.getElem_map Delivery.key (h := by rwa [List.length_map])]
    exact List.set_getElem_self _
  refine ⟨hkeys ▸ h.once, fun endpointId number => hkeys ▸ h.queued endpointId number, ?_⟩
  intro other hother
  rcases List.mem_or_eq_of_mem_set hother with hbefore | rfl
  · exact h.rows other hbefore
  · obtain ⟨hpayload, now, acts, hrun⟩ := h.rows delivery (List.mem_of_getElem? hdelivery)
    exact ⟨hpayload, now, acts ++ [act], .next hrun hstep⟩

end Filing

/-! ## The invariant -/

/-- Every event has had the insert of its rows, once, unless it comes next in its transaction. -/
structure Moments (queued : List Nat) (book : Book Nat StateEvent)
    (due : Nat → Option (Nat × StateEvent)) : Prop where
  written : ∀ entry ∈ book.log, entry.1 ∈ queued
  inserted : ∀ id, ∀ entry ∈ book.pending id, entry.1 ∈ queued ∨ due id = some entry
  due : ∀ id entry, due id = some entry → entry ∈ book.pending id ∧ entry.1 ∉ queued
  drawn : ∀ number ∈ queued, number < book.next
  once : queued.Nodup

section Moments

variable {queued : List Nat} {book : Book Nat StateEvent} {due : Nat → Option (Nat × StateEvent)}
  {id : Nat}

theorem Moments.next_notMem (h : Moments queued book due) : book.next ∉ queued :=
  fun hqueued => Nat.lt_irrefl _ (h.drawn _ hqueued)

theorem Moments.insert (h : Moments queued book due) (hdue : due id = none) (written : StateEvent) :
    Moments queued (book.insert id written)
      (Function.update due id (some (book.next, written))) := by
  refine ⟨h.written, fun other entry hentry => ?_, fun other entry hother => ?_,
    fun number hnumber => Nat.lt_succ_of_lt (h.drawn number hnumber), h.once⟩
  · by_cases hsame : other = id
    · subst hsame
      rw [Book.insert_pending_self] at hentry
      rw [Function.update_self]
      rcases List.mem_append.mp hentry with hbefore | hlast
      · rcases h.inserted other entry hbefore with hqueued | hdue'
        · exact Or.inl hqueued
        · cases hdue.symm.trans hdue'
      · rw [List.mem_singleton.mp hlast]
        exact Or.inr rfl
    · rw [Book.insert_pending_of_ne hsame] at hentry
      rw [Function.update_of_ne hsame]
      exact h.inserted other entry hentry
  · by_cases hsame : other = id
    · subst hsame
      rw [Function.update_self] at hother
      obtain rfl := Option.some.inj hother
      rw [Book.insert_pending_self]
      exact ⟨List.mem_append_right _ List.mem_cons_self, h.next_notMem⟩
    · rw [Function.update_of_ne hsame] at hother
      rw [Book.insert_pending_of_ne hsame]
      exact h.due other entry hother

theorem Moments.commit (h : Moments queued book due) (hdue : due id = none) :
    Moments queued (book.commit id) due := by
  refine ⟨fun entry hentry => ?_,
    fun other entry hentry => h.inserted other entry (Book.mem_emptied hentry).2,
    fun other entry hother => ?_, h.drawn, h.once⟩
  · rcases List.mem_append.mp hentry with hbefore | hpending
    · exact h.written entry hbefore
    · rcases h.inserted id entry hpending with hqueued | hdue'
      · exact hqueued
      · cases hdue.symm.trans hdue'
  · have hne : other ≠ id := by
      rintro rfl
      cases hdue.symm.trans hother
    rw [Book.commit_pending_of_ne hne]
    exact h.due other entry hother

theorem Moments.discard (h : Moments queued book due) :
    Moments queued (book.discard id) (Function.update due id none) := by
  refine ⟨h.written, fun other entry hentry => ?_, fun other entry hother => ?_, h.drawn, h.once⟩
  · obtain ⟨hne, hmem⟩ := Book.mem_emptied hentry
    rw [Function.update_of_ne hne]
    exact h.inserted other entry hmem
  · have hne : other ≠ id := by
      rintro rfl
      rw [Function.update_self] at hother
      cases hother
    rw [Function.update_of_ne hne] at hother
    rw [Book.discard_pending_of_ne hne]
    exact h.due other entry hother

theorem Moments.queue (h : Moments queued book due) (hnumbered : book.Numbered)
    {entry : Nat × StateEvent} (hdue : due id = some entry) :
    Moments (queued ++ [entry.1]) book (Function.update due id none) := by
  obtain ⟨hentry, hnew⟩ := h.due id entry hdue
  refine ⟨fun e he => List.mem_append_left _ (h.written e he), fun other e he => ?_,
    fun other e hother => ?_, fun number hnumber => ?_, ?_⟩
  · by_cases hsame : other = id
    · subst hsame
      left
      rcases h.inserted other e he with hbefore | hdue'
      · exact List.mem_append_left _ hbefore
      · obtain rfl := Option.some.inj (hdue.symm.trans hdue')
        exact List.mem_append_right _ List.mem_cons_self
    · rw [Function.update_of_ne hsame]
      exact (h.inserted other e he).imp_left (List.mem_append_left _)
  · have hne : other ≠ id := by
      rintro rfl
      rw [Function.update_self] at hother
      cases hother
    rw [Function.update_of_ne hne] at hother
    obtain ⟨hmem, hnot⟩ := h.due other e hother
    refine ⟨hmem, fun hqueued => ?_⟩
    rcases List.mem_append.mp hqueued with hbefore | hlast
    · exact hnot hbefore
    · exact hnumbered.apart id other hne.symm entry hentry e hmem (List.mem_singleton.mp hlast)
  · rcases List.mem_append.mp hnumber with hbefore | hlast
    · exact h.drawn number hbefore
    · rw [List.mem_singleton.mp hlast]
      exact hnumbered.pending_lt id entry hentry
  · refine List.nodup_append.mpr ⟨h.once, List.nodup_singleton _, ?_⟩
    rintro number hbefore other hother rfl
    obtain rfl := List.mem_singleton.mp hother
    exact hnew hbefore

end Moments

/-- The rows of the committed events stand in the table, and those of a transaction under way with it. -/
structure OutboxInv (projectId : String) (eventIds : Nat → String) (configured : Option Int)
    (req : CreateRequest) (endpoints : EndpointTable) (history : List OutboxEvent)
    (w : OutboxWorld) : Prop where
  log : LogInv req w.log
  enabled : ∀ endpointId, endpointId ∈ enabledEndpoints projectId w.endpoints ↔
    enabledAfter projectId endpoints history endpointId = true
  filed : Filed projectId eventIds configured req endpoints history w.log.book.log w.deliveries
  pending : ∀ id, Filed projectId eventIds configured req endpoints history
    (w.log.book.pending id) (w.pending id)
  moments : Moments (queuedNumbers req history) w.log.book w.due

section Runs

variable {projectId : String} {eventIds : Nat → String} {configured : Option Int}
  {req : CreateRequest} {endpoints : EndpointTable} {history : List OutboxEvent}
  {event : OutboxEvent} {w w' : OutboxWorld}

/-- A move that inserts no deliveries leaves the rows and what is due. -/
theorem OutboxInv.later (hi : OutboxInv projectId eventIds configured req endpoints history w)
    (hqueues : event.queues = none) {table : EndpointTable}
    (henabled : ∀ endpointId, endpointId ∈ enabledEndpoints projectId table ↔
      event.enables projectId endpointId
        (enabledAfter projectId endpoints history endpointId) = true) :
    OutboxInv projectId eventIds configured req endpoints (history ++ [event])
      { w with endpoints := table } := by
  have hqueued : queuedNumbers req (history ++ [event]) = queuedNumbers req history := by
    rw [queuedNumbers_snoc, hqueues]
    exact List.append_nil _
  have hother : ∀ number : Nat, event.queues ≠ some number := by
    intro number
    rw [hqueues]
    exact (Option.some_ne_none number).symm
  refine ⟨hi.log, fun endpointId => ?_, hi.filed.snoc fun number _ => hother number,
    fun id => (hi.pending id).snoc fun number _ => hother number, ?_⟩
  · rw [enabledAfter_snoc]
    exact henabled endpointId
  · rw [hqueued]
    exact hi.moments

/-- A statement on the rows of the intent leaves the endpoints. -/
theorem OutboxInv.stated (hi : OutboxInv projectId eventIds configured req endpoints history w)
    (move : LogMove) :
    OutboxInv projectId eventIds configured req endpoints (history ++ [.stated move]) w :=
  hi.later rfl hi.enabled

/-- An event joins those of its transaction, and its rows are due. -/
theorem OutboxInv.insert (hi : OutboxInv projectId eventIds configured req endpoints history w)
    {id : Nat} {written : StateEvent} {log : LogWorld}
    (hlog : LogStep w.log (.insert id written) log) (hdue : w.due id = none) :
    OutboxInv projectId eventIds configured req endpoints history
      { w with
        log := log
        due := Function.update w.due id (some (w.log.book.next, written)) } := by
  have hkept := hi.log.step hlog
  cases hlog with
  | insert hrun hheld =>
      refine ⟨hkept, hi.enabled, hi.filed, fun other => ?_, hi.moments.insert hdue written⟩
      by_cases hsame : other = id
      · subst hsame
        rw [Book.insert_pending_self]
        exact (hi.pending other).insert hi.moments.next_notMem
      · rw [Book.insert_pending_of_ne hsame]
        exact hi.pending other

/-- A transaction that ends has no rows left, committed or dropped. -/
theorem OutboxInv.pending_emptied
    (hi : OutboxInv projectId eventIds configured req endpoints history w) (id other : Nat) :
    Filed projectId eventIds configured req endpoints history
      (Function.update w.log.book.pending id [] other) (Function.update w.pending id [] other) := by
  by_cases hsame : other = id
  · subst hsame
    simpa using filed_nil
  · simpa [hsame] using hi.pending other

/-- **A commit**: the rows of the transaction join the table as its events join the log. -/
theorem OutboxInv.commit (hi : OutboxInv projectId eventIds configured req endpoints history w)
    {id : Nat} {act : Act} {log : LogWorld} (hlog : LogStep w.log (.commit id act) log)
    (hdue : w.due id = none) :
    OutboxInv projectId eventIds configured req endpoints history
      { w with
        log := log
        deliveries := w.deliveries ++ w.pending id
        pending := Function.update w.pending id [] } := by
  have hkept := hi.log.step hlog
  have hfresh := hi.log.numbered.fresh id
  cases hlog with
  | commit hrun hheld hcommit hevents =>
      exact ⟨hkept, hi.enabled, hi.filed.append (hi.pending id) hfresh, hi.pending_emptied id,
        hi.moments.commit hdue⟩

/-- **A rollback** drops the rows of the transaction with its events. -/
theorem OutboxInv.rollback (hi : OutboxInv projectId eventIds configured req endpoints history w)
    {id : Nat} {log : LogWorld} (hlog : LogStep w.log (.rollback id) log) :
    OutboxInv projectId eventIds configured req endpoints history
      { w with
        log := log
        pending := Function.update w.pending id []
        due := Function.update w.due id none } := by
  have hkept := hi.log.step hlog
  cases hlog with
  | rollback hrun =>
      exact ⟨hkept, hi.enabled, hi.filed, hi.pending_emptied id, hi.moments.discard⟩

/-- **The deliveries of an event** are inserted for the endpoints enabled at that moment. -/
theorem OutboxInv.queue (hi : OutboxInv projectId eventIds configured req endpoints history w)
    {id : Nat} {entry : Nat × StateEvent} {now : Int} (hdue : w.due id = some entry) :
    OutboxInv projectId eventIds configured req endpoints (history ++ [.queued id entry.1])
      { w with
        pending := Function.update w.pending id
          (w.pending id ++ enqueueEvent projectId eventIds now w.endpoints entry)
        due := Function.update w.due id none } := by
  have hnumbered := hi.log.numbered
  obtain ⟨hentry, hnew⟩ := hi.moments.due id entry hdue
  -- numbers are drawn once, so the rows of all other events stay as they were filed
  have hother : ∀ {entries : List (Nat × StateEvent)}, (∀ e ∈ entries, e.1 ≠ entry.1) →
      ∀ number ∈ entries.map Prod.fst,
        (OutboxEvent.queued id entry.1).queues ≠ some number := by
    intro entries hapart number hnumber heq
    obtain ⟨e, he, rfl⟩ := List.mem_map.mp hnumber
    exact hapart e he (Option.some.inj heq).symm
  refine ⟨hi.log, fun endpointId => ?_, hi.filed.snoc (hother (hnumbered.fresh id entry hentry)),
    fun other => ?_, ?_⟩
  · rw [enabledAfter_snoc]
    exact hi.enabled endpointId
  · show Filed projectId eventIds configured req endpoints _ _
      (Function.update w.pending id _ other)
    by_cases hsame : other = id
    · subst hsame
      rw [Function.update_self]
      exact (hi.pending other).queue hentry hnew hi.enabled
    · rw [Function.update_of_ne hsame]
      apply (hi.pending other).snoc
      exact hother fun e he => hnumbered.apart id other (Ne.symm hsame) entry hentry e he
  · rw [queuedNumbers_snoc]
    exact hi.moments.queue hnumbered hdue

/-- **One move** keeps the invariant. -/
theorem OutboxInv.step (hi : OutboxInv projectId eventIds configured req endpoints history w)
    (h : OutboxStep projectId eventIds configured w event w') :
    OutboxInv projectId eventIds configured req endpoints (history ++ [event]) w' := by
  cases h with
  | begin hstep =>
      have hkept := hi.log.step hstep
      cases hstep with
      | begin hfree hrows hlater => exact { hi.stated _ with log := hkept }
  | lock hstep =>
      have hkept := hi.log.step hstep
      cases hstep with
      | lock hrun hfree => exact { hi.stated _ with log := hkept }
  | insert hstep hdue => exact (hi.stated _).insert hstep hdue
  | queue now hdue => exact hi.queue hdue
  | commit hstep hdue => exact (hi.stated _).commit hstep hdue
  | rollback hstep => exact (hi.stated _).rollback hstep
  | @create input table created hcreate =>
      apply hi.later rfl
      intro endpointId
      rw [enabled_created hcreate, hi.enabled]
      show _ ↔ (if input.projectId = projectId ∧ endpointId = created then true else _) = true
      by_cases hsame : input.projectId = projectId ∧ endpointId = created
      · rw [if_pos hsame]
        exact iff_of_true (Or.inr hsame) rfl
      · rw [if_neg hsame]
        exact or_iff_left hsame
  | disable owner removed =>
      apply hi.later rfl
      intro endpointId
      rw [enabled_disabled, hi.enabled]
      show _ ↔ (if owner = projectId ∧ endpointId = removed then false else _) = true
      by_cases hsame : owner = projectId ∧ endpointId = removed
      · rw [if_pos hsame]
        exact iff_of_false (fun h => h.2 hsame) Bool.false_ne_true
      · rw [if_neg hsame]
        exact and_iff_left hsame
  | @work index delivery act world hdelivery hstep =>
      have hlater : OutboxInv projectId eventIds configured req endpoints
          (history ++ [.worked index act]) w := hi.later rfl hi.enabled
      exact { hlater with filed := hlater.filed.work hdelivery hstep }

/-- The event of a new intent, and the rows inserted with it. -/
theorem OutboxInv.opening (now : Int) :
    OutboxInv projectId eventIds configured req endpoints []
      (openingOutbox projectId eventIds req endpoints now) := by
  obtain ⟨created, hlog⟩ : ∃ created, (LogWorld.opening req).book.log = [(0, created)] := ⟨_, rfl⟩
  have hdeliveries : (openingOutbox projectId eventIds req endpoints now).deliveries =
      enqueueEvent projectId eventIds now endpoints (0, created) := by
    rw [openingOutbox, hlog, List.flatMap_singleton]
  have hnumber : ∀ number, number ∈ (LogWorld.opening req).book.log.map Prod.fst ↔ number = 0 := by
    intro number
    rw [hlog]
    exact List.mem_singleton
  refine ⟨LogInv.opening req, fun endpointId => decide_eq_true_iff.symm, ⟨?_, ?_, ?_⟩,
    fun id => filed_nil, ?_⟩
  · rw [hdeliveries]
    exact nodup_enqueueEvent
  · intro endpointId number
    rw [hdeliveries, mem_enqueueEvent]
    constructor
    · rintro ⟨hfirst, henabled⟩
      exact ⟨(hnumber number).mpr hfirst, Or.inl ⟨(hnumber number).mpr hfirst, henabled⟩⟩
    · rintro ⟨hfirst, ⟨-, henabled⟩ | ⟨before, id, after, heq, -⟩⟩
      · exact ⟨(hnumber number).mp hfirst, henabled⟩
      · cases before <;> cases heq
  · rw [hdeliveries]
    apply deliveryOf_enqueueEvent
    show _ ∈ (LogWorld.opening req).book.log
    rw [hlog]
    exact List.mem_cons_self
  · have hqueued : queuedNumbers req [] = (LogWorld.opening req).book.log.map Prod.fst :=
      List.append_nil _
    have hnumbered := (LogInv.opening req).numbered
    rw [hqueued]
    refine ⟨fun entry hentry => List.mem_map_of_mem hentry, fun id entry hentry => (by cases hentry),
      fun id entry hdue => (by cases hdue), fun number h => ?_, hnumbered.log_nodup⟩
    obtain ⟨entry, hentry, rfl⟩ := List.mem_map.mp h
    exact hnumbered.log_lt entry hentry

theorem outboxInv_run {now : Int}
    (h : Run (OutboxStep projectId eventIds configured)
      (openingOutbox projectId eventIds req endpoints now) history w) :
    OutboxInv projectId eventIds configured req endpoints history w := by
  refine Run.history (OutboxInv projectId eventIds configured req endpoints) (.opening now) ?_ h
  intro history w event w' _ hi hs
  exact hi.step hs

/-- The workers never change what a row is of. -/
def WebhookDeliveryRow.names (row : WebhookDeliveryRow) : String × String × String :=
  (row.projectId, row.endpointId, row.eventId)

theorem names_change {m : DeliveryMove} {before after : DeliveryWorld}
    (h : DeliveryChange configured before m after) : after.row.names = before.row.names := by
  cases h with
  | same hrow hworker hrecords => rw [hrow]
  | claimed hname hidle hfree hwaits hrecords => rfl
  | renewed leaseUntil howner hrecords => rfl
  | completed howner hholds hrecords => rfl
  | released nextAttemptAt howner hrecords => rfl
  | retried now hmanual hfailed hrecords => rfl

theorem names_run {before after : DeliveryWorld} {acts : List DeliveryAct} (hi : LeaseInv before)
    (h : Run (DeliveryStep configured) before acts after) :
    LeaseInv after ∧ after.row.names = before.row.names := by
  refine Run.inv (fun world => LeaseInv world ∧ world.row.names = before.row.names) ⟨hi, rfl⟩ ?_ h
  rintro world act world' ⟨hinv, hnames⟩ hs
  have hchange := move_change hinv hs.1
  exact ⟨hinv.step hchange, (names_change hchange).trans hnames⟩

end Runs

/-- **The outbox is exact.**  In every run the log only grows, and from then on lists what it lists.  The
deliveries of every event have been inserted, once and at a moment of its transaction: an endpoint has one
of an event exactly if the event is committed and the project had the endpoint enabled at that moment, and
never two.  Each delivery has the payload of its event, stands under its project's, endpoint's and event's
names whatever the workers do, and its lease is sound. -/
theorem outbox_exact {projectId : String} {eventIds : Nat → String} {configured : Option Int}
    {req : CreateRequest} {endpoints : EndpointTable} {now : Int} {history : List OutboxEvent}
    {w : OutboxWorld}
    (h : Run (OutboxStep projectId eventIds configured)
      (openingOutbox projectId eventIds req endpoints now) history w) :
    (∀ more w', Run (OutboxStep projectId eventIds configured) w more w' →
      w.log.book.log <+: w'.log.book.log) ∧
    (∀ entry ∈ w.log.book.log, entry.1 ∈ queuedNumbers req history) ∧
    (queuedNumbers req history).Nodup ∧
    (w.deliveries.map Delivery.key).Nodup ∧
    (∀ endpointId number, (endpointId, number) ∈ w.deliveries.map Delivery.key ↔
      number ∈ w.log.book.log.map Prod.fst ∧
        QueuedFor projectId req endpoints history endpointId number) ∧
    ∀ delivery ∈ w.deliveries,
      (∃ event, (delivery.eventNumber, event) ∈ w.log.book.log ∧
        delivery.payload = event.payload) ∧
      delivery.world.row.names =
        (projectId, delivery.endpointId, eventIds delivery.eventNumber) ∧
      LeaseInv delivery.world := by
  have hinv := outboxInv_run h
  refine ⟨fun more w' hrun => log_grows hrun, hinv.moments.written, hinv.moments.once,
    hinv.filed.once, hinv.filed.queued, ?_⟩
  intro delivery hdelivery
  obtain ⟨hpayload, enqueued, acts, hrun⟩ := hinv.filed.rows delivery hdelivery
  obtain ⟨hlease, hnames⟩ := names_run (leaseInv_fresh ..) hrun
  exact ⟨hpayload, hnames, hlease⟩

open Scenario in
/-- An endpoint is registered, and a note is written. -/
theorem outbox_exact_note :
    ∃ history w, Run (OutboxStep "p" (fun n => toString n) none)
        (openingOutbox "p" (fun n => toString n) (create .committed)
          ⟨[], List.nodup_nil, List.nodup_nil⟩ 0) history w ∧
      w.deliveries.map Delivery.key = [("e", 1)] ∧
      (∀ more w', Run (OutboxStep "p" (fun n => toString n) none) w more w' →
        w.log.book.log <+: w'.log.book.log) ∧
      ∀ delivery ∈ w.deliveries,
        (∃ event, (delivery.eventNumber, event) ∈ w.log.book.log ∧
          delivery.payload = event.payload) ∧
        delivery.world.row.names = ("p", delivery.endpointId, toString delivery.eventNumber) ∧
        LeaseInv delivery.world := by
  let start : OutboxWorld := openingOutbox "p" (fun n => toString n) (create .committed)
    ⟨[], List.nodup_nil, List.nodup_nil⟩ 0
  let note : Act := ⟨start.log.world.current, start.log.world.current, .operatorNote "checked" 5⟩
  have hview : start.log.world.current ∈ start.log.world.views := World.current_mem_views _
  have hnote : ∃ db written, note.op.commit note.view start.log.world.current = some db ∧
      db.events = start.log.world.current.events ++ [written] := ⟨_, _, rfl, rfl⟩
  obtain ⟨db, written, hcommit, hevents⟩ := hnote
  have hrun : Run (OutboxStep "p" (fun n => toString n) none) start _ _ :=
    .next (.next (.next (.next (.next (.next .start
      (@OutboxStep.create _ _ _ _ ⟨"e", "p", "https://shop.example/hook", "c2VjcmV0"⟩ _ _ rfl))
      (@OutboxStep.begin _ _ _ _ 0 note _ (.begin rfl hview hview)))
      (@OutboxStep.insert _ _ _ _ 0 written _ (.insert rfl fun h => by cases h) rfl))
      (@OutboxStep.queue _ _ _ _ 0 (1, written) 5 rfl))
      (@OutboxStep.lock _ _ _ _ 0 _ (.lock rfl rfl)))
      (@OutboxStep.commit _ _ _ _ 0 note _ (.commit rfl (fun _ => rfl) hcommit hevents) rfl)
  have hexact := outbox_exact hrun
  exact ⟨_, _, hrun, rfl, hexact.1, hexact.2.2.2.2.2⟩

end CellFlow
