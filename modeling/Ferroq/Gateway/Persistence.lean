import Ferroq.Gateway.EventBus
import Ferroq.Gateway.Storage
import Mathlib.Data.List.Forall2

/-!
# Message persistence

One task of the runtime reads the event bus and inserts every message into the
store; another one deletes expired messages now and then.  An insertion runs on a
thread of its own, so that one that has begun goes on when the task is aborted.

The fates say, place by place, what became of the events since the task has
subscribed.
-/

namespace Ferroq.Gateway

open Ferroq.Core Ferroq.Library
open Ferroq.Gateway.Storage

inductive Fate where
  | missed
  | passedOver
  | failed
  | stored (entry : Entry)

def Fate.entry? : Fate → Option Entry
  | .stored entry => some entry
  | _ => none

namespace Persistence

inductive Stage (Value : Type) where
  | receiving
  | inserting (value : Value) (message : MessageEvent)
  | inserted
  | ended

def Stage.held {Value : Type} : Stage Value → List (Option Value)
  | .inserting value _ => [some value]
  | _ => []

@[simp]
theorem held_receiving {Value : Type} : (Stage.receiving : Stage Value).held = [] := rfl

@[simp]
theorem held_inserting {Value : Type} (value : Value) (message : MessageEvent) :
    (Stage.inserting value message).held = [some value] := rfl

@[simp]
theorem held_inserted {Value : Type} : (Stage.inserted : Stage Value).held = [] := rfl

/-- Whether the latest message stored is yet to be counted. -/
def Stage.uncounted {Value : Type} : Stage Value → Nat
  | .inserted => 1
  | _ => 0

end Persistence

structure Persistence (Value : Type) where
  bus : EventBus Value
  closed : Bool
  receiver : Subscription Value
  stage : Persistence.Stage Value
  aborted : Bool
  fates : List Fate
  store : MessageStore
  messagesStored : UInt64
  cleanups : List DateTime

namespace Persistence

variable {Value : Type}

/-- The task subscribes when the runtime starts. -/
def spawn (bus : EventBus Value) (store : MessageStore) : Persistence Value where
  bus := bus.subscribe.2
  closed := false
  receiver := bus.subscribe.1
  stage := .receiving
  aborted := false
  fates := []
  store := store
  messagesStored := 0
  cleanups := []

def own (state : Persistence Value) : Nat := if state.aborted then 0 else 1

inductive Action (Value : Type) where
  | publish (value : Value)
  | subscribe
  | unsubscribe
  | close
  | receive
  | insert (succeeds : Bool)
  | record
  | cleanup (now : DateTime)
  | abort

/-- The steps that the senders of the bus make. -/
def Action.bySenders : Action Value → Bool
  | .publish _ | .close => true
  | _ => false

section Step

variable (message : Value → Option MessageEvent) (serialize : MessageEvent → Option String)

def receive (state : Persistence Value) : Received Value → Persistence Value
  | .value value =>
      let state := { state with receiver := state.receiver.take (.value value) }
      match message value with
      | some event => { state with stage := .inserting value event }
      | none => { state with fates := state.fates ++ [.passedOver] }
  | .lagged missed =>
      { state with
        receiver := state.receiver.take (.lagged missed)
        fates := state.fates ++ List.replicate missed .missed }

def step (state : Persistence Value) : Action Value → Option (Persistence Value)
  | .publish value =>
      if state.closed then none else some { state with bus := state.bus.publish value }
  | .subscribe => some { state with bus := state.bus.subscribe.2 }
  | .unsubscribe =>
      if state.own < state.bus.receivers then some { state with bus := state.bus.unsubscribe }
      else none
  | .close => some { state with closed := true }
  | .receive =>
      match state.stage, state.aborted with
      | .receiving, false =>
          match state.bus.channel.recv state.receiver with
          | some received => some (state.receive message received)
          | none => if state.closed then some { state with stage := .ended } else none
      | _, _ => none
  | .insert succeeds =>
      match state.stage with
      | .inserting _ event =>
          if succeeds then
            some { state with
              stage := .inserted
              fates := state.fates ++ [.stored ⟨state.store.nextId, event⟩]
              store := state.store.insert serialize event }
          else some { state with stage := .receiving, fates := state.fates ++ [.failed] }
      | _ => none
  | .record =>
      match state.stage, state.aborted with
      | .inserted, false =>
          some { state with stage := .receiving, messagesStored := state.messagesStored + 1 }
      | _, _ => none
  | .cleanup now =>
      some { state with
        store := (state.store.cleanup now).1
        cleanups := state.cleanups ++ [now] }
  | .abort =>
      if state.aborted then none
      else some { state with aborted := true, bus := state.bus.unsubscribe }

def machine : Machine (Persistence Value) (Action Value) := ⟨step message serialize⟩

end Step

inductive Moves (message : Value → Option MessageEvent)
    (serialize : MessageEvent → Option String) (state : Persistence Value) :
    Action Value → Persistence Value → Prop where
  | publish (value : Value) :
      Moves message serialize state (.publish value)
        { state with bus := state.bus.publish value }
  | subscribe :
      Moves message serialize state .subscribe { state with bus := state.bus.subscribe.2 }
  | unsubscribe (foreign : state.own < state.bus.receivers) :
      Moves message serialize state .unsubscribe { state with bus := state.bus.unsubscribe }
  | close : Moves message serialize state .close { state with closed := true }
  | take {value : Value} {event : MessageEvent} (idle : state.stage = .receiving)
      (given : state.bus.channel.recv state.receiver = some (.value value))
      (carries : message value = some event) :
      Moves message serialize state .receive
        { state with
          receiver := state.receiver.take (.value value)
          stage := .inserting value event }
  | passOver {value : Value} (idle : state.stage = .receiving)
      (given : state.bus.channel.recv state.receiver = some (.value value))
      (carries : message value = none) :
      Moves message serialize state .receive
        { state with
          receiver := state.receiver.take (.value value)
          fates := state.fates ++ [.passedOver] }
  | miss {missed : Nat} (idle : state.stage = .receiving)
      (given : state.bus.channel.recv state.receiver = some (.lagged missed)) :
      Moves message serialize state .receive
        { state with
          receiver := state.receiver.take (.lagged missed)
          fates := state.fates ++ List.replicate missed .missed }
  | finish (idle : state.stage = .receiving) :
      Moves message serialize state .receive { state with stage := .ended }
  | store {value : Value} {event : MessageEvent} (held : state.stage = .inserting value event) :
      Moves message serialize state (.insert true)
        { state with
          stage := .inserted
          fates := state.fates ++ [.stored ⟨state.store.nextId, event⟩]
          store := state.store.insert serialize event }
  | fail {value : Value} {event : MessageEvent} (held : state.stage = .inserting value event) :
      Moves message serialize state (.insert false)
        { state with stage := .receiving, fates := state.fates ++ [.failed] }
  | record (done : state.stage = .inserted) :
      Moves message serialize state .record
        { state with stage := .receiving, messagesStored := state.messagesStored + 1 }
  | cleanup (now : DateTime) :
      Moves message serialize state (.cleanup now)
        { state with
          store := (state.store.cleanup now).1
          cleanups := state.cleanups ++ [now] }
  | abort (alive : state.aborted = false) :
      Moves message serialize state .abort
        { state with aborted := true, bus := state.bus.unsubscribe }

variable {message : Value → Option MessageEvent} {serialize : MessageEvent → Option String}
  {state next : Persistence Value} {action : Action Value}

theorem receive_moves (idle : state.stage = .receiving) {received : Received Value}
    (given : state.bus.channel.recv state.receiver = some received) :
    Moves message serialize state .receive (state.receive message received) := by
  cases received with
  | lagged missed => exact .miss idle given
  | value value =>
      simp only [receive]
      split
      next event carries => exact .take idle given carries
      next carries => exact .passOver idle given carries

theorem step_moves (stepped : (machine message serialize).step state action = some next) :
    Moves message serialize state action next := by
  change step message serialize state action = some next at stepped
  cases action with
  | publish value =>
      simp only [step] at stepped
      split at stepped
      next => cases stepped
      next => exact Option.some.inj stepped ▸ .publish value
  | subscribe => exact Option.some.inj stepped ▸ .subscribe
  | unsubscribe =>
      simp only [step] at stepped
      split at stepped
      next foreign => exact Option.some.inj stepped ▸ .unsubscribe foreign
      next => cases stepped
  | close => exact Option.some.inj stepped ▸ .close
  | receive =>
      simp only [step] at stepped
      split at stepped
      next idle _ =>
        split at stepped
        next received given => exact Option.some.inj stepped ▸ receive_moves idle given
        next =>
          split at stepped
          next => exact Option.some.inj stepped ▸ .finish idle
          next => cases stepped
      next => cases stepped
  | insert succeeds =>
      simp only [step] at stepped
      split at stepped
      next value event held =>
        cases succeeds with
        | true => exact Option.some.inj stepped ▸ .store held
        | false => exact Option.some.inj stepped ▸ .fail held
      next => cases stepped
  | record =>
      simp only [step] at stepped
      split at stepped
      next done _ => exact Option.some.inj stepped ▸ .record done
      next => cases stepped
  | cleanup now => exact Option.some.inj stepped ▸ .cleanup now
  | abort =>
      simp only [step] at stepped
      split at stepped
      next => cases stepped
      next alive => exact Option.some.inj stepped ▸ .abort (Bool.eq_false_iff.mpr alive)

inductive Fits (message : Value → Option MessageEvent) : Option Value → Fate → Prop where
  | missed : Fits message none .missed
  | passedOver {value : Value} (carries : message value = none) :
      Fits message (some value) .passedOver
  | failed {value : Value} {event : MessageEvent} (carries : message value = some event) :
      Fits message (some value) .failed
  | stored {value : Value} {entry : Entry} (carries : message value = some entry.event) :
      Fits message (some value) (.stored entry)

theorem fits_missed (message : Value → Option MessageEvent) (missed : Nat) :
    List.Forall₂ (Fits message) (List.replicate missed none) (List.replicate missed .missed) := by
  induction missed with
  | zero => exact .nil
  | succ missed inductionHypothesis => exact .cons .missed inductionHypothesis

/-- The task has settled what it took, but for what it has at hand. -/
structure Aligned (message : Value → Option MessageEvent) (taken : List (Option Value))
    (stage : Stage Value) (fates : List Fate) : Prop where
  settled : ∃ handled, taken = handled ++ stage.held ∧ List.Forall₂ (Fits message) handled fates
  carries : ∀ value event, stage = .inserting value event → message value = some event

theorem aligned_step (aligned : Aligned message state.receiver.taken state.stage state.fates)
    (moves : Moves message serialize state action next) :
    Aligned message next.receiver.taken next.stage next.fates := by
  obtain ⟨⟨handled, taken, fits⟩, carries⟩ := aligned
  cases moves with
  | publish | subscribe | unsubscribe | close | cleanup | abort =>
      exact ⟨⟨handled, taken, fits⟩, carries⟩
  | @take value event idle given carried =>
      rw [idle, held_receiving, List.append_nil] at taken
      refine ⟨⟨handled, ?_, fits⟩, ?_⟩
      · exact congrArg (· ++ [some value]) taken
      · rintro other message ⟨⟩
        exact carried
  | @passOver value idle given carried =>
      rw [idle, held_receiving, List.append_nil] at taken
      refine ⟨⟨handled ++ [some value], ?_, ?_⟩, carries⟩
      · simp [Subscription.take, taken, idle]
      · exact List.rel_append fits (.cons (.passedOver carried) .nil)
  | @miss missed idle given =>
      rw [idle, held_receiving, List.append_nil] at taken
      refine ⟨⟨handled ++ List.replicate missed none, ?_, ?_⟩, carries⟩
      · simp [Subscription.take, taken, idle]
      · exact List.rel_append fits (fits_missed message missed)
  | finish idle =>
      rw [idle] at taken
      exact ⟨⟨handled, taken, fits⟩, by simp⟩
  | @store value event held =>
      rw [held] at taken
      refine ⟨⟨handled ++ [some value], by simpa using taken, ?_⟩, by simp⟩
      exact List.rel_append fits (.cons (.stored (carries value event held)) .nil)
  | @fail value event held =>
      rw [held] at taken
      refine ⟨⟨handled ++ [some value], by simpa using taken, ?_⟩, by simp⟩
      exact List.rel_append fits (.cons (.failed (carries value event held)) .nil)
  | record done =>
      rw [done] at taken
      exact ⟨⟨handled, taken, fits⟩, by simp⟩

def entriesOf (fates : List Fate) : List Entry := fates.filterMap Fate.entry?

@[simp]
theorem entriesOf_append (fates more : List Fate) :
    entriesOf (fates ++ more) = entriesOf fates ++ entriesOf more := by
  simp [entriesOf]

@[simp]
theorem entriesOf_stored (entry : Entry) : entriesOf [.stored entry] = [entry] := rfl

@[simp]
theorem entriesOf_failed : entriesOf [.failed] = [] := rfl

@[simp]
theorem entriesOf_passedOver : entriesOf [.passedOver] = [] := rfl

@[simp]
theorem entriesOf_missed (missed : Nat) : entriesOf (List.replicate missed .missed) = [] := by
  unfold entriesOf
  rw [List.filterMap_replicate]
  rfl

/-- The rows that a store had at first, and those of the entries since. -/
def rowsOf (serialize : MessageEvent → Option String) (initial : MessageStore)
    (entries : List Entry) : List Row :=
  initial.rows ++ entries.map (Entry.toRow serialize)

theorem rowsOf_concat (serialize : MessageEvent → Option String) (initial : MessageStore)
    (entries : List Entry) (entry : Entry) :
    rowsOf serialize initial (entries ++ [entry]) =
      rowsOf serialize initial entries ++ [entry.toRow serialize] := by
  simp [rowsOf]

/-- The store holds what was ever stored in its order, but for what a cleanup found
expired. -/
structure Ledger (serialize : MessageEvent → Option String) (initial : MessageStore)
    (cleanups : List DateTime) (entries : List Entry) (store : MessageStore) : Prop where
  rows : store.rows.Sublist (rowsOf serialize initial entries)
  survivors : ∀ row ∈ rowsOf serialize initial entries,
    row ∈ store.rows ∨ ∃ now ∈ cleanups, initial.expired now row = true
  numbered : entries.map Entry.id = List.range' initial.nextId entries.length
  nextId : store.nextId = initial.nextId + entries.length
  maxDays : store.maxDays = initial.maxDays

section Ledger

variable {initial store : MessageStore} {cleanups : List DateTime} {entries : List Entry}

theorem ledger_start (initial : MessageStore) : Ledger serialize initial [] [] initial where
  rows := by simp [rowsOf]
  survivors := by simp [rowsOf]
  numbered := rfl
  nextId := rfl
  maxDays := rfl

theorem Ledger.insert (ledger : Ledger serialize initial cleanups entries store)
    (event : MessageEvent) :
    Ledger serialize initial cleanups (entries ++ [⟨store.nextId, event⟩])
      (store.insert serialize event) where
  rows := by
    rw [rowsOf_concat]
    exact ledger.rows.append (List.Sublist.refl _)
  survivors := by
    intro row stored
    rw [rowsOf_concat] at stored
    rcases List.mem_append.mp stored with earlier | new
    · exact (ledger.survivors row earlier).imp_left (List.mem_append_left _)
    · exact .inl (List.mem_append_right _ new)
  numbered := by
    rw [List.map_append, ledger.numbered, List.length_append, List.length_singleton,
      List.range'_concat, ledger.nextId]
    simp
  nextId := by simp [MessageStore.insert, ledger.nextId, Nat.add_assoc]
  maxDays := ledger.maxDays

theorem Ledger.cleanup (ledger : Ledger serialize initial cleanups entries store)
    (now : DateTime) :
    Ledger serialize initial (cleanups ++ [now]) entries (store.cleanup now).1 where
  rows := List.filter_sublist.trans ledger.rows
  survivors := by
    intro row stored
    rcases ledger.survivors row stored with kept | ⟨earlier, listed, expired⟩
    · cases expired : store.expired now row with
      | true =>
          refine .inr ⟨now, by simp, ?_⟩
          unfold MessageStore.expired at expired ⊢
          rwa [← ledger.maxDays]
      | false => exact .inl (List.mem_filter.mpr ⟨kept, by simp [expired]⟩)
    · exact .inr ⟨earlier, List.mem_append_left _ listed, expired⟩
  numbered := ledger.numbered
  nextId := ledger.nextId
  maxDays := ledger.maxDays

end Ledger

/-- The invariant of a task that subscribed at some place, and of its store. -/
structure Kept (message : Value → Option MessageEvent)
    (serialize : MessageEvent → Option String) (first : Nat) (initial : MessageStore)
    (state : Persistence Value) : Prop where
  since : state.receiver.since = first
  sound : state.bus.channel.Sound state.receiver
  subscribed : state.own ≤ state.bus.receivers
  aligned : Aligned message state.receiver.taken state.stage state.fates
  ledger : Ledger serialize initial state.cleanups (entriesOf state.fates) state.store
  counted : state.messagesStored + UInt64.ofNat state.stage.uncounted =
    UInt64.ofNat (entriesOf state.fates).length

variable {first : Nat} {initial : MessageStore}

theorem kept_spawn (bus : EventBus Value) (initial : MessageStore) :
    Kept message serialize bus.channel.sent.length initial (spawn bus initial) where
  since := rfl
  sound := Broadcast.sound_subscribe bus.channel
  subscribed := by simp [spawn, own, EventBus.subscribe]
  aligned := ⟨⟨[], rfl, .nil⟩, by simp [spawn]⟩
  ledger := ledger_start initial
  counted := rfl

theorem since_step (moves : Moves message serialize state action next) :
    next.receiver.since = state.receiver.since := by
  cases moves <;> rfl

theorem sound_step (sound : state.bus.channel.Sound state.receiver)
    (moves : Moves message serialize state action next) :
    next.bus.channel.Sound next.receiver := by
  cases moves with
  | publish value => exact EventBus.sound_publish sound value
  | take idle given | passOver idle given | miss idle given => exact sound.recv given
  | subscribe | unsubscribe | close | finish | store | fail | record | cleanup | abort =>
      exact sound

theorem subscribed_step (subscribed : state.own ≤ state.bus.receivers)
    (moves : Moves message serialize state action next) : next.own ≤ next.bus.receivers := by
  cases moves with
  | publish value =>
      simp only [EventBus.publish_receivers]
      exact subscribed
  | subscribe => exact Nat.le_succ_of_le subscribed
  | unsubscribe foreign => exact Nat.le_sub_one_of_lt foreign
  | abort alive => exact Nat.zero_le _
  | close | take | passOver | miss | finish | store | fail | record | cleanup => exact subscribed

theorem ledger_step
    (ledger : Ledger serialize initial state.cleanups (entriesOf state.fates) state.store)
    (moves : Moves message serialize state action next) :
    Ledger serialize initial next.cleanups (entriesOf next.fates) next.store := by
  cases moves with
  | passOver | miss | fail => simpa using ledger
  | @store value event held => simpa using ledger.insert event
  | cleanup now => exact ledger.cleanup now
  | publish | subscribe | unsubscribe | close | take | finish | record | abort => exact ledger

theorem counted_step
    (counted : state.messagesStored + UInt64.ofNat state.stage.uncounted =
      UInt64.ofNat (entriesOf state.fates).length)
    (moves : Moves message serialize state action next) :
    next.messagesStored + UInt64.ofNat next.stage.uncounted =
      UInt64.ofNat (entriesOf next.fates).length := by
  cases moves with
  | publish | subscribe | unsubscribe | close | cleanup | abort => exact counted
  | take idle | finish idle =>
      rw [idle] at counted
      exact counted
  | passOver idle | miss idle =>
      rw [idle] at counted
      simpa [idle] using counted
  | store held =>
      rw [held] at counted
      simp only [entriesOf_append, entriesOf_stored, List.length_append, List.length_singleton,
        UInt64.ofNat_add, ← counted]
      simp [Stage.uncounted]
  | fail held =>
      rw [held] at counted
      rw [entriesOf_append, entriesOf_failed, List.append_nil]
      exact counted
  | record done =>
      rw [done] at counted
      simpa [Stage.uncounted] using counted

theorem channel_moves (foreign : action.bySenders = false)
    (moves : Moves message serialize state action next) :
    next.bus.channel = state.bus.channel ∧ (next.aborted = false → state.aborted = false) := by
  cases moves with
  | publish | close => cases foreign
  | abort alive => exact ⟨rfl, fun _ => alive⟩
  | subscribe | unsubscribe | take | passOver | miss | finish | store | fail | record | cleanup =>
      exact ⟨rfl, id⟩

theorem kept_moves (kept : Kept message serialize first initial state)
    (moves : Moves message serialize state action next) :
    Kept message serialize first initial next where
  since := by rw [since_step moves, kept.since]
  sound := sound_step kept.sound moves
  subscribed := subscribed_step kept.subscribed moves
  aligned := aligned_step kept.aligned moves
  ledger := ledger_step kept.ledger moves
  counted := counted_step kept.counted moves

/-- What a fate says of the event at a place of the bus. -/
def Settled (message : Value → Option MessageEvent) (channel : Broadcast Value) (place : Nat) :
    Fate → Prop
  | .missed => place + channel.slots < channel.sent.length
  | .passedOver => ∃ value, channel.sent[place]? = some value ∧ message value = none
  | .failed => ∃ value event, channel.sent[place]? = some value ∧ message value = some event
  | .stored entry =>
      ∃ value, channel.sent[place]? = some value ∧ message value = some entry.event

structure Persisted (message : Value → Option MessageEvent)
    (serialize : MessageEvent → Option String) (first : Nat) (initial : MessageStore)
    (state : Persistence Value) : Prop where
  /-- Every event was settled by its place, and in one way. -/
  settled : ∀ place fate, state.fates[place]? = some fate →
    Settled message state.bus.channel (first + place) fate
  /-- Only what is on the bus is settled, and all of it when the task has to wait. -/
  behind : first + state.fates.length ≤ state.bus.channel.sent.length
  waiting : state.stage = .receiving → state.bus.channel.recv state.receiver = none →
    first + state.fates.length = state.bus.channel.sent.length
  /-- The stored messages are the rows of the store, but for what has expired. -/
  ledger : Ledger serialize initial state.cleanups (entriesOf state.fates) state.store
  /-- Each of them was counted once, but for the latest one until the task goes on: one
  whose insertion ends after an abort is never counted. -/
  counted : state.messagesStored + UInt64.ofNat state.stage.uncounted =
    UInt64.ofNat (entriesOf state.fates).length

theorem Fits.settled {item : Option Value} {fate : Fate} (fits : Fits message item fate)
    {channel : Broadcast Value} {place : Nat}
    (got : ∀ value, item = some value → channel.sent[place]? = some value)
    (missed : item = none → place + channel.slots < channel.sent.length) :
    Settled message channel place fate := by
  cases fits with
  | missed => exact missed rfl
  | @passedOver value carries => exact ⟨value, got value rfl, carries⟩
  | @failed value event carries => exact ⟨value, event, got value rfl, carries⟩
  | @stored value entry carries => exact ⟨value, got value rfl, carries⟩

theorem persisted_of_kept (kept : Kept message serialize first initial state) :
    Persisted message serialize first initial state := by
  obtain ⟨⟨handled, taken, fits⟩, -⟩ := kept.aligned
  have sameLength := fits.length_eq
  have next : state.receiver.next = first + state.fates.length + state.stage.held.length := by
    rw [Subscription.next, kept.since, taken, List.length_append, sameLength, Nat.add_assoc]
  have inside := kept.sound.inside
  refine ⟨?_, by omega, ?_, kept.ledger, kept.counted⟩
  · intro place fate found
    have bound := (List.getElem?_eq_some_iff.mp found).1
    have early : place < handled.length := by omega
    have here : state.receiver.taken[place]? = some handled[place] := by
      rw [taken, List.getElem?_append_left early, List.getElem?_eq_getElem early]
    have paired : Fits message handled[place] fate := by
      have related := fits.get early bound
      simpa [(List.getElem?_eq_some_iff.mp found).2] using related
    apply paired.settled
    · intro value same
      rw [← kept.since]
      exact kept.sound.faithful place value (same ▸ here)
    · intro same
      rw [← kept.since]
      exact kept.sound.overwritten place (same ▸ here)
  · intro idle waits
    rw [Broadcast.recv_eq_none_iff kept.sound, next, idle] at waits
    exact waits

end Persistence

end Ferroq.Gateway
