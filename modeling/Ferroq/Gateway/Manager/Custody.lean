import Ferroq.Gateway.Manager.AdapterManager

/-!
# The places of the adapters

Every adapter has one place: the call that adds it, the live map, or the call
that removes it.  A call of `reconnect_adapter` only borrows an adapter.  The
events of an adapter go through channels that were made for it alone.
-/

namespace Ferroq.Gateway

open Ferroq.Core
open Ferroq.Library

namespace AdapterObject

/-- The sender that a disconnect leaves in its place: the official adapter
drops its own. -/
def retainedEventTx (object : AdapterObject) : Option Nat :=
  match object.backend with
  | .lagrange lifecycle => lifecycle.inner.eventTx
  | .official _ => none

variable {object next : AdapterObject} {task : BackendTask}

theorem disconnect_eventTx : object.disconnect.eventTx = object.retainedEventTx := by
  rcases object with ⟨name, backendType, url, backend⟩
  cases backend <;> rfl

theorem beginConnect_eventTx (channel : Nat) :
    (object.beginConnect channel).eventTx = some channel := by
  rcases object with ⟨name, backendType, url, backend⟩
  cases backend <;> rfl

theorem background_eventTx (stepped : object.background task = some next) :
    next.eventTx = object.eventTx := by
  rcases object with ⟨name, backendType, url, backend⟩
  rcases background_cases stepped with ⟨lifecycle, action, after, rfl, rfl, ran, rfl⟩ |
    ⟨official, officialTask, after, rfl, rfl, ran, rfl⟩
  · exact Lagrange.Lifecycle.background_eventTx ran
  · exact Official.background_eventTx ran

end AdapterObject

namespace ManagerCall

def owned : ManagerCall → Option Nat
  | add _ (.connecting adapter _ _) => some adapter
  | add _ (.registered adapter _) => some adapter
  | remove _ (.taken adapter) => some adapter
  | remove _ (.disconnected adapter) => some adapter
  | remove _ (.finished adapter) => some adapter
  | _ => none

/-- The adapter that a call connects, and the channel it will forward. -/
def connecting : ManagerCall → Option (Nat × Nat)
  | add _ (.connecting adapter channel _) => some (adapter, channel)
  | add _ (.registered adapter channel) => some (adapter, channel)
  | reconnect _ (.connecting adapter channel _) => some (adapter, channel)
  | _ => none

theorem idle_of_failed {call : ManagerCall} (failed : call.failed = true) :
    call.owned = none ∧ call.connecting = none := by
  unfold ManagerCall.failed at failed
  split at failed <;> first | exact ⟨rfl, rfl⟩ | cases failed

end ManagerCall

namespace AdapterManager

/-- Where the adapters are: in the live map, or with a call. -/
def custody (state : AdapterManager) : Table (String ⊕ Nat) Nat :=
  .sum state.liveAdapters (.ofList ManagerCall.owned state.calls)

variable {state next : AdapterManager} {action : Managing}

theorem custody_congr (live : next.liveAdapters = state.liveAdapters)
    (owned : Table.ofList ManagerCall.owned next.calls =
      Table.ofList ManagerCall.owned state.calls) : next.custody = state.custody := by
  rw [custody, custody, live, owned]

theorem owned_begin {call : ManagerCall} (nothing : call.owned = none) :
    Table.ofList ManagerCall.owned (state.begin call).calls =
      Table.ofList ManagerCall.owned state.calls := Table.ofList_concat _ _ nothing

theorem owned_setCall {index : Nat} {old new : ManagerCall}
    (found : state.calls[index]? = some old) (same : new.owned = old.owned) :
    Table.ofList ManagerCall.owned (state.setCall index new).calls =
      Table.ofList ManagerCall.owned state.calls := by
  apply Table.ofList_modify_of_eq
  intro call position
  rw [found] at position
  cases position
  exact same

theorem custody_startAdd (name : String) (object : AdapterObject) :
    (state.startAdd name object).custody =
      state.custody.insert (.inr state.calls.length) state.objects.length := by
  have owned : Table.ofList ManagerCall.owned (state.startAdd name object).calls =
      (Table.ofList ManagerCall.owned state.calls).insert state.calls.length
        state.objects.length := Table.ofList_concat_insert _ _ rfl
  rw [custody, owned, Table.sum_insert_right]
  rfl

theorem custody_insertAdded {index : Nat} {name : String} {adapter channel : Nat}
    (found : state.calls[index]? = some (.add name (.registered adapter channel))) :
    (state.insertAdded index name adapter channel).custody =
      (state.custody.remove (.inr index)).insert (.inl name) adapter := by
  have owned : Table.ofList ManagerCall.owned
        (state.insertAdded index name adapter channel).calls =
      (Table.ofList ManagerCall.owned state.calls).remove index :=
    Table.ofList_modify_remove _ found rfl
  rw [custody, owned, liveAdapters_insertAdded, Table.sum_insert_left, Table.sum_remove_right]
  rfl

theorem custody_takeLive (name : String) (entry : LiveAdapter) :
    (state.takeLive name entry).custody =
      (state.custody.remove (.inl name)).insert (.inr state.calls.length) entry.adapter := by
  have owned : Table.ofList ManagerCall.owned (state.takeLive name entry).calls =
      (Table.ofList ManagerCall.owned state.calls).insert state.calls.length entry.adapter :=
    Table.ofList_concat_insert _ _ rfl
  rw [custody, owned, liveAdapters_takeLive, Table.sum_insert_right, Table.sum_remove_left]
  rfl

/-- Every adapter has one place, and every channel one adapter. -/
structure Owned (state : AdapterManager) : Prop where
  exclusive : state.custody.Exclusive
  made : ∀ {place : String ⊕ Nat} {adapter : Nat}, state.custody.get place = some adapter →
    adapter < state.objects.length
  calls : ∀ {index : Nat} {call : ManagerCall} {adapter channel : Nat},
    state.calls[index]? = some call → call.connecting = some (adapter, channel) →
      state.channels[channel]? = some adapter
  objects : ∀ {adapter : Nat} {object : AdapterObject} {channel : Nat},
    state.objects[adapter]? = some object → object.eventTx = some channel →
      state.channels[channel]? = some adapter

theorem get_custody_new (place : String ⊕ Nat) : new.custody.get place = none := by
  cases place <;> rfl

theorem new_owned : new.Owned where
  exclusive := by
    constructor
    intro first second adapter found
    rw [get_custody_new] at found
    cases found
  made := by
    intro place adapter found
    rw [get_custody_new] at found
    cases found
  calls found := by simp [new] at found
  objects found := by simp [new] at found

theorem custody_exclusive_steps (owned : state.Owned) (steps : Steps state action next) :
    next.custody.Exclusive ∧ ∀ {place : String ⊕ Nat} {adapter : Nat},
      next.custody.get place = some adapter → adapter < next.objects.length := by
  have keeps : state.KeepsNames next := keepsNames_steps steps
  have same : next.custody = state.custody →
      next.custody.Exclusive ∧ ∀ {place : String ⊕ Nat} {adapter : Nat},
        next.custody.get place = some adapter → adapter < next.objects.length := by
    intro equal
    rw [equal]
    exact ⟨owned.exclusive, fun found => keeps.inside (owned.made found)⟩
  cases steps with
  | rejected action call failed =>
      apply same
      exact custody_congr rfl (owned_begin (ManagerCall.idle_of_failed failed).1)
  | startedAdd absent created =>
      rw [custody_startAdd]
      refine ⟨owned.exclusive.insert _ ?_, ?_⟩
      · intro other found
        exact absurd (owned.made found) (Nat.lt_irrefl _)
      · intro place adapter found
        rcases (Table.get_insert_eq_some_iff _ _ _ _ _).mp found with ⟨_, rfl⟩ | ⟨_, before⟩
        · simp [startAdd]
        · exact keeps.inside (owned.made before)
  | insertedAdded found =>
      have held : state.custody.get (.inr _) = some _ :=
        Option.bind_eq_some_iff.mpr ⟨_, found, rfl⟩
      rw [custody_insertAdded found]
      refine ⟨owned.exclusive.move _ held, ?_⟩
      intro place adapter position
      rcases (Table.get_insert_eq_some_iff _ _ _ _ _).mp position with ⟨_, rfl⟩ | ⟨_, before⟩
      · exact keeps.inside (owned.made held)
      · exact keeps.inside (owned.made ((Table.get_remove_eq_some_iff _ _ _ _).mp before).2)
  | tookLive found =>
      have held : state.custody.get (.inl _) = some _ := liveAdapters_eq_some found
      rw [custody_takeLive]
      refine ⟨owned.exclusive.move _ held, ?_⟩
      intro place adapter position
      rcases (Table.get_insert_eq_some_iff _ _ _ _ _).mp position with ⟨_, rfl⟩ | ⟨_, before⟩
      · exact keeps.inside (owned.made held)
      · exact keeps.inside (owned.made ((Table.get_remove_eq_some_iff _ _ _ _).mp before).2)
  | registeredAdded found _ | unregisteredTaken found =>
      exact same (custody_congr rfl (owned_setCall found rfl))
  | disconnectedRemoved found | disconnectedHeld found | startedConnect found _ =>
      exact same (custody_congr rfl (owned_setCall found rfl))
  | lookedUp found => exact same (custody_congr rfl (owned_begin rfl))
  | storedForwarder found _ =>
      exact same (custody_congr (liveAdapters_storeForwarder _ _ _) (owned_setCall found rfl))
  | ran | receivedEvent | publishedEvent | suspended => exact same (custody_congr rfl rfl)

theorem channels_steps (steps : Steps state action next) {channel adapter : Nat}
    (found : state.channels[channel]? = some adapter) :
    next.channels[channel]? = some adapter := by
  have inside := (List.getElem?_eq_some_iff.mp found).1
  cases steps with
  | startedAdd | startedConnect =>
      exact (List.getElem?_append_left inside).trans found
  | rejected | registeredAdded | insertedAdded | tookLive | disconnectedRemoved
  | unregisteredTaken | lookedUp | disconnectedHeld | storedForwarder | ran | receivedEvent
  | publishedEvent | suspended => exact found

theorem calls_owned_steps (owned : state.Owned) (steps : Steps state action next)
    {index : Nat} {call : ManagerCall} {adapter channel : Nat}
    (found : next.calls[index]? = some call)
    (connects : call.connecting = some (adapter, channel)) :
    next.channels[channel]? = some adapter := by
  have earlier : state.calls[index]? = some call → next.channels[channel]? = some adapter :=
    fun before => channels_steps steps (owned.calls before connects)
  cases steps with
  | rejected action call failed =>
      rcases eq_or_found_of_concat found with rfl | before
      · rw [(ManagerCall.idle_of_failed failed).2] at connects
        cases connects
      · exact earlier before
  | startedAdd =>
      rcases eq_or_found_of_concat found with rfl | before
      · cases connects
        exact List.getElem?_concat_length
      · exact earlier before
  | startedConnect =>
      rcases eq_or_found_of_modify found with rfl | before
      · cases connects
        exact List.getElem?_concat_length
      · exact earlier before
  | registeredAdded going _ =>
      rcases eq_or_found_of_modify found with rfl | before
      · cases connects
        exact owned.calls going rfl
      · exact earlier before
  | tookLive | lookedUp =>
      rcases eq_or_found_of_concat found with rfl | before
      · cases connects
      · exact earlier before
  | insertedAdded | disconnectedRemoved | unregisteredTaken | disconnectedHeld
  | storedForwarder =>
      rcases eq_or_found_of_modify found with rfl | before
      · cases connects
      · exact earlier before
  | ran | receivedEvent | publishedEvent | suspended => exact earlier found

theorem eq_or_found_of_modifyObject {change : AdapterObject → AdapterObject}
    {adapter other : Nat} {object : AdapterObject}
    (found : (state.objects.modify adapter change)[other]? = some object) :
    (adapter = other ∧ ∃ before, state.objects[adapter]? = some before ∧ object = change before) ∨
      (adapter ≠ other ∧ state.objects[other]? = some object) := by
  rw [List.getElem?_modify] at found
  obtain ⟨before, position, rfl⟩ := Option.map_eq_some_iff.mp found
  split
  next same =>
    subst same
    exact .inl ⟨rfl, before, position, rfl⟩
  next different => exact .inr ⟨different, position⟩

theorem retainedEventTx_le {object : AdapterObject} {channel : Nat}
    (kept : object.retainedEventTx = some channel) : object.eventTx = some channel := by
  rcases object with ⟨name, backendType, url, backend⟩
  cases backend with
  | lagrange lifecycle => exact kept
  | official official => cases kept

theorem objects_owned_steps (owned : state.Owned) (steps : Steps state action next)
    {adapter channel : Nat} {object : AdapterObject}
    (found : next.objects[adapter]? = some object) (sends : object.eventTx = some channel) :
    next.channels[channel]? = some adapter := by
  have earlier : ∀ before, state.objects[adapter]? = some before →
      before.eventTx = some channel → next.channels[channel]? = some adapter :=
    fun before held same => channels_steps steps (owned.objects held same)
  cases steps with
  | rejected | registeredAdded | insertedAdded | tookLive | unregisteredTaken | lookedUp
  | storedForwarder | receivedEvent | publishedEvent | suspended => exact earlier object found sends
  | @startedAdd name config clientError made absent created =>
      simp only [startAdd, List.getElem?_append] at found
      split at found
      next => exact earlier object found sends
      next outside =>
        obtain ⟨last, rfl⟩ := Lagrange.Lifecycle.eq_of_getElem?_singleton found
        rw [AdapterObject.beginConnect_eventTx] at sends
        cases sends
        have same : adapter = state.objects.length := by omega
        subst same
        exact List.getElem?_concat_length
  | disconnectedRemoved | disconnectedHeld =>
      rcases eq_or_found_of_modifyObject found with ⟨rfl, before, held, rfl⟩ | ⟨_, held⟩
      · rw [AdapterObject.disconnect_eventTx] at sends
        exact earlier before held (retainedEventTx_le sends)
      · exact earlier object held sends
  | startedConnect =>
      rcases eq_or_found_of_modifyObject found with ⟨rfl, before, held, rfl⟩ | ⟨_, held⟩
      · rw [AdapterObject.beginConnect_eventTx] at sends
        cases sends
        exact List.getElem?_concat_length
      · exact earlier object held sends
  | ran held stepped =>
      rcases eq_or_found_of_modifyObject found with ⟨rfl, before, there, rfl⟩ | ⟨_, there⟩
      · rw [AdapterObject.background_eventTx stepped] at sends
        exact earlier _ held sends
      · exact earlier object there sends

theorem owned_steps (owned : state.Owned) (steps : Steps state action next) : next.Owned :=
  { exclusive := (custody_exclusive_steps owned steps).1
    made := (custody_exclusive_steps owned steps).2
    calls := calls_owned_steps owned steps
    objects := objects_owned_steps owned steps }

end AdapterManager

end Ferroq.Gateway
