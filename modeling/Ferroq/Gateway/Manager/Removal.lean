import Ferroq.Gateway.Manager.Custody

/-!
# Removed adapters

A call of `reconnect_adapter` may still hold an adapter when a removal has taken
it.  A removal leaves the adapter silent for good when nothing is on its way, at
its disconnect, that would connect the adapter again, and no task is left at its
return that forwards events of the adapter.
-/

namespace Ferroq.Gateway

open Ferroq.Core
open Ferroq.Library
open Ferroq.Gateway.Lagrange (Lifecycle Background)

namespace AdapterObject

/-- Every call of `connect` has returned, and a disconnect stops what is left
of the monitors. -/
def Stoppable (object : AdapterObject) : Prop :=
  match object.backend with
  | .lagrange lifecycle => lifecycle.Stoppable
  | .official official => ∀ phase ∈ official.connects, phase = .connected

instance (object : AdapterObject) : Decidable object.Stoppable :=
  match object with
  | ⟨_, _, _, .lagrange lifecycle⟩ => inferInstanceAs (Decidable lifecycle.Stoppable)
  | ⟨_, _, _, .official official⟩ =>
      inferInstanceAs (Decidable (∀ phase ∈ official.connects, phase = .connected))

def Stopped (object : AdapterObject) : Prop :=
  match object.backend with
  | .lagrange lifecycle => lifecycle.Stopped
  | .official official => official.Stopped

variable {object next : AdapterObject} {task : BackendTask}

theorem Stoppable.disconnect (stoppable : object.Stoppable) : object.disconnect.Stopped := by
  rcases object with ⟨name, backendType, url, backend⟩
  cases backend with
  | lagrange lifecycle => exact Lagrange.Lifecycle.Stoppable.disconnect stoppable
  | official official => exact Official.disconnect_stopped stoppable

theorem Stopped.unconnected (stopped : object.Stopped) : object.state ≠ .connected := by
  rcases object with ⟨name, backendType, url, backend⟩
  cases backend with
  | lagrange lifecycle => exact Lagrange.Lifecycle.Stopped.unconnected stopped
  | official official => exact Official.Stopped.unconnected stopped

theorem Stopped.background (stopped : object.Stopped)
    (stepped : object.background task = some next) : next.Stopped := by
  rcases object with ⟨name, backendType, url, backend⟩
  rcases background_cases stepped with ⟨lifecycle, action, after, rfl, rfl, ran, rfl⟩ |
    ⟨official, officialTask, after, rfl, rfl, ran, rfl⟩
  · exact Lagrange.Lifecycle.Stopped.background stopped ran
  · exact absurd ran (Official.Stopped.background stopped)

end AdapterObject

namespace ManagerCall

def removed : ManagerCall → Option Nat
  | remove _ (.disconnected adapter) => some adapter
  | remove _ (.finished adapter) => some adapter
  | _ => none

def returnedRemoval : ManagerCall → Option Nat
  | remove _ (.finished adapter) => some adapter
  | _ => none

/-- The adapter that a call has still to connect or to forward the events of. -/
def holds : ManagerCall → Option Nat
  | add _ (.connecting adapter _ _) => some adapter
  | add _ (.registered adapter _) => some adapter
  | reconnect _ (.lookedUp adapter) => some adapter
  | reconnect _ (.disconnected adapter) => some adapter
  | reconnect _ (.connecting adapter _ _) => some adapter
  | _ => none

theorem owned_of_removed {call : ManagerCall} {adapter : Nat}
    (removed : call.removed = some adapter) : call.owned = some adapter := by
  unfold ManagerCall.removed at removed
  split at removed <;> first | exact removed | cases removed

theorem removed_of_returned {call : ManagerCall} {adapter : Nat}
    (returned : call.returnedRemoval = some adapter) : call.removed = some adapter := by
  unfold ManagerCall.returnedRemoval at returned
  split at returned <;> first | exact returned | cases returned

theorem holds_of_failed {call : ManagerCall} (failed : call.failed = true) :
    call.holds = none := by
  unfold ManagerCall.failed at failed
  split at failed <;> first | rfl | cases failed

end ManagerCall

theorem Forwarder.stopped_abort {forwarder : Forwarder} (stopped : forwarder.stopped = true) :
    { forwarder with aborted := true }.stopped = true := by
  simp only [Forwarder.stopped, Bool.or_eq_true, Bool.and_eq_true] at stopped ⊢
  rcases stopped with ended | ⟨-, waiting⟩
  · exact .inl ended
  · exact .inr ⟨trivial, waiting⟩

namespace AdapterManager

/-- A task that forwards the events of some channel of an adapter. -/
def FedBy (state : AdapterManager) (adapter : Nat) (forwarder : Forwarder) : Prop :=
  state.channels[forwarder.channel]? = some adapter

instance (state : AdapterManager) (adapter : Nat) (forwarder : Forwarder) :
    Decidable (state.FedBy adapter forwarder) := inferInstanceAs (Decidable (_ = _))

/-- No task that forwards events of an adapter takes a further step. -/
def Unheard (state : AdapterManager) (adapter : Nat) : Prop :=
  ∀ forwarder ∈ state.forwarders, state.FedBy adapter forwarder → forwarder.stopped = true

instance (state : AdapterManager) (adapter : Nat) : Decidable (state.Unheard adapter) :=
  inferInstanceAs (Decidable (∀ forwarder ∈ state.forwarders, _))

/-- Nothing is on its way that would connect an adapter after its disconnect. -/
def Clean (state : AdapterManager) (adapter : Nat) : Prop :=
  (∀ call ∈ state.calls, call.holds ≠ some adapter) ∧
    ∀ object ∈ state.objects[adapter]?, object.Stoppable

instance (state : AdapterManager) (adapter : Nat) : Decidable (state.Clean adapter) :=
  inferInstanceAs (Decidable (_ ∧ ∀ object ∈ state.objects[adapter]?, _))

/-- A removal disconnects its adapter only when that is clean, and returns only
when the adapter is unheard. -/
def CleanRemoval (state : AdapterManager) : Managing → Prop
  | .disconnectRemoved index =>
      ∀ call ∈ state.calls[index]?, ∀ adapter ∈ call.owned, state.Clean adapter
  | .unregister index =>
      ∀ call ∈ state.calls[index]?, ∀ adapter ∈ call.owned, state.Unheard adapter
  | _ => True

instance (state : AdapterManager) : (action : Managing) → Decidable (state.CleanRemoval action)
  | .disconnectRemoved _ | .unregister _ =>
      inferInstanceAs (Decidable (∀ call ∈ state.calls[_]?, _))
  | .addAdapter _ _ _ | .register _ | .insert _ | .removeAdapter _ | .reconnectAdapter _
  | .disconnectHeld _ | .connectHeld _ | .finishReconnect _ | .background _ _ | .forward _
  | .suspend _ =>
      inferInstanceAs (Decidable True)

/-- An adapter is not connected, and its events are not published. -/
def Silent (state : AdapterManager) (adapter : Nat) : Prop :=
  (∀ object ∈ state.objects[adapter]?, object.state ≠ .connected) ∧ state.Unheard adapter

/-- Every adapter whose removal has returned is silent. -/
def RemovedSilent (state : AdapterManager) : Prop :=
  ∀ call ∈ state.calls, ∀ adapter ∈ call.returnedRemoval, state.Silent adapter

variable {state next : AdapterManager} {action : Managing}

theorem Owned.sole_call (owned : state.Owned) {index other : Nat} {call found : ManagerCall}
    {adapter : Nat} (position : state.calls[index]? = some call)
    (removed : call.removed = some adapter) (elsewhere : state.calls[other]? = some found)
    (owns : found.owned = some adapter) : found.removed = some adapter := by
  have home : state.custody.get (.inr index) = some adapter :=
    Option.bind_eq_some_iff.mpr ⟨call, position, ManagerCall.owned_of_removed removed⟩
  have place : state.custody.get (.inr other) = some adapter :=
    Option.bind_eq_some_iff.mpr ⟨found, elsewhere, owns⟩
  cases owned.exclusive.unique home place
  rw [position] at elsewhere
  cases elsewhere
  exact removed

theorem Owned.not_live (owned : state.Owned) {index : Nat} {call : ManagerCall} {adapter : Nat}
    (position : state.calls[index]? = some call) (removed : call.removed = some adapter)
    {name : String} {entry : LiveAdapter} (found : state.live.get name = some entry) :
    entry.adapter ≠ adapter := by
  intro same
  have home : state.custody.get (.inr index) = some adapter :=
    Option.bind_eq_some_iff.mpr ⟨call, position, ManagerCall.owned_of_removed removed⟩
  have place : state.custody.get (.inl name) = some adapter := by
    rw [← same]
    exact liveAdapters_eq_some found
  cases owned.exclusive.unique home place

/-! ## Unheard adapters -/

section Forwarding

variable {adapter : Nat} (unheard : state.Unheard adapter)
include unheard

theorem Unheard.withChannel {other : Nat} (different : other ≠ adapter) :
    { state with channels := state.channels ++ [other] }.Unheard adapter := by
  intro forwarder member fed
  simp only [FedBy, List.getElem?_append] at fed
  split at fed
  next => exact unheard forwarder member fed
  next => exact absurd (Lagrange.Lifecycle.eq_of_getElem?_singleton fed).2.symm different

theorem Unheard.withForwarder {index : Nat} {after : Forwarder}
    (kept : state.FedBy adapter after → after.stopped = true) :
    { state with forwarders := state.forwarders.set index after }.Unheard adapter := by
  intro forwarder member fed
  rcases List.mem_or_eq_of_mem_set member with before | rfl
  · exact unheard forwarder before fed
  · exact kept fed

theorem Unheard.abortForwarder (handle : Nat) :
    (state.abortForwarder handle).Unheard adapter := by
  intro forwarder member fed
  obtain ⟨index, position⟩ := List.mem_iff_getElem?.mp member
  simp only [AdapterManager.abortForwarder, List.getElem?_modify] at position
  obtain ⟨before, held, rfl⟩ := Option.map_eq_some_iff.mp position
  have there : before ∈ state.forwarders := List.mem_of_getElem? held
  split
  next same =>
    rw [if_pos same] at fed
    exact Forwarder.stopped_abort (unheard before there fed)
  next different =>
    rw [if_neg different] at fed
    exact unheard before there fed

theorem Unheard.spawnForwarder {channel : Nat} (apart : state.channels[channel]? ≠ some adapter) :
    (state.spawnForwarder channel).Unheard adapter := by
  intro forwarder member fed
  rcases List.mem_append.mp member with before | new
  · exact unheard forwarder before fed
  · cases List.mem_singleton.mp new
    exact absurd fed apart

end Forwarding

/-! ## Quiet adapters -/

/-- Nothing is left that would connect an adapter or spawn a task for its
events. -/
structure Quiet (state : AdapterManager) (adapter : Nat) : Prop where
  stopped : ∀ {object : AdapterObject}, state.objects[adapter]? = some object → object.Stopped
  idle : ∀ {index : Nat} {call : ManagerCall}, state.calls[index]? = some call →
    call.holds ≠ some adapter

section Operations

variable {adapter : Nat} (quiet : state.Quiet adapter)
include quiet

theorem Quiet.begin {call : ManagerCall} (spared : call.holds ≠ some adapter) :
    (state.begin call).Quiet adapter where
  stopped := quiet.stopped
  idle := by
    intro index found position
    rcases eq_or_found_of_concat position with rfl | before
    · exact spared
    · exact quiet.idle before

theorem Quiet.setCall {index : Nat} {call : ManagerCall} (spared : call.holds ≠ some adapter) :
    (state.setCall index call).Quiet adapter where
  stopped := quiet.stopped
  idle := by
    intro place found position
    rcases eq_or_found_of_modify position with rfl | before
    · exact spared
    · exact quiet.idle before

theorem Quiet.modifyObject {other : Nat} {change : AdapterObject → AdapterObject}
    (different : other ≠ adapter) : (state.modifyObject other change).Quiet adapter where
  stopped := by
    intro object held
    rcases eq_or_found_of_modifyObject held with ⟨same, _⟩ | ⟨_, before⟩
    · exact absurd same different
    · exact quiet.stopped before
  idle := quiet.idle

theorem Quiet.ranTask {other : Nat} {task : BackendTask} {object after : AdapterObject}
    (held : state.objects[other]? = some object)
    (stepped : object.background task = some after) :
    (state.ranTask other object after task).Quiet adapter where
  stopped := by
    intro found position
    rcases eq_or_found_of_modifyObject position with ⟨rfl, _, _, rfl⟩ | ⟨_, before⟩
    · exact (quiet.stopped held).background stepped
    · exact quiet.stopped before
  idle := quiet.idle

theorem Quiet.startAdd {name : String} {object : AdapterObject}
    (made : adapter < state.objects.length) : (state.startAdd name object).Quiet adapter where
  stopped := by
    intro found held
    rw [AdapterManager.startAdd, List.getElem?_append_left made] at held
    exact quiet.stopped held
  idle := by
    intro index call position
    rcases eq_or_found_of_concat position with rfl | before
    · simpa [ManagerCall.holds] using Nat.ne_of_gt made
    · exact quiet.idle before

end Operations

theorem Owned.apart (owned : state.Owned) {adapter index holder channel : Nat}
    {call : ManagerCall} (different : holder ≠ adapter) (found : state.calls[index]? = some call)
    (connects : call.connecting = some (holder, channel)) :
    state.channels[channel]? ≠ some adapter := by
  rw [owned.calls found connects]
  simpa using different

/-- Whatever happens after its disconnect, a quiet adapter stays quiet. -/
theorem quiet_steps (owned : state.Owned) (steps : Steps state action next)
    {index : Nat} {call : ManagerCall} {adapter : Nat}
    (position : state.calls[index]? = some call) (removed : call.removed = some adapter)
    (quiet : state.Quiet adapter) : next.Quiet adapter := by
  cases steps with
  | rejected action begun failed =>
      apply quiet.begin
      simp [ManagerCall.holds_of_failed failed]
  | startedAdd =>
      have home : state.custody.get (.inr index) = some adapter :=
        Option.bind_eq_some_iff.mpr ⟨call, position, ManagerCall.owned_of_removed removed⟩
      exact quiet.startAdd (owned.made home)
  | @registeredAdded place name holder channel connect going _ =>
      have different : holder ≠ adapter := by
        rintro rfl
        exact quiet.idle going rfl
      have registered : (state.setCall place (.add name (.registered holder channel))).Quiet
          adapter := quiet.setCall (by simpa [ManagerCall.holds] using different)
      exact ⟨registered.stopped, registered.idle⟩
  | @insertedAdded place name holder channel going =>
      have finished : (state.setCall place (.add name .finished)).Quiet adapter :=
        quiet.setCall (by simp [ManagerCall.holds])
      exact ⟨finished.stopped, finished.idle⟩
  | @tookLive name entry found =>
      have begun : (state.begin (.remove name (.taken entry.adapter))).Quiet adapter :=
        quiet.begin (by simp [ManagerCall.holds])
      exact ⟨begun.stopped, begun.idle⟩
  | @disconnectedRemoved place name holder going =>
      have different : holder ≠ adapter := by
        rintro rfl
        cases owned.sole_call position removed going rfl
      exact (quiet.modifyObject different).setCall (by simp [ManagerCall.holds])
  | @unregisteredTaken place name holder going =>
      have finished : (state.setCall place (.remove name (.finished holder))).Quiet adapter :=
        quiet.setCall (by simp [ManagerCall.holds])
      exact ⟨finished.stopped, finished.idle⟩
  | @lookedUp name entry found =>
      have different := owned.not_live position removed found
      have begun : (state.begin (.reconnect name (.lookedUp entry.adapter))).Quiet adapter :=
        quiet.begin (by simpa [ManagerCall.holds] using different)
      exact ⟨begun.stopped, begun.idle⟩
  | @disconnectedHeld place name holder going =>
      have different : holder ≠ adapter := by
        rintro rfl
        exact quiet.idle going rfl
      apply (quiet.modifyObject different).setCall
      simpa [ManagerCall.holds] using different
  | @startedConnect place name holder object going held =>
      have different : holder ≠ adapter := by
        rintro rfl
        exact quiet.idle going rfl
      have connecting : ((state.modifyObject holder fun object =>
          object.beginConnect state.channels.length).setCall place
            (.reconnect name (.connecting holder state.channels.length object.connects))).Quiet
              adapter := by
        apply (quiet.modifyObject different).setCall
        simpa [ManagerCall.holds] using different
      exact ⟨connecting.stopped, connecting.idle⟩
  | @storedForwarder place name holder channel connect going _ =>
      have finished : (state.setCall place (.reconnect name .finished)).Quiet adapter :=
        quiet.setCall (by simp [ManagerCall.holds])
      exact ⟨finished.stopped, finished.idle⟩
  | ran held stepped => exact quiet.ranTask held stepped
  | receivedEvent | publishedEvent | suspended => exact ⟨quiet.stopped, quiet.idle⟩

/-- No task is spawned for the events of a quiet adapter, and a stopped one does
not go on. -/
theorem unheard_steps (owned : state.Owned) (steps : Steps state action next)
    {index : Nat} {call : ManagerCall} {adapter : Nat}
    (position : state.calls[index]? = some call) (removed : call.removed = some adapter)
    (quiet : state.Quiet adapter) (unheard : state.Unheard adapter) : next.Unheard adapter := by
  cases steps with
  | rejected | registeredAdded | disconnectedRemoved | unregisteredTaken | disconnectedHeld
  | ran => exact unheard
  | startedAdd =>
      have home : state.custody.get (.inr index) = some adapter :=
        Option.bind_eq_some_iff.mpr ⟨call, position, ManagerCall.owned_of_removed removed⟩
      exact unheard.withChannel (Nat.ne_of_gt (owned.made home))
  | @insertedAdded place name holder channel going =>
      have different : holder ≠ adapter := by
        rintro rfl
        exact quiet.idle going rfl
      exact unheard.spawnForwarder (owned.apart different going rfl)
  | tookLive | lookedUp => exact unheard.abortForwarder _
  | @startedConnect place name holder object going held =>
      apply unheard.withChannel
      rintro rfl
      exact quiet.idle going rfl
  | @storedForwarder place name holder channel connect going _ =>
      have different : holder ≠ adapter := by
        rintro rfl
        exact quiet.idle going rfl
      exact unheard.spawnForwarder (owned.apart different going rfl)
  | @receivedEvent place forwarder found running =>
      apply unheard.withForwarder
      intro fed
      rw [unheard forwarder (List.mem_of_getElem? found) fed] at running
      cases running
  | @publishedEvent place forwarder found holding =>
      apply unheard.withForwarder
      intro fed
      have stopped := unheard forwarder (List.mem_of_getElem? found) fed
      simp [Forwarder.stopped, holding] at stopped
  | @suspended place forwarder found polling =>
      apply unheard.withForwarder
      intro fed
      have stopped := unheard forwarder (List.mem_of_getElem? found) fed
      simp [Forwarder.stopped, polling] at stopped

theorem Clean.quiet {adapter index : Nat} {name : String} (clean : state.Clean adapter) :
    ((state.modifyObject adapter AdapterObject.disconnect).setCall index
      (.remove name (.disconnected adapter))).Quiet adapter := by
  obtain ⟨idle, objects⟩ := clean
  constructor
  · intro object found
    rcases eq_or_found_of_modifyObject found with ⟨_, before, held, rfl⟩ | ⟨different, _⟩
    · exact (objects before held).disconnect
    · exact absurd rfl different
  · intro place call found
    rcases eq_or_found_of_modify found with rfl | before
    · simp [ManagerCall.holds]
    · exact idle call (List.mem_of_getElem? before)

/-- The custody of the adapters, that the disconnected ones are quiet, and that
those whose removal has returned are unheard. -/
structure Settled (state : AdapterManager) : Prop where
  owned : state.Owned
  quiet : ∀ {index : Nat} {call : ManagerCall} {adapter : Nat},
    state.calls[index]? = some call → call.removed = some adapter → state.Quiet adapter
  unheard : ∀ {index : Nat} {call : ManagerCall} {adapter : Nat},
    state.calls[index]? = some call → call.returnedRemoval = some adapter → state.Unheard adapter

theorem quiet_settled_step (settled : state.Settled) (clean : state.CleanRemoval action)
    (steps : Steps state action next) {index : Nat} {call : ManagerCall} {adapter : Nat}
    (found : next.calls[index]? = some call) (removed : call.removed = some adapter) :
    next.Quiet adapter := by
  have earlier : ∀ {before : ManagerCall}, state.calls[index]? = some before →
      before.removed = some adapter → next.Quiet adapter :=
    fun position same => quiet_steps settled.owned steps position same (settled.quiet position same)
  cases steps with
  | rejected action begun failed =>
      rcases eq_or_found_of_concat found with rfl | before
      · have owns := ManagerCall.owned_of_removed removed
        rw [(ManagerCall.idle_of_failed failed).1] at owns
        cases owns
      · exact earlier before removed
  | startedAdd | tookLive | lookedUp =>
      rcases eq_or_found_of_concat found with rfl | before
      · cases removed
      · exact earlier before removed
  | registeredAdded | insertedAdded | disconnectedHeld | startedConnect | storedForwarder =>
      rcases eq_or_found_of_modify found with rfl | before
      · cases removed
      · exact earlier before removed
  | disconnectedRemoved going =>
      rcases eq_or_found_of_modify found with rfl | before
      · cases removed
        exact (clean _ going _ rfl).quiet
      · exact earlier before removed
  | unregisteredTaken going =>
      rcases eq_or_found_of_modify found with rfl | before
      · cases removed
        exact quiet_steps settled.owned (.unregisteredTaken going) going rfl
          (settled.quiet going rfl)
      · exact earlier before removed
  | ran | receivedEvent | publishedEvent | suspended => exact earlier found removed

theorem unheard_settled_step (settled : state.Settled) (clean : state.CleanRemoval action)
    (steps : Steps state action next) {index : Nat} {call : ManagerCall} {adapter : Nat}
    (found : next.calls[index]? = some call) (returned : call.returnedRemoval = some adapter) :
    next.Unheard adapter := by
  have earlier : ∀ {before : ManagerCall}, state.calls[index]? = some before →
      before.returnedRemoval = some adapter → next.Unheard adapter := by
    intro before position same
    have removed := ManagerCall.removed_of_returned same
    exact unheard_steps settled.owned steps position removed (settled.quiet position removed)
      (settled.unheard position same)
  cases steps with
  | rejected action begun failed =>
      rcases eq_or_found_of_concat found with rfl | before
      · have owns := ManagerCall.owned_of_removed (ManagerCall.removed_of_returned returned)
        rw [(ManagerCall.idle_of_failed failed).1] at owns
        cases owns
      · exact earlier before returned
  | startedAdd | tookLive | lookedUp =>
      rcases eq_or_found_of_concat found with rfl | before
      · cases returned
      · exact earlier before returned
  | registeredAdded | insertedAdded | disconnectedRemoved | disconnectedHeld | startedConnect
  | storedForwarder =>
      rcases eq_or_found_of_modify found with rfl | before
      · cases returned
      · exact earlier before returned
  | unregisteredTaken going =>
      rcases eq_or_found_of_modify found with rfl | before
      · cases returned
        exact clean _ going _ rfl
      · exact earlier before returned
  | ran | receivedEvent | publishedEvent | suspended => exact earlier found returned

theorem settled_step (settled : state.Settled) (clean : state.CleanRemoval action)
    (stepped : state.step action = some next) : next.Settled :=
  { owned := owned_steps settled.owned (steps_of_step stepped)
    quiet := quiet_settled_step settled clean (steps_of_step stepped)
    unheard := unheard_settled_step settled clean (steps_of_step stepped) }

/-- In every run in which removals are clean, every removed adapter is silent
from the return of its removal on. -/
theorem removedSilent_throughout (actions : List Managing)
    (clean : machine.Admits CleanRemoval new actions) :
    machine.Throughout RemovedSilent new actions := by
  have start : new.Settled :=
    { owned := new_owned
      quiet := fun found => by simp [new] at found
      unheard := fun found => by simp [new] at found }
  refine machine.throughout_of_admits ?_ ?_ start clean
  · intro state action next settled allowed stepped
    exact settled_step settled allowed stepped
  · intro state settled call member adapter returned
    obtain ⟨index, position⟩ := List.mem_iff_getElem?.mp member
    have quiet := settled.quiet position (ManagerCall.removed_of_returned returned)
    exact ⟨fun object held => (quiet.stopped held).unconnected, settled.unheard position returned⟩

def connected : List Managing :=
  [.addAdapter "bot" ⟨"lagrange", "ws://localhost"⟩ none,
    .background 0 (.lagrange (.connectSpawns 0)), .background 0 (.lagrange (.connectInstalls 0)),
    .register 0, .insert 0]

/-- A removal runs from its beginning to its end while a reconnect holds the
adapter. -/
def removedInside : List Managing :=
  connected ++
    [.reconnectAdapter "bot", .removeAdapter "bot", .disconnectRemoved 2, .unregister 2,
      .disconnectHeld 1, .connectHeld 1,
      .background 0 (.lagrange (.connectSpawns 1)), .background 0 (.lagrange (.connectInstalls 1)),
      .finishReconnect 1]

/-- The removed adapter is connected, and a task forwards its events. -/
theorem removedInside_connected :
    ∃ state object, machine.run new removedInside = some state ∧
      (∀ call ∈ state.calls, call.returned = true) ∧
      state.calls[2]? = some (.remove "bot" (.finished 0)) ∧
      state.live.contains "bot" = false ∧
      state.objects[0]? = some object ∧ object.state = .connected ∧
      (∃ forwarder ∈ state.forwarders, object.eventTx = some forwarder.channel ∧
        forwarder.aborted = false) ∧
      ¬ state.RemovedSilent := by
  refine ⟨_, _, rfl, by decide, rfl, rfl, rfl, rfl, ⟨⟨1, false, .waiting⟩, ?_, rfl, rfl⟩, ?_⟩
  · exact List.mem_cons_of_mem _ (List.mem_singleton.mpr rfl)
  · intro silent
    have unconnected := (silent (.remove "bot" (.finished 0))
      (List.mem_of_getElem? (i := 2) rfl) 0 rfl).1
    exact unconnected _ rfl rfl

/-- The forwarder of an adapter, aborted with an event in hand, publishes it and
takes the next one before it ends; a reconnect ends before the removal begins, and
another one comes late. -/
def removedAfter : List Managing :=
  connected ++
    [.background 0 (.lagrange (.readerEvent 0 1)), .background 0 (.lagrange (.readerEvent 0 1)),
      .forward 0, .reconnectAdapter "bot", .forward 0, .forward 0, .disconnectHeld 1,
      .connectHeld 1, .background 0 (.lagrange (.connectSpawns 1)),
      .background 0 (.lagrange (.connectInstalls 1)), .finishReconnect 1,
      .background 0 (.lagrange (.readerEvent 1 1)), .forward 1, .removeAdapter "bot",
      .reconnectAdapter "bot", .disconnectRemoved 2, .forward 0, .forward 1, .forward 0,
      .forward 1, .unregister 2]

theorem removedSilent_throughout_removedAfter :
    machine.Throughout RemovedSilent new removedAfter ∧
      ∃ state, machine.run new removedAfter = some state ∧
        state.calls[2]? = some (.remove "bot" (.finished 0)) :=
  ⟨removedSilent_throughout removedAfter (by decide), _, rfl, rfl⟩

end AdapterManager

end Ferroq.Gateway
