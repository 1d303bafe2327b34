import Ferroq.Gateway.Lagrange.Stopped
import Ferroq.Gateway.Official
import Ferroq.Gateway.Router

/-!
# The adapter manager

Calls that add, remove and reconnect adapters run beside each other and beside
the tasks of the adapters.  A step is what a call does between two of its awaits
or locks; nothing else can reach an adapter before its `connect` is awaited, so
a call of `add_adapter` comes so far in its first step.

An aborted forwarding task is dropped where it waits for an event; one that has
an event in hand publishes it, and takes further ones as long as it finds any.

Adapters, event channels, forwarding tasks and calls are numbered in the order
in which they are made.
-/

namespace Ferroq.Gateway

open Ferroq.Core
open Ferroq.Library
open Ferroq.Gateway.Lagrange (Lifecycle Background)

structure BackendConfig where
  backendType : String
  url : String

inductive Backend where
  | lagrange (lifecycle : Lifecycle)
  | official (official : Official)

structure AdapterObject where
  name : String
  backendType : String
  url : String
  backend : Backend

inductive BackendTask where
  | lagrange (action : Background)
  | official (task : OfficialTask)

namespace AdapterObject

def unknownBackend (backendType : String) : GatewayError :=
  .internal s!"unknown backend type: {backendType}"

def clientFailed (error : String) : GatewayError :=
  .http s!"failed to build HTTP client: {error}"

/-- The adapter of a backend config; `clientError` is what the builder of the
HTTP client reports, if it fails. -/
def create (name : String) (config : BackendConfig) (clientError : Option String) :
    Except GatewayError AdapterObject :=
  if config.backendType = "lagrange" ∨ config.backendType = "napcat" then
    .ok ⟨name, config.backendType, config.url, .lagrange .new⟩
  else if config.backendType = "official" then
    match clientError with
    | some error => .error (clientFailed error)
    | none => .ok ⟨name, "official", config.url, .official .new⟩
  else .error (unknownBackend config.backendType)

def state (object : AdapterObject) : AdapterState :=
  match object.backend with
  | .lagrange lifecycle => lifecycle.inner.state
  | .official official => official.state

def eventTx (object : AdapterObject) : Option Nat :=
  match object.backend with
  | .lagrange lifecycle => lifecycle.inner.eventTx
  | .official official => official.eventTx

def info (object : AdapterObject) : AdapterInfo :=
  { name := object.name
    backendType := object.backendType
    url := object.url
    state := object.state
    selfId :=
      match object.backend with
      | .lagrange lifecycle => lifecycle.inner.selfId
      | .official official => official.selfId }

def connects (object : AdapterObject) : Nat :=
  match object.backend with
  | .lagrange lifecycle => lifecycle.connects.length
  | .official official => official.connects.length

def connectReturned (object : AdapterObject) (connect : Nat) : Bool :=
  match object.backend with
  | .lagrange lifecycle => lifecycle.connects[connect]?.any (·.returned)
  | .official official => official.connects[connect]? = some .connected

def beginConnect (channel : Nat) (object : AdapterObject) : AdapterObject :=
  { object with
    backend :=
      match object.backend with
      | .lagrange lifecycle => .lagrange (lifecycle.beginConnect channel)
      | .official official => .official (official.beginConnect channel) }

def disconnect (object : AdapterObject) : AdapterObject :=
  { object with
    backend :=
      match object.backend with
      | .lagrange lifecycle => .lagrange lifecycle.disconnect
      | .official official => .official official.disconnect }

def background (object : AdapterObject) : BackendTask → Option AdapterObject
  | .lagrange action =>
      match object.backend with
      | .lagrange lifecycle =>
          (lifecycle.background action).map fun next => { object with backend := .lagrange next }
      | .official _ => none
  | .official task =>
      match object.backend with
      | .lagrange _ => none
      | .official official =>
          (official.background task).map fun next => { object with backend := .official next }

/-- The channel through which a step of a task sends an event. -/
def sent (object : AdapterObject) : BackendTask → List Nat
  | .lagrange (.readerEvent _ _) => object.eventTx.toList
  | _ => []

theorem create_name {name : String} {config : BackendConfig} {clientError : Option String}
    {object : AdapterObject} (created : create name config clientError = .ok object) :
    object.name = name := by
  unfold create at created
  split at created
  next =>
    cases created
    rfl
  next =>
    split at created
    next =>
      split at created
      next => cases created
      next =>
        cases created
        rfl
    next => cases created

/-- A step of a task is a step of the backend that it belongs to, and changes nothing else. -/
theorem background_cases {object next : AdapterObject} {task : BackendTask}
    (stepped : object.background task = some next) :
    (∃ lifecycle action after, object.backend = .lagrange lifecycle ∧ task = .lagrange action ∧
        lifecycle.background action = some after ∧
          next = { object with backend := .lagrange after }) ∨
      ∃ official officialTask after, object.backend = .official official ∧
        task = .official officialTask ∧ official.background officialTask = some after ∧
          next = { object with backend := .official after } := by
  rcases object with ⟨name, backendType, url, backend⟩
  cases task with
  | lagrange action =>
      cases backend with
      | lagrange lifecycle =>
          obtain ⟨after, ran, rfl⟩ := Option.map_eq_some_iff.mp stepped
          exact .inl ⟨lifecycle, action, after, rfl, rfl, ran, rfl⟩
      | official official => cases stepped
  | official officialTask =>
      cases backend with
      | lagrange lifecycle => cases stepped
      | official official =>
          obtain ⟨after, ran, rfl⟩ := Option.map_eq_some_iff.mp stepped
          exact .inr ⟨official, officialTask, after, rfl, rfl, ran, rfl⟩

theorem background_name {object next : AdapterObject} {task : BackendTask}
    (stepped : object.background task = some next) : next.name = object.name := by
  rcases background_cases stepped with ⟨_, _, _, _, _, _, rfl⟩ | ⟨_, _, _, _, _, _, rfl⟩ <;> rfl

end AdapterObject

structure LiveAdapter where
  adapter : Nat
  forwardHandle : Nat

/-- Where a forwarding task is: suspended until an event comes, with an event in
hand that it will publish, about to take the next one, or at its end. -/
inductive ForwardPhase where
  | waiting
  | holding
  | polling
  | ended
  deriving DecidableEq

structure Forwarder where
  channel : Nat
  aborted : Bool
  phase : ForwardPhase
  deriving DecidableEq

def Forwarder.stopped (forwarder : Forwarder) : Bool :=
  forwarder.phase = .ended || (forwarder.aborted && forwarder.phase = .waiting)

inductive AddPhase where
  | connecting (adapter channel connect : Nat)
  | registered (adapter channel : Nat)
  | finished
  | failed (error : GatewayError)
  deriving DecidableEq

inductive RemovePhase where
  | taken (adapter : Nat)
  | disconnected (adapter : Nat)
  | finished (adapter : Nat)
  | failed (error : GatewayError)
  deriving DecidableEq

inductive ReconnectPhase where
  | lookedUp (adapter : Nat)
  | disconnected (adapter : Nat)
  | connecting (adapter channel connect : Nat)
  | finished
  | failed (error : GatewayError)
  deriving DecidableEq

inductive ManagerCall where
  | add (name : String) (phase : AddPhase)
  | remove (name : String) (phase : RemovePhase)
  | reconnect (name : String) (phase : ReconnectPhase)
  deriving DecidableEq

def ManagerCall.returned : ManagerCall → Bool
  | add _ .finished => true
  | add _ (.failed _) => true
  | remove _ (.finished _) => true
  | remove _ (.failed _) => true
  | reconnect _ .finished => true
  | reconnect _ (.failed _) => true
  | _ => false

def ManagerCall.failed : ManagerCall → Bool
  | add _ (.failed _) => true
  | remove _ (.failed _) => true
  | reconnect _ (.failed _) => true
  | _ => false

/-- The manager with its router, the adapters made so far, the adapter each
event channel was made for, the forwarding tasks, and the channels of the events
that no task has taken yet. -/
structure AdapterManager where
  live : Table String LiveAdapter
  router : ApiRouter Nat
  objects : List AdapterObject
  channels : List Nat
  forwarders : List Forwarder
  queued : List Nat
  calls : List ManagerCall

/-- What a caller or a task does; a call that goes on is named by its number. -/
inductive Managing where
  | addAdapter (name : String) (config : BackendConfig) (clientError : Option String)
  | register (call : Nat)
  | insert (call : Nat)
  | removeAdapter (name : String)
  | disconnectRemoved (call : Nat)
  | unregister (call : Nat)
  | reconnectAdapter (name : String)
  | disconnectHeld (call : Nat)
  | connectHeld (call : Nat)
  | finishReconnect (call : Nat)
  | background (adapter : Nat) (task : BackendTask)
  | forward (forwarder : Nat)
  | suspend (forwarder : Nat)

namespace AdapterManager

def new : AdapterManager :=
  { live := .empty
    router := .new
    objects := []
    channels := []
    forwarders := []
    queued := []
    calls := [] }

def alreadyExists (name : String) : GatewayError :=
  .internal s!"adapter '{name}' already exists"

def notFound (name : String) : GatewayError :=
  .internal s!"adapter '{name}' not found"

def noInfo : AdapterInfo :=
  { name := "", backendType := "", url := "", state := .disconnected, selfId := none }

def info (state : AdapterManager) (adapter : Nat) : AdapterInfo :=
  (state.objects[adapter]?.map AdapterObject.info).getD noInfo

def begin (state : AdapterManager) (call : ManagerCall) : AdapterManager :=
  { state with calls := state.calls ++ [call] }

def setCall (state : AdapterManager) (index : Nat) (call : ManagerCall) : AdapterManager :=
  { state with calls := state.calls.modify index fun _ => call }

def modifyObject (state : AdapterManager) (adapter : Nat)
    (change : AdapterObject → AdapterObject) : AdapterManager :=
  { state with objects := state.objects.modify adapter change }

def abortForwarder (state : AdapterManager) (handle : Nat) : AdapterManager :=
  { state with
    forwarders := state.forwarders.modify handle fun task => { task with aborted := true } }

def spawnForwarder (state : AdapterManager) (channel : Nat) : AdapterManager :=
  { state with forwarders := state.forwarders ++ [⟨channel, false, .waiting⟩] }

def startAdd (state : AdapterManager) (name : String) (object : AdapterObject) :
    AdapterManager :=
  { state with
    objects := state.objects ++ [object.beginConnect state.channels.length]
    channels := state.channels ++ [state.objects.length]
    calls := state.calls ++
      [.add name (.connecting state.objects.length state.channels.length object.connects)] }

def registerAdded (state : AdapterManager) (index : Nat) (name : String)
    (adapter channel : Nat) : AdapterManager :=
  { state.setCall index (.add name (.registered adapter channel)) with
    router := state.router.register state.info adapter }

def insertAdded (state : AdapterManager) (index : Nat) (name : String)
    (adapter channel : Nat) : AdapterManager :=
  { (state.spawnForwarder channel).setCall index (.add name .finished) with
    live := state.live.insert name ⟨adapter, state.forwarders.length⟩ }

def takeLive (state : AdapterManager) (name : String) (entry : LiveAdapter) : AdapterManager :=
  { (state.abortForwarder entry.forwardHandle).begin (.remove name (.taken entry.adapter)) with
    live := state.live.remove name }

def unregisterTaken (state : AdapterManager) (index : Nat) (name : String) (adapter : Nat) :
    AdapterManager :=
  { state.setCall index (.remove name (.finished adapter)) with
    router := (state.router.unregister state.info name).2 }

def startConnect (state : AdapterManager) (index : Nat) (name : String) (adapter : Nat)
    (object : AdapterObject) : AdapterManager :=
  { (state.modifyObject adapter (AdapterObject.beginConnect state.channels.length)).setCall index
      (.reconnect name (.connecting adapter state.channels.length object.connects)) with
    channels := state.channels ++ [adapter] }

/-- Spawn the new forwarder; its handle is dropped when the entry is gone. -/
def storeForwarder (state : AdapterManager) (index : Nat) (name : String) (channel : Nat) :
    AdapterManager :=
  { (state.spawnForwarder channel).setCall index (.reconnect name .finished) with
    live :=
      match state.live.get name with
      | some entry =>
          state.live.insert name { entry with forwardHandle := state.forwarders.length }
      | none => state.live }

/-- A task of an adapter has come to its next wait or lock. -/
def ranTask (state : AdapterManager) (adapter : Nat) (object after : AdapterObject)
    (task : BackendTask) : AdapterManager :=
  { state.modifyObject adapter (fun _ => after) with
    queued := state.queued ++ object.sent task }

/-- Whether an adapter holds the sender of a channel. -/
def hasSender (state : AdapterManager) (channel : Nat) : Bool :=
  state.objects.any fun object => object.eventTx = some channel

/-- Take an event off the channel of a forwarding task, if there is one; without a
sender the channel is closed. -/
def receiveEvent (state : AdapterManager) (index : Nat) (forwarder : Forwarder) :
    AdapterManager :=
  { state with
    forwarders := state.forwarders.set index
      { forwarder with
        phase :=
          if forwarder.channel ∈ state.queued then .holding
          else if state.hasSender forwarder.channel then .waiting
          else .ended }
    queued := state.queued.erase forwarder.channel }

/-- Publish the event in hand, or drop it as a duplicate. -/
def publishEvent (state : AdapterManager) (index : Nat) (forwarder : Forwarder) :
    AdapterManager :=
  { state with forwarders := state.forwarders.set index { forwarder with phase := .polling } }

/-- A task that has spent its budget is suspended, although an event may be there. -/
def suspendForwarder (state : AdapterManager) (index : Nat) (forwarder : Forwarder) :
    AdapterManager :=
  { state with forwarders := state.forwarders.set index { forwarder with phase := .waiting } }

def connectReturned (state : AdapterManager) (adapter connect : Nat) : Bool :=
  state.objects[adapter]?.any (·.connectReturned connect)

def step (state : AdapterManager) : Managing → Option AdapterManager
  | .addAdapter name config clientError =>
      if state.live.contains name then
        some (state.begin (.add name (.failed (alreadyExists name))))
      else
        match AdapterObject.create name config clientError with
        | .ok object => some (state.startAdd name object)
        | .error error => some (state.begin (.add name (.failed error)))
  | .register index =>
      match state.calls[index]? with
      | some (.add name (.connecting adapter channel connect)) =>
          if state.connectReturned adapter connect then
            some (state.registerAdded index name adapter channel)
          else none
      | _ => none
  | .insert index =>
      match state.calls[index]? with
      | some (.add name (.registered adapter channel)) =>
          some (state.insertAdded index name adapter channel)
      | _ => none
  | .removeAdapter name =>
      match state.live.get name with
      | some entry => some (state.takeLive name entry)
      | none => some (state.begin (.remove name (.failed (notFound name))))
  | .disconnectRemoved index =>
      match state.calls[index]? with
      | some (.remove name (.taken adapter)) =>
          some ((state.modifyObject adapter AdapterObject.disconnect).setCall index
            (.remove name (.disconnected adapter)))
      | _ => none
  | .unregister index =>
      match state.calls[index]? with
      | some (.remove name (.disconnected adapter)) =>
          some (state.unregisterTaken index name adapter)
      | _ => none
  | .reconnectAdapter name =>
      match state.live.get name with
      | some entry =>
          some ((state.abortForwarder entry.forwardHandle).begin
            (.reconnect name (.lookedUp entry.adapter)))
      | none => some (state.begin (.reconnect name (.failed (notFound name))))
  | .disconnectHeld index =>
      match state.calls[index]? with
      | some (.reconnect name (.lookedUp adapter)) =>
          some ((state.modifyObject adapter AdapterObject.disconnect).setCall index
            (.reconnect name (.disconnected adapter)))
      | _ => none
  | .connectHeld index =>
      match state.calls[index]? with
      | some (.reconnect name (.disconnected adapter)) =>
          state.objects[adapter]?.map fun object => state.startConnect index name adapter object
      | _ => none
  | .finishReconnect index =>
      match state.calls[index]? with
      | some (.reconnect name (.connecting adapter channel connect)) =>
          if state.connectReturned adapter connect then
            some (state.storeForwarder index name channel)
          else none
      | _ => none
  | .background adapter task =>
      state.objects[adapter]?.bind fun object =>
        (object.background task).map fun next => state.ranTask adapter object next task
  | .forward index =>
      match state.forwarders[index]? with
      | some forwarder =>
          match forwarder.phase with
          | .waiting =>
              if forwarder.aborted then none else some (state.receiveEvent index forwarder)
          | .holding => some (state.publishEvent index forwarder)
          | .polling => some (state.receiveEvent index forwarder)
          | .ended => none
      | none => none
  | .suspend index =>
      match state.forwarders[index]? with
      | some forwarder =>
          if forwarder.phase = .polling then some (state.suspendForwarder index forwarder)
          else none
      | none => none

def machine : Machine AdapterManager Managing := ⟨step⟩

/-- Everything a step can do.  A call that fails at once changes nothing
else. -/
inductive Steps (state : AdapterManager) : Managing → AdapterManager → Prop where
  | rejected (action : Managing) (call : ManagerCall) (failed : call.failed = true) :
      Steps state action (state.begin call)
  | startedAdd {name : String} {config : BackendConfig} {clientError : Option String}
      {object : AdapterObject} (absent : state.live.get name = none)
      (created : AdapterObject.create name config clientError = .ok object) :
      Steps state (.addAdapter name config clientError) (state.startAdd name object)
  | registeredAdded {index : Nat} {name : String} {adapter channel connect : Nat}
      (found : state.calls[index]? = some (.add name (.connecting adapter channel connect)))
      (returned : state.connectReturned adapter connect = true) :
      Steps state (.register index) (state.registerAdded index name adapter channel)
  | insertedAdded {index : Nat} {name : String} {adapter channel : Nat}
      (found : state.calls[index]? = some (.add name (.registered adapter channel))) :
      Steps state (.insert index) (state.insertAdded index name adapter channel)
  | tookLive {name : String} {entry : LiveAdapter} (found : state.live.get name = some entry) :
      Steps state (.removeAdapter name) (state.takeLive name entry)
  | disconnectedRemoved {index : Nat} {name : String} {adapter : Nat}
      (found : state.calls[index]? = some (.remove name (.taken adapter))) :
      Steps state (.disconnectRemoved index)
        ((state.modifyObject adapter AdapterObject.disconnect).setCall index
          (.remove name (.disconnected adapter)))
  | unregisteredTaken {index : Nat} {name : String} {adapter : Nat}
      (found : state.calls[index]? = some (.remove name (.disconnected adapter))) :
      Steps state (.unregister index) (state.unregisterTaken index name adapter)
  | lookedUp {name : String} {entry : LiveAdapter} (found : state.live.get name = some entry) :
      Steps state (.reconnectAdapter name)
        ((state.abortForwarder entry.forwardHandle).begin
          (.reconnect name (.lookedUp entry.adapter)))
  | disconnectedHeld {index : Nat} {name : String} {adapter : Nat}
      (found : state.calls[index]? = some (.reconnect name (.lookedUp adapter))) :
      Steps state (.disconnectHeld index)
        ((state.modifyObject adapter AdapterObject.disconnect).setCall index
          (.reconnect name (.disconnected adapter)))
  | startedConnect {index : Nat} {name : String} {adapter : Nat} {object : AdapterObject}
      (found : state.calls[index]? = some (.reconnect name (.disconnected adapter)))
      (held : state.objects[adapter]? = some object) :
      Steps state (.connectHeld index) (state.startConnect index name adapter object)
  | storedForwarder {index : Nat} {name : String} {adapter channel connect : Nat}
      (found : state.calls[index]? =
        some (.reconnect name (.connecting adapter channel connect)))
      (returned : state.connectReturned adapter connect = true) :
      Steps state (.finishReconnect index) (state.storeForwarder index name channel)
  | ran {adapter : Nat} {task : BackendTask} {object after : AdapterObject}
      (held : state.objects[adapter]? = some object)
      (stepped : object.background task = some after) :
      Steps state (.background adapter task) (state.ranTask adapter object after task)
  | receivedEvent {index : Nat} {forwarder : Forwarder}
      (found : state.forwarders[index]? = some forwarder)
      (running : forwarder.stopped = false) :
      Steps state (.forward index) (state.receiveEvent index forwarder)
  | publishedEvent {index : Nat} {forwarder : Forwarder}
      (found : state.forwarders[index]? = some forwarder)
      (holding : forwarder.phase = .holding) :
      Steps state (.forward index) (state.publishEvent index forwarder)
  | suspended {index : Nat} {forwarder : Forwarder}
      (found : state.forwarders[index]? = some forwarder)
      (polling : forwarder.phase = .polling) :
      Steps state (.suspend index) (state.suspendForwarder index forwarder)

theorem steps_of_step {state next : AdapterManager} {action : Managing}
    (stepped : state.step action = some next) : Steps state action next := by
  cases action with
  | addAdapter name config clientError =>
      simp only [step] at stepped
      split at stepped
      next =>
        cases stepped
        exact .rejected _ _ rfl
      next absent =>
        split at stepped
        next object created =>
          cases stepped
          exact .startedAdd (by simpa [Table.contains] using absent) created
        next =>
          cases stepped
          exact .rejected _ _ rfl
  | register index =>
      simp only [step] at stepped
      split at stepped
      next found =>
        split at stepped
        next returned =>
          cases stepped
          exact .registeredAdded found returned
        next => cases stepped
      next => cases stepped
  | insert index =>
      simp only [step] at stepped
      split at stepped
      next found =>
        cases stepped
        exact .insertedAdded found
      next => cases stepped
  | removeAdapter name =>
      simp only [step] at stepped
      split at stepped
      next found =>
        cases stepped
        exact .tookLive found
      next =>
        cases stepped
        exact .rejected _ _ rfl
  | disconnectRemoved index =>
      simp only [step] at stepped
      split at stepped
      next found =>
        cases stepped
        exact .disconnectedRemoved found
      next => cases stepped
  | unregister index =>
      simp only [step] at stepped
      split at stepped
      next found =>
        cases stepped
        exact .unregisteredTaken found
      next => cases stepped
  | reconnectAdapter name =>
      simp only [step] at stepped
      split at stepped
      next found =>
        cases stepped
        exact .lookedUp found
      next =>
        cases stepped
        exact .rejected _ _ rfl
  | disconnectHeld index =>
      simp only [step] at stepped
      split at stepped
      next found =>
        cases stepped
        exact .disconnectedHeld found
      next => cases stepped
  | connectHeld index =>
      simp only [step] at stepped
      split at stepped
      next found =>
        obtain ⟨object, held, rfl⟩ := Option.map_eq_some_iff.mp stepped
        exact .startedConnect found held
      next => cases stepped
  | finishReconnect index =>
      simp only [step] at stepped
      split at stepped
      next found =>
        split at stepped
        next returned =>
          cases stepped
          exact .storedForwarder found returned
        next => cases stepped
      next => cases stepped
  | background adapter task =>
      obtain ⟨object, held, rest⟩ := Option.bind_eq_some_iff.mp stepped
      obtain ⟨after, ran, rfl⟩ := Option.map_eq_some_iff.mp rest
      exact .ran held ran
  | forward index =>
      simp only [step] at stepped
      split at stepped
      next forwarder found =>
        split at stepped
        next waiting =>
          split at stepped
          next => cases stepped
          next running =>
            cases stepped
            exact .receivedEvent found (by simp [Forwarder.stopped, waiting, running])
        next holding =>
          cases stepped
          exact .publishedEvent found holding
        next polling =>
          cases stepped
          exact .receivedEvent found (by simp [Forwarder.stopped, polling])
        next => cases stepped
      next => cases stepped
  | suspend index =>
      simp only [step] at stepped
      split at stepped
      next forwarder found =>
        split at stepped
        next polling =>
          cases stepped
          exact .suspended found polling
        next => cases stepped
      next => cases stepped

variable {state next : AdapterManager} {action : Managing}

/-! ## The adapters of the live map -/

def liveAdapters (state : AdapterManager) : Table String Nat :=
  fun name => (state.live.get name).map LiveAdapter.adapter

theorem liveAdapters_insert (live : Table String LiveAdapter) (name : String)
    (entry : LiveAdapter) :
    (fun other => ((live.insert name entry).get other).map LiveAdapter.adapter) =
      Table.insert (fun other => (live.get other).map LiveAdapter.adapter) name
        entry.adapter := by
  funext other
  by_cases same : other = name <;> simp [Table.insert, Table.get_insert, same]

theorem liveAdapters_insertAdded (index : Nat) (name : String) (adapter channel : Nat) :
    (state.insertAdded index name adapter channel).liveAdapters =
      state.liveAdapters.insert name adapter := liveAdapters_insert _ _ _

theorem liveAdapters_takeLive (name : String) (entry : LiveAdapter) :
    (state.takeLive name entry).liveAdapters = state.liveAdapters.remove name := by
  funext other
  by_cases same : other = name <;>
    simp [takeLive, liveAdapters, Table.remove, Table.get_remove, same]

theorem liveAdapters_storeForwarder (index : Nat) (name : String) (channel : Nat) :
    (state.storeForwarder index name channel).liveAdapters = state.liveAdapters := by
  funext other
  simp only [liveAdapters, storeForwarder]
  cases found : state.live.get name with
  | none => rfl
  | some entry =>
      by_cases same : other = name
      · subst same
        simp [found]
      · simp [Table.get_insert_of_ne _ _ same]

theorem liveAdapters_eq_some {name : String} {entry : LiveAdapter}
    (found : state.live.get name = some entry) :
    state.liveAdapters.get name = some entry.adapter := by
  change (state.live.get name).map LiveAdapter.adapter = _
  rw [found]
  rfl

theorem liveAdapters_eq_none {name : String} (absent : state.live.get name = none) :
    state.liveAdapters.get name = none := by
  change (state.live.get name).map LiveAdapter.adapter = _
  rw [absent]
  rfl

/-! ## Calls and names -/

theorem eq_or_found_of_concat {new call : ManagerCall} {index : Nat}
    (found : (state.calls ++ [new])[index]? = some call) :
    call = new ∨ state.calls[index]? = some call := by
  rw [List.getElem?_append] at found
  split at found
  next => exact .inr found
  next => exact .inl (Lagrange.Lifecycle.eq_of_getElem?_singleton found).2

theorem eq_or_found_of_modify {new call : ManagerCall} {index other : Nat}
    (found : (state.calls.modify index fun _ => new)[other]? = some call) :
    call = new ∨ state.calls[other]? = some call := by
  rw [List.getElem?_modify] at found
  obtain ⟨before, earlier, rfl⟩ := Option.map_eq_some_iff.mp found
  split
  next => exact .inl rfl
  next => exact .inr earlier

def KeepsNames (state next : AdapterManager) : Prop :=
  ∀ {adapter : Nat} {object : AdapterObject}, state.objects[adapter]? = some object →
    ∃ later, next.objects[adapter]? = some later ∧ later.name = object.name

theorem keepsNames_of_eq (same : next.objects = state.objects) : state.KeepsNames next := by
  intro adapter object held
  exact ⟨object, by rw [same, held], rfl⟩

theorem keepsNames_modify {adapter : Nat} {change : AdapterObject → AdapterObject}
    (same : next.objects = state.objects.modify adapter change)
    (kept : ∀ object, state.objects[adapter]? = some object →
      (change object).name = object.name) : state.KeepsNames next := by
  intro other object held
  by_cases equal : adapter = other
  · subst equal
    exact ⟨change object, by simp [same, held], kept object held⟩
  · exact ⟨object, by simp [same, equal, held], rfl⟩

theorem keepsNames_startAdd (name : String) (object : AdapterObject) :
    state.KeepsNames (state.startAdd name object) := by
  intro adapter before held
  have inside := (List.getElem?_eq_some_iff.mp held).1
  refine ⟨before, ?_, rfl⟩
  simp only [startAdd]
  rw [List.getElem?_append_left inside, held]

theorem keepsNames_steps (steps : Steps state action next) : state.KeepsNames next := by
  cases steps with
  | rejected | registeredAdded | insertedAdded | tookLive | unregisteredTaken | lookedUp
  | storedForwarder | receivedEvent | publishedEvent | suspended => exact keepsNames_of_eq rfl
  | startedAdd => exact keepsNames_startAdd _ _
  | disconnectedRemoved | disconnectedHeld | startedConnect =>
      apply keepsNames_modify rfl
      exact fun _ _ => rfl
  | ran held stepped =>
      apply keepsNames_modify rfl
      intro before found
      rw [held] at found
      cases found
      exact AdapterObject.background_name stepped

theorem KeepsNames.inside (keeps : state.KeepsNames next) {adapter : Nat}
    (before : adapter < state.objects.length) : adapter < next.objects.length := by
  obtain ⟨_, held, _⟩ := keeps (List.getElem?_eq_getElem before)
  exact (List.getElem?_eq_some_iff.mp held).1

end AdapterManager

end Ferroq.Gateway
