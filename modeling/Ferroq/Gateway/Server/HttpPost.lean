import Ferroq.Core.Config
import Ferroq.Gateway.EventBus
import Ferroq.Gateway.OneBotV11
import Ferroq.Library.Machine
import Ferroq.Library.Parts
import Ferroq.Library.Utf8

/-!
# Event reporting by HTTP POST

The v11 server has one task for each target.  A task posts the events of the bus one
after the other and waits for each answer, which it ignores.  How texts are made of
JSON values and the keyed hash of the signatures are parameters.
-/

namespace Ferroq.Gateway.Server.HttpPost

open Ferroq.Core Ferroq.Library
open Ferroq.Gateway.OneBotV11

structure Request where
  url : String
  headers : List (String × String)
  body : String

def hexDigit (value : Nat) : Char := "0123456789abcdef".toList.getD value '0'

def hexEncode (octets : List UInt8) : String :=
  String.ofList (octets.flatMap fun octet =>
    [hexDigit (octet.toNat / 16), hexDigit (octet.toNat % 16)])

/-- What is taken from elsewhere: the text of a JSON value, and HMAC-SHA1 under a
key that it accepts. -/
structure Codec where
  toText : Json → Option String
  hmac : List UInt8 → Option (List UInt8 → List UInt8)

namespace Codec

variable (codec : Codec)

def bodyOf (event : Event) : String := (codec.toText (eventToJson event)).getD ""

/-- The header of the signature, which there is with a secret only. -/
def signature (secret body : String) : List (String × String) :=
  if secret.isEmpty then []
  else
    match codec.hmac (Utf8.encode secret.toList) with
    | some mac => [("X-Signature", "sha1=" ++ hexEncode (mac (Utf8.encode body.toList)))]
    | none => []

def requestOf (target : HttpPostTarget) (event : Event) : Request where
  url := target.url
  headers :=
    [("Content-Type", "application/json"), ("X-Self-ID", toString event.selfId.toInt)] ++
      codec.signature target.secret (codec.bodyOf event)
  body := codec.bodyOf event

end Codec

inductive Stage where
  | receiving
  | sending
  | ended
  deriving DecidableEq

structure Task where
  target : HttpPostTarget
  receiver : Subscription Event
  stage : Stage
  requests : List Request

structure Reporting where
  bus : EventBus Event
  closed : Bool
  tasks : List Task

/-- The tasks that hold a receiver. -/
def Reporting.own (state : Reporting) : Nat :=
  state.tasks.countP fun task => task.stage ≠ .ended

inductive Action where
  | publish (event : Event)
  | subscribe
  | unsubscribe
  | close
  | receive (index : Nat)
  | finish (index : Nat)
  | respond (index : Nat) (status : Option Nat)
  | stop

namespace Codec

variable (codec : Codec)

/-- A task that got an event makes the request for it at once. -/
def receive (task : Task) : Received Event → Task
  | .value event =>
      { task with
        receiver := task.receiver.take (.value event)
        stage := .sending
        requests := task.requests ++ [codec.requestOf task.target event] }
  | .lagged missed => { task with receiver := task.receiver.take (.lagged missed) }

def step (state : Reporting) : Action → Option Reporting
  | .publish event =>
      if state.closed then none else some { state with bus := state.bus.publish event }
  | .subscribe => some { state with bus := state.bus.subscribe.2 }
  | .unsubscribe =>
      if state.own < state.bus.receivers then some { state with bus := state.bus.unsubscribe }
      else none
  | .close => some { state with closed := true }
  | .receive index =>
      match state.tasks[index]? with
      | some task =>
          match task.stage, state.bus.channel.recv task.receiver with
          | .receiving, some received =>
              some { state with tasks := state.tasks.set index (codec.receive task received) }
          | _, _ => none
      | none => none
  | .finish index =>
      match state.tasks[index]? with
      | some task =>
          match task.stage, state.bus.channel.recv task.receiver, state.closed with
          | .receiving, none, true =>
              some { state with
                bus := state.bus.unsubscribe
                tasks := state.tasks.set index { task with stage := .ended } }
          | _, _, _ => none
      | none => none
  | .respond index _ =>
      match state.tasks[index]? with
      | some task =>
          match task.stage with
          | .sending =>
              some { state with tasks := state.tasks.set index { task with stage := .receiving } }
          | _ => none
      | none => none
  | .stop =>
      some { state with
        bus := { state.bus with receivers := state.bus.receivers - state.own }
        tasks := state.tasks.map fun task => { task with stage := .ended } }

def machine : Machine Reporting Action := ⟨codec.step⟩

end Codec

def start (targets : List HttpPostTarget) (bus : EventBus Event) : Reporting where
  bus := { bus with receivers := bus.receivers + targets.length }
  closed := false
  tasks := targets.map fun target => ⟨target, bus.channel.subscribe, .receiving, []⟩

inductive Moves (codec : Codec) (state : Reporting) : Action → Reporting → Prop where
  | publish (event : Event) :
      Moves codec state (.publish event) { state with bus := state.bus.publish event }
  | subscribe : Moves codec state .subscribe { state with bus := state.bus.subscribe.2 }
  | unsubscribe : Moves codec state .unsubscribe { state with bus := state.bus.unsubscribe }
  | close : Moves codec state .close { state with closed := true }
  | receive {index : Nat} {task : Task} {received : Received Event}
      (found : state.tasks[index]? = some task) (idle : task.stage = .receiving)
      (given : state.bus.channel.recv task.receiver = some received) :
      Moves codec state (.receive index)
        { state with tasks := state.tasks.set index (codec.receive task received) }
  | finish {index : Nat} {task : Task} (found : state.tasks[index]? = some task) :
      Moves codec state (.finish index)
        { state with
          bus := state.bus.unsubscribe
          tasks := state.tasks.set index { task with stage := .ended } }
  | respond {index : Nat} {task : Task} (status : Option Nat)
      (found : state.tasks[index]? = some task) (waits : task.stage = .sending) :
      Moves codec state (.respond index status)
        { state with tasks := state.tasks.set index { task with stage := .receiving } }
  | stop :
      Moves codec state .stop
        { state with
          bus := { state.bus with receivers := state.bus.receivers - state.own }
          tasks := state.tasks.map fun task => { task with stage := .ended } }

variable {codec : Codec} {state next : Reporting} {action : Action}

theorem step_moves (stepped : codec.machine.step state action = some next) :
    Moves codec state action next := by
  change codec.step state action = some next at stepped
  cases action with
  | publish event =>
      simp only [Codec.step] at stepped
      split at stepped
      next => cases stepped
      next => exact Option.some.inj stepped ▸ .publish event
  | subscribe => exact Option.some.inj stepped ▸ .subscribe
  | unsubscribe =>
      simp only [Codec.step] at stepped
      split at stepped
      next => exact Option.some.inj stepped ▸ .unsubscribe
      next => cases stepped
  | close => exact Option.some.inj stepped ▸ .close
  | receive index =>
      simp only [Codec.step] at stepped
      split at stepped
      next task found =>
        split at stepped
        next received idle given => exact Option.some.inj stepped ▸ .receive found idle given
        next => cases stepped
      next => cases stepped
  | finish index =>
      simp only [Codec.step] at stepped
      split at stepped
      next task found =>
        split at stepped
        next => exact Option.some.inj stepped ▸ .finish found
        next => cases stepped
      next => cases stepped
  | respond index status =>
      simp only [Codec.step] at stepped
      split at stepped
      next task found =>
        split at stepped
        next waits => exact Option.some.inj stepped ▸ .respond status found waits
        next => cases stepped
      next => cases stepped
  | stop => exact Option.some.inj stepped ▸ .stop

/-- A task has made one request for each event that it got, and no other. -/
structure Right (codec : Codec) (first : Nat) (channel : Broadcast Event) (task : Task) :
    Prop where
  since : task.receiver.since = first
  sound : channel.Sound task.receiver
  requests : task.requests =
    task.receiver.taken.reduceOption.map (codec.requestOf task.target)

theorem Right.receive {first : Nat} {channel : Broadcast Event} {task : Task}
    {received : Received Event} (right : Right codec first channel task)
    (given : channel.recv task.receiver = some received) :
    Right codec first channel (codec.receive task received) := by
  have sound := right.sound.recv given
  cases received with
  | value event =>
      refine ⟨right.since, sound, ?_⟩
      have grown : (task.receiver.taken ++ [some event]).reduceOption =
          task.receiver.taken.reduceOption ++ [event] := by
        rw [List.reduceOption_append]
        rfl
      change task.requests ++ [codec.requestOf task.target event] =
        (task.receiver.taken ++ [some event]).reduceOption.map (codec.requestOf task.target)
      rw [grown, List.map_append, right.requests]
      rfl
  | lagged missed =>
      refine ⟨right.since, sound, ?_⟩
      change task.requests = (task.receiver.taken ++ List.replicate missed none).reduceOption.map _
      rw [List.reduceOption_append, List.reduceOption_replicate_none, List.append_nil,
        right.requests]
      rfl

/-- The invariant: the tasks are those of the targets, and each is right. -/
structure Faithful (codec : Codec) (targets : List HttpPostTarget) (first : Nat)
    (state : Reporting) : Prop where
  targets : state.tasks.map Task.target = targets
  right : ∀ task ∈ state.tasks, Right codec first state.bus.channel task

variable {targets : List HttpPostTarget} {first : Nat}

theorem Faithful.replace (faithful : Faithful codec targets first state) {index : Nat}
    {task : Task} (found : state.tasks[index]? = some task) (changed : Task)
    (same : changed.target = task.target)
    (right : Right codec first state.bus.channel changed) :
    (state.tasks.set index changed).map Task.target = targets ∧
      ∀ task ∈ state.tasks.set index changed, Right codec first state.bus.channel task := by
  refine ⟨?_, forall_mem_set faithful.right right index⟩
  obtain ⟨bound, here⟩ := List.getElem?_eq_some_iff.mp found
  rw [List.map_set, same, ← here, ← faithful.targets]
  apply List.ext_getElem?
  intro place
  rw [List.getElem?_set]
  split
  next equal => simp [← equal, bound]
  next => rfl

/-- The steps of one task, whose target fails to answer. -/
def Own (index : Nat) (action : Action) : Prop :=
  action = .receive index ∨ action = .respond index none

end Ferroq.Gateway.Server.HttpPost
