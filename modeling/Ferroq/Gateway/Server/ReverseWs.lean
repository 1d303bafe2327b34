import Ferroq.Core.Config
import Ferroq.Gateway.EventBus
import Ferroq.Gateway.Server.RoutedCalls
import Ferroq.Library.Parts

/-!
# The reverse WebSocket of the v11 server

The task of one target connects, serves the connection until it ends, waits and
begins anew.  A connection is served as one that a client has opened, with a
subscription and limits of its own; its writer may fail, and the calls go on.

The tasks that push events, write and make calls are not the target's own.  Those
that push and write are aborted when the connection ends, and have come to their next
wait before the target has slept; all of them go on when the target is stopped.  What
becomes of the calls of a connection after that sleep is left out, as their replies go
nowhere.
-/

namespace Ferroq.Gateway.Server.ReverseWs

open Ferroq.Core Ferroq.Library
open Ferroq.Gateway.OneBotV11
open Ferroq.Gateway.Server.ForwardWs (Connection Frame Outcome Routing overloaded)

variable {Adapter : Type}

structure Handshake where
  url : String
  authorization : Option String
  deriving DecidableEq

/-- What the client library makes of a URL, and which texts it takes for the value of
a header. -/
structure Client where
  intoClientRequest : String → Except String String
  acceptsHeader : String → Bool

def buildReverseWsRequest (client : Client) (target : WsReverseTarget) (accessToken : String) :
    Except String Handshake :=
  match client.intoClientRequest target.url with
  | .error error => .error ("invalid reverse WS url: " ++ error)
  | .ok url =>
      -- The token of the target comes before the one of the gateway.
      let token := if target.accessToken.isEmpty then accessToken else target.accessToken
      let value := "Bearer " ++ token
      .ok ⟨url, if !token.isEmpty && client.acceptsHeader value then some value else none⟩

/-- A response with the adapter whose call the statistics count for it. -/
structure Answer where
  response : ApiResponse
  adapter : Option String

def respond (request : ApiRequest) : Outcome → Answer
  | .ok (response, name) => ⟨{ response with echo := request.echo }, some name⟩
  | .error error => ⟨(ApiResponse.fail 1400 error.toText).withEcho request.echo, none⟩

/-- A text that is no request is ignored. -/
def ask (connection : Connection Adapter) : Frame → Asked ApiRequest Answer
  | .other => .nothing
  | .text text => (connection.parseRequest text).elim .nothing .call

def dialect (connection : Connection Adapter) : Dialect ApiRequest Answer where
  ask := ask connection
  request := id
  turnAway := fun request => ⟨overloaded request.echo, none⟩
  respond := respond

abbrev Session (Adapter : Type) :=
  CallSession Frame ApiRequest (Work Adapter ApiRequest) (Routing Adapter) Answer Event

def service (connection : Connection Adapter) :
    CallService Frame ApiRequest (Work Adapter ApiRequest) (Routing Adapter) Answer :=
  (dialect connection).service connection

/-- The target sleeps or was stopped with the connection that it had left behind, if
there was one. -/
inductive Phase (Adapter : Type) where
  | building
  | connecting
  | serving (session : Session Adapter)
  | sleeping (left : Option (Session Adapter))
  | stopped (left : Option (Session Adapter))

namespace Phase

/-- The connection whose tasks go on. -/
def held : Phase Adapter → Option (Session Adapter)
  | .serving session => some session
  | .sleeping left | .stopped left => left
  | .building | .connecting => none

def map (change : Session Adapter → Session Adapter) : Phase Adapter → Phase Adapter
  | .serving session => .serving (change session)
  | .sleeping left => .sleeping (left.map change)
  | .stopped left => .stopped (left.map change)
  | .building => .building
  | .connecting => .connecting

def isStopped : Phase Adapter → Bool
  | .stopped _ => true
  | _ => false

@[simp]
theorem held_map (change : Session Adapter → Session Adapter) (phase : Phase Adapter) :
    (phase.map change).held = phase.held.map change := by
  cases phase <;> rfl

@[simp]
theorem isStopped_map (change : Session Adapter → Session Adapter) (phase : Phase Adapter) :
    (phase.map change).isStopped = phase.isStopped := by
  cases phase <;> rfl

end Phase

structure Loop (Adapter : Type) where
  bus : EventBus Event
  /-- The token of the gateway, which a reload changes. -/
  accessToken : String
  currentInterval : UInt64
  phase : Phase Adapter
  /-- The requests made, with the token of the gateway at the time. -/
  handshakes : List (String × Handshake)
  /-- Whether each round got a connection, the latest one first. -/
  rounds : List Bool
  sleeps : List UInt64
  /-- The connections that are over. -/
  past : List (Session Adapter)

def baseInterval : UInt64 := 5

def maxInterval : UInt64 := 120

def Loop.own (state : Loop Adapter) : Nat :=
  state.phase.held.elim 0 fun session => if session.pushing then 1 else 0

def start (bus : EventBus Event) (accessToken : String) : Loop Adapter where
  bus := bus
  accessToken := accessToken
  currentInterval := baseInterval
  phase := .building
  handshakes := []
  rounds := []
  sleeps := []
  past := []

inductive Action (Adapter : Type) where
  | publish (event : Event)
  | subscribe
  | unsubscribe
  | setAccessToken (token : String)
  | build
  | connect (routing : Routing Adapter)
  | fail
  | serve (action : CallSession.Action Frame (Routing Adapter) Event)
  | disconnect
  | wake
  | stop

/-- Events come by the bus, and the end of a connection by the target, whose own loop
does not go on when it is stopped. -/
def serves (stopped : Bool) : CallSession.Action Frame (Routing Adapter) Event → Bool
  | .publish _ | .hangUp => false
  | .receive _ | .refuse => !stopped
  | _ => true

/-- What stays the same for a target: its configuration, the client library, and the
limits and backends that each of its connections meets. -/
structure Target (Adapter : Type) where
  target : WsReverseTarget
  client : Client
  connection : Nat → Connection Adapter

namespace Target

variable (target : Target Adapter)

/-- A round is over, and the task sleeps. -/
def pause (state : Loop Adapter) (left : Option (Session Adapter)) : Loop Adapter :=
  { state with
    phase := .sleeping left
    rounds := left.isSome :: state.rounds
    sleeps := state.currentInterval :: state.sleeps }

/-- The open connection sees what is on the bus. -/
def publish (state : Loop Adapter) (event : Event) : Loop Adapter :=
  let bus := state.bus.publish event
  { state with
    bus := bus
    phase := state.phase.map fun session => { session with channel := bus.channel } }

/-- A connection has gone on; the task that pushes events drops its receiver when it
ends. -/
def goOn (state : Loop Adapter) (session after : Session Adapter) : Loop Adapter :=
  { state with
    bus := if session.pushing && !after.pushing then state.bus.unsubscribe else state.bus
    phase := state.phase.map fun _ => after }

def step (state : Loop Adapter) : Action Adapter → Option (Loop Adapter)
  | .publish event => some (publish state event)
  | .subscribe => some { state with bus := state.bus.subscribe.2 }
  | .unsubscribe =>
      if state.own < state.bus.receivers then some { state with bus := state.bus.unsubscribe }
      else none
  | .setAccessToken token => some { state with accessToken := token }
  | .build =>
      match state.phase with
      | .building =>
          match buildReverseWsRequest target.client target.target state.accessToken with
          | .ok handshake =>
              some { state with
                phase := .connecting
                handshakes := state.handshakes ++ [(state.accessToken, handshake)] }
          | .error _ => some (pause state none)
      | _ => none
  | .connect routing =>
      match state.phase with
      | .connecting =>
          some { state with
            bus := state.bus.subscribe.2
            currentInterval := baseInterval
            phase := .serving
              ((service (target.connection state.past.length)).start state.bus.channel routing) }
      | _ => none
  | .fail =>
      match state.phase with
      | .connecting => some (pause state none)
      | _ => none
  | .serve action =>
      if serves state.phase.isStopped action then
        state.phase.held.bind fun session =>
          ((service (target.connection state.past.length)).step session action).map
            (goOn state session)
      else none
  | .disconnect =>
      match state.phase with
      | .serving session =>
          ((service (target.connection state.past.length)).step session .hangUp).map fun left =>
            pause state (some left)
      | _ => none
  | .wake =>
      match state.phase with
      | .sleeping left =>
          if left.any (·.pushing) then none
          else
            some { state with
              phase := .building
              currentInterval := min (state.currentInterval * 2) maxInterval
              past := state.past ++ left.toList }
      | _ => none
  | .stop =>
      if state.phase.isStopped then none
      else some { state with phase := .stopped state.phase.held }

def machine : Machine (Loop Adapter) (Action Adapter) := ⟨target.step⟩

end Target

inductive Moves (target : Target Adapter) (state : Loop Adapter) : Loop Adapter → Prop where
  | publish (event : Event) : Moves target state (Target.publish state event)
  | subscribe : Moves target state { state with bus := state.bus.subscribe.2 }
  | unsubscribe : Moves target state { state with bus := state.bus.unsubscribe }
  | setAccessToken (token : String) : Moves target state { state with accessToken := token }
  | build {handshake : Handshake} (phase : state.phase = .building)
      (built : buildReverseWsRequest target.client target.target state.accessToken =
        .ok handshake) :
      Moves target state
        { state with
          phase := .connecting
          handshakes := state.handshakes ++ [(state.accessToken, handshake)] }
  | connect (routing : Routing Adapter) (phase : state.phase = .connecting) :
      Moves target state
        { state with
          bus := state.bus.subscribe.2
          currentInterval := baseInterval
          phase := .serving
            ((service (target.connection state.past.length)).start state.bus.channel routing) }
  | fail (phase : state.phase = .building ∨ state.phase = .connecting) :
      Moves target state (Target.pause state none)
  | serve {action : CallSession.Action Frame (Routing Adapter) Event}
      {session after : Session Adapter} (held : state.phase.held = some session)
      (other : ∀ event, action ≠ .publish event)
      (stepped : (service (target.connection state.past.length)).step session action =
        some after) :
      Moves target state (Target.goOn state session after)
  | disconnect {session left : Session Adapter} (phase : state.phase = .serving session)
      (stepped : (service (target.connection state.past.length)).step session .hangUp =
        some left) :
      Moves target state (Target.pause state (some left))
  | wake {left : Option (Session Adapter)} (phase : state.phase = .sleeping left) :
      Moves target state
        { state with
          phase := .building
          currentInterval := min (state.currentInterval * 2) maxInterval
          past := state.past ++ left.toList }
  | stop (running : state.phase.isStopped = false) :
      Moves target state { state with phase := .stopped state.phase.held }

variable {target : Target Adapter} {state next : Loop Adapter} {action : Action Adapter}

theorem step_moves (stepped : target.machine.step state action = some next) :
    Moves target state next := by
  change target.step state action = some next at stepped
  cases action with
  | publish event => exact Option.some.inj stepped ▸ .publish event
  | subscribe => exact Option.some.inj stepped ▸ .subscribe
  | unsubscribe =>
      simp only [Target.step] at stepped
      split at stepped
      next => exact Option.some.inj stepped ▸ .unsubscribe
      next => cases stepped
  | setAccessToken token => exact Option.some.inj stepped ▸ .setAccessToken token
  | build =>
      simp only [Target.step] at stepped
      split at stepped
      next phase =>
        split at stepped
        next handshake built => exact Option.some.inj stepped ▸ .build phase built
        next => exact Option.some.inj stepped ▸ .fail (.inl phase)
      next => cases stepped
  | connect routing =>
      simp only [Target.step] at stepped
      split at stepped
      next phase => exact Option.some.inj stepped ▸ .connect routing phase
      next => cases stepped
  | fail =>
      simp only [Target.step] at stepped
      split at stepped
      next phase => exact Option.some.inj stepped ▸ .fail (.inr phase)
      next => cases stepped
  | serve action =>
      simp only [Target.step] at stepped
      split at stepped
      next allowed =>
        obtain ⟨session, held, rest⟩ := Option.bind_eq_some_iff.mp stepped
        obtain ⟨after, moved, rfl⟩ := Option.map_eq_some_iff.mp rest
        refine .serve held ?_ moved
        rintro event rfl
        cases allowed
      next => cases stepped
  | disconnect =>
      simp only [Target.step] at stepped
      split at stepped
      next session phase =>
        obtain ⟨left, moved, rfl⟩ := Option.map_eq_some_iff.mp stepped
        exact .disconnect phase moved
      next => cases stepped
  | wake =>
      simp only [Target.step] at stepped
      split at stepped
      next left phase =>
        split at stepped
        next => cases stepped
        next => exact Option.some.inj stepped ▸ .wake phase
      next => cases stepped
  | stop =>
      simp only [Target.step] at stepped
      split at stepped
      next => cases stepped
      next running =>
        exact Option.some.inj stepped ▸ .stop (Bool.eq_false_iff.mpr running)

/-- The interval in seconds after some doublings. -/
def capped (doublings : Nat) : Nat := min (5 * 2 ^ doublings) 120

/-- How often the interval was doubled since the start or the latest connection. -/
def doublings : List Bool → Nat
  | [] => 0
  | true :: _ => 1
  | false :: earlier => doublings earlier + 1

/-- How long the task waits after each round, the latest one first. -/
def waitsOf : List Bool → List Nat
  | [] => []
  | true :: earlier => 5 :: waitsOf earlier
  | false :: earlier => capped (doublings earlier) :: waitsOf earlier

theorem toNat_doubled {interval : UInt64} {doublings : Nat}
    (due : interval.toNat = capped doublings) :
    (min (interval * 2) maxInterval).toNat = capped (doublings + 1) := by
  have small : interval.toNat ≤ 120 := due ▸ Nat.min_le_right _ _
  have doubled : (interval * 2).toNat = interval.toNat * 2 := by
    rw [UInt64.toNat_mul]
    change interval.toNat * 2 % 2 ^ 64 = interval.toNat * 2
    omega
  have power : 5 * 2 ^ (doublings + 1) = 5 * 2 ^ doublings * 2 := by
    rw [Nat.pow_succ, Nat.mul_assoc]
  have limit : maxInterval.toNat = 120 := rfl
  unfold capped at due ⊢
  rw [power]
  by_cases below : interval * 2 ≤ maxInterval
  · have bound := UInt64.le_iff_toNat_le.mp below
    have smaller : min (interval * 2) maxInterval = interval * 2 := if_pos below
    rw [smaller, doubled]
    omega
  · have bound := mt UInt64.le_iff_toNat_le.mpr below
    have smaller : min (interval * 2) maxInterval = maxInterval := if_neg below
    rw [smaller, limit]
    omega

def Due (phase : Phase Adapter) (interval : UInt64) (rounds : List Bool) : Prop :=
  match phase with
  | .building | .connecting => interval.toNat = capped (doublings rounds)
  | .serving _ => interval = baseInterval
  | .sleeping _ => (min (interval * 2) maxInterval).toNat = capped (doublings rounds)
  | .stopped _ => True

/-- The rounds with the one at hand, if it has come to an attempt. -/
def attempted (phase : Phase Adapter) (rounds : List Bool) : Nat :=
  match phase with
  | .building | .sleeping _ => rounds.length
  | .connecting | .serving _ | .stopped _ => rounds.length + 1

structure Timed (target : Target Adapter) (state : Loop Adapter) : Prop where
  waits : state.sleeps.map UInt64.toNat = waitsOf state.rounds
  due : Due state.phase state.currentInterval state.rounds
  attempts : state.handshakes.length ≤ attempted state.phase state.rounds
  tokens : ∀ handshake ∈ state.handshakes,
    buildReverseWsRequest target.client target.target handshake.1 = .ok handshake.2

theorem Timed.pause (timed : Timed target state)
    (phase : state.phase = .building ∨ state.phase = .connecting) :
    Timed target (Target.pause state none) := by
  obtain ⟨waits, due, attempts, tokens⟩ := timed
  have interval : state.currentInterval.toNat = capped (doublings state.rounds) := by
    rcases phase with phase | phase
    · rw [phase] at due
      exact due
    · rw [phase] at due
      exact due
  refine ⟨?_, toNat_doubled interval, ?_, tokens⟩
  · simp [Target.pause, waitsOf, interval, waits]
  · refine Nat.le_trans attempts ?_
    rcases phase with phase | phase <;> simp [phase, attempted, Target.pause]

end Ferroq.Gateway.Server.ReverseWs
