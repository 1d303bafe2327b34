import Ferroq.Gateway.Satori.Events
import Ferroq.Gateway.SharedConfig
import Ferroq.Gateway.Tuning
import Ferroq.Library.Machine

/-!
# The WebSocket of the Satori server

Any number of connections, each with a handler that waits for IDENTIFY, answers
READY and then subscribes to the bus.  From then on one task pushes events into
the queue of the connection and another one writes what is queued, while the
handler goes on receiving.  Each of them runs up to its next await or lock in one
step, and the steps of all of them come in any order.

The parser of texts is a parameter.
-/

namespace Ferroq.Gateway.Server.SatoriWs

open Ferroq.Core
open Ferroq.Library
open Ferroq.Gateway.Satori

/-- A signal to a client.  An event is named by its place among the published. -/
inductive Signal where
  | ready
  | event (position : Nat) (content : Event) (sn : UInt64)
  | pong

def opField (opcode : Opcode) : String × Json := ("op", .number (.posInt opcode.code))

def Signal.toJson : Signal → Json
  | ready =>
      .ofFields
        [opField .ready, ("body", .ofFields [("logins", .array []), ("proxy_urls", .array [])])]
  | event _ content sn => eventToSignal content sn
  | pong => .ofFields [opField .pong]

def Signal.opcode : Signal → Opcode
  | ready => .ready
  | event _ _ _ => .event
  | pong => .pong

theorem Signal.signalOp_toJson (signal : Signal) :
    signalOp signal.toJson = some signal.opcode.code := by
  cases signal with
  | ready | pong =>
      simp [Signal.toJson, Signal.opcode, opField, signalOp, Json.get_ofFields, List.lookup_cons,
        Json.asU64, Number.asU64]
  | event position content sn => exact signalOp_eventToSignal content sn

def Signal.entry : Signal → Option (Nat × UInt64)
  | event position _ sn => some (position, sn)
  | _ => none

theorem Signal.signalSn_toJson {signal : Signal} {position : Nat} {sn : UInt64}
    (entry : signal.entry = some (position, sn)) : signalSn signal.toJson = some sn := by
  cases signal with
  | ready | pong => cases entry
  | event place content number =>
      cases entry
      exact signalSn_eventToSignal content sn

inductive Frame where
  | text (text : String)
  | close
  | other

structure Identify where
  token : String
  sn : UInt64

def opOf (signal : Json) : UInt64 := (signalOp signal).getD 255

def parseIdentify (signal : Json) : Identify :=
  let body := (signal.get "body").getD .null
  { token := ((body.get "token").bind Json.asStr).getD ""
    sn := ((body.get "sn").bind Json.asU64).getD 0 }

/-- The first IDENTIFY of a connection, with the token that is configured when it
comes. -/
structure Attempt where
  identify : Identify
  required : String

/-- The token is the configured one, if there is one. -/
def Attempt.Passes (attempt : Attempt) : Prop :=
  attempt.required ≠ "" → attempt.identify.token = attempt.required

instance (attempt : Attempt) : Decidable attempt.Passes :=
  inferInstanceAs (Decidable (_ → _))

/-- Where the handler of a connection stands: it waits for IDENTIFY, it has sent
READY, it has subscribed, it is about to end, it has ended. -/
inductive Phase where
  | identifying
  | greeted
  | serving
  | closing
  | closed
  deriving DecidableEq

/-- Where the push task stands, with the event at hand. -/
inductive Push where
  | idle
  | received (position : Nat) (event : Event)
  | numbered (position : Nat) (event : Event) (sn : UInt64)
  | ended

def Push.position : Push → Option Nat
  | received position _ => some position
  | numbered position _ _ => some position
  | _ => none

def Push.entry : Push → Option (Nat × UInt64)
  | numbered position _ sn => some (position, sn)
  | _ => none

structure Connection where
  phase : Phase
  attempt : Option Attempt
  /-- How many events were published when READY was written. -/
  readyAt : Option Nat
  /-- How many were published when the client left or its socket failed. -/
  endedAt : Option Nat
  written : List Signal
  writing : Option Signal
  queue : List Signal
  writerEnded : Bool
  /-- A PING is to be answered before the next frame is received. -/
  ponging : Bool
  /-- The next event of the subscription. -/
  cursor : Nat
  push : Push
  dropped : List Nat
  skipped : List Nat

namespace Connection

def new : Connection where
  phase := .identifying
  attempt := none
  readyAt := none
  endedAt := none
  written := []
  writing := none
  queue := []
  writerEnded := false
  ponging := false
  cursor := 0
  push := .idle
  dropped := []
  skipped := []

/-- The signals that the connection has been given, in order. -/
def outbound (connection : Connection) : List Signal :=
  connection.written ++ connection.writing.toList ++ connection.queue

def signals (connection : Connection) : List (Nat × UInt64) :=
  connection.outbound.filterMap Signal.entry

theorem signals_congr {connection after : Connection}
    (written : after.written = connection.written) (writing : after.writing = connection.writing)
    (queue : after.queue = connection.queue) : after.signals = connection.signals := by
  rw [signals, signals, outbound, outbound, written, writing, queue]

/-- The handler leaves its loop and aborts the tasks. -/
def leave (connection : Connection) (published : Nat) : Connection :=
  { connection with
    phase := .closing, endedAt := some (connection.endedAt.getD published) }

/-- The writer's socket fails, and the writer ends. -/
def failWriter (connection : Connection) (published : Nat) : Connection :=
  { connection with
    writerEnded := true, endedAt := some (connection.endedAt.getD published) }

end Connection

structure WsStats where
  wsConnections : UInt64
  wsConnectionsTotal : UInt64
  wsEventsDropped : UInt64

namespace WsStats

def wsConnect (stats : WsStats) : WsStats :=
  { stats with
    wsConnections := stats.wsConnections + 1
    wsConnectionsTotal := stats.wsConnectionsTotal + 1 }

def wsDisconnect (stats : WsStats) : WsStats :=
  { stats with wsConnections := stats.wsConnections - 1 }

def recordWsEventDropped (stats : WsStats) : WsStats :=
  { stats with wsEventsDropped := stats.wsEventsDropped + 1 }

end WsStats

structure ServerState where
  sharedConfig : SharedConfig
  published : List Event
  snCounter : UInt64
  stats : WsStats

/-- What a connection does next.  `sent` tells whether the socket takes what is
written to it. -/
inductive Doing where
  | receive (frame : Frame) (sent : Bool)
  /-- The stream of the client ends, or the time to identify is over. -/
  | leave
  | disconnect
  | subscribe
  | sendPong
  | recv
  | nextSn
  | trySend
  | take
  | write (sent : Bool)
  /-- The writer that has been aborted ends. -/
  | stopWriter

/-- What stays the same for a server: its limits, those of the bus, and the parser
of texts. -/
structure SatoriServer where
  tuning : Tuning
  busCapacity : Nat
  fromStr : String → Option Json

namespace SatoriServer

variable (server : SatoriServer)

/-- The IDENTIFY that a frame holds. -/
def identifyOf : Frame → Option Identify
  | .text text =>
      (server.fromStr text).bind fun signal =>
        if opOf signal = Opcode.identify.code then some (parseIdentify signal) else none
  | _ => none

/-- A frame before the first IDENTIFY, or that one.  A wrong token is answered
with a READY too, and the handler ends. -/
def handshake (state : ServerState) (connection : Connection) (frame : Frame) (sent : Bool) :
    Connection :=
  match server.identifyOf frame with
  | none => connection
  | some identify =>
      let required := state.sharedConfig.accessToken
      let answered :=
        { connection with
          attempt := some ⟨identify, required⟩
          written := if sent then connection.written ++ [Signal.ready] else connection.written }
      if required ≠ "" ∧ identify.token ≠ required then { answered with phase := .closing }
      else if sent then
        { answered with phase := .greeted, readyAt := some state.published.length }
      else { answered with phase := .closing }

/-- A frame after READY. -/
def receiveSignal (state : ServerState) (connection : Connection) : Frame → Connection
  | .text text =>
      match server.fromStr text with
      | none => connection
      | some signal => if opOf signal = 1 then { connection with ponging := true } else connection
  | .close => connection.leave state.published.length
  | .other => connection

def HasRoom (connection : Connection) : Prop :=
  connection.queue.length < server.tuning.wsOutboundQueueCapacity

instance (connection : Connection) : Decidable (server.HasRoom connection) :=
  inferInstanceAs (Decidable (_ < _))

/-- One step of a connection.  The bus keeps the latest events only; a push task
that is further behind skips to the oldest of them.  The server holds a sender of
the bus, so the bus is never closed. -/
def perform (state : ServerState) (connection : Connection) :
    Doing → Option (ServerState × Connection)
  | .receive frame sent =>
      match connection.phase with
      | .identifying => some (state, server.handshake state connection frame sent)
      | .serving =>
          if connection.ponging then none
          else some (state, server.receiveSignal state connection frame)
      | _ => none
  | .leave =>
      match connection.phase with
      | .identifying => some (state, { connection with phase := .closing })
      | .serving =>
          if connection.ponging then none
          else some (state, connection.leave state.published.length)
      | _ => none
  | .disconnect =>
      match connection.phase with
      | .closing =>
          some ({ state with stats := state.stats.wsDisconnect },
            { connection with phase := .closed })
      | _ => none
  | .subscribe =>
      match connection.phase with
      | .greeted =>
          some (state, { connection with phase := .serving, cursor := state.published.length })
      | _ => none
  | .sendPong =>
      if connection.ponging then
        if connection.writerEnded then some (state, { connection with ponging := false })
        else if server.HasRoom connection then
          some (state,
            { connection with ponging := false, queue := connection.queue ++ [.pong] })
        else none
      else none
  | .recv =>
      match connection.phase, connection.push, state.published[connection.cursor]? with
      | .serving, .idle, some event =>
          let oldest := state.published.length - server.busCapacity
          if connection.cursor < oldest then
            some (state,
              { connection with
                cursor := oldest
                skipped := connection.skipped ++
                  List.range' connection.cursor (oldest - connection.cursor) })
          else
            some (state,
              { connection with
                cursor := connection.cursor + 1
                push := .received connection.cursor event })
      | _, _, _ => none
  | .nextSn =>
      match connection.push with
      | .received position event =>
          let sn := state.snCounter + 1
          some ({ state with snCounter := sn },
            { connection with push := .numbered position event sn })
      | _ => none
  | .trySend =>
      match connection.push with
      | .numbered position event sn =>
          if connection.writerEnded then some (state, { connection with push := .ended })
          else if server.HasRoom connection then
            some (state,
              { connection with
                push := .idle, queue := connection.queue ++ [.event position event sn] })
          else
            some ({ state with stats := state.stats.recordWsEventDropped },
              { connection with push := .idle, dropped := connection.dropped ++ [position] })
      | _ => none
  | .take =>
      match connection.writerEnded, connection.writing, connection.queue with
      | false, none, signal :: rest =>
          some (state, { connection with writing := some signal, queue := rest })
      | _, _, _ => none
  | .write sent =>
      match connection.writerEnded, connection.writing with
      | false, some signal =>
          if sent then
            some (state,
              { connection with
                writing := none, written := connection.written ++ [signal] })
          else some (state, connection.failWriter state.published.length)
      | _, _ => none
  | .stopWriter =>
      match connection.phase, connection.writerEnded with
      | .closing, false | .closed, false =>
          some (state, { connection with writerEnded := true })
      | _, _ => none

/-- What a step of a connection does, with what enables it. -/
inductive Performs (state : ServerState) (connection : Connection) :
    Doing → ServerState → Connection → Prop where
  | passedOver {frame : Frame} (sent : Bool) (phase : connection.phase = .identifying)
      (junk : server.identifyOf frame = none) :
      Performs state connection (.receive frame sent) state connection
  | refused {frame : Frame} {identify : Identify} (sent : Bool)
      (phase : connection.phase = .identifying)
      (found : server.identifyOf frame = some identify)
      (wrong : ¬ Attempt.Passes ⟨identify, state.sharedConfig.accessToken⟩) :
      Performs state connection (.receive frame sent) state
        { connection with
          phase := .closing
          attempt := some ⟨identify, state.sharedConfig.accessToken⟩
          written := if sent then connection.written ++ [.ready] else connection.written }
  | greeted {frame : Frame} {identify : Identify} (phase : connection.phase = .identifying)
      (found : server.identifyOf frame = some identify)
      (passes : Attempt.Passes ⟨identify, state.sharedConfig.accessToken⟩) :
      Performs state connection (.receive frame true) state
        { connection with
          phase := .greeted
          attempt := some ⟨identify, state.sharedConfig.accessToken⟩
          written := connection.written ++ [.ready]
          readyAt := some state.published.length }
  | unreached {frame : Frame} {identify : Identify} (phase : connection.phase = .identifying)
      (found : server.identifyOf frame = some identify)
      (passes : Attempt.Passes ⟨identify, state.sharedConfig.accessToken⟩) :
      Performs state connection (.receive frame false) state
        { connection with
          phase := .closing, attempt := some ⟨identify, state.sharedConfig.accessToken⟩ }
  | ignored {frame : Frame} (sent : Bool) (phase : connection.phase = .serving)
      (stays : frame ≠ .close) :
      Performs state connection (.receive frame sent) state connection
  | pinged {frame : Frame} (sent : Bool) (phase : connection.phase = .serving)
      (stays : frame ≠ .close) :
      Performs state connection (.receive frame sent) state { connection with ponging := true }
  | closedBy (sent : Bool) (phase : connection.phase = .serving) :
      Performs state connection (.receive .close sent) state
        (connection.leave state.published.length)
  | gaveUp (phase : connection.phase = .identifying) :
      Performs state connection .leave state { connection with phase := .closing }
  | left (phase : connection.phase = .serving) :
      Performs state connection .leave state (connection.leave state.published.length)
  | disconnected (phase : connection.phase = .closing) :
      Performs state connection .disconnect { state with stats := state.stats.wsDisconnect }
        { connection with phase := .closed }
  | subscribed (phase : connection.phase = .greeted) :
      Performs state connection .subscribe state
        { connection with phase := .serving, cursor := state.published.length }
  | pongLost (pending : connection.ponging = true) (ended : connection.writerEnded = true) :
      Performs state connection .sendPong state { connection with ponging := false }
  | ponged (pending : connection.ponging = true) (room : server.HasRoom connection) :
      Performs state connection .sendPong state
        { connection with ponging := false, queue := connection.queue ++ [.pong] }
  | lagged (phase : connection.phase = .serving) (idle : connection.push = .idle)
      (behind : connection.cursor < state.published.length - server.busCapacity) :
      Performs state connection .recv state
        { connection with
          cursor := state.published.length - server.busCapacity
          skipped := connection.skipped ++ List.range' connection.cursor
            (state.published.length - server.busCapacity - connection.cursor) }
  | received {event : Event} (phase : connection.phase = .serving)
      (idle : connection.push = .idle)
      (found : state.published[connection.cursor]? = some event) :
      Performs state connection .recv state
        { connection with
          cursor := connection.cursor + 1, push := .received connection.cursor event }
  | numbered {position : Nat} {event : Event} (held : connection.push = .received position event) :
      Performs state connection .nextSn { state with snCounter := state.snCounter + 1 }
        { connection with push := .numbered position event (state.snCounter + 1) }
  | lost {position : Nat} {event : Event} {sn : UInt64}
      (held : connection.push = .numbered position event sn)
      (ended : connection.writerEnded = true) :
      Performs state connection .trySend state { connection with push := .ended }
  | enqueued {position : Nat} {event : Event} {sn : UInt64}
      (held : connection.push = .numbered position event sn)
      (running : connection.writerEnded = false) (room : server.HasRoom connection) :
      Performs state connection .trySend state
        { connection with
          push := .idle, queue := connection.queue ++ [.event position event sn] }
  | dropped {position : Nat} {event : Event} {sn : UInt64}
      (held : connection.push = .numbered position event sn)
      (running : connection.writerEnded = false) (full : ¬ server.HasRoom connection) :
      Performs state connection .trySend
        { state with stats := state.stats.recordWsEventDropped }
        { connection with push := .idle, dropped := connection.dropped ++ [position] }
  | took {signal : Signal} {rest : List Signal} (free : connection.writing = none)
      (queued : connection.queue = signal :: rest) :
      Performs state connection .take state
        { connection with writing := some signal, queue := rest }
  | wrote {signal : Signal} (held : connection.writing = some signal) :
      Performs state connection (.write true) state
        { connection with writing := none, written := connection.written ++ [signal] }
  | failed {signal : Signal} (held : connection.writing = some signal)
      (running : connection.writerEnded = false) :
      Performs state connection (.write false) state
        (connection.failWriter state.published.length)
  | stopped (phase : connection.phase = .closing ∨ connection.phase = .closed) :
      Performs state connection .stopWriter state { connection with writerEnded := true }

variable {server} {state next : ServerState} {connection after : Connection} {doing : Doing}

theorem performs_handshake (phase : connection.phase = .identifying) (frame : Frame)
    (sent : Bool) :
    server.Performs state connection (.receive frame sent) state
      (server.handshake state connection frame sent) := by
  unfold handshake
  cases found : server.identifyOf frame with
  | none => exact .passedOver sent phase found
  | some identify =>
      dsimp only
      split
      next wrong =>
        exact .refused sent phase found fun passes => wrong.2 (passes wrong.1)
      next right =>
        have passes : Attempt.Passes ⟨identify, state.sharedConfig.accessToken⟩ := by
          intro required
          by_contra different
          exact right ⟨required, different⟩
        cases sent with
        | true => exact .greeted phase found passes
        | false => exact .unreached phase found passes

theorem performs_receiveSignal (phase : connection.phase = .serving) (frame : Frame)
    (sent : Bool) :
    server.Performs state connection (.receive frame sent) state
      (server.receiveSignal state connection frame) := by
  cases frame with
  | text text =>
      simp only [receiveSignal]
      split
      next => exact .ignored sent phase (by simp)
      next =>
        split
        next => exact .pinged sent phase (by simp)
        next => exact .ignored sent phase (by simp)
  | close => exact .closedBy sent phase
  | other => exact .ignored sent phase (by simp)

theorem performs_of_perform
    (performed : server.perform state connection doing = some (next, after)) :
    server.Performs state connection doing next after := by
  cases doing with
  | receive frame sent =>
      simp only [perform] at performed
      split at performed
      next phase =>
        cases performed
        exact performs_handshake phase frame sent
      next phase =>
        split at performed
        next => cases performed
        next =>
          cases performed
          exact performs_receiveSignal phase frame sent
      next => cases performed
  | leave =>
      simp only [perform] at performed
      split at performed
      next phase =>
        cases performed
        exact .gaveUp phase
      next phase =>
        split at performed
        next => cases performed
        next =>
          cases performed
          exact .left phase
      next => cases performed
  | disconnect =>
      simp only [perform] at performed
      split at performed
      next phase =>
        cases performed
        exact .disconnected phase
      next => cases performed
  | subscribe =>
      simp only [perform] at performed
      split at performed
      next phase =>
        cases performed
        exact .subscribed phase
      next => cases performed
  | sendPong =>
      simp only [perform] at performed
      split at performed
      next pending =>
        split at performed
        next ended =>
          cases performed
          exact .pongLost pending ended
        next =>
          split at performed
          next room =>
            cases performed
            exact .ponged pending room
          next => cases performed
      next => cases performed
  | recv =>
      simp only [perform] at performed
      split at performed
      next event phase idle found =>
        split at performed
        next behind =>
          cases performed
          exact .lagged phase idle behind
        next =>
          cases performed
          exact .received phase idle found
      next => cases performed
  | nextSn =>
      simp only [perform] at performed
      split at performed
      next held =>
        cases performed
        exact .numbered held
      next => cases performed
  | trySend =>
      simp only [perform] at performed
      split at performed
      next held =>
        split at performed
        next ended =>
          cases performed
          exact .lost held ended
        next running =>
          split at performed
          next room =>
            cases performed
            exact .enqueued held (Bool.eq_false_iff.mpr running) room
          next full =>
            cases performed
            exact .dropped held (Bool.eq_false_iff.mpr running) full
      next => cases performed
  | take =>
      simp only [perform] at performed
      split at performed
      next running free queued =>
        cases performed
        exact .took free queued
      next => cases performed
  | write sent =>
      simp only [perform] at performed
      split at performed
      next running held =>
        cases sent with
        | true =>
            cases performed
            exact .wrote held
        | false =>
            cases performed
            exact .failed held running
      next => cases performed
  | stopWriter =>
      simp only [perform] at performed
      split at performed
      next phase running =>
        cases performed
        exact .stopped (.inl phase)
      next phase running =>
        cases performed
        exact .stopped (.inr phase)
      next => cases performed

variable (server) in
/-- The event that a step gives to the connection, with its number: the one at
hand, when there is room for it. -/
def given (connection : Connection) : Doing → Option (Nat × UInt64)
  | .trySend =>
      if connection.writerEnded = false ∧ server.HasRoom connection then connection.push.entry
      else none
  | _ => none

theorem given_of_ne (other : doing ≠ .trySend) : server.given connection doing = none := by
  cases doing with
  | trySend => exact absurd rfl other
  | receive | leave | disconnect | subscribe | sendPong | recv | nextSn | take | write
  | stopWriter => rfl

theorem signals_performs (performs : server.Performs state connection doing next after) :
    after.signals = connection.signals ++ (server.given connection doing).toList := by
  cases performs with
  | refused sent =>
      rw [given_of_ne (by simp), Option.toList_none, List.append_nil]
      cases sent with
      | false => rfl
      | true => simp [Connection.signals, Connection.outbound, Signal.entry, List.filterMap_cons]
  | greeted | ponged =>
      simp [given, Connection.signals, Connection.outbound, Signal.entry, List.filterMap_cons]
  | enqueued held running room =>
      rw [given, if_pos ⟨running, room⟩, held]
      simp [Connection.signals, Connection.outbound, Signal.entry, Push.entry]
  | lost held ended =>
      simp only [given, ended, Bool.true_eq_false, false_and, if_false, Option.toList_none,
        List.append_nil]
      exact Connection.signals_congr rfl rfl rfl
  | dropped held running full =>
      simp only [given, full, and_false, if_false, Option.toList_none, List.append_nil]
      exact Connection.signals_congr rfl rfl rfl
  | took free queued => simp [given, Connection.signals, Connection.outbound, free, queued]
  | wrote held => simp [given, Connection.signals, Connection.outbound, held]
  | passedOver | ignored => rw [given_of_ne (by simp), Option.toList_none, List.append_nil]
  | unreached | pinged | closedBy | gaveUp | left | disconnected | subscribed | pongLost
  | lagged | received | numbered | failed | stopped =>
      rw [given_of_ne (by simp), Option.toList_none, List.append_nil]
      exact Connection.signals_congr rfl rfl rfl

theorem signals_eq_of_ne (performs : server.Performs state connection doing next after)
    (other : doing ≠ .trySend) : after.signals = connection.signals := by
  rw [signals_performs performs, given_of_ne other, Option.toList_none, List.append_nil]

theorem entry_of_given {entry : Nat × UInt64} (handed : entry ∈ server.given connection doing) :
    connection.push.entry = some entry := by
  cases doing with
  | trySend =>
      rw [given] at handed
      split at handed
      next => exact handed
      next => cases handed
  | receive | leave | disconnect | subscribe | sendPong | recv | nextSn | take | write
  | stopWriter => cases handed

end SatoriServer

structure Hub where
  state : ServerState
  connections : List Connection

inductive Action where
  | publish (event : Event)
  | setAccessToken (token : String)
  | connect
  | perform (index : Nat) (doing : Doing)

namespace Hub

def start (sharedConfig : SharedConfig) : Hub where
  state := ⟨sharedConfig, [], 0, ⟨0, 0, 0⟩⟩
  connections := []

variable (server : SatoriServer)

def step (hub : Hub) : Action → Option Hub
  | .publish event =>
      some { hub with state := { hub.state with published := hub.state.published ++ [event] } }
  | .setAccessToken token =>
      some { hub with
        state := { hub.state with sharedConfig := hub.state.sharedConfig.setAccessToken token } }
  | .connect =>
      some
        { state := { hub.state with stats := hub.state.stats.wsConnect }
          connections := hub.connections ++ [.new] }
  | .perform index doing =>
      match hub.connections[index]? with
      | none => none
      | some connection =>
          (server.perform hub.state connection doing).map fun (state, connection) =>
            { state, connections := hub.connections.set index connection }

def machine : Machine Hub Action := ⟨step server⟩

/-- What a step does: something outside of the connections happens, or one of them
goes on. -/
inductive Moves (hub : Hub) : Action → Hub → Prop where
  | published (event : Event) :
      Moves hub (.publish event)
        { hub with state := { hub.state with published := hub.state.published ++ [event] } }
  | reloaded (token : String) :
      Moves hub (.setAccessToken token)
        { hub with
          state := { hub.state with sharedConfig := hub.state.sharedConfig.setAccessToken token } }
  | connected :
      Moves hub .connect
        { state := { hub.state with stats := hub.state.stats.wsConnect }
          connections := hub.connections ++ [.new] }
  | performed {index : Nat} {doing : Doing} {connection after : Connection} {state : ServerState}
      (found : hub.connections[index]? = some connection)
      (performs : server.Performs hub.state connection doing state after) :
      Moves hub (.perform index doing)
        { state, connections := hub.connections.set index after }

variable {server} {hub next : Hub} {action : Action}

theorem step_moves (stepped : (machine server).step hub action = some next) :
    Moves server hub action next := by
  change step server hub action = some next at stepped
  cases action with
  | publish event =>
      cases stepped
      exact .published event
  | setAccessToken token =>
      cases stepped
      exact .reloaded token
  | connect =>
      cases stepped
      exact .connected
  | perform index doing =>
      simp only [step] at stepped
      split at stepped
      next => cases stepped
      next connection found =>
        obtain ⟨⟨state, after⟩, performed, rfl⟩ := Option.map_eq_some_iff.mp stepped
        exact .performed found (SatoriServer.performs_of_perform performed)

section Sample

def identifyText : String := "\x7b\"op\":3,\"body\":\x7b\"token\":\"guess\"\x7d\x7d"

def identifyJson : Json :=
  .ofFields [opField .identify, ("body", .ofFields [("token", .string "guess")])]

/-- A server with the default limits, to which one text is sent. -/
def sampleServer : SatoriServer where
  tuning := .read fun _ => none
  busCapacity := 4096
  fromStr := fun text => if text = identifyText then some identifyJson else none

def samplePublished : Event :=
  .metaEvent
    { id := ⟨0⟩
      time := (DateTime.timestampOpt 0).get rfl
      selfId := 10001
      metaEventType := "heartbeat"
      subType := ""
      extra := .ofFields [] }

def opening : List Action :=
  [.connect, .perform 0 (.receive (.text identifyText) true), .perform 0 .subscribe]

/-- The push task of a connection takes an event and queues it. -/
def pushing (index : Nat) : List Action :=
  [.perform index .recv, .perform index .nextSn, .perform index .trySend]

end Sample

end Hub

end Ferroq.Gateway.Server.SatoriWs
