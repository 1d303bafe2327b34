import Ferroq.Gateway.OneBotV12
import Ferroq.Gateway.Server.ForwardWs
import Ferroq.Gateway.Server.SatoriWs
import Ferroq.Library.Parts

/-!
# The counters of WebSocket connections

The handlers of three protocols share two counters.  A handler makes two separate
increments when it begins and one decrement at each of its exits.  Between these
it runs from one await to the next, and the steps of all handlers come in any
order.

The parsers of texts are parameters.
-/

namespace Ferroq.Gateway.Server.WsConnections

open Ferroq.Core
open Ferroq.Library
open Ferroq.Gateway.OneBotV12
open Ferroq.Gateway.Server.SatoriWs (Frame SatoriServer WsStats opOf)

inductive Operation where
  | addConnections
  | addConnectionsTotal
  | subConnections
  deriving DecidableEq

namespace Operation

def apply (stats : WsStats) : Operation → WsStats
  | addConnections => { stats with wsConnections := stats.wsConnections + 1 }
  | addConnectionsTotal => { stats with wsConnectionsTotal := stats.wsConnectionsTotal + 1 }
  | subConnections => { stats with wsConnections := stats.wsConnections - 1 }

end Operation

/-- What `ws_connect` does, one operation after the other. -/
def wsConnect : List Operation := [.addConnections, .addConnectionsTotal]

def wsDisconnect : List Operation := [.subConnections]

/-- Where a handler waits: for an IDENTIFY, for the socket to take the reply to a
wrong token, for the socket to close, for it to take READY, for the next frame,
for room in its queue.  Or it has returned. -/
inductive Stage where
  | identifying
  | refusing
  | closing
  | greeting (resumeSn : UInt64)
  | receiving
  | answering
  | returned
  deriving DecidableEq

/-- What ends a wait.  The stream yields a frame, an error or nothing more, the time
for an IDENTIFY is over, the socket takes a message or fails to, it is closed, or a
message is in the queue or given up. -/
inductive Wakeup where
  | received (frame : Frame)
  | failed
  | ended
  | timedOut
  | sent (taken : Bool)
  | closed
  | queued

/-- What a handler finds when it goes on: the configured token, and whether its
semaphore has a permit. -/
structure Surroundings where
  accessToken : String
  permit : Bool

/-- Where a handler goes on to, and the operations that it makes before. -/
abbrev Move := Stage × List Operation

/-- The loop of the handlers, which differ only in what they do with texts. -/
def receiveLoop (receiveText : String → Stage) : Stage → Wakeup → Option Move
  | .receiving, .received (.text text) => some (receiveText text, [])
  | .receiving, .received .close => some (.returned, wsDisconnect)
  | .receiving, .received .other => some (.receiving, [])
  | .receiving, .failed => some (.returned, wsDisconnect)
  | .receiving, .ended => some (.returned, wsDisconnect)
  | .answering, .queued => some (.receiving, [])
  | _, _ => none

/-- A move of a handler leads to another await without any operation, or it is an
exit with the one decrement. -/
def Move.Sound (move : Move) : Prop :=
  move.1 ≠ .returned ∧ move.2 = [] ∨ move.1 = .returned ∧ move.2 = wsDisconnect

theorem Move.Sound.await {stage : Stage} (waits : stage ≠ .returned) : Move.Sound (stage, []) :=
  .inl ⟨waits, rfl⟩

theorem Move.Sound.exit : Move.Sound (.returned, wsDisconnect) := .inr ⟨rfl, rfl⟩

theorem receiveLoop_sound {receiveText : String → Stage}
    (stays : ∀ text, receiveText text ≠ .returned) {stage : Stage} {wakeup : Wakeup} {move : Move}
    (moves : receiveLoop receiveText stage wakeup = some move) :
    stage ≠ .returned ∧ Move.Sound move := by
  unfold receiveLoop at moves
  split at moves
  next text =>
    cases moves
    exact ⟨by simp, .await (stays text)⟩
  next =>
    cases moves
    exact ⟨by simp, .exit⟩
  next =>
    cases moves
    exact ⟨by simp, .await (by simp)⟩
  next =>
    cases moves
    exact ⟨by simp, .exit⟩
  next =>
    cases moves
    exact ⟨by simp, .exit⟩
  next =>
    cases moves
    exact ⟨by simp, .await (by simp)⟩
  next => cases moves

/-- The Satori server, and how the v11 server reads requests. -/
structure WsServer extends SatoriServer where
  requestFromStr : String → Option ApiRequest

namespace WsServer

variable (server : WsServer) (surroundings : Surroundings)

/-- A request without a permit is turned away. -/
def receiveTextV11 (text : String) : Stage :=
  match server.requestFromStr text with
  | none => .receiving
  | some _ => if surroundings.permit then .receiving else .answering

def handleWsConnectionV11 : Stage → Wakeup → Option Move :=
  receiveLoop (server.receiveTextV11 surroundings)

/-- An action that cannot be translated is answered as well. -/
def receiveTextV12 (text : String) : Stage :=
  match server.fromStr text with
  | none => .receiving
  | some raw =>
      match parseV12Action raw with
      | .error _ => .answering
      | .ok _ => if surroundings.permit then .receiving else .answering

def handleWsConnectionV12 : Stage → Wakeup → Option Move :=
  receiveLoop (server.receiveTextV12 surroundings)

/-- A PING is answered. -/
def receiveTextSatori (text : String) : Stage :=
  match server.fromStr text with
  | none => .receiving
  | some signal => if opOf signal = 1 then .answering else .receiving

/-- What follows the wait for an IDENTIFY, if there is one; a wrong token is
answered first. -/
def afterIdentify : Option SatoriWs.Identify → Move
  | none => (.closing, [])
  | some identify =>
      let required := surroundings.accessToken
      if required ≠ "" ∧ identify.token ≠ required then (.refusing, [])
      else
        let (identifySignal, resumeSn) := (true, identify.sn)
        if !identifySignal then (.returned, wsDisconnect) else (.greeting resumeSn, [])

def handleWsConnectionSatori : Stage → Wakeup → Option Move
  | .identifying, .received frame =>
      match server.identifyOf frame with
      | none => some (.identifying, [])
      | some identify => some (afterIdentify surroundings (some identify))
  | .identifying, .failed => some (afterIdentify surroundings none)
  | .identifying, .ended => some (afterIdentify surroundings none)
  | .identifying, .timedOut => some (afterIdentify surroundings none)
  | .refusing, .sent _ => some (.closing, [])
  | .closing, .closed => some (.returned, wsDisconnect)
  | .greeting _, .sent taken =>
      if taken then some (.receiving, []) else some (.returned, wsDisconnect)
  | stage, wakeup => receiveLoop server.receiveTextSatori stage wakeup

variable {server surroundings} {stage : Stage} {wakeup : Wakeup} {move : Move}

theorem handleWsConnectionV11_sound
    (moves : server.handleWsConnectionV11 surroundings stage wakeup = some move) :
    stage ≠ .returned ∧ Move.Sound move := by
  apply receiveLoop_sound _ moves
  intro text
  unfold receiveTextV11
  split
  next => simp
  next => split <;> simp

theorem handleWsConnectionV12_sound
    (moves : server.handleWsConnectionV12 surroundings stage wakeup = some move) :
    stage ≠ .returned ∧ Move.Sound move := by
  apply receiveLoop_sound _ moves
  intro text
  unfold receiveTextV12
  split
  next => simp
  next =>
    split
    next => simp
    next => split <;> simp

theorem afterIdentify_sound (found : Option SatoriWs.Identify) :
    (afterIdentify surroundings found).Sound := by
  cases found with
  | none => exact .await (by simp)
  | some identify =>
      simp only [afterIdentify]
      split
      next => exact .await (by simp)
      next => exact .await (by simp)

theorem handleWsConnectionSatori_sound
    (moves : server.handleWsConnectionSatori surroundings stage wakeup = some move) :
    stage ≠ .returned ∧ Move.Sound move := by
  unfold handleWsConnectionSatori at moves
  split at moves
  next frame =>
    split at moves
    next =>
      cases moves
      exact ⟨by simp, .await (by simp)⟩
    next =>
      cases moves
      exact ⟨by simp, afterIdentify_sound _⟩
  next =>
    cases moves
    exact ⟨by simp, afterIdentify_sound none⟩
  next =>
    cases moves
    exact ⟨by simp, afterIdentify_sound none⟩
  next =>
    cases moves
    exact ⟨by simp, afterIdentify_sound none⟩
  next =>
    cases moves
    exact ⟨by simp, .await (by simp)⟩
  next =>
    cases moves
    exact ⟨by simp, .exit⟩
  next taken =>
    split at moves
    next =>
      cases moves
      exact ⟨by simp, .await (by simp)⟩
    next =>
      cases moves
      exact ⟨by simp, .exit⟩
  next =>
    apply receiveLoop_sound _ moves
    intro text
    unfold receiveTextSatori
    split
    next => simp
    next => split <;> simp

section SatoriServer

variable (server) (state : SatoriWs.ServerState) (connection : SatoriWs.Connection)

/-- The phase of a connection of the Satori server whose handler has got so far;
`sent` tells whether the socket takes READY. -/
def phaseOf (sent : Bool) : Stage → SatoriWs.Phase
  | .identifying => .identifying
  | .refusing => .closing
  | .closing => .closing
  | .greeting _ => if sent then .greeted else .closing
  | .receiving => .serving
  | .answering => .serving
  | .returned => .closing

/-- The handler takes the way that a connection of the Satori server takes at its
first frames. -/
theorem handshake_phase (identifying : connection.phase = .identifying) (permit : Bool)
    (frame : Frame) (sent : Bool) :
    ∃ stage, server.handleWsConnectionSatori ⟨state.sharedConfig.accessToken, permit⟩
        .identifying (.received frame) = some (stage, []) ∧
      (server.handshake state connection frame sent).phase = phaseOf sent stage := by
  cases found : server.identifyOf frame with
  | none =>
      exact ⟨.identifying, by simp [handleWsConnectionSatori, found],
        by simpa [SatoriServer.handshake, found, phaseOf] using identifying⟩
  | some identify =>
      simp only [handleWsConnectionSatori, SatoriServer.handshake, afterIdentify, found]
      by_cases wrong : state.sharedConfig.accessToken ≠ "" ∧
          identify.token ≠ state.sharedConfig.accessToken
      · rw [if_pos wrong, if_pos wrong]
        exact ⟨.refusing, rfl, rfl⟩
      · rw [if_neg wrong, if_neg wrong]
        refine ⟨.greeting identify.sn, rfl, ?_⟩
        cases sent <;> rfl

theorem receiveSignal_phase (serving : connection.phase = .serving)
    (free : connection.ponging = false) (frame : Frame) :
    ∃ move : Move, server.handleWsConnectionSatori surroundings .receiving (.received frame) =
        some move ∧
      (server.receiveSignal state connection frame).phase = phaseOf true move.1 ∧
      ((server.receiveSignal state connection frame).ponging = true ↔ move.1 = .answering) := by
  cases frame with
  | text text =>
      refine ⟨(server.receiveTextSatori text, []), rfl, ?_⟩
      cases read : server.fromStr text with
      | none => simp [receiveTextSatori, SatoriServer.receiveSignal, read, serving, free, phaseOf]
      | some signal =>
          by_cases ping : opOf signal = 1 <;>
            simp [receiveTextSatori, SatoriServer.receiveSignal, read, ping, serving, free, phaseOf]
  | close =>
      exact ⟨(.returned, wsDisconnect), rfl, rfl, by
        simp [SatoriServer.receiveSignal, SatoriWs.Connection.leave, free]⟩
  | other =>
      exact ⟨(.receiving, []), rfl, serving, by simp [SatoriServer.receiveSignal, free]⟩

end SatoriServer

end WsServer

inductive Protocol where
  | oneBotV11
  | oneBotV12
  | satori

namespace Protocol

def first : Protocol → Stage
  | oneBotV11 => .receiving
  | oneBotV12 => .receiving
  | satori => .identifying

def handleWsConnection (server : WsServer) (surroundings : Surroundings) :
    Protocol → Stage → Wakeup → Option Move
  | oneBotV11 => server.handleWsConnectionV11 surroundings
  | oneBotV12 => server.handleWsConnectionV12 surroundings
  | satori => server.handleWsConnectionSatori surroundings

theorem handleWsConnection_sound {server : WsServer} {surroundings : Surroundings}
    {protocol : Protocol} {stage : Stage} {wakeup : Wakeup} {move : Move}
    (moves : protocol.handleWsConnection server surroundings stage wakeup = some move) :
    stage ≠ .returned ∧ move.Sound := by
  cases protocol with
  | oneBotV11 => exact WsServer.handleWsConnectionV11_sound moves
  | oneBotV12 => exact WsServer.handleWsConnectionV12_sound moves
  | satori => exact WsServer.handleWsConnectionSatori_sound moves

end Protocol

/-- A handler, with the operations that it has still to make before it waits or
returns. -/
structure Handler where
  protocol : Protocol
  stage : Stage
  pending : List Operation

namespace Handler

def new (protocol : Protocol) : Handler := ⟨protocol, protocol.first, wsConnect⟩

def connected (handler : Handler) : Bool := .addConnections ∉ handler.pending

def finished (handler : Handler) : Bool := handler.stage = .returned ∧ handler.pending = []

/-- The handler has connected and not yet finished. -/
def active (handler : Handler) : Bool := handler.connected && !handler.finished

/-- The handler has left `ws_connect`. -/
def counted (handler : Handler) : Bool := .addConnectionsTotal ∉ handler.pending

/-- What is left of the operations fits to where the handler stands. -/
def Orderly (handler : Handler) : Prop :=
  if handler.stage = .returned then handler.pending <:+ wsDisconnect
  else handler.pending <:+ wsConnect

theorem orderly_new (protocol : Protocol) : (new protocol).Orderly := by
  cases protocol <;> exact List.suffix_refl wsConnect

end Handler

structure Hub where
  stats : WsStats
  handlers : List Handler

inductive Action where
  | start (protocol : Protocol)
  | perform (index : Nat)
  | wake (index : Nat) (surroundings : Surroundings) (wakeup : Wakeup)

namespace Handler

variable (protocol : Protocol) {stage : Stage}

theorem operation_cases {operation : Operation} {pending : List Operation}
    (orderly : Orderly ⟨protocol, stage, operation :: pending⟩) :
    stage ≠ .returned ∧ operation = .addConnections ∧ pending = [.addConnectionsTotal] ∨
      stage ≠ .returned ∧ operation = .addConnectionsTotal ∧ pending = [] ∨
      stage = .returned ∧ operation = .subConnections ∧ pending = [] := by
  unfold Orderly at orderly
  split at orderly
  next returned =>
    simp [wsDisconnect, List.suffix_cons_iff] at orderly
    exact .inr (.inr ⟨returned, orderly.1, orderly.2⟩)
  next waiting =>
    simp [wsConnect, List.suffix_cons_iff] at orderly
    rcases orderly with ⟨first, rest⟩ | ⟨second, rest⟩
    · exact .inl ⟨waiting, first, rest⟩
    · exact .inr (.inl ⟨waiting, second, rest⟩)

theorem books_of_operation {operation : Operation} {pending : List Operation}
    (orderly : Orderly ⟨protocol, stage, operation :: pending⟩) :
    let before : Handler := ⟨protocol, stage, operation :: pending⟩
    let after : Handler := ⟨protocol, stage, pending⟩
    operation = .addConnections ∧ before.active = false ∧ after.active = true ∧
        after.counted = before.counted ∨
      operation = .addConnectionsTotal ∧ after.active = before.active ∧
        before.counted = false ∧ after.counted = true ∨
      operation = .subConnections ∧ before.active = true ∧ after.active = false ∧
        after.counted = before.counted := by
  rcases operation_cases protocol orderly with
    ⟨waiting, rfl, rfl⟩ | ⟨waiting, rfl, rfl⟩ | ⟨returned, rfl, rfl⟩
  · left
    simp [active, connected, finished, counted]
  · right
    left
    simp [active, connected, finished, counted, waiting]
  · right
    right
    simp [active, connected, finished, counted, returned]

theorem orderly_tail {operation : Operation} {pending : List Operation}
    (orderly : Orderly ⟨protocol, stage, operation :: pending⟩) :
    Orderly ⟨protocol, stage, pending⟩ := by
  unfold Orderly at orderly ⊢
  split at orderly
  next returned =>
    rw [if_pos returned]
    exact (List.suffix_cons operation pending).trans orderly
  next waiting =>
    rw [if_neg waiting]
    exact (List.suffix_cons operation pending).trans orderly

theorem orderly_of_sound {move : Move} (sound : move.Sound) :
    Orderly ⟨protocol, move.1, move.2⟩ := by
  unfold Orderly
  rcases sound with ⟨waiting, none⟩ | ⟨returned, decrement⟩
  · simp [waiting, none]
  · simp [returned, decrement]

theorem active_of_sound {move : Move} (waiting : stage ≠ .returned) (sound : move.Sound) :
    active ⟨protocol, move.1, move.2⟩ = active ⟨protocol, stage, []⟩ ∧
      counted ⟨protocol, move.1, move.2⟩ = counted ⟨protocol, stage, []⟩ := by
  rcases sound with ⟨stays, none⟩ | ⟨returned, decrement⟩
  · simp [active, connected, finished, counted, stays, none, waiting]
  · simp [active, connected, finished, counted, returned, decrement, waiting, wsDisconnect]

end Handler

def Action.starts : Action → Bool
  | start _ => true
  | perform _ => false
  | wake _ _ _ => false

namespace Hub

def empty : Hub := ⟨⟨0, 0, 0⟩, []⟩

def step (server : WsServer) (hub : Hub) : Action → Option Hub
  | .start protocol => some { hub with handlers := hub.handlers ++ [.new protocol] }
  | .perform index =>
      match hub.handlers[index]? with
      | some ⟨protocol, stage, operation :: pending⟩ =>
          some
            { stats := operation.apply hub.stats
              handlers := hub.handlers.set index ⟨protocol, stage, pending⟩ }
      | _ => none
  | .wake index surroundings wakeup =>
      match hub.handlers[index]? with
      | some ⟨protocol, stage, []⟩ =>
          (protocol.handleWsConnection server surroundings stage wakeup).map fun (stage, pending) =>
            { hub with handlers := hub.handlers.set index ⟨protocol, stage, pending⟩ }
      | _ => none

def machine (server : WsServer) : Machine Hub Action := ⟨step server⟩

/-- The counters are those of the handlers' books, as words. -/
structure Booked (hub : Hub) : Prop where
  orderly : ∀ handler ∈ hub.handlers, handler.Orderly
  connections : hub.stats.wsConnections = UInt64.ofNat (hub.handlers.countP Handler.active)
  total : hub.stats.wsConnectionsTotal = UInt64.ofNat (hub.handlers.countP Handler.counted)

theorem booked_empty : Booked empty := by
  constructor
  · simp [empty]
  · rfl
  · rfl

theorem booked_start {hub : Hub} (booked : Booked hub) (protocol : Protocol) :
    Booked { hub with handlers := hub.handlers ++ [.new protocol] } := by
  have inactive : (Handler.new protocol).active = false := by
    simp [Handler.active, Handler.connected, Handler.new, wsConnect]
  have uncounted : (Handler.new protocol).counted = false := by
    simp [Handler.counted, Handler.new, wsConnect]
  constructor
  · exact forall_mem_concat booked.orderly (Handler.orderly_new protocol)
  · simp [inactive, booked.connections]
  · simp [uncounted, booked.total]

section Steps

variable {hub : Hub} {index : Nat} {protocol : Protocol} {stage : Stage}

theorem active_pos_of_subConnections (booked : Booked hub) {pending : List Operation}
    (found : hub.handlers[index]? = some ⟨protocol, stage, .subConnections :: pending⟩) :
    0 < hub.handlers.countP Handler.active := by
  have member := List.mem_of_getElem? found
  apply List.countP_pos_iff.mpr
  rcases Handler.books_of_operation protocol (booked.orderly _ member) with
    ⟨wrong, -⟩ | ⟨wrong, -⟩ | ⟨-, activeBefore, -⟩
  · cases wrong
  · cases wrong
  · exact ⟨_, member, activeBefore⟩

theorem booked_perform (booked : Booked hub) {operation : Operation} {pending : List Operation}
    (found : hub.handlers[index]? = some ⟨protocol, stage, operation :: pending⟩) :
    Booked
      { stats := operation.apply hub.stats
        handlers := hub.handlers.set index ⟨protocol, stage, pending⟩ } := by
  have orderly := booked.orderly _ (List.mem_of_getElem? found)
  have activeMoves := countP_set_add Handler.active found ⟨protocol, stage, pending⟩
  have countedMoves := countP_set_add Handler.counted found ⟨protocol, stage, pending⟩
  have laterOrderly := forall_mem_set booked.orderly (Handler.orderly_tail protocol orderly) index
  have connections := booked.connections
  have total := booked.total
  rcases Handler.books_of_operation protocol orderly with
    ⟨rfl, inactive, active, counted⟩ | ⟨rfl, active, uncounted, counted⟩ |
      ⟨rfl, active, inactive, counted⟩
  · simp [inactive, active] at activeMoves
    simp only [counted, Nat.add_right_cancel_iff] at countedMoves
    refine ⟨laterOrderly, ?_, ?_⟩
    · simp [Operation.apply, connections, activeMoves]
    · simp [Operation.apply, total, countedMoves]
  · simp only [active, Nat.add_right_cancel_iff] at activeMoves
    simp [uncounted, counted] at countedMoves
    refine ⟨laterOrderly, ?_, ?_⟩
    · simp [Operation.apply, connections, activeMoves]
    · simp [Operation.apply, total, countedMoves]
  · simp [inactive, active] at activeMoves
    simp only [counted, Nat.add_right_cancel_iff] at countedMoves
    refine ⟨laterOrderly, ?_, ?_⟩
    · simp [Operation.apply, connections, ← activeMoves]
    · simp [Operation.apply, total, countedMoves]

theorem booked_wake (booked : Booked hub)
    (found : hub.handlers[index]? = some ⟨protocol, stage, []⟩)
    (waiting : stage ≠ .returned) {move : Move} (sound : move.Sound) :
    Booked { hub with handlers := hub.handlers.set index ⟨protocol, move.1, move.2⟩ } := by
  have activeMoves := countP_set_add Handler.active found ⟨protocol, move.1, move.2⟩
  have countedMoves := countP_set_add Handler.counted found ⟨protocol, move.1, move.2⟩
  obtain ⟨sameActive, sameCounted⟩ := Handler.active_of_sound protocol waiting sound
  rw [sameActive] at activeMoves
  rw [sameCounted] at countedMoves
  constructor
  · exact forall_mem_set booked.orderly (Handler.orderly_of_sound protocol sound) index
  · rw [booked.connections, Nat.add_right_cancel activeMoves]
  · rw [booked.total, Nat.add_right_cancel countedMoves]

end Steps

variable {server : WsServer} {hub next : Hub} {action : Action}

inductive Moves (server : WsServer) (hub : Hub) : Action → Hub → Prop where
  | started (protocol : Protocol) :
      Moves server hub (.start protocol) { hub with handlers := hub.handlers ++ [.new protocol] }
  | performed {index : Nat} {protocol : Protocol} {stage : Stage} {operation : Operation}
      {pending : List Operation}
      (found : hub.handlers[index]? = some ⟨protocol, stage, operation :: pending⟩) :
      Moves server hub (.perform index)
        { stats := operation.apply hub.stats
          handlers := hub.handlers.set index ⟨protocol, stage, pending⟩ }
  | woken {index : Nat} {surroundings : Surroundings} {wakeup : Wakeup} {protocol : Protocol}
      {stage : Stage} {move : Move}
      (found : hub.handlers[index]? = some ⟨protocol, stage, []⟩)
      (moves : protocol.handleWsConnection server surroundings stage wakeup = some move) :
      Moves server hub (.wake index surroundings wakeup)
        { hub with handlers := hub.handlers.set index ⟨protocol, move.1, move.2⟩ }

theorem step_moves (stepped : (machine server).step hub action = some next) :
    Moves server hub action next := by
  change step server hub action = some next at stepped
  cases action with
  | start protocol =>
      cases stepped
      exact .started protocol
  | perform index =>
      simp only [step] at stepped
      split at stepped
      next found =>
        cases stepped
        exact .performed found
      next => cases stepped
  | wake index surroundings wakeup =>
      simp only [step] at stepped
      split at stepped
      next found =>
        obtain ⟨move, moves, rfl⟩ := Option.map_eq_some_iff.mp stepped
        exact .woken found moves
      next => cases stepped

theorem booked_step (booked : Booked hub)
    (stepped : (machine server).step hub action = some next) : Booked next := by
  cases step_moves stepped with
  | started protocol => exact booked_start booked protocol
  | performed found => exact booked_perform booked found
  | woken found moves =>
      obtain ⟨waiting, sound⟩ := Protocol.handleWsConnection_sound moves
      exact booked_wake booked found waiting sound

theorem booked_run {actions : List Action}
    (reached : (machine server).run empty actions = some hub) : Booked hub :=
  (machine server).run_invariant (fun _ _ _ booked stepped => booked_step booked stepped)
    booked_empty reached

theorem length_step (stepped : (machine server).step hub action = some next) :
    next.handlers.length = hub.handlers.length + if action.starts then 1 else 0 := by
  cases step_moves stepped with
  | started protocol => simp [Action.starts]
  | performed found => simp [Action.starts]
  | woken found moves => simp [Action.starts]

theorem length_run {actions : List Action} {final : Hub}
    (reached : (machine server).run hub actions = some final) :
    final.handlers.length = hub.handlers.length + actions.countP Action.starts := by
  induction actions generalizing hub with
  | nil =>
      cases reached
      simp
  | cons action rest inductionHypothesis =>
      obtain ⟨next, stepped, later⟩ := (machine server).run_cons_eq_some.mp reached
      rw [inductionHypothesis later, length_step stepped, List.countP_cons]
      omega

/-- Whatever the handlers do and in whatever order, one counter is the number of
those that have connected and not yet finished, and is decremented only while there
is one; the other is the number of those that have left `ws_connect`. -/
theorem counters_run (server : WsServer) (actions : List Action) {hub : Hub}
    (reached : (machine server).run empty actions = some hub) :
    hub.handlers.length = actions.countP Action.starts ∧
      hub.stats.wsConnections = UInt64.ofNat (hub.handlers.countP Handler.active) ∧
      hub.stats.wsConnectionsTotal = UInt64.ofNat (hub.handlers.countP Handler.counted) ∧
      (∀ (index : Nat) (protocol : Protocol) (stage : Stage) (pending : List Operation),
        hub.handlers[index]? = some ⟨protocol, stage, .subConnections :: pending⟩ →
          0 < hub.handlers.countP Handler.active) ∧
      (actions.countP Action.starts < 2 ^ 64 →
        hub.stats.wsConnections.toNat = hub.handlers.countP Handler.active ∧
          hub.stats.wsConnectionsTotal.toNat = hub.handlers.countP Handler.counted) ∧
      ((∀ handler ∈ hub.handlers, handler.finished = true) →
        hub.stats.wsConnections = 0 ∧
          hub.stats.wsConnectionsTotal = UInt64.ofNat (actions.countP Action.starts)) := by
  have booked := booked_run reached
  have length : hub.handlers.length = actions.countP Action.starts := by
    simpa [empty] using length_run reached
  refine ⟨length, booked.connections, booked.total, ?_, ?_, ?_⟩
  · intro index protocol stage pending found
    exact active_pos_of_subConnections booked found
  · intro few
    have small (test : Handler → Bool) : hub.handlers.countP test < 2 ^ 64 :=
      Nat.lt_of_le_of_lt List.countP_le_length (length ▸ few)
    rw [booked.connections, booked.total]
    exact ⟨UInt64.toNat_ofNat_of_lt' (small _), UInt64.toNat_ofNat_of_lt' (small _)⟩
  · intro finished
    have none : hub.handlers.countP Handler.active = 0 := by
      apply List.countP_eq_zero.mpr
      intro handler listed
      simp [Handler.active, finished handler listed]
    have all : hub.handlers.countP Handler.counted = hub.handlers.length := by
      apply List.countP_eq_length.mpr
      intro handler listed
      have returned := finished handler listed
      simp only [Handler.finished, decide_eq_true_eq] at returned
      simp [Handler.counted, returned.2]
    rw [booked.connections, booked.total, none, all, length]
    exact ⟨rfl, rfl⟩

def deafServer : WsServer where
  tuning := .read fun _ => none
  busCapacity := 4096
  fromStr := fun _ => none
  requestFromStr := fun _ => none

/-- Three clients connect at once.  The first one sends a close frame, the stream of
the second one fails, and the third one does not identify itself in time. -/
def threeClients : List Action :=
  [.start .oneBotV11, .start .oneBotV12, .start .satori, .perform 0, .perform 1, .perform 2,
    .perform 2, .perform 1, .perform 0, .wake 2 ⟨"", true⟩ .timedOut,
    .wake 0 ⟨"", true⟩ (.received .close), .wake 1 ⟨"", true⟩ .failed,
    .wake 2 ⟨"", true⟩ .closed, .perform 1, .perform 2, .perform 0]

theorem counters_run_threeClients :
    ∃ hub, (machine deafServer).run empty threeClients = some hub ∧
      hub.stats.wsConnections = 0 ∧ hub.stats.wsConnectionsTotal = 3 := by
  refine ⟨_, rfl, ?_⟩
  obtain ⟨-, -, -, -, -, completed⟩ := counters_run deafServer threeClients rfl
  exact completed (by decide)

theorem exists_run_of_starts (server : WsServer) (number : Nat) (hub : Hub)
    (all : ∀ handler ∈ hub.handlers, handler.counted = true) :
    ∃ actions final, (machine server).run hub actions = some final ∧
      final.handlers.length = hub.handlers.length + number ∧
      ∀ handler ∈ final.handlers, handler.counted = true := by
  induction number generalizing hub with
  | zero => exact ⟨[], hub, rfl, rfl, all⟩
  | succ number inductionHypothesis =>
      have connects : ∀ rest, (machine server).run hub (.start .oneBotV11 ::
            .perform hub.handlers.length :: .perform hub.handlers.length :: rest) =
          (machine server).run ⟨hub.stats.wsConnect,
            hub.handlers ++ [⟨.oneBotV11, .receiving, []⟩]⟩ rest := by
        intro rest
        simp [Machine.run, machine, step, Handler.new, Protocol.first, wsConnect,
          Operation.apply, WsStats.wsConnect]
      have allLater : ∀ handler ∈ hub.handlers ++ [⟨.oneBotV11, .receiving, []⟩],
          handler.counted = true :=
        forall_mem_concat all rfl
      obtain ⟨rest, final, reached, length, allFinal⟩ :=
        inductionHypothesis ⟨hub.stats.wsConnect, _⟩ allLater
      refine ⟨_, final, (connects rest).trans reached, ?_, allFinal⟩
      rw [length, List.length_append, List.length_singleton, Nat.add_assoc, Nat.add_comm 1]

/-- Between the two increments a handler is connected that the total does not count,
and after `2 ^ 64` handlers the total is zero again. -/
theorem counters_notExact :
    (∃ hub, (machine deafServer).run empty [.start .oneBotV11, .perform 0] = some hub ∧
      hub.handlers.countP Handler.active = 1 ∧ hub.stats.wsConnections = 1 ∧
      hub.stats.wsConnectionsTotal = 0) ∧
    ∃ actions hub, (machine deafServer).run empty actions = some hub ∧
      hub.handlers.length = 2 ^ 64 ∧ (∀ handler ∈ hub.handlers, handler.counted = true) ∧
      hub.stats.wsConnectionsTotal = 0 := by
  constructor
  · exact ⟨_, rfl, rfl, rfl, rfl⟩
  · obtain ⟨actions, hub, reached, length, all⟩ :=
      exists_run_of_starts deafServer (2 ^ 64) empty (by simp [empty])
    refine ⟨actions, hub, reached, by simpa [empty] using length, all, ?_⟩
    rw [(booked_run reached).total, List.countP_eq_length.mpr all, length]
    rfl

end Hub

end Ferroq.Gateway.Server.WsConnections
