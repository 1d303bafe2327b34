import Ferroq.Gateway.OneBotV11
import Ferroq.Gateway.Router
import Ferroq.Gateway.Tuning
import Ferroq.Library.Machine
import Ferroq.Library.Tally

/-!
# The forward WebSocket of the v11 server

One connection that stays open.  The receive loop spawns a task for every request
that finds a permit, another task pushes events, and a third one writes what the
others have queued.  Each of them runs up to its next await in one step, and the
steps come in any order.  Meanwhile the router may change in any way.

The parser of texts is a parameter, and so is what the backends answer.
-/

namespace Ferroq.Gateway.Server.ForwardWs

open Ferroq.Core
open Ferroq.Library
open Ferroq.Gateway.OneBotV11

variable {Adapter : Type}

structure Routing (Adapter : Type) where
  router : ApiRouter Adapter
  info : Adapter → AdapterInfo

abbrev Outcome := Except GatewayError (ApiResponse × String)

inductive Stage (Adapter : Type) where
  | routing
  | calling (adapter : Adapter) (name : String)
  | replying (outcome : Outcome)
  | sent
  | finished

structure Task (Adapter : Type) where
  frame : Nat
  request : ApiRequest
  stage : Stage Adapter

/-- An item of the writer's queue.  A reply notes its frame and whether the
request was turned away. -/
inductive Outbound where
  | event (json : Json)
  | reply (frame : Nat) (overload : Bool) (response : ApiResponse)

/-- Where the receive loop stands: it waits for a frame, or it turns a request
away, or it is about to count that. -/
inductive Receiving where
  | waiting
  | rejecting (frame : Nat) (response : ApiResponse)
  | counting

inductive Frame where
  | text (text : String)
  | other

structure Session (Adapter : Type) where
  routing : Routing Adapter
  past : List (Routing Adapter)
  /-- The text frames received so far. -/
  frames : List String
  receiving : Receiving
  tasks : List (Task Adapter)
  permits : Nat
  queue : List Outbound
  writing : Option Outbound
  written : List Outbound
  apiCalls : List String
  apiRejected : Nat
  eventsDropped : Nat

inductive Action (Adapter : Type) where
  | receive (frame : Frame)
  | push (event : Event)
  | reroute (routing : Routing Adapter)
  | enqueueRejection
  | countRejection
  | route (index : Nat)
  | answer (index : Nat)
  | enqueueReply (index : Nat)
  | release (index : Nat)
  | take
  | write

/-- Whether a step needs nobody outside of the connection but the backends and
the client that reads. -/
def Action.Internal : Action Adapter → Prop
  | .receive _ | .push _ | .reroute _ => False
  | _ => True

def overloaded (echo : Option Json) : ApiResponse :=
  (ApiResponse.fail 1400 "too many in-flight WS API requests").withEcho echo

def respond (echo : Option Json) : Outcome → ApiResponse
  | .ok (response, _) => { response with echo := echo }
  | .error error => (ApiResponse.fail 1400 error.toText).withEcho echo

/-- What stays the same for a connection: its limits, the parser of texts, and
what the backends answer to the call for the frame of a number. -/
structure Connection (Adapter : Type) where
  tuning : Tuning
  fromStr : String → Option Json
  backend : Nat → Adapter → ApiRequest → Except GatewayError ApiResponse

namespace Connection

variable (connection : Connection Adapter)

def start (routing : Routing Adapter) : Session Adapter :=
  { routing := routing, past := [], frames := [], receiving := .waiting, tasks := [],
    permits := connection.tuning.wsApiMaxInFlight, queue := [], writing := none, written := [],
    apiCalls := [], apiRejected := 0, eventsDropped := 0 }

def parseRequest (text : String) : Option ApiRequest :=
  (connection.fromStr text).bind ApiRequest.deserialize

/-- A text that is no request is ignored; a request without a permit is turned
away. -/
def receiveText (session : Session Adapter) (text : String) : Session Adapter :=
  match connection.parseRequest text with
  | none => { session with frames := session.frames ++ [text] }
  | some request =>
      if session.permits = 0 then
        { session with
          frames := session.frames ++ [text]
          receiving := .rejecting session.frames.length (overloaded request.echo) }
      else
        { session with
          frames := session.frames ++ [text]
          permits := session.permits - 1
          tasks := session.tasks ++ [⟨session.frames.length, request, .routing⟩] }

def HasRoom (session : Session Adapter) : Prop :=
  session.queue.length < connection.tuning.wsOutboundQueueCapacity

instance (session : Session Adapter) : Decidable (connection.HasRoom session) :=
  inferInstanceAs (Decidable (_ < _))

/-- An event that finds no room is dropped. -/
def pushEvent (session : Session Adapter) (event : Event) : Session Adapter :=
  if connection.HasRoom session then
    { session with queue := session.queue ++ [.event (eventToJson event)] }
  else { session with eventsDropped := session.eventsDropped + 1 }

/-- A request goes to the adapter that the router selects, or fails at once. -/
def routeStage (routing : Routing Adapter) (request : ApiRequest) : Stage Adapter :=
  match routing.router.routeTarget routing.info request with
  | .ok (adapter, name) => .calling adapter name
  | .error error => .replying (.error error)

def outcomeOf (frame : Nat) (request : ApiRequest) (adapter : Adapter) (name : String) : Outcome :=
  (connection.backend frame adapter request).map fun response => (response, name)

def recordApiCall (apiCalls : List String) : Outcome → List String
  | .ok (_, name) => apiCalls ++ [name]
  | .error _ => apiCalls

def step (session : Session Adapter) : Action Adapter → Option (Session Adapter)
  | .receive frame =>
      match session.receiving, frame with
      | .waiting, .text text => some (connection.receiveText session text)
      | .waiting, .other => some session
      | _, _ => none
  | .push event => some (connection.pushEvent session event)
  | .reroute routing =>
      some { session with routing := routing, past := session.routing :: session.past }
  | .enqueueRejection =>
      match session.receiving with
      | .rejecting frame response =>
          if connection.HasRoom session then
            some
              { session with
                receiving := .counting
                queue := session.queue ++ [.reply frame true response] }
          else none
      | _ => none
  | .countRejection =>
      match session.receiving with
      | .counting =>
          some { session with receiving := .waiting, apiRejected := session.apiRejected + 1 }
      | _ => none
  | .route index =>
      match session.tasks[index]? with
      | some ⟨frame, request, .routing⟩ =>
          some
            { session with
              tasks := session.tasks.set index
                ⟨frame, request, routeStage session.routing request⟩ }
      | _ => none
  | .answer index =>
      match session.tasks[index]? with
      | some ⟨frame, request, .calling adapter name⟩ =>
          let outcome := connection.outcomeOf frame request adapter name
          some
            { session with
              tasks := session.tasks.set index ⟨frame, request, .replying outcome⟩
              apiCalls := recordApiCall session.apiCalls outcome }
      | _ => none
  | .enqueueReply index =>
      match session.tasks[index]? with
      | some ⟨frame, request, .replying outcome⟩ =>
          if connection.HasRoom session then
            some
              { session with
                tasks := session.tasks.set index ⟨frame, request, .sent⟩
                queue := session.queue ++ [.reply frame false (respond request.echo outcome)] }
          else none
      | _ => none
  | .release index =>
      match session.tasks[index]? with
      | some ⟨frame, request, .sent⟩ =>
          some
            { session with
              tasks := session.tasks.set index ⟨frame, request, .finished⟩
              permits := session.permits + 1 }
      | _ => none
  | .take =>
      match session.queue, session.writing with
      | next :: rest, none => some { session with queue := rest, writing := some next }
      | _, _ => none
  | .write =>
      match session.writing with
      | some item =>
          some { session with writing := none, written := session.written ++ [item] }
      | none => none

def machine : Machine (Session Adapter) (Action Adapter) := ⟨connection.step⟩

inductive Moves (session : Session Adapter) : Action Adapter → Session Adapter → Prop where
  | other (idle : session.receiving = .waiting) : Moves session (.receive .other) session
  | unparsed {text : String} (idle : session.receiving = .waiting)
      (parsed : connection.parseRequest text = none) :
      Moves session (.receive (.text text)) { session with frames := session.frames ++ [text] }
  | rejected {text : String} {request : ApiRequest} (idle : session.receiving = .waiting)
      (parsed : connection.parseRequest text = some request) (full : session.permits = 0) :
      Moves session (.receive (.text text))
        { session with
          frames := session.frames ++ [text]
          receiving := .rejecting session.frames.length (overloaded request.echo) }
  | spawned {text : String} {request : ApiRequest} (idle : session.receiving = .waiting)
      (parsed : connection.parseRequest text = some request) (free : session.permits ≠ 0) :
      Moves session (.receive (.text text))
        { session with
          frames := session.frames ++ [text]
          permits := session.permits - 1
          tasks := session.tasks ++ [⟨session.frames.length, request, .routing⟩] }
  | pushed (event : Event) (room : connection.HasRoom session) :
      Moves session (.push event)
        { session with queue := session.queue ++ [.event (eventToJson event)] }
  | dropped (event : Event) (full : ¬ connection.HasRoom session) :
      Moves session (.push event) { session with eventsDropped := session.eventsDropped + 1 }
  | rerouted (routing : Routing Adapter) :
      Moves session (.reroute routing)
        { session with routing := routing, past := session.routing :: session.past }
  | enqueuedRejection {frame : Nat} {response : ApiResponse}
      (receiving : session.receiving = .rejecting frame response)
      (room : connection.HasRoom session) :
      Moves session .enqueueRejection
        { session with
          receiving := .counting
          queue := session.queue ++ [.reply frame true response] }
  | countedRejection (receiving : session.receiving = .counting) :
      Moves session .countRejection
        { session with receiving := .waiting, apiRejected := session.apiRejected + 1 }
  | routed {index frame : Nat} {request : ApiRequest}
      (found : session.tasks[index]? = some ⟨frame, request, .routing⟩) :
      Moves session (.route index)
        { session with
          tasks := session.tasks.set index ⟨frame, request, routeStage session.routing request⟩ }
  | answered {index frame : Nat} {request : ApiRequest} {adapter : Adapter} {name : String}
      (found : session.tasks[index]? = some ⟨frame, request, .calling adapter name⟩) :
      Moves session (.answer index)
        { session with
          tasks := session.tasks.set index
            ⟨frame, request, .replying (connection.outcomeOf frame request adapter name)⟩
          apiCalls := recordApiCall session.apiCalls
            (connection.outcomeOf frame request adapter name) }
  | enqueuedReply {index frame : Nat} {request : ApiRequest} {outcome : Outcome}
      (found : session.tasks[index]? = some ⟨frame, request, .replying outcome⟩)
      (room : connection.HasRoom session) :
      Moves session (.enqueueReply index)
        { session with
          tasks := session.tasks.set index ⟨frame, request, .sent⟩
          queue := session.queue ++ [.reply frame false (respond request.echo outcome)] }
  | released {index frame : Nat} {request : ApiRequest}
      (found : session.tasks[index]? = some ⟨frame, request, .sent⟩) :
      Moves session (.release index)
        { session with
          tasks := session.tasks.set index ⟨frame, request, .finished⟩
          permits := session.permits + 1 }
  | taken {next : Outbound} {rest : List Outbound} (queued : session.queue = next :: rest)
      (free : session.writing = none) :
      Moves session .take { session with queue := rest, writing := some next }
  | wrote {item : Outbound} (held : session.writing = some item) :
      Moves session .write
        { session with writing := none, written := session.written ++ [item] }

theorem moves_of_receiveText {session : Session Adapter} (text : String)
    (idle : session.receiving = .waiting) :
    connection.Moves session (.receive (.text text)) (connection.receiveText session text) := by
  unfold receiveText
  cases parsed : connection.parseRequest text with
  | none => exact .unparsed idle parsed
  | some request =>
      dsimp only
      split
      next full => exact .rejected idle parsed full
      next free => exact .spawned idle parsed free

theorem moves_of_pushEvent (session : Session Adapter) (event : Event) :
    connection.Moves session (.push event) (connection.pushEvent session event) := by
  unfold pushEvent
  split
  next room => exact .pushed event room
  next full => exact .dropped event full

theorem moves_of_step {session next : Session Adapter} {action : Action Adapter}
    (stepped : connection.step session action = some next) :
    connection.Moves session action next := by
  cases action with
  | receive frame =>
      simp only [step] at stepped
      split at stepped
      next text idle =>
        cases stepped
        exact connection.moves_of_receiveText text idle
      next idle =>
        cases stepped
        exact .other idle
      next => cases stepped
  | push event =>
      cases stepped
      exact connection.moves_of_pushEvent session event
  | reroute routing =>
      cases stepped
      exact .rerouted routing
  | enqueueRejection =>
      simp only [step] at stepped
      split at stepped
      next frame response receiving =>
        split at stepped
        next room =>
          cases stepped
          exact .enqueuedRejection receiving room
        next => cases stepped
      next => cases stepped
  | countRejection =>
      simp only [step] at stepped
      split at stepped
      next receiving =>
        cases stepped
        exact .countedRejection receiving
      next => cases stepped
  | route index =>
      simp only [step] at stepped
      split at stepped
      next frame request found =>
        cases stepped
        exact .routed found
      next => cases stepped
  | answer index =>
      simp only [step] at stepped
      split at stepped
      next frame request adapter name found =>
        cases stepped
        exact .answered found
      next => cases stepped
  | enqueueReply index =>
      simp only [step] at stepped
      split at stepped
      next frame request outcome found =>
        split at stepped
        next room =>
          cases stepped
          exact .enqueuedReply found room
        next => cases stepped
      next => cases stepped
  | release index =>
      simp only [step] at stepped
      split at stepped
      next frame request found =>
        cases stepped
        exact .released found
      next => cases stepped
  | take =>
      simp only [step] at stepped
      split at stepped
      next item rest queued free =>
        cases stepped
        exact .taken queued free
      next => cases stepped
  | write =>
      simp only [step] at stepped
      split at stepped
      next item held =>
        cases stepped
        exact .wrote held
      next => cases stepped

end Connection

end Ferroq.Gateway.Server.ForwardWs
