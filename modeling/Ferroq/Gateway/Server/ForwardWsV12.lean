import Ferroq.Gateway.OneBotV12.Events
import Ferroq.Gateway.Server.OneBot
import Ferroq.Gateway.Server.RoutedCalls

/-!
# The forward WebSocket of the v12 server

A connection serves calls as one of the v11 server does, with replies of its own: an
action that cannot be read is answered before a permit is asked for, and what an
adapter has answered is translated.  Here the writer may fail and the client may hang
up, after which the calls that are in flight go on.
-/

namespace Ferroq.Gateway.Server.ForwardWsV12

open Ferroq.Core Ferroq.Library
open Ferroq.Gateway.OneBotV12
open Ferroq.Gateway.Server.ForwardWs (Connection Frame Outcome Routing)

variable {Adapter : Type}

/-- What is sent to the client, with the adapter whose call the statistics count for
it. -/
structure Answer where
  json : Json
  adapter : Option String

/-- An action with what its reply needs of the text. -/
structure Call where
  originalAction : String
  echo : Option Json
  request : ApiRequest

def invalidAction (error : GatewayError) (echo : Option Json) : Answer :=
  ⟨v12ErrorResponse 10001 error.toText echo, none⟩

def tooManyRequests (call : Call) : Answer :=
  ⟨v12ErrorResponse 20002 "too many in-flight WS API requests" call.echo, none⟩

def respond (call : Call) : Outcome → Answer
  | .ok (response, name) => ⟨translateV11Response call.originalAction response, some name⟩
  | .error error => ⟨v12ErrorResponse 20002 error.toText call.echo, none⟩

def askJson (raw : Json) : Asked Call Answer :=
  let originalAction := ((raw.get "action").bind Json.asStr).getD ""
  let echo := raw.get "echo"
  match parseV12Action raw with
  | .error error => .refused (invalidAction error echo)
  | .ok request => .call ⟨originalAction, echo, request⟩

abbrev Session (Adapter : Type) :=
  CallSession Frame Call (Work Adapter Call) (Routing Adapter) Answer Event

section Service

variable (connection : Connection Adapter)

def ask : Frame → Asked Call Answer
  | .other => .nothing
  | .text text => (connection.fromStr text).elim .nothing askJson

def dialect : Dialect Call Answer where
  ask := ask connection
  request := Call.request
  turnAway := tooManyRequests
  respond := respond

def service : CallService Frame Call (Work Adapter Call) (Routing Adapter) Answer :=
  (dialect connection).service connection

/-- The call of an action, as a whole, by the router of some time. -/
def Served (routings : List (Routing Adapter)) (number : Nat) (call : Call) (answer : Answer) :
    Prop :=
  ∃ routing ∈ routings, answer =
    respond call (routing.router.routeNamed routing.info (connection.backend number) call.request)

end Service

variable {connection : Connection Adapter} {number : Nat} {session : Session Adapter}

theorem handleWsMessage_eq {state : ServerState Adapter} {message : ClientMessage} {raw : Json}
    (parsed : state.fromStr message.body = .ok raw) :
    state.handleWsMessage message =
      match askJson raw with
      | .nothing => none
      | .refused answer => some answer.json
      | .call call =>
          some (if message.permit then (respond call (state.routeNamed call.request)).json
            else (tooManyRequests call).json) := by
  simp only [ServerState.handleWsMessage, parsed, askJson]
  cases parseV12Action raw with
  | error error => rfl
  | ok request =>
      cases message.permit with
      | false => rfl
      | true =>
          dsimp only
          cases state.routeNamed request <;> rfl

end Ferroq.Gateway.Server.ForwardWsV12
