import Ferroq.Gateway.Lagrange.Call
import Ferroq.Gateway.OneBotV12
import Ferroq.Gateway.Router

/-!
# The OneBot front ends

The HTTP and WebSocket handlers of the OneBot v12 and v11 servers.  Parsing of
request texts is a parameter; the backends behind the router are Lagrange
adapters, each with the exchange that its next call meets.

A Lagrange adapter replaces the echo of a request by its own counter, and its
responses carry what the backend echoed.  The handlers below differ in whether
they put the client's echo back.
-/

namespace Ferroq.Gateway.Server

open Ferroq.Core
open Ferroq.Gateway.Lagrange
open Ferroq.Gateway.OneBotV12

variable {Adapter : Type}

structure ServerState (Adapter : Type) where
  accessToken : String
  fromStr : String → Except String Json
  requestFromStr : String → Except String ApiRequest
  router : ApiRouter Adapter
  info : Adapter → AdapterInfo
  exchange : Adapter → Exchange

/-- What a client sends; a WebSocket message may find no free permit. -/
structure ClientMessage where
  authorization : Option String := none
  queryToken : Option String := none
  body : String
  permit : Bool := true

inductive HttpReply where
  | rejected (status : Nat) (text : String)
  | json (body : Json)

namespace HttpReply

def body : HttpReply → Option Json
  | rejected _ _ => none
  | json body => some body

end HttpReply

def stripStart (start text : String) : Option String :=
  if start.toList.isPrefixOf text.toList then
    some (String.ofList (text.toList.drop start.length))
  else none

def unauthorized : HttpReply := .rejected 401 "access token mismatch or missing"

/-- The token check; the schemes are those accepted in the header. -/
def checkAccessToken (schemes : List String) (token : String) (message : ClientMessage) : Bool :=
  token.isEmpty ||
    (message.authorization.bind fun header =>
      schemes.findSome? fun scheme => stripStart scheme header) == some token ||
    message.queryToken == some token

namespace ServerState

def routeNamed (state : ServerState Adapter) (request : ApiRequest) :
    Except GatewayError (ApiResponse × String) :=
  state.router.routeNamed state.info
    (fun adapter request => ((state.exchange adapter).callApi request).2) request

/-- The v12 handler of `POST /action`. -/
def handleHttpAction (state : ServerState Adapter) (message : ClientMessage) : HttpReply :=
  if !checkAccessToken ["Bearer "] state.accessToken message then unauthorized
  else
    match state.fromStr message.body with
    | .error error => .json (v12ErrorResponse 10001 s!"invalid request: {error}" none)
    | .ok raw =>
        let originalAction := ((raw.get "action").bind Json.asStr).getD ""
        let echo := raw.get "echo"
        match parseV12Action raw with
        | .error error => .json (v12ErrorResponse 10001 error.toText echo)
        | .ok request =>
            match state.routeNamed request with
            | .ok (response, _) => .json (translateV11Response originalAction response)
            | .error error => .json (v12ErrorResponse 20002 error.toText echo)

/-- The v12 handler of `POST /action/{action}`. -/
def handleHttpActionNamed (state : ServerState Adapter) (action : String)
    (message : ClientMessage) : HttpReply :=
  if !checkAccessToken ["Bearer "] state.accessToken message then unauthorized
  else
    let params := (state.fromStr message.body).toOption.getD .null
    let echo := params.get "echo"
    let raw := Json.ofFields [("action", .string action), ("params", params)]
    match parseV12Action raw with
    | .error error => .json (v12ErrorResponse 10001 error.toText echo)
    | .ok request =>
        match state.routeNamed request with
        | .ok (response, _) => .json (translateV11Response action response)
        | .error error => .json (v12ErrorResponse 20002 error.toText echo)

/-- The v12 WebSocket's reply to a text; an invalid one is ignored. -/
def handleWsMessage (state : ServerState Adapter) (message : ClientMessage) : Option Json :=
  match state.fromStr message.body with
  | .error _ => none
  | .ok raw =>
      let originalAction := ((raw.get "action").bind Json.asStr).getD ""
      let echo := raw.get "echo"
      match parseV12Action raw with
      | .error error => some (v12ErrorResponse 10001 error.toText echo)
      | .ok request =>
          if !message.permit then
            some (v12ErrorResponse 20002 "too many in-flight WS API requests" echo)
          else
            match state.routeNamed request with
            | .ok (response, _) => some (translateV11Response originalAction response)
            | .error error => some (v12ErrorResponse 20002 error.toText echo)

/-- The v11 handler of `POST /api`. -/
def handleHttpApiLegacy (state : ServerState Adapter) (message : ClientMessage) : HttpReply :=
  if !checkAccessToken ["Bearer ", "Token "] state.accessToken message then unauthorized
  else
    match state.requestFromStr message.body with
    | .error error =>
        .json (ApiResponse.fail 1400 s!"invalid request: {error}").toJson
    | .ok request =>
        match state.routeNamed request with
        | .ok (response, _) => .json response.toJson
        | .error error => .json (ApiResponse.fail 1400 error.toText).toJson

/-- The v11 WebSocket's reply to a text. -/
def handleWsMessageV11 (state : ServerState Adapter) (message : ClientMessage) : Option Json :=
  match state.requestFromStr message.body with
  | .error _ => none
  | .ok request =>
      let echo := request.echo
      if !message.permit then
        some ((ApiResponse.fail 1400 "too many in-flight WS API requests").withEcho echo).toJson
      else
        match state.routeNamed request with
        | .ok (response, _) => some { response with echo := echo }.toJson
        | .error error => some ((ApiResponse.fail 1400 error.toText).withEcho echo).toJson

end ServerState

end Ferroq.Gateway.Server
