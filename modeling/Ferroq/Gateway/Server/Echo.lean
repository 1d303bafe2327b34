import Ferroq.Gateway.Server.OneBot

/-!
# The echo of a reply

A reply should carry the echo of the client's request.  The v11 WebSocket
always puts it back.  The v12 handlers put it back only after an error, and the
legacy v11 handler never: their other replies carry what the backend echoed,
which is the adapter's counter.
-/

namespace Ferroq.Gateway.Server

open Ferroq.Core
open Ferroq.Gateway.Lagrange
open Ferroq.Gateway.OneBotV12

variable {Adapter : Type}

inductive Endpoint where
  | v12Http
  | v12HttpNamed (action : String)
  | v12WebSocket
  | v11HttpLegacy

namespace ServerState

variable (state : ServerState Adapter)

def reply (endpoint : Endpoint) (message : ClientMessage) : Option Json :=
  match endpoint with
  | .v12Http => (state.handleHttpAction message).body
  | .v12HttpNamed action => (state.handleHttpActionNamed action message).body
  | .v12WebSocket => state.handleWsMessage message
  | .v11HttpLegacy => (state.handleHttpApiLegacy message).body

def clientEcho (endpoint : Endpoint) (message : ClientMessage) : Option Json :=
  match endpoint with
  | .v11HttpLegacy => (state.requestFromStr message.body).toOption.bind ApiRequest.echo
  | _ => (state.fromStr message.body).toOption.bind (Json.get "echo")

def forwarded (endpoint : Endpoint) (message : ClientMessage) : Option ApiRequest :=
  match endpoint with
  | .v12Http =>
      (state.fromStr message.body).toOption.bind fun raw => (parseV12Action raw).toOption
  | .v12HttpNamed action =>
      (parseV12Action (Json.ofFields [("action", .string action),
        ("params", (state.fromStr message.body).toOption.getD .null)])).toOption
  | .v12WebSocket =>
      if message.permit then
        (state.fromStr message.body).toOption.bind fun raw => (parseV12Action raw).toOption
      else none
  | .v11HttpLegacy => (state.requestFromStr message.body).toOption

def answerTo (request : ApiRequest) : Option Json :=
  match state.router.routeTarget state.info request with
  | .error _ => none
  | .ok (adapter, _) => (state.exchange adapter).acceptedAnswer

def backendAnswer (endpoint : Endpoint) (message : ClientMessage) : Option Json :=
  (state.forwarded endpoint message).bind state.answerTo

variable {state}

theorem routeNamed_cases (request : ApiRequest) :
    (∃ frame name, state.answerTo request = some frame ∧
      state.routeNamed request = .ok (responseOf frame, name)) ∨
    (state.answerTo request = none ∧ ∃ error, state.routeNamed request = .error error) := by
  unfold answerTo routeNamed ApiRouter.routeNamed
  cases state.router.routeTarget state.info request with
  | error error => exact .inr ⟨rfl, error, rfl⟩
  | ok target =>
      rcases target with ⟨adapter, name⟩
      rcases (state.exchange adapter).callApi_cases request with
        ⟨frame, answered, succeeded⟩ | ⟨unanswered, error, failed⟩
      · left
        refine ⟨frame, name, answered, ?_⟩
        change ((state.exchange adapter).callApi request).2.bind _ = _
        rw [succeeded]
        rfl
      · right
        refine ⟨unanswered, error, ?_⟩
        change ((state.exchange adapter).callApi request).2.bind _ = _
        rw [failed]
        rfl

/-- The answering frame carries the adapter's counter as its echo. -/
theorem get_echo_of_answerTo {request : ApiRequest} {frame : Json}
    (answered : state.answerTo request = some frame) :
    ∃ value, frame.get "echo" = some value := by
  unfold answerTo at answered
  cases target : state.router.routeTarget state.info request with
  | error error =>
      rw [target] at answered
      cases answered
  | ok target' =>
      rw [target] at answered
      exact get_echo_of_echoOf (Exchange.echoOf_acceptedAnswer answered)

theorem v12Response_echo_iff {request : ApiRequest} {frame e : Json} (action : String)
    (answered : state.answerTo request = some frame) :
    (translateV11Response action (responseOf frame)).get "echo" = some e ↔
      ∀ frame ∈ state.answerTo request, frame.get "echo" = some e := by
  rcases get_echo_of_answerTo answered with ⟨value, echoed⟩
  simp [answered, echoed]

theorem toOption_eq_some {Error Value : Type} {result : Except Error Value} {value : Value}
    (succeeded : result.toOption = some value) : result = .ok value := by
  cases result with
  | error error => cases succeeded
  | ok found =>
      cases succeeded
      rfl

theorem exists_of_v12Echo {message : ClientMessage} {e : Json}
    (sent : (state.fromStr message.body).toOption.bind (Json.get "echo") = some e) :
    ∃ raw, state.fromStr message.body = .ok raw ∧ raw.get "echo" = some e := by
  rcases Option.bind_eq_some_iff.mp sent with ⟨raw, parsed, echoed⟩
  exact ⟨raw, toOption_eq_some parsed, echoed⟩

variable {endpoint : Endpoint} {message : ClientMessage} {e reply : Json}

theorem v12Routed_echo_iff {request : ApiRequest} {action : String}
    (translates : ∀ response name, state.routeNamed request = .ok (response, name) →
      reply = translateV11Response action response)
    (keeps : ∀ error, state.routeNamed request = .error error → reply.get "echo" = some e) :
    reply.get "echo" = some e ↔
      ∀ frame ∈ state.answerTo request, frame.get "echo" = some e := by
  rcases state.routeNamed_cases request with
    ⟨frame, name, answered, succeeded⟩ | ⟨unanswered, error, failed⟩
  · rw [translates _ name succeeded]
    exact v12Response_echo_iff action answered
  · simp [unanswered, keeps error failed]

theorem v12Http_echo_iff (sent : state.clientEcho .v12Http message = some e)
    (replied : state.reply .v12Http message = some reply) :
    reply.get "echo" = some e ↔
      ∀ frame ∈ state.backendAnswer .v12Http message, frame.get "echo" = some e := by
  rcases exists_of_v12Echo sent with ⟨raw, parsed, echoed⟩
  simp only [ServerState.reply, handleHttpAction, parsed] at replied
  split at replied
  next => cases replied
  next =>
    cases translated : parseV12Action raw with
    | error error =>
        rw [translated] at replied
        cases replied
        simp [backendAnswer, forwarded, parsed, translated, echoed, Except.toOption]
    | ok request =>
        have passed : state.backendAnswer .v12Http message = state.answerTo request := by
          simp [backendAnswer, forwarded, parsed, translated, Except.toOption]
        rw [passed]
        apply v12Routed_echo_iff
        · intro response name succeeded
          simp only [translated, succeeded] at replied
          exact (Option.some.inj replied).symm
        · intro error failed
          simp only [translated, failed] at replied
          cases replied
          simp [echoed]

theorem v12HttpNamed_echo_iff {action : String}
    (sent : state.clientEcho (.v12HttpNamed action) message = some e)
    (replied : state.reply (.v12HttpNamed action) message = some reply) :
    reply.get "echo" = some e ↔
      ∀ frame ∈ state.backendAnswer (.v12HttpNamed action) message,
        frame.get "echo" = some e := by
  rcases exists_of_v12Echo sent with ⟨params, parsed, echoed⟩
  simp only [ServerState.reply, handleHttpActionNamed, parsed, Except.toOption,
    Option.getD_some] at replied
  split at replied
  next => cases replied
  next =>
    cases translated : parseV12Action
        (Json.ofFields [("action", .string action), ("params", params)]) with
    | error error =>
        rw [translated] at replied
        cases replied
        simp [backendAnswer, forwarded, parsed, translated, echoed, Except.toOption]
    | ok request =>
        have passed : state.backendAnswer (.v12HttpNamed action) message =
            state.answerTo request := by
          simp [backendAnswer, forwarded, parsed, translated, Except.toOption]
        rw [passed]
        apply v12Routed_echo_iff
        · intro response name succeeded
          simp only [translated, succeeded] at replied
          exact (Option.some.inj replied).symm
        · intro error failed
          simp only [translated, failed] at replied
          cases replied
          simp [echoed]

theorem v12WebSocket_echo_iff (sent : state.clientEcho .v12WebSocket message = some e)
    (replied : state.reply .v12WebSocket message = some reply) :
    reply.get "echo" = some e ↔
      ∀ frame ∈ state.backendAnswer .v12WebSocket message, frame.get "echo" = some e := by
  rcases exists_of_v12Echo sent with ⟨raw, parsed, echoed⟩
  simp only [ServerState.reply, handleWsMessage, parsed] at replied
  cases translated : parseV12Action raw with
  | error error =>
      rw [translated] at replied
      cases replied
      simp [backendAnswer, forwarded, parsed, translated, echoed, Except.toOption]
  | ok request =>
      by_cases permit : message.permit = true
      · have passed : state.backendAnswer .v12WebSocket message = state.answerTo request := by
          simp [backendAnswer, forwarded, parsed, translated, permit, Except.toOption]
        rw [passed]
        apply v12Routed_echo_iff
        · intro response name succeeded
          simp only [translated, succeeded, permit] at replied
          exact (Option.some.inj replied).symm
        · intro error failed
          simp only [translated, failed, permit] at replied
          cases replied
          simp [echoed]
      · simp only [translated, permit] at replied
        cases replied
        simp [backendAnswer, forwarded, permit, echoed]

theorem v11HttpLegacy_echo_iff (sent : state.clientEcho .v11HttpLegacy message = some e)
    (replied : state.reply .v11HttpLegacy message = some reply) :
    reply.get "echo" = some e ↔
      ∃ frame ∈ state.backendAnswer .v11HttpLegacy message, frame.get "echo" = some e := by
  rcases Option.bind_eq_some_iff.mp sent with ⟨request, parsed, echoed⟩
  have accepted := toOption_eq_some parsed
  have passed : state.backendAnswer .v11HttpLegacy message = state.answerTo request := by
    simp [backendAnswer, forwarded, accepted, Except.toOption]
  simp only [ServerState.reply, handleHttpApiLegacy, accepted] at replied
  rw [passed]
  split at replied
  next => cases replied
  next =>
    rcases state.routeNamed_cases request with
      ⟨frame, name, answered, succeeded⟩ | ⟨unanswered, error, failed⟩
    · rw [succeeded] at replied
      cases replied
      simp [answered]
    · rw [failed] at replied
      cases replied
      simp [unanswered, ApiResponse.fail]

/-- The condition under which a reply carries the client's echo. -/
def EchoSurvives (state : ServerState Adapter) (endpoint : Endpoint) (message : ClientMessage)
    (e : Json) : Prop :=
  match endpoint with
  | .v11HttpLegacy =>
      ∃ frame ∈ state.backendAnswer endpoint message, frame.get "echo" = some e
  | _ => ∀ frame ∈ state.backendAnswer endpoint message, frame.get "echo" = some e

/-- A reply carries exactly the echo that the client sent when no backend
answers with another echo, and for the legacy endpoint when one answers with
this very echo. -/
theorem reply_echo_iff (sent : state.clientEcho endpoint message = some e)
    (replied : state.reply endpoint message = some reply) :
    reply.get "echo" = some e ↔ state.EchoSurvives endpoint message e := by
  cases endpoint with
  | v12Http => exact v12Http_echo_iff sent replied
  | v12HttpNamed action => exact v12HttpNamed_echo_iff sent replied
  | v12WebSocket => exact v12WebSocket_echo_iff sent replied
  | v11HttpLegacy => exact v11HttpLegacy_echo_iff sent replied

end ServerState

/-- A server with one connected Lagrange backend that answers the first call.
Its parsers know one request, whose echo is given. -/
def oneBackend (echo : Json) : ServerState Unit :=
  { accessToken := ""
    fromStr := fun _ => .ok (.ofFields [("action", .string "get_status"), ("echo", echo)])
    requestFromStr := fun _ => .ok { action := "get_status", echo := some echo }
    router :=
      { routingTable := .empty, adapters := [()], defaultIndex := some 0 }
    info := fun _ =>
      { name := "main", backendType := "lagrange", url := "ws://127.0.0.1:8081"
        state := .connected, selfId := none }
    exchange := fun _ =>
      { name := "main"
        apiTimeoutSecs := 15
        echoCounter := 1
        inner := Lagrange.Inner.new.install 0 1
        call := 0
        writerOpen := fun _ => true
        frames := [.ofFields
          [("status", .string "ok"), ("retcode", .number (.posInt 0)), ("data", .null),
            ("echo", .string "1")]]
        silence := .timedOut } }

theorem reply_echo_iff_counter :
    ∃ reply, (oneBackend (.string "1")).reply .v12Http { body := "" } = some reply ∧
      (reply.get "echo" = some (.string "1") ↔
        (oneBackend (.string "1")).EchoSurvives .v12Http { body := "" } (.string "1")) :=
  ⟨_, rfl, ServerState.reply_echo_iff rfl rfl⟩

/-- The reply carries another echo than the client has sent. -/
def EchoReplaced (endpoint : Endpoint) (sent answered : Json) : Prop :=
  (oneBackend sent).clientEcho endpoint { body := "" } = some sent ∧
    ∃ reply, (oneBackend sent).reply endpoint { body := "" } = some reply ∧
      reply.get "echo" = some answered ∧ reply.get "echo" ≠ some sent

/-- A client that sends the echo `abc` is answered with the adapter's counter
by each of the three endpoints. -/
theorem reply_echo_replaced :
    EchoReplaced .v12Http (.string "abc") (.string "1") ∧
      EchoReplaced .v12WebSocket (.string "abc") (.string "1") ∧
      EchoReplaced .v11HttpLegacy (.string "abc") (.string "1") := by
  have other : some (Json.string "1") ≠ some (.string "abc") := by simp
  exact ⟨⟨rfl, _, rfl, rfl, other⟩, ⟨rfl, _, rfl, rfl, other⟩, ⟨rfl, _, rfl, rfl, other⟩⟩

end Ferroq.Gateway.Server
