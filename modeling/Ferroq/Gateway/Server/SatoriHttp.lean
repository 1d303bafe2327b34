import Ferroq.Gateway.Satori.Api
import Ferroq.Gateway.Satori.Responses
import Ferroq.Gateway.Server.OneBot

/-!
# The Satori HTTP handler

A call is answered with the data of the backend's response, in a form that
depends on the called method.  Only failures before the response have a status
of their own, so that a failed response shows by the form of its data alone.
-/

namespace Ferroq.Gateway.Server.SatoriHttp

open Ferroq.Core
open Ferroq.Gateway.OneBotV12 (parseI64)
open Ferroq.Gateway.Satori

variable {Adapter : Type}

structure ServerState (Adapter : Type) where
  accessToken : String
  fromStr : String → Except String Json
  router : ApiRouter Adapter
  info : Adapter → AdapterInfo
  callApi : Adapter → ApiRequest → Except GatewayError ApiResponse

/-- A call of a client, with its method from the path and two headers. -/
structure Call where
  resourceMethod : String
  authorization : Option String := none
  userId : Option String := none
  body : String

def checkAuth (token : String) (authorization : Option String) : Bool :=
  token.isEmpty || authorization.bind (stripStart "Bearer ") == some token

def extractSelfId (userId : Option String) : Option Int64 := userId.bind parseI64

def messageText (message : String) : String :=
  (Json.ofFields [("message", .string message)]).toText

namespace ServerState

def parseBody (state : ServerState Adapter) (body : String) : Except String Json :=
  if body.isEmpty then .ok (.object []) else state.fromStr body

def handleHttpApi (state : ServerState Adapter) (call : Call) : HttpReply :=
  if !checkAuth state.accessToken call.authorization then
    .rejected 401 (messageText "unauthorized")
  else
    let selfId := extractSelfId call.userId
    match state.parseBody call.body with
    | .error error => .rejected 400 (messageText s!"invalid JSON: {error}")
    | .ok body =>
        match parseSatoriApi call.resourceMethod body selfId with
        | .error error => .rejected 404 (messageText error.toText)
        | .ok request =>
            match state.router.routeNamed state.info state.callApi request with
            | .ok (response, _) => .json (translateResponse call.resourceMethod response)
            | .error error => .rejected 500 (messageText error.toText)

def answering (state : ServerState Adapter) (response : ApiResponse) : ServerState Adapter :=
  { state with callApi := fun _ _ => .ok response }

structure Reaches (state : ServerState Adapter) (call : Call) (adapter : Adapter)
    (request : ApiRequest) : Prop where
  authorized : checkAuth state.accessToken call.authorization = true
  parsed : ∃ body, state.parseBody call.body = .ok body ∧
    parseSatoriApi call.resourceMethod body (extractSelfId call.userId) = .ok request
  routed : ∃ name, state.router.routeTarget state.info request = .ok (adapter, name)

variable {state : ServerState Adapter} {call : Call} {adapter : Adapter} {request : ApiRequest}

theorem handleHttpApi_answering (reaches : state.Reaches call adapter request)
    (response : ApiResponse) :
    (state.answering response).handleHttpApi call =
      .json (translateResponse call.resourceMethod response) := by
  obtain ⟨document, read, translated⟩ := reaches.parsed
  obtain ⟨name, target⟩ := reaches.routed
  have passed : checkAuth (state.answering response).accessToken call.authorization = true :=
    reaches.authorized
  have body : (state.answering response).parseBody call.body = .ok document := read
  have answered : (state.answering response).router.routeNamed (state.answering response).info
      (state.answering response).callApi request = .ok (response, name) := by
    change state.router.routeNamed state.info (fun _ _ => .ok response) request = _
    rw [ApiRouter.routeNamed, target]
    rfl
  unfold handleHttpApi
  simp only [passed, body, translated, answered, Bool.not_true, Bool.false_eq_true, if_false]

/-- A call that reaches no backend is refused, whatever the backends answer. -/
theorem handleHttpApi_refused
    (unreached : ∀ adapter request, ¬ state.Reaches call adapter request) :
    ∃ status text, ∀ response,
      (state.answering response).handleHttpApi call = .rejected status text := by
  cases authorized : checkAuth state.accessToken call.authorization with
  | false =>
      refine ⟨401, messageText "unauthorized", fun response => ?_⟩
      unfold handleHttpApi
      simp only [answering, authorized, Bool.not_false, if_true]
  | true =>
      have passed (response : ApiResponse) :
          checkAuth (state.answering response).accessToken call.authorization = true := authorized
      have body (response : ApiResponse) :
          (state.answering response).parseBody call.body = state.parseBody call.body := rfl
      cases read : state.parseBody call.body with
      | error error =>
          refine ⟨400, messageText s!"invalid JSON: {error}", fun response => ?_⟩
          unfold handleHttpApi
          simp only [passed, body, read, Bool.not_true, Bool.false_eq_true, if_false]
      | ok document =>
          cases translated : parseSatoriApi call.resourceMethod document
              (extractSelfId call.userId) with
          | error error =>
              refine ⟨404, messageText error.toText, fun response => ?_⟩
              unfold handleHttpApi
              simp only [passed, body, read, translated, Bool.not_true, Bool.false_eq_true,
                if_false]
          | ok request =>
              cases target : state.router.routeTarget state.info request with
              | error error =>
                  have failed (response : ApiResponse) :
                      (state.answering response).router.routeNamed (state.answering response).info
                        (state.answering response).callApi request = .error error := by
                    change state.router.routeNamed state.info (fun _ _ => .ok response) request = _
                    rw [ApiRouter.routeNamed, target]
                    rfl
                  refine ⟨500, messageText error.toText, fun response => ?_⟩
                  unfold handleHttpApi
                  simp only [passed, body, read, translated, failed, Bool.not_true,
                    Bool.false_eq_true, if_false]
              | ok found =>
                  exact absurd ⟨authorized, ⟨document, read, translated⟩, found.2, target⟩
                    (unreached found.1 request)

/-- A failed call can be told from every successful one of its method exactly
if the data of the failed response does not have the form of a success. -/
theorem failureTold_iff (reaches : state.Reaches call adapter request) {failed : ApiResponse}
    (failure : failed.retcode ≠ 0) :
    (∀ (other : Call) (adapter : Adapter) (request : ApiRequest) (response : ApiResponse),
      other.resourceMethod = call.resourceMethod → state.Reaches other adapter request →
      response.retcode = 0 →
      (state.answering failed).handleHttpApi call ≠
        (state.answering response).handleHttpApi other) ↔
      ¬ SuccessShape call.resourceMethod failed.data := by
  rw [← translateResponse_ne_iff call.resourceMethod failure, handleHttpApi_answering reaches]
  constructor
  · intro told response success same
    refine told call adapter request response rfl reaches success ?_
    rw [handleHttpApi_answering reaches, same]
  · intro differ other adapter' request' response method otherReaches success same
    rw [handleHttpApi_answering otherReaches, method] at same
    exact differ response success (HttpReply.json.inj same)

end ServerState

section Samples

def oneBackend : ServerState Unit :=
  { accessToken := ""
    fromStr := fun _ => .ok (.object [])
    router := { routingTable := .empty, adapters := [()], defaultIndex := some 0 }
    info := fun _ =>
      { name := "main", backendType := "lagrange", url := "ws://127.0.0.1:8081"
        state := .connected, selfId := none }
    callApi := fun _ _ => .ok (.ok .null) }

def calling (resourceMethod : String) : Call := { resourceMethod := resourceMethod, body := "" }

def refused : ApiResponse := .fail 100 "refused"

theorem reaches_friendList :
    oneBackend.Reaches (calling "friend.list") ()
      { action := "get_friend_list", params := .object [] } :=
  ⟨rfl, ⟨.object [], rfl, rfl⟩, "main", rfl⟩

theorem reaches_messageDelete :
    oneBackend.Reaches (calling "message.delete") ()
      { action := "delete_msg", params := .object [] } :=
  ⟨rfl, ⟨.object [], rfl, rfl⟩, "main", rfl⟩

theorem failureTold_iff_friendList :
    (∀ (other : Call) (adapter : Unit) (request : ApiRequest) (response : ApiResponse),
      other.resourceMethod = "friend.list" → oneBackend.Reaches other adapter request →
      response.retcode = 0 →
      (oneBackend.answering refused).handleHttpApi (calling "friend.list") ≠
        (oneBackend.answering response).handleHttpApi other) ↔
      ¬ SuccessShape "friend.list" .null :=
  ServerState.failureTold_iff reaches_friendList (by decide)

/-- The refusal to delete a message is answered as the deletion is. -/
theorem refusal_notTold :
    oneBackend.Reaches (calling "message.delete") ()
        { action := "delete_msg", params := .object [] } ∧
      refused.retcode ≠ 0 ∧ (ApiResponse.ok .null).retcode = 0 ∧
      (oneBackend.answering refused).handleHttpApi (calling "message.delete") =
        (oneBackend.answering (.ok .null)).handleHttpApi (calling "message.delete") :=
  ⟨reaches_messageDelete, by decide, rfl, rfl⟩

end Samples

end Ferroq.Gateway.Server.SatoriHttp
