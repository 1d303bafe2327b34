import Ferroq.Gateway.Lagrange.Inner
import Ferroq.Gateway.Official
import Ferroq.Core.Text
import Ferroq.Library.Escape
import Mathlib.Data.List.Infix

/-!
# One call of an official adapter

A call goes through the ways of addressing the backend until one of them
succeeds, and keeps that one for later.  The HTTP client with the backend behind
it is a parameter, as is the parsing of bodies.
-/

namespace Ferroq.Gateway

open Ferroq.Core
open Ferroq.Library

inductive ApiPathMode where
  | template
  | apiPrefixed
  | directAction
  | legacyBody
  deriving DecidableEq

def ApiPathMode.toText : ApiPathMode → String
  | template => "Template"
  | apiPrefixed => "ApiPrefixed"
  | directAction => "DirectAction"
  | legacyBody => "LegacyBody"

structure HttpRequest where
  url : String
  bearerAuth : Option String
  timeoutSecs : Nat
  body : Json

/-- What kept a request from being answered. -/
inductive SendFailure where
  | connectionRefused
  | connectTimeout
  | other
  deriving DecidableEq

structure SendError where
  failure : SendFailure
  text : String

/-- The request did not reach the backend. -/
def SendError.unconnected (error : SendError) : Bool := error.failure != .other

structure HttpResponse where
  status : Nat
  statusText : String
  body : Except String String

namespace Official

structure Exchange where
  name : String
  url : String
  accessToken : String
  apiTimeoutSecs : Nat
  inner : Official
  preferredMode : Option ApiPathMode
  send : ApiPathMode → HttpRequest → Except SendError HttpResponse
  fromStr : String → Except String Json
  responseFromStr : String → Option ApiResponse

namespace Exchange

variable (exchange : Exchange)

def normalizeBaseUrl : List Char := trimEndMatches (· == '/') exchange.url.toList

def actionPlaceholder : List Char := "\x7baction\x7d".toList

/-- The ways to try, the preferred one first. -/
def candidateModes : List ApiPathMode :=
  let preferred := exchange.preferredMode.toList
  let template :=
    if actionPlaceholder <:+: exchange.url.toList then [ApiPathMode.template] else []
  (template ++ [ApiPathMode.apiPrefixed, .directAction, .legacyBody]).foldl
    (fun modes mode => if mode ∈ modes then modes else modes ++ [mode]) preferred

def buildActionUrl (action : String) (mode : ApiPathMode) : String :=
  let base := exchange.normalizeBaseUrl
  String.ofList <|
    match mode with
    | .template =>
        replaceWord '\x7b' (actionPlaceholder.drop 1) action.toList exchange.url.toList
    | .apiPrefixed =>
        if "/api".toList <:+ base then base ++ '/' :: action.toList
        else base ++ "/api/".toList ++ action.toList
    | .directAction => base ++ '/' :: action.toList
    | .legacyBody => base

def httpRequest (mode : ApiPathMode) (request : ApiRequest) : HttpRequest :=
  { url := exchange.buildActionUrl request.action mode
    bearerAuth := if exchange.accessToken.isEmpty then none else some exchange.accessToken
    timeoutSecs := exchange.apiTimeoutSecs
    body :=
      match mode with
      | .legacyBody => request.toJson
      | _ => request.params }

def truncateBody (body : String) (maxChars : Nat) : String :=
  if body.toList.length ≤ maxChars then body
  else String.ofList (body.toList.take maxChars) ++ "..."

def isSuccess (status : Nat) : Bool := 200 ≤ status && status < 300

/-- The response read from a value that is no serialized response. -/
def responseOfValue (value : Json) (requestEcho : Option Json) : ApiResponse :=
  { status := ((value.get "status").bind Json.asStr).getD "ok"
    retcode := (((value.get "retcode").bind Json.asI64).getD 0).toInt32
    data := (value.get "data").getD value
    message := ((value.get "message").bind Json.asStr).getD ""
    echo := (value.get "echo").or requestEcho }

def parseApiResponse (action : String) (response : HttpResponse) (body : String)
    (requestEcho : Option Json) : Except GatewayError ApiResponse :=
  if !isSuccess response.status then
    .error (.http (s!"official API call failed: action={action}, " ++
      s!"status={response.statusText}, body={truncateBody body 256}"))
  else if body.toList.all isWhitespace then
    .ok ((ApiResponse.ok .null).withEcho requestEcho)
  else
    match exchange.responseFromStr body with
    | some parsed => .ok { parsed with echo := parsed.echo.or requestEcho }
    | none =>
        match exchange.fromStr body with
        | .error error => .error (.http s!"invalid JSON response for {action}: {error}")
        | .ok value => .ok (responseOfValue value requestEcho)

def callWithMode (mode : ApiPathMode) (request : ApiRequest) :
    Except GatewayError ApiResponse :=
  match exchange.send mode (exchange.httpRequest mode request) with
  | .error error =>
      .error (.http (s!"official API request failed (mode={mode.toText}, " ++
        s!"action={request.action}): {error.text}"))
  | .ok response =>
      match response.body with
      | .error error =>
          .error (.http ("failed reading official API response body " ++
            s!"(action={request.action}): {error}"))
      | .ok body => exchange.parseApiResponse request.action response body request.echo

def requestFailed (action : String) : GatewayError :=
  .http s!"official backend '{exchange.name}' request failed for action '{action}'"

/-- Try the remaining ways, with the error of the one before; a successful way
comes with its response. -/
def tryModes (request : ApiRequest) :
    Option GatewayError → List ApiPathMode → Except GatewayError (ApiPathMode × ApiResponse)
  | lastError, [] => .error (lastError.getD (exchange.requestFailed request.action))
  | _, mode :: rest =>
      match exchange.callWithMode mode request with
      | .ok response => .ok (mode, response)
      | .error error => tryModes request (some error) rest

def discoverAndCall (request : ApiRequest) : Except GatewayError (ApiPathMode × ApiResponse) :=
  exchange.tryModes request none exchange.candidateModes

/-- The account learned from the response to a login request. -/
def maybeUpdateSelfId (action : String) (response : ApiResponse) : Official :=
  if action = "get_login_info" then
    match (response.data.get "user_id").bind Json.asI64 with
    | some selfId => { exchange.inner with selfId := some selfId }
    | none => exchange.inner
  else exchange.inner

def callApi (request : ApiRequest) : Exchange × Except GatewayError ApiResponse :=
  if exchange.inner.state ≠ .connected then
    (exchange, .error (Lagrange.Inner.notConnected exchange.name exchange.inner.state))
  else
    match exchange.discoverAndCall request with
    | .error error => (exchange, .error error)
    | .ok (mode, response) =>
        ({ exchange with
            preferredMode := some mode
            inner := exchange.maybeUpdateSelfId request.action response }, .ok response)

/-- An attempt gets no connection to the backend. -/
def Refused (mode : ApiPathMode) (request : ApiRequest) : Prop :=
  ∃ error, exchange.send mode (exchange.httpRequest mode request) = .error error ∧
    error.unconnected = true

/-- Every attempt fails, and the last one for want of a connection. -/
def Unreached (request : ApiRequest) : Prop :=
  (∀ mode ∈ exchange.candidateModes, ∃ error, exchange.callWithMode mode request = .error error) ∧
    ∃ mode ∈ exchange.candidateModes.getLast?, exchange.Refused mode request

variable {exchange} {request : ApiRequest}

/-- A failed attempt is reported as an HTTP error, whatever has failed. -/
theorem callWithMode_http {mode : ApiPathMode} {error : GatewayError}
    (failed : exchange.callWithMode mode request = .error error) :
    ∃ message, error = .http message := by
  unfold callWithMode at failed
  split at failed
  next =>
    cases failed
    exact ⟨_, rfl⟩
  next =>
    split at failed
    next =>
      cases failed
      exact ⟨_, rfl⟩
    next =>
      unfold parseApiResponse at failed
      split at failed
      next =>
        cases failed
        exact ⟨_, rfl⟩
      next =>
        split at failed
        next => cases failed
        next =>
          split at failed
          next => cases failed
          next =>
            split at failed
            next =>
              cases failed
              exact ⟨_, rfl⟩
            next => cases failed

theorem tryModes_http {lastError : Option GatewayError} {modes : List ApiPathMode}
    {error : GatewayError} (before : ∀ error ∈ lastError, ∃ message, error = .http message)
    (failed : exchange.tryModes request lastError modes = .error error) :
    ∃ message, error = .http message := by
  induction modes generalizing lastError with
  | nil =>
      cases failed
      cases lastError with
      | none => exact ⟨_, rfl⟩
      | some last => exact before last rfl
  | cons mode rest inductionHypothesis =>
      simp only [tryModes] at failed
      split at failed
      next => cases failed
      next current attempt =>
        apply inductionHypothesis _ failed
        intro last same
        cases same
        exact callWithMode_http attempt

theorem tryModes_error {lastError : Option GatewayError} {modes : List ApiPathMode}
    (fails : ∀ mode ∈ modes, ∃ error, exchange.callWithMode mode request = .error error) :
    ∃ error, exchange.tryModes request lastError modes = .error error := by
  induction modes generalizing lastError with
  | nil => exact ⟨_, rfl⟩
  | cons mode rest inductionHypothesis =>
      obtain ⟨error, failed⟩ := fails mode List.mem_cons_self
      simp only [tryModes, failed]
      exact inductionHypothesis fun later member => fails later (List.mem_cons_of_mem _ member)

/-- A connected adapter reports that its backend cannot be reached as an HTTP
error. -/
theorem callApi_of_unreached (connected : exchange.inner.state = .connected)
    (unreached : exchange.Unreached request) :
    ∃ message, (exchange.callApi request).2 = .error (.http message) := by
  obtain ⟨error, failed⟩ : ∃ error, exchange.discoverAndCall request = .error error :=
    tryModes_error unreached.1
  obtain ⟨message, rfl⟩ := tryModes_http (by simp) failed
  exact ⟨message, by simp [callApi, connected, failed]⟩

theorem callApi_of_unconnected (unconnected : exchange.inner.state ≠ .connected) :
    (exchange.callApi request).2 =
      .error (Lagrange.Inner.notConnected exchange.name exchange.inner.state) := by
  simp [callApi, unconnected]

end Exchange

end Official

end Ferroq.Gateway
