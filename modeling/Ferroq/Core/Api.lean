import Ferroq.Core.Serde

/-!
# Requests, responses and errors

The backend-agnostic request and response records that every layer passes on,
with the gateway's error type.
-/

namespace Ferroq.Core

structure ApiRequest where
  action : String
  params : Json := .null
  echo : Option Json := none
  selfId : Option Int64 := none

/-- The serialized request; an absent echo and an absent account are left
out. -/
def ApiRequest.toJson (request : ApiRequest) : Json :=
  .ofFields
    ([("action", .string request.action), ("params", request.params)] ++
      (request.echo.map fun echo => ("echo", echo)).toList ++
      (request.selfId.map fun selfId => ("self_id", .number (.ofInt64 selfId))).toList)

namespace ApiRequest

open Serde

def readAny (value : Json) : Option Json := some (readValue value)

/-- A request from its fields; only the action has to be there. -/
def ofFields (fields : List (String × Json)) : Option ApiRequest := do
  let action ← requiredField "action" readText fields
  let params ← sole (values "params" fields)
  let echo ← nullableField "echo" readAny fields
  let selfId ← nullableField "self_id" readI64 fields
  some
    { action := action, params := (params.map readValue).getD .null, echo := echo,
      selfId := selfId }

/-- A request from its values alone, in the order of the fields. -/
def ofItems : List Json → Option ApiRequest
  | [action, params, echo, selfId] => do
      let action ← readText action
      let echo ← nullable readAny (some echo)
      let selfId ← nullable readI64 (some selfId)
      some { action := action, params := readValue params, echo := echo, selfId := selfId }
  | _ => none

def deserialize : Json → Option ApiRequest
  | .object fields => ofFields fields
  | .array items => ofItems items
  | _ => none

def given : Option Json → Option Json
  | none => none
  | some .null => none
  | some value => some (readValue value)

def sentEcho : Json → Option Json
  | .object fields => given (fields.lookup "echo")
  | .array items => given items[2]?
  | _ => none

theorem nullable_readAny (found : Option Json) : nullable readAny found = some (given found) := by
  cases found with
  | none => rfl
  | some value => cases value <;> rfl

theorem echo_of_deserialize {document : Json} {request : ApiRequest}
    (read : deserialize document = some request) : request.echo = sentEcho document := by
  cases document with
  | null | bool _ | number _ | string _ => cases read
  | object fields =>
      simp only [deserialize, ofFields, nullableField, Option.bind_eq_bind,
        Option.bind_eq_some_iff] at read
      obtain ⟨action, _, params, _, echo, ⟨named, alone, echoed⟩, selfId, _, built⟩ := read
      rw [nullable_readAny, ← lookup_of_sole alone] at echoed
      cases built
      exact (Option.some.inj echoed).symm
  | array items =>
      simp only [deserialize] at read
      unfold ofItems at read
      split at read
      next action params named selfId =>
        simp only [Option.bind_eq_bind, Option.bind_eq_some_iff] at read
        obtain ⟨action, _, echo, echoed, selfId, _, built⟩ := read
        rw [nullable_readAny] at echoed
        cases built
        exact (Option.some.inj echoed).symm
      next => cases read

end ApiRequest

structure ApiResponse where
  status : String
  retcode : Int32
  data : Json
  message : String := ""
  echo : Option Json := none

namespace ApiResponse

def ok (data : Json) : ApiResponse :=
  { status := "ok", retcode := 0, data := data }

def fail (retcode : Int32) (message : String) : ApiResponse :=
  { status := "failed", retcode := retcode, data := .null, message := message }

def withEcho (response : ApiResponse) (echo : Option Json) : ApiResponse :=
  { response with echo := echo }

/-- The serialized response; an absent echo is left out. -/
def toJson (response : ApiResponse) : Json :=
  let fields :=
    [("status", .string response.status),
      ("retcode", .number (.ofInt64 response.retcode.toInt64)),
      ("data", response.data),
      ("message", .string response.message)]
  match response.echo with
  | none => .ofFields fields
  | some echo => .ofFields (fields ++ [("echo", echo)])

open Serde

/-- A response from its fields; only the message and the echo may be missing. -/
def ofFields (fields : List (String × Json)) : Option ApiResponse := do
  let status ← requiredField "status" readText fields
  let retcode ← requiredField "retcode" readI32 fields
  let data ← requiredField "data" ApiRequest.readAny fields
  let message ← sole (values "message" fields)
  let message ← message.elim (some "") readText
  let echo ← nullableField "echo" ApiRequest.readAny fields
  some { status := status, retcode := retcode, data := data, message := message, echo := echo }

/-- A response from its values alone, in the order of the fields. -/
def ofItems : List Json → Option ApiResponse
  | [status, retcode, data, message, echo] => do
      let status ← readText status
      let retcode ← readI32 retcode
      let message ← readText message
      let echo ← nullable ApiRequest.readAny (some echo)
      some
        { status := status, retcode := retcode, data := readValue data, message := message,
          echo := echo }
  | _ => none

def deserialize : Json → Option ApiResponse
  | .object fields => ofFields fields
  | .array items => ofItems items
  | _ => none

theorem retcode_of_ofFields {fields : List (String × Json)} {response : ApiResponse}
    (read : ofFields fields = some response) :
    (readValue (.object fields)).get "retcode" = some (.integer32 response.retcode) := by
  simp only [ofFields, requiredField, Option.bind_eq_bind, Option.bind_eq_some_iff] at read
  obtain ⟨status, -, retcode, ⟨value, ⟨named, alone, given⟩, number⟩, data, -, message, -, text, -,
    echo, -, built⟩ := read
  cases built
  cases given
  rw [get_readValue_of_sole alone, eq_integer32 number, readValue_integer32]

@[simp]
theorem get_echo_toJson (response : ApiResponse) :
    response.toJson.get "echo" = response.echo := by
  unfold toJson
  cases response.echo with
  | none => simp [Json.get_ofFields, List.lookup_cons]
  | some echo => simp [Json.get_ofFields]

end ApiResponse

inductive GatewayError where
  | connection (message : String)
  | backendApi (action : String) (retcode : Int32) (message : String)
  | config (message : String)
  | serialization (message : String)
  | webSocket (message : String)
  | http (message : String)
  | storage (message : String)
  | plugin (message : String)
  | auth (message : String)
  | accountNotFound (message : String)
  | internal (message : String)
  deriving DecidableEq

def GatewayError.toText : GatewayError → String
  | connection message => s!"backend connection error: {message}"
  | backendApi action retcode message =>
      s!"backend API error: {action} returned code {retcode.toInt}: {message}"
  | config message => s!"configuration error: {message}"
  | serialization message => s!"serialization error: {message}"
  | webSocket message => s!"websocket error: {message}"
  | http message => s!"http error: {message}"
  | storage message => s!"storage error: {message}"
  | plugin message => s!"plugin error: {message}"
  | auth message => s!"authentication error: {message}"
  | accountNotFound message => s!"account not found: {message}"
  | internal message => s!"internal error: {message}"

end Ferroq.Core
