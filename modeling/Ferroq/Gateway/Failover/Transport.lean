import Ferroq.Gateway.Failover
import Ferroq.Gateway.Official.Call

/-!
# Failover and unreachable backends

A Lagrange adapter reports an unreachable backend as a connection error, on
which the failover adapter turns to its fallback.  An official adapter reports
it as an HTTP error while it is connected, and it stays connected without a
backend, so its calls are not repeated.
-/

namespace Ferroq.Gateway

open Ferroq.Core

inductive BackendExchange where
  | lagrange (exchange : Lagrange.Exchange)
  | official (exchange : Official.Exchange)

namespace BackendExchange

/-- The call of the adapter; an official adapter hands every request that it
does not refuse to its HTTP client. -/
def callApi : BackendExchange → BackendCall
  | lagrange exchange, request => exchange.callApi request
  | official exchange, request =>
      (if exchange.inner.state = .connected then some request else none,
        (exchange.callApi request).2)

/-- The call fails because the backend cannot be reached. -/
def Unreached : BackendExchange → ApiRequest → Prop
  | lagrange exchange, _ => ¬ exchange.Accepts
  | official exchange, request =>
      exchange.inner.state ≠ .connected ∨ exchange.Unreached request

end BackendExchange

namespace FailoverAdapter

inductive Side where
  | primary
  | fallback
  deriving DecidableEq

/-- The adapters that a call invokes, each with the request it is given. -/
def invoked (adapter : FailoverAdapter) (request : ApiRequest) : List (Side × ApiRequest) :=
  (.primary, request) ::
    match (adapter.primary request).2 with
    | .ok _ => []
    | .error error => if isConnectionError error then [(.fallback, request)] else []

/-- The fallback is invoked with the request, and its result returned. -/
def FailsOver (adapter : FailoverAdapter) (request : ApiRequest) : Prop :=
  (.fallback, request) ∈ adapter.invoked request ∧
    (adapter.callApi request).1.fallback = (adapter.fallback request).1 ∧
    (adapter.callApi request).2 = (adapter.fallback request).2

theorem failsOver_of_connectionError {adapter : FailoverAdapter} {request : ApiRequest}
    {error : GatewayError} (failed : (adapter.primary request).2 = .error error)
    (connection : isConnectionError error = true) : adapter.FailsOver request := by
  simp [FailsOver, invoked, callApi, failed, connection]

theorem not_failsOver_of_http {adapter : FailoverAdapter} {request : ApiRequest}
    {message : String} (failed : (adapter.primary request).2 = .error (.http message)) :
    ¬ adapter.FailsOver request := by
  simp [FailsOver, invoked, failed, isConnectionError]

/-- A primary whose backend cannot be reached is replaced by the fallback
exactly when it is not an official adapter in the connected state. -/
theorem failsOver_iff (name : String) (primary : BackendExchange) (fallback : BackendCall)
    (request : ApiRequest) :
    (primary.Unreached request →
        FailsOver ⟨name, primary.callApi, fallback⟩ request) ↔
      ∀ exchange, primary = .official exchange → exchange.inner.state = .connected →
        ¬ exchange.Unreached request := by
  cases primary with
  | lagrange exchange =>
      refine iff_of_true ?_ nofun
      intro unaccepted
      cases result : (exchange.callApi request).2 with
      | ok response =>
          exact absurd ((callApi_ok_iff exchange request).mp ⟨response, result⟩).1 unaccepted
      | error error =>
          exact failsOver_of_connectionError result (isConnectionError_of_callApi result)
  | official exchange =>
      constructor
      · intro fails other same connected unreached
        cases same
        obtain ⟨message, failed⟩ := Official.Exchange.callApi_of_unreached connected unreached
        exact not_failsOver_of_http failed (fails (.inr unreached))
      · intro reached unreached
        have unconnected : exchange.inner.state ≠ .connected := by
          rcases unreached with unconnected | refused
          · exact unconnected
          · exact fun connected => reached exchange rfl connected refused
        exact failsOver_of_connectionError
          (Official.Exchange.callApi_of_unconnected unconnected) rfl

/-- A connected official adapter whose backend refuses every connection. -/
def refusedOfficial : Official.Exchange :=
  { name := "main"
    url := "http://localhost:9"
    accessToken := ""
    apiTimeoutSecs := 30
    inner := { Official.new with state := .connected }
    preferredMode := none
    send := fun _ _ => .error ⟨.connectionRefused, "error sending request"⟩
    fromStr := .error
    responseFromStr := fun _ => none }

theorem refusedOfficial_unreached (request : ApiRequest) :
    refusedOfficial.Unreached request := by
  have modes : refusedOfficial.candidateModes = [.apiPrefixed, .directAction, .legacyBody] := by
    decide
  refine ⟨fun mode _ => ⟨_, rfl⟩, .legacyBody, ?_, _, rfl, rfl⟩
  rw [modes]
  rfl

/-- The fallback answers, but the failed call of the primary is returned. -/
theorem refusedOfficial_notRepeated :
    let adapter : FailoverAdapter :=
      ⟨"main", (BackendExchange.official refusedOfficial).callApi,
        fun request => (some request, .ok (.ok .null))⟩
    let request : ApiRequest := { action := "send_group_msg" }
    (BackendExchange.official refusedOfficial).Unreached request ∧
      (.fallback, request) ∉ adapter.invoked request ∧
      ∃ message, (adapter.callApi request).2 = .error (.http message) := by
  intro adapter request
  obtain ⟨message, failed⟩ :=
    Official.Exchange.callApi_of_unreached rfl (refusedOfficial_unreached request)
  have primary : (adapter.primary request).2 = .error (.http message) := failed
  refine ⟨.inr (refusedOfficial_unreached request), ?_, message, ?_⟩
  · simp [invoked, primary, isConnectionError]
  · simp [callApi, primary, isConnectionError]

end FailoverAdapter

end Ferroq.Gateway
