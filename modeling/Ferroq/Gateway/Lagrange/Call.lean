import Ferroq.Gateway.Lagrange.Inner

/-!
# One call of a Lagrange adapter

Everything outside a call is gathered in an exchange: the shared state that the
call finds when it takes the lock, the frames that arrive while it waits, and
how its wait ends when none of them answers it.
-/

namespace Ferroq.Gateway.Lagrange

open Ferroq.Core
open Ferroq.Library

/-- How a wait ends that no frame answers. -/
inductive Silence where
  | dropped
  | timedOut
  deriving DecidableEq

structure Exchange where
  name : String
  apiTimeoutSecs : Nat
  echoCounter : UInt64
  inner : Inner
  call : Nat
  writerOpen : Nat → Bool
  frames : List Json
  silence : Silence

namespace Exchange

def nextEcho (exchange : Exchange) : String := toString exchange.echoCounter.toNat

def wireRequest (exchange : Exchange) (request : ApiRequest) : ApiRequest :=
  { request with echo := some (.string exchange.nextEcho) }

def registered (exchange : Exchange) : Except GatewayError Nat × Inner :=
  exchange.inner.register exchange.name exchange.writerOpen exchange.nextEcho exchange.call

/-- The first frame that answers the call. -/
def answer (exchange : Exchange) : Option Json :=
  exchange.frames.find? fun frame =>
    isApiResponse frame && decide (echoOf frame = some exchange.nextEcho)

def channelDropped : GatewayError :=
  .connection "API response channel dropped (connection lost?)"

def timedOut (action : String) (seconds : Nat) : GatewayError :=
  .connection s!"API call '{action}' timed out after {seconds}s"

/-- The request that the writer accepts, if any, and the result of the call. -/
def callApi (exchange : Exchange) (request : ApiRequest) :
    Option ApiRequest × Except GatewayError ApiResponse :=
  match exchange.registered.1 with
  | .error error => (none, .error error)
  | .ok _ =>
      (some (exchange.wireRequest request),
        match exchange.answer with
        | some frame => .ok (responseOf frame)
        | none =>
            match exchange.silence with
            | .dropped => .error channelDropped
            | .timedOut => .error (timedOut request.action exchange.apiTimeoutSecs))

/-- The adapter is connected and its writer takes messages. -/
def Accepts (exchange : Exchange) : Prop :=
  exchange.inner.state = .connected ∧
    ∃ writer, exchange.inner.wsWriterTx = some writer ∧ exchange.writerOpen writer = true

/-- The frame that answers the call, when the writer takes it. -/
def acceptedAnswer (exchange : Exchange) : Option Json :=
  match exchange.registered.1 with
  | .error _ => none
  | .ok _ => exchange.answer

theorem registered_ok_iff (exchange : Exchange) :
    (∃ writer, exchange.registered.1 = .ok writer) ↔ exchange.Accepts := by
  unfold registered Accepts Inner.register
  by_cases connected : exchange.inner.state = .connected
  · cases present : exchange.inner.wsWriterTx with
    | none => simp [connected]
    | some writer =>
        by_cases opened : exchange.writerOpen writer = true <;> simp [connected, opened]
  · simp [connected]

theorem echoOf_acceptedAnswer {exchange : Exchange} {frame : Json}
    (answered : exchange.acceptedAnswer = some frame) :
    echoOf frame = some exchange.nextEcho := by
  unfold acceptedAnswer at answered
  cases registered : exchange.registered.1 with
  | error error =>
      rw [registered] at answered
      cases answered
  | ok writer =>
      rw [registered] at answered
      have test := List.find?_some answered
      simp only [Bool.and_eq_true, decide_eq_true_eq] at test
      exact test.2

/-- A call succeeds with the response read from the frame that answers it, and
fails when there is none. -/
theorem callApi_cases (exchange : Exchange) (request : ApiRequest) :
    (∃ frame, exchange.acceptedAnswer = some frame ∧
      (exchange.callApi request).2 = .ok (responseOf frame)) ∨
    (exchange.acceptedAnswer = none ∧
      ∃ error, (exchange.callApi request).2 = .error error) := by
  unfold acceptedAnswer callApi
  cases exchange.registered.1 with
  | error error => exact .inr ⟨rfl, error, rfl⟩
  | ok writer =>
      cases answered : exchange.answer with
      | some frame => exact .inl ⟨frame, by simp⟩
      | none => cases exchange.silence <;> simp

end Exchange

end Ferroq.Gateway.Lagrange
