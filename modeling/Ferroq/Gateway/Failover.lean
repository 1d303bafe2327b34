import Ferroq.Gateway.Lagrange.Call

/-!
# The failover adapter

A failover adapter tries its primary first and repeats the request on the
fallback after a connection error.  A Lagrange adapter reports every failure as
such an error, whether or not its writer has already taken the request.
-/

namespace Ferroq.Gateway

open Ferroq.Core
open Ferroq.Library
open Ferroq.Gateway.Lagrange

def isConnectionError : GatewayError → Bool
  | .connection _ => true
  | .webSocket _ => true
  | _ => false

abbrev BackendCall := ApiRequest → Option ApiRequest × Except GatewayError ApiResponse

structure FailoverAdapter where
  name : String
  primary : BackendCall
  fallback : BackendCall

namespace FailoverAdapter

/-- What the writers of the two backends have taken. -/
structure Wires where
  primary : Option ApiRequest
  fallback : Option ApiRequest

def callApi (adapter : FailoverAdapter) (request : ApiRequest) :
    Wires × Except GatewayError ApiResponse :=
  let (sent, result) := adapter.primary request
  match result with
  | .ok response => (⟨sent, none⟩, .ok response)
  | .error error =>
      if isConnectionError error then
        let (again, result) := adapter.fallback request
        (⟨sent, again⟩, result)
      else (⟨sent, none⟩, .error error)

def ofLagrange (name : String) (primary fallback : Exchange) : FailoverAdapter :=
  { name := name, primary := primary.callApi, fallback := fallback.callApi }

theorem callApi_sent_iff (exchange : Exchange) (request : ApiRequest) :
    (exchange.callApi request).1.isSome ↔ exchange.Accepts := by
  rw [← exchange.registered_ok_iff]
  unfold Exchange.callApi
  cases exchange.registered.1 <;> simp

/-- Every failed call of a Lagrange adapter is a connection error. -/
theorem isConnectionError_of_callApi {exchange : Exchange} {request : ApiRequest}
    {error : GatewayError} (failed : (exchange.callApi request).2 = .error error) :
    isConnectionError error = true := by
  have registration : ∀ error, exchange.registered.1 = .error error →
      isConnectionError error = true := by
    intro error refused
    unfold Exchange.registered Inner.register at refused
    split at refused
    next =>
      cases refused
      rfl
    next =>
      split at refused
      next writer _ =>
        by_cases opened : exchange.writerOpen writer = true
        · rw [if_pos opened] at refused
          cases refused
        · rw [if_neg opened] at refused
          cases refused
          rfl
      next =>
        cases refused
        rfl
  unfold Exchange.callApi at failed
  cases registered : exchange.registered.1 with
  | error refused =>
      rw [registered] at failed
      cases failed
      exact registration _ registered
  | ok writer =>
      rw [registered] at failed
      cases answered : exchange.answer with
      | some frame => simp [answered] at failed
      | none =>
          cases silent : exchange.silence <;> simp [answered, silent] at failed <;>
            subst failed <;> rfl

theorem callApi_ok_iff (exchange : Exchange) (request : ApiRequest) :
    (∃ response, (exchange.callApi request).2 = .ok response) ↔
      exchange.Accepts ∧ exchange.answer.isSome := by
  rw [← exchange.registered_ok_iff]
  unfold Exchange.callApi
  cases exchange.registered.1 with
  | error error => simp
  | ok writer =>
      cases exchange.answer with
      | some frame => simp
      | none => cases exchange.silence <;> simp

/-- The request reaches at most one of the two backends exactly when it is not
the case that the primary's writer takes it, no frame answers it there, and the
fallback's writer takes it. -/
theorem callApi_sentOnce_iff (name : String) (primary fallback : Exchange)
    (request : ApiRequest) :
    ¬ (((ofLagrange name primary fallback).callApi request).1.primary.isSome ∧
        ((ofLagrange name primary fallback).callApi request).1.fallback.isSome) ↔
      ¬ (primary.Accepts ∧ primary.answer = none ∧ fallback.Accepts) := by
  apply not_congr
  have sentPrimary := callApi_sent_iff primary request
  have sentFallback := callApi_sent_iff fallback request
  have succeeds := callApi_ok_iff primary request
  simp only [callApi, ofLagrange]
  cases result : (primary.callApi request).2 with
  | ok response =>
      have answered := (succeeds.mp ⟨response, result⟩).2
      have given : primary.answer ≠ none := Option.isSome_iff_ne_none.mp answered
      simp [given]
  | error error =>
      have unanswered : primary.Accepts → primary.answer = none := by
        intro accepted
        cases answered : primary.answer with
        | none => rfl
        | some frame =>
            rcases succeeds.mpr ⟨accepted, by simp [answered]⟩ with ⟨response, succeeded⟩
            rw [result] at succeeded
            cases succeeded
      simp only [isConnectionError_of_callApi result, if_true, sentPrimary, sentFallback]
      constructor
      · rintro ⟨accepted, again⟩
        exact ⟨accepted, unanswered accepted, again⟩
      · rintro ⟨accepted, _, again⟩
        exact ⟨accepted, again⟩

def silentBackend (name : String) : Exchange :=
  { name := name
    apiTimeoutSecs := 15
    echoCounter := 1
    inner := Inner.new.install 0 1
    call := 0
    writerOpen := fun _ => true
    frames := []
    silence := .timedOut }

/-- A primary that answers too late has its message sent again through the
fallback. -/
theorem silentPrimary_sentTwice :
    let wires := ((ofLagrange "main" (silentBackend "a") (silentBackend "b")).callApi
      { action := "send_group_msg" }).1
    (∃ request ∈ wires.primary, request.action = "send_group_msg") ∧
      ∃ request ∈ wires.fallback, request.action = "send_group_msg" :=
  ⟨⟨_, rfl, rfl⟩, ⟨_, rfl, rfl⟩⟩

end FailoverAdapter

end Ferroq.Gateway
