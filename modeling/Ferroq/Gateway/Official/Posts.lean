import Ferroq.Gateway.Official.Call

/-!
# The requests of one call

The ways of addressing the backend are tried until one of them makes a response.
An answer with a successful status ends the search only if its body can be read:
otherwise the request goes to the backend once more, under the next way.
-/

namespace Ferroq.Gateway

open Ferroq.Core
open Ferroq.Library

namespace Official.Exchange

variable (exchange : Exchange)

theorem candidateModes_nodup : exchange.candidateModes.Nodup := by
  have inserted (modes : List ApiPathMode) (mode : ApiPathMode) (distinct : modes.Nodup) :
      (if mode ∈ modes then modes else modes ++ [mode]).Nodup := by
    split
    next => exact distinct
    next absent =>
      have apart : ∀ other ∈ modes, other ≠ mode := by
        rintro other member rfl
        exact absent member
      simpa [List.nodup_append, distinct] using apart
  have folded (more modes : List ApiPathMode) (distinct : modes.Nodup) :
      (more.foldl (fun modes mode => if mode ∈ modes then modes else modes ++ [mode])
        modes).Nodup := by
    induction more generalizing modes with
    | nil => exact distinct
    | cons mode rest inductionHypothesis =>
        apply inductionHypothesis
        exact inserted modes mode distinct
  apply folded
  cases exchange.preferredMode <;> simp

/-- What the client makes of the request that one attempt sends. -/
def answer (request : ApiRequest) (mode : ApiPathMode) : Except SendError HttpResponse :=
  exchange.send mode (exchange.httpRequest mode request)

/-- The requests that trying the given ways sends, in order: there is one for
every way up to the first that succeeds. -/
def postsFrom (request : ApiRequest) :
    List ApiPathMode → List (ApiPathMode × Except SendError HttpResponse)
  | [] => []
  | mode :: rest =>
      (mode, exchange.answer request mode) ::
        match exchange.callWithMode mode request with
        | .ok _ => []
        | .error _ => postsFrom request rest

def posts (request : ApiRequest) : List (ApiPathMode × Except SendError HttpResponse) :=
  exchange.postsFrom request exchange.candidateModes

/-- The backend has accepted a request: it has answered it with a 2xx status. -/
def accepted (request : ApiRequest) (mode : ApiPathMode) : Bool :=
  match exchange.answer request mode with
  | .ok response => isSuccess response.status
  | .error _ => false

/-- The body of an answer arrives, and is blank, a response or some JSON. -/
def readable (request : ApiRequest) (mode : ApiPathMode) : Bool :=
  match exchange.answer request mode with
  | .ok { body := .ok body, .. } =>
      body.toList.all isWhitespace || (exchange.responseFromStr body).isSome ||
        (exchange.fromStr body).isOk
  | _ => false

variable {exchange} {request : ApiRequest}

theorem callWithMode_isOk_iff (mode : ApiPathMode) :
    (exchange.callWithMode mode request).isOk = true ↔
      exchange.accepted request mode = true ∧ exchange.readable request mode = true := by
  unfold callWithMode accepted readable answer
  cases exchange.send mode (exchange.httpRequest mode request) with
  | error error => simp [Except.isOk, Except.toBool]
  | ok response =>
      rcases response with ⟨status, statusText, read⟩
      cases read with
      | error error => simp [Except.isOk, Except.toBool]
      | ok body =>
          simp only [parseApiResponse]
          by_cases success : isSuccess status = true
          · by_cases blank : body.toList.all isWhitespace = true
            · simp [success, blank, Except.isOk, Except.toBool]
            · cases parsed : exchange.responseFromStr body with
              | some response => simp [success, blank, Except.isOk, Except.toBool]
              | none =>
                  cases value : exchange.fromStr body <;>
                    simp [success, blank, Except.isOk, Except.toBool]
          · simp [success, Except.isOk, Except.toBool]

theorem postsFrom_eq_nil_iff (modes : List ApiPathMode) :
    exchange.postsFrom request modes = [] ↔ modes = [] := by
  cases modes <;> simp [postsFrom]

/-- No request follows one that the backend has accepted. -/
def AcceptedOnce (posts : List (ApiPathMode × Except SendError HttpResponse)) : Prop :=
  posts.Pairwise fun earlier _ => ∀ response, earlier.2 = .ok response →
    isSuccess response.status = false

theorem acceptedOnce_cons_iff (mode : ApiPathMode)
    (rest : List (ApiPathMode × Except SendError HttpResponse)) :
    AcceptedOnce ((mode, exchange.answer request mode) :: rest) ↔
      (exchange.accepted request mode = true → rest = []) ∧ AcceptedOnce rest := by
  have unaccepted : (∀ response, exchange.answer request mode = .ok response →
      isSuccess response.status = false) ↔ exchange.accepted request mode = false := by
    unfold accepted
    cases exchange.answer request mode <;> simp
  rw [AcceptedOnce, List.pairwise_cons]
  simp only [unaccepted]
  apply and_congr_left'
  constructor
  · intro each held
    cases rest with
    | nil => rfl
    | cons next later => simp [each next List.mem_cons_self] at held
  · intro alone next member
    rw [Bool.eq_false_iff]
    intro held
    simp [alone held] at member

/-- Trying some ways sends no request after an accepted one exactly if the first
accepted request has a readable answer or is the last. -/
theorem acceptedOnce_postsFrom_iff (modes : List ApiPathMode) :
    AcceptedOnce (exchange.postsFrom request modes) ↔
      ∀ mode later, (modes.dropWhile fun mode => !exchange.accepted request mode) = mode :: later →
        exchange.readable request mode = true ∨ later = [] := by
  induction modes with
  | nil => simp [postsFrom, AcceptedOnce]
  | cons mode rest inductionHypothesis =>
      rw [postsFrom, acceptedOnce_cons_iff]
      have succeeds : (exchange.callWithMode mode request).isOk = true ↔
          exchange.accepted request mode = true ∧ exchange.readable request mode = true :=
        callWithMode_isOk_iff mode
      cases attempt : exchange.callWithMode mode request with
      | ok response =>
          have both := succeeds.mp (by rw [attempt]; rfl)
          simp [both.1, both.2, AcceptedOnce]
      | error error =>
          have notBoth := mt succeeds.mpr (by rw [attempt]; simp [Except.isOk, Except.toBool])
          by_cases held : exchange.accepted request mode = true
          · -- The body of the accepted answer is not readable, so that the next way is tried.
            have unread : exchange.readable request mode = false :=
              Bool.eq_false_iff.mpr fun read => notBoth ⟨held, read⟩
            simp only [held, forall_const, postsFrom_eq_nil_iff, Bool.not_true,
              Bool.false_eq_true, not_false_eq_true, List.dropWhile_cons_of_neg]
            constructor
            · rintro ⟨rfl, _⟩ first later same
              cases same
              exact Or.inr rfl
            · intro safe
              rcases safe mode rest rfl with read | rfl
              · exact absurd read (by simp [unread])
              · exact ⟨rfl, List.Pairwise.nil⟩
          · simp [held, inductionHypothesis]

/-- A call sends no request after an accepted one exactly if the first accepted
request of its ways has a readable answer or there is no way left. -/
theorem acceptedOnce_posts_iff (exchange : Exchange) (request : ApiRequest) :
    AcceptedOnce (exchange.posts request) ↔
      ∀ mode later,
        (exchange.candidateModes.dropWhile fun mode => !exchange.accepted request mode) =
            mode :: later →
          exchange.readable request mode = true ∨ later = [] :=
  acceptedOnce_postsFrom_iff exchange.candidateModes

def lostAnswer : Exchange where
  name := "official"
  url := "http://127.0.0.1:3000"
  accessToken := ""
  apiTimeoutSecs := 30
  inner := { state := .connected, selfId := none, eventTx := none, connects := [] }
  preferredMode := none
  send mode _ :=
    match mode with
    | .apiPrefixed =>
        .ok { status := 200, statusText := "200 OK", body := .error "connection closed" }
    | _ => .ok { status := 404, statusText := "404 Not Found", body := .ok "" }
  fromStr _ := .error "expected value at line 1 column 1"
  responseFromStr _ := none

/-- An accepted request is sent again when its answer cannot be read. -/
theorem lostAnswer_posted_again :
    (lostAnswer.posts { action := "send_group_msg" }).map Prod.fst =
        [.apiPrefixed, .directAction, .legacyBody] ∧
      ¬ AcceptedOnce (lostAnswer.posts { action := "send_group_msg" }) := by
  have order : (lostAnswer.posts { action := "send_group_msg" }).map Prod.fst =
      [.apiPrefixed, .directAction, .legacyBody] := by
    decide +kernel
  refine ⟨order, ?_⟩
  intro once
  have first : (lostAnswer.posts { action := "send_group_msg" }) =
      (.apiPrefixed, lostAnswer.answer { action := "send_group_msg" } .apiPrefixed) ::
        (lostAnswer.posts { action := "send_group_msg" }).tail := rfl
  rw [first, acceptedOnce_cons_iff] at once
  have alone := once.1 rfl
  rw [first, alone] at order
  cases order

end Official.Exchange

end Ferroq.Gateway
