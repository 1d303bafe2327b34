import Ferroq.Gateway.Lagrange.Correlation

/-!
# Calls as exchanges

A call notices what runs beside it only in the shared state it finds at the
lock, in the frame that answers it and in how its wait ends.  So whatever the
interleaving, a call does what a single exchange makes of its request.
-/

namespace Ferroq.Gateway.Lagrange

open Ferroq.Core
open Ferroq.Library

namespace Exchange

/-- A call whose request the writer takes at once. -/
def accepting (name : String) (apiTimeoutSecs : Nat) (echoCounter : UInt64)
    (frames : List Json) (silence : Silence) : Exchange :=
  { name := name
    apiTimeoutSecs := apiTimeoutSecs
    echoCounter := echoCounter
    inner := Inner.new.install 0 0
    call := 0
    writerOpen := fun _ => true
    frames := frames
    silence := silence }

variable {name : String} {apiTimeoutSecs : Nat} {echoCounter : UInt64} {request : ApiRequest}

theorem callApi_of_rejected {exchange : Exchange} {error : GatewayError}
    (rejected : exchange.registered.1 = .error error) (request : ApiRequest) :
    exchange.callApi request = (none, .error error) := by
  simp only [callApi, rejected]

theorem callApi_accepting_answered {frame : Json} (silence : Silence)
    (response : isApiResponse frame = true)
    (named : echoOf frame = some (toString echoCounter.toNat)) :
    (accepting name apiTimeoutSecs echoCounter [frame] silence).callApi request =
      (some { request with echo := some (.string (toString echoCounter.toNat)) },
        .ok (responseOf frame)) := by
  have answered : (accepting name apiTimeoutSecs echoCounter [frame] silence).answer =
      some frame := by
    simp [answer, accepting, nextEcho, response, named]
  simp only [callApi, answered]
  rfl

theorem callApi_accepting_dropped :
    (accepting name apiTimeoutSecs echoCounter [] .dropped).callApi request =
      (some { request with echo := some (.string (toString echoCounter.toNat)) },
        .error channelDropped) := rfl

theorem callApi_accepting_timedOut :
    (accepting name apiTimeoutSecs echoCounter [] .timedOut).callApi request =
      (some { request with echo := some (.string (toString echoCounter.toNat)) },
        .error (timedOut request.action apiTimeoutSecs)) := rfl

end Exchange

namespace Correlation

variable {state next : Correlation} {action : Exchanging} {name : String}
  {apiTimeoutSecs : Nat}

/-- One exchange, with frames of a given kind, does what a call has done. -/
def Explained (state : Correlation) (frames : Json → Prop) (call : Call)
    (result : Except GatewayError ApiResponse) : Prop :=
  ∃ exchange : Exchange, exchange.name = state.name ∧
    exchange.apiTimeoutSecs = state.apiTimeoutSecs ∧ exchange.nextEcho = call.echo ∧
    (∀ frame ∈ exchange.frames, frames frame) ∧
    exchange.callApi call.request = (call.wire, result)

/-- What a call without a response has put on the wire, and why it fails. -/
structure FittingCall (state : Correlation) (call : Call) : Prop where
  unsent : call.phase = .ready → call.wire = none
  sent : call.phase = .expired → call.wire = some call.wireRequest
  failed : ∀ {error}, call.phase = .returned (.error error) →
    state.Explained (fun _ => False) call (.error error)

structure Fitting (state : Correlation) : Prop where
  calls : ∀ {index : Nat} {call : Call}, state.calls[index]? = some call →
    state.FittingCall call

theorem config_steps (steps : Steps state action next) :
    next.name = state.name ∧ next.apiTimeoutSecs = state.apiTimeoutSecs := by
  cases steps with
  | registered =>
      unfold registerCall
      split
      split
      next => exact ⟨rfl, rfl⟩
      next => exact ⟨rfl, rfl⟩
  | received =>
      unfold handleTextMessage
      split
      next =>
        split
        next => exact ⟨rfl, rfl⟩
        next => exact ⟨rfl, rfl⟩
      next => exact ⟨rfl, rfl⟩
  | began | took | missed | sent | resolved | dropped | expired | forgot | connected
  | disconnected | ran => exact ⟨rfl, rfl⟩

theorem FittingCall.congr {call : Call} (fits : state.FittingCall call)
    (sameName : next.name = state.name)
    (sameTimeout : next.apiTimeoutSecs = state.apiTimeoutSecs) : next.FittingCall call where
  unsent := fits.unsent
  sent := fits.sent
  failed := by
    intro error returned
    obtain ⟨exchange, named, timeout, rest⟩ := fits.failed returned
    exact ⟨exchange, named.trans sameName.symm, timeout.trans sameTimeout.symm, rest⟩

theorem fitting_receive {call : Call} (fits : state.FittingCall call) (response : ApiResponse) :
    state.FittingCall (call.receive response) := by
  unfold Call.receive
  split
  next => exact ⟨nofun, nofun, nofun⟩
  next => exact fits

theorem explained_rejected (sound : state.Sound) {index : Nat} {call : Call}
    (found : state.calls[index]? = some call) (unsent : call.wire = none) {error : GatewayError}
    (rejected : (state.lifecycle.inner.register state.name state.writerOpen call.echo index).1 =
      .error error) : state.Explained (fun _ => False) call (.error error) := by
  have named : echoAt index = call.echo := (sound.calls found).numbered.symm
  let exchange : Exchange :=
    { name := state.name
      apiTimeoutSecs := state.apiTimeoutSecs
      echoCounter := UInt64.ofNat (index + 1)
      inner := state.lifecycle.inner
      call := index
      writerOpen := state.writerOpen
      frames := []
      silence := .dropped }
  refine ⟨exchange, rfl, rfl, named, nofun, ?_⟩
  rw [unsent]
  apply Exchange.callApi_of_rejected
  change (state.lifecycle.inner.register state.name state.writerOpen (echoAt index) index).1 = _
  rw [named, rejected]

theorem explained_accepting {index : Nat} {call : Call} (numbered : call.echo = echoAt index)
    (sent : call.wire = some call.wireRequest) {arrived : List Json} {frames : Json → Prop}
    (all : ∀ frame ∈ arrived, frames frame) {silence : Silence}
    {result : Except GatewayError ApiResponse}
    (made : (Exchange.accepting state.name state.apiTimeoutSecs (UInt64.ofNat (index + 1)) arrived
        silence).callApi call.request =
      (some { call.request with echo := some (.string (echoAt index)) }, result)) :
    state.Explained frames call result := by
  refine ⟨.accepting state.name state.apiTimeoutSecs (UInt64.ofNat (index + 1)) arrived silence,
    rfl, rfl, numbered.symm, all, ?_⟩
  rw [made, sent, Call.wireRequest, numbered]

theorem fitting_registerCall (sound : state.Sound) (fits : state.Fitting) {index : Nat}
    {call : Call} (found : state.calls[index]? = some call) (ready : call.phase = .ready) :
    (state.registerCall index call).Fitting := by
  have rejects : ∀ {error : GatewayError},
      (state.lifecycle.inner.register state.name state.writerOpen call.echo index).1 =
        .error error → state.Explained (fun _ => False) call (.error error) :=
    fun rejected => explained_rejected sound found ((fits.calls found).unsent ready) rejected
  unfold registerCall
  generalize state.lifecycle.inner.register state.name state.writerOpen call.echo index = outcome
    at rejects ⊢
  obtain ⟨result, inner⟩ := outcome
  cases result with
  | ok writer =>
      constructor
      intro other later position
      have fitting : state.FittingCall later := by
        apply calls_modify fits.calls _ position
        intro before _
        exact ⟨nofun, nofun, nofun⟩
      exact fitting.congr rfl rfl
  | error error =>
      constructor
      intro other later position
      have fitting : state.FittingCall later := by
        apply calls_modify fits.calls _ position
        intro before earlier
        rw [found] at earlier
        cases earlier
        refine ⟨nofun, nofun, ?_⟩
        intro other returned
        cases returned
        exact rejects rfl
      exact fitting.congr rfl rfl

theorem fitting_setPhase (fits : state.Fitting) {index : Nat} {phase : CallPhase}
    (fitting : ∀ {call : Call}, state.calls[index]? = some call →
      state.FittingCall { call with phase := phase }) : (state.setPhase index phase).Fitting := by
  constructor
  intro other later position
  have fitting : state.FittingCall later := calls_modify fits.calls fitting position
  exact fitting.congr rfl rfl

theorem fitting_steps (sound : state.Sound) (fits : state.Fitting)
    (steps : Steps state action next) : next.Fitting := by
  obtain ⟨sameName, sameTimeout⟩ := config_steps steps
  have same : next.calls = state.calls → next.Fitting := by
    intro equal
    constructor
    intro index call found
    rw [equal] at found
    exact (fits.calls found).congr sameName sameTimeout
  cases steps with
  | began request =>
      constructor
      intro index call found
      simp only [List.getElem?_append] at found
      split at found
      next => exact (fits.calls found).congr rfl rfl
      next =>
        obtain ⟨_, rfl⟩ := Lifecycle.eq_of_getElem?_singleton found
        exact ⟨fun _ => rfl, nofun, nofun⟩
  | registered found ready => exact fitting_registerCall sound fits found ready
  | received => exact same (handleTextMessage_calls state _).2
  | took | missed | connected | disconnected | ran => exact same rfl
  | sent =>
      constructor
      intro other later position
      have fitting : state.FittingCall later := by
        apply calls_modify fits.calls _ position
        intro before earlier
        exact fitting_receive (fits.calls earlier) _
      exact fitting.congr rfl rfl
  | resolved =>
      apply fitting_setPhase fits
      intro call found
      exact ⟨nofun, nofun, nofun⟩
  | expired found waits =>
      apply fitting_setPhase fits
      intro call position
      rw [found] at position
      cases position
      exact ⟨nofun, fun _ => (sound.calls found).sent waits, nofun⟩
  | dropped found waits =>
      apply fitting_setPhase fits
      intro call position
      rw [found] at position
      cases position
      refine ⟨nofun, nofun, ?_⟩
      intro error returned
      cases returned
      have calls := sound.calls found
      exact explained_accepting calls.numbered (calls.sent waits) nofun
        Exchange.callApi_accepting_dropped
  | @forgot index expired found late =>
      have fitsThen : (state.setInner
          (state.lifecycle.inner.forgetPending expired.echo)).Fitting :=
        ⟨fun position => (fits.calls position).congr rfl rfl⟩
      apply fitting_setPhase fitsThen
      intro call position
      cases found.symm.trans position
      refine ⟨nofun, nofun, ?_⟩
      intro error returned
      cases returned
      exact explained_accepting (sound.calls found).numbered ((fits.calls found).sent late) nofun
        Exchange.callApi_accepting_timedOut

/-- In every run, whatever a call has put on the wire and returned is what one
exchange makes of its request, with no other frames than received ones. -/
theorem returned_explained (name : String) (apiTimeoutSecs : Nat) (actions : List Exchanging)
    {state : Correlation} (reached : machine.run (new name apiTimeoutSecs) actions = some state)
    {index : Nat} {call : Call} {result : Except GatewayError ApiResponse}
    (found : state.calls[index]? = some call) (returned : call.phase = .returned result) :
    state.Explained (fun frame => ∃ handler ∈ state.handlers, handler.frame = frame) call
      result := by
  obtain ⟨sound, linear⟩ := sound_linear_of_run reached
  cases result with
  | ok response =>
      obtain ⟨sent, position, handler, _, handled, named, rfl⟩ :=
        returned_delivered sound linear found returned
      have numbered : call.echo = echoAt index := (sound.calls found).numbered
      rw [numbered] at named
      apply explained_accepting numbered sent _
        (Exchange.callApi_accepting_answered .dropped handler.response named)
      intro frame member
      cases List.mem_singleton.mp member
      exact ⟨handler, List.mem_of_getElem? handled, rfl⟩
  | error error =>
      have start : (new name apiTimeoutSecs).Sound ∧ (new name apiTimeoutSecs).Fitting :=
        ⟨new_sound name apiTimeoutSecs, ⟨fun found => by simp [new] at found⟩⟩
      have fits : state.Sound ∧ state.Fitting := by
        apply machine.run_invariant _ start reached
        intro before action after holds stepped
        have steps : Steps before action after := steps_of_step stepped
        exact ⟨sound_steps holds.1 steps, fitting_steps holds.1 holds.2 steps⟩
      obtain ⟨exchange, same, timeout, named, frames, made⟩ := (fits.2.calls found).failed returned
      exact ⟨exchange, same, timeout, named, fun frame member => (frames frame member).elim, made⟩

end Correlation

end Ferroq.Gateway.Lagrange
