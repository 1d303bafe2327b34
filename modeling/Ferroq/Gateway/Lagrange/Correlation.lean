import Ferroq.Gateway.Lagrange.Call
import Ferroq.Gateway.Lagrange.Lifecycle
import Ferroq.Library.Pending

/-!
# Correlation of calls and responses

Any number of calls run beside the tasks of the adapter.  A call takes an echo
from the counter, registers the sender of a one-shot channel under it, and
waits; a reader that receives a response takes the sender of the echo the
response names, and sends.  Each of these is a step of its own.

Calls and received responses are numbered in the order in which they begin.
-/

namespace Ferroq.Gateway.Lagrange

open Ferroq.Core
open Ferroq.Library

/-- The progress of a call after it has taken its echo.  A waiting call has
what its channel holds. -/
inductive CallPhase where
  | ready
  | waiting (channel : Option ApiResponse)
  | expired
  | returned (result : Except GatewayError ApiResponse)

/-- The response a call has received, before and after it returns it. -/
def CallPhase.response : CallPhase → Option ApiResponse
  | waiting channel => channel
  | returned (.ok response) => some response
  | _ => none

structure Call where
  request : ApiRequest
  echo : String
  phase : CallPhase
  wire : Option ApiRequest

namespace Call

def wireRequest (call : Call) : ApiRequest :=
  { call.request with echo := some (.string call.echo) }

/-- Send into the channel of a call; nothing happens when its receiver is
gone. -/
def receive (response : ApiResponse) (call : Call) : Call :=
  match call.phase with
  | .waiting none => { call with phase := .waiting (some response) }
  | _ => call

end Call

inductive HandlerPhase where
  | parsed
  | holding (call : Nat)
  | done
  deriving DecidableEq

/-- A reader that handles one received response. -/
structure Handler where
  frame : Json
  echo : String
  phase : HandlerPhase
  response : isApiResponse frame = true
  named : echoOf frame = some echo

/-- The adapter with its calls and received responses, and the pairs of a
response and the call it was sent to. -/
structure Correlation where
  name : String
  apiTimeoutSecs : Nat
  lifecycle : Lifecycle
  echoCounter : UInt64
  calls : List Call
  handlers : List Handler
  resolved : List (Nat × Nat)

inductive Exchanging where
  | callApi (request : ApiRequest)
  | register (call : Nat)
  | receive (reader : Nat) (frame : Json)
  | take (handler : Nat)
  | send (handler : Nat)
  | resolve (call : Nat)
  | drop (call : Nat)
  | timeout (call : Nat)
  | forget (call : Nat)
  | connect (eventTx : Nat)
  | disconnect
  | background (action : Background)

namespace Correlation

def new (name : String) (apiTimeoutSecs : Nat) : Correlation :=
  { name := name
    apiTimeoutSecs := apiTimeoutSecs
    lifecycle := .new
    echoCounter := 1
    calls := []
    handlers := []
    resolved := [] }

def setInner (state : Correlation) (inner : Inner) : Correlation :=
  { state with lifecycle := { state.lifecycle with inner := inner } }

def setPhase (state : Correlation) (index : Nat) (phase : CallPhase) : Correlation :=
  { state with calls := state.calls.modify index fun call => { call with phase := phase } }

def setHandler (state : Correlation) (index : Nat) (phase : HandlerPhase) : Correlation :=
  { state with
    handlers := state.handlers.modify index fun handler => { handler with phase := phase } }

def writerOpen (state : Correlation) (writer : Nat) : Bool :=
  state.lifecycle.writers[writer]? = some ⟨true⟩

def hasSender (state : Correlation) (index : Nat) (call : Call) : Bool :=
  state.lifecycle.inner.pendingCalls.get call.echo = some index ||
    state.handlers.any fun handler => handler.phase = .holding index

def onWire (state : Correlation) (index : Nat) : Correlation :=
  { state with
    calls := state.calls.modify index fun call =>
      { call with phase := .waiting none, wire := some call.wireRequest } }

def registerCall (state : Correlation) (index : Nat) (call : Call) : Correlation :=
  let (result, inner) :=
    state.lifecycle.inner.register state.name state.writerOpen call.echo index
  match result with
  | .ok _ => (state.setInner inner).onWire index
  | .error error => (state.setInner inner).setPhase index (.returned (.error error))

/-- A text from the backend.  Other texts than responses that name a call do
nothing to the calls. -/
def handleTextMessage (state : Correlation) (frame : Json) : Correlation :=
  if response : isApiResponse frame = true then
    match named : echoOf frame with
    | some echo =>
        { state with handlers := state.handlers ++ [⟨frame, echo, .parsed, response, named⟩] }
    | none => state
  else state

def step (state : Correlation) : Exchanging → Option Correlation
  | .callApi request =>
      some
        { state with
          echoCounter := state.echoCounter + 1
          calls := state.calls ++ [⟨request, toString state.echoCounter.toNat, .ready, none⟩] }
  | .register index =>
      match state.calls[index]? with
      | some ⟨request, echo, .ready, wire⟩ =>
          some (state.registerCall index ⟨request, echo, .ready, wire⟩)
      | _ => none
  | .receive reader frame =>
      -- An aborted reader still goes through the texts it has at hand.
      match state.lifecycle.readers[reader]? with
      | some ⟨.reading, _⟩ => some (state.handleTextMessage frame)
      | _ => none
  | .take index =>
      match state.handlers[index]? with
      | some ⟨_, echo, .parsed, _, _⟩ =>
          let (sender, inner) := state.lifecycle.inner.takePending echo
          match sender with
          | some call => some ((state.setInner inner).setHandler index (.holding call))
          | none => some ((state.setInner inner).setHandler index .done)
      | _ => none
  | .send index =>
      match state.handlers[index]? with
      | some ⟨frame, _, .holding call, _, _⟩ =>
          some
            { state.setHandler index .done with
              calls := state.calls.modify call (Call.receive (responseOf frame))
              resolved := state.resolved ++ [(index, call)] }
      | _ => none
  | .resolve index =>
      match state.calls[index]? with
      | some ⟨_, _, .waiting (some response), _⟩ =>
          some (state.setPhase index (.returned (.ok response)))
      | _ => none
  | .drop index =>
      match state.calls[index]? with
      | some ⟨request, echo, .waiting none, wire⟩ =>
          if state.hasSender index ⟨request, echo, .waiting none, wire⟩ then none
          else some (state.setPhase index (.returned (.error Exchange.channelDropped)))
      | _ => none
  | .timeout index =>
      match state.calls[index]? with
      | some ⟨_, _, .waiting none, _⟩ => some (state.setPhase index .expired)
      | _ => none
  | .forget index =>
      match state.calls[index]? with
      | some ⟨request, echo, .expired, _⟩ =>
          some ((state.setInner (state.lifecycle.inner.forgetPending echo)).setPhase index
            (.returned (.error (Exchange.timedOut request.action state.apiTimeoutSecs))))
      | _ => none
  | .connect eventTx => some { state with lifecycle := state.lifecycle.beginConnect eventTx }
  | .disconnect => some { state with lifecycle := state.lifecycle.disconnect }
  | .background action =>
      (state.lifecycle.background action).map fun lifecycle =>
        { state with lifecycle := lifecycle }

def machine : Machine Correlation Exchanging := ⟨step⟩

inductive Steps (state : Correlation) : Exchanging → Correlation → Prop where
  | began (request : ApiRequest) :
      Steps state (.callApi request)
        { state with
          echoCounter := state.echoCounter + 1
          calls := state.calls ++ [⟨request, toString state.echoCounter.toNat, .ready, none⟩] }
  | registered {index : Nat} {call : Call} (found : state.calls[index]? = some call)
      (ready : call.phase = .ready) :
      Steps state (.register index) (state.registerCall index call)
  | received {reader : Nat} {aborted : Bool} {frame : Json}
      (reading : state.lifecycle.readers[reader]? = some ⟨.reading, aborted⟩) :
      Steps state (.receive reader frame) (state.handleTextMessage frame)
  | took {index call : Nat} {handler : Handler} (found : state.handlers[index]? = some handler)
      (parsed : handler.phase = .parsed)
      (waits : state.lifecycle.inner.pendingCalls.get handler.echo = some call) :
      Steps state (.take index)
        ((state.setInner (state.lifecycle.inner.takePending handler.echo).2).setHandler index
          (.holding call))
  | missed {index : Nat} {handler : Handler} (found : state.handlers[index]? = some handler)
      (parsed : handler.phase = .parsed)
      (absent : state.lifecycle.inner.pendingCalls.get handler.echo = none) :
      Steps state (.take index)
        ((state.setInner (state.lifecycle.inner.takePending handler.echo).2).setHandler index
          .done)
  | sent {index call : Nat} {handler : Handler} (found : state.handlers[index]? = some handler)
      (holding : handler.phase = .holding call) :
      Steps state (.send index)
        { state.setHandler index .done with
          calls := state.calls.modify call (Call.receive (responseOf handler.frame))
          resolved := state.resolved ++ [(index, call)] }
  | resolved {index : Nat} {call : Call} {response : ApiResponse}
      (found : state.calls[index]? = some call) (waits : call.phase = .waiting (some response)) :
      Steps state (.resolve index) (state.setPhase index (.returned (.ok response)))
  | dropped {index : Nat} {call : Call} (found : state.calls[index]? = some call)
      (waits : call.phase = .waiting none) (alone : state.hasSender index call = false) :
      Steps state (.drop index)
        (state.setPhase index (.returned (.error Exchange.channelDropped)))
  | expired {index : Nat} {call : Call} (found : state.calls[index]? = some call)
      (waits : call.phase = .waiting none) :
      Steps state (.timeout index) (state.setPhase index .expired)
  | forgot {index : Nat} {call : Call} (found : state.calls[index]? = some call)
      (expired : call.phase = .expired) :
      Steps state (.forget index)
        ((state.setInner (state.lifecycle.inner.forgetPending call.echo)).setPhase index
          (.returned (.error (Exchange.timedOut call.request.action state.apiTimeoutSecs))))
  | connected (eventTx : Nat) :
      Steps state (.connect eventTx)
        { state with lifecycle := state.lifecycle.beginConnect eventTx }
  | disconnected :
      Steps state .disconnect { state with lifecycle := state.lifecycle.disconnect }
  | ran {action : Background} {lifecycle : Lifecycle}
      (stepped : state.lifecycle.background action = some lifecycle) :
      Steps state (.background action) { state with lifecycle := lifecycle }

theorem steps_of_step {state next : Correlation} {action : Exchanging}
    (stepped : state.step action = some next) : Steps state action next := by
  cases action with
  | callApi request =>
      cases stepped
      exact .began request
  | register index =>
      simp only [step] at stepped
      split at stepped
      next found =>
        cases stepped
        exact .registered found rfl
      next => cases stepped
  | receive reader frame =>
      simp only [step] at stepped
      split at stepped
      next reading =>
        cases stepped
        exact .received reading
      next => cases stepped
  | take index =>
      simp only [step] at stepped
      split at stepped
      next found =>
        split at stepped
        next waits =>
          cases stepped
          exact .took found rfl waits
        next absent =>
          cases stepped
          exact .missed found rfl absent
      next => cases stepped
  | send index =>
      simp only [step] at stepped
      split at stepped
      next found =>
        cases stepped
        exact .sent found rfl
      next => cases stepped
  | resolve index =>
      simp only [step] at stepped
      split at stepped
      next found =>
        cases stepped
        exact .resolved found rfl
      next => cases stepped
  | drop index =>
      simp only [step] at stepped
      split at stepped
      next found =>
        split at stepped
        next => cases stepped
        next alone =>
          cases stepped
          exact .dropped found rfl (Bool.eq_false_iff.mpr alone)
      next => cases stepped
  | timeout index =>
      simp only [step] at stepped
      split at stepped
      next found =>
        cases stepped
        exact .expired found rfl
      next => cases stepped
  | forget index =>
      simp only [step] at stepped
      split at stepped
      next found =>
        cases stepped
        exact .forgot found rfl
      next => cases stepped
  | connect eventTx =>
      cases stepped
      exact .connected eventTx
  | disconnect =>
      cases stepped
      exact .disconnected
  | background action =>
      obtain ⟨lifecycle, ran, rfl⟩ := Option.map_eq_some_iff.mp stepped
      exact .ran ran

/-! ## The pending table -/

def registeredEcho (call : Call) : Option String :=
  match call.phase with
  | .ready => none
  | _ => some call.echo

def askedEcho (handler : Handler) : Option String :=
  match handler.phase with
  | .parsed => none
  | _ => some handler.echo

def heldCall (handler : Handler) : Option Nat :=
  match handler.phase with
  | .holding call => some call
  | _ => none

/-- The senders of the calls as requests that wait for the responses. -/
def pending (state : Correlation) : Pending String Nat Nat :=
  { issued := .ofList registeredEcho state.calls
    asked := .ofList askedEcho state.handlers
    waiting := state.lifecycle.inner.pendingCalls
    held := .ofList heldCall state.handlers
    resolved := state.resolved }

variable {state next : Correlation} {action : Exchanging}

@[simp]
theorem pending_setInner (inner : Inner) :
    (state.setInner inner).pending =
      { state.pending with waiting := inner.pendingCalls } := rfl

theorem pending_setPhase {index : Nat} {phase : CallPhase} (later : phase ≠ .ready)
    (registered : ∀ call, state.calls[index]? = some call → call.phase ≠ .ready) :
    (state.setPhase index phase).pending = state.pending := by
  have same : Table.ofList registeredEcho (state.setPhase index phase).calls =
      Table.ofList registeredEcho state.calls := by
    apply Table.ofList_modify_of_eq
    intro call found
    have before := registered call found
    cases call with
    | mk request echo current wire =>
        cases current <;> cases phase <;> simp_all [registeredEcho]
  simp only [pending, same]
  rfl

theorem pending_registerCall {index : Nat} {call : Call}
    (found : state.calls[index]? = some call) :
    (state.registerCall index call).pending =
      { state.pending.issue call.echo index with
        waiting :=
          (state.lifecycle.inner.register state.name state.writerOpen call.echo
            index).2.pendingCalls } := by
  unfold registerCall
  generalize state.lifecycle.inner.register state.name state.writerOpen call.echo index = outcome
  rcases outcome with ⟨result, inner⟩
  cases result with
  | ok writer =>
      simp only [pending, onWire, setInner, Pending.issue]
      rw [Table.ofList_modify_insert registeredEcho found rfl]
  | error error =>
      simp only [pending, setPhase, setInner, Pending.issue]
      rw [Table.ofList_modify_insert registeredEcho found rfl]

theorem registerCall_linear {index : Nat} {call : Call}
    (found : state.calls[index]? = some call) (ready : call.phase = .ready)
    (linear : state.pending.Linear) : (state.registerCall index call).pending.Linear := by
  have fresh : state.pending.issued.get index = none := by
    simp [pending, Table.get_ofList, found, registeredEcho, ready]
  rw [pending_registerCall found]
  rcases Inner.register_pendingCalls state.name state.writerOpen state.lifecycle.inner
    call.echo index with inserted | fewer
  · rw [inserted]
    exact linear.register call.echo fresh
  · exact (linear.issue call.echo fresh).discard fewer

theorem pending_handleTextMessage (frame : Json) :
    (state.handleTextMessage frame).pending = state.pending := by
  unfold handleTextMessage
  split
  next response =>
    split
    next echo named =>
      simp only [pending]
      rw [Table.ofList_concat askedEcho _ rfl, Table.ofList_concat heldCall _ rfl]
    next => rfl
  next => rfl

theorem pending_took {index call : Nat} {handler : Handler}
    (found : state.handlers[index]? = some handler)
    (waits : state.lifecycle.inner.pendingCalls.get handler.echo = some call) :
    ((state.setInner (state.lifecycle.inner.takePending handler.echo).2).setHandler index
      (.holding call)).pending = state.pending.take handler.echo index := by
  simp only [pending, setHandler, setInner, Inner.takePending, Pending.take, waits]
  rw [Table.ofList_modify_insert askedEcho found rfl,
    Table.ofList_modify_insert heldCall found rfl]

theorem pending_missed {index : Nat} {handler : Handler}
    (found : state.handlers[index]? = some handler) (parsed : handler.phase = .parsed)
    (absent : state.lifecycle.inner.pendingCalls.get handler.echo = none) :
    ((state.setInner (state.lifecycle.inner.takePending handler.echo).2).setHandler index
      .done).pending = state.pending.take handler.echo index := by
  simp only [pending, setHandler, setInner, Inner.takePending, Pending.take, absent]
  rw [Table.ofList_modify_insert askedEcho found rfl, Table.ofList_modify_of_eq heldCall]
  intro other position
  rw [found] at position
  cases position
  simp [heldCall, parsed]

theorem registeredEcho_receive (response : ApiResponse) (call : Call) :
    registeredEcho (call.receive response) = registeredEcho call := by
  rcases call with ⟨request, echo, phase, wire⟩
  cases phase with
  | waiting channel => cases channel <;> rfl
  | _ => rfl

theorem pending_sent {index call : Nat} {handler : Handler}
    (found : state.handlers[index]? = some handler) (holding : handler.phase = .holding call) :
    pending
        { state.setHandler index .done with
          calls := state.calls.modify call (Call.receive (responseOf handler.frame))
          resolved := state.resolved ++ [(index, call)] } =
      state.pending.resolve index call := by
  simp only [pending, setHandler, Pending.resolve]
  rw [Table.ofList_modify_of_eq registeredEcho _ _ _ fun call _ =>
      registeredEcho_receive (responseOf handler.frame) call,
    Table.ofList_modify_remove heldCall found rfl, Table.ofList_modify_of_eq askedEcho]
  intro other position
  rw [found] at position
  cases position
  simp [askedEcho, holding]

/-- Whatever the calls, the handlers and the tasks do, every sender is in one
place. -/
theorem pending_linear_steps (linear : state.pending.Linear) (steps : Steps state action next) :
    next.pending.Linear := by
  cases steps with
  | began request =>
      simp only [pending]
      rw [Table.ofList_concat registeredEcho _ rfl]
      exact linear
  | registered found ready => exact registerCall_linear found ready linear
  | received =>
      rw [pending_handleTextMessage]
      exact linear
  | took found parsed waits =>
      rw [pending_took found waits]
      apply linear.take
      simp [pending, Table.get_ofList, found, askedEcho, parsed]
  | missed found parsed absent =>
      rw [pending_missed found parsed absent]
      apply linear.take
      simp [pending, Table.get_ofList, found, askedEcho, parsed]
  | sent found holding =>
      rw [pending_sent found holding]
      apply linear.resolve
      simp [pending, Table.get_ofList, found, heldCall, holding]
  | resolved found waits | dropped found waits | expired found waits =>
      rw [pending_setPhase (by simp) (by simp [found, waits])]
      exact linear
  | forgot found expired =>
      rw [pending_setPhase (by simp) (by simp [setInner, found, expired]), pending_setInner]
      apply linear.discard
      intro key call waits
      exact ((Table.get_remove_eq_some_iff _ _ _ _).mp waits).2
  | connected => exact linear
  | disconnected =>
      apply linear.discard
      intro key call waits
      cases waits
  | ran stepped =>
      simp only [pending, Lifecycle.background_pendingCalls stepped]
      exact linear

/-! ## The calls -/

/-- The echo of a call by its number: the counter starts at one and wraps. -/
def echoAt (index : Nat) : String := toString (UInt64.ofNat (index + 1)).toNat

theorem echoAt_injective {first second : Nat} (firstSmall : first + 1 < 2 ^ 64)
    (secondSmall : second + 1 < 2 ^ 64) (same : echoAt first = echoAt second) :
    first = second := by
  have digits := congrArg (fun text : String => Nat.ofDigitChars 10 text.toList 0) same
  simp only [echoAt, Nat.toString_eq_repr, Nat.toList_repr, Nat.ofDigitChars_ten_toDigits,
    UInt64.toNat_ofNat'] at digits
  rw [Nat.mod_eq_of_lt firstSmall, Nat.mod_eq_of_lt secondSmall] at digits
  omega

/-- A response was sent to a call by a handler whose frame it was read from. -/
def Delivered (state : Correlation) (index : Nat) (response : ApiResponse) : Prop :=
  ∃ position handler, (position, index) ∈ state.resolved ∧
    state.handlers[position]? = some handler ∧ responseOf handler.frame = response

/-- What holds of the call with a given number. -/
structure SoundCall (index : Nat) (delivered : ApiResponse → Prop) (call : Call) : Prop where
  numbered : call.echo = echoAt index
  wired : ∀ {wire}, call.wire = some wire → wire = call.wireRequest
  sent : ∀ {channel}, call.phase = .waiting channel → call.wire = some call.wireRequest
  answered : ∀ {response}, call.phase.response = some response →
    call.wire = some call.wireRequest ∧ delivered response

structure Sound (state : Correlation) : Prop where
  counter : state.echoCounter = UInt64.ofNat (state.calls.length + 1)
  calls : ∀ {index call}, state.calls[index]? = some call →
    SoundCall index (state.Delivered index) call

theorem new_sound (name : String) (apiTimeoutSecs : Nat) : (new name apiTimeoutSecs).Sound :=
  ⟨rfl, fun found => by simp [new] at found⟩

/-- The handlers have grown and kept their frames, and the log has grown. -/
def Extends (state next : Correlation) : Prop :=
  (∀ {position : Nat} {handler : Handler}, state.handlers[position]? = some handler →
    ∃ later, next.handlers[position]? = some later ∧ later.frame = handler.frame) ∧
  state.resolved ⊆ next.resolved

theorem extends_of_eq (handlers : next.handlers = state.handlers)
    (resolved : next.resolved = state.resolved) : state.Extends next := by
  refine ⟨fun found => ⟨_, by rw [handlers]; exact found, rfl⟩, ?_⟩
  rw [resolved]
  exact List.Subset.refl _

theorem extends_of_modify {index : Nat} {phase : HandlerPhase}
    (handlers : next.handlers = (state.setHandler index phase).handlers)
    (resolved : state.resolved ⊆ next.resolved) : state.Extends next := by
  refine ⟨?_, resolved⟩
  intro position handler found
  simp only [handlers, setHandler, List.getElem?_modify, found]
  split
  next => exact ⟨_, rfl, rfl⟩
  next => exact ⟨handler, rfl, rfl⟩

theorem extends_handleTextMessage (frame : Json) :
    state.Extends (state.handleTextMessage frame) := by
  unfold handleTextMessage
  split
  next =>
    split
    next =>
      refine ⟨?_, List.Subset.refl _⟩
      intro position handler found
      have inside := (List.getElem?_eq_some_iff.mp found).1
      exact ⟨handler, by rw [List.getElem?_append_left inside, found], rfl⟩
    next => exact extends_of_eq rfl rfl
  next => exact extends_of_eq rfl rfl

theorem extends_registerCall (index : Nat) (call : Call) :
    state.Extends (state.registerCall index call) := by
  unfold registerCall
  split
  split
  next => exact extends_of_eq rfl rfl
  next => exact extends_of_eq rfl rfl

theorem extends_steps (steps : Steps state action next) : state.Extends next := by
  cases steps with
  | registered => exact extends_registerCall _ _
  | received => exact extends_handleTextMessage _
  | took | missed => exact extends_of_modify rfl (List.Subset.refl _)
  | sent => exact extends_of_modify rfl (List.subset_append_left _ _)
  | began | resolved | dropped | expired | forgot | connected | disconnected | ran =>
      exact extends_of_eq rfl rfl

theorem Extends.delivered (grows : state.Extends next) {index : Nat} {response : ApiResponse}
    (delivered : state.Delivered index response) : next.Delivered index response := by
  obtain ⟨position, handler, logged, found, built⟩ := delivered
  obtain ⟨later, foundLater, sameFrame⟩ := grows.1 found
  exact ⟨position, later, grows.2 logged, foundLater, by rw [sameFrame, built]⟩

theorem SoundCall.mono {index : Nat} {delivered later : ApiResponse → Prop} {call : Call}
    (sound : SoundCall index delivered call)
    (grows : ∀ {response}, delivered response → later response) :
    SoundCall index later call :=
  { sound with answered := fun found => (sound.answered found).imp_right grows }

theorem SoundCall.setPhase {index : Nat} {delivered : ApiResponse → Prop} {call : Call}
    (sound : SoundCall index delivered call) {phase : CallPhase}
    (silent : phase.response = none) (notWaiting : ∀ channel, phase ≠ .waiting channel) :
    SoundCall index delivered { call with phase := phase } :=
  { numbered := sound.numbered
    wired := sound.wired
    sent := fun waits => absurd waits (notWaiting _)
    answered := fun found => by simp [silent] at found }

theorem calls_modify {calls : List Call} {property : Nat → Call → Prop} {index : Nat}
    {change : Call → Call}
    (holds : ∀ {index call}, calls[index]? = some call → property index call)
    (changed : ∀ {call}, calls[index]? = some call → property index (change call))
    {other : Nat} {call : Call} (found : (calls.modify index change)[other]? = some call) :
    property other call := by
  rw [List.getElem?_modify] at found
  obtain ⟨before, position, rfl⟩ := Option.map_eq_some_iff.mp found
  split
  next same =>
    subst same
    exact changed position
  next => exact holds position

theorem registerCall_sound {index : Nat} {call : Call} (sound : state.Sound) :
    (state.registerCall index call).Sound := by
  unfold registerCall
  generalize state.lifecycle.inner.register state.name state.writerOpen call.echo index = outcome
  obtain ⟨result, inner⟩ := outcome
  have counter : state.echoCounter = UInt64.ofNat (state.calls.length + 1) := sound.counter
  cases result with
  | ok writer =>
      refine ⟨by simpa [onWire, setInner] using counter, ?_⟩
      apply calls_modify sound.calls
      intro before position
      exact
        { numbered := (sound.calls position).numbered
          wired := fun sent => (Option.some.inj sent).symm
          sent := fun _ => rfl
          answered := fun answer => by cases answer }
  | error error =>
      refine ⟨by simpa [setPhase, setInner] using counter, ?_⟩
      apply calls_modify sound.calls
      intro before position
      exact (sound.calls position).setPhase rfl (by simp)

theorem receive_sound {index : Nat} {delivered : ApiResponse → Prop} {call : Call}
    {response : ApiResponse} (sound : SoundCall index delivered call)
    (sends : delivered response) : SoundCall index delivered (call.receive response) := by
  unfold Call.receive
  split
  next waits =>
    exact
      { numbered := sound.numbered
        wired := sound.wired
        sent := fun _ => sound.sent waits
        answered := fun answer => by
          cases answer
          exact ⟨sound.sent waits, sends⟩ }
  next => exact sound

theorem handleTextMessage_calls (state : Correlation) (frame : Json) :
    (state.handleTextMessage frame).echoCounter = state.echoCounter ∧
      (state.handleTextMessage frame).calls = state.calls := by
  unfold handleTextMessage
  split
  next =>
    split
    next => exact ⟨rfl, rfl⟩
    next => exact ⟨rfl, rfl⟩
  next => exact ⟨rfl, rfl⟩

theorem sound_of_extends (sound : state.Sound) (grows : state.Extends next)
    (counter : next.echoCounter = state.echoCounter) (calls : next.calls = state.calls) :
    next.Sound := by
  refine ⟨by rw [counter, calls, sound.counter], ?_⟩
  intro index call found
  rw [calls] at found
  exact (sound.calls found).mono grows.delivered

theorem sound_setPhase (sound : state.Sound) {index : Nat} {phase : CallPhase}
    (silent : phase.response = none) (notWaiting : ∀ channel, phase ≠ .waiting channel) :
    (state.setPhase index phase).Sound := by
  refine ⟨by simpa [setPhase] using sound.counter, ?_⟩
  apply calls_modify sound.calls
  intro call found
  exact (sound.calls found).setPhase silent notWaiting

theorem sound_steps (sound : state.Sound) (steps : Steps state action next) : next.Sound := by
  have grows := extends_steps steps
  cases steps with
  | began request =>
      refine ⟨?_, ?_⟩
      · simp [sound.counter, UInt64.ofNat_add]
      · intro index call found
        simp only [List.getElem?_append] at found
        split at found
        next => exact (sound.calls found).mono grows.delivered
        next outside =>
          obtain ⟨same, rfl⟩ := Lifecycle.eq_of_getElem?_singleton found
          have last : index = state.calls.length := by omega
          subst last
          exact
            { numbered := by rw [echoAt, ← sound.counter]
              wired := fun sent => by cases sent
              sent := fun waits => by cases waits
              answered := fun answer => by cases answer }
  | registered => exact registerCall_sound sound
  | received =>
      obtain ⟨counter, calls⟩ := handleTextMessage_calls state _
      exact sound_of_extends sound grows counter calls
  | took | missed | connected | disconnected | ran => exact sound_of_extends sound grows rfl rfl
  | @sent index call handler found =>
      refine ⟨by simpa [setHandler] using sound.counter, ?_⟩
      apply calls_modify fun position => (sound.calls position).mono grows.delivered
      intro before position
      apply receive_sound ((sound.calls position).mono grows.delivered)
      exact ⟨index, { handler with phase := .done }, by simp, by simp [setHandler, found], rfl⟩
  | resolved found waits =>
      refine ⟨by simpa [setPhase] using sound.counter, ?_⟩
      apply calls_modify sound.calls
      intro call position
      have before := sound.calls position
      rw [found] at position
      cases position
      exact
        { numbered := before.numbered
          wired := before.wired
          sent := fun later => by cases later
          answered := fun answer => before.answered (by rw [waits]; exact answer) }
  | expired | dropped => exact sound_setPhase sound rfl (by simp)
  | @forgot index call found =>
      have later : (state.setInner
          (state.lifecycle.inner.forgetPending call.echo)).Sound :=
        sound_of_extends sound (extends_of_eq rfl rfl) rfl rfl
      exact sound_setPhase later rfl (by simp)

theorem wire_echo_unique (sound : state.Sound) (few : state.calls.length < 2 ^ 64)
    {first second : Nat} {call other : Call} {wire : ApiRequest}
    (found : state.calls[first]? = some call) (foundOther : state.calls[second]? = some other)
    (sent : other.wire = some wire) (same : wire.echo = some (.string call.echo)) :
    second = first := by
  have echoes : other.echo = call.echo := by
    rw [(sound.calls foundOther).wired sent] at same
    simpa [Call.wireRequest] using same
  have firstInside := (List.getElem?_eq_some_iff.mp found).1
  have secondInside := (List.getElem?_eq_some_iff.mp foundOther).1
  rw [(sound.calls found).numbered, (sound.calls foundOther).numbered] at echoes
  exact echoAt_injective (by omega) (by omega) echoes

theorem sound_linear_of_run {name : String} {apiTimeoutSecs : Nat} {actions : List Exchanging}
    (reached : machine.run (new name apiTimeoutSecs) actions = some state) :
    state.Sound ∧ state.pending.Linear := by
  have start : (new name apiTimeoutSecs).Sound ∧ (new name apiTimeoutSecs).pending.Linear :=
    ⟨new_sound name apiTimeoutSecs, Pending.empty_linear⟩
  apply machine.run_invariant _ start reached
  intro before action after holds stepped
  have steps : Steps before action after := steps_of_step stepped
  exact ⟨sound_steps holds.1 steps, pending_linear_steps holds.2 steps⟩

/-- A call that returns a response has put its request on the wire, and a
handler has sent it the response from a frame that names it. -/
theorem returned_delivered (sound : state.Sound) (linear : state.pending.Linear) {index : Nat}
    {call : Call} {response : ApiResponse} (found : state.calls[index]? = some call)
    (returned : call.phase = .returned (.ok response)) :
    call.wire = some call.wireRequest ∧
      ∃ position handler, (position, index) ∈ state.resolved ∧
        state.handlers[position]? = some handler ∧ echoOf handler.frame = some call.echo ∧
        response = responseOf handler.frame := by
  obtain ⟨sent, position, handler, logged, handled, built⟩ :=
    (sound.calls found).answered (by rw [returned]; rfl)
  refine ⟨sent, position, handler, logged, handled, ?_, built.symm⟩
  -- The handler asked for the key under which the call was issued.
  obtain ⟨key, issued, asked⟩ := linear.resolvedKey logged
  simp only [pending, Table.get_ofList, found, handled, Option.bind_some, registeredEcho,
    returned, askedEcho, Option.some.injEq] at issued asked
  subst issued
  split at asked
  next => cases asked
  next =>
    rw [← Option.some.inj asked]
    exact handler.named

/-- In every run, a call that returns a response returns the one read from a
frame that names the echo it alone has put on the wire, no frame resolves two
calls, and no call is resolved twice. -/
theorem callApi_correlated (name : String) (apiTimeoutSecs : Nat) (actions : List Exchanging)
    {state : Correlation} (reached : machine.run (new name apiTimeoutSecs) actions = some state)
    (few : state.calls.length < 2 ^ 64) :
    (∀ index call response, state.calls[index]? = some call →
      call.phase = .returned (.ok response) →
        ∃ echo position handler,
          call.wire = some { call.request with echo := some (.string echo) } ∧
          (∀ other otherCall wire, state.calls[other]? = some otherCall →
            otherCall.wire = some wire → wire.echo = some (.string echo) → other = index) ∧
          (position, index) ∈ state.resolved ∧
          state.handlers[position]? = some handler ∧
          echoOf handler.frame = some echo ∧ response = responseOf handler.frame) ∧
    (state.resolved.map Prod.fst).Nodup ∧ (state.resolved.map Prod.snd).Nodup := by
  obtain ⟨sound, linear⟩ := sound_linear_of_run reached
  refine ⟨?_, linear.resolversOnce, linear.resolvedOnce⟩
  intro index call response found returned
  obtain ⟨sent, position, handler, logged, handled, named, built⟩ :=
    returned_delivered sound linear found returned
  refine ⟨call.echo, position, handler, sent, ?_, logged, handled, named, built⟩
  intro other otherCall wire foundOther sentOther same
  exact wire_echo_unique sound few found foundOther sentOther same

def firstAnswer : Json :=
  .object [("status", .string "ok"), ("retcode", .number (.ofInt64 0)),
    ("echo", .number (.ofInt64 1))]

/-- The response arrives twice, and both handlers look for the call. -/
def answeredTwice : List Exchanging :=
  [.connect 0, .background (.connectSpawns 0), .background (.connectInstalls 0),
    .callApi { action := "get_status" }, .register 0,
    .receive 0 firstAnswer, .receive 0 firstAnswer, .take 1, .take 0, .send 1, .resolve 0]

theorem callApi_correlated_answeredTwice :
    ∃ state call response, machine.run (new "bot" 30) answeredTwice = some state ∧
      state.calls[0]? = some call ∧ call.phase = .returned (.ok response) ∧
      state.resolved = [(1, 0)] ∧
      ∃ echo position handler,
        call.wire = some { call.request with echo := some (.string echo) } ∧
        (position, 0) ∈ state.resolved ∧ state.handlers[position]? = some handler ∧
        echoOf handler.frame = some echo ∧ response = responseOf handler.frame := by
  have reached : ∃ state, machine.run (new "bot" 30) answeredTwice = some state ∧
      state.resolved = [(1, 0)] ∧ state.calls.length < 2 ^ 64 ∧
      ∃ call response, state.calls[0]? = some call ∧ call.phase = .returned (.ok response) :=
    ⟨_, rfl, rfl, by decide, _, _, rfl, rfl⟩
  obtain ⟨state, ran, log, few, call, response, found, returned⟩ := reached
  obtain ⟨echo, position, handler, sent, _, logged, handled, named, built⟩ :=
    (callApi_correlated "bot" 30 answeredTwice ran few).1 0 call response found returned
  exact ⟨state, call, response, ran, found, returned, log, echo, position, handler, sent,
    logged, handled, named, built⟩

end Correlation

end Ferroq.Gateway.Lagrange
