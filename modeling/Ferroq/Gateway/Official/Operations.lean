import Ferroq.Gateway.Official.Posts
import Ferroq.Library.Broadcast
import Ferroq.Library.Machine
import Ferroq.Library.Parts

/-!
# The operations of an official adapter

Calls of `connect`, API calls and health checks share the state of the adapter, which
each of them locks for a moment at a time.  Between two sections other operations go
on, and the backend answers a request when it likes.

Of the surroundings of a call only the name, the address and the parsers count here;
the state, the preferred way and the answers come from the run.
-/

namespace Ferroq.Gateway.Official.Operations

open Ferroq.Core Ferroq.Library

inductive Purpose where
  | connect
  | callApi (request : ApiRequest)
  | healthCheck

def probe : ApiRequest := { action := "get_login_info", params := .object [] }

def statusRequest : ApiRequest := { action := "get_status", params := .object [] }

def Purpose.request : Purpose → ApiRequest
  | .connect => probe
  | .callApi request => request
  | .healthCheck => statusRequest

abbrev Outcome := Except GatewayError ApiResponse

def userId (response : ApiResponse) : Option Int64 :=
  (response.data.get "user_id").bind Json.asI64

/-- The account that an operation learns from its response. -/
def Purpose.learned : Purpose → Outcome → Option Int64
  | .connect, .ok response => if response.retcode = 0 then userId response else none
  | .callApi request, .ok response =>
      if request.action = "get_login_info" then userId response else none
  | .healthCheck, .ok _ => none
  | _, .error _ => none

def healthy : Outcome → Bool
  | .ok response => response.retcode = 0
  | .error _ => false

/-- Where an operation stands: the request of a way is out, with the ways that are left,
or there is an outcome. -/
inductive Phase where
  | begun
  | trying (mode : ApiPathMode) (rest : List ApiPathMode)
  | ended (outcome : Outcome)
  | probed (outcome : Outcome)
  | returned (outcome : Outcome)

/-- An operation with the ways it goes through and those under which it has sent a
request. -/
structure Operation where
  purpose : Purpose
  candidates : List ApiPathMode
  posts : List ApiPathMode
  phase : Phase

structure Success where
  operation : Nat
  mode : ApiPathMode
  response : ApiResponse

structure Adapter where
  state : AdapterState
  selfId : Option Int64
  eventTx : Option Nat
  preferredMode : Option ApiPathMode
  operations : List Operation
  /-- The attempts that have succeeded so far. -/
  successes : List Success

inductive Action where
  | begin (purpose : Purpose) (eventTx : Nat)
  | discover (index : Nat)
  | answer (index : Nat) (answer : Except SendError HttpResponse)
  | settle (index : Nat)
  | finish (index : Nat)
  | disconnect

namespace Adapter

def start : Adapter where
  state := .disconnected
  selfId := none
  eventTx := none
  preferredMode := none
  operations := []
  successes := []

variable (exchange : Exchange)

/-- The ways to try when one of them is preferred. -/
def candidates (preferred : Option ApiPathMode) : List ApiPathMode :=
  { exchange with preferredMode := preferred }.candidateModes

def attempt (mode : ApiPathMode) (request : ApiRequest)
    (answer : Except SendError HttpResponse) : Outcome :=
  { exchange with send := fun _ _ => answer }.callWithMode mode request

def set (adapter : Adapter) (index : Nat) (operation : Operation) : Adapter :=
  { adapter with operations := adapter.operations.set index operation }

/-- An operation other than `connect` needs an adapter that is connected. -/
def begin (adapter : Adapter) (purpose : Purpose) (eventTx : Nat) : Adapter :=
  match purpose with
  | .connect =>
      { adapter with
        state := .connecting
        eventTx := some eventTx
        operations := adapter.operations ++ [⟨purpose, [], [], .begun⟩] }
  | .callApi _ | .healthCheck =>
      let phase :=
        if adapter.state ≠ .connected then
          .returned (.error (Lagrange.Inner.notConnected exchange.name adapter.state))
        else .begun
      { adapter with operations := adapter.operations ++ [⟨purpose, [], [], phase⟩] }

def step (adapter : Adapter) : Action → Option Adapter
  | .begin purpose eventTx => some (adapter.begin exchange purpose eventTx)
  | .discover index =>
      match adapter.operations[index]? with
      | some ⟨purpose, _, _, .begun⟩ =>
          match candidates exchange adapter.preferredMode with
          | [] =>
              some (adapter.set index
                ⟨purpose, [], [], .ended (.error (exchange.requestFailed purpose.request.action))⟩)
          | mode :: rest =>
              some (adapter.set index ⟨purpose, mode :: rest, [mode], .trying mode rest⟩)
      | _ => none
  | .answer index answer =>
      match adapter.operations[index]? with
      | some ⟨purpose, candidates, posts, .trying mode rest⟩ =>
          match attempt exchange mode purpose.request answer with
          | .ok response =>
              some
                { adapter.set index ⟨purpose, candidates, posts, .ended (.ok response)⟩ with
                  preferredMode := some mode
                  successes := adapter.successes ++ [⟨index, mode, response⟩] }
          | .error error =>
              match rest with
              | [] => some (adapter.set index ⟨purpose, candidates, posts, .ended (.error error)⟩)
              | next :: later =>
                  some (adapter.set index
                    ⟨purpose, candidates, posts ++ [next], .trying next later⟩)
      | _ => none
  | .settle index =>
      match adapter.operations[index]? with
      | some ⟨purpose, candidates, posts, .ended outcome⟩ =>
          let phase :=
            match purpose with
            | .connect => .probed outcome
            | .callApi _ | .healthCheck => .returned outcome
          some
            { adapter.set index ⟨purpose, candidates, posts, phase⟩ with
              selfId := (purpose.learned outcome).or adapter.selfId }
      | _ => none
  | .finish index =>
      match adapter.operations[index]? with
      | some ⟨purpose, candidates, posts, .probed outcome⟩ =>
          some
            { adapter.set index ⟨purpose, candidates, posts, .returned outcome⟩ with
              state := .connected }
      | _ => none
  | .disconnect => some { adapter with state := .disconnected, eventTx := none }

def machine : Machine Adapter Action := ⟨step exchange⟩

end Adapter

/-- An operation has failed under all of its ways, or succeeded under the last one that
it has tried. -/
def Operation.CameTo (successes : List Success) (index : Nat) (operation : Operation) :
    Outcome → Prop
  | .error _ => operation.posts = operation.candidates
  | .ok response => operation.posts <+: operation.candidates ∧ ∃ mode,
      operation.posts.getLast? = some mode ∧ ⟨index, mode, response⟩ ∈ successes

/-- An operation that was turned away as the adapter was not connected. -/
def Operation.TurnedAway (exchange : Exchange) (operation : Operation) (error : GatewayError) :
    Prop :=
  operation.purpose ≠ .connect ∧ ∃ state : AdapterState, state ≠ .connected ∧
    error = Lagrange.Inner.notConnected exchange.name state

/-- What has become of an operation so far. -/
def Operation.Fits (successes : List Success) (index : Nat) (operation : Operation) : Prop :=
  match operation.phase with
  | .begun => operation.posts = []
  | .trying mode rest =>
      operation.posts ++ rest = operation.candidates ∧ operation.posts.getLast? = some mode
  | .probed outcome =>
      operation.purpose = .connect ∧ operation.CameTo successes index outcome
  | .ended outcome | .returned outcome => operation.CameTo successes index outcome

def Phase.outcome : Phase → Option Outcome
  | .begun | .trying _ _ => none
  | .ended outcome | .probed outcome | .returned outcome => some outcome

namespace Adapter

variable {exchange : Exchange}

/-- What a step does to the operations: one begins, or one goes on, or none does. -/
inductive Moves (exchange : Exchange) (adapter : Adapter) : Adapter → Prop where
  | connecting (eventTx : Nat) :
      Moves exchange adapter
        { adapter with
          state := .connecting
          eventTx := some eventTx
          operations := adapter.operations ++ [⟨.connect, [], [], .begun⟩] }
  | turnedAway {purpose : Purpose} (asks : purpose ≠ .connect)
      (unconnected : adapter.state ≠ .connected) :
      Moves exchange adapter
        { adapter with
          operations := adapter.operations ++
            [⟨purpose, [], [],
              .returned (.error (Lagrange.Inner.notConnected exchange.name adapter.state))⟩] }
  | begun {purpose : Purpose} (connected : adapter.state = .connected) :
      Moves exchange adapter
        { adapter with operations := adapter.operations ++ [⟨purpose, [], [], .begun⟩] }
  | discovered {index : Nat} {purpose : Purpose} {old posts : List ApiPathMode}
      {mode : ApiPathMode} {rest : List ApiPathMode}
      (found : adapter.operations[index]? = some ⟨purpose, old, posts, .begun⟩)
      (ways : candidates exchange adapter.preferredMode = mode :: rest) :
      Moves exchange adapter
        (adapter.set index ⟨purpose, mode :: rest, [mode], .trying mode rest⟩)
  | succeeded {index : Nat} {purpose : Purpose} {candidates posts rest : List ApiPathMode}
      {mode : ApiPathMode} {response : ApiResponse}
      (found : adapter.operations[index]? = some ⟨purpose, candidates, posts, .trying mode rest⟩) :
      Moves exchange adapter
        { adapter.set index ⟨purpose, candidates, posts, .ended (.ok response)⟩ with
          preferredMode := some mode
          successes := adapter.successes ++ [⟨index, mode, response⟩] }
  | failed {index : Nat} {purpose : Purpose} {candidates posts : List ApiPathMode}
      {mode : ApiPathMode} {error : GatewayError}
      (found : adapter.operations[index]? = some ⟨purpose, candidates, posts, .trying mode []⟩) :
      Moves exchange adapter
        (adapter.set index ⟨purpose, candidates, posts, .ended (.error error)⟩)
  | tried {index : Nat} {purpose : Purpose} {candidates posts later : List ApiPathMode}
      {mode next : ApiPathMode}
      (found : adapter.operations[index]? =
        some ⟨purpose, candidates, posts, .trying mode (next :: later)⟩) :
      Moves exchange adapter
        (adapter.set index ⟨purpose, candidates, posts ++ [next], .trying next later⟩)
  | settled {index : Nat} {purpose : Purpose} {candidates posts : List ApiPathMode}
      {outcome : Outcome} {phase : Phase}
      (found : adapter.operations[index]? = some ⟨purpose, candidates, posts, .ended outcome⟩)
      (next : phase = .probed outcome ∧ purpose = .connect ∨
        phase = .returned outcome ∧ purpose ≠ .connect) :
      Moves exchange adapter
        { adapter.set index ⟨purpose, candidates, posts, phase⟩ with
          selfId := (purpose.learned outcome).or adapter.selfId }
  | finished {index : Nat} {purpose : Purpose} {candidates posts : List ApiPathMode}
      {outcome : Outcome}
      (found : adapter.operations[index]? = some ⟨purpose, candidates, posts, .probed outcome⟩) :
      Moves exchange adapter
        { adapter.set index ⟨purpose, candidates, posts, .returned outcome⟩ with
          state := .connected }
  | disconnected :
      Moves exchange adapter { adapter with state := .disconnected, eventTx := none }

theorem mem_foldl_insert_iff {mode : ApiPathMode} (more modes : List ApiPathMode) :
    mode ∈ more.foldl (fun modes mode => if mode ∈ modes then modes else modes ++ [mode]) modes ↔
      mode ∈ modes ∨ mode ∈ more := by
  induction more generalizing modes with
  | nil => simp
  | cons first rest inductionHypothesis =>
      rw [List.foldl_cons, inductionHypothesis, List.mem_cons]
      split
      next listed =>
        constructor
        · rintro (old | new)
          · exact .inl old
          · exact .inr (.inr new)
        · rintro (old | rfl | new)
          · exact .inl old
          · exact .inl listed
          · exact .inr new
      next =>
        rw [List.mem_append, List.mem_singleton, or_assoc]

theorem mem_candidates_iff {mode : ApiPathMode} (preferred : Option ApiPathMode) :
    mode ∈ candidates exchange preferred ↔
      preferred = some mode ∨ mode ∈ candidates exchange none := by
  unfold candidates Exchange.candidateModes
  simp only [mem_foldl_insert_iff, Option.mem_toList, reduceCtorEq, false_or]

theorem legacyBody_mem_candidates (exchange : Exchange) (preferred : Option ApiPathMode) :
    ApiPathMode.legacyBody ∈ candidates exchange preferred := by
  unfold candidates Exchange.candidateModes
  rw [mem_foldl_insert_iff]
  simp

theorem candidates_ne_nil (exchange : Exchange) (preferred : Option ApiPathMode) :
    candidates exchange preferred ≠ [] :=
  List.ne_nil_of_mem (legacyBody_mem_candidates exchange preferred)

variable {adapter next : Adapter} {action : Action}

theorem step_moves (stepped : (machine exchange).step adapter action = some next) :
    Moves exchange adapter next := by
  change step exchange adapter action = some next at stepped
  cases action with
  | «begin» purpose eventTx =>
      cases stepped
      unfold Adapter.begin
      cases purpose with
      | connect => exact .connecting eventTx
      | callApi request | healthCheck =>
          dsimp only
          split
          next unconnected => exact .turnedAway (by simp) unconnected
          next connected => exact .begun (not_not.mp connected)
  | discover index =>
      simp only [step] at stepped
      split at stepped
      next purpose old posts found =>
        split at stepped
        next none => exact absurd none (candidates_ne_nil exchange _)
        next mode rest ways => exact Option.some.inj stepped ▸ .discovered found ways
      next => cases stepped
  | answer index answer =>
      simp only [step] at stepped
      split at stepped
      next purpose candidates posts mode rest found =>
        split at stepped
        next response => exact Option.some.inj stepped ▸ .succeeded found
        next error =>
          split at stepped
          next => exact Option.some.inj stepped ▸ .failed found
          next later => exact Option.some.inj stepped ▸ .tried found
      next => cases stepped
  | settle index =>
      simp only [step] at stepped
      split at stepped
      next purpose candidates posts outcome found =>
        refine Option.some.inj stepped ▸ .settled found ?_
        cases purpose <;> simp
      next => cases stepped
  | finish index =>
      simp only [step] at stepped
      split at stepped
      next purpose candidates posts outcome found =>
        exact Option.some.inj stepped ▸ .finished found
      next => cases stepped
  | disconnect => exact Option.some.inj stepped ▸ .disconnected

end Adapter

/-- An operation keeps its purpose, and once it has an outcome, that and its requests. -/
structure Operation.Goes (before after : Operation) : Prop where
  purpose : after.purpose = before.purpose
  outcome : ∀ outcome, before.phase.outcome = some outcome →
    after.phase.outcome = some outcome ∧ after.posts = before.posts
  returned : ∀ outcome, before.phase = .returned outcome → after.phase = .returned outcome

theorem Operation.Goes.refl (operation : Operation) : operation.Goes operation :=
  ⟨rfl, fun _ held => ⟨held, rfl⟩, fun _ held => held⟩

namespace Adapter

/-- Operations go on, and none is forgotten. -/
def Onward (operations next : List Operation) : Prop :=
  ∀ (index : Nat) (operation : Operation), operations[index]? = some operation →
    ∃ later, next[index]? = some later ∧ operation.Goes later

theorem Onward.refl (operations : List Operation) : Onward operations operations :=
  fun _ operation found => ⟨operation, found, .refl operation⟩

theorem onward_concat (operations : List Operation) (new : Operation) :
    Onward operations (operations ++ [new]) := by
  intro index operation found
  refine ⟨operation, ?_, .refl operation⟩
  rw [List.getElem?_append_left (List.getElem?_eq_some_iff.mp found).1, found]

theorem onward_set {operations : List Operation} {index : Nat} {old new : Operation}
    (found : operations[index]? = some old) (goes : old.Goes new) :
    Onward operations (operations.set index new) := by
  intro other operation listed
  by_cases here : index = other
  · subst here
    rw [found] at listed
    cases listed
    exact ⟨new, List.getElem?_set_self (List.getElem?_eq_some_iff.mp found).1, goes⟩
  · exact ⟨operation, by rw [List.getElem?_set_ne here, listed], .refl operation⟩

variable {exchange : Exchange} {adapter next : Adapter}

theorem onward_of_moves (moves : Moves exchange adapter next) :
    Onward adapter.operations next.operations := by
  cases moves with
  | connecting | turnedAway | begun => exact onward_concat _ _
  | discovered found | succeeded found | failed found | tried found =>
      apply onward_set found
      constructor <;> simp [Phase.outcome]
  | settled found step =>
      apply onward_set found
      rcases step with ⟨rfl, -⟩ | ⟨rfl, -⟩ <;> constructor <;> simp [Phase.outcome]
  | finished found =>
      apply onward_set found
      constructor <;> simp [Phase.outcome]
  | disconnected => exact .refl _

theorem successes_of_moves (moves : Moves exchange adapter next) :
    adapter.successes ⊆ next.successes := by
  cases moves with
  | succeeded => exact fun _ listed => List.mem_append_left _ listed
  | _ => exact fun _ listed => listed

/-- The ways of an operation are those of the moment when it has looked them up, when
some way had worked before or none. -/
def WaysFrom (exchange : Exchange) (successes : List Success) (operation : Operation) : Prop :=
  operation.candidates = [] ∨ ∃ preferred : Option ApiPathMode,
    operation.candidates = candidates exchange preferred ∧
      ∀ mode ∈ preferred, ∃ success ∈ successes, success.mode = mode

structure Sound (exchange : Exchange) (adapter : Adapter) : Prop where
  fits : ∀ (index : Nat) (operation : Operation),
    adapter.operations[index]? = some operation → operation.Fits adapter.successes index
  ways : ∀ operation ∈ adapter.operations, WaysFrom exchange adapter.successes operation
  turnedAway : ∀ operation ∈ adapter.operations, operation.posts = [] → ∀ error,
    operation.phase.outcome = some (.error error) → operation.TurnedAway exchange error
  modes : ∀ success ∈ adapter.successes, success.mode ∈ candidates exchange none
  successes : ∀ success ∈ adapter.successes, ∃ operation,
    adapter.operations[success.operation]? = some operation ∧
      operation.phase.outcome = some (.ok success.response) ∧
      operation.posts.getLast? = some success.mode
  once : (adapter.successes.map Success.operation).Nodup
  preferred : adapter.preferredMode = adapter.successes.getLast?.map Success.mode
  selfId : ∀ selfId, adapter.selfId = some selfId → ∃ success ∈ adapter.successes, ∃ operation,
    adapter.operations[success.operation]? = some operation ∧
      operation.purpose.learned (.ok success.response) = some selfId
  connected : adapter.state = .connected → ∃ operation ∈ adapter.operations,
    operation.purpose = .connect ∧ ∃ outcome, operation.phase = .returned outcome

theorem cameTo_mono {successes more : List Success} (grown : successes ⊆ more) {index : Nat}
    {operation : Operation} {outcome : Outcome}
    (came : operation.CameTo successes index outcome) : operation.CameTo more index outcome := by
  cases outcome with
  | error error => exact came
  | ok response =>
      obtain ⟨order, mode, last, listed⟩ := came
      exact ⟨order, mode, last, grown listed⟩

theorem fits_mono {successes more : List Success} (grown : successes ⊆ more) {index : Nat}
    {operation : Operation} (fits : operation.Fits successes index) :
    operation.Fits more index := by
  rcases operation with ⟨purpose, candidates, posts, phase⟩
  cases phase with
  | begun | trying mode rest => exact fits
  | probed outcome => exact ⟨fits.1, cameTo_mono grown fits.2⟩
  | ended outcome | returned outcome => exact cameTo_mono grown fits

theorem fits_concat {operations : List Operation} {successes : List Success}
    (fits : ∀ (index : Nat) (operation : Operation), operations[index]? = some operation →
      operation.Fits successes index) {new : Operation}
    (own : new.Fits successes operations.length) (index : Nat) (operation : Operation)
    (found : (operations ++ [new])[index]? = some operation) :
    operation.Fits successes index := by
  rcases getElem?_append_cases found with old | ⟨late, last⟩
  · exact fits index operation old
  · have bound := (List.getElem?_eq_some_iff.mp last).1
    rw [List.length_singleton] at bound
    obtain rfl : index = operations.length := by omega
    rw [Nat.sub_self] at last
    cases last
    exact own

theorem fits_set {operations : List Operation} {successes : List Success}
    (fits : ∀ (index : Nat) (operation : Operation), operations[index]? = some operation →
      operation.Fits successes index) {place : Nat} {new : Operation}
    (own : new.Fits successes place) (index : Nat) (operation : Operation)
    (found : (operations.set place new)[index]? = some operation) :
    operation.Fits successes index := by
  rw [List.getElem?_set] at found
  split at found
  next same =>
    subst same
    split at found
    next =>
      cases found
      exact own
    next => cases found
  next => exact fits index operation found

variable {exchange : Exchange} {adapter next : Adapter}

theorem fits_of_moves (sound : Sound exchange adapter) (moves : Moves exchange adapter next)
    (index : Nat) (operation : Operation) (found : next.operations[index]? = some operation) :
    operation.Fits next.successes index := by
  revert index operation
  have grown := successes_of_moves moves
  cases moves with
  | connecting => exact fits_concat sound.fits (by rfl)
  | turnedAway => exact fits_concat sound.fits (by rfl)
  | begun => exact fits_concat sound.fits (by rfl)
  | discovered found ways =>
      refine fits_set sound.fits ?_
      exact ⟨rfl, rfl⟩
  | @succeeded index purpose candidates posts rest mode response found =>
      obtain ⟨order, last⟩ := sound.fits _ _ found
      refine fits_set (fun _ _ old => fits_mono grown (sound.fits _ _ old)) ?_
      exact ⟨⟨rest, order⟩, mode, last, List.mem_append_right _ List.mem_cons_self⟩
  | failed found =>
      obtain ⟨order, last⟩ := sound.fits _ _ found
      refine fits_set sound.fits ?_
      exact (List.append_nil _).symm.trans order
  | tried found =>
      obtain ⟨order, last⟩ := sound.fits _ _ found
      refine fits_set sound.fits ?_
      exact ⟨(List.append_assoc _ _ _).trans order, List.getLast?_concat⟩
  | settled found step =>
      have came := sound.fits _ _ found
      refine fits_set sound.fits ?_
      rcases step with ⟨rfl, connects⟩ | ⟨rfl, -⟩
      · exact ⟨connects, came⟩
      · exact came
  | finished found =>
      obtain ⟨-, came⟩ := sound.fits _ _ found
      exact fits_set sound.fits came
  | disconnected => exact sound.fits

theorem ways_of_moves (sound : Sound exchange adapter) (moves : Moves exchange adapter next) :
    ∀ operation ∈ next.operations, WaysFrom exchange next.successes operation := by
  have earlier : ∀ operation ∈ adapter.operations,
      WaysFrom exchange next.successes operation := by
    intro operation listed
    rcases sound.ways operation listed with none | ⟨preferred, ways, worked⟩
    · exact .inl none
    · refine .inr ⟨preferred, ways, ?_⟩
      intro mode held
      obtain ⟨success, found, same⟩ := worked mode held
      exact ⟨success, successes_of_moves moves found, same⟩
  cases moves with
  | connecting | turnedAway | begun => exact forall_mem_concat earlier (.inl rfl)
  | discovered found ways =>
      apply forall_mem_set earlier
      refine .inr ⟨adapter.preferredMode, ways.symm, ?_⟩
      intro mode held
      rw [sound.preferred] at held
      obtain ⟨success, last, same⟩ := Option.map_eq_some_iff.mp held
      exact ⟨success, List.mem_of_getLast? last, same⟩
  | succeeded found | failed found | tried found | settled found | finished found =>
      have old := earlier _ (List.mem_of_getElem? found)
      apply forall_mem_set earlier
      exact old
  | disconnected => exact earlier

theorem turnedAway_of_moves (sound : Sound exchange adapter)
    (moves : Moves exchange adapter next) :
    ∀ operation ∈ next.operations, operation.posts = [] → ∀ error,
      operation.phase.outcome = some (.error error) → operation.TurnedAway exchange error := by
  cases moves with
  | connecting | begun =>
      apply forall_mem_concat sound.turnedAway
      rintro - error ⟨⟩
  | turnedAway asks unconnected =>
      apply forall_mem_concat sound.turnedAway
      rintro - error ⟨⟩
      exact ⟨asks, adapter.state, unconnected, rfl⟩
  | discovered found | succeeded found | tried found =>
      apply forall_mem_set sound.turnedAway
      rintro - error ⟨⟩
  | failed found =>
      obtain ⟨-, last⟩ := sound.fits _ _ found
      apply forall_mem_set sound.turnedAway
      intro none
      dsimp only at none last
      rw [none] at last
      cases last
  | settled found step =>
      have old := sound.turnedAway _ (List.mem_of_getElem? found)
      apply forall_mem_set sound.turnedAway
      rcases step with ⟨rfl, -⟩ | ⟨rfl, -⟩ <;> exact old
  | finished found =>
      have old := sound.turnedAway _ (List.mem_of_getElem? found)
      apply forall_mem_set sound.turnedAway
      exact old
  | disconnected => exact sound.turnedAway

theorem mode_mem_of_trying (sound : Sound exchange adapter) {index : Nat} {operation : Operation}
    (found : adapter.operations[index]? = some operation) {mode : ApiPathMode}
    (tried : mode ∈ operation.candidates) : mode ∈ candidates exchange none := by
  rcases sound.ways operation (List.mem_of_getElem? found) with none | ⟨preferred, ways, worked⟩
  · rw [none] at tried
    cases tried
  · rw [ways, mem_candidates_iff] at tried
    rcases tried with same | listed
    · obtain ⟨success, worked, rfl⟩ := worked mode same
      exact sound.modes success worked
    · exact listed

theorem modes_of_moves (sound : Sound exchange adapter) (moves : Moves exchange adapter next) :
    ∀ success ∈ next.successes, success.mode ∈ candidates exchange none := by
  cases moves with
  | succeeded found =>
      obtain ⟨order, last⟩ := sound.fits _ _ found
      apply forall_mem_concat sound.modes
      apply mode_mem_of_trying sound found
      exact order ▸ List.mem_append_left _ (List.mem_of_getLast? last)
  | _ => exact sound.modes

theorem found_of_moves (sound : Sound exchange adapter) (moves : Moves exchange adapter next) :
    ∀ success ∈ next.successes, ∃ operation,
      next.operations[success.operation]? = some operation ∧
        operation.phase.outcome = some (.ok success.response) ∧
        operation.posts.getLast? = some success.mode := by
  have earlier : ∀ success ∈ adapter.successes, ∃ operation,
      next.operations[success.operation]? = some operation ∧
        operation.phase.outcome = some (.ok success.response) ∧
        operation.posts.getLast? = some success.mode := by
    intro success listed
    obtain ⟨operation, found, outcome, last⟩ := sound.successes success listed
    obtain ⟨later, there, goes⟩ := onward_of_moves moves _ _ found
    obtain ⟨same, posts⟩ := goes.outcome _ outcome
    exact ⟨later, there, same, posts ▸ last⟩
  cases moves with
  | @succeeded index purpose candidates posts rest mode response found =>
      obtain ⟨order, last⟩ := sound.fits _ _ found
      apply forall_mem_concat earlier
      exact ⟨_, List.getElem?_set_self (List.getElem?_eq_some_iff.mp found).1, rfl, last⟩
  | _ => exact earlier

theorem once_of_moves (sound : Sound exchange adapter) (moves : Moves exchange adapter next) :
    (next.successes.map Success.operation).Nodup := by
  cases moves with
  | @succeeded index purpose candidates posts rest mode response found =>
      rw [List.map_append, List.nodup_append]
      refine ⟨sound.once, by simp, ?_⟩
      rintro place listed other isNew rfl
      obtain ⟨success, earlier, rfl⟩ := List.mem_map.mp listed
      obtain ⟨operation, there, outcome, -⟩ := sound.successes success earlier
      rw [List.map_singleton, List.mem_singleton] at isNew
      rw [isNew, found] at there
      cases there
      cases outcome
  | _ => exact sound.once

theorem preferred_of_moves (sound : Sound exchange adapter) (moves : Moves exchange adapter next) :
    next.preferredMode = next.successes.getLast?.map Success.mode := by
  cases moves with
  | succeeded found =>
      rw [List.getLast?_concat]
      rfl
  | _ => exact sound.preferred

theorem selfId_of_moves (sound : Sound exchange adapter) (moves : Moves exchange adapter next)
    (selfId : Int64) (known : next.selfId = some selfId) :
    ∃ success ∈ next.successes, ∃ operation,
      next.operations[success.operation]? = some operation ∧
        operation.purpose.learned (.ok success.response) = some selfId := by
  have earlier (held : adapter.selfId = some selfId) : ∃ success ∈ next.successes, ∃ operation,
      next.operations[success.operation]? = some operation ∧
        operation.purpose.learned (.ok success.response) = some selfId := by
    obtain ⟨success, listed, operation, found, learned⟩ := sound.selfId selfId held
    obtain ⟨later, there, goes⟩ := onward_of_moves moves _ _ found
    exact ⟨success, successes_of_moves moves listed, later, there, goes.purpose ▸ learned⟩
  cases moves with
  | @settled index purpose candidates posts outcome phase found step =>
      rcases Option.or_eq_some_iff.mp known with learned | ⟨-, held⟩
      · cases outcome with
        | error error => cases purpose <;> cases learned
        | ok response =>
            obtain ⟨-, mode, -, listed⟩ := sound.fits _ _ found
            have here := List.getElem?_set_self (a := ⟨purpose, candidates, posts, phase⟩)
              (List.getElem?_eq_some_iff.mp found).1
            exact ⟨_, listed, _, here, learned⟩
      · exact earlier held
  | _ => exact earlier known

theorem connected_of_moves (sound : Sound exchange adapter) (moves : Moves exchange adapter next)
    (connected : next.state = .connected) : ∃ operation ∈ next.operations,
      operation.purpose = .connect ∧ ∃ outcome, operation.phase = .returned outcome := by
  have earlier (held : adapter.state = .connected) : ∃ operation ∈ next.operations,
      operation.purpose = .connect ∧ ∃ outcome, operation.phase = .returned outcome := by
    obtain ⟨operation, listed, connects, outcome, returned⟩ := sound.connected held
    obtain ⟨index, found⟩ := List.getElem?_of_mem listed
    obtain ⟨later, there, goes⟩ := onward_of_moves moves _ _ found
    exact ⟨later, List.mem_of_getElem? there, goes.purpose.trans connects, outcome,
      goes.returned outcome returned⟩
  cases moves with
  | connecting | disconnected => cases connected
  | finished found =>
      obtain ⟨connects, -⟩ := sound.fits _ _ found
      have bound := (List.getElem?_eq_some_iff.mp found).1
      exact ⟨_, List.mem_set bound _, connects, _, rfl⟩
  | _ => exact earlier connected

theorem Sound.of_moves (sound : Sound exchange adapter) (moves : Moves exchange adapter next) :
    Sound exchange next where
  fits := fits_of_moves sound moves
  ways := ways_of_moves sound moves
  turnedAway := turnedAway_of_moves sound moves
  modes := modes_of_moves sound moves
  successes := found_of_moves sound moves
  once := once_of_moves sound moves
  preferred := preferred_of_moves sound moves
  selfId := selfId_of_moves sound moves
  connected := connected_of_moves sound moves

theorem candidates_nodup (exchange : Exchange) (preferred : Option ApiPathMode) :
    (candidates exchange preferred).Nodup :=
  Exchange.candidateModes_nodup _

theorem head_candidates (exchange : Exchange) (mode : ApiPathMode) :
    (candidates exchange (some mode)).head? = some mode := by
  have kept (more modes : List ApiPathMode) :
      (more.foldl (fun modes mode => if mode ∈ modes then modes else modes ++ [mode])
        (mode :: modes)).head? = some mode := by
    induction more generalizing modes with
    | nil => rfl
    | cons first rest inductionHypothesis =>
        rw [List.foldl_cons]
        split
        next => exact inductionHypothesis modes
        next => exact inductionHypothesis (modes ++ [first])
  exact kept _ []

theorem length_le_four {modes : List ApiPathMode} (distinct : modes.Nodup) :
    modes.length ≤ 4 := by
  have all : modes ⊆ [.template, .apiPrefixed, .directAction, .legacyBody] := by
    intro mode _
    cases mode <;> simp
  exact distinct.length_le_of_subset all

structure Orderly (exchange : Exchange) (adapter : Adapter) : Prop where
  /-- An operation sends a request under each way at most once, and begins with the one
  that has worked before. -/
  posts : ∀ operation ∈ adapter.operations, operation.posts.Nodup ∧ operation.posts.length ≤ 4 ∧
    operation.posts <+: operation.candidates ∧
      (operation.candidates = [] ∨ ∃ preferred : Option ApiPathMode,
        operation.candidates = candidates exchange preferred ∧ ∀ mode ∈ preferred,
          operation.candidates.head? = some mode ∧
            ∃ success ∈ adapter.successes, success.mode = mode)
  /-- It fails when it has tried all the ways that the address allows, or at once, with
  that error, as the adapter was not connected. -/
  failures : ∀ operation ∈ adapter.operations, ∀ error,
    operation.phase.outcome = some (.error error) →
      operation.posts = [] ∧ operation.TurnedAway exchange error ∨
        operation.posts ≠ [] ∧ candidates exchange none ⊆ operation.posts
  /-- It succeeds with the last request that it has sent, and once. -/
  successes : (adapter.successes.map Success.operation).Nodup ∧
    ∀ (index : Nat) (operation : Operation) (response : ApiResponse),
      adapter.operations[index]? = some operation →
        operation.phase.outcome = some (.ok response) →
          ∃ mode, operation.posts.getLast? = some mode ∧
            mode ∈ candidates exchange none ∧ ⟨index, mode, response⟩ ∈ adapter.successes
  /-- A health check says yes after a response of its own that has return code zero. -/
  checks : ∀ (index : Nat) (operation : Operation) (outcome : Outcome),
    adapter.operations[index]? = some operation → operation.purpose = .healthCheck →
      operation.phase.outcome = some outcome → healthy outcome = true →
        ∃ success ∈ adapter.successes, success.operation = index ∧ success.response.retcode = 0
  /-- The preferred way is the one that has worked last, and the address allows it. -/
  preferred : adapter.preferredMode = adapter.successes.getLast?.map Success.mode ∧
    ∀ mode ∈ adapter.preferredMode, mode ∈ candidates exchange none
  /-- The account is one that the backend has named to an operation that asked for it. -/
  selfId : ∀ selfId, adapter.selfId = some selfId → ∃ success ∈ adapter.successes, ∃ operation,
    adapter.operations[success.operation]? = some operation ∧
      operation.purpose.learned (.ok success.response) = some selfId
  /-- Some call of `connect` has come to its end before the adapter is connected. -/
  connected : adapter.state = .connected → ∃ operation ∈ adapter.operations,
    operation.purpose = .connect ∧ ∃ outcome, operation.phase = .returned outcome

theorem posts_prefix {successes : List Success} {index : Nat} {operation : Operation}
    (fits : operation.Fits successes index) : operation.posts <+: operation.candidates := by
  have came {outcome : Outcome} (came : operation.CameTo successes index outcome) :
      operation.posts <+: operation.candidates := by
    cases outcome with
    | error error => exact came ▸ List.prefix_refl _
    | ok response => exact came.1
  unfold Operation.Fits at fits
  split at fits
  next => exact fits ▸ List.nil_prefix
  next => exact ⟨_, fits.1⟩
  next => exact came fits.2
  next => exact came fits
  next => exact came fits

theorem cameTo_of_outcome {successes : List Success} {index : Nat} {operation : Operation}
    (fits : operation.Fits successes index) {outcome : Outcome}
    (reached : operation.phase.outcome = some outcome) :
    operation.CameTo successes index outcome := by
  unfold Operation.Fits at fits
  unfold Phase.outcome at reached
  split at fits <;> rename_i phase <;> rw [phase] at reached <;> cases reached
  · exact fits.2
  · exact fits
  · exact fits

theorem orderly_of_sound (adapter : Adapter) (sound : Sound exchange adapter) :
    Orderly exchange adapter where
  posts := by
    intro operation listed
    obtain ⟨index, found⟩ := List.getElem?_of_mem listed
    have order := posts_prefix (sound.fits index operation found)
    have ways := sound.ways operation listed
    have distinct : operation.candidates.Nodup := by
      rcases ways with none | ⟨preferred, same, -⟩
      · rw [none]
        exact List.nodup_nil
      · rw [same]
        exact candidates_nodup exchange preferred
    have sent := distinct.sublist order.sublist
    refine ⟨sent, length_le_four sent, order, ?_⟩
    rcases ways with none | ⟨preferred, same, worked⟩
    · exact .inl none
    · refine .inr ⟨preferred, same, ?_⟩
      rintro mode rfl
      exact ⟨same ▸ head_candidates exchange mode, worked mode rfl⟩
  failures := by
    intro operation listed error failed
    obtain ⟨index, found⟩ := List.getElem?_of_mem listed
    have all : operation.posts = operation.candidates :=
      cameTo_of_outcome (sound.fits index operation found) failed
    rcases sound.ways operation listed with none | ⟨preferred, same, -⟩
    · have unsent : operation.posts = [] := all.trans none
      exact .inl ⟨unsent, sound.turnedAway operation listed unsent error failed⟩
    · right
      rw [all, same]
      refine ⟨candidates_ne_nil exchange preferred, ?_⟩
      intro mode allowed
      exact (mem_candidates_iff preferred).mpr (.inr allowed)
  successes := by
    refine ⟨sound.once, ?_⟩
    intro index operation response found succeeded
    obtain ⟨-, mode, last, noted⟩ := cameTo_of_outcome (sound.fits index operation found) succeeded
    exact ⟨mode, last, sound.modes _ noted, noted⟩
  checks := by
    intro index operation outcome found _ reached positive
    cases outcome with
    | error error => cases positive
    | ok response =>
        obtain ⟨-, mode, -, noted⟩ := cameTo_of_outcome (sound.fits index operation found) reached
        exact ⟨⟨index, mode, response⟩, noted, rfl, of_decide_eq_true positive⟩
  preferred := by
    refine ⟨sound.preferred, ?_⟩
    intro mode held
    rw [sound.preferred] at held
    obtain ⟨success, last, rfl⟩ := Option.map_eq_some_iff.mp held
    exact sound.modes success (List.mem_of_getLast? last)
  selfId := sound.selfId
  connected := sound.connected

section Alone

variable {request : ApiRequest} {index : Nat} {mode : ApiPathMode}
  {ways posts rest : List ApiPathMode}

theorem step_answer_ok {response : ApiResponse}
    (found : adapter.operations[index]? = some ⟨.callApi request, ways, posts, .trying mode rest⟩)
    (attempted : exchange.callWithMode mode request = .ok response) :
    (machine exchange).step adapter (.answer index (exchange.answer request mode)) =
      some
        { adapter.set index ⟨.callApi request, ways, posts, .ended (.ok response)⟩ with
          preferredMode := some mode
          successes := adapter.successes ++ [⟨index, mode, response⟩] } := by
  have same : attempt exchange mode (Purpose.callApi request).request
      (exchange.answer request mode) = .ok response := attempted
  simp only [machine, step, found, same]

theorem step_answer_last {error : GatewayError}
    (found : adapter.operations[index]? = some ⟨.callApi request, ways, posts, .trying mode []⟩)
    (attempted : exchange.callWithMode mode request = .error error) :
    (machine exchange).step adapter (.answer index (exchange.answer request mode)) =
      some (adapter.set index ⟨.callApi request, ways, posts, .ended (.error error)⟩) := by
  have same : attempt exchange mode (Purpose.callApi request).request
      (exchange.answer request mode) = .error error := attempted
  simp only [machine, step, found, same]

theorem step_answer_next {error : GatewayError} {following : ApiPathMode}
    (found : adapter.operations[index]? =
      some ⟨.callApi request, ways, posts, .trying mode (following :: rest)⟩)
    (attempted : exchange.callWithMode mode request = .error error) :
    (machine exchange).step adapter (.answer index (exchange.answer request mode)) =
      some (adapter.set index
        ⟨.callApi request, ways, posts ++ [following], .trying following rest⟩) := by
  have same : attempt exchange mode (Purpose.callApi request).request
      (exchange.answer request mode) = .error error := attempted
  simp only [machine, step, found, same]

/-- What an operation comes to when nothing else goes on. -/
structure Alone (exchange : Exchange) (adapter : Adapter) (request : ApiRequest) (index : Nat)
    (ways posts tried : List ApiPathMode)
    (result : Except GatewayError (ApiPathMode × ApiResponse)) (final : Adapter) : Prop where
  selfId : final.selfId = adapter.selfId
  operation : final.operations[index]? =
    some ⟨.callApi request, ways, posts ++ tried, .ended (result.map Prod.snd)⟩
  preferredMode : final.preferredMode =
    (result.toOption.map Prod.fst).or adapter.preferredMode

theorem run_trying_ok {response : ApiResponse} (lastError : Option GatewayError)
    (found : adapter.operations[index]? = some ⟨.callApi request, ways, posts, .trying mode rest⟩)
    (attempted : exchange.callWithMode mode request = .ok response) :
    ∃ final, (machine exchange).run adapter [.answer index (exchange.answer request mode)] =
        some final ∧
      [mode] = (exchange.postsFrom request (mode :: rest)).map Prod.fst ∧
      Alone exchange adapter request index ways posts []
        (exchange.tryModes request lastError (mode :: rest)) final := by
  have bound := (List.getElem?_eq_some_iff.mp found).1
  refine ⟨_, (machine exchange).run_cons_eq_some.mpr
    ⟨_, step_answer_ok found attempted, rfl⟩, ?_, rfl, ?_, ?_⟩
  · simp [Exchange.postsFrom, attempted]
  · simp [set, Exchange.tryModes, attempted, List.getElem?_set_self bound, Except.map]
  · simp [Exchange.tryModes, attempted, Except.toOption]

theorem run_trying (exchange : Exchange) (lastError : Option GatewayError)
    (found : adapter.operations[index]? = some ⟨.callApi request, ways, posts, .trying mode rest⟩) :
    ∃ (answers : List (Except SendError HttpResponse)) (tried : List ApiPathMode)
      (final : Adapter),
      (machine exchange).run adapter (answers.map (Action.answer index)) = some final ∧
      mode :: tried = (exchange.postsFrom request (mode :: rest)).map Prod.fst ∧
      Alone exchange adapter request index ways posts tried
        (exchange.tryModes request lastError (mode :: rest)) final := by
  induction rest generalizing mode lastError posts adapter with
  | nil =>
      have bound := (List.getElem?_eq_some_iff.mp found).1
      cases attempted : exchange.callWithMode mode request with
      | ok response =>
          obtain ⟨final, reached, order, alone⟩ := run_trying_ok lastError found attempted
          exact ⟨[_], [], final, reached, order, alone⟩
      | error error =>
          refine ⟨[exchange.answer request mode], [], _,
            (machine exchange).run_cons_eq_some.mpr
              ⟨_, step_answer_last found attempted, rfl⟩, ?_, rfl, ?_, ?_⟩
          · simp [Exchange.postsFrom, attempted]
          · simp [set, Exchange.tryModes, attempted, List.getElem?_set_self bound, Except.map]
          · simp [Exchange.tryModes, attempted, set, Except.toOption]
  | cons next later inductionHypothesis =>
      have bound := (List.getElem?_eq_some_iff.mp found).1
      cases attempted : exchange.callWithMode mode request with
      | ok response =>
          obtain ⟨final, reached, order, alone⟩ := run_trying_ok lastError found attempted
          exact ⟨[_], [], final, reached, order, alone⟩
      | error error =>
          have here : (adapter.set index
              ⟨.callApi request, ways, posts ++ [next], .trying next later⟩).operations[index]? =
                some ⟨.callApi request, ways, posts ++ [next], .trying next later⟩ := by
            simp [set, List.getElem?_set_self bound]
          obtain ⟨answers, tried, final, reached, order, alone⟩ :=
            inductionHypothesis (some error) here
          refine ⟨exchange.answer request mode :: answers, next :: tried, final,
            (machine exchange).run_cons_eq_some.mpr
              ⟨_, step_answer_next found attempted, reached⟩, ?_, alone.selfId, ?_, ?_⟩
          · rw [Exchange.postsFrom, attempted, List.map_cons, ← order]
          · have operation := alone.operation
            rw [List.append_assoc] at operation
            rw [Exchange.tryModes, attempted]
            exact operation
          · have preferred := alone.preferredMode
            rw [Exchange.tryModes, attempted]
            exact preferred

theorem selfId_maybeUpdate (exchange : Exchange) (request : ApiRequest) (response : ApiResponse) :
    (exchange.maybeUpdateSelfId request.action response).selfId =
      ((Purpose.callApi request).learned (.ok response)).or exchange.inner.selfId := by
  have learned : (Purpose.callApi request).learned (.ok response) =
      if request.action = "get_login_info" then userId response else none := rfl
  rw [learned, Exchange.maybeUpdateSelfId]
  split
  · unfold userId
    cases (response.data.get "user_id").bind Json.asI64 <;> rfl
  · rfl

/-- A call during which nothing else goes on does what a call of the adapter does. -/
theorem callApi_alone {exchange : Exchange} (request : ApiRequest)
    (connected : exchange.inner.state = .connected) (state : adapter.state = .connected)
    (preferred : adapter.preferredMode = exchange.preferredMode)
    (selfId : adapter.selfId = exchange.inner.selfId) :
    ∃ actions final, (machine exchange).run adapter actions = some final ∧
      final.preferredMode = (exchange.callApi request).1.preferredMode ∧
      final.selfId = (exchange.callApi request).1.inner.selfId ∧
      final.operations[adapter.operations.length]? =
        some ⟨.callApi request, exchange.candidateModes, (exchange.posts request).map Prod.fst,
          .returned (exchange.callApi request).2⟩ := by
  have ways : candidates exchange adapter.preferredMode = exchange.candidateModes := by
    rw [preferred]
    rfl
  cases modes : exchange.candidateModes with
  | nil => exact absurd (ways.trans modes) (candidates_ne_nil exchange _)
  | cons mode rest =>
      let index := adapter.operations.length
      let fresh : Adapter :=
        { adapter with
          operations := adapter.operations ++ [⟨.callApi request, [], [], .begun⟩] }
      let searching : Adapter :=
        fresh.set index ⟨.callApi request, mode :: rest, [mode], .trying mode rest⟩
      have begun : (machine exchange).step adapter (.begin (.callApi request) 0) = some fresh := by
        simp [machine, step, Adapter.begin, state, fresh]
      have discovered : (machine exchange).step fresh (.discover index) = some searching := by
        simp [machine, step, fresh, searching, index, ways, modes]
      have found : searching.operations[index]? =
          some ⟨.callApi request, mode :: rest, [mode], .trying mode rest⟩ := by
        simp [searching, fresh, set, index]
      obtain ⟨answers, tried, ended, reached, order, alone⟩ :=
        run_trying exchange none found
      have same : exchange.tryModes request none (mode :: rest) =
          exchange.discoverAndCall request := by
        rw [← modes]
        rfl
      rw [same] at alone
      have bound := (List.getElem?_eq_some_iff.mp alone.operation).1
      have settled : (machine exchange).step ended (.settle index) = some
          { ended.set index ⟨.callApi request, mode :: rest, [mode] ++ tried,
              .returned ((exchange.discoverAndCall request).map Prod.snd)⟩ with
            selfId := ((Purpose.callApi request).learned
              ((exchange.discoverAndCall request).map Prod.snd)).or ended.selfId } := by
        simp only [machine, step, alone.operation]
      refine ⟨_, _, (machine exchange).run_cons_eq_some.mpr ⟨_, begun,
        (machine exchange).run_cons_eq_some.mpr ⟨_, discovered,
          (machine exchange).run_concat reached settled⟩⟩, ?_, ?_, ?_⟩
      · have kept : searching.preferredMode = exchange.preferredMode := preferred
        change ended.preferredMode = _
        rw [alone.preferredMode, kept, Exchange.callApi, if_neg (by simp [connected])]
        cases exchange.discoverAndCall request <;> rfl
      · have kept : searching.selfId = exchange.inner.selfId := selfId
        dsimp only
        rw [alone.selfId, kept, Exchange.callApi, if_neg (by simp [connected])]
        cases exchange.discoverAndCall request with
        | error error => rfl
        | ok found => exact (selfId_maybeUpdate exchange request found.2).symm
      · rw [← modes] at order
        change (ended.operations.set index _)[index]? = _
        rw [List.getElem?_set_self bound, List.singleton_append, order, Exchange.callApi,
          if_neg (by simp [connected])]
        cases exchange.discoverAndCall request <;> rfl

end Alone

end Adapter

end Ferroq.Gateway.Official.Operations
