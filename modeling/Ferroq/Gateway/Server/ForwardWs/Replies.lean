import Ferroq.Gateway.Server.ForwardWs
import Ferroq.Gateway.Server.OneBot
import Ferroq.Library.Parts

/-!
# The replies of the forward WebSocket

The books of a connection: every permit is free or held by a task, every request
is owed one reply or has been given it, and every overload reply is counted or
about to be.
-/

namespace Ferroq.Gateway.Server.ForwardWs

open Ferroq.Core
open Ferroq.Library
open Ferroq.Gateway.OneBotV11

variable {Adapter : Type}

namespace Task

def held (task : Task Adapter) : Nat :=
  match task.stage with
  | .finished => 0
  | _ => 1

def running (task : Task Adapter) : Nat :=
  match task.stage with
  | .routing | .calling _ _ => 1
  | _ => 0

def owed (task : Task Adapter) : Nat :=
  match task.stage with
  | .routing | .calling _ _ | .replying _ => 1
  | _ => 0

def owedTo (frame : Nat) (task : Task Adapter) : Nat :=
  if task.frame = frame then task.owed else 0

end Task

namespace Receiving

def owedTo (frame : Nat) : Receiving → Nat
  | .rejecting other _ => if other = frame then 1 else 0
  | _ => 0

def uncounted : Receiving → Nat
  | .counting => 1
  | _ => 0

end Receiving

namespace Outbound

def repliesTo (frame : Nat) : Outbound → Nat
  | .reply other _ _ => if other = frame then 1 else 0
  | .event _ => 0

def overloads : Outbound → Nat
  | .reply _ true _ => 1
  | _ => 0

end Outbound

namespace Outbound

/-- What has been queued so far, whether it has been written or not. -/
def all (written : List Outbound) (writing : Option Outbound) (queue : List Outbound) :
    List Outbound :=
  written ++ writing.toList ++ queue

variable (written : List Outbound) (writing : Option Outbound) (queue : List Outbound)

@[simp]
theorem all_enqueue (item : Outbound) :
    all written writing (queue ++ [item]) = all written writing queue ++ [item] := by
  simp [all]

theorem all_take (next : Outbound) :
    all written (some next) queue = all written none (next :: queue) := by
  simp [all]

theorem all_write (item : Outbound) :
    all (written ++ [item]) none queue = all written (some item) queue := by
  simp [all]

end Outbound

def Session.outbound (session : Session Adapter) : List Outbound :=
  Outbound.all session.written session.writing session.queue

@[simp]
theorem held_routeStage (frame : Nat) (request : ApiRequest) (routing : Routing Adapter) :
    Task.held ⟨frame, request, Connection.routeStage routing request⟩ = 1 := by
  unfold Connection.routeStage
  split <;> rfl

@[simp]
theorem owed_routeStage (frame : Nat) (request : ApiRequest) (routing : Routing Adapter) :
    Task.owed ⟨frame, request, Connection.routeStage routing request⟩ = 1 := by
  unfold Connection.routeStage
  split <;> rfl

theorem running_le_held (task : Task Adapter) : task.running ≤ task.held := by
  unfold Task.running Task.held
  cases task.stage <;> simp

namespace Connection

variable (connection : Connection Adapter)

def requestAt (frames : List String) (frame : Nat) : Option ApiRequest :=
  frames[frame]?.bind connection.parseRequest

def due (frames : List String) (frame : Nat) : Nat :=
  if (connection.requestAt frames frame).isSome then 1 else 0

theorem requestAt_append {frames : List String} {frame : Nat} {request : ApiRequest}
    (text : String) (requested : connection.requestAt frames frame = some request) :
    connection.requestAt (frames ++ [text]) frame = some request := by
  obtain ⟨held, found, parsed⟩ := Option.bind_eq_some_iff.mp requested
  have inside := (List.getElem?_eq_some_iff.mp found).1
  rw [requestAt, List.getElem?_append_left inside, found, Option.bind_some, parsed]

theorem requestAt_length (frames : List String) (text : String) :
    connection.requestAt (frames ++ [text]) frames.length = connection.parseRequest text := by
  simp [requestAt]

theorem due_append (frames : List String) (text : String) (frame : Nat) :
    connection.due (frames ++ [text]) frame =
      connection.due frames frame +
        if frames.length = frame ∧ (connection.parseRequest text).isSome then 1 else 0 := by
  unfold due requestAt
  rcases Nat.lt_trichotomy frame frames.length with inside | last | outside
  · rw [List.getElem?_append_left inside]
    simp [Nat.ne_of_gt inside]
  · subst last
    simp
  · have beyond : (frames ++ [text])[frame]? = none := by
      simp
      omega
    rw [beyond]
    simp [Nat.le_of_lt outside, Nat.ne_of_lt outside]

structure Balanced (session : Session Adapter) : Prop where
  permits : session.permits + tally Task.held session.tasks = connection.tuning.wsApiMaxInFlight
  replies : ∀ frame, tally (Outbound.repliesTo frame) session.outbound +
      tally (Task.owedTo frame) session.tasks + session.receiving.owedTo frame =
    connection.due session.frames frame
  rejections : tally Outbound.overloads session.outbound =
    session.apiRejected + session.receiving.uncounted

theorem start_balanced (routing : Routing Adapter) :
    connection.Balanced (connection.start routing) where
  permits := rfl
  replies frame := by simp [start, Session.outbound, Outbound.all, Receiving.owedTo, due, requestAt]
  rejections := rfl

variable {connection} {session next : Session Adapter} {action : Action Adapter}

theorem permits_of_moves
    (balanced : session.permits + tally Task.held session.tasks =
      connection.tuning.wsApiMaxInFlight)
    (moves : connection.Moves session action next) :
    next.permits + tally Task.held next.tasks = connection.tuning.wsApiMaxInFlight := by
  cases moves with
  | spawned idle parsed free =>
      simp only [tally_append, tally_cons, tally_nil, Task.held]
      omega
  | routed found =>
      dsimp only
      rw [tally_set_of_eq found]
      · exact balanced
      · exact held_routeStage _ _ _
  | answered found | enqueuedReply found room =>
      dsimp only
      rw [tally_set_of_eq found]
      · exact balanced
      · rfl
  | @released index frame request found =>
      have moved := tally_set Task.held ⟨frame, request, .finished⟩ found
      simp only [Task.held] at moved ⊢
      omega
  | _ => exact balanced

theorem replies_of_moves (frame : Nat)
    (balanced : tally (Outbound.repliesTo frame) session.outbound +
      tally (Task.owedTo frame) session.tasks + session.receiving.owedTo frame =
        connection.due session.frames frame)
    (moves : connection.Moves session action next) :
    tally (Outbound.repliesTo frame) next.outbound +
      tally (Task.owedTo frame) next.tasks + next.receiving.owedTo frame =
        connection.due next.frames frame := by
  unfold Session.outbound at balanced ⊢
  cases moves with
  | unparsed idle parsed =>
      dsimp only
      rw [due_append, parsed]
      simpa using balanced
  | rejected idle parsed full =>
      rw [idle] at balanced
      dsimp only
      rw [due_append, parsed, ← balanced]
      simp [Receiving.owedTo]
  | spawned idle parsed free =>
      dsimp only
      rw [due_append, parsed, ← balanced]
      simp only [tally_append, tally_cons, tally_nil, Task.owedTo, Task.owed, Option.isSome_some,
        and_true]
      omega
  | pushed event room =>
      simpa [Outbound.repliesTo] using balanced
  | enqueuedRejection receiving room =>
      rw [receiving] at balanced
      simp only [Outbound.all_enqueue, tally_append, tally_cons, tally_nil, Outbound.repliesTo,
        Receiving.owedTo] at balanced ⊢
      omega
  | countedRejection receiving =>
      rw [receiving] at balanced
      exact balanced
  | routed found =>
      dsimp only
      rw [tally_set_of_eq found]
      · exact balanced
      · rw [Task.owedTo, owed_routeStage]
        rfl
  | answered found =>
      dsimp only
      rw [tally_set_of_eq found]
      · exact balanced
      · rfl
  | @enqueuedReply index other request outcome found room =>
      have moved := tally_set (Task.owedTo frame) ⟨other, request, .sent⟩ found
      simp only [Task.owedTo, Task.owed, ite_self] at moved
      simp only [Outbound.all_enqueue, tally_append, tally_cons, tally_nil, Outbound.repliesTo]
      omega
  | @released index other request found =>
      have moved := tally_set (Task.owedTo frame) ⟨other, request, .finished⟩ found
      simp only [Task.owedTo, Task.owed, ite_self] at moved
      dsimp only
      omega
  | taken queued free =>
      rw [queued, free] at balanced
      rw [Outbound.all_take]
      exact balanced
  | wrote held =>
      rw [held] at balanced
      rw [Outbound.all_write]
      exact balanced
  | _ => exact balanced

theorem rejections_of_moves
    (balanced : tally Outbound.overloads session.outbound =
      session.apiRejected + session.receiving.uncounted)
    (moves : connection.Moves session action next) :
    tally Outbound.overloads next.outbound = next.apiRejected + next.receiving.uncounted := by
  unfold Session.outbound at balanced ⊢
  cases moves with
  | rejected idle parsed full =>
      rw [idle] at balanced
      exact balanced
  | pushed event room | enqueuedReply found room =>
      simpa [Outbound.overloads] using balanced
  | enqueuedRejection receiving room =>
      rw [receiving] at balanced
      simp only [Outbound.all_enqueue, tally_append, balanced]
      rfl
  | countedRejection receiving =>
      rw [receiving] at balanced
      exact balanced
  | taken queued free =>
      rw [queued, free] at balanced
      rw [Outbound.all_take]
      exact balanced
  | wrote held =>
      rw [held] at balanced
      rw [Outbound.all_write]
      exact balanced
  | _ => exact balanced

theorem Balanced.of_moves (balanced : connection.Balanced session)
    (moves : connection.Moves session action next) : connection.Balanced next where
  permits := permits_of_moves balanced.permits moves
  replies frame := replies_of_moves frame (balanced.replies frame) moves
  rejections := rejections_of_moves balanced.rejections moves

/-- The outcome that the router, as it was at some time, and the backend of a
frame give a request. -/
def Served (connection : Connection Adapter) (session : Session Adapter) (frame : Nat)
    (request : ApiRequest) (outcome : Outcome) : Prop :=
  ∃ routing ∈ session.routing :: session.past,
    outcome = routing.router.routeNamed routing.info (connection.backend frame) request

/-- A response answers the request of its frame. -/
def Answers (connection : Connection Adapter) (session : Session Adapter) (frame : Nat)
    (overload : Bool) (response : ApiResponse) : Prop :=
  ∃ request, connection.requestAt session.frames frame = some request ∧
    if overload then response = overloaded request.echo
    else ∃ outcome, connection.Served session frame request outcome ∧
      response = respond request.echo outcome

def OwnStage (connection : Connection Adapter) (session : Session Adapter) (task : Task Adapter) :
    Prop :=
  match task.stage with
  | .calling adapter name => ∃ routing ∈ session.routing :: session.past,
      routing.router.routeTarget routing.info task.request = .ok (adapter, name)
  | .replying outcome => connection.Served session task.frame task.request outcome
  | _ => True

/-- What is on its way belongs to the request of its frame. -/
structure Own (connection : Connection Adapter) (session : Session Adapter) : Prop where
  requests : ∀ task ∈ session.tasks,
    connection.requestAt session.frames task.frame = some task.request
  stages : ∀ task ∈ session.tasks, connection.OwnStage session task
  receiving : ∀ {frame response}, session.receiving = .rejecting frame response →
    connection.Answers session frame true response
  outbound : ∀ {frame overload response}, .reply frame overload response ∈ session.outbound →
    connection.Answers session frame overload response

theorem start_own (routing : Routing Adapter) : connection.Own (connection.start routing) where
  requests := by simp [start]
  stages := by simp [start]
  receiving rejecting := by simp [start] at rejecting
  outbound listed := by simp [start, Session.outbound, Outbound.all] at listed

/-- Requests and routers stay what they were. -/
structure Later (connection : Connection Adapter) (session next : Session Adapter) : Prop where
  requests : ∀ {frame request}, connection.requestAt session.frames frame = some request →
    connection.requestAt next.frames frame = some request
  routings : ∀ routing ∈ session.routing :: session.past, routing ∈ next.routing :: next.past

theorem later_of_moves (moves : connection.Moves session action next) :
    connection.Later session next := by
  cases moves with
  | unparsed idle parsed | rejected idle parsed full | spawned idle parsed free =>
      exact ⟨fun requested => connection.requestAt_append _ requested, fun _ listed => listed⟩
  | rerouted routing => exact ⟨id, fun _ listed => List.mem_cons_of_mem _ listed⟩
  | _ => exact ⟨id, fun _ listed => listed⟩

variable (later : connection.Later session next)
include later

theorem Served.persists {frame : Nat} {request : ApiRequest} {outcome : Outcome}
    (served : connection.Served session frame request outcome) :
    connection.Served next frame request outcome := by
  obtain ⟨routing, listed, same⟩ := served
  exact ⟨routing, later.routings routing listed, same⟩

theorem Answers.persists {frame : Nat} {overload : Bool} {response : ApiResponse}
    (answers : connection.Answers session frame overload response) :
    connection.Answers next frame overload response := by
  obtain ⟨request, requested, fits⟩ := answers
  refine ⟨request, later.requests requested, ?_⟩
  cases overload with
  | true => exact fits
  | false =>
      obtain ⟨outcome, served, same⟩ := fits
      exact ⟨outcome, served.persists later, same⟩

theorem OwnStage.persists {task : Task Adapter} (own : connection.OwnStage session task) :
    connection.OwnStage next task := by
  unfold OwnStage at own ⊢
  split
  next adapter name stage =>
    rw [stage] at own
    obtain ⟨routing, listed, target⟩ := own
    exact ⟨routing, later.routings routing listed, target⟩
  next outcome stage =>
    rw [stage] at own
    exact Served.persists later own
  next => exact True.intro

omit later

theorem ownStage_routeStage (frame : Nat) (request : ApiRequest) :
    connection.OwnStage session ⟨frame, request, routeStage session.routing request⟩ := by
  unfold routeStage
  split
  next adapter name target => exact ⟨session.routing, List.mem_cons_self, target⟩
  next error target =>
    refine ⟨session.routing, List.mem_cons_self, ?_⟩
    rw [ApiRouter.routeNamed, target]
    rfl

theorem served_outcomeOf {frame : Nat} {request : ApiRequest} {adapter : Adapter} {name : String}
    (own : connection.OwnStage session ⟨frame, request, .calling adapter name⟩) :
    connection.Served session frame request
      (connection.outcomeOf frame request adapter name) := by
  obtain ⟨routing, listed, target⟩ := own
  refine ⟨routing, listed, ?_⟩
  rw [ApiRouter.routeNamed, target]
  unfold outcomeOf
  change _ = (connection.backend frame adapter request).bind _
  cases connection.backend frame adapter request with
  | error error => rfl
  | ok response => rfl

theorem requests_of_moves (own : connection.Own session)
    (moves : connection.Moves session action next) :
    ∀ task ∈ next.tasks, connection.requestAt next.frames task.frame = some task.request := by
  have earlier : ∀ task ∈ session.tasks,
      connection.requestAt next.frames task.frame = some task.request := fun task listed =>
    (later_of_moves moves).requests (own.requests task listed)
  cases moves with
  | spawned idle parsed free =>
      apply forall_mem_concat earlier
      exact (connection.requestAt_length _ _).trans parsed
  | routed found | answered found | enqueuedReply found room | released found =>
      have requested := earlier _ (List.mem_of_getElem? found)
      apply forall_mem_set earlier
      exact requested
  | _ => exact earlier

theorem stages_of_moves (own : connection.Own session)
    (moves : connection.Moves session action next) :
    ∀ task ∈ next.tasks, connection.OwnStage next task := by
  have later := later_of_moves moves
  have earlier : ∀ task ∈ session.tasks, connection.OwnStage next task := fun task listed =>
    (own.stages task listed).persists later
  cases moves with
  | spawned idle parsed free =>
      apply forall_mem_concat earlier
      exact True.intro
  | routed found =>
      apply forall_mem_set earlier
      exact ownStage_routeStage _ _
  | answered found =>
      have called := own.stages _ (List.mem_of_getElem? found)
      apply forall_mem_set earlier
      exact (served_outcomeOf called).persists later
  | enqueuedReply found room | released found =>
      apply forall_mem_set earlier
      exact True.intro
  | _ => exact earlier

theorem receiving_of_moves (own : connection.Own session)
    (moves : connection.Moves session action next) {frame : Nat} {response : ApiResponse}
    (rejecting : next.receiving = .rejecting frame response) :
    connection.Answers next frame true response := by
  have later := later_of_moves moves
  cases moves with
  | rejected idle parsed full =>
      cases rejecting
      exact ⟨_, (connection.requestAt_length _ _).trans parsed, rfl⟩
  | enqueuedRejection receiving room => cases rejecting
  | countedRejection receiving => cases rejecting
  | _ => exact (own.receiving rejecting).persists later

theorem outbound_of_moves (own : connection.Own session)
    (moves : connection.Moves session action next) {frame : Nat} {overload : Bool}
    {response : ApiResponse} (listed : .reply frame overload response ∈ next.outbound) :
    connection.Answers next frame overload response := by
  have later := later_of_moves moves
  unfold Session.outbound at listed
  cases moves with
  | pushed event room =>
      simp only [Outbound.all_enqueue, List.mem_append, List.mem_singleton, reduceCtorEq,
        or_false] at listed
      exact (own.outbound listed).persists later
  | enqueuedRejection receiving room =>
      simp only [Outbound.all_enqueue, List.mem_append, List.mem_singleton] at listed
      rcases listed with before | new
      · exact (own.outbound before).persists later
      · cases new
        exact (own.receiving receiving).persists later
  | enqueuedReply found room =>
      simp only [Outbound.all_enqueue, List.mem_append, List.mem_singleton] at listed
      rcases listed with before | new
      · exact (own.outbound before).persists later
      · cases new
        have task := List.mem_of_getElem? found
        have served : connection.Served session _ _ _ := own.stages _ task
        exact ⟨_, own.requests _ task, _, served, rfl⟩
  | taken queued free =>
      rw [Outbound.all_take, ← queued, ← free] at listed
      exact (own.outbound listed).persists later
  | wrote held =>
      rw [Outbound.all_write, ← held] at listed
      exact (own.outbound listed).persists later
  | _ => exact (own.outbound listed).persists later

theorem Own.of_moves (own : connection.Own session)
    (moves : connection.Moves session action next) : connection.Own next where
  requests := requests_of_moves own moves
  stages := stages_of_moves own moves
  receiving := receiving_of_moves own moves
  outbound := outbound_of_moves own moves

end Connection

/-- The handler of a single text replies as a connection does when the call is
made at once. -/
theorem handleWsMessageV11_eq {state : ServerState Adapter} {message : ClientMessage}
    {request : ApiRequest} (parsed : state.requestFromStr message.body = .ok request) :
    state.handleWsMessageV11 message =
      some (if message.permit then respond request.echo (state.routeNamed request)
        else overloaded request.echo).toJson := by
  simp only [ServerState.handleWsMessageV11, parsed]
  cases message.permit with
  | false => rfl
  | true => cases state.routeNamed request <;> rfl

end Ferroq.Gateway.Server.ForwardWs
