import Ferroq.Gateway.Server.ForwardWs.Replies

/-!
# Delivery of the replies

Between frames and events the connection comes to rest after finitely many
steps, and then every request has its one reply.
-/

namespace Ferroq.Gateway.Server.ForwardWs

open Ferroq.Core
open Ferroq.Library

variable {Adapter : Type}

/-- The steps that a task and its reply still take. -/
def Task.work (task : Task Adapter) : Nat :=
  match task.stage with
  | .routing => 6
  | .calling _ _ => 5
  | .replying _ => 4
  | .sent => 1
  | .finished => 0

def Receiving.work : Receiving → Nat
  | .waiting => 0
  | .rejecting _ _ => 4
  | .counting => 1

def Session.work (session : Session Adapter) : Nat :=
  tally Task.work session.tasks + session.receiving.work + 2 * session.queue.length +
    session.writing.toList.length

theorem work_routeStage (frame : Nat) (request : ApiRequest) (routing : Routing Adapter) :
    Task.work ⟨frame, request, Connection.routeStage routing request⟩ ≤ 5 := by
  unfold Connection.routeStage
  split <;> simp [Task.work]

namespace Connection

variable {connection : Connection Adapter} {session next : Session Adapter}
  {action : Action Adapter}

theorem work_of_moves (internal : action.Internal) (moves : connection.Moves session action next) :
    next.work < session.work := by
  unfold Session.work
  cases moves with
  | other | unparsed | rejected | spawned | pushed | dropped | rerouted => exact internal.elim
  | enqueuedRejection receiving room =>
      simp only [receiving, Receiving.work, List.length_append, List.length_singleton]
      omega
  | countedRejection receiving =>
      simp only [receiving, Receiving.work]
      omega
  | @routed index frame request found =>
      have moved := tally_set Task.work ⟨frame, request, routeStage session.routing request⟩ found
      have less := work_routeStage frame request session.routing
      simp only [Task.work] at moved less ⊢
      omega
  | @answered index frame request adapter name found =>
      have moved := tally_set Task.work
        ⟨frame, request, .replying (connection.outcomeOf frame request adapter name)⟩ found
      simp only [Task.work] at moved ⊢
      omega
  | @enqueuedReply index frame request outcome found room =>
      have moved := tally_set Task.work ⟨frame, request, .sent⟩ found
      simp only [Task.work, List.length_append, List.length_singleton] at moved ⊢
      omega
  | @released index frame request found =>
      have moved := tally_set Task.work ⟨frame, request, .finished⟩ found
      simp only [Task.work] at moved ⊢
      omega
  | taken queued free =>
      simp only [queued, free, List.length_cons, Option.toList_some, Option.toList_none,
        List.length_nil]
      omega
  | wrote held =>
      simp only [held, Option.toList_some, Option.toList_none, List.length_cons, List.length_nil]
      omega

theorem hasRoom_of_queue_nil (empty : session.queue = []) : connection.HasRoom session := by
  unfold HasRoom
  rw [empty]
  exact connection.tuning.capacityPositive

theorem exists_task_step {index : Nat} {task : Task Adapter} (room : connection.HasRoom session)
    (found : session.tasks[index]? = some task) (unfinished : task.work ≠ 0) :
    ∃ action, action.Internal ∧ (connection.step session action).isSome := by
  rcases task with ⟨frame, request, stage⟩
  cases stage with
  | routing => exact ⟨.route index, True.intro, by simp [step, found]⟩
  | calling adapter name => exact ⟨.answer index, True.intro, by simp [step, found]⟩
  | replying outcome => exact ⟨.enqueueReply index, True.intro, by simp [step, found, room]⟩
  | sent => exact ⟨.release index, True.intro, by simp [step, found]⟩
  | finished => exact absurd rfl unfinished

/-- As long as there is work, some step can be taken: the writer empties the
queue, and then the queue has room for the others. -/
theorem exists_internal_step (remaining : session.work ≠ 0) :
    ∃ action, action.Internal ∧ (connection.step session action).isSome := by
  cases writing : session.writing with
  | some item => exact ⟨.write, True.intro, by simp [step, writing]⟩
  | none =>
      cases queue : session.queue with
      | cons item rest => exact ⟨.take, True.intro, by simp [step, writing, queue]⟩
      | nil =>
          have room : connection.HasRoom session := hasRoom_of_queue_nil queue
          cases receiving : session.receiving with
          | rejecting frame response =>
              exact ⟨.enqueueRejection, True.intro, by simp [step, receiving, room]⟩
          | counting => exact ⟨.countRejection, True.intro, by simp [step, receiving]⟩
          | waiting =>
              have unfinished : tally Task.work session.tasks ≠ 0 := by
                simpa [Session.work, writing, queue, receiving, Receiving.work] using remaining
              simp only [ne_eq, tally_eq_zero_iff, not_forall] at unfinished
              obtain ⟨task, listed, works⟩ := unfinished
              obtain ⟨index, found⟩ := List.mem_iff_getElem?.mp listed
              exact exists_task_step room found works

end Connection

def Outbound.replyTo (frame : Nat) : Outbound → Option (Bool × ApiResponse)
  | .reply other overload response => if other = frame then some (overload, response) else none
  | .event _ => none

/-- The replies to a frame that the client has got. -/
def Session.repliesTo (session : Session Adapter) (frame : Nat) : List (Bool × ApiResponse) :=
  session.written.filterMap (Outbound.replyTo frame)

namespace Connection

variable (connection : Connection Adapter)

def sentEcho (text : String) : Option Json := (connection.fromStr text).bind ApiRequest.sentEcho

/-- The only reply to the request in a text frame. -/
def RepliedOnce (session : Session Adapter) (frame : Nat) (text : String) : Prop :=
  ∃ overload response, session.repliesTo frame = [(overload, response)] ∧
    response.toJson.get "echo" = connection.sentEcho text ∧
      connection.Answers session frame overload response

/-- Every request has its reply, and every overload reply is counted. -/
structure Complete (session : Session Adapter) : Prop where
  replied : ∀ {frame text request}, session.frames[frame]? = some text →
    connection.parseRequest text = some request → connection.RepliedOnce session frame text
  counted : session.apiRejected = tally Outbound.overloads session.written

structure Accounted (session : Session Adapter) : Prop where
  inFlight : tally Task.running session.tasks ≤ connection.tuning.wsApiMaxInFlight
  ignored : ∀ {frame text}, session.frames[frame]? = some text →
    connection.parseRequest text = none → session.repliesTo frame = []
  replied : ∀ {frame text request}, session.frames[frame]? = some text →
    connection.parseRequest text = some request →
      session.repliesTo frame = [] ∨ connection.RepliedOnce session frame text
  /-- A reply that is due is written or on its way, in one place. -/
  due : ∀ frame, tally (Outbound.repliesTo frame) session.outbound +
      tally (Task.owedTo frame) session.tasks + session.receiving.owedTo frame =
    connection.due session.frames frame
  counted : tally Outbound.overloads session.outbound =
    session.apiRejected + session.receiving.uncounted
  /-- The connection can come to rest, and then nothing is left to do. -/
  settles : ∃ rest final, (∀ action ∈ rest, action.Internal) ∧
    connection.machine.run session rest = some final ∧ connection.Complete final
  /-- It comes to rest on its own, however its tasks are scheduled. -/
  bounded : ∀ rest final, (∀ action ∈ rest, action.Internal) →
    connection.machine.run session rest = some final →
      rest.length ≤ session.work ∧
        ((∀ action, action.Internal → connection.step final action = none) →
          connection.Complete final)

variable {connection} {session : Session Adapter}

theorem mem_outbound_of_repliesTo {frame : Nat} {overload : Bool} {response : ApiResponse}
    (listed : (overload, response) ∈ session.repliesTo frame) :
    .reply frame overload response ∈ session.outbound := by
  obtain ⟨item, written, read⟩ := List.mem_filterMap.mp listed
  have same : item = .reply frame overload response := by
    cases item with
    | event json => cases read
    | reply other overload response =>
        simp only [Outbound.replyTo] at read
        split at read
        next found =>
          cases read
          rw [found]
        next => cases read
  rw [← same]
  simp [Session.outbound, Outbound.all, written]

theorem length_repliesTo (frame : Nat) :
    (session.repliesTo frame).length = tally (Outbound.repliesTo frame) session.written := by
  apply length_filterMap_eq_tally
  intro item
  cases item with
  | event json => rfl
  | reply other overload response =>
      simp only [Outbound.repliesTo, Outbound.replyTo]
      split <;> rfl

theorem Answers.echo {frame : Nat} {overload : Bool} {response : ApiResponse} {text : String}
    (answers : connection.Answers session frame overload response)
    (received : session.frames[frame]? = some text) :
    response.toJson.get "echo" = connection.sentEcho text := by
  obtain ⟨request, requested, fits⟩ := answers
  rw [requestAt, received, Option.bind_some] at requested
  obtain ⟨document, parsed, read⟩ := Option.bind_eq_some_iff.mp requested
  have echoed : response.echo = request.echo := by
    cases overload with
    | true => rw [show response = overloaded request.echo from fits]; rfl
    | false =>
        obtain ⟨outcome, _, same⟩ := fits
        rw [same]
        cases outcome <;> rfl
  rw [ApiResponse.get_echo_toJson, echoed, ApiRequest.echo_of_deserialize read, sentEcho, parsed,
    Option.bind_some]

theorem repliedOnce_of_length {frame : Nat} {text : String} (own : connection.Own session)
    (received : session.frames[frame]? = some text)
    (once : (session.repliesTo frame).length = 1) :
    connection.RepliedOnce session frame text := by
  obtain ⟨⟨overload, response⟩, only⟩ := List.length_eq_one_iff.mp once
  have listed : (overload, response) ∈ session.repliesTo frame := by simp [only]
  have answers := own.outbound (mem_outbound_of_repliesTo listed)
  exact ⟨overload, response, only, answers.echo received, answers⟩

theorem due_of_received {frames : List String} {frame : Nat} {text : String}
    (received : frames[frame]? = some text) :
    connection.due frames frame = if (connection.parseRequest text).isSome then 1 else 0 := by
  rw [due, requestAt, received, Option.bind_some]

theorem Balanced.length_repliesTo_le (balanced : connection.Balanced session) (frame : Nat) :
    (session.repliesTo frame).length ≤ connection.due session.frames frame := by
  have replies := balanced.replies frame
  rw [length_repliesTo]
  simp only [Session.outbound, Outbound.all, tally_append] at replies
  omega

theorem owedTo_le_work (frame : Nat) (task : Task Adapter) : task.owedTo frame ≤ task.work := by
  unfold Task.owedTo Task.owed Task.work
  cases task.stage <;> simp <;> split <;> simp

theorem complete_of_work (balanced : connection.Balanced session) (own : connection.Own session)
    (idle : session.work = 0) : connection.Complete session := by
  unfold Session.work at idle
  have queue : session.queue = [] := List.length_eq_zero_iff.mp (by omega)
  have writing : session.writing.toList = [] := List.length_eq_zero_iff.mp (by omega)
  have receiving : session.receiving = .waiting := by
    cases held : session.receiving with
    | waiting => rfl
    | rejecting frame response => simp [held, Receiving.work] at idle
    | counting => simp [held, Receiving.work] at idle
  have outbound : session.outbound = session.written := by
    simp [Session.outbound, Outbound.all, queue, writing]
  constructor
  · intro frame text request received parsed
    apply repliedOnce_of_length own received
    have replies := balanced.replies frame
    have owed := tally_le_tally (owedTo_le_work frame) session.tasks
    rw [outbound, receiving, due_of_received received, parsed] at replies
    rw [length_repliesTo]
    simp only [Receiving.owedTo, Option.isSome_some, if_true] at replies
    omega
  · have rejections := balanced.rejections
    rw [outbound, receiving] at rejections
    exact rejections.symm

theorem sound_step (session : Session Adapter) (action : Action Adapter) (next : Session Adapter)
    (sound : connection.Balanced session ∧ connection.Own session)
    (stepped : connection.machine.step session action = some next) :
    connection.Balanced next ∧ connection.Own next :=
  have moves := connection.moves_of_step stepped
  ⟨sound.1.of_moves moves, sound.2.of_moves moves⟩

theorem work_step (session : Session Adapter) (action : Action Adapter) (next : Session Adapter)
    (internal : action.Internal) (stepped : connection.machine.step session action = some next) :
    next.work < session.work :=
  work_of_moves internal (connection.moves_of_step stepped)

theorem settles_of_sound (sound : connection.Balanced session ∧ connection.Own session) :
    ∃ rest final, (∀ action ∈ rest, action.Internal) ∧
      connection.machine.run session rest = some final ∧ connection.Complete final := by
  have progress : ∀ state, connection.Balanced state ∧ connection.Own state → state.work ≠ 0 →
      ∃ action next, action.Internal ∧ connection.machine.step state action = some next := by
    intro state _ remaining
    obtain ⟨action, internal, enabled⟩ := exists_internal_step remaining
    obtain ⟨next, stepped⟩ := Option.isSome_iff_exists.mp enabled
    exact ⟨action, next, internal, stepped⟩
  obtain ⟨rest, final, internal, reached, idle⟩ :=
    Machine.exists_run_of_progress sound_step progress work_step sound
  have finalSound := connection.machine.run_invariant sound_step sound reached
  exact ⟨rest, final, internal, reached, complete_of_work finalSound.1 finalSound.2 idle⟩

theorem bounded_of_sound (sound : connection.Balanced session ∧ connection.Own session)
    {rest : List (Action Adapter)} {final : Session Adapter}
    (internal : ∀ action ∈ rest, action.Internal)
    (reached : connection.machine.run session rest = some final) :
    rest.length ≤ session.work ∧
      ((∀ action, action.Internal → connection.step final action = none) →
        connection.Complete final) := by
  constructor
  · have used := Machine.length_add_le_of_decreasing work_step internal reached
    omega
  · intro stuck
    have finalSound := connection.machine.run_invariant sound_step sound reached
    apply complete_of_work finalSound.1 finalSound.2
    by_contra remaining
    obtain ⟨action, allowed, enabled⟩ := exists_internal_step remaining
    rw [stuck action allowed] at enabled
    cases enabled

theorem accounted_of_sound (session : Session Adapter)
    (sound : connection.Balanced session ∧ connection.Own session) :
    connection.Accounted session where
  inFlight := by
    have held := tally_le_tally running_le_held session.tasks
    have permits := sound.1.permits
    omega
  ignored := by
    intro frame text received refused
    have limit := sound.1.length_repliesTo_le frame
    rw [due_of_received received, refused] at limit
    exact List.length_eq_zero_iff.mp (Nat.le_zero.mp limit)
  replied := by
    intro frame text request received parsed
    have limit := sound.1.length_repliesTo_le frame
    rw [due_of_received received, parsed] at limit
    rcases Nat.le_one_iff_eq_zero_or_eq_one.mp limit with none | once
    · exact Or.inl (List.length_eq_zero_iff.mp none)
    · exact Or.inr (repliedOnce_of_length sound.2 received once)
  due := sound.1.replies
  counted := sound.1.rejections
  settles := settles_of_sound sound
  bounded _ _ internal reached := bounded_of_sound sound internal reached

/-- Whatever a client, the backends and the events do, at most the limit of calls
runs at once, and every request gets exactly one reply, which is its own. -/
theorem accounted_throughout (connection : Connection Adapter) (routing : Routing Adapter)
    (schedule : List (Action Adapter)) :
    connection.machine.Throughout connection.Accounted (connection.start routing) schedule :=
  connection.machine.throughout_of_invariant sound_step accounted_of_sound schedule
    ⟨connection.start_balanced routing, start_own routing⟩

theorem queue_step (session : Session Adapter) (action : Action Adapter) (next : Session Adapter)
    (bounded : session.queue.length ≤ connection.tuning.wsOutboundQueueCapacity)
    (stepped : connection.machine.step session action = some next) :
    next.queue.length ≤ connection.tuning.wsOutboundQueueCapacity := by
  cases connection.moves_of_step stepped with
  | pushed event room | enqueuedRejection receiving room | enqueuedReply found room =>
      simp only [List.length_append, List.length_singleton]
      exact room
  | taken queued free =>
      rw [queued, List.length_cons] at bounded
      exact Nat.le_of_succ_le bounded
  | _ => exact bounded

theorem queue_bounded_throughout (connection : Connection Adapter) (routing : Routing Adapter)
    (schedule : List (Action Adapter)) :
    connection.machine.Throughout
      (fun session => session.queue.length ≤ connection.tuning.wsOutboundQueueCapacity)
      (connection.start routing) schedule :=
  connection.machine.throughout_of_invariant queue_step (fun _ => id) schedule (Nat.zero_le _)

end Connection

end Ferroq.Gateway.Server.ForwardWs
