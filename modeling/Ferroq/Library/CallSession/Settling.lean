import Ferroq.Library.CallSession.Ownership
import Mathlib.Data.List.Nodup

/-!
# Sessions come to rest

Without new frames and events a session comes to rest after finitely many steps of its
own, whether its writer is alive or not, and then nothing is owed any more.
-/

namespace Ferroq.Library

variable {Frame Call Work Context Reply Event : Type}

namespace CallSession

def Listening.work : Listening Reply → Nat
  | .refusing _ _ _ => 4
  | .counting => 1
  | .waiting | .ended => 0

def Writer.work {Item : Type} (queue : List Item) : Writer Item → Nat
  | .idle => 2 * queue.length
  | .writing _ => 2 * queue.length + 1
  | .gone => 0

theorem Writer.work_enqueue {Item : Type} (queue : List Item) (item : Item)
    (writer : Writer Item) : writer.work (queue ++ [item]) ≤ writer.work queue + 2 := by
  cases writer <;> simp [Writer.work] <;> omega

def pushWork (session : CallSession Frame Call Work Context Reply Event) : Nat :=
  if session.pushing then 3 * (session.channel.sent.length - session.receiver.next) else 0

def repliesTo (session : CallSession Frame Call Work Context Reply Event) (number : Nat) :
    List (Bool × Reply) :=
  session.written.filterMap (Item.replyTo number)

end CallSession

open CallSession

namespace CallService

variable (service : CallService Frame Call Work Context Reply)

def jobWork (job : Job Call Work Reply) : Nat :=
  match job.stage with
  | .working work => service.effort work + 5
  | .replying _ => 4
  | .sent => 1
  | .finished => 0

def work (session : CallSession Frame Call Work Context Reply Event) : Nat :=
  tally service.jobWork session.jobs + session.listening.work +
    session.writer.work session.queue + session.pushWork

variable {service} {session next : CallSession Frame Call Work Context Reply Event}
  {action : Action Frame Context Event}

theorem pushWork_of_recv {received : Received Event} (pushing : session.pushing = true)
    (given : session.channel.recv session.receiver = some received) :
    3 * (session.channel.sent.length - (session.receiver.take received).next) + 3 ≤
      session.pushWork := by
  rw [pushWork, if_pos pushing]
  rcases Broadcast.recv_cases given with ⟨value, rfl, found, -⟩ | ⟨missed, rfl, some, behind⟩
  · have bound := (List.getElem?_eq_some_iff.mp found).1
    have taken : (session.receiver.take (.value value)).next = session.receiver.next + 1 := by
      simp [Subscription.take, Subscription.next, Nat.add_assoc]
    omega
  · have taken : (session.receiver.take (.lagged missed)).next =
        session.receiver.next + missed := by
      simp [Subscription.take, Subscription.next, Nat.add_assoc]
    omega

theorem work_of_moves (internal : action.Internal) (moves : service.Moves session action next) :
    service.work next < service.work session := by
  unfold work
  cases moves with
  | ignored | refused | turnedAway | spawned | published | changed | hungUp | stoppedPushing
  | failed => exact internal.elim
  | lagged pushing given =>
      have less := pushWork_of_recv pushing given
      simp only [pushWork, if_pos pushing] at less ⊢
      omega
  | @pushed event pushing given room =>
      have less := pushWork_of_recv pushing given
      have queued := session.writer.work_enqueue session.queue (.push event)
      simp only [pushWork, if_pos pushing] at less ⊢
      split <;> omega
  | dropped pushing given full =>
      have less := pushWork_of_recv pushing given
      simp only [pushWork, if_pos pushing] at less ⊢
      omega
  | @replied frame turnedAway reply listening room =>
      have queued := session.writer.work_enqueue session.queue (.reply frame turnedAway reply)
      have left : (if turnedAway then .counting else .waiting : Listening Reply).work ≤ 1 := by
        cases turnedAway <;> simp [Listening.work]
      simp only [listening, Listening.work, pushWork] at left ⊢
      omega
  | counted listening =>
      simp only [listening, Listening.work, pushWork]
      omega
  | @further index frame call work further found advanced =>
      have moved := tally_set service.jobWork ⟨frame, call, .working further⟩ found
      have less := service.advances advanced
      simp only [jobWork, pushWork] at moved ⊢
      omega
  | @done index frame call work reply found advanced =>
      have moved := tally_set service.jobWork ⟨frame, call, .replying reply⟩ found
      simp only [jobWork, pushWork] at moved ⊢
      omega
  | @enqueued index frame call reply found room =>
      have moved := tally_set service.jobWork ⟨frame, call, .sent⟩ found
      have queued := session.writer.work_enqueue session.queue (.reply frame false reply)
      simp only [jobWork, pushWork] at moved ⊢
      omega
  | @released index frame call found =>
      have moved := tally_set service.jobWork ⟨frame, call, .finished⟩ found
      simp only [jobWork, pushWork] at moved ⊢
      omega
  | taken queued free =>
      simp only [queued, free, Writer.work, List.length_cons, pushWork]
      omega
  | wrote held =>
      simp only [held, Writer.work, pushWork]
      omega

theorem exists_job_step {index : Nat} {job : Job Call Work Reply} (room : service.HasRoom session)
    (found : session.jobs[index]? = some job) (unfinished : service.jobWork job ≠ 0) :
    ∃ action, action.Internal ∧ (service.step session action).isSome := by
  rcases job with ⟨frame, call, stage⟩
  cases stage with
  | working work =>
      refine ⟨.advance index, True.intro, ?_⟩
      simp only [step, found]
      split <;> rfl
  | replying reply => exact ⟨.enqueue index, True.intro, by simp [step, found, room]⟩
  | sent => exact ⟨.release index, True.intro, by simp [step, found]⟩
  | finished => exact absurd rfl unfinished

/-- With room in the queue, what is left can be done by the loop, by the task that
passes events on or by a job. -/
theorem exists_step_of_room (pushed : session.Pushed) (room : service.HasRoom session)
    (remaining : tally service.jobWork session.jobs + session.listening.work +
      session.pushWork ≠ 0) :
    ∃ action, action.Internal ∧ (service.step session action).isSome := by
  cases listening : session.listening with
  | refusing frame turnedAway reply =>
      exact ⟨.refuse, True.intro, by simp [step, listening, room]⟩
  | counting => exact ⟨.count, True.intro, by simp [step, listening]⟩
  | waiting | ended =>
      by_cases pushWork : session.pushWork = 0
      · have unfinished : tally service.jobWork session.jobs ≠ 0 := by
          simpa [listening, Listening.work, pushWork] using remaining
        simp only [ne_eq, tally_eq_zero_iff, not_forall] at unfinished
        obtain ⟨job, listed, works⟩ := unfinished
        obtain ⟨index, found⟩ := List.mem_iff_getElem?.mp listed
        exact exists_job_step room found works
      · have pushing : session.pushing = true := by
          by_contra stopped
          exact pushWork (if_neg stopped)
        have behind : session.receiver.next ≠ session.channel.sent.length := by
          intro level
          apply pushWork
          rw [CallSession.pushWork, if_pos pushing, level, Nat.sub_self]
        cases given : session.channel.recv session.receiver with
        | none => exact absurd ((Broadcast.recv_eq_none_iff pushed.sound).mp given) behind
        | some received => exact ⟨.push, True.intro, by simp [step, pushing, given]⟩

/-- As long as there is work, some step can be taken: the writer empties the queue if it
is alive, and then the queue has room for the others. -/
theorem exists_internal_step (pushed : session.Pushed) (remaining : service.work session ≠ 0) :
    ∃ action, action.Internal ∧ (service.step session action).isSome := by
  unfold work at remaining
  cases writer : session.writer with
  | writing item => exact ⟨.write, True.intro, by simp [step, writer]⟩
  | gone =>
      rw [writer] at remaining
      exact exists_step_of_room pushed (.inl (by rw [writer]; rfl)) remaining
  | idle =>
      cases queue : session.queue with
      | cons item rest => exact ⟨.take, True.intro, by simp [step, writer, queue]⟩
      | nil =>
          rw [writer, queue] at remaining
          apply exists_step_of_room pushed _ remaining
          right
          rw [queue]
          exact service.capacityPositive

structure Sound (service : CallService Frame Call Work Context Reply)
    (session : CallSession Frame Call Work Context Reply Event) : Prop where
  balanced : service.Balanced session
  own : service.Own session
  pushed : session.Pushed
  bounded : session.writer.isGone ∨ session.queue.length ≤ service.capacity

theorem start_sound (service : CallService Frame Call Work Context Reply)
    (channel : Broadcast Event) (context : Context) :
    service.Sound (service.start channel context) where
  balanced := service.start_balanced channel context
  own := service.start_own channel context
  pushed := start_pushed channel context
  bounded := .inr (Nat.zero_le _)

theorem bounded_of_moves
    (bounded : session.writer.isGone ∨ session.queue.length ≤ service.capacity)
    (moves : service.Moves session action next) :
    next.writer.isGone ∨ next.queue.length ≤ service.capacity := by
  have grown (room : service.HasRoom session) (item : Item Event Reply) :
      session.writer.isGone ∨ (session.queue ++ [item]).length ≤ service.capacity := by
    rcases room with gone | space
    · exact .inl gone
    · rw [List.length_append, List.length_singleton]
      exact .inr space
  cases moves with
  | failed => exact .inl rfl
  | pushed pushing given room => exact grown room _
  | replied listening room | enqueued found room => exact grown room _
  | taken queued free =>
      rw [queued, free] at bounded
      rcases bounded with gone | space
      · cases gone
      · exact .inr (Nat.le_of_succ_le space)
  | wrote held =>
      rw [held] at bounded
      rcases bounded with gone | space
      · cases gone
      · exact .inr space
  | _ => exact bounded

theorem Sound.of_moves (sound : service.Sound session)
    (moves : service.Moves session action next) : service.Sound next where
  balanced := sound.balanced.of_moves moves
  own := sound.own.of_moves moves
  pushed := pushed_of_moves sound.pushed moves
  bounded := bounded_of_moves sound.bounded moves

theorem mem_outbound_of_repliesTo {number : Nat} {turnedAway : Bool} {reply : Reply}
    (listed : (turnedAway, reply) ∈ session.repliesTo number) :
    .reply number turnedAway reply ∈ session.outbound := by
  obtain ⟨item, written, read⟩ := List.mem_filterMap.mp listed
  have same : item = .reply number turnedAway reply := by
    cases item with
    | push event => cases read
    | reply other away own =>
        simp only [Item.replyTo] at read
        split at read
        next found =>
          cases read
          rw [found]
        next => cases read
  rw [← same]
  simp [CallSession.outbound, Item.all, written]

theorem length_repliesTo (number : Nat) :
    (session.repliesTo number).length = tally (Item.repliesTo number) session.written := by
  apply length_filterMap_eq_tally
  intro item
  cases item with
  | push event => rfl
  | reply other turnedAway own =>
      simp only [Item.repliesTo, Item.replyTo]
      split <;> rfl

theorem dueOf_le (service : CallService Frame Call Work Context Reply) (frame : Frame) :
    service.dueOf frame ≤ 1 := by
  unfold dueOf
  cases service.ask frame <;> simp

theorem due_le (service : CallService Frame Call Work Context Reply) (frames : List Frame)
    (number : Nat) : service.due frames number ≤ 1 := by
  unfold due
  cases frames[number]? with
  | none => exact Nat.zero_le 1
  | some frame => exact service.dueOf_le frame

theorem Sound.length_repliesTo_le (sound : service.Sound session) (number : Nat) :
    (session.repliesTo number).length ≤ service.due session.frames number := by
  have replies := sound.balanced.replies number
  simp only [CallSession.outbound, Item.all, tally_append] at replies
  rw [length_repliesTo]
  omega

/-- The only reply that the peer gets to a frame. -/
def RepliedOnce (service : CallService Frame Call Work Context Reply)
    (session : CallSession Frame Call Work Context Reply Event) (number : Nat) : Prop :=
  ∃ turnedAway reply, session.repliesTo number = [(turnedAway, reply)] ∧
    service.Answers session number turnedAway reply

theorem Sound.repliedOnce (sound : service.Sound session) {number : Nat}
    (once : (session.repliesTo number).length = 1) : service.RepliedOnce session number := by
  obtain ⟨⟨turnedAway, reply⟩, only⟩ := List.length_eq_one_iff.mp once
  refine ⟨turnedAway, reply, only, ?_⟩
  apply sound.own.outbound
  apply mem_outbound_of_repliesTo
  rw [only]
  exact List.mem_singleton_self _

theorem Sound.answers (sound : service.Sound session) (number : Nat) :
    session.repliesTo number = [] ∨ service.RepliedOnce session number := by
  have limit := Nat.le_trans (sound.length_repliesTo_le number)
    (service.due_le session.frames number)
  rcases Nat.le_one_iff_eq_zero_or_eq_one.mp limit with none | once
  · exact .inl (List.length_eq_zero_iff.mp none)
  · exact .inr (sound.repliedOnce once)

/-- Nothing is owed any more, and if the writer is alive, everything is written. -/
structure Settled (service : CallService Frame Call Work Context Reply)
    (session : CallSession Frame Call Work Context Reply Event) : Prop where
  jobs : ∀ job ∈ session.jobs, job.stage = .finished
  permits : session.permits = service.limit
  counted : session.turnedAway = tally Item.refusals session.outbound
  replied : session.writer = .gone ∨ ∀ number, service.due session.frames number = 1 →
    service.RepliedOnce session number
  pushed : session.pushing = false ∨ session.receiver.next = session.channel.sent.length

theorem settled_of_work (sound : service.Sound session) (idle : service.work session = 0) :
    service.Settled session := by
  unfold work at idle
  have jobWork : tally service.jobWork session.jobs = 0 := by omega
  have jobs : ∀ job ∈ session.jobs, job.stage = .finished := by
    intro job listed
    have none := tally_eq_zero_iff.mp jobWork job listed
    unfold CallService.jobWork at none
    split at none <;> first | assumption | omega
  have listening : session.listening = .waiting ∨ session.listening = .ended := by
    cases held : session.listening with
    | waiting => exact .inl rfl
    | ended => exact .inr rfl
    | refusing | counting => simp [held, Listening.work] at idle
  have free : tally Job.held session.jobs = 0 := by
    apply tally_eq_zero_iff.mpr
    intro job listed
    rw [Job.held, jobs job listed]
  refine ⟨jobs, ?_, ?_, ?_, ?_⟩
  · have permits := sound.balanced.permits
    rwa [free] at permits
  · have refusals := sound.balanced.refusals
    have none : session.listening.uncounted = 0 := by
      rcases listening with held | held <;> rw [held] <;> rfl
    rw [none] at refusals
    exact refusals.symm
  · cases writer : session.writer with
    | gone => exact .inl rfl
    | writing item => simp [writer, Writer.work] at idle
    | idle =>
        right
        intro number due
        have queue : session.queue = [] := by
          have nothing : session.writer.work session.queue = 0 := by omega
          simpa [writer, Writer.work] using nothing
        have replies := sound.balanced.replies number
        have none : session.listening.owedTo number = 0 := by
          rcases listening with held | held <;> rw [held] <;> rfl
        have finished : tally (Job.owedTo number) session.jobs = 0 := by
          apply tally_eq_zero_iff.mpr
          intro job listed
          rw [Job.owedTo, Job.owed, jobs job listed, ite_self]
        apply sound.repliedOnce
        rw [length_repliesTo]
        simp only [CallSession.outbound, Item.all, writer, queue, Writer.held, List.append_nil,
          none, finished, due] at replies
        exact replies
  · have inside := sound.pushed.sound.inside
    cases pushing : session.pushing with
    | false => exact .inl rfl
    | true =>
        have level : session.pushWork = 0 := by omega
        rw [pushWork, if_pos pushing] at level
        exact .inr (by omega)

structure Accounted (service : CallService Frame Call Work Context Reply)
    (session : CallSession Frame Call Work Context Reply Event) : Prop where
  /-- The jobs that go on are at most as many as the limit allows. -/
  inFlight : session.jobs.countP (fun job => job.held = 1) ≤ service.limit
  queue : session.writer.isGone ∨ session.queue.length ≤ service.capacity
  /-- A reply that is due is written, on its way, lost or owed, in one place. -/
  replies : ∀ number, tally (Item.repliesTo number) session.outbound +
      tally (Job.owedTo number) session.jobs + session.listening.owedTo number =
    service.due session.frames number
  /-- The peer gets no frame answered twice, and no answer that is not its own. -/
  answers : ∀ number, session.repliesTo number = [] ∨ service.RepliedOnce session number
  /-- The jobs come to one reply for their frames, in the contexts that there were. -/
  completed : (session.completed.map Prod.fst).Nodup ∧ ∀ entry ∈ session.completed, ∃ call,
    service.CallAt session.frames entry.1 call ∧
      service.Yields session.contexts entry.1 call entry.2
  counted : tally Item.refusals session.outbound =
    session.turnedAway + session.listening.uncounted
  pushed : session.Pushed
  /-- The session can come to rest. -/
  settles : ∃ rest final, (∀ action ∈ rest, action.Internal) ∧
    service.machine.run session rest = some final ∧ service.Settled final
  /-- It does so by itself, in whatever order its tasks go on. -/
  bounded : ∀ rest final, (∀ action ∈ rest, action.Internal) →
    service.machine.run session rest = some final →
      rest.length ≤ service.work session ∧
        ((∀ action, action.Internal → service.step final action = none) →
          service.Settled final)

theorem Sound.completed_nodup (sound : service.Sound session) :
    (session.completed.map Prod.fst).Nodup := by
  apply List.nodup_iff_count_le_one.mpr
  intro number
  have bound := Nat.le_trans (sound.balanced.completed_le number)
    (service.due_le session.frames number)
  have same : (session.completed.map Prod.fst).count number =
      tally (completedFor number) session.completed := by
    induction session.completed with
    | nil => rfl
    | cons entry rest inductionHypothesis =>
        rw [List.map_cons, List.count_cons, tally_cons, inductionHypothesis, completedFor,
          Nat.add_comm]
        simp only [beq_iff_eq]
  rw [same]
  exact bound

theorem countP_held (jobs : List (Job Call Work Reply)) :
    jobs.countP (fun job => job.held = 1) = tally Job.held jobs := by
  induction jobs with
  | nil => rfl
  | cons job rest inductionHypothesis =>
      rw [List.countP_cons, tally_cons, inductionHypothesis, Nat.add_comm]
      congr 1
      unfold Job.held
      cases job.stage <;> rfl

theorem sound_step (session : CallSession Frame Call Work Context Reply Event)
    (action : Action Frame Context Event)
    (next : CallSession Frame Call Work Context Reply Event) (sound : service.Sound session)
    (stepped : service.machine.step session action = some next) : service.Sound next :=
  sound.of_moves (moves_of_step stepped)

theorem work_step (session : CallSession Frame Call Work Context Reply Event)
    (action : Action Frame Context Event)
    (next : CallSession Frame Call Work Context Reply Event) (internal : action.Internal)
    (stepped : service.machine.step session action = some next) :
    service.work next < service.work session :=
  work_of_moves internal (moves_of_step stepped)

theorem Sound.settles (sound : service.Sound session) :
    ∃ rest final, (∀ action ∈ rest, action.Internal) ∧
      service.machine.run session rest = some final ∧ service.Settled final := by
  have progress : ∀ state : CallSession Frame Call Work Context Reply Event,
      service.Sound state → service.work state ≠ 0 →
        ∃ action next, action.Internal ∧ service.machine.step state action = some next := by
    intro state held remaining
    obtain ⟨action, internal, enabled⟩ := exists_internal_step held.pushed remaining
    obtain ⟨next, stepped⟩ := Option.isSome_iff_exists.mp enabled
    exact ⟨action, next, internal, stepped⟩
  obtain ⟨rest, final, internal, reached, idle⟩ :=
    Machine.exists_run_of_progress sound_step progress work_step sound
  have finalSound := service.machine.run_invariant sound_step sound reached
  exact ⟨rest, final, internal, reached, settled_of_work finalSound idle⟩

theorem Sound.rests (sound : service.Sound session) {rest : List (Action Frame Context Event)}
    {final : CallSession Frame Call Work Context Reply Event}
    (internal : ∀ action ∈ rest, action.Internal)
    (reached : service.machine.run session rest = some final) :
    rest.length ≤ service.work session ∧
      ((∀ action, action.Internal → service.step final action = none) →
        service.Settled final) := by
  constructor
  · have used := Machine.length_add_le_of_decreasing work_step internal reached
    omega
  · intro stuck
    have finalSound := service.machine.run_invariant sound_step sound reached
    apply settled_of_work finalSound
    by_contra remaining
    obtain ⟨action, allowed, enabled⟩ := exists_internal_step finalSound.pushed remaining
    rw [stuck action allowed] at enabled
    cases enabled

theorem accounted_of_sound (session : CallSession Frame Call Work Context Reply Event)
    (sound : service.Sound session) : service.Accounted session where
  inFlight := by
    have permits := sound.balanced.permits
    rw [countP_held]
    omega
  queue := sound.bounded
  replies := sound.balanced.replies
  answers := sound.answers
  completed := ⟨sound.completed_nodup, sound.own.completed⟩
  counted := sound.balanced.refusals
  pushed := sound.pushed
  settles := sound.settles
  bounded _ _ internal reached := sound.rests internal reached

end CallService

end Ferroq.Library
