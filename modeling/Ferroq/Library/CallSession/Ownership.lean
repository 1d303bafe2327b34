import Ferroq.Library.CallSession.Books

/-!
# What a session sends

A reply is the loop's own answer to its frame, or what the job of its frame has come
to in the contexts that there were.  A push is an event that the session has got.
-/

namespace Ferroq.Library

variable {Frame Call Work Context Reply Event : Type}

open CallSession

namespace CallService

variable (service : CallService Frame Call Work Context Reply)

inductive Reaches (contexts : List Context) (number : Nat) (call : Call) : Work → Prop where
  | first : Reaches contexts number call (service.workOf call)
  | further {work further : Work} {context : Context} (listed : context ∈ contexts)
      (advanced : service.advance context number work = .further further)
      (reached : Reaches contexts number call work) : Reaches contexts number call further

def Yields (contexts : List Context) (number : Nat) (call : Call) (reply : Reply) : Prop :=
  ∃ work, ∃ context ∈ contexts, service.Reaches contexts number call work ∧
    service.advance context number work = .done reply

def CallAt (frames : List Frame) (number : Nat) (call : Call) : Prop :=
  ∃ frame, frames[number]? = some frame ∧ service.ask frame = .call call

def Refusal (frames : List Frame) (number : Nat) (turnedAway : Bool) (reply : Reply) : Prop :=
  ∃ frame, frames[number]? = some frame ∧
    match service.ask frame with
    | .nothing => False
    | .refused own => turnedAway = false ∧ reply = own
    | .call call => turnedAway = true ∧ reply = service.turnAway call

/-- A reply belongs to its frame. -/
def Answers (session : CallSession Frame Call Work Context Reply Event) (number : Nat)
    (turnedAway : Bool) (reply : Reply) : Prop :=
  service.Refusal session.frames number turnedAway reply ∨
    turnedAway = false ∧ (number, reply) ∈ session.completed

def OwnStage (session : CallSession Frame Call Work Context Reply Event)
    (job : Job Call Work Reply) : Prop :=
  match job.stage with
  | .working work => service.Reaches session.contexts job.frame job.call work
  | .replying reply => (job.frame, reply) ∈ session.completed
  | .sent | .finished => True

structure Own (session : CallSession Frame Call Work Context Reply Event) : Prop where
  calls : ∀ job ∈ session.jobs, service.CallAt session.frames job.frame job.call
  stages : ∀ job ∈ session.jobs, service.OwnStage session job
  completed : ∀ entry ∈ session.completed, ∃ call,
    service.CallAt session.frames entry.1 call ∧
      service.Yields session.contexts entry.1 call entry.2
  listening : ∀ {number turnedAway reply},
    session.listening = .refusing number turnedAway reply →
      service.Refusal session.frames number turnedAway reply
  outbound : ∀ {number turnedAway reply}, .reply number turnedAway reply ∈ session.outbound →
    service.Answers session number turnedAway reply

theorem start_own (channel : Broadcast Event) (context : Context) :
    service.Own (service.start channel context) where
  calls := by simp [start]
  stages := by simp [start]
  completed := by simp [start]
  listening refusing := by simp [start] at refusing
  outbound listed := by simp [start, CallSession.outbound, Item.all, Writer.held] at listed

variable {service}

theorem Reaches.mono {contexts more : List Context} (grown : ∀ context ∈ contexts, context ∈ more)
    {number : Nat} {call : Call} {work : Work}
    (reached : service.Reaches contexts number call work) :
    service.Reaches more number call work := by
  induction reached with
  | first => exact .first
  | further listed advanced _ inductionHypothesis =>
      exact .further (grown _ listed) advanced inductionHypothesis

theorem Yields.mono {contexts more : List Context} (grown : ∀ context ∈ contexts, context ∈ more)
    {number : Nat} {call : Call} {reply : Reply}
    (yields : service.Yields contexts number call reply) :
    service.Yields more number call reply := by
  obtain ⟨work, context, listed, reached, advanced⟩ := yields
  exact ⟨work, context, grown context listed, reached.mono grown, advanced⟩

variable {session next : CallSession Frame Call Work Context Reply Event}
  {action : Action Frame Context Event}

/-- Frames, contexts and what jobs have come to stay what they were. -/
structure Later (session next : CallSession Frame Call Work Context Reply Event) : Prop where
  frames : ∀ {number : Nat} {frame : Frame}, session.frames[number]? = some frame →
    next.frames[number]? = some frame
  contexts : ∀ context ∈ session.contexts, context ∈ next.contexts
  completed : ∀ entry ∈ session.completed, entry ∈ next.completed

theorem later_of_moves (moves : service.Moves session action next) : Later session next := by
  have same {frames : List Frame} (frame : Frame) {number : Nat} {old : Frame}
      (found : frames[number]? = some old) : (frames ++ [frame])[number]? = some old := by
    rw [List.getElem?_append_left (List.getElem?_eq_some_iff.mp found).1, found]
  cases moves with
  | ignored | refused | turnedAway | spawned =>
      exact ⟨fun found => same _ found, fun _ listed => listed, fun _ listed => listed⟩
  | changed context =>
      exact ⟨id, fun _ listed => List.mem_cons_of_mem _ listed, fun _ listed => listed⟩
  | done =>
      exact ⟨id, fun _ listed => listed, fun _ listed => List.mem_append_left _ listed⟩
  | _ => exact ⟨id, fun _ listed => listed, fun _ listed => listed⟩

section Later

variable (later : Later session next)
include later

theorem CallAt.persists {number : Nat} {call : Call}
    (called : service.CallAt session.frames number call) :
    service.CallAt next.frames number call := by
  obtain ⟨frame, found, asked⟩ := called
  exact ⟨frame, later.frames found, asked⟩

theorem Refusal.persists {number : Nat} {turnedAway : Bool} {reply : Reply}
    (refusal : service.Refusal session.frames number turnedAway reply) :
    service.Refusal next.frames number turnedAway reply := by
  obtain ⟨frame, found, fits⟩ := refusal
  exact ⟨frame, later.frames found, fits⟩

theorem Answers.persists {number : Nat} {turnedAway : Bool} {reply : Reply}
    (answers : service.Answers session number turnedAway reply) :
    service.Answers next number turnedAway reply := by
  rcases answers with refusal | ⟨served, completed⟩
  · exact .inl (refusal.persists later)
  · exact .inr ⟨served, later.completed _ completed⟩

theorem OwnStage.persists {job : Job Call Work Reply} (own : service.OwnStage session job) :
    service.OwnStage next job := by
  unfold OwnStage at own ⊢
  split
  next work stage =>
    rw [stage] at own
    exact Reaches.mono later.contexts own
  next reply stage =>
    rw [stage] at own
    exact later.completed _ own
  next => exact True.intro
  next => exact True.intro

end Later

theorem getElem?_concat_length (frames : List Frame) (frame : Frame) :
    (frames ++ [frame])[frames.length]? = some frame := by
  simp

theorem calls_own_of_moves (own : service.Own session)
    (moves : service.Moves session action next) :
    ∀ job ∈ next.jobs, service.CallAt next.frames job.frame job.call := by
  have earlier : ∀ job ∈ session.jobs, service.CallAt next.frames job.frame job.call :=
    fun job listed => (own.calls job listed).persists (later_of_moves moves)
  cases moves with
  | spawned idle asked free =>
      apply forall_mem_concat earlier
      exact ⟨_, getElem?_concat_length _ _, asked⟩
  | further found | done found | enqueued found | released found =>
      have called := earlier _ (List.mem_of_getElem? found)
      apply forall_mem_set earlier
      exact called
  | _ => exact earlier

theorem stages_of_moves (own : service.Own session)
    (moves : service.Moves session action next) :
    ∀ job ∈ next.jobs, service.OwnStage next job := by
  have earlier : ∀ job ∈ session.jobs, service.OwnStage next job :=
    fun job listed => (own.stages job listed).persists (later_of_moves moves)
  cases moves with
  | spawned idle asked free =>
      apply forall_mem_concat earlier
      exact Reaches.first
  | further found advanced =>
      have reached : service.Reaches session.contexts _ _ _ :=
        own.stages _ (List.mem_of_getElem? found)
      apply forall_mem_set earlier
      exact Reaches.further List.mem_cons_self advanced reached
  | done found advanced =>
      apply forall_mem_set earlier
      exact List.mem_append_right _ List.mem_cons_self
  | enqueued found | released found =>
      apply forall_mem_set earlier
      exact True.intro
  | _ => exact earlier

theorem completed_own_of_moves (own : service.Own session)
    (moves : service.Moves session action next) :
    ∀ entry ∈ next.completed, ∃ call, service.CallAt next.frames entry.1 call ∧
      service.Yields next.contexts entry.1 call entry.2 := by
  have later := later_of_moves moves
  have earlier : ∀ entry ∈ session.completed, ∃ call,
      service.CallAt next.frames entry.1 call ∧
        service.Yields next.contexts entry.1 call entry.2 := by
    intro entry listed
    obtain ⟨call, called, yields⟩ := own.completed entry listed
    exact ⟨call, called.persists later, yields.mono later.contexts⟩
  cases moves with
  | done found advanced =>
      have job := List.mem_of_getElem? found
      have reached : service.Reaches session.contexts _ _ _ := own.stages _ job
      apply forall_mem_concat earlier
      exact ⟨_, own.calls _ job, _, session.context, List.mem_cons_self, reached, advanced⟩
  | _ => exact earlier

theorem listening_of_moves (own : service.Own session)
    (moves : service.Moves session action next) {number : Nat} {turnedAway : Bool} {reply : Reply}
    (refusing : next.listening = .refusing number turnedAway reply) :
    service.Refusal next.frames number turnedAway reply := by
  have later := later_of_moves moves
  cases moves with
  | refused idle asked =>
      cases refusing
      exact ⟨_, getElem?_concat_length _ _, by simp [asked]⟩
  | turnedAway idle asked full =>
      cases refusing
      exact ⟨_, getElem?_concat_length _ _, by simp [asked]⟩
  | @replied frame turnedAway reply listening room =>
      dsimp only at refusing
      split at refusing <;> cases refusing
  | counted | hungUp => cases refusing
  | _ => exact (own.listening refusing).persists later

theorem outbound_of_moves (own : service.Own session)
    (moves : service.Moves session action next) {number : Nat} {turnedAway : Bool} {reply : Reply}
    (listed : .reply number turnedAway reply ∈ next.outbound) :
    service.Answers next number turnedAway reply := by
  have later := later_of_moves moves
  unfold CallSession.outbound at listed
  cases moves with
  | failed alive =>
      rw [Item.all_fail] at listed
      exact (own.outbound listed).persists later
  | pushed pushing given room =>
      simp only [Item.all_enqueue, List.mem_append, List.mem_singleton, reduceCtorEq,
        or_false] at listed
      exact (own.outbound listed).persists later
  | replied listening room =>
      simp only [Item.all_enqueue, List.mem_append, List.mem_singleton] at listed
      rcases listed with before | new
      · exact (own.outbound before).persists later
      · cases new
        exact .inl ((own.listening listening).persists later)
  | enqueued found room =>
      simp only [Item.all_enqueue, List.mem_append, List.mem_singleton] at listed
      rcases listed with before | new
      · exact (own.outbound before).persists later
      · cases new
        exact .inr ⟨rfl, own.stages _ (List.mem_of_getElem? found)⟩
  | taken queued free =>
      rw [Item.all_take, ← queued, ← free] at listed
      exact (own.outbound listed).persists later
  | wrote held =>
      rw [Item.all_write, ← held] at listed
      exact (own.outbound listed).persists later
  | _ => exact (own.outbound listed).persists later

theorem Own.of_moves (own : service.Own session) (moves : service.Moves session action next) :
    service.Own next where
  calls := calls_own_of_moves own moves
  stages := stages_of_moves own moves
  completed := completed_own_of_moves own moves
  listening := listening_of_moves own moves
  outbound := outbound_of_moves own moves

end CallService

namespace CallSession

/-- What a session has queued of the events, in its order, are events that it got, and
the others of these were dropped and counted. -/
structure Pushed (session : CallSession Frame Call Work Context Reply Event) : Prop where
  sound : session.channel.Sound session.receiver
  events : (session.outbound.filterMap Item.pushed).Sublist session.receiver.taken.reduceOption
  counted : (session.outbound.filterMap Item.pushed).length + session.dropped =
    session.receiver.taken.reduceOption.length

variable {session next : CallSession Frame Call Work Context Reply Event}

theorem Pushed.congr (pushed : session.Pushed) (sound : next.channel.Sound next.receiver)
    (taken : next.receiver.taken.reduceOption = session.receiver.taken.reduceOption)
    (outbound : next.outbound.filterMap Item.pushed = session.outbound.filterMap Item.pushed)
    (dropped : next.dropped = session.dropped) : next.Pushed where
  sound := sound
  events := by
    rw [outbound, taken]
    exact pushed.events
  counted := by
    rw [outbound, taken, dropped]
    exact pushed.counted

end CallSession

theorem reduceOption_take_value (subscription : Subscription Event) (event : Event) :
    (subscription.take (.value event)).taken.reduceOption =
      subscription.taken.reduceOption ++ [event] := by
  change (subscription.taken ++ [some event]).reduceOption = _
  rw [List.reduceOption_append]
  rfl

theorem reduceOption_take_lagged (subscription : Subscription Event) (missed : Nat) :
    (subscription.take (.lagged missed)).taken.reduceOption = subscription.taken.reduceOption := by
  change (subscription.taken ++ List.replicate missed none).reduceOption = _
  rw [List.reduceOption_append, List.reduceOption_replicate_none, List.append_nil]

namespace CallService

variable {service : CallService Frame Call Work Context Reply}
  {session next : CallSession Frame Call Work Context Reply Event}
  {action : Action Frame Context Event}

theorem start_pushed (channel : Broadcast Event) (context : Context) :
    (service.start channel context).Pushed where
  sound := Broadcast.sound_subscribe channel
  events := List.nil_sublist _
  counted := rfl

theorem pushed_of_moves (pushed : session.Pushed) (moves : service.Moves session action next) :
    next.Pushed := by
  cases moves with
  | published event => exact ⟨pushed.sound.send event, pushed.events, pushed.counted⟩
  | failed alive =>
      refine pushed.congr pushed.sound rfl ?_ rfl
      simp only [CallSession.outbound, Item.all_fail]
  | lagged pushing given =>
      exact pushed.congr (pushed.sound.recv given) (reduceOption_take_lagged _ _) rfl rfl
  | @pushed event pushing given room =>
      refine ⟨pushed.sound.recv given, ?_, ?_⟩
      · simp only [CallSession.outbound, Item.all_enqueue, List.filterMap_append,
          reduceOption_take_value]
        exact pushed.events.append (List.Sublist.refl _)
      · have counted := pushed.counted
        simp only [CallSession.outbound, Item.all_enqueue, List.filterMap_append,
          reduceOption_take_value, List.length_append] at counted ⊢
        change _ + 1 + _ = _ + 1
        omega
  | @dropped event pushing given full =>
      refine ⟨pushed.sound.recv given, ?_, ?_⟩
      · simp only [reduceOption_take_value]
        exact pushed.events.trans (List.sublist_append_left _ _)
      · simp only [reduceOption_take_value, List.length_append, List.length_singleton,
          ← pushed.counted]
        exact (Nat.add_assoc _ _ 1).symm
  | replied | enqueued =>
      refine pushed.congr pushed.sound rfl ?_ rfl
      simp only [CallSession.outbound, Item.all_enqueue, List.filterMap_append]
      exact List.append_nil _
  | taken queued free =>
      refine pushed.congr pushed.sound rfl ?_ rfl
      simp only [CallSession.outbound, queued, free, Item.all_take]
  | wrote held =>
      refine pushed.congr pushed.sound rfl ?_ rfl
      simp only [CallSession.outbound, held, Item.all_write]
  | _ => exact pushed.congr pushed.sound rfl rfl rfl

end CallService

end Ferroq.Library
