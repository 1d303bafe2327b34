import Ferroq.Library.Broadcast
import Ferroq.Library.Machine

/-!
# Sessions that serve calls

One connection over which a peer makes calls and is told what is broadcast.  A loop
reads frames and starts a job for each call that finds a permit, one task passes on
what is broadcast, and one writes what the others have queued.  Their steps come in
any order, and the writer may fail at any time.

What a frame asks for, and how the work on a call goes on, are parameters.
-/

namespace Ferroq.Library

variable {Frame Call Work Context Reply Event : Type}

inductive Asked (Call Reply : Type) where
  | nothing
  | refused (reply : Reply)
  | call (call : Call)

inductive Advance (Work Reply : Type) where
  | further (work : Work)
  | done (reply : Reply)

/-- What stays the same for a session.  The work on the call in the frame of a number
takes its steps in contexts that change. -/
structure CallService (Frame Call Work Context Reply : Type) where
  ask : Frame → Asked Call Reply
  workOf : Call → Work
  advance : Context → Nat → Work → Advance Work Reply
  turnAway : Call → Reply
  limit : Nat
  capacity : Nat
  effort : Work → Nat
  capacityPositive : 0 < capacity
  advances : ∀ {context frame work further},
    advance context frame work = .further further → effort further < effort work

namespace CallSession

inductive Stage (Work Reply : Type) where
  | working (work : Work)
  | replying (reply : Reply)
  | sent
  | finished

structure Job (Call Work Reply : Type) where
  frame : Nat
  call : Call
  stage : Stage Work Reply

/-- An item of the queue.  A reply notes its frame and whether the call was turned
away. -/
inductive Item (Event Reply : Type) where
  | push (event : Event)
  | reply (frame : Nat) (turnedAway : Bool) (reply : Reply)

/-- Where the loop stands: it waits for a frame, or it replies to one itself, or it is
about to count a call that it has turned away, or it has ended. -/
inductive Listening (Reply : Type) where
  | waiting
  | refusing (frame : Nat) (turnedAway : Bool) (reply : Reply)
  | counting
  | ended

inductive Writer (Item : Type) where
  | idle
  | writing (item : Item)
  | gone

namespace Writer

variable {Item : Type}

def held : Writer Item → List Item
  | .writing item => [item]
  | .idle | .gone => []

def isGone : Writer Item → Bool
  | .gone => true
  | .idle | .writing _ => false

end Writer

inductive Action (Frame Context Event : Type) where
  | receive (frame : Frame)
  | publish (event : Event)
  | change (context : Context)
  | hangUp
  | stopPushing
  | fail
  | push
  | refuse
  | count
  | advance (index : Nat)
  | enqueue (index : Nat)
  | release (index : Nat)
  | take
  | write

/-- Whether a step is taken by the session itself. -/
def Action.Internal : Action Frame Context Event → Prop
  | .receive _ | .publish _ | .change _ | .hangUp | .stopPushing | .fail => False
  | _ => True

end CallSession

open CallSession

/-- A session.  What is in the queue when the writer has gone, or comes there later, is
lost. -/
structure CallSession (Frame Call Work Context Reply Event : Type) where
  channel : Broadcast Event
  receiver : Subscription Event
  pushing : Bool
  context : Context
  past : List Context
  frames : List Frame
  listening : Listening Reply
  jobs : List (Job Call Work Reply)
  permits : Nat
  queue : List (Item Event Reply)
  writer : Writer (Item Event Reply)
  written : List (Item Event Reply)
  /-- The replies that jobs have come to, with their frames. -/
  completed : List (Nat × Reply)
  turnedAway : Nat
  dropped : Nat

namespace CallService

variable (service : CallService Frame Call Work Context Reply)

def start (channel : Broadcast Event) (context : Context) :
    CallSession Frame Call Work Context Reply Event where
  channel := channel
  receiver := channel.subscribe
  pushing := true
  context := context
  past := []
  frames := []
  listening := .waiting
  jobs := []
  permits := service.limit
  queue := []
  writer := .idle
  written := []
  completed := []
  turnedAway := 0
  dropped := 0

/-- Whether the queue takes an item at once; when the writer has gone, it does not make
anybody wait. -/
def HasRoom (session : CallSession Frame Call Work Context Reply Event) : Prop :=
  session.writer.isGone ∨ session.queue.length < service.capacity

instance (session : CallSession Frame Call Work Context Reply Event) :
    Decidable (service.HasRoom session) :=
  inferInstanceAs (Decidable (_ ∨ _))

def receive (session : CallSession Frame Call Work Context Reply Event) (frame : Frame) :
    CallSession Frame Call Work Context Reply Event :=
  let number := session.frames.length
  let session := { session with frames := session.frames ++ [frame] }
  match service.ask frame with
  | .nothing => session
  | .refused reply => { session with listening := .refusing number false reply }
  | .call call =>
      if session.permits = 0 then
        { session with listening := .refusing number true (service.turnAway call) }
      else
        { session with
          permits := session.permits - 1
          jobs := session.jobs ++ [⟨number, call, .working (service.workOf call)⟩] }

/-- An event that finds no room is dropped, and one that finds no writer ends the
pushing. -/
def pushTo (session : CallSession Frame Call Work Context Reply Event) :
    Received Event → CallSession Frame Call Work Context Reply Event
  | .lagged missed => { session with receiver := session.receiver.take (.lagged missed) }
  | .value event =>
      let session := { session with receiver := session.receiver.take (.value event) }
      if service.HasRoom session then
        { session with
          pushing := !session.writer.isGone
          queue := session.queue ++ [.push event] }
      else { session with dropped := session.dropped + 1 }

def step (session : CallSession Frame Call Work Context Reply Event) :
    Action Frame Context Event → Option (CallSession Frame Call Work Context Reply Event)
  | .receive frame =>
      match session.listening with
      | .waiting => some (service.receive session frame)
      | _ => none
  | .publish event => some { session with channel := session.channel.send event }
  | .change context =>
      some { session with context := context, past := session.context :: session.past }
  | .hangUp =>
      match session.listening with
      | .waiting => some { session with listening := .ended }
      | _ => none
  | .stopPushing => some { session with pushing := false }
  | .fail =>
      if session.writer.isGone then none
      else some { session with writer := .gone, queue := session.writer.held ++ session.queue }
  | .push =>
      if session.pushing then
        (session.channel.recv session.receiver).map (service.pushTo session)
      else none
  | .refuse =>
      match session.listening with
      | .refusing frame turnedAway reply =>
          if service.HasRoom session then
            some
              { session with
                listening := if turnedAway then .counting else .waiting
                queue := session.queue ++ [.reply frame turnedAway reply] }
          else none
      | _ => none
  | .count =>
      match session.listening with
      | .counting =>
          some { session with listening := .waiting, turnedAway := session.turnedAway + 1 }
      | _ => none
  | .advance index =>
      match session.jobs[index]? with
      | some ⟨frame, call, .working work⟩ =>
          match service.advance session.context frame work with
          | .further further =>
              some
                { session with jobs := session.jobs.set index ⟨frame, call, .working further⟩ }
          | .done reply =>
              some
                { session with
                  jobs := session.jobs.set index ⟨frame, call, .replying reply⟩
                  completed := session.completed ++ [(frame, reply)] }
      | _ => none
  | .enqueue index =>
      match session.jobs[index]? with
      | some ⟨frame, call, .replying reply⟩ =>
          if service.HasRoom session then
            some
              { session with
                jobs := session.jobs.set index ⟨frame, call, .sent⟩
                queue := session.queue ++ [.reply frame false reply] }
          else none
      | _ => none
  | .release index =>
      match session.jobs[index]? with
      | some ⟨frame, call, .sent⟩ =>
          some
            { session with
              jobs := session.jobs.set index ⟨frame, call, .finished⟩
              permits := session.permits + 1 }
      | _ => none
  | .take =>
      match session.queue, session.writer with
      | next :: rest, .idle => some { session with queue := rest, writer := .writing next }
      | _, _ => none
  | .write =>
      match session.writer with
      | .writing item =>
          some { session with writer := .idle, written := session.written ++ [item] }
      | _ => none

def machine : Machine (CallSession Frame Call Work Context Reply Event)
    (Action Frame Context Event) := ⟨service.step⟩

inductive Moves (session : CallSession Frame Call Work Context Reply Event) :
    Action Frame Context Event → CallSession Frame Call Work Context Reply Event → Prop where
  | ignored {frame : Frame} (idle : session.listening = .waiting)
      (asked : service.ask frame = .nothing) :
      Moves session (.receive frame) { session with frames := session.frames ++ [frame] }
  | refused {frame : Frame} {reply : Reply} (idle : session.listening = .waiting)
      (asked : service.ask frame = .refused reply) :
      Moves session (.receive frame)
        { session with
          frames := session.frames ++ [frame]
          listening := .refusing session.frames.length false reply }
  | turnedAway {frame : Frame} {call : Call} (idle : session.listening = .waiting)
      (asked : service.ask frame = .call call) (full : session.permits = 0) :
      Moves session (.receive frame)
        { session with
          frames := session.frames ++ [frame]
          listening := .refusing session.frames.length true (service.turnAway call) }
  | spawned {frame : Frame} {call : Call} (idle : session.listening = .waiting)
      (asked : service.ask frame = .call call) (free : session.permits ≠ 0) :
      Moves session (.receive frame)
        { session with
          frames := session.frames ++ [frame]
          permits := session.permits - 1
          jobs := session.jobs ++
            [⟨session.frames.length, call, .working (service.workOf call)⟩] }
  | published (event : Event) :
      Moves session (.publish event) { session with channel := session.channel.send event }
  | changed (context : Context) :
      Moves session (.change context)
        { session with context := context, past := session.context :: session.past }
  | hungUp (idle : session.listening = .waiting) :
      Moves session .hangUp { session with listening := .ended }
  | stoppedPushing : Moves session .stopPushing { session with pushing := false }
  | failed (alive : ¬ session.writer.isGone) :
      Moves session .fail
        { session with writer := .gone, queue := session.writer.held ++ session.queue }
  | lagged {missed : Nat} (pushing : session.pushing = true)
      (given : session.channel.recv session.receiver = some (.lagged missed)) :
      Moves session .push
        { session with receiver := session.receiver.take (.lagged missed) }
  | pushed {event : Event} (pushing : session.pushing = true)
      (given : session.channel.recv session.receiver = some (.value event))
      (room : service.HasRoom session) :
      Moves session .push
        { session with
          receiver := session.receiver.take (.value event)
          pushing := !session.writer.isGone
          queue := session.queue ++ [.push event] }
  | dropped {event : Event} (pushing : session.pushing = true)
      (given : session.channel.recv session.receiver = some (.value event))
      (full : ¬ service.HasRoom session) :
      Moves session .push
        { session with
          receiver := session.receiver.take (.value event)
          dropped := session.dropped + 1 }
  | replied {frame : Nat} {turnedAway : Bool} {reply : Reply}
      (listening : session.listening = .refusing frame turnedAway reply)
      (room : service.HasRoom session) :
      Moves session .refuse
        { session with
          listening := if turnedAway then .counting else .waiting
          queue := session.queue ++ [.reply frame turnedAway reply] }
  | counted (listening : session.listening = .counting) :
      Moves session .count
        { session with listening := .waiting, turnedAway := session.turnedAway + 1 }
  | further {index frame : Nat} {call : Call} {work further : Work}
      (found : session.jobs[index]? = some ⟨frame, call, .working work⟩)
      (advanced : service.advance session.context frame work = .further further) :
      Moves session (.advance index)
        { session with jobs := session.jobs.set index ⟨frame, call, .working further⟩ }
  | done {index frame : Nat} {call : Call} {work : Work} {reply : Reply}
      (found : session.jobs[index]? = some ⟨frame, call, .working work⟩)
      (advanced : service.advance session.context frame work = .done reply) :
      Moves session (.advance index)
        { session with
          jobs := session.jobs.set index ⟨frame, call, .replying reply⟩
          completed := session.completed ++ [(frame, reply)] }
  | enqueued {index frame : Nat} {call : Call} {reply : Reply}
      (found : session.jobs[index]? = some ⟨frame, call, .replying reply⟩)
      (room : service.HasRoom session) :
      Moves session (.enqueue index)
        { session with
          jobs := session.jobs.set index ⟨frame, call, .sent⟩
          queue := session.queue ++ [.reply frame false reply] }
  | released {index frame : Nat} {call : Call}
      (found : session.jobs[index]? = some ⟨frame, call, .sent⟩) :
      Moves session (.release index)
        { session with
          jobs := session.jobs.set index ⟨frame, call, .finished⟩
          permits := session.permits + 1 }
  | taken {next : Item Event Reply} {rest : List (Item Event Reply)}
      (queued : session.queue = next :: rest) (free : session.writer = .idle) :
      Moves session .take { session with queue := rest, writer := .writing next }
  | wrote {item : Item Event Reply} (held : session.writer = .writing item) :
      Moves session .write
        { session with writer := .idle, written := session.written ++ [item] }

variable {service} {session next : CallSession Frame Call Work Context Reply Event}

theorem moves_of_receive (frame : Frame) (idle : session.listening = .waiting) :
    service.Moves session (.receive frame) (service.receive session frame) := by
  unfold receive
  cases asked : service.ask frame with
  | nothing => exact .ignored idle asked
  | refused reply => exact .refused idle asked
  | call call =>
      dsimp only
      split
      next full => exact .turnedAway idle asked full
      next free => exact .spawned idle asked free

theorem moves_of_pushTo {received : Received Event} (pushing : session.pushing = true)
    (given : session.channel.recv session.receiver = some received) :
    service.Moves session .push (service.pushTo session received) := by
  cases received with
  | lagged missed => exact .lagged pushing given
  | value event =>
      unfold pushTo
      dsimp only
      split
      next room => exact .pushed pushing given room
      next full => exact .dropped pushing given full

theorem moves_of_step {action : Action Frame Context Event}
    (stepped : service.step session action = some next) : service.Moves session action next := by
  cases action with
  | receive frame =>
      simp only [step] at stepped
      split at stepped
      next idle => exact Option.some.inj stepped ▸ moves_of_receive frame idle
      next => cases stepped
  | publish event => exact Option.some.inj stepped ▸ .published event
  | change context => exact Option.some.inj stepped ▸ .changed context
  | hangUp =>
      simp only [step] at stepped
      split at stepped
      next idle => exact Option.some.inj stepped ▸ .hungUp idle
      next => cases stepped
  | stopPushing => exact Option.some.inj stepped ▸ .stoppedPushing
  | fail =>
      simp only [step] at stepped
      split at stepped
      next => cases stepped
      next alive => exact Option.some.inj stepped ▸ .failed alive
  | push =>
      simp only [step] at stepped
      split at stepped
      next pushing =>
        obtain ⟨received, given, rfl⟩ := Option.map_eq_some_iff.mp stepped
        exact moves_of_pushTo pushing given
      next => cases stepped
  | refuse =>
      simp only [step] at stepped
      split at stepped
      next frame turnedAway reply listening =>
        split at stepped
        next room => exact Option.some.inj stepped ▸ .replied listening room
        next => cases stepped
      next => cases stepped
  | count =>
      simp only [step] at stepped
      split at stepped
      next listening => exact Option.some.inj stepped ▸ .counted listening
      next => cases stepped
  | advance index =>
      simp only [step] at stepped
      split at stepped
      next frame call work found =>
        split at stepped
        next further advanced => exact Option.some.inj stepped ▸ .further found advanced
        next reply advanced => exact Option.some.inj stepped ▸ .done found advanced
      next => cases stepped
  | enqueue index =>
      simp only [step] at stepped
      split at stepped
      next frame call reply found =>
        split at stepped
        next room => exact Option.some.inj stepped ▸ .enqueued found room
        next => cases stepped
      next => cases stepped
  | release index =>
      simp only [step] at stepped
      split at stepped
      next frame call found => exact Option.some.inj stepped ▸ .released found
      next => cases stepped
  | take =>
      simp only [step] at stepped
      split at stepped
      next item rest queued free => exact Option.some.inj stepped ▸ .taken queued free
      next => cases stepped
  | write =>
      simp only [step] at stepped
      split at stepped
      next item held => exact Option.some.inj stepped ▸ .wrote held
      next => cases stepped

end CallService

end Ferroq.Library
