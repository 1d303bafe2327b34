import Ferroq.Library.CallSession
import Ferroq.Library.Parts
import Ferroq.Library.Tally

/-!
# The books of a session

Every permit is free or held by a job, every reply that is due is queued or owed in one
place, and a reply belongs to its frame: it is a refusal, or what a job has come to.
-/

namespace Ferroq.Library

variable {Frame Call Work Context Reply Event : Type}

namespace CallSession

namespace Job

def held (job : Job Call Work Reply) : Nat :=
  match job.stage with
  | .finished => 0
  | .working _ | .replying _ | .sent => 1

def isAt (frame : Nat) (job : Job Call Work Reply) : Nat :=
  if job.frame = frame then 1 else 0

def owed (job : Job Call Work Reply) : Nat :=
  match job.stage with
  | .working _ | .replying _ => 1
  | .sent | .finished => 0

def owedTo (frame : Nat) (job : Job Call Work Reply) : Nat :=
  if job.frame = frame then job.owed else 0

def done (job : Job Call Work Reply) : Nat :=
  match job.stage with
  | .working _ => 0
  | .replying _ | .sent | .finished => 1

def doneFor (frame : Nat) (job : Job Call Work Reply) : Nat :=
  if job.frame = frame then job.done else 0

theorem doneFor_le_isAt (frame : Nat) (job : Job Call Work Reply) :
    job.doneFor frame ≤ job.isAt frame := by
  unfold doneFor isAt done
  split
  · split <;> omega
  · exact Nat.le_refl 0

end Job

namespace Listening

def owedTo (frame : Nat) : Listening Reply → Nat
  | .refusing other _ _ => if other = frame then 1 else 0
  | .waiting | .counting | .ended => 0

def uncounted : Listening Reply → Nat
  | .counting => 1
  | .waiting | .refusing _ _ _ | .ended => 0

theorem owedTo_refused (frame : Nat) (turnedAway : Bool) :
    (if turnedAway then .counting else .waiting : Listening Reply).owedTo frame = 0 := by
  cases turnedAway <;> rfl

theorem uncounted_refused (turnedAway : Bool) :
    (if turnedAway then .counting else .waiting : Listening Reply).uncounted =
      turnedAway.toNat := by
  cases turnedAway <;> rfl

end Listening

namespace Item

def replyTo (frame : Nat) : Item Event Reply → Option (Bool × Reply)
  | .reply other turnedAway own => if other = frame then some (turnedAway, own) else none
  | .push _ => none

def repliesTo (frame : Nat) : Item Event Reply → Nat
  | .reply other _ _ => if other = frame then 1 else 0
  | .push _ => 0

def refusals : Item Event Reply → Nat
  | .reply _ turnedAway _ => turnedAway.toNat
  | .push _ => 0

def pushed : Item Event Reply → Option Event
  | .push event => some event
  | .reply _ _ _ => none

/-- What has been queued so far, whether it has been written or not. -/
def all (written : List (Item Event Reply)) (writer : Writer (Item Event Reply))
    (queue : List (Item Event Reply)) : List (Item Event Reply) :=
  written ++ writer.held ++ queue

variable (written : List (Item Event Reply)) (writer : Writer (Item Event Reply))
  (queue : List (Item Event Reply))

@[simp]
theorem all_enqueue (item : Item Event Reply) :
    all written writer (queue ++ [item]) = all written writer queue ++ [item] :=
  (List.append_assoc _ _ _).symm

@[simp]
theorem all_fail : all written .gone (writer.held ++ queue) = all written writer queue := by
  simp [all, Writer.held]

theorem all_take (next : Item Event Reply) :
    all written (.writing next) queue = all written .idle (next :: queue) := by
  simp [all, Writer.held]

theorem all_write (item : Item Event Reply) :
    all (written ++ [item]) .idle queue = all written (.writing item) queue := by
  simp [all, Writer.held]

end Item

def outbound (session : CallSession Frame Call Work Context Reply Event) :
    List (Item Event Reply) :=
  Item.all session.written session.writer session.queue

def contexts (session : CallSession Frame Call Work Context Reply Event) : List Context :=
  session.context :: session.past

end CallSession

open CallSession

def completedFor (frame : Nat) (entry : Nat × Reply) : Nat :=
  if entry.1 = frame then 1 else 0

namespace CallService

variable (service : CallService Frame Call Work Context Reply)

def dueOf (frame : Frame) : Nat :=
  match service.ask frame with
  | .refused _ | .call _ => 1
  | .nothing => 0

def due (frames : List Frame) (number : Nat) : Nat := (frames[number]?.map service.dueOf).getD 0

theorem due_of_getElem {frames : List Frame} {number : Nat} {frame : Frame}
    (received : frames[number]? = some frame) :
    service.due frames number = service.dueOf frame := by
  rw [due, received, Option.map_some, Option.getD_some]

theorem due_beyond {frames : List Frame} {number : Nat} (beyond : frames.length ≤ number) :
    service.due frames number = 0 := by
  rw [due, List.getElem?_eq_none beyond, Option.map_none, Option.getD_none]

theorem due_append (frames : List Frame) (frame : Frame) (number : Nat) :
    service.due (frames ++ [frame]) number =
      service.due frames number + if frames.length = number then service.dueOf frame else 0 := by
  rcases Nat.lt_trichotomy number frames.length with inside | last | outside
  · rw [if_neg (Nat.ne_of_gt inside), Nat.add_zero]
    unfold due
    rw [List.getElem?_append_left inside]
  · subst last
    rw [if_pos rfl, due_beyond service (Nat.le_refl _), Nat.zero_add]
    exact service.due_of_getElem (by simp)
  · rw [if_neg (Nat.ne_of_lt outside), due_beyond service (Nat.le_of_lt outside)]
    apply due_beyond service
    rw [List.length_append, List.length_singleton]
    exact outside

structure Balanced (session : CallSession Frame Call Work Context Reply Event) : Prop where
  permits : session.permits + tally Job.held session.jobs = service.limit
  replies : ∀ frame, tally (Item.repliesTo frame) session.outbound +
      tally (Job.owedTo frame) session.jobs + session.listening.owedTo frame =
    service.due session.frames frame
  refusals : tally Item.refusals session.outbound =
    session.turnedAway + session.listening.uncounted
  calls : ∀ frame, tally (Job.isAt frame) session.jobs ≤ service.due session.frames frame
  completed : ∀ frame, tally (completedFor frame) session.completed =
    tally (Job.doneFor frame) session.jobs

theorem start_balanced (channel : Broadcast Event) (context : Context) :
    service.Balanced (service.start channel context) where
  permits := rfl
  replies _ := rfl
  refusals := rfl
  calls _ := Nat.le_refl 0
  completed _ := rfl

variable {service} {session next : CallSession Frame Call Work Context Reply Event}
  {action : Action Frame Context Event}

theorem permits_of_moves
    (balanced : session.permits + tally Job.held session.jobs = service.limit)
    (moves : service.Moves session action next) :
    next.permits + tally Job.held next.jobs = service.limit := by
  cases moves with
  | spawned idle asked free =>
      simp only [tally_append, tally_cons, tally_nil, Job.held]
      omega
  | further found | done found | enqueued found =>
      dsimp only
      rw [tally_set_of_eq found]
      · exact balanced
      · rfl
  | @released index frame call found =>
      have moved := tally_set Job.held ⟨frame, call, .finished⟩ found
      simp only [Job.held] at moved ⊢
      omega
  | _ => exact balanced

theorem replies_of_moves (number : Nat)
    (balanced : tally (Item.repliesTo number) session.outbound +
      tally (Job.owedTo number) session.jobs + session.listening.owedTo number =
        service.due session.frames number)
    (moves : service.Moves session action next) :
    tally (Item.repliesTo number) next.outbound +
      tally (Job.owedTo number) next.jobs + next.listening.owedTo number =
        service.due next.frames number := by
  unfold outbound at balanced ⊢
  cases moves with
  | ignored idle asked =>
      dsimp only
      rw [due_append, dueOf, asked, ite_self, Nat.add_zero]
      exact balanced
  | refused idle asked | turnedAway idle asked full =>
      rw [idle] at balanced
      dsimp only
      rw [due_append, dueOf, asked, ← balanced]
      rfl
  | spawned idle asked free =>
      dsimp only
      rw [due_append, dueOf, asked, ← balanced]
      simp only [tally_append, tally_cons, tally_nil, Job.owedTo, Job.owed]
      omega
  | hungUp idle =>
      rw [idle] at balanced
      exact balanced
  | failed alive =>
      dsimp only
      rw [Item.all_fail]
      exact balanced
  | pushed pushing given room =>
      simpa [Item.repliesTo] using balanced
  | replied listening room =>
      rw [listening] at balanced
      simp only [Item.all_enqueue, tally_append, tally_cons, tally_nil, Item.repliesTo,
        Listening.owedTo_refused]
      simp only [Listening.owedTo] at balanced
      omega
  | counted listening =>
      rw [listening] at balanced
      exact balanced
  | further found | done found =>
      dsimp only
      rw [tally_set_of_eq found]
      · exact balanced
      · rfl
  | @enqueued index frame call reply found room =>
      have moved := tally_set (Job.owedTo number) ⟨frame, call, .sent⟩ found
      simp only [Job.owedTo, Job.owed, ite_self] at moved
      simp only [Item.all_enqueue, tally_append, tally_cons, tally_nil, Item.repliesTo]
      omega
  | @released index frame call found =>
      have moved := tally_set (Job.owedTo number) ⟨frame, call, .finished⟩ found
      simp only [Job.owedTo, Job.owed, ite_self] at moved
      dsimp only
      omega
  | taken queued free =>
      rw [queued, free] at balanced
      rw [Item.all_take]
      exact balanced
  | wrote held =>
      rw [held] at balanced
      rw [Item.all_write]
      exact balanced
  | _ => exact balanced

theorem refusals_of_moves
    (balanced : tally Item.refusals session.outbound =
      session.turnedAway + session.listening.uncounted)
    (moves : service.Moves session action next) :
    tally Item.refusals next.outbound = next.turnedAway + next.listening.uncounted := by
  unfold outbound at balanced ⊢
  cases moves with
  | refused idle | turnedAway idle | hungUp idle =>
      rw [idle] at balanced
      exact balanced
  | failed alive =>
      dsimp only
      rw [Item.all_fail]
      exact balanced
  | pushed pushing given room | enqueued found room =>
      simpa [Item.refusals] using balanced
  | @replied frame turnedAway reply listening room =>
      rw [listening] at balanced
      simp only [Item.all_enqueue, tally_append, balanced, Listening.uncounted_refused]
      rfl
  | counted listening =>
      rw [listening] at balanced
      exact balanced
  | taken queued free =>
      rw [queued, free] at balanced
      rw [Item.all_take]
      exact balanced
  | wrote held =>
      rw [held] at balanced
      rw [Item.all_write]
      exact balanced
  | _ => exact balanced

theorem calls_of_moves (number : Nat)
    (balanced : tally (Job.isAt number) session.jobs ≤ service.due session.frames number)
    (moves : service.Moves session action next) :
    tally (Job.isAt number) next.jobs ≤ service.due next.frames number := by
  cases moves with
  | ignored | refused | turnedAway =>
      dsimp only
      rw [due_append]
      exact Nat.le_add_right_of_le balanced
  | spawned idle asked free =>
      dsimp only
      rw [due_append, dueOf, asked]
      simp only [tally_append, tally_cons, tally_nil, Job.isAt]
      omega
  | further found | done found | enqueued found | released found =>
      dsimp only
      rw [tally_set_of_eq found]
      · exact balanced
      · rfl
  | _ => exact balanced

theorem completed_of_moves (number : Nat)
    (balanced : tally (completedFor number) session.completed =
      tally (Job.doneFor number) session.jobs)
    (moves : service.Moves session action next) :
    tally (completedFor number) next.completed = tally (Job.doneFor number) next.jobs := by
  cases moves with
  | spawned idle asked free =>
      simpa [Job.doneFor, Job.done] using balanced
  | further found | enqueued found | released found =>
      dsimp only
      rw [tally_set_of_eq found]
      · exact balanced
      · rfl
  | @done index frame call work reply found advanced =>
      have moved := tally_set (Job.doneFor number) ⟨frame, call, .replying reply⟩ found
      simp only [Job.doneFor, Job.done, ite_self] at moved
      simp only [tally_append, tally_cons, tally_nil, completedFor]
      omega
  | _ => exact balanced

theorem Balanced.of_moves (balanced : service.Balanced session)
    (moves : service.Moves session action next) : service.Balanced next where
  permits := permits_of_moves balanced.permits moves
  replies number := replies_of_moves number (balanced.replies number) moves
  refusals := refusals_of_moves balanced.refusals moves
  calls number := calls_of_moves number (balanced.calls number) moves
  completed number := completed_of_moves number (balanced.completed number) moves

/-- A job for each reply, and a frame for each job: nothing is done twice. -/
theorem Balanced.completed_le (balanced : service.Balanced session) (number : Nat) :
    tally (completedFor number) session.completed ≤ service.due session.frames number := by
  rw [balanced.completed]
  exact Nat.le_trans (tally_le_tally (Job.doneFor_le_isAt number) session.jobs)
    (balanced.calls number)

end CallService

end Ferroq.Library
