import Ferroq.Library.Machine
import Ferroq.Library.Tally
import Ferroq.Gateway.Dedup
import Ferroq.Library.Parts

/-!
# Event forwarding

One task for each adapter takes events off the adapter's channel, asks the
shared filter, counts and publishes.  The tasks come between each other at every
one of these steps.  Each received event is known by its task and its place in
what the task received, and the logs below say for every event what became
of it.
-/

namespace Ferroq.Gateway

open Ferroq.Library

def countEntry (name : String) : List (String × UInt64) → List (String × UInt64)
  | [] => [(name, 1)]
  | (other, count) :: rest =>
      if other = name then (other, count + 1) :: rest
      else (other, count) :: countEntry name rest

theorem countEntry_names (name : String) (entries : List (String × UInt64)) :
    (countEntry name entries).map Prod.fst =
      if name ∈ entries.map Prod.fst then entries.map Prod.fst
      else entries.map Prod.fst ++ [name] := by
  induction entries with
  | nil => simp [countEntry]
  | cons entry rest inductionHypothesis =>
      obtain ⟨other, count⟩ := entry
      by_cases same : other = name
      · simp [countEntry, same]
      · rw [countEntry, if_neg same, List.map_cons, inductionHypothesis]
        have different : name ≠ other := fun equal => same equal.symm
        by_cases listed : name ∈ rest.map Prod.fst <;> simp [listed, different]

structure Counters where
  entries : List (String × UInt64)
  nodup : (entries.map Prod.fst).Nodup

namespace Counters

def empty : Counters := ⟨[], List.nodup_nil⟩

def count (counters : Counters) (name : String) : Counters where
  entries := countEntry name counters.entries
  nodup := by
    rw [countEntry_names]
    split
    next => exact counters.nodup
    next fresh =>
      rw [List.nodup_append]
      refine ⟨counters.nodup, by simp, ?_⟩
      intro other listed new isNew equal
      rw [List.mem_singleton] at isNew
      exact fresh (isNew ▸ equal ▸ listed)

def total (counters : Counters) : UInt64 :=
  counters.entries.foldr (fun entry sum => entry.2 + sum) 0

@[simp]
theorem total_count (counters : Counters) (name : String) :
    (counters.count name).total = counters.total + 1 := by
  change (countEntry name counters.entries).foldr (fun entry sum => entry.2 + sum) 0 = _
  unfold total
  induction counters.entries with
  | nil => rfl
  | cons entry rest inductionHypothesis =>
      obtain ⟨other, count⟩ := entry
      unfold countEntry
      split
      next => simp only [List.foldr_cons, UInt64.add_assoc, UInt64.add_comm 1]
      next =>
        rw [List.foldr_cons, List.foldr_cons, inductionHypothesis, UInt64.add_assoc]

end Counters

structure RuntimeStats where
  eventsTotal : UInt64
  eventsDeduplicated : UInt64
  perAdapterEvents : Counters

/-- Where a forwarding task is in its loop, with the event at hand. -/
inductive Stage (Event : Type) where
  | receiving
  | checking (event : Event)
  | duplicate (event : Event)
  | fresh (event : Event)
  | counted (event : Event)
  | recorded (event : Event)
  | ended

/-- The event that a task has received and is not through with. -/
def Stage.held {Event : Type} : Stage Event → List Event
  | .receiving | .ended => []
  | .checking event | .duplicate event | .fresh event | .counted event | .recorded event => [event]

/-- Whether the event at hand is in `events_total` already. -/
def Stage.inTotal {Event : Type} : Stage Event → Nat
  | .counted _ | .recorded _ => 1
  | _ => 0

/-- Whether the event at hand is in the counter of its adapter already. -/
def Stage.inAdapter {Event : Type} : Stage Event → Nat
  | .recorded _ => 1
  | _ => 0

structure ForwardTask (Event : Type) where
  adapterName : String
  channel : List Event
  closed : Bool
  stage : Stage Event
  received : List Event
  settled : Nat

def ForwardTask.atHand {Event : Type} (task : ForwardTask Event) : Nat := task.stage.held.length

def ForwardTask.inTotal {Event : Type} (task : ForwardTask Event) : Nat := task.stage.inTotal

def ForwardTask.inAdapter {Event : Type} (task : ForwardTask Event) : Nat := task.stage.inAdapter

def ForwardTask.arrivals {Event : Type} (task : ForwardTask Event) : Nat := task.received.length

theorem ForwardTask.inTotal_le {Event : Type} (task : ForwardTask Event) :
    task.inTotal ≤ task.atHand := by
  unfold inTotal atHand
  cases task.stage <;> simp [Stage.inTotal, Stage.held]

theorem ForwardTask.inAdapter_le {Event : Type} (task : ForwardTask Event) :
    task.inAdapter ≤ task.atHand := by
  unfold inAdapter atHand
  cases task.stage <;> simp [Stage.inAdapter, Stage.held]

/-- An event on the bus, with the task that published it and the event's place
in what the task received. -/
structure Delivery (Event : Type) where
  task : Nat
  position : Nat
  event : Event

structure Forwarding (Event Fingerprint : Type) where
  dedup : Option (DedupFilter Fingerprint)
  stats : RuntimeStats
  tasks : List (ForwardTask Event)
  published : List (Delivery Event)
  suppressed : List (Nat × Nat)

namespace Forwarding

variable {Event Fingerprint : Type} [DecidableEq Fingerprint]

def start (dedup : Option (DedupFilter Fingerprint)) : Forwarding Event Fingerprint where
  dedup := dedup
  stats := ⟨0, 0, .empty⟩
  tasks := []
  published := []
  suppressed := []

inductive Action (Event : Type) where
  | spawn (adapterName : String)
  | send (task : Nat) (event : Event)
  | close (task : Nat)
  | forward (task : Nat) (now : Nat)

def check (fingerprint : Event → Fingerprint) (dedup : Option (DedupFilter Fingerprint))
    (event : Event) (now : Nat) : Bool × Option (DedupFilter Fingerprint) :=
  match dedup with
  | none => (false, none)
  | some filter =>
      let (duplicate, filter) := filter.isDuplicate fingerprint event now
      (duplicate, some filter)

def advance (fingerprint : Event → Fingerprint) (state : Forwarding Event Fingerprint)
    (index : Nat) (task : ForwardTask Event) (now : Nat) :
    Option (Forwarding Event Fingerprint) :=
  let moved := fun task => state.tasks.set index task
  match task.stage with
  | .receiving =>
      match task.channel, task.closed with
      | event :: channel, _ =>
          some { state with
            tasks := moved { task with
              channel, stage := .checking event, received := task.received ++ [event] } }
      | [], true => some { state with tasks := moved { task with stage := .ended } }
      | [], false => none
  | .checking event =>
      let (duplicate, dedup) := check fingerprint state.dedup event now
      some { state with
        dedup
        tasks := moved { task with stage := if duplicate then .duplicate event else .fresh event } }
  | .duplicate _ =>
      some { state with
        stats := { state.stats with eventsDeduplicated := state.stats.eventsDeduplicated + 1 }
        tasks := moved { task with stage := .receiving, settled := task.settled + 1 }
        suppressed := state.suppressed ++ [(index, task.settled)] }
  | .fresh event =>
      some { state with
        stats := { state.stats with eventsTotal := state.stats.eventsTotal + 1 }
        tasks := moved { task with stage := .counted event } }
  | .counted event =>
      some { state with
        stats := { state.stats with
          perAdapterEvents := state.stats.perAdapterEvents.count task.adapterName }
        tasks := moved { task with stage := .recorded event } }
  | .recorded event =>
      some { state with
        tasks := moved { task with stage := .receiving, settled := task.settled + 1 }
        published := state.published ++ [⟨index, task.settled, event⟩] }
  | .ended => none

def step (fingerprint : Event → Fingerprint) (state : Forwarding Event Fingerprint) :
    Action Event → Option (Forwarding Event Fingerprint)
  | .spawn adapterName =>
      some { state with
        tasks := state.tasks ++ [{
          adapterName, channel := [], closed := false, stage := .receiving, received := []
          settled := 0 }] }
  | .send index event =>
      match state.tasks[index]? with
      | some task =>
          if task.closed then none
          else some { state with
            tasks := state.tasks.set index { task with channel := task.channel ++ [event] } }
      | none => none
  | .close index =>
      match state.tasks[index]? with
      | some task => some { state with tasks := state.tasks.set index { task with closed := true } }
      | none => none
  | .forward index now =>
      match state.tasks[index]? with
      | some task => advance fingerprint state index task now
      | none => none

def machine (fingerprint : Event → Fingerprint) :
    Machine (Forwarding Event Fingerprint) (Action Event) := ⟨step fingerprint⟩

inductive Moves (fingerprint : Event → Fingerprint) (state : Forwarding Event Fingerprint) :
    Action Event → Forwarding Event Fingerprint → Prop where
  | spawn (adapterName : String) :
      Moves fingerprint state (.spawn adapterName)
        { state with
          tasks := state.tasks ++ [⟨adapterName, [], false, .receiving, [], 0⟩] }
  | send {index : Nat} {task : ForwardTask Event} (event : Event)
      (found : state.tasks[index]? = some task) :
      Moves fingerprint state (.send index event)
        { state with
          tasks := state.tasks.set index { task with channel := task.channel ++ [event] } }
  | close {index : Nat} {task : ForwardTask Event} (found : state.tasks[index]? = some task) :
      Moves fingerprint state (.close index)
        { state with tasks := state.tasks.set index { task with closed := true } }
  | receive {index : Nat} {task : ForwardTask Event} {event : Event} {channel : List Event}
      (now : Nat) (found : state.tasks[index]? = some task) (idle : task.stage = .receiving)
      (waiting : task.channel = event :: channel) :
      Moves fingerprint state (.forward index now)
        { state with
          tasks := state.tasks.set index { task with
            channel, stage := .checking event, received := task.received ++ [event] } }
  | finish {index : Nat} {task : ForwardTask Event} (now : Nat)
      (found : state.tasks[index]? = some task) (idle : task.stage = .receiving) :
      Moves fingerprint state (.forward index now)
        { state with tasks := state.tasks.set index { task with stage := .ended } }
  | check {index : Nat} {task : ForwardTask Event} {event : Event} (now : Nat)
      (found : state.tasks[index]? = some task) (held : task.stage = .checking event) :
      Moves fingerprint state (.forward index now)
        { state with
          dedup := (check fingerprint state.dedup event now).2
          tasks := state.tasks.set index { task with
            stage :=
              if (check fingerprint state.dedup event now).1 then .duplicate event
              else .fresh event } }
  | suppress {index : Nat} {task : ForwardTask Event} {event : Event} (now : Nat)
      (found : state.tasks[index]? = some task) (held : task.stage = .duplicate event) :
      Moves fingerprint state (.forward index now)
        { state with
          stats := { state.stats with eventsDeduplicated := state.stats.eventsDeduplicated + 1 }
          tasks := state.tasks.set index { task with
            stage := .receiving, settled := task.settled + 1 }
          suppressed := state.suppressed ++ [(index, task.settled)] }
  | countEvent {index : Nat} {task : ForwardTask Event} {event : Event} (now : Nat)
      (found : state.tasks[index]? = some task) (held : task.stage = .fresh event) :
      Moves fingerprint state (.forward index now)
        { state with
          stats := { state.stats with eventsTotal := state.stats.eventsTotal + 1 }
          tasks := state.tasks.set index { task with stage := .counted event } }
  | countAdapter {index : Nat} {task : ForwardTask Event} {event : Event} (now : Nat)
      (found : state.tasks[index]? = some task) (held : task.stage = .counted event) :
      Moves fingerprint state (.forward index now)
        { state with
          stats := { state.stats with
            perAdapterEvents := state.stats.perAdapterEvents.count task.adapterName }
          tasks := state.tasks.set index { task with stage := .recorded event } }
  | publish {index : Nat} {task : ForwardTask Event} {event : Event} (now : Nat)
      (found : state.tasks[index]? = some task) (held : task.stage = .recorded event) :
      Moves fingerprint state (.forward index now)
        { state with
          tasks := state.tasks.set index { task with
            stage := .receiving, settled := task.settled + 1 }
          published := state.published ++ [⟨index, task.settled, event⟩] }

variable {fingerprint : Event → Fingerprint} {state next : Forwarding Event Fingerprint}
  {action : Action Event}

theorem advance_moves {index now : Nat} {task : ForwardTask Event}
    (found : state.tasks[index]? = some task)
    (stepped : advance fingerprint state index task now = some next) :
    Moves fingerprint state (.forward index now) next := by
  unfold advance at stepped
  split at stepped
  next idle =>
    split at stepped
    next event channel waiting =>
      exact Option.some.inj stepped ▸ .receive now found idle waiting
    next => exact Option.some.inj stepped ▸ .finish now found idle
    next => simp at stepped
  next event held => exact Option.some.inj stepped ▸ .check now found held
  next event held => exact Option.some.inj stepped ▸ .suppress now found held
  next event held => exact Option.some.inj stepped ▸ .countEvent now found held
  next event held => exact Option.some.inj stepped ▸ .countAdapter now found held
  next event held => exact Option.some.inj stepped ▸ .publish now found held
  next => simp at stepped

theorem step_moves (stepped : (machine fingerprint).step state action = some next) :
    Moves fingerprint state action next := by
  change step fingerprint state action = some next at stepped
  cases action with
  | spawn adapterName => exact Option.some.inj stepped ▸ .spawn adapterName
  | send index event =>
      simp only [step] at stepped
      split at stepped
      next task found =>
        split at stepped
        next => simp at stepped
        next => exact Option.some.inj stepped ▸ .send event found
      next => simp at stepped
  | close index =>
      simp only [step] at stepped
      split at stepped
      next task found => exact Option.some.inj stepped ▸ .close found
      next => simp at stepped
  | forward index now =>
      simp only [step] at stepped
      split at stepped
      next task found => exact advance_moves found stepped
      next => simp at stepped

/-- Events of the task up to `settled` are done with; what comes after them is
at hand. -/
def Sound (task : ForwardTask Event) : Prop :=
  task.settled ≤ task.received.length ∧
    task.received.drop task.settled = task.stage.held

def times (published : List (Delivery Event)) (suppressed : List (Nat × Nat))
    (index position : Nat) : Nat :=
  published.countP (fun delivery => delivery.task = index ∧ delivery.position = position) +
    suppressed.count (index, position)

def settledOf (tasks : List (ForwardTask Event)) (index : Nat) : Nat :=
  (tasks[index]?.map ForwardTask.settled).getD 0

/-- The logs hold every event that is done with once, as it was received, and in
the order of its task. -/
structure Tagged (tasks : List (ForwardTask Event)) (published : List (Delivery Event))
    (suppressed : List (Nat × Nat)) : Prop where
  sound : ∀ (index : Nat) (task : ForwardTask Event), tasks[index]? = some task → Sound task
  once : ∀ index position, times published suppressed index position =
    if position < settledOf tasks index then 1 else 0
  faithful : ∀ delivery ∈ published, ∃ task, tasks[delivery.task]? = some task ∧
    task.received[delivery.position]? = some delivery.event
  ordered : published.Pairwise fun earlier later =>
    earlier.task = later.task → earlier.position < later.position

section Tagged

variable {tasks : List (ForwardTask Event)} {published : List (Delivery Event)}
  {suppressed : List (Nat × Nat)} {index : Nat} {task changed : ForwardTask Event}

theorem settledOf_set (found : tasks[index]? = some task) (other : Nat) :
    settledOf (tasks.set index changed) other =
      if other = index then changed.settled else settledOf tasks other := by
  have inside := (List.getElem?_eq_some_iff.mp found).1
  unfold settledOf
  rw [List.getElem?_set]
  by_cases same : index = other
  · simp [same, same ▸ inside]
  · have reversed : other ≠ index := fun equal => same equal.symm
    simp [same, reversed]

theorem settledOf_of_found (found : tasks[index]? = some task) :
    settledOf tasks index = task.settled := by
  simp [settledOf, found]

theorem settledOf_concat (new : task.settled = 0) (other : Nat) :
    settledOf (tasks ++ [task]) other = settledOf tasks other := by
  unfold settledOf
  rcases Nat.lt_trichotomy other tasks.length with inside | rfl | outside
  · rw [List.getElem?_append_left inside]
  · simp [new]
  · rw [List.getElem?_eq_none (Nat.le_of_lt outside), List.getElem?_eq_none (by simp; omega)]

theorem Tagged.sound_set (tagged : Tagged tasks published suppressed) (sound : Sound changed)
    (other : Nat) (here : ForwardTask Event)
    (found : (tasks.set index changed)[other]? = some here) : Sound here := by
  rw [List.getElem?_set] at found
  split at found
  next same =>
    split at found
    next => exact Option.some.inj found ▸ sound
    next => simp at found
  next => exact tagged.sound other here found

theorem Tagged.faithful_set (tagged : Tagged tasks published suppressed)
    (changed : ForwardTask Event) (found : tasks[index]? = some task)
    (grows : task.received <+: changed.received) :
    ∀ delivery ∈ published, ∃ here, (tasks.set index changed)[delivery.task]? = some here ∧
      here.received[delivery.position]? = some delivery.event := by
  intro delivery listed
  obtain ⟨here, position, event⟩ := tagged.faithful delivery listed
  have inside := (List.getElem?_eq_some_iff.mp found).1
  by_cases same : index = delivery.task
  · rw [← same, found] at position
    cases position
    refine ⟨changed, by simp [← same, inside], ?_⟩
    obtain ⟨later, extended⟩ := grows
    rw [← extended, List.getElem?_append_left (List.getElem?_eq_some_iff.mp event).1, event]
  · exact ⟨here, by rw [List.getElem?_set_ne same, position], event⟩

/-- A step within the loop that is not the last one on an event. -/
theorem Tagged.replace (tagged : Tagged tasks published suppressed)
    (found : tasks[index]? = some task) (same : changed.settled = task.settled)
    (grows : task.received <+: changed.received) (sound : Sound changed) :
    Tagged (tasks.set index changed) published suppressed where
  sound := tagged.sound_set sound
  once := by
    intro other position
    rw [tagged.once, settledOf_set found]
    by_cases equal : other = index
    · rw [if_pos equal, same, equal, settledOf_of_found found]
    · rw [if_neg equal]
  faithful := tagged.faithful_set changed found grows
  ordered := tagged.ordered

theorem Tagged.position_lt (tagged : Tagged tasks published suppressed)
    {delivery : Delivery Event} (listed : delivery ∈ published) :
    delivery.position < settledOf tasks delivery.task := by
  have counted := tagged.once delivery.task delivery.position
  have positive : 0 < published.countP (fun other =>
      other.task = delivery.task ∧ other.position = delivery.position) :=
    List.countP_pos_iff.mpr ⟨delivery, listed, by simp⟩
  unfold times at counted
  split at counted
  next below => exact below
  next => omega

theorem Sound.settle {event : Event} (sound : Sound task) (held : task.stage.held = [event]) :
    Sound { task with stage := .receiving, settled := task.settled + 1 } := by
  have length := congrArg List.length (sound.2.trans held)
  rw [List.length_drop, List.length_singleton] at length
  refine ⟨by dsimp only; omega, ?_⟩
  change task.received.drop (task.settled + 1) = []
  rw [List.drop_eq_nil_iff]
  omega

theorem Sound.received_settled {event : Event} (sound : Sound task)
    (held : task.stage.held = [event]) : task.received[task.settled]? = some event := by
  have first := congrArg List.head? (sound.2.trans held)
  simpa using first

/-- The last step on an event enters it into one of the logs. -/
theorem Tagged.settle (tagged : Tagged tasks published suppressed)
    (found : tasks[index]? = some task) {event : Event} (held : task.stage.held = [event])
    {newPublished : List (Delivery Event)} {newSuppressed : List (Nat × Nat)}
    (entered : ∀ other position, times newPublished newSuppressed other position =
      times published suppressed other position +
        if index = other ∧ task.settled = position then 1 else 0)
    (logged : newPublished = published ∨
      newPublished = published ++ [⟨index, task.settled, event⟩]) :
    Tagged (tasks.set index { task with stage := .receiving, settled := task.settled + 1 })
      newPublished newSuppressed where
  sound := tagged.sound_set ((tagged.sound index task found).settle held)
  once := by
    intro other position
    rw [entered, tagged.once, settledOf_set found]
    by_cases same : other = index
    · subst same
      rw [settledOf_of_found found, if_pos rfl]
      dsimp only
      by_cases here : task.settled = position
      · simp [here]
      · simp only [here, and_false, if_false, Nat.add_zero]
        congr 1
        apply propext
        omega
    · have different : ¬ index = other := fun equal => same equal.symm
      simp [same, different]
  faithful := by
    have kept := tagged.faithful_set
      { task with stage := .receiving, settled := task.settled + 1 } found
      (List.prefix_refl task.received)
    rcases logged with rfl | rfl
    · exact kept
    · have inside := (List.getElem?_eq_some_iff.mp found).1
      exact forall_mem_concat kept ⟨_, List.getElem?_set_self inside,
        (tagged.sound index task found).received_settled held⟩
  ordered := by
    rcases logged with rfl | rfl
    · exact tagged.ordered
    · rw [List.pairwise_append]
      refine ⟨tagged.ordered, List.pairwise_singleton _ _, ?_⟩
      intro earlier listed new isNew
      rw [List.mem_singleton.mp isNew]
      intro sameTask
      have below := tagged.position_lt listed
      rwa [sameTask, settledOf_of_found found] at below

end Tagged

theorem tagged_step (tagged : Tagged state.tasks state.published state.suppressed)
    (stepped : (machine fingerprint).step state action = some next) :
    Tagged next.tasks next.published next.suppressed := by
  cases step_moves stepped with
  | spawn adapterName =>
      have known (index : Nat) (task : ForwardTask Event)
          (found : state.tasks[index]? = some task) :
          (state.tasks ++ [⟨adapterName, [], false, .receiving, [], 0⟩])[index]? = some task := by
        rw [List.getElem?_append_left (List.getElem?_eq_some_iff.mp found).1, found]
      refine ⟨?_, ?_, ?_, tagged.ordered⟩
      · intro index task found
        rcases List.mem_append.mp (List.mem_of_getElem? found) with old | new
        · obtain ⟨place, here⟩ := List.getElem?_of_mem old
          exact tagged.sound place task here
        · rw [List.mem_singleton.mp new]
          exact ⟨Nat.le_refl 0, rfl⟩
      · intro index position
        rw [tagged.once, settledOf_concat rfl]
      · intro delivery listed
        obtain ⟨task, found, event⟩ := tagged.faithful delivery listed
        exact ⟨task, known _ _ found, event⟩
  | send event found =>
      have sound := tagged.sound _ _ found
      exact tagged.replace found rfl (List.prefix_refl _) sound
  | close found =>
      have sound := tagged.sound _ _ found
      exact tagged.replace found rfl (List.prefix_refl _) sound
  | @receive index task event channel now found idle waiting =>
      have sound := tagged.sound index task found
      have caughtUp : task.received.length ≤ task.settled :=
        List.drop_eq_nil_iff.mp (sound.2.trans (by rw [idle]; rfl))
      refine tagged.replace found rfl (List.prefix_append _ _) ⟨?_, ?_⟩
      · exact Nat.le_trans sound.1 (by simp)
      · change (task.received ++ [event]).drop task.settled = [event]
        rw [List.drop_append_of_le_length sound.1, List.drop_of_length_le caughtUp,
          List.nil_append]
  | finish now found idle =>
      have sound := tagged.sound _ _ found
      rw [Sound, idle] at sound
      exact tagged.replace found rfl (List.prefix_refl _) sound
  | @check index task event now found held =>
      have sound := tagged.sound index task found
      rw [Sound, held] at sound
      refine tagged.replace found rfl (List.prefix_refl _) ⟨sound.1, ?_⟩
      dsimp only
      split <;> exact sound.2
  | @suppress index task event now found held =>
      refine tagged.settle found (by rw [held]; rfl) ?_ (Or.inl rfl)
      intro other position
      unfold times
      rw [List.count_append, List.count_singleton]
      simp only [beq_iff_eq, Prod.mk.injEq, Nat.add_assoc]
  | countEvent now found held =>
      have sound := tagged.sound _ _ found
      rw [Sound, held] at sound
      exact tagged.replace found rfl (List.prefix_refl _) sound
  | countAdapter now found held =>
      have sound := tagged.sound _ _ found
      rw [Sound, held] at sound
      exact tagged.replace found rfl (List.prefix_refl _) sound
  | @publish index task event now found held =>
      refine tagged.settle found (by rw [held]; rfl) ?_ (Or.inr rfl)
      intro other position
      unfold times
      rw [List.countP_append, List.countP_singleton]
      simp only [decide_eq_true_eq, Nat.add_right_comm]

/-- The counters agree with the logs, but for the events at hand. -/
structure Balanced (state : Forwarding Event Fingerprint) : Prop where
  total : state.stats.eventsTotal =
    UInt64.ofNat (state.published.length + tally ForwardTask.inTotal state.tasks)
  adapters : state.stats.perAdapterEvents.total =
    UInt64.ofNat (state.published.length + tally ForwardTask.inAdapter state.tasks)
  deduplicated : state.stats.eventsDeduplicated = UInt64.ofNat state.suppressed.length
  received : tally ForwardTask.arrivals state.tasks =
    state.published.length + state.suppressed.length + tally ForwardTask.atHand state.tasks

theorem follows_of_grown {counter grown : UInt64} {number later added : Nat}
    (follows : counter = UInt64.ofNat number) (counted : grown = counter + UInt64.ofNat added)
    (changed : later = number + added) : grown = UInt64.ofNat later := by
  rw [counted, follows, changed, UInt64.ofNat_add]

omit [DecidableEq Fingerprint] in
/-- A step of one task keeps the balance when each counter gains what moves into
the logs and the hands of the task. -/
theorem Balanced.move (balanced : Balanced state) {index : Nat} {task changed : ForwardTask Event}
    (found : state.tasks[index]? = some task) {next : Forwarding Event Fingerprint}
    (moved : next.tasks = state.tasks.set index changed) (total adapter duplicates : Nat)
    (totalCounted : next.stats.eventsTotal = state.stats.eventsTotal + UInt64.ofNat total ∧
      next.published.length + changed.inTotal =
        state.published.length + task.inTotal + total)
    (adapterCounted : next.stats.perAdapterEvents.total =
        state.stats.perAdapterEvents.total + UInt64.ofNat adapter ∧
      next.published.length + changed.inAdapter =
        state.published.length + task.inAdapter + adapter)
    (duplicatesCounted : next.stats.eventsDeduplicated =
        state.stats.eventsDeduplicated + UInt64.ofNat duplicates ∧
      next.suppressed.length = state.suppressed.length + duplicates)
    (received : changed.arrivals + state.published.length + state.suppressed.length + task.atHand =
      task.arrivals + next.published.length + next.suppressed.length + changed.atHand) :
    Balanced next where
  total := by
    have weighed := tally_set ForwardTask.inTotal changed found
    refine follows_of_grown balanced.total totalCounted.1 ?_
    rw [moved]
    omega
  adapters := by
    have weighed := tally_set ForwardTask.inAdapter changed found
    refine follows_of_grown balanced.adapters adapterCounted.1 ?_
    rw [moved]
    omega
  deduplicated :=
    follows_of_grown balanced.deduplicated duplicatesCounted.1 duplicatesCounted.2
  received := by
    have grown := tally_set ForwardTask.arrivals changed found
    have held := tally_set ForwardTask.atHand changed found
    have before := balanced.received
    rw [moved]
    omega

omit [DecidableEq Fingerprint] in
theorem Balanced.replace (balanced : Balanced state) {index : Nat}
    {task changed : ForwardTask Event} (found : state.tasks[index]? = some task)
    (dedup : Option (DedupFilter Fingerprint)) (total : changed.inTotal = task.inTotal)
    (adapter : changed.inAdapter = task.inAdapter)
    (received : changed.arrivals + task.atHand = task.arrivals + changed.atHand) :
    Balanced { state with dedup, tasks := state.tasks.set index changed } := by
  refine balanced.move found rfl 0 0 0 ⟨?_, ?_⟩ ⟨?_, ?_⟩ ⟨?_, rfl⟩ ?_
  · exact (UInt64.add_zero _).symm
  · rw [total, Nat.add_zero]
  · exact (UInt64.add_zero _).symm
  · rw [adapter, Nat.add_zero]
  · exact (UInt64.add_zero _).symm
  · dsimp only
    omega

theorem balanced_step (balanced : Balanced state)
    (stepped : (machine fingerprint).step state action = some next) : Balanced next := by
  cases step_moves stepped with
  | spawn adapterName =>
      refine ⟨?_, ?_, balanced.deduplicated, ?_⟩
      · dsimp only
        rw [tally_append]
        exact balanced.total
      · dsimp only
        rw [tally_append]
        exact balanced.adapters
      · dsimp only
        rw [tally_append, tally_append]
        exact balanced.received
  | send event found => exact balanced.replace found state.dedup rfl rfl rfl
  | close found => exact balanced.replace found state.dedup rfl rfl rfl
  | receive now found idle waiting =>
      refine balanced.replace found state.dedup ?_ ?_ ?_
      · simp [ForwardTask.inTotal, Stage.inTotal, idle]
      · simp [ForwardTask.inAdapter, Stage.inAdapter, idle]
      · simp [ForwardTask.arrivals, ForwardTask.atHand, Stage.held, idle]
  | finish now found idle =>
      refine balanced.replace found state.dedup ?_ ?_ ?_
      · simp [ForwardTask.inTotal, Stage.inTotal, idle]
      · simp [ForwardTask.inAdapter, Stage.inAdapter, idle]
      · simp [ForwardTask.arrivals, ForwardTask.atHand, Stage.held, idle]
  | @check index task event now found held =>
      cases duplicate : (check fingerprint state.dedup event now).1 with
      | true | false =>
          refine balanced.replace found _ ?_ ?_ ?_
          · simp [ForwardTask.inTotal, Stage.inTotal, held]
          · simp [ForwardTask.inAdapter, Stage.inAdapter, held]
          · simp [ForwardTask.arrivals, ForwardTask.atHand, Stage.held, held]
  | suppress now found held =>
      refine balanced.move found rfl 0 0 1 ⟨?_, ?_⟩ ⟨?_, ?_⟩ ⟨rfl, ?_⟩ ?_
      · exact (UInt64.add_zero _).symm
      · simp [ForwardTask.inTotal, Stage.inTotal, held]
      · exact (UInt64.add_zero _).symm
      · simp [ForwardTask.inAdapter, Stage.inAdapter, held]
      · simp
      · simp [ForwardTask.arrivals, ForwardTask.atHand, Stage.held, held, Nat.add_assoc]
  | countEvent now found held =>
      refine balanced.move found rfl 1 0 0 ⟨rfl, ?_⟩ ⟨?_, ?_⟩ ⟨?_, rfl⟩ ?_
      · simp [ForwardTask.inTotal, Stage.inTotal, held]
      · exact (UInt64.add_zero _).symm
      · simp [ForwardTask.inAdapter, Stage.inAdapter, held]
      · exact (UInt64.add_zero _).symm
      · simp [ForwardTask.arrivals, ForwardTask.atHand, Stage.held, held]
  | countAdapter now found held =>
      refine balanced.move found rfl 0 1 0 ⟨?_, ?_⟩ ⟨?_, ?_⟩ ⟨?_, rfl⟩ ?_
      · exact (UInt64.add_zero _).symm
      · simp [ForwardTask.inTotal, Stage.inTotal, held]
      · exact Counters.total_count _ _
      · simp [ForwardTask.inAdapter, Stage.inAdapter, held]
      · exact (UInt64.add_zero _).symm
      · simp [ForwardTask.arrivals, ForwardTask.atHand, Stage.held, held]
  | publish now found held =>
      refine balanced.move found rfl 0 0 0 ⟨?_, ?_⟩ ⟨?_, ?_⟩ ⟨?_, rfl⟩ ?_
      · exact (UInt64.add_zero _).symm
      · simp [ForwardTask.inTotal, Stage.inTotal, held]
      · exact (UInt64.add_zero _).symm
      · simp [ForwardTask.inAdapter, Stage.inAdapter, held]
      · exact (UInt64.add_zero _).symm
      · simp [ForwardTask.arrivals, ForwardTask.atHand, Stage.held, held]
        omega

structure Conserved (state : Forwarding Event Fingerprint) : Prop where
  /-- What a task has received is what it is through with and what it has at hand. -/
  received : ∀ (index : Nat) (task : ForwardTask Event), state.tasks[index]? = some task →
    task.received.length = task.settled + task.stage.held.length
  /-- An event that a task is through with was published or suppressed, one of
  these, and once; no other event was. -/
  once : ∀ index position, times state.published state.suppressed index position =
    if position < settledOf state.tasks index then 1 else 0
  /-- Each suppressed event is counted. -/
  counted : state.stats.eventsDeduplicated = UInt64.ofNat state.suppressed.length
  /-- A published event is the one that was received. -/
  faithful : ∀ delivery ∈ state.published, ∃ task, state.tasks[delivery.task]? = some task ∧
    task.received[delivery.position]? = some delivery.event
  /-- The events of one task are published in its order. -/
  ordered : state.published.Pairwise fun earlier later =>
    earlier.task = later.task → earlier.position < later.position
  /-- The books are balanced when no task has an event at hand. -/
  quiescent : (∀ task ∈ state.tasks, task.stage.held = []) →
    state.stats.eventsTotal = UInt64.ofNat state.published.length ∧
      state.stats.perAdapterEvents.total = UInt64.ofNat state.published.length ∧
      state.stats.eventsTotal + state.stats.eventsDeduplicated =
        UInt64.ofNat (tally ForwardTask.arrivals state.tasks)

structure Accounted (state : Forwarding Event Fingerprint) : Prop where
  tagged : Tagged state.tasks state.published state.suppressed
  balanced : Balanced state

omit [DecidableEq Fingerprint] in
theorem accounted_start (dedup : Option (DedupFilter Fingerprint)) :
    Accounted (start dedup : Forwarding Event Fingerprint) where
  tagged := ⟨by simp [start], by simp [start, times, settledOf], by simp [start], .nil⟩
  balanced := ⟨rfl, rfl, rfl, rfl⟩

omit [DecidableEq Fingerprint] in
theorem conserved_of_accounted (accounted : Accounted state) : Conserved state where
  received := by
    intro index task found
    have sound := accounted.tagged.sound index task found
    have length := congrArg List.length sound.2
    rw [List.length_drop] at length
    have inside := sound.1
    omega
  once := accounted.tagged.once
  counted := accounted.balanced.deduplicated
  faithful := accounted.tagged.faithful
  ordered := accounted.tagged.ordered
  quiescent := by
    intro idle
    have balanced := accounted.balanced
    have none : tally ForwardTask.atHand state.tasks = 0 :=
      tally_eq_zero_iff.mpr fun task listed => by simp [ForwardTask.atHand, idle task listed]
    have total := tally_le_tally ForwardTask.inTotal_le state.tasks
    have adapters := tally_le_tally ForwardTask.inAdapter_le state.tasks
    rw [none, Nat.le_zero] at total adapters
    refine ⟨?_, ?_, ?_⟩
    · rw [balanced.total, total, Nat.add_zero]
    · rw [balanced.adapters, adapters, Nat.add_zero]
    · rw [balanced.total, total, Nat.add_zero, balanced.deduplicated, balanced.received, none,
        Nat.add_zero, UInt64.ofNat_add]

/-- No event is lost, forwarded twice or counted twice in any run of any tasks. -/
theorem conserved_throughout (fingerprint : Event → Fingerprint)
    (dedup : Option (DedupFilter Fingerprint)) (actions : List (Action Event)) :
    (machine fingerprint).Throughout Conserved (start dedup) actions :=
  (machine fingerprint).throughout_of_invariant
    (fun _ _ _ (accounted : Accounted _) stepped =>
      ⟨tagged_step accounted.1 stepped, balanced_step accounted.2 stepped⟩)
    (fun _ accounted => conserved_of_accounted accounted)
    actions (accounted_start dedup)

end Forwarding

end Ferroq.Gateway
