import Ferroq.Gateway.Forward
import Ferroq.Gateway.Dedup.Spacing
import Ferroq.Gateway.Persistence

/-!
# From the adapters to the message table

The forwarding tasks publish on the bus, and the persistence task reads it.  The
runtime starts the adapters first: what is published before the persistence task
has subscribed finds no receiver.  Everyone else subscribes later.

Every check of the filter is noted with the place of its event, so that what is
stored can be followed back to the adapters.
-/

namespace Ferroq.Gateway

open Ferroq.Core Ferroq.Library

/-- A check of the filter, with the task that made it and the place of the event
in what the task received. -/
structure Check (Event : Type) where
  task : Nat
  position : Nat
  call : DedupCall Event
  duplicate : Bool

/-- The persistence task, or what it will be started with. -/
inductive Recording (Value : Type) where
  | unstarted (bus : EventBus Value) (store : Storage.MessageStore)
  | running (task : Persistence Value)

namespace Recording

variable {Value : Type}

def publish (value : Value) : Recording Value → Recording Value
  | unstarted bus store => unstarted (bus.publish value) store
  | running task => running { task with bus := task.bus.publish value }

end Recording

structure Pipeline (Event Fingerprint : Type) where
  forwarding : Forwarding Event Fingerprint
  checks : List (Check Event)
  recording : Recording (Delivery Event)
  /-- How many events were published before the persistence task subscribed. -/
  unheard : Nat

namespace Pipeline

variable {Event Fingerprint : Type} [DecidableEq Fingerprint]

def start (slotsFor : Nat → Nat) (dedup : Option (DedupFilter Fingerprint))
    (store : Storage.MessageStore) : Pipeline Event Fingerprint where
  forwarding := .start dedup
  checks := []
  recording := .unstarted (.new slotsFor) store
  unheard := 0

inductive Action (Event : Type) where
  | forward (action : Forwarding.Action Event)
  | startPersistence
  | persist (action : Persistence.Action (Delivery Event))

/-- The check that a step of a forwarding task makes. -/
def checksOf (fingerprint : Event → Fingerprint) (forwarding : Forwarding Event Fingerprint) :
    Forwarding.Action Event → List (Check Event)
  | .forward index now =>
      match forwarding.tasks[index]? with
      | some task =>
          match task.stage with
          | .checking event =>
              [⟨index, task.settled, ⟨event, now⟩,
                (Forwarding.check fingerprint forwarding.dedup event now).1⟩]
          | _ => []
      | none => []
  | .spawn _ | .send _ _ | .close _ => []

def carried (message : Event → Option MessageEvent) (delivery : Delivery Event) :
    Option MessageEvent :=
  message delivery.event

/-- What a step of forwarding has added to its published events. -/
def newlyPublished (before after : Forwarding Event Fingerprint) : List (Delivery Event) :=
  after.published.drop before.published.length

section Step

variable (fingerprint : Event → Fingerprint) (message : Event → Option MessageEvent)
  (serialize : MessageEvent → Option String)

def step (state : Pipeline Event Fingerprint) :
    Action Event → Option (Pipeline Event Fingerprint)
  | .forward action =>
      (Forwarding.step fingerprint state.forwarding action).map fun forwarding =>
        { state with
          forwarding
          checks := state.checks ++ checksOf fingerprint state.forwarding action
          recording :=
            (newlyPublished state.forwarding forwarding).foldl
              (fun recording delivery => recording.publish delivery) state.recording }
  | .startPersistence =>
      match state.recording with
      | .unstarted bus store =>
          some { state with
            recording := .running (.spawn bus store)
            unheard := state.forwarding.published.length }
      | .running _ => none
  | .persist action =>
      match state.recording with
      | .unstarted _ _ => none
      | .running task =>
          if action.bySenders then none
          else
            (Persistence.step (carried message) serialize task action).map
              fun task => { state with recording := .running task }

def machine : Machine (Pipeline Event Fingerprint) (Action Event) :=
  ⟨step fingerprint message serialize⟩

end Step

inductive Moves (fingerprint : Event → Fingerprint) (message : Event → Option MessageEvent)
    (serialize : MessageEvent → Option String) (state : Pipeline Event Fingerprint) :
    Action Event → Pipeline Event Fingerprint → Prop where
  | forward {action : Forwarding.Action Event} {forwarding : Forwarding Event Fingerprint}
      (stepped : (Forwarding.machine fingerprint).step state.forwarding action =
        some forwarding) :
      Moves fingerprint message serialize state (.forward action)
        { state with
          forwarding
          checks := state.checks ++ checksOf fingerprint state.forwarding action
          recording :=
            (newlyPublished state.forwarding forwarding).foldl
              (fun recording delivery => recording.publish delivery) state.recording }
  | startPersistence {bus : EventBus (Delivery Event)} {store : Storage.MessageStore}
      (waiting : state.recording = .unstarted bus store) :
      Moves fingerprint message serialize state .startPersistence
        { state with
          recording := .running (.spawn bus store)
          unheard := state.forwarding.published.length }
  | persist {task next : Persistence (Delivery Event)}
      {action : Persistence.Action (Delivery Event)}
      (running : state.recording = .running task)
      (foreign : action.bySenders = false)
      (stepped : (Persistence.machine (carried message) serialize).step
        task action = some next) :
      Moves fingerprint message serialize state (.persist action)
        { state with recording := .running next }

variable {fingerprint : Event → Fingerprint} {message : Event → Option MessageEvent}
  {serialize : MessageEvent → Option String} {state next : Pipeline Event Fingerprint}
  {action : Action Event}

theorem step_moves
    (stepped : (machine fingerprint message serialize).step state action = some next) :
    Moves fingerprint message serialize state action next := by
  change step fingerprint message serialize state action = some next at stepped
  cases action with
  | forward action =>
      obtain ⟨forwarding, moved, rfl⟩ := Option.map_eq_some_iff.mp stepped
      exact .forward moved
  | startPersistence =>
      simp only [step] at stepped
      split at stepped
      next bus store waiting => exact Option.some.inj stepped ▸ .startPersistence waiting
      next => cases stepped
  | persist action =>
      simp only [step] at stepped
      split at stepped
      next => cases stepped
      next task running =>
        split at stepped
        next => cases stepped
        next foreign =>
          obtain ⟨task, moved, rfl⟩ := Option.map_eq_some_iff.mp stepped
          exact .persist running (Bool.eq_false_iff.mpr foreign) moved

theorem published_moves {before after : Forwarding Event Fingerprint}
    {action : Forwarding.Action Event} (moves : Forwarding.Moves fingerprint before action after) :
    after.published = before.published ∨
      ∃ delivery, after.published = before.published ++ [delivery] := by
  cases moves with
  | publish => exact .inr ⟨_, rfl⟩
  | spawn | send | close | receive | finish | check | suppress | countEvent | countAdapter =>
      exact .inl rfl

/-- The bus carries what was published, and the persistence task takes it from the
start of the bus on. -/
inductive Heard (message : Event → Option MessageEvent)
    (serialize : MessageEvent → Option String) (slots : Nat) (initial : Storage.MessageStore)
    (published : List (Delivery Event)) (unheard : Nat) : Recording (Delivery Event) → Prop where
  | unstarted :
      Heard message serialize slots initial published unheard
        (.unstarted ⟨⟨slots, []⟩, 0⟩ initial)
  | running {task : Persistence (Delivery Event)}
      (kept : Persistence.Kept (carried message) serialize 0 initial task)
      (sized : task.bus.channel.slots = slots)
      (sent : task.bus.channel.sent.Sublist published)
      (before : unheard ≤ published.length)
      (whole : task.aborted = false → task.bus.channel.sent = published.drop unheard) :
      Heard message serialize slots initial published unheard (.running task)

section Heard

variable {slots : Nat} {initial : Storage.MessageStore} {published : List (Delivery Event)}
  {unheard : Nat} {recording : Recording (Delivery Event)}

theorem Heard.publish (heard : Heard message serialize slots initial published unheard recording)
    (delivery : Delivery Event) :
    Heard message serialize slots initial (published ++ [delivery]) unheard
      (recording.publish delivery) := by
  cases heard with
  | unstarted => exact .unstarted
  | @running task kept sized sent before whole =>
      refine .running (Persistence.kept_moves kept (.publish delivery)) ?_ ?_ ?_ ?_
      · rw [← sized]
        exact EventBus.publish_slots delivery
      · dsimp only [EventBus.publish]
        split
        next => exact sent.trans (List.sublist_append_left _ _)
        next => exact sent.append (List.Sublist.refl _)
      · rw [List.length_append]
        omega
      · intro alive
        have subscribed := kept.subscribed
        rw [Persistence.own, if_neg (by simpa using alive)] at subscribed
        rw [EventBus.publish_channel delivery (by omega), List.drop_append_of_le_length before,
          ← whole alive]
        rfl

/-- The task subscribes before anyone else does, so that its place is the first one. -/
theorem Heard.start {bus : EventBus (Delivery Event)} {store : Storage.MessageStore}
    (heard : Heard message serialize slots initial published unheard (.unstarted bus store)) :
    Heard message serialize slots initial published published.length
      (.running (.spawn bus store)) := by
  cases heard with
  | unstarted =>
      have kept : Persistence.Kept (carried message) serialize 0 initial
          (.spawn ⟨⟨slots, []⟩, 0⟩ initial) :=
        Persistence.kept_spawn ⟨⟨slots, []⟩, 0⟩ initial
      refine .running kept rfl ?_ (Nat.le_refl _) ?_
      · exact List.nil_sublist published
      · intro _
        rw [List.drop_length]
        rfl

theorem Heard.persist {task after : Persistence (Delivery Event)}
    {action : Persistence.Action (Delivery Event)}
    (heard : Heard message serialize slots initial published unheard (.running task))
    (foreign : action.bySenders = false)
    (moves : Persistence.Moves (carried message) serialize task action
      after) :
    Heard message serialize slots initial published unheard (.running after) := by
  cases heard with
  | running kept sized sent before whole =>
      obtain ⟨same, alive⟩ := Persistence.channel_moves foreign moves
      refine .running (Persistence.kept_moves kept moves) ?_ ?_ before ?_
      · rw [same, sized]
      · rwa [same]
      · intro still
        rw [same, whole (alive still)]

end Heard

/-- The events that a task has passed by the filter and not yet published. -/
def passed (stage : Stage Event) : List Event :=
  match stage with
  | .fresh event | .counted event | .recorded event => [event]
  | _ => []

/-- The event at a place of a task was checked, and accepted. -/
def Accepted (checks : List (Check Event)) (task position : Nat) (event : Event) : Prop :=
  ∃ check ∈ checks, check.task = task ∧ check.position = position ∧
    check.call.event = event ∧ check.duplicate = false

theorem Accepted.later {checks : List (Check Event)} {task position : Nat} {event : Event}
    (accepted : Accepted checks task position event) (more : List (Check Event)) :
    Accepted (checks ++ more) task position event := by
  obtain ⟨check, listed, same⟩ := accepted
  exact ⟨check, List.mem_append_left more listed, same⟩

/-- The log of checks is what the filter was asked and has answered, and whatever
goes past the filter is in it. -/
structure Logged (fingerprint : Event → Fingerprint)
    (initial : Option (DedupFilter Fingerprint)) (checks : List (Check Event))
    (forwarding : Forwarding Event Fingerprint) : Prop where
  filter : forwarding.dedup = initial.map fun filter =>
    (filter.checkAll fingerprint (checks.map Check.call)).2
  answers : ∀ filter, initial = some filter → ∀ before check after,
    checks = before ++ check :: after →
      check.duplicate = filter.verdict fingerprint (before.map Check.call) check.call
  published : ∀ delivery ∈ forwarding.published,
    Accepted checks delivery.task delivery.position delivery.event
  passing : ∀ (index : Nat) (task : ForwardTask Event), forwarding.tasks[index]? = some task →
    ∀ event ∈ passed task.stage, Accepted checks index task.settled event

section Logged

variable {initial : Option (DedupFilter Fingerprint)} {checks : List (Check Event)}
  {forwarding after : Forwarding Event Fingerprint}

theorem checksOf_of_not_checking {index : Nat} {task : ForwardTask Event} (now : Nat)
    (found : forwarding.tasks[index]? = some task)
    (elsewhere : ∀ event, task.stage ≠ .checking event) :
    checksOf fingerprint forwarding (.forward index now) = [] := by
  simp only [checksOf, found]

/-- A step that checks nothing leaves the log, and has to say of one task where its
accepted events come from. -/
theorem Logged.replace (logged : Logged fingerprint initial checks forwarding)
    {index : Nat} {changed : ForwardTask Event}
    (filter : after.dedup = forwarding.dedup)
    (moved : after.tasks = forwarding.tasks.set index changed)
    (published : ∀ delivery ∈ after.published,
      Accepted checks delivery.task delivery.position delivery.event)
    (passing : ∀ event ∈ passed changed.stage, Accepted checks index changed.settled event) :
    Logged fingerprint initial checks after where
  filter := filter.trans logged.filter
  answers := logged.answers
  published := published
  passing := by
    intro other task found event listed
    rw [moved, List.getElem?_set] at found
    split at found
    next same =>
      split at found
      next =>
        cases found
        exact same ▸ passing event listed
      next => cases found
    next => exact logged.passing other task found event listed

theorem Logged.check (logged : Logged fingerprint initial checks forwarding)
    {index now : Nat} {task : ForwardTask Event} {event : Event}
    (moved : after = { forwarding with
      dedup := (Forwarding.check fingerprint forwarding.dedup event now).2
      tasks := forwarding.tasks.set index { task with
        stage :=
          if (Forwarding.check fingerprint forwarding.dedup event now).1 then .duplicate event
          else .fresh event } }) :
    Logged fingerprint initial
      (checks ++ [⟨index, task.settled, ⟨event, now⟩,
        (Forwarding.check fingerprint forwarding.dedup event now).1⟩]) after where
  filter := by
    rw [moved]
    cases initial with
    | none =>
        have off : forwarding.dedup = none := logged.filter
        rw [off]
        rfl
    | some filter =>
        have on : forwarding.dedup =
          some (filter.checkAll fingerprint (checks.map Check.call)).2 := logged.filter
        rw [on, List.map_append]
        exact (congrArg some
          (DedupFilter.checkAll_concat (checks.map Check.call) ⟨event, now⟩)).symm
  answers := by
    intro filter on before check later parts
    rcases List.eq_nil_or_concat later with rfl | ⟨others, last, rfl⟩
    · obtain ⟨rfl, same⟩ := List.append_inj' parts rfl
      cases same
      have state : forwarding.dedup =
          some (filter.checkAll fingerprint (checks.map Check.call)).2 := by
        rw [logged.filter, on]
        rfl
      simp only [state, Forwarding.check, DedupFilter.verdict]
    · rw [List.concat_eq_append, ← List.cons_append, ← List.append_assoc] at parts
      exact logged.answers filter on before check others (List.append_inj' parts rfl).1
  published := by
    intro delivery listed
    rw [moved] at listed
    exact (logged.published delivery listed).later _
  passing := by
    intro other here found accepted listed
    rw [moved, List.getElem?_set] at found
    split at found
    next same =>
      split at found
      next =>
        cases found
        subst same
        dsimp only at listed
        split at listed
        next => simp [passed] at listed
        next fresh =>
          rw [passed, List.mem_singleton] at listed
          refine ⟨_, List.mem_append_right _ (List.mem_singleton.mpr rfl), rfl, rfl,
            listed.symm, ?_⟩
          exact Bool.eq_false_iff.mpr fresh
      next => cases found
    next => exact (logged.passing other here found accepted listed).later _

theorem logged_step {action : Forwarding.Action Event}
    (logged : Logged fingerprint initial checks forwarding)
    (moves : Forwarding.Moves fingerprint forwarding action after) :
    Logged fingerprint initial (checks ++ checksOf fingerprint forwarding action) after := by
  cases moves with
  | spawn adapterName =>
      rw [checksOf, List.append_nil]
      refine ⟨logged.filter, logged.answers, logged.published, ?_⟩
      intro index task found event listed
      rcases getElem?_append_cases found with old | ⟨-, new⟩
      · exact logged.passing index task old event listed
      · obtain ⟨-, rfl⟩ : index - forwarding.tasks.length = 0 ∧ _ = task := by
          simpa [List.getElem?_singleton] using new
        simp [passed] at listed
  | @send index task event found =>
      rw [checksOf, List.append_nil]
      exact logged.replace rfl rfl logged.published (logged.passing index task found)
  | @close index task found =>
      rw [checksOf, List.append_nil]
      exact logged.replace rfl rfl logged.published (logged.passing index task found)
  | @check index task event now found held =>
      have logs : checksOf fingerprint forwarding (.forward index now) =
          [⟨index, task.settled, ⟨event, now⟩,
            (Forwarding.check fingerprint forwarding.dedup event now).1⟩] := by
        simp [checksOf, found, held]
      rw [logs]
      exact logged.check rfl
  | @receive index task event channel now found idle waiting =>
      rw [checksOf_of_not_checking now found (by simp [idle]), List.append_nil]
      exact logged.replace rfl rfl logged.published (by simp [passed])
  | @finish index task now found idle =>
      rw [checksOf_of_not_checking now found (by simp [idle]), List.append_nil]
      exact logged.replace rfl rfl logged.published (by simp [passed])
  | @suppress index task event now found held =>
      rw [checksOf_of_not_checking now found (by simp [held]), List.append_nil]
      exact logged.replace rfl rfl logged.published (by simp [passed])
  | @countEvent index task event now found held =>
      have passing := logged.passing index task found
      rw [held] at passing
      rw [checksOf_of_not_checking now found (by simp [held]), List.append_nil]
      exact logged.replace rfl rfl logged.published passing
  | @countAdapter index task event now found held =>
      have passing := logged.passing index task found
      rw [held] at passing
      rw [checksOf_of_not_checking now found (by simp [held]), List.append_nil]
      exact logged.replace rfl rfl logged.published passing
  | @publish index task event now found held =>
      have passing := logged.passing index task found
      rw [held] at passing
      rw [checksOf_of_not_checking now found (by simp [held]), List.append_nil]
      exact logged.replace rfl rfl
        (forall_mem_concat logged.published (passing event (by simp [passed]))) (by simp [passed])

end Logged

/-- The invariant of the whole way. -/
structure Piped (fingerprint : Event → Fingerprint) (message : Event → Option MessageEvent)
    (serialize : MessageEvent → Option String) (slots : Nat)
    (dedup : Option (DedupFilter Fingerprint)) (initial : Storage.MessageStore)
    (state : Pipeline Event Fingerprint) : Prop where
  accounted : Forwarding.Accounted state.forwarding
  logged : Logged fingerprint dedup state.checks state.forwarding
  heard : Heard message serialize slots initial state.forwarding.published state.unheard
    state.recording

section Piped

variable {dedup : Option (DedupFilter Fingerprint)} {initial : Storage.MessageStore}
  {slots : Nat}

theorem piped_start (fingerprint : Event → Fingerprint) (message : Event → Option MessageEvent)
    (serialize : MessageEvent → Option String) (slotsFor : Nat → Nat)
    (dedup : Option (DedupFilter Fingerprint)) (initial : Storage.MessageStore) :
    Piped fingerprint message serialize (slotsFor EventBus.defaultCapacity) dedup initial
      (start slotsFor dedup initial) where
  accounted := Forwarding.accounted_start dedup
  logged := by
    refine ⟨?_, by simp [start], by simp [start, Forwarding.start],
      by simp [start, Forwarding.start]⟩
    cases dedup <;> rfl
  heard := .unstarted

theorem Heard.forward {before after : Forwarding Event Fingerprint}
    {action : Forwarding.Action Event} {unheard : Nat} {recording : Recording (Delivery Event)}
    (heard : Heard message serialize slots initial before.published unheard recording)
    (moves : Forwarding.Moves fingerprint before action after) :
    Heard message serialize slots initial after.published unheard
      ((newlyPublished before after).foldl
        (fun recording delivery => recording.publish delivery) recording) := by
  unfold newlyPublished
  rcases published_moves moves with same | ⟨delivery, one⟩
  · rw [same, List.drop_length]
    exact heard
  · rw [one, List.drop_left]
    exact heard.publish delivery

theorem piped_step (piped : Piped fingerprint message serialize slots dedup initial state)
    (stepped : (machine fingerprint message serialize).step state action = some next) :
    Piped fingerprint message serialize slots dedup initial next := by
  cases step_moves stepped with
  | forward moved =>
      have moves := Forwarding.step_moves moved
      constructor
      · exact ⟨Forwarding.tagged_step piped.accounted.tagged moved,
          Forwarding.balanced_step piped.accounted.balanced moved⟩
      · exact logged_step piped.logged moves
      · exact piped.heard.forward moves
  | startPersistence waiting =>
      have heard := piped.heard
      rw [waiting] at heard
      exact ⟨piped.accounted, piped.logged, heard.start⟩
  | persist running foreign moved =>
      have heard := piped.heard
      rw [running] at heard
      exact ⟨piped.accounted, piped.logged, heard.persist foreign (Persistence.step_moves moved)⟩

end Piped

/-- The stored messages with what was published for them. -/
def origins (fates : List Fate) (taken : List (Option (Delivery Event))) :
    List (Delivery Event × Storage.Entry) :=
  (fates.zip taken).filterMap fun
    | (.stored entry, some delivery) => some (delivery, entry)
    | _ => none

section Origins

variable {taken : List (Option (Delivery Event))} {fates : List Fate}

theorem origins_of_fits (fits : List.Forall₂ (Persistence.Fits (carried message)) taken fates) :
    (origins fates taken).map Prod.snd = Persistence.entriesOf fates ∧
      ((origins fates taken).map Prod.fst).Sublist taken.reduceOption ∧
      ∀ origin ∈ origins fates taken, message origin.1.event = some origin.2.event := by
  induction fits with
  | nil => exact ⟨rfl, List.Sublist.refl [], by simp [origins]⟩
  | @cons item fate _ _ fit _ inductionHypothesis =>
      obtain ⟨entries, deliveries, carries⟩ := inductionHypothesis
      cases fit with
      | missed => exact ⟨entries, deliveries, carries⟩
      | passedOver | failed => exact ⟨entries, deliveries.cons _, carries⟩
      | @stored delivery entry carried =>
          refine ⟨congrArg (entry :: ·) entries, deliveries.cons_cons delivery, ?_⟩
          intro origin listed
          rcases List.mem_cons.mp listed with rfl | later
          · exact carried
          · exact carries origin later

theorem origins_append (sameLength : taken.length = fates.length)
    (more : List (Option (Delivery Event))) :
    origins fates (taken ++ more) = origins fates taken := by
  have joined : (fates ++ []).zip (taken ++ more) = fates.zip taken ++ [].zip more :=
    List.zip_append sameLength.symm
  rw [List.append_nil, List.zip_nil_left, List.append_nil] at joined
  rw [origins, joined, origins]

end Origins

structure Delivered (message : Event → Option MessageEvent)
    (serialize : MessageEvent → Option String) (initial : Storage.MessageStore)
    (state : Pipeline Event Fingerprint) (task : Persistence (Delivery Event)) : Prop where
  /-- The rows of the table are those of the stored messages, in their order, but for
  what has expired. -/
  ledger : Persistence.Ledger serialize initial task.cleanups
    ((origins task.fates task.receiver.taken).map Prod.snd) task.store
  /-- A stored message was received by a forwarding task. -/
  received : ∀ origin ∈ origins task.fates task.receiver.taken,
    message origin.1.event = some origin.2.event ∧
      ∃ source, state.forwarding.tasks[origin.1.task]? = some source ∧
        source.received[origin.1.position]? = some origin.1.event
  /-- No event that was received is stored twice, and the messages of an adapter are
  stored in its order. -/
  ordered : (origins task.fates task.receiver.taken).Pairwise fun earlier later =>
    earlier.1.task = later.1.task → earlier.1.position < later.1.position
  /-- Once the persistence task has caught up, every event that a forwarding task is
  through with was suppressed, or published too early, or settled. -/
  complete : task.aborted = false → task.stage = .receiving →
    task.bus.channel.recv task.receiver = none →
    ∀ index position, position < Forwarding.settledOf state.forwarding.tasks index →
      (index, position) ∈ state.forwarding.suppressed ∨
      (∃ delivery ∈ state.forwarding.published.take state.unheard,
        delivery.task = index ∧ delivery.position = position) ∨
      ∃ (place : Nat) (delivery : Delivery Event) (fate : Fate),
        task.bus.channel.sent[place]? = some delivery ∧ delivery.task = index ∧
          delivery.position = position ∧ task.fates[place]? = some fate ∧
          Persistence.Settled (carried message) task.bus.channel place fate

section Delivered

variable {dedup : Option (DedupFilter Fingerprint)} {initial : Storage.MessageStore}
  {slots : Nat} {task : Persistence (Delivery Event)}

/-- The stored messages are those of some events on the bus, in its order. -/
theorem origins_of_heard {published : List (Delivery Event)} {unheard : Nat}
    (heard : Heard message serialize slots initial published unheard (.running task)) :
    (origins task.fates task.receiver.taken).map Prod.snd =
        Persistence.entriesOf task.fates ∧
      ((origins task.fates task.receiver.taken).map Prod.fst).Sublist published ∧
      ∀ origin ∈ origins task.fates task.receiver.taken,
        message origin.1.event = some origin.2.event := by
  cases heard with
  | running kept sized sent before whole =>
      obtain ⟨⟨handled, taken, fits⟩, -⟩ := kept.aligned
      obtain ⟨entries, deliveries, carries⟩ := origins_of_fits fits
      have got := kept.sound.sublist
      rw [kept.since, List.drop_zero, taken, List.reduceOption_append] at got
      rw [taken, origins_append fits.length_eq]
      refine ⟨entries, ?_, carries⟩
      exact deliveries.trans (((List.sublist_append_left _ _).trans got).trans sent)

theorem delivered_of_piped
    (piped : Piped fingerprint message serialize slots dedup initial state)
    (running : state.recording = .running task) :
    Delivered message serialize initial state task := by
  have heard := piped.heard
  rw [running] at heard
  obtain ⟨entries, deliveries, carries⟩ := origins_of_heard heard
  have tagged := piped.accounted.tagged
  cases heard with
  | running kept sized sent before whole =>
      refine ⟨entries ▸ kept.ledger, ?_, ?_, ?_⟩
      · intro origin listed
        refine ⟨carries origin listed, tagged.faithful origin.1 ?_⟩
        exact deliveries.subset (List.mem_map_of_mem listed)
      · exact List.pairwise_map.mp (tagged.ordered.sublist deliveries)
      · intro alive idle waits index position through
        have persisted := Persistence.persisted_of_kept kept
        have caughtUp := persisted.waiting idle waits
        rw [Nat.zero_add] at caughtUp
        have once := tagged.once index position
        rw [if_pos through] at once
        by_cases dropped : (index, position) ∈ state.forwarding.suppressed
        · exact .inl dropped
        · rw [Forwarding.times, List.count_eq_zero.mpr dropped, Nat.add_zero] at once
          obtain ⟨delivery, listed, same⟩ :=
            List.countP_pos_iff.mp (Nat.lt_of_lt_of_eq Nat.zero_lt_one once.symm)
          have same := of_decide_eq_true same
          rw [← List.take_append_drop state.unheard state.forwarding.published,
            List.mem_append] at listed
          rcases listed with early | heard
          · exact .inr (.inl ⟨delivery, early, same⟩)
          · rw [← whole alive] at heard
            obtain ⟨place, here⟩ := List.getElem?_of_mem heard
            have bound := (List.getElem?_eq_some_iff.mp here).1
            have fate : task.fates[place]? = some task.fates[place] :=
              List.getElem?_eq_getElem (caughtUp ▸ bound)
            have settled := persisted.settled place _ fate
            rw [Nat.zero_add] at settled
            exact .inr (.inr ⟨place, delivery, _, here, same.1, same.2, fate, settled⟩)

/-- From the adapters to the message table, whatever the interleaving of the
forwarding tasks, the persistence task and the cleanups. -/
theorem delivered_throughout (fingerprint : Event → Fingerprint)
    (message : Event → Option MessageEvent) (serialize : MessageEvent → Option String)
    (slotsFor : Nat → Nat) (dedup : Option (DedupFilter Fingerprint))
    (initial : Storage.MessageStore) (actions : List (Action Event)) :
    (machine fingerprint message serialize).Throughout
      (fun state => ∀ task, state.recording = .running task →
        Delivered message serialize initial state task)
      (start slotsFor dedup initial) actions :=
  (machine fingerprint message serialize).throughout_of_invariant
    (fun _ _ _ piped stepped => piped_step piped stepped)
    (fun _ piped _ running => delivered_of_piped piped running)
    actions (piped_start fingerprint message serialize slotsFor dedup initial)

end Delivered

end Pipeline

end Ferroq.Gateway
