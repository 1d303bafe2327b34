import Ferroq.Gateway.Forward
import Ferroq.Gateway.PluginEngine.Engine

/-!
# The plugin chain and the bus

The documented place of the plugin chain is between the filter and the bus: the
engine processes every event that the filter lets through, once, before it is
published.  The forwarding tasks do not call it.  Below the chain is run beside
them, whenever its turn comes, with the plugins as they are then, and its verdict
on the event is kept; an event reaches the bus as the chain leaves it exactly when
the verdict leaves it unchanged.
-/

namespace Ferroq.Gateway

open Ferroq.Library

variable {Memory Event Fingerprint : Type}

namespace Forwarding

open PluginEngine

/-- An event that is through the filter and not on the bus yet, with its place. -/
def passed (state : Forwarding Event Fingerprint) (index : Nat) : Option ((Nat × Nat) × Event) :=
  match state.tasks[index]? with
  | some task =>
      match task.stage with
      | .fresh event | .counted event | .recorded event => some ((index, task.settled), event)
      | _ => none
  | none => none

/-- The event that a step puts on the bus, with its place. -/
def due (state : Forwarding Event Fingerprint) : Action Event → Option ((Nat × Nat) × Event)
  | .forward index _ =>
      match state.tasks[index]? with
      | some task =>
          match task.stage with
          | .recorded event => some ((index, task.settled), event)
          | _ => none
      | none => none
  | _ => none

theorem passed_of_due {state : Forwarding Event Fingerprint} {action : Action Event}
    {found : (Nat × Nat) × Event} (publishes : due state action = some found) :
    ∃ index, passed state index = some found := by
  cases action with
  | spawn | send | close => cases publishes
  | forward index now =>
      refine ⟨index, ?_⟩
      simp only [due] at publishes
      split at publishes
      next position =>
        split at publishes
        next recorded => simpa [passed, position, recorded] using publishes
        next => cases publishes
      next => cases publishes

theorem published_step [DecidableEq Fingerprint] {fingerprint : Event → Fingerprint}
    {state next : Forwarding Event Fingerprint} {action : Action Event}
    (stepped : step fingerprint state action = some next) :
    next.published = state.published ++
      (due state action).toList.map fun found => ⟨found.1.1, found.1.2, found.2⟩ := by
  cases step_moves stepped with
  | spawn | send | close => simp [due]
  | receive now found idle | finish now found idle => simp [due, found, idle]
  | check now found held | suppress now found held | countEvent now found held
  | countAdapter now found held | publish now found held => simp [due, found, held]

end Forwarding

/-- What the chain has returned for an event, and the event as it left it. -/
structure Verdict (Event : Type) where
  result : PluginResult
  event : Event

/-- The forwarding tasks and the plugin engine, with the verdicts on the events by
the places of the events. -/
structure Screening (Memory Event Fingerprint : Type) where
  forwarding : Forwarding Event Fingerprint
  plugins : List (WasmPlugin Memory)
  verdicts : Table (Nat × Nat) (Verdict Event)

namespace Screening

open Forwarding (passed due)
open PluginEngine (Files processEvent)

/-- A step of a forwarding task or its adapter, a use of the engine beside them, or
the processing of the event that a task has at hand. -/
inductive Action (Event : Type) where
  | forwarding (action : Forwarding.Action Event)
  | engine (action : PluginEngine.Action Event)
  | process (task : Nat)

def start (dedup : Option (DedupFilter Fingerprint)) (plugins : List (WasmPlugin Memory)) :
    Screening Memory Event Fingerprint :=
  { forwarding := .start dedup, plugins := plugins, verdicts := .empty }

/-- Run the chain on an event, and keep the verdict. -/
def process (codecs : Codecs Event) (state : Screening Memory Event Fingerprint)
    (place : Nat × Nat) (event : Event) : Screening Memory Event Fingerprint :=
  let chain := processEvent codecs.event state.plugins event
  { state with
    plugins := chain.plugins
    verdicts := state.verdicts.insert place ⟨chain.result, chain.event⟩ }

variable [DecidableEq Fingerprint]

/-- No event is published before the chain has processed it. -/
def step (fingerprint : Event → Fingerprint) (files : Files Memory) (codecs : Codecs Event)
    (state : Screening Memory Event Fingerprint) :
    Action Event → Option (Screening Memory Event Fingerprint)
  | .forwarding action =>
      if (due state.forwarding action).all fun found => state.verdicts.contains found.1 then
        (Forwarding.step fingerprint state.forwarding action).map fun forwarding =>
          { state with forwarding := forwarding }
      else none
  | .engine action =>
      some { state with plugins := PluginEngine.step files codecs state.plugins action }
  | .process index =>
      match passed state.forwarding index with
      | some (place, event) =>
          if state.verdicts.contains place then none
          else some (state.process codecs place event)
      | none => none

def machine (fingerprint : Event → Fingerprint) (files : Files Memory) (codecs : Codecs Event) :
    Machine (Screening Memory Event Fingerprint) (Action Event) :=
  ⟨step fingerprint files codecs⟩

/-- What is on the bus are events that the chain lets through, as it left them; of
those that it handles or drops there is nothing. -/
def ChainRespected (state : Screening Memory Event Fingerprint) : Prop :=
  ∀ delivery ∈ state.forwarding.published,
    ∃ verdict, state.verdicts.get (delivery.task, delivery.position) = some verdict ∧
      verdict.result = .continue ∧ verdict.event = delivery.event

/-- An event that is about to be published has been let through unchanged. -/
def ReleasedUnchanged (state : Screening Memory Event Fingerprint) : Action Event → Prop
  | .forwarding action =>
      ∀ place event, due state.forwarding action = some (place, event) →
        state.verdicts.get place = some ⟨.continue, event⟩
  | _ => True

variable {fingerprint : Event → Fingerprint} {files : Files Memory} {codecs : Codecs Event}
  {state next : Screening Memory Event Fingerprint} {action : Action Event}

/-- A step puts nothing on the bus that the chain has not let through so exactly when
it publishes no event but one that was let through unchanged. -/
theorem chainRespected_step (respected : ChainRespected state)
    (stepped : step fingerprint files codecs state action = some next) :
    ChainRespected next ↔ ReleasedUnchanged state action := by
  cases action with
  | forwarding action =>
      simp only [step] at stepped
      split at stepped
      next screened =>
        obtain ⟨forwarding, moved, rfl⟩ := Option.map_eq_some_iff.mp stepped
        have published := Forwarding.published_step moved
        simp only [ChainRespected, ReleasedUnchanged, published]
        cases publishes : due state.forwarding action with
        | none => simpa [ChainRespected] using respected
        | some found =>
            obtain ⟨place, event⟩ := found
            constructor
            · intro held other seen same
              cases same
              obtain ⟨⟨_, _⟩, given, rfl, rfl⟩ := held ⟨place.1, place.2, event⟩ (by simp)
              exact given
            · intro released
              exact forall_mem_concat respected
                ⟨_, released place event rfl, rfl, rfl⟩
      next => cases stepped
  | engine action =>
      cases stepped
      exact iff_of_true respected True.intro
  | process index =>
      simp only [step] at stepped
      split at stepped
      next place event found =>
        split at stepped
        next => cases stepped
        next fresh =>
          cases stepped
          refine iff_of_true ?_ True.intro
          -- The verdict is on an event that is not on the bus.
          intro delivery listed
          obtain ⟨verdict, given, result, left⟩ := respected delivery listed
          refine ⟨verdict, ?_, result, left⟩
          have elsewhere : (delivery.task, delivery.position) ≠ place := by
            rintro rfl
            simp [given] at fresh
          exact (Table.get_insert_of_ne _ _ elsewhere).trans given
      next => cases stepped

/-- The bus follows the plugin chain throughout a run exactly when every event
that is published is one that the chain has let through unchanged. -/
theorem chainRespected_throughout_iff (fingerprint : Event → Fingerprint) (files : Files Memory)
    (codecs : Codecs Event) (dedup : Option (DedupFilter Fingerprint))
    (plugins : List (WasmPlugin Memory)) (actions : List (Action Event)) :
    (machine fingerprint files codecs).Throughout ChainRespected (start dedup plugins) actions ↔
      (machine fingerprint files codecs).Admits ReleasedUnchanged (start dedup plugins)
        actions :=
  (machine fingerprint files codecs).throughout_iff_admits
    (fun _ _ _ (_ : True) _ _ => True.intro)
    (fun _ _ _ _ respected stepped => chainRespected_step respected stepped)
    actions True.intro (by simp [ChainRespected, start, Forwarding.start])

/-! ## The tasks alone -/

theorem forwarding_step (stepped : step fingerprint files codecs state action = some next) :
    next.forwarding = state.forwarding ∨
      ∃ other, Forwarding.step fingerprint state.forwarding other = some next.forwarding := by
  cases action with
  | forwarding action =>
      simp only [step] at stepped
      split at stepped
      next =>
        obtain ⟨forwarding, moved, rfl⟩ := Option.map_eq_some_iff.mp stepped
        exact .inr ⟨action, moved⟩
      next => cases stepped
  | engine action =>
      cases stepped
      exact .inl rfl
  | process index =>
      simp only [step] at stepped
      split at stepped
      next =>
        split at stepped
        next => cases stepped
        next =>
          cases stepped
          exact .inl rfl
      next => cases stepped

theorem exists_ready (fingerprint : Event → Fingerprint) (files : Files Memory)
    (codecs : Codecs Event) (state : Screening Memory Event Fingerprint)
    (action : Forwarding.Action Event) :
    ∃ actions ready, (machine fingerprint files codecs).run state actions = some ready ∧
      ready.forwarding = state.forwarding ∧
      ((due state.forwarding action).all fun found => ready.verdicts.contains found.1) = true := by
  cases publishes : due state.forwarding action with
  | none => exact ⟨[], state, rfl, rfl, rfl⟩
  | some found =>
      obtain ⟨index, passes⟩ := Forwarding.passed_of_due publishes
      by_cases processed : state.verdicts.contains found.1
      · exact ⟨[], state, rfl, rfl, by simp [processed]⟩
      · refine ⟨[.process index], state.process codecs found.1 found.2, ?_, rfl, ?_⟩
        · simp [Machine.run, machine, step, passes, processed]
        · simp [Table.contains, process]

theorem exists_run_of_forwarding {final : Forwarding Event Fingerprint}
    {others : List (Forwarding.Action Event)}
    (reached : (Forwarding.machine fingerprint).run state.forwarding others = some final) :
    ∃ actions last, (machine fingerprint files codecs).run state actions = some last ∧
      last.forwarding = final := by
  induction others generalizing state with
  | nil =>
      cases reached
      exact ⟨[], state, rfl, rfl⟩
  | cons other rest inductionHypothesis =>
      obtain ⟨moved, stepped, later⟩ := (Forwarding.machine fingerprint).run_cons_eq_some.mp reached
      obtain ⟨before, ready, prepared, same, screened⟩ :=
        exists_ready fingerprint files codecs state other
      have taken : (machine fingerprint files codecs).step ready (.forwarding other) =
          some { ready with forwarding := moved } := by
        change step fingerprint files codecs ready (.forwarding other) = _
        rw [step, same, if_pos screened]
        exact Option.map_eq_some_iff.mpr ⟨moved, stepped, rfl⟩
      have continued : ∃ actions last, (machine fingerprint files codecs).run
          { ready with forwarding := moved } actions = some last ∧ last.forwarding = final :=
        inductionHypothesis later
      obtain ⟨after, last, ran, same⟩ := continued
      refine ⟨before ++ .forwarding other :: after, last, ?_, same⟩
      apply (machine fingerprint files codecs).run_append prepared
      exact (machine fingerprint files codecs).run_cons_eq_some.mpr ⟨_, taken, ran⟩

/-- Beside the engine the tasks do what they do alone: the chain waits for nothing,
and nothing waits for the chain that it could not process. -/
theorem run_forwarding_iff (fingerprint : Event → Fingerprint) (files : Files Memory)
    (codecs : Codecs Event) (state : Screening Memory Event Fingerprint)
    (final : Forwarding Event Fingerprint) :
    (∃ actions last, (machine fingerprint files codecs).run state actions = some last ∧
        last.forwarding = final) ↔
      ∃ others, (Forwarding.machine fingerprint).run state.forwarding others = some final := by
  constructor
  · rintro ⟨actions, last, reached, rfl⟩
    exact (machine fingerprint files codecs).exists_run_of_view
      (fun _ _ _ (_ : True) _ => True.intro) (fun _ _ _ _ stepped => forwarding_step stepped)
      True.intro reached
  · rintro ⟨others, reached⟩
    exact exists_run_of_forwarding reached

section Dropped

/-- A plugin that drops every event but the first one of its memory. -/
def droppingGuest : Guest Nat :=
  { trappingGuest with
    onEvent := some (.ok fun _ _ calls => ⟨calls + 1, [], .ok (if calls = 0 then 0 else 2)⟩) }

/-- An adapter's event, from the channel to the bus; the chain processes it on its way. -/
def deliver (event : Nat) : List (Action Nat) :=
  [.forwarding (.send 0 event), .forwarding (.forward 0 0), .forwarding (.forward 0 0),
    .process 0, .forwarding (.forward 0 0), .forwarding (.forward 0 0),
    .forwarding (.forward 0 0)]

def noFiles : Files Nat :=
  { exist := fun _ => false
    instantiate := fun _ => .error "no such file"
    fromSlice := infoFromSlice }

/-- The second event of an adapter, which a loaded plugin drops, is on the bus all
the same. -/
theorem droppedEvent_published :
    ∃ plugin final,
      WasmPlugin.load infoFromSlice droppingGuest pluginConfig 0 = .ok plugin ∧
      (machine (id : Nat → Nat) noFiles byteCodecs).run (start none [plugin])
        (.forwarding (.spawn "qq") :: deliver 3 ++ deliver 4) = some final ∧
      final.verdicts.get (0, 0) = some ⟨.continue, 3⟩ ∧
      final.verdicts.get (0, 1) = some ⟨.drop, 4⟩ ∧
      final.forwarding.published.map Delivery.event = [3, 4] ∧
      ¬ ChainRespected final := by
  refine ⟨_, _, rfl, rfl, rfl, rfl, rfl, ?_⟩
  intro respected
  obtain ⟨verdict, given, result, _⟩ :=
    respected ⟨0, 1, 4⟩ (List.mem_cons_of_mem _ (List.mem_singleton_self _))
  cases given
  cases result

end Dropped

end Screening

end Ferroq.Gateway
