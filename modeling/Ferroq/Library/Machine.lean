import Mathlib.Data.List.Basic

/-!
# Machines and their runs

A machine's nondeterminism is carried by its actions, so that a schedule is a
list of actions and an interleaving is one such list.  The rules below derive
facts about whole runs from facts about one step.
-/

namespace Ferroq.Library

universe u v

/-- A transition system whose steps are selected by actions.  An action that
is not enabled in a state has no successor. -/
structure Machine (State : Type u) (Action : Type v) where
  step : State → Action → Option State

namespace Machine

variable {State : Type u} {Action : Type v} (machine : Machine State Action)

/-- Execute a schedule; `none` when some action of it is not enabled. -/
def run : State → List Action → Option State
  | state, [] => some state
  | state, action :: rest =>
      (machine.step state action).bind fun next => run next rest

/-- A property holds in every state the schedule passes through. -/
def Throughout (property : State → Prop) : State → List Action → Prop
  | state, [] => property state
  | state, action :: rest =>
      property state ∧
        ∀ next ∈ machine.step state action, Throughout property next rest

/-- Every step the schedule takes meets a condition on the state before it. -/
def Admits (condition : State → Action → Prop) : State → List Action → Prop
  | _, [] => True
  | state, action :: rest =>
      ∀ next ∈ machine.step state action,
        condition state action ∧ Admits condition next rest

instance decidableAdmits
    (condition : State → Action → Prop) [∀ state action, Decidable (condition state action)] :
    (state : State) → (actions : List Action) →
      Decidable (machine.Admits condition state actions)
  | _, [] => inferInstanceAs (Decidable True)
  | state, action :: rest =>
      have := fun next => decidableAdmits condition next rest
      inferInstanceAs (Decidable (∀ next ∈ machine.step state action,
        condition state action ∧ machine.Admits condition next rest))

theorem run_cons_eq_some
    {state final : State} {action : Action} {rest : List Action} :
    machine.run state (action :: rest) = some final ↔
      ∃ next, machine.step state action = some next ∧
        machine.run next rest = some final := by
  simp [run, Option.bind_eq_some_iff]

theorem run_of_admits
    {invariant : State → Prop} {condition : State → Action → Prop}
    (preserved : ∀ state action next, invariant state → condition state action →
      machine.step state action = some next → invariant next)
    {state final : State} {actions : List Action} (start : invariant state)
    (admitted : machine.Admits condition state actions)
    (reached : machine.run state actions = some final) :
    invariant final := by
  induction actions generalizing state with
  | nil =>
      cases reached
      exact start
  | cons action rest inductionHypothesis =>
      rcases machine.run_cons_eq_some.mp reached with ⟨next, stepped, remaining⟩
      rcases admitted next stepped with ⟨allowed, admittedRest⟩
      exact inductionHypothesis (preserved state action next start allowed stepped)
        admittedRest remaining

theorem admits_true (state : State) (actions : List Action) :
    machine.Admits (fun _ _ => True) state actions := by
  induction actions generalizing state with
  | nil => exact True.intro
  | cons action rest inductionHypothesis =>
      exact fun next _ => ⟨True.intro, inductionHypothesis next⟩

theorem admits_of_forall {condition : Action → Prop} {actions : List Action}
    (allowed : ∀ action ∈ actions, condition action) (state : State) :
    machine.Admits (fun _ => condition) state actions := by
  induction actions generalizing state with
  | nil => exact True.intro
  | cons action rest inductionHypothesis =>
      intro next _
      constructor
      · exact allowed action List.mem_cons_self
      · exact inductionHypothesis
          (fun other member => allowed other (List.mem_cons_of_mem action member)) next

theorem run_invariant
    {invariant : State → Prop}
    (preserved : ∀ state action next, invariant state →
      machine.step state action = some next → invariant next)
    {state final : State} {actions : List Action}
    (start : invariant state) (reached : machine.run state actions = some final) :
    invariant final :=
  machine.run_of_admits
    (fun state action next held _ stepped => preserved state action next held stepped)
    start (machine.admits_true state actions) reached

/-- What holds under an invariant that admitted steps preserve holds in every
state of an admitted run. -/
theorem throughout_of_admits
    {invariant property : State → Prop} {condition : State → Action → Prop}
    (preserved : ∀ state action next, invariant state → condition state action →
      machine.step state action = some next → invariant next)
    (sound : ∀ state, invariant state → property state)
    {state : State} {actions : List Action}
    (start : invariant state) (admitted : machine.Admits condition state actions) :
    machine.Throughout property state actions := by
  induction actions generalizing state with
  | nil => exact sound state start
  | cons action rest inductionHypothesis =>
      refine ⟨sound state start, ?_⟩
      intro next stepped
      rcases admitted next stepped with ⟨allowed, admittedRest⟩
      exact inductionHypothesis
        (preserved state action next start allowed stepped) admittedRest

theorem throughout_of_invariant
    {invariant property : State → Prop}
    (preserved : ∀ state action next, invariant state →
      machine.step state action = some next → invariant next)
    (sound : ∀ state, invariant state → property state)
    {state : State} (actions : List Action) (start : invariant state) :
    machine.Throughout property state actions :=
  machine.throughout_of_admits
    (fun state action next held _ stepped => preserved state action next held stepped)
    sound start (machine.admits_true state actions)

/-- When, under an invariant and an assumption about the steps, a step keeps a
property exactly if it meets a condition, a run of such steps keeps the property
throughout exactly if all its steps meet the condition. -/
theorem throughout_iff_admits_of_admits
    {invariant property : State → Prop} {assumption condition : State → Action → Prop}
    (preserved : ∀ state action next, invariant state → assumption state action →
      condition state action → machine.step state action = some next → invariant next)
    (precise : ∀ state action next, invariant state → assumption state action →
      property state → machine.step state action = some next →
        (property next ↔ condition state action))
    {state : State} {actions : List Action} (start : invariant state) (holds : property state)
    (assumed : machine.Admits assumption state actions) :
    machine.Throughout property state actions ↔
      machine.Admits condition state actions := by
  induction actions generalizing state with
  | nil => simp [Throughout, Admits, holds]
  | cons action rest inductionHypothesis =>
      simp only [Throughout, Admits, holds, true_and]
      apply forall_congr'
      intro next
      apply forall_congr'
      intro stepped
      obtain ⟨meets, assumedRest⟩ := assumed next stepped
      have one := precise state action next start meets holds stepped
      constructor
      · intro throughout
        have nextHolds : property next := by
          cases rest with
          | nil => exact throughout
          | cons => exact throughout.1
        have allowed := one.mp nextHolds
        refine ⟨allowed, ?_⟩
        exact (inductionHypothesis (preserved state action next start meets allowed stepped)
          nextHolds assumedRest).mp throughout
      · rintro ⟨allowed, admitted⟩
        exact (inductionHypothesis (preserved state action next start meets allowed stepped)
          (one.mpr allowed) assumedRest).mpr admitted

theorem throughout_iff_admits
    {invariant property : State → Prop} {condition : State → Action → Prop}
    (preserved : ∀ state action next, invariant state → condition state action →
      machine.step state action = some next → invariant next)
    (precise : ∀ state action next, invariant state → property state →
      machine.step state action = some next →
        (property next ↔ condition state action))
    {state : State} (actions : List Action)
    (start : invariant state) (holds : property state) :
    machine.Throughout property state actions ↔
      machine.Admits condition state actions :=
  machine.throughout_iff_admits_of_admits
    (fun state action next held _ => preserved state action next held)
    (fun state action next held _ => precise state action next held)
    start holds (machine.admits_true state actions)

/-- When each step of a machine is, through a view of its states, a step of
another machine or nothing, each of its runs is a run of the other machine. -/
theorem exists_run_of_view
    {View : Type u} {Other : Type v} {viewed : Machine View Other} {view : State → View}
    {invariant : State → Prop}
    (preserved : ∀ state action next, invariant state →
      machine.step state action = some next → invariant next)
    (seen : ∀ state action next, invariant state → machine.step state action = some next →
      view next = view state ∨ ∃ other, viewed.step (view state) other = some (view next))
    {state final : State} {actions : List Action} (start : invariant state)
    (reached : machine.run state actions = some final) :
    ∃ others, viewed.run (view state) others = some (view final) := by
  induction actions generalizing state with
  | nil =>
      cases reached
      exact ⟨[], rfl⟩
  | cons action rest inductionHypothesis =>
      obtain ⟨next, stepped, remaining⟩ := machine.run_cons_eq_some.mp reached
      obtain ⟨others, later⟩ :=
        inductionHypothesis (preserved state action next start stepped) remaining
      rcases seen state action next start stepped with same | ⟨other, moved⟩
      · exact ⟨others, same ▸ later⟩
      · exact ⟨other :: others, viewed.run_cons_eq_some.mpr ⟨_, moved, later⟩⟩

/-- When, under an invariant and an assumption about the steps, two conditions
say the same of every step, a run of such steps meets both or neither. -/
theorem admits_iff_of_admits
    {invariant : State → Prop} {assumption condition other : State → Action → Prop}
    (preserved : ∀ state action next, invariant state →
      machine.step state action = some next → invariant next)
    (same : ∀ state action next, invariant state → assumption state action →
      machine.step state action = some next → (condition state action ↔ other state action))
    {state : State} {actions : List Action} (start : invariant state)
    (assumed : machine.Admits assumption state actions) :
    machine.Admits condition state actions ↔ machine.Admits other state actions := by
  induction actions generalizing state with
  | nil => exact Iff.rfl
  | cons action rest inductionHypothesis =>
      simp only [Admits]
      apply forall_congr'
      intro next
      apply forall_congr'
      intro stepped
      obtain ⟨meets, assumedRest⟩ := assumed next stepped
      exact and_congr (same state action next start meets stepped)
        (inductionHypothesis (preserved state action next start stepped) assumedRest)

theorem run_append {state middle final : State} {actions others : List Action}
    (reached : machine.run state actions = some middle)
    (continued : machine.run middle others = some final) :
    machine.run state (actions ++ others) = some final := by
  induction actions generalizing state with
  | nil =>
      cases reached
      exact continued
  | cons first rest inductionHypothesis =>
      obtain ⟨next, moved, later⟩ := machine.run_cons_eq_some.mp reached
      exact machine.run_cons_eq_some.mpr ⟨next, moved, inductionHypothesis later⟩

theorem run_concat {state middle final : State} {actions : List Action} {action : Action}
    (reached : machine.run state actions = some middle)
    (stepped : machine.step middle action = some final) :
    machine.run state (actions ++ [action]) = some final :=
  machine.run_append reached (machine.run_cons_eq_some.mpr ⟨final, stepped, rfl⟩)

section Termination

variable {machine} {allowed : Action → Prop} {invariant : State → Prop} {remaining : State → Nat}

theorem length_add_le_of_decreasing
    (decreases : ∀ state action next, allowed action →
      machine.step state action = some next → remaining next < remaining state)
    {state final : State} {actions : List Action} (all : ∀ action ∈ actions, allowed action)
    (reached : machine.run state actions = some final) :
    actions.length + remaining final ≤ remaining state := by
  induction actions generalizing state with
  | nil =>
      cases reached
      simp
  | cons action rest inductionHypothesis =>
      rcases machine.run_cons_eq_some.mp reached with ⟨next, stepped, later⟩
      have used := decreases state action next (all action List.mem_cons_self) stepped
      have usedLater := inductionHypothesis
        (fun other listed => all other (List.mem_cons_of_mem action listed)) later
      rw [List.length_cons]
      omega

/-- When some action uses up what remains as long as anything does, a run uses up
everything. -/
theorem exists_run_of_progress
    (preserved : ∀ state action next, invariant state →
      machine.step state action = some next → invariant next)
    (progress : ∀ state, invariant state → remaining state ≠ 0 →
      ∃ action next, allowed action ∧ machine.step state action = some next)
    (decreases : ∀ state action next, allowed action →
      machine.step state action = some next → remaining next < remaining state)
    {state : State} (start : invariant state) :
    ∃ actions final, (∀ action ∈ actions, allowed action) ∧
      machine.run state actions = some final ∧ remaining final = 0 := by
  induction amount : remaining state using Nat.strongRecOn generalizing state with
  | _ amount inductionHypothesis =>
      by_cases nothing : remaining state = 0
      · exact ⟨[], state, by simp, rfl, nothing⟩
      · obtain ⟨action, next, fits, stepped⟩ := progress state start nothing
        have used := decreases state action next fits stepped
        obtain ⟨actions, final, all, reached, done⟩ := inductionHypothesis (remaining next)
          (by omega) (preserved state action next start stepped) rfl
        refine ⟨action :: actions, final, ?_, ?_, done⟩
        · intro other listed
          rcases List.mem_cons.mp listed with rfl | later
          · exact fits
          · exact all other later
        · exact machine.run_cons_eq_some.mpr ⟨next, stepped, reached⟩

end Termination

end Machine

end Ferroq.Library
