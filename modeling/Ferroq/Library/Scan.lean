import Ferroq.Library.Machine

/-!
# Reading a growing state part by part

A reader looks at a state again and again, and takes one part of it each time.
What it has seen are states of which each has grown out of those before it, and
the present state has grown out of all of them.
-/

namespace Ferroq.Library

universe u v

variable {State : Type u} {grown : State → State → Prop}

/-- What a reader has seen of a state that only grows, first to last. -/
structure Scanned (grown : State → State → Prop) (seen : List State) (present : State) : Prop where
  inOrder : seen.Pairwise grown
  past : ∀ state ∈ seen, grown state present

theorem scanned_nil (present : State) : Scanned grown [] present :=
  ⟨List.Pairwise.nil, by simp⟩

theorem Scanned.grow (transitive : ∀ first second third, grown first second →
      grown second third → grown first third) {seen : List State} {present next : State}
    (scanned : Scanned grown seen present) (step : grown present next) :
    Scanned grown seen next where
  inOrder := scanned.inOrder
  past state listed := transitive state present next (scanned.past state listed) step

theorem Scanned.look (reflexive : ∀ state, grown state state) {seen : List State}
    {present : State} (scanned : Scanned grown seen present) :
    Scanned grown (seen ++ [present]) present where
  inOrder := by
    rw [List.pairwise_append]
    refine ⟨scanned.inOrder, List.pairwise_singleton _ _, ?_⟩
    intro state listed last isLast
    rw [List.mem_singleton.mp isLast]
    exact scanned.past state listed
  past state listed := by
    rcases List.mem_append.mp listed with before | isLast
    · exact scanned.past state before
    · rw [List.mem_singleton.mp isLast]
      exact reflexive present

namespace Machine

variable {Action : Type v} (machine : Machine State Action)

/-- What holds after any number of steps, with the number, holds after a run with
the number of its actions, as far as the numbers are allowed. -/
theorem run_counted {invariant : Nat → State → Prop} {most : Nat}
    (preserved : ∀ steps state action next, steps < most → invariant steps state →
      machine.step state action = some next → invariant (steps + 1) next)
    {steps : Nat} {state final : State} {actions : List Action} (start : invariant steps state)
    (few : steps + actions.length ≤ most) (reached : machine.run state actions = some final) :
    invariant (steps + actions.length) final := by
  induction actions generalizing steps state with
  | nil =>
      cases reached
      exact start
  | cons action rest inductionHypothesis =>
      obtain ⟨next, stepped, remaining⟩ := machine.run_cons_eq_some.mp reached
      rw [List.length_cons] at few ⊢
      have later := inductionHypothesis
        (preserved steps state action next (by omega) start stepped) (by omega) remaining
      rwa [Nat.add_assoc, Nat.add_comm 1] at later

end Machine

end Ferroq.Library
