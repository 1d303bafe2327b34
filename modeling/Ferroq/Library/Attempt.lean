import Mathlib.Data.List.Basic

/-!
# Attempts

An attempt has an outcome and leaves its surroundings changed.  Attempts are
made one after the other: all of them, or no more of them once an outcome
settles the matter.
-/

namespace Ferroq.Library

variable {World Outcome : Type}

/-- An attempt that changes the world. -/
abbrev Attempt (World Outcome : Type) := World → Outcome × World

namespace Attempt

def inTurn : List (Attempt World Outcome) → World → List Outcome × World
  | [], world => ([], world)
  | attempt :: rest, world =>
      let (outcome, next) := attempt world
      let (outcomes, last) := inTurn rest next
      (outcome :: outcomes, last)

/-- The outcomes of attempts that are made until one of them settles the matter,
and the world they leave. -/
structure UntilSettled (settles : Outcome → Bool) (attempts : List (Attempt World Outcome))
    (world : World) (outcomes : List Outcome) (last : World) : Prop where
  made : inTurn (attempts.take outcomes.length) world = (outcomes, last)
  unsettled : ∀ outcome ∈ outcomes.dropLast, settles outcome = false
  ended : (∃ outcome ∈ outcomes.getLast?, settles outcome = true) ∨
    outcomes.length = attempts.length

/-- An attempt acts as others that are made until one of them settles the matter:
it has the outcome of the last one made. -/
def ActsAs (settles : Outcome → Bool) (attempt : Attempt World Outcome)
    (attempts : List (Attempt World Outcome)) : Prop :=
  ∀ world, ∃ outcomes, UntilSettled settles attempts world outcomes (attempt world).2 ∧
    outcomes.getLast? = some (attempt world).1

/-- An attempt that is followed by another one unless it settles the matter. -/
def orElse (settles : Outcome → Bool) (first second : Attempt World Outcome) :
    Attempt World Outcome := fun world =>
  let (outcome, next) := first world
  if settles outcome then (outcome, next) else second next

@[simp]
theorem inTurn_nil (world : World) :
    inTurn ([] : List (Attempt World Outcome)) world = ([], world) := rfl

theorem inTurn_cons (attempt : Attempt World Outcome) (rest : List (Attempt World Outcome))
    (world : World) :
    inTurn (attempt :: rest) world =
      ((attempt world).1 :: (inTurn rest (attempt world).2).1,
        (inTurn rest (attempt world).2).2) := rfl

theorem inTurn_append (first second : List (Attempt World Outcome)) (world : World) :
    inTurn (first ++ second) world =
      ((inTurn first world).1 ++ (inTurn second (inTurn first world).2).1,
        (inTurn second (inTurn first world).2).2) := by
  induction first generalizing world with
  | nil => rfl
  | cons attempt rest inductionHypothesis =>
      rw [List.cons_append, inTurn_cons, inTurn_cons, inductionHypothesis]
      rfl

theorem length_inTurn (attempts : List (Attempt World Outcome)) (world : World) :
    (inTurn attempts world).1.length = attempts.length := by
  induction attempts generalizing world with
  | nil => rfl
  | cons attempt rest inductionHypothesis =>
      rw [inTurn_cons, List.length_cons, List.length_cons, inductionHypothesis]

section UntilSettled

variable {settles : Outcome → Bool} {first second : List (Attempt World Outcome)}
  {world middle last : World} {outcomes others : List Outcome}

theorem untilSettled_singleton (settles : Outcome → Bool) (attempt : Attempt World Outcome)
    (world : World) :
    UntilSettled settles [attempt] world [(attempt world).1] (attempt world).2 where
  made := rfl
  unsettled := by simp
  ended := .inr rfl

theorem UntilSettled.append_settled (made : UntilSettled settles first world outcomes middle)
    (settled : ∃ outcome ∈ outcomes.getLast?, settles outcome = true)
    (second : List (Attempt World Outcome)) :
    UntilSettled settles (first ++ second) world outcomes middle where
  made := by
    have fits : outcomes.length ≤ first.length := by
      have counted : (inTurn (first.take outcomes.length) world).1.length = outcomes.length := by
        rw [made.made]
      rw [length_inTurn, List.length_take] at counted
      omega
    rw [List.take_append_of_le_length fits]
    exact made.made
  unsettled := made.unsettled
  ended := .inl settled

theorem UntilSettled.length_eq (made : UntilSettled settles first world outcomes middle)
    (undecided : ∀ outcome ∈ outcomes.getLast?, settles outcome = false) :
    outcomes.length = first.length := by
  rcases made.ended with ⟨outcome, held, settled⟩ | all
  · exact absurd ((undecided outcome held).symm.trans settled) Bool.false_ne_true
  · exact all

theorem UntilSettled.all_unsettled (made : UntilSettled settles first world outcomes middle)
    (undecided : ∀ outcome ∈ outcomes.getLast?, settles outcome = false) :
    ∀ outcome ∈ outcomes, settles outcome = false := by
  intro outcome listed
  rcases List.eq_nil_or_concat' outcomes with rfl | ⟨earlier, final, rfl⟩
  · cases listed
  · rcases List.mem_append.mp listed with within | ending
    · exact made.unsettled outcome (by simpa using within)
    · rw [List.mem_singleton.mp ending]
      exact undecided final (by simp)

theorem UntilSettled.append_unsettled (made : UntilSettled settles first world outcomes middle)
    (undecided : ∀ outcome ∈ outcomes.getLast?, settles outcome = false)
    (next : UntilSettled settles second middle others last) (more : others ≠ []) :
    UntilSettled settles (first ++ second) world (outcomes ++ others) last where
  made := by
    have all := made.length_eq undecided
    have whole := made.made
    rw [all, List.take_length] at whole
    rw [List.length_append, all, List.take_length_add_append, inTurn_append, whole, next.made]
  unsettled := by
    intro outcome listed
    rw [List.dropLast_append_of_ne_nil more] at listed
    rcases List.mem_append.mp listed with before | after
    · exact made.all_unsettled undecided outcome before
    · exact next.unsettled outcome after
  ended := by
    rcases next.ended with ⟨outcome, held, settled⟩ | all
    · left
      refine ⟨outcome, ?_, settled⟩
      rwa [List.getLast?_append_of_ne_nil _ more]
    · right
      rw [List.length_append, List.length_append, made.length_eq undecided, all]

theorem UntilSettled.length_le (made : UntilSettled settles first world outcomes middle)
    (again : UntilSettled settles first world others last) :
    others.length ≤ outcomes.length := by
  by_contra fewer
  have within : others.length ≤ first.length := by
    have counted : (inTurn (first.take others.length) world).1.length = others.length := by
      rw [again.made]
    rw [length_inTurn, List.length_take] at counted
    omega
  have shared : outcomes = others.take outcomes.length := by
    have split : (first.take others.length).take outcomes.length = first.take outcomes.length := by
      rw [List.take_take]
      congr 1
      omega
    have run := congrArg Prod.fst again.made
    rw [← List.take_append_drop outcomes.length (first.take others.length), split,
      inTurn_append, made.made] at run
    have front := congrArg (List.take outcomes.length) run
    simpa using front
  rcases made.ended with ⟨outcome, held, settled⟩ | all
  · have early : outcome ∈ others.dropLast := by
      have listed := List.mem_of_getLast? held
      rw [shared] at listed
      rw [List.dropLast_eq_take]
      exact (List.take_subset_take_left others (by omega)) listed
    exact Bool.false_ne_true ((again.unsettled outcome early).symm.trans settled)
  · omega

theorem UntilSettled.unique (made : UntilSettled settles first world outcomes middle)
    (again : UntilSettled settles first world others last) : outcomes = others ∧ middle = last := by
  have same := Nat.le_antisymm (again.length_le made) (made.length_le again)
  have runs : (outcomes, middle) = (others, last) := by
    rw [← made.made, ← again.made, same]
  exact ⟨congrArg Prod.fst runs, congrArg Prod.snd runs⟩

end UntilSettled

theorem ActsAs.unique {settles : Outcome → Bool} {first second : Attempt World Outcome}
    {attempts : List (Attempt World Outcome)} (left : ActsAs settles first attempts)
    (right : ActsAs settles second attempts) : first = second := by
  funext world
  obtain ⟨outcomes, made, ending⟩ := left world
  obtain ⟨others, again, last⟩ := right world
  obtain ⟨rfl, sameWorld⟩ := made.unique again
  exact Prod.ext (Option.some.inj (ending.symm.trans last)) sameWorld

theorem actsAs_self (settles : Outcome → Bool) (attempt : Attempt World Outcome) :
    ActsAs settles attempt [attempt] :=
  fun world => ⟨_, untilSettled_singleton settles attempt world, rfl⟩

/-- The attempts behind two alternatives are made in their order. -/
theorem ActsAs.orElse {settles : Outcome → Bool} {first second : Attempt World Outcome}
    {attempts others : List (Attempt World Outcome)} (left : ActsAs settles first attempts)
    (right : ActsAs settles second others) :
    ActsAs settles (orElse settles first second) (attempts ++ others) := by
  intro world
  obtain ⟨outcomes, made, ending⟩ := left world
  by_cases settled : settles (first world).1 = true
  · refine ⟨outcomes, ?_, ?_⟩
    · simp only [Attempt.orElse, settled, if_true]
      exact made.append_settled ⟨_, ending, settled⟩ others
    · simpa only [Attempt.orElse, settled, if_true] using ending
  · obtain ⟨further, next, last⟩ := right (first world).2
    have undecided : ∀ outcome ∈ outcomes.getLast?, settles outcome = false := by
      intro outcome held
      rw [ending] at held
      cases held
      exact Bool.eq_false_iff.mpr settled
    have more : further ≠ [] := by
      rintro rfl
      cases last
    refine ⟨outcomes ++ further, ?_, ?_⟩
    · simp only [Attempt.orElse, settled]
      exact made.append_unsettled undecided next more
    · simp only [Attempt.orElse, settled]
      rw [List.getLast?_append_of_ne_nil _ more]
      exact last

end Attempt

end Ferroq.Library
