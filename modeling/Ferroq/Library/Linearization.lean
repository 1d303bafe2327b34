import Ferroq.Library.Machine
import Ferroq.Library.Table
import Mathlib.Data.List.Nodup

/-!
# Linearizable calls

Calls on a shared object overlap.  They are linearizable if some order of them,
with results for calls that have not returned yet, is a sequential use of the
object that explains every result, and has a call that returned before another
one began before that one.  It is enough to name for each call one step of the
run between its beginning and its return by which it takes effect: the order of
these steps only grows, so that it respects real time.
-/

namespace Ferroq.Library

universe u v

variable {Object Operation Result : Type u}

/-- The calls of an order, one after another, lead from one object to another and
have these results. -/
def Sequential (perform : Object → Operation → Object × Result) (operations : List Operation)
    (results : Table Nat Result) : Object → List Nat → Object → Prop
  | object, [], final => object = final
  | object, call :: rest, final =>
      ∃ operation, operations[call]? = some operation ∧
        results.get call = some (perform object operation).2 ∧
        Sequential perform operations results (perform object operation).1 rest final

/-- The calls that have results, in an order that explains these. -/
structure Linearized (perform : Object → Operation → Object × Result)
    (operations : List Operation) (results : Table Nat Result) (initial : Object)
    (order : List Nat) (final : Object) : Prop where
  distinct : order.Nodup
  mem_iff : ∀ call, call ∈ order ↔ (results.get call).isSome = true
  sequential : Sequential perform operations results initial order final

section Orders

variable {perform : Object → Operation → Object × Result} {operations : List Operation}
  {results : Table Nat Result} {initial object final : Object} {order : List Nat}

theorem Sequential.asked (sequential : Sequential perform operations results initial order final)
    {call : Nat} (listed : call ∈ order) : call < operations.length := by
  induction order generalizing initial with
  | nil => cases listed
  | cons first rest inductionHypothesis =>
      obtain ⟨operation, asked, -, later⟩ := sequential
      rcases List.mem_cons.mp listed with rfl | behind
      · exact (List.getElem?_eq_some_iff.mp asked).1
      · exact inductionHypothesis later behind

theorem Sequential.append (sequential : Sequential perform operations results initial order final)
    (more : List Operation) :
    Sequential perform (operations ++ more) results initial order final := by
  induction order generalizing initial with
  | nil => exact sequential
  | cons first rest inductionHypothesis =>
      obtain ⟨operation, asked, result, later⟩ := sequential
      have inside := (List.getElem?_eq_some_iff.mp asked).1
      refine ⟨operation, ?_, result, inductionHypothesis later⟩
      rw [List.getElem?_append_left inside, asked]

theorem Sequential.congr (sequential : Sequential perform operations results initial order final)
    {others : Table Nat Result} (same : ∀ call ∈ order, others.get call = results.get call) :
    Sequential perform operations others initial order final := by
  induction order generalizing initial with
  | nil => exact sequential
  | cons first rest inductionHypothesis =>
      obtain ⟨operation, asked, result, later⟩ := sequential
      refine ⟨operation, asked, ?_, ?_⟩
      · rw [same first List.mem_cons_self, result]
      · exact inductionHypothesis later fun call listed =>
          same call (List.mem_cons_of_mem first listed)

theorem Sequential.concat (sequential : Sequential perform operations results initial order object)
    {call : Nat} {operation : Operation} (asked : operations[call]? = some operation)
    (result : results.get call = some (perform object operation).2) :
    Sequential perform operations results initial (order ++ [call])
      (perform object operation).1 := by
  induction order generalizing initial with
  | nil =>
      cases sequential
      exact ⟨operation, asked, result, rfl⟩
  | cons first rest inductionHypothesis =>
      obtain ⟨before, askedBefore, resultBefore, later⟩ := sequential
      exact ⟨before, askedBefore, resultBefore, inductionHypothesis later⟩

theorem linearized_empty (perform : Object → Operation → Object × Result)
    (operations : List Operation) (initial : Object) :
    Linearized perform operations .empty initial [] initial where
  distinct := List.nodup_nil
  mem_iff := by simp
  sequential := rfl

theorem Linearized.append (linearized : Linearized perform operations results initial order object)
    (more : List Operation) :
    Linearized perform (operations ++ more) results initial order object where
  distinct := linearized.distinct
  mem_iff := linearized.mem_iff
  sequential := linearized.sequential.append more

theorem Linearized.concat (linearized : Linearized perform operations results initial order object)
    {call : Nat} {operation : Operation} (asked : operations[call]? = some operation)
    (pending : results.get call = none) :
    Linearized perform operations (results.insert call (perform object operation).2) initial
      (order ++ [call]) (perform object operation).1 where
  distinct := by
    have notListed : call ∉ order := by
      rw [linearized.mem_iff, pending]
      exact Bool.false_ne_true
    exact List.nodup_append'.mpr
      ⟨linearized.distinct, List.nodup_singleton call, by simpa using notListed⟩
  mem_iff other := by
    rw [List.mem_append, List.mem_singleton, Table.get_insert, linearized.mem_iff]
    by_cases same : other = call <;> simp [same]
  sequential := by
    have kept : ∀ other ∈ order,
        (results.insert call (perform object operation).2).get other = results.get other := by
      intro other listed
      apply Table.get_insert_of_ne
      rintro rfl
      rw [linearized.mem_iff, pending] at listed
      exact absurd listed Bool.false_ne_true
    exact (linearized.sequential.congr kept).concat asked (Table.get_insert_self _ _ _)

end Orders

theorem pair_sublist_of_prefix {earlier order : List Nat} (grown : earlier <+: order)
    {first second : Nat} (listed : first ∈ earlier) (listedLater : second ∈ order)
    (notYet : second ∉ earlier) : [first, second].Sublist order := by
  obtain ⟨later, rfl⟩ := grown
  have behind := (List.mem_append.mp listedLater).resolve_left notYet
  exact (List.singleton_sublist.mpr listed).append (List.singleton_sublist.mpr behind)

/-- A log that each step extends has, after a run, every earlier log as a prefix. -/
theorem Machine.exists_log {State Action : Type u} {Entry : Type v} (machine : Machine State Action)
    {explains : List Action → State → List Entry → Prop} {condition : State → Action → Prop}
    (extended : ∀ past state log action next, explains past state log → condition state action →
      machine.step state action = some next →
        ∃ more, explains (past ++ [action]) next (log ++ more))
    {past : List Action} {state : State} {log : List Entry} (start : explains past state log)
    {actions : List Action} (admitted : machine.Admits condition state actions) {final : State}
    (reached : machine.run state actions = some final) :
    ∃ whole, log <+: whole ∧ explains (past ++ actions) final whole ∧
      ∀ first rest, actions = first ++ rest → ∃ middle earlier,
        machine.run state first = some middle ∧ earlier <+: whole ∧
          explains (past ++ first) middle earlier := by
  induction actions generalizing past state log with
  | nil =>
      cases reached
      refine ⟨log, List.prefix_rfl, by simpa using start, ?_⟩
      intro first rest split
      obtain ⟨rfl, rfl⟩ := List.append_eq_nil_iff.mp split.symm
      exact ⟨final, log, rfl, List.prefix_rfl, by simpa using start⟩
  | cons action rest inductionHypothesis =>
      obtain ⟨next, stepped, remaining⟩ := machine.run_cons_eq_some.mp reached
      obtain ⟨allowed, admittedRest⟩ := admitted next stepped
      obtain ⟨more, explained⟩ := extended past state log action next start allowed stepped
      obtain ⟨whole, grown, last, between⟩ :=
        inductionHypothesis explained admittedRest remaining
      refine ⟨whole, (List.prefix_append log more).trans grown, by simpa using last, ?_⟩
      intro first others split
      cases first with
      | nil =>
          exact ⟨state, log, rfl, (List.prefix_append log more).trans grown, by simpa using start⟩
      | cons head tail =>
          obtain ⟨rfl, rfl⟩ := List.cons.inj split
          obtain ⟨middle, earlier, passed, before, explains⟩ := between tail others rfl
          exact ⟨middle, earlier, machine.run_cons_eq_some.mpr ⟨next, stepped, passed⟩, before,
            by simpa using explains⟩

/-- The calls of a machine: the actions that begin one, which number the calls,
and the results of the calls that returned. -/
structure Calls (State Action Operation Result : Type u) where
  machine : Machine State Action
  asks : Action → Option Operation
  results : State → Table Nat Result

namespace Calls

variable {State Action : Type u} (calls : Calls State Action Operation Result)

def operations (actions : List Action) : List Operation := actions.filterMap calls.asks

/-- One call returned before another began. -/
def Precedes (start : State) (actions : List Action) (first second : Nat) : Prop :=
  ∃ past rest middle, actions = past ++ rest ∧ calls.machine.run start past = some middle ∧
    ((calls.results middle).get first).isSome = true ∧ (calls.operations past).length ≤ second

/-- The calls of a run are as good as a sequential use of the object that the
machine's states stand for. -/
def Linearizable (perform : Object → Operation → Object × Result) (object : State → Object)
    (start : State) (actions : List Action) : Prop :=
  ∀ final ∈ calls.machine.run start actions, ∃ results order,
    Linearized perform (calls.operations actions) results (object start) order (object final) ∧
      (∀ call result, (calls.results final).get call = some result →
        results.get call = some result) ∧
      ∀ first second, calls.Precedes start actions first second → second ∈ order →
        [first, second].Sublist order

/-- A step lets one call take effect, or none. -/
def TakesEffect (perform : Object → Operation → Object × Result) (operations : List Operation)
    (before after : Table Nat Result) (object next : Object) : Prop :=
  (after = before ∧ next = object) ∨
    ∃ call operation, operations[call]? = some operation ∧ before.get call = none ∧
      after = before.insert call (perform object operation).2 ∧
      next = (perform object operation).1

variable {calls} {perform : Object → Operation → Object × Result} {object : State → Object}
  {decided : State → Table Nat Result} {invariant : List Action → State → Prop}
  {condition : State → Action → Prop}

/-- Where the effects of steps are those of calls without a result, which keep it
until they return, the calls are linearizable. -/
theorem linearizable_of_takesEffect
    (preserved : ∀ past state action next, invariant past state → condition state action →
      calls.machine.step state action = some next → invariant (past ++ [action]) next)
    (effect : ∀ past state action next, invariant past state → condition state action →
      calls.machine.step state action = some next →
        TakesEffect perform (calls.operations (past ++ [action])) (decided state) (decided next)
          (object state) (object next))
    (kept : ∀ state call result, (calls.results state).get call = some result →
      (decided state).get call = some result)
    {start : State} (idle : decided start = .empty) (begins : invariant [] start)
    {actions : List Action} (admitted : calls.machine.Admits condition start actions) :
    calls.Linearizable perform object start actions := by
  intro final reached
  have initial : Linearized perform (calls.operations []) (decided start) (object start) []
      (object start) := idle ▸ linearized_empty perform _ _
  let explains (past : List Action) (state : State) (order : List Nat) : Prop :=
    invariant past state ∧ Linearized perform (calls.operations past) (decided state)
      (object start) order (object state)
  have extended : ∀ past state order action next, explains past state order →
      condition state action → calls.machine.step state action = some next →
      ∃ more, explains (past ++ [action]) next (order ++ more) := by
    rintro past state order action next ⟨held, linearized⟩ allowed stepped
    have heldNext := preserved past state action next held allowed stepped
    have more := linearized.append (calls.operations [action])
    rw [operations, operations, ← List.filterMap_append] at more
    rcases effect past state action next held allowed stepped with
      ⟨same, sameObject⟩ | ⟨call, operation, asked, pending, result, changed⟩
    · refine ⟨[], heldNext, ?_⟩
      rw [List.append_nil, same, sameObject]
      exact more
    · refine ⟨[call], heldNext, ?_⟩
      rw [result, changed]
      exact more.concat asked pending
  obtain ⟨order, -, ⟨-, whole⟩, between⟩ :=
    calls.machine.exists_log extended ⟨begins, initial⟩ admitted reached
  refine ⟨decided final, order, whole, kept final, ?_⟩
  rintro first second ⟨past, rest, middle, split, passed, returned, notBegun⟩ listed
  obtain ⟨there, earlier, passedThere, grown, -, explained⟩ := between past rest split
  cases Option.some.inj (passedThere.symm.trans passed)
  apply pair_sublist_of_prefix grown _ listed
  · intro listedThere
    have asked := explained.sequential.asked listedThere
    exact absurd asked (Nat.not_lt.mpr notBegun)
  · rw [explained.mem_iff]
    obtain ⟨result, found⟩ := Option.isSome_iff_exists.mp returned
    rw [kept middle first result found]
    rfl

end Calls

end Ferroq.Library
