import Mathlib.Data.List.Basic

/-!
# Writers of a group of cells

Writers that each store a value in several cells, one cell after the other, with
nothing that holds the group together.  The writers are listed in the order in
which they stored the first cell.  When none stores a later cell before one that
is listed ahead of it and has another value, each cell holds what the last writer
stored in it, so that the cells agree once all writers are done.
-/

namespace Ferroq.Library

universe u

/-- A writer with the number of cells that it has stored. -/
structure Writer (Value : Type u) where
  value : Value
  stored : Nat

namespace Writers

variable {Value : Type u} {writers : List (Writer Value)}

/-- No writer is further than one with another value that is listed ahead of it. -/
def InOrder (writers : List (Writer Value)) : Prop :=
  writers.Pairwise fun earlier later =>
    earlier.value = later.value ∨ later.stored ≤ earlier.stored

/-- A cell holds the value of the last writer that has stored it.  The last one is
determined up to writers of one value. -/
def Shows (cell : Nat) (holds : Value → Prop) (writers : List (Writer Value)) : Prop :=
  ∀ (place : Nat) (writer : Writer Value), writers[place]? = some writer → cell < writer.stored →
    (∀ (after : Nat) (later : Writer Value), place < after → writers[after]? = some later →
      cell < later.stored → later.value = writer.value) →
    holds writer.value

/-- Every writer that is listed ahead of a place and has another value is further. -/
def Behind (writers : List (Writer Value)) (place : Nat) (writer : Writer Value) : Prop :=
  ∀ earlier ∈ writers.take place,
    earlier.value = writer.value ∨ writer.stored < earlier.stored

instance [DecidableEq Value] (place : Nat) (writer : Writer Value) :
    Decidable (Behind writers place writer) :=
  inferInstanceAs (Decidable (∀ earlier ∈ writers.take place,
    earlier.value = writer.value ∨ writer.stored < earlier.stored))

theorem inOrder_nil : InOrder ([] : List (Writer Value)) := List.Pairwise.nil

theorem shows_nil (cell : Nat) (holds : Value → Prop) : Shows cell holds [] := by
  intro place writer found
  simp at found

theorem inOrder_iff : InOrder writers ↔
    ∀ (before after : Nat) (earlier later : Writer Value), before < after →
      writers[before]? = some earlier → writers[after]? = some later →
      earlier.value = later.value ∨ later.stored ≤ earlier.stored := by
  rw [InOrder, List.pairwise_iff_getElem]
  constructor
  · intro pairs before after earlier later less first second
    obtain ⟨beforeBound, rfl⟩ := List.getElem?_eq_some_iff.mp first
    obtain ⟨afterBound, rfl⟩ := List.getElem?_eq_some_iff.mp second
    exact pairs before after beforeBound afterBound less
  · intro pairs before after beforeBound afterBound less
    exact pairs before after _ _ less (List.getElem?_eq_getElem beforeBound)
      (List.getElem?_eq_getElem afterBound)

theorem inOrder_append (ordered : InOrder writers)
    (begun : ∀ writer ∈ writers, 0 < writer.stored) (value : Value) :
    InOrder (writers ++ [⟨value, 1⟩]) := by
  rw [InOrder, List.pairwise_append]
  refine ⟨ordered, List.pairwise_singleton _ _, ?_⟩
  intro earlier listed later new
  rw [List.mem_singleton.mp new]
  exact .inr (begun earlier listed)

theorem shows_append {holds : Value → Prop} {value : Value} (stored : holds value) :
    Shows 0 holds (writers ++ [⟨value, 1⟩]) := by
  intro place writer found _ last
  by_cases inside : place < writers.length
  · have same := last writers.length ⟨value, 1⟩ inside (by simp) (by simp)
    rw [← same]
    exact stored
  · rw [List.getElem?_append_right (Nat.not_lt.mp inside)] at found
    have new := List.mem_singleton.mp (List.mem_of_getElem? found)
    rw [new]
    exact stored

theorem shows_append_of_pos {cell : Nat} {holds : Value → Prop} (positive : 0 < cell)
    (shown : Shows cell holds writers) (value : Value) :
    Shows cell holds (writers ++ [⟨value, 1⟩]) := by
  intro place writer found reached last
  have old {index : Nat} {other : Writer Value}
      (seen : (writers ++ [⟨value, 1⟩])[index]? = some other) (further : cell < other.stored) :
      writers[index]? = some other := by
    by_cases inside : index < writers.length
    · rwa [List.getElem?_append_left inside] at seen
    · rw [List.getElem?_append_right (Nat.not_lt.mp inside)] at seen
      have new := List.mem_singleton.mp (List.mem_of_getElem? seen)
      rw [new] at further
      exact absurd further (by simp only [Nat.not_lt]; omega)
  refine shown place writer (old found reached) reached ?_
  intro after later less seen further
  have bound := (List.getElem?_eq_some_iff.mp seen).1
  exact last after later less (by rwa [List.getElem?_append_left bound]) further

section Store

variable {place : Nat} {writer : Writer Value}

theorem inOrder_set (ordered : InOrder writers) (found : writers[place]? = some writer)
    (behind : Behind writers place writer) :
    InOrder (writers.set place ⟨writer.value, writer.stored + 1⟩) := by
  have bound := (List.getElem?_eq_some_iff.mp found).1
  rw [inOrder_iff] at ordered ⊢
  intro before after earlier later less first second
  rw [List.getElem?_set] at first second
  by_cases same : place = before
  · subst same
    rw [if_neg (by omega)] at second
    rw [if_pos rfl, if_pos bound, Option.some.injEq] at first
    subst first
    have order := ordered place after writer later less found second
    exact order.imp id fun further => Nat.le_succ_of_le further
  · rw [if_neg same] at first
    by_cases other : place = after
    · subst other
      rw [if_pos rfl, if_pos bound, Option.some.injEq] at second
      subst second
      exact behind earlier (List.mem_of_getElem? ((List.getElem?_take_of_lt less).trans first))
    · rw [if_neg other] at second
      exact ordered before after earlier later less first second

theorem shows_set {holds : Value → Prop} (ordered : InOrder writers)
    (found : writers[place]? = some writer) (stored : holds writer.value) :
    Shows writer.stored holds (writers.set place ⟨writer.value, writer.stored + 1⟩) := by
  have bound := (List.getElem?_eq_some_iff.mp found).1
  intro index other seen reached last
  rw [List.getElem?_set] at seen
  rcases Nat.lt_trichotomy place index with less | same | greater
  · rw [if_neg (by omega)] at seen
    rcases inOrder_iff.mp ordered place index writer other less found seen with same | order
    · rw [← same]
      exact stored
    · omega
  · rw [if_pos same, if_pos bound, Option.some.injEq] at seen
    rw [← seen]
    exact stored
  · have same := last place ⟨writer.value, writer.stored + 1⟩ greater
      (by rw [List.getElem?_set, if_pos rfl, if_pos bound]) (Nat.lt_succ_self _)
    rw [← same]
    exact stored

theorem shows_set_of_ne {cell : Nat} {holds : Value → Prop} (shown : Shows cell holds writers)
    (found : writers[place]? = some writer) (different : cell ≠ writer.stored) :
    Shows cell holds (writers.set place ⟨writer.value, writer.stored + 1⟩) := by
  have bound := (List.getElem?_eq_some_iff.mp found).1
  have moved {index : Nat} {other : Writer Value} (seen : writers[index]? = some other)
      (reached : cell < other.stored) :
      ∃ later, (writers.set place ⟨writer.value, writer.stored + 1⟩)[index]? = some later ∧
        cell < later.stored ∧ later.value = other.value := by
    rw [List.getElem?_set]
    by_cases same : place = index
    · subst same
      rw [found] at seen
      cases seen
      rw [if_pos rfl, if_pos bound]
      exact ⟨_, rfl, Nat.lt_succ_of_lt reached, rfl⟩
    · rw [if_neg same]
      exact ⟨other, seen, reached, rfl⟩
  have origin {index : Nat} {other : Writer Value}
      (seen : (writers.set place ⟨writer.value, writer.stored + 1⟩)[index]? = some other)
      (reached : cell < other.stored) :
      ∃ earlier, writers[index]? = some earlier ∧ cell < earlier.stored ∧
        earlier.value = other.value := by
    rw [List.getElem?_set] at seen
    by_cases same : place = index
    · rw [if_pos same, if_pos bound, Option.some.injEq] at seen
      subst seen
      dsimp only at reached
      exact ⟨writer, same ▸ found, by omega, rfl⟩
    · rw [if_neg same] at seen
      exact ⟨other, seen, reached, rfl⟩
  intro index other seen reached last
  obtain ⟨earlier, was, wasReached, value⟩ := origin seen reached
  rw [← value]
  refine shown index earlier was wasReached ?_
  intro after later less present further
  obtain ⟨now, nowSeen, nowReached, nowValue⟩ := moved present further
  rw [← nowValue, value]
  exact last after now less nowSeen nowReached

end Store

/-- When every writer has stored a cell, the cell holds the value of the last one. -/
theorem holds_getLast {cell : Nat} {holds : Value → Prop} (shown : Shows cell holds writers)
    (finished : ∀ writer ∈ writers, cell < writer.stored) (inhabited : writers ≠ []) :
    holds (writers.getLast inhabited).value := by
  have positive : 0 < writers.length := List.length_pos_of_ne_nil inhabited
  refine shown (writers.length - 1) _ ?_ (finished _ (List.getLast_mem inhabited)) ?_
  · rw [List.getLast_eq_getElem]
    exact List.getElem?_eq_getElem (by omega)
  · intro after later less seen
    have bound := (List.getElem?_eq_some_iff.mp seen).1
    omega

end Writers

end Ferroq.Library
