import Mathlib.Algebra.BigOperators.Group.List.Basic
import Mathlib.Algebra.GroupWithZero.Nat

/-!
# Tallies

The total weight of the items of a list.  A system whose items move on one at a
time keeps its books by a few such totals: one item is replaced by another, and
the total changes by the difference of their weights.
-/

namespace Ferroq.Library

universe u

variable {Item : Type u}

def tally (weight : Item → Nat) (items : List Item) : Nat := (items.map weight).sum

@[simp]
theorem tally_nil (weight : Item → Nat) : tally weight [] = 0 := rfl

@[simp]
theorem tally_cons (weight : Item → Nat) (item : Item) (items : List Item) :
    tally weight (item :: items) = weight item + tally weight items := by
  simp [tally]

@[simp]
theorem tally_append (weight : Item → Nat) (items others : List Item) :
    tally weight (items ++ others) = tally weight items + tally weight others := by
  simp [tally]

theorem tally_set (weight : Item → Nat) {items : List Item} {position : Nat} {old : Item}
    (new : Item) (found : items[position]? = some old) :
    tally weight (items.set position new) + weight old = tally weight items + weight new := by
  induction items generalizing position with
  | nil => simp at found
  | cons item rest inductionHypothesis =>
      cases position with
      | zero =>
          simp at found
          subst found
          simp only [List.set_cons_zero, tally_cons]
          omega
      | succ position =>
          have later := inductionHypothesis (by simpa using found)
          simp only [List.set_cons_succ, tally_cons]
          omega

theorem tally_set_of_eq {weight : Item → Nat} {items : List Item} {position : Nat}
    {old new : Item} (found : items[position]? = some old) (same : weight new = weight old) :
    tally weight (items.set position new) = tally weight items := by
  have moved := tally_set weight new found
  omega

theorem tally_le_tally {weight other : Item → Nat} (lighter : ∀ item, weight item ≤ other item)
    (items : List Item) : tally weight items ≤ tally other items := by
  induction items with
  | nil => exact Nat.le_refl 0
  | cons item rest inductionHypothesis =>
      rw [tally_cons, tally_cons]
      exact Nat.add_le_add (lighter item) inductionHypothesis

theorem tally_eq_zero_iff {weight : Item → Nat} {items : List Item} :
    tally weight items = 0 ↔ ∀ item ∈ items, weight item = 0 := by
  induction items with
  | nil => simp
  | cons item rest inductionHypothesis => simp [inductionHypothesis]

theorem length_filterMap_eq_tally {Value : Type u} {read : Item → Option Value}
    {weight : Item → Nat} (weighs : ∀ item, weight item = if (read item).isSome then 1 else 0)
    (items : List Item) : (items.filterMap read).length = tally weight items := by
  induction items with
  | nil => rfl
  | cons item rest inductionHypothesis =>
      rw [tally_cons, weighs, List.filterMap_cons]
      cases read item with
      | none => simpa using inductionHypothesis
      | some value => simp [inductionHypothesis, Nat.add_comm]

end Ferroq.Library
