import Mathlib.Data.Option.Basic

/-!
# Tables

A finite map is represented by its lookup function.  Two tables are equal when
every lookup agrees, and updates change one key.
-/

namespace Ferroq.Library

universe u v

/-- A key-value map, given by its lookups. -/
def Table (Key : Type u) (Value : Type v) := Key → Option Value

namespace Table

variable {Key : Type u} {Value : Type v}

def empty : Table Key Value := fun _ => none

def get (table : Table Key Value) (key : Key) : Option Value := table key

def contains (table : Table Key Value) (key : Key) : Bool := (table.get key).isSome

def retain (table : Table Key Value) (keep : Value → Bool) : Table Key Value :=
  fun key => (table key).filter keep

@[ext]
theorem ext {left right : Table Key Value}
    (lookups : ∀ key, left.get key = right.get key) : left = right :=
  funext lookups

@[simp]
theorem get_empty (key : Key) : (empty : Table Key Value).get key = none := rfl

@[simp]
theorem contains_eq_true_iff (table : Table Key Value) (key : Key) :
    table.contains key = true ↔ ∃ value, table.get key = some value := by
  simp [contains, Option.isSome_iff_exists]

@[simp]
theorem get_retain (table : Table Key Value) (keep : Value → Bool) (key : Key) :
    (table.retain keep).get key = (table.get key).filter keep := rfl

variable [DecidableEq Key]

def insert (table : Table Key Value) (key : Key) (value : Value) : Table Key Value :=
  fun other => if other = key then some value else table other

def remove (table : Table Key Value) (key : Key) : Table Key Value :=
  fun other => if other = key then none else table other

theorem get_insert (table : Table Key Value) (key other : Key) (value : Value) :
    (table.insert key value).get other =
      if other = key then some value else table.get other := rfl

@[simp]
theorem get_insert_self (table : Table Key Value) (key : Key) (value : Value) :
    (table.insert key value).get key = some value := by
  simp [get_insert]

theorem get_insert_of_ne (table : Table Key Value) {key other : Key} (value : Value)
    (different : other ≠ key) :
    (table.insert key value).get other = table.get other := by
  simp [get_insert, different]

theorem exists_get_insert {table : Table Key Value} {other : Key} (key : Key) (value : Value)
    (held : ∃ found, table.get other = some found) :
    ∃ found, (table.insert key value).get other = some found := by
  obtain ⟨found, entry⟩ := held
  by_cases same : other = key
  · subst same
    exact ⟨value, get_insert_self _ _ _⟩
  · exact ⟨found, by rw [get_insert_of_ne _ _ same, entry]⟩

theorem get_remove (table : Table Key Value) (key other : Key) :
    (table.remove key).get other = if other = key then none else table.get other := rfl

@[simp]
theorem get_remove_self (table : Table Key Value) (key : Key) :
    (table.remove key).get key = none := by
  simp [get_remove]

theorem get_remove_of_ne (table : Table Key Value) {key other : Key}
    (different : other ≠ key) :
    (table.remove key).get other = table.get other := by
  simp [get_remove, different]

theorem get_remove_eq_some_iff (table : Table Key Value) (key other : Key) (value : Value) :
    (table.remove key).get other = some value ↔
      other ≠ key ∧ table.get other = some value := by
  by_cases same : other = key <;> simp [get_remove, same]

theorem get_insert_eq_some_iff (table : Table Key Value) (key other : Key)
    (value found : Value) :
    (table.insert key value).get other = some found ↔
      (other = key ∧ value = found) ∨ (other ≠ key ∧ table.get other = some found) := by
  by_cases same : other = key <;> simp [get_insert, same]

/-- No value is found under two keys. -/
structure Exclusive (table : Table Key Value) : Prop where
  unique : ∀ {first second value}, table.get first = some value →
    table.get second = some value → first = second

theorem Exclusive.insert {table : Table Key Value} (exclusive : table.Exclusive) (key : Key)
    {value : Value} (fresh : ∀ other, table.get other ≠ some value) :
    (table.insert key value).Exclusive where
  unique := by
    intro first second shared found foundOther
    rcases (get_insert_eq_some_iff _ _ _ _ _).mp found with ⟨rfl, rfl⟩ | ⟨_, before⟩ <;>
      rcases (get_insert_eq_some_iff _ _ _ _ _).mp foundOther with ⟨rfl, same⟩ | ⟨_, before'⟩
    · rfl
    · exact absurd before' (fresh second)
    · rw [← same] at before
      exact absurd before (fresh first)
    · exact exclusive.unique before before'

theorem Exclusive.move {table : Table Key Value} (exclusive : table.Exclusive) {key : Key}
    (other : Key) {value : Value} (held : table.get key = some value) :
    ((table.remove key).insert other value).Exclusive := by
  apply Exclusive.insert
  · constructor
    intro first second shared found foundOther
    exact exclusive.unique ((get_remove_eq_some_iff _ _ _ _).mp found).2
      ((get_remove_eq_some_iff _ _ _ _).mp foundOther).2
  · intro third found
    obtain ⟨different, before⟩ := (get_remove_eq_some_iff _ _ _ _).mp found
    exact different (exclusive.unique before held)

section Sum

universe w

variable {Other : Type w} [DecidableEq Other]

def sum (left : Table Key Value) (right : Table Other Value) : Table (Key ⊕ Other) Value :=
  Sum.elim left right

omit [DecidableEq Key] [DecidableEq Other] in
theorem get_sum_inl (left : Table Key Value) (right : Table Other Value) (key : Key) :
    (sum left right).get (.inl key) = left.get key := rfl

omit [DecidableEq Key] [DecidableEq Other] in
theorem get_sum_inr (left : Table Key Value) (right : Table Other Value) (key : Other) :
    (sum left right).get (.inr key) = right.get key := rfl

theorem sum_insert_left (left : Table Key Value) (right : Table Other Value) (key : Key)
    (value : Value) :
    sum (left.insert key value) right = (sum left right).insert (.inl key) value := by
  ext1 place
  cases place <;> simp [get_insert, get_sum_inl, get_sum_inr]

theorem sum_insert_right (left : Table Key Value) (right : Table Other Value) (key : Other)
    (value : Value) :
    sum left (right.insert key value) = (sum left right).insert (.inr key) value := by
  ext1 place
  cases place <;> simp [get_insert, get_sum_inl, get_sum_inr]

theorem sum_remove_left (left : Table Key Value) (right : Table Other Value) (key : Key) :
    sum (left.remove key) right = (sum left right).remove (.inl key) := by
  ext1 place
  cases place <;> simp [get_remove, get_sum_inl, get_sum_inr]

theorem sum_remove_right (left : Table Key Value) (right : Table Other Value) (key : Other) :
    sum left (right.remove key) = (sum left right).remove (.inr key) := by
  ext1 place
  cases place <;> simp [get_remove, get_sum_inl, get_sum_inr]

end Sum

section FilterMap

variable {Other : Type v}

/-- The table of what the values become, without those that become nothing. -/
def filterMap (table : Table Key Value) (change : Value → Option Other) : Table Key Other :=
  fun key => (table.get key).bind change

omit [DecidableEq Key] in
theorem get_filterMap (table : Table Key Value) (change : Value → Option Other) (key : Key) :
    (table.filterMap change).get key = (table.get key).bind change := rfl

omit [DecidableEq Key] in
theorem filterMap_congr {table : Table Key Value} {change other : Value → Option Other}
    (same : ∀ key value, table.get key = some value → change value = other value) :
    table.filterMap change = table.filterMap other := by
  ext1 key
  simp only [get_filterMap]
  cases found : table.get key with
  | none => rfl
  | some value => exact same key value found

theorem filterMap_insert (table : Table Key Value) {change : Value → Option Other} (key : Key)
    {value : Value} {changed : Other} (becomes : change value = some changed) :
    (table.insert key value).filterMap change = (table.filterMap change).insert key changed := by
  ext1 other
  simp only [get_filterMap, get_insert]
  split <;> simp [becomes]

theorem filterMap_remove (table : Table Key Value) (change : Value → Option Other) (key : Key) :
    (table.remove key).filterMap change = (table.filterMap change).remove key := by
  ext1 other
  simp only [get_filterMap, get_remove]
  split <;> simp

end FilterMap

section OfList

variable {Item : Type v} {Found : Type u}

/-- The table of what the members of a list have, by position. -/
def ofList (has : Item → Option Found) (items : List Item) : Table Nat Found :=
  fun index => items[index]?.bind has

theorem get_ofList (has : Item → Option Found) (items : List Item) (index : Nat) :
    (ofList has items).get index = items[index]?.bind has := rfl

theorem ofList_concat (has : Item → Option Found) (items : List Item) {item : Item}
    (nothing : has item = none) : ofList has (items ++ [item]) = ofList has items := by
  ext1 index
  simp only [get_ofList, List.getElem?_append]
  split
  next => rfl
  next outside =>
    rw [List.getElem?_eq_none (Nat.le_of_not_lt outside)]
    cases index - items.length <;> simp [nothing]

theorem ofList_concat_insert (has : Item → Option Found) (items : List Item) {item : Item}
    {value : Found} (gained : has item = some value) :
    ofList has (items ++ [item]) = (ofList has items).insert items.length value := by
  ext1 index
  simp only [get_ofList, get_insert, List.getElem?_append]
  split
  next inside => rw [if_neg (Nat.ne_of_lt inside)]
  next outside =>
    split
    next last => simp [last, gained]
    next notLast =>
      rw [List.getElem?_eq_none (by simp; omega), List.getElem?_eq_none (by omega)]

theorem ofList_modify_of_eq (has : Item → Option Found) (items : List Item) (index : Nat)
    (change : Item → Item) (same : ∀ item, items[index]? = some item →
      has (change item) = has item) :
    ofList has (items.modify index change) = ofList has items := by
  ext1 other
  simp only [get_ofList, List.getElem?_modify]
  split
  next equal =>
    subst equal
    cases found : items[index]? with
    | none => rfl
    | some item => simp [same item found]
  next => simp

theorem ofList_modify_insert (has : Item → Option Found) {items : List Item} {index : Nat}
    {change : Item → Item} {item : Item} {value : Found} (position : items[index]? = some item)
    (gained : has (change item) = some value) :
    ofList has (items.modify index change) = (ofList has items).insert index value := by
  ext1 other
  simp only [get_ofList, get_insert, List.getElem?_modify]
  by_cases equal : other = index
  · subst equal
    simp [position, gained]
  · simp [equal, Ne.symm equal]

theorem ofList_modify_remove (has : Item → Option Found) {items : List Item} {index : Nat}
    {change : Item → Item} {item : Item} (position : items[index]? = some item)
    (lost : has (change item) = none) :
    ofList has (items.modify index change) = (ofList has items).remove index := by
  ext1 other
  simp only [get_ofList, get_remove, List.getElem?_modify]
  by_cases equal : other = index
  · subst equal
    simp [position, lost]
  · simp [equal, Ne.symm equal]

end OfList

end Table

end Ferroq.Library
