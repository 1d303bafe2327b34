import Ferroq.Library.Table

/-!
# Registries of two parts

A keyed table and a list are kept in agreement by calls that update them one
after the other: an addition first lists its item and then makes it live, and a
removal first takes the live item and then erases the first item listed under
its key.  At rest the two agree, provided that no two additions of one key
overlap.
-/

namespace Ferroq.Library

universe u v w

/-- The two parts, the additions on their way with their key and the item they
have listed, and for each key the number of removals on their way. -/
structure Registry (Key : Type u) (Item : Type v) (Call : Type w) where
  live : Table Key Item
  listed : Key → List Item
  adding : Table Call (Key × Option Item)
  removing : Key → Nat

namespace Registry

variable {Key : Type u} {Item : Type v} {Call : Type w}

def empty : Registry Key Item Call :=
  { live := .empty, listed := fun _ => [], adding := .empty, removing := fun _ => 0 }

/-- What is listed under a key besides the items that removals will erase. -/
structure Current (registry : Registry Key Item Call) (key : Key) (items : List Item) : Prop where
  live : ∀ {item}, registry.live.get key = some item → items = [item]
  added : ∀ {call item}, registry.adding.get call = some (key, some item) → items = [item]
  nothing : registry.live.get key = none →
    (∀ call item, registry.adding.get call ≠ some (key, some item)) → items = []

/-- Additions of a key do not overlap, and the items that removals will erase
are listed first. -/
structure Sound (registry : Registry Key Item Call) : Prop where
  alone : ∀ {first second key listed other},
    registry.adding.get first = some (key, listed) →
      registry.adding.get second = some (key, other) → first = second
  absent : ∀ {call key listed}, registry.adding.get call = some (key, listed) →
    registry.live.get key = none
  ordered : ∀ key, ∃ old current, registry.listed key = old ++ current ∧
    old.length = registry.removing key ∧ registry.Current key current

theorem empty_sound : (empty : Registry Key Item Call).Sound where
  alone found := by simp [empty] at found
  absent found := by simp [empty] at found
  ordered key := ⟨[], [], rfl, rfl,
    { live := fun found => by simp [empty] at found
      added := fun found => by simp [empty] at found
      nothing := fun _ _ => rfl }⟩

/-- With no call on its way, exactly the live items are listed. -/
theorem Sound.listed_of_settled {registry : Registry Key Item Call} (sound : registry.Sound)
    {key : Key} (noAddition : ∀ call listed, registry.adding.get call ≠ some (key, listed))
    (noRemoval : registry.removing key = 0) :
    registry.listed key = (registry.live.get key).toList := by
  obtain ⟨old, current, listed, count, here⟩ := sound.ordered key
  have none : old = [] := List.length_eq_zero_iff.mp (count.trans noRemoval)
  rw [listed, none, List.nil_append]
  cases found : registry.live.get key with
  | some item => exact here.live found
  | none => exact here.nothing found fun call item => noAddition call (some item)

section Operations

variable [DecidableEq Key] [DecidableEq Call] (registry : Registry Key Item Call)

def start (call : Call) (key : Key) : Registry Key Item Call :=
  { registry with adding := registry.adding.insert call (key, none) }

def enlist (call : Call) (key : Key) (item : Item) : Registry Key Item Call :=
  { registry with
    adding := registry.adding.insert call (key, some item)
    listed := fun other =>
      if other = key then registry.listed other ++ [item] else registry.listed other }

/-- An addition makes its item live, and ends. -/
def publish (call : Call) (key : Key) (item : Item) : Registry Key Item Call :=
  { registry with
    adding := registry.adding.remove call
    live := registry.live.insert key item }

/-- A removal takes the live item. -/
def withdraw (key : Key) : Registry Key Item Call :=
  { registry with
    live := registry.live.remove key
    removing := fun other =>
      if other = key then registry.removing other + 1 else registry.removing other }

/-- A removal erases the first item of its key, and ends. -/
def erase (key : Key) : Registry Key Item Call :=
  { registry with
    listed := fun other =>
      if other = key then (registry.listed other).tail else registry.listed other
    removing := fun other =>
      if other = key then registry.removing other - 1 else registry.removing other }

variable {registry}

omit [DecidableEq Key] in
theorem Sound.alone_insert (sound : registry.Sound) {call : Call} {key : Key}
    {entered : Option Item}
    (sole : ∀ {other listed}, registry.adding.get other = some (key, listed) → other = call)
    {first second : Call} {shared : Key} {listed other : Option Item}
    (found : (registry.adding.insert call (key, entered)).get first = some (shared, listed))
    (foundOther : (registry.adding.insert call (key, entered)).get second =
      some (shared, other)) : first = second := by
  rcases (Table.get_insert_eq_some_iff _ _ _ _ _).mp found with ⟨rfl, same⟩ | ⟨_, before⟩ <;>
    rcases (Table.get_insert_eq_some_iff _ _ _ _ _).mp foundOther with
      ⟨rfl, same'⟩ | ⟨_, before'⟩
  · rfl
  · cases same
    exact (sole before').symm
  · cases same'
    exact sole before
  · exact sound.alone before before'

omit [DecidableEq Key] in
theorem Sound.start (sound : registry.Sound) {call : Call} {key : Key}
    (free : registry.live.get key = none)
    (sole : ∀ other listed, registry.adding.get other ≠ some (key, listed))
    (fresh : registry.adding.get call = none) : (registry.start call key).Sound where
  alone found foundOther := by
    apply sound.alone_insert _ found foundOther
    intro other listed before
    exact absurd before (sole other listed)
  absent := by
    intro other shared listed found
    rcases (Table.get_insert_eq_some_iff _ _ _ _ _).mp found with ⟨_, same⟩ | ⟨_, before⟩
    · cases same
      exact free
    · exact sound.absent before
  ordered := by
    intro other
    obtain ⟨old, current, listed, count, here⟩ := sound.ordered other
    refine ⟨old, current, listed, count, here.live, ?_, ?_⟩
    · intro adding item found
      rcases (Table.get_insert_eq_some_iff _ _ _ _ _).mp found with ⟨_, same⟩ | ⟨_, before⟩
      · cases same
      · exact here.added before
    · intro dead unlisted
      apply here.nothing dead
      intro adding item found
      apply unlisted adding item
      have different : adding ≠ call := by
        rintro rfl
        rw [fresh] at found
        cases found
      exact (Table.get_insert_of_ne _ _ different).trans found

theorem Sound.enlist (sound : registry.Sound) {call : Call} {key : Key} (item : Item)
    (started : registry.adding.get call = some (key, none)) :
    (registry.enlist call key item).Sound where
  alone found foundOther := by
    apply sound.alone_insert _ found foundOther
    intro other listed before
    exact sound.alone before started
  absent := by
    intro other shared listed found
    rcases (Table.get_insert_eq_some_iff _ _ _ _ _).mp found with ⟨_, same⟩ | ⟨_, before⟩
    · cases same
      exact sound.absent started
    · exact sound.absent before
  ordered := by
    intro other
    obtain ⟨old, current, listed, count, here⟩ := sound.ordered other
    by_cases same : other = key
    · subst same
      -- Nothing was live or listed for the key of the one addition.
      have unlisted : current = [] := by
        apply here.nothing (sound.absent started)
        intro adding earlier found
        cases sound.alone started found
        rw [started] at found
        cases found
      subst unlisted
      refine ⟨old, [item], by simp [Registry.enlist, listed], count, ?_, ?_, ?_⟩
      · intro live found
        have dead := sound.absent started
        rw [show registry.live.get other = some live from found] at dead
        cases dead
      · intro adding added found
        rcases (Table.get_insert_eq_some_iff _ _ _ _ _).mp found with
          ⟨_, same⟩ | ⟨different, before⟩
        · cases same
          rfl
        · exact absurd (sound.alone before started) different
      · intro _ unadded
        exact absurd (Table.get_insert_self _ _ _) (unadded call item)
    · refine ⟨old, current, by simp [Registry.enlist, same, listed], count, here.live, ?_, ?_⟩
      · intro adding added found
        rcases (Table.get_insert_eq_some_iff _ _ _ _ _).mp found with
          ⟨_, equal⟩ | ⟨_, before⟩
        · cases equal
          exact absurd rfl same
        · exact here.added before
      · intro dead unadded
        apply here.nothing dead
        intro adding added found
        have different : adding ≠ call := by
          rintro rfl
          rw [started] at found
          cases found
        exact unadded adding added ((Table.get_insert_of_ne _ _ different).trans found)

theorem Sound.publish (sound : registry.Sound) {call : Call} {key : Key} {item : Item}
    (listed : registry.adding.get call = some (key, some item)) :
    (registry.publish call key item).Sound where
  alone := by
    intro first second shared earlier other found foundOther
    exact sound.alone ((Table.get_remove_eq_some_iff _ _ _ _).mp found).2
      ((Table.get_remove_eq_some_iff _ _ _ _).mp foundOther).2
  absent := by
    intro other shared earlier found
    obtain ⟨different, before⟩ := (Table.get_remove_eq_some_iff _ _ _ _).mp found
    have elsewhere : shared ≠ key := by
      rintro rfl
      exact different (sound.alone before listed)
    exact (Table.get_insert_of_ne _ _ elsewhere).trans (sound.absent before)
  ordered := by
    intro other
    obtain ⟨old, current, order, count, here⟩ := sound.ordered other
    refine ⟨old, current, order, count, ?_, ?_, ?_⟩
    · intro live found
      rcases (Table.get_insert_eq_some_iff _ _ _ _ _).mp found with ⟨rfl, rfl⟩ | ⟨_, before⟩
      · exact here.added listed
      · exact here.live before
    · intro adding added found
      exact here.added ((Table.get_remove_eq_some_iff _ _ _ _).mp found).2
    · intro dead unadded
      have different : other ≠ key := by
        rintro rfl
        rw [show (registry.publish call other item).live.get other = some item from
          Table.get_insert_self _ _ _] at dead
        cases dead
      apply here.nothing
      · exact (Table.get_insert_of_ne _ _ different).symm.trans dead
      · intro adding added found
        have elsewhere : adding ≠ call := by
          rintro rfl
          rw [listed] at found
          cases found
          exact different rfl
        exact unadded adding added ((Table.get_remove_of_ne _ elsewhere).trans found)

omit [DecidableEq Call] in
theorem Sound.withdraw (sound : registry.Sound) {key : Key} {item : Item}
    (live : registry.live.get key = some item) : (registry.withdraw key).Sound where
  alone := sound.alone
  absent := by
    intro other shared listed found
    have dead := sound.absent found
    have different : shared ≠ key := by
      rintro rfl
      rw [live] at dead
      cases dead
    exact (Table.get_remove_of_ne _ different).trans dead
  ordered := by
    intro other
    obtain ⟨old, current, listed, count, here⟩ := sound.ordered other
    by_cases same : other = key
    · subst same
      -- The live item joins those that removals will erase.
      refine ⟨old ++ [item], [], ?_, by simp [Registry.withdraw, count], ?_, ?_, ?_⟩
      · rw [List.append_nil, ← here.live live]
        exact listed
      · intro taken found
        rw [show (registry.withdraw other).live.get other = none from
          Table.get_remove_self _ _] at found
        cases found
      · intro adding added found
        have dead := sound.absent found
        rw [live] at dead
        cases dead
      · intro _ _
        rfl
    · refine ⟨old, current, listed, by simp [Registry.withdraw, same, count], ?_, here.added, ?_⟩
      · intro found live
        exact here.live ((Table.get_remove_eq_some_iff _ _ _ _).mp live).2
      · intro dead
        exact here.nothing ((Table.get_remove_of_ne _ same).symm.trans dead)

omit [DecidableEq Call] in
theorem Sound.erase (sound : registry.Sound) {key : Key} (taken : 0 < registry.removing key) :
    (registry.erase key).Sound where
  alone := sound.alone
  absent := sound.absent
  ordered := by
    intro other
    obtain ⟨old, current, listed, count, here⟩ := sound.ordered other
    by_cases same : other = key
    · subst same
      cases old with
      | nil =>
          rw [← count] at taken
          cases taken
      | cons first rest =>
          refine ⟨rest, current, by simp [Registry.erase, listed], ?_,
            ⟨here.live, here.added, here.nothing⟩⟩
          simp [Registry.erase, ← count]
    · exact ⟨old, current, by simp [Registry.erase, same, listed],
        by simp [Registry.erase, same, count], ⟨here.live, here.added, here.nothing⟩⟩

end Operations

end Registry

end Ferroq.Library
