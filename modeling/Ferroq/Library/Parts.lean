import Mathlib.Data.List.Basic

/-!
# Parts

A system is a list of parts of which one goes on at a time: one part is replaced,
or a new one is added.  The rules say what remains to be shown for that part.
-/

namespace Ferroq.Library

universe u

variable {Part : Type u} {parts : List Part} {index : Nat}

theorem forall_mem_set {property : Part → Prop} (all : ∀ part ∈ parts, property part)
    {new : Part} (holds : property new) (index : Nat) :
    ∀ part ∈ parts.set index new, property part := by
  intro part listed
  rcases List.mem_or_eq_of_mem_set listed with earlier | rfl
  · exact all part earlier
  · exact holds

theorem forall_mem_concat {property : Part → Prop} (all : ∀ part ∈ parts, property part)
    {new : Part} (holds : property new) : ∀ part ∈ parts ++ [new], property part := by
  intro part listed
  rcases List.mem_append.mp listed with earlier | last
  · exact all part earlier
  · rw [List.mem_singleton.mp last]
    exact holds

/-- What all parts have is kept exactly when the part that goes on keeps it. -/
theorem forall_mem_set_iff {property : Part → Prop} (all : ∀ part ∈ parts, property part)
    {old : Part} (found : parts[index]? = some old) (new : Part) :
    (∀ part ∈ parts.set index new, property part) ↔ property new := by
  have bound := (List.getElem?_eq_some_iff.mp found).1
  constructor
  · intro kept
    exact kept new (List.mem_of_getElem? (List.getElem?_set_self bound))
  · intro holds
    exact forall_mem_set all holds index

theorem countP_set_add (test : Part → Bool) {old : Part} (found : parts[index]? = some old)
    (new : Part) :
    (parts.set index new).countP test + (if test old then 1 else 0) =
      parts.countP test + if test new then 1 else 0 := by
  obtain ⟨bound, rfl⟩ := List.getElem?_eq_some_iff.mp found
  have held : (if test parts[index] then 1 else 0) ≤ parts.countP test := by
    split
    next holds => exact List.countP_pos_iff.mpr ⟨_, List.getElem_mem bound, holds⟩
    next => exact Nat.zero_le _
  rw [List.countP_set bound]
  omega

/-- Any two parts at different places are related. -/
def Apart (relation : Part → Part → Prop) (parts : List Part) : Prop :=
  ∀ (first second : Nat) (left right : Part), first ≠ second → parts[first]? = some left →
    parts[second]? = some right → relation left right

theorem apart_nil (relation : Part → Part → Prop) : Apart relation [] := by
  intro first second left right different found
  simp at found

section Symmetric

variable {relation : Part → Part → Prop}
  (symmetric : ∀ left right, relation left right → relation right left)
include symmetric

theorem apart_set (apart : Apart relation parts) {new : Part}
    (related : ∀ (other : Nat) (part : Part), other ≠ index → parts[other]? = some part →
      relation new part) : Apart relation (parts.set index new) := by
  intro first second left right different firstFound secondFound
  rw [List.getElem?_set] at firstFound secondFound
  split at firstFound
  next same =>
    subst same
    rw [if_neg different] at secondFound
    split at firstFound
    next =>
      cases firstFound
      exact related second right (Ne.symm different) secondFound
    next => cases firstFound
  next elsewhere =>
    split at secondFound
    next same =>
      subst same
      split at secondFound
      next =>
        cases secondFound
        exact symmetric _ _ (related first left different firstFound)
      next => cases secondFound
    next => exact apart first second left right different firstFound secondFound

theorem apart_concat (apart : Apart relation parts) {new : Part}
    (related : ∀ part ∈ parts, relation new part) : Apart relation (parts ++ [new]) := by
  have place {position : Nat} {part : Part} (found : (parts ++ [new])[position]? = some part) :
      parts[position]? = some part ∨ (position = parts.length ∧ part = new) := by
    rw [List.getElem?_append] at found
    split at found
    next => exact .inl found
    next outside =>
      have bound := (List.getElem?_eq_some_iff.mp found).1
      rw [List.length_singleton] at bound
      exact .inr ⟨by omega, List.mem_singleton.mp (List.mem_of_getElem? found)⟩
  intro first second left right different firstFound secondFound
  rcases place firstFound with early | ⟨firstLast, rfl⟩
  · rcases place secondFound with alsoEarly | ⟨_, rfl⟩
    · exact apart first second left right different early alsoEarly
    · exact symmetric _ _ (related left (List.mem_of_getElem? early))
  · rcases place secondFound with early | ⟨secondLast, rfl⟩
    · exact related right (List.mem_of_getElem? early)
    · omega

end Symmetric

end Ferroq.Library
