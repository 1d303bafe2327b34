import Mathlib.Data.List.Perm.Basic

/-!
# Lists and their images

What a list of images says of the list that it came from: a selection from it
and an arrangement of it come from a selection and an arrangement of the items.
-/

namespace Ferroq.Library

variable {Item Image : Type} (image : Item → Image)

/-- Of two tests, of which one passes more, both leave the same images exactly if
they leave the same items. -/
theorem map_filter_eq_iff {more fewer : Item → Bool}
    (weaker : ∀ item, fewer item = true → more item = true) (items : List Item) :
    (items.filter more).map image = (items.filter fewer).map image ↔
      ∀ item ∈ items, more item = true → fewer item = true := by
  constructor
  · intro sameImages item stored passes
    have sameLength : (items.filter fewer).length = (items.filter more).length := by
      have lengths := congrArg List.length sameImages
      simpa using lengths.symm
    have same := (List.monotone_filter_right items weaker).eq_of_length sameLength
    have kept : item ∈ items.filter fewer := same ▸ List.mem_filter.mpr ⟨stored, passes⟩
    exact (List.mem_filter.mp kept).2
  · intro agrees
    congr 1
    apply List.filter_congr
    intro item stored
    rw [Bool.eq_iff_iff]
    exact ⟨agrees item stored, weaker item⟩

theorem filter_map_eq {imageTest : Image → Bool} {itemTest : Item → Bool} {items : List Item}
    (agrees : ∀ item ∈ items, imageTest (image item) = itemTest item) :
    (items.map image).filter imageTest = (items.filter itemTest).map image := by
  rw [List.filter_map]
  congr 1
  exact List.filter_congr agrees

theorem exists_perm_of_perm_map {images : List Image} {items : List Item}
    (arranged : images.Perm (items.map image)) :
    ∃ ordered : List Item, ordered.Perm items ∧ images = ordered.map image := by
  have composed : Relation.Comp (· = List.map image ·) List.Perm images items := by
    rw [List.eq_map_comp_perm]
    exact arranged
  obtain ⟨ordered, equal, sameItems⟩ := composed
  exact ⟨ordered, sameItems, equal⟩

end Ferroq.Library
