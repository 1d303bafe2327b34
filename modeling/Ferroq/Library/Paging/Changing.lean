import Ferroq.Library.Paging

/-!
# Pages of items that come and go

Pages are cut one after another, and items come and go between two of them.  An
item whose key no other item has stands behind exactly the items above it.  It
is therefore on the next page or behind this, unless it was before it already.
-/

namespace Ferroq.Library

variable {Item Key : Type} [LinearOrder Key] {key : Item → Key} {items arranged : List Item}

/-- No other item has the key of this one. -/
def Alone (key : Item → Key) (items : List Item) (item : Item) : Prop :=
  ∀ other ∈ items, key other = key item → other = item

omit [LinearOrder Key] in
theorem Alone.of_subset {others : List Item} {item : Item} (alone : Alone key others item)
    (subset : ∀ other ∈ items, key other = key item → other ∈ others) :
    Alone key items item :=
  fun other listed equal => alone other (subset other listed equal) equal

/-- The place of an item that is alone is fixed by the items above it. -/
theorem Arranged.length_eq_above (sorted : Arranged key items arranged)
    (distinct : items.Nodup) {before after : List Item} {item : Item}
    (alone : Alone key items item) (split : arranged = before ++ item :: after) :
    before.length = above key items (key item) := by
  apply le_antisymm
  · obtain ⟨same, descending⟩ := sorted
    have distinctHere := same.nodup_iff.mpr distinct
    rw [split] at descending distinctHere same
    have across := (List.pairwise_append.mp descending).2.2
    have all : before.countP (fun other => key item < key other) = before.length := by
      apply List.countP_eq_length.mpr
      intro other ahead
      have notSmaller := across other ahead item List.mem_cons_self
      have different : key item ≠ key other := by
        intro equal
        have listed := same.mem_iff.mp (List.mem_append_left _ ahead)
        have itself := alone other listed equal.symm
        exact (List.nodup_append.mp distinctHere).2.2 other ahead item List.mem_cons_self itself
      simpa using lt_of_le_of_ne notSmaller different
    rw [above, ← same.countP_eq, List.countP_append, all]
    exact Nat.le_add_right _ _
  · exact (sorted.position split).1

theorem Arranged.mem_pageAt_or_behind (sorted : Arranged key items arranged)
    (distinct : items.Nodup) {size : Nat} (positive : 0 < size) {item : Item}
    (listed : item ∈ items) (alone : Alone key items item) {page : Nat}
    (notBefore : page * size ≤ above key items (key item)) :
    item ∈ pageAt size page arranged ∨ (page + 1) * size ≤ above key items (key item) := by
  obtain ⟨before, after, split⟩ := List.mem_iff_append.mp (sorted.1.mem_iff.mpr listed)
  have place := sorted.length_eq_above distinct alone split
  rw [← place] at notBefore ⊢
  by_cases behind : (page + 1) * size ≤ before.length
  · exact .inr behind
  · left
    have onPage : before.length / size = page :=
      Nat.div_eq_of_lt_le notBefore (not_le.mp behind)
    rw [split, ← onPage]
    exact mem_pageAt positive before after item

theorem Arranged.above_of_mem_pageAt (sorted : Arranged key items arranged)
    (distinct : items.Nodup) {size page : Nat} {item : Item}
    (alone : Alone key items item) (shown : item ∈ pageAt size page arranged) :
    page * size ≤ above key items (key item) ∧ above key items (key item) < (page + 1) * size := by
  obtain ⟨place, within, found⟩ := List.getElem_of_mem shown
  simp only [pageAt, List.length_take, List.length_drop] at within
  simp only [pageAt, List.getElem_take, List.getElem_drop] at found
  have inside : page * size + place < arranged.length := by omega
  have split : arranged = arranged.take (page * size + place) ++
      item :: arranged.drop (page * size + place + 1) := by
    rw [← found, ← List.drop_eq_getElem_cons, List.take_append_drop]
  have length : (arranged.take (page * size + place)).length = page * size + place := by
    rw [List.length_take]
    omega
  rw [← sorted.length_eq_above distinct alone split, length, Nat.succ_mul]
  omega

theorem above_le_of_sublist {others : List Item} (more : items.Sublist others) (bound : Key) :
    above key items bound ≤ above key others bound :=
  more.countP_le

theorem above_filter {keeps : Item → Bool} {bound : Key}
    (kept : ∀ other ∈ items, bound < key other → keeps other = true) :
    above key (items.filter keeps) bound = above key items bound := by
  rw [above, above, List.countP_filter]
  apply List.countP_congr
  intro other listed
  simpa using kept other listed

theorem above_lt_length {item : Item} (listed : item ∈ items) :
    above key items (key item) < items.length :=
  List.countP_lt_length_iff.mpr ⟨item, listed, by simp⟩

end Ferroq.Library
