import Mathlib.Data.List.Count
import Mathlib.Data.List.Nodup
import Mathlib.Data.List.Pairwise
import Mathlib.Data.List.Perm.Basic
import Mathlib.Order.Lattice

/-!
# Pages of independently sorted lists

Items are shown in pages, and each page is cut from an arrangement of its own
that is sorted by the same keys, items of one key in any order.  Together the
pages show every item once exactly if no group of items of one key reaches over
the end of a page.
-/

namespace Ferroq.Library

variable {Item Key : Type} [LinearOrder Key] {key : Item → Key} {items arranged : List Item}

/-- An arrangement of some items, largest keys first. -/
def Arranged (key : Item → Key) (items arranged : List Item) : Prop :=
  arranged.Perm items ∧ arranged.Pairwise fun earlier later => key later ≤ key earlier

def above (key : Item → Key) (items : List Item) (bound : Key) : Nat :=
  items.countP fun item => bound < key item

def atLeast (key : Item → Key) (items : List Item) (bound : Key) : Nat :=
  items.countP fun item => bound ≤ key item

/-- The items of some key reach over the end of a page. -/
def Straddles (key : Item → Key) (items : List Item) (size : Nat) : Prop :=
  ∃ bound page, above key items bound < page * size ∧ page * size < atLeast key items bound

theorem Arranged.position (sorted : Arranged key items arranged) {before after : List Item}
    {item : Item} (split : arranged = before ++ item :: after) :
    above key items (key item) ≤ before.length ∧
      before.length < atLeast key items (key item) := by
  obtain ⟨same, descending⟩ := sorted
  rw [split, List.pairwise_append, List.pairwise_cons] at descending
  obtain ⟨-, ⟨below, -⟩, across⟩ := descending
  unfold above atLeast
  rw [← same.countP_eq, ← same.countP_eq, split, List.countP_append, List.countP_append,
    List.countP_cons_of_neg (by simp), List.countP_cons_of_pos (by simp)]
  constructor
  · have none : after.countP (fun other => key item < key other) = 0 := by
      apply List.countP_eq_zero.mpr
      intro other behind
      simpa using below other behind
    rw [none, Nat.add_zero]
    exact List.countP_le_length
  · have all : before.countP (fun other => key item ≤ key other) = before.length := by
      apply List.countP_eq_length.mpr
      intro other ahead
      simpa using across other ahead item List.mem_cons_self
    omega

def pageOf (key : Item → Key) (items : List Item) (size : Nat) (item : Item) : Nat :=
  above key items (key item) / size

/-- If no group reaches over the end of a page, an item stands on its page in
every arrangement. -/
theorem Arranged.pageOf_eq (sorted : Arranged key items arranged) {size : Nat}
    (positive : 0 < size) (apart : ¬ Straddles key items size) {before after : List Item}
    {item : Item} (split : arranged = before ++ item :: after) :
    pageOf key items size item = before.length / size := by
  obtain ⟨first, last⟩ := sorted.position split
  have notLater : pageOf key items size item ≤ before.length / size :=
    Nat.div_le_div_right first
  by_contra different
  have later : pageOf key items size item < before.length / size := by omega
  apply apart
  refine ⟨key item, before.length / size, (Nat.div_lt_iff_lt_mul positive).mp later, ?_⟩
  exact Nat.lt_of_le_of_lt (Nat.div_mul_le_self before.length size) last

section Rank

variable {rank : Item → Nat} {size : Nat}
  (ranked : ∀ before item after, arranged = before ++ item :: after →
    rank item = before.length / size)
include ranked

theorem exists_place (front part back : List Item) (split : arranged = front ++ (part ++ back))
    {item : Item} (listed : item ∈ part) :
    ∃ place, front.length ≤ place ∧ place < front.length + part.length ∧
      rank item = place / size := by
  obtain ⟨before, after, rfl⟩ := List.mem_iff_append.mp listed
  refine ⟨(front ++ before).length, by simp, by simp, ranked _ item (after ++ back) ?_⟩
  rw [split]
  simp

theorem filter_part_eq_nil (front part back : List Item)
    (split : arranged = front ++ (part ++ back)) {page : Nat}
    (elsewhere : ∀ place, front.length ≤ place → place < front.length + part.length →
      place / size ≠ page) : part.filter (fun item => rank item = page) = [] := by
  apply List.filter_eq_nil_iff.mpr
  intro item listed
  obtain ⟨place, behind, within, rankIs⟩ := exists_place ranked front part back split listed
  simpa [rankIs] using elsewhere place behind within

theorem filter_part_eq_self (front part back : List Item)
    (split : arranged = front ++ (part ++ back)) {page : Nat}
    (there : ∀ place, front.length ≤ place → place < front.length + part.length →
      place / size = page) : part.filter (fun item => rank item = page) = part := by
  apply List.filter_eq_self.mpr
  intro item listed
  obtain ⟨place, behind, within, rankIs⟩ := exists_place ranked front part back split listed
  simpa [rankIs] using there place behind within

theorem page_eq_filter (positive : 0 < size) (page : Nat) :
    (arranged.drop (page * size)).take size = arranged.filter fun item => rank item = page := by
  generalize front : arranged.take (page * size) = earlier
  generalize shown : (arranged.drop (page * size)).take size = middle
  generalize back : (arranged.drop (page * size)).drop size = later
  have split : arranged = earlier ++ (middle ++ later) := by
    rw [← front, ← shown, ← back, List.take_append_drop, List.take_append_drop]
  have frontLength : earlier.length = min (page * size) arranged.length := by
    rw [← front, List.length_take]
  have shownLength : middle.length = min size (arranged.length - page * size) := by
    rw [← shown, List.length_take, List.length_drop]
  have next : (page + 1) * size = page * size + size := Nat.succ_mul page size
  have noneEarlier : earlier.filter (fun item => rank item = page) = [] := by
    apply filter_part_eq_nil ranked [] earlier (middle ++ later) split
    intro place _ within
    have before : place < page * size := by
      rw [List.length_nil] at within
      omega
    exact Nat.ne_of_lt ((Nat.div_lt_iff_lt_mul positive).mpr before)
  have allMiddle : middle.filter (fun item => rank item = page) = middle := by
    apply filter_part_eq_self ranked earlier middle later split
    intro place behind within
    exact Nat.div_eq_of_lt_le (by omega) (by rw [next]; omega)
  have noneLater : later.filter (fun item => rank item = page) = [] := by
    have splitLater : arranged = (earlier ++ middle) ++ (later ++ []) := by
      rw [split, List.append_nil, List.append_assoc]
    have laterLength : later.length = arranged.length - page * size - size := by
      rw [← back, List.length_drop, List.length_drop]
    apply filter_part_eq_nil ranked (earlier ++ middle) later [] splitLater
    intro place behind within
    rw [List.length_append] at behind within
    have past : (page + 1) * size ≤ place := by omega
    exact Nat.ne_of_gt ((Nat.le_div_iff_mul_le positive).mpr past)
  calc middle = earlier.filter (fun item => rank item = page) ++
        (middle.filter (fun item => rank item = page) ++
          later.filter (fun item => rank item = page)) := by
        rw [noneEarlier, allMiddle, noneLater, List.nil_append, List.append_nil]
    _ = arranged.filter fun item => rank item = page := by
        rw [split, List.filter_append, List.filter_append]

end Rank

def pageAt (size page : Nat) (arranged : List Item) : List Item :=
  (arranged.drop (page * size)).take size

theorem Arranged.pageAt_eq (sorted : Arranged key items arranged) {size : Nat}
    (positive : 0 < size) (apart : ¬ Straddles key items size) (page : Nat) :
    pageAt size page arranged = arranged.filter fun item => pageOf key items size item = page :=
  page_eq_filter (fun _ _ _ split => sorted.pageOf_eq positive apart split) positive page

theorem flatMap_filter_perm (rank : Item → Nat) (items : List Item) (pages : Nat) :
    ((List.range pages).flatMap fun page => items.filter fun item => rank item = page).Perm
      (items.filter fun item => rank item < pages) := by
  induction pages with
  | zero => simp
  | succ pages hypothesis =>
      rw [List.range_succ, List.flatMap_append, List.flatMap_singleton]
      apply (hypothesis.append_right _).trans
      have parts := List.filter_append_perm (fun item => rank item < pages)
        (items.filter fun item => rank item < pages + 1)
      apply List.Perm.trans _ parts
      rw [List.filter_filter, List.filter_filter]
      apply List.Perm.of_eq
      congr 1
      · apply List.filter_congr
        intro item _
        simpa using Nat.lt_succ_of_lt
      · apply List.filter_congr
        intro item _
        rw [Bool.eq_iff_iff]
        simp
        omega

theorem pages_perm {arrange : Nat → List Item}
    (sorted : ∀ page, Arranged key items (arrange page)) {size : Nat} (positive : 0 < size)
    (apart : ¬ Straddles key items size) {pages : Nat} (enough : items.length ≤ pages * size) :
    ((List.range pages).flatMap fun page => pageAt size page (arrange page)).Perm items := by
  have ranks : ∀ item ∈ items, pageOf key items size item < pages := by
    intro item listed
    apply (Nat.div_lt_iff_lt_mul positive).mpr
    apply Nat.lt_of_lt_of_le _ enough
    exact List.countP_lt_length_iff.mpr ⟨item, listed, by simp⟩
  calc
    List.Perm ((List.range pages).flatMap fun page => pageAt size page (arrange page))
        ((List.range pages).flatMap fun page =>
          items.filter fun item => pageOf key items size item = page) := by
      apply List.Perm.flatMap_left
      intro page _
      rw [(sorted page).pageAt_eq positive apart]
      exact (sorted page).1.filter _
    List.Perm _ (items.filter fun item => pageOf key items size item < pages) :=
      flatMap_filter_perm _ items pages
    _ = items := List.filter_eq_self.mpr fun item listed => by simpa using ranks item listed

theorem atLeast_le_above (key : Item → Key) (items : List Item) {lower higher : Key}
    (less : lower < higher) :
    atLeast key items higher ≤ above key items lower := by
  apply List.countP_mono_left
  intro item _ reached
  simp only [decide_eq_true_eq] at reached ⊢
  exact less.trans_le reached

theorem Arranged.key_eq (sorted : Arranged key items arranged) {before after : List Item}
    {item : Item} (split : arranged = before ++ item :: after) (bound : Key)
    (behind : above key items bound ≤ before.length)
    (within : before.length < atLeast key items bound) : key item = bound := by
  obtain ⟨first, last⟩ := sorted.position split
  apply le_antisymm
  · by_contra larger
    have none := atLeast_le_above key items (not_le.mp larger)
    omega
  · by_contra smaller
    have none := atLeast_le_above key items (not_le.mp smaller)
    omega

theorem Arranged.exchange {before after : List Item} {first second : Item}
    (sorted : Arranged key items (before ++ first :: second :: after))
    (equal : key first = key second) :
    Arranged key items (before ++ second :: first :: after) := by
  obtain ⟨same, descending⟩ := sorted
  constructor
  · exact ((List.Perm.swap first second after).append_left before).trans same
  · rw [List.pairwise_append, List.pairwise_cons, List.pairwise_cons] at descending ⊢
    obtain ⟨ahead, ⟨belowFirst, belowSecond, rest⟩, across⟩ := descending
    refine ⟨ahead, ⟨?_, ?_, rest⟩, ?_⟩
    · intro other behind
      rcases List.mem_cons.mp behind with rfl | later
      · exact equal.le
      · exact belowSecond other later
    · intro other behind
      exact belowFirst other (List.mem_cons_of_mem _ behind)
    · intro earlier listed later behind
      apply across earlier listed later
      simp only [List.mem_cons] at behind ⊢
      tauto

theorem Straddles.exists_neighbours {size : Nat} (straddles : Straddles key items size)
    (sorted : Arranged key items arranged) :
    ∃ page before first second after, before.length + 1 = (page + 1) * size ∧
      arranged = before ++ first :: second :: after ∧ key first = key second := by
  obtain ⟨bound, border, behind, within⟩ := straddles
  cases border with
  | zero => simp at behind
  | succ page =>
      have long : atLeast key items bound ≤ arranged.length := by
        rw [sorted.1.length_eq]
        exact List.countP_le_length
      generalize cut : (page + 1) * size - 1 = place
      have length : (arranged.take place).length = place := by
        rw [List.length_take]
        omega
      have split : arranged = arranged.take place ++ arranged[place] :: arranged[place + 1] ::
          arranged.drop (place + 2) := by
        rw [← List.drop_eq_getElem_cons, ← List.drop_eq_getElem_cons, List.take_append_drop]
      have splitBehind : arranged = (arranged.take place ++ [arranged[place]]) ++
          arranged[place + 1] :: arranged.drop (place + 2) := by
        rw [List.append_assoc]
        exact split
      refine ⟨page, _, _, _, _, by omega, split, ?_⟩
      rw [sorted.key_eq split bound (by omega) (by omega),
        sorted.key_eq splitBehind bound (by simp; omega) (by simp; omega)]

theorem mem_pageAt {size : Nat} (positive : 0 < size) (before after : List Item) (item : Item) :
    item ∈ pageAt size (before.length / size) (before ++ item :: after) := by
  have start := Nat.div_mul_le_self before.length size
  have room := Nat.lt_div_mul_add (a := before.length) positive
  rw [pageAt, List.drop_append_of_le_length start, List.take_append, List.length_drop]
  obtain ⟨more, left⟩ : ∃ more, size - (before.length - before.length / size * size) = more + 1 :=
    ⟨size - (before.length - before.length / size * size) - 1, by omega⟩
  rw [left, List.take_succ_cons]
  simp

theorem not_straddles_of_nodup {size : Nat} (sorted : Arranged key items arranged)
    (distinct : (items.map key).Nodup) : ¬ Straddles key items size := by
  intro straddles
  obtain ⟨_, _, _, _, _, -, rfl, equal⟩ := straddles.exists_neighbours sorted
  have apart := (sorted.1.map key).nodup_iff.mpr distinct
  simp [equal, List.nodup_append] at apart

/-- If a group reaches over the end of a page, two arrangements of which one gives
one page and the other gives the rest show an item twice. -/
theorem Straddles.pages_not_nodup {size : Nat} (positive : 0 < size)
    (straddles : Straddles key items size) (sorted : Arranged key items arranged) :
    ∃ other cut, Arranged key items other ∧ ∀ pages, items.length ≤ pages * size →
      ¬ ((List.range pages).flatMap fun page =>
        pageAt size page (if page = cut then other else arranged)).Nodup := by
  obtain ⟨page, before, first, second, after, ends, rfl, equal⟩ :=
    straddles.exists_neighbours sorted
  refine ⟨_, page + 1, sorted.exchange equal, ?_⟩
  intro pages enough distinct
  rw [← sorted.1.length_eq] at enough
  have shown : first ∈ pageAt size page (before ++ first :: second :: after) := by
    have place : before.length / size = page := by
      apply Nat.div_eq_of_lt_le
      · rw [Nat.succ_mul] at ends
        omega
      · omega
    rw [← place]
    exact mem_pageAt positive before _ first
  have shownAgain : first ∈ pageAt size (page + 1) (before ++ second :: first :: after) := by
    have again := mem_pageAt positive (before ++ [second]) after first
    rw [List.length_append, List.length_singleton, ends, Nat.mul_div_cancel _ positive,
      List.append_assoc] at again
    exact again
  have inRange : page + 1 < pages := by
    apply Nat.lt_of_mul_lt_mul_right (a := size)
    simp only [List.length_append, List.length_cons] at enough
    omega
  have apart := (List.nodup_flatMap.mp distinct).2
  have earlier := List.pairwise_iff_getElem.mp apart page (page + 1) (by simp; omega)
    (by simp; omega) (Nat.lt_succ_self page)
  simp only [List.getElem_range, Function.onFun, if_neg (Nat.ne_of_lt (Nat.lt_succ_self page)),
    if_pos] at earlier
  exact earlier shown shownAgain

end Ferroq.Library
