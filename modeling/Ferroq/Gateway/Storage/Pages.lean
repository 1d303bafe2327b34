import Ferroq.Gateway.Storage.Search
import Ferroq.Library.Paging
import Mathlib.Data.Nat.Find
import Mathlib.Data.String.Basic

/-!
# Reading a result in pages

A long result is read by queries for one page after another until one is empty.
Each query sorts for itself by the time alone, which has a resolution of one
second, so that the rows of one time may change places between two pages.
-/

namespace Ferroq.Gateway.Storage

open Ferroq.Core
open Ferroq.Library

def MessageQuery.paged (query : MessageQuery) (limit offset : UInt32) : MessageQuery :=
  { query with limit := some limit, offset := some offset }

def MessageStore.matching (like : String → String → Bool) (store : MessageStore)
    (query : MessageQuery) : List Row :=
  store.rows.filter (query.condition like)

def shownIds (answers : Nat → MessageQueryResult) (pages : Nat) : List Nat :=
  (List.range pages).flatMap fun page => (answers page).messages.map StoredMessage.id

/-- The pages up to the first empty one show each of some rows once, and every
answer counts what is shown. -/
def ShowsOnce (rows : List Row) (size : UInt32) (answers : Nat → MessageQueryResult) : Prop :=
  ∃ pages, pages * size.toNat < 2 ^ 32 ∧ (∀ page < pages, (answers page).messages ≠ []) ∧
    (answers pages).messages = [] ∧ (shownIds answers pages).Perm (rows.map Row.id) ∧
    ∀ page, (answers page).total = (shownIds answers pages).length

/-- However the database sorts for each of them, queries for pages of one size
show every row that meets the query once. -/
def PagesComplete (like : String → String → Bool) (store : MessageStore) (query : MessageQuery)
    (size : UInt32) : Prop :=
  ∀ (parseFromStr : String → String → Option DateTime) (orders : Nat → Descending)
    (nows : Nat → Row → DateTime),
    ShowsOnce (store.matching like query) size fun page =>
      store.query like parseFromStr (orders page)
        (query.paged size (UInt32.ofNat (page * size.toNat))) (nows page)

/-- The end of some rows is an offset that a query can ask for. -/
def WithinOffsets (rows : List Row) (size : UInt32) : Prop :=
  ∃ pages, pages * size.toNat < 2 ^ 32 ∧ rows.length ≤ pages * size.toNat

theorem Descending.arranged (order : Descending) (rows : List Row) :
    Arranged Row.time rows (order.arrange rows) :=
  ⟨order.perm rows, order.descending rows⟩

/-- A database may carry out the order by any arrangement of the rows. -/
theorem exists_order {rows list : List Row} (arranged : Arranged Row.time rows list) :
    ∃ order : Descending, order.arrange rows = list := by
  classical
  refine ⟨⟨fun others => if others = rows then list else Descending.stable.arrange others,
    ?_, ?_⟩, if_pos rfl⟩
  · intro others
    split
    next same => exact same ▸ arranged.1
    next => exact Descending.stable.perm others
  · intro others
    split
    next => exact arranged.2
    next => exact Descending.stable.descending others

section Answers

variable {like : String → String → Bool} {store : MessageStore} {query : MessageQuery}
  {size : UInt32} {parseFromStr : String → String → Option DateTime} {order : Descending}
  {now : Row → DateTime}

theorem paged_messages (most : size ≤ 500) {page : Nat}
    (reached : page * size.toNat < 2 ^ 32) :
    (store.query like parseFromStr order
        (query.paged size (UInt32.ofNat (page * size.toNat))) now).messages =
      (pageAt size.toNat page (order.arrange (store.matching like query))).map fun row =>
        row.toMessage parseFromStr (now row) := by
  have limit : min size 500 = size := if_pos most
  have offset : (UInt32.ofNat (page * size.toNat)).toNat = page * size.toNat :=
    UInt32.toNat_ofNat_of_lt' reached
  simp only [MessageStore.query, MessageQuery.page, MessageQuery.pageLimit,
    MessageQuery.pageOffset, MessageQuery.paged, Option.getD_some, limit, offset]
  rfl

theorem paged_ids (most : size ≤ 500) {page : Nat} (reached : page * size.toNat < 2 ^ 32) :
    (store.query like parseFromStr order
        (query.paged size (UInt32.ofNat (page * size.toNat))) now).messages.map StoredMessage.id =
      (pageAt size.toNat page (order.arrange (store.matching like query))).map Row.id := by
  rw [paged_messages most reached, List.map_map]
  rfl

theorem paged_messages_eq_nil_iff (positive : 0 < size) (most : size ≤ 500) {page : Nat}
    (reached : page * size.toNat < 2 ^ 32) :
    (store.query like parseFromStr order
        (query.paged size (UInt32.ofNat (page * size.toNat))) now).messages = [] ↔
      (store.matching like query).length ≤ page * size.toNat := by
  have some : size.toNat ≠ 0 := Nat.ne_of_gt positive
  rw [paged_messages most reached, List.map_eq_nil_iff, pageAt, List.take_eq_nil_iff,
    or_iff_right some, List.drop_eq_nil_iff, (order.perm _).length_eq]

end Answers

theorem shownIds_eq {like : String → String → Bool} {store : MessageStore} {query : MessageQuery}
    {size : UInt32} (most : size ≤ 500) (parseFromStr : String → String → Option DateTime)
    (orders : Nat → Descending) (nows : Nat → Row → DateTime) {pages : Nat}
    (reached : pages * size.toNat < 2 ^ 32) :
    shownIds (fun page => store.query like parseFromStr (orders page)
        (query.paged size (UInt32.ofNat (page * size.toNat))) (nows page)) pages =
      ((List.range pages).flatMap fun page => pageAt size.toNat page
        ((orders page).arrange (store.matching like query))).map Row.id := by
  rw [shownIds, List.map_flatMap]
  apply List.flatMap_congr
  intro page listed
  apply paged_ids most
  apply Nat.lt_of_le_of_lt (Nat.mul_le_mul_right _ _) reached
  exact Nat.le_of_lt (List.mem_range.mp listed)

theorem pagesComplete_of_not_straddles {like : String → String → Bool} {store : MessageStore}
    {query : MessageQuery} {size : UInt32} (positive : 0 < size) (most : size ≤ 500)
    (within : WithinOffsets (store.matching like query) size)
    (apart : ¬ Straddles Row.time (store.matching like query) size.toNat) :
    PagesComplete like store query size := by
  intro parseFromStr orders nows
  obtain ⟨ends, reachedEnds, enoughEnds⟩ := within
  have exists_pages : ∃ pages, (store.matching like query).length ≤ pages * size.toNat :=
    ⟨ends, enoughEnds⟩
  obtain ⟨pages, enough, first⟩ : ∃ pages,
      (store.matching like query).length ≤ pages * size.toNat ∧
      ∀ page < pages, ¬ (store.matching like query).length ≤ page * size.toNat :=
    ⟨Nat.find exists_pages, Nat.find_spec exists_pages, fun _ => Nat.find_min exists_pages⟩
  have reached : ∀ page ≤ pages, page * size.toNat < 2 ^ 32 := by
    intro page notPast
    have notLater : pages ≤ ends := by
      by_contra later
      exact first ends (not_le.mp later) enoughEnds
    exact Nat.lt_of_le_of_lt (Nat.mul_le_mul_right _ (notPast.trans notLater)) reachedEnds
  have shown : (shownIds (fun page => store.query like parseFromStr (orders page)
        (query.paged size (UInt32.ofNat (page * size.toNat))) (nows page)) pages).Perm
      ((store.matching like query).map Row.id) := by
    rw [shownIds_eq most parseFromStr orders nows (reached pages le_rfl)]
    exact (pages_perm (fun page => (orders page).arranged _) positive apart enough).map Row.id
  refine ⟨pages, reached pages le_rfl, ?_, ?_, shown, ?_⟩
  · intro page before
    rw [Ne, paged_messages_eq_nil_iff positive most (reached page before.le)]
    exact first page before
  · exact (paged_messages_eq_nil_iff positive most (reached pages le_rfl)).mpr enough
  · intro page
    rw [shown.length_eq, List.length_map, MessageStore.matching, ← List.countP_eq_length_filter]
    rfl

theorem not_straddles_of_pagesComplete {like : String → String → Bool} {store : MessageStore}
    (keyed : (store.rows.map Row.id).Nodup) {query : MessageQuery} {size : UInt32}
    (positive : 0 < size) (most : size ≤ 500) (complete : PagesComplete like store query size) :
    ¬ Straddles Row.time (store.matching like query) size.toNat := by
  intro straddles
  obtain ⟨other, cut, arranged, twice⟩ := straddles.pages_not_nodup positive
    (Descending.stable.arranged (store.matching like query))
  obtain ⟨otherOrder, arranges⟩ := exists_order arranged
  obtain ⟨pages, reached, -, last, shown, -⟩ := complete (fun _ _ => none)
    (fun page => if page = cut then otherOrder else .stable) fun _ _ => mayNoon
  have enough := (paged_messages_eq_nil_iff positive most reached).mp last
  apply twice pages enough
  have distinct : ((store.matching like query).map Row.id).Nodup :=
    keyed.sublist (List.filter_sublist.map Row.id)
  rw [← shown.nodup_iff, shownIds_eq most _ _ _ reached] at distinct
  have arrangements (page : Nat) :
      (if page = cut then otherOrder else .stable).arrange (store.matching like query) =
        if page = cut then other else Descending.stable.arrange (store.matching like query) := by
    split
    next => exact arranges
    next => rfl
  have distinctRows := List.Nodup.of_map Row.id distinct
  simp only [arrangements] at distinctRows
  exact distinctRows

/-- Pages of a result are complete exactly if no rows of one time reach over the
end of a page, and the end of the rows is an offset that a query can ask for. -/
theorem pagesComplete_iff (like : String → String → Bool) {store : MessageStore}
    (keyed : (store.rows.map Row.id).Nodup) (query : MessageQuery) {size : UInt32}
    (positive : 0 < size) (most : size ≤ 500) :
    PagesComplete like store query size ↔
      WithinOffsets (store.matching like query) size ∧
        ¬ Straddles Row.time (store.matching like query) size.toNat := by
  constructor
  · intro complete
    obtain ⟨pages, reached, -, last, -⟩ :=
      complete (fun _ _ => none) (fun _ => .stable) fun _ _ => mayNoon
    exact ⟨⟨pages, reached, (paged_messages_eq_nil_iff positive most reached).mp last⟩,
      not_straddles_of_pagesComplete keyed positive most complete⟩
  · rintro ⟨within, apart⟩
    exact pagesComplete_of_not_straddles positive most within apart

def everyMessage : MessageQuery := ⟨none, none, none, none, none, none, none, none, none⟩

theorem matching_everyMessage (like : String → String → Bool) (store : MessageStore) :
    store.matching like everyMessage = store.rows :=
  List.filter_eq_self.mpr fun _ _ => rfl

/-- Two messages of different times are read in pages of one. -/
theorem pagesComplete_storeOf :
    bothOfMay.rows.length = 2 ∧ PagesComplete (fun _ _ => true) bothOfMay everyMessage 1 := by
  have within : WithinOffsets (bothOfMay.matching (fun _ _ => true) everyMessage) 1 :=
    ⟨2, by decide, by rw [matching_everyMessage]; decide⟩
  have apart : ¬ Straddles Row.time (bothOfMay.matching (fun _ _ => true) everyMessage)
      (1 : UInt32).toNat := by
    apply not_straddles_of_nodup (Descending.stable.arranged _)
    rw [matching_everyMessage]
    decide +kernel
  exact ⟨rfl, (pagesComplete_iff (fun _ _ => true) (by decide) everyMessage (by decide)
    (by decide)).mpr ⟨within, apart⟩⟩

def twoInOneSecond : MessageStore := (storeOf mayMorning).insert (fun _ => none) (sentAt mayMorning)

theorem time_of_mem_twoInOneSecond :
    ∀ row ∈ twoInOneSecond.rows, row.time = mayMorning.toRfc3339 := by
  simp [twoInOneSecond, storeOf, MessageStore.insert, MessageStore.openNew, Entry.toRow, sentAt]

theorem twoInOneSecond_notComplete :
    ¬ PagesComplete (fun _ _ => true) twoInOneSecond everyMessage 1 := by
  intro complete
  apply not_straddles_of_pagesComplete (by decide) (by decide) (by decide) complete
  rw [matching_everyMessage]
  refine ⟨mayMorning.toRfc3339, 1, ?_, ?_⟩
  · have none : above Row.time twoInOneSecond.rows mayMorning.toRfc3339 = 0 := by
      apply List.countP_eq_zero.mpr
      intro row stored
      simp only [time_of_mem_twoInOneSecond row stored, lt_irrefl, decide_false,
        Bool.false_eq_true, not_false_eq_true]
    rw [none]
    decide
  · have both : atLeast Row.time twoInOneSecond.rows mayMorning.toRfc3339 = 2 := by
      apply List.countP_eq_length.mpr
      intro row stored
      simp only [time_of_mem_twoInOneSecond row stored, le_refl, decide_true]
    rw [both]
    decide

end Ferroq.Gateway.Storage
