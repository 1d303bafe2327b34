import Ferroq.Gateway.Storage.Pages
import Ferroq.Library.Paging.Changing
import Mathlib.Data.Prod.Lex

/-!
# Reading pages while messages come and go

A reader asks for one page behind another until an answer is empty, and messages
are stored and deleted between two answers.  A new message moves others to later
places, and a cleanup deletes only rows of earlier times than those that it
leaves.  A message that stays is therefore not missed, and without new messages
none is shown twice.  The database has to sort by a key that tells the rows of
one time apart, as it does if it leaves these in the order of their numbers.
-/

namespace Ferroq.Gateway.Storage

open Ferroq.Core
open Ferroq.Library

structure Reading where
  store : MessageStore
  answers : List MessageQueryResult

namespace Reading

def finished (reading : Reading) : Prop :=
  ∃ answer ∈ reading.answers.getLast?, answer.messages = []

instance (reading : Reading) : Decidable reading.finished :=
  decidable_of_iff (reading.answers.getLast?.any fun answer => answer.messages.isEmpty) (by
    simp [finished, Option.any_eq_true])

def shown (reading : Reading) : List Nat :=
  reading.answers.flatMap fun answer => answer.messages.map StoredMessage.id

end Reading

/-- What happens to a store that is read, and how the database sorts for an answer. -/
inductive ReadingAction where
  | change (action : Action)
  | read (order : Descending) (now : Row → DateTime)

/-- The reader asks for as many messages behind those that it asked for before,
as long as it got some and the offset is one that a query can ask for. -/
def readingMachine (serialize : MessageEvent → Option String) (like : String → String → Bool)
    (parseFromStr : String → String → Option DateTime) (query : MessageQuery) (size : UInt32) :
    Machine Reading ReadingAction where
  step reading
    | .change action =>
        ((machine serialize).step reading.store action).map fun store =>
          { reading with store := store }
    | .read order now =>
        let offset := reading.answers.length * size.toNat
        if reading.finished ∨ 2 ^ 32 ≤ offset then none
        else
          let answer :=
            reading.store.query like parseFromStr order (query.paged size (UInt32.ofNat offset)) now
          some { reading with answers := reading.answers ++ [answer] }

section Keys

variable {Key : Type} [LinearOrder Key]

/-- A key puts rows of later times first. -/
def RefinesTime (key : Row → Key) : Prop :=
  ∀ first second : Row, first.time < second.time → key first < key second

/-- A database sorts the rows of its table, which come in the order of their
numbers, by a key. -/
def Descending.SortsBy (order : Descending) (key : Row → Key) : Prop :=
  ∀ rows : List Row, (rows.map Row.id).Pairwise (· < ·) →
    (order.arrange rows).Pairwise fun earlier later => key later ≤ key earlier

def ReadingAction.SortsBy (key : Row → Key) : ReadingAction → Prop
  | .change _ => True
  | .read order _ => order.SortsBy key

end Keys

/-- The key of a time and then the smaller number. -/
def timeAndNumber (row : Row) : String ×ₗ Natᵒᵈ := toLex (row.time, OrderDual.toDual row.id)

theorem timeAndNumber_refines : RefinesTime timeAndNumber :=
  fun _ _ earlier => Prod.Lex.toLex_lt_toLex.mpr (.inl earlier)

theorem stable_filter_time (rows : List Row) (time : String) :
    (Descending.stable.arrange rows).filter (fun row => row.time = time) =
      rows.filter fun row => row.time = time := by
  have transitive (first second third : Row) (firstLater : notEarlier first second = true)
      (secondLater : notEarlier second third = true) : notEarlier first third = true := by
    simp only [notEarlier, decide_eq_true_eq] at firstLater secondLater ⊢
    exact secondLater.trans firstLater
  have total (first second : Row) :
      (notEarlier first second || notEarlier second first) = true := by
    simpa [notEarlier] using le_total second.time first.time
  have sameTime : (rows.filter fun row => row.time = time).Pairwise
      fun earlier later => notEarlier earlier later = true := by
    apply List.pairwise_of_forall_mem_list
    intro first listed second listedSecond
    have firstTime := List.of_mem_filter listed
    have secondTime := List.of_mem_filter listedSecond
    simp only [decide_eq_true_eq] at firstTime secondTime
    simp [notEarlier, firstTime, secondTime]
  have kept := List.sublist_mergeSort transitive total sameTime List.filter_sublist
  have keptThere := kept.filter fun row => row.time = time
  rw [List.filter_filter] at keptThere
  simp only [Bool.and_self] at keptThere
  apply (keptThere.eq_of_length _).symm
  exact ((Descending.stable.perm rows).filter _).length_eq.symm

theorem stable_sortsBy : Descending.stable.SortsBy timeAndNumber := by
  intro rows numbered
  apply List.pairwise_iff_forall_sublist.mpr
  intro first second behind
  have descending := List.pairwise_iff_forall_sublist.mp (Descending.stable.descending rows) behind
  rcases descending.lt_or_eq with earlier | equal
  · exact (timeAndNumber_refines second first earlier).le
  · have sameTime := behind.filter fun row => row.time = first.time
    rw [stable_filter_time] at sameTime
    simp only [equal, decide_true, List.filter_cons_of_pos, List.filter_nil] at sameTime
    have stored := (sameTime.trans List.filter_sublist).map Row.id
    have smaller : first.id < second.id := by
      simpa using numbered.sublist stored
    apply Prod.Lex.toLex_le_toLex.mpr
    exact .inr ⟨equal, smaller.le⟩

/-- Every database sorts by the time alone, which tells apart what was not sent in
one second. -/
theorem time_refines_sortsBy (order : Descending) :
    RefinesTime Row.time ∧ order.SortsBy Row.time :=
  ⟨fun _ _ earlier => earlier, fun rows _ => order.descending rows⟩

theorem Numbered.ids_increasing {serialize : MessageEvent → Option String} {store : MessageStore}
    (numbered : Numbered serialize store) : (store.rows.map Row.id).Pairwise (· < ·) := by
  obtain ⟨entries, holds, ordered, -⟩ := numbered
  unfold MessageStore.Holds at holds
  rw [holds, List.map_map]
  exact ordered

theorem Numbered.id_lt {serialize : MessageEvent → Option String} {store : MessageStore}
    (numbered : Numbered serialize store) {row : Row} (stored : row ∈ store.rows) :
    row.id < store.nextId := by
  obtain ⟨entries, holds, -, given⟩ := numbered
  unfold MessageStore.Holds at holds
  rw [holds] at stored
  obtain ⟨entry, listed, rfl⟩ := List.mem_map.mp stored
  exact given entry listed

theorem MessageStore.mem_matching {like : String → String → Bool} {store : MessageStore}
    {query : MessageQuery} {row : Row} :
    row ∈ store.matching like query ↔ row ∈ store.rows ∧ query.condition like row = true :=
  List.mem_filter

theorem Numbered.matching_ids {serialize : MessageEvent → Option String} {store : MessageStore}
    (numbered : Numbered serialize store) (like : String → String → Bool) (query : MessageQuery) :
    ((store.matching like query).map Row.id).Pairwise (· < ·) :=
  numbered.ids_increasing.sublist (List.filter_sublist.map Row.id)

theorem Numbered.matching_nodup {serialize : MessageEvent → Option String} {store : MessageStore}
    (numbered : Numbered serialize store) (like : String → String → Bool) (query : MessageQuery) :
    (store.matching like query).Nodup :=
  List.Nodup.of_map Row.id ((numbered.matching_ids like query).imp fun less => Nat.ne_of_lt less)

theorem Descending.SortsBy.arranged {Key : Type} [LinearOrder Key] {key : Row → Key}
    {order : Descending} (sorts : order.SortsBy key) {serialize : MessageEvent → Option String}
    {store : MessageStore} (numbered : Numbered serialize store)
    (like : String → String → Bool) (query : MessageQuery) :
    Arranged key (store.matching like query) (order.arrange (store.matching like query)) :=
  ⟨order.perm _, sorts _ (numbered.matching_ids like query)⟩

section Steps

variable {serialize : MessageEvent → Option String} {like : String → String → Bool}
  {parseFromStr : String → String → Option DateTime} {query : MessageQuery} {size : UInt32}

/-- A cleanup that leaves a row leaves every row of no earlier time. -/
theorem cleanup_keeps {store : MessageStore} {now : DateTime} {row other : Row}
    (stays : row ∈ (store.cleanup now).1.rows) (later : row.time ≤ other.time) :
    (!store.expired now other) = true := by
  have notExpired := List.of_mem_filter stays
  simp only [MessageStore.expired, Bool.not_eq_true'] at notExpired ⊢
  cases limit : datetimeBefore now.timestamp.toInt store.maxDays.toNat with
  | none => rfl
  | some text =>
      simp only [limit, Option.any_some, decide_eq_false_iff_not, not_lt] at notExpired ⊢
      exact notExpired.trans later

theorem matching_cleanup (store : MessageStore) (now : DateTime) :
    (store.cleanup now).1.matching like query =
      (store.matching like query).filter fun row => !store.expired now row := by
  rw [MessageStore.matching, MessageStore.matching, MessageStore.cleanup, List.filter_comm]

theorem matching_insert (store : MessageStore) (event : MessageEvent) :
    (store.insert serialize event).matching like query = store.matching like query ++
      [(Entry.mk store.nextId event).toRow serialize].filter (query.condition like) :=
  List.filter_append _ _

variable {Key : Type} [LinearOrder Key] {key : Row → Key}

theorem RefinesTime.time_le (refines : RefinesTime key) {first second : Row}
    (notSmaller : key first ≤ key second) : first.time ≤ second.time := by
  by_contra earlier
  exact absurd notSmaller (not_le.mpr (refines second first (not_le.mp earlier)))

theorem RefinesTime.above_cleanup (refines : RefinesTime key) {store : MessageStore}
    {now : DateTime} {row : Row} (stays : row ∈ (store.cleanup now).1.rows) :
    above key ((store.cleanup now).1.matching like query) (key row) =
      above key (store.matching like query) (key row) := by
  rw [matching_cleanup]
  apply above_filter
  intro other _ larger
  exact cleanup_keeps stays (refines.time_le larger.le)

theorem change_keeps (refines : RefinesTime key) {store next : MessageStore} {action : Action}
    (stepped : (machine serialize).step store action = some next) {row : Row}
    (known : row.id < store.nextId) (stays : row ∈ next.matching like query) :
    row ∈ store.matching like query ∧
      above key (store.matching like query) (key row) ≤
        above key (next.matching like query) (key row) ∧
      (Alone key (next.matching like query) row → Alone key (store.matching like query) row) := by
  cases action with
  | insert event =>
      cases stepped
      rw [matching_insert] at stays ⊢
      refine ⟨?_, above_le_of_sublist (List.sublist_append_left _ _) _, ?_⟩
      · rcases List.mem_append.mp stays with old | new
        · exact old
        · have itself := List.mem_singleton.mp (List.mem_of_mem_filter new)
          rw [itself] at known
          exact absurd known (Nat.lt_irrefl _)
      · intro alone
        exact alone.of_subset fun other listed _ => List.mem_append_left _ listed
  | cleanup now =>
      cases stepped
      have staysThere := (MessageStore.mem_matching.mp stays).1
      refine ⟨?_, (refines.above_cleanup staysThere).ge, ?_⟩
      · rw [matching_cleanup] at stays
        exact List.mem_of_mem_filter stays
      · intro alone
        apply alone.of_subset
        intro other listed equal
        rw [matching_cleanup]
        exact List.mem_filter.mpr
          ⟨listed, cleanup_keeps staysThere (refines.time_le equal.ge)⟩

theorem nextId_le {store next : MessageStore} {action : Action}
    (stepped : (machine serialize).step store action = some next) :
    store.nextId ≤ next.nextId := by
  cases action with
  | insert event =>
      cases stepped
      exact Nat.le_succ _
  | cleanup now =>
      cases stepped
      exact Nat.le_refl _

theorem read_spec (positive : 0 < size) (most : size ≤ 500) {reading next : Reading}
    {order : Descending} {now : Row → DateTime}
    (stepped : (readingMachine serialize like parseFromStr query size).step reading
      (.read order now) = some next) :
    ¬ reading.finished ∧ next.store = reading.store ∧
      next.answers.length = reading.answers.length + 1 ∧
      next.shown = reading.shown ++ (pageAt size.toNat reading.answers.length
        (order.arrange (reading.store.matching like query))).map Row.id ∧
      (next.finished ↔
        (reading.store.matching like query).length ≤ reading.answers.length * size.toNat) := by
  simp only [readingMachine] at stepped
  split at stepped
  next => cases stepped
  next asks =>
    cases stepped
    obtain ⟨unfinished, reached⟩ := not_or.mp asks
    have ids := @paged_ids like reading.store query size parseFromStr order now most _
      (not_le.mp reached)
    have empty := @paged_messages_eq_nil_iff like reading.store query size parseFromStr order now
      positive most _ (not_le.mp reached)
    refine ⟨unfinished, rfl, by simp, ?_, ?_⟩
    · rw [← ids]
      simp [Reading.shown]
    · rw [← empty]
      simp [Reading.finished]

theorem change_spec {reading next : Reading} {action : Action}
    (stepped : (readingMachine serialize like parseFromStr query size).step reading
      (.change action) = some next) :
    (machine serialize).step reading.store action = some next.store ∧
      next.answers = reading.answers := by
  obtain ⟨store, changed, rfl⟩ := Option.map_eq_some_iff.mp stepped
  exact ⟨changed, rfl⟩

/-- A message that is still stored was shown, or is not before the next page. -/
structure Followed (serialize : MessageEvent → Option String) (like : String → String → Bool)
    (query : MessageQuery) (size : UInt32) (key : Row → Key) (row : Row) (reading : Reading) :
    Prop where
  numbered : Numbered serialize reading.store
  known : row.id < reading.store.nextId
  notMissed : row ∈ reading.store.matching like query →
    Alone key (reading.store.matching like query) row → row.id ∈ reading.shown ∨
      ¬ reading.finished ∧ reading.answers.length * size.toNat ≤
        above key (reading.store.matching like query) (key row)

theorem followed_change (refines : RefinesTime key) {row : Row} {reading next : Reading}
    {action : Action} (followed : Followed serialize like query size key row reading)
    (stepped : (readingMachine serialize like parseFromStr query size).step reading
      (.change action) = some next) : Followed serialize like query size key row next := by
  obtain ⟨changed, sameAnswers⟩ := change_spec stepped
  refine ⟨numbered_step followed.numbered changed, ?_, ?_⟩
  · exact followed.known.trans_le (nextId_le changed)
  · intro stays alone
    obtain ⟨stayed, notLater, aloneBefore⟩ := change_keeps refines changed followed.known stays
    unfold Reading.shown Reading.finished
    rw [sameAnswers]
    rcases followed.notMissed stayed (aloneBefore alone) with shown | ⟨unfinished, behind⟩
    · exact .inl shown
    · exact .inr ⟨unfinished, behind.trans notLater⟩

theorem followed_read (positive : 0 < size) (most : size ≤ 500) {row : Row}
    {reading next : Reading} {order : Descending} (sorts : order.SortsBy key)
    {now : Row → DateTime} (followed : Followed serialize like query size key row reading)
    (stepped : (readingMachine serialize like parseFromStr query size).step reading
      (.read order now) = some next) : Followed serialize like query size key row next := by
  obtain ⟨-, sameStore, oneMore, shown, finished⟩ := read_spec positive most stepped
  obtain ⟨numbered, known, notMissed⟩ := followed
  refine ⟨sameStore ▸ numbered, sameStore ▸ known, ?_⟩
  rw [sameStore, shown, finished, oneMore]
  intro stored alone
  rw [List.mem_append]
  rcases notMissed stored alone with before | ⟨-, notBefore⟩
  · exact .inl (.inl before)
  · have place := (sorts.arranged numbered like query).mem_pageAt_or_behind
      (numbered.matching_nodup like query) positive stored alone notBefore
    rcases place with onPage | behind
    · exact .inl (.inr (List.mem_map_of_mem onPage))
    · refine .inr ⟨?_, behind⟩
      exact not_le.mpr (notBefore.trans_lt (above_lt_length stored))

/-- Nothing that is still stored was shown on a page that it is not on. -/
structure ShownInTurn (serialize : MessageEvent → Option String)
    (like : String → String → Bool) (query : MessageQuery) (size : UInt32) (key : Row → Key)
    (reading : Reading) : Prop where
  numbered : Numbered serialize reading.store
  alone : ∀ row ∈ reading.store.matching like query,
    Alone key (reading.store.matching like query) row
  before : ∀ row ∈ reading.store.matching like query, row.id ∈ reading.shown →
    above key (reading.store.matching like query) (key row) <
      reading.answers.length * size.toNat
  distinct : reading.shown.Nodup

theorem shownInTurn_cleanup (refines : RefinesTime key) {reading next : Reading}
    {now : DateTime} (turns : ShownInTurn serialize like query size key reading)
    (stepped : (readingMachine serialize like parseFromStr query size).step reading
      (.change (.cleanup now)) = some next) :
    ShownInTurn serialize like query size key next := by
  obtain ⟨changed, sameAnswers⟩ := change_spec stepped
  obtain ⟨numbered, alone, before, distinct⟩ := turns
  have sameShown : next.shown = reading.shown := by
    rw [Reading.shown, Reading.shown, sameAnswers]
  have cleaned : next.store = (reading.store.cleanup now).1 := (Option.some.inj changed).symm
  refine ⟨numbered_step numbered changed, ?_, ?_, sameShown ▸ distinct⟩
  · intro row stays
    rw [cleaned, matching_cleanup] at stays ⊢
    exact (alone row (List.mem_of_mem_filter stays)).of_subset fun other listed _ =>
      List.mem_of_mem_filter listed
  · intro row stays shown
    rw [sameShown] at shown
    rw [cleaned] at stays ⊢
    rw [sameAnswers, refines.above_cleanup (MessageStore.mem_matching.mp stays).1]
    rw [matching_cleanup] at stays
    exact before row (List.mem_of_mem_filter stays) shown

theorem shownInTurn_read (positive : 0 < size) (most : size ≤ 500) {reading next : Reading}
    {order : Descending} (sorts : order.SortsBy key) {now : Row → DateTime}
    (turns : ShownInTurn serialize like query size key reading)
    (stepped : (readingMachine serialize like parseFromStr query size).step reading
      (.read order now) = some next) : ShownInTurn serialize like query size key next := by
  obtain ⟨-, sameStore, oneMore, shown, -⟩ := read_spec positive most stepped
  obtain ⟨numbered, alone, before, distinct⟩ := turns
  have sorted := sorts.arranged numbered like query
  have rowsDistinct := numbered.matching_nodup like query
  have page_subset : ∀ row ∈ pageAt size.toNat reading.answers.length
      (order.arrange (reading.store.matching like query)),
      row ∈ reading.store.matching like query := by
    intro row onPage
    exact sorted.1.mem_iff.mp (List.mem_of_mem_drop (List.mem_of_mem_take onPage))
  have idsDistinct := (numbered.matching_ids like query).imp fun less => Nat.ne_of_lt less
  refine ⟨sameStore ▸ numbered, sameStore ▸ alone, ?_, ?_⟩
  · rw [sameStore, shown, oneMore]
    intro row stored listed
    rcases List.mem_append.mp listed with earlier | new
    · have placed := before row stored earlier
      rw [Nat.succ_mul]
      omega
    · obtain ⟨other, onPage, sameId⟩ := List.mem_map.mp new
      have itself := List.inj_on_of_nodup_map idsDistinct (page_subset other onPage) stored sameId
      rw [itself] at onPage
      exact (sorted.above_of_mem_pageAt rowsDistinct (alone row stored) onPage).2
  · rw [shown]
    refine List.nodup_append'.mpr ⟨distinct, ?_, ?_⟩
    · have arrangedIds : ((order.arrange (reading.store.matching like query)).map Row.id).Nodup :=
        (sorted.1.map Row.id).nodup_iff.mpr idsDistinct
      exact arrangedIds.sublist (((List.take_sublist _ _).trans (List.drop_sublist _ _)).map Row.id)
    · rw [List.disjoint_left]
      intro id earlier new
      obtain ⟨row, onPage, rfl⟩ := List.mem_map.mp new
      have stored := page_subset row onPage
      have placed := before row stored earlier
      have notBefore := (sorted.above_of_mem_pageAt rowsDistinct (alone row stored) onPage).1
      omega

end Steps

theorem alone_timeAndNumber {serialize : MessageEvent → Option String} {store : MessageStore}
    (numbered : Numbered serialize store) (like : String → String → Bool) (query : MessageQuery)
    {row : Row} (stored : row ∈ store.matching like query) :
    Alone timeAndNumber (store.matching like query) row := by
  intro other listed equal
  have idsDistinct := (numbered.matching_ids like query).imp fun less => Nat.ne_of_lt less
  apply List.inj_on_of_nodup_map idsDistinct listed stored
  have sameParts := Prod.mk.inj (toLex_inj.mp equal)
  exact OrderDual.toDual_inj.mp sameParts.2

/-- While messages are stored and deleted, the pages up to an empty one show every
message that stays and is told apart from others of its time, and without new
messages they show none twice. -/
theorem reading_complete (serialize : MessageEvent → Option String)
    (like : String → String → Bool) (parseFromStr : String → String → Option DateTime)
    (config : StorageConfig) {earlier : List Action} {store : MessageStore}
    (opened : (machine serialize).run (.openNew config) earlier = some store)
    (query : MessageQuery) {size : UInt32} (positive : 0 < size) (most : size ≤ 500)
    {Key : Type} [LinearOrder Key] {key : Row → Key} (refines : RefinesTime key)
    {actions : List ReadingAction} (sorts : ∀ action ∈ actions, action.SortsBy key)
    {final : Reading}
    (reached : (readingMachine serialize like parseFromStr query size).run ⟨store, []⟩ actions =
      some final) :
    (final.finished → ∀ row ∈ store.matching like query, row ∈ final.store.rows →
      Alone key (final.store.matching like query) row → row.id ∈ final.shown) ∧
    ((∀ event, .change (.insert event) ∉ actions) →
      (∀ row ∈ store.matching like query, Alone key (store.matching like query) row) →
      final.shown.Nodup) := by
  have numbered := numbered_run serialize config earlier opened
  constructor
  · intro finished row stored stays alone
    have matched := (MessageStore.mem_matching.mp stored).2
    have start : Followed serialize like query size key row ⟨store, []⟩ :=
      ⟨numbered, numbered.id_lt (MessageStore.mem_matching.mp stored).1,
        fun _ _ => .inr ⟨by simp [Reading.finished], by simp⟩⟩
    have followed := (readingMachine serialize like parseFromStr query size).run_of_admits
      (fun reading action next followed sortsHere stepped =>
        match action, sortsHere, stepped with
        | .change _, _, stepped => followed_change refines followed stepped
        | .read _ _, sortsHere, stepped =>
            followed_read positive most sortsHere followed stepped)
      start (Machine.admits_of_forall _ sorts _) reached
    rcases followed.notMissed (MessageStore.mem_matching.mpr ⟨stays, matched⟩) alone with
      shown | ⟨unfinished, -⟩
    · exact shown
    · exact absurd finished unfinished
  · intro nothingNew alone
    have allowed : ∀ action ∈ actions,
        action.SortsBy key ∧ ∀ event, action ≠ .change (.insert event) := by
      intro action listed
      refine ⟨sorts action listed, ?_⟩
      rintro event rfl
      exact nothingNew event listed
    have start : ShownInTurn serialize like query size key ⟨store, []⟩ :=
      ⟨numbered, alone, fun _ _ shown => absurd shown List.not_mem_nil, List.nodup_nil⟩
    have turns := (readingMachine serialize like parseFromStr query size).run_of_admits
      (fun reading action next turns allowedHere stepped =>
        match action, allowedHere, stepped with
        | .change (.insert event), allowedHere, _ => absurd rfl (allowedHere.2 event)
        | .change (.cleanup _), _, stepped => shownInTurn_cleanup refines turns stepped
        | .read _ _, allowedHere, stepped =>
            shownInTurn_read positive most allowedHere.1 turns stepped)
      start (Machine.admits_of_forall _ allowed _) reached
    exact turns.distinct

def oneByOne : Machine Reading ReadingAction :=
  readingMachine (fun _ => none) (fun _ _ => true) parseMorning everyMessage 1

theorem exists_read {reading : Reading} (unfinished : ¬ reading.finished)
    (few : reading.answers.length < 3) :
    ∃ next, oneByOne.step reading (.read .stable fun _ => mayNoon) = some next ∧
      next.store = reading.store ∧ next.answers.length = reading.answers.length + 1 ∧
      (next.finished ↔ reading.store.rows.length ≤ reading.answers.length) := by
  have inRange : ¬ 2 ^ 32 ≤ reading.answers.length * (1 : UInt32).toNat := by
    have one : (1 : UInt32).toNat = 1 := rfl
    rw [one]
    omega
  refine ⟨_, if_neg (not_or.mpr ⟨unfinished, inRange⟩), rfl, by simp, ?_⟩
  have stepped : oneByOne.step reading (.read .stable fun _ => mayNoon) = some _ :=
    if_neg (not_or.mpr ⟨unfinished, inRange⟩)
  obtain ⟨-, -, -, -, finished⟩ := read_spec (by decide) (by decide) stepped
  rw [finished, matching_everyMessage]
  have one : (1 : UInt32).toNat = 1 := rfl
  rw [one, Nat.mul_one]

/-- One page, a new message, and two more pages. -/
def besideNoon : List ReadingAction :=
  [.read .stable fun _ => mayNoon, .change (.insert (sentAt mayNoon)),
    .read .stable fun _ => mayNoon, .read .stable fun _ => mayNoon]

theorem exists_besideNoon :
    ∃ final, oneByOne.run ⟨storeOf mayMorning, []⟩ besideNoon = some final ∧
      final.store = bothOfMay ∧ final.finished := by
  obtain ⟨first, readFirst, firstStore, firstLength, firstFinished⟩ :=
    @exists_read ⟨storeOf mayMorning, []⟩ (by simp [Reading.finished]) (by simp)
  dsimp only [List.length_nil] at firstStore firstLength firstFinished
  have firstMore : ¬ first.finished := by
    rw [firstFinished]
    decide
  have changed : oneByOne.step first (.change (.insert (sentAt mayNoon))) =
      some ⟨bothOfMay, first.answers⟩ := by
    rw [bothOfMay, ← firstStore]
    rfl
  obtain ⟨second, readSecond, secondStore, secondLength, secondFinished⟩ :=
    @exists_read ⟨bothOfMay, first.answers⟩ firstMore (by rw [firstLength]; decide)
  dsimp only at secondStore secondLength secondFinished
  rw [firstLength] at secondFinished secondLength
  have secondMore : ¬ second.finished := by
    rw [secondFinished]
    decide
  obtain ⟨final, readFinal, finalStore, -, finalFinished⟩ :=
    exists_read secondMore (by rw [secondLength]; decide)
  rw [secondLength, secondStore] at finalFinished
  refine ⟨final, ?_, finalStore.trans secondStore, finalFinished.mpr (by decide)⟩
  simp only [besideNoon, Machine.run, readFirst, changed, readSecond, readFinal, Option.bind_some]

theorem reading_complete_besideNoon :
    ∃ final, oneByOne.run ⟨storeOf mayMorning, []⟩ besideNoon = some final ∧ 1 ∈ final.shown := by
  obtain ⟨final, reached, both, finished⟩ := exists_besideNoon
  have opened : (machine fun _ => none).run (.openNew ⟨true, ":memory:", 30⟩)
      [.insert (sentAt mayMorning)] = some (storeOf mayMorning) := rfl
  have sorts : ∀ action ∈ besideNoon, action.SortsBy timeAndNumber := by
    simp [besideNoon, ReadingAction.SortsBy, stable_sortsBy]
  have complete := (reading_complete (fun _ => none) (fun _ _ => true) parseMorning _ opened
    everyMessage (by decide) (by decide) timeAndNumber_refines sorts reached).1
  refine ⟨final, reached, ?_⟩
  rw [both] at complete
  have numbered : Numbered (fun _ => none) bothOfMay :=
    numbered_run (fun _ => none) ⟨true, ":memory:", 30⟩
      [.insert (sentAt mayMorning), .insert (sentAt mayNoon)] rfl
  have stored : (Entry.mk 1 (sentAt mayMorning)).toRow (fun _ => none) ∈
      (storeOf mayMorning).rows := List.mem_singleton_self _
  have stays : (Entry.mk 1 (sentAt mayMorning)).toRow (fun _ => none) ∈ bothOfMay.rows :=
    List.mem_append_left _ stored
  apply complete finished _ (MessageStore.mem_matching.mpr ⟨stored, rfl⟩) stays
  exact alone_timeAndNumber numbered _ _ (MessageStore.mem_matching.mpr ⟨stays, rfl⟩)

end Ferroq.Gateway.Storage
