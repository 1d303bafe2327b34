import Ferroq.Gateway.Storage

/-!
# Searching the messages

A query becomes a condition on the rows, with the bounds of its time as texts,
and a page of the rows that meet it, latest text first.  The database decides
how rows of one time stand to each other and what a keyword matches; reading
back the text of a time is left to a parser.
-/

namespace Ferroq.Gateway.Storage

open Ferroq.Core
open Ferroq.Library

structure StoredMessage where
  id : Nat
  time : DateTime
  selfId : Int64
  messageType : String
  messageId : Int64
  userId : Int64
  groupId : Option Int64
  rawMessage : String
  senderNickname : String
  rawJson : String

structure MessageQuery where
  selfId : Option Int64
  groupId : Option Int64
  userId : Option Int64
  messageType : Option String
  keyword : Option String
  limit : Option UInt32
  offset : Option UInt32
  after : Option DateTime
  before : Option DateTime

structure MessageQueryResult where
  total : Nat
  messages : List StoredMessage

/-- How a database carries out `ORDER BY time DESC`. -/
structure Descending where
  arrange : List Row → List Row
  perm : ∀ rows, (arrange rows).Perm rows
  descending : ∀ rows, (arrange rows).Pairwise fun earlier later => later.time ≤ earlier.time

/-- The test by which a sort puts the latest rows first. -/
def notEarlier (first second : Row) : Bool := second.time ≤ first.time

/-- Rows of one time in the order in which they were written. -/
def Descending.stable : Descending where
  arrange rows := rows.mergeSort notEarlier
  perm rows := List.mergeSort_perm rows notEarlier
  descending rows := by
    have transitive (first second third : Row) (firstLater : notEarlier first second = true)
        (secondLater : notEarlier second third = true) : notEarlier first third = true := by
      simp only [notEarlier, decide_eq_true_eq] at firstLater secondLater ⊢
      exact String.le_trans secondLater firstLater
    have total (first second : Row) :
        (notEarlier first second || notEarlier second first) = true := by
      simpa [notEarlier] using String.le_total second.time first.time
    have ordered := List.pairwise_mergeSort transitive total rows
    simpa [notEarlier] using ordered

/-- Read a time in one of two formats; a text in neither becomes the present. -/
def readTime (parseFromStr : String → String → Option DateTime) (now : DateTime)
    (text : String) : DateTime :=
  ((parseFromStr text "%Y-%m-%dT%H:%M:%S%.f%:z").orElse
    fun _ => parseFromStr text "%Y-%m-%dT%H:%M:%S%z").getD now

def Row.toMessage (parseFromStr : String → String → Option DateTime) (now : DateTime)
    (row : Row) : StoredMessage where
  id := row.id
  time := readTime parseFromStr now row.time
  selfId := row.selfId
  messageType := row.messageType
  messageId := row.messageId
  userId := row.userId
  groupId := row.groupId
  rawMessage := row.rawMessage
  senderNickname := row.senderNickname
  rawJson := row.rawJson

def Entry.toMessage (serialize : MessageEvent → Option String) (entry : Entry) :
    StoredMessage where
  id := entry.id
  time := entry.event.time
  selfId := entry.event.selfId
  messageType := entry.event.messageType.toText
  messageId := entry.event.messageId
  userId := entry.event.userId
  groupId := entry.event.groupId
  rawMessage := entry.event.rawMessage
  senderNickname := entry.event.sender.nickname
  rawJson := (serialize entry.event).getD ""

namespace MessageQuery

/-- The condition of a query on rows; `like` is the database's matching of patterns. -/
def condition (like : String → String → Bool) (query : MessageQuery) (row : Row) : Bool :=
  query.selfId.all (row.selfId = ·) &&
    query.groupId.all (row.groupId = some ·) &&
    query.userId.all (row.userId = ·) &&
    query.messageType.all (row.messageType = ·) &&
    query.keyword.all (fun keyword => like row.rawMessage ("%" ++ keyword ++ "%")) &&
    query.after.all (fun after => after.toRfc3339 ≤ row.time) &&
    query.before.all (fun before => row.time ≤ before.toRfc3339)

def pageLimit (query : MessageQuery) : Nat := (min (query.limit.getD 50) 500).toNat

def pageOffset (query : MessageQuery) : Nat := (query.offset.getD 0).toNat

def page {Item : Type} (query : MessageQuery) (items : List Item) : List Item :=
  (items.drop query.pageOffset).take query.pageLimit

end MessageQuery

namespace MessageStore

def query (like : String → String → Bool) (parseFromStr : String → String → Option DateTime)
    (order : Descending) (store : MessageStore) (query : MessageQuery) (now : Row → DateTime) :
    MessageQueryResult where
  total := store.rows.countP (query.condition like)
  messages := (query.page (order.arrange (store.rows.filter (query.condition like)))).map
    fun row => row.toMessage parseFromStr (now row)

end MessageStore

/-- What a query asks of an entry: its fields, and a time from `after` to `before`. -/
def MessageQuery.Selects (like : String → String → Bool) (query : MessageQuery)
    (entry : Entry) : Prop :=
  (∀ selfId ∈ query.selfId, entry.event.selfId = selfId) ∧
    (∀ groupId ∈ query.groupId, entry.event.groupId = some groupId) ∧
    (∀ userId ∈ query.userId, entry.event.userId = userId) ∧
    (∀ messageType ∈ query.messageType, entry.event.messageType.toText = messageType) ∧
    (∀ keyword ∈ query.keyword, like entry.event.rawMessage ("%" ++ keyword ++ "%") = true) ∧
    (∀ after ∈ query.after, after ≤ entry.event.time) ∧
    (∀ before ∈ query.before, entry.event.time ≤ before)

instance (like : String → String → Bool) (query : MessageQuery) (entry : Entry) :
    Decidable (query.Selects like entry) := inferInstanceAs (Decidable (_ ∧ _))

def MessageQuery.hasPlainYears (query : MessageQuery) : Prop :=
  (∀ after ∈ query.after, after.hasPlainYear) ∧ ∀ before ∈ query.before, before.hasPlainYear

instance (query : MessageQuery) : Decidable query.hasPlainYears :=
  inferInstanceAs (Decidable (_ ∧ _))

theorem condition_toRow (serialize : MessageEvent → Option String)
    (like : String → String → Bool) {query : MessageQuery} (bounds : query.hasPlainYears)
    {entry : Entry} (plainYear : entry.event.time.hasPlainYear) :
    query.condition like (entry.toRow serialize) = decide (query.Selects like entry) := by
  have afterBound : (∀ after ∈ query.after, after.toRfc3339 ≤ entry.event.time.toRfc3339) ↔
      ∀ after ∈ query.after, after ≤ entry.event.time := by
    apply forall₂_congr
    intro after given
    exact DateTime.toRfc3339_le_iff (bounds.1 after given) plainYear
  have beforeBound : (∀ before ∈ query.before, entry.event.time.toRfc3339 ≤ before.toRfc3339) ↔
      ∀ before ∈ query.before, entry.event.time ≤ before := by
    apply forall₂_congr
    intro before given
    exact DateTime.toRfc3339_le_iff plainYear (bounds.2 before given)
  rw [Bool.eq_iff_iff, decide_eq_true_eq]
  simp only [MessageQuery.condition, Bool.and_eq_true, Option.all_eq_true, decide_eq_true_eq,
    and_assoc]
  simp only [Option.mem_def] at afterBound beforeBound
  simp only [Entry.toRow, MessageQuery.Selects, Option.mem_def, afterBound, beforeBound]

theorem toMessage_toRow (serialize : MessageEvent → Option String)
    {parseFromStr : String → String → Option DateTime} (now : DateTime) {entry : Entry}
    (parsed : parseFromStr entry.event.time.toRfc3339 "%Y-%m-%dT%H:%M:%S%.f%:z" =
      some entry.event.time) :
    (entry.toRow serialize).toMessage parseFromStr now = entry.toMessage serialize := by
  simp [Row.toMessage, Entry.toRow, Entry.toMessage, readTime, parsed]

theorem MessageQuery.page_map {Item Image : Type} (query : MessageQuery) (image : Item → Image)
    (items : List Item) : query.page (items.map image) = (query.page items).map image := by
  simp [page]

theorem MessageQuery.mem_of_mem_page {Item : Type} {query : MessageQuery} {items : List Item}
    {item : Item} (returned : item ∈ query.page items) : item ∈ items :=
  List.mem_of_mem_drop (List.mem_of_mem_take returned)

theorem arrange_map_toRow (serialize : MessageEvent → Option String) (order : Descending)
    {entries : List Entry} (years : ∀ entry ∈ entries, entry.event.time.hasPlainYear) :
    ∃ ordered : List Entry, ordered.Perm entries ∧
      ordered.Pairwise (fun earlier later => later.event.time ≤ earlier.event.time) ∧
      order.arrange (entries.map (Entry.toRow serialize)) =
        ordered.map (Entry.toRow serialize) := by
  obtain ⟨ordered, sameEntries, arranged⟩ :=
    exists_perm_of_perm_map (Entry.toRow serialize) (order.perm (entries.map _))
  refine ⟨ordered, sameEntries, ?_, arranged⟩
  have descending := order.descending (entries.map (Entry.toRow serialize))
  rw [arranged, List.pairwise_map] at descending
  apply descending.imp_of_mem
  intro earlier later earlierStored laterStored texts
  have earlierYear := years earlier (sameEntries.mem_iff.mp earlierStored)
  have laterYear := years later (sameEntries.mem_iff.mp laterStored)
  exact (DateTime.toRfc3339_le_iff laterYear earlierYear).mp texts

/-- The texts of times have the order of the times, and a query returns a page of
exactly the entries that it selects, latest first. -/
theorem query_returns_selected (serialize : MessageEvent → Option String)
    (like : String → String → Bool) (parseFromStr : String → String → Option DateTime)
    (order : Descending) {store : MessageStore} {entries : List Entry}
    (holds : store.Holds serialize entries)
    (years : ∀ entry ∈ entries, entry.event.time.hasPlainYear) {query : MessageQuery}
    (bounds : query.hasPlainYears) (now : Row → DateTime) :
    (∀ first second : DateTime, first.hasPlainYear → second.hasPlainYear →
      (first < second ↔ first.toRfc3339 < second.toRfc3339)) ∧
    ∃ ordered : List Entry,
      ordered.Perm (entries.filter fun entry => decide (query.Selects like entry)) ∧
      ordered.Pairwise (fun earlier later => later.event.time ≤ earlier.event.time) ∧
      (store.query like parseFromStr order query now).total = ordered.length ∧
      (store.query like parseFromStr order query now).messages =
        (query.page ordered).map (fun entry =>
          (entry.toRow serialize).toMessage parseFromStr (now (entry.toRow serialize))) ∧
      ((∀ entry ∈ entries, parseFromStr entry.event.time.toRfc3339 "%Y-%m-%dT%H:%M:%S%.f%:z" =
          some entry.event.time) →
        (store.query like parseFromStr order query now).messages =
          (query.page ordered).map (Entry.toMessage serialize)) := by
  refine ⟨fun first second firstYear secondYear =>
    (DateTime.toRfc3339_lt_iff firstYear secondYear).symm, ?_⟩
  have selected := MessageStore.filter_rows_of_holds holds fun entry stored =>
    condition_toRow serialize like bounds (years entry stored)
  have selectedYears : ∀ entry ∈ entries.filter fun entry => decide (query.Selects like entry),
      entry.event.time.hasPlainYear := by
    intro entry kept
    exact years entry (List.mem_of_mem_filter kept)
  obtain ⟨ordered, sameEntries, descending, arranged⟩ :=
    arrange_map_toRow serialize order selectedYears
  have messages : (store.query like parseFromStr order query now).messages =
      (query.page ordered).map (fun entry =>
        (entry.toRow serialize).toMessage parseFromStr (now (entry.toRow serialize))) := by
    simp only [MessageStore.query, selected, arranged, MessageQuery.page_map, List.map_map]
    rfl
  refine ⟨ordered, sameEntries, descending, ?_, messages, ?_⟩
  · simp [MessageStore.query, List.countP_eq_length_filter, selected, sameEntries.length_eq]
  · intro parsed
    rw [messages]
    apply List.map_congr_left
    intro entry returned
    have kept := sameEntries.mem_iff.mp (MessageQuery.mem_of_mem_page returned)
    exact toMessage_toRow serialize _ (parsed entry (List.mem_of_mem_filter kept))

/-- The second message from the first morning of May 2024 to the noon of its last day. -/
def inMay : MessageQuery :=
  ⟨none, none, none, none, none, some 1, some 1, some mayMorning, some mayNoon⟩

/-- The first of June 2024, at nine in the morning. -/
def juneMorning : DateTime := (DateTime.timestampOpt 1717232400).get rfl

def parseMorning (text _format : String) : Option DateTime :=
  if text = "2024-05-01T09:00:00+00:00" then some mayMorning else none

/-- Of three messages two are selected, and the earlier one is on the second page. -/
theorem query_returns_selected_inMay :
    ∃ result, (bothOfMay.insert (fun _ => none) (sentAt juneMorning)).query (fun _ _ => true)
        parseMorning .stable inMay (fun _ => mayNoon) = result ∧
      result.total = 2 ∧ result.messages.map StoredMessage.id = [1] := by
  have beforeNoon : mayMorning < mayNoon := (DateTime.lt_iff _ _).mpr (.inl (by decide))
  have beforeJune : mayNoon < juneMorning := (DateTime.lt_iff _ _).mpr (.inl (by decide))
  have holds := MessageStore.holds_insert holds_bothOfMay (sentAt juneMorning)
  obtain ⟨-, ordered, sameEntries, descending, total, messages, -⟩ :=
    query_returns_selected (fun _ => none) (fun _ _ => true) parseMorning .stable holds
      (by decide) (by decide : inMay.hasPlainYears) fun _ => mayNoon
  have selected : ordered.Perm [⟨2, sentAt mayNoon⟩, ⟨1, sentAt mayMorning⟩] := by
    refine sameEntries.trans ?_
    simp [MessageQuery.Selects, inMay, sentAt, beforeNoon.le, beforeJune, List.Perm.swap]
  have order : ordered = [⟨2, sentAt mayNoon⟩, ⟨1, sentAt mayMorning⟩] := by
    apply selected.eq_of_pairwise ?_ descending (by simpa [sentAt] using beforeNoon.le)
    intro first second firstListed secondListed notBefore notAfter
    have equal : first.event.time = second.event.time := le_antisymm notAfter notBefore
    have firstOne := selected.mem_iff.mp firstListed
    simp only [List.mem_cons, List.not_mem_nil, or_false] at firstOne secondListed
    rcases firstOne with rfl | rfl <;> rcases secondListed with rfl | rfl
    · rfl
    · exact absurd equal beforeNoon.ne'
    · exact absurd equal beforeNoon.ne
    · rfl
  refine ⟨_, rfl, by rw [total, order]; rfl, ?_⟩
  rw [messages, order]
  rfl

end Ferroq.Gateway.Storage
