import Ferroq.Gateway.Storage.Search
import Ferroq.Library.Like

/-!
# Searching for a keyword

The keyword of a query is put between two `%` into a pattern of the database.
Every message with the keyword in it is counted.  Messages without it are
returned as well when the keyword is a pattern itself.
-/

namespace Ferroq.Gateway.Storage

open Ferroq.Library

/-- `LIKE` as SQLite has it by default. -/
def sqliteLike (text pattern : String) : Bool := Like.like pattern.toList text.toList

/-- A keyword occurs in a text up to the case of ASCII letters. -/
def ContainsKeyword (keyword text : String) : Prop := Like.Contains keyword.toList text.toList

def MessageQuery.others (query : MessageQuery) : MessageQuery := { query with keyword := none }

/-- A query for a keyword returns only messages that contain it, and counts all
stored ones that do and that are what else it asks for. -/
def SearchesText (keyword : String) : Prop :=
  ∀ (parseFromStr : String → String → Option Core.DateTime) (order : Descending)
    (store : MessageStore) (query : MessageQuery) (now : Row → Core.DateTime),
    query.keyword = some keyword →
      (∀ message ∈ (store.query sqliteLike parseFromStr order query now).messages,
        ContainsKeyword keyword message.rawMessage) ∧
      ∃ counted : List Row, counted.Sublist store.rows ∧
        counted.length = (store.query sqliteLike parseFromStr order query now).total ∧
        ∀ row ∈ store.rows, query.others.condition sqliteLike row = true →
          ContainsKeyword keyword row.rawMessage → row ∈ counted

theorem sqliteLike_iff (text keyword : String) :
    sqliteLike text ("%" ++ keyword ++ "%") =
      Like.like ('%' :: (keyword.toList ++ ['%'])) text.toList := by
  have any : "%".toList = ['%'] := rfl
  rw [sqliteLike, String.toList_append, String.toList_append, any, List.singleton_append,
    List.cons_append]

theorem condition_iff {query : MessageQuery} {keyword : String}
    (asked : query.keyword = some keyword) (row : Row) :
    query.condition sqliteLike row = true ↔
      query.others.condition sqliteLike row = true ∧
        Like.like ('%' :: (keyword.toList ++ ['%'])) row.rawMessage.toList = true := by
  simp only [MessageQuery.condition, MessageQuery.others, asked, Option.all_some, Option.all_none,
    sqliteLike_iff, Bool.and_eq_true, and_true]
  constructor
  · rintro ⟨⟨⟨fields, found⟩, after⟩, before⟩
    exact ⟨⟨⟨fields, after⟩, before⟩, found⟩
  · rintro ⟨⟨⟨fields, after⟩, before⟩, found⟩
    exact ⟨⟨⟨fields, found⟩, after⟩, before⟩

theorem exists_row_of_returned {like : String → String → Bool}
    {parseFromStr : String → String → Option Core.DateTime} {order : Descending}
    {store : MessageStore} {query : MessageQuery} {now : Row → Core.DateTime}
    {message : StoredMessage}
    (returned : message ∈ (store.query like parseFromStr order query now).messages) :
    ∃ row ∈ store.rows, query.condition like row = true ∧ message.rawMessage = row.rawMessage := by
  obtain ⟨row, onPage, rfl⟩ := List.mem_map.mp returned
  have arranged := MessageQuery.mem_of_mem_page onPage
  obtain ⟨stored, meets⟩ := List.mem_filter.mp ((order.perm _).mem_iff.mp arranged)
  exact ⟨row, stored, meets, rfl⟩

theorem messages_of_single {like : String → String → Bool}
    (parseFromStr : String → String → Option Core.DateTime) (order : Descending)
    {store : MessageStore} {row : Row} (single : store.rows = [row]) {query : MessageQuery}
    (meets : query.condition like row = true) (first : query.pageOffset = 0)
    (some : 0 < query.pageLimit) (now : Row → Core.DateTime) :
    (store.query like parseFromStr order query now).messages =
      [row.toMessage parseFromStr (now row)] := by
  have arranged : order.arrange [row] = [row] := List.perm_singleton.mp (order.perm [row])
  have page : query.page [row] = [row] := by
    rw [MessageQuery.page, first, List.drop_zero, List.take_of_length_le some]
  simp [MessageStore.query, single, meets, arranged, page]

def forKeyword (keyword : String) : MessageQuery :=
  ⟨none, none, none, none, some keyword, none, none, none, none⟩

def storeOfText (text : String) : MessageStore :=
  (MessageStore.openNew ⟨true, ":memory:", 30⟩).insert (fun _ => none)
    { sentAt mayMorning with rawMessage := text }

theorem found_of_like (keyword text : String)
    (found : Like.like ('%' :: (keyword.toList ++ ['%'])) text.toList = true) :
    ∃ message ∈ ((storeOfText text).query sqliteLike parseMorning .stable (forKeyword keyword)
        fun _ => mayNoon).messages, message.rawMessage = text := by
  have meets : (forKeyword keyword).condition sqliteLike
      ((Entry.mk 1 { sentAt mayMorning with rawMessage := text }).toRow fun _ => none) = true :=
    (condition_iff rfl _).mpr ⟨rfl, found⟩
  have limit : 0 < (forKeyword keyword).pageLimit := by
    change 0 < 50
    decide
  rw [messages_of_single parseMorning .stable rfl meets rfl limit]
  exact ⟨_, List.mem_singleton_self _, rfl⟩

theorem searchesText_iff (keyword : String) :
    SearchesText keyword ↔ Like.Plain keyword.toList := by
  constructor
  · intro searches
    apply (Like.found_contains_iff keyword.toList).mp
    intro text found
    obtain ⟨message, returned, same⟩ := found_of_like keyword (String.ofList text)
      (by rwa [String.toList_ofList])
    have contains := (searches parseMorning .stable _ _ _ rfl).1 message returned
    rw [same, ContainsKeyword, String.toList_ofList] at contains
    exact contains
  · intro plain parseFromStr order store query now asked
    constructor
    · intro message returned
      obtain ⟨row, _, meets, same⟩ := exists_row_of_returned returned
      rw [same]
      exact Like.contains_of_like plain ((condition_iff asked row).mp meets).2
    · refine ⟨store.rows.filter (query.condition sqliteLike), List.filter_sublist,
        List.countP_eq_length_filter.symm, ?_⟩
      intro row stored others contains
      refine List.mem_filter.mpr ⟨stored, ?_⟩
      exact (condition_iff asked row).mpr ⟨others, Like.like_of_contains contains⟩

/-- The underscore of a keyword finds any symbol in its place. -/
theorem underscore_findsOther :
    ∃ message ∈ ((storeOfText "a1b").query sqliteLike parseMorning .stable (forKeyword "a_b")
        fun _ => mayNoon).messages,
      message.rawMessage = "a1b" ∧ ¬ ContainsKeyword "a_b" message.rawMessage ∧
        ¬ SearchesText "a_b" := by
  obtain ⟨message, returned, same⟩ := found_of_like "a_b" "a1b" (by decide)
  have absent : ¬ ContainsKeyword "a_b" message.rawMessage := by
    rw [same]
    unfold ContainsKeyword
    decide
  refine ⟨message, returned, same, absent, fun searches => absent ?_⟩
  exact (searches parseMorning .stable _ _ _ rfl).1 message returned

end Ferroq.Gateway.Storage
