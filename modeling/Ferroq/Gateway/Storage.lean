import Ferroq.Core.Rfc3339
import Ferroq.Core.Config
import Ferroq.Library.Machine
import Ferroq.Library.Images

/-!
# The message store

Message events are kept as rows of an SQLite table.  A row holds its time as the
text that the event's moment is written as, and every comparison of times is a
bytewise comparison of texts; the texts are plain UTF-8, whose order is that of
the characters.  A store holds a list of entries when its rows are what these
were written as.
-/

namespace Ferroq.Gateway.Storage

open Ferroq.Core
open Ferroq.Library

structure Row where
  id : Nat
  time : String
  selfId : Int64
  messageType : String
  messageId : Int64
  userId : Int64
  groupId : Option Int64
  rawMessage : String
  senderNickname : String
  rawJson : String

structure MessageStore where
  rows : List Row
  nextId : Nat
  maxDays : UInt32

/-- An event under the number that the table gave it. -/
structure Entry where
  id : Nat
  event : MessageEvent

/-- The row of an event; `serialize` is its JSON text, if it has one. -/
def Entry.toRow (serialize : MessageEvent → Option String) (entry : Entry) : Row where
  id := entry.id
  time := entry.event.time.toRfc3339
  selfId := entry.event.selfId
  messageType := entry.event.messageType.toText
  messageId := entry.event.messageId
  userId := entry.event.userId
  groupId := entry.event.groupId
  rawMessage := entry.event.rawMessage
  senderNickname := entry.event.sender.nickname
  rawJson := (serialize entry.event).getD ""

/-- `datetime('now', '-{days} days')` at a time in seconds since 1970: nothing
when the modifier is out of its range or the day is out of the calendar, and
otherwise the date and the time of day with a blank between them. -/
def datetimeBefore (now : Int) (days : Nat) : Option String :=
  let seconds := now - 86400 * days
  if days < 5373485 ∧ -210866760000 ≤ seconds ∧ seconds < 253402300800 then
    some (String.ofList (writeDate (dayOf seconds) ++
      ' ' :: writeClock (minuteOfDay seconds) (secondOfMinute seconds)))
  else none

/-- A moment that is earlier than another by more than some days. -/
def olderThan (days : Nat) (now time : DateTime) : Prop :=
  time.timestamp.toInt < now.timestamp.toInt - 86400 * days ∨
    time.timestamp.toInt = now.timestamp.toInt - 86400 * days ∧ time.subsecNanos < now.subsecNanos

instance (days : Nat) (now time : DateTime) : Decidable (olderThan days now time) :=
  inferInstanceAs (Decidable (_ ∨ _))

namespace MessageStore

def openNew (config : StorageConfig) : MessageStore := ⟨[], 1, config.maxDays⟩

def insert (serialize : MessageEvent → Option String) (store : MessageStore)
    (event : MessageEvent) : MessageStore :=
  { store with
    rows := store.rows ++ [(Entry.mk store.nextId event).toRow serialize]
    nextId := store.nextId + 1 }

/-- The rows that a cleanup deletes; no row compares with a missing limit. -/
def expired (store : MessageStore) (now : DateTime) (row : Row) : Bool :=
  (datetimeBefore now.timestamp.toInt store.maxDays.toNat).any fun limit => row.time < limit

def cleanup (store : MessageStore) (now : DateTime) : MessageStore × Nat :=
  ({ store with rows := store.rows.filter fun row => !store.expired now row },
    store.rows.countP (store.expired now))

/-- The rows of a store are those of the entries. -/
def Holds (serialize : MessageEvent → Option String) (store : MessageStore)
    (entries : List Entry) : Prop :=
  store.rows = entries.map (Entry.toRow serialize)

theorem holds_openNew (serialize : MessageEvent → Option String) (config : StorageConfig) :
    (openNew config).Holds serialize [] := by
  simp [Holds, openNew]

theorem holds_insert {serialize : MessageEvent → Option String} {store : MessageStore}
    {entries : List Entry} (holds : store.Holds serialize entries) (event : MessageEvent) :
    (store.insert serialize event).Holds serialize (entries ++ [⟨store.nextId, event⟩]) := by
  unfold Holds at holds ⊢
  simp [insert, holds]

theorem filter_rows_of_holds {serialize : MessageEvent → Option String} {store : MessageStore}
    {entries : List Entry} (holds : store.Holds serialize entries)
    {rowTest : Row → Bool} {entryTest : Entry → Bool}
    (agrees : ∀ entry ∈ entries, rowTest (entry.toRow serialize) = entryTest entry) :
    store.rows.filter rowTest = (entries.filter entryTest).map (Entry.toRow serialize) := by
  unfold Holds at holds
  rw [holds]
  exact filter_map_eq _ agrees

end MessageStore

inductive Action where
  | insert (event : MessageEvent)
  | cleanup (now : DateTime)

def machine (serialize : MessageEvent → Option String) : Machine MessageStore Action where
  step store
    | .insert event => some (store.insert serialize event)
    | .cleanup now => some (store.cleanup now).1

/-- The rows of a store are those of entries in the order of their numbers, all of
which the table has already given. -/
def Numbered (serialize : MessageEvent → Option String) (store : MessageStore) : Prop :=
  ∃ entries, store.Holds serialize entries ∧ (entries.map Entry.id).Pairwise (· < ·) ∧
    ∀ entry ∈ entries, entry.id < store.nextId

theorem numbered_step {serialize : MessageEvent → Option String} {store next : MessageStore}
    (numbered : Numbered serialize store) {action : Action}
    (stepped : (machine serialize).step store action = some next) : Numbered serialize next := by
  obtain ⟨entries, holds, ordered, given⟩ := numbered
  cases action with
  | insert event =>
      cases stepped
      refine ⟨entries ++ [⟨store.nextId, event⟩], MessageStore.holds_insert holds event, ?_, ?_⟩
      · simpa [List.pairwise_append, ordered] using given
      · intro entry stored
        simp only [List.mem_append, List.mem_singleton] at stored
        rcases stored with old | rfl
        · exact (given entry old).trans (Nat.lt_succ_self _)
        · exact Nat.lt_succ_self _
  | cleanup now =>
      cases stepped
      refine ⟨entries.filter fun entry => !store.expired now (entry.toRow serialize),
        MessageStore.filter_rows_of_holds holds fun _ _ => rfl, ?_, ?_⟩
      · exact ordered.sublist (List.filter_sublist.map Entry.id)
      · intro entry stored
        exact given entry (List.mem_of_mem_filter stored)

theorem numbered_run (serialize : MessageEvent → Option String) (config : Core.StorageConfig)
    (actions : List Action) {store : MessageStore}
    (reached : (machine serialize).run (.openNew config) actions = some store) :
    Numbered serialize store := by
  have start : Numbered serialize (.openNew config) :=
    ⟨[], MessageStore.holds_openNew serialize config, by simp, by simp⟩
  exact (machine serialize).run_invariant
    (fun _ _ _ numbered stepped => numbered_step numbered stepped) start reached

def sentAt (time : DateTime) : MessageEvent where
  id := ⟨1⟩
  time := time
  selfId := 10001
  messageType := .privateChat
  subType := "friend"
  messageId := 7
  userId := 10002
  groupId := none
  message := []
  rawMessage := "hello"
  sender := ⟨10002, "Ada", none, none, none, none, none, none, none⟩
  font := 0

/-- The thirty-first of May 2024, at noon. -/
def mayNoon : DateTime := (DateTime.timestampOpt 1717156800).get rfl

/-- The first of May 2024, at nine in the morning. -/
def mayMorning : DateTime := (DateTime.timestampOpt 1714554000).get rfl

def storeOf (time : DateTime) : MessageStore :=
  (MessageStore.openNew ⟨true, ":memory:", 30⟩).insert (fun _ => none) (sentAt time)

theorem holds_storeOf (time : DateTime) :
    (storeOf time).Holds (fun _ => none) [⟨1, sentAt time⟩] :=
  MessageStore.holds_insert (MessageStore.holds_openNew _ _) (sentAt time)

def bothOfMay : MessageStore := (storeOf mayMorning).insert (fun _ => none) (sentAt mayNoon)

theorem holds_bothOfMay :
    bothOfMay.Holds (fun _ => none) [⟨1, sentAt mayMorning⟩, ⟨2, sentAt mayNoon⟩] :=
  MessageStore.holds_insert (holds_storeOf mayMorning) (sentAt mayNoon)

end Ferroq.Gateway.Storage
