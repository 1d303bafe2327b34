import Ferroq.Gateway.Storage

/-!
# How long messages are kept

The limit of a cleanup has a blank between its date and its time of day, and the
rows have the letter `T` there, which is greater.  A row is therefore deleted
when its date is before the date of the limit, whatever its time of day.
-/

namespace Ferroq.Gateway.Storage

open Ferroq.Core
open Ferroq.Library

/-- A moment's text compares with a date, a blank and more as its day with that date. -/
theorem toRfc3339_lt_iff_day_lt {time : DateTime} (timeYear : time.hasPlainYear) {day : Int}
    (inCalendar : day < 3652425) (clock : List Char) :
    time.toRfc3339 < String.ofList (writeDate day ++ ' ' :: clock) ↔
      dayOf time.timestamp.toInt < day := by
  rw [String.lt_iff, DateTime.toRfc3339, String.toList_ofList, String.toList_ofList]
  simp only [List.append_assoc, List.cons_append]
  by_cases plain : 0 ≤ day
  · rw [writeDate_append_lt_iff timeYear ((plainYear_iff day).mpr ⟨plain, inCalendar⟩)]
    simp [List.cons_lt_cons_iff]
  · -- A year before 0 is written with a sign, which stands before all digits.
    have timeBounds := (plainYear_iff _).mp timeYear
    have negative : yearOf day < 0 := by
      rw [yearOf_lt_iff]
      exact not_le.mp plain
    obtain ⟨signedRest, signed⟩ := writeDate_of_year_neg negative
    have later := cons_lt_writeDate_append timeYear (signedRest ++ ' ' :: clock)
      ('T' :: (writeClock (minuteOfDay time.timestamp.toInt) time.shownSecond.1 ++
        (writeFraction time.shownSecond.2 ++ ['+', '0', '0', ':', '0', '0'])))
    have notBefore : ¬dayOf time.timestamp.toInt < day := by omega
    simp only [signed, notBefore, iff_false]
    exact List.not_lt.mpr (List.le_of_lt later)

def limitDay (now : DateTime) (days : Nat) : Int := dayOf (now.timestamp.toInt - 86400 * days)

theorem limitDay_eq (now : DateTime) (days : Nat) :
    limitDay now days = dayOf now.timestamp.toInt - days := by
  unfold limitDay dayOf
  omega

theorem any_datetimeBefore_iff {now time : DateTime} (nowYear : now.hasPlainYear)
    (timeYear : time.hasPlainYear) (days : Nat) :
    (datetimeBefore now.timestamp.toInt days).any (fun limit => time.toRfc3339 < limit) = true ↔
      dayOf time.timestamp.toInt < limitDay now days := by
  have nowBounds := (plainYear_iff _).mp nowYear
  have timeBounds := (plainYear_iff _).mp timeYear
  unfold limitDay datetimeBefore
  dsimp only
  split
  next inRange =>
    have inCalendar : dayOf (now.timestamp.toInt - 86400 * days) < 3652425 := by
      unfold dayOf
      omega
    simp only [Option.any_some, decide_eq_true_eq]
    exact toRfc3339_lt_iff_day_lt timeYear inCalendar _
  next outOfRange =>
    unfold dayOf at nowBounds timeBounds ⊢
    simp only [Option.any_none, Bool.false_eq_true, false_iff]
    omega

namespace MessageStore

theorem holds_cleanup {serialize : MessageEvent → Option String} {store : MessageStore}
    {entries : List Entry} (holds : store.Holds serialize entries) {now : DateTime}
    (nowYear : now.hasPlainYear) (years : ∀ entry ∈ entries, entry.event.time.hasPlainYear) :
    (store.cleanup now).1.Holds serialize (entries.filter fun entry =>
      !decide (dayOf entry.event.time.timestamp.toInt < limitDay now store.maxDays.toNat)) := by
  apply filter_rows_of_holds holds
  intro entry stored
  have day := any_datetimeBefore_iff nowYear (years entry stored) store.maxDays.toNat
  simp only [Bool.not_eq_eq_eq_not, Bool.not_not]
  rw [Bool.eq_iff_iff, decide_eq_true_eq]
  exact day

end MessageStore

def earlierInDay (first second : DateTime) : Prop :=
  first.timestamp.toInt % 86400 < second.timestamp.toInt % 86400 ∨
    first.timestamp.toInt % 86400 = second.timestamp.toInt % 86400 ∧
      first.subsecNanos < second.subsecNanos

instance (first second : DateTime) : Decidable (earlierInDay first second) :=
  inferInstanceAs (Decidable (_ ∨ _))

theorem olderThan_iff (days : Nat) (now time : DateTime) :
    olderThan days now time ↔ dayOf time.timestamp.toInt < limitDay now days ∨
      dayOf time.timestamp.toInt + days = dayOf now.timestamp.toInt ∧ earlierInDay time now := by
  unfold olderThan limitDay earlierInDay dayOf
  omega

/-- A cleanup deletes exactly what is older than its limit if and only if no message
of the day on which the limit lies was sent earlier in the day than the cleanup runs. -/
theorem cleanup_deletes_older_iff {serialize : MessageEvent → Option String}
    {store : MessageStore} {entries : List Entry} (holds : store.Holds serialize entries)
    {now : DateTime} (nowYear : now.hasPlainYear)
    (years : ∀ entry ∈ entries, entry.event.time.hasPlainYear) :
    (store.cleanup now).1.Holds serialize (entries.filter fun entry =>
        !decide (olderThan store.maxDays.toNat now entry.event.time)) ↔
      ∀ entry ∈ entries,
        dayOf entry.event.time.timestamp.toInt + store.maxDays.toNat =
            dayOf now.timestamp.toInt →
          ¬earlierInDay entry.event.time now := by
  have kept := MessageStore.holds_cleanup holds nowYear years
  unfold MessageStore.Holds at kept ⊢
  rw [kept, map_filter_eq_iff]
  · simp only [Bool.not_eq_true', decide_eq_false_iff_not, olderThan_iff]
    apply forall₂_congr
    intro entry stored
    have limit := limitDay_eq now store.maxDays.toNat
    constructor
    · intro keeps sameDay earlier
      exact keeps (by omega) (.inr ⟨sameDay, earlier⟩)
    · rintro onTime notBefore (before | ⟨sameDay, earlier⟩)
      · exact notBefore before
      · exact onTime sameDay earlier
  · intro entry
    simp only [Bool.not_eq_true', decide_eq_false_iff_not]
    exact mt fun before => (olderThan_iff _ _ _).mpr (.inl before)

/-- The first of May 2024, at three in the afternoon. -/
def mayAfternoon : DateTime := (DateTime.timestampOpt 1714575600).get rfl

/-- The day before it, at nine in the evening. -/
def aprilEvening : DateTime := (DateTime.timestampOpt 1714510800).get rfl

/-- Of two messages the cleanup deletes the one that is older than its limit. -/
theorem cleanup_deletes_older_iff_afternoon :
    (((storeOf aprilEvening).insert (fun _ => none) (sentAt mayAfternoon)).cleanup
      mayNoon).1.Holds (fun _ => none) [⟨2, sentAt mayAfternoon⟩] := by
  have holds := MessageStore.holds_insert (holds_storeOf aprilEvening) (sentAt mayAfternoon)
  exact (cleanup_deletes_older_iff holds (by decide) (by decide)).mpr (by decide)

/-- A message from the morning of the limit's day survives a cleanup at noon. -/
theorem cleanup_keeps_older :
    ¬∀ (serialize : MessageEvent → Option String) (store : MessageStore) (entries : List Entry)
        (now : DateTime), store.Holds serialize entries → now.hasPlainYear →
      (∀ entry ∈ entries, entry.event.time.hasPlainYear) →
        (store.cleanup now).1.Holds serialize (entries.filter fun entry =>
          !decide (olderThan store.maxDays.toNat now entry.event.time)) := by
  intro deletesOlder
  have stored := holds_storeOf mayMorning
  have years : ∀ entry ∈ [Entry.mk 1 (sentAt mayMorning)], entry.event.time.hasPlainYear := by
    decide
  have nowYear : mayNoon.hasPlainYear := by decide
  have emptied := deletesOlder _ _ _ mayNoon stored nowYear years
  have kept := MessageStore.holds_cleanup stored nowYear years
  have sameLength := congrArg List.length (kept.symm.trans emptied)
  revert sameLength
  decide

end Ferroq.Gateway.Storage
