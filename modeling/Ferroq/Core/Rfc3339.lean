import Mathlib.Data.Prod.Lex
import Mathlib.Order.Basic
import Ferroq.Library.Numerals
import Ferroq.Library.Calendar
import Ferroq.Core.Event

/-!
# Moments as texts

A moment in the form of RFC 3339, and the order of these texts.
-/

namespace Ferroq.Core

open Library

/-- Four digits where these suffice, and otherwise a sign and at least four. -/
def writeYear (year : Int) : List Char :=
  if 0 ≤ year ∧ year ≤ 9999 then numeral 4 year.toNat
  else (if year < 0 then '-' else '+') :: (Nat.toDigits 10 year.natAbs).leftpad 4 '0'

def writeDate (day : Int) : List Char :=
  writeYear (yearOf day) ++ '-' :: numeral 2 (monthOf day) ++ '-' :: numeral 2 (dayOfMonth day)

def writeClock (minute second : Nat) : List Char :=
  numeral 2 (minute / 60) ++ ':' :: numeral 2 (minute % 60) ++ ':' :: numeral 2 second

/-- A fraction of a second with as many groups of three digits as it needs. -/
def writeFraction (nanos : Nat) : List Char :=
  if nanos = 0 then []
  else if nanos % 1000000 = 0 then '.' :: numeral 3 (nanos / 1000000)
  else if nanos % 1000 = 0 then '.' :: numeral 6 (nanos / 1000)
  else '.' :: numeral 9 nanos

/-- The day of a time in seconds since 1970, from the first day of the year 0. -/
def dayOf (seconds : Int) : Int := seconds / 86400 + 719528

/-- The minute of the day in which a time in seconds since 1970 lies. -/
def minuteOfDay (seconds : Int) : Nat := (seconds % 86400 / 60).toNat

def secondOfMinute (seconds : Int) : Nat := (seconds % 60).toNat

theorem plainYear_iff (day : Int) :
    0 ≤ yearOf day ∧ yearOf day ≤ 9999 ↔ 0 ≤ day ∧ day < 3652425 := by
  have fromZero := yearOf_lt_iff day 0
  have upToEnd := yearOf_lt_iff day 10000
  have firstDay : daysBeforeYear 0 = 0 := by decide
  have lastDay : daysBeforeYear 10000 = 3652425 := by decide
  omega

theorem writeDate_append_lt_iff {first second : Int}
    (firstYear : 0 ≤ yearOf first ∧ yearOf first ≤ 9999)
    (secondYear : 0 ≤ yearOf second ∧ yearOf second ≤ 9999) (firstRest secondRest : List Char) :
    writeDate first ++ firstRest < writeDate second ++ secondRest ↔
      first < second ∨ first = second ∧ firstRest < secondRest := by
  have dates := date_lt_iff first second
  rw [lexicographic_assoc] at dates
  have sameDate := date_inj first second
  rw [← and_assoc] at sameDate
  have firstMonth := monthOf_le first
  have secondMonth := monthOf_le second
  have firstDay := dayOfMonth_le first
  have secondDay := dayOfMonth_le second
  have years : (yearOf first).toNat < (yearOf second).toNat ↔ yearOf first < yearOf second := by
    omega
  have sameYear : (yearOf first).toNat = (yearOf second).toNat ↔ yearOf first = yearOf second := by
    omega
  simp only [writeDate, writeYear, firstYear, secondYear, and_self, if_true, List.append_assoc,
    List.cons_append]
  rw [numeral_append_lt_iff (by omega) (by omega), List.cons_lt_cons_self,
    numeral_append_lt_iff (by omega) (by omega), List.cons_lt_cons_self,
    numeral_append_lt_iff (by omega) (by omega), years, sameYear, lexicographic_assoc,
    lexicographic_assoc, dates, sameDate]

theorem cons_lt_writeDate_append {day : Int} (plain : 0 ≤ yearOf day ∧ yearOf day ≤ 9999)
    (rest more : List Char) : '-' :: rest < writeDate day ++ more := by
  simp only [writeDate, writeYear, plain, and_self, if_true, List.append_assoc]
  exact cons_lt_numeral_append (by decide) rest _ 3 (yearOf day).toNat

theorem writeDate_of_year_neg {day : Int} (negative : yearOf day < 0) :
    ∃ rest, writeDate day = '-' :: rest := by
  have notPlain : ¬(0 ≤ yearOf day ∧ yearOf day ≤ 9999) := by omega
  simp [writeDate, writeYear, notPlain, negative]

theorem writeClock_append_lt_iff {firstMinute secondMinute firstSecond secondSecond : Nat}
    (firstDay : firstMinute < 1440) (secondDay : secondMinute < 1440)
    (firstFits : firstSecond < 100) (secondFits : secondSecond < 100)
    (firstRest secondRest : List Char) :
    writeClock firstMinute firstSecond ++ firstRest <
        writeClock secondMinute secondSecond ++ secondRest ↔
      firstMinute < secondMinute ∨ firstMinute = secondMinute ∧
        (firstSecond < secondSecond ∨ firstSecond = secondSecond ∧ firstRest < secondRest) := by
  have sameMinute : firstMinute / 60 = secondMinute / 60 ∧ firstMinute % 60 = secondMinute % 60 ↔
      firstMinute = secondMinute := by omega
  simp only [writeClock, List.append_assoc, List.cons_append]
  rw [numeral_append_lt_iff (by omega) (by omega), List.cons_lt_cons_self,
    numeral_append_lt_iff (by omega) (by omega), List.cons_lt_cons_self,
    numeral_append_lt_iff (by omega) (by omega), lexicographic_assoc, div_mod_lt_iff, sameMinute]

theorem writeFraction_append (nanos : Nat) (rest : List Char) :
    writeFraction nanos ++ rest =
      if nanos = 0 then rest else '.' :: numeralGroups rest 3 nanos := by
  have sixDigits (number : Nat) :
      numeral 6 number = numeral 3 (number / 1000) ++ numeral 3 number := numeral_add 3 3 number
  have nineDigits : numeral 9 nanos = numeral 3 (nanos / 1000000) ++ numeral 6 nanos :=
    numeral_add 3 6 nanos
  have middle : numeral 3 (nanos % 1000000 / 1000) = numeral 3 (nanos / 1000) := by
    rw [← numeral_mod 3 (nanos / 1000)]
    congr 1
    omega
  have lowest : numeral 3 (nanos % 1000) = numeral 3 nanos := numeral_mod 3 nanos
  unfold writeFraction
  split
  next => simp
  next notWhole =>
    split
    next millis => simp [numeralGroups, notWhole, millis]
    next notMillis =>
      split
      next micros =>
        simp [numeralGroups, notWhole, notMillis, micros, middle, sixDigits, Nat.div_div_eq_div_mul]
      next notMicros =>
        simp [numeralGroups, notWhole, notMillis, notMicros, middle, lowest, sixDigits, nineDigits]

theorem writeFraction_append_lt_iff {symbol : Char} {rest : List Char} (below : symbol < '.')
    {first second : Nat} (firstFits : first < 1000000000) (secondFits : second < 1000000000) :
    writeFraction first ++ symbol :: rest < writeFraction second ++ symbol :: rest ↔
      first < second := by
  rw [writeFraction_append, writeFraction_append]
  by_cases firstZero : first = 0 <;> by_cases secondZero : second = 0
  · simp [firstZero, secondZero]
  · simp [firstZero, secondZero, List.cons_lt_cons_iff, below, Nat.pos_of_ne_zero secondZero]
  · have shorter : symbol :: rest < '.' :: numeralGroups (symbol :: rest) 3 first := by
      simp [List.cons_lt_cons_iff, below]
    have notBefore := List.not_lt.mpr (List.le_of_lt shorter)
    rw [secondZero]
    simp only [firstZero, reduceIte]
    exact iff_of_false notBefore (Nat.not_lt_zero first)
  · have belowDigits : symbol < '0' := UInt32.lt_trans below (by decide)
    simp only [firstZero, secondZero, if_false]
    rw [List.cons_lt_cons_self, numeralGroups_lt_iff belowDigits (by omega) (by omega)]

namespace DateTime

def year (time : DateTime) : Int := yearOf (dayOf time.timestamp.toInt)

/-- A year from 0 to 9999, which has a text without a sign. -/
def hasPlainYear (time : DateTime) : Prop := 0 ≤ time.year ∧ time.year ≤ 9999

instance (time : DateTime) : Decidable time.hasPlainYear := inferInstanceAs (Decidable (_ ∧ _))

/-- The second that is shown and the nanoseconds in it; a leap second is shown as
the second 60. -/
def shownSecond (time : DateTime) : Nat × Nat :=
  if 1000000000 ≤ time.subsecNanos then
    (secondOfMinute time.timestamp.toInt + 1, time.subsecNanos - 1000000000)
  else (secondOfMinute time.timestamp.toInt, time.subsecNanos)

def toRfc3339 (time : DateTime) : String :=
  String.ofList (writeDate (dayOf time.timestamp.toInt) ++
    'T' :: writeClock (minuteOfDay time.timestamp.toInt) time.shownSecond.1 ++
    writeFraction time.shownSecond.2 ++ ['+', '0', '0', ':', '0', '0'])

theorem order_injective :
    Function.Injective fun time : DateTime => toLex (time.timestamp.toInt, time.subsecNanos) := by
  rintro ⟨timestamp, subsecNanos⟩ ⟨otherTimestamp, otherNanos⟩ equal
  have parts := Prod.mk.inj (toLex_inj.mp equal)
  have sameTimestamp : timestamp = otherTimestamp := Int64.toInt_inj.mp parts.1
  have sameNanos : subsecNanos = otherNanos := parts.2
  simp [sameTimestamp, sameNanos]

/-- Moments are ordered by their seconds and then by their nanoseconds. -/
instance : LinearOrder DateTime := LinearOrder.lift' _ order_injective

theorem lt_iff (first second : DateTime) :
    first < second ↔ first.timestamp.toInt < second.timestamp.toInt ∨
      first.timestamp.toInt = second.timestamp.toInt ∧
        first.subsecNanos < second.subsecNanos := Prod.Lex.toLex_lt_toLex

theorem shownSecond_fits (time : DateTime) :
    time.shownSecond.1 < 100 ∧ time.shownSecond.2 < 1000000000 := by
  have bounded := time.bounded
  unfold shownSecond secondOfMinute
  split <;> dsimp only <;> omega

/-- A leap second is shown after the second that it lengthens and before the next minute. -/
theorem shown_lt_iff (first second : DateTime) :
    (dayOf first.timestamp.toInt < dayOf second.timestamp.toInt ∨
      dayOf first.timestamp.toInt = dayOf second.timestamp.toInt ∧
        (minuteOfDay first.timestamp.toInt < minuteOfDay second.timestamp.toInt ∨
          minuteOfDay first.timestamp.toInt = minuteOfDay second.timestamp.toInt ∧
            (first.shownSecond.1 < second.shownSecond.1 ∨
              first.shownSecond.1 = second.shownSecond.1 ∧
                first.shownSecond.2 < second.shownSecond.2))) ↔
      first < second := by
  have minutes : dayOf first.timestamp.toInt < dayOf second.timestamp.toInt ∨
      dayOf first.timestamp.toInt = dayOf second.timestamp.toInt ∧
        minuteOfDay first.timestamp.toInt < minuteOfDay second.timestamp.toInt ↔
      first.timestamp.toInt / 60 < second.timestamp.toInt / 60 := by
    unfold dayOf minuteOfDay
    omega
  have sameMinute : dayOf first.timestamp.toInt = dayOf second.timestamp.toInt ∧
      minuteOfDay first.timestamp.toInt = minuteOfDay second.timestamp.toInt ↔
      first.timestamp.toInt / 60 = second.timestamp.toInt / 60 := by
    unfold dayOf minuteOfDay
    omega
  have firstLeap := first.leapSecond
  have secondLeap := second.leapSecond
  rw [lexicographic_assoc, minutes, sameMinute, lt_iff]
  unfold shownSecond secondOfMinute
  split <;> split <;> dsimp only <;> omega

/-- The texts of moments with plain years have the order of the moments, even
when they show fractions of different lengths. -/
theorem toRfc3339_lt_iff {first second : DateTime} (firstYear : first.hasPlainYear)
    (secondYear : second.hasPlainYear) :
    first.toRfc3339 < second.toRfc3339 ↔ first < second := by
  have firstFits := first.shownSecond_fits
  have secondFits := second.shownSecond_fits
  have minuteFits (time : DateTime) : minuteOfDay time.timestamp.toInt < 1440 := by
    unfold minuteOfDay
    omega
  rw [String.lt_iff, toRfc3339, toRfc3339, String.toList_ofList, String.toList_ofList]
  simp only [List.append_assoc, List.cons_append]
  rw [writeDate_append_lt_iff firstYear secondYear, List.cons_lt_cons_self,
    writeClock_append_lt_iff (minuteFits first) (minuteFits second) firstFits.1 secondFits.1,
    writeFraction_append_lt_iff (by decide) firstFits.2 secondFits.2]
  exact shown_lt_iff first second

example : toRfc3339 ⟨1704067199, 1500000000, by decide, by decide, by decide⟩ =
    "2023-12-31T23:59:60.500+00:00" := by decide

theorem toRfc3339_le_iff {first second : DateTime} (firstYear : first.hasPlainYear)
    (secondYear : second.hasPlainYear) :
    first.toRfc3339 ≤ second.toRfc3339 ↔ first ≤ second := by
  rw [← String.not_lt, toRfc3339_lt_iff secondYear firstYear, not_lt]

end DateTime

end Ferroq.Core
