import Mathlib.Algebra.Order.Ring.Int
import Mathlib.Tactic.Common

/-!
# The Gregorian calendar

Days are counted from the first of January of the year 0, forwards and
backwards without end.  A day is shown by its year, month and day of the month,
and the dates that are shown have the order of the days.
-/

namespace Ferroq.Library

/-- The segment in which an offset lies, when segments of these lengths follow
one another, and the offset within it. -/
def place : List Nat → Nat → Nat × Nat
  | [], offset => (0, offset)
  | length :: lengths, offset =>
      if offset < length then (0, offset)
      else ((place lengths (offset - length)).1 + 1, (place lengths (offset - length)).2)

theorem place_lt_iff (lengths : List Nat) (first second : Nat) :
    (place lengths first).1 < (place lengths second).1 ∨
        (place lengths first).1 = (place lengths second).1 ∧
          (place lengths first).2 < (place lengths second).2 ↔
      first < second := by
  induction lengths generalizing first second with
  | nil => simp [place]
  | cons length lengths inductionHypothesis =>
      have later := inductionHypothesis (first - length) (second - length)
      by_cases firstHere : first < length <;> by_cases secondHere : second < length
      · simp [place, firstHere, secondHere]
      · simp only [place, firstHere, secondHere, if_true, if_false]
        omega
      · simp only [place, firstHere, secondHere, if_true, if_false]
        omega
      · simp only [place, firstHere, secondHere, if_false, Nat.add_lt_add_iff_right,
          Nat.add_right_cancel_iff, later]
        omega

theorem place_segment_lt {lengths : List Nat} {offset : Nat} (inside : offset < lengths.sum) :
    (place lengths offset).1 < lengths.length := by
  induction lengths generalizing offset with
  | nil => simp at inside
  | cons length lengths inductionHypothesis =>
      rw [List.sum_cons] at inside
      simp only [place, List.length_cons]
      split
      next => exact Nat.succ_pos _
      next notHere => exact Nat.succ_lt_succ (inductionHypothesis (by omega))

theorem place_offset_lt {lengths : List Nat} {bound offset : Nat}
    (bounded : ∀ length ∈ lengths, length ≤ bound) (inside : offset < lengths.sum) :
    (place lengths offset).2 < bound := by
  induction lengths generalizing offset with
  | nil => simp at inside
  | cons length lengths inductionHypothesis =>
      rw [List.forall_mem_cons] at bounded
      rw [List.sum_cons] at inside
      simp only [place]
      split
      next here => exact here.trans_le bounded.1
      next notHere => exact inductionHypothesis bounded.2 (by omega)

def isLeapYear (year : Int) : Prop := year % 4 = 0 ∧ (year % 100 ≠ 0 ∨ year % 400 = 0)

instance (year : Int) : Decidable (isLeapYear year) :=
  inferInstanceAs (Decidable (_ ∧ _))

def monthLengths (year : Int) : List Nat :=
  [31, if isLeapYear year then 29 else 28, 31, 30, 31, 30, 31, 31, 30, 31, 30, 31]

def daysBeforeYear (year : Int) : Int :=
  365 * year + (year + 3) / 4 - (year + 99) / 100 + (year + 399) / 400

/-- The year of a day; four hundred years have 146097 days, by which a year is
found that is at most one off. -/
def yearOf (day : Int) : Int :=
  let guess := 400 * day / 146097
  if day < daysBeforeYear guess then guess - 1
  else if daysBeforeYear (guess + 1) ≤ day then guess + 1
  else guess

/-- The place of a day among the months of its year. -/
def monthPlace (day : Int) : Nat × Nat :=
  place (monthLengths (yearOf day)) (day - daysBeforeYear (yearOf day)).toNat

def monthOf (day : Int) : Nat := (monthPlace day).1 + 1

def dayOfMonth (day : Int) : Nat := (monthPlace day).2 + 1

theorem daysBeforeYear_succ (year : Int) :
    daysBeforeYear (year + 1) = daysBeforeYear year + (monthLengths year).sum := by
  by_cases leap : isLeapYear year
  · simp only [monthLengths, leap, if_true]
    unfold isLeapYear at leap
    simp only [daysBeforeYear, List.sum_cons, List.sum_nil]
    omega
  · simp only [monthLengths, leap, if_false]
    unfold isLeapYear at leap
    simp only [daysBeforeYear, List.sum_cons, List.sum_nil]
    omega

theorem daysBeforeYear_le_of_lt {first second : Int} (before : first < second) :
    daysBeforeYear (first + 1) ≤ daysBeforeYear second := by
  rcases (Int.add_one_le_of_lt before).eq_or_lt with next | further
  · exact (congrArg daysBeforeYear next).le
  · unfold daysBeforeYear
    omega

theorem yearOf_bounds (day : Int) :
    daysBeforeYear (yearOf day) ≤ day ∧ day < daysBeforeYear (yearOf day + 1) := by
  have guessBelow : 400 * day / 146097 * 146097 ≤ 400 * day := by omega
  have guessAbove : 400 * day < (400 * day / 146097 + 1) * 146097 := by omega
  unfold yearOf
  generalize 400 * day / 146097 = guess at guessBelow guessAbove
  dsimp only
  split
  next early =>
    rw [Int.sub_add_cancel]
    refine ⟨?_, early⟩
    unfold daysBeforeYear
    omega
  next notEarly =>
    split
    next late =>
      refine ⟨late, ?_⟩
      unfold daysBeforeYear
      omega
    next notLate => exact ⟨not_lt.mp notEarly, not_le.mp notLate⟩

theorem yearOf_lt_iff (day year : Int) : yearOf day < year ↔ day < daysBeforeYear year := by
  have bounds := yearOf_bounds day
  constructor
  · intro earlier
    have apart := daysBeforeYear_le_of_lt earlier
    omega
  · intro before
    by_contra notEarlier
    rcases (not_lt.mp notEarlier).eq_or_lt with equal | later
    · rw [← equal] at bounds
      omega
    · have apart := daysBeforeYear_le_of_lt later
      have next := daysBeforeYear_succ year
      omega

theorem dayOfYear_lt (day : Int) :
    (day - daysBeforeYear (yearOf day)).toNat < (monthLengths (yearOf day)).sum := by
  have bounds := yearOf_bounds day
  rw [daysBeforeYear_succ] at bounds
  omega

theorem monthOf_le (day : Int) : monthOf day ≤ 12 := place_segment_lt (dayOfYear_lt day)

theorem dayOfMonth_le (day : Int) : dayOfMonth day ≤ 31 := by
  apply place_offset_lt _ (dayOfYear_lt day)
  simp only [monthLengths, List.forall_mem_cons]
  split <;> simp

theorem date_lt_iff (first second : Int) :
    yearOf first < yearOf second ∨
        yearOf first = yearOf second ∧
          (monthOf first < monthOf second ∨
            monthOf first = monthOf second ∧ dayOfMonth first < dayOfMonth second) ↔
      first < second := by
  have firstBounds := yearOf_bounds first
  have secondBounds := yearOf_bounds second
  rcases lt_trichotomy (yearOf first) (yearOf second) with below | equal | above
  · have apart := daysBeforeYear_le_of_lt below
    have less : first < second := by omega
    simp [below, less]
  · have within := place_lt_iff (monthLengths (yearOf second))
      (first - daysBeforeYear (yearOf second)).toNat
      (second - daysBeforeYear (yearOf second)).toNat
    rw [equal] at firstBounds
    simp only [monthOf, dayOfMonth, monthPlace, equal, lt_irrefl, true_and, false_or,
      Nat.add_lt_add_iff_right, Nat.add_right_cancel_iff, within]
    omega
  · have apart := daysBeforeYear_le_of_lt above
    have notLess : ¬first < second := by omega
    simp [above.asymm, above.ne', notLess]

theorem date_inj (first second : Int) :
    yearOf first = yearOf second ∧ monthOf first = monthOf second ∧
        dayOfMonth first = dayOfMonth second ↔
      first = second := by
  constructor
  · rintro ⟨sameYear, sameMonth, sameDay⟩
    have notBefore := mt (date_lt_iff first second).mpr
    have notAfter := mt (date_lt_iff second first).mpr
    simp only [sameYear, sameMonth, sameDay, lt_irrefl, and_false, or_false,
      not_false_eq_true, forall_const, not_lt] at notBefore notAfter
    exact le_antisymm notAfter notBefore
  · intro same
    simp [same]

end Ferroq.Library
