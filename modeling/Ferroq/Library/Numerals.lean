import Mathlib.Data.List.Lex
import Mathlib.Algebra.Order.Ring.Nat

/-!
# Numerals of a fixed width

Decimal numerals with leading zeros, and their order as texts.  Texts of one
length compare as the numbers that they show, whatever follows them.
-/

namespace Ferroq.Library

theorem append_lt_append_iff {Symbol : Type} [LT Symbol] {first second : List Symbol}
    (firstRest secondRest : List Symbol) (sameLength : first.length = second.length) :
    first ++ firstRest < second ++ secondRest ↔
      first < second ∨ first = second ∧ firstRest < secondRest := by
  induction first generalizing second with
  | nil =>
      have empty : second = [] := List.eq_nil_of_length_eq_zero sameLength.symm
      simp [empty]
  | cons symbol first inductionHypothesis =>
      cases second with
      | nil => simp at sameLength
      | cons other second =>
          have shorter : first.length = second.length := by simpa using sameLength
          simp only [List.cons_append, List.cons_lt_cons_iff, inductionHypothesis shorter,
            List.cons.injEq, and_or_left, and_assoc, or_assoc]

def digit (number : Nat) : Char := Char.ofNat (48 + number)

/-- The last `width` decimal digits of a number. -/
def numeral : Nat → Nat → List Char
  | 0, _ => []
  | width + 1, number => numeral width (number / 10) ++ [digit (number % 10)]

/-- The last digits of a number in groups of three, with `rest` in the place of
the zeros at their end. -/
def numeralGroups (rest : List Char) : Nat → Nat → List Char
  | 0, _ => rest
  | groups + 1, number =>
      if number = 0 then rest
      else numeral 3 (number / 1000 ^ groups) ++ numeralGroups rest groups (number % 1000 ^ groups)

theorem digit_lt_iff {first second : Nat} (firstSmall : first < 10) (secondSmall : second < 10) :
    digit first < digit second ↔ first < second := by
  have table : ∀ first < 10, ∀ second < 10, (digit first < digit second ↔ first < second) := by
    decide
  exact table first firstSmall second secondSmall

theorem lt_digit {symbol : Char} (below : symbol < '0') {number : Nat} (small : number < 10) :
    symbol < digit number := by
  have table : ∀ number < 10, '0'.val ≤ (digit number).val := by decide
  exact UInt32.lt_of_lt_of_le below (table number small)

@[simp]
theorem length_numeral (width number : Nat) : (numeral width number).length = width := by
  induction width generalizing number with
  | zero => simp [numeral]
  | succ width inductionHypothesis => simp [numeral, inductionHypothesis]

theorem numeral_add (high low number : Nat) :
    numeral (high + low) number = numeral high (number / 10 ^ low) ++ numeral low number := by
  induction low generalizing number with
  | zero => simp [numeral]
  | succ low inductionHypothesis =>
      rw [← Nat.add_assoc, numeral, numeral, inductionHypothesis, List.append_assoc,
        Nat.div_div_eq_div_mul, ← Nat.pow_succ']

theorem numeral_mod (width number : Nat) :
    numeral width (number % 10 ^ width) = numeral width number := by
  induction width generalizing number with
  | zero => simp [numeral]
  | succ width inductionHypothesis =>
      have higher : number % 10 ^ (width + 1) / 10 = number / 10 % 10 ^ width := by
        rw [Nat.pow_succ', Nat.mod_mul_right_div_self]
      have lowest : number % 10 ^ (width + 1) % 10 = number % 10 :=
        Nat.mod_mod_of_dvd number (Nat.pow_succ 10 width ▸ Nat.dvd_mul_left 10 (10 ^ width))
      rw [numeral, numeral, higher, lowest, inductionHypothesis]

theorem numeral_inj_of_lt_iff {width first second : Nat}
    (below : numeral width first < numeral width second ↔ first < second)
    (above : numeral width second < numeral width first ↔ second < first) :
    numeral width first = numeral width second ↔ first = second := by
  constructor
  · intro equal
    rw [equal] at below above
    have notBelow := below.not.mp (List.lt_irrefl _)
    have notAbove := above.not.mp (List.lt_irrefl _)
    omega
  · intro equal
    rw [equal]

theorem numeral_lt_iff {width first second : Nat} (firstFits : first < 10 ^ width)
    (secondFits : second < 10 ^ width) :
    numeral width first < numeral width second ↔ first < second := by
  induction width generalizing first second with
  | zero =>
      simp only [Nat.pow_zero, Nat.lt_one_iff] at firstFits secondFits
      simp [firstFits, secondFits]
  | succ width inductionHypothesis =>
      have higherFits {number : Nat} (fits : number < 10 ^ (width + 1)) :
          number / 10 < 10 ^ width := by
        rw [Nat.pow_succ] at fits
        omega
      have higher := inductionHypothesis (higherFits firstFits) (higherFits secondFits)
      have sameHigher := numeral_inj_of_lt_iff higher
        (inductionHypothesis (higherFits secondFits) (higherFits firstFits))
      rw [numeral, numeral, append_lt_append_iff _ _ (by simp), higher, sameHigher,
        List.cons_lt_cons_iff, digit_lt_iff (Nat.mod_lt _ (by decide)) (Nat.mod_lt _ (by decide))]
      simp only [List.not_lt_nil, and_false, or_false]
      omega

theorem numeral_append_lt_iff {width first second : Nat} (firstFits : first < 10 ^ width)
    (secondFits : second < 10 ^ width) (firstRest secondRest : List Char) :
    numeral width first ++ firstRest < numeral width second ++ secondRest ↔
      first < second ∨ first = second ∧ firstRest < secondRest := by
  rw [append_lt_append_iff _ _ (by simp), numeral_lt_iff firstFits secondFits,
    numeral_inj_of_lt_iff (numeral_lt_iff firstFits secondFits)
      (numeral_lt_iff secondFits firstFits)]

theorem cons_lt_numeral_append {symbol : Char} (below : symbol < '0') (rest more : List Char)
    (width number : Nat) : symbol :: rest < numeral (width + 1) number ++ more := by
  have leading : numeral (1 + width) number =
      digit (number / 10 ^ width % 10) :: numeral width number := numeral_add 1 width number
  rw [Nat.add_comm, leading, List.cons_append, List.cons_lt_cons_iff]
  exact .inl (lt_digit below (Nat.mod_lt _ (by decide)))

/-- An order by two keys and then by something further is an order by both keys
together and then by the further. -/
theorem lexicographic_assoc {first sameFirst second sameSecond further : Prop} :
    first ∨ sameFirst ∧ (second ∨ sameSecond ∧ further) ↔
      (first ∨ sameFirst ∧ second) ∨ (sameFirst ∧ sameSecond) ∧ further := by
  rw [and_or_left, or_assoc, and_assoc]

theorem div_mod_lt_iff (divisor first second : Nat) :
    first / divisor < second / divisor ∨
        first / divisor = second / divisor ∧ first % divisor < second % divisor ↔
      first < second := by
  have firstParts := Nat.div_add_mod first divisor
  have secondParts := Nat.div_add_mod second divisor
  rcases lt_trichotomy (first / divisor) (second / divisor) with below | equal | above
  · have less : first < second := Nat.lt_of_div_lt_div below
    simp [below, less]
  · rw [equal] at firstParts
    simp only [equal, lt_irrefl, true_and, false_or]
    omega
  · have more : second < first := Nat.lt_of_div_lt_div above
    simp [above.asymm, above.ne', more.asymm]

/-- A symbol below the digits ends a row of groups before any further group. -/
theorem numeralGroups_lt_iff {symbol : Char} {rest : List Char} (below : symbol < '0')
    {groups first second : Nat} (firstFits : first < 1000 ^ groups)
    (secondFits : second < 1000 ^ groups) :
    numeralGroups (symbol :: rest) groups first < numeralGroups (symbol :: rest) groups second ↔
      first < second := by
  induction groups generalizing first second with
  | zero =>
      simp only [Nat.pow_zero, Nat.lt_one_iff] at firstFits secondFits
      simp [firstFits, secondFits]
  | succ groups inductionHypothesis =>
      have positive : 0 < 1000 ^ groups := Nat.pow_pos (by decide)
      have quotientFits {number : Nat} (fits : number < 1000 ^ (groups + 1)) :
          number / 1000 ^ groups < 10 ^ 3 := by
        apply Nat.div_lt_of_lt_mul
        rwa [Nat.pow_succ] at fits
      by_cases firstZero : first = 0 <;> by_cases secondZero : second = 0
      · simp [firstZero, secondZero]
      · have shorter := cons_lt_numeral_append below rest
          (numeralGroups (symbol :: rest) groups (second % 1000 ^ groups)) 2
          (second / 1000 ^ groups)
        simp [numeralGroups, firstZero, secondZero, shorter, Nat.pos_of_ne_zero secondZero]
      · have shorter := cons_lt_numeral_append below rest
          (numeralGroups (symbol :: rest) groups (first % 1000 ^ groups)) 2
          (first / 1000 ^ groups)
        have notBefore := List.not_lt.mpr (List.le_of_lt shorter)
        rw [secondZero]
        simp only [numeralGroups, firstZero, reduceIte]
        exact iff_of_false notBefore (Nat.not_lt_zero first)
      · simp only [numeralGroups, firstZero, secondZero, if_false]
        rw [numeral_append_lt_iff (quotientFits firstFits) (quotientFits secondFits),
          inductionHypothesis (Nat.mod_lt _ positive) (Nat.mod_lt _ positive), div_mod_lt_iff]

end Ferroq.Library
