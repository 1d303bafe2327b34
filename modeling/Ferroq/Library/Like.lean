import Mathlib.Data.List.Infix

/-!
# Patterns with wildcards

A pattern of a database matches whole texts: `%` stands for any text, `_` for any
symbol, and another symbol for itself in either case of an ASCII letter.  A word
between two `%` is found wherever it occurs, and only there as long as the word
has no wildcards itself.
-/

namespace Ferroq.Library.Like

def like : List Char → List Char → Bool
  | [], text => text.isEmpty
  | '%' :: pattern, text => text.tails.any (like pattern)
  | '_' :: pattern, text =>
      match text with
      | [] => false
      | _ :: rest => like pattern rest
  | symbol :: pattern, text =>
      match text with
      | [] => false
      | first :: rest => symbol.toLower == first.toLower && like pattern rest

def lower (text : List Char) : List Char := text.map Char.toLower

/-- A word occurs in a text up to the case of ASCII letters. -/
def Contains (word text : List Char) : Prop := lower word <:+: lower text

instance (word text : List Char) : Decidable (Contains word text) :=
  inferInstanceAs (Decidable (lower word <:+: lower text))

def Plain (word : List Char) : Prop := '%' ∉ word ∧ '_' ∉ word

instance (word : List Char) : Decidable (Plain word) :=
  inferInstanceAs (Decidable ('%' ∉ word ∧ '_' ∉ word))

theorem like_any_iff {pattern text : List Char} :
    like ('%' :: pattern) text = true ↔ ∃ rest, rest <:+ text ∧ like pattern rest = true := by
  simp [like]

theorem like_one_iff {pattern text : List Char} :
    like ('_' :: pattern) text = true ↔ ∃ symbol rest, text = symbol :: rest ∧
      like pattern rest = true := by
  cases text <;> simp [like]

theorem like_symbol_iff {symbol : Char} (noAny : symbol ≠ '%') (noOne : symbol ≠ '_')
    {pattern text : List Char} :
    like (symbol :: pattern) text = true ↔ ∃ first rest, text = first :: rest ∧
      symbol.toLower = first.toLower ∧ like pattern rest = true := by
  rw [like.eq_def]
  cases text <;> simp

theorem like_of_lower_eq {pattern text : List Char} (same : lower text = lower pattern) :
    like pattern text = true := by
  induction pattern generalizing text with
  | nil =>
      have empty : text = [] := List.map_eq_nil_iff.mp same
      rw [empty]
      rfl
  | cons symbol pattern inductionHypothesis =>
      obtain ⟨first, rest, rfl, sameFirst, sameRest⟩ := List.map_eq_cons_iff.mp same
      have later := inductionHypothesis sameRest
      by_cases any : symbol = '%'
      · rw [any, like_any_iff]
        exact ⟨rest, List.suffix_cons first rest, later⟩
      · by_cases one : symbol = '_'
        · rw [one, like_one_iff]
          exact ⟨first, rest, rfl, later⟩
        · rw [like_symbol_iff any one]
          exact ⟨first, rest, rfl, sameFirst.symm, later⟩

theorem like_iff_of_plain {pattern : List Char} (plain : Plain pattern) {text : List Char} :
    like pattern text = true ↔ lower text = lower pattern := by
  refine ⟨fun matched => ?_, like_of_lower_eq⟩
  induction pattern generalizing text with
  | nil =>
      cases text with
      | nil => rfl
      | cons first rest => cases matched
  | cons symbol pattern inductionHypothesis =>
      obtain ⟨noAny, noOne⟩ := plain
      obtain ⟨any, noAny⟩ := not_or.mp (List.mem_cons.not.mp noAny)
      obtain ⟨one, noOne⟩ := not_or.mp (List.mem_cons.not.mp noOne)
      obtain ⟨first, rest, rfl, same, later⟩ := (like_symbol_iff (Ne.symm any) (Ne.symm one)).mp
        matched
      have sameRest := inductionHypothesis ⟨noAny, noOne⟩ later
      simp only [lower, List.map_cons] at sameRest ⊢
      rw [same, sameRest]

theorem like_concat_any_iff {pattern text : List Char} :
    like (pattern ++ ['%']) text = true ↔ ∃ part, part <+: text ∧ like pattern part = true := by
  induction pattern generalizing text with
  | nil =>
      refine iff_of_true ?_ ⟨[], List.nil_prefix, rfl⟩
      rw [List.nil_append, like_any_iff]
      exact ⟨[], List.nil_suffix, rfl⟩
  | cons symbol pattern inductionHypothesis =>
      rw [List.cons_append]
      by_cases any : symbol = '%'
      · rw [any, like_any_iff]
        constructor
        · rintro ⟨rest, ⟨skipped, rfl⟩, matched⟩
          obtain ⟨part, ⟨behind, rfl⟩, found⟩ := inductionHypothesis.mp matched
          refine ⟨skipped ++ part, ⟨behind, by simp⟩, ?_⟩
          exact like_any_iff.mpr ⟨part, List.suffix_append skipped part, found⟩
        · rintro ⟨part, ⟨behind, rfl⟩, matched⟩
          obtain ⟨rest, ⟨skipped, rfl⟩, found⟩ := like_any_iff.mp matched
          refine ⟨rest ++ behind, ⟨skipped, by simp⟩, ?_⟩
          exact inductionHypothesis.mpr ⟨rest, List.prefix_append rest behind, found⟩
      · by_cases one : symbol = '_'
        · rw [one, like_one_iff]
          constructor
          · rintro ⟨first, rest, rfl, matched⟩
            obtain ⟨part, begins, found⟩ := inductionHypothesis.mp matched
            exact ⟨first :: part, List.cons_prefix_cons.mpr ⟨rfl, begins⟩,
              like_one_iff.mpr ⟨first, part, rfl, found⟩⟩
          · rintro ⟨part, ⟨behind, rfl⟩, matched⟩
            obtain ⟨first, rest, rfl, found⟩ := like_one_iff.mp matched
            exact ⟨first, rest ++ behind, rfl,
              inductionHypothesis.mpr ⟨rest, List.prefix_append rest behind, found⟩⟩
        · rw [like_symbol_iff any one]
          constructor
          · rintro ⟨first, rest, rfl, same, matched⟩
            obtain ⟨part, begins, found⟩ := inductionHypothesis.mp matched
            exact ⟨first :: part, List.cons_prefix_cons.mpr ⟨rfl, begins⟩,
              (like_symbol_iff any one).mpr ⟨first, part, rfl, same, found⟩⟩
          · rintro ⟨part, ⟨behind, rfl⟩, matched⟩
            obtain ⟨first, rest, rfl, same, found⟩ := (like_symbol_iff any one).mp matched
            exact ⟨first, rest ++ behind, rfl, same,
              inductionHypothesis.mpr ⟨rest, List.prefix_append rest behind, found⟩⟩

theorem like_within_iff {pattern text : List Char} :
    like ('%' :: (pattern ++ ['%'])) text = true ↔
      ∃ part, part <:+: text ∧ like pattern part = true := by
  rw [like_any_iff]
  constructor
  · rintro ⟨rest, ends, matched⟩
    obtain ⟨part, begins, found⟩ := like_concat_any_iff.mp matched
    exact ⟨part, begins.isInfix.trans ends.isInfix, found⟩
  · rintro ⟨part, ⟨before, behind, rfl⟩, found⟩
    refine ⟨part ++ behind, ⟨before, by simp⟩, ?_⟩
    exact like_concat_any_iff.mpr ⟨part, List.prefix_append part behind, found⟩

theorem contains_iff {word text : List Char} :
    Contains word text ↔ ∃ part, part <:+: text ∧ lower part = lower word := by
  unfold Contains lower
  rw [List.infix_map_iff]
  simp only [eq_comm]

theorem like_of_contains {word text : List Char} (contains : Contains word text) :
    like ('%' :: (word ++ ['%'])) text = true := by
  obtain ⟨part, occurs, same⟩ := contains_iff.mp contains
  exact like_within_iff.mpr ⟨part, occurs, like_of_lower_eq same⟩

theorem contains_of_like {word text : List Char} (plain : Plain word)
    (found : like ('%' :: (word ++ ['%'])) text = true) : Contains word text := by
  obtain ⟨part, occurs, matched⟩ := like_within_iff.mp found
  exact contains_iff.mpr ⟨part, occurs, (like_iff_of_plain plain).mp matched⟩

/-- A text that a pattern matches: nothing for `%`, and a letter for `_`. -/
def filled (pattern : List Char) : List Char :=
  (pattern.filter (· ≠ '%')).map fun symbol => if symbol = '_' then 'a' else symbol

theorem like_filled (pattern : List Char) : like pattern (filled pattern) = true := by
  induction pattern with
  | nil => rfl
  | cons symbol pattern inductionHypothesis =>
      by_cases any : symbol = '%'
      · rw [any, like_any_iff]
        exact ⟨_, List.suffix_refl _, inductionHypothesis⟩
      · by_cases one : symbol = '_'
        · rw [one, like_one_iff]
          exact ⟨'a', filled pattern, by simp [filled], inductionHypothesis⟩
        · rw [like_symbol_iff any one]
          exact ⟨symbol, filled pattern, by simp [filled, any, one], rfl, inductionHypothesis⟩

/-- A pattern with wildcards does not occur in the text that fills it. -/
theorem plain_of_contains_filled {pattern : List Char}
    (contains : Contains pattern (filled pattern)) : Plain pattern := by
  have long := contains.length_le
  have short : (pattern.filter (· ≠ '%')).length ≤ pattern.length := List.length_filter_le _ _
  simp only [lower, filled, List.length_map] at long
  have keeps := List.length_filter_eq_length_iff.mp (Nat.le_antisymm short long)
  have unfiltered : pattern.filter (· ≠ '%') = pattern := List.filter_eq_self.mpr keeps
  have same := contains.eq_of_length (by simp only [lower, filled, List.length_map, unfiltered])
  simp only [lower, filled, unfiltered, List.map_map, List.map_inj_left,
    Function.comp_apply] at same
  constructor
  · intro any
    exact absurd (keeps '%' any) (by decide)
  · intro one
    exact absurd (same '_' one) (by decide)

/-- A word is found only where it occurs exactly if it has no wildcards. -/
theorem found_contains_iff (word : List Char) :
    (∀ text, like ('%' :: (word ++ ['%'])) text = true → Contains word text) ↔ Plain word := by
  constructor
  · intro contained
    apply plain_of_contains_filled
    exact contained _ (like_within_iff.mpr ⟨_, List.infix_refl _, like_filled word⟩)
  · intro plain text found
    exact contains_of_like plain found

end Ferroq.Library.Like
