import Mathlib.Data.List.Basic

/-!
# Escapes by replacement

Texts are escaped by replacing symbols one after the other, and unescaped by
replacing their codes one after the other.  Each stage on the way is the
encoding by some table, so that a chain of replacements is followed by adding
entries to the table and taking them away again.
-/

namespace Ferroq.Library

universe u

variable {Symbol : Type u} [DecidableEq Symbol]

def replaceSymbol (symbol : Symbol) (word text : List Symbol) : List Symbol :=
  text.flatMap fun current => if current = symbol then word else [current]

/-- Replace the non-overlapping occurrences of the word `head :: tail` from
left to right, after passing over some symbols that are already replaced. -/
def replaceWordAfter (head : Symbol) (tail replacement : List Symbol) :
    Nat → List Symbol → List Symbol
  | _, [] => []
  | passed + 1, _ :: rest => replaceWordAfter head tail replacement passed rest
  | 0, current :: rest =>
      if current = head ∧ tail <+: rest then
        replacement ++ replaceWordAfter head tail replacement tail.length rest
      else current :: replaceWordAfter head tail replacement 0 rest

def replaceWord (head : Symbol) (tail replacement text : List Symbol) : List Symbol :=
  replaceWordAfter head tail replacement 0 text

/-- The code of a symbol: the mark and the symbol's name, or the symbol itself
when the table does not name it. -/
def code (mark : Symbol) (table : List (Symbol × List Symbol)) (symbol : Symbol) :
    List Symbol :=
  match table.lookup symbol with
  | some name => mark :: name
  | none => [symbol]

def encode (mark : Symbol) (table : List (Symbol × List Symbol)) (text : List Symbol) :
    List Symbol :=
  text.flatMap (code mark table)

variable {mark symbol : Symbol} {name text : List Symbol}
  {table : List (Symbol × List Symbol)}

@[simp]
theorem encode_empty (mark : Symbol) (table : List (Symbol × List Symbol)) :
    encode mark table [] = [] := rfl

@[simp]
theorem encode_cons (mark : Symbol) (table : List (Symbol × List Symbol))
    (symbol : Symbol) (text : List Symbol) :
    encode mark table (symbol :: text) = code mark table symbol ++ encode mark table text := rfl

@[simp]
theorem encode_append (mark : Symbol) (table : List (Symbol × List Symbol))
    (first second : List Symbol) :
    encode mark table (first ++ second) = encode mark table first ++ encode mark table second :=
  List.flatMap_append

@[simp]
theorem encode_nil (mark : Symbol) (text : List Symbol) : encode mark [] text = text := by
  induction text with
  | nil => rfl
  | cons symbol rest inductionHypothesis =>
      simp [code, inductionHypothesis]

theorem code_ne_nil (mark : Symbol) (table : List (Symbol × List Symbol)) (symbol : Symbol) :
    code mark table symbol ≠ [] := by
  unfold code
  split <;> simp

@[simp]
theorem encode_eq_nil_iff (mark : Symbol) (table : List (Symbol × List Symbol))
    (text : List Symbol) : encode mark table text = [] ↔ text = [] := by
  cases text with
  | nil => simp
  | cons symbol rest => simp [code_ne_nil]

theorem mem_of_lookup_eq_some {value : List Symbol}
    (found : table.lookup symbol = some value) : (symbol, value) ∈ table := by
  rcases List.lookup_eq_some_iff.mp found with ⟨earlier, later, rfl, _⟩
  simp

theorem not_mem_encode
    (encoded : (table.lookup symbol).isSome)
    (absent : ∀ entry ∈ table, symbol ∉ mark :: entry.2) :
    symbol ∉ encode mark table text := by
  intro membership
  rcases List.mem_flatMap.mp membership with ⟨current, _, inCode⟩
  unfold code at inCode
  cases found : table.lookup current with
  | none =>
      rw [found, List.mem_singleton] at inCode
      subst inCode
      simp [found] at encoded
  | some value =>
      rw [found] at inCode
      exact absent _ (mem_of_lookup_eq_some found) inCode

theorem replaceSymbol_encode (name : List Symbol)
    (absent : ∀ entry ∈ table, symbol ∉ mark :: entry.2)
    (text : List Symbol) :
    replaceSymbol symbol (mark :: name) (encode mark table text) =
      encode mark (table ++ [(symbol, name)]) text := by
  unfold replaceSymbol encode
  rw [List.flatMap_assoc]
  congr 1
  funext current
  simp only [code, List.lookup_append]
  cases found : table.lookup current with
  | none =>
      by_cases same : current = symbol
      · simp [same]
      · simp [same, List.lookup_cons, beq_eq_false_iff_ne.mpr same]
  | some value =>
      have untouched := absent _ (mem_of_lookup_eq_some found)
      have kept : ∀ other ∈ mark :: value,
          (if other = symbol then mark :: name else [other]) = [other] := by
        intro other membership
        apply if_neg
        rintro rfl
        exact untouched membership
      rw [Option.some_or]
      change (mark :: value).flatMap _ = mark :: value
      rw [List.flatMap_congr kept]
      simp

theorem replaceWord_append_of_not_mem {head : Symbol} (tail replacement : List Symbol)
    {block : List Symbol} (absent : head ∉ block) (rest : List Symbol) :
    replaceWord head tail replacement (block ++ rest) =
      block ++ replaceWord head tail replacement rest := by
  induction block with
  | nil => rfl
  | cons current remaining inductionHypothesis =>
      have different : current ≠ head := fun same => absent (by simp [same])
      have later : head ∉ remaining := fun membership => absent (by simp [membership])
      have step := inductionHypothesis later
      unfold replaceWord at step ⊢
      simp [replaceWordAfter, different, step]

theorem replaceWordAfter_append (head : Symbol) (tail replacement block rest : List Symbol) :
    replaceWordAfter head tail replacement block.length (block ++ rest) =
      replaceWordAfter head tail replacement 0 rest := by
  induction block with
  | nil => rfl
  | cons current remaining inductionHypothesis => exact inductionHypothesis

theorem replaceWord_word (head : Symbol) (tail replacement rest : List Symbol) :
    replaceWord head tail replacement (head :: tail ++ rest) =
      replacement ++ replaceWord head tail replacement rest := by
  have occurs : tail <+: tail ++ rest := List.prefix_append tail rest
  simp [replaceWord, replaceWordAfter, occurs, replaceWordAfter_append]

theorem replaceWord_code {other : List Symbol} (replacement : List Symbol)
    (clean : mark ∉ other) (apart : ¬ name <+: other ∧ ¬ other <+: name)
    (rest : List Symbol) :
    replaceWord mark name replacement (mark :: other ++ rest) =
      mark :: other ++ replaceWord mark name replacement rest := by
  have missed : ¬ name <+: other ++ rest := by
    intro occurs
    rcases List.prefix_or_prefix_of_prefix occurs (List.prefix_append other rest) with
      inside | outside
    · exact apart.1 inside
    · exact apart.2 outside
  have passed := replaceWord_append_of_not_mem name replacement clean rest
  unfold replaceWord at passed ⊢
  simp [replaceWordAfter, missed, passed]

theorem lookup_filter_ne (table : List (Symbol × List Symbol)) (symbol other : Symbol) :
    (table.filter fun entry => entry.1 ≠ symbol).lookup other =
      if other = symbol then none else table.lookup other := by
  induction table with
  | nil => simp
  | cons entry rest inductionHypothesis =>
      rcases entry with ⟨key, value⟩
      by_cases removed : key = symbol
      · rw [List.filter_cons_of_neg (by simpa using removed), inductionHypothesis]
        by_cases same : other = symbol
        · rw [if_pos same, if_pos same]
        · have missed : (other == key) = false := by simpa [removed] using same
          rw [if_neg same, if_neg same, List.lookup_cons, missed]
      · rw [List.filter_cons_of_pos (by simpa using removed), List.lookup_cons,
          List.lookup_cons, inductionHypothesis]
        by_cases same : other = key
        · have kept : other ≠ symbol := same ▸ removed
          simp [same, removed]
        · simp [beq_eq_false_iff_ne.mpr same]

/-- Replacing the code of a symbol by the symbol takes the symbol's entry from
the table, when the mark itself is encoded and the names are told apart. -/
theorem replaceWord_encode
    (marked : (table.lookup mark).isSome)
    (clean : ∀ entry ∈ table, mark ∉ entry.2)
    (named : ∀ entry ∈ table, entry.1 = symbol → entry.2 = name)
    (apart : ∀ entry ∈ table, entry.1 ≠ symbol →
      ¬ name <+: entry.2 ∧ ¬ entry.2 <+: name)
    (text : List Symbol) :
    replaceWord mark name [symbol] (encode mark table text) =
      encode mark (table.filter fun entry => entry.1 ≠ symbol) text := by
  induction text with
  | nil => rfl
  | cons current rest inductionHypothesis =>
      rw [encode_cons, encode_cons, ← inductionHypothesis]
      unfold code
      rw [lookup_filter_ne]
      cases found : table.lookup current with
      | none =>
          have different : mark ≠ current := by
            rintro rfl
            simp [found] at marked
          simp only [ite_self]
          exact replaceWord_append_of_not_mem _ _ (by simpa using different) _
      | some value =>
          have entry := mem_of_lookup_eq_some found
          by_cases same : current = symbol
          · rw [if_pos same, ← named _ entry same, same]
            exact replaceWord_word mark _ [symbol] _
          · rw [if_neg same]
            exact replaceWord_code [symbol] (clean _ entry) (apart _ entry same) _

/-! ## Symbols that separate texts -/

theorem replaceWordAfter_append_cons {head stop : Symbol} {tail : List Symbol}
    (replacement : List Symbol) (absent : stop ∉ head :: tail) (first second : List Symbol)
    {passed : Nat} (within : passed ≤ first.length) :
    replaceWordAfter head tail replacement passed (first ++ stop :: second) =
      replaceWordAfter head tail replacement passed first ++
        stop :: replaceWordAfter head tail replacement 0 second := by
  have other : stop ≠ head := fun same => absent (by simp [same])
  have later : stop ∉ tail := fun listed => absent (List.mem_cons_of_mem _ listed)
  induction first generalizing passed with
  | nil =>
      obtain rfl : passed = 0 := Nat.le_zero.mp within
      simp [replaceWordAfter, other]
  | cons current rest inductionHypothesis =>
      cases passed with
      | succ passed => exact inductionHypothesis (Nat.le_of_succ_le_succ within)
      | zero =>
          -- An occurrence that begins before the separating symbol ends before it.
          have same : tail <+: rest ++ stop :: second ↔ tail <+: rest := by
            constructor
            · intro occurs
              rcases List.prefix_or_prefix_of_prefix occurs (List.prefix_append rest _) with
                inside | ⟨more, rfl⟩
              · exact inside
              · cases more with
                | nil => simp
                | cons symbol remaining =>
                    have begins := (List.prefix_append_right_inj rest).mp occurs
                    have first := (List.cons_prefix_cons.mp begins).1
                    exact absurd (by simp [first]) later
            · exact fun inside => inside.trans (List.prefix_append _ _)
          simp only [List.cons_append, replaceWordAfter, same]
          split
          next occurs =>
            rw [inductionHypothesis occurs.2.length_le, List.append_assoc]
          next => rw [inductionHypothesis (Nat.zero_le _), List.cons_append]

theorem replaceWord_append_cons {head stop : Symbol} {tail : List Symbol}
    (replacement : List Symbol) (absent : stop ∉ head :: tail) (first second : List Symbol) :
    replaceWord head tail replacement (first ++ stop :: second) =
      replaceWord head tail replacement first ++
        stop :: replaceWord head tail replacement second :=
  replaceWordAfter_append_cons replacement absent first second (Nat.zero_le _)

/-! ## Words that escapes do not touch -/

omit [DecidableEq Symbol] in
theorem infix_of_infix_cons {stop : Symbol} {word rest : List Symbol} (absent : stop ∉ word)
    (occurs : word <:+: stop :: rest) : word <:+: rest := by
  rcases List.infix_cons_iff.mp occurs with begins | later
  · cases word with
    | nil => exact List.nil_infix
    | cons symbol remaining =>
        have same := (List.cons_prefix_cons.mp begins).1
        exact absurd (by simp [same]) absent
  · exact later

omit [DecidableEq Symbol] in
theorem infix_append_cons {stop : Symbol} {word first second : List Symbol}
    (absent : stop ∉ word) (occurs : word <:+: first ++ stop :: second) :
    word <:+: first ∨ word <:+: second := by
  rcases List.infix_append_iff.mp occurs with inside | later | ⟨front, back, rfl, begins, ends⟩
  · exact Or.inl inside
  · exact Or.inr (infix_of_infix_cons absent later)
  · cases back with
    | nil => exact Or.inl (by simpa using begins.isInfix)
    | cons symbol rest =>
        have same := (List.cons_prefix_cons.mp ends).1
        exact absurd (by simp [same]) absent

theorem replaceWord_ne_nil (head : Symbol) (tail : List Symbol) (symbol : Symbol)
    {text : List Symbol} (inhabited : text ≠ []) : replaceWord head tail [symbol] text ≠ [] := by
  cases text with
  | nil => exact absurd rfl inhabited
  | cons current rest =>
      rw [replaceWord, replaceWordAfter]
      split <;> simp

omit [DecidableEq Symbol] in
/-- Where a symbol is put in for parts of a text, a word without it that the
result begins with is one that the text begins with. -/
theorem prefix_of_prefix_marked {rewritten : List Symbol → List Symbol} {word : List Symbol}
    (ends : rewritten [] = [])
    (steps : ∀ current rest, (∃ remaining, rewritten (current :: rest) = symbol :: remaining) ∨
      rewritten (current :: rest) = current :: rewritten rest)
    (fresh : symbol ∉ word) (begins : word <+: rewritten text) : word <+: text := by
  induction text generalizing word with
  | nil => rwa [ends] at begins
  | cons current rest inductionHypothesis =>
      cases word with
      | nil => exact List.nil_prefix
      | cons first remaining =>
          have later : symbol ∉ remaining := fun listed => fresh (List.mem_cons_of_mem _ listed)
          rcases steps current rest with ⟨after, marked⟩ | kept
          · rw [marked] at begins
            have same := (List.cons_prefix_cons.mp begins).1
            exact absurd (by simp [same]) fresh
          · rw [kept] at begins
            obtain ⟨same, continues⟩ := List.cons_prefix_cons.mp begins
            exact List.cons_prefix_cons.mpr ⟨same, inductionHypothesis later continues⟩

theorem prefix_of_prefix_replaceWord {head : Symbol} {tail word : List Symbol}
    (fresh : symbol ∉ word) (begins : word <+: replaceWord head tail [symbol] text) :
    word <+: text := by
  refine prefix_of_prefix_marked rfl (fun current rest => ?_) fresh begins
  rw [replaceWord, replaceWordAfter]
  split
  next => exact .inl ⟨_, rfl⟩
  next => exact .inr rfl

theorem infix_of_infix_replaceWord {head : Symbol} {tail word : List Symbol}
    (fresh : symbol ∉ word) (occurs : word <:+: replaceWord head tail [symbol] text) :
    word <:+: text := by
  unfold replaceWord at occurs
  -- The induction passes through the symbols of a word that is being replaced.
  generalize 0 = passed at occurs
  induction text generalizing passed with
  | nil => cases passed <;> exact occurs
  | cons current rest inductionHypothesis =>
      cases passed with
      | succ passed => exact List.infix_cons (inductionHypothesis passed occurs)
      | zero =>
          have begun : word <+: replaceWord head tail [symbol] (current :: rest) →
              word <+: current :: rest := prefix_of_prefix_replaceWord fresh
          rw [replaceWord] at begun
          rw [replaceWordAfter] at occurs begun
          split at occurs
          next =>
            exact List.infix_cons (inductionHypothesis _ (infix_of_infix_cons fresh occurs))
          next kept =>
            rw [if_neg kept] at begun
            rcases List.infix_cons_iff.mp occurs with begins | later
            · exact (begun begins).isInfix
            · exact List.infix_cons (inductionHypothesis _ later)

theorem prefix_of_prefix_encode {word : List Symbol} (unmarked : mark ∉ word)
    (begins : word <+: encode mark table text) : word <+: text := by
  refine prefix_of_prefix_marked rfl (fun current rest => ?_) unmarked begins
  rw [encode_cons, code]
  split
  next => exact .inl ⟨_, rfl⟩
  next => exact .inr rfl

/-- A word that fits into no code and has neither the mark nor the symbol that
ends the codes occurs in an encoded text only where the text has it. -/
theorem infix_of_infix_encode {stop : Symbol} {word : List Symbol} (unmarked : mark ∉ word)
    (unstopped : stop ∉ word)
    (closed : ∀ entry ∈ table, entry.2 = entry.2.dropLast ++ [stop] ∧
      ¬ word <:+: entry.2.dropLast)
    (occurs : word <:+: encode mark table text) : word <:+: text := by
  induction text with
  | nil => exact occurs
  | cons current rest inductionHypothesis =>
      have begun : word <+: encode mark table (current :: rest) → word <+: current :: rest :=
        prefix_of_prefix_encode unmarked
      rw [encode_cons, code] at occurs begun
      split at occurs
      next name found =>
        have entry := closed _ (mem_of_lookup_eq_some found)
        dsimp only at entry
        rw [entry.1, List.cons_append, List.append_assoc, List.singleton_append] at occurs
        rcases infix_append_cons unstopped (infix_of_infix_cons unmarked occurs) with
          inside | later
        · exact absurd inside entry.2
        · exact List.infix_cons (inductionHypothesis later)
      next missed =>
        simp only [missed] at begun
        rcases List.infix_cons_iff.mp occurs with begins | later
        · exact (begun begins).isInfix
        · exact List.infix_cons (inductionHypothesis later)

end Ferroq.Library
