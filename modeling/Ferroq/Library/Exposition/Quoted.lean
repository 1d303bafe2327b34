import Ferroq.Library.Exposition.RoundTrip
import Mathlib.Data.List.MinMax

/-!
# Label values in a text

Every label value that a parser reads stands in the text, escaped and with its
closing quote.  A backslash of an escaped value cannot come from outside of the
quotes, so a value that needs escapes is read only where a longer text holds it.
-/

namespace Ferroq.Library.Exposition

variable {Value : Type}

def IsStop (symbol : Char) : Prop := isBlank symbol = true ∨ symbol = ',' ∨ symbol = '}'

/-- A value stands in a text with its escapes, its closing quote and what ends a
label. -/
def Quoted (value text : List Char) : Prop :=
  ∃ stop, IsStop stop ∧ escape value ++ ['"', stop] <:+: text

theorem Quoted.mono {value text longer : List Char} (quoted : Quoted value text)
    (occurs : text <:+: longer) : Quoted value longer := by
  obtain ⟨stop, isStop, inside⟩ := quoted
  exact ⟨stop, isStop, inside.trans occurs⟩

theorem skipBlanks_suffix (text : List Char) : skipBlanks text <:+ text :=
  List.dropWhile_suffix isBlank

theorem readName_suffix {starts continues : Char → Bool} {text name rest : List Char}
    (read : readName starts continues text = some (name, rest)) : rest <:+ text := by
  cases text with
  | nil => cases read
  | cons first others =>
      simp only [readName, Option.ite_none_right_eq_some, Option.some.injEq, Prod.mk.injEq] at read
      obtain ⟨_, _, rfl⟩ := read
      exact (List.dropWhile_suffix continues).trans (List.suffix_cons first others)

theorem readQuoted_eq_some {text value rest : List Char}
    (read : readQuoted text = some (value, rest)) : text = escape value ++ '"' :: rest := by
  fun_induction readQuoted text generalizing value rest
  case case1 => cases read
  case case2 =>
    cases read
    rfl
  case case3 inductionHypothesis =>
    obtain ⟨⟨value, _⟩, inner, ⟨⟩⟩ := Option.map_eq_some_iff.mp read
    rw [inductionHypothesis inner]
    rfl
  case case4 inductionHypothesis =>
    obtain ⟨⟨value, _⟩, inner, ⟨⟩⟩ := Option.map_eq_some_iff.mp read
    rw [inductionHypothesis inner]
    rfl
  case case5 inductionHypothesis =>
    obtain ⟨⟨value, _⟩, inner, ⟨⟩⟩ := Option.map_eq_some_iff.mp read
    rw [inductionHypothesis inner]
    rfl
  case case6 => cases read
  case case7 => cases read
  case case8 symbol _ quote mark feed inductionHypothesis =>
    obtain ⟨⟨value, _⟩, inner, ⟨⟩⟩ := Option.map_eq_some_iff.mp read
    have plain : escape (symbol :: value) = symbol :: escape value := by
      unfold escape
      rw [encode_cons, code_escapes, if_neg (fun equal => mark equal),
        if_neg (fun equal => quote equal), if_neg feed, List.singleton_append]
    change _ = escape (symbol :: value) ++ _
    rw [plain, inductionHypothesis inner]
    rfl

theorem cons_suffix_of_skipBlanks {text rest : List Char} {symbol : Char}
    (skipped : skipBlanks text = symbol :: rest) : symbol :: rest <:+ text := by
  rw [← skipped]
  exact skipBlanks_suffix text

theorem readLabel_suffix {text rest : List Char} {label : Label}
    (read : readLabel text = some (label, rest)) : escape label.2 ++ '"' :: rest <:+ text := by
  unfold readLabel at read
  simp only [Option.bind_eq_bind, Option.bind_eq_some_iff] at read
  obtain ⟨⟨name, afterName⟩, named, read⟩ := read
  split at read
  next afterEquals equals =>
    split at read
    next opened quote =>
      obtain ⟨⟨value, after⟩, inner, ⟨⟩⟩ := Option.bind_eq_some_iff.mp read
      have toQuote : opened <:+ afterEquals :=
        (List.suffix_cons '"' opened).trans (cons_suffix_of_skipBlanks quote)
      have toEquals : afterEquals <:+ afterName :=
        (List.suffix_cons '=' afterEquals).trans (cons_suffix_of_skipBlanks equals)
      rw [← readQuoted_eq_some inner]
      exact toQuote.trans (toEquals.trans (readName_suffix named))
    next => cases read
  next => cases read

theorem quoted_of_skipBlanks {value after rest text : List Char} {symbol : Char}
    (occurs : escape value ++ '"' :: after <:+ text)
    (skipped : skipBlanks after = symbol :: rest) (ends : symbol = ',' ∨ symbol = '}') :
    Quoted value text := by
  obtain ⟨stop, more, rfl, isStop⟩ : ∃ stop more, after = stop :: more ∧ IsStop stop := by
    cases after with
    | nil => cases skipped
    | cons stop more =>
        refine ⟨stop, more, rfl, ?_⟩
        by_cases blank : isBlank stop = true
        · exact .inl blank
        · rw [skipBlanks_cons (Bool.eq_false_iff.mpr blank)] at skipped
          cases skipped
          exact .inr ends
  refine ⟨stop, isStop, List.IsInfix.trans ?_ occurs.isInfix⟩
  exact ⟨[], more, by simp⟩

theorem quoted_of_readLabels {fuel : Nat} {text rest : List Char} {labels : List Label}
    (read : readLabels fuel text = some (labels, rest)) :
    ∀ label ∈ labels, Quoted label.2 text := by
  induction fuel generalizing text labels rest with
  | zero => cases read
  | succ fuel inductionHypothesis =>
      rw [readLabels] at read
      split at read
      next =>
        cases read
        simp
      next afterBlanks _ =>
        obtain ⟨⟨label, after⟩, first, read⟩ := Option.bind_eq_some_iff.mp read
        have occurs := (readLabel_suffix first).trans (skipBlanks_suffix text)
        dsimp only at read
        split at read
        next afterComma comma =>
          obtain ⟨⟨others, _⟩, later, ⟨⟩⟩ := Option.bind_eq_some_iff.mp read
          refine List.forall_mem_cons.mpr
            ⟨quoted_of_skipBlanks occurs comma (.inl rfl), fun other listed => ?_⟩
          have toComma : afterComma <:+ after :=
            (List.suffix_cons ',' afterComma).trans (cons_suffix_of_skipBlanks comma)
          have toAfter : after <:+ text :=
            (((List.suffix_cons '"' after).trans (List.suffix_append _ _))).trans occurs
          exact (inductionHypothesis later other listed).mono (toComma.trans toAfter).isInfix
        next brace =>
          cases read
          simpa using quoted_of_skipBlanks occurs brace (.inr rfl)
        next => cases read

theorem quoted_of_readSample {reader : Reader Value} {text : List Char} {sample : Sample Value}
    (read : readSample reader text = some sample) :
    ∀ label ∈ sample.labels, Quoted label.2 text := by
  unfold readSample at read
  simp only [Option.bind_eq_bind] at read
  obtain ⟨⟨metric, rest⟩, named, read⟩ := Option.bind_eq_some_iff.mp read
  dsimp only at read
  split at read
  next opened brace =>
    obtain ⟨⟨labels, after⟩, labelled, read⟩ := Option.bind_eq_some_iff.mp read
    obtain ⟨⟨value, timestamp⟩, _, read⟩ := Option.bind_eq_some_iff.mp read
    rw [Option.ite_none_right_eq_some] at read
    obtain ⟨_, ⟨⟩⟩ := read
    have occurs : opened <:+ text :=
      ((List.suffix_cons '{' opened).trans (cons_suffix_of_skipBlanks brace)).trans
        (readName_suffix named)
    intro label listed
    exact (quoted_of_readLabels labelled label listed).mono occurs.isInfix
  next =>
    rw [Option.bind_some] at read
    obtain ⟨⟨value, timestamp⟩, _, read⟩ := Option.bind_eq_some_iff.mp read
    rw [Option.ite_none_right_eq_some] at read
    obtain ⟨_, ⟨⟩⟩ := read
    simp

theorem readComment_ne_sample (text : List Char) (sample : Sample Value) :
    readComment text ≠ some (.sample sample) := by
  unfold readComment
  split
  next =>
    split_ifs
    · simp
    · simp
    · split
      next =>
        split_ifs <;> simp
      next => simp
    · simp
  next => simp

theorem quoted_of_readLine {reader : Reader Value} {line : List Char} {sample : Sample Value}
    (read : readLine reader line = some (.sample sample)) :
    ∀ label ∈ sample.labels, Quoted label.2 line := by
  unfold readLine at read
  split at read
  next => cases read
  next rest _ => exact absurd read (readComment_ne_sample rest sample)
  next =>
    obtain ⟨found, sampled, ⟨⟩⟩ := Option.map_eq_some_iff.mp read
    intro label listed
    exact (quoted_of_readSample sampled label listed).mono (skipBlanks_suffix line).isInfix

theorem infix_intercalate {part : List Char} {parts : List (List Char)} (listed : part ∈ parts)
    (separator : List Char) : part <:+: separator.intercalate parts := by
  induction parts with
  | nil => cases listed
  | cons first others inductionHypothesis =>
      cases others with
      | nil => simp_all
      | cons next others =>
          rw [List.intercalate_cons_cons]
          rcases List.mem_cons.mp listed with rfl | later
          · exact ⟨[], separator ++ separator.intercalate (next :: others), by simp⟩
          · exact (inductionHypothesis later).trans (List.suffix_append _ _).isInfix

theorem exists_of_mem_mapM {Item Other : Type} {read : Item → Option Other} {items : List Item}
    {others : List Other} (mapped : items.mapM read = some others) {other : Other}
    (listed : other ∈ others) : ∃ item ∈ items, read item = some other := by
  induction items generalizing others with
  | nil =>
      cases mapped
      cases listed
  | cons item items inductionHypothesis =>
      rw [List.mapM_cons, Option.bind_eq_bind, Option.bind_eq_some_iff] at mapped
      obtain ⟨first, readFirst, mapped⟩ := mapped
      obtain ⟨rest, readRest, ⟨⟩⟩ := Option.bind_eq_some_iff.mp mapped
      rcases List.mem_cons.mp listed with rfl | later
      · exact ⟨item, List.mem_cons_self, readFirst⟩
      · obtain ⟨source, member, found⟩ := inductionHypothesis readRest later
        exact ⟨source, List.mem_cons_of_mem item member, found⟩

/-- Every label value that is read stands in the text. -/
theorem quoted_of_parse {reader : Reader Value} {text : List Char}
    {samples : List (Sample Value)} (read : parse reader text = some samples)
    {sample : Sample Value} (listed : sample ∈ samples) :
    ∀ label ∈ sample.labels, Quoted label.2 text := by
  unfold parse at read
  obtain ⟨lines, parsed, read⟩ := Option.bind_eq_some_iff.mp read
  rw [Option.ite_none_right_eq_some] at read
  obtain ⟨_, ⟨⟩⟩ := read
  obtain ⟨line, among, told⟩ := List.mem_filterMap.mp listed
  obtain ⟨source, member, found⟩ := exists_of_mem_mapM parsed among
  have isSample : line = .sample sample := by
    cases line <;> simp_all [Line.sample?]
  rw [isSample] at found
  have occurs := infix_intercalate member ['\n']
  rw [List.intercalate_splitOn] at occurs
  intro label inSample
  exact (quoted_of_readLine found label inSample).mono occurs

/-- A text of one line whose quotes all stand behind a backslash. -/
def Guarded (text : List Char) : Prop :=
  '\n' ∉ text ∧
    ∀ before after, text = before ++ '"' :: after → ∃ earlier, before = earlier ++ ['\\']

theorem code_quote {symbol : Char} {before after : List Char}
    (shape : code '\\' escapes symbol = before ++ '"' :: after) : before = ['\\'] := by
  rw [code_escapes] at shape
  have listed : '"' ∈ before ++ '"' :: after := by simp
  split_ifs at shape with mark quote feed
  · rw [← shape] at listed
    exact absurd listed (by decide)
  · cases before with
    | nil => cases shape
    | cons first before =>
        obtain ⟨rfl, shape⟩ := List.cons.inj shape
        cases before with
        | nil => rfl
        | cons second before => simp at shape
  · rw [← shape] at listed
    exact absurd listed (by decide)
  · rw [← shape, List.mem_singleton] at listed
    exact absurd listed.symm quote

theorem guarded_escape (value : List Char) : Guarded (escape value) := by
  refine ⟨not_mem_escape value, ?_⟩
  induction value with
  | nil => simp [escape]
  | cons symbol value inductionHypothesis =>
      intro before after shape
      unfold escape at shape inductionHypothesis
      rw [encode_cons] at shape
      rcases List.append_eq_append_iff.mp shape with
        ⟨middle, rfl, later⟩ | ⟨middle, inCode, rest⟩
      · obtain ⟨earlier, rfl⟩ := inductionHypothesis middle after later
        exact ⟨code '\\' escapes symbol ++ earlier, by simp⟩
      · cases middle with
        | nil =>
            obtain ⟨earlier, none⟩ := inductionHypothesis [] after rest.symm
            simp at none
        | cons quote middle =>
            obtain ⟨rfl, _⟩ := List.cons.inj rest
            exact ⟨[], code_quote inCode⟩

theorem Guarded.of_append_cons {before after : List Char}
    (guarded : Guarded (before ++ '"' :: after)) : Guarded after := by
  refine ⟨fun listed => guarded.1 (by simp [listed]), fun first second shape => ?_⟩
  obtain ⟨earlier, ends⟩ := guarded.2 (before ++ '"' :: first) second (by simp [shape])
  rcases first.eq_nil_or_concat with rfl | ⟨others, symbol, rfl⟩
  · have last := congrArg List.getLast? ends
    simp at last
  · rw [List.concat_eq_append, ← List.cons_append, ← List.append_assoc] at ends
    obtain ⟨_, last⟩ := List.append_inj' ends rfl
    exact ⟨others, by rw [List.concat_eq_append, last]⟩

/-- No later quote ends a label without a quote before it that is open. -/
def Closed (rest : List Char) : Prop :=
  ∀ inside stop after, rest = inside ++ '"' :: stop :: after → Guarded inside → ¬ IsStop stop

theorem exists_of_not_mem_left {symbol : Char} {left right before after : List Char}
    (absent : symbol ∉ left) (shape : left ++ right = before ++ symbol :: after) :
    ∃ middle, before = left ++ middle ∧ right = middle ++ symbol :: after := by
  rcases List.append_eq_append_iff.mp shape with ⟨middle, found, rest⟩ | ⟨middle, found, rest⟩
  · exact ⟨middle, found, rest⟩
  · cases middle with
    | nil => exact ⟨[], by simpa using found.symm, rest.symm⟩
    | cons first middle =>
        obtain ⟨rfl, _⟩ := List.cons.inj rest
        exact absurd (by simp [found]) absent

theorem exists_of_not_mem_right {symbol : Char} {left right before after : List Char}
    (absent : symbol ∉ right) (shape : left ++ right = before ++ symbol :: after) :
    ∃ middle, left = before ++ symbol :: middle ∧ after = middle ++ right := by
  rcases List.append_eq_append_iff.mp shape with ⟨middle, _, rest⟩ | ⟨middle, found, rest⟩
  · exact absurd (by simp [rest]) absent
  · cases middle with
    | nil =>
        rw [List.nil_append] at rest
        exact absurd (by simp [← rest]) absent
    | cons first middle =>
        obtain ⟨rfl, tail⟩ := List.cons.inj rest
        exact ⟨middle, found, tail⟩

theorem closed_of_line {before : List Char} (noQuote : '"' ∉ before) (after : List Char) :
    Closed (before ++ '\n' :: after) := by
  intro inside stop later shape guarded
  obtain ⟨middle, rfl, rest⟩ := exists_of_not_mem_left noQuote shape
  cases middle with
  | nil => cases rest
  | cons symbol middle =>
      obtain ⟨rfl, _⟩ := List.cons.inj rest
      exact absurd (by simp) guarded.1

theorem closed_of_label {before : List Char} (noQuote : '"' ∉ before) {symbol : Char}
    (goesOn : ¬ IsStop symbol) (after : List Char) :
    Closed (before ++ '=' :: '"' :: symbol :: after) := by
  intro inside stop later shape guarded
  have noQuoteYet : '"' ∉ before ++ ['='] := by simp [noQuote]
  rw [List.append_cons before '='] at shape
  obtain ⟨middle, rfl, rest⟩ := exists_of_not_mem_left noQuoteYet shape
  cases middle with
  | nil =>
      cases rest
      exact goesOn
  | cons quote middle =>
      obtain ⟨rfl, _⟩ := List.cons.inj rest
      -- the quote that opens the next value stands behind no backslash
      obtain ⟨earlier, ends⟩ := guarded.2 (before ++ ['=']) middle rfl
      have last := congrArg List.getLast? ends
      simp at last

/-- Every backslash of a text is in one of some values, which stands in quotes
behind an equals sign. -/
def MarksWithin (values : List (List Char)) (text : List Char) : Prop :=
  ∀ before after, text = before ++ '\\' :: after →
    ∃ value ∈ values, ∃ first second outer rest, value = first ++ '\\' :: second ∧
      before = outer ++ '=' :: '"' :: first ∧ after = second ++ '"' :: rest ∧
      ∀ later, Closed (rest ++ later)

variable {values : List (List Char)} {value text : List Char}

theorem marksWithin_of_not_mem (unmarked : '\\' ∉ text) : MarksWithin values text := by
  intro before after shape
  exact absurd (by simp [shape]) unmarked

theorem MarksWithin.append {other : List Char} (first : MarksWithin values text)
    (second : MarksWithin values other) : MarksWithin values (text ++ other) := by
  intro before after shape
  rcases List.append_eq_append_iff.mp shape with ⟨middle, rfl, later⟩ | ⟨middle, earlier, tail⟩
  · obtain ⟨value, member, left, right, outer, rest, within, rfl, rfl, closed⟩ :=
      second middle after later
    exact ⟨value, member, left, right, text ++ outer, rest, within, by simp, rfl, closed⟩
  · cases middle with
    | nil =>
        obtain ⟨value, member, left, right, outer, rest, within, none, _⟩ :=
          second [] after tail.symm
        simp at none
    | cons mark middle =>
        obtain ⟨rfl, rfl⟩ := List.cons.inj tail
        obtain ⟨value, member, left, right, outer, rest, within, rfl, rfl, closed⟩ :=
          first before middle earlier
        refine ⟨value, member, left, right, outer, rest ++ other, within, rfl, by simp, ?_⟩
        intro later
        rw [List.append_assoc]
        exact closed (other ++ later)

theorem marksWithin_flatMap {Item : Type} {items : List Item} {part : Item → List Char}
    (each : ∀ item ∈ items, MarksWithin values (part item)) :
    MarksWithin values (items.flatMap part) := by
  induction items with
  | nil => exact marksWithin_of_not_mem (by simp)
  | cons item items inductionHypothesis =>
      obtain ⟨first, others⟩ := List.forall_mem_cons.mp each
      rw [List.flatMap_cons]
      exact first.append (inductionHypothesis others)

theorem marksWithin_label (member : value ∈ values) {head rest : List Char}
    (unmarkedHead : '\\' ∉ head) (unmarkedRest : '\\' ∉ rest)
    (closed : ∀ later, Closed (rest ++ later)) :
    MarksWithin values (head ++ '=' :: '"' :: (value ++ '"' :: rest)) := by
  intro before after shape
  have unmarked : '\\' ∉ head ++ ['=', '"'] := by simp [unmarkedHead]
  have unmarkedTail : '\\' ∉ '"' :: rest := by simp [unmarkedRest]
  have parts : (head ++ ['=', '"']) ++ (value ++ '"' :: rest) = before ++ '\\' :: after := by
    simpa using shape
  obtain ⟨first, rfl, inValue⟩ := exists_of_not_mem_left unmarked parts
  obtain ⟨second, rfl, rfl⟩ := exists_of_not_mem_right unmarkedTail inValue
  exact ⟨_, member, first, second, head, rest, rfl, by simp, rfl, closed⟩

/-- A value with escapes that stands in a text stands in one of the values. -/
theorem infix_of_quoted (marks : MarksWithin values text) (quoted : Quoted value text)
    (marked : '\\' ∈ escape value) : ∃ other ∈ values, escape value <:+: other := by
  obtain ⟨stop, isStop, front, back, shape⟩ := quoted
  obtain ⟨before, after, split⟩ := List.mem_iff_append.mp marked
  have guarded := guarded_escape value
  rw [split] at shape guarded ⊢
  obtain ⟨other, member, first, second, outer, rest, rfl, left, right, closed⟩ :=
    marks (front ++ before) (after ++ '"' :: stop :: back) (by simp [← shape])
  refine ⟨_, member, ?_⟩
  have begins : ∃ earlier, first = earlier ++ before := by
    have parts : front ++ before = (outer ++ ['=', '"']) ++ first := by simpa using left
    rcases List.append_eq_append_iff.mp parts with ⟨middle, opened, rfl⟩ | ⟨middle, _, found⟩
    · rcases middle.eq_nil_or_concat with rfl | ⟨others, symbol, rfl⟩
      · exact ⟨[], rfl⟩
      · -- the value would begin with a quote behind an equals sign
        rw [List.append_cons outer '=', List.concat_eq_append, ← List.append_assoc] at opened
        obtain ⟨equals, last⟩ := List.append_inj' opened rfl
        obtain ⟨rfl, _⟩ := List.cons.inj last
        rw [List.concat_eq_append, List.append_assoc, List.append_assoc] at guarded
        obtain ⟨earlier, rfl⟩ := guarded.2 others _ rfl
        rw [← List.append_assoc] at equals
        obtain ⟨_, last⟩ := List.append_inj' equals rfl
        exact absurd last (by decide)
    · exact ⟨middle, found⟩
  have ends : ∃ later, second = after ++ later := by
    rcases List.append_eq_append_iff.mp right with ⟨middle, found, _⟩ | ⟨middle, rfl, later⟩
    · exact ⟨middle, found⟩
    · cases middle with
      | nil => exact ⟨[], by simp⟩
      | cons quote middle =>
          obtain ⟨rfl, rfl⟩ := List.cons.inj later
          have inside : Guarded middle := by
            apply Guarded.of_append_cons
            rw [List.append_cons, ← List.append_assoc] at guarded
            exact guarded
          exact absurd isStop (closed [] middle stop back (by simp) inside)
  obtain ⟨earlier, rfl⟩ := begins
  obtain ⟨later, rfl⟩ := ends
  exact ⟨earlier, later, by simp⟩

/-- A value that needs no escapes. -/
def Plain (value : List Char) : Prop := '\\' ∉ value ∧ '"' ∉ value ∧ '\n' ∉ value

instance (value : List Char) : Decidable (Plain value) :=
  inferInstanceAs (Decidable ('\\' ∉ value ∧ '"' ∉ value ∧ '\n' ∉ value))

theorem escape_of_plain {value : List Char} (plain : Plain value) : escape value = value := by
  induction value with
  | nil => rfl
  | cons symbol value inductionHypothesis =>
      obtain ⟨⟨mark, marks⟩, ⟨quote, quotes⟩, ⟨feed, feeds⟩⟩ :
          ('\\' ≠ symbol ∧ '\\' ∉ value) ∧ ('"' ≠ symbol ∧ '"' ∉ value) ∧
            ('\n' ≠ symbol ∧ '\n' ∉ value) := by simpa [Plain] using plain
      have rest := inductionHypothesis ⟨marks, quotes, feeds⟩
      unfold escape at rest ⊢
      rw [encode_cons, code_escapes, if_neg mark.symm, if_neg quote.symm, if_neg feed.symm, rest,
        List.singleton_append]

theorem escape_of_not_plain {value : List Char} (special : ¬ Plain value) :
    '\\' ∈ escape value ∧ value.length < (escape value).length := by
  induction value with
  | nil => exact absurd (by decide) special
  | cons symbol value inductionHypothesis =>
      have noShorter : value.length ≤ (escape value).length := by
        by_cases plain : Plain value
        · rw [escape_of_plain plain]
        · exact (inductionHypothesis plain).2.le
      unfold escape at noShorter inductionHypothesis ⊢
      rw [encode_cons, code_escapes]
      split_ifs with mark quote feed
      · simp
        omega
      · simp
        omega
      · simp
        omega
      · have later : ¬ Plain value := by
          intro plain
          apply special
          simp [Plain, plain.1, plain.2.1, plain.2.2, Ne.symm mark, Ne.symm quote, Ne.symm feed]
        obtain ⟨marked, longer⟩ := inductionHypothesis later
        simp [marked, longer]

/-- If every value of a text is read from it, none needs escapes: the longest
one that does would have to stand within a longer one. -/
theorem plain_of_quoted (marks : MarksWithin values text)
    (quoted : ∀ value ∈ values, Quoted value text) : ∀ value ∈ values, Plain value := by
  have longer : ∀ value ∈ values, ¬ Plain value →
      ∃ other ∈ values, ¬ Plain other ∧ value.length < other.length := by
    intro value member special
    obtain ⟨marked, grows⟩ := escape_of_not_plain special
    obtain ⟨other, among, occurs⟩ := infix_of_quoted marks (quoted value member) marked
    refine ⟨other, among, fun plain => plain.1 (occurs.subset marked), ?_⟩
    exact grows.trans_le occurs.length_le
  let special := values.filter fun value => ¬ Plain value
  cases longest : special.argmax List.length with
  | none =>
      have empty := List.filter_eq_nil_iff.mp (List.argmax_eq_none.mp longest)
      intro value member
      simpa using empty value member
  | some value =>
      obtain ⟨member, needs⟩ := List.mem_filter.mp (List.argmax_mem longest)
      obtain ⟨other, among, alsoNeeds, grows⟩ := longer value member (by simpa using needs)
      have listed : other ∈ special := List.mem_filter.mpr ⟨among, by simpa using alsoNeeds⟩
      exact absurd grows (not_lt_of_ge (List.le_of_mem_argmax listed longest))

end Ferroq.Library.Exposition
