import Ferroq.Library.Exposition

/-!
# Samples that are read back

A parser recovers the families that the writer was given, whatever the values of
their labels are.  One lemma for each reader says what it reads of what was
written for it.
-/

namespace Ferroq.Library.Exposition

variable {Value : Type}

theorem skipBlanks_cons {symbol : Char} (visible : isBlank symbol = false) (rest : List Char) :
    skipBlanks (symbol :: rest) = symbol :: rest := by
  simp [skipBlanks, visible]

theorem readName_append {starts continues : Char → Bool} {name : List Char}
    (valid : isName starts continues name = true) (rest : List Char)
    (ends : ∀ symbol, rest.head? = some symbol → continues symbol = false) :
    readName starts continues (name ++ rest) = some (name, rest) := by
  cases name with
  | nil => cases valid
  | cons first others =>
      obtain ⟨begins, inside⟩ :
          starts first = true ∧ ∀ symbol ∈ others, continues symbol = true := by
        simpa [isName] using valid
      rw [List.cons_append, readName, if_pos begins, List.takeWhile_append_of_pos inside,
        List.dropWhile_append_of_pos inside]
      cases rest with
      | nil => simp
      | cons symbol rest => simp [ends symbol rfl]

theorem code_escapes (symbol : Char) :
    code '\\' escapes symbol =
      if symbol = '\\' then ['\\', '\\'] else if symbol = '"' then ['\\', '"']
      else if symbol = '\n' then ['\\', 'n'] else [symbol] := by
  split_ifs with mark quote feed
  · rw [mark]
    rfl
  · rw [quote]
    rfl
  · rw [feed]
    rfl
  · simp [code, escapes, List.lookup_cons, beq_false_of_ne mark, beq_false_of_ne quote,
      beq_false_of_ne feed]

theorem readQuoted_cons {symbol : Char} (mark : symbol ≠ '\\') (quote : symbol ≠ '"')
    (feed : symbol ≠ '\n') (rest : List Char) :
    readQuoted (symbol :: rest) = (readQuoted rest).map (Prod.map (symbol :: ·) id) := by
  rw [readQuoted.eq_def]
  simp [feed]

theorem readQuoted_escape (value rest : List Char) :
    readQuoted (escape value ++ '"' :: rest) = some (value, rest) := by
  induction value with
  | nil => rfl
  | cons symbol value inductionHypothesis =>
      unfold escape at inductionHypothesis ⊢
      rw [encode_cons, code_escapes]
      split_ifs with mark quote feed
      · simp [readQuoted, mark, inductionHypothesis]
      · simp [readQuoted, quote, inductionHypothesis]
      · simp [readQuoted, feed, inductionHypothesis]
      · simp [readQuoted_cons mark quote feed, inductionHypothesis]

theorem not_isBlank_of_startsMetric {symbol : Char} (starts : startsMetric symbol = true) :
    isBlank symbol = false := by
  unfold isBlank
  by_contra blank
  simp only [Bool.not_eq_false, Bool.or_eq_true, beq_iff_eq] at blank
  rcases blank with rfl | rfl <;> revert starts <;> decide

theorem readLabel_render {label : Label} (valid : isName startsLabel continuesLabel label.1 = true)
    (rest : List Char) : readLabel (renderLabel label ++ rest) = some (label, rest) := by
  have name := readName_append valid ('=' :: '"' :: (escape label.2 ++ '"' :: rest))
    (by simp [continuesLabel, startsLabel])
  have equals (rest : List Char) : skipBlanks ('=' :: rest) = '=' :: rest := rfl
  have quote (rest : List Char) : skipBlanks ('"' :: rest) = '"' :: rest := rfl
  simp [readLabel, renderLabel, name, equals, quote, readQuoted_escape]

theorem renderLabel_eq_cons {label : Label}
    (valid : isName startsLabel continuesLabel label.1 = true) :
    ∃ symbol tail, renderLabel label = symbol :: tail ∧ symbol ≠ '}' ∧ isBlank symbol = false := by
  unfold renderLabel
  cases name : label.1 with
  | nil => simp [name, isName] at valid
  | cons symbol tail =>
      have starts : startsLabel symbol = true := by
        simp only [name, isName, Bool.and_eq_true] at valid
        exact valid.1
      refine ⟨symbol, _, rfl, ?_, ?_⟩
      · rintro rfl
        revert starts
        decide
      · exact not_isBlank_of_startsMetric (by simp [startsMetric, starts])

theorem readLabels_succ_render {label : Label}
    (valid : isName startsLabel continuesLabel label.1 = true) (fuel : Nat) (rest : List Char) :
    readLabels (fuel + 1) (renderLabel label ++ ',' :: rest) =
        (readLabels fuel rest).map (Prod.map (label :: ·) id) ∧
      readLabels (fuel + 1) (renderLabel label ++ '}' :: rest) = some ([label], rest) := by
  obtain ⟨symbol, tail, shape, noBrace, visible⟩ := renderLabel_eq_cons valid
  have kept (rest : List Char) :
      skipBlanks (renderLabel label ++ rest) = symbol :: (tail ++ rest) := by
    rw [shape]
    exact skipBlanks_cons visible _
  have read (rest : List Char) := readLabel_render valid rest
  simp only [shape, List.cons_append] at read
  have comma (rest : List Char) : skipBlanks (',' :: rest) = ',' :: rest := rfl
  have brace (rest : List Char) : skipBlanks ('}' :: rest) = '}' :: rest := rfl
  constructor
  · simp only [readLabels, kept]
    simp [noBrace, read, comma]
    cases readLabels fuel rest <;> rfl
  · simp only [readLabels, kept]
    simp [noBrace, read, brace]

theorem readLabels_render {labels : List Label} (inhabited : labels ≠ [])
    (valid : ∀ label ∈ labels, isName startsLabel continuesLabel label.1 = true) {fuel : Nat}
    (enough : labels.length ≤ fuel) (rest : List Char) :
    readLabels fuel ([','].intercalate (labels.map renderLabel) ++ '}' :: rest) =
      some (labels, rest) := by
  induction labels generalizing fuel with
  | nil => exact absurd rfl inhabited
  | cons label others inductionHypothesis =>
      obtain ⟨fuel, rfl⟩ : ∃ less, fuel = less + 1 := ⟨fuel - 1, by simp at enough; omega⟩
      obtain ⟨validLabel, validOthers⟩ := List.forall_mem_cons.mp valid
      cases others with
      | nil => simpa using (readLabels_succ_render validLabel fuel rest).2
      | cons next others =>
          have later := inductionHypothesis (by simp) validOthers (by simpa using enough)
          have first := (readLabels_succ_render validLabel fuel
            ([','].intercalate ((next :: others).map renderLabel) ++ '}' :: rest)).1
          rw [later] at first
          rw [List.map_cons, List.map_cons, List.intercalate_cons_cons, ← List.map_cons]
          simpa using first

theorem words_singleton {word : List Char} (inhabited : word ≠ [])
    (unbroken : ∀ symbol ∈ word, isBlank symbol = false) : words word = [word] := by
  simp [words, List.splitOnP_eq_singleton unbroken, inhabited]

theorem words_append_cons {word : List Char} (inhabited : word ≠ [])
    (unbroken : ∀ symbol ∈ word, isBlank symbol = false) (rest : List Char) :
    words (word ++ ' ' :: rest) = word :: words rest := by
  simp [words, List.splitOnP_append_cons_of_forall_mem unbroken ' ' rfl, inhabited]

theorem words_cons_blank (rest : List Char) : words (' ' :: rest) = words rest := by
  have unbroken : ∀ symbol ∈ ([] : List Char), isBlank symbol = false := by simp
  have blank : (' ' :: rest).splitOnP isBlank = [] :: rest.splitOnP isBlank :=
    List.splitOnP_append_cons_of_forall_mem unbroken ' ' rfl rest
  simp [words, blank]

theorem not_isBlank_of_isDigit {symbol : Char} (digit : symbol.isDigit = true) :
    isBlank symbol = false := by
  unfold isBlank
  by_contra blank
  simp only [Bool.not_eq_false, Bool.or_eq_true, beq_iff_eq] at blank
  rcases blank with rfl | rfl <;> revert digit <;> decide

theorem not_isBlank_of_isName {name : List Char}
    (valid : isName startsMetric continuesMetric name = true) :
    ∀ symbol ∈ name, isBlank symbol = false := by
  cases name with
  | nil => cases valid
  | cons first others =>
      simp only [isName, Bool.and_eq_true, List.all_eq_true] at valid
      obtain ⟨begins, inside⟩ := valid
      refine List.forall_mem_cons.mpr ⟨not_isBlank_of_startsMetric begins, fun symbol listed => ?_⟩
      have continues := inside symbol listed
      simp only [continuesMetric, continuesLabel, Bool.or_eq_true] at continues
      rcases continues with (label | digit) | colon
      · exact not_isBlank_of_startsMetric (by simp [startsMetric, label])
      · exact not_isBlank_of_isDigit digit
      · exact not_isBlank_of_startsMetric (by simp [startsMetric, colon])

theorem readValue_toDigits (reader : Reader Value) (number : Nat) :
    readValue reader (Nat.toDigits 10 number) = some (reader.ofNat number, none) ∧
      readValue reader (' ' :: Nat.toDigits 10 number) = some (reader.ofNat number, none) := by
  have digits : words (Nat.toDigits 10 number) = [Nat.toDigits 10 number] := by
    apply words_singleton Nat.toDigits_ne_nil
    intro symbol listed
    exact not_isBlank_of_isDigit (Nat.isDigit_of_mem_toDigits (by decide) (by decide) listed)
  constructor
  · simp [readValue, digits, reader.read_toDigits]
  · simp [readValue, words_cons_blank, digits, reader.read_toDigits]

theorem toDigits_eq_cons (number : Nat) :
    ∃ symbol tail, Nat.toDigits 10 number = symbol :: tail ∧ symbol ≠ '{' ∧
      isBlank symbol = false := by
  cases digits : Nat.toDigits 10 number with
  | nil => exact absurd digits Nat.toDigits_ne_nil
  | cons symbol tail =>
      have digit : symbol.isDigit = true :=
        Nat.isDigit_of_mem_toDigits (by decide) (by decide) (digits ▸ List.mem_cons_self)
      refine ⟨symbol, tail, rfl, ?_, not_isBlank_of_isDigit digit⟩
      rintro rfl
      revert digit
      decide

/-- Labels with valid names that differ. -/
def ValidLabels (labels : List Label) : Prop :=
  (∀ label ∈ labels, isName startsLabel continuesLabel label.1 = true) ∧
    (labels.map Prod.fst).Nodup

def sampleOf (reader : Reader Value) (metric : List Char) (sample : List Label × Nat) :
    Sample Value :=
  ⟨metric, sample.1, reader.ofNat sample.2, none⟩

theorem length_le_length_intercalate (parts : List (List Char)) :
    parts.length ≤ ([','].intercalate parts).length + 1 := by
  induction parts with
  | nil => simp
  | cons part others inductionHypothesis =>
      cases others with
      | nil => simp
      | cons next others =>
          rw [List.intercalate_cons_cons]
          simp only [List.length_cons, List.length_append] at inductionHypothesis ⊢
          omega

theorem readSample_render (reader : Reader Value) {metric : List Char} {sample : List Label × Nat}
    (validMetric : isName startsMetric continuesMetric metric = true)
    (validLabels : ValidLabels sample.1) :
    readSample reader (renderSample metric sample) = some (sampleOf reader metric sample) := by
  obtain ⟨labels, number⟩ := sample
  obtain ⟨names, distinct⟩ := validLabels
  simp only [renderSample, sampleOf, renderLabels, List.append_assoc]
  split_ifs with none
  · subst none
    obtain ⟨symbol, tail, digits, noBrace, visible⟩ := toDigits_eq_cons number
    have name := readName_append validMetric (' ' :: Nat.toDigits 10 number)
      (by simp [continuesMetric, continuesLabel, startsLabel])
    have skipped : skipBlanks (' ' :: symbol :: tail) = symbol :: tail :=
      skipBlanks_cons visible tail
    have value := (readValue_toDigits reader number).1
    rw [digits] at name value
    simp [readSample, digits, name, skipped, noBrace, value]
  · have name := readName_append validMetric
      ('{' :: ([','].intercalate (labels.map renderLabel) ++ '}' :: ' ' ::
        Nat.toDigits 10 number))
      (by simp [continuesMetric, continuesLabel, startsLabel])
    have brace (rest : List Char) : skipBlanks ('{' :: rest) = '{' :: rest := rfl
    have read (fuel : Nat) (enough : labels.length ≤ fuel) :=
      readLabels_render none names enough (' ' :: Nat.toDigits 10 number)
    have value := (readValue_toDigits reader number).2
    simp only [readSample, List.cons_append, List.append_assoc, List.nil_append, name, brace,
      Option.bind_some, Option.bind_eq_bind]
    have enough := length_le_length_intercalate (labels.map renderLabel)
    rw [List.length_map] at enough
    rw [read _ (by rw [List.length_append]; omega)]
    simp [value, distinct]

theorem readLine_renderSample (reader : Reader Value) {metric : List Char}
    {sample : List Label × Nat} (validMetric : isName startsMetric continuesMetric metric = true)
    (validLabels : ValidLabels sample.1) :
    readLine reader (renderSample metric sample) =
      some (.sample (sampleOf reader metric sample)) := by
  have read := readSample_render reader validMetric validLabels
  cases metric with
  | nil => cases validMetric
  | cons first others =>
      have starts : startsMetric first = true := by
        simp only [isName, Bool.and_eq_true] at validMetric
        exact validMetric.1
      have noHash : first ≠ '#' := by
        rintro rfl
        revert starts
        decide
      obtain ⟨tail, shape⟩ : ∃ tail, renderSample (first :: others) sample = first :: tail :=
        ⟨_, rfl⟩
      rw [shape] at read ⊢
      simp [readLine, skipBlanks_cons (not_isBlank_of_startsMetric starts), noHash, read]

/-- A family of samples that can be written. -/
structure Family.Valid (family : Family) : Prop where
  metric : isName startsMetric continuesMetric family.metric = true
  help : '\n' ∉ family.help
  kind : family.kind ∈ kinds.map String.toList
  labels : ∀ sample ∈ family.samples, ValidLabels sample.1

theorem ne_nil_of_isName {starts continues : Char → Bool} {name : List Char}
    (valid : isName starts continues name = true) : name ≠ [] := by
  rintro rfl
  cases valid

theorem readLine_help (reader : Reader Value) {family : Family} (valid : family.Valid) :
    readLine reader ("# HELP ".toList ++ family.metric ++ ' ' :: family.help) =
      some (.help family.metric) := by
  have keyword : words ("HELP".toList ++ ' ' :: (family.metric ++ ' ' :: family.help)) =
      "HELP".toList :: family.metric :: words family.help := by
    rw [words_append_cons (by decide) (by simp [isBlank]), words_append_cons
      (ne_nil_of_isName valid.metric) (not_isBlank_of_isName valid.metric)]
  have line : skipBlanks ("# HELP ".toList ++ family.metric ++ ' ' :: family.help) =
      '#' :: ' ' :: ("HELP".toList ++ ' ' :: (family.metric ++ ' ' :: family.help)) := by
    simp [skipBlanks]
    rfl
  simp only [readLine, line, readComment, words_cons_blank, keyword, valid.metric, if_true]

theorem readLine_type (reader : Reader Value) {family : Family} (valid : family.Valid) :
    readLine reader ("# TYPE ".toList ++ family.metric ++ ' ' :: family.kind) =
      some (.type family.metric family.kind) := by
  have kind : words family.kind = [family.kind] := by
    have all : ∀ kind ∈ kinds.map String.toList,
        kind ≠ [] ∧ ∀ symbol ∈ kind, isBlank symbol = false := by
      simp [kinds, isBlank]
    obtain ⟨inhabited, unbroken⟩ := all family.kind valid.kind
    exact words_singleton inhabited unbroken
  have keyword : words ("TYPE".toList ++ ' ' :: (family.metric ++ ' ' :: family.kind)) =
      ["TYPE".toList, family.metric, family.kind] := by
    rw [words_append_cons (by decide) (by simp [isBlank]), words_append_cons
      (ne_nil_of_isName valid.metric) (not_isBlank_of_isName valid.metric), kind]
  have line : skipBlanks ("# TYPE ".toList ++ family.metric ++ ' ' :: family.kind) =
      '#' :: ' ' :: ("TYPE".toList ++ ' ' :: (family.metric ++ ' ' :: family.kind)) := by
    simp [skipBlanks]
    rfl
  have other : "TYPE".toList ≠ "HELP".toList := by decide
  simp only [readLine, line, readComment, words_cons_blank, keyword, if_neg other, if_true,
    valid.metric, valid.kind, and_self]

def Family.told (reader : Reader Value) (family : Family) : List (Line Value) :=
  .help family.metric :: .type family.metric family.kind ::
    (family.samples.map (fun sample => .sample (sampleOf reader family.metric sample)) ++ [.blank])

theorem mapM_readLine_lines (reader : Reader Value) {family : Family} (valid : family.Valid) :
    family.lines.mapM (readLine reader) = some (family.told reader) := by
  have samples : (family.samples.map (renderSample family.metric)).mapM (readLine reader) =
      some (family.samples.map fun sample => .sample (sampleOf reader family.metric sample)) := by
    rw [List.mapM_map]
    have labels := valid.labels
    generalize family.samples = samples at labels ⊢
    induction samples with
    | nil => rfl
    | cons sample others inductionHypothesis =>
        obtain ⟨validSample, validOthers⟩ := List.forall_mem_cons.mp labels
        rw [List.mapM_cons, Function.comp_apply,
          readLine_renderSample reader valid.metric validSample, inductionHypothesis validOthers]
        rfl
  have blank : readLine reader ([] : List Char) = some .blank := rfl
  rw [Family.lines, List.mapM_cons, List.mapM_cons, List.mapM_append, readLine_help reader valid,
    readLine_type reader valid, samples, List.mapM_cons, blank]
  rfl

theorem mapM_readLine_flatMap (reader : Reader Value) {families : List Family}
    (valid : ∀ family ∈ families, family.Valid) :
    (families.flatMap Family.lines).mapM (readLine reader) =
      some (families.flatMap (Family.told reader)) := by
  induction families with
  | nil => rfl
  | cons family others inductionHypothesis =>
      obtain ⟨validFamily, validOthers⟩ := List.forall_mem_cons.mp valid
      rw [List.flatMap_cons, List.mapM_append, mapM_readLine_lines reader validFamily,
        inductionHypothesis validOthers]
      rfl

theorem filterMap_told (reader : Reader Value) (family : Family) :
    (family.told reader).filterMap Line.help? = [family.metric] ∧
      (family.told reader).filterMap Line.type? = [family.metric] ∧
      (family.told reader).filterMap Line.metric? =
        List.replicate (family.samples.length + 2) family.metric ∧
      (family.told reader).filterMap Line.sample? =
        family.samples.map (sampleOf reader family.metric) := by
  obtain ⟨metric, _, kind, samples⟩ := family
  simp only [Family.told]
  induction samples with
  | nil => exact ⟨rfl, rfl, rfl, rfl⟩
  | cons sample samples inductionHypothesis =>
      obtain ⟨helps, types, metrics, found⟩ := inductionHypothesis
      refine ⟨helps, types, ?_, ?_⟩
      · simp only [List.map_cons, List.cons_append, List.filterMap_cons, Line.metric?,
          List.length_cons] at metrics ⊢
        rw [List.replicate_succ, ← metrics]
        rfl
      · simp only [List.map_cons, List.cons_append, List.filterMap_cons, Line.sample?] at found ⊢
        rw [found]

theorem filterMap_flatMap_told (reader : Reader Value) (families : List Family) :
    (families.flatMap (Family.told reader)).filterMap Line.help? = families.map Family.metric ∧
      (families.flatMap (Family.told reader)).filterMap Line.type? =
        families.map Family.metric ∧
      (families.flatMap (Family.told reader)).filterMap Line.sample? =
        families.flatMap fun family => family.samples.map (sampleOf reader family.metric) := by
  induction families with
  | nil => exact ⟨rfl, rfl, rfl⟩
  | cons family others inductionHypothesis =>
      obtain ⟨helps, types, samples⟩ := inductionHypothesis
      obtain ⟨help, type, _, found⟩ := filterMap_told reader family
      simp only [List.flatMap_cons, List.filterMap_append, List.map_cons]
      rw [help, type, found, helps, types, samples]
      exact ⟨rfl, rfl, rfl⟩

theorem mem_metrics_of_mem_told {reader : Reader Value} {families : List Family}
    {metric : List Char}
    (listed : metric ∈ (families.flatMap (Family.told reader)).filterMap Line.metric?) :
    metric ∈ families.map Family.metric := by
  rw [List.filterMap_flatMap, List.mem_flatMap] at listed
  obtain ⟨family, member, among⟩ := listed
  rw [(filterMap_told reader family).2.2.1] at among
  exact List.mem_map.mpr ⟨family, member, (List.eq_of_mem_replicate among).symm⟩

/-- A family can stand before lines that do not tell its type again. -/
theorem typesFirst_told_append (reader : Reader Value) (family : Family)
    {rest : List (Line Value)} (fresh : family.metric ∉ rest.filterMap Line.type?)
    (later : typesFirst rest = true) : typesFirst (family.told reader ++ rest) = true := by
  simp only [Family.told, List.cons_append, typesFirst, Bool.true_and]
  induction family.samples with
  | nil => simpa [typesFirst] using later
  | cons sample samples inductionHypothesis =>
      have untyped : (samples.map fun sample =>
          Line.sample (sampleOf reader family.metric sample)).filterMap Line.type? = [] := by
        apply List.filterMap_eq_nil_iff.mpr
        intro line listed
        obtain ⟨sample, _, rfl⟩ := List.mem_map.mp listed
        rfl
      simp only [List.map_cons, List.cons_append, typesFirst, Bool.and_eq_true,
        decide_eq_true_eq, List.filterMap_append, untyped]
      exact ⟨fresh, inductionHypothesis⟩

theorem grouped_replicate_append {metric : List Char} {rest : List (List Char)}
    (fresh : metric ∉ rest) (later : grouped rest = true) (count : Nat) :
    grouped (List.replicate count metric ++ rest) = true := by
  induction count with
  | zero => exact later
  | succ count inductionHypothesis =>
      rw [List.replicate_succ, List.cons_append, grouped, inductionHypothesis, Bool.and_true]
      cases count with
      | zero => simp [fresh]
      | succ count => simp [List.replicate_succ]

theorem consistent_concat_blank (lines : List (Line Value)) :
    consistent (lines ++ [.blank]) = consistent lines := by
  have types : typesFirst (lines ++ [.blank]) = typesFirst lines := by
    induction lines with
    | nil => rfl
    | cons line others inductionHypothesis =>
        simp [typesFirst, inductionHypothesis, List.filterMap_append, Line.type?]
  simp [consistent, types, List.filterMap_append, List.filterMap_cons, Line.help?, Line.type?,
    Line.metric?]

theorem consistent_told (reader : Reader Value) {families : List Family}
    (distinct : (families.map Family.metric).Nodup) :
    consistent (families.flatMap (Family.told reader)) = true := by
  obtain ⟨helps, types, -⟩ := filterMap_flatMap_told reader families
  unfold consistent
  rw [helps, types]
  simp only [distinct, decide_true, Bool.true_and, Bool.and_eq_true]
  clear helps types
  induction families with
  | nil => exact ⟨rfl, rfl⟩
  | cons family others inductionHypothesis =>
      obtain ⟨fresh, distinctOthers⟩ := List.nodup_cons.mp distinct
      obtain ⟨first, groups⟩ := inductionHypothesis distinctOthers
      rw [List.flatMap_cons]
      constructor
      · have types := (filterMap_flatMap_told reader others).2.1
        exact typesFirst_told_append reader family (types ▸ fresh) first
      · rw [List.filterMap_append, (filterMap_told reader family).2.2.1]
        exact grouped_replicate_append (fun listed => fresh (mem_metrics_of_mem_told listed))
          groups _

theorem splitOn_unlines {lines : List (List Char)} (unbroken : ∀ line ∈ lines, '\n' ∉ line) :
    (unlines lines).splitOn '\n' = lines ++ [[]] := by
  induction lines with
  | nil => rfl
  | cons line others inductionHypothesis =>
      obtain ⟨first, later⟩ := List.forall_mem_cons.mp unbroken
      have shape : unlines (line :: others) = line ++ '\n' :: unlines others := by
        simp [unlines]
      rw [shape, List.splitOn_append_cons_self_of_not_mem first, inductionHypothesis later,
        List.cons_append]

theorem unlines_ends (lines : List (List Char)) :
    unlines lines = [] ∨ (unlines lines).getLast? = some '\n' := by
  rcases lines.eq_nil_or_concat with rfl | ⟨others, line, rfl⟩
  · exact .inl rfl
  · right
    simp [unlines]

theorem not_mem_of_isName {name : List Char}
    (valid : isName startsMetric continuesMetric name = true) : '\n' ∉ name := by
  intro listed
  cases name with
  | nil => cases listed
  | cons first others =>
      simp only [isName, Bool.and_eq_true, List.all_eq_true] at valid
      rcases List.mem_cons.mp listed with rfl | later
      · exact absurd valid.1 (by decide)
      · exact absurd (valid.2 _ later) (by decide)

theorem not_mem_of_isLabel {name : List Char}
    (valid : isName startsLabel continuesLabel name = true) : '\n' ∉ name := by
  apply not_mem_of_isName
  cases name with
  | nil => cases valid
  | cons first others =>
      simp only [isName, Bool.and_eq_true, List.all_eq_true] at valid ⊢
      refine ⟨by simp [startsMetric, valid.1], fun symbol listed => ?_⟩
      simp [continuesMetric, valid.2 symbol listed]

theorem not_mem_escape (value : List Char) : '\n' ∉ escape value :=
  not_mem_encode (by decide) (by decide)

theorem mem_intercalate {symbol : Char} {parts : List (List Char)}
    (listed : symbol ∈ [','].intercalate parts) : symbol = ',' ∨ ∃ part ∈ parts, symbol ∈ part := by
  induction parts with
  | nil => simp at listed
  | cons part others inductionHypothesis =>
      cases others with
      | nil =>
          rw [List.intercalate_singleton] at listed
          exact .inr ⟨part, List.mem_cons_self, listed⟩
      | cons next others =>
          rw [List.intercalate_cons_cons, List.append_assoc, List.mem_append, List.mem_append,
            List.mem_singleton] at listed
          rcases listed with inside | comma | later
          · exact .inr ⟨part, List.mem_cons_self, inside⟩
          · exact .inl comma
          · rcases inductionHypothesis later with comma | ⟨other, among, inside⟩
            · exact .inl comma
            · exact .inr ⟨other, List.mem_cons_of_mem part among, inside⟩

theorem not_mem_renderLabels {labels : List Label} (valid : ValidLabels labels) :
    '\n' ∉ renderLabels labels := by
  intro listed
  unfold renderLabels at listed
  split_ifs at listed with none
  · cases listed
  · simp only [List.cons_append, List.mem_cons, List.mem_append, List.not_mem_nil] at listed
    rcases listed with brace | inside | brace
    · exact absurd brace (by decide)
    · rcases mem_intercalate inside with comma | ⟨part, among, inside⟩
      · exact absurd comma (by decide)
      · obtain ⟨label, member, rfl⟩ := List.mem_map.mp among
        simp only [renderLabel, List.mem_cons, List.mem_append] at inside
        rcases inside with (name | equals | quote | value) | quote
        · exact not_mem_of_isLabel (valid.1 label member) name
        · exact absurd equals (by decide)
        · exact absurd quote (by decide)
        · exact not_mem_escape label.2 value
        · simp at quote
    · simp at brace

theorem not_mem_lines {family : Family} (valid : family.Valid) :
    ∀ line ∈ family.lines, '\n' ∉ line := by
  have metric := not_mem_of_isName valid.metric
  have kind : '\n' ∉ family.kind := by
    have all : ∀ kind ∈ kinds.map String.toList, '\n' ∉ kind := by decide
    exact all family.kind valid.kind
  have keywords : '\n' ∉ "# HELP ".toList ∧ '\n' ∉ "# TYPE ".toList := by decide
  intro line listed
  rcases List.mem_cons.mp listed with rfl | listed
  · simp only [List.mem_append, List.mem_cons, not_or]
    exact ⟨⟨keywords.1, metric⟩, by decide, valid.help⟩
  · rcases List.mem_cons.mp listed with rfl | listed
    · simp only [List.mem_append, List.mem_cons, not_or]
      exact ⟨⟨keywords.2, metric⟩, by decide, kind⟩
    · rcases List.mem_append.mp listed with sample | empty
      · obtain ⟨⟨labels, number⟩, member, rfl⟩ := List.mem_map.mp sample
        have unbroken := not_mem_renderLabels (valid.labels _ member)
        have digits : '\n' ∉ Nat.toDigits 10 number := by
          intro listed
          exact absurd (Nat.isDigit_of_mem_toDigits (by decide) (by decide) listed) (by decide)
        simp only [renderSample, List.mem_append, List.mem_cons, not_or]
        exact ⟨⟨metric, unbroken⟩, by decide, digits⟩
      · rw [List.mem_singleton.mp empty]
        exact List.not_mem_nil

/-- The samples that are written are read back. -/
theorem parse_render (reader : Reader Value) {families : List Family}
    (valid : ∀ family ∈ families, family.Valid)
    (distinct : (families.map Family.metric).Nodup) :
    parse reader (render families) =
      some (families.flatMap fun family => family.samples.map (sampleOf reader family.metric)) := by
  have unbroken : ∀ line ∈ families.flatMap Family.lines, '\n' ∉ line := by
    intro line listed
    obtain ⟨family, member, inside⟩ := List.mem_flatMap.mp listed
    exact not_mem_lines (valid family member) line inside
  have lines : ((render families).splitOn '\n').mapM (readLine reader) =
      some (families.flatMap (Family.told reader) ++ [.blank]) := by
    rw [render, splitOn_unlines unbroken, List.mapM_append, mapM_readLine_flatMap reader valid]
    rfl
  have told := consistent_told reader distinct
  rw [parse, lines, Option.bind_eq_bind, Option.bind_some, consistent_concat_blank,
    if_pos ⟨unlines_ends _, told⟩, List.filterMap_append,
    (filterMap_flatMap_told reader families).2.2]
  simp [Line.sample?]

end Ferroq.Library.Exposition
