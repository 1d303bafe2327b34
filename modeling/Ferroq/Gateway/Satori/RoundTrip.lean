import Ferroq.Gateway.Satori.Elements

/-!
# The round trip of Satori elements

Every text and attribute value is written in a form without brackets, so that
the parser finds exactly the elements that were written.  The induction over
the segments carries the text the parser has accumulated: it is the escape of
a text that the normal form has not yet closed.
-/

namespace Ferroq.Gateway.Satori

open Ferroq.Core
open Ferroq.Library

def textTable : List (Char × List Char) :=
  [('&', "amp;".toList), ('<', "lt;".toList), ('>', "gt;".toList)]

def attrTable : List (Char × List Char) :=
  [('&', "amp;".toList), ('"', "quot;".toList), ('<', "lt;".toList), ('>', "gt;".toList)]

theorem escapeSatoriText_eq_encode (text : List Char) :
    escapeSatoriText text = encode '&' textTable text := by
  have first : replaceSymbol '&' "&amp;".toList (encode '&' [] text) =
      encode '&' [('&', "amp;".toList)] text :=
    replaceSymbol_encode "amp;".toList (by decide) text
  have second : replaceSymbol '<' "&lt;".toList (encode '&' [('&', "amp;".toList)] text) =
      encode '&' [('&', "amp;".toList), ('<', "lt;".toList)] text :=
    replaceSymbol_encode "lt;".toList (by decide) text
  have third : replaceSymbol '>' "&gt;".toList
        (encode '&' [('&', "amp;".toList), ('<', "lt;".toList)] text) =
      encode '&' textTable text :=
    replaceSymbol_encode "gt;".toList (by decide) text
  rw [encode_nil] at first
  simp only [escapeSatoriText, first, second, third]

theorem escapeAttr_eq_encode (text : List Char) :
    escapeAttr text = encode '&' attrTable text := by
  have first : replaceSymbol '&' "&amp;".toList (encode '&' [] text) =
      encode '&' [('&', "amp;".toList)] text :=
    replaceSymbol_encode "amp;".toList (by decide) text
  have second : replaceSymbol '"' "&quot;".toList (encode '&' [('&', "amp;".toList)] text) =
      encode '&' [('&', "amp;".toList), ('"', "quot;".toList)] text :=
    replaceSymbol_encode "quot;".toList (by decide) text
  have third : replaceSymbol '<' "&lt;".toList
        (encode '&' [('&', "amp;".toList), ('"', "quot;".toList)] text) =
      encode '&' [('&', "amp;".toList), ('"', "quot;".toList), ('<', "lt;".toList)] text :=
    replaceSymbol_encode "lt;".toList (by decide) text
  have fourth : replaceSymbol '>' "&gt;".toList (encode '&'
        [('&', "amp;".toList), ('"', "quot;".toList), ('<', "lt;".toList)] text) =
      encode '&' attrTable text :=
    replaceSymbol_encode "gt;".toList (by decide) text
  rw [encode_nil] at first
  simp only [escapeAttr, first, second, third, fourth]

/-- The codes that unescaping knows, in the order in which it replaces them. -/
def entities : List (Char × List Char) :=
  [('<', "lt;".toList), ('>', "gt;".toList), ('"', "quot;".toList), ('\'', "#39;".toList),
    ('&', "amp;".toList)]

/-- A table of known codes that encodes the ampersand. -/
structure Readable (table : List (Char × List Char)) : Prop where
  known : ∀ entry ∈ table, entry ∈ entities
  marked : (table.lookup '&').isSome

theorem Readable.filter {table : List (Char × List Char)} (readable : Readable table)
    (symbol : Char) (different : '&' ≠ symbol) :
    Readable (table.filter fun entry => entry.1 ≠ symbol) where
  known entry membership := readable.known entry (List.mem_of_mem_filter membership)
  marked := by
    rw [lookup_filter_ne, if_neg different]
    exact readable.marked

/-- One replacement of the chain takes one code from the table. -/
theorem Readable.replaceWord_encode {table : List (Char × List Char)}
    (readable : Readable table) {symbol : Char} {name : List Char}
    (entity : (symbol, name) ∈ entities) (text : List Char) :
    replaceWord '&' name [symbol] (encode '&' table text) =
      encode '&' (table.filter fun entry => entry.1 ≠ symbol) text := by
  have clean : ∀ entry ∈ entities, '&' ∉ entry.2 := by decide
  have named : ∀ entry ∈ entities, ∀ other ∈ entities,
      entry.1 = other.1 → entry.2 = other.2 := by decide
  have apart : ∀ entry ∈ entities, ∀ other ∈ entities, entry.1 ≠ other.1 →
      ¬ other.2 <+: entry.2 ∧ ¬ entry.2 <+: other.2 := by decide
  apply Library.replaceWord_encode readable.marked
  · intro entry membership
    exact clean entry (readable.known entry membership)
  · intro entry membership
    exact named entry (readable.known entry membership) (symbol, name) entity
  · intro entry membership
    exact apart entry (readable.known entry membership) (symbol, name) entity

theorem Readable.unescapeSatoriText_encode {table : List (Char × List Char)}
    (readable : Readable table) (text : List Char) :
    unescapeSatoriText (encode '&' table text) = text := by
  have first := readable.filter '<' (by decide)
  have second := first.filter '>' (by decide)
  have third := second.filter '"' (by decide)
  have fourth := third.filter '\'' (by decide)
  simp only [unescapeSatoriText]
  rw [readable.replaceWord_encode (by decide), first.replaceWord_encode (by decide),
    second.replaceWord_encode (by decide), third.replaceWord_encode (by decide),
    fourth.replaceWord_encode (by decide)]
  have complete : ∀ entry ∈ entities,
      entry.1 = '<' ∨ entry.1 = '>' ∨ entry.1 = '"' ∨ entry.1 = '\'' ∨ entry.1 = '&' := by
    decide
  have emptied : (List.filter (fun entry => decide (entry.1 ≠ '&')) (List.filter
      (fun entry => decide (entry.1 ≠ '\'')) (List.filter (fun entry => decide (entry.1 ≠ '"'))
        (List.filter (fun entry => decide (entry.1 ≠ '>'))
          (List.filter (fun entry => decide (entry.1 ≠ '<')) table))))) = [] := by
    rw [List.eq_nil_iff_forall_not_mem]
    intro entry membership
    simp only [List.mem_filter, decide_eq_true_eq] at membership
    have one := complete entry (readable.known entry membership.1.1.1.1.1)
    tauto
  rw [emptied, encode_nil]

theorem textTable_readable : Readable textTable := ⟨by decide, by decide⟩

theorem attrTable_readable : Readable attrTable := ⟨by decide, by decide⟩

@[simp]
theorem unescapeSatoriText_escapeSatoriText (text : List Char) :
    unescapeSatoriText (escapeSatoriText text) = text := by
  rw [escapeSatoriText_eq_encode, textTable_readable.unescapeSatoriText_encode]

@[simp]
theorem unescapeAttr_escapeAttr (text : List Char) : unescapeAttr (escapeAttr text) = text := by
  rw [unescapeAttr, escapeAttr_eq_encode, attrTable_readable.unescapeSatoriText_encode]

theorem closing_not_mem_escapeAttr (text : List Char) : '>' ∉ escapeAttr text := by
  rw [escapeAttr_eq_encode]
  exact not_mem_encode (by decide) (by decide)

theorem quote_not_mem_escapeAttr (text : List Char) : '"' ∉ escapeAttr text := by
  rw [escapeAttr_eq_encode]
  exact not_mem_encode (by decide) (by decide)

/-! ## What the parser reads back -/

theorem readTag_append {tag : List Char} (inside : '>' ∉ tag) (rest : List Char) :
    readTag (tag ++ '>' :: rest) = (tag, rest) := by
  induction tag with
  | nil => simp [readTag]
  | cons char remaining inductionHypothesis =>
      have different : char ≠ '>' := fun same => inside (by simp [same])
      have later : '>' ∉ remaining := fun membership => inside (by simp [membership])
      simp [readTag, different, inductionHypothesis later]

theorem parseElementsFrom_text (text textBuf rest : List Char) :
    parseElementsFrom textBuf (escapeSatoriText text ++ rest) =
      parseElementsFrom (textBuf ++ escapeSatoriText text) rest := by
  rw [escapeSatoriText_eq_encode]
  induction text generalizing textBuf with
  | nil => simp
  | cons char remaining inductionHypothesis =>
      have one : parseElementsFrom textBuf
            (code '&' textTable char ++ (encode '&' textTable remaining ++ rest)) =
          parseElementsFrom (textBuf ++ code '&' textTable char)
            (encode '&' textTable remaining ++ rest) := by
        by_cases ampersand : char = '&'
        · subst ampersand
          simp [code, textTable, parseElementsFrom, readEntity]
        · by_cases opening : char = '<'
          · subst opening
            simp [code, textTable, List.lookup_cons, parseElementsFrom, readEntity]
          · by_cases closing : char = '>'
            · subst closing
              simp [code, textTable, List.lookup_cons, parseElementsFrom, readEntity]
            · have plain : code '&' textTable char = [char] := by
                simp [code, textTable, List.lookup_cons, beq_eq_false_iff_ne.mpr ampersand,
                  beq_eq_false_iff_ne.mpr opening, beq_eq_false_iff_ne.mpr closing]
              rw [plain]
              simp [parseElementsFrom, ampersand, opening]
      rw [encode_cons, List.append_assoc, one, inductionHypothesis, List.append_assoc]

theorem parseElementsFrom_element {tag : List Char} (inside : '>' ∉ tag)
    (textBuf rest : List Char) :
    parseElementsFrom textBuf ('<' :: tag ++ '>' :: rest) =
      flushText textBuf ++ (parseSatoriTag tag).toList ++ parseElementsFrom [] rest := by
  rw [List.cons_append, parseElementsFrom, readTag_append inside]
  simp

theorem trim_eq_self (first last : Char) (middle : List Char)
    (start : isWhitespace first = false) (stop : isWhitespace last = false) :
    trim (first :: middle ++ [last]) = first :: middle ++ [last] := by
  simp [trim, trimEndMatches, start, stop]

theorem trim_tag (first last : Char) (middle : List Char)
    (start : isWhitespace first = false) (stop : isWhitespace last = false) :
    trim (trimEndMatches (· == '/') (trim (first :: middle ++ [last, ' ', '/']))) =
      first :: middle ++ [last] := by
  have outer : trim (first :: middle ++ [last, ' ', '/']) =
      first :: middle ++ [last, ' ', '/'] := by
    have slash : isWhitespace '/' = false := by decide
    have whole := trim_eq_self first '/' (middle ++ [last, ' ']) start slash
    simpa using whole
  have slash : trimEndMatches (· == '/') (first :: middle ++ [last, ' ', '/']) =
      first :: middle ++ [last, ' '] := by
    simp [trimEndMatches]
  have blank : isWhitespace ' ' = true := by decide
  rw [outer, slash]
  simp [trim, trimEndMatches, start, stop, blank]

theorem readValue_quoted {value : List Char} (inside : '"' ∉ value) (rest : List Char) :
    readValue ('"' :: (value ++ '"' :: rest)) = (unescapeAttr value, rest) := by
  have quoted : ∀ char ∈ value, decide (char ≠ '"') = true := by
    intro char membership
    apply decide_eq_true
    rintro rfl
    exact inside membership
  rw [readValue, if_pos (.inl rfl), List.takeWhile_append_of_pos quoted,
    List.dropWhile_append_of_pos quoted]
  simp

theorem exists_cons_of_named {name : List Char}
    (named : ∀ char ∈ name, isNameChar char = true) (inhabited : name ≠ []) :
    ∃ first remaining, name = first :: remaining ∧ isWhitespace first = false := by
  obtain ⟨first, remaining, rfl⟩ := List.exists_cons_of_ne_nil inhabited
  have solid := named first (by simp)
  simp only [isNameChar, Bool.and_eq_true, Bool.not_eq_true'] at solid
  exact ⟨first, remaining, rfl, solid.1.2⟩

theorem parseAttrsFrom_quoted {name value : List Char} (attrs : Table String String)
    (named : ∀ char ∈ name, isNameChar char = true) (inhabited : name ≠ [])
    (inside : '"' ∉ value) (rest : List Char) :
    parseAttrsFrom attrs (name ++ '=' :: '"' :: (value ++ '"' :: rest)) =
      parseAttrsFrom
        (attrs.insert (String.ofList name) (String.ofList (unescapeAttr value))) rest := by
  have unblank : (name ++ '=' :: '"' :: (value ++ '"' :: rest)).dropWhile isWhitespace =
      name ++ '=' :: '"' :: (value ++ '"' :: rest) := by
    obtain ⟨first, remaining, rfl, solid⟩ := exists_cons_of_named named inhabited
    simp [solid]
  have equals : isNameChar '=' = false := by decide
  rw [parseAttrsFrom, if_neg (by simp), unblank]
  simp only [List.takeWhile_append_of_pos named, List.dropWhile_append_of_pos named]
  simp [equals, inhabited, readValue_quoted inside]

theorem parseAttrs_single {name : List Char} (value : List Char)
    (named : ∀ char ∈ name, isNameChar char = true) (inhabited : name ≠ [])
    (inside : '"' ∉ value) :
    parseAttrs (' ' :: name ++ '=' :: '"' :: (value ++ ['"'])) =
      Table.empty.insert (String.ofList name) (String.ofList (unescapeAttr value)) := by
  have trimmed : trim (' ' :: name ++ '=' :: '"' :: (value ++ ['"'])) =
      name ++ '=' :: '"' :: (value ++ ['"']) := by
    obtain ⟨first, remaining, rfl, solid⟩ := exists_cons_of_named named inhabited
    have stop : isWhitespace '"' = false := by decide
    have whole := trim_eq_self first '"' (remaining ++ '=' :: '"' :: value) solid stop
    have blank : isWhitespace ' ' = true := by decide
    simpa [trim, blank] using whole
  rw [parseAttrs, trimmed, parseAttrsFrom_quoted _ named inhabited inside, parseAttrsFrom]
  simp

/-- A segment is written as one element, which is read back as given. -/
def WrittenAs (segment : MessageSegment) (found : Option MessageSegment) : Prop :=
  ∃ tag, '>' ∉ tag ∧ segmentToSatoriElement segment = '<' :: tag ++ ['>'] ∧
    parseSatoriTag tag = found

theorem segmentToSatoriElement_at {qq : String} (single : qq ≠ "all") :
    segmentToSatoriElement (.at qq) =
      "<at id=\"".toList ++ escapeAttr qq.toList ++ "\" />".toList :=
  if_neg single

/-- The tag of an element with a single attribute: what is left of it after
trimming, and the attribute read from it. -/
theorem singleTag (first : Char) (word name : List Char) (value : String)
    (start : isWhitespace first = false)
    (named : ∀ char ∈ name, isNameChar char = true) (inhabited : name ≠ []) :
    trim (trimEndMatches (· == '/') (trim (first :: word ++ ' ' :: name ++ "=\"".toList ++
        escapeAttr value.toList ++ "\" /".toList))) =
      first :: word ++ ' ' :: name ++ "=\"".toList ++ escapeAttr value.toList ++ ['"'] ∧
    parseAttrs (' ' :: name ++ "=\"".toList ++ escapeAttr value.toList ++ ['"']) =
      Table.empty.insert (String.ofList name) value := by
  have stop : isWhitespace '"' = false := by decide
  have trimmed := trim_tag first '"'
    (word ++ ' ' :: name ++ "=\"".toList ++ escapeAttr value.toList) start stop
  have attrs := parseAttrs_single (escapeAttr value.toList) named inhabited
    (quote_not_mem_escapeAttr value.toList)
  rw [unescapeAttr_escapeAttr, String.ofList_toList] at attrs
  exact ⟨by simpa using trimmed, by simpa using attrs⟩

theorem singleTag_writtenAs {segment : MessageSegment} {found : Option MessageSegment}
    (first : Char) (word name : List Char) (value : String)
    (start : isWhitespace first = false)
    (named : ∀ char ∈ name, isNameChar char = true) (inhabited : name ≠ [])
    (unclosed : '>' ∉ first :: word ++ ' ' :: name)
    (written : segmentToSatoriElement segment =
      '<' :: (first :: word ++ ' ' :: name ++ "=\"".toList ++ escapeAttr value.toList ++
        "\" /".toList) ++ ['>'])
    (read : ∀ tag,
      trim (trimEndMatches (· == '/') (trim tag)) =
          first :: word ++ ' ' :: name ++ "=\"".toList ++ escapeAttr value.toList ++ ['"'] →
      parseAttrs (' ' :: name ++ "=\"".toList ++ escapeAttr value.toList ++ ['"']) =
          Table.empty.insert (String.ofList name) value →
        parseSatoriTag tag = found) : WrittenAs segment found := by
  obtain ⟨trimmed, attrs⟩ := singleTag first word name value start named inhabited
  refine ⟨_, ?_, written, read _ trimmed attrs⟩
  simp only [List.mem_append, not_or] at unclosed ⊢
  exact ⟨⟨⟨unclosed, by decide⟩, closing_not_mem_escapeAttr _⟩, by decide⟩

theorem at_writtenAs (qq : String) : WrittenAs (.at qq) (some (.at qq)) := by
  by_cases everyone : qq = "all"
  · subst everyone
    refine ⟨"at type=\"all\" /".toList, by decide, by decide, ?_⟩
    simp only [String.reduceToList]
    decide +kernel
  · apply singleTag_writtenAs 'a' "t".toList "id".toList qq
      (by decide) (List.all_eq_true.mp (by decide)) (by decide) (by decide)
    · simp [segmentToSatoriElement_at everyone]
    · intro tag trimmed attrs
      simp at trimmed attrs
      simp [parseSatoriTag, trimmed, attrs, Table.get_insert]

theorem image_writtenAs (file : String) (url : Option String) :
    WrittenAs (.image file url) (some (.image (url.getD file) (some (url.getD file)))) := by
  apply singleTag_writtenAs 'i' "mg".toList "src".toList (url.getD file)
    (by decide) (List.all_eq_true.mp (by decide)) (by decide) (by decide)
  · exact (List.append_assoc _ _ _).trans (by simp)
  · intro tag trimmed attrs
    simp at trimmed attrs
    simp [parseSatoriTag, trimmed, attrs]

theorem record_writtenAs (file : String) (url : Option String) :
    WrittenAs (.record file url) (some (.record (url.getD file) (some (url.getD file)))) := by
  apply singleTag_writtenAs 'a' "udio".toList "src".toList (url.getD file)
    (by decide) (List.all_eq_true.mp (by decide)) (by decide) (by decide)
  · exact (List.append_assoc _ _ _).trans (by simp)
  · intro tag trimmed attrs
    simp at trimmed attrs
    simp [parseSatoriTag, trimmed, attrs]

theorem video_writtenAs (file : String) (url : Option String) :
    WrittenAs (.video file url) (some (.video (url.getD file) (some (url.getD file)))) := by
  apply singleTag_writtenAs 'v' "ideo".toList "src".toList (url.getD file)
    (by decide) (List.all_eq_true.mp (by decide)) (by decide) (by decide)
  · exact (List.append_assoc _ _ _).trans (by simp)
  · intro tag trimmed attrs
    simp at trimmed attrs
    simp [parseSatoriTag, trimmed, attrs]

theorem face_writtenAs (id : String) : WrittenAs (.face id) (some (.face id)) := by
  apply singleTag_writtenAs 'e' "moji".toList "id".toList id
    (by decide) (List.all_eq_true.mp (by decide)) (by decide) (by decide)
  · exact (List.append_assoc _ _ _).trans (by simp)
  · intro tag trimmed attrs
    simp at trimmed attrs
    simp [parseSatoriTag, trimmed, attrs]

theorem forward_writtenAs (id : String) : WrittenAs (.forward id) (some (.forward id)) := by
  refine ⟨"message id=\"".toList ++ escapeAttr id.toList ++ "\" forward /".toList, ?_, ?_, ?_⟩
  · simp [closing_not_mem_escapeAttr]
  · exact (List.append_assoc _ _ _).trans (by simp)
  · have trimmed := trim_tag 'm' 'd'
      ("essage id=\"".toList ++ escapeAttr id.toList ++ "\" forwar".toList) (by decide) (by decide)
    have unblank : trim (" id=\"".toList ++ escapeAttr id.toList ++ "\" forward".toList) =
        "id".toList ++ '=' :: '"' :: (escapeAttr id.toList ++ '"' :: " forward".toList) := by
      have start : isWhitespace ' ' = true := by decide
      have whole := trim_eq_self 'i' 'd'
        ("d=\"".toList ++ escapeAttr id.toList ++ "\" forwar".toList) (by decide) (by decide)
      simpa [trim, start] using whole
    have attrs : parseAttrs (" id=\"".toList ++ escapeAttr id.toList ++ "\" forward".toList) =
        (Table.empty.insert "id" id).insert "forward" "" := by
      have mark : ∀ held, parseAttrsFrom held " forward".toList = held.insert "forward" "" := by
        intro held
        simp [parseAttrsFrom, isNameChar, isWhitespace]
      rw [parseAttrs, unblank, parseAttrsFrom_quoted _ (List.all_eq_true.mp (by decide))
        (by decide) (quote_not_mem_escapeAttr id.toList), unescapeAttr_escapeAttr, mark]
      simp
    simp at trimmed attrs
    simp [parseSatoriTag, trimmed, attrs, Table.get_insert]

/-- A poke is written as an element that the parser does not know. -/
theorem poke_writtenAs (pokeType id : String) : WrittenAs (.poke pokeType id) none := by
  refine ⟨"qq:poke type=\"".toList ++ escapeAttr pokeType.toList ++ "\" id=\"".toList ++
    escapeAttr id.toList ++ "\" /".toList, ?_, ?_, ?_⟩
  · simp [closing_not_mem_escapeAttr]
  · exact (List.append_assoc _ _ _).trans (by simp)
  · have trimmed := trim_tag 'q' '"'
      ("q:poke type=\"".toList ++ escapeAttr pokeType.toList ++ "\" id=\"".toList ++
        escapeAttr id.toList) (by decide) (by decide)
    simp at trimmed
    simp [parseSatoriTag, trimmed]

/-- The word that tells a forwarded message from a quoted one. -/
def forwardWord : List Char := "forward".toList

theorem forwardWord_eq : forwardWord = ['f', 'o', 'r', 'w', 'a', 'r', 'd'] := by
  change "forward".toList = _
  simp only [String.reduceToList]

theorem occursIn_iff (word text : List Char) : occursIn word text = true ↔ word <:+: text := by
  induction text with
  | nil => simp [occursIn]
  | cons char rest inductionHypothesis =>
      simp [occursIn, List.infix_cons_iff, inductionHypothesis]

theorem forwardWord_of_escapeAttr {text : List Char} (occurs : forwardWord <:+: escapeAttr text) :
    forwardWord <:+: text := by
  have whole : ∀ entry ∈ attrTable, entry.2 = entry.2.dropLast ++ [';'] ∧
      ¬ forwardWord <:+: entry.2.dropLast := by
    simp only [attrTable, forwardWord_eq, String.reduceToList]
    decide
  have unstopped : ';' ∉ forwardWord := by decide
  rw [escapeAttr_eq_encode] at occurs
  exact infix_of_infix_encode (by decide) unstopped whole occurs

theorem forwardWord_escapeAttr {text : List Char} (occurs : forwardWord <:+: text) :
    forwardWord <:+: escapeAttr text := by
  rcases occurs with ⟨front, back, rfl⟩
  have plain : encode '&' attrTable forwardWord = forwardWord := by decide
  rw [escapeAttr_eq_encode, encode_append, encode_append, plain]
  exact List.infix_append _ _ _

theorem occursIn_messageTag (id : String) :
    occursIn forwardWord ("message id=\"".toList ++ escapeAttr id.toList ++ ['"']) =
      occursIn forwardWord id.toList := by
  have quoted : "message id=\"".toList ++ escapeAttr id.toList ++ ['"'] =
      "message id=".toList ++ '"' :: (escapeAttr id.toList ++ ['"']) := by
    simp
  rw [Bool.eq_iff_iff, occursIn_iff, occursIn_iff, quoted]
  constructor
  · intro occurs
    have unquoted : '"' ∉ forwardWord := by decide
    rcases infix_append_cons unquoted occurs with name | value
    · rw [forwardWord_eq] at name
      exact absurd name (by simp only [String.reduceToList]; decide)
    · rcases infix_append_cons unquoted value with inside | nothing
      · exact forwardWord_of_escapeAttr inside
      · rw [forwardWord_eq] at nothing
        exact absurd nothing (by decide)
  · intro occurs
    have inside := forwardWord_escapeAttr occurs
    have value : forwardWord <:+: escapeAttr id.toList ++ ['"'] :=
      inside.trans (List.prefix_append _ _).isInfix
    exact (List.infix_cons value).trans (List.suffix_append _ _).isInfix

/-- The tag of a quoted message is read as a forwarded one when its identifier
has the word that marks these. -/
theorem parseSatoriTag_message (id : String) :
    parseSatoriTag ("message id=\"".toList ++ escapeAttr id.toList ++ "\" /".toList) =
      some (if occursIn forwardWord id.toList then .forward id else .reply id) := by
  obtain ⟨trimmed, attrs⟩ := singleTag 'm' "essage".toList "id".toList id (by decide)
    (List.all_eq_true.mp (by decide)) (by decide)
  cases forwarded : occursIn forwardWord id.toList
  all_goals
    have marked : occursIn "forward".toList
        ("message id=\"".toList ++ escapeAttr id.toList ++ ['"']) = _ :=
      (occursIn_messageTag id).trans forwarded
    simp at trimmed attrs marked
    simp [parseSatoriTag, trimmed, attrs, marked, Table.contains, Table.get_insert]

/-- A segment is read back as given, whatever stands around it. -/
def ReadAs (segment : MessageSegment) (found : Option MessageSegment) : Prop :=
  ∀ textBuf rest, parseElementsFrom textBuf (segmentToSatoriElement segment ++ rest) =
    flushText textBuf ++ found.toList ++ parseElementsFrom [] rest

theorem WrittenAs.readAs {segment : MessageSegment} {found : Option MessageSegment}
    (written : WrittenAs segment found) : ReadAs segment found := by
  obtain ⟨tag, inside, text, read⟩ := written
  intro textBuf rest
  rw [text, List.append_assoc, List.singleton_append, parseElementsFrom_element inside, read]

/-- The three elements of a reply are read back as the one in the middle. -/
theorem reply_readAs_message (id : String) :
    ReadAs (.reply id)
      (some (if occursIn forwardWord id.toList then .forward id else .reply id)) := by
  intro textBuf rest
  have inside : '>' ∉ "message id=\"".toList ++ escapeAttr id.toList ++ "\" /".toList := by
    simp [closing_not_mem_escapeAttr]
  have written : segmentToSatoriElement (.reply id) ++ rest =
      '<' :: "quote".toList ++ '>' :: ('<' ::
        ("message id=\"".toList ++ escapeAttr id.toList ++ "\" /".toList) ++ '>' ::
          ('<' :: "/quote".toList ++ '>' :: rest)) := by
    change "<quote><message id=\"".toList ++ escapeAttr id.toList ++
      "\" /></quote>".toList ++ rest = _
    simp
  have openingInside : '>' ∉ "quote".toList := by decide
  have closingInside : '>' ∉ "/quote".toList := by decide
  have opening : parseSatoriTag "quote".toList = none := by
    simp only [String.reduceToList]
    decide +kernel
  have closing : parseSatoriTag "/quote".toList = none := by
    simp only [String.reduceToList]
    decide +kernel
  rw [written, parseElementsFrom_element openingInside, parseElementsFrom_element inside,
    parseElementsFrom_element closingInside, parseSatoriTag_message, opening, closing]
  simp [flushText]

theorem reply_readAs {id : String} (unmarked : ¬ forwardWord <:+: id.toList) :
    ReadAs (.reply id) (some (.reply id)) := by
  have read := reply_readAs_message id
  rwa [if_neg (mt (occursIn_iff _ _).mp unmarked)] at read

/-! ## The normal form -/

/-- What a round trip makes of one segment.  Rich texts become plain ones, and
media keep a single source. -/
def simplify : MessageSegment → Option MessageSegment
  | .text text => if text = "" then none else some (.text text)
  | .json data => if data = "" then none else some (.text data)
  | .xml data => if data = "" then none else some (.text data)
  | .image file url => some (.image (url.getD file) (some (url.getD file)))
  | .record file url => some (.record (url.getD file) (some (url.getD file)))
  | .video file url => some (.video (url.getD file) (some (url.getD file)))
  | .unknown => none
  | segment => some segment

@[simp]
theorem simplify_text (text : String) :
    simplify (.text text) = if text = "" then none else some (.text text) := rfl

/-- Put a segment before others, joining two texts that meet. -/
def joinText : MessageSegment → List MessageSegment → List MessageSegment
  | .text first, .text second :: rest => .text (first ++ second) :: rest
  | segment, rest => segment :: rest

def isPoke : MessageSegment → Bool
  | .poke _ _ => true
  | _ => false

@[simp]
theorem isPoke_text (text : String) : isPoke (.text text) = false := rfl

/-- The normal form of a message: every segment simplified, the texts that
meet joined into one, and then the pokes dropped. -/
def normalForm (segments : List MessageSegment) : List MessageSegment :=
  ((segments.filterMap simplify).foldr joinText []).filter fun segment => !isPoke segment

theorem joinText_of_left {segment : MessageSegment} (element : ∀ text, segment ≠ .text text)
    (rest : List MessageSegment) : joinText segment rest = segment :: rest := by
  cases segment with
  | text text => exact absurd rfl (element text)
  | _ => rfl

theorem joinText_of_right {segment : MessageSegment} (element : ∀ text, segment ≠ .text text)
    (text : String) (rest : List MessageSegment) :
    joinText (.text text) (segment :: rest) = .text text :: segment :: rest := by
  cases segment with
  | text other => exact absurd rfl (element other)
  | _ => rfl

theorem joinText_joinText (first second : String) (rest : List MessageSegment) :
    joinText (.text first) (joinText (.text second) rest) =
      joinText (.text (first ++ second)) rest := by
  cases rest with
  | nil => rfl
  | cons segment remaining =>
      cases segment with
      | text third => simp [joinText, String.append_assoc]
      | _ => rfl

theorem normalForm_vanishing {segment : MessageSegment} (vanishes : simplify segment = none)
    (pending : String) (rest : List MessageSegment) :
    normalForm (.text pending :: segment :: rest) = normalForm (.text pending :: rest) := by
  simp [normalForm, List.filterMap_cons, vanishes]

theorem normalForm_text {segment : MessageSegment} {text : String}
    (becomes : simplify segment = some (.text text))
    (pending : String) (rest : List MessageSegment) :
    normalForm (.text pending :: segment :: rest) =
      normalForm (.text (pending ++ text) :: rest) := by
  have solid : text ≠ "" := by
    rintro rfl
    unfold simplify at becomes
    split at becomes <;> simp_all
  by_cases blank : pending = ""
  · subst blank
    simp [normalForm, becomes, solid]
  · simp [normalForm, becomes, blank, joinText_joinText]

theorem normalForm_element {segment kept : MessageSegment}
    (becomes : simplify segment = some kept) (element : ∀ text, kept ≠ .text text)
    (pending : String) (rest : List MessageSegment) :
    normalForm (.text pending :: segment :: rest) =
      (if pending = "" then [] else [.text pending]) ++
        (if isPoke kept then none else some kept).toList ++ normalForm (.text "" :: rest) := by
  by_cases blank : pending = "" <;> by_cases poke : isPoke kept = true <;>
    simp [normalForm, becomes, blank, poke,
      joinText_of_left element, joinText_of_right element]

/-! ## The round trip -/

theorem segmentToSatoriElement_vanishing {segment : MessageSegment}
    (vanishes : simplify segment = none) : segmentToSatoriElement segment = [] := by
  have blank : escapeSatoriText "".toList = [] := by decide
  cases segment with
  | text text | json text | xml text =>
      by_cases same : text = ""
      · subst same
        exact blank
      · simp [simplify, same] at vanishes
  | unknown => rfl
  | _ => simp [simplify] at vanishes

theorem segmentToSatoriElement_text {segment : MessageSegment} {text : String}
    (becomes : simplify segment = some (.text text)) :
    segmentToSatoriElement segment = escapeSatoriText text.toList := by
  cases segment with
  | text held | json held | xml held =>
      by_cases same : held = ""
      · simp [simplify, same] at becomes
      · simp only [simplify, if_neg same, Option.some.injEq, MessageSegment.text.injEq] at becomes
        subst becomes
        rfl
  | _ => simp [simplify] at becomes

/-- The replies are told from forwarded messages. -/
def RepliesTold (segments : List MessageSegment) : Prop :=
  ∀ id, .reply id ∈ segments → ¬ forwardWord <:+: id.toList

/-- Every segment that stays an element is read back as its simplified form
unless it is a poke. -/
theorem segmentToSatoriElement_element {segment kept : MessageSegment}
    (becomes : simplify segment = some kept) (element : ∀ text, kept ≠ .text text)
    (told : ∀ id, segment = .reply id → ¬ forwardWord <:+: id.toList) :
    ReadAs segment (if isPoke kept then none else some kept) := by
  cases segment with
  | text held | json held | xml held =>
      by_cases same : held = ""
      · simp [simplify, same] at becomes
      · simp only [simplify, if_neg same, Option.some.injEq] at becomes
        exact absurd becomes.symm (element held)
  | reply id =>
      cases becomes
      exact reply_readAs (told id rfl)
  | unknown => simp [simplify] at becomes
  | image file url =>
      cases becomes
      exact (image_writtenAs file url).readAs
  | record file url =>
      cases becomes
      exact (record_writtenAs file url).readAs
  | video file url =>
      cases becomes
      exact (video_writtenAs file url).readAs
  | «at» qq =>
      cases becomes
      exact (at_writtenAs qq).readAs
  | face id =>
      cases becomes
      exact (face_writtenAs id).readAs
  | forward id =>
      cases becomes
      exact (forward_writtenAs id).readAs
  | poke pokeType id =>
      cases becomes
      exact (poke_writtenAs pokeType id).readAs

theorem flushText_escapeSatoriText (pending : String) :
    flushText (escapeSatoriText pending.toList) =
      if pending = "" then [] else [.text pending] := by
  have same : escapeSatoriText pending.toList = [] ↔ pending = "" := by
    rw [escapeSatoriText_eq_encode, encode_eq_nil_iff]
    simp
  unfold flushText
  by_cases blank : pending = ""
  · rw [if_pos blank, if_pos (by simpa using same.mpr blank)]
  · rw [if_neg blank, if_neg (by simpa using mt same.mp blank)]
    simp

/-- Reading on with a pending text gives the normal form of that text and the
segments to come. -/
theorem parseElementsFrom_segments (segments : List MessageSegment)
    (told : RepliesTold segments) (pending : String) :
    parseElementsFrom (escapeSatoriText pending.toList)
        (segments.flatMap segmentToSatoriElement) =
      normalForm (.text pending :: segments) := by
  induction segments generalizing pending with
  | nil =>
      rw [List.flatMap_nil, parseElementsFrom, flushText_escapeSatoriText]
      by_cases blank : pending = "" <;>
        simp [normalForm, simplify, blank, joinText, isPoke]
  | cons segment rest inductionHypothesis =>
      have restTold : RepliesTold rest :=
        fun id membership => told id (List.mem_cons_of_mem _ membership)
      have later := inductionHypothesis restTold
      rw [List.flatMap_cons]
      cases becomes : simplify segment with
      | none =>
          rw [segmentToSatoriElement_vanishing becomes, List.nil_append,
            normalForm_vanishing becomes, later pending]
      | some kept =>
          by_cases element : ∀ text, kept ≠ .text text
          · have own : ∀ id, segment = .reply id → ¬ forwardWord <:+: id.toList :=
              fun id same => told id (by simp [same])
            have read := segmentToSatoriElement_element becomes element own
            have opened := later ""
            rw [normalForm_element becomes element, ← opened, read,
              flushText_escapeSatoriText]
            rfl
          · simp only [ne_eq, not_forall, not_not] at element
            rcases element with ⟨text, rfl⟩
            have joined : escapeSatoriText pending.toList ++ escapeSatoriText text.toList =
                escapeSatoriText (pending ++ text).toList := by
              simp only [escapeSatoriText_eq_encode, String.toList_append, encode_append]
            rw [segmentToSatoriElement_text becomes, parseElementsFrom_text, joined,
              later (pending ++ text), normalForm_text becomes]

theorem parse_written (segments : List MessageSegment) (told : RepliesTold segments) :
    parseSatoriElements (segmentsToSatoriElements segments) = normalForm segments := by
  have start : escapeSatoriText "".toList = [] := by decide
  have whole := parseElementsFrom_segments segments told ""
  rw [start] at whole
  rw [parseSatoriElements, segmentsToSatoriElements, String.toList_ofList, whole]
  simp [normalForm, simplify]

/-- Reading back what was written gives the normal form of the message, for
every content without a reply. -/
theorem parseSatoriElements_segmentsToSatoriElements (segments : List MessageSegment)
    (unquoted : ∀ id, .reply id ∉ segments) :
    parseSatoriElements (segmentsToSatoriElements segments) = normalForm segments :=
  parse_written segments fun id listed => absurd listed (unquoted id)

theorem parseSatoriElements_segmentsToSatoriElements_hostile :
    parseSatoriElements (segmentsToSatoriElements
        [.text "<at id=\"1\" />", .unknown, .json "&lt;", .image "a" (some "x\" /> & <"),
          .poke "1" "2", .text "=/"]) =
      normalForm [.text "<at id=\"1\" />", .unknown, .json "&lt;",
        .image "a" (some "x\" /> & <"), .poke "1" "2", .text "=/"] :=
  parseSatoriElements_segmentsToSatoriElements _ (by simp)

end Ferroq.Gateway.Satori
