import Ferroq.Gateway.Satori.RoundTrip

/-!
# The stability of parsed elements

Any content at all is read as segments of a few forms.  Each of them is its own
simplification, and no reply among them is taken for a forwarded message: the
word that marks one would have been in the tag.  So what was read is written in
a form that is read as the same segments, with the texts that meet joined.
-/

namespace Ferroq.Gateway.Satori

open Ferroq.Core
open Ferroq.Library

/-- The segments that the parser yields. -/
def Parsed : MessageSegment → Prop
  | .text text => text ≠ ""
  | .image file url | .record file url | .video file url => url = some file
  | .reply id => ¬ forwardWord <:+: id.toList
  | .at _ | .face _ | .forward _ => True
  | _ => False

/-- Unescaping does not make the word: it brings in punctuation only. -/
theorem forwardWord_of_unescapeAttr {text : List Char}
    (occurs : forwardWord <:+: unescapeAttr text) : forwardWord <:+: text := by
  have fresh : ∀ entry ∈ entities, entry.1 ∉ forwardWord := by decide
  have replaced {symbol : Char} {name text : List Char} (entity : (symbol, name) ∈ entities)
      (inside : forwardWord <:+: replaceWord '&' name [symbol] text) : forwardWord <:+: text :=
    infix_of_infix_replaceWord (fresh _ entity) inside
  simp only [unescapeAttr, unescapeSatoriText] at occurs
  exact replaced (by decide) (replaced (by decide) (replaced (by decide)
    (replaced (by decide) (replaced (by decide) occurs))))

theorem trim_occurs (text : List Char) : trim text <:+: text := by
  have front : trimEndMatches isWhitespace (text.dropWhile isWhitespace) <+:
      text.dropWhile isWhitespace := by
    rw [trimEndMatches, ← List.reverse_suffix, List.reverse_reverse]
    exact List.dropWhile_suffix _
  exact front.isInfix.trans (List.dropWhile_suffix _).isInfix

/-- Where an attribute has the word, so has the text that it was read from. -/
def Within (source : List Char) (attrs : Table String String) : Prop :=
  ∀ key value, attrs.get key = some value → forwardWord <:+: value.toList → forwardWord <:+: source

theorem Within.insert {source : List Char} {attrs : Table String String}
    (within : Within source attrs) (key : String) {value : List Char}
    (inside : forwardWord <:+: value → forwardWord <:+: source) :
    Within source (attrs.insert key (String.ofList value)) := by
  intro other held found occurs
  rcases (Table.get_insert_eq_some_iff _ _ _ _ _).mp found with ⟨_, rfl⟩ | ⟨_, earlier⟩
  · rw [String.toList_ofList] at occurs
    exact inside occurs
  · exact within other held earlier occurs

theorem readValue_within (chars : List Char) :
    (readValue chars).2 <:+ chars ∧
      (forwardWord <:+: (readValue chars).1 → forwardWord <:+: chars) := by
  cases chars with
  | nil => exact ⟨List.suffix_rfl, id⟩
  | cons quote rest =>
      rw [readValue]
      split
      next =>
        constructor
        · exact (List.drop_suffix _ _).trans
            ((List.dropWhile_suffix _).trans (List.suffix_cons quote rest))
        · intro occurs
          have inside := (forwardWord_of_unescapeAttr occurs).trans
            (List.takeWhile_prefix _).isInfix
          exact List.infix_cons inside
      next =>
        exact ⟨List.dropWhile_suffix _,
          fun occurs => occurs.trans (List.takeWhile_prefix _).isInfix⟩

theorem parseAttrsFrom_within {source : List Char} (attrs : Table String String)
    (chars : List Char) (suffix : chars <:+ source) (within : Within source attrs) :
    Within source (parseAttrsFrom attrs chars) := by
  induction attrs, chars using parseAttrsFrom.induct with
  | case1 attrs => rwa [parseAttrsFrom, if_pos rfl]
  | case2 attrs chars inhabited start name afterName nameless inductionHypothesis =>
      rw [parseAttrsFrom, if_neg inhabited]
      dsimp only
      rw [if_pos nameless]
      have rest : afterName <:+ chars :=
        (List.dropWhile_suffix _).trans (List.dropWhile_suffix _)
      exact inductionHypothesis ((List.drop_suffix _ _).trans (rest.trans suffix)) within
  | case3 attrs chars inhabited start name afterName named equals quoted inductionHypothesis =>
      rw [parseAttrsFrom, if_neg inhabited]
      dsimp only
      rw [if_neg named, if_pos equals]
      have rest : afterName <:+ chars :=
        (List.dropWhile_suffix _).trans (List.dropWhile_suffix _)
      have value : afterName.drop 1 <:+ source := (List.drop_suffix _ _).trans (rest.trans suffix)
      have read := readValue_within (afterName.drop 1)
      exact inductionHypothesis (read.1.trans value)
        (within.insert _ fun occurs => (read.2 occurs).trans value.isInfix)
  | case4 attrs chars inhabited start name afterName named bare inductionHypothesis =>
      rw [parseAttrsFrom, if_neg inhabited]
      dsimp only
      rw [if_neg named, if_neg bare]
      have rest : afterName <:+ chars :=
        (List.dropWhile_suffix _).trans (List.dropWhile_suffix _)
      have nothing : ¬ forwardWord <:+: [] := by decide +kernel
      exact inductionHypothesis (rest.trans suffix)
        (within.insert _ fun occurs => absurd occurs nothing)

theorem parseAttrs_within (text : List Char) : Within text (parseAttrs text) := by
  intro key value found occurs
  have inside := parseAttrsFrom_within .empty (trim text) List.suffix_rfl
    (fun _ _ none => nomatch none) key value found occurs
  exact inside.trans (trim_occurs text)

theorem parsed_of_map {value : Option String} {build : String → MessageSegment}
    {segment : MessageSegment} (read : value.map build = some segment)
    (parsed : ∀ text, value = some text → Parsed (build text)) : Parsed segment := by
  obtain ⟨text, found, rfl⟩ := Option.map_eq_some_iff.mp read
  exact parsed text found

theorem parseSatoriTag_parsed {tag : List Char} {segment : MessageSegment}
    (read : parseSatoriTag tag = some segment) : Parsed segment := by
  unfold parseSatoriTag at read
  generalize trim (trimEndMatches (· == '/') (trim tag)) = tag at read
  dsimp only at read
  split at read
  next =>
    split at read
    next =>
      split at read
      next => cases read; exact True.intro
      next => exact parsed_of_map read fun _ _ => True.intro
    next => exact parsed_of_map read fun _ _ => True.intro
  next =>
    split at read
    next => exact parsed_of_map read fun _ _ => rfl
    next =>
      split at read
      next => exact parsed_of_map read fun _ _ => rfl
      next =>
        split at read
        next => exact parsed_of_map read fun _ _ => rfl
        next =>
          split at read
          next => exact parsed_of_map read fun _ _ => True.intro
          next =>
            split at read
            next =>
              split at read
              next => exact parsed_of_map read fun _ _ => True.intro
              next unmarked =>
                refine parsed_of_map read fun id found occurs => unmarked ?_
                have inside := parseAttrs_within (tag.drop 7) "id" id found occurs
                rw [Bool.or_eq_true, occursIn_iff]
                exact Or.inr (inside.trans (List.drop_suffix _ _).isInfix)
            next => cases read

theorem flushText_parsed (textBuf : List Char) :
    ∀ segment ∈ flushText textBuf, Parsed segment := by
  intro segment listed
  unfold flushText at listed
  split at listed
  next => cases listed
  next inhabited =>
    rw [List.mem_singleton.mp listed]
    have solid : textBuf ≠ [] := fun empty => inhabited (by rw [empty]; rfl)
    intro blank
    have unescaped : unescapeSatoriText textBuf = [] := by
      simpa using congrArg String.toList blank
    simp only [unescapeSatoriText] at unescaped
    exact replaceWord_ne_nil _ _ _ (replaceWord_ne_nil _ _ _ (replaceWord_ne_nil _ _ _
      (replaceWord_ne_nil _ _ _ (replaceWord_ne_nil _ _ _ solid)))) unescaped

theorem parseElementsFrom_parsed (textBuf chars : List Char) :
    ∀ segment ∈ parseElementsFrom textBuf chars, Parsed segment := by
  induction textBuf, chars using parseElementsFrom.induct with
  | case1 textBuf =>
      rw [parseElementsFrom]
      exact flushText_parsed textBuf
  | case2 textBuf rest inductionHypothesis =>
      intro segment listed
      rw [parseElementsFrom, if_pos rfl] at listed
      rcases List.mem_append.mp listed with before | later
      · rcases List.mem_append.mp before with text | element
        · exact flushText_parsed textBuf segment text
        · exact parseSatoriTag_parsed (Option.mem_toList.mp element)
      · exact inductionHypothesis segment later
  | case3 textBuf rest different inductionHypothesis =>
      rw [parseElementsFrom, if_neg different, if_pos rfl]
      exact inductionHypothesis
  | case4 textBuf char rest notOpening notAmpersand inductionHypothesis =>
      rw [parseElementsFrom, if_neg notOpening, if_neg notAmpersand]
      exact inductionHypothesis

theorem simplify_of_parsed {segment : MessageSegment} (parsed : Parsed segment) :
    simplify segment = some segment ∧ isPoke segment = false := by
  cases segment with
  | text text => exact ⟨if_neg parsed, rfl⟩
  | image file url | record file url | video file url =>
      cases parsed
      exact ⟨rfl, rfl⟩
  | «at» _ | face _ | reply _ | forward _ => exact ⟨rfl, rfl⟩
  | json _ | xml _ | poke _ _ | unknown => exact parsed.elim

def mergeTexts (segments : List MessageSegment) : List MessageSegment :=
  segments.foldr joinText []

theorem isPoke_joinText {segment : MessageSegment} {rest : List MessageSegment}
    (own : isPoke segment = false) (others : ∀ other ∈ rest, isPoke other = false) :
    ∀ other ∈ joinText segment rest, isPoke other = false := by
  unfold joinText
  split
  next first second remaining =>
    intro other listed
    rcases List.mem_cons.mp listed with rfl | later
    · rfl
    · exact others other (List.mem_cons_of_mem _ later)
  next =>
    intro other listed
    rcases List.mem_cons.mp listed with rfl | later
    · exact own
    · exact others other later

theorem normalForm_of_parsed {segments : List MessageSegment}
    (parsed : ∀ segment ∈ segments, Parsed segment) :
    normalForm segments = mergeTexts segments := by
  have simplified : segments.filterMap simplify = segments := by
    have same := List.filterMap_eq_map_iff_forall_eq_some.mpr
      fun segment listed => (simplify_of_parsed (parsed segment listed)).1
    exact same.trans (List.map_id _)
  have unpoked : ∀ segment ∈ mergeTexts segments, isPoke segment = false := by
    clear simplified
    induction segments with
    | nil => simp [mergeTexts]
    | cons segment rest inductionHypothesis =>
        exact isPoke_joinText (simplify_of_parsed (parsed segment List.mem_cons_self)).2
          (inductionHypothesis fun other listed =>
            parsed other (List.mem_cons_of_mem segment listed))
  rw [normalForm, simplified]
  exact List.filter_eq_self.mpr fun segment listed => by simp [unpoked segment listed]

/-- What was read of any content is written in a form that is read as the same
segments, with the texts that meet joined. -/
theorem parseSatoriElements_stable (content : String) :
    parseSatoriElements (segmentsToSatoriElements (parseSatoriElements content)) =
      mergeTexts (parseSatoriElements content) := by
  have parsed : ∀ segment ∈ parseSatoriElements content, Parsed segment :=
    parseElementsFrom_parsed [] content.toList
  rw [parse_written _ fun id listed => parsed (.reply id) listed, normalForm_of_parsed parsed]

end Ferroq.Gateway.Satori
