import Ferroq.Gateway.Satori.Elements

/-!
# The dispatch on the names of elements

The parser tests which of six words a tag begins with, and reads attributes from
what follows the word.  No word begins another, so that a tag is handled as at
most one kind of element; but a name that only begins with a word is handled as
that word's kind, with the rest of the name as an attribute.
-/

namespace Ferroq.Gateway.Satori

open Ferroq.Core
open Ferroq.Library

inductive Element where
  | at
  | img
  | audio
  | video
  | emoji
  | message
  deriving DecidableEq

def Element.word : Element → String
  | .at => "at"
  | .img => "img"
  | .audio => "audio"
  | .video => "video"
  | .emoji => "emoji"
  | .message => "message"

/-- The attributes an element needs to stand for a segment. -/
def Element.complete (attrs : Table String String) : Element → Bool
  | .at => attrs.get "type" == some "all" || attrs.get "type" == some "here" ||
      attrs.contains "id"
  | .img | .audio | .video => attrs.contains "src"
  | .emoji | .message => attrs.contains "id"

def elementOf : MessageSegment → Option Element
  | .at _ => some .at
  | .image _ _ => some .img
  | .record _ _ => some .audio
  | .video _ _ => some .video
  | .face _ => some .emoji
  | .reply _ | .forward _ => some .message
  | _ => none

def isElementChar (char : Char) : Bool := !isWhitespace char && char != '/'

/-- The name of a tag's element: the longest prefix of the trimmed tag free of
blanks and slashes. -/
def elementName (tag : List Char) : List Char := (trim tag).takeWhile isElementChar

/-- A tag without the slashes that close it. -/
def bareTag (tag : List Char) : List Char := trim (trimEndMatches (· == '/') (trim tag))

def attrsAfter (element : Element) (tag : List Char) : Table String String :=
  parseAttrs ((bareTag tag).drop element.word.toList.length)

theorem takeWhile_append_of_rejected {test : Char → Bool} (text : List Char) {last : List Char}
    (rejected : ∀ char ∈ last, test char = false) :
    (text ++ last).takeWhile test = text.takeWhile test := by
  induction text with
  | nil =>
      cases last with
      | nil => rfl
      | cons char rest => simp [rejected char (by simp)]
  | cons char rest inductionHypothesis =>
      rw [List.cons_append, List.takeWhile_cons, List.takeWhile_cons, inductionHypothesis]

theorem takeWhile_trimEndMatches {test matched : Char → Bool}
    (rejected : ∀ char, matched char = true → test char = false) (text : List Char) :
    (trimEndMatches matched text).takeWhile test = text.takeWhile test := by
  have whole : text = trimEndMatches matched text ++ (text.reverse.takeWhile matched).reverse := by
    rw [trimEndMatches, ← List.reverse_append, List.takeWhile_append_dropWhile,
      List.reverse_reverse]
  have last : ∀ char ∈ (text.reverse.takeWhile matched).reverse, test char = false := by
    intro char listed
    exact rejected char (List.all_eq_true.mp List.all_takeWhile char (List.mem_reverse.mp listed))
  conv_rhs => rw [whole]
  rw [takeWhile_append_of_rejected _ last]

theorem trimEndMatches_begins (matched : Char → Bool) (text : List Char) :
    trimEndMatches matched text <+: text := by
  rw [trimEndMatches, ← List.reverse_suffix, List.reverse_reverse]
  exact List.dropWhile_suffix _

theorem dropWhile_of_prefix {test : Char → Bool} {begun text : List Char}
    (begins : begun <+: text.dropWhile test) : begun.dropWhile test = begun := by
  cases begun with
  | nil => rfl
  | cons char rest =>
      obtain ⟨later, whole⟩ := begins
      have solid := List.head_dropWhile_not test (l := text) (by simp [← whole])
      simp only [← whole, List.cons_append, List.head_cons] at solid
      simp [solid]

theorem elementName_eq (tag : List Char) :
    elementName tag = (bareTag tag).takeWhile isElementChar := by
  have unblank : ∀ char, isWhitespace char = true → isElementChar char = false := by
    simp +contextual [isElementChar]
  have unslash : ∀ char, (char == '/') = true → isElementChar char = false := by
    simp +contextual [isElementChar]
  have started : (trimEndMatches (· == '/') (trim tag)).dropWhile isWhitespace =
      trimEndMatches (· == '/') (trim tag) :=
    dropWhile_of_prefix ((trimEndMatches_begins _ _).trans (trimEndMatches_begins _ _))
  rw [bareTag, trim, started, takeWhile_trimEndMatches unblank, takeWhile_trimEndMatches unslash,
    elementName]

theorem Element.word_injective {one other : Element}
    (begins : one.word.toList <+: other.word.toList) : one = other := by
  revert begins
  cases one <;> cases other <;> decide +kernel

theorem Element.unique {one other : Element} {text : List Char}
    (first : one.word.toList <+: text) (second : other.word.toList <+: text) : one = other := by
  rcases List.prefix_or_prefix_of_prefix first second with begins | begins
  · exact Element.word_injective begins
  · exact (Element.word_injective begins).symm

theorem Element.word_named (element : Element) :
    ∀ char ∈ element.word.toList, isElementChar char = true := by
  rw [← List.all_eq_true]
  cases element <;> decide

theorem word_prefix_elementName_iff (element : Element) (tag : List Char) :
    element.word.toList <+: elementName tag ↔ element.word.toList <+: bareTag tag := by
  rw [elementName_eq]
  constructor
  · exact fun begins => begins.trans (List.takeWhile_prefix _)
  · rintro ⟨later, whole⟩
    rw [← whole, List.takeWhile_append_of_pos element.word_named]
    exact List.prefix_append _ _

theorem isSome_map_kind {value : Option String} {build : String → MessageSegment}
    {element : Element} (kind : ∀ text, elementOf (build text) = some element) :
    (value.map build).isSome = value.isSome ∧
      ∀ segment ∈ value.map build, elementOf segment = some element := by
  refine ⟨Option.isSome_map, ?_⟩
  intro segment found
  obtain ⟨text, _, rfl⟩ := Option.map_eq_some_iff.mp found
  exact kind text

theorem wordTests {text : List Char} {chosen : Element → Bool}
    (tested : ∀ element : Element, element.word.toList.isPrefixOf text = chosen element) :
    "at".toList.isPrefixOf text = chosen .at ∧ "img".toList.isPrefixOf text = chosen .img ∧
      "audio".toList.isPrefixOf text = chosen .audio ∧
      "video".toList.isPrefixOf text = chosen .video ∧
      "emoji".toList.isPrefixOf text = chosen .emoji ∧
      "message".toList.isPrefixOf text = chosen .message :=
  ⟨tested .at, tested .img, tested .audio, tested .video, tested .emoji, tested .message⟩

/-- A tag is handled as the element whose word it begins with: it stands for a
segment exactly if the attributes after the word are complete, and for one of
that element's kind only. -/
theorem parseSatoriTag_of_word (element : Element) (tag : List Char)
    (begins : element.word.toList <+: bareTag tag) :
    (parseSatoriTag tag).isSome = element.complete (attrsAfter element tag) ∧
      ∀ segment ∈ parseSatoriTag tag, elementOf segment = some element := by
  have tested (other : Element) :
      other.word.toList.isPrefixOf (trim (trimEndMatches (· == '/') (trim tag))) =
        decide (other = element) := by
    rw [Bool.eq_iff_iff, List.isPrefixOf_iff_prefix, decide_eq_true_eq]
    constructor
    · exact fun otherBegins => Element.unique otherBegins begins
    · rintro rfl
      exact begins
  obtain ⟨atTested, imgTested, audioTested, videoTested, emojiTested, messageTested⟩ :=
    wordTests tested
  simp only [parseSatoriTag, atTested, imgTested, audioTested, videoTested, emojiTested,
    messageTested]
  cases element with
  | img | audio | video | emoji => exact isSome_map_kind fun _ => rfl
  | message =>
      simp only [reduceCtorEq, decide_false, decide_true, Bool.false_eq_true, if_false, if_true]
      split
      next => exact isSome_map_kind fun _ => rfl
      next => exact isSome_map_kind fun _ => rfl
  | «at» =>
      simp only [decide_true, if_true]
      have attrs : attrsAfter .at tag =
          parseAttrs ((trim (trimEndMatches (· == '/') (trim tag))).drop 2) := rfl
      simp only [Element.complete, Table.contains, attrs]
      have read (id : Option String) : (id.map MessageSegment.at).isSome = id.isSome ∧
          ∀ segment ∈ id.map MessageSegment.at, elementOf segment = some .at :=
        isSome_map_kind fun _ => rfl
      split
      next atType typed =>
        rw [typed]
        split
        next everyone =>
          refine ⟨?_, by simp [elementOf]⟩
          rcases everyone with rfl | rfl <;> rfl
        next someone =>
          have other := not_or.mp someone
          refine ⟨?_, (read _).2⟩
          rw [(read _).1]
          simp [other.1, other.2]
      next untyped =>
        rw [untyped]
        exact ⟨(read _).1, (read _).2⟩

theorem parseSatoriTag_of_no_word (tag : List Char)
    (unknown : ∀ element : Element, ¬ element.word.toList <+: bareTag tag) :
    parseSatoriTag tag = none := by
  have tested (other : Element) :
      other.word.toList.isPrefixOf (trim (trimEndMatches (· == '/') (trim tag))) = false := by
    rw [Bool.eq_false_iff, ne_eq, List.isPrefixOf_iff_prefix]
    exact unknown other
  obtain ⟨atTested, imgTested, audioTested, videoTested, emojiTested, messageTested⟩ :=
    wordTests tested
  simp only [parseSatoriTag, atTested, imgTested, audioTested, videoTested, emojiTested,
    messageTested, Bool.false_eq_true, if_false]

/-- A tag stands for a segment of the kind that its name says, or for none. -/
def NamesKind (tag : List Char) : Prop :=
  ∀ segment ∈ parseSatoriTag tag,
    ∃ element, elementOf segment = some element ∧ elementName tag = element.word.toList

/-- The segments of a tag are named by it exactly if its name does not go on
after a known word while the attributes read from there are complete. -/
theorem namesKind_iff (tag : List Char) :
    NamesKind tag ↔ ∀ element : Element, element.word.toList <+: elementName tag →
      elementName tag ≠ element.word.toList →
        element.complete (attrsAfter element tag) = false := by
  constructor
  · intro named element begins longer
    have read := parseSatoriTag_of_word element tag
      ((word_prefix_elementName_iff element tag).mp begins)
    rw [← read.1, Bool.eq_false_iff]
    intro yields
    obtain ⟨segment, found⟩ := Option.isSome_iff_exists.mp yields
    obtain ⟨other, kind, name⟩ := named segment found
    have same : element = other := Option.some.inj ((read.2 segment found).symm.trans kind)
    exact longer (same ▸ name)
  · intro incomplete segment found
    by_cases known : ∃ element : Element, element.word.toList <+: bareTag tag
    · obtain ⟨element, begins⟩ := known
      have read := parseSatoriTag_of_word element tag begins
      refine ⟨element, read.2 segment found, ?_⟩
      by_contra longer
      have nothing := incomplete element
        ((word_prefix_elementName_iff element tag).mpr begins) longer
      rw [← read.1, found] at nothing
      simp at nothing
    · have nothing := parseSatoriTag_of_no_word tag (not_exists.mp known)
      rw [nothing] at found
      cases found

/-- An attachment is taken for a mention. -/
theorem attachment_read_as_at :
    elementName "attachment id=\"1\"".toList = "attachment".toList ∧
      parseSatoriTag "attachment id=\"1\"".toList = some (.at "1") ∧
      ¬ NamesKind "attachment id=\"1\"".toList := by
  have name : elementName "attachment id=\"1\"".toList = "attachment".toList := by
    simp only [String.reduceToList]
    decide
  have read : parseSatoriTag "attachment id=\"1\"".toList = some (.at "1") := by
    simp only [String.reduceToList]
    decide +kernel
  refine ⟨name, read, ?_⟩
  intro named
  obtain ⟨element, kind, same⟩ := named _ read
  cases kind
  exact absurd (name.symm.trans same) (by decide)

end Ferroq.Gateway.Satori
