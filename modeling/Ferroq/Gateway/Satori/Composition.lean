import Ferroq.Gateway.Satori.RoundTrip

/-!
# The composition of Satori contents

What stands before an element is read apart from the element unless it leaves
an entity open: the scan for the end of that entity runs over the opening
bracket.  Contents that were written leave none open, so that the reading of a
written message is the concatenation of the readings of its parts.
-/

namespace Ferroq.Gateway.Satori

open Ferroq.Core
open Ferroq.Library

/-- Whether a scan stands inside an entity after one more character. -/
def scanEntity (inside : Bool) (char : Char) : Bool :=
  if inside then char != ';' else char == '&'

/-- Whether a text ends inside an entity: some ampersand that begins an entity
has no semicolon after it. -/
def leavesEntity (text : List Char) : Bool := text.foldl scanEntity false

theorem foldl_scanEntity_of_unclosed {entity : List Char} (unclosed : ';' ∉ entity) :
    entity.foldl scanEntity true = true := by
  induction entity with
  | nil => rfl
  | cons char rest inductionHypothesis =>
      have different : char ≠ ';' := fun same => unclosed (by simp [same])
      have later : ';' ∉ rest := fun listed => unclosed (List.mem_cons_of_mem _ listed)
      rw [List.foldl_cons, scanEntity, if_pos rfl, bne_iff_ne.mpr different]
      exact inductionHypothesis later

theorem readEntity_append {entity : List Char} (unclosed : ';' ∉ entity) (rest : List Char) :
    readEntity (entity ++ rest) = (entity ++ (readEntity rest).1, (readEntity rest).2) := by
  induction entity with
  | nil => rfl
  | cons char remaining inductionHypothesis =>
      have different : char ≠ ';' := fun same => unclosed (by simp [same])
      have later : ';' ∉ remaining := fun listed => unclosed (List.mem_cons_of_mem _ listed)
      simp [readEntity, different, inductionHypothesis later]

/-- A text without an opening bracket is accumulated as it stands, and an entity
that it leaves open takes in what follows. -/
theorem parseElementsFrom_plain (text : List Char) (plain : '<' ∉ text)
    (textBuf rest : List Char) :
    parseElementsFrom textBuf (text ++ rest) =
      if leavesEntity text then
        parseElementsFrom (textBuf ++ text ++ (readEntity rest).1) (readEntity rest).2
      else parseElementsFrom (textBuf ++ text) rest := by
  induction size : text.length using Nat.strongRecOn generalizing text textBuf with
  | _ bound inductionHypothesis =>
      cases text with
      | nil => simp [leavesEntity]
      | cons char remaining =>
          have unbracketed : char ≠ '<' := fun same => plain (by simp [same])
          have later : '<' ∉ remaining := fun listed => plain (List.mem_cons_of_mem _ listed)
          rw [List.length_cons] at size
          rw [List.cons_append, parseElementsFrom, if_neg unbracketed]
          by_cases ampersand : char = '&'
          · subst ampersand
            rw [if_pos rfl]
            by_cases closed : ';' ∈ remaining
            · obtain ⟨entity, after, rfl, unclosed⟩ := List.eq_append_cons_of_mem closed
              have continues : leavesEntity ('&' :: (entity ++ ';' :: after)) =
                  leavesEntity after := by
                have opened := foldl_scanEntity_of_unclosed unclosed
                simp [leavesEntity, scanEntity, List.foldl_append, opened]
              have read : readEntity (entity ++ ';' :: after ++ rest) =
                  (entity ++ [';'], after ++ rest) := by
                rw [List.append_assoc, readEntity_append unclosed]
                simp [readEntity]
              have shorter : after.length < bound := by
                simp only [← size, List.length_append, List.length_cons]
                omega
              have unbracketedLater : '<' ∉ after := fun listed => later (by simp [listed])
              rw [read, continues, inductionHypothesis after.length shorter after
                unbracketedLater _ rfl]
              simp
            · have opens : leavesEntity ('&' :: remaining) = true :=
                foldl_scanEntity_of_unclosed closed
              rw [if_pos opens, readEntity_append closed]
              simp
          · have shorter : remaining.length < bound := by omega
            have continues : leavesEntity (char :: remaining) = leavesEntity remaining := by
              simp [leavesEntity, scanEntity, beq_eq_false_iff_ne.mpr ampersand]
            rw [if_neg ampersand, continues, inductionHypothesis remaining.length shorter
              remaining later (textBuf ++ [char]) rfl]
            simp

theorem parseElementsFrom_begins {textBuf : List Char} (inhabited : textBuf ≠ [])
    (chars : List Char) :
    ∃ more later, parseElementsFrom textBuf chars =
      .text (String.ofList (unescapeSatoriText (textBuf ++ more))) :: later := by
  induction textBuf, chars using parseElementsFrom.induct with
  | case1 textBuf =>
      refine ⟨[], [], ?_⟩
      simp [parseElementsFrom, flushText, inhabited]
  | case2 textBuf rest =>
      refine ⟨[], (parseSatoriTag (readTag rest).1).toList ++
        parseElementsFrom [] (readTag rest).2, ?_⟩
      simp [parseElementsFrom, flushText, inhabited]
  | case3 textBuf rest unbracketed inductionHypothesis =>
      obtain ⟨more, later, read⟩ := inductionHypothesis (by simp)
      refine ⟨'&' :: (readEntity rest).1 ++ more, later, ?_⟩
      rw [parseElementsFrom, if_neg (by decide), if_pos rfl, read, List.append_assoc]
  | case4 textBuf char rest unbracketed plain inductionHypothesis =>
      obtain ⟨more, later, read⟩ := inductionHypothesis (by simp)
      refine ⟨char :: more, later, ?_⟩
      rw [parseElementsFrom, if_neg unbracketed, if_neg plain, read, List.append_assoc]
      rfl

/-- No code has an opening bracket, so that a bracket separates two texts. -/
theorem unescapeSatoriText_append_cons (first second : List Char) :
    unescapeSatoriText (first ++ '<' :: second) =
      unescapeSatoriText first ++ '<' :: unescapeSatoriText second := by
  simp only [unescapeSatoriText]
  repeat rw [replaceWord_append_cons _ (by decide)]

/-- A content is read apart before, in and after an element exactly if the text
before the element leaves no entity open. -/
theorem parseSatoriElements_element_iff (a t b : String) (plain : '<' ∉ a.toList)
    (inside : '>' ∉ t.toList) :
    parseSatoriElements (a ++ "<" ++ t ++ ">" ++ b) =
        flushText a.toList ++ (parseSatoriTag t.toList).toList ++ parseSatoriElements b ↔
      leavesEntity a.toList = false := by
  have content : (a ++ "<" ++ t ++ ">" ++ b).toList =
      a.toList ++ ('<' :: t.toList ++ '>' :: b.toList) := by
    simp
  rw [parseSatoriElements, content, parseElementsFrom_plain a.toList plain, List.nil_append]
  constructor
  · intro apart
    rw [Bool.eq_false_iff]
    intro opens
    have inhabited : a.toList ≠ [] := by
      intro empty
      simp [empty, leavesEntity] at opens
    have swallowed : (readEntity ('<' :: t.toList ++ '>' :: b.toList)).1 =
        '<' :: (readEntity (t.toList ++ '>' :: b.toList)).1 := by
      simp [readEntity]
    have accumulated : a.toList ++ '<' :: (readEntity (t.toList ++ '>' :: b.toList)).1 ≠ [] := by
      simp
    obtain ⟨more, later, read⟩ := parseElementsFrom_begins accumulated
      (readEntity ('<' :: t.toList ++ '>' :: b.toList)).2
    rw [if_pos opens, swallowed, read, List.append_assoc, List.cons_append,
      unescapeSatoriText_append_cons, flushText] at apart
    simp only [List.isEmpty_iff, inhabited, if_false, List.cons_append, List.cons.injEq,
      MessageSegment.text.injEq, String.ofList_inj] at apart
    simp at apart
  · intro closed
    rw [closed, if_neg (by simp), parseElementsFrom_element inside, parseSatoriElements]

theorem parseSatoriElements_element_finished :
    parseSatoriElements ("say &amp; " ++ "<" ++ "at id=\"1\" /" ++ ">" ++ "!") =
        flushText "say &amp; ".toList ++ (parseSatoriTag "at id=\"1\" /".toList).toList ++
          parseSatoriElements "!" ↔
      leavesEntity "say &amp; ".toList = false :=
  parseSatoriElements_element_iff _ _ _ (by decide) (by decide)

/-- A bare ampersand turns the element after it into text. -/
theorem bareAmpersand_swallows_element :
    '<' ∉ "a & b ".toList ∧ '>' ∉ "at id=\"1\" /".toList ∧
      parseSatoriElements ("a & b " ++ "<" ++ "at id=\"1\" /" ++ ">" ++ "") =
        [.text "a & b <at id=\"1\" />"] ∧
      parseSatoriElements ("a & b " ++ "<" ++ "at id=\"1\" /" ++ ">" ++ "") ≠
        flushText "a & b ".toList ++ (parseSatoriTag "at id=\"1\" /".toList).toList ++
          parseSatoriElements "" := by
  simp only [String.reduceToList, String.reduceAppend, parseSatoriElements]
  decide +kernel

/-! ## Written contents -/

theorem segmentToSatoriElement_text_or_readAs (segment : MessageSegment) :
    (∃ text, segmentToSatoriElement segment = escapeSatoriText text) ∨
      ∃ found, ReadAs segment found := by
  cases segment with
  | text text | json text | xml text => exact Or.inl ⟨text.toList, rfl⟩
  | unknown => exact Or.inl ⟨[], by decide⟩
  | «at» qq => exact Or.inr ⟨_, (at_writtenAs qq).readAs⟩
  | image file url => exact Or.inr ⟨_, (image_writtenAs file url).readAs⟩
  | record file url => exact Or.inr ⟨_, (record_writtenAs file url).readAs⟩
  | video file url => exact Or.inr ⟨_, (video_writtenAs file url).readAs⟩
  | face id => exact Or.inr ⟨_, (face_writtenAs id).readAs⟩
  | forward id => exact Or.inr ⟨_, (forward_writtenAs id).readAs⟩
  | poke pokeType id => exact Or.inr ⟨_, (poke_writtenAs pokeType id).readAs⟩
  | reply id => exact Or.inr ⟨_, reply_readAs_message id⟩

/-- A written message leaves no entity open before an element. -/
theorem parseElementsFrom_written (segments : List MessageSegment)
    (textBuf rest : List Char) :
    parseElementsFrom textBuf (segments.flatMap segmentToSatoriElement ++ '<' :: rest) =
      parseElementsFrom textBuf (segments.flatMap segmentToSatoriElement) ++
        parseElementsFrom [] ('<' :: rest) := by
  induction segments generalizing textBuf with
  | nil =>
      rw [List.flatMap_nil, List.nil_append, parseElementsFrom, parseElementsFrom]
      simp [parseElementsFrom, flushText]
  | cons segment remaining inductionHypothesis =>
      rw [List.flatMap_cons, List.append_assoc]
      rcases segmentToSatoriElement_text_or_readAs segment with ⟨text, written⟩ | ⟨found, read⟩
      · rw [written, parseElementsFrom_text, parseElementsFrom_text, inductionHypothesis]
      · rw [read, read, inductionHypothesis]
        simp only [List.append_assoc]

/-- A segment keeps its place: what is written for it is read back as itself,
apart from what is written before and after it. -/
def ReadsBack (segment : MessageSegment) : Prop :=
  ∀ before after, parseSatoriElements (segmentsToSatoriElements (before ++ segment :: after)) =
    parseSatoriElements (segmentsToSatoriElements before) ++
      segment :: parseSatoriElements (segmentsToSatoriElements after)

theorem parseSatoriElements_of_readAs {segment found : MessageSegment}
    (read : ReadAs segment (some found))
    (opens : ∃ rest, segmentToSatoriElement segment = '<' :: rest)
    (before after : List MessageSegment) :
    parseSatoriElements (segmentsToSatoriElements (before ++ segment :: after)) =
      parseSatoriElements (segmentsToSatoriElements before) ++
        found :: parseSatoriElements (segmentsToSatoriElements after) := by
  obtain ⟨rest, written⟩ := opens
  have alone := read [] (after.flatMap segmentToSatoriElement)
  simp only [parseSatoriElements, segmentsToSatoriElements, String.toList_ofList,
    List.flatMap_append, List.flatMap_cons]
  rw [written, List.cons_append, parseElementsFrom_written, ← List.cons_append, ← written, alone]
  simp [flushText]

theorem readsBack_forward (id : String) : ReadsBack (.forward id) :=
  parseSatoriElements_of_readAs (forward_writtenAs id).readAs ⟨_, rfl⟩

/-- Replies and forwarded messages are told apart in every written message
exactly if the identifier lacks the word that marks a forwarded one. -/
theorem reply_forward_readsBack_iff (id : String) :
    (ReadsBack (.reply id) ∧ ReadsBack (.forward id)) ↔ ¬ forwardWord <:+: id.toList := by
  have kind := parseSatoriElements_of_readAs (reply_readAs_message id) ⟨_, rfl⟩
  constructor
  · rintro ⟨replies, _⟩ occurs
    have whole := (replies [] []).symm.trans (kind [] [])
    rw [if_pos ((occursIn_iff _ _).mpr occurs)] at whole
    simp at whole
  · intro unmarked
    rw [if_neg (mt (occursIn_iff _ _).mp unmarked)] at kind
    exact ⟨kind, readsBack_forward id⟩

/-- A reply whose identifier has the word is read as a forwarded message. -/
theorem reply_readAs_forward :
    parseSatoriElements (segmentsToSatoriElements [.reply "forward-1"]) = [.forward "forward-1"] ∧
      ¬ ReadsBack (.reply "forward-1") := by
  have read : parseSatoriElements (segmentsToSatoriElements [.reply "forward-1"]) =
      [.forward "forward-1"] := by
    decide +kernel
  have nothing : parseSatoriElements (segmentsToSatoriElements []) = [] := by decide +kernel
  refine ⟨read, ?_⟩
  intro replies
  have whole := replies [] []
  rw [List.nil_append, read, nothing] at whole
  simp at whole

end Ferroq.Gateway.Satori
