import Ferroq.Core.Message
import Ferroq.Core.Text
import Ferroq.Library.Escape
import Ferroq.Library.Table

/-!
# Satori elements

Messages are written as a text with XML-like elements and read back by a
character-level parser.  A text is handled as the list of its characters.
-/

namespace Ferroq.Gateway.Satori

open Ferroq.Core
open Ferroq.Library

def escapeSatoriText (text : List Char) : List Char :=
  let text := replaceSymbol '&' "&amp;".toList text
  let text := replaceSymbol '<' "&lt;".toList text
  replaceSymbol '>' "&gt;".toList text

def unescapeSatoriText (text : List Char) : List Char :=
  let text := replaceWord '&' "lt;".toList ['<'] text
  let text := replaceWord '&' "gt;".toList ['>'] text
  let text := replaceWord '&' "quot;".toList ['"'] text
  let text := replaceWord '&' "#39;".toList ['\''] text
  replaceWord '&' "amp;".toList ['&'] text

def escapeAttr (text : List Char) : List Char :=
  let text := replaceSymbol '&' "&amp;".toList text
  let text := replaceSymbol '"' "&quot;".toList text
  let text := replaceSymbol '<' "&lt;".toList text
  replaceSymbol '>' "&gt;".toList text

def unescapeAttr (text : List Char) : List Char := unescapeSatoriText text

def segmentToSatoriElement : MessageSegment → List Char
  | .text text => escapeSatoriText text.toList
  | .at qq =>
      if qq = "all" then "<at type=\"all\" />".toList
      else "<at id=\"".toList ++ escapeAttr qq.toList ++ "\" />".toList
  | .image file url =>
      "<img src=\"".toList ++ escapeAttr (url.getD file).toList ++ "\" />".toList
  | .face id => "<emoji id=\"".toList ++ escapeAttr id.toList ++ "\" />".toList
  | .reply id =>
      "<quote><message id=\"".toList ++ escapeAttr id.toList ++ "\" /></quote>".toList
  | .record file url =>
      "<audio src=\"".toList ++ escapeAttr (url.getD file).toList ++ "\" />".toList
  | .video file url =>
      "<video src=\"".toList ++ escapeAttr (url.getD file).toList ++ "\" />".toList
  | .forward id => "<message id=\"".toList ++ escapeAttr id.toList ++ "\" forward />".toList
  | .json data => escapeSatoriText data.toList
  | .xml data => escapeSatoriText data.toList
  | .poke pokeType id =>
      "<qq:poke type=\"".toList ++ escapeAttr pokeType.toList ++ "\" id=\"".toList ++
        escapeAttr id.toList ++ "\" />".toList
  | .unknown => []

def segmentsToSatoriElements (segments : List MessageSegment) : String :=
  String.ofList (segments.flatMap segmentToSatoriElement)

/-- The tag that follows an opening bracket, up to the next closing one, and
the characters after it. -/
def readTag : List Char → List Char × List Char
  | [] => ([], [])
  | char :: rest =>
      if char = '>' then ([], rest)
      else
        let (tag, remaining) := readTag rest
        (char :: tag, remaining)

/-- The characters after an ampersand up to and including the next semicolon,
and those that follow. -/
def readEntity : List Char → List Char × List Char
  | [] => ([], [])
  | char :: rest =>
      if char = ';' then ([char], rest)
      else
        let (entity, remaining) := readEntity rest
        (char :: entity, remaining)

theorem readTag_length (chars : List Char) : (readTag chars).2.length ≤ chars.length := by
  induction chars with
  | nil => simp [readTag]
  | cons char rest inductionHypothesis =>
      simp only [readTag]
      split
      next => simp
      next => exact Nat.le_succ_of_le inductionHypothesis

theorem readEntity_length (chars : List Char) :
    (readEntity chars).2.length ≤ chars.length := by
  induction chars with
  | nil => simp [readEntity]
  | cons char rest inductionHypothesis =>
      simp only [readEntity]
      split
      next => simp
      next => exact Nat.le_succ_of_le inductionHypothesis

theorem length_dropWhile_le (test : Char → Bool) (chars : List Char) :
    (chars.dropWhile test).length ≤ chars.length :=
  (List.dropWhile_suffix test).length_le

theorem length_dropWhile_lt {test : Char → Bool} {chars : List Char}
    (taken : chars.takeWhile test ≠ []) :
    (chars.dropWhile test).length < chars.length := by
  have split := congrArg List.length (List.takeWhile_append_dropWhile (p := test) (l := chars))
  have positive := List.length_pos_iff.mpr taken
  rw [List.length_append] at split
  omega

def isNameChar (char : Char) : Bool := char != '=' && !isWhitespace char && char != '/'

def isUnquotedChar (char : Char) : Bool := !isWhitespace char && char != '/'

def readValue : List Char → List Char × List Char
  | [] => ([], [])
  | quote :: rest =>
      if quote = '"' ∨ quote = '\'' then
        (unescapeAttr (rest.takeWhile (· ≠ quote)), (rest.dropWhile (· ≠ quote)).drop 1)
      else
        ((quote :: rest).takeWhile isUnquotedChar, (quote :: rest).dropWhile isUnquotedChar)

theorem readValue_length (chars : List Char) : (readValue chars).2.length ≤ chars.length := by
  cases chars with
  | nil => simp [readValue]
  | cons quote rest =>
      simp only [readValue]
      split
      next =>
        have quoted := length_dropWhile_le (· ≠ quote) rest
        rw [List.length_drop, List.length_cons]
        omega
      next => exact length_dropWhile_le isUnquotedChar (quote :: rest)

def parseAttrsFrom (attrs : Table String String) (chars : List Char) : Table String String :=
  if chars = [] then attrs
  else
    let start := chars.dropWhile isWhitespace
    let name := start.takeWhile isNameChar
    let afterName := start.dropWhile isNameChar
    if name = [] then parseAttrsFrom attrs (afterName.drop 1)
    else if afterName.head? = some '=' then
      let quoted := readValue (afterName.drop 1)
      parseAttrsFrom (attrs.insert (String.ofList name) (String.ofList quoted.1)) quoted.2
    else parseAttrsFrom (attrs.insert (String.ofList name) "") afterName
termination_by chars.length
decreasing_by
  all_goals
    have blank := length_dropWhile_le isWhitespace chars
    have named := length_dropWhile_le isNameChar (chars.dropWhile isWhitespace)
  · have inhabited := List.length_pos_iff.mpr ‹chars ≠ []›
    change ((chars.dropWhile isWhitespace).dropWhile isNameChar |>.drop 1).length < _
    rw [List.length_drop]
    omega
  · have shorter : ((chars.dropWhile isWhitespace).dropWhile isNameChar).length <
        (chars.dropWhile isWhitespace).length := length_dropWhile_lt ‹name ≠ []›
    have valueRead :=
      readValue_length ((chars.dropWhile isWhitespace).dropWhile isNameChar |>.drop 1)
    have skipped :=
      List.length_drop (i := 1) (l := (chars.dropWhile isWhitespace).dropWhile isNameChar)
    omega
  · have shorter : ((chars.dropWhile isWhitespace).dropWhile isNameChar).length <
        (chars.dropWhile isWhitespace).length := length_dropWhile_lt ‹name ≠ []›
    change ((chars.dropWhile isWhitespace).dropWhile isNameChar).length < _
    omega

def parseAttrs (text : List Char) : Table String String :=
  parseAttrsFrom .empty (trim text)

def occursIn (word : List Char) : List Char → Bool
  | [] => word.isEmpty
  | char :: rest => word.isPrefixOf (char :: rest) || occursIn word rest

/-- The segment a tag stands for.  Closing tags and unknown elements stand for
none. -/
def parseSatoriTag (tag : List Char) : Option MessageSegment :=
  let tag := trim (trimEndMatches (· == '/') (trim tag))
  if "at".toList.isPrefixOf tag then
    let attrs := parseAttrs (tag.drop 2)
    match attrs.get "type", attrs.get "id" with
    | some atType, id =>
        if atType = "all" ∨ atType = "here" then some (.at atType)
        else id.map .at
    | none, id => id.map .at
  else if "img".toList.isPrefixOf tag then
    let attrs := parseAttrs (tag.drop 3)
    (attrs.get "src").map fun source => .image source (some source)
  else if "audio".toList.isPrefixOf tag then
    let attrs := parseAttrs (tag.drop 5)
    (attrs.get "src").map fun source => .record source (some source)
  else if "video".toList.isPrefixOf tag then
    let attrs := parseAttrs (tag.drop 5)
    (attrs.get "src").map fun source => .video source (some source)
  else if "emoji".toList.isPrefixOf tag then
    let attrs := parseAttrs (tag.drop 5)
    (attrs.get "id").map .face
  else if "message".toList.isPrefixOf tag then
    let attrs := parseAttrs (tag.drop 7)
    if attrs.contains "forward" || occursIn "forward".toList tag then
      (attrs.get "id").map .forward
    else (attrs.get "id").map .reply
  else none

def flushText (textBuf : List Char) : List MessageSegment :=
  if textBuf.isEmpty then []
  else [.text (String.ofList (unescapeSatoriText textBuf))]

def parseElementsFrom (textBuf chars : List Char) : List MessageSegment :=
  match chars with
  | [] => flushText textBuf
  | char :: rest =>
      if char = '<' then
        flushText textBuf ++ (parseSatoriTag (readTag rest).1).toList ++
          parseElementsFrom [] (readTag rest).2
      else if char = '&' then
        parseElementsFrom (textBuf ++ '&' :: (readEntity rest).1) (readEntity rest).2
      else parseElementsFrom (textBuf ++ [char]) rest
termination_by chars.length
decreasing_by
  · exact Nat.lt_succ_of_le (readTag_length rest)
  · exact Nat.lt_succ_of_le (readEntity_length rest)
  · exact Nat.lt_succ_self rest.length

def parseSatoriElements (content : String) : List MessageSegment :=
  parseElementsFrom [] content.toList

end Ferroq.Gateway.Satori
