import Ferroq.Core.Serde

/-!
# Message segments

The parts of a message in the backend-agnostic form.
-/

namespace Ferroq.Core

inductive MessageSegment where
  | text (text : String)
  | image (file : String) (url : Option String)
  | at (qq : String)
  | face (id : String)
  | reply (id : String)
  | record (file : String) (url : Option String)
  | video (file : String) (url : Option String)
  | forward (id : String)
  | json (data : String)
  | xml (data : String)
  | poke (pokeType : String) (id : String)
  | unknown
  deriving DecidableEq, Repr

namespace MessageSegment

section

variable (object : List (String × Json) → Json)

def tagged (segType : String) (data : List (String × Json)) : Json :=
  object [("type", .string segType), ("data", object data)]

/-- A segment with a file; an absent address is left out. -/
def taggedFile (segType file : String) (url : Option String) : Json :=
  tagged object segType (("file", .string file) :: optionalField "url" (url.map .string))

def serialize : MessageSegment → Json
  | .text content => tagged object "text" [("text", .string content)]
  | .image file url => taggedFile object "image" file url
  | .at qq => tagged object "at" [("qq", .string qq)]
  | .face id => tagged object "face" [("id", .string id)]
  | .reply id => tagged object "reply" [("id", .string id)]
  | .record file url => taggedFile object "record" file url
  | .video file url => taggedFile object "video" file url
  | .forward id => tagged object "forward" [("id", .string id)]
  | .json data => tagged object "json" [("data", .string data)]
  | .xml data => tagged object "xml" [("data", .string data)]
  | .poke pokeType id =>
      tagged object "poke" [("type", .string pokeType), ("id", .string id)]
  | .unknown => object [("type", .string "Unknown")]

end

def toJson (segment : MessageSegment) : Json := segment.serialize .ofFields

end MessageSegment

end Ferroq.Core
