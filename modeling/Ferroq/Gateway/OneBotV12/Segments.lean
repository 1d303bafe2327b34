import Ferroq.Gateway.OneBotV11
import Ferroq.Gateway.OneBotV12

/-!
# OneBot v12 message segments

Events carry their messages in the v12 form, with other names of kinds and keys
than v11.  The segments of a `send_message` action are passed on as they are and
read as v11 segments, so only a few of them come back unchanged.
-/

namespace Ferroq.Gateway.OneBotV12

open Ferroq.Core
open Ferroq.Gateway.OneBotV11 (parseSegment parseMessageSegments)

def v12Segment (segType : String) (data : List (String × Json)) : Json :=
  .ofFields [("type", .string segType), ("data", .ofFields data)]

def v12FileSegment (segType file : String) (url : Option String) : Json :=
  v12Segment segType
    (("file_id", .string file) :: (url.map fun url => ("url", Json.string url)).toList)

def segmentToV12 : MessageSegment → Json
  | .text text => v12Segment "text" [("text", .string text)]
  | .image file url => v12FileSegment "image" file url
  | .at qq => v12Segment "mention" [("user_id", .string qq)]
  | .face id => v12Segment "qq.face" [("id", .string id)]
  | .reply id => v12Segment "reply" [("message_id", .string id)]
  | .record file url => v12FileSegment "voice" file url
  | .video file url => v12FileSegment "video" file url
  | .forward id => v12Segment "qq.forward" [("id", .string id)]
  | .json data => v12Segment "qq.json" [("data", .string data)]
  | .xml data => v12Segment "qq.xml" [("data", .string data)]
  | .poke pokeType id => v12Segment "qq.poke" [("type", .string pokeType), ("id", .string id)]
  | .unknown => v12Segment "unknown" []

def segmentsToV12 (segments : List MessageSegment) : Json :=
  .array (segments.map segmentToV12)

/-- The v12 form of a segment is read as the same segment. -/
def Survives : MessageSegment → Prop
  | .text _ => True
  | .image file _ => file = ""
  | .video file _ => file = ""
  | .reply id => id = ""
  | _ => False

theorem parseSegment_v12Segment (segType : String) (data : List (String × Json)) :
    parseSegment (v12Segment segType data) =
      OneBotV11.parseSingleSegment segType (.ofFields data) := by
  simp [parseSegment, v12Segment, Json.get_ofFields, List.lookup_cons, Json.asStr]

theorem parseSegment_v12FileSegment (segType file : String) (url : Option String)
    (build : String → Option String → MessageSegment)
    (reads : ∀ data, OneBotV11.parseSingleSegment segType data =
      some (build (OneBotV11.textField "file" data) (OneBotV11.optionalText "url" data))) :
    parseSegment (v12FileSegment segType file url) = some (build "" url) := by
  rw [v12FileSegment, parseSegment_v12Segment, reads]
  cases url with
  | none =>
      simp [OneBotV11.textField, OneBotV11.optionalText, Json.get_ofFields, List.lookup_cons]
  | some url =>
      simp [OneBotV11.textField, OneBotV11.optionalText, Json.get_ofFields, List.lookup_cons,
        Json.asStr]

theorem parseSegment_segmentToV12_iff (segment : MessageSegment) :
    parseSegment (segmentToV12 segment) = some segment ↔ Survives segment := by
  cases segment with
  | text text =>
      simp [segmentToV12, parseSegment_v12Segment, OneBotV11.parseSingleSegment, Survives,
        Json.get_ofFields, Json.asStr]
  | image file url =>
      rw [segmentToV12, parseSegment_v12FileSegment _ _ _ .image fun _ => rfl]
      simp [Survives, eq_comm]
  | video file url =>
      rw [segmentToV12, parseSegment_v12FileSegment _ _ _ .video fun _ => rfl]
      simp [Survives, eq_comm]
  | reply id =>
      -- The reader looks for the identifier under another key.
      simp [segmentToV12, parseSegment_v12Segment, OneBotV11.parseSingleSegment, Survives,
        OneBotV11.idField, Json.get_ofFields, List.lookup_cons, eq_comm]
  | record file url =>
      simp [segmentToV12, v12FileSegment, parseSegment_v12Segment, Survives,
        OneBotV11.parseSingleSegment]
  | «at» _ | face _ | forward _ | json _ | xml _ | poke _ _ | unknown =>
      simp [segmentToV12, parseSegment_v12Segment, Survives, OneBotV11.parseSingleSegment]

theorem get_message_translateV12Action {params message : Json}
    (present : params.get "message" = some message) :
    (translateV12Action "send_message" params).2.get "message" = some message := by
  simp [translateV12Action, present, Json.get_ofFields]

theorem parseMessageSegments_sentBack {segments : List MessageSegment} {params : Json}
    (message : params.get "message" = some (segmentsToV12 segments)) :
    parseMessageSegments (translateV12Action "send_message" params).2 =
      segments.filterMap fun segment => parseSegment (segmentToV12 segment) := by
  rw [parseMessageSegments, get_message_translateV12Action message]
  simp [segmentsToV12, Json.asArray, List.filterMap_map]

/-- A client that sends back a message it has received has it read unchanged
exactly when all its segments survive. -/
theorem parseMessageSegments_translateV12Action_iff (segments : List MessageSegment)
    {params : Json} (message : params.get "message" = some (segmentsToV12 segments)) :
    parseMessageSegments (translateV12Action "send_message" params).2 = segments ↔
      ∀ segment ∈ segments, Survives segment := by
  have unchanged := List.filterMap_eq_map_iff_forall_eq_some (l := segments) (g := id)
    (f := fun segment => parseSegment (segmentToV12 segment))
  rw [parseMessageSegments_sentBack message]
  simpa [parseSegment_segmentToV12_iff] using unchanged

theorem parseMessageSegments_translateV12Action_iff_text :
    parseMessageSegments (translateV12Action "send_message"
        (.ofFields [("message", segmentsToV12 [.text "hi", .image "" (some "http://a")])])).2 =
      [.text "hi", .image "" (some "http://a")] ↔
    ∀ segment ∈ [MessageSegment.text "hi", .image "" (some "http://a")], Survives segment :=
  parseMessageSegments_translateV12Action_iff _ (by simp [Json.get_ofFields])

/-- A mention is dropped, and the file of an image is lost. -/
theorem mentionSentBack_dropped :
    parseMessageSegments (translateV12Action "send_message"
        (.ofFields [("message", segmentsToV12 [.at "123", .image "a.jpg" none])])).2 =
      [.image "" none] := by
  have dropped : parseSegment (segmentToV12 (.at "123")) = none := by
    simp [segmentToV12, parseSegment_v12Segment, OneBotV11.parseSingleSegment]
  have emptied : parseSegment (segmentToV12 (.image "a.jpg" none)) = some (.image "" none) :=
    parseSegment_v12FileSegment _ _ _ .image fun _ => rfl
  have message : (Json.ofFields
      [("message", segmentsToV12 [.at "123", .image "a.jpg" none])]).get "message" =
        some (segmentsToV12 [.at "123", .image "a.jpg" none]) := by
    simp [Json.get_ofFields]
  rw [parseMessageSegments_sentBack message]
  simp [dropped, emptied]

end Ferroq.Gateway.OneBotV12
