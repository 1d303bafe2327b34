import Ferroq.Core.Api
import Ferroq.Core.Event

/-!
# OneBot v11 events

Events are read from the raw objects of a backend field by field, with a default
for every field but the kind of the event, and are written back for upstream
clients.  A fresh identifier and the current time are given from outside.
-/

namespace Ferroq.Gateway.OneBotV11

open Ferroq.Core

def textField (key : String) (data : Json) : String := ((data.get key).bind Json.asStr).getD ""

def optionalText (key : String) (data : Json) : Option String := (data.get key).bind Json.asStr

def integerOr (key : String) (default : Int64) (data : Json) : Int64 :=
  ((data.get key).bind Json.asI64).getD default

/-- The text of an identifier that may be a number. -/
def idField (key : String) (data : Json) : String :=
  match data.get key with
  | some (.string id) => id
  | some (.number id) => id.toText
  | some _ => "0"
  | none => ""

/-- A segment of a known kind; other kinds are dropped. -/
def parseSingleSegment (segType : String) (data : Json) : Option MessageSegment :=
  if segType = "text" then ((data.get "text").bind Json.asStr).map .text
  else if segType = "image" then some (.image (textField "file" data) (optionalText "url" data))
  else if segType = "at" then some (.at (idField "qq" data))
  else if segType = "face" then some (.face (idField "id" data))
  else if segType = "reply" then some (.reply (idField "id" data))
  else if segType = "record" then some (.record (textField "file" data) (optionalText "url" data))
  else if segType = "video" then some (.video (textField "file" data) (optionalText "url" data))
  else if segType = "forward" then some (.forward (textField "id" data))
  else if segType = "json" then some (.json (textField "data" data))
  else if segType = "xml" then some (.xml (textField "data" data))
  else if segType = "poke" then some (.poke (textField "type" data) (textField "id" data))
  else none

def parseSegment (segment : Json) : Option MessageSegment :=
  ((segment.get "type").bind Json.asStr).bind fun segType =>
    parseSingleSegment segType ((segment.get "data").getD .null)

/-- The segments of a message; a message in text form is one text. -/
def parseMessageSegments (raw : Json) : List MessageSegment :=
  match (raw.get "message").bind Json.asArray with
  | some items => items.filterMap parseSegment
  | none =>
      match (raw.get "message").bind Json.asStr with
      | some text => [.text text]
      | none => []

def parseSender (raw : Json) : Sender :=
  let sender := (raw.get "sender").getD .null
  { userId := integerOr "user_id" 0 sender
    nickname := textField "nickname" sender
    card := optionalText "card" sender
    sex := optionalText "sex" sender
    age := ((sender.get "age").bind Json.asI64).map Int64.toInt32
    area := optionalText "area" sender
    level := optionalText "level" sender
    role := optionalText "role" sender
    title := optionalText "title" sender }

/-- The time of an event, or the current one. -/
def parseTime (now : DateTime) (raw : Json) : DateTime :=
  (((raw.get "time").bind Json.asI64).bind DateTime.timestampOpt).getD now

def parseMessageType (raw : Json) : MessageType :=
  if (optionalText "message_type" raw).getD "private" = "group" then .group else .privateChat

def parseMessageEvent (fresh : Uuid) (raw : Json) (selfId : Int64) (time : DateTime) :
    MessageEvent :=
  { id := fresh
    time := time
    selfId := selfId
    messageType := parseMessageType raw
    subType := textField "sub_type" raw
    messageId := integerOr "message_id" 0 raw
    userId := integerOr "user_id" 0 raw
    groupId := (raw.get "group_id").bind Json.asI64
    message := parseMessageSegments raw
    rawMessage := textField "raw_message" raw
    sender := parseSender raw
    font := (integerOr "font" 0 raw).toInt32 }

def parseNoticeEvent (fresh : Uuid) (raw : Json) (selfId : Int64) (time : DateTime) :
    NoticeEvent :=
  { id := fresh
    time := time
    selfId := selfId
    noticeType := textField "notice_type" raw
    subType := textField "sub_type" raw
    extra := raw }

def parseRequestEvent (fresh : Uuid) (raw : Json) (selfId : Int64) (time : DateTime) :
    RequestEvent :=
  { id := fresh
    time := time
    selfId := selfId
    requestType := textField "request_type" raw
    subType := textField "sub_type" raw
    extra := raw }

def parseMetaEvent (fresh : Uuid) (raw : Json) (selfId : Int64) (time : DateTime) :
    MetaEvent :=
  { id := fresh
    time := time
    selfId := selfId
    metaEventType := textField "meta_event_type" raw
    subType := textField "sub_type" raw
    extra := raw }

def missingPostType : GatewayError := .internal "missing post_type"

def unknownPostType (other : String) : GatewayError := .internal s!"unknown post_type: {other}"

def parseEvent (now : DateTime) (fresh : Uuid) (raw : Json) : Except GatewayError Event :=
  match (raw.get "post_type").bind Json.asStr with
  | none => .error missingPostType
  | some postType =>
      let selfId := integerOr "self_id" 0 raw
      let time := parseTime now raw
      if postType = "message" ∨ postType = "message_sent" then
        .ok (.message (parseMessageEvent fresh raw selfId time))
      else if postType = "notice" then .ok (.notice (parseNoticeEvent fresh raw selfId time))
      else if postType = "request" then .ok (.request (parseRequestEvent fresh raw selfId time))
      else if postType = "meta_event" then .ok (.metaEvent (parseMetaEvent fresh raw selfId time))
      else .error (unknownPostType postType)

theorem parseEvent_cases {now : DateTime} {fresh : Uuid} {raw : Json} {event : Event}
    (accepted : parseEvent now fresh raw = .ok event) :
    let selfId := integerOr "self_id" 0 raw
    let time := parseTime now raw
    ∃ postType, raw.get "post_type" = some (.string postType) ∧
      ((postType = "message" ∨ postType = "message_sent") ∧
          event = .message (parseMessageEvent fresh raw selfId time) ∨
        postType = "notice" ∧ event = .notice (parseNoticeEvent fresh raw selfId time) ∨
        postType = "request" ∧ event = .request (parseRequestEvent fresh raw selfId time) ∨
        postType = "meta_event" ∧ event = .metaEvent (parseMetaEvent fresh raw selfId time)) := by
  unfold parseEvent at accepted
  cases found : raw.get "post_type" with
  | none => simp [found] at accepted
  | some kind =>
      cases kind with
      | string postType =>
          simp only [found, Option.bind_some, Json.asStr_string] at accepted
          refine ⟨postType, rfl, ?_⟩
          split at accepted
          next message => cases accepted; exact Or.inl ⟨message, rfl⟩
          next =>
            split at accepted
            next notice => cases accepted; exact Or.inr (Or.inl ⟨notice, rfl⟩)
            next =>
              split at accepted
              next request => cases accepted; exact Or.inr (Or.inr (Or.inl ⟨request, rfl⟩))
              next =>
                split at accepted
                next metaEvent =>
                  cases accepted
                  exact Or.inr (Or.inr (Or.inr ⟨metaEvent, rfl⟩))
                next => cases accepted
      | null | bool _ | number _ | array _ | object _ => simp [found, Json.asStr] at accepted

/-- The fields of a message event; an absent group is left out. -/
def messageFields (event : MessageEvent) : List (String × Json) :=
  [("post_type", .string "message"),
    ("message_type", .string event.messageType.toText),
    ("sub_type", .string event.subType),
    ("time", .integer event.time.timestamp),
    ("self_id", .integer event.selfId),
    ("message_id", .integer event.messageId),
    ("user_id", .integer event.userId),
    ("message", .array (event.message.map MessageSegment.toJson)),
    ("raw_message", .string event.rawMessage),
    ("font", .integer32 event.font),
    ("sender", .ofFields event.sender.fields)] ++
    optionalField "group_id" (event.groupId.map .integer)

/-- The raw object of an event that is kept whole, with the fields that the
gateway has settled. -/
def restored (postType : String) (time : DateTime) (selfId : Int64) (extra : Json) : Json :=
  ((extra.setField "post_type" (.string postType)).setField "time"
    (.integer time.timestamp)).setField "self_id" (.integer selfId)

def eventToJson : Event → Json
  | .message event => .ofFields (messageFields event)
  | .notice event => restored "notice" event.time event.selfId event.extra
  | .request event => restored "request" event.time event.selfId event.extra
  | .metaEvent event => restored "meta_event" event.time event.selfId event.extra

end Ferroq.Gateway.OneBotV11
