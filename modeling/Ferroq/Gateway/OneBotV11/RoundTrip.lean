import Ferroq.Gateway.OneBotV11

/-!
# The round trip of v11 events

A message event that is written for upstream clients is read back as the same
event, with a new identifier and without the fraction of its second.  An event of
another kind keeps the raw object that it was read from, and is written as that
object again.
-/

namespace Ferroq.Gateway.OneBotV11

open Ferroq.Core

theorem parseSegment_tagged (segType : String) (data : List (String × Json)) :
    parseSegment (MessageSegment.tagged .ofFields segType data) =
      parseSingleSegment segType (.ofFields data) := by
  simp [parseSegment, MessageSegment.tagged, Json.get_ofFields, List.lookup_cons]

theorem fields_taggedFile (file : String) (url : Option String) :
    let data := Json.ofFields (("file", .string file) :: optionalField "url" (url.map .string))
    textField "file" data = file ∧ optionalText "url" data = url := by
  constructor
  · simp [textField, Json.get_ofFields]
  · cases url with
    | none => simp [optionalText, Json.get_ofFields, List.lookup_cons]
    | some url => simp [optionalText, Json.get_ofFields]

theorem parseSegment_toJson {segment : MessageSegment} (known : segment ≠ .unknown) :
    parseSegment segment.toJson = some segment := by
  cases segment with
  | unknown => exact absurd rfl known
  | image file url | record file url | video file url =>
      obtain ⟨fileRead, urlRead⟩ := fields_taggedFile file url
      rw [MessageSegment.toJson, MessageSegment.serialize, MessageSegment.taggedFile,
        parseSegment_tagged]
      simp [parseSingleSegment, fileRead, urlRead]
  | poke pokeType id =>
      simp [MessageSegment.toJson, MessageSegment.serialize, parseSegment_tagged,
        parseSingleSegment, textField, Json.get_ofFields, List.lookup_cons]
  | text _ | «at» _ | face _ | reply _ | forward _ | json _ | xml _ =>
      simp [MessageSegment.toJson, MessageSegment.serialize, parseSegment_tagged,
        parseSingleSegment, textField, idField, Json.get_ofFields]

theorem parseSender_fields (sender : Sender) {raw : Json}
    (present : raw.get "sender" = some (.ofFields sender.fields)) : parseSender raw = sender := by
  obtain ⟨userId, nickname, card, sex, age, area, level, role, title⟩ := sender
  cases age <;> simp [parseSender, present, Sender.fields, textField, optionalText, integerOr,
    Json.get_ofFields, List.lookup_cons]

theorem parseMessageSegments_map {segments : List MessageSegment} {raw : Json}
    (known : ∀ segment ∈ segments, segment ≠ .unknown)
    (present : raw.get "message" = some (.array (segments.map MessageSegment.toJson))) :
    parseMessageSegments raw = segments := by
  have unchanged := List.filterMap_eq_map_iff_forall_eq_some (l := segments) (g := id)
    (f := fun segment => parseSegment (MessageSegment.toJson segment))
  rw [parseMessageSegments, present]
  simpa [List.filterMap_map, Function.comp_def] using
    unchanged.mpr fun segment listed => parseSegment_toJson (known segment listed)

theorem parseMessageType_messageFields (event : MessageEvent) :
    parseMessageType (.ofFields (messageFields event)) = event.messageType := by
  cases kind : event.messageType with
  | privateChat =>
      simp [parseMessageType, optionalText, messageFields, Json.get_ofFields, List.lookup_cons,
        kind, MessageType.toText]
  | group =>
      simp [parseMessageType, optionalText, messageFields, Json.get_ofFields, List.lookup_cons,
        kind, MessageType.toText]

theorem groupId_messageFields (event : MessageEvent) :
    ((Json.ofFields (messageFields event)).get "group_id").bind Json.asI64 = event.groupId := by
  cases kind : event.groupId with
  | none => simp [messageFields, Json.get_ofFields, List.lookup_cons, kind]
  | some group => simp [messageFields, Json.get_ofFields, kind]

/-- A message event that was written for upstream clients is read back. -/
theorem parseEvent_eventToJson (now : DateTime) (fresh : Uuid) (event : MessageEvent)
    (known : ∀ segment ∈ event.message, segment ≠ .unknown) :
    parseEvent now fresh (eventToJson (.message event)) =
      .ok (.message { event with id := fresh, time := event.time.truncated }) := by
  have segments : parseMessageSegments (.ofFields (messageFields event)) = event.message :=
    parseMessageSegments_map known
      (by simp [messageFields, Json.get_ofFields, List.lookup_cons])
  have sender : parseSender (.ofFields (messageFields event)) = event.sender :=
    parseSender_fields event.sender (by simp [messageFields, Json.get_ofFields])
  have messageType := parseMessageType_messageFields event
  have groupId := groupId_messageFields event
  simp only [parseEvent, eventToJson, parseMessageEvent, segments, sender, messageType, groupId]
  simp [messageFields, parseTime, integerOr, textField, Json.get_ofFields, List.lookup_cons]

def halfPast : DateTime :=
  ⟨1700000000, 500000000, by decide, by decide, fun leap => absurd leap (by decide)⟩

def picture : MessageEvent :=
  { id := ⟨1⟩
    time := halfPast
    selfId := 100
    messageType := .group
    subType := "normal"
    messageId := -5
    userId := 42
    groupId := some 7
    message := [.at "123", .image "a.jpg" (some "http://a")]
    rawMessage := "[CQ:at,qq=123]"
    sender := { userId := 42, nickname := "u", card := some "c", sex := none, age := some 30,
                area := none, level := none, role := some "owner", title := none }
    font := 0 }

theorem parseEvent_eventToJson_picture :
    parseEvent halfPast ⟨2⟩ (eventToJson (.message picture)) =
      .ok (.message { picture with id := ⟨2⟩, time := halfPast.truncated }) :=
  parseEvent_eventToJson halfPast ⟨2⟩ picture (by simp [picture])

section Kept

variable {now : DateTime} {fresh : Uuid} {raw : Json} {event : Event}

theorem parseTime_of_given {seconds : Int64} {moment : DateTime}
    (given : (raw.get "time").bind Json.asI64 = some seconds)
    (inRange : DateTime.timestampOpt seconds = some moment) :
    (parseTime now raw).timestamp = seconds := by
  rw [parseTime, given, Option.bind_some, inRange, Option.getD_some]
  unfold DateTime.timestampOpt at inRange
  split at inRange
  next => cases inRange; rfl
  next => cases inRange

theorem get_of_integer {key : String} {value : Int64}
    (given : (raw.get key).bind Json.asI64 = some value) :
    raw.get key = some (.integer value) := by
  obtain ⟨held, present, read⟩ := Option.bind_eq_some_iff.mp given
  rw [present, Json.eq_integer read]

theorem get_restored {postType : String} {time : DateTime} {selfId : Int64}
    (kind : raw.get "post_type" = some (.string postType))
    (timed : raw.get "time" = some (.integer time.timestamp))
    (account : raw.get "self_id" = some (.integer selfId)) (key : String) :
    (restored postType time selfId raw).get key = raw.get key := by
  have first := Json.get_setField kind "post_type"
  have second := Json.get_setField (first "post_type" (.string postType)) "time"
  have third := Json.get_setField
    (second "time" (.integer time.timestamp)) "self_id" key (.integer selfId)
  rw [restored, third, second, first]
  split
  next same => rw [same, account]
  next =>
    split
    next same => rw [same, timed]
    next =>
      split
      next same => rw [same, kind]
      next => rfl

/-- A notice, a request or a meta event is written as it was read, key by key. -/
theorem eventToJson_parseEvent {postType : String} {selfId seconds : Int64} {moment : DateTime}
    (kind : raw.get "post_type" = some (.string postType))
    (kept : postType ∈ ["notice", "request", "meta_event"])
    (accepted : parseEvent now fresh raw = .ok event)
    (account : (raw.get "self_id").bind Json.asI64 = some selfId)
    (timed : (raw.get "time").bind Json.asI64 = some seconds)
    (inRange : DateTime.timestampOpt seconds = some moment) (key : String) :
    (eventToJson event).get key = raw.get key := by
  have time : raw.get "time" = some (.integer (parseTime now raw).timestamp) := by
    rw [parseTime_of_given timed inRange, get_of_integer timed]
  have self : raw.get "self_id" = some (.integer (integerOr "self_id" 0 raw)) := by
    rw [integerOr, account, get_of_integer account, Option.getD_some]
  obtain ⟨found, foundKind, cases⟩ := parseEvent_cases accepted
  rw [kind] at foundKind
  cases foundKind
  rcases cases with ⟨message, rfl⟩ | ⟨rfl, rfl⟩ | ⟨rfl, rfl⟩ | ⟨rfl, rfl⟩
  · rcases message with rfl | rfl <;> simp at kept
  · exact get_restored kind time self key
  · exact get_restored kind time self key
  · exact get_restored kind time self key

/-- A recall before 1970, with a list in it that the gateway does not know. -/
def recallNotice : Json :=
  .object [("operators", .array [.null, .object [("id", .number (.float "1.5"))]]),
    ("post_type", .string "notice"), ("self_id", .integer (-9)), ("time", .integer (-1))]

theorem eventToJson_parseEvent_recall :
    let event := Event.notice
      (parseNoticeEvent ⟨2⟩ recallNotice (-9) (parseTime halfPast recallNotice))
    (eventToJson event).get "operators" = recallNotice.get "operators" := by
  intro event
  have accepted : parseEvent halfPast ⟨2⟩ recallNotice = .ok event := rfl
  exact eventToJson_parseEvent rfl (by decide) accepted rfl rfl rfl "operators"

/-- A number that only fits without a sign is no account, and is written as zero. -/
theorem unsignedAccount_zeroed :
    ∃ raw event, raw.get "post_type" = some (.string "notice") ∧
      raw.get "self_id" = some (.number (.posInt 9223372036854775808)) ∧
      raw.get "time" = some (.integer 1700000000) ∧
      parseEvent halfPast ⟨2⟩ raw = .ok event ∧
      (eventToJson event).get "self_id" = some (.integer 0) := by
  refine ⟨.object [("post_type", .string "notice"),
    ("self_id", .number (.posInt 9223372036854775808)), ("time", .integer 1700000000)],
    _, rfl, rfl, rfl, rfl, rfl⟩

end Kept

end Ferroq.Gateway.OneBotV11
