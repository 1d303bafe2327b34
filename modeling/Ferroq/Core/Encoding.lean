import Ferroq.Core.Event

/-!
# The derived encoding of events

Events are written as one object: the kind of the event, the fields of its
record and, for the kinds that keep further fields in one value, the fields of
that value, all side by side.  The texts of identifiers and moments come from
other libraries and are parameters.
-/

namespace Ferroq.Core

open Serde

structure TextFormats where
  printUuid : Uuid → String
  parseUuid : String → Option Uuid
  printTime : DateTime → String
  parseTime : String → Option DateTime

namespace MessageSegment

def ofTagged (segType : String) (data : Option Json) : Option MessageSegment :=
  let text (key : String) := (data.bind readFields).bind (requiredField key readText)
  let file (build : String → Option String → MessageSegment) :=
    (text "file").bind fun file =>
      ((data.bind readFields).bind (nullableField "url" readText)).map (build file)
  if segType = "text" then (text "text").map .text
  else if segType = "image" then file .image
  else if segType = "at" then (text "qq").map .at
  else if segType = "face" then (text "id").map .face
  else if segType = "reply" then (text "id").map .reply
  else if segType = "record" then file .record
  else if segType = "video" then file .video
  else if segType = "forward" then (text "id").map .forward
  else if segType = "json" then (text "data").map .json
  else if segType = "xml" then (text "data").map .xml
  else if segType = "poke" then (text "type").bind fun pokeType => (text "id").map (.poke pokeType)
  else
    match data with
    | none => some .unknown
    | some .null => some .unknown
    | _ => none

def deserialize (document : Json) : Option MessageSegment :=
  (readFields document).bind fun fields =>
    (requiredField "type" readText fields).bind fun segType =>
      (sole (values "data" fields)).bind (ofTagged segType)

theorem deserialize_serialize (segment : MessageSegment) :
    deserialize (segment.serialize .object) = some segment := by
  cases segment with
  | image file url | record file url | video file url =>
      have address : nullableField "url" readText
          (("file", .string file) :: optionalField "url" (url.map .string)) = some url :=
        nullableField_text (by simp)
      simp [serialize, taggedFile, tagged, deserialize, readFields, requiredField, ofTagged,
        address]
  | text _ | «at» _ | face _ | reply _ | forward _ | json _ | xml _ | poke _ _ | unknown =>
      simp [serialize, tagged, deserialize, readFields, requiredField, ofTagged]

end MessageSegment

namespace Sender

def deserialize (document : Json) : Option Sender :=
  (readFields document).bind fun fields => do
    let userId ← requiredField "user_id" readI64 fields
    let nickname ← requiredField "nickname" readText fields
    let card ← nullableField "card" readText fields
    let sex ← nullableField "sex" readText fields
    let age ← nullableField "age" readI32 fields
    let area ← nullableField "area" readText fields
    let level ← nullableField "level" readText fields
    let role ← nullableField "role" readText fields
    let title ← nullableField "title" readText fields
    some
      { userId := userId, nickname := nickname, card := card, sex := sex, age := age, area := area,
        level := level, role := role, title := title }

theorem deserialize_fields (sender : Sender) :
    deserialize (.object sender.fields) = some sender := by
  have age : nullableField "age" readI32 sender.fields = some sender.age :=
    nullableField_map .integer32 readI32_integer32 integer32_ne_null (by simp [fields])
  have card : nullableField "card" readText sender.fields = some sender.card :=
    nullableField_text (by simp [fields])
  have sex : nullableField "sex" readText sender.fields = some sender.sex :=
    nullableField_text (by simp [fields])
  have area : nullableField "area" readText sender.fields = some sender.area :=
    nullableField_text (by simp [fields])
  have level : nullableField "level" readText sender.fields = some sender.level :=
    nullableField_text (by simp [fields])
  have role : nullableField "role" readText sender.fields = some sender.role :=
    nullableField_text (by simp [fields])
  have title : nullableField "title" readText sender.fields = some sender.title :=
    nullableField_text (by simp [fields])
  have userId : requiredField "user_id" readI64 sender.fields = some sender.userId := by
    simp [fields, requiredField]
  have nickname : requiredField "nickname" readText sender.fields = some sender.nickname := by
    simp [fields, requiredField]
  simp [deserialize, readFields, userId, nickname, card, sex, age, area, level, role, title]

end Sender

namespace Serde

section

variable (formats : TextFormats)

def writeUuid (id : Uuid) : Json := .string (formats.printUuid id)

def writeTime (time : DateTime) : Json := .string (formats.printTime time)

def readUuid (value : Json) : Option Uuid := value.asStr.bind formats.parseUuid

def readTime (value : Json) : Option DateTime := value.asStr.bind formats.parseTime

end

/-- The variant of an enumeration without data, given by its name alone or with
an empty value. -/
def readVariant : Json → Option String
  | .string name => some name
  | .object [(name, .null)] => some name
  | _ => none

def readMessageType (value : Json) : Option MessageType :=
  (readVariant value).bind fun name =>
    if name = "private" then some .privateChat
    else if name = "group" then some .group
    else none

@[simp]
theorem readMessageType_toText (messageType : MessageType) :
    readMessageType (.string messageType.toText) = some messageType := by
  cases messageType <;> rfl

/-- An integer or null. -/
def nullableInteger : Option Int64 → Json
  | some value => .integer value
  | none => .null

theorem nullableField_integer {key : String} {value : Option Int64}
    {fields : List (String × Json)} (written : values key fields = [nullableInteger value]) :
    nullableField key readI64 fields = some value := by
  rw [nullableField, written]
  cases value with
  | none => rfl
  | some value =>
      change nullable readI64 (some (.integer value)) = _
      rw [nullable_of_ne_null Json.noConfusion, readI64_integer]
      rfl

end Serde

namespace MessageEvent

variable (formats : TextFormats)

def fields (event : MessageEvent) : List (String × Json) :=
  [("id", writeUuid formats event.id),
    ("time", writeTime formats event.time),
    ("self_id", .integer event.selfId),
    ("message_type", .string event.messageType.toText),
    ("sub_type", .string event.subType),
    ("message_id", .integer event.messageId),
    ("user_id", .integer event.userId),
    ("group_id", nullableInteger event.groupId),
    ("message", .array (event.message.map (MessageSegment.serialize .object))),
    ("raw_message", .string event.rawMessage),
    ("sender", .object event.sender.fields),
    ("font", .integer32 event.font)]

def ofFields (fields : List (String × Json)) : Option MessageEvent := do
  let id ← requiredField "id" (readUuid formats) fields
  let time ← requiredField "time" (readTime formats) fields
  let selfId ← requiredField "self_id" readI64 fields
  let messageType ← requiredField "message_type" readMessageType fields
  let subType ← requiredField "sub_type" readText fields
  let messageId ← requiredField "message_id" readI64 fields
  let userId ← requiredField "user_id" readI64 fields
  let groupId ← nullableField "group_id" readI64 fields
  let message ← requiredField "message" (readArray MessageSegment.deserialize) fields
  let rawMessage ← requiredField "raw_message" readText fields
  let sender ← requiredField "sender" Sender.deserialize fields
  let font ← requiredField "font" readI32 fields
  some
    { id := id, time := time, selfId := selfId, messageType := messageType, subType := subType,
      messageId := messageId, userId := userId, groupId := groupId, message := message,
      rawMessage := rawMessage, sender := sender, font := font }

theorem ofFields_fields (event : MessageEvent)
    (idRead : formats.parseUuid (formats.printUuid event.id) = some event.id)
    (timeRead : formats.parseTime (formats.printTime event.time) = some event.time) :
    ofFields formats (event.fields formats) = some event := by
  have id : requiredField "id" (readUuid formats) (event.fields formats) = some event.id := by
    simp [fields, requiredField, readUuid, writeUuid, idRead]
  have time : requiredField "time" (readTime formats) (event.fields formats) = some event.time := by
    simp [fields, requiredField, readTime, writeTime, timeRead]
  have groupId : nullableField "group_id" readI64 (event.fields formats) = some event.groupId :=
    nullableField_integer (by simp [fields])
  have message : requiredField "message" (readArray MessageSegment.deserialize)
      (event.fields formats) = some event.message := by
    simp [fields, requiredField, readArray_map MessageSegment.deserialize_serialize]
  have sender : requiredField "sender" Sender.deserialize (event.fields formats) =
      some event.sender := by
    simp [fields, requiredField, Sender.deserialize_fields]
  simp only [ofFields, id, time, groupId, message, sender]
  simp [fields, requiredField]

end MessageEvent

/-- The fields of a value that is written among those of its record. -/
def flattened : Json → Except String (List (String × Json))
  | .object fields => .ok fields
  | .null => .ok []
  | _ => .error "can only flatten structs and maps"

namespace Event

variable (formats : TextFormats)

/-- The fields that events of the kinds with further fields declare. -/
def recordFields (kindKey kind subType : String) (id : Uuid) (time : DateTime) (selfId : Int64) :
    List (String × Json) :=
  [("id", writeUuid formats id),
    ("time", writeTime formats time),
    ("self_id", .integer selfId),
    (kindKey, .string kind),
    ("sub_type", .string subType)]

def serializeRecord (postType : String) (fields : List (String × Json)) (extra : Json) :
    Except String Json :=
  (flattened extra).map fun extra => .object (("post_type", .string postType) :: (fields ++ extra))

def serialize : Event → Except String Json
  | .message event => .ok (.object (("post_type", .string "message") :: event.fields formats))
  | .notice event =>
      serializeRecord "notice"
        (recordFields formats "notice_type" event.noticeType event.subType event.id event.time
          event.selfId) event.extra
  | .request event =>
      serializeRecord "request"
        (recordFields formats "request_type" event.requestType event.subType event.id event.time
          event.selfId) event.extra
  | .metaEvent event =>
      serializeRecord "meta_event"
        (recordFields formats "meta_event_type" event.metaEventType event.subType event.id
          event.time event.selfId) event.extra

/-- A record from its fields; those it does not declare are kept in one value. -/
def ofRecordFields (kindKey : String)
    (build : String → String → Uuid → DateTime → Int64 → Json → Event)
    (fields : List (String × Json)) : Option Event := do
  let id ← requiredField "id" (readUuid formats) fields
  let time ← requiredField "time" (readTime formats) fields
  let selfId ← requiredField "self_id" readI64 fields
  let kind ← requiredField kindKey readText fields
  let subType ← requiredField "sub_type" readText fields
  let extra := fields.filter fun field =>
    decide (field.1 ∉ ["id", "time", "self_id", kindKey, "sub_type"])
  some (build kind subType id time selfId (.ofFields extra))

def ofTagged (postType : String) (fields : List (String × Json)) : Option Event :=
  if postType = "message" then (MessageEvent.ofFields formats fields).map .message
  else if postType = "notice" then
    ofRecordFields formats "notice_type"
      (fun kind subType id time selfId extra => .notice ⟨id, time, selfId, kind, subType, extra⟩)
      fields
  else if postType = "request" then
    ofRecordFields formats "request_type"
      (fun kind subType id time selfId extra => .request ⟨id, time, selfId, kind, subType, extra⟩)
      fields
  else if postType = "meta_event" then
    ofRecordFields formats "meta_event_type"
      (fun kind subType id time selfId extra =>
        .metaEvent ⟨id, time, selfId, kind, subType, extra⟩)
      fields
  else none

def deserialize (document : Json) : Option Event :=
  (readFields document).bind fun fields =>
    (requiredField "post_type" readText fields).bind fun postType =>
      ofTagged formats postType (fields.filter fun field => decide (field.1 ≠ "post_type"))

theorem deserialize_message (event : MessageEvent)
    (idRead : formats.parseUuid (formats.printUuid event.id) = some event.id)
    (timeRead : formats.parseTime (formats.printTime event.time) = some event.time) :
    deserialize formats
      (.object (("post_type", .string "message") :: event.fields formats)) =
        some (.message event) := by
  have written := MessageEvent.ofFields_fields formats event idRead timeRead
  have tag : requiredField "post_type" readText
      (("post_type", .string "message") :: event.fields formats) = some "message" := by
    simp [requiredField, MessageEvent.fields]
  have rest : (("post_type", Json.string "message") :: event.fields formats).filter
      (fun field => decide (field.1 ≠ "post_type")) = event.fields formats := by
    simp [MessageEvent.fields]
  simp only [deserialize, readFields, Option.bind_some, tag, rest, ofTagged, if_true, written,
    Option.map_some]

theorem deserialize_of_repeated {fields : List (String × Json)} {postType : String} {held : Json}
    (repeated : held ∈ values "post_type" fields) :
    deserialize formats (.object (("post_type", .string postType) :: fields)) = none := by
  have written : values "post_type" [("post_type", .string postType)] = [.string postType] := by
    simp
  have refused : requiredField "post_type" readText (("post_type", .string postType) :: fields) =
      none := requiredField_of_repeated written repeated
  simp only [deserialize, readFields, Option.bind_some, refused, Option.bind_none]

end Event

end Ferroq.Core
