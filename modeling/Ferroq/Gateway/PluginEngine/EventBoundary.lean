import Ferroq.Core.Encoding
import Ferroq.Gateway.OneBotV11.RoundTrip
import Ferroq.Gateway.PluginEngine

/-!
# Events at the plugin boundary

A plugin receives an event in its derived encoding and hands back one in the
same encoding.  A notice, a request or a meta event keeps the whole raw object,
with the kind of the event in it, so its document names the kind twice and is
refused when it comes back.
-/

namespace Ferroq.Gateway.PluginEngine

open Ferroq.Core
open Ferroq.Core.Serde
open Ferroq.Gateway.OneBotV11

section

variable (formats : TextFormats) (print : Json → List UInt8)
  (parse : List UInt8 → Except String Json) (rounded : String → String)

def eventCodec : Codec Event where
  toBytes event := (event.serialize formats).map print
  fromSlice bytes :=
    (parse bytes).bind fun document =>
      match Event.deserialize formats document with
      | some event => .ok event
      | none => .error "failed to parse modified event"

/-- A value that is read back from what is written for it. -/
def Survives (codec : Codec Value) (value : Value) : Prop :=
  ∃ bytes, codec.toBytes value = .ok bytes ∧ codec.fromSlice bytes = .ok value

/-- The kinds of raw objects that become message events. -/
def IsMessage (raw : Json) : Prop :=
  raw.get "post_type" = some (.string "message") ∨
    raw.get "post_type" = some (.string "message_sent")

theorem fromSlice_of_refused {bytes : List UInt8} {document : Json}
    (parsed : parse bytes = .ok document) (refused : Event.deserialize formats document = none) :
    (eventCodec formats print parse).fromSlice bytes =
      .error "failed to parse modified event" := by
  simp [eventCodec, parsed, Except.bind, refused]

theorem survives_iff {event : Event} {document : Json}
    (written : event.serialize formats = .ok document)
    (text : parse (print document) = .ok (reread rounded document)) :
    Survives (eventCodec formats print parse) event ↔
      Event.deserialize formats (reread rounded document) = some event := by
  have bytes : (eventCodec formats print parse).toBytes event = .ok (print document) := by
    simp [eventCodec, written, Except.map]
  have slice : (eventCodec formats print parse).fromSlice (print document) =
      match Event.deserialize formats (reread rounded document) with
      | some event => .ok event
      | none => .error "failed to parse modified event" := by
    simp [eventCodec, text, Except.bind]
  constructor
  · rintro ⟨found, foundBytes, foundEvent⟩
    rw [bytes] at foundBytes
    cases foundBytes
    rw [slice] at foundEvent
    cases read : Event.deserialize formats (reread rounded document) with
    | none => simp [read] at foundEvent
    | some other =>
        rw [read] at foundEvent
        cases foundEvent
        rfl
  · intro read
    exact ⟨print document, bytes, by rw [slice, read]⟩

theorem reread_segment (segment : MessageSegment) :
    reread rounded (segment.serialize .object) = segment.serialize .object := by
  cases segment with
  | image _ url | record _ url | video _ url =>
      simp [MessageSegment.serialize, MessageSegment.taggedFile, MessageSegment.tagged, reread,
        rereadFields, rereadFields_optionalField rounded "url" (reread_string rounded)]
  | text _ | «at» _ | face _ | reply _ | forward _ | json _ | xml _ | poke _ _ | unknown =>
      simp [MessageSegment.serialize, MessageSegment.tagged, reread, rereadFields]

theorem rereadFields_sender (sender : Sender) :
    rereadFields rounded sender.fields = sender.fields := by
  have texts (key : String) (text : Option String) :=
    rereadFields_optionalField rounded key (reread_string rounded) text
  have age := rereadFields_optionalField rounded "age" (reread_integer32 rounded) sender.age
  simp [Sender.fields, rereadFields, rereadFields_append, texts, age]

theorem rereadFields_messageFields (event : MessageEvent) :
    rereadFields rounded (event.fields formats) = event.fields formats := by
  have segments := rereadItems_map rounded (reread_segment rounded) event.message
  have group : reread rounded (nullableInteger event.groupId) = nullableInteger event.groupId := by
    cases event.groupId with
    | none => rw [nullableInteger, reread]
    | some group => exact reread_integer rounded group
  simp [MessageEvent.fields, rereadFields, writeUuid, writeTime, group, reread, segments,
    rereadFields_sender]

theorem survives_message {event : MessageEvent}
    (idRead : formats.parseUuid (formats.printUuid event.id) = some event.id)
    (timeRead : formats.parseTime (formats.printTime event.time) = some event.time)
    (text : ∀ document, (Event.message event).serialize formats = .ok document →
      parse (print document) = .ok (reread rounded document)) :
    Survives (eventCodec formats print parse) (.message event) := by
  rw [survives_iff formats print parse rounded rfl (text _ rfl), reread, rereadFields,
    reread_string, rereadFields_messageFields]
  exact Event.deserialize_message formats event idRead timeRead

theorem not_survives_record {event : Event} {postType : String} {fields : List (String × Json)}
    {extra kind : Json} (written : event.serialize formats =
      Event.serializeRecord postType fields extra)
    (kindKept : extra.get "post_type" = some kind)
    (text : ∀ document, event.serialize formats = .ok document →
      parse (print document) = .ok (reread rounded document)) :
    ¬ Survives (eventCodec formats print parse) event := by
  cases extra with
  | object extraFields =>
      have document : event.serialize formats =
          .ok (.object (("post_type", .string postType) :: (fields ++ extraFields))) := written
      have repeated : kind ∈ values "post_type" (fields ++ extraFields) := by
        rw [values_append]
        exact List.mem_append_right _ (mem_values_of_lookup kindKept)
      rw [survives_iff formats print parse rounded document (text _ document), reread,
        rereadFields, reread_string,
        Event.deserialize_of_repeated formats (mem_values_rereadFields rounded repeated)]
      simp
  | null | bool _ | number _ | string _ | array _ => cases kindKept

/-- An event that was read from a raw object survives the boundary exactly when
it is a message event. -/
theorem survives_parseEvent_iff {now : DateTime} {fresh : Uuid} {raw : Json} {event : Event}
    (accepted : parseEvent now fresh raw = .ok event)
    (idRead : formats.parseUuid (formats.printUuid fresh) = some fresh)
    (timeRead : formats.parseTime (formats.printTime (parseTime now raw)) =
      some (parseTime now raw))
    (text : ∀ document, event.serialize formats = .ok document →
      parse (print document) = .ok (reread rounded document)) :
    Survives (eventCodec formats print parse) event ↔ IsMessage raw := by
  obtain ⟨postType, kind, cases⟩ := parseEvent_cases accepted
  rcases cases with ⟨message, rfl⟩ | ⟨rfl, rfl⟩ | ⟨rfl, rfl⟩ | ⟨rfl, rfl⟩
  · refine iff_of_true (survives_message formats print parse rounded idRead timeRead text) ?_
    rcases message with rfl | rfl
    · exact Or.inl kind
    · exact Or.inr kind
  · exact iff_of_false (not_survives_record formats print parse rounded rfl kind text)
      (by simp [IsMessage, kind])
  · exact iff_of_false (not_survives_record formats print parse rounded rfl kind text)
      (by simp [IsMessage, kind])
  · exact iff_of_false (not_survives_record formats print parse rounded rfl kind text)
      (by simp [IsMessage, kind])

end

def receivedAt : DateTime := halfPast.truncated

def sampleFormats : TextFormats :=
  { printUuid := fun _ => "00000000-0000-0000-0000-000000000002"
    parseUuid := fun text =>
      if text = "00000000-0000-0000-0000-000000000002" then some ⟨2⟩ else none
    printTime := fun _ => "2023-11-14T22:13:20Z"
    parseTime := fun text => if text = "2023-11-14T22:13:20Z" then some receivedAt else none }

def printJson (document : Json) : List UInt8 := document.toText.toUTF8.toList

def parseOnly (document : Json) (bytes : List UInt8) : Except String Json :=
  if bytes = printJson document then .ok document else .error "expected value"

def privateGreeting : Json :=
  .ofFields [("post_type", .string "message"), ("time", .integer 1700000000),
    ("message", .string "hi")]

def heartbeat : List (String × Json) :=
  [("meta_event_type", .string "heartbeat"), ("post_type", .string "meta_event"),
    ("time", .integer 1700000000)]

theorem parseTime_of_received {raw : Json}
    (received : raw.get "time" = some (.integer 1700000000)) :
    parseTime receivedAt raw = receivedAt := by
  rw [parseTime, received]
  rfl

theorem survives_parseEvent_iff_message :
    let event := Event.message (parseMessageEvent ⟨2⟩ privateGreeting 0 receivedAt)
    let document := Json.object (("post_type", .string "message") ::
      MessageEvent.fields sampleFormats (parseMessageEvent ⟨2⟩ privateGreeting 0 receivedAt))
    Survives (eventCodec sampleFormats printJson (parseOnly document)) event := by
  intro event document
  have received : privateGreeting.get "time" = some (.integer 1700000000) := by
    simp [privateGreeting, Json.get_ofFields, List.lookup_cons]
  have kind : privateGreeting.get "post_type" = some (.string "message") := by
    simp [privateGreeting, Json.get_ofFields, List.lookup_cons]
  have selfId : integerOr "self_id" 0 privateGreeting = 0 := by
    simp [integerOr, privateGreeting, Json.get_ofFields, List.lookup_cons]
  have accepted : parseEvent receivedAt ⟨2⟩ privateGreeting = .ok event := by
    rw [parseEvent, kind]
    simp [parseTime_of_received received, selfId, event]
  refine (survives_parseEvent_iff sampleFormats printJson (parseOnly document) id accepted rfl
    ?_ ?_).mpr (Or.inl kind)
  · rw [parseTime_of_received received]
    rfl
  · rintro written ⟨⟩
    rw [reread, rereadFields, reread_string, rereadFields_messageFields]
    exact if_pos rfl

/-- The event of a heartbeat that is handed back unchanged is refused, although
its document is read as it was written. -/
theorem heartbeat_refused :
    let event := Event.metaEvent ⟨⟨2⟩, receivedAt, 0, "heartbeat", "", .object heartbeat⟩
    let document := Json.object (("post_type", .string "meta_event") ::
      (Event.recordFields sampleFormats "meta_event_type" "heartbeat" "" ⟨2⟩ receivedAt 0 ++
        heartbeat))
    parseEvent receivedAt ⟨2⟩ (.object heartbeat) = .ok event ∧
      (eventCodec sampleFormats printJson (parseOnly document)).toBytes event =
        .ok (printJson document) ∧
      parseOnly document (printJson document) = .ok document ∧
      (eventCodec sampleFormats printJson (parseOnly document)).fromSlice (printJson document) =
        .error "failed to parse modified event" := by
  intro event document
  have text : parseOnly document (printJson document) = .ok document := if_pos rfl
  have accepted : parseEvent receivedAt ⟨2⟩ (.object heartbeat) = .ok event := rfl
  have repeated : Json.string "meta_event" ∈ values "post_type"
      (Event.recordFields sampleFormats "meta_event_type" "heartbeat" "" ⟨2⟩ receivedAt 0 ++
        heartbeat) := by
    simp [heartbeat]
  have refused : Event.deserialize sampleFormats document = none :=
    Event.deserialize_of_repeated sampleFormats repeated
  exact ⟨accepted, rfl, text, fromSlice_of_refused sampleFormats printJson (parseOnly document)
    text refused⟩

end Ferroq.Gateway.PluginEngine
