import Ferroq.Gateway.OneBotV12.Events
import Ferroq.Gateway.Satori.Events

/-!
# Messages of the account itself

A backend reports the account's own messages with another kind of post.  Both
kinds are read as message events, and the events do not keep which one it was.
-/

namespace Ferroq.Gateway.SelfMessages

open Ferroq.Core
open Ferroq.Gateway.OneBotV11

/-- A received and a sent message that are equal but for their kind of post. -/
structure DifferInKind (received sent : Json) : Prop where
  received_kind : received.get "post_type" = some (.string "message")
  sent_kind : sent.get "post_type" = some (.string "message_sent")
  alike : ∀ key, key ≠ "post_type" → sent.get key = received.get key

/-- The raw object gives a time of the calendar. -/
def Timed (raw : Json) : Prop :=
  (((raw.get "time").bind Json.asI64).bind DateTime.timestampOpt).isSome

section

variable {received sent : Json}

theorem DifferInKind.parseMessageEvent_eq (pair : DifferInKind received sent) (fresh : Uuid)
    (selfId : Int64) (time : DateTime) :
    parseMessageEvent fresh sent selfId time = parseMessageEvent fresh received selfId time := by
  have alike := pair.alike
  simp only [parseMessageEvent, parseMessageType, textField, optionalText, integerOr,
    parseMessageSegments, parseSender, alike "message_type" (by decide),
    alike "sub_type" (by decide), alike "message_id" (by decide), alike "user_id" (by decide),
    alike "group_id" (by decide), alike "message" (by decide), alike "raw_message" (by decide),
    alike "sender" (by decide), alike "font" (by decide)]
  rfl

theorem DifferInKind.parseTime_eq (pair : DifferInKind received sent) {now later : DateTime}
    (moments : Timed received ∨ later = now) : parseTime later sent = parseTime now received := by
  rw [parseTime, parseTime, pair.alike "time" (by decide)]
  rcases moments with timed | rfl
  · obtain ⟨time, given⟩ := Option.isSome_iff_exists.mp timed
    rw [given, Option.getD_some, Option.getD_some]
  · rfl

theorem DifferInKind.parseEvent_eq (pair : DifferInKind received sent) {now later : DateTime}
    (moments : Timed received ∨ later = now) (fresh other : Uuid) :
    ∃ message : MessageEvent,
      parseEvent now fresh received = .ok (.message message) ∧
        parseEvent later other sent = .ok (.message { message with id := other }) := by
  refine ⟨parseMessageEvent fresh received (integerOr "self_id" 0 received)
    (parseTime now received), ?_, ?_⟩
  · simp [parseEvent, pair.received_kind]
  · simp [parseEvent, pair.sent_kind, pair.parseMessageEvent_eq, pair.parseTime_eq moments,
      integerOr, pair.alike "self_id" (by decide)]
    rfl

end

/-- Events that the clients of no protocol can tell apart, except by an
identifier that the gateway has generated. -/
structure PushedAlike (first second : Event) : Prop where
  v11 : eventToJson second = eventToJson first
  v12 : ∀ (printUuid : Uuid → String) (key : String), key ≠ "id" →
    (OneBotV12.eventToJson printUuid second).get key =
      (OneBotV12.eventToJson printUuid first).get key
  satori : ∀ sn, Satori.eventToSignal second sn = Satori.eventToSignal first sn

/-- The generated identifier is only in the v12 form. -/
theorem pushedAlike_withId (message : MessageEvent) (other : Uuid) :
    PushedAlike (.message message) (.message { message with id := other }) := by
  refine ⟨rfl, fun printUuid key noId => ?_, fun sn => rfl⟩
  have missed : (key == "id") = false := beq_eq_false_iff_ne.mpr noId
  simp only [OneBotV12.eventToJson, OneBotV12.messageEventToV12, OneBotV12.v12EventFields,
    Json.get_ofFields, List.reverse_append, List.reverse_cons, List.reverse_nil, List.nil_append,
    List.lookup_append, List.lookup_cons, missed, List.lookup_nil]

/-- A sent message is pushed to the clients of all protocols as the received
message that is equal to it otherwise. -/
theorem sentMessage_pushedAsReceived {received sent : Json} (pair : DifferInKind received sent)
    {now later : DateTime} (moments : Timed received ∨ later = now) (fresh other : Uuid) :
    ∃ first second : Event, parseEvent now fresh received = .ok first ∧
      parseEvent later other sent = .ok second ∧ PushedAlike first second ∧
      (eventToJson second).get "post_type" = some (.string "message") := by
  obtain ⟨message, parsed, parsedSent⟩ := pair.parseEvent_eq moments fresh other
  refine ⟨_, _, parsed, parsedSent, pushedAlike_withId message other, ?_⟩
  simp [eventToJson, messageFields, Json.get_ofFields, List.lookup_cons]

section Own

def ownMessage (postType : String) : Json :=
  .object [("message", .string "hi"), ("message_id", .integer 5),
    ("post_type", .string postType), ("self_id", .integer 100),
    ("time", .integer 1700000000), ("user_id", .integer 100)]

theorem ownMessage_differInKind :
    DifferInKind (ownMessage "message") (ownMessage "message_sent") := by
  refine ⟨rfl, rfl, fun key other => ?_⟩
  have missed : (key == "post_type") = false := beq_eq_false_iff_ne.mpr other
  simp only [ownMessage, Json.get, List.lookup_cons, missed]

theorem sentMessage_pushedAsReceived_own :
    ∃ first second : Event,
      parseEvent halfPast ⟨1⟩ (ownMessage "message") = .ok first ∧
      parseEvent halfPast ⟨2⟩ (ownMessage "message_sent") = .ok second ∧
      PushedAlike first second ∧
      (eventToJson second).get "post_type" = some (.string "message") :=
  sentMessage_pushedAsReceived ownMessage_differInKind (.inl rfl) ⟨1⟩ ⟨2⟩

/-- The clients cannot tell the account's own message from a received one. -/
theorem ownMessage_notTold :
    ¬ ∀ received sent first second, DifferInKind received sent →
      parseEvent halfPast ⟨1⟩ received = .ok first → parseEvent halfPast ⟨2⟩ sent = .ok second →
        eventToJson second ≠ eventToJson first ∧
          (∃ printUuid key, key ≠ "id" ∧ (OneBotV12.eventToJson printUuid second).get key ≠
            (OneBotV12.eventToJson printUuid first).get key) ∧
          ∃ sn, Satori.eventToSignal second sn ≠ Satori.eventToSignal first sn := by
  intro told
  have read : ∃ message : MessageEvent,
      parseEvent halfPast ⟨1⟩ (ownMessage "message") = .ok (.message message) ∧
        parseEvent halfPast ⟨2⟩ (ownMessage "message_sent") =
          .ok (.message { message with id := ⟨2⟩ }) :=
    ownMessage_differInKind.parseEvent_eq (.inl rfl) ⟨1⟩ ⟨2⟩
  obtain ⟨message, parsed, parsedSent⟩ := read
  have differ := told _ _ _ _ ownMessage_differInKind parsed parsedSent
  exact differ.1 (pushedAlike_withId message ⟨2⟩).v11

end Own

end Ferroq.Gateway.SelfMessages
