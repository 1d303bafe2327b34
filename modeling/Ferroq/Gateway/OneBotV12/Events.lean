import Ferroq.Gateway.OneBotV11.RoundTrip
import Ferroq.Gateway.OneBotV12.Segments

/-!
# OneBot v12 events

Events in the v12 form, where an account is an object of its own and all
identifiers are texts.  The identifiers of a message event come back as the
same integers in the requests of a client that repeats them.
-/

namespace Ferroq.Gateway.OneBotV12

open Ferroq.Core

def decimal (id : Int64) : Json := .string (toString id.toInt)

def selfObject (selfId : Int64) : Json :=
  .ofFields [("platform", .string "qq"), ("user_id", decimal selfId)]

/-- The seconds of a moment as a floating-point number, which is exact for all
seconds of the calendar. -/
def timeJson (time : DateTime) : Json := .number (.float (toString time.timestamp.toInt ++ ".0"))

section

variable (printUuid : Uuid → String)

def v12EventFields (id : Uuid) (time : DateTime) (type detailType subType : String)
    (selfId : Int64) : List (String × Json) :=
  [("id", .string (printUuid id)),
    ("time", timeJson time),
    ("type", .string type),
    ("detail_type", .string detailType),
    ("sub_type", .string subType),
    ("self", selfObject selfId)]

def messageEventToV12 (message : MessageEvent) : Json :=
  .ofFields
    (v12EventFields printUuid message.id message.time "message" message.messageType.toText
        message.subType message.selfId ++
      [("message_id", decimal message.messageId),
        ("message", segmentsToV12 message.message),
        ("alt_message", .string message.rawMessage),
        ("user_id", decimal message.userId)] ++
      optionalField "group_id" (message.groupId.map decimal))

def noticeEventToV12 (event : NoticeEvent) : Json :=
  .ofFields
    (v12EventFields printUuid event.id event.time "notice" event.noticeType event.subType
      event.selfId)

def requestEventToV12 (event : RequestEvent) : Json :=
  .ofFields
    (v12EventFields printUuid event.id event.time "request" event.requestType event.subType
      event.selfId)

def metaDetailType (metaEventType : String) : String :=
  if metaEventType = "heartbeat" then "heartbeat"
  else if metaEventType = "lifecycle" then "connect"
  else metaEventType

def metaEventToV12 (event : MetaEvent) : Json :=
  .ofFields
    (v12EventFields printUuid event.id event.time "meta" (metaDetailType event.metaEventType)
      event.subType event.selfId)

def eventToJson : Event → Json
  | .message event => messageEventToV12 printUuid event
  | .notice event => noticeEventToV12 printUuid event
  | .request event => requestEventToV12 printUuid event
  | .metaEvent event => metaEventToV12 printUuid event

variable (message : MessageEvent)

@[simp]
theorem get_detailType_message :
    (eventToJson printUuid (.message message)).get "detail_type" =
      some (.string message.messageType.toText) := by
  simp [eventToJson, messageEventToV12, v12EventFields, Json.get_ofFields, List.lookup_cons]

@[simp]
theorem get_self_message :
    (eventToJson printUuid (.message message)).get "self" = some (selfObject message.selfId) := by
  simp [eventToJson, messageEventToV12, v12EventFields, Json.get_ofFields, List.lookup_cons]

@[simp]
theorem get_messageId_message :
    (eventToJson printUuid (.message message)).get "message_id" =
      some (decimal message.messageId) := by
  simp [eventToJson, messageEventToV12, v12EventFields, Json.get_ofFields, List.lookup_cons]

@[simp]
theorem get_userId_message :
    (eventToJson printUuid (.message message)).get "user_id" = some (decimal message.userId) := by
  simp [eventToJson, messageEventToV12, v12EventFields, Json.get_ofFields]

@[simp]
theorem get_groupId_message :
    (eventToJson printUuid (.message message)).get "group_id" = message.groupId.map decimal := by
  cases group : message.groupId with
  | none =>
      simp [eventToJson, messageEventToV12, v12EventFields, Json.get_ofFields, List.lookup_cons,
        group]
  | some id =>
      simp [eventToJson, messageEventToV12, Json.get_ofFields, group]

end

theorem parseI64_asStr_decimal (id : Int64) : (decimal id).asStr.bind parseI64 = some id :=
  parseI64_toString id

theorem integerField_of_decimal {key : String} {params : Json} {id : Int64}
    (given : params.get key = some (decimal id)) : integerField key params = some id := by
  rw [integerField, given, Option.bind_some, parseI64_asStr_decimal]

theorem selfId_of_selfObject {raw : Json} {selfId : Int64}
    (account : raw.get "self" = some (selfObject selfId)) :
    (((raw.get "self").bind (Json.get "user_id")).bind Json.asStr).bind parseI64 =
      some selfId := by
  have user : (selfObject selfId).get "user_id" = some (decimal selfId) := by
    simp [selfObject, Json.get_ofFields]
  rw [account, Option.bind_some, user, Option.bind_some, parseI64_asStr_decimal]

theorem parseV12Action_eq {raw params : Json} {action : String} {selfId : Int64}
    (named : raw.get "action" = some (.string action)) (given : raw.get "params" = some params)
    (account : raw.get "self" = some (selfObject selfId)) :
    parseV12Action raw =
      .ok
        { action := (translateV12Action action params).1
          params := (translateV12Action action params).2
          echo := raw.get "echo"
          selfId := some selfId } := by
  simp only [parseV12Action, named, given, selfId_of_selfObject account, Option.bind_some,
    Json.asStr_string, Option.getD_some]

theorem get_sendMessage (params : Json) :
    (translateV12Action "send_message" params).2.get "group_id" =
        (integerField "group_id" params).map Json.integer ∧
      (translateV12Action "send_message" params).2.get "user_id" =
        (integerField "user_id" params).map Json.integer ∧
      (translateV12Action "send_message" params).2.get "message_id" = none := by
  cases group : integerField "group_id" params <;> cases user : integerField "user_id" params <;>
    cases message : params.get "message" <;>
    simp [translateV12Action, group, user, message, Json.get_ofFields,
      List.lookup_cons, intJson, Json.integer]

theorem action_sendMessage {params : Json} {messageType : MessageType}
    (detailType : params.get "detail_type" = some (.string messageType.toText)) :
    (translateV12Action "send_message" params).1 =
      match messageType with
      | .group => "send_group_msg"
      | .privateChat => "send_private_msg" := by
  cases messageType <;> simp [translateV12Action, detailType, MessageType.toText]

theorem get_getMessage {params : Json} {id : Int64}
    (given : params.get "message_id" = some (decimal id)) :
    (translateV12Action "get_message" params).1 = "get_msg" ∧
      (translateV12Action "get_message" params).2.get "message_id" = some (.integer id) := by
  simp [translateV12Action, integerField_of_decimal given, Json.get_setField given, intJson,
    Json.integer]

/-- A request that repeats the identifiers of a message event is addressed to
the event's conversation and account; a request for the message names it. -/
theorem parseV12Action_repeats (printUuid : Uuid → String) (message : MessageEvent)
    (home : message.messageType = .privateChat ∨ message.groupId.isSome)
    {send fetch sendParams fetchParams : Json}
    (sendAction : send.get "action" = some (.string "send_message"))
    (sendGiven : send.get "params" = some sendParams)
    (sendRepeats : ∀ key ∈ ["detail_type", "group_id", "user_id"],
      sendParams.get key = (eventToJson printUuid (.message message)).get key)
    (sendAccount : send.get "self" = (eventToJson printUuid (.message message)).get "self")
    (fetchAction : fetch.get "action" = some (.string "get_message"))
    (fetchGiven : fetch.get "params" = some fetchParams)
    (fetchRepeats : fetchParams.get "message_id" =
      (eventToJson printUuid (.message message)).get "message_id")
    (fetchAccount : fetch.get "self" = (eventToJson printUuid (.message message)).get "self") :
    (∃ request, parseV12Action send = .ok request ∧ request.selfId = some message.selfId ∧
      match message.messageType with
      | .group => request.action = "send_group_msg" ∧
          ∃ group, message.groupId = some group ∧
            request.params.get "group_id" = some (.integer group)
      | .privateChat => request.action = "send_private_msg" ∧
          request.params.get "user_id" = some (.integer message.userId)) ∧
    ∃ request, parseV12Action fetch = .ok request ∧ request.selfId = some message.selfId ∧
      request.action = "get_msg" ∧
      request.params.get "message_id" = some (.integer message.messageId) := by
  rw [get_self_message] at sendAccount fetchAccount
  rw [get_messageId_message] at fetchRepeats
  have detailType := sendRepeats "detail_type" (by simp)
  have groupId := sendRepeats "group_id" (by simp)
  have userId := sendRepeats "user_id" (by simp)
  rw [get_detailType_message] at detailType
  rw [get_groupId_message] at groupId
  rw [get_userId_message] at userId
  obtain ⟨group, user, -⟩ := get_sendMessage sendParams
  constructor
  · refine ⟨_, parseV12Action_eq sendAction sendGiven sendAccount, rfl, ?_⟩
    cases kind : message.messageType with
    | group =>
        rw [kind] at detailType
        obtain ⟨id, known⟩ := Option.isSome_iff_exists.mp (home.resolve_left (by simp [kind]))
        rw [known, Option.map_some] at groupId
        rw [integerField_of_decimal groupId, Option.map_some] at group
        exact ⟨action_sendMessage detailType, id, known, group⟩
    | privateChat =>
        rw [kind] at detailType
        rw [integerField_of_decimal userId, Option.map_some] at user
        exact ⟨action_sendMessage detailType, user⟩
  · obtain ⟨action, id⟩ := get_getMessage fetchRepeats
    exact ⟨_, parseV12Action_eq fetchAction fetchGiven fetchAccount, rfl, action, id⟩

def replyToPicture : Json :=
  .ofFields [("action", .string "send_message"),
    ("params", .ofFields [("detail_type", .string "group"), ("group_id", .string "7"),
      ("user_id", .string "42")]),
    ("self", selfObject 100)]

def lookAtPicture : Json :=
  .ofFields [("action", .string "get_message"),
    ("params", .ofFields [("message_id", .string "-5")]), ("self", selfObject 100)]

theorem parseV12Action_repeats_picture :
    (∃ request, parseV12Action replyToPicture = .ok request ∧ request.selfId = some 100 ∧
      request.action = "send_group_msg" ∧
      ∃ group, some 7 = some group ∧ request.params.get "group_id" = some (.integer group)) ∧
    ∃ request, parseV12Action lookAtPicture = .ok request ∧ request.selfId = some 100 ∧
      request.action = "get_msg" ∧ request.params.get "message_id" = some (.integer (-5)) := by
  have repeated : ∀ key ∈ ["detail_type", "group_id", "user_id"],
      (Json.ofFields [("detail_type", .string "group"), ("group_id", .string "7"),
        ("user_id", .string "42")]).get key =
      (eventToJson (fun _ => "") (.message OneBotV11.picture)).get key := by
    simp only [List.forall_mem_cons, get_detailType_message, get_groupId_message,
      get_userId_message]
    refine ⟨?_, ?_, ?_, nofun⟩ <;> rw [Json.get_ofFields] <;> rfl
  exact parseV12Action_repeats (fun _ => "") OneBotV11.picture (.inr rfl)
    (by simp [replyToPicture, Json.get_ofFields, List.lookup_cons])
    (by simp [replyToPicture, Json.get_ofFields, List.lookup_cons]) repeated
    (by rw [get_self_message]; simp [replyToPicture, Json.get_ofFields]; rfl)
    (by simp [lookAtPicture, Json.get_ofFields, List.lookup_cons])
    (by simp [lookAtPicture, Json.get_ofFields, List.lookup_cons]; rfl)
    (by rw [get_messageId_message]; simp [Json.get_ofFields]; rfl)
    (by rw [get_self_message]; simp [lookAtPicture, Json.get_ofFields]; rfl)

end Ferroq.Gateway.OneBotV12
