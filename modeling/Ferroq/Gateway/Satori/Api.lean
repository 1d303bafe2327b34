import Ferroq.Core.Api
import Ferroq.Gateway.OneBotV11.RoundTrip
import Ferroq.Gateway.OneBotV12
import Ferroq.Gateway.Satori.Events

/-!
# Satori calls

Calls of Satori clients become v11 requests.  A message is created in a channel
that is known by its identifier alone, and the call is always addressed to the
group of that number.
-/

namespace Ferroq.Gateway.Satori

open Ferroq.Core
open Ferroq.Gateway.OneBotV12 (integerField)

/-- An identifier of the call under the name that v11 has for it, if it is a
number. -/
def idParam (field key : String) (body : Json) : List (String × Json) :=
  ((integerField field body).map fun id => (key, Json.integer id)).toList

/-- The length of a mute in seconds, from milliseconds. -/
def durationParam (body : Json) : List (String × Json) :=
  (((body.get "duration").bind Json.asU64).map fun duration =>
    ("duration", Json.number (.posInt (duration / 1000)))).toList

def textParam (field : String) (body : Json) : String :=
  ((body.get field).bind Json.asStr).getD ""

def translateMessageCreate (body : Json) : String × Json :=
  let segments := parseSatoriElements (textParam "content" body)
  let message := Json.array (segments.map MessageSegment.toJson)
  match OneBotV12.parseI64 (textParam "channel_id" body) with
  | some id => ("send_group_msg", .ofFields [("group_id", .integer id), ("message", message)])
  | none => ("send_msg", .ofFields [("message", message)])

def unsupportedApi (resourceMethod : String) : GatewayError :=
  .internal s!"unsupported Satori API: {resourceMethod}"

def translateSatoriApi (resourceMethod : String) (body : Json) :
    Except GatewayError (String × Json) :=
  let guild := idParam "guild_id" "group_id" body
  let user := idParam "user_id" "user_id" body
  let message := idParam "message_id" "message_id" body
  if resourceMethod = "message.create" then .ok (translateMessageCreate body)
  else if resourceMethod = "message.get" then .ok ("get_msg", .ofFields message)
  else if resourceMethod = "message.delete" then .ok ("delete_msg", .ofFields message)
  else if resourceMethod = "channel.get" then
    .ok ("get_group_info", .ofFields (idParam "channel_id" "group_id" body))
  else if resourceMethod = "channel.list" then .ok ("get_group_list", .object [])
  else if resourceMethod = "guild.get" then .ok ("get_group_info", .ofFields guild)
  else if resourceMethod = "guild.list" then .ok ("get_group_list", .object [])
  else if resourceMethod = "guild.member.get" then
    .ok ("get_group_member_info", .ofFields (guild ++ user))
  else if resourceMethod = "guild.member.list" then .ok ("get_group_member_list", .ofFields guild)
  else if resourceMethod = "guild.member.kick" then
    .ok ("set_group_kick", .ofFields (guild ++ user))
  else if resourceMethod = "guild.member.mute" then
    .ok ("set_group_ban", .ofFields (guild ++ user ++ durationParam body))
  else if resourceMethod = "user.get" then .ok ("get_stranger_info", .ofFields user)
  else if resourceMethod = "friend.list" then .ok ("get_friend_list", .object [])
  else if resourceMethod = "login.get" then .ok ("get_login_info", .object [])
  else .error (unsupportedApi resourceMethod)

/-- The internal request of a call; it has no echo. -/
def parseSatoriApi (resourceMethod : String) (body : Json) (selfId : Option Int64) :
    Except GatewayError ApiRequest :=
  (translateSatoriApi resourceMethod body).map fun translated =>
    { action := translated.1, params := translated.2, selfId := selfId }

inductive Conversation where
  | group (id : Int64)
  | user (id : Int64)
  deriving DecidableEq

/-- The conversation a message event came from; a group message without its
group has none. -/
def conversation (message : MessageEvent) : Option Conversation :=
  match message.messageType with
  | .group => message.groupId.map .group
  | .privateChat => some (.user message.userId)

/-- The conversation a v11 request sends to.  The general action names its kind,
or leaves it to the identifier that is given. -/
def addressee (request : ApiRequest) : Option Conversation :=
  let group := ((request.params.get "group_id").bind Json.asI64).map Conversation.group
  let user := ((request.params.get "user_id").bind Json.asI64).map Conversation.user
  if request.action = "send_group_msg" then group
  else if request.action = "send_private_msg" then user
  else if request.action = "send_msg" then
    match (request.params.get "message_type").bind Json.asStr with
    | some "group" => group
    | some "private" => user
    | _ => group.or user
  else none

theorem addressee_messageCreate {body : Json} {id : Int64} (selfId : Option Int64)
    (channel : body.get "channel_id" = some (idJson id)) :
    (parseSatoriApi "message.create" body selfId).map addressee = .ok (some (.group id)) := by
  have written : textParam "channel_id" body = toString id.toInt := by
    rw [textParam, channel]
    rfl
  simp only [parseSatoriApi, translateSatoriApi, translateMessageCreate, if_true, written,
    OneBotV12.parseI64_toString]
  simp [Except.map, addressee, Json.get_ofFields, List.lookup_cons]

/-- A reply in the channel of a message reaches the conversation of that message
exactly when it is a group message. -/
theorem messageCreate_addressed_iff (message : MessageEvent) (sn : UInt64) (body : Json)
    (selfId : Option Int64)
    (groupKnown : message.messageType = .group → message.groupId.isSome)
    (channel : body.get "channel_id" = channelId (eventToSatori (.message message) sn)) :
    (parseSatoriApi "message.create" body selfId).map addressee = .ok (conversation message) ↔
      message.messageType = .group := by
  rw [channelId_eventToSatori] at channel
  rw [addressee_messageCreate selfId channel]
  cases kind : message.messageType with
  | group =>
      obtain ⟨group, known⟩ := Option.isSome_iff_exists.mp (groupKnown kind)
      simp [conversation, kind, known]
  | privateChat => simp [conversation, kind]

def greeting (messageType : MessageType) (groupId : Option Int64) : MessageEvent :=
  { OneBotV11.picture with
    messageType := messageType
    groupId := groupId
    message := [.text "hi"]
    rawMessage := "hi" }

def replyIn (channel : String) : Json :=
  .ofFields [("channel_id", .string channel), ("content", .string "hello")]

theorem get_channel_replyIn (channel : String) :
    (replyIn channel).get "channel_id" = some (.string channel) := by
  simp [replyIn, Json.get_ofFields, List.lookup_cons]

theorem messageCreate_addressed_iff_group :
    (parseSatoriApi "message.create" (replyIn "7") none).map addressee = .ok (some (.group 7)) :=
  (messageCreate_addressed_iff (greeting .group (some 7)) 0 (replyIn "7") none (fun _ => rfl)
    (by rw [get_channel_replyIn, channelId_eventToSatori]; rfl)).mpr rfl

/-- A reply to a private greeting of user 42 is sent to group 42. -/
theorem directReply_toGroup :
    (replyIn "42").get "channel_id" =
        channelId (eventToSatori (.message (greeting .privateChat none)) 0) ∧
      (parseSatoriApi "message.create" (replyIn "42") none).map addressee =
        .ok (some (.group 42)) ∧
      conversation (greeting .privateChat none) = some (.user 42) := by
  refine ⟨?_, addressee_messageCreate none (get_channel_replyIn "42"), rfl⟩
  rw [get_channel_replyIn, channelId_eventToSatori]
  rfl

end Ferroq.Gateway.Satori
