import Ferroq.Core.Event
import Ferroq.Gateway.Satori.Elements

/-!
# Satori events

Events in the form of the Satori protocol, where all identifiers are texts.  A
direct chat is a channel that is named by the identifier of the other user.
-/

namespace Ferroq.Gateway.Satori

open Ferroq.Core

inductive Opcode where
  | event
  | ping
  | pong
  | identify
  | ready
  | metadata
  deriving DecidableEq

def Opcode.code : Opcode → UInt64
  | event => 0
  | ping => 1
  | pong => 2
  | identify => 3
  | ready => 4
  | metadata => 5

def idJson (id : Int64) : Json := .string (toString id.toInt)

def loginObject (selfId : Int64) : Json :=
  .ofFields
    [("sn", .integer 0),
      ("platform", .string "qq"),
      ("user", .ofFields [("id", idJson selfId), ("name", idJson selfId)]),
      ("status", .integer 1)]

def presentField (key : String) (text : Option String) : List (String × Json) :=
  ((text.filter (· ≠ "")).map fun text => (key, Json.string text)).toList

def userObject (userId : Int64) (sender : Option Sender) : Json :=
  .ofFields
    (("id", idJson userId) ::
      match sender with
      | some sender =>
          presentField "name" (some sender.nickname) ++ presentField "nick" sender.card
      | none => [])

def channelObject (message : MessageEvent) : Json :=
  match message.messageType with
  | .group => .ofFields [("id", idJson (message.groupId.getD 0)), ("type", .integer 0)]
  | .privateChat => .ofFields [("id", idJson message.userId), ("type", .integer 1)]

def guildObject (message : MessageEvent) : Option Json :=
  match message.messageType with
  | .group => some (.ofFields [("id", idJson (message.groupId.getD 0))])
  | .privateChat => none

def eventFields (sn : UInt64) (satoriType : String) (time : DateTime) (selfId : Int64) :
    List (String × Json) :=
  [("sn", .number (.posInt sn)),
    ("type", .string satoriType),
    ("timestamp", .integer time.timestampMillis),
    ("login", loginObject selfId)]

def messageEventToSatori (message : MessageEvent) (sn : UInt64) : Json :=
  let user := userObject message.userId (some message.sender)
  let body :=
    eventFields sn "message-created" message.time message.selfId ++
      [("channel", channelObject message),
        ("user", user),
        ("message",
          .ofFields
            [("id", idJson message.messageId),
              ("content", .string (segmentsToSatoriElements message.message)),
              ("user", user),
              ("created_at", .integer message.time.timestampMillis)])]
  match guildObject message with
  | some guild =>
      .ofFields
        (body ++
          [("guild", guild), ("member", .ofFields (presentField "nick" message.sender.card))])
  | none => .ofFields body

def noticeType (event : NoticeEvent) : String :=
  if event.noticeType = "group_increase" then "guild-member-added"
  else if event.noticeType = "group_decrease" then "guild-member-removed"
  else if event.noticeType = "group_ban" then "guild-member-updated"
  else if event.noticeType = "group_recall" then "message-deleted"
  else if event.noticeType = "friend_recall" then "message-deleted"
  else if event.noticeType = "group_admin" then "guild-member-updated"
  else if event.noticeType = "notify" then "interaction/button"
  else "internal"

def requestType (event : RequestEvent) : String :=
  if event.requestType = "friend" then "friend-request"
  else if event.requestType = "group" then "guild-member-request"
  else "internal"

def metaEventType (event : MetaEvent) : String :=
  if event.metaEventType = "lifecycle" then "login-updated" else "internal"

def eventToSatori (event : Event) (sn : UInt64) : Json :=
  match event with
  | .message event => messageEventToSatori event sn
  | .notice event => .ofFields (eventFields sn (noticeType event) event.time event.selfId)
  | .request event => .ofFields (eventFields sn (requestType event) event.time event.selfId)
  | .metaEvent event => .ofFields (eventFields sn (metaEventType event) event.time event.selfId)

def eventToSignal (event : Event) (sn : UInt64) : Json :=
  .ofFields
    [("op", .number (.posInt Opcode.event.code)), ("body", eventToSatori event sn)]

def signalOp (signal : Json) : Option UInt64 := (signal.get "op").bind Json.asU64

def signalSn (signal : Json) : Option UInt64 :=
  ((signal.get "body").bind (Json.get "sn")).bind Json.asU64

theorem signalOp_eventToSignal (event : Event) (sn : UInt64) :
    signalOp (eventToSignal event sn) = some Opcode.event.code := by
  simp [signalOp, eventToSignal, Json.get_ofFields, List.lookup_cons, Json.asU64, Number.asU64]

theorem signalSn_eventToSignal (event : Event) (sn : UInt64) :
    signalSn (eventToSignal event sn) = some sn := by
  have body : (eventToSignal event sn).get "body" = some (eventToSatori event sn) := by
    simp [eventToSignal, Json.get_ofFields]
  have number : (eventToSatori event sn).get "sn" = some (.number (.posInt sn)) := by
    cases event with
    | message event =>
        cases kind : event.messageType <;>
          simp [eventToSatori, messageEventToSatori, guildObject, kind, eventFields,
            Json.get_ofFields, List.lookup_cons]
    | notice event | request event | metaEvent event =>
        simp [eventToSatori, eventFields, Json.get_ofFields, List.lookup_cons]
  rw [signalSn, body, Option.bind_some, number]
  rfl

def channelId (event : Json) : Option Json := (event.get "channel").bind (Json.get "id")

theorem channelId_eventToSatori (message : MessageEvent) (sn : UInt64) :
    channelId (eventToSatori (.message message) sn) =
      some (idJson (match message.messageType with
        | .group => message.groupId.getD 0
        | .privateChat => message.userId)) := by
  cases kind : message.messageType with
  | group =>
      simp [channelId, eventToSatori, messageEventToSatori, guildObject, channelObject, kind,
        Json.get_ofFields, List.lookup_cons]
  | privateChat =>
      simp [channelId, eventToSatori, messageEventToSatori, guildObject, channelObject, kind,
        Json.get_ofFields, List.lookup_cons]

end Ferroq.Gateway.Satori
