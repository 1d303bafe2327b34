import Ferroq.Core.Message

/-!
# Events

The events of all backends in the common form.  A notice, a request and a meta
event keep the fields that they do not name themselves in one further value.
-/

namespace Ferroq.Core

structure Uuid where
  value : BitVec 128
  deriving DecidableEq

/-- A moment of the calendar, by its seconds since 1970 and the nanoseconds
after them; a leap second, which ends a minute, has at least `10 ^ 9` of these. -/
structure DateTime where
  timestamp : Int64
  subsecNanos : Nat
  inCalendar : -8334601228800 ≤ timestamp ∧ timestamp ≤ 8210266876799
  bounded : subsecNanos < 2000000000
  leapSecond : 1000000000 ≤ subsecNanos → timestamp.toInt % 60 = 59
  deriving DecidableEq

namespace DateTime

def timestampOpt (timestamp : Int64) : Option DateTime :=
  if inCalendar : -8334601228800 ≤ timestamp ∧ timestamp ≤ 8210266876799 then
    some ⟨timestamp, 0, inCalendar, by decide, fun leap => absurd leap (by decide)⟩
  else none

def truncated (time : DateTime) : DateTime :=
  { time with
    subsecNanos := 0
    bounded := by decide
    leapSecond := fun leap => absurd leap (by decide) }

def timestampMillis (time : DateTime) : Int64 :=
  time.timestamp * 1000 + Int64.ofNat (time.subsecNanos / 1000000)

@[simp]
theorem timestampOpt_timestamp (time : DateTime) :
    timestampOpt time.timestamp = some time.truncated := dif_pos time.inCalendar

end DateTime

inductive MessageType where
  | privateChat
  | group
  deriving DecidableEq

def MessageType.toText : MessageType → String
  | privateChat => "private"
  | group => "group"

structure Sender where
  userId : Int64
  nickname : String
  card : Option String
  sex : Option String
  age : Option Int32
  area : Option String
  level : Option String
  role : Option String
  title : Option String

/-- The serialized fields of a sender; what is not known is left out. -/
def Sender.fields (sender : Sender) : List (String × Json) :=
  [("user_id", .integer sender.userId), ("nickname", .string sender.nickname)] ++
    optionalField "card" (sender.card.map .string) ++
    optionalField "sex" (sender.sex.map .string) ++
    optionalField "age" (sender.age.map .integer32) ++
    optionalField "area" (sender.area.map .string) ++
    optionalField "level" (sender.level.map .string) ++
    optionalField "role" (sender.role.map .string) ++
    optionalField "title" (sender.title.map .string)

structure MessageEvent where
  id : Uuid
  time : DateTime
  selfId : Int64
  messageType : MessageType
  subType : String
  messageId : Int64
  userId : Int64
  groupId : Option Int64
  message : List MessageSegment
  rawMessage : String
  sender : Sender
  font : Int32

structure NoticeEvent where
  id : Uuid
  time : DateTime
  selfId : Int64
  noticeType : String
  subType : String
  extra : Json

structure RequestEvent where
  id : Uuid
  time : DateTime
  selfId : Int64
  requestType : String
  subType : String
  extra : Json

structure MetaEvent where
  id : Uuid
  time : DateTime
  selfId : Int64
  metaEventType : String
  subType : String
  extra : Json

inductive Event where
  | message (event : MessageEvent)
  | notice (event : NoticeEvent)
  | request (event : RequestEvent)
  | metaEvent (event : MetaEvent)

def Event.selfId : Event → Int64
  | message event => event.selfId
  | notice event => event.selfId
  | request event => event.selfId
  | metaEvent event => event.selfId

end Ferroq.Core
