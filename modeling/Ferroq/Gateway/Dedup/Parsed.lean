import Ferroq.Gateway.Dedup.Fingerprint
import Ferroq.Gateway.OneBotV11.RoundTrip

/-!
# Events read from raw objects

What the filter does with two events depends on what the parser leaves of their
raw objects.  A message keeps its number only if it is an integer.  Any other
event keeps its raw object, and is hashed with all of it.
-/

namespace Ferroq.Gateway.DedupFilter

open Ferroq.Core
open Ferroq.Gateway.OneBotV11

variable {firstNow secondNow : DateTime} {firstFresh secondFresh : Uuid} {firstRaw secondRaw : Json}

section Messages

/-- A value that the parser reads as the number zero: zero itself, and whatever
is not an integer of 64 bits. -/
def ReadAsZero (messageId : Json) : Prop :=
  ∀ value, messageId = .integer value → value = 0

theorem readAsZero_iff {messageId : Json} :
    ReadAsZero messageId ↔ messageId.asI64.getD 0 = 0 := by
  constructor
  · intro zero
    cases read : messageId.asI64 with
    | none => rfl
    | some value => exact zero value (Json.eq_integer read)
  · rintro zero value rfl
    rwa [Json.asI64_integer] at zero

theorem getD_asI64_eq_iff {first second : Json} (differ : first ≠ second) :
    first.asI64.getD 0 = second.asI64.getD 0 ↔ ReadAsZero first ∧ ReadAsZero second := by
  rw [readAsZero_iff, readAsZero_iff]
  constructor
  · intro same
    cases firstRead : first.asI64 with
    | none =>
        rw [firstRead, Option.getD_none] at same
        exact ⟨rfl, same.symm⟩
    | some value =>
        cases secondRead : second.asI64 with
        | none =>
            rw [firstRead, secondRead] at same
            exact ⟨same, rfl⟩
        | some other =>
            rw [firstRead, secondRead, Option.getD_some, Option.getD_some] at same
            cases same
            exact absurd
              ((Json.eq_integer firstRead).trans (Json.eq_integer secondRead).symm) differ
  · rintro ⟨firstZero, secondZero⟩
    rw [firstZero, secondZero]

theorem message_of_parseEvent {now : DateTime} {fresh : Uuid} {raw : Json} {event : MessageEvent}
    (parsed : parseEvent now fresh raw = .ok (.message event)) :
    event.messageId = integerOr "message_id" 0 raw := by
  obtain ⟨postType, -, kinds⟩ := parseEvent_cases parsed
  rcases kinds with ⟨-, same⟩ | ⟨-, same⟩ | ⟨-, same⟩ | ⟨-, same⟩
  · cases same
    rfl
  all_goals cases same

variable (hash : List Write → UInt64)

theorem fingerprint_message_eq_iff (first second : MessageEvent) :
    fingerprint hash (.message first) = fingerprint hash (.message second) ↔
      first.selfId = second.selfId ∧ first.messageId = second.messageId := by
  rw [fingerprint, fingerprint, pack_inj, toUInt64_inj, toUInt64_inj]

/-- Two messages of one account with different numbers are told apart exactly if
one of the numbers is an integer other than zero. -/
theorem distinctMessages_keptApart_iff {first second : MessageEvent} {firstId secondId : Json}
    (windowSecs : UInt64) (start : Nat)
    (firstParsed : parseEvent firstNow firstFresh firstRaw = .ok (.message first))
    (secondParsed : parseEvent secondNow secondFresh secondRaw = .ok (.message second))
    (account : first.selfId = second.selfId)
    (firstPresent : firstRaw.get "message_id" = some firstId)
    (secondPresent : secondRaw.get "message_id" = some secondId) (differ : firstId ≠ secondId) :
    (Independent (fingerprint hash) (new windowSecs start) (.message first) (.message second) ∧
        fingerprint hash (.message first) ≠ fingerprint hash (.message second)) ↔
      ¬ (ReadAsZero firstId ∧ ReadAsZero secondId) := by
  have numbers : fingerprint hash (.message first) = fingerprint hash (.message second) ↔
      ReadAsZero firstId ∧ ReadAsZero secondId := by
    rw [fingerprint_message_eq_iff, message_of_parseEvent firstParsed,
      message_of_parseEvent secondParsed, integerOr, integerOr, firstPresent, secondPresent,
      Option.bind_some, Option.bind_some, getD_asI64_eq_iff differ]
    exact and_iff_right account
  rw [independent_iff, ← numbers]
  constructor
  · exact And.right
  · exact fun apart => ⟨Or.inr apart, apart⟩

def messageWith (messageId : Json) : Json :=
  .object [("message_id", messageId), ("post_type", .string "message"), ("self_id", .integer 10)]

theorem parseEvent_messageWith (fresh : Uuid) (messageId : Json) :
    parseEvent halfPast fresh (messageWith messageId) =
      .ok (.message (parseMessageEvent fresh (messageWith messageId) 10 halfPast)) := rfl

theorem distinctMessages_keptApart_iff_integers :
    (Independent (fingerprint (defaultHasher fun _ => 0)) (new 60 0)
          (.message (parseMessageEvent ⟨1⟩ (messageWith (.integer 0)) 10 halfPast))
          (.message (parseMessageEvent ⟨2⟩ (messageWith (.integer 7)) 10 halfPast)) ∧
        fingerprint (defaultHasher fun _ => 0)
            (.message (parseMessageEvent ⟨1⟩ (messageWith (.integer 0)) 10 halfPast)) ≠
          fingerprint (defaultHasher fun _ => 0)
            (.message (parseMessageEvent ⟨2⟩ (messageWith (.integer 7)) 10 halfPast))) ↔
      ¬ (ReadAsZero (.integer 0) ∧ ReadAsZero (.integer 7)) := by
  refine distinctMessages_keptApart_iff (defaultHasher fun _ => 0) 60 0
    (parseEvent_messageWith ⟨1⟩ (.integer 0)) (parseEvent_messageWith ⟨2⟩ (.integer 7)) rfl rfl rfl
    fun same => ?_
  have numbers := congrArg Json.asI64 same
  rw [Json.asI64_integer, Json.asI64_integer] at numbers
  exact absurd numbers (by decide)

/-- Numbers in text form are read as zero, so that one message hides the other. -/
theorem textNumbers_collapse :
    ∃ first second,
      parseEvent halfPast ⟨1⟩ (messageWith (.string "a1")) = .ok (.message first) ∧
      parseEvent halfPast ⟨2⟩ (messageWith (.string "b2")) = .ok (.message second) ∧
      first.selfId = second.selfId ∧ Json.string "a1" ≠ Json.string "b2" ∧
      ¬ Independent (fingerprint (defaultHasher fun _ => 0)) (new 60 0)
        (.message first) (.message second) := by
  refine ⟨_, _, parseEvent_messageWith ⟨1⟩ _, parseEvent_messageWith ⟨2⟩ _, rfl, by simp, ?_⟩
  rw [independent_iff]
  rintro (closed | differ)
  · exact absurd closed (by decide)
  · exact differ rfl

end Messages

section MetaEvents

variable (hash : List Write → UInt64)

/-- The hasher takes two different sequences of writes to one word. -/
def Collide (first second : List Write) : Prop := first ≠ second ∧ hash first = hash second

def lowWritesOf (event : MetaEvent) : List Write :=
  lowWrites event.selfId event.metaEventType event.subType event.time.timestamp event.extra

def highWritesOf (event : MetaEvent) : List Write :=
  highWrites (hash (lowWritesOf event)) event.selfId event.time.timestamp event.extra

def CollideTwice (first second : MetaEvent) : Prop :=
  Collide hash (lowWritesOf first) (lowWritesOf second) ∧
    Collide hash (highWritesOf hash first) (highWritesOf hash second)

theorem fingerprint_metaEvent_eq_iff (first second : MetaEvent) :
    fingerprint hash (.metaEvent first) = fingerprint hash (.metaEvent second) ↔
      hash (lowWritesOf first) = hash (lowWritesOf second) ∧
        hash (highWritesOf hash first) = hash (highWritesOf hash second) := by
  rw [fingerprint, fingerprint, hashNonMessage, hashNonMessage, pack_inj]
  exact and_comm

theorem metaEvent_of_parseEvent {now : DateTime} {fresh : Uuid} {raw : Json} {event : MetaEvent}
    (parsed : parseEvent now fresh raw = .ok (.metaEvent event)) :
    event.subType = textField "sub_type" raw ∧ event.extra = raw := by
  obtain ⟨postType, -, kinds⟩ := parseEvent_cases parsed
  rcases kinds with ⟨-, same⟩ | ⟨-, same⟩ | ⟨-, same⟩ | ⟨-, same⟩
  · cases same
  · cases same
  · cases same
  · cases same
    exact ⟨rfl, rfl⟩

/-- Two meta events with the same account, type and second are known by one
fingerprint exactly if their raw objects are equal, or collide in both passes. -/
theorem sameMetaEvents_dropped_iff {first second : MetaEvent} (windowSecs : UInt64) (start : Nat)
    (firstParsed : parseEvent firstNow firstFresh firstRaw = .ok (.metaEvent first))
    (secondParsed : parseEvent secondNow secondFresh secondRaw = .ok (.metaEvent second))
    (account : first.selfId = second.selfId)
    (kind : first.metaEventType = second.metaEventType)
    (moment : first.time.timestamp = second.time.timestamp) :
    (fingerprint hash (.metaEvent first) = fingerprint hash (.metaEvent second) ∧
        DropsAfter (fingerprint hash) (new windowSecs start) (.metaEvent first)
          (.metaEvent second)) ↔
      firstRaw = secondRaw ∨ CollideTwice hash first second := by
  obtain ⟨firstSub, firstExtra⟩ := metaEvent_of_parseEvent firstParsed
  obtain ⟨secondSub, secondExtra⟩ := metaEvent_of_parseEvent secondParsed
  rw [dropsAfter_iff, and_iff_left_of_imp Or.inr, fingerprint_metaEvent_eq_iff]
  constructor
  · rintro ⟨low, high⟩
    by_cases same : firstRaw = secondRaw
    · exact .inl same
    · right
      have differ : first.extra ≠ second.extra := by rwa [firstExtra, secondExtra]
      exact ⟨⟨fun writes => differ (lowWrites_inj writes), low⟩,
        fun writes => differ (highWrites_inj writes), high⟩
  · rintro (rfl | ⟨low, high⟩)
    · have lowSame : lowWritesOf first = lowWritesOf second := by
        rw [lowWritesOf, lowWritesOf, account, kind, moment, firstSub, secondSub, firstExtra,
          secondExtra]
      have highSame : highWritesOf hash first = highWritesOf hash second := by
        rw [highWritesOf, highWritesOf, lowSame, account, moment, firstExtra, secondExtra]
      rw [lowSame, highSame]
      exact ⟨rfl, rfl⟩
    · exact ⟨low.2, high.2⟩

def heartbeat (interval : Int64) : Json :=
  .object [("interval", .integer interval), ("meta_event_type", .string "heartbeat"),
    ("post_type", .string "meta_event"), ("self_id", .integer 10), ("time", .integer 1700000000)]

def heartbeatEvent (fresh : Uuid) (interval : Int64) : MetaEvent :=
  parseMetaEvent fresh (heartbeat interval) 10 (parseTime halfPast (heartbeat interval))

theorem parseEvent_heartbeat (fresh : Uuid) (interval : Int64) :
    parseEvent halfPast fresh (heartbeat interval) =
      .ok (.metaEvent (heartbeatEvent fresh interval)) := rfl

theorem sameMetaEvents_dropped_iff_heartbeat :
    (fingerprint (defaultHasher fun _ => 0) (.metaEvent (heartbeatEvent ⟨1⟩ 5000)) =
          fingerprint (defaultHasher fun _ => 0) (.metaEvent (heartbeatEvent ⟨2⟩ 5000)) ∧
        DropsAfter (fingerprint (defaultHasher fun _ => 0)) (new 60 0)
          (.metaEvent (heartbeatEvent ⟨1⟩ 5000)) (.metaEvent (heartbeatEvent ⟨2⟩ 5000))) ↔
      heartbeat 5000 = heartbeat 5000 ∨
        CollideTwice (defaultHasher fun _ => 0) (heartbeatEvent ⟨1⟩ 5000)
          (heartbeatEvent ⟨2⟩ 5000) :=
  sameMetaEvents_dropped_iff (defaultHasher fun _ => 0) 60 0 (parseEvent_heartbeat ⟨1⟩ 5000)
    (parseEvent_heartbeat ⟨2⟩ 5000) rfl rfl rfl

/-- The heartbeats of two backends in one second both pass if their intervals
differ. -/
theorem heartbeats_bothPass :
    ∃ first second,
      parseEvent halfPast ⟨1⟩ (heartbeat 5000) = .ok (.metaEvent first) ∧
      parseEvent halfPast ⟨2⟩ (heartbeat 15000) = .ok (.metaEvent second) ∧
      first.selfId = second.selfId ∧ first.metaEventType = second.metaEventType ∧
      first.time.timestamp = second.time.timestamp ∧
      fingerprint (defaultHasher fun _ => 0) (.metaEvent first) ≠
        fingerprint (defaultHasher fun _ => 0) (.metaEvent second) ∧
      ¬ DropsAfter (fingerprint (defaultHasher fun _ => 0)) (new 60 0) (.metaEvent first)
        (.metaEvent second) := by
  have apart : fingerprint (defaultHasher fun _ => 0) (.metaEvent (heartbeatEvent ⟨1⟩ 5000)) ≠
      fingerprint (defaultHasher fun _ => 0) (.metaEvent (heartbeatEvent ⟨2⟩ 15000)) := by
    rw [Ne, fingerprint_metaEvent_eq_iff]
    intro same
    exact absurd same.1 (by decide +kernel)
  refine ⟨_, _, parseEvent_heartbeat ⟨1⟩ 5000, parseEvent_heartbeat ⟨2⟩ 15000, rfl, rfl, rfl,
    apart, ?_⟩
  rw [dropsAfter_iff]
  rintro (closed | same)
  · exact absurd closed (by decide)
  · exact apart same

end MetaEvents

end Ferroq.Gateway.DedupFilter
