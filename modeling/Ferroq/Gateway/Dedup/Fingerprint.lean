import Ferroq.Library.Utf8
import Ferroq.Library.SipHash
import Ferroq.Gateway.Dedup.Runs
import Ferroq.Gateway.OneBotV11

/-!
# Fingerprints

A message event is known by its account and its number.  Any other event is
hashed as a whole, with everything that its raw object holds.  The hasher is a
parameter: a function of what is written to it.  The writes for a JSON value
determine it, so that two events collide only if the hasher does.
-/

namespace Ferroq.Gateway.DedupFilter

open Ferroq.Library Ferroq.Core
open Ferroq.Gateway.OneBotV11

/-- A value written to a hasher.  The bits of a floating-point number are given
by its text, which determines them. -/
inductive Write where
  | u8 (value : UInt8)
  | bool (value : Bool)
  | i64 (value : Int64)
  | u64 (value : UInt64)
  | usize (value : Nat)
  | bits (text : String)
  | str (text : String)
  deriving DecidableEq

def wordOctets (word : UInt64) : List UInt8 :=
  (List.range 8).map fun place => (word >>> (8 * UInt64.ofNat place)).toUInt8

/-- What the standard hasher sees of a value.  A text ends in an octet that no
text contains. -/
def Write.octets (bitsOf : String → UInt64) : Write → List UInt8
  | u8 value => [value]
  | bool value => [if value then 1 else 0]
  | i64 value => wordOctets value.toUInt64
  | u64 value => wordOctets value
  | usize value => wordOctets (UInt64.ofNat value)
  | bits text => wordOctets (bitsOf text)
  | str text => Utf8.encode text.toList ++ [0xFF]

/-- The standard hasher of the source's language, whose key is zero. -/
def defaultHasher (bitsOf : String → UInt64) (writes : List Write) : UInt64 :=
  SipHash.hash13 0 0 (writes.flatMap (Write.octets bitsOf))

def numberWrites (number : Number) : List Write :=
  match number.asI64 with
  | some value => [.u8 0, .i64 value]
  | none =>
      match number.asU64 with
      | some value => [.u8 1, .u64 value]
      | none => [.u8 2, .bits number.toText]

mutual

def hashJsonValue : Json → List Write
  | .null => [.u8 0]
  | .bool value => [.u8 1, .bool value]
  | .number value => .u8 2 :: numberWrites value
  | .string value => [.u8 3, .str value]
  | .array items => .u8 4 :: .usize items.length :: hashItems items
  | .object fields => .u8 5 :: .usize fields.length :: hashFields fields

def hashItems : List Json → List Write
  | [] => []
  | item :: rest => hashJsonValue item ++ hashItems rest

def hashFields : List (String × Json) → List Write
  | [] => []
  | (key, value) :: rest => .str key :: (hashJsonValue value ++ hashFields rest)

end

/-- `(hi << 64) | lo` on 128 bits. -/
def pack (hi lo : UInt64) : BitVec 128 :=
  (hi.toBitVec.setWidth 128 <<< 64) ||| lo.toBitVec.setWidth 128

/-- What the first hasher of an event other than a message is given. -/
def lowWrites (selfId : Int64) (eventType subType : String) (timestamp : Int64) (extra : Json) :
    List Write :=
  [.i64 selfId, .str eventType, .str subType, .i64 timestamp] ++ hashJsonValue extra

/-- What the second one is given, which takes up the result of the first. -/
def highWrites (lo : UInt64) (selfId timestamp : Int64) (extra : Json) : List Write :=
  [.u64 lo, .i64 selfId, .i64 timestamp] ++ hashJsonValue extra

section

variable (hash : List Write → UInt64)

def hashNonMessage (selfId : Int64) (eventType subType : String) (timestamp : Int64)
    (extra : Json) : BitVec 128 :=
  let lo := hash (lowWrites selfId eventType subType timestamp extra)
  let hi := hash (highWrites lo selfId timestamp extra)
  pack hi lo

def fingerprint : Event → BitVec 128
  | .message event => pack event.selfId.toUInt64 event.messageId.toUInt64
  | .notice event =>
      hashNonMessage hash event.selfId event.noticeType event.subType event.time.timestamp
        event.extra
  | .request event =>
      hashNonMessage hash event.selfId event.requestType event.subType event.time.timestamp
        event.extra
  | .metaEvent event =>
      hashNonMessage hash event.selfId event.metaEventType event.subType event.time.timestamp
        event.extra

end

theorem toNat_pack (hi lo : UInt64) : (pack hi lo).toNat = hi.toNat * 2 ^ 64 + lo.toNat := by
  have high : hi.toNat < 2 ^ 64 := hi.toBitVec.isLt
  have low : lo.toNat < 2 ^ 64 := lo.toBitVec.isLt
  have shifted : (hi.toBitVec.setWidth 128 <<< 64).toNat = hi.toNat <<< 64 := by
    rw [BitVec.toNat_shiftLeft, BitVec.toNat_setWidth, Nat.shiftLeft_eq]
    change hi.toNat % 2 ^ 128 * 2 ^ 64 % 2 ^ 128 = hi.toNat <<< 64
    rw [Nat.shiftLeft_eq]
    omega
  have kept : (lo.toBitVec.setWidth 128).toNat = lo.toNat := by
    rw [BitVec.toNat_setWidth]
    change lo.toNat % 2 ^ 128 = lo.toNat
    omega
  rw [pack, BitVec.toNat_or, shifted, kept, ← Nat.shiftLeft_add_eq_or_of_lt low, Nat.shiftLeft_eq]

theorem pack_inj {hi lo hi' lo' : UInt64} : pack hi lo = pack hi' lo' ↔ hi = hi' ∧ lo = lo' := by
  have low : lo.toNat < 2 ^ 64 := lo.toBitVec.isLt
  have low' : lo'.toNat < 2 ^ 64 := lo'.toBitVec.isLt
  rw [← BitVec.toNat_inj, toNat_pack, toNat_pack, ← UInt64.toNat_inj, ← UInt64.toNat_inj]
  omega

theorem toUInt64_inj {first second : Int64} :
    first.toUInt64 = second.toUInt64 ↔ first = second := by
  constructor
  · intro same
    rw [← Int64.toInt64_toUInt64 first, same, Int64.toInt64_toUInt64]
  · exact congrArg Int64.toUInt64

theorem numberWrites_inj {first second : Number} {rest others : List Write}
    (same : numberWrites first ++ rest = numberWrites second ++ others) :
    first = second ∧ rest = others := by
  unfold numberWrites at same
  cases readFirst : first.asI64 with
  | some value =>
      cases readSecond : second.asI64 with
      | some other =>
          simp only [readFirst, readSecond, List.cons_append, List.nil_append, List.cons.injEq,
            Write.i64.injEq, true_and] at same
          obtain ⟨rfl, rfl⟩ := same
          exact ⟨(Number.eq_ofInt64 readFirst).trans (Number.eq_ofInt64 readSecond).symm, rfl⟩
      | none =>
          cases unsigned : second.asU64 <;> simp [readFirst, readSecond, unsigned] at same
  | none =>
      cases readSecond : second.asI64 with
      | some other =>
          cases unsigned : first.asU64 <;> simp [readFirst, readSecond, unsigned] at same
      | none =>
          -- Only numbers from 2^63 on and floating-point numbers are left.
          cases first with
          | negInt _ => cases readFirst
          | posInt _ | float _ =>
              cases second with
              | negInt _ => cases readSecond
              | posInt _ | float _ =>
                  simp_all [Number.asU64, Number.toText]

mutual

/-- The writes for a value determine it, and what is written after it. -/
theorem hashJsonValue_inj : ∀ (first second : Json) {rest others : List Write},
    hashJsonValue first ++ rest = hashJsonValue second ++ others →
      first = second ∧ rest = others
  | .null, second, rest, others, same => by
      cases second <;> simp_all [hashJsonValue]
  | .bool value, second, rest, others, same => by
      cases second <;> simp_all [hashJsonValue]
  | .number value, second, rest, others, same => by
      cases second with
      | number other =>
          simp only [hashJsonValue, List.cons_append, List.cons.injEq, true_and] at same
          obtain ⟨rfl, rfl⟩ := numberWrites_inj same
          exact ⟨rfl, rfl⟩
      | null | bool _ | string _ | array _ | object _ => simp [hashJsonValue] at same
  | .string value, second, rest, others, same => by
      cases second <;> simp_all [hashJsonValue]
  | .array items, second, rest, others, same => by
      cases second with
      | array more =>
          simp only [hashJsonValue, List.cons_append, List.cons.injEq, Write.usize.injEq,
            true_and] at same
          obtain ⟨rfl, rfl⟩ := hashItems_inj items more same.1 same.2
          exact ⟨rfl, rfl⟩
      | null | bool _ | string _ | number _ | object _ => simp [hashJsonValue] at same
  | .object fields, second, rest, others, same => by
      cases second with
      | object more =>
          simp only [hashJsonValue, List.cons_append, List.cons.injEq, Write.usize.injEq,
            true_and] at same
          obtain ⟨rfl, rfl⟩ := hashFields_inj fields more same.1 same.2
          exact ⟨rfl, rfl⟩
      | null | bool _ | string _ | number _ | array _ => simp [hashJsonValue] at same

theorem hashItems_inj : ∀ (first second : List Json) {rest others : List Write},
    first.length = second.length →
    hashItems first ++ rest = hashItems second ++ others → first = second ∧ rest = others
  | [], [], rest, others, _, same => ⟨rfl, same⟩
  | item :: items, other :: more, rest, others, lengths, same => by
      simp only [hashItems, List.append_assoc] at same
      obtain ⟨rfl, later⟩ := hashJsonValue_inj item other same
      obtain ⟨rfl, rfl⟩ := hashItems_inj items more (Nat.succ.inj lengths) later
      exact ⟨rfl, rfl⟩

theorem hashFields_inj : ∀ (first second : List (String × Json)) {rest others : List Write},
    first.length = second.length →
    hashFields first ++ rest = hashFields second ++ others → first = second ∧ rest = others
  | [], [], rest, others, _, same => ⟨rfl, same⟩
  | (key, value) :: fields, (otherKey, other) :: more, rest, others, lengths, same => by
      simp only [hashFields, List.cons_append, List.cons.injEq, Write.str.injEq,
        List.append_assoc] at same
      obtain ⟨rfl, same⟩ := same
      obtain ⟨rfl, later⟩ := hashJsonValue_inj value other same
      obtain ⟨rfl, rfl⟩ := hashFields_inj fields more (Nat.succ.inj lengths) later
      exact ⟨rfl, rfl⟩

end

theorem eq_of_hashJsonValue {first second : Json}
    (same : hashJsonValue first = hashJsonValue second) : first = second := by
  have followed : hashJsonValue first ++ [] = hashJsonValue second ++ [] := by rw [same]
  exact (hashJsonValue_inj first second followed).1

theorem lowWrites_inj {selfId otherId timestamp otherTime : Int64}
    {eventType subType otherType otherSub : String} {extra other : Json}
    (same : lowWrites selfId eventType subType timestamp extra =
      lowWrites otherId otherType otherSub otherTime other) : extra = other := by
  simp only [lowWrites, List.cons_append, List.nil_append, List.cons.injEq] at same
  exact eq_of_hashJsonValue same.2.2.2.2

theorem highWrites_inj {lo otherLo : UInt64} {selfId otherId timestamp otherTime : Int64}
    {extra other : Json}
    (same : highWrites lo selfId timestamp extra = highWrites otherLo otherId otherTime other) :
    extra = other := by
  simp only [highWrites, List.cons_append, List.nil_append, List.cons.injEq] at same
  exact eq_of_hashJsonValue same.2.2.2

end Ferroq.Gateway.DedupFilter
