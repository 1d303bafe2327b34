import Ferroq.Gateway.Dedup.Fingerprint
import Mathlib.Data.List.Infix

/-!
# What the hasher is given

The hasher does not see values but octets: words of eight, and texts that end in
an octet of their own.  The octets for a JSON value determine it, and no value's
octets begin another's.  Thus two events can have the same fingerprint only
where the hasher gives different octets the same word.
-/

namespace Ferroq.Gateway.DedupFilter

open Ferroq.Library Ferroq.Core

/-- Floating-point numbers are compared by their bits. -/
def SameNumber (bitsOf : String → UInt64) (first second : Number) : Prop :=
  first = second ∨
    ∃ text other, first = .float text ∧ second = .float other ∧ bitsOf text = bitsOf other

section

variable (bitsOf : String → UInt64)

mutual

/-- Equality of JSON values, up to the texts of floating-point numbers. -/
def SameValue : Json → Json → Prop
  | .null, .null => True
  | .bool value, .bool other => value = other
  | .number value, .number other => SameNumber bitsOf value other
  | .string value, .string other => value = other
  | .array items, .array others => SameItems items others
  | .object fields, .object others => SameFields fields others
  | _, _ => False

def SameItems : List Json → List Json → Prop
  | [], [] => True
  | item :: rest, other :: others => SameValue item other ∧ SameItems rest others
  | _, _ => False

def SameFields : List (String × Json) → List (String × Json) → Prop
  | [], [] => True
  | (key, value) :: rest, (otherKey, other) :: others =>
      key = otherKey ∧ SameValue value other ∧ SameFields rest others
  | _, _ => False

end

end

mutual

/-- The length of each array and object is a `usize`. -/
def Sized : Json → Prop
  | .array items => items.length < UInt64.size ∧ SizedItems items
  | .object fields => fields.length < UInt64.size ∧ SizedFields fields
  | .null | .bool _ | .number _ | .string _ => True

def SizedItems : List Json → Prop
  | [] => True
  | item :: rest => Sized item ∧ SizedItems rest

def SizedFields : List (String × Json) → Prop
  | [] => True
  | (_, value) :: rest => Sized value ∧ SizedFields rest

end

/-- What is hashed of an event other than a message. -/
structure NonMessage where
  selfId : Int64
  eventType : String
  subType : String
  timestamp : Int64
  extra : Json
  sized : Sized extra

def SameEvent (bitsOf : String → UInt64) (first second : NonMessage) : Prop :=
  first.selfId = second.selfId ∧ first.eventType = second.eventType ∧
    first.subType = second.subType ∧ first.timestamp = second.timestamp ∧
    SameValue bitsOf first.extra second.extra

def octetsOf (bitsOf : String → UInt64) (writes : List Write) : List UInt8 :=
  writes.flatMap (Write.octets bitsOf)

def NonMessage.lowOctets (bitsOf : String → UInt64) (event : NonMessage) : List UInt8 :=
  octetsOf bitsOf
    (lowWrites event.selfId event.eventType event.subType event.timestamp event.extra)

def NonMessage.fingerprint (bitsOf : String → UInt64) (finish : List UInt8 → UInt64)
    (event : NonMessage) : BitVec 128 :=
  hashNonMessage (fun writes => finish (octetsOf bitsOf writes)) event.selfId event.eventType
    event.subType event.timestamp event.extra

variable {bitsOf : String → UInt64}

theorem toNat_octet (word : UInt64) {place : Nat} (small : place < 8) :
    ((word >>> (8 * UInt64.ofNat place)).toUInt8).toNat = word.toNat / 256 ^ place % 256 := by
  have shift : (8 * UInt64.ofNat place).toNat = 8 * place := by
    rw [UInt64.toNat_mul, UInt64.toNat_ofNat']
    change 8 * (place % 2 ^ 64) % 2 ^ 64 = 8 * place
    omega
  rw [UInt64.toNat_toUInt8, UInt64.toNat_shiftRight, shift,
    Nat.mod_eq_of_lt (show 8 * place < 64 by omega), Nat.shiftRight_eq_div_pow, Nat.pow_mul]

theorem eq_of_octets (count : Nat) {first second : Nat} (small : first < 256 ^ count)
    (small' : second < 256 ^ count)
    (same : ∀ place < count, first / 256 ^ place % 256 = second / 256 ^ place % 256) :
    first = second := by
  induction count generalizing first second with
  | zero =>
      rw [Nat.pow_zero] at small small'
      omega
  | succ count inductionHypothesis =>
      have low := same 0 (Nat.succ_pos count)
      simp only [Nat.pow_zero, Nat.div_one] at low
      rw [Nat.pow_succ] at small small'
      have high : first / 256 = second / 256 := by
        apply inductionHypothesis (by omega) (by omega)
        intro place below
        have octet := same (place + 1) (Nat.succ_lt_succ below)
        rwa [Nat.pow_succ', ← Nat.div_div_eq_div_mul, ← Nat.div_div_eq_div_mul] at octet
      omega

theorem wordOctets_inj {first second : UInt64} (same : wordOctets first = wordOctets second) :
    first = second := by
  apply UInt64.toNat_inj.mp
  apply eq_of_octets 8 first.toNat_lt second.toNat_lt
  intro place small
  have octet := List.map_inj_left.mp same place (List.mem_range.mpr small)
  rw [← toNat_octet first small, ← toNat_octet second small, octet]

theorem wordOctets_append_inj {first second : UInt64} {rest others : List UInt8} :
    wordOctets first ++ rest = wordOctets second ++ others ↔ first = second ∧ rest = others := by
  constructor
  · intro same
    obtain ⟨words, rests⟩ := List.append_inj same rfl
    exact ⟨wordOctets_inj words, rests⟩
  · rintro ⟨rfl, rfl⟩
    rfl

theorem cut_at {octet : UInt8} {first second rest others : List UInt8} (absent : octet ∉ first)
    (absent' : octet ∉ second) (same : first ++ octet :: rest = second ++ octet :: others) :
    first = second ∧ rest = others := by
  induction first generalizing second with
  | nil =>
      cases second with
      | nil => exact ⟨rfl, List.tail_eq_of_cons_eq same⟩
      | cons head tail =>
          rw [List.nil_append, List.cons_append, List.cons.injEq] at same
          exact absurd (same.1 ▸ List.mem_cons_self) absent'
  | cons head tail inductionHypothesis =>
      cases second with
      | nil =>
          rw [List.nil_append, List.cons_append, List.cons.injEq] at same
          exact absurd (same.1 ▸ List.mem_cons_self) absent
      | cons other more =>
          rw [List.cons_append, List.cons_append, List.cons.injEq] at same
          obtain ⟨rfl, same⟩ := same
          rw [List.mem_cons, not_or] at absent absent'
          obtain ⟨rfl, rests⟩ := inductionHypothesis absent.2 absent'.2 same
          exact ⟨rfl, rests⟩

/-- A text can be cut off, since it does not contain the octet it ends in. -/
theorem textOctets_append_inj {first second : String} {rest others : List UInt8} :
    (Utf8.encode first.toList ++ [0xFF]) ++ rest =
        (Utf8.encode second.toList ++ [0xFF]) ++ others ↔
      first = second ∧ rest = others := by
  have absent : ∀ text : List Char, (0xFF : UInt8) ∉ Utf8.encode text := by
    intro text held
    have bound := Utf8.toNat_lt_of_mem_encode held
    exact absurd bound (by decide)
  constructor
  · rw [List.append_assoc, List.append_assoc]
    intro same
    obtain ⟨texts, rests⟩ := cut_at (absent _) (absent _) same
    exact ⟨String.toList_inj.mp (Utf8.encode_inj texts), rests⟩
  · rintro ⟨rfl, rfl⟩
    rfl

section

variable {writes : List Write}

@[simp]
theorem octetsOf_nil : octetsOf bitsOf [] = [] := rfl

@[simp]
theorem octetsOf_cons (write : Write) :
    octetsOf bitsOf (write :: writes) = write.octets bitsOf ++ octetsOf bitsOf writes :=
  List.flatMap_cons

@[simp]
theorem octetsOf_append (more : List Write) :
    octetsOf bitsOf (writes ++ more) = octetsOf bitsOf writes ++ octetsOf bitsOf more :=
  List.flatMap_append

end

theorem numberOctets_append_inj {first second : Number} {rest others : List UInt8}
    (same : octetsOf bitsOf (numberWrites first) ++ rest =
      octetsOf bitsOf (numberWrites second) ++ others) :
    SameNumber bitsOf first second ∧ rest = others := by
  unfold numberWrites at same
  cases readFirst : first.asI64 with
  | some value =>
      cases readSecond : second.asI64 with
      | some other =>
          simp only [readFirst, readSecond, octetsOf_cons, octetsOf_nil, Write.octets,
            List.append_nil, List.cons_append, List.nil_append, List.cons.injEq, true_and,
            wordOctets_append_inj] at same
          have values : value = other := toUInt64_inj.mp same.1
          refine ⟨.inl ?_, same.2⟩
          rw [Number.eq_ofInt64 readFirst, values, Number.eq_ofInt64 readSecond]
      | none =>
          cases unsigned : second.asU64 <;>
            simp [readFirst, readSecond, unsigned, Write.octets] at same
  | none =>
      cases readSecond : second.asI64 with
      | some other =>
          cases unsigned : first.asU64 <;>
            simp [readFirst, readSecond, unsigned, Write.octets] at same
      | none =>
          -- Only numbers from 2^63 on and floating-point numbers are left.
          cases first with
          | negInt _ => cases readFirst
          | posInt value =>
              cases second with
              | negInt _ => cases readSecond
              | posInt other =>
                  simp [readFirst, readSecond, Number.asU64, Write.octets,
                    wordOctets_append_inj] at same
                  exact ⟨.inl (congrArg Number.posInt same.1), same.2⟩
              | float text =>
                  simp [readFirst, readSecond, Number.asU64, Write.octets] at same
          | float text =>
              cases second with
              | negInt _ => cases readSecond
              | posInt other =>
                  simp [readFirst, readSecond, Number.asU64, Write.octets] at same
              | float other =>
                  simp [readFirst, readSecond, Number.asU64, Number.toText, Write.octets,
                    wordOctets_append_inj] at same
                  exact ⟨.inr ⟨text, other, rfl, rfl, same.1⟩, same.2⟩

theorem lengths_of_words {first second : Nat} (small : first < UInt64.size)
    (small' : second < UInt64.size) (same : UInt64.ofNat first = UInt64.ofNat second) :
    first = second := by
  have lengths := congrArg UInt64.toNat same
  rwa [UInt64.toNat_ofNat_of_lt' small, UInt64.toNat_ofNat_of_lt' small'] at lengths

mutual

theorem valueOctets_append_inj : ∀ (first second : Json) {rest others : List UInt8},
    Sized first → Sized second →
    octetsOf bitsOf (hashJsonValue first) ++ rest =
        octetsOf bitsOf (hashJsonValue second) ++ others →
      SameValue bitsOf first second ∧ rest = others
  | .null, second, rest, others, _, _, same => by
      cases second <;> simp_all [hashJsonValue, Write.octets, SameValue]
  | .bool value, second, rest, others, _, _, same => by
      cases second with
      | bool other =>
          cases value <;> cases other <;> simp_all [hashJsonValue, Write.octets, SameValue]
      | null | number _ | string _ | array _ | object _ =>
          simp [hashJsonValue, Write.octets] at same
  | .number value, second, rest, others, _, _, same => by
      cases second with
      | number other =>
          simp only [hashJsonValue, octetsOf_cons, Write.octets, List.cons_append,
            List.nil_append, List.cons.injEq, true_and] at same
          exact numberOctets_append_inj same
      | null | bool _ | string _ | array _ | object _ =>
          simp [hashJsonValue, Write.octets] at same
  | .string value, second, rest, others, _, _, same => by
      cases second with
      | string other =>
          simp only [hashJsonValue, octetsOf_cons, octetsOf_nil, Write.octets, List.append_nil,
            List.cons_append, List.nil_append, List.cons.injEq, true_and] at same
          exact textOctets_append_inj.mp same
      | null | bool _ | number _ | array _ | object _ =>
          simp [hashJsonValue, Write.octets] at same
  | .array items, second, rest, others, sized, sized', same => by
      cases second with
      | array more =>
          simp only [hashJsonValue, octetsOf_cons, Write.octets, List.cons_append,
            List.nil_append, List.cons.injEq, true_and, List.append_assoc,
            wordOctets_append_inj] at same
          exact itemsOctets_append_inj items more sized.2 sized'.2
            (lengths_of_words sized.1 sized'.1 same.1) same.2
      | null | bool _ | number _ | string _ | object _ =>
          simp [hashJsonValue, Write.octets] at same
  | .object fields, second, rest, others, sized, sized', same => by
      cases second with
      | object more =>
          simp only [hashJsonValue, octetsOf_cons, Write.octets, List.cons_append,
            List.nil_append, List.cons.injEq, true_and, List.append_assoc,
            wordOctets_append_inj] at same
          exact fieldsOctets_append_inj fields more sized.2 sized'.2
            (lengths_of_words sized.1 sized'.1 same.1) same.2
      | null | bool _ | number _ | string _ | array _ =>
          simp [hashJsonValue, Write.octets] at same

theorem itemsOctets_append_inj : ∀ (first second : List Json) {rest others : List UInt8},
    SizedItems first → SizedItems second → first.length = second.length →
    octetsOf bitsOf (hashItems first) ++ rest = octetsOf bitsOf (hashItems second) ++ others →
      SameItems bitsOf first second ∧ rest = others
  | [], [], rest, others, _, _, _, same => ⟨trivial, same⟩
  | item :: items, other :: more, rest, others, sized, sized', lengths, same => by
      simp only [hashItems, octetsOf_append, List.append_assoc] at same
      obtain ⟨alike, later⟩ := valueOctets_append_inj item other sized.1 sized'.1 same
      obtain ⟨allAlike, rests⟩ :=
        itemsOctets_append_inj items more sized.2 sized'.2 (Nat.succ.inj lengths) later
      exact ⟨⟨alike, allAlike⟩, rests⟩

theorem fieldsOctets_append_inj : ∀ (first second : List (String × Json))
    {rest others : List UInt8},
    SizedFields first → SizedFields second → first.length = second.length →
    octetsOf bitsOf (hashFields first) ++ rest = octetsOf bitsOf (hashFields second) ++ others →
      SameFields bitsOf first second ∧ rest = others
  | [], [], rest, others, _, _, _, same => ⟨trivial, same⟩
  | (key, value) :: fields, (otherKey, other) :: more, rest, others, sized, sized', lengths,
      same => by
      simp only [hashFields, octetsOf_cons, octetsOf_append, List.append_assoc] at same
      obtain ⟨keys, same⟩ := textOctets_append_inj.mp same
      obtain ⟨alike, later⟩ := valueOctets_append_inj value other sized.1 sized'.1 same
      obtain ⟨allAlike, rests⟩ :=
        fieldsOctets_append_inj fields more sized.2 sized'.2 (Nat.succ.inj lengths) later
      exact ⟨⟨keys, alike, allAlike⟩, rests⟩

end

theorem numberOctets_of_same {first second : Number} (alike : SameNumber bitsOf first second) :
    octetsOf bitsOf (numberWrites first) = octetsOf bitsOf (numberWrites second) := by
  rcases alike with rfl | ⟨text, other, rfl, rfl, bits⟩
  · rfl
  · simp [numberWrites, Number.asI64, Number.asU64, Number.toText, Write.octets, bits]

mutual

theorem valueOctets_of_same : ∀ (first second : Json), SameValue bitsOf first second →
    octetsOf bitsOf (hashJsonValue first) = octetsOf bitsOf (hashJsonValue second)
  | .null, second, alike => by
      cases second <;> simp_all [SameValue]
  | .bool value, second, alike => by
      cases second <;> simp_all [SameValue]
  | .number value, second, alike => by
      cases second with
      | number other =>
          simp only [hashJsonValue, octetsOf_cons]
          rw [numberOctets_of_same alike]
      | null | bool _ | string _ | array _ | object _ => cases alike
  | .string value, second, alike => by
      cases second <;> simp_all [SameValue]
  | .array items, second, alike => by
      cases second with
      | array more =>
          obtain ⟨octets, lengths⟩ := itemsOctets_of_same items more alike
          simp only [hashJsonValue, octetsOf_cons, octets, lengths]
      | null | bool _ | string _ | number _ | object _ => cases alike
  | .object fields, second, alike => by
      cases second with
      | object more =>
          obtain ⟨octets, lengths⟩ := fieldsOctets_of_same fields more alike
          simp only [hashJsonValue, octetsOf_cons, octets, lengths]
      | null | bool _ | string _ | number _ | array _ => cases alike

theorem itemsOctets_of_same : ∀ (first second : List Json), SameItems bitsOf first second →
    octetsOf bitsOf (hashItems first) = octetsOf bitsOf (hashItems second) ∧
      first.length = second.length
  | [], [], _ => ⟨rfl, rfl⟩
  | item :: items, other :: more, alike => by
      obtain ⟨octets, lengths⟩ := itemsOctets_of_same items more alike.2
      simp only [hashItems, octetsOf_append, List.length_cons]
      rw [valueOctets_of_same item other alike.1, octets, lengths]
      exact ⟨rfl, rfl⟩

theorem fieldsOctets_of_same : ∀ (first second : List (String × Json)),
    SameFields bitsOf first second →
    octetsOf bitsOf (hashFields first) = octetsOf bitsOf (hashFields second) ∧
      first.length = second.length
  | [], [], _ => ⟨rfl, rfl⟩
  | (key, value) :: fields, (otherKey, other) :: more, alike => by
      obtain ⟨keys, values, later⟩ := alike
      obtain ⟨octets, lengths⟩ := fieldsOctets_of_same fields more later
      simp only [hashFields, octetsOf_cons, octetsOf_append, List.length_cons]
      rw [keys, valueOctets_of_same value other values, octets, lengths]
      exact ⟨rfl, rfl⟩

end

theorem valueOctets_prefix_iff {first second : Json} (sized : Sized first)
    (sized' : Sized second) :
    octetsOf bitsOf (hashJsonValue first) <+: octetsOf bitsOf (hashJsonValue second) ↔
      SameValue bitsOf first second := by
  constructor
  · rintro ⟨rest, begun⟩
    rw [← List.append_nil (octetsOf bitsOf (hashJsonValue second))] at begun
    exact (valueOctets_append_inj first second sized sized' begun).1
  · intro alike
    rw [valueOctets_of_same first second alike]

theorem lowOctets_eq_iff (first second : NonMessage) :
    first.lowOctets bitsOf = second.lowOctets bitsOf ↔ SameEvent bitsOf first second := by
  unfold NonMessage.lowOctets lowWrites SameEvent
  simp only [octetsOf_append, octetsOf_cons, octetsOf_nil, List.append_nil, List.append_assoc]
  constructor
  · intro same
    obtain ⟨accounts, same⟩ := wordOctets_append_inj.mp same
    obtain ⟨types, same⟩ := textOctets_append_inj.mp same
    obtain ⟨subTypes, same⟩ := textOctets_append_inj.mp same
    obtain ⟨times, same⟩ := wordOctets_append_inj.mp same
    have extras := (valueOctets_prefix_iff first.sized second.sized).mp (by rw [same])
    exact ⟨toUInt64_inj.mp accounts, types, subTypes, toUInt64_inj.mp times, extras⟩
  · rintro ⟨accounts, types, subTypes, times, extras⟩
    rw [accounts, types, subTypes, times, valueOctets_of_same _ _ extras]

/-- The octets that the first hasher is given determine the event, the octets of
a JSON value begin those of no other, and two different events have the same
fingerprint only if the hasher gives the same word for different octets. -/
theorem lowOctets_injective (bitsOf : String → UInt64) (finish : List UInt8 → UInt64)
    (first second : NonMessage) :
    (first.lowOctets bitsOf = second.lowOctets bitsOf ↔ SameEvent bitsOf first second) ∧
      (octetsOf bitsOf (hashJsonValue first.extra) <+:
          octetsOf bitsOf (hashJsonValue second.extra) ↔
        SameValue bitsOf first.extra second.extra) ∧
      (first.fingerprint bitsOf finish = second.fingerprint bitsOf finish →
        SameEvent bitsOf first second ∨
          first.lowOctets bitsOf ≠ second.lowOctets bitsOf ∧
            finish (first.lowOctets bitsOf) = finish (second.lowOctets bitsOf)) := by
  refine ⟨lowOctets_eq_iff first second, valueOctets_prefix_iff first.sized second.sized, ?_⟩
  intro same
  rw [← lowOctets_eq_iff]
  have words := (pack_inj.mp same).2
  by_cases alike : first.lowOctets bitsOf = second.lowOctets bitsOf
  · exact .inl alike
  · exact .inr ⟨alike, words⟩

example : octetsOf (fun _ => 0) (hashJsonValue (.object [("a", .array [.bool true])])) =
    [5, 1, 0, 0, 0, 0, 0, 0, 0, 0x61, 0xFF, 4, 1, 0, 0, 0, 0, 0, 0, 0, 1, 1] := by
  decide

end Ferroq.Gateway.DedupFilter
