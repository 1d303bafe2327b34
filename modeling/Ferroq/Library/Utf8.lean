/-!
# Lossy decoding of UTF-8

A decoder that reads one byte at a time and writes U+FFFD for every maximal
part of a sequence that is no UTF-8.  What it makes of the encoding of a text
does not depend on the sequence that was open before, except for the sign that
this one was broken off.
-/

namespace Ferroq.Library.Utf8

/-- A sequence whose first bytes have been read: its bits so far, the bounds
of its next byte and the number of bytes after that. -/
structure Begun where
  bits : Nat
  low : Nat
  high : Nat
  further : Nat
  low_ge : 0x80 ≤ low := by omega
  high_le : high ≤ 0xBF := by omega

def replacement : Char := Char.ofNat 0xFFFD

/-- The characters that a byte completes, and the sequence it leaves open. -/
structure Read where
  written : List Char
  begun : Option Begun

def first (byte : Nat) : Read :=
  if byte < 0x80 then ⟨[Char.ofNat byte], none⟩
  else if byte < 0xC2 then ⟨[replacement], none⟩
  else if byte < 0xE0 then
    ⟨[], some { bits := byte - 0xC0, low := 0x80, high := 0xBF, further := 0 }⟩
  else if byte = 0xE0 then ⟨[], some { bits := 0, low := 0xA0, high := 0xBF, further := 1 }⟩
  else if byte = 0xED then ⟨[], some { bits := 0xD, low := 0x80, high := 0x9F, further := 1 }⟩
  else if byte < 0xF0 then
    ⟨[], some { bits := byte - 0xE0, low := 0x80, high := 0xBF, further := 1 }⟩
  else if byte = 0xF0 then ⟨[], some { bits := 0, low := 0x90, high := 0xBF, further := 2 }⟩
  else if byte < 0xF4 then
    ⟨[], some { bits := byte - 0xF0, low := 0x80, high := 0xBF, further := 2 }⟩
  else if byte = 0xF4 then ⟨[], some { bits := 4, low := 0x80, high := 0x8F, further := 2 }⟩
  else ⟨[replacement], none⟩

def Begun.next (sequence : Begun) (byte : Nat) : Read :=
  let bits := sequence.bits * 64 + (byte - 0x80)
  match sequence.further with
  | 0 => ⟨[Char.ofNat bits], none⟩
  | further + 1 => ⟨[], some { bits := bits, low := 0x80, high := 0xBF, further := further }⟩

def broken : Option Begun → List Char
  | none => []
  | some _ => [replacement]

def read (begun : Option Begun) (byte : Nat) : Read :=
  match begun with
  | some sequence =>
      if sequence.low ≤ byte ∧ byte ≤ sequence.high then sequence.next byte
      else ⟨replacement :: (first byte).written, (first byte).begun⟩
  | none => first byte

def decode : Option Begun → List UInt8 → List Char
  | begun, [] => broken begun
  | begun, byte :: rest =>
      (read begun byte.toNat).written ++ decode (read begun byte.toNat).begun rest

def fromUtf8Lossy (bytes : List UInt8) : List Char := decode none bytes

def encode (text : List Char) : List UInt8 := text.flatMap String.utf8EncodeChar

/-- A byte that continues no sequence breaks off the one that is open. -/
theorem read_of_not_continuation (begun : Option Begun) {byte : Nat}
    (outside : byte < 0x80 ∨ 0xBF < byte) :
    read begun byte = ⟨broken begun ++ (first byte).written, (first byte).begun⟩ := by
  cases begun with
  | none => rfl
  | some sequence =>
      have low := sequence.low_ge
      have high := sequence.high_le
      rw [read, if_neg (by omega)]
      rfl

/-- A byte is a character, or opens a sequence. -/
def Read.Single (outcome : Read) : Prop :=
  (∃ char, outcome = ⟨[char], none⟩) ∨ ∃ sequence, outcome = ⟨[], some sequence⟩

theorem single_first (byte : Nat) : (first byte).Single := by
  unfold first
  repeat' refine iteInduction (motive := Read.Single) (fun _ => ?_) (fun _ => ?_)
  all_goals first | exact .inl ⟨_, rfl⟩ | exact .inr ⟨_, rfl⟩

theorem length_read_le (begun : Option Begun) (byte : Nat) :
    (read begun byte).written.length + (broken (read begun byte).begun).length ≤
      1 + (broken begun).length := by
  have fresh : (first byte).written.length + (broken (first byte).begun).length ≤ 1 := by
    rcases single_first byte with ⟨char, single⟩ | ⟨sequence, opens⟩
    · rw [single]
      exact Nat.le_refl 1
    · rw [opens]
      exact Nat.le_refl 1
  cases begun with
  | none => simpa [read, broken] using fresh
  | some sequence =>
      simp only [read]
      split
      next continues =>
        unfold Begun.next
        cases sequence.further <;> simp [broken]
      next breaks =>
        simp only [List.length_cons, broken, List.length_nil] at fresh ⊢
        omega

theorem first_of_two {byte : Nat} (low : 0xC2 ≤ byte) (high : byte < 0xE0) :
    ∃ sequence : Begun, first byte = ⟨[], some sequence⟩ ∧ sequence.bits = byte - 0xC0 ∧
      sequence.further = 0 ∧ sequence.low = 0x80 ∧ sequence.high = 0xBF := by
  unfold first
  rw [if_neg (by omega), if_neg (by omega), if_pos high]
  exact ⟨_, rfl, rfl, rfl, rfl, rfl⟩

theorem first_of_three {byte : Nat} (low : 0xE0 ≤ byte) (high : byte < 0xF0) :
    ∃ sequence : Begun, first byte = ⟨[], some sequence⟩ ∧ sequence.bits = byte - 0xE0 ∧
      sequence.further = 1 ∧ sequence.low = (if byte = 0xE0 then 0xA0 else 0x80) ∧
      sequence.high = (if byte = 0xED then 0x9F else 0xBF) := by
  unfold first
  rw [if_neg (by omega), if_neg (by omega), if_neg (by omega)]
  split
  next least =>
    subst least
    exact ⟨_, rfl, rfl, rfl, rfl, rfl⟩
  next _ =>
    split
    next surrogates =>
      subst surrogates
      exact ⟨_, rfl, rfl, rfl, rfl, rfl⟩
    next _ => exact ⟨_, rfl, rfl, rfl, rfl, rfl⟩

theorem first_of_four {byte : Nat} (low : 0xF0 ≤ byte) (high : byte ≤ 0xF4) :
    ∃ sequence : Begun, first byte = ⟨[], some sequence⟩ ∧ sequence.bits = byte - 0xF0 ∧
      sequence.further = 2 ∧ sequence.low = (if byte = 0xF0 then 0x90 else 0x80) ∧
      sequence.high = (if byte = 0xF4 then 0x8F else 0xBF) := by
  unfold first
  rw [if_neg (by omega), if_neg (by omega), if_neg (by omega), if_neg (by omega),
    if_neg (by omega), if_neg (by omega)]
  split
  next least =>
    subst least
    exact ⟨_, rfl, rfl, rfl, rfl, rfl⟩
  next _ =>
    split
    next _ => exact ⟨_, rfl, rfl, rfl, rfl, by rw [if_neg (by omega)]⟩
    next _ =>
      rw [if_pos (by omega)]
      exact ⟨_, rfl, by simp only; omega, rfl, rfl, by rw [if_pos (by omega)]⟩

theorem decode_of_first {byte : UInt8} {sequence : Begun} (begun : Option Begun)
    (rest : List UInt8) (outside : byte.toNat < 0x80 ∨ 0xBF < byte.toNat)
    (opens : first byte.toNat = ⟨[], some sequence⟩) :
    decode begun (byte :: rest) = broken begun ++ decode (some sequence) rest := by
  simp [decode, read_of_not_continuation begun outside, opens]

theorem decode_of_next {byte : UInt8} {sequence : Begun} {further : Nat} (rest : List UInt8)
    (low : sequence.low ≤ byte.toNat) (high : byte.toNat ≤ sequence.high)
    (more : sequence.further = further + 1) :
    decode (some sequence) (byte :: rest) =
      decode (some
        { bits := sequence.bits * 64 + (byte.toNat - 0x80), low := 0x80, high := 0xBF,
          further := further }) rest := by
  simp [decode, read, low, high, Begun.next, more]

theorem decode_of_last {byte : UInt8} {sequence : Begun} (rest : List UInt8)
    (low : sequence.low ≤ byte.toNat) (high : byte.toNat ≤ sequence.high)
    (last : sequence.further = 0) :
    decode (some sequence) (byte :: rest) =
      Char.ofNat (sequence.bits * 64 + (byte.toNat - 0x80)) :: decode none rest := by
  simp [decode, read, low, high, Begun.next, last]

theorem toNat_ofNat {number : Nat} (small : number < 256) :
    (UInt8.ofNat number).toNat = number := by
  simp; omega

theorem decode_two (begun : Option Begun) {point : Nat} (least : 0x80 ≤ point)
    (most : point < 0x800) (rest : List UInt8) :
    decode begun (UInt8.ofNat (point / 64 % 32 + 0xC0) ::
        UInt8.ofNat (point % 64 + 0x80) :: rest) =
      broken begun ++ Char.ofNat point :: decode none rest := by
  have lead := toNat_ofNat (show point / 64 % 32 + 0xC0 < 256 by omega)
  have tail := toNat_ofNat (show point % 64 + 0x80 < 256 by omega)
  obtain ⟨sequence, opens, bits, further, low, high⟩ :=
    first_of_two (show 0xC2 ≤ point / 64 % 32 + 0xC0 by omega) (by omega)
  rw [decode_of_first begun _ (by omega) (lead.symm ▸ opens),
    decode_of_last _ (by omega) (by omega) further, bits, tail,
    show (point / 64 % 32 + 0xC0 - 0xC0) * 64 + (point % 64 + 0x80 - 0x80) = point by omega]

theorem decode_three (begun : Option Begun) {point : Nat} (least : 0x800 ≤ point)
    (most : point < 0x10000) (valid : point < 0xD800 ∨ 0xDFFF < point) (rest : List UInt8) :
    decode begun (UInt8.ofNat (point / 4096 % 16 + 0xE0) ::
        UInt8.ofNat (point / 64 % 64 + 0x80) :: UInt8.ofNat (point % 64 + 0x80) :: rest) =
      broken begun ++ Char.ofNat point :: decode none rest := by
  have lead := toNat_ofNat (show point / 4096 % 16 + 0xE0 < 256 by omega)
  have middle := toNat_ofNat (show point / 64 % 64 + 0x80 < 256 by omega)
  have tail := toNat_ofNat (show point % 64 + 0x80 < 256 by omega)
  obtain ⟨sequence, opens, bits, further, low, high⟩ :=
    first_of_three (show 0xE0 ≤ point / 4096 % 16 + 0xE0 by omega) (by omega)
  rw [decode_of_first begun _ (by omega) (lead.symm ▸ opens),
    decode_of_next _ (by rw [low, middle]; split <;> omega)
      (by rw [high, middle]; split <;> omega) further,
    decode_of_last _ (by simp only; omega) (by simp only; omega) rfl]
  simp only [bits, middle, tail]
  rw [show ((point / 4096 % 16 + 0xE0 - 0xE0) * 64 + (point / 64 % 64 + 0x80 - 0x80)) * 64 +
    (point % 64 + 0x80 - 0x80) = point by omega]

theorem decode_four (begun : Option Begun) {point : Nat} (least : 0x10000 ≤ point)
    (most : point < 0x110000) (rest : List UInt8) :
    decode begun (UInt8.ofNat (point / 262144 % 8 + 0xF0) ::
        UInt8.ofNat (point / 4096 % 64 + 0x80) :: UInt8.ofNat (point / 64 % 64 + 0x80) ::
          UInt8.ofNat (point % 64 + 0x80) :: rest) =
      broken begun ++ Char.ofNat point :: decode none rest := by
  have lead := toNat_ofNat (show point / 262144 % 8 + 0xF0 < 256 by omega)
  have second := toNat_ofNat (show point / 4096 % 64 + 0x80 < 256 by omega)
  have third := toNat_ofNat (show point / 64 % 64 + 0x80 < 256 by omega)
  have tail := toNat_ofNat (show point % 64 + 0x80 < 256 by omega)
  obtain ⟨sequence, opens, bits, further, low, high⟩ :=
    first_of_four (show 0xF0 ≤ point / 262144 % 8 + 0xF0 by omega) (by omega)
  rw [decode_of_first begun _ (by omega) (lead.symm ▸ opens),
    decode_of_next _ (by rw [low, second]; split <;> omega)
      (by rw [high, second]; split <;> omega) further,
    decode_of_next _ (by simp only; omega) (by simp only; omega) rfl,
    decode_of_last _ (by simp only; omega) (by simp only; omega) rfl]
  simp only [bits, second, third, tail]
  rw [show (((point / 262144 % 8 + 0xF0 - 0xF0) * 64 + (point / 4096 % 64 + 0x80 - 0x80)) * 64 +
    (point / 64 % 64 + 0x80 - 0x80)) * 64 + (point % 64 + 0x80 - 0x80) = point by omega]

/-- The bytes of a character, the first of which continues no sequence, are read
as that character. -/
theorem decode_encodeChar (begun : Option Begun) (char : Char) (rest : List UInt8) :
    decode begun (String.utf8EncodeChar char ++ rest) =
      broken begun ++ char :: decode none rest := by
  have valid : char.toNat < 0xD800 ∨ 0xDFFF < char.toNat ∧ char.toNat < 0x110000 := char.valid
  have same : Char.ofNat char.toNat = char := Char.ofNat_toNat char
  have value : char.val.toNat = char.toNat := rfl
  unfold String.utf8EncodeChar
  simp only [value]
  generalize char.toNat = point at valid same
  rw [← same]
  split
  next one =>
    have byte := toNat_ofNat (show point < 256 by omega)
    rw [List.singleton_append, decode, byte, read_of_not_continuation _ (by omega)]
    simp [first, show point < 128 by omega]
  next moreThanOne =>
    split
    next two => exact decode_two begun (by omega) (by omega) rest
    next moreThanTwo =>
      split
      next three => exact decode_three begun (by omega) (by omega) (by omega) rest
      next moreThanThree => exact decode_four begun (by omega) (by omega) rest

theorem fromUtf8Lossy_encode (text : List Char) : fromUtf8Lossy (encode text) = text := by
  induction text with
  | nil => rfl
  | cons char rest inductionHypothesis =>
      change decode none (String.utf8EncodeChar char ++ encode rest) = char :: rest
      rw [decode_encodeChar]
      exact congrArg (char :: ·) inductionHypothesis

theorem encode_inj {first second : List Char} (same : encode first = encode second) :
    first = second := by
  rw [← fromUtf8Lossy_encode first, same, fromUtf8Lossy_encode]

theorem toNat_lt_of_mem_encode {text : List Char} {byte : UInt8} (held : byte ∈ encode text) :
    byte.toNat < 0xF8 := by
  obtain ⟨char, _, held⟩ := List.mem_flatMap.mp held
  unfold String.utf8EncodeChar at held
  dsimp only at held
  split at held
  next one =>
    rw [List.mem_singleton.mp held, toNat_ofNat (by omega)]
    omega
  next moreThanOne =>
    split at held
    next two =>
      simp only [List.mem_cons, List.not_mem_nil, or_false] at held
      rcases held with rfl | rfl <;> rw [toNat_ofNat (by omega)] <;> omega
    next moreThanTwo =>
      split at held
      next three =>
        simp only [List.mem_cons, List.not_mem_nil, or_false] at held
        rcases held with rfl | rfl | rfl <;> rw [toNat_ofNat (by omega)] <;> omega
      next moreThanThree =>
        simp only [List.mem_cons, List.not_mem_nil, or_false] at held
        rcases held with rfl | rfl | rfl | rfl <;> rw [toNat_ofNat (by omega)] <;> omega

end Ferroq.Library.Utf8
