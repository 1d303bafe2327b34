/-!
# SipHash-1-3

The keyed hash of a sequence of octets with one round for each word and three
rounds at the end.
-/

namespace Ferroq.Library.SipHash

structure State where
  v0 : UInt64
  v1 : UInt64
  v2 : UInt64
  v3 : UInt64

def rotateLeft (word count : UInt64) : UInt64 := (word <<< count) ||| (word >>> (64 - count))

def State.round (state : State) : State :=
  let v0 := state.v0 + state.v1
  let v1 := rotateLeft state.v1 13 ^^^ v0
  let v0 := rotateLeft v0 32
  let v2 := state.v2 + state.v3
  let v3 := rotateLeft state.v3 16 ^^^ v2
  let v0 := v0 + v3
  let v3 := rotateLeft v3 21 ^^^ v0
  let v2 := v2 + v1
  let v1 := rotateLeft v1 17 ^^^ v2
  let v2 := rotateLeft v2 32
  ⟨v0, v1, v2, v3⟩

def State.absorb (state : State) (word : UInt64) : State :=
  let state := { state with v3 := state.v3 ^^^ word }.round
  { state with v0 := state.v0 ^^^ word }

def wordOf (octets : List UInt8) : UInt64 :=
  octets.foldr (fun octet word => word <<< 8 ||| octet.toUInt64) 0

/-- Absorb the octets in words.  The last word is short, and has the length of
the whole sequence at its top. -/
def absorbAll (length : Nat) : State → List UInt8 → State
  | state, b0 :: b1 :: b2 :: b3 :: b4 :: b5 :: b6 :: b7 :: rest =>
      absorbAll length (state.absorb (wordOf [b0, b1, b2, b3, b4, b5, b6, b7])) rest
  | state, rest => state.absorb (wordOf rest ||| (UInt64.ofNat length <<< 56))

def start (k0 k1 : UInt64) : State :=
  { v0 := k0 ^^^ 0x736f6d6570736575
    v1 := k1 ^^^ 0x646f72616e646f6d
    v2 := k0 ^^^ 0x6c7967656e657261
    v3 := k1 ^^^ 0x7465646279746573 }

def hash13 (k0 k1 : UInt64) (octets : List UInt8) : UInt64 :=
  let state := absorbAll octets.length (start k0 k1) octets
  let state := { state with v2 := state.v2 ^^^ 0xff }.round.round.round
  state.v0 ^^^ state.v1 ^^^ state.v2 ^^^ state.v3

example : hash13 0x0706050403020100 0x0f0e0d0c0b0a0908 [] = 0xabac0158050fc4dc := by
  decide +kernel

end Ferroq.Library.SipHash
