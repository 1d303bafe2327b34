/-!
# Texts

The operations on strings that several parts of the gateway use.  A text is
handled as the list of its characters.
-/

namespace Ferroq.Core

/-- The characters with the Unicode property `White_Space`. -/
def isWhitespace (char : Char) : Bool :=
  let point := char.toNat
  (9 ≤ point && point ≤ 13) || point == 0x20 || point == 0x85 || point == 0xA0 ||
    point == 0x1680 || (0x2000 ≤ point && point ≤ 0x200A) || point == 0x2028 ||
    point == 0x2029 || point == 0x202F || point == 0x205F || point == 0x3000

def trimEndMatches (matched : Char → Bool) (text : List Char) : List Char :=
  (text.reverse.dropWhile matched).reverse

def trim (text : List Char) : List Char :=
  trimEndMatches isWhitespace (text.dropWhile isWhitespace)

def byteLength : List Char → Nat
  | [] => 0
  | char :: rest => char.utf8Size + byteLength rest

/-- The slice of a text up to a byte, if a character ends there. -/
def sliceTo : Nat → List Char → Option (List Char)
  | 0, _ => some []
  | _ + 1, [] => none
  | size + 1, char :: rest =>
      if char.utf8Size ≤ size + 1 then
        (sliceTo (size + 1 - char.utf8Size) rest).map (char :: ·)
      else none

/-- A text can be cut at a byte exactly if some of its first characters end
there. -/
theorem sliceTo_eq_some_iff {size : Nat} {text slice : List Char} :
    sliceTo size text = some slice ↔ slice <+: text ∧ byteLength slice = size := by
  induction text generalizing size slice with
  | nil =>
      cases size with
      | zero => cases slice <;> simp [sliceTo, byteLength]
      | succ size =>
          cases slice <;> simp [sliceTo, byteLength]
  | cons char rest inductionHypothesis =>
      have positive := char.utf8Size_pos
      cases size with
      | zero =>
          cases slice with
          | nil => simp [sliceTo, byteLength]
          | cons first remaining =>
              have positiveFirst := first.utf8Size_pos
              simp only [sliceTo, byteLength, Option.some.injEq, List.nil_eq, reduceCtorEq,
                false_iff, not_and]
              omega
      | succ size =>
          rw [sliceTo]
          cases slice with
          | nil => split <;> simp [byteLength]
          | cons first remaining =>
              simp only [List.cons_prefix_cons, byteLength]
              split
              next fits =>
                rw [Option.map_eq_some_iff]
                constructor
                · rintro ⟨later, cut, same⟩
                  cases same
                  obtain ⟨begins, bytes⟩ := inductionHypothesis.mp cut
                  exact ⟨⟨rfl, begins⟩, by omega⟩
                · rintro ⟨⟨rfl, begins⟩, bytes⟩
                  exact ⟨remaining, inductionHypothesis.mpr ⟨begins, by omega⟩, rfl⟩
              next tooLong =>
                simp only [reduceCtorEq, false_iff, not_and, and_imp]
                rintro rfl _ bytes
                omega

end Ferroq.Core
