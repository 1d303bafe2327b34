import Ferroq.Library.Utf8

/-!
# Form-urlencoded texts

The parameters of a query and the decoding of their names and values: `+` is a
blank, `%XX` a byte, and the bytes are read as UTF-8.  Decoding leaves exactly
the plain texts as they are.
-/

namespace Ferroq.Library.FormUrlencoded

open Utf8

def hexValue (char : Char) : Option Nat :=
  if '0' ≤ char ∧ char ≤ '9' then some (char.toNat - 48)
  else if 'A' ≤ char ∧ char ≤ 'F' then some (char.toNat - 55)
  else if 'a' ≤ char ∧ char ≤ 'f' then some (char.toNat - 87)
  else none

/-- The byte that `%` and two further characters stand for. -/
def escape (mark high low : Char) : Option UInt8 :=
  if mark = '%' then do
    let upper ← hexValue high
    let lower ← hexValue low
    return UInt8.ofNat (upper * 16 + lower)
  else none

def percentDecode : List Char → List UInt8
  | [] => []
  | '+' :: rest => 0x20 :: percentDecode rest
  | mark :: high :: low :: rest =>
      match escape mark high low with
      | some byte => byte :: percentDecode rest
      | none => String.utf8EncodeChar mark ++ percentDecode (high :: low :: rest)
  | char :: rest => String.utf8EncodeChar char ++ percentDecode rest

def formDecode (text : List Char) : List Char := fromUtf8Lossy (percentDecode text)

def splitOnce (separator : Char) (text : List Char) : Option (List Char × List Char) :=
  match text.span (· ≠ separator) with
  | (before, _ :: after) => some (before, after)
  | (_, []) => none

def parameters (query : List Char) : List (List Char × List Char) :=
  ((query.splitOn '&').filter (· ≠ [])).map fun sequence =>
    (splitOnce '=' sequence).getD (sequence, [])

def parse (query : List Char) : List (List Char × List Char) :=
  (parameters query).map fun (name, value) => (formDecode name, formDecode value)

/-- A text without `+` and without an escape. -/
def Plain (text : List Char) : Prop :=
  '+' ∉ text ∧ ∀ mark high low, [mark, high, low] <:+: text → escape mark high low = none

theorem plain_nil : Plain [] := by
  constructor
  · simp
  · intro mark high low occurs
    simp at occurs

theorem Plain.of_cons {char : Char} {rest : List Char} (plain : Plain (char :: rest)) :
    Plain rest := by
  constructor
  · exact fun plus => plain.1 (List.mem_cons_of_mem char plus)
  · exact fun mark high low occurs => plain.2 mark high low (List.infix_cons occurs)

theorem Plain.cons {char : Char} {rest : List Char} (plain : Plain rest) (noPlus : char ≠ '+')
    (noEscape : ∀ high low, [high, low] <+: rest → escape char high low = none) :
    Plain (char :: rest) := by
  constructor
  · simp [noPlus.symm, plain.1]
  · intro mark high low occurs
    rcases List.infix_cons_iff.mp occurs with starts | within
    · obtain ⟨rfl, tail⟩ := List.cons_prefix_cons.mp starts
      exact noEscape high low tail
    · exact plain.2 mark high low within

theorem plain_of_not_mem {text : List Char} (noPlus : '+' ∉ text) (noMark : '%' ∉ text) :
    Plain text := by
  refine ⟨noPlus, fun mark high low occurs => ?_⟩
  have member : mark ∈ text := occurs.subset List.mem_cons_self
  rw [escape, if_neg (by rintro rfl; exact noMark member)]

theorem length_decode_percentDecode_le (text : List Char) (begun : Option Begun) :
    (decode begun (percentDecode text)).length ≤ (broken begun).length + text.length := by
  fun_induction percentDecode text generalizing begun with
  | case1 => simp [decode]
  | case2 rest inductionHypothesis =>
      have byte := length_read_le begun (0x20 : UInt8).toNat
      have later := inductionHypothesis (read begun (0x20 : UInt8).toNat).begun
      rw [decode, List.length_append, List.length_cons]
      omega
  | case3 mark high low rest noPlus byte escaped inductionHypothesis =>
      have written := length_read_le begun byte.toNat
      have later := inductionHypothesis (read begun byte.toNat).begun
      rw [decode, List.length_append, List.length_cons, List.length_cons, List.length_cons]
      omega
  | case4 mark high low rest noPlus noEscape inductionHypothesis =>
      have later := inductionHypothesis none
      rw [decode_encodeChar, List.length_append]
      simp only [List.length_cons, broken, List.length_nil] at later ⊢
      omega
  | case5 char rest noPlus short inductionHypothesis =>
      have later := inductionHypothesis none
      rw [decode_encodeChar, List.length_append]
      simp only [List.length_cons, broken, List.length_nil] at later ⊢
      omega

theorem formDecode_eq_self_iff (text : List Char) : formDecode text = text ↔ Plain text := by
  unfold formDecode fromUtf8Lossy
  fun_induction percentDecode text with
  | case1 => simp [decode, broken, plain_nil]
  | case2 rest inductionHypothesis =>
      constructor
      · intro same
        have blank : decode none (0x20 :: percentDecode rest) =
            ' ' :: decode none (percentDecode rest) := rfl
        rw [blank] at same
        exact absurd (List.cons.inj same).1 (by decide)
      · exact fun plain => absurd List.mem_cons_self plain.1
  | case3 mark high low rest noPlus byte escaped inductionHypothesis =>
      constructor
      · intro same
        have written := length_read_le none byte.toNat
        have later := length_decode_percentDecode_le rest (read none byte.toNat).begun
        have lengths := congrArg List.length same
        simp only [decode, List.length_append, List.length_cons, broken, List.length_nil]
          at lengths written later
        omega
      · intro plain
        have begins : [mark, high, low] <:+: mark :: high :: low :: rest :=
          ⟨[], rest, rfl⟩
        simp [plain.2 mark high low begins] at escaped
  | case4 mark high low rest noPlus noEscape inductionHypothesis =>
      rw [decode_encodeChar]
      simp only [broken, List.nil_append, List.cons.injEq, true_and, inductionHypothesis]
      constructor
      · intro plain
        refine plain.cons noPlus fun other another starts => ?_
        obtain ⟨rfl, tail⟩ := List.cons_prefix_cons.mp starts
        obtain ⟨rfl, -⟩ := List.cons_prefix_cons.mp tail
        exact noEscape
      · exact Plain.of_cons
  | case5 char rest noPlus short inductionHypothesis =>
      rw [decode_encodeChar]
      simp only [broken, List.nil_append, List.cons.injEq, true_and, inductionHypothesis]
      constructor
      · intro plain
        refine plain.cons noPlus fun high low starts => ?_
        obtain ⟨after, rfl⟩ := starts
        exact absurd rfl (short high low after)
      · exact Plain.of_cons

end Ferroq.Library.FormUrlencoded
