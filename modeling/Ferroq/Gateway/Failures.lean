import Ferroq.Gateway.Lagrange.Inner
import Ferroq.Gateway.Official.Call

/-!
# Failures of a backend

The two adapters read the return code of a backend as a signed integer of 64
bits and keep its lowest 32 bits.  They differ in what they take for a code that
is missing or no such integer.
-/

namespace Ferroq.Gateway.Failures

open Ferroq.Core
open Ferroq.Core.Serde
open Ferroq.Gateway.Official

/-- A number that stands for an integer other than zero.  An integer beyond 64
bits arrives as a floating-point number; which of these count is left open. -/
def NonZeroInteger (integral : String → Prop) : Json → Prop
  | .number (.posInt value) => value ≠ 0
  | .number (.negInt _) => True
  | .number (.float text) => integral text
  | _ => False

/-- A body that says that the backend has failed. -/
def ReportsFailure (integral : String → Prop) (body : Json) : Prop :=
  (∃ retcode, body.get "retcode" = some retcode ∧ NonZeroInteger integral retcode) ∨
    body.get "status" = some (.string "failed")

/-- The return code is an integer of 64 bits. -/
def HasCode (body : Json) : Prop := ∃ retcode, body.get "retcode" = some (.integer retcode)

/-- The return code is an integer of 64 bits whose lowest 32 bits are zero. -/
def HasZeroedCode (body : Json) : Prop :=
  ∃ retcode : Int64, body.get "retcode" = some (.integer retcode) ∧
    (4294967296 : Int) ∣ retcode.toInt

theorem toInt32_eq_zero_iff (value : Int64) :
    value.toInt32 = 0 ↔ (4294967296 : Int) ∣ value.toInt := by
  rw [← Int32.toInt_inj, Int64.toInt_toInt32]
  change value.toInt.bmod (2 ^ 32) = 0 ↔ _
  rw [← Int.dvd_iff_bmod_eq_zero]
  rfl

theorem cutCode_eq_zero_iff (body : Json) (default : Int64) :
    (((body.get "retcode").bind Json.asI64).getD default).toInt32 = 0 ↔
      HasZeroedCode body ∨ ¬ HasCode body ∧ default.toInt32 = 0 := by
  cases read : (body.get "retcode").bind Json.asI64 with
  | some retcode =>
      obtain ⟨given, named, integer⟩ := Option.bind_eq_some_iff.mp read
      rw [Json.eq_integer integer] at named
      rw [Option.getD_some, toInt32_eq_zero_iff]
      constructor
      · exact fun zeroed => .inl ⟨retcode, named, zeroed⟩
      · rintro (⟨other, same, zeroed⟩ | ⟨missing, -⟩)
        · rw [same, Option.bind_some, Json.asI64_integer] at read
          cases read
          exact zeroed
        · exact absurd ⟨retcode, named⟩ missing
  | none =>
      have missing : ¬ HasCode body := by
        rintro ⟨retcode, named⟩
        rw [named, Option.bind_some, Json.asI64_integer] at read
        cases read
      rw [Option.getD_none]
      constructor
      · exact fun zero => .inr ⟨missing, zero⟩
      · rintro (⟨retcode, named, -⟩ | ⟨-, zero⟩)
        · exact absurd ⟨retcode, named⟩ missing
        · exact zero

section Lagrange

/-- A missing code is taken for an error. -/
theorem retcode_responseOf_ne_zero_iff (frame : Json) :
    (Lagrange.responseOf frame).retcode ≠ 0 ↔ ¬ HasZeroedCode frame := by
  have minusOne : (-1 : Int64).toInt32 ≠ 0 := by decide
  rw [Lagrange.responseOf, Ne, cutCode_eq_zero_iff, or_iff_left fun missing => minusOne missing.2]

end Lagrange

section Official

/-- What the two parsers of an official adapter make of a body that is a JSON
document. -/
structure ParsesAs (exchange : Exchange) (body : String) (document : Json) : Prop where
  notBlank : body.toList.all isWhitespace = false
  strict : exchange.responseFromStr body = ApiResponse.deserialize document
  lenient : ∀ value, exchange.fromStr body = .ok value → value = readValue document

/-- A missing code is taken for success. -/
theorem retcode_responseOfValue_ne_zero_iff (value : Json) (requestEcho : Option Json) :
    (Exchange.responseOfValue value requestEcho).retcode ≠ 0 ↔
      HasCode value ∧ ¬ HasZeroedCode value := by
  have zero : (0 : Int64).toInt32 = 0 := by decide
  rw [Exchange.responseOfValue, Ne, cutCode_eq_zero_iff, and_iff_left zero, not_or, not_not,
    and_comm]

theorem dvd_toInt_toInt64_iff (value : Int32) :
    (4294967296 : Int) ∣ value.toInt64.toInt ↔ value = 0 := by
  rw [← toInt32_eq_zero_iff, Int32.toInt32_toInt64]

theorem retcode_deserialize_ne_zero_iff {integral : String → Prop} {document : Json}
    {response : ApiResponse} (fails : ReportsFailure integral (readValue document))
    (read : ApiResponse.deserialize document = some response) :
    response.retcode ≠ 0 ↔ HasCode (readValue document) ∧ ¬ HasZeroedCode (readValue document) := by
  cases document with
  | object fields =>
      have named := ApiResponse.retcode_of_ofFields read
      have code : HasCode (readValue (.object fields)) := ⟨response.retcode.toInt64, named⟩
      rw [and_iff_right code, not_iff_not]
      constructor
      · intro zero
        exact ⟨response.retcode.toInt64, named, (dvd_toInt_toInt64_iff _).mpr zero⟩
      · rintro ⟨retcode, same, zeroed⟩
        have equal := congrArg (fun found => found.bind Json.asI64) (named.symm.trans same)
        simp only [Option.bind_some, Json.asI64_integer32, Json.asI64_integer,
          Option.some.injEq] at equal
        rw [← equal] at zeroed
        exact (dvd_toInt_toInt64_iff _).mp zeroed
  | array items => simp [ReportsFailure, readValue, Json.get] at fails
  | null | bool _ | number _ | string _ => cases read

theorem retcode_parseApiResponse_ne_zero_iff {integral : String → Prop} {exchange : Exchange}
    {action body : String} {reply : HttpResponse} {requestEcho : Option Json} {document : Json}
    {response : ApiResponse} (parses : ParsesAs exchange body document)
    (fails : ReportsFailure integral (readValue document))
    (built : exchange.parseApiResponse action reply body requestEcho = .ok response) :
    response.retcode ≠ 0 ↔ HasCode (readValue document) ∧ ¬ HasZeroedCode (readValue document) := by
  unfold Exchange.parseApiResponse at built
  rw [parses.notBlank, parses.strict] at built
  split at built
  next => cases built
  next =>
    split at built
    next blank => cases blank
    next =>
      split at built
      next parsed read =>
        cases built
        change parsed.retcode ≠ 0 ↔ _
        exact retcode_deserialize_ne_zero_iff fails read
      next =>
        split at built
        next => cases built
        next value read =>
          cases built
          rw [← parses.lenient value read]
          exact retcode_responseOfValue_ne_zero_iff value requestEcho

end Official

/-- A failure of a backend does not become a success exactly if its code does
not lose all of its bits, and an official backend gives one. -/
theorem failuresKept_iff (integral : String → Prop) :
    (∀ frame, ReportsFailure integral frame →
      ((Lagrange.responseOf frame).retcode ≠ 0 ↔ ¬ HasZeroedCode frame)) ∧
    ∀ (exchange : Exchange) (action body : String) (reply : HttpResponse)
      (requestEcho : Option Json) (document : Json) (response : ApiResponse),
      ParsesAs exchange body document → ReportsFailure integral (readValue document) →
      exchange.parseApiResponse action reply body requestEcho = .ok response →
      (response.retcode ≠ 0 ↔
        HasCode (readValue document) ∧ ¬ HasZeroedCode (readValue document)) :=
  ⟨fun frame _ => retcode_responseOf_ne_zero_iff frame,
    fun _ _ _ _ _ _ _ parses fails built =>
      retcode_parseApiResponse_ne_zero_iff parses fails built⟩

section Samples

def parsing (document : Json) : Exchange :=
  { name := "official"
    url := "http://127.0.0.1"
    accessToken := ""
    apiTimeoutSecs := 15
    inner := Official.new
    preferredMode := none
    send := fun _ _ => .error ⟨.other, "unused"⟩
    fromStr := fun _ => .ok (readValue document)
    responseFromStr := fun _ => ApiResponse.deserialize document }

def successReply (body : String) : HttpResponse := ⟨200, "200 OK", .ok body⟩

/-- A failed response with a code that needs more than 32 bits. -/
def wideFailure : Json :=
  .object [("echo", .string "7"), ("retcode", .integer 4294967296), ("status", .string "failed")]

def codelessFailure : Json :=
  .object [("message", .string "no such action"), ("status", .string "failed")]

def codelessText : String := "\x7b\"message\":\"no such action\",\"status\":\"failed\"\x7d"

theorem parsesAs_parsing {body : String} (document : Json)
    (notBlank : body.toList.all isWhitespace = false) :
    ParsesAs (parsing document) body document :=
  ⟨notBlank, rfl, fun _ read => (Except.ok.inj read).symm⟩

theorem codelessText_notBlank : codelessText.toList.all isWhitespace = false := by
  unfold codelessText
  simp only [String.reduceToList]
  decide

theorem wideFailure_fails : ReportsFailure (fun _ => False) wideFailure := .inr rfl

theorem codelessFailure_fails : ReportsFailure (fun _ => False) (readValue codelessFailure) := by
  right
  rw [codelessFailure, readValue, Json.get_ofFields]
  rfl

theorem parseApiResponse_codeless :
    (parsing codelessFailure).parseApiResponse "get_status" (successReply codelessText)
        codelessText none =
      .ok (Exchange.responseOfValue (readValue codelessFailure) none) := by
  unfold Exchange.parseApiResponse
  rw [codelessText_notBlank]
  rfl

theorem failuresKept_iff_samples :
    ((Lagrange.responseOf wideFailure).retcode ≠ 0 ↔ ¬ HasZeroedCode wideFailure) ∧
      ((Exchange.responseOfValue (readValue codelessFailure) none).retcode ≠ 0 ↔
        HasCode (readValue codelessFailure) ∧ ¬ HasZeroedCode (readValue codelessFailure)) :=
  ⟨(failuresKept_iff fun _ => False).1 wideFailure wideFailure_fails,
    (failuresKept_iff fun _ => False).2 _ _ _ _ _ _ _
      (parsesAs_parsing codelessFailure codelessText_notBlank) codelessFailure_fails
      parseApiResponse_codeless⟩

/-- A wide code loses its bits, and a missing one becomes zero. -/
theorem failures_becomeSuccesses :
    ReportsFailure (fun _ => False) wideFailure ∧ (Lagrange.responseOf wideFailure).retcode = 0 ∧
      ReportsFailure (fun _ => False) (readValue codelessFailure) ∧
      ParsesAs (parsing codelessFailure) codelessText codelessFailure ∧
      ∃ response,
        (parsing codelessFailure).parseApiResponse "get_status" (successReply codelessText)
          codelessText none = .ok response ∧ response.retcode = 0 :=
  ⟨wideFailure_fails, rfl, codelessFailure_fails,
    parsesAs_parsing codelessFailure codelessText_notBlank, _, parseApiResponse_codeless, rfl⟩

end Samples

end Ferroq.Gateway.Failures
