import Ferroq.Core.Api
import Mathlib.Algebra.Group.Int.Defs

/-!
# OneBot v12 conversion

Translation of v12 action requests into the v11 requests that the backends
understand, and of their responses back into the v12 form.
-/

namespace Ferroq.Gateway.OneBotV12

open Ferroq.Core

def parseI64 (text : String) : Option Int64 :=
  let (negative, digits) :=
    match text.toList with
    | '-' :: rest => (true, rest)
    | '+' :: rest => (false, rest)
    | digits => (false, digits)
  if digits.isEmpty || !digits.all Char.isDigit then none
  else
    let magnitude : Nat := digits.foldl (fun value digit => 10 * value + (digit.toNat - 48)) 0
    let value : Int := if negative then -(magnitude : Int) else magnitude
    if -(2 ^ 63) ≤ value ∧ value < 2 ^ 63 then some (Int64.ofInt value) else none

theorem magnitude_toDigits (value : Nat) :
    (Nat.toDigits 10 value).foldl (fun value digit => 10 * value + (digit.toNat - 48)) 0 = value :=
  Nat.ofDigitChars_ten_toDigits

theorem all_isDigit_toDigits (value : Nat) : (Nat.toDigits 10 value).all Char.isDigit = true :=
  List.all_eq_true.mpr fun _ listed => Nat.isDigit_of_mem_toDigits (by decide) (by decide) listed

theorem parseI64_of_digits {text : String} {value : Nat}
    (digits : text.toList = Nat.toDigits 10 value) (small : value < 2 ^ 63) :
    parseI64 text = some (Int64.ofInt value) := by
  have present : Nat.toDigits 10 value ≠ [] := Nat.toDigits_ne_nil
  have decimal := all_isDigit_toDigits value
  have read := magnitude_toDigits value
  unfold parseI64
  rw [digits]
  generalize Nat.toDigits 10 value = written at present decimal read
  split
  next negative signless split =>
    split at split
    next => simp at decimal
    next => simp at decimal
    next =>
      cases split
      simp [present, decimal, read]
      omega

theorem parseI64_of_negative {text : String} {value : Nat}
    (digits : text.toList = '-' :: Nat.toDigits 10 value) (small : value ≤ 2 ^ 63) :
    parseI64 text = some (Int64.ofInt (-value)) := by
  have present : Nat.toDigits 10 value ≠ [] := Nat.toDigits_ne_nil
  unfold parseI64
  simp [digits, present, all_isDigit_toDigits, magnitude_toDigits]
  omega

theorem parseI64_toString (value : Int64) : parseI64 (toString value.toInt) = some value := by
  have lower := value.le_toInt
  have upper := value.toInt_lt
  rw [Int.toString_eq_repr, Int.repr_eq_if]
  split
  next nonnegative =>
    rw [parseI64_of_digits Nat.toList_repr (by omega), Int.toNat_of_nonneg nonnegative,
      Int64.ofInt_toInt]
  next negative =>
    have digits : ("-" ++ (-value.toInt).toNat.repr).toList =
        '-' :: Nat.toDigits 10 (-value.toInt).toNat := by
      simp
    rw [parseI64_of_negative digits (by omega), Int.toNat_of_nonneg (by omega), Int.neg_neg,
      Int64.ofInt_toInt]

def integerField (key : String) (params : Json) : Option Int64 :=
  ((params.get key).bind Json.asStr).bind parseI64

def intJson (value : Int64) : Json := .number (.ofInt64 value)

def translateV12Action (action : String) (params : Json) : String × Json :=
  if action = "send_message" then
    let detailType := ((params.get "detail_type").bind Json.asStr).getD "private"
    let v11Action :=
      if detailType = "group" then "send_group_msg"
      else if detailType = "private" then "send_private_msg"
      else "send_msg"
    let identifiers :=
      ["group_id", "user_id"].filterMap fun key =>
        (integerField key params).map fun id => (key, intJson id)
    let message := (params.get "message").toList.map fun message => ("message", message)
    (v11Action, .ofFields (identifiers ++ ("message_type", .string detailType) :: message))
  else if action = "get_self_info" then ("get_login_info", params)
  else if action = "get_message" then
    match integerField "message_id" params with
    | some id => ("get_msg", params.setField "message_id" (intJson id))
    | none => ("get_msg", params)
  else if action = "get_user_info" then ("get_stranger_info", params)
  else if action = "leave_group" then ("set_group_leave", params)
  else if action = "kick_group_member" then ("set_group_kick", params)
  else if action = "ban_group_member" then ("set_group_ban", params)
  else (action, params)

def missingAction : GatewayError := .internal "missing action field"

def parseV12Action (raw : Json) : Except GatewayError ApiRequest :=
  match (raw.get "action").bind Json.asStr with
  | none => .error missingAction
  | some action =>
      let params := (raw.get "params").getD (.object [])
      let (translatedAction, translatedParams) := translateV12Action action params
      .ok
        { action := translatedAction
          params := translatedParams
          echo := raw.get "echo"
          selfId := (((raw.get "self").bind (Json.get "user_id")).bind Json.asStr).bind parseI64 }

def translateLogin (data : Json) : Json :=
  match data.get "user_id" with
  | some userId =>
      let nickname := (data.get "nickname").getD (.string "")
      .ofFields
        [("user_id", .string userId.idText), ("user_name", nickname),
          ("user_displayname", nickname)]
  | none => data

/-- The v12 form of a v11 response; an absent echo is written as null. -/
def translateV11Response (action : String) (response : ApiResponse) : Json :=
  let data :=
    if action = "get_self_info" ∨ action = "get_login_info" then translateLogin response.data
    else response.data
  .ofFields
    [("status", .string response.status),
      ("retcode", .number (.ofInt64 response.retcode.toInt64)),
      ("data", data),
      ("message", .string response.message),
      ("echo", response.echo.getD .null)]

def v12ErrorResponse (retcode : Int32) (message : String) (echo : Option Json) : Json :=
  .ofFields
    [("status", .string "failed"),
      ("retcode", .number (.ofInt64 retcode.toInt64)),
      ("data", .null),
      ("message", .string message),
      ("echo", echo.getD .null)]

@[simp]
theorem get_echo_translateV11Response (action : String) (response : ApiResponse) :
    (translateV11Response action response).get "echo" = some (response.echo.getD .null) := by
  simp [translateV11Response, Json.get_ofFields]

@[simp]
theorem get_echo_v12ErrorResponse (retcode : Int32) (message : String) (echo : Option Json) :
    (v12ErrorResponse retcode message echo).get "echo" = some (echo.getD .null) := by
  simp [v12ErrorResponse, Json.get_ofFields]

end Ferroq.Gateway.OneBotV12
