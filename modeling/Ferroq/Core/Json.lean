import Mathlib.Algebra.Group.Nat.Defs
import Mathlib.Data.List.Basic

/-!
# JSON values

The values the gateway receives and sends, with the numbers and the ordered
objects of the JSON library it uses.  Parsing and printing of JSON text stay
outside: they enter the development as parameters where a function needs them.
-/

namespace Ferroq.Core

/-- A JSON number.  Integers are kept exactly; a floating-point number is kept
by its shortest decimal text, which determines it. -/
inductive Number where
  | posInt (value : UInt64)
  | negInt (value : { value : Int64 // value < 0 })
  | float (text : String)
  deriving DecidableEq

namespace Number

def asU64 : Number → Option UInt64
  | posInt value => some value
  | negInt _ => none
  | float _ => none

def asI64 : Number → Option Int64
  | posInt value => if value.toNat < 2 ^ 63 then some value.toInt64 else none
  | negInt value => some value.1
  | float _ => none

def toText : Number → String
  | posInt value => toString value.toNat
  | negInt value => toString value.1.toInt
  | float text => text

def ofInt64 (value : Int64) : Number :=
  if negative : value < 0 then negInt ⟨value, negative⟩ else posInt value.toUInt64

theorem asI64_ofInt64 (value : Int64) : (ofInt64 value).asI64 = some value := by
  unfold ofInt64
  split
  next => rfl
  next positive =>
    have small : value.toUInt64.toNat < 2 ^ 63 := by
      rw [Int64.toNat_toUInt64_of_le (Int64.not_lt.mp positive)]
      exact value.toNatClampNeg_lt
    rw [asI64, if_pos small, Int64.toInt64_toUInt64]

theorem eq_ofInt64 {number : Number} {value : Int64} (read : number.asI64 = some value) :
    number = ofInt64 value := by
  cases number with
  | posInt held =>
      rw [asI64] at read
      by_cases small : held.toNat < 2 ^ 63
      · rw [if_pos small] at read
        cases read
        have positive : ¬ held.toInt64 < 0 := by
          rw [Int64.not_lt, Int64.le_iff_toInt_le]
          change 0 ≤ held.toBitVec.toInt
          rw [BitVec.toInt_eq_toNat_of_lt (by
            change 2 * held.toNat < 2 ^ 64
            omega)]
          exact Int.natCast_nonneg _
        rw [ofInt64, dif_neg positive, UInt64.toUInt64_toInt64]
      · rw [if_neg small] at read
        cases read
  | negInt held =>
      cases read
      rw [ofInt64, dif_pos held.2]
  | float text => cases read

end Number

/-- A JSON value; the fields of an object are kept in key order. -/
inductive Json where
  | null
  | bool (value : Bool)
  | number (value : Number)
  | string (value : String)
  | array (items : List Json)
  | object (fields : List (String × Json))

namespace Json

/-- Insert a field at its place in key order, replacing an earlier value. -/
def insertField (key : String) (value : Json) :
    List (String × Json) → List (String × Json)
  | [] => [(key, value)]
  | (other, held) :: rest =>
      if key = other then (key, value) :: rest
      else if key < other then (key, value) :: (other, held) :: rest
      else (other, held) :: insertField key value rest

def ofFields (fields : List (String × Json)) : Json :=
  object (fields.foldl (fun built field => insertField field.1 field.2 built) [])

def get (key : String) : Json → Option Json
  | object fields => fields.lookup key
  | _ => none

def asStr : Json → Option String
  | string value => some value
  | _ => none

def asU64 : Json → Option UInt64
  | number value => value.asU64
  | _ => none

def asI64 : Json → Option Int64
  | number value => value.asI64
  | _ => none

def asArray : Json → Option (List Json)
  | array items => some items
  | _ => none

def integer (value : Int64) : Json := number (.ofInt64 value)

def integer32 (value : Int32) : Json := integer value.toInt64

/-- Set a field of an object, as indexed assignment does; another kind of
value is left alone. -/
def setField : Json → String → Json → Json
  | object fields, key, value => object (insertField key value fields)
  | other, _, _ => other

@[simp]
theorem get_null (key : String) : get key null = none := rfl

@[simp]
theorem asStr_string (value : String) : (string value).asStr = some value := rfl

@[simp]
theorem map_string_bind_asStr (text : Option String) : (text.map string).bind asStr = text := by
  cases text <;> rfl

@[simp]
theorem asArray_array (items : List Json) : (array items).asArray = some items := rfl

@[simp]
theorem asI64_integer (value : Int64) : (integer value).asI64 = some value :=
  Number.asI64_ofInt64 value

@[simp]
theorem asI64_integer32 (value : Int32) : (integer32 value).asI64 = some value.toInt64 :=
  asI64_integer value.toInt64

theorem eq_integer {document : Json} {value : Int64} (read : document.asI64 = some value) :
    document = integer value := by
  cases document with
  | number held => exact congrArg number (Number.eq_ofInt64 read)
  | null | bool _ | string _ | array _ | object _ => cases read

def escapeChar (char : Char) : String :=
  if char = '"' then "\\\""
  else if char = '\\' then "\\\\"
  else if char = '\n' then "\\n"
  else if char = '\r' then "\\r"
  else if char = '\t' then "\\t"
  else if char.toNat = 8 then "\\b"
  else if char.toNat = 12 then "\\f"
  else if char.toNat < 32 then
    "\\u00" ++ String.ofList [Nat.digitChar (char.toNat / 16), Nat.digitChar (char.toNat % 16)]
  else String.singleton char

def quote (text : String) : String :=
  "\"" ++ String.join (text.toList.map escapeChar) ++ "\""

mutual

def toText : Json → String
  | null => "null"
  | bool value => if value then "true" else "false"
  | number value => value.toText
  | string value => quote value
  | array items => "[" ++ itemsText items ++ "]"
  | object fields => "\x7b" ++ fieldsText fields ++ "\x7d"

def itemsText : List Json → String
  | [] => ""
  | [item] => toText item
  | item :: rest => toText item ++ "," ++ itemsText rest

def fieldsText : List (String × Json) → String
  | [] => ""
  | [(key, value)] => quote key ++ ":" ++ toText value
  | (key, value) :: rest => quote key ++ ":" ++ toText value ++ "," ++ fieldsText rest

end

/-- The text of an identifier that may be given as a number or as a string;
anything else is printed. -/
def idText : Json → String
  | number value => value.toText
  | string value => value
  | other => other.toText

theorem lookup_insertField (key other : String) (value : Json)
    (fields : List (String × Json)) :
    (insertField key value fields).lookup other =
      if other = key then some value else fields.lookup other := by
  induction fields with
  | nil =>
      by_cases same : other = key
      · simp [insertField, same]
      · simp [insertField, same, List.lookup_cons, beq_eq_false_iff_ne.mpr same]
  | cons field rest inductionHypothesis =>
      rcases field with ⟨first, held⟩
      by_cases found : other = key
      · subst found
        simp only [insertField, if_true]
        split
        next => simp
        next different =>
          split
          next => simp
          next =>
            rw [List.lookup_cons, beq_eq_false_iff_ne.mpr different]
            simpa using inductionHypothesis
      · rw [if_neg found] at inductionHypothesis ⊢
        have missed : (other == key) = false := beq_eq_false_iff_ne.mpr found
        simp only [insertField]
        split
        next same =>
          subst same
          simp [List.lookup_cons, missed]
        next =>
          split
          next => simp [List.lookup_cons, missed]
          next => rw [List.lookup_cons, List.lookup_cons, inductionHypothesis]

@[simp]
theorem get_object_insertField (key other : String) (value : Json)
    (fields : List (String × Json)) :
    get other (object (insertField key value fields)) =
      if other = key then some value else get other (object fields) :=
  lookup_insertField key other value fields

theorem get_setField {document held : Json} {present : String}
    (isObject : document.get present = some held) (key other : String) (value : Json) :
    (document.setField key value).get other =
      if other = key then some value else document.get other := by
  cases document with
  | object fields => exact get_object_insertField key other value fields
  | null | bool _ | number _ | string _ | array _ => cases isObject

theorem get_ofFields (key : String) (fields : List (String × Json)) :
    get key (ofFields fields) = fields.reverse.lookup key := by
  unfold ofFields
  rw [← List.foldr_reverse]
  induction fields.reverse with
  | nil => rfl
  | cons field rest inductionHypothesis =>
      rcases field with ⟨first, value⟩
      rw [List.foldr_cons, get_object_insertField, inductionHypothesis, List.lookup_cons]
      by_cases same : key = first
      · simp [same]
      · simp [same, beq_eq_false_iff_ne.mpr same]

end Json

end Ferroq.Core
