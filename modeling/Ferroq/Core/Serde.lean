import Ferroq.Core.Json

/-!
# Derived encodings

What the derived serializers and deserializers of records share.  A document is
a value whose objects may repeat a field.  A record is read from an object in
which every field it declares occurs at most once; fields it does not declare
are skipped.
-/

namespace Ferroq.Core

def optionalField (key : String) (value : Option Json) : List (String × Json) :=
  (value.map fun value => (key, value)).toList

@[simp]
theorem reverse_optionalField (key : String) (value : Option Json) :
    (optionalField key value).reverse = optionalField key value := by
  cases value <;> rfl

@[simp]
theorem lookup_optionalField_append (key other : String) (value : Option Json)
    (fields : List (String × Json)) :
    (optionalField key value ++ fields).lookup other =
      if other = key then value.or (fields.lookup other) else fields.lookup other := by
  cases value with
  | none => simp [optionalField]
  | some value =>
      by_cases same : other = key
      · simp [optionalField, same]
      · simp [optionalField, List.lookup_cons, same, beq_eq_false_iff_ne.mpr same]

@[simp]
theorem lookup_optionalField (key other : String) (value : Option Json) :
    (optionalField key value).lookup other = if other = key then value else none := by
  simpa using lookup_optionalField_append key other value []

namespace Serde

/-- The values of the fields with a name. -/
def values (key : String) (fields : List (String × Json)) : List Json :=
  (fields.filter fun field => decide (field.1 = key)).map Prod.snd

/-- The only value, if there is one; a second value is refused. -/
def sole : List Json → Option (Option Json)
  | [] => some none
  | [value] => some (some value)
  | _ => none

def requiredField (key : String) (read : Json → Option Value) (fields : List (String × Json)) :
    Option Value :=
  ((sole (values key fields)).bind id).bind read

def nullable (read : Json → Option Value) : Option Json → Option (Option Value)
  | none => some none
  | some .null => some none
  | some value => (read value).map some

def nullableField (key : String) (read : Json → Option Value) (fields : List (String × Json)) :
    Option (Option Value) :=
  (sole (values key fields)).bind (nullable read)

def readText (value : Json) : Option String := value.asStr

def readI64 (value : Json) : Option Int64 := value.asI64

def readI32 (value : Json) : Option Int32 :=
  value.asI64.bind fun read => if read.toInt32.toInt64 = read then some read.toInt32 else none

def readArray (read : Json → Option Value) (value : Json) : Option (List Value) :=
  value.asArray.bind (List.mapM read)

mutual

/-- A value of any kind; the last of the fields with a name is kept. -/
def readValue : Json → Json
  | .null => .null
  | .bool value => .bool value
  | .number value => .number value
  | .string value => .string value
  | .array items => .array (readItems items)
  | .object fields => .ofFields (readEntries fields)

def readItems : List Json → List Json
  | [] => []
  | item :: rest => readValue item :: readItems rest

def readEntries : List (String × Json) → List (String × Json)
  | [] => []
  | (key, value) :: rest => (key, readValue value) :: readEntries rest

end

def readFields : Json → Option (List (String × Json))
  | .object fields => some fields
  | _ => none

@[simp]
theorem values_nil (key : String) : values key [] = [] := rfl

@[simp]
theorem values_cons (key other : String) (value : Json) (fields : List (String × Json)) :
    values key ((other, value) :: fields) =
      if other = key then value :: values key fields else values key fields := by
  by_cases same : other = key
  · simp [values, same]
  · simp [values, same]

@[simp]
theorem values_append (key : String) (fields others : List (String × Json)) :
    values key (fields ++ others) = values key fields ++ values key others := by
  simp [values]

@[simp]
theorem values_optionalField (key other : String) (value : Option Json) :
    values key (optionalField other value) = if other = key then value.toList else [] := by
  cases value with
  | none => simp [optionalField]
  | some value => simp [optionalField]

@[simp]
theorem sole_nil : sole [] = some none := rfl

@[simp]
theorem sole_singleton (value : Json) : sole [value] = some (some value) := rfl

@[simp]
theorem sole_toList (value : Option Json) : sole value.toList = some value := by
  cases value <;> rfl

theorem requiredField_of_repeated {key : String} {read : Json → Option Value} {first second : Json}
    {fields others : List (String × Json)} (written : values key fields = [first])
    (repeated : second ∈ values key others) : requiredField key read (fields ++ others) = none := by
  rw [requiredField, values_append, written]
  cases found : values key others with
  | nil => simp [found] at repeated
  | cons => rfl

theorem mem_values_of_lookup {key : String} {value : Json} {fields : List (String × Json)}
    (found : fields.lookup key = some value) : value ∈ values key fields := by
  induction fields with
  | nil => simp at found
  | cons field rest inductionHypothesis =>
      rcases field with ⟨first, held⟩
      rw [List.lookup_cons] at found
      by_cases same : first = key
      · subst same
        simp at found
        simp [found]
      · have missed : (key == first) = false := beq_eq_false_iff_ne.mpr (Ne.symm same)
        rw [missed] at found
        simpa [same] using inductionHypothesis found

theorem lookup_eq_head?_values (key : String) (fields : List (String × Json)) :
    fields.lookup key = (values key fields).head? := by
  induction fields with
  | nil => rfl
  | cons field rest inductionHypothesis =>
      rcases field with ⟨other, value⟩
      rw [List.lookup_cons, values_cons]
      by_cases same : other = key
      · simp [same]
      · rw [beq_eq_false_iff_ne.mpr (Ne.symm same), if_neg same]
        exact inductionHypothesis

theorem lookup_of_sole {key : String} {fields : List (String × Json)} {found : Option Json}
    (alone : sole (values key fields) = some found) : fields.lookup key = found := by
  rw [lookup_eq_head?_values]
  match listed : values key fields with
  | [] =>
      rw [listed] at alone
      cases alone
      rfl
  | [value] =>
      rw [listed] at alone
      cases alone
      rfl
  | _ :: _ :: _ =>
      rw [listed] at alone
      cases alone

theorem values_reverse (key : String) (fields : List (String × Json)) :
    values key fields.reverse = (values key fields).reverse := by
  simp [values]

theorem values_readEntries (key : String) (fields : List (String × Json)) :
    values key (readEntries fields) = (values key fields).map readValue := by
  induction fields with
  | nil => rfl
  | cons field rest inductionHypothesis =>
      rcases field with ⟨other, value⟩
      rw [readEntries, values_cons, values_cons]
      by_cases same : other = key
      · rw [if_pos same, if_pos same, List.map_cons, inductionHypothesis]
      · rw [if_neg same, if_neg same, inductionHypothesis]

theorem get_readValue_of_sole {key : String} {value : Json} {fields : List (String × Json)}
    (alone : sole (values key fields) = some (some value)) :
    (readValue (.object fields)).get key = some (readValue value) := by
  rw [readValue, Json.get_ofFields, lookup_eq_head?_values, values_reverse, values_readEntries]
  match listed : values key fields with
  | [] =>
      rw [listed] at alone
      cases alone
  | [held] =>
      rw [listed] at alone
      cases alone
      rfl
  | _ :: _ :: _ =>
      rw [listed] at alone
      cases alone

theorem readArray_map {read : Json → Option Value} {write : Value → Json}
    (reads : ∀ value, read (write value) = some value) (items : List Value) :
    readArray read (.array (items.map write)) = some items := by
  change (items.map write).mapM read = some items
  induction items with
  | nil => rfl
  | cons item rest inductionHypothesis =>
      simp [List.mapM_cons, reads, inductionHypothesis]

@[simp]
theorem readText_string (text : String) : readText (.string text) = some text := rfl

@[simp]
theorem readI64_integer (value : Int64) : readI64 (.integer value) = some value := by
  simp [readI64]

theorem nullable_of_ne_null {read : Json → Option Value} {value : Json} (present : value ≠ .null) :
    nullable read (some value) = (read value).map some := by
  cases value with
  | null => exact absurd rfl present
  | bool _ | number _ | string _ | array _ | object _ => rfl

theorem nullableField_map {key : String} {read : Json → Option Value} (write : Value → Json)
    (reads : ∀ value, read (write value) = some value) (present : ∀ value, write value ≠ .null)
    {value : Option Value} {fields : List (String × Json)}
    (written : values key fields = (value.map write).toList) :
    nullableField key read fields = some value := by
  rw [nullableField, written, sole_toList]
  cases value with
  | none => rfl
  | some value =>
      change nullable read (some (write value)) = _
      rw [nullable_of_ne_null (present value), reads]
      rfl

@[simp]
theorem readI32_integer32 (value : Int32) : readI32 (.integer32 value) = some value := by
  simp [readI32]

theorem eq_integer32 {value : Json} {number : Int32} (read : readI32 value = some number) :
    value = .integer32 number := by
  rw [readI32] at read
  obtain ⟨held, integer, inside⟩ := Option.bind_eq_some_iff.mp read
  split at inside
  next exact =>
    cases inside
    rw [Json.integer32, exact]
    exact Json.eq_integer integer
  next => cases inside

theorem readValue_integer32 (value : Int32) : readValue (.integer32 value) = .integer32 value := by
  rw [Json.integer32, Json.integer, readValue]

theorem integer32_ne_null (value : Int32) : Json.integer32 value ≠ .null := by
  simp [Json.integer32, Json.integer]

theorem nullableField_text {key : String} {text : Option String} {fields : List (String × Json)}
    (written : values key fields = (text.map Json.string).toList) :
    nullableField key readText fields = some text :=
  nullableField_map Json.string readText_string (fun _ => Json.noConfusion) written

section

variable (rounded : String → String)

mutual

/-- The value that is read from the printed value: a floating-point number may
come back as another one. -/
def reread : Json → Json
  | .null => .null
  | .bool value => .bool value
  | .number (.float text) => .number (.float (rounded text))
  | .number value => .number value
  | .string value => .string value
  | .array items => .array (rereadItems items)
  | .object fields => .object (rereadFields fields)

def rereadItems : List Json → List Json
  | [] => []
  | item :: rest => reread item :: rereadItems rest

def rereadFields : List (String × Json) → List (String × Json)
  | [] => []
  | (key, value) :: rest => (key, reread value) :: rereadFields rest

end

@[simp]
theorem reread_string (text : String) : reread rounded (.string text) = .string text := by
  rw [reread]

@[simp]
theorem reread_integer (value : Int64) : reread rounded (.integer value) = .integer value := by
  unfold Json.integer Number.ofInt64
  split
  next => rw [reread]; exact nofun
  next => rw [reread]; exact nofun

@[simp]
theorem reread_integer32 (value : Int32) : reread rounded (.integer32 value) = .integer32 value :=
  reread_integer rounded value.toInt64

theorem rereadItems_map {write : Value → Json}
    (kept : ∀ value, reread rounded (write value) = write value) (items : List Value) :
    rereadItems rounded (items.map write) = items.map write := by
  induction items with
  | nil => rw [List.map_nil, rereadItems]
  | cons item rest inductionHypothesis =>
      rw [List.map_cons, rereadItems, kept, inductionHypothesis]

theorem rereadFields_append (fields others : List (String × Json)) :
    rereadFields rounded (fields ++ others) =
      rereadFields rounded fields ++ rereadFields rounded others := by
  induction fields with
  | nil => rw [List.nil_append, rereadFields, List.nil_append]
  | cons field rest inductionHypothesis =>
      rcases field with ⟨key, value⟩
      rw [List.cons_append, rereadFields, rereadFields, inductionHypothesis, List.cons_append]

theorem rereadFields_optionalField (key : String) {write : Value → Json}
    (kept : ∀ value, reread rounded (write value) = write value) (value : Option Value) :
    rereadFields rounded (optionalField key (value.map write)) =
      optionalField key (value.map write) := by
  cases value with
  | none => simp [optionalField, rereadFields]
  | some value => simp [optionalField, rereadFields, kept]

theorem mem_values_rereadFields {key : String} {value : Json} {fields : List (String × Json)}
    (listed : value ∈ values key fields) :
    reread rounded value ∈ values key (rereadFields rounded fields) := by
  induction fields with
  | nil => simp at listed
  | cons field rest inductionHypothesis =>
      rcases field with ⟨other, held⟩
      rw [values_cons] at listed
      rw [rereadFields, values_cons]
      split at listed
      next same =>
        rw [if_pos same]
        rcases List.mem_cons.mp listed with rfl | later
        · exact List.mem_cons_self
        · exact List.mem_cons_of_mem _ (inductionHypothesis later)
      next different =>
        rw [if_neg different]
        exact inductionHypothesis listed

end

end Serde

end Ferroq.Core
