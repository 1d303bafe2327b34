import Mathlib.Data.List.Basic

/-!
# Documents of settings

A document is made of scalars, sequences and mappings, in which a name may
occur more than once.  A record is read from a mapping setting by setting; a
setting that is left out has a default or is missed.  What is read from a
document is found at a path in it.
-/

namespace Ferroq.Library

variable {Scalar Value Record : Type}

inductive Document (Scalar : Type) where
  | scalar (scalar : Scalar)
  | sequence (items : List (Document Scalar))
  | mapping (fields : List (String × Document Scalar))

/-- What the scalars of a format may stand for apart from values. -/
structure Conventions (Scalar : Type) where
  /-- The scalar stands for the absence of a value. -/
  isNull : Scalar → Bool
  /-- The scalar stands for a sequence or a mapping without anything in it. -/
  isBlank : Scalar → Bool

namespace Document

/-- A step from a place of a document to one right inside of it. -/
inductive Step where
  | key (name : String)
  | index (position : Nat)

def under (name : String) (fields : List (String × Document Scalar)) : List (Document Scalar) :=
  (fields.filter fun field => decide (field.1 = name)).map Prod.snd

def child : Document Scalar → Step → Option (Document Scalar)
  | mapping fields, .key name =>
      match under name fields with
      | [place] => some place
      | _ => none
  | sequence items, .index position => items[position]?
  | _, _ => none

def follow (document : Document Scalar) : List Step → Option (Document Scalar)
  | [] => some document
  | step :: rest => (document.child step).bind fun place => place.follow rest

abbrev Reader (Scalar Value : Type) := Document Scalar → Option Value

def scalarOf (read : Scalar → Option Value) : Reader Scalar Value
  | scalar held => read held
  | _ => none

def fields (conventions : Conventions Scalar) :
    Document Scalar → Option (List (String × Document Scalar))
  | mapping fields => some fields
  | sequence _ => none
  | scalar held => if conventions.isBlank held then some [] else none

def items (conventions : Conventions Scalar) :
    Document Scalar → Option (List (Document Scalar))
  | sequence items => some items
  | mapping _ => none
  | scalar held => if conventions.isBlank held then some [] else none

def recordOf (conventions : Conventions Scalar)
    (ofFields : List (String × Document Scalar) → Option Record) : Reader Scalar Record :=
  fun place => (place.fields conventions).bind ofFields

def listOf (conventions : Conventions Scalar) (read : Reader Scalar Value) :
    Reader Scalar (List Value) :=
  fun place => (place.items conventions).bind (List.mapM read)

def optional (conventions : Conventions Scalar) (read : Reader Scalar Value) :
    Reader Scalar (Option Value)
  | scalar held => if conventions.isNull held then some none else (read (scalar held)).map some
  | place => (read place).map some

/-- A setting of a record; it may have a default, and may not be repeated. -/
def setting (name : String) (read : Reader Scalar Value) (default : Option Value)
    (fields : List (String × Document Scalar)) : Option Value :=
  match under name fields with
  | [] => default
  | [place] => read place
  | _ => none

/-- A value is read at the place that a path leads to. -/
def ReadAt (document : Document Scalar) (path : List Step) (read : Reader Scalar Value)
    (value : Value) : Prop :=
  ∃ place, document.follow path = some place ∧ read place = some value

@[simp]
theorem under_nil (name : String) : under name ([] : List (String × Document Scalar)) = [] := rfl

theorem under_cons (name other : String) (place : Document Scalar)
    (fields : List (String × Document Scalar)) :
    under name ((other, place) :: fields) =
      if other = name then place :: under name fields else under name fields := by
  by_cases same : other = name <;> simp [under, same]

@[simp]
theorem setting_nil (name : String) (read : Reader Scalar Value) (default : Option Value) :
    setting name read default [] = default := rfl

@[simp]
theorem follow_nil (document : Document Scalar) : document.follow [] = some document := rfl

theorem follow_append (document : Document Scalar) (first second : List Step) :
    document.follow (first ++ second) =
      (document.follow first).bind fun place => place.follow second := by
  induction first generalizing document with
  | nil => rfl
  | cons step rest inductionHypothesis =>
      change (document.child step).bind _ = ((document.child step).bind _).bind _
      cases document.child step with
      | none => rfl
      | some place => exact inductionHypothesis place

theorem follow_concat {document place inner : Document Scalar} {path : List Step} {step : Step}
    (led : document.follow path = some place) (on : place.child step = some inner) :
    document.follow (path ++ [step]) = some inner := by
  rw [follow_append, led]
  change (place.child step).bind _ = some inner
  rw [on]
  rfl

section ReadAt

variable {conventions : Conventions Scalar} {document : Document Scalar} {path : List Step}

theorem readAt_nil {read : Reader Scalar Value} {value : Value}
    (whole : read document = some value) : ReadAt document [] read value :=
  ⟨document, rfl, whole⟩

/-- A setting of a record that is read somewhere has its default, or is read
there under its name. -/
theorem ReadAt.setting {ofFields : List (String × Document Scalar) → Option Record}
    {record : Record} {name : String} {read : Reader Scalar Value} {default : Option Value}
    {value : Value} (found : ReadAt document path (recordOf conventions ofFields) record)
    (set : ∀ fields, ofFields fields = some record →
      setting name read default fields = some value) :
    default = some value ∨ ReadAt document (path ++ [.key name]) read value := by
  obtain ⟨place, led, whole⟩ := found
  obtain ⟨fields, inside, made⟩ := Option.bind_eq_some_iff.mp whole
  have value := set fields made
  rw [Document.setting] at value
  split at value
  next => exact .inl value
  next inner sole =>
    right
    refine ⟨inner, follow_concat led ?_, value⟩
    cases place with
    | scalar held =>
        simp only [Document.fields] at inside
        split at inside
        next =>
          cases inside
          cases sole
        next => cases inside
    | sequence => cases inside
    | mapping listed =>
        cases inside
        simp only [child, sole]
  next => cases value

theorem mapM_getElem? {read : Reader Scalar Value} {places : List (Document Scalar)}
    {values : List Value} {value : Value} {position : Nat}
    (whole : places.mapM read = some values) (listed : values[position]? = some value) :
    ∃ place, places[position]? = some place ∧ read place = some value := by
  induction places generalizing values position with
  | nil =>
      cases whole
      cases listed
  | cons place rest inductionHypothesis =>
      rw [List.mapM_cons] at whole
      obtain ⟨first, readFirst, whole⟩ := Option.bind_eq_some_iff.mp whole
      obtain ⟨others, readOthers, made⟩ := Option.bind_eq_some_iff.mp whole
      cases made
      cases position with
      | zero =>
          cases listed
          exact ⟨place, rfl, readFirst⟩
      | succ position => exact inductionHypothesis readOthers listed

theorem ReadAt.item {read : Reader Scalar Value} {values : List Value} {value : Value}
    {position : Nat} (found : ReadAt document path (listOf conventions read) values)
    (listed : values[position]? = some value) :
    ReadAt document (path ++ [.index position]) read value := by
  obtain ⟨place, led, whole⟩ := found
  obtain ⟨places, inside, made⟩ := Option.bind_eq_some_iff.mp whole
  obtain ⟨inner, here, readInner⟩ := mapM_getElem? made listed
  refine ⟨inner, follow_concat led ?_, readInner⟩
  cases place with
  | scalar held =>
      simp only [items] at inside
      split at inside
      next =>
        cases inside
        cases here
      next => cases inside
  | sequence =>
      cases inside
      exact here
  | mapping => cases inside

theorem ReadAt.present {read : Reader Scalar Value} {value : Value}
    (found : ReadAt document path (optional conventions read) (some value)) :
    ReadAt document path read value := by
  obtain ⟨place, led, whole⟩ := found
  refine ⟨place, led, ?_⟩
  cases place with
  | scalar held =>
      simp only [optional] at whole
      split at whole
      next => cases whole
      next => simpa using whole
  | sequence => simpa [optional] using whole
  | mapping => simpa [optional] using whole

theorem ReadAt.scalar {read : Scalar → Option Value} {value : Value}
    (found : ReadAt document path (scalarOf read) value) :
    ∃ held, document.follow path = some (.scalar held) ∧ read held = some value := by
  obtain ⟨place, led, whole⟩ := found
  cases place with
  | scalar held => exact ⟨held, led, whole⟩
  | sequence => cases whole
  | mapping => cases whole

end ReadAt

end Document

end Ferroq.Library
