import Ferroq.Core.Config.Reading
import Mathlib.Data.String.Basic

/-!
# The configuration as JSON

A JSON value is a document like another one.  The fields of an object are in the
order of their keys, so that a value is rebuilt from its document, and the
serialized form of a configuration that was read, from whatever format, is read
as the same configuration.
-/

namespace Ferroq.Core

open Ferroq.Library
open Ferroq.Library.Document

namespace Json

/-- The fields are in the order of their keys, without repetition. -/
def Ordered (fields : List (String × Json)) : Prop :=
  fields.Pairwise fun earlier later => earlier.1 < later.1

mutual

/-- A value as the JSON library keeps it. -/
def Canonical : Json → Prop
  | .array items => CanonicalItems items
  | .object fields => Ordered fields ∧ CanonicalFields fields
  | _ => True

def CanonicalItems : List Json → Prop
  | [] => True
  | item :: rest => Canonical item ∧ CanonicalItems rest

def CanonicalFields : List (String × Json) → Prop
  | [] => True
  | (_, value) :: rest => Canonical value ∧ CanonicalFields rest

end

mutual

def toDocument : Json → Document JsonScalar
  | .null => .scalar .null
  | .bool value => .scalar (.bool value)
  | .number value => .scalar (.number value)
  | .string value => .scalar (.string value)
  | .array items => .sequence (itemsToDocument items)
  | .object fields => .mapping (fieldsToDocument fields)

def itemsToDocument : List Json → List (Document JsonScalar)
  | [] => []
  | item :: rest => toDocument item :: itemsToDocument rest

def fieldsToDocument : List (String × Json) → List (String × Document JsonScalar)
  | [] => []
  | (key, value) :: rest => (key, toDocument value) :: fieldsToDocument rest

end

theorem mem_insertField {key : String} {value : Json} {fields : List (String × Json)}
    {field : String × Json} (listed : field ∈ insertField key value fields) :
    field = (key, value) ∨ field ∈ fields := by
  induction fields with
  | nil => exact .inl (List.mem_singleton.mp listed)
  | cons first rest inductionHypothesis =>
      rcases first with ⟨other, held⟩
      rw [insertField] at listed
      split at listed
      next =>
        exact (List.mem_cons.mp listed).imp id (List.mem_cons_of_mem _)
      next =>
        split at listed
        next => exact List.mem_cons.mp listed
        next =>
          rcases List.mem_cons.mp listed with same | later
          · exact .inr (same ▸ List.mem_cons_self)
          · exact (inductionHypothesis later).imp id (List.mem_cons_of_mem _)

theorem ordered_insertField {key : String} {value : Json} {fields : List (String × Json)}
    (ordered : Ordered fields) : Ordered (insertField key value fields) := by
  induction fields with
  | nil => exact List.pairwise_singleton _ _
  | cons first rest inductionHypothesis =>
      rcases first with ⟨other, held⟩
      obtain ⟨before, later⟩ := List.pairwise_cons.mp ordered
      rw [insertField]
      split
      next same =>
        subst same
        exact List.pairwise_cons.mpr ⟨before, later⟩
      next different =>
        split
        next less =>
          refine List.pairwise_cons.mpr ⟨?_, ordered⟩
          intro field listed
          rcases List.mem_cons.mp listed with rfl | listed
          · exact less
          · exact less.trans (before field listed)
        next notLess =>
          refine List.pairwise_cons.mpr ⟨?_, inductionHypothesis later⟩
          intro field listed
          rcases mem_insertField listed with rfl | listed
          · exact lt_of_le_of_ne (not_lt.mp notLess) (Ne.symm different)
          · exact before field listed

theorem canonicalFields_iff (fields : List (String × Json)) :
    CanonicalFields fields ↔ ∀ field ∈ fields, Canonical field.2 := by
  induction fields with
  | nil => simp [CanonicalFields]
  | cons field rest inductionHypothesis =>
      rcases field with ⟨key, value⟩
      rw [CanonicalFields, inductionHypothesis, List.forall_mem_cons]

theorem ordered_foldl (fields : List (String × Json)) {built : List (String × Json)}
    (ordered : Ordered built) :
    Ordered (fields.foldl (fun built field => insertField field.1 field.2 built) built) := by
  induction fields generalizing built with
  | nil => exact ordered
  | cons field rest inductionHypothesis => exact inductionHypothesis (ordered_insertField ordered)

theorem canonicalFields_foldl {fields built : List (String × Json)}
    (values : CanonicalFields fields) (inside : CanonicalFields built) :
    CanonicalFields
      (fields.foldl (fun built field => insertField field.1 field.2 built) built) := by
  induction fields generalizing built with
  | nil => exact inside
  | cons field rest inductionHypothesis =>
      apply inductionHypothesis values.2
      rw [canonicalFields_iff] at inside ⊢
      intro other listed
      rcases mem_insertField listed with rfl | listed
      · exact values.1
      · exact inside other listed

theorem canonical_ofFields {fields : List (String × Json)} (values : CanonicalFields fields) :
    Canonical (ofFields fields) :=
  ⟨ordered_foldl fields List.Pairwise.nil, canonicalFields_foldl values trivial⟩

theorem insertField_of_behind {key : String} {fields : List (String × Json)}
    (behind : ∀ field ∈ fields, field.1 < key) (value : Json) :
    insertField key value fields = fields ++ [(key, value)] := by
  induction fields with
  | nil => rfl
  | cons first rest inductionHypothesis =>
      rcases first with ⟨other, held⟩
      obtain ⟨less, rest⟩ := List.forall_mem_cons.mp behind
      rw [insertField, if_neg less.ne', if_neg less.asymm, inductionHypothesis rest]
      rfl

theorem ofFields_of_ordered {fields : List (String × Json)} (ordered : Ordered fields) :
    ofFields fields = object fields := by
  have folded : ∀ built : List (String × Json), Ordered (built ++ fields) →
      fields.foldl (fun built field => insertField field.1 field.2 built) built =
        built ++ fields := by
    clear ordered
    induction fields with
    | nil => exact fun built _ => (List.append_nil built).symm
    | cons field rest inductionHypothesis =>
        intro built ordered
        have behind : ∀ earlier ∈ built, earlier.1 < field.1 := fun earlier listed =>
          (List.pairwise_append.mp ordered).2.2 earlier listed field List.mem_cons_self
        rw [List.foldl_cons, insertField_of_behind behind]
        have split : built ++ field :: rest = built ++ [field] ++ rest := by simp
        rw [split] at ordered ⊢
        exact inductionHypothesis _ ordered
  rw [ofFields, folded [] ordered]
  rfl

end Json

def jsonFormat : ScalarFormat JsonScalar where
  isNull
    | .null => true
    | _ => false
  isBlank _ := false
  text
    | .string value => some value
    | _ => none
  bool
    | .bool value => some value
    | _ => none
  unsigned
    | .number value => value.asU64
    | _ => none
  value := id

namespace Json

mutual

theorem toJson_toDocument (value : Json) (canonical : Canonical value) :
    jsonFormat.toJson value.toDocument = value := by
  cases value with
  | null | bool _ | number _ | string _ => rfl
  | array items =>
      rw [toDocument, ScalarFormat.toJson, itemsToJson_itemsToDocument items canonical]
  | object fields =>
      rw [toDocument, ScalarFormat.toJson, fieldsToJson_fieldsToDocument fields canonical.2]
      exact ofFields_of_ordered canonical.1

theorem itemsToJson_itemsToDocument (items : List Json) (canonical : CanonicalItems items) :
    jsonFormat.itemsToJson (itemsToDocument items) = items := by
  cases items with
  | nil => rfl
  | cons item rest =>
      rw [itemsToDocument, ScalarFormat.itemsToJson, toJson_toDocument item canonical.1,
        itemsToJson_itemsToDocument rest canonical.2]

theorem fieldsToJson_fieldsToDocument (fields : List (String × Json))
    (canonical : CanonicalFields fields) :
    jsonFormat.fieldsToJson (fieldsToDocument fields) = fields := by
  cases fields with
  | nil => rfl
  | cons field rest =>
      rcases field with ⟨key, value⟩
      rw [fieldsToDocument, ScalarFormat.fieldsToJson, toJson_toDocument value canonical.1,
        fieldsToJson_fieldsToDocument rest canonical.2]

end

def written (fields : List (String × Json)) : List (String × Document JsonScalar) :=
  fieldsToDocument (fields.foldl (fun built field => insertField field.1 field.2 built) [])

theorem toDocument_ofFields (fields : List (String × Json)) :
    (ofFields fields).toDocument = .mapping (written fields) := by
  rw [ofFields, toDocument]
  rfl

theorem under_fieldsToDocument (name : String) {fields : List (String × Json)}
    (ordered : Ordered fields) :
    under name (fieldsToDocument fields) = ((fields.lookup name).map toDocument).toList := by
  induction fields with
  | nil => rfl
  | cons field rest inductionHypothesis =>
      rcases field with ⟨other, value⟩
      obtain ⟨before, later⟩ := List.pairwise_cons.mp ordered
      rw [fieldsToDocument, under_cons, inductionHypothesis later, List.lookup_cons]
      by_cases same : other = name
      · subst same
        have absent : rest.lookup other = none := by
          rw [List.lookup_eq_none_iff]
          intro field listed
          exact bne_iff_ne.mpr (before field listed).ne
        simp [absent]
      · rw [if_neg same, beq_eq_false_iff_ne.mpr (Ne.symm same)]

theorem setting_written {Value : Type} (name : String) (read : Reader JsonScalar Value)
    (default : Option Value) (fields : List (String × Json)) :
    setting name read default (written fields) =
      (fields.reverse.lookup name).elim default fun value => read value.toDocument := by
  rw [setting, written, under_fieldsToDocument name (ordered_foldl fields List.Pairwise.nil)]
  have found : (fields.foldl (fun built field => insertField field.1 field.2 built) []).lookup
      name = fields.reverse.lookup name := get_ofFields name fields
  rw [found]
  cases fields.reverse.lookup name <;> rfl

end Json

section RoundTrip

@[simp]
theorem readText_string (text : String) :
    jsonFormat.readText (Json.string text).toDocument = some text := rfl

@[simp]
theorem readBool_bool (value : Bool) :
    jsonFormat.readBool (Json.bool value).toDocument = some value := rfl

@[simp]
theorem readU64_unsigned (value : UInt64) :
    jsonFormat.readU64 (Json.unsigned value).toDocument = some value := rfl

@[simp]
theorem readU32_unsigned (value : UInt32) :
    jsonFormat.readU32 (Json.unsigned value.toUInt64).toDocument = some value := by
  have small : value.toUInt64.toNat < 2 ^ 32 := value.toNat_lt
  change (if value.toUInt64.toNat < 2 ^ 32 then some value.toUInt64.toUInt32 else none) = _
  rw [if_pos small, UInt32.toUInt32_toUInt64]

@[simp]
theorem readU16_unsigned (value : UInt16) :
    jsonFormat.readU16 (Json.unsigned value.toUInt64).toDocument = some value := by
  have small : value.toUInt64.toNat < 2 ^ 16 := value.toNat_lt
  change (if value.toUInt64.toNat < 2 ^ 16 then some value.toUInt64.toUInt16 else none) = _
  rw [if_pos small, UInt16.toUInt16_toUInt64]

theorem RateLimitConfig.deserialize_toJson (config : RateLimitConfig) :
    deserialize jsonFormat config.toJson.toDocument = some config := by
  rw [deserialize, toJson, Json.toDocument_ofFields, ScalarFormat.record_mapping]
  simp [ofFields, Json.setting_written, List.lookup_cons]

theorem ServerConfig.deserialize_toJson (config : ServerConfig) :
    deserialize jsonFormat config.toJson.toDocument = some config := by
  rw [deserialize, toJson, Json.toDocument_ofFields, ScalarFormat.record_mapping]
  simp [ofFields, Json.setting_written, List.lookup_cons, RateLimitConfig.deserialize_toJson]

theorem BackendConfig.deserialize_toJson (config : BackendConfig) :
    deserialize jsonFormat config.toJson.toDocument = some config := by
  rw [deserialize, toJson, Json.toDocument_ofFields, ScalarFormat.record_mapping]
  simp [ofFields, Json.setting_written, List.lookup_cons]

theorem option_of_ne_null {Value : Type} (read : Reader JsonScalar Value) {value : Json}
    (present : value ≠ .null) :
    jsonFormat.option read value.toDocument = (read value.toDocument).map some := by
  cases value with
  | null => exact absurd rfl present
  | bool _ | number _ | string _ | array _ | object _ => rfl

theorem option_nullable {Value : Type} {read : Reader JsonScalar Value} {write : Value → Json}
    (reads : ∀ value, read (write value).toDocument = some value)
    (present : ∀ value, write value ≠ .null) (value : Option Value) :
    jsonFormat.option read (Json.nullable (value.map write)).toDocument = some value := by
  cases value with
  | none => rfl
  | some value =>
      change jsonFormat.option read (write value).toDocument = _
      rw [option_of_ne_null read (present value), reads]
      rfl

theorem list_array {Value : Type} {read : Reader JsonScalar Value} {write : Value → Json}
    {values : List Value} (reads : ∀ value ∈ values, read (write value).toDocument = some value) :
    jsonFormat.list read (Json.array (values.map write)).toDocument = some values := by
  rw [Json.toDocument]
  change (Json.itemsToDocument (values.map write)).mapM read = some values
  induction values with
  | nil => rfl
  | cons value rest inductionHypothesis =>
      obtain ⟨first, others⟩ := List.forall_mem_cons.mp reads
      rw [List.map_cons, Json.itemsToDocument, List.mapM_cons, first, inductionHypothesis others]
      rfl

theorem AccountConfig.deserialize_toJson (config : AccountConfig) :
    deserialize jsonFormat config.toJson.toDocument = some config := by
  have fallback := option_nullable BackendConfig.deserialize_toJson
    (fun _ => Json.noConfusion) config.fallback
  rw [deserialize, toJson, Json.toDocument_ofFields, ScalarFormat.record_mapping]
  simp [ofFields, Json.setting_written, List.lookup_cons, BackendConfig.deserialize_toJson,
    fallback]

theorem WsReverseTarget.deserialize_toJson (target : WsReverseTarget) :
    deserialize jsonFormat target.toJson.toDocument = some target := by
  rw [deserialize, toJson, Json.toDocument_ofFields, ScalarFormat.record_mapping]
  simp [ofFields, Json.setting_written, List.lookup_cons]

theorem HttpPostTarget.deserialize_toJson (target : HttpPostTarget) :
    deserialize jsonFormat target.toJson.toDocument = some target := by
  rw [deserialize, toJson, Json.toDocument_ofFields, ScalarFormat.record_mapping]
  simp [ofFields, Json.setting_written, List.lookup_cons]

theorem OneBotV11Config.deserialize_toJson (config : OneBotV11Config) :
    deserialize jsonFormat config.toJson.toDocument = some config := by
  have wsReverse := list_array fun target (_ : target ∈ config.wsReverse) =>
    WsReverseTarget.deserialize_toJson target
  have httpPost := list_array fun target (_ : target ∈ config.httpPost) =>
    HttpPostTarget.deserialize_toJson target
  rw [deserialize, toJson, Json.toDocument_ofFields, ScalarFormat.record_mapping]
  simp [ofFields, Json.setting_written, List.lookup_cons, wsReverse, httpPost]

theorem OneBotV12Config.deserialize_toJson (config : OneBotV12Config) :
    deserialize jsonFormat config.toJson.toDocument = some config := by
  rw [deserialize, toJson, Json.toDocument_ofFields, ScalarFormat.record_mapping]
  simp [ofFields, Json.setting_written, List.lookup_cons]

theorem MilkyConfig.deserialize_toJson (config : MilkyConfig) :
    deserialize jsonFormat config.toJson.toDocument = some config := by
  rw [deserialize, toJson, Json.toDocument_ofFields, ScalarFormat.record_mapping]
  simp [ofFields, Json.setting_written]

theorem SatoriConfig.deserialize_toJson (config : SatoriConfig) :
    deserialize jsonFormat config.toJson.toDocument = some config := by
  rw [deserialize, toJson, Json.toDocument_ofFields, ScalarFormat.record_mapping]
  simp [ofFields, Json.setting_written, List.lookup_cons]

theorem ProtocolsConfig.deserialize_toJson (config : ProtocolsConfig) :
    deserialize jsonFormat config.toJson.toDocument = some config := by
  have onebotV11 := option_nullable OneBotV11Config.deserialize_toJson
    (fun _ => Json.noConfusion) config.onebotV11
  have onebotV12 := option_nullable OneBotV12Config.deserialize_toJson
    (fun _ => Json.noConfusion) config.onebotV12
  have milky := option_nullable MilkyConfig.deserialize_toJson
    (fun _ => Json.noConfusion) config.milky
  have satori := option_nullable SatoriConfig.deserialize_toJson
    (fun _ => Json.noConfusion) config.satori
  rw [deserialize, toJson, Json.toDocument_ofFields, ScalarFormat.record_mapping]
  simp [ofFields, Json.setting_written, List.lookup_cons, onebotV11, onebotV12, milky, satori]

theorem StorageConfig.deserialize_toJson (config : StorageConfig) :
    deserialize jsonFormat config.toJson.toDocument = some config := by
  rw [deserialize, toJson, Json.toDocument_ofFields, ScalarFormat.record_mapping]
  simp [ofFields, Json.setting_written, List.lookup_cons]

theorem DedupConfig.deserialize_toJson (config : DedupConfig) :
    deserialize jsonFormat config.toJson.toDocument = some config := by
  rw [deserialize, toJson, Json.toDocument_ofFields, ScalarFormat.record_mapping]
  simp [ofFields, Json.setting_written, List.lookup_cons]

/-- The settings of a plugin may be any value that the JSON library keeps. -/
theorem PluginConfig.deserialize_toJson (config : PluginConfig)
    (canonical : config.config.Canonical) :
    deserialize jsonFormat config.toJson.toDocument = some config := by
  have rebuilt : jsonFormat.readValue config.config.toDocument = some config.config :=
    congrArg some (Json.toJson_toDocument config.config canonical)
  rw [deserialize, toJson, Json.toDocument_ofFields, ScalarFormat.record_mapping]
  simp [ofFields, Json.setting_written, List.lookup_cons, rebuilt]

theorem LoggingConfig.deserialize_toJson (config : LoggingConfig) :
    deserialize jsonFormat config.toJson.toDocument = some config := by
  have file := option_nullable readText_string (fun _ => Json.noConfusion) config.file
  rw [deserialize, toJson, Json.toDocument_ofFields, ScalarFormat.record_mapping]
  simp [ofFields, Json.setting_written, List.lookup_cons, file]

theorem AppConfig.deserialize_toJson (config : AppConfig)
    (canonical : ∀ plugin ∈ config.plugins, plugin.config.Canonical) :
    deserialize jsonFormat config.toJson.toDocument = some config := by
  have accounts := list_array fun account (_ : account ∈ config.accounts) =>
    AccountConfig.deserialize_toJson account
  have plugins := list_array fun plugin (listed : plugin ∈ config.plugins) =>
    PluginConfig.deserialize_toJson plugin (canonical plugin listed)
  rw [deserialize, toJson, Json.toDocument_ofFields, ScalarFormat.record_mapping]
  simp [ofFields, Json.setting_written, List.lookup_cons, ServerConfig.deserialize_toJson,
    ProtocolsConfig.deserialize_toJson, StorageConfig.deserialize_toJson,
    DedupConfig.deserialize_toJson, LoggingConfig.deserialize_toJson, accounts, plugins]

end RoundTrip

section Canonical

variable {Scalar : Type} (format : ScalarFormat Scalar)

mutual

theorem canonical_toJson (place : Document Scalar) : (format.toJson place).Canonical := by
  cases place with
  | scalar held =>
      rw [ScalarFormat.toJson]
      cases format.value held <;> trivial
  | sequence items =>
      rw [ScalarFormat.toJson]
      exact canonical_itemsToJson items
  | mapping fields =>
      rw [ScalarFormat.toJson]
      exact Json.canonical_ofFields (canonical_fieldsToJson fields)

theorem canonical_itemsToJson (items : List (Document Scalar)) :
    Json.CanonicalItems (format.itemsToJson items) := by
  cases items with
  | nil => trivial
  | cons item rest => exact ⟨canonical_toJson item, canonical_itemsToJson rest⟩

theorem canonical_fieldsToJson (fields : List (String × Document Scalar)) :
    Json.CanonicalFields (format.fieldsToJson fields) := by
  cases fields with
  | nil => trivial
  | cons field rest =>
      rcases field with ⟨key, place⟩
      exact ⟨canonical_toJson place, canonical_fieldsToJson rest⟩

end

variable {format}

theorem PluginConfig.canonical_of_deserialize {place : Document Scalar} {plugin : PluginConfig}
    (read : deserialize format place = some plugin) : plugin.config.Canonical := by
  obtain ⟨fields, -, made⟩ := Option.bind_eq_some_iff.mp read
  simp only [ofFields, Option.bind_eq_bind, Option.bind_eq_some_iff, Option.pure_def,
    Option.some.injEq] at made
  obtain ⟨path, -, enabled, -, config, found, rfl⟩ := made
  rw [setting] at found
  split at found
  next =>
    cases found
    trivial
  next inner _ =>
    cases found
    exact canonical_toJson format inner
  next => cases found

theorem AppConfig.canonical_of_deserialize {place : Document Scalar} {config : AppConfig}
    (read : deserialize format place = some config) :
    ∀ plugin ∈ config.plugins, plugin.config.Canonical := by
  intro plugin listed
  obtain ⟨position, held⟩ := List.mem_iff_getElem?.mp listed
  rcases (readAt_nil read).setting fun _ made => (ofFields_some made).plugins with absent | found
  · rw [← Option.some.inj absent] at held
    cases held
  · obtain ⟨inner, -, readInner⟩ := found.item held
    exact PluginConfig.canonical_of_deserialize readInner

end Canonical

end Ferroq.Core
