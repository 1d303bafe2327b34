import Ferroq.Gateway.Stats
import Ferroq.Library.Exposition.Quoted

/-!
# The samples of a scrape

A parser of the exposition format reads from the rendered metrics one sample for
each adapter and metric, with the name and the value that belong to it, as long
as no name needs escapes.  A name that does is never read back.
-/

namespace Ferroq.Gateway.Stats

open Ferroq.Core
open Ferroq.Library
open Ferroq.Library.Exposition

variable {Value : Type}

namespace Metric

def labelOf (label : String × String) : Label := (label.1.toList, label.2.toList)

def family (metric : Metric) : Family where
  metric := metric.name.toList
  help := metric.help.toList
  kind := metric.kind.toList
  samples := metric.samples.map fun sample => (sample.1.map labelOf, sample.2)

/-- No label value of the metric needs escapes. -/
def PlainLabels (metric : Metric) : Prop :=
  ∀ sample ∈ metric.samples, ∀ label ∈ sample.1, Plain label.2.toList

theorem toList_blank : " ".toList = [' '] := rfl

theorem toList_feed : "\n".toList = ['\n'] := rfl

theorem toList_labelText (label : String × String) :
    (labelText label).toList =
      label.1.toList ++ '=' :: '"' :: (label.2.toList ++ ['"']) := by
  have equals : "=\"".toList = ['=', '"'] := rfl
  have quote : "\"".toList = ['"'] := rfl
  simp only [labelText, String.toList_append, equals, quote, List.append_assoc, List.cons_append,
    List.nil_append]

theorem toList_labelsText {labels : List (String × String)} (inhabited : labels ≠ []) :
    (labelsText labels).toList =
      '{' :: [','].intercalate (labels.map fun label => (labelText label).toList) ++ ['}'] := by
  have some : labels.isEmpty = false := by simpa using inhabited
  unfold labelsText
  rw [some, if_neg (by simp), String.toList_append, String.toList_append,
    String.toList_intercalate, List.map_map]
  rfl

theorem toList_labelsText_of_plain {labels : List (String × String)}
    (plain : ∀ label ∈ labels, Plain label.2.toList) :
    (labelsText labels).toList = renderLabels (labels.map labelOf) := by
  have rendered : (labels.map fun label => (labelText label).toList) =
      (labels.map labelOf).map renderLabel := by
    rw [List.map_map]
    apply List.map_congr_left
    intro label listed
    simp [toList_labelText, renderLabel, labelOf, escape_of_plain (plain label listed)]
  unfold renderLabels
  by_cases none : labels = []
  · simp [none, labelsText]
  · rw [if_neg (by simpa using none), toList_labelsText none, rendered]

theorem toList_number (number : Nat) : (toString number).toList = Nat.toDigits 10 number := by
  rw [Nat.toString_eq_repr, Nat.toList_repr]

theorem toList_sampleText (name : String) {sample : List (String × String) × Nat}
    (plain : ∀ label ∈ sample.1, Plain label.2.toList) :
    (sampleText name sample).toList =
      renderSample name.toList (sample.1.map labelOf, sample.2) ++ ['\n'] := by
  simp only [sampleText, renderSample, String.toList_append, toList_labelsText_of_plain plain,
    toList_number, toList_blank, toList_feed, List.append_assoc, List.cons_append, List.nil_append]

theorem toList_heading (keyword name rest : String) :
    (heading keyword name rest).toList =
      keyword.toList ++ name.toList ++ ' ' :: rest.toList ++ ['\n'] := by
  simp only [heading, String.toList_append, toList_blank, toList_feed, List.append_assoc,
    List.cons_append, List.nil_append]

theorem toList_text {metric : Metric} (plain : metric.PlainLabels) :
    metric.text.toList = unlines metric.family.lines := by
  have samples : (metric.samples.map (sampleText metric.name)).flatMap String.toList =
      unlines (metric.family.samples.map (renderSample metric.family.metric)) := by
    unfold unlines family
    rw [List.map_map, List.flatMap_map, List.flatMap_map]
    apply List.flatMap_congr
    intro sample listed
    exact toList_sampleText metric.name (plain sample listed)
  have lines : unlines metric.family.lines =
      "# HELP ".toList ++ metric.name.toList ++ ' ' :: metric.help.toList ++ ['\n'] ++
        ("# TYPE ".toList ++ metric.name.toList ++ ' ' :: metric.kind.toList ++ ['\n'] ++
          (unlines (metric.family.samples.map (renderSample metric.family.metric)) ++
            ['\n'])) := by
    simp only [unlines, Family.lines, List.flatMap_cons, List.flatMap_append, List.flatMap_nil,
      List.nil_append, List.append_nil, family]
  rw [lines, ← samples, text, String.toList_append, String.toList_append, String.toList_append,
    toList_heading, toList_heading, String.toList_join, toList_feed, List.append_assoc,
    List.append_assoc]

def headingOf (metric : Metric) : String × String × String :=
  (metric.name, metric.help, metric.kind)

end Metric

def headings : List (String × String × String) :=
  [ ("ferroq_uptime_seconds", "Gateway uptime in seconds.", "gauge"),
    ("ferroq_events_total", "Total events forwarded through the bus.", "counter"),
    ("ferroq_events_deduplicated_total", "Total duplicate events suppressed.", "counter"),
    ("ferroq_ws_events_dropped_total", "Total WS outbound events dropped by backpressure.",
      "counter"),
    ("ferroq_ws_api_rejected_total", "Total WS API requests rejected by in-flight limits.",
      "counter"),
    ("ferroq_api_calls_total", "Total API calls routed.", "counter"),
    ("ferroq_ws_connections_active", "Active WebSocket connections.", "gauge"),
    ("ferroq_ws_connections_total", "Total WebSocket connections served (lifetime).",
      "counter"),
    ("ferroq_messages_stored_total", "Total messages persisted to storage.", "counter"),
    ("ferroq_storage_enabled", "Whether message storage is enabled (1=yes, 0=no).", "gauge"),
    ("ferroq_adapters_total", "Total number of backend adapters.", "gauge"),
    ("ferroq_adapters_healthy", "Number of healthy backend adapters.", "gauge"),
    ("ferroq_adapter_healthy", "Whether a backend adapter is healthy (1=yes, 0=no).", "gauge"),
    ("ferroq_adapter_health_check_ms", "Latency of the last health check in milliseconds.",
      "gauge"),
    ("ferroq_adapter_events_total", "Events forwarded per adapter.", "counter"),
    ("ferroq_adapter_api_calls_total", "API calls routed per adapter.", "counter") ]

/-- A heading that the format allows, without a backslash. -/
def ProperHeading (heading : String × String × String) : Prop :=
  isName startsMetric continuesMetric heading.1.toList = true ∧ '\n' ∉ heading.2.1.toList ∧
    heading.2.2.toList ∈ kinds.map String.toList ∧ '\\' ∉ heading.1.toList ∧
    '\\' ∉ heading.2.1.toList ∧ '\\' ∉ heading.2.2.toList

instance (heading : String × String × String) : Decidable (ProperHeading heading) :=
  inferInstanceAs (Decidable (_ ∧ _))

theorem properHeading_of_mem : ∀ heading ∈ headings, ProperHeading heading := by
  decide +kernel

theorem nodup_headings : (headings.map fun heading => heading.1.toList).Nodup := by
  decide +kernel

theorem headings_sublist (stats : RuntimeStats) (uptimeSecs : UInt64) :
    ((stats.metrics uptimeSecs).map Metric.headingOf).Sublist headings := by
  have adapters (snapshots : List AdapterSnapshot) :
      ((RuntimeStats.adapterMetrics snapshots).map Metric.headingOf).Sublist
        ((headings.drop 12).take 2) := by
    unfold RuntimeStats.adapterMetrics
    split_ifs
    · exact List.nil_sublist _
    · exact List.Sublist.refl _
  have perAdapter (name help : String) (counts : Counts) :
      ((Metric.perAdapter name help counts).map Metric.headingOf).Sublist
        [(name, help, "counter")] := by
    unfold Metric.perAdapter
    split_ifs
    · exact List.nil_sublist _
    · exact List.Sublist.refl _
  simp only [RuntimeStats.metrics, List.map_append]
  have gateway : ((RuntimeStats.gatewayMetrics (stats.health uptimeSecs)).map
      Metric.headingOf).Sublist (headings.take 12) := List.Sublist.refl _
  exact ((gateway.append (adapters _)).append (perAdapter _ _ _)).append (perAdapter _ _ _)

theorem properHeading_of_metric {stats : RuntimeStats} {uptimeSecs : UInt64} {metric : Metric}
    (listed : metric ∈ stats.metrics uptimeSecs) : ProperHeading metric.headingOf :=
  properHeading_of_mem _ ((headings_sublist stats uptimeSecs).subset (List.mem_map_of_mem listed))

def RuntimeStats.names (stats : RuntimeStats) : List (List Char) :=
  (stats.adapters.map AdapterSnapshot.name ++ stats.perAdapterEvents.entries.map Prod.fst ++
    stats.perAdapterApiCalls.entries.map Prod.fst).map String.toList

/-- The labels that samples carry: none, the name alone, or all that is told of
an adapter's health. -/
inductive LabelsOf (names : List (List Char)) : List (String × String) → Prop where
  | none : LabelsOf names []
  | name {name : String} (listed : name.toList ∈ names) : LabelsOf names [("name", name)]
  | health {name : String} (listed : name.toList ∈ names) (backendType : BackendType)
      (state : AdapterState) :
      LabelsOf names
        [("name", name), ("type", backendType.toText), ("state", state.toText)]

theorem RuntimeStats.health_names (stats : RuntimeStats) (uptimeSecs : UInt64) :
    (stats.health uptimeSecs).adapters.map AdapterSnapshot.name =
      stats.adapters.map AdapterSnapshot.name := by
  simp [RuntimeStats.health, Function.comp_def]

theorem labelsOf_perAdapter {names : List (List Char)} {name help : String} {counts : Counts}
    (known : ∀ entry ∈ counts.entries, entry.1.toList ∈ names) :
    ∀ metric ∈ Metric.perAdapter name help counts, ∀ sample ∈ metric.samples,
      LabelsOf names sample.1 := by
  intro metric listed sample inMetric
  unfold Metric.perAdapter at listed
  split_ifs at listed
  · cases listed
  · rw [List.mem_singleton.mp listed] at inMetric
    obtain ⟨entry, member, rfl⟩ := List.mem_map.mp inMetric
    exact .name (known entry member)

theorem labelsOf_adapterMetrics {names : List (List Char)} {adapters : List AdapterSnapshot}
    (known : ∀ adapter ∈ adapters, adapter.name.toList ∈ names) :
    ∀ metric ∈ RuntimeStats.adapterMetrics adapters, ∀ sample ∈ metric.samples,
      LabelsOf names sample.1 := by
  intro metric listed sample inMetric
  unfold RuntimeStats.adapterMetrics at listed
  split_ifs at listed
  · cases listed
  · rcases List.mem_cons.mp listed with rfl | listed
    · obtain ⟨adapter, member, rfl⟩ := List.mem_map.mp inMetric
      exact .health (known adapter member) adapter.backendType adapter.state
    · rw [List.mem_singleton.mp listed] at inMetric
      obtain ⟨adapter, member, checked⟩ := List.mem_filterMap.mp inMetric
      obtain ⟨ms, _, rfl⟩ := Option.map_eq_some_iff.mp checked
      exact .name (known adapter member)

theorem labelsOf_gatewayMetrics (names : List (List Char)) (health : HealthResponse) :
    ∀ metric ∈ RuntimeStats.gatewayMetrics health, ∀ sample ∈ metric.samples,
      LabelsOf names sample.1 := by
  have single : ∀ metric ∈ RuntimeStats.gatewayMetrics health,
      ∃ value, metric.samples = [([], value)] := by
    simp [RuntimeStats.gatewayMetrics, Metric.gauge, Metric.counter]
  intro metric listed sample inMetric
  obtain ⟨value, samples⟩ := single metric listed
  rw [samples, List.mem_singleton] at inMetric
  rw [inMetric]
  exact .none

theorem labelsOf_metrics {stats : RuntimeStats} {uptimeSecs : UInt64} {metric : Metric}
    (listed : metric ∈ stats.metrics uptimeSecs) :
    ∀ sample ∈ metric.samples, LabelsOf stats.names sample.1 := by
  have known : ∀ adapter ∈ (stats.health uptimeSecs).adapters,
      adapter.name.toList ∈ stats.names := by
    intro adapter member
    have named := List.mem_map_of_mem (f := AdapterSnapshot.name) member
    rw [stats.health_names] at named
    unfold RuntimeStats.names
    rw [List.map_append, List.map_append]
    exact List.mem_append_left _ (List.mem_append_left _ (List.mem_map_of_mem named))
  simp only [RuntimeStats.metrics, List.mem_append] at listed
  rcases listed with ((gateway | adapters) | events) | calls
  · exact labelsOf_gatewayMetrics _ _ metric gateway
  · exact labelsOf_adapterMetrics known metric adapters
  · refine labelsOf_perAdapter (fun entry member => ?_) metric events
    simp only [RuntimeStats.names, List.map_append, List.mem_append]
    exact .inl (.inr (List.mem_map_of_mem (List.mem_map_of_mem member)))
  · refine labelsOf_perAdapter (fun entry member => ?_) metric calls
    simp only [RuntimeStats.names, List.map_append, List.mem_append]
    exact .inr (List.mem_map_of_mem (List.mem_map_of_mem member))

theorem plain_backendType (backendType : BackendType) : Plain backendType.toText.toList := by
  induction backendType with
  | lagrange | napcat | official => decide
  | failover primary fallback primaryPlain fallbackPlain =>
      have plus : Plain "+".toList := by decide
      simp only [BackendType.toText, String.toList_append, Plain, List.mem_append, not_or] at *
      exact ⟨⟨⟨primaryPlain.1, plus.1⟩, fallbackPlain.1⟩,
        ⟨⟨primaryPlain.2.1, plus.2.1⟩, fallbackPlain.2.1⟩,
        ⟨primaryPlain.2.2, plus.2.2⟩, fallbackPlain.2.2⟩

theorem plain_state (state : AdapterState) : Plain state.toText.toList := by
  cases state <;> decide

theorem backendType_begins (backendType : BackendType) :
    ∃ symbol rest, backendType.toText.toList = symbol :: rest ∧ ¬ IsStop symbol := by
  induction backendType with
  | lagrange => exact ⟨'l', "agrange".toList, rfl, by simp [IsStop, isBlank]⟩
  | napcat => exact ⟨'n', "apcat".toList, rfl, by simp [IsStop, isBlank]⟩
  | official => exact ⟨'o', "fficial".toList, rfl, by simp [IsStop, isBlank]⟩
  | failover primary fallback primaryBegins _ =>
      obtain ⟨symbol, rest, shape, goesOn⟩ := primaryBegins
      refine ⟨symbol, rest ++ ("+".toList ++ fallback.toText.toList), ?_, goesOn⟩
      simp only [BackendType.toText, String.toList_append, shape, List.cons_append,
        List.append_assoc]

section Unread

variable {names : List (List Char)}

theorem not_mem_toDigits (number : Nat) :
    '\\' ∉ Nat.toDigits 10 number ∧ '"' ∉ Nat.toDigits 10 number := by
  constructor <;> intro listed <;>
    exact absurd (Nat.isDigit_of_mem_toDigits (by decide) (by decide) listed) (by decide)

theorem marksWithin_sampleText {metric : String} (unmarked : '\\' ∉ metric.toList)
    {labels : List (String × String)} (shape : LabelsOf names labels) (value : Nat) :
    MarksWithin names (Metric.sampleText metric (labels, value)).toList := by
  obtain ⟨noMark, noQuote⟩ := not_mem_toDigits value
  have head : '\\' ∉ metric.toList ++ '{' :: "name".toList := by
    simp only [List.mem_append, List.mem_cons, not_or]
    exact ⟨unmarked, by decide, by decide⟩
  cases shape with
  | none =>
      apply marksWithin_of_not_mem
      simp [Metric.sampleText, Metric.labelsText, unmarked, noMark]
  | @name name listed =>
      have text : (Metric.sampleText metric ([("name", name)], value)).toList =
          (metric.toList ++ '{' :: "name".toList) ++ '=' :: '"' :: (name.toList ++ '"' ::
            (('}' :: ' ' :: Nat.toDigits 10 value) ++ ['\n'])) := by
        simp only [Metric.sampleText, String.toList_append,
          Metric.toList_labelsText (List.cons_ne_nil _ _), Metric.toList_labelText,
          Metric.toList_number, Metric.toList_blank, Metric.toList_feed, List.map_cons,
          List.map_nil, List.intercalate_singleton, List.append_assoc, List.cons_append,
          List.nil_append]
      rw [text]
      apply marksWithin_label listed head
      · simp [noMark]
      · intro later
        rw [List.append_assoc]
        exact closed_of_line (by simp [noQuote]) later
  | @health name listed backendType state =>
      have text : (Metric.sampleText metric ([("name", name), ("type", backendType.toText),
          ("state", state.toText)], value)).toList =
          (metric.toList ++ '{' :: "name".toList) ++ '=' :: '"' :: (name.toList ++ '"' ::
            ((',' :: "type".toList) ++ '=' :: '"' :: (backendType.toText.toList ++
              '"' :: ',' :: ("state".toList ++ '=' :: '"' :: (state.toText.toList ++
                '"' :: '}' :: ' ' :: (Nat.toDigits 10 value ++ ['\n'])))))) := by
        simp only [Metric.sampleText, String.toList_append,
          Metric.toList_labelsText (List.cons_ne_nil _ _), Metric.toList_labelText,
          Metric.toList_number, Metric.toList_blank, Metric.toList_feed, List.map_cons,
          List.map_nil, List.intercalate_cons_cons, List.intercalate_singleton,
          List.append_assoc, List.cons_append, List.nil_append]
      rw [text]
      apply marksWithin_label listed head
      · have words : '\\' ∉ "type".toList ∧ '\\' ∉ "state".toList := by decide
        have backend := (plain_backendType backendType).1
        have connection := (plain_state state).1
        simp [backend, connection, noMark]
      · intro later
        obtain ⟨symbol, rest, begins, goesOn⟩ := backendType_begins backendType
        rw [begins, List.append_assoc]
        exact closed_of_label (by decide) goesOn _

theorem marksWithin_prometheusMetrics (stats : RuntimeStats) (uptimeSecs : UInt64) :
    MarksWithin stats.names (stats.prometheusMetrics uptimeSecs).toList := by
  unfold RuntimeStats.prometheusMetrics
  rw [String.toList_join, List.flatMap_map]
  apply marksWithin_flatMap
  intro metric listed
  obtain ⟨_, _, _, name, help, kind⟩ := properHeading_of_metric listed
  have heading {keyword rest : String} (noKeyword : '\\' ∉ keyword.toList)
      (noRest : '\\' ∉ rest.toList) :
      MarksWithin stats.names (Metric.heading keyword metric.name rest).toList := by
    apply marksWithin_of_not_mem
    have noName : '\\' ∉ metric.name.toList := name
    simp [Metric.toList_heading, noKeyword, noName, noRest]
  have samples : MarksWithin stats.names
      (metric.samples.flatMap fun sample => (Metric.sampleText metric.name sample).toList) := by
    apply marksWithin_flatMap
    rintro ⟨labels, value⟩ inMetric
    exact marksWithin_sampleText name (labelsOf_metrics listed _ inMetric) value
  rw [Metric.text, String.toList_append, String.toList_append, String.toList_append,
    String.toList_join, List.flatMap_map, Metric.toList_feed]
  have feed : MarksWithin stats.names ['\n'] := marksWithin_of_not_mem (by decide)
  exact (((heading (by decide) help).append (heading (by decide) kind)).append samples).append feed

end Unread

def sample (reader : Reader Value) (metric : String) (labels : List (String × String))
    (value : Nat) : Sample Value :=
  ⟨metric.toList, labels.map Metric.labelOf, reader.ofNat value, none⟩

def gatewaySamples (reader : Reader Value) (health : HealthResponse) : List (Sample Value) :=
  (RuntimeStats.gatewayMetrics health).flatMap fun metric =>
    metric.samples.map fun (labels, value) => sample reader metric.name labels value

/-- One sample for each adapter and metric, besides those of the gateway. -/
def RuntimeStats.samples (reader : Reader Value) (stats : RuntimeStats) (uptimeSecs : UInt64) :
    List (Sample Value) :=
  gatewaySamples reader (stats.health uptimeSecs) ++
    (stats.adapters.map fun adapter =>
      sample reader "ferroq_adapter_healthy"
        [("name", adapter.name), ("type", adapter.backendType.toText),
          ("state", adapter.state.toText)] (flag adapter.healthy)) ++
    (stats.adapters.filterMap fun adapter => adapter.healthCheckMs.map fun ms =>
      sample reader "ferroq_adapter_health_check_ms" [("name", adapter.name)] ms.toNat) ++
    (stats.perAdapterEvents.entries.map fun (name, count) =>
      sample reader "ferroq_adapter_events_total" [("name", name)] count.toNat) ++
    (stats.perAdapterApiCalls.entries.map fun (name, count) =>
      sample reader "ferroq_adapter_api_calls_total" [("name", name)] count.toNat)

/-- A parser reads these samples and no others. -/
def RuntimeStats.Recovered (reader : Reader Value) (stats : RuntimeStats)
    (uptimeSecs : UInt64) : Prop :=
  ∃ found, parse reader (stats.prometheusMetrics uptimeSecs).toList = some found ∧
    found.Perm (stats.samples reader uptimeSecs)

theorem map_sampleOf_family (reader : Reader Value) (metric : Metric) :
    metric.family.samples.map (sampleOf reader metric.family.metric) =
      metric.samples.map fun (labels, value) => sample reader metric.name labels value := by
  simp [Metric.family, sampleOf, sample, Function.comp_def]

theorem flatMap_adapterMetrics (reader : Reader Value) (adapters : List AdapterSnapshot) :
    ((RuntimeStats.adapterMetrics adapters).flatMap fun metric =>
        metric.samples.map fun (labels, value) => sample reader metric.name labels value) =
      (adapters.map fun adapter =>
        sample reader "ferroq_adapter_healthy"
          [("name", adapter.name), ("type", adapter.backendType.toText),
            ("state", adapter.state.toText)] (RuntimeStats.flag adapter.healthy)) ++
      (adapters.filterMap fun adapter => adapter.healthCheckMs.map fun ms =>
        sample reader "ferroq_adapter_health_check_ms" [("name", adapter.name)] ms.toNat) := by
  unfold RuntimeStats.adapterMetrics
  split_ifs with empty
  · rw [List.isEmpty_iff.mp empty]
    rfl
  · simp [List.map_filterMap, Function.comp_def]

theorem flatMap_perAdapter (reader : Reader Value) (name help : String) (counts : Counts) :
    ((Metric.perAdapter name help counts).flatMap fun metric =>
        metric.samples.map fun (labels, value) => sample reader metric.name labels value) =
      counts.entries.map fun (adapter, count) =>
        sample reader name [("name", adapter)] count.toNat := by
  unfold Metric.perAdapter
  split_ifs with empty
  · rw [List.isEmpty_iff.mp empty]
    rfl
  · simp [Function.comp_def]

theorem samples_eq_flatMap (reader : Reader Value) (stats : RuntimeStats) (uptimeSecs : UInt64) :
    stats.samples reader uptimeSecs =
      (stats.metrics uptimeSecs).flatMap fun metric =>
        metric.family.samples.map (sampleOf reader metric.family.metric) := by
  simp only [map_sampleOf_family, RuntimeStats.metrics, List.flatMap_append,
    flatMap_adapterMetrics, flatMap_perAdapter, RuntimeStats.samples, gatewaySamples,
    RuntimeStats.health, List.map_map, List.filterMap_map, Function.comp_def, List.append_assoc]

/-- Every name of an adapter or of a count can stand in a label value as it is. -/
def RuntimeStats.PlainNames (stats : RuntimeStats) : Prop := ∀ name ∈ stats.names, Plain name

theorem plainLabels_of_plainNames {stats : RuntimeStats} (plain : stats.PlainNames)
    {uptimeSecs : UInt64} {metric : Metric} (listed : metric ∈ stats.metrics uptimeSecs) :
    metric.PlainLabels := by
  intro sample inMetric label inSample
  have shape := labelsOf_metrics listed sample inMetric
  generalize sample.1 = labels at shape inSample
  cases shape with
  | none => cases inSample
  | name known =>
      rw [List.mem_singleton.mp inSample]
      exact plain _ known
  | health known backendType state =>
      rcases List.mem_cons.mp inSample with rfl | inSample
      · exact plain _ known
      · rcases List.mem_cons.mp inSample with rfl | inSample
        · exact plain_backendType backendType
        · rw [List.mem_singleton.mp inSample]
          exact plain_state state

theorem validLabels_of_names (names : List String) {labels : List (String × String)}
    (shape : labels.map Prod.fst = names)
    (valid : (∀ name ∈ names, isName startsLabel continuesLabel name.toList = true) ∧
      (names.map String.toList).Nodup) : ValidLabels (labels.map Metric.labelOf) := by
  subst shape
  constructor
  · intro label listed
    obtain ⟨source, member, rfl⟩ := List.mem_map.mp listed
    exact valid.1 _ (List.mem_map_of_mem member)
  · have distinct := valid.2
    rw [List.map_map] at distinct ⊢
    exact distinct

theorem valid_family {stats : RuntimeStats} {uptimeSecs : UInt64} {metric : Metric}
    (listed : metric ∈ stats.metrics uptimeSecs) : metric.family.Valid := by
  obtain ⟨name, help, kind, _⟩ := properHeading_of_metric listed
  refine ⟨name, help, kind, ?_⟩
  intro sample inFamily
  obtain ⟨⟨labels, value⟩, inMetric, rfl⟩ := List.mem_map.mp inFamily
  have shape : LabelsOf stats.names labels := labelsOf_metrics listed _ inMetric
  cases shape with
  | none => exact validLabels_of_names [] rfl (by decide)
  | name known => exact validLabels_of_names ["name"] rfl (by decide)
  | health known backendType state =>
      exact validLabels_of_names ["name", "type", "state"] rfl (by decide)

theorem parse_prometheusMetrics (reader : Reader Value) {stats : RuntimeStats}
    (plain : stats.PlainNames) (uptimeSecs : UInt64) :
    parse reader (stats.prometheusMetrics uptimeSecs).toList =
      some (stats.samples reader uptimeSecs) := by
  have text : (stats.prometheusMetrics uptimeSecs).toList =
      render ((stats.metrics uptimeSecs).map Metric.family) := by
    unfold RuntimeStats.prometheusMetrics render unlines
    rw [String.toList_join, List.flatMap_map, List.flatMap_assoc, List.flatMap_map]
    apply List.flatMap_congr
    intro metric listed
    exact Metric.toList_text (plainLabels_of_plainNames plain listed)
  have distinct : (((stats.metrics uptimeSecs).map Metric.family).map Family.metric).Nodup := by
    have once := (headings_sublist stats uptimeSecs).map fun heading => heading.1.toList
    have nodup := once.nodup nodup_headings
    rw [List.map_map] at nodup ⊢
    exact nodup
  rw [text, parse_render reader _ distinct, samples_eq_flatMap, List.flatMap_map]
  intro family listed
  obtain ⟨metric, inMetrics, rfl⟩ := List.mem_map.mp listed
  exact valid_family inMetrics

theorem exists_sample_of_name (reader : Reader Value) (stats : RuntimeStats)
    (uptimeSecs : UInt64) {name : List Char} (listed : name ∈ stats.names) :
    ∃ found ∈ stats.samples reader uptimeSecs, ("name".toList, name) ∈ found.labels := by
  obtain ⟨text, among, rfl⟩ := List.mem_map.mp listed
  unfold RuntimeStats.samples
  rcases List.mem_append.mp among with among | called
  · rcases List.mem_append.mp among with adapter | counted
    · obtain ⟨adapter, member, rfl⟩ := List.mem_map.mp adapter
      have mapped := List.mem_map_of_mem (f := fun adapter => sample reader
        "ferroq_adapter_healthy" [("name", adapter.name), ("type", adapter.backendType.toText),
          ("state", adapter.state.toText)] (RuntimeStats.flag adapter.healthy)) member
      exact ⟨_, List.mem_append_left _ (List.mem_append_left _ (List.mem_append_left _
        (List.mem_append_right _ mapped))), List.mem_cons_self⟩
    · obtain ⟨entry, member, rfl⟩ := List.mem_map.mp counted
      have mapped := List.mem_map_of_mem (f := fun entry => sample reader
        "ferroq_adapter_events_total" [("name", entry.1)] entry.2.toNat) member
      exact ⟨_, List.mem_append_left _ (List.mem_append_right _ mapped), List.mem_cons_self⟩
  · obtain ⟨entry, member, rfl⟩ := List.mem_map.mp called
    have mapped := List.mem_map_of_mem (f := fun entry => sample reader
      "ferroq_adapter_api_calls_total" [("name", entry.1)] entry.2.toNat) member
    exact ⟨_, List.mem_append_right _ mapped, List.mem_cons_self⟩

theorem plainNames_of_recovered {reader : Reader Value} {stats : RuntimeStats}
    {uptimeSecs : UInt64} (recovered : stats.Recovered reader uptimeSecs) : stats.PlainNames := by
  obtain ⟨found, parsed, same⟩ := recovered
  apply plain_of_quoted (marksWithin_prometheusMetrics stats uptimeSecs)
  intro name listed
  obtain ⟨sample, among, labelled⟩ := exists_sample_of_name reader stats uptimeSecs listed
  exact quoted_of_parse parsed (same.mem_iff.mpr among) _ labelled

/-- For every reader of values. -/
theorem recovered_iff (reader : Reader Value) (stats : RuntimeStats) (uptimeSecs : UInt64) :
    stats.Recovered reader uptimeSecs ↔ stats.PlainNames := by
  constructor
  · exact plainNames_of_recovered
  · intro plain
    exact ⟨_, parse_prometheusMetrics reader plain uptimeSecs, .rfl⟩

section QuotedName

def decimalReader : Reader Nat where
  ofNat number := number
  read text :=
    if text ≠ [] ∧ text.all Char.isDigit then some (Nat.ofDigitChars 10 text 0) else none
  read_toDigits number := by
    have digits : (Nat.toDigits 10 number).all Char.isDigit = true :=
      List.all_eq_true.mpr fun _ listed =>
        Nat.isDigit_of_mem_toDigits (by decide) (by decide) listed
    rw [if_pos ⟨Nat.toDigits_ne_nil, digits⟩, Nat.ofDigitChars_ten_toDigits]

def quotedName : AdapterSnapshot where
  name := "a\"b"
  backendType := .lagrange
  url := "ws://127.0.0.1:8081"
  state := .connected
  selfId := none
  healthy := true
  healthCheckMs := none
  lastHealthCheck := none
  eventsTotal := 0
  apiCallsTotal := 0

def quotedNameStats : RuntimeStats where
  eventsTotal := 0
  apiCallsTotal := 0
  wsConnections := 0
  wsConnectionsTotal := 0
  messagesStored := 0
  eventsDeduplicated := 0
  wsEventsDropped := 0
  wsApiRejected := 0
  storageEnabled := false
  adapters := [quotedName]
  perAdapterEvents := ⟨[], List.nodup_nil⟩
  perAdapterApiCalls := ⟨[], List.nodup_nil⟩

theorem quotedName_notRecovered : ¬ quotedNameStats.Recovered decimalReader 0 := by
  intro recovered
  have plain := plainNames_of_recovered recovered "a\"b".toList (by decide)
  exact absurd plain (by decide)

end QuotedName

end Ferroq.Gateway.Stats
