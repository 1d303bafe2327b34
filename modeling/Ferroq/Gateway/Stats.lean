import Ferroq.Core.Adapter

/-!
# Runtime statistics

The counters of the gateway, the last snapshots of its adapters, and what is
rendered of them for a scrape.  Names of adapters are put into the text as they
are.
-/

namespace Ferroq.Gateway.Stats

open Ferroq.Core

inductive BackendType where
  | lagrange
  | napcat
  | official
  | failover (primary fallback : BackendType)
  deriving DecidableEq

def BackendType.toText : BackendType → String
  | lagrange => "lagrange"
  | napcat => "napcat"
  | official => "official"
  | failover primary fallback => primary.toText ++ "+" ++ fallback.toText

structure AdapterSnapshot where
  name : String
  backendType : BackendType
  url : String
  state : AdapterState
  selfId : Option Int64
  healthy : Bool
  healthCheckMs : Option UInt64
  lastHealthCheck : Option UInt64
  eventsTotal : UInt64
  apiCallsTotal : UInt64

/-- Counts by adapter name, in the order in which the map yields them. -/
structure Counts where
  entries : List (String × UInt64)
  distinct : (entries.map Prod.fst).Nodup

def Counts.get (counts : Counts) (name : String) : Option UInt64 := counts.entries.lookup name

structure RuntimeStats where
  eventsTotal : UInt64
  apiCallsTotal : UInt64
  wsConnections : UInt64
  wsConnectionsTotal : UInt64
  messagesStored : UInt64
  eventsDeduplicated : UInt64
  wsEventsDropped : UInt64
  wsApiRejected : UInt64
  storageEnabled : Bool
  adapters : List AdapterSnapshot
  perAdapterEvents : Counts
  perAdapterApiCalls : Counts

structure HealthResponse where
  status : String
  version : String
  uptimeSecs : UInt64
  eventsTotal : UInt64
  eventsDeduplicated : UInt64
  wsEventsDropped : UInt64
  wsApiRejected : UInt64
  apiCallsTotal : UInt64
  wsConnections : UInt64
  wsConnectionsTotal : UInt64
  messagesStored : UInt64
  storageEnabled : Bool
  healthyAdapters : Nat
  totalAdapters : Nat
  adapters : List AdapterSnapshot

/-- A metric with its samples: their labels and values. -/
structure Metric where
  name : String
  help : String
  kind : String
  samples : List (List (String × String) × Nat)

namespace Metric

def labelText (label : String × String) : String := label.1 ++ "=\"" ++ label.2 ++ "\""

def labelsText (labels : List (String × String)) : String :=
  if labels.isEmpty then "" else "\x7b" ++ ",".intercalate (labels.map labelText) ++ "\x7d"

def sampleText (name : String) (sample : List (String × String) × Nat) : String :=
  name ++ labelsText sample.1 ++ " " ++ toString sample.2 ++ "\n"

def heading (keyword name rest : String) : String := keyword ++ name ++ " " ++ rest ++ "\n"

/-- A metric as it is rendered, with an empty line behind. -/
def text (metric : Metric) : String :=
  heading "# HELP " metric.name metric.help ++ heading "# TYPE " metric.name metric.kind ++
    String.join (metric.samples.map (sampleText metric.name)) ++ "\n"

def gauge (name help : String) (value : Nat) : Metric := ⟨name, help, "gauge", [([], value)]⟩

def counter (name help : String) (value : UInt64) : Metric :=
  ⟨name, help, "counter", [([], value.toNat)]⟩

def perAdapter (name help : String) (counts : Counts) : List Metric :=
  if counts.entries.isEmpty then []
  else [⟨name, help, "counter",
    counts.entries.map fun (adapter, count) => ([("name", adapter)], count.toNat)⟩]

end Metric

namespace RuntimeStats

def health (stats : RuntimeStats) (uptimeSecs : UInt64) : HealthResponse :=
  let adapters := stats.adapters.map fun adapter =>
    { adapter with
      eventsTotal := (stats.perAdapterEvents.get adapter.name).getD 0
      apiCallsTotal := (stats.perAdapterApiCalls.get adapter.name).getD 0 }
  { status := "ok"
    version := "1.0.0-rc"
    uptimeSecs := uptimeSecs
    eventsTotal := stats.eventsTotal
    eventsDeduplicated := stats.eventsDeduplicated
    wsEventsDropped := stats.wsEventsDropped
    wsApiRejected := stats.wsApiRejected
    apiCallsTotal := stats.apiCallsTotal
    wsConnections := stats.wsConnections
    wsConnectionsTotal := stats.wsConnectionsTotal
    messagesStored := stats.messagesStored
    storageEnabled := stats.storageEnabled
    healthyAdapters := adapters.countP (·.healthy)
    totalAdapters := adapters.length
    adapters := adapters }

def flag (value : Bool) : Nat := if value then 1 else 0

def gatewayMetrics (health : HealthResponse) : List Metric :=
  [ .gauge "ferroq_uptime_seconds" "Gateway uptime in seconds." health.uptimeSecs.toNat,
    .counter "ferroq_events_total" "Total events forwarded through the bus."
      health.eventsTotal,
    .counter "ferroq_events_deduplicated_total" "Total duplicate events suppressed."
      health.eventsDeduplicated,
    .counter "ferroq_ws_events_dropped_total"
      "Total WS outbound events dropped by backpressure." health.wsEventsDropped,
    .counter "ferroq_ws_api_rejected_total"
      "Total WS API requests rejected by in-flight limits." health.wsApiRejected,
    .counter "ferroq_api_calls_total" "Total API calls routed." health.apiCallsTotal,
    .gauge "ferroq_ws_connections_active" "Active WebSocket connections."
      health.wsConnections.toNat,
    .counter "ferroq_ws_connections_total" "Total WebSocket connections served (lifetime)."
      health.wsConnectionsTotal,
    .counter "ferroq_messages_stored_total" "Total messages persisted to storage."
      health.messagesStored,
    .gauge "ferroq_storage_enabled" "Whether message storage is enabled (1=yes, 0=no)."
      (flag health.storageEnabled),
    .gauge "ferroq_adapters_total" "Total number of backend adapters." health.totalAdapters,
    .gauge "ferroq_adapters_healthy" "Number of healthy backend adapters."
      health.healthyAdapters ]

def adapterMetrics (adapters : List AdapterSnapshot) : List Metric :=
  if adapters.isEmpty then []
  else
    [ { name := "ferroq_adapter_healthy"
        help := "Whether a backend adapter is healthy (1=yes, 0=no)."
        kind := "gauge"
        samples := adapters.map fun adapter =>
          ([("name", adapter.name), ("type", adapter.backendType.toText),
            ("state", adapter.state.toText)], flag adapter.healthy) },
      { name := "ferroq_adapter_health_check_ms"
        help := "Latency of the last health check in milliseconds."
        kind := "gauge"
        samples := adapters.filterMap fun adapter =>
          adapter.healthCheckMs.map fun ms => ([("name", adapter.name)], ms.toNat) } ]

def metrics (stats : RuntimeStats) (uptimeSecs : UInt64) : List Metric :=
  let health := stats.health uptimeSecs
  gatewayMetrics health ++ adapterMetrics health.adapters ++
    Metric.perAdapter "ferroq_adapter_events_total" "Events forwarded per adapter."
      stats.perAdapterEvents ++
    Metric.perAdapter "ferroq_adapter_api_calls_total" "API calls routed per adapter."
      stats.perAdapterApiCalls

def prometheusMetrics (stats : RuntimeStats) (uptimeSecs : UInt64) : String :=
  String.join ((stats.metrics uptimeSecs).map Metric.text)

end RuntimeStats

end Ferroq.Gateway.Stats
