import Ferroq.Core.Config
import Ferroq.Library.Document

/-!
# Reading the configuration

The derived deserializers of the settings, over a document of any format.  What
the format makes of a scalar is left to it; which settings may be left out, and
what they are then, is said here.
-/

namespace Ferroq.Core

open Ferroq.Library
open Ferroq.Library.Document

variable {Scalar : Type}

/-- A JSON value that holds no other one. -/
inductive JsonScalar where
  | null
  | bool (value : Bool)
  | number (value : Number)
  | string (value : String)

def JsonScalar.toJson : JsonScalar → Json
  | null => .null
  | bool value => .bool value
  | number value => .number value
  | string value => .string value

/-- What a format makes of its scalars. -/
structure ScalarFormat (Scalar : Type) extends Conventions Scalar where
  text : Scalar → Option String
  bool : Scalar → Option Bool
  unsigned : Scalar → Option UInt64
  /-- The value of a scalar that may be of any kind. -/
  value : Scalar → JsonScalar

namespace ScalarFormat

variable (format : ScalarFormat Scalar)

def readText : Reader Scalar String := scalarOf format.text

def readBool : Reader Scalar Bool := scalarOf format.bool

def readU64 : Reader Scalar UInt64 := scalarOf format.unsigned

def readU32 : Reader Scalar UInt32 := scalarOf fun held =>
  (format.unsigned held).bind fun value =>
    if value.toNat < 2 ^ 32 then some value.toUInt32 else none

def readU16 : Reader Scalar UInt16 := scalarOf fun held =>
  (format.unsigned held).bind fun value =>
    if value.toNat < 2 ^ 16 then some value.toUInt16 else none

mutual

/-- A value of any kind; the last of the fields with a name is kept. -/
def toJson : Document Scalar → Json
  | .scalar held => (format.value held).toJson
  | .sequence items => .array (itemsToJson items)
  | .mapping fields => .ofFields (fieldsToJson fields)

def itemsToJson : List (Document Scalar) → List Json
  | [] => []
  | item :: rest => toJson item :: itemsToJson rest

def fieldsToJson : List (String × Document Scalar) → List (String × Json)
  | [] => []
  | (key, place) :: rest => (key, toJson place) :: fieldsToJson rest

end

def readValue : Reader Scalar Json := fun place => some (format.toJson place)

def record {Record : Type} (ofFields : List (String × Document Scalar) → Option Record) :
    Reader Scalar Record :=
  recordOf format.toConventions ofFields

def list {Value : Type} (read : Reader Scalar Value) : Reader Scalar (List Value) :=
  listOf format.toConventions read

def option {Value : Type} (read : Reader Scalar Value) : Reader Scalar (Option Value) :=
  optional format.toConventions read

theorem record_mapping {Record : Type}
    (ofFields : List (String × Document Scalar) → Option Record)
    (fields : List (String × Document Scalar)) :
    format.record ofFields (.mapping fields) = ofFields fields := rfl

end ScalarFormat

def defaultHost : String := "0.0.0.0"

def defaultPort : UInt16 := 8080

def defaultTrue : Bool := true

def defaultReconnectInterval : UInt64 := 5

def defaultMaxReconnectInterval : UInt64 := 120

def defaultHealthCheckInterval : UInt64 := 30

def defaultConnectTimeout : UInt64 := 15

def defaultApiTimeout : UInt64 := 30

def defaultStoragePath : String := "./data/messages.db"

def defaultMaxDays : UInt32 := 30

def defaultLogLevel : String := "info"

def defaultDedupWindow : UInt64 := 60

def defaultRps : UInt32 := 100

def defaultBurst : UInt32 := 200

def RateLimitConfig.default : RateLimitConfig where
  enabled := false
  requestsPerSecond := defaultRps
  burst := defaultBurst

def ServerConfig.default : ServerConfig where
  host := defaultHost
  port := defaultPort
  accessToken := ""
  dashboard := true
  rateLimit := .default

def ProtocolsConfig.default : ProtocolsConfig := ⟨none, none, none, none⟩

def StorageConfig.default : StorageConfig where
  enabled := false
  path := defaultStoragePath
  maxDays := defaultMaxDays

def DedupConfig.default : DedupConfig where
  enabled := true
  windowSecs := defaultDedupWindow

def LoggingConfig.default : LoggingConfig where
  level := defaultLogLevel
  file := none
  console := true

section Readers

variable (format : ScalarFormat Scalar)

def RateLimitConfig.ofFields (fields : List (String × Document Scalar)) :
    Option RateLimitConfig := do
  let enabled ← setting "enabled" format.readBool (some false) fields
  let requestsPerSecond ←
    setting "requests_per_second" format.readU32 (some defaultRps) fields
  let burst ← setting "burst" format.readU32 (some defaultBurst) fields
  return { enabled, requestsPerSecond, burst }

def RateLimitConfig.deserialize : Reader Scalar RateLimitConfig :=
  format.record (ofFields format)

def ServerConfig.ofFields (fields : List (String × Document Scalar)) : Option ServerConfig := do
  let host ← setting "host" format.readText (some defaultHost) fields
  let port ← setting "port" format.readU16 (some defaultPort) fields
  let accessToken ← setting "access_token" format.readText (some "") fields
  let dashboard ← setting "dashboard" format.readBool (some defaultTrue) fields
  let rateLimit ←
    setting "rate_limit" (RateLimitConfig.deserialize format) (some .default) fields
  return { host, port, accessToken, dashboard, rateLimit }

def ServerConfig.deserialize : Reader Scalar ServerConfig := format.record (ofFields format)

def BackendConfig.ofFields (fields : List (String × Document Scalar)) :
    Option BackendConfig := do
  let backendType ← setting "type" format.readText none fields
  let url ← setting "url" format.readText none fields
  let accessToken ← setting "access_token" format.readText (some "") fields
  let reconnectInterval ←
    setting "reconnect_interval" format.readU64 (some defaultReconnectInterval) fields
  let maxReconnectInterval ←
    setting "max_reconnect_interval" format.readU64 (some defaultMaxReconnectInterval) fields
  let healthCheckInterval ←
    setting "health_check_interval" format.readU64 (some defaultHealthCheckInterval) fields
  let connectTimeout ←
    setting "connect_timeout" format.readU64 (some defaultConnectTimeout) fields
  let apiTimeout ← setting "api_timeout" format.readU64 (some defaultApiTimeout) fields
  return { backendType, url, accessToken, reconnectInterval, maxReconnectInterval,
           healthCheckInterval, connectTimeout, apiTimeout }

def BackendConfig.deserialize : Reader Scalar BackendConfig := format.record (ofFields format)

def AccountConfig.ofFields (fields : List (String × Document Scalar)) :
    Option AccountConfig := do
  let name ← setting "name" format.readText none fields
  let backend ← setting "backend" (BackendConfig.deserialize format) none fields
  let fallback ←
    setting "fallback" (format.option (BackendConfig.deserialize format)) (some none) fields
  return { name, backend, fallback }

def AccountConfig.deserialize : Reader Scalar AccountConfig := format.record (ofFields format)

def WsReverseTarget.ofFields (fields : List (String × Document Scalar)) :
    Option WsReverseTarget := do
  let url ← setting "url" format.readText none fields
  let accessToken ← setting "access_token" format.readText (some "") fields
  return { url, accessToken }

def WsReverseTarget.deserialize : Reader Scalar WsReverseTarget :=
  format.record (ofFields format)

def HttpPostTarget.ofFields (fields : List (String × Document Scalar)) :
    Option HttpPostTarget := do
  let url ← setting "url" format.readText none fields
  let secret ← setting "secret" format.readText (some "") fields
  return { url, secret }

def HttpPostTarget.deserialize : Reader Scalar HttpPostTarget := format.record (ofFields format)

def OneBotV11Config.ofFields (fields : List (String × Document Scalar)) :
    Option OneBotV11Config := do
  let enabled ← setting "enabled" format.readBool (some defaultTrue) fields
  let http ← setting "http" format.readBool (some defaultTrue) fields
  let ws ← setting "ws" format.readBool (some defaultTrue) fields
  let wsReverse ←
    setting "ws_reverse" (format.list (WsReverseTarget.deserialize format)) (some []) fields
  let httpPost ←
    setting "http_post" (format.list (HttpPostTarget.deserialize format)) (some []) fields
  return { enabled, http, ws, wsReverse, httpPost }

def OneBotV11Config.deserialize : Reader Scalar OneBotV11Config :=
  format.record (ofFields format)

def OneBotV12Config.ofFields (fields : List (String × Document Scalar)) :
    Option OneBotV12Config := do
  let enabled ← setting "enabled" format.readBool (some false) fields
  let http ← setting "http" format.readBool (some defaultTrue) fields
  let ws ← setting "ws" format.readBool (some defaultTrue) fields
  return { enabled, http, ws }

def OneBotV12Config.deserialize : Reader Scalar OneBotV12Config :=
  format.record (ofFields format)

def MilkyConfig.ofFields (fields : List (String × Document Scalar)) : Option MilkyConfig := do
  let enabled ← setting "enabled" format.readBool (some false) fields
  return { enabled }

def MilkyConfig.deserialize : Reader Scalar MilkyConfig := format.record (ofFields format)

def SatoriConfig.ofFields (fields : List (String × Document Scalar)) : Option SatoriConfig := do
  let enabled ← setting "enabled" format.readBool (some false) fields
  let http ← setting "http" format.readBool (some defaultTrue) fields
  let ws ← setting "ws" format.readBool (some defaultTrue) fields
  return { enabled, http, ws }

def SatoriConfig.deserialize : Reader Scalar SatoriConfig := format.record (ofFields format)

def ProtocolsConfig.ofFields (fields : List (String × Document Scalar)) :
    Option ProtocolsConfig := do
  let onebotV11 ←
    setting "onebot_v11" (format.option (OneBotV11Config.deserialize format)) (some none) fields
  let onebotV12 ←
    setting "onebot_v12" (format.option (OneBotV12Config.deserialize format)) (some none) fields
  let milky ←
    setting "milky" (format.option (MilkyConfig.deserialize format)) (some none) fields
  let satori ←
    setting "satori" (format.option (SatoriConfig.deserialize format)) (some none) fields
  return { onebotV11, onebotV12, milky, satori }

def ProtocolsConfig.deserialize : Reader Scalar ProtocolsConfig :=
  format.record (ofFields format)

def StorageConfig.ofFields (fields : List (String × Document Scalar)) :
    Option StorageConfig := do
  let enabled ← setting "enabled" format.readBool (some false) fields
  let path ← setting "path" format.readText (some defaultStoragePath) fields
  let maxDays ← setting "max_days" format.readU32 (some defaultMaxDays) fields
  return { enabled, path, maxDays }

def StorageConfig.deserialize : Reader Scalar StorageConfig := format.record (ofFields format)

def DedupConfig.ofFields (fields : List (String × Document Scalar)) : Option DedupConfig := do
  let enabled ← setting "enabled" format.readBool (some defaultTrue) fields
  let windowSecs ← setting "window_secs" format.readU64 (some defaultDedupWindow) fields
  return { enabled, windowSecs }

def DedupConfig.deserialize : Reader Scalar DedupConfig := format.record (ofFields format)

def PluginConfig.ofFields (fields : List (String × Document Scalar)) : Option PluginConfig := do
  let path ← setting "path" format.readText none fields
  let enabled ← setting "enabled" format.readBool (some defaultTrue) fields
  let config ← setting "config" format.readValue (some .null) fields
  return { path, enabled, config }

def PluginConfig.deserialize : Reader Scalar PluginConfig := format.record (ofFields format)

def LoggingConfig.ofFields (fields : List (String × Document Scalar)) :
    Option LoggingConfig := do
  let level ← setting "level" format.readText (some defaultLogLevel) fields
  let file ← setting "file" (format.option format.readText) (some none) fields
  let console ← setting "console" format.readBool (some defaultTrue) fields
  return { level, file, console }

def LoggingConfig.deserialize : Reader Scalar LoggingConfig := format.record (ofFields format)

def AppConfig.ofFields (fields : List (String × Document Scalar)) : Option AppConfig := do
  let server ← setting "server" (ServerConfig.deserialize format) (some .default) fields
  let accounts ←
    setting "accounts" (format.list (AccountConfig.deserialize format)) (some []) fields
  let protocols ←
    setting "protocols" (ProtocolsConfig.deserialize format) (some .default) fields
  let storage ← setting "storage" (StorageConfig.deserialize format) (some .default) fields
  let dedup ← setting "dedup" (DedupConfig.deserialize format) (some .default) fields
  let plugins ←
    setting "plugins" (format.list (PluginConfig.deserialize format)) (some []) fields
  let logging ← setting "logging" (LoggingConfig.deserialize format) (some .default) fields
  return { server, accounts, protocols, storage, dedup, plugins, logging }

def AppConfig.deserialize : Reader Scalar AppConfig := format.record (ofFields format)

end Readers

section Settings

variable {format : ScalarFormat Scalar} {fields : List (String × Document Scalar)}

/-- Where the settings of a configuration come from. -/
structure AppConfig.Settings (format : ScalarFormat Scalar)
    (fields : List (String × Document Scalar)) (config : AppConfig) : Prop where
  server : setting "server" (ServerConfig.deserialize format) (some .default) fields =
    some config.server
  accounts : setting "accounts" (format.list (AccountConfig.deserialize format)) (some [])
    fields = some config.accounts
  protocols : setting "protocols" (ProtocolsConfig.deserialize format) (some .default) fields =
    some config.protocols
  plugins : setting "plugins" (format.list (PluginConfig.deserialize format)) (some []) fields =
    some config.plugins

theorem AppConfig.ofFields_some {config : AppConfig}
    (made : ofFields format fields = some config) : Settings format fields config := by
  simp only [ofFields, Option.bind_eq_bind, Option.bind_eq_some_iff, Option.pure_def,
    Option.some.injEq] at made
  obtain ⟨_, server, _, accounts, _, protocols, _, _, _, _, _, plugins, _, _, rfl⟩ := made
  exact ⟨server, accounts, protocols, plugins⟩

theorem ServerConfig.ofFields_some {server : ServerConfig}
    (made : ofFields format fields = some server) :
    setting "host" format.readText (some defaultHost) fields = some server.host ∧
      setting "port" format.readU16 (some defaultPort) fields = some server.port := by
  simp only [ofFields, Option.bind_eq_bind, Option.bind_eq_some_iff, Option.pure_def,
    Option.some.injEq] at made
  obtain ⟨_, host, _, port, _, _, _, _, _, _, rfl⟩ := made
  exact ⟨host, port⟩

theorem BackendConfig.ofFields_some {backend : BackendConfig}
    (made : ofFields format fields = some backend) :
    setting "type" format.readText none fields = some backend.backendType ∧
      setting "url" format.readText none fields = some backend.url ∧
      setting "reconnect_interval" format.readU64 (some defaultReconnectInterval) fields =
        some backend.reconnectInterval := by
  simp only [ofFields, Option.bind_eq_bind, Option.bind_eq_some_iff, Option.pure_def,
    Option.some.injEq] at made
  obtain ⟨_, backendType, _, url, _, _, _, interval, _, _, _, _, _, _, _, _, rfl⟩ := made
  exact ⟨backendType, url, interval⟩

theorem AccountConfig.ofFields_some {account : AccountConfig}
    (made : ofFields format fields = some account) :
    setting "name" format.readText none fields = some account.name ∧
      setting "backend" (BackendConfig.deserialize format) none fields = some account.backend ∧
      setting "fallback" (format.option (BackendConfig.deserialize format)) (some none) fields =
        some account.fallback := by
  simp only [ofFields, Option.bind_eq_bind, Option.bind_eq_some_iff, Option.pure_def,
    Option.some.injEq] at made
  obtain ⟨_, name, _, backend, _, fallback, rfl⟩ := made
  exact ⟨name, backend, fallback⟩

theorem WsReverseTarget.ofFields_some {target : WsReverseTarget}
    (made : ofFields format fields = some target) :
    setting "url" format.readText none fields = some target.url := by
  simp only [ofFields, Option.bind_eq_bind, Option.bind_eq_some_iff, Option.pure_def,
    Option.some.injEq] at made
  obtain ⟨_, url, _, _, rfl⟩ := made
  exact url

theorem HttpPostTarget.ofFields_some {target : HttpPostTarget}
    (made : ofFields format fields = some target) :
    setting "url" format.readText none fields = some target.url := by
  simp only [ofFields, Option.bind_eq_bind, Option.bind_eq_some_iff, Option.pure_def,
    Option.some.injEq] at made
  obtain ⟨_, url, _, _, rfl⟩ := made
  exact url

theorem OneBotV11Config.ofFields_some {config : OneBotV11Config}
    (made : ofFields format fields = some config) :
    setting "ws_reverse" (format.list (WsReverseTarget.deserialize format)) (some []) fields =
        some config.wsReverse ∧
      setting "http_post" (format.list (HttpPostTarget.deserialize format)) (some []) fields =
        some config.httpPost := by
  simp only [ofFields, Option.bind_eq_bind, Option.bind_eq_some_iff, Option.pure_def,
    Option.some.injEq] at made
  obtain ⟨_, _, _, _, _, _, _, wsReverse, _, httpPost, rfl⟩ := made
  exact ⟨wsReverse, httpPost⟩

theorem ProtocolsConfig.ofFields_some {protocols : ProtocolsConfig}
    (made : ofFields format fields = some protocols) :
    setting "onebot_v11" (format.option (OneBotV11Config.deserialize format)) (some none)
      fields = some protocols.onebotV11 := by
  simp only [ofFields, Option.bind_eq_bind, Option.bind_eq_some_iff, Option.pure_def,
    Option.some.injEq] at made
  obtain ⟨_, onebotV11, _, _, _, _, _, _, rfl⟩ := made
  exact onebotV11

end Settings

end Ferroq.Core
