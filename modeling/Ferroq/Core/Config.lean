import Ferroq.Core.Serde

/-!
# The configuration

The settings of the gateway as they are read at startup, with their serialized
form.
-/

namespace Ferroq.Core

structure RateLimitConfig where
  enabled : Bool
  requestsPerSecond : UInt32
  burst : UInt32

structure ServerConfig where
  host : String
  port : UInt16
  accessToken : String
  dashboard : Bool
  rateLimit : RateLimitConfig

structure BackendConfig where
  backendType : String
  url : String
  accessToken : String
  reconnectInterval : UInt64
  maxReconnectInterval : UInt64
  healthCheckInterval : UInt64
  connectTimeout : UInt64
  apiTimeout : UInt64

structure AccountConfig where
  name : String
  backend : BackendConfig
  fallback : Option BackendConfig

structure WsReverseTarget where
  url : String
  accessToken : String

structure HttpPostTarget where
  url : String
  secret : String

structure OneBotV11Config where
  enabled : Bool
  http : Bool
  ws : Bool
  wsReverse : List WsReverseTarget
  httpPost : List HttpPostTarget

structure OneBotV12Config where
  enabled : Bool
  http : Bool
  ws : Bool

structure MilkyConfig where
  enabled : Bool

structure SatoriConfig where
  enabled : Bool
  http : Bool
  ws : Bool

structure ProtocolsConfig where
  onebotV11 : Option OneBotV11Config
  onebotV12 : Option OneBotV12Config
  milky : Option MilkyConfig
  satori : Option SatoriConfig

structure StorageConfig where
  enabled : Bool
  path : String
  maxDays : UInt32

structure DedupConfig where
  enabled : Bool
  windowSecs : UInt64

structure PluginConfig where
  path : String
  enabled : Bool
  config : Json

structure LoggingConfig where
  level : String
  file : Option String
  console : Bool

structure AppConfig where
  server : ServerConfig
  accounts : List AccountConfig
  protocols : ProtocolsConfig
  storage : StorageConfig
  dedup : DedupConfig
  plugins : List PluginConfig
  logging : LoggingConfig

namespace Json

def unsigned (value : UInt64) : Json := number (.posInt value)

def nullable (value : Option Json) : Json := value.getD null

end Json

def RateLimitConfig.toJson (config : RateLimitConfig) : Json :=
  .ofFields
    [("enabled", .bool config.enabled),
      ("requests_per_second", .unsigned config.requestsPerSecond.toUInt64),
      ("burst", .unsigned config.burst.toUInt64)]

def ServerConfig.toJson (config : ServerConfig) : Json :=
  .ofFields
    [("host", .string config.host),
      ("port", .unsigned config.port.toUInt64),
      ("access_token", .string config.accessToken),
      ("dashboard", .bool config.dashboard),
      ("rate_limit", config.rateLimit.toJson)]

def BackendConfig.toJson (config : BackendConfig) : Json :=
  .ofFields
    [("type", .string config.backendType),
      ("url", .string config.url),
      ("access_token", .string config.accessToken),
      ("reconnect_interval", .unsigned config.reconnectInterval),
      ("max_reconnect_interval", .unsigned config.maxReconnectInterval),
      ("health_check_interval", .unsigned config.healthCheckInterval),
      ("connect_timeout", .unsigned config.connectTimeout),
      ("api_timeout", .unsigned config.apiTimeout)]

def AccountConfig.toJson (config : AccountConfig) : Json :=
  .ofFields
    [("name", .string config.name),
      ("backend", config.backend.toJson),
      ("fallback", .nullable (config.fallback.map BackendConfig.toJson))]

def WsReverseTarget.toJson (target : WsReverseTarget) : Json :=
  .ofFields [("url", .string target.url), ("access_token", .string target.accessToken)]

def HttpPostTarget.toJson (target : HttpPostTarget) : Json :=
  .ofFields [("url", .string target.url), ("secret", .string target.secret)]

def OneBotV11Config.toJson (config : OneBotV11Config) : Json :=
  .ofFields
    [("enabled", .bool config.enabled),
      ("http", .bool config.http),
      ("ws", .bool config.ws),
      ("ws_reverse", .array (config.wsReverse.map WsReverseTarget.toJson)),
      ("http_post", .array (config.httpPost.map HttpPostTarget.toJson))]

def OneBotV12Config.toJson (config : OneBotV12Config) : Json :=
  .ofFields
    [("enabled", .bool config.enabled), ("http", .bool config.http), ("ws", .bool config.ws)]

def MilkyConfig.toJson (config : MilkyConfig) : Json :=
  .ofFields [("enabled", .bool config.enabled)]

def SatoriConfig.toJson (config : SatoriConfig) : Json :=
  .ofFields
    [("enabled", .bool config.enabled), ("http", .bool config.http), ("ws", .bool config.ws)]

def ProtocolsConfig.toJson (config : ProtocolsConfig) : Json :=
  .ofFields
    [("onebot_v11", .nullable (config.onebotV11.map OneBotV11Config.toJson)),
      ("onebot_v12", .nullable (config.onebotV12.map OneBotV12Config.toJson)),
      ("milky", .nullable (config.milky.map MilkyConfig.toJson)),
      ("satori", .nullable (config.satori.map SatoriConfig.toJson))]

def StorageConfig.toJson (config : StorageConfig) : Json :=
  .ofFields
    [("enabled", .bool config.enabled),
      ("path", .string config.path),
      ("max_days", .unsigned config.maxDays.toUInt64)]

def DedupConfig.toJson (config : DedupConfig) : Json :=
  .ofFields [("enabled", .bool config.enabled), ("window_secs", .unsigned config.windowSecs)]

def PluginConfig.toJson (config : PluginConfig) : Json :=
  .ofFields
    [("path", .string config.path), ("enabled", .bool config.enabled), ("config", config.config)]

def LoggingConfig.toJson (config : LoggingConfig) : Json :=
  .ofFields
    [("level", .string config.level),
      ("file", .nullable (config.file.map .string)),
      ("console", .bool config.console)]

def AppConfig.toJson (config : AppConfig) : Json :=
  .ofFields
    [("server", config.server.toJson),
      ("accounts", .array (config.accounts.map AccountConfig.toJson)),
      ("protocols", config.protocols.toJson),
      ("storage", config.storage.toJson),
      ("dedup", config.dedup.toJson),
      ("plugins", .array (config.plugins.map PluginConfig.toJson)),
      ("logging", config.logging.toJson)]

end Ferroq.Core
