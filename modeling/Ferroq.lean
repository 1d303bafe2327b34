import Ferroq.Library.Machine
import Ferroq.Library.Tally
import Ferroq.Library.Parts
import Ferroq.Library.Images
import Ferroq.Library.Numerals
import Ferroq.Library.Calendar
import Ferroq.Library.Table
import Ferroq.Library.Utf8
import Ferroq.Library.FormUrlencoded
import Ferroq.Library.SipHash
import Ferroq.Library.Like
import Ferroq.Library.Paging
import Ferroq.Library.Exposition
import Ferroq.Library.Exposition.RoundTrip
import Ferroq.Library.Exposition.Quoted
import Ferroq.Library.Writers
import Ferroq.Library.Scan
import Ferroq.Library.Registry
import Ferroq.Core.Adapter
import Ferroq.Core.Text
import Ferroq.Core.Message
import Ferroq.Core.Event
import Ferroq.Core.Rfc3339
import Ferroq.Core.Encoding
import Ferroq.Core.Config
import Ferroq.Core.Validation
import Ferroq.Core.Validation.Violations
import Ferroq.Gateway.SharedConfig
import Ferroq.Gateway.Management
import Ferroq.Gateway.Router.Runs
import Ferroq.Gateway.Refresher
import Ferroq.Gateway.Dedup
import Ferroq.Gateway.Dedup.Runs
import Ferroq.Gateway.Dedup.Fingerprint
import Ferroq.Gateway.Dedup.Parsed
import Ferroq.Gateway.Dedup.Octets
import Ferroq.Gateway.Dedup.Sweeps
import Ferroq.Gateway.Forward
import Ferroq.Gateway.Satori.Elements
import Ferroq.Gateway.Satori.RoundTrip
import Ferroq.Gateway.Satori.Stability
import Ferroq.Gateway.Satori.Composition
import Ferroq.Gateway.Satori.Dispatch
import Ferroq.Gateway.Satori.Events
import Ferroq.Gateway.Satori.Api
import Ferroq.Gateway.Satori.Responses
import Ferroq.Gateway.Lagrange.Call
import Ferroq.Gateway.Failover
import Ferroq.Gateway.Official.Call
import Ferroq.Gateway.Official.Posts
import Ferroq.Gateway.Failures
import Ferroq.Gateway.Failover.Transport
import Ferroq.Gateway.OneBotV12
import Ferroq.Gateway.OneBotV11
import Ferroq.Gateway.OneBotV11.RoundTrip
import Ferroq.Gateway.OneBotV12.Segments
import Ferroq.Gateway.OneBotV12.Events
import Ferroq.Gateway.OneBotV12.Actions
import Ferroq.Gateway.SelfMessages
import Ferroq.Gateway.Server.OneBot
import Ferroq.Gateway.Server.Echo
import Ferroq.Gateway.Server.SatoriHttp
import Ferroq.Gateway.Middleware
import Ferroq.Gateway.Storage
import Ferroq.Gateway.Storage.Retention
import Ferroq.Gateway.Storage.Search
import Ferroq.Gateway.Storage.Keyword
import Ferroq.Gateway.Storage.Pages
import Ferroq.Gateway.Tuning
import Ferroq.Gateway.Stats
import Ferroq.Gateway.Stats.Prometheus
import Ferroq.Gateway.Stats.Scrapes
import Ferroq.Gateway.RateLimiter
import Ferroq.Gateway.Management.Reload
import Ferroq.Gateway.Management.Lockout
import Ferroq.Gateway.PluginEngine
import Ferroq.Gateway.PluginEngine.EventBoundary
import Ferroq.Gateway.PluginEngine.HostFunctions
import Ferroq.Gateway.Forward.Plugins
import Ferroq.Gateway.PluginEngine.Errors
import Ferroq.Gateway.PluginEngine.Regions
import Ferroq.Gateway.Lagrange.Correlation
import Ferroq.Gateway.Lagrange.Cleanup
import Ferroq.Gateway.Lagrange.Adequacy
import Ferroq.Gateway.Lagrange.Stopped
import Ferroq.Gateway.Lagrange.Sessions
import Ferroq.Gateway.Lagrange.Supervision
import Ferroq.Gateway.Lagrange.Reader
import Ferroq.Gateway.Lagrange.Identity
import Ferroq.Gateway.Manager.AdapterManager
import Ferroq.Gateway.Startup
import Ferroq.Gateway.Manager.LiveMap
import Ferroq.Gateway.Startup.Instances
import Ferroq.Gateway.Manager.Agreement
import Ferroq.Gateway.Manager.Removal
import Ferroq.Gateway.Server.ForwardWs
import Ferroq.Gateway.Server.ForwardWs.Replies
import Ferroq.Gateway.Server.ForwardWs.Delivery
import Ferroq.Gateway.Server.SatoriWs
import Ferroq.Gateway.Server.SatoriWs.Handshake
import Ferroq.Gateway.Server.SatoriWs.Sequence
import Ferroq.Gateway.Server.SatoriWs.Subscription
import Ferroq.Gateway.Server.WsConnections
import Ferroq.Gateway.EventBus
import Ferroq.Gateway.Persistence
import Ferroq.Gateway.Dedup.Spacing
import Ferroq.Gateway.Pipeline
import Ferroq.Gateway.Pipeline.Repetitions
import Ferroq.Gateway.Server.HttpPost
import Ferroq.Gateway.Server.ReverseWs
import Ferroq.Gateway.Server.ReverseWs.Sessions
import Ferroq.Library.CallSession
import Ferroq.Library.CallSession.Books
import Ferroq.Library.CallSession.Ownership
import Ferroq.Library.CallSession.Settling
import Ferroq.Gateway.Server.ForwardWsV12
import Ferroq.Gateway.PluginEngine.Engine
import Ferroq.Gateway.Official.Operations
import Ferroq.Gateway.Failover.Leaves
import Ferroq.Core.Config.Reading
import Ferroq.Core.Config.RoundTrip
import Ferroq.Core.Validation.Places
import Ferroq.Gateway.Management.Shown
import Ferroq.Gateway.Storage.Reading
import Ferroq.Gateway.Manager.Linearization
