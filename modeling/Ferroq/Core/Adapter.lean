import Ferroq.Core.Api

/-!
# What a backend adapter reports

The connection states of an adapter and the metadata that the router and the
management layer read from it.
-/

namespace Ferroq.Core

inductive AdapterState where
  | disconnected
  | connecting
  | connected
  | reconnecting
  | failed
  deriving DecidableEq, Repr

def AdapterState.toText : AdapterState → String
  | disconnected => "disconnected"
  | connecting => "connecting"
  | connected => "connected"
  | reconnecting => "reconnecting"
  | failed => "failed"

structure AdapterInfo where
  name : String
  backendType : String
  url : String
  state : AdapterState
  selfId : Option Int64
  deriving DecidableEq

end Ferroq.Core
