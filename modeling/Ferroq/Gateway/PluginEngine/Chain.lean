import Ferroq.Gateway.PluginEngine

/-!
# The plugin chain

The engine runs an event through its plugins one after the other; the first one
that handles or drops it ends the chain.
-/

namespace Ferroq.Gateway.PluginEngine

variable {Memory Event : Type}

structure ChainRun (Memory Event : Type) where
  result : PluginResult
  event : Event
  plugins : List (WasmPlugin Memory)

/-- Process an event through all plugins; an error counts as `continue`. -/
def processEvent (codec : Codec Event) :
    List (WasmPlugin Memory) → Event → ChainRun Memory Event
  | [], event => ⟨.continue, event, []⟩
  | plugin :: rest, event =>
      let run := plugin.onEvent codec event
      match run.result with
      | .continue | .error _ =>
          let chain := processEvent codec rest run.value
          { chain with plugins := run.plugin :: chain.plugins }
      | .handled => ⟨.handled, run.value, run.plugin :: rest⟩
      | .drop => ⟨.drop, run.value, run.plugin :: rest⟩

end Ferroq.Gateway.PluginEngine
