import Ferroq.Gateway.PluginEngine.Chain
import Ferroq.Library.Broadcast
import Mathlib.Data.List.Forall2

/-!
# The plugin engine over time

The engine loads plugins, switches them on and off by name, and runs events and API
calls through them.  Every plugin lives a session of its own, of which the others are
no part: what a chain leaves was given to it, or read from bytes of one of its plugins.
-/

namespace Ferroq.Gateway.PluginEngine

open Ferroq.Core Ferroq.Library

variable {Memory Value Event : Type}

abbrev HookOf (Memory : Type) :=
  Guest Memory → Export (Int32 → Int32 → Memory → GuestRun Memory Int32)

/-- What the files of plugins hold: which of them exist, the instance of a module, and
how a plugin's information is read. -/
structure Files (Memory : Type) where
  exist : String → Bool
  instantiate : PluginConfig → Except String (Guest Memory × Memory)
  fromSlice : List UInt8 → Except String PluginInfo

def loadPlugin (files : Files Memory) (config : PluginConfig) :
    Except String (WasmPlugin Memory) :=
  (files.instantiate config).bind fun (guest, memory) =>
    WasmPlugin.load files.fromSlice guest config memory

/-- Load plugins from configuration; one that cannot be loaded is left out. -/
def loadPlugins (files : Files Memory) :
    List PluginConfig → List (WasmPlugin Memory) → List (WasmPlugin Memory)
  | [], plugins => plugins
  | config :: rest, plugins =>
      if !config.enabled then loadPlugins files rest plugins
      else if !files.exist config.path then loadPlugins files rest plugins
      else
        match loadPlugin files config with
        | .ok plugin => loadPlugins files rest (plugins ++ [plugin])
        | .error _ => loadPlugins files rest plugins

structure Processed (Memory Value : Type) where
  result : PluginResult
  value : Value
  plugins : List (WasmPlugin Memory)

/-- Pass a value through the hooks of all plugins; an error counts as `continue`. -/
def process (codec : Codec Value) (hook : HookOf Memory) :
    List (WasmPlugin Memory) → Value → Processed Memory Value
  | [], value => ⟨.continue, value, []⟩
  | plugin :: rest, value =>
      let run := plugin.callHook codec (hook plugin.guest) value
      match run.result with
      | .continue | .error _ =>
          let chain := process codec hook rest run.value
          { chain with plugins := run.plugin :: chain.plugins }
      | .handled => ⟨.handled, run.value, run.plugin :: rest⟩
      | .drop => ⟨.drop, run.value, run.plugin :: rest⟩

def processApiCall (codec : Codec ApiRequest) :
    List (WasmPlugin Memory) → ApiRequest → Processed Memory ApiRequest :=
  process codec Guest.onApiCall

/-- Switch the first plugin of a name, and tell whether there is one. -/
def setPluginEnabled (name : String) (enabled : Bool) :
    List (WasmPlugin Memory) → List (WasmPlugin Memory) × Bool
  | [] => ([], false)
  | plugin :: rest =>
      if plugin.info.name = name then ({ plugin with enabled := enabled } :: rest, true)
      else
        let (switched, found) := setPluginEnabled name enabled rest
        (plugin :: switched, found)

inductive Action (Event : Type) where
  | loadPlugins (configs : List PluginConfig)
  | processEvent (event : Event)
  | processApiCall (request : ApiRequest)
  | setPluginEnabled (name : String) (enabled : Bool)

def step (files : Files Memory) (codecs : Codecs Event) (plugins : List (WasmPlugin Memory)) :
    Action Event → List (WasmPlugin Memory)
  | .loadPlugins configs => loadPlugins files configs plugins
  | .processEvent event => (processEvent codecs.event plugins event).plugins
  | .processApiCall request => (processApiCall codecs.request plugins request).plugins
  | .setPluginEnabled name enabled => (setPluginEnabled name enabled plugins).1

/-- The plugins of an engine after some actions. -/
def after (files : Files Memory) (codecs : Codecs Event) (actions : List (Action Event)) :
    List (WasmPlugin Memory) :=
  actions.foldl (step files codecs) []

theorem processEvent_eq (codec : Codec Event) (plugins : List (WasmPlugin Memory))
    (event : Event) :
    process codec Guest.onEvent plugins event =
      ⟨(processEvent codec plugins event).result, (processEvent codec plugins event).event,
        (processEvent codec plugins event).plugins⟩ := by
  induction plugins generalizing event with
  | nil => rfl
  | cons plugin rest inductionHypothesis =>
      unfold process processEvent WasmPlugin.onEvent
      dsimp only
      cases (plugin.callHook codec plugin.guest.onEvent event).result with
      | «continue» | error message =>
          dsimp only
          rw [inductionHypothesis]
      | handled | drop => rfl

section Hooks

variable (codec : Codec Value)
  (function : Export (Int32 → Int32 → Memory → GuestRun Memory Int32))
  (plugin : WasmPlugin Memory) (value : Value)

theorem callHook_plugin : ∃ store,
    (plugin.callHook codec function value).plugin = { plugin with store := store } := by
  unfold WasmPlugin.callHook
  split
  · exact ⟨_, rfl⟩
  · cases function with
    | none => exact ⟨_, rfl⟩
    | some typed =>
        cases codec.toBytes value with
        | error error => exact ⟨_, rfl⟩
        | ok bytes =>
            dsimp only
            cases (plugin.guest.allocAndWrite bytes plugin.store).outcome with
            | error error => exact ⟨_, rfl⟩
            | ok ptr =>
                cases typed with
                | error error => exact ⟨_, rfl⟩
                | ok call =>
                    dsimp only
                    split <;> exact ⟨_, rfl⟩

/-- The value after a hook is the value before it, or was read from bytes that the
plugin passed during it or had left behind. -/
theorem callHook_value :
    (plugin.callHook codec function value).value = value ∨ ∃ bytes,
      (bytes ∈ (plugin.callHook codec function value).results ∨
        bytes = plugin.store.resultBuffer) ∧
      codec.fromSlice bytes = .ok (plugin.callHook codec function value).value := by
  unfold WasmPlugin.callHook
  split
  · exact .inl rfl
  · cases function with
    | none => exact .inl rfl
    | some typed =>
        cases codec.toBytes value with
        | error error => exact .inl rfl
        | ok bytes =>
            have buffer := plugin.guest.allocAndWrite_resultBuffer bytes plugin.store
            dsimp only
            generalize plugin.guest.allocAndWrite bytes plugin.store = allocated at buffer ⊢
            rcases allocated with ⟨store, results, error | ptr⟩
            · exact .inl rfl
            · rcases typed with error | call
              · exact .inl rfl
              · dsimp only
                generalize call ptr (lengthI32 bytes) store.memory = run
                rcases run with ⟨memory, passed, trap | code⟩
                · exact .inl rfl
                · dsimp only
                  change store.resultBuffer = lastResult results plugin.store.resultBuffer
                    at buffer
                  rw [PluginState.after_resultBuffer, buffer, ← lastResult_append]
                  split
                  next => exact .inl rfl
                  next =>
                    cases parsed : codec.fromSlice
                        (lastResult (results ++ passed) plugin.store.resultBuffer) with
                    | error error => exact .inl rfl
                    | ok modified =>
                        refine .inr ⟨_, ?_, parsed⟩
                        unfold lastResult
                        cases last : (results ++ passed).getLast? with
                        | none => exact .inr rfl
                        | some bytes =>
                            left
                            exact List.mem_append_left _ (List.mem_of_getLast? last)

variable {plugin} in
theorem callHook_disabled (off : plugin.enabled = false) :
    plugin.callHook codec function value = ⟨.continue, value, plugin, []⟩ := by
  simp [WasmPlugin.callHook, off]

end Hooks

structure Processes (codec : Codec Value) (hook : HookOf Memory)
    (plugins : List (WasmPlugin Memory)) (given : Value) (processed : Processed Memory Value) :
    Prop where
  verdict : ∀ message, processed.result ≠ .error message
  /-- The value is what was given, or was read from bytes of a plugin that is on: bytes
  that it passed, or that it had left behind. -/
  value : processed.value = given ∨ ∃ plugin ∈ plugins, plugin.enabled = true ∧
    ∃ handed bytes, (bytes ∈ (plugin.callHook codec (hook plugin.guest) handed).results ∨
      bytes = plugin.store.resultBuffer) ∧ codec.fromSlice bytes = .ok processed.value
  /-- A plugin has its hook called, or it stays as it is. -/
  turns : List.Forall₂ (fun before after => after = before ∨ before.enabled = true ∧
    ∃ handed, after = (before.callHook codec (hook before.guest) handed).plugin)
      plugins processed.plugins
  /-- The plugin that ends the chain has the last word. -/
  ended : processed.result ≠ .continue →
    ∃ (index : Nat) (plugin : WasmPlugin Memory) (handed : Value),
    plugins[index]? = some plugin ∧ plugin.enabled = true ∧
      (plugin.callHook codec (hook plugin.guest) handed).result = processed.result ∧
      (plugin.callHook codec (hook plugin.guest) handed).value = processed.value ∧
      ∀ later, index < later → processed.plugins[later]? = plugins[later]?

theorem callHook_turn (codec : Codec Value) (hook : HookOf Memory) (plugin : WasmPlugin Memory)
    (rest : List (WasmPlugin Memory)) (value : Value) :
    let run := plugin.callHook codec (hook plugin.guest) value
    (run.value = value ∨ ∃ listed ∈ plugin :: rest, listed.enabled = true ∧
      ∃ handed bytes, (bytes ∈ (listed.callHook codec (hook listed.guest) handed).results ∨
        bytes = listed.store.resultBuffer) ∧ codec.fromSlice bytes = .ok run.value) ∧
    (run.plugin = plugin ∨ plugin.enabled = true ∧
      ∃ handed, run.plugin = (plugin.callHook codec (hook plugin.guest) handed).plugin) := by
  cases enabled : plugin.enabled with
  | false =>
      dsimp only
      rw [callHook_disabled codec _ value enabled]
      exact ⟨.inl rfl, .inl rfl⟩
  | true =>
      refine ⟨?_, .inr ⟨rfl, value, rfl⟩⟩
      rcases callHook_value codec (hook plugin.guest) plugin value with
        same | ⟨bytes, origin, parsed⟩
      · exact .inl same
      · exact .inr ⟨plugin, List.mem_cons_self, enabled, value, bytes, origin, parsed⟩

theorem enabled_of_result {codec : Codec Value} {plugin : WasmPlugin Memory} {value : Value}
    {function : Export (Int32 → Int32 → Memory → GuestRun Memory Int32)}
    (ends : (plugin.callHook codec function value).result ≠ .continue) :
    plugin.enabled = true := by
  by_contra off
  apply ends
  rw [callHook_disabled codec _ value (by simpa using off)]

theorem processes (codec : Codec Value) (hook : HookOf Memory)
    (plugins : List (WasmPlugin Memory)) (value : Value) :
    Processes codec hook plugins value (process codec hook plugins value) := by
  induction plugins generalizing value with
  | nil => exact ⟨by simp [process], .inl rfl, .nil, fun ends => absurd rfl ends⟩
  | cons plugin rest inductionHypothesis =>
      obtain ⟨origin, turned⟩ := callHook_turn codec hook plugin rest value
      have later := inductionHypothesis (plugin.callHook codec (hook plugin.guest) value).value
      have stop (result : PluginResult)
          (ends : (plugin.callHook codec (hook plugin.guest) value).result = result)
          (final : result = .handled ∨ result = .drop) :
          Processes codec hook (plugin :: rest) value
            ⟨result, (plugin.callHook codec (hook plugin.guest) value).value,
              (plugin.callHook codec (hook plugin.guest) value).plugin :: rest⟩ := by
        refine ⟨?_, origin, .cons turned (List.forall₂_same.mpr fun _ _ => .inl rfl), ?_⟩
        · rcases final with rfl | rfl <;> simp
        · intro ended
          refine ⟨0, plugin, value, rfl, ?_, ends, rfl, ?_⟩
          · exact enabled_of_result (ends ▸ ended)
          · intro index positive
            cases index with
            | zero => omega
            | succ index => rfl
      have goOn : Processes codec hook (plugin :: rest) value
          { process codec hook rest (plugin.callHook codec (hook plugin.guest) value).value with
            plugins := (plugin.callHook codec (hook plugin.guest) value).plugin ::
              (process codec hook rest
                (plugin.callHook codec (hook plugin.guest) value).value).plugins } := by
        refine ⟨later.verdict, ?_, .cons turned later.turns, ?_⟩
        · rcases later.value with same | ⟨other, listed, on, handed, bytes, passed, parsed⟩
          · dsimp only
            rw [same]
            exact origin
          · exact .inr ⟨other, List.mem_cons_of_mem _ listed, on, handed, bytes, passed, parsed⟩
        · intro ended
          obtain ⟨index, other, handed, found, on, result, left, untouched⟩ := later.ended ended
          refine ⟨index + 1, other, handed, found, on, result, left, ?_⟩
          intro place behind
          cases place with
          | zero => omega
          | succ place => exact untouched place (Nat.lt_of_succ_lt_succ behind)
      unfold process
      dsimp only
      cases ends : (plugin.callHook codec (hook plugin.guest) value).result with
      | «continue» | error message => exact goOn
      | handled => exact stop .handled ends (.inl rfl)
      | drop => exact stop .drop ends (.inr rfl)

/-- The plugin of a configuration, if it is enabled and can be loaded. -/
def loadable (files : Files Memory) (config : PluginConfig) : Option (WasmPlugin Memory) :=
  if config.enabled && files.exist config.path then (loadPlugin files config).toOption else none

def Action.loads (files : Files Memory) : Action Event → List (WasmPlugin Memory)
  | .loadPlugins configs => configs.filterMap (loadable files)
  | .processEvent _ | .processApiCall _ | .setPluginEnabled _ _ => []

theorem loadPlugins_eq (files : Files Memory) (configs : List PluginConfig)
    (plugins : List (WasmPlugin Memory)) :
    loadPlugins files configs plugins = plugins ++ configs.filterMap (loadable files) := by
  induction configs generalizing plugins with
  | nil => exact (List.append_nil plugins).symm
  | cons config rest inductionHypothesis =>
      unfold loadPlugins
      rw [List.filterMap_cons, loadable]
      cases config.enabled with
      | false => exact inductionHypothesis plugins
      | true =>
          cases files.exist config.path with
          | false => exact inductionHypothesis plugins
          | true =>
              cases loadPlugin files config with
              | error error => exact inductionHypothesis plugins
              | ok plugin =>
                  refine (inductionHypothesis (plugins ++ [plugin])).trans ?_
                  exact List.append_assoc plugins [plugin] _

theorem loadable_eq_some {files : Files Memory} {config : PluginConfig}
    {plugin : WasmPlugin Memory} (loaded : loadable files config = some plugin) :
    config.enabled = true ∧ loadPlugin files config = .ok plugin := by
  unfold loadable at loaded
  split at loaded
  next wanted =>
    refine ⟨(Bool.and_eq_true_iff.mp wanted).1, ?_⟩
    cases outcome : loadPlugin files config with
    | error error =>
        rw [outcome] at loaded
        cases loaded
    | ok other =>
        rw [outcome] at loaded
        cases loaded
        rfl
  next => cases loaded

theorem load_enabled {fromSlice : List UInt8 → Except String PluginInfo} {guest : Guest Memory}
    {config : PluginConfig} {memory : Memory} {plugin : WasmPlugin Memory}
    (loaded : WasmPlugin.load fromSlice guest config memory = .ok plugin) :
    plugin.enabled = config.enabled := by
  simp only [WasmPlugin.load] at loaded
  split at loaded
  next => cases loaded
  next =>
    split at loaded
    next => cases loaded
    next =>
      cases loaded
      rfl

theorem loadable_enabled {files : Files Memory} {config : PluginConfig}
    {plugin : WasmPlugin Memory} (loaded : loadable files config = some plugin) :
    plugin.enabled = true := by
  obtain ⟨enabled, loads⟩ := loadable_eq_some loaded
  unfold loadPlugin at loads
  cases instantiated : files.instantiate config with
  | error error =>
      rw [instantiated] at loads
      cases loads
  | ok module =>
      rw [instantiated] at loads
      exact (load_enabled loads).trans enabled

def identity (plugin : WasmPlugin Memory) : PluginInfo × String × Guest Memory :=
  (plugin.info, plugin.path, plugin.guest)

theorem map_eq_of_forall₂ {Item Part : Type} {relation : Item → Item → Prop} {part : Item → Part}
    (stays : ∀ {before after}, relation before after → part after = part before)
    {before after : List Item} (related : List.Forall₂ relation before after) :
    after.map part = before.map part := by
  induction related with
  | nil => rfl
  | cons first _ inductionHypothesis =>
      rw [List.map_cons, List.map_cons, inductionHypothesis, stays first]

theorem Processes.map_eq {codec : Codec Value} {hook : HookOf Memory}
    {plugins : List (WasmPlugin Memory)} {value : Value} {processed : Processed Memory Value}
    (processes : Processes codec hook plugins value processed) {Part : Type}
    (part : WasmPlugin Memory → Part)
    (stays : ∀ plugin store, part { plugin with store := store } = part plugin) :
    processed.plugins.map part = plugins.map part := by
  apply map_eq_of_forall₂ _ processes.turns
  rintro before after (rfl | ⟨-, handed, rfl⟩)
  · rfl
  · obtain ⟨store, changed⟩ := callHook_plugin codec (hook before.guest) before handed
    rw [changed, stays]

/-- Only the first plugin of the name is switched. -/
theorem getElem?_setPluginEnabled (name : String) (enabled : Bool)
    (plugins : List (WasmPlugin Memory)) (index : Nat) :
    (setPluginEnabled name enabled plugins).1[index]? =
      plugins[index]?.map fun plugin =>
        if plugin.info.name = name ∧ name ∉ (plugins.take index).map (·.info.name) then
          { plugin with enabled := enabled }
        else plugin := by
  induction plugins generalizing index with
  | nil => simp [setPluginEnabled]
  | cons plugin rest inductionHypothesis =>
      unfold setPluginEnabled
      split
      next named =>
        cases index with
        | zero => simp [named]
        | succ index => simp [named]
      next other =>
        cases index with
        | zero => simp [other]
        | succ index =>
            dsimp only
            rw [List.getElem?_cons_succ, inductionHypothesis, List.getElem?_cons_succ]
            simp [List.take_succ_cons, Ne.symm other]

theorem identity_setPluginEnabled (name : String) (enabled : Bool)
    (plugins : List (WasmPlugin Memory)) :
    (setPluginEnabled name enabled plugins).1.map identity = plugins.map identity := by
  induction plugins with
  | nil => rfl
  | cons plugin rest inductionHypothesis =>
      unfold setPluginEnabled
      split
      next => rfl
      next => exact congrArg (identity plugin :: ·) inductionHypothesis

section Runs

variable {files : Files Memory} {codecs : Codecs Event} {plugins : List (WasmPlugin Memory)}

theorem processEvent_processes (codec : Codec Event) (plugins : List (WasmPlugin Memory))
    (event : Event) :
    Processes codec Guest.onEvent plugins event
      ⟨(processEvent codec plugins event).result, (processEvent codec plugins event).event,
        (processEvent codec plugins event).plugins⟩ :=
  processEvent_eq codec plugins event ▸ processes codec Guest.onEvent plugins event

/-- A plugin is what invocations of its own have made of it since it was loaded. -/
def OwnSession (files : Files Memory) (codecs : Codecs Event) (plugin : WasmPlugin Memory) :
    Prop :=
  ∃ config loaded, loadable files config = some loaded ∧ ∃ invocations last,
    (PluginSession.machine codecs).run { plugin := loaded } invocations = some ⟨plugin, last⟩

theorem OwnSession.invoke {plugin changed : WasmPlugin Memory}
    (own : OwnSession files codecs plugin) (invocation : Invocation Event)
    (invoked : ∀ last, ∃ later,
      (PluginSession.machine codecs).step ⟨plugin, last⟩ invocation = some ⟨changed, later⟩) :
    OwnSession files codecs changed := by
  obtain ⟨config, loaded, found, invocations, last, reached⟩ := own
  obtain ⟨later, stepped⟩ := invoked last
  exact ⟨config, loaded, found, _, later,
    (PluginSession.machine codecs).run_concat reached stepped⟩

/-- The invariant of an engine: plugins in sessions of their own, and every one that has
an earlier namesake switched on. -/
structure Sound (files : Files Memory) (codecs : Codecs Event)
    (plugins : List (WasmPlugin Memory)) : Prop where
  sessions : ∀ plugin ∈ plugins, OwnSession files codecs plugin
  shadowed : ∀ (index : Nat) (plugin : WasmPlugin Memory), plugins[index]? = some plugin →
    plugin.info.name ∈ (plugins.take index).map (·.info.name) → plugin.enabled = true

theorem Sound.load (sound : Sound files codecs plugins) (configs : List PluginConfig) :
    Sound files codecs (loadPlugins files configs plugins) := by
  rw [loadPlugins_eq]
  constructor
  · intro plugin listed
    rcases List.mem_append.mp listed with old | new
    · exact sound.sessions plugin old
    · obtain ⟨config, -, loaded⟩ := List.mem_filterMap.mp new
      exact ⟨config, plugin, loaded, [], none, rfl⟩
  · intro index plugin found named
    rcases getElem?_append_cases found with old | ⟨-, new⟩
    · have inside := (List.getElem?_eq_some_iff.mp old).1
      rw [List.take_append_of_le_length (Nat.le_of_lt inside)] at named
      exact sound.shadowed index plugin old named
    · obtain ⟨config, -, loaded⟩ := List.mem_filterMap.mp (List.mem_of_getElem? new)
      exact loadable_enabled loaded

theorem Sound.process (sound : Sound files codecs plugins) {codec : Codec Value}
    {hook : HookOf Memory} {value : Value} {processed : Processed Memory Value}
    (processes : Processes codec hook plugins value processed)
    (session : ∀ plugin handed, OwnSession files codecs plugin →
      OwnSession files codecs (plugin.callHook codec (hook plugin.guest) handed).plugin) :
    Sound files codecs processed.plugins := by
  constructor
  · intro plugin listed
    obtain ⟨index, found⟩ := List.getElem?_of_mem listed
    obtain ⟨bound, same⟩ := List.getElem?_eq_some_iff.mp found
    have turn := processes.turns.get (processes.turns.length_eq ▸ bound) bound
    simp only [List.get_eq_getElem, same] at turn
    have before := sound.sessions _ (List.getElem_mem (processes.turns.length_eq ▸ bound))
    rcases turn with rfl | ⟨-, handed, rfl⟩
    · exact before
    · exact session _ handed before
  · intro index plugin found named
    have names := processes.map_eq (·.info.name) (fun _ _ => rfl)
    have switches := processes.map_eq (fun plugin => (plugin.info.name, plugin.enabled))
      (fun _ _ => rfl)
    have here := congrArg (·[index]?) switches
    simp only [List.getElem?_map, found, Option.map_some] at here
    obtain ⟨before, earlier, same⟩ := Option.map_eq_some_iff.mp here.symm
    obtain ⟨sameName, sameSwitch⟩ := Prod.mk.injEq .. ▸ same
    rw [List.map_take, names, ← List.map_take, ← sameName] at named
    rw [← sameSwitch]
    exact sound.shadowed index before earlier named

theorem Sound.switch (sound : Sound files codecs plugins) (name : String) (enabled : Bool) :
    Sound files codecs (setPluginEnabled name enabled plugins).1 := by
  constructor
  · intro plugin listed
    obtain ⟨index, found⟩ := List.getElem?_of_mem listed
    rw [getElem?_setPluginEnabled] at found
    obtain ⟨before, earlier, same⟩ := Option.map_eq_some_iff.mp found
    have own := sound.sessions before (List.mem_of_getElem? earlier)
    split at same
    next => exact same ▸ own.invoke (.setEnabled enabled) (fun last => ⟨last, rfl⟩)
    next => exact same ▸ own
  · intro index plugin found named
    have names : (setPluginEnabled name enabled plugins).1.map (·.info.name) =
        plugins.map (·.info.name) := by
      have kept := congrArg (List.map fun parts => parts.1.name)
        (identity_setPluginEnabled name enabled plugins)
      simpa [identity, Function.comp_def] using kept
    rw [List.map_take, names, ← List.map_take] at named
    rw [getElem?_setPluginEnabled] at found
    obtain ⟨before, earlier, same⟩ := Option.map_eq_some_iff.mp found
    split at same
    next first =>
      rw [← same] at named
      exact absurd (first.1 ▸ named) first.2
    next => exact same ▸ sound.shadowed index before earlier (same ▸ named)

theorem Sound.step (sound : Sound files codecs plugins) (action : Action Event) :
    Sound files codecs (step files codecs plugins action) := by
  cases action with
  | loadPlugins configs => exact sound.load configs
  | processEvent event =>
      apply sound.process (processEvent_processes codecs.event plugins event)
      intro plugin handed own
      exact own.invoke (.onEvent handed) (fun _ => ⟨_, rfl⟩)
  | processApiCall request =>
      apply sound.process (processes codecs.request Guest.onApiCall plugins request)
      intro plugin handed own
      exact own.invoke (.onApiCall handed) (fun _ => ⟨_, rfl⟩)
  | setPluginEnabled name enabled => exact sound.switch name enabled

end Runs

end Ferroq.Gateway.PluginEngine
