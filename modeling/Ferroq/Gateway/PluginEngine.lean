import Ferroq.Core.Api
import Ferroq.Library.Machine

/-!
# The plugin engine

A plugin runs in a guest whose exports may do anything with the guest's memory
and may pass bytes to `ferroq_set_result`.  The host keeps the bytes passed
last in a result buffer, which it takes after a hook has returned.  The buffer
outlives a call, so that it must be empty whenever a hook starts.
-/

namespace Ferroq.Gateway

open Ferroq.Core
open Ferroq.Library

variable {Memory Value Event : Type}

structure PluginInfo where
  name : String
  version : String
  description : String
  author : String
  deriving DecidableEq

structure PluginConfig where
  path : String
  enabled : Bool
  config : List UInt8

inductive PluginResult where
  | continue
  | handled
  | drop
  | error (message : String)
  deriving DecidableEq

def PluginResult.fromI32 (code : Int32) : PluginResult :=
  if code = 0 then .continue
  else if code = 1 then .handled
  else if code = 2 then .drop
  else .error s!"unknown result code: {code.toInt}"

/-- A run of a guest function: the memory it leaves, the results it passed to
`ferroq_set_result`, and its value or trap. -/
structure GuestRun (Memory Value : Type) where
  memory : Memory
  results : List (List UInt8)
  outcome : Except String Value

/-- An export that may be absent, or have another type. -/
abbrev Export (Function : Type) := Option (Except String Function)

/-- The functions a plugin exports, and how the host writes to its memory. -/
structure Guest (Memory : Type) where
  pluginInfo : Export (Memory → GuestRun Memory Int32)
  pluginInit : Export (Int32 → Int32 → Memory → GuestRun Memory Int32)
  onEvent : Export (Int32 → Int32 → Memory → GuestRun Memory Int32)
  onApiCall : Export (Int32 → Int32 → Memory → GuestRun Memory Int32)
  alloc : Export (Int32 → Memory → GuestRun Memory Int32)
  dealloc : Export (Int32 → Int32 → Memory → GuestRun Memory Unit)
  write : Option (Int32 → List UInt8 → Memory → Except String Memory)

structure PluginState (Memory : Type) where
  memory : Memory
  resultBuffer : List UInt8

/-- A step of the host: the store it leaves, the results passed meanwhile, and
its value or error. -/
structure HostRun (Memory Value : Type) where
  store : PluginState Memory
  results : List (List UInt8)
  outcome : Except String Value

/-- The bytes in the result buffer once some results have been passed. -/
def lastResult (results : List (List UInt8)) (buffer : List UInt8) : List UInt8 :=
  results.getLast?.getD buffer

def PluginState.after (store : PluginState Memory) (run : GuestRun Memory Value) :
    PluginState Memory :=
  { memory := run.memory, resultBuffer := lastResult run.results store.resultBuffer }

/-- How values are written as JSON and read back. -/
structure Codec (Value : Type) where
  toBytes : Value → Except String (List UInt8)
  fromSlice : List UInt8 → Except String Value

def lengthI32 (data : List UInt8) : Int32 := Int32.ofNat data.length

namespace Guest

def allocAndWrite (guest : Guest Memory) (data : List UInt8) (store : PluginState Memory) :
    HostRun Memory Int32 :=
  match guest.alloc with
  | none => ⟨store, [], .error "plugin missing alloc function"⟩
  | some (.error error) => ⟨store, [], .error s!"alloc type mismatch: {error}"⟩
  | some (.ok alloc) =>
      let run := alloc (lengthI32 data) store.memory
      let store := store.after run
      match run.outcome with
      | .error trap => ⟨store, run.results, .error s!"alloc failed: {trap}"⟩
      | .ok ptr =>
          match guest.write with
          | none => ⟨store, run.results, .ok ptr⟩
          | some write =>
              match write ptr data store.memory with
              | .error error => ⟨store, run.results, .error s!"memory write failed: {error}"⟩
              | .ok memory => ⟨{ store with memory := memory }, run.results, .ok ptr⟩

/-- Free memory in the plugin; a trap is ignored. -/
def free (guest : Guest Memory) (ptr length : Int32) (store : PluginState Memory) :
    HostRun Memory Unit :=
  match guest.dealloc with
  | some (.ok dealloc) =>
      let run := dealloc ptr length store.memory
      ⟨store.after run, run.results, .ok ()⟩
  | _ => ⟨store, [], .ok ()⟩

/-- The plugin's information, which it passes as a result. -/
def callPluginInfo (guest : Guest Memory) (fromSlice : List UInt8 → Except String PluginInfo)
    (path : String) (store : PluginState Memory) : HostRun Memory PluginInfo :=
  match guest.pluginInfo with
  | none =>
      ⟨store, [], .error s!"plugin '{path}' missing required export 'ferroq_plugin_info'"⟩
  | some (.error error) => ⟨store, [], .error s!"plugin_info type mismatch: {error}"⟩
  | some (.ok info) =>
      let run := info store.memory
      let store := store.after run
      match run.outcome with
      | .error trap => ⟨store, run.results, .error s!"plugin_info call failed: {trap}"⟩
      | .ok _ =>
          let result := store.resultBuffer
          let store := { store with resultBuffer := [] }
          if result.isEmpty then
            ⟨store, run.results, .error s!"plugin '{path}' returned empty info"⟩
          else
            match fromSlice result with
            | .error error =>
                ⟨store, run.results,
                  .error s!"plugin '{path}' returned invalid info JSON: {error}"⟩
            | .ok info => ⟨store, run.results, .ok info⟩

/-- The call of the plugin's init function, when it and `alloc` are exported. -/
def callPluginInit (guest : Guest Memory) (config : PluginConfig) (store : PluginState Memory) :
    HostRun Memory Unit :=
  match guest.pluginInit, guest.alloc with
  | some init, some _ =>
      let allocated := guest.allocAndWrite config.config store
      match allocated.outcome with
      | .error error => ⟨allocated.store, allocated.results, .error error⟩
      | .ok ptr =>
          match init with
          | .error error =>
              ⟨allocated.store, allocated.results, .error s!"init type mismatch: {error}"⟩
          | .ok init =>
              let run := init ptr (lengthI32 config.config) allocated.store.memory
              ⟨allocated.store.after run, allocated.results ++ run.results,
                match run.outcome with
                | .error trap => .error s!"init failed: {trap}"
                | .ok _ => .ok ()⟩
  | _, _ => ⟨store, [], .ok ()⟩

end Guest

structure WasmPlugin (Memory : Type) where
  info : PluginInfo
  path : String
  enabled : Bool
  store : PluginState Memory
  guest : Guest Memory

/-- What a hook gives back, with the results passed while it ran. -/
structure HookRun (Memory Value : Type) where
  result : PluginResult
  value : Value
  plugin : WasmPlugin Memory
  results : List (List UInt8)

namespace WasmPlugin

def load (fromSlice : List UInt8 → Except String PluginInfo) (guest : Guest Memory)
    (config : PluginConfig) (memory : Memory) : Except String (WasmPlugin Memory) :=
  let described := guest.callPluginInfo fromSlice config.path ⟨memory, []⟩
  match described.outcome with
  | .error error => .error error
  | .ok info =>
      let started := guest.callPluginInit config described.store
      match started.outcome with
      | .error error => .error error
      | .ok _ =>
          .ok
            { info := info
              path := config.path
              enabled := config.enabled
              store := started.store
              guest := guest }

def callHook (codec : Codec Value)
    (function : Export (Int32 → Int32 → Memory → GuestRun Memory Int32))
    (plugin : WasmPlugin Memory) (value : Value) : HookRun Memory Value :=
  if !plugin.enabled then ⟨.continue, value, plugin, []⟩
  else
    match function with
    | none => ⟨.continue, value, plugin, []⟩
    | some typed =>
        match codec.toBytes value with
        | .error error => ⟨.error error, value, plugin, []⟩
        | .ok bytes =>
            let allocated := plugin.guest.allocAndWrite bytes plugin.store
            match allocated.outcome, typed with
            | .error error, _ =>
                ⟨.error error, value, { plugin with store := allocated.store },
                  allocated.results⟩
            | .ok _, .error error =>
                ⟨.error error, value, { plugin with store := allocated.store },
                  allocated.results⟩
            | .ok ptr, .ok call =>
                let run := call ptr (lengthI32 bytes) allocated.store.memory
                let store := allocated.store.after run
                let results := allocated.results ++ run.results
                match run.outcome with
                | .error trap =>
                    ⟨.error trap, value, { plugin with store := store }, results⟩
                | .ok code =>
                    let resultBuffer := store.resultBuffer
                    let modified :=
                      if resultBuffer.isEmpty then value
                      else (codec.fromSlice resultBuffer).toOption.getD value
                    let freed := plugin.guest.free ptr (lengthI32 bytes)
                      { store with resultBuffer := [] }
                    ⟨.fromI32 code, modified, { plugin with store := freed.store },
                      results ++ freed.results⟩

def onEvent (codec : Codec Event) (plugin : WasmPlugin Memory) (event : Event) :
    HookRun Memory Event :=
  plugin.callHook codec plugin.guest.onEvent event

def onApiCall (codec : Codec ApiRequest) (plugin : WasmPlugin Memory) (request : ApiRequest) :
    HookRun Memory ApiRequest :=
  plugin.callHook codec plugin.guest.onApiCall request

end WasmPlugin

@[simp]
theorem lastResult_nil (buffer : List UInt8) : lastResult [] buffer = buffer := rfl

@[simp]
theorem lastResult_append (first second : List (List UInt8)) (buffer : List UInt8) :
    lastResult (first ++ second) buffer = lastResult second (lastResult first buffer) := by
  unfold lastResult
  rw [List.getLast?_append]
  cases second.getLast? <;> rfl

theorem mem_of_lastResult {results : List (List UInt8)} (held : lastResult results [] ≠ []) :
    lastResult results [] ∈ results := by
  unfold lastResult at held ⊢
  cases last : results.getLast? with
  | none => simp [last] at held
  | some bytes => exact List.mem_of_getLast? last

@[simp]
theorem PluginState.after_resultBuffer (store : PluginState Memory) (run : GuestRun Memory Value) :
    (store.after run).resultBuffer = lastResult run.results store.resultBuffer := rfl

@[simp]
theorem Guest.allocAndWrite_resultBuffer (guest : Guest Memory) (data : List UInt8)
    (store : PluginState Memory) :
    (guest.allocAndWrite data store).store.resultBuffer =
      lastResult (guest.allocAndWrite data store).results store.resultBuffer := by
  unfold allocAndWrite
  rcases guest.alloc with _ | _ | alloc
  · rfl
  · rfl
  · cases outcome : (alloc (lengthI32 data) store.memory).outcome with
    | error trap => simp [outcome]
    | ok ptr =>
        cases guest.write with
        | none => simp [outcome]
        | some write =>
            cases written : write ptr data
                (store.after (alloc (lengthI32 data) store.memory)).memory with
            | error error => simp [outcome, written]
            | ok memory => simp [outcome, written]

@[simp]
theorem Guest.free_resultBuffer (guest : Guest Memory) (ptr length : Int32)
    (store : PluginState Memory) :
    (guest.free ptr length store).store.resultBuffer =
      lastResult (guest.free ptr length store).results store.resultBuffer := by
  unfold free
  rcases guest.dealloc with _ | _ | dealloc <;> rfl

@[simp]
theorem Guest.callPluginInit_resultBuffer (guest : Guest Memory) (config : PluginConfig)
    (store : PluginState Memory) :
    (guest.callPluginInit config store).store.resultBuffer =
      lastResult (guest.callPluginInit config store).results store.resultBuffer := by
  unfold callPluginInit
  rcases guest.pluginInit with _ | init
  · rfl
  · rcases guest.alloc with _ | alloc
    · rfl
    · cases outcome : (guest.allocAndWrite config.config store).outcome with
      | error error => simp [outcome]
      | ok ptr => cases init <;> simp [outcome]

namespace WasmPlugin

/-- The last of some results is empty, or there is none. -/
def Silent (results : List (List UInt8)) : Prop := lastResult results [] = []

/-- Nothing passed to the host during a call of the hook is left over: its last
result before a trap or another failure is empty, and so is the last one passed
while memory is freed. -/
def CallSettles (guest : Guest Memory)
    (typed : Except String (Int32 → Int32 → Memory → GuestRun Memory Int32))
    (bytes : List UInt8) (store : PluginState Memory) : Prop :=
  let allocated := guest.allocAndWrite bytes store
  match allocated.outcome, typed with
  | .ok ptr, .ok call =>
      let run := call ptr (lengthI32 bytes) allocated.store.memory
      match run.outcome with
      | .error _ => Silent (allocated.results ++ run.results)
      | .ok _ =>
          Silent (guest.free ptr (lengthI32 bytes)
            { allocated.store.after run with resultBuffer := [] }).results
  | _, _ => Silent allocated.results

def HookSettles (codec : Codec Value)
    (function : Export (Int32 → Int32 → Memory → GuestRun Memory Int32))
    (plugin : WasmPlugin Memory) (value : Value) : Prop :=
  plugin.enabled = true → ∀ typed, function = some typed → ∀ bytes,
    codec.toBytes value = .ok bytes → CallSettles plugin.guest typed bytes plugin.store

/-- The value after a hook is the value before it, or was read from bytes that
the plugin passed during it. -/
def FromThisCall (codec : Codec Value) (value : Value) (run : HookRun Memory Value) : Prop :=
  run.value = value ∨ ∃ bytes ∈ run.results, codec.fromSlice bytes = .ok run.value

section Hooks

variable {codec : Codec Value} {plugin : WasmPlugin Memory} {value : Value}
  {function : Export (Int32 → Int32 → Memory → GuestRun Memory Int32)}

theorem fromSlice_lastResult (codec : Codec Value) (value : Value)
    (results : List (List UInt8)) :
    let buffer := lastResult results []
    let modified :=
      if buffer.isEmpty then value else (codec.fromSlice buffer).toOption.getD value
    modified = value ∨ ∃ bytes ∈ results, codec.fromSlice bytes = .ok modified := by
  by_cases blank : lastResult results [] = []
  · left
    simp [blank]
  · have passed := mem_of_lastResult blank
    cases parsed : codec.fromSlice (lastResult results []) with
    | error error =>
        left
        simp [parsed, Except.toOption]
    | ok modified =>
        right
        refine ⟨_, passed, ?_⟩
        simp [blank, parsed, Except.toOption]

/-- A hook that meets an empty buffer only replaces the value by one read from
bytes that the plugin passes during it. -/
theorem callHook_fromThisCall (empty : plugin.store.resultBuffer = []) :
    FromThisCall codec value (plugin.callHook codec function value) := by
  unfold callHook
  split
  next => exact .inl rfl
  next =>
    cases function with
    | none => exact .inl rfl
    | some typed =>
        cases codec.toBytes value with
        | error error => exact .inl rfl
        | ok bytes =>
            have buffer := plugin.guest.allocAndWrite_resultBuffer bytes plugin.store
            rw [empty] at buffer
            simp only []
            generalize plugin.guest.allocAndWrite bytes plugin.store = allocated at buffer ⊢
            rcases allocated with ⟨store, results, error | ptr⟩
            · exact .inl rfl
            · rcases typed with error | call
              · exact .inl rfl
              · simp only []
                generalize call ptr (lengthI32 bytes) store.memory = run
                rcases run with ⟨memory, passed, trap | code⟩
                · exact .inl rfl
                · change store.resultBuffer = lastResult results [] at buffer
                  have read := fromSlice_lastResult codec value (results ++ passed)
                  simp only [FromThisCall, PluginState.after_resultBuffer, buffer,
                    ← lastResult_append]
                  rcases read with same | ⟨bytes, membership, parsed⟩
                  · exact .inl same
                  · exact .inr ⟨bytes, List.mem_append_left _ membership, parsed⟩

theorem callHook_resultBuffer_iff (empty : plugin.store.resultBuffer = []) :
    (plugin.callHook codec function value).plugin.store.resultBuffer = [] ↔
      HookSettles codec function plugin value := by
  unfold callHook HookSettles
  by_cases enabled : plugin.enabled = true
  · cases function with
    | none => simp [enabled, empty]
    | some typed =>
        cases written : codec.toBytes value with
        | error error => simp [enabled, empty]
        | ok bytes =>
            have buffer := plugin.guest.allocAndWrite_resultBuffer bytes plugin.store
            rw [empty] at buffer
            simp only [enabled, CallSettles, forall_const, Option.some.injEq, Except.ok.injEq,
              forall_eq']
            generalize plugin.guest.allocAndWrite bytes plugin.store = allocated at buffer ⊢
            rcases allocated with ⟨store, results, error | ptr⟩
            · exact Iff.of_eq (congrArg (· = []) buffer)
            · rcases typed with error | call
              · exact Iff.of_eq (congrArg (· = []) buffer)
              · simp only []
                generalize call ptr (lengthI32 bytes) store.memory = run
                change store.resultBuffer = lastResult results [] at buffer
                rcases run with ⟨memory, passed, trap | code⟩
                · simp [Silent, buffer]
                · simp [Silent]
  · simp [enabled, empty]

end Hooks

end WasmPlugin

inductive Report (Memory Event : Type) where
  | event (event : Event) (run : HookRun Memory Event)
  | apiCall (request : ApiRequest) (run : HookRun Memory ApiRequest)

structure PluginSession (Memory Event : Type) where
  plugin : WasmPlugin Memory
  last : Option (Report Memory Event) := none

inductive Invocation (Event : Type) where
  | onEvent (event : Event)
  | onApiCall (request : ApiRequest)
  | setEnabled (enabled : Bool)

structure Codecs (Event : Type) where
  event : Codec Event
  request : Codec ApiRequest

namespace PluginSession

variable (codecs : Codecs Event)

def step (session : PluginSession Memory Event) :
    Invocation Event → Option (PluginSession Memory Event)
  | .onEvent event =>
      let run := session.plugin.onEvent codecs.event event
      some { plugin := run.plugin, last := some (.event event run) }
  | .onApiCall request =>
      let run := session.plugin.onApiCall codecs.request request
      some { plugin := run.plugin, last := some (.apiCall request run) }
  | .setEnabled enabled =>
      some { session with plugin := { session.plugin with enabled := enabled } }

def machine : Machine (PluginSession Memory Event) (Invocation Event) := ⟨step codecs⟩

/-- The latest hook kept its value, or read it from bytes passed during it. -/
def LastFromThisCall (session : PluginSession Memory Event) : Prop :=
  match session.last with
  | none => True
  | some (.event event run) => WasmPlugin.FromThisCall codecs.event event run
  | some (.apiCall request run) => WasmPlugin.FromThisCall codecs.request request run

/-- An invocation leaves nothing in the result buffer. -/
def Settles (session : PluginSession Memory Event) : Invocation Event → Prop
  | .onEvent event =>
      WasmPlugin.HookSettles codecs.event session.plugin.guest.onEvent session.plugin event
  | .onApiCall request =>
      WasmPlugin.HookSettles codecs.request session.plugin.guest.onApiCall session.plugin request
  | .setEnabled _ => True

structure Settled (session : PluginSession Memory Event) : Prop where
  empty : session.plugin.store.resultBuffer = []
  last : LastFromThisCall codecs session

variable {codecs} {session next : PluginSession Memory Event}

theorem Settled.step {invocation : Invocation Event} (settled : Settled codecs session)
    (settles : Settles codecs session invocation)
    (stepped : session.step codecs invocation = some next) : Settled codecs next := by
  cases invocation with
  | onEvent event =>
      cases stepped
      exact ⟨(WasmPlugin.callHook_resultBuffer_iff settled.empty).mpr settles,
        WasmPlugin.callHook_fromThisCall settled.empty⟩
  | onApiCall request =>
      cases stepped
      exact ⟨(WasmPlugin.callHook_resultBuffer_iff settled.empty).mpr settles,
        WasmPlugin.callHook_fromThisCall settled.empty⟩
  | setEnabled enabled =>
      cases stepped
      exact ⟨settled.empty, settled.last⟩

theorem callPluginInfo_resultBuffer {guest : Guest Memory} {path : String}
    {fromSlice : List UInt8 → Except String PluginInfo} {store : PluginState Memory}
    {info : PluginInfo}
    (described : (guest.callPluginInfo fromSlice path store).outcome = .ok info) :
    (guest.callPluginInfo fromSlice path store).store.resultBuffer = [] := by
  unfold Guest.callPluginInfo at described ⊢
  generalize guest.pluginInfo = exported at described ⊢
  rcases exported with _ | _ | call
  · cases described
  · cases described
  · simp only [] at described ⊢
    generalize call store.memory = run at described ⊢
    rcases run with ⟨memory, results, trap | code⟩
    · cases described
    · simp only [] at described ⊢
      split at described
      next => cases described
      next blank =>
        rw [if_neg blank]
        cases fromSlice (store.after ⟨memory, results, .ok code⟩).resultBuffer <;> rfl

/-- The plugin's init function passes nothing that is left over. -/
def InitSettles (fromSlice : List UInt8 → Except String PluginInfo) (guest : Guest Memory)
    (config : PluginConfig) (memory : Memory) : Prop :=
  WasmPlugin.Silent (guest.callPluginInit config
    (guest.callPluginInfo fromSlice config.path ⟨memory, []⟩).store).results

theorem load_resultBuffer {fromSlice : List UInt8 → Except String PluginInfo}
    {guest : Guest Memory} {config : PluginConfig} {memory : Memory}
    {plugin : WasmPlugin Memory}
    (loaded : WasmPlugin.load fromSlice guest config memory = .ok plugin) :
    plugin.store.resultBuffer = [] ↔ InitSettles fromSlice guest config memory := by
  simp only [WasmPlugin.load] at loaded
  split at loaded
  next => cases loaded
  next info described =>
    split at loaded
    next => cases loaded
    next =>
      cases loaded
      simp only [InitSettles, WasmPlugin.Silent, Guest.callPluginInit_resultBuffer,
        callPluginInfo_resultBuffer described]

/-- After a load and along invocations that leave nothing behind, every hook
keeps its value or reads it from bytes passed during the same invocation. -/
theorem fromThisCall_throughout {fromSlice : List UInt8 → Except String PluginInfo}
    {guest : Guest Memory} {config : PluginConfig} {memory : Memory}
    {plugin : WasmPlugin Memory} {invocations : List (Invocation Event)}
    (loaded : WasmPlugin.load fromSlice guest config memory = .ok plugin)
    (initSettles : InitSettles fromSlice guest config memory)
    (admitted : (machine codecs).Admits (Settles codecs) { plugin := plugin } invocations) :
    (machine codecs).Throughout (LastFromThisCall codecs) { plugin := plugin } invocations := by
  have start : Settled codecs { plugin := plugin } :=
    ⟨(load_resultBuffer loaded).mpr initSettles, trivial⟩
  apply (machine codecs).throughout_of_admits _ _ start admitted
  · intro session invocation next settled settles stepped
    exact settled.step settles stepped
  · intro session settled
    exact settled.last

end PluginSession

section Leftover

/-- A plugin whose event hook passes a result and traps when it first runs.
Events are numbers below 256, written as one byte. -/
def trappingGuest : Guest Nat :=
  { pluginInfo := some (.ok fun calls => ⟨calls, [[0]], .ok 0⟩)
    pluginInit := none
    onEvent := some (.ok fun _ _ calls =>
      if calls = 0 then ⟨1, [[7]], .error "unreachable"⟩ else ⟨calls + 1, [], .ok 0⟩)
    onApiCall := none
    alloc := some (.ok fun _ calls => ⟨calls, [], .ok 0⟩)
    dealloc := none
    write := none }

def pluginConfig : PluginConfig := { path := "plugin.wasm", enabled := true, config := [] }

def infoFromSlice (_ : List UInt8) : Except String PluginInfo :=
  .ok { name := "plugin", version := "0.1.0", description := "", author := "" }

def byteCodecs : Codecs Nat :=
  { event :=
      { toBytes := fun event => .ok [UInt8.ofNat event]
        fromSlice := fun bytes => .ok (bytes.headD 0).toNat }
    request := { toBytes := fun _ => .error "unused", fromSlice := fun _ => .error "unused" } }

def replacingGuest : Guest Nat :=
  { trappingGuest with
    onEvent := some (.ok fun _ _ calls => ⟨calls + 1, [[UInt8.ofNat calls]], .ok 0⟩) }

theorem fromThisCall_throughout_replacing :
    ∃ plugin final run,
      WasmPlugin.load infoFromSlice replacingGuest pluginConfig 0 = .ok plugin ∧
      (PluginSession.machine byteCodecs).run { plugin := plugin }
        [.onEvent 8, .setEnabled false, .onEvent 9, .setEnabled true, .onEvent 9] = some final ∧
      final.last = some (.event 9 run) ∧ run.value = 1 ∧
      (PluginSession.machine byteCodecs).Throughout (PluginSession.LastFromThisCall byteCodecs)
        { plugin := plugin }
        [.onEvent 8, .setEnabled false, .onEvent 9, .setEnabled true, .onEvent 9] := by
  have quiet : PluginSession.InitSettles infoFromSlice replacingGuest pluginConfig 0 := rfl
  have loaded : WasmPlugin.load infoFromSlice replacingGuest pluginConfig 0 = .ok _ := rfl
  refine ⟨_, _, _, loaded, rfl, rfl, rfl, PluginSession.fromThisCall_throughout loaded quiet ?_⟩
  rintro _ ⟨⟩
  refine ⟨?_, ?_⟩
  · rintro - typed ⟨⟩ bytes ⟨⟩
    trivial
  rintro _ ⟨⟩
  refine ⟨trivial, ?_⟩
  rintro _ ⟨⟩
  refine ⟨nofun, ?_⟩
  rintro _ ⟨⟩
  refine ⟨trivial, ?_⟩
  rintro _ ⟨⟩
  refine ⟨?_, trivial⟩
  rintro - typed ⟨⟩ bytes ⟨⟩
  trivial

/-- What the hook passed before its trap replaces the next event. -/
theorem trappedResult_replacesNextEvent :
    ∃ plugin session,
      WasmPlugin.load infoFromSlice trappingGuest pluginConfig 0 = .ok plugin ∧
      (PluginSession.machine byteCodecs).run { plugin := plugin } [.onEvent 1, .onEvent 2] =
        some session ∧
      ¬ PluginSession.LastFromThisCall byteCodecs session := by
  refine ⟨_, _, rfl, rfl, ?_⟩
  change ¬ (7 = 2 ∨ ∃ bytes ∈ ([] : List (List UInt8)), _)
  simp

end Leftover

end Ferroq.Gateway
