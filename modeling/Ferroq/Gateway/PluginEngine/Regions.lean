import Ferroq.Gateway.PluginEngine

/-!
# Regions of the plugin's memory

The host has the plugin allocate a region for what it passes to a hook, and
frees the region after the hook.  A plugin whose exports keep a record of the
host's calls behaves as before, so that the record of an invocation can be read
from the memory it leaves.
-/

namespace Ferroq.Gateway

open Ferroq.Core

variable {Memory Value Event : Type}

/-- A call by which the host obtains a region, or gives one back. -/
inductive HostCall where
  | alloc (ptr length : Int32)
  | dealloc (ptr length : Int32)
  deriving DecidableEq

/-- Every region is given back as often as it was obtained. -/
def Released (calls : List HostCall) : Prop :=
  ∀ ptr length, calls.count (.alloc ptr length) = calls.count (.dealloc ptr length)

abbrev Recorded (Memory : Type) := Memory × List HostCall

def GuestRun.withCalls (run : GuestRun Memory Value) (calls : List HostCall) :
    GuestRun (Recorded Memory) Value :=
  ⟨(run.memory, calls), run.results, run.outcome⟩

def recordAlloc (alloc : Int32 → Memory → GuestRun Memory Int32) (length : Int32)
    (recorded : Recorded Memory) : GuestRun (Recorded Memory) Int32 :=
  let run := alloc length recorded.1
  run.withCalls <|
    match run.outcome with
    | .ok ptr => recorded.2 ++ [.alloc ptr length]
    | .error _ => recorded.2

def recordDealloc (dealloc : Int32 → Int32 → Memory → GuestRun Memory Unit)
    (ptr length : Int32) (recorded : Recorded Memory) : GuestRun (Recorded Memory) Unit :=
  (dealloc ptr length recorded.1).withCalls (recorded.2 ++ [.dealloc ptr length])

/-- What the plugin does by itself is not recorded. -/
def recordHook (call : Int32 → Int32 → Memory → GuestRun Memory Int32) (ptr length : Int32)
    (recorded : Recorded Memory) : GuestRun (Recorded Memory) Int32 :=
  (call ptr length recorded.1).withCalls recorded.2

def Export.map {Function Other : Type} (change : Function → Other) (function : Export Function) :
    Export Other :=
  Option.map (Except.map change) function

/-- The plugin with a record of the host's calls. -/
def Guest.recording (guest : Guest Memory) : Guest (Recorded Memory) where
  pluginInfo := Export.map (fun info recorded => (info recorded.1).withCalls recorded.2)
    guest.pluginInfo
  pluginInit := Export.map recordHook guest.pluginInit
  onEvent := Export.map recordHook guest.onEvent
  onApiCall := Export.map recordHook guest.onApiCall
  alloc := Export.map recordAlloc guest.alloc
  dealloc := Export.map recordDealloc guest.dealloc
  write := guest.write.map fun write ptr data recorded =>
    (write ptr data recorded.1).map fun memory => (memory, recorded.2)

def PluginState.recording (store : PluginState Memory) (calls : List HostCall) :
    PluginState (Recorded Memory) :=
  ⟨(store.memory, calls), store.resultBuffer⟩

def WasmPlugin.recording (plugin : WasmPlugin Memory) (calls : List HostCall) :
    WasmPlugin (Recorded Memory) where
  info := plugin.info
  path := plugin.path
  enabled := plugin.enabled
  store := plugin.store.recording calls
  guest := plugin.guest.recording

/-- A run of the recording plugin that a run of the plugin itself corresponds to. -/
def HostRun.recording (run : HostRun Memory Value) (calls : List HostCall) :
    HostRun (Recorded Memory) Value :=
  ⟨run.store.recording calls, run.results, run.outcome⟩

def HookRun.recording (run : HookRun Memory Value) (calls : List HostCall) :
    HookRun (Recorded Memory) Value :=
  ⟨run.result, run.value, run.plugin.recording calls, run.results⟩

def Guest.obtained (guest : Guest Memory) (data : List UInt8) (memory : Memory) :
    Option Int32 :=
  match guest.alloc with
  | some (.ok alloc) => (alloc (lengthI32 data) memory).outcome.toOption
  | _ => none

def allocCalls (obtained : Option Int32) (length : Int32) : List HostCall :=
  (obtained.map fun ptr => .alloc ptr length).toList

theorem Guest.allocAndWrite_recording (guest : Guest Memory) (data : List UInt8)
    (store : PluginState Memory) (calls : List HostCall) :
    guest.recording.allocAndWrite data (store.recording calls) =
      (guest.allocAndWrite data store).recording
        (calls ++ allocCalls (guest.obtained data store.memory) (lengthI32 data)) := by
  rcases guest with ⟨_, _, _, _, alloc, _, write⟩
  rcases alloc with _ | error | alloc
  · simp [allocAndWrite, recording, Export.map, obtained, allocCalls, HostRun.recording]
  · simp [allocAndWrite, recording, Export.map, Except.map, obtained, allocCalls,
      HostRun.recording]
  · simp only [allocAndWrite, recording, Export.map, Except.map, obtained, allocCalls,
      Option.map_some, recordAlloc, PluginState.recording, GuestRun.withCalls]
    generalize alloc (lengthI32 data) store.memory = run
    rcases run with ⟨memory, results, trap | ptr⟩
    · simp [HostRun.recording, PluginState.recording, PluginState.after, Except.toOption]
    · rcases write with _ | write
      · rfl
      · simp only [Option.map_some, PluginState.after]
        cases write ptr data memory <;> rfl

def Guest.freeCalls (guest : Guest Memory) (ptr length : Int32) : List HostCall :=
  match guest.dealloc with
  | some (.ok _) => [.dealloc ptr length]
  | _ => []

theorem Guest.free_recording (guest : Guest Memory) (ptr length : Int32)
    (store : PluginState Memory) (calls : List HostCall) :
    guest.recording.free ptr length (store.recording calls) =
      (guest.free ptr length store).recording (calls ++ guest.freeCalls ptr length) := by
  rcases guest with ⟨_, _, _, _, _, dealloc, _⟩
  rcases dealloc with _ | error | dealloc
  · simp [free, freeCalls, recording, Export.map, HostRun.recording]
  · simp [free, freeCalls, recording, Export.map, Except.map, HostRun.recording]
  · rfl

/-- A region is given back only after the hook has returned. -/
def Guest.returnCalls (guest : Guest Memory)
    (typed : Except String (Int32 → Int32 → Memory → GuestRun Memory Int32))
    (bytes : List UInt8) (store : PluginState Memory) : List HostCall :=
  let allocated := guest.allocAndWrite bytes store
  match allocated.outcome, typed with
  | .ok ptr, .ok call =>
      match (call ptr (lengthI32 bytes) allocated.store.memory).outcome with
      | .ok _ => guest.freeCalls ptr (lengthI32 bytes)
      | .error _ => []
  | _, _ => []

/-- The host's calls during a hook. -/
def WasmPlugin.hookCalls (codec : Codec Value)
    (function : Export (Int32 → Int32 → Memory → GuestRun Memory Int32))
    (plugin : WasmPlugin Memory) (value : Value) : List HostCall :=
  if !plugin.enabled then []
  else
    match function, codec.toBytes value with
    | some typed, .ok bytes =>
        allocCalls (plugin.guest.obtained bytes plugin.store.memory) (lengthI32 bytes) ++
          plugin.guest.returnCalls typed bytes plugin.store
    | _, _ => []

/-- Recording changes nothing but the record. -/
theorem WasmPlugin.callHook_recording (codec : Codec Value)
    (function : Export (Int32 → Int32 → Memory → GuestRun Memory Int32))
    (plugin : WasmPlugin Memory) (value : Value) (calls : List HostCall) :
    (plugin.recording calls).callHook codec (function.map recordHook) value =
      (plugin.callHook codec function value).recording
        (calls ++ plugin.hookCalls codec function value) := by
  unfold callHook hookCalls
  cases enabled : plugin.enabled with
  | false => simp [recording, enabled, HookRun.recording]
  | true =>
      rcases function with _ | typed
      · simp [recording, enabled, HookRun.recording, Export.map]
      · cases codec.toBytes value with
        | error error => simp [recording, enabled, HookRun.recording, Export.map]
        | ok bytes =>
            have allocated := plugin.guest.allocAndWrite_recording bytes plugin.store calls
            simp only [recording, enabled, Export.map, Option.map_some, allocated,
              Guest.returnCalls, Bool.not_true, Bool.false_eq_true, if_false, ← List.append_assoc]
            generalize calls ++ allocCalls _ _ = obtained
            generalize plugin.guest.allocAndWrite bytes plugin.store = run
            rcases run with ⟨store, results, error | ptr⟩
            · simp [HostRun.recording, HookRun.recording, recording]
            · rcases typed with error | call
              · simp [HostRun.recording, HookRun.recording, recording, Except.map]
              · simp only [HostRun.recording, Except.map, recordHook, PluginState.recording,
                  GuestRun.withCalls]
                cases outcome : (call ptr (lengthI32 bytes) store.memory).outcome with
                | error trap =>
                    simp [HookRun.recording, recording, PluginState.recording, PluginState.after]
                | ok code =>
                    have freed := plugin.guest.free_recording ptr (lengthI32 bytes)
                      ⟨(call ptr (lengthI32 bytes) store.memory).memory, []⟩ obtained
                    simp only [PluginState.recording] at freed
                    simp only [PluginState.after, freed]
                    rfl

theorem released_nil : Released [] := fun _ _ => rfl

theorem released_pair (ptr length : Int32) :
    Released [.alloc ptr length, .dealloc ptr length] := by
  intro other size
  simp only [List.count_cons, List.count_nil]
  by_cases same : ptr = other ∧ length = size
  · obtain ⟨rfl, rfl⟩ := same
    simp
  · simp [same]

theorem not_released_single (ptr length : Int32) : ¬ Released [.alloc ptr length] := by
  intro released
  have once := released ptr length
  simp at once

def Guest.written (guest : Guest Memory) (ptr : Int32) (data : List UInt8) (memory : Memory) :
    Except String Memory :=
  match guest.write with
  | none => .ok memory
  | some write => write ptr data memory

/-- If the host obtains a region for a hook, the data can be written to it, the
hook has its type and returns, and so has the function that frees memory. -/
def WasmPlugin.HookReleases (codec : Codec Value)
    (function : Export (Int32 → Int32 → Memory → GuestRun Memory Int32))
    (plugin : WasmPlugin Memory) (value : Value) : Prop :=
  plugin.enabled = true → ∀ typed, function = some typed → ∀ bytes,
    codec.toBytes value = .ok bytes → ∀ alloc ptr, plugin.guest.alloc = some (.ok alloc) →
    (alloc (lengthI32 bytes) plugin.store.memory).outcome = .ok ptr →
      (∃ dealloc, plugin.guest.dealloc = some (.ok dealloc)) ∧
      ∃ call memory code, typed = .ok call ∧
        plugin.guest.written ptr bytes (alloc (lengthI32 bytes) plugin.store.memory).memory =
          .ok memory ∧
        (call ptr (lengthI32 bytes) memory).outcome = .ok code

theorem Guest.allocAndWrite_of_obtained {guest : Guest Memory} {data : List UInt8}
    {store : PluginState Memory} {alloc : Int32 → Memory → GuestRun Memory Int32} {ptr : Int32}
    (exported : guest.alloc = some (.ok alloc))
    (obtained : (alloc (lengthI32 data) store.memory).outcome = .ok ptr) :
    (∃ memory, guest.written ptr data (alloc (lengthI32 data) store.memory).memory = .ok memory ∧
      (guest.allocAndWrite data store).outcome = .ok ptr ∧
      (guest.allocAndWrite data store).store.memory = memory) ∨
    ∃ error reported,
      guest.written ptr data (alloc (lengthI32 data) store.memory).memory = .error error ∧
      (guest.allocAndWrite data store).outcome = .error reported := by
  unfold allocAndWrite written
  simp only [exported, obtained]
  cases guest.write with
  | none => exact .inl ⟨_, rfl, rfl, rfl⟩
  | some write =>
      simp only [PluginState.after]
      cases write ptr data (alloc (lengthI32 data) store.memory).memory with
      | ok memory => exact .inl ⟨memory, rfl, rfl, rfl⟩
      | error error => exact .inr ⟨error, _, rfl, rfl⟩

theorem Guest.returnCalls_of_not_obtained {guest : Guest Memory} {data : List UInt8}
    {store : PluginState Memory} (unobtained : guest.obtained data store.memory = none)
    (typed : Except String (Int32 → Int32 → Memory → GuestRun Memory Int32)) :
    guest.returnCalls typed data store = [] := by
  unfold returnCalls allocAndWrite
  unfold obtained at unobtained
  rcases exported : guest.alloc with _ | error | alloc
  · rfl
  · rfl
  · simp only [exported] at unobtained
    cases outcome : (alloc (lengthI32 data) store.memory).outcome with
    | error trap => simp only [outcome]
    | ok ptr => simp [outcome, Except.toOption] at unobtained

theorem Guest.released_of_obtained {guest : Guest Memory} {data : List UInt8}
    {store : PluginState Memory} {alloc : Int32 → Memory → GuestRun Memory Int32} {ptr : Int32}
    (exported : guest.alloc = some (.ok alloc))
    (obtained : (alloc (lengthI32 data) store.memory).outcome = .ok ptr)
    (typed : Except String (Int32 → Int32 → Memory → GuestRun Memory Int32)) :
    Released (.alloc ptr (lengthI32 data) :: guest.returnCalls typed data store) ↔
      (∃ dealloc, guest.dealloc = some (.ok dealloc)) ∧
      ∃ call memory code, typed = .ok call ∧
        guest.written ptr data (alloc (lengthI32 data) store.memory).memory = .ok memory ∧
        (call ptr (lengthI32 data) memory).outcome = .ok code := by
  unfold returnCalls
  rcases allocAndWrite_of_obtained exported obtained with
    ⟨memory, written, outcome, left⟩ | ⟨error, reported, written, outcome⟩
  · rcases typed with error | call
    · simp [outcome, not_released_single]
    · cases returned : (call ptr (lengthI32 data) memory).outcome with
      | error trap =>
          simp only [outcome, left, returned, written]
          refine iff_of_false (not_released_single ptr (lengthI32 data)) ?_
          rintro ⟨_, _, _, code, ⟨⟩, ⟨⟩, same⟩
          rw [returned] at same
          cases same
      | ok code =>
          simp only [outcome, left, returned, written]
          rcases freed : guest.dealloc with _ | error | dealloc
          · simp [freeCalls, freed, not_released_single]
          · simp [freeCalls, freed, not_released_single]
          · simp only [freeCalls, freed]
            refine iff_of_true (released_pair ptr (lengthI32 data)) ?_
            exact ⟨⟨dealloc, rfl⟩, call, memory, code, rfl, rfl, returned⟩
  · simp [outcome, written, not_released_single]

theorem WasmPlugin.released_hookCalls_iff (codec : Codec Value)
    (function : Export (Int32 → Int32 → Memory → GuestRun Memory Int32))
    (plugin : WasmPlugin Memory) (value : Value) :
    Released (plugin.hookCalls codec function value) ↔
      plugin.HookReleases codec function value := by
  unfold hookCalls HookReleases
  cases plugin.enabled with
  | false => simp [released_nil]
  | true =>
      rcases function with _ | typed
      · simp [released_nil]
      · cases codec.toBytes value with
        | error error => simp [released_nil]
        | ok bytes =>
            simp only [Bool.not_true, Bool.false_eq_true, if_false, forall_const,
              Option.some.injEq, Except.ok.injEq, forall_eq']
            cases region : plugin.guest.obtained bytes plugin.store.memory with
            | none =>
                rw [Guest.returnCalls_of_not_obtained region]
                refine iff_of_true released_nil ?_
                intro alloc ptr exported outcome
                simp [Guest.obtained, exported, outcome, Except.toOption] at region
            | some ptr =>
                obtain ⟨alloc, exported, outcome⟩ : ∃ alloc,
                    plugin.guest.alloc = some (.ok alloc) ∧
                      (alloc (lengthI32 bytes) plugin.store.memory).outcome = .ok ptr := by
                  unfold Guest.obtained at region
                  split at region
                  next alloc exported =>
                    refine ⟨alloc, exported, ?_⟩
                    cases outcome : (alloc (lengthI32 bytes) plugin.store.memory).outcome with
                    | error trap =>
                        rw [outcome] at region
                        cases region
                    | ok other =>
                        rw [outcome] at region
                        cases region
                        rfl
                  next => cases region
                have released := Guest.released_of_obtained exported outcome typed
                constructor
                · intro balanced other region same returned
                  rw [exported] at same
                  cases same
                  rw [outcome] at returned
                  cases returned
                  exact released.mp balanced
                · intro can
                  exact released.mpr (can alloc ptr exported outcome)

/-- Over every plugin, event and request. -/
theorem regionsReleased_iff (codecs : Codecs Event) (plugin : WasmPlugin Memory) :
    (∀ event, Released ((plugin.recording []).onEvent codecs.event event).plugin.store.memory.2 ↔
      plugin.HookReleases codecs.event plugin.guest.onEvent event) ∧
    ∀ request,
      Released ((plugin.recording []).onApiCall codecs.request request).plugin.store.memory.2 ↔
        plugin.HookReleases codecs.request plugin.guest.onApiCall request := by
  constructor
  · intro event
    rw [← WasmPlugin.released_hookCalls_iff]
    have run := plugin.callHook_recording codecs.event plugin.guest.onEvent event []
    change Released ((plugin.recording []).callHook codecs.event
      (plugin.guest.onEvent.map recordHook) event).plugin.store.memory.2 ↔ _
    rw [run]
    rfl
  · intro request
    rw [← WasmPlugin.released_hookCalls_iff]
    have run := plugin.callHook_recording codecs.request plugin.guest.onApiCall request []
    change Released ((plugin.recording []).callHook codecs.request
      (plugin.guest.onApiCall.map recordHook) request).plugin.store.memory.2 ↔ _
    rw [run]
    rfl

section Trap

/-- A plugin whose regions begin at 16 and that can free them, with a trap in
its event hook. -/
def tidyGuest : Guest Nat :=
  { trappingGuest with
    alloc := some (.ok fun _ calls => ⟨calls, [], .ok 16⟩)
    dealloc := some (.ok fun _ _ calls => ⟨calls, [], .ok ()⟩) }

theorem trappedHook_keepsRegion :
    ∃ plugin, WasmPlugin.load infoFromSlice tidyGuest pluginConfig 0 = .ok plugin ∧
      ((plugin.recording []).onEvent byteCodecs.event 3).plugin.store.memory.2 =
        [.alloc 16 1] ∧
      ¬ Released ((plugin.recording []).onEvent byteCodecs.event 3).plugin.store.memory.2 := by
  refine ⟨_, rfl, rfl, ?_⟩
  exact not_released_single 16 1

end Trap

end Ferroq.Gateway
