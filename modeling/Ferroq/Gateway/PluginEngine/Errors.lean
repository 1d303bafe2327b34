import Ferroq.Gateway.PluginEngine.Chain

/-!
# Plugins that end in an error

The documented chain goes on after an error as if the plugin had returned
`Continue` without a result.  A hook replaces the event before it looks at the
plugin's return code, so a plugin that returns an error code may have replaced
the event all the same.
-/

namespace Ferroq.Gateway.PluginEngine

variable {Memory Event : Type}

def isError : PluginResult → Bool
  | .error _ => true
  | _ => false

structure Visit (Memory Event : Type) where
  event : Event
  run : HookRun Memory Event

def Visit.failed (visit : Visit Memory Event) : Bool := isError visit.run.result

/-- The turns of a chain, up to the plugin that ends it. -/
def visits (codec : Codec Event) : List (WasmPlugin Memory) → Event → List (Visit Memory Event)
  | [], _ => []
  | plugin :: rest, event =>
      let run := plugin.onEvent codec event
      ⟨event, run⟩ ::
        match run.result with
        | .continue | .error _ => visits codec rest run.value
        | .handled | .drop => []

/-- The event left by the last of some turns that ended without an error. -/
def leftBy (event : Event) (turns : List (Visit Memory Event)) : Event :=
  turns.foldl (fun kept visit => if visit.failed then kept else visit.run.value) event

/-- Every plugin is given the event left by the last one before it that ended
without an error, one that ends in an error leaves the event as it is, and the
chain ends with the event left in this way. -/
structure ErrorsLeaveEvent (codec : Codec Event) (plugins : List (WasmPlugin Memory))
    (event : Event) : Prop where
  given : ∀ before visit after, visits codec plugins event = before ++ visit :: after →
    visit.event = leftBy event before
  kept : ∀ visit ∈ visits codec plugins event, visit.failed = true →
    visit.run.value = visit.event
  final : (processEvent codec plugins event).event = leftBy event (visits codec plugins event)

/-- When the plugin's hook returns a code that is an error, the result buffer is
empty, is no event, or is the event that the hook was given. -/
def HarmlessError (codec : Codec Event) (plugin : WasmPlugin Memory) (event : Event) : Prop :=
  plugin.enabled = true → ∀ call, plugin.guest.onEvent = some (.ok call) →
    ∀ bytes, codec.toBytes event = .ok bytes →
      let allocated := plugin.guest.allocAndWrite bytes plugin.store
      ∀ ptr, allocated.outcome = .ok ptr →
        let run := call ptr (lengthI32 bytes) allocated.store.memory
        ∀ code, run.outcome = .ok code → code ≠ 0 → code ≠ 1 → code ≠ 2 →
          let buffer := lastResult run.results allocated.store.resultBuffer
          buffer = [] ∨ ∀ modified, codec.fromSlice buffer = .ok modified → modified = event

/-- The error codes are harmless wherever the documented chain comes. -/
def ErrorsHarmless (codec : Codec Event) : List (WasmPlugin Memory) → Event → Prop
  | [], _ => True
  | plugin :: rest, event =>
      HarmlessError codec plugin event ∧
        match (plugin.onEvent codec event).result with
        | .continue => ErrorsHarmless codec rest (plugin.onEvent codec event).value
        | .error _ => ErrorsHarmless codec rest event
        | .handled | .drop => True

theorem isError_fromI32 (code : Int32) :
    isError (.fromI32 code) = true ↔ code ≠ 0 ∧ code ≠ 1 ∧ code ≠ 2 := by
  unfold PluginResult.fromI32
  split_ifs with zero one two
  · simp [isError, zero]
  · simp [isError, one]
  · simp [isError, two]
  · simp [isError, zero, one, two]

theorem modified_eq_iff (codec : Codec Event) (event : Event) (buffer : List UInt8) :
    (if buffer.isEmpty then event else (codec.fromSlice buffer).toOption.getD event) = event ↔
      buffer = [] ∨ ∀ modified, codec.fromSlice buffer = .ok modified → modified = event := by
  cases buffer with
  | nil => simp
  | cons byte rest =>
      cases codec.fromSlice (byte :: rest) with
      | error error => simp [Except.toOption]
      | ok modified => simp [Except.toOption]

/-- A hook that ends in an error leaves the event as it is exactly if the error
is harmless; traps and failed allocations are. -/
theorem harmlessError_iff (codec : Codec Event) (plugin : WasmPlugin Memory) (event : Event) :
    HarmlessError codec plugin event ↔
      (isError (plugin.onEvent codec event).result = true →
        (plugin.onEvent codec event).value = event) := by
  unfold HarmlessError WasmPlugin.onEvent WasmPlugin.callHook
  by_cases enabled : plugin.enabled = true
  · cases plugin.guest.onEvent with
    | none => simp [enabled]
    | some typed =>
        cases written : codec.toBytes event with
        | error error => simp [enabled]
        | ok bytes =>
            simp only [enabled, forall_const, Option.some.injEq, Except.ok.injEq, forall_eq']
            generalize plugin.guest.allocAndWrite bytes plugin.store = allocated
            rcases allocated with ⟨store, results, error | ptr⟩
            · simp
            · rcases typed with error | call
              · simp
              · simp only [Except.ok.injEq, forall_eq']
                generalize call ptr (lengthI32 bytes) store.memory = run
                rcases run with ⟨memory, passed, trap | code⟩
                · simp
                · simp only [Except.ok.injEq, forall_eq', Bool.not_true, Bool.false_eq_true,
                    if_false, modified_eq_iff, isError_fromI32, and_imp]
                  rfl
  · simp [enabled]

section Chain

variable {codec : Codec Event} {plugin : WasmPlugin Memory} {rest : List (WasmPlugin Memory)}
  {event : Event}

theorem visits_of_ends (rest : List (WasmPlugin Memory))
    (ends : (plugin.onEvent codec event).result = .handled ∨
      (plugin.onEvent codec event).result = .drop) :
    visits codec (plugin :: rest) event = [⟨event, plugin.onEvent codec event⟩] ∧
      (processEvent codec (plugin :: rest) event).event = (plugin.onEvent codec event).value ∧
      isError (plugin.onEvent codec event).result = false := by
  rcases ends with handled | dropped
  · simp [visits, processEvent, handled, isError]
  · simp [visits, processEvent, dropped, isError]

theorem visits_of_continues (rest : List (WasmPlugin Memory))
    (continues : (plugin.onEvent codec event).result = .continue ∨
      isError (plugin.onEvent codec event).result = true) :
    visits codec (plugin :: rest) event =
        ⟨event, plugin.onEvent codec event⟩ ::
          visits codec rest (plugin.onEvent codec event).value ∧
      (processEvent codec (plugin :: rest) event).event =
        (processEvent codec rest (plugin.onEvent codec event).value).event := by
  cases result : (plugin.onEvent codec event).result with
  | «continue» | error message => simp [visits, processEvent, result]
  | handled | drop => simp [result, isError] at continues

/-- The law for a chain whose first plugin goes on: it holds of the first plugin
and of the rest. -/
theorem errorsLeaveEvent_cons
    (continues : (plugin.onEvent codec event).result = .continue ∨
      isError (plugin.onEvent codec event).result = true)
    (harmless : isError (plugin.onEvent codec event).result = true →
      (plugin.onEvent codec event).value = event) :
    ErrorsLeaveEvent codec (plugin :: rest) event ↔
      ErrorsLeaveEvent codec rest (plugin.onEvent codec event).value := by
  obtain ⟨turns, ended⟩ := visits_of_continues rest continues
  have first : leftBy event [⟨event, plugin.onEvent codec event⟩] =
      (plugin.onEvent codec event).value := by
    by_cases failed : isError (plugin.onEvent codec event).result = true
    · simp [leftBy, Visit.failed, failed, harmless failed]
    · simp [leftBy, Visit.failed, failed]
  have later (further : List (Visit Memory Event)) :
      leftBy event (⟨event, plugin.onEvent codec event⟩ :: further) =
        leftBy (plugin.onEvent codec event).value further := by
    rw [← first]
    rfl
  constructor
  · intro law
    refine ⟨fun before visit after found => ?_, fun visit member failed => ?_, ?_⟩
    · rw [← later]
      exact law.given (_ :: before) visit after (by rw [turns, found, List.cons_append])
    · exact law.kept visit (by rw [turns]; exact List.mem_cons_of_mem _ member) failed
    · rw [← later, ← turns, ← ended]
      exact law.final
  · intro law
    refine ⟨fun before visit after found => ?_, fun visit member failed => ?_, ?_⟩
    · rw [turns] at found
      cases before with
      | nil =>
          cases found
          rfl
      | cons head before =>
          obtain ⟨rfl, found'⟩ := List.cons.inj found
          rw [later]
          exact law.given before visit after found'
    · rw [turns] at member
      rcases List.mem_cons.mp member with rfl | member
      · exact harmless failed
      · exact law.kept visit member failed
    · rw [turns, ended, later]
      exact law.final

/-- Errors leave the event as it is all along a chain if and only if its error
codes are harmless. -/
theorem errorsLeaveEvent_iff (codec : Codec Event) (plugins : List (WasmPlugin Memory))
    (event : Event) :
    ErrorsLeaveEvent codec plugins event ↔ ErrorsHarmless codec plugins event := by
  induction plugins generalizing event with
  | nil =>
      refine iff_of_true ⟨fun before visit after found => ?_, fun visit member => ?_, rfl⟩ trivial
      · simp [visits] at found
      · simp [visits] at member
  | cons plugin rest inductionHypothesis =>
      rw [ErrorsHarmless, harmlessError_iff]
      cases result : (plugin.onEvent codec event).result with
      | «continue» =>
          rw [errorsLeaveEvent_cons (.inl result) (by simp [result, isError]), inductionHypothesis]
          simp [isError]
      | error message =>
          have failed : isError (plugin.onEvent codec event).result = true := by
            simp [result, isError]
          constructor
          · intro law
            have kept : (plugin.onEvent codec event).value = event := by
              refine law.kept ⟨event, plugin.onEvent codec event⟩ ?_ failed
              rw [(visits_of_continues rest (.inr failed)).1]
              exact List.mem_cons_self
            rw [errorsLeaveEvent_cons (.inr failed) (fun _ => kept), kept,
              inductionHypothesis] at law
            exact ⟨fun _ => kept, law⟩
          · rintro ⟨kept, later⟩
            have same := kept rfl
            rw [errorsLeaveEvent_cons (.inr failed) (fun _ => same), same, inductionHypothesis]
            exact later
      | handled | drop =>
          have ends : (plugin.onEvent codec event).result = .handled ∨
              (plugin.onEvent codec event).result = .drop := by simp [result]
          obtain ⟨turns, ended, noError⟩ := visits_of_ends rest ends
          refine iff_of_true ⟨fun before visit after found => ?_, fun visit member failed => ?_, ?_⟩
            ⟨by simp [isError], trivial⟩
          · rw [turns] at found
            cases before with
            | nil =>
                cases found
                rfl
            | cons head before => simp at found
          · rw [turns, List.mem_singleton] at member
            cases member
            rw [Visit.failed, noError] at failed
            cases failed
          · rw [turns, ended]
            simp [leftBy, Visit.failed, noError]

end Chain

section Replaced

def replacingGuest : Guest Nat :=
  { trappingGuest with
    onEvent := some (.ok fun _ _ calls => ⟨calls, [[7]], .ok (-1)⟩) }

/-- The event that goes on is the one from the plugin that ended in an error. -/
theorem errorCode_replacesEvent :
    ∃ plugin, WasmPlugin.load infoFromSlice replacingGuest pluginConfig 0 = .ok plugin ∧
      isError (plugin.onEvent byteCodecs.event 3).result = true ∧
      (plugin.onEvent byteCodecs.event 3).value = 7 ∧
      ¬ ErrorsLeaveEvent byteCodecs.event [plugin] 3 := by
  refine ⟨_, rfl, rfl, rfl, fun law => ?_⟩
  have kept := law.kept _ List.mem_cons_self rfl
  exact absurd kept (by decide)

end Replaced

end Ferroq.Gateway.PluginEngine
