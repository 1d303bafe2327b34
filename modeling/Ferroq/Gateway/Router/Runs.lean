import Ferroq.Gateway.Router
import Ferroq.Library.Machine
import Mathlib.Logic.Function.Basic
import Ferroq.Library.Parts

/-!
# Runs of the API router

Registrations, removals and associations come in any order, and between them an
adapter may learn its account.  A run also keeps what no operation stores: which
adapters had their account seen by an operation, and when each one arrived.
-/

namespace Ferroq.Gateway

open Ferroq.Core
open Ferroq.Library

variable {Adapter : Type} [DecidableEq Adapter]

structure RouterRun (Adapter : Type) where
  router : ApiRouter Adapter
  info : Adapter → AdapterInfo
  /-- The adapters whose account was known when an operation read it. -/
  noted : List Adapter
  /-- The arrival numbers of the registered adapters, in their order. -/
  arrivals : List Nat
  clock : Nat

namespace RouterRun

def start (info : Adapter → AdapterInfo) : RouterRun Adapter :=
  { router := .new, info := info, noted := [], arrivals := [], clock := 0 }

inductive Action (Adapter : Type) where
  | register (adapter : Adapter)
  | unregister (name : String)
  | associateSelfId (selfId : Int64) (index : Nat)
  /-- An adapter reports something else from now on. -/
  | report (adapter : Adapter) (reported : AdapterInfo)

def known (info : Adapter → AdapterInfo) (adapter : Adapter) : Bool :=
  (info adapter).selfId.isSome

def removed (run : RouterRun Adapter) (name : String) (position : Nat) : RouterRun Adapter :=
  let router := (run.router.unregister run.info name).2
  { run with
    router := router
    noted := run.noted ++ router.adapters.filter (known run.info)
    arrivals := run.arrivals.eraseIdx position }

/-- One operation.  An association is made with a position at which an adapter
reporting the account sits, and an account that is reported stays. -/
def step (run : RouterRun Adapter) : Action Adapter → Option (RouterRun Adapter)
  | .register adapter =>
      some
        { run with
          router := run.router.register run.info adapter
          noted := if known run.info adapter then adapter :: run.noted else run.noted
          arrivals := run.arrivals ++ [run.clock]
          clock := run.clock + 1 }
  | .unregister name =>
      match run.router.adapters.findIdx? (fun adapter => (run.info adapter).name == name) with
      | none => some { run with router := (run.router.unregister run.info name).2 }
      | some position => some (run.removed name position)
  | .associateSelfId selfId index =>
      match run.router.adapters[index]? with
      | none => none
      | some adapter =>
          if (run.info adapter).selfId = some selfId then
            some
              { run with
                router := run.router.associateSelfId selfId index
                noted := adapter :: run.noted }
          else none
  | .report adapter reported =>
      if (run.info adapter).selfId = none ∨ reported.selfId = (run.info adapter).selfId then
        some { run with info := Function.update run.info adapter reported }
      else none

def machine : Machine (RouterRun Adapter) (Action Adapter) := ⟨step⟩

/-- What a run keeps to. -/
structure Sound (run : RouterRun Adapter) : Prop where
  coherent : run.router.Coherent run.info
  default : run.router.defaultIndex = if run.router.adapters.isEmpty then none else some 0
  notedKnown : ∀ adapter ∈ run.noted, known run.info adapter = true
  notedEntry : ∀ adapter ∈ run.noted, adapter ∈ run.router.adapters →
    ∀ selfId, (run.info adapter).selfId = some selfId →
      ∃ index, run.router.routingTable.get selfId = some index
  arrivalsLength : run.arrivals.length = run.router.adapters.length
  arrivalsOrdered : run.arrivals.Pairwise (· < ·)
  arrivalsPast : ∀ arrival ∈ run.arrivals, arrival < run.clock

end RouterRun

namespace ApiRouter

variable {info : Adapter → AdapterInfo}

omit [DecidableEq Adapter] in
theorem exists_get_rebuildTable {adapters : List Adapter} {adapter : Adapter} {selfId : Int64}
    (listed : adapter ∈ adapters) (reports : (info adapter).selfId = some selfId) :
    ∃ index, (rebuildTable info adapters).get selfId = some index := by
  induction adapters using List.reverseRecOn with
  | nil => simp at listed
  | append_singleton rest last inductionHypothesis =>
      rw [rebuildTable_concat]
      rcases List.mem_append.mp listed with earlier | latest
      · obtain ⟨index, entry⟩ := inductionHypothesis earlier
        cases (info last).selfId with
        | none => exact ⟨index, entry⟩
        | some account => exact Table.exists_get_insert account rest.length ⟨index, entry⟩
      · rw [List.mem_singleton] at latest
        subst latest
        rw [reports]
        exact ⟨rest.length, Table.get_insert_self _ _ _⟩

omit [DecidableEq Adapter] in
theorem exists_get_register {router : ApiRouter Adapter} (adapter : Adapter) {selfId : Int64}
    (held : ∃ index, router.routingTable.get selfId = some index) :
    ∃ index, (router.register info adapter).routingTable.get selfId = some index := by
  unfold register
  cases (info adapter).selfId with
  | none => exact held
  | some account => exact Table.exists_get_insert _ _ held

omit [DecidableEq Adapter] in
theorem exists_get_register_self (router : ApiRouter Adapter) {adapter : Adapter}
    {selfId : Int64} (reports : (info adapter).selfId = some selfId) :
    ∃ index, (router.register info adapter).routingTable.get selfId = some index := by
  simp [register, reports]

omit [DecidableEq Adapter] in
/-- Coherence only needs the accounts that are reported to stay. -/
theorem Coherent.learn {router : ApiRouter Adapter} (coherent : Coherent info router)
    {later : Adapter → AdapterInfo}
    (stays : ∀ adapter selfId, (info adapter).selfId = some selfId →
      (later adapter).selfId = some selfId) : Coherent later router where
  entries found := by
    obtain ⟨adapter, position, reports⟩ := coherent.entries found
    exact ⟨adapter, position, stays adapter _ reports⟩
  defaultInside := coherent.defaultInside

end ApiRouter

namespace RouterRun

variable {run next : RouterRun Adapter}

omit [DecidableEq Adapter] in
theorem start_sound (info : Adapter → AdapterInfo) : (start info).Sound where
  coherent := ApiRouter.new_coherent
  default := rfl
  notedKnown _ noted := absurd noted List.not_mem_nil
  notedEntry _ noted := absurd noted List.not_mem_nil
  arrivalsLength := rfl
  arrivalsOrdered := List.Pairwise.nil
  arrivalsPast _ arrived := absurd arrived List.not_mem_nil

omit [DecidableEq Adapter] in
theorem known_iff {info : Adapter → AdapterInfo} {adapter : Adapter} :
    known info adapter = true ↔ ∃ selfId, (info adapter).selfId = some selfId :=
  Option.isSome_iff_exists

theorem Sound.register (sound : run.Sound) {adapter : Adapter}
    (stepped : step run (.register adapter) = some next) : next.Sound := by
  cases stepped
  refine
    { coherent := ApiRouter.register_coherent sound.coherent adapter
      default := ?_
      notedKnown := ?_
      notedEntry := ?_
      arrivalsLength := by simp [sound.arrivalsLength]
      arrivalsOrdered := ?_
      arrivalsPast := ?_ }
  · have default := sound.default
    cases empty : run.router.adapters with
    | nil => simp [ApiRouter.register, empty, default]
    | cons => simp [ApiRouter.register, empty, default]
  · intro other noted
    change other ∈ (if known run.info adapter then adapter :: run.noted else run.noted) at noted
    split at noted
    next reported =>
      rcases List.mem_cons.mp noted with rfl | earlier
      · exact reported
      · exact sound.notedKnown other earlier
    next => exact sound.notedKnown other noted
  · intro other noted listed selfId reports
    change other ∈ (if known run.info adapter then adapter :: run.noted else run.noted) at noted
    rcases List.mem_append.mp listed with earlier | latest
    · by_cases same : other = adapter
      · subst same
        exact ApiRouter.exists_get_register_self run.router reports
      · have notedBefore : other ∈ run.noted := by
          split at noted
          next => exact (List.mem_cons.mp noted).resolve_left same
          next => exact noted
        exact ApiRouter.exists_get_register adapter
          (sound.notedEntry other notedBefore earlier selfId reports)
    · rw [List.mem_singleton] at latest
      subst latest
      exact ApiRouter.exists_get_register_self run.router reports
  · refine List.pairwise_append.mpr ⟨sound.arrivalsOrdered, List.pairwise_singleton _ _, ?_⟩
    intro arrival arrived last lastIs
    rw [List.mem_singleton] at lastIs
    subst lastIs
    exact sound.arrivalsPast arrival arrived
  · exact forall_mem_concat
      (fun arrival arrived => Nat.lt_succ_of_lt (sound.arrivalsPast arrival arrived))
      (Nat.lt_succ_self _)

theorem Sound.unregister (sound : run.Sound) {name : String}
    (stepped : step run (.unregister name) = some next) : next.Sound := by
  have coherent := ApiRouter.unregister_coherent sound.coherent name
  simp only [step] at stepped
  cases found : run.router.adapters.findIdx?
      (fun adapter => (run.info adapter).name == name) with
  | none =>
      have unchanged : (run.router.unregister run.info name).2 = run.router := by
        simp [ApiRouter.unregister, found]
      rw [found] at stepped
      cases stepped
      rw [unchanged]
      exact sound
  | some position =>
      have after : (run.router.unregister run.info name).2 =
          { routingTable := ApiRouter.rebuildTable run.info (run.router.adapters.eraseIdx position)
            adapters := run.router.adapters.eraseIdx position
            defaultIndex :=
              if (run.router.adapters.eraseIdx position).isEmpty then none else some 0 } := by
        simp [ApiRouter.unregister, found]
      have inside := (List.findIdx?_eq_some_iff_getElem.mp found).1
      rw [found] at stepped
      cases stepped
      refine
        { coherent := coherent
          default := ?_
          notedKnown := ?_
          notedEntry := ?_
          arrivalsLength := ?_
          arrivalsOrdered := sound.arrivalsOrdered.sublist (List.eraseIdx_sublist _ _)
          arrivalsPast := fun arrival arrived =>
            sound.arrivalsPast arrival (List.mem_of_mem_eraseIdx arrived) }
      · simp only [removed, after]
      · intro adapter noted
        rcases List.mem_append.mp noted with earlier | remaining
        · exact sound.notedKnown adapter earlier
        · exact (List.mem_filter.mp remaining).2
      · intro adapter _ listed selfId reports
        simp only [removed, after] at listed reports ⊢
        exact ApiRouter.exists_get_rebuildTable listed reports
      · simp only [removed, after]
        rw [List.length_eraseIdx, List.length_eraseIdx, sound.arrivalsLength]

theorem Sound.associateSelfId (sound : run.Sound) {selfId : Int64} {index : Nat}
    (stepped : step run (.associateSelfId selfId index) = some next) : next.Sound := by
  simp only [step] at stepped
  split at stepped
  next => cases stepped
  next adapter position =>
    split at stepped
    next reports =>
      cases stepped
      refine
        { coherent := ApiRouter.associateSelfId_coherent sound.coherent position reports
          default := sound.default
          notedKnown := ?_
          notedEntry := ?_
          arrivalsLength := sound.arrivalsLength
          arrivalsOrdered := sound.arrivalsOrdered
          arrivalsPast := sound.arrivalsPast }
      · intro other noted
        rcases List.mem_cons.mp noted with rfl | earlier
        · exact known_iff.mpr ⟨selfId, reports⟩
        · exact sound.notedKnown other earlier
      · intro other noted listed account reported
        rcases List.mem_cons.mp noted with rfl | earlier
        · rw [reports] at reported
          cases reported
          exact ⟨index, Table.get_insert_self _ _ _⟩
        · exact Table.exists_get_insert _ _ (sound.notedEntry other earlier listed account reported)
    next => cases stepped

theorem stays_update {info : Adapter → AdapterInfo} {adapter : Adapter} {reported : AdapterInfo}
    (allowed : (info adapter).selfId = none ∨ reported.selfId = (info adapter).selfId)
    (other : Adapter) (selfId : Int64) (reports : (info other).selfId = some selfId) :
    (Function.update info adapter reported other).selfId = some selfId := by
  by_cases same : other = adapter
  · subst same
    rw [Function.update_self]
    rcases allowed with unknown | kept
    · rw [unknown] at reports
      cases reports
    · rw [kept, reports]
  · rw [Function.update_of_ne same, reports]

theorem Sound.report (sound : run.Sound) {adapter : Adapter} {reported : AdapterInfo}
    (stepped : step run (.report adapter reported) = some next) : next.Sound := by
  simp only [step] at stepped
  split at stepped
  next allowed =>
    cases stepped
    have stays := stays_update allowed
    refine
      { coherent := sound.coherent.learn stays
        default := sound.default
        notedKnown := ?_
        notedEntry := ?_
        arrivalsLength := sound.arrivalsLength
        arrivalsOrdered := sound.arrivalsOrdered
        arrivalsPast := sound.arrivalsPast }
    · intro other noted
      obtain ⟨selfId, reports⟩ := known_iff.mp (sound.notedKnown other noted)
      exact known_iff.mpr ⟨selfId, stays other selfId reports⟩
    · intro other noted listed selfId reports
      obtain ⟨account, before⟩ := known_iff.mp (sound.notedKnown other noted)
      have same : account = selfId := by
        have after := stays other account before
        rw [reports] at after
        exact (Option.some.inj after).symm
      subst same
      exact sound.notedEntry other noted listed account before
  next => cases stepped

theorem step_sound {action : Action Adapter} (sound : run.Sound)
    (stepped : step run action = some next) : next.Sound := by
  cases action with
  | register adapter => exact sound.register stepped
  | unregister name => exact sound.unregister stepped
  | associateSelfId selfId index => exact sound.associateSelfId stepped
  | report adapter reported => exact sound.report stepped

structure Routes (run : RouterRun Adapter) : Prop where
  noDefault : run.router.defaultIndex = none ↔ run.router.adapters = []
  oldestDefault : ∀ index, run.router.defaultIndex = some index →
    index < run.router.adapters.length ∧
      ∃ first, run.arrivals[index]? = some first ∧ ∀ arrival ∈ run.arrivals, first ≤ arrival
  entries : ∀ selfId index, run.router.routingTable.get selfId = some index →
    ∃ adapter, run.router.adapters[index]? = some adapter ∧
      (run.info adapter).selfId = some selfId
  notedEntry : ∀ adapter ∈ run.router.adapters, adapter ∈ run.noted →
    ∃ selfId index, (run.info adapter).selfId = some selfId ∧
      run.router.routingTable.get selfId = some index
  unrouted : ∀ request, run.router.routeTarget run.info request = .error ApiRouter.noAdapters ↔
    run.router.adapters = []
  inside : ∀ request index,
    run.router.routeTarget run.info request ≠ .error (ApiRouter.outOfBounds index)
  named : ∀ callApi request, run.router.adapters ≠ [] → ∃ adapter ∈ run.router.adapters,
    run.router.routeNamed run.info callApi request =
      (callApi adapter request).map fun response => (response, (run.info adapter).name)

end RouterRun

namespace ApiRouter

variable {info : Adapter → AdapterInfo}

omit [DecidableEq Adapter] in
theorem Coherent.exists_routeTarget {router : ApiRouter Adapter}
    (coherent : Coherent info router) (inhabited : router.adapters ≠ []) (request : ApiRequest) :
    ∃ adapter ∈ router.adapters,
      routeTarget info router request = .ok (adapter, (info adapter).name) := by
  rcases routeTarget_cases router request with empty | ⟨index, failed⟩ | found
  · exact absurd empty inhabited
  · exact absurd failed (coherent.routeTarget_ne_outOfBounds request index)
  · exact found

end ApiRouter

namespace RouterRun

variable {run : RouterRun Adapter}

omit [DecidableEq Adapter] in
theorem Sound.routes (sound : run.Sound) : run.Routes where
  noDefault := by
    rw [sound.default]
    cases run.router.adapters <;> simp
  oldestDefault := by
    intro index held
    rw [sound.default] at held
    cases listed : run.router.adapters with
    | nil => simp [listed] at held
    | cons oldest rest =>
        rw [listed] at held
        cases held
        have counted := sound.arrivalsLength
        have ordered := sound.arrivalsOrdered
        cases arrived : run.arrivals with
        | nil => simp [arrived, listed] at counted
        | cons first later =>
            rw [arrived] at ordered
            refine ⟨by simp, first, rfl, ?_⟩
            intro arrival among
            rcases List.mem_cons.mp among with rfl | among
            · exact Nat.le_refl _
            · exact Nat.le_of_lt (List.rel_of_pairwise_cons ordered among)
  entries _ _ found := sound.coherent.entries found
  notedEntry := by
    intro adapter listed noted
    obtain ⟨selfId, reports⟩ := known_iff.mp (sound.notedKnown adapter noted)
    obtain ⟨index, entry⟩ := sound.notedEntry adapter noted listed selfId reports
    exact ⟨selfId, index, reports, entry⟩
  unrouted := by
    intro request
    constructor
    · intro failed
      by_contra inhabited
      obtain ⟨adapter, _, target⟩ := sound.coherent.exists_routeTarget inhabited request
      rw [failed] at target
      cases target
    · intro empty
      simp [ApiRouter.routeTarget, empty]
  inside request index := sound.coherent.routeTarget_ne_outOfBounds request index
  named := by
    intro callApi request inhabited
    obtain ⟨adapter, listed, target⟩ := sound.coherent.exists_routeTarget inhabited request
    refine ⟨adapter, listed, ?_⟩
    rw [ApiRouter.routeNamed, target]
    change (callApi adapter request).bind _ = _
    cases callApi adapter request <;> rfl

/-- Every state of every run routes as clients rely on. -/
theorem routes_throughout (info : Adapter → AdapterInfo) (actions : List (Action Adapter)) :
    machine.Throughout Routes (start info) actions :=
  machine.throughout_of_invariant (fun _ _ _ sound stepped => step_sound sound stepped)
    (fun _ sound => sound.routes) actions (start_sound info)

def silentAdapter : AdapterInfo :=
  { name := "bot", backendType := "lagrange", url := "ws://localhost", state := .connected,
    selfId := none }

/-- The removal of an unknown name does not enter an account that became known
after the registration. -/
theorem unknownRemoval_noEntry :
    ∃ final : RouterRun Unit,
      machine.run (start fun _ => silentAdapter)
          [.register (), .report () { silentAdapter with selfId := some 7 },
            .unregister "ghost"] = some final ∧
        final.router.adapters = [()] ∧
        (final.info ()).selfId = some 7 ∧
        final.router.routingTable.get 7 = none :=
  ⟨_, rfl, rfl, rfl, rfl⟩

end RouterRun

end Ferroq.Gateway
