import Ferroq.Gateway.Management
import Ferroq.Gateway.Manager.Custody
import Ferroq.Gateway.Startup

/-!
# The adapters of the live map

What the live map holds, seen from the names and backends of its adapters.  The
startup fills it with the adapters of a configuration that has been validated;
the management interface adds what it is given.
-/

namespace Ferroq.Gateway

open Ferroq.Core
open Ferroq.Library

/-- The live map, with the names and adapters that calls of `add_adapter` are to
insert, under the numbers of the calls. -/
structure LiveMap where
  live : Table String Identity
  adding : Table Nat (String × Identity)

namespace LiveMap

def new : LiveMap := ⟨.empty, .empty⟩

def registerRunning (map : LiveMap) (adapter : Identity) : LiveMap :=
  { map with live := map.live.insert adapter.name adapter }

def started (adapters : List Identity) : LiveMap := adapters.foldl registerRunning new

inductive Action where
  /-- A call of `add_adapter` up to its first await, under a number of its own. -/
  | addAdapter (call : Nat) (name : String) (config : BackendConfig)
      (clientError : Option String)
  | insert (call : Nat)
  | removeAdapter (name : String)
  | reconnectAdapter (name : String)

def step (map : LiveMap) : Action → Option LiveMap
  | .addAdapter call name config clientError =>
      if map.adding.contains call then none
      else if map.live.contains name then some map
      else
        match AdapterObject.create name config clientError with
        | .error _ => some map
        | .ok object =>
            some { map with adding := map.adding.insert call (name, object.identity) }
  | .insert call =>
      match map.adding.get call with
      | none => none
      | some (name, adapter) =>
          some ⟨map.live.insert name adapter, map.adding.remove call⟩
  | .removeAdapter name => some { map with live := map.live.remove name }
  | .reconnectAdapter _ => some map

def machine : Machine LiveMap Action := ⟨step⟩

/-- Every live adapter is what validation asks of the adapters of the configuration. -/
def AllAccepted (map : LiveMap) : Prop :=
  ∀ name adapter, map.live.get name = some adapter → adapter.Accepted

/-- An adapter that is inserted was given an accepted name and an accepted URL. -/
def InsertsAccepted (map : LiveMap) : Action → Prop
  | .insert call => ∀ entry ∈ map.adding.get call, entry.2.Accepted
  | _ => True

theorem registerRunning_accepted {map : LiveMap} (all : map.AllAccepted) {adapter : Identity}
    (accepted : adapter.Accepted) : (map.registerRunning adapter).AllAccepted := by
  intro name other found
  rcases (Table.get_insert_eq_some_iff _ _ _ _ _).mp found with ⟨_, rfl⟩ | ⟨_, before⟩
  · exact accepted
  · exact all name other before

theorem started_accepted {adapters : List Identity}
    (accepted : ∀ adapter ∈ adapters, adapter.Accepted) : (started adapters).AllAccepted := by
  have folded : ∀ map : LiveMap, map.AllAccepted →
      (adapters.foldl registerRunning map).AllAccepted := by
    induction adapters with
    | nil => exact fun map all => all
    | cons adapter rest inductionHypothesis =>
        intro map all
        exact inductionHypothesis
          (fun other listed => accepted other (List.mem_cons_of_mem adapter listed))
          (map.registerRunning adapter)
          (registerRunning_accepted all (accepted adapter List.mem_cons_self))
  exact folded new (by simp [AllAccepted, new])

theorem allAccepted_step {map next : LiveMap} {action : Action} (all : map.AllAccepted)
    (stepped : machine.step map action = some next) :
    next.AllAccepted ↔ map.InsertsAccepted action := by
  change step map action = some next at stepped
  cases action with
  | addAdapter call name config clientError =>
      have same : next.live = map.live := by
        simp only [step] at stepped
        split at stepped
        next => cases stepped
        next =>
          split at stepped
          next =>
            cases stepped
            rfl
          next =>
            split at stepped <;>
              · cases stepped
                rfl
      refine iff_of_true ?_ True.intro
      intro other adapter found
      exact all other adapter (same ▸ found)
  | insert call =>
      simp only [step] at stepped
      split at stepped
      next => cases stepped
      next name adapter made =>
        cases stepped
        constructor
        · intro accepted entry held
          rw [made] at held
          cases held
          exact accepted name adapter (Table.get_insert_self _ _ _)
        · intro accepted other held there
          rcases (Table.get_insert_eq_some_iff _ _ _ _ _).mp there with ⟨_, rfl⟩ | ⟨_, before⟩
          · exact accepted _ made
          · exact all other held before
  | removeAdapter name =>
      cases stepped
      refine iff_of_true ?_ True.intro
      intro other adapter found
      exact all other adapter ((Table.get_remove_eq_some_iff _ _ _ _).mp found).2
  | reconnectAdapter name =>
      cases stepped
      exact iff_of_true all True.intro

/-- From a valid configuration the live adapters are accepted throughout a run
exactly when every adapter that a call inserts is. -/
theorem allAccepted_throughout_iff (config : ValidConfig) (clientError : String → Option String)
    {adapters : List Identity}
    (created : Startup.createAccounts clientError config.1.accounts = .ok adapters)
    (actions : List Action) :
    machine.Throughout AllAccepted (started adapters) actions ↔
      machine.Admits InsertsAccepted (started adapters) actions :=
  machine.throughout_iff_admits
    (fun _ _ _ _ _ _ => True.intro)
    (fun _ _ _ _ all stepped => allAccepted_step all stepped)
    actions True.intro
    (started_accepted (Startup.createAccounts_accepted config.accountAccepted created))

section Samples

def mainAccount : AccountConfig where
  name := "main"
  backend :=
    { backendType := "lagrange", url := "ws://127.0.0.1:8081/onebot/v11/ws", accessToken := ""
      reconnectInterval := 5, maxReconnectInterval := 120, healthCheckInterval := 30
      connectTimeout := 15, apiTimeout := 30 }
  fallback := none

def mainConfig : ValidConfig :=
  ⟨{ Management.settings "" none with accounts := [mainAccount] }, by decide +kernel⟩

def mainAdapter : Identity := ⟨"main", "lagrange", "ws://127.0.0.1:8081/onebot/v11/ws", none⟩

def addOne (name : String) (config : BackendConfig) : List Action :=
  [.addAdapter 0 name config none, .insert 0]

theorem allAccepted_throughout_iff_main :
    machine.Throughout AllAccepted (started [mainAdapter]) (addOne "second" ⟨"napcat", "ws://b"⟩) ↔
      machine.Admits InsertsAccepted (started [mainAdapter])
        (addOne "second" ⟨"napcat", "ws://b"⟩) :=
  allAccepted_throughout_iff mainConfig (fun _ => none) rfl _

/-- An adapter with a blank name and a URL that is no URL is live. -/
theorem blankAdapter_live :
    ∃ final, machine.run (started [mainAdapter]) (addOne " " ⟨"lagrange", "nowhere"⟩) = some final ∧
      ¬ final.AllAccepted := by
  refine ⟨_, rfl, ?_⟩
  intro accepted
  have blank := (accepted " " ⟨" ", "lagrange", "nowhere", none⟩ rfl).name
  exact absurd blank (by decide +kernel)

end Samples

end LiveMap

/-- The name and the adapter that a call of `add_adapter` is to insert. -/
def ManagerCall.adds : ManagerCall → Option (String × Nat)
  | .add name (.connecting adapter _ _) => some (name, adapter)
  | .add name (.registered adapter _) => some (name, adapter)
  | _ => none

theorem ManagerCall.owned_of_adds {call : ManagerCall} {name : String} {adapter : Nat}
    (adds : call.adds = some (name, adapter)) : call.owned = some adapter := by
  unfold ManagerCall.adds at adds
  split at adds
  next =>
    cases adds
    rfl
  next =>
    cases adds
    rfl
  next => cases adds

theorem ManagerCall.adds_of_failed {call : ManagerCall} (failed : call.failed = true) :
    call.adds = none := by
  unfold ManagerCall.failed at failed
  split at failed <;> first | rfl | cases failed

theorem AdapterObject.background_identity {object next : AdapterObject} {task : BackendTask}
    (stepped : object.background task = some next) : next.identity = object.identity := by
  rcases background_cases stepped with ⟨_, _, _, _, _, _, rfl⟩ | ⟨_, _, _, _, _, _, rfl⟩ <;> rfl

namespace AdapterManager

variable {state next : AdapterManager} {action : Managing}

def identityAt (state : AdapterManager) (adapter : Nat) : Option Identity :=
  state.objects[adapter]?.map AdapterObject.identity

/-- What a call is to insert, with the adapter itself. -/
def addedAt (state : AdapterManager) (entry : String × Nat) : Option (String × Identity) :=
  (state.identityAt entry.2).map fun adapter => (entry.1, adapter)

def liveMap (state : AdapterManager) : LiveMap where
  live := state.liveAdapters.filterMap state.identityAt
  adding := (Table.ofList ManagerCall.adds state.calls).filterMap state.addedAt

def KeepsIdentities (state next : AdapterManager) : Prop :=
  ∀ {adapter : Nat}, adapter < state.objects.length →
    next.identityAt adapter = state.identityAt adapter

theorem keepsIdentities_of_eq (same : next.objects = state.objects) :
    state.KeepsIdentities next := by
  intro adapter _
  rw [identityAt, identityAt, same]

theorem keepsIdentities_modify {adapter : Nat} {change : AdapterObject → AdapterObject}
    (same : next.objects = state.objects.modify adapter change)
    (kept : ∀ object, state.objects[adapter]? = some object →
      (change object).identity = object.identity) : state.KeepsIdentities next := by
  intro other _
  rw [identityAt, identityAt, same, List.getElem?_modify]
  split
  next equal =>
    subst equal
    cases held : state.objects[adapter]? with
    | none => rfl
    | some object => simp [kept object held]
  next => simp

theorem keepsIdentities_steps (steps : Steps state action next) :
    state.KeepsIdentities next := by
  cases steps with
  | rejected | registeredAdded | insertedAdded | tookLive | unregisteredTaken | lookedUp
  | storedForwarder | receivedEvent | publishedEvent | suspended => exact keepsIdentities_of_eq rfl
  | startedAdd =>
      intro adapter before
      simp [identityAt, startAdd, List.getElem?_append_left before]
  | disconnectedRemoved | disconnectedHeld | startedConnect =>
      apply keepsIdentities_modify rfl
      exact fun _ _ => rfl
  | ran held stepped =>
      apply keepsIdentities_modify rfl
      intro before found
      rw [held] at found
      cases found
      exact AdapterObject.background_identity stepped

theorem live_of_keeps (owned : state.Owned) (keeps : state.KeepsIdentities next) :
    state.liveAdapters.filterMap next.identityAt = state.liveMap.live := by
  apply Table.filterMap_congr
  intro name adapter found
  have held : state.custody.get (.inl name) = some adapter := found
  exact keeps (owned.made held)

theorem adding_of_keeps (owned : state.Owned) (keeps : state.KeepsIdentities next) :
    (Table.ofList ManagerCall.adds state.calls).filterMap next.addedAt = state.liveMap.adding := by
  apply Table.filterMap_congr
  rintro index ⟨name, adapter⟩ found
  obtain ⟨call, position, adds⟩ := Option.bind_eq_some_iff.mp found
  have held : state.custody.get (.inr index) = some adapter :=
    Option.bind_eq_some_iff.mpr ⟨call, position, ManagerCall.owned_of_adds adds⟩
  simp only [addedAt, keeps (owned.made held)]

theorem liveMap_congr (owned : state.Owned) (keeps : state.KeepsIdentities next)
    (live : next.liveAdapters = state.liveAdapters)
    (adding : Table.ofList ManagerCall.adds next.calls =
      Table.ofList ManagerCall.adds state.calls) : next.liveMap = state.liveMap := by
  have sameLive := live_of_keeps owned keeps
  have sameAdding := adding_of_keeps owned keeps
  rw [liveMap, live, adding, sameLive, sameAdding]

theorem adds_setCall {index : Nat} {old new : ManagerCall}
    (found : state.calls[index]? = some old) (same : new.adds = old.adds) :
    Table.ofList ManagerCall.adds (state.setCall index new).calls =
      Table.ofList ManagerCall.adds state.calls := by
  apply Table.ofList_modify_of_eq
  intro call position
  rw [found] at position
  cases position
  exact same

theorem liveMap_startAdd (owned : state.Owned) {name : String} {object : AdapterObject}
    (keeps : state.KeepsIdentities (state.startAdd name object)) :
    (state.startAdd name object).liveMap =
      ⟨state.liveMap.live,
        state.liveMap.adding.insert state.calls.length (name, object.identity)⟩ := by
  have made : (state.startAdd name object).addedAt (name, state.objects.length) =
      some (name, object.identity) := by
    simp only [addedAt, identityAt, startAdd, List.getElem?_concat_length]
    rfl
  have added : Table.ofList ManagerCall.adds (state.startAdd name object).calls =
      (Table.ofList ManagerCall.adds state.calls).insert state.calls.length
        (name, state.objects.length) := Table.ofList_concat_insert _ _ rfl
  have live := live_of_keeps owned keeps
  have adding := adding_of_keeps owned keeps
  rw [← live, ← adding, ← Table.filterMap_insert _ _ made, ← added]
  rfl

theorem liveMap_insertAdded (owned : state.Owned) {index : Nat} {name : String}
    {adapter channel : Nat} {identity : Identity}
    (found : state.calls[index]? = some (.add name (.registered adapter channel)))
    (made : state.identityAt adapter = some identity)
    (keeps : state.KeepsIdentities (state.insertAdded index name adapter channel)) :
    (state.insertAdded index name adapter channel).liveMap =
      ⟨state.liveMap.live.insert name identity, state.liveMap.adding.remove index⟩ := by
  have inserted : Table.ofList ManagerCall.adds
        (state.insertAdded index name adapter channel).calls =
      (Table.ofList ManagerCall.adds state.calls).remove index :=
    Table.ofList_modify_remove _ found rfl
  have live := live_of_keeps owned keeps
  have adding := adding_of_keeps owned keeps
  have kept : (state.insertAdded index name adapter channel).identityAt adapter =
      some identity := made
  rw [← live, ← adding, ← Table.filterMap_insert _ _ kept, ← Table.filterMap_remove,
    ← inserted, ← liveAdapters_insertAdded index name adapter channel]
  rfl

theorem liveMap_takeLive (owned : state.Owned) {name : String} {entry : LiveAdapter}
    (keeps : state.KeepsIdentities (state.takeLive name entry)) :
    (state.takeLive name entry).liveMap =
      ⟨state.liveMap.live.remove name, state.liveMap.adding⟩ := by
  have taken : Table.ofList ManagerCall.adds (state.takeLive name entry).calls =
      Table.ofList ManagerCall.adds state.calls := Table.ofList_concat _ _ rfl
  have live := live_of_keeps owned keeps
  have adding := adding_of_keeps owned keeps
  rw [← live, ← adding, ← Table.filterMap_remove, ← taken, ← liveAdapters_takeLive name entry]
  rfl

theorem liveMap_steps (owned : state.Owned) (steps : Steps state action next) :
    next.liveMap = state.liveMap ∨
      ∃ seen, LiveMap.machine.step state.liveMap seen = some next.liveMap := by
  have keeps : state.KeepsIdentities next := keepsIdentities_steps steps
  cases steps with
  | rejected action call failed =>
      exact .inl (liveMap_congr owned keeps rfl
        (Table.ofList_concat _ _ (ManagerCall.adds_of_failed failed)))
  | @startedAdd name config clientError object absent created =>
      refine .inr ⟨.addAdapter state.calls.length name config clientError, ?_⟩
      have unused : state.liveMap.adding.contains state.calls.length = false := by
        simp [Table.contains, liveMap, Table.get_filterMap, Table.get_ofList]
      have free : state.liveMap.live.contains name = false := by
        simp [Table.contains, liveMap, Table.get_filterMap, liveAdapters_eq_none absent]
      rw [liveMap_startAdd owned keeps]
      simp [LiveMap.machine, LiveMap.step, unused, free, created]
  | registeredAdded found _ =>
      exact .inl (liveMap_congr owned keeps rfl (adds_setCall found rfl))
  | @insertedAdded index name adapter channel found =>
      refine .inr ⟨.insert index, ?_⟩
      have held : state.custody.get (.inr index) = some adapter :=
        Option.bind_eq_some_iff.mpr ⟨_, found, rfl⟩
      obtain ⟨identity, made⟩ : ∃ identity, state.identityAt adapter = some identity :=
        ⟨_, congrArg _ (List.getElem?_eq_getElem (owned.made held))⟩
      have pending : state.liveMap.adding.get index = some (name, identity) := by
        simp [liveMap, Table.get_filterMap, Table.get_ofList, found, ManagerCall.adds, addedAt,
          made]
      rw [liveMap_insertAdded owned found made keeps]
      simp [LiveMap.machine, LiveMap.step, pending]
  | @tookLive name entry found =>
      refine .inr ⟨.removeAdapter name, ?_⟩
      rw [liveMap_takeLive owned keeps]
      rfl
  | disconnectedRemoved found | unregisteredTaken found | disconnectedHeld found
  | startedConnect found =>
      exact .inl (liveMap_congr owned keeps rfl (adds_setCall found rfl))
  | lookedUp found =>
      exact .inl (liveMap_congr owned keeps rfl (Table.ofList_concat _ _ rfl))
  | storedForwarder found =>
      exact .inl (liveMap_congr owned keeps (liveAdapters_storeForwarder _ _ _)
        (adds_setCall found rfl))
  | ran | receivedEvent | publishedEvent | suspended =>
    exact .inl (liveMap_congr owned keeps rfl rfl)

/-- Every run of the manager is, seen from its live map, a run of the live map. -/
theorem liveMap_run {final : AdapterManager} {actions : List Managing} (owned : state.Owned)
    (reached : machine.run state actions = some final) :
    ∃ seen, LiveMap.machine.run state.liveMap seen = some final.liveMap :=
  machine.exists_run_of_view
    (fun _ _ _ owned stepped => owned_steps owned (steps_of_step stepped))
    (fun _ _ _ owned stepped => liveMap_steps owned (steps_of_step stepped))
    owned reached

end AdapterManager

end Ferroq.Gateway
