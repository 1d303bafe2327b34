import Ferroq.Gateway.Manager.Agreement
import Ferroq.Gateway.Manager.LiveMap
import Ferroq.Library.Linearization

/-!
# The manager as one table of accounts

Seen from its callers the manager is a table from names to accounts, although its
calls run beside each other and beside the tasks of the adapters.  An addition
takes effect when it inserts its adapter, and every other call in its first step.
The additions of one name must not overlap, or both of them succeed.
-/

namespace Ferroq.Gateway

open Ferroq.Core
open Ferroq.Library

inductive ManagerOperation where
  | addAdapter (name : String) (config : BackendConfig) (clientError : Option String)
  | removeAdapter (name : String)
  | reconnectAdapter (name : String)

/-- What an operation does to the accounts when no other goes on, and its result. -/
def ManagerOperation.perform (accounts : Table String Identity) :
    ManagerOperation → Table String Identity × Except GatewayError Unit
  | addAdapter name config clientError =>
      if accounts.contains name then (accounts, .error (AdapterManager.alreadyExists name))
      else
        match AdapterObject.create name config clientError with
        | .ok object => (accounts.insert name object.identity, .ok ())
        | .error error => (accounts, .error error)
  | removeAdapter name =>
      if accounts.contains name then (accounts.remove name, .ok ())
      else (accounts, .error (AdapterManager.notFound name))
  | reconnectAdapter name =>
      if accounts.contains name then (accounts, .ok ())
      else (accounts, .error (AdapterManager.notFound name))

def Managing.asks : Managing → Option ManagerOperation
  | addAdapter name config clientError => some (.addAdapter name config clientError)
  | removeAdapter name => some (.removeAdapter name)
  | reconnectAdapter name => some (.reconnectAdapter name)
  | _ => none

namespace ManagerCall

/-- The result of a call that has taken effect. -/
def decision : ManagerCall → Option (Except GatewayError Unit)
  | add _ .finished => some (.ok ())
  | add _ (.failed error) => some (.error error)
  | add _ _ => none
  | remove _ (.failed error) => some (.error error)
  | remove _ _ => some (.ok ())
  | reconnect _ (.failed error) => some (.error error)
  | reconnect _ _ => some (.ok ())

def result (call : ManagerCall) : Option (Except GatewayError Unit) :=
  if call.returned then call.decision else none

end ManagerCall

namespace AdapterManager

def managerCalls :
    Calls AdapterManager Managing ManagerOperation (Except GatewayError Unit) where
  machine := machine
  asks := Managing.asks
  results state := .ofList ManagerCall.result state.calls

def accounts (state : AdapterManager) : Table String Identity := state.liveMap.live

def decisions (state : AdapterManager) : Table Nat (Except GatewayError Unit) :=
  .ofList ManagerCall.decision state.calls

variable {state next : AdapterManager} {action : Managing}

/-! ## The table of accounts -/

theorem contains_accounts (owned : state.Owned) (name : String) :
    state.accounts.contains name = state.live.contains name := by
  have there : state.accounts.get name = (state.liveAdapters.get name).bind state.identityAt :=
    Table.get_filterMap _ _ _
  have seen : state.liveAdapters.get name = (state.live.get name).map LiveAdapter.adapter := rfl
  rw [Table.contains, Table.contains, there]
  cases found : state.live.get name with
  | none => simp [seen, found]
  | some entry =>
      have held : state.custody.get (.inl name) = some entry.adapter := liveAdapters_eq_some found
      rw [seen, found, Option.map_some, Option.bind_some, identityAt,
        List.getElem?_eq_getElem (owned.made held)]
      rfl

theorem contains_of_live (owned : state.Owned) {name : String} {entry : LiveAdapter}
    (found : state.live.get name = some entry) : state.accounts.contains name = true := by
  rw [contains_accounts owned, Table.contains, found]
  rfl

theorem not_contains_of_live (owned : state.Owned) {name : String}
    (absent : state.live.get name = none) : state.accounts.contains name = false := by
  rw [contains_accounts owned, Table.contains, absent]
  rfl

theorem accounts_congr (owned : state.Owned) (keeps : state.KeepsIdentities next)
    (live : next.liveAdapters = state.liveAdapters) : next.accounts = state.accounts := by
  rw [accounts, liveMap, live]
  exact live_of_keeps owned keeps

/-! ## What a step decides -/

theorem decisions_begin {call : ManagerCall} {outcome : Except GatewayError Unit}
    (decided : call.decision = some outcome) (same : next.calls = state.calls ++ [call]) :
    next.decisions = state.decisions.insert state.calls.length outcome := by
  rw [decisions, decisions, same]
  exact Table.ofList_concat_insert _ _ decided

theorem decisions_setCall {index : Nat} {old new : ManagerCall}
    (found : state.calls[index]? = some old)
    (same : next.calls = state.calls.modify index fun _ => new)
    (sameDecision : new.decision = old.decision) :
    next.decisions = state.decisions := by
  rw [decisions, decisions, same]
  apply Table.ofList_modify_of_eq
  intro call position
  rw [found] at position
  cases position
  exact sameDecision

theorem decisions_pending : state.decisions.get state.calls.length = none := by
  simp [decisions, Table.get_ofList]

theorem calls_length_step (stepped : state.step action = some next) :
    next.calls.length = state.calls.length + action.asks.toList.length := by
  cases action with
  | addAdapter name config clientError =>
      simp only [step] at stepped
      split at stepped
      next =>
        cases stepped
        simp [begin, Managing.asks]
      next =>
        split at stepped <;>
          · cases stepped
            simp [begin, startAdd, Managing.asks]
  | removeAdapter name | reconnectAdapter name =>
      simp only [step] at stepped
      split at stepped <;>
        · cases stepped
          simp [begin, takeLive, abortForwarder, Managing.asks]
  | register index | finishReconnect index =>
      simp only [step] at stepped
      split at stepped
      next =>
        split at stepped
        next =>
          cases stepped
          simp [registerAdded, storeForwarder, setCall, spawnForwarder, Managing.asks]
        next => cases stepped
      next => cases stepped
  | insert index | disconnectRemoved index | unregister index | disconnectHeld index =>
      simp only [step] at stepped
      split at stepped
      next =>
        cases stepped
        simp [insertAdded, unregisterTaken, modifyObject, spawnForwarder, setCall, Managing.asks]
      next => cases stepped
  | connectHeld index =>
      simp only [step] at stepped
      split at stepped
      next =>
        obtain ⟨object, -, rfl⟩ := Option.map_eq_some_iff.mp stepped
        simp [startConnect, modifyObject, setCall, Managing.asks]
      next => cases stepped
  | background adapter task =>
      obtain ⟨object, -, rest⟩ := Option.bind_eq_some_iff.mp stepped
      obtain ⟨after, -, rfl⟩ := Option.map_eq_some_iff.mp rest
      simp [ranTask, modifyObject, Managing.asks]
  | forward index =>
      simp only [step] at stepped
      split at stepped
      next =>
        split at stepped
        next =>
          split at stepped
          next => cases stepped
          next =>
            cases stepped
            rfl
        next =>
          cases stepped
          rfl
        next =>
          cases stepped
          rfl
        next => cases stepped
      next => cases stepped
  | suspend index =>
      simp only [step] at stepped
      split at stepped
      next =>
        split at stepped
        next =>
          cases stepped
          rfl
        next => cases stepped
      next => cases stepped

theorem eq_of_begin {call new : ManagerCall} (same : next.calls = state.calls ++ [new])
    (begun : next = state.begin call) : call = new := by
  subst begun
  exact List.singleton_inj.mp (List.append_cancel_left same)

theorem perform_of_rejected (owned : state.Owned) {call : ManagerCall}
    (stepped : state.step action = some next) (begun : next = state.begin call)
    (failed : call.failed = true) :
    ∃ operation error, action.asks = some operation ∧ call.decision = some (.error error) ∧
      operation.perform state.accounts = (state.accounts, .error error) := by
  have contains := contains_accounts owned
  cases action with
  | addAdapter name config clientError =>
      simp only [step] at stepped
      split at stepped
      next there =>
        cases stepped
        cases eq_of_begin rfl begun
        exact ⟨_, _, rfl, rfl, by simp [ManagerOperation.perform, contains, there]⟩
      next absent =>
        split at stepped
        next =>
          cases stepped
          cases eq_of_begin rfl begun
          cases failed
        next error refused =>
          cases stepped
          cases eq_of_begin rfl begun
          exact ⟨_, _, rfl, rfl, by simp [ManagerOperation.perform, contains, absent, refused]⟩
  | removeAdapter name =>
      simp only [step] at stepped
      split at stepped
      next =>
        cases stepped
        cases eq_of_begin rfl begun
        cases failed
      next absent =>
        cases stepped
        cases eq_of_begin rfl begun
        exact ⟨_, _, rfl, rfl, by
          simp [ManagerOperation.perform, not_contains_of_live owned absent]⟩
  | reconnectAdapter name =>
      simp only [step] at stepped
      split at stepped
      next =>
        cases stepped
        cases eq_of_begin rfl begun
        cases failed
      next absent =>
        cases stepped
        cases eq_of_begin rfl begun
        exact ⟨_, _, rfl, rfl, by
          simp [ManagerOperation.perform, not_contains_of_live owned absent]⟩
  | register index | insert index | disconnectRemoved index | unregister index
  | disconnectHeld index | connectHeld index | finishReconnect index
  | background adapter task | forward forwarder | suspend forwarder =>
      have length := calls_length_step stepped
      subst begun
      simp [begin, Managing.asks] at length

/-- The calls have the numbers of the actions that began them, and an addition on
its way inserts the adapter that it was asked for. -/
structure Tracked (past : List Managing) (state : AdapterManager) : Prop where
  owned : state.Owned
  consistent : state.Consistent
  numbered : (managerCalls.operations past).length = state.calls.length
  asked : ∀ call name identity, state.liveMap.adding.get call = some (name, identity) →
    ∃ config clientError object,
      (managerCalls.operations past)[call]? = some (.addAdapter name config clientError) ∧
        AdapterObject.create name config clientError = .ok object ∧ object.identity = identity

theorem operations_concat (past : List Managing) (action : Managing) :
    managerCalls.operations (past ++ [action]) =
      managerCalls.operations past ++ action.asks.toList := by
  rw [Calls.operations, Calls.operations, List.filterMap_append]
  cases asked : action.asks <;> simp [managerCalls, asked]

theorem Tracked.begun {past : List Managing} (tracked : Tracked past state)
    {operation : ManagerOperation} (asks : action.asks = some operation) :
    (managerCalls.operations (past ++ [action]))[state.calls.length]? = some operation := by
  rw [operations_concat, asks, ← tracked.numbered]
  exact List.getElem?_concat_length

theorem Tracked.earlier {past : List Managing} {call : Nat} {operation : ManagerOperation}
    (asked : (managerCalls.operations past)[call]? = some operation) :
    (managerCalls.operations (past ++ [action]))[call]? = some operation := by
  rw [operations_concat, List.getElem?_append_left (List.getElem?_eq_some_iff.mp asked).1, asked]

/-- A step lets at most one call take effect on the accounts. -/
theorem takesEffect_step {past : List Managing} (tracked : Tracked past state)
    (stepped : state.step action = some next) :
    Calls.TakesEffect ManagerOperation.perform (managerCalls.operations (past ++ [action]))
      state.decisions next.decisions state.accounts next.accounts := by
  have steps := steps_of_step stepped
  have keeps : state.KeepsIdentities next := keepsIdentities_steps steps
  have owned := tracked.owned
  cases steps with
  | rejected _ call failed =>
      obtain ⟨operation, error, asks, decided, performed⟩ :=
        perform_of_rejected owned stepped rfl failed
      refine .inr ⟨_, operation, tracked.begun asks, decisions_pending, ?_, ?_⟩
      · rw [performed]
        exact decisions_begin decided rfl
      · rw [performed]
        exact accounts_congr owned keeps rfl
  | @startedAdd name config clientError object absent created =>
      refine .inl ⟨Table.ofList_concat _ _ rfl, ?_⟩
      rw [accounts, liveMap_startAdd owned keeps]
      rfl
  | @insertedAdded index name adapter channel found =>
      have held : state.custody.get (.inr index) = some adapter :=
        Option.bind_eq_some_iff.mpr ⟨_, found, rfl⟩
      obtain ⟨identity, made⟩ : ∃ identity, state.identityAt adapter = some identity :=
        ⟨_, congrArg _ (List.getElem?_eq_getElem (owned.made held))⟩
      have pending : state.liveMap.adding.get index = some (name, identity) := by
        simp [liveMap, Table.get_filterMap, Table.get_ofList, found, ManagerCall.adds, addedAt,
          made]
      obtain ⟨config, clientError, object, asked, created, rfl⟩ := tracked.asked _ _ _ pending
      have adding : state.registry.adding.get index = some (name, some adapter) := by
        simp [registry, Table.get_ofList, found, ManagerCall.addition]
      have absent : state.live.get name = none :=
        Option.map_eq_none_iff.mp (tracked.consistent.sound.absent adding)
      have performed : ManagerOperation.perform state.accounts
          (.addAdapter name config clientError) =
            (state.accounts.insert name object.identity, .ok ()) := by
        simp [ManagerOperation.perform, not_contains_of_live owned absent, created]
      refine .inr ⟨index, _, Tracked.earlier asked, ?_, ?_, ?_⟩
      · simp [decisions, Table.get_ofList, found, ManagerCall.decision]
      · rw [performed]
        exact Table.ofList_modify_insert _ found rfl
      · rw [performed, accounts, liveMap_insertAdded owned found made keeps]
        rfl
  | @tookLive name entry found =>
      have performed : ManagerOperation.perform state.accounts (.removeAdapter name) =
          (state.accounts.remove name, .ok ()) := by
        simp [ManagerOperation.perform, contains_of_live owned found]
      refine .inr ⟨_, _, tracked.begun rfl, decisions_pending, ?_, ?_⟩
      · rw [performed]
        exact decisions_begin rfl rfl
      · rw [performed, accounts, liveMap_takeLive owned keeps]
        rfl
  | @lookedUp name entry found =>
      have performed : ManagerOperation.perform state.accounts (.reconnectAdapter name) =
          (state.accounts, .ok ()) := by
        simp [ManagerOperation.perform, contains_of_live owned found]
      refine .inr ⟨_, _, tracked.begun rfl, decisions_pending, ?_, ?_⟩
      · rw [performed]
        exact decisions_begin rfl rfl
      · rw [performed]
        exact accounts_congr owned keeps rfl
  | registeredAdded found | disconnectedRemoved found | unregisteredTaken found
  | disconnectedHeld found | startedConnect found =>
      exact .inl ⟨decisions_setCall found rfl rfl, accounts_congr owned keeps rfl⟩
  | storedForwarder found =>
      exact .inl ⟨decisions_setCall found rfl rfl,
        accounts_congr owned keeps (liveAdapters_storeForwarder _ _ _)⟩
  | ran | receivedEvent | publishedEvent | suspended =>
      exact .inl ⟨rfl, accounts_congr owned keeps rfl⟩

theorem tracked_step {past : List Managing} (tracked : Tracked past state)
    (sole : state.SoleAdd action) (stepped : state.step action = some next) :
    Tracked (past ++ [action]) next := by
  have steps := steps_of_step stepped
  have keeps : state.KeepsIdentities next := keepsIdentities_steps steps
  have owned := tracked.owned
  refine ⟨owned_steps owned steps, consistent_step tracked.consistent sole stepped, ?_, ?_⟩
  · rw [operations_concat, List.length_append, tracked.numbered, calls_length_step stepped]
  intro call name identity pending
  have before (there : state.liveMap.adding.get call = some (name, identity)) :
      ∃ config clientError object,
        (managerCalls.operations (past ++ [action]))[call]? =
            some (.addAdapter name config clientError) ∧
          AdapterObject.create name config clientError = .ok object ∧
            object.identity = identity := by
    obtain ⟨config, clientError, object, asked, made⟩ := tracked.asked call name identity there
    exact ⟨config, clientError, object, Tracked.earlier asked, made⟩
  have unchanged (same : Table.ofList ManagerCall.adds next.calls =
      Table.ofList ManagerCall.adds state.calls) :
      state.liveMap.adding.get call = some (name, identity) := by
    rw [← adding_of_keeps owned keeps, ← same]
    exact pending
  cases steps with
  | rejected _ _ failed =>
      exact before (unchanged (Table.ofList_concat _ _ (ManagerCall.adds_of_failed failed)))
  | @startedAdd other config clientError object absent created =>
      rw [liveMap_startAdd owned keeps] at pending
      rcases (Table.get_insert_eq_some_iff _ _ _ _ _).mp pending with ⟨rfl, same⟩ | ⟨-, there⟩
      · cases same
        exact ⟨config, clientError, object, tracked.begun rfl, created, rfl⟩
      · exact before there
  | @insertedAdded index other adapter channel found =>
      have held : state.custody.get (.inr index) = some adapter :=
        Option.bind_eq_some_iff.mpr ⟨_, found, rfl⟩
      obtain ⟨inserted, made⟩ : ∃ identity, state.identityAt adapter = some identity :=
        ⟨_, congrArg _ (List.getElem?_eq_getElem (owned.made held))⟩
      rw [liveMap_insertAdded owned found made keeps] at pending
      exact before ((Table.get_remove_eq_some_iff _ _ _ _).mp pending).2
  | tookLive | lookedUp => exact before (unchanged (Table.ofList_concat _ _ rfl))
  | registeredAdded found | disconnectedRemoved found | unregisteredTaken found
  | disconnectedHeld found | startedConnect found | storedForwarder found =>
      exact before (unchanged (adds_setCall found rfl))
  | ran | receivedEvent | publishedEvent | suspended => exact before (unchanged rfl)

theorem decision_of_result (state : AdapterManager) (call : Nat)
    (outcome : Except GatewayError Unit)
    (returned : (managerCalls.results state).get call = some outcome) :
    state.decisions.get call = some outcome := by
  obtain ⟨found, position, result⟩ := Option.bind_eq_some_iff.mp returned
  refine Option.bind_eq_some_iff.mpr ⟨found, position, ?_⟩
  unfold ManagerCall.result at result
  split at result
  next => exact result
  next => cases result

/-- The listed adapters of a name are those of its account when no call is on its way. -/
theorem Consistent.listed_accounts (consistent : state.Consistent) (atRest : state.AtRest)
    (name : String) :
    (state.listed name).filterMap state.identityAt = (state.accounts.get name).toList := by
  have there : state.accounts.get name = (state.liveAdapters.get name).bind state.identityAt :=
    Table.get_filterMap _ _ _
  rw [consistent.agrees atRest name, there]
  change _ = (((state.live.get name).map LiveAdapter.adapter).bind state.identityAt).toList
  cases (state.live.get name).map LiveAdapter.adapter with
  | none => rfl
  | some adapter =>
      cases found : state.identityAt adapter <;> simp [found]

/-- In every run in which no two additions of a name overlap, the calls of the
manager are linearizable, and at rest the router lists what is in the table. -/
theorem linearizable {start : AdapterManager} (owned : start.Owned)
    (consistent : start.Consistent) (idle : start.calls = []) {actions : List Managing}
    (sole : machine.Admits SoleAdd start actions) :
    managerCalls.Linearizable ManagerOperation.perform accounts start actions ∧
      ∀ final ∈ machine.run start actions, final.AtRest → ∀ name,
        (final.listed name).filterMap final.identityAt = (final.accounts.get name).toList := by
  have undecided : start.decisions = .empty := by
    rw [decisions, idle]
    rfl
  have begins : Tracked [] start := by
    refine ⟨owned, consistent, by rw [idle]; rfl, ?_⟩
    intro call name identity pending
    simp [liveMap, Table.get_filterMap, Table.get_ofList, idle] at pending
  refine ⟨Calls.linearizable_of_takesEffect
    (fun _ _ _ _ tracked allowed stepped => tracked_step tracked allowed stepped)
    (fun _ _ _ _ tracked _ stepped => takesEffect_step tracked stepped)
    decision_of_result undecided begins sole, ?_⟩
  intro final reached atRest name
  have consistentFinal : final.Consistent := machine.run_of_admits
    (fun _ _ _ held allowed stepped => consistent_step held allowed stepped)
    consistent sole reached
  exact consistentFinal.listed_accounts atRest name

theorem linearizable_replaced :
    managerCalls.Linearizable ManagerOperation.perform accounts new replaced ∧
      ∃ final, machine.run new replaced = some final ∧
        (final.accounts.get "bot").toList = [⟨"bot", "lagrange", "ws://localhost", none⟩] := by
  have sole : machine.Admits SoleAdd new replaced := by decide
  obtain ⟨explained, listed⟩ := linearizable new_owned new_consistent rfl sole
  refine ⟨explained, _, rfl, ?_⟩
  rw [← listed _ rfl (by decide)]
  rfl

theorem perform_added_twice {initial : Table String Identity} {name : String}
    {config other : BackendConfig} {clientError otherError : Option String}
    (added : (ManagerOperation.perform initial (.addAdapter name config clientError)).2 = .ok ()) :
    (ManagerOperation.perform
        (ManagerOperation.perform initial (.addAdapter name config clientError)).1
      (.addAdapter name other otherError)).2 ≠ .ok () := by
  have there : (ManagerOperation.perform initial
      (.addAdapter name config clientError)).1.contains name = true := by
    simp only [ManagerOperation.perform] at added ⊢
    split at added
    next => cases added
    next absent =>
      rw [if_neg absent]
      split at added
      next => simp [Table.contains]
      next => cases added
  rw [ManagerOperation.perform, if_pos there]
  exact fun equal => by cases equal

/-- Two additions of one name that overlap are not like any two after each other. -/
theorem addedTwice_not_linearizable :
    ¬ managerCalls.Linearizable ManagerOperation.perform accounts new addedTwice := by
  intro linearizable
  obtain ⟨results, order, ⟨-, listed, sequential⟩, returned, -⟩ := linearizable _ rfl
  have first : results.get 0 = some (.ok ()) := returned 0 _ rfl
  have second : results.get 1 = some (.ok ()) := returned 1 _ rfl
  have asked (call : Nat) (operation : ManagerOperation)
      (found : (managerCalls.operations addedTwice)[call]? = some operation) :
      operation = .addAdapter "bot" ⟨"official", "http://localhost"⟩ none ∧
        results.get call = some (.ok ()) := by
    match call with
    | 0 => exact ⟨(Option.some.inj found).symm, first⟩
    | 1 => exact ⟨(Option.some.inj found).symm, second⟩
    | _ + 2 => cases found
  have hasFirst : 0 ∈ order := (listed 0).mpr (by rw [first]; rfl)
  have hasSecond : 1 ∈ order := (listed 1).mpr (by rw [second]; rfl)
  match order, sequential with
  | [], _ => cases hasFirst
  | [only], _ =>
      rw [List.mem_singleton] at hasFirst hasSecond
      omega
  | _ :: _ :: _, ⟨_, askedFirst, resultFirst, _, askedSecond, resultSecond, _⟩ =>
      obtain ⟨rfl, okFirst⟩ := asked _ _ askedFirst
      obtain ⟨rfl, okSecond⟩ := asked _ _ askedSecond
      rw [okFirst, Option.some.injEq] at resultFirst
      rw [okSecond, Option.some.injEq] at resultSecond
      exact perform_added_twice resultFirst.symm resultSecond.symm

end AdapterManager

end Ferroq.Gateway
