import Ferroq.Gateway.Router
import Ferroq.Library.Machine

/-!
# The periodic refresher

Every tick of the refresher takes one snapshot of the router's names and then,
adapter by adapter, writes each known account into the routing table at the
adapter's position in that snapshot.  Between two writes it awaits a health
check, so that registrations and removals may land there.

A write is harmless as long as the snapshot still gives the position at which
the adapter is registered.
-/

namespace Ferroq.Gateway

open Ferroq.Core
open Ferroq.Library

variable {Adapter : Type}

/-- The router together with the progress of the refresher: the names of the
running tick's snapshot and the adapters it has still to visit. -/
structure Refresher (Adapter : Type) where
  router : ApiRouter Adapter
  routerNames : List String
  pending : List Adapter

namespace Refresher

def start : Refresher Adapter :=
  { router := .new, routerNames := [], pending := [] }

inductive Action (Adapter : Type) where
  | register (adapter : Adapter)
  | unregister (name : String)
  /-- A tick fires with the adapters the manager lists at that moment. -/
  | tick (currentAdapters : List Adapter)
  /-- The running tick visits its next adapter. -/
  | visit

/-- The position the running tick has for an adapter. -/
def snapshotIndex (info : Adapter → AdapterInfo) (refresher : Refresher Adapter)
    (adapter : Adapter) : Option Nat :=
  refresher.routerNames.findIdx? (· == (info adapter).name)

def visited (info : Adapter → AdapterInfo) (refresher : Refresher Adapter)
    (adapter : Adapter) : ApiRouter Adapter :=
  match (info adapter).selfId, refresher.snapshotIndex info adapter with
  | some selfId, some index => refresher.router.associateSelfId selfId index
  | _, _ => refresher.router

def step (info : Adapter → AdapterInfo) (refresher : Refresher Adapter) :
    Action Adapter → Option (Refresher Adapter)
  | .register adapter =>
      some { refresher with router := refresher.router.register info adapter }
  | .unregister name =>
      some { refresher with router := (refresher.router.unregister info name).2 }
  | .tick currentAdapters =>
      if refresher.pending.isEmpty then
        some { refresher with
          routerNames := refresher.router.listNames info
          pending := currentAdapters }
      else none
  | .visit =>
      match refresher.pending with
      | [] => none
      | adapter :: rest =>
          some { refresher with router := refresher.visited info adapter, pending := rest }

def machine (info : Adapter → AdapterInfo) : Machine (Refresher Adapter) (Action Adapter) :=
  { step := step info }

/-- Requests for an account are never misrouted: they reach the registered
adapter of the account when the table has an entry for it, an entry never
leads to another account's adapter, and no position is past the list's end. -/
def RoutesSoundly (info : Adapter → AdapterInfo) (router : ApiRouter Adapter) : Prop :=
  ∀ request selfId, request.selfId = some selfId →
    (∀ adapter ∈ router.adapters, (info adapter).selfId = some selfId →
      router.routingTable.contains selfId = true →
      router.routeTarget info request = .ok (adapter, (info adapter).name)) ∧
    (∀ adapter name, router.routingTable.contains selfId = true →
      router.routeTarget info request = .ok (adapter, name) →
      (info adapter).selfId = some selfId) ∧
    ∀ index, router.routeTarget info request ≠ .error (ApiRouter.outOfBounds index)

/-- A visit is up to date when the snapshot position of the visited adapter is
the position at which that adapter is now registered. -/
def UpToDate (info : Adapter → AdapterInfo) (refresher : Refresher Adapter) :
    Action Adapter → Prop
  | .visit => ∀ adapter ∈ refresher.pending.head?,
      ∀ index ∈ refresher.snapshotIndex info adapter,
        refresher.router.adapters[index]? = some adapter
  | _ => True

instance [DecidableEq Adapter] (info : Adapter → AdapterInfo)
    (refresher : Refresher Adapter) (action : Action Adapter) :
    Decidable (refresher.UpToDate info action) := by
  cases action <;> unfold UpToDate <;> infer_instance

section Soundness

variable {info : Adapter → AdapterInfo}

theorem visited_coherent {refresher : Refresher Adapter} {adapter : Adapter}
    (coherent : refresher.router.Coherent info)
    (current : ∀ index, refresher.snapshotIndex info adapter = some index →
      refresher.router.adapters[index]? = some adapter) :
    (refresher.visited info adapter).Coherent info := by
  unfold visited
  split
  next selfId index reports position =>
    exact ApiRouter.associateSelfId_coherent coherent (current index position) reports
  next => exact coherent

theorem step_coherent (refresher : Refresher Adapter) (action : Action Adapter)
    (next : Refresher Adapter) (coherent : refresher.router.Coherent info)
    (current : refresher.UpToDate info action)
    (stepped : (machine info).step refresher action = some next) :
    next.router.Coherent info := by
  cases action with
  | register adapter =>
      cases stepped
      exact ApiRouter.register_coherent coherent adapter
  | unregister name =>
      cases stepped
      exact ApiRouter.unregister_coherent coherent name
  | tick currentAdapters =>
      simp only [machine, step] at stepped
      split at stepped
      · cases stepped
        exact coherent
      · cases stepped
  | visit =>
      simp only [machine, step] at stepped
      split at stepped
      next => cases stepped
      next adapter rest waiting =>
        cases stepped
        exact visited_coherent coherent fun index position =>
          current adapter (by rw [waiting]; rfl) index position

theorem routesSoundly_of_coherent
    (distinct : ∀ left right selfId, (info left).selfId = some selfId →
      (info right).selfId = some selfId → left = right)
    {router : ApiRouter Adapter} (coherent : router.Coherent info) :
    RoutesSoundly info router := by
  intro request selfId requested
  refine ⟨?_, ?_, fun index => coherent.routeTarget_ne_outOfBounds request index⟩
  · intro adapter _ reports known
    rcases (Table.contains_eq_true_iff _ _).mp known with ⟨index, entry⟩
    rcases coherent.routeTarget_of_entry requested entry with ⟨other, target, others⟩
    rw [target, distinct other adapter selfId others reports]
  · intro adapter name known target
    rcases (Table.contains_eq_true_iff _ _).mp known with ⟨index, entry⟩
    rcases coherent.routeTarget_of_entry requested entry with ⟨other, reached, reports⟩
    rw [reached] at target
    cases target
    exact reports

/-- A run whose visits are all up to date routes soundly in every state. -/
theorem routesSoundly_throughout
    (distinct : ∀ left right selfId, (info left).selfId = some selfId →
      (info right).selfId = some selfId → left = right)
    (actions : List (Action Adapter))
    (current : (machine info).Admits (UpToDate info) start actions) :
    (machine info).Throughout (fun refresher => RoutesSoundly info refresher.router)
      start actions := by
  have coherentStart : start.router.Coherent info := ApiRouter.new_coherent
  apply (machine info).throughout_of_admits step_coherent _ coherentStart current
  intro refresher coherent
  exact routesSoundly_of_coherent distinct coherent

/-- Into a router that is not empty, a visit that is out of date breaks the
routing at once. -/
theorem not_routesSoundly_of_stale
    (distinct : ∀ left right selfId, (info left).selfId = some selfId →
      (info right).selfId = some selfId → left = right)
    {refresher : Refresher Adapter} {adapter : Adapter} {index : Nat} {selfId : Int64}
    (inhabited : refresher.router.adapters ≠ [])
    (reports : (info adapter).selfId = some selfId)
    (position : refresher.snapshotIndex info adapter = some index)
    (stale : refresher.router.adapters[index]? ≠ some adapter) :
    ¬ RoutesSoundly info (refresher.visited info adapter) := by
  intro sound
  have written : refresher.visited info adapter =
      refresher.router.associateSelfId selfId index := by
    simp [visited, reports, position]
  rw [written] at sound
  let request : ApiRequest := { action := "", selfId := some selfId }
  rcases sound request selfId rfl with ⟨_, own, inside⟩
  have entry : (refresher.router.associateSelfId selfId index).routingTable.get selfId =
      some index := Table.get_insert_self _ _ _
  cases reached : refresher.router.adapters[index]? with
  | none =>
      apply inside index
      simp [ApiRouter.routeTarget, request, entry, inhabited, reached]
  | some other =>
      have target : (refresher.router.associateSelfId selfId index).routeTarget info request =
          .ok (other, (info other).name) := by
        simp [ApiRouter.routeTarget, request, entry, inhabited, reached]
      have same := own other (info other).name
        ((Table.contains_eq_true_iff _ _).mpr ⟨index, entry⟩) target
      exact stale (by rw [reached, distinct other adapter selfId same reports])

end Soundness

def threeAccounts (account : Fin 3) : AdapterInfo :=
  { name := s!"bot-{account.val}"
    backendType := "lagrange"
    url := "ws://127.0.0.1:8081"
    state := .connected
    selfId := some (Int64.ofNat (account.val + 1)) }

theorem threeAccounts_selfId_injective (left right : Fin 3)
    (same : (threeAccounts left).selfId = (threeAccounts right).selfId) : left = right := by
  revert left right
  decide

theorem routesSoundly_throughout_threeAccounts :
    (machine threeAccounts).Throughout
      (fun refresher => RoutesSoundly threeAccounts refresher.router) start
      [.register 0, .register 1, .tick [1, 0], .visit, .register 2, .visit] :=
  routesSoundly_throughout
    (fun left right _ reports reports' =>
      threeAccounts_selfId_injective left right (reports.trans reports'.symm))
    _ (by decide)

/-- A removal between two visits of one tick: the later visits write the
positions of the old snapshot. -/
def removalDuringTick : List (Action (Fin 3)) :=
  [.register 0, .register 1, .register 2, .tick [0, 1, 2], .visit,
    .unregister "bot-0", .visit, .visit]

/-- After such a removal a request for the second account goes to the third
account's adapter, and one for the third account is out of bounds. -/
theorem removalDuringTick_misroutes :
    (∀ left right, (threeAccounts left).name = (threeAccounts right).name → left = right) ∧
    (∀ left right, (threeAccounts left).selfId = (threeAccounts right).selfId → left = right) ∧
    ∃ refresher, (machine threeAccounts).run start removalDuringTick = some refresher ∧
      refresher.router.adapters = [1, 2] ∧ (threeAccounts 1).selfId = some 2 ∧
      refresher.router.routingTable.contains 2 = true ∧
      refresher.router.routeTarget threeAccounts
          { action := "send_group_msg", selfId := some 2 } = .ok (2, "bot-2") ∧
      refresher.router.routeTarget threeAccounts
          { action := "send_group_msg", selfId := some 3 } =
        .error (.internal "adapter index 2 out of bounds") :=
  ⟨by decide, threeAccounts_selfId_injective, _, rfl, rfl, rfl, rfl, rfl, rfl⟩

end Refresher

end Ferroq.Gateway
