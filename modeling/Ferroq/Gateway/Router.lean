import Ferroq.Core.Adapter
import Ferroq.Library.Table
import Mathlib.Data.List.Induction

/-!
# The API router

The router keeps its adapters in registration order and a table from account
identifiers to positions in that order.  Adapters are shared objects: what one
reports is given by `info`, which every operation reads.
-/

namespace Ferroq.Gateway

open Ferroq.Core
open Ferroq.Library

variable {Adapter : Type}

structure ApiRouter (Adapter : Type) where
  routingTable : Table Int64 Nat
  adapters : List Adapter
  defaultIndex : Option Nat

namespace ApiRouter

def new : ApiRouter Adapter :=
  { routingTable := .empty, adapters := [], defaultIndex := none }

/-- Append an adapter; the first one becomes the default. -/
def register (info : Adapter → AdapterInfo) (router : ApiRouter Adapter)
    (adapter : Adapter) : ApiRouter Adapter :=
  let index := router.adapters.length
  { routingTable :=
      match (info adapter).selfId with
      | some selfId => router.routingTable.insert selfId index
      | none => router.routingTable
    adapters := router.adapters ++ [adapter]
    defaultIndex := some (router.defaultIndex.getD index) }

def associateSelfId (router : ApiRouter Adapter) (selfId : Int64) (adapterIndex : Nat) :
    ApiRouter Adapter :=
  { router with routingTable := router.routingTable.insert selfId adapterIndex }

def listNames (info : Adapter → AdapterInfo) (router : ApiRouter Adapter) : List String :=
  router.adapters.map fun adapter => (info adapter).name

def rebuildTable (info : Adapter → AdapterInfo) (adapters : List Adapter) :
    Table Int64 Nat :=
  adapters.zipIdx.foldl (fun table entry =>
    match (info entry.1).selfId with
    | some selfId => table.insert selfId entry.2
    | none => table) .empty

/-- Remove the first adapter of a name and rebuild the table, since the later
positions have shifted.  An unknown name leaves the router alone. -/
def unregister (info : Adapter → AdapterInfo) (router : ApiRouter Adapter) (name : String) :
    Option Adapter × ApiRouter Adapter :=
  match router.adapters.findIdx? (fun adapter => (info adapter).name == name) with
  | none => (none, router)
  | some position =>
      let adapters := router.adapters.eraseIdx position
      (router.adapters[position]?,
        { routingTable := rebuildTable info adapters
          adapters := adapters
          defaultIndex := if adapters.isEmpty then none else some 0 })

def noAdapters : GatewayError := .internal "no adapters registered"

def outOfBounds (index : Nat) : GatewayError :=
  .internal s!"adapter index {index} out of bounds"

def routeTarget (info : Adapter → AdapterInfo) (router : ApiRouter Adapter)
    (request : ApiRequest) : Except GatewayError (Adapter × String) :=
  if router.adapters.isEmpty then .error noAdapters
  else
    let index :=
      match request.selfId with
      | some selfId =>
          match router.routingTable.get selfId with
          | some index => index
          | none => router.defaultIndex.getD 0
      | none => router.defaultIndex.getD 0
    match router.adapters[index]? with
    | some adapter => .ok (adapter, (info adapter).name)
    | none => .error (outOfBounds index)

def routeNamed (info : Adapter → AdapterInfo)
    (callApi : Adapter → ApiRequest → Except GatewayError ApiResponse)
    (router : ApiRouter Adapter) (request : ApiRequest) :
    Except GatewayError (ApiResponse × String) := do
  let (adapter, name) ← routeTarget info router request
  let response ← callApi adapter request
  return (response, name)

variable {info : Adapter → AdapterInfo}

@[simp]
theorem register_adapters (router : ApiRouter Adapter) (adapter : Adapter) :
    (router.register info adapter).adapters = router.adapters ++ [adapter] := rfl

@[simp]
theorem associateSelfId_adapters (router : ApiRouter Adapter) (selfId : Int64) (index : Nat) :
    (router.associateSelfId selfId index).adapters = router.adapters := rfl

theorem unregister_adapters (router : ApiRouter Adapter) (name : String) :
    (router.unregister info name).2.adapters =
      router.adapters.eraseP fun adapter => (info adapter).name == name := by
  rw [List.eraseP_eq_eraseIdx]
  unfold unregister
  cases router.adapters.findIdx? fun adapter => (info adapter).name == name <;> rfl

theorem rebuildTable_concat (adapters : List Adapter) (adapter : Adapter) :
    rebuildTable info (adapters ++ [adapter]) =
      match (info adapter).selfId with
      | some selfId => (rebuildTable info adapters).insert selfId adapters.length
      | none => rebuildTable info adapters := by
  simp [rebuildTable, List.zipIdx_append]

theorem get_rebuildTable (adapters : List Adapter) {selfId : Int64} {index : Nat}
    (entry : (rebuildTable info adapters).get selfId = some index) :
    ∃ adapter, adapters[index]? = some adapter ∧ (info adapter).selfId = some selfId := by
  induction adapters using List.reverseRecOn with
  | nil => simp [rebuildTable] at entry
  | append_singleton rest last inductionHypothesis =>
      have earlier : (rebuildTable info rest).get selfId = some index →
          ∃ adapter, (rest ++ [last])[index]? = some adapter ∧
            (info adapter).selfId = some selfId := by
        intro found
        rcases inductionHypothesis found with ⟨adapter, position, reports⟩
        have inside := (List.getElem?_eq_some_iff.mp position).1
        exact ⟨adapter, by rw [List.getElem?_append_left inside, position], reports⟩
      rw [rebuildTable_concat] at entry
      cases known : (info last).selfId with
      | none =>
          rw [known] at entry
          exact earlier entry
      | some account =>
          rw [known] at entry
          rcases (Table.get_insert_eq_some_iff _ _ _ _ _).mp entry with
            ⟨same, position⟩ | ⟨_, found⟩
          · subst same
            subst position
            exact ⟨last, by simp, known⟩
          · exact earlier found

theorem routeTarget_cases (router : ApiRouter Adapter) (request : ApiRequest) :
    router.adapters = [] ∨
      (∃ index, routeTarget info router request = .error (outOfBounds index)) ∨
      ∃ adapter ∈ router.adapters,
        routeTarget info router request = .ok (adapter, (info adapter).name) := by
  unfold routeTarget
  split
  next empty => exact Or.inl (List.isEmpty_iff.mp empty)
  next =>
    right
    extract_lets index
    cases position : router.adapters[index]? with
    | none => exact Or.inl ⟨index, rfl⟩
    | some adapter => exact Or.inr ⟨adapter, List.mem_of_getElem? position, rfl⟩

/-- The table only names positions of adapters that report the account, and
the default position is one of the list. -/
structure Coherent (info : Adapter → AdapterInfo) (router : ApiRouter Adapter) : Prop where
  entries : ∀ {selfId index}, router.routingTable.get selfId = some index →
    ∃ adapter, router.adapters[index]? = some adapter ∧ (info adapter).selfId = some selfId
  defaultInside : ∀ {index}, router.defaultIndex = some index →
    index < router.adapters.length

theorem new_coherent : Coherent info (new : ApiRouter Adapter) where
  entries found := by simp [new] at found
  defaultInside found := by simp [new] at found

theorem register_coherent {router : ApiRouter Adapter} (coherent : Coherent info router)
    (adapter : Adapter) : Coherent info (router.register info adapter) where
  entries := by
    intro selfId index found
    have earlier : router.routingTable.get selfId = some index →
        ∃ other, (router.adapters ++ [adapter])[index]? = some other ∧
          (info other).selfId = some selfId := by
      intro held
      rcases coherent.entries held with ⟨other, position, reports⟩
      have inside := (List.getElem?_eq_some_iff.mp position).1
      exact ⟨other, by rw [List.getElem?_append_left inside, position], reports⟩
    simp only [register] at found ⊢
    cases known : (info adapter).selfId with
    | none =>
        rw [known] at found
        exact earlier found
    | some account =>
        rw [known] at found
        rcases (Table.get_insert_eq_some_iff _ _ _ _ _).mp found with
          ⟨same, position⟩ | ⟨_, held⟩
        · subst same
          subst position
          exact ⟨adapter, by simp, known⟩
        · exact earlier held
  defaultInside := by
    intro index found
    simp only [register, Option.some.injEq] at found
    simp only [register_adapters, List.length_append, List.length_singleton]
    cases held : router.defaultIndex with
    | none => simp [held] at found; omega
    | some default =>
        have inside := coherent.defaultInside held
        simp [held] at found
        omega

theorem unregister_coherent {router : ApiRouter Adapter} (coherent : Coherent info router)
    (name : String) : Coherent info (router.unregister info name).2 := by
  unfold unregister
  cases router.adapters.findIdx? (fun adapter => (info adapter).name == name) with
  | none => exact coherent
  | some position =>
      refine ⟨fun found => get_rebuildTable _ found, ?_⟩
      intro index found
      change index < (router.adapters.eraseIdx position).length
      cases rest : router.adapters.eraseIdx position with
      | nil => simp [rest] at found
      | cons head tail =>
          simp [rest] at found
          simp [← found]

/-- An association is harmless when the position it writes is the one at which
an adapter reporting the account now sits. -/
theorem associateSelfId_coherent {router : ApiRouter Adapter} (coherent : Coherent info router)
    {selfId : Int64} {index : Nat} {adapter : Adapter}
    (position : router.adapters[index]? = some adapter)
    (reports : (info adapter).selfId = some selfId) :
    Coherent info (router.associateSelfId selfId index) where
  entries := by
    intro other found entry
    rcases (Table.get_insert_eq_some_iff _ _ _ _ _).mp entry with
      ⟨same, written⟩ | ⟨_, held⟩
    · subst same
      subst written
      exact ⟨adapter, position, reports⟩
    · exact coherent.entries held
  defaultInside := coherent.defaultInside

theorem Coherent.routeTarget_of_entry {router : ApiRouter Adapter}
    (coherent : Coherent info router) {request : ApiRequest} {selfId : Int64} {index : Nat}
    (requested : request.selfId = some selfId)
    (entry : router.routingTable.get selfId = some index) :
    ∃ adapter, routeTarget info router request = .ok (adapter, (info adapter).name) ∧
      (info adapter).selfId = some selfId := by
  rcases coherent.entries entry with ⟨adapter, position, reports⟩
  refine ⟨adapter, ?_, reports⟩
  have inhabited : router.adapters.isEmpty = false := by
    cases adapters : router.adapters with
    | nil => simp [adapters] at position
    | cons => rfl
  simp [routeTarget, inhabited, requested, entry, position]

theorem Coherent.routeTarget_ne_outOfBounds {router : ApiRouter Adapter}
    (coherent : Coherent info router) (request : ApiRequest) (index : Nat) :
    routeTarget info router request ≠ .error (outOfBounds index) := by
  unfold routeTarget
  split
  next => simp [noAdapters, outOfBounds, String.ext_iff, toString]
  next inhabited =>
    have default : router.defaultIndex.getD 0 < router.adapters.length := by
      cases held : router.defaultIndex with
      | none =>
          simpa [List.isEmpty_iff, List.length_pos_iff] using inhabited
      | some position => exact coherent.defaultInside held
    have inside : (match request.selfId with
        | some selfId =>
            match router.routingTable.get selfId with
            | some index => index
            | none => router.defaultIndex.getD 0
        | none => router.defaultIndex.getD 0) < router.adapters.length := by
      split
      next selfId _ =>
        split
        next position entry =>
          rcases coherent.entries entry with ⟨adapter, found, _⟩
          exact (List.getElem?_eq_some_iff.mp found).1
        next => exact default
      next => exact default
    simp [List.getElem?_eq_getElem inside]

end ApiRouter

end Ferroq.Gateway
