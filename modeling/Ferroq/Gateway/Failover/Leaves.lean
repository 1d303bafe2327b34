import Ferroq.Core.Adapter
import Ferroq.Gateway.Failover
import Ferroq.Library.Attempt

/-!
# Failover over any adapters

The operations of a failover adapter, over a primary and a fallback that may be
adapters of any kind, failover adapters included.  An adapter may change whatever
surrounds it, the other adapter included.  However the failover adapters are
nested, the outermost one behaves as the backends at the leaves do in their
order.
-/

namespace Ferroq.Gateway

open Ferroq.Core
open Ferroq.Library

variable {World EventTx : Type}

/-- The operations of an adapter, in a world that they may change. -/
structure BackendAdapter (World EventTx : Type) where
  info : World → AdapterInfo
  connect : EventTx → Attempt World (Except GatewayError Unit)
  disconnect : Attempt World (Except GatewayError Unit)
  callApi : ApiRequest → Attempt World (Except GatewayError ApiResponse)
  healthCheck : Attempt World Bool

structure Failover (World EventTx : Type) where
  name : String
  primary : BackendAdapter World EventTx
  fallback : BackendAdapter World EventTx

namespace Failover

def info (adapter : Failover World EventTx) (world : World) : AdapterInfo :=
  let primaryInfo := adapter.primary.info world
  let fallbackInfo := adapter.fallback.info world
  { name := adapter.name
    backendType := s!"{primaryInfo.backendType}+{fallbackInfo.backendType}"
    url := primaryInfo.url
    state :=
      if primaryInfo.state = .connected ∨ fallbackInfo.state = .connected then .connected
      else primaryInfo.state
    selfId := primaryInfo.selfId.or fallbackInfo.selfId }

/-- Both sides connect; the primary's error is reported if neither can. -/
def connect (adapter : Failover World EventTx) (eventTx : EventTx) :
    Attempt World (Except GatewayError Unit) := fun world =>
  let (primaryResult, world) := adapter.primary.connect eventTx world
  let (fallbackResult, world) := adapter.fallback.connect eventTx world
  (match primaryResult, fallbackResult with
    | .ok (), _ => .ok ()
    | .error _, .ok () => .ok ()
    | .error error, .error _ => .error error, world)

def disconnect (adapter : Failover World EventTx) : Attempt World (Except GatewayError Unit) :=
  fun world =>
    let (first, world) := adapter.primary.disconnect world
    let (second, world) := adapter.fallback.disconnect world
    (match first with
      | .ok () => second
      | .error error => .error error, world)

def callApi (adapter : Failover World EventTx) (request : ApiRequest) :
    Attempt World (Except GatewayError ApiResponse) := fun world =>
  match adapter.primary.callApi request world with
  | (.ok response, world) => (.ok response, world)
  | (.error error, world) =>
      if isConnectionError error then adapter.fallback.callApi request world
      else (.error error, world)

def healthCheck (adapter : Failover World EventTx) : Attempt World Bool := fun world =>
  match adapter.primary.healthCheck world with
  | (true, world) => (true, world)
  | (false, world) => adapter.fallback.healthCheck world

def toAdapter (adapter : Failover World EventTx) : BackendAdapter World EventTx where
  info := adapter.info
  connect := adapter.connect
  disconnect := adapter.disconnect
  callApi := adapter.callApi
  healthCheck := adapter.healthCheck

end Failover

/-- Adapters put together by failover adapters. -/
inductive Nest (World EventTx : Type) where
  | leaf (adapter : BackendAdapter World EventTx)
  | failover (name : String) (primary fallback : Nest World EventTx)

namespace Nest

def adapter : Nest World EventTx → BackendAdapter World EventTx
  | leaf adapter => adapter
  | failover name primary fallback =>
      (Failover.mk name primary.adapter fallback.adapter).toAdapter

def leaves : Nest World EventTx → List (BackendAdapter World EventTx)
  | leaf adapter => [adapter]
  | failover _ primary fallback => primary.leaves ++ fallback.leaves

end Nest

/-- Anything but a connection error settles a call. -/
def settlesCall : Except GatewayError ApiResponse → Bool
  | .ok _ => true
  | .error error => !isConnectionError error

/-- One connection is enough; without any, the first error is reported. -/
structure Connects (results : List (Except GatewayError Unit))
    (result : Except GatewayError Unit) : Prop where
  ok_iff : result = .ok () ↔ .ok () ∈ results
  firstError : ∀ error, result = .error error → results.head? = some (.error error)

/-- Every disconnection has to succeed; otherwise the first error is reported. -/
structure Disconnects (results : List (Except GatewayError Unit))
    (result : Except GatewayError Unit) : Prop where
  ok_iff : result = .ok () ↔ ∀ other ∈ results, other = .ok ()
  firstError : ∀ error, result = .error error → ∃ before after,
    results = before ++ .error error :: after ∧ ∀ other ∈ before, other = .ok ()

/-- The report on an adapter, made of the reports on its backends. -/
structure Reports (reports : List AdapterInfo) (report : AdapterInfo) : Prop where
  backendType : report.backendType = "+".intercalate (reports.map AdapterInfo.backendType)
  url : reports.head?.map AdapterInfo.url = some report.url
  connected_iff : report.state = .connected ↔ ∃ other ∈ reports, other.state = .connected
  unconnected : report.state ≠ .connected →
    reports.head?.map AdapterInfo.state = some report.state
  selfId : report.selfId = reports.findSome? AdapterInfo.selfId

/-- An adapter behaves as some backends in their order.  A call or a health check
goes from one backend to the next until one settles it, whose result it has; every
backend is connected and disconnected. -/
structure StandsFor (adapter : BackendAdapter World EventTx)
    (backends : List (BackendAdapter World EventTx)) : Prop where
  info : ∀ world, Reports (backends.map fun backend => backend.info world) (adapter.info world)
  connect : ∀ eventTx world, ∃ results,
    Attempt.inTurn (backends.map fun backend => backend.connect eventTx) world =
        (results, (adapter.connect eventTx world).2) ∧
      Connects results (adapter.connect eventTx world).1
  disconnect : ∀ world, ∃ results,
    Attempt.inTurn (backends.map fun backend => backend.disconnect) world =
        (results, (adapter.disconnect world).2) ∧
      Disconnects results (adapter.disconnect world).1
  callApi : ∀ request, Attempt.ActsAs settlesCall (adapter.callApi request)
    (backends.map fun backend => backend.callApi request)
  healthCheck : Attempt.ActsAs id adapter.healthCheck
    (backends.map fun backend => backend.healthCheck)

theorem standsFor_self (adapter : BackendAdapter World EventTx) :
    StandsFor adapter [adapter] where
  info world :=
    { backendType := rfl
      url := rfl
      connected_iff := by simp
      unconnected := fun _ => rfl
      selfId := by cases found : (adapter.info world).selfId <;> simp [found] }
  connect eventTx world := by
    refine ⟨[(adapter.connect eventTx world).1], rfl, ?_, ?_⟩
    · rw [List.mem_singleton]
      exact eq_comm
    · intro error failed
      rw [failed]
      rfl
  disconnect world := by
    refine ⟨[(adapter.disconnect world).1], rfl, ?_, ?_⟩
    · simp
    · intro error failed
      exact ⟨[], [], by rw [failed]; rfl, by simp⟩
  callApi request := Attempt.actsAs_self settlesCall (adapter.callApi request)
  healthCheck := Attempt.actsAs_self id adapter.healthCheck

namespace Failover

section Sides

variable {adapter : Failover World EventTx} {first second : List (BackendAdapter World EventTx)}

theorem reports_info (primary : StandsFor adapter.primary first)
    (fallback : StandsFor adapter.fallback second) (world : World) :
    Reports ((first ++ second).map fun backend => backend.info world) (adapter.info world) := by
  have left := primary.info world
  have right := fallback.info world
  rw [List.map_append]
  generalize first.map (fun backend => backend.info world) = reports at left ⊢
  generalize second.map (fun backend => backend.info world) = others at right ⊢
  rcases reports with _ | ⟨report, reports⟩
  · cases left.url
  rcases others with _ | ⟨other, others⟩
  · cases right.url
  refine ⟨?_, left.url, ?_, ?_, ?_⟩
  · rw [List.map_append, String.intercalate_append_of_ne_nil (by simp) (by simp),
      ← left.backendType, ← right.backendType]
    rfl
  · have connected : (adapter.info world).state = .connected ↔
        (adapter.primary.info world).state = .connected ∨
          (adapter.fallback.info world).state = .connected := by
      simp only [info]
      split
      next either => exact iff_of_true rfl either
      next neither => exact ⟨.inl, fun either => absurd either neither⟩
    rw [connected, left.connected_iff, right.connected_iff]
    simp only [List.mem_append, or_and_right, exists_or]
  · intro unconnected
    simp only [info] at unconnected ⊢
    split at unconnected
    next => exact absurd rfl unconnected
    next neither =>
      rw [if_neg neither]
      exact left.unconnected unconnected
  · rw [List.findSome?_append, ← left.selfId, ← right.selfId]
    rfl

theorem connects (primary : StandsFor adapter.primary first)
    (fallback : StandsFor adapter.fallback second) (eventTx : EventTx) (world : World) :
    ∃ results,
      Attempt.inTurn ((first ++ second).map fun backend => backend.connect eventTx) world =
          (results, (adapter.connect eventTx world).2) ∧
        Connects results (adapter.connect eventTx world).1 := by
  obtain ⟨results, made, left⟩ := primary.connect eventTx world
  obtain ⟨others, madeNext, right⟩ :=
    fallback.connect eventTx (adapter.primary.connect eventTx world).2
  refine ⟨results ++ others, ?_, ?_⟩
  · rw [List.map_append, Attempt.inTurn_append, made, madeNext]
    rfl
  · simp only [connect]
    generalize (adapter.primary.connect eventTx world).1 = primaryResult at left
    generalize (adapter.fallback.connect eventTx (adapter.primary.connect eventTx world).2).1 =
      fallbackResult at right
    constructor
    · rw [List.mem_append, ← left.ok_iff, ← right.ok_iff]
      rcases primaryResult with _ | ⟨⟩ <;> rcases fallbackResult with _ | ⟨⟩ <;> simp
    · intro error failed
      have head : results.head? = some (.error error) := by
        apply left.firstError
        rcases primaryResult with _ | ⟨⟩ <;> rcases fallbackResult with _ | ⟨⟩ <;> simp_all
      rw [List.head?_append, head]
      rfl

theorem disconnects (primary : StandsFor adapter.primary first)
    (fallback : StandsFor adapter.fallback second) (world : World) :
    ∃ results,
      Attempt.inTurn ((first ++ second).map fun backend => backend.disconnect) world =
          (results, (adapter.disconnect world).2) ∧
        Disconnects results (adapter.disconnect world).1 := by
  obtain ⟨results, made, left⟩ := primary.disconnect world
  obtain ⟨others, madeNext, right⟩ := fallback.disconnect (adapter.primary.disconnect world).2
  refine ⟨results ++ others, ?_, ?_⟩
  · rw [List.map_append, Attempt.inTurn_append, made, madeNext]
    rfl
  · simp only [disconnect]
    generalize (adapter.primary.disconnect world).1 = firstResult at left
    generalize (adapter.fallback.disconnect (adapter.primary.disconnect world).2).1 =
      secondResult at right
    rcases firstResult with refused | ⟨⟩
    · constructor
      · have failed : ¬ ∀ other ∈ results, other = .ok () := by
          rw [← left.ok_iff]
          exact nofun
        simp only [reduceCtorEq, false_iff]
        intro all
        exact failed fun other listed => all other (List.mem_append_left _ listed)
      · rintro error ⟨⟩
        obtain ⟨before, after, rfl, fine⟩ := left.firstError refused rfl
        exact ⟨before, after ++ others, by simp, fine⟩
    · have allFine : ∀ other ∈ results, other = .ok () := left.ok_iff.mp rfl
      constructor
      · rw [right.ok_iff]
        constructor
        · intro rest other listed
          exact (List.mem_append.mp listed).elim (allFine other) (rest other)
        · exact fun all other listed => all other (List.mem_append_right _ listed)
      · intro error failed
        obtain ⟨before, after, rfl, fine⟩ := right.firstError error failed
        refine ⟨results ++ before, after, by simp, ?_⟩
        intro other listed
        exact (List.mem_append.mp listed).elim (allFine other) (fine other)

end Sides

theorem callApi_eq (adapter : Failover World EventTx) (request : ApiRequest) :
    adapter.callApi request =
      Attempt.orElse settlesCall (adapter.primary.callApi request)
        (adapter.fallback.callApi request) := by
  funext world
  unfold callApi Attempt.orElse
  rcases adapter.primary.callApi request world with ⟨error | response, next⟩
  · cases connection : isConnectionError error <;> simp [settlesCall, connection]
  · rfl

theorem healthCheck_eq (adapter : Failover World EventTx) :
    adapter.healthCheck =
      Attempt.orElse id adapter.primary.healthCheck adapter.fallback.healthCheck := by
  funext world
  unfold healthCheck Attempt.orElse
  rcases adapter.primary.healthCheck world with ⟨healthy, next⟩
  cases healthy <;> rfl

theorem standsFor (adapter : Failover World EventTx)
    {first second : List (BackendAdapter World EventTx)}
    (primary : StandsFor adapter.primary first) (fallback : StandsFor adapter.fallback second) :
    StandsFor adapter.toAdapter (first ++ second) where
  info := reports_info primary fallback
  connect := connects primary fallback
  disconnect := disconnects primary fallback
  callApi request := by
    rw [List.map_append]
    change Attempt.ActsAs settlesCall (adapter.callApi request) _
    rw [callApi_eq]
    exact (primary.callApi request).orElse (fallback.callApi request)
  healthCheck := by
    rw [List.map_append]
    change Attempt.ActsAs id adapter.healthCheck _
    rw [healthCheck_eq]
    exact primary.healthCheck.orElse fallback.healthCheck

end Failover

theorem Nest.standsFor_leaves (nest : Nest World EventTx) :
    StandsFor nest.adapter nest.leaves := by
  induction nest with
  | leaf adapter => exact standsFor_self adapter
  | failover name primary fallback primaryHypothesis fallbackHypothesis =>
      exact Failover.standsFor ⟨name, primary.adapter, fallback.adapter⟩ primaryHypothesis
        fallbackHypothesis

section Determined

variable {results : List (Except GatewayError Unit)} {result other : Except GatewayError Unit}
  {reports : List AdapterInfo} {report another : AdapterInfo}

theorem Connects.unique (left : Connects results result) (right : Connects results other) :
    result = other := by
  rcases result with error | ⟨⟩
  · rcases other with otherError | ⟨⟩
    · have same := (left.firstError error rfl).symm.trans (right.firstError otherError rfl)
      exact Option.some.inj same
    · exact left.ok_iff.mpr (right.ok_iff.mp rfl)
  · exact (right.ok_iff.mpr (left.ok_iff.mp rfl)).symm

theorem Disconnects.find?_eq {error : GatewayError} (made : Disconnects results (.error error)) :
    results.find? (fun other => !other.toBool) = some (.error error) := by
  obtain ⟨before, after, rfl, fine⟩ := made.firstError error rfl
  rw [List.find?_append, List.find?_eq_none.mpr]
  · rfl
  · intro other listed
    rw [fine other listed]
    exact Bool.false_ne_true

theorem Disconnects.unique (left : Disconnects results result)
    (right : Disconnects results other) : result = other := by
  rcases result with error | ⟨⟩
  · rcases other with otherError | ⟨⟩
    · exact Option.some.inj (left.find?_eq.symm.trans right.find?_eq)
    · exact left.ok_iff.mpr (right.ok_iff.mp rfl)
  · exact (right.ok_iff.mpr (left.ok_iff.mp rfl)).symm

theorem Reports.unique (left : Reports reports report) (right : Reports reports another) :
    { report with name := another.name } = another := by
  have states : report.state = another.state := by
    by_cases connected : report.state = .connected
    · rw [connected, right.connected_iff.mpr (left.connected_iff.mp connected)]
    · have unconnected : another.state ≠ .connected := fun up =>
        connected (left.connected_iff.mpr (right.connected_iff.mp up))
      exact Option.some.inj
        ((left.unconnected connected).symm.trans (right.unconnected unconnected))
  have urls : report.url = another.url := Option.some.inj (left.url.symm.trans right.url)
  rcases report with ⟨name, backendType, url, state, selfId⟩
  rcases another with ⟨anotherName, anotherType, anotherUrl, anotherState, anotherId⟩
  cases left.backendType.trans right.backendType.symm
  cases left.selfId.trans right.selfId.symm
  cases states
  cases urls
  rfl

end Determined

/-- Two adapters differ in nothing but the name they report. -/
structure AlikeButName (adapter other : BackendAdapter World EventTx) : Prop where
  info : ∀ world, { adapter.info world with name := (other.info world).name } = other.info world
  connect : adapter.connect = other.connect
  disconnect : adapter.disconnect = other.disconnect
  callApi : adapter.callApi = other.callApi
  healthCheck : adapter.healthCheck = other.healthCheck

theorem StandsFor.alike {adapter other : BackendAdapter World EventTx}
    {backends : List (BackendAdapter World EventTx)} (left : StandsFor adapter backends)
    (right : StandsFor other backends) : AlikeButName adapter other where
  info world := (left.info world).unique (right.info world)
  connect := by
    funext eventTx world
    obtain ⟨results, made, connects⟩ := left.connect eventTx world
    obtain ⟨others, again, otherConnects⟩ := right.connect eventTx world
    obtain ⟨rfl, sameWorld⟩ := Prod.mk.inj (made.symm.trans again)
    exact Prod.ext (connects.unique otherConnects) sameWorld
  disconnect := by
    funext world
    obtain ⟨results, made, disconnects⟩ := left.disconnect world
    obtain ⟨others, again, otherDisconnects⟩ := right.disconnect world
    obtain ⟨rfl, sameWorld⟩ := Prod.mk.inj (made.symm.trans again)
    exact Prod.ext (disconnects.unique otherDisconnects) sameWorld
  callApi := funext fun request => (left.callApi request).unique (right.callApi request)
  healthCheck := left.healthCheck.unique right.healthCheck

/-- However failover adapters are nested, the outermost one stands for the
adapters at the leaves, in their order, and nesting the leaves in another way
changes nothing but the name. -/
theorem Nest.behaves_as_leaves (nest : Nest World EventTx) :
    StandsFor nest.adapter nest.leaves ∧
      ∀ other : Nest World EventTx, other.leaves = nest.leaves →
        AlikeButName other.adapter nest.adapter := by
  refine ⟨nest.standsFor_leaves, ?_⟩
  intro other same
  have standing := other.standsFor_leaves
  rw [same] at standing
  exact standing.alike nest.standsFor_leaves

namespace FailoverAdapter

/-- An adapter that only its calls matter of, with the request its writer takes
told to the world. -/
def wired (told : Option ApiRequest → Wires → Wires) (call : BackendCall)
    (others : BackendAdapter Wires EventTx) : BackendAdapter Wires EventTx :=
  { others with
    callApi := fun request wires => ((call request).2, told (call request).1 wires) }

/-- Seen through its calls alone, a failover adapter is the one over two backends. -/
theorem callApi_wired (adapter : FailoverAdapter) (others : BackendAdapter Wires EventTx)
    (request : ApiRequest) :
    (Failover.mk adapter.name
        (wired (fun sent wires => { wires with primary := sent }) adapter.primary others)
        (wired (fun sent wires => { wires with fallback := sent }) adapter.fallback
          others)).callApi request ⟨none, none⟩ =
      ((adapter.callApi request).2, (adapter.callApi request).1) := by
  simp only [Failover.callApi, wired, callApi]
  cases (adapter.primary request).2 with
  | ok response => rfl
  | error error => by_cases connection : isConnectionError error = true <;> simp [connection]

end FailoverAdapter

end Ferroq.Gateway
