import Ferroq.Gateway.Manager.AdapterManager
import Ferroq.Library.Registry
import Ferroq.Library.Parts

/-!
# The live map and the router

The live map and the router's list are the two parts of a registry.  They agree
at rest in every run in which an adapter is made for a name only while no other
call is adding the name.
-/

namespace Ferroq.Gateway

open Ferroq.Core
open Ferroq.Library

/-- An addition past its check, with the adapter it has registered. -/
def ManagerCall.addition : ManagerCall → Option (String × Option Nat)
  | add name (.connecting _ _ _) => some (name, none)
  | add name (.registered adapter _) => some (name, some adapter)
  | _ => none

/-- A removal between its two updates. -/
def ManagerCall.removes (name : String) : ManagerCall → Bool
  | remove other (.taken _) => other == name
  | remove other (.disconnected _) => other == name
  | _ => false

namespace AdapterManager

def listed (state : AdapterManager) (name : String) : List Nat :=
  state.router.adapters.filter fun adapter => (state.info adapter).name == name

def registry (state : AdapterManager) : Registry String Nat Nat :=
  { live := state.liveAdapters
    listed := state.listed
    adding := .ofList ManagerCall.addition state.calls
    removing := fun name => state.calls.countP (ManagerCall.removes name) }

/-- Exactly the live adapter of a name is listed under it. -/
def Agrees (state : AdapterManager) : Prop :=
  ∀ name, state.listed name = ((state.live.get name).map LiveAdapter.adapter).toList

def AtRest (state : AdapterManager) : Prop :=
  ∀ call ∈ state.calls, call.returned = true

/-- An adapter is made for a name only while no other call is adding it. -/
def SoleAdd (state : AdapterManager) : Managing → Prop
  | .addAdapter name config clientError =>
      state.live.contains name = true ∨
        (AdapterObject.create name config clientError).toOption.isNone = true ∨
          ∀ call ∈ state.calls, call.addition.map Prod.fst ≠ some name
  | _ => True

instance (state : AdapterManager) : (action : Managing) → Decidable (state.SoleAdd action)
  | .addAdapter _ _ _ => inferInstanceAs (Decidable (_ ∨ _ ∨ _))
  | .register _ | .insert _ | .removeAdapter _ | .disconnectRemoved _ | .unregister _
  | .reconnectAdapter _ | .disconnectHeld _ | .connectHeld _ | .finishReconnect _
  | .background _ _ | .forward _ | .suspend _ => inferInstanceAs (Decidable True)

instance (state : AdapterManager) : Decidable state.AtRest :=
  inferInstanceAs (Decidable (∀ call ∈ state.calls, _))

variable {state next : AdapterManager} {action : Managing}

/-! ## Names -/

theorem info_name_modifyObject {adapter : Nat} {change : AdapterObject → AdapterObject}
    (kept : ∀ object, state.objects[adapter]? = some object →
      (change object).name = object.name) (other : Nat) :
    ((state.modifyObject adapter change).info other).name = (state.info other).name := by
  simp only [info, modifyObject, List.getElem?_modify]
  split
  next same =>
    subst same
    cases held : state.objects[adapter]? with
    | none => rfl
    | some object => simp [AdapterObject.info, kept object held]
  next => simp

theorem info_startAdd {name : String} {object : AdapterObject} {adapter : Nat}
    (before : adapter < state.objects.length) :
    (state.startAdd name object).info adapter = state.info adapter := by
  simp [info, startAdd, List.getElem?_append_left before]

theorem listed_congr (sameList : next.router.adapters = state.router.adapters)
    (sameNames : ∀ adapter ∈ state.router.adapters,
      (next.info adapter).name = (state.info adapter).name) : next.listed = state.listed := by
  funext name
  simp only [listed, sameList]
  apply List.filter_congr
  intro adapter found
  rw [sameNames adapter found]

/-! ## Counting and erasing -/

theorem filter_eraseP_self {Item : Type} (test : Item → Bool) (items : List Item) :
    (items.eraseP test).filter test = (items.filter test).tail := by
  induction items with
  | nil => rfl
  | cons head tail inductionHypothesis =>
      by_cases found : test head = true
      · simp [found]
      · simp [found, inductionHypothesis]

theorem filter_eraseP_of_disjoint {Item : Type} {test other : Item → Bool} {items : List Item}
    (disjoint : ∀ item, test item = true → other item = false) :
    (items.eraseP test).filter other = items.filter other := by
  induction items with
  | nil => rfl
  | cons head tail inductionHypothesis =>
      by_cases found : test head = true
      · simp [found, disjoint head found]
      · simp [found, List.filter_cons, inductionHypothesis]

theorem countP_modify {Item : Type} (test : Item → Bool) {items : List Item} {index : Nat}
    {old : Item} (new : Item) (found : items[index]? = some old) :
    (items.modify index fun _ => new).countP test + (if test old then 1 else 0) =
      items.countP test + (if test new then 1 else 0) := by
  induction items generalizing index with
  | nil => cases found
  | cons head tail inductionHypothesis =>
      cases index with
      | zero =>
          cases found
          simp only [List.modify_zero_cons, List.countP_cons]
          omega
      | succ index =>
          have rest := inductionHypothesis found
          simp only [List.modify_succ_cons, List.countP_cons]
          omega

/-! ## The registry of a step -/

theorem registry_congr (live : next.liveAdapters = state.liveAdapters)
    (listed : next.listed = state.listed)
    (adding : Table.ofList ManagerCall.addition next.calls =
      Table.ofList ManagerCall.addition state.calls)
    (removing : ∀ name, next.calls.countP (ManagerCall.removes name) =
      state.calls.countP (ManagerCall.removes name)) : next.registry = state.registry := by
  simp only [registry, live, listed, adding, removing]

theorem registry_begin {call : ManagerCall} (notAdding : call.addition = none)
    (notRemoving : ∀ name, call.removes name = false) :
    (state.begin call).registry = state.registry := by
  apply registry_congr
  · rfl
  · rfl
  · exact Table.ofList_concat _ _ notAdding
  · intro name
    simp [begin, notRemoving]

theorem addition_of_failed {call : ManagerCall} (failed : call.failed = true) :
    call.addition = none ∧ ∀ name, call.removes name = false := by
  unfold ManagerCall.failed at failed
  split at failed <;> first | exact ⟨rfl, fun _ => rfl⟩ | cases failed

theorem registry_setCall {index : Nat} {old new : ManagerCall}
    (found : state.calls[index]? = some old) (adding : new.addition = old.addition)
    (removing : ∀ name, new.removes name = old.removes name) :
    (state.setCall index new).registry = state.registry := by
  apply registry_congr
  · rfl
  · rfl
  · apply Table.ofList_modify_of_eq
    intro call position
    rw [found] at position
    cases position
    exact adding
  · intro name
    have count := countP_modify (ManagerCall.removes name) new found
    rw [removing name] at count
    exact Nat.add_right_cancel count

theorem registry_abortForwarder (handle : Nat) :
    (state.abortForwarder handle).registry = state.registry := rfl

theorem registry_modifyObject {adapter : Nat} {change : AdapterObject → AdapterObject}
    (kept : ∀ object, state.objects[adapter]? = some object →
      (change object).name = object.name) :
    (state.modifyObject adapter change).registry = state.registry := by
  apply registry_congr
  · rfl
  · exact listed_congr rfl fun other _ => info_name_modifyObject kept other
  · rfl
  · exact fun _ => rfl

theorem registry_modify_setCall {adapter index : Nat} {old new : ManagerCall}
    {change : AdapterObject → AdapterObject} (found : state.calls[index]? = some old)
    (adding : new.addition = old.addition)
    (removing : ∀ name, new.removes name = old.removes name)
    (kept : ∀ object, (change object).name = object.name) :
    ((state.modifyObject adapter change).setCall index new).registry = state.registry := by
  have calls : (state.modifyObject adapter change).calls[index]? = some old := found
  rw [registry_setCall calls adding removing]
  exact registry_modifyObject fun object _ => kept object

theorem registry_startAdd {name : String} {object : AdapterObject}
    (routed : ∀ adapter ∈ state.router.adapters, adapter < state.objects.length) :
    (state.startAdd name object).registry = state.registry.start state.calls.length name := by
  have same : (state.startAdd name object).listed = state.listed :=
    listed_congr rfl fun adapter found => by rw [info_startAdd (routed adapter found)]
  have adding : Table.ofList ManagerCall.addition (state.startAdd name object).calls =
      (Table.ofList ManagerCall.addition state.calls).insert state.calls.length (name, none) :=
    Table.ofList_concat_insert _ _ rfl
  simp only [registry, Registry.start, same, adding]
  congr 1
  funext other
  simp [startAdd, ManagerCall.removes]

theorem registry_registerAdded {index : Nat} {name : String} {adapter channel connect : Nat}
    {object : AdapterObject}
    (found : state.calls[index]? = some (.add name (.connecting adapter channel connect)))
    (made : state.objects[adapter]? = some object) (named : object.name = name) :
    (state.registerAdded index name adapter channel).registry =
      state.registry.enlist index name adapter := by
  have isNamed : (state.info adapter).name = name := by
    simp [info, made, AdapterObject.info, named]
  have lists : (state.registerAdded index name adapter channel).listed = fun other =>
      if other = name then state.listed other ++ [adapter] else state.listed other := by
    funext other
    change (state.router.adapters ++ [adapter]).filter
      (fun adapter => (state.info adapter).name == other) = _
    rw [List.filter_append]
    by_cases same : other = name
    · simp [listed, same, isNamed]
    · simp [listed, same, isNamed, Ne.symm same]
  have adding : Table.ofList ManagerCall.addition
        (state.registerAdded index name adapter channel).calls =
      (Table.ofList ManagerCall.addition state.calls).insert index (name, some adapter) :=
    Table.ofList_modify_insert _ found rfl
  simp only [registry, Registry.enlist, lists, adding]
  congr 1
  funext other
  exact countP_modify (ManagerCall.removes other) (.add name (.registered adapter channel)) found

theorem registry_insertAdded {index : Nat} {name : String} {adapter channel : Nat}
    (found : state.calls[index]? = some (.add name (.registered adapter channel))) :
    (state.insertAdded index name adapter channel).registry =
      state.registry.publish index name adapter := by
  have adding : Table.ofList ManagerCall.addition
        (state.insertAdded index name adapter channel).calls =
      (Table.ofList ManagerCall.addition state.calls).remove index :=
    Table.ofList_modify_remove _ found rfl
  simp only [registry, Registry.publish, liveAdapters_insertAdded, adding]
  congr 1
  funext other
  exact countP_modify (ManagerCall.removes other) (.add name .finished) found

theorem registry_takeLive (name : String) (entry : LiveAdapter) :
    (state.takeLive name entry).registry = state.registry.withdraw name := by
  have adding : Table.ofList ManagerCall.addition (state.takeLive name entry).calls =
      Table.ofList ManagerCall.addition state.calls := Table.ofList_concat _ _ rfl
  simp only [registry, Registry.withdraw, liveAdapters_takeLive, adding]
  congr 1
  funext other
  change (state.calls ++ [_]).countP _ = _
  by_cases same : other = name
  · simp [ManagerCall.removes, same]
  · simp [ManagerCall.removes, same, Ne.symm same]

theorem registry_unregisterTaken {index : Nat} {name : String} {adapter : Nat}
    (found : state.calls[index]? = some (.remove name (.disconnected adapter))) :
    (state.unregisterTaken index name adapter).registry = state.registry.erase name := by
  have lists : (state.unregisterTaken index name adapter).listed = fun other =>
      if other = name then (state.listed other).tail else state.listed other := by
    funext other
    change (state.router.unregister state.info name).2.adapters.filter
      (fun adapter => (state.info adapter).name == other) = _
    rw [ApiRouter.unregister_adapters]
    by_cases same : other = name
    · rw [if_pos same, same]
      exact filter_eraseP_self _ _
    · rw [if_neg same]
      apply filter_eraseP_of_disjoint
      intro adapter named
      have isNamed : (state.info adapter).name = name := by simpa using named
      simpa [isNamed] using Ne.symm same
  have adding : Table.ofList ManagerCall.addition
        (state.unregisterTaken index name adapter).calls =
      Table.ofList ManagerCall.addition state.calls := by
    apply Table.ofList_modify_of_eq
    intro call position
    rw [found] at position
    cases position
    rfl
  simp only [registry, Registry.erase, lists, adding]
  congr 1
  funext other
  have count := countP_modify (ManagerCall.removes other) (.remove name (.finished adapter)) found
  by_cases same : other = name
  · subst same
    simp only [ManagerCall.removes, beq_self_eq_true, if_true] at count ⊢
    exact Nat.eq_sub_of_add_eq count
  · simp only [ManagerCall.removes, beq_false_of_ne (Ne.symm same), Bool.false_eq_true,
      if_false, Nat.add_zero] at count
    rw [if_neg same]
    exact count

theorem registry_storeForwarder {index : Nat} {name : String} {adapter channel connect : Nat}
    (found : state.calls[index]? = some (.reconnect name (.connecting adapter channel connect))) :
    (state.storeForwarder index name channel).registry = state.registry := by
  have calls : (state.setCall index (.reconnect name .finished)).registry = state.registry :=
    registry_setCall found rfl fun _ => rfl
  rw [← calls]
  apply registry_congr
  · exact liveAdapters_storeForwarder index name channel
  · rfl
  · rfl
  · exact fun _ => rfl

theorem registry_startConnect {index : Nat} {name : String} {adapter : Nat}
    {object : AdapterObject}
    (found : state.calls[index]? = some (.reconnect name (.disconnected adapter))) :
    (state.startConnect index name adapter object).registry = state.registry := by
  have same : ((state.modifyObject adapter
      (AdapterObject.beginConnect state.channels.length)).setCall index
        (.reconnect name (.connecting adapter state.channels.length object.connects))).registry =
      state.registry :=
    registry_modify_setCall found rfl (fun _ => rfl) fun _ => rfl
  exact same

/-! ## Runs -/

/-- The registry is sound, and the adapters on their way have the names under
which they are added. -/
structure Consistent (state : AdapterManager) : Prop where
  sound : state.registry.Sound
  routed : ∀ adapter ∈ state.router.adapters, adapter < state.objects.length
  started : ∀ {index : Nat} {name : String} {adapter channel connect : Nat},
    state.calls[index]? = some (.add name (.connecting adapter channel connect)) →
      ∃ object, state.objects[adapter]? = some object ∧ object.name = name

theorem new_consistent : new.Consistent where
  sound := Registry.empty_sound
  routed := by simp [new, ApiRouter.new]
  started found := by simp [new] at found

theorem started_steps (consistent : state.Consistent) (steps : Steps state action next)
    {index : Nat} {name : String} {adapter channel connect : Nat}
    (found : next.calls[index]? = some (.add name (.connecting adapter channel connect))) :
    ∃ object, next.objects[adapter]? = some object ∧ object.name = name := by
  have earlier : state.calls[index]? = some (.add name (.connecting adapter channel connect)) →
      ∃ object, next.objects[adapter]? = some object ∧ object.name = name := by
    intro before
    obtain ⟨object, made, named⟩ := consistent.started before
    obtain ⟨later, held, kept⟩ := keepsNames_steps steps made
    exact ⟨later, held, kept.trans named⟩
  cases steps with
  | rejected action call failed =>
      rcases eq_or_found_of_concat found with rfl | before
      · cases failed
      · exact earlier before
  | startedAdd absent created =>
      rcases eq_or_found_of_concat found with same | before
      · cases same
        refine ⟨_, List.getElem?_concat_length, ?_⟩
        rw [← AdapterObject.create_name created]
        rfl
      · exact earlier before
  | tookLive | lookedUp =>
      rcases eq_or_found_of_concat found with same | before
      · cases same
      · exact earlier before
  | registeredAdded | insertedAdded | disconnectedRemoved | unregisteredTaken
  | disconnectedHeld | startedConnect | storedForwarder =>
      rcases eq_or_found_of_modify found with same | before
      · cases same
      · exact earlier before
  | ran | receivedEvent | publishedEvent | suspended => exact earlier found

theorem registry_sound_steps (consistent : state.Consistent) (steps : Steps state action next)
    (sole : state.SoleAdd action) : next.registry.Sound := by
  cases steps with
  | rejected action call failed =>
      obtain ⟨notAdding, notRemoving⟩ := addition_of_failed failed
      rw [registry_begin notAdding notRemoving]
      exact consistent.sound
  | startedAdd absent created =>
      rw [registry_startAdd consistent.routed]
      apply consistent.sound.start
      · exact liveAdapters_eq_none absent
      · intro other listed adding
        rcases sole with exists' | invalid | alone
        · obtain ⟨entry, found⟩ := (Table.contains_eq_true_iff _ _).mp exists'
          rw [absent] at found
          cases found
        · rw [created] at invalid
          cases invalid
        · obtain ⟨call, position, entry⟩ := Option.bind_eq_some_iff.mp adding
          exact alone call (List.mem_of_getElem? position) (by rw [entry]; rfl)
      · simp [registry, Table.get_ofList]
  | registeredAdded found _ =>
      obtain ⟨object, made, named⟩ := consistent.started found
      rw [registry_registerAdded found made named]
      apply consistent.sound.enlist
      simp [registry, Table.get_ofList, found, ManagerCall.addition]
  | insertedAdded found =>
      rw [registry_insertAdded found]
      apply consistent.sound.publish
      simp [registry, Table.get_ofList, found, ManagerCall.addition]
  | tookLive found =>
      rw [registry_takeLive]
      exact consistent.sound.withdraw (liveAdapters_eq_some found)
  | disconnectedRemoved found =>
      rw [registry_modify_setCall]
      · exact consistent.sound
      · exact found
      · rfl
      · exact fun _ => rfl
      · exact fun _ => rfl
  | unregisteredTaken found =>
      rw [registry_unregisterTaken found]
      apply consistent.sound.erase
      exact List.countP_pos_iff.mpr
        ⟨_, List.mem_of_getElem? found, by simp [ManagerCall.removes]⟩
  | lookedUp found =>
      rw [registry_begin rfl fun _ => rfl, registry_abortForwarder]
      exact consistent.sound
  | disconnectedHeld found =>
      rw [registry_modify_setCall]
      · exact consistent.sound
      · exact found
      · rfl
      · exact fun _ => rfl
      · exact fun _ => rfl
  | startedConnect found held =>
      rw [registry_startConnect found]
      exact consistent.sound
  | storedForwarder found _ =>
      rw [registry_storeForwarder found]
      exact consistent.sound
  | receivedEvent | publishedEvent | suspended => exact consistent.sound
  | @ran adapter task object after held stepped =>
      change (state.modifyObject adapter fun _ => after).registry.Sound
      rw [registry_modifyObject]
      · exact consistent.sound
      · intro before found
        rw [held] at found
        cases found
        exact AdapterObject.background_name stepped

theorem routed_steps (consistent : state.Consistent) (steps : Steps state action next) :
    ∀ adapter ∈ next.router.adapters, adapter < next.objects.length := by
  have keeps : state.KeepsNames next := keepsNames_steps steps
  have earlier : ∀ adapter ∈ state.router.adapters, adapter < next.objects.length :=
    fun adapter found => keeps.inside (consistent.routed adapter found)
  cases steps with
  | registeredAdded found _ =>
      obtain ⟨object, held, _⟩ := consistent.started found
      exact forall_mem_concat earlier (List.getElem?_eq_some_iff.mp held).1
  | unregisteredTaken found =>
      intro adapter member
      change adapter ∈ (state.router.unregister state.info _).2.adapters at member
      rw [ApiRouter.unregister_adapters] at member
      exact earlier adapter (List.mem_of_mem_eraseP member)
  | rejected | startedAdd | insertedAdded | tookLive | disconnectedRemoved | lookedUp
  | disconnectedHeld | startedConnect | storedForwarder | ran | receivedEvent
  | publishedEvent | suspended => exact earlier

theorem consistent_step (consistent : state.Consistent) (sole : state.SoleAdd action)
    (stepped : state.step action = some next) : next.Consistent :=
  { sound := registry_sound_steps consistent (steps_of_step stepped) sole
    routed := routed_steps consistent (steps_of_step stepped)
    started := started_steps consistent (steps_of_step stepped) }

/-- A consistent manager agrees with its router when no call is on its way. -/
theorem Consistent.agrees (consistent : state.Consistent) (atRest : state.AtRest) :
    state.Agrees := by
  intro name
  apply consistent.sound.listed_of_settled
  · intro index listed found
    obtain ⟨call, position, entry⟩ := Option.bind_eq_some_iff.mp found
    have returned := atRest call (List.mem_of_getElem? position)
    unfold ManagerCall.addition at entry
    split at entry <;> first | cases returned | cases entry
  · apply List.countP_eq_zero.mpr
    intro call member removing
    have returned := atRest call member
    unfold ManagerCall.removes at removing
    split at removing <;> first | cases returned | cases removing

/-- In every run in which no two additions of a name overlap, the live map and
the router agree whenever no call is on its way. -/
theorem agrees_throughout (actions : List Managing)
    (sole : machine.Admits SoleAdd new actions) :
    machine.Throughout (fun state => state.AtRest → state.Agrees) new actions := by
  refine machine.throughout_of_admits ?_ ?_ new_consistent sole
  · intro state action next consistent allowed stepped
    exact consistent_step consistent allowed stepped
  · intro state consistent atRest
    exact consistent.agrees atRest

/-- Two callers add one name at a time. -/
def addedTwice : List Managing :=
  [.addAdapter "bot" ⟨"official", "http://localhost"⟩ none,
    .addAdapter "bot" ⟨"official", "http://localhost"⟩ none,
    .background 0 (.official (.probeReturns 0 (some 7))),
    .background 0 (.official (.connectFinishes 0)),
    .background 1 (.official (.probeReturns 0 (some 7))),
    .background 1 (.official (.connectFinishes 0)),
    .register 0, .insert 0, .register 1, .insert 1]

/-- Both pass the check, and the name stays in the router twice. -/
theorem addedTwice_disagrees :
    ∃ state, machine.run new addedTwice = some state ∧ state.AtRest ∧
      state.listed "bot" = [0, 1] ∧ ¬ state.Agrees := by
  refine ⟨_, rfl, by decide, by decide, ?_⟩
  intro agrees
  exact absurd (agrees "bot") (by decide)

/-- An adapter is removed while another one is made under its name. -/
def replaced : List Managing :=
  [.addAdapter "bot" ⟨"official", "http://localhost"⟩ none,
    .background 0 (.official (.probeReturns 0 none)),
    .background 0 (.official (.connectFinishes 0)),
    .register 0, .insert 0, .removeAdapter "bot",
    .addAdapter "bot" ⟨"lagrange", "ws://localhost"⟩ none,
    .background 1 (.lagrange (.connectFails 0 (.connection "refused"))),
    .register 2, .disconnectRemoved 1, .unregister 1, .insert 2]

theorem agrees_throughout_replaced :
    machine.Throughout (fun state => state.AtRest → state.Agrees) new replaced ∧
      ∃ state, machine.run new replaced = some state ∧ state.AtRest ∧
        state.listed "bot" = [1] :=
  ⟨agrees_throughout replaced (by decide), _, rfl, by decide, by decide⟩

end AdapterManager

end Ferroq.Gateway
