import Ferroq.Gateway.Lagrange.Correlation

/-!
# What a failed call leaves in the table

A call enters its sender under its echo when it registers.  Every later step of
the call that fails it has to take the entry out again, or to find it taken
out; the steps of the call touch no other entry.
-/

namespace Ferroq.Gateway.Lagrange

open Ferroq.Core
open Ferroq.Library

namespace Correlation

def owner (state : Correlation) : Exchanging → Option Nat
  | .callApi _ => some state.calls.length
  | .register call | .resolve call | .drop call | .timeout call | .forget call => some call
  | _ => none

/-- A step of a call leaves the entries of other echoes alone, and none of its
own echo when the call fails. -/
def CleanStep (state : Correlation) (action : Exchanging) : Prop :=
  ∀ next index call, state.step action = some next → state.owner action = some index →
    next.calls[index]? = some call →
      (∀ key ≠ call.echo, next.lifecycle.inner.pendingCalls.get key =
        state.lifecycle.inner.pendingCalls.get key) ∧
      ∀ error, call.phase = .returned (.error error) →
        next.lifecycle.inner.pendingCalls.get call.echo = none

def Unentered (state : Correlation) (index : Nat) : Prop :=
  ∀ call, state.calls[index]? = some call →
    state.lifecycle.inner.pendingCalls.get call.echo = none

def WriterRuns (state : Correlation) : Prop :=
  ∀ writer, state.lifecycle.inner.wsWriterTx = some writer → state.writerOpen writer = true

/-- What a step of a call has to find: a running writer where the call registers
with a connected adapter, and no entry under its echo where it fails without
touching the table. -/
def FindsClean (state : Correlation) : Exchanging → Prop
  | .register index =>
      if state.lifecycle.inner.state = .connected then state.WriterRuns
      else state.Unentered index
  | .drop index => state.Unentered index
  | _ => True

variable {state next : Correlation} {action : Exchanging}

theorem getElem?_setPhase {index : Nat} {call : Call} (found : state.calls[index]? = some call)
    (phase : CallPhase) :
    (state.setPhase index phase).calls[index]? = some { call with phase := phase } := by
  simp [setPhase, found]

theorem registerCall_spec {index : Nat} {call : Call} (found : state.calls[index]? = some call) :
    ∃ later, (state.registerCall index call).calls[index]? = some later ∧
      later.echo = call.echo ∧
      (∀ key ≠ call.echo,
        (state.registerCall index call).lifecycle.inner.pendingCalls.get key =
          state.lifecycle.inner.pendingCalls.get key) ∧
      ((∀ error, later.phase = .returned (.error error) →
          (state.registerCall index call).lifecycle.inner.pendingCalls.get call.echo = none) ↔
        if state.lifecycle.inner.state = .connected then state.WriterRuns
        else state.lifecycle.inner.pendingCalls.get call.echo = none) := by
  unfold registerCall Inner.register
  by_cases connected : state.lifecycle.inner.state = .connected
  · cases writer : state.lifecycle.inner.wsWriterTx with
    | none =>
        have runs : state.WriterRuns := by simp [WriterRuns, writer]
        simp only [connected, ne_eq, not_true_eq_false, if_false, if_true]
        refine ⟨_, getElem?_setPhase found _, rfl, ?_, iff_of_true ?_ runs⟩
        · intro key different
          exact (Table.get_remove_of_ne _ different).trans (Table.get_insert_of_ne _ _ different)
        · exact fun _ _ => Table.get_remove_self _ _
    | some tx =>
        simp only [connected, ne_eq, not_true_eq_false, if_false, if_true]
        by_cases running : state.writerOpen tx = true
        · have runs : state.WriterRuns := by simp [WriterRuns, writer, running]
          rw [if_pos running]
          refine ⟨{ call with phase := .waiting none, wire := some call.wireRequest },
            by simp [setInner, onWire, found], rfl, ?_, iff_of_true ?_ runs⟩
          · exact fun key different => Table.get_insert_of_ne _ _ different
          · simp
        · have stops : ¬ state.WriterRuns := fun runs => running (runs tx writer)
          rw [if_neg running]
          refine ⟨_, getElem?_setPhase found _, rfl, ?_, iff_of_false ?_ stops⟩
          · exact fun key different => Table.get_insert_of_ne _ _ different
          · intro gone
            have entered := gone Inner.writerClosed rfl
            simp [setPhase, setInner] at entered
  · simp only [connected, ne_eq, not_false_eq_true, if_true, if_false]
    refine ⟨_, getElem?_setPhase found _, rfl, fun _ _ => rfl, ?_⟩
    simp [setPhase, setInner]

theorem cleanStep_iff_of_found {index : Nat} {later : Call}
    (stepped : state.step action = some next) (owned : state.owner action = some index)
    (found : next.calls[index]? = some later) :
    state.CleanStep action ↔
      (∀ key ≠ later.echo, next.lifecycle.inner.pendingCalls.get key =
        state.lifecycle.inner.pendingCalls.get key) ∧
      ∀ error, later.phase = .returned (.error error) →
        next.lifecycle.inner.pendingCalls.get later.echo = none := by
  constructor
  · exact fun clean => clean next index later stepped owned found
  · intro clean other owning position steppedOther ownedOther foundOther
    cases stepped.symm.trans steppedOther
    cases owned.symm.trans ownedOther
    cases found.symm.trans foundOther
    exact clean

theorem cleanStep_iff (stepped : state.step action = some next) :
    state.CleanStep action ↔ state.FindsClean action := by
  cases steps_of_step stepped with
  | began request =>
      have found : (state.calls ++ [⟨request, toString state.echoCounter.toNat, .ready,
          none⟩])[state.calls.length]? =
          some ⟨request, toString state.echoCounter.toNat, .ready, none⟩ := by
        simp
      rw [cleanStep_iff_of_found stepped rfl found]
      simp [FindsClean]
  | @registered index call found ready =>
      obtain ⟨later, position, echo, others, own⟩ := registerCall_spec found
      rw [cleanStep_iff_of_found stepped rfl position, echo, own, and_iff_right others]
      simp [FindsClean, Unentered, found]
  | @resolved index call response found waits =>
      rw [cleanStep_iff_of_found stepped rfl (getElem?_setPhase found _)]
      simp [FindsClean, setPhase]
  | @dropped index call found waits alone =>
      rw [cleanStep_iff_of_found stepped rfl (getElem?_setPhase found _)]
      simp [FindsClean, Unentered, found, setPhase]
  | @expired index call found waits =>
      rw [cleanStep_iff_of_found stepped rfl (getElem?_setPhase found _)]
      simp [FindsClean, setPhase]
  | @forgot index call found expired =>
      have kept : (state.setInner (state.lifecycle.inner.forgetPending call.echo)).calls[index]? =
          some call := found
      rw [cleanStep_iff_of_found stepped rfl (getElem?_setPhase kept _)]
      refine iff_of_true ⟨?_, ?_⟩ True.intro
      · exact fun key different => Table.get_remove_of_ne _ different
      · exact fun error failed => Table.get_remove_self _ _
  | received | took | missed | sent | connected | disconnected | ran =>
      exact iff_of_true (fun _ _ _ _ owned => by cases owned) True.intro

/-- Whatever the adapter is like and whatever runs beside the calls, their steps
are clean exactly if each of them finds the writer and the table as it has to. -/
theorem cleanSteps_iff (state : Correlation) (actions : List Exchanging) :
    machine.Admits CleanStep state actions ↔ machine.Admits FindsClean state actions :=
  machine.admits_iff_of_admits (fun _ _ _ _ _ => True.intro)
    (fun _ _ _ _ _ stepped => cleanStep_iff stepped) True.intro
    (machine.admits_true state actions)

/-- The writer has ended before the reader notices, and a call finds its channel
closed. -/
def writerGone : List Exchanging :=
  [.connect 0, .background (.connectSpawns 0), .background (.connectInstalls 0),
    .background (.writerEnds 0), .callApi { action := "get_status" }, .register 0]

/-- A call that finds the writer gone fails and leaves its entry. -/
theorem writerGone_leaves_entry :
    ∃ state call, machine.run (new "bot" 30) writerGone = some state ∧
      state.calls[0]? = some call ∧ call.phase = .returned (.error Inner.writerClosed) ∧
      state.lifecycle.inner.pendingCalls.get call.echo = some 0 :=
  ⟨_, _, rfl, rfl, rfl, rfl⟩

/-! ## Calls with echoes of their own -/

theorem entry_owned (sound : state.Sound) (linear : state.pending.Linear)
    (few : state.calls.length < 2 ^ 64) {index entered : Nat} {call : Call}
    (found : state.calls[index]? = some call)
    (entry : state.lifecycle.inner.pendingCalls.get call.echo = some entered) :
    entered = index ∧ call.phase ≠ .ready := by
  have issued : (Table.ofList registeredEcho state.calls).get entered = some call.echo :=
    linear.waitingKey entry
  rw [Table.get_ofList] at issued
  obtain ⟨other, position, registered⟩ := Option.bind_eq_some_iff.mp issued
  have ready : other.phase ≠ .ready := by
    intro same
    simp [registeredEcho, same] at registered
  have echo : other.echo = call.echo := by
    unfold registeredEcho at registered
    split at registered
    next => cases registered
    next => exact Option.some.inj registered
  have inside := (List.getElem?_eq_some_iff.mp found).1
  have otherInside := (List.getElem?_eq_some_iff.mp position).1
  rw [(sound.calls position).numbered, (sound.calls found).numbered] at echo
  obtain rfl : entered = index := echoAt_injective (by omega) (by omega) echo
  cases found.symm.trans position
  exact ⟨rfl, ready⟩

/-- Only a registration that finds its writer gone keeps a step of a call from
being clean, in every run from a new adapter with fewer than `2 ^ 64` calls. -/
theorem cleanSteps_of_new_iff (name : String) (apiTimeoutSecs : Nat) (actions : List Exchanging)
    (few : machine.Admits (fun state _ => state.calls.length < 2 ^ 64)
      (new name apiTimeoutSecs) actions) :
    machine.Admits CleanStep (new name apiTimeoutSecs) actions ↔
      machine.Admits (fun state action => ∀ index, action = .register index →
        state.lifecycle.inner.state = .connected → state.WriterRuns)
        (new name apiTimeoutSecs) actions := by
  have start : (new name apiTimeoutSecs).Sound ∧ (new name apiTimeoutSecs).pending.Linear :=
    ⟨new_sound name apiTimeoutSecs, Pending.empty_linear⟩
  have preserved : ∀ state action next, state.Sound ∧ state.pending.Linear →
      machine.step state action = some next → next.Sound ∧ next.pending.Linear := by
    intro state action next holds stepped
    have steps := steps_of_step stepped
    exact ⟨sound_steps holds.1 steps, pending_linear_steps holds.2 steps⟩
  apply machine.admits_iff_of_admits preserved _ start few
  intro state action next holds few stepped
  rw [cleanStep_iff stepped]
  cases steps_of_step stepped with
  | @registered index call found ready =>
      have unentered : state.Unentered index := by
        intro other position
        cases found.symm.trans position
        rw [Option.eq_none_iff_forall_ne_some]
        exact fun entered entry => (entry_owned holds.1 holds.2 few found entry).2 ready
      by_cases connected : state.lifecycle.inner.state = .connected <;>
        simp [FindsClean, connected, unentered]
  | @dropped index call found waits alone =>
      have unentered : state.Unentered index := by
        intro other position
        cases found.symm.trans position
        rw [Option.eq_none_iff_forall_ne_some]
        intro entered entry
        rw [(entry_owned holds.1 holds.2 few found entry).1] at entry
        simp [hasSender, entry] at alone
      exact iff_of_true unentered (by simp)
  | _ => exact iff_of_true True.intro (by simp)

end Correlation

end Ferroq.Gateway.Lagrange
