import Ferroq.Core.Adapter

/-!
# The official adapter

An adapter over HTTP keeps no connection: a call of `connect` probes the
backend, learns the account if the backend reports one, and then moves to the
connected state whatever the probe has given.
-/

namespace Ferroq.Gateway

open Ferroq.Core

inductive ProbePhase where
  | probing
  | probed
  | connected
  deriving DecidableEq

structure Official where
  state : AdapterState
  selfId : Option Int64
  eventTx : Option Nat
  connects : List ProbePhase

inductive OfficialTask where
  | probeReturns (call : Nat) (selfId : Option Int64)
  | connectFinishes (call : Nat)
  deriving DecidableEq

namespace Official

def new : Official :=
  { state := .disconnected, selfId := none, eventTx := none, connects := [] }

def beginConnect (official : Official) (eventTx : Nat) : Official :=
  { official with
    state := .connecting
    eventTx := some eventTx
    connects := official.connects ++ [.probing] }

def disconnect (official : Official) : Official :=
  { official with state := .disconnected, eventTx := none }

def background (official : Official) : OfficialTask → Option Official
  | .probeReturns call selfId =>
      match official.connects[call]? with
      | some .probing =>
          some
            { official with
              selfId := selfId.or official.selfId
              connects := official.connects.set call .probed }
      | _ => none
  | .connectFinishes call =>
      match official.connects[call]? with
      | some .probed =>
          some
            { official with
              state := .connected
              connects := official.connects.set call .connected }
      | _ => none

theorem background_eventTx {official next : Official} {task : OfficialTask}
    (stepped : official.background task = some next) : next.eventTx = official.eventTx := by
  cases task <;>
    · simp only [background] at stepped
      split at stepped
      next =>
        cases stepped
        rfl
      next => cases stepped

/-- The adapter is not connected and holds no sender, and no call of `connect`
is open. -/
structure Stopped (official : Official) : Prop where
  unconnected : official.state ≠ .connected
  silent : official.eventTx = none
  returned : ∀ phase ∈ official.connects, phase = .connected

theorem disconnect_stopped {official : Official}
    (returned : ∀ phase ∈ official.connects, phase = .connected) :
    official.disconnect.Stopped :=
  ⟨by simp [disconnect], rfl, returned⟩

theorem Stopped.background {official next : Official} {task : OfficialTask}
    (stopped : official.Stopped) : official.background task ≠ some next := by
  intro stepped
  cases task <;>
    · simp only [Official.background] at stepped
      split at stepped
      next found => cases stopped.returned _ (List.mem_of_getElem? found)
      next => cases stepped

end Official

end Ferroq.Gateway
