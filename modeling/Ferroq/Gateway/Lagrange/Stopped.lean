import Ferroq.Gateway.Lagrange.Lifecycle
import Ferroq.Library.Parts

/-!
# What a disconnect leaves behind

A disconnect aborts the tasks whose handles it finds.  The adapter stays
unconnected afterwards when no call of `connect` is open, and the monitor whose
handle it finds is the only one left and not past its last wait.
-/

namespace Ferroq.Gateway.Lagrange

open Ferroq.Core
open Ferroq.Library

/-- A monitor that has opened a connection and comes to the lock next. -/
def MonitorPhase.installing : MonitorPhase → Bool
  | succeeded _ _ => true
  | _ => false

/-- A monitor that will not store a connection any more. -/
def Monitor.stopped (monitor : Monitor) : Bool :=
  monitor.phase = .done || (monitor.aborted && !monitor.phase.installing)

namespace Lifecycle

/-- The adapter is not connected, and nothing is left that could connect it. -/
structure Stopped (lifecycle : Lifecycle) : Prop where
  unconnected : lifecycle.inner.state ≠ .connected
  returned : ∀ phase ∈ lifecycle.connects, phase.returned = true
  ended : ∀ monitor ∈ lifecycle.monitors, monitor.stopped = true

/-- Every call of `connect` has returned, and a disconnect stops what is left
of the monitors. -/
def Stoppable (lifecycle : Lifecycle) : Prop :=
  (∀ phase ∈ lifecycle.connects, phase.returned = true) ∧
    ∀ entry ∈ lifecycle.monitors.zipIdx, entry.1.stopped = true ∨
      (lifecycle.inner.reconnectHandle = some entry.2 ∧ entry.1.phase.installing = false)

instance (lifecycle : Lifecycle) : Decidable lifecycle.Stoppable :=
  inferInstanceAs (Decidable (_ ∧ _))

variable {lifecycle next : Lifecycle} {action : Background}

theorem Stoppable.disconnect (stoppable : lifecycle.Stoppable) :
    lifecycle.disconnect.Stopped where
  unconnected := by simp [Lifecycle.disconnect, Inner.disconnect]
  returned := stoppable.1
  ended := by
    intro monitor found
    have either : ∀ index before, lifecycle.monitors[index]? = some before →
        before.stopped = true ∨
          (lifecycle.inner.reconnectHandle = some index ∧ before.phase.installing = false) :=
      fun index before position =>
        stoppable.2 (before, index) (List.mem_zipIdx_iff_getElem?.mpr position)
    obtain ⟨index, position⟩ := List.mem_iff_getElem?.mp found
    simp only [Lifecycle.disconnect, abortMonitor] at position
    cases handle : lifecycle.inner.reconnectHandle with
    | none =>
        rw [handle] at position
        rcases either index monitor position with stopped | ⟨held, _⟩
        · exact stopped
        · rw [handle] at held
          cases held
    | some aborted =>
        rw [handle] at position
        simp only [List.getElem?_modify] at position
        obtain ⟨before, earlier, rfl⟩ := Option.map_eq_some_iff.mp position
        have cases := either index before earlier
        rw [handle, Option.some.injEq] at cases
        split
        next same =>
          rcases cases with stopped | ⟨_, waits⟩
          · simp only [Monitor.stopped, Bool.or_eq_true, Bool.and_eq_true] at stopped ⊢
            rcases stopped with done | ⟨_, waits⟩
            · exact .inl done
            · exact .inr ⟨trivial, waits⟩
          · simp [Monitor.stopped, waits]
        next different =>
          rcases cases with stopped | ⟨same, _⟩
          · exact stopped
          · exact absurd same different

theorem background_eventTx (stepped : lifecycle.background action = some next) :
    next.inner.eventTx = lifecycle.inner.eventTx := by
  have exits : lifecycle.inner.readerExit.eventTx = lifecycle.inner.eventTx := by
    unfold Inner.readerExit
    split <;> rfl
  cases action <;>
    · simp only [background] at stepped
      split at stepped
      next =>
        cases stepped
        first | rfl | exact exits
      next => cases stepped

theorem Stopped.not_open (stopped : lifecycle.Stopped) {call : Nat} {phase : ConnectPhase}
    (found : lifecycle.connects[call]? = some phase) : phase.returned = true :=
  stopped.returned phase (List.mem_of_getElem? found)

theorem Stopped.ended_at (stopped : lifecycle.Stopped) {index : Nat} {monitor : Monitor}
    (found : lifecycle.monitors[index]? = some monitor) : monitor.stopped = true :=
  stopped.ended monitor (List.mem_of_getElem? found)

theorem Stopped.background (stopped : lifecycle.Stopped)
    (stepped : lifecycle.background action = some next) : next.Stopped := by
  cases action with
  | readerEvent _ _ | readerPanics _ | readerEnds _ | writerEnds _ =>
      simp only [Lifecycle.background] at stepped
      split at stepped
      next =>
        cases stepped
        exact ⟨stopped.unconnected, stopped.returned, stopped.ended⟩
      next => cases stepped
  | readerExit reader =>
      simp only [Lifecycle.background] at stepped
      split at stepped
      next =>
        cases stepped
        refine ⟨?_, stopped.returned, stopped.ended⟩
        simp [Inner.readerExit, stopped.unconnected]
      next => cases stepped
  | monitorBegins index =>
      -- An aborted monitor may still pass the lock before its next wait.
      simp only [Lifecycle.background] at stepped
      split at stepped
      next aborted found =>
        cases stepped
        have ended := stopped.ended_at found
        exact ⟨by simp [Inner.beginReconnect], stopped.returned, forall_mem_set stopped.ended
          (by simpa [Monitor.stopped, MonitorPhase.installing] using ended) _⟩
      next => cases stepped
  | monitorPolls index =>
      -- The poll of a monitor that had woken sees that the adapter is not connected.
      simp only [Lifecycle.background] at stepped
      split at stepped
      next aborted found =>
        cases stepped
        have ended := stopped.ended_at found
        exact ⟨stopped.unconnected, stopped.returned, forall_mem_set stopped.ended
          (by simpa [Monitor.stopped, MonitorPhase.installing, stopped.unconnected] using ended)
          _⟩
      next => cases stepped
  | monitorWakes _ | monitorAttempts _ | monitorFails _ | monitorSucceeds _
  | monitorInstalls _ =>
      simp only [Lifecycle.background] at stepped
      split at stepped
      next found =>
        have ended := stopped.ended_at found
        simp [Monitor.stopped, MonitorPhase.installing] at ended
      next => cases stepped
  | connectFails _ _ | connectSpawns _ | connectInstalls _ =>
      simp only [Lifecycle.background] at stepped
      split at stepped
      next found => cases stopped.not_open found
      next => cases stepped

end Lifecycle

end Ferroq.Gateway.Lagrange
