import Ferroq.Gateway.Lagrange.Inner
import Ferroq.Library.Machine

/-!
# The tasks of a Lagrange adapter

A connection has a reader and a writer task, and `connect` spawns a monitor
that polls the state, retries after a loss, and ends after its first successful
reconnect.  A reader ends through its exit, which marks the connection as lost,
or panics on a text.  A step is what a task does between two of its waits or locks.  An
aborted task does not go on from a wait, but it reaches its next one.

Tasks are numbered in the order in which they are spawned.
-/

namespace Ferroq.Gateway.Lagrange

open Ferroq.Core
open Ferroq.Library

inductive ReaderPhase where
  | reading
  | exiting
  | done
  deriving DecidableEq

structure Reader where
  phase : ReaderPhase
  aborted : Bool
  deriving DecidableEq

structure Writer where
  running : Bool
  deriving DecidableEq

inductive MonitorPhase where
  | polling
  | woken
  | lostSeen
  | waiting
  | connecting
  | succeeded (reader writer : Nat)
  | done
  deriving DecidableEq

structure Monitor where
  phase : MonitorPhase
  aborted : Bool
  deriving DecidableEq

inductive ConnectPhase where
  | establishing
  | spawned (reader writer : Nat)
  | failed (error : GatewayError)
  | connected
  deriving DecidableEq

def ConnectPhase.returned : ConnectPhase → Bool
  | failed _ => true
  | connected => true
  | _ => false

/-- A monitor that has not ended and can go on from its waits. -/
def Monitor.alive (monitor : Monitor) : Bool :=
  monitor.phase != .done && !monitor.aborted

structure Lifecycle where
  inner : Inner
  readers : List Reader
  writers : List Writer
  monitors : List Monitor
  connects : List ConnectPhase

inductive Background where
  | readerEvent (reader : Nat) (selfId : Int64)
  | readerPanics (reader : Nat)
  | readerEnds (reader : Nat)
  | readerExit (reader : Nat)
  | writerEnds (writer : Nat)
  | monitorWakes (monitor : Nat)
  | monitorPolls (monitor : Nat)
  | monitorBegins (monitor : Nat)
  | monitorAttempts (monitor : Nat)
  | monitorFails (monitor : Nat)
  | monitorSucceeds (monitor : Nat)
  | monitorInstalls (monitor : Nat)
  | connectFails (call : Nat) (error : GatewayError)
  | connectSpawns (call : Nat)
  | connectInstalls (call : Nat)
  deriving DecidableEq

namespace Lifecycle

def new : Lifecycle :=
  { inner := .new, readers := [], writers := [], monitors := [], connects := [] }

def beginConnect (lifecycle : Lifecycle) (eventTx : Nat) : Lifecycle :=
  { lifecycle with
    inner := lifecycle.inner.beginConnect eventTx
    connects := lifecycle.connects ++ [.establishing] }

def abortReader (handle : Option Nat) (readers : List Reader) : List Reader :=
  match handle with
  | none => readers
  | some reader => readers.modify reader fun task => { task with aborted := true }

def abortWriter (handle : Option Nat) (writers : List Writer) : List Writer :=
  match handle with
  | none => writers
  | some writer => writers.modify writer fun task => { task with running := false }

def abortMonitor (handle : Option Nat) (monitors : List Monitor) : List Monitor :=
  match handle with
  | none => monitors
  | some monitor => monitors.modify monitor fun task => { task with aborted := true }

def disconnect (lifecycle : Lifecycle) : Lifecycle :=
  { lifecycle with
    inner := lifecycle.inner.disconnect
    readers := abortReader lifecycle.inner.readerHandle lifecycle.readers
    writers := abortWriter lifecycle.inner.writerHandle lifecycle.writers
    monitors := abortMonitor lifecycle.inner.reconnectHandle lifecycle.monitors }

def spawnTasks (lifecycle : Lifecycle) : Lifecycle :=
  { lifecycle with
    readers := lifecycle.readers ++ [⟨.reading, false⟩]
    writers := lifecycle.writers ++ [⟨true⟩] }

def setMonitor (lifecycle : Lifecycle) (monitor : Nat) (task : Monitor) : Lifecycle :=
  { lifecycle with monitors := lifecycle.monitors.set monitor task }

def setConnect (lifecycle : Lifecycle) (call : Nat) (phase : ConnectPhase) : Lifecycle :=
  { lifecycle with connects := lifecycle.connects.set call phase }

def background (lifecycle : Lifecycle) : Background → Option Lifecycle
  | .readerEvent reader selfId =>
      -- An aborted reader still handles the messages that it finds at hand.
      match lifecycle.readers[reader]? with
      | some ⟨.reading, _⟩ =>
          some { lifecycle with inner := lifecycle.inner.learnSelfId selfId }
      | _ => none
  | .readerPanics reader =>
      -- `handleTextMessage` does not come back from a text, and no exit is recorded.
      match lifecycle.readers[reader]? with
      | some ⟨.reading, aborted⟩ =>
          some { lifecycle with readers := lifecycle.readers.set reader ⟨.done, aborted⟩ }
      | _ => none
  | .readerEnds reader =>
      match lifecycle.readers[reader]? with
      | some ⟨.reading, aborted⟩ =>
          some { lifecycle with readers := lifecycle.readers.set reader ⟨.exiting, aborted⟩ }
      | _ => none
  | .readerExit reader =>
      match lifecycle.readers[reader]? with
      | some ⟨.exiting, aborted⟩ =>
          some
            { lifecycle with
              inner := lifecycle.inner.readerExit
              readers := lifecycle.readers.set reader ⟨.done, aborted⟩ }
      | _ => none
  | .writerEnds writer =>
      match lifecycle.writers[writer]? with
      | some ⟨true⟩ =>
          some { lifecycle with writers := lifecycle.writers.set writer ⟨false⟩ }
      | _ => none
  | .monitorWakes monitor =>
      match lifecycle.monitors[monitor]? with
      | some ⟨.polling, false⟩ => some (lifecycle.setMonitor monitor ⟨.woken, false⟩)
      | _ => none
  | .monitorPolls monitor =>
      match lifecycle.monitors[monitor]? with
      | some ⟨.woken, aborted⟩ =>
          some (lifecycle.setMonitor monitor
            ⟨if lifecycle.inner.state = .connected then .polling else .lostSeen, aborted⟩)
      | _ => none
  | .monitorBegins monitor =>
      match lifecycle.monitors[monitor]? with
      | some ⟨.lostSeen, aborted⟩ =>
          some { lifecycle.setMonitor monitor ⟨.waiting, aborted⟩ with
            inner := lifecycle.inner.beginReconnect }
      | _ => none
  | .monitorAttempts monitor =>
      match lifecycle.monitors[monitor]? with
      | some ⟨.waiting, false⟩ => some (lifecycle.setMonitor monitor ⟨.connecting, false⟩)
      | _ => none
  | .monitorFails monitor =>
      match lifecycle.monitors[monitor]? with
      | some ⟨.connecting, false⟩ => some (lifecycle.setMonitor monitor ⟨.waiting, false⟩)
      | _ => none
  | .monitorSucceeds monitor =>
      match lifecycle.monitors[monitor]? with
      | some ⟨.connecting, false⟩ =>
          some (lifecycle.spawnTasks.setMonitor monitor
            ⟨.succeeded lifecycle.readers.length lifecycle.writers.length, false⟩)
      | _ => none
  | .monitorInstalls monitor =>
      match lifecycle.monitors[monitor]? with
      | some ⟨.succeeded reader writer, aborted⟩ =>
          some { lifecycle.setMonitor monitor ⟨.done, aborted⟩ with
            inner := lifecycle.inner.install reader writer }
      | _ => none
  | .connectFails call error =>
      match lifecycle.connects[call]? with
      | some .establishing => some (lifecycle.setConnect call (.failed error))
      | _ => none
  | .connectSpawns call =>
      match lifecycle.connects[call]? with
      | some .establishing =>
          some (lifecycle.spawnTasks.setConnect call
            (.spawned lifecycle.readers.length lifecycle.writers.length))
      | _ => none
  | .connectInstalls call =>
      match lifecycle.connects[call]? with
      | some (.spawned reader writer) =>
          some { lifecycle.setConnect call .connected with
            inner := (lifecycle.inner.install reader writer).storeMonitor
              lifecycle.monitors.length
            monitors := lifecycle.monitors ++ [⟨.polling, false⟩] }
      | _ => none

variable {lifecycle next : Lifecycle} {action : Background}

theorem background_tasks (stepped : lifecycle.background action = some next) :
    (next.monitors = lifecycle.monitors ∧ next.connects = lifecycle.connects ∧
      ∀ index, action ≠ .monitorInstalls index) ∨
    (∃ index before phase, lifecycle.monitors[index]? = some before ∧ before.phase ≠ .done ∧
      next.monitors = lifecycle.monitors.set index ⟨phase, before.aborted⟩ ∧
      next.connects = lifecycle.connects ∧
      (phase = .done ↔ ∃ index, action = .monitorInstalls index)) ∨
    (∃ call phase, lifecycle.connects[call]? = some .establishing ∧ phase ≠ .connected ∧
      next.monitors = lifecycle.monitors ∧
      next.connects = lifecycle.connects.set call phase ∧
      ∀ index, action ≠ .monitorInstalls index) ∨
    (∃ call reader writer, lifecycle.connects[call]? = some (.spawned reader writer) ∧
      next.monitors = lifecycle.monitors ++ [⟨.polling, false⟩] ∧
      next.connects = lifecycle.connects.set call .connected ∧
      ∀ index, action ≠ .monitorInstalls index) := by
  cases action with
  | readerEvent reader _ | readerPanics reader | readerEnds reader | readerExit reader
  | writerEnds reader =>
      left
      simp only [background] at stepped
      split at stepped
      next =>
        cases stepped
        exact ⟨rfl, rfl, by simp⟩
      next => cases stepped
  | monitorPolls monitor =>
      right
      left
      simp only [background] at stepped
      split at stepped
      next found =>
        cases stepped
        refine ⟨monitor, _, _, found, by simp, rfl, rfl, ?_⟩
        split <;> simp
      next => cases stepped
  | monitorWakes monitor | monitorBegins monitor | monitorAttempts monitor
  | monitorFails monitor | monitorSucceeds monitor | monitorInstalls monitor =>
      right
      left
      simp only [background] at stepped
      split at stepped
      next found =>
        cases stepped
        exact ⟨monitor, _, _, found, by simp, rfl, rfl, by simp⟩
      next => cases stepped
  | connectFails call error | connectSpawns call =>
      right
      right
      left
      simp only [background] at stepped
      split at stepped
      next found =>
        cases stepped
        exact ⟨call, _, found, by simp, rfl, rfl, by simp⟩
      next => cases stepped
  | connectInstalls call =>
      right
      right
      right
      simp only [background] at stepped
      split at stepped
      next reader writer found =>
        cases stepped
        exact ⟨call, reader, writer, found, rfl, rfl, by simp⟩
      next => cases stepped

theorem background_pendingCalls (stepped : lifecycle.background action = some next) :
    next.inner.pendingCalls = lifecycle.inner.pendingCalls := by
  have exits : lifecycle.inner.readerExit.pendingCalls = lifecycle.inner.pendingCalls := by
    unfold Inner.readerExit
    split <;> rfl
  cases action <;>
    · simp only [background] at stepped
      split at stepped
      next =>
        cases stepped
        first | rfl | exact exits
      next => cases stepped

/-- The adapter between the calls of `connect` and `disconnect`. -/
def machine : Machine Lifecycle Background := ⟨background⟩

def opened (eventTx : Nat) : Lifecycle := new.beginConnect eventTx

/-- Once a call of `connect` has returned without an error, a monitor is
alive: it polls the state or is in its retry loop. -/
def MonitorAlive (lifecycle : Lifecycle) : Prop :=
  .connected ∈ lifecycle.connects → ∃ monitor ∈ lifecycle.monitors, monitor.alive = true

def NoReconnect (_ : Lifecycle) (action : Background) : Prop :=
  ∀ index, action ≠ .monitorInstalls index

/-- One call of `connect`, and the one monitor that it spawns. -/
inductive SoleMonitor (lifecycle : Lifecycle) : Prop where
  | opening (phase : ConnectPhase) (unfinished : phase ≠ .connected)
      (call : lifecycle.connects = [phase]) (unmonitored : lifecycle.monitors = [])
  | established (phase : MonitorPhase) (call : lifecycle.connects = [.connected])
      (monitor : lifecycle.monitors = [⟨phase, false⟩])

theorem eq_of_getElem?_singleton {Value : Type} {value found : Value} {index : Nat}
    (position : [value][index]? = some found) : index = 0 ∧ found = value := by
  cases index with
  | zero =>
      cases position
      exact ⟨rfl, rfl⟩
  | succ index => cases position

/-- A step keeps the sole monitor, and ends it exactly when a reconnect
completes. -/
theorem SoleMonitor.step (sole : SoleMonitor lifecycle)
    (stepped : lifecycle.background action = some next) :
    SoleMonitor next ∧
      (MonitorAlive lifecycle → (MonitorAlive next ↔ NoReconnect lifecycle action)) := by
  rcases background_tasks stepped with
    ⟨monitors, connects, quiet⟩ |
    ⟨index, before, phase, found, running, monitors, connects, ends⟩ |
    ⟨call, phase, found, unfinished, monitors, connects, quiet⟩ |
    ⟨call, reader, writer, found, monitors, connects, quiet⟩
  · refine ⟨?_, ?_⟩
    · cases sole with
      | opening phase unfinished call unmonitored =>
          exact .opening phase unfinished (connects.trans call) (monitors.trans unmonitored)
      | established phase call monitor =>
          exact .established phase (connects.trans call) (monitors.trans monitor)
    · intro holds
      have kept : MonitorAlive next := by
        unfold MonitorAlive
        rw [monitors, connects]
        exact holds
      exact iff_of_true kept quiet
  · cases sole with
    | opening phase unfinished call unmonitored => simp [unmonitored] at found
    | established current call monitor =>
        rw [monitor] at found monitors
        rcases eq_of_getElem?_singleton found with ⟨rfl, rfl⟩
        refine ⟨.established phase (connects.trans call) monitors, ?_⟩
        intro holds
        simp only [MonitorAlive, connects, call, monitors, NoReconnect]
        simp only [List.mem_singleton, List.set_cons_zero, exists_eq_left, Monitor.alive,
          forall_const, Bool.not_false, Bool.and_true, bne_iff_ne, ne_eq, ends, not_exists]
  · cases sole with
    | opening current unfinished' call' unmonitored =>
        rw [call'] at found connects
        rcases eq_of_getElem?_singleton found with ⟨rfl, rfl⟩
        refine ⟨.opening phase unfinished connects (monitors.trans unmonitored), ?_⟩
        intro holds
        apply iff_of_true _ quiet
        intro returned
        rw [connects] at returned
        simp only [List.set_cons_zero, List.mem_singleton] at returned
        exact absurd returned.symm unfinished
    | established current call' monitor =>
        rw [call'] at found
        rcases eq_of_getElem?_singleton found with ⟨_, same⟩
        cases same
  · cases sole with
    | opening current unfinished' call' unmonitored =>
        rw [call'] at found connects
        rcases eq_of_getElem?_singleton found with ⟨rfl, rfl⟩
        rw [unmonitored] at monitors
        refine ⟨.established .polling connects monitors, ?_⟩
        intro holds
        apply iff_of_true _ quiet
        intro returned
        exact ⟨⟨.polling, false⟩, by simp [monitors], rfl⟩
    | established current call' monitor =>
        rw [call'] at found
        rcases eq_of_getElem?_singleton found with ⟨_, same⟩
        cases same

end Lifecycle

end Ferroq.Gateway.Lagrange
