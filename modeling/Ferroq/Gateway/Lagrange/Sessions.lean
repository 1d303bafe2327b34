import Ferroq.Gateway.Lagrange.Stopped

/-!
# Whole lives of a Lagrange adapter

The adapter is connected and disconnected any number of times, while its tasks
run in between.  A connection is noticed to be lost only if its reader is still
running when it is stored and does not panic later, and a disconnect is final only
if it finds every monitor at one of its waits.
-/

namespace Ferroq.Gateway.Lagrange

open Ferroq.Core
open Ferroq.Library

/-- The adapter, with whether it was disconnected after its last call of
`connect`. -/
structure Session where
  lifecycle : Lifecycle
  closed : Bool

namespace Session

inductive Action where
  | connect (eventTx : Nat)
  | disconnect
  | background (action : Background)
  deriving DecidableEq

def start : Session := { lifecycle := .new, closed := false }

def step (session : Session) : Action → Option Session
  | .connect eventTx =>
      some { lifecycle := session.lifecycle.beginConnect eventTx, closed := false }
  | .disconnect => some { lifecycle := session.lifecycle.disconnect, closed := true }
  | .background action =>
      (session.lifecycle.background action).map fun lifecycle =>
        { session with lifecycle := lifecycle }

def machine : Machine Session Action := ⟨step⟩

end Session

namespace Lifecycle

variable {lifecycle next : Lifecycle} {action : Background}

/-- The reader that a step stores as the one of the current connection. -/
def installedReader (lifecycle : Lifecycle) : Background → Option Nat
  | .connectInstalls call =>
      match lifecycle.connects[call]? with
      | some (.spawned reader _) => some reader
      | _ => none
  | .monitorInstalls monitor =>
      match lifecycle.monitors[monitor]? with
      | some ⟨.succeeded reader _, _⟩ => some reader
      | _ => none
  | _ => none

def Running (lifecycle : Lifecycle) (reader : Nat) : Prop :=
  ∀ task ∈ lifecycle.readers[reader]?, task.phase ≠ .done

instance (lifecycle : Lifecycle) (reader : Nat) : Decidable (lifecycle.Running reader) :=
  inferInstanceAs (Decidable (∀ task ∈ lifecycle.readers[reader]?, task.phase ≠ .done))

/-- A connected adapter has a reader that is still to record the loss of the
connection. -/
def LossNoticed (lifecycle : Lifecycle) : Prop :=
  lifecycle.inner.state = .connected →
    ∀ reader ∈ lifecycle.inner.readerHandle, lifecycle.Running reader

theorem background_installs {reader : Nat}
    (installs : lifecycle.installedReader action = some reader)
    (stepped : lifecycle.background action = some next) :
    next.inner.state = .connected ∧ next.inner.readerHandle = some reader ∧
      next.readers = lifecycle.readers := by
  cases action with
  | connectInstalls call =>
      simp only [installedReader] at installs
      simp only [background] at stepped
      split at stepped
      next found =>
        rw [found] at installs
        cases installs
        cases stepped
        exact ⟨rfl, rfl, rfl⟩
      next => cases stepped
  | monitorInstalls monitor =>
      simp only [installedReader] at installs
      simp only [background] at stepped
      split at stepped
      next found =>
        rw [found] at installs
        cases installs
        cases stepped
        exact ⟨rfl, rfl, rfl⟩
      next => cases stepped
  | _ => cases installs

theorem Running.append {reader : Nat} (running : lifecycle.Running reader) (tasks : List Reader)
    (fresh : ∀ task ∈ tasks, task.phase ≠ .done) :
    ∀ task ∈ (lifecycle.readers ++ tasks)[reader]?, task.phase ≠ .done := by
  intro task found
  rw [List.getElem?_append] at found
  split at found
  next => exact running task found
  next => exact fresh task (List.mem_of_getElem? found)

theorem readerPanics_lossNoticed_iff {reader : Nat} (noticed : lifecycle.LossNoticed)
    (stepped : lifecycle.background (.readerPanics reader) = some next) :
    next.LossNoticed ↔
      (lifecycle.inner.state = .connected → lifecycle.inner.readerHandle ≠ some reader) := by
  simp only [background] at stepped
  split at stepped
  next found =>
    cases stepped
    have inside := (List.getElem?_eq_some_iff.mp found).1
    constructor
    · intro kept connected current
      exact kept connected reader current _ (List.getElem?_set_self inside) rfl
    · intro other connected current handle task held
      have different : reader ≠ current := by
        rintro rfl
        exact other connected handle
      rw [List.getElem?_set_ne different] at held
      exact noticed connected current handle task held
  next => cases stepped

theorem background_lossNoticed (installs : lifecycle.installedReader action = none)
    (comesBack : ∀ reader, action ≠ .readerPanics reader)
    (noticed : lifecycle.LossNoticed) (stepped : lifecycle.background action = some next) :
    next.LossNoticed := by
  cases action with
  | readerPanics reader => exact absurd rfl (comesBack reader)
  | readerEvent _ _ | writerEnds _ | connectFails _ _ | monitorWakes _ | monitorPolls _
  | monitorAttempts _ | monitorFails _ =>
      simp only [background] at stepped
      split at stepped
      next =>
        cases stepped
        exact noticed
      next => cases stepped
  | readerEnds reader =>
      simp only [background] at stepped
      split at stepped
      next =>
        cases stepped
        intro connected current handle task found
        rw [List.getElem?_set] at found
        split at found
        next =>
          split at found
          next => cases found; simp
          next => cases found
        next => exact noticed connected current handle task found
      next => cases stepped
  | readerExit reader =>
      -- The exit is recorded if the adapter is connected.
      simp only [background] at stepped
      split at stepped
      next =>
        cases stepped
        intro connected
        simp only [Inner.readerExit] at connected
        split at connected
        next => cases connected
        next notConnected => exact absurd connected notConnected
      next => cases stepped
  | monitorBegins monitor =>
      simp only [background] at stepped
      split at stepped
      next =>
        cases stepped
        intro connected
        cases connected
      next => cases stepped
  | connectSpawns _ | monitorSucceeds _ =>
      simp only [background] at stepped
      split at stepped
      next =>
        cases stepped
        intro connected current handle
        exact (noticed connected current handle).append _ (by simp)
      next => cases stepped
  | connectInstalls call =>
      simp only [background] at stepped
      split at stepped
      next found => simp [installedReader, found] at installs
      next => cases stepped
  | monitorInstalls monitor =>
      simp only [background] at stepped
      split at stepped
      next found => simp [installedReader, found] at installs
      next => cases stepped

end Lifecycle

namespace Session

/-- Whatever connection a step stores, its reader has not ended before, and no
reader panics that is the current one of a connected adapter. -/
def StoresRunning (session : Session) : Action → Prop
  | .background (.readerPanics reader) =>
      session.lifecycle.inner.state = .connected →
        session.lifecycle.inner.readerHandle ≠ some reader
  | .background action =>
      ∀ reader ∈ session.lifecycle.installedReader action, session.lifecycle.Running reader
  | _ => True

instance (session : Session) (action : Action) : Decidable (session.StoresRunning action) := by
  unfold StoresRunning
  split <;> infer_instance

/-- A step leaves the loss of the connection noticed exactly when it does not
store a connection whose reader has ended, and no current reader panics in it. -/
theorem step_lossNoticed_iff {session next : Session} {action : Action}
    (noticed : session.lifecycle.LossNoticed) (stepped : session.step action = some next) :
    next.lifecycle.LossNoticed ↔ session.StoresRunning action := by
  cases action with
  | connect eventTx =>
      cases stepped
      exact iff_of_true (fun connected => nomatch connected) True.intro
  | disconnect =>
      cases stepped
      exact iff_of_true (fun connected => nomatch connected) True.intro
  | background action =>
      obtain ⟨lifecycle, moved, rfl⟩ := Option.map_eq_some_iff.mp stepped
      by_cases panics : ∃ reader, action = .readerPanics reader
      · obtain ⟨reader, rfl⟩ := panics
        exact Lifecycle.readerPanics_lossNoticed_iff noticed moved
      · have comesBack (reader : Nat) : action ≠ .readerPanics reader :=
          fun same => panics ⟨reader, same⟩
        have condition : session.StoresRunning (.background action) ↔
            ∀ reader ∈ session.lifecycle.installedReader action,
              session.lifecycle.Running reader := by
          cases action with
          | readerPanics reader => exact absurd rfl (comesBack reader)
          | _ => rfl
        rw [condition]
        cases installs : session.lifecycle.installedReader action with
        | none =>
            exact iff_of_true (Lifecycle.background_lossNoticed installs comesBack noticed moved)
              (by simp)
        | some reader =>
            obtain ⟨connected, current, readers⟩ := Lifecycle.background_installs installs moved
            simp only [Lifecycle.LossNoticed, connected, current, Lifecycle.Running, readers,
              forall_const]

/-- In every life of an adapter, a connection whose reader has ended is noticed
as lost in every state exactly when no connection is stored after its reader
has ended and no current reader of a connected adapter panics. -/
theorem lossNoticed_throughout_iff (actions : List Action) :
    machine.Throughout (fun session => session.lifecycle.LossNoticed) start actions ↔
      machine.Admits StoresRunning start actions := by
  have started : start.lifecycle.LossNoticed := fun connected => nomatch connected
  exact machine.throughout_iff_admits (fun _ _ _ (_ : True) _ _ => True.intro)
    (fun _ _ _ _ noticed stepped => step_lossNoticed_iff noticed stepped)
    actions True.intro started

/-- The reader of a new connection ends and records nothing before `connect`
stores the connection, and the adapter stays connected without a reader. -/
theorem earlyLoss_unnoticed :
    ∃ session, machine.run start
        [.connect 0, .background (.connectSpawns 0), .background (.readerEnds 0),
          .background (.readerExit 0), .background (.connectInstalls 0)] = some session ∧
      session.lifecycle.inner.state = .connected ∧
      session.lifecycle.inner.readerHandle = some 0 ∧
      session.lifecycle.readers = [⟨.done, false⟩] ∧
      session.lifecycle.connects = [.connected] :=
  ⟨_, rfl, rfl, rfl, rfl, rfl⟩

-- Neither is the loss of a reader that panics on a text.
example :
    ∃ session, machine.run start
        [.connect 0, .background (.connectSpawns 0), .background (.connectInstalls 0),
          .background (.readerPanics 0)] = some session ∧
      session.lifecycle.inner.state = .connected ∧
      session.lifecycle.readers = [⟨.done, false⟩] :=
  ⟨_, rfl, rfl, rfl⟩

end Session

def MonitorPhase.waits : MonitorPhase → Bool
  | polling => true
  | waiting => true
  | connecting => true
  | _ => false

def Monitor.halted (monitor : Monitor) : Bool :=
  monitor.phase = .done || (monitor.aborted && monitor.phase.waits)

namespace Lifecycle

variable {lifecycle next : Lifecycle} {action : Background}

/-- The adapter is disconnected, and nothing is left that could change this. -/
structure Halted (lifecycle : Lifecycle) : Prop where
  disconnected : lifecycle.inner.state = .disconnected
  noWriter : lifecycle.inner.wsWriterTx = none
  returned : ∀ phase ∈ lifecycle.connects, phase.returned = true
  halted : ∀ monitor ∈ lifecycle.monitors, monitor.halted = true

/-- Every call of `connect` has returned, and every monitor has ended or waits,
aborted already or held by the handle that a disconnect aborts. -/
def Quiescent (lifecycle : Lifecycle) : Prop :=
  (∀ phase ∈ lifecycle.connects, phase.returned = true) ∧
    ∀ entry ∈ lifecycle.monitors.zipIdx, entry.1.phase = .done ∨
      (entry.1.phase.waits = true ∧
        (entry.1.aborted = true ∨ lifecycle.inner.reconnectHandle = some entry.2))

instance (lifecycle : Lifecycle) : Decidable lifecycle.Quiescent :=
  inferInstanceAs (Decidable (_ ∧ _))

theorem getElem?_monitors_disconnect (lifecycle : Lifecycle) (index : Nat) :
    lifecycle.disconnect.monitors[index]? =
      (lifecycle.monitors[index]?).map fun monitor =>
        if lifecycle.inner.reconnectHandle = some index then { monitor with aborted := true }
        else monitor := by
  simp only [Lifecycle.disconnect, abortMonitor]
  cases lifecycle.inner.reconnectHandle with
  | none => simp
  | some handle =>
      simp only [List.getElem?_modify, Option.some.injEq]
      by_cases same : handle = index
      · simp [same]
      · simp [same]

/-- A disconnect halts an adapter exactly when it is quiescent. -/
theorem disconnect_halted_iff : lifecycle.disconnect.Halted ↔ lifecycle.Quiescent := by
  have each (index : Nat) (monitor : Monitor) :
      (if lifecycle.inner.reconnectHandle = some index then { monitor with aborted := true }
        else monitor).halted = true ↔
      monitor.phase = .done ∨ (monitor.phase.waits = true ∧
        (monitor.aborted = true ∨ lifecycle.inner.reconnectHandle = some index)) := by
    split
    next held => simp [Monitor.halted, held]
    next other => simp [Monitor.halted, other, and_comm]
  constructor
  · intro halted
    refine ⟨halted.returned, ?_⟩
    rintro ⟨monitor, index⟩ listed
    have position := List.mem_zipIdx_iff_getElem?.mp listed
    have after := getElem?_monitors_disconnect lifecycle index
    rw [position] at after
    exact (each index monitor).mp (halted.halted _ (List.mem_of_getElem? after))
  · rintro ⟨returned, quiet⟩
    refine ⟨rfl, rfl, returned, ?_⟩
    intro monitor listed
    obtain ⟨index, position⟩ := List.mem_iff_getElem?.mp listed
    rw [getElem?_monitors_disconnect] at position
    obtain ⟨before, earlier, rfl⟩ := Option.map_eq_some_iff.mp position
    exact (each index before).mpr
      (quiet (before, index) (List.mem_zipIdx_iff_getElem?.mpr earlier))

theorem Halted.background (halted : lifecycle.Halted)
    (stepped : lifecycle.background action = some next) : next.Halted := by
  cases action with
  | readerEvent _ _ | readerPanics _ | readerEnds _ | writerEnds _ =>
      simp only [Lifecycle.background] at stepped
      split at stepped
      next =>
        cases stepped
        exact ⟨halted.disconnected, halted.noWriter, halted.returned, halted.halted⟩
      next => cases stepped
  | readerExit _ =>
      simp only [Lifecycle.background] at stepped
      split at stepped
      next =>
        cases stepped
        have unchanged : lifecycle.inner.readerExit = lifecycle.inner := by
          simp [Inner.readerExit, halted.disconnected]
        rw [unchanged]
        exact ⟨halted.disconnected, halted.noWriter, halted.returned, halted.halted⟩
      next => cases stepped
  | monitorWakes _ | monitorPolls _ | monitorBegins _ | monitorAttempts _ | monitorFails _
  | monitorSucceeds _ | monitorInstalls _ =>
      simp only [Lifecycle.background] at stepped
      split at stepped
      next found =>
        have ended := halted.halted _ (List.mem_of_getElem? found)
        simp [Monitor.halted, MonitorPhase.waits] at ended
      next => cases stepped
  | connectFails _ _ | connectSpawns _ | connectInstalls _ =>
      simp only [Lifecycle.background] at stepped
      split at stepped
      next found => cases halted.returned _ (List.mem_of_getElem? found)
      next => cases stepped

end Lifecycle

namespace Session

/-- After a disconnect, and until the next call of `connect`, the adapter is
disconnected and has no writer. -/
def StaysClosed (session : Session) : Prop :=
  session.closed = true →
    session.lifecycle.inner.state = .disconnected ∧ session.lifecycle.inner.wsWriterTx = none

def DisconnectsQuiescent (session : Session) : Action → Prop
  | .disconnect => session.lifecycle.Quiescent
  | _ => True

instance (session : Session) (action : Action) :
    Decidable (session.DisconnectsQuiescent action) := by
  cases action <;> unfold DisconnectsQuiescent <;> infer_instance

theorem step_halted {session next : Session} {action : Action}
    (halted : session.closed = true → session.lifecycle.Halted)
    (quiescent : session.DisconnectsQuiescent action)
    (stepped : session.step action = some next) :
    next.closed = true → next.lifecycle.Halted := by
  cases action with
  | connect eventTx =>
      cases stepped
      exact nofun
  | disconnect =>
      cases stepped
      exact fun _ => Lifecycle.disconnect_halted_iff.mpr quiescent
  | background action =>
      obtain ⟨lifecycle, moved, rfl⟩ := Option.map_eq_some_iff.mp stepped
      exact fun closed => (halted closed).background moved

/-- In every life of an adapter whose disconnects find it quiescent, a
disconnect is final until the next call of `connect`. -/
theorem staysClosed_throughout (actions : List Action)
    (quiescent : machine.Admits DisconnectsQuiescent start actions) :
    machine.Throughout StaysClosed start actions :=
  machine.throughout_of_admits
    (fun _ _ _ halted condition stepped => step_halted halted condition stepped)
    (fun _ halted closed => ⟨(halted closed).disconnected, (halted closed).noWriter⟩)
    nofun quiescent

def quietLife : List Action :=
  [.connect 0, .background (.connectSpawns 0), .background (.connectInstalls 0), .disconnect]

theorem staysClosed_throughout_quietLife : machine.Throughout StaysClosed start quietLife :=
  staysClosed_throughout quietLife (by decide)

/-- A disconnect that falls between a successful reconnect and the lock under
which the monitor stores the connection leaves the adapter connected. -/
theorem lateReconnect_reopens :
    ∃ session, machine.run start
        [.connect 0, .background (.connectSpawns 0), .background (.connectInstalls 0),
          .background (.readerEnds 0), .background (.readerExit 0),
          .background (.monitorWakes 0), .background (.monitorPolls 0),
          .background (.monitorBegins 0), .background (.monitorAttempts 0),
          .background (.monitorSucceeds 0), .disconnect, .background (.monitorInstalls 0)] =
        some session ∧
      session.closed = true ∧ session.lifecycle.inner.state = .connected ∧
      session.lifecycle.inner.wsWriterTx = some 1 :=
  ⟨_, rfl, rfl, rfl, rfl⟩

end Session

namespace Lifecycle

variable {lifecycle : Lifecycle}

def Reopened (lifecycle : Lifecycle) : Prop :=
  lifecycle.inner.state ≠ .disconnected ∨ lifecycle.inner.wsWriterTx ≠ none

def CanReopen (lifecycle : Lifecycle) : Prop :=
  ∃ actions final, machine.run lifecycle actions = some final ∧ final.Reopened

theorem CanReopen.cons {next : Lifecycle} {action : Background}
    (stepped : lifecycle.background action = some next) (later : next.CanReopen) :
    lifecycle.CanReopen := by
  obtain ⟨actions, final, reached, reopened⟩ := later
  exact ⟨action :: actions, final, machine.run_cons_eq_some.mpr ⟨next, stepped, reached⟩, reopened⟩

theorem CanReopen.last {next : Lifecycle} {action : Background}
    (stepped : lifecycle.background action = some next) (reopened : next.Reopened) :
    lifecycle.CanReopen :=
  .cons stepped ⟨[], next, rfl, reopened⟩

theorem canReopen_of_spawned {call reader writer : Nat}
    (found : lifecycle.connects[call]? = some (.spawned reader writer)) : lifecycle.CanReopen := by
  have stepped : lifecycle.background (.connectInstalls call) = some
      { lifecycle.setConnect call .connected with
        inner := (lifecycle.inner.install reader writer).storeMonitor lifecycle.monitors.length
        monitors := lifecycle.monitors ++ [⟨.polling, false⟩] } := by
    simp only [Lifecycle.background, found]
  exact .last stepped (Or.inl (by simp [Inner.install, Inner.storeMonitor]))

theorem canReopen_of_connect {call : Nat} {phase : ConnectPhase}
    (found : lifecycle.connects[call]? = some phase) (running : phase.returned = false) :
    lifecycle.CanReopen := by
  cases phase with
  | establishing =>
      have stepped : lifecycle.background (.connectSpawns call) = some
          (lifecycle.spawnTasks.setConnect call
            (.spawned lifecycle.readers.length lifecycle.writers.length)) := by
        simp only [Lifecycle.background, found]
      have inside := (List.getElem?_eq_some_iff.mp found).1
      exact .cons stepped (canReopen_of_spawned (List.getElem?_set_self inside))
  | spawned reader writer => exact canReopen_of_spawned found
  | failed _ | connected => cases running

theorem getElem?_setMonitor {monitor : Nat} {before : Monitor}
    (found : lifecycle.monitors[monitor]? = some before) (task : Monitor) :
    (lifecycle.setMonitor monitor task).monitors[monitor]? = some task :=
  List.getElem?_set_self (List.getElem?_eq_some_iff.mp found).1

section

variable {monitor : Nat} {aborted : Bool}

theorem canReopen_of_succeeded {reader writer : Nat}
    (found : lifecycle.monitors[monitor]? = some ⟨.succeeded reader writer, aborted⟩) :
    lifecycle.CanReopen := by
  have stepped : lifecycle.background (.monitorInstalls monitor) = some
      { lifecycle.setMonitor monitor ⟨.done, aborted⟩ with
        inner := lifecycle.inner.install reader writer } := by
    simp only [Lifecycle.background, found]
  exact .last stepped (Or.inl (by simp [Inner.install]))

theorem canReopen_of_connecting
    (found : lifecycle.monitors[monitor]? = some ⟨.connecting, false⟩) :
    lifecycle.CanReopen := by
  have stepped : lifecycle.background (.monitorSucceeds monitor) = some
      (lifecycle.spawnTasks.setMonitor monitor
        ⟨.succeeded lifecycle.readers.length lifecycle.writers.length, false⟩) := by
    simp only [Lifecycle.background, found]
  exact .cons stepped (canReopen_of_succeeded (getElem?_setMonitor found _))

theorem canReopen_of_waiting (found : lifecycle.monitors[monitor]? = some ⟨.waiting, false⟩) :
    lifecycle.CanReopen := by
  have stepped : lifecycle.background (.monitorAttempts monitor) = some
      (lifecycle.setMonitor monitor ⟨.connecting, false⟩) := by
    simp only [Lifecycle.background, found]
  exact .cons stepped (canReopen_of_connecting (getElem?_setMonitor found _))

theorem canReopen_of_lostSeen
    (found : lifecycle.monitors[monitor]? = some ⟨.lostSeen, aborted⟩) :
    lifecycle.CanReopen := by
  have stepped : lifecycle.background (.monitorBegins monitor) = some
      { lifecycle.setMonitor monitor ⟨.waiting, aborted⟩ with
        inner := lifecycle.inner.beginReconnect } := by
    simp only [Lifecycle.background, found]
  exact .last stepped (Or.inl (by simp [Inner.beginReconnect]))

/-- A monitor that polls after the disconnect takes it for a loss. -/
theorem canReopen_of_woken (disconnected : lifecycle.inner.state = .disconnected)
    (found : lifecycle.monitors[monitor]? = some ⟨.woken, aborted⟩) :
    lifecycle.CanReopen := by
  have stepped : lifecycle.background (.monitorPolls monitor) = some
      (lifecycle.setMonitor monitor ⟨.lostSeen, aborted⟩) := by
    simp [Lifecycle.background, found, disconnected]
  exact .cons stepped (canReopen_of_lostSeen (getElem?_setMonitor found _))

theorem canReopen_of_polling (disconnected : lifecycle.inner.state = .disconnected)
    (found : lifecycle.monitors[monitor]? = some ⟨.polling, false⟩) :
    lifecycle.CanReopen := by
  have stepped : lifecycle.background (.monitorWakes monitor) = some
      (lifecycle.setMonitor monitor ⟨.woken, false⟩) := by
    simp only [Lifecycle.background, found]
  exact .cons stepped (canReopen_of_woken disconnected (getElem?_setMonitor found _))

theorem canReopen_of_monitor (disconnected : lifecycle.inner.state = .disconnected)
    {task : Monitor} (found : lifecycle.monitors[monitor]? = some task)
    (going : task.halted = false) : lifecycle.CanReopen := by
  rcases task with ⟨phase, aborted⟩
  cases phase with
  | polling =>
      cases aborted with
      | false => exact canReopen_of_polling disconnected found
      | true => cases going
  | woken => exact canReopen_of_woken disconnected found
  | lostSeen => exact canReopen_of_lostSeen found
  | waiting =>
      cases aborted with
      | false => exact canReopen_of_waiting found
      | true => cases going
  | connecting =>
      cases aborted with
      | false => exact canReopen_of_connecting found
      | true => cases going
  | succeeded reader writer => exact canReopen_of_succeeded found
  | done => cases going

end

/-- A disconnect is final, whatever the tasks do after it, exactly when it finds
the adapter quiescent. -/
theorem disconnect_final_iff : ¬ lifecycle.disconnect.CanReopen ↔ lifecycle.Quiescent := by
  constructor
  · intro final
    refine disconnect_halted_iff.mp ⟨rfl, rfl, ?_, ?_⟩
    · intro phase listed
      obtain ⟨call, found⟩ := List.mem_iff_getElem?.mp listed
      by_contra running
      exact final (canReopen_of_connect found (by simpa using running))
    · intro monitor listed
      obtain ⟨index, found⟩ := List.mem_iff_getElem?.mp listed
      by_contra going
      exact final (canReopen_of_monitor rfl found (by simpa using going))
  · rintro quiescent ⟨actions, final, reached, reopened⟩
    have halted : final.Halted :=
      machine.run_invariant (fun _ _ _ halted stepped => halted.background stepped)
        (disconnect_halted_iff.mpr quiescent) reached
    rcases reopened with state | writer
    · exact state halted.disconnected
    · exact writer halted.noWriter

end Lifecycle

end Ferroq.Gateway.Lagrange
