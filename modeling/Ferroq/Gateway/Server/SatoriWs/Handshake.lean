import Ferroq.Gateway.Server.SatoriWs
import Ferroq.Library.Parts

/-!
# Signals before the handshake

A client gets READY and events after an IDENTIFY with the configured token, except
for one READY: the one that answers a wrong token.
-/

namespace Ferroq.Gateway.Server.SatoriWs

open Ferroq.Core
open Ferroq.Library
open Ferroq.Gateway.Satori

namespace Connection

/-- An IDENTIFY has come whose token passed. -/
def Admitted (connection : Connection) : Prop :=
  ∃ attempt ∈ connection.attempt, attempt.Passes

/-- READY and events are written to a client that has been admitted only. -/
def Authenticated (connection : Connection) : Prop :=
  ∀ signal ∈ connection.written,
    signalOp signal.toJson = some Opcode.ready.code ∨
        signalOp signal.toJson = some Opcode.event.code →
      connection.Admitted

/-- The first IDENTIFY is still to come, and nothing has been written. -/
def Fresh (connection : Connection) : Prop :=
  connection.attempt = none ∧ connection.written = []

/-- Nothing runs for a client that has not been admitted. -/
structure Guarded (connection : Connection) : Prop where
  fresh : connection.phase = .identifying → connection.Fresh
  phase : ¬ connection.Admitted → connection.phase ≠ .greeted ∧ connection.phase ≠ .serving
  idle : ¬ connection.Admitted → connection.writing = none ∧ connection.queue = [] ∧
    connection.push = .idle ∧ connection.ponging = false

theorem new_guarded : new.Guarded where
  fresh := fun _ => ⟨rfl, rfl⟩
  phase := fun _ => ⟨nofun, nofun⟩
  idle := fun _ => ⟨rfl, rfl, rfl, rfl⟩

theorem new_authenticated : new.Authenticated := by
  intro signal listed
  cases listed

theorem guarded_of_admitted {connection : Connection} (admitted : connection.Admitted)
    (started : connection.phase ≠ .identifying) : connection.Guarded where
  fresh := fun phase => absurd phase started
  phase := fun refused => absurd admitted refused
  idle := fun refused => absurd admitted refused

theorem Fresh.not_admitted {connection : Connection} (fresh : connection.Fresh) :
    ¬ connection.Admitted := by
  rintro ⟨attempt, held, _⟩
  rw [fresh.1] at held
  cases held

namespace Guarded

variable {connection : Connection} (guarded : connection.Guarded)
include guarded

theorem started (admitted : connection.Admitted) : connection.phase ≠ .identifying :=
  fun phase => (guarded.fresh phase).not_admitted admitted

theorem admitted_of_phase (phase : connection.phase = .greeted ∨ connection.phase = .serving) :
    connection.Admitted := by
  by_contra refused
  rcases phase with greeted | serving
  · exact (guarded.phase refused).1 greeted
  · exact (guarded.phase refused).2 serving

theorem admitted_of_push (busy : connection.push ≠ .idle) : connection.Admitted := by
  by_contra refused
  exact busy (guarded.idle refused).2.2.1

theorem admitted_of_signal
    (given : connection.writing ≠ none ∨ connection.queue ≠ []) : connection.Admitted := by
  by_contra refused
  rcases given with writing | queued
  · exact writing (guarded.idle refused).1
  · exact queued (guarded.idle refused).2.1

theorem admitted_of_ponging (pending : connection.ponging = true) : connection.Admitted := by
  by_contra refused
  rw [(guarded.idle refused).2.2.2] at pending
  cases pending

end Guarded

end Connection

namespace SatoriServer

open Connection

variable {server : SatoriServer} {state next : ServerState} {connection after : Connection}
variable {doing : Doing}

variable (server) in
/-- A wrong token is not answered, since the client is gone already. -/
def TokenPasses (state : ServerState) (connection : Connection) : Doing → Prop
  | .receive frame sent => connection.phase = .identifying →
      ∀ identify ∈ server.identifyOf frame,
        Attempt.Passes ⟨identify, state.sharedConfig.accessToken⟩ ∨ sent = false
  | _ => True

theorem guarded_performs (guarded : connection.Guarded)
    (performs : server.Performs state connection doing next after) : after.Guarded := by
  cases performs with
  | passedOver | ignored => exact guarded
  | refused sent phase found wrong =>
      have idle := guarded.idle (guarded.fresh phase).not_admitted
      exact ⟨nofun, fun _ => ⟨nofun, nofun⟩, fun _ => idle⟩
  | greeted phase found passes | unreached phase found passes =>
      exact guarded_of_admitted ⟨_, rfl, passes⟩ nofun
  | pinged sent phase | lagged phase | received phase =>
      have admitted := guarded.admitted_of_phase (.inr phase)
      exact guarded_of_admitted admitted (guarded.started admitted)
  | closedBy sent phase | left phase =>
      exact guarded_of_admitted (guarded.admitted_of_phase (.inr phase)) nofun
  | gaveUp | disconnected => exact ⟨nofun, fun _ => ⟨nofun, nofun⟩, guarded.idle⟩
  | subscribed phase =>
      exact guarded_of_admitted (guarded.admitted_of_phase (.inl phase)) nofun
  | pongLost pending | ponged pending =>
      have admitted := guarded.admitted_of_ponging pending
      exact guarded_of_admitted admitted (guarded.started admitted)
  | numbered held | lost held | enqueued held | dropped held =>
      have admitted := guarded.admitted_of_push (by simp [held])
      exact guarded_of_admitted admitted (guarded.started admitted)
  | took free queued =>
      have admitted := guarded.admitted_of_signal (.inr (by simp [queued]))
      exact guarded_of_admitted admitted (guarded.started admitted)
  | wrote held | failed held =>
      have admitted := guarded.admitted_of_signal (.inl (by simp [held]))
      exact guarded_of_admitted admitted (guarded.started admitted)
  | stopped => exact ⟨guarded.fresh, guarded.phase, guarded.idle⟩

theorem authenticated_of_admitted (admitted : after.Admitted) : after.Authenticated :=
  fun _ _ _ => admitted

/-- A step keeps a connection authenticated exactly when it does not answer a
wrong token. -/
theorem authenticated_performs (guarded : connection.Guarded)
    (authenticated : connection.Authenticated)
    (performs : server.Performs state connection doing next after) :
    after.Authenticated ↔ server.TokenPasses state connection doing := by
  -- Nothing but the answer to an IDENTIFY is written before the client is admitted.
  have admittedLater (admitted : after.Admitted) (trivial : server.TokenPasses state connection
      doing) : after.Authenticated ↔ server.TokenPasses state connection doing :=
    iff_of_true (authenticated_of_admitted admitted) trivial
  cases performs with
  | passedOver sent phase junk =>
      refine iff_of_true authenticated ?_
      intro _ identify found
      rw [junk] at found
      cases found
  | @refused frame identify sent phase found wrong =>
      constructor
      · intro kept _ other same
        rw [found] at same
        cases same
        cases sent with
        | false => exact .inr rfl
        | true =>
            obtain ⟨attempt, held, passes⟩ :=
              kept .ready (by simp) (.inl (Signal.signalOp_toJson .ready))
            cases held
            exact absurd passes wrong
      · intro passes
        rcases passes phase identify found with right | unsent
        · exact absurd right wrong
        · subst unsent
          intro signal listed
          have nothing : connection.written = [] := (guarded.fresh phase).2
          simp [nothing] at listed
  | greeted phase found passes | unreached phase found passes =>
      refine admittedLater ⟨_, rfl, passes⟩ ?_
      intro _ identify other
      rw [found] at other
      cases other
      exact .inl passes
  | ignored sent phase | pinged sent phase | closedBy sent phase =>
      refine admittedLater (guarded.admitted_of_phase (.inr phase)) ?_
      intro identifying
      rw [phase] at identifying
      cases identifying
  | wrote held =>
      exact admittedLater (guarded.admitted_of_signal (.inl (by simp [held]))) True.intro
  | gaveUp | left | disconnected | subscribed | pongLost | ponged | lagged | received | numbered
  | lost | enqueued | dropped | took | failed | stopped =>
      exact iff_of_true authenticated True.intro

end SatoriServer

namespace Hub

variable {server : SatoriServer} {hub next : Hub} {action : Action}

def Authenticated (hub : Hub) : Prop :=
  ∀ connection ∈ hub.connections, connection.Authenticated

def Guarded (hub : Hub) : Prop :=
  ∀ connection ∈ hub.connections, connection.Guarded

/-- The first IDENTIFY of a connection has the configured token, or the client is
gone before it is answered. -/
def TokensPass (server : SatoriServer) (hub : Hub) : Action → Prop
  | .perform index doing => ∀ connection ∈ hub.connections[index]?,
      server.TokenPasses hub.state connection doing
  | _ => True

theorem guarded_step (guarded : hub.Guarded)
    (stepped : (machine server).step hub action = some next) : next.Guarded := by
  cases step_moves stepped with
  | published | reloaded => exact guarded
  | connected => exact forall_mem_concat guarded Connection.new_guarded
  | performed found performs =>
      exact forall_mem_set guarded
        (SatoriServer.guarded_performs (guarded _ (List.mem_of_getElem? found)) performs) _

theorem authenticated_step (guarded : hub.Guarded) (authenticated : hub.Authenticated)
    (stepped : (machine server).step hub action = some next) :
    next.Authenticated ↔ hub.TokensPass server action := by
  cases step_moves stepped with
  | published | reloaded => exact iff_of_true authenticated True.intro
  | connected =>
      exact iff_of_true (forall_mem_concat authenticated Connection.new_authenticated) True.intro
  | @performed index doing connection after state found performs =>
      have listed := List.mem_of_getElem? found
      have one := SatoriServer.authenticated_performs (guarded connection listed)
        (authenticated connection listed) performs
      have part : hub.TokensPass server (.perform index doing) ↔
          server.TokenPasses hub.state connection doing := by
        simp [TokensPass, found]
      rw [part, ← one]
      exact forall_mem_set_iff authenticated found after

/-- No client gets READY or an event before an IDENTIFY with the configured token
exactly when no wrong token is answered. -/
theorem authenticated_throughout_iff (server : SatoriServer) (sharedConfig : SharedConfig)
    (actions : List Action) :
    (machine server).Throughout Authenticated (start sharedConfig) actions ↔
      (machine server).Admits (TokensPass server) (start sharedConfig) actions :=
  (machine server).throughout_iff_admits
    (fun _ _ _ guarded _ stepped => guarded_step guarded stepped)
    (fun _ _ _ guarded authenticated stepped => authenticated_step guarded authenticated stepped)
    actions (by simp [Guarded, start]) (by simp [Authenticated, start])

section Refusal

/-- A client with a wrong token is told that it is ready. -/
theorem wrongToken_ready :
    ∃ final,
      (machine sampleServer).run (start ⟨"secret"⟩)
          [.connect, .perform 0 (.receive (.text identifyText) true)] = some final ∧
      ¬ final.Authenticated := by
  refine ⟨_, rfl, ?_⟩
  intro authenticated
  obtain ⟨attempt, held, passes⟩ := authenticated _ (List.mem_singleton_self _) .ready
    (List.mem_singleton_self _) (.inl (Signal.signalOp_toJson .ready))
  cases held
  exact absurd (passes (by decide)) (by decide)

end Refusal

end Hub

end Ferroq.Gateway.Server.SatoriWs
