import Ferroq.Gateway.Lagrange.Sessions

/-!
# What a failed connect leaves behind

A call of `connect` sets the state before it tries to connect, and leaves it so
when it fails.  Whether anything goes on trying then depends on the monitors of
earlier connections alone: the call spawns its own only after it has succeeded.
-/

namespace Ferroq.Gateway.Lagrange

open Ferroq.Core
open Ferroq.Library

namespace Lifecycle

/-- A task is running that will keep trying to connect. -/
def Supervised (lifecycle : Lifecycle) : Prop :=
  ∃ monitor ∈ lifecycle.monitors, monitor.alive = true

/-- What the callers of `connect` take a failure for: the adapter is in the state
it was in before the call or supervised, and it is not left connecting without
being supervised. -/
def Settled (prior after : Lifecycle) : Prop :=
  (after.inner.state = prior.inner.state ∨ after.Supervised) ∧
    (after.inner.state = .connecting → after.Supervised)

variable {lifecycle next : Lifecycle} {action : Background}

theorem Supervised.settled {prior : Lifecycle} (supervised : lifecycle.Supervised) :
    prior.Settled lifecycle := ⟨.inr supervised, fun _ => supervised⟩

end Lifecycle

namespace Session

/-- A step beside a call of `connect` that takes no monitor away, brings none,
and in which no aborted monitor sets the state. -/
def Quiet (session : Session) : Action → Prop
  | .disconnect => False
  | .background (.monitorInstalls _) | .background (.connectInstalls _) => False
  | .background (.monitorBegins monitor) =>
      ∀ task ∈ session.lifecycle.monitors[monitor]?, task.aborted = false
  | _ => True

variable {session next : Session} {action : Action}

end Session

end Ferroq.Gateway.Lagrange
