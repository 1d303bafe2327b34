import Ferroq.Gateway.Server.ForwardWs
import Ferroq.Library.CallSession.Settling

/-!
# Calls that go to the backends

The servers read the frames of their connections each in its own way, and make their
own replies.  What lies between is the same: a call goes to the adapter that the
router selects at the time, and is answered with what the adapter has answered.
-/

namespace Ferroq.Gateway.Server

open Ferroq.Core Ferroq.Library
open Ferroq.Gateway.Server.ForwardWs (Connection Frame Outcome Routing)

variable {Adapter Call Reply : Type}

/-- How a server reads frames and makes its replies. -/
structure Dialect (Call Reply : Type) where
  ask : Frame → Asked Call Reply
  request : Call → ApiRequest
  turnAway : Call → Reply
  respond : Call → Outcome → Reply

inductive Work (Adapter Call : Type) where
  | routing (call : Call)
  | calling (call : Call) (adapter : Adapter) (name : String)

def Work.effort : Work Adapter Call → Nat
  | .routing _ => 1
  | .calling _ _ _ => 0

namespace Dialect

variable (dialect : Dialect Call Reply) (connection : Connection Adapter)

/-- One step of the task of a call, with the router as it is at the time. -/
def advance (routing : Routing Adapter) (number : Nat) :
    Work Adapter Call → Advance (Work Adapter Call) Reply
  | .routing call =>
      match routing.router.routeTarget routing.info (dialect.request call) with
      | .ok (adapter, name) => .further (.calling call adapter name)
      | .error error => .done (dialect.respond call (.error error))
  | .calling call adapter name =>
      .done (dialect.respond call
        (connection.outcomeOf number (dialect.request call) adapter name))

theorem effort_advance {routing : Routing Adapter} {number : Nat}
    {work further : Work Adapter Call}
    (advanced : dialect.advance connection routing number work = .further further) :
    further.effort < work.effort := by
  cases work with
  | routing call =>
      simp only [advance] at advanced
      split at advanced
      next adapter name target =>
        cases advanced
        exact Nat.zero_lt_one
      next error target => cases advanced
  | calling call adapter name => cases advanced

def service : CallService Frame Call (Work Adapter Call) (Routing Adapter) Reply where
  ask := dialect.ask
  workOf := .routing
  advance := dialect.advance connection
  turnAway := dialect.turnAway
  limit := connection.tuning.wsApiMaxInFlight
  capacity := connection.tuning.wsOutboundQueueCapacity
  effort := Work.effort
  capacityPositive := connection.tuning.capacityPositive
  advances := dialect.effort_advance connection

/-- The call as a whole, by the router of some time. -/
def Served (routings : List (Routing Adapter)) (number : Nat) (call : Call) (reply : Reply) :
    Prop :=
  ∃ routing ∈ routings, reply =
    dialect.respond call
      (routing.router.routeNamed routing.info (connection.backend number) (dialect.request call))

variable {dialect connection} {routings : List (Routing Adapter)} {number : Nat} {call : Call}
  {session : CallSession Frame Call (Work Adapter Call) (Routing Adapter) Reply Event}

variable (dialect connection)

variable {dialect connection}

end Dialect

end Ferroq.Gateway.Server
