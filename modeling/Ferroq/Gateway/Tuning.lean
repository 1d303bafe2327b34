import Mathlib.Algebra.Group.Nat.Defs
import Mathlib.Order.Defs.LinearOrder

/-!
# Tuning

The knobs that an operator sets in the environment, each read once.  A value
outside of the range of its knob is moved into it; a text that is no number
counts for nothing.
-/

namespace Ferroq.Gateway

def parseUsize (text : String) : Option Nat :=
  let digits :=
    match text.toList with
    | '+' :: rest => rest
    | digits => digits
  if digits.isEmpty || !digits.all Char.isDigit then none
  else
    let value := digits.foldl (fun value digit => 10 * value + (digit.toNat - 48)) 0
    if value < 2 ^ 64 then some value else none

def parseEnvUsize (var : String → Option String) (name : String)
    (default minimum maximum : Nat) : Nat :=
  match var name with
  | none => default
  | some raw =>
      match parseUsize raw with
      | none => default
      | some value =>
          if minimum ≤ value ∧ value ≤ maximum then value
          else max minimum (min value maximum)

theorem parseEnvUsize_bounds (var : String → Option String) (name : String)
    {default minimum maximum : Nat} (lower : minimum ≤ default) (upper : default ≤ maximum) :
    minimum ≤ parseEnvUsize var name default minimum maximum ∧
      parseEnvUsize var name default minimum maximum ≤ maximum := by
  unfold parseEnvUsize
  split
  next => exact ⟨lower, upper⟩
  next raw _ =>
    split
    next => exact ⟨lower, upper⟩
    next value _ =>
      split
      next inside => exact inside
      next => omega

def defaultWsOutboundQueueCapacity : Nat := 1024

def defaultWsApiMaxInFlight : Nat := 64

/-- The limits of one WebSocket connection; its queue has room for something. -/
structure Tuning where
  wsOutboundQueueCapacity : Nat
  wsApiMaxInFlight : Nat
  capacityPositive : 0 < wsOutboundQueueCapacity

def Tuning.read (var : String → Option String) : Tuning where
  wsOutboundQueueCapacity :=
    parseEnvUsize var "FERROQ_WS_OUTBOUND_QUEUE_CAPACITY" defaultWsOutboundQueueCapacity 64 65536
  wsApiMaxInFlight :=
    parseEnvUsize var "FERROQ_WS_API_MAX_IN_FLIGHT" defaultWsApiMaxInFlight 1 8192
  capacityPositive := by
    have bounds := parseEnvUsize_bounds var "FERROQ_WS_OUTBOUND_QUEUE_CAPACITY"
      (show 64 ≤ defaultWsOutboundQueueCapacity by decide)
      (show defaultWsOutboundQueueCapacity ≤ 65536 by decide)
    exact Nat.lt_of_lt_of_le (by decide) bounds.1

end Ferroq.Gateway
