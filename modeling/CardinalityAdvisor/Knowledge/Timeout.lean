import CardinalityAdvisor.Decimal.Binary
import CardinalityAdvisor.Fault

/-!
# How long to wait for a lock

A timeout is counted in nanoseconds, rounded away from zero, and must fit into 64 bits. Minus one
second means to wait for ever; other timeouts below zero are refused.

## Main definitions

* `nanoseconds`: a number of seconds in nanoseconds
* `checkTimeout`: fails if a lock cannot be waited for so long
-/

namespace CardinalityAdvisor.Knowledge

/-- The first number of nanoseconds that does not fit. -/
def nanosecondLimit : Int := 9223372036854775808

/-- A number of nanoseconds, if it fits. -/
def fitting (ns : Int) : Except Fault Int :=
  if -nanosecondLimit ≤ ns ∧ ns < nanosecondLimit then .ok ns else .error .overflow

/-- A number of seconds in nanoseconds. -/
def nanoseconds : Value → Except Fault Int
  | .float seconds =>
    if seconds.isNaN then .error .timeoutNotANumber
    else
      match Decimal.roundAway? (seconds * 1e9) with
      | some ns => fitting ns
      | none => .error .overflow
  | other => do fitting ((← ofKind other.asInt?) * 1000000000)

/-- The timeout that means to wait for ever. -/
def forEver : Int := -1000000000

/-- Fails if a lock cannot be waited for so long. -/
def checkTimeout (timeout : Value) : Except Fault Unit := do
  let ns ← nanoseconds timeout
  if ns < 0 ∧ ns ≠ forEver then .error .negativeTimeout else .ok ()

end CardinalityAdvisor.Knowledge
