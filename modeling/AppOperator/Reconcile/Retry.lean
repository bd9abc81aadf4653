import AppOperator.Application.Status

/-!
# When to try again

After a failure the operator waits twice as long as it waited last time.
Nothing is remembered for that: how long it waited can be told from the
condition that the last failure left behind, as the time since then.

So the wait survives a restart of the operator, and a success, which leaves a
condition of another status, ends the doubling. The time since a failure includes the
wait that followed it, so doubling the one at least doubles the other.
-/

namespace AppOperator

/-- A number of milliseconds. -/
abbrev Milliseconds := Nat

namespace Retry

/-- The longest wait: six hours. -/
def longest : Milliseconds := 6 * 60 * 60 * 1000

/-- The time since the last failure, if the last outcome was one. A failure
in the future is one of this moment. -/
def sinceFailure? (previous : Option Condition) (now : Instant) : Option Milliseconds := do
  let c ← previous
  let failed ← if c.status = .no then c.lastUpdateTime else none
  return (Instant.nanosBetween failed now / 1000000).toNat

/-- **The wait before the next try**: two seconds after a first failure, then
twice the time since the last one, taken in whole seconds and at least one. -/
def interval (previous : Option Condition) (now : Instant) : Milliseconds :=
  let seconds := match sinceFailure? previous now with
    | some elapsed => max 1 ((elapsed + 500) / 1000)
    | none => 1
  min (2 * seconds * 1000) longest

end Retry
end AppOperator
