import TaskQueue.Time.Instant

/-!
# Clocks

A reading of two clocks: civil time, which dates records, and the steady time that guards expire
by.  Both move forward together, and civil time has no reading once the calendar has ended.  Steady
time is counted in nanoseconds; a time to come is on it up to the last second that a signed word
holds.
-/

set_option autoImplicit false

namespace TaskQueue

/-- A reading of the steady clock in nanoseconds. -/
abbrev Tick := Nat

/-- The last reading that a time to come can be set to. -/
def lastTick : Tick := 2 ^ 63 * nanosPerSecond - 1

/-- The reading a span later, if a time to come can be set to it. -/
def Tick.add? (t : Tick) (d : Span) : Option Tick :=
  if t + d.nanos ≤ lastTick then some (t + d.nanos) else none

/-- One reading of both clocks. -/
structure Clock where
  /-- The civil time, as long as the calendar holds it. -/
  wall : Option Instant
  steady : Tick
  deriving DecidableEq, Repr

namespace Clock

/-- Both clocks a span later. -/
def advance (c : Clock) (d : Span) : Clock := ⟨c.wall.bind (·.add? d), c.steady + d.nanos⟩

/-- The steady clock never goes back. -/
theorem steady_le_advance (c : Clock) (d : Span) : c.steady ≤ (c.advance d).steady :=
  Nat.le_add_right _ _

end Clock

end TaskQueue
