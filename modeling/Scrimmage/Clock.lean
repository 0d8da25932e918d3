namespace Scrimmage.Clock

/-- A second, in nanoseconds. Points in time and the times between them are all counted in nanoseconds. -/
def second : Nat := 1000000000

def millisecond : Nat := 1000000

/-- The last point in time. The clock keeps whole seconds in a word of 64 bits with sign, and beside it what
there is of the next second. -/
def latest : Nat := 9223372036854775807 * second + 999999999

/-- The point that comes so much later than another. It does not exist if it would lie after the last one. -/
def after? (now duration : Nat) : Option Nat := if now + duration ≤ latest then some (now + duration) else none

def remaining (now deadline : Nat) : Nat := deadline - now

/-- What whoever asks for a point in time that does not exist is stopped with. -/
def overflow : String := "overflow when adding duration to instant"

end Scrimmage.Clock
