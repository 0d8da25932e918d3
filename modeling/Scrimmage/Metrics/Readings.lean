import Scrimmage.Metrics.Journal

namespace Scrimmage

/-- The sum of all readings of each counter, in the order in which the counters came up. A reader adds the value
of every counter to the values that it read before, so that a counter weighs more the earlier it was counted up;
of a gauge it takes the present value and of samples those that were taken so far. -/
abbrev Readings := List (Series × Nat)

/-- What a reader knows after a reading. -/
structure Report where
  counters : Readings
  gauges : List (Series × Nat)
  recipients : List Nat
  joins : Nat
  deriving DecidableEq, Repr

namespace Readings

def none : Readings := []

/-- Adds one value of a counter. -/
def add (readings : Readings) (s : Series) (n : Nat) : Readings :=
  if readings.any (·.1 = s) then readings.map fun (t, m) => if t = s then (t, m + n) else (t, m)
  else readings ++ [(s, n)]

def update (readings : Readings) (j : Journal) : Readings :=
  j.counters.foldl (fun readings (s, n) => readings.add s n) readings

def read (readings : Readings) (j : Journal) : Report :=
  { counters := readings.update j
    gauges := j.gauges.map fun (s, n) => (s, gaugeShown n)
    recipients := j.recipients.mergeSort
    joins := j.latencies.length }

end Readings

end Scrimmage
