import Scrimmage.Decimal.Binary64

namespace Scrimmage

open Decimal (Binary64)

inductive Measurement
  | sessionsActive (count : UInt64)
  | gamesActive (count : UInt64)
  /-- A join request was answered, with a `result` as label. -/
  | join (result : String)
  | joinLatency (microseconds : Nat)
  | unidentified
  /-- A frame was queued on so many sessions. -/
  | broadcast (recipients : Nat)
  | sessionError (kind : String)
  | panic (actor : String)
  deriving DecidableEq, Repr

/-- Every measurement that the server takes, the latest first. What a monitoring system is told is a function of
the journal. -/
abbrev Journal := List Measurement

/-- What a metric that counts is labelled with. -/
structure Label where
  name : String
  value : String
  deriving DecidableEq, Repr

/-- A value that only goes up or stands for the present. -/
structure Series where
  name : String
  label : Option Label
  deriving DecidableEq, Repr

namespace Measurement

/-- The counter that a measurement adds one to. -/
def counter? : Measurement → Option Series
  | .join result => some ⟨"gs_joins_total", some ⟨"result", result⟩⟩
  | .unidentified => some ⟨"gs_unidentified_packages_total", none⟩
  | .broadcast _ => some ⟨"gs_broadcasts_total", none⟩
  | .sessionError kind => some ⟨"gs_session_errors_total", some ⟨"kind", kind⟩⟩
  | .panic actor => some ⟨"gs_actor_panics_total", some ⟨"actor_type", actor⟩⟩
  | _ => none

/-- The gauge that a measurement sets, and the value. -/
def gauge? : Measurement → Option (Series × UInt64)
  | .sessionsActive count => some (⟨"gs_sessions_active", none⟩, count)
  | .gamesActive count => some (⟨"gs_games_active", none⟩, count)
  | _ => none

def recipients? : Measurement → Option Nat
  | .broadcast recipients => some recipients
  | _ => none

def latency? : Measurement → Option Nat
  | .joinLatency microseconds => some microseconds
  | _ => none

end Measurement

namespace Journal

/-- Keeps the first of equal entries. -/
def distinct (series : List Series) : List Series :=
  series.foldl (fun seen s => if s ∈ seen then seen else seen ++ [s]) []

/-- Every counter that was counted up, and how often. -/
def counters (j : Journal) : List (Series × Nat) :=
  let counted := j.filterMap Measurement.counter?
  (distinct counted).map fun s => (s, counted.count s)

/-- Every gauge that was set, and its latest value. -/
def gauges (j : Journal) : List (Series × UInt64) :=
  let set := j.filterMap Measurement.gauge?
  (distinct (set.map (·.1))).filterMap fun s => set.find? (·.1 = s)

def recipients (j : Journal) : List Nat := j.filterMap Measurement.recipients?

def latencies (j : Journal) : List Nat := j.filterMap Measurement.latency?

end Journal

/-- A gauge as it is kept: as a double, whose whole part is shown where only whole numbers are, no further
than the greatest word. -/
def gaugeShown (count : UInt64) : Nat :=
  match Binary64.ofNat? count.toNat with
  | some x => min x.truncate 18446744073709551615
  | none => 18446744073709551615

end Scrimmage
