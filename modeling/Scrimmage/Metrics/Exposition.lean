import Scrimmage.Decimal.Notation
import Scrimmage.Metrics.Journal

namespace Scrimmage

open Decimal (Binary64 Style)

namespace Exposition

/-- Doubles are written out in full, whole ones without a point. -/
def numberStyle : Style := { positional := none, pointZero := false }

def number (x : Binary64) : String := String.ofList (numberStyle.write x)

def ofNat (n : Nat) : Binary64 := (Binary64.ofNat? n).getD (Binary64.zero false)

def ofRatio (num den : Nat) : Binary64 := (Binary64.ofRatio false num den).getD (Binary64.zero false)

/-- The sum of doubles that are not negative. -/
def add (x y : Binary64) : Binary64 := (x.addMagnitudes y).getD y

/-- Microseconds as seconds: the whole seconds and the fraction are rounded on their own. -/
def seconds (microseconds : Nat) : Binary64 :=
  let fraction := ofRatio (microseconds % 1000000 * 1000) 1000000000
  add (ofNat (microseconds / 1000000)) fraction

/-- The bounds of the join durations, in seconds. -/
def latencyBounds : List Binary64 :=
  [5, 10, 50, 100, 250, 500, 1000, 2500, 5000, 10000].map (ofRatio · 10000)

/-- The bounds of the broadcast recipients. -/
def recipientBounds : List Binary64 := [0, 1, 2, 4, 6, 8, 10, 20].map ofNat

/-- A label value inside its quotes; the flag says that a backslash is held back. Quotes and backslashes
have a backslash before them and a line break is written by its letter. A backslash held back is written
with the next character: a quote or a second backslash takes it for an escape that is there already, any
other character shows it to stand for itself, and a line break leaves it waiting. -/
def labelChars : Bool → List Char → List Char
  | false, [] => []
  | true, [] => ['\\', '\\']
  | held, '\n' :: rest => '\\' :: 'n' :: labelChars held rest
  | _, '"' :: rest => '\\' :: '"' :: labelChars false rest
  | false, '\\' :: rest => labelChars true rest
  | true, '\\' :: rest => '\\' :: '\\' :: labelChars false rest
  | false, c :: rest => c :: labelChars false rest
  | true, c :: rest => '\\' :: '\\' :: c :: labelChars false rest

def label (name value : String) : String :=
  "\x7b" ++ name ++ "=\"" ++ String.ofList (labelChars false value.toList) ++ "\"\x7d"

def series (s : Series) : String :=
  s.name ++ (s.label.map fun l => label l.name l.value).getD ""

def typeLine (name kind : String) : String := "# TYPE " ++ name ++ " " ++ kind

/-- The lines of a histogram of samples that came in several batches; none without samples. -/
def histogram (name : String) (bounds : List Binary64) (batches : List (List Binary64)) : List String :=
  let samples := batches.flatten
  if samples.isEmpty then []
  else
    let atMost (bound : Binary64) : Nat :=
      let (num, den) := bound.ratio
      samples.countP fun x => x.magnitudeLe num den
    let zero := Binary64.zero false
    let sum := batches.foldl (fun total batch => add total (batch.foldl add zero)) zero
    [typeLine name "histogram"] ++
      (bounds.map fun bound =>
        name ++ "_bucket" ++ label "le" (number bound) ++ " " ++ (atMost bound).repr) ++
      [name ++ "_bucket" ++ label "le" "+Inf" ++ " " ++ samples.length.repr,
        name ++ "_sum " ++ number sum, name ++ "_count " ++ samples.length.repr]

def names (all : List Series) : List String := (all.map (·.name)).eraseDups

/-- All lines for journals that were scraped one after another, in ascending order. -/
def lines (batches : List Journal) : List String :=
  let all : Journal := batches.reverse.flatten
  let counters := all.counters
  let gauges := all.gauges
  let counterLines :=
    (names (counters.map (·.1))).map (typeLine · "counter") ++
      counters.map fun (s, n) => series s ++ " " ++ n.repr
  let gaugeLines :=
    (names (gauges.map (·.1))).map (typeLine · "gauge") ++
      gauges.map fun (s, n) => series s ++ " " ++ number (ofNat n.toNat)
  let latency := histogram "gs_join_latency_seconds" latencyBounds
    (batches.map fun j => j.latencies.reverse.map seconds)
  let recipients := histogram "gs_broadcast_recipients" recipientBounds
    (batches.map fun j => j.recipients.reverse.map ofNat)
  (counterLines ++ gaugeLines ++ latency ++ recipients).mergeSort (fun a b => decide (a ≤ b))

end Exposition

/-- The recorder that keeps measurements for scrapes. There is one in a process, and measurements before it is
installed are lost. Samples are added up in doubles and in two steps: those since the last scrape among each
other, then their sum to the sum so far. -/
structure Exporter where
  installed : Bool
  /-- What earlier scrapes have seen, the oldest first. -/
  scraped : List Journal
  /-- What came in since the last scrape. -/
  recent : Journal

namespace Exporter

def absent : Exporter := { installed := false, scraped := [], recent := [] }

/-- What a second installation is refused with. -/
def alreadyInstalled : String :=
  "Failed to install Prometheus metrics recorder: failed to install exporter as global recorder: " ++
    "attempted to set a recorder after the metrics system was already initialized"

def install (e : Exporter) : Except String Exporter :=
  if e.installed then .error alreadyInstalled else .ok { e with installed := true }

def record (e : Exporter) (m : Measurement) : Exporter :=
  if e.installed then { e with recent := m :: e.recent } else e

def render (e : Exporter) : List String × Exporter :=
  let scraped := e.scraped ++ [e.recent]
  (Exposition.lines scraped, { e with scraped, recent := [] })

end Exporter

end Scrimmage
