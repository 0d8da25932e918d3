import Scrimmage.Decimal.Binary64

namespace Scrimmage.Decimal

/-- The decimal `digits · 10 ^ exponent`. -/
structure Expansion where
  digits : Nat
  exponent : Int
  deriving DecidableEq, Repr

namespace Shortest

/-- The number between its two halfway points to the neighbours, all three over one denominator. -/
structure Interval where
  low : Nat
  value : Nat
  high : Nat
  denominator : Nat
  /-- Whether the halfway points themselves round to the number. -/
  closed : Bool
  deriving Repr

/-- The decimals that round to `x`. The gap below a power of two is half of the gap above it. -/
def Interval.of (x : Binary64) : Interval :=
  let (unit, denominator) := Binary64.scaled 1 (x.exponent - 2)
  let narrow := x.significand = Nat.pow 2 52 ∧ x.exponent ≠ Binary64.leastExponent
  { low := (4 * x.significand - if narrow then 1 else 2) * unit
    value := 4 * x.significand * unit
    high := (4 * x.significand + 2) * unit
    denominator
    closed := x.significand % 2 = 0 }

def Interval.contains (i : Interval) (num den : Nat) : Bool :=
  let n := num * i.denominator
  if i.closed then i.low * den ≤ n && n ≤ i.high * den else i.low * den < n && n < i.high * den

/-- The exponent of the leading decimal digit of `num / den`, searched upward from `e`. -/
def leadingFrom (num den : Nat) : Nat → Int → Int
  | 0, e => e
  | steps + 1, e =>
    let (n, d) :=
      if 0 ≤ e + 1 then (num, den * Nat.pow 10 (e + 1).toNat) else (num * Nat.pow 10 (-(e + 1)).toNat, den)
    if d ≤ n then leadingFrom num den steps (e + 1) else e

/-- The exponent of the leading decimal digit of a positive `num / den`. The binary logarithm gives it up
to three steps. -/
def leading (num den : Nat) : Int :=
  let e := ((num.log2 : Int) - (den.log2 : Int) - 1) * 30103 / 100000 - 1
  leadingFrom num den 4 e

/-- The point of the grid `10 ^ e` in the interval that is nearest to the number, an even one of two. -/
def onGrid (i : Interval) (e : Int) : Option Nat :=
  -- a point k of the grid is the ratio k · up / down
  let (up, down) := if 0 ≤ e then (Nat.pow 10 e.toNat, 1) else (1, Nat.pow 10 (-e).toNat)
  let k := i.value * down / (i.denominator * up)
  let below := i.contains (k * up) down
  let above := i.contains ((k + 1) * up) down
  if below && above then
    let r := 2 * (i.value * down % (i.denominator * up))
    let whole := i.denominator * up
    if r < whole then some k
    else if whole < r then some (k + 1)
    else if k % 2 = 0 then some k else some (k + 1)
  else if below then some k
  else if above then some (k + 1)
  else none

/-- The first grid with a point in the interval, from the coarsest on. -/
def search (i : Interval) : Nat → Int → Expansion
  | 0, e => ⟨i.value / i.denominator, e⟩
  | grids + 1, e =>
    match onGrid i e with
    | some k => ⟨k, e⟩
    | none => search i grids (e - 1)

/-- Takes zeros off the end, at most `limit` of them. -/
def strip : Nat → Expansion → Expansion
  | 0, d => d
  | limit + 1, d =>
    if d.digits ≠ 0 ∧ d.digits % 10 = 0 then strip limit ⟨d.digits / 10, d.exponent + 1⟩ else d

end Shortest

/-- The shortest decimal that reads back as a given double, for the magnitude of `x`. Of the decimals that round
to the number the one with the fewest digits is taken, and of several the one nearest to the number; seventeen
digits are always enough. -/
def Binary64.shortest (x : Binary64) : Expansion :=
  if x.isZero then ⟨0, 0⟩
  else
    let i := Shortest.Interval.of x
    Shortest.strip 2 (Shortest.search i 17 (Shortest.leading i.value i.denominator))

end Scrimmage.Decimal
