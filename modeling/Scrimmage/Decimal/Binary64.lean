namespace Scrimmage.Decimal

/-- A finite binary floating-point number of 64 bits, kept exactly: a sign, a whole significand and a power of
two. Every operation computes the exact result as a ratio of whole numbers and rounds once, to the nearest
number and to the even neighbour when two are equally near; `none` says that the result is too large. -/
structure Binary64 where
  negative : Bool
  significand : Nat
  exponent : Int
  deriving DecidableEq, Repr

namespace Binary64

def leastExponent : Int := -1074

def greatestExponent : Int := 971

def zero (negative : Bool) : Binary64 := ⟨negative, 0, leastExponent⟩

def isZero (x : Binary64) : Bool := x.significand == 0

def negate (x : Binary64) : Binary64 := { x with negative := !x.negative }

/-- A ratio of whole numbers that equals `m · 2 ^ e`. -/
def scaled (m : Nat) (e : Int) : Nat × Nat :=
  if 0 ≤ e then (m * Nat.pow 2 e.toNat, 1) else (m, Nat.pow 2 (-e).toNat)

/-- The whole number nearest to `num / den`, the even one of two that are equally near. -/
def roundRatio (num den : Nat) : Nat :=
  let q := num / den
  let r := num % den
  if 2 * r < den then q
  else if den < 2 * r then q + 1
  else if q % 2 = 0 then q else q + 1

/-- The exponent at which the significand of `num / den` has 53 digits, or the least one. -/
def exponentOf (num den : Nat) : Int :=
  let e : Int := (num.log2 : Int) - (den.log2 : Int) - 52
  -- the quotient of the leading powers of two may be one digit too long for the quotient itself
  let (n, d) := scaled num (-e)
  let e := if n < d * den * Nat.pow 2 52 then e - 1 else e
  max e leastExponent

/-- The number nearest to `num / den`, where `den` is not zero. -/
def ofRatio (negative : Bool) (num den : Nat) : Option Binary64 :=
  if num = 0 then some (zero negative)
  else
    let e := exponentOf num den
    let (n, d) := scaled num (-e)
    let m := roundRatio n (d * den)
    let (m, e) := if m = Nat.pow 2 53 then (Nat.pow 2 52, e + 1) else (m, e)
    if greatestExponent < e then none else some ⟨negative, m, e⟩

def ofNat? (n : Nat) : Option Binary64 := ofRatio false n 1

/-- The magnitude as a ratio of whole numbers. -/
def ratio (x : Binary64) : Nat × Nat := scaled x.significand x.exponent

def mul (x y : Binary64) : Option Binary64 :=
  let (a, b) := x.ratio
  let (c, d) := y.ratio
  ofRatio (x.negative != y.negative) (a * c) (b * d)

/-- The quotient, where `y` is not zero. -/
def div (x y : Binary64) : Option Binary64 :=
  let (a, b) := x.ratio
  let (c, d) := y.ratio
  ofRatio (x.negative != y.negative) (a * d) (b * c)

/-- The sum of the magnitudes, for numbers that are not negative. -/
def addMagnitudes (x y : Binary64) : Option Binary64 :=
  let (a, b) := x.ratio
  let (c, d) := y.ratio
  ofRatio false (a * d + c * b) (b * d)

/-- Whether the magnitude of `x` is at most `num / den`. -/
def magnitudeLe (x : Binary64) (num den : Nat) : Bool :=
  let (a, b) := x.ratio
  a * den ≤ num * b

def truncate (x : Binary64) : Nat :=
  let (a, b) := x.ratio
  a / b

end Binary64

end Scrimmage.Decimal
