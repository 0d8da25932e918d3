import Scrimmage.Decimal.Shortest

namespace Scrimmage.Decimal

def digitChars (n : Nat) : List Char := Nat.toDigits 10 n

/-- How a decimal is written: up to which sizes a number is positional, and whether a whole number keeps a zero
after the point. By that zero the reader can tell a floating-point number from an integer. -/
structure Style where
  /-- The exponents of the leading digit for which the point is placed among the digits; for all others
  the exponent is written out. `none` is every exponent. -/
  positional : Option (Int × Int)
  /-- Whether a whole number has a zero after the point. -/
  pointZero : Bool

/-- Digits with the point after the digit of weight one. -/
def positionalChars (pointZero : Bool) (ds : List Char) (exponent : Int) : List Char :=
  let tail := if pointZero then ['.', '0'] else []
  if 0 ≤ exponent then ds ++ List.replicate exponent.toNat '0' ++ tail
  else
    let places := (-exponent).toNat
    let padded := List.replicate (places + 1 - ds.length) '0' ++ ds
    let whole := padded.length - places
    padded.take whole ++ ['.'] ++ padded.drop whole

/-- The leading digit, the others after a point, and the signed exponent. -/
def scientificChars (ds : List Char) (leading : Int) : List Char :=
  let mantissa := match ds with
    | [] => []
    | [d] => [d]
    | d :: rest => d :: '.' :: rest
  let sign := if leading < 0 then '-' else '+'
  mantissa ++ ['e', sign] ++ digitChars leading.natAbs

/-- A double in the given style. -/
def Style.write (style : Style) (x : Binary64) : List Char :=
  let d := x.shortest
  let ds := digitChars d.digits
  let leading := d.exponent + ds.length - 1
  let isPositional := match style.positional with
    | none => true
    | some (low, high) => low ≤ leading && leading ≤ high
  let magnitude :=
    if x.isZero then positionalChars style.pointZero ['0'] 0
    else if isPositional then positionalChars style.pointZero ds d.exponent
    else scientificChars ds leading
  if x.negative then '-' :: magnitude else magnitude

end Scrimmage.Decimal
