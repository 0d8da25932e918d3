import Scrimmage.Json.Fault
import Scrimmage.Json.Value
import Scrimmage.Decimal.Notation

namespace Scrimmage.Json

open Decimal (Binary64 Style)

/-- A numeral taken apart. Digits are given by their values; a numeral without a point has no digits after it.
It is valued after it has been read: a whole number of 64 bits keeps its value, and any other numeral is a
double that is computed in two steps, from as many leading digits as fit into 64 bits and then the power of ten,
so that the outcome is not always the nearest double. -/
structure Numeral where
  negative : Bool
  whole : List Nat
  fraction : List Nat
  /-- Whether the exponent is negative, and its digits. -/
  exponent : Option (Bool × List Nat)
  deriving DecidableEq, Repr

def isDigit (b : UInt8) : Bool := 0x30 ≤ b && b ≤ 0x39

def digits (input : List UInt8) : List Nat × List UInt8 :=
  ((input.takeWhile isDigit).map (·.toNat - 0x30), input.dropWhile isDigit)

def someDigits (input : List UInt8) : Read (List Nat) :=
  match input with
  | [] => .error .unfinished
  | b :: _ => if isDigit b then .ok (digits input) else .error .malformed

/-- The digits before the point; a zero in front stands alone. -/
def wholePart (input : List UInt8) : Read (List Nat) :=
  (someDigits input).next fun ds rest =>
    match ds with
    | 0 :: _ :: _ => .error .malformed
    | _ => .ok (ds, rest)

/-- The digits after the point, if there is a point. -/
def fractionPart : List UInt8 → Read (List Nat)
  | [] => .ok ([], [])
  | b :: rest => if b = 0x2E then someDigits rest else .ok ([], b :: rest)

/-- A sign in front of the exponent; whether it is a minus. -/
def exponentSign : List UInt8 → Bool × List UInt8
  | [] => (false, [])
  | b :: rest => if b = 0x2B then (false, rest) else if b = 0x2D then (true, rest) else (false, b :: rest)

def exponentPart : List UInt8 → Read (Option (Bool × List Nat))
  | [] => .ok (none, [])
  | b :: rest =>
    if b = 0x65 || b = 0x45 then
      let (negative, rest) := exponentSign rest
      (someDigits rest).map fun ds => some (negative, ds)
    else .ok (none, b :: rest)

/-- A numeral without its sign. -/
def unsignedNumeral (negative : Bool) (input : List UInt8) : Read Numeral :=
  (wholePart input).next fun whole rest =>
    (fractionPart rest).next fun fraction rest =>
      (exponentPart rest).map fun exponent => { negative, whole, fraction, exponent }

def numeral : List UInt8 → Read Numeral
  | [] => .error .unfinished
  | b :: rest => if b = 0x2D then unsignedNumeral true rest else unsignedNumeral false (b :: rest)

/-- The number that digits spell in base ten, after `n`. -/
def spelled (n : Nat) (ds : List Nat) : Nat := ds.foldl (fun n d => n * 10 + d) n

/-- Takes digits up while the number stays below `2 ^ 64`; the number and the digits that are left. -/
def absorb (n : Nat) : List Nat → Nat × List Nat
  | [] => (n, [])
  | d :: ds => if n * 10 + d < 18446744073709551616 then absorb (n * 10 + d) ds else (n, d :: ds)

/-- The greatest exponent that is looked at closely. -/
def exponentLimit : Nat := 2147483647

/-- `x · 10 ^ exponent`, in steps of at most 308 places downward; `none` when it is too large. -/
def shift (x : Binary64) (exponent : Int) : Option Binary64 :=
  if -308 ≤ exponent ∧ exponent ≤ 308 then do
    let power ← Binary64.ofNat? (Nat.pow 10 exponent.natAbs)
    if 0 ≤ exponent then x.mul power else x.div power
  else if x.isZero then some x
  else if 0 ≤ exponent then none
  else do
    let power ← Binary64.ofNat? (Nat.pow 10 308)
    let x ← x.div power
    shift x (exponent + 308)
termination_by (-exponent).toNat
decreasing_by omega

namespace Numeral

/-- The double `± n · 10 ^ exponent`. -/
def double? (negative : Bool) (n : Nat) (exponent : Int) : Option Number := do
  let x ← Binary64.ofNat? n
  let x ← shift x exponent
  some (.double { x with negative })

/-- A numeral with neither point nor exponent whose digits spell `n`. Zero with a sign is a double, for
whole numbers have no negative zero. -/
def whole? (negative : Bool) (n : Nat) : Option Number :=
  if !negative then some (.int n)
  else if n ≠ 0 ∧ n ≤ 9223372036854775808 then some (.int (-n))
  else double? true n 0

/-- The value of a numeral; `none` if it is too large. -/
def value? (numeral : Numeral) : Option Number :=
  let (n, left) := absorb 0 numeral.whole
  if left.isEmpty && numeral.fraction.isEmpty && numeral.exponent.isNone then
    whole? numeral.negative n
  else
    let (n, ignored) := absorb n numeral.fraction
    let places : Int := (left.length : Int) - ((numeral.fraction.length : Int) - ignored.length)
    match numeral.exponent with
    | none => double? numeral.negative n places
    | some (down, ds) =>
      let exponent := spelled 0 ds
      if exponentLimit < exponent then
        if n ≠ 0 ∧ !down then none else some (.double (Binary64.zero numeral.negative))
      else double? numeral.negative n (if down then places - exponent else places + exponent)

end Numeral

def readNumber (input : List UInt8) : Read Number :=
  (numeral input).next fun numeral rest =>
    match numeral.value? with
    | some n => .ok (n, rest)
    | none => .error .malformed

/-- Doubles have a point or an exponent, so that they read back as doubles; the point is placed among the
digits from five places after it to sixteen before it. -/
def numberStyle : Style := { positional := some (-5, 15), pointZero := true }

/-- The octets of characters that are all ASCII. -/
def asciiOctets (cs : List Char) : List UInt8 := cs.map fun c => .ofNat c.toNat

def writeInt (n : Int) : List UInt8 :=
  let ds := asciiOctets (Decimal.digitChars n.natAbs)
  if n < 0 then 0x2D :: ds else ds

def writeNumber : Number → List UInt8
  | .int n => writeInt n
  | .double x => asciiOctets (numberStyle.write x)

end Scrimmage.Json
