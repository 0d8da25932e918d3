namespace Scrimmage.Settings

/-- Why a text is not such a number. -/
inductive NumberFault
  | empty
  | invalidDigit
  | tooLarge
  deriving DecidableEq, Repr

def NumberFault.message : NumberFault → String
  | .empty => "cannot parse integer from empty string"
  | .invalidDigit => "invalid digit found in string"
  | .tooLarge => "number too large to fit in target type"

/-- The first number that is too large. -/
def wordSize : Nat := 18446744073709551616

def digit? (c : Char) : Option Nat :=
  if '0' ≤ c ∧ c ≤ '9' then some (c.toNat - '0'.toNat) else none

/-- Reads digits after the number `n`. The first character that is no digit, or makes the number too
large, decides. -/
def digitsAfter (n : Nat) : List Char → Except NumberFault Nat
  | [] => .ok n
  | c :: rest =>
    match digit? c with
    | none => .error .invalidDigit
    | some d => if n * 10 + d < wordSize then digitsAfter (n * 10 + d) rest else .error .tooLarge

/-- Reads a whole number of 64 bits without sign, in base ten. There may be a plus sign in front, and there has
to be a digit. -/
def readNumber : List Char → Except NumberFault Nat
  | [] => .error .empty
  | '+' :: rest => if rest.isEmpty then .error .invalidDigit else digitsAfter 0 rest
  | cs => digitsAfter 0 cs

end Scrimmage.Settings
