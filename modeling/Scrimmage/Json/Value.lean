import Scrimmage.Decimal.Binary64

namespace Scrimmage.Json

open Decimal (Binary64)

inductive Number
  | int (n : Int)
  | double (x : Binary64)
  deriving DecidableEq, Repr

/-- JSON values. A number is a whole number of 64 bits or a double, and the two are never equal; an object is
kept as the list of its members in ascending order of their names, each name once. -/
inductive Value
  | null
  | boolean (b : Bool)
  | number (n : Number)
  | string (s : String)
  | array (items : List Value)
  | object (members : List (String × Value))
  deriving BEq, Repr

/-- Whole numbers that are kept as such: those of 64 bits, with or without sign. -/
def Number.fitsInt (n : Int) : Bool := -9223372036854775808 ≤ n && n ≤ 18446744073709551615

namespace Members

/-- Puts a member in its place; a member of the same name gives way. -/
def insert (name : String) (v : Value) : List (String × Value) → List (String × Value)
  | [] => [(name, v)]
  | (other, w) :: rest =>
    if name < other then (name, v) :: (other, w) :: rest
    else if name = other then (name, v) :: rest
    else (other, w) :: insert name v rest

/-- The members of an object whose text has the given ones in this order: of one name the last stays. -/
def ofList (members : List (String × Value)) : List (String × Value) :=
  members.foldl (fun sorted (name, v) => insert name v sorted) []

def find? (name : String) (members : List (String × Value)) : Option Value :=
  (members.find? (·.1 = name)).map (·.2)

end Members

def Value.member? (name : String) : Value → Option Value
  | .object members => Members.find? name members
  | _ => none

def Value.string? : Value → Option String
  | .string s => some s
  | _ => none

end Scrimmage.Json
