import Scrimmage.Json.Mismatch

namespace Scrimmage

open Json

inductive Team
  | first
  | second
  deriving DecidableEq, Repr

/-- A player may leave the choice to the game. -/
inductive TeamWish
  | first
  | second
  | random
  deriving DecidableEq, Repr, Inhabited

namespace Team

def name : Team → String
  | .first => "first"
  | .second => "second"

def names : List (String × Team) := [("first", .first), ("second", .second)]

def read (v : Value) : Reading Team := readChoice false names v

/-- A team inside a message. -/
def readInMessage (v : Value) : Reading Team := readChoice true names v

end Team

namespace TeamWish

/-- The wish of a player who states none. -/
def unstated : TeamWish := .random

def name : TeamWish → String
  | .first => "first"
  | .second => "second"
  | .random => "random"

def names : List (String × TeamWish) :=
  [("first", .first), ("second", .second), ("random", .random)]

def read (v : Value) : Reading TeamWish := readChoice false names v

def readInMessage (v : Value) : Reading TeamWish := readChoice true names v

end TeamWish

end Scrimmage
