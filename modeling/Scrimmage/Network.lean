import Scrimmage.Settings.Basic

namespace Scrimmage

open Settings (SocketAddress)

inductive BindFault
  /-- The address is not one of this machine. -/
  | notLocal
  /-- Another listener is bound there. -/
  | inUse
  deriving DecidableEq, Repr

/-- A fault as the operating system words it, with its number. -/
def BindFault.message : BindFault → String
  | .notLocal => "Cannot assign requested address (os error 99)"
  | .inUse => "Address already in use (os error 98)"

/-- The addresses of a machine that listeners can be bound to, and those that are taken. -/
structure Network where
  bound : List SocketAddress
  deriving DecidableEq, Repr

namespace Network

/-- Whether an address stands for all addresses of the machine. -/
def isWildcard : SocketAddress → Bool
  | .v4 octets _ => octets.all (· = 0)
  | .v6 groups _ _ => groups.all (· = 0)

/-- Whether an address belongs to the machine: the wildcard, or one of the loopback addresses. -/
def isLocal (a : SocketAddress) : Bool :=
  isWildcard a ||
    match a with
    | .v4 octets _ => octets.head? == some 127
    | .v6 groups _ _ => groups == [0, 0, 0, 0, 0, 0, 0, 1]

/-- Whether two listeners exclude each other. Number zero asks for any number that is free. -/
def conflict (a b : SocketAddress) : Bool :=
  a.portNumber != 0 && a.portNumber == b.portNumber && (a == b || isWildcard a || isWildcard b)

def bind (n : Network) (a : SocketAddress) : Except BindFault Network :=
  if !isLocal a then .error .notLocal
  else if n.bound.any (conflict a) then .error .inUse
  else .ok { n with bound := n.bound ++ [a] }

end Network

end Scrimmage
