namespace Scrimmage

/-- The number of a connection, which the server gives out in order from 1 on. It is the key under which the
registry, the games and the server know the connection. -/
structure ConnectionId where
  number : UInt64
  deriving DecidableEq, Repr

def ConnectionId.label (c : ConnectionId) : String := "conn-" ++ c.number.toNat.repr

/-- The queue of a session. Two sessions that claim the same connection have different queues. -/
structure SessionRef where
  connection : ConnectionId
  queue : Nat
  deriving DecidableEq, Repr

end Scrimmage
