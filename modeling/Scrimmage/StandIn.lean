import Scrimmage.Exchange
import Scrimmage.Table

namespace Scrimmage

/-- A connection without a client. It has a queue like any session, but what is put into it is not sent
anywhere: it waits until it is looked at. A stand-in comes into being when it is first mentioned. -/
structure StandIn where
  ref : SessionRef
  /-- Whether its queue is there to be looked at. A session that has a client drains its queue itself. -/
  listening : Bool
  deriving DecidableEq, Repr

abbrev StandIns := Table ConnectionId StandIn

namespace StandIns

/-- The stand-in of a connection, with a new queue on its first use. -/
def summon (s : StandIns) (x : Exchange) (c : ConnectionId) : StandIn × StandIns × Exchange :=
  match s.find? c with
  | some standIn => (standIn, s, x)
  | none =>
    let (ref, x) := x.openOutbox c
    let standIn : StandIn := { ref, listening := true }
    (standIn, s.insert c standIn, x)

/-- What waits in the queue, which is empty afterwards; `none` once no one looks at it any more. -/
def take (s : StandIns) (x : Exchange) (c : ConnectionId) : Option (List Command) × StandIns × Exchange :=
  let (standIn, s, x) := s.summon x c
  if standIn.listening then
    (some (x.waiting standIn.ref), s, x.modifyOutbox standIn.ref (·.clear))
  else (none, s, x)

/-- Stops looking at a queue, which then takes nothing more; whether anyone did. -/
def hangUp (s : StandIns) (x : Exchange) (c : ConnectionId) : Bool × StandIns × Exchange :=
  let (standIn, s, x) := s.summon x c
  if standIn.listening then
    (true, s.insert c { standIn with listening := false }, x.modifyOutbox standIn.ref (·.shut))
  else (false, s, x)

/-- Puts a command into the queue of a connection. -/
def send (s : StandIns) (x : Exchange) (c : ConnectionId) (command : Command) :
    Except Failure Unit × StandIns × Exchange :=
  let (standIn, s, x) := s.summon x c
  match x.send standIn.ref command with
  | .ok x => (.ok (), s, x)
  | .error failure => (.error failure, s, x)

/-- Tells a session to stop; whether it had been told before. -/
def cancel (s : StandIns) (x : Exchange) (c : ConnectionId) : Bool × StandIns × Exchange :=
  let (standIn, s, x) := s.summon x c
  (x.isCancelled standIn.ref, s, x.cancel standIn.ref)

end StandIns

end Scrimmage
