import Scrimmage.Connection
import Scrimmage.Failure
import Scrimmage.Metrics.Telemetry

namespace Scrimmage

inductive Command
  | write (package : Package)
  | close (reason : String)
  deriving DecidableEq, Repr

structure Outbox where
  /-- Commands that wait, the oldest first. -/
  waiting : List Command
  isOpen : Bool
  isCancelled : Bool
  taken : Nat
  deriving DecidableEq, Repr

namespace Outbox

def empty : Outbox := { waiting := [], isOpen := true, isCancelled := false, taken := 0 }

def push (o : Outbox) (command : Command) : Outbox := { o with waiting := o.waiting ++ [command] }

def drop (o : Outbox) (count : Nat) : Outbox :=
  { o with waiting := o.waiting.drop count, taken := o.taken + count }

def clear (o : Outbox) : Outbox := o.drop o.waiting.length

/-- No one drains the queue any more; what waits in it is lost. -/
def shut (o : Outbox) : Outbox := { o with waiting := [], isOpen := false }

def cancel (o : Outbox) : Outbox := { o with isCancelled := true }

end Outbox

/-- What all parts of a server share: the outbound queue of every session, the metrics, and the clock. A queue
takes commands as long as its session drains it; putting a command in never waits. -/
structure Exchange where
  outboxes : List Outbox
  telemetry : Telemetry
  /-- The present point in time. -/
  now : Nat
  deriving DecidableEq, Repr

namespace Exchange

def empty : Exchange := { outboxes := [], telemetry := .empty, now := 0 }

def outbox? (x : Exchange) (s : SessionRef) : Option Outbox := x.outboxes[s.queue]?

def modifyOutbox (x : Exchange) (s : SessionRef) (f : Outbox → Outbox) : Exchange :=
  { x with outboxes := x.outboxes.modify s.queue f }

def openOutbox (x : Exchange) (c : ConnectionId) : SessionRef × Exchange :=
  (⟨c, x.outboxes.length⟩, { x with outboxes := x.outboxes ++ [.empty] })

def accepts (x : Exchange) (s : SessionRef) : Bool := (x.outbox? s).any (·.isOpen)

/-- Puts a command at the end of a queue. -/
def send (x : Exchange) (s : SessionRef) (command : Command) : Except Failure Exchange :=
  if x.accepts s then .ok (x.modifyOutbox s (·.push command))
  else .error (.sessionClosed s.connection.label)

/-- Puts a command at the end of a queue; a queue that is shut loses it. -/
def offer (x : Exchange) (s : SessionRef) (command : Command) : Exchange :=
  if x.accepts s then x.modifyOutbox s (·.push command) else x

def cancel (x : Exchange) (s : SessionRef) : Exchange := x.modifyOutbox s (·.cancel)

def isCancelled (x : Exchange) (s : SessionRef) : Bool := (x.outbox? s).any (·.isCancelled)

def waiting (x : Exchange) (s : SessionRef) : List Command := ((x.outbox? s).map (·.waiting)).getD []

/-- Lets time pass. -/
def pass (x : Exchange) (duration : Nat) : Exchange := { x with now := x.now + duration }

def measure (x : Exchange) (f : Telemetry → Telemetry) : Exchange := { x with telemetry := f x.telemetry }

end Exchange

end Scrimmage
