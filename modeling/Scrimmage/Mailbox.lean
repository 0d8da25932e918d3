namespace Scrimmage

inductive ActorKind
  | registry
  | game
  | session
  deriving DecidableEq, Repr

namespace ActorKind

def name : ActorKind → String
  | .registry => "registry"
  | .game => "game"
  | .session => "session"

def ofName? : String → Option ActorKind
  | "registry" => some .registry
  | "game" => some .game
  | "session" => some .session
  | _ => none

/-- The greatest depth that is normal. -/
def normalThreshold : ActorKind → UInt64
  | .registry => 200
  | .game => 100
  | .session => 50

/-- The greatest depth that is not critical. -/
def warningThreshold : ActorKind → UInt64
  | .registry => 1000
  | .game => 500
  | .session => 200

end ActorKind

inductive MailboxGrade
  | normal
  | warning
  | critical
  deriving DecidableEq, Repr

def MailboxGrade.name : MailboxGrade → String
  | .normal => "Normal"
  | .warning => "Warning"
  | .critical => "Critical"

/-- How full the queue of an actor is. A mailbox counts the messages put in and taken out, in words of 64 bits,
and grades the depth by thresholds of the kind of actor. -/
structure Mailbox where
  kind : ActorKind
  depth : UInt64
  peak : UInt64
  /-- How many messages were taken out. -/
  processed : UInt64
  deriving DecidableEq, Repr

namespace Mailbox

def empty (kind : ActorKind) : Mailbox := { kind, depth := 0, peak := 0, processed := 0 }

def enqueue (m : Mailbox) : Mailbox :=
  { m with depth := m.depth + 1, peak := max m.peak (m.depth + 1) }

def dequeue (m : Mailbox) : Mailbox :=
  { m with depth := m.depth - 1, processed := m.processed + 1 }

/-- The grade of a depth. -/
def levelAt (kind : ActorKind) (depth : UInt64) : MailboxGrade :=
  if kind.warningThreshold < depth then .critical
  else if kind.normalThreshold < depth then .warning
  else .normal

def level (m : Mailbox) : MailboxGrade := levelAt m.kind m.depth

end Mailbox

end Scrimmage
