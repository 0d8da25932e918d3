import Scrimmage.Mailbox
import Scrimmage.Metrics.Journal

namespace Scrimmage

/-- The counts that all actors of a server share. A change of the number of games or sessions is put into the
journal; a count that would fall below zero wraps, but zero is what the journal says then. -/
structure Telemetry where
  games : UInt64
  sessions : UInt64
  panics : UInt64
  /-- Messages that the registry and games have handled. -/
  messages : UInt64
  journal : Journal
  deriving DecidableEq, Repr

namespace Telemetry

def empty : Telemetry := { games := 0, sessions := 0, panics := 0, messages := 0, journal := [] }

def record (t : Telemetry) (m : Measurement) : Telemetry := { t with journal := m :: t.journal }

/-- One less, but not less than zero. -/
def lowered (count : UInt64) : UInt64 := if count = 0 then 0 else count - 1

def gameCreated (t : Telemetry) : Telemetry :=
  { t with games := t.games + 1 }.record (.gamesActive (t.games + 1))

def gameRemoved (t : Telemetry) : Telemetry :=
  { t with games := t.games - 1 }.record (.gamesActive (lowered t.games))

/-- Counts a session that has begun. What the gauge is to be set to is returned and not yet recorded: sessions
run beside each other, and another one may be counted in between. -/
def countOpened (t : Telemetry) : UInt64 × Telemetry := (t.sessions + 1, { t with sessions := t.sessions + 1 })

/-- Counts a session that has ended, again with what the gauge is to be set to. -/
def countClosed (t : Telemetry) : UInt64 × Telemetry :=
  (lowered t.sessions, { t with sessions := t.sessions - 1 })

/-- Sets the gauge of sessions. -/
def showSessions (t : Telemetry) (count : UInt64) : Telemetry := t.record (.sessionsActive count)

/-- A session begins with no other one in between. -/
def sessionOpened (t : Telemetry) : Telemetry :=
  let (count, t) := t.countOpened
  t.showSessions count

/-- A session ends with no other one in between. -/
def sessionClosed (t : Telemetry) : Telemetry :=
  let (count, t) := t.countClosed
  t.showSessions count

def panicked (t : Telemetry) (kind : ActorKind) : Telemetry :=
  { t with panics := t.panics + 1 }.record (.panic kind.name)

def messageHandled (t : Telemetry) : Telemetry := { t with messages := t.messages + 1 }

end Telemetry

end Scrimmage
