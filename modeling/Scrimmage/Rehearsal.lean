import Scrimmage.Metrics.Readings
import Scrimmage.Server
import Scrimmage.StandIn

namespace Scrimmage

/-- A server whose connections may be stand-ins as well as clients, and whose parts can be addressed one by one.
It remembers for every connection the game that it joined last, which may have stopped since. -/
structure Rehearsal where
  server : Server
  standIns : StandIns
  joined : Table ConnectionId GameRef
  readings : Readings

namespace Rehearsal

def create (capacity handshakeTimeout : Nat) : Rehearsal :=
  { server := .create capacity handshakeTimeout, standIns := .empty, joined := .empty,
    readings := .none }

def registry (r : Rehearsal) : Registry := r.server.registry

/-- Does something with the stand-ins, and lets the sessions see to their queues. -/
def onStandIns {α : Type} (r : Rehearsal) (f : StandIns → Exchange → α × StandIns × Exchange) :
    α × Rehearsal :=
  let (a, standIns, exchange) := f r.standIns r.server.exchange
  (a, { r with server := (r.server.modifyExchange fun _ => exchange).settle, standIns })

def onServer {α : Type} (r : Rehearsal) (f : Server → α × Server) : α × Rehearsal :=
  let (a, server) := f r.server
  (a, { r with server })

def send {α : Type} (r : Rehearsal) (f : Registry → α × Registry) : Except Failure α × Rehearsal :=
  r.onServer (·.sendRegistry f)

/-- A stand-in makes itself known. -/
def register (r : Rehearsal) (c : ConnectionId) : Except Failure Unit × Rehearsal :=
  let (standIn, r) := r.onStandIns (·.summon · c)
  r.send fun registry => ((), registry.register c standIn.ref)

/-- Remembers the game of an accepted join. -/
def remember (r : Rehearsal) (c : ConnectionId) (admission : Admission) : Rehearsal :=
  { r with joined := r.joined.insert c admission.game }

def join (r : Rehearsal) (a : Application) : Except Failure Admission × Rehearsal :=
  let (answer, r) := r.send (·.join a)
  match answer.bind id with
  | .ok admission => (.ok admission, r.remember a.connection admission)
  | .error failure => (.error failure, r)

/-- Hands a frame to the lobby. -/
def receive (r : Rehearsal) (c : ConnectionId) (payload : List UInt8) : Lobby.Outcome × Rehearsal :=
  let (outcome, registry) := Lobby.receive r.registry c payload
  let r := { r with server := { r.server with registry }.settle }
  match outcome with
  | .joined admission => (outcome, r.remember c admission)
  | _ => (outcome, r)

def askGame (r : Rehearsal) (game : GameRef) (q : GameRequest) : Except Failure GameAnswer × Rehearsal :=
  let (answer, registry) := r.registry.askGame game q
  (answer, { r with server := { r.server with registry }.settle })

/-- Stops a game; whether it had been stopped before. -/
def stopGame (r : Rehearsal) (game : GameRef) : Bool × Rehearsal :=
  (!r.registry.isRunning game,
    { r with server := { r.server with registry := r.registry.stopGame game } })

/-- Gives a stand-in up. -/
def dismiss (r : Rehearsal) (c : ConnectionId) : Rehearsal :=
  match r.standIns.find? c with
  | none => r
  | some standIn =>
    { r with
      server := (r.server.modifyExchange (·.modifyOutbox standIn.ref (·.shut))).settle
      standIns := r.standIns.erase c }

/-- Starts the session of a new client. A stand-in of its number is given up; with `direct` the session
itself takes its place. -/
def connect (r : Rehearsal) (direct : Bool) : ConnectionId × Rehearsal :=
  let (c, r) := r.onServer (·.connect)
  let r := r.dismiss c
  match r.server.session? c with
  | some session =>
    if direct then
      (c, { r with standIns := r.standIns.insert c { ref := session.ref, listening := false } })
    else (c, r)
  | none => (c, r)

def report (r : Rehearsal) : Report × Rehearsal :=
  let report := r.readings.read r.server.exchange.telemetry.journal
  (report, { r with readings := report.counters })

end Rehearsal

end Scrimmage
