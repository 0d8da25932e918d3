import Scrimmage.Clock
import Scrimmage.Health
import Scrimmage.Network
import Scrimmage.Server

namespace Scrimmage

/-- A server as it is run: its settings, its listener, and its health. A shutdown first tells the sessions to
end and then the registry, and each of the two has a deadline of its own. -/
structure Deployment where
  settings : Settings
  server : Server
  health : Health
  stopped : Bool

namespace Deployment

/-- Binds the listener and starts the server behind it. -/
def start (n : Network) (settings : Settings) : Except Failure (Deployment × Network) :=
  match n.bind settings.bindAddress with
  | .error fault =>
    .error (.transport ("failed to bind " ++ settings.bindAddress.text ++ ": " ++ fault.message))
  | .ok n =>
    let server := .create settings.maxPlayersPerTeam (settings.handshakeTimeoutSeconds * 1000)
    .ok ({ settings, server, health := Health.initial.markListening, stopped := false }, n)

/-- A new client comes in; none does after the shutdown. -/
def accept (d : Deployment) : Option (ConnectionId × Deployment) :=
  if d.stopped then none
  else
    let (c, server) := d.server.connect
    some (c, { d with server })

/-- Tells the sessions to end, and the registry when they have ended at `last`. The registry has so much time to
wait for its games. -/
def close (d : Deployment) (last timeout : Nat) : Except Failure Unit × Deployment :=
  let server := d.server.cancelSessions.modifyExchange fun x => { x with now := last }
  let (answer, server) := server.sendRegistry fun r => ((), r.beginShutdown timeout)
  (answer, { d with server, health := d.health.drain, stopped := true })

/-- Shuts the server down at a point in time, with so much time for the sessions to end. What is left of that time
at `later`, when they have ended, is what the registry gets, which takes up the message at `last`. A deadline that
does not exist stops the program before anything is told to end. -/
def shutdown (d : Deployment) (now later last timeout : Nat) : Option (Except Failure Unit × Deployment) :=
  match Clock.after? now timeout with
  | none => none
  | some deadline => some (d.close last (Clock.remaining later deadline))

end Deployment

inductive StartupFault
  | settings (fault : Settings.Fault)
  | server (failure : Failure)
  | health (address : Settings.SocketAddress) (fault : BindFault)
  deriving DecidableEq, Repr

namespace StartupFault

/-- What is wrong, as a diagnostic that shows its kind and quotes its text. -/
def diagnostic : StartupFault → String
  | .settings fault => "InvalidValue(" ++ Text.quote fault.detail ++ ")"
  | .server (.transport detail) => "Transport(" ++ Text.quote detail ++ ")"
  | .server failure => Text.quote failure.message
  | .health address fault =>
    Text.quote ("Failed to bind health server to " ++ address.text ++ ": " ++ fault.message)

/-- The last line that the program prints. -/
def report (fault : StartupFault) : String := "Error: " ++ fault.diagnostic

end StartupFault

/-- Reads the settings and binds the two listeners, that of the players first. -/
def Deployment.launch (n : Network) (env : Settings.Environment) (hostname : Option String)
    (suffix : String) : Except StartupFault Deployment := do
  let settings ← (Settings.ofEnvironment env hostname suffix).mapError .settings
  let (deployment, n) ← (Deployment.start n settings).mapError .server
  let _ ← (n.bind settings.healthBindAddress).mapError (.health settings.healthBindAddress)
  return deployment

end Scrimmage
