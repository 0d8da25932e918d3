import Scrimmage.Settings.Address
import Scrimmage.Settings.Number
import Scrimmage.Text.Blank

namespace Scrimmage

namespace Settings

/-- Named texts, each name at most once. -/
abbrev Environment := List (String × String)

def Environment.get? (env : Environment) (name : String) : Option String :=
  (env.find? (·.1 = name)).map (·.2)

/-- Why settings are refused. The text of a variable is repeated as it was given, blanks included. -/
inductive Fault
  | address (name raw : String)
  | number (name raw : String) (fault : NumberFault)
  | zero (name : String)
  deriving DecidableEq, Repr

namespace Fault

/-- What is wrong, without the kind of error. -/
def detail : Fault → String
  | .address name raw => name ++ "=" ++ raw ++ ": invalid socket address syntax"
  | .number name raw fault => name ++ "=" ++ raw ++ ": " ++ fault.message
  | .zero name => name ++ " must be at least 1"

def message (fault : Fault) : String := "Invalid configuration value: " ++ fault.detail

end Fault

/-- The address that a variable names, blanks at its ends left out. -/
def address (env : Environment) (name : String) (default : SocketAddress) : Except Fault SocketAddress :=
  match env.get? name with
  | none => .ok default
  | some raw =>
    match SocketAddress.parse? (Text.trimChars raw.toList) with
    | some address => .ok address
    | none => .error (.address name raw)

/-- The number that a variable states, blanks at its ends left out. -/
def number (env : Environment) (name : String) (default : Nat) : Except Fault Nat :=
  match env.get? name with
  | none => .ok default
  | some raw => (readNumber (Text.trimChars raw.toList)).mapError (.number name raw)

def positive (env : Environment) (name : String) (default : Nat) : Except Fault Nat :=
  (number env name default).bind fun n => if n = 0 then .error (.zero name) else .ok n

end Settings

/-- The settings of a server, from named variables. Every variable may be left out; one that is there but does
not fit stops the server, and of several the first in the order of the settings is reported. -/
structure Settings where
  bindAddress : Settings.SocketAddress
  healthBindAddress : Settings.SocketAddress
  serverId : String
  maxPlayersPerTeam : Nat
  handshakeTimeoutSeconds : Nat
  shutdownTimeoutSeconds : Nat
  deriving DecidableEq, Repr

namespace Settings

def defaultBindAddress : SocketAddress := .v4 [0, 0, 0, 0] 8080

def defaultHealthBindAddress : SocketAddress := .v4 [0, 0, 0, 0] 8081

def defaultMaxPlayersPerTeam : Nat := 5

def defaultHandshakeTimeoutSeconds : Nat := 10

def defaultShutdownTimeoutSeconds : Nat := 30

/-- The name of a server that is given none: after the machine, with a suffix that tells servers on one
machine apart. -/
def generatedId (hostname : Option String) (suffix : String) : String :=
  "gs-" ++ hostname.getD "unknown" ++ "-" ++ suffix

/-- The settings that variables state. -/
def ofEnvironment (env : Environment) (hostname : Option String) (suffix : String) :
    Except Fault Settings := do
  let bindAddress ← address env "GS_BIND_ADDRESS" defaultBindAddress
  let healthBindAddress ← address env "GS_HEALTH_BIND_ADDRESS" defaultHealthBindAddress
  let maxPlayersPerTeam ← positive env "GS_MAX_PLAYERS_PER_TEAM" defaultMaxPlayersPerTeam
  let handshakeTimeoutSeconds ←
    positive env "GS_HANDSHAKE_TIMEOUT_SECONDS" defaultHandshakeTimeoutSeconds
  let shutdownTimeoutSeconds ← number env "GS_SHUTDOWN_TIMEOUT_SECONDS" defaultShutdownTimeoutSeconds
  let serverId := (env.get? "GS_SERVER_ID").getD (generatedId hostname suffix)
  return {
    bindAddress, healthBindAddress, serverId, maxPlayersPerTeam, handshakeTimeoutSeconds,
    shutdownTimeoutSeconds }

end Settings

end Scrimmage
