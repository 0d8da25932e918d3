import Scrimmage.Clock
import Scrimmage.Game
import Scrimmage.Token

namespace Scrimmage

/-- One game, which may have stopped or have a successor of the same name. -/
structure GameRef where
  name : String
  generation : Nat
  deriving DecidableEq, Repr

structure Member where
  game : Option String
  session : SessionRef
  deriving DecidableEq, Repr

/-- Which connections there are, which game each of them is in, and the games. A game lives from the first
accepted join to its name until its last player has left. Games may also stop on their own; the registry notices
after the next message that it handles, and closes the sessions of the members. -/
structure Registry where
  capacity : Nat
  games : Table String HostedGame
  members : Table ConnectionId Member
  unjoined : List ConnectionId
  accepting : Bool
  /-- The token of the registry, by which it is told to stop, and those of its games. -/
  tokens : TokenTree
  /-- How long the registry waits at its end for its games to stop. -/
  shutdownTimeout : Nat
  running : Bool
  /-- The games, by generation, that were left when the registry broke off. They have stopped and nobody will
  count them as gone. -/
  abandoned : List Nat
  mailbox : Mailbox
  exchange : Exchange

/-- A connection that asks to be put into a game. -/
structure Application where
  connection : ConnectionId
  game : String
  nick : String
  team : TeamWish
  id : Option Json.Value

/-- An accepted application: the game, and the place in it. -/
structure Admission where
  game : GameRef
  placement : Placement
  deriving DecidableEq, Repr

structure GameListing where
  name : String
  players : Nat
  deriving DecidableEq, Repr

structure RegistrySummary where
  games : Nat
  registered : Nat
  unjoined : Nat
  sessions : UInt64
  draining : Bool
  mailboxDepth : UInt64
  deriving DecidableEq, Repr

namespace Registry

/-- How long a registry waits for its games unless it is told otherwise. -/
def defaultShutdownTimeout : Nat := 30 * Clock.second

def create (capacity : Nat) : Registry :=
  { capacity, games := .empty, members := .empty, unjoined := [], accepting := true, tokens := .create,
    shutdownTimeout := defaultShutdownTimeout, running := true, abandoned := [], mailbox := .empty .registry,
    exchange := .empty }

/-- Whether the registry was told to stop. -/
def cancelled (r : Registry) : Bool := r.tokens.cancelled

/-- The generation of the next game, which is the number of the token that it will get. -/
def nextGeneration (r : Registry) : Nat := r.tokens.derived

/-- What members of stopped games are closed with. -/
def gameStopped : String := "game stopped"

/-- What all members are closed with at the end. -/
def shuttingDown : String := "server shutting down"

def measure (r : Registry) (f : Telemetry → Telemetry) : Registry :=
  { r with exchange := r.exchange.measure f }

/-- Takes a connection in. One that is known already keeps its session and its game. -/
def register (r : Registry) (c : ConnectionId) (session : SessionRef) : Registry :=
  if r.members.contains c then r
  else
    { r with
      members := r.members.insert c { game := none, session }
      unjoined := r.unjoined ++ [c] }

/-- Sends a message to a game; a game that is not there, or not of that generation, answers like one that
has stopped. -/
def sendTo {α : Type} (r : Registry) (ref : GameRef)
    (f : Game → UInt64 → Exchange → α × Game × Exchange) : Except Failure α × Registry :=
  match r.games.find? ref.name with
  | none => (.error .unreachable, r)
  | some hosted =>
    if hosted.generation = ref.generation then
      let (answer, hosted, exchange) := hosted.send r.exchange f
      (answer, { r with games := r.games.modify ref.name fun _ => hosted, exchange })
    else (.error .unreachable, r)

def askGame (r : Registry) (ref : GameRef) (q : GameRequest) : Except Failure GameAnswer × Registry :=
  r.sendTo ref fun g depth x => g.answer depth x q

/-- Whether a game has not stopped. -/
def isRunning (r : Registry) (ref : GameRef) : Bool :=
  (r.games.find? ref.name).any fun hosted => hosted.generation = ref.generation && hosted.running

/-- Tells a game to stop, and it does. -/
def stopGame (r : Registry) (ref : GameRef) : Registry :=
  if r.isRunning ref then
    { r with games := r.games.modify ref.name HostedGame.stop, tokens := r.tokens.cancel ref.generation }
  else r

/-- Starts a game, empty so far, with a token derived from that of the registry. -/
def createGame (r : Registry) (name : String) : GameRef × Registry :=
  let hosted := HostedGame.start r.nextGeneration name r.capacity
  (⟨name, r.nextGeneration⟩,
    { r with games := r.games.insert name hosted, tokens := r.tokens.derive }.measure (·.gameCreated))

/-- Tells a game to stop and forgets it. -/
def removeGame (r : Registry) (name : String) : Registry :=
  match r.games.find? name with
  | none => r
  | some hosted =>
    { r with games := r.games.erase name, tokens := r.tokens.cancel hosted.generation }.measure (·.gameRemoved)

def gameRef? (r : Registry) (name : String) : Option GameRef :=
  (r.games.find? name).map fun hosted => ⟨name, hosted.generation⟩

/-- Takes a connection out of a game, and the game away if no player is left. -/
def depart (r : Registry) (ref : GameRef) (c : ConnectionId) : Registry :=
  let (answer, r) := r.sendTo ref fun g _ x =>
    let (departure, g) := g.leave c
    (departure, g, x)
  match answer with
  | .ok departure => if departure.remaining = 0 then r.removeGame ref.name else r
  | .error _ => r

/-- Lets a connection go, and its game with it if it was the last player; whether it was known. -/
def unregister (r : Registry) (c : ConnectionId) : Bool × Registry :=
  match r.members.find? c with
  | none => (false, r)
  | some member =>
    let r := { r with members := r.members.erase c, unjoined := r.unjoined.filter (· ≠ c) }
    match member.game.bind r.gameRef? with
    | none => (true, r)
    | some ref => (true, r.depart ref c)

def recordJoined (r : Registry) (c : ConnectionId) (name : String) : Registry :=
  { r with
    unjoined := r.unjoined.filter (· ≠ c)
    members := r.members.modify c fun m => { m with game := some name } }

def enter (r : Registry) (ref : GameRef) (a : Application) (session : SessionRef) :
    Except Failure Admission × Registry :=
  let entrant : Entrant :=
    { connection := a.connection, nick := a.nick, team := a.team, session, id := a.id }
  let (answer, r) := r.sendTo ref fun g _ x => g.join x entrant
  match answer.bind id with
  | .ok placement => (.ok { game := ref, placement }, r.recordJoined a.connection ref.name)
  | .error failure => (.error failure, r)

/-- Puts a registered connection that is in no game into the game of a name, which is created if there is
none. A game created for an applicant does not outlive its refusal. -/
def join (r : Registry) (a : Application) : Except Failure Admission × Registry :=
  if !r.accepting then (.error .draining, r)
  else
    match r.members.find? a.connection with
    | none => (.error (.notRegistered a.connection.label), r)
    | some member =>
      if member.game.isSome then (.error (.alreadyJoined a.connection.label), r)
      else
        match r.gameRef? a.game with
        | some ref => r.enter ref a member.session
        | none =>
          let (ref, r) := r.createGame a.game
          match r.enter ref a member.session with
          | (.ok admission, r) => (.ok admission, r)
          | (.error failure, r) => (.error failure, r.removeGame a.game)

/-- How many players the game of a name has; a game that has stopped is reported as empty. -/
def listing (r : Registry) (name : String) : Option GameListing × Registry :=
  match r.gameRef? name with
  | none => (none, r)
  | some ref =>
    let (answer, r) := r.sendTo ref fun g _ x => (g.size, g, x)
    (some { name, players := answer.toOption.getD 0 }, r)

def summary (r : Registry) : RegistrySummary :=
  { games := r.games.size, registered := r.members.size, unjoined := r.unjoined.length,
    sessions := r.exchange.telemetry.sessions, draining := !r.accepting, mailboxDepth := r.mailbox.depth }

/-- Tells the registry and with it all games to stop. -/
def cancelAll (r : Registry) : Registry := { r with tokens := r.tokens.cancelAll }

/-- Stops accepting applicants, and tells the registry to stop. It will have so much time to wait for its games. -/
def beginShutdown (r : Registry) (timeout : Nat) : Registry :=
  { r with accepting := false, shutdownTimeout := timeout }.cancelAll

def closeSessions (r : Registry) (reason : String) (sessions : List SessionRef) : Registry :=
  { r with exchange := sessions.foldl (fun x s => x.offer s (.close reason)) r.exchange }

/-- The sessions of the connections that are recorded in the game of a name. -/
def sessionsIn (r : Registry) (name : String) : List SessionRef :=
  (r.members.values.filter (·.game = some name)).map (·.session)

/-- Forgets a game that has stopped, after closing the sessions of its members. -/
def reapGame (r : Registry) (name : String) : Registry :=
  { r.closeSessions gameStopped (r.sessionsIn name) with games := r.games.erase name }.measure
    (·.gameRemoved)

def stoppedGames (r : Registry) : List String :=
  (r.games.entries.filter fun (_, hosted) => !hosted.running).map (·.1)

def reap (r : Registry) : Registry := r.stoppedGames.foldl reapGame r

/-- Tells every game to stop. -/
def cancelGames (r : Registry) : Registry :=
  { r with tokens := r.games.values.foldl (fun tokens hosted => tokens.cancel hosted.generation) r.tokens }

/-- Until when the registry waits for its games if it ends now. That point in time may not exist. -/
def deadline? (r : Registry) : Option Nat := Clock.after? r.exchange.now r.shutdownTimeout

/-- Waits for the games that are left, which stop because they were told to, and counts each one as gone. -/
def drain (r : Registry) : Registry :=
  { r.games.keys.foldl (fun r _ => r.measure (·.gameRemoved)) r with games := .empty }

/-- Breaks off before it has waited for any game. The table of games goes with the registry, and what is left in
it is never counted as gone. -/
def breakOff (r : Registry) : Registry :=
  { r with games := .empty, abandoned := r.abandoned ++ r.games.values.map (·.generation) }

/-- Tells every game to stop and closes every session. -/
def closeAll (r : Registry) : Registry :=
  let r := { r with accepting := false }.cancelGames
  r.closeSessions shuttingDown (r.members.values.map (·.session))

/-- Waits for the games, all of them until one deadline. A registry without a deadline breaks off. -/
def awaitGames (r : Registry) : Registry :=
  match r.deadline? with
  | some _ => r.drain
  | none => r.breakOff

/-- The end of the registry. -/
def finish (r : Registry) : Registry := { r.closeAll.awaitGames with running := false }

/-- Tells an idle registry to stop, which ends it at once. -/
def cancel (r : Registry) : Registry := if r.running then r.cancelAll.finish else r

end Registry

inductive RegistryRequest
  | register (connection : ConnectionId) (session : SessionRef)
  | unregister (connection : ConnectionId)
  | join (application : Application)
  | listing (name : String)
  | summary
  | shutdown (timeout : Nat)

inductive RegistryAnswer
  /-- A connection that is registered begins in no game. -/
  | registered
  | unregistered (known : Bool)
  | joined (outcome : Except Failure Admission)
  | listing (listing : Option GameListing)
  | summary (summary : RegistrySummary)
  | shutdownBegun

namespace Registry

def answer (r : Registry) : RegistryRequest → RegistryAnswer × Registry
  | .register c session => (.registered, r.register c session)
  | .unregister c =>
    let (known, r) := r.unregister c
    (.unregistered known, r)
  | .join application =>
    let (outcome, r) := r.join application
    (.joined outcome, r)
  | .listing name =>
    let (listing, r) := r.listing name
    (.listing listing, r)
  | .summary => (.summary r.summary, r)
  | .shutdown timeout => (.shutdownBegun, r.beginShutdown timeout)

/-- Handles one message: it counts as waiting while it is handled, and as a message afterwards. -/
def serve {α : Type} (r : Registry) (f : Registry → α × Registry) : α × Registry :=
  let (answer, r) := f { r with mailbox := r.mailbox.enqueue }
  (answer, { r with mailbox := r.mailbox.dequeue }.measure (·.messageHandled))

/-- What follows a message: stopped games are forgotten, and a registry that was told to stop ends. -/
def turn (r : Registry) : Registry :=
  let r := r.reap
  if r.cancelled then r.finish else r

/-- Sends a message to the registry, which may have stopped, and waits until it is quiet again. -/
def send {α : Type} (r : Registry) (f : Registry → α × Registry) : Except Failure α × Registry :=
  if r.running then
    let (answer, r) := r.serve f
    (.ok answer, r.turn)
  else (.error .unreachable, r)

def ask (r : Registry) (q : RegistryRequest) : Except Failure RegistryAnswer × Registry :=
  r.send (·.answer q)

end Registry

end Scrimmage
