import Scrimmage.Exchange
import Scrimmage.Table

namespace Scrimmage

structure Player where
  slot : UInt32
  nick : String
  session : SessionRef
  deriving DecidableEq, Repr

/-- One game: two teams of bounded size, and beside them the look-up of teams by connection. A join is answered
with a slot, the least that no member has, and is announced to the player by a `join-result` in its queue before
anything else from the game. -/
structure Game where
  name : String
  capacity : Nat
  first : Table ConnectionId Player
  second : Table ConnectionId Player
  /-- The team of every member. -/
  teamOf : Table ConnectionId Team

structure Entrant where
  connection : ConnectionId
  nick : String
  team : TeamWish
  session : SessionRef
  /-- Repeated in the `join-result`. -/
  id : Option Json.Value

/-- Where a player was put, and the members afterwards by slot. -/
structure Placement where
  slot : UInt32
  team : Team
  players : List RosterEntry
  deriving DecidableEq, Repr

/-- The outcome of a leave: whether there was a member to remove, and how many are left. -/
structure Departure where
  removed : Bool
  remaining : Nat
  deriving DecidableEq, Repr

/-- A game as it is reported: its members by slot, and the sizes of the teams. -/
structure Roster where
  name : String
  players : List RosterEntry
  firstSize : Nat
  secondSize : Nat
  deriving DecidableEq, Repr

/-- The least number from `slot` on that is not used, among the next `more` numbers. -/
def leastFreeFrom (used : List UInt32) : Nat → UInt32 → UInt32
  | 0, slot => slot
  | more + 1, slot => if slot ∈ used then leastFreeFrom used more (slot + 1) else slot

/-- The least number that is not used. Each number passed over is one of those used, so no more than all of
them are passed over. -/
def leastFree (used : List UInt32) : UInt32 := leastFreeFrom used used.length 0

namespace Game

def create (name : String) (capacity : Nat) : Game :=
  { name, capacity, first := .empty, second := .empty, teamOf := .empty }

def side (g : Game) : Team → Table ConnectionId Player
  | .first => g.first
  | .second => g.second

def modifySide (g : Game) (team : Team)
    (f : Table ConnectionId Player → Table ConnectionId Player) : Game :=
  match team with
  | .first => { g with first := f g.first }
  | .second => { g with second := f g.second }

def players (g : Game) : List Player := g.first.values ++ g.second.values

def size (g : Game) : Nat := g.first.size + g.second.size

/-- A team as others see it. -/
def entries (g : Game) (team : Team) : List RosterEntry :=
  (g.side team).values.map fun p => { id := p.slot, nick := p.nick, team }

/-- Entries in ascending order of their slots. -/
def bySlot (entries : List RosterEntry) : List RosterEntry := entries.mergeSort fun p q => p.id ≤ q.id

def snapshot (g : Game) : List RosterEntry := bySlot (g.entries .first ++ g.entries .second)

/-- The team for a wish. A player without one goes to the smaller team, and to the first of equal ones. -/
def resolve (g : Game) : TeamWish → Team
  | .first => .first
  | .second => .second
  | .random => if g.second.size < g.first.size then .second else .first

def freeSlot (g : Game) : UInt32 := leastFree (g.players.map (·.slot))

/-- Puts a player into a team, unless it is a member already or the team is full. -/
def place (g : Game) (e : Entrant) : Except Failure (Placement × Game) :=
  if g.teamOf.contains e.connection then .error (.alreadyJoined e.connection.label)
  else
    let team := g.resolve e.team
    if g.capacity ≤ (g.side team).size then .error (.gameFull g.name)
    else
      let slot := g.freeSlot
      let players := bySlot (g.snapshot ++ [{ id := slot, nick := e.nick, team }])
      let g := g.modifySide team (·.insert e.connection { slot, nick := e.nick, session := e.session })
      .ok ({ slot, team, players }, { g with teamOf := g.teamOf.insert e.connection team })

/-- What a player reads about its own join. -/
def welcome (id : Option Json.Value) (p : Placement) : Package :=
  (Notice.joined id p.slot p.players).encode

/-- A join with its announcement. A session that no longer takes frames is a member all the same. -/
def join (g : Game) (x : Exchange) (e : Entrant) : Except Failure Placement × Game × Exchange :=
  match g.place e with
  | .error failure => (.error failure, g, x)
  | .ok (placement, g) => (.ok placement, g, x.offer e.session (.write (welcome e.id placement)))

/-- Takes a player out of its team. -/
def leave (g : Game) (c : ConnectionId) : Departure × Game :=
  match g.teamOf.find? c with
  | none => ({ removed := false, remaining := g.size }, g)
  | some team =>
    let removed := (g.side team).contains c
    let g := { g.modifySide team (·.erase c) with teamOf := g.teamOf.erase c }
    ({ removed, remaining := g.size }, g)

/-- Queues a frame on every one of some sessions. -/
def relay (x : Exchange) (p : Package) (sessions : List SessionRef) : Exchange :=
  sessions.foldl (fun x s => x.offer s (.write p)) x

/-- Passes a frame on to every member, the sender included, and records how many sessions took it. -/
def broadcast (g : Game) (x : Exchange) (p : Package) : Exchange :=
  let sessions := g.players.map (·.session)
  (relay x p sessions).measure (·.record (.broadcast (sessions.countP x.accepts)))

def roster (g : Game) : Roster :=
  { name := g.name, players := g.snapshot, firstSize := g.first.size, secondSize := g.second.size }

end Game

inductive GameRequest
  | join (entrant : Entrant)
  | leave (connection : ConnectionId)
  | broadcast (package : Package)
  | count
  | roster

inductive GameAnswer
  | joined (outcome : Except Failure Placement)
  | left (departure : Departure)
  | relayed
  | count (players : Nat)
  | roster (roster : Roster) (mailboxDepth : UInt64)

/-- Answers one request. The depth reported is that of the mailbox while the request is handled. -/
def Game.answer (g : Game) (depth : UInt64) (x : Exchange) : GameRequest → GameAnswer × Game × Exchange
  | .join entrant =>
    let (outcome, g, x) := g.join x entrant
    (.joined outcome, g, x)
  | .leave c =>
    let (departure, g) := g.leave c
    (.left departure, g, x)
  | .broadcast p => (.relayed, g, g.broadcast x p)
  | .count => (.count g.size, g, x)
  | .roster => (.roster g.roster depth, g, x)

/-- A game that is being played, with the mailbox that its messages come through. The generation is the number of
the token by which the game is told to stop, and tells games of one name apart. Once a game has stopped it answers
nothing. -/
structure HostedGame where
  generation : Nat
  game : Game
  mailbox : Mailbox
  running : Bool

namespace HostedGame

def start (generation : Nat) (name : String) (capacity : Nat) : HostedGame :=
  { generation, game := .create name capacity, mailbox := .empty .game, running := true }

/-- Stops the game; it is left as it is. -/
def stop (h : HostedGame) : HostedGame := { h with running := false }

/-- Lets the game handle a message: it counts as waiting while it is handled, and as a message
afterwards. What is done with the game may depend on the depth of its mailbox. -/
def serve {α : Type} (h : HostedGame) (x : Exchange)
    (f : Game → UInt64 → Exchange → α × Game × Exchange) : α × HostedGame × Exchange :=
  let mailbox := h.mailbox.enqueue
  let (answer, game, x) := f h.game mailbox.depth x
  (answer, { h with game, mailbox := mailbox.dequeue }, x.measure (·.messageHandled))

def send {α : Type} (h : HostedGame) (x : Exchange)
    (f : Game → UInt64 → Exchange → α × Game × Exchange) : Except Failure α × HostedGame × Exchange :=
  if h.running then
    let (answer, h, x) := h.serve x f
    (.ok answer, h, x)
  else (.error .unreachable, h, x)

def ask (h : HostedGame) (x : Exchange) (q : GameRequest) :
    Except Failure GameAnswer × HostedGame × Exchange :=
  h.send x fun g depth x => g.answer depth x q

end HostedGame

end Scrimmage
