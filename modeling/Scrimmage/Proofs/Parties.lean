import Scrimmage.Proofs.SuspendedRequests

namespace Scrimmage

structure Limits where
  /-- How many players a team takes. -/
  team : Nat
  /-- How many messages wait for the registry. -/
  inbox : Nat
  /-- How many messages wait for a game. -/
  box : Nat
  /-- There is room for one at least. -/
  room : 0 < box

inductive Writer
  | session (connection : ConnectionId)
  | registry
  | other
  deriving DecidableEq, Repr

/-- A message that waits in the mailbox of a game, with the one who has written it. A leave is written by the
registry on behalf of a connection that has gone. -/
structure Letter where
  writer : Writer
  request : GameRequest

/-- How far the registry is with a request that it has suspended: the letter to the game may not have been put into
its mailbox, or may wait there, or may have been answered. -/
inductive Progress
  /-- There has been no room for the letter yet. -/
  | writing
  | written
  | answered (answer : Except Failure GameAnswer)

/-- A request that the registry has suspended, with the game that it waits for. -/
structure Duty where
  suspended : SuspendedRequest
  game : GameRef
  progress : Progress

/-- What a session is doing. -/
inductive Stage
  /-- It waits until the registry has registered it, or has answered its application. -/
  | asking
  | free
  /-- It waits until there is room for the frame. -/
  | sending (package : Package)
  /-- It waits until the registry has let it go. -/
  | parting
  | parted
  | gone
  deriving DecidableEq, Repr

namespace Stage

def isOver : Stage → Bool
  | .parted | .gone => true
  | _ => false

def isPlaying : Stage → Bool
  | .free | .sending _ => true
  | _ => false

def package? : Stage → Option Package
  | .sending p => some p
  | _ => none

end Stage

structure Client where
  session : SessionRef
  /-- The game that frames are sent to; there is none in the lobby. -/
  game : Option GameRef
  stage : Stage
  deriving DecidableEq, Repr

namespace Client

/-- A session reads an answer of the registry. -/
def told (client : Client) : RegistryAnswer → Client
  | .registered => { client with stage := .free }
  | .joined outcome => { client with stage := .free, game := outcome.toOption.map (·.game) }
  | .unregistered _ => { client with stage := .parted }
  | _ => client

/-- The session, and the game that it has joined and has not been told to have left. -/
def seat? (client : Client) : Option (SessionRef × GameRef) :=
  if client.stage.isOver then none else client.game.map (client.session, ·)

end Client

/-- Sessions, the registry and the games as parties that write to each other's mailboxes. A mailbox is read in
the order in which it was written to. While the registry waits for a game, the message that it has written there
lies on its desk. -/
structure World where
  registry : Registry
  /-- What waits for the registry, the oldest first. -/
  inbox : List RegistryRequest
  desk : Option Duty
  /-- What waits for each game. -/
  boxes : GameRef → List Letter
  clients : Table ConnectionId Client

namespace World

def start (team : Nat) : World :=
  { registry := .create team, inbox := [], desk := none, boxes := fun _ => [], clients := .empty }

def put (w : World) (c : ConnectionId) (client : Client) : World :=
  { w with clients := w.clients.insert c client }

/-- A session writes to the registry, and goes over to waiting for the answer. -/
def ask (w : World) (c : ConnectionId) (client : Client) (q : RegistryRequest) : World :=
  { w.put c client with inbox := w.inbox ++ [q] }

def post (w : World) (ref : GameRef) (letter : Letter) : World :=
  { w with boxes := Function.update w.boxes ref (w.boxes ref ++ [letter]) }

def modifyExchange (w : World) (f : Exchange → Exchange) : World :=
  { w with registry := { w.registry with exchange := f w.registry.exchange } }

/-- A session begins, with a queue of its own. -/
def enter (w : World) (c : ConnectionId) : World :=
  let session := (w.registry.exchange.openOutbox c).1
  (w.modifyExchange fun x => (x.openOutbox c).2).ask c { session, game := none, stage := .asking } (.register c session)

/-- The registry is done with a message, does what follows one, and answers. -/
def done (w : World) (r : Registry) (subject? : Option ConnectionId) (answer : RegistryAnswer) : World :=
  { w with
    registry := r.closed.turn
    desk := none
    clients := match subject? with
      | none => w.clients
      | some c => w.clients.modify c (·.told answer) }

/-- The registry takes a message, and handles it unless it has to write to a game first. -/
def attend (w : World) (q : RegistryRequest) (rest : List RegistryRequest) : World :=
  let r := w.registry.opened
  match r.suspended? q with
  | some (suspended, game, r) =>
    { w with inbox := rest, registry := r, desk := some { suspended, game, progress := .writing } }
  | none => { w with inbox := rest }.done (r.answer q).2 q.subject? (r.answer q).1

/-- A game handles a message, which the registry may wait for. -/
def handle (w : World) (ref : GameRef) (letter : Letter) (rest : List Letter) : World :=
  let (answer, r) := w.registry.askGame ref letter.request
  { w with
    registry := r
    boxes := Function.update w.boxes ref rest
    desk := if letter.writer = .registry then w.desk.map ({ · with progress := .answered answer }) else w.desk }

/-- The registry goes on with the answer of a game. -/
def conclude (w : World) (duty : Duty) (answer : Except Failure GameAnswer) : World :=
  w.done (w.registry.settle duty.game answer duty.suspended) duty.suspended.subject?
    (Registry.conclusion duty.game answer duty.suspended)

end World

/-- What a step is known by to whoever follows the frames of sessions. Of all other steps nothing is told. -/
inductive WorldEvent
  /-- A session takes a frame from its client, to send it to its game. -/
  | takes (connection : ConnectionId) (package : Package)
  /-- There is room for the frame. -/
  | delivers (connection : ConnectionId)
  | handles (game : GameRef) (letter : Letter)
  | other

/-- What one of the parties can do next. A party that finds no room in a mailbox waits until there is some; the
registry handles one message after the other, and waits for a game in between. No game stops but the one that
the registry takes away, and nobody tells the registry to stop. -/
inductive WorldStep (limits : Limits) (w : World) : WorldEvent → World → Prop
  | opens {c : ConnectionId} : w.clients.find? c = none → w.inbox.length < limits.inbox →
      WorldStep limits w .other (w.enter c)
  | applies {c : ConnectionId} {client : Client} (a : Application) : w.clients.find? c = some client →
      client.stage = .free → client.game = none → a.connection = c → w.inbox.length < limits.inbox →
      WorldStep limits w .other (w.ask c { client with stage := .asking } (.join a))
  | takes {c : ConnectionId} {client : Client} (p : Package) : w.clients.find? c = some client →
      client.stage = .free → client.game ≠ none →
      WorldStep limits w (.takes c p) (w.put c { client with stage := .sending p })
  | delivers {c : ConnectionId} {client : Client} {p : Package} {ref : GameRef} : w.clients.find? c = some client →
      client.stage = .sending p → client.game = some ref → (w.boxes ref).length < limits.box →
      WorldStep limits w (.delivers c) ((w.put c { client with stage := .free }).post ref ⟨.session c, .broadcast p⟩)
  | parts {c : ConnectionId} {client : Client} : w.clients.find? c = some client → client.stage = .free →
      w.inbox.length < limits.inbox →
      WorldStep limits w .other (w.ask c { client with stage := .parting } (.unregister c))
  | ends {c : ConnectionId} {client : Client} : w.clients.find? c = some client → client.stage = .parted →
      WorldStep limits w .other
        ((w.modifyExchange (·.modifyOutbox client.session (·.shut))).put c { client with stage := .gone })
  /-- Somebody asks the registry what there is. -/
  | inquires {q : RegistryRequest} : q.subject? = none → (∀ timeout, q ≠ .shutdown timeout) →
      w.inbox.length < limits.inbox →
      WorldStep limits w .other { w with inbox := w.inbox ++ [q] }
  /-- Somebody writes to a game, without being one of its players for that. -/
  | writes {ref : GameRef} {q : GameRequest} : q.Open → (w.boxes ref).length < limits.box →
      WorldStep limits w .other (w.post ref ⟨.other, q⟩)
  /-- A queue is drained, and whatever is measured is. -/
  | queues (s : SessionRef) (f : Outbox → Outbox) (t : Telemetry → Telemetry) : (∀ o, (f o).isOpen = o.isOpen) →
      WorldStep limits w .other (w.modifyExchange fun x => (x.modifyOutbox s f).measure t)
  | attends {q : RegistryRequest} {rest : List RegistryRequest} : w.desk = none → w.inbox = q :: rest →
      WorldStep limits w .other (w.attend q rest)
  | posts {e : SuspendedRequest} {ref : GameRef} : w.desk = some ⟨e, ref, .writing⟩ →
      (w.boxes ref).length < limits.box →
      WorldStep limits w .other ({ w with desk := some ⟨e, ref, .written⟩ }.post ref ⟨.registry, e.request⟩)
  /-- A game that has been taken away handles nothing. -/
  | handles {ref : GameRef} {letter : Letter} {rest : List Letter} : w.registry.gameRef? ref.name = some ref →
      w.boxes ref = letter :: rest → WorldStep limits w (.handles ref letter) (w.handle ref letter rest)
  | concludes {duty : Duty} {answer : Except Failure GameAnswer} : w.desk = some duty →
      duty.progress = .answered answer → WorldStep limits w .other (w.conclude duty answer)

/-- The parties go on for ever, from a server without sessions. At each moment one of them takes a step; which
one is left open. -/
structure Run (limits : Limits) where
  world : Nat → World
  event : Nat → WorldEvent
  start : world 0 = .start limits.team
  step : ∀ n, WorldStep limits (world n) (event n) (world (n + 1))

end Scrimmage
