import Scrimmage.Session

namespace Scrimmage

/-- The registry and the sessions of its clients. Every operation runs until nothing is left to do: queues are
drained, sessions that were told to end have ended, and the registry knows. -/
structure Server where
  registry : Registry
  sessions : Table ConnectionId Session
  nextConnection : UInt64
  /-- Whether all sessions were told to stop, future ones included. -/
  sessionsCancelled : Bool
  /-- How long a handshake may take, in milliseconds. -/
  handshakeTimeout : Nat

namespace Server

def create (capacity handshakeTimeout : Nat) : Server :=
  { registry := .create capacity, sessions := .empty, nextConnection := 1, sessionsCancelled := false,
    handshakeTimeout }

def exchange (s : Server) : Exchange := s.registry.exchange

def session? (s : Server) (c : ConnectionId) : Option Session := s.sessions.find? c

def modifySession (s : Server) (c : ConnectionId) (f : Session → Session) : Server :=
  { s with sessions := s.sessions.modify c f }

def modifyExchange (s : Server) (f : Exchange → Exchange) : Server :=
  { s with registry := { s.registry with exchange := f s.registry.exchange } }

def measure (s : Server) (f : Telemetry → Telemetry) : Server := s.modifyExchange (·.measure f)

/-- The end of a session on the wire. Only a client whose handshake was done gets a last text and a close
frame; a broken line is cut. -/
def goodbye (wasActive : Bool) (ending : Ending) (farewell : Option Package)
    (peerFrame : Option CloseFrame) : List ServerFrame :=
  if !wasActive then [.ended]
  else if ending = .transportError then [.reset]
  else
    match farewell with
    | none => [.close peerFrame]
    | some p =>
      match p.text with
      | .ok s => [.text s, .close none]
      | .error _ => [.reset]

/-- A session stops serving its client: what is still queued is dropped, and the client is told. -/
def beginClosing (s : Server) (c : ConnectionId) (session : Session) (ending : Ending)
    (farewell : Option Package) (peerFrame : Option CloseFrame) : Server :=
  let wasActive : Bool := session.phase = .active
  let s := if wasActive then s.modifyExchange (·.modifyOutbox session.ref (·.clear)) else s
  let s := s.modifySession c fun session =>
    (session.become .closing).deliver (goodbye wasActive ending farewell peerFrame)
  if ending.isError then s.measure (·.record (.sessionError ending.name)) else s

def unregister (s : Server) (c : ConnectionId) : Server :=
  { s with registry := (s.registry.send (·.unregister c)).2 }.modifySession c (·.note .unregistered)

/-- The last transition of a session. Nobody takes anything off its queue any more. -/
def close (s : Server) (c : ConnectionId) (ref : SessionRef) (ending : Ending) : Server :=
  (s.modifyExchange (·.modifyOutbox ref (·.shut))).modifySession c fun session =>
    { session.become .closed with ending := some ending }

/-- The last transition of a session, which is counted out after it. -/
def conclude (s : Server) (c : ConnectionId) (ref : SessionRef) (ending : Ending) : Server :=
  ((s.close c ref ending).measure (·.sessionClosed)).modifySession c (·.note .closed)

/-- Ends a session. The registry is told unless it never knew. -/
def finish (s : Server) (c : ConnectionId) (ending : Ending) (farewell : Option Package)
    (peerFrame : Option CloseFrame) : Server :=
  match s.session? c with
  | none => s
  | some session =>
    let s := s.beginClosing c session ending farewell peerFrame
    let s := if ending = .registryUnavailable then s else s.unregister c
    s.conclude c session.ref ending

/-- Carries out what is queued for an active session. -/
def pumpSession (s : Server) (c : ConnectionId) (session : Session) : Server :=
  let pumped := pump (s.exchange.waiting session.ref)
  let s := s.modifyExchange (·.modifyOutbox session.ref (·.drop pumped.taken))
  let s := s.modifySession c (·.deliver (pumped.texts.map .text))
  match pumped.ending with
  | none => s
  | some ending => s.finish c ending none none

/-- Lets one session do what it has to do. One that was told to stop says so to its client. -/
def tend (s : Server) (c : ConnectionId) : Server :=
  match s.session? c with
  | none => s
  | some session =>
    if !session.isLive then s
    else if s.exchange.isCancelled session.ref then
      s.finish c .cancelled (some Notice.shuttingDown.encode) none
    else if session.phase = .active then s.pumpSession c session
    else s

def tendAll (s : Server) : Server := s.sessions.keys.foldl tend s

def liveCount (s : Server) : Nat := s.sessions.values.countP (·.isLive)

/-- Tends all sessions several times. -/
def tendRounds : Nat → Server → Server
  | 0, s => s
  | rounds + 1, s => tendRounds rounds s.tendAll

/-- Runs until nothing is left to do. Only the end of a session can give other sessions something to do,
so one more round than there are sessions to end is enough. -/
def settle (s : Server) : Server := tendRounds (s.liveCount + 1) s

def sendRegistry {α : Type} (s : Server) (f : Registry → α × Registry) : Except Failure α × Server :=
  let (answer, registry) := s.registry.send f
  (answer, { s with registry }.settle)

/-- Ends the registry without a message. -/
def cancelRegistry (s : Server) : Server := { s with registry := s.registry.cancel }.settle

/-- A new connection with its queue, which is not counted yet. -/
def takeIn (s : Server) : ConnectionId × SessionRef × Server :=
  let c : ConnectionId := ⟨s.nextConnection⟩
  let (ref, exchange) := s.exchange.openOutbox c
  let exchange := if s.sessionsCancelled then exchange.cancel ref else exchange
  (c, ref,
    { s with
      registry := { s.registry with exchange }
      sessions := s.sessions.insert c (.create ref)
      nextConnection := s.nextConnection + 1 })

/-- A new connection that is counted, and of which the registry knows nothing yet. -/
def openSession (s : Server) : ConnectionId × SessionRef × Server :=
  let (c, ref, s) := s.takeIn
  (c, ref, s.measure (·.sessionOpened))

/-- Lets time pass for one session, whose handshake may take too long. -/
def elapse (milliseconds : Nat) (s : Server) (c : ConnectionId) : Server :=
  match s.session? c with
  | none => s
  | some session =>
    if session.phase = .handshakePending then
      let waited := session.waited + milliseconds
      let s := s.modifySession c fun session => { session with waited }
      if s.handshakeTimeout ≤ waited then s.finish c .handshakeFailed none none else s
    else s

/-- Lets time pass, which every session notices. -/
def advance (s : Server) (milliseconds : Nat) : Server :=
  let s := s.modifyExchange (·.pass (milliseconds * Clock.millisecond))
  (s.sessions.keys.foldl (elapse milliseconds) s).settle

/-- Starts the session of a new client. A registry that has stopped ends it at once. -/
def connect (s : Server) : ConnectionId × Server :=
  let (c, ref, s) := s.openSession
  let (answer, registry) := s.registry.send fun r => ((), r.register c ref)
  let s := { s with registry }
  match answer with
  | .error _ => (c, s.finish c .registryUnavailable none none)
  | .ok _ =>
    let s := s.modifySession c fun session => (session.note .registered).become .handshakePending
    (c, (elapse 0 s.settle c).settle)

inductive HandshakeResult
  | done
  | failed
  /-- The client has no line on which a handshake is to be made. -/
  | noLine
  deriving DecidableEq, Repr

/-- A handshake that is under way fails. -/
def failHandshake (s : Server) (c : ConnectionId) : Server :=
  match s.session? c with
  | none => s
  | some session =>
    if session.phase = .handshakePending then (s.finish c .handshakeFailed none none).settle else s

def handshake (s : Server) (c : ConnectionId) : HandshakeResult × Server :=
  match s.session? c with
  | none => (.noLine, s)
  | some session =>
    if session.client ≠ .dialing then (.noLine, s)
    else if session.phase = .handshakePending && !session.spoiled then
      (.done, (s.modifySession c fun session => { session.become .active with client := .upgraded }).settle)
    else
      (.failed, (s.failHandshake c).modifySession c fun session => { session with client := .gone })

/-- What the payload of a frame comes to. -/
def receivePayload (s : Server) (c : ConnectionId) (session : Session) (payload : List UInt8) : Server :=
  match session.game with
  | none =>
    let (outcome, registry) := Lobby.receive s.registry c payload
    let s := { s with registry }
    match outcome with
    | .reply p => s.modifyExchange (·.offer session.ref (.write p))
    | .joined admission => s.modifySession c fun session => { session with game := some admission.game }
    | .terminate p => s.finish c .terminated (some p) none
  | some game =>
    match Package.ofUtf8 payload with
    | .error _ => s
    | .ok p =>
      let (answer, registry) := s.registry.askGame game (.broadcast p)
      let s := { s with registry }
      match answer with
      | .ok _ => s
      | .error _ => s.finish c .terminated (some Notice.shuttingDown.encode) none

def receive (s : Server) (c : ConnectionId) (frame : ClientFrame) : Server :=
  match s.session? c with
  | none => s
  | some session =>
    if session.phase = .active then
      match frame.checked with
      | .text payload =>
        match Text.Utf8.decode payload with
        | .ok _ => s.receivePayload c session payload
        | .error _ => s.finish c .transportError none none
      | .binary payload => s.receivePayload c session payload
      | .ping payload => s.modifySession c (·.deliver [.pong payload])
      | .pong _ => s
      | .close frame => s.finish c .peerClosed none frame
      | .invalid => s.finish c .transportError none none
    else s

def receiveAll (s : Server) (c : ConnectionId) (frames : List ClientFrame) : Server :=
  frames.foldl (fun s frame => (s.receive c frame).settle) s

/-- The client sends frames, all before the server reads the first; whether it has a line to an active
session. -/
def clientSend (s : Server) (c : ConnectionId) (frames : List ClientFrame) : Bool × Server :=
  if (s.session? c).any fun session => session.client = .upgraded && session.phase = .active then
    (true, s.receiveAll c frames)
  else (false, s)

def hasLine (s : Server) (c : ConnectionId) : Bool := (s.session? c).any (·.client ≠ .gone)

/-- The server notices that the client has cut the line. During the handshake that makes it fail, after it
the session ends in the usual way. -/
def lineCut (s : Server) (c : ConnectionId) : Server :=
  match s.session? c with
  | none => s
  | some session =>
    match session.phase with
    | .handshakePending => s.finish c .handshakeFailed none none
    | .active => s.finish c .peerClosed none none
    | _ => s

/-- The client cuts the line; whether there was one. -/
def clientDrop (s : Server) (c : ConnectionId) : Bool × Server :=
  if s.hasLine c then
    (true, ((s.modifySession c fun session => { session with client := .gone }).lineCut c).settle)
  else (false, s)

/-- The client reads all that it has been sent. A client without a line reads nothing. -/
def clientRead (s : Server) (c : ConnectionId) : List ServerFrame × Server :=
  match s.session? c with
  | none => ([], s)
  | some session =>
    if session.client = .gone then ([], s)
    else (session.sent, s.modifySession c fun session => { session with sent := [] })

/-- Ways in which a client can depart from the rules of the line. -/
inductive Violation
  /-- Something other than a handshake where one is due. -/
  | noHandshake
  /-- The beginning of a handshake. -/
  | partialHandshake
  /-- Octets that are no frame. -/
  | invalidFrame
  /-- The beginning of a frame. -/
  | partialFrame
  /-- A text in several pieces, which the rules allow. -/
  | fragmented (payload : List UInt8)
  deriving DecidableEq, Repr

/-- The client departs from the rules. What is not complete has no effect yet. -/
def violate (s : Server) (c : ConnectionId) : Violation → Server
  | .noHandshake => s.failHandshake c
  | .partialHandshake => s.modifySession c fun session => { session with spoiled := true }
  | .invalidFrame => (s.receive c .invalid).settle
  | .partialFrame => s
  | .fragmented payload => (s.receive c (.text payload)).settle

/-- Tells all sessions to stop, future ones included. -/
def cancelSessions (s : Server) : Server :=
  let refs := s.sessions.values.map (·.ref)
  ({ s with sessionsCancelled := true }.modifyExchange fun x => refs.foldl Exchange.cancel x).settle

end Server

end Scrimmage
