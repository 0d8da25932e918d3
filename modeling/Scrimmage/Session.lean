import Scrimmage.Lobby

namespace Scrimmage

inductive Phase
  | connecting
  | handshakePending
  | active
  | closing
  | closed
  deriving DecidableEq, Repr

namespace Phase

def name : Phase → String
  | .connecting => "connecting"
  | .handshakePending => "handshake_pending"
  | .active => "active"
  | .closing => "closing"
  | .closed => "closed"

def all : List Phase := [.connecting, .handshakePending, .active, .closing, .closed]

def ofName? (name : String) : Option Phase := all.find? (·.name = name)

/-- The steps of a session: forward one by one, and to closing from anywhere before it. -/
def canBecome : Phase → Phase → Bool
  | .connecting, .handshakePending => true
  | .handshakePending, .active => true
  | .connecting, .closing | .handshakePending, .closing | .active, .closing => true
  | .closing, .closed => true
  | _, _ => false

def isTerminal (p : Phase) : Bool := p = .closed

end Phase

inductive Ending
  | peerClosed
  | cancelled
  | requested
  | transportError
  | terminated
  | handshakeFailed
  | registryUnavailable
  deriving DecidableEq, Repr

namespace Ending

def name : Ending → String
  | .peerClosed => "peer_closed"
  | .cancelled => "cancelled"
  | .requested => "requested"
  | .transportError => "transport_error"
  | .terminated => "terminated"
  | .handshakeFailed => "handshake_failed"
  | .registryUnavailable => "registry_unavailable"

/-- Whether the end counts as an error. -/
def isError : Ending → Bool
  | .transportError | .handshakeFailed => true
  | _ => false

end Ending

structure CloseFrame where
  code : Nat
  reason : String
  deriving DecidableEq, Repr

inductive ClientFrame
  | text (payload : List UInt8)
  | binary (payload : List UInt8)
  | ping (payload : List UInt8)
  | pong (payload : List UInt8)
  | close (frame : Option CloseFrame)
  /-- Octets that are no frame. -/
  | invalid
  deriving DecidableEq, Repr

namespace ClientFrame

/-- How many octets a frame may have that carries no message. -/
def controlLimit : Nat := 125

/-- The octets of a frame that carries no message: the code of a close takes two. -/
def controlSize : ClientFrame → Nat
  | .ping payload | .pong payload => payload.length
  | .close (some frame) => frame.reason.utf8ByteSize + 2
  | _ => 0

/-- The frame as it is understood: one that is too long for its kind is no frame. -/
def checked (f : ClientFrame) : ClientFrame := if controlLimit < f.controlSize then .invalid else f

end ClientFrame

inductive ServerFrame
  | text (s : String)
  | pong (payload : List UInt8)
  | close (frame : Option CloseFrame)
  /-- The line is cut without a close frame. -/
  | reset
  /-- The line is cut before a handshake. -/
  | ended
  deriving DecidableEq, Repr

/-- The client's end of a line. -/
inductive ClientEnd
  /-- The handshake has not been made. -/
  | dialing
  | upgraded
  | gone
  deriving DecidableEq, Repr

/-- What a session does for the rest of the server to know of it. -/
inductive Deed
  /-- It is counted among the open sessions. -/
  | opened
  | registered
  | unregistered
  /-- It is no longer counted among them. -/
  | closed
  deriving DecidableEq, Repr

/-- One client's session: the phases it goes through, the frames between client and server, and what the client
has been sent. How sessions act is the matter of the server that they belong to. -/
structure Session where
  ref : SessionRef
  phase : Phase
  /-- The game that the client's frames are passed on to; without one they go to the lobby. -/
  game : Option GameRef
  /-- The changes of phase so far, in order. -/
  history : List (Phase × Phase)
  /-- The changes of phase that were asked for and are no steps, so that they were not made. -/
  refused : List (Phase × Phase)
  deeds : List Deed
  ending : Option Ending
  /-- How long the handshake has been waited for, in milliseconds. -/
  waited : Nat
  client : ClientEnd
  /-- Whether the client has begun a handshake that it cannot complete. -/
  spoiled : Bool
  /-- What the client has been sent and has not read, the oldest first. -/
  sent : List ServerFrame

namespace Session

def create (ref : SessionRef) : Session :=
  { ref, phase := .connecting, game := none, history := [], refused := [], deeds := [.opened], ending := none,
    waited := 0, client := .dialing, spoiled := false, sent := [] }

/-- Changes the phase, if that is a step. To ask for the present phase is nothing; other changes are not made. -/
def become (s : Session) (next : Phase) : Session :=
  if s.phase = next then s
  else if s.phase.canBecome next then { s with phase := next, history := s.history ++ [(s.phase, next)] }
  else { s with refused := s.refused ++ [(s.phase, next)] }

def note (s : Session) (deed : Deed) : Session := { s with deeds := s.deeds ++ [deed] }

def deliver (s : Session) (frames : List ServerFrame) : Session := { s with sent := s.sent ++ frames }

/-- Whether the session is known to the registry and has not begun to end. -/
def isLive (s : Session) : Bool := s.phase = .handshakePending || s.phase = .active

end Session

/-- What taking commands off a queue comes to: the texts sent, how many commands were taken, and the end of
the session if a command asked for it or could not be carried out. -/
structure Pumped where
  texts : List String
  taken : Nat
  ending : Option Ending
  deriving DecidableEq, Repr

/-- Carries commands out up to the first close, or up to a package that is no text. -/
def pump : List Command → Pumped
  | [] => { texts := [], taken := 0, ending := none }
  | .close _ :: _ => { texts := [], taken := 1, ending := some .requested }
  | .write p :: rest =>
    match p.text with
    | .error _ => { texts := [], taken := 1, ending := some .transportError }
    | .ok s =>
      let more := pump rest
      { more with texts := s :: more.texts, taken := more.taken + 1 }

end Scrimmage
