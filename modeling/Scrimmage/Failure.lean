import Scrimmage.Message.Decode

namespace Scrimmage

/-- What can go wrong inside the server. A failure to find room is told to the client as such; of all others the
client learns only that its request made no sense or that the server cannot serve it. -/
inductive Failure
  | transport (detail : String)
  | protocol (error : DecodeError)
  | notRegistered (connection : String)
  | alreadyJoined (connection : String)
  | gameFull (game : String)
  | sessionClosed (connection : String)
  | draining
  | internal (detail : String)
  deriving DecidableEq, Repr

namespace Failure

/-- The failure of a request to an actor that has stopped. -/
def unreachable : Failure := .internal "channel send failed: channel closed"

def code : Failure → String
  | .transport _ => "transport"
  | .protocol _ => "protocol"
  | .notRegistered _ => "not_registered"
  | .alreadyJoined _ => "already_joined"
  | .gameFull _ => "game_full"
  | .sessionClosed _ => "session_closed"
  | .draining => "draining"
  | .internal _ => "internal"

def message : Failure → String
  | .transport detail => "Transport error: " ++ detail
  | .protocol error => "Protocol error: " ++ error.message
  | .notRegistered connection => "Connection not registered: " ++ connection
  | .alreadyJoined connection => "Connection already joined a game: " ++ connection
  | .gameFull game => "Game is full: " ++ game
  | .sessionClosed connection => "Session closed: " ++ connection
  | .draining => "Server is draining"
  | .internal detail => "Internal error: " ++ detail

/-- Whether a join failed only for lack of room; the client may try again. -/
def isRejection : Failure → Bool
  | .gameFull _ | .alreadyJoined _ => true
  | _ => false

/-- Whether the session cannot go on. -/
def isTerminal : Failure → Bool
  | .protocol _ | .alreadyJoined _ | .gameFull _ => false
  | _ => true

def clientText : Failure → String
  | .protocol _ => Notice.unidentifiedText
  | .gameFull _ | .alreadyJoined _ => "Game is full."
  | _ => Notice.shuttingDownText

end Failure

end Scrimmage
