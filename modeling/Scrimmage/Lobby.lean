import Scrimmage.Message.Decode
import Scrimmage.Registry

namespace Scrimmage

namespace Lobby

/-- What becomes of a frame of a connection that is in no game. A join request goes to the registry; anything
else is answered with a warning. Whether the connection then stays, joins or ends is for its session to carry
out. -/
inductive Outcome
  /-- The connection stays outside every game and gets an answer. -/
  | reply (package : Package)
  /-- The connection is in a game; its `join-result` is queued already. -/
  | joined (admission : Admission)
  /-- The session ends after a last frame. -/
  | terminate (package : Package)
  deriving DecidableEq, Repr

/-- How join requests are counted. -/
inductive Count
  | joined
  | full
  | rejected
  deriving DecidableEq, Repr

def Count.label : Count → String
  | .joined => "joined"
  | .full => "full"
  | .rejected => "rejected"

/-- Counts an answered join. Time does not pass while one is answered. -/
def record (r : Registry) (count : Count) : Registry :=
  r.measure fun t => (t.record (.join count.label)).record (.joinLatency 0)

/-- Carries a join request out. Lack of room is answered; other failures end the session. -/
def receiveRequest (r : Registry) (c : ConnectionId) (q : JoinRequest) : Outcome × Registry :=
  let application : Application :=
    { connection := c, game := q.game, nick := q.nick, team := q.team, id := q.id }
  let (answer, r) := r.send (·.join application)
  match answer.bind id with
  | .ok admission => (.joined admission, record r .joined)
  | .error failure =>
    if failure.isRejection then (.reply (Notice.full q.id).encode, record r .full)
    else (.terminate (Notice.warning failure.clientText true).encode, record r .rejected)

/-- Handles one frame of a connection that is in no game. -/
def receive (r : Registry) (c : ConnectionId) (payload : List UInt8) : Outcome × Registry :=
  match JoinRequest.decode payload with
  | .ok q => receiveRequest r c q
  | .error _ => (.reply Notice.unidentified.encode, r.measure (·.record .unidentified))

end Lobby

end Scrimmage
