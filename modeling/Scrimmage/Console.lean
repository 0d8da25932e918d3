import Scrimmage.Deployment

namespace Scrimmage.Console

/-- What a client at the console does, one line each. `open` starts a session with its handshake, a number and a
text send a frame, `drop` and a number cut a line. What the clients are sent is written out with their numbers
in front. -/
inductive Input
  | openLine
  | send (client : ConnectionId) (text : String)
  | drop (client : ConnectionId)
  deriving DecidableEq, Repr

/-- The characters before and after the first blank. -/
def splitAtBlank (cs : List Char) : List Char × List Char :=
  (cs.takeWhile (· ≠ ' '), (cs.dropWhile (· ≠ ' ')).drop 1)

def client? (cs : List Char) : Option ConnectionId :=
  match Settings.readNumber cs with
  | .ok n => some ⟨.ofNat n⟩
  | .error _ => none

def Input.ofLine? (line : String) : Option Input :=
  let cs := Text.trimChars line.toList
  let (head, rest) := splitAtBlank cs
  if cs = "open".toList then some .openLine
  else if head = "drop".toList then (client? rest).map .drop
  else (client? head).map fun c => .send c (String.ofList rest)

def frameText : ServerFrame → String
  | .text s => s
  | .pong _ => "[pong]"
  | .close _ => "[closed]"
  | .reset => "[reset]"
  | .ended => "[ended]"

/-- Takes what all clients have been sent. -/
def collect (s : Server) : List String × Server :=
  s.sessions.keys.foldl
    (fun (lines, s) c =>
      let (frames, s) := s.clientRead c
      (lines ++ frames.map fun frame => c.number.toNat.repr ++ " " ++ frameText frame, s))
    ([], s)

def act (s : Server) : Input → List String × Server
  | .openLine =>
    let (c, s) := s.connect
    let (_, s) := s.handshake c
    collect s
  | .send c text => collect (s.clientSend c [.text (Text.Utf8.ofString text)]).2
  | .drop c => collect (s.clientDrop c).2

end Scrimmage.Console
