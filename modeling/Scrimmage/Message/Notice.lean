import Scrimmage.Message.Team
import Scrimmage.Package

namespace Scrimmage

open Json

/-- A player as others see it. -/
structure RosterEntry where
  /-- The slot, kept for as long as the player stays in the game. -/
  id : UInt32
  nick : String
  team : Team
  deriving DecidableEq, Repr

inductive JoinResult
  | joined (myId : UInt32) (players : List RosterEntry)
  | full
  deriving DecidableEq, Repr

/-- Messages that the server itself sends: the outcome of a join, and warnings. What members of a game send to
each other is passed on as it is and has no form here. -/
inductive Notice
  | joinResult (id : Option Value) (result : JoinResult)
  | warning (message : String) (closed : Bool)
  deriving BEq, Repr

namespace RosterEntry

def write (p : RosterEntry) : List UInt8 :=
  writeFields
    [("id", writeInt p.id.toNat), ("nick", writeString p.nick), ("team", writeString p.team.name)]

/-- A player is written as an object or as the list of its three fields. -/
def read : Value → Reading RosterEntry
  | .object members => do
    let id ← readMember? members "id" Value.readUInt32
    let nick ← readMember? members "nick" Value.readString
    let team ← readMember? members "team" Team.readInMessage
    return { id := ← required "id" id, nick := ← required "nick" nick, team := ← required "team" team }
  | .array fields => do
    let short : Mismatch := .invalidLength fields.length "struct PlayerInfo with 3 elements"
    let id ← Value.readUInt32 (← fields[0]?.elim (.error short) .ok)
    let nick ← Value.readString (← fields[1]?.elim (.error short) .ok)
    let team ← Team.readInMessage (← fields[2]?.elim (.error short) .ok)
    if fields.length = 3 then return { id, nick, team }
    else .error (.invalidLength fields.length "3 elements in sequence")
  | v => .error (.invalidType v.found "struct PlayerInfo")

/-- Players are read one after another up to the first that does not fit. -/
def readAll : Value → Reading (List RosterEntry)
  | .array vs => vs.mapM read
  | v => .error (.invalidType v.found "a sequence")

end RosterEntry

namespace JoinResult

/-- The names of the two outcomes; `true` is a player who joined. -/
def names : List (String × Bool) := [("joined", true), ("full", false)]

/-- Which outcome a `result` names, by its name or by its place in the list. -/
def readOutcome : Value → Reading Bool
  | .string name => readName names name
  | .number (.int n) =>
    if n = 0 then .ok true
    else if n = 1 then .ok false
    else if 0 < n then .error (.invalidValue (.number (.int n)) "variant index 0 <= i < 2")
    else .error (.invalidType (.number (.int n)) "variant identifier")
  | v => .error (.invalidType v.found "variant identifier")

def ofMembers (members : List (String × Value)) : Reading JoinResult := do
  let joined ← readOutcome (← required "result" (Members.find? "result" members))
  if joined then
    let myId ← readMember? members "my_id" Value.readUInt32
    let players ← readMember? members "players" RosterEntry.readAll
    return .joined (← required "my_id" myId) (← required "players" players)
  else return .full

end JoinResult

namespace Notice

/-- What a client reads when its frame is no request. -/
def unidentifiedText : String := "Received an unidentified package."

/-- What a client reads when the server can no longer serve it. -/
def shuttingDownText : String := "Server is shutting down."

def joined (id : Option Value) (slot : UInt32) (players : List RosterEntry) : Notice :=
  .joinResult id (.joined slot players)

def full (id : Option Value) : Notice := .joinResult id .full

def unidentified : Notice := .warning unidentifiedText false

def shuttingDown : Notice := .warning shuttingDownText true

def writeList (texts : List (List UInt8)) : List UInt8 :=
  0x5B :: ((texts.intersperse [0x2C]).flatten ++ [0x5D])

def write : Notice → List UInt8
  | .joinResult id result =>
    let outcome := match result with
      | .joined myId players =>
        [("result", writeString "joined"), ("my_id", writeInt myId.toNat),
          ("players", writeList (players.map RosterEntry.write))]
      | .full => [("result", writeString "full")]
    writeFields <|
      [("type", writeString "join-result")] ++ (id.map fun id => ("id", Json.write id)).toList ++ outcome
  | .warning message closed =>
    writeFields
      [("type", writeString "warning"), ("message", writeString message),
        ("closed", Json.write (.boolean closed))]

def encode (m : Notice) : Package := ⟨m.write⟩

inductive Kind
  | joinResult
  | warning

def kinds : List (String × Kind) := [("join-result", .joinResult), ("warning", .warning)]

def readKind : Value → Reading Kind
  | .string name => readName kinds name
  | v => .error (.invalidType v.found "variant identifier")

/-- The fields of a warning, in the order of their names. -/
def warningOfMembers (members : List (String × Value)) : Reading Notice := do
  let closed ← readMember? members "closed" Value.readBool
  let message ← readMember? members "message" Value.readString
  let message ← required "message" message
  return .warning message (← required "closed" closed)

/-- The fields of a warning, one after another. -/
def warningOfItems (fields : List Value) : Reading Notice := do
  let short : Mismatch := .invalidLength fields.length "struct Warning with 2 elements"
  let message ← Value.readString (← fields[0]?.elim (.error short) .ok)
  let closed ← Value.readBool (← fields[1]?.elim (.error short) .ok)
  if fields.length = 2 then return .warning message closed
  else .error (.invalidLength fields.length "2 elements in sequence")

/-- Reads a message. The `type` decides what else is read; a list has the type in front. -/
def read : Value → Reading Notice
  | .object members => do
    match ← readKind (← required "type" (Members.find? "type" members)) with
    | .joinResult =>
      let id ← readMember? members "id" Value.readOptional
      return .joinResult id.join (← JoinResult.ofMembers members)
    | .warning => warningOfMembers members
  | .array [] => .error (.missingField "type")
  | .array (kind :: fields) => do
    match ← readKind kind with
    | .joinResult => .error (.invalidType .sequence "struct JoinResult")
    | .warning => warningOfItems fields
  | v => .error (.invalidType v.found "internally tagged enum ServerMessage")

end Notice

end Scrimmage
