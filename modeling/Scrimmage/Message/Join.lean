import Scrimmage.Message.Team

namespace Scrimmage

open Json

/-- The one request that a connection outside every game may make: to join a named game, which is created if no
game has the name. -/
structure JoinRequest where
  /-- Chosen by the client and repeated in the answer. -/
  id : Option Value
  game : String
  nick : String
  team : TeamWish
  deriving BEq, Repr

namespace JoinRequest

def messageType : String := "join"

/-- Reads the members of a message. Those that are there are read in the order of their names, then the
absence of a required one is noticed. -/
def ofMembers (members : List (String × Value)) : Reading JoinRequest := do
  let game ← readMember? members "game" Value.readString
  let id ← readMember? members "id" Value.readOptional
  let nick ← readMember? members "nick" Value.readString
  let team ← readMember? members "team" TeamWish.readInMessage
  return {
    id := id.join
    game := ← required "game" game
    nick := ← required "nick" nick
    team := team.getD .unstated }

def write (r : JoinRequest) : List UInt8 :=
  writeFields <|
    [("type", writeString messageType)] ++ (r.id.map fun id => ("id", Json.write id)).toList ++
      [("game", writeString r.game), ("nick", writeString r.nick), ("team", writeString r.team.name)]

end JoinRequest

/-- What a client puts into a join request; unlike a request that was read, the team may be any text. -/
structure JoinDraft where
  game : String
  nick : String
  id : Option Value
  team : Option String
  deriving BEq, Repr

namespace JoinDraft

def members (d : JoinDraft) : List (String × Value) :=
  Members.ofList <|
    [("type", .string JoinRequest.messageType), ("game", .string d.game), ("nick", .string d.nick)] ++
      (d.id.map fun id => ("id", id)).toList ++ (d.team.map fun team => ("team", .string team)).toList

def write (d : JoinDraft) : List UInt8 := Json.write (.object d.members)

end JoinDraft

/-- A message of a type that no request has. -/
def unknownMessage : List UInt8 := Json.write (.object [("type", .string "frobnicate")])

end Scrimmage
