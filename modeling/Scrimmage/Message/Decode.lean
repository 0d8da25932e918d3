import Scrimmage.Message.Join
import Scrimmage.Message.Notice

namespace Scrimmage

open Json Text

inductive DecodeError
  | invalidUtf8 (fault : Utf8.Fault)
  | malformedJson (fault : Fault)
  | missingType
  | unidentifiedType (messageType : String)
  | invalidFields (messageType : String) (mismatch : Mismatch)
  deriving DecidableEq, Repr

namespace DecodeError

/-- The kind of error, as reports name it. -/
def code : DecodeError → String
  | .invalidUtf8 _ => "InvalidUtf8"
  | .malformedJson _ => "MalformedJson"
  | .missingType => "MissingType"
  | .unidentifiedType _ => "UnidentifiedType"
  | .invalidFields .. => "InvalidFields"

/-- The type that the message states, as far as it got read. -/
def messageType : DecodeError → Option String
  | .unidentifiedType t => some t
  | .invalidFields t _ => some t
  | _ => none

def message : DecodeError → String
  | .invalidUtf8 fault => "Invalid UTF-8 payload: " ++ fault.message
  | .malformedJson .unfinished => "Malformed JSON: the text ends too early"
  | .malformedJson .malformed => "Malformed JSON: the text is not a value"
  | .missingType => "Missing message type"
  | .unidentifiedType t => "Unidentified message type: " ++ t
  | .invalidFields t mismatch => "Invalid " ++ t ++ " message: " ++ mismatch.message

end DecodeError

/-- Says for every frame of a connection outside every game which request it is, or why it is none. The type is
looked up before the fields. -/
def JoinRequest.decode (payload : List UInt8) : Except DecodeError JoinRequest :=
  match Json.parse payload with
  | .error fault => .error (.malformedJson fault)
  | .ok v =>
    match (v.member? "type").bind Value.string? with
    | none => .error .missingType
    | some messageType =>
      if messageType = JoinRequest.messageType then
        match v with
        | .object members =>
          (JoinRequest.ofMembers members).mapError (.invalidFields messageType)
        | _ => .error .missingType
      else .error (.unidentifiedType messageType)

def Package.decode (payload : List UInt8) : Except DecodeError Package :=
  (Package.ofUtf8 payload).mapError .invalidUtf8

end Scrimmage
