import Scrimmage.Json.Document
import Scrimmage.Text.Quoted

namespace Scrimmage.Json

/-- A value as a mismatch names it: numbers, words and strings with their text, the rest by kind. -/
inductive Found
  | boolean (b : Bool)
  | number (n : Number)
  | string (s : String)
  | null
  | sequence
  | map
  deriving DecidableEq, Repr

def asciiString (octets : List UInt8) : String := String.ofList (octets.map fun b => Char.ofNat b.toNat)

def Value.found : Value → Found
  | .null => .null
  | .boolean b => .boolean b
  | .number n => .number n
  | .string s => .string s
  | .array _ => .sequence
  | .object _ => .map

def Found.describe : Found → String
  | .boolean true => "boolean `true`"
  | .boolean false => "boolean `false`"
  | .number (.int n) => "integer `" ++ asciiString (writeInt n) ++ "`"
  | .number (.double x) => "floating point `" ++ asciiString (writeNumber (.double x)) ++ "`"
  | .string s => "string " ++ Text.quote s
  | .null => "null"
  | .sequence => "sequence"
  | .map => "map"

/-- The ways in which a JSON value does not fit what it is read as, each with its wording. The readers below
report the first one that they come to; they are the ones that messages are made of. -/
inductive Mismatch
  | missingField (name : String)
  | invalidType (found : Found) (expected : String)
  | invalidValue (found : Found) (expected : String)
  | unknownVariant (name : String) (known : List String)
  | invalidLength (length : Nat) (expected : String)
  | embedded (fault : Fault)
  deriving DecidableEq, Repr

def alternatives : List String → String
  | [] => "nothing"
  | [a] => "`" ++ a ++ "`"
  | [a, b] => "`" ++ a ++ "` or `" ++ b ++ "`"
  | names => "one of " ++ ", ".intercalate (names.map fun name => "`" ++ name ++ "`")

def Mismatch.message : Mismatch → String
  | .missingField name => "missing field `" ++ name ++ "`"
  | .invalidType found expected => "invalid type: " ++ found.describe ++ ", expected " ++ expected
  | .invalidValue found expected => "invalid value: " ++ found.describe ++ ", expected " ++ expected
  | .unknownVariant name known => "unknown variant `" ++ name ++ "`, expected " ++ alternatives known
  | .invalidLength length expected => s!"invalid length {length}, expected " ++ expected
  | .embedded .unfinished => "embedded document ends too early"
  | .embedded .malformed => "embedded document is malformed"

abbrev Reading (α : Type) := Except Mismatch α

namespace Value

def readString : Value → Reading String
  | .string s => .ok s
  | v => .error (.invalidType v.found "a string")

def readBool : Value → Reading Bool
  | .boolean b => .ok b
  | v => .error (.invalidType v.found "a boolean")

def readUInt32 : Value → Reading UInt32
  | .number (.int n) =>
    if 0 ≤ n ∧ n < 4294967296 then .ok (.ofNat n.toNat)
    else .error (.invalidValue (.number (.int n)) "u32")
  | v => .error (.invalidType v.found "u32")

mutual

/-- A value that is passed through. An object whose least name is the reserved one is taken for an
embedded document here, too, wherever in the text that member stood. -/
def readAny : Value → Reading Value
  | .array vs => (readItems vs).map .array
  | .object [] => .ok (.object [])
  | .object ((name, v) :: rest) =>
    if name = embeddedName then
      match v with
      | .string s =>
        match parse (Text.Utf8.ofString s) with
        | .error fault => .error (.embedded fault)
        | .ok inner =>
          if rest.isEmpty then .ok inner
          else .error (.invalidLength (rest.length + 1) "1 element in map")
      | v => .error (.invalidType v.found "raw value")
    else
      match readAny v with
      | .error mismatch => .error mismatch
      | .ok v => (readMembers rest).map fun more => .object ((name, v) :: more)
  | v => .ok v

def readItems : List Value → Reading (List Value)
  | [] => .ok []
  | v :: rest =>
    match readAny v with
    | .error mismatch => .error mismatch
    | .ok v => (readItems rest).map (v :: ·)

def readMembers : List (String × Value) → Reading (List (String × Value))
  | [] => .ok []
  | (name, v) :: rest =>
    match readAny v with
    | .error mismatch => .error mismatch
    | .ok v => (readMembers rest).map ((name, v) :: ·)

end

/-- A value that may be left out by writing null. -/
def readOptional : Value → Reading (Option Value)
  | .null => .ok none
  | v => (readAny v).map some

end Value

def readName {α : Type} (known : List (String × α)) (name : String) : Reading α :=
  match known.find? (·.1 = name) with
  | some (_, a) => .ok a
  | none => .error (.unknownVariant name (known.map (·.1)))

/-- A choice without content: its name, or an object of one member that has the name and no content.
`emptyMap` says whether an empty object counts as no content beside null. -/
def readChoice {α : Type} (emptyMap : Bool) (known : List (String × α)) : Value → Reading α
  | .string name => readName known name
  | .object [(name, content)] =>
    (readName known name).bind fun a =>
      match content with
      | .null => .ok a
      | .object [] => if emptyMap then .ok a else .error (.invalidType .map "unit")
      | v => .error (.invalidType v.found "unit")
  | .object _ => .error (.invalidValue .map "map with a single key")
  | v => .error (.invalidType v.found "string or map")

/-- A member, if there is one of that name. -/
def readMember? {α : Type} (members : List (String × Value)) (name : String) (read : Value → Reading α) :
    Reading (Option α) :=
  match Members.find? name members with
  | none => .ok none
  | some v => (read v).map some

def required {α : Type} (name : String) : Option α → Reading α
  | some a => .ok a
  | none => .error (.missingField name)

/-- An object with its members in the given order, their values already written. -/
def writeFields (fields : List (String × List UInt8)) : List UInt8 :=
  let texts := fields.map fun (name, text) => writeString name ++ 0x3A :: text
  0x7B :: ((texts.intersperse [0x2C]).flatten ++ [0x7D])

end Scrimmage.Json
