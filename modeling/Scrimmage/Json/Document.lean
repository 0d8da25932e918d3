import Scrimmage.Json.Numeral
import Scrimmage.Json.Text

namespace Scrimmage.Json

/-- The name that marks an embedded document. -/
def embeddedName : String := "$serde_json::private::RawValue"

def depthLimit : Nat := 127

/-- A value that is neither an array nor an object. -/
def scalar (input : List UInt8) : Read Value :=
  match input with
  | [] => .error .unfinished
  | b :: rest =>
    if b = 0x22 then (readString rest).map .string
    else if b = 0x2D || isDigit b then (readNumber (b :: rest)).map .number
    else if b = 0x6E then (word [0x75, 0x6C, 0x6C] rest).map fun _ => .null
    else if b = 0x74 then (word [0x72, 0x75, 0x65] rest).map fun _ => .boolean true
    else if b = 0x66 then (word [0x61, 0x6C, 0x73, 0x65] rest).map fun _ => .boolean false
    else .error .malformed

section Containers

variable (element : List UInt8 → Read Value)

/-- The items after the first one, up to the closing bracket. Each is longer than its comma, so the length
of the input bounds their number. -/
def moreItems : Nat → List UInt8 → Read (List Value)
  | 0, _ => .error .malformed
  | bound + 1, input =>
    match skipSpace input with
    | [] => .error .unfinished
    | b :: rest =>
      if b = 0x5D then .ok ([], rest)
      else if b = 0x2C then
        (element rest).next fun v rest => (moreItems bound rest).map (v :: ·)
      else .error .malformed

def items (input : List UInt8) : Read (List Value) :=
  match skipSpace input with
  | [] => .error .unfinished
  | b :: rest =>
    if b = 0x5D then .ok ([], rest)
    else (element (b :: rest)).next fun v rest => (moreItems element (rest.length + 1) rest).map (v :: ·)

/-- The name of a member and the colon after it. -/
def memberName (input : List UInt8) : Read String :=
  (expect 0x22 (skipSpace input)).next fun _ rest =>
    (readString rest).next fun name rest =>
      (expect 0x3A (skipSpace rest)).map fun _ => name

/-- The members after the first one, up to the closing brace, in the order of the text. -/
def moreMembers : Nat → List UInt8 → Read (List (String × Value))
  | 0, _ => .error .malformed
  | bound + 1, input =>
    match skipSpace input with
    | [] => .error .unfinished
    | b :: rest =>
      if b = 0x7D then .ok ([], rest)
      else if b = 0x2C then
        (memberName rest).next fun name rest =>
          (element rest).next fun v rest => (moreMembers bound rest).map ((name, v) :: ·)
      else .error .malformed

/-- The string that spells an embedded document. A number, a word or a string is read to its end before it
is refused; a bracket is refused at once. -/
def embeddedText (input : List UInt8) : Read String :=
  (scalar (skipSpace input)).next fun v rest =>
    match v with
    | .string s => .ok (s, rest)
    | _ => .error .malformed

/-- An object after its opening brace. -/
def members (embedded : List UInt8 → Option Value) (input : List UInt8) : Read Value :=
  match skipSpace input with
  | [] => .error .unfinished
  | b :: rest =>
    if b = 0x7D then .ok (.object [], rest)
    else
      (memberName (b :: rest)).next fun name rest =>
        if name = embeddedName then
          (embeddedText rest).next fun spelled rest =>
            match embedded (Text.Utf8.ofString spelled) with
            | none => .error .malformed
            | some v => (expect 0x7D (skipSpace rest)).map fun _ => v
        else
          (element rest).next fun v rest =>
            (moreMembers element (rest.length + 1) rest).map fun more =>
              .object (Members.ofList ((name, v) :: more))

end Containers

/-- A value nested at most `depth` deep, after white space. -/
def value (embedded : List UInt8 → Option Value) : Nat → List UInt8 → Read Value
  | 0, input => scalar (skipSpace input)
  | depth + 1, input =>
    match skipSpace input with
    | [] => .error .unfinished
    | b :: rest =>
      if b = 0x5B then (items (value embedded depth) rest).map .array
      else if b = 0x7B then members (value embedded depth) embedded rest
      else scalar (b :: rest)

/-- A value that is the whole of the input. -/
def whole (embedded : List UInt8 → Option Value) (input : List UInt8) : Except Fault Value :=
  match value embedded depthLimit input with
  | .error fault => .error fault
  | .ok (v, rest) => if (skipSpace rest).isEmpty then .ok v else .error .malformed

/-- A document with documents embedded in it, one in another at most `levels` times. -/
def documentWithin : Nat → List UInt8 → Except Fault Value
  | 0, input => whole (fun _ => none) input
  | levels + 1, input => whole (fun inner => (documentWithin levels inner).toOption) input

/-- The value of a JSON text, nested at most `depthLimit` deep, with white space around it. One object form is
special: an object whose first member has the reserved name `embeddedName` stands for the value of the document
that the member's string spells. An embedded document is shorter than the text it stands in, so the length of
the input bounds the levels. -/
def parse (input : List UInt8) : Except Fault Value := documentWithin input.length input

mutual

def write : Value → List UInt8
  | .null => [0x6E, 0x75, 0x6C, 0x6C]
  | .boolean true => [0x74, 0x72, 0x75, 0x65]
  | .boolean false => [0x66, 0x61, 0x6C, 0x73, 0x65]
  | .number n => writeNumber n
  | .string s => writeString s
  | .array vs => 0x5B :: (writeItems vs ++ [0x5D])
  | .object ms => 0x7B :: (writeMembers ms ++ [0x7D])

def writeItems : List Value → List UInt8
  | [] => []
  | [v] => write v
  | v :: w :: rest => write v ++ 0x2C :: writeItems (w :: rest)

def writeMembers : List (String × Value) → List UInt8
  | [] => []
  | [(name, v)] => writeString name ++ 0x3A :: write v
  | (name, v) :: next :: rest =>
    writeString name ++ 0x3A :: (write v ++ 0x2C :: writeMembers (next :: rest))

end

end Scrimmage.Json
