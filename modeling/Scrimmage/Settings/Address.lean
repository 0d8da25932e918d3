import Scrimmage.Text.Quoted

namespace Scrimmage.Settings

/-- An address of the fourth or sixth version of the Internet protocol, and the number of a listener there. The
sixth version has eight groups of 16 bits and may name the scope it is valid in. -/
inductive SocketAddress
  | v4 (octets : List UInt8) (portNumber : UInt16)
  | v6 (groups : List UInt16) (scope : UInt32) (portNumber : UInt16)
  deriving DecidableEq, Repr

namespace SocketAddress

def portNumber : SocketAddress → UInt16
  | .v4 _ n => n
  | .v6 _ _ n => n

/-- What is read off the front of a text, and the rest of it. -/
abbrev Scan (α : Type) := List Char → Option (α × List Char)

def char (c : Char) : Scan Unit
  | [] => none
  | d :: rest => if d = c then some ((), rest) else none

def hexValue? (c : Char) : Option Nat :=
  if '0' ≤ c ∧ c ≤ '9' then some (c.toNat - '0'.toNat)
  else if 'a' ≤ c ∧ c ≤ 'f' then some (c.toNat - 'a'.toNat + 10)
  else if 'A' ≤ c ∧ c ≤ 'F' then some (c.toNat - 'A'.toNat + 10)
  else none

/-- The value of a digit in a base of at most sixteen. -/
def digitIn? (base : Nat) (c : Char) : Option Nat := (hexValue? c).filter (· < base)

def digitRun (base : Nat) : List Char → List Nat × List Char
  | [] => ([], [])
  | c :: rest =>
    match digitIn? base c with
    | none => ([], c :: rest)
    | some d =>
      let (ds, after) := digitRun base rest
      (d :: ds, after)

/-- All digits at the front of a text as one number below `bound`. There is at least one, and at most
`places` if that is given; zeros may stand in front only where `padded` says so. -/
def number (base : Nat) (places : Option Nat) (padded : Bool) (bound : Nat) : Scan Nat := fun text =>
  let (ds, rest) := digitRun base text
  let n := ds.foldl (fun n d => n * base + d) 0
  let tooLong := match places with
    | none => false
    | some places => places < ds.length
  if ds.isEmpty || tooLong || (!padded && ds.head? == some 0 && 1 < ds.length) || bound ≤ n then none
  else some (n, rest)

def octet : Scan UInt8 := fun text =>
  (number 10 (some 3) false 256 text).map fun (n, rest) => (.ofNat n, rest)

def group : Scan UInt16 := fun text =>
  (number 16 (some 4) true 65536 text).map fun (n, rest) => (.ofNat n, rest)

/-- Four octets with points between them. -/
def octets : Scan (List UInt8) := fun text => do
  let (a, rest) ← octet text
  let (_, rest) ← char '.' rest
  let (b, rest) ← octet rest
  let (_, rest) ← char '.' rest
  let (c, rest) ← octet rest
  let (_, rest) ← char '.' rest
  let (d, rest) ← octet rest
  return ([a, b, c, d], rest)

/-- A colon and the number of a listener. -/
def listener : Scan UInt16 := fun text => do
  let (_, rest) ← char ':' text
  let (n, rest) ← number 10 none true 65536 rest
  return (.ofNat n, rest)

/-- A part that stands after a colon unless it is the first. -/
def separated {α : Type} (first : Bool) (part : Scan α) : Scan α := fun text =>
  if first then part text else (char ':' text).bind fun (_, rest) => part rest

/-- The high and the low half of an octet pair. -/
def pair (high low : UInt8) : UInt16 := .ofNat (high.toNat * 256 + low.toNat)

/-- At most `room` groups with colons between them. The last two may be written as four octets, which is
said beside the groups. -/
def groups : Nat → Bool → List Char → List UInt16 × Bool × List Char
  | 0, _, text => ([], false, text)
  | room + 1, first, text =>
    match if room = 0 then none else separated first octets text with
    | some ([a, b, c, d], rest) => ([pair a b, pair c d], true, rest)
    | _ =>
      match separated first group text with
      | none => ([], false, text)
      | some (g, rest) =>
        let (more, dotted, rest) := groups room false rest
        (g :: more, dotted, rest)

/-- Eight groups, or two colons in place of at least one group that is zero. Octets stand only at the
end. -/
def eightGroups : Scan (List UInt16) := fun text => do
  let (front, dotted, rest) := groups 8 true text
  if front.length = 8 then return (front, rest)
  else if dotted then none
  else
    let (_, rest) ← char ':' rest
    let (_, rest) ← char ':' rest
    let (back, _, rest) := groups (7 - front.length) true rest
    return (front ++ List.replicate (8 - front.length - back.length) 0 ++ back, rest)

/-- The scope, zero if there is none. -/
def scope (text : List Char) : UInt32 × List Char :=
  let named : Option (UInt32 × List Char) := do
    let (_, rest) ← char '%' text
    let (n, rest) ← number 10 none true 4294967296 rest
    return (.ofNat n, rest)
  named.getD (0, text)

def scanV4 : Scan SocketAddress := fun text => do
  let (octets, rest) ← octets text
  let (n, rest) ← listener rest
  return (.v4 octets n, rest)

def scanV6 : Scan SocketAddress := fun text => do
  let (_, rest) ← char '[' text
  let (groups, rest) ← eightGroups rest
  let (scope, rest) := scope rest
  let (_, rest) ← char ']' rest
  let (n, rest) ← listener rest
  return (.v6 groups scope n, rest)

/-- The address that a text spells from its first to its last character. -/
def parse? (text : List Char) : Option SocketAddress :=
  match (scanV4 text).orElse fun _ => scanV6 text with
  | some (address, []) => some address
  | _ => none

/-- Where the longest run of zeros begins and how long it is; of equally long runs the first. The index is
that of the first group given. -/
def longestZeros (index : Nat) : List UInt16 → Nat × Nat
  | [] => (index, 0)
  | g :: rest =>
    let here := ((g :: rest).takeWhile (· = 0)).length
    let later := longestZeros (index + 1) rest
    if later.2 ≤ here then (index, here) else later

def colonSeparated (groups : List UInt16) : String :=
  ":".intercalate (groups.map fun g => String.ofList (Text.hexDigits g.toNat))

def octetsText (octets : List UInt8) : String := ".".intercalate (octets.map fun o => o.toNat.repr)

/-- The groups in base sixteen, the longest run of two or more zeros as two colons. An address that stands
for one of the fourth version shows its octets. -/
def groupsText (groups : List UInt16) : String :=
  match groups with
  | [0, 0, 0, 0, 0, 65535, high, low] =>
    "::ffff:" ++ octetsText
      [.ofNat (high.toNat / 256), .ofNat (high.toNat % 256), .ofNat (low.toNat / 256),
        .ofNat (low.toNat % 256)]
  | groups =>
    let (start, length) := longestZeros 0 groups
    if 1 < length then
      colonSeparated (groups.take start) ++ "::" ++ colonSeparated (groups.drop (start + length))
    else colonSeparated groups

def text : SocketAddress → String
  | .v4 octets n => octetsText octets ++ ":" ++ n.toNat.repr
  | .v6 groups scope n =>
    let scopeText := if scope = 0 then "" else "%" ++ scope.toNat.repr
    "[" ++ groupsText groups ++ scopeText ++ "]:" ++ n.toNat.repr

end SocketAddress

end Scrimmage.Settings
