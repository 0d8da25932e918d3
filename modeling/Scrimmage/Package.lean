import Scrimmage.Text.Utf8

namespace Scrimmage

open Text

/-- The octets of one text frame on their way to clients. A package is made from text, or from octets that were
checked to be text; it is never looked into again. -/
structure Package where
  octets : List UInt8
  deriving DecidableEq, Repr

namespace Package

def ofText (s : String) : Package := ⟨Utf8.ofString s⟩

/-- The octets as they are, if they are UTF-8. -/
def ofUtf8 (octets : List UInt8) : Except Utf8.Fault Package :=
  match Utf8.decode octets with
  | .ok _ => .ok ⟨octets⟩
  | .error fault => .error fault

def text (p : Package) : Except Utf8.Fault String := Utf8.readString p.octets

def size (p : Package) : Nat := p.octets.length

def isEmpty (p : Package) : Bool := p.octets.isEmpty

/-- A package as diagnostics name it: only its size. -/
def describe (p : Package) : String := "Package \x7b len: " ++ p.size.repr ++ " \x7d"

end Package

end Scrimmage
