namespace Scrimmage.Text.Utf8

/-- The octets of one character, shortest form. -/
def encodeChar (c : Char) : List UInt8 :=
  let n := c.toNat
  if n < 0x80 then [.ofNat n]
  else if n < 0x800 then [.ofNat (0xC0 + n / 64), .ofNat (0x80 + n % 64)]
  else if n < 0x10000 then
    [.ofNat (0xE0 + n / 4096), .ofNat (0x80 + n / 64 % 64), .ofNat (0x80 + n % 64)]
  else
    [.ofNat (0xF0 + n / 262144), .ofNat (0x80 + n / 4096 % 64), .ofNat (0x80 + n / 64 % 64),
      .ofNat (0x80 + n % 64)]

def encode (cs : List Char) : List UInt8 := cs.flatMap encodeChar

/-- The octets of a string. -/
def ofString (s : String) : List UInt8 := encode s.toList

/-- Why octets are not UTF-8: from `index` on, either the text ends inside a sequence that is well
formed so far, or `length` octets begin a sequence that nothing can complete. -/
inductive Fault
  | incomplete (index : Nat)
  | invalid (index length : Nat)
  deriving DecidableEq, Repr

def Fault.message : Fault → String
  | .incomplete index => s!"incomplete utf-8 byte sequence from index {index}"
  | .invalid index length => s!"invalid utf-8 sequence of {length} bytes from index {index}"

/-- An octet that continues a sequence. -/
def isContinuation (b : UInt8) : Bool := 0x80 ≤ b && b ≤ 0xBF

/-- How many octets the sequence opened by `a` has; none if `a` opens no sequence. -/
def width (a : UInt8) : Option (Fin 4) :=
  if a < 0x80 then some 0
  else if a < 0xC2 then none
  else if a < 0xE0 then some 1
  else if a < 0xF0 then some 2
  else if a < 0xF5 then some 3
  else none

/-- Which second octets may follow `a` in a sequence of three or four: the bounds leave out overlong
forms (after E0 and F0), surrogates (after ED) and numbers above 10FFFF (after F4). -/
def isSecond (a b : UInt8) : Bool :=
  isContinuation b && (a != 0xE0 || 0xA0 ≤ b) && (a != 0xED || b ≤ 0x9F) && (a != 0xF0 || 0x90 ≤ b) &&
    (a != 0xF4 || b ≤ 0x8F)

/-- The six payload bits of a continuation octet, put below `high`. -/
def append (high : Nat) (b : UInt8) : Nat := high * 64 + b.toNat % 64

/-- Reads octets whose first has the given index in the whole text. -/
def decodeFrom (index : Nat) : List UInt8 → Except Fault (List Char)
  | [] => .ok []
  | a :: rest =>
    match width a with
    | none => .error (.invalid index 1)
    | some 0 => (decodeFrom (index + 1) rest).map (Char.ofNat a.toNat :: ·)
    | some 1 =>
      match rest with
      | [] => .error (.incomplete index)
      | b :: rest =>
        if isContinuation b then
          (decodeFrom (index + 2) rest).map (Char.ofNat (append (a.toNat % 32) b) :: ·)
        else .error (.invalid index 1)
    | some 2 =>
      match rest with
      | [] => .error (.incomplete index)
      | b :: rest =>
        if isSecond a b then
          match rest with
          | [] => .error (.incomplete index)
          | c :: rest =>
            if isContinuation c then
              (decodeFrom (index + 3) rest).map
                (Char.ofNat (append (append (a.toNat % 16) b) c) :: ·)
            else .error (.invalid index 2)
        else .error (.invalid index 1)
    | some 3 =>
      match rest with
      | [] => .error (.incomplete index)
      | b :: rest =>
        if isSecond a b then
          match rest with
          | [] => .error (.incomplete index)
          | c :: rest =>
            if isContinuation c then
              match rest with
              | [] => .error (.incomplete index)
              | d :: rest =>
                if isContinuation d then
                  (decodeFrom (index + 4) rest).map
                    (Char.ofNat (append (append (append (a.toNat % 8) b) c) d) :: ·)
                else .error (.invalid index 3)
            else .error (.invalid index 2)
        else .error (.invalid index 1)

/-- Reads octets as a sequence of characters, as `encode` writes them. A refusal says at which octet the text
stops being well formed and whether more octets could still have completed it. Overlong forms, surrogates and
numbers past the last character are refused by the range that the second octet of a sequence must lie in. -/
def decode (octets : List UInt8) : Except Fault (List Char) := decodeFrom 0 octets

/-- The string that the octets spell. -/
def readString (octets : List UInt8) : Except Fault String := (decode octets).map String.ofList

end Scrimmage.Text.Utf8
