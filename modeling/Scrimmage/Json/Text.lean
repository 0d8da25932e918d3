import Scrimmage.Json.Fault
import Scrimmage.Text.Utf8

namespace Scrimmage.Json

open Text

def hexDigit? (b : UInt8) : Option Nat :=
  if 0x30 ≤ b && b ≤ 0x39 then some (b.toNat - 0x30)
  else if 0x41 ≤ b && b ≤ 0x46 then some (b.toNat - 0x41 + 10)
  else if 0x61 ≤ b && b ≤ 0x66 then some (b.toNat - 0x61 + 10)
  else none

/-- Four hexadecimal digits. The input has to hold four octets before any of them is looked at. -/
def hexUnit : List UInt8 → Read Nat
  | a :: b :: c :: d :: rest =>
    match hexDigit? a, hexDigit? b, hexDigit? c, hexDigit? d with
    | some a, some b, some c, some d => .ok (((a * 16 + b) * 16 + c) * 16 + d, rest)
    | _, _, _, _ => .error .malformed
  | _ => .error .unfinished

/-- The character after a backslash and `u`: one unit, or two units that are a pair of surrogates. -/
def unicodeEscape (input : List UInt8) : Read Char :=
  (hexUnit input).next fun high rest =>
    if 0xDC00 ≤ high && high ≤ 0xDFFF then .error .malformed
    else if 0xD800 ≤ high && high ≤ 0xDBFF then
      (word [0x5C, 0x75] rest).next fun _ rest =>
        (hexUnit rest).next fun low rest =>
          if 0xDC00 ≤ low && low ≤ 0xDFFF then
            .ok (Char.ofNat ((high - 0xD800) * 0x400 + (low - 0xDC00) + 0x10000), rest)
          else .error .malformed
    else .ok (Char.ofNat high, rest)

/-- The octet that a letter stands for after a backslash. -/
def shortEscape? (letter : UInt8) : Option UInt8 :=
  if letter = 0x22 || letter = 0x5C || letter = 0x2F then some letter
  else if letter = 0x62 then some 0x08
  else if letter = 0x66 then some 0x0C
  else if letter = 0x6E then some 0x0A
  else if letter = 0x72 then some 0x0D
  else if letter = 0x74 then some 0x09
  else none

/-- What stands after a backslash, as octets. -/
def unescapeOne : List UInt8 → Read (List UInt8)
  | [] => .error .unfinished
  | letter :: rest =>
    if letter = 0x75 then (unicodeEscape rest).map Utf8.encodeChar
    else match shortEscape? letter with
      | some octet => .ok ([octet], rest)
      | none => .error .malformed

theorem hexUnit_shorter {input rest : List UInt8} {n : Nat} (h : hexUnit input = .ok (n, rest)) :
    rest.length < input.length := by
  unfold hexUnit at h
  split at h
  · split at h
    · cases h
      simp only [List.length_cons]
      omega
    · cases h
  · cases h

theorem unicodeEscape_shorter {input rest : List UInt8} {c : Char}
    (h : unicodeEscape input = .ok (c, rest)) : rest.length < input.length := by
  obtain ⟨high, afterHigh, first, h⟩ := Read.next_eq_ok h
  have := hexUnit_shorter first
  split at h
  · cases h
  · split at h
    · obtain ⟨_, afterMark, mark, h⟩ := Read.next_eq_ok h
      obtain ⟨low, afterLow, second, h⟩ := Read.next_eq_ok h
      have := hexUnit_shorter second
      have := congrArg List.length (word_eq_ok mark)
      split at h
      · obtain ⟨_, rfl⟩ := Prod.mk.inj (Except.ok.inj h)
        simp only [List.length_append] at this
        omega
      · cases h
    · obtain ⟨_, rfl⟩ := Prod.mk.inj (Except.ok.inj h)
      assumption

theorem unescapeOne_shorter {input rest out : List UInt8} (h : unescapeOne input = .ok (out, rest)) :
    rest.length < input.length := by
  cases input with
  | nil => cases h
  | cons letter input =>
    simp only [unescapeOne] at h
    split at h
    · obtain ⟨c, read, _⟩ := Read.map_eq_ok h
      have := unicodeEscape_shorter read
      simp only [List.length_cons]
      omega
    · split at h
      · cases h
        simp
      · cases h

/-- The octets of a string after its opening quote, up to and without the closing one. Escapes are resolved, and
controls must be escaped; whether the outcome is UTF-8 is asked once, at the quote. -/
def unescape : List UInt8 → Read (List UInt8)
  | [] => .error .unfinished
  | b :: input =>
    if b = 0x22 then .ok ([], input)
    else if b = 0x5C then
      match _h : unescapeOne input with
      | .ok (out, rest) => (unescape rest).map (out ++ ·)
      | .error fault => .error fault
    else if b < 0x20 then .error .malformed
    else (unescape input).map (b :: ·)
termination_by input => input.length
decreasing_by
  · have := unescapeOne_shorter _h
    simp only [List.length_cons]
    omega
  · simp

def readString (input : List UInt8) : Read String :=
  match unescape input with
  | .error fault => .error fault
  | .ok (octets, rest) =>
    match Utf8.readString octets with
    | .ok s => .ok (s, rest)
    | .error _ => .error .malformed

def hexOctet (n : Nat) : UInt8 := if n < 10 then .ofNat (0x30 + n) else .ofNat (0x61 + n - 10)

/-- An octet as it stands in a string: quotes, backslashes and controls are escaped, nothing else. -/
def escapeOctet (b : UInt8) : List UInt8 :=
  if b = 0x22 || b = 0x5C then [0x5C, b]
  else if b = 0x08 then [0x5C, 0x62]
  else if b = 0x09 then [0x5C, 0x74]
  else if b = 0x0A then [0x5C, 0x6E]
  else if b = 0x0C then [0x5C, 0x66]
  else if b = 0x0D then [0x5C, 0x72]
  else if b < 0x20 then
    [0x5C, 0x75, 0x30, 0x30, hexOctet (b.toNat / 16), hexOctet (b.toNat % 16)]
  else [b]

def escape (octets : List UInt8) : List UInt8 := octets.flatMap escapeOctet

def writeString (s : String) : List UInt8 := 0x22 :: (escape (Utf8.ofString s) ++ [0x22])

end Scrimmage.Json
