namespace Scrimmage.Json

/-- Why octets are not a JSON text. A reader goes from left to right and stops at the first octet that no
JSON text has at this place, or at the end of the input where another octet is needed. -/
inductive Fault
  | unfinished
  | malformed
  deriving DecidableEq, Repr

/-- What is read off the front of the input, and the octets after it. -/
abbrev Read (α : Type) := Except Fault (α × List UInt8)

def Read.map {α β : Type} (f : α → β) : Read α → Read β
  | .ok (a, rest) => .ok (f a, rest)
  | .error fault => .error fault

/-- Reads on from where the first reader stopped. -/
def Read.next {α β : Type} (first : Read α) (following : α → List UInt8 → Read β) : Read β :=
  match first with
  | .ok (a, rest) => following a rest
  | .error fault => .error fault

theorem Read.next_eq_ok {α β : Type} {first : Read α} {f : α → List UInt8 → Read β}
    {out : β × List UInt8} (h : first.next f = .ok out) :
    ∃ a rest, first = .ok (a, rest) ∧ f a rest = .ok out := by
  cases first with
  | ok read => exact ⟨read.1, read.2, rfl, h⟩
  | error fault => cases h

theorem Read.map_eq_ok {α β : Type} {read : Read α} {f : α → β} {b : β} {rest : List UInt8}
    (h : read.map f = .ok (b, rest)) : ∃ a, read = .ok (a, rest) ∧ f a = b := by
  cases read with
  | ok read =>
    cases h
    exact ⟨read.1, rfl, rfl⟩
  | error fault => cases h

/-- White space between tokens: space, tab, line feed and carriage return. -/
def isSpace (b : UInt8) : Bool := b == 0x20 || b == 0x09 || b == 0x0A || b == 0x0D

def skipSpace (input : List UInt8) : List UInt8 := input.dropWhile isSpace

def expect (octet : UInt8) : List UInt8 → Read Unit
  | [] => .error .unfinished
  | b :: rest => if b = octet then .ok ((), rest) else .error .malformed

def word : List UInt8 → List UInt8 → Read Unit
  | [], input => .ok ((), input)
  | octet :: octets, input => (expect octet input).next fun _ rest => word octets rest

theorem expect_eq_ok {octet : UInt8} {input rest : List UInt8} (h : expect octet input = .ok ((), rest)) :
    input = octet :: rest := by
  cases input with
  | nil => cases h
  | cons b input =>
    simp only [expect] at h
    split at h
    · rename_i same
      cases h
      rw [same]
    · cases h

theorem word_eq_ok {octets input rest : List UInt8} (h : word octets input = .ok ((), rest)) :
    input = octets ++ rest := by
  induction octets generalizing input with
  | nil =>
    cases h
    rfl
  | cons octet octets ih =>
    obtain ⟨_, after, first, more⟩ := Read.next_eq_ok h
    rw [expect_eq_ok first, ih more, List.cons_append]

end Scrimmage.Json
