import Scrimmage.Proofs.Reading

namespace Scrimmage

open Text

theorem Text.Utf8.encodeChar_eq (c : Char) : encodeChar c = String.utf8EncodeChar c := by
  have valid := isValidChar_toNat c
  rw [Nat.isValidChar] at valid
  have number : c.val.toNat = c.toNat := rfl
  have other (n : Nat) : 0x80 + n % 64 = n % 64 + 128 := Nat.add_comm ..
  simp only [String.utf8EncodeChar, number]
  rcases Nat.lt_or_ge c.toNat 0x80 with below | above
  · rw [encodeChar_one below, if_pos (by omega)]
  rw [if_neg (by omega)]
  rcases Nat.lt_or_ge c.toNat 0x800 with below | above
  · have first : 0xC0 + c.toNat / 64 = c.toNat / 64 % 32 + 192 := by omega
    rw [encodeChar_two above below, if_pos (by omega), first, other]
  rw [if_neg (by omega)]
  rcases Nat.lt_or_ge c.toNat 0x10000 with below | above
  · have first : 0xE0 + c.toNat / 4096 = c.toNat / 4096 % 16 + 224 := by omega
    rw [encodeChar_three above below, if_pos (by omega), first, other, other]
  · have first : 0xF0 + c.toNat / 262144 = c.toNat / 262144 % 8 + 240 := by omega
    rw [encodeChar_four above, if_neg (by omega), first, other, other, other]

/-- The octets of a sequence of Unicode characters. -/
def WellFormed (octets : List UInt8) : Prop := ∃ cs : List Char, octets = cs.flatMap String.utf8EncodeChar

theorem isText_iff_wellFormed {octets : List UInt8} : IsText octets ↔ WellFormed octets := by
  have same : Utf8.encodeChar = String.utf8EncodeChar := funext Utf8.encodeChar_eq
  rw [IsText, WellFormed, ← same]
  rfl

instance (octets : List UInt8) : Decidable (WellFormed octets) :=
  decidable_of_iff ((Utf8.decode octets).isOk = true) (isText_iff.symm.trans isText_iff_wellFormed)

theorem Package.octets_of_ofUtf8 {octets : List UInt8} {p : Package} (made : ofUtf8 octets = .ok p) :
    p.octets = octets := by
  rw [ofUtf8] at made
  split at made
  · rw [← Except.ok.inj made]
  · cases made

theorem Package.exists_ofUtf8_iff {octets : List UInt8} : (∃ p, ofUtf8 octets = .ok p) ↔ WellFormed octets := by
  rw [← isText_iff_wellFormed, isText_iff, ofUtf8]
  cases Utf8.decode octets with
  | ok cs => exact ⟨fun _ => rfl, fun _ => ⟨_, rfl⟩⟩
  | error fault =>
    constructor
    · rintro ⟨_, made⟩
      cases made
    · intro valid
      cases valid

/-- How packages are made: from a string, as notices are, or from octets that have been looked at. Whichever it
is, the octets are those of Unicode characters, each as the strings of the language have it. -/
inductive Package.Made : Package → Prop
  | ofText (s : String) : Made (.ofText s)
  | ofUtf8 {octets : List UInt8} {p : Package} : Package.ofUtf8 octets = .ok p → Made p

theorem Package.made_iff {p : Package} : p.Made ↔ WellFormed p.octets := by
  constructor
  · rintro (s | made)
    · exact isText_iff_wellFormed.mp ⟨s.toList, rfl⟩
    · rw [octets_of_ofUtf8 made]
      exact exists_ofUtf8_iff.mp ⟨p, made⟩
  · intro wellFormed
    obtain ⟨q, made⟩ := exists_ofUtf8_iff.mpr wellFormed
    have same : q = p := congrArg Package.mk (octets_of_ofUtf8 made)
    exact .ofUtf8 (same ▸ made)

/-- A notice is written as a text, whatever nicks and ids it has in it. -/
theorem Notice.encode_made (m : Notice) : m.encode.Made :=
  Package.made_iff.mpr (isText_iff_wellFormed.mp m.encode_isText)

theorem Package.Made.isText {p : Package} (made : p.Made) : IsText p.octets :=
  isText_iff_wellFormed.mpr (made_iff.mp made)

/-- A package can be put into a frame, as the text that it has come from. -/
theorem Package.Made.text {p : Package} (made : p.Made) : ∃ s, p.text = .ok s ∧ Utf8.ofString s = p.octets :=
  p.text_of_isText made.isText

/-- An overlong form, a surrogate, a number past the last character, and a character that is cut off. -/
example : [[0xC0, 0x80], [0xED, 0xA0, 0x80], [0xF4, 0x90, 0x80, 0x80], [0xF0, 0x9F, 0x98]].all
    (fun octets => !(Package.ofUtf8 octets).isOk) = true := by
  decide +kernel

end Scrimmage
