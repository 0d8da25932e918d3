import Scrimmage.Message.Notice
import Scrimmage.Proofs.Spelling

namespace Scrimmage

open Text

/-- The octets are characters, written one after another. Whatever the server writes is of this kind: JSON
values are written in ASCII but for what stands between quotes, and there every octet above ASCII is left as it
is, so that the characters of a string stay whole. -/
def IsText (octets : List UInt8) : Prop := ∃ cs, octets = Utf8.encode cs

namespace IsText

theorem nil : IsText [] := ⟨[], rfl⟩

theorem append {octets more : List UInt8} (one : IsText octets) (other : IsText more) : IsText (octets ++ more) := by
  obtain ⟨cs, rfl⟩ := one
  obtain ⟨ds, rfl⟩ := other
  exact ⟨cs ++ ds, (Utf8.encode_append cs ds).symm⟩

theorem flatten {parts : List (List UInt8)} (all : ∀ part ∈ parts, IsText part) : IsText parts.flatten := by
  induction parts with
  | nil => exact nil
  | cons part parts ih =>
    rw [List.flatten_cons]
    exact (all part List.mem_cons_self).append (ih fun p member => all p (List.mem_cons_of_mem _ member))

theorem flatMap {α : Type} {l : List α} {f : α → List UInt8} (all : ∀ a ∈ l, IsText (f a)) :
    IsText (l.flatMap f) := by
  rw [List.flatMap_def]
  refine flatten fun part member => ?_
  obtain ⟨a, inside, rfl⟩ := List.mem_map.mp member
  exact all a inside

theorem ascii {octets : List UInt8} (small : ∀ b ∈ octets, b.toNat < 0x80) : IsText octets := by
  refine ⟨octets.map fun b => Char.ofNat b.toNat, ?_⟩
  induction octets with
  | nil => rfl
  | cons b octets ih =>
    have one := Utf8.encodeChar_of_one (Utf8.width_eq_zero_iff.mpr (small b List.mem_cons_self))
    rw [List.map_cons, Utf8.encode_cons, one, ← ih fun o member => small o (List.mem_cons_of_mem _ member)]
    rfl

theorem cons {b : UInt8} {octets : List UInt8} (rest : IsText octets) (small : b.toNat < 0x80) :
    IsText (b :: octets) :=
  have one : IsText [b] := ascii (by simpa using small)
  one.append rest

theorem listed {opening closing : UInt8} {parts : List (List UInt8)} (all : ∀ part ∈ parts, IsText part)
    (small : opening.toNat < 0x80) (small' : closing.toNat < 0x80) :
    IsText (opening :: ((parts.intersperse [0x2C]).flatten ++ [closing])) := by
  have comma : IsText [0x2C] := ascii (by simp)
  refine cons (append (flatten ?_) (cons nil small')) small
  induction parts with
  | nil => exact nofun
  | cons part parts ih =>
    have later := ih fun p member => all p (List.mem_cons_of_mem _ member)
    cases parts with
    | nil => simpa using all part List.mem_cons_self
    | cons next parts =>
      intro p member
      rw [List.intersperse_cons_cons, List.mem_cons, List.mem_cons] at member
      rcases member with rfl | rfl | member
      · exact all _ List.mem_cons_self
      · exact comma
      · exact later p member

end IsText

/-- A package of text can be put into a frame, and its octets are those of the text. -/
theorem Package.text_of_isText {p : Package} (isText : IsText p.octets) :
    ∃ s, p.text = .ok s ∧ Utf8.ofString s = p.octets := by
  obtain ⟨cs, same⟩ := isText
  refine ⟨String.ofList cs, ?_, ?_⟩
  · rw [Package.text, same, Utf8.readString_encode]
  · rw [Utf8.ofString, String.toList_ofList, same]

namespace Json

theorem hexOctet_small {n : Nat} (digit : n < 16) : (hexOctet n).toNat < 0x80 := by
  rw [hexOctet]
  split <;> rw [UInt8.toNat_ofNat'] <;> omega

theorem escapeOctet_small {b : UInt8} (small : b.toNat < 0x80) : ∀ o ∈ escapeOctet b, o.toNat < 0x80 := by
  have high := hexOctet_small (n := b.toNat / 16) (by omega)
  have low := hexOctet_small (n := b.toNat % 16) (by omega)
  rw [escapeOctet]
  split_ifs <;> simp [small, high, low]

theorem escapeOctet_large {b : UInt8} (large : 0x80 ≤ b.toNat) : escapeOctet b = [b] := by
  have other : ∀ {o : UInt8}, o.toNat < 0x80 → b ≠ o := by
    rintro o small rfl
    omega
  have printed : ¬b < 0x20 := fun below => absurd (UInt8.lt_iff_toNat_lt.mp below) (by simp; omega)
  simp [escapeOctet, printed, other]

theorem escape_encodeChar (c : Char) : IsText (escape (Utf8.encodeChar c)) := by
  rcases Nat.lt_or_ge c.toNat 0x80 with below | above
  · apply IsText.ascii
    rw [Utf8.encodeChar_one below, escape, List.flatMap_singleton]
    exact escapeOctet_small (by rw [UInt8.toNat_ofNat']; omega)
  · have same : escape (Utf8.encodeChar c) = Utf8.encodeChar c := by
      rw [escape, List.flatMap_congr fun o member => escapeOctet_large (Utf8.encodeChar_large above o member),
        List.flatMap_singleton']
    rw [same]
    exact ⟨[c], by rw [Utf8.encode, List.flatMap_singleton]⟩

theorem writeString_isText (s : String) : IsText (writeString s) := by
  have escaped : IsText (escape (Utf8.ofString s)) := by
    rw [Utf8.ofString, Utf8.encode, escape, List.flatMap_assoc]
    exact IsText.flatMap fun c _ => escape_encodeChar c
  exact .cons (.append escaped (.cons .nil (by decide))) (by decide)

theorem asciiOctets_isText {cs : List Char} (small : ∀ c ∈ cs, c.toNat < 0x80) : IsText (asciiOctets cs) := by
  refine .ascii fun b member => ?_
  obtain ⟨c, inside, rfl⟩ := List.mem_map.mp member
  have below := small c inside
  rw [UInt8.toNat_ofNat']
  omega

theorem digitChars_small (n : Nat) : ∀ c ∈ Decimal.digitChars n, c.toNat < 0x80 := by
  intro c member
  have digit := Nat.isDigit_of_mem_toDigits (by decide) (by decide) member
  simp only [Char.isDigit, Bool.and_eq_true, decide_eq_true_eq] at digit
  have below := UInt32.le_iff_toNat_le.mp digit.2
  exact Nat.lt_of_le_of_lt below (by decide)

theorem writeInt_isText (n : Int) : IsText (writeInt n) := by
  have digits := asciiOctets_isText (digitChars_small n.natAbs)
  rw [writeInt]
  split
  · exact digits.cons (by decide)
  · exact digits

theorem positionalChars_small (pointZero : Bool) {ds : List Char} (small : ∀ c ∈ ds, c.toNat < 0x80)
    (exponent : Int) : ∀ c ∈ Decimal.positionalChars pointZero ds exponent, c.toNat < 0x80 := by
  have zeros : ∀ n, ∀ c ∈ List.replicate n '0', c.toNat < 0x80 := by
    intro n c member
    rw [List.eq_of_mem_replicate member]
    decide
  intro c member
  rw [Decimal.positionalChars] at member
  split at member
  · rcases List.mem_append.mp member with front | tail
    · rcases List.mem_append.mp front with digit | zero
      · exact small c digit
      · exact zeros _ c zero
    · split at tail
      · exact (by simp : ∀ c ∈ ['.', '0'], c.toNat < 0x80) c tail
      · cases tail
  · have padded : ∀ n, ∀ c ∈ List.replicate n '0' ++ ds, c.toNat < 0x80 := fun n c inside =>
      (List.mem_append.mp inside).elim (zeros n c) (small c)
    rcases List.mem_append.mp member with front | behind
    · rcases List.mem_append.mp front with before | point
      · exact padded _ c (List.mem_of_mem_take before)
      · exact (by simp : ∀ c ∈ ['.'], c.toNat < 0x80) c point
    · exact padded _ c (List.mem_of_mem_drop behind)

theorem scientificChars_small {ds : List Char} (small : ∀ c ∈ ds, c.toNat < 0x80) (leading : Int) :
    ∀ c ∈ Decimal.scientificChars ds leading, c.toNat < 0x80 := by
  have sign : ∀ c ∈ ['e', if leading < 0 then '-' else '+'], c.toNat < 0x80 := by
    split <;> simp
  intro c member
  unfold Decimal.scientificChars at member
  rcases List.mem_append.mp member with front | digit
  · rcases List.mem_append.mp front with mantissa | mark
    · rcases ds with _ | ⟨d, _ | ⟨other, rest⟩⟩
      · cases mantissa
      · exact small c mantissa
      · simp only [List.forall_mem_cons] at small
        simp only [List.mem_cons] at mantissa
        rcases mantissa with rfl | rfl | rfl | later
        · exact small.1
        · decide
        · exact small.2.1
        · exact small.2.2 c later
    · exact sign c mark
  · exact digitChars_small _ c digit

/-- The three ways to write a magnitude, whatever decides between them. -/
theorem magnitude_small (isZero isPositional : Prop) [Decidable isZero] [Decidable isPositional] (pointZero : Bool)
    {ds : List Char} (small : ∀ c ∈ ds, c.toNat < 0x80) (exponent leading : Int) :
    ∀ c ∈ (if isZero then Decimal.positionalChars pointZero ['0'] 0
      else if isPositional then Decimal.positionalChars pointZero ds exponent
      else Decimal.scientificChars ds leading), c.toNat < 0x80 := by
  split
  · exact positionalChars_small _ (by simp) _
  split
  · exact positionalChars_small _ small _
  · exact scientificChars_small small _

theorem writeNumber_isText (n : Number) : IsText (writeNumber n) := by
  cases n with
  | int n => exact writeInt_isText n
  | double x =>
    apply asciiOctets_isText
    intro c member
    rw [Decimal.Style.write] at member
    split at member
    · rcases List.mem_cons.mp member with rfl | rest
      · decide
      · exact magnitude_small _ _ _ (digitChars_small _) _ _ c rest
    · exact magnitude_small _ _ _ (digitChars_small _) _ _ c member

mutual

theorem write_isText (v : Value) : IsText (write v) := by
  cases v with
  | null => exact .ascii (by simp [write])
  | boolean b => cases b <;> exact .ascii (by simp [write])
  | number n => exact writeNumber_isText n
  | string s => exact writeString_isText s
  | array vs => exact .cons (.append (writeItems_isText vs) (.cons .nil (by decide))) (by decide)
  | object ms => exact .cons (.append (writeMembers_isText ms) (.cons .nil (by decide))) (by decide)

theorem writeItems_isText (vs : List Value) : IsText (writeItems vs) := by
  match vs with
  | [] => exact .nil
  | [v] => exact write_isText v
  | v :: w :: rest => exact (write_isText v).append (.cons (writeItems_isText (w :: rest)) (by decide))

theorem writeMembers_isText (ms : List (String × Value)) : IsText (writeMembers ms) := by
  match ms with
  | [] => exact .nil
  | [(name, v)] => exact (writeString_isText name).append (.cons (write_isText v) (by decide))
  | (name, v) :: next :: rest =>
    exact (writeString_isText name).append
      (.cons (.append (write_isText v) (.cons (writeMembers_isText (next :: rest)) (by decide))) (by decide))

end

theorem writeFields_isText {fields : List (String × List UInt8)} (all : ∀ field ∈ fields, IsText field.2) :
    IsText (writeFields fields) := by
  refine .listed ?_ (by decide) (by decide)
  intro part member
  obtain ⟨⟨name, text⟩, inside, rfl⟩ := List.mem_map.mp member
  exact (writeString_isText name).append (.cons (all _ inside) (by decide))

end Json

theorem RosterEntry.write_isText (p : RosterEntry) : IsText p.write :=
  Json.writeFields_isText (by
    simp [Json.writeInt_isText, Json.writeString_isText])

theorem Notice.write_isText (m : Notice) : IsText m.write := by
  cases m with
  | joinResult id result =>
    have players : ∀ entries : List RosterEntry, IsText (writeList (entries.map RosterEntry.write)) := by
      intro entries
      refine .listed ?_ (by decide) (by decide)
      intro part member
      obtain ⟨entry, _, rfl⟩ := List.mem_map.mp member
      exact entry.write_isText
    apply Json.writeFields_isText
    cases id <;> cases result <;>
      simp [Json.writeString_isText, Json.writeInt_isText, Json.write_isText, players]
  | warning message closed =>
    exact Json.writeFields_isText (by simp [Json.write_isText, Json.writeString_isText])

/-- Every message of the server can be put into a frame as it is. -/
theorem Notice.encode_isText (m : Notice) : IsText m.encode.octets := m.write_isText

end Scrimmage
