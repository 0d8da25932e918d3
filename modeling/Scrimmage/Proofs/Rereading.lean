import Mathlib
import Scrimmage.Message.Notice
import Scrimmage.Proofs.Values

namespace Scrimmage.Json

open Text

theorem hexDigit?_hexOctet {n : Nat} (digit : n < 16) : hexDigit? (hexOctet n) = some n := by
  have all : ∀ n : Fin 16, hexDigit? (hexOctet n) = some n.val := by decide
  exact all ⟨n, digit⟩

theorem unescapeOne_control {b : UInt8} (control : b < 0x20) (rest : List UInt8) :
    unescapeOne (0x75 :: 0x30 :: 0x30 :: hexOctet (b.toNat / 16) :: hexOctet (b.toNat % 16) :: rest) =
      .ok ([b], rest) := by
  have small : b.toNat < 0x20 := UInt8.lt_iff_toNat_lt.mp control
  have number : ((0 * 16 + 0) * 16 + b.toNat / 16) * 16 + b.toNat % 16 = b.toNat := by omega
  have unit : hexUnit (0x30 :: 0x30 :: hexOctet (b.toNat / 16) :: hexOctet (b.toNat % 16) :: rest) =
      .ok (b.toNat, rest) := by
    have zero : hexDigit? 0x30 = some 0 := by decide
    rw [hexUnit, zero, hexDigit?_hexOctet (by omega), hexDigit?_hexOctet (by omega)]
    simp only [number]
  have below : b.toNat < 0x80 := by omega
  have single := Utf8.encodeChar_of_one (Utf8.width_eq_zero_iff.mpr below)
  have high : ¬(0xDC00 ≤ b.toNat ∧ b.toNat ≤ 0xDFFF) := by omega
  have low : ¬(0xD800 ≤ b.toNat ∧ b.toNat ≤ 0xDBFF) := by omega
  rw [unescapeOne, if_pos rfl, unicodeEscape, unit]
  simp only [Read.next, Bool.and_eq_true, decide_eq_true_eq, if_neg high, if_neg low, Read.map, single]

theorem unescapeOne_short {letter octet : UInt8} (other : letter ≠ 0x75) (short : shortEscape? letter = some octet)
    (rest : List UInt8) : unescapeOne (letter :: rest) = .ok ([octet], rest) := by
  rw [unescapeOne, if_neg other, short]

theorem unescape_marked {input out rest : List UInt8} (one : unescapeOne input = .ok (out, rest)) :
    unescape (0x5C :: input) = (unescape rest).map (out ++ ·) := by
  rw [unescape, if_neg (by decide), if_pos rfl]
  split
  · rename_i out' rest' one'
    cases one.symm.trans one'
    rfl
  · rename_i fault one'
    cases one.symm.trans one'

theorem unescape_escapeOctet (b : UInt8) (rest : List UInt8) :
    unescape (escapeOctet b ++ rest) = (unescape rest).map (b :: ·) := by
  have short : ∀ {letter}, letter ≠ 0x75 → shortEscape? letter = some b →
      unescape ([0x5C, letter] ++ rest) = (unescape rest).map (b :: ·) := fun other short =>
    unescape_marked (unescapeOne_short other short rest)
  rw [escapeOctet]
  split_ifs with itself backspace tab line form carriage control
  · simp only [Bool.or_eq_true, decide_eq_true_eq] at itself
    rcases itself with rfl | rfl <;> exact short (by decide) (by decide)
  · exact short (by decide) (backspace ▸ by decide)
  · exact short (by decide) (tab ▸ by decide)
  · exact short (by decide) (line ▸ by decide)
  · exact short (by decide) (form ▸ by decide)
  · exact short (by decide) (carriage ▸ by decide)
  · exact unescape_marked (unescapeOne_control control rest)
  · simp only [Bool.or_eq_true, decide_eq_true_eq, not_or] at itself
    rw [List.singleton_append, unescape, if_neg itself.1, if_neg itself.2, if_neg control]

theorem unescape_escape (octets rest : List UInt8) :
    unescape (escape octets ++ 0x22 :: rest) = .ok (octets, rest) := by
  induction octets with
  | nil => rw [escape, List.flatMap_nil, List.nil_append, unescape, if_pos rfl]
  | cons b octets ih =>
    rw [escape, List.flatMap_cons, List.append_assoc, unescape_escapeOctet, ← escape, ih]
    rfl

theorem readString_escape (s : String) (rest : List UInt8) :
    readString (escape (Utf8.ofString s) ++ 0x22 :: rest) = .ok (s, rest) := by
  rw [readString, unescape_escape, Utf8.ofString]
  simp only [Utf8.readString_encode, String.ofList_toList]

/-- The octets that a number may go on with. -/
def goesOn (b : UInt8) : Bool := isDigit b || b == 0x2E || b == 0x65 || b == 0x45

/-- A number in front of these octets ends there. -/
def Stops (rest : List UInt8) : Prop := ∀ b ∈ rest.head?, goesOn b = false

theorem Stops.nil : Stops [] := nofun

theorem Stops.cons {b : UInt8} (other : goesOn b = false) (rest : List UInt8) : Stops (b :: rest) := by
  rintro _ ⟨⟩
  exact other

theorem Stops.head {b : UInt8} {rest : List UInt8} (stops : Stops (b :: rest)) :
    isDigit b = false ∧ b ≠ 0x2E ∧ b ≠ 0x65 ∧ b ≠ 0x45 := by
  simpa [goesOn, and_assoc] using stops b rfl

/-- Digits in front of these octets end there. -/
def Ends (rest : List UInt8) : Prop := ∀ b ∈ rest.head?, isDigit b = false

theorem Stops.ends {rest : List UInt8} (stops : Stops rest) : Ends rest := by
  intro b first
  cases rest with
  | nil => cases first
  | cons c rest =>
    cases first
    exact stops.head.1

theorem fractionPart_of_stops {rest : List UInt8} (stops : Stops rest) : fractionPart rest = .ok ([], rest) := by
  cases rest with
  | nil => rfl
  | cons b rest =>
    obtain ⟨_, point, _⟩ := stops.head
    rw [fractionPart, if_neg point]

theorem exponentPart_of_stops {rest : List UInt8} (stops : Stops rest) : exponentPart rest = .ok (none, rest) := by
  cases rest with
  | nil => rfl
  | cons b rest =>
    obtain ⟨_, _, small, capital⟩ := stops.head
    rw [exponentPart, if_neg (by simp [small, capital])]

/-- The values of the digits of a number. -/
def digitValues (n : Nat) : List Nat := (Decimal.digitChars n).map (·.toNat - 0x30)

theorem digitChars_bounds {n : Nat} {c : Char} (member : c ∈ Decimal.digitChars n) :
    0x30 ≤ c.toNat ∧ c.toNat ≤ 0x39 := by
  have digit := Nat.isDigit_of_mem_toDigits (by decide) (by decide) member
  simp only [Char.isDigit, Bool.and_eq_true, decide_eq_true_eq, ge_iff_le, UInt32.le_iff_toNat_le] at digit
  exact digit

theorem isDigit_digitChars (n : Nat) : ∀ b ∈ asciiOctets (Decimal.digitChars n), isDigit b = true := by
  intro b member
  obtain ⟨c, inside, rfl⟩ := List.mem_map.mp member
  have bounds := digitChars_bounds inside
  simp only [isDigit, Bool.and_eq_true, decide_eq_true_eq, UInt8.le_iff_toNat_le, UInt8.toNat_ofNat',
    UInt8.reduceToNat]
  omega

theorem digitOctets_eq_cons (n : Nat) :
    ∃ b more, asciiOctets (Decimal.digitChars n) = b :: more ∧ isDigit b = true := by
  have all := isDigit_digitChars n
  cases octets : asciiOctets (Decimal.digitChars n) with
  | nil => exact absurd (List.map_eq_nil_iff.mp octets) Nat.toDigits_ne_nil
  | cons b more => exact ⟨b, more, rfl, all b (octets ▸ List.mem_cons_self)⟩

theorem asciiOctets_values (n : Nat) :
    (asciiOctets (Decimal.digitChars n)).map (·.toNat - 0x30) = digitValues n := by
  rw [asciiOctets, List.map_map, digitValues]
  refine List.map_congr_left fun c member => ?_
  have bounds := digitChars_bounds member
  rw [Function.comp_apply, UInt8.toNat_ofNat']
  omega

theorem digits_append {octets rest : List UInt8} (all : ∀ b ∈ octets, isDigit b = true) (ends : Ends rest) :
    digits (octets ++ rest) = (octets.map (·.toNat - 0x30), rest) := by
  have none : rest.takeWhile isDigit = [] ∧ rest.dropWhile isDigit = rest := by
    cases rest with
    | nil => exact ⟨rfl, rfl⟩
    | cons b rest => simp [ends b rfl]
  rw [digits, List.takeWhile_append_of_pos all, List.dropWhile_append_of_pos all, none.1, none.2,
    List.append_nil]

theorem spelled_digitValues (n : Nat) : spelled 0 (digitValues n) = n := by
  rw [spelled, digitValues, List.foldl_map]
  have value := Nat.ofDigitChars_toDigits (b := 10) (n := n) (by decide) (by decide)
  rw [Nat.ofDigitChars] at value
  simpa [Decimal.digitChars, Nat.mul_comm] using value

theorem digitValues_of_lt {n : Nat} (digit : n < 10) : digitValues n = [n] := by
  have all : ∀ n : Fin 10, (Nat.digitChar n).toNat - 0x30 = n.val := by decide
  rw [digitValues, Decimal.digitChars, Nat.toDigits_of_lt_base digit, List.map_singleton, all ⟨n, digit⟩]

theorem digitValues_cases (n : Nat) : digitValues n = [n] ∨ ∃ d ds, digitValues n = (d + 1) :: ds := by
  induction n using Nat.strong_induction_on with
  | _ n ih =>
    rcases Nat.lt_or_ge n 10 with digit | more
    · exact .inl (digitValues_of_lt digit)
    · obtain ⟨last, split⟩ : ∃ last, digitValues n = digitValues (n / 10) ++ [last] := by
        rw [digitValues, Decimal.digitChars, Nat.toDigits_eq_if (by decide), if_neg (by omega), List.map_append]
        exact ⟨_, rfl⟩
      rcases ih (n / 10) (by omega) with single | ⟨d, ds, front⟩
      · exact .inr ⟨n / 10 - 1, [last], by rw [split, single, Nat.sub_add_cancel (by omega)]; rfl⟩
      · exact .inr ⟨d, ds ++ [last], by rw [split, front]; rfl⟩

theorem le_spelled (n : Nat) (ds : List Nat) : n ≤ spelled n ds := by
  induction ds generalizing n with
  | nil => exact le_rfl
  | cons d ds ih =>
    rw [spelled, List.foldl_cons]
    have later := ih (n * 10 + d)
    rw [spelled] at later
    omega

theorem absorb_eq {n : Nat} {ds : List Nat} (small : spelled n ds < 18446744073709551616) :
    absorb n ds = (spelled n ds, []) := by
  induction ds generalizing n with
  | nil => rfl
  | cons d ds ih =>
    rw [spelled, List.foldl_cons, ← spelled] at small ⊢
    rw [absorb, if_pos (Nat.lt_of_le_of_lt (le_spelled _ ds) small), ih small]

theorem wholePart_digits (n : Nat) {rest : List UInt8} (stops : Stops rest) :
    wholePart (asciiOctets (Decimal.digitChars n) ++ rest) = .ok (digitValues n, rest) := by
  have some : someDigits (asciiOctets (Decimal.digitChars n) ++ rest) = .ok (digitValues n, rest) := by
    have read := digits_append (isDigit_digitChars n) stops.ends
    obtain ⟨b, more, octets, digit⟩ := digitOctets_eq_cons n
    rw [asciiOctets_values, octets, List.cons_append] at read
    rw [octets, List.cons_append, someDigits, if_pos digit, read]
  rw [wholePart, some]
  rcases digitValues_cases n with single | ⟨d, ds, front⟩
  · simp [Read.next, single]
  · simp [Read.next, front]

theorem unsignedNumeral_digits (negative : Bool) (n : Nat) {rest : List UInt8} (stops : Stops rest) :
    unsignedNumeral negative (asciiOctets (Decimal.digitChars n) ++ rest) =
      .ok (⟨negative, digitValues n, [], none⟩, rest) := by
  rw [unsignedNumeral, wholePart_digits n stops]
  simp only [Read.next, fractionPart_of_stops stops, exponentPart_of_stops stops, Read.map]

theorem value?_whole (negative : Bool) {n : Nat} (small : n < 18446744073709551616) :
    Numeral.value? ⟨negative, digitValues n, [], none⟩ = Numeral.whole? negative n := by
  rw [Numeral.value?, absorb_eq (by rwa [spelled_digitValues]), spelled_digitValues]
  rfl

theorem readNumber_writeInt {n : Int} (fits : Number.fitsInt n = true) {rest : List UInt8} (stops : Stops rest) :
    readNumber (writeInt n ++ rest) = .ok (.int n, rest) := by
  simp only [Number.fitsInt, Bool.and_eq_true, decide_eq_true_eq] at fits
  have read : numeral (writeInt n ++ rest) = .ok (⟨decide (n < 0), digitValues n.natAbs, [], none⟩, rest) := by
    rw [writeInt]
    split
    · rename_i below
      rw [List.cons_append, numeral, if_pos rfl, unsignedNumeral_digits true _ stops, decide_eq_true below]
    · rename_i above
      rw [decide_eq_false above, ← unsignedNumeral_digits false _ stops]
      obtain ⟨b, more, octets, digit⟩ := digitOctets_eq_cons n.natAbs
      have other : b ≠ 0x2D := by
        rintro rfl
        exact absurd digit (by decide)
      rw [octets, List.cons_append, numeral, if_neg other]
  have value : Numeral.whole? (decide (n < 0)) n.natAbs = some (.int n) := by
    rw [Numeral.whole?]
    rcases lt_or_ge n 0 with below | above
    · have magnitude : n.natAbs ≠ 0 ∧ n.natAbs ≤ 9223372036854775808 := by omega
      have same : -(n.natAbs : Int) = n := by omega
      rw [decide_eq_true below, if_neg (by decide), if_pos magnitude, same]
    · have same : (n.natAbs : Int) = n := by omega
      rw [decide_eq_false (by omega), if_pos (by decide), same]
  rw [readNumber, read]
  simp only [Read.next, value?_whole _ (n := n.natAbs) (by omega), value]

/-- The text reads as `a` in front of whatever ends a number, and begins like an item of a list. Every reader
stops where its text ends, except that a number would go on with the digits that follow it; what the writer puts
behind a value is a comma, a bracket or nothing. -/
structure Spells {α : Type} (read : List UInt8 → Read α) (text : List UInt8) (a : α) : Prop where
  begins : ∃ b more, text = b :: more ∧ isSpace b = false ∧ b ≠ 0x5D
  reads : ∀ {rest}, Stops rest → read (text ++ rest) = .ok (a, rest)

theorem skipSpace_cons {b : UInt8} (other : isSpace b = false) (rest : List UInt8) :
    skipSpace (b :: rest) = b :: rest := by
  rw [skipSpace, List.dropWhile_cons_of_neg (by simp [other])]

section

variable (embedded : List UInt8 → Option Value) (depth : Nat)

/-- What is neither an array nor an object is read alike at every depth. -/
theorem value_eq_scalar {b : UInt8} {rest : List UInt8} (other : isSpace b = false) (array : b ≠ 0x5B)
    (object : b ≠ 0x7B) : value embedded depth (b :: rest) = scalar (b :: rest) := by
  cases depth with
  | zero => rw [value, skipSpace_cons other]
  | succ depth =>
    rw [value, skipSpace_cons other]
    simp only [if_neg array, if_neg object]

theorem spells_of_scalar {b : UInt8} {more : List UInt8} {v : Value}
    (plain : isSpace b = false ∧ b ≠ 0x5D ∧ b ≠ 0x5B ∧ b ≠ 0x7B)
    (read : ∀ {rest}, Stops rest → scalar (b :: (more ++ rest)) = .ok (v, rest)) :
    Spells (value embedded depth) (b :: more) v := by
  refine ⟨⟨b, more, rfl, plain.1, plain.2.1⟩, fun stops => ?_⟩
  rw [List.cons_append, value_eq_scalar _ _ plain.1 plain.2.2.1 plain.2.2.2, read stops]

theorem spells_null : Spells (value embedded depth) (write .null) .null :=
  spells_of_scalar _ _ (by decide) fun _ => rfl

theorem spells_boolean (b : Bool) : Spells (value embedded depth) (write (.boolean b)) (.boolean b) := by
  cases b with
  | false => exact spells_of_scalar _ _ (by decide) fun _ => rfl
  | true => exact spells_of_scalar _ _ (by decide) fun _ => rfl

theorem spells_string (s : String) : Spells (value embedded depth) (writeString s) (.string s) := by
  refine spells_of_scalar _ _ (by decide) fun {rest} _ => ?_
  rw [scalar, if_pos rfl, List.append_assoc, List.singleton_append, readString_escape]
  rfl

theorem writeInt_eq_cons (n : Int) : ∃ b more, writeInt n = b :: more ∧ (b = 0x2D ∨ isDigit b = true) := by
  rw [writeInt]
  split
  · exact ⟨_, _, rfl, .inl rfl⟩
  · obtain ⟨b, more, octets, digit⟩ := digitOctets_eq_cons n.natAbs
    exact ⟨b, more, octets, .inr digit⟩

theorem plain_of_isDigit {b : UInt8} (digit : isDigit b = true) :
    isSpace b = false ∧ b ≠ 0x5D ∧ b ≠ 0x5B ∧ b ≠ 0x7B := by
  refine ⟨?_, ?_, ?_, ?_⟩
  · cases space : isSpace b with
    | false => rfl
    | true =>
      simp only [isSpace, Bool.or_eq_true, beq_iff_eq] at space
      rcases space with ((rfl | rfl) | rfl) | rfl <;> exact absurd digit (by decide)
  all_goals
    rintro rfl
    exact absurd digit (by decide)

theorem spells_int {n : Int} (fits : Number.fitsInt n = true) :
    Spells (value embedded depth) (writeInt n) (.number (.int n)) := by
  obtain ⟨b, more, text, first⟩ := writeInt_eq_cons n
  have plain : (isSpace b = false ∧ b ≠ 0x5D ∧ b ≠ 0x5B ∧ b ≠ 0x7B) ∧ b ≠ 0x22 := by
    rcases first with rfl | digit
    · decide
    · refine ⟨plain_of_isDigit digit, ?_⟩
      rintro rfl
      exact absurd digit (by decide)
  rw [text]
  refine spells_of_scalar _ _ plain.1 fun {rest} stops => ?_
  have read := readNumber_writeInt fits stops
  rw [text, List.cons_append] at read
  rw [scalar, if_neg plain.2, if_pos (by simpa using first), read]
  rfl

end

/-- Texts with commas between them: the first, and the others each after its comma. -/
theorem flatten_intersperse (text : List UInt8) (texts : List (List UInt8)) :
    ((text :: texts).intersperse [0x2C]).flatten = text ++ texts.flatMap (0x2C :: ·) := by
  induction texts generalizing text with
  | nil => simp
  | cons next texts ih =>
    rw [List.intersperse_cons_cons, List.flatten_cons, List.flatten_cons, ih, List.flatMap_cons]
    rfl

theorem write_array (vs : List Value) : write (.array vs) = Notice.writeList (vs.map write) := by
  have items : writeItems vs = ((vs.map write).intersperse [0x2C]).flatten := by
    induction vs with
    | nil => rfl
    | cons v vs ih =>
      cases vs with
      | nil => simp [writeItems]
      | cons w vs => simpa [writeItems] using ih
  rw [write, items, Notice.writeList]

/-- A field with its name in front. -/
def memberText (field : String × List UInt8) : List UInt8 := writeString field.1 ++ 0x3A :: field.2

theorem write_object (ms : List (String × Value)) :
    write (.object ms) = writeFields (ms.map fun m => (m.1, write m.2)) := by
  have members : writeMembers ms = ((ms.map fun m => memberText (m.1, write m.2)).intersperse [0x2C]).flatten := by
    induction ms with
    | nil => rfl
    | cons m ms ih =>
      cases ms with
      | nil => simp [writeMembers, memberText]
      | cons next ms => simpa [writeMembers, memberText] using ih
  rw [write, members, writeFields, List.map_map]
  rfl

section

variable {embedded : List UInt8 → Option Value} {element : List UInt8 → Read Value}

theorem stops_behind (closing : UInt8) (other : goesOn closing = false) (texts : List (List UInt8))
    (rest : List UInt8) : Stops (texts.flatMap (0x2C :: ·) ++ closing :: rest) := by
  cases texts with
  | nil => exact .cons other rest
  | cons text texts => exact .cons (by decide) _

theorem length_le_flatMap (texts : List (List UInt8)) : texts.length ≤ (texts.flatMap (0x2C :: ·)).length := by
  induction texts with
  | nil => exact le_rfl
  | cons text texts ih =>
    simp only [List.flatMap_cons, List.length_append, List.length_cons]
    omega

theorem moreItems_comma (bound : Nat) (rest : List UInt8) : moreItems element (bound + 1) (0x2C :: rest) =
    (element rest).next fun v rest => (moreItems element bound rest).map (v :: ·) := by
  rw [moreItems, skipSpace_cons (by decide)]
  rfl

theorem moreItems_spelled {texts : List (List UInt8)} {vs : List Value}
    (each : List.Forall₂ (Spells element) texts vs) {bound : Nat} (enough : texts.length < bound)
    (rest : List UInt8) : moreItems element bound (texts.flatMap (0x2C :: ·) ++ 0x5D :: rest) = .ok (vs, rest) := by
  induction each generalizing bound with
  | nil =>
    obtain ⟨bound, rfl⟩ := Nat.exists_eq_add_one.mpr enough
    rw [List.flatMap_nil, List.nil_append, moreItems, skipSpace_cons (by decide)]
    rfl
  | @cons text v texts vs first later ih =>
    obtain ⟨bound, rfl⟩ := Nat.exists_eq_add_one.mpr (Nat.zero_lt_of_lt enough)
    have read := first.reads (stops_behind 0x5D (by decide) texts rest)
    rw [List.flatMap_cons, List.cons_append, List.cons_append, List.append_assoc, moreItems_comma, read, Read.next,
      ih (Nat.lt_of_succ_lt_succ enough)]
    rfl

theorem items_spelled {texts : List (List UInt8)} {vs : List Value}
    (each : List.Forall₂ (Spells element) texts vs) (rest : List UInt8) :
    items element ((texts.intersperse [0x2C]).flatten ++ 0x5D :: rest) = .ok (vs, rest) := by
  cases each with
  | nil =>
    rw [List.intersperse_nil, List.flatten_nil, List.nil_append, items, skipSpace_cons (by decide)]
    rfl
  | @cons text v texts vs first later =>
    obtain ⟨b, more, begin, space, bracket⟩ := first.begins
    have read := first.reads (stops_behind 0x5D (by decide) texts rest)
    have enough := length_le_flatMap texts
    rw [flatten_intersperse, List.append_assoc]
    rw [begin, List.cons_append] at read ⊢
    rw [items, skipSpace_cons space]
    simp only [if_neg bracket, read, Read.next]
    rw [moreItems_spelled later (by simp only [List.length_append]; omega)]
    rfl

theorem value_array (embedded : List UInt8 → Option Value) (depth : Nat) (rest : List UInt8) :
    value embedded (depth + 1) (0x5B :: rest) = (items (value embedded depth) rest).map .array := by
  rw [value, skipSpace_cons (by decide)]
  rfl

theorem spells_array {depth : Nat} {texts : List (List UInt8)} {vs : List Value}
    (each : List.Forall₂ (Spells (value embedded depth)) texts vs) :
    Spells (value embedded (depth + 1)) (Notice.writeList texts) (.array vs) := by
  refine ⟨⟨_, _, rfl, by decide, by decide⟩, fun {rest} _ => ?_⟩
  rw [Notice.writeList, List.cons_append, List.append_assoc, List.singleton_append, value_array,
    items_spelled each rest]
  rfl

theorem memberName_writeString (name : String) (rest : List UInt8) :
    memberName (writeString name ++ 0x3A :: rest) = .ok (name, rest) := by
  rw [memberName, writeString, List.cons_append, skipSpace_cons (by decide), expect, if_pos rfl,
    List.append_assoc, List.singleton_append]
  simp only [Read.next, readString_escape]
  rw [skipSpace_cons (by decide), expect, if_pos rfl]
  rfl

theorem members_named (name : String) (rest : List UInt8) :
    members element embedded (writeString name ++ 0x3A :: rest) =
      if name = embeddedName then
        (embeddedText rest).next fun spelled rest =>
          match embedded (Utf8.ofString spelled) with
          | none => .error .malformed
          | some v => (expect 0x7D (skipSpace rest)).map fun _ => v
      else
        (element rest).next fun v rest =>
          (moreMembers element (rest.length + 1) rest).map fun more =>
            .object (Members.ofList ((name, v) :: more)) := by
  have read := memberName_writeString name rest
  rw [writeString, List.cons_append] at read ⊢
  rw [members, skipSpace_cons (by decide)]
  simp only [if_neg (by decide : ¬(0x22 : UInt8) = 0x7D), read]
  rfl

theorem moreMembers_named (bound : Nat) (name : String) (rest : List UInt8) :
    moreMembers element (bound + 1) (0x2C :: (writeString name ++ 0x3A :: rest)) =
      (element rest).next fun v rest => (moreMembers element bound rest).map ((name, v) :: ·) := by
  rw [moreMembers, skipSpace_cons (by decide)]
  simp only [if_neg (by decide : ¬(0x2C : UInt8) = 0x7D), if_true, memberName_writeString, Read.next]

theorem value_object (embedded : List UInt8 → Option Value) (depth : Nat) (rest : List UInt8) :
    value embedded (depth + 1) (0x7B :: rest) = members (value embedded depth) embedded rest := by
  rw [value, skipSpace_cons (by decide)]
  rfl

theorem writeFields_cons (field : String × List UInt8) (fields : List (String × List UInt8)) :
    writeFields (field :: fields) = 0x7B :: (writeString field.1 ++ 0x3A ::
      (field.2 ++ ((fields.map memberText).flatMap (0x2C :: ·) ++ [0x7D]))) := by
  have texts : writeFields (field :: fields) =
      0x7B :: ((((field :: fields).map memberText).intersperse [0x2C]).flatten ++ [0x7D]) := rfl
  rw [texts, List.map_cons, flatten_intersperse, memberText, List.append_assoc, List.append_assoc,
    List.cons_append]

/-- The member that a field is read as. -/
structure Member (element : List UInt8 → Read Value) (field : String × List UInt8) (m : String × Value) : Prop where
  name : field.1 = m.1
  content : Spells element field.2 m.2

theorem moreMembers_spelled {fields : List (String × List UInt8)} {ms : List (String × Value)}
    (each : List.Forall₂ (Member element) fields ms) {bound : Nat} (enough : fields.length < bound)
    (rest : List UInt8) :
    moreMembers element bound ((fields.map memberText).flatMap (0x2C :: ·) ++ 0x7D :: rest) = .ok (ms, rest) := by
  induction each generalizing bound with
  | nil =>
    obtain ⟨bound, rfl⟩ := Nat.exists_eq_add_one.mpr enough
    rw [List.map_nil, List.flatMap_nil, List.nil_append, moreMembers, skipSpace_cons (by decide)]
    rfl
  | @cons field m fields ms first later ih =>
    obtain ⟨bound, rfl⟩ := Nat.exists_eq_add_one.mpr (Nat.zero_lt_of_lt enough)
    have read := first.content.reads (stops_behind 0x7D (by decide) (fields.map memberText) rest)
    rw [List.map_cons, List.flatMap_cons, List.cons_append, List.cons_append, List.append_assoc, memberText,
      List.append_assoc, List.cons_append, moreMembers_named, read, Read.next, ih (Nat.lt_of_succ_lt_succ enough),
      first.name]
    rfl

theorem spells_object {depth : Nat} {fields : List (String × List UInt8)} {ms : List (String × Value)}
    (each : List.Forall₂ (Member (value embedded depth)) fields ms)
    (free : ∀ m ∈ ms.head?, m.1 ≠ embeddedName) :
    Spells (value embedded (depth + 1)) (writeFields fields) (.object (Members.ofList ms)) := by
  refine ⟨⟨_, _, rfl, by decide, by decide⟩, fun {rest} _ => ?_⟩
  cases each with
  | nil =>
    rw [writeFields, List.cons_append, value_object]
    rfl
  | @cons field m fields ms first later =>
    have read := first.content.reads (stops_behind 0x7D (by decide) (fields.map memberText) rest)
    have enough := length_le_flatMap (fields.map memberText)
    rw [writeFields_cons, List.cons_append, value_object, List.append_assoc, List.cons_append, members_named,
      first.name, if_neg (free m rfl), List.append_assoc, List.append_assoc, List.singleton_append, read, Read.next,
      moreMembers_spelled later (by rw [List.length_map] at enough; simp only [List.length_append]; omega)]
    rfl

theorem spells_embedded {depth : Nat} {spelled : String} {v : Value}
    (found : embedded (Utf8.ofString spelled) = some v) :
    Spells (value embedded (depth + 1)) (writeFields [(embeddedName, writeString spelled)]) v := by
  refine ⟨⟨_, _, rfl, by decide, by decide⟩, fun {rest} _ => ?_⟩
  rw [writeFields_cons, List.cons_append, value_object, List.append_assoc, List.cons_append, members_named, if_pos rfl]
  have read : embeddedText (writeString spelled ++ 0x7D :: rest) = .ok (spelled, 0x7D :: rest) := by
    rw [embeddedText, writeString, List.cons_append, skipSpace_cons (by decide), scalar, if_pos rfl,
      List.append_assoc, List.singleton_append, readString_escape]
    rfl
  rw [List.map_nil, List.flatMap_nil, List.nil_append, List.append_assoc, List.singleton_append, read, Read.next, found]
  rfl

end

theorem whole_of_spells {embedded : List UInt8 → Option Value} {text : List UInt8} {v : Value}
    (spells : Spells (value embedded depthLimit) text v) : whole embedded text = .ok v := by
  have read := spells.reads .nil
  rw [List.append_nil] at read
  rw [whole, read]
  rfl

theorem documentWithin_of_spells (levels : Nat) {text : List UInt8} {v : Value}
    (spells : ∀ embedded, Spells (value embedded depthLimit) text v) : documentWithin levels text = .ok v := by
  cases levels with
  | zero => exact whole_of_spells (spells _)
  | succ levels => exact whole_of_spells (spells _)

/-- What a text spells, with documents embedded in it to any level, is its value. -/
theorem parse_of_spells {text : List UInt8} {v : Value}
    (spells : ∀ levels, Spells (value (fun inner => (documentWithin levels inner).toOption) depthLimit) text v) :
    parse text = .ok v := by
  obtain ⟨b, more, begins, _⟩ := (spells 0).begins
  rw [parse, begins, List.length_cons, documentWithin, ← begins]
  exact whole_of_spells (spells _)

/-- A value that is written is read back: one with whole numbers of 64 bits only and with its members in order,
without the reserved name in front, and nested no deeper than the reader goes. -/
theorem spells_write (embedded : List UInt8 → Option Value) {v : Value} {depth : Nat}
    (regular : v.every Value.isRegular = true) (pointFree : v.every Value.isPointFree = true)
    (unreserved : v.every Value.isUnreserved = true) (deep : v.depth ≤ depth) :
    Spells (value embedded depth) (write v) v := by
  induction v using Value.induct generalizing depth with
  | null => exact spells_null ..
  | boolean b => exact spells_boolean ..
  | string s => exact spells_string ..
  | number n =>
    cases n with
    | int n => exact spells_int _ _ regular
    | double x => cases pointFree
  | array vs ih =>
    rw [Value.every_array] at regular pointFree unreserved
    obtain ⟨depth, rfl⟩ := Nat.exists_eq_add_one.mpr (Nat.lt_of_lt_of_le (Value.depth_array_pos vs) deep)
    rw [Value.depth_array_le] at deep
    rw [write_array]
    refine spells_array (List.forall₂_map_left_iff.mpr (List.forall₂_same.mpr fun v member => ?_))
    exact ih v member (regular.2 v member) (pointFree.2 v member) (unreserved.2 v member) (deep v member)
  | object ms ih =>
    rw [Value.every_object] at regular pointFree unreserved
    obtain ⟨depth, rfl⟩ := Nat.exists_eq_add_one.mpr (Nat.lt_of_lt_of_le (Value.depth_object_pos ms) deep)
    rw [Value.depth_object_le] at deep
    have sorted : (ms.map (·.1)).Pairwise (· < ·) := by simpa [Value.isRegular] using regular.1
    have free : ∀ m ∈ ms.head?, m.1 ≠ embeddedName := by
      cases ms with
      | nil => exact nofun
      | cons m ms => simpa [Value.isUnreserved] using unreserved.1
    have each : List.Forall₂ (Member (value embedded depth)) (ms.map fun m => (m.1, write m.2)) ms :=
      List.forall₂_map_left_iff.mpr (List.forall₂_same.mpr fun m member =>
        ⟨rfl, ih m member (regular.2 m member) (pointFree.2 m member) (unreserved.2 m member) (deep m member)⟩)
    have read := spells_object each free
    rwa [Members.ofList_eq_self sorted, ← write_object] at read

theorem parse_write {v : Value} (regular : v.every Value.isRegular = true)
    (pointFree : v.every Value.isPointFree = true) (unreserved : v.every Value.isUnreserved = true)
    (deep : v.depth ≤ depthLimit) : parse (write v) = .ok v :=
  parse_of_spells fun _ => spells_write _ regular pointFree unreserved deep

end Scrimmage.Json
