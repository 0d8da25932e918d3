import Mathlib
import Scrimmage.Proofs.Rereading

namespace Scrimmage.Json

open Text

/-- The reader takes off the input what the grammar spells, in front of what may follow it. Strings may stand in
front of anything, and numerals in front of what cannot belong to them. -/
structure Recognizes {α : Type} (follows : List UInt8 → Prop) (read : List UInt8 → Read α)
    (spells : List UInt8 → α → Prop) : Prop where
  sound : ∀ {input a rest}, read input = .ok (a, rest) → ∃ text, input = text ++ rest ∧ spells text a
  complete : ∀ {text a}, spells text a → ∀ rest, follows rest → read (text ++ rest) = .ok (a, rest)

/-- Four hexadecimal digits and their number. -/
inductive Hex : List UInt8 → Nat → Prop
  | digits {a b c d : UInt8} {a' b' c' d' : Nat} : hexDigit? a = some a' → hexDigit? b = some b' →
      hexDigit? c = some c' → hexDigit? d = some d' →
      Hex [a, b, c, d] (((a' * 16 + b') * 16 + c') * 16 + d')

/-- A character by its number, as one unit or as two surrogates. -/
inductive Unicode : List UInt8 → Char → Prop
  | unit {text : List UInt8} {n : Nat} : Hex text n → n < 0xD800 ∨ 0xDFFF < n → Unicode text (Char.ofNat n)
  | pair {text text' : List UInt8} {high low : Nat} : Hex text high → Hex text' low → 0xD800 ≤ high → high ≤ 0xDBFF →
      0xDC00 ≤ low → low ≤ 0xDFFF →
      Unicode (text ++ 0x5C :: 0x75 :: text') (Char.ofNat ((high - 0xD800) * 0x400 + (low - 0xDC00) + 0x10000))

/-- What stands behind a backslash, and the octets that are meant. -/
inductive Escape : List UInt8 → List UInt8 → Prop
  | short {letter octet : UInt8} : shortEscape? letter = some octet → Escape [letter] [octet]
  | unicode {text : List UInt8} {c : Char} : Unicode text c → Escape (0x75 :: text) (Utf8.encodeChar c)

/-- What stands between quotes, and the octets that are meant. -/
inductive Pieces : List UInt8 → List UInt8 → Prop
  | nil : Pieces [] []
  | plain {b : UInt8} {text octets : List UInt8} : b ≠ 0x22 → b ≠ 0x5C → ¬b < 0x20 → Pieces text octets →
      Pieces (b :: text) (b :: octets)
  | escape {mark out text octets : List UInt8} : Escape mark out → Pieces text octets →
      Pieces (0x5C :: (mark ++ text)) (out ++ octets)

/-- A string without the quote in front. -/
inductive Closed : List UInt8 → String → Prop
  | quote {text : List UInt8} {s : String} : Pieces text (Utf8.ofString s) → Closed (text ++ [0x22]) s

def Quoted (text : List UInt8) (s : String) : Prop := ∃ closed, text = 0x22 :: closed ∧ Closed closed s

theorem hexUnit_recognizes : Recognizes (fun _ => True) hexUnit Hex where
  sound {input n rest} read := by
    rw [hexUnit.eq_def] at read
    split at read
    · rename_i a b c d rest'
      split at read
      · rename_i one two three four
        cases read
        exact ⟨[a, b, c, d], rfl, .digits one two three four⟩
      · cases read
    · cases read
  complete := by
    rintro _ _ ⟨one, two, three, four⟩ rest _
    simp only [List.cons_append, List.nil_append, hexUnit, one, two, three, four]

theorem unicodeEscape_recognizes : Recognizes (fun _ => True) unicodeEscape Unicode where
  sound {input c rest} read := by
    rw [unicodeEscape] at read
    obtain ⟨high, between, first, chosen⟩ := Read.next_eq_ok read
    obtain ⟨text, rfl, hex⟩ := hexUnit_recognizes.sound first
    simp only [Bool.and_eq_true, decide_eq_true_eq] at chosen
    split at chosen
    · cases chosen
    · rename_i single
      split at chosen
      · rename_i surrogate
        obtain ⟨⟨⟩, after, mark, more⟩ := Read.next_eq_ok chosen
        obtain ⟨low, after', second, paired⟩ := Read.next_eq_ok more
        obtain ⟨text', rfl, hex'⟩ := hexUnit_recognizes.sound second
        split at paired
        · rename_i pair
          obtain ⟨rfl, rfl⟩ := Prod.mk.inj (Except.ok.inj paired)
          refine ⟨text ++ 0x5C :: 0x75 :: text', ?_, .pair hex hex' surrogate.1 surrogate.2 pair.1 pair.2⟩
          rw [word_eq_ok mark]
          simp
        · cases paired
      · obtain ⟨rfl, rfl⟩ := Prod.mk.inj (Except.ok.inj chosen)
        exact ⟨text, rfl, .unit hex (by omega)⟩
  complete := by
    intro text c spelled rest _
    cases spelled with
    | unit hex single =>
      rw [unicodeEscape, hexUnit_recognizes.complete hex rest trivial]
      simp only [Read.next, Bool.and_eq_true, decide_eq_true_eq]
      rw [if_neg (by omega), if_neg (by omega)]
    | @pair text text' high low hex hex' least greatest least' greatest' =>
      have first := hexUnit_recognizes.complete hex (0x5C :: 0x75 :: (text' ++ rest)) trivial
      have second := hexUnit_recognizes.complete hex' rest trivial
      have mark : word [0x5C, 0x75] (0x5C :: 0x75 :: (text' ++ rest)) = .ok ((), text' ++ rest) := rfl
      rw [List.append_assoc, List.cons_append, List.cons_append, unicodeEscape, first]
      simp only [Read.next, Bool.and_eq_true, decide_eq_true_eq, mark, second]
      rw [if_neg (by omega), if_pos ⟨least, greatest⟩, if_pos ⟨least', greatest'⟩]

theorem unescapeOne_recognizes : Recognizes (fun _ => True) unescapeOne Escape where
  sound {input out rest} read := by
    cases input with
    | nil => cases read
    | cons letter input =>
      rw [unescapeOne] at read
      split at read
      · rename_i mark
        subst mark
        obtain ⟨c, char, rfl⟩ := Read.map_eq_ok read
        obtain ⟨text, rfl, spelled⟩ := unicodeEscape_recognizes.sound char
        exact ⟨0x75 :: text, rfl, .unicode spelled⟩
      · split at read
        · rename_i octet short
          cases read
          exact ⟨[letter], rfl, .short short⟩
        · cases read
  complete := by
    intro text out escape rest _
    cases escape with
    | @short letter octet short =>
      have other : letter ≠ 0x75 := by
        rintro rfl
        cases short
      exact unescapeOne_short other short rest
    | unicode spelled =>
      rw [List.cons_append, unescapeOne, if_pos rfl, unicodeEscape_recognizes.complete spelled rest trivial]
      rfl

theorem unescape_pieces {text octets : List UInt8} (pieces : Pieces text octets) (rest : List UInt8) :
    unescape (text ++ 0x22 :: rest) = .ok (octets, rest) := by
  induction pieces with
  | nil => rw [List.nil_append, unescape, if_pos rfl]
  | plain quote mark control _ ih =>
    rw [List.cons_append, unescape, if_neg quote, if_neg mark, if_neg control, ih]
    rfl
  | escape escape _ ih =>
    rw [List.cons_append, List.append_assoc, unescape_marked (unescapeOne_recognizes.complete escape _ trivial), ih]
    rfl

theorem pieces_of_unescape {input octets rest : List UInt8} (read : unescape input = .ok (octets, rest)) :
    ∃ text, input = text ++ 0x22 :: rest ∧ Pieces text octets := by
  induction input using unescape.induct generalizing octets with
  | case1 =>
    rw [unescape] at read
    cases read
  | case2 input =>
    rw [unescape, if_pos rfl] at read
    cases read
    exact ⟨[], rfl, .nil⟩
  | case3 input out after escape _ ih =>
    rw [unescape_marked escape] at read
    obtain ⟨more, later, rfl⟩ := Read.map_eq_ok read
    obtain ⟨mark, rfl, spelled⟩ := unescapeOne_recognizes.sound escape
    obtain ⟨text, rfl, pieces⟩ := ih later
    exact ⟨0x5C :: (mark ++ text), by simp, .escape spelled pieces⟩
  | case4 input fault escape =>
    rw [unescape, if_neg (by decide), if_pos rfl] at read
    split at read
    · rename_i escape'
      cases escape.symm.trans escape'
    · cases read
  | case5 b input quote mark control =>
    rw [unescape, if_neg quote, if_neg mark, if_pos control] at read
    cases read
  | case6 b input quote mark control ih =>
    rw [unescape, if_neg quote, if_neg mark, if_neg control] at read
    obtain ⟨more, later, rfl⟩ := Read.map_eq_ok read
    obtain ⟨text, rfl, pieces⟩ := ih later
    exact ⟨b :: text, rfl, .plain quote mark control pieces⟩

theorem utf8_readString_eq_ok_iff {octets : List UInt8} {s : String} :
    Utf8.readString octets = .ok s ↔ octets = Utf8.ofString s := by
  constructor
  · intro read
    obtain ⟨cs, decoded, rfl⟩ := Utf8.map_eq_ok read
    rw [Utf8.ofString, String.toList_ofList, Utf8.encode_of_decode decoded]
  · rintro rfl
    rw [Utf8.ofString, Utf8.readString_encode, String.ofList_toList]

theorem readString_recognizes : Recognizes (fun _ => True) readString Closed where
  sound {input s rest} read := by
    rw [readString] at read
    split at read
    · cases read
    · rename_i octets after unescaped
      split at read
      · rename_i s' spelled
        cases read
        obtain ⟨text, rfl, pieces⟩ := pieces_of_unescape unescaped
        rw [utf8_readString_eq_ok_iff.mp spelled] at pieces
        exact ⟨text ++ [0x22], by simp, .quote pieces⟩
      · cases read
  complete := by
    rintro _ s ⟨pieces⟩ rest _
    rw [List.append_assoc, List.singleton_append, readString, unescape_pieces pieces]
    simp only [utf8_readString_eq_ok_iff.mpr rfl]

/-- Digits and their values, one at least. -/
inductive Figures : List UInt8 → List Nat → Prop
  | digits {b : UInt8} {text : List UInt8} : isDigit b = true → (∀ c ∈ text, isDigit c = true) →
      Figures (b :: text) ((b :: text).map (·.toNat - 0x30))

inductive Fraction : List UInt8 → List Nat → Prop
  | absent : Fraction [] []
  | point {text : List UInt8} {ds : List Nat} : Figures text ds → Fraction (0x2E :: text) ds

inductive Exponent : List UInt8 → Option (Bool × List Nat) → Prop
  | absent : Exponent [] none
  | unsigned {mark : UInt8} {text : List UInt8} {ds : List Nat} : mark = 0x65 ∨ mark = 0x45 → Figures text ds →
      Exponent (mark :: text) (some (false, ds))
  | plus {mark : UInt8} {text : List UInt8} {ds : List Nat} : mark = 0x65 ∨ mark = 0x45 → Figures text ds →
      Exponent (mark :: 0x2B :: text) (some (false, ds))
  | minus {mark : UInt8} {text : List UInt8} {ds : List Nat} : mark = 0x65 ∨ mark = 0x45 → Figures text ds →
      Exponent (mark :: 0x2D :: text) (some (true, ds))

/-- A numeral without its sign; a zero in front stands alone. -/
inductive Unsigned (negative : Bool) : List UInt8 → Numeral → Prop
  | parts {text point power : List UInt8} {whole fraction : List Nat} {exponent : Option (Bool × List Nat)} :
      Figures text whole → whole = [0] ∨ whole.head? ≠ some 0 → Fraction point fraction → Exponent power exponent →
      Unsigned negative (text ++ (point ++ power)) ⟨negative, whole, fraction, exponent⟩

inductive Signed : List UInt8 → Numeral → Prop
  | plain {text : List UInt8} {n : Numeral} : Unsigned false text n → Signed text n
  | minus {text : List UInt8} {n : Numeral} : Unsigned true text n → Signed (0x2D :: text) n

theorem someDigits_recognizes : Recognizes Ends someDigits Figures where
  sound {input ds rest} read := by
    cases input with
    | nil => cases read
    | cons b input =>
      rw [someDigits] at read
      split at read
      · rename_i digit
        cases read
        refine ⟨b :: input.takeWhile isDigit, ?_, ?_⟩
        · rw [List.dropWhile_cons_of_pos digit, List.cons_append, List.takeWhile_append_dropWhile]
        · rw [List.takeWhile_cons_of_pos digit]
          exact .digits digit fun c inside => List.mem_takeWhile_imp inside
      · cases read
  complete := by
    rintro _ _ ⟨digit, all⟩ rest ends
    rw [List.cons_append, someDigits, if_pos digit, ← List.cons_append,
      digits_append (List.forall_mem_cons.mpr ⟨digit, all⟩) ends]

theorem Figures.begins {text : List UInt8} {ds : List Nat} (figures : Figures text ds) :
    ∃ b more, text = b :: more ∧ isDigit b = true := by
  obtain ⟨digit, _⟩ := figures
  exact ⟨_, _, rfl, digit⟩

theorem wholePart_recognizes : Recognizes Ends wholePart
    fun text ds => Figures text ds ∧ (ds = [0] ∨ ds.head? ≠ some 0) where
  sound {input ds rest} read := by
    rw [wholePart] at read
    obtain ⟨ds', between, first, alone⟩ := Read.next_eq_ok read
    obtain ⟨text, rfl, figures⟩ := someDigits_recognizes.sound first
    split at alone
    · cases alone
    · rename_i single
      cases alone
      refine ⟨text, rfl, figures, ?_⟩
      cases ds with
      | nil => exact .inr (by simp)
      | cons d more =>
        by_cases zero : d = 0
        · subst zero
          cases more with
          | nil => exact .inl rfl
          | cons d' more => exact absurd rfl (single d' more)
        · exact .inr (by simpa using zero)
  complete := by
    rintro text ds ⟨figures, front⟩ rest ends
    rw [wholePart, someDigits_recognizes.complete figures rest ends, Read.next]
    split
    · rcases front with front | front
      · cases front
      · exact absurd rfl front
    · rfl

theorem fractionPart_recognizes :
    Recognizes (fun rest => Ends rest ∧ rest.head? ≠ some 0x2E) fractionPart Fraction where
  sound {input ds rest} read := by
    cases input with
    | nil =>
      cases read
      exact ⟨[], rfl, .absent⟩
    | cons b input =>
      rw [fractionPart] at read
      split at read
      · rename_i point
        subst point
        obtain ⟨text, rfl, figures⟩ := someDigits_recognizes.sound read
        exact ⟨0x2E :: text, rfl, .point figures⟩
      · cases read
        exact ⟨[], rfl, .absent⟩
  complete := by
    rintro text ds fraction rest ⟨ends, other⟩
    cases fraction with
    | absent =>
      cases rest with
      | nil => rfl
      | cons b rest =>
        have other : b ≠ 0x2E := fun same => other (congrArg some same)
        rw [List.nil_append, fractionPart, if_neg other]
    | point figures => rw [List.cons_append, fractionPart, if_pos rfl, someDigits_recognizes.complete figures rest ends]

theorem exponentSign_cases (input : List UInt8) :
    exponentSign input = (false, input) ∨
      (∃ rest, input = 0x2B :: rest ∧ exponentSign input = (false, rest)) ∨
      ∃ rest, input = 0x2D :: rest ∧ exponentSign input = (true, rest) := by
  cases input with
  | nil => exact .inl rfl
  | cons b rest =>
    by_cases plus : b = 0x2B
    · subst plus
      exact .inr (.inl ⟨rest, rfl, rfl⟩)
    · by_cases minus : b = 0x2D
      · subst minus
        exact .inr (.inr ⟨rest, rfl, rfl⟩)
      · exact .inl (by rw [exponentSign, if_neg plus, if_neg minus])

theorem exponentPart_recognizes : Recognizes Stops exponentPart Exponent where
  sound {input exponent rest} read := by
    cases input with
    | nil =>
      cases read
      exact ⟨[], rfl, .absent⟩
    | cons mark input =>
      rw [exponentPart] at read
      split at read
      · rename_i power
        simp only [Bool.or_eq_true, decide_eq_true_eq] at power
        rcases exponentSign_cases input with signed | ⟨after, rfl, signed⟩ | ⟨after, rfl, signed⟩
        all_goals
          simp only [signed] at read
          obtain ⟨ds, digits, rfl⟩ := Read.map_eq_ok read
          obtain ⟨text, rfl, figures⟩ := someDigits_recognizes.sound digits
        · exact ⟨mark :: text, rfl, .unsigned power figures⟩
        · exact ⟨mark :: 0x2B :: text, rfl, .plus power figures⟩
        · exact ⟨mark :: 0x2D :: text, rfl, .minus power figures⟩
      · cases read
        exact ⟨[], rfl, .absent⟩
  complete := by
    intro text exponent spelled rest stops
    cases spelled with
    | absent => exact exponentPart_of_stops stops
    | @unsigned mark text ds power figures =>
      have marked : (mark = 0x65 || mark = 0x45) = true := by simpa using power
      have read := someDigits_recognizes.complete figures rest stops.ends
      obtain ⟨b, more, rfl, digit⟩ := figures.begins
      have signed : exponentSign (b :: more ++ rest) = (false, b :: more ++ rest) := by
        rcases exponentSign_cases (b :: more ++ rest) with signed | ⟨_, same, _⟩ | ⟨_, same, _⟩
        · exact signed
        all_goals
          cases same
          cases digit
      rw [List.cons_append, exponentPart, if_pos marked, signed]
      simp only [read]
      rfl
    | @plus mark text ds power figures =>
      have marked : (mark = 0x65 || mark = 0x45) = true := by simpa using power
      rw [List.cons_append, List.cons_append, exponentPart, if_pos marked, exponentSign, if_pos rfl]
      simp only [someDigits_recognizes.complete figures rest stops.ends]
      rfl
    | @minus mark text ds power figures =>
      have marked : (mark = 0x65 || mark = 0x45) = true := by simpa using power
      rw [List.cons_append, List.cons_append, exponentPart, if_pos marked, exponentSign, if_neg (by decide), if_pos rfl]
      simp only [someDigits_recognizes.complete figures rest stops.ends]
      rfl

theorem Fraction.front {point rest : List UInt8} {ds : List Nat} (fraction : Fraction point ds)
    (ends : Ends rest) : Ends (point ++ rest) := by
  cases fraction with
  | absent => exact ends
  | point _ =>
    rintro _ ⟨⟩
    rfl

theorem Exponent.front {power rest : List UInt8} {exponent : Option (Bool × List Nat)}
    (spelled : Exponent power exponent) (stops : Stops rest) :
    Ends (power ++ rest) ∧ (power ++ rest).head? ≠ some 0x2E := by
  have marked : ∀ {mark : UInt8} (more : List UInt8), mark = 0x65 ∨ mark = 0x45 →
      Ends (mark :: more) ∧ (mark :: more).head? ≠ some 0x2E := by
    rintro mark more (rfl | rfl)
    all_goals
      refine ⟨?_, by simp⟩
      rintro _ ⟨⟩
      rfl
  cases spelled with
  | absent =>
    refine ⟨stops.ends, fun point => ?_⟩
    cases stops 0x2E point
  | unsigned mark _ => exact marked _ mark
  | plus mark _ => exact marked _ mark
  | minus mark _ => exact marked _ mark

theorem unsignedNumeral_recognizes (negative : Bool) :
    Recognizes Stops (unsignedNumeral negative) (Unsigned negative) where
  sound {input n rest} read := by
    rw [unsignedNumeral] at read
    obtain ⟨whole, afterWhole, first, more⟩ := Read.next_eq_ok read
    obtain ⟨fraction, afterFraction, second, last⟩ := Read.next_eq_ok more
    obtain ⟨exponent, third, rfl⟩ := Read.map_eq_ok last
    obtain ⟨text, rfl, figures, alone⟩ := wholePart_recognizes.sound first
    obtain ⟨point, rfl, fraction'⟩ := fractionPart_recognizes.sound second
    obtain ⟨power, rfl, exponent'⟩ := exponentPart_recognizes.sound third
    exact ⟨text ++ (point ++ power), by simp, .parts figures alone fraction' exponent'⟩
  complete := by
    rintro _ _ ⟨figures, alone, fraction, exponent⟩ rest stops
    rename_i text point power whole fraction' exponent'
    have behind := exponent.front stops
    have first := wholePart_recognizes.complete ⟨figures, alone⟩ _ (fraction.front behind.1)
    have second := fractionPart_recognizes.complete fraction _ behind
    have third := exponentPart_recognizes.complete exponent rest stops
    rw [List.append_assoc, List.append_assoc, unsignedNumeral, first]
    simp only [Read.next, second, third, Read.map]

theorem Unsigned.begins {negative : Bool} {text : List UInt8} {n : Numeral} (spelled : Unsigned negative text n) :
    ∃ b more, text = b :: more ∧ isDigit b = true := by
  obtain ⟨figures, _, _, _⟩ := spelled
  obtain ⟨b, more, rfl, digit⟩ := figures.begins
  exact ⟨b, _, rfl, digit⟩

theorem Signed.begins {text : List UInt8} {n : Numeral} (spelled : Signed text n) :
    ∃ b more, text = b :: more ∧ (b = 0x2D ∨ isDigit b = true) := by
  cases spelled with
  | plain spelled =>
    obtain ⟨b, more, same, digit⟩ := spelled.begins
    exact ⟨b, more, same, .inr digit⟩
  | minus spelled => exact ⟨_, _, rfl, .inl rfl⟩

theorem numeral_recognizes : Recognizes Stops numeral Signed where
  sound {input n rest} read := by
    cases input with
    | nil => cases read
    | cons b input =>
      rw [numeral] at read
      split at read
      · rename_i minus
        subst minus
        obtain ⟨text, rfl, spelled⟩ := (unsignedNumeral_recognizes true).sound read
        exact ⟨0x2D :: text, rfl, .minus spelled⟩
      · obtain ⟨text, same, spelled⟩ := (unsignedNumeral_recognizes false).sound read
        exact ⟨text, same, .plain spelled⟩
  complete := by
    intro text n signed rest stops
    cases signed with
    | plain spelled =>
      have read := (unsignedNumeral_recognizes false).complete spelled rest stops
      obtain ⟨b, more, rfl, digit⟩ := spelled.begins
      have other : b ≠ 0x2D := by
        rintro rfl
        cases digit
      rw [List.cons_append] at read ⊢
      rw [numeral, if_neg other, read]
    | minus spelled =>
      rw [List.cons_append, numeral, if_pos rfl, (unsignedNumeral_recognizes true).complete spelled rest stops]

inductive Flat : List UInt8 → Value → Prop
  | null : Flat [0x6E, 0x75, 0x6C, 0x6C] .null
  | yes : Flat [0x74, 0x72, 0x75, 0x65] (.boolean true)
  | no : Flat [0x66, 0x61, 0x6C, 0x73, 0x65] (.boolean false)
  | string {text : List UInt8} {s : String} : Quoted text s → Flat text (.string s)
  | number {text : List UInt8} {numeral : Numeral} {n : Number} : Signed text numeral → numeral.value? = some n →
      Flat text (.number n)

theorem Flat.begins {text : List UInt8} {v : Value} (flat : Flat text v) :
    ∃ b more, text = b :: more ∧ isSpace b = false ∧ b ≠ 0x5D ∧ b ≠ 0x5B ∧ b ≠ 0x7B := by
  cases flat with
  | null => exact ⟨_, _, rfl, by decide⟩
  | yes => exact ⟨_, _, rfl, by decide⟩
  | no => exact ⟨_, _, rfl, by decide⟩
  | string quoted =>
    obtain ⟨closed, rfl, _⟩ := quoted
    exact ⟨_, _, rfl, by decide⟩
  | number signed value =>
    obtain ⟨b, more, rfl, first⟩ := signed.begins
    refine ⟨b, more, rfl, ?_⟩
    rcases first with rfl | digit
    · decide
    · exact plain_of_isDigit digit

theorem scalar_recognizes : Recognizes Stops scalar Flat where
  sound {input v rest} read := by
    cases input with
    | nil => cases read
    | cons b input =>
      rw [scalar] at read
      split at read
      · rename_i quote
        subst quote
        obtain ⟨s, closed, rfl⟩ := Read.map_eq_ok read
        obtain ⟨text, rfl, spelled⟩ := readString_recognizes.sound closed
        exact ⟨0x22 :: text, rfl, .string ⟨text, rfl, spelled⟩⟩
      split at read
      · obtain ⟨n, number, rfl⟩ := Read.map_eq_ok read
        rw [readNumber] at number
        obtain ⟨numeral, after, first, valued⟩ := Read.next_eq_ok number
        obtain ⟨text, same, signed⟩ := numeral_recognizes.sound first
        split at valued
        · rename_i value
          cases valued
          exact ⟨text, same, .number signed value⟩
        · cases valued
      split at read
      · rename_i letter
        subst letter
        obtain ⟨⟨⟩, spelled, rfl⟩ := Read.map_eq_ok read
        exact ⟨_, congrArg _ (word_eq_ok spelled), .null⟩
      split at read
      · rename_i letter
        subst letter
        obtain ⟨⟨⟩, spelled, rfl⟩ := Read.map_eq_ok read
        exact ⟨_, congrArg _ (word_eq_ok spelled), .yes⟩
      split at read
      · rename_i letter
        subst letter
        obtain ⟨⟨⟩, spelled, rfl⟩ := Read.map_eq_ok read
        exact ⟨_, congrArg _ (word_eq_ok spelled), .no⟩
      · cases read
  complete := by
    intro text v flat rest stops
    cases flat with
    | null => rfl
    | yes => rfl
    | no => rfl
    | string quoted =>
      obtain ⟨closed, rfl, spelled⟩ := quoted
      rw [List.cons_append, scalar, if_pos rfl, readString_recognizes.complete spelled _ trivial]
      rfl
    | number signed value =>
      have read := numeral_recognizes.complete signed rest stops
      obtain ⟨b, more, rfl, first⟩ := signed.begins
      have quote : b ≠ 0x22 := by
        rintro rfl
        revert first
        decide
      rw [List.cons_append] at read ⊢
      rw [scalar, if_neg quote, if_pos (by simpa using first), readNumber, read]
      simp only [Read.next, value]
      rfl

end Scrimmage.Json
