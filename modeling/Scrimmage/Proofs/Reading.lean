import Scrimmage.Message.Decode
import Scrimmage.Proofs.Writing

namespace Scrimmage

open Text

namespace IsText

theorem encodeChar (c : Char) : IsText (Utf8.encodeChar c) := ⟨[c], by rw [Utf8.encode, List.flatMap_singleton]⟩

/-- Text can be divided in front of every octet that continues no character. -/
theorem split {front : List UInt8} {b : UInt8} {rest : List UInt8} (text : IsText (front ++ b :: rest))
    (begins : Utf8.isContinuation b = false) : IsText front ∧ IsText (b :: rest) := by
  obtain ⟨cs, same⟩ := text
  induction cs generalizing front with
  | nil => simp [Utf8.encode] at same
  | cons c cs ih =>
    rw [Utf8.encode_cons] at same
    rcases List.append_eq_append_iff.mp same with ⟨middle, char, back⟩ | ⟨middle, rfl, later⟩
    · cases middle with
      | nil =>
        rw [List.append_nil] at char
        exact ⟨char ▸ encodeChar c, cs, back⟩
      | cons o middle =>
        cases back
        cases front with
        | nil => exact ⟨nil, c :: cs, same.trans (Utf8.encode_cons c cs).symm⟩
        | cons a front =>
          obtain ⟨first, more, char', _, continues⟩ := Utf8.encodeChar_eq_cons c
          rw [char', List.cons_append] at char
          cases char
          cases begins.symm.trans (continues b (List.mem_append_right _ List.mem_cons_self))
    · obtain ⟨front, back⟩ := ih later.symm
      exact ⟨(encodeChar c).append front, back⟩

theorem of_decodeFrom {index : Nat} {octets : List UInt8} {cs : List Char}
    (decoded : Utf8.decodeFrom index octets = .ok cs) : IsText octets :=
  ⟨cs, (Utf8.encode_of_decodeFrom decoded).symm⟩

theorem of_encodeChar_append {c : Char} {rest : List UInt8} (text : IsText (Utf8.encodeChar c ++ rest)) :
    IsText rest := by
  obtain ⟨cs, same⟩ := text
  have decoded := Utf8.decodeFrom_encode 0 cs
  rw [← same, Utf8.decodeFrom_encodeChar] at decoded
  obtain ⟨ds, later, _⟩ := Utf8.map_eq_ok decoded
  exact of_decodeFrom later

theorem around {front rest : List UInt8} {c : Char} (text : IsText (front ++ (Utf8.encodeChar c ++ rest))) :
    IsText front ∧ IsText rest := by
  obtain ⟨b, more, char, begins, _⟩ := Utf8.encodeChar_eq_cons c
  rw [char, List.cons_append] at text
  obtain ⟨before, after⟩ := text.split begins
  rw [← List.cons_append, ← char] at after
  exact ⟨before, after.of_encodeChar_append⟩

end IsText

theorem isText_iff {octets : List UInt8} : IsText octets ↔ (Utf8.decode octets).isOk = true := by
  constructor
  · rintro ⟨cs, rfl⟩
    rw [Utf8.decode, Utf8.decodeFrom_encode]
    rfl
  · intro valid
    cases decoded : Utf8.decode octets with
    | ok cs => exact .of_decodeFrom decoded
    | error => simp [decoded, Except.isOk, Except.toBool] at valid

namespace Json

/-- The octets of the input in front of the rest are text. -/
def Passed (input rest : List UInt8) : Prop := ∃ front, input = front ++ rest ∧ IsText front

/-- What a reader takes off the input is text. Between strings a reader takes nothing but ASCII; in a string the
escapes are whole characters, so that the octets between them have to be whole characters too if the outcome is
text. -/
def Read.Takes {α : Type} (read : Read α) (input : List UInt8) : Prop :=
  ∀ a rest, read = .ok (a, rest) → Passed input rest

namespace Passed

theorem refl (input : List UInt8) : Passed input input := ⟨[], rfl, .nil⟩

theorem trans {input between rest : List UInt8} (first : Passed input between) (second : Passed between rest) :
    Passed input rest := by
  obtain ⟨front, rfl, text⟩ := first
  obtain ⟨more, rfl, text'⟩ := second
  exact ⟨front ++ more, (List.append_assoc ..).symm, text.append text'⟩

theorem ascii {front : List UInt8} (small : ∀ b ∈ front, b.toNat < 0x80) (rest : List UInt8) :
    Passed (front ++ rest) rest :=
  ⟨front, rfl, .ascii small⟩

theorem cons {b : UInt8} {input rest : List UInt8} (passed : Passed input rest) (small : b.toNat < 0x80) :
    Passed (b :: input) rest := by
  obtain ⟨front, rfl, text⟩ := passed
  exact ⟨b :: front, rfl, text.cons small⟩

theorem span {p : UInt8 → Bool} (small : ∀ b, p b = true → b.toNat < 0x80) (input : List UInt8) :
    Passed input (input.dropWhile p) := by
  refine ⟨input.takeWhile p, List.takeWhile_append_dropWhile.symm, .ascii fun b member => ?_⟩
  exact small b (List.mem_takeWhile_imp member)

end Passed

namespace Read.Takes

variable {α β : Type} {input : List UInt8}

theorem error {fault : Fault} : Takes (.error fault : Read α) input := nofun

theorem ok {a : α} {rest : List UInt8} (passed : Passed input rest) : Takes (.ok (a, rest)) input := by
  rintro _ _ ⟨⟩
  exact passed

theorem map {read : Read α} (takes : read.Takes input) (f : α → β) : (read.map f).Takes input := by
  intro b rest done
  obtain ⟨a, first, _⟩ := Read.map_eq_ok done
  exact takes a rest first

theorem next {first : Read α} {following : α → List UInt8 → Read β} (takes : first.Takes input)
    (more : ∀ a rest, first = .ok (a, rest) → (following a rest).Takes rest) :
    (first.next following).Takes input := by
  intro b rest done
  obtain ⟨a, between, one, other⟩ := Read.next_eq_ok done
  exact (takes a between one).trans (more a between one b rest other)

theorem after {between : List UInt8} {read : Read α} (takes : read.Takes between) (passed : Passed input between) :
    read.Takes input :=
  fun a rest done => passed.trans (takes a rest done)

theorem cons {b : UInt8} {read : Read α} (takes : read.Takes input) (small : b.toNat < 0x80) :
    read.Takes (b :: input) :=
  takes.after ((Passed.refl input).cons small)

end Read.Takes

theorem isSpace_small {b : UInt8} (space : isSpace b = true) : b.toNat < 0x80 := by
  simp only [isSpace, Bool.or_eq_true, beq_iff_eq] at space
  rcases space with ((rfl | rfl) | rfl) | rfl <;> decide

theorem isDigit_small {b : UInt8} (digit : isDigit b = true) : b.toNat < 0x80 := by
  simp only [isDigit, Bool.and_eq_true, decide_eq_true_eq] at digit
  exact Nat.lt_of_le_of_lt (UInt8.le_iff_toNat_le.mp digit.2) (by decide)

theorem passed_skipSpace (input : List UInt8) : Passed input (skipSpace input) :=
  .span (fun _ => isSpace_small) input

theorem word_takes {octets : List UInt8} (small : ∀ b ∈ octets, b.toNat < 0x80) (input : List UInt8) :
    (word octets input).Takes input := by
  rintro ⟨⟩ rest done
  rw [word_eq_ok done]
  exact .ascii small rest

theorem expect_takes {octet : UInt8} (small : octet.toNat < 0x80) (input : List UInt8) :
    (expect octet input).Takes input := by
  rintro ⟨⟩ rest done
  rw [expect_eq_ok done]
  exact (Passed.refl rest).cons small

theorem someDigits_takes (input : List UInt8) : (someDigits input).Takes input := by
  cases input with
  | nil => exact .error
  | cons b rest =>
    rw [someDigits]
    split
    · exact .ok (.span (fun _ => isDigit_small) _)
    · exact .error

theorem wholePart_takes (input : List UInt8) : (wholePart input).Takes input := by
  refine (someDigits_takes input).next fun ds rest _ => ?_
  split
  · exact .error
  · exact .ok (.refl rest)

theorem fractionPart_takes (input : List UInt8) : (fractionPart input).Takes input := by
  cases input with
  | nil => exact .ok (.refl _)
  | cons b rest =>
    rw [fractionPart]
    split
    · rename_i point
      exact (someDigits_takes rest).cons (point ▸ by decide)
    · exact .ok (.refl _)

theorem passed_exponentSign (input : List UInt8) : Passed input (exponentSign input).2 := by
  cases input with
  | nil => exact .refl _
  | cons b rest =>
    rw [exponentSign]
    split
    · rename_i plus
      exact (Passed.refl rest).cons (plus ▸ by decide)
    split
    · rename_i minus
      exact (Passed.refl rest).cons (minus ▸ by decide)
    · exact .refl _

theorem exponentPart_takes (input : List UInt8) : (exponentPart input).Takes input := by
  cases input with
  | nil => exact .ok (.refl _)
  | cons b rest =>
    rw [exponentPart]
    split
    · rename_i mark
      have small : b.toNat < 0x80 := by
        simp only [Bool.or_eq_true, decide_eq_true_eq] at mark
        rcases mark with rfl | rfl <;> decide
      exact (((someDigits_takes _).after (passed_exponentSign rest)).map _).cons small
    · exact .ok (.refl _)

theorem unsignedNumeral_takes (negative : Bool) (input : List UInt8) :
    (unsignedNumeral negative input).Takes input :=
  (wholePart_takes input).next fun _ rest _ =>
    (fractionPart_takes rest).next fun _ rest _ => (exponentPart_takes rest).map _

theorem numeral_takes (input : List UInt8) : (numeral input).Takes input := by
  cases input with
  | nil => exact .error
  | cons b rest =>
    rw [numeral]
    split
    · rename_i minus
      exact (unsignedNumeral_takes true rest).cons (minus ▸ by decide)
    · exact unsignedNumeral_takes false (b :: rest)

theorem readNumber_takes (input : List UInt8) : (readNumber input).Takes input := by
  refine (numeral_takes input).next fun n rest _ => ?_
  split
  · exact .ok (.refl rest)
  · exact .error

theorem hexDigit?_small {b : UInt8} {n : Nat} (digit : hexDigit? b = some n) : b.toNat < 0x80 := by
  have below : ∀ {bound : UInt8}, b ≤ bound → bound.toNat < 0x80 → b.toNat < 0x80 := fun le small =>
    Nat.lt_of_le_of_lt (UInt8.le_iff_toNat_le.mp le) small
  rw [hexDigit?] at digit
  split_ifs at digit with figure capital small
  · simp only [Bool.and_eq_true, decide_eq_true_eq] at figure
    exact below figure.2 (by decide)
  · simp only [Bool.and_eq_true, decide_eq_true_eq] at capital
    exact below capital.2 (by decide)
  · simp only [Bool.and_eq_true, decide_eq_true_eq] at small
    exact below small.2 (by decide)

theorem hexUnit_takes (input : List UInt8) : (hexUnit input).Takes input := by
  unfold hexUnit
  split
  · rename_i a b c d rest
    split
    · rename_i one two three four
      exact .ok (((((Passed.refl rest).cons (hexDigit?_small four)).cons (hexDigit?_small three)).cons
        (hexDigit?_small two)).cons (hexDigit?_small one))
    · exact .error
  · exact .error

theorem unicodeEscape_takes (input : List UInt8) : (unicodeEscape input).Takes input := by
  refine (hexUnit_takes input).next fun high rest _ => ?_
  split
  · exact .error
  split
  · refine (word_takes (by simp) rest).next fun _ rest _ => ?_
    refine (hexUnit_takes rest).next fun low rest _ => ?_
    split
    · exact .ok (.refl rest)
    · exact .error
  · exact .ok (.refl rest)

theorem shortEscape?_small {letter octet : UInt8} (short : shortEscape? letter = some octet) :
    letter.toNat < 0x80 ∧ octet.toNat < 0x80 := by
  rw [shortEscape?] at short
  split at short
  · rename_i itself
    cases short
    simp only [Bool.or_eq_true, decide_eq_true_eq] at itself
    rcases itself with (rfl | rfl) | rfl <;> decide
  · split_ifs at short <;> cases short <;> simp [*]

theorem unescapeOne_takes (input : List UInt8) : (unescapeOne input).Takes input := by
  cases input with
  | nil => exact .error
  | cons letter rest =>
    rw [unescapeOne]
    split
    · rename_i mark
      exact ((unicodeEscape_takes rest).map _).cons (mark ▸ by decide)
    · split
      · rename_i short
        exact .ok ((Passed.refl rest).cons (shortEscape?_small short).1)
      · exact .error

theorem unescapeOne_eq_ok {input out rest : List UInt8} (read : unescapeOne input = .ok (out, rest)) :
    ∃ c, out = Utf8.encodeChar c := by
  cases input with
  | nil => cases read
  | cons letter input =>
    rw [unescapeOne] at read
    split at read
    · obtain ⟨c, _, char⟩ := Read.map_eq_ok read
      exact ⟨c, char.symm⟩
    · split at read
      · rename_i octet short
        cases read
        exact ⟨_, (Utf8.encodeChar_of_one (Utf8.width_eq_zero_iff.mpr (shortEscape?_small short).2)).symm⟩
      · cases read

/-- If the octets of a string are text after some others, so is what they were read from. -/
theorem unescape_passed (before : List UInt8) {input octets rest : List UInt8}
    (read : unescape input = .ok (octets, rest)) (text : IsText (before ++ octets)) :
    ∃ front, input = front ++ rest ∧ IsText (before ++ front) := by
  -- an octet that is no escape may be a part of a character, so `before` grows with it; an escape stands for a
  -- whole character, which divides the text, and `before` starts anew
  induction input using unescape.induct generalizing before octets with
  | case1 =>
    rw [unescape] at read
    cases read
  | case2 input =>
    rw [unescape, if_pos rfl] at read
    cases read
    rw [List.append_nil] at text
    exact ⟨[0x22], rfl, text.append (.ascii (by simp))⟩
  | case3 input out after escape _ ih =>
    rw [unescape, if_neg (by decide), if_pos rfl] at read
    split at read
    · rename_i out' after' escape'
      cases escape.symm.trans escape'
      obtain ⟨more, later, rfl⟩ := Read.map_eq_ok read
      obtain ⟨c, rfl⟩ := unescapeOne_eq_ok escape
      obtain ⟨whole, text⟩ := text.around
      obtain ⟨front, rfl, spelled⟩ := ih [] later text
      obtain ⟨mark, rfl, escaped⟩ := unescapeOne_takes input _ _ escape
      refine ⟨0x5C :: mark ++ front, by simp, ?_⟩
      exact whole.append (.append (.cons escaped (by decide)) spelled)
    · cases read
  | case4 input fault escape =>
    rw [unescape, if_neg (by decide), if_pos rfl] at read
    split at read
    · rename_i escape'
      cases escape.symm.trans escape'
    · cases read
  | case5 b input quote mark control =>
    rw [unescape, if_neg quote, if_neg mark, if_pos control] at read
    cases read
  | case6 b input quote mark control ih =>
    rw [unescape, if_neg quote, if_neg mark, if_neg control] at read
    obtain ⟨more, later, rfl⟩ := Read.map_eq_ok read
    rw [List.append_cons] at text
    obtain ⟨front, rfl, spelled⟩ := ih _ later text
    exact ⟨b :: front, rfl, by rwa [List.append_cons]⟩

theorem readString_takes (input : List UInt8) : (readString input).Takes input := by
  intro s rest read
  rw [readString] at read
  split at read
  · cases read
  · rename_i octets after unescaped
    split at read
    · rename_i s' spelled
      cases read
      obtain ⟨cs, decoded, _⟩ := Utf8.map_eq_ok spelled
      exact unescape_passed [] unescaped (.of_decodeFrom decoded)
    · cases read

theorem scalar_takes (input : List UInt8) : (scalar input).Takes input := by
  cases input with
  | nil => exact .error
  | cons b rest =>
    rw [scalar]
    split
    · rename_i quote
      exact ((readString_takes rest).map _).cons (quote ▸ by decide)
    split
    · exact (readNumber_takes (b :: rest)).map _
    split
    · rename_i letter
      exact ((word_takes (by simp) rest).map _).cons (letter ▸ by simp)
    split
    · rename_i letter
      exact ((word_takes (by simp) rest).map _).cons (letter ▸ by simp)
    split
    · rename_i letter
      exact ((word_takes (by simp) rest).map _).cons (letter ▸ by simp)
    · exact .error

theorem memberName_takes (input : List UInt8) : (memberName input).Takes input :=
  ((expect_takes (by decide) _).after (passed_skipSpace input)).next fun _ rest _ =>
    (readString_takes rest).next fun _ rest _ =>
      ((expect_takes (by decide) _).after (passed_skipSpace rest)).map _

theorem embeddedText_takes (input : List UInt8) : (embeddedText input).Takes input := by
  refine ((scalar_takes _).after (passed_skipSpace input)).next fun v rest _ => ?_
  split
  · exact .ok (.refl rest)
  · exact .error

section

variable {element : List UInt8 → Read Value} (takes : ∀ input, (element input).Takes input)

include takes

theorem moreItems_takes (bound : Nat) (input : List UInt8) : (moreItems element bound input).Takes input := by
  induction bound generalizing input with
  | zero => exact .error
  | succ bound ih =>
    have space := passed_skipSpace input
    rw [moreItems]
    split
    · exact .error
    · rename_i b rest trimmed
      rw [trimmed] at space
      split
      · rename_i bracket
        exact .ok (space.trans ((Passed.refl rest).cons (bracket ▸ by decide)))
      split
      · rename_i comma
        have item := (takes rest).next fun v rest _ => (ih rest).map (v :: ·)
        exact (item.cons (comma ▸ by decide)).after space
      · exact .error

theorem items_takes (input : List UInt8) : (items element input).Takes input := by
  have space := passed_skipSpace input
  rw [items]
  split
  · exact .error
  · rename_i b rest trimmed
    rw [trimmed] at space
    split
    · rename_i bracket
      exact .ok (space.trans ((Passed.refl rest).cons (bracket ▸ by decide)))
    · have item := (takes (b :: rest)).next fun v rest _ =>
        (moreItems_takes takes (rest.length + 1) rest).map (v :: ·)
      exact item.after space

theorem moreMembers_takes (bound : Nat) (input : List UInt8) : (moreMembers element bound input).Takes input := by
  induction bound generalizing input with
  | zero => exact .error
  | succ bound ih =>
    have space := passed_skipSpace input
    rw [moreMembers]
    split
    · exact .error
    · rename_i b rest trimmed
      rw [trimmed] at space
      split
      · rename_i brace
        exact .ok (space.trans ((Passed.refl rest).cons (brace ▸ by decide)))
      split
      · rename_i comma
        have member := (memberName_takes rest).next fun name rest _ =>
          (takes rest).next fun v rest _ => (ih rest).map ((name, v) :: ·)
        exact (member.cons (comma ▸ by decide)).after space
      · exact .error

theorem members_takes (embedded : List UInt8 → Option Value) (input : List UInt8) :
    (members element embedded input).Takes input := by
  have space := passed_skipSpace input
  rw [members]
  split
  · exact .error
  · rename_i b rest trimmed
    rw [trimmed] at space
    split
    · rename_i brace
      exact .ok (space.trans ((Passed.refl rest).cons (brace ▸ by decide)))
    · refine Read.Takes.after (Read.Takes.next (memberName_takes (b :: rest)) fun name rest _ => ?_) space
      split
      · refine (embeddedText_takes rest).next fun spelled rest _ => ?_
        split
        · exact .error
        · exact ((expect_takes (by decide) _).after (passed_skipSpace rest)).map _
      · exact (takes rest).next fun v rest _ => (moreMembers_takes takes _ rest).map _

end

theorem value_takes (embedded : List UInt8 → Option Value) (depth : Nat) (input : List UInt8) :
    (value embedded depth input).Takes input := by
  induction depth generalizing input with
  | zero => exact (scalar_takes _).after (passed_skipSpace input)
  | succ depth ih =>
    have space := passed_skipSpace input
    rw [value]
    split
    · exact .error
    · rename_i b rest trimmed
      rw [trimmed] at space
      split
      · rename_i bracket
        exact (((items_takes ih rest).map _).cons (bracket ▸ by decide)).after space
      split
      · rename_i brace
        exact ((members_takes ih embedded rest).cons (brace ▸ by decide)).after space
      · exact (scalar_takes (b :: rest)).after space

theorem isText_of_whole {embedded : List UInt8 → Option Value} {input : List UInt8} {v : Value}
    (read : whole embedded input = .ok v) : IsText input := by
  rw [whole] at read
  split at read
  · cases read
  · rename_i v' rest first
    split at read
    · rename_i blank
      have trailing := passed_skipSpace rest
      rw [List.isEmpty_iff.mp blank] at trailing
      obtain ⟨front, rfl, text⟩ := (value_takes embedded depthLimit input v' rest first).trans trailing
      rwa [List.append_nil]
    · cases read

theorem isText_of_parse {input : List UInt8} {v : Value} (read : parse input = .ok v) : IsText input := by
  rw [parse] at read
  cases length : input.length with
  | zero =>
    rw [length] at read
    exact isText_of_whole read
  | succ levels =>
    rw [length] at read
    exact isText_of_whole read

end Json

theorem JoinRequest.isText_of_decode {payload : List UInt8} {q : JoinRequest}
    (decoded : JoinRequest.decode payload = .ok q) : IsText payload := by
  rw [JoinRequest.decode] at decoded
  split at decoded
  · cases decoded
  · rename_i v read
    exact Json.isText_of_parse read

end Scrimmage
