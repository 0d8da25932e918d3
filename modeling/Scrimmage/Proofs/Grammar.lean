import Scrimmage.Proofs.Tokens

namespace Scrimmage.Json

open Text

def Blank (octets : List UInt8) : Prop := ∀ b ∈ octets, isSpace b = true

section

variable {α : Type} (spells : List UInt8 → α → Prop)

/-- With blanks in front. -/
inductive Led : List UInt8 → α → Prop
  | intro {blank text : List UInt8} {a : α} : Blank blank → spells text a → Led (blank ++ text) a

/-- Items that have a comma each. -/
inductive Others : List UInt8 → List α → Prop
  | nil : Others [] []
  | cons {blank text more : List UInt8} {a : α} {as : List α} : Blank blank → spells text a → Others more as →
      Others (blank ++ 0x2C :: (text ++ more)) (a :: as)

/-- What stands between brackets: nothing, or items with commas between them. -/
inductive Series : List UInt8 → List α → Prop
  | none {blank : List UInt8} : Blank blank → Series blank []
  | some {text more blank : List UInt8} {a : α} {as : List α} : spells text a → Others spells more as → Blank blank →
      Series (text ++ (more ++ blank)) (a :: as)

/-- A name, a colon and what is named. -/
inductive Field : List UInt8 → String × α → Prop
  | intro {front blank text : List UInt8} {name : String} {a : α} : Led Quoted front name → Blank blank →
      Led spells text a → Field (front ++ (blank ++ 0x3A :: text)) (name, a)

end

/-- An object without its brace in front. If its first name is the reserved one, its only member is a string, and the
object stands for the document that the string spells; and of members with one name the last is kept. -/
inductive Braced (embedded spells : List UInt8 → Value → Prop) : List UInt8 → Value → Prop
  | object {body : List UInt8} {ms : List (String × Value)} : Series (Field spells) body ms →
      (∀ m ∈ ms.head?, m.1 ≠ embeddedName) → Braced embedded spells (body ++ [0x7D]) (.object (Members.ofList ms))
  | document {body : List UInt8} {spelled : String} {v : Value} :
      Series (Field Quoted) body [(embeddedName, spelled)] → embedded (Utf8.ofString spelled) v →
      Braced embedded spells (body ++ [0x7D]) v

inductive Nested (embedded spells : List UInt8 → Value → Prop) : List UInt8 → Value → Prop
  | flat {text : List UInt8} {v : Value} : Flat text v → Nested embedded spells text v
  | array {body : List UInt8} {vs : List Value} : Series (Led spells) body vs →
      Nested embedded spells (0x5B :: (body ++ [0x5D])) (.array vs)
  | object {text : List UInt8} {v : Value} : Braced embedded spells text v → Nested embedded spells (0x7B :: text) v

/-- The text of a value that is nested at most so deep. -/
def Spelling (embedded : List UInt8 → Value → Prop) : Nat → List UInt8 → Value → Prop
  | 0 => Flat
  | depth + 1 => Nested embedded (Spelling embedded depth)

/-- A value with blanks around it. -/
def Whole (embedded : List UInt8 → Value → Prop) (octets : List UInt8) (v : Value) : Prop :=
  ∃ text blank, octets = text ++ blank ∧ Led (Spelling embedded depthLimit) text v ∧ Blank blank

/-- A text with documents embedded in it, one in another at most so many times. -/
def DocumentWithin : Nat → List UInt8 → Value → Prop
  | 0 => Whole fun _ _ => False
  | levels + 1 => Whole (DocumentWithin levels)

/-- The octets are a JSON text of the value: values with blanks, commas and brackets, nested to a limited depth,
and the object form that stands for a document spelled by a string. What the reader reads is what this grammar
spells, neither more nor less. -/
def Document (octets : List UInt8) (v : Value) : Prop := ∃ levels, DocumentWithin levels octets v

/-- The value that a reader of embedded documents finds. -/
def Embedded (embedded : List UInt8 → Option Value) (octets : List UInt8) (v : Value) : Prop := embedded octets = some v

theorem skipSpace_blank {blank : List UInt8} (spaces : Blank blank) {b : UInt8} (other : isSpace b = false)
    (rest : List UInt8) : skipSpace (blank ++ b :: rest) = b :: rest := by
  rw [skipSpace, List.dropWhile_append_of_pos spaces, ← skipSpace, skipSpace_cons other]

theorem exists_blank (input : List UInt8) : ∃ blank, input = blank ++ skipSpace input ∧ Blank blank :=
  ⟨input.takeWhile isSpace, List.takeWhile_append_dropWhile.symm, fun _ inside => List.mem_takeWhile_imp inside⟩

theorem Blank.append {blank blank' : List UInt8} (spaces : Blank blank) (spaces' : Blank blank') :
    Blank (blank ++ blank') :=
  List.forall_mem_append.mpr ⟨spaces, spaces'⟩

theorem goesOn_of_isSpace {b : UInt8} (space : isSpace b = true) : goesOn b = false := by
  simp only [isSpace, Bool.or_eq_true, beq_iff_eq] at space
  rcases space with ((rfl | rfl) | rfl) | rfl <;> decide

theorem Blank.stops {blank : List UInt8} (spaces : Blank blank) {rest : List UInt8} (stops : Stops rest) :
    Stops (blank ++ rest) := by
  cases blank with
  | nil => exact stops
  | cons b blank => exact .cons (goesOn_of_isSpace (spaces b List.mem_cons_self)) _

section

variable {α : Type} {spells : List UInt8 → α → Prop}

theorem Led.lead {text : List UInt8} {a : α} (led : Led spells text a) {blank : List UInt8} (spaces : Blank blank) :
    Led spells (blank ++ text) a := by
  obtain ⟨spaces', spelled⟩ := led
  rw [← List.append_assoc]
  exact .intro (spaces.append spaces') spelled

theorem Others.stops {more : List UInt8} {as : List α} (others : Others spells more as) {rest : List UInt8}
    (stops : Stops rest) : Stops (more ++ rest) := by
  cases others with
  | nil => exact stops
  | cons spaces _ _ =>
    rw [List.append_assoc]
    exact spaces.stops (.cons (by decide) _)

theorem Others.length_le {more : List UInt8} {as : List α} (others : Others spells more as) :
    as.length ≤ more.length := by
  induction others with
  | nil => exact le_rfl
  | cons _ _ _ ih =>
    simp only [List.length_cons, List.length_append]
    omega

/-- Reads items after their commas, up to the closing octet. -/
def others (item : List UInt8 → Read α) (closing : UInt8) : Nat → List UInt8 → Read (List α)
  | 0, _ => .error .malformed
  | bound + 1, input =>
    match skipSpace input with
    | [] => .error .unfinished
    | b :: rest =>
      if b = closing then .ok ([], rest)
      else if b = 0x2C then (item rest).next fun a rest => (others item closing bound rest).map (a :: ·)
      else .error .malformed

/-- What closes a series is no blank, no comma and no part of a number. -/
def Closing (b : UInt8) : Prop := isSpace b = false ∧ b ≠ 0x2C ∧ goesOn b = false

variable {item : List UInt8 → Read α} (recognizes : Recognizes Stops item spells)

include recognizes

theorem others_sound {closing : UInt8} {bound : Nat} {input rest : List UInt8} {as : List α}
    (read : others item closing bound input = .ok (as, rest)) :
    ∃ more blank, input = more ++ (blank ++ closing :: rest) ∧ Others spells more as ∧ Blank blank := by
  induction bound generalizing input as with
  | zero => cases read
  | succ bound ih =>
    obtain ⟨blank, same, spaces⟩ := exists_blank input
    rw [others] at read
    split at read
    · cases read
    · rename_i b left trimmed
      rw [trimmed] at same
      split at read
      · rename_i closes
        subst closes
        cases read
        exact ⟨[], blank, same, .nil, spaces⟩
      split at read
      · rename_i comma
        subst comma
        obtain ⟨a, between, first, later⟩ := Read.next_eq_ok read
        obtain ⟨as', read', rfl⟩ := Read.map_eq_ok later
        obtain ⟨text, rfl, spelled⟩ := recognizes.sound first
        obtain ⟨more, blank', rfl, others', spaces'⟩ := ih read'
        exact ⟨blank ++ 0x2C :: (text ++ more), blank', by simp [same], .cons spaces spelled others', spaces'⟩
      · cases read

theorem others_complete {closing : UInt8} (closes : Closing closing) {more blank : List UInt8} {as : List α}
    (spelled : Others spells more as) (spaces : Blank blank) (rest : List UInt8) {bound : Nat}
    (enough : as.length < bound) :
    others item closing bound (more ++ (blank ++ closing :: rest)) = .ok (as, rest) := by
  obtain ⟨space, comma, ends⟩ := closes
  induction spelled generalizing bound with
  | nil =>
    obtain ⟨bound, rfl⟩ := Nat.exists_eq_add_one.mpr enough
    rw [List.nil_append, others, skipSpace_blank spaces space]
    simp only [if_true]
  | @cons blank' text more a as spaces' first later ih =>
    obtain ⟨bound, rfl⟩ := Nat.exists_eq_add_one.mpr (Nat.zero_lt_of_lt enough)
    have behind := later.stops (spaces.stops (.cons ends rest))
    rw [List.append_assoc, List.cons_append, others, skipSpace_blank spaces' (by decide), List.append_assoc]
    simp only [if_neg (Ne.symm comma), if_true, recognizes.complete first _ behind, Read.next,
      ih (Nat.lt_of_succ_lt_succ enough)]
    rfl

end

theorem moreItems_eq_others (element : List UInt8 → Read Value) (bound : Nat) (input : List UInt8) :
    moreItems element bound input = others element 0x5D bound input := by
  induction bound generalizing input with
  | zero => rfl
  | succ bound ih =>
    rw [moreItems, others]
    cases skipSpace input with
    | nil => rfl
    | cons b rest => simp only [ih]

/-- What can begin an item: neither a blank nor the closing bracket. -/
def Opening (text : List UInt8) : Prop := ∃ b more, text = b :: more ∧ isSpace b = false ∧ b ≠ 0x5D

/-- A member with its name. -/
def field (element : List UInt8 → Read Value) (input : List UInt8) : Read (String × Value) :=
  (memberName input).next fun name rest => (element rest).map fun v => (name, v)

theorem moreMembers_eq_others (element : List UInt8 → Read Value) (bound : Nat) (input : List UInt8) :
    moreMembers element bound input = others (field element) 0x7D bound input := by
  induction bound generalizing input with
  | zero => rfl
  | succ bound ih =>
    rw [moreMembers, others]
    cases skipSpace input with
    | nil => rfl
    | cons b rest =>
      simp only [ih, field]
      cases memberName rest with
      | error fault => rfl
      | ok named =>
        simp only [Read.next]
        cases element named.2 with
        | error fault => rfl
        | ok read => rfl

theorem memberName_recognizes : Recognizes (fun _ => True) memberName
    fun text name => ∃ front blank, text = front ++ (blank ++ [0x3A]) ∧ Led Quoted front name ∧ Blank blank where
  sound {input name rest} read := by
    obtain ⟨blank, same, spaces⟩ := exists_blank input
    rw [memberName] at read
    obtain ⟨⟨⟩, afterQuote, quote, named⟩ := Read.next_eq_ok read
    obtain ⟨name', afterName, closed, colon⟩ := Read.next_eq_ok named
    obtain ⟨⟨⟩, last, rfl⟩ := Read.map_eq_ok colon
    obtain ⟨text, rfl, spelled⟩ := readString_recognizes.sound closed
    obtain ⟨blank', same', spaces'⟩ := exists_blank afterName
    rw [expect_eq_ok quote] at same
    rw [expect_eq_ok last] at same'
    exact ⟨blank ++ 0x22 :: text ++ (blank' ++ [0x3A]), by simp [same, same'], _, blank', rfl,
      .intro spaces ⟨text, rfl, spelled⟩, spaces'⟩
  complete := by
    rintro _ name ⟨front, blank, rfl, led, spaces⟩ rest _
    obtain ⟨spaces', text, rfl, spelled⟩ := led
    rename_i blank'
    simp only [List.append_assoc, List.cons_append, List.nil_append]
    rw [memberName, skipSpace_blank spaces' (by decide), expect, if_pos rfl]
    simp only [Read.next, readString_recognizes.complete spelled _ trivial]
    rw [skipSpace_blank spaces (by decide), expect, if_pos rfl]
    rfl

/-- In front of the name of the first member nothing is read but blanks. -/
theorem memberName_led {front blank : List UInt8} {name : String} (led : Led Quoted front name) (spaces : Blank blank)
    (rest : List UInt8) : ∃ b left, skipSpace (front ++ (blank ++ 0x3A :: rest)) = b :: left ∧ b ≠ 0x7D ∧
      memberName (b :: left) = .ok (name, rest) := by
  obtain ⟨spaces', text, rfl, closed⟩ := led
  have nothing : Blank [] := List.forall_mem_nil _
  have read := memberName_recognizes.complete
    ⟨_, blank, rfl, .intro nothing ⟨text, rfl, closed⟩, spaces⟩ rest trivial
  refine ⟨0x22, text ++ (blank ++ 0x3A :: rest), ?_, by decide, by simpa using read⟩
  rw [List.append_assoc, List.cons_append, skipSpace_blank spaces' (by decide)]

theorem embeddedText_recognizes : Recognizes (fun _ => True) embeddedText (Led Quoted) where
  sound {input spelled rest} read := by
    obtain ⟨blank, same, spaces⟩ := exists_blank input
    rw [embeddedText] at read
    obtain ⟨v, between, first, string⟩ := Read.next_eq_ok read
    obtain ⟨text, taken, flat⟩ := scalar_recognizes.sound first
    split at string
    · cases string
      cases flat with
      | string quoted => exact ⟨blank ++ text, by rw [same, taken, List.append_assoc], .intro spaces quoted⟩
    · cases string
  complete := by
    rintro _ spelled ⟨spaces, text, rfl, closed⟩ rest _
    rename_i blank
    rw [List.append_assoc, List.cons_append, embeddedText, skipSpace_blank spaces (by decide), scalar, if_pos rfl,
      readString_recognizes.complete closed _ trivial]
    rfl

theorem members_of_embedded {element : List UInt8 → Read Value} {embedded : List UInt8 → Option Value}
    {body rest : List UInt8} {spelled : String} {v : Value}
    (series : Series (Field Quoted) body [(embeddedName, spelled)])
    (found : embedded (Utf8.ofString spelled) = some v) :
    members element embedded (body ++ 0x7D :: rest) = .ok (v, rest) := by
  cases series with
  | some first others spaces =>
    cases others
    obtain ⟨led, spaces', quoted⟩ := first
    rename_i blank front blank' text
    obtain ⟨b, left, trimmed, brace, read⟩ := memberName_led led spaces' (text ++ (blank ++ 0x7D :: rest))
    simp only [List.append_assoc, List.cons_append, List.nil_append]
    rw [members, trimmed]
    simp only [if_neg brace, read, Read.next, if_true, embeddedText_recognizes.complete quoted _ trivial, found]
    rw [skipSpace_blank spaces (by decide), expect, if_pos rfl]
    rfl

section

variable {element : List UInt8 → Read Value} {spells : List UInt8 → Value → Prop}
  (recognizes : Recognizes Stops element (Led spells))

include recognizes

theorem items_recognizes (opening : ∀ {text v}, spells text v → Opening text) :
    Recognizes (fun _ => True) (items element)
      fun text vs => ∃ body, text = body ++ [0x5D] ∧ Series (Led spells) body vs where
  sound {input vs rest} read := by
    obtain ⟨blank, same, spaces⟩ := exists_blank input
    rw [items] at read
    split at read
    · cases read
    · rename_i b left trimmed
      rw [trimmed] at same
      split at read
      · rename_i closes
        subst closes
        cases read
        exact ⟨blank ++ [0x5D], by simp [same], blank, rfl, .none spaces⟩
      · obtain ⟨v, between, first, later⟩ := Read.next_eq_ok read
        obtain ⟨vs', read', rfl⟩ := Read.map_eq_ok later
        obtain ⟨text, taken, led⟩ := recognizes.sound first
        rw [moreItems_eq_others] at read'
        obtain ⟨more, blank', rfl, others, spaces'⟩ := others_sound recognizes read'
        refine ⟨blank ++ text ++ (more ++ blank') ++ [0x5D], by simp [same, taken], _, rfl, ?_⟩
        exact .some (led.lead spaces) others spaces'
  complete := by
    rintro _ vs ⟨body, rfl, series⟩ rest _
    have closes : Closing 0x5D := ⟨by decide, by decide, by decide⟩
    cases series with
    | none spaces =>
      rw [List.append_assoc, List.singleton_append, items, skipSpace_blank spaces (by decide)]
      rfl
    | @some text more blank v vs led others spaces =>
      obtain ⟨spaces', spelled⟩ := led
      rename_i blank' text
      have nothing : Blank [] := List.forall_mem_nil _
      have read := recognizes.complete (.intro nothing spelled) _ (others.stops (spaces.stops (.cons closes.2.2 rest)))
      have enough := others.length_le
      obtain ⟨b, inner, rfl, space, bracket⟩ := opening spelled
      simp only [List.nil_append, List.cons_append, List.append_assoc] at read ⊢
      rw [items, skipSpace_blank spaces' space]
      simp only [if_neg bracket, read, Read.next, moreItems_eq_others]
      rw [others_complete recognizes closes others spaces rest (by simp only [List.length_append]; omega)]
      rfl

theorem field_recognizes : Recognizes Stops (field element) (Field spells) where
  sound {input m rest} read := by
    rw [field] at read
    obtain ⟨name, between, first, second⟩ := Read.next_eq_ok read
    obtain ⟨v, content, rfl⟩ := Read.map_eq_ok second
    obtain ⟨_, rfl, front, blank, rfl, led, spaces⟩ := memberName_recognizes.sound first
    obtain ⟨text, rfl, spelled⟩ := recognizes.sound content
    exact ⟨front ++ (blank ++ 0x3A :: text), by simp, .intro led spaces spelled⟩
  complete := by
    rintro _ m ⟨led, spaces, spelled⟩ rest stops
    rename_i front blank text name v
    have named := memberName_recognizes.complete ⟨front, blank, rfl, led, spaces⟩ (text ++ rest) trivial
    simp only [List.append_assoc, List.cons_append, List.nil_append] at named ⊢
    rw [field, named]
    simp only [Read.next, recognizes.complete spelled rest stops]
    rfl

variable {embedded : List UInt8 → Option Value} {input rest : List UInt8} {v : Value}

theorem braced_of_members (read : members element embedded input = .ok (v, rest)) :
    ∃ text, input = text ++ rest ∧ Braced (Embedded embedded) spells text v := by
  obtain ⟨blank, same, spaces⟩ := exists_blank input
  rw [members] at read
  split at read
  · cases read
  · rename_i b left trimmed
    rw [trimmed] at same
    split at read
    · rename_i closes
      subst closes
      cases read
      exact ⟨blank ++ [0x7D], by simp [same], .object (.none spaces) nofun⟩
    · obtain ⟨name, between, first, second⟩ := Read.next_eq_ok read
      obtain ⟨_, taken, front, blank', rfl, led, spaces'⟩ := memberName_recognizes.sound first
      split at second
      · rename_i reserved
        subst reserved
        obtain ⟨spelled, after, string, closing⟩ := Read.next_eq_ok second
        obtain ⟨text, rfl, quoted⟩ := embeddedText_recognizes.sound string
        obtain ⟨blank'', same'', spaces''⟩ := exists_blank after
        split at closing
        · cases closing
        · rename_i v' found
          obtain ⟨⟨⟩, brace, rfl⟩ := Read.map_eq_ok closing
          rw [expect_eq_ok brace] at same''
          refine ⟨blank ++ front ++ (blank' ++ 0x3A :: text) ++ ([] ++ blank'') ++ [0x7D],
            by simp [same, taken, same''], ?_⟩
          exact .document (.some (.intro (led.lead spaces) spaces' quoted) .nil spaces'') found
      · rename_i free
        obtain ⟨v', after, content, later⟩ := Read.next_eq_ok second
        obtain ⟨ms, more, rfl⟩ := Read.map_eq_ok later
        obtain ⟨text, rfl, spelled⟩ := recognizes.sound content
        rw [moreMembers_eq_others] at more
        obtain ⟨other, blank'', rfl, others, spaces''⟩ := others_sound (field_recognizes recognizes) more
        refine ⟨blank ++ front ++ (blank' ++ 0x3A :: text) ++ (other ++ blank'') ++ [0x7D], by simp [same, taken], ?_⟩
        exact .object (.some (.intro (led.lead spaces) spaces' spelled) others spaces'') (by simpa using free)

theorem members_of_series {body : List UInt8} {ms : List (String × Value)} (series : Series (Field spells) body ms)
    (free : ∀ m ∈ ms.head?, m.1 ≠ embeddedName) :
    members element embedded (body ++ 0x7D :: rest) = .ok (.object (Members.ofList ms), rest) := by
  have closes : Closing 0x7D := ⟨by decide, by decide, by decide⟩
  cases series with
  | none spaces =>
    rw [members, skipSpace_blank spaces (by decide)]
    rfl
  | some first others spaces =>
    obtain ⟨led, spaces', spelled⟩ := first
    rename_i more blank ms front blank' text name v
    have enough := others.length_le
    have content := recognizes.complete spelled _ (others.stops (spaces.stops (.cons closes.2.2 rest)))
    obtain ⟨b, left, trimmed, brace, read⟩ := memberName_led led spaces' (text ++ (more ++ (blank ++ 0x7D :: rest)))
    simp only [List.append_assoc, List.cons_append]
    rw [members, trimmed]
    simp only [if_neg brace, read, Read.next, if_neg (free _ rfl), content, moreMembers_eq_others]
    rw [others_complete (field_recognizes recognizes) closes others spaces rest
      (by simp only [List.length_append]; omega)]
    rfl

theorem members_recognizes :
    Recognizes (fun _ => True) (members element embedded) (Braced (Embedded embedded) spells) where
  sound := braced_of_members recognizes
  complete := by
    intro text v braced rest _
    cases braced with
    | object series free =>
      rw [List.append_assoc]
      exact members_of_series recognizes series free
    | document series found =>
      rw [List.append_assoc]
      exact members_of_embedded series found

end

theorem Spelling.begins {embedded : List UInt8 → Value → Prop} {depth : Nat} {text : List UInt8} {v : Value}
    (spelling : Spelling embedded depth text v) : Opening text := by
  have flat : Flat text v → Opening text := fun flat =>
    have ⟨b, more, same, space, bracket, _⟩ := flat.begins
    ⟨b, more, same, space, bracket⟩
  cases depth with
  | zero => exact flat spelling
  | succ depth =>
    cases spelling with
    | flat spelled => exact flat spelled
    | array _ => exact ⟨_, _, rfl, by decide⟩
    | object _ => exact ⟨_, _, rfl, by decide⟩

theorem value_led {embedded : List UInt8 → Option Value} {depth : Nat} {blank text : List UInt8} (spaces : Blank blank)
    (opening : Opening text) (rest : List UInt8) :
    value embedded depth (blank ++ text ++ rest) = value embedded depth (text ++ rest) := by
  obtain ⟨b, more, rfl, space, _⟩ := opening
  cases depth with
  | zero => rw [value, value, List.append_assoc, List.cons_append, skipSpace_blank spaces space, skipSpace_cons space]
  | succ depth =>
    rw [value, value, List.append_assoc, List.cons_append, skipSpace_blank spaces space, skipSpace_cons space]

theorem value_flat {embedded : List UInt8 → Option Value} {depth : Nat} {text rest : List UInt8} {v : Value}
    (flat : Flat text v) (stops : Stops rest) : value embedded depth (text ++ rest) = .ok (v, rest) := by
  have read := scalar_recognizes.complete flat rest stops
  obtain ⟨b, more, rfl, space, _, array, object⟩ := flat.begins
  rw [List.cons_append] at read ⊢
  rw [value_eq_scalar embedded depth space array object, read]

section

variable {embedded : List UInt8 → Option Value} {depth : Nat}
  (recognizes : Recognizes Stops (value embedded depth) (Led (Spelling (Embedded embedded) depth)))

include recognizes

/-- What is read behind blanks is nested one level deeper than its parts. -/
theorem nested_of_value {input rest : List UInt8} {v : Value}
    (read : value embedded (depth + 1) input = .ok (v, rest)) : ∃ text, skipSpace input = text ++ rest ∧
      Nested (Embedded embedded) (Spelling (Embedded embedded) depth) text v := by
  rw [value] at read
  split at read
  · cases read
  rename_i b left trimmed
  rw [trimmed]
  split at read
  · rename_i bracket
    subst bracket
    obtain ⟨vs, items, rfl⟩ := Read.map_eq_ok read
    obtain ⟨_, rfl, body, rfl, series⟩ := (items_recognizes recognizes Spelling.begins).sound items
    exact ⟨0x5B :: (body ++ [0x5D]), rfl, .array series⟩
  split at read
  · rename_i brace
    subst brace
    obtain ⟨text, rfl, braced⟩ := (members_recognizes recognizes).sound read
    exact ⟨0x7B :: text, rfl, .object braced⟩
  · obtain ⟨text, taken, flat⟩ := scalar_recognizes.sound read
    exact ⟨text, taken, .flat flat⟩

theorem value_of_nested {text rest : List UInt8} {v : Value}
    (nested : Nested (Embedded embedded) (Spelling (Embedded embedded) depth) text v) (stops : Stops rest) :
    value embedded (depth + 1) (text ++ rest) = .ok (v, rest) := by
  cases nested with
  | flat flat => exact value_flat flat stops
  | @array body vs series =>
    have read := (items_recognizes recognizes Spelling.begins).complete ⟨body, rfl, series⟩ rest trivial
    rw [List.cons_append, value_array, read]
    rfl
  | object braced =>
    rw [List.cons_append, value_object, (members_recognizes recognizes).complete braced rest trivial]

end

theorem value_recognizes (embedded : List UInt8 → Option Value) (depth : Nat) :
    Recognizes Stops (value embedded depth) (Led (Spelling (Embedded embedded) depth)) := by
  induction depth with
  | zero =>
    refine ⟨fun {input v rest} read => ?_, ?_⟩
    · obtain ⟨blank, same, spaces⟩ := exists_blank input
      obtain ⟨text, taken, flat⟩ := scalar_recognizes.sound read
      exact ⟨blank ++ text, by rw [same, taken, List.append_assoc], .intro spaces flat⟩
    · rintro _ v (@⟨blank, text, _, spaces, flat⟩) rest stops
      have spelling : Spelling (Embedded embedded) 0 text v := flat
      rw [value_led spaces spelling.begins, value_flat flat stops]
  | succ depth ih =>
    refine ⟨fun {input v rest} read => ?_, ?_⟩
    · obtain ⟨blank, same, spaces⟩ := exists_blank input
      obtain ⟨text, taken, nested⟩ := nested_of_value ih read
      exact ⟨blank ++ text, by rw [same, taken, List.append_assoc], .intro spaces nested⟩
    · rintro _ v (@⟨blank, text, _, spaces, nested⟩) rest stops
      have spelling : Spelling (Embedded embedded) (depth + 1) text v := nested
      rw [value_led spaces spelling.begins, value_of_nested ih nested stops]

theorem whole_eq_ok_iff {embedded : List UInt8 → Option Value} {input : List UInt8} {v : Value} :
    whole embedded input = .ok v ↔ Whole (Embedded embedded) input v := by
  constructor
  · intro read
    rw [whole] at read
    split at read
    · cases read
    · rename_i v' rest first
      split at read
      · rename_i blank
        cases read
        obtain ⟨text, rfl, led⟩ := (value_recognizes embedded depthLimit).sound first
        obtain ⟨spaces, same, blank'⟩ := exists_blank rest
        rw [List.isEmpty_iff.mp blank, List.append_nil] at same
        exact ⟨text, rest, rfl, led, same ▸ blank'⟩
      · cases read
  · rintro ⟨text, blank, rfl, led, spaces⟩
    have stops : Stops blank := by simpa using spaces.stops .nil
    have trimmed : skipSpace blank = [] := List.dropWhile_eq_nil_iff.mpr spaces
    rw [whole, (value_recognizes embedded depthLimit).complete led blank stops]
    simp only [trimmed, List.isEmpty_nil, if_true]

theorem length_encodeChar_le (c : Char) : (Utf8.encodeChar c).length ≤ 4 := by
  rw [Utf8.encodeChar]
  split_ifs <;> simp

theorem Pieces.length_le {text octets : List UInt8} (pieces : Pieces text octets) : octets.length ≤ text.length := by
  induction pieces with
  | nil => exact le_rfl
  | plain _ _ _ _ ih => exact Nat.succ_le_succ ih
  | @escape mark out text octets escape _ ih =>
    have short : out.length ≤ mark.length + 1 := by
      cases escape with
      | short => simp
      | unicode spelled =>
        refine (length_encodeChar_le _).trans ?_
        cases spelled with
        | unit hex _ =>
          obtain ⟨⟩ := hex
          simp
        | pair hex hex' =>
          obtain ⟨⟩ := hex
          simp
    simp only [List.length_append, List.length_cons]
    omega

section

variable {α : Type} {P Q : List UInt8 → α → Prop}

theorem Led.imp {text : List UInt8} {a : α} (led : Led P text a)
    (imp : ∀ inner a, inner.length ≤ text.length → P inner a → Q inner a) : Led Q text a := by
  obtain ⟨spaces, spelled⟩ := led
  exact .intro spaces (imp _ _ (by simp) spelled)

theorem Others.imp {more : List UInt8} {as : List α} (others : Others P more as)
    (imp : ∀ inner a, inner.length ≤ more.length → P inner a → Q inner a) : Others Q more as := by
  induction others with
  | nil => exact .nil
  | cons spaces first _ ih =>
    simp only [List.length_append, List.length_cons] at imp
    exact .cons spaces (imp _ _ (by omega) first) (ih fun inner a shorter => imp inner a (by omega))

theorem Series.imp {body : List UInt8} {as : List α} (series : Series P body as)
    (imp : ∀ inner a, inner.length ≤ body.length → P inner a → Q inner a) : Series Q body as := by
  cases series with
  | none spaces => exact .none spaces
  | some first others spaces =>
    simp only [List.length_append] at imp
    exact .some (imp _ _ (by omega) first) (others.imp fun inner a shorter => imp inner a (by omega)) spaces

theorem Field.imp {text : List UInt8} {m : String × α} (field : Field P text m)
    (imp : ∀ inner a, inner.length ≤ text.length → P inner a → Q inner a) : Field Q text m := by
  obtain ⟨led, spaces, spelled⟩ := field
  simp only [List.length_append, List.length_cons] at imp
  exact .intro led spaces (spelled.imp fun inner a shorter => imp inner a (by omega))

end

theorem Spelling.imp {embedded embedded' : List UInt8 → Value → Prop} {depth : Nat} {text : List UInt8} {v : Value}
    (spelling : Spelling embedded depth text v)
    (imp : ∀ inner v, inner.length < text.length → embedded inner v → embedded' inner v) :
    Spelling embedded' depth text v := by
  induction depth generalizing text v with
  | zero => exact spelling
  | succ depth ih =>
    cases spelling with
    | flat flat => exact .flat flat
    | array series =>
      simp only [List.length_append, List.length_cons] at imp
      refine .array (series.imp fun inner v shorter led => led.imp fun inner v shorter spelling => ?_)
      exact ih spelling fun inner v shorter => imp inner v (by omega)
    | object braced =>
      cases braced with
      | object series free =>
        simp only [List.length_append, List.length_cons] at imp
        refine .object (.object (series.imp fun inner m shorter field => ?_) free)
        refine field.imp fun inner v shorter spelling => ?_
        exact ih spelling fun inner v shorter => imp inner v (by omega)
      | document series found =>
        refine .object (.document series (imp _ _ ?_ found))
        cases series with
        | some first others spaces =>
          obtain ⟨_, _, ⟨_, closed, rfl, ⟨pieces⟩⟩⟩ := first
          have short := pieces.length_le
          simp only [List.length_append, List.length_cons]
          omega

theorem Whole.imp {embedded embedded' : List UInt8 → Value → Prop} {octets : List UInt8} {v : Value}
    (whole : Whole embedded octets v)
    (imp : ∀ inner v, inner.length < octets.length → embedded inner v → embedded' inner v) :
    Whole embedded' octets v := by
  obtain ⟨text, blank, rfl, led, spaces⟩ := whole
  rw [List.length_append] at imp
  refine ⟨text, blank, rfl, led.imp fun inner v shorter spelling => ?_, spaces⟩
  exact spelling.imp fun inner v shorter => imp inner v (by omega)

theorem embedded_document_iff {levels : Nat} {inner : List UInt8} {v : Value} :
    Embedded (fun inner => (documentWithin levels inner).toOption) inner v ↔ documentWithin levels inner = .ok v := by
  rw [Embedded]
  cases documentWithin levels inner <;> simp [Except.toOption]

theorem documentWithin_sound {levels : Nat} {input : List UInt8} {v : Value}
    (read : documentWithin levels input = .ok v) : DocumentWithin levels input v := by
  induction levels generalizing input v with
  | zero => exact (whole_eq_ok_iff.mp read).imp fun inner v _ found => by cases found
  | succ levels ih => exact (whole_eq_ok_iff.mp read).imp fun inner v _ found => ih (embedded_document_iff.mp found)

theorem documentWithin_complete {levels bound : Nat} {octets : List UInt8} {v : Value}
    (document : DocumentWithin levels octets v) (enough : octets.length ≤ bound) :
    documentWithin bound octets = .ok v := by
  induction bound generalizing levels octets v with
  | zero =>
    cases levels with
    | zero => exact whole_eq_ok_iff.mpr (Whole.imp document fun inner v shorter _ => by omega)
    | succ levels => exact whole_eq_ok_iff.mpr (Whole.imp document fun inner v shorter _ => by omega)
  | succ bound ih =>
    cases levels with
    | zero => exact whole_eq_ok_iff.mpr (Whole.imp document fun inner v _ found => found.elim)
    | succ levels =>
      refine whole_eq_ok_iff.mpr (Whole.imp document fun inner v shorter found => ?_)
      exact embedded_document_iff.mpr (ih found (by omega))

theorem parse_eq_ok_iff {input : List UInt8} {v : Value} : parse input = .ok v ↔ Document input v :=
  ⟨fun read => ⟨_, documentWithin_sound read⟩, fun ⟨_, document⟩ => documentWithin_complete document le_rfl⟩

theorem Document.unique {octets : List UInt8} {v v' : Value} (document : Document octets v)
    (document' : Document octets v') : v = v' :=
  Except.ok.inj ((parse_eq_ok_iff.mpr document).symm.trans (parse_eq_ok_iff.mpr document'))

theorem document_of_spells {text : List UInt8} {v : Value}
    (spells : ∀ levels, Spells (value (fun inner => (documentWithin levels inner).toOption) depthLimit) text v) :
    Document text v :=
  parse_eq_ok_iff.mp (parse_of_spells spells)

theorem document_write {v : Value} (regular : v.every Value.isRegular = true)
    (pointFree : v.every Value.isPointFree = true) (unreserved : v.every Value.isUnreserved = true)
    (deep : v.depth ≤ depthLimit) : Document (write v) v :=
  parse_eq_ok_iff.mp (parse_write regular pointFree unreserved deep)

end Scrimmage.Json
