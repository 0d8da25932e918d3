import Mathlib
import Scrimmage.Json.Document
import Scrimmage.Proofs.Values

namespace Scrimmage.Json

/-- What a reader gives has the property. -/
def Read.Gives {α : Type} (read : Read α) (P : α → Prop) : Prop := ∀ a rest, read = .ok (a, rest) → P a

namespace Read.Gives

variable {α β : Type} {P : α → Prop} {Q : β → Prop}

theorem error {fault : Fault} : Gives (.error fault : Read α) P := nofun

theorem ok {a : α} {rest : List UInt8} (holds : P a) : Gives (.ok (a, rest)) P := by
  rintro _ _ ⟨⟩
  exact holds

theorem map {read : Read α} {f : α → β} (gives : read.Gives P) (holds : ∀ a, P a → Q (f a)) :
    (read.map f).Gives Q := by
  intro b rest done
  obtain ⟨a, first, rfl⟩ := Read.map_eq_ok done
  exact holds a (gives a rest first)

theorem next {first : Read α} {following : α → List UInt8 → Read β} (gives : first.Gives P)
    (more : ∀ a rest, P a → (following a rest).Gives Q) : (first.next following).Gives Q := by
  intro b rest done
  obtain ⟨a, between, one, other⟩ := Read.next_eq_ok done
  exact more a between (gives a between one) b rest other

theorem any {read : Read α} : read.Gives fun _ => True := fun _ _ _ => trivial

end Read.Gives

theorem absorb_lt {n : Nat} (small : n < 18446744073709551616) (ds : List Nat) :
    (absorb n ds).1 < 18446744073709551616 := by
  induction ds generalizing n with
  | nil => exact small
  | cons d ds ih =>
    rw [absorb]
    split
    · rename_i less
      exact ih less
    · exact small

theorem double?_ne_int {negative : Bool} {n : Nat} {exponent k : Int} :
    Numeral.double? negative n exponent ≠ some (.int k) := by
  intro value
  simp only [Numeral.double?, Option.bind_eq_bind, Option.bind_eq_some_iff, Option.some.injEq] at value
  obtain ⟨_, _, _, _, different⟩ := value
  cases different

theorem fitsInt_of_whole? {negative : Bool} {n : Nat} {k : Int} (small : n < 18446744073709551616)
    (value : Numeral.whole? negative n = some (.int k)) : Number.fitsInt k = true := by
  rw [Numeral.whole?] at value
  split at value
  · cases value
    simp only [Number.fitsInt, Bool.and_eq_true, decide_eq_true_eq]
    omega
  split at value
  · cases value
    simp only [Number.fitsInt, Bool.and_eq_true, decide_eq_true_eq]
    omega
  · exact absurd value double?_ne_int

theorem fitsInt_of_value? {numeral : Numeral} {k : Int} (value : numeral.value? = some (.int k)) :
    Number.fitsInt k = true := by
  have small := absorb_lt (n := 0) (by decide) numeral.whole
  rw [Numeral.value?] at value
  generalize absorb 0 numeral.whole = taken at small value
  obtain ⟨n, left⟩ := taken
  simp only at value
  split at value
  · exact fitsInt_of_whole? small value
  · split at value
    · exact absurd value double?_ne_int
    · split at value
      · split at value <;> cases value
      · exact absurd value double?_ne_int

theorem scalar_gives (input : List UInt8) :
    (scalar input).Gives fun v => v.depth = 0 ∧ v.isRegular = true := by
  have number : ∀ input, (readNumber input).Gives fun n => (Value.number n).isRegular = true := by
    intro input
    refine Read.Gives.any.next fun numeral rest _ => ?_
    split
    · rename_i n value
      refine .ok ?_
      cases n with
      | int k => exact fitsInt_of_value? value
      | double x => rfl
    · exact .error
  cases input with
  | nil => exact .error
  | cons b rest =>
    rw [scalar]
    split
    · exact Read.Gives.any.map fun s _ => ⟨rfl, rfl⟩
    split
    · exact (number _).map fun n regular => ⟨rfl, regular⟩
    split
    · exact Read.Gives.any.map fun _ _ => ⟨rfl, rfl⟩
    split
    · exact Read.Gives.any.map fun _ _ => ⟨rfl, rfl⟩
    split
    · exact Read.Gives.any.map fun _ _ => ⟨rfl, rfl⟩
    · exact .error

section

variable {element : List UInt8 → Read Value} {P : Value → Prop} (gives : ∀ input, (element input).Gives P)

include gives

theorem moreItems_gives (bound : Nat) (input : List UInt8) :
    (moreItems element bound input).Gives fun vs => ∀ v ∈ vs, P v := by
  induction bound generalizing input with
  | zero => exact .error
  | succ bound ih =>
    rw [moreItems]
    split
    · exact .error
    · rename_i b rest _
      split
      · exact .ok nofun
      split
      · exact (gives rest).next fun v rest holds => (ih rest).map fun vs all => List.forall_mem_cons.mpr ⟨holds, all⟩
      · exact .error

theorem items_gives (input : List UInt8) : (items element input).Gives fun vs => ∀ v ∈ vs, P v := by
  rw [items]
  cases skipSpace input with
  | nil => exact .error
  | cons b rest =>
    simp only
    split
    · exact .ok nofun
    · exact (gives _).next fun v rest holds =>
        (moreItems_gives gives _ rest).map fun vs all => List.forall_mem_cons.mpr ⟨holds, all⟩

theorem moreMembers_gives (bound : Nat) (input : List UInt8) :
    (moreMembers element bound input).Gives fun ms => ∀ m ∈ ms, P m.2 := by
  induction bound generalizing input with
  | zero => exact .error
  | succ bound ih =>
    rw [moreMembers]
    split
    · exact .error
    · rename_i b rest _
      split
      · exact .ok nofun
      split
      · exact Read.Gives.any.next fun name rest _ => (gives rest).next fun v rest holds =>
          (ih rest).map fun ms all => List.forall_mem_cons.mpr ⟨holds, all⟩
      · exact .error

end

/-- A property that is kept from the parts of a value to the value itself, at the depth that is left to read it. -/
structure Kept (embedded : List UInt8 → Option Value) (P : Nat → Value → Prop) : Prop where
  scalar : ∀ depth v, v.depth = 0 → v.isRegular = true → P depth v
  array : ∀ depth vs, (∀ v ∈ vs, P depth v) → P (depth + 1) (.array vs)
  object : ∀ depth ms, (∀ m ∈ ms, P depth m.2) → (∀ m ∈ ms.head?, m.1 ≠ embeddedName) →
    P (depth + 1) (.object (Members.ofList ms))
  document : ∀ depth octets v, embedded octets = some v → P (depth + 1) v

section

variable {embedded : List UInt8 → Option Value} {P : Nat → Value → Prop} (kept : Kept embedded P)

include kept

theorem members_gives {depth : Nat} (gives : ∀ input, (value embedded depth input).Gives (P depth))
    (input : List UInt8) : (members (value embedded depth) embedded input).Gives (P (depth + 1)) := by
  rw [members]
  cases skipSpace input with
  | nil => exact .error
  | cons b rest =>
    simp only
    split
    · exact .ok (kept.object depth [] nofun nofun)
    refine Read.Gives.any.next fun name rest _ => ?_
    split
    · refine Read.Gives.any.next fun spelled rest _ => ?_
      cases found : embedded (Text.Utf8.ofString spelled) with
      | none => exact .error
      | some v => exact Read.Gives.any.map fun _ _ => kept.document depth _ v found
    · rename_i free
      exact (gives rest).next fun v rest holds => (moreMembers_gives gives _ rest).map fun ms all =>
        kept.object depth ((name, v) :: ms) (List.forall_mem_cons.mpr ⟨holds, all⟩) (by simpa using free)

theorem value_gives (depth : Nat) (input : List UInt8) : (value embedded depth input).Gives (P depth) := by
  have single : ∀ depth input, (scalar input).Gives (P depth) := fun depth input v rest read =>
    have ⟨flat, regular⟩ := scalar_gives input v rest read
    kept.scalar depth v flat regular
  induction depth generalizing input with
  | zero => exact single 0 _
  | succ depth ih =>
    rw [value]
    split
    · exact .error
    split
    · exact (items_gives ih _).map (kept.array depth)
    split
    · exact members_gives kept ih _
    · exact single (depth + 1) _

end

theorem value_of_whole {embedded : List UInt8 → Option Value} {input : List UInt8} {v : Value}
    (read : whole embedded input = .ok v) : ∃ rest, value embedded depthLimit input = .ok (v, rest) := by
  rw [whole] at read
  split at read
  · cases read
  · rename_i v' rest first
    split at read
    · cases read
      exact ⟨rest, first⟩
    · cases read

theorem value_of_parse {input : List UInt8} {v : Value} (read : parse input = .ok v) :
    ∃ embedded rest, value embedded depthLimit input = .ok (v, rest) := by
  rw [parse] at read
  cases length : input.length with
  | zero =>
    rw [length] at read
    exact ⟨_, value_of_whole read⟩
  | succ levels =>
    rw [length] at read
    exact ⟨_, value_of_whole read⟩

/-- What every text is read as. Whole numbers are of 64 bits and members are in order throughout, and the
reserved name stands in no object alone, for an object that begins with it in the text is replaced by the
document that it embeds. -/
structure Value.Parsed (v : Value) : Prop where
  regular : v.every isRegular = true
  unwrapped : v.every isUnwrapped = true

/-- A member that is alone has the name of the first one in the text. -/
theorem isUnwrapped_ofList {ms : List (String × Value)} (free : ∀ m ∈ ms.head?, m.1 ≠ embeddedName) :
    (Value.object (Members.ofList ms)).isUnwrapped = true := by
  cases ms with
  | nil => rfl
  | cons m more =>
    have stays := Members.find?_ofList_isSome (List.mem_cons_self (a := m) (l := more))
    generalize Members.ofList (m :: more) = sorted at stays
    match sorted with
    | [] => rfl
    | [(name, w)] =>
      rw [Members.find?_cons] at stays
      split at stays
      · rename_i same
        exact decide_eq_true fun reserved => free m rfl (same.symm.trans reserved)
      · cases stays
    | _ :: _ :: _ => rfl

theorem kept_parsed {embedded : List UInt8 → Option Value}
    (documents : ∀ octets v, embedded octets = some v → v.Parsed) : Kept embedded fun _ v => v.Parsed where
  scalar _ v flat regular := by
    cases v with
    | array vs => exact absurd flat (Value.depth_array_pos vs).ne'
    | object ms => exact absurd flat (Value.depth_object_pos ms).ne'
    | _ => exact ⟨regular, rfl⟩
  array _ vs each := by
    refine ⟨Value.every_array.mpr ⟨rfl, fun v member => (each v member).regular⟩, ?_⟩
    exact Value.every_array.mpr ⟨rfl, fun v member => (each v member).unwrapped⟩
  object _ ms each free := by
    have inside := fun m member => each m (Members.mem_ofList member)
    refine ⟨Value.every_object.mpr ⟨decide_eq_true (Members.sorted_ofList ms), fun m member => ?_⟩,
      Value.every_object.mpr ⟨isUnwrapped_ofList free, fun m member => ?_⟩⟩
    · exact (inside m member).regular
    · exact (inside m member).unwrapped
  document _ octets v found := documents octets v found

theorem parsed_of_documentWithin {levels : Nat} {input : List UInt8} {v : Value}
    (read : documentWithin levels input = .ok v) : v.Parsed := by
  induction levels generalizing input v with
  | zero =>
    obtain ⟨rest, first⟩ := value_of_whole read
    exact value_gives (kept_parsed fun _ _ found => by cases found) _ _ v rest first
  | succ levels ih =>
    obtain ⟨rest, first⟩ := value_of_whole read
    refine value_gives (kept_parsed fun octets w found => ?_) _ _ v rest first
    cases inner : documentWithin levels octets with
    | error fault => simp [inner, Except.toOption] at found
    | ok w' =>
      simp only [inner, Except.toOption, Option.some.injEq] at found
      exact found ▸ ih inner

theorem parsed_of_parse {input : List UInt8} {v : Value} (read : parse input = .ok v) : v.Parsed :=
  parsed_of_documentWithin read

/-- The text is read alike whether or not documents may be embedded in it: it embeds none. -/
def EmbedsNone (octets : List UInt8) : Prop := whole (fun _ => none) octets = parse octets

/-- A text that embeds no documents is read as a value of its own depth. -/
theorem EmbedsNone.depth_le {octets : List UInt8} (none : EmbedsNone octets) {v : Value}
    (read : parse octets = .ok v) : v.depth ≤ depthLimit := by
  have kept : Kept (fun _ => .none) fun depth v => v.depth ≤ depth :=
    { scalar := fun _ v flat _ => flat ▸ Nat.zero_le _
      array := fun _ vs each => Value.depth_array_le.mpr each
      object := fun _ ms each _ => Value.depth_object_le.mpr fun m member => each m (Members.mem_ofList member)
      document := nofun }
  obtain ⟨rest, first⟩ := value_of_whole (none.trans read)
  exact value_gives kept _ _ v rest first

end Scrimmage.Json
