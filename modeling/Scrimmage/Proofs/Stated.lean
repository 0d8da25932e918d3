import Mathlib
import Scrimmage.Message.Decode
import Scrimmage.Proofs.Grammar
import Scrimmage.Proofs.Notices

namespace Scrimmage

open Json

namespace Json

theorem readMember?_eq_ok_iff {α : Type} {ms : List (String × Value)} {name : String} {read : Value → Reading α}
    {o : Option α} : readMember? ms name read = .ok o ↔
      (Members.find? name ms = none ∧ o = none) ∨
        ∃ v a, Members.find? name ms = some v ∧ read v = .ok a ∧ o = some a := by
  rw [readMember?]
  cases Members.find? name ms with
  | none => simp [eq_comm]
  | some v =>
    cases content : read v with
    | error mismatch => simp [content, Except.map]
    | ok a => simp [content, Except.map, eq_comm]

theorem required_eq_ok_iff {α : Type} {name : String} {o : Option α} {a : α} :
    required name o = .ok a ↔ o = some a := by
  cases o <;> simp [required]

theorem readString_eq_ok_iff {v : Value} {s : String} : v.readString = .ok s ↔ v = .string s := by
  cases v <;> simp [Value.readString]

/-- A member that may be left out, given as it is or by null. -/
inductive Optionally : Option Value → Option Value → Prop
  | absent : Optionally none none
  | null : Optionally (some .null) none
  | given {v : Value} (other : v ≠ .null) (unreserved : v.every Value.isUnreserved = true) :
      Optionally (some v) (some v)

/-- An optional member is passed through, unless the reserved name is in front of other members in it. -/
theorem readMember?_readOptional_iff {ms : List (String × Value)} {name : String} {o : Option Value}
    (unwrapped : ∀ m ∈ ms, m.2.every Value.isUnwrapped = true) :
    (∃ p, readMember? ms name Value.readOptional = .ok p ∧ p.join = o) ↔
      Optionally (Members.find? name ms) o := by
  simp only [readMember?_eq_ok_iff]
  constructor
  · rintro ⟨p, ⟨absent, rfl⟩ | ⟨v, a, found, read, rfl⟩, rfl⟩
    · exact absent ▸ .absent
    · rw [found]
      by_cases null : v = .null
      · subst null
        cases read
        exact .null
      · rw [Value.readOptional_of_ne null] at read
        obtain ⟨w, passed, rfl⟩ := Text.Utf8.map_eq_ok read
        have unreserved := Value.unreserved_of_readAny (unwrapped _ (Members.mem_of_find? found)) passed
        cases (Value.readAny_eq_self unreserved).symm.trans passed
        exact .given null unreserved
  · intro optionally
    generalize found : Members.find? name ms = given at optionally
    cases optionally with
    | absent => exact ⟨none, .inl ⟨rfl, rfl⟩, rfl⟩
    | null => exact ⟨some none, .inr ⟨_, _, rfl, rfl, rfl⟩, rfl⟩
    | @given v other unreserved =>
      refine ⟨some (some v), .inr ⟨v, some v, rfl, ?_, rfl⟩, rfl⟩
      rw [Value.readOptional_of_ne other, Value.readAny_eq_self unreserved]
      rfl

end Json

namespace TeamWish

/-- The value names the wish: by its name, or as an object whose only member has that name and no content. -/
inductive Named (w : TeamWish) : Value → Prop
  | plain : Named w (.string w.name)
  | null : Named w (.object [(w.name, .null)])
  | empty : Named w (.object [(w.name, .object [])])

theorem readName_eq_ok_iff {name : String} {w : TeamWish} : readName names name = .ok w ↔ name = w.name := by
  constructor
  · intro read
    rw [readName] at read
    split at read
    · rename_i known w' found
      cases read
      have same : known = name := by simpa using List.find?_some found
      have member := List.mem_of_find?_eq_some found
      simp only [names, List.mem_cons, Prod.mk.injEq, List.not_mem_nil, or_false] at member
      rcases member with ⟨rfl, rfl⟩ | ⟨rfl, rfl⟩ | ⟨rfl, rfl⟩ <;> exact same.symm
    · cases read
  · rintro rfl
    cases w <;> rfl

theorem readInMessage_eq_ok_iff {v : Value} {w : TeamWish} : readInMessage v = .ok w ↔ Named w v := by
  constructor
  · intro read
    rw [readInMessage, readChoice.eq_def] at read
    split at read
    · rw [readName_eq_ok_iff] at read
      exact read ▸ .plain
    · rename_i name content
      cases known : readName names name with
      | error mismatch =>
        rw [known] at read
        cases read
      | ok a =>
        rw [known] at read
        rw [readName_eq_ok_iff] at known
        subst known
        simp only [Except.bind] at read
        split at read
        · cases read
          exact .null
        · cases read
          exact .empty
        · cases read
    · cases read
    · cases read
  · have known : readName names w.name = .ok w := readName_eq_ok_iff.mpr rfl
    rintro ⟨⟩ <;> simp [readInMessage, readChoice, known, Except.bind]

/-- A member that may be left out and then states nothing. -/
inductive Wished : Option Value → TeamWish → Prop
  | unstated : Wished none .unstated
  | stated {v : Value} {w : TeamWish} (named : Named w v) : Wished (some v) w

theorem readMember?_readInMessage_iff {ms : List (String × Value)} {name : String} {w : TeamWish} :
    (∃ o, readMember? ms name readInMessage = .ok o ∧ o.getD .unstated = w) ↔
      Wished (Members.find? name ms) w := by
  simp only [readMember?_eq_ok_iff, readInMessage_eq_ok_iff]
  constructor
  · rintro ⟨o, ⟨absent, rfl⟩ | ⟨v, a, found, named, rfl⟩, rfl⟩
    · exact absent ▸ .unstated
    · exact found ▸ .stated named
  · intro wished
    generalize found : Members.find? name ms = given at wished
    cases wished with
    | unstated => exact ⟨none, .inl ⟨rfl, rfl⟩, rfl⟩
    | stated named => exact ⟨_, .inr ⟨_, _, rfl, named, rfl⟩, rfl⟩

end TeamWish

namespace JoinRequest

/-- The members of an object state the request. The members that belong to a request are looked up by their
names, and what else the object has is not looked at; this is all that is asked for a request to be read. -/
structure Stated (ms : List (String × Value)) (q : JoinRequest) : Prop where
  game : Members.find? "game" ms = some (.string q.game)
  nick : Members.find? "nick" ms = some (.string q.nick)
  team : TeamWish.Wished (Members.find? "team" ms) q.team
  id : Optionally (Members.find? "id" ms) q.id

/-- What an object that was read off a text states is what is read of it. -/
theorem ofMembers_eq_ok_iff {ms : List (String × Value)} {q : JoinRequest}
    (unwrapped : ∀ m ∈ ms, m.2.every Value.isUnwrapped = true) : ofMembers ms = .ok q ↔ Stated ms q := by
  have text : ∀ {name s}, readMember? ms name Value.readString = .ok (some s) ↔
      Members.find? name ms = some (.string s) := by
    intro name s
    simp [readMember?_eq_ok_iff, readString_eq_ok_iff]
  constructor
  · intro read
    rw [ofMembers] at read
    obtain ⟨game, gameRead, read⟩ := Notice.bind_eq_ok read
    obtain ⟨id, idRead, read⟩ := Notice.bind_eq_ok read
    obtain ⟨nick, nickRead, read⟩ := Notice.bind_eq_ok read
    obtain ⟨team, teamRead, read⟩ := Notice.bind_eq_ok read
    obtain ⟨game', gameThere, read⟩ := Notice.bind_eq_ok read
    obtain ⟨nick', nickThere, read⟩ := Notice.bind_eq_ok read
    cases read
    rw [required_eq_ok_iff.mp gameThere] at gameRead
    rw [required_eq_ok_iff.mp nickThere] at nickRead
    exact ⟨text.mp gameRead, text.mp nickRead, TeamWish.readMember?_readInMessage_iff.mp ⟨team, teamRead, rfl⟩,
      (readMember?_readOptional_iff unwrapped).mp ⟨id, idRead, rfl⟩⟩
  · rintro ⟨game, nick, team, id⟩
    obtain ⟨team', teamRead, team⟩ := TeamWish.readMember?_readInMessage_iff.mpr team
    obtain ⟨id', idRead, id⟩ := (readMember?_readOptional_iff unwrapped).mpr id
    rw [ofMembers, text.mpr game, idRead, text.mpr nick, teamRead]
    simp only [bind, Except.bind, pure, Except.pure, required, id, team]

theorem ofMembers_congr {ms ms' : List (String × Value)}
    (same : ∀ name ∈ ["game", "id", "nick", "team"], Members.find? name ms = Members.find? name ms') :
    ofMembers ms = ofMembers ms' := by
  simp only [List.forall_mem_cons] at same
  obtain ⟨game, id, nick, team, _⟩ := same
  simp only [ofMembers, readMember?, game, id, nick, team]

/-- The octets spell an object of this type. -/
def Typed (payload : List UInt8) (type : String) (ms : List (String × Value)) : Prop :=
  Document payload (.object ms) ∧ Members.find? "type" ms = some (.string type)

theorem Typed.parsed {payload : List UInt8} {type : String} {ms : List (String × Value)}
    (typed : Typed payload type ms) : Json.parse payload = .ok (.object ms) :=
  parse_eq_ok_iff.mpr typed.1

theorem Typed.unwrapped {payload : List UInt8} {type : String} {ms : List (String × Value)}
    (typed : Typed payload type ms) : ∀ m ∈ ms, m.2.every Value.isUnwrapped = true :=
  (Value.every_object.mp (parsed_of_parse typed.parsed).unwrapped).2

theorem type_eq_some_iff {v : Value} {type : String} : (v.member? "type").bind Value.string? = some type ↔
    ∃ ms, v = .object ms ∧ Members.find? "type" ms = some (.string type) := by
  constructor
  · intro found
    obtain ⟨w, member, text⟩ := Option.bind_eq_some_iff.mp found
    have same : w = .string type := by cases w <;> cases text; rfl
    subst same
    cases v with
    | object ms => exact ⟨ms, rfl, member⟩
    | _ => cases member
  · rintro ⟨ms, rfl, member⟩
    rw [Value.member?, member]
    rfl

theorem decode_of_unread {payload : List UInt8} {fault : Fault} (unread : Json.parse payload = .error fault) :
    decode payload = .error (.malformedJson fault) := by
  rw [decode, unread]

theorem decode_of_untyped {payload : List UInt8} {v : Value} (document : Document payload v)
    (untyped : ∀ ms type, v = .object ms → Members.find? "type" ms ≠ some (.string type)) :
    decode payload = .error .missingType := by
  have none : (v.member? "type").bind Value.string? = none := by
    rw [Option.eq_none_iff_forall_ne_some]
    intro type found
    obtain ⟨ms, object, typed⟩ := type_eq_some_iff.mp found
    exact untyped ms type object typed
  rw [decode, parse_eq_ok_iff.mpr document]
  simp only [none]

theorem decode_of_unidentified {payload : List UInt8} {type : String} {ms : List (String × Value)}
    (typed : Typed payload type ms) (other : type ≠ messageType) :
    decode payload = .error (.unidentifiedType type) := by
  rw [decode, typed.parsed]
  simp only [type_eq_some_iff.mpr ⟨ms, rfl, typed.2⟩, if_neg other]

theorem decode_of_typed {payload : List UInt8} {ms : List (String × Value)} (typed : Typed payload messageType ms) :
    decode payload = (ofMembers ms).mapError (.invalidFields messageType) := by
  rw [decode, typed.parsed]
  simp only [Value.member?, typed.2, Option.bind_some, Value.string?, if_true]

/-- What is read of a request is what it states, and if it states nothing that is said. -/
theorem decode_of_stated {payload : List UInt8} {ms : List (String × Value)} {q : JoinRequest}
    (typed : Typed payload messageType ms) (stated : Stated ms q) : decode payload = .ok q := by
  rw [decode_of_typed typed, (ofMembers_eq_ok_iff typed.unwrapped).mpr stated]
  rfl

theorem decode_of_unstated {payload : List UInt8} {ms : List (String × Value)} (typed : Typed payload messageType ms)
    (unstated : ∀ q, ¬Stated ms q) : ∃ mismatch, decode payload = .error (.invalidFields messageType mismatch) := by
  rw [decode_of_typed typed]
  cases read : ofMembers ms with
  | error mismatch => exact ⟨mismatch, rfl⟩
  | ok q => exact absurd ((ofMembers_eq_ok_iff typed.unwrapped).mp read) (unstated q)

/-- What reading a frame comes to, and why: each outcome stands with what the frame spells. It is proved once of
the reader, and each outcome is told by it. -/
inductive Reads (payload : List UInt8) : Except DecodeError JoinRequest → Prop
  | malformed {fault : Fault} (unread : ∀ v, ¬Document payload v) :
      Reads payload (.error (.malformedJson fault))
  | untyped {v : Value} (document : Document payload v)
      (untyped : ∀ ms type, v = .object ms → Members.find? "type" ms ≠ some (.string type)) :
      Reads payload (.error .missingType)
  | unidentified {type : String} {ms : List (String × Value)} (typed : Typed payload type ms)
      (other : type ≠ messageType) : Reads payload (.error (.unidentifiedType type))
  | invalid {ms : List (String × Value)} {mismatch : Mismatch} (typed : Typed payload messageType ms)
      (unstated : ∀ q, ¬Stated ms q) : Reads payload (.error (.invalidFields messageType mismatch))
  | accepted {ms : List (String × Value)} {q : JoinRequest} (typed : Typed payload messageType ms)
      (stated : Stated ms q) : Reads payload (.ok q)

theorem reads_decode (payload : List UInt8) : Reads payload (decode payload) := by
  cases parsed : Json.parse payload with
  | error fault =>
    refine decode_of_unread parsed ▸ .malformed fun v document => ?_
    cases (parse_eq_ok_iff.mpr document).symm.trans parsed
  | ok v =>
    by_cases told : ∃ ms type, v = .object ms ∧ Members.find? "type" ms = some (.string type)
    · obtain ⟨ms, type, rfl, found⟩ := told
      have typed : Typed payload type ms := ⟨parse_eq_ok_iff.mp parsed, found⟩
      by_cases same : type = messageType
      · subst same
        by_cases stated : ∃ q, Stated ms q
        · obtain ⟨q, stated⟩ := stated
          exact decode_of_stated typed stated ▸ .accepted typed stated
        · have unstated := not_exists.mp stated
          obtain ⟨mismatch, refused⟩ := decode_of_unstated typed unstated
          exact refused ▸ .invalid typed unstated
      · exact decode_of_unidentified typed same ▸ .unidentified typed same
    · have untyped := fun ms type object found => told ⟨ms, type, object, found⟩
      have document := parse_eq_ok_iff.mp parsed
      exact decode_of_untyped document untyped ▸ .untyped document untyped

theorem decode_congr {payload payload' : List UInt8} {ms ms' : List (String × Value)}
    (document : Document payload (.object ms)) (document' : Document payload' (.object ms'))
    (same : ∀ name ∈ ["type", "game", "id", "nick", "team"], Members.find? name ms = Members.find? name ms') :
    decode payload = decode payload' := by
  obtain ⟨type, fields⟩ := List.forall_mem_cons.mp same
  rw [decode, decode, parse_eq_ok_iff.mpr document, parse_eq_ok_iff.mpr document']
  simp only [Value.member?, type, ofMembers_congr fields]

theorem decode_eq_ok_iff {payload : List UInt8} {q : JoinRequest} :
    decode payload = .ok q ↔ ∃ ms, Typed payload messageType ms ∧ Stated ms q := by
  constructor
  · intro decoded
    have reads := reads_decode payload
    rw [decoded] at reads
    cases reads with
    | accepted typed stated => exact ⟨_, typed, stated⟩
  · rintro ⟨ms, typed, stated⟩
    exact decode_of_stated typed stated

end JoinRequest

end Scrimmage
