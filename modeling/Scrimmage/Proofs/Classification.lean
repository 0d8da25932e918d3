import Mathlib
import Scrimmage.Proofs.Reading
import Scrimmage.Proofs.Stated

namespace Scrimmage

open Json Text

namespace JoinRequest

/-- Each outcome of reading a frame is told by what the frame spells. The type is looked up first, whatever else
the frame spells, and the fields only once it is the type of a request; so there are four ways to fail, and what
each of them says about the frame holds of no frame that fails in another way. -/
structure Classified (payload : List UInt8) : Prop where
  malformed : (∃ fault, decode payload = .error (.malformedJson fault)) ↔ ∀ v, ¬Document payload v
  untext : ¬IsText payload → ∃ fault, decode payload = .error (.malformedJson fault)
  single : ∀ v v', Document payload v → Document payload v' → v = v'
  untyped : decode payload = .error .missingType ↔ ∃ v, Document payload v ∧
    ∀ ms type, v = .object ms → Members.find? "type" ms ≠ some (.string type)
  unidentified : ∀ type, decode payload = .error (.unidentifiedType type) ↔
    type ≠ "join" ∧ ∃ ms, Typed payload type ms
  invalid : (∃ mismatch, decode payload = .error (.invalidFields "join" mismatch)) ↔
    ∃ ms, Typed payload "join" ms ∧ ∀ q, ¬Stated ms q
  accepted : ∀ q, decode payload = .ok q ↔ ∃ ms, Typed payload "join" ms ∧ Stated ms q
  exhausted : (∃ q, decode payload = .ok q) ∨ (∃ fault, decode payload = .error (.malformedJson fault)) ∨
    decode payload = .error .missingType ∨ (∃ type, decode payload = .error (.unidentifiedType type)) ∨
    ∃ mismatch, decode payload = .error (.invalidFields "join" mismatch)
  others : ∀ payload' ms ms', Document payload (.object ms) → Document payload' (.object ms') →
    (∀ name ∈ ["type", "game", "id", "nick", "team"], Members.find? name ms = Members.find? name ms') →
    decode payload = decode payload'

/-- Every sequence of octets is classified, and by the grammar of JSON texts and of requests alone: reading
succeeds with a request exactly if one is stated, and each refusal says what is missing. -/
theorem classified (payload : List UInt8) : Classified payload := by
  have reads := reads_decode payload
  have unread : (∃ fault, decode payload = .error (.malformedJson fault)) ↔ ∀ v, ¬Document payload v := by
    generalize decode payload = outcome at reads
    cases reads with
    | malformed unread => exact ⟨fun _ => unread, fun _ => ⟨_, rfl⟩⟩
    | untyped document => exact ⟨nofun, fun unread => absurd document (unread _)⟩
    | unidentified typed => exact ⟨nofun, fun unread => absurd typed.1 (unread _)⟩
    | invalid typed => exact ⟨nofun, fun unread => absurd typed.1 (unread _)⟩
    | accepted typed => exact ⟨nofun, fun unread => absurd typed.1 (unread _)⟩
  constructor
  · exact unread
  · exact fun untext => unread.mpr fun v document => untext (isText_of_parse (parse_eq_ok_iff.mpr document))
  · exact fun v v' document document' => document.unique document'
  · constructor
    · intro failed
      rw [failed] at reads
      cases reads with
      | untyped document untyped => exact ⟨_, document, untyped⟩
    · rintro ⟨v, document, untyped⟩
      exact decode_of_untyped document untyped
  · intro type
    constructor
    · intro failed
      rw [failed] at reads
      cases reads with
      | unidentified typed other => exact ⟨other, _, typed⟩
    · rintro ⟨other, ms, typed⟩
      exact decode_of_unidentified typed other
  · constructor
    · rintro ⟨mismatch, failed⟩
      rw [failed] at reads
      generalize same : "join" = type at reads
      cases reads with
      | invalid typed unstated => exact ⟨_, typed, unstated⟩
    · rintro ⟨ms, typed, unstated⟩
      exact decode_of_unstated typed unstated
  · exact fun q => decode_eq_ok_iff
  · generalize decode payload = outcome at reads
    cases reads with
    | malformed => exact .inr (.inl ⟨_, rfl⟩)
    | untyped => exact .inr (.inr (.inl rfl))
    | unidentified => exact .inr (.inr (.inr (.inl ⟨_, rfl⟩)))
    | invalid => exact .inr (.inr (.inr (.inr ⟨_, rfl⟩)))
    | accepted => exact .inl ⟨_, rfl⟩
  · exact fun payload' ms ms' => decode_congr

/-- A team is named by a member with nothing in an object as well, not only by one with null. An id that has the
reserved name in it is refused, although nothing is asked of an id, once the members are in order and the name is in
front; and an object with the name in front is unread unless a string is behind it. -/
theorem read_otherwise :
    (let team := Value.object [("random", .object [])]
     let ms := [("game", .string "g"), ("nick", .string "n"), ("team", team), ("type", .string "join")]
     let payload := Json.write (.object ms)
     (Typed payload "join" ms ∧ Members.find? "team" ms = some team) ∧
       (∀ name, team ≠ .string name ∧ team ≠ .object [(name, .null)]) ∧
       decode payload = .ok ⟨none, "g", "n", .random⟩) ∧
    (let payload := writeFields [("type", writeString "join"), ("game", writeString "g"), ("nick", writeString "n"),
       ("id", writeFields [("a", writeInt 1), (embeddedName, Json.write .null)])]
     ∃ ms, (Typed payload "join" ms ∧ Members.find? "game" ms = some (.string "g") ∧
       Members.find? "nick" ms = some (.string "n") ∧ Members.find? "team" ms = none) ∧
       ∀ q, decode payload ≠ .ok q) ∧
    ∃ fault, decode (Json.write (.object [(embeddedName, .number (.int 5))])) = .error (.malformedJson fault) := by
  refine ⟨?_, ?_, .malformed, decode_of_unread ?_⟩
  · intro team ms payload
    have typed : Typed payload "join" ms := ⟨document_write (by decide) (by decide) (by decide) (by decide), rfl⟩
    have stated : Stated ms ⟨none, "g", "n", .random⟩ := ⟨rfl, rfl, .stated .empty, .absent⟩
    exact ⟨⟨typed, rfl⟩, fun name => ⟨nofun, by simp [team]⟩, decode_of_stated typed stated⟩
  · intro payload
    let parts := [("a", Value.number (.int 1)), (embeddedName, .null)]
    let ms := Members.ofList [("type", .string "join"), ("game", .string "g"), ("nick", .string "n"),
      ("id", .object (Members.ofList parts))]
    have typed : Typed payload "join" ms := by
      refine ⟨document_of_spells fun _ => ?_, rfl⟩
      refine spells_object (.cons ⟨rfl, spells_string ..⟩ (.cons ⟨rfl, spells_string ..⟩
        (.cons ⟨rfl, spells_string ..⟩ (.cons ⟨rfl, ?_⟩ .nil)))) (by simp [embeddedName])
      have one : Number.fitsInt 1 = true := by decide
      exact spells_object (.cons ⟨rfl, spells_int _ _ one⟩ (.cons ⟨rfl, spells_null ..⟩ .nil))
        (by simp [parts, embeddedName])
    refine ⟨ms, ⟨typed, rfl, rfl, rfl⟩, fun q decoded => ?_⟩
    obtain ⟨ms', typed', stated⟩ := decode_eq_ok_iff.mp decoded
    cases typed.1.unique typed'.1
    have optionally : Optionally (some (.object (Members.ofList parts))) q.id := stated.id
    generalize same : Value.object (Members.ofList parts) = id, q.id = read at optionally
    cases optionally with
    | null => cases same
    | given _ unreserved => exact absurd (same ▸ unreserved) (by decide)
  · rw [write_object, parse, List.map_cons, writeFields_cons, List.length_cons, documentWithin, whole, depthLimit,
      value_object, members_named, if_pos rfl]
    rfl

end JoinRequest

end Scrimmage
