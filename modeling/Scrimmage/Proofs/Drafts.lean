import Mathlib
import Scrimmage.Proofs.Stated

namespace Scrimmage

open Json

namespace JoinRequest

/-- The fields that a request is written as. -/
def fields (q : JoinRequest) : List (String × Value) :=
  ("type", .string messageType) :: ((q.id.map fun id => ("id", id)).toList ++
    [("game", .string q.game), ("nick", .string q.nick), ("team", .string q.team.name)])

theorem spells (embedded : List UInt8 → Option Value) (q : JoinRequest)
    (id : ∀ id ∈ q.id, Spells (value embedded 126) (Json.write id) id) :
    Spells (value embedded depthLimit) q.write (.object (Members.ofList q.fields)) := by
  have free : ∀ f ∈ q.fields.head?, f.1 ≠ embeddedName := by simp [fields, embeddedName]
  have asked : List.Forall₂ (Member (value embedded 126))
      [("game", writeString q.game), ("nick", writeString q.nick), ("team", writeString q.team.name)]
      [("game", .string q.game), ("nick", .string q.nick), ("team", .string q.team.name)] :=
    .cons ⟨rfl, spells_string ..⟩ (.cons ⟨rfl, spells_string ..⟩ (.cons ⟨rfl, spells_string ..⟩ .nil))
  have type : Member (value embedded 126) ("type", writeString messageType) ("type", .string messageType) :=
    ⟨rfl, spells_string ..⟩
  obtain ⟨id', game, nick, team⟩ := q
  cases id' with
  | none => exact spells_object (.cons type asked) free
  | some id' => exact spells_object (.cons type (.cons ⟨rfl, id id' rfl⟩ asked)) free

/-- What an id says: one that is null says nothing. -/
def said : Option Value → Option Value
  | some .null => none
  | id => id

theorem said_eq_self {id : Option Value} (other : ∀ v ∈ id, v ≠ .null) : said id = id := by
  match id with
  | none => rfl
  | some v =>
    cases v with
    | null => exact absurd rfl (other _ rfl)
    | _ => rfl

theorem optionally_said {id : Option Value} (unreserved : ∀ v ∈ id, v.every Value.isUnreserved = true) :
    Optionally id (said id) := by
  match id with
  | none => exact .absent
  | some v =>
    by_cases null : v = .null
    · subst null
      exact .null
    · rw [said_eq_self (by rintro _ ⟨⟩; exact null)]
      exact .given null (unreserved v rfl)

theorem fields_different (q : JoinRequest) : (q.fields.map (·.1)).Nodup := by
  cases id : q.id <;> simp [fields, id]

theorem stated_fields {q : JoinRequest} (unreserved : ∀ v ∈ q.id, v.every Value.isUnreserved = true) :
    Stated (Members.ofList q.fields) { q with id := said q.id } := by
  have optionally := optionally_said unreserved
  have found := Members.find?_ofList_eq q.fields_different
  obtain ⟨id, game, nick, team⟩ := q
  have listed : Members.find? "game" (fields ⟨id, game, nick, team⟩) = some (.string game) ∧
      Members.find? "nick" (fields ⟨id, game, nick, team⟩) = some (.string nick) ∧
      Members.find? "team" (fields ⟨id, game, nick, team⟩) = some (.string team.name) ∧
      Members.find? "id" (fields ⟨id, game, nick, team⟩) = id := by
    cases id <;> simp [fields, Members.find?]
  obtain ⟨game', nick', team', id'⟩ := listed
  refine ⟨(found _).trans game', (found _).trans nick', ?_, ?_⟩
  · rw [found, team']
    exact .stated .plain
  · rw [found, id']
    exact optionally

theorem type_fields (q : JoinRequest) :
    Members.find? "type" (Members.ofList q.fields) = some (.string messageType) := by
  rw [Members.find?_ofList_eq q.fields_different, fields, Members.find?_cons, if_pos rfl]

/-- A request that is written is read as the same, but for an id that is null. -/
theorem decode_write {q : JoinRequest} (carried : ∀ id ∈ q.id, Notice.Carried id) :
    decode q.write = .ok { q with id := said q.id } := by
  refine decode_eq_ok_iff.mpr ⟨_, ⟨document_of_spells fun levels => q.spells _ fun id member => ?_, q.type_fields⟩,
    stated_fields fun id member => (carried id member).unreserved⟩
  obtain ⟨regular, pointFree, unreserved, shallow⟩ := carried id member
  exact spells_write _ regular pointFree unreserved shallow

theorem id_of_decode {payload : List UInt8} {q : JoinRequest} (decoded : decode payload = .ok q) {id : Value}
    (member : id ∈ q.id) :
    id ≠ .null ∧ id.every Value.isRegular = true ∧ id.every Value.isUnreserved = true ∧
      (EmbedsNone payload → id.depth ≤ 126) := by
  obtain ⟨ms, typed, stated⟩ := decode_eq_ok_iff.mp decoded
  have optionally := stated.id
  rw [member] at optionally
  generalize found : Members.find? "id" ms = given at optionally
  cases optionally with
  | given other unreserved =>
    have inside := Members.mem_of_find? found
    have regular := (Value.every_object.mp (parsed_of_parse typed.parsed).regular).2 _ inside
    exact ⟨other, regular, unreserved, fun none => Value.depth_object_le.mp (none.depth_le typed.parsed) _ inside⟩

end JoinRequest

namespace JoinDraft

/-- The members of a draft in the order in which they are put together. -/
def entries (d : JoinDraft) : List (String × Value) :=
  [("type", .string JoinRequest.messageType), ("game", .string d.game), ("nick", .string d.nick)] ++
    (d.id.map fun id => ("id", id)).toList ++ (d.team.map fun team => ("team", .string team)).toList

/-- The request that a draft with this wish is read as. -/
def asking (d : JoinDraft) (team : TeamWish) : JoinRequest := ⟨JoinRequest.said d.id, d.game, d.nick, team⟩

theorem find?_members (d : JoinDraft) (name : String) :
    Members.find? name d.members = Members.find? name d.entries := by
  refine Members.find?_ofList_eq ?_ name
  cases d.id <;> cases d.team <;> simp

theorem mem_members {d : JoinDraft} {m : String × Value} (member : m ∈ d.members) :
    m.1 ≠ embeddedName ∧ ((∃ s, m.2 = .string s) ∨ m.2 ∈ d.id) := by
  have listed : m ∈ d.entries := Members.mem_ofList member
  simp only [entries, List.mem_append, List.mem_cons, List.not_mem_nil, or_false, Option.mem_toList,
    Option.map_eq_some_iff] at listed
  rcases listed with ((rfl | rfl | rfl) | ⟨id, same, rfl⟩) | ⟨team, same, rfl⟩
  · exact ⟨by simp [embeddedName], .inl ⟨_, rfl⟩⟩
  · exact ⟨by simp [embeddedName], .inl ⟨_, rfl⟩⟩
  · exact ⟨by simp [embeddedName], .inl ⟨_, rfl⟩⟩
  · exact ⟨by simp [embeddedName], .inr same⟩
  · exact ⟨by simp [embeddedName], .inl ⟨_, rfl⟩⟩

theorem typed_write {d : JoinDraft} (carried : ∀ id ∈ d.id, Notice.Carried id) :
    JoinRequest.Typed d.write JoinRequest.messageType d.members := by
  have inside : ∀ {test : Value → Bool}, (∀ s, test (.string s) = true) → (∀ id ∈ d.id, id.every test = true) →
      ∀ m ∈ d.members, m.2.every test = true := by
    intro test texts ids m member
    obtain ⟨_, ⟨s, text⟩ | same⟩ := mem_members member
    · rw [text]
      exact texts s
    · exact ids _ same
  refine ⟨document_write (Value.every_object.mpr ⟨?_, ?_⟩) (Value.every_object.mpr ⟨rfl, ?_⟩)
    (Value.every_object.mpr ⟨?_, ?_⟩) (Value.depth_object_le.mpr fun m member => ?_), ?_⟩
  · exact decide_eq_true (Members.sorted_ofList _)
  · exact inside (fun _ => rfl) fun id member => (carried id member).regular
  · exact inside (fun _ => rfl) fun id member => (carried id member).pointFree
  · cases sorted : d.members with
    | nil => rfl
    | cons m ms => exact decide_eq_true (mem_members (sorted ▸ List.mem_cons_self)).1
  · exact inside (fun _ => rfl) fun id member => (carried id member).unreserved
  · obtain ⟨_, ⟨s, text⟩ | same⟩ := mem_members member
    · rw [text]
      exact Nat.zero_le _
    · exact (carried _ same).shallow
  · rw [find?_members]
    rfl

/-- What a draft puts under the names that a request is read by. A draft is written as an object with its
members in order of their names, and the reader finds by name what was put there. -/
structure Entered (d : JoinDraft) (ms : List (String × Value)) : Prop where
  game : Members.find? "game" ms = some (.string d.game)
  nick : Members.find? "nick" ms = some (.string d.nick)
  team : Members.find? "team" ms = d.team.map .string
  id : Members.find? "id" ms = d.id

theorem entered_members (d : JoinDraft) : d.Entered d.members := by
  obtain ⟨game, nick, id, team⟩ := d
  refine ⟨(find?_members ..).trans rfl, (find?_members ..).trans rfl, (find?_members ..).trans ?_,
    (find?_members ..).trans ?_⟩
  all_goals cases id <;> cases team <;> simp [entries, Members.find?]

theorem optionally_id {d : JoinDraft} (carried : ∀ id ∈ d.id, Notice.Carried id) :
    Optionally (Members.find? "id" d.members) (JoinRequest.said d.id) := by
  rw [d.entered_members.id]
  exact JoinRequest.optionally_said fun id member => (carried id member).unreserved

theorem decode_write_of_wished {d : JoinDraft} (carried : ∀ id ∈ d.id, Notice.Carried id) {w : TeamWish}
    (wished : TeamWish.Wished (d.team.map .string) w) : JoinRequest.decode d.write = .ok (d.asking w) := by
  obtain ⟨game, nick, team, id⟩ := d.entered_members
  exact JoinRequest.decode_eq_ok_iff.mpr
    ⟨_, typed_write carried, game, nick, team.symm ▸ wished, optionally_id carried⟩

/-- A draft for a team that does not exist is read up to the team. -/
theorem decode_write_of_unknown {d : JoinDraft} (carried : ∀ id ∈ d.id, Notice.Carried id) {team : String}
    (chosen : d.team = some team) (unknown : ∀ w : TeamWish, team ≠ w.name) :
    JoinRequest.decode d.write =
      .error (.invalidFields "join" (.unknownVariant team (TeamWish.names.map (·.1)))) := by
  have typed := typed_write carried
  obtain ⟨game, nick, team', _⟩ := d.entered_members
  obtain ⟨id, idRead, _⟩ := (readMember?_readOptional_iff typed.unwrapped).mpr
    (optionally_id carried)
  have refused : TeamWish.readInMessage (.string team) =
      .error (.unknownVariant team (TeamWish.names.map (·.1))) := by
    have different := fun w => (unknown w).symm
    have none : TeamWish.names.find? (·.1 = team) = none := by
      simp only [TeamWish.names, List.find?_eq_none, List.forall_mem_cons, decide_eq_true_eq]
      exact ⟨different .first, different .second, different .random, List.forall_mem_nil _⟩
    rw [TeamWish.readInMessage, readChoice, readName, none]
  rw [JoinRequest.decode_of_typed typed, JoinRequest.ofMembers, idRead]
  simp only [readMember?, game, nick, team', chosen, Option.map_some, Value.readString, refused]
  rfl

end JoinDraft

namespace JoinRequest

/-- Requests come back: one whose id, if there is one, is carried as it is comes back as it is, and so does what was
read from any text; nothing is read with an id that is null or has the reserved name in front. A draft is read as
what was put into it, a null for the id as no id, unless it names a team that does not exist. -/
structure Survives : Prop where
  same : ∀ q : JoinRequest, (∀ id ∈ q.id, id ≠ .null ∧ Notice.Carried id) → decode q.write = .ok q
  again : ∀ payload q, decode payload = .ok q →
    (∀ id ∈ q.id, id.every Value.isPointFree = true ∧ (EmbedsNone payload ∨ id.depth ≤ 126)) →
    decode q.write = .ok q
  only : ∀ payload q, decode payload = .ok q → ∀ id ∈ q.id, id ≠ .null ∧ id.every Value.isUnreserved = true
  unset : ∀ d : JoinDraft, (∀ id ∈ d.id, Notice.Carried id) → d.team = none →
    decode d.write = .ok (d.asking .random)
  chosen : ∀ (d : JoinDraft) (w : TeamWish), (∀ id ∈ d.id, Notice.Carried id) → d.team = some w.name →
    decode d.write = .ok (d.asking w)
  unknown : ∀ (d : JoinDraft) (team : String), (∀ id ∈ d.id, Notice.Carried id) → d.team = some team →
    team ∉ ["first", "second", "random"] →
    decode d.write = .error (.invalidFields "join" (.unknownVariant team ["first", "second", "random"]))

/-- Requests come back to whoever reads them, and so does what is read of any text. A draft is read as what was
put into it, whatever its strings are. -/
theorem survives : Survives where
  same q kept := by
    have read := decode_write fun id member => (kept id member).2
    rwa [said_eq_self fun id member => (kept id member).1] at read
  again payload q decoded kept := by
    have known : ∀ id ∈ q.id, _ := fun _ => id_of_decode decoded
    have back := decode_write (q := q) fun id member =>
      have ⟨pointFree, shallow⟩ := kept id member
      have ⟨_, regular, unreserved, limited⟩ := known id member
      ⟨regular, pointFree, unreserved, shallow.elim limited fun shallow => shallow⟩
    rwa [said_eq_self fun id member => (known id member).1] at back
  only _ _ decoded _ member :=
    have ⟨other, _, unreserved, _⟩ := id_of_decode decoded member
    ⟨other, unreserved⟩
  unset d carried unset := JoinDraft.decode_write_of_wished carried (by rw [unset]; exact .unstated)
  chosen d w carried chosen := JoinDraft.decode_write_of_wished carried (by rw [chosen]; exact .stated .plain)
  unknown d team carried chosen unknown := by
    refine JoinDraft.decode_write_of_unknown carried chosen fun w same => unknown ?_
    cases w <;> simp [same, TeamWish.name]

/-- Quotes, controls and an id with names of the protocol in it come back; so does what is read of a text that has the
team as an object. A null for the id and no team are read as no id and any team, and a third team is refused. -/
theorem survives_quoted :
    let id := Value.object [("nick", .array [.number (.int (-1)), .string "\"\n"]), ("type", .null)]
    let q : JoinRequest := ⟨some id, "\\\"", "\u0001é", .second⟩
    let d : JoinDraft := ⟨q.game, q.nick, some id, some "second"⟩
    let text := Json.write (.object [("game", .string "g"), ("nick", .string ""), ("team", .object [("first", .null)]),
      ("type", .string "join")])
    (id ≠ .null ∧ Notice.Carried id) ∧ decode q.write = .ok q ∧
      (decode text = .ok ⟨none, "g", "", .first⟩ ∧
        decode (write ⟨none, "g", "", .first⟩) = .ok ⟨none, "g", "", .first⟩) ∧
      decode d.write = .ok q ∧
      decode ({ d with id := some .null, team := none } : JoinDraft).write =
        .ok { q with id := none, team := .random } ∧
      decode ({ d with team := some "third" } : JoinDraft).write =
        .error (.invalidFields "join" (.unknownVariant "third" ["first", "second", "random"])) := by
  intro id q d text
  have carried : id ≠ .null ∧ Notice.Carried id := ⟨nofun, by decide, by decide, by decide, by decide⟩
  have kept : ∀ i ∈ q.id, i ≠ .null ∧ Notice.Carried i := by
    rintro _ ⟨⟩
    exact carried
  have listed : decode text = .ok ⟨none, "g", "", .first⟩ :=
    decode_eq_ok_iff.mpr ⟨_, ⟨document_write (by decide) (by decide) (by decide) (by decide), rfl⟩,
      rfl, rfl, .stated .null, .absent⟩
  refine ⟨carried, survives.same q kept, ⟨listed, survives.again text _ listed nofun⟩,
    survives.chosen d .second (fun i member => (kept i member).2) rfl, survives.unset _ ?_ rfl,
    survives.unknown _ "third" (fun i member => (kept i member).2) rfl (by decide)⟩
  rintro _ ⟨⟩
  exact ⟨rfl, rfl, rfl, Nat.zero_le _⟩

/-- An id with the reserved name in front is lost, in a draft and in a request; and so is one that is nested as deep
as a text can be, although a text that embeds it is accepted. -/
theorem ids_refused :
    (let id := Value.object [(embeddedName, .null), ("a", .number (.int 1))]
     let d : JoinDraft := ⟨"g", "n", some id, none⟩
     (id ≠ .null ∧ id.every Value.isRegular = true ∧ id.every Value.isPointFree = true ∧ id.depth ≤ 126) ∧
       decode d.write ≠ .ok (d.asking .random) ∧ decode (d.asking .random).write ≠ .ok (d.asking .random)) ∧
    (let q : JoinRequest := ⟨some (Notice.nested 126), "g", "n", .random⟩
     (∃ payload, decode payload = .ok q) ∧ (∀ id ∈ q.id, id.every Value.isPointFree = true) ∧
       decode q.write ≠ .ok q) := by
  have plain := fun {test : Value → Bool} (passes : ∀ vs, test (.array vs) = true) => Notice.nested_plain passes 126
  refine ⟨⟨⟨nofun, by decide, by decide, by decide⟩, fun decoded => ?_, fun decoded => ?_⟩, ?_, ?_, fun decoded => ?_⟩
  · obtain ⟨_, _, unreserved, _⟩ := id_of_decode decoded rfl
    exact absurd unreserved (by decide)
  · obtain ⟨_, _, unreserved, _⟩ := id_of_decode decoded rfl
    exact absurd unreserved (by decide)
  · obtain ⟨text, embeds⟩ := Notice.exists_embedding (plain fun _ => rfl) (plain fun _ => rfl) (plain fun _ => rfl)
      (Notice.nested_depth 126).le
    let q : JoinRequest := ⟨some (Notice.nested 126), "g", "n", .random⟩
    refine ⟨writeFields [("type", writeString messageType), ("id", text), ("game", writeString "g"),
      ("nick", writeString "n"), ("team", writeString "random")], decode_eq_ok_iff.mpr
        ⟨Members.ofList q.fields, ⟨document_of_spells fun levels => ?_, q.type_fields⟩, ?_⟩⟩
    · exact spells_object (.cons ⟨rfl, spells_string ..⟩ (.cons ⟨rfl, embeds levels⟩ (.cons ⟨rfl, spells_string ..⟩
        (.cons ⟨rfl, spells_string ..⟩ (.cons ⟨rfl, spells_string ..⟩ .nil))))) (by simp [fields, embeddedName])
    · exact stated_fields (q := q) (by rintro _ ⟨⟩; exact plain fun _ => rfl)
  · rintro _ ⟨⟩
    exact plain fun _ => rfl
  · obtain ⟨ms, typed, _⟩ := decode_eq_ok_iff.mp decoded
    exact Notice.parse_ne_ok_of_refused (fun embedded => Notice.refused_nested embedded 126) _ typed.parsed

end JoinRequest

end Scrimmage
