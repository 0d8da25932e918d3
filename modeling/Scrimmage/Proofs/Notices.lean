import Mathlib
import Scrimmage.Proofs.Rereading
import Scrimmage.Proofs.Parsed
import Scrimmage.Proofs.Writing

namespace Scrimmage

open Json

namespace RosterEntry

/-- The fields that an entry is written as. -/
def fields (p : RosterEntry) : List (String × Value) :=
  [("id", .number (.int p.id.toNat)), ("nick", .string p.nick), ("team", .string p.team.name)]

theorem fitsInt_toNat (n : UInt32) : Number.fitsInt n.toNat = true := by
  have small := n.toNat_lt
  simp only [Number.fitsInt, Bool.and_eq_true, decide_eq_true_eq]
  omega

theorem spells (embedded : List UInt8 → Option Value) (depth : Nat) (p : RosterEntry) :
    Spells (value embedded (depth + 1)) p.write (.object (Members.ofList p.fields)) := by
  refine spells_object (.cons ⟨rfl, spells_int _ _ (fitsInt_toNat p.id)⟩ (.cons ⟨rfl, spells_string ..⟩
    (.cons ⟨rfl, spells_string ..⟩ .nil))) ?_
  simp [fields, embeddedName]

theorem readUInt32_toNat (n : UInt32) : Value.readUInt32 (.number (.int n.toNat)) = .ok n := by
  have small := n.toNat_lt
  rw [Value.readUInt32, if_pos (by omega), Int.toNat_natCast, UInt32.ofNat_toNat]

theorem readInMessage_name (t : Team) : Team.readInMessage (.string t.name) = .ok t := by
  cases t <;> rfl

theorem read_fields (p : RosterEntry) : read (.object (Members.ofList p.fields)) = .ok p := by
  have found : ∀ f ∈ p.fields, Members.find? f.1 (Members.ofList p.fields) = some f.2 := fun _ =>
    Members.find?_ofList (by simp [fields])
  simp only [fields, List.forall_mem_cons] at found
  obtain ⟨id, nick, team, _⟩ := found
  simp only [read, readMember?, fields, id, nick, team, readUInt32_toNat, readInMessage_name]
  rfl

theorem readAll_fields (players : List RosterEntry) :
    readAll (.array (players.map fun p => .object (Members.ofList p.fields))) = .ok players := by
  rw [readAll]
  induction players with
  | nil => rfl
  | cons p players ih =>
    rw [List.map_cons, List.mapM_cons, read_fields, ih]
    rfl

end RosterEntry

namespace JoinResult

/-- The fields that the outcome of a join is written as. -/
def fields : JoinResult → List (String × Value)
  | .joined myId players =>
    [("result", .string "joined"), ("my_id", .number (.int myId.toNat)),
      ("players", .array (players.map fun p => .object (Members.ofList p.fields)))]
  | .full => [("result", .string "full")]

theorem ofMembers_eq_ok {result : JoinResult} {ms : List (String × Value)}
    (found : ∀ m ∈ result.fields, Members.find? m.1 ms = some m.2) : ofMembers ms = .ok result := by
  cases result with
  | full =>
    have result := found ("result", .string "full") (by simp [fields])
    simp only at result
    rw [ofMembers, result]
    rfl
  | joined myId players =>
    simp only [fields, List.forall_mem_cons] at found
    obtain ⟨result, myId', players', _⟩ := found
    rw [ofMembers, result, readMember?, readMember?, myId', players']
    simp only [RosterEntry.readUInt32_toNat, RosterEntry.readAll_fields]
    rfl

end JoinResult

namespace Notice

def id? : Notice → Option Value
  | .joinResult id _ => id
  | .warning .. => none

/-- The message without an id that says nothing. -/
def withoutNull : Notice → Notice
  | .joinResult (some .null) result => .joinResult none result
  | m => m

/-- The fields that a message is written as. -/
def fields : Notice → List (String × Value)
  | .joinResult id result =>
    ("type", .string "join-result") :: ((id.map fun id => ("id", id)).toList ++ result.fields)
  | .warning message closed =>
    [("type", .string "warning"), ("message", .string message), ("closed", .boolean closed)]

theorem spells (embedded : List UInt8 → Option Value) (m : Notice)
    (id : ∀ id ∈ m.id?, Spells (value embedded 126) (Json.write id) id) :
    Spells (value embedded depthLimit) m.write (.object (Members.ofList m.fields)) := by
  have free : ∀ f ∈ m.fields.head?, f.1 ≠ embeddedName := by
    cases m <;> simp [fields, embeddedName]
  cases m with
  | warning message closed =>
    exact spells_object (.cons ⟨rfl, spells_string ..⟩ (.cons ⟨rfl, spells_string ..⟩
      (.cons ⟨rfl, spells_boolean ..⟩ .nil))) free
  | joinResult id' result =>
    have type : Member (value embedded 126) ("type", writeString "join-result") ("type", .string "join-result") :=
      ⟨rfl, spells_string ..⟩
    cases result with
    | full =>
      have outcome : List.Forall₂ (Member (value embedded 126)) [("result", writeString "full")]
          JoinResult.full.fields := .cons ⟨rfl, spells_string ..⟩ .nil
      cases id' with
      | none => exact spells_object (.cons type outcome) free
      | some id' => exact spells_object (.cons type (.cons ⟨rfl, id id' rfl⟩ outcome)) free
    | joined myId players =>
      have each := List.forall₂_map_left_iff.mpr (List.forall₂_map_right_iff.mpr
        (List.forall₂_same.mpr fun p (_ : p ∈ players) => p.spells embedded 124))
      have outcome : List.Forall₂ (Member (value embedded 126))
          [("result", writeString "joined"), ("my_id", writeInt myId.toNat),
            ("players", writeList (players.map RosterEntry.write))] (JoinResult.joined myId players).fields :=
        .cons ⟨rfl, spells_string ..⟩ (.cons ⟨rfl, spells_int _ _ (RosterEntry.fitsInt_toNat myId)⟩
          (.cons ⟨rfl, spells_array each⟩ .nil))
      cases id' with
      | none => exact spells_object (.cons type outcome) free
      | some id' => exact spells_object (.cons type (.cons ⟨rfl, id id' rfl⟩ outcome)) free

theorem withoutNull_eq_self {m : Notice} (other : ∀ id ∈ m.id?, id ≠ .null) : m.withoutNull = m := by
  match m with
  | warning .. => rfl
  | joinResult none _ => rfl
  | joinResult (some id) _ =>
    cases id with
    | null => exact absurd rfl (other _ rfl)
    | _ => rfl

theorem read_fields {m : Notice} (unreserved : ∀ id ∈ m.id?, id.every Value.isUnreserved = true) :
    read (.object (Members.ofList m.fields)) = .ok m.withoutNull := by
  have different : (m.fields.map (·.1)).Nodup := by
    cases m with
    | warning message closed => simp [fields]
    | joinResult id result => cases id <;> cases result <;> simp [fields, JoinResult.fields]
  have found : ∀ f ∈ m.fields, Members.find? f.1 (Members.ofList m.fields) = some f.2 := fun _ =>
    Members.find?_ofList different
  cases m with
  | warning message closed =>
    simp only [fields, List.forall_mem_cons] at found
    obtain ⟨type, message', closed', _⟩ := found
    simp only [read, fields, type, warningOfMembers, readMember?, message', closed']
    rfl
  | joinResult id result =>
    have type := found ("type", .string "join-result") List.mem_cons_self
    have outcome := JoinResult.ofMembers_eq_ok fun f member => found f (List.mem_cons_of_mem _
      (List.mem_append_right _ member))
    simp only at type
    cases id with
    | none =>
      have absent : Members.find? "id" (Members.ofList (joinResult none result).fields) = none := by
        have other : ∀ f ∈ (joinResult none result).fields, f.1 ≠ "id" := by
          cases result <;> simp [fields, JoinResult.fields]
        exact Members.find?_eq_none fun f member => other f (Members.mem_ofList member)
      simp only [read, type, readMember?, absent, outcome]
      rfl
    | some id =>
      have present := found ("id", id) (by simp [fields])
      simp only at present
      by_cases null : id = .null
      · subst null
        simp only [read, type, readMember?, present, outcome]
        rfl
      · have said := Value.readOptional_of_ne null
        rw [Value.readAny_eq_self (unreserved id rfl)] at said
        rw [withoutNull_eq_self (by rintro _ ⟨⟩; exact null)]
        simp only [read, type, readMember?, present, outcome, said]
        rfl

theorem bind_eq_ok {ε α β : Type} {x : Except ε α} {f : α → Except ε β} {b : β} (done : x >>= f = .ok b) :
    ∃ a, x = .ok a ∧ f a = .ok b := by
  cases x with
  | error => cases done
  | ok a => exact ⟨a, rfl, done⟩

theorem id?_of_warningOfMembers {ms : List (String × Value)} {m : Notice} (done : warningOfMembers ms = .ok m) :
    m.id? = none := by
  rw [warningOfMembers] at done
  obtain ⟨closed, _, done⟩ := bind_eq_ok done
  obtain ⟨message, _, done⟩ := bind_eq_ok done
  obtain ⟨message', _, done⟩ := bind_eq_ok done
  obtain ⟨closed', _, done⟩ := bind_eq_ok done
  cases done
  rfl

theorem id?_of_warningOfItems {vs : List Value} {m : Notice} (done : warningOfItems vs = .ok m) :
    m.id? = none := by
  rw [warningOfItems] at done
  obtain ⟨message, _, done⟩ := bind_eq_ok done
  obtain ⟨message', _, done⟩ := bind_eq_ok done
  obtain ⟨closed, _, done⟩ := bind_eq_ok done
  obtain ⟨closed', _, done⟩ := bind_eq_ok done
  split at done
  · cases done
    rfl
  · cases done

theorem readMember?_eq_ok {α : Type} {ms : List (String × Value)} {name : String} {read : Value → Reading α} {a : α}
    (done : readMember? ms name read = .ok (some a)) : ∃ v, (name, v) ∈ ms ∧ read v = .ok a := by
  rw [readMember?] at done
  split at done
  · cases done
  · rename_i v found
    obtain ⟨a', one, same⟩ := Text.Utf8.map_eq_ok done
    cases same
    exact ⟨v, Members.mem_of_find? found, one⟩

/-- The id of a message that was read is a member of an object, passed through, and not null. -/
theorem read_eq_ok {v id : Value} {m : Notice} (done : read v = .ok m) (member : id ∈ m.id?) :
    ∃ ms w, v = .object ms ∧ ("id", w) ∈ ms ∧ w ≠ .null ∧ w.readAny = .ok id := by
  have warned : m.id? ≠ none := by
    rw [member]
    nofun
  cases v with
  | object ms =>
    rw [read] at done
    obtain ⟨type, _, done⟩ := bind_eq_ok done
    obtain ⟨kind, _, done⟩ := bind_eq_ok done
    cases kind with
    | warning => exact absurd (id?_of_warningOfMembers done) warned
    | joinResult =>
      obtain ⟨id', present, done⟩ := bind_eq_ok done
      obtain ⟨result, _, done⟩ := bind_eq_ok done
      cases done
      rw [id?, Option.mem_def, Option.join_eq_some_iff] at member
      subst member
      obtain ⟨w, inside, passed⟩ := readMember?_eq_ok present
      have other : w ≠ .null := by
        rintro rfl
        cases passed
      rw [Value.readOptional_of_ne other] at passed
      obtain ⟨id'', passed, same⟩ := Text.Utf8.map_eq_ok passed
      cases same
      exact ⟨ms, w, rfl, inside, other, passed⟩
  | array vs =>
    cases vs with
    | nil => cases done
    | cons kind vs =>
      rw [read] at done
      obtain ⟨kind, _, done⟩ := bind_eq_ok done
      cases kind with
      | warning => exact absurd (id?_of_warningOfItems done) warned
      | joinResult => cases done
  | _ => cases done

/-- The message that octets are read as. -/
def ReadsAs (octets : List UInt8) (m : Notice) : Prop := ∃ v, Json.parse octets = .ok v ∧ read v = .ok m

/-- An id that a message carries to the client as it is. It is the one field of a message that is not of the
server's own making, so this is all that is asked for the message to come back. -/
structure Carried (id : Value) : Prop where
  regular : id.every Value.isRegular = true
  pointFree : id.every Value.isPointFree = true
  unreserved : id.every Value.isUnreserved = true
  shallow : id.depth ≤ 126

theorem readsAs_withoutNull {m : Notice} (carried : ∀ id ∈ m.id?, Carried id) :
    ReadsAs m.encode.octets m.withoutNull := by
  refine ⟨_, parse_of_spells fun levels => m.spells _ fun id member => ?_,
    read_fields fun id member => (carried id member).unreserved⟩
  obtain ⟨regular, pointFree, unreserved, shallow⟩ := carried id member
  exact spells_write _ regular pointFree unreserved shallow

theorem id_of_readsAs {octets : List UInt8} {m : Notice} (read : ReadsAs octets m) {id : Value} (member : id ∈ m.id?) :
    id ≠ .null ∧ id.every Value.isRegular = true ∧ id.every Value.isUnreserved = true ∧
      (EmbedsNone octets → id.depth ≤ 126) := by
  obtain ⟨v, parsed, read⟩ := read
  obtain ⟨ms, w, rfl, inside, other, passed⟩ := read_eq_ok read member
  obtain ⟨regular, unwrapped⟩ := parsed_of_parse parsed
  rw [Value.every_object] at regular unwrapped
  have unreserved := Value.unreserved_of_readAny (unwrapped.2 _ inside) passed
  have same := Except.ok.inj ((Value.readAny_eq_self unreserved).symm.trans passed)
  subst same
  refine ⟨other, regular.2 _ inside, unreserved, fun none => ?_⟩
  exact Value.depth_object_le.mp (none.depth_le parsed) _ inside

/-- Arrays in one another, `n` around the innermost one. -/
def nested : Nat → Value
  | 0 => .array []
  | n + 1 => .array [nested n]

theorem nested_plain {test : Value → Bool} (passes : ∀ vs, test (.array vs) = true) (n : Nat) :
    (nested n).every test = true := by
  induction n with
  | zero => exact Value.every_array.mpr ⟨passes [], nofun⟩
  | succ n ih => exact Value.every_array.mpr ⟨passes _, List.forall_mem_singleton.mpr ih⟩

theorem nested_depth (n : Nat) : (nested n).depth = n + 1 := by
  induction n with
  | zero => rfl
  | succ n ih => simp [nested, Value.depth, Value.itemsDepth, ih]

/-- Nothing that begins with the text can be read. -/
def Refused {α : Type} (read : List UInt8 → Read α) (text : List UInt8) : Prop :=
  ∀ rest out, read (text ++ rest) ≠ .ok out

theorem refused_nested (embedded : List UInt8 → Option Value) (depth : Nat) :
    Refused (value embedded depth) (Json.write (nested depth)) := by
  induction depth with
  | zero =>
    intro rest out read
    rw [nested, Json.write, List.cons_append, value, skipSpace_cons (by decide)] at read
    cases read
  | succ depth ih =>
    rintro rest ⟨v, after⟩ read
    obtain ⟨more, text⟩ : ∃ more, Json.write (nested depth) = 0x5B :: more := by
      cases depth <;> exact ⟨_, rfl⟩
    have inner := ih (0x5D :: rest)
    rw [text, List.cons_append] at inner
    rw [nested, Json.write, writeItems, text, List.cons_append, List.cons_append, List.cons_append,
      List.append_assoc, List.singleton_append, value_array] at read
    obtain ⟨vs, read, _⟩ := Read.map_eq_ok read
    rw [items, skipSpace_cons (by decide)] at read
    obtain ⟨first, between, read, _⟩ := Read.next_eq_ok read
    exact inner _ read

/-- An object whose second member cannot be read is no JSON text. -/
theorem parse_ne_ok_of_refused {type : String} {name : String} {text : List UInt8} {more : List (String × List UInt8)}
    (refused : ∀ embedded, Refused (value embedded 126) text) (v : Value) :
    Json.parse (writeFields (("type", writeString type) :: (name, text) :: more)) ≠ .ok v := by
  intro parsed
  obtain ⟨embedded, rest, read⟩ := value_of_parse parsed
  have first := (spells_string embedded 126 type).reads (stops_behind 0x7D (by decide)
    (memberText (name, text) :: more.map memberText) [])
  have limit : depthLimit = 126 + 1 := rfl
  have plain : "type" ≠ embeddedName := by decide
  rw [writeFields_cons, limit, value_object, members_named, if_neg plain, List.map_cons] at read
  obtain ⟨_, between, typeRead, read⟩ := Read.next_eq_ok read
  cases first.symm.trans typeRead
  obtain ⟨_, read, _⟩ := Read.map_eq_ok read
  rw [List.flatMap_cons, List.cons_append, List.cons_append, memberText, List.append_assoc, List.append_assoc,
    List.cons_append, moreMembers_named] at read
  obtain ⟨_, between, read, _⟩ := Read.next_eq_ok read
  exact refused embedded _ _ read

theorem not_readsAs_of_refused {id : Value} {result : JoinResult} {m : Notice}
    (refused : ∀ embedded, Refused (value embedded 126) (Json.write id)) :
    ¬ReadsAs (joinResult (some id) result).encode.octets m := by
  rintro ⟨v, parsed, _⟩
  obtain ⟨more, text⟩ : ∃ more, (joinResult (some id) result).encode.octets =
      writeFields (("type", writeString "join-result") :: ("id", Json.write id) :: more) := by
    cases result <;> exact ⟨_, rfl⟩
  exact parse_ne_ok_of_refused refused v (text ▸ parsed)

/-- Any value that is nested no deeper than the reader goes can be embedded. -/
theorem exists_embedding {v : Value} (regular : v.every Value.isRegular = true)
    (pointFree : v.every Value.isPointFree = true) (unreserved : v.every Value.isUnreserved = true)
    (deep : v.depth ≤ depthLimit) : ∃ text, ∀ levels,
      Spells (value (fun inner => (documentWithin levels inner).toOption) 126) text v := by
  obtain ⟨cs, text⟩ := Json.write_isText v
  have spelled : Text.Utf8.ofString (String.ofList cs) = Json.write v := by
    rw [Text.Utf8.ofString, String.toList_ofList, text]
  have document : ∀ levels, (documentWithin levels (Text.Utf8.ofString (String.ofList cs))).toOption = some v := by
    intro levels
    rw [spelled, documentWithin_of_spells levels fun _ => spells_write _ regular pointFree unreserved deep]
    rfl
  exact ⟨_, fun levels => spells_embedded (document levels)⟩

/-- Some text is read as any id that is nested no deeper than the reader goes: one that embeds it. -/
theorem exists_readsAs {id : Value} (other : id ≠ .null) (regular : id.every Value.isRegular = true)
    (pointFree : id.every Value.isPointFree = true) (unreserved : id.every Value.isUnreserved = true)
    (deep : id.depth ≤ depthLimit) : ∃ octets, ReadsAs octets (full (some id)) := by
  obtain ⟨text, embeds⟩ := exists_embedding regular pointFree unreserved deep
  refine ⟨writeFields [("type", writeString "join-result"), ("id", text), ("result", writeString "full")],
    .object (Members.ofList (full (some id)).fields), parse_of_spells fun levels => ?_, ?_⟩
  · exact spells_object (.cons ⟨rfl, spells_string ..⟩ (.cons ⟨rfl, embeds levels⟩
      (.cons ⟨rfl, spells_string ..⟩ .nil))) (by simp [fields, full, embeddedName])
  · rw [read_fields (by rintro _ ⟨⟩; exact unreserved), withoutNull_eq_self (by rintro _ ⟨⟩; exact other)]

/-- What the server says comes back: messages whose id, if there is one, is carried as it is come back as they
are, an id that is null is not seen, and a message read from any text is written as a text that is read as this
message again. Nothing is read as an id that is null or has the reserved name in front. -/
structure ComesBack : Prop where
  same : ∀ m : Notice, (∀ id ∈ m.id?, id ≠ .null ∧ Carried id) → ReadsAs m.encode.octets m
  null : ∀ result, ReadsAs (joinResult (some .null) result).encode.octets (joinResult none result)
  again : ∀ octets m, ReadsAs octets m →
    (∀ id ∈ m.id?, id.every Value.isPointFree = true ∧ (EmbedsNone octets ∨ id.depth ≤ 126)) →
    ReadsAs m.encode.octets m
  only : ∀ octets m, ReadsAs octets m → ∀ id ∈ m.id?, id ≠ .null ∧ id.every Value.isUnreserved = true

/-- Messages of the server come back to whoever reads them, and what is read of any text is written as a text
that is read in the same way. The ids that come back are those that are carried as they are. -/
theorem comes_back : ComesBack where
  same m kept := by
    have read := readsAs_withoutNull fun id member => (kept id member).2
    rwa [withoutNull_eq_self fun id member => (kept id member).1] at read
  null result := readsAs_withoutNull (m := joinResult (some .null) result) (by
    rintro _ ⟨⟩
    exact ⟨rfl, rfl, rfl, Nat.zero_le _⟩)
  again octets m read kept := by
    have known : ∀ id ∈ m.id?, _ := fun _ => id_of_readsAs read
    have back := readsAs_withoutNull (m := m) fun id member =>
      have ⟨pointFree, shallow⟩ := kept id member
      have ⟨_, regular, unreserved, limited⟩ := known id member
      ⟨regular, pointFree, unreserved, shallow.elim limited fun shallow => shallow⟩
    rwa [withoutNull_eq_self fun id member => (known id member).1] at back
  only _ _ read _ member :=
    have ⟨other, _, unreserved, _⟩ := id_of_readsAs read member
    ⟨other, unreserved⟩

/-- Nicks and ids come back with quotes and controls in them, and so does a warning that was read off a list. -/
theorem comes_back_listed :
    let id := Value.object [("a", .array [.number (.int (-1)), .string "\"\n"]), ("b", .null)]
    let m := joined (some id) 7 [⟨0, "\u0001é\\", .first⟩, ⟨7, "", .second⟩]
    let list := Json.write (.array [.string "warning", .string "bye", .boolean true])
    (id ≠ .null ∧ Carried id) ∧ ReadsAs m.encode.octets m ∧
      ReadsAs (full (some .null)).encode.octets (full none) ∧
      ReadsAs list (warning "bye" true) ∧ ReadsAs (warning "bye" true).encode.octets (warning "bye" true) := by
  intro id m list
  have carried : id ≠ .null ∧ Carried id := ⟨nofun, by decide, by decide, by decide, by decide⟩
  have listed : ReadsAs list (warning "bye" true) :=
    ⟨_, parse_write (by decide) (by decide) (by decide) (by decide), rfl⟩
  refine ⟨carried, comes_back.same m ?_, comes_back.null .full, listed, comes_back.again list _ listed nofun⟩
  rintro _ ⟨⟩
  exact carried

/-- An id with the reserved name in front is lost, and so is one that is nested as deep as a text can be, although
a text that embeds it is read. -/
theorem ids_lost :
    (let id := Value.object [(embeddedName, .null), ("a", .number (.int 1))]
     (id ≠ .null ∧ id.every Value.isRegular = true ∧ id.every Value.isPointFree = true ∧ id.depth ≤ 126) ∧
       ¬ReadsAs (full (some id)).encode.octets (full (some id))) ∧
    (let m := full (some (nested 126))
     (∃ octets, ReadsAs octets m) ∧ (∀ id ∈ m.id?, id.every Value.isPointFree = true) ∧
       ¬ReadsAs m.encode.octets m) := by
  refine ⟨⟨⟨nofun, by decide, by decide, by decide⟩, fun read => ?_⟩, ?_, ?_,
    not_readsAs_of_refused fun embedded => refused_nested embedded 126⟩
  · obtain ⟨_, _, unreserved, _⟩ := id_of_readsAs read rfl
    exact absurd unreserved (by decide)
  · exact exists_readsAs nofun (nested_plain (fun _ => rfl) 126) (nested_plain (fun _ => rfl) 126)
      (nested_plain (fun _ => rfl) 126) (nested_depth 126).le
  · rintro _ ⟨⟩
    exact nested_plain (fun _ => rfl) 126

end Notice

end Scrimmage
