import Mathlib
import Scrimmage.Json.Mismatch
import Scrimmage.Proofs.Spelling

namespace Scrimmage.Json

namespace Value

/-- A proof about a value may use what it proves about the values in it. -/
@[elab_as_elim]
theorem induct {motive : Value → Prop} (null : motive .null) (boolean : ∀ b, motive (.boolean b))
    (number : ∀ n, motive (.number n)) (string : ∀ s, motive (.string s))
    (array : ∀ vs, (∀ v ∈ vs, motive v) → motive (.array vs))
    (object : ∀ ms, (∀ m ∈ ms, motive m.2) → motive (.object ms)) (v : Value) : motive v :=
  match v with
  | .null => null
  | .boolean b => boolean b
  | .number n => number n
  | .string s => string s
  | .array vs => array vs fun v _ => induct null boolean number string array object v
  | .object ms => object ms fun m _ => induct null boolean number string array object m.2
termination_by sizeOf v
decreasing_by
  · rename_i inside
    have smaller := List.sizeOf_lt_of_mem inside
    simp_wf
    omega
  · rename_i inside
    have smaller := List.sizeOf_lt_of_mem inside
    obtain ⟨name, w⟩ := m
    simp_wf
    simp only [Prod.mk.sizeOf_spec] at smaller
    omega

mutual

/-- The value passes the test, and so does every value in it. So what is asked of an id is asked of all its
parts. -/
def every (test : Value → Bool) : Value → Bool
  | .array vs => test (.array vs) && everyItem test vs
  | .object ms => test (.object ms) && everyMember test ms
  | v => test v

def everyItem (test : Value → Bool) : List Value → Bool
  | [] => true
  | v :: rest => v.every test && everyItem test rest

def everyMember (test : Value → Bool) : List (String × Value) → Bool
  | [] => true
  | (_, v) :: rest => v.every test && everyMember test rest

end

mutual

/-- How many arrays and objects stand in one another. -/
def depth : Value → Nat
  | .array vs => itemsDepth vs + 1
  | .object ms => membersDepth ms + 1
  | _ => 0

def itemsDepth : List Value → Nat
  | [] => 0
  | v :: rest => max v.depth (itemsDepth rest)

def membersDepth : List (String × Value) → Nat
  | [] => 0
  | (_, v) :: rest => max v.depth (membersDepth rest)

end

theorem every_array {test : Value → Bool} {vs : List Value} :
    (Value.array vs).every test = true ↔ test (.array vs) = true ∧ ∀ v ∈ vs, v.every test = true := by
  have items : everyItem test vs = true ↔ ∀ v ∈ vs, v.every test = true := by
    induction vs with
    | nil => simp [everyItem]
    | cons v vs ih => simp [everyItem, ih]
  rw [every, Bool.and_eq_true, items]

theorem every_object {test : Value → Bool} {ms : List (String × Value)} :
    (Value.object ms).every test = true ↔ test (.object ms) = true ∧ ∀ m ∈ ms, m.2.every test = true := by
  have members : everyMember test ms = true ↔ ∀ m ∈ ms, m.2.every test = true := by
    induction ms with
    | nil => simp [everyMember]
    | cons m ms ih => simp [everyMember, ih]
  rw [every, Bool.and_eq_true, members]

theorem depth_array_pos (vs : List Value) : 0 < (Value.array vs).depth := Nat.succ_pos _

theorem depth_object_pos (ms : List (String × Value)) : 0 < (Value.object ms).depth := Nat.succ_pos _

theorem depth_array_le {vs : List Value} {n : Nat} : (Value.array vs).depth ≤ n + 1 ↔ ∀ v ∈ vs, v.depth ≤ n := by
  have items : itemsDepth vs ≤ n ↔ ∀ v ∈ vs, v.depth ≤ n := by
    induction vs with
    | nil => simp [itemsDepth]
    | cons v vs ih => simp [itemsDepth, ih]
  rw [depth, Nat.add_le_add_iff_right, items]

theorem depth_object_le {ms : List (String × Value)} {n : Nat} :
    (Value.object ms).depth ≤ n + 1 ↔ ∀ m ∈ ms, m.2.depth ≤ n := by
  have members : membersDepth ms ≤ n ↔ ∀ m ∈ ms, m.2.depth ≤ n := by
    induction ms with
    | nil => simp [membersDepth]
    | cons m ms ih => simp [membersDepth, ih]
  rw [depth, Nat.add_le_add_iff_right, members]

/-- A whole number that is one of 64 bits; an object with its members in ascending order of their names. -/
def isRegular : Value → Bool
  | .number (.int n) => Number.fitsInt n
  | .object ms => (ms.map (·.1)).Pairwise (· < ·)
  | _ => true

/-- No floating-point number. -/
def isPointFree : Value → Bool
  | .number (.double _) => false
  | _ => true

/-- No object whose least member has the reserved name. -/
def isUnreserved : Value → Bool
  | .object ((name, _) :: _) => name ≠ embeddedName
  | _ => true

/-- No object whose only member has the reserved name. -/
def isUnwrapped : Value → Bool
  | .object [(name, _)] => name ≠ embeddedName
  | _ => true

end Value

namespace Members

theorem find?_cons (name : String) (m : String × Value) (ms : List (String × Value)) :
    find? name (m :: ms) = if m.1 = name then some m.2 else find? name ms := by
  rw [find?, List.find?_cons]
  by_cases same : m.1 = name <;> simp [same, find?]

theorem find?_insert (name other : String) (v : Value) (ms : List (String × Value)) :
    find? name (insert other v ms) = if other = name then some v else find? name ms := by
  induction ms with
  | nil => rw [insert, find?_cons]
  | cons m ms ih =>
    rw [insert]
    split
    · rw [find?_cons]
    split
    · rename_i same
      subst same
      rw [find?_cons, find?_cons]
      split <;> rfl
    · rename_i different
      rw [find?_cons, find?_cons, ih]
      split
      · rename_i found
        rw [if_neg fun given => different (given.trans found.symm)]
      · rfl

theorem mem_insert {name : String} {v : Value} {ms : List (String × Value)} {m : String × Value}
    (member : m ∈ insert name v ms) : m = (name, v) ∨ m ∈ ms := by
  induction ms with
  | nil => simpa [insert] using member
  | cons next ms ih =>
    rw [insert] at member
    split_ifs at member <;> grind

theorem sorted_insert (name : String) (v : Value) {ms : List (String × Value)}
    (sorted : (ms.map (·.1)).Pairwise (· < ·)) : ((insert name v ms).map (·.1)).Pairwise (· < ·) := by
  induction ms with
  | nil => simp [insert]
  | cons next ms ih =>
    rw [List.map_cons, List.pairwise_cons] at sorted
    rw [insert]
    split_ifs with less same
    · rw [List.map_cons, List.pairwise_cons, List.map_cons, List.pairwise_cons]
      refine ⟨fun n member => ?_, sorted⟩
      rcases List.mem_cons.mp member with rfl | later
      · exact less
      · exact less.trans (sorted.1 n later)
    · subst same
      exact List.pairwise_cons.mpr sorted
    · have above : next.1 < name := lt_of_le_of_ne (not_lt.mp less) (Ne.symm same)
      rw [List.map_cons, List.pairwise_cons]
      refine ⟨fun n member => ?_, ih sorted.2⟩
      obtain ⟨m, inside, rfl⟩ := List.mem_map.mp member
      rcases mem_insert inside with rfl | old
      · exact above
      · exact sorted.1 _ (List.mem_map_of_mem old)

theorem insert_last {name : String} {v : Value} {ms : List (String × Value)} (last : ∀ m ∈ ms, m.1 < name) :
    insert name v ms = ms ++ [(name, v)] := by
  induction ms with
  | nil => rfl
  | cons next ms ih =>
    rw [List.forall_mem_cons] at last
    rw [insert, if_neg last.1.not_gt, if_neg last.1.ne', ih last.2, List.cons_append]

theorem ofList_append_singleton (ms : List (String × Value)) (m : String × Value) :
    ofList (ms ++ [m]) = insert m.1 m.2 (ofList ms) := by
  rw [ofList, List.foldl_append]
  rfl

theorem mem_ofList {ms : List (String × Value)} {m : String × Value} (member : m ∈ ofList ms) : m ∈ ms := by
  induction ms using List.reverseRecOn with
  | nil => exact member
  | append_singleton ms next ih =>
    rw [ofList_append_singleton] at member
    rcases mem_insert member with rfl | old
    · exact List.mem_append_right _ List.mem_cons_self
    · exact List.mem_append_left _ (ih old)

theorem sorted_ofList (ms : List (String × Value)) : ((ofList ms).map (·.1)).Pairwise (· < ·) := by
  induction ms using List.reverseRecOn with
  | nil => exact .nil
  | append_singleton ms next ih =>
    rw [ofList_append_singleton]
    exact sorted_insert _ _ ih

theorem ofList_eq_self {ms : List (String × Value)} (sorted : (ms.map (·.1)).Pairwise (· < ·)) :
    ofList ms = ms := by
  induction ms using List.reverseRecOn with
  | nil => rfl
  | append_singleton ms next ih =>
    rw [List.map_append, List.pairwise_append] at sorted
    rw [ofList_append_singleton, ih sorted.1]
    exact insert_last fun m member =>
      sorted.2.2 _ (List.mem_map_of_mem member) _ List.mem_cons_self

theorem find?_ofList_isSome {ms : List (String × Value)} {m : String × Value} (member : m ∈ ms) :
    (find? m.1 (ofList ms)).isSome = true := by
  induction ms using List.reverseRecOn with
  | nil => cases member
  | append_singleton ms next ih =>
    rw [ofList_append_singleton, find?_insert]
    split
    · rfl
    · rename_i other
      rcases List.mem_append.mp member with old | new
      · exact ih old
      · rw [List.mem_singleton.mp new] at other
        exact absurd rfl other

theorem find?_ofList {ms : List (String × Value)} (different : (ms.map (·.1)).Nodup) {m : String × Value}
    (member : m ∈ ms) : find? m.1 (ofList ms) = some m.2 := by
  induction ms using List.reverseRecOn with
  | nil => cases member
  | append_singleton ms next ih =>
    rw [List.map_append, List.nodup_append] at different
    rw [ofList_append_singleton, find?_insert]
    rcases List.mem_append.mp member with old | new
    · have other := different.2.2 m.1 (List.mem_map_of_mem old) next.1 List.mem_cons_self
      rw [if_neg other.symm, ih different.1 old]
    · rw [List.mem_singleton.mp new, if_pos rfl]

theorem find?_eq_none {name : String} {ms : List (String × Value)} (absent : ∀ m ∈ ms, m.1 ≠ name) :
    find? name ms = none := by
  induction ms with
  | nil => rfl
  | cons m ms ih =>
    rw [List.forall_mem_cons] at absent
    rw [find?_cons, if_neg absent.1, ih absent.2]

theorem mem_of_find? {name : String} {ms : List (String × Value)} {v : Value} (found : find? name ms = some v) :
    (name, v) ∈ ms := by
  induction ms with
  | nil => cases found
  | cons m ms ih =>
    rw [find?_cons] at found
    split at found
    · rename_i same
      cases found
      exact same ▸ List.mem_cons_self
    · exact List.mem_cons_of_mem _ (ih found)

theorem find?_ofList_eq {ms : List (String × Value)} (different : (ms.map (·.1)).Nodup) (name : String) :
    find? name (ofList ms) = find? name ms := by
  cases found : find? name ms with
  | some v => exact find?_ofList different (mem_of_find? found)
  | none =>
    refine find?_eq_none fun m member same => ?_
    simp only [find?, Option.map_eq_none_iff, List.find?_eq_none, decide_eq_true_eq] at found
    exact found m (mem_ofList member) same

end Members

namespace Value

theorem readItems_eq_self {vs : List Value} (each : ∀ v ∈ vs, v.readAny = .ok v) : readItems vs = .ok vs := by
  induction vs with
  | nil => rfl
  | cons v vs ih =>
    rw [List.forall_mem_cons] at each
    rw [readItems, each.1, ih each.2]
    rfl

theorem readMembers_eq_self {ms : List (String × Value)} (each : ∀ m ∈ ms, m.2.readAny = .ok m.2) :
    readMembers ms = .ok ms := by
  induction ms with
  | nil => rfl
  | cons m ms ih =>
    rw [List.forall_mem_cons] at each
    rw [readMembers, each.1, ih each.2]
    rfl

/-- Without the reserved name a value is passed through as it is. -/
theorem readAny_eq_self {v : Value} (unreserved : v.every isUnreserved = true) : v.readAny = .ok v := by
  induction v using induct with
  | array vs ih =>
    rw [every_array] at unreserved
    rw [readAny, readItems_eq_self fun v member => ih v member (unreserved.2 v member)]
    rfl
  | object ms ih =>
    rw [every_object] at unreserved
    have each := fun m member => ih m member (unreserved.2 m member)
    cases ms with
    | nil => rfl
    | cons m ms =>
      rw [List.forall_mem_cons] at each
      have free : m.1 ≠ embeddedName := by simpa [isUnreserved] using unreserved.1
      rw [readAny.eq_def]
      simp only [if_neg free, each.1, readMembers_eq_self each.2]
      rfl
  | _ => rfl

theorem readItems_eq_ok {vs ws : List Value} (read : readItems vs = .ok ws) {v : Value} (member : v ∈ vs) :
    ∃ w, v.readAny = .ok w := by
  induction vs generalizing ws with
  | nil => cases member
  | cons first vs ih =>
    rw [readItems] at read
    split at read
    · cases read
    · rename_i w passed
      obtain ⟨rest, later, _⟩ := Text.Utf8.map_eq_ok read
      rcases List.mem_cons.mp member with rfl | inside
      · exact ⟨w, passed⟩
      · exact ih later inside

theorem readMembers_eq_ok {ms ns : List (String × Value)} (read : readMembers ms = .ok ns) {m : String × Value}
    (member : m ∈ ms) : ∃ w, m.2.readAny = .ok w := by
  induction ms generalizing ns with
  | nil => cases member
  | cons first ms ih =>
    rw [readMembers] at read
    split at read
    · cases read
    · rename_i w passed
      obtain ⟨rest, later, _⟩ := Text.Utf8.map_eq_ok read
      rcases List.mem_cons.mp member with rfl | inside
      · exact ⟨w, passed⟩
      · exact ih later inside

/-- A value that is passed through has the reserved name in front of no other members. -/
theorem unreserved_of_readAny {v w : Value} (unwrapped : v.every isUnwrapped = true) (read : v.readAny = .ok w) :
    v.every isUnreserved = true := by
  induction v using induct generalizing w with
  | array vs ih =>
    rw [every_array] at unwrapped ⊢
    refine ⟨rfl, fun v member => ?_⟩
    rw [readAny] at read
    obtain ⟨ws, items, _⟩ := Text.Utf8.map_eq_ok read
    obtain ⟨w, passed⟩ := readItems_eq_ok items member
    exact ih v member (unwrapped.2 v member) passed
  | object ms ih =>
    rw [every_object] at unwrapped ⊢
    cases ms with
    | nil => exact ⟨rfl, nofun⟩
    | cons m ms =>
      rw [readAny.eq_def] at read
      simp only at read
      split at read
      · rename_i reserved
        -- the one member that an embedded document may have would be all there is
        have more : ms ≠ [] := by
          rintro rfl
          simp [isUnwrapped, reserved] at unwrapped
        split at read
        · split at read
          · cases read
          · rw [if_neg (by simpa using more)] at read
            cases read
        · cases read
      · rename_i free
        split at read
        · cases read
        · rename_i first passed
          obtain ⟨ns, rest, _⟩ := Text.Utf8.map_eq_ok read
          refine ⟨by simpa [isUnreserved] using free, fun n member => ?_⟩
          have inside : ∃ w, n.2.readAny = .ok w := by
            rcases List.mem_cons.mp member with rfl | later
            · exact ⟨first, passed⟩
            · exact readMembers_eq_ok rest later
          obtain ⟨w, passed⟩ := inside
          exact ih n member (unwrapped.2 n member) passed
  | _ => rfl

theorem readOptional_of_ne {v : Value} (other : v ≠ .null) : readOptional v = v.readAny.map some := by
  cases v with
  | null => exact absurd rfl other
  | _ => rfl

end Value

end Scrimmage.Json
