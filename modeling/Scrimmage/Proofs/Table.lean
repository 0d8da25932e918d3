import Mathlib
import Scrimmage.Table

namespace Scrimmage

namespace Table

variable {κ ν : Type}

theorem mem_keys_of_mem {t : Table κ ν} {k : κ} {v : ν} (entry : (k, v) ∈ t.entries) : k ∈ t.keys :=
  List.mem_map_of_mem entry

theorem keys_nodup (t : Table κ ν) : t.keys.Nodup := t.nodup

theorem keys_length (t : Table κ ν) : t.keys.length = t.size := List.length_map ..

theorem values_length (t : Table κ ν) : t.values.length = t.size := List.length_map ..

theorem entry_unique {t : Table κ ν} {k : κ} {v w : ν} (one : (k, v) ∈ t.entries)
    (other : (k, w) ∈ t.entries) : v = w :=
  congrArg Prod.snd (List.inj_on_of_nodup_map t.nodup one other rfl)

theorem ext_entries {s t : Table κ ν} (same : s.entries = t.entries) : s = t := by
  cases s
  cases t
  cases same
  rfl

@[simp] theorem keys_empty : (empty : Table κ ν).keys = [] := rfl

@[simp] theorem size_empty : (empty : Table κ ν).size = 0 := rfl

theorem keys_map (t : Table κ ν) (f : κ → ν → ν) : (t.map f).keys = t.keys := by
  simp only [map, keys, List.map_map]
  exact List.map_congr_left fun _ _ => rfl

variable [DecidableEq κ]

@[simp] theorem find?_empty (k : κ) : (empty : Table κ ν).find? k = none := rfl

theorem find?_eq_some_iff {t : Table κ ν} {k : κ} {v : ν} : t.find? k = some v ↔ (k, v) ∈ t.entries := by
  constructor
  · intro found
    obtain ⟨⟨l, w⟩, first, value⟩ := Option.map_eq_some_iff.mp found
    have key : l = k := by simpa using List.find?_some first
    cases key
    cases value
    exact List.mem_of_find?_eq_some first
  · intro entry
    cases found : t.find? k with
    | none => exact absurd (mem_keys_of_mem entry) (find?_eq_none_iff.mp found)
    | some w =>
      obtain ⟨⟨l, x⟩, first, value⟩ := Option.map_eq_some_iff.mp found
      have key : l = k := by simpa using List.find?_some first
      cases key
      cases value
      rw [entry_unique entry (List.mem_of_find?_eq_some first)]

theorem mem_keys_iff {t : Table κ ν} {k : κ} : k ∈ t.keys ↔ ∃ v, t.find? k = some v := by
  rw [← not_iff_not, ← find?_eq_none_iff, Option.eq_none_iff_forall_ne_some, not_exists]

theorem mem_keys_of_find? {t : Table κ ν} {k : κ} {v : ν} (found : t.find? k = some v) : k ∈ t.keys :=
  mem_keys_iff.mpr ⟨v, found⟩

theorem mem_values_iff {t : Table κ ν} {v : ν} : v ∈ t.values ↔ ∃ k, t.find? k = some v := by
  simp only [values, List.mem_map, Prod.exists, exists_eq_right, find?_eq_some_iff]

theorem contains_iff {t : Table κ ν} {k : κ} : t.contains k = true ↔ k ∈ t.keys := by
  rw [mem_keys_iff, contains, Option.isSome_iff_exists]

theorem contains_eq_false_iff {t : Table κ ν} {k : κ} : t.contains k = false ↔ t.find? k = none := by
  rw [contains, Option.isSome_eq_false_iff, Option.isNone_iff_eq_none]

@[simp] theorem keys_modify (t : Table κ ν) (k : κ) (f : ν → ν) : (t.modify k f).keys = t.keys := keys_map ..

@[simp] theorem size_modify (t : Table κ ν) (k : κ) (f : ν → ν) : (t.modify k f).size = t.size := by
  rw [← keys_length, ← keys_length, keys_modify]

theorem find?_map (t : Table κ ν) (f : κ → ν → ν) (k : κ) : (t.map f).find? k = (t.find? k).map (f k) := by
  cases found : t.find? k with
  | none =>
    rw [Option.map_none, find?_eq_none_iff, keys_map]
    exact find?_eq_none_iff.mp found
  | some v =>
    have entry : (k, f k v) ∈ (t.map f).entries := List.mem_map_of_mem (find?_eq_some_iff.mp found)
    rw [find?_eq_some_iff.mpr entry, Option.map_some]

theorem find?_modify (t : Table κ ν) (k l : κ) (f : ν → ν) :
    (t.modify k f).find? l = if l = k then (t.find? l).map f else t.find? l := by
  rw [modify, find?_map]
  split
  · rfl
  · exact Option.map_id'

theorem modify_find? {t : Table κ ν} {k : κ} {v : ν} (f : ν → ν) (found : t.find? k = some v) :
    (t.modify k f).find? k = some (f v) := by
  rw [find?_modify, if_pos rfl, found, Option.map_some]

theorem modify_find?_ne {k l : κ} (t : Table κ ν) (f : ν → ν) (other : l ≠ k) :
    (t.modify k f).find? l = t.find? l := by
  rw [find?_modify, if_neg other]

/-- A change that leaves the value of the key alone changes nothing. -/
theorem modify_eq_self {t : Table κ ν} {k : κ} {f : ν → ν} (fixed : ∀ v, t.find? k = some v → f v = v) :
    t.modify k f = t := by
  apply ext_entries
  have same : ∀ e ∈ t.entries, (e.1, if e.1 = k then f e.2 else e.2) = e := by
    rintro ⟨l, v⟩ entry
    by_cases here : l = k
    · subst here
      simp only [if_true, fixed v (find?_eq_some_iff.mpr entry)]
    · simp only [if_neg here]
  exact (List.map_congr_left same).trans (List.map_id' _)

theorem insert_of_find? {t : Table κ ν} {k : κ} {v : ν} (w : ν) (found : t.find? k = some v) :
    t.insert k w = t.modify k fun _ => w := by
  rw [insert, dif_pos (contains_iff.mpr (mem_keys_of_find? found))]

theorem entries_insert_of_none {t : Table κ ν} {k : κ} (v : ν) (absent : t.find? k = none) :
    (t.insert k v).entries = t.entries ++ [(k, v)] := by
  rw [insert, dif_neg (by rw [contains_eq_false_iff.mpr absent]; decide)]

theorem keys_insert_of_none {t : Table κ ν} {k : κ} (v : ν) (absent : t.find? k = none) :
    (t.insert k v).keys = t.keys ++ [k] := by
  rw [keys, entries_insert_of_none v absent, List.map_append]
  rfl

theorem size_insert_of_none {t : Table κ ν} {k : κ} (v : ν) (absent : t.find? k = none) :
    (t.insert k v).size = t.size + 1 := by
  rw [size, entries_insert_of_none v absent, List.length_append]
  rfl

theorem find?_insert (t : Table κ ν) (k l : κ) (v : ν) :
    (t.insert k v).find? l = if l = k then some v else t.find? l := by
  cases found : t.find? k with
  | some w =>
    rw [insert_of_find? v found, find?_modify]
    split
    · rename_i same
      rw [same, found, Option.map_some]
    · rfl
  | none =>
    rw [find?, entries_insert_of_none v found, List.find?_append]
    by_cases same : l = k
    · subst same
      have before : t.entries.find? (·.1 = l) = none := by simpa [find?] using found
      simp [before]
    · cases before : t.entries.find? (·.1 = l) <;> simp [find?, before, same, Ne.symm same]

theorem keys_erase (t : Table κ ν) (k : κ) : (t.erase k).keys = t.keys.filter (· ≠ k) := by
  rw [keys, keys, List.filter_map]
  rfl

theorem mem_erase_iff {t : Table κ ν} {k l : κ} {v : ν} :
    (l, v) ∈ (t.erase k).entries ↔ (l, v) ∈ t.entries ∧ l ≠ k := by
  simp [erase, filter]

theorem find?_erase (t : Table κ ν) (k l : κ) :
    (t.erase k).find? l = if l = k then none else t.find? l := by
  apply Option.ext
  intro v
  rw [find?_eq_some_iff, mem_erase_iff]
  split
  · rename_i same
    simp [same]
  · rename_i other
    simp [other, find?_eq_some_iff]

theorem erase_of_none {t : Table κ ν} {k : κ} (absent : t.find? k = none) : t.erase k = t := by
  apply ext_entries
  apply List.filter_eq_self.mpr
  rintro ⟨l, v⟩ entry
  have other : l ≠ k := fun same => find?_eq_none_iff.mp absent (same ▸ mem_keys_of_mem entry)
  simpa using other

theorem erase_insert_of_none {t : Table κ ν} {k : κ} (v : ν) (absent : t.find? k = none) :
    (t.insert k v).erase k = t := by
  apply ext_entries
  have kept := congrArg Table.entries (erase_of_none absent)
  simp only [erase, filter] at kept ⊢
  rw [entries_insert_of_none v absent, List.filter_append, kept]
  simp

@[simp] theorem erase_modify (t : Table κ ν) (k : κ) (f : ν → ν) : (t.modify k f).erase k = t.erase k := by
  apply ext_entries
  simp only [modify, map, erase, filter, List.filter_map]
  have kept : ∀ e ∈ t.entries.filter ((fun e => decide (e.1 ≠ k)) ∘ fun e => (e.1, if e.1 = k then f e.2 else e.2)),
      (e.1, if e.1 = k then f e.2 else e.2) = e := by
    intro e member
    have other : e.1 ≠ k := by simpa using (List.mem_filter.mp member).2
    rw [if_neg other]
  exact (List.map_congr_left kept).trans (List.map_id' _)

theorem size_erase {t : Table κ ν} {k : κ} {v : ν} (found : t.find? k = some v) :
    (t.erase k).size + 1 = t.size := by
  have inside : k ∈ t.keys := mem_keys_of_find? found
  have rest : (t.erase k).keys = t.keys.erase k := by
    rw [keys_erase, t.keys_nodup.erase_eq_filter]
    exact List.filter_congr fun l _ => by simp only [ne_eq, decide_not, bne, beq_eq_decide]
  rw [← keys_length, ← keys_length, rest, List.length_erase_of_mem inside]
  exact Nat.sub_add_cancel (List.length_pos_of_mem inside)

end Table

end Scrimmage
