namespace Scrimmage

/-- Finite tables: entries in the order in which their keys came in, each key once. A new key goes to the end, a
key that is there keeps its place, and erasing leaves the order of the others, so that adding a key and erasing
it again gives the same table. -/
structure Table (κ ν : Type) where
  entries : List (κ × ν)
  nodup : (entries.map (·.1)).Nodup

namespace Table

variable {κ ν : Type}

def empty : Table κ ν := ⟨[], by simp⟩

instance : Inhabited (Table κ ν) := ⟨empty⟩

def size (t : Table κ ν) : Nat := t.entries.length

def keys (t : Table κ ν) : List κ := t.entries.map (·.1)

def values (t : Table κ ν) : List ν := t.entries.map (·.2)

/-- Changes values in place. -/
def map (t : Table κ ν) (f : κ → ν → ν) : Table κ ν :=
  ⟨t.entries.map fun (k, v) => (k, f k v), by simpa [List.map_map, Function.comp_def] using t.nodup⟩

/-- Keeps the entries with a property. -/
def filter (t : Table κ ν) (keep : κ → ν → Bool) : Table κ ν :=
  ⟨t.entries.filter fun (k, v) => keep k v, t.nodup.sublist (List.filter_sublist.map _)⟩

variable [DecidableEq κ]

def find? (t : Table κ ν) (k : κ) : Option ν := (t.entries.find? (·.1 = k)).map (·.2)

def contains (t : Table κ ν) (k : κ) : Bool := (t.find? k).isSome

theorem find?_eq_none_iff {t : Table κ ν} {k : κ} : t.find? k = none ↔ k ∉ t.keys := by
  simp only [find?, keys, Option.map_eq_none_iff, List.find?_eq_none, List.mem_map, decide_eq_true_eq,
    not_exists, not_and]

theorem contains_eq_false {t : Table κ ν} {k : κ} (h : ¬t.contains k = true) : k ∉ t.keys := by
  rw [← find?_eq_none_iff]
  simpa [contains] using h

/-- Changes the value of a key in place, if the key is there. -/
def modify (t : Table κ ν) (k : κ) (f : ν → ν) : Table κ ν := t.map fun l v => if l = k then f v else v

/-- Sets the value of a key. -/
def insert (t : Table κ ν) (k : κ) (v : ν) : Table κ ν :=
  if h : t.contains k then t.modify k fun _ => v
  else
    ⟨t.entries ++ [(k, v)], by
      have absent := contains_eq_false h
      simp only [List.map_append, List.map_cons, List.map_nil]
      exact List.nodup_append.2 ⟨t.nodup, by simp, by
        intro a inside b single same
        simp only [List.mem_cons, List.not_mem_nil, or_false] at single
        exact absent (single ▸ same ▸ inside)⟩⟩

def erase (t : Table κ ν) (k : κ) : Table κ ν := t.filter fun l _ => l ≠ k

end Table

end Scrimmage
