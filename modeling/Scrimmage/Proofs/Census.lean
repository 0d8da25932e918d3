import Scrimmage.Proofs.Service

namespace Scrimmage

theorem Table.countP_values {κ ν : Type} [DecidableEq κ] (t : Table κ ν) (P : ν → Bool) :
    t.values.countP P = (t.keys.filter fun k => (t.find? k).any P).length := by
  rw [values, keys, List.countP_map, ← List.countP_eq_length_filter, List.countP_map]
  apply List.countP_congr
  rintro ⟨k, v⟩ entry
  simp only [Function.comp_apply, find?_eq_some_iff.mpr entry, Option.any_some]

theorem Table.mem_filter_keys_iff {κ ν : Type} [DecidableEq κ] {t : Table κ ν} {P : ν → Bool} {k : κ} :
    k ∈ t.keys.filter (fun k => (t.find? k).any P) ↔ ∃ v, t.find? k = some v ∧ P v = true := by
  rw [List.mem_filter, mem_keys_iff, Option.any_eq_true_iff_get]
  constructor
  · rintro ⟨⟨v, found⟩, there, holds⟩
    exact ⟨v, found, by simpa [found] using holds⟩
  · rintro ⟨v, found, holds⟩
    exact ⟨⟨v, found⟩, by simp [found], by simpa [found] using holds⟩

theorem length_eq_of_mem_iff {α : Type} {l m : List α} (one : l.Nodup) (other : m.Nodup)
    (same : ∀ a, a ∈ l ↔ a ∈ m) : l.length = m.length :=
  List.Perm.length_eq ((List.perm_ext_iff_of_nodup one other).mpr same)

theorem Table.size_congr {κ ν ν' : Type} [DecidableEq κ] {s : Table κ ν} {t : Table κ ν'}
    (same : ∀ k, (s.find? k).isSome = (t.find? k).isSome) : s.size = t.size := by
  rw [← keys_length, ← keys_length]
  refine length_eq_of_mem_iff s.keys_nodup t.keys_nodup fun k => ?_
  rw [← contains_iff, ← contains_iff, contains, contains, same]

theorem Table.countP_values_eq {κ ν : Type} [DecidableEq κ] {s t : Table κ ν} {P : ν → Bool}
    (same : ∀ k, (s.find? k).any P = (t.find? k).any P) : s.values.countP P = t.values.countP P := by
  rw [countP_values, countP_values]
  refine length_eq_of_mem_iff (s.keys_nodup.filter _) (t.keys_nodup.filter _) fun k => ?_
  have here := same k
  rwa [Bool.eq_iff_iff, Option.any_eq_true, Option.any_eq_true, ← mem_filter_keys_iff, ← mem_filter_keys_iff] at here

theorem Table.countP_values_without {κ ν : Type} [DecidableEq κ] {s t : Table κ ν} {P : ν → Bool} {k : κ} {v : ν}
    (found : t.find? k = some v) (holds : P v = true) (fails : (s.find? k).any P = false)
    (others : ∀ l, l ≠ k → (s.find? l).any P = (t.find? l).any P) : s.values.countP P + 1 = t.values.countP P := by
  have nodup : (t.keys.filter fun l => (t.find? l).any P).Nodup := t.keys_nodup.filter _
  have inside : k ∈ t.keys.filter fun l => (t.find? l).any P := mem_filter_keys_iff.mpr ⟨v, found, holds⟩
  -- neither list has a repetition, so it is enough that they have the same members
  have rest : s.values.countP P = ((t.keys.filter fun l => (t.find? l).any P).erase k).length := by
    rw [countP_values]
    refine length_eq_of_mem_iff (s.keys_nodup.filter _) (nodup.erase k) fun l => ?_
    rw [nodup.mem_erase_iff, mem_filter_keys_iff, mem_filter_keys_iff, ← Option.any_eq_true, ← Option.any_eq_true]
    by_cases here : l = k
    · simp [here, fails]
    · simp [here, others l here]
  rw [rest, List.length_erase_of_mem inside, countP_values]
  exact Nat.sub_add_cancel (List.length_pos_of_mem inside)

namespace Registry

def population (r : Registry) (name : String) : Nat := r.members.values.countP (·.game = some name)

namespace Coherent

variable {r : Registry} (coherent : r.Coherent)

include coherent

theorem population_eq_size {name : String} {h : HostedGame} (found : r.games.find? name = some h) :
    r.population name = h.game.size := by
  have sound := (coherent.lives name h found).sound
  rw [population, Table.countP_values, ← Game.members_length]
  refine length_eq_of_mem_iff (r.members.keys_nodup.filter _) sound.members_nodup ?_
  intro c
  rw [Table.mem_filter_keys_iff]
  simp only [decide_eq_true_eq, ← recorded?_eq_some_iff, coherent.recorded_iff, found, Option.some.injEq,
    exists_eq_left']

theorem population_eq_zero {name : String} (absent : r.games.find? name = none) : r.population name = 0 := by
  rw [population, Table.countP_values, List.length_eq_zero_iff, List.eq_nil_iff_forall_not_mem]
  intro c
  rw [Table.mem_filter_keys_iff]
  simp only [decide_eq_true_eq, ← recorded?_eq_some_iff, coherent.recorded_iff, absent, reduceCtorEq, false_and,
    exists_false, not_false_eq_true]

theorem countP_outside : r.members.values.countP (·.game = none) = r.unjoined.length := by
  rw [Table.countP_values]
  refine length_eq_of_mem_iff (r.members.keys_nodup.filter _) coherent.unjoined_nodup ?_
  intro c
  rw [Table.mem_filter_keys_iff, coherent.unjoined_iff]
  simp only [decide_eq_true_eq]

/-- The players of all games are the connections that are recorded in one. -/
theorem countP_inside :
    r.members.values.countP (·.game.isSome) = (r.games.values.map (·.game.size)).sum := by
  have players : (r.games.values.map (·.game.size)).sum =
      (r.games.entries.flatMap fun entry => entry.2.game.members).length := by
    simp only [Table.values, List.map_map, List.length_flatMap, Function.comp_def, Game.members_length]
  rw [Table.countP_values, players]
  refine length_eq_of_mem_iff (r.members.keys_nodup.filter _) ?_ ?_
  · rw [List.nodup_flatMap]
    constructor
    · rintro ⟨name, h⟩ entry
      exact (coherent.lives name h (Table.find?_eq_some_iff.mpr entry)).sound.members_nodup
    · refine (List.pairwise_map.mp r.games.nodup).imp_of_mem ?_
      rintro ⟨name, h⟩ ⟨other, k⟩ entry entry' different c member member'
      have here := (coherent.recorded_iff c name).mpr ⟨h, Table.find?_eq_some_iff.mpr entry, member⟩
      have there := (coherent.recorded_iff c other).mpr ⟨k, Table.find?_eq_some_iff.mpr entry', member'⟩
      exact different (Option.some.inj (here.symm.trans there))
  · intro c
    rw [Table.mem_filter_keys_iff, List.mem_flatMap]
    constructor
    · rintro ⟨m, known, inside⟩
      obtain ⟨name, at'⟩ := Option.isSome_iff_exists.mp inside
      obtain ⟨h, hosts, member⟩ := coherent.hosts_of_game known at'
      exact ⟨(name, h), Table.find?_eq_some_iff.mp hosts.found, member⟩
    · rintro ⟨⟨name, h⟩, entry, member⟩
      have recorded := (coherent.recorded_iff c name).mpr ⟨h, Table.find?_eq_some_iff.mpr entry, member⟩
      obtain ⟨m, known, at'⟩ := recorded?_eq_some_iff.mp recorded
      exact ⟨m, known, by rw [at', Option.isSome_some]⟩

theorem registered_eq : r.members.size = r.unjoined.length + (r.games.values.map (·.game.size)).sum := by
  rw [← Table.values_length, List.length_eq_countP_add_countP (·.game = none), coherent.countP_outside,
    ← coherent.countP_inside]
  congr 1
  apply List.countP_congr
  intro m _
  cases m.game <;> simp

theorem games_eq : r.games.size = (r.members.values.filterMap (·.game)).dedup.length := by
  rw [← Table.keys_length]
  refine length_eq_of_mem_iff r.games.keys_nodup (List.nodup_dedup _) ?_
  intro name
  rw [List.mem_dedup, List.mem_filterMap]
  constructor
  · intro key
    obtain ⟨h, found⟩ := Table.mem_keys_iff.mp key
    have peopled := (coherent.lives name h found).peopled
    rw [← Game.members_length] at peopled
    obtain ⟨c, member⟩ := List.exists_mem_of_length_pos peopled
    obtain ⟨m, known, at'⟩ := recorded?_eq_some_iff.mp ((coherent.recorded_iff c name).mpr ⟨h, found, member⟩)
    exact ⟨m, Table.mem_values_iff.mpr ⟨c, known⟩, at'⟩
  · rintro ⟨m, value, at'⟩
    obtain ⟨c, known⟩ := Table.mem_values_iff.mp value
    obtain ⟨h, hosts, _⟩ := coherent.hosts_of_game known at'
    exact Table.mem_keys_of_find? hosts.found

/-- A listing counts the connections that are recorded in a game. -/
theorem listing_eq (name : String) :
    (r.listing name).1 =
      if r.population name = 0 then none else some { name, players := r.population name } := by
  cases found : r.games.find? name with
  | none => rw [Registry.listing, gameRef?_eq_none found, if_pos (coherent.population_eq_zero found)]
  | some h =>
    have hosts := coherent.hosts found
    have peopled := (coherent.lives name h found).peopled
    rw [coherent.population_eq_size found, if_neg peopled.ne']
    simp only [Registry.listing, gameRef?_of_hosts hosts, sendTo_hosts hosts]
    rfl

end Coherent

/-- A registry from its start on. It handles any requests but a shutdown, its games get any other messages
than those that are left to the registry, and the queues may be any at any time. -/
inductive Governs (capacity : Nat) : Registry → Prop
  | start : Governs capacity (create capacity)
  | request {r} (q : RegistryRequest) : Governs capacity r → (∀ timeout, q ≠ .shutdown timeout) →
      Governs capacity (r.ask q).2
  | game {r} (ref : GameRef) (q : GameRequest) : Governs capacity r → q.Open → Governs capacity (r.askGame ref q).2
  | queues {r} (x : Exchange) : Governs capacity r → Governs capacity { r with exchange := x }

theorem Governs.serves {capacity : Nat} {r : Registry} (governs : Governs capacity r) : r.Serves capacity := by
  induction governs with
  | start => exact create_serves capacity
  | request q _ stays ih => exact ih.ask stays
  | game ref q _ isOpen ih => exact ih.askGame ref isOpen
  | queues x _ ih => exact ih.queues x

/-- The tables of the registry and the rosters of its games say the same, and so does what is reported. The
players of a game are the connections that are recorded in it, so that a listing counts them, and every
registered connection is counted once in a summary. -/
structure Tallies (r : Registry) : Prop where
  unjoined_iff : ∀ c, c ∈ r.unjoined ↔ ∃ m, r.members.find? c = some m ∧ m.game = none
  unjoined_nodup : r.unjoined.Nodup
  /-- A connection is recorded in a game exactly if it is in one of the two teams and not in the other. -/
  recorded_iff : ∀ c name, r.recorded? c = some name ↔
    ∃ h, r.games.find? name = some h ∧ Xor (c ∈ h.game.first.keys) (c ∈ h.game.second.keys)
  /-- A player in any team is registered, and is in no other game. -/
  alone : ∀ c name h team, r.games.find? name = some h → c ∈ (h.game.side team).keys →
    c ∈ r.members.keys ∧ ∀ other k side, r.games.find? other = some k → c ∈ (k.game.side side).keys →
      other = name ∧ side = team
  peopled : ∀ name h, r.games.find? name = some h → 0 < h.game.size
  listing : ∀ name, (r.ask (.listing name)).1 =
    .ok (.listing (if r.population name = 0 then none else some { name, players := r.population name }))
  /-- Every registered connection is in one game or in none, and every game has someone recorded in it. -/
  summary : ∃ report, (r.ask .summary).1 = .ok (.summary report) ∧
    report.games = (r.members.values.filterMap (·.game)).dedup.length ∧ report.registered = r.members.size ∧
    report.unjoined = r.members.values.countP (·.game = none) ∧
    report.registered = report.unjoined + (r.games.values.map (·.game.size)).sum

/-- Between any two messages the membership that the registry keeps and the rosters of the games agree, every
game has a player, and the reports count what is recorded. -/
theorem Governs.tallies {capacity : Nat} {r : Registry} (governs : Governs capacity r) : r.Tallies where
  unjoined_iff := governs.serves.coherent.unjoined_iff
  unjoined_nodup := governs.serves.coherent.unjoined_nodup
  recorded_iff c name := by
    refine (governs.serves.coherent.recorded_iff c name).trans (exists_congr fun h => and_congr_right fun found => ?_)
    have sound := (governs.serves.coherent.lives name h found).sound
    rw [Game.members, List.mem_append]
    constructor
    · rintro (first | second)
      · exact Or.inl ⟨first, sound.apart first⟩
      · exact Or.inr ⟨second, fun first => sound.apart first second⟩
    · rintro (⟨first, _⟩ | ⟨second, _⟩)
      · exact Or.inl first
      · exact Or.inr second
  alone c name h team found key := by
    have coherent := governs.serves.coherent
    have here := (coherent.recorded_iff c name).mpr ⟨h, found, Game.mem_members_iff.mpr ⟨team, key⟩⟩
    obtain ⟨m, known, _⟩ := recorded?_eq_some_iff.mp here
    refine ⟨Table.mem_keys_of_find? known, ?_⟩
    intro other k side found' key'
    have there := (coherent.recorded_iff c other).mpr ⟨k, found', Game.mem_members_iff.mpr ⟨side, key'⟩⟩
    cases Option.some.inj (here.symm.trans there)
    cases found.symm.trans found'
    exact ⟨rfl, (coherent.lives name h found).sound.team_unique key' key⟩
  peopled name h found := (governs.serves.coherent.lives name h found).peopled
  listing name := by
    rw [governs.serves.ask_eq (q := .listing name) (by simp)]
    have listed := governs.serves.opened.coherent.listing_eq name
    exact congrArg (fun listing => Except.ok (RegistryAnswer.listing listing)) listed
  summary := by
    have coherent := governs.serves.coherent
    rw [governs.serves.ask_eq (q := .summary) (by simp)]
    exact ⟨_, rfl, coherent.games_eq, rfl, coherent.countP_outside.symm, coherent.registered_eq⟩

/-- Three connections come, two of them play and one of these leaves again. -/
def gathering : Registry :=
  [.register ⟨1⟩ ⟨⟨1⟩, 0⟩, .register ⟨2⟩ ⟨⟨2⟩, 1⟩, .register ⟨3⟩ ⟨⟨3⟩, 2⟩, .join ⟨⟨1⟩, "ring", "Ada", .first, none⟩,
    .join ⟨⟨2⟩, "ring", "Bo", .first, none⟩, .unregister ⟨1⟩].foldl (fun r q => (r.ask q).2) (create 5)

theorem Governs.tallies_gathering :
    gathering.Tallies ∧ gathering.population "ring" = 1 ∧
      (gathering.ask (.listing "ring")).1 = .ok (.listing (some { name := "ring", players := 1 })) := by
  have governs : Governs 5 gathering :=
    .request _ (.request _ (.request _ (.request _ (.request _ (.request _ .start
      nofun) nofun) nofun) nofun) nofun) nofun
  have one : gathering.population "ring" = 1 := by decide
  have listing := governs.tallies.listing "ring"
  rw [one] at listing
  exact ⟨governs.tallies, one, listing⟩

end Registry

end Scrimmage
