import Scrimmage.Proofs.Gauge

namespace Scrimmage

open Decimal (Binary64)

/-- One more of what is counted, or one less, with the one whom it is about. An entry in the books is a tally
and the word that it has led to. -/
inductive Tally (ι : Type)
  | came (who : ι)
  | went (who : ι)
  deriving DecidableEq

/-- What a word comes to as it follows its entries, the latest of which come first. Every entry is kept with the word
that it has led to, which is what a gauge is to be set to. The word stays in its range. -/
inductive Counts {ι : Type} : List (Tally ι × UInt64) → UInt64 → Prop
  | start : Counts [] 0
  | came {entries : List (Tally ι × UInt64)} {count : UInt64} (who : ι) : Counts entries count →
      count.toNat + 1 < 2 ^ 64 → Counts ((.came who, count + 1) :: entries) (count + 1)
  | went {entries : List (Tally ι × UInt64)} {count : UInt64} (who : ι) : Counts entries count →
      0 < count.toNat → Counts ((.went who, count - 1) :: entries) (count - 1)

theorem Counts.head? {ι : Type} {entries : List (Tally ι × UInt64)} {count : UInt64} (counts : Counts entries count) :
    entries.head?.map (·.2) = if entries.isEmpty then none else some count := by
  cases counts <;> rfl

/-- The books of what is counted: all that are known have come once, and those of them that are not present have
gone once. The word is the number of those that are present, so that it never wraps as long as they are fewer
than its range. -/
structure Books {ι : Type} (entries : List (Tally ι × UInt64)) (known present : ι → Prop) (number : Nat)
    (count : UInt64) : Prop where
  counts : Counts entries count
  exact : count.toNat = number
  once : (entries.map (·.1)).Nodup
  came : ∀ i, .came i ∈ entries.map (·.1) ↔ known i
  went : ∀ i, .went i ∈ entries.map (·.1) ↔ known i ∧ ¬present i

namespace Books

variable {ι : Type} {entries : List (Tally ι × UInt64)} {known present : ι → Prop} {number : Nat} {count : UInt64}

theorem empty {known present : ι → Prop} (none : ∀ i, ¬known i) : Books [] known present 0 0 where
  counts := .start
  exact := rfl
  once := .nil
  came i := by simp [none i]
  went i := by simp [none i]

variable (books : Books entries known present number count)

include books

theorem congr {known' present' : ι → Prop} {number' : Nat} {count' : UInt64}
    (sameKnown : ∀ i, known' i ↔ known i) (samePresent : ∀ i, present' i ↔ present i) (sameNumber : number' = number)
    (sameCount : count' = count) : Books entries known' present' number' count' := by
  cases sameNumber
  cases sameCount
  exact {
    books with
    came := fun i => (books.came i).trans (sameKnown i).symm
    went := fun i => by rw [books.went, sameKnown, samePresent] }

theorem come {who : ι} {known' present' : ι → Prop} (new : ¬known who) (room : number + 1 < 2 ^ 64)
    (knows : ∀ i, known' i ↔ known i ∨ i = who) (presents : ∀ i, present' i ↔ present i ∨ i = who) :
    Books ((.came who, count + 1) :: entries) known' present' (number + 1) (count + 1) where
  counts := books.counts.came who (books.exact ▸ room)
  exact := by
    rw [← books.exact, UInt64.toNat_add, UInt64.toNat_one, Nat.mod_eq_of_lt (books.exact ▸ room)]
  once := List.nodup_cons.mpr ⟨fun before => new ((books.came who).mp before), books.once⟩
  came i := by
    rw [knows, List.map_cons, List.mem_cons, books.came, Tally.came.injEq, or_comm]
  went i := by
    have other : Tally.went i ∈ Tally.came who :: entries.map (·.1) ↔ Tally.went i ∈ entries.map (·.1) := by
      rw [List.mem_cons, or_iff_right (fun same => by cases same)]
    rw [List.map_cons, other, books.went, knows, presents]
    constructor
    · rintro ⟨has, gone⟩
      refine ⟨Or.inl has, ?_⟩
      rintro (there | rfl)
      · exact gone there
      · exact new has
    · rintro ⟨has | rfl, gone⟩
      · exact ⟨has, fun there => gone (Or.inl there)⟩
      · exact absurd (Or.inr rfl) gone

theorem go {who : ι} {left : Nat} {present' : ι → Prop} (has : known who) (there : present who)
    (less : left + 1 = number) (presents : ∀ i, present' i ↔ present i ∧ i ≠ who) :
    Books ((.went who, count - 1) :: entries) known present' left (count - 1) where
  counts := books.counts.went who (by rw [books.exact, ← less]; exact left.succ_pos)
  exact := by
    have some : 1 ≤ count := UInt64.le_iff_toNat_le.mpr (by rw [books.exact, ← less]; exact left.succ_pos)
    rw [UInt64.toNat_sub_of_le _ _ some, books.exact, ← less, UInt64.toNat_one, Nat.add_sub_cancel]
  once := List.nodup_cons.mpr ⟨fun before => ((books.went who).mp before).2 there, books.once⟩
  came i := by
    rw [List.map_cons, List.mem_cons, or_iff_right (fun same => by cases same), books.came]
  went i := by
    rw [List.map_cons, List.mem_cons, books.went, presents, Tally.went.injEq]
    constructor
    · rintro (rfl | ⟨known, gone⟩)
      · exact ⟨has, fun still => still.2 rfl⟩
      · exact ⟨known, fun still => gone still.1⟩
    · rintro ⟨known, gone⟩
      by_cases here : i = who
      · exact Or.inl here
      · exact Or.inr ⟨known, fun still => gone ⟨still, here⟩⟩

theorem head?_of_known {i : ι} (has : known i) : entries.head?.map (·.2) = some count := by
  rw [books.counts.head?, if_neg]
  intro empty
  have inside := (books.came i).mpr has
  rw [List.isEmpty_iff.mp empty] at inside
  cases inside

theorem head?_of_none (none : ∀ i, ¬known i) : entries.head?.map (·.2) = .none := by
  rw [books.counts.head?, if_pos]
  rw [List.isEmpty_iff, ← List.map_eq_nil_iff (f := (·.1)), List.eq_nil_iff_forall_not_mem]
  rintro (i | i) inside
  · exact none i ((books.came i).mp inside)
  · exact none i ((books.went i).mp inside).1

end Books

def gamesGauge : Series := ⟨"gs_games_active", none⟩

def sessionsGauge : Series := ⟨"gs_sessions_active", none⟩

namespace Journal

/-- What a gauge was set to, the latest value first. -/
def settings (j : Journal) (s : Series) : List UInt64 :=
  ((j.filterMap Measurement.gauge?).filter (·.1 = s)).map (·.2)

/-- What a gauge shows, if it was set. -/
def gauge? (j : Journal) (s : Series) : Option UInt64 := (j.gauges.find? (·.1 = s)).map (·.2)

theorem mem_distinct {series : List Series} {s : Series} : s ∈ distinct series ↔ s ∈ series := by
  suffices mem : ∀ seen : List Series,
      s ∈ series.foldl (fun seen s => if s ∈ seen then seen else seen ++ [s]) seen ↔ s ∈ seen ∨ s ∈ series by
    simpa [distinct] using mem []
  induction series with
  | nil => simp
  | cons t series ih =>
    intro seen
    rw [List.foldl_cons, ih]
    split
    · rename_i old
      constructor
      · exact Or.imp_right (List.mem_cons_of_mem _)
      · rintro (before | now)
        · exact Or.inl before
        · rcases List.mem_cons.mp now with rfl | later
          · exact Or.inl old
          · exact Or.inr later
    · rw [List.mem_append, List.mem_singleton, List.mem_cons, or_assoc]

theorem find?_latest (set : List (Series × UInt64)) (series : List Series) (s : Series) :
    (series.filterMap fun t => set.find? (·.1 = t)).find? (·.1 = s) =
      if s ∈ series then set.find? (·.1 = s) else none := by
  induction series with
  | nil => rfl
  | cons t series ih =>
    cases latest : set.find? (·.1 = t) with
    | none =>
      simp only [List.filterMap_cons, latest, ih]
      by_cases here : s = t
      · subst here
        simp [latest]
      · simp [here]
    | some entry =>
      have name : entry.1 = t := by simpa using List.find?_some latest
      simp only [List.filterMap_cons, latest, List.find?_cons, ih, name]
      by_cases here : t = s
      · subst here
        simp [latest]
      · simp [here, Ne.symm here]

theorem gauge?_eq (j : Journal) (s : Series) : j.gauge? s = (j.settings s).head? := by
  have latest : j.gauges.find? (·.1 = s) = (j.filterMap Measurement.gauge?).find? (·.1 = s) := by
    rw [gauges, find?_latest]
    split
    · rfl
    · rename_i never
      rw [mem_distinct] at never
      symm
      rw [List.find?_eq_none]
      intro entry member same
      exact never (of_decide_eq_true same ▸ List.mem_map_of_mem member)
  rw [gauge?, latest, settings, List.head?_map, List.head?_filter]

end Journal

theorem Telemetry.SameGauges.settings {t t' : Telemetry} (same : t.SameGauges t') (s : Series) :
    t'.journal.settings s = t.journal.settings s := by
  rw [Journal.settings, same.set, Journal.settings]

namespace Telemetry

theorem lowered_eq {count : UInt64} (some : 0 < count.toNat) : lowered count = count - 1 :=
  if_neg fun zero => by rw [zero] at some; exact absurd some (by decide)

theorem settings_gameRemoved {t : Telemetry} (some : 0 < t.games.toNat) :
    t.gameRemoved.journal.settings gamesGauge = (t.games - 1) :: t.journal.settings gamesGauge := by
  rw [← lowered_eq some]
  rfl

end Telemetry

namespace Decimal.Binary64

end Decimal.Binary64

namespace Registry

/-- There is a game of that generation. -/
def HasGame (r : Registry) (generation : Nat) : Prop :=
  ∃ name h, r.games.find? name = some h ∧ h.generation = generation

/-- The gauge still counts the game of that generation: it is in the table, or the registry has left it behind. -/
def StillCounts (r : Registry) (generation : Nat) : Prop := r.HasGame generation ∨ generation ∈ r.abandoned

/-- The books of the games, and what the gauge was set to. Every game has a generation of its own, those included that
the registry has left behind. -/
structure Accounts (r : Registry) (entries : List (Tally Nat × UInt64)) : Prop where
  books : Books entries (· < r.nextGeneration) r.StillCounts (r.games.size + r.abandoned.length)
    r.exchange.telemetry.games
  shown : r.exchange.telemetry.journal.settings gamesGauge = entries.map (·.2)
  dated : ∀ {name h}, r.games.find? name = some h → h.generation < r.nextGeneration
  apart : ∀ {name other h k}, r.games.find? name = some h → r.games.find? other = some k →
    h.generation = k.generation → name = other
  left : ∀ g ∈ r.abandoned, g < r.nextGeneration ∧ ¬r.HasGame g

/-- Sessions are counted, and whatever else is measured that is not about games. -/
theorem Accounts.queues {r : Registry} {entries : List (Tally Nat × UInt64)} (accounts : r.Accounts entries)
    {x : Exchange} (word : x.telemetry.games = r.exchange.telemetry.games)
    (set : x.telemetry.journal.settings gamesGauge = r.exchange.telemetry.journal.settings gamesGauge) :
    Accounts { r with exchange := x } entries where
  books := accounts.books.congr (fun _ => .rfl) (fun _ => .rfl) rfl word
  shown := set.trans accounts.shown
  dated := accounts.dated
  apart := accounts.apart
  left := accounts.left

theorem Accounts.of_same {r after : Registry} {entries : List (Tally Nat × UInt64)} (accounts : r.Accounts entries)
    (gauges : r.exchange.telemetry.SameGauges after.exchange.telemetry)
    (games : ∀ name, (after.games.find? name).map (·.generation) = (r.games.find? name).map (·.generation))
    (next : after.nextGeneration = r.nextGeneration) (abandoned : after.abandoned = r.abandoned) :
    after.Accounts entries := by
  have back : ∀ {name h}, after.games.find? name = some h →
      ∃ h', r.games.find? name = some h' ∧ h'.generation = h.generation := by
    intro name h found
    have same := games name
    rw [found] at same
    exact Option.map_eq_some_iff.mp same.symm
  have forth : ∀ {name h}, r.games.find? name = some h →
      ∃ h', after.games.find? name = some h' ∧ h'.generation = h.generation := by
    intro name h found
    have same := games name
    rw [found] at same
    exact Option.map_eq_some_iff.mp same
  have has : ∀ g, after.HasGame g ↔ r.HasGame g := by
    refine fun g => ⟨?_, ?_⟩
    · rintro ⟨name, h, found, rfl⟩
      obtain ⟨h', found', same⟩ := back found
      exact ⟨name, h', found', same⟩
    · rintro ⟨name, h, found, rfl⟩
      obtain ⟨h', found', same⟩ := forth found
      exact ⟨name, h', found', same⟩
  exact {
    books := accounts.books.congr (fun _ => by rw [next]) (fun g => by rw [StillCounts, has, abandoned]; rfl)
      (by rw [size_eq_of_generations games, abandoned]) gauges.games
    shown := (gauges.settings _).trans accounts.shown
    dated := by
      intro name h found
      obtain ⟨h', found', same⟩ := back found
      rw [next, ← same]
      exact accounts.dated found'
    apart := by
      intro name other h k found found' same
      obtain ⟨h', before, sameH⟩ := back found
      obtain ⟨k', before', sameK⟩ := back found'
      exact accounts.apart before before' ((sameH.trans same).trans sameK.symm)
    left := by
      intro g inside
      rw [next, has]
      exact accounts.left g (abandoned ▸ inside) }

namespace Turnover

variable {limit : Nat} {r after : Registry}

theorem sessions (turnover : Turnover limit r after) :
    after.exchange.telemetry.sessions = r.exchange.telemetry.sessions ∧
      after.exchange.telemetry.journal.settings sessionsGauge =
        r.exchange.telemetry.journal.settings sessionsGauge := by
  induction turnover with
  | still gauges => exact ⟨gauges.sessions, gauges.settings _⟩
  | begun => exact ⟨rfl, rfl⟩
  | gone => exact ⟨rfl, rfl⟩
  | trans _ _ first second => exact ⟨second.1.trans first.1, second.2.trans first.2⟩

theorem begun_accounts {entries : List (Tally Nat × UInt64)} (accounts : r.Accounts entries) {name : String}
    (absent : r.games.find? name = none) (room : r.games.size + r.abandoned.length + 1 < 2 ^ 64) :
    (r.createGame name).2.Accounts ((.came r.nextGeneration, r.exchange.telemetry.games + 1) :: entries) := by
  have found : ∀ other, (r.createGame name).2.games.find? other =
      if other = name then some (.start r.nextGeneration name r.capacity) else r.games.find? other :=
    fun other => Table.find?_insert ..
  have back : ∀ {other h}, (r.createGame name).2.games.find? other = some h →
      other = name ∧ h.generation = r.nextGeneration ∨ other ≠ name ∧ r.games.find? other = some h := by
    intro other h there
    rw [found] at there
    split at there
    · rename_i here
      cases there
      exact Or.inl ⟨here, rfl⟩
    · rename_i elsewhere
      exact Or.inr ⟨elsewhere, there⟩
  have has : ∀ g, (r.createGame name).2.HasGame g ↔ r.HasGame g ∨ g = r.nextGeneration := by
    refine fun g => ⟨?_, ?_⟩
    · rintro ⟨other, h, there, rfl⟩
      rcases back there with ⟨_, new⟩ | ⟨_, before⟩
      · exact Or.inr new
      · exact Or.inl ⟨other, h, before, rfl⟩
    · rintro (⟨other, h, before, rfl⟩ | rfl)
      · have elsewhere : other ≠ name := fun here => by cases absent.symm.trans (here ▸ before)
        exact ⟨other, h, by rw [found, if_neg elsewhere, before], rfl⟩
      · exact ⟨name, _, by rw [found, if_pos rfl], rfl⟩
  have size : (r.createGame name).2.games.size + r.abandoned.length = r.games.size + r.abandoned.length + 1 := by
    rw [show (r.createGame name).2.games.size = r.games.size + 1 from Table.size_insert_of_none _ absent,
      Nat.add_right_comm]
  exact {
    books := by
      have present : ∀ g, (r.createGame name).2.StillCounts g ↔ r.StillCounts g ∨ g = r.nextGeneration := by
        intro g
        rw [StillCounts, has, StillCounts, or_right_comm]
        rfl
      have entered := accounts.books.come (Nat.lt_irrefl _) room (fun g => Nat.lt_succ_iff_lt_or_eq) present
      rw [← size] at entered
      exact entered
    shown := congrArg ((r.exchange.telemetry.games + 1) :: ·) accounts.shown
    dated := by
      intro other h there
      rcases back there with ⟨_, new⟩ | ⟨_, before⟩
      · rw [new]
        exact Nat.lt_succ_self _
      · exact Nat.lt_succ_of_lt (accounts.dated before)
    apart := by
      intro other other' h k there there' same
      rcases back there with ⟨here, new⟩ | ⟨_, before⟩
      · rcases back there' with ⟨here', _⟩ | ⟨_, before'⟩
        · exact here.trans here'.symm
        · exact absurd (same ▸ new) (accounts.dated before').ne
      · rcases back there' with ⟨_, new⟩ | ⟨_, before'⟩
        · exact absurd (same.trans new) (accounts.dated before).ne
        · exact accounts.apart before before' same
    left := by
      intro g inside
      obtain ⟨before, gone⟩ := accounts.left g inside
      refine ⟨Nat.lt_succ_of_lt before, fun there => ?_⟩
      rcases (has g).mp there with still | rfl
      · exact gone still
      · exact Nat.lt_irrefl _ before }

theorem gone_accounts {entries : List (Tally Nat × UInt64)} (accounts : r.Accounts entries) {name : String}
    {h : HostedGame} (found : r.games.find? name = some h) :
    ({ r with games := r.games.erase name }.measure (·.gameRemoved)).Accounts
      ((.went h.generation, r.exchange.telemetry.games - 1) :: entries) := by
  have back : ∀ {other k}, (r.games.erase name).find? other = some k → other ≠ name ∧ r.games.find? other = some k := by
    intro other k there
    rw [Table.find?_erase] at there
    split at there
    · cases there
    · rename_i elsewhere
      exact ⟨elsewhere, there⟩
  have has : ∀ g, ({ r with games := r.games.erase name }.measure (·.gameRemoved)).HasGame g ↔
      r.HasGame g ∧ g ≠ h.generation := by
    refine fun g => ⟨?_, ?_⟩
    · rintro ⟨other, k, there, rfl⟩
      obtain ⟨elsewhere, before⟩ := back there
      exact ⟨⟨other, k, before, rfl⟩, fun same => elsewhere (accounts.apart before found same)⟩
    · rintro ⟨⟨other, k, before, rfl⟩, different⟩
      have elsewhere : other ≠ name := by
        rintro rfl
        cases before.symm.trans found
        exact different rfl
      exact ⟨other, k, (Table.find?_erase ..).trans ((if_neg elsewhere).trans before), rfl⟩
  have fewer : (r.games.erase name).size + r.abandoned.length + 1 = r.games.size + r.abandoned.length := by
    rw [Nat.add_right_comm, Table.size_erase found]
  -- what was left behind before is not in the table, and stays counted
  have apart : ∀ g ∈ r.abandoned, g ≠ h.generation := fun g inside same =>
    (accounts.left g inside).2 ⟨name, h, found, same.symm⟩
  exact {
    books := by
      refine accounts.books.go (accounts.dated found) (Or.inl ⟨name, h, found, rfl⟩) fewer fun g => ?_
      rw [StillCounts, has, StillCounts, or_and_right]
      exact or_congr_right ⟨fun inside => ⟨inside, apart g inside⟩, And.left⟩
    shown := by
      have some : 0 < r.exchange.telemetry.games.toNat := by
        rw [accounts.books.exact, ← fewer]
        exact Nat.succ_pos _
      exact (Telemetry.settings_gameRemoved some).trans
        (congrArg ((r.exchange.telemetry.games - 1) :: ·) accounts.shown)
    dated := fun there => accounts.dated (back there).2
    apart := fun there there' => accounts.apart (back there).2 (back there').2
    left := fun g inside => ⟨(accounts.left g inside).1, fun there => (accounts.left g inside).2 ((has g).mp there).1⟩ }

/-- Whatever is done to the table of games is entered as it is done. -/
theorem accounts (turnover : Turnover limit r after) (room : limit + r.abandoned.length < 2 ^ 64)
    {entries : List (Tally Nat × UInt64)} (accounts : r.Accounts entries) :
    ∃ more, after.Accounts (more ++ entries) := by
  induction turnover generalizing entries with
  | still gauges games next abandoned => exact ⟨[], accounts.of_same gauges games next abandoned⟩
  | begun absent few => exact ⟨[(.came _, _)], begun_accounts accounts absent (by omega)⟩
  | gone found => exact ⟨[(.went _, _)], gone_accounts accounts found⟩
  | trans turnover _ first second =>
    obtain ⟨more, between⟩ := first room accounts
    obtain ⟨last, entered⟩ := second (by rwa [turnover.abandoned]) between
    exact ⟨last ++ more, by rwa [List.append_assoc]⟩

end Turnover

/-- What the registry leaves behind when it breaks off stays counted. -/
theorem Accounts.breakOff {r : Registry} {entries : List (Tally Nat × UInt64)} (accounts : r.Accounts entries) :
    r.breakOff.Accounts entries := by
  have left : ∀ g, g ∈ r.games.values.map (·.generation) ↔ r.HasGame g := by
    intro g
    simp only [List.mem_map, Table.mem_values_iff, HasGame]
    constructor
    · rintro ⟨h, ⟨name, found⟩, same⟩
      exact ⟨name, h, found, same⟩
    · rintro ⟨name, h, found, same⟩
      exact ⟨h, ⟨name, found⟩, same⟩
  have none : ∀ g, ¬r.breakOff.HasGame g := by
    rintro g ⟨name, h, found, _⟩
    cases found
  exact {
    books := by
      refine accounts.books.congr (fun _ => .rfl) (fun g => ?_) ?_ rfl
      · rw [StillCounts, or_iff_right (none g), Registry.breakOff, List.mem_append, left, or_comm, StillCounts]
      · simp only [Registry.breakOff, Table.size_empty, List.length_append, List.length_map, Table.values_length]
        omega
    shown := accounts.shown
    dated := fun found => by cases found
    apart := fun found => by cases found
    left := by
      refine fun g inside => ⟨?_, none g⟩
      rcases List.mem_append.mp inside with before | now
      · exact (accounts.left g before).1
      · obtain ⟨name, h, found, rfl⟩ := (left g).mp now
        exact accounts.dated found }

/-- The end of the registry is entered, as far as it waits for its games. -/
theorem Accounts.finish {r : Registry} {entries : List (Tally Nat × UInt64)} (accounts : r.Accounts entries)
    (room : r.abandoned.length < 2 ^ 64) : ∃ more, r.finish.Accounts (more ++ entries) := by
  have closed : Turnover 0 r r.closeAll := .closeAll r
  cases due : r.deadline? with
  | some deadline =>
    obtain ⟨more, drained⟩ := (closed.trans (.drain _)).accounts (by rwa [Nat.zero_add]) accounts
    rw [finish_of_deadline due]
    exact ⟨more, drained.of_same .rfl (fun _ => rfl) rfl rfl⟩
  | none =>
    obtain ⟨more, between⟩ := closed.accounts (by rwa [Nat.zero_add]) accounts
    rw [finish_of_none due]
    exact ⟨more, between.breakOff.of_same .rfl (fun _ => rfl) rfl rfl⟩

/-- The games have nothing to do with the sessions at the end either. -/
theorem sessions_finish (r : Registry) :
    r.finish.exchange.telemetry.sessions = r.exchange.telemetry.sessions ∧
      r.finish.exchange.telemetry.journal.settings sessionsGauge =
        r.exchange.telemetry.journal.settings sessionsGauge := by
  have closed : Turnover 0 r r.closeAll := .closeAll r
  cases due : r.deadline? with
  | some deadline =>
    rw [finish_of_deadline due]
    exact (closed.trans (.drain _)).sessions
  | none =>
    rw [finish_of_none due]
    exact closed.sessions

end Registry

end Scrimmage
