import Scrimmage.Proofs.Supervision

namespace Scrimmage

/-- The connection that a request is made by or for. -/
def RegistryRequest.connection? : RegistryRequest → Option ConnectionId
  | .register c _ => some c
  | .unregister c => some c
  | .join a => some a.connection
  | _ => none

theorem Fixture.mem_of_without {f f' : Fixture} (sound : f.game.Sound) {c d : ConnectionId}
    (left : f.without d = some f') (running : f'.running = true) :
    f.running = true ∧ (c ∈ f'.game.members ↔ c ≠ d ∧ c ∈ f.game.members) := by
  rw [Fixture.without] at left
  split at left
  · rename_i goes
    split at left
    · cases left
    · cases left
      exact ⟨goes, Game.mem_members_leave_iff sound⟩
  · rename_i stopped
    cases left
    exact absurd running stopped

namespace Registry

/-- An application changes nothing, or it is answered with the game that its connection is in from then on. -/
theorem handle_join (r : Registry) (a : Application) :
    ((∀ c, (RegistryRequest.join a).entrance? c (r.handle (.join a)).1 = none) ∧
        r.Undergoes {} (r.handle (.join a)).2) ∨
      ∃ session placement game admission, r.running = true ∧ r.verdict a = .ok (session, placement, game) ∧
        (r.handle (.join a)).1 = .ok (.joined (.ok admission)) ∧
        r.Undergoes (.seat a session placement game) (r.handle (.join a)).2 := by
  cases running : r.running with
  | false =>
    rw [handle_stopped running]
    exact Or.inl ⟨fun _ => rfl, .same r⟩
  | true =>
    rw [handle_running running]
    have decides := r.opened.join_decides a
    simp only [answer]
    generalize (r.opened.join a).1 = outcome at decides ⊢
    generalize (r.opened.join a).2 = after at decides ⊢
    cases decides with
    | refuses _ undergoes => exact Or.inl ⟨fun _ => rfl, undergoes.closed⟩
    | admits verdict _ _ undergoes => exact Or.inr ⟨_, _, _, _, trivial, verdict, rfl, undergoes.closed⟩

/-- A game that an applicant gets into and that has players is there already, and goes on. -/
theorem fixture_of_gameFor? {r : Registry} {name : String} {g : Game} {c : ConnectionId}
    (found : r.gameFor? name = some g) (player : c ∈ g.members) :
    ∃ f, r.fixture? name = some f ∧ f.running = true ∧ f.game = g := by
  rw [gameFor?] at found
  split at found
  · cases found
    cases player
  · rename_i f there
    split at found
    · rename_i running
      exact ⟨f, there, running, Option.some.inj found⟩
    · cases found

theorem recorded?_of_verdict {r : Registry} {a : Application} {outcome : SessionRef × Placement × Game}
    (verdict : r.verdict a = .ok outcome) : r.recorded? a.connection = none := by
  obtain ⟨m, _, known, outside, _⟩ := verdict_eq_ok verdict
  rw [recorded?, known, Option.bind_some, outside]

theorem entrance?_of_recorded {r : Registry} {c : ConnectionId} {name : String} (inside : r.recorded? c = some name)
    (q : RegistryRequest) : q.entrance? c (r.handle q).1 = none := by
  by_contra entered
  obtain ⟨ref, letIn⟩ := Option.ne_none_iff_exists'.mp entered
  obtain ⟨a, rfl, rfl, _⟩ := handle_entrance letIn
  rcases r.handle_join a with ⟨refused, _⟩ | ⟨_, _, _, _, _, verdict, _⟩
  · cases (refused a.connection).symm.trans letIn
  · cases inside.symm.trans (recorded?_of_verdict verdict)

end Registry

namespace Hall

/-- What a hall may become from its start on, its end included. Games may stop at any time; who is in a game is
left to the registry. -/
inductive Reachable (capacity : Nat) : Hall → Prop
  | start (outboxes : List Outbox) : Reachable capacity (start capacity outboxes)
  | perform {h : Hall} {act : Act} : Reachable capacity h → act.Open → Reachable capacity (h.perform act).2

theorem Reachable.final {ι : Type} {capacity : Nat} {h : Hall} (reachable : Reachable capacity h)
    {acts : List (ι × Act)} (isOpen : ∀ act ∈ acts, act.2.Open) : Reachable capacity (h.final acts) := by
  induction acts generalizing h with
  | nil => exact reachable
  | cons marked acts ih =>
    obtain ⟨first, rest⟩ := List.forall_mem_cons.mp isOpen
    exact ih (reachable.perform first) rest

/-- The games are sound, and their players are recorded, whoever else is. -/
def Kept (h : Hall) : Prop := h.registry.Supervised fun _ _ => True

theorem Kept.perform {h : Hall} (kept : h.Kept) {act : Act} (isOpen : act.Open) : (h.perform act).2.Kept := by
  have ordinary : act.Ordinary → (h.perform act).2.Kept := fun ordinary =>
    (supervised_perform kept ordinary).imp fun _ _ _ _ => trivial
  cases act with
  | message c n q => exact ordinary isOpen
  | wind =>
    have undergoes := h.perform_undergoes .wind
    simp only [change] at undergoes
    split at undergoes
    · -- no game is left, so that nothing is said of one
      have gone : ∀ name, (h.perform .wind).2.registry.fixture? name = none := undergoes.fixture
      exact {
        listed := undergoes.listed kept.listed
        holds := fun name f there => by cases (gone name).symm.trans there
        seated := fun name f team c p there => by cases (gone name).symm.trans there
        recorded := fun _ _ _ => Or.inr trivial }
    · exact kept.undergo_still undergoes
  | _ => exact ordinary trivial

theorem Kept.recorded_of_player {h : Hall} (kept : h.Kept) {name : String} {f : Fixture} {c : ConnectionId}
    (there : h.registry.fixture? name = some f) (running : f.running = true) (player : c ∈ f.game.members) :
    h.registry.recorded? c = some name := by
  obtain ⟨team, key⟩ := Game.mem_members_iff.mp player
  obtain ⟨p, seated⟩ := Table.mem_keys_iff.mp key
  obtain ⟨m, known, inside, _⟩ := kept.seated name f team c p there running seated
  exact Registry.recorded?_eq_some_iff.mpr ⟨m, known, inside⟩

/-- The connection is a player of a game that goes on under the name. -/
def Plays (h : Hall) (name : String) (c : ConnectionId) : Prop :=
  ∃ f, h.registry.fixture? name = some f ∧ f.running = true ∧ c ∈ f.game.members

theorem Kept.plays_of_unregister {h : Hall} (kept : h.Kept) {d c : ConnectionId} {inside : Option String}
    {name : String} {f : Fixture}
    (there : (Change.unregister d inside).fixture name (h.registry.fixture? name) = some f)
    (running : f.running = true) (player : c ∈ f.game.members) : h.Plays name c := by
  simp only [Change.unregister] at there
  split at there
  · obtain ⟨f₀, before, left⟩ := Option.bind_eq_some_iff.mp there
    obtain ⟨goes, still⟩ := Fixture.mem_of_without (kept.holds name f₀ before).sound left running
    exact ⟨f₀, before, goes, (still.mp player).2⟩
  · exact ⟨f, there, running, player⟩

/-- Who plays when an applicant has been seated has played before, or is the applicant. -/
theorem Kept.plays_of_seat {h : Hall} (kept : h.Kept) {a : Application} {session : SessionRef}
    {placement : Placement} {game : Game} (verdict : h.registry.verdict a = .ok (session, placement, game))
    {c : ConnectionId} {name : String} {f : Fixture}
    (there : (Change.seat a session placement game).fixture name (h.registry.fixture? name) = some f)
    (running : f.running = true) (player : c ∈ f.game.members) :
    h.Plays name c ∨ a.connection = c ∧ a.game = name := by
  simp only [Change.seat] at there
  split at there
  · rename_i here
    cases there
    obtain ⟨m, g, _, _, rfl, found, admits, rfl⟩ := Registry.verdict_eq_ok verdict
    obtain ⟨team, key⟩ := Game.mem_members_iff.mp player
    obtain ⟨p, seated⟩ := Table.mem_keys_iff.mp key
    rcases (Game.find?_entered_iff (kept.gameFor? found).1 admits c team p).mp seated with
      ⟨newcomer, _⟩ | ⟨_, earlier⟩
    · exact Or.inr ⟨newcomer.symm, here.symm⟩
    · have before := Game.mem_members_of_find? earlier
      obtain ⟨f₀, was, goes, rfl⟩ := Registry.fixture_of_gameFor? found before
      exact Or.inl ⟨f₀, here ▸ was, goes, before⟩
  · exact Or.inl ⟨f, there, running, player⟩

/-- A player of a game that goes on was one before, or has just been let in. -/
theorem player_origin {h : Hall} (kept : h.Kept) {act : Act} (isOpen : act.Open) {name : String} {f : Fixture}
    {c : ConnectionId} (there : (h.perform act).2.registry.fixture? name = some f) (running : f.running = true)
    (player : c ∈ f.game.members) :
    h.Plays name c ∨
      ∃ a admission, act = .request (.join a) ∧ a.connection = c ∧ a.game = name ∧
        (h.registry.handle (.join a)).1 = .ok (.joined (.ok admission)) := by
  have undergoes := h.perform_undergoes act
  have same : h.registry.fixture? name = some f → h.Plays name c := fun before => ⟨f, before, running, player⟩
  cases act with
  | request q =>
    have handled := h.registry.handle_undergoes q
    change (h.registry.handle q).2.fixture? name = some f at there
    cases q with
    | unregister d =>
      rw [handled.fixture] at there
      split at there
      · exact Or.inl (kept.plays_of_unregister there running player)
      · exact Or.inl (same there)
    | join a =>
      rcases h.registry.handle_join a with ⟨_, still⟩ | ⟨session, placement, game, admission, _, verdict, joined, seats⟩
      · rw [still.fixture] at there
        exact Or.inl (same there)
      · rw [seats.fixture] at there
        rcases kept.plays_of_seat verdict there running player with plays | ⟨newcomer, here⟩
        · exact Or.inl plays
        · exact Or.inr ⟨a, admission, rfl, newcomer, here, joined⟩
    | _ =>
      rw [handled.fixture] at there
      split at there <;> exact Or.inl (same there)
  | message d n q =>
    rw [perform] at there
    split at there
    · exact Or.inl (same there)
    · obtain ⟨outbox, still⟩ := h.registry.askGame_still _ isOpen
      rw [still.fixture] at there
      exact Or.inl (same there)
  | halt other =>
    rw [undergoes.fixture] at there
    simp only [change] at there
    split at there
    · obtain ⟨f₀, _, rfl⟩ := Option.map_eq_some_iff.mp there
      cases running
    · exact Or.inl (same there)
  | check =>
    rw [undergoes.fixture] at there
    simp only [change, Change.reap] at there
    split at there
    · cases there
    · exact Or.inl (same there)
  | wind =>
    rw [undergoes.fixture] at there
    simp only [change] at there
    split at there
    · cases there
    · exact Or.inl (same there)
  | _ =>
    rw [undergoes.fixture] at there
    exact Or.inl (same there)

/-- Who is recorded in a game was so before, or has just been let in. -/
theorem recorded_origin {h : Hall} {act : Act} {c : ConnectionId} {name : String}
    (recorded : (h.perform act).2.registry.recorded? c = some name) :
    h.registry.recorded? c = some name ∨
      ∃ a admission, act = .request (.join a) ∧ a.connection = c ∧ a.game = name ∧
        (h.registry.handle (.join a)).1 = .ok (.joined (.ok admission)) := by
  obtain ⟨m, known, inside⟩ := Registry.recorded?_eq_some_iff.mp recorded
  rcases member_origin known with before | ⟨session, _, rfl⟩ | ⟨a, m₀, rfl, rfl, _, rfl⟩
  · exact Or.inl (Registry.recorded?_eq_some_iff.mpr ⟨m, before, inside⟩)
  · cases inside
  · rcases h.registry.handle_join a with ⟨_, still⟩ | ⟨_, _, _, admission, _, _, joined, _⟩
    · exact Or.inl (Registry.recorded?_eq_some_iff.mpr ⟨_, (still.member a.connection).symm.trans known, inside⟩)
    · exact Or.inr ⟨a, admission, rfl, rfl, Option.some.inj inside, joined⟩

theorem entries_of_recorded {h : Hall} {c : ConnectionId} {name : String}
    (recorded : h.registry.recorded? c = some name) (act : Act) : (h.perform act).2.entries c = h.entries c := by
  by_cases request : ∃ q, act = .request q
  · obtain ⟨q, rfl⟩ := request
    simp only [perform, Registry.entrance?_of_recorded recorded, Option.toList_none, List.append_nil]
  · rw [h.entries_perform fun q same => request ⟨q, same⟩]

theorem entries_of_joined {h : Hall} {a : Application} {admission : Admission}
    (joined : (h.registry.handle (.join a)).1 = .ok (.joined (.ok admission))) :
    ((h.perform (.request (.join a))).2.entries a.connection).getLast? = some admission.game := by
  simp [perform, joined, RegistryRequest.entrance?]

/-- Every record and every place in a game goes back to the last time that the connection was let in. A
connection whose game has stopped stays recorded under the name of that game, which may be that of another game
when it leaves; but the players of a game are those that were let into this very game. -/
structure Traced (h : Hall) : Prop where
  kept : h.Kept
  recorded : ∀ c name, h.registry.recorded? c = some name →
    ∃ ref, (h.entries c).getLast? = some ref ∧ ref.name = name
  /-- The players of a game that goes on were let into this very game. -/
  player : ∀ name f c, h.registry.fixture? name = some f → f.running = true → c ∈ f.game.members →
    (h.entries c).getLast? = h.registry.gameRef? name

theorem start_traced (capacity : Nat) (outboxes : List Outbox) : (start capacity outboxes).Traced where
  kept := start_supervised capacity outboxes _
  recorded c name recorded := by cases recorded
  player name f c there := by cases there

theorem Traced.perform {h : Hall} (traced : h.Traced) {act : Act} (isOpen : act.Open) :
    (h.perform act).2.Traced where
  kept := traced.kept.perform isOpen
  recorded c name recorded := by
    rcases recorded_origin recorded with before | ⟨a, admission, rfl, rfl, rfl, joined⟩
    · rw [entries_of_recorded before]
      exact traced.recorded c name before
    · exact ⟨admission.game, entries_of_joined joined, (Registry.handle_joined joined).1⟩
  player name f c there running player := by
    rcases player_origin traced.kept isOpen there running player with
      ⟨f₀, before, goes, already⟩ | ⟨a, admission, rfl, rfl, rfl, joined⟩
    · have recorded := traced.kept.recorded_of_player before goes already
      obtain ⟨k, found, rfl⟩ := Option.map_eq_some_iff.mp before
      rw [entries_of_recorded recorded, (h.perform_undergoes act).ref, there, Option.map_some,
        traced.player name _ c before goes already, Registry.gameRef?, found, Option.map_some, Option.getD_some]
    · rw [entries_of_joined joined]
      exact (Registry.handle_joined joined).2.symm

theorem Reachable.traced {capacity : Nat} {h : Hall} (reachable : Reachable capacity h) : h.Traced := by
  induction reachable with
  | start outboxes => exact start_traced capacity outboxes
  | perform _ isOpen traced => exact traced.perform isOpen

/-- A connection is recorded in a game, and the game of the name is another one by now. -/
def RecordedBefore (h : Hall) (c : ConnectionId) (newer : GameRef) : Prop :=
  h.registry.gameRef? newer.name = some newer ∧
    ∃ earlier, (h.entries c).getLast? = some earlier ∧ h.registry.recorded? c = some earlier.name ∧
      earlier.name = newer.name ∧ earlier ≠ newer

/-- A request leaves a game as it is, and puts nothing into any queue. The game is the same one afterwards, with
the same rosters. -/
structure Spares (h : Hall) (newer : GameRef) (q : RegistryRequest) : Prop where
  ref : (h.perform (.request q)).2.registry.gameRef? newer.name = some newer
  fixture : (h.perform (.request q)).2.registry.fixture? newer.name = h.registry.fixture? newer.name
  outbox : ∀ s, (h.perform (.request q)).2.registry.exchange.outbox? s = h.registry.exchange.outbox? s

theorem without_stranger {f : Fixture} {name : String} {capacity : Nat} (holds : f.Holds name capacity)
    {c : ConnectionId} (stranger : f.running = true → c ∉ f.game.members) : f.without c = some f := by
  rw [Fixture.without]
  split
  · rename_i running
    have absent : f.game.teamOf.find? c = none := by
      cases cached : f.game.teamOf.find? c with
      | none => rfl
      | some team =>
        exact absurd (Game.mem_members_iff.mpr ⟨team, (holds.sound.cached c team).mp cached⟩) (stranger running)
    rw [Game.leave_of_none absent, if_neg holds.peopled.ne']
  · rfl

theorem Traced.spares {h : Hall} (traced : h.Traced) {c : ConnectionId} {newer : GameRef}
    (before : h.RecordedBefore c newer) {q : RegistryRequest} (own : q.connection? = some c) :
    h.Spares newer q := by
  obtain ⟨there, earlier, last, recorded, sameName, other⟩ := before
  have undergoes := h.perform_undergoes (.request q)
  obtain ⟨k, found, _⟩ := Registry.gameRef?_eq_some there
  have fixture := Registry.fixture?_of_find? found
  have stranger : k.fixture.running = true → c ∉ k.fixture.game.members := fun running player =>
    other (Option.some.inj (last.symm.trans ((traced.player _ _ c fixture running player).trans there)))
  have idle : (h.change (.request q)).fixture newer.name (h.registry.fixture? newer.name) =
      h.registry.fixture? newer.name ∧ (h.change (.request q)).outbox = fun _ o => o := by
    simp only [change]
    split
    · cases q with
      | register d session => exact ⟨rfl, rfl⟩
      | unregister d =>
        cases own
        refine ⟨?_, rfl⟩
        simp only [Registry.requestChange, Change.unregister, recorded, sameName, if_true, fixture, Option.bind_some]
        exact without_stranger (traced.kept.holds _ _ fixture) stranger
      | join a =>
        cases own
        simp only [Registry.requestChange]
        split
        · exact ⟨rfl, rfl⟩
        · rename_i verdict
          cases recorded.symm.trans (Registry.recorded?_of_verdict verdict)
      | _ => cases own
    · exact ⟨rfl, rfl⟩
  have same : (h.perform (.request q)).2.registry.fixture? newer.name = h.registry.fixture? newer.name :=
    (undergoes.fixture newer.name).trans idle.1
  exact {
    ref := by rw [undergoes.ref, same, fixture, Option.map_some, there, Option.getD_some]
    fixture := same
    outbox := fun s => by
      rw [undergoes.outbox, idle.2]
      exact Option.map_id' }

/-- A game that goes on is still there when a connection has gone, as long as someone else is in it. -/
theorem Traced.keeps {h : Hall} (traced : h.Traced) {c : ConnectionId} {name : String} {f : Fixture}
    (there : h.registry.fixture? name = some f) (running : f.running = true) (others : ∃ d ∈ f.game.members, d ≠ c) :
    (h.perform (.request (.unregister c))).2.registry.gameRef? name = h.registry.gameRef? name ∧
      ∃ f', (h.perform (.request (.unregister c))).2.registry.fixture? name = some f' ∧ f'.running = true ∧
        ∀ d, d ≠ c → (d ∈ f'.game.members ↔ d ∈ f.game.members) := by
  have undergoes := h.perform_undergoes (.request (.unregister c))
  have stays : ∃ f', (h.perform (.request (.unregister c))).2.registry.fixture? name = some f' ∧
      f'.running = true ∧ ∀ d, d ≠ c → (d ∈ f'.game.members ↔ d ∈ f.game.members) := by
    have same : ∃ f', some f = some f' ∧ f'.running = true ∧
        ∀ d, d ≠ c → (d ∈ f'.game.members ↔ d ∈ f.game.members) := ⟨f, rfl, running, fun _ _ => Iff.rfl⟩
    rw [undergoes.fixture, there, change]
    split
    · simp only [Registry.requestChange, Change.unregister, Option.bind_some]
      split
      · obtain ⟨d, player, other⟩ := others
        have sound := (traced.kept.holds name f there).sound
        have remains := (Game.mem_members_leave_iff sound).mpr ⟨other, player⟩
        have some := (Game.size_pos_of_mem remains).ne'
        rw [← Game.remaining_leave] at some
        rw [Fixture.without, if_pos running, if_neg some]
        exact ⟨_, rfl, running, fun e away => (Game.mem_members_leave_iff sound).trans (and_iff_right away)⟩
      · exact same
    · exact same
  obtain ⟨f', after, goes⟩ := stays
  obtain ⟨k, found, _⟩ := Option.map_eq_some_iff.mp there
  refine ⟨?_, f', after, goes⟩
  rw [undergoes.ref, after, Option.map_some, Registry.gameRef?, found, Option.map_some, Option.getD_some]

/-- What makes it safe to use a name again: a connection that is recorded in an earlier game of the name is
never taken for a player of the newest one. -/
structure ReusesSafely (h : Hall) : Prop where
  /-- A record goes back to a game of its name, the last one that the connection was let into. -/
  origin : ∀ c name, h.registry.recorded? c = some name →
    ∃ ref, (h.entries c).getLast? = some ref ∧ ref.name = name
  /-- Whatever is asked by or for a connection that is recorded in an earlier game, the newer one does not notice. -/
  spares : ∀ c newer q, h.RecordedBefore c newer → q.connection? = some c → h.Spares newer q
  /-- Whoever leaves, a game that goes on is still there if someone else is in it. -/
  keeps : ∀ c name f, h.registry.fixture? name = some f → f.running = true → (∃ d ∈ f.game.members, d ≠ c) →
    (h.perform (.request (.unregister c))).2.registry.gameRef? name = h.registry.gameRef? name ∧
      ∃ f', (h.perform (.request (.unregister c))).2.registry.fixture? name = some f' ∧ f'.running = true ∧
        ∀ d, d ≠ c → (d ∈ f'.game.members ↔ d ∈ f.game.members)

/-- Whatever happens, and however many games a name has had: those who are recorded in an earlier one do nothing to
the players of the newest, and no leave takes a game from players who stay. -/
theorem Reachable.reuses_safely {capacity : Nat} {h : Hall} (reachable : Reachable capacity h) : h.ReusesSafely where
  origin := reachable.traced.recorded
  spares _ _ _ before own := reachable.traced.spares before own
  keeps _ _ _ there running others := reachable.traced.keeps there running others

/-- A game stops under its only player, and someone else begins another one of the name. -/
def reuse : List (Unit × Act) :=
  [((), .request (.register ⟨1⟩ ⟨⟨1⟩, 0⟩)), ((), .request (.join ⟨⟨1⟩, "ring", "Ada", .first, none⟩)),
    ((), .halt "ring"), ((), .check), ((), .request (.register ⟨2⟩ ⟨⟨2⟩, 1⟩)),
    ((), .request (.join ⟨⟨2⟩, "ring", "Bo", .first, none⟩))]

theorem reuses_safely_reuse :
    Reachable 5 ((start 5 [.empty, .empty]).final reuse) ∧
      ((start 5 [.empty, .empty]).final reuse).RecordedBefore ⟨1⟩ ⟨"ring", 1⟩ ∧
      ((start 5 [.empty, .empty]).final reuse).ReusesSafely := by
  have reachable : Reachable 5 ((start 5 [.empty, .empty]).final reuse) :=
    (Reachable.start _).final (by simp [reuse, Act.Open])
  exact ⟨reachable, ⟨by decide, ⟨"ring", 0⟩, by decide, by decide, rfl, by decide⟩, reachable.reuses_safely⟩

end Hall

end Scrimmage
