import Scrimmage.Proofs.Succession

namespace Scrimmage

namespace Hall

/-- What a hall may become from its start on when only the registry stops games: it does when it has been told to
stop, and when a game has no players left. -/
inductive Steady (capacity : Nat) : Hall → Prop
  | start (outboxes : List Outbox) : Steady capacity (start capacity outboxes)
  | perform {h : Hall} {act : Act} : Steady capacity h → act.Open →
      (∀ name, act = .halt name → h.registry.cancelled = true) → Steady capacity (h.perform act).2

theorem Steady.final {ι : Type} {capacity : Nat} {h : Hall} (steady : Steady capacity h) {acts : List (ι × Act)}
    (isOpen : ∀ act ∈ acts, act.2.Open) (lasts : ∀ act ∈ acts, ∀ name, act.2 ≠ .halt name) :
    Steady capacity (h.final acts) := by
  induction acts generalizing h with
  | nil => exact steady
  | cons marked acts ih =>
    obtain ⟨first, rest⟩ := List.forall_mem_cons.mp isOpen
    obtain ⟨last, lasts⟩ := List.forall_mem_cons.mp lasts
    exact ih (steady.perform first fun name same => absurd same (last name)) rest lasts

/-- While applicants are taken nothing but the number of the sessions changes in what a registry is up to. -/
theorem standing_of_perform {h : Hall} {act : Act} (accepting : (h.perform act).2.registry.accepting = true) :
    ∃ sessions, (h.perform act).2.registry.standing = { h.registry.standing with sessions } := by
  have standing := (h.perform_undergoes act).standing
  have accepting : ((h.change act).standing h.registry.standing).accepting = true :=
    (congrArg Standing.accepting standing).symm.trans accepting
  rw [standing]
  cases act with
  | request q =>
    simp only [change] at accepting ⊢
    split at accepting
    · rename_i running
      rw [if_pos running]
      cases q with
      | join a =>
        simp only [Registry.requestChange]
        split <;> exact ⟨_, rfl⟩
      | shutdown => cases accepting
      | _ => exact ⟨_, rfl⟩
    · rename_i stopped
      rw [if_neg stopped]
      exact ⟨_, rfl⟩
  | message c n q =>
    simp only [change]
    split
    · exact ⟨_, rfl⟩
    · simp only [Registry.messageChange]
      split <;> exact ⟨_, rfl⟩
  | wind =>
    simp only [change] at accepting ⊢
    split at accepting
    · cases accepting
    · rename_i idle
      rw [if_neg idle]
      exact ⟨_, rfl⟩
  | _ => exact ⟨_, rfl⟩

theorem accepting_of_perform {h : Hall} {act : Act} (accepting : (h.perform act).2.registry.accepting = true) :
    h.registry.accepting = true ∧ (h.registry.running = true → ∀ timeout, act ≠ .request (.shutdown timeout)) := by
  obtain ⟨_, standing⟩ := standing_of_perform accepting
  refine ⟨(congrArg Standing.accepting standing).symm.trans accepting, ?_⟩
  rintro running timeout rfl
  have closed := congrArg Standing.accepting (h.perform_undergoes (.request (.shutdown timeout))).standing
  rw [change, if_pos running] at closed
  cases closed.symm.trans accepting

/-- As long as applicants are taken the registry agrees with its games, which all go on. -/
theorem Steady.serves {capacity : Nat} {h : Hall} (steady : Steady capacity h)
    (accepting : h.registry.accepting = true) : h.registry.Serves capacity := by
  induction steady with
  | start outboxes => exact (Registry.create_serves capacity).queues _
  | @perform h act _ isOpen lasts ih =>
    obtain ⟨before, stays⟩ := accepting_of_perform accepting
    have serves := ih before
    refine serves.perform isOpen (stays serves.running) fun name same => ?_
    cases serves.going.symm.trans (lasts name same)

end Hall

namespace Registry

/-- How many players a team of the game of a name has; none if no game has the name. -/
def strength (r : Registry) (name : String) (team : Team) : Nat :=
  ((r.games.find? name).map fun h => (h.game.side team).size).getD 0

/-- Whether a connection is a player of any game. -/
def plays (r : Registry) (c : ConnectionId) : Bool := r.games.values.any fun h => decide (c ∈ h.game.members)

/-- The team that a wish comes to in the game of a name. -/
def teamFor (r : Registry) (name : String) : TeamWish → Team
  | .first => .first
  | .second => .second
  | .random => if r.strength name .second < r.strength name .first then .second else .first

/-- Why an application is refused, if it is. The first reason that there is counts. -/
def objection? (r : Registry) (capacity : Nat) (a : Application) : Option Failure :=
  if r.accepting = false then some .draining
  else if a.connection ∉ r.members.keys then some (.notRegistered a.connection.label)
  else if r.plays a.connection then some (.alreadyJoined a.connection.label)
  else if capacity ≤ r.strength a.game (r.teamFor a.game a.team) then some (.gameFull a.game)
  else none

/-- What an applicant is given that is let in, in a registry `r` and in what becomes of it. The slot is the
least that nobody in the game has, and the list of players is that of the game afterwards. -/
structure Grants (r after : Registry) (a : Application) (admission : Admission) : Prop where
  name_eq : admission.game.name = a.game
  team_eq : admission.placement.team = r.teamFor a.game a.team
  unused : ∀ team c p, r.Seats a.game team c p → p.slot ≠ admission.placement.slot
  least : ∀ slot < admission.placement.slot, ∃ team c p, r.Seats a.game team c p ∧ p.slot = slot
  seated : ∃ p, after.Seats a.game admission.placement.team a.connection p ∧ p.slot = admission.placement.slot ∧
    p.nick = a.nick
  /-- The list of players names every member, the applicant included. -/
  listed : ∀ entry, entry ∈ admission.placement.players ↔
    ∃ team c p, after.Seats a.game team c p ∧ entry = { id := p.slot, nick := p.nick, team }

/-- An application is answered by the rule. The reasons to refuse have an order and the first that there is
counts; who is not refused gets the least slot that nobody in the game has. The rule holds as long as games stop
by the doing of the registry only. -/
structure AnswersByRule (r : Registry) (capacity : Nat) (a : Application) (answer : Except Failure RegistryAnswer)
    (after : Registry) : Prop where
  refused : ∀ failure, r.objection? capacity a = some failure → answer = .ok (.joined (.error failure))
  admitted : r.objection? capacity a = none →
    ∃ admission, answer = .ok (.joined (.ok admission)) ∧ r.Grants after a admission
  /-- A connection that goes wherever there is room is refused as such only where there is none. -/
  random_full : r.accepting = true → a.connection ∈ r.members.keys → r.plays a.connection = false → a.team = .random →
    (answer = .ok (.joined (.error (.gameFull a.game))) ↔ ∀ team, r.strength a.game team = capacity)
  /-- A name that is not used is free to anyone who may play at all. -/
  fresh : r.accepting = true → a.connection ∈ r.members.keys → r.plays a.connection = false → 0 < capacity →
    a.game ∉ r.games.keys → ∃ admission, answer = .ok (.joined (.ok admission))

theorem seats_gameOf_iff (r : Registry) {name : String} {team : Team} {c : ConnectionId} {p : Player} :
    ((r.gameOf name).side team).find? c = some p ↔ r.Seats name team c p := by
  rw [Seats]
  cases found : r.games.find? name with
  | some h => simp only [gameOf_found found, Option.some.injEq, exists_eq_left']
  | none => cases team <;> simp [gameOf_absent found, Game.create, Game.side]

theorem size_gameOf (r : Registry) (name : String) (team : Team) :
    ((r.gameOf name).side team).size = r.strength name team := by
  rw [strength]
  cases found : r.games.find? name with
  | some h => rw [gameOf_found found, Option.map_some, Option.getD_some]
  | none => cases team <;> simp [gameOf_absent found, Game.create, Game.side]

theorem resolve_gameOf (r : Registry) (name : String) (wish : TeamWish) :
    (r.gameOf name).resolve wish = r.teamFor name wish := by
  cases wish with
  | random => simp only [Game.resolve, teamFor, ← size_gameOf, Game.side]
  | _ => rfl

theorem seats_iff_fixture {r : Registry} {name : String} {team : Team} {c : ConnectionId} {p : Player} :
    r.Seats name team c p ↔ ∃ f, r.fixture? name = some f ∧ (f.game.side team).find? c = some p := by
  simp only [Seats, fixture?, Option.map_eq_some_iff, HostedGame.fixture]
  constructor
  · rintro ⟨h, found, seated⟩
    exact ⟨_, ⟨h, found, rfl⟩, seated⟩
  · rintro ⟨f, ⟨h, found, rfl⟩, seated⟩
    exact ⟨h, found, seated⟩

namespace Coherent

variable {r : Registry} (coherent : r.Coherent)

include coherent

theorem gameFor?_eq (name : String) : r.gameFor? name = some (r.gameOf name) := by
  cases found : r.games.find? name with
  | some h => rw [gameFor?_hosts (coherent.hosts found), gameOf_found found]
  | none => rw [gameFor?_absent found, gameOf_absent found]

theorem gameOf_sound (name : String) : (r.gameOf name).Sound := by
  cases found : r.games.find? name with
  | some h => exact gameOf_found found ▸ (coherent.lives name h found).sound
  | none => exact gameOf_absent found ▸ Game.create_sound name r.capacity

theorem gameOf_capacity (name : String) : (r.gameOf name).capacity = r.capacity := by
  cases found : r.games.find? name with
  | some h => exact gameOf_found found ▸ (coherent.lives name h found).capacity_eq
  | none => rw [gameOf_absent found, Game.create]

theorem plays_iff {c : ConnectionId} : r.plays c = true ↔ ∃ name, r.recorded? c = some name := by
  simp only [plays, List.any_eq_true, Table.mem_values_iff, decide_eq_true_eq, coherent.recorded_iff]
  constructor
  · rintro ⟨h, ⟨name, found⟩, member⟩
    exact ⟨name, h, found, member⟩
  · rintro ⟨name, h, found, member⟩
    exact ⟨h, ⟨name, found⟩, member⟩

end Coherent

theorem not_mem_keys_iff {c : ConnectionId} {r : Registry} : c ∉ r.members.keys ↔ r.members.find? c = none :=
  Table.find?_eq_none_iff.symm

/-- What the rule says of a registered connection, going by its record. -/
theorem Coherent.objection?_known {r : Registry} (coherent : r.Coherent) (capacity : Nat) {a : Application} {m : Member}
    (accepting : r.accepting = true) (known : r.members.find? a.connection = some m) :
    r.objection? capacity a =
      if m.game.isSome then some (.alreadyJoined a.connection.label)
      else if capacity ≤ r.strength a.game (r.teamFor a.game a.team) then some (.gameFull a.game)
      else none := by
  have registered : a.connection ∈ r.members.keys := Table.mem_keys_of_find? known
  have plays : r.plays a.connection = m.game.isSome := by
    rw [Bool.eq_iff_iff, coherent.plays_iff, recorded?, known, Option.bind_some, Option.isSome_iff_exists]
  simp only [objection?, accepting, registered, plays, Bool.true_eq_false, if_false, not_true_eq_false]

theorem verdict_eq_error_iff {r : Registry} {capacity : Nat} {a : Application}
    (serves : r.accepting = true → r.Serves capacity) (failure : Failure) :
    r.verdict a = .error failure ↔ r.objection? capacity a = some failure := by
  cases accepting : r.accepting with
  | false => simp [verdict, objection?, accepting]
  | true =>
    have serves := serves accepting
    cases known : r.members.find? a.connection with
    | none => simp [verdict, objection?, accepting, known, not_mem_keys_iff.mpr known]
    | some m =>
      rw [serves.coherent.objection?_known capacity accepting known]
      cases inside : m.game with
      | some name => simp [verdict, accepting, known, inside]
      | none =>
        rw [verdict_outside accepting known inside, serves.coherent.gameFor?_eq, ← serves.capacity_eq]
        simp only [Option.isSome_none, Bool.false_eq_true, if_false]
        cases placed : (r.gameOf a.game).place (a.entrant m.session) with
        | error other =>
          obtain ⟨rfl, full⟩ := serves.gameFull known inside placed
          rw [size_gameOf, resolve_gameOf] at full
          simp [Except.map, full]
        | ok outcome =>
          obtain ⟨admits, _⟩ := Game.place_eq_ok placed
          have room : r.strength a.game (r.teamFor a.game a.team) < r.capacity := by
            rw [← resolve_gameOf, ← size_gameOf, ← serves.coherent.gameOf_capacity]
            exact admits.team ▸ admits.room
          simp [Except.map, Nat.not_le.mpr room]

end Registry

theorem Game.mem_entries_iff {g : Game} {team : Team} {entry : RosterEntry} :
    entry ∈ g.entries team ↔
      ∃ c p, (g.side team).find? c = some p ∧ entry = { id := p.slot, nick := p.nick, team } := by
  simp only [Game.entries, List.mem_map, Table.mem_values_iff]
  constructor
  · rintro ⟨p, ⟨c, seated⟩, rfl⟩
    exact ⟨c, p, seated, rfl⟩
  · rintro ⟨c, p, seated, rfl⟩
    exact ⟨p, ⟨c, seated⟩, rfl⟩

theorem Game.mem_snapshot_iff {g : Game} {entry : RosterEntry} :
    entry ∈ g.snapshot ↔
      ∃ team c p, (g.side team).find? c = some p ∧ entry = { id := p.slot, nick := p.nick, team } := by
  rw [Game.snapshot, Game.bySlot, List.mem_mergeSort, List.mem_append, Game.mem_entries_iff, Game.mem_entries_iff]
  constructor
  · rintro (first | second)
    · exact ⟨.first, first⟩
    · exact ⟨.second, second⟩
  · rintro ⟨team, listed⟩
    cases team with
    | first => exact Or.inl listed
    | second => exact Or.inr listed

namespace Registry

theorem seats_after_seat {r after : Registry} {a : Application} {session : SessionRef} {placement : Placement}
    (sound : (r.gameOf a.game).Sound) (admits : (r.gameOf a.game).Admits (a.entrant session) placement)
    (undergoes : r.Undergoes (.seat a session placement ((r.gameOf a.game).entered (a.entrant session) placement))
      after)
    {team : Team} {c : ConnectionId} {p : Player} :
    after.Seats a.game team c p ↔
      c = a.connection ∧ team = placement.team ∧ p = { slot := placement.slot, nick := a.nick, session } ∨
        c ≠ a.connection ∧ r.Seats a.game team c p := by
  rw [seats_iff_fixture, undergoes.fixture]
  simp only [Change.seat, if_true, Option.some.injEq, exists_eq_left']
  rw [Game.find?_entered_iff sound admits, seats_gameOf_iff]
  rfl

theorem Serves.grants {r after : Registry} {capacity : Nat} (serves : r.Serves capacity) {a : Application}
    (few : (r.gameOf a.game).size < UInt32.size) {session : SessionRef} {placement : Placement} {game : Game}
    (verdict : r.verdict a = .ok (session, placement, game)) {ref : GameRef} (named : ref.name = a.game)
    (undergoes : r.Undergoes (.seat a session placement game) after) : r.Grants after a ⟨ref, placement⟩ := by
  obtain ⟨m, g, known, outside, rfl, found, admits, rfl⟩ := verdict_eq_ok verdict
  obtain rfl := Option.some.inj ((serves.coherent.gameFor?_eq a.game).symm.trans found)
  have sound := serves.coherent.gameOf_sound a.game
  have seats := @seats_after_seat r after a m.session placement sound admits undergoes
  exact {
    name_eq := named
    team_eq := admits.team.trans (r.resolve_gameOf a.game a.team)
    unused := fun team c p seated => by
      rw [admits.slot]
      exact Game.freeSlot_ne few (r.seats_gameOf_iff.mpr seated)
    least := fun slot below => by
      rw [admits.slot] at below
      obtain ⟨p, player, rfl⟩ := List.mem_map.mp (mem_of_lt_leastFree (Game.slots_few few) below)
      obtain ⟨c, team, seated⟩ := Game.mem_players_iff.mp player
      exact ⟨team, c, p, r.seats_gameOf_iff.mp seated, rfl⟩
    seated := ⟨_, seats.mpr (Or.inl ⟨rfl, rfl, rfl⟩), rfl, rfl⟩
    listed := fun entry => by
      rw [admits.players, Game.bySlot, List.mem_mergeSort, List.mem_append, List.mem_singleton, Game.mem_snapshot_iff]
      constructor
      · rintro (⟨team, c, p, seated, rfl⟩ | rfl)
        · have other : c ≠ a.connection := by
            rintro rfl
            cases (sound.find?_of_absent admits.absent team).symm.trans seated
          exact ⟨team, c, p, seats.mpr (Or.inr ⟨other, r.seats_gameOf_iff.mp seated⟩), rfl⟩
        · exact ⟨_, _, _, seats.mpr (Or.inl ⟨rfl, rfl, rfl⟩), rfl⟩
      · rintro ⟨team, c, p, seated, rfl⟩
        rcases seats.mp seated with ⟨rfl, rfl, rfl⟩ | ⟨_, before⟩
        · exact Or.inr rfl
        · exact Or.inl ⟨team, c, p, r.seats_gameOf_iff.mpr before, rfl⟩ }

theorem size_gameOf_lt {r : Registry} {name : String} {bound : Nat} (positive : 0 < bound)
    (few : ∀ h, r.games.find? name = some h → h.game.size < bound) : (r.gameOf name).size < bound := by
  cases found : r.games.find? name with
  | some h => exact gameOf_found found ▸ few h found
  | none => rwa [gameOf_absent found]

/-- What is handled is answered by the rule, and who is let in is given what it says. -/
theorem handle_by_rule {r : Registry} {capacity : Nat} (running : r.running = true)
    (serves : r.accepting = true → r.Serves capacity) {a : Application}
    (few : ∀ h, r.games.find? a.game = some h → h.game.size < 2 ^ 32) :
    (∀ failure, r.objection? capacity a = some failure → (r.handle (.join a)).1 = .ok (.joined (.error failure))) ∧
      (r.objection? capacity a = none → ∃ admission, (r.handle (.join a)).1 = .ok (.joined (.ok admission)) ∧
        r.Grants (r.handle (.join a)).2 a admission) := by
  rw [handle_running running]
  have decides := r.opened.join_decides a
  simp only [answer]
  generalize (r.opened.join a).1 = outcome at decides ⊢
  generalize (r.opened.join a).2 = after at decides ⊢
  cases decides with
  | refuses verdict _ =>
    have objection := (verdict_eq_error_iff serves _).mp verdict
    refine ⟨fun failure same => ?_, fun granted => ?_⟩
    · rw [Option.some.inj (objection.symm.trans same)]
    · cases objection.symm.trans granted
  | @admits session placement game ref _ verdict named _ undergoes =>
    have verdict : r.verdict a = .ok (session, placement, game) := verdict
    have accepting : r.accepting = true := by
      by_contra closed
      rw [Registry.verdict, Bool.eq_false_of_not_eq_true closed] at verdict
      cases verdict
    refine ⟨fun failure objection => ?_, fun _ => ⟨_, rfl, ?_⟩⟩
    · cases verdict.symm.trans ((verdict_eq_error_iff serves failure).mpr objection)
    · exact (serves accepting).grants (size_gameOf_lt (by decide) few) verdict named undergoes.closed

theorem objection?_outside {r : Registry} (capacity : Nat) {a : Application} (accepting : r.accepting = true)
    (registered : a.connection ∈ r.members.keys) (outside : r.plays a.connection = false) :
    r.objection? capacity a =
      if capacity ≤ r.strength a.game (r.teamFor a.game a.team) then some (.gameFull a.game) else none := by
  simp only [objection?, accepting, registered, outside, Bool.true_eq_false, Bool.false_eq_true, if_false,
    not_true_eq_false]

/-- The team of a connection that goes wherever there is room has room if any team has. -/
theorem Serves.full_iff {r : Registry} {capacity : Nat} (serves : r.Serves capacity) (name : String) :
    capacity ≤ r.strength name (r.teamFor name .random) ↔ ∀ team, r.strength name team = capacity := by
  have bounded : ∀ team, r.strength name team ≤ capacity := fun team => by
    rw [← size_gameOf, ← serves.capacity_eq, ← serves.coherent.gameOf_capacity]
    exact (serves.coherent.gameOf_sound name).bounded team
  constructor
  · intro full team
    have first := bounded .first
    have second := bounded .second
    rw [teamFor] at full
    split at full
    · cases team <;> omega
    · cases team <;> omega
  · intro full
    exact (full _).ge

end Registry

namespace Hall

/-- Whatever has happened, as long as games have stopped by the doing of the registry only and the game of the name
has fewer than `2 ^ 32` members: an application is answered by the rule. -/
theorem Steady.answers_by_rule {capacity : Nat} {h : Hall} (steady : Steady capacity h)
    (running : h.registry.running = true) (a : Application)
    (few : ∀ k, h.registry.games.find? a.game = some k → k.game.size < 2 ^ 32) :
    h.registry.AnswersByRule capacity a (h.registry.handle (.join a)).1 (h.registry.handle (.join a)).2 := by
  obtain ⟨refused, admitted⟩ := Registry.handle_by_rule running steady.serves few
  exact {
    refused := refused
    admitted := admitted
    random_full := by
      intro accepting registered outside random
      have objection := Registry.objection?_outside capacity accepting registered outside
      rw [random] at objection
      rw [← (steady.serves accepting).full_iff a.game]
      constructor
      · intro full
        by_contra room
        rw [if_neg room] at objection
        obtain ⟨admission, joined, _⟩ := admitted objection
        cases full.symm.trans joined
      · intro full
        rw [if_pos full] at objection
        exact refused _ objection
    fresh := by
      intro accepting registered outside positive unused
      have objection := Registry.objection?_outside capacity accepting registered outside
      have empty : h.registry.strength a.game (h.registry.teamFor a.game a.team) = 0 := by
        rw [Registry.strength, Table.find?_eq_none_iff.mpr unused, Option.map_none, Option.getD_none]
      rw [empty, if_neg (by omega)] at objection
      obtain ⟨admission, joined, _⟩ := admitted objection
      exact ⟨admission, joined⟩ }

/-- Three connections come, and one of them takes the only place in the first team. -/
def openSeat : List (Unit × Act) :=
  [((), .request (.register ⟨1⟩ ⟨⟨1⟩, 0⟩)), ((), .request (.register ⟨2⟩ ⟨⟨2⟩, 1⟩)),
    ((), .request (.register ⟨3⟩ ⟨⟨3⟩, 2⟩)), ((), .request (.join ⟨⟨1⟩, "ring", "Ada", .random, none⟩))]

/-- Who comes next and goes wherever there is room gets the other place, and a place in the first team is refused. -/
theorem answers_by_rule_openSeat :
    Steady 1 ((start 1 [.empty, .empty, .empty]).final openSeat) ∧
      ((start 1 [.empty, .empty, .empty]).final openSeat).registry.running = true ∧
      (∀ k, ((start 1 [.empty, .empty, .empty]).final openSeat).registry.games.find? "ring" = some k →
        k.game.size < 2 ^ 32) ∧
      (((start 1 [.empty, .empty, .empty]).final openSeat).registry.handle
          (.join ⟨⟨3⟩, "ring", "Cy", .first, none⟩)).1 = .ok (.joined (.error (.gameFull "ring"))) ∧
      ∃ admission,
        (((start 1 [.empty, .empty, .empty]).final openSeat).registry.handle
            (.join ⟨⟨2⟩, "ring", "Bo", .random, none⟩)).1 = .ok (.joined (.ok admission)) ∧
          admission.placement.team = .second := by
  have steady : Steady 1 ((start 1 [.empty, .empty, .empty]).final openSeat) :=
    (Steady.start _).final (by simp [openSeat, Act.Open]) (by simp [openSeat])
  have running : ((start 1 [.empty, .empty, .empty]).final openSeat).registry.running = true := by decide
  have few : ∀ k, ((start 1 [.empty, .empty, .empty]).final openSeat).registry.games.find? "ring" = some k →
      k.game.size < 2 ^ 32 := by
    intro k found
    have one : k.game.size = 1 := by
      rw [← Option.some.inj found]
      decide
    omega
  have first := steady.answers_by_rule running ⟨⟨3⟩, "ring", "Cy", .first, none⟩ few
  have random := steady.answers_by_rule running ⟨⟨2⟩, "ring", "Bo", .random, none⟩ few
  obtain ⟨admission, joined, granted⟩ := random.admitted (by decide)
  exact ⟨steady, running, few, first.refused _ (by decide), admission, joined, granted.team_eq⟩

end Hall

end Scrimmage
