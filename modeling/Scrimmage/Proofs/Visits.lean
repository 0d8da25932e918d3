import Scrimmage.Proofs.Applications
import Scrimmage.Proofs.Views

namespace Scrimmage

namespace Game

theorem unseat_seat {g : Game} {c : ConnectionId} {team : Team} (p : Player) (stranger : g.teamOf.find? c = none)
    (vacant : (g.side team).find? c = none) : (g.seat c team p).unseat c team = g := by
  have lookUp := Table.erase_insert_of_none team stranger
  have roster := Table.erase_insert_of_none p vacant
  cases team with
  | first =>
    simp only [side] at roster
    simp only [seat, unseat, modifySide, lookUp, roster]
  | second =>
    simp only [side] at roster
    simp only [seat, unseat, modifySide, lookUp, roster]

/-- A leave undoes a join, in the rosters and in the look-up of teams. -/
theorem Admits.leave_entered {g : Game} (sound : g.Sound) {e : Entrant} {placement : Placement}
    (admits : g.Admits e placement) : ((g.entered e placement).leave e.connection).2 = g := by
  have member : (g.entered e placement).teamOf.find? e.connection = some placement.team := by
    rw [entered, teamOf_seat, Table.find?_insert, if_pos rfl]
  rw [leave_of_some member, entered]
  exact unseat_seat _ admits.absent (sound.find?_of_absent admits.absent placement.team)

theorem leave_leave (g : Game) (c : ConnectionId) : ((g.leave c).2.leave c).2 = (g.leave c).2 := by
  have gone : (g.leave c).2.teamOf.find? c = none := by
    cases member : g.teamOf.find? c with
    | none => rwa [leave_of_none member]
    | some team => rw [leave_of_some member, teamOf_unseat, Table.find?_erase, if_pos rfl]
  rw [leave_of_none gone]

end Game

namespace Fixture

variable {f f' : Fixture} {c : ConnectionId}

theorem without_running (running : f.running = true) :
    f.without c = if (f.game.leave c).2.size = 0 then none else some { f with game := (f.game.leave c).2 } := by
  rw [without, if_pos running, Game.remaining_leave]

theorem without_again (left : f.without c = some f') : f'.without c = some f' := by
  cases running : f.running with
  | false =>
    rw [without, running] at left
    cases left
    rw [without, running]
    rfl
  | true =>
    rw [without_running running] at left
    split at left
    · cases left
    · rename_i others
      cases left
      have again := without_running (f := { f with game := (f.game.leave c).2 }) (c := c) running
      rw [again, Game.leave_leave, if_neg others]

end Fixture

/-- What a connection does while it is there, in any order and as often as it likes. Queues are used and the registry
looks after its games in between. -/
def Act.ByVisitor (c : ConnectionId) : Act → Prop
  | .request (.register d _) => d = c
  | .request (.unregister d) => d = c
  | .request (.join a) => a.connection = c
  | .request (.listing _) => True
  | .request .summary => True
  | .request (.shutdown _) => False
  | .message d _ q => d = c ∧ q.Open
  | .queue _ _ => True
  | .pass _ => True
  | .check => True
  | .wind => True
  | _ => False

theorem Act.ByVisitor.isOpen {c : ConnectionId} {act : Act} (own : act.ByVisitor c) : act.Open := by
  cases act with
  | message d n q => exact own.2
  | _ => trivial

theorem Act.ByVisitor.goesOn {c : ConnectionId} {act : Act} (own : act.ByVisitor c) :
    (∀ timeout, act ≠ .request (.shutdown timeout)) ∧ ∀ name, act ≠ .halt name := by
  constructor
  · rintro timeout rfl
    exact own
  · rintro name rfl
    exact own

namespace Registry

/-- A registry that takes applicants, and what it has become while a connection visits it: all that there is
more is the connection, with its seat if it has one. So all that the visitor has done is undone by taking it
out. -/
structure Visited (c : ConnectionId) (capacity : Nat) (r after : Registry) : Prop where
  serves : after.Serves capacity
  member : ∀ d, d ≠ c → after.members.find? d = r.members.find? d
  fixture : ∀ name, (after.fixture? name).bind (·.without c) = r.fixture? name
  ref : ∀ name ref, r.gameRef? name = some ref → after.gameRef? name = some ref
  standing : after.standing = r.standing
  depth : after.mailbox.depth = r.mailbox.depth

/-- In games that have players, taking someone out who is not there changes nothing. -/
theorem Serves.without_stranger {r : Registry} {capacity : Nat} (serves : r.Serves capacity) {c : ConnectionId}
    (unknown : r.members.find? c = none) (name : String) : (r.fixture? name).bind (·.without c) = r.fixture? name := by
  cases found : r.games.find? name with
  | none => rw [fixture?_eq_none_iff.mpr found, Option.bind_none]
  | some h =>
    have lives := serves.coherent.lives name h found
    rw [fixture?_of_find? found, Option.bind_some]
    have holds : h.fixture.Holds name r.capacity := ⟨lives.sound, lives.name_eq, lives.capacity_eq, lives.peopled⟩
    refine Hall.without_stranger holds fun _ member => ?_
    have recorded := (serves.coherent.recorded_iff c name).mpr ⟨h, found, member⟩
    rw [recorded?, unknown] at recorded
    cases recorded

theorem Serves.visited {r : Registry} {capacity : Nat} (serves : r.Serves capacity) {c : ConnectionId}
    (unknown : r.members.find? c = none) : r.Visited c capacity r where
  serves := serves
  member _ _ := rfl
  fixture := serves.without_stranger unknown
  ref _ _ := id
  standing := rfl
  depth := rfl

namespace Visited

variable {c : ConnectionId} {capacity : Nat} {r between after : Registry}

/-- A change that spares the other members, and the games but for the visitor's seat. -/
theorem undergo {change : Change} (visited : r.Visited c capacity between) (undergoes : between.Undergoes change after)
    (serves : after.Serves capacity) (member : ∀ d, d ≠ c → ∀ m, change.member d m = m)
    (fixture : ∀ name, (change.fixture name (between.fixture? name)).bind (·.without c) =
      (between.fixture? name).bind (·.without c))
    (standing : change.standing between.standing = between.standing) : r.Visited c capacity after where
  serves := serves
  member d other := by rw [undergoes.member, member d other, visited.member d other]
  fixture name := by rw [undergoes.fixture, fixture, visited.fixture]
  ref name ref there := by
    obtain ⟨h, found, _⟩ := gameRef?_eq_some there
    have left := visited.fixture name
    rw [← fixture name, ← undergoes.fixture, fixture?_of_find? found] at left
    obtain ⟨f, after, _⟩ := Option.bind_eq_some_iff.mp left
    rw [undergoes.ref, after, Option.map_some, visited.ref name ref there, Option.getD_some]
  standing := undergoes.standing.trans (standing.trans visited.standing)
  depth := undergoes.depth.trans visited.depth

theorem still {outbox : SessionRef → Outbox → Outbox} (visited : r.Visited c capacity between)
    (undergoes : between.Undergoes { outbox } after) (serves : after.Serves capacity) : r.Visited c capacity after :=
  visited.undergo undergoes serves (fun _ _ _ => rfl) (fun _ => rfl) rfl

/-- A seat that a visitor gets goes when the visitor is taken out, and so does a game that was begun for it. -/
theorem without_seat (serves : between.Serves capacity) {a : Application} {session : SessionRef} {placement : Placement}
    {game : Game} (verdict : between.verdict a = .ok (session, placement, game)) (name : String) :
    ((Change.seat a session placement game).fixture name (between.fixture? name)).bind (·.without a.connection) =
      (between.fixture? name).bind (·.without a.connection) := by
  simp only [Change.seat]
  split
  · rename_i here
    subst here
    obtain ⟨m, g, known, outside, rfl, found, admits, rfl⟩ := verdict_eq_ok verdict
    obtain rfl := Option.some.inj ((serves.coherent.gameFor?_eq a.game).symm.trans found)
    have left := admits.leave_entered (serves.coherent.gameOf_sound a.game)
    rw [Option.bind_some, Fixture.without_running rfl]
    simp only [Application.entrant] at left
    simp only [Application.entrant, left]
    cases there : between.games.find? a.game with
    | none =>
      rw [gameOf_absent there, fixture?_eq_none_iff.mpr there]
      rfl
    | some h =>
      have lives := serves.coherent.lives a.game h there
      have stranger : h.game.teamOf.find? a.connection = none := gameOf_found there ▸ admits.absent
      rw [gameOf_found there, fixture?_of_find? there, Option.bind_some, Fixture.without_running lives.running,
        HostedGame.fixture, Game.leave_of_none stranger, if_neg lives.peopled.ne', if_neg lives.peopled.ne']
      simp [lives.running]
  · rfl

theorem request {q : RegistryRequest} (visited : r.Visited c capacity between) (own : (Act.request q).ByVisitor c) :
    r.Visited c capacity (between.handle q).2 := by
  have running := visited.serves.running
  have undergoes := between.handle_undergoes q
  have serves : (between.handle q).2.Serves capacity :=
    Serves.perform (h := ⟨between, fun _ => []⟩) visited.serves own.isOpen own.goesOn.1 own.goesOn.2
  rw [if_pos running] at undergoes
  cases q with
  | register d session =>
    obtain rfl : d = c := own
    exact visited.undergo undergoes serves (fun e other _ => if_neg other) (fun _ => rfl) rfl
  | unregister d =>
    obtain rfl : d = c := own
    refine visited.undergo undergoes serves (fun e other _ => if_neg other) (fun name => ?_) rfl
    simp only [requestChange, Change.unregister]
    split
    · cases left : (between.fixture? name).bind (·.without d) with
      | none => rfl
      | some f =>
        obtain ⟨f₀, _, left⟩ := Option.bind_eq_some_iff.mp left
        exact Fixture.without_again left
    · rfl
  | join a =>
    obtain rfl : a.connection = c := own
    simp only [requestChange] at undergoes
    split at undergoes
    · exact visited.still undergoes serves
    · rename_i verdict
      exact visited.undergo undergoes serves (fun e other _ => if_neg other) (without_seat visited.serves verdict) rfl
  | shutdown => exact own.elim
  | _ => exact visited.still undergoes serves

theorem perform {h : Hall} {act : Act} (visited : r.Visited c capacity h.registry) (own : act.ByVisitor c) :
    r.Visited c capacity (h.perform act).2.registry := by
  have serves := visited.serves
  cases act with
  | request q => exact visited.request own
  | message d n q =>
    rw [Hall.perform]
    split
    · exact visited
    · obtain ⟨outbox, undergoes⟩ := h.registry.askGame_still _ own.2
      exact visited.still undergoes (serves.askGame _ own.2)
  | queue s f => exact visited.still (h.registry.modifyOutbox_undergoes s f) (serves.queues _)
  | pass duration => exact visited.still (h.registry.pass_undergoes duration) (serves.queues _)
  | check =>
    rw [Hall.perform, reap_eq_self (stoppedGames_eq_nil serves.coherent.all_running)]
    exact visited
  | wind =>
    simp only [Hall.perform, wind, serves.going, Bool.false_and, Bool.false_eq_true, if_false]
    exact visited
  | _ => exact own.elim

theorem final {ι : Type} {h : Hall} (visited : r.Visited c capacity h.registry) {visit : List (ι × Act)}
    (own : ∀ act ∈ visit, act.2.ByVisitor c) : r.Visited c capacity (h.final visit).registry := by
  induction visit generalizing h with
  | nil => exact visited
  | cons marked visit ih =>
    obtain ⟨first, rest⟩ := List.forall_mem_cons.mp own
    exact ih (visited.perform first) rest

end Visited

/-- A registry has become what it was: its members, its games with their rosters, and what it answers. Only the
order of the unjoined and how often things were counted may differ. -/
structure SameAs (r after : Registry) : Prop where
  member : ∀ c, after.members.find? c = r.members.find? c
  unjoined : ∀ c, c ∈ after.unjoined ↔ c ∈ r.unjoined
  /-- Every name has the game that it had, and none that it had not. -/
  ref : ∀ name, after.gameRef? name = r.gameRef? name
  /-- Every game has the rosters, the slots and the look-up of teams that it had. -/
  game : ∀ name, (after.games.find? name).map (·.game) = (r.games.find? name).map (·.game)
  running : ∀ name, (after.games.find? name).map (·.running) = (r.games.find? name).map (·.running)
  standing : after.standing = r.standing
  /-- Whatever is asked next is answered as it would have been before. -/
  answer : ∀ q, (after.handle q).1.map (·.shown) = (r.handle q).1.map (·.shown)

namespace Visited

variable {c : ConnectionId} {capacity : Nat} {r after : Registry} (visited : r.Visited c capacity after)
  (gone : after.members.find? c = none)

include visited gone

theorem fixture_eq (name : String) : after.fixture? name = r.fixture? name :=
  (visited.serves.without_stranger gone name).symm.trans (visited.fixture name)

theorem ref_eq (name : String) : after.gameRef? name = r.gameRef? name := by
  have fixture := visited.fixture_eq gone name
  cases before : r.gameRef? name with
  | some ref => exact visited.ref name ref before
  | none =>
    rw [gameRef?, Option.map_eq_none_iff] at before
    rw [fixture?_eq_none_iff.mpr before, fixture?_eq_none_iff] at fixture
    exact gameRef?_eq_none fixture

variable (unknown : r.members.find? c = none)

include unknown

theorem member_eq (d : ConnectionId) : after.members.find? d = r.members.find? d := by
  by_cases here : d = c
  · rw [here, unknown, gone]
  · exact visited.member d here

theorem alike (equal : after.capacity = r.capacity) : { after with exchange := r.exchange }.Alike .all r where
  member d _ := visited.member_eq gone unknown d
  fixture name _ := visited.fixture_eq gone name
  outbox _ _ := rfl
  standing := by
    have sessions := congrArg Standing.sessions visited.standing
    simp only [Registry.standing] at sessions
    have same := visited.standing
    simp only [Registry.standing, sessions] at same ⊢
    exact same
  capacity := equal
  depth := visited.depth

theorem sameAs (serves : r.Serves capacity) : r.SameAs after := by
  have fixture := visited.fixture_eq gone
  have alike := visited.alike gone unknown (visited.serves.capacity_eq.trans serves.capacity_eq.symm)
  have sessions : after.exchange.telemetry.sessions = r.exchange.telemetry.sessions :=
    congrArg Standing.sessions visited.standing
  have listed : after.Listed := ⟨visited.serves.coherent.unjoined_iff, visited.serves.coherent.unjoined_nodup⟩
  have listed' : r.Listed := ⟨serves.coherent.unjoined_iff, serves.coherent.unjoined_nodup⟩
  exact {
    member := visited.member_eq gone unknown
    unjoined := fun d => by rw [listed.unjoined_iff, listed'.unjoined_iff, visited.member_eq gone unknown]
    ref := visited.ref_eq gone
    game := fun name => by
      have same := congrArg (Option.map Fixture.game) (fixture name)
      simpa only [fixture?, Option.map_map, Function.comp_def, HostedGame.fixture] using same
    running := fun name => by
      have same := congrArg (Option.map Fixture.running) (fixture name)
      simpa only [fixture?, Option.map_map, Function.comp_def, HostedGame.fixture] using same
    standing := visited.standing
    answer := fun q => by
      have answer : { after with exchange := r.exchange }.opened.requestAnswer q = r.opened.requestAnswer q :=
        alike.opened.requestAnswer (Act.within_all (.request q)) ⟨listed.unjoined_iff, listed.nodup⟩
          ⟨listed'.unjoined_iff, listed'.nodup⟩
      rw [shown_handle, shown_handle, visited.serves.running, serves.running, ← answer]
      cases q with
      | summary => simp [requestAnswer, summary, opened, sessions]
      | _ => rfl }

end Visited

end Registry

namespace Hall

/-- A connection that is not known may come, ask for games as often as it likes, get in or not and use the game that it
is in. When it has gone, the registry is as it was: as long as games stop by the doing of the registry only and
applicants are taken. -/
theorem Steady.visit_leaves_no_trace {ι : Type} {capacity : Nat} {h : Hall} (steady : Steady capacity h)
    (accepting : h.registry.accepting = true) {c : ConnectionId} (unknown : c ∉ h.registry.members.keys)
    {visit : List (ι × Act)} (own : ∀ act ∈ visit, act.2.ByVisitor c) :
    h.registry.SameAs ((h.final visit).perform (.request (.unregister c))).2.registry := by
  have serves := steady.serves accepting
  have unknown := Table.find?_eq_none_iff.mpr unknown
  have during := (serves.visited unknown).final own
  have visited := during.request (q := .unregister c) rfl
  have gone : ((h.final visit).registry.handle (.unregister c)).2.members.find? c = none := by
    rw [((h.final visit).registry.handle_undergoes (.unregister c)).member, if_pos during.serves.running]
    exact if_pos rfl
  exact visited.sameAs gone unknown serves

/-- A connection plays alone in a game that takes two. -/
def ringOfOne : List (Unit × Act) :=
  [((), .request (.register ⟨1⟩ ⟨⟨1⟩, 0⟩)), ((), .request (.join ⟨⟨1⟩, "ring", "Ada", .first, none⟩))]

/-- Another one comes twice: it is refused, gets in and sends something, and the second time begins a game of
its own. -/
def visitOfTwo : List (Unit × Act) :=
  [((), .request (.register ⟨2⟩ ⟨⟨2⟩, 1⟩)), ((), .request (.join ⟨⟨2⟩, "ring", "Bo", .first, none⟩)),
    ((), .request (.join ⟨⟨2⟩, "ring", "Bo", .random, none⟩)), ((), .message ⟨2⟩ 0 (.broadcast ⟨[0x68, 0x69]⟩)),
    ((), .request (.join ⟨⟨2⟩, "wall", "Bo", .random, none⟩)), ((), .request (.unregister ⟨2⟩)),
    ((), .request (.register ⟨2⟩ ⟨⟨2⟩, 1⟩)), ((), .request (.join ⟨⟨2⟩, "wall", "Bo", .random, none⟩)), ((), .check)]

theorem visit_leaves_no_trace_ringOfOne :
    Steady 1 ((start 1 [.empty, .empty]).final ringOfOne) ∧
      ((start 1 [.empty, .empty]).final ringOfOne).registry.accepting = true ∧
      (⟨2⟩ : ConnectionId) ∉ ((start 1 [.empty, .empty]).final ringOfOne).registry.members.keys ∧
      (∀ act ∈ visitOfTwo, act.2.ByVisitor ⟨2⟩) ∧
      (((start 1 [.empty, .empty]).final ringOfOne).final visitOfTwo).registry.games.keys = ["ring", "wall"] ∧
      ((start 1 [.empty, .empty]).final ringOfOne).registry.SameAs
        ((((start 1 [.empty, .empty]).final ringOfOne).final visitOfTwo).perform
          (.request (.unregister ⟨2⟩))).2.registry := by
  have steady : Steady 1 ((start 1 [.empty, .empty]).final ringOfOne) :=
    (Steady.start _).final (by simp [ringOfOne, Act.Open]) (by simp [ringOfOne])
  have own : ∀ act ∈ visitOfTwo, act.2.ByVisitor ⟨2⟩ := by
    simp [visitOfTwo, Act.ByVisitor, GameRequest.Open]
  have accepting : ((start 1 [.empty, .empty]).final ringOfOne).registry.accepting = true := by decide
  have unknown : (⟨2⟩ : ConnectionId) ∉ ((start 1 [.empty, .empty]).final ringOfOne).registry.members.keys := by
    decide
  exact ⟨steady, accepting, unknown, own, by decide, steady.visit_leaves_no_trace accepting unknown own⟩

end Hall

end Scrimmage
