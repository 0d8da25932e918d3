import Scrimmage.Proofs.Calls

namespace Scrimmage

/-- A game as it shows itself: its rosters, whether it goes on, and how many messages it counts. Which of the
games of one name it is does not show. -/
structure Fixture where
  game : Game
  running : Bool
  depth : UInt64

def HostedGame.fixture (h : HostedGame) : Fixture :=
  { game := h.game, running := h.running, depth := h.mailbox.depth }

theorem HostedGame.fixture_handled (h : HostedGame) (game : Game) :
    (h.handled game).fixture = { h.fixture with game } := by
  simp [fixture, handled, Mailbox.enqueue, Mailbox.dequeue]

/-- What a registry is up to: whether it takes applicants, was told to stop, and goes on, how long it will wait
for its games at the end, and how many sessions there are. -/
structure Standing where
  accepting : Bool
  cancelled : Bool
  timeout : Nat
  running : Bool
  sessions : UInt64

/-- A change of what there is to see of a registry: of members, of games by name, of queues, and of what the
registry is up to. What is not stated stays as it is. -/
structure Change where
  member : ConnectionId → Option Member → Option Member := fun _ member => member
  fixture : String → Option Fixture → Option Fixture := fun _ fixture => fixture
  outbox : SessionRef → Outbox → Outbox := fun _ outbox => outbox
  standing : Standing → Standing := id

def Change.followedBy (one two : Change) : Change where
  member c m := two.member c (one.member c m)
  fixture name f := two.fixture name (one.fixture name f)
  outbox s o := two.outbox s (one.outbox s o)
  standing t := two.standing (one.standing t)

namespace Registry

def fixture? (r : Registry) (name : String) : Option Fixture := (r.games.find? name).map (·.fixture)

def standing (r : Registry) : Standing :=
  { accepting := r.accepting, cancelled := r.cancelled, timeout := r.shutdownTimeout, running := r.running,
    sessions := r.exchange.telemetry.sessions }

/-- The unjoined connections are listed, each once. -/
structure Listed (r : Registry) : Prop where
  unjoined_iff : ∀ c, c ∈ r.unjoined ↔ ∃ m, r.members.find? c = some m ∧ m.game = none
  nodup : r.unjoined.Nodup

/-- The registry after a change. A game that was there before is the same one, and a new one is different from
all that there were. Each message comes to a change, whatever the registry is like: games may have stopped, and
members may be recorded in games that are gone. -/
structure Undergoes (r : Registry) (change : Change) (after : Registry) : Prop where
  member : ∀ c, after.members.find? c = change.member c (r.members.find? c)
  fixture : ∀ name, after.fixture? name = change.fixture name (r.fixture? name)
  outbox : ∀ s, after.exchange.outbox? s = (r.exchange.outbox? s).map (change.outbox s)
  standing : after.standing = change.standing r.standing
  capacity : after.capacity = r.capacity
  depth : after.mailbox.depth = r.mailbox.depth
  ref : ∀ name, after.gameRef? name =
    (after.fixture? name).map fun _ => (r.gameRef? name).getD ⟨name, r.nextGeneration⟩
  later : r.nextGeneration ≤ after.nextGeneration
  fresh : ∀ name, r.fixture? name = none → after.fixture? name ≠ none → r.nextGeneration < after.nextGeneration
  listed : r.Listed → after.Listed

theorem fixture?_of_find? {r : Registry} {name : String} {h : HostedGame} (found : r.games.find? name = some h) :
    r.fixture? name = some h.fixture := by
  rw [fixture?, found, Option.map_some]

theorem fixture?_eq_none_iff {r : Registry} {name : String} :
    r.fixture? name = none ↔ r.games.find? name = none :=
  Option.map_eq_none_iff

theorem ref_of_kept {r after : Registry}
    (kept : ∀ name h, after.games.find? name = some h →
      ∃ k, r.games.find? name = some k ∧ h.generation = k.generation) (name : String) :
    after.gameRef? name = (after.fixture? name).map fun _ => (r.gameRef? name).getD ⟨name, r.nextGeneration⟩ := by
  cases found : after.games.find? name with
  | none => rw [gameRef?_eq_none found, fixture?_eq_none_iff.mpr found, Option.map_none]
  | some h =>
    obtain ⟨k, before, same⟩ := kept name h found
    simp only [gameRef?, fixture?, found, before, Option.map_some, Option.getD_some, same]

namespace Undergoes

theorem same (r : Registry) : r.Undergoes {} r where
  member _ := rfl
  fixture _ := rfl
  outbox _ := Option.map_id'.symm
  standing := rfl
  capacity := rfl
  depth := rfl
  ref := ref_of_kept fun _ h found => ⟨h, found, rfl⟩
  later := le_rfl
  fresh _ absent there := (there absent).elim
  listed := id

/-- Two changes in a row are one, as long as the second one brings no game that is not there. -/
theorem followedBy {r between after : Registry} {one two : Change} (first : r.Undergoes one between)
    (second : between.Undergoes two after)
    (none : ∀ name, between.fixture? name = none → two.fixture name none = none) :
    r.Undergoes (one.followedBy two) after where
  member c := by rw [second.member, first.member, Change.followedBy]
  fixture name := by rw [second.fixture, first.fixture, Change.followedBy]
  outbox s := by
    rw [second.outbox, first.outbox, Option.map_map]
    rfl
  standing := by rw [second.standing, first.standing, Change.followedBy]
  capacity := second.capacity.trans first.capacity
  depth := second.depth.trans first.depth
  ref name := by
    rw [second.ref, first.ref]
    cases there : between.fixture? name with
    | none => simp only [second.fixture, there, none name there, Option.map_none]
    | some f => rw [Option.map_some, Option.getD_some]
  later := first.later.trans second.later
  fresh name absent there := by
    refine (first.fresh name absent fun missing => there ?_).trans_le second.later
    rw [second.fixture, missing, none name missing]
  listed listed := second.listed (first.listed listed)

/-- All that matters of a change is what it does to what is there. -/
theorem congr {r after : Registry} {change change' : Change} (undergoes : r.Undergoes change after)
    (member : ∀ c, change.member c (r.members.find? c) = change'.member c (r.members.find? c))
    (fixture : ∀ name, change.fixture name (r.fixture? name) = change'.fixture name (r.fixture? name))
    (outbox : ∀ s, change.outbox s = change'.outbox s) (standing : change.standing = change'.standing) :
    r.Undergoes change' after :=
  { undergoes with
    member := fun c => (undergoes.member c).trans (member c)
    fixture := fun name => (undergoes.fixture name).trans (fixture name)
    outbox := fun s => outbox s ▸ undergoes.outbox s
    standing := standing ▸ undergoes.standing }

theorem cancelsToken {r after : Registry} {change : Change} (undergoes : r.Undergoes change after) (token : Nat) :
    r.Undergoes change { after with tokens := after.tokens.cancel token } :=
  { undergoes with
    listed := fun listed => ⟨(undergoes.listed listed).unjoined_iff, (undergoes.listed listed).nodup⟩ }

theorem closed {r after : Registry} {change : Change} (undergoes : r.opened.Undergoes change after) :
    r.Undergoes change after.closed where
  member := undergoes.member
  fixture := undergoes.fixture
  outbox := undergoes.outbox
  standing := undergoes.standing
  capacity := undergoes.capacity
  depth := by
    have depth := undergoes.depth
    simp only [opened, Mailbox.enqueue] at depth
    simp [Registry.closed, measure, Mailbox.dequeue, depth]
  ref := undergoes.ref
  later := undergoes.later
  fresh := undergoes.fresh
  listed listed := ⟨(undergoes.listed ⟨listed.unjoined_iff, listed.nodup⟩).unjoined_iff,
    (undergoes.listed ⟨listed.unjoined_iff, listed.nodup⟩).nodup⟩

end Undergoes

theorem fixture?_put {r : Registry} {name : String} {h : HostedGame} (hosts : r.Hosts name h) (game : Game)
    (x : Exchange) (other : String) :
    (r.put name (h.handled game) x).fixture? other =
      if other = name then some { h.fixture with game } else r.fixture? other := by
  rw [fixture?, find?_put hosts]
  split
  · rw [Option.map_some, HostedGame.fixture_handled]
  · rfl

/-- A game that is there handles a message, and nothing else happens but in the queues. -/
theorem put_undergoes {r : Registry} {name : String} {h : HostedGame} (hosts : r.Hosts name h) (game : Game)
    {x : Exchange} {outbox : SessionRef → Outbox → Outbox}
    (queues : ∀ s, x.outbox? s = (r.exchange.outbox? s).map (outbox s))
    (sessions : x.telemetry.sessions = r.exchange.telemetry.sessions) :
    r.Undergoes { outbox, fixture := fun other f => if other = name then f.map ({ · with game }) else f }
      (r.put name (h.handled game) x) where
  member _ := rfl
  fixture other := by
    simp only [fixture?_put hosts]
    split
    · rename_i here
      rw [here, fixture?_of_find? hosts.found, Option.map_some]
    · rfl
  outbox := queues
  standing := by
    simp only [standing, put, sessions, id]
    rfl
  capacity := rfl
  depth := rfl
  ref := by
    refine ref_of_kept fun other k found => ?_
    rw [find?_put hosts] at found
    split at found
    · rename_i here
      cases found
      exact ⟨h, here ▸ hosts.found, rfl⟩
    · exact ⟨k, found, rfl⟩
  later := le_rfl
  fresh other absent there := by
    rw [fixture?_put hosts, absent] at there
    split at there
    · rename_i here
      rw [here, fixture?_of_find? hosts.found] at absent
      cases absent
    · exact (there rfl).elim
  listed listed := ⟨listed.unjoined_iff, listed.nodup⟩

theorem put_undergoes_still {r : Registry} {name : String} {h : HostedGame} (hosts : r.Hosts name h) (game : Game)
    (f : Telemetry → Telemetry) (sessions : (f r.exchange.telemetry).sessions = r.exchange.telemetry.sessions) :
    r.Undergoes { fixture := fun other k => if other = name then k.map ({ · with game }) else k }
      (r.put name (h.handled game) (r.exchange.measure f)) :=
  put_undergoes hosts game (fun _ => Option.map_id'.symm) sessions

theorem erase_undergoes (r : Registry) (name : String) :
    r.Undergoes { fixture := fun other f => if other = name then none else f }
      ({ r with games := r.games.erase name }.measure (·.gameRemoved)) := by
  have games : ∀ other, (r.games.erase name).find? other = if other = name then none else r.games.find? other :=
    fun other => Table.find?_erase ..
  exact {
    member := fun _ => rfl
    fixture := by
      intro other
      simp only [fixture?, measure, games]
      split <;> rfl
    outbox := fun _ => Option.map_id'.symm
    standing := rfl
    capacity := rfl
    depth := rfl
    ref := by
      refine ref_of_kept fun other k there => ?_
      simp only [measure, games] at there
      split at there
      · cases there
      · exact ⟨k, there, rfl⟩
    later := le_rfl
    fresh := by
      intro other absent there
      simp only [fixture?, measure, games] at there
      split at there
      · exact (there rfl).elim
      · exact (there absent).elim
    listed := fun listed => ⟨listed.unjoined_iff, listed.nodup⟩ }

theorem removeGame_undergoes (r : Registry) (name : String) :
    r.Undergoes { fixture := fun other f => if other = name then none else f } (r.removeGame name) := by
  cases found : r.games.find? name with
  | none =>
    rw [removeGame_absent found]
    refine (Undergoes.same r).congr (fun _ => rfl) (fun other => ?_) (fun _ => rfl) rfl
    dsimp only
    split
    · rename_i here
      rw [here, fixture?_eq_none_iff.mpr found]
    · rfl
  | some h =>
    rw [removeGame_found found]
    exact (r.erase_undergoes name).cancelsToken h.generation

theorem createGame_undergoes {r : Registry} {name : String} (absent : r.games.find? name = none) :
    r.Undergoes
      { fixture := fun other f =>
          if other = name then some { game := .create name r.capacity, running := true, depth := 0 } else f }
      (r.createGame name).2 := by
  have games : ∀ other, (r.createGame name).2.games.find? other =
      if other = name then some (.start r.nextGeneration name r.capacity) else r.games.find? other :=
    fun other => Table.find?_insert ..
  exact {
    member := fun _ => rfl
    fixture := by
      intro other
      simp only [fixture?, games]
      split <;> rfl
    outbox := fun _ => Option.map_id'.symm
    standing := rfl
    capacity := rfl
    depth := rfl
    ref := by
      intro other
      rw [gameRef?, fixture?, games]
      split
      · rename_i here
        rw [here, gameRef?_eq_none absent]
        rfl
      · cases found : r.games.find? other with
        | none => rfl
        | some h =>
          rw [gameRef?, found]
          rfl
    later := Nat.le_succ _
    fresh := fun _ _ _ => Nat.lt_succ_self _
    listed := fun listed => ⟨listed.unjoined_iff, listed.nodup⟩ }

theorem forget_undergoes (r : Registry) (c : ConnectionId) :
    r.Undergoes { member := fun d m => if d = c then none else m } (r.forget c) :=
  { Undergoes.same r with
    member := fun d => Table.find?_erase ..
    ref := ref_of_kept fun _ h found => ⟨h, found, rfl⟩
    listed := fun listed => by
      refine ⟨fun d => ?_, listed.nodup.filter _⟩
      rw [forget, List.mem_filter, decide_eq_true_eq, listed.unjoined_iff, Table.find?_erase]
      by_cases here : d = c
      · simp [here]
      · simp [here] }

theorem recordJoined_undergoes (r : Registry) (c : ConnectionId) (name : String) :
    r.Undergoes { member := fun d m => if d = c then m.map ({ · with game := some name }) else m }
      (r.recordJoined c name) :=
  { Undergoes.same r with
    member := fun d => Table.find?_modify ..
    ref := ref_of_kept fun _ h found => ⟨h, found, rfl⟩
    listed := fun listed => by
      refine ⟨fun d => ?_, listed.nodup.filter _⟩
      rw [recordJoined, List.mem_filter, decide_eq_true_eq, listed.unjoined_iff, Table.find?_modify]
      by_cases here : d = c
      · simp [here]
      · simp [here] }

end Registry

namespace Change

/-- A connection comes in, unless it is there. -/
def register (c : ConnectionId) (session : SessionRef) : Change where
  member d m := if d = c then some (m.getD { game := none, session }) else m

end Change

/-- What is left of a game when a connection has gone. One that has stopped does not answer, and stays. -/
def Fixture.without (c : ConnectionId) (f : Fixture) : Option Fixture :=
  if f.running then
    if (f.game.leave c).1.remaining = 0 then none else some { f with game := (f.game.leave c).2 }
  else some f

/-- A connection goes that is recorded in a game or in none. -/
def Change.unregister (c : ConnectionId) (recorded : Option String) : Change where
  member d m := if d = c then none else m
  fixture name f := if recorded = some name then f.bind (·.without c) else f

namespace Registry

theorem register_undergoes (r : Registry) (c : ConnectionId) (session : SessionRef) :
    r.Undergoes (.register c session) (r.register c session) := by
  cases known : r.members.find? c with
  | some m =>
    rw [register_known known]
    refine { Undergoes.same r with member := fun d => ?_ }
    simp only [Change.register]
    split
    · rename_i here
      rw [here, known, Option.getD_some]
    · rfl
  | none =>
    rw [register_new known]
    refine { Undergoes.same r with member := fun d => ?_, listed := fun listed => ⟨fun d => ?_, ?_⟩ }
    · simp only [Table.find?_insert, Change.register]
      split
      · rename_i here
        rw [here, known, Option.getD_none]
      · rfl
    · rw [List.mem_append, List.mem_singleton, listed.unjoined_iff, Table.find?_insert]
      by_cases here : d = c
      · simp [here]
      · simp [here]
    · rw [List.nodup_append']
      refine ⟨listed.nodup, List.nodup_singleton c, ?_⟩
      rw [List.disjoint_singleton, listed.unjoined_iff, known]
      rintro ⟨m, absurd, _⟩
      cases absurd

/-- In a game that is gone or has stopped no one is left to leave. -/
theorem unregister_stale {r : Registry} {c : ConnectionId} {m : Member} {name : String}
    (known : r.members.find? c = some m) (inside : m.game = some name)
    (still : ∀ h, r.games.find? name = some h → h.running = false) : r.unregister c = (true, r.forget c) := by
  cases found : r.games.find? name with
  | none =>
    have ref : (r.forget c).gameRef? name = none := gameRef?_eq_none found
    rw [forget] at ref
    simp only [unregister, known, inside, Option.bind_some, ref]
    rfl
  | some h =>
    have ref : (r.forget c).gameRef? name = some ⟨name, h.generation⟩ := by
      rw [gameRef?, forget, found, Option.map_some]
    rw [forget] at ref
    simp only [unregister, known, inside, Option.bind_some, ref, depart]
    rw [← forget, sendTo_stopped still]

theorem forget_stale_undergoes {r : Registry} {name : String}
    (still : ∀ h, r.games.find? name = some h → h.running = false) (c : ConnectionId) :
    r.Undergoes (.unregister c (some name)) (r.forget c) := by
  refine (r.forget_undergoes c).congr (fun _ => rfl) (fun other => ?_) (fun _ => rfl) rfl
  simp only [Change.unregister, Option.some.injEq]
  split
  · rename_i here
    rw [← here, fixture?]
    cases found : r.games.find? name with
    | none => rfl
    | some h => simp [Fixture.without, HostedGame.fixture, still h found]
  · rfl

theorem departed_undergoes {r : Registry} {name : String} {h : HostedGame} (hosts : r.Hosts name h)
    (c : ConnectionId) : r.Undergoes (.unregister c (some name)) (r.departed c name h) := by
  have hosts' : (r.forget c).Hosts name h := ⟨hosts.found, hosts.running⟩
  have before : r.fixture? name = some h.fixture := fixture?_of_find? hosts.found
  have left := (r.forget_undergoes c).followedBy
    (put_undergoes_still hosts' (h.game.leave c).2 (·.messageHandled) rfl)
    (fun other _ => by dsimp only; split <;> rfl)
  rw [departed]
  split
  · rename_i empty
    refine (left.followedBy (removeGame_undergoes _ name) (fun other _ => by dsimp only; split <;> rfl)).congr
      (fun _ => rfl) (fun other => ?_) (fun _ => rfl) rfl
    simp only [Change.unregister, Change.followedBy, Option.some.injEq]
    by_cases here : other = name
    · simp [here, before, Fixture.without, HostedGame.fixture, hosts.running, empty]
    · simp [here, Ne.symm here]
  · rename_i peopled
    refine left.congr (fun _ => rfl) (fun other => ?_) (fun _ => rfl) rfl
    simp only [Change.unregister, Change.followedBy, Option.some.injEq]
    by_cases here : other = name
    · simp [here, before, Fixture.without, HostedGame.fixture, hosts.running, peopled]
    · simp [here, Ne.symm here]

theorem unregister_undergoes (r : Registry) (c : ConnectionId) :
    r.Undergoes (.unregister c (r.recorded? c)) (r.unregister c).2 := by
  cases known : r.members.find? c with
  | none =>
    rw [unregister_unknown known, recorded?, known]
    refine (Undergoes.same r).congr (fun d => ?_) (fun _ => rfl) (fun _ => rfl) rfl
    simp only [Change.unregister]
    split
    · rename_i here
      rw [here, known]
    · rfl
  | some m =>
    rw [recorded?, known, Option.bind_some]
    cases inside : m.game with
    | none =>
      rw [unregister_unjoined known inside]
      exact r.forget_undergoes c
    | some name =>
      by_cases hosted : ∃ h, r.Hosts name h
      · obtain ⟨h, hosts⟩ := hosted
        rw [unregister_joined known inside hosts]
        exact departed_undergoes hosts c
      · have still : ∀ h, r.games.find? name = some h → h.running = false := fun h found =>
          Bool.eq_false_of_not_eq_true fun running => hosted ⟨h, found, running⟩
        rw [unregister_stale known inside still]
        exact forget_stale_undergoes still c

end Registry

theorem Game.Admits.place_eq {g : Game} {e : Entrant} {placement : Placement} (admits : g.Admits e placement) :
    g.place e = .ok (placement, g.entered e placement) := by
  cases placed : g.place e with
  | error failure =>
    rcases Game.place_eq_error placed with ⟨_, team, member⟩ | ⟨_, _, full⟩
    · cases admits.absent.symm.trans member
    · rw [← admits.team] at full
      exact absurd admits.room (Nat.not_lt.mpr full)
  | ok outcome =>
    obtain ⟨other, after⟩ := outcome
    obtain ⟨admits', same⟩ := Game.place_eq_ok placed
    have placement_eq : other = placement := by
      cases other
      cases placement
      obtain rfl := admits'.team.trans admits.team.symm
      obtain rfl := admits'.slot.trans admits.slot.symm
      obtain rfl := admits'.players.trans admits.players.symm
      rfl
    rw [same, placement_eq]

/-- A connection gets a place in the game of a name, and its session is told. -/
def Change.seat (a : Application) (session : SessionRef) (placement : Placement) (game : Game) : Change where
  member c m := if c = a.connection then m.map ({ · with game := some a.game }) else m
  fixture name f := if name = a.game then some { game, running := true, depth := (f.map (·.depth)).getD 0 } else f
  outbox s :=
    (Exchange.extended · (if session.queue = s.queue then [.write (Game.welcome a.id placement)] else []))

namespace Registry

/-- The game that a name leads an applicant to, unless it is one that has stopped. -/
def gameFor? (r : Registry) (name : String) : Option Game :=
  match r.fixture? name with
  | none => some (.create name r.capacity)
  | some f => if f.running then some f.game else none

/-- How an application is decided: the session that gets a place, the place, and the game then. -/
def verdict (r : Registry) (a : Application) : Except Failure (SessionRef × Placement × Game) :=
  if !r.accepting then .error .draining
  else
    match r.members.find? a.connection with
    | none => .error (.notRegistered a.connection.label)
    | some m =>
      if m.game.isSome then .error (.alreadyJoined a.connection.label)
      else
        match r.gameFor? a.game with
        | none => .error .unreachable
        | some g => (g.place (a.entrant m.session)).map fun (placement, game) => (m.session, placement, game)

theorem verdict_eq_ok {r : Registry} {a : Application} {session : SessionRef} {placement : Placement} {game : Game}
    (verdict : r.verdict a = .ok (session, placement, game)) :
    ∃ m g, r.members.find? a.connection = some m ∧ m.game = none ∧ m.session = session ∧
      r.gameFor? a.game = some g ∧ g.Admits (a.entrant session) placement ∧
      game = g.entered (a.entrant session) placement := by
  rw [Registry.verdict] at verdict
  split at verdict
  · cases verdict
  · split at verdict
    · cases verdict
    · rename_i m known
      split at verdict
      · cases verdict
      · rename_i outside
        split at verdict
        · cases verdict
        · rename_i g found
          cases placed : g.place (a.entrant m.session) with
          | error failure =>
            rw [placed] at verdict
            cases verdict
          | ok outcome =>
            rw [placed] at verdict
            cases verdict
            obtain ⟨admits, same⟩ := Game.place_eq_ok placed
            exact ⟨m, g, known, by simpa using outside, rfl, found, admits, same⟩

/-- An application is carried out as it was decided. A refusal changes nothing that there is to see, and who is
let in is seated in the game of the name. -/
inductive Decides (r : Registry) (a : Application) : Except Failure Admission → Registry → Prop
  | refuses {failure after} : r.verdict a = .error failure → r.Undergoes {} after → Decides r a (.error failure) after
  | admits {session placement game ref after} : r.verdict a = .ok (session, placement, game) →
      ref.name = a.game → after.gameRef? a.game = some ref →
      r.Undergoes (.seat a session placement game) after → Decides r a (.ok ⟨ref, placement⟩) after

section

variable {r : Registry} {a : Application} {m : Member}

theorem verdict_outside (accepting : r.accepting = true) (known : r.members.find? a.connection = some m)
    (outside : m.game = none) :
    r.verdict a =
      match r.gameFor? a.game with
      | none => .error .unreachable
      | some g => (g.place (a.entrant m.session)).map fun (placement, game) => (m.session, placement, game) := by
  simp only [verdict, accepting, known, outside, Bool.not_true, Bool.false_eq_true, if_false, Option.isSome_none]

theorem gameFor?_hosts {name : String} {h : HostedGame} (hosts : r.Hosts name h) : r.gameFor? name = some h.game := by
  simp only [gameFor?, fixture?_of_find? hosts.found, HostedGame.fixture, hosts.running, if_true]

theorem gameFor?_absent {name : String} (absent : r.games.find? name = none) :
    r.gameFor? name = some (.create name r.capacity) := by
  simp only [gameFor?, fixture?_eq_none_iff.mpr absent]

theorem gameFor?_stopped {name : String} {h : HostedGame} (found : r.games.find? name = some h)
    (stopped : h.running = false) : r.gameFor? name = none := by
  simp only [gameFor?, fixture?_of_find? found, HostedGame.fixture, stopped, Bool.false_eq_true, if_false]

theorem seated_undergoes {h : HostedGame} (hosts : r.Hosts a.game h) (placement : Placement) :
    r.Undergoes (.seat a m.session placement (h.game.entered (a.entrant m.session) placement))
      (r.seated a m h placement) := by
  have put := put_undergoes hosts (h.game.entered (a.entrant m.session) placement)
    (fun s => (Exchange.outbox?_measure _ (·.messageHandled) s).trans
      (Exchange.outbox?_offer r.exchange s m.session (.write (Game.welcome a.id placement))))
    (congrArg (fun t => t.messageHandled.sessions) (Exchange.telemetry_offer ..))
  refine (put.followedBy (recordJoined_undergoes _ a.connection a.game) (fun _ _ => rfl)).congr
    (fun _ => rfl) (fun other => ?_) (fun _ => rfl) rfl
  simp only [Change.followedBy, Change.seat]
  split
  · rename_i here
    rw [here, fixture?_of_find? hosts.found]
    simp [HostedGame.fixture, hosts.running]
  · rfl

theorem seatedNew_undergoes (absent : r.games.find? a.game = none) (placement : Placement) :
    r.Undergoes (.seat a m.session placement ((Game.create a.game r.capacity).entered (a.entrant m.session) placement))
      ((r.createGame a.game).2.seated a m (.start r.nextGeneration a.game r.capacity) placement) := by
  have hosts := hosts_createGame r a.game
  refine ((createGame_undergoes absent).followedBy (seated_undergoes hosts placement) fun other missing => ?_).congr
    (fun _ => rfl) (fun other => ?_) (fun _ => rfl) rfl
  · have there : other ≠ a.game := by
      rintro rfl
      rw [fixture?_of_find? hosts.found] at missing
      cases missing
    simp only [Change.seat, if_neg there]
  · simp only [Change.followedBy, Change.seat]
    split
    · rename_i here
      rw [here, fixture?_eq_none_iff.mpr absent]
      rfl
    · rfl

theorem join_decides (r : Registry) (a : Application) : r.Decides a (r.join a).1 (r.join a).2 := by
  have joins := r.join_joins a
  generalize (r.join a).1 = outcome at joins ⊢
  generalize (r.join a).2 = after at joins ⊢
  cases joins with
  | draining closed => exact .refuses (by simp [verdict, closed]) (.same r)
  | unknown accepting unknown => exact .refuses (by simp [verdict, accepting, unknown]) (.same r)
  | elsewhere accepting known inside => exact .refuses (by simp [verdict, accepting, known, inside]) (.same r)
  | stopped accepting known outside found stopped =>
    refine .refuses ?_ (.same r)
    rw [verdict_outside accepting known outside, gameFor?_stopped found stopped]
  | refused accepting known outside hosts refused =>
    refine .refuses ?_ ((put_undergoes_still hosts _ (·.messageHandled) rfl).congr (fun _ => rfl) (fun name => ?_)
      (fun _ => rfl) rfl)
    · rw [verdict_outside accepting known outside, gameFor?_hosts hosts]
      simp only [refused, Except.map]
    · dsimp only
      split
      · rename_i here
        rw [here, fixture?_of_find? hosts.found]
        rfl
      · rfl
  | @admitted m h placement accepting known outside hosts admits =>
    refine .admits ?_ rfl ?_ (seated_undergoes hosts placement)
    · rw [verdict_outside accepting known outside, gameFor?_hosts hosts]
      simp only [admits.place_eq, Except.map]
    · exact (gameRef?_seated hosts _).trans (gameRef?_of_hosts hosts)
  | refusedNew accepting known outside absent refused =>
    refine .refuses ?_ { Undergoes.same r with
      later := Nat.le_succ _
      ref := ref_of_kept fun _ h there => ⟨h, there, rfl⟩
      listed := fun listed => ⟨listed.unjoined_iff, listed.nodup⟩
      fresh := fun _ missing there => (there missing).elim }
    rw [verdict_outside accepting known outside, gameFor?_absent absent]
    simp only [refused, Except.map]
  | admittedNew accepting known outside absent admits =>
    have hosts := hosts_createGame r a.game
    refine .admits ?_ rfl ?_ (seatedNew_undergoes absent _)
    · rw [verdict_outside accepting known outside, gameFor?_absent absent]
      simp only [admits.place_eq, Except.map]
    · exact (gameRef?_seated hosts _).trans (gameRef?_of_hosts hosts)

end

end Registry

end Scrimmage
