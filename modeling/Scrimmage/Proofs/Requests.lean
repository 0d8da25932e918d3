import Scrimmage.Registry
import Scrimmage.Proofs.Play

namespace Scrimmage

namespace HostedGame

def handled (h : HostedGame) (game : Game) : HostedGame :=
  { h with game, mailbox := h.mailbox.enqueue.dequeue }

section

variable (h : HostedGame) (game : Game)

end

theorem send_running {α : Type} {h : HostedGame} (running : h.running = true) (x : Exchange)
    (f : Game → UInt64 → Exchange → α × Game × Exchange) :
    h.send x f =
      (.ok (f h.game h.mailbox.enqueue.depth x).1, h.handled (f h.game h.mailbox.enqueue.depth x).2.1,
        (f h.game h.mailbox.enqueue.depth x).2.2.measure (·.messageHandled)) := by
  simp only [send, running, if_true, serve, handled]

end HostedGame

def Application.entrant (a : Application) (session : SessionRef) : Entrant :=
  { connection := a.connection, nick := a.nick, team := a.team, session, id := a.id }

namespace Registry

def put (r : Registry) (name : String) (h : HostedGame) (x : Exchange) : Registry :=
  { r with games := r.games.modify name fun _ => h, exchange := x }

/-- A game of this name is there, and it goes on. -/
structure Hosts (r : Registry) (name : String) (h : HostedGame) : Prop where
  found : r.games.find? name = some h
  running : h.running = true

theorem find?_put {r : Registry} {name : String} {h : HostedGame} (hosts : r.Hosts name h) (after : HostedGame)
    (x : Exchange) (other : String) :
    (r.put name after x).games.find? other = if other = name then some after else r.games.find? other := by
  rw [put, Table.find?_modify]
  split
  · rename_i same
    rw [same, hosts.found, Option.map_some]
  · rfl

theorem gameRef?_of_hosts {r : Registry} {name : String} {h : HostedGame} (hosts : r.Hosts name h) :
    r.gameRef? name = some ⟨name, h.generation⟩ := by
  rw [gameRef?, hosts.found, Option.map_some]

theorem gameRef?_eq_some {r : Registry} {name : String} {ref : GameRef} (found : r.gameRef? name = some ref) :
    ∃ h, r.games.find? name = some h ∧ ref = ⟨name, h.generation⟩ := by
  obtain ⟨h, entry, same⟩ := Option.map_eq_some_iff.mp found
  exact ⟨h, entry, same.symm⟩

theorem gameRef?_eq_none {r : Registry} {name : String} (absent : r.games.find? name = none) :
    r.gameRef? name = none := by
  rw [gameRef?, absent, Option.map_none]

theorem sendTo_hosts {α : Type} {r : Registry} {name : String} {h : HostedGame} (hosts : r.Hosts name h)
    (f : Game → UInt64 → Exchange → α × Game × Exchange) :
    r.sendTo ⟨name, h.generation⟩ f =
      (.ok (f h.game h.mailbox.enqueue.depth r.exchange).1,
        r.put name (h.handled (f h.game h.mailbox.enqueue.depth r.exchange).2.1)
          ((f h.game h.mailbox.enqueue.depth r.exchange).2.2.measure (·.messageHandled))) := by
  simp only [sendTo, hosts.found, if_true, HostedGame.send_running hosts.running, put]

/-- A message to a game that is not there, that has a successor or that has stopped does nothing. -/
theorem sendTo_cases {α : Type} (r : Registry) (ref : GameRef)
    (f : Game → UInt64 → Exchange → α × Game × Exchange) :
    (∃ h, r.Hosts ref.name h ∧ h.generation = ref.generation) ∨ (r.sendTo ref f) = (.error .unreachable, r) := by
  cases found : r.games.find? ref.name with
  | none => exact Or.inr (by simp only [sendTo, found])
  | some h =>
    by_cases same : h.generation = ref.generation
    · cases running : h.running with
      | true => exact Or.inl ⟨h, ⟨found, running⟩, same⟩
      | false =>
        right
        have kept : r.games.modify ref.name (fun _ => h) = r.games :=
          Table.modify_eq_self fun v entry => Option.some.inj (found.symm.trans entry)
        simp only [sendTo, found, same, if_true, HostedGame.send, running, Bool.false_eq_true, if_false, kept]
    · exact Or.inr (by simp only [sendTo, found, same, if_false])

theorem removeGame_found {r : Registry} {name : String} {h : HostedGame} (found : r.games.find? name = some h) :
    r.removeGame name =
      { r with games := r.games.erase name, tokens := r.tokens.cancel h.generation }.measure (·.gameRemoved) := by
  rw [removeGame, found]

theorem removeGame_absent {r : Registry} {name : String} (absent : r.games.find? name = none) :
    r.removeGame name = r := by
  rw [removeGame, absent]

theorem register_known {r : Registry} {c : ConnectionId} {m : Member} (known : r.members.find? c = some m)
    (session : SessionRef) : r.register c session = r := by
  rw [register, if_pos (Table.contains_iff.mpr (Table.mem_keys_of_find? known))]

theorem register_new {r : Registry} {c : ConnectionId} (new : r.members.find? c = none) (session : SessionRef) :
    r.register c session =
      { r with members := r.members.insert c { game := none, session }, unjoined := r.unjoined ++ [c] } := by
  rw [register, if_neg (by rw [Table.contains_eq_false_iff.mpr new]; decide)]

def forget (r : Registry) (c : ConnectionId) : Registry :=
  { r with members := r.members.erase c, unjoined := r.unjoined.filter (· ≠ c) }

theorem unregister_unknown {r : Registry} {c : ConnectionId} (unknown : r.members.find? c = none) :
    r.unregister c = (false, r) := by
  simp only [unregister, unknown]

theorem unregister_unjoined {r : Registry} {c : ConnectionId} {m : Member}
    (known : r.members.find? c = some m) (outside : m.game = none) :
    r.unregister c = (true, r.forget c) := by
  simp only [unregister, known, outside, Option.bind_none]
  rfl

/-- The registry after a member of a game is gone: its game goes too if it was the last player. -/
def departed (r : Registry) (c : ConnectionId) (name : String) (h : HostedGame) : Registry :=
  let left := (r.forget c).put name (h.handled (h.game.leave c).2) (r.exchange.measure (·.messageHandled))
  if (h.game.leave c).1.remaining = 0 then left.removeGame name else left

theorem unregister_joined {r : Registry} {c : ConnectionId} {m : Member} {name : String} {h : HostedGame}
    (known : r.members.find? c = some m) (inside : m.game = some name) (hosts : r.Hosts name h) :
    r.unregister c = (true, r.departed c name h) := by
  have hosts' : (r.forget c).Hosts name h := ⟨hosts.found, hosts.running⟩
  have ref : (r.forget c).gameRef? name = some ⟨name, h.generation⟩ := gameRef?_of_hosts hosts'
  rw [forget] at ref
  simp only [unregister, known, inside, Option.bind_some, ref, depart]
  rw [← forget, sendTo_hosts hosts']
  rfl

theorem enter_hosts {r : Registry} {name : String} {h : HostedGame} (hosts : r.Hosts name h) (a : Application)
    (session : SessionRef) :
    r.enter ⟨name, h.generation⟩ a session =
      match h.game.place (a.entrant session) with
      | .error failure =>
        (.error failure, r.put name (h.handled h.game) (r.exchange.measure (·.messageHandled)))
      | .ok (placement, game) =>
        (.ok { game := ⟨name, h.generation⟩, placement },
          (r.put name (h.handled game)
            ((r.exchange.offer session (.write (Game.welcome a.id placement))).measure
              (·.messageHandled))).recordJoined a.connection name) := by
  simp only [enter, sendTo_hosts hosts]
  cases placed : h.game.place (a.entrant session) with
  | error failure =>
    have turned := placed
    simp only [Application.entrant] at turned
    simp only [Game.join, turned]
    rfl
  | ok outcome =>
    have seated := placed
    simp only [Application.entrant] at seated
    simp only [Game.join, seated]
    rfl

theorem hosts_createGame (r : Registry) (name : String) :
    (r.createGame name).2.Hosts name (.start r.nextGeneration name r.capacity) where
  found := by simp only [createGame, measure, Table.find?_insert, if_true]
  running := rfl

def seated (r : Registry) (a : Application) (m : Member) (h : HostedGame) (placement : Placement) : Registry :=
  (r.put a.game (h.handled (h.game.entered (a.entrant m.session) placement))
    ((r.exchange.offer m.session (.write (Game.welcome a.id placement))).measure
      (·.messageHandled))).recordJoined a.connection a.game

/-- What an application comes to, case by case, as a change of the tables. A game that is asked keeps its
generation and goes on; one that is begun for an applicant whom it refuses leaves no trace but the token that
was derived for it. -/
inductive Joins (r : Registry) (a : Application) : Except Failure Admission → Registry → Prop
  | draining : r.accepting = false → Joins r a (.error .draining) r
  | unknown : r.accepting = true → r.members.find? a.connection = none →
      Joins r a (.error (.notRegistered a.connection.label)) r
  | elsewhere {m name} : r.accepting = true → r.members.find? a.connection = some m → m.game = some name →
      Joins r a (.error (.alreadyJoined a.connection.label)) r
  | stopped {m h} : r.accepting = true → r.members.find? a.connection = some m → m.game = none →
      r.games.find? a.game = some h → h.running = false → Joins r a (.error .unreachable) r
  | refused {m h failure} : r.accepting = true → r.members.find? a.connection = some m → m.game = none →
      r.Hosts a.game h → h.game.place (a.entrant m.session) = .error failure →
      Joins r a (.error failure) (r.put a.game (h.handled h.game) (r.exchange.measure (·.messageHandled)))
  | admitted {m h placement} : r.accepting = true → r.members.find? a.connection = some m → m.game = none →
      r.Hosts a.game h → h.game.Admits (a.entrant m.session) placement →
      Joins r a (.ok ⟨⟨a.game, h.generation⟩, placement⟩) (r.seated a m h placement)
  | refusedNew {m failure} : r.accepting = true → r.members.find? a.connection = some m → m.game = none →
      r.games.find? a.game = none →
      (Game.create a.game r.capacity).place (a.entrant m.session) = .error failure →
      Joins r a (.error failure)
        { r with
          tokens := r.tokens.derive.cancel r.nextGeneration
          exchange := ((r.exchange.measure (·.gameCreated)).measure (·.messageHandled)).measure (·.gameRemoved) }
  | admittedNew {m placement} : r.accepting = true → r.members.find? a.connection = some m → m.game = none →
      r.games.find? a.game = none → (Game.create a.game r.capacity).Admits (a.entrant m.session) placement →
      Joins r a (.ok ⟨⟨a.game, r.nextGeneration⟩, placement⟩)
        ((r.createGame a.game).2.seated a m (.start r.nextGeneration a.game r.capacity) placement)

/-- A game that was created for an applicant and refuses it leaves no trace in the table of games. -/
theorem removeGame_createGame {r : Registry} {name : String} (absent : r.games.find? name = none)
    {h : HostedGame} (newest : h.generation = r.nextGeneration) (f : Telemetry → Telemetry) :
    ((r.createGame name).2.put name h ((r.createGame name).2.exchange.measure f)).removeGame name =
      { r with
        tokens := r.tokens.derive.cancel r.nextGeneration
        exchange := ((r.exchange.measure (·.gameCreated)).measure f).measure (·.gameRemoved) } := by
  rw [removeGame_found (h := h) (by rw [find?_put (hosts_createGame r name), if_pos rfl])]
  simp only [put, createGame, measure, Table.erase_modify, Table.erase_insert_of_none _ absent, newest]

theorem join_known {r : Registry} {a : Application} {m : Member} (accepting : r.accepting = true)
    (known : r.members.find? a.connection = some m) (outside : m.game = none) {h : HostedGame}
    (found : r.games.find? a.game = some h) : r.join a = r.enter ⟨a.game, h.generation⟩ a m.session := by
  have ref : r.gameRef? a.game = some ⟨a.game, h.generation⟩ := by rw [gameRef?, found, Option.map_some]
  simp only [join, accepting, known, outside, ref, Bool.not_true, Bool.false_eq_true, if_false,
    Option.isSome_none]

theorem sendTo_stopped {α : Type} {r : Registry} {ref : GameRef}
    (still : ∀ h, r.games.find? ref.name = some h → h.running = false)
    (f : Game → UInt64 → Exchange → α × Game × Exchange) : r.sendTo ref f = (.error .unreachable, r) := by
  rcases r.sendTo_cases ref f with ⟨h, hosts, _⟩ | nothing
  · cases hosts.running.symm.trans (still h hosts.found)
  · exact nothing

theorem enter_stopped {r : Registry} {name : String}
    (still : ∀ h, r.games.find? name = some h → h.running = false) (generation : Nat) (a : Application)
    (session : SessionRef) : r.enter ⟨name, generation⟩ a session = (.error .unreachable, r) := by
  simp only [enter]
  rw [sendTo_stopped still]
  rfl

theorem join_new {r : Registry} {a : Application} {m : Member} (accepting : r.accepting = true)
    (known : r.members.find? a.connection = some m) (outside : m.game = none)
    (absent : r.games.find? a.game = none) :
    r.join a =
      match (r.createGame a.game).2.enter ⟨a.game, r.nextGeneration⟩ a m.session with
      | (.ok admission, r) => (.ok admission, r)
      | (.error failure, r) => (.error failure, r.removeGame a.game) := by
  simp only [join, accepting, known, outside, gameRef?_eq_none absent, Bool.not_true, Bool.false_eq_true,
    if_false, Option.isSome_none]
  rfl

theorem join_joins (r : Registry) (a : Application) : r.Joins a (r.join a).1 (r.join a).2 := by
  cases accepting : r.accepting with
  | false =>
    simp only [join, accepting, Bool.not_false, if_true]
    exact .draining accepting
  | true =>
    cases known : r.members.find? a.connection with
    | none =>
      simp only [join, accepting, known, Bool.not_true, Bool.false_eq_true, if_false]
      exact .unknown accepting known
    | some m =>
      cases outside : m.game with
      | some name =>
        simp only [join, accepting, known, outside, Bool.not_true, Bool.false_eq_true, if_false, Option.isSome_some,
          if_true]
        exact .elsewhere accepting known outside
      | none =>
        cases found : r.games.find? a.game with
        | some h =>
          rw [join_known accepting known outside found]
          cases running : h.running with
          | false =>
            have still : ∀ k, r.games.find? a.game = some k → k.running = false := fun k found' =>
              Option.some.inj (found.symm.trans found') ▸ running
            rw [enter_stopped still]
            exact .stopped accepting known outside found running
          | true =>
            have hosts : r.Hosts a.game h := ⟨found, running⟩
            rw [enter_hosts hosts]
            cases placed : h.game.place (a.entrant m.session) with
            | error failure => exact .refused accepting known outside hosts placed
            | ok outcome =>
              obtain ⟨admits, same⟩ := Game.place_eq_ok placed
              simp only [same]
              exact .admitted accepting known outside hosts admits
        | none =>
          -- the game is started first, and asked afterwards as any other
          rw [join_new accepting known outside found]
          have enters := enter_hosts (hosts_createGame r a.game) a m.session
          have generation : (HostedGame.start r.nextGeneration a.game r.capacity).generation = r.nextGeneration := rfl
          rw [generation] at enters
          rw [enters]
          cases placed : (HostedGame.start r.nextGeneration a.game r.capacity).game.place (a.entrant m.session) with
          | error failure =>
            have newest : ∀ game,
                ((HostedGame.start r.nextGeneration a.game r.capacity).handled game).generation = r.nextGeneration :=
              fun _ => rfl
            simp only [removeGame_createGame found (newest _)]
            exact .refusedNew accepting known outside found placed
          | ok outcome =>
            obtain ⟨admits, same⟩ := Game.place_eq_ok placed
            simp only [same]
            exact .admittedNew accepting known outside found admits

def opened (r : Registry) : Registry := { r with mailbox := r.mailbox.enqueue }

def closed (r : Registry) : Registry := { r with mailbox := r.mailbox.dequeue }.measure (·.messageHandled)

theorem send_running {α : Type} {r : Registry} (running : r.running = true) (f : Registry → α × Registry) :
    r.send f = (.ok (f r.opened).1, (f r.opened).2.closed.turn) := by
  simp only [send, running, if_true, serve, opened, closed]

theorem stoppedGames_eq_nil {r : Registry} (all : ∀ name h, r.games.find? name = some h → h.running = true) :
    r.stoppedGames = [] := by
  rw [stoppedGames, List.map_eq_nil_iff, List.filter_eq_nil_iff]
  rintro ⟨name, h⟩ entry
  simp [all name h (Table.find?_eq_some_iff.mpr entry)]

theorem reap_eq_self {r : Registry} (none : r.stoppedGames = []) : r.reap = r := by
  rw [reap, none, List.foldl_nil]

/-- Nothing is to be done after a message as long as no game has stopped and the registry goes on. -/
theorem turn_eq_self {r : Registry} (all : ∀ name h, r.games.find? name = some h → h.running = true)
    (on : r.cancelled = false) : r.turn = r := by
  simp only [turn, reap_eq_self (stoppedGames_eq_nil all), on, Bool.false_eq_true, if_false]

end Registry

end Scrimmage
