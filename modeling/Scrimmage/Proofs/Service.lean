import Scrimmage.Proofs.Membership

namespace Scrimmage

namespace Game

theorem find?_entered_iff {g : Game} (sound : g.Sound) {e : Entrant} {placement : Placement}
    (admits : g.Admits e placement) (d : ConnectionId) (team : Team) (p : Player) :
    ((g.entered e placement).side team).find? d = some p ↔
      d = e.connection ∧ team = placement.team ∧
          p = { slot := placement.slot, nick := e.nick, session := e.session } ∨
        d ≠ e.connection ∧ (g.side team).find? d = some p := by
  rw [entered, find?_seat]
  by_cases here : d = e.connection
  · subst here
    by_cases same : team = placement.team
    · simp [same, eq_comm]
    · simp [same, sound.find?_of_absent admits.absent team]
  · simp [here]

theorem find?_unseat_iff {g : Game} (sound : g.Sound) {c : ConnectionId} {team : Team}
    (member : g.teamOf.find? c = some team) {d : ConnectionId} {other : Team} {p : Player} :
    ((g.unseat c team).side other).find? d = some p ↔ d ≠ c ∧ (g.side other).find? d = some p := by
  rw [find?_unseat]
  by_cases here : d = c
  · subst here
    by_cases same : other = team
    · simp [same]
    · have outside : d ∉ (g.side other).keys := fun inside =>
        same (sound.team_unique inside ((sound.cached d team).mp member))
      simp [same, Table.find?_eq_none_iff.mpr outside]
  · simp [here]

end Game

/-- A message that a game may get from elsewhere than the registry. -/
def GameRequest.Open : GameRequest → Prop
  | .broadcast _ | .count | .roster => True
  | .join _ | .leave _ => False

theorem Game.game_answer_of_open {q : GameRequest} (isOpen : q.Open) (g : Game) (depth : UInt64) (x : Exchange) :
    (g.answer depth x q).2.1 = g := by
  cases q with
  | join | leave => exact isOpen.elim
  | _ => rfl

namespace Registry

theorem find?_seated {r : Registry} {a : Application} {m : Member} {h : HostedGame} {placement : Placement}
    (hosts : r.Hosts a.game h) (other : String) :
    (r.seated a m h placement).games.find? other =
      if other = a.game then some (h.handled (h.game.entered (a.entrant m.session) placement))
      else r.games.find? other :=
  find?_put hosts _ ((r.exchange.offer m.session (.write (Game.welcome a.id placement))).measure
    (·.messageHandled)) other

theorem find?_departed {r : Registry} {c : ConnectionId} {name : String} {h : HostedGame}
    (hosts : r.Hosts name h) {team : Team} (member : h.game.teamOf.find? c = some team) (other : String) :
    (r.departed c name h).games.find? other =
      if other = name then
        if (h.game.unseat c team).size = 0 then none else some (h.handled (h.game.unseat c team))
      else r.games.find? other := by
  have hosts' : (r.forget c).Hosts name h := ⟨hosts.found, hosts.running⟩
  have after := find?_put hosts' (h.handled (h.game.unseat c team)) (r.exchange.measure (·.messageHandled))
  have there := after name
  rw [if_pos rfl] at there
  simp only [departed, Game.leave_of_some member]
  by_cases empty : (h.game.unseat c team).size = 0
  · rw [if_pos empty, removeGame_found there]
    simp only [measure, Table.find?_erase, after, empty, if_true]
    split
    · rfl
    · rfl
  · simp only [empty, if_false, after]
    split
    · rfl
    · rfl

section

variable (r : Registry) (c : ConnectionId) (name : String) (h : HostedGame)

theorem removeGame_kept :
    (r.removeGame name).members = r.members ∧ (r.removeGame name).unjoined = r.unjoined ∧
      (r.removeGame name).capacity = r.capacity ∧ (r.removeGame name).running = r.running ∧
      (r.removeGame name).cancelled = r.cancelled ∧ (r.removeGame name).accepting = r.accepting ∧
      (r.removeGame name).exchange.outboxes = r.exchange.outboxes := by
  rw [removeGame]
  split
  · exact ⟨rfl, rfl, rfl, rfl, rfl, rfl, rfl⟩
  · exact ⟨rfl, rfl, rfl, rfl, rfl, rfl, rfl⟩

theorem departed_kept :
    (r.departed c name h).members = r.members.erase c ∧
      (r.departed c name h).unjoined = r.unjoined.filter (· ≠ c) ∧
      (r.departed c name h).capacity = r.capacity ∧ (r.departed c name h).running = r.running ∧
      (r.departed c name h).cancelled = r.cancelled ∧ (r.departed c name h).accepting = r.accepting ∧
      (r.departed c name h).exchange.outboxes = r.exchange.outboxes := by
  rw [departed]
  split
  · exact removeGame_kept ..
  · exact ⟨rfl, rfl, rfl, rfl, rfl, rfl, rfl⟩

end

namespace Coherent

variable {r : Registry} (coherent : r.Coherent)

include coherent

theorem all_running (name : String) (h : HostedGame) (found : r.games.find? name = some h) : h.running = true :=
  (coherent.lives name h found).running

theorem unregister (c : ConnectionId) : (r.unregister c).2.Coherent := by
  cases known : r.members.find? c with
  | none =>
    rw [unregister_unknown known]
    exact coherent
  | some m =>
    cases inside : m.game with
    | none =>
      rw [unregister_unjoined known inside]
      exact coherent.forget known inside
    | some name =>
      obtain ⟨h, hosts, member⟩ := coherent.hosts_of_game known inside
      have lives := coherent.lives name h hosts.found
      obtain ⟨team, key⟩ := Game.mem_members_iff.mp member
      have cached := (lives.sound.cached c team).mpr key
      obtain ⟨members, unjoined, capacity, _⟩ := r.departed_kept c name h
      rw [unregister_joined known inside hosts]
      refine coherent.leave (h.handled (h.game.unseat c team)) hosts.found member
        (find?_departed hosts cached) members unjoined capacity ?_ ?_
      · intro some
        exact ⟨hosts.running, lives.sound.unseat cached, (Game.name_unseat ..).trans lives.name_eq,
          (Game.capacity_unseat ..).trans lives.capacity_eq, some⟩
      · intro d side player
        exact Game.find?_unseat_iff lives.sound cached

/-- A seat in a game is a step that all agree on, whether the game was there or is new. -/
theorem seated {r' : Registry} {a : Application} {m : Member} {h : HostedGame} {placement : Placement}
    (known : r.members.find? a.connection = some m) (outside : m.game = none)
    (origin : r.games.find? a.game = some h ∨
      r.games.find? a.game = none ∧ h = .start r.nextGeneration a.game r.capacity)
    (hosts : r'.Hosts a.game h) (games : ∀ other, other ≠ a.game → r'.games.find? other = r.games.find? other)
    (members : r'.members = r.members) (unjoined : r'.unjoined = r.unjoined) (capacity : r'.capacity = r.capacity)
    (admits : h.game.Admits (a.entrant m.session) placement) : (r'.seated a m h placement).Coherent := by
  have sound : h.game.Sound ∧ h.game.name = a.game ∧ h.game.capacity = r.capacity := by
    rcases origin with there | ⟨_, rfl⟩
    · have lives := coherent.lives a.game h there
      exact ⟨lives.sound, lives.name_eq, lives.capacity_eq⟩
    · exact ⟨Game.create_sound a.game r.capacity, rfl, rfl⟩
  have placed := Game.find?_entered_iff sound.1 admits
  have newcomer := (placed a.connection placement.team _).mpr (Or.inl ⟨rfl, rfl, rfl⟩)
  have lives : (h.handled (h.game.entered (a.entrant m.session) placement)).Lives a.game r.capacity :=
    ⟨hosts.running, sound.1.entered admits, (Game.name_seat ..).trans sound.2.1,
      (Game.capacity_seat ..).trans sound.2.2, Game.size_pos_of_mem (Game.mem_members_of_find? newcomer)⟩
  have seats : ∀ d side player, ((h.game.entered (a.entrant m.session) placement).side side).find? d = some player ↔
      d = a.connection ∧ side = placement.team ∧
          player = { slot := placement.slot, nick := a.nick, session := m.session } ∨
        d ≠ a.connection ∧ ∃ k, r.games.find? a.game = some k ∧ (k.game.side side).find? d = some player := by
    intro d side player
    refine (placed d side player).trans (or_congr Iff.rfl (and_congr_right fun _ => ?_))
    rcases origin with there | ⟨absent, rfl⟩
    · simp [there]
    · cases side <;> simp [absent, HostedGame.start, Game.create, Game.side]
  refine coherent.seat known outside ?_ ?_ ?_ ?_ lives rfl seats
  · intro other
    rw [find?_seated hosts]
    split
    · rfl
    · rename_i there
      exact games other there
  · rw [Registry.seated, recordJoined, put, members]
  · rw [Registry.seated, recordJoined, put, unjoined]
  · rw [Registry.seated, recordJoined, put, capacity]

theorem joins {a : Application} {outcome : Except Failure Admission} {after : Registry}
    (joins : r.Joins a outcome after) : after.Coherent := by
  cases joins with
  | draining | unknown | elsewhere | stopped => exact coherent
  | refused _ _ _ hosts _ => exact coherent.put_same hosts.found _
  | admitted _ known outside hosts admits =>
    exact coherent.seated known outside (Or.inl hosts.found) hosts (fun _ _ => rfl) rfl rfl rfl admits
  | refusedNew => exact coherent.of_tables rfl rfl rfl rfl
  | admittedNew _ known outside absent admits =>
    refine coherent.seated known outside (Or.inr ⟨absent, rfl⟩) (hosts_createGame r a.game) ?_ rfl rfl rfl admits
    intro other there
    simp only [createGame, measure, Table.find?_insert, if_neg there]

/-- A message that the registry sends to a game and that leaves the members alone. -/
theorem sendTo {α : Type} (ref : GameRef) {f : Game → UInt64 → Exchange → α × Game × Exchange}
    (same : ∀ g depth x, (f g depth x).2.1 = g) : (r.sendTo ref f).2.Coherent := by
  rcases r.sendTo_cases ref f with ⟨h, hosts, generation⟩ | nothing
  · obtain ⟨name, _⟩ := ref
    subst generation
    rw [sendTo_hosts hosts, same]
    exact coherent.put_same hosts.found _
  · rw [nothing]
    exact coherent

theorem listing (name : String) : (r.listing name).2.Coherent := by
  rw [Registry.listing]
  split
  · exact coherent
  · exact coherent.sendTo _ fun _ _ _ => rfl

theorem askGame (ref : GameRef) {q : GameRequest} (isOpen : q.Open) : (r.askGame ref q).2.Coherent :=
  coherent.sendTo ref fun g depth x => g.game_answer_of_open isOpen depth x

end Coherent

/-- A registry that goes on: it agrees with its games, and no one has told it to stop. Whatever it is asked,
short of stopping, it answers, and stays like this. -/
structure Serves (r : Registry) (capacity : Nat) : Prop where
  coherent : r.Coherent
  capacity_eq : r.capacity = capacity
  running : r.running = true
  going : r.cancelled = false
  accepting : r.accepting = true

theorem create_serves (capacity : Nat) : (create capacity).Serves capacity :=
  ⟨create_coherent capacity, rfl, rfl, rfl, rfl⟩

/-- What only a shutdown changes: the capacity, whether the registry goes on, whether it was told to stop, and
whether it takes applicants. -/
structure Goes (r after : Registry) : Prop where
  capacity_eq : after.capacity = r.capacity
  running_eq : after.running = r.running
  cancelled_eq : after.cancelled = r.cancelled
  accepting_eq : after.accepting = r.accepting

theorem Goes.rfl {r : Registry} : r.Goes r := ⟨.refl _, .refl _, .refl _, .refl _⟩

theorem sendTo_goes {α : Type} (r : Registry) (ref : GameRef) (f : Game → UInt64 → Exchange → α × Game × Exchange) :
    r.Goes (r.sendTo ref f).2 := by
  rcases r.sendTo_cases ref f with ⟨h, hosts, generation⟩ | nothing
  · obtain ⟨name, _⟩ := ref
    subst generation
    rw [sendTo_hosts hosts]
    exact ⟨.refl _, .refl _, .refl _, .refl _⟩
  · rw [nothing]
    exact .rfl

theorem Joins.goes {r after : Registry} {a : Application} {outcome : Except Failure Admission}
    (joins : r.Joins a outcome after) : r.Goes after := by
  cases joins <;> exact ⟨.refl _, .refl _, .refl _, .refl _⟩

theorem register_goes (r : Registry) (c : ConnectionId) (session : SessionRef) :
    r.Goes (r.register c session) := by
  rw [register]
  split <;> exact ⟨.refl _, .refl _, .refl _, .refl _⟩

theorem Coherent.unregister_goes {r : Registry} (coherent : r.Coherent) (c : ConnectionId) :
    r.Goes (r.unregister c).2 := by
  cases known : r.members.find? c with
  | none =>
    rw [unregister_unknown known]
    exact .rfl
  | some m =>
    cases inside : m.game with
    | none =>
      rw [unregister_unjoined known inside]
      exact ⟨.refl _, .refl _, .refl _, .refl _⟩
    | some name =>
      obtain ⟨h, hosts, _⟩ := coherent.hosts_of_game known inside
      obtain ⟨_, _, capacity, running, cancelled, accepting, _⟩ := r.departed_kept c name h
      rw [unregister_joined known inside hosts]
      exact ⟨capacity, running, cancelled, accepting⟩

namespace Serves

variable {r : Registry} {capacity : Nat} (serves : r.Serves capacity)

include serves

theorem of_goes {after : Registry} (coherent : after.Coherent) (goes : r.Goes after) : after.Serves capacity :=
  ⟨coherent, goes.capacity_eq.trans serves.capacity_eq, goes.running_eq.trans serves.running,
    goes.cancelled_eq.trans serves.going, goes.accepting_eq.trans serves.accepting⟩

theorem queues (x : Exchange) : { r with exchange := x }.Serves capacity :=
  serves.of_goes (serves.coherent.of_tables rfl rfl rfl rfl) ⟨.refl _, .refl _, .refl _, .refl _⟩

theorem opened : r.opened.Serves capacity :=
  serves.of_goes (serves.coherent.of_tables rfl rfl rfl rfl) ⟨.refl _, .refl _, .refl _, .refl _⟩

theorem closed : r.closed.Serves capacity :=
  serves.of_goes (serves.coherent.of_tables rfl rfl rfl rfl) ⟨.refl _, .refl _, .refl _, .refl _⟩

theorem answer {q : RegistryRequest} (stays : ∀ timeout, q ≠ .shutdown timeout) : (r.answer q).2.Serves capacity := by
  cases q with
  | register c session => exact serves.of_goes (serves.coherent.register c session) (r.register_goes c session)
  | unregister c => exact serves.of_goes (serves.coherent.unregister c) (serves.coherent.unregister_goes c)
  | join a => exact serves.of_goes (serves.coherent.joins (r.join_joins a)) (r.join_joins a).goes
  | listing name =>
    refine serves.of_goes (serves.coherent.listing name) ?_
    simp only [Registry.answer, Registry.listing]
    split
    · exact .rfl
    · exact r.sendTo_goes _ _
  | summary => exact serves
  | shutdown timeout => exact absurd rfl (stays timeout)

theorem send_eq {α : Type} {f : Registry → α × Registry} (kept : (f r.opened).2.Serves capacity) :
    r.send f = (.ok (f r.opened).1, (f r.opened).2.closed) := by
  have after := kept.closed
  rw [send_running serves.running, turn_eq_self after.coherent.all_running after.going]

theorem ask_eq {q : RegistryRequest} (stays : ∀ timeout, q ≠ .shutdown timeout) :
    r.ask q = (.ok (r.opened.answer q).1, (r.opened.answer q).2.closed) :=
  serves.send_eq (serves.opened.answer stays)

theorem ask {q : RegistryRequest} (stays : ∀ timeout, q ≠ .shutdown timeout) : (r.ask q).2.Serves capacity := by
  rw [serves.ask_eq stays]
  exact (serves.opened.answer stays).closed

theorem askGame (ref : GameRef) {q : GameRequest} (isOpen : q.Open) : (r.askGame ref q).2.Serves capacity :=
  serves.of_goes (serves.coherent.askGame ref isOpen) (r.sendTo_goes ref _)

end Serves

end Registry

end Scrimmage
