import Scrimmage.Proofs.Exchange
import Scrimmage.Proofs.Play

namespace Scrimmage

namespace Game

/-- What a message puts into a queue that takes commands. -/
def sends (g : Game) (q : GameRequest) (s : SessionRef) : List Command :=
  match q with
  | .join e =>
    match g.place e with
    | .ok (placement, _) => if e.session.queue = s.queue then [.write (welcome e.id placement)] else []
    | .error _ => []
  | .broadcast p => copies p s (g.players.map (·.session))
  | _ => []

theorem outbox?_answer (g : Game) (depth : UInt64) (x : Exchange) (q : GameRequest) (s : SessionRef) :
    (g.answer depth x q).2.2.outbox? s = (x.outbox? s).map (Exchange.extended · (g.sends q s)) := by
  cases q with
  | join e =>
    cases placed : g.place e with
    | error failure => simp [answer, join, sends, placed]
    | ok outcome => simp only [answer, join, sends, placed, Exchange.outbox?_offer]
  | broadcast p => exact outbox?_broadcast g x p s
  | _ => simp [answer, sends]

/-- The answer and the game afterwards do not depend on the queues. -/
theorem answer_eq_of_queues (g : Game) (depth : UInt64) (x y : Exchange) (q : GameRequest) :
    (g.answer depth x q).1 = (g.answer depth y q).1 ∧ (g.answer depth x q).2.1 = (g.answer depth y q).2.1 := by
  cases q with
  | join e => cases placed : g.place e <;> simp [answer, join, placed]
  | _ => exact ⟨rfl, rfl⟩

/-- A queue that is that of one connection gets a broadcast once if the connection is a member, and not
otherwise. -/
theorem copies_players {g : Game} (sound : g.Sound) {c : ConnectionId} {s : SessionRef}
    (owned : ∀ d team p, (g.side team).find? d = some p → (p.session.queue = s.queue ↔ d = c)) (p : Package) :
    copies p s (g.players.map (·.session)) = if c ∈ g.members then [.write p] else [] := by
  have counted : ∀ team, ((g.side team).values.map (·.session)).countP (·.queue = s.queue) =
      (g.side team).keys.count c := by
    intro team
    rw [Table.values, Table.keys, List.map_map, List.countP_map, List.count, List.countP_map]
    apply List.countP_congr
    rintro ⟨d, player⟩ entry
    simpa using owned d team player (Table.find?_eq_some_iff.mpr entry)
  have total : (g.players.map (·.session)).countP (·.queue = s.queue) = g.members.count c := by
    have first := counted .first
    have second := counted .second
    simp only [side] at first second
    rw [players, members, List.map_append, List.countP_append, List.count_append, first, second]
  rw [copies, total, sound.members_nodup.count]
  split <;> rfl

end Game

def Turn.queued (turn : Turn) (s : SessionRef) : List Command :=
  (turn.after.waiting s).drop (turn.queues.waiting s).length

/-- What a turn owes to a connection: the outcome of its own accepted join, and a frame that is broadcast
while it is a member. -/
def Turn.due (turn : Turn) (c : ConnectionId) : List Command :=
  match turn.request, turn.answer with
  | .join e, .joined (.ok placement) =>
    if e.connection = c then [.write (Notice.joined e.id placement.slot placement.players).encode] else []
  | .broadcast p, _ => if c ∈ turn.game.members then [.write p] else []
  | _, _ => []

def Turn.relayed (turn : Turn) : List Command :=
  match turn.request with
  | .broadcast p => [.write p]
  | _ => []

/-- The queue is that of one connection: the joins that name it are the joins of the connection. The registry
sees to that, for it joins a connection with the session that came with it. -/
def IsQueueOf (turns : List Turn) (s : SessionRef) (c : ConnectionId) : Prop :=
  ∀ turn ∈ turns, ∀ e, turn.request = .join e → (e.session.queue = s.queue ↔ e.connection = c)

/-- What the turns of a game do to the queue of a connection: it gets a `join-result` for each of its accepted
joins, and every frame that is broadcast while it is a member, in the order in which the game handles them and
nothing else. -/
structure Delivers (turns : List Turn) (hosted : HostedGame) (c : ConnectionId) (s : SessionRef) : Prop where
  /-- Commands are added at the end. -/
  appended : ∀ turn ∈ turns, turn.after.waiting s = turn.queues.waiting s ++ turn.queued s
  /-- An open queue gets what the turn owes to the connection, a queue that is shut gets nothing. -/
  queued : ∀ turn ∈ turns, turn.queued s = if turn.queues.accepts s then turn.due c else []
  trace : (∀ turn ∈ turns, turn.queues.accepts s = true) →
    turns.flatMap (·.queued s) = turns.flatMap (·.due c)
  /-- A membership begins with the `join-result`, and goes on with the broadcasts. -/
  welcomed : c ∈ hosted.game.members → ∃ earlier turn later e placement, turns = earlier ++ turn :: later ∧
    turn.Seats e placement ∧ e.connection = c ∧ (∀ u ∈ later, c ∈ u.game.members) ∧
    ((∀ u ∈ turn :: later, u.queues.accepts s = true) → (turn :: later).flatMap (·.queued s) =
      .write (Notice.joined e.id placement.slot placement.players).encode :: later.flatMap (·.relayed))
  /-- A broadcast reaches a member once, and no one else. -/
  broadcast : ∀ turn ∈ turns, ∀ p, turn.request = .broadcast p → turn.queues.accepts s = true →
    turn.queued s = if c ∈ turn.game.members then [.write p] else []
  /-- A refused join leaves all queues as they are. -/
  refused : ∀ turn ∈ turns, ∀ failure, turn.answer = .joined (.error failure) →
    turn.after.outboxes = turn.queues.outboxes
  /-- As long as the connection is a member its queue gets the broadcasts, which are the same for all. -/
  common : ∀ earlier between later, turns = earlier ++ between ++ later →
    (∀ u ∈ between, c ∈ u.game.members ∧ u.queues.accepts s = true) →
    between.flatMap (·.queued s) = between.flatMap (·.relayed)
  /-- What the queue gets does not depend on any other queue, so not on which other sessions are gone. -/
  apart : ∀ turn ∈ turns, ∀ depth y, y.outbox? s = turn.queues.outbox? s →
    (turn.game.answer depth y turn.request).2.2.outbox? s = turn.after.outbox? s ∧
    (turn.game.answer depth y turn.request).2.1 = (turn.game.answer depth turn.queues turn.request).2.1

namespace Play

variable {generation capacity : Nat} {name : String} {turns : List Turn} {hosted : HostedGame}
  {c : ConnectionId} {s : SessionRef}

theorem outbox?_after (play : Play generation name capacity turns hosted) {turn : Turn}
    (member : turn ∈ turns) (s : SessionRef) :
    turn.after.outbox? s =
      (turn.queues.outbox? s).map (Exchange.extended · (turn.game.sends turn.request s)) := by
  obtain ⟨depth, _, after⟩ := play.turn_answer member
  rw [after, Exchange.outbox?_measure, Game.outbox?_answer]

/-- The players in the teams have the sessions that they joined with. -/
theorem session_iff (play : Play generation name capacity turns hosted) (owned : IsQueueOf turns s c)
    {d : ConnectionId} {team : Team} {p : Player} (seated : (hosted.game.side team).find? d = some p) :
    p.session.queue = s.queue ↔ d = c := by
  obtain ⟨earlier, turn, later, e, placement, split, seats, rfl, _, rfl, _⟩ := play.seated_since seated
  exact owned turn (split ▸ by simp) e seats.1

theorem sends_eq_due (play : Play generation name capacity turns hosted) (owned : IsQueueOf turns s c)
    {turn : Turn} (member : turn ∈ turns) : turn.game.sends turn.request s = turn.due c := by
  obtain ⟨depth, answer, _⟩ := play.turn_answer member
  cases request : turn.request with
  | join e =>
    have own := owned turn member e request
    rw [request] at answer
    cases placed : turn.game.place e with
    | error failure =>
      simp only [Game.answer, Game.join, placed] at answer
      simp only [Turn.due, request, answer, Game.sends, placed]
    | ok outcome =>
      simp only [Game.answer, Game.join, placed] at answer
      simp only [Turn.due, request, answer, Game.sends, placed, own, Game.welcome]
  | broadcast p =>
    obtain ⟨earlier, later, split⟩ := List.append_of_mem member
    obtain ⟨past, before, same⟩ := play.before_turn split
    -- the players have the sessions that they joined with, and those joins are among the earlier turns
    have earlierOwned : IsQueueOf earlier s c := fun u old => owned u (split ▸ List.mem_append_left _ old)
    have players : ∀ d team p, (past.game.side team).find? d = some p → (p.session.queue = s.queue ↔ d = c) :=
      fun _ _ _ seated => before.session_iff earlierOwned seated
    rw [same] at players
    simp only [Turn.due, request, Game.sends]
    exact Game.copies_players (play.turn_sound member) players p
  | _ => simp only [Turn.due, request, Game.sends]

theorem waiting_after (play : Play generation name capacity turns hosted) (owned : IsQueueOf turns s c)
    {turn : Turn} (member : turn ∈ turns) :
    turn.after.waiting s = turn.queues.waiting s ++ if turn.queues.accepts s then turn.due c else [] := by
  rw [← play.sends_eq_due owned member]
  exact Exchange.waiting_extended (play.outbox?_after member s)

theorem queued_eq (play : Play generation name capacity turns hosted) (owned : IsQueueOf turns s c)
    {turn : Turn} (member : turn ∈ turns) :
    turn.queued s = if turn.queues.accepts s then turn.due c else [] := by
  rw [Turn.queued, play.waiting_after owned member, List.drop_left]

theorem queued_eq_due (play : Play generation name capacity turns hosted) (owned : IsQueueOf turns s c)
    {turn : Turn} (member : turn ∈ turns) (accepts : turn.queues.accepts s = true) :
    turn.queued s = turn.due c := by
  rw [play.queued_eq owned member, if_pos accepts]

/-- While a connection is a member, none of its joins is accepted, so that it is owed the broadcasts. -/
theorem due_eq_relayed (play : Play generation name capacity turns hosted) {turn : Turn} (member : turn ∈ turns)
    (inside : c ∈ turn.game.members) : turn.due c = turn.relayed := by
  cases request : turn.request with
  | join e =>
    cases answer : turn.answer with
    | joined outcome =>
      cases outcome with
      | error failure => simp only [Turn.due, Turn.relayed, request, answer]
      | ok placement =>
        obtain ⟨team, key⟩ := Game.mem_members_iff.mp inside
        obtain ⟨p, seated⟩ := Table.mem_keys_iff.mp key
        have other := play.not_seats_of_seated member seated ⟨request, answer⟩
        simp only [Turn.due, Turn.relayed, request, answer, if_neg other]
    | _ => simp only [Turn.due, Turn.relayed, request, answer]
  | broadcast p => simp only [Turn.due, Turn.relayed, request, if_pos inside]
  | _ => simp only [Turn.due, Turn.relayed, request]

theorem queued_eq_relayed (play : Play generation name capacity turns hosted) (owned : IsQueueOf turns s c)
    {between : List Turn} (part : ∀ u ∈ between, u ∈ turns)
    (stays : ∀ u ∈ between, c ∈ u.game.members ∧ u.queues.accepts s = true) :
    between.flatMap (·.queued s) = between.flatMap (·.relayed) := by
  apply List.flatMap_congr
  intro u member
  obtain ⟨inside, accepts⟩ := stays u member
  rw [play.queued_eq_due owned (part u member) accepts, play.due_eq_relayed (part u member) inside]

/-- The queue of a connection gets from a game the outcomes of its accepted joins and the broadcasts that are
handled while it is a member. Each of its memberships begins with the outcome of the join, all members get
the broadcasts in one order, and a session that is gone changes nothing for the others. -/
theorem delivers (play : Play generation name capacity turns hosted) (owned : IsQueueOf turns s c) :
    Delivers turns hosted c s where
  appended turn member := by rw [play.queued_eq owned member, play.waiting_after owned member]
  queued turn := play.queued_eq owned
  trace accepts := List.flatMap_congr fun turn member => play.queued_eq_due owned member (accepts turn member)
  welcomed inside := by
    obtain ⟨team, key⟩ := Game.mem_members_iff.mp inside
    obtain ⟨p, seated⟩ := Table.mem_keys_iff.mp key
    obtain ⟨earlier, turn, later, e, placement, split, seats, same, _, _, since⟩ := play.seated_since seated
    have part : ∀ u ∈ turn :: later, u ∈ turns := fun u member => split ▸ List.mem_append_right _ member
    have stays : ∀ u ∈ later, c ∈ u.game.members := fun u member =>
      Game.mem_members_of_find? (since u member).2.1
    refine ⟨earlier, turn, later, e, placement, split, seats, same, stays, ?_⟩
    intro accepts
    have first : turn.queued s = [.write (Notice.joined e.id placement.slot placement.players).encode] := by
      rw [play.queued_eq_due owned (part turn List.mem_cons_self) (accepts turn List.mem_cons_self)]
      simp only [Turn.due, seats.1, seats.2, if_pos same]
    rw [List.flatMap_cons, first, List.singleton_append, play.queued_eq_relayed owned
      (fun u member => part u (List.mem_cons_of_mem _ member))
      fun u member => ⟨stays u member, accepts u (List.mem_cons_of_mem _ member)⟩]
  broadcast turn member p request accepts := by
    rw [play.queued_eq_due owned member accepts]
    simp only [Turn.due, request]
  refused turn member failure refusal := by
    obtain ⟨depth, answer, after⟩ := play.turn_answer member
    rw [refusal] at answer
    rw [after]
    cases request : turn.request with
    | join e =>
      rw [request] at answer
      cases placed : turn.game.place e with
      | error failure => simp only [Game.answer, Game.join, placed, Exchange.measure]
      | ok outcome => simp [Game.answer, Game.join, placed] at answer
    | _ =>
      rw [request] at answer
      cases answer
  common earlier between later split stays := by
    refine play.queued_eq_relayed owned (fun u member => ?_) stays
    rw [split]
    exact List.mem_append_left _ (List.mem_append_right _ member)
  apart turn member depth y same := by
    rw [Game.outbox?_answer, play.outbox?_after member, same]
    exact ⟨rfl, (turn.game.answer_eq_of_queues depth _ _ _).2⟩

/-- Two players with open queues, a frame for both, and after the first one has left a frame for the other. -/
def exchangeOfTwo : List (Exchange × GameRequest) :=
  let queues : Exchange := { Exchange.empty with outboxes := [.empty, .empty] }
  [(queues, .join ⟨⟨1⟩, "Ada", .random, ⟨⟨1⟩, 0⟩, none⟩), (queues, .join ⟨⟨2⟩, "Bo", .random, ⟨⟨2⟩, 1⟩, none⟩),
    (queues, .broadcast ⟨[0x68, 0x69]⟩), (queues, .leave ⟨1⟩), (queues, .broadcast ⟨[0x79, 0x6F]⟩)]

theorem delivers_exchangeOfTwo :
    IsQueueOf ((HostedGame.start 0 "ring" 3).turns exchangeOfTwo).1 ⟨⟨1⟩, 0⟩ ⟨1⟩ ∧
      Delivers ((HostedGame.start 0 "ring" 3).turns exchangeOfTwo).1
        ((HostedGame.start 0 "ring" 3).turns exchangeOfTwo).2 ⟨1⟩ ⟨⟨1⟩, 0⟩ := by
  have owned : IsQueueOf ((HostedGame.start 0 "ring" 3).turns exchangeOfTwo).1 ⟨⟨1⟩, 0⟩ ⟨1⟩ := by
    intro turn member e request
    have asked := HostedGame.request_of_turns member
    rw [request] at asked
    simp only [exchangeOfTwo, List.map_cons, List.map_nil, List.mem_cons, GameRequest.join.injEq,
      List.not_mem_nil, reduceCtorEq, or_false] at asked
    rcases asked with rfl | rfl <;> decide
  exact ⟨owned, (Play.start.extend exchangeOfTwo).delivers owned⟩

end Play

end Scrimmage
