import Scrimmage.Proofs.Seating

namespace Scrimmage

namespace HostedGame

theorem ask_running {h : HostedGame} (running : h.running = true) (x : Exchange) (q : GameRequest) :
    h.ask x q =
      (.ok (h.game.answer h.mailbox.enqueue.depth x q).1,
        { h with
          game := (h.game.answer h.mailbox.enqueue.depth x q).2.1
          mailbox := h.mailbox.enqueue.dequeue },
        (h.game.answer h.mailbox.enqueue.depth x q).2.2.measure (·.messageHandled)) := by
  simp only [ask, send, running, if_true, serve]

theorem ask_eq_ok {h after : HostedGame} {x y : Exchange} {q : GameRequest} {a : GameAnswer}
    (handled : h.ask x q = (.ok a, after, y)) :
    ∃ depth, a = (h.game.answer depth x q).1 ∧ after.game = (h.game.answer depth x q).2.1 ∧
      y = (h.game.answer depth x q).2.2.measure (·.messageHandled) := by
  cases running : h.running with
  | false =>
    simp only [ask, send, running, Bool.false_eq_true, if_false] at handled
    cases handled
  | true =>
    rw [ask_running running] at handled
    cases handled
    exact ⟨_, rfl, rfl, rfl⟩

theorem handles_of_ask {h after : HostedGame} {x y : Exchange} {q : GameRequest} {a : GameAnswer}
    (handled : h.ask x q = (.ok a, after, y)) : h.game.Handles q a after.game := by
  obtain ⟨depth, answer, game, _⟩ := ask_eq_ok handled
  rw [answer, game]
  exact h.game.answer_handles depth x q

end HostedGame

/-- One message, with the game and the queues as it found them, and the queues as it left them. -/
structure Turn where
  game : Game
  queues : Exchange
  request : GameRequest
  answer : GameAnswer
  after : Exchange

/-- The message is a join, and it is accepted. -/
def Turn.Seats (turn : Turn) (e : Entrant) (placement : Placement) : Prop :=
  turn.request = .join e ∧ turn.answer = .joined (.ok placement)

/-- A game from its start on, with its turns in order. Between two turns anything may happen to the queues, so
that the queues that a message finds may be any. -/
inductive Play (generation : Nat) (name : String) (capacity : Nat) : List Turn → HostedGame → Prop
  | start : Play generation name capacity [] (.start generation name capacity)
  | next {turns hosted answer after queues'} (queues : Exchange) (request : GameRequest) :
      Play generation name capacity turns hosted →
      hosted.ask queues request = (.ok answer, after, queues') →
      Play generation name capacity (turns ++ [⟨hosted.game, queues, request, answer, queues'⟩]) after

/-- The turns that messages make, each with the queues that it finds, and the game after them. -/
def HostedGame.turns (h : HostedGame) : List (Exchange × GameRequest) → List Turn × HostedGame
  | [] => ([], h)
  | (queues, request) :: rest =>
    match h.ask queues request with
    | (.error _, _, _) => ([], h)
    | (.ok answer, next, after) =>
      let (more, last) := next.turns rest
      (⟨h.game, queues, request, answer, after⟩ :: more, last)

theorem HostedGame.request_of_turns {h : HostedGame} {messages : List (Exchange × GameRequest)} {turn : Turn}
    (member : turn ∈ (h.turns messages).1) : turn.request ∈ messages.map (·.2) := by
  induction messages generalizing h with
  | nil => cases member
  | cons message rest ih =>
    obtain ⟨queues, request⟩ := message
    rw [HostedGame.turns] at member
    split at member
    · cases member
    · rcases List.mem_cons.mp member with rfl | later
      · exact List.mem_cons_self
      · exact List.mem_cons_of_mem _ (ih later)

namespace Play

variable {generation capacity : Nat} {name : String} {turns : List Turn} {hosted : HostedGame}

theorem extend (play : Play generation name capacity turns hosted) (messages : List (Exchange × GameRequest)) :
    Play generation name capacity (turns ++ (hosted.turns messages).1) (hosted.turns messages).2 := by
  induction messages generalizing turns hosted with
  | nil => simpa [HostedGame.turns] using play
  | cons message rest ih =>
    obtain ⟨queues, request⟩ := message
    rw [HostedGame.turns]
    split
    · simpa using play
    · rename_i answer after queues' handled
      simpa using ih (play.next queues request handled)

theorem turn_answer (play : Play generation name capacity turns hosted) {turn : Turn} (member : turn ∈ turns) :
    ∃ depth, turn.answer = (turn.game.answer depth turn.queues turn.request).1 ∧
      turn.after = (turn.game.answer depth turn.queues turn.request).2.2.measure (·.messageHandled) := by
  induction play with
  | start => cases member
  | next queues request _ handled ih =>
    rcases List.mem_append.mp member with old | new
    · exact ih old
    · cases List.mem_singleton.mp new
      obtain ⟨depth, answer, _, after⟩ := HostedGame.ask_eq_ok handled
      exact ⟨depth, answer, after⟩

/-- Every turn found the game that the turns before it had made. -/
theorem before_turn (play : Play generation name capacity turns hosted) {earlier later : List Turn} {turn : Turn}
    (split : turns = earlier ++ turn :: later) :
    ∃ past, Play generation name capacity earlier past ∧ past.game = turn.game := by
  induction play generalizing later with
  | start => simp at split
  | @next turns past answer after queues' queues request play handled ih =>
    rcases List.eq_nil_or_concat later with rfl | ⟨between, last, rfl⟩
    · obtain ⟨same, new⟩ := List.append_inj' split rfl
      subst same
      cases new
      exact ⟨past, play, rfl⟩
    · rw [List.concat_eq_append, ← List.cons_append, ← List.append_assoc] at split
      exact ih (List.append_inj' split rfl).1

theorem running (play : Play generation name capacity turns hosted) : hosted.running = true := by
  induction play with
  | start => rfl
  | next _ _ _ handled ih =>
    rw [HostedGame.ask_running ih] at handled
    cases handled
    exact ih

theorem capacity_eq (play : Play generation name capacity turns hosted) : hosted.game.capacity = capacity := by
  induction play with
  | start => rfl
  | next _ _ _ handled ih => rw [(HostedGame.handles_of_ask handled).capacity_eq, ih]

theorem sound (play : Play generation name capacity turns hosted) : hosted.game.Sound := by
  induction play with
  | start => exact Game.create_sound name capacity
  | next _ _ _ handled ih => exact ih.handles (HostedGame.handles_of_ask handled)

theorem turn_sound (play : Play generation name capacity turns hosted) {turn : Turn} (member : turn ∈ turns) :
    turn.game.Sound := by
  obtain ⟨earlier, later, split⟩ := List.append_of_mem member
  obtain ⟨past, before, same⟩ := play.before_turn split
  exact same ▸ before.sound

/-- Rosters are consistent as long as nobody is put in beside `2 ^ 32` players, among whom there is no slot left. -/
theorem consistent_of_seats (play : Play generation name capacity turns hosted)
    (few : ∀ turn ∈ turns, ∀ e placement, turn.Seats e placement → turn.game.size < 2 ^ 32) :
    hosted.game.Consistent := by
  induction play with
  | start => exact Game.create_consistent name capacity
  | @next turns past answer after queues' queues request _ handled ih =>
    have before := ih fun turn old => few turn (List.mem_append_left _ old)
    have now := few _ (List.mem_append_right _ (List.mem_singleton_self _))
    have step := HostedGame.handles_of_ask handled
    generalize after.game = next at step ⊢
    cases step with
    | joined admits => exact before.entered admits (now _ _ ⟨rfl, rfl⟩)
    | left member => exact before.unseat member
    | _ => exact before

theorem consistent (play : Play generation name capacity turns hosted)
    (few : ∀ turn ∈ turns, turn.game.size < 2 ^ 32) : hosted.game.Consistent :=
  play.consistent_of_seats fun turn member _ _ _ => few turn member

/-- The connection has been in the team as one player since its join. -/
def SeatedSince (turns : List Turn) (c : ConnectionId) (team : Team) (p : Player) : Prop :=
  ∃ earlier turn later e placement, turns = earlier ++ turn :: later ∧ turn.Seats e placement ∧
    e.connection = c ∧ placement.team = team ∧
    p = { slot := placement.slot, nick := e.nick, session := e.session } ∧
    ∀ u ∈ later, u.request ≠ .leave c ∧ (u.game.side team).find? c = some p ∧
      ∀ e' placement', u.Seats e' placement' → e'.connection ≠ c

theorem not_seats_of_seated (play : Play generation name capacity turns hosted) {u : Turn} (member : u ∈ turns)
    {c : ConnectionId} {team : Team} {p : Player} (seated : (u.game.side team).find? c = some p)
    {e : Entrant} {placement : Placement} (seats : u.Seats e placement) : e.connection ≠ c := by
  intro same
  obtain ⟨depth, answer, _⟩ := play.turn_answer member
  have handled := Game.answer_handles u.game depth u.queues u.request
  rw [← answer, seats.1, seats.2] at handled
  have absent := (play.turn_sound member).find?_of_absent handled.of_joined.1.absent team
  rw [same, seated] at absent
  cases absent

theorem seated_since (play : Play generation name capacity turns hosted) {c : ConnectionId} {team : Team}
    {p : Player} (seated : (hosted.game.side team).find? c = some p) : SeatedSince turns c team p := by
  induction play with
  | start => cases team <;> cases seated
  | @next turns past answer after queues' queues request play handled ih =>
    have step := HostedGame.handles_of_ask handled
    have whole := play.next queues request handled
    -- either the player was there before, with the join that the shorter play has, or this turn is the join
    rcases step.seated_origin play.sound seated with ⟨old, stays⟩ | ⟨e, placement, join, accepted, _, same, there, who⟩
    · obtain ⟨earlier, turn, later, e, placement, split, seats, same, there, who, since⟩ := ih old
      refine ⟨earlier, turn, later ++ [⟨past.game, queues, request, answer, queues'⟩], e, placement, ?_,
        seats, same, there, who, ?_⟩
      · rw [split, List.append_assoc, List.cons_append]
      · intro u member
        rcases List.mem_append.mp member with before | now
        · exact since u before
        · have inside : u ∈ turns ++ [⟨past.game, queues, request, answer, queues'⟩] :=
            List.mem_append_right _ now
          cases List.mem_singleton.mp now
          exact ⟨stays, old, fun e' placement' seats' => whole.not_seats_of_seated inside old seats'⟩
    · exact ⟨turns, _, [], e, placement, rfl, ⟨join, accepted⟩, same, there, who, by simp⟩

/-- An accepted join seats the player, and it stays there until its own leave. -/
theorem seated_of_seats (play : Play generation name capacity turns hosted) {earlier later : List Turn}
    {turn : Turn} {e : Entrant} {placement : Placement} (split : turns = earlier ++ turn :: later)
    (seats : turn.Seats e placement) (stays : ∀ u ∈ later, u.request ≠ .leave e.connection) :
    (hosted.game.side placement.team).find? e.connection =
      some { slot := placement.slot, nick := e.nick, session := e.session } := by
  induction play generalizing later with
  | start => simp at split
  | @next turns past answer after queues' queues request play handled ih =>
    have step := HostedGame.handles_of_ask handled
    rcases List.eq_nil_or_concat later with rfl | ⟨between, last, rfl⟩
    · -- the join is the last turn
      obtain ⟨_, new⟩ := List.append_inj' split rfl
      cases new
      obtain ⟨join, accepted⟩ := seats
      dsimp only at join accepted
      subst join
      rw [accepted] at step
      rw [step.of_joined.2, Game.entered, Game.find?_seat, if_pos ⟨rfl, rfl⟩]
    · -- the last turn comes after the join, and it is no leave of the player
      rw [List.concat_eq_append, ← List.cons_append, ← List.append_assoc] at split
      obtain ⟨same, new⟩ := List.append_inj' split rfl
      cases new
      simp only [List.concat_eq_append, List.mem_append, List.mem_singleton] at stays
      exact step.kept play.sound (ih same fun u before => stays u (Or.inl before)) (stays _ (Or.inr rfl))

/-- The rosters of a game at any time, as long as it holds fewer than `2 ^ 32` members: the look-up of teams
mirrors them, they share no connection, none outgrows the capacity, and slots are distinct and below the
number of places. A connection is in a team exactly since its last accepted join, with what that join gave
it, and the next message changes that only if it is its own leave. -/
theorem rosters_consistent (play : Play generation name capacity turns hosted)
    (few : ∀ turn ∈ turns, turn.game.size < 2 ^ 32) :
    hosted.game.capacity = capacity ∧ hosted.game.Consistent ∧
      (∀ c team p, (hosted.game.side team).find? c = some p ↔ SeatedSince turns c team p) ∧
      ∀ c team p x q, (hosted.game.side team).find? c = some p → q ≠ .leave c →
        ((hosted.ask x q).2.1.game.side team).find? c = some p := by
  refine ⟨play.capacity_eq, play.consistent few, ?_, ?_⟩
  · intro c team p
    constructor
    · exact play.seated_since
    · rintro ⟨earlier, turn, later, e, placement, split, seats, rfl, rfl, rfl, since⟩
      exact play.seated_of_seats split seats fun u member => (since u member).1
  · intro c team p x q seated stays
    cases running : hosted.running with
    | false => simpa only [HostedGame.ask, HostedGame.send, running, Bool.false_eq_true, if_false] using seated
    | true =>
      rw [HostedGame.ask_running running]
      exact (Game.answer_handles _ _ _ _).kept play.sound seated stays

/-- Two players come, the first one leaves, and a third one gets its place. -/
def succession : List (Exchange × GameRequest) :=
  [(.empty, .join ⟨⟨1⟩, "Ada", .random, ⟨⟨1⟩, 1⟩, none⟩), (.empty, .join ⟨⟨2⟩, "Bo", .random, ⟨⟨2⟩, 2⟩, none⟩),
    (.empty, .leave ⟨1⟩), (.empty, .join ⟨⟨3⟩, "Cy", .random, ⟨⟨3⟩, 3⟩, none⟩)]

theorem rosters_consistent_succession :
    (∀ turn ∈ ((HostedGame.start 0 "ring" 1).turns succession).1, turn.game.size < 2 ^ 32) ∧
      ((HostedGame.start 0 "ring" 1).turns succession).2.game.Consistent ∧
      SeatedSince ((HostedGame.start 0 "ring" 1).turns succession).1 ⟨3⟩ .first ⟨0, "Cy", ⟨⟨3⟩, 3⟩⟩ := by
  have few : ∀ turn ∈ ((HostedGame.start 0 "ring" 1).turns succession).1, turn.game.size < 2 ^ 32 := by decide
  obtain ⟨_, consistent, seated, _⟩ := rosters_consistent (Play.start.extend succession) few
  exact ⟨few, consistent, (seated _ _ _).mp (by decide)⟩

end Play

end Scrimmage
