import Scrimmage.Proofs.Service

namespace Scrimmage

inductive Passage
  | coming
  | going
  deriving DecidableEq, Repr

/-- Who passes by a request with this answer: who is let in by a join, and who is removed by a leave. -/
def GameRequest.passage? (q : GameRequest) (a : GameAnswer) : Option (ConnectionId × Passage) :=
  match q, a with
  | .join e, .joined (.ok _) => some (e.connection, .coming)
  | .leave c, .left departure => if departure.removed then some (c, .going) else none
  | _, _ => none

/-- Whether a request is a leave of the connection, and whether it has removed a player then. -/
def GameRequest.removal? (q : GameRequest) (a : GameAnswer) (c : ConnectionId) : Option Bool :=
  match q, a with
  | .leave d, .left departure => if d = c then some departure.removed else none
  | _, _ => none

theorem GameRequest.eq_leave_of_going {q : GameRequest} {a : GameAnswer} {c : ConnectionId}
    (goes : q.passage? a = some (c, .going)) : q = .leave c := by
  unfold passage? at goes
  split at goes
  · cases goes
  · split at goes
    · cases goes
      rfl
    · cases goes
  · cases goes

/-- What the leaves of a connection are answered from its coming on, and whether it is inside: the first one removes
it, and no other one does anything. -/
def FirstOnly (removals : List Bool) (inside : Prop) : Prop :=
  removals = [] ∧ inside ∨ (∃ more, removals = true :: List.replicate more false) ∧ ¬inside

namespace Game

theorem Handles.remaining_eq {g after : Game} {q : GameRequest} {departure : Departure}
    (handled : g.Handles q (.left departure) after) : departure.remaining = after.size := by
  cases handled <;> rfl

/-- What it means for the members of a game that someone passes, or no one. -/
inductive Passes (g : Game) : Option (ConnectionId × Passage) → Game → Prop
  | comes {c after} : c ∉ g.members → (∀ d, d ∈ after.members ↔ d = c ∨ d ∈ g.members) → after.size = g.size + 1 →
      Passes g (some (c, .coming)) after
  | goes {c after} : c ∈ g.members → (∀ d, d ∈ after.members ↔ d ≠ c ∧ d ∈ g.members) → after.size + 1 = g.size →
      Passes g (some (c, .going)) after
  | stays : Passes g none g

theorem Passes.mem_members_iff {g after : Game} {passage : Option (ConnectionId × Passage)}
    (passes : g.Passes passage after) {c : ConnectionId} (other : ∀ way, passage ≠ some (c, way)) :
    c ∈ after.members ↔ c ∈ g.members := by
  cases passes with
  | @comes d _ _ members _ =>
    have elsewhere : c ≠ d := fun same => other .coming (by rw [same])
    simp [members, elsewhere]
  | @goes d _ _ members _ =>
    have elsewhere : c ≠ d := fun same => other .going (by rw [same])
    simp [members, elsewhere]
  | stays => rfl

namespace Sound

variable {g : Game} (sound : g.Sound)

include sound

theorem mem_members_iff_cached {c : ConnectionId} : c ∈ g.members ↔ ∃ team, g.teamOf.find? c = some team := by
  simp only [mem_members_iff, sound.cached]

theorem mem_members_entered_iff {e : Entrant} {placement : Placement} (admits : g.Admits e placement)
    {d : ConnectionId} : d ∈ (g.entered e placement).members ↔ d = e.connection ∨ d ∈ g.members := by
  rw [(sound.entered admits).mem_members_iff_cached, sound.mem_members_iff_cached, Game.entered, teamOf_seat]
  simp only [Table.find?_insert]
  by_cases here : d = e.connection
  · simp [here]
  · simp [here]

theorem mem_members_unseat_iff {c : ConnectionId} {team : Team} (member : g.teamOf.find? c = some team)
    {d : ConnectionId} : d ∈ (g.unseat c team).members ↔ d ≠ c ∧ d ∈ g.members := by
  rw [(sound.unseat member).mem_members_iff_cached, sound.mem_members_iff_cached, teamOf_unseat]
  simp only [Table.find?_erase]
  by_cases here : d = c
  · simp [here]
  · simp [here]

theorem passes {q : GameRequest} {a : GameAnswer} {after : Game} (handled : g.Handles q a after) :
    g.Passes (q.passage? a) after := by
  cases handled with
  | @joined e placement admits =>
    refine .comes ?_ (fun d => sound.mem_members_entered_iff admits) (sound.size_entered admits)
    simp [sound.mem_members_iff_cached, admits.absent]
  | @left c team member =>
    -- the look-up mirrors the rosters, so that the player is found in the team and removed
    have removed : (g.side team).contains c = true := Table.contains_iff.mpr ((sound.cached c team).mp member)
    simp only [GameRequest.passage?, removed, if_true]
    exact .goes (sound.mem_members_iff_cached.mpr ⟨team, member⟩) (fun d => sound.mem_members_unseat_iff member)
      (sound.size_unseat member)
  | _ => exact .stays

theorem not_mem_of_left {c : ConnectionId} {a : GameAnswer} {after : Game} (handled : g.Handles (.leave c) a after) :
    c ∉ after.members := by
  cases handled with
  | left member => simp [sound.mem_members_unseat_iff member]
  | stranger stranger => simp [sound.mem_members_iff_cached, stranger]

/-- A leave is answered with the number of those who are left, and removes who was a member. -/
theorem left_spec {c : ConnectionId} {a : GameAnswer} {after : Game} (handled : g.Handles (.leave c) a after) :
    ∃ departure, a = .left departure ∧ departure.remaining = after.size ∧
      (departure.removed = true ↔ c ∈ g.members) := by
  cases handled with
  | @left _ team member =>
    refine ⟨_, rfl, rfl, ?_⟩
    simp only [Table.contains_iff, sound.mem_members_iff_cached, ← sound.cached c team, member, Option.some.injEq,
      exists_eq']
  | stranger stranger => exact ⟨_, rfl, rfl, by simp [sound.mem_members_iff_cached, stranger]⟩

theorem firstOnly {q : GameRequest} {a : GameAnswer} {after : Game} (handled : g.Handles q a after) {c : ConnectionId}
    (stays : q.passage? a ≠ some (c, .coming)) {removals : List Bool} (before : FirstOnly removals (c ∈ g.members)) :
    FirstOnly (removals ++ (q.removal? a c).toList) (c ∈ after.members) := by
  by_cases own : q = .leave c
  · subst own
    obtain ⟨departure, rfl, _, removed⟩ := sound.left_spec handled
    have outside : c ∉ after.members := sound.not_mem_of_left handled
    simp only [GameRequest.removal?, if_true, Option.toList_some]
    rcases before with ⟨rfl, inside⟩ | ⟨⟨more, rfl⟩, before⟩
    · exact Or.inr ⟨⟨0, by simp [removed.mpr inside]⟩, outside⟩
    · have kept : departure.removed = false := Bool.eq_false_of_not_eq_true fun yes => before (removed.mp yes)
      exact Or.inr ⟨⟨more + 1, by rw [kept, List.cons_append, ← List.replicate_succ']⟩, outside⟩
  · -- any other message is no leave of the connection, and neither lets it in nor takes it out
    have none : q.removal? a c = none := by
      unfold GameRequest.removal?
      split
      · rename_i d departure
        exact if_neg fun same => own (congrArg GameRequest.leave same)
      · rfl
    have members := (sound.passes handled).mem_members_iff (c := c) fun way passes => by
      cases way with
      | coming => exact stays passes
      | going => exact own (GameRequest.eq_leave_of_going passes)
    rwa [none, Option.toList_none, List.append_nil, members]

end Sound

end Game

/-- Those who have come and gone, in order. -/
def passages (turns : List Turn) : List (ConnectionId × Passage) :=
  turns.filterMap fun turn => turn.request.passage? turn.answer

/-- The comings and goings of one connection. -/
def passagesOf (turns : List Turn) (c : ConnectionId) : List Passage :=
  ((passages turns).filter (·.1 = c)).map (·.2)

def arrivals (turns : List Turn) : Nat := (passages turns).countP (·.2 = .coming)

def departures (turns : List Turn) : Nat := (passages turns).countP (·.2 = .going)

/-- Who comes and goes does so by turns, beginning with a coming. An accepted join brings a stranger in, and a
leave that removes someone takes a member out. -/
structure Alternates (passages : List Passage) : Prop where
  begins : ∀ passage ∈ passages.head?, passage = .coming
  strict : passages.IsChain (· ≠ ·)

theorem Alternates.snoc {passages : List Passage} (alternates : Alternates passages) {passage : Passage}
    (other : (passages.getLast? = some .coming) ↔ passage = .going) : Alternates (passages ++ [passage]) where
  begins first member := by
    cases passages with
    | nil =>
      cases passage with
      | coming => simpa using member.symm
      | going => simp at other
    | cons p rest => exact alternates.begins first member
  strict := by
    rw [List.isChain_append]
    refine ⟨alternates.strict, List.isChain_singleton _, ?_⟩
    rintro last member next ⟨⟩ rfl
    rw [Option.mem_def.mp member, Option.some.injEq] at other
    cases last <;> simp at other

theorem filterMap_snoc {α β : Type} (f : α → Option β) (items : List α) (item : α) :
    (items ++ [item]).filterMap f = items.filterMap f ++ (f item).toList := by
  rw [List.filterMap_append, List.filterMap_cons, List.filterMap_nil]
  cases f item <;> rfl

section

variable {turns : List Turn} {turn : Turn}

theorem passages_snoc (turns : List Turn) (turn : Turn) :
    passages (turns ++ [turn]) = passages turns ++ (turn.request.passage? turn.answer).toList :=
  filterMap_snoc _ turns turn

theorem passagesOf_snoc_self {c : ConnectionId} {passage : Passage}
    (passes : turn.request.passage? turn.answer = some (c, passage)) :
    passagesOf (turns ++ [turn]) c = passagesOf turns c ++ [passage] := by
  simp [passagesOf, passages_snoc, passes]

theorem passagesOf_snoc_other {c : ConnectionId}
    (other : ∀ passage, turn.request.passage? turn.answer ≠ some (c, passage)) :
    passagesOf (turns ++ [turn]) c = passagesOf turns c := by
  rw [passagesOf, passages_snoc]
  cases passes : turn.request.passage? turn.answer with
  | none => simp [passagesOf]
  | some who =>
    have elsewhere : who.1 ≠ c := fun same => other who.2 (by rw [passes, ← same])
    simp [passagesOf, elsewhere]

variable (turn)

/-- The size of a game is accounted for after a turn if it was before. -/
theorem Game.Passes.accounted {g after : Game} (passes : g.Passes (turn.request.passage? turn.answer) after)
    (before : g.size + departures turns = arrivals turns) :
    after.size + departures (turns ++ [turn]) = arrivals (turns ++ [turn]) := by
  simp only [departures, arrivals, passages_snoc, List.countP_append] at before ⊢
  generalize turn.request.passage? turn.answer = passage at passes ⊢
  cases passes with
  | comes _ _ size => simp; omega
  | goes _ _ size => simp; omega
  | stays => simpa using before

/-- A connection is inside after a turn if and only if the last thing that it has done is to come. -/
theorem Game.Passes.last {g after : Game} (passes : g.Passes (turn.request.passage? turn.answer) after)
    {c : ConnectionId} (before : c ∈ g.members ↔ (passagesOf turns c).getLast? = some .coming)
    (alternates : Alternates (passagesOf turns c)) :
    (c ∈ after.members ↔ (passagesOf (turns ++ [turn]) c).getLast? = some .coming) ∧
      Alternates (passagesOf (turns ++ [turn]) c) := by
  by_cases own : ∃ passage, turn.request.passage? turn.answer = some (c, passage)
  · obtain ⟨passage, own⟩ := own
    rw [passagesOf_snoc_self own]
    rw [own] at passes
    cases passes with
    | comes outside members _ => exact ⟨by simp [members], alternates.snoc (by simp [← before, outside])⟩
    | goes inside members _ => exact ⟨by simp [members], alternates.snoc (by simp [← before, inside])⟩
  · have other : ∀ passage, turn.request.passage? turn.answer ≠ some (c, passage) := fun p same => own ⟨p, same⟩
    rw [passagesOf_snoc_other other, passes.mem_members_iff other]
    exact ⟨before, alternates⟩

end

namespace Play

variable {generation capacity : Nat} {name : String} {turns : List Turn} {hosted : HostedGame}

theorem accounted (play : Play generation name capacity turns hosted) :
    hosted.game.size + departures turns = arrivals turns := by
  induction play with
  | start => rfl
  | @next turns past answer after queues' queues request play handled ih =>
    have passes := play.sound.passes (HostedGame.handles_of_ask handled)
    exact passes.accounted ⟨past.game, queues, request, answer, queues'⟩ ih

theorem last (play : Play generation name capacity turns hosted) (c : ConnectionId) :
    (c ∈ hosted.game.members ↔ (passagesOf turns c).getLast? = some .coming) ∧ Alternates (passagesOf turns c) := by
  induction play with
  | start => exact ⟨by simp [HostedGame.start, Game.create, Game.members, passagesOf, passages], nofun, .nil⟩
  | @next turns past answer after queues' queues request play handled ih =>
    have passes := play.sound.passes (HostedGame.handles_of_ask handled)
    exact passes.last ⟨past.game, queues, request, answer, queues'⟩ ih.1 ih.2

/-- From the coming of a connection to its next one: the first leave that is sent for it removes it, and no other. -/
theorem firstOnly (play : Play generation name capacity turns hosted) {c : ConnectionId} {earlier later : List Turn}
    {turn : Turn} (split : turns = earlier ++ turn :: later)
    (comes : turn.request.passage? turn.answer = some (c, .coming))
    (since : ∀ u ∈ later, u.request.passage? u.answer ≠ some (c, .coming)) :
    FirstOnly (later.filterMap fun u => u.request.removal? u.answer c) (c ∈ hosted.game.members) := by
  induction play generalizing later with
  | start => simp at split
  | @next turns past answer after queues' queues request play handled ih =>
    have step := HostedGame.handles_of_ask handled
    rcases List.eq_nil_or_concat later with rfl | ⟨between, last, rfl⟩
    · -- the coming is the last turn
      obtain ⟨_, new⟩ := List.append_inj' split rfl
      cases new
      have passes := play.sound.passes step
      dsimp only at comes
      rw [comes] at passes
      cases passes with
      | comes _ members _ => exact Or.inl ⟨rfl, (members c).mpr (Or.inl rfl)⟩
    · rw [List.concat_eq_append, ← List.cons_append, ← List.append_assoc] at split
      obtain ⟨same, new⟩ := List.append_inj' split rfl
      cases new
      simp only [List.concat_eq_append, List.mem_append, List.mem_singleton] at since
      have before := ih same fun u member => since u (Or.inl member)
      have after := play.sound.firstOnly step (since _ (Or.inr rfl)) before
      rw [List.concat_eq_append, filterMap_snoc]
      exact after

/-- What comes of the comings and goings of a game from its start on, and what it reports of them: whoever asks
is told as many players as have come more than have gone. -/
structure CountsOnce (turns : List Turn) (hosted : HostedGame) : Prop where
  alternate : ∀ c, Alternates (passagesOf turns c)
  firstOnly : ∀ c earlier turn later, turns = earlier ++ turn :: later →
    turn.request.passage? turn.answer = some (c, .coming) →
    (∀ u ∈ later, u.request.passage? u.answer ≠ some (c, .coming)) →
      FirstOnly (later.filterMap fun u => u.request.removal? u.answer c) (c ∈ hosted.game.members)
  member_iff : ∀ c, c ∈ hosted.game.members ↔ (passagesOf turns c).getLast? = some .coming
  counted : ∀ x, ∃ players, (hosted.ask x .count).1 = .ok (.count players) ∧
    players + departures turns = arrivals turns
  reported : ∀ x, ∃ roster depth, (hosted.ask x .roster).1 = .ok (.roster roster depth) ∧
    roster.firstSize + roster.secondSize + departures turns = arrivals turns
  /-- A leave is told how many are left when it is done. -/
  remaining : ∀ earlier turn later departure, turns = earlier ++ turn :: later → turn.answer = .left departure →
    departure.remaining + departures (earlier ++ [turn]) = arrivals (earlier ++ [turn])

/-- Whatever messages a game gets: every connection comes and goes by turns, and is a member if and only if it has come
last. Whoever asks is told that there are as many players as have come more than have gone. -/
theorem counts_once (play : Play generation name capacity turns hosted) : CountsOnce turns hosted where
  alternate c := (play.last c).2
  firstOnly c _ _ _ split comes since := play.firstOnly split comes since
  member_iff c := (play.last c).1
  counted x := by
    rw [HostedGame.ask_running play.running]
    exact ⟨hosted.game.size, rfl, play.accounted⟩
  reported x := by
    rw [HostedGame.ask_running play.running]
    exact ⟨hosted.game.roster, _, rfl, play.accounted⟩
  remaining earlier turn later departure split left := by
    obtain ⟨past, before, same⟩ := play.before_turn split
    obtain ⟨depth, answer, _⟩ := play.turn_answer (split ▸ List.mem_append_right _ List.mem_cons_self)
    have sound := before.sound
    have accounted := before.accounted
    rw [same] at sound accounted
    have step := Game.answer_handles turn.game depth turn.queues turn.request
    rw [← answer] at step
    have now := (sound.passes step).accounted turn accounted
    rw [left] at step
    rwa [step.remaining_eq]

/-- A player comes, leaves twice, and comes again; someone leaves who was never there. -/
def revolving : List (Exchange × GameRequest) :=
  [(.empty, .join ⟨⟨1⟩, "Ada", .random, ⟨⟨1⟩, 1⟩, none⟩), (.empty, .leave ⟨2⟩), (.empty, .leave ⟨1⟩),
    (.empty, .leave ⟨1⟩), (.empty, .join ⟨⟨1⟩, "Ada", .second, ⟨⟨1⟩, 1⟩, none⟩)]

theorem counts_once_revolving :
    passagesOf ((HostedGame.start 0 "ring" 1).turns revolving).1 ⟨1⟩ = [.coming, .going, .coming] ∧
      CountsOnce ((HostedGame.start 0 "ring" 1).turns revolving).1
        ((HostedGame.start 0 "ring" 1).turns revolving).2 :=
  ⟨by decide, (Play.start.extend revolving).counts_once⟩

end Play

end Scrimmage
