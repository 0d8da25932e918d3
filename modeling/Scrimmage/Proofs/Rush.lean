import Scrimmage.Proofs.Applications
import Scrimmage.Proofs.Headcount

namespace Scrimmage

/-- The teams by turns, the first one first. -/
def Team.nth (k : Nat) : Team := if k % 2 = 0 then .first else .second

/-- What the `k`-th one of a crowd is answered, counted from zero: the place that it gets, or that there is none. -/
def seatOf (capacity : Nat) (name : String) (k : Nat) : Except Failure (UInt32 × Team) :=
  if k < 2 * capacity then .ok (.ofNat k, .nth k) else .error (.gameFull name)

/-- Whoever comes too late is answered as the first one who does. -/
theorem seatOf_min (capacity : Nat) (name : String) (k : Nat) :
    seatOf capacity name (min (2 * capacity) k) = seatOf capacity name k := by
  by_cases room : k < 2 * capacity
  · rw [min_eq_right room.le]
  · rw [min_eq_left (Nat.not_lt.mp room), seatOf, seatOf, if_neg (lt_irrefl _), if_neg room]

namespace Game

/-- A game in which each one of a crowd has got the place that was next: the `k`-th one has slot `k`, in the
first team if `k` is even and in the second one if it is odd, and nobody else is in it. -/
structure Filled (g : Game) (crowd : List Application) : Prop where
  sound : g.Sound
  /-- An odd one out is in the first team. -/
  first : g.first.size = (crowd.length + 1) / 2
  second : g.second.size = crowd.length / 2
  placed : ∀ k a, crowd[k]? = some a →
    ∃ session, (g.side (.nth k)).find? a.connection = some { slot := .ofNat k, nick := a.nick, session }
  known : ∀ c ∈ g.members, ∃ a ∈ crowd, a.connection = c

theorem create_filled (name : String) (capacity : Nat) : (create name capacity).Filled [] where
  sound := create_sound name capacity
  first := rfl
  second := rfl
  placed k a member := by cases member
  known c member := by cases member

namespace Filled

variable {g : Game} {crowd : List Application} (filled : g.Filled crowd)

include filled

theorem size_eq : g.size = crowd.length := by
  rw [size, filled.first, filled.second]
  omega

theorem resolve_random : g.resolve .random = .nth crowd.length := by
  rw [resolve, filled.first, filled.second, Team.nth]
  by_cases even : crowd.length % 2 = 0
  · rw [if_pos even, if_neg (by omega)]
  · rw [if_neg even, if_pos (by omega)]

theorem size_side_nth : (g.side (.nth crowd.length)).size = crowd.length / 2 := by
  rw [Team.nth]
  split
  · exact filled.first.trans (by omega)
  · exact filled.second

/-- The slots of the crowd are those below its number, so that its number is the least one that is free. -/
theorem freeSlot_eq (few : crowd.length < 2 ^ 32) : g.freeSlot = .ofNat crowd.length := by
  have few : g.size < UInt32.size := filled.size_eq ▸ few
  have least := freeSlot_le few
  -- a lesser slot is that of someone in the crowd
  by_contra other
  have below : g.freeSlot.toNat < crowd.length := by
    refine lt_of_le_of_ne (filled.size_eq ▸ least) fun same => other ?_
    rw [← same, UInt32.ofNat_toNat]
  obtain ⟨session, seated⟩ := filled.placed _ _ (List.getElem?_eq_getElem below)
  exact freeSlot_ne few seated UInt32.ofNat_toNat

theorem place_eq {e : Entrant} (random : e.team = .random) (stranger : ∀ a ∈ crowd, a.connection ≠ e.connection)
    (few : crowd.length < 2 ^ 32) :
    (g.place e).map (fun outcome => (outcome.1.slot, outcome.1.team)) = seatOf g.capacity g.name crowd.length := by
  cases placed : g.place e with
  | error failure =>
    rcases place_eq_error placed with ⟨_, team, member⟩ | ⟨rfl, _, full⟩
    · obtain ⟨a, inside, same⟩ := filled.known _ (filled.sound.mem_members_iff_cached.mpr ⟨team, member⟩)
      exact absurd same (stranger a inside)
    · rw [random, filled.resolve_random, filled.size_side_nth] at full
      rw [seatOf, if_neg (by omega)]
      rfl
  | ok outcome =>
    obtain ⟨placement, after⟩ := outcome
    obtain ⟨admits, _⟩ := place_eq_ok placed
    have team := admits.team
    rw [random, filled.resolve_random] at team
    have room := admits.room
    rw [team, filled.size_side_nth] at room
    rw [seatOf, if_pos (by omega), ← filled.freeSlot_eq few, ← admits.slot, ← team]
    rfl

theorem entered {a : Application} {session : SessionRef} {placement : Placement}
    (admits : g.Admits (a.entrant session) placement) (random : a.team = .random) (few : crowd.length < 2 ^ 32) :
    (g.entered (a.entrant session) placement).Filled (crowd ++ [a]) := by
  have team : placement.team = .nth crowd.length := by
    rw [admits.team, ← filled.resolve_random, ← random]
    rfl
  have slot := admits.slot.trans (filled.freeSlot_eq few)
  have seats := Game.find?_entered_iff filled.sound admits
  have first := filled.sound.size_side_entered admits .first
  have second := filled.sound.size_side_entered admits .second
  simp only [side, team, Team.nth] at first second
  exact {
    sound := filled.sound.entered admits
    first := by
      rw [first, filled.first, List.length_append, List.length_singleton]
      split <;> simp <;> omega
    second := by
      rw [second, filled.second, List.length_append, List.length_singleton]
      split <;> simp <;> omega
    placed := by
      intro k b member
      rcases Nat.lt_or_ge k crowd.length with before | last
      · rw [List.getElem?_append_left before] at member
        obtain ⟨session', seated⟩ := filled.placed k b member
        refine ⟨session', (seats ..).mpr (Or.inr ⟨fun same => ?_, seated⟩)⟩
        cases seated.symm.trans (filled.sound.find?_of_absent (same ▸ admits.absent) _)
      · rw [List.getElem?_append_right last, List.getElem?_singleton] at member
        split at member
        · rename_i here
          cases member
          have here : k = crowd.length := by omega
          exact ⟨session, (seats ..).mpr (Or.inl ⟨rfl, here ▸ team.symm, by rw [here, ← slot]; rfl⟩)⟩
        · cases member
    known := by
      intro c member
      rcases (filled.sound.mem_members_entered_iff admits).mp member with rfl | before
      · exact ⟨a, List.mem_append_right _ (List.mem_singleton_self a), rfl⟩
      · obtain ⟨b, inside, same⟩ := filled.known c before
        exact ⟨b, List.mem_append_left _ inside, same⟩ }

end Filled

end Game

/-- The application for a place in the game of a name that an act is, if it is one. -/
def Act.application? (name : String) : Act → Option Application
  | .request (.join a) => if a.game = name then some a else none
  | _ => none

/-- What may happen beside the applications of a crowd: nobody of the crowd leaves or applies elsewhere, nobody else
applies to the game, the game is not stopped, and the registry is not told to stop. -/
def Act.Beside (name : String) (crowd : List ConnectionId) : Act → Prop
  | .request (.join a) => a.game ≠ name ∧ a.connection ∉ crowd
  | .request (.unregister c) => c ∉ crowd
  | .request (.shutdown _) => False
  | .message _ _ q => q.Open
  | .halt other => other ≠ name
  | _ => True

theorem Act.Beside.isOpen {name : String} {crowd : List ConnectionId} {act : Act} (beside : act.Beside name crowd) :
    act.Open := by
  cases act with
  | message c n q => exact beside
  | _ => trivial

namespace Registry

/-- What concerns a crowd that applies to a game is as it was: its members, the game of the name, and what the
registry is up to, but for the number of sessions. -/
structure Untouched (r after : Registry) (name : String) (crowd : List ConnectionId) : Prop where
  member : ∀ c ∈ crowd, after.members.find? c = r.members.find? c
  fixture : after.fixture? name = r.fixture? name
  standing : ∃ sessions, after.standing = { r.standing with sessions }

theorem Undergoes.untouched {r after : Registry} {change : Change} (undergoes : r.Undergoes change after)
    {name : String} {crowd : List ConnectionId}
    (member : ∀ c ∈ crowd, change.member c (r.members.find? c) = r.members.find? c)
    (fixture : change.fixture name (r.fixture? name) = r.fixture? name)
    (standing : ∃ sessions, change.standing r.standing = { r.standing with sessions }) :
    r.Untouched after name crowd where
  member c inside := (undergoes.member c).trans (member c inside)
  fixture := (undergoes.fixture name).trans fixture
  standing := undergoes.standing ▸ standing

theorem Undergoes.untouched_still {r after : Registry} {outbox : SessionRef → Outbox → Outbox}
    (undergoes : r.Undergoes { outbox } after) (name : String) (crowd : List ConnectionId) :
    r.Untouched after name crowd :=
  undergoes.untouched (fun _ _ => rfl) rfl ⟨_, rfl⟩

/-- A game that was there before and still is, or was not and is not, is the same one. -/
theorem Undergoes.gameRef?_eq {r after : Registry} {change : Change} (undergoes : r.Undergoes change after)
    {name : String} (same : (after.fixture? name).isSome = (r.fixture? name).isSome) :
    after.gameRef? name = r.gameRef? name := by
  rw [undergoes.ref]
  cases found : r.games.find? name with
  | none =>
    rw [fixture?_eq_none_iff.mpr found, Option.isSome_none, Option.isSome_eq_false_iff,
      Option.isNone_iff_eq_none] at same
    rw [same, gameRef?_eq_none found, Option.map_none]
  | some k =>
    rw [fixture?_of_find? found, Option.isSome_some, Option.isSome_iff_exists] at same
    obtain ⟨f, there⟩ := same
    rw [there, gameRef?, found]
    rfl

theorem gameFor?_congr {r after : Registry} {name : String} (fixture : after.fixture? name = r.fixture? name)
    (capacity : after.capacity = r.capacity) : after.gameFor? name = r.gameFor? name := by
  rw [gameFor?, gameFor?, fixture, capacity]

theorem gameFor?_found {r : Registry} {name : String} {g : Game} {f : Fixture} (found : r.gameFor? name = some g)
    (there : r.fixture? name = some f) : f.running = true ∧ f.game = g := by
  simp only [gameFor?, there] at found
  split at found
  · rename_i running
    exact ⟨running, Option.some.inj found⟩
  · cases found

theorem gameOf_of_gameFor? {r : Registry} {name : String} {g : Game} (found : r.gameFor? name = some g) :
    r.gameOf name = g := by
  cases there : r.games.find? name with
  | none =>
    rw [gameFor?_absent there] at found
    exact (gameOf_absent there).trans (Option.some.inj found)
  | some h =>
    rw [gameOf_found there]
    cases running : h.running with
    | true => exact Option.some.inj ((gameFor?_hosts ⟨there, running⟩).symm.trans found)
    | false => cases (gameFor?_stopped there running).symm.trans found

end Registry

namespace Hall

theorem Reachable.capacity_eq {capacity : Nat} {h : Hall} (reachable : Reachable capacity h) :
    h.registry.capacity = capacity := by
  induction reachable with
  | start => rfl
  | @perform h act _ _ ih => exact (h.perform_undergoes act).capacity.trans ih

theorem Reachable.going {capacity : Nat} {h : Hall} (reachable : Reachable capacity h)
    (accepting : h.registry.accepting = true) : h.registry.running = true ∧ h.registry.cancelled = false := by
  induction reachable with
  | start => exact ⟨rfl, rfl⟩
  | @perform h act _ _ ih =>
    obtain ⟨_, standing⟩ := standing_of_perform accepting
    obtain ⟨running, going⟩ := ih (accepting_of_perform accepting).1
    exact ⟨(congrArg Standing.running standing).trans running, (congrArg Standing.cancelled standing).trans going⟩

theorem untouched_perform {h : Hall} {name : String} {crowd : List ConnectionId} {act : Act}
    (beside : act.Beside name crowd) (kept : h.Kept) (going : h.registry.cancelled = false)
    (known : ∀ c ∈ crowd, ∃ m, h.registry.members.find? c = some m)
    (own : ∀ f, h.registry.fixture? name = some f → f.running = true ∧ ∀ c ∈ f.game.members, c ∈ crowd) :
    h.registry.Untouched (h.perform act).2.registry name crowd := by
  have undergoes := h.perform_undergoes act
  cases act with
  | request q =>
    simp only [change] at undergoes
    split at undergoes
    · cases q with
      | register d session =>
        refine undergoes.untouched (fun c inside => ?_) rfl ⟨_, rfl⟩
        obtain ⟨m, there⟩ := known c inside
        simp [Registry.requestChange, Change.register, there]
      | unregister d =>
        refine undergoes.untouched (fun c inside => ?_) ?_ ⟨_, rfl⟩
        · exact if_neg fun same : c = d => beside (same ▸ inside)
        · simp only [Registry.requestChange, Change.unregister]
          split
          · cases there : h.registry.fixture? name with
            | none => rfl
            | some f =>
              -- a connection may be recorded under the name without being in the game, and changes nothing by leaving
              exact without_stranger (kept.holds name f there) fun _ player => beside ((own f there).2 d player)
          · rfl
      | join a =>
        simp only [Registry.requestChange] at undergoes
        split at undergoes
        · exact undergoes.untouched_still name crowd
        · exact undergoes.untouched (fun c inside => if_neg fun same : c = a.connection => beside.2 (same ▸ inside))
            (if_neg fun same => beside.1 same.symm) ⟨_, rfl⟩
      | shutdown => exact beside.elim
      | _ => exact undergoes.untouched_still name crowd
    · exact undergoes.untouched_still name crowd
  | message c n q =>
    rw [perform]
    split
    · exact (Registry.Undergoes.same _).untouched_still name crowd
    · obtain ⟨outbox, still⟩ := h.registry.askGame_still _ beside
      exact still.untouched_still name crowd
  | halt other => exact undergoes.untouched (fun _ _ => rfl) (if_neg fun same => beside same.symm) ⟨_, rfl⟩
  | check =>
    have goesOn : h.registry.hasStopped name = false := by
      rw [Registry.hasStopped]
      cases there : h.registry.fixture? name with
      | none => rfl
      | some f => simp [(own f there).1]
    exact undergoes.untouched (fun _ _ => rfl) (by simp [change, Change.reap, goesOn]) ⟨_, rfl⟩
  | wind =>
    simp only [change, going, Bool.false_and, Bool.false_eq_true, if_false] at undergoes
    exact undergoes.untouched_still name crowd
  | _ => exact undergoes.untouched (fun _ _ => rfl) rfl ⟨_, rfl⟩

end Hall

/-- What a step answers to an application for a place in the game of a name. -/
def Step.answer? (name : String) (step : Step) : Option (Application × Except Failure (UInt32 × Team)) :=
  match step.act.application? name, step.reply with
  | some a, .registry (.ok (.joined outcome)) =>
    some (a, outcome.map fun admission => (admission.placement.slot, admission.placement.team))
  | _, _ => none

/-- The game of a name that a step begins: one that is there afterwards, and was not before. -/
def Step.begun? (name : String) (step : Step) : Option GameRef :=
  if step.after.registry.gameRef? name = step.before.registry.gameRef? name then none
  else step.after.registry.gameRef? name

namespace Hall

section

variable {ι : Type}

/-- The applications for places in the game of a name, in the order in which they are heard. -/
def applications (name : String) (acts : List (ι × Act)) : List Application :=
  acts.filterMap fun act => act.2.application? name

def answers (name : String) (steps : List (ι × Step)) : List (Application × Except Failure (UInt32 × Team)) :=
  steps.filterMap fun step => step.2.answer? name

def begun (name : String) (steps : List (ι × Step)) : List GameRef := steps.filterMap fun step => step.2.begun? name

/-- A crowd comes to be heard, after some who have been heard before, and nothing else is done that concerns it.
All of them are different, and there is a slot for every one. -/
structure Presses (name : String) (crowd : List ConnectionId) (heard : List Application) (acts : List (ι × Act)) :
    Prop where
  random : ∀ a ∈ applications name acts, a.team = .random
  member : ∀ a ∈ applications name acts, a.connection ∈ crowd
  distinct : ((heard ++ applications name acts).map (·.connection)).Nodup
  few : (heard ++ applications name acts).length < 2 ^ 32
  beside : ∀ act ∈ acts, act.2.application? name = none → act.2.Beside name crowd

end

/-- A registry in which the first ones of a crowd have been heard. They have got the places of the game in turn,
and who has got no place is in no game. -/
structure Filling (h : Hall) (capacity : Nat) (name : String) (crowd : List ConnectionId) (heard : List Application) :
    Prop where
  reachable : Reachable capacity h
  accepting : h.registry.accepting = true
  game : ∃ g, h.registry.gameFor? name = some g ∧ g.Filled (heard.take (2 * capacity))
  empty_iff : h.registry.fixture? name = none ↔ heard = []
  member : ∀ a ∈ heard, a.connection ∈ crowd
  waiting : ∀ c ∈ crowd, (∀ a ∈ heard.take (2 * capacity), a.connection ≠ c) →
    ∃ m, h.registry.members.find? c = some m ∧ m.game = none

namespace Filling

variable {h : Hall} {capacity : Nat} {name : String} {crowd : List ConnectionId} {heard : List Application}
  (filling : h.Filling capacity name crowd heard)

include filling

theorem kept : h.Kept := filling.reachable.traced.kept

theorem seated {k : Nat} {a : Application} (member : heard[k]? = some a) (early : k < 2 * capacity) :
    (∃ session, h.registry.Seats name (.nth k) a.connection { slot := .ofNat k, nick := a.nick, session }) ∧
      h.registry.recorded? a.connection = some name := by
  obtain ⟨g, found, filled⟩ := filling.game
  obtain ⟨session, seated⟩ := filled.placed k a (by rw [List.getElem?_take_of_lt early, member])
  have player := Game.mem_members_of_find? seated
  obtain ⟨f, there, running, rfl⟩ := Registry.fixture_of_gameFor? found player
  exact ⟨⟨session, Registry.seats_iff_fixture.mpr ⟨f, there, seated⟩⟩,
    filling.kept.recorded_of_player there running player⟩

theorem known {c : ConnectionId} (member : c ∈ crowd) : ∃ m, h.registry.members.find? c = some m := by
  by_cases late : ∀ a ∈ heard.take (2 * capacity), a.connection ≠ c
  · obtain ⟨m, known, _⟩ := filling.waiting c member late
    exact ⟨m, known⟩
  · push Not at late
    obtain ⟨a, early, rfl⟩ := late
    obtain ⟨k, before, rfl⟩ := List.mem_iff_getElem.mp early
    rw [List.length_take] at before
    have heard : heard[k]? = some (heard.take (2 * capacity))[k] := by
      rw [List.getElem_take, List.getElem?_eq_getElem]
    obtain ⟨m, known, _⟩ := Registry.recorded?_eq_some_iff.mp (filling.seated heard (by omega)).2
    exact ⟨m, known⟩

theorem beside {act : Act} (beside : act.Beside name crowd) :
    (h.perform act).2.Filling capacity name crowd heard := by
  obtain ⟨g, found, filled⟩ := filling.game
  have undergoes := h.perform_undergoes act
  obtain ⟨_, going⟩ := filling.reachable.going filling.accepting
  have untouched := untouched_perform beside filling.kept going (fun _ => filling.known) fun f there => by
    obtain ⟨running, rfl⟩ := Registry.gameFor?_found found there
    refine ⟨running, fun c player => ?_⟩
    obtain ⟨a, early, rfl⟩ := filled.known c player
    exact filling.member a (List.mem_of_mem_take early)
  obtain ⟨_, standing⟩ := untouched.standing
  exact {
    reachable := filling.reachable.perform beside.isOpen
    accepting := (congrArg Standing.accepting standing).trans filling.accepting
    game := ⟨g, (Registry.gameFor?_congr untouched.fixture undergoes.capacity).trans found, filled⟩
    empty_iff := untouched.fixture ▸ filling.empty_iff
    member := filling.member
    waiting := fun c inside late => by
      rw [untouched.member c inside]
      exact filling.waiting c inside late }

theorem member_append {a : Application} (inside : a.connection ∈ crowd) :
    ∀ b ∈ heard ++ [a], b.connection ∈ crowd := by
  intro b either
  rcases List.mem_append.mp either with before | now
  · exact filling.member b before
  · exact List.mem_singleton.mp now ▸ inside

theorem refused {after : Hall} (reachable : Reachable capacity after)
    (undergoes : h.registry.Undergoes {} after.registry) {a : Application} (inside : a.connection ∈ crowd)
    (positive : 1 ≤ capacity) (full : 2 * capacity ≤ heard.length) :
    after.Filling capacity name crowd (heard ++ [a]) := by
  obtain ⟨g, found, filled⟩ := filling.game
  have same : (heard ++ [a]).take (2 * capacity) = heard.take (2 * capacity) := List.take_append_of_le_length full
  have before : heard ≠ [] := List.ne_nil_of_length_pos (by omega)
  exact {
    reachable
    accepting := (congrArg Standing.accepting undergoes.standing).trans filling.accepting
    game := ⟨g, (Registry.gameFor?_congr (undergoes.fixture name) undergoes.capacity).trans found, same ▸ filled⟩
    empty_iff := iff_of_false (fun gone => before (filling.empty_iff.mp ((undergoes.fixture name).symm.trans gone)))
      (List.append_ne_nil_of_right_ne_nil _ (List.cons_ne_nil a []))
    member := filling.member_append inside
    waiting := fun c other late => by
      rw [undergoes.member]
      exact filling.waiting c other (same ▸ late) }

/-- Whoever is let in is the next one in the game, and nobody else is any less outside. -/
theorem admitted {after : Hall} (reachable : Reachable capacity after) {a : Application} (own : a.game = name)
    (random : a.team = .random) (inside : a.connection ∈ crowd) (few : heard.length < 2 ^ 32) {session : SessionRef}
    {placement : Placement} {game : Game} (verdict : h.registry.verdict a = .ok (session, placement, game))
    (undergoes : h.registry.Undergoes (.seat a session placement game) after.registry)
    (room : heard.length < 2 * capacity) : after.Filling capacity name crowd (heard ++ [a]) := by
  obtain ⟨g, found, filled⟩ := filling.game
  obtain ⟨m, g', _, _, _, found', admits, rfl⟩ := Registry.verdict_eq_ok verdict
  rw [own, found] at found'
  cases found'
  have before : heard.take (2 * capacity) = heard := List.take_of_length_le room.le
  have now : (heard ++ [a]).take (2 * capacity) = heard ++ [a] :=
    List.take_of_length_le (by rw [List.length_append, List.length_singleton]; omega)
  rw [before] at filled
  have fixture := undergoes.fixture name
  simp only [Change.seat, own, if_true] at fixture
  exact {
    reachable
    accepting := (congrArg Standing.accepting undergoes.standing).trans filling.accepting
    game := by
      refine ⟨g.entered (a.entrant session) placement, ?_, ?_⟩
      · rw [Registry.gameFor?, fixture]
        rfl
      · rw [now]
        exact filled.entered admits random few
    empty_iff := iff_of_false (fun gone => by cases fixture.symm.trans gone)
      (List.append_ne_nil_of_right_ne_nil _ (List.cons_ne_nil a []))
    member := filling.member_append inside
    waiting := fun c other late => by
      rw [now] at late
      have away : c ≠ a.connection := fun same =>
        late a (List.mem_append_right _ (List.mem_singleton_self a)) same.symm
      rw [undergoes.member]
      simp only [Change.seat, if_neg away]
      exact filling.waiting c other fun b early => late b (List.mem_append_left _ (List.mem_of_mem_take early)) }

section

variable {a : Application} (own : a.game = name) (random : a.team = .random) (inside : a.connection ∈ crowd)
  (new : ∀ b ∈ heard, b.connection ≠ a.connection) (few : heard.length < 2 ^ 32)

include own random inside new few

/-- Who is heard next is given the next place, as long as there is one. -/
theorem verdict_eq :
    (h.registry.verdict a).map (fun outcome => (outcome.2.1.slot, outcome.2.1.team)) =
      seatOf capacity name heard.length := by
  obtain ⟨g, found, filled⟩ := filling.game
  obtain ⟨m, known, outside⟩ := filling.waiting _ inside fun b early => new b (List.mem_of_mem_take early)
  obtain ⟨_, named, places, _⟩ := Registry.Supervised.gameFor? filling.kept found
  have wish : (a.entrant m.session).team = .random := random
  have placed := filled.place_eq wish (fun b early => new b (List.mem_of_mem_take early))
    ((List.length_take_le' ..).trans_lt few)
  rw [List.length_take, named, places, filling.reachable.capacity_eq, seatOf_min] at placed
  rw [Registry.verdict_outside filling.accepting known outside, own, found, ← placed]
  dsimp only
  cases g.place (a.entrant m.session) <;> rfl

theorem answered :
    Step.answer? name ⟨h, .request (.join a)⟩ = some (a, seatOf capacity name heard.length) := by
  obtain ⟨running, _⟩ := filling.reachable.going filling.accepting
  have reply : (Step.mk h (.request (.join a))).reply =
      .registry (.ok (h.registry.requestAnswer (.join a))) := by
    rw [Step.reply, perform, Registry.shown_handle, if_pos running]
    rfl
  rw [Step.answer?, reply, ← filling.verdict_eq own random inside new few]
  simp only [Act.application?, own, if_true, Registry.requestAnswer]
  cases h.registry.verdict a <;> rfl

theorem applied (positive : 1 ≤ capacity) :
    (h.perform (.request (.join a))).2.Filling capacity name crowd (heard ++ [a]) := by
  obtain ⟨running, _⟩ := filling.reachable.going filling.accepting
  have decided := filling.verdict_eq own random inside new few
  have reachable : Reachable capacity (h.perform (.request (.join a))).2 := filling.reachable.perform trivial
  have undergoes := h.perform_undergoes (.request (.join a))
  rw [change, if_pos running, Registry.requestChange] at undergoes
  rw [seatOf] at decided
  cases verdict : h.registry.verdict a with
  | error failure =>
    rw [verdict] at undergoes decided
    refine filling.refused reachable undergoes inside positive ?_
    by_contra room
    rw [if_pos (by omega)] at decided
    cases decided
  | ok outcome =>
    rw [verdict] at undergoes decided
    refine filling.admitted reachable own random inside few verdict undergoes ?_
    by_contra full
    rw [if_neg full] at decided
    cases decided

end

theorem ref_eq_none_iff : h.registry.gameRef? name = none ↔ heard = [] := by
  rw [← filling.empty_iff, Registry.gameRef?, Registry.fixture?, Option.map_eq_none_iff, Option.map_eq_none_iff]

theorem begun?_append {act : Act} {more : List Application}
    (later : (h.perform act).2.Filling capacity name crowd (heard ++ more)) :
    (h.registry.gameRef? name).toList ++ (Step.begun? name ⟨h, act⟩).toList =
      ((h.perform act).2.registry.gameRef? name).toList := by
  rw [Step.begun?, Step.after]
  by_cases first : heard = []
  · rw [filling.ref_eq_none_iff.mpr first]
    split
    · rename_i none
      rw [none]
      rfl
    · rfl
  · have there : (h.registry.fixture? name).isSome := Option.isSome_iff_ne_none.mpr fun gone =>
      first (filling.empty_iff.mp gone)
    have still : ((h.perform act).2.registry.fixture? name).isSome := Option.isSome_iff_ne_none.mpr fun gone =>
      first (List.append_eq_nil_iff.mp (later.empty_iff.mp gone)).1
    rw [(h.perform_undergoes act).gameRef?_eq (still.trans there.symm), if_pos rfl, Option.toList_none, List.append_nil]

end Filling

section

variable {ι : Type} {name : String} {crowd : List ConnectionId} {heard : List Application} {act : ι × Act}
  {acts : List (ι × Act)}

theorem applications_cons (name : String) (act : ι × Act) (acts : List (ι × Act)) :
    applications name (act :: acts) = (act.2.application? name).toList ++ applications name acts := by
  simp only [applications, List.filterMap_eq_flatMap_toList, List.flatMap_cons]

theorem answers_cons (name : String) (step : ι × Step) (steps : List (ι × Step)) :
    answers name (step :: steps) = (step.2.answer? name).toList ++ answers name steps := by
  simp only [answers, List.filterMap_eq_flatMap_toList, List.flatMap_cons]

theorem begun_cons (name : String) (step : ι × Step) (steps : List (ι × Step)) :
    begun name (step :: steps) = (step.2.begun? name).toList ++ begun name steps := by
  simp only [begun, List.filterMap_eq_flatMap_toList, List.flatMap_cons]

theorem act_of_application? {act : Act} {a : Application} (asks : act.application? name = some a) :
    act = .request (.join a) ∧ a.game = name := by
  unfold Act.application? at asks
  split at asks
  · split at asks
    · rename_i own
      cases asks
      exact ⟨rfl, own⟩
    · cases asks
  · cases asks

namespace Presses

variable (presses : Presses name crowd heard (act :: acts))

include presses

theorem tail : Presses name crowd (heard ++ (act.2.application? name).toList) acts := by
  obtain ⟨random, member, distinct, few, beside⟩ := presses
  simp only [applications_cons, ← List.append_assoc] at random member distinct few
  exact ⟨fun a later => random a (List.mem_append_right _ later),
    fun a later => member a (List.mem_append_right _ later),
    distinct, few, fun act later => beside act (List.mem_cons_of_mem _ later)⟩

theorem new {a : Application} (asks : act.2.application? name = some a) : ∀ b ∈ heard, b.connection ≠ a.connection := by
  intro b before same
  have distinct := presses.distinct
  rw [applications_cons, asks, List.map_append, List.nodup_append'] at distinct
  exact distinct.2.2 (List.mem_map_of_mem before) (same ▸ List.mem_cons_self)

/-- One more act: if it is an application it is answered with the next place, and counts as heard from then on. -/
theorem next {capacity : Nat} (positive : 1 ≤ capacity) {h : Hall} (filling : h.Filling capacity name crowd heard) :
    (h.perform act.2).2.Filling capacity name crowd (heard ++ (act.2.application? name).toList) ∧
      Step.answer? name ⟨h, act.2⟩ = (act.2.application? name).map fun a => (a, seatOf capacity name heard.length) := by
  cases asks : act.2.application? name with
  | none =>
    refine ⟨?_, by rw [Step.answer?, asks]; rfl⟩
    rw [Option.toList_none, List.append_nil]
    exact filling.beside (presses.beside act List.mem_cons_self asks)
  | some a =>
    have inside : a ∈ applications name (act :: acts) := by simp [applications_cons, asks]
    have random := presses.random a inside
    have member := presses.member a inside
    have few : heard.length < 2 ^ 32 := by
      have few := presses.few
      rw [List.length_append] at few
      omega
    obtain ⟨same, own⟩ := act_of_application? asks
    rw [same]
    exact ⟨filling.applied own random member (presses.new asks) few positive,
      filling.answered own random member (presses.new asks) few⟩

end Presses

theorem Filling.run {capacity : Nat} (positive : 1 ≤ capacity) {h : Hall}
    (filling : h.Filling capacity name crowd heard) (presses : Presses name crowd heard acts) :
    (h.final acts).Filling capacity name crowd (heard ++ applications name acts) ∧
      answers name (h.steps acts) =
        ((applications name acts).zipIdx heard.length).map (fun (a, k) => (a, seatOf capacity name k)) ∧
      (h.registry.gameRef? name).toList ++ begun name (h.steps acts) =
        ((h.final acts).registry.gameRef? name).toList := by
  -- by the acts; whoever is heard goes over from those who are to come to those who have been heard
  induction acts generalizing h heard with
  | nil =>
    rw [applications, List.filterMap_nil, List.append_nil]
    exact ⟨filling, rfl, List.append_nil _⟩
  | cons act acts ih =>
    obtain ⟨after, answer⟩ := presses.next positive filling
    obtain ⟨later, answers, one⟩ := ih after presses.tail
    rw [steps, final, answers_cons, begun_cons, applications_cons, answers, answer]
    refine ⟨List.append_assoc .. ▸ later, ?_, ?_⟩
    · rw [List.zipIdx_append, List.map_append, List.length_append]
      cases act.2.application? name <;> rfl
    · rw [← List.append_assoc, filling.begun?_append after, one]

end

variable {ι : Type}

/-- A crowd that applies to a game which is not there, each one once, from outside every game and without a wish for a
team. Beside that anything is done that concerns neither the crowd nor the game. -/
structure Rush (h : Hall) (name : String) (acts : List (ι × Act)) : Prop where
  unused : name ∉ h.registry.games.keys
  unjoined : ∀ a ∈ applications name acts, a.connection ∈ h.registry.unjoined
  random : ∀ a ∈ applications name acts, a.team = .random
  distinct : ((applications name acts).map (·.connection)).Nodup
  few : (applications name acts).length < 2 ^ 32
  beside : ∀ act ∈ acts, act.2.application? name = none →
    act.2.Beside name ((applications name acts).map (·.connection))

/-- What becomes of a crowd that applies to a game, one after the other. The first one who is heard begins the
game, and each one after gets the next slot and the other team, until both teams are full. Who gets which place
is a matter of the order alone, and which places are given away does not depend on it. -/
structure FillsUp (h : Hall) (capacity : Nat) (name : String) (acts : List (ι × Act)) : Prop where
  /-- Only the game is begun that is there in the end. -/
  begins : begun name (h.steps acts) = ((h.final acts).registry.gameRef? name).toList
  one_game : (begun name (h.steps acts)).length = min (applications name acts).length 1
  answered : answers name (h.steps acts) =
    (applications name acts).zipIdx.map fun (a, k) => (a, seatOf capacity name k)
  given : (answers name (h.steps acts)).filterMap (·.2.toOption) =
    (List.range (min (applications name acts).length (2 * capacity))).map fun k => (.ofNat k, .nth k)
  seated : ∀ k a, (applications name acts)[k]? = some a → k < 2 * capacity →
    (∃ session,
        (h.final acts).registry.Seats name (.nth k) a.connection { slot := .ofNat k, nick := a.nick, session }) ∧
      (h.final acts).registry.recorded? a.connection = some name
  unjoined : ∀ k a, (applications name acts)[k]? = some a → 2 * capacity ≤ k →
    a.connection ∈ (h.final acts).registry.unjoined
  size_eq : ((h.final acts).registry.gameOf name).size = min (applications name acts).length (2 * capacity)

theorem Rush.presses {h : Hall} {name : String} {acts : List (ι × Act)} (rush : h.Rush name acts) :
    Presses name ((applications name acts).map (·.connection)) [] acts where
  random := rush.random
  member _ := List.mem_map_of_mem
  distinct := rush.distinct
  few := rush.few
  beside := rush.beside

theorem Rush.filling {capacity : Nat} {h : Hall} (reachable : Reachable capacity h)
    (accepting : h.registry.accepting = true) {name : String} {acts : List (ι × Act)} (rush : h.Rush name acts) :
    h.Filling capacity name ((applications name acts).map (·.connection)) [] where
  reachable := reachable
  accepting := accepting
  game := ⟨_, Registry.gameFor?_absent (Table.find?_eq_none_iff.mpr rush.unused),
    by simpa using Game.create_filled name h.registry.capacity⟩
  empty_iff := iff_of_true (Registry.fixture?_eq_none_iff.mpr (Table.find?_eq_none_iff.mpr rush.unused)) rfl
  member := nofun
  waiting c member _ := by
    obtain ⟨a, applies, rfl⟩ := List.mem_map.mp member
    exact (reachable.traced.kept.listed.unjoined_iff _).mp (rush.unjoined a applies)

/-- The places that are given away to a crowd are the first ones. -/
theorem filterMap_seatOf (capacity : Nat) (name : String) (n : Nat) :
    (List.range n).filterMap (fun k => (seatOf capacity name k).toOption) =
      (List.range (min n (2 * capacity))).map fun k => (.ofNat k, .nth k) := by
  induction n with
  | zero => rw [List.range_zero, Nat.zero_min, List.filterMap_nil, List.range_zero, List.map_nil]
  | succ n ih =>
    rw [List.range_succ, List.filterMap_append, ih]
    by_cases room : n < 2 * capacity
    · have before : min n (2 * capacity) = n := by omega
      have after : min (n + 1) (2 * capacity) = n + 1 := by omega
      rw [before, after, List.range_succ, List.map_append]
      simp [seatOf, room, Except.toOption]
    · have same : min (n + 1) (2 * capacity) = min n (2 * capacity) := by omega
      simp [seatOf, room, same, Except.toOption]

theorem Rush.fillsUp {capacity : Nat} (positive : 1 ≤ capacity) {h : Hall} (reachable : Reachable capacity h)
    (accepting : h.registry.accepting = true) {name : String} {acts : List (ι × Act)} (rush : h.Rush name acts) :
    h.FillsUp capacity name acts := by
  have filling := rush.filling reachable accepting
  obtain ⟨filled, answered, begins⟩ := filling.run positive rush.presses
  rw [filling.ref_eq_none_iff.mpr rfl, Option.toList_none, List.nil_append] at begins
  rw [List.nil_append] at filled
  obtain ⟨g, found, full⟩ := filled.game
  exact {
    begins, answered
    one_game := by
      rw [begins]
      cases there : (h.final acts).registry.gameRef? name with
      | none =>
        rw [filled.ref_eq_none_iff.mp there]
        rfl
      | some ref =>
        have some : applications name acts ≠ [] := fun none => by
          cases there.symm.trans (filled.ref_eq_none_iff.mpr none)
        exact (min_eq_right (List.length_pos_of_ne_nil some)).symm
    given := by
      rw [answered, ← filterMap_seatOf capacity name, List.range_eq_range', ← List.zipIdx_map_snd 0, List.filterMap_map,
        List.filterMap_map]
      rfl
    seated := fun k a => filled.seated
    unjoined := by
      intro k a member late
      have distinct := rush.distinct
      rw [← List.take_append_drop (2 * capacity) (applications name acts), List.map_append,
        List.nodup_append'] at distinct
      have last : a ∈ (applications name acts).drop (2 * capacity) := by
        refine List.mem_of_getElem? (i := k - 2 * capacity) ?_
        rw [List.getElem?_drop, Nat.add_sub_cancel' late, member]
      refine (filled.kept.listed.unjoined_iff _).mpr
        (filled.waiting _ (List.mem_map_of_mem (List.mem_of_getElem? member)) fun b early same => ?_)
      exact distinct.2.2 (List.mem_map_of_mem early) (same ▸ List.mem_map_of_mem last)
    size_eq := by rw [Registry.gameOf_of_gameFor? found, full.size_eq, List.length_take, min_comm] }

/-- However many apply at once to a game that is not there, and in whatever order they are heard: one game is begun, the
first ones get its places one after the other until both teams are full, and all others are told that there is no room
and stay outside. Another order gives away the same places. -/
theorem Reachable.fills_up {capacity : Nat} (positive : 1 ≤ capacity) {h : Hall} (reachable : Reachable capacity h)
    (accepting : h.registry.accepting = true) {name : String} {acts : List (ι × Act)} (rush : h.Rush name acts) :
    h.FillsUp capacity name acts ∧ ∀ others : List (ι × Act), h.Rush name others →
      ((applications name others).map (·.connection)).Perm ((applications name acts).map (·.connection)) →
        (answers name (h.steps others)).filterMap (·.2.toOption) =
            (answers name (h.steps acts)).filterMap (·.2.toOption) ∧
          ((h.final others).registry.gameOf name).size = ((h.final acts).registry.gameOf name).size := by
  have fillsUp := rush.fillsUp positive reachable accepting
  refine ⟨fillsUp, fun others rush' same => ?_⟩
  have fillsUp' := rush'.fillsUp positive reachable accepting
  have as_many := same.length_eq
  rw [List.length_map, List.length_map] at as_many
  rw [fillsUp.given, fillsUp'.given, fillsUp.size_eq, fillsUp'.size_eq, as_many]
  exact ⟨rfl, rfl⟩

/-- Four connections have come. -/
def called : Hall :=
  (start 1 [.empty, .empty, .empty, .empty]).final
    [((), .request (.register ⟨1⟩ ⟨⟨1⟩, 0⟩)), ((), .request (.register ⟨2⟩ ⟨⟨2⟩, 1⟩)),
      ((), .request (.register ⟨3⟩ ⟨⟨3⟩, 2⟩)), ((), .request (.register ⟨4⟩ ⟨⟨4⟩, 3⟩))]

/-- Three of them apply to one game, and the other one goes to another game and leaves. -/
def callers : List (Unit × Act) :=
  [((), .request (.join ⟨⟨4⟩, "hall", "Di", .first, none⟩)), ((), .request (.join ⟨⟨3⟩, "ring", "Cy", .random, none⟩)),
    ((), .message ⟨3⟩ 0 .count), ((), .request (.join ⟨⟨1⟩, "ring", "Ada", .random, none⟩)),
    ((), .request (.unregister ⟨4⟩)), ((), .request (.join ⟨⟨2⟩, "ring", "Bo", .random, none⟩)), ((), .check)]

/-- The first two get a place each, and the last one gets none. The other way round the same places are given. -/
theorem fills_up_callers :
    1 ≤ 1 ∧ Reachable 1 called ∧ called.registry.accepting = true ∧ called.Rush "ring" callers ∧
      called.FillsUp 1 "ring" callers ∧ ⟨2⟩ ∈ (called.final callers).registry.unjoined ∧
      called.Rush "ring" callers.reverse ∧ ⟨3⟩ ∈ (called.final callers.reverse).registry.unjoined ∧
      ((called.final callers.reverse).registry.gameOf "ring").size =
        ((called.final callers).registry.gameOf "ring").size := by
  have reachable : Reachable 1 called := (Reachable.start _).final (by simp [Act.Open])
  have accepting : called.registry.accepting = true := by decide
  have rush : called.Rush "ring" callers := {
    unused := by decide
    unjoined := by decide
    random := by decide
    distinct := by decide
    few := by decide
    beside := by simp [callers, Act.application?, applications, Act.Beside, GameRequest.Open] }
  have back : called.Rush "ring" callers.reverse := {
    unused := by decide
    unjoined := by decide
    random := by decide
    distinct := by decide
    few := by decide
    beside := by simp [callers, Act.application?, applications, Act.Beside, GameRequest.Open] }
  obtain ⟨fillsUp, anyOrder⟩ := reachable.fills_up le_rfl accepting rush
  obtain ⟨fillsUp', _⟩ := reachable.fills_up le_rfl accepting back
  exact ⟨le_rfl, reachable, accepting, rush, fillsUp, fillsUp.unjoined 2 _ rfl le_rfl, back,
    fillsUp'.unjoined 2 _ rfl le_rfl, (anyOrder _ back (by decide)).2⟩

end Hall

end Scrimmage
