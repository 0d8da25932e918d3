import Mathlib
import Scrimmage.Game
import Scrimmage.Proofs.Table

namespace Scrimmage

namespace Game

def members (g : Game) : List ConnectionId := g.first.keys ++ g.second.keys

theorem mem_members_iff {g : Game} {c : ConnectionId} : c ∈ g.members ↔ ∃ team, c ∈ (g.side team).keys := by
  rw [members, List.mem_append]
  constructor
  · rintro (first | second)
    · exact ⟨.first, first⟩
    · exact ⟨.second, second⟩
  · rintro ⟨team, member⟩
    cases team with
    | first => exact Or.inl member
    | second => exact Or.inr member

theorem mem_members_of_find? {g : Game} {c : ConnectionId} {team : Team} {p : Player}
    (seated : (g.side team).find? c = some p) : c ∈ g.members :=
  mem_members_iff.mpr ⟨team, Table.mem_keys_of_find? seated⟩

theorem members_length (g : Game) : g.members.length = g.size := by
  rw [members, List.length_append, Table.keys_length, Table.keys_length, size]

def seat (g : Game) (c : ConnectionId) (team : Team) (p : Player) : Game :=
  let g := g.modifySide team (·.insert c p)
  { g with teamOf := g.teamOf.insert c team }

def unseat (g : Game) (c : ConnectionId) (team : Team) : Game :=
  { g.modifySide team (·.erase c) with teamOf := g.teamOf.erase c }

section

variable (g : Game) (c d : ConnectionId) (team other : Team) (p : Player)

@[simp] theorem name_seat : (g.seat c team p).name = g.name := by cases team <;> rfl

@[simp] theorem capacity_seat : (g.seat c team p).capacity = g.capacity := by cases team <;> rfl

@[simp] theorem teamOf_seat : (g.seat c team p).teamOf = g.teamOf.insert c team := by cases team <;> rfl

theorem side_seat :
    (g.seat c team p).side other = if other = team then (g.side other).insert c p else g.side other := by
  cases team <;> cases other <;> rfl

theorem find?_seat :
    ((g.seat c team p).side other).find? d =
      if other = team ∧ d = c then some p else (g.side other).find? d := by
  rw [side_seat]
  by_cases here : other = team
  · simp [here, Table.find?_insert]
  · simp [here]

@[simp] theorem name_unseat : (g.unseat c team).name = g.name := by cases team <;> rfl

@[simp] theorem capacity_unseat : (g.unseat c team).capacity = g.capacity := by cases team <;> rfl

@[simp] theorem teamOf_unseat : (g.unseat c team).teamOf = g.teamOf.erase c := by cases team <;> rfl

theorem side_unseat :
    (g.unseat c team).side other = if other = team then (g.side other).erase c else g.side other := by
  cases team <;> cases other <;> rfl

theorem find?_unseat :
    ((g.unseat c team).side other).find? d =
      if other = team ∧ d = c then none else (g.side other).find? d := by
  rw [side_unseat]
  by_cases here : other = team
  · simp [here, Table.find?_erase]
  · simp [here]

end

/-- An entrant that is let in, and the place that it gets: it is no member yet, the team that its wish comes
to has room, and its slot is the least free one. -/
structure Admits (g : Game) (e : Entrant) (placement : Placement) : Prop where
  absent : g.teamOf.find? e.connection = none
  team : placement.team = g.resolve e.team
  room : (g.side placement.team).size < g.capacity
  slot : placement.slot = g.freeSlot
  players : placement.players =
    bySlot (g.snapshot ++ [{ id := placement.slot, nick := e.nick, team := placement.team }])

def entered (g : Game) (e : Entrant) (placement : Placement) : Game :=
  g.seat e.connection placement.team { slot := placement.slot, nick := e.nick, session := e.session }

theorem place_eq_ok {g after : Game} {e : Entrant} {placement : Placement}
    (placed : g.place e = .ok (placement, after)) : g.Admits e placement ∧ after = g.entered e placement := by
  unfold place at placed
  split at placed
  · cases placed
  · rename_i stranger
    dsimp only at placed
    split at placed
    · cases placed
    · rename_i room
      have absent : g.teamOf.find? e.connection = none := by
        simpa [Table.contains] using stranger
      obtain ⟨same, rest⟩ := Prod.mk.inj (Except.ok.inj placed)
      subst same
      subst rest
      exact ⟨⟨absent, rfl, Nat.lt_of_not_le room, rfl, rfl⟩, rfl⟩

theorem place_eq_error {g : Game} {e : Entrant} {failure : Failure} (refused : g.place e = .error failure) :
    (failure = .alreadyJoined e.connection.label ∧ ∃ team, g.teamOf.find? e.connection = some team) ∨
      (failure = .gameFull g.name ∧ g.teamOf.find? e.connection = none ∧
        g.capacity ≤ (g.side (g.resolve e.team)).size) := by
  unfold place at refused
  split at refused
  · rename_i member
    exact Or.inl ⟨(Except.error.inj refused).symm, Option.isSome_iff_exists.mp member⟩
  · rename_i stranger
    dsimp only at refused
    split at refused
    · rename_i full
      exact Or.inr ⟨(Except.error.inj refused).symm, by simpa [Table.contains] using stranger, full⟩
    · cases refused

theorem leave_of_none {g : Game} {c : ConnectionId} (stranger : g.teamOf.find? c = none) :
    g.leave c = ({ removed := false, remaining := g.size }, g) := by
  simp only [leave, stranger]

theorem leave_of_some {g : Game} {c : ConnectionId} {team : Team} (member : g.teamOf.find? c = some team) :
    g.leave c =
      ({ removed := (g.side team).contains c, remaining := (g.unseat c team).size }, g.unseat c team) := by
  simp only [leave, member]
  rfl

/-- What a game answers to a message, and what it is like afterwards: a player is seated, a player is unseated,
or nothing changes. All that is said of rosters follows from these cases. -/
inductive Handles (g : Game) : GameRequest → GameAnswer → Game → Prop
  | joined {e placement} : g.Admits e placement → Handles g (.join e) (.joined (.ok placement)) (g.entered e placement)
  | refused {e failure} : g.place e = .error failure → Handles g (.join e) (.joined (.error failure)) g
  | left {c team} : g.teamOf.find? c = some team →
      Handles g (.leave c)
        (.left { removed := (g.side team).contains c, remaining := (g.unseat c team).size }) (g.unseat c team)
  | stranger {c} : g.teamOf.find? c = none →
      Handles g (.leave c) (.left { removed := false, remaining := g.size }) g
  | relayed {p} : Handles g (.broadcast p) .relayed g
  | counted : Handles g .count (.count g.size) g
  | reported {depth} : Handles g .roster (.roster g.roster depth) g

theorem answer_handles (g : Game) (depth : UInt64) (x : Exchange) (q : GameRequest) :
    g.Handles q (g.answer depth x q).1 (g.answer depth x q).2.1 := by
  cases q with
  | join e =>
    cases placed : g.place e with
    | error failure =>
      simp only [answer, join, placed]
      exact .refused placed
    | ok outcome =>
      obtain ⟨placement, after⟩ := outcome
      obtain ⟨admits, same⟩ := place_eq_ok placed
      simp only [answer, join, placed, same]
      exact .joined admits
  | leave c =>
    cases member : g.teamOf.find? c with
    | none =>
      simp only [answer, leave_of_none member]
      exact .stranger member
    | some team =>
      simp only [answer, leave_of_some member]
      exact .left member
  | broadcast p => exact .relayed
  | count => exact .counted
  | roster => exact .reported

theorem Handles.of_joined {g after : Game} {e : Entrant} {placement : Placement}
    (handled : g.Handles (.join e) (.joined (.ok placement)) after) :
    g.Admits e placement ∧ after = g.entered e placement := by
  cases handled with
  | joined admits => exact ⟨admits, rfl⟩

/-- The look-up of teams mirrors the rosters, and no team has more players than it takes. Every message that a
game handles keeps this. -/
structure Sound (g : Game) : Prop where
  cached : ∀ c team, g.teamOf.find? c = some team ↔ c ∈ (g.side team).keys
  bounded : ∀ team, (g.side team).size ≤ g.capacity

theorem create_sound (name : String) (capacity : Nat) : (create name capacity).Sound where
  cached c team := by cases team <;> simp [create, side]
  bounded team := by cases team <;> simp [create, side]

namespace Sound

variable {g : Game} (sound : g.Sound)

include sound

theorem team_unique {c : ConnectionId} {team other : Team} (one : c ∈ (g.side team).keys)
    (two : c ∈ (g.side other).keys) : team = other := by
  have first := (sound.cached c team).mpr one
  rw [(sound.cached c other).mpr two] at first
  exact (Option.some.inj first).symm

theorem apart {c : ConnectionId} (first : c ∈ g.first.keys) : c ∉ g.second.keys := by
  intro second
  have same : Team.first = Team.second := sound.team_unique first second
  cases same

theorem members_nodup : g.members.Nodup :=
  List.nodup_append'.mpr ⟨g.first.keys_nodup, g.second.keys_nodup, fun _ => sound.apart⟩

theorem find?_of_absent {c : ConnectionId} (absent : g.teamOf.find? c = none) (team : Team) :
    (g.side team).find? c = none := by
  rw [Table.find?_eq_none_iff, ← sound.cached c team, absent]
  exact nofun

theorem entered {e : Entrant} {placement : Placement} (admits : g.Admits e placement) :
    (g.entered e placement).Sound where
  cached c team := by
    rw [Game.entered, teamOf_seat, Table.find?_insert, Table.mem_keys_iff]
    simp only [find?_seat]
    by_cases here : c = e.connection
    · subst here
      simp only [if_true, and_true, Option.some.injEq]
      by_cases same : team = placement.team
      · simp [same]
      · simp [same, Ne.symm same, sound.find?_of_absent admits.absent team]
    · simp only [here, and_false, if_false]
      rw [sound.cached c team, Table.mem_keys_iff]
  bounded team := by
    rw [Game.entered, capacity_seat, side_seat]
    split
    · rename_i same
      subst same
      rw [Table.size_insert_of_none _ (sound.find?_of_absent admits.absent _)]
      exact admits.room
    · exact sound.bounded team

theorem unseat {c : ConnectionId} {team : Team} (member : g.teamOf.find? c = some team) :
    (g.unseat c team).Sound where
  cached d other := by
    rw [teamOf_unseat, Table.find?_erase, Table.mem_keys_iff]
    simp only [find?_unseat]
    by_cases here : d = c
    · subst here
      by_cases same : other = team
      · simp [same]
      · have outside : d ∉ (g.side other).keys := fun inside =>
          same (sound.team_unique inside ((sound.cached d team).mp member))
        simp [same, Table.find?_eq_none_iff.mpr outside]
    · simp only [here, and_false, if_false]
      rw [sound.cached d other, Table.mem_keys_iff]
  bounded other := by
    rw [capacity_unseat, side_unseat]
    split
    · obtain ⟨p, seated⟩ := Table.mem_keys_iff.mp ((sound.cached c team).mp member)
      rename_i same
      subst same
      have shrunk := Table.size_erase seated
      have before := sound.bounded other
      omega
    · exact sound.bounded other

theorem size_side_entered {e : Entrant} {placement : Placement} (admits : g.Admits e placement) (team : Team) :
    ((g.entered e placement).side team).size = (g.side team).size + if team = placement.team then 1 else 0 := by
  rw [Game.entered, side_seat]
  split
  · exact Table.size_insert_of_none _ (sound.find?_of_absent admits.absent team)
  · rfl

theorem size_entered {e : Entrant} {placement : Placement} (admits : g.Admits e placement) :
    (g.entered e placement).size = g.size + 1 := by
  have first := sound.size_side_entered admits .first
  have second := sound.size_side_entered admits .second
  simp only [side] at first second
  rw [size, size, first, second]
  cases placement.team <;> simp <;> omega

theorem size_unseat {c : ConnectionId} {team : Team} (member : g.teamOf.find? c = some team) :
    (g.unseat c team).size + 1 = g.size := by
  obtain ⟨p, seated⟩ := Table.mem_keys_iff.mp ((sound.cached c team).mp member)
  have shrunk := Table.size_erase seated
  cases team with
  | first =>
    simp only [side] at shrunk
    simp only [size, Game.unseat, modifySide]
    omega
  | second =>
    simp only [side] at shrunk
    simp only [size, Game.unseat, modifySide]
    omega

theorem handles {q : GameRequest} {a : GameAnswer} {after : Game} (handled : g.Handles q a after) :
    after.Sound := by
  cases handled with
  | joined admits => exact sound.entered admits
  | left member => exact sound.unseat member
  | _ => exact sound

end Sound

namespace Handles

variable {g after : Game} {q : GameRequest} {a : GameAnswer} (handled : g.Handles q a after)

include handled

theorem capacity_eq : after.capacity = g.capacity := by
  cases handled with
  | joined => exact capacity_seat ..
  | left => exact capacity_unseat ..
  | _ => rfl

/-- A member stays where it is, as the player that it is, through every message but its own leave. -/
theorem kept (sound : g.Sound) {c : ConnectionId} {team : Team} {p : Player}
    (seated : (g.side team).find? c = some p) (stays : q ≠ .leave c) : (after.side team).find? c = some p := by
  cases handled with
  | @joined e placement admits =>
    have other : ¬(team = placement.team ∧ c = e.connection) := by
      rintro ⟨_, same⟩
      have absent := sound.find?_of_absent admits.absent team
      rw [← same, seated] at absent
      cases absent
    rw [entered, find?_seat, if_neg other, seated]
  | @left d other member =>
    have different : ¬(team = other ∧ c = d) := fun same => stays (same.2 ▸ rfl)
    rw [find?_unseat, if_neg different, seated]
  | _ => exact seated

theorem seated_origin (sound : g.Sound) {c : ConnectionId} {team : Team} {p : Player}
    (seated : (after.side team).find? c = some p) :
    (g.side team).find? c = some p ∧ q ≠ .leave c ∨
      ∃ e placement, q = .join e ∧ a = .joined (.ok placement) ∧ g.Admits e placement ∧ e.connection = c ∧
        placement.team = team ∧ p = { slot := placement.slot, nick := e.nick, session := e.session } := by
  cases handled with
  | @joined e placement admits =>
    rw [entered, find?_seat] at seated
    split at seated
    · rename_i new
      exact Or.inr ⟨e, placement, rfl, rfl, admits, new.2.symm, new.1.symm, (Option.some.inj seated).symm⟩
    · exact Or.inl ⟨seated, by simp⟩
  | @left d other member =>
    rw [find?_unseat] at seated
    split at seated
    · cases seated
    · rename_i different
      refine Or.inl ⟨seated, ?_⟩
      rintro ⟨⟩
      have inside := Table.mem_keys_of_find? seated
      exact different ⟨sound.team_unique inside ((sound.cached _ other).mp member), rfl⟩
  | @stranger d absent =>
    refine Or.inl ⟨seated, ?_⟩
    rintro ⟨⟩
    rw [sound.find?_of_absent absent team] at seated
    cases seated
  | _ => exact Or.inl ⟨seated, by simp⟩

end Handles

end Game

end Scrimmage
