import Scrimmage.Proofs.Headcount

namespace Scrimmage

namespace Game

/-- By how many players the first team is larger than the second one. -/
def lead (g : Game) : Int := g.first.size - g.second.size

theorem lead_entered {g : Game} (sound : g.Sound) {e : Entrant} {placement : Placement}
    (admits : g.Admits e placement) :
    (g.entered e placement).lead = g.lead + if placement.team = .first then 1 else -1 := by
  have first := sound.size_side_entered admits .first
  have second := sound.size_side_entered admits .second
  simp only [side] at first second
  rw [lead, lead, first, second]
  cases placement.team <;> simp <;> omega

/-- Whoever has no wish is put into the team that is behind, or into the first one of two equal ones. -/
theorem Admits.team_random {g : Game} {e : Entrant} {placement : Placement} (admits : g.Admits e placement)
    (random : e.team = .random) : placement.team = if 0 < g.lead then .second else .first := by
  rw [admits.team, random, resolve, lead]
  congr 1
  exact propext (by omega)

theorem Admits.lead_random {g : Game} (sound : g.Sound) {e : Entrant} {placement : Placement}
    (admits : g.Admits e placement) (random : e.team = .random) :
    (g.entered e placement).lead = if 0 < g.lead then g.lead - 1 else g.lead + 1 := by
  rw [lead_entered sound admits, admits.team_random random]
  split <;> rfl

/-- What a player does to the balance who goes wherever there is room. Such a player makes the smaller team
larger, and the first one of two equal ones, so that the teams come together and a lead of one stays a lead of
one. -/
structure Levels (g after : Game) : Prop where
  closer : g.first.size ≠ g.second.size → |after.lead| = |g.lead| - 1
  tie : g.first.size = g.second.size → after.first.size = g.first.size + 1 ∧ after.second.size = g.second.size
  bounded : |after.lead| ≤ max 1 |g.lead|

theorem Admits.levels {g : Game} (sound : g.Sound) {e : Entrant} {placement : Placement}
    (admits : g.Admits e placement) (random : e.team = .random) : g.Levels (g.entered e placement) := by
  have lead := admits.lead_random sound random
  have closer : g.lead ≠ 0 → |(g.entered e placement).lead| = |g.lead| - 1 := by
    intro uneven
    rw [lead]
    split
    · rename_i ahead
      rw [abs_of_nonneg (by omega), abs_of_pos ahead]
    · rw [abs_of_nonpos (by omega), abs_of_neg (by omega)]
      omega
  refine ⟨fun apart => closer (by rw [Game.lead]; omega), fun same => ?_, ?_⟩
  · have level : g.lead = 0 := by rw [Game.lead, same, sub_self]
    have team := admits.team_random random
    rw [if_neg (by omega)] at team
    have first := sound.size_side_entered admits .first
    have second := sound.size_side_entered admits .second
    simpa [side, team] using And.intro first second
  · by_cases level : g.lead = 0
    · rw [lead, level]
      decide
    · rw [closer level]
      omega

/-- The first team has as many players as the second one, or one more. -/
def Balanced (g : Game) : Prop := 0 ≤ g.lead ∧ g.lead ≤ 1

theorem Admits.balanced {g : Game} (sound : g.Sound) {e : Entrant} {placement : Placement}
    (admits : g.Admits e placement)
    (random : e.team = .random) (balanced : g.Balanced) : (g.entered e placement).Balanced := by
  obtain ⟨least, most⟩ := balanced
  rw [Balanced, admits.lead_random sound random]
  split <;> omega

end Game

/-- Nobody is let in by this turn but one who goes wherever there is room, and nobody is taken out. -/
def Turn.Neutral (turn : Turn) : Prop :=
  (∀ e placement, turn.Seats e placement → e.team = .random) ∧
    ∀ departure, turn.answer = .left departure → departure.removed = false

namespace Play

variable {generation capacity : Nat} {name : String} {turns : List Turn} {hosted : HostedGame}

theorem balanced (play : Play generation name capacity turns hosted) (neutral : ∀ turn ∈ turns, turn.Neutral) :
    hosted.game.Balanced := by
  induction play with
  | start => exact ⟨le_rfl, zero_le_one⟩
  | @next turns past answer after queues' queues request play handled ih =>
    have before := ih fun turn old => neutral turn (List.mem_append_left _ old)
    obtain ⟨random, stays⟩ := neutral _ (List.mem_append_right _ (List.mem_singleton_self _))
    have step := HostedGame.handles_of_ask handled
    generalize after.game = next at step ⊢
    cases step with
    | @joined e placement admits => exact admits.balanced play.sound (random e placement ⟨rfl, rfl⟩) before
    | @left c team member =>
      -- someone who is a member is found in the team, and would be taken out
      have found := Table.contains_iff.mpr ((play.sound.cached c team).mp member)
      cases found.symm.trans (stays _ rfl)
    | _ => exact before

/-- Who goes wherever there is room brings the teams closer together or, where they are equal, makes the first one
larger by one. In a run in which only such players come and nobody goes the first team is never behind, and never ahead
by more than one player. -/
theorem balances (play : Play generation name capacity turns hosted) :
    (∀ x y e placement after, hosted.ask x (.join e) = (.ok (.joined (.ok placement)), after, y) → e.team = .random →
        hosted.game.Levels after.game) ∧
      ((∀ turn ∈ turns, turn.Neutral) → (∀ turn ∈ turns, turn.game.Balanced) ∧ hosted.game.Balanced) := by
  refine ⟨fun x y e placement after joined random => ?_, fun neutral => ⟨fun turn member => ?_, play.balanced neutral⟩⟩
  · obtain ⟨admits, entered⟩ := (HostedGame.handles_of_ask joined).of_joined
    exact entered ▸ admits.levels play.sound random
  · obtain ⟨earlier, later, split⟩ := List.append_of_mem member
    obtain ⟨past, before, same⟩ := play.before_turn split
    exact same ▸ before.balanced fun u old => neutral u (split ▸ List.mem_append_left _ old)

/-- Two players want to be in the first team. -/
def lopsided : List (Exchange × GameRequest) :=
  [(.empty, .join ⟨⟨1⟩, "Ada", .first, ⟨⟨1⟩, 1⟩, none⟩), (.empty, .join ⟨⟨2⟩, "Bo", .first, ⟨⟨2⟩, 2⟩, none⟩)]

/-- Two players do not mind. -/
def undemanding : List (Exchange × GameRequest) :=
  [(.empty, .join ⟨⟨1⟩, "Ada", .random, ⟨⟨1⟩, 1⟩, none⟩), (.empty, .join ⟨⟨2⟩, "Bo", .random, ⟨⟨2⟩, 2⟩, none⟩)]

theorem balances_lopsided :
    (∃ y placement after, ((HostedGame.start 0 "ring" 3).turns lopsided).2.ask .empty
        (.join ⟨⟨3⟩, "Cy", .random, ⟨⟨3⟩, 3⟩, none⟩) = (.ok (.joined (.ok placement)), after, y) ∧
        |after.game.lead| = 1) ∧
      (∀ turn ∈ ((HostedGame.start 0 "ring" 3).turns undemanding).1, turn.Neutral) ∧
      ((HostedGame.start 0 "ring" 3).turns undemanding).2.game.Balanced := by
  have played : Play 0 "ring" 3 _ _ := Play.start.extend undemanding
  have neutral : ∀ turn ∈ ((HostedGame.start 0 "ring" 3).turns undemanding).1, turn.Neutral := by
    intro turn member
    have asked := HostedGame.request_of_turns member
    obtain ⟨depth, answer, _⟩ := played.turn_answer member
    simp only [undemanding, List.map_cons, List.map_nil, List.mem_cons, List.not_mem_nil, or_false] at asked
    constructor
    · rintro e placement ⟨request, _⟩
      rw [request] at asked
      rcases asked with ⟨⟨⟩⟩ | ⟨⟨⟩⟩ <;> rfl
    · intro departure left
      rcases asked with request | request <;> rw [request, left] at answer <;> cases answer
  have uneven : Play 0 "ring" 3 _ _ := Play.start.extend lopsided
  have levels := uneven.balances.1 .empty _ ⟨⟨3⟩, "Cy", .random, ⟨⟨3⟩, 3⟩, none⟩ _ _ rfl rfl
  refine ⟨⟨_, _, _, rfl, ?_⟩, neutral, (played.balances.2 neutral).2⟩
  rw [levels.closer (by decide)]
  decide

end Play

end Scrimmage
