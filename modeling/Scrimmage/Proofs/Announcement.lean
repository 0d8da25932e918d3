import Scrimmage.Proofs.Applications
import Scrimmage.Proofs.Headcount

namespace Scrimmage

namespace Game

theorem bySlot_perm (entries : List RosterEntry) : (bySlot entries).Perm entries := List.mergeSort_perm ..

theorem bySlot_sorted (entries : List RosterEntry) : (bySlot entries).Pairwise (·.id ≤ ·.id) := by
  have trans : ∀ p q r : RosterEntry, decide (p.id ≤ q.id) = true → decide (q.id ≤ r.id) = true →
      decide (p.id ≤ r.id) = true := fun p q r below above =>
    decide_eq_true (UInt32.le_trans (of_decide_eq_true below) (of_decide_eq_true above))
  have total : ∀ p q : RosterEntry, (decide (p.id ≤ q.id) || decide (q.id ≤ p.id)) = true := fun p q => by
    simpa using UInt32.le_total p.id q.id
  exact (List.pairwise_mergeSort trans total entries).imp of_decide_eq_true

theorem bySlot_congr {entries others : List RosterEntry} (same : entries.Perm others)
    (distinct : (entries.map (·.id)).Nodup) : bySlot entries = bySlot others := by
  have perm : (bySlot entries).Perm (bySlot others) :=
    (bySlot_perm entries).trans (same.trans (bySlot_perm others).symm)
  refine perm.eq_of_pairwise (fun p q one other below above => ?_) (bySlot_sorted entries) (bySlot_sorted others)
  have inside : p ∈ entries := (bySlot_perm entries).mem_iff.mp one
  have inside' : q ∈ entries := same.mem_iff.mpr ((bySlot_perm others).mem_iff.mp other)
  exact List.inj_on_of_nodup_map distinct inside inside' (UInt32.le_antisymm below above)

theorem bySlot_ascending {entries : List RosterEntry} (distinct : (entries.map (·.id)).Nodup) :
    (bySlot entries).Pairwise (·.id < ·.id) := by
  have different : ((bySlot entries).map (·.id)).Nodup := ((bySlot_perm entries).map _).nodup_iff.mpr distinct
  exact (bySlot_sorted entries).imp₂ (fun _ _ => UInt32.lt_of_le_of_ne) (List.pairwise_map.mp different)

theorem Consistent.slots_nodup {g : Game} (consistent : g.Consistent) :
    ((g.entries .first ++ g.entries .second).map (·.id)).Nodup := by
  have slots : (g.entries .first ++ g.entries .second).map (·.id) =
      (g.first.entries ++ g.second.entries).map (·.2.slot) := by
    simp [entries, side, Table.values, Function.comp_def]
  have members : (g.first.entries ++ g.second.entries).map (·.1) = g.members := by
    simp [Game.members, Table.keys]
  have nodup : ((g.first.entries ++ g.second.entries).map (·.1)).Nodup := members ▸ consistent.members_nodup
  have seated : ∀ entry ∈ g.first.entries ++ g.second.entries, ∃ team, (g.side team).find? entry.1 = some entry.2 := by
    intro entry inside
    rcases List.mem_append.mp inside with first | second
    · exact ⟨.first, Table.find?_eq_some_iff.mpr first⟩
    · exact ⟨.second, Table.find?_eq_some_iff.mpr second⟩
  rw [slots]
  refine nodup.of_map.map_on fun one inside other inside' same => ?_
  obtain ⟨team, here⟩ := seated one inside
  obtain ⟨team', there⟩ := seated other inside'
  exact List.inj_on_of_nodup_map nodup inside inside' (consistent.slot_unique _ _ _ _ _ _ here there same)

theorem length_snapshot (g : Game) : g.snapshot.length = g.size := by
  rw [snapshot, (bySlot_perm _).length_eq]
  simp [entries, side, size, Table.values_length]

theorem countP_snapshot (g : Game) (team : Team) : g.snapshot.countP (·.team = team) = (g.side team).size := by
  have own : ∀ other, (g.entries other).countP (·.team = team) = if other = team then (g.side other).size else 0 := by
    intro other
    rw [entries, List.countP_map]
    split <;> rename_i same <;> simp [Function.comp_def, same, Table.values_length]
  rw [snapshot, (bySlot_perm _).countP_eq, List.countP_append, own, own]
  cases team <;> simp

theorem Sound.entries_entered {g : Game} (sound : g.Sound) {e : Entrant} {placement : Placement}
    (admits : g.Admits e placement) (team : Team) :
    (g.entered e placement).entries team = g.entries team ++
      if team = placement.team then [{ id := placement.slot, nick := e.nick, team }] else [] := by
  rw [entries, entries, Game.entered, side_seat]
  split
  · have absent := sound.find?_of_absent admits.absent team
    simp only [Table.values, Table.entries_insert_of_none _ absent, List.map_append, List.map_cons, List.map_nil]
  · rw [List.append_nil]

/-- The list that is made for a newcomer is the one that is made of the members afterwards. -/
theorem Consistent.snapshot_entered {g : Game} (consistent : g.Consistent) {e : Entrant} {placement : Placement}
    (admits : g.Admits e placement) (few : g.size < 2 ^ 32) :
    (g.entered e placement).snapshot = placement.players := by
  have sound := consistent.toSound
  rw [admits.players, snapshot]
  refine bySlot_congr ?_ (consistent.entered admits few).slots_nodup
  rw [sound.entries_entered admits, sound.entries_entered admits, snapshot]
  refine List.Perm.trans ?_ ((bySlot_perm (g.entries .first ++ g.entries .second)).symm.append_right _)
  cases placement.team with
  | first =>
    simp only [if_true, reduceCtorEq, if_false, List.append_nil, List.append_assoc]
    exact List.perm_append_comm.append_left _
  | second => simp

end Game

/-- What a newcomer is given, what is announced to it and what the game reports afterwards. The list of players
is made at a different place for each of the three and is the same, for as no two players have the same slot
there is only one way to list them by slot. -/
structure Announces (before after : HostedGame) (x y : Exchange) (e : Entrant) (placement : Placement) : Prop where
  announced : y.waiting e.session =
    x.waiting e.session ++ [.write (Notice.joined e.id placement.slot placement.players).encode]
  /-- The game reports the list, and teams of as many players as the list has of each. -/
  reported : ∀ queues, ∃ depth, (after.ask queues .roster).1 = .ok (.roster
    { name := before.game.name, players := placement.players,
      firstSize := placement.players.countP (·.team = .first),
      secondSize := placement.players.countP (·.team = .second) } depth)
  ascending : placement.players.Pairwise (·.id < ·.id)
  /-- The list has one entry for every member, with the slot, the nick and the team that it has. -/
  listed : ∀ entry, entry ∈ placement.players ↔
    ∃ team c p, (after.game.side team).find? c = some p ∧ entry = { id := p.slot, nick := p.nick, team }
  length_eq : placement.players.length = after.game.size
  members : ∀ c, c ∈ after.game.members ↔ c = e.connection ∨ c ∈ before.game.members
  kept : ∀ team c p, (before.game.side team).find? c = some p → (after.game.side team).find? c = some p
  seated : (after.game.side placement.team).find? e.connection =
    some { slot := placement.slot, nick := e.nick, session := e.session }
  entry : { id := placement.slot, nick := e.nick, team := placement.team } ∈ placement.players

namespace Play

variable {generation capacity : Nat} {name : String} {turns : List Turn} {hosted : HostedGame}

/-- A join that is accepted in a game of fewer than `2 ^ 32` players, by a session that takes frames: the list that it
is answered with, the list in the `join-result` and the list that the game reports next are one list. It names every
member once, the newcomer included, in the order of their slots. (Nobody is ever put in beside `2 ^ 32` players, among
whom no slot is left.) -/
theorem announces (play : Play generation name capacity turns hosted)
    (few : ∀ turn ∈ turns, ∀ e placement, turn.Seats e placement → turn.game.size < 2 ^ 32)
    (now : hosted.game.size < 2 ^ 32) {x y : Exchange} {e : Entrant} {placement : Placement} {after : HostedGame}
    (joined : hosted.ask x (.join e) = (.ok (.joined (.ok placement)), after, y))
    (accepts : x.accepts e.session = true) : Announces hosted after x y e placement := by
  have consistent := play.consistent_of_seats few
  have sound := consistent.toSound
  have goesOn : after.running = true := (play.next x (.join e) joined).running
  obtain ⟨admits, entered⟩ := (HostedGame.handles_of_ask joined).of_joined
  have members : ∀ c, c ∈ after.game.members ↔ c = e.connection ∨ c ∈ hosted.game.members := fun c =>
    entered ▸ sound.mem_members_entered_iff admits
  have later : after.game.Consistent := entered ▸ consistent.entered admits now
  have named : after.game.name = hosted.game.name := entered ▸ Game.name_seat ..
  have seats := Game.find?_entered_iff sound admits
  have list := consistent.snapshot_entered admits now
  rw [← entered] at seats list
  have listed : ∀ entry, entry ∈ placement.players ↔
      ∃ team c p, (after.game.side team).find? c = some p ∧ entry = { id := p.slot, nick := p.nick, team } :=
    fun entry => list ▸ Game.mem_snapshot_iff
  have seated := (seats e.connection placement.team _).mpr (Or.inl ⟨rfl, rfl, rfl⟩)
  exact {
    announced := by
      obtain ⟨depth, _, _, queues⟩ := HostedGame.ask_eq_ok joined
      have outbox := hosted.game.outbox?_answer depth x (.join e) e.session
      rw [← Exchange.outbox?_measure _ (·.messageHandled), ← queues] at outbox
      rw [Exchange.waiting_extended outbox, if_pos accepts]
      simp only [Game.sends, admits.place_eq, if_true, Game.welcome]
    reported := fun queues => by
      have first := after.game.countP_snapshot .first
      have second := after.game.countP_snapshot .second
      rw [list] at first second
      rw [HostedGame.ask_running goesOn, first, second]
      refine ⟨_, congrArg (fun roster => Except.ok (GameAnswer.roster roster _)) ?_⟩
      rw [Game.roster, named, list]
      rfl
    ascending := list ▸ Game.bySlot_ascending later.slots_nodup
    listed := listed
    length_eq := list ▸ after.game.length_snapshot
    members := members
    kept := fun team c p before => by
      have other : c ≠ e.connection := by
        rintro rfl
        cases (sound.find?_of_absent admits.absent team).symm.trans before
      exact (seats c team p).mpr (Or.inr ⟨other, before⟩)
    seated := seated
    entry := (listed _).mpr ⟨_, _, _, seated, rfl⟩ }

/-- Two players come, and the first one leaves. -/
def vacancy : List (Exchange × GameRequest) :=
  [(.empty, .join ⟨⟨1⟩, "Ada", .random, ⟨⟨1⟩, 1⟩, none⟩), (.empty, .join ⟨⟨2⟩, "Bo", .random, ⟨⟨2⟩, 2⟩, none⟩),
    (.empty, .leave ⟨1⟩)]

/-- Who comes next gets the slot that has become free, and stands at the head of the list. -/
theorem announces_vacancy :
    let queues : Exchange := { Exchange.empty with outboxes := [.empty] }
    let before := ((HostedGame.start 0 "ring" 3).turns vacancy).2
    let entrant : Entrant := ⟨⟨3⟩, "Cy", .random, ⟨⟨3⟩, 0⟩, none⟩
    (∀ turn ∈ ((HostedGame.start 0 "ring" 3).turns vacancy).1, ∀ e placement, turn.Seats e placement →
        turn.game.size < 2 ^ 32) ∧
      before.game.size < 2 ^ 32 ∧ queues.accepts entrant.session = true ∧
      ∃ placement after y, before.ask queues (.join entrant) = (.ok (.joined (.ok placement)), after, y) ∧
        placement.slot = 0 ∧ Announces before after queues y entrant placement := by
  intro queues before entrant
  have few : ∀ turn ∈ ((HostedGame.start 0 "ring" 3).turns vacancy).1, turn.game.size < 2 ^ 32 := by decide
  have seated := fun turn member (e : Entrant) (placement : Placement) (_ : turn.Seats e placement) => few turn member
  have now : before.game.size < 2 ^ 32 := by decide
  have accepts : queues.accepts entrant.session = true := by decide
  exact ⟨seated, now, accepts, _, _, _, rfl, by decide,
    (Play.start.extend vacancy).announces seated now rfl accepts⟩

end Play

end Scrimmage
