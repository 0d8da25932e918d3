import Scrimmage.Proofs.Roster
import Scrimmage.Proofs.Slots

namespace Scrimmage

namespace Game

theorem mem_players_iff {g : Game} {p : Player} : p ∈ g.players ↔ ∃ c team, (g.side team).find? c = some p := by
  rw [players, List.mem_append, Table.mem_values_iff, Table.mem_values_iff]
  constructor
  · rintro (⟨c, first⟩ | ⟨c, second⟩)
    · exact ⟨c, .first, first⟩
    · exact ⟨c, .second, second⟩
  · rintro ⟨c, team, seated⟩
    cases team with
    | first => exact Or.inl ⟨c, seated⟩
    | second => exact Or.inr ⟨c, seated⟩

theorem players_length (g : Game) : g.players.length = g.size := by
  rw [players, List.length_append, Table.values_length, Table.values_length, size]

section

variable {g : Game} (few : g.size < UInt32.size)

include few

theorem slots_few : (g.players.map (·.slot)).length < UInt32.size := by
  rw [List.length_map, players_length]
  exact few

theorem freeSlot_le : g.freeSlot.toNat ≤ g.size := by
  have slots : (g.players.map (·.slot)).length = g.size := by rw [List.length_map, players_length]
  rw [← slots]
  exact leastFree_le_length (slots_few few)

theorem freeSlot_ne {c : ConnectionId} {team : Team} {p : Player}
    (seated : (g.side team).find? c = some p) : p.slot ≠ g.freeSlot := by
  intro same
  have used : p.slot ∈ g.players.map (·.slot) := List.mem_map_of_mem (mem_players_iff.mpr ⟨c, team, seated⟩)
  rw [same] at used
  exact leastFree_not_mem (slots_few few) used

end

/-- A sound game in which no connection is in both teams, no two members have the same slot, and every slot is
less than the number of places. Slots stay below that number because the least free slot is at most the number
of members. -/
structure Consistent (g : Game) : Prop extends Sound g where
  apart : ∀ c, c ∈ g.first.keys → c ∉ g.second.keys
  slot_unique : ∀ c d team other p q, (g.side team).find? c = some p → (g.side other).find? d = some q →
    p.slot = q.slot → c = d
  slot_bounded : ∀ c team p, (g.side team).find? c = some p → p.slot.toNat < 2 * g.capacity

theorem create_consistent (name : String) (capacity : Nat) : (create name capacity).Consistent where
  toSound := create_sound name capacity
  apart c first := by simp [create] at first
  slot_unique c _ team _ p _ seated := by cases team <;> simp [create, side] at seated
  slot_bounded c team p seated := by cases team <;> simp [create, side] at seated

namespace Consistent

variable {g : Game} (consistent : g.Consistent)

include consistent

/-- The free slot is at most the number of members, and that is less than the number of places as long as
the team of the entrant has room. -/
theorem entered {e : Entrant} {placement : Placement} (admits : g.Admits e placement)
    (few : g.size < UInt32.size) : (g.entered e placement).Consistent where
  toSound := consistent.toSound.entered admits
  apart _ := (consistent.toSound.entered admits).apart
  slot_unique c d team other p q one two same := by
    simp only [Game.entered, find?_seat] at one two
    -- each of the two is the newcomer, or was there before
    split at one <;> split at two
    · rename_i new new'
      rw [new.2, new'.2]
    · cases one
      exact absurd (same.symm.trans admits.slot) (freeSlot_ne few two)
    · cases two
      exact absurd (same.trans admits.slot) (freeSlot_ne few one)
    · exact consistent.slot_unique c d team other p q one two same
  slot_bounded c team p seated := by
    simp only [Game.entered, find?_seat] at seated
    rw [Game.entered, capacity_seat]
    split at seated
    · cases seated
      have least := freeSlot_le few
      have first := consistent.bounded .first
      have second := consistent.bounded .second
      have room := admits.room
      simp only [admits.slot]
      simp only [side] at first second
      rw [size] at least
      cases team : placement.team <;> simp only [team, side] at room <;> omega
    · exact consistent.slot_bounded c team p seated

theorem unseat {c : ConnectionId} {team : Team} (member : g.teamOf.find? c = some team) :
    (g.unseat c team).Consistent where
  toSound := consistent.toSound.unseat member
  apart _ := (consistent.toSound.unseat member).apart
  slot_unique d e one two p q first second := by
    simp only [find?_unseat] at first second
    split at first <;> split at second
    · cases first
    · cases first
    · cases second
    · exact consistent.slot_unique d e one two p q first second
  slot_bounded d other p seated := by
    simp only [find?_unseat] at seated
    rw [capacity_unseat]
    split at seated
    · cases seated
    · exact consistent.slot_bounded d other p seated

theorem handles {q : GameRequest} {a : GameAnswer} {after : Game} (handled : g.Handles q a after)
    (few : g.size < UInt32.size) : after.Consistent := by
  cases handled with
  | joined admits => exact consistent.entered admits few
  | left member => exact consistent.unseat member
  | _ => exact consistent

end Consistent

end Game

end Scrimmage
