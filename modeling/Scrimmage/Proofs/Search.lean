import Scrimmage.Proofs.Roster
import Scrimmage.Proofs.Slots

namespace Scrimmage

/-- The loop from a slot on: a slot that is used is passed over, as long as there is a number after it. The
outcome is the slot that it stops at, if it does not run out of numbers. The loop is given no bound. -/
inductive SlotSearch (used : List UInt32) : UInt32 → Nat → Option UInt32 → Prop
  | free {slot : UInt32} : slot ∉ used → SlotSearch used slot 0 (some slot)
  | next {slot : UInt32} {passed : Nat} {outcome : Option UInt32} : slot ∈ used → slot.toNat + 1 < UInt32.size →
      SlotSearch used (slot + 1) passed outcome → SlotSearch used slot (passed + 1) outcome
  | overflow {slot : UInt32} : slot ∈ used → slot.toNat + 1 = UInt32.size → SlotSearch used slot 0 none

namespace SlotSearch

variable {used : List UInt32} {slot : UInt32}

theorem unique {passed passed' : Nat} {outcome outcome' : Option UInt32} (search : SlotSearch used slot passed outcome)
    (other : SlotSearch used slot passed' outcome') : passed' = passed ∧ outcome' = outcome := by
  induction search generalizing passed' with
  | free unused =>
    cases other with
    | free => exact ⟨rfl, rfl⟩
    | next inside | overflow inside => exact absurd inside unused
  | next inside room _ ih =>
    cases other with
    | free unused => exact absurd inside unused
    | next _ _ rest =>
      obtain ⟨rfl, rfl⟩ := ih rest
      exact ⟨rfl, rfl⟩
    | overflow _ last => omega
  | overflow inside last =>
    cases other with
    | free unused => exact absurd inside unused
    | next _ room => omega
    | overflow => exact ⟨rfl, rfl⟩

/-- When all slots on the way are used, the loop gets as far as one that is not. -/
theorem reaches {last : UInt32} (unused : last ∉ used) {passed : Nat} (ahead : slot.toNat + passed = last.toNat)
    (between : ∀ k < last, k ∈ used) : SlotSearch used slot passed (some last) := by
  have bound : last.toNat < UInt32.size := last.toNat_lt
  induction passed generalizing slot with
  | zero =>
    rw [UInt32.toNat_inj.mp ahead]
    exact .free unused
  | succ passed ih =>
    have room : slot.toNat + 1 < UInt32.size := by omega
    have next : (slot + 1).toNat = slot.toNat + 1 := by
      rw [UInt32.toNat_add]
      exact Nat.mod_eq_of_lt room
    exact .next (between slot (UInt32.lt_iff_toNat_lt.mpr (by omega))) room (ih (by omega))

end SlotSearch

theorem leastFree_le_card {used : List UInt32} (few : used.length < UInt32.size) :
    (leastFree used).toNat ≤ used.toFinset.card := by
  have bound := (leastFree used).toNat_lt
  rw [List.card_toFinset]
  refine count_below_le bound.le fun k below => List.mem_dedup.mpr (mem_of_lt_leastFree few ?_)
  rw [UInt32.lt_iff_toNat_lt, UInt32.toNat_ofNat_of_lt' (below.trans bound)]
  exact below

namespace Game

/-- The slots in use, of both teams. -/
def slots (g : Game) : List UInt32 := g.players.map (·.slot)

theorem length_slots (g : Game) : g.slots.length = g.size := by
  simp only [slots, players, Table.values, List.length_map, List.length_append, size, Table.size]

/-- The search for a slot ends: in one way, at the least slot that nobody has, after passing over every slot below it
once and no other. -/
theorem search_ends_at_least_free (g : Game) (few : g.size < 2 ^ 32) :
    (∀ passed outcome, SlotSearch g.slots 0 passed outcome ↔ passed = g.freeSlot.toNat ∧ outcome = some g.freeSlot) ∧
      g.freeSlot.toNat ≤ g.slots.toFinset.card ∧ (∀ p ∈ g.players, p.slot ≠ g.freeSlot) ∧
      (∀ slot < g.freeSlot, ∃ p ∈ g.players, p.slot = slot) ∧ g.freeSlot.toNat ≤ g.size := by
  have few : g.slots.length < UInt32.size := g.length_slots.trans_lt few
  have unused : g.freeSlot ∉ g.slots := leastFree_not_mem few
  have between : ∀ slot < g.freeSlot, slot ∈ g.slots := fun slot below => mem_of_lt_leastFree few below
  have run : SlotSearch g.slots 0 g.freeSlot.toNat (some g.freeSlot) := .reaches unused (Nat.zero_add _) between
  refine ⟨fun passed outcome => ⟨run.unique, ?_⟩, leastFree_le_card few, fun p member same => ?_, fun slot below => ?_,
    g.length_slots ▸ leastFree_le_length few⟩
  · rintro ⟨rfl, rfl⟩
    exact run
  · exact unused (same ▸ List.mem_map_of_mem member)
  · exact List.mem_map.mp (between slot below)

/-- Two players have one slot, and there is a hole. -/
def ragged : Game where
  name := "ring"
  capacity := 1
  first := (Table.empty.insert ⟨1⟩ ⟨1, "Ada", ⟨⟨1⟩, 0⟩⟩).insert ⟨2⟩ ⟨0, "Bob", ⟨⟨2⟩, 1⟩⟩
  second := (Table.empty.insert ⟨3⟩ ⟨1, "Cyd", ⟨⟨3⟩, 2⟩⟩).insert ⟨4⟩ ⟨3, "Dan", ⟨⟨4⟩, 3⟩⟩
  teamOf := .empty

theorem search_ends_at_least_free_ragged :
    ragged.size < 2 ^ 32 ∧ ragged.slots = [1, 0, 1, 3] ∧
      (∀ passed outcome, SlotSearch ragged.slots 0 passed outcome ↔ passed = 2 ∧ outcome = some 2) ∧
      2 ≤ ragged.slots.toFinset.card ∧ (∀ p ∈ ragged.players, p.slot ≠ 2) ∧
      (∀ slot < 2, ∃ p ∈ ragged.players, p.slot = slot) ∧ 2 ≤ ragged.size := by
  have few : ragged.size < 2 ^ 32 := by decide
  have free : ragged.freeSlot = 2 := by decide
  have ends := ragged.search_ends_at_least_free few
  rw [free] at ends
  exact ⟨few, by decide, ends⟩

end Game

end Scrimmage
