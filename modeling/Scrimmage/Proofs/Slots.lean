import Mathlib
import Scrimmage.Game

namespace Scrimmage

/-- The search passes over used numbers only, and stops early only at one that is not used. So it stops at the
least number that is not used, which is at most the number of those that are, because every number passed over
is one of them. -/
theorem leastFreeFrom_passed (used : List UInt32) (more : Nat) (slot : UInt32)
    (room : slot.toNat + more < UInt32.size) :
    ∃ passed ≤ more, (leastFreeFrom used more slot).toNat = slot.toNat + passed ∧
      (∀ k < passed, UInt32.ofNat (slot.toNat + k) ∈ used) ∧
      (passed < more → leastFreeFrom used more slot ∉ used) := by
  -- the search moves `slot` on while `more` goes down, so every start is claimed at once
  induction more generalizing slot with
  | zero => exact ⟨0, le_rfl, rfl, by simp, by simp⟩
  | succ more ih =>
    rw [leastFreeFrom]
    split
    · rename_i inside
      have next : (slot + 1).toNat = slot.toNat + 1 := by
        rw [UInt32.toNat_add]
        exact Nat.mod_eq_of_lt (by simp only [UInt32.size] at room; simp; omega)
      obtain ⟨passed, bound, stop, used', early⟩ := ih (slot + 1) (by omega)
      refine ⟨passed + 1, by omega, by omega, ?_, fun fewer => early (by omega)⟩
      intro k before
      cases k with
      | zero => simpa using inside
      | succ k =>
        have shifted := used' k (by omega)
        rwa [next, Nat.add_right_comm] at shifted
    · rename_i outside
      exact ⟨0, Nat.zero_le _, rfl, by simp, fun _ => outside⟩

/-- Different numbers that are all in a list are no more than the list is long. -/
theorem count_below_le {used : List UInt32} {bound : Nat} (small : bound ≤ UInt32.size)
    (inside : ∀ k < bound, UInt32.ofNat k ∈ used) : bound ≤ used.length := by
  have distinct : ((List.range bound).map UInt32.ofNat).Nodup := by
    refine List.Nodup.map_on ?_ List.nodup_range
    intro a below b below' same
    rw [List.mem_range] at below below'
    have values := congrArg UInt32.toNat same
    rwa [UInt32.toNat_ofNat_of_lt' (by omega), UInt32.toNat_ofNat_of_lt' (by omega)] at values
  have subset : ((List.range bound).map UInt32.ofNat) ⊆ used := by
    intro slot member
    obtain ⟨k, below, rfl⟩ := List.mem_map.mp member
    exact inside k (List.mem_range.mp below)
  simpa using (distinct.subperm subset).length_le

section

variable {used : List UInt32} (few : used.length < UInt32.size)

include few

theorem leastFree_passed :
    ∃ passed ≤ used.length, (leastFree used).toNat = passed ∧
      (∀ k < passed, UInt32.ofNat k ∈ used) ∧ (passed < used.length → leastFree used ∉ used) := by
  obtain ⟨passed, bound, stop, used', early⟩ :=
    leastFreeFrom_passed used used.length 0 (by simpa using few)
  simp only [UInt32.toNat_zero, Nat.zero_add] at stop used'
  exact ⟨passed, bound, stop, used', early⟩

theorem leastFree_le_length : (leastFree used).toNat ≤ used.length := by
  obtain ⟨passed, bound, stop, _, _⟩ := leastFree_passed few
  omega

theorem mem_of_lt_leastFree {slot : UInt32} (below : slot < leastFree used) : slot ∈ used := by
  obtain ⟨passed, _, stop, used', _⟩ := leastFree_passed few
  have before : slot.toNat < passed := stop ▸ UInt32.lt_iff_toNat_lt.mp below
  simpa using used' slot.toNat before

/-- A search that went through the whole list has seen as many numbers as the list has places, so there is
none left for the number that it stopped at. -/
theorem leastFree_not_mem : leastFree used ∉ used := by
  obtain ⟨passed, bound, stop, used', early⟩ := leastFree_passed few
  by_cases short : passed < used.length
  · exact early short
  · intro inside
    -- with the last one there would be one number more than the list is long
    have full : ∀ k < passed + 1, UInt32.ofNat k ∈ used := by
      intro k below
      by_cases last : k = passed
      · rw [last, ← stop]
        simpa using inside
      · exact used' k (by omega)
    have := count_below_le (by omega) full
    omega

end

end Scrimmage
