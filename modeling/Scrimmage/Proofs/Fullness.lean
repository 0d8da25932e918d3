import Mathlib
import Scrimmage.Mailbox

namespace Scrimmage

/-- The band that a depth is in: below the normal threshold, up to the warning threshold, or above it. -/
def ActorKind.band (kind : ActorKind) (depth : Nat) : MailboxGrade :=
  if depth < kind.normalThreshold.toNat then .normal
  else if depth ≤ kind.warningThreshold.toNat then .warning
  else .critical

namespace Mailbox

/-- What is recorded of a message. -/
inductive Passage
  | entry
  | exit
  deriving DecidableEq

def record (m : Mailbox) : Passage → Mailbox
  | .entry => m.enqueue
  | .exit => m.dequeue

/-- A mailbox after some messages have passed. -/
def recorded (kind : ActorKind) (passages : List Passage) : Mailbox := passages.foldl record (.empty kind)

/-- How many messages are left of those that were put in. -/
def backlog (passages : List Passage) : Nat := passages.count .entry - passages.count .exit

/-- At no time have more messages been taken out than were put in. -/
def Proper (passages : List Passage) : Prop :=
  ∀ earlier, earlier <+: passages → earlier.count .exit ≤ earlier.count .entry

instance (passages : List Passage) : Decidable (Proper passages) :=
  decidable_of_iff (∀ earlier ∈ passages.inits, earlier.count .exit ≤ earlier.count .entry)
    (forall_congr' fun _ => imp_congr_left (List.mem_inits ..))

/-- The backlogs that there have been, the last one included. -/
def backlogs (passages : List Passage) : Set Nat := {depth | ∃ earlier, earlier <+: passages ∧ backlog earlier = depth}

theorem Proper.init {passages : List Passage} {last : Passage} (proper : Proper (passages ++ [last])) :
    Proper passages :=
  fun earlier first => proper earlier (first.trans (List.prefix_append ..))

theorem backlog_entry (passages : List Passage) (proper : Proper passages) :
    backlog (passages ++ [.entry]) = backlog passages + 1 := by
  have all := proper passages List.prefix_rfl
  simp only [backlog, List.count_append, List.count_singleton_self, List.count_singleton, reduceCtorEq, beq_iff_eq,
    if_false]
  omega

theorem backlog_exit {passages : List Passage} (proper : Proper (passages ++ [.exit])) :
    0 < backlog passages ∧ backlog (passages ++ [.exit]) = backlog passages - 1 := by
  have all := proper _ List.prefix_rfl
  simp only [backlog, List.count_append, List.count_singleton_self, List.count_singleton, reduceCtorEq, beq_iff_eq,
    if_false] at all ⊢
  omega

theorem backlog_le_length (passages : List Passage) : backlog passages ≤ passages.length :=
  (Nat.sub_le ..).trans List.count_le_length

theorem backlogs_concat (passages : List Passage) (last : Passage) :
    backlogs (passages ++ [last]) = insert (backlog (passages ++ [last])) (backlogs passages) := by
  ext depth
  simp only [backlogs, Set.mem_ofPred_eq, Set.mem_insert_iff, List.prefix_concat_iff]
  constructor
  · rintro ⟨earlier, rfl | before, same⟩
    · exact Or.inl same.symm
    · exact Or.inr ⟨earlier, before, same⟩
  · rintro (rfl | ⟨earlier, before, same⟩)
    · exact ⟨_, Or.inl rfl, rfl⟩
    · exact ⟨earlier, Or.inr before, same⟩

/-- The counters of a mailbox show what has passed: the depth is what is left of the messages put in, the peak
is the greatest depth that there has been, and what is processed is what was taken out. -/
structure Shows (m : Mailbox) (kind : ActorKind) (passages : List Passage) : Prop where
  kind : m.kind = kind
  depth : m.depth.toNat = backlog passages
  peak : IsGreatest (backlogs passages) m.peak.toNat
  processed : m.processed.toNat = passages.count .exit

theorem shows_empty (kind : ActorKind) : (Mailbox.empty kind).Shows kind [] where
  kind := rfl
  depth := rfl
  peak := by
    have only : backlogs [] = {0} := by
      ext depth
      simp only [backlogs, List.prefix_nil, exists_eq_left, Set.mem_ofPred_eq, Set.mem_singleton_iff]
      exact eq_comm
    rw [only]
    exact isGreatest_singleton
  processed := rfl

theorem toNat_max (a b : UInt64) : (max a b).toNat = max a.toNat b.toNat := by
  by_cases less : a ≤ b
  · exact (congrArg UInt64.toNat (if_pos less)).trans (max_eq_right (UInt64.le_iff_toNat_le.mp less)).symm
  · have greater : b.toNat ≤ a.toNat := Nat.le_of_not_le fun le => less (UInt64.le_iff_toNat_le.mpr le)
    exact (congrArg UInt64.toNat (if_neg less)).trans (max_eq_left greater).symm

namespace Shows

variable {m : Mailbox} {kind : ActorKind} {passages : List Passage} (shows' : m.Shows kind passages)

include shows'

theorem entry (proper : Proper passages) (few : passages.length + 1 < 2 ^ 64) :
    m.enqueue.Shows kind (passages ++ [.entry]) := by
  have small := backlog_le_length passages
  have depth : (m.depth + 1).toNat = backlog (passages ++ [.entry]) := by
    rw [backlog_entry passages proper, UInt64.toNat_add, shows'.depth]
    exact Nat.mod_eq_of_lt (by simp only [UInt64.toNat_one]; omega)
  refine ⟨shows'.kind, depth, ?_, ?_⟩
  · rw [backlogs_concat, enqueue, toNat_max, depth, max_comm]
    exact shows'.peak.insert _
  · rw [List.count_append]
    exact shows'.processed

/-- What is taken out makes the backlog smaller, so that the peak stays. -/
theorem exit (proper : Proper (passages ++ [.exit])) (few : passages.length + 1 < 2 ^ 64) :
    m.dequeue.Shows kind (passages ++ [.exit]) := by
  obtain ⟨some, fewer⟩ := backlog_exit proper
  have taken := passages.count_le_length (a := Passage.exit)
  refine ⟨shows'.kind, ?_, ?_, ?_⟩
  · have positive : 1 ≤ m.depth := UInt64.le_iff_toNat_le.mpr (by rw [shows'.depth]; exact some)
    rw [dequeue, fewer, UInt64.toNat_sub_of_le _ _ positive, shows'.depth]
    rfl
  · have most := shows'.peak.2 ⟨passages, List.prefix_rfl, rfl⟩
    have greatest := shows'.peak.insert (backlog (passages ++ [.exit]))
    rw [max_eq_right (by omega)] at greatest
    rw [backlogs_concat]
    exact greatest
  · rw [dequeue, UInt64.toNat_add, shows'.processed, List.count_append, List.count_singleton_self]
    exact Nat.mod_eq_of_lt (by simp only [UInt64.toNat_one]; omega)

end Shows

theorem recorded_shows (kind : ActorKind) {passages : List Passage} (proper : Proper passages)
    (few : passages.length < 2 ^ 64) : (recorded kind passages).Shows kind passages := by
  induction passages using List.reverseRecOn with
  | nil => exact shows_empty kind
  | append_singleton passages last ih =>
    rw [List.length_append, List.length_singleton] at few
    have before := ih proper.init (by omega)
    rw [recorded, List.foldl_append]
    cases last with
    | entry => exact before.entry proper.init few
    | exit => exact before.exit proper few

theorem normalThreshold_lt (kind : ActorKind) : kind.normalThreshold.toNat < kind.warningThreshold.toNat := by
  cases kind <;> decide

/-- Depths are graded by their bands, but for the normal threshold. -/
theorem levelAt_eq_band_iff (kind : ActorKind) (depth : UInt64) :
    levelAt kind depth = kind.band depth.toNat ↔ depth ≠ kind.normalThreshold := by
  have apart := normalThreshold_lt kind
  simp only [levelAt, ActorKind.band, UInt64.lt_iff_toNat_lt, ne_eq, ← UInt64.toNat_inj]
  split_ifs <;> simp <;> omega

theorem levelAt_normalThreshold (kind : ActorKind) :
    levelAt kind kind.normalThreshold = .normal ∧ kind.band kind.normalThreshold.toNat = .warning := by
  cases kind <;> decide

/-- Whatever goes through a mailbox, its counters show it, and its grade is the band of the backlog unless the backlog
is just the normal threshold, which is graded one band too low. -/
theorem shows_use (kind : ActorKind) {passages : List Passage} (proper : Proper passages)
    (few : passages.length < 2 ^ 64) :
    (recorded kind passages).depth.toNat = passages.count .entry - passages.count .exit ∧
      IsGreatest (backlogs passages) (recorded kind passages).peak.toNat ∧
      (recorded kind passages).processed.toNat = passages.count .exit ∧
      (backlog passages ≠ kind.normalThreshold.toNat →
        (recorded kind passages).level = kind.band (backlog passages)) ∧
      (backlog passages = kind.normalThreshold.toNat →
        (recorded kind passages).level = .normal ∧ kind.band (backlog passages) = .warning) := by
  have shows' := recorded_shows kind proper few
  refine ⟨shows'.depth, shows'.peak, shows'.processed, fun other => ?_, fun same => ?_⟩
  · rw [level, shows'.kind, ← shows'.depth, levelAt_eq_band_iff, ne_eq, ← UInt64.toNat_inj, shows'.depth]
    exact other
  · have exact' : (recorded kind passages).depth = kind.normalThreshold :=
      UInt64.toNat_inj.mp (shows'.depth.trans same)
    obtain ⟨graded, band⟩ := levelAt_normalThreshold kind
    rw [level, shows'.kind, exact', same]
    exact ⟨graded, band⟩

/-- A client has fallen behind by sixty frames and then reads ten. -/
def slowReader : List Passage := List.replicate 60 .entry ++ List.replicate 10 .exit

theorem shows_use_slowReader :
    Proper slowReader ∧ slowReader.length < 2 ^ 64 ∧ (recorded .session slowReader).depth.toNat = 50 ∧
      IsGreatest (backlogs slowReader) 60 ∧ (recorded .session slowReader).processed.toNat = 10 ∧
      (recorded .session slowReader).level = .normal ∧ ActorKind.session.band 50 = .warning := by
  have proper : Proper slowReader := by decide +kernel
  have few : slowReader.length < 2 ^ 64 := by decide +kernel
  have entries : slowReader.count .entry = 60 := by decide +kernel
  have exits : slowReader.count .exit = 10 := by decide +kernel
  have most : (recorded .session slowReader).peak.toNat = 60 := by decide +kernel
  have left : backlog slowReader = 50 := by rw [backlog, entries, exits]
  obtain ⟨depth, peak, processed, _, threshold⟩ := shows_use .session proper few
  rw [entries, exits] at depth
  rw [most] at peak
  rw [exits] at processed
  rw [left] at threshold
  exact ⟨proper, few, depth, peak, processed, threshold rfl⟩

/-- The registry has just as many messages before it as the band of warnings begins with, and is graded normal. -/
theorem not_graded_by_band :
    ¬∀ kind passages, Proper passages → passages.length < 2 ^ 64 →
      (recorded kind passages).level = kind.band (backlog passages) := by
  intro graded
  have level := graded .registry (List.replicate 200 .entry) (by decide +kernel) (by decide +kernel)
  revert level
  decide +kernel

end Mailbox

end Scrimmage
