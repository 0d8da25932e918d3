import Scrimmage.Proofs.Gauge
import Scrimmage.Proofs.Succession

namespace Scrimmage

theorem TokenTree.isCancelled_of_root {t : TokenTree} (root : t.cancelled = true) {token : Nat}
    (derived : token < t.derived) : t.isCancelled token = true := by
  simp [isCancelled, t.inherited root, derived]

namespace Registry

/-- How many games have gone. -/
def gone (r after : Registry) : Nat := (r.games.keys.filter (· ∉ after.games.keys)).length

theorem verdict_draining {r : Registry} (closed : r.accepting = false) (a : Application) :
    r.verdict a = .error .draining := by
  rw [verdict, closed]
  rfl

theorem mem_games_iff {r : Registry} {name : String} : name ∈ r.games.keys ↔ ∃ ref, r.gameRef? name = some ref := by
  simp only [Table.mem_keys_iff, gameRef?, Option.map_eq_some_iff]
  constructor
  · rintro ⟨h, found⟩
    exact ⟨_, h, found, rfl⟩
  · rintro ⟨_, h, found, _⟩
    exact ⟨h, found⟩

theorem size_of_subset {r after : Registry} (subset : ∀ name ∈ after.games.keys, name ∈ r.games.keys) :
    r.games.size = r.gone after + after.games.size := by
  have kept : (r.games.keys.filter (· ∈ after.games.keys)).length = after.games.keys.length := by
    refine length_eq_of_mem_iff (r.games.keys_nodup.filter _) after.games.keys_nodup fun name => ?_
    rw [List.mem_filter, decide_eq_true_eq]
    exact and_iff_right_of_imp (subset name)
  have parts := List.length_eq_length_filter_add (l := r.games.keys) (· ∈ after.games.keys)
  rw [kept, Table.keys_length, Table.keys_length] at parts
  simp only [gone, decide_not]
  omega

end Registry

namespace Hall

theorem Reachable.regular {capacity : Nat} {h : Hall} (reachable : Reachable capacity h) : h.Regular := by
  induction reachable with
  | start outboxes => exact start_regular capacity outboxes
  | perform _ _ regular => exact regular.perform _

theorem Reachable.gauged {capacity : Nat} {h : Hall} (reachable : Reachable capacity h) : h.registry.Gauged := by
  induction reachable with
  | start outboxes => exact start_gauged capacity outboxes
  | perform _ _ gauged => exact gauged_perform gauged _

theorem running_perform {h : Hall} (stopped : h.registry.running = false) (act : Act) :
    (h.perform act).2.registry.running = false := by
  have undergoes := h.perform_undergoes act
  have still : ((h.change act).standing h.registry.standing).running = false := by
    have running : h.registry.standing.running = false := stopped
    cases act with
    | request q => simp only [change, stopped, Bool.false_eq_true, if_false, id, running]
    | message c n q =>
      simp only [change]
      split
      · exact running
      · simp only [Registry.messageChange]
        split <;> exact running
    | wind => simp only [change, stopped, Bool.and_false, Bool.false_eq_true, if_false, id, running]
    | _ => exact running
  rwa [← undergoes.standing] at still

theorem Reachable.abandoned {capacity : Nat} {h : Hall} (reachable : Reachable capacity h)
    (running : h.registry.running = true) : h.registry.abandoned = [] := by
  induction reachable with
  | start => rfl
  | @perform h act _ _ ih =>
    have before : h.registry.running = true := by
      by_contra stopped
      cases running.symm.trans (running_perform (Bool.eq_false_of_not_eq_true stopped) act)
    by_cases ends : act = .wind
    · subst ends
      simp only [Hall.perform, Registry.wind] at running ⊢
      split at running
      · cases running
      · rename_i idle
        rw [if_neg idle]
        exact ih before
    · exact (h.abandoned_perform ends).trans (ih before)

/-- A game that is not there does not begin once applicants are not taken. -/
theorem fixture_none {h : Hall} (closed : h.registry.running = true → h.registry.accepting = false) (act : Act)
    (name : String) : (h.change act).fixture name none = none := by
  cases act with
  | request q =>
    simp only [change]
    split
    · rename_i running
      cases q with
      | unregister c =>
        simp only [Registry.requestChange, Change.unregister]
        split <;> rfl
      | join a => simp only [Registry.requestChange, Registry.verdict_draining (closed running)]
      | _ => rfl
    · rfl
  | message c n q =>
    simp only [change]
    split
    · rfl
    · simp only [Registry.messageChange]
      split
      · rfl
      · simp only [Change.message]
        split <;> rfl
  | halt other =>
    simp only [change]
    split <;> rfl
  | check =>
    simp only [change, Change.reap]
    split <;> rfl
  | wind =>
    simp only [change]
    split <;> rfl
  | _ => rfl

/-- The hall after its registry has been told to stop. -/
def shut (h : Hall) (timeout : Nat) : Hall := (h.perform (.request (.shutdown timeout))).2

/-- A registry `h` that was told to stop in `before` and has not noticed yet. It takes no applicants, so that
its games are among those of `before`, and the gauge still counts each of them. -/
structure Winding (before h : Hall) : Prop where
  running : h.registry.running = true
  accepting : h.registry.accepting = false
  cancelled : h.registry.cancelled = true
  gauged : h.registry.Gauged
  abandoned : h.registry.abandoned = before.registry.abandoned
  games : ∀ name ref, h.registry.gameRef? name = some ref → before.registry.gameRef? name = some ref
  later : before.registry.nextGeneration ≤ h.registry.nextGeneration

namespace Winding

variable {before h : Hall} (winding : before.Winding h)

include winding

theorem standing {act : Act} (ordinary : act.Ordinary) :
    ((h.change act).standing h.registry.standing).running = true ∧
      ((h.change act).standing h.registry.standing).accepting = false ∧
      ((h.change act).standing h.registry.standing).cancelled = true := by
  have still : h.registry.standing.running = true ∧ h.registry.standing.accepting = false ∧
      h.registry.standing.cancelled = true := ⟨winding.running, winding.accepting, winding.cancelled⟩
  cases act with
  | request q =>
    simp only [change, winding.running, if_true]
    cases q with
    | join a =>
      simp only [Registry.requestChange, Registry.verdict_draining winding.accepting]
      exact still
    | shutdown => exact ⟨winding.running, rfl, rfl⟩
    | _ => exact still
  | message c n q =>
    simp only [change]
    split
    · exact still
    · simp only [Registry.messageChange]
      split <;> exact still
  | wind => exact ordinary.elim
  | _ => exact still

theorem perform {act : Act} (ordinary : act.Ordinary) : before.Winding (h.perform act).2 := by
  have undergoes := h.perform_undergoes act
  obtain ⟨running, accepting, cancelled⟩ := winding.standing ordinary
  rw [← undergoes.standing] at running accepting cancelled
  have goesOn : act ≠ .wind := by
    rintro rfl
    exact ordinary
  refine ⟨running, accepting, cancelled, gauged_perform winding.gauged act,
    (h.abandoned_perform goesOn).trans winding.abandoned, fun name ref there => ?_, winding.later.trans undergoes.later⟩
  rw [undergoes.ref] at there
  obtain ⟨f, after, there⟩ := Option.map_eq_some_iff.mp there
  cases known : h.registry.gameRef? name with
  | some ref' =>
    rw [known] at there
    exact winding.games name ref (there ▸ known)
  | none =>
    have absent : h.registry.fixture? name = none := by
      simpa only [Registry.gameRef?, Registry.fixture?, Option.map_eq_none_iff] using known
    rw [undergoes.fixture, absent, fixture_none fun _ => winding.accepting] at after
    cases after

theorem final {ι : Type} {acts : List (ι × Act)} (ordinary : ∀ act ∈ acts, act.2.Ordinary) :
    before.Winding (h.final acts) := by
  induction acts generalizing h with
  | nil => exact winding
  | cons marked acts ih =>
    obtain ⟨first, rest⟩ := List.forall_mem_cons.mp ordinary
    exact ih (winding.perform first) rest

theorem steps {ι : Type} {acts : List (ι × Act)} (ordinary : ∀ act ∈ acts, act.2.Ordinary) {step : ι × Step}
    (member : step ∈ h.steps acts) : before.Winding step.2.before := by
  induction acts generalizing h with
  | nil => cases member
  | cons marked acts ih =>
    obtain ⟨first, rest⟩ := List.forall_mem_cons.mp ordinary
    rcases List.mem_cons.mp member with rfl | later
    · exact winding
    · exact ih (winding.perform first) rest later

theorem token {name : String} {ref : GameRef} (regular : before.Regular)
    (there : before.registry.gameRef? name = some ref) : h.registry.tokens.isCancelled ref.generation = true :=
  TokenTree.isCancelled_of_root winding.cancelled ((regular.dated name ref there).trans_le winding.later)

theorem counted (gauged : before.registry.Gauged) :
    h.registry.exchange.telemetry.games =
      before.registry.exchange.telemetry.games - UInt64.ofNat (before.registry.gone h.registry) := by
  have subset : ∀ name ∈ h.registry.games.keys, name ∈ before.registry.games.keys := by
    intro name inside
    obtain ⟨ref, there⟩ := Registry.mem_games_iff.mp inside
    exact Registry.mem_games_iff.mpr ⟨ref, winding.games name ref there⟩
  rw [winding.gauged, gauged, winding.abandoned, Registry.size_of_subset subset, Nat.add_assoc,
    UInt64.ofNat_add _ (_ + _)]
  exact (add_sub_cancel_left (UInt64.ofNat _) _).symm

end Winding

/-- The hall after the registry has noticed, and has ended. -/
def ended {ι : Type} (h : Hall) (timeout : Nat) (acts : List (ι × Act)) : Hall :=
  (((h.shut timeout).final acts).perform .wind).2

end Hall

end Scrimmage
