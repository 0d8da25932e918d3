import Scrimmage.Proofs.Views

namespace Scrimmage

namespace Registry

/-- Nothing has changed but how often things were counted. Requests that are refused and requests for what is so
already come to this, so that a run is the same without them. -/
structure Unchanged (r after : Registry) : Prop where
  names : after.games.keys = r.games.keys
  /-- The games are the same ones, with the same rosters. -/
  games : ∀ name, (after.games.find? name).map (fun h => (h.generation, h.fixture)) =
    (r.games.find? name).map (fun h => (h.generation, h.fixture))
  members : after.members = r.members
  unjoined : after.unjoined = r.unjoined
  capacity : after.capacity = r.capacity
  standing : after.standing = r.standing
  depth : after.mailbox.depth = r.mailbox.depth
  outboxes : after.exchange.outboxes = r.exchange.outboxes
  /-- The count of games is the same. -/
  active : after.exchange.telemetry.games = r.exchange.telemetry.games
  abandoned : after.abandoned = r.abandoned

namespace Unchanged

theorem same (r : Registry) : r.Unchanged r := ⟨rfl, fun _ => rfl, rfl, rfl, rfl, rfl, rfl, rfl, rfl, rfl⟩

theorem closed {r after : Registry} (unchanged : r.opened.Unchanged after) : r.Unchanged after.closed where
  names := unchanged.names
  games := unchanged.games
  members := unchanged.members
  unjoined := unchanged.unjoined
  capacity := unchanged.capacity
  standing := unchanged.standing
  depth := by
    have depth := unchanged.depth
    simp only [opened, Mailbox.enqueue] at depth
    simp [Registry.closed, measure, Mailbox.dequeue, depth]
  outboxes := unchanged.outboxes
  active := unchanged.active
  abandoned := unchanged.abandoned

theorem put {r : Registry} {name : String} {h : HostedGame} (hosts : r.Hosts name h) (f : Telemetry → Telemetry)
    (sessions : (f r.exchange.telemetry).sessions = r.exchange.telemetry.sessions)
    (active : (f r.exchange.telemetry).games = r.exchange.telemetry.games) :
    r.Unchanged (r.put name (h.handled h.game) (r.exchange.measure f)) where
  names := Table.keys_modify ..
  games other := by
    rw [find?_put hosts]
    split
    · rename_i here
      rw [here, hosts.found, Option.map_some, Option.map_some, HostedGame.fixture_handled]
      rfl
    · rfl
  members := rfl
  unjoined := rfl
  capacity := rfl
  standing := by
    simp only [Registry.standing, Registry.put, Exchange.measure, sessions]
    rfl
  depth := rfl
  outboxes := rfl
  active := active
  abandoned := rfl

theorem fixture? {r after : Registry} (unchanged : r.Unchanged after) (name : String) :
    after.fixture? name = r.fixture? name := by
  have same := congrArg (Option.map Prod.snd) (unchanged.games name)
  rw [Option.map_map, Option.map_map] at same
  exact same

/-- What changes nothing comes to no change, though generations may have been given out. -/
theorem undergoes {r after : Registry} {change : Change} (unchanged : r.Unchanged after)
    (undergoes : r.Undergoes change after) : r.Undergoes {} after where
  member c := by rw [unchanged.members]
  fixture := unchanged.fixture?
  outbox s := by
    rw [Exchange.outbox?, Exchange.outbox?, unchanged.outboxes]
    exact Option.map_id'.symm
  standing := unchanged.standing
  capacity := unchanged.capacity
  depth := unchanged.depth
  ref := ref_of_kept fun name h found => by
    have same := unchanged.games name
    rw [found, Option.map_some] at same
    obtain ⟨k, before, both⟩ := Option.map_eq_some_iff.mp same.symm
    exact ⟨k, before, (congrArg Prod.fst both).symm⟩
  later := undergoes.later
  fresh name absent there := (there ((unchanged.fixture? name).trans absent)).elim
  listed := undergoes.listed

theorem handle {r : Registry} {q : RegistryRequest} (unchanged : r.opened.Unchanged (r.opened.answer q).2) :
    r.Unchanged (r.handle q).2 := by
  cases running : r.running with
  | false =>
    rw [handle_stopped running]
    exact .same r
  | true =>
    rw [handle_running running]
    exact unchanged.closed

end Unchanged

/-- An application that is refused has no effect, also not if a game was created for it. -/
theorem Joins.unchanged {r after : Registry} {a : Application} {failure : Failure}
    (joins : r.Joins a (.error failure) after) : r.Unchanged after := by
  cases joins with
  | draining | unknown | elsewhere | stopped => exact .same r
  | refused _ _ _ hosts _ => exact .put hosts _ rfl rfl
  | refusedNew =>
    exact { Unchanged.same r with
      active := by
        simp [Exchange.measure, Telemetry.gameCreated, Telemetry.messageHandled, Telemetry.gameRemoved,
          Telemetry.record] }

end Registry

/-- The answer to an application that is turned down. -/
def Reply.isRefusal : Reply → Bool
  | .registry (.ok (.joined (.error _))) => true
  | _ => false

theorem Reply.isRefusal_iff {reply : Reply} :
    reply.isRefusal = true ↔ ∃ failure, reply = .registry (.ok (.joined (.error failure))) := by
  constructor
  · intro refusal
    unfold isRefusal at refusal
    split at refusal
    · exact ⟨_, rfl⟩
    · cases refusal
  · rintro ⟨failure, rfl⟩
    rfl

/-- The step is a request that is refused or that asks for what is so already, or it is a look at games of which
none has stopped. -/
def Step.isIdle (step : Step) : Bool :=
  let r := step.before.registry
  match step.act with
  | .request (.register c _) => r.members.contains c
  | .request (.unregister c) => !r.members.contains c
  | .request (.join _) => step.reply.isRefusal
  | .message c n (.leave d) => !((step.before.entries c)[n]?.bind r.reached?).any (d ∈ ·.game.members)
  | .check => r.stoppedGames.isEmpty
  | _ => false

namespace Step

variable {step : Step}

theorem leave_unchanged {h : Hall} (regular : h.Regular) {c d : ConnectionId} {n : Nat}
    (idle : (⟨h, .message c n (.leave d)⟩ : Step).isIdle = true) :
    h.registry.Unchanged (h.perform (.message c n (.leave d))).2.registry := by
  rw [Hall.perform]
  cases entry : (h.entries c)[n]? with
  | none => exact .same h.registry
  | some ref =>
    dsimp only
    cases reached : h.registry.reached? ref with
    | none =>
      rw [Registry.askGame_lost reached]
      exact .same h.registry
    | some f =>
      have stranger : d ∉ f.game.members := by simpa [isIdle, entry, reached] using idle
      obtain ⟨k, hosts, generation, rfl⟩ := Registry.reached?_eq_some reached
      obtain ⟨name, _⟩ := ref
      subst generation
      have absent : k.game.teamOf.find? d = none := by
        have sound := regular.sound name k.fixture (Registry.fixture?_of_find? hosts.found)
        cases cached : k.game.teamOf.find? d with
        | none => rfl
        | some team => exact absurd (Game.mem_members_iff.mpr ⟨team, (sound.cached d team).mp cached⟩) stranger
      rw [Registry.askGame, Registry.sendTo_hosts hosts]
      simp only [Game.answer, Game.leave_of_none absent]
      exact .put hosts _ rfl rfl

theorem join_unchanged {r : Registry} {a : Application} {failure : Failure}
    (refused : (r.handle (.join a)).1.map (·.shown) = .ok (.joined (.error failure))) :
    r.opened.Unchanged (r.opened.answer (.join a)).2 := by
  have running : r.running = true := by
    cases running : r.running with
    | true => rfl
    | false =>
      rw [Registry.handle_stopped running] at refused
      cases refused
  rw [Registry.handle_running running] at refused
  have joins := r.opened.join_joins a
  simp only [Registry.answer] at refused ⊢
  cases outcome : (r.opened.join a).1 with
  | error failure' =>
    rw [outcome] at joins
    exact joins.unchanged
  | ok admission =>
    rw [outcome] at refused
    cases refused

theorem unchanged (regular : step.before.Regular) (idle : step.isIdle = true) :
    step.before.registry.Unchanged step.after.registry := by
  obtain ⟨h, act⟩ := step
  cases act with
  | request q =>
    cases q with
    | register c session =>
      obtain ⟨m, known⟩ := Table.mem_keys_iff.mp (Table.contains_iff.mp idle)
      have known : h.registry.opened.members.find? c = some m := known
      refine .handle ?_
      rw [Registry.answer, Registry.register_known known]
      exact .same _
    | unregister c =>
      have unknown : h.registry.opened.members.find? c = none :=
        Table.contains_eq_false_iff.mp (Bool.not_eq_true' _ |>.mp idle)
      refine .handle ?_
      rw [Registry.answer, Registry.unregister_unknown unknown]
      exact .same _
    | join a =>
      obtain ⟨failure, reply⟩ := Reply.isRefusal_iff.mp idle
      exact .handle (join_unchanged (Reply.registry.inj reply))
    | _ => cases idle
  | message c n q =>
    cases q with
    | leave d => exact leave_unchanged regular idle
    | _ => cases idle
  | check =>
    rw [Step.after, Hall.perform, Registry.reap_eq_self (List.isEmpty_iff.mp idle)]
    exact .same _
  | _ => cases idle

theorem entries_eq (idle : step.isIdle = true) : step.after.entries = step.before.entries := by
  obtain ⟨h, act⟩ := step
  by_cases request : ∃ q, act = .request q
  · obtain ⟨q, rfl⟩ := request
    have nobody : ∀ c, q.entrance? c (h.registry.handle q).1 = none := by
      intro c
      rw [← Option.isNone_iff_eq_none, ← Option.not_isSome, ← RegistryRequest.isSome_entrance?_shown]
      cases q with
      | join a =>
        obtain ⟨failure, reply⟩ := Reply.isRefusal_iff.mp idle
        rw [Reply.registry.inj reply]
        rfl
      | _ =>
        unfold RegistryRequest.entrance?
        split <;> rfl
    funext c
    simp only [after, Hall.perform, nobody, Option.toList_none, List.append_nil]
  · exact h.entries_perform fun q same => request ⟨q, same⟩

end Step

namespace Hall

/-- Applications that are refused, and requests for what is so already, leave everything as it was, and put
nothing into any queue. A run without them, or without some of them, is the same: all else is answered alike, and
every queue gets the same. -/
theorem idle_steps_change_nothing (capacity : Nat) (outboxes : List Outbox) (acts : List (Bool × Act)) :
    (∀ step ∈ (start capacity outboxes).steps acts, step.2.isIdle = true →
      step.2.before.registry.Unchanged step.2.after.registry ∧ step.2.after.entries = step.2.before.entries ∧
        ∀ s, step.2.queued s = []) ∧
      ((∀ step ∈ (start capacity outboxes).steps acts, step.1 = false → step.2.isIdle = true) →
        (start capacity outboxes).Undisturbed .all (start capacity outboxes) acts) := by
  have regular := start_regular capacity outboxes
  constructor
  · intro step member idle
    have unchanged := step.2.unchanged (regular.steps member) idle
    refine ⟨unchanged, step.2.entries_eq idle, fun s => Step.queued_eq_nil ?_⟩
    rw [Exchange.outbox?, Exchange.outbox?, unchanged.outboxes]
  · intro idle
    refine undisturbed (fun h h' => h.Alike .all h' ∧ h.Regular ∧ h'.Regular)
      (fun mark step => mark = false → step.isIdle = true) And.left ?_ ?_
      ⟨.of_registry (.rfl .all _) (fun _ => rfl) (fun _ => rfl), regular, regular⟩ idle
    · rintro h h' act ⟨alike, regular, regular'⟩ _
      obtain ⟨reply, next⟩ := alike.within regular regular' act.within_all
      exact ⟨reply, next, regular.perform act, regular'.perform act⟩
    · rintro h h' act ⟨alike, regular, regular'⟩ idle
      have unchanged := Step.unchanged regular (idle rfl)
      have entries := Step.entries_eq (idle rfl)
      refine ⟨alike.drop regular regular' (unchanged.undergoes (h.perform_undergoes act)) (.same .all _) ?_,
        regular.perform act, regular'⟩
      exact fun c _ => congrFun entries c

/-- Two connections before games without places. The one that tries to join is refused, with the game that was
created for it, and so are all who ask for what is so already. -/
def crowd : List (Bool × Act) :=
  [(true, .request (.register ⟨1⟩ ⟨⟨1⟩, 0⟩)), (false, .request (.join ⟨⟨1⟩, "ring", "Ada", .first, none⟩)),
    (false, .request (.register ⟨1⟩ ⟨⟨1⟩, 1⟩)), (false, .request (.unregister ⟨2⟩)), (false, .check),
    (true, .request (.register ⟨2⟩ ⟨⟨2⟩, 1⟩)), (true, .request .summary)]

theorem idle_steps_change_nothing_crowd :
    (∀ step ∈ (start 0 [.empty, .empty]).steps crowd, step.1 = false → step.2.isIdle = true) ∧
      (start 0 [.empty, .empty]).Undisturbed .all (start 0 [.empty, .empty]) crowd := by
  have idle : ∀ step ∈ (start 0 [.empty, .empty]).steps crowd, step.1 = false → step.2.isIdle = true := by decide
  exact ⟨idle, (idle_steps_change_nothing 0 [.empty, .empty] crowd).2 idle⟩

end Hall

end Scrimmage
