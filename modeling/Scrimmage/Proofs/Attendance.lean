import Scrimmage.Proofs.Supervision

namespace Scrimmage

namespace Registry

/-- A registry between two messages, whether it goes on or has stopped, and whether or not games have stopped.
Who is in a game that is there is registered and recorded in it, and a registry that goes on has not been told
to stop. -/
structure Attended (r : Registry) : Prop where
  supervised : r.Supervised fun _ _ => True
  seated : ∀ name f team c p, r.fixture? name = some f → (f.game.side team).find? c = some p →
    ∃ m, r.members.find? c = some m ∧ m.game = some name
  awake : r.running = true → r.cancelled = false

/-- What remains of `Attended` when the registry may have been told to stop and goes on. It does so between a
message and the end that follows it. -/
structure Housed (r : Registry) : Prop where
  supervised : r.Supervised fun _ _ => True
  seated : ∀ name f team c p, r.fixture? name = some f → (f.game.side team).find? c = some p →
    ∃ m, r.members.find? c = some m ∧ m.game = some name

theorem Attended.housed {r : Registry} (attended : r.Attended) : r.Housed := ⟨attended.supervised, attended.seated⟩

theorem create_attended (capacity : Nat) : (create capacity).Attended where
  supervised := Hall.start_supervised capacity [] _
  seated name f team c p there := by cases there
  awake _ := rfl

namespace Supervised

variable {r : Registry} (supervised : r.Supervised fun _ _ => True)

include supervised

theorem handle (q : RegistryRequest) : (r.handle q).2.Supervised fun _ _ => True := by
  have ordinary : (Act.request q).Ordinary := trivial
  have handled := Hall.supervised_perform (h := ⟨r, fun _ => []⟩) supervised ordinary
  exact handled.imp fun _ _ _ _ => trivial

theorem finish_housed : r.finish.Housed where
  supervised := {
    listed := r.finish_undergoes.listed supervised.listed
    holds := fun name f there => by cases (r.fixture?_finish name).symm.trans there
    seated := fun name f team c p there => by cases (r.fixture?_finish name).symm.trans there
    recorded := fun _ _ _ => Or.inr trivial }
  seated name f team c p there := by cases (r.fixture?_finish name).symm.trans there

/-- When the registry has looked after its games, none is left that has stopped. -/
theorem reap_housed : r.reap.Housed := by
  obtain ⟨reaped, running⟩ := supervised.reap r.reap_undergoes
  refine ⟨reaped.imp fun _ _ _ _ => trivial, fun name f team c p there seated => ?_⟩
  obtain ⟨m, known, inside, _⟩ := reaped.seated name f team c p there (running name f there) seated
  exact ⟨m, known, inside⟩

theorem finish : r.finish.Attended :=
  { supervised.finish_housed with awake := fun running => absurd running Bool.false_ne_true }

theorem cancelAll : r.cancelAll.Supervised fun _ _ => True :=
  supervised.of_same (r.cancelAll_undergoes.listed supervised.listed) rfl (fun _ => rfl) fun _ => rfl

/-- What follows a message leaves no game that has stopped, and no registry that was told to stop. -/
theorem turn : r.turn.Attended := by
  rw [Registry.turn]
  split
  · exact supervised.reap_housed.supervised.finish
  · rename_i on
    exact { supervised.reap_housed with awake := fun _ => Bool.eq_false_of_not_eq_true on }

end Supervised

namespace Housed

variable {r after : Registry} (housed : r.Housed)

include housed

theorem of_same (listed : after.Listed) (capacity : after.capacity = r.capacity)
    (member : ∀ c, after.members.find? c = r.members.find? c)
    (fixture : ∀ name, after.fixture? name = r.fixture? name) : after.Housed where
  supervised := housed.supervised.of_same listed capacity member fixture
  seated name f team c p there seated := by
    rw [fixture] at there
    rw [member]
    exact housed.seated name f team c p there seated

theorem queues (x : Exchange) : { r with exchange := x }.Housed :=
  housed.of_same ⟨housed.supervised.listed.unjoined_iff, housed.supervised.listed.nodup⟩ rfl (fun _ => rfl) fun _ => rfl

theorem askGame (ref : GameRef) {q : GameRequest} (isOpen : q.Open) : (r.askGame ref q).2.Housed := by
  obtain ⟨outbox, undergoes⟩ := r.askGame_still ref isOpen
  exact housed.of_same (undergoes.listed housed.supervised.listed) undergoes.capacity undergoes.member undergoes.fixture

/-- The players of a game that stops stay registered until the registry finds out. -/
theorem halt (name : String) : (r.halt name).Housed where
  supervised := housed.supervised.halt (r.halt_undergoes name)
  seated other f team c p there seated := by
    have undergoes := r.halt_undergoes name
    rw [undergoes.fixture] at there
    rw [undergoes.member]
    dsimp only at there
    split at there
    · obtain ⟨f₀, before, rfl⟩ := Option.map_eq_some_iff.mp there
      exact housed.seated other f₀ team c p before seated
    · exact housed.seated other f team c p there seated

/-- In every game there is someone who is registered and recorded in it. -/
theorem peopled {name : String} {h : HostedGame} (found : r.games.find? name = some h) :
    ∃ c m, c ∈ h.game.members ∧ r.members.find? c = some m ∧ m.game = some name := by
  have there := fixture?_of_find? found
  obtain ⟨team, c, p, seated⟩ := (housed.supervised.holds name _ there).exists_player
  obtain ⟨m, known, inside⟩ := housed.seated name _ team c p there seated
  exact ⟨c, m, Game.mem_members_of_find? seated, known, inside⟩

end Housed

namespace Attended

variable {r after : Registry} (attended : r.Attended)

include attended

theorem awake_of_standing (same : after.standing = r.standing) (running : after.running = true) :
    after.cancelled = false :=
  (congrArg Standing.cancelled same).trans (attended.awake ((congrArg Standing.running same).symm.trans running))

theorem queues (x : Exchange) : { r with exchange := x }.Attended :=
  { attended.housed.queues x with awake := attended.awake }

theorem ask (q : RegistryRequest) : (r.ask q).2.Attended := by
  rw [ask_eq_handle]
  simp only
  split
  · exact (attended.supervised.handle q).turn
  · exact attended

theorem askGame (ref : GameRef) {q : GameRequest} (isOpen : q.Open) : (r.askGame ref q).2.Attended := by
  obtain ⟨outbox, undergoes⟩ := r.askGame_still ref isOpen
  exact { attended.housed.askGame ref isOpen with awake := attended.awake_of_standing undergoes.standing }

theorem halt (name : String) : (r.halt name).Attended :=
  { attended.housed.halt name with awake := attended.awake_of_standing (r.halt_undergoes name).standing }

theorem cancel : r.cancel.Attended := by
  rw [Registry.cancel]
  split
  · exact attended.supervised.cancelAll.finish
  · exact attended

theorem not_mem {c : ConnectionId} (unknown : r.members.find? c = none) {name : String} {h : HostedGame}
    (found : r.games.find? name = some h) : c ∉ h.game.members := by
  intro player
  obtain ⟨team, key⟩ := Game.mem_members_iff.mp player
  obtain ⟨p, seated⟩ := Table.mem_keys_iff.mp key
  obtain ⟨m, known, _⟩ := attended.seated name h.fixture team c p (fixture?_of_find? found) seated
  cases unknown.symm.trans known

theorem peopled {name : String} {h : HostedGame} (found : r.games.find? name = some h) :
    ∃ c m, c ∈ h.game.members ∧ r.members.find? c = some m ∧ m.game = some name :=
  attended.housed.peopled found

end Attended

/-- What a registry comes to that handles a request and does what follows. The members are what the request
makes of them, and no queue goes. -/
structure Asked (r : Registry) (q : RegistryRequest) (after : Registry) : Prop where
  member : ∀ c, after.members.find? c = (r.requestChange q).member c (r.members.find? c)
  queue : ∀ s, (after.exchange.outbox? s).isSome = (r.exchange.outbox? s).isSome
  sessions : after.exchange.telemetry.sessions = r.exchange.telemetry.sessions
  running : (∀ timeout, q ≠ .shutdown timeout) → after.running = true

theorem standing_requestChange (r : Registry) (q : RegistryRequest) (t : Standing) :
    ((r.requestChange q).standing t).sessions = t.sessions ∧
      ((r.requestChange q).standing t).running = t.running ∧
      ((∀ timeout, q ≠ .shutdown timeout) → ((r.requestChange q).standing t).cancelled = t.cancelled) := by
  cases q with
  | join a =>
    simp only [requestChange]
    split
    · exact ⟨rfl, rfl, fun _ => rfl⟩
    · exact ⟨rfl, rfl, fun _ => rfl⟩
  | shutdown timeout => exact ⟨rfl, rfl, fun stays => absurd rfl (stays timeout)⟩
  | _ => exact ⟨rfl, rfl, fun _ => rfl⟩

theorem ask_asked {r : Registry} (running : r.running = true) (awake : r.cancelled = false) (q : RegistryRequest) :
    r.Asked q (r.ask q).2 := by
  have handled := r.handle_undergoes q
  rw [if_pos running] at handled
  have reaped := (r.handle q).2.reap_undergoes
  have ended := (r.handle q).2.reap.finish_undergoes
  obtain ⟨sessions, goes, on⟩ := r.standing_requestChange q r.standing
  rw [← handled.standing] at sessions goes on
  have kept : (r.handle q).2.reap.standing = (r.handle q).2.standing := reaped.standing
  have queue : ∀ s, ((r.handle q).2.reap.exchange.outbox? s).isSome = (r.exchange.outbox? s).isSome := by
    intro s
    rw [reaped.outbox, handled.outbox, Option.isSome_map, Option.isSome_map]
  have member : ∀ c, (r.handle q).2.reap.members.find? c = (r.requestChange q).member c (r.members.find? c) := by
    intro c
    rw [reaped.member, handled.member]
    rfl
  rw [ask_eq_handle]
  simp only [running, if_true, turn]
  split
  · rename_i cancelled
    exact {
      member := fun c => by
        rw [ended.member, ← member]
        rfl
      queue := fun s => by rw [ended.outbox, Option.isSome_map, queue]
      sessions := by
        have same : (r.handle q).2.reap.finish.standing.sessions = (r.handle q).2.reap.standing.sessions := by
          rw [ended.standing]
          rfl
        exact same.trans ((congrArg Standing.sessions kept).trans sessions)
      running := by
        intro stays
        have still : (r.handle q).2.reap.cancelled = false :=
          (congrArg Standing.cancelled kept).trans ((on stays).trans awake)
        cases still.symm.trans cancelled }
  · exact ⟨member, queue, (congrArg Standing.sessions kept).trans sessions,
      fun _ => (congrArg Standing.running kept).trans (goes.trans running)⟩

theorem ask_stopped {r : Registry} (stopped : r.running = false) (q : RegistryRequest) : (r.ask q).2 = r := by
  rw [ask_eq_handle, stopped]
  rfl

end Registry

end Scrimmage
