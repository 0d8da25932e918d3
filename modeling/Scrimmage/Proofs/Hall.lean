import Scrimmage.Proofs.Upkeep

namespace Scrimmage

/-- An answer as it is understood: which of the games of one name it speaks of does not show. -/
def RegistryAnswer.shown : RegistryAnswer → RegistryAnswer
  | .joined outcome => .joined (outcome.map fun a => { a with game := { a.game with generation := 0 } })
  | answer => answer

/-- The game that a request leads a connection into, going by the answer. -/
def RegistryRequest.entrance? (q : RegistryRequest) (c : ConnectionId) :
    Except Failure RegistryAnswer → Option GameRef
  | .ok (.joined (.ok admission)) =>
    match q with
    | .join a => if a.connection = c then some admission.game else none
    | _ => none
  | _ => none

/-- Whether a connection is led into a game shows in the answer. -/
theorem RegistryRequest.isSome_entrance?_shown (q : RegistryRequest) (c : ConnectionId)
    (answer : Except Failure RegistryAnswer) :
    (q.entrance? c (answer.map (·.shown))).isSome = (q.entrance? c answer).isSome := by
  cases answer with
  | error failure => rfl
  | ok answer =>
    cases answer with
    | joined outcome =>
      cases outcome with
      | error failure => rfl
      | ok admission =>
        cases q with
        | join a => by_cases same : a.connection = c <;> simp [entrance?, RegistryAnswer.shown, Except.map, same]
        | _ => rfl
    | _ => rfl

namespace Registry

/-- Handles one message, and nothing of what follows one. -/
def handle (r : Registry) (q : RegistryRequest) : Except Failure RegistryAnswer × Registry :=
  if r.running then
    let (answer, r) := r.serve (·.answer q)
    (.ok answer, r)
  else (.error .unreachable, r)

/-- To be asked is to handle the message, and to do what follows one. -/
theorem ask_eq_handle (r : Registry) (q : RegistryRequest) :
    r.ask q = ((r.handle q).1, if r.running then (r.handle q).2.turn else r) := by
  cases running : r.running with
  | false => simp [ask, send, handle, running]
  | true => simp [ask, send, handle, running]

theorem handle_running {r : Registry} (running : r.running = true) (q : RegistryRequest) :
    r.handle q = (.ok (r.opened.answer q).1, (r.opened.answer q).2.closed) := by
  simp only [handle, running, if_true, serve, opened, closed]

theorem handle_stopped {r : Registry} (stopped : r.running = false) (q : RegistryRequest) :
    r.handle q = (.error .unreachable, r) := by
  simp only [handle, stopped, Bool.false_eq_true, if_false]

/-- Stops the game of a name. -/
def halt (r : Registry) (name : String) : Registry :=
  match r.gameRef? name with
  | none => r
  | some ref => r.stopGame ref

/-- The end of a registry that was told to stop. -/
def wind (r : Registry) : Registry := if r.cancelled && r.running then r.finish else r

end Registry

/-- A registry, with the games that each connection was let into, the first one first. Everything that can
happen to them happens one act at a time: games may stop at any time, the registry looks after them and ends
when it is its turn to do so, and sessions use their queues as they like. -/
structure Hall where
  registry : Registry
  entries : ConnectionId → List GameRef

inductive Act
  /-- The registry handles a message. -/
  | request (q : RegistryRequest)
  /-- The game that a connection was let into as its `n`-th one, counted from zero, gets a message. -/
  | message (c : ConnectionId) (n : Nat) (q : GameRequest)
  /-- Something happens to the queue of a session. -/
  | queue (s : SessionRef) (f : Outbox → Outbox)
  /-- A session that has begun is counted. -/
  | sessionOpened
  /-- A session that has ended is counted. -/
  | sessionClosed
  /-- One of the sessions sets the gauge of sessions, to what it has counted some time ago. -/
  | sessionsShown (count : UInt64)
  /-- Time passes. -/
  | pass (duration : Nat)
  /-- A game stops on its own. -/
  | halt (name : String)
  /-- The registry looks after its games. -/
  | check
  /-- The registry ends if it was told to. -/
  | wind

/-- Who is in a game is left to the registry. -/
def Act.Open : Act → Prop
  | .message _ _ q => q.Open
  | _ => True

inductive Reply
  | registry (answer : Except Failure RegistryAnswer)
  | game (answer : Except Failure GameAnswer)
  | nothing

namespace Hall

/-- A registry at its start, with some queues. -/
def start (capacity : Nat) (outboxes : List Outbox) : Hall where
  registry := { Registry.create capacity with exchange := { Exchange.empty with outboxes } }
  entries _ := []

def perform (h : Hall) : Act → Reply × Hall
  | .request q =>
    (.registry ((h.registry.handle q).1.map (·.shown)),
      { registry := (h.registry.handle q).2
        entries := fun c => h.entries c ++ (q.entrance? c (h.registry.handle q).1).toList })
  | .message c n q =>
    match (h.entries c)[n]? with
    | none => (.nothing, h)
    | some ref => (.game (h.registry.askGame ref q).1, { h with registry := (h.registry.askGame ref q).2 })
  | .queue s f =>
    (.nothing, { h with registry := { h.registry with exchange := h.registry.exchange.modifyOutbox s f } })
  | .sessionOpened => (.nothing, { h with registry := h.registry.measure (·.countOpened.2) })
  | .sessionClosed => (.nothing, { h with registry := h.registry.measure (·.countClosed.2) })
  | .sessionsShown count => (.nothing, { h with registry := h.registry.measure (·.showSessions count) })
  | .pass duration =>
    (.nothing, { h with registry := { h.registry with exchange := h.registry.exchange.pass duration } })
  | .halt name => (.nothing, { h with registry := h.registry.halt name })
  | .check => (.nothing, { h with registry := h.registry.reap })
  | .wind => (.nothing, { h with registry := h.registry.wind })

end Hall

/-- What happens, and what the hall is like before it. -/
structure Step where
  before : Hall
  act : Act

namespace Step

def reply (step : Step) : Reply := (step.before.perform step.act).1

def after (step : Step) : Hall := (step.before.perform step.act).2

/-- What is put at the end of a queue. -/
def queued (step : Step) (s : SessionRef) : List Command :=
  (step.after.registry.exchange.waiting s).drop (step.before.registry.exchange.waiting s).length

end Step

namespace Hall

/-- The steps of a run. Each act goes by a mark of one's own. -/
def steps {ι : Type} (h : Hall) : List (ι × Act) → List (ι × Step)
  | [] => []
  | (mark, act) :: rest => (mark, ⟨h, act⟩) :: steps (h.perform act).2 rest

/-- The hall after a run. -/
def final {ι : Type} (h : Hall) : List (ι × Act) → Hall
  | [] => h
  | (_, act) :: rest => final (h.perform act).2 rest

end Hall

namespace Registry

/-- The change that a request is. -/
def requestChange (r : Registry) : RegistryRequest → Change
  | .register c session => .register c session
  | .unregister c => .unregister c (r.recorded? c)
  | .join a =>
    match r.verdict a with
    | .error _ => {}
    | .ok (session, placement, game) => .seat a session placement game
  | .listing _ | .summary => {}
  | .shutdown timeout => { standing := fun t => { t with accepting := false, cancelled := true, timeout } }

/-- What a request puts into a queue: the welcome of an applicant who is let in. -/
def posts (r : Registry) (q : RegistryRequest) (s : SessionRef) : List Command :=
  match q with
  | .join a =>
    match r.verdict a with
    | .error _ => []
    | .ok (session, placement, _) => if session.queue = s.queue then [.write (Game.welcome a.id placement)] else []
  | _ => []

theorem requestChange_outbox (r : Registry) (q : RegistryRequest) (s : SessionRef) :
    (r.requestChange q).outbox s = (Exchange.extended · (r.posts q s)) := by
  have nothing : (fun o => o) = (Exchange.extended · []) := by
    funext o
    rw [Exchange.extended_nil]
  cases q with
  | join a =>
    simp only [requestChange, posts]
    split
    · exact nothing
    · rfl
  | _ => exact nothing

/-- The change that a message to a game is. -/
def messageChange (r : Registry) (ref : GameRef) (q : GameRequest) : Change :=
  match r.reached? ref with
  | none => {}
  | some f => .message ref.name f q

theorem answer_undergoes (r : Registry) (q : RegistryRequest) :
    r.Undergoes (r.requestChange q) (r.answer q).2 := by
  cases q with
  | register c session => exact r.register_undergoes c session
  | unregister c => exact r.unregister_undergoes c
  | join a =>
    have decides := r.join_decides a
    simp only [answer, requestChange]
    generalize (r.join a).1 = outcome at decides
    generalize (r.join a).2 = after at decides ⊢
    cases decides with
    | refuses verdict undergoes =>
      rw [verdict]
      exact undergoes
    | admits verdict _ _ undergoes =>
      rw [verdict]
      exact undergoes
  | listing name => exact (r.listing_spec name).2
  | summary => exact .same r
  | shutdown timeout =>
    exact { Undergoes.same r with
      standing := rfl
      ref := ref_of_kept fun _ h found => ⟨h, found, rfl⟩
      listed := fun listed => ⟨listed.unjoined_iff, listed.nodup⟩ }

/-- The answer to a request, as it is understood. -/
def requestAnswer (r : Registry) : RegistryRequest → RegistryAnswer
  | .register _ _ => .registered
  | .unregister c => .unregistered (r.members.find? c).isSome
  | .join a => .joined ((r.verdict a).map fun (_, placement, _) => { game := ⟨a.game, 0⟩, placement })
  | .listing name =>
    .listing ((r.fixture? name).map fun f => { name, players := if f.running then f.game.size else 0 })
  | .summary => .summary r.summary
  | .shutdown _ => .shutdownBegun

theorem shown_answer (r : Registry) (q : RegistryRequest) : (r.answer q).1.shown = r.requestAnswer q := by
  cases q with
  | unregister c =>
    have known : (r.unregister c).1 = (r.members.find? c).isSome := by
      rw [unregister]
      cases r.members.find? c with
      | none => rfl
      | some m =>
        dsimp only
        split <;> rfl
    exact congrArg RegistryAnswer.unregistered known
  | join a =>
    have decides := r.join_decides a
    simp only [answer, requestAnswer]
    generalize (r.join a).1 = outcome at decides
    generalize (r.join a).2 = after at decides
    cases decides with
    | refuses verdict _ =>
      rw [verdict]
      rfl
    | admits verdict name _ _ =>
      rw [verdict]
      simp only [RegistryAnswer.shown, Except.map, name]
  | listing name => exact congrArg RegistryAnswer.listing (r.listing_spec name).1
  | register | summary | shutdown => rfl

theorem shown_handle (r : Registry) (q : RegistryRequest) :
    (r.handle q).1.map (·.shown) = if r.running then .ok (r.opened.requestAnswer q) else .error .unreachable := by
  cases running : r.running with
  | false => rw [handle_stopped running]; rfl
  | true =>
    rw [handle_running running]
    exact congrArg Except.ok (r.opened.shown_answer q)

theorem handle_undergoes (r : Registry) (q : RegistryRequest) :
    r.Undergoes (if r.running then r.requestChange q else {}) (r.handle q).2 := by
  cases running : r.running with
  | false =>
    rw [handle_stopped running]
    exact .same r
  | true =>
    rw [handle_running running]
    exact (r.opened.answer_undergoes q).closed

theorem askGame_undergoes (r : Registry) (ref : GameRef) (q : GameRequest) :
    r.Undergoes (r.messageChange ref q) (r.askGame ref q).2 := by
  rw [messageChange]
  cases reached : r.reached? ref with
  | none =>
    rw [askGame_lost reached]
    exact .same r
  | some f => exact (askGame_reached reached q).2

/-- What a message to a game is answered. -/
def messageAnswer (r : Registry) (ref : GameRef) (q : GameRequest) : Except Failure GameAnswer :=
  match r.reached? ref with
  | none => .error .unreachable
  | some f => .ok (f.game.answer (f.depth + 1) .empty q).1

theorem askGame_answer (r : Registry) (ref : GameRef) (q : GameRequest) :
    (r.askGame ref q).1 = r.messageAnswer ref q := by
  rw [messageAnswer]
  cases reached : r.reached? ref with
  | none => rw [askGame_lost reached]
  | some f => exact (askGame_reached reached q).1

theorem halt_undergoes (r : Registry) (name : String) :
    r.Undergoes { fixture := fun other f => if other = name then f.map ({ · with running := false }) else f }
      (r.halt name) := by
  cases found : r.games.find? name with
  | none =>
    rw [halt, gameRef?_eq_none found]
    refine (Undergoes.same r).congr (fun _ => rfl) (fun other => ?_) (fun _ => rfl) rfl
    dsimp only
    split
    · rename_i here
      rw [here, fixture?_eq_none_iff.mpr found, Option.map_none]
    · rfl
  | some h =>
    have ref : r.gameRef? name = some ⟨name, h.generation⟩ := by rw [gameRef?, found, Option.map_some]
    simp only [halt, ref, stopGame, isRunning, found, Option.any_some, decide_true, Bool.true_and]
    split
    · have games : ∀ other, (r.games.modify name HostedGame.stop).find? other =
          if other = name then some h.stop else r.games.find? other := by
        intro other
        rw [Table.find?_modify]
        split
        · rename_i here
          rw [here, found, Option.map_some]
        · rfl
      exact { Undergoes.same r with
        fixture := by
          intro other
          simp only [fixture?, games]
          split
          · rename_i here
            rw [here, found]
            rfl
          · rfl
        ref := by
          refine ref_of_kept fun other k there => ?_
          rw [games] at there
          split at there
          · rename_i here
            cases there
            exact ⟨h, here ▸ found, rfl⟩
          · exact ⟨k, there, rfl⟩
        fresh := by
          intro other absent there
          simp only [fixture?, games] at absent there
          split at there
          · rename_i here
            rw [here, found] at absent
            cases absent
          · exact (there absent).elim
        listed := fun listed => ⟨listed.unjoined_iff, listed.nodup⟩ }
    · rename_i stopped
      refine (Undergoes.same r).congr (fun _ => rfl) (fun other => ?_) (fun _ => rfl) rfl
      dsimp only
      split
      · rename_i here
        rw [here, fixture?_of_find? found]
        simp [HostedGame.fixture, stopped]
      · rfl

theorem modifyOutbox_undergoes (r : Registry) (s : SessionRef) (f : Outbox → Outbox) :
    r.Undergoes { outbox := fun t o => if s.queue = t.queue then f o else o }
      { r with exchange := r.exchange.modifyOutbox s f } :=
  { Undergoes.same r with
    outbox := fun t => by
      simp only [Exchange.outbox?_modifyOutbox]
      split
      · rfl
      · exact Option.map_id'.symm
    ref := ref_of_kept fun _ h found => ⟨h, found, rfl⟩
    listed := fun listed => ⟨listed.unjoined_iff, listed.nodup⟩ }

theorem measure_undergoes (r : Registry) (f : Telemetry → Telemetry) (sessions : UInt64 → UInt64)
    (counted : (f r.exchange.telemetry).sessions = sessions r.exchange.telemetry.sessions) :
    r.Undergoes { standing := fun t => { t with sessions := sessions t.sessions } } (r.measure f) :=
  { Undergoes.same r with
    standing := by
      simp only [standing, measure, Exchange.measure, counted]
      rfl
    ref := ref_of_kept fun _ h found => ⟨h, found, rfl⟩
    listed := fun listed => ⟨listed.unjoined_iff, listed.nodup⟩ }

theorem pass_undergoes (r : Registry) (duration : Nat) :
    r.Undergoes {} { r with exchange := r.exchange.pass duration } :=
  { Undergoes.same r with
    ref := ref_of_kept fun _ h found => ⟨h, found, rfl⟩
    listed := fun listed => ⟨listed.unjoined_iff, listed.nodup⟩ }

end Registry

namespace Hall

/-- The change that an act is. -/
def change (h : Hall) : Act → Change
  | .request q => if h.registry.running then h.registry.requestChange q else {}
  | .message c n q =>
    match (h.entries c)[n]? with
    | none => {}
    | some ref => h.registry.messageChange ref q
  | .queue s f => { outbox := fun t o => if s.queue = t.queue then f o else o }
  | .sessionOpened => { standing := fun t => { t with sessions := t.sessions + 1 } }
  | .sessionClosed => { standing := fun t => { t with sessions := t.sessions - 1 } }
  | .sessionsShown _ | .pass _ => {}
  | .halt name =>
    { fixture := fun other f => if other = name then f.map ({ · with running := false }) else f }
  | .check => .reap h.registry.hasStopped (h.registry.membersOf h.registry.hasStopped)
  | .wind => if h.registry.cancelled && h.registry.running then h.registry.endChange else {}

/-- Only who is let in by a message knows of another game afterwards. -/
theorem entries_perform (h : Hall) {act : Act} (calm : ∀ q, act ≠ .request q) :
    (h.perform act).2.entries = h.entries := by
  cases act with
  | request q => exact absurd rfl (calm q)
  | message c n q =>
    rw [perform]
    split <;> rfl
  | _ => rfl

theorem perform_undergoes (h : Hall) (act : Act) :
    h.registry.Undergoes (h.change act) (h.perform act).2.registry := by
  cases act with
  | request q => exact h.registry.handle_undergoes q
  | message c n q =>
    rw [perform, change]
    cases (h.entries c)[n]? with
    | none => exact .same h.registry
    | some ref => exact h.registry.askGame_undergoes ref q
  | queue s f => exact h.registry.modifyOutbox_undergoes s f
  | sessionOpened => exact h.registry.measure_undergoes (·.countOpened.2) (· + 1) rfl
  | sessionClosed => exact h.registry.measure_undergoes (·.countClosed.2) (· - 1) rfl
  | sessionsShown count => exact h.registry.measure_undergoes (·.showSessions count) id rfl
  | pass duration => exact h.registry.pass_undergoes duration
  | halt name => exact h.registry.halt_undergoes name
  | check => exact h.registry.reap_undergoes
  | wind =>
    simp only [perform, change, Registry.wind]
    split
    · exact h.registry.finish_undergoes
    · exact .same h.registry

/-- A member was there before, or it has just been registered, or it has just been let into a game. -/
theorem member_origin {h : Hall} {act : Act} {c : ConnectionId} {m : Member}
    (known : (h.perform act).2.registry.members.find? c = some m) :
    h.registry.members.find? c = some m ∨
      (∃ session, act = .request (.register c session) ∧ m = { game := none, session }) ∨
      ∃ a m₀, act = .request (.join a) ∧ a.connection = c ∧ h.registry.members.find? c = some m₀ ∧
        m = { m₀ with game := some a.game } := by
  rw [(h.perform_undergoes act).member] at known
  cases act with
  | request q =>
    simp only [change] at known
    split at known
    · cases q with
      | register d session =>
        simp only [Registry.requestChange, Change.register] at known
        split at known
        · rename_i here
          subst here
          cases before : h.registry.members.find? c with
          | none =>
            rw [before] at known
            exact Or.inr (Or.inl ⟨session, rfl, (Option.some.inj known).symm⟩)
          | some m₀ =>
            rw [before] at known
            exact Or.inl known
        · exact Or.inl known
      | unregister d =>
        simp only [Registry.requestChange, Change.unregister] at known
        split at known
        · cases known
        · exact Or.inl known
      | join a =>
        simp only [Registry.requestChange] at known
        split at known
        · exact Or.inl known
        · simp only [Change.seat] at known
          split at known
          · rename_i here
            obtain ⟨m₀, before, rfl⟩ := Option.map_eq_some_iff.mp known
            exact Or.inr (Or.inr ⟨a, m₀, rfl, here.symm, before, rfl⟩)
          · exact Or.inl known
      | _ => exact Or.inl known
    · exact Or.inl known
  | message d n q =>
    simp only [change] at known
    split at known
    · exact Or.inl known
    · simp only [Registry.messageChange] at known
      split at known <;> exact Or.inl known
  | wind =>
    simp only [change] at known
    split at known <;> exact Or.inl known
  | _ => exact Or.inl known

end Hall

namespace Registry

/-- Every game that is there has sound rosters. -/
def SoundGames (r : Registry) : Prop := ∀ name f, r.fixture? name = some f → f.game.Sound

theorem SoundGames.gameFor? {r : Registry} (sound : r.SoundGames) {name : String} {g : Game}
    (found : r.gameFor? name = some g) : g.Sound := by
  rw [Registry.gameFor?] at found
  split at found
  · cases found
    exact Game.create_sound name r.capacity
  · rename_i f there
    split at found
    · cases found
      exact sound name f there
    · cases found

theorem SoundGames.requestChange {r : Registry} (sound : r.SoundGames) (q : RegistryRequest) {name : String}
    {f : Fixture} (after : (r.requestChange q).fixture name (r.fixture? name) = some f) : f.game.Sound := by
  cases q with
  | unregister c =>
    simp only [Registry.requestChange, Change.unregister] at after
    split at after
    · obtain ⟨k, there, without⟩ := Option.bind_eq_some_iff.mp after
      have before := sound name k there
      rw [Fixture.without] at without
      split at without
      · split at without
        · cases without
        · cases without
          exact before.handles (k.game.answer_handles 0 .empty (.leave c))
      · cases without
        exact before
    · exact sound name f after
  | join a =>
    simp only [Registry.requestChange] at after
    split at after
    · exact sound name f after
    · rename_i session placement game verdict
      simp only [Change.seat] at after
      split at after
      · cases after
        obtain ⟨m, g, _, _, _, found, admits, rfl⟩ := verdict_eq_ok verdict
        exact (sound.gameFor? found).entered admits
      · exact sound name f after
  | _ => exact sound name f after

theorem SoundGames.messageChange {r : Registry} (sound : r.SoundGames) (ref : GameRef) (q : GameRequest)
    {name : String} {f : Fixture} (after : (r.messageChange ref q).fixture name (r.fixture? name) = some f) :
    f.game.Sound := by
  rw [Registry.messageChange] at after
  split at after
  · exact sound name f after
  · rename_i k reached
    simp only [Change.message] at after
    split at after
    · obtain ⟨_, _, rfl⟩ := Option.map_eq_some_iff.mp after
      obtain ⟨h, hosts, _, rfl⟩ := reached?_eq_some reached
      exact (sound _ _ (fixture?_of_find? hosts.found)).handles (Game.answer_handles _ _ _ q)
    · exact sound name f after

theorem handle_joined {r : Registry} {a : Application} {admission : Admission}
    (joined : (r.handle (.join a)).1 = .ok (.joined (.ok admission))) :
    admission.game.name = a.game ∧ (r.handle (.join a)).2.gameRef? a.game = some admission.game := by
  cases running : r.running with
  | false =>
    rw [handle_stopped running] at joined
    cases joined
  | true =>
    rw [handle_running running] at joined ⊢
    have decides := r.opened.join_decides a
    simp only [answer] at joined ⊢
    cases decided : (r.opened.join a).1 with
    | error failure =>
      rw [decided] at joined
      cases joined
    | ok admission' =>
      rw [decided] at joined decides
      cases joined
      generalize (r.opened.join a).2 = after at decides ⊢
      cases decides with
      | admits _ name there _ => exact ⟨name, there⟩

theorem handle_entrance {r : Registry} {q : RegistryRequest} {c : ConnectionId} {ref : GameRef}
    (letIn : q.entrance? c (r.handle q).1 = some ref) :
    ∃ a, q = .join a ∧ a.connection = c ∧ ref.name = a.game ∧ (r.handle q).2.gameRef? a.game = some ref := by
  unfold RegistryRequest.entrance? at letIn
  split at letIn
  · rename_i admission joined
    split at letIn
    · rename_i a
      split at letIn
      · rename_i same
        cases letIn
        obtain ⟨name, there⟩ := handle_joined joined
        exact ⟨a, rfl, same, name, there⟩
      · cases letIn
    · cases letIn
  · cases letIn

end Registry

namespace Hall

/-- The list of the unjoined is right, rosters are sound, and no game is of a generation that is still to come.
Every act keeps this, whether or not the registry has stopped. -/
structure Regular (h : Hall) : Prop where
  listed : h.registry.Listed
  sound : h.registry.SoundGames
  dated : ∀ name ref, h.registry.gameRef? name = some ref → ref.generation < h.registry.nextGeneration
  entered : ∀ c, ∀ ref ∈ h.entries c, ref.generation < h.registry.nextGeneration

theorem start_regular (capacity : Nat) (outboxes : List Outbox) : (start capacity outboxes).Regular where
  listed := ⟨fun c => by simp [start, Registry.create], List.nodup_nil⟩
  sound name f found := by cases found
  dated name ref found := by cases found
  entered c ref member := by cases member

theorem Regular.change_sound {h : Hall} (regular : h.Regular) (act : Act) {name : String} {f : Fixture}
    (after : (h.change act).fixture name (h.registry.fixture? name) = some f) : f.game.Sound := by
  cases act with
  | request q =>
    simp only [change] at after
    split at after
    · exact regular.sound.requestChange q after
    · exact regular.sound name f after
  | message c n q =>
    simp only [change] at after
    split at after
    · exact regular.sound name f after
    · exact regular.sound.messageChange _ q after
  | halt other =>
    simp only [change] at after
    split at after
    · obtain ⟨k, there, rfl⟩ := Option.map_eq_some_iff.mp after
      exact regular.sound name k there
    · exact regular.sound name f after
  | check =>
    simp only [change, Change.reap] at after
    split at after
    · cases after
    · exact regular.sound name f after
  | wind =>
    simp only [change] at after
    split at after
    · cases after
    · exact regular.sound name f after
  | _ => exact regular.sound name f after

theorem Regular.perform {h : Hall} (regular : h.Regular) (act : Act) : (h.perform act).2.Regular := by
  have undergoes := h.perform_undergoes act
  have dated : ∀ name ref, (h.perform act).2.registry.gameRef? name = some ref →
      ref.generation < (h.perform act).2.registry.nextGeneration := by
    intro name ref there
    rw [undergoes.ref] at there
    obtain ⟨f, after, there⟩ := Option.map_eq_some_iff.mp there
    cases before : h.registry.gameRef? name with
    | some ref' =>
      rw [before] at there
      cases there
      exact (regular.dated name ref' before).trans_le undergoes.later
    | none =>
      rw [before] at there
      cases there
      have absent : h.registry.fixture? name = none := by
        simpa only [Registry.gameRef?, Registry.fixture?, Option.map_eq_none_iff] using before
      exact undergoes.fresh name absent (by simp [after])
  exact {
    listed := undergoes.listed regular.listed
    sound := fun name f after => regular.change_sound act (undergoes.fixture name ▸ after)
    dated := dated
    entered := by
      have old : ∀ c, ∀ ref ∈ h.entries c, ref.generation < (h.perform act).2.registry.nextGeneration :=
        fun c ref member => (regular.entered c ref member).trans_le undergoes.later
      intro c ref member
      by_cases request : ∃ q, act = .request q
      · obtain ⟨q, rfl⟩ := request
        rcases List.mem_append.mp member with before | now
        · exact old c ref before
        · obtain ⟨a, _, _, _, there⟩ := Registry.handle_entrance (Option.mem_toList.mp now)
          exact dated _ ref there
      · rw [h.entries_perform fun q same => request ⟨q, same⟩] at member
        exact old c ref member }

theorem act_of_steps {ι : Type} {h : Hall} {acts : List (ι × Act)} {step : ι × Step} (member : step ∈ h.steps acts) :
    (step.1, step.2.act) ∈ acts := by
  induction acts generalizing h with
  | nil => cases member
  | cons marked acts ih =>
    rcases List.mem_cons.mp member with rfl | later
    · exact List.mem_cons_self
    · exact List.mem_cons_of_mem _ (ih later)

theorem Regular.steps {ι : Type} {h : Hall} (regular : h.Regular) {acts : List (ι × Act)} {step : ι × Step}
    (member : step ∈ h.steps acts) : step.2.before.Regular := by
  induction acts generalizing h with
  | nil => cases member
  | cons marked acts ih =>
    rcases List.mem_cons.mp member with rfl | later
    · exact regular
    · exact ih (regular.perform marked.2) later

end Hall

namespace Registry

/-- A registry that goes on does so through everything but a shutdown and a game that stops. -/
theorem Serves.perform {h : Hall} {capacity : Nat} (serves : h.registry.Serves capacity) {act : Act}
    (isOpen : act.Open) (stays : ∀ timeout, act ≠ .request (.shutdown timeout)) (lasts : ∀ name, act ≠ .halt name) :
    (h.perform act).2.registry.Serves capacity := by
  cases act with
  | request q =>
    have goesOn : ∀ timeout, q ≠ .shutdown timeout := fun timeout same => stays timeout (same ▸ rfl)
    have asked := serves.ask goesOn
    rw [serves.ask_eq goesOn] at asked
    rw [Hall.perform, handle_running serves.running]
    exact asked
  | message c n q =>
    rw [Hall.perform]
    split
    · exact serves
    · exact serves.askGame _ isOpen
  | queue s f => exact serves.queues _
  | sessionOpened | sessionClosed | sessionsShown count | pass duration => exact serves.queues _
  | halt name => exact absurd rfl (lasts name)
  | check =>
    rw [Hall.perform, reap_eq_self (stoppedGames_eq_nil serves.coherent.all_running)]
    exact serves
  | wind =>
    simp only [Hall.perform, wind, serves.going, Bool.false_and, Bool.false_eq_true, if_false]
    exact serves

end Registry

end Scrimmage
