import Scrimmage.Proofs.Parties

namespace Scrimmage

namespace Registry

/-- A connection is in the roster of a game that goes on, with its session. -/
def OnRoster (r : Registry) (ref : GameRef) (c : ConnectionId) (s : SessionRef) : Prop :=
  ∃ f team p, r.reached? ref = some f ∧ (f.game.side team).find? c = some p ∧ p.session = s

/-- Nobody is in the game of a name. -/
def Vacant (r : Registry) (name : String) : Prop := ∀ f, r.fixture? name = some f → f.game.size = 0

/-- All games go on, and nobody has told the registry to stop. So no answer that the registry waits for is that
the game has stopped. -/
structure Fit (r : Registry) : Prop where
  awake : r.cancelled = false
  games : ∀ name f, r.fixture? name = some f → f.running = true ∧ f.game.Sound

/-- What the registry comes to when it does something about one connection or about none. All other members stay
as they are, and no queue is opened or shut. -/
structure Suits (r : Registry) (subject? : Option ConnectionId) (after : Registry) : Prop where
  fit : after.Fit
  member : ∀ c, subject? ≠ some c → after.members.find? c = r.members.find? c
  queue : ∀ s, (after.exchange.outbox? s).map (·.isOpen) = (r.exchange.outbox? s).map (·.isOpen)

end Registry

/-- What the registry may count on when it goes on with a request that it has suspended, although others have
written to games and been answered by them in the meantime. The game is still there, whoever it let in is in its
roster, and a game that is to go has nobody in it. -/
structure Duty.Holds (duty : Duty) (r : Registry) : Prop where
  begun : ∀ a s, duty.suspended = .enrol a s true → (∀ answer, duty.progress ≠ .answered answer) →
    r.Vacant duty.game.name
  empty : ∀ answer, duty.progress = .answered answer → duty.suspended.empties answer = true → r.Vacant duty.game.name
  seated : ∀ a s begun answer placement, duty.suspended = .enrol a s begun → duty.progress = .answered answer →
    SuspendedRequest.placement answer = .ok placement → r.OnRoster duty.game a.connection s

theorem GameRequest.Open.ne_leave {q : GameRequest} (isOpen : q.Open) (c : ConnectionId) : q ≠ .leave c := by
  rintro rfl
  exact isOpen

namespace Registry

variable {r after : Registry} {change : Change} {subject? : Option ConnectionId}

theorem Fit.opened (fit : r.Fit) : r.opened.Fit := ⟨fit.awake, fit.games⟩

theorem Fit.suits (fit : r.Fit) : r.Suits subject? r := ⟨fit, fun _ _ => rfl, fun _ => rfl⟩

theorem Suits.of_opened (suits : r.opened.Suits subject? after) : r.Suits subject? after :=
  ⟨suits.fit, suits.member, suits.queue⟩

theorem Fit.turn_closed (fit : r.Fit) : r.closed.turn = r.closed :=
  turn_eq_self (fun name _ found => (fit.games name _ (fixture?_of_find? found)).1) fit.awake

theorem Fit.reached?_iff (fit : r.Fit) {ref : GameRef} {f : Fixture} :
    r.reached? ref = some f ↔ r.gameRef? ref.name = some ref ∧ r.fixture? ref.name = some f := by
  rw [reached?]
  constructor
  · intro reached
    split at reached
    · rename_i here
      exact ⟨here, (Option.filter_eq_some_iff.mp reached).1⟩
    · cases reached
  · rintro ⟨here, there⟩
    rw [if_pos here, there]
    exact Option.filter_eq_some_iff.mpr ⟨rfl, (fit.games _ f there).1⟩

theorem Fit.reached?_of_ref (fit : r.Fit) {ref : GameRef} (here : r.gameRef? ref.name = some ref) :
    ∃ f, r.reached? ref = some f := by
  obtain ⟨h, found, _⟩ := gameRef?_eq_some here
  exact ⟨h.fixture, fit.reached?_iff.mpr ⟨here, fixture?_of_find? found⟩⟩

theorem Undergoes.suits (undergoes : r.Undergoes change after) (fit : r.Fit)
    (awake : ∀ t, (change.standing t).cancelled = t.cancelled)
    (member : ∀ c m, subject? ≠ some c → change.member c m = m)
    (games : ∀ name f, change.fixture name (r.fixture? name) = some f → f.running = true ∧ f.game.Sound)
    (queue : ∀ s o, (change.outbox s o).isOpen = o.isOpen) : r.Suits subject? after where
  fit := {
    awake := ((congrArg Standing.cancelled undergoes.standing).trans (awake _)).trans fit.awake
    games := fun name f there => games name f ((undergoes.fixture name).symm.trans there) }
  member c other := (undergoes.member c).trans (member c _ other)
  queue s := by
    rw [undergoes.outbox, Option.map_map]
    exact congrArg (Option.map · _) (funext (queue s))

theorem Undergoes.reached? (undergoes : r.Undergoes change after) {ref : GameRef} {f f' : Fixture}
    (reached : r.reached? ref = some f) (same : change.fixture ref.name (some f) = some f')
    (running : f'.running = true) :
    after.reached? ref = some f' := by
  rw [Registry.reached?] at reached ⊢
  split at reached
  · rename_i here
    obtain ⟨there, _⟩ := Option.filter_eq_some_iff.mp reached
    have there' : after.fixture? ref.name = some f' := by rw [undergoes.fixture, there, same]
    have here' : after.gameRef? ref.name = some ref := by
      rw [undergoes.ref, there', Option.map_some, here, Option.getD_some]
    rw [if_pos here', there']
    exact Option.filter_eq_some_iff.mpr ⟨rfl, running⟩
  · cases reached

theorem OnRoster.undergoes {ref : GameRef} {c : ConnectionId} {s : SessionRef} (on : r.OnRoster ref c s)
    (undergoes : r.Undergoes change after)
    (kept : ∀ f, r.reached? ref = some f → ∃ f', change.fixture ref.name (some f) = some f' ∧ f'.running = true ∧
      ∀ team p, (f.game.side team).find? c = some p → (f'.game.side team).find? c = some p) :
    after.OnRoster ref c s := by
  obtain ⟨f, team, p, reached, seated, own⟩ := on
  obtain ⟨f', same, running, still⟩ := kept f reached
  exact ⟨f', team, p, undergoes.reached? reached same running, still team p seated, own⟩

theorem OnRoster.undergoes_still {ref : GameRef} {c : ConnectionId} {s : SessionRef} (on : r.OnRoster ref c s)
    (fit : r.Fit)
    (undergoes : r.Undergoes change after) (still : ∀ name f, change.fixture name f = f) : after.OnRoster ref c s :=
  on.undergoes undergoes fun f reached =>
    ⟨f, still .., (fit.games _ f (fit.reached?_iff.mp reached).2).1, fun _ _ => id⟩

theorem createGame_suits (fit : r.Fit) {name : String} (absent : r.games.find? name = none) :
    r.Suits subject? (r.createGame name).2 := by
  refine (createGame_undergoes absent).suits fit (fun _ => rfl) (fun _ _ _ => rfl) (fun other f there => ?_)
    fun _ _ => rfl
  dsimp only at there
  split at there
  · cases there
    exact ⟨rfl, Game.create_sound name r.capacity⟩
  · exact fit.games other f there

theorem OnRoster.createGame {ref : GameRef} {c : ConnectionId} {s : SessionRef} (on : r.OnRoster ref c s) (fit : r.Fit)
    {name : String} (absent : r.games.find? name = none) : (r.createGame name).2.OnRoster ref c s := by
  refine on.undergoes (createGame_undergoes absent) fun f reached => ?_
  obtain ⟨_, there⟩ := fit.reached?_iff.mp reached
  have other : ref.name ≠ name := by
    intro here
    rw [here, fixture?_eq_none_iff.mpr absent] at there
    cases there
  exact ⟨f, if_neg other, (fit.games _ f there).1, fun _ _ => id⟩

theorem vacant_createGame {name : String} (absent : r.games.find? name = none) : (r.createGame name).2.Vacant name := by
  intro f there
  rw [(createGame_undergoes absent).fixture] at there
  cases (if_pos rfl).symm.trans there
  rfl

section

variable {ref : GameRef} {f : Fixture} (reached : r.reached? ref = some f) (fit : r.Fit) (q : GameRequest)

include reached fit

theorem askGame_suits : r.Suits subject? (r.askGame ref q).2 := by
  refine (askGame_reached reached q).2.suits fit (fun _ => rfl) (fun _ _ _ => rfl) (fun other k there => ?_)
    fun s o => ?_
  · dsimp only [Change.message] at there
    split at there
    · rename_i here
      obtain ⟨_, found⟩ := fit.reached?_iff.mp reached
      rw [here, found, Option.map_some] at there
      cases there
      obtain ⟨running, sound⟩ := fit.games ref.name f found
      exact ⟨running, sound.handles (f.game.answer_handles ..)⟩
    · exact fit.games other k there
  · dsimp only [Change.message, Exchange.extended]
    split <;> rfl

theorem OnRoster.askGame {other : GameRef} {c : ConnectionId} {s : SessionRef} (on : r.OnRoster other c s)
    (stays : q ≠ .leave c) : (r.askGame ref q).2.OnRoster other c s := by
  refine on.undergoes (askGame_reached reached q).2 fun k there => ?_
  obtain ⟨_, found⟩ := fit.reached?_iff.mp there
  obtain ⟨running, _⟩ := fit.games _ k found
  by_cases here : other.name = ref.name
  · obtain ⟨_, first⟩ := fit.reached?_iff.mp reached
    cases first.symm.trans (here ▸ found)
    obtain ⟨running, sound⟩ := fit.games _ f first
    refine ⟨{ f with game := (f.game.answer (f.depth + 1) .empty q).2.1 }, ?_, running, fun team p seated => ?_⟩
    · simp only [Change.message, here, if_true, Option.map_some]
    · exact (f.game.answer_handles ..).kept sound seated stays
  · exact ⟨k, by simp only [Change.message, here, if_false], running, fun _ _ => id⟩

theorem reached?_askGame :
    (r.askGame ref q).2.reached? ref = some { f with game := (f.game.answer (f.depth + 1) .empty q).2.1 } :=
  (askGame_reached reached q).2.reached? reached (if_pos rfl) (fit.games _ f (fit.reached?_iff.mp reached).2).1

theorem vacant_askGame (empty : (f.game.answer (f.depth + 1) .empty q).2.1.size = 0) :
    (r.askGame ref q).2.Vacant ref.name := by
  intro k there
  rw [(askGame_reached reached q).2.fixture, (fit.reached?_iff.mp reached).2] at there
  cases (if_pos rfl).symm.trans there
  exact empty

theorem Vacant.askGame {name : String} (vacant : r.Vacant name)
    (same : (f.game.answer (f.depth + 1) .empty q).2.1 = f.game) : (r.askGame ref q).2.Vacant name := by
  intro k there
  by_cases here : name = ref.name
  · subst here
    refine vacant_askGame reached fit q ?_ k there
    rw [same]
    exact vacant f (fit.reached?_iff.mp reached).2
  · rw [(askGame_reached reached q).2.fixture] at there
    exact vacant k ((if_neg here).symm.trans there)

/-- Letters of others change nothing about what the registry may count on. -/
theorem holds_askGame_of_open {duty : Duty} (holds : duty.Holds r) (isOpen : q.Open) :
    duty.Holds (r.askGame ref q).2 := by
  have same := f.game.game_answer_of_open isOpen (f.depth + 1) .empty
  exact ⟨fun a s admits still => (holds.begun a s admits still).askGame reached fit q same,
    fun answer answered empties => (holds.empty answer answered empties).askGame reached fit q same,
    fun a s begun answer placement admits answered accepted =>
      (holds.seated a s begun answer placement admits answered accepted).askGame reached fit q (isOpen.ne_leave _)⟩

theorem holds_askGame {e : SuspendedRequest} (begun : ∀ a s, e = .enrol a s true → r.Vacant ref.name) :
    Duty.Holds ⟨e, ref, .answered (r.askGame ref e.request).1⟩ (r.askGame ref e.request).2 := by
  have answer := (askGame_reached reached e.request).1
  have there := reached?_askGame reached fit e.request
  have sound := (fit.games _ f (fit.reached?_iff.mp reached).2).2
  refine ⟨fun _ _ _ still => absurd rfl (still _), ?_, ?_⟩
  · intro answer' same empties
    cases same
    refine vacant_askGame reached fit e.request ?_
    rw [answer] at empties
    cases e with
    | enrol a s first =>
      cases placed : f.game.place (a.entrant s) with
      | ok outcome =>
        simp [SuspendedRequest.request, SuspendedRequest.empties, SuspendedRequest.placement, Game.answer, Game.join,
          placed, Except.toOption] at empties
      | error failure =>
        simp only [SuspendedRequest.request, SuspendedRequest.empties, SuspendedRequest.placement, Game.answer,
          Game.join, placed, Bool.and_eq_true] at empties ⊢
        exact begun a s (empties.1 ▸ rfl) f (fit.reached?_iff.mp reached).2
    | dismiss c =>
      have remaining : (f.game.leave c).1.remaining = 0 := of_decide_eq_true empties
      exact (f.game.remaining_leave c).symm.trans remaining
    | count => cases empties
  · intro a s first answer' placement same progress accepted
    cases same
    cases progress
    rw [answer] at accepted
    cases placed : f.game.place (a.entrant s) with
    | ok outcome =>
      obtain ⟨placement', after⟩ := outcome
      obtain ⟨admits, rfl⟩ := Game.place_eq_ok placed
      simp only [SuspendedRequest.request, Game.answer, Game.join, placed] at there
      exact ⟨_, _, _, there, (Game.find?_entered_iff sound admits a.connection _ _).mpr (Or.inl ⟨rfl, rfl, rfl⟩), rfl⟩
    | error failure =>
      simp [SuspendedRequest.request, SuspendedRequest.placement, Game.answer, Game.join, placed] at accepted

end

section

variable (ref : GameRef) (answer : Except Failure GameAnswer) (e : SuspendedRequest)

theorem settle_undergoes (r : Registry) :
    r.Undergoes
      { member := fun c m => if e.admitted? answer = some c then m.map ({ · with game := some ref.name }) else m
        fixture := fun name f => if e.empties answer = true ∧ name = ref.name then none else f }
      (r.settle ref answer e) := by
  have removes : r.Undergoes { fixture := fun name f => if e.empties answer = true ∧ name = ref.name then none else f }
      (if e.empties answer then r.removeGame ref.name else r) := by
    split
    · rename_i empties
      exact (r.removeGame_undergoes ref.name).congr (fun _ => rfl) (fun _ => by simp only [empties, true_and])
        (fun _ => rfl) rfl
    · rename_i full
      exact (Undergoes.same r).congr (fun _ => rfl) (fun _ => (if_neg fun empties => full empties.1).symm)
        (fun _ => rfl) rfl
  rw [settle]
  cases admitted : e.admitted? answer with
  | some c =>
    refine (removes.followedBy (recordJoined_undergoes _ c ref.name) fun _ _ => rfl).congr (fun d => ?_) (fun _ => rfl)
      (fun _ => rfl) rfl
    simp only [Change.followedBy, Option.some.injEq, eq_comm]
  | none => exact removes.congr (fun _ => by simp) (fun _ => rfl) (fun _ => rfl) rfl

theorem settle_suits (fit : r.Fit) : r.Suits e.subject? (r.settle ref answer e) := by
  refine (r.settle_undergoes ref answer e).suits fit (fun _ => rfl) (fun c m other => if_neg fun admitted => other ?_)
    (fun name f there => ?_) fun _ _ => rfl
  · cases e with
    | enrol a session begun =>
      obtain ⟨_, _, same⟩ := Option.map_eq_some_iff.mp admitted
      exact congrArg some same
    | _ => cases admitted
  · dsimp only at there
    split at there
    · cases there
    · exact fit.games name f there

variable {ref answer e}

theorem OnRoster.settle {other : GameRef} {c : ConnectionId} {s : SessionRef} (on : r.OnRoster other c s) (fit : r.Fit)
    (vacant : e.empties answer = true → r.Vacant ref.name) : (r.settle ref answer e).OnRoster other c s := by
  have on' := on
  obtain ⟨f, team, p, reached, seated, _⟩ := on
  have there := (fit.reached?_iff.mp reached).2
  refine on'.undergoes (r.settle_undergoes ref answer e) fun k again => ?_
  cases reached.symm.trans again
  refine ⟨f, if_neg ?_, (fit.games _ f there).1, fun _ _ => id⟩
  rintro ⟨empties, here⟩
  have nobody := vacant empties f (here ▸ there)
  exact absurd nobody (Nat.ne_of_gt (Game.size_pos_of_mem (Game.mem_members_of_find? seated)))

end

end Registry

end Scrimmage
