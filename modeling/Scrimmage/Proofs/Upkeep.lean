import Scrimmage.Proofs.Changes

namespace Scrimmage

namespace Game

theorem sessions_answer (g : Game) (depth : UInt64) (x : Exchange) (q : GameRequest) :
    (g.answer depth x q).2.2.telemetry.sessions = x.telemetry.sessions := by
  cases q with
  | join e =>
    cases placed : g.place e with
    | error failure => simp only [answer, join, placed]
    | ok outcome => simp only [answer, join, placed, Exchange.telemetry_offer]
  | broadcast p => simp only [answer, broadcast, Exchange.measure, Telemetry.record, telemetry_relay]
  | _ => rfl

end Game

/-- A game handles a message. Like coming, going and joining, a message to a game is a change of what there is
to see of the registry, and so are a look at the games that have stopped and the end. -/
def Change.message (name : String) (f : Fixture) (q : GameRequest) : Change where
  fixture other k :=
    if other = name then k.map ({ · with game := (f.game.answer (f.depth + 1) .empty q).2.1 }) else k
  outbox s := (Exchange.extended · (f.game.sends q s))

namespace Registry

/-- The game that a message reaches. -/
def reached? (r : Registry) (ref : GameRef) : Option Fixture :=
  if r.gameRef? ref.name = some ref then (r.fixture? ref.name).filter (·.running) else none

theorem reached?_hosts {r : Registry} {ref : GameRef} {h : HostedGame} (hosts : r.Hosts ref.name h)
    (generation : h.generation = ref.generation) : r.reached? ref = some h.fixture := by
  have here : r.gameRef? ref.name = some ref := by rw [gameRef?_of_hosts hosts, generation]
  rw [reached?, if_pos here, fixture?_of_find? hosts.found]
  simp [HostedGame.fixture, hosts.running]

theorem reached?_eq_some {r : Registry} {ref : GameRef} {f : Fixture} (reached : r.reached? ref = some f) :
    ∃ h, r.Hosts ref.name h ∧ h.generation = ref.generation ∧ f = h.fixture := by
  rw [reached?] at reached
  split at reached
  · rename_i here
    obtain ⟨h, found, same⟩ := gameRef?_eq_some here
    rw [fixture?_of_find? found, Option.filter_eq_some_iff] at reached
    obtain ⟨fixture, running⟩ := reached
    cases fixture
    exact ⟨h, ⟨found, running⟩, (congrArg GameRef.generation same).symm, rfl⟩
  · cases reached

theorem askGame_reached {r : Registry} {ref : GameRef} {f : Fixture} (reached : r.reached? ref = some f)
    (q : GameRequest) :
    (r.askGame ref q).1 = .ok (f.game.answer (f.depth + 1) .empty q).1 ∧
      r.Undergoes (.message ref.name f q) (r.askGame ref q).2 := by
  obtain ⟨h, hosts, generation, rfl⟩ := reached?_eq_some reached
  obtain ⟨name, _⟩ := ref
  subst generation
  have alike := h.game.answer_eq_of_queues (h.mailbox.enqueue.depth) r.exchange .empty q
  rw [askGame, sendTo_hosts hosts, alike.1, alike.2]
  exact ⟨rfl, put_undergoes hosts _ (fun s => h.game.outbox?_answer _ _ q s) (h.game.sessions_answer _ _ q)⟩

theorem askGame_lost {r : Registry} {ref : GameRef} (lost : r.reached? ref = none) (q : GameRequest) :
    r.askGame ref q = (.error .unreachable, r) := by
  rcases r.sendTo_cases ref (fun g depth x => g.answer depth x q) with ⟨h, hosts, generation⟩ | nothing
  · cases (reached?_hosts hosts generation).symm.trans lost
  · exact nothing

theorem listing_spec (r : Registry) (name : String) :
    (r.listing name).1 =
        (r.fixture? name).map (fun f => { name, players := if f.running then f.game.size else 0 }) ∧
      r.Undergoes {} (r.listing name).2 := by
  cases found : r.games.find? name with
  | none =>
    rw [listing, gameRef?_eq_none found, fixture?_eq_none_iff.mpr found]
    exact ⟨rfl, .same r⟩
  | some h =>
    have ref : r.gameRef? name = some ⟨name, h.generation⟩ := by rw [gameRef?, found, Option.map_some]
    rw [fixture?_of_find? found, Option.map_some, HostedGame.fixture]
    simp only [listing, ref]
    cases running : h.running with
    | false =>
      have still : ∀ k, r.games.find? name = some k → k.running = false := fun k there =>
        Option.some.inj (found.symm.trans there) ▸ running
      rw [sendTo_stopped still]
      exact ⟨rfl, .same r⟩
    | true =>
      have hosts : r.Hosts name h := ⟨found, running⟩
      rw [sendTo_hosts hosts]
      refine ⟨rfl, (put_undergoes_still hosts _ (·.messageHandled) rfl).congr (fun _ => rfl) (fun other => ?_)
        (fun _ => rfl) rfl⟩
      dsimp only
      split
      · rename_i here
        rw [here, fixture?_of_find? found]
        rfl
      · rfl

end Registry

/-- Sessions are told to close, each as often as it is given. -/
def Change.close (reason : String) (told : SessionRef → Nat) : Change where
  outbox s := (Exchange.extended · (List.replicate (told s) (.close reason)))

/-- Games go, and the sessions of their members are told. -/
def Change.reap (gone : String → Bool) (told : SessionRef → Nat) : Change where
  fixture name f := if gone name then none else f
  outbox := (Change.close Registry.gameStopped told).outbox

namespace Registry

theorem closeSessions_undergoes (r : Registry) (reason : String) (sessions : List SessionRef) :
    r.Undergoes (.close reason fun s => sessions.countP (·.queue = s.queue)) (r.closeSessions reason sessions) :=
  { Undergoes.same r with
    outbox := r.exchange.outbox?_offers (.close reason) sessions
    standing := by
      simp only [standing, closeSessions, Exchange.telemetry_offers]
      rfl
    ref := ref_of_kept fun _ h found => ⟨h, found, rfl⟩
    listed := fun listed => ⟨listed.unjoined_iff, listed.nodup⟩ }

/-- How many members have this queue and are recorded in one of these games. -/
def membersOf (r : Registry) (names : String → Bool) (s : SessionRef) : Nat :=
  r.members.values.countP fun m => m.session.queue = s.queue && m.game.any names

theorem countP_sessionsIn (r : Registry) (name : String) (s : SessionRef) :
    (r.sessionsIn name).countP (·.queue = s.queue) = r.membersOf (· = name) s := by
  rw [sessionsIn, List.countP_map, List.countP_filter, membersOf]
  apply List.countP_congr
  intro m _
  cases m.game <;> simp

theorem reapGame_undergoes (r : Registry) (name : String) :
    r.Undergoes (.reap (· = name) (r.membersOf (· = name))) (r.reapGame name) := by
  have closed := r.closeSessions_undergoes gameStopped (r.sessionsIn name)
  refine (closed.followedBy (erase_undergoes _ name) fun other _ => ?_).congr (fun _ => rfl) (fun other => ?_)
    (fun s => ?_) rfl
  · dsimp only
    split <;> rfl
  · simp only [Change.followedBy, Change.close, Change.reap, decide_eq_true_eq]
  · simp only [Change.followedBy, Change.close, Change.reap, countP_sessionsIn]

theorem membersOf_cons (r : Registry) {name : String} {names : List String} (new : name ∉ names) (s : SessionRef) :
    r.membersOf (· ∈ name :: names) s = r.membersOf (· = name) s + r.membersOf (· ∈ names) s := by
  simp only [membersOf]
  induction r.members.values with
  | nil => rfl
  | cons m rest ih =>
    simp only [List.countP_cons, ih]
    -- a member is recorded in one game, so it is counted for the first name or for the others
    have once : (if (m.session.queue = s.queue && m.game.any (· ∈ name :: names)) = true then 1 else 0) =
        (if (m.session.queue = s.queue && m.game.any (· = name)) = true then 1 else 0) +
          if (m.session.queue = s.queue && m.game.any (· ∈ names)) = true then 1 else 0 := by
      cases m.game with
      | none => simp
      | some other =>
        by_cases here : other = name
        · simp [here, new]
        · simp [here]
    omega

theorem reapGames_undergoes (r : Registry) {names : List String} (nodup : names.Nodup) :
    r.Undergoes (.reap (· ∈ names) (r.membersOf (· ∈ names))) (names.foldl reapGame r) := by
  induction names generalizing r with
  | nil =>
    refine (Undergoes.same r).congr (fun _ => rfl) (fun _ => rfl) (fun s => ?_) rfl
    funext o
    simp [Change.reap, Change.close, membersOf]
  | cons name names ih =>
    obtain ⟨new, nodup⟩ := List.nodup_cons.mp nodup
    have rest : (r.reapGame name).Undergoes (.reap (· ∈ names) (r.membersOf (· ∈ names)))
        (names.foldl reapGame (r.reapGame name)) := ih _ nodup
    refine ((r.reapGame_undergoes name).followedBy rest fun other _ => ?_).congr (fun _ => rfl) (fun other => ?_)
      (fun s => ?_) rfl
    · simp only [Change.reap, ite_self]
    · by_cases here : other = name <;> simp [Change.followedBy, Change.reap, here]
    · funext o
      simp only [Change.followedBy, Change.reap, Change.close, Exchange.extended_append,
        List.replicate_append_replicate, r.membersOf_cons new]

/-- Whether a game of the name is there and has stopped. -/
def hasStopped (r : Registry) (name : String) : Bool := (r.fixture? name).any (!·.running)

theorem mem_stoppedGames_iff {r : Registry} {name : String} : name ∈ r.stoppedGames ↔ r.hasStopped name = true := by
  simp only [stoppedGames, List.mem_map, List.mem_filter, Prod.exists, exists_and_right, exists_eq_right, hasStopped,
    fixture?, Option.any_map, Option.any_eq_true, HostedGame.fixture, ← Table.find?_eq_some_iff]

theorem reap_undergoes (r : Registry) : r.Undergoes (.reap r.hasStopped (r.membersOf r.hasStopped)) r.reap := by
  have nodup : r.stoppedGames.Nodup := r.games.nodup.sublist (List.filter_sublist.map _)
  have same : (fun name => decide (name ∈ r.stoppedGames)) = r.hasStopped := by
    funext name
    rw [Bool.eq_iff_iff, decide_eq_true_eq, mem_stoppedGames_iff]
  have reaped := r.reapGames_undergoes nodup
  rwa [same] at reaped

theorem cancelGames_eq (r : Registry) :
    ∃ tokens : TokenTree, tokens.cancelled = r.tokens.cancelled ∧ tokens.derived = r.tokens.derived ∧
      r.cancelGames = { r with tokens } := by
  have kept : ∀ (games : List HostedGame) (tokens : TokenTree),
      (games.foldl (fun tokens hosted => tokens.cancel hosted.generation) tokens).cancelled = tokens.cancelled ∧
        (games.foldl (fun tokens hosted => tokens.cancel hosted.generation) tokens).derived = tokens.derived := by
    intro games
    induction games with
    | nil => exact fun _ => ⟨rfl, rfl⟩
    | cons hosted games ih => exact fun tokens => ih (tokens.cancel hosted.generation)
  exact ⟨_, (kept r.games.values r.tokens).1, (kept r.games.values r.tokens).2, rfl⟩

theorem closeAll_undergoes (r : Registry) :
    r.Undergoes
      { outbox := (Change.close shuttingDown fun s => r.members.values.countP (·.session.queue = s.queue)).outbox
        standing := fun t => { t with accepting := false } } r.closeAll := by
  obtain ⟨tokens, cancelled, derived, same⟩ := { r with accepting := false }.cancelGames_eq
  have closed := r.closeSessions_undergoes shuttingDown (r.members.values.map (·.session))
  simp only [List.countP_map] at closed
  rw [closeAll, same]
  exact { closed with
    standing := by
      have before := congrArg Standing.sessions closed.standing
      simp only [standing, Registry.cancelled, closeSessions] at before ⊢
      rw [before, cancelled]
      rfl
    ref := ref_of_kept fun _ h found => ⟨h, found, rfl⟩
    later := derived.ge
    fresh := fun _ absent there => (there absent).elim
    listed := fun listed => ⟨listed.unjoined_iff, listed.nodup⟩ }

theorem foldl_measure (r : Registry) (names : List String) :
    ∃ telemetry : Telemetry, telemetry.sessions = r.exchange.telemetry.sessions ∧
      names.foldl (fun r _ => r.measure (·.gameRemoved)) r = { r with exchange := { r.exchange with telemetry } } := by
  induction names generalizing r with
  | nil => exact ⟨_, rfl, rfl⟩
  | cons name names ih => exact ih (r.measure (·.gameRemoved))

theorem awaitGames_undergoes (r : Registry) : r.Undergoes { fixture := fun _ _ => none } r.awaitGames := by
  have gone : ∀ (abandoned : List Nat) (telemetry : Telemetry), telemetry.sessions = r.exchange.telemetry.sessions →
      r.Undergoes { fixture := fun _ _ => none }
        { r with games := .empty, abandoned, exchange := { r.exchange with telemetry } } := fun _ _ sessions =>
    { member := fun _ => rfl
      fixture := fun _ => rfl
      outbox := fun _ => Option.map_id'.symm
      standing := by
        simp only [standing, sessions]
        rfl
      capacity := rfl
      depth := rfl
      ref := fun _ => rfl
      later := le_rfl
      fresh := fun _ _ there => (there rfl).elim
      listed := fun listed => ⟨listed.unjoined_iff, listed.nodup⟩ }
  rw [awaitGames]
  split
  · obtain ⟨telemetry, sessions, measured⟩ := r.foldl_measure r.games.keys
    rw [drain, measured]
    exact gone r.abandoned telemetry sessions
  · exact gone _ r.exchange.telemetry rfl

/-- The end of everything but the memberships. -/
def endChange (r : Registry) : Change where
  fixture _ _ := none
  outbox := (Change.close shuttingDown fun s => r.members.values.countP (·.session.queue = s.queue)).outbox
  standing t := { t with accepting := false, running := false }

theorem finish_undergoes (r : Registry) : r.Undergoes r.endChange r.finish := by
  have ended := r.closeAll_undergoes.followedBy r.closeAll.awaitGames_undergoes fun _ _ => rfl
  exact { ended with
    standing := congrArg (fun t : Standing => { t with running := false }) ended.standing
    listed := fun listed => ⟨(ended.listed listed).unjoined_iff, (ended.listed listed).nodup⟩ }

theorem now_reap (r : Registry) : r.reap.exchange.now = r.exchange.now := by
  have reaped : ∀ (names : List String) (r : Registry), (names.foldl reapGame r).exchange.now = r.exchange.now := by
    intro names
    induction names with
    | nil => exact fun _ => rfl
    | cons name names ih =>
      intro r
      exact (ih (r.reapGame name)).trans (r.exchange.now_offers ..)
  exact reaped _ r

theorem closeAll_deadline? (r : Registry) : r.closeAll.deadline? = r.deadline? :=
  congrArg (Clock.after? · r.shutdownTimeout) (r.exchange.now_offers ..)

theorem finish_of_deadline {r : Registry} {deadline : Nat} (due : r.deadline? = some deadline) :
    r.finish = { r.closeAll.drain with running := false } := by
  rw [finish, awaitGames, r.closeAll_deadline?, due]

theorem finish_of_none {r : Registry} (never : r.deadline? = none) :
    r.finish = { r.closeAll.breakOff with running := false } := by
  rw [finish, awaitGames, r.closeAll_deadline?, never]

theorem fixture?_finish (r : Registry) (name : String) : r.finish.fixture? name = none :=
  r.finish_undergoes.fixture name

/-- That the registry was told to stop shows in nothing else yet. -/
theorem cancelAll_undergoes (r : Registry) :
    r.Undergoes { standing := fun t => { t with cancelled := true } } r.cancelAll :=
  { Undergoes.same r with
    standing := rfl
    ref := ref_of_kept fun _ h found => ⟨h, found, rfl⟩
    listed := fun listed => ⟨listed.unjoined_iff, listed.nodup⟩ }

end Registry

end Scrimmage
