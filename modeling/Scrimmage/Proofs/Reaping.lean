import Scrimmage.Proofs.Closing
import Scrimmage.Proofs.Views

namespace Scrimmage

namespace Table

variable {κ ν : Type} [DecidableEq κ]

theorem erase_comm (t : Table κ ν) (k l : κ) : (t.erase k).erase l = (t.erase l).erase k := by
  refine ext_entries ?_
  simp only [erase, filter, List.filter_filter, Bool.and_comm]

end Table

namespace Exchange

theorem ext_outbox? {x y : Exchange} (queues : ∀ s, x.outbox? s = y.outbox? s) (telemetry : x.telemetry = y.telemetry)
    (now : x.now = y.now) : x = y := by
  obtain ⟨outboxes, _, _⟩ := x
  obtain ⟨outboxes', _, _⟩ := y
  obtain rfl : outboxes = outboxes' := List.ext_getElem? fun i => queues ⟨⟨0⟩, i⟩
  obtain rfl := telemetry
  obtain rfl := now
  rfl

/-- A command for several sessions reaches them alike in any order. -/
theorem offers_perm (x : Exchange) (command : Command) {sessions sessions' : List SessionRef}
    (perm : sessions.Perm sessions') :
    sessions.foldl (fun x s => x.offer s command) x = sessions'.foldl (fun x s => x.offer s command) x := by
  refine ext_outbox? (fun s => ?_) ?_ ?_
  · rw [outbox?_offers, outbox?_offers, perm.countP_eq]
  · rw [telemetry_offers, telemetry_offers]
  · rw [now_offers, now_offers]

theorem offers_measure (x : Exchange) (command : Command) (f : Telemetry → Telemetry) (sessions : List SessionRef) :
    sessions.foldl (fun x s => x.offer s command) (x.measure f) =
      (sessions.foldl (fun x s => x.offer s command) x).measure f := by
  refine ext_outbox? (fun s => ?_) ?_ ?_
  · rw [outbox?_offers, outbox?_measure, outbox?_measure, outbox?_offers]
  · simp only [telemetry_offers, measure]
  · simp only [now_offers, measure]

end Exchange

namespace Registry

theorem reapGame_comm (r : Registry) (name other : String) :
    (r.reapGame name).reapGame other = (r.reapGame other).reapGame name := by
  have swapped : (r.sessionsIn name ++ r.sessionsIn other).Perm (r.sessionsIn other ++ r.sessionsIn name) :=
    List.perm_append_comm
  have queues := r.exchange.offers_perm (.close gameStopped) swapped
  rw [List.foldl_append, List.foldl_append] at queues
  simp only [reapGame, closeSessions, sessionsIn, measure, Exchange.offers_measure] at queues ⊢
  rw [queues, r.games.erase_comm]

theorem reap_perm {r : Registry} {names : List String} (perm : names.Perm r.stoppedGames) :
    names.foldl reapGame r = r.reap :=
  perm.foldl_eq' (fun name _ other _ r => r.reapGame_comm name other) r

theorem find?_games_reap (r : Registry) (name : String) :
    r.reap.games.find? name = if r.hasStopped name then none else r.games.find? name := by
  have games : ∀ names : List String, (names.foldl reapGame r).games = names.foldl Table.erase r.games := by
    intro names
    induction names generalizing r with
    | nil => rfl
    | cons other names ih => exact ih (r.reapGame other)
  rw [reap, games, find?_foldl_erase]
  simp only [mem_stoppedGames_iff]

theorem hasStopped_iff {r : Registry} {name : String} :
    r.hasStopped name = true ↔ ∃ f, r.fixture? name = some f ∧ f.running = false := by
  simp [hasStopped, Option.any_eq_true]

theorem hasStopped_eq_false_iff {r : Registry} {name : String} :
    r.hasStopped name = false ↔ ∀ f, r.fixture? name = some f → f.running = true := by
  simp [hasStopped, Option.any_eq_false]

theorem verdict_stopped {r : Registry} {a : Application} (stopped : r.hasStopped a.game = true) :
    ∃ failure, r.verdict a = .error failure := by
  cases verdict : r.verdict a with
  | error failure => exact ⟨failure, rfl⟩
  | ok seat =>
    obtain ⟨session, placement, game⟩ := seat
    obtain ⟨_, _, _, _, _, found, _⟩ := verdict_eq_ok verdict
    obtain ⟨f, there, still⟩ := hasStopped_iff.mp stopped
    simp only [gameFor?, there, still] at found
    cases found

theorem requestChange_of_stopped {r : Registry} (q : RegistryRequest) {name : String}
    (stopped : r.hasStopped name = true) :
    (r.requestChange q).fixture name (r.fixture? name) = r.fixture? name := by
  obtain ⟨f, there, still⟩ := hasStopped_iff.mp stopped
  cases q with
  | unregister c => simp [requestChange, Change.unregister, there, Fixture.without, still]
  | join a =>
    by_cases here : name = a.game
    · subst here
      obtain ⟨failure, refused⟩ := verdict_stopped stopped
      simp only [requestChange, refused]
    · simp only [requestChange]
      split
      · rfl
      · simp only [Change.seat, if_neg here]
  | _ => rfl

/-- A game that goes on, or has just been begun, goes on after a message. -/
theorem running_of_requestChange {r : Registry} {q : RegistryRequest} {name : String} {f : Fixture}
    (goes : r.hasStopped name = false) (after : (r.requestChange q).fixture name (r.fixture? name) = some f) :
    f.running = true := by
  rw [hasStopped_eq_false_iff] at goes
  cases q with
  | unregister c =>
    simp only [requestChange, Change.unregister] at after
    split at after
    · obtain ⟨k, there, left⟩ := Option.bind_eq_some_iff.mp after
      rw [Fixture.without, if_pos (goes k there)] at left
      split at left
      · cases left
      · cases left
        exact goes k there
    · exact goes f after
  | join a =>
    simp only [requestChange] at after
    split at after
    · exact goes f after
    · simp only [Change.seat] at after
      split at after
      · cases after
        rfl
      · exact goes f after
  | _ => exact goes f after

theorem hasStopped_handle (r : Registry) (q : RegistryRequest) : (r.handle q).2.hasStopped = r.hasStopped := by
  funext name
  have fixture := (r.handle_undergoes q).fixture name
  cases running : r.running with
  | false => rw [handle_stopped running]
  | true =>
    rw [running, if_pos rfl] at fixture
    cases stopped : r.hasStopped name with
    | true =>
      rw [requestChange_of_stopped q stopped] at fixture
      rw [hasStopped, fixture, ← hasStopped, stopped]
    | false =>
      rw [hasStopped_eq_false_iff, fixture]
      exact fun f after => running_of_requestChange stopped after

theorem close_not_mem_posts (r : Registry) (q : RegistryRequest) (s : SessionRef) (reason : String) :
    .close reason ∉ r.posts q s := by
  cases q with
  | join a =>
    simp only [posts]
    split
    · simp
    · split <;> simp
  | _ => simp [posts]

/-- The registry as it would be had no game stopped. -/
def revived (r : Registry) : Registry := { r with games := r.games.map fun _ h => { h with running := true } }

theorem fixture?_revived (r : Registry) (name : String) :
    r.revived.fixture? name = (r.fixture? name).map ({ · with running := true }) := by
  rw [fixture?, revived, Table.find?_map, fixture?, Option.map_map, Option.map_map]
  rfl

theorem alike_revived (r : Registry) :
    r.Alike { connection := fun _ => True, name := (r.hasStopped · = false), queue := fun _ => True } r.revived where
  member _ _ := rfl
  fixture name goes := by
    rw [fixture?_revived]
    cases there : r.fixture? name with
    | none => rfl
    | some f =>
      have running := hasStopped_eq_false_iff.mp goes f there
      rw [Option.map_some, ← running]
  outbox _ _ := rfl
  standing := rfl
  capacity := rfl
  depth := rfl

/-- To a game that goes on a message does what it would do had no game stopped. -/
theorem fixture?_handle_revived (r : Registry) (q : RegistryRequest) {name : String}
    (goes : r.hasStopped name = false) :
    (r.handle q).2.fixture? name = (r.revived.handle q).2.fixture? name := by
  have alike := r.alike_revived
  have same := alike.fixture name goes
  rw [(r.handle_undergoes q).fixture, (r.revived.handle_undergoes q).fixture, ← same]
  have running : r.revived.running = r.running := rfl
  rw [running]
  split
  · cases q with
    | unregister c => simp only [requestChange, alike.recorded? trivial]
    | join a =>
      by_cases here : name = a.game
      · subst here
        simp only [requestChange, alike.verdict trivial goes]
      · have seat : ∀ r' : Registry, (r'.requestChange (.join a)).fixture name = fun f => f := by
          intro r'
          simp only [requestChange]
          split
          · rfl
          · simp only [Change.seat, if_neg here]
        rw [seat, seat]
    | _ => rfl
  · rfl

end Registry

/-- A queue of one's own has one member in games of these names, or none. -/
theorem Registry.membersOf_own {r : Registry} {c : ConnectionId} {m : Member} (known : r.members.find? c = some m)
    (own : ∀ d m', r.members.find? d = some m' → m'.session.queue = m.session.queue → d = c) (names : String → Bool) :
    r.membersOf names m.session = if m.game.any names then 1 else 0 := by
  have only : ∀ d, (d ∈ r.members.keys ∧ ((r.members.find? d).any fun m' =>
      m'.session.queue = m.session.queue && m'.game.any names) = true) ↔ d = c ∧ m.game.any names = true := by
    intro d
    rw [Option.any_eq_true]
    constructor
    · rintro ⟨_, m', there, inside⟩
      simp only [Bool.and_eq_true, decide_eq_true_eq] at inside
      obtain rfl := own d m' there inside.1
      cases known.symm.trans there
      exact ⟨rfl, inside.2⟩
    · rintro ⟨rfl, inside⟩
      exact ⟨Table.mem_keys_of_find? known, m, known, by simp [inside]⟩
  rw [membersOf, Table.countP_values]
  split
  · rename_i inside
    refine length_eq_of_mem_iff (r.members.keys_nodup.filter _) (List.nodup_singleton c) fun d => ?_
    rw [List.mem_filter, only, and_iff_left inside, List.mem_singleton]
  · rename_i outside
    refine length_eq_of_mem_iff (r.members.keys_nodup.filter _) List.nodup_nil fun d => ?_
    rw [List.mem_filter, only, iff_false_right List.not_mem_nil]
    exact fun inside => outside inside.2

/-- What is put at the end of a queue by a step that does no more to it. -/
theorem Step.queued_of_outbox {step : Step} {s : SessionRef} {commands : List Command}
    (outbox : step.after.registry.exchange.outbox? s =
      (step.before.registry.exchange.outbox? s).map (Exchange.extended · commands)) :
    step.queued s = if step.before.registry.exchange.accepts s then commands else [] := by
  rw [queued, Exchange.waiting_extended outbox, List.drop_left]

namespace Hall

/-- The hall as it would be had no game stopped. -/
def revived (h : Hall) : Hall := { h with registry := h.registry.revived }

/-- The hall after a message, and after the look at its games that follows one. -/
def asked (h : Hall) (q : RegistryRequest) : Hall := (h.perform (.request q)).2

def checked (h : Hall) (q : RegistryRequest) : Hall := ((h.asked q).perform .check).2

/-- The connection is recorded under the name of a game that has stopped. -/
def Stranded (h : Hall) (r : Registry) (c : ConnectionId) : Prop :=
  ∃ name, r.recorded? c = some name ∧ h.registry.hasStopped name = true

/-- What a message and the look at the games after it come to, when some of the games have stopped before. The
message finds them in the table, where they answer nothing and keep their names from everyone; then they are
taken out one after another, in whatever order, and every connection that is recorded under one of their names
is told once. -/
structure ReapsExactly (h : Hall) (q : RegistryRequest) : Prop where
  /-- The games that have stopped are gone, and those that go on are as the message left them. -/
  gone : ∀ name, h.registry.hasStopped name = true → (h.checked q).registry.games.find? name = none
  kept : ∀ name, h.registry.hasStopped name = false →
    (h.checked q).registry.games.find? name = (h.asked q).registry.games.find? name
  /-- The message does to the games that go on what it would do had none stopped. -/
  alone : ∀ name, h.registry.hasStopped name = false →
    (h.checked q).registry.fixture? name = (h.revived.asked q).registry.fixture? name
  counted : (h.checked q).registry.exchange.telemetry.games = UInt64.ofNat (h.checked q).registry.games.size
  members : ∀ c, (h.checked q).registry.members.find? c = (h.asked q).registry.members.find? c
  /-- Each queue gets as many commands to close as it has members that are recorded in games that have stopped. -/
  told : ∀ s, (⟨h.asked q, .check⟩ : Step).queued s =
    if (h.asked q).registry.exchange.accepts s then
      List.replicate ((h.asked q).registry.membersOf h.registry.hasStopped s) (.close Registry.gameStopped)
    else []
  /-- So a connection with a queue of its own is told once, or not at all. -/
  once : ∀ c m, (h.asked q).registry.members.find? c = some m →
    (∀ d m', (h.asked q).registry.members.find? d = some m' → m'.session.queue = m.session.queue → d = c) →
    (h.asked q).registry.exchange.accepts m.session = true →
      (h.Stranded (h.asked q).registry c →
        (⟨h.asked q, .check⟩ : Step).queued m.session = [.close Registry.gameStopped]) ∧
      (¬h.Stranded (h.asked q).registry c → (⟨h.asked q, .check⟩ : Step).queued m.session = [])
  /-- The message itself tells nobody to close. -/
  untold : ∀ s reason, .close reason ∉ (⟨h, .request q⟩ : Step).queued s
  /-- Who asks for a game that has stopped is turned away, and is where it was. -/
  refused : ∀ a, q = .join a → h.registry.hasStopped a.game = true →
    (∃ failure, (h.perform (.request q)).1 = .registry (.ok (.joined (.error failure)))) ∧
      ∀ c, (h.checked q).registry.members.find? c = h.registry.members.find? c ∧
        (c ∈ (h.checked q).registry.unjoined ↔ c ∈ h.registry.unjoined)
  /-- In whatever order the games are visited. -/
  ordered : ∀ names : List String, names.Perm (h.asked q).registry.stoppedGames →
    names.foldl Registry.reapGame (h.asked q).registry = (h.checked q).registry

/-- Whatever games have stopped before a message in a hall whose registry goes on, and whichever message it is: the
look at the games that follows takes out just these, counts them, and tells their members and nobody else. -/
theorem Reachable.reaps_exactly {capacity : Nat} {h : Hall} (reachable : Reachable capacity h)
    (running : h.registry.running = true) (q : RegistryRequest) : h.ReapsExactly q := by
  have handled : h.registry.Undergoes (h.registry.requestChange q) (h.asked q).registry := by
    have undergoes := h.registry.handle_undergoes q
    rwa [running, if_pos rfl] at undergoes
  have stopped : (h.asked q).registry.hasStopped = h.registry.hasStopped := h.registry.hasStopped_handle q
  have reaped : (h.asked q).registry.Undergoes _ (h.checked q).registry := (h.asked q).registry.reap_undergoes
  rw [stopped] at reaped
  have games : ∀ name, (h.checked q).registry.games.find? name =
      if h.registry.hasStopped name then none else (h.asked q).registry.games.find? name :=
    fun name => stopped ▸ (h.asked q).registry.find?_games_reap name
  have told : ∀ s, (⟨h.asked q, .check⟩ : Step).queued s = _ := fun s => Step.queued_of_outbox (reaped.outbox s)
  exact {
    gone := fun name gone => by rw [games, if_pos gone]
    kept := fun name goes => by rw [games, if_neg (by simp [goes])]
    alone := fun name goes => by
      have same := h.registry.fixture?_handle_revived q goes
      rw [Registry.fixture?, games, if_neg (by simp [goes])]
      exact same
    counted := by
      have gauged : (h.checked q).registry.Gauged :=
        gauged_perform (gauged_perform reachable.gauged (.request q)) .check
      have none : (h.checked q).registry.abandoned = [] :=
        ((abandoned_perform _ (by simp)).trans (abandoned_perform _ (by simp))).trans (reachable.abandoned running)
      rw [gauged, none]
      rfl
    members := reaped.member
    told := told
    once := by
      intro c m known own accepts
      have stranded : h.Stranded (h.asked q).registry c ↔ m.game.any h.registry.hasStopped = true := by
        rw [Option.any_eq_true, Stranded, Registry.recorded?, known, Option.bind_some]
      rw [stranded, told, if_pos accepts, Registry.membersOf_own known own]
      exact ⟨fun inside => by rw [if_pos inside]; rfl, fun outside => by rw [if_neg outside]; rfl⟩
    untold := by
      intro s reason inside
      have outbox := handled.outbox s
      rw [h.registry.requestChange_outbox] at outbox
      have queued : (⟨h, .request q⟩ : Step).queued s = _ := Step.queued_of_outbox outbox
      rw [queued] at inside
      split at inside
      · exact h.registry.close_not_mem_posts q s reason inside
      · cases inside
    refused := by
      rintro a rfl there
      obtain ⟨failure, refused⟩ := Registry.verdict_stopped there
      have opened : h.registry.opened.verdict a = h.registry.verdict a := rfl
      have same : ∀ c, (h.checked (.join a)).registry.members.find? c = h.registry.members.find? c := by
        intro c
        rw [Registry.requestChange, refused] at handled
        exact (reaped.member c).trans (handled.member c)
      refine ⟨⟨failure, ?_⟩, fun c => ⟨same c, ?_⟩⟩
      · simp only [Hall.perform, Registry.shown_handle, running, if_true, Registry.requestAnswer, opened, refused]
        rfl
      · have listed := reachable.traced.kept.listed
        rw [(reaped.listed (handled.listed listed)).unjoined_iff, listed.unjoined_iff]
        exact exists_congr fun m => by rw [← same]
    ordered := fun names perm => Registry.reap_perm perm }

/-- Two of three games stop at once. -/
def stalled : List (Unit × Act) :=
  [((), .request (.register ⟨1⟩ ⟨⟨1⟩, 0⟩)), ((), .request (.join ⟨⟨1⟩, "ring", "Ada", .first, none⟩)),
    ((), .request (.register ⟨2⟩ ⟨⟨2⟩, 1⟩)), ((), .request (.join ⟨⟨2⟩, "wall", "Bo", .first, none⟩)),
    ((), .request (.register ⟨3⟩ ⟨⟨3⟩, 2⟩)), ((), .request (.join ⟨⟨3⟩, "pond", "Cy", .first, none⟩)),
    ((), .request (.register ⟨4⟩ ⟨⟨4⟩, 3⟩)), ((), .halt "pond"), ((), .halt "ring")]

/-- Someone asks for one of them before they are noticed. -/
theorem reaps_exactly_stalled :
    let h := (start 5 [.empty, .empty, .empty, .empty]).final stalled
    Reachable 5 h ∧ h.registry.running = true ∧ h.registry.stoppedGames = ["ring", "pond"] ∧
      h.registry.hasStopped "wall" = false ∧ h.ReapsExactly (.join ⟨⟨4⟩, "ring", "Di", .random, none⟩) := by
  intro h
  have reachable : Reachable 5 h := (Reachable.start _).final (by simp [stalled, Act.Open])
  have running : h.registry.running = true := by decide
  exact ⟨reachable, running, by decide, by decide, reachable.reaps_exactly running _⟩

end Hall

end Scrimmage
