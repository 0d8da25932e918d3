import Scrimmage.Deployment
import Scrimmage.Proofs.Gauge
import Scrimmage.Proofs.Lifecycle

namespace Scrimmage

namespace Server

variable {foreign : ConnectionId → Prop} {s : Server} {c : ConnectionId} {session : Session}

theorem Accounted.nobody (accounted : s.Accounted fun _ => False)
    (dead : ∀ c session, s.session? c = some session → session.isLive = false) (c : ConnectionId) :
    s.registry.members.find? c = none := by
  rw [Option.eq_none_iff_forall_ne_some]
  intro m known
  cases found : s.session? c with
  | none => exact accounted.strangers c m known found
  | some session =>
    have member := accounted.member c session found
    rw [known, dead c session found] at member
    cases member

theorem liveCount_eq_zero_iff : s.liveCount = 0 ↔
    ∀ c session, s.session? c = some session → session.isLive = false := by
  constructor
  · intro none c session found
    by_contra live
    exact (liveCount_pos found (Bool.eq_true_of_not_eq_false live)).ne' none
  · intro dead
    by_contra some
    rw [liveCount_eq] at some
    obtain ⟨c, inside⟩ := List.exists_mem_of_length_pos (Nat.pos_of_ne_zero some)
    obtain ⟨session, found, live⟩ := Table.mem_filter_keys_iff.mp inside
    cases (dead c session found).symm.trans live

end Server

theorem Registry.Housed.games_of_nobody {r : Registry} (housed : r.Housed)
    (nobody : ∀ c, r.members.find? c = none) : r.games.keys = [] := by
  refine List.eq_nil_iff_forall_not_mem.mpr fun name inside => ?_
  obtain ⟨h, found⟩ := Table.mem_keys_iff.mp inside
  obtain ⟨c, m, _, known, _⟩ := housed.peopled found
  cases (nobody c).symm.trans known

namespace Server

variable {foreign : ConnectionId → Prop} {s : Server} {c : ConnectionId} {session : Session}

/-- The registry is told to stop when no session is left, and then there is no game that it could leave behind. -/
theorem Accounted.ask_complete (accounted : s.Accounted fun _ => False) {q : RegistryRequest}
    (isForeign : q.IsForeign (fun _ => False) s) (complete : s.registry.Complete) :
    (s.registry.ask q).2.Complete := by
  refine ⟨complete.gauged.ask q, ?_⟩
  cases running : s.registry.running with
  | false =>
    rw [Registry.ask_stopped running]
    exact complete.abandoned
  | true =>
    have asked := Registry.ask_asked running (accounted.attended.awake running) q
    refine (Registry.abandoned_ask ?_).trans complete.abandoned
    by_cases told : ∃ timeout, q = .shutdown timeout
    · obtain ⟨timeout, rfl⟩ := told
      have nobody := accounted.nobody (liveCount_eq_zero_iff.mp isForeign)
      have housed := (accounted.attended.housed.supervised.handle (.shutdown timeout)).reap_housed
      refine Or.inr (housed.games_of_nobody fun c => ?_)
      rw [(Registry.reap_undergoes _).member, (s.registry.handle_undergoes _).member, nobody]
      split <;> rfl
    · exact Or.inl (asked.running fun timeout same => told ⟨timeout, same⟩)

theorem Move.complete {after : Server} (move : Move (fun _ => False) s after) (accounted : s.Accounted fun _ => False)
    (complete : s.registry.Complete) : after.registry.Complete := by
  cases move with
  | queues x widens => exact ⟨complete.gauged.of_same widens.gauges.games rfl rfl, complete.abandoned⟩
  | @finish c session ending farewell peerFrame found live told =>
    obtain ⟨x, _, telemetry, same⟩ := finish_eq found told farewell peerFrame
    have games : x.telemetry.games = s.exchange.telemetry.games := by
      rw [telemetry]
      split <;> rfl
    have running : ({ s.registry with exchange := x } : Registry).running = true :=
      accounted.running c session found live
    have before : ({ s.registry with exchange := x } : Registry).Gauged := complete.gauged.of_same games rfl rfl
    have asked := Registry.ask_asked running (accounted.attended.awake running) (.unregister c)
    have kept := Registry.abandoned_ask (Or.inl (asked.running fun _ => RegistryRequest.noConfusion))
    rw [same, Registry.send_unregister]
    exact ⟨(before.ask (.unregister c)).of_same rfl rfl rfl, kept.trans complete.abandoned⟩
  | ask q isForeign => exact accounted.ask_complete isForeign complete
  | message ref q =>
    have turnover : Registry.Turnover 0 s.registry _ := .askGame s.registry ref q
    exact ⟨complete.gauged.askGame ref q, turnover.abandoned.trans complete.abandoned⟩
  | halt name =>
    have turnover : Registry.Turnover 0 s.registry _ := .halt s.registry name
    exact ⟨complete.gauged.halt name, turnover.abandoned.trans complete.abandoned⟩
  | stop none =>
    have vacant := accounted.attended.housed.games_of_nobody (accounted.nobody (liveCount_eq_zero_iff.mp none))
    exact ⟨complete.gauged.cancel, (Registry.abandoned_cancel vacant).trans complete.abandoned⟩
  | _ => exact complete

theorem Moves.complete {after : Server} (moves : Moves (fun _ => False) s after)
    (accounted : s.Accounted fun _ => False) (complete : s.registry.Complete) : after.registry.Complete := by
  induction moves with
  | refl => exact complete
  | tail moves move ih => exact move.complete (Moves.accounted moves accounted) ih

theorem begun_complete (accounted : s.Accounted fun _ => False) (running : s.registry.running = true)
    (complete : s.registry.Complete) : s.begun.registry.Complete := by
  obtain ⟨x, telemetry, _, _, opens⟩ := s.openSession_opens
  have games : x.telemetry.games = s.exchange.telemetry.games := by
    rw [telemetry]
    rfl
  have opened : s.openSession.2.2.registry.Gauged := by
    rw [opens]
    exact complete.gauged.of_same games rfl rfl
  have awake : s.openSession.2.2.registry.cancelled = false := accounted.attended.awake running
  have asked := Registry.ask_asked (r := s.openSession.2.2.registry) running awake
    (.register s.openSession.1 s.openSession.2.1)
  have kept := Registry.abandoned_ask (Or.inl (asked.running fun _ => RegistryRequest.noConfusion))
  have gauged := opened.ask (.register s.openSession.1 s.openSession.2.1)
  rw [← Registry.send_register] at gauged kept
  exact ⟨gauged, kept.trans complete.abandoned⟩

theorem Between.complete {count : Nat} (between : s.Between (fun _ => False) count) (complete : s.registry.Complete)
    {run : List Incident} (allows : s.Allows (fun _ => False) run) (few : count + (s.arrivals run).length ≤ 2 ^ 64) :
    (s.after run).registry.Complete := by
  induction run generalizing s count with
  | nil => exact complete
  | cons i run ih =>
    rw [arrivals, List.length_append, ← Nat.add_assoc] at few
    have fewer := Nat.le_trans (Nat.le_add_right _ _) few
    refine ih (between.undergo allows.1 fewer).1 ?_ allows.2 few
    by_cases comes : i = .event .connect
    · subst comes
      have running := allows.1.1
      obtain ⟨ref, starts⟩ := between.accounted.begun_starts running (between.numbered.new fewer) allows.1.2
      have begun := starts.accounted between.accounted (between.numbered.new fewer) allows.1.2
      have moves : Moves (fun _ => False) s.begun (s.undergo (.event .connect)) := connect_moves running
      exact moves.complete begun (begun_complete between.accounted running complete)
    · exact (undergo_moves allows.1 comes).complete between.accounted complete

/-- Neither a session nor the registry has anything to do: every session is at rest, and no game has stopped
that the registry has not noticed. -/
structure Quiescent (s : Server) : Prop where
  rest : s.AtRest
  games : ∀ name f, s.registry.fixture? name = some f → f.running = true

/-- The server when all sessions have been told to stop, and none of them has noticed. -/
def told (s : Server) : Server :=
  let refs := s.sessions.values.map fun session => session.ref
  { s with sessionsCancelled := true }.modifyExchange fun x => refs.foldl Exchange.cancel x

/-- What a server may be like while its sessions end. A session that has been told may look at its queue before it
notices. -/
inductive Dismissing (s : Server) : Server → Prop
  | told : Dismissing s s.told
  | notices {t : Server} (c : ConnectionId) : Dismissing s t → Dismissing s (t.tend c)
  | takes {t : Server} {c : ConnectionId} {session : Session} : Dismissing s t → t.session? c = some session →
      session.phase = .active → Dismissing s (t.pumpSession c session)

namespace Dismissing

variable {t : Server} (dismissing : s.Dismissing t)

include dismissing

theorem foldl_tend (cs : List ConnectionId) : s.Dismissing (cs.foldl tend t) := by
  induction cs generalizing t with
  | nil => exact dismissing
  | cons c cs ih => exact ih (dismissing.notices c)

theorem tendRounds (rounds : Nat) : s.Dismissing (tendRounds rounds t) := by
  induction rounds generalizing t with
  | zero => exact dismissing
  | succ rounds ih => exact ih (dismissing.foldl_tend _)

end Dismissing

end Server

/-- A session that has ended because it was told to stop. -/
def Session.dismissed (session : Session) : Session :=
  session.ended .cancelled
    (Server.goodbye (session.phase = Phase.active) .cancelled (some Notice.shuttingDown.encode) none)

theorem Session.sent_dismissed (session : Session) :
    session.dismissed.sent = session.sent ++
      Server.goodbye (session.phase = Phase.active) .cancelled (some Notice.shuttingDown.encode) none := by
  simp [dismissed, ended, note, deliver, become_sent]

namespace Server

variable {foreign : ConnectionId → Prop} {s : Server} {c : ConnectionId} {session : Session}

/-- How far a session has come that there was when all were told to stop. It had ended before, or has not
noticed yet, or has ended because it was told to. -/
inductive Stage (s : Server) (c : ConnectionId) (session : Session) : Prop
  /-- It had ended before. -/
  | gone : session.isLive = false → s.session? c = some session → Stage s c session
  /-- It has not noticed yet. -/
  | told : session.isLive = true → s.session? c = some session → s.exchange.isCancelled session.ref = true →
      (session.phase = .active → s.exchange.waiting session.ref = []) → Stage s c session
  | dismissed : session.isLive = true → s.session? c = some session.dismissed → Stage s c session

/-- Nothing shows of what happens to other sessions and their queues. -/
theorem Stage.elsewhere {t : Server} (stage : s.Stage c session) (same : t.session? c = s.session? c)
    (queue : session.isLive = true → s.session? c = some session →
      t.exchange.outbox? session.ref = s.exchange.outbox? session.ref) : t.Stage c session := by
  cases stage with
  | gone dead found => exact .gone dead (same.trans found)
  | told live found cancelled empty =>
    have queue := queue live found
    refine .told live (same.trans found) ?_ fun active => ?_
    · rw [Exchange.isCancelled, queue]
      exact cancelled
    · rw [Exchange.waiting_eq_of_outbox? queue]
      exact empty active
  | dismissed live found => exact .dismissed live (same.trans found)

structure Parting (before s : Server) : Prop where
  accounted : s.Accounted fun _ => False
  complete : s.registry.Complete
  games : ∀ name f, s.registry.fixture? name = some f → f.running = true
  running : s.registry.running = before.registry.running
  keys : s.sessions.keys = before.sessions.keys
  stage : ∀ c session, before.session? c = some session → s.Stage c session

theorem told_moves (foreign : ConnectionId → Prop) (s : Server) : Moves foreign s s.told := cancelled_moves s _

/-- Whoever is told to stop stays told, and what waits is left as it is. -/
theorem outbox?_foldl_cancel (x : Exchange) (refs : List SessionRef) (ref : SessionRef) {o : Outbox}
    (queue : x.outbox? ref = some o) :
    ∃ later, (refs.foldl Exchange.cancel x).outbox? ref = some later ∧ later.waiting = o.waiting ∧
      (o.isCancelled = true ∨ ref ∈ refs → later.isCancelled = true) := by
  induction refs generalizing x o with
  | nil => exact ⟨o, queue, rfl, fun told => told.resolve_right List.not_mem_nil⟩
  | cons first refs ih =>
    have cancelled : (x.cancel first).outbox? ref = some (if first.queue = ref.queue then o.cancel else o) := by
      rw [Exchange.cancel, Exchange.outbox?_modifyOutbox, queue]
      split <;> rfl
    obtain ⟨later, there, waiting, told⟩ := ih (x.cancel first) cancelled
    refine ⟨later, there, ?_, fun before => told ?_⟩
    · rw [waiting]
      split <;> rfl
    · rcases before with already | member
      · left
        split
        · rfl
        · exact already
      · rcases List.mem_cons.mp member with rfl | rest
        · exact Or.inl (by rw [if_pos rfl]; rfl)
        · exact Or.inr rest

theorem told_parting (accounted : s.Accounted fun _ => False) (complete : s.registry.Complete) (quiet : s.Quiescent) :
    s.Parting s.told where
  accounted := (told_moves (fun _ => False) s).accounted accounted
  complete := (told_moves (fun _ => False) s).complete accounted complete
  games := quiet.games
  running := rfl
  keys := rfl
  stage c session found := by
    cases live : session.isLive with
    | false => exact .gone live found
    | true =>
      obtain ⟨o, queue⟩ := Option.isSome_iff_exists.mp (accounted.queued c session found live)
      have listed : session.ref ∈ s.sessions.values.map fun session => session.ref :=
        List.mem_map.mpr ⟨session, Table.mem_values_iff.mpr ⟨c, found⟩, rfl⟩
      obtain ⟨later, there, waiting, told⟩ := outbox?_foldl_cancel s.exchange _ session.ref queue
      have after : s.told.exchange.outbox? session.ref = some later := there
      refine .told live found ?_ fun active => ?_
      · rw [Exchange.isCancelled, after]
        exact told (Or.inr listed)
      · have before := (quiet.rest c session found live).2 active
        rw [Exchange.waiting, queue] at before
        rw [Exchange.waiting, after]
        exact waiting.trans before

end Server

/-- A registry whose games all go on does no more about a leave than to let the connection go. -/
theorem Registry.ask_unregister {r : Registry} (running : r.running = true) (awake : r.cancelled = false)
    (games : ∀ name f, r.fixture? name = some f → f.running = true) (c : ConnectionId) :
    (∀ s, (r.ask (.unregister c)).2.exchange.outbox? s = r.exchange.outbox? s) ∧
      ∀ name f, (r.ask (.unregister c)).2.fixture? name = some f → f.running = true := by
  have handled := r.handle_undergoes (.unregister c)
  have left : (r.handle (.unregister c)).2 = (r.opened.unregister c).2.closed := by
    rw [handle_running running]
    rfl
  have goes : ∀ name f, (r.handle (.unregister c)).2.fixture? name = some f → f.running = true := by
    rw [left]
    exact running_unregister (r := r.opened) games c
  have on : (r.handle (.unregister c)).2.cancelled = false := by
    have standing := congrArg Standing.cancelled handled.standing
    rw [if_pos running] at standing
    exact standing.trans awake
  have still : (r.ask (.unregister c)).2 = (r.handle (.unregister c)).2 := by
    rw [ask_eq_handle, running]
    exact turn_eq_self (fun name h found => goes name _ (fixture?_of_find? found)) on
  rw [still]
  refine ⟨fun s => ?_, goes⟩
  rw [handled.outbox, if_pos running]
  exact Option.map_id'

namespace Server

variable {foreign : ConnectionId → Prop} {s : Server} {c : ConnectionId} {session : Session}

/-- The end of a session shows in no other queue, and no game stops for it. -/
theorem Accounted.finish_apart (accounted : s.Accounted foreign)
    (games : ∀ name f, s.registry.fixture? name = some f → f.running = true)
    (found : s.session? c = some session) (live : session.isLive = true) {ending : Ending}
    (told : ending ≠ .registryUnavailable) (farewell : Option Package) (peerFrame : Option CloseFrame) :
    (s.finish c ending farewell peerFrame).session? c =
        some (session.ended ending (goodbye (session.phase = Phase.active) ending farewell peerFrame)) ∧
      (∀ ref : SessionRef, ref.queue ≠ session.ref.queue →
        (s.finish c ending farewell peerFrame).exchange.outbox? ref = s.exchange.outbox? ref) ∧
      ∀ name f, (s.finish c ending farewell peerFrame).registry.fixture? name = some f → f.running = true := by
  obtain ⟨x, queues, _, same⟩ := finish_eq found told farewell peerFrame
  have running : ({ s.registry with exchange := x } : Registry).running = true :=
    accounted.running c session found live
  have awake : ({ s.registry with exchange := x } : Registry).cancelled = false := accounted.attended.awake running
  obtain ⟨outbox, goes⟩ := Registry.ask_unregister running awake games c
  rw [same, Registry.send_unregister]
  refine ⟨session?_modifySession_self found _, fun ref other => ?_, goes⟩
  have shut := Exchange.outbox?_modifyOutbox
    (({ s.registry with exchange := x } : Registry).ask (.unregister c)).2.exchange ref session.ref (·.shut)
  rw [if_neg other.symm, outbox] at shut
  exact shut.trans (queues ref other)

namespace Parting

variable {before : Server} (parting : before.Parting s)

include parting

theorem known (found : s.session? c = some session) : ∃ first, before.session? c = some first := by
  have inside : c ∈ before.sessions.keys := parting.keys ▸ Table.mem_keys_of_find? found
  exact Table.mem_keys_iff.mp inside

/-- A session that is live has been told, and has nothing in its queue when it is active. -/
theorem told_of_live (found : s.session? c = some session) (live : session.isLive = true) :
    before.session? c = some session ∧ s.exchange.isCancelled session.ref = true ∧
      (session.phase = .active → s.exchange.waiting session.ref = []) := by
  obtain ⟨first, there⟩ := parting.known found
  cases parting.stage c first there with
  | gone dead found' =>
    cases found.symm.trans found'
    cases dead.symm.trans live
  | told _ found' cancelled empty =>
    cases found.symm.trans found'
    exact ⟨there, cancelled, empty⟩
  | dismissed live' found' =>
    cases found.symm.trans found'
    cases (Session.ended_dead live' _ _).symm.trans live

theorem dismiss (found : s.session? c = some session) (live : session.isLive = true)
    (ends : s.tend c = s.finish c .cancelled (some Notice.shuttingDown.encode) none) : before.Parting (s.tend c) := by
  have moves : Moves (fun _ => False) s (s.tend c) := tend_moves s c
  have told : Ending.cancelled ≠ .registryUnavailable := by decide
  obtain ⟨ended, outbox, goes⟩ := parting.accounted.finish_apart parting.games found live told
    (some Notice.shuttingDown.encode) none
  have parts := parting.accounted.finish_parts found live told (some Notice.shuttingDown.encode) none
  rw [← ends] at ended outbox goes parts
  exact {
    accounted := moves.accounted parting.accounted
    complete := moves.complete parting.accounted parting.complete
    games := goes
    running := by
      rw [parts.running, ← parting.running, parting.accounted.running c session found live]
    keys := moves.sameNumbers.keys.trans parting.keys
    stage := by
      intro d first there
      by_cases here : d = c
      · subst here
        cases (parting.told_of_live found live).1.symm.trans there
        exact .dismissed live ended
      · refine (parting.stage d first there).elsewhere (parts.others d here) fun live' found' =>
          outbox _ fun queue => ?_
        exact here (parting.accounted.apart d c first session found' live' found live queue) }

theorem tend (c : ConnectionId) : before.Parting (s.tend c) := by
  cases found : s.session? c with
  | none =>
    have nothing : s.tend c = s := by simp only [Server.tend, found]
    rw [nothing]
    exact parting
  | some session =>
    cases live : session.isLive with
    | false =>
      have nothing : s.tend c = s := by simp only [Server.tend, found, live, Bool.not_false, if_true]
      rw [nothing]
      exact parting
    | true =>
      obtain ⟨_, cancelled, _⟩ := parting.told_of_live found live
      refine parting.dismiss found live ?_
      simp only [Server.tend, found, live, cancelled, Bool.not_true, Bool.false_eq_true, if_false, if_true]

end Parting

theorem Dismissing.parting (accounted : s.Accounted fun _ => False) (complete : s.registry.Complete)
    (quiet : s.Quiescent) {t : Server} (dismissing : s.Dismissing t) : s.Parting t := by
  induction dismissing with
  | told => exact told_parting accounted complete quiet
  | notices c _ parting => exact parting.tend c
  | takes _ found active parting =>
    -- nothing waits for an active session, so that looking at its queue makes no difference
    have empty := (parting.told_of_live found (Session.isLive_of_active active)).2.2 active
    rw [pumpSession_eq_self empty]
    exact parting

/-- Nobody is registered, there is no game, and nothing is counted. This is what a registry is left with when
all sessions have ended. -/
structure Vacant (s : Server) : Prop where
  members : s.registry.members.keys = []
  unjoined : s.registry.unjoined = []
  games : s.registry.games.keys = []
  sessionsCount : s.exchange.telemetry.sessions = 0
  gamesCount : s.exchange.telemetry.games = 0

theorem Accounted.vacant (accounted : s.Accounted fun _ => False) (complete : s.registry.Complete)
    (none : s.liveCount = 0) : s.Vacant := by
  have unknown := accounted.nobody (liveCount_eq_zero_iff.mp none)
  have games := accounted.attended.housed.games_of_nobody unknown
  exact {
    members := List.eq_nil_iff_forall_not_mem.mpr fun c => Table.find?_eq_none_iff.mp (unknown c)
    unjoined := by
      refine List.eq_nil_iff_forall_not_mem.mpr fun c inside => ?_
      obtain ⟨m, known, _⟩ := (accounted.attended.supervised.listed.unjoined_iff c).mp inside
      cases (unknown c).symm.trans known
    games := games
    sessionsCount := by rw [accounted.counted, none]; rfl
    gamesCount := by
      have size : s.registry.games.size = 0 := by rw [← Table.keys_length, games, List.length_nil]
      exact complete.gauged.trans (by rw [size, complete.abandoned]; rfl) }

/-- When all have had their turns nobody is left who could be told. -/
theorem Parting.none_of_atRest {before : Server} (parting : before.Parting s) (rest : s.AtRest) :
    s.liveCount = 0 := by
  refine liveCount_eq_zero_iff.mpr fun c session found => ?_
  by_contra live
  have live := Bool.eq_true_of_not_eq_false live
  have going := (rest c session found live).1
  cases going.symm.trans (parting.told_of_live found live).2.1

end Server

theorem Registry.running_ask_shutdown (r : Registry) (timeout : Nat) :
    (r.ask (.shutdown timeout)).2.running = false := by
  cases running : r.running with
  | false =>
    rw [ask_stopped running]
    exact running
  | true =>
    have cancelled : (r.handle (.shutdown timeout)).2.reap.cancelled = true := by
      have standing := congrArg Standing.cancelled (r.handle (.shutdown timeout)).2.reap_undergoes.standing
      refine standing.trans ?_
      rw [handle_running running]
      rfl
    rw [ask_eq_handle, running]
    simp only [if_true, turn, cancelled]
    rfl

/-- What may still be done to the health of a server: it may be marked as listening or as draining, any number
of times and in any order. -/
inductive Health.Becomes (h : Health) : Health → Prop
  | same : Becomes h h
  | listening {k : Health} : Becomes h k → Becomes h k.markListening
  | draining {k : Health} : Becomes h k → Becomes h k.drain

theorem Health.Becomes.not_ready {h k : Health} (becomes : h.drain.Becomes k) : k.isReady = false := by
  have draining : k.draining = true := by
    induction becomes with
    | same => rfl
    | listening _ ih => exact ih
    | draining _ _ => rfl
  rw [isReady, draining, Bool.not_true, Bool.and_false]

/-- The last text to a client that has made its handshake. -/
def Server.shutdownText : String :=
  "\x7b\"type\":\"warning\",\"message\":\"Server is shutting down.\",\"closed\":true\x7d"

theorem Server.goodbye_active :
    goodbye true .cancelled (some Notice.shuttingDown.encode) none = [.text shutdownText, .close none] := by
  decide +kernel

theorem Server.goodbye_pending :
    goodbye false .cancelled (some Notice.shuttingDown.encode) none = [.ended] := rfl

namespace Deployment

/-- A deployment that has been told to shut down, with its server as it has become by then. -/
def during (d : Deployment) (server : Server) : Deployment :=
  { d with server, health := d.health.drain, stopped := true }

/-- The server at another point in time. -/
def moment (s : Server) (now : Nat) : Server := s.modifyExchange fun x => { x with now }

/-- A deployment that has been shut down. Its sessions were told first, and each has ended in its own time with
a warning to its client, so that nobody was left whom the registry could close without one. The registry was
told at whatever point in time that was, and given however much time for its games. -/
inductive Ends (d : Deployment) : Deployment → Prop
  | mk {s : Server} (last timeout : Nat) : d.server.Dismissing s → s.liveCount = 0 →
      Ends d (d.during { s with registry := ((moment s last).registry.ask (.shutdown timeout)).2 })

/-- What is left of a deployment that has been shut down. Every session that was there has ended, with a warning
and a close for a client that had made its handshake, and the registry has stopped with nobody in it. -/
structure Ended (d after : Deployment) : Prop where
  /-- A client that has made its handshake is warned, and its line is closed. -/
  active : ∀ c session, d.server.session? c = some session → session.phase = .active →
    ∃ later, after.server.session? c = some later ∧ later.phase = .closed ∧
      later.sent = session.sent ++ [.text Server.shutdownText, .close none]
  /-- The line of any other one is cut. -/
  pending : ∀ c session, d.server.session? c = some session → session.phase = .handshakePending →
    ∃ later, after.server.session? c = some later ∧ later.phase = .closed ∧ later.sent = session.sent ++ [.ended]
  gone : ∀ c session, d.server.session? c = some session → session.isLive = false →
    after.server.session? c = some session
  vacant : after.server.Vacant
  stopped : after.server.registry.running = false

/-- Sessions have ended one after another, and then the registry. -/
theorem Ends.ended {d after : Deployment} (ends : d.Ends after) (accounted : d.server.Accounted fun _ => False)
    (complete : d.server.registry.Complete) (quiet : d.server.Quiescent) : d.Ended after := by
  obtain @⟨s, last, timeout, dismissing, none⟩ := ends
  have parting := dismissing.parting accounted complete quiet
  have dead := Server.liveCount_eq_zero_iff.mp none
  have waits : Server.Moves (fun _ => False) s (moment s last) :=
    (Server.Move.queues { s.exchange with now := last } (.of_gauges .rfl fun _ there => there)).moves
  have asks : Server.Moves (fun _ => False) s
      { s with registry := ((moment s last).registry.ask (.shutdown timeout)).2 } :=
    waits.tail (Server.Move.ask (.shutdown timeout) none)
  have dismissed : ∀ {c session}, d.server.session? c = some session → session.isLive = true →
      s.session? c = some session.dismissed ∧ session.dismissed.phase = .closed := by
    intro c session found live
    refine ⟨?_, congrArg Course.phase (Session.course_ended live .cancelled _)⟩
    cases parting.stage c session found with
    | gone dead' _ => cases dead'.symm.trans live
    | told _ found' => cases (dead c session found').symm.trans live
    | dismissed _ found' => exact found'
  exact {
    active := by
      intro c session found active
      obtain ⟨found', closed⟩ := dismissed found (Session.isLive_of_active active)
      refine ⟨_, found', closed, ?_⟩
      rw [Session.sent_dismissed, active]
      exact congrArg (session.sent ++ ·) Server.goodbye_active
    pending := by
      intro c session found pending
      obtain ⟨found', closed⟩ := dismissed found (Session.isLive_iff.mpr (Or.inl pending))
      refine ⟨_, found', closed, ?_⟩
      rw [Session.sent_dismissed, pending]
      exact congrArg (session.sent ++ ·) Server.goodbye_pending
    gone := by
      intro c session found dead'
      cases parting.stage c session found with
      | gone _ found' => exact found'
      | told live _ => cases dead'.symm.trans live
      | dismissed live _ => cases dead'.symm.trans live
    vacant := (asks.accounted parting.accounted).vacant (asks.complete parting.accounted parting.complete) none
    stopped := Registry.running_ask_shutdown .. }

theorem close_ends {d : Deployment} (accounted : d.server.Accounted fun _ => False)
    (complete : d.server.registry.Complete) (quiet : d.server.Quiescent) (last timeout : Nat) :
    (d.close last timeout).1 = (if d.server.registry.running then .ok () else .error .unreachable) ∧
      d.Ends (d.close last timeout).2 := by
  have told := Server.told_parting accounted complete quiet
  have settles : d.server.Dismissing d.server.told.settle := Server.Dismissing.told.tendRounds _
  have parting := settles.parting accounted complete quiet
  have none := parting.none_of_atRest told.accounted.settle_atRest
  have cancels : d.server.cancelSessions = d.server.told.settle := rfl
  have answers : ((moment d.server.told.settle last).registry.send fun r => ((), r.beginShutdown timeout)).1 =
      if d.server.registry.running then .ok () else .error .unreachable := by
    rw [← parting.running, Registry.send]
    split
    · rename_i running
      exact (if_pos running).symm
    · rename_i stopped
      exact (if_neg stopped).symm
  -- all have ended, so that nobody has anything to do when the registry has
  have rest : ({ d.server.told.settle with
      registry := ((moment d.server.told.settle last).registry.ask (.shutdown timeout)).2 } : Server).AtRest := by
    intro c session found live
    cases (Server.liveCount_eq_zero_iff.mp none c session found).symm.trans live
  have settled : ({ moment d.server.told.settle last with
      registry := ((moment d.server.told.settle last).registry.ask (.shutdown timeout)).2 } : Server).settle =
      { d.server.told.settle with
        registry := ((moment d.server.told.settle last).registry.ask (.shutdown timeout)).2 } := rest.tendRounds _
  simp only [close, Server.sendRegistry, cancels, Registry.send_beginShutdown]
  exact ⟨answers, by rw [← moment, settled]; exact .mk last timeout settles none⟩

/-- What it is for a deployment to be shut down, in whatever order its sessions notice and whether or not they
look at their queues before. From the beginning on it is not ready, whatever is still done to its health. -/
structure ShutsDown (d : Deployment) (now later last timeout : Nat) : Prop where
  completes : ∃ after, d.shutdown now later last timeout =
      some (if d.server.registry.running then .ok () else .error .unreachable, after) ∧ d.Ends after
  /-- Sessions and games share one deadline. -/
  shared : ∀ deadline, Clock.after? now timeout = some deadline → later + Clock.remaining later deadline = deadline
  /-- In whatever order the sessions end, and whether or not they look at their queues before. -/
  ended : ∀ after, d.Ends after → d.Ended after
  /-- No client reads anything until its session ends. -/
  underway : ∀ s, d.server.Dismissing s → ∀ c session, d.server.session? c = some session →
    s.session? c = some session ∨ session.isLive = true ∧ s.session? c = some session.dismissed
  unready : ∀ s, d.server.Dismissing s → ∀ health, (d.during s).health.Becomes health → health.isReady = false
  unready_after : ∀ after, d.Ends after → ∀ health, after.health.Becomes health → health.isReady = false

/-- From its start on, and whatever has happened to its server, a deployment that is quiet can be shut down:
every session ends in its own time with a warning to its client, and nothing is left in the registry. -/
theorem shuts_down {n n' : Network} {settings : Settings} {d : Deployment}
    (started : Deployment.start n settings = .ok (d, n')) {run : List Incident}
    (allows : d.server.Allows (fun _ => False) run) (few : (d.server.arrivals run).length ≤ 2 ^ 64)
    (quiet : (d.server.after run).Quiescent) {now later timeout deadline : Nat}
    (due : Clock.after? now timeout = some deadline) (inTime : later ≤ deadline) (last : Nat) :
    ({ d with server := d.server.after run } : Deployment).ShutsDown now later last timeout := by
  have server : d.server = .create settings.maxPlayersPerTeam (settings.handshakeTimeoutSeconds * 1000) := by
    rw [start] at started
    split at started
    · cases started
    · cases started
      rfl
  have begin' : d.server.Between (fun _ => False) 0 := by
    rw [server]
    exact ⟨Server.create_accounted .., Server.create_numbered ..⟩
  obtain ⟨⟨accounted, _⟩, _⟩ := begin'.after allows (by rwa [Nat.zero_add])
  have complete : (d.server.after run).registry.Complete :=
    begin'.complete (by rw [server]; exact Registry.create_complete _) allows (by rwa [Nat.zero_add])
  obtain ⟨answer, ends⟩ := close_ends (d := { d with server := d.server.after run }) accounted complete quiet last
    (Clock.remaining later deadline)
  exact {
    completes := by
      refine ⟨_, ?_, ends⟩
      simp only [shutdown, due]
      exact congrArg some (Prod.ext answer rfl)
    shared := by
      intro other same
      cases due.symm.trans same
      rw [Clock.remaining]
      omega
    ended := fun after ends => ends.ended accounted complete quiet
    underway := by
      intro s dismissing c session found
      cases (dismissing.parting accounted complete quiet).stage c session found with
      | gone _ found' => exact Or.inl found'
      | told _ found' => exact Or.inl found'
      | dismissed live found' => exact Or.inr ⟨live, found'⟩
    unready := fun s _ health becomes => becomes.not_ready
    unready_after := by
      rintro after ⟨_, _, _, _⟩ health becomes
      exact Health.Becomes.not_ready becomes }

/-- Two clients make their handshakes, one of them is put into a game, and a third one has come. -/
def gathering : List Incident :=
  [.event .connect, .event .connect, .event (.handshake ⟨1⟩), .event (.handshake ⟨2⟩),
    .request (.join ⟨⟨1⟩, "ring", "Ada", .first, none⟩), .event .connect]

def loopback : Settings :=
  { bindAddress := .v4 [127, 0, 0, 1] 8080, healthBindAddress := .v4 [127, 0, 0, 1] 8081, serverId := "one",
    maxPlayersPerTeam := 2, handshakeTimeoutSeconds := 10, shutdownTimeoutSeconds := 30 }

def fresh : Deployment :=
  { settings := loopback, server := .create 2 10000, health := Health.initial.markListening, stopped := false }

theorem shuts_down_gathering :
    Deployment.start ⟨[]⟩ loopback = .ok (fresh, ⟨[loopback.bindAddress]⟩) ∧
      fresh.server.Allows (fun _ => False) (gathering ++ [.settle]) ∧
      (fresh.server.arrivals (gathering ++ [.settle])).length ≤ 2 ^ 64 ∧
      (fresh.server.after (gathering ++ [.settle])).Quiescent ∧
      Clock.after? (100 * Clock.second) (30 * Clock.second) = some (130 * Clock.second) ∧
      ({ fresh with server := fresh.server.after (gathering ++ [.settle]) } : Deployment).ShutsDown
        (100 * Clock.second) (110 * Clock.second) (111 * Clock.second) (30 * Clock.second) := by
  have started : Deployment.start ⟨[]⟩ loopback = .ok (fresh, ⟨[loopback.bindAddress]⟩) := rfl
  have allows : fresh.server.Allows (fun _ => False) (gathering ++ [.settle]) :=
    ⟨⟨rfl, not_false⟩, ⟨by decide +kernel, not_false⟩, trivial, trivial, trivial, ⟨by decide +kernel, not_false⟩,
      trivial, trivial⟩
  have few : (fresh.server.arrivals (gathering ++ [.settle])).length ≤ 2 ^ 64 := by decide +kernel
  have quiet : (fresh.server.after (gathering ++ [.settle])).Quiescent := by
    have between : fresh.server.Between (fun _ => False) 0 :=
      ⟨Server.create_accounted .., Server.create_numbered ..⟩
    obtain ⟨⟨accounted, _⟩, _⟩ := between.after allows.append.1 (by decide +kernel)
    have none : (fresh.server.after (gathering ++ [.settle])).registry.stoppedGames = [] := by decide +kernel
    refine ⟨accounted.settle_atRest, fun name f there => ?_⟩
    by_contra stopped
    have inside := Registry.mem_stoppedGames_iff.mpr (show Registry.hasStopped _ name = true by
      rw [Registry.hasStopped, there]
      simpa using stopped)
    rw [none] at inside
    cases inside
  exact ⟨started, allows, few, quiet, rfl, shuts_down started allows few quiet rfl (by decide) _⟩

end Deployment

end Scrimmage
