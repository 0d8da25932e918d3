import Scrimmage.Proofs.Calls
import Scrimmage.Proofs.Endings
import Scrimmage.Proofs.Quiet

namespace Scrimmage

/-- The change lets a session go on with its queue; it may become active. -/
structure Session.GoesOn (f : Session → Session) : Prop where
  ref : ∀ session, (f session).ref = session.ref
  isLive : ∀ session, (f session).isLive = session.isLive
  pending : ∀ session, (f session).phase = .handshakePending → session.phase = .handshakePending

theorem Session.GoesOn.id : Session.GoesOn id := ⟨fun _ => rfl, fun _ => rfl, fun _ pending => pending⟩

namespace Server

def waitingFor (s : Server) (c : ConnectionId) : List (List UInt8) :=
  match s.session? c with
  | none => []
  | some session => if session.isLive then payloads (s.exchange.waiting session.ref) else []

/-- What a client has been sent and has not read. -/
def sent (s : Server) (c : ConnectionId) : List ServerFrame := ((s.session? c).map (·.sent)).getD []

/-- The texts that a client has been sent, with those that wait for it. -/
def heard (s : Server) (c : ConnectionId) : List (List UInt8) := texts (s.sent c) ++ s.waitingFor c

theorem heard_of_quiet {s : Server} (quiet : s.Quiet) (c : ConnectionId) : s.heard c = texts (s.sent c) := by
  have nothing : s.waitingFor c = [] := by
    rw [waitingFor]
    split
    · rfl
    · rename_i session found
      split
      · rename_i live
        rw [quiet c session found live]
        rfl
      · rfl
  rw [heard, nothing, List.append_nil]

theorem heard_found {s : Server} {c : ConnectionId} {session : Session} (found : s.session? c = some session) :
    s.heard c = texts session.sent ++
      if session.isLive then payloads (s.exchange.waiting session.ref) else [] := by
  simp only [heard, sent, waitingFor, found, Option.map_some, Option.getD_some]

theorem heard_absent {s : Server} {c : ConnectionId} (absent : s.session? c = none) : s.heard c = [] := by
  simp only [heard, sent, waitingFor, absent, Option.map_none, Option.getD_none]
  rfl

/-- A client hears the same of two servers in which its session and its queue are the same. -/
theorem heard_congr {s after : Server} {c : ConnectionId} (session : after.session? c = s.session? c)
    (queue : ∀ found, s.session? c = some found → found.isLive = true →
      after.exchange.outbox? found.ref = s.exchange.outbox? found.ref) : after.heard c = s.heard c := by
  cases found : s.session? c with
  | none => rw [heard_absent found, heard_absent (session.trans found)]
  | some kept =>
    rw [heard_found found, heard_found (session.trans found)]
    cases live : kept.isLive with
    | false => rfl
    | true => rw [Exchange.waiting_eq_of_outbox? (queue kept found live)]

namespace Orderly

variable {s : Server} {capacity : Nat} (orderly : s.Orderly capacity)

include orderly

/-- To run until nothing is left to do changes nothing in what a client hears. -/
theorem heard_settle (c : ConnectionId) : s.settle.heard c = s.heard c := by
  rw [heard_of_quiet orderly.settle_quiet]
  cases found : s.session? c with
  | none =>
    rw [heard_absent found, sent, orderly.settle_tended.session, found]
    rfl
  | some session =>
    rw [heard_found found, sent, orderly.settle_tended.session, found, Option.map_some, Option.map_some,
      Option.getD_some]
    by_cases active : session.phase = .active
    · have live := Session.isLive_of_active active
      rw [if_pos ⟨Table.mem_keys_of_find? found, active⟩, Session.sent_deliver, texts_append,
        orderly.spoken_eq found live, if_pos live]
    · rw [if_neg (by simp [active])]
      cases live : session.isLive with
      | false => simp
      | true =>
        have pending := (Session.isLive_iff.mp live).resolve_right active
        rw [((orderly.attends c session found live).pending pending).2]
        simp [payloads]

theorem live_of_registered {c : ConnectionId} {m : Member} (known : s.registry.members.find? c = some m) :
    ∃ session, s.session? c = some session ∧ session.isLive = true ∧
      m = { game := session.game.map (·.name), session := session.ref } := by
  obtain ⟨session, found, live⟩ := orderly.registered c m known
  exact ⟨session, found, live, Option.some.inj (known.symm.trans (orderly.attends c session found live).member)⟩

theorem owned {c : ConnectionId} {session : Session} (found : s.session? c = some session)
    (live : session.isLive = true) {d : ConnectionId} {m : Member} (known : s.registry.members.find? d = some m)
    (queue : m.session.queue = session.ref.queue) : d = c := by
  obtain ⟨other, found', live', rfl⟩ := orderly.live_of_registered known
  exact orderly.apart d c other session found' live' found live queue

theorem queue_iff {c d : ConnectionId} {session other : Session} (found : s.session? c = some session)
    (live : session.isLive = true) (found' : s.session? d = some other) (live' : other.isLive = true) :
    session.ref.queue = other.ref.queue ↔ d = c := by
  constructor
  · intro queue
    exact (orderly.apart c d session other found live found' live' queue).symm
  · rintro rfl
    cases found.symm.trans found'
    rfl

theorem accepts {d : ConnectionId} {m : Member} (known : s.registry.members.find? d = some m) :
    s.exchange.accepts m.session = true := by
  obtain ⟨session, found, live, rfl⟩ := orderly.live_of_registered known
  obtain ⟨o, queue, isOpen, _⟩ := (orderly.attends d session found live).queue
  rw [Exchange.accepts, queue, Option.any_some, isOpen]

end Orderly

/-- What it is for frames to be put into the queues of sessions while the sessions go on: they keep their
queues, and may become active or turn to other games. What a client has been sent and what waits for it are
counted together, so that running until nothing is left to do makes no difference. -/
structure Queues (s : Server) (capacity : Nat) (commands : ConnectionId → List Command) (after : Server) : Prop where
  serves : after.registry.Serves capacity
  going : after.sessionsCancelled = s.sessionsCancelled
  session : ∀ d, ∃ f, after.session? d = (s.session? d).map f ∧ Session.GoesOn f
  queue : ∀ d session, s.session? d = some session → session.isLive = true →
    after.exchange.outbox? session.ref = (s.exchange.outbox? session.ref).map (Exchange.extended · (commands d))
  frames : ∀ d, ∀ command ∈ commands d, command.IsFrame
  /-- Nothing is put into the queue of a session that is not active. -/
  active : ∀ d, commands d ≠ [] → ∃ session, s.session? d = some session ∧ session.phase = .active
  member : ∀ d session, after.session? d = some session → session.isLive = true →
    after.registry.members.find? d = some { game := session.game.map (·.name), session := session.ref }
  game : ∀ d session ref, after.session? d = some session → session.isLive = true → session.game = some ref →
    after.registry.gameRef? ref.name = some ref ∧ session.phase = .active
  registered : ∀ d m, after.registry.members.find? d = some m → ∃ m', s.registry.members.find? d = some m'

namespace Queues

variable {s after : Server} {capacity : Nat} {commands : ConnectionId → List Command}
  (orderly : s.Orderly capacity) (queues : s.Queues capacity commands after)

include queues

theorem back {d : ConnectionId} {later : Session} (found : after.session? d = some later) :
    ∃ session, s.session? d = some session ∧ later.ref = session.ref ∧ later.isLive = session.isLive ∧
      (later.phase = .handshakePending → session.phase = .handshakePending) := by
  obtain ⟨f, same, keeps⟩ := queues.session d
  rw [same, Option.map_eq_some_iff] at found
  obtain ⟨session, found, rfl⟩ := found
  exact ⟨session, found, keeps.ref session, keeps.isLive session, keeps.pending session⟩

theorem forth {d : ConnectionId} {session : Session} (found : s.session? d = some session) :
    ∃ later, after.session? d = some later ∧ later.ref = session.ref ∧ later.isLive = session.isLive := by
  obtain ⟨f, same, keeps⟩ := queues.session d
  rw [found, Option.map_some] at same
  exact ⟨_, same, keeps.ref session, keeps.isLive session⟩

include orderly

theorem waiting {d : ConnectionId} {session : Session} (found : s.session? d = some session)
    (live : session.isLive = true) :
    after.exchange.waiting session.ref = s.exchange.waiting session.ref ++ commands d := by
  obtain ⟨o, queue, isOpen, _⟩ := (orderly.attends d session found live).queue
  have accepts : s.exchange.accepts session.ref = true := by rw [Exchange.accepts, queue, Option.any_some, isOpen]
  rw [Exchange.waiting_extended (queues.queue d session found live), if_pos accepts]

theorem quiet (quiet : s.Quiet) (nothing : ∀ d, commands d = []) : after.Quiet := by
  intro d later found live
  obtain ⟨session, found', ref, sameLive, _⟩ := queues.back found
  have live' := sameLive.symm.trans live
  rw [ref, queues.waiting orderly found' live', quiet d session found' live', nothing, List.append_nil]

theorem keeps : after.Orderly capacity where
  serves := queues.serves
  going := queues.going.trans orderly.going
  attends := by
    intro d later found live
    obtain ⟨session, found', ref, sameLive, phase⟩ := queues.back found
    have live' := sameLive.symm.trans live
    have attends := orderly.attends d session found' live'
    obtain ⟨o, queue, isOpen, cancelled, frames⟩ := attends.queue
    refine ⟨?_, queues.member d later found live, ?_, ?_⟩
    · have outbox := queues.queue d session found' live'
      rw [queue, Option.map_some] at outbox
      rw [ref]
      refine ⟨_, outbox, ?_⟩
      rw [Exchange.extended, if_pos isOpen]
      refine ⟨isOpen, cancelled, ?_⟩
      intro command member
      exact (List.mem_append.mp member).elim (frames command) (queues.frames d command)
    · intro game joined
      exact (queues.game d later game found live joined).1
    · intro pending
      constructor
      · cases joined : later.game with
        | none => rfl
        | some game =>
          have active := (queues.game d later game found live joined).2
          rw [pending] at active
          cases active
      · -- a session that waits for its handshake is not active, so nothing was put into its queue
        have nothing : commands d = [] := by
          by_contra given
          obtain ⟨active, found'', phase'⟩ := queues.active d given
          cases found'.symm.trans found''
          cases phase'.symm.trans (phase pending)
        rw [ref, queues.waiting orderly found' live', nothing, (attends.pending (phase pending)).2]
        rfl
  apart := by
    intro c d later other found live found' live' queue
    obtain ⟨session, before, ref, sameLive, _⟩ := queues.back found
    obtain ⟨session', before', ref', sameLive', _⟩ := queues.back found'
    exact orderly.apart c d session session' before (sameLive.symm.trans live) before' (sameLive'.symm.trans live')
      (by rw [← ref, ← ref', queue])
  registered := by
    intro c m known
    obtain ⟨m', known'⟩ := queues.registered c m known
    obtain ⟨session, found, live⟩ := orderly.registered c m' known'
    obtain ⟨later, found', _, sameLive⟩ := queues.forth found
    exact ⟨later, found', sameLive.trans live⟩

theorem heard (d : ConnectionId) (sent : texts (after.sent d) = texts (s.sent d)) :
    after.heard d = s.heard d ++ payloads (commands d) := by
  cases found : s.session? d with
  | none =>
    have nothing : commands d = [] := by
      by_contra given
      obtain ⟨active, found', _⟩ := queues.active d given
      cases found.symm.trans found'
    obtain ⟨f, same, _⟩ := queues.session d
    rw [heard_absent found, heard_absent (by rw [same, found, Option.map_none]), nothing]
    rfl
  | some session =>
    obtain ⟨later, found', ref, sameLive⟩ := queues.forth found
    simp only [Server.sent, found, found', Option.map_some, Option.getD_some] at sent
    rw [heard_found found, heard_found found', sameLive, ref, sent]
    cases live : session.isLive with
    | true => simp only [if_true, queues.waiting orderly found live, payloads_append, List.append_assoc]
    | false =>
      have nothing : commands d = [] := by
        by_contra given
        obtain ⟨active, found'', phase⟩ := queues.active d given
        cases found.symm.trans found''
        rw [Session.isLive_of_active phase] at live
        cases live
      rw [nothing]
      simp [payloads]

end Queues

/-- What a session puts into its own queue. -/
def own (c : ConnectionId) (commands : List Command) (d : ConnectionId) : List Command :=
  if d = c then commands else []

theorem frames_own {c : ConnectionId} {p : Package} (isText : IsText p.octets) (d : ConnectionId) :
    ∀ command ∈ own c [.write p] d, command.IsFrame := by
  intro command member
  rw [own] at member
  split at member
  · exact ⟨p, List.mem_singleton.mp member, isText⟩
  · cases member

theorem active_own {s : Server} {c : ConnectionId} {session : Session} (found : s.session? c = some session)
    (active : session.phase = .active) {commands : List Command} (d : ConnectionId) (given : own c commands d ≠ []) :
    ∃ session, s.session? d = some session ∧ session.phase = .active := by
  have here : d = c := by
    by_contra other
    exact given (if_neg other)
  exact ⟨session, here ▸ found, active⟩

/-- What a frame that is passed on to a game puts into the queue of a connection. -/
def shares (r : Registry) (name : String) (p : Package) (d : ConnectionId) : List Command :=
  if r.recorded? d = some name then [.write p] else []

section

variable {s : Server} {capacity : Nat} (orderly : s.Orderly capacity) {c : ConnectionId} {session : Session}
  (found : s.session? c = some session)

include orderly found

theorem Orderly.relay (live : session.isLive = true) {ref : GameRef} (joined : session.game = some ref)
    {p : Package} (isText : IsText p.octets) :
    s.Queues capacity (shares s.registry ref.name p)
      { s with registry := (s.registry.askGame ref (.broadcast p)).2 } := by
  have at' := (orderly.attends c session found live).game ref joined
  obtain ⟨_, relays⟩ := orderly.serves.coherent.relays at' p
  exact {
    serves := orderly.serves.askGame ref trivial
    going := rfl
    session := fun d => ⟨id, (congrFun Option.map_id _).symm, .id⟩
    queue := by
      intro d other found' live'
      have attends := orderly.attends d other found' live'
      have queue := relays.outbox d _ other.ref attends.member rfl fun d' m' known queue =>
        orderly.owned found' live' known queue
      simp only [shares, Registry.recorded?, attends.member, Option.bind_some]
      exact queue
    frames := by
      intro d command member
      rw [shares] at member
      split at member
      · exact ⟨p, List.mem_singleton.mp member, isText⟩
      · cases member
    active := by
      intro d given
      have recorded : s.registry.recorded? d = some ref.name := by
        by_contra other
        exact given (if_neg other)
      obtain ⟨m, known, inside⟩ := Registry.recorded?_eq_some_iff.mp recorded
      obtain ⟨other, found', live', rfl⟩ := orderly.live_of_registered known
      obtain ⟨ref', joined', _⟩ := Option.map_eq_some_iff.mp inside
      exact ⟨other, found', (orderly.attends d other found' live').active live' joined'⟩
    member := by
      intro d other found' live'
      rw [relays.members]
      exact (orderly.attends d other found' live').member
    game := by
      intro d other ref' found' live' joined'
      have attends := orderly.attends d other found' live'
      exact ⟨(relays.refs _).trans (attends.game ref' joined'), attends.active live' joined'⟩
    registered := by
      intro d m known
      rw [relays.members] at known
      exact ⟨m, known⟩ }

theorem Orderly.reply (active : session.phase = .active) {r : Registry} (serves : r.Serves capacity)
    (members : r.members = s.registry.members) (refs : ∀ other, r.gameRef? other = s.registry.gameRef? other)
    (outboxes : r.exchange.outboxes = s.exchange.outboxes) {p : Package} (isText : IsText p.octets) :
    s.Queues capacity (own c [.write p])
      ({ s with registry := r }.modifyExchange (·.offer session.ref (.write p))) where
  serves := serves.queues _
  going := rfl
  session d := ⟨id, (congrFun Option.map_id _).symm, .id⟩
  queue := by
    intro d other found' live'
    have same : r.exchange.outbox? other.ref = s.exchange.outbox? other.ref := by
      rw [Exchange.outbox?, outboxes, Exchange.outbox?]
    have queue := Exchange.outbox?_offer r.exchange other.ref session.ref (.write p)
    have whose := orderly.queue_iff found (Session.isLive_of_active active) found' live'
    simp only [whose, same] at queue
    exact queue
  frames := frames_own isText
  active := active_own found active
  member := by
    intro d other found' live'
    refine Eq.trans ?_ (orderly.attends d other found' live').member
    exact congrArg (Table.find? · d) members
  game := by
    intro d other ref found' live' joined
    have attends := orderly.attends d other found' live'
    exact ⟨(refs ref.name).trans (attends.game ref joined), attends.active live' joined⟩
  registered := by
    intro d m known
    exact ⟨m, members ▸ known⟩

/-- A session that is let into a game turns to it, and its welcome is in its queue already. -/
theorem Orderly.turn (active : session.phase = .active) {r : Registry} (serves : r.Serves capacity)
    {q : JoinRequest} {ref : GameRef} {placement : Placement}
    (letsIn : s.registry.LetsIn (q.application c) session.ref ref placement r) :
    s.Queues capacity (own c [.write (Game.welcome q.id placement)])
      ({ s with registry := r }.modifySession c fun session => { session with game := some ref }) where
  serves := serves
  going := rfl
  session d := by
    rw [session?_modifySession]
    split
    · exact ⟨_, rfl, fun _ => rfl, fun _ => rfl, fun _ => id⟩
    · exact ⟨id, (congrFun Option.map_id _).symm, .id⟩
  queue := by
    intro d other found' live'
    have whose := orderly.queue_iff found (Session.isLive_of_active active) found' live'
    have queue := letsIn.outbox other.ref
    simp only [whose] at queue
    exact queue
  frames := frames_own (Notice.encode_isText _)
  active := active_own found active
  member := by
    intro d later found' live'
    rw [session?_modifySession] at found'
    have members : r.members.find? d = if d = c then _ else _ :=
      (congrArg (Table.find? · d) letsIn.members).trans (Table.find?_modify ..)
    refine members.trans ?_
    split at found'
    · rename_i here
      subst here
      obtain ⟨before, found'', rfl⟩ := Option.map_eq_some_iff.mp found'
      cases found.symm.trans found''
      have known := (orderly.attends d session found (Session.isLive_of_active active)).member
      rw [if_pos rfl, known, Option.map_some, ← letsIn.name_eq]
      rfl
    · rename_i there
      rw [if_neg there]
      exact (orderly.attends d later found' live').member
  game := by
    intro d later ref' found' live' joined
    rw [session?_modifySession] at found'
    split at found'
    · rename_i here
      subst here
      obtain ⟨before, found'', rfl⟩ := Option.map_eq_some_iff.mp found'
      cases found.symm.trans found''
      cases joined
      refine ⟨?_, active⟩
      rw [letsIn.name_eq]
      exact letsIn.found
    · have attends := orderly.attends d later found' live'
      exact ⟨letsIn.kept _ _ (attends.game ref' joined), attends.active live' joined⟩
  registered := by
    intro d m known
    rw [registry_modifySession, letsIn.members, Table.find?_modify] at known
    split at known
    · obtain ⟨m', known', _⟩ := Option.map_eq_some_iff.mp known
      exact ⟨m', known'⟩
    · exact ⟨m, known⟩

end

/-- A session goes on as it is, but for what has nothing to do with its queue and its game. -/
theorem Orderly.touch {s : Server} {capacity : Nat} (orderly : s.Orderly capacity) (c : ConnectionId)
    {f : Session → Session} (keeps : Session.GoesOn f) (game : ∀ session, (f session).game = session.game) :
    s.Queues capacity (fun _ => []) (s.modifySession c f) := by
  have kept : ∀ d, ∃ g, (s.modifySession c f).session? d = (s.session? d).map g ∧ Session.GoesOn g ∧
      ∀ session, (g session).game = session.game := by
    intro d
    rw [session?_modifySession]
    split
    · exact ⟨f, rfl, keeps, game⟩
    · exact ⟨id, (congrFun Option.map_id _).symm, .id, fun _ => rfl⟩
  have back : ∀ {d later}, (s.modifySession c f).session? d = some later → later.isLive = true →
      ∃ session, s.session? d = some session ∧ session.isLive = true ∧ later.ref = session.ref ∧
        later.game = session.game ∧ (later.phase = .handshakePending → session.phase = .handshakePending) := by
    intro d later found live
    obtain ⟨g, same, keeps, game⟩ := kept d
    rw [same, Option.map_eq_some_iff] at found
    obtain ⟨session, found, rfl⟩ := found
    exact ⟨session, found, (keeps.isLive session).symm.trans live, keeps.ref session, game session,
      keeps.pending session⟩
  exact {
    serves := orderly.serves
    going := rfl
    session := fun d => (kept d).imp fun _ all => ⟨all.1, all.2.1⟩
    queue := by
      intro d session _ _
      simp
    frames := nofun
    active := fun _ given => absurd rfl given
    member := by
      intro d later found live
      obtain ⟨session, found', live', ref, game', _⟩ := back found live
      rw [ref, game']
      exact (orderly.attends d session found' live').member
    game := by
      intro d later ref found live joined
      obtain ⟨session, found', live', _, game', phase⟩ := back found live
      have attends := orderly.attends d session found' live'
      rw [game'] at joined
      refine ⟨attends.game ref joined, (Session.isLive_iff.mp live).resolve_left fun pending => ?_⟩
      cases (attends.active live' joined).symm.trans (phase pending)
    registered := fun d m known => ⟨m, known⟩ }

/-- What it is for a session to end: the registry lets it go, and the other sessions are as they were. -/
structure Ends (s : Server) (capacity : Nat) (c : ConnectionId) (session : Session) (after : Server) : Prop where
  serves : after.registry.Serves capacity
  going : after.sessionsCancelled = s.sessionsCancelled
  others : ∀ d, d ≠ c → after.session? d = s.session? d
  own : ∃ ended, after.session? c = some ended ∧ ended.isLive = false ∧ texts ended.sent = texts session.sent
  members : after.registry.members = s.registry.members.erase c
  refs : ∀ d m name ref, d ≠ c → s.registry.members.find? d = some m → m.game = some name →
    s.registry.gameRef? name = some ref → after.registry.gameRef? name = some ref
  queues : ∀ ref : SessionRef, ref.queue ≠ session.ref.queue →
    after.exchange.outbox? ref = s.exchange.outbox? ref

namespace Ends

variable {s after : Server} {capacity : Nat} {c : ConnectionId} {session : Session}
  (ends : s.Ends capacity c session after)

include ends

theorem other {d : ConnectionId} {later : Session} (found : after.session? d = some later)
    (live : later.isLive = true) : d ≠ c ∧ s.session? d = some later := by
  by_cases here : d = c
  · obtain ⟨ended, own, dead, _⟩ := ends.own
    rw [here, own] at found
    cases found
    cases dead.symm.trans live
  · exact ⟨here, (ends.others d here).symm.trans found⟩

variable (orderly : s.Orderly capacity) (found : s.session? c = some session) (live : session.isLive = true)

include orderly found live

theorem queue_kept {d : ConnectionId} {other : Session} (there : d ≠ c) (found' : s.session? d = some other)
    (live' : other.isLive = true) : after.exchange.outbox? other.ref = s.exchange.outbox? other.ref :=
  ends.queues other.ref fun queue => there ((orderly.queue_iff found live found' live').mp queue.symm)

theorem keeps : after.Orderly capacity where
  serves := ends.serves
  going := ends.going.trans orderly.going
  attends := by
    intro d later found' live'
    obtain ⟨there, before⟩ := ends.other found' live'
    have attends := orderly.attends d later before live'
    have queue := ends.queue_kept orderly found live there before live'
    refine ⟨?_, ?_, ?_, ?_⟩
    · rw [queue]
      exact attends.queue
    · rw [ends.members, Table.find?_erase, if_neg there, attends.member]
    · intro ref joined
      exact ends.refs d _ ref.name ref there attends.member (by rw [joined, Option.map_some]) (attends.game ref joined)
    · rw [Exchange.waiting_eq_of_outbox? queue]
      exact attends.pending
  apart := by
    intro d e later other found' live' found'' live''
    obtain ⟨_, before⟩ := ends.other found' live'
    obtain ⟨_, before'⟩ := ends.other found'' live''
    exact orderly.apart d e later other before live' before' live''
  registered := by
    intro d m known
    rw [ends.members, Table.find?_erase] at known
    split at known
    · cases known
    · rename_i there
      rw [ends.others d there]
      exact orderly.registered d m known

theorem heard (quiet : s.Quiet) (d : ConnectionId) : after.heard d = s.heard d := by
  by_cases here : d = c
  · subst here
    obtain ⟨ended, own, dead, sent⟩ := ends.own
    rw [heard_found own, heard_found found, dead, live, quiet d session found live, sent]
    rfl
  · exact heard_congr (ends.others d here) fun other found' live' =>
      ends.queue_kept orderly found live here found' live'

theorem quiet (quiet : s.Quiet) : after.Quiet := by
  intro d later found' live'
  obtain ⟨there, before⟩ := ends.other found' live'
  rw [Exchange.waiting_eq_of_outbox? (ends.queue_kept orderly found live there before live'),
    quiet d later before live']

end Ends

/-- Only texts that were queued before are texts; the frames at the end of a session are none. -/
theorem texts_goodbye (wasActive : Bool) (ending : Ending) (peerFrame : Option CloseFrame) :
    texts (goodbye wasActive ending none peerFrame) = [] := by
  rw [goodbye]
  split
  · rfl
  · split <;> rfl

/-- A live session that ends is closed, and what its client has been sent at the end comes last. -/
theorem ended_live {session : Session} (live : session.isLive = true) (ending : Ending)
    (frames : List ServerFrame) :
    (session.ended ending frames).phase = .closed ∧ (session.ended ending frames).sent = session.sent ++ frames := by
  rcases Session.isLive_iff.mp live with pending | active
  · simp [Session.ended, Session.become, Session.deliver, Session.note, pending, Phase.canBecome]
  · simp [Session.ended, Session.become, Session.deliver, Session.note, active, Phase.canBecome]

theorem Orderly.finish {s : Server} {capacity : Nat} (orderly : s.Orderly capacity) {c : ConnectionId}
    {session : Session} (found : s.session? c = some session) (live : session.isLive = true) {ending : Ending}
    (told : ending ≠ .registryUnavailable) (peerFrame : Option CloseFrame) :
    s.Ends capacity c session (s.finish c ending none peerFrame) := by
  obtain ⟨x, queues, _, same⟩ := finish_eq found told none peerFrame
  have serves := orderly.serves.queues x
  have lets := serves.opened.answer (q := .unregister c) nofun
  have gone := serves.send_eq (f := (·.unregister c)) lets
  have letsGo := serves.opened.coherent.unregister_letsGo c
  obtain ⟨closed, sent⟩ := ended_live live ending (goodbye (session.phase = Phase.active) ending none peerFrame)
  simp only [gone] at same
  rw [same]
  rw [Registry.answer] at lets
  generalize (({ s.registry with exchange := x } : Registry).opened.unregister c).2 = left at lets letsGo ⊢
  exact {
    serves := lets.closed.queues _
    going := rfl
    others := fun d there => Table.modify_find?_ne _ _ there
    own := by
      refine ⟨_, Table.modify_find? _ found, ?_, ?_⟩
      · rw [Session.isLive, closed]
        decide
      · rw [sent, texts_append, texts_goodbye, List.append_nil]
    members := letsGo.members
    refs := fun d m name ref there known inside at' => letsGo.kept d m name ref there known inside at'
    queues := by
      intro ref other
      have shut := Exchange.outbox?_modifyOutbox left.closed.exchange ref session.ref (·.shut)
      rw [if_neg other.symm] at shut
      refine shut.trans ?_
      refine Eq.trans ?_ (queues ref other)
      exact congrArg (·[ref.queue]?) letsGo.outboxes }

/-- The session of a client that has just come. -/
def newcomer (ref : SessionRef) : Session := ((Session.create ref).note .registered).become .handshakePending

/-- What it is for a session to begin: it has a new queue, and the registry knows it. -/
structure Begins (s : Server) (capacity : Nat) (c : ConnectionId) (ref : SessionRef) (after : Server) : Prop where
  serves : after.registry.Serves capacity
  going : after.sessionsCancelled = s.sessionsCancelled
  session : ∀ d, after.session? d = if d = c then some (newcomer ref) else s.session? d
  member : ∀ d, after.registry.members.find? d =
    if d = c then some { game := none, session := ref } else s.registry.members.find? d
  refs : ∀ name, after.registry.gameRef? name = s.registry.gameRef? name
  fresh : s.exchange.outbox? ref = none
  queue : after.exchange.outbox? ref = some .empty
  queues : ∀ other : SessionRef, other.queue ≠ ref.queue → after.exchange.outbox? other = s.exchange.outbox? other

namespace Begins

variable {s after : Server} {capacity : Nat} {c : ConnectionId} {ref : SessionRef}
  (begins : s.Begins capacity c ref after) (orderly : s.Orderly capacity)

include begins orderly

theorem queue_ne {d : ConnectionId} {session : Session} (found : s.session? d = some session)
    (live : session.isLive = true) : session.ref.queue ≠ ref.queue := by
  intro same
  obtain ⟨o, queue, _⟩ := (orderly.attends d session found live).queue
  have fresh := begins.fresh
  rw [Exchange.outbox?, ← same, ← Exchange.outbox?, queue] at fresh
  cases fresh

theorem keeps : after.Orderly capacity where
  serves := begins.serves
  going := begins.going.trans orderly.going
  attends := by
    intro d session found live
    rw [begins.session] at found
    split at found
    · rename_i here
      cases found
      refine ⟨⟨_, begins.queue, rfl, rfl, nofun⟩, ?_, nofun, fun _ => ⟨rfl, ?_⟩⟩
      · rw [begins.member, if_pos here]
        rfl
      · have queue := begins.queue
        rw [Exchange.waiting]
        exact congrArg (fun o => (o.map Outbox.waiting).getD []) queue
    · rename_i there
      have attends := orderly.attends d session found live
      have queue := begins.queues session.ref (begins.queue_ne orderly found live)
      refine ⟨?_, ?_, ?_, ?_⟩
      · rw [queue]
        exact attends.queue
      · rw [begins.member, if_neg there, attends.member]
      · intro game joined
        rw [begins.refs, attends.game game joined]
      · rw [Exchange.waiting_eq_of_outbox? queue]
        exact attends.pending
  apart := by
    intro d e session other found live found' live' queue
    rw [begins.session] at found found'
    split at found
    · split at found'
      · rename_i here here'
        exact here.trans here'.symm
      · cases found
        exact absurd queue.symm (begins.queue_ne orderly found' live')
    · split at found'
      · cases found'
        exact absurd queue (begins.queue_ne orderly found live)
      · exact orderly.apart d e session other found live found' live' queue
  registered := by
    intro d m known
    rw [begins.member] at known
    rw [begins.session]
    split at known
    · rename_i here
      exact ⟨_, if_pos here, rfl⟩
    · rename_i there
      rw [if_neg there]
      exact orderly.registered d m known

theorem quiet (quiet : s.Quiet) : after.Quiet := by
  intro d session found live
  rw [begins.session] at found
  split at found
  · cases found
    have empty : after.exchange.waiting ref = [] := by rw [Exchange.waiting, begins.queue]; rfl
    exact empty
  · rw [Exchange.waiting_eq_of_outbox? (begins.queues session.ref (begins.queue_ne orderly found live)),
      quiet d session found live]

theorem heard (new : s.session? c = none) (d : ConnectionId) : after.heard d = s.heard d := by
  by_cases here : d = c
  · have found : after.session? d = some (newcomer ref) := (begins.session d).trans (if_pos here)
    rw [heard_found found, here, heard_absent new]
    have empty : after.exchange.waiting ref = [] := by rw [Exchange.waiting, begins.queue]; rfl
    have own : (newcomer ref).ref = ref := rfl
    rw [own, empty]
    rfl
  · have same : after.session? d = s.session? d := (begins.session d).trans (if_neg here)
    exact heard_congr same fun session found live =>
      begins.queues session.ref (begins.queue_ne orderly found live)

end Begins

theorem openSession_eq {s : Server} (going : s.sessionsCancelled = false) :
    ∃ x : Exchange, x.outboxes = s.exchange.outboxes ++ [.empty] ∧
      s.openSession = (⟨s.nextConnection⟩, ⟨⟨s.nextConnection⟩, s.exchange.outboxes.length⟩,
        { s with
          registry := { s.registry with exchange := x }
          sessions := s.sessions.insert ⟨s.nextConnection⟩
            (.create ⟨⟨s.nextConnection⟩, s.exchange.outboxes.length⟩)
          nextConnection := s.nextConnection + 1 }) := by
  simp only [openSession, takeIn, going]
  exact ⟨_, rfl, rfl⟩

theorem Orderly.connect {s : Server} {capacity : Nat} (orderly : s.Orderly capacity)
    (new : s.session? ⟨s.nextConnection⟩ = none) :
    ∃ ref after, s.Begins capacity ⟨s.nextConnection⟩ ref after ∧
      s.connect = (⟨s.nextConnection⟩, (elapse 0 after.settle ⟨s.nextConnection⟩).settle) := by
  obtain ⟨x, outboxes, opens⟩ := openSession_eq orderly.going
  generalize here : (⟨s.nextConnection⟩ : ConnectionId) = c at new opens ⊢
  have unknown : s.registry.members.find? c = none := by
    rw [Option.eq_none_iff_forall_ne_some]
    intro m known
    obtain ⟨session, found, _⟩ := orderly.registered c m known
    cases new.symm.trans found
  have serves := orderly.serves.queues x
  have registered := Registry.register_new (r := ({ s.registry with exchange := x } : Registry).opened) unknown
    ⟨c, s.exchange.outboxes.length⟩
  have registers : (Registry.register _ c ⟨c, s.exchange.outboxes.length⟩).Serves capacity :=
    serves.opened.answer (q := .register c ⟨c, s.exchange.outboxes.length⟩) nofun
  have sends := serves.send_eq (f := fun r => ((), r.register c ⟨c, s.exchange.outboxes.length⟩)) registers
  rw [registered] at registers
  simp only [registered] at sends
  refine ⟨⟨c, s.exchange.outboxes.length⟩, _, ?_, by simp only [Server.connect, opens, sends]; rfl⟩
  exact {
    serves := registers.closed
    going := rfl
    session := by
      intro d
      rw [session?_modifySession]
      have inserted := Table.find?_insert s.sessions c d (.create ⟨c, s.exchange.outboxes.length⟩)
      by_cases same : d = c
      · rw [if_pos same, if_pos same]
        exact congrArg (Option.map _) (inserted.trans (if_pos same))
      · rw [if_neg same, if_neg same]
        exact inserted.trans (if_neg same)
    member := fun d => Table.find?_insert _ _ _ _
    refs := fun _ => rfl
    fresh := by
      rw [Exchange.outbox?]
      exact List.getElem?_eq_none le_rfl
    queue := by
      have last : x.outboxes[s.exchange.outboxes.length]? = some .empty := by
        rw [outboxes, List.getElem?_concat_length]
      exact last
    queues := by
      intro other different
      have before : x.outboxes[other.queue]? = s.exchange.outboxes[other.queue]? := by
        rcases Nat.lt_or_gt_of_ne different with below | above
        · rw [outboxes, List.getElem?_append_left below]
        · rw [outboxes, List.getElem?_eq_none (by simpa using above), List.getElem?_eq_none (Nat.le_of_lt above)]
      exact before }

end Server

end Scrimmage
