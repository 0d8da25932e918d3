import Scrimmage.Proofs.Attendance
import Scrimmage.Proofs.Census
import Scrimmage.Proofs.Moves
import Scrimmage.Proofs.Sessions

namespace Scrimmage

/-- Steps from one phase to another one, each of them allowed. -/
def Phase.Path : Phase → List (Phase × Phase) → Phase → Prop
  | start, [], last => start = last
  | start, (before, next) :: rest, last => start = before ∧ before.canBecome next = true ∧ Path next rest last

theorem Phase.Path.step {start last next : Phase} {steps : List (Phase × Phase)} (path : Path start steps last)
    (allowed : last.canBecome next = true) : Path start (steps ++ [(last, next)]) next := by
  induction steps generalizing start with
  | nil => exact ⟨path, allowed, rfl⟩
  | cons step steps ih => exact ⟨path.1, path.2.1, ih path.2.2⟩

namespace Course

structure Underway (t : Course) : Prop where
  phase : t.phase = .handshakePending ∨ t.phase = .active
  deeds : t.deeds = [.opened, .registered]
  ending : t.ending = none

structure Over (t : Course) : Prop where
  phase : t.phase = .closed
  /-- It has done each of these once. -/
  deeds : t.deeds = [.opened, .registered, .unregistered, .closed]
  ending : ∃ ending, t.ending = some ending ∧ ending ≠ .registryUnavailable

theorem Over.isLive {t : Course} (gone : t.Over) : t.isLive = false := by
  rw [Course.isLive, gone.phase]
  decide

/-- All changes of phase that were asked for were allowed, and the session is underway or has ended properly.
The history leads from the first phase to the present one. -/
structure Proper (t : Course) : Prop where
  path : Phase.Path .connecting t.history t.phase
  refused : t.refused = []
  stage : t.Underway ∨ t.Over

end Course

namespace Session

variable {session : Session}

theorem course_become {next : Phase} (new : session.phase ≠ next) (allowed : session.phase.canBecome next = true) :
    (session.become next).course =
      { session.course with phase := next, history := session.history ++ [(session.phase, next)] } := by
  rw [become, if_neg new, if_pos allowed]
  rfl

theorem newcomer_proper (ref : SessionRef) : (Server.newcomer ref).course.Proper where
  path := ⟨rfl, rfl, rfl⟩
  refused := rfl
  stage := Or.inl ⟨Or.inl rfl, rfl, rfl⟩

theorem underway_of_live (proper : session.course.Proper) (live : session.isLive = true) :
    session.course.Underway := by
  refine proper.stage.resolve_right fun gone => ?_
  have closed : session.phase = .closed := gone.phase
  rcases isLive_iff.mp live with pending | active
  · cases closed.symm.trans pending
  · cases closed.symm.trans active

theorem upgrade_proper (proper : session.course.Proper) (pending : session.phase = .handshakePending) :
    (session.become .active).course.Proper := by
  have underway := underway_of_live proper (isLive_iff.mpr (Or.inl pending))
  rw [course_become (by rw [pending]; decide) (by rw [pending]; decide)]
  exact ⟨proper.path.step (by rw [show session.course.phase = .handshakePending from pending]; decide), proper.refused,
    Or.inl ⟨Or.inr rfl, underway.deeds, underway.ending⟩⟩

theorem course_ended (live : session.isLive = true) (ending : Ending) (frames : List ServerFrame) :
    (session.ended ending frames).course =
      { session.course with
        phase := .closed
        history := session.history ++ [(session.phase, .closing)] ++ [(.closing, .closed)]
        deeds := session.deeds ++ [.unregistered] ++ [.closed]
        ending := some ending } := by
  rcases isLive_iff.mp live with pending | active
  · simp [ended, become, deliver, note, course, pending, Phase.canBecome]
  · simp [ended, become, deliver, note, course, active, Phase.canBecome]

theorem ended_proper (proper : session.course.Proper) (live : session.isLive = true) {ending : Ending}
    (told : ending ≠ .registryUnavailable) (frames : List ServerFrame) :
    (session.ended ending frames).course.Proper := by
  have underway := underway_of_live proper live
  have closes : session.course.phase.canBecome .closing = true := by
    rcases underway.phase with pending | active
    · rw [pending]
      rfl
    · rw [active]
      rfl
  have deeds : session.deeds = [.opened, .registered] := underway.deeds
  rw [course_ended live]
  exact ⟨(proper.path.step closes).step rfl, proper.refused,
    Or.inr ⟨rfl, by rw [deeds]; rfl, ending, rfl, told⟩⟩

theorem ended_dead (live : session.isLive = true) (ending : Ending) (frames : List ServerFrame) :
    (session.ended ending frames).isLive = false := by
  have phase : (session.ended ending frames).phase = .closed := congrArg Course.phase (course_ended live ending frames)
  rw [isLive, phase]
  decide

end Session

/-- The request registers or unregisters the connection. -/
def RegistryRequest.Names (c : ConnectionId) : RegistryRequest → Prop
  | .register d _ | .unregister d => d = c
  | _ => False

theorem RegistryRequest.IsForeign.of_names {foreign : ConnectionId → Prop} {s : Server} {q : RegistryRequest}
    (isForeign : q.IsForeign foreign s) {c : ConnectionId} (names : q.Names c) : foreign c := by
  cases q with
  | register d | unregister d =>
    cases names
    exact isForeign
  | _ => exact names.elim

/-- A connection that is not named stays registered, with its session, or unregistered. -/
theorem Registry.requestChange_member (r : Registry) {q : RegistryRequest} {c : ConnectionId} (other : ¬q.Names c)
    (m : Option Member) : ((r.requestChange q).member c m).map (·.session) = m.map (·.session) := by
  cases q with
  | register d | unregister d =>
    have there : c ≠ d := fun same => other same.symm
    simp only [requestChange, Change.register, Change.unregister, if_neg there]
  | join a =>
    simp only [requestChange]
    split
    · rfl
    · simp only [Change.seat]
      split
      · rw [Option.map_map]
        rfl
      · rfl
  | _ => rfl

namespace Server

theorem liveCount_eq (s : Server) :
    s.liveCount = (s.sessions.keys.filter fun c => (s.session? c).any (·.isLive)).length :=
  Table.countP_values ..

theorem liveCount_pos {s : Server} {c : ConnectionId} {session : Session} (found : s.session? c = some session)
    (live : session.isLive = true) : 0 < s.liveCount := by
  rw [liveCount_eq]
  exact List.length_pos_of_mem (Table.mem_filter_keys_iff.mpr ⟨session, found, live⟩)

theorem liveCount_congr {s after : Server}
    (same : ∀ c, (after.session? c).map (·.isLive) = (s.session? c).map (·.isLive)) :
    after.liveCount = s.liveCount := by
  refine Table.countP_values_eq fun c => ?_
  have here := congrArg (·.any id) (same c)
  rwa [Option.any_map, Option.any_map] at here

theorem liveCount_modifySession {s : Server} {c : ConnectionId} {f : Session → Session}
    (same : ∀ session, s.session? c = some session → (f session).isLive = session.isLive) :
    (s.modifySession c f).liveCount = s.liveCount := by
  refine liveCount_congr fun d => ?_
  rw [session?_modifySession]
  split
  · rename_i here
    subst here
    rw [Option.map_map]
    exact Option.map_congr same
  · rfl

theorem liveCount_without {s after : Server} {c : ConnectionId} {session : Session}
    (found : s.session? c = some session) (live : session.isLive = true)
    (dead : ∀ later, after.session? c = some later → later.isLive = false)
    (others : ∀ d, d ≠ c → after.session? d = s.session? d) : after.liveCount + 1 = s.liveCount := by
  refine Table.countP_values_without found live ?_ fun d there => congrArg (Option.any _) (others d there)
  rw [Option.any_eq_false]
  exact fun later there => by simp [dead later there]

/-- All sessions of a server are accounted for, and some connections are none of theirs. A session is a member
of the registry as long as it waits for its handshake or is active; however it ends, it ends once, and is then
no member and a player of no game. -/
structure Accounted (foreign : ConnectionId → Prop) (s : Server) : Prop where
  attended : s.registry.Attended
  proper : ∀ c session, s.session? c = some session → session.course.Proper
  member : ∀ c session, s.session? c = some session →
    (s.registry.members.find? c).map (·.session) = if session.isLive then some session.ref else none
  strangers : ∀ c m, s.registry.members.find? c = some m → s.session? c = none → foreign c
  own : ∀ c session, s.session? c = some session → ¬foreign c
  running : ∀ c session, s.session? c = some session → session.isLive = true → s.registry.running = true
  counted : s.exchange.telemetry.sessions = UInt64.ofNat s.liveCount
  queued : ∀ c session, s.session? c = some session → session.isLive = true →
    (s.exchange.outbox? session.ref).isSome = true
  apart : ∀ c d session other, s.session? c = some session → session.isLive = true → s.session? d = some other →
    other.isLive = true → session.ref.queue = other.ref.queue → c = d

theorem create_accounted (foreign : ConnectionId → Prop) (capacity handshakeTimeout : Nat) :
    (create capacity handshakeTimeout).Accounted foreign where
  attended := Registry.create_attended capacity
  proper _ _ found := by cases found
  member _ _ found := by cases found
  strangers _ _ known := by cases known
  own _ _ found := by cases found
  running _ _ found := by cases found
  counted := rfl
  queued _ _ found := by cases found
  apart _ _ _ _ found := by cases found

namespace Accounted

variable {foreign : ConnectionId → Prop} {s : Server} (accounted : s.Accounted foreign)

include accounted

/-- The registry and the queues may change as long as the sessions stay registered. -/
theorem registry {r : Registry} (attended : r.Attended)
    (member : ∀ c session, s.session? c = some session →
      (r.members.find? c).map (·.session) = (s.registry.members.find? c).map (·.session))
    (strangers : ∀ c m, r.members.find? c = some m → s.session? c = none → foreign c)
    (running : 0 < s.liveCount → r.running = true) (retains : s.exchange.Retains r.exchange) :
    Accounted foreign { s with registry := r } where
  attended := attended
  proper := accounted.proper
  member c session found := (member c session found).trans (accounted.member c session found)
  strangers := strangers
  own := accounted.own
  running _ _ found live := running (liveCount_pos found live)
  counted := retains.sessions.trans accounted.counted
  queued c session found live := retains.queue _ (accounted.queued c session found live)
  apart := accounted.apart

theorem registry_still {r : Registry} (attended : r.Attended)
    (member : ∀ c, r.members.find? c = s.registry.members.find? c) (running : r.running = s.registry.running)
    (retains : s.exchange.Retains r.exchange) : Accounted foreign { s with registry := r } := by
  refine accounted.registry attended (fun c _ _ => by rw [member]) (fun c m known => ?_) (fun some => ?_) retains
  · rw [member] at known
    exact accounted.strangers c m known
  · rw [liveCount_eq] at some
    obtain ⟨c, inside⟩ := List.exists_mem_of_length_pos some
    obtain ⟨session, found, live⟩ := Table.mem_filter_keys_iff.mp inside
    exact running.trans (accounted.running c session found live)

theorem undergo {r : Registry} (attended : r.Attended) {fixture : String → Option Fixture → Option Fixture}
    {outbox : SessionRef → Outbox → Outbox} (undergoes : s.registry.Undergoes { fixture, outbox } r) :
    Accounted foreign { s with registry := r } := by
  refine accounted.registry_still attended undergoes.member (congrArg Standing.running undergoes.standing)
    ⟨congrArg Standing.sessions undergoes.standing, fun ref there => ?_⟩
  rwa [undergoes.outbox, Option.isSome_map]

/-- A session may change as long as it is proper and as live as before. -/
theorem modifySession (c : ConnectionId) {f : Session → Session}
    (keeps : ∀ session, s.session? c = some session →
      (f session).course.Proper ∧ (f session).ref = session.ref ∧ (f session).isLive = session.isLive) :
    Accounted foreign (s.modifySession c f) := by
  have back : ∀ {d later}, (s.modifySession c f).session? d = some later → ∃ session, s.session? d = some session ∧
      later.course.Proper ∧ later.ref = session.ref ∧ later.isLive = session.isLive := by
    intro d later found
    rw [session?_modifySession] at found
    split at found
    · rename_i here
      obtain ⟨session, before, rfl⟩ := Option.map_eq_some_iff.mp found
      exact ⟨session, before, keeps session (here ▸ before)⟩
    · exact ⟨later, found, accounted.proper d later found, rfl, rfl⟩
  have none : ∀ {d}, (s.modifySession c f).session? d = none → s.session? d = none := by
    intro d absent
    rw [session?_modifySession] at absent
    split at absent
    · exact Option.map_eq_none_iff.mp absent
    · exact absent
  exact {
    attended := accounted.attended
    proper := fun d later found => (back found).choose_spec.2.1
    member := by
      intro d later found
      obtain ⟨session, before, _, ref, live⟩ := back found
      rw [ref, live]
      exact accounted.member d session before
    strangers := fun d m known absent => accounted.strangers d m known (none absent)
    own := by
      intro d later found
      obtain ⟨session, before, _⟩ := back found
      exact accounted.own d session before
    running := by
      intro d later found live
      obtain ⟨session, before, _, _, same⟩ := back found
      exact accounted.running d session before (same.symm.trans live)
    counted := by
      rw [liveCount_modifySession fun session found => (keeps session found).2.2]
      exact accounted.counted
    queued := by
      intro d later found live
      obtain ⟨session, before, _, ref, same⟩ := back found
      rw [ref]
      exact accounted.queued d session before (same.symm.trans live)
    apart := by
      intro d e later other found live found' live' queue
      obtain ⟨session, before, _, ref, same⟩ := back found
      obtain ⟨session', before', _, ref', same'⟩ := back found'
      rw [ref, ref'] at queue
      exact accounted.apart d e session session' before (same.symm.trans live) before' (same'.symm.trans live') queue }

theorem ask {q : RegistryRequest} (isForeign : q.IsForeign foreign s) :
    Accounted foreign { s with registry := (s.registry.ask q).2 } := by
  cases running : s.registry.running with
  | false =>
    rw [Registry.ask_stopped running]
    exact accounted
  | true =>
    have asked := Registry.ask_asked running (accounted.attended.awake running) q
    refine accounted.registry (accounted.attended.ask q) ?_ ?_ ?_ ⟨asked.sessions, fun ref there => ?_⟩
    · intro c session found
      have other : ¬q.Names c := fun names => accounted.own c session found (isForeign.of_names names)
      rw [asked.member, s.registry.requestChange_member other]
    · intro c m known absent
      by_cases names : q.Names c
      · exact isForeign.of_names names
      · rw [asked.member] at known
        have before := s.registry.requestChange_member names (s.registry.members.find? c)
        rw [known, Option.map_some] at before
        obtain ⟨m', known', _⟩ := Option.map_eq_some_iff.mp before.symm
        exact accounted.strangers c m' known' absent
    · intro some
      refine asked.running ?_
      rintro timeout rfl
      exact absurd isForeign some.ne'
    · exact (asked.queue ref).trans there

end Accounted

/-- What it is for a live session to be gone: it has ended properly, it is no member any more, it is counted
out, and the other sessions are as they were. -/
structure Parts (s : Server) (c : ConnectionId) (session : Session) (after : Server) : Prop where
  attended : after.registry.Attended
  running : after.registry.running = true
  ended : ∃ ended, after.session? c = some ended ∧ ended.course.Proper ∧ ended.isLive = false
  others : ∀ d, d ≠ c → after.session? d = s.session? d
  member : ∀ d, after.registry.members.find? d = if d = c then none else s.registry.members.find? d
  sessions : after.exchange.telemetry.sessions = s.exchange.telemetry.sessions - 1
  queue : ∀ ref : SessionRef, ref.queue ≠ session.ref.queue → (s.exchange.outbox? ref).isSome = true →
    (after.exchange.outbox? ref).isSome = true

variable {foreign : ConnectionId → Prop} {s : Server} {c : ConnectionId} {session : Session}

theorem Accounted.finish_parts (accounted : s.Accounted foreign) (found : s.session? c = some session)
    (live : session.isLive = true) {ending : Ending} (told : ending ≠ .registryUnavailable)
    (farewell : Option Package) (peerFrame : Option CloseFrame) :
    s.Parts c session (s.finish c ending farewell peerFrame) := by
  obtain ⟨x, queues, telemetry, same⟩ := finish_eq found told farewell peerFrame
  have sessions : x.telemetry.sessions = s.exchange.telemetry.sessions := by
    rw [telemetry]
    split <;> rfl
  -- the registry handles the message, and then the queue is shut and the session is counted no more
  have running : ({ s.registry with exchange := x } : Registry).running = true :=
    accounted.running c session found live
  have attended := accounted.attended.queues x
  have asked := Registry.ask_asked running (attended.awake running) (.unregister c)
  have attended := attended.ask (.unregister c)
  rw [same, Registry.send_unregister]
  generalize (({ s.registry with exchange := x } : Registry).ask (.unregister c)).2 = left at asked attended
  have widens := left.exchange.widens_modifyOutbox session.ref (·.shut)
  exact {
    attended := attended.queues _
    running := asked.running (by simp)
    ended := ⟨_, session?_modifySession_self found _,
      session.ended_proper (accounted.proper c session found) live told _, session.ended_dead live _ _⟩
    others := fun d other => (session?_modifySession _ c d _).trans (if_neg other)
    member := asked.member
    sessions := by
      rw [← sessions, ← asked.sessions]
      rfl
    queue := by
      intro ref other there
      refine widens.queue ref ((asked.queue ref).trans ?_)
      rw [← there]
      exact congrArg Option.isSome (queues ref other) }

namespace Parts

variable {after : Server} (parts : s.Parts c session after)

include parts

theorem back {d : ConnectionId} {later : Session} (found : after.session? d = some later) :
    later.course.Proper ∧ later.isLive = false ∧ d = c ∨ d ≠ c ∧ s.session? d = some later := by
  by_cases here : d = c
  · subst here
    obtain ⟨ended, there, proper, dead⟩ := parts.ended
    cases found.symm.trans there
    exact Or.inl ⟨proper, dead, rfl⟩
  · exact Or.inr ⟨here, (parts.others d here).symm.trans found⟩

theorem back_live {d : ConnectionId} {later : Session} (found : after.session? d = some later)
    (live : later.isLive = true) : d ≠ c ∧ s.session? d = some later := by
  rcases parts.back found with ⟨_, dead, _⟩ | other
  · cases dead.symm.trans live
  · exact other

variable (found : s.session? c = some session) (live : session.isLive = true)

include found live

theorem liveCount : after.liveCount + 1 = s.liveCount := by
  refine liveCount_without found live (fun later there => ?_) parts.others
  rcases parts.back there with ⟨_, dead, _⟩ | ⟨other, _⟩
  · exact dead
  · exact absurd rfl other

theorem accounted (accounted : s.Accounted foreign) : after.Accounted foreign where
  attended := parts.attended
  proper d later found' := by
    rcases parts.back found' with ⟨proper, _⟩ | ⟨_, before⟩
    · exact proper
    · exact accounted.proper d later before
  member d later found' := by
    rw [parts.member]
    rcases parts.back found' with ⟨_, dead, here⟩ | ⟨other, before⟩
    · rw [if_pos here, dead]
      rfl
    · rw [if_neg other, accounted.member d later before]
  strangers d m known absent := by
    rw [parts.member] at known
    split at known
    · cases known
    · rename_i other
      exact accounted.strangers d m known ((parts.others d other).symm.trans absent)
  own d later found' := by
    rcases parts.back found' with ⟨_, _, rfl⟩ | ⟨_, before⟩
    · exact accounted.own _ session found
    · exact accounted.own d later before
  running _ _ _ _ := parts.running
  counted := by
    rw [parts.sessions, accounted.counted, ← parts.liveCount found live, UInt64.ofNat_add]
    exact add_sub_cancel_right _ _
  queued d later found' live' := by
    obtain ⟨other, before⟩ := parts.back_live found' live'
    refine parts.queue _ (fun queue => other ?_) (accounted.queued d later before live')
    exact accounted.apart d c later session before live' found live queue
  apart d e later other found' live' found'' live'' :=
    accounted.apart d e later other (parts.back_live found' live').2 live' (parts.back_live found'' live'').2 live''

end Parts

theorem Move.accounted {after : Server} (move : Move foreign s after) (accounted : s.Accounted foreign) :
    after.Accounted foreign := by
  cases move with
  | queues x widens =>
    exact accounted.registry_still (accounted.attended.queues x) (fun _ => rfl) rfl widens.toRetains
  | cancelled => exact { accounted with }
  | touch c f same =>
    refine accounted.modifySession c fun session found => ?_
    rw [same]
    exact ⟨accounted.proper c session found, Session.ref_of_course (same session),
      Session.isLive_of_course (same session)⟩
  | @upgrade c session found pending =>
    refine accounted.modifySession c fun session' found' => ?_
    cases found.symm.trans found'
    refine ⟨Session.upgrade_proper (accounted.proper c session found) pending, session.become_ref _, ?_⟩
    simp [Session.become, Session.isLive, pending, Phase.canBecome]
  | finish ending farewell peerFrame found live told =>
    exact (accounted.finish_parts found live told farewell peerFrame).accounted found live accounted
  | ask q isForeign => exact accounted.ask isForeign
  | message ref q isOpen =>
    obtain ⟨outbox, undergoes⟩ := s.registry.askGame_still ref isOpen
    exact accounted.undergo (accounted.attended.askGame ref isOpen) undergoes
  | halt name => exact accounted.undergo (accounted.attended.halt name) (s.registry.halt_undergoes name)
  | stop none =>
    have attended := accounted.attended.cancel
    rw [Registry.cancel] at attended ⊢
    split
    · rename_i running
      rw [if_pos running] at attended
      have undergoes := s.registry.cancelAll.finish_undergoes
      refine accounted.registry attended (fun c _ _ => congrArg _ (undergoes.member c)) (fun c m known => ?_)
        (fun some => absurd none some.ne') ⟨congrArg Standing.sessions undergoes.standing, fun ref there => ?_⟩
      · rw [undergoes.member] at known
        exact accounted.strangers c m known
      · rw [undergoes.outbox, Option.isSome_map]
        exact there
    · exact { accounted with }

theorem Moves.accounted {after : Server} (moves : Moves foreign s after) (accounted : s.Accounted foreign) :
    after.Accounted foreign := by
  induction moves with
  | refl => exact accounted
  | tail _ move ih => exact move.accounted ih

theorem Moves.sameNumbers {after : Server} (moves : Moves foreign s after) : s.SameNumbers after := by
  induction moves with
  | refl => exact .rfl
  | tail _ move ih => exact ih.trans move.sameNumbers

/-- A session that has ended stays as it is, but for its client. -/
theorem Move.lasting {after : Server} (move : Move foreign s after) (found : s.session? c = some session)
    (dead : session.isLive = false) :
    ∃ later, after.session? c = some later ∧ later.course = session.course := by
  cases move with
  | touch d f same =>
    rw [session?_modifySession]
    split
    · exact ⟨_, by rw [found, Option.map_some], same session⟩
    · exact ⟨session, found, rfl⟩
  | @upgrade d other found' pending =>
    have there : c ≠ d := by
      rintro rfl
      cases found.symm.trans found'
      cases dead.symm.trans (Session.isLive_iff.mpr (Or.inl pending))
    exact ⟨session, by rw [session?_modifySession, if_neg there, found], rfl⟩
  | @finish d other ending farewell peerFrame found' live told =>
    have there : c ≠ d := by
      rintro rfl
      cases found.symm.trans found'
      cases dead.symm.trans live
    obtain ⟨x, _, _, same⟩ := finish_eq found' told farewell peerFrame
    exact ⟨session, by rw [same, session?_modifySession, if_neg there]; exact found, rfl⟩
  | _ => exact ⟨session, found, rfl⟩

theorem Moves.lasting {after : Server} (moves : Moves foreign s after) (found : s.session? c = some session)
    (dead : session.isLive = false) :
    ∃ later, after.session? c = some later ∧ later.course = session.course := by
  induction moves with
  | refl => exact ⟨session, found, rfl⟩
  | tail _ move ih =>
    obtain ⟨later, found', same⟩ := ih
    obtain ⟨last, found'', same'⟩ := move.lasting found' ((Session.isLive_of_course same).trans dead)
    exact ⟨last, found'', same'.trans same⟩

/-- The server with the session of a new client, which the registry knows. -/
def begun (s : Server) : Server :=
  let (c, ref, s) := s.openSession
  { s with registry := (s.registry.send fun r => ((), r.register c ref)).2 }.modifySession c
    fun session => (session.note .registered).become .handshakePending

theorem connect_eq (running : s.registry.running = true) :
    s.connect = (⟨s.nextConnection⟩, (elapse 0 s.begun.settle ⟨s.nextConnection⟩).settle) := by
  have sends := Registry.send_running (r := s.openSession.2.2.registry) running
    fun r => ((), r.register s.openSession.1 s.openSession.2.1)
  simp only [connect, begun, sends]
  rfl

/-- What it is for a session to begin: it is a member outside every game, it is counted, and it has a queue that
nobody has had before. -/
structure Starts (s : Server) (c : ConnectionId) (ref : SessionRef) (after : Server) : Prop where
  attended : after.registry.Attended
  running : after.registry.running = true
  session : ∀ d, after.session? d = if d = c then some (newcomer ref) else s.session? d
  member : ∀ d, after.registry.members.find? d =
    if d = c then some { game := none, session := ref } else s.registry.members.find? d
  sessions : after.exchange.telemetry.sessions = s.exchange.telemetry.sessions + 1
  fresh : s.exchange.outbox? ref = none
  queue : (after.exchange.outbox? ref).isSome = true
  queues : ∀ other : SessionRef, (s.exchange.outbox? other).isSome = true →
    (after.exchange.outbox? other).isSome = true

theorem takeIn_opens (s : Server) :
    ∃ x : Exchange, x.telemetry = s.exchange.telemetry ∧
      (∃ o, x.outbox? ⟨⟨s.nextConnection⟩, s.exchange.outboxes.length⟩ = some o ∧ o.waiting = [] ∧ o.isOpen = true) ∧
      (∀ other : SessionRef, (s.exchange.outbox? other).isSome = true → x.outbox? other = s.exchange.outbox? other) ∧
      s.takeIn = (⟨s.nextConnection⟩, ⟨⟨s.nextConnection⟩, s.exchange.outboxes.length⟩,
        { s with
          registry := { s.registry with exchange := x }
          sessions := s.sessions.insert ⟨s.nextConnection⟩
            (.create ⟨⟨s.nextConnection⟩, s.exchange.outboxes.length⟩)
          nextConnection := s.nextConnection + 1 }) := by
  have last : (s.exchange.openOutbox ⟨s.nextConnection⟩).2.outbox?
      ⟨⟨s.nextConnection⟩, s.exchange.outboxes.length⟩ = some .empty := by
    simp [Exchange.openOutbox, Exchange.outbox?]
  have inside : ∀ other : SessionRef, (s.exchange.outbox? other).isSome = true →
      other.queue < s.exchange.outboxes.length := by
    intro other there
    obtain ⟨o, queue⟩ := Option.isSome_iff_exists.mp there
    exact (List.getElem?_eq_some_iff.mp queue).1
  have same : ∀ other : SessionRef, (s.exchange.outbox? other).isSome = true →
      (s.exchange.openOutbox ⟨s.nextConnection⟩).2.outbox? other = s.exchange.outbox? other :=
    fun other there => List.getElem?_append_left (inside other there)
  cases going : s.sessionsCancelled with
  | false =>
    refine ⟨(s.exchange.openOutbox ⟨s.nextConnection⟩).2, rfl, ⟨_, last, rfl, rfl⟩, same, ?_⟩
    simp only [takeIn, going]
    rfl
  | true =>
    refine ⟨(s.exchange.openOutbox ⟨s.nextConnection⟩).2.cancel
      ⟨⟨s.nextConnection⟩, s.exchange.outboxes.length⟩, rfl, ⟨.cancel .empty, ?_, rfl, rfl⟩,
      fun other there => ?_, ?_⟩
    · rw [Exchange.cancel, Exchange.outbox?_modifyOutbox, if_pos rfl, last, Option.map_some]
    · rw [Exchange.cancel, Exchange.outbox?_modifyOutbox, if_neg (Nat.ne_of_gt (inside other there)),
        same other there]
    · simp only [takeIn, going]
      rfl

theorem openSession_opens (s : Server) :
    ∃ x : Exchange, x.telemetry = s.exchange.telemetry.sessionOpened ∧
      (∃ o, x.outbox? ⟨⟨s.nextConnection⟩, s.exchange.outboxes.length⟩ = some o ∧ o.waiting = [] ∧ o.isOpen = true) ∧
      (∀ other : SessionRef, (s.exchange.outbox? other).isSome = true → x.outbox? other = s.exchange.outbox? other) ∧
      s.openSession = (⟨s.nextConnection⟩, ⟨⟨s.nextConnection⟩, s.exchange.outboxes.length⟩,
        { s with
          registry := { s.registry with exchange := x }
          sessions := s.sessions.insert ⟨s.nextConnection⟩
            (.create ⟨⟨s.nextConnection⟩, s.exchange.outboxes.length⟩)
          nextConnection := s.nextConnection + 1 }) := by
  obtain ⟨x, telemetry, queue, others, opens⟩ := s.takeIn_opens
  refine ⟨x.measure (·.sessionOpened), congrArg Telemetry.sessionOpened telemetry, queue, others, ?_⟩
  rw [openSession, opens]
  rfl

theorem session?_openSession (s : Server) :
    ∃ session, s.openSession.2.2.session? s.openSession.1 = some session ∧ session.phase = .connecting := by
  obtain ⟨x, _, _, _, opens⟩ := s.openSession_opens
  rw [opens]
  exact ⟨_, (Table.find?_insert ..).trans (if_pos rfl), rfl⟩

theorem Accounted.begun_starts (accounted : s.Accounted foreign) (running : s.registry.running = true)
    (new : s.session? ⟨s.nextConnection⟩ = none) (own : ¬foreign ⟨s.nextConnection⟩) :
    ∃ ref, s.Starts ⟨s.nextConnection⟩ ref s.begun := by
  obtain ⟨x, telemetry, ⟨o, queue, _⟩, queues, opens⟩ := s.openSession_opens
  have queue := (congrArg Option.isSome queue).trans Option.isSome_some
  have queues : ∀ other : SessionRef, (s.exchange.outbox? other).isSome = true → (x.outbox? other).isSome = true :=
    fun other there => (congrArg Option.isSome (queues other there)).trans there
  have fresh : s.exchange.outbox? ⟨⟨s.nextConnection⟩, s.exchange.outboxes.length⟩ = none :=
    List.getElem?_eq_none le_rfl
  generalize (⟨s.nextConnection⟩ : ConnectionId) = c at new own queue fresh opens ⊢
  generalize (⟨c, s.exchange.outboxes.length⟩ : SessionRef) = ref at queue fresh opens
  -- whoever is registered without a session is someone else
  have unknown : s.registry.members.find? c = none := by
    rw [Option.eq_none_iff_forall_ne_some]
    intro m known
    exact own (accounted.strangers c m known new)
  have attended := accounted.attended.queues x
  have asked := Registry.ask_asked (r := { s.registry with exchange := x }) running (attended.awake running)
    (.register c ref)
  have attended := attended.ask (.register c ref)
  refine ⟨ref, ?_⟩
  simp only [begun, opens, Registry.send_register]
  generalize (({ s.registry with exchange := x } : Registry).ask (.register c ref)).2 = after at asked attended
  exact {
    attended := attended
    running := asked.running (by simp)
    session := by
      intro d
      rw [session?_modifySession]
      have inserted := Table.find?_insert s.sessions c d (.create ref)
      by_cases here : d = c
      · rw [if_pos here, if_pos here]
        exact congrArg (Option.map _) (inserted.trans (if_pos here))
      · rw [if_neg here, if_neg here]
        exact inserted.trans (if_neg here)
    member := by
      intro d
      refine (asked.member d).trans ?_
      simp only [Registry.requestChange, Change.register]
      split
      · rename_i here
        rw [here, unknown, Option.getD_none]
      · rfl
    sessions := asked.sessions.trans (congrArg Telemetry.sessions telemetry)
    fresh := fresh
    queue := (asked.queue ref).trans queue
    queues := fun other there => (asked.queue other).trans (queues other there) }

namespace Starts

variable {after : Server} {ref : SessionRef} (starts : s.Starts c ref after)

include starts

theorem newcomer : after.session? c = some (Server.newcomer ref) := (starts.session c).trans (if_pos rfl)

theorem back {d : ConnectionId} {later : Session} (found : after.session? d = some later) :
    d = c ∧ later = Server.newcomer ref ∨ d ≠ c ∧ s.session? d = some later := by
  rw [starts.session] at found
  split at found
  · rename_i here
    exact Or.inl ⟨here, (Option.some.inj found).symm⟩
  · rename_i there
    exact Or.inr ⟨there, found⟩

theorem queue_ne (accounted : s.Accounted foreign) {d : ConnectionId} {other : Session}
    (found : s.session? d = some other) (live : other.isLive = true) : other.ref.queue ≠ ref.queue := by
  intro same
  have queue := accounted.queued d other found live
  rw [Exchange.outbox?, same, ← Exchange.outbox?, starts.fresh] at queue
  cases queue

theorem accounted (accounted : s.Accounted foreign) (new : s.session? c = none) (own : ¬foreign c) :
    after.Accounted foreign where
  attended := starts.attended
  proper d later found := by
    rcases starts.back found with ⟨_, rfl⟩ | ⟨_, before⟩
    · exact Session.newcomer_proper ref
    · exact accounted.proper d later before
  member d later found := by
    rw [starts.member]
    rcases starts.back found with ⟨here, rfl⟩ | ⟨there, before⟩
    · rw [if_pos here]
      rfl
    · rw [if_neg there, accounted.member d later before]
  strangers d m known absent := by
    rw [starts.session] at absent
    rw [starts.member] at known
    split at absent
    · cases absent
    · rename_i there
      rw [if_neg there] at known
      exact accounted.strangers d m known absent
  own d later found := by
    rcases starts.back found with ⟨here, _⟩ | ⟨_, before⟩
    · exact here ▸ own
    · exact accounted.own d later before
  running _ _ _ _ := starts.running
  counted := by
    have more : s.liveCount + 1 = after.liveCount := by
      refine liveCount_without starts.newcomer rfl (fun later found => ?_) fun d there => ?_
      · cases new.symm.trans found
      · exact ((starts.session d).trans (if_neg there)).symm
    rw [starts.sessions, accounted.counted, ← more, UInt64.ofNat_add]
    rfl
  queued d later found live := by
    rcases starts.back found with ⟨_, rfl⟩ | ⟨_, before⟩
    · exact starts.queue
    · exact starts.queues _ (accounted.queued d later before live)
  apart d e later other found live found' live' queue := by
    rcases starts.back found with ⟨here, rfl⟩ | ⟨_, before⟩
    · rcases starts.back found' with ⟨here', _⟩ | ⟨_, before'⟩
      · exact here.trans here'.symm
      · exact absurd queue.symm (starts.queue_ne accounted before' live')
    · rcases starts.back found' with ⟨_, rfl⟩ | ⟨_, before'⟩
      · exact absurd queue (starts.queue_ne accounted before live)
      · exact accounted.apart d e later other before live before' live' queue

end Starts

end Server

end Scrimmage
