import Scrimmage.Proofs.Rest
import Scrimmage.Proofs.Transcript

namespace Scrimmage

/-- Whatever can happen to a server: clients come and go, make their handshakes or not, and break the rules;
sessions are written to, closed and told to stop; games stop, and in the end the registry. What is put into a
queue waits there for a turn of its session. -/
inductive Incident
  | event (event : Event)
  | violate (c : ConnectionId) (violation : Server.Violation)
  /-- A session is told to stop. -/
  | cancel (s : SessionRef)
  /-- All sessions are told to stop, future ones included. -/
  | cancelAll
  /-- A session is written to, or closed. -/
  | command (s : SessionRef) (command : Command)
  /-- Someone who is no session gets a queue. -/
  | summon (c : ConnectionId)
  | request (q : RegistryRequest)
  | message (game : GameRef) (q : GameRequest)
  /-- A game stops on its own. -/
  | halt (name : String)
  /-- The registry is told to stop. -/
  | stop
  /-- One session does what it has to do. -/
  | turn (c : ConnectionId)
  /-- All sessions have their turns until nothing is left to do. -/
  | settle

/-- The connection that comes, if one does. -/
def Incident.arrival (s : Server) : Incident → List ConnectionId
  | .event .connect => [s.connect.1]
  | _ => []

/-- No session comes to a registry that has stopped, or as a connection that is not a session's, and the registry
is stopped only when no session is left. -/
def Incident.Fits (foreign : ConnectionId → Prop) (s : Server) : Incident → Prop
  | .event .connect => s.registry.running = true ∧ ¬foreign s.connect.1
  | .request q => q.IsForeign foreign s
  | .message _ q => q.Open
  | .stop => s.liveCount = 0
  | _ => True

namespace Server

def undergo (s : Server) : Incident → Server
  | .event event => s.perform event
  | .violate c violation => s.violate c violation
  | .cancel ref => s.modifyExchange (·.cancel ref)
  | .cancelAll => s.cancelSessions
  | .command ref command => s.modifyExchange (·.offer ref command)
  | .summon c => s.modifyExchange fun x => (x.openOutbox c).2
  | .request q => { s with registry := (s.registry.ask q).2 }
  | .message game q => { s with registry := (s.registry.askGame game q).2 }
  | .halt name => { s with registry := s.registry.halt name }
  | .stop => { s with registry := s.registry.cancel }
  | .turn c => s.tend c
  | .settle => s.settle

variable {foreign : ConnectionId → Prop} {s : Server}

theorem arrival_of_ne {i : Incident} (other : i ≠ .event .connect) : i.arrival s = [] := by
  cases i with
  | event event =>
    cases event with
    | connect => exact absurd rfl other
    | _ => rfl
  | _ => rfl

theorem connect_moves (running : s.registry.running = true) : Moves foreign s.begun (s.undergo (.event .connect)) := by
  have settled : Moves foreign s.begun s.begun.settle := settle_moves _
  have elapsed := (settled.trans (elapse_moves 0 _ ⟨s.nextConnection⟩)).trans (settle_moves _)
  rw [undergo, perform, connect_eq running]
  exact elapsed

theorem undergo_moves {i : Incident} (fits : i.Fits foreign s) (other : i ≠ .event .connect) :
    Moves foreign s (s.undergo i) := by
  cases i with
  | event event =>
    cases event with
    | connect => exact absurd rfl other
    | handshake c => exact handshake_moves s c
    | send c frame => exact clientSend_moves s c frame
    | drop c => exact clientDrop_moves s c
    | read c => exact clientRead_moves s c
    | advance milliseconds => exact advance_moves s milliseconds
  | violate c violation => exact violate_moves s c violation
  | cancel ref => exact (Move.queues _ (s.exchange.widens_modifyOutbox ref _)).moves
  | cancelAll => exact cancelSessions_moves s
  | command ref command => exact (Move.queues _ (s.exchange.widens_offer ref command)).moves
  | summon c => exact (Move.queues _ (s.exchange.widens_openOutbox c)).moves
  | request q => exact (Move.ask q fits).moves
  | message game q => exact (Move.message game q fits).moves
  | halt name => exact (Move.halt name).moves
  | stop => exact (Move.stop fits).moves
  | turn c => exact tend_moves s c
  | settle => exact settle_moves s

/-- A server between two incidents, after `count` clients have come. Its sessions are accounted for, and their
numbers are those from 1 on. -/
structure Between (foreign : ConnectionId → Prop) (count : Nat) (s : Server) : Prop where
  accounted : s.Accounted foreign
  numbered : s.Numbered count

/-- The sessions that there are afterwards are those of before and then the arrivals. Those that have ended stay
as they have ended. -/
structure Extends (s : Server) (arrivals : List ConnectionId) (after : Server) : Prop where
  keys : after.sessions.keys = s.sessions.keys ++ arrivals
  lasting : ∀ c session, s.session? c = some session → session.isLive = false →
    ∃ later, after.session? c = some later ∧ later.course = session.course

theorem Extends.rfl : s.Extends [] s :=
  ⟨(List.append_nil _).symm, fun _ session found _ => ⟨session, found, .refl _⟩⟩

theorem Extends.trans {between after : Server} {arrivals more : List ConnectionId} (first : s.Extends arrivals between)
    (second : between.Extends more after) : s.Extends (arrivals ++ more) after where
  keys := by rw [second.keys, first.keys, List.append_assoc]
  lasting c session found dead := by
    obtain ⟨later, found', same⟩ := first.lasting c session found dead
    obtain ⟨last, found'', same'⟩ := second.lasting c later found' ((Session.isLive_of_course same).trans dead)
    exact ⟨last, found'', same'.trans same⟩

theorem Moves.extends {after : Server} (moves : Moves foreign s after) : s.Extends [] after :=
  ⟨by rw [moves.sameNumbers.keys, List.append_nil], fun _ _ => moves.lasting⟩

theorem begun_extends (new : s.session? ⟨s.nextConnection⟩ = none) : s.Extends [⟨s.nextConnection⟩] s.begun := by
  obtain ⟨x, _, _, _, opens⟩ := s.openSession_opens
  constructor
  · simp only [begun, opens]
    exact (Table.keys_modify ..).trans (Table.keys_insert_of_none _ new)
  · intro c session found _
    have there : c ≠ ⟨s.nextConnection⟩ := by
      rintro same
      cases new.symm.trans (same ▸ found)
    refine ⟨session, ?_, .refl _⟩
    simp only [begun, opens, session?_modifySession, if_neg there]
    exact (Table.find?_insert ..).trans ((if_neg there).trans found)

namespace Between

variable {count : Nat} (between : s.Between foreign count)

include between

theorem connect (running : s.registry.running = true) (own : ¬foreign ⟨s.nextConnection⟩) (few : count < 2 ^ 64) :
    s.connect.2.Between foreign (count + 1) ∧ s.Extends [⟨s.nextConnection⟩] s.connect.2 := by
  have new := between.numbered.new few
  obtain ⟨ref, starts⟩ := between.accounted.begun_starts running new own
  have begun := starts.accounted between.accounted new own
  have connects : Moves foreign s.begun s.connect.2 := connect_moves running
  exact ⟨⟨connects.accounted begun, between.numbered.connect⟩, (begun_extends new).trans connects.extends⟩

theorem undergo {i : Incident} (fits : i.Fits foreign s) (few : count + (i.arrival s).length ≤ 2 ^ 64) :
    (s.undergo i).Between foreign (count + (i.arrival s).length) ∧ s.Extends (i.arrival s) (s.undergo i) := by
  by_cases comes : i = .event .connect
  · subst comes
    obtain ⟨running, own⟩ := fits
    have number : s.connect.1 = ⟨s.nextConnection⟩ := by rw [connect_eq running]
    rw [Incident.arrival] at few ⊢
    rw [number] at own ⊢
    exact between.connect running own few
  · have moves := undergo_moves fits comes
    rw [arrival_of_ne comes]
    exact ⟨⟨moves.accounted between.accounted, between.numbered.of_same moves.sameNumbers⟩, moves.extends⟩

end Between

def after (s : Server) (run : List Incident) : Server := run.foldl undergo s

/-- The connections that come in a run, in order. -/
def arrivals (s : Server) : List Incident → List ConnectionId
  | [] => []
  | i :: run => i.arrival s ++ (s.undergo i).arrivals run

/-- The run can happen. -/
def Allows (foreign : ConnectionId → Prop) (s : Server) : List Incident → Prop
  | [] => True
  | i :: run => i.Fits foreign s ∧ (s.undergo i).Allows foreign run

theorem Allows.append {earlier later : List Incident} (allows : s.Allows foreign (earlier ++ later)) :
    s.Allows foreign earlier ∧ (s.after earlier).Allows foreign later := by
  induction earlier generalizing s with
  | nil => exact ⟨trivial, allows⟩
  | cons i earlier ih => exact ⟨⟨allows.1, (ih allows.2).1⟩, (ih allows.2).2⟩

theorem arrivals_append (s : Server) (earlier later : List Incident) :
    s.arrivals (earlier ++ later) = s.arrivals earlier ++ (s.after earlier).arrivals later := by
  induction earlier generalizing s with
  | nil => rfl
  | cons i earlier ih => rw [List.cons_append, arrivals, ih, arrivals, List.append_assoc]; rfl

theorem Between.after {count : Nat} (between : s.Between foreign count) {run : List Incident}
    (allows : s.Allows foreign run) (few : count + (s.arrivals run).length ≤ 2 ^ 64) :
    (s.after run).Between foreign (count + (s.arrivals run).length) ∧ s.Extends (s.arrivals run) (s.after run) := by
  induction run generalizing s count with
  | nil => exact ⟨between, .rfl⟩
  | cons i run ih =>
    rw [arrivals, List.length_append, ← Nat.add_assoc] at few ⊢
    obtain ⟨next, first⟩ := between.undergo allows.1 (Nat.le_trans (Nat.le_add_right _ _) few)
    obtain ⟨last, rest⟩ := ih next allows.2 few
    exact ⟨last, first.trans rest⟩

/-- The registry has nothing to do with the connection: it is no member, it is not listed as unjoined, and it is
in no roster. -/
structure Absent (s : Server) (c : ConnectionId) : Prop where
  members : c ∉ s.registry.members.keys
  unjoined : c ∉ s.registry.unjoined
  rosters : ∀ name h, s.registry.games.find? name = some h → c ∉ h.game.members

/-- What holds after a run: the connections that have come are distinct, those whose sessions wait for a
handshake or are active are the members, and what has ended has ended for good. -/
structure Lifecycle (s : Server) (run : List Incident) : Prop where
  /-- The sessions come to rest if nothing else happens. -/
  quiet : ∀ c, (s.after run).settle.tend c = (s.after run).settle
  connections : (s.after run).sessions.keys = s.arrivals run
  distinct : (s.arrivals run).Nodup
  /-- The members among the connections that have come are those whose sessions wait for a handshake or are active. -/
  member_iff : ∀ c ∈ s.arrivals run, c ∈ (s.after run).registry.members.keys ↔
    ∃ session, (s.after run).session? c = some session ∧ (session.phase = .handshakePending ∨ session.phase = .active)
  session_eq : ∀ c session m, (s.after run).session? c = some session →
    (s.after run).registry.members.find? c = some m → m.session = session.ref
  /-- Every session is underway or has ended, and has asked for allowed changes of phase only. -/
  proper : ∀ c session, (s.after run).session? c = some session → session.course.Proper
  counted : (s.after run).exchange.telemetry.sessions = UInt64.ofNat (s.after run).liveCount
  absent : ∀ c session, (s.after run).session? c = some session → session.course.Over → (s.after run).Absent c
  /-- What has ended has ended for good. -/
  lasting : ∀ earlier later, run = earlier ++ later → ∀ c session, (s.after earlier).session? c = some session →
    session.course.Over → ∃ session', (s.after run).session? c = some session' ∧ session'.course = session.course
  /-- A game without a registered player is gone. -/
  peopled : ∀ name h, (s.after run).registry.games.find? name = some h →
    ∃ c m, c ∈ h.game.members ∧ (s.after run).registry.members.find? c = some m ∧ m.game = some name

theorem Accounted.absent (accounted : s.Accounted foreign) {c : ConnectionId} {session : Session}
    (found : s.session? c = some session) (dead : session.isLive = false) : s.Absent c := by
  have unknown : s.registry.members.find? c = none := by
    have member := accounted.member c session found
    rw [dead] at member
    exact Option.map_eq_none_iff.mp member
  refine ⟨Table.find?_eq_none_iff.mp unknown, fun inside => ?_, fun name h => accounted.attended.not_mem unknown⟩
  obtain ⟨m, known, _⟩ := (accounted.attended.supervised.listed.unjoined_iff c).mp inside
  cases unknown.symm.trans known

theorem Accounted.mem_members_iff (accounted : s.Accounted foreign) {c : ConnectionId} {session : Session}
    (found : s.session? c = some session) : c ∈ s.registry.members.keys ↔ session.isLive = true := by
  have member := accounted.member c session found
  rw [Table.mem_keys_iff]
  cases live : session.isLive with
  | false =>
    rw [live] at member
    simp [Option.map_eq_none_iff.mp member]
  | true =>
    rw [live] at member
    obtain ⟨m, known, _⟩ := Option.map_eq_some_iff.mp member
    simp [known]

/-- The life of all sessions, in any run: each of them goes from its first phase to its last one by allowed
changes, is a member for just as long as it waits for its handshake or is active, and leaves nothing behind. As
many connections as there are numbers may come, and the registry may be stopped when no session is left. -/
theorem lifecycle (capacity handshakeTimeout : Nat) {foreign : ConnectionId → Prop} {run : List Incident}
    (allows : (create capacity handshakeTimeout).Allows foreign run)
    (few : ((create capacity handshakeTimeout).arrivals run).length ≤ 2 ^ 64) :
    (create capacity handshakeTimeout).Lifecycle run := by
  have start : (create capacity handshakeTimeout).Between foreign 0 :=
    ⟨create_accounted foreign capacity handshakeTimeout, create_numbered capacity handshakeTimeout⟩
  obtain ⟨⟨accounted, _⟩, whole⟩ := start.after allows (by rwa [Nat.zero_add])
  have connections : ((create capacity handshakeTimeout).after run).sessions.keys =
      (create capacity handshakeTimeout).arrivals run := whole.keys
  exact {
    quiet := fun c => (accounted.settle_atRest c).tend_eq
    connections := connections
    distinct := connections ▸ Table.keys_nodup _
    member_iff := by
      intro c inside
      rw [← connections] at inside
      obtain ⟨session, found⟩ := Table.mem_keys_iff.mp inside
      rw [accounted.mem_members_iff found, Session.isLive_iff]
      constructor
      · exact fun live => ⟨session, found, live⟩
      · rintro ⟨other, found', live⟩
        cases found.symm.trans found'
        exact live
    session_eq := by
      intro c session m found known
      have member := accounted.member c session found
      rw [known, Option.map_some] at member
      split at member
      · exact Option.some.inj member
      · cases member
    proper := accounted.proper
    counted := accounted.counted
    absent := fun c session found gone => accounted.absent found gone.isLive
    lasting := by
      rintro earlier later rfl c session found gone
      -- the invariant holds when the session has ended, and from there on
      obtain ⟨begins, goes⟩ := allows.append
      rw [arrivals_append, List.length_append] at few
      obtain ⟨between, _⟩ := start.after begins (by omega)
      obtain ⟨_, rest⟩ := between.after goes (by omega)
      rw [Server.after, List.foldl_append]
      exact rest.lasting c session found gone.isLive
    peopled := fun name h found => accounted.attended.peopled found }

/-- One client is put into a game, which then stops, and another one makes no handshake in time. The first one is told
to close, and hangs up before its turn. A third one comes before all are told to stop. Someone else comes and goes as
well. -/
def visitors : List Incident :=
  [.event .connect, .event .connect, .event (.handshake ⟨1⟩), .request (.join ⟨⟨1⟩, "ring", "Ada", .first, none⟩),
    .turn ⟨1⟩, .summon ⟨9⟩, .request (.register ⟨9⟩ ⟨⟨9⟩, 2⟩), .event (.advance 1000), .halt "ring",
    .command ⟨⟨1⟩, 0⟩ (.close "bye"), .event (.drop ⟨1⟩), .request .summary, .event .connect, .cancelAll,
    .request (.unregister ⟨9⟩), .stop, .settle]

theorem lifecycle_visitors :
    (create 2 1000).Allows (· = ⟨9⟩) visitors ∧ ((create 2 1000).arrivals visitors).length ≤ 2 ^ 64 ∧
      (create 2 1000).Lifecycle visitors := by
  have allows : (create 2 1000).Allows (· = ⟨9⟩) visitors :=
    ⟨⟨rfl, by decide⟩, ⟨rfl, by decide⟩, trivial, trivial, trivial, trivial, rfl, trivial, trivial, trivial, trivial,
      trivial, ⟨by decide +kernel, by decide +kernel⟩, trivial, rfl, Nat.eq_zero_of_le_zero (by decide +kernel),
      trivial, trivial⟩
  have few : ((create 2 1000).arrivals visitors).length ≤ 2 ^ 64 := by decide +kernel
  exact ⟨allows, few, lifecycle 2 1000 allows few⟩

end Server

end Scrimmage
