import Scrimmage.Proofs.Lifecycle
import Scrimmage.Proofs.Logs

namespace Scrimmage

open Text

namespace Incident

/-- Nobody but the clients of the server is registered, or let into a game. Others may ask the registry for
anything else and write to games. -/
def Plain : Incident → Prop
  | .request (.register _ _) | .request (.join _) => False
  | .message _ q => q.Open
  | _ => True

/-- What is handed in to be passed on as it is. -/
def packages : Incident → List Package
  | .event (.send _ frame) => (frame.checked.payload?.map Package.mk).toList
  | .violate _ violation => ((violation.frame?.bind (·.checked.payload?)).map Package.mk).toList
  | .command _ (.write p) => [p]
  | .message _ (.broadcast p) => [p]
  | _ => []

/-- All of it is turns of the server. -/
def Served : Incident → Prop
  | .event .connect | .event (.read _) => False
  | .event _ | .violate _ _ | .cancelAll | .turn _ | .settle => True
  | _ => False

end Incident

namespace Server

variable {allowed : Package → Prop} {s after : Server} {c : ConnectionId} {read : List (List UInt8)} {log : Log}

/-- The joins that are answered in an incident, with the clients that they are from. -/
def answered (s : Server) : Incident → List (ConnectionId × Answer)
  | .event (.send c frame) => if s.listens c then s.answers c frame else []
  | .violate c violation => (violation.frame?.map (s.answers c)).getD []
  | _ => []

/-- The payload that a session takes in in an incident, with the client that it is from. -/
def delivered? (s : Server) : Incident → Option (ConnectionId × Session × List UInt8)
  | .event (.send c frame) => if s.listens c then (s.payload? c frame).map fun own => (c, own) else none
  | .violate c violation => (violation.frame?.bind (s.payload? c)).map fun own => (c, own)
  | _ => none

/-- The texts that a client reads. -/
def reads (s : Server) (c : ConnectionId) : Incident → List (List UInt8)
  | .event (.read d) => if c = d then texts (s.clientRead d).1 else []
  | _ => []

theorem reads_of_served {i : Incident} (served : i.Served) : s.reads c i = [] := by
  cases i with
  | event event =>
    cases event with
    | read => exact served.elim
    | _ => rfl
  | _ => rfl

theorem undergo_turns {i : Incident} (served : i.Served) (words : ∀ p ∈ i.packages, allowed p) :
    Turns allowed s (s.answered i) (s.undergo i) := by
  cases i with
  | event event =>
    cases event with
    | connect => exact served.elim
    | handshake c => exact handshake_turns s c
    | send c frame =>
      exact clientSend_turns s c frame fun payload message => words _ (by rw [Incident.packages, message]; simp)
    | drop c => exact clientDrop_turns s c
    | read c => exact served.elim
    | advance milliseconds => exact advance_turns s milliseconds
  | violate c violation =>
    exact violate_turns s c violation fun frame spelled payload message =>
      words _ (by rw [Incident.packages, Option.mem_def.mp spelled, Option.bind_some, message]; simp)
  | cancelAll => exact cancelSessions_turns s
  | turn c => exact tend_turns s c
  | settle => exact settle_turns s
  | _ => exact served.elim

theorem undergo_internalSteps {i : Incident} (served : i.Served) (nothing : s.delivered? i = none) :
    InternalSteps s (s.undergo i) := by
  cases i with
  | event event =>
    cases event with
    | connect => exact served.elim
    | handshake c => exact handshake_internalSteps s c
    | send c frame =>
      rw [undergo, perform, clientSend, ← listens]
      rw [delivered?] at nothing
      split at nothing
      · rename_i listening
        rw [if_pos listening]
        exact (receive_internalSteps_of_none (Option.map_eq_none_iff.mp nothing)).trans (settle_internalSteps _)
      · rename_i deaf
        rw [if_neg deaf]
    | drop c => exact clientDrop_internalSteps s c
    | read c => exact served.elim
    | advance milliseconds => exact advance_internalSteps s milliseconds
  | violate c violation =>
    have nothing : ∀ frame, violation.frame? = some frame → s.payload? c frame = none := by
      intro frame spelled
      rw [delivered?, spelled] at nothing
      exact Option.map_eq_none_iff.mp nothing
    cases violation with
    | noHandshake => exact failHandshake_internalSteps s c
    | partialHandshake => exact touch_internalSteps s c Session.undisturbed_spoiled
    | invalidFrame => exact (receive_internalSteps_of_none (nothing _ rfl)).trans (settle_internalSteps _)
    | partialFrame => exact .refl
    | fragmented payload => exact (receive_internalSteps_of_none (nothing _ rfl)).trans (settle_internalSteps _)
  | cancelAll => exact cancelSessions_internalSteps s
  | turn c => exact tend_internalSteps s c
  | settle => exact settle_internalSteps s
  | _ => exact served.elim

theorem undergo_delivers {i : Incident} {session : Session} {payload : List UInt8}
    (delivers : s.delivered? i = some (c, session, payload)) :
    s.session? c = some session ∧ session.phase = .active ∧
      InternalSteps (s.receivePayload c session payload) (s.undergo i) := by
  have received : ∀ {frame : ClientFrame}, s.payload? c frame = some (session, payload) →
      s.session? c = some session ∧ session.phase = .active ∧
        InternalSteps (s.receivePayload c session payload) (s.receive c frame).settle := fun takes => by
    obtain ⟨found, active, same⟩ := receive_of_payload? takes
    exact ⟨found, active, same ▸ settle_internalSteps _⟩
  cases i with
  | event event =>
    cases event with
    | send d frame =>
      rw [undergo, perform, clientSend, ← listens]
      rw [delivered?] at delivers
      split at delivers
      · rename_i listening
        obtain ⟨own, takes, same⟩ := Option.map_eq_some_iff.mp delivers
        cases same
        rw [if_pos listening]
        exact received takes
      · cases delivers
    | _ => cases delivers
  | violate d violation =>
    obtain ⟨own, takes, same⟩ := Option.map_eq_some_iff.mp delivers
    cases same
    obtain ⟨frame, spelled, takes⟩ := Option.bind_eq_some_iff.mp takes
    cases violation with
    | invalidFrame | fragmented =>
      cases spelled
      exact received takes
    | _ => cases spelled
  | _ => cases delivers

theorem halt_extends (r : Registry) (name : String) :
    r.exchange.Extends (fun _ => []) (r.halt name).exchange ∧
      ∀ c, (r.halt name).members.find? c = r.members.find? c := by
  have undergoes := r.halt_undergoes name
  exact ⟨.of_same fun s => (undergoes.outbox s).trans Option.map_id', undergoes.member⟩

theorem cancel_extends (r : Registry) :
    (∃ closes, Wordless closes ∧ r.exchange.Extends closes r.cancel.exchange) ∧
      ∀ c m, r.cancel.members.find? c = some m → r.members.find? c = some m := by
  rw [Registry.cancel]
  split
  · have ended := r.cancelAll.finish_undergoes
    exact ⟨⟨_, fun s => written_close _ _, ended.outbox⟩, fun c m known => (ended.member c).symm.trans known⟩
  · exact ⟨⟨_, fun _ => rfl, .of_same fun _ => rfl⟩, fun _ _ known => known⟩

theorem Posted.undergo (posted : s.Posted) {i : Incident} (plain : i.Plain) (other : i ≠ .event .connect) :
    (s.undergo i).Posted := by
  have turns : i.Served → (s.undergo i).Posted := by
    intro served
    have turns : Turns (fun _ => True) s _ (s.undergo i) := undergo_turns served fun _ _ => trivial
    exact posted.turns turns
  cases i with
  | event event =>
    cases event with
    | connect => exact absurd rfl other
    | read d =>
      simp only [Server.undergo, perform, clientRead]
      split
      · exact posted
      · split
        · exact posted
        · exact posted.modifySession d (fun _ => rfl) (fun _ => rfl) fun _ _ live => live
    | _ => exact turns trivial
  | cancel ref => exact posted.queues (.cancels s.exchange [ref])
  | command ref command => exact posted.offer ref command
  | summon d => exact posted.queues (.openOutbox s.exchange d)
  | request q =>
    obtain ⟨closes, _, extends'⟩ := s.registry.ask_wordless (q := q) fun a same => by subst same; exact plain
    exact posted.registry (posted.attended.ask q) (fun d m known => Registry.member_of_ask
      (fun a same => by subst same; exact plain) (fun d ref same => by subst same; exact plain) known) extends'.keeps
  | message ref q =>
    obtain ⟨⟨more, _, extends'⟩, members⟩ := s.registry.askGame_extends ref plain
    exact posted.registry (posted.attended.askGame ref plain) (fun d m known => (members d).symm.trans known)
      extends'.keeps
  | halt name =>
    obtain ⟨extends', members⟩ := halt_extends s.registry name
    exact posted.registry (posted.attended.halt name) (fun d m known => (members d).symm.trans known) extends'.keeps
  | stop =>
    obtain ⟨⟨closes, _, extends'⟩, members⟩ := cancel_extends s.registry
    exact posted.registry posted.attended.cancel members extends'.keeps
  | _ => exact turns trivial

/-- What a client reads is the beginning of what it has been sent. -/
theorem Tells.clientRead (tells : s.Tells allowed c read log) (d : ConnectionId) :
    (s.clientRead d).2.Tells allowed c (read ++ if c = d then texts (s.clientRead d).1 else []) log := by
  obtain ⟨session, found, follows⟩ := tells
  have unread : ∀ t, s = t → t.Tells allowed c (read ++ if c = d then texts [] else []) log := by
    rintro t rfl
    rw [texts, List.filterMap_nil, ite_self, List.append_nil]
    exact ⟨session, found, follows⟩
  rw [Server.clientRead]
  split
  · exact unread s rfl
  · rename_i other there
    split
    · exact unread s rfl
    · by_cases here : c = d
      · subst here
        cases found.symm.trans there
        refine ⟨_, session?_modifySession_self found _, ?_, follows.waiting, follows.words⟩
        obtain ⟨farewell, warning, none, told⟩ := follows.told
        refine ⟨farewell, warning, none, ?_⟩
        rw [if_pos rfl, ← told]
        exact List.append_nil _
      · rw [if_neg here, List.append_nil]
        exact ⟨session, (session?_modifySession s d c _).trans ((if_neg here).trans found), follows.told,
          follows.waiting, follows.words⟩

theorem Tells.undergo (tells : s.Tells allowed c read log) (posted : s.Posted) {i : Incident} (plain : i.Plain)
    (other : i ≠ .event .connect) (words : ∀ p ∈ i.packages, allowed p) :
    Continues allowed c (read ++ s.reads c i) log (s.undergo i) (answersFor c (s.answered i)) := by
  have turns : i.Served →
      Continues allowed c (read ++ s.reads c i) log (s.undergo i) (answersFor c (s.answered i)) := by
    intro served
    rw [reads_of_served served, List.append_nil]
    exact (undergo_turns served words).continues posted tells
  cases i with
  | event event =>
    cases event with
    | connect => exact absurd rfl other
    | read d => exact ⟨log, tells.clientRead d, .rfl⟩
    | _ => exact turns trivial
  | cancel ref =>
    simp only [reads, List.append_nil]
    exact tells.same (fun session found => ⟨session, found, .rfl⟩) fun session _ =>
      s.exchange.written_cancels [ref] session.ref
  | command ref command =>
    simp only [reads, List.append_nil]
    refine tells.registry posted (s.exchange.extends_offer ref command) fun other p member => ?_
    split at member
    · cases command with
      | write p' =>
        cases List.mem_singleton.mp member
        exact words p (List.mem_singleton.mpr rfl)
      | close reason => cases member
    · cases member
  | summon d =>
    simp only [reads, List.append_nil]
    refine tells.same (fun session found => ⟨session, found, .rfl⟩) fun session found => ?_
    obtain ⟨o, queue, _⟩ := posted.queue c session found
    have inside : session.ref.queue < s.exchange.outboxes.length := (List.getElem?_eq_some_iff.mp queue).1
    have same : (s.exchange.openOutbox d).2.outbox? session.ref = s.exchange.outbox? session.ref :=
      List.getElem?_append_left inside
    exact congrArg Scrimmage.written (Exchange.waiting_eq_of_outbox? same)
  | request q =>
    simp only [reads, List.append_nil]
    obtain ⟨closes, wordless, extends'⟩ := s.registry.ask_wordless (q := q) fun a same => by subst same; exact plain
    exact tells.registry posted extends' fun ref p member => by rw [wordless] at member; cases member
  | message ref q =>
    simp only [reads, List.append_nil]
    obtain ⟨⟨more, only, extends'⟩, _⟩ := s.registry.askGame_extends ref plain
    refine tells.registry posted extends' fun other p member => ?_
    cases only other p member
    exact words p (List.mem_singleton.mpr rfl)
  | halt name =>
    simp only [reads, List.append_nil]
    exact tells.registry posted (halt_extends s.registry name).1 nofun
  | stop =>
    simp only [reads, List.append_nil]
    obtain ⟨⟨closes, wordless, extends'⟩, _⟩ := cancel_extends s.registry
    exact tells.registry posted extends' fun ref p member => by rw [wordless] at member; cases member
  | _ => exact turns trivial

/-- A session comes with a queue that nobody has had before. -/
structure Arrives (s : Server) (c : ConnectionId) (session : Session) (after : Server) : Prop where
  attended : after.registry.Attended
  sessions : ∀ d, after.session? d = if d = c then some session else s.session? d
  outside : session.game = none
  silent : texts session.sent = []
  member : ∀ d m, after.registry.members.find? d = some m →
    d = c ∧ m.session = session.ref ∧ m.game = none ∨ s.registry.members.find? d = some m
  fresh : s.exchange.outbox? session.ref = none
  queue : ∃ o, after.exchange.outbox? session.ref = some o ∧
    (session.isLive = true → o.isOpen = true ∧ written o.waiting = [])
  queues : ∃ closes, Wordless closes ∧ ∀ ref, (s.exchange.outbox? ref).isSome = true →
    after.exchange.outbox? ref = (s.exchange.outbox? ref).map (Exchange.extended · (closes ref))

namespace Arrives

variable {session : Session} (arrives : s.Arrives c session after) (posted : s.Posted)

include arrives

theorem found : after.session? c = some session := (arrives.sessions c).trans (if_pos rfl)

theorem tells_new : after.Tells allowed c [] { passed := [], left := [] } := by
  refine ⟨session, arrives.found, ⟨none, nofun, fun _ => rfl, arrives.silent⟩, fun live => ?_, nofun⟩
  obtain ⟨o, queue, fresh⟩ := arrives.queue
  exact (Exchange.written_eq queue).trans (fresh live).2

variable (new : s.session? c = none)

include new

theorem other {d : ConnectionId} {old : Session} (found : s.session? d = some old) : after.session? d = some old := by
  rw [arrives.sessions, if_neg, found]
  rintro rfl
  cases new.symm.trans found

include posted

theorem posted_after : after.Posted where
  attended := arrives.attended
  member d m known := by
    rcases arrives.member d m known with ⟨rfl, same, outside⟩ | before
    · exact ⟨session, arrives.found, same, by simp [outside, arrives.outside]⟩
    · obtain ⟨old, found, same, placed⟩ := posted.member d m before
      exact ⟨old, arrives.other new found, same, placed⟩
  queue d later found := by
    rw [arrives.sessions] at found
    split at found
    · cases found
      obtain ⟨o, queue, fresh⟩ := arrives.queue
      exact ⟨o, queue, fun live => (fresh live).1⟩
    · obtain ⟨o, queue, isOpen⟩ := posted.queue d later found
      obtain ⟨closes, _, queues⟩ := arrives.queues
      refine ⟨_, (queues later.ref (by rw [queue]; rfl)).trans (by rw [queue, Option.map_some]), fun live => ?_⟩
      rw [Exchange.extended]
      split
      · exact isOpen live
      · exact isOpen live
  apart d e one other found found' same := by
    -- no session of before has the new queue
    have apart : ∀ f old, s.session? f = some old → old.ref.queue ≠ session.ref.queue := by
      intro f old there same
      obtain ⟨o, queue, _⟩ := posted.queue f old there
      have taken := arrives.fresh
      rw [Exchange.outbox?, ← same, ← Exchange.outbox?, queue] at taken
      cases taken
    rw [arrives.sessions] at found found'
    split at found
    · rename_i here
      split at found'
      · rename_i here'
        exact here.trans here'.symm
      · cases found
        exact absurd same.symm (apart e other found')
    · split at found'
      · cases found'
        exact absurd same (apart d one found)
      · exact posted.apart d e one other found found' same

theorem tells_old {d : ConnectionId} (tells : s.Tells allowed d read log) : Continues allowed d read log after [] := by
  obtain ⟨closes, wordless, queues⟩ := arrives.queues
  refine tells.same (fun session found => ⟨session, arrives.other new found, .rfl⟩) fun session found => ?_
  obtain ⟨o, queue, _⟩ := posted.queue d session found
  exact Exchange.written_extended (queues session.ref (by rw [queue]; rfl)) (wordless session.ref)

end Arrives

theorem begun_arrives (posted : s.Posted) (running : s.registry.running = true)
    (new : s.session? ⟨s.nextConnection⟩ = none) :
    s.Arrives ⟨s.nextConnection⟩ (newcomer ⟨⟨s.nextConnection⟩, s.exchange.outboxes.length⟩) s.begun := by
  obtain ⟨x, _, ⟨o, queue, empty, isOpen⟩, queues, opens⟩ := s.openSession_opens
  have fresh : s.exchange.outbox? ⟨⟨s.nextConnection⟩, s.exchange.outboxes.length⟩ = none :=
    List.getElem?_eq_none le_rfl
  generalize (⟨s.nextConnection⟩ : ConnectionId) = c at new queue fresh opens ⊢
  generalize (⟨c, s.exchange.outboxes.length⟩ : SessionRef) = ref at queue fresh opens ⊢
  have unknown : s.registry.members.find? c = none := by
    rw [Option.eq_none_iff_forall_ne_some]
    intro m known
    obtain ⟨session, found, _⟩ := posted.member c m known
    cases new.symm.trans found
  have running : ({ s.registry with exchange := x } : Registry).running = true := running
  have attended := (posted.attended.queues x).ask (.register c ref)
  obtain ⟨closes, wordless, extends'⟩ :=
    ({ s.registry with exchange := x } : Registry).ask_wordless (q := .register c ref) nofun
  have members := (Registry.ask_extends running (.register c ref)).2
  simp only [begun, opens, Registry.send_register]
  generalize (({ s.registry with exchange := x } : Registry).ask (.register c ref)).2 = after at *
  exact {
    attended := attended
    sessions := by
      intro d
      rw [session?_modifySession]
      have inserted := Table.find?_insert s.sessions c d (.create ref)
      by_cases here : d = c
      · rw [if_pos here, if_pos here]
        exact congrArg (Option.map _) (inserted.trans (if_pos here))
      · rw [if_neg here, if_neg here]
        exact inserted.trans (if_neg here)
    outside := rfl
    silent := rfl
    member := by
      intro d m known
      have known := (members d).symm.trans known
      simp only [Registry.requestChange, Change.register] at known
      split at known
      · rename_i here
        rw [here, unknown, Option.getD_none] at known
        cases known
        exact Or.inl ⟨here, rfl, rfl⟩
      · exact Or.inr known
    fresh := fresh
    queue := by
      refine ⟨Exchange.extended o (closes ref), (extends' ref).trans (by rw [queue, Option.map_some]), fun _ => ?_⟩
      rw [Exchange.extended, if_pos isOpen, empty]
      exact ⟨isOpen, wordless ref⟩
    queues := ⟨closes, wordless, fun other there => (extends' other).trans (congrArg _ (queues other there))⟩ }

/-- A session that comes to a registry that has stopped, which ends it. -/
def turnedOff (session : Session) : Session :=
  let told := (session.become .closing).deliver [.ended]
  { told.become .closed with ending := some .registryUnavailable }.note .closed

theorem finish_unavailable {session : Session} (found : s.session? c = some session)
    (connecting : session.phase = .connecting) :
    s.finish c .registryUnavailable none none =
      (s.modifyExchange fun x => (x.modifyOutbox session.ref (·.shut)).measure (·.sessionClosed)).modifySession c
        turnedOff := by
  have inactive : decide (session.phase = Phase.active) = false := by rw [connecting]; rfl
  simp only [finish, found, beginClosing, inactive, Bool.false_eq_true, if_false, if_true, Ending.isError]
  simp only [conclude, close, modifySession, modifyExchange, measure, Table.modify_modify]
  rfl

theorem stopped_arrives (posted : s.Posted) (stopped : s.registry.running = false) :
    s.Arrives ⟨s.nextConnection⟩ (turnedOff (.create ⟨⟨s.nextConnection⟩, s.exchange.outboxes.length⟩))
      s.connect.2 := by
  obtain ⟨x, _, ⟨o, queue, _, _⟩, queues, opens⟩ := s.openSession_opens
  have fresh : s.exchange.outbox? ⟨⟨s.nextConnection⟩, s.exchange.outboxes.length⟩ = none :=
    List.getElem?_eq_none le_rfl
  have sends : ({ s.registry with exchange := x } : Registry).running = false := stopped
  simp only [connect, opens, Registry.send, sends, Bool.false_eq_true, if_false]
  generalize (⟨s.nextConnection⟩ : ConnectionId) = c at queue fresh opens ⊢
  generalize (⟨c, s.exchange.outboxes.length⟩ : SessionRef) = ref at queue fresh opens ⊢
  have inserted := fun d => Table.find?_insert s.sessions c d (.create ref)
  have finished := finish_unavailable (s := { s with
    registry := { s.registry with exchange := x }
    sessions := s.sessions.insert c (.create ref)
    nextConnection := s.nextConnection + 1 }) ((inserted c).trans (if_pos rfl)) rfl
  rw [finished]
  have outbox := fun other => Exchange.outbox?_modifyOutbox x other ref (·.shut)
  exact {
    attended := posted.attended.queues _
    sessions := by
      intro d
      refine (session?_modifySession ..).trans ?_
      by_cases here : d = c
      · rw [if_pos here, if_pos here]
        exact congrArg (Option.map _) ((inserted d).trans (if_pos here))
      · rw [if_neg here, if_neg here]
        exact (inserted d).trans (if_neg here)
    outside := rfl
    silent := rfl
    member := fun d m known => Or.inr known
    fresh := fresh
    queue := ⟨o.shut, (outbox ref).trans ((if_pos rfl).trans (congrArg (Option.map _) queue)),
      fun live => by cases live⟩
    queues := by
      refine ⟨fun _ => [], fun _ => rfl, fun other there => ?_⟩
      have apart : ref.queue ≠ other.queue := by
        intro same
        rw [Exchange.outbox?, ← same, ← Exchange.outbox?, fresh] at there
        cases there
      refine ((outbox other).trans (if_neg apart)).trans ((queues other there).trans ?_)
      simp }

theorem connect_internalSteps (running : s.registry.running = true) : InternalSteps s.begun s.connect.2 := by
  rw [connect_eq running]
  exact ((settle_internalSteps _).trans (elapse_internalSteps 0 _ ⟨s.nextConnection⟩)).trans (settle_internalSteps _)

theorem connect_stopped (stopped : s.registry.running = false) :
    s.connect.2 = s.openSession.2.2.finish s.openSession.1 .registryUnavailable none none := by
  have stopped : s.openSession.2.2.registry.running = false := stopped
  simp only [connect, Registry.send, stopped, Bool.false_eq_true, if_false]

/-- A new session, and what it and all others do as long as there is something left to do. -/
theorem connect_arrives (posted : s.Posted) (new : s.session? ⟨s.nextConnection⟩ = none) :
    ∃ session between, s.Arrives ⟨s.nextConnection⟩ session between ∧ InternalSteps between s.connect.2 := by
  cases running : s.registry.running with
  | true => exact ⟨_, _, begun_arrives posted running new, connect_internalSteps running⟩
  | false => exact ⟨_, _, stopped_arrives posted running, .refl⟩

theorem Turns.sameNumbers {answers : List (ConnectionId × Answer)} (turns : Turns (fun _ => True) s answers after) :
    s.SameNumbers after := by
  have moves : Moves (fun _ => False) s after := moves_of_turns turns
  exact moves.sameNumbers

theorem undergo_sameNumbers {i : Incident} (other : i ≠ .event .connect) : s.SameNumbers (s.undergo i) := by
  have turns : i.Served → s.SameNumbers (s.undergo i) := fun served =>
    (undergo_turns served fun _ _ => trivial).sameNumbers
  cases i with
  | event event =>
    cases event with
    | connect => exact absurd rfl other
    | read d => exact clientRead_sameNumbers s d
    | _ => exact turns trivial
  | cancel | command | summon | request | message | halt | stop => exact registry_sameNumbers ..
  | _ => exact turns trivial

/-- What an incident comes to for all clients. Each session has a log, which grows by the answers to the joins
of its client and by what somebody has said. -/
structure Proceeds (allowed : Package → Prop) (s : Server) (i : Incident) (after : Server) : Prop where
  posted : after.Posted
  old : ∀ c read log, s.Tells allowed c read log →
    Continues allowed c (read ++ s.reads c i) log after (answersFor c (s.answered i))
  /-- A client that comes has been told nothing, and has not been answered. -/
  new : ∀ c session, s.session? c = none → after.session? c = some session →
    Continues allowed c [] { passed := [], left := [] } after []

theorem Posted.proceeds (posted : s.Posted) {count : Nat} (numbered : s.Numbered count) {i : Incident} (plain : i.Plain)
    (few : count + (i.arrival s).length ≤ 2 ^ 64) (words : ∀ p ∈ i.packages, allowed p) :
    s.Proceeds allowed i (s.undergo i) ∧ (s.undergo i).Numbered (count + (i.arrival s).length) := by
  by_cases comes : i = .event .connect
  · subst comes
    have new := numbered.new (Nat.lt_of_succ_le few)
    obtain ⟨session, between, arrives, steps⟩ := connect_arrives posted new
    have posted' := arrives.posted_after posted new
    have turns : ∀ allowed, Turns allowed between [] s.connect.2 := fun _ => steps.turns
    have same := (turns _).sameNumbers
    refine ⟨⟨posted'.turns (turns allowed), fun c read log tells => ?_, fun c later absent found => ?_⟩,
      numbered.connect⟩
    · simp only [reads, List.append_nil]
      exact (arrives.tells_old posted new tells).then fun log' tells' => (turns allowed).continues posted' tells'
    · have inside := Table.mem_keys_of_find? found
      rw [Server.undergo, perform, same.keys] at inside
      obtain ⟨begun, there⟩ := Table.mem_keys_iff.mp inside
      have here := (arrives.sessions c).symm.trans there
      split at here
      · rename_i own
        subst own
        exact (turns allowed).continues posted' arrives.tells_new
      · cases absent.symm.trans here
  · have same := undergo_sameNumbers (s := s) comes
    rw [arrival_of_ne comes]
    refine ⟨⟨posted.undergo plain comes, fun c read log tells => tells.undergo posted plain comes words,
      fun c session absent found => ?_⟩, numbered.of_same same⟩
    have inside := Table.mem_keys_of_find? found
    rw [same.keys] at inside
    exact absurd inside (Table.find?_eq_none_iff.mp absent)

end Server

end Scrimmage
