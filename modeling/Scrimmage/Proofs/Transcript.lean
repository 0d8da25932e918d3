import Scrimmage.Proofs.Clients
import Scrimmage.Proofs.Numbers

namespace Scrimmage

open Text

/-- What a client does, or time. -/
inductive Event
  | connect
  | handshake (c : ConnectionId)
  | send (c : ConnectionId) (frame : ClientFrame)
  | drop (c : ConnectionId)
  | read (c : ConnectionId)
  | advance (milliseconds : Nat)

/-- Whether a client comes. -/
def Event.isConnect : Event → Bool
  | .connect => true
  | _ => false

/-- What the registry sees when a message goes past it to the members of a game. -/
structure Registry.Forwards (r : Registry) (name : String) (after : Registry) : Prop where
  members : after.members = r.members
  unjoined : after.unjoined = r.unjoined
  mailbox : after.mailbox = r.mailbox
  games : ∀ other, (after.games.find? other).map (·.game) = (r.games.find? other).map (·.game)
  journal : after.exchange.telemetry.journal = .broadcast (r.population name) :: r.exchange.telemetry.journal

namespace Server

def journal (s : Server) : Journal := s.exchange.telemetry.journal

theorem journal_settle {s : Server} {capacity : Nat} (orderly : s.Orderly capacity) :
    s.settle.journal = s.journal := by
  obtain ⟨x, registry, telemetry⟩ := orderly.settle_tended.registry
  rw [journal, exchange, registry, telemetry, journal]

namespace Calm

variable {s : Server} {capacity : Nat} (calm : s.Calm capacity) {c : ConnectionId} {session : Session}
  (found : s.session? c = some session) (active : session.phase = .active)

include calm found active

/-- A message from within a game is no matter of the lobby or of the registry. -/
theorem receive_forwards {ref : GameRef} (joined : session.game = some ref) {payload : List UInt8}
    (valid : (Utf8.decode payload).isOk = true) :
    s.registry.Forwards ref.name (s.receivePayload c session payload).settle.registry := by
  have live := Session.isLive_of_active active
  have at' := (calm.attends c session found live).game ref joined
  obtain ⟨_, relays⟩ := calm.serves.coherent.relays at' ⟨payload⟩
  have queues := calm.toOrderly.relay found live joined (p := ⟨payload⟩) (isText_iff.mpr valid)
  rw [calm.receivePayload_eq found active joined valid]
  obtain ⟨x, registry, telemetry⟩ := (queues.keeps calm.toOrderly).settle_tended.registry
  rw [registry]
  exact {
    members := relays.members
    unjoined := relays.unjoined
    mailbox := relays.mailbox
    games := relays.games
    journal := (congrArg Telemetry.journal telemetry).trans
      (relays.journal fun _ _ known => calm.toOrderly.accepts known) }

theorem receive_unheard (outside : session.game = none) (payload : List UInt8) :
    ∃ new, (s.receivePayload c session payload).settle.journal = new ++ s.journal ∧ Registry.Unheard new := by
  have member := (calm.attends c session found (Session.isLive_of_active active)).member
  rw [outside] at member
  obtain ⟨receives, serves⟩ := Lobby.receive_receives calm.serves member rfl payload
  simp only [receivePayload, outside]
  generalize (Lobby.receive s.registry c payload).1 = outcome at receives ⊢
  generalize (Lobby.receive s.registry c payload).2 = after at receives serves ⊢
  cases receives with
  | unidentified decoded =>
    have queues := calm.toOrderly.reply found active serves rfl (fun _ => rfl) rfl
      (p := Notice.unidentified.encode) (Notice.encode_isText _)
    refine ⟨[.unidentified], (journal_settle (queues.keeps calm.toOrderly)).trans ?_, by simp [Registry.Unheard]⟩
    exact congrArg Telemetry.journal (Exchange.telemetry_offer _ _ _)
  | @full q _ decoded turnsAway =>
    obtain ⟨new, journal, unheard⟩ := turnsAway.journal
    have queues := calm.toOrderly.reply found active serves turnsAway.members turnsAway.refs turnsAway.outboxes
      (p := (Notice.full q.id).encode) (Notice.encode_isText _)
    refine ⟨new, (journal_settle (queues.keeps calm.toOrderly)).trans ?_, unheard⟩
    exact (congrArg Telemetry.journal (Exchange.telemetry_offer _ _ _)).trans journal
  | joined decoded letsIn =>
    obtain ⟨new, journal, unheard⟩ := letsIn.journal
    have queues := calm.toOrderly.turn found active serves letsIn
    exact ⟨new, (journal_settle (queues.keeps calm.toOrderly)).trans journal, unheard⟩

end Calm

theorem Calm.clientRead {s : Server} {capacity : Nat} (calm : s.Calm capacity) (c : ConnectionId) :
    (s.clientRead c).2.Calm capacity ∧
      (∀ d, texts (if d = c then (s.clientRead c).1 else []) ++ texts ((s.clientRead c).2.sent d) =
        texts (s.sent d)) ∧
      (∀ d, (s.clientRead c).2.game? d = s.game? d) ∧ ∀ d, (s.clientRead c).2.listens d = s.listens d := by
  have unread : ∀ d, texts (if d = c then [] else []) ++ texts (s.sent d) = texts (s.sent d) := by
    intro d
    rw [ite_self]
    rfl
  rw [Server.clientRead]
  split
  · exact ⟨calm, unread, fun _ => rfl, fun _ => rfl⟩
  · rename_i session found
    split
    · exact ⟨calm, unread, fun _ => rfl, fun _ => rfl⟩
    · refine ⟨calm.modifySession c ⟨fun _ => rfl, fun _ => rfl, fun _ pending => pending⟩ fun _ => rfl, fun d => ?_,
        fun _ => rfl, fun d => listens_modifySession s c d (fun _ => rfl) fun _ => rfl⟩
      rw [sent, session?_modifySession, sent]
      by_cases here : d = c
      · rw [if_pos here, if_pos here, here, found]
        exact List.append_nil _
      · rw [if_neg here, if_neg here]
        rfl

theorem receive_message {s : Server} {c : ConnectionId} {session : Session} (found : s.session? c = some session)
    (active : session.phase = .active) {frame : ClientFrame} {payload : List UInt8}
    (message : frame.checked.payload? = some payload) : s.receive c frame = s.receivePayload c session payload := by
  simp only [receive, found, active, if_true]
  cases checked : frame.checked with
  | text octets =>
    rw [checked, ClientFrame.payload?] at message
    split at message
    · rename_i valid
      cases message
      cases decoded : Utf8.decode payload with
      | ok => simp only [decoded]
      | error => simp [decoded, Except.isOk, Except.toBool] at valid
    · cases message
  | binary octets =>
    rw [checked] at message
    cases message
    rfl
  | _ =>
    rw [checked] at message
    cases message

def perform (s : Server) : Event → Server
  | .connect => s.connect.2
  | .handshake c => (s.handshake c).2
  | .send c frame => (s.clientSend c [frame]).2
  | .drop c => (s.clientDrop c).2
  | .read c => (s.clientRead c).2
  | .advance milliseconds => s.advance milliseconds

/-- What an event comes to for the clients. -/
def effect (s : Server) : Event → Effect
  | .handshake c =>
    if (s.handshake c).1 = .done then { s.unchanged with listens := fun d => d = c || s.listens d } else s.unchanged
  | .send c f => if s.listens c then s.frame c f else s.unchanged
  | .drop c => if s.hasLine c then s.without c else s.unchanged
  | .connect | .read _ | .advance _ => s.unchanged

end Server

/-- An event, and the server that it happens to. What it comes to is found by letting the server go on until
nothing is left to do. -/
structure Moment where
  before : Server
  event : Event

namespace Moment

def after (t : Moment) : Server := t.before.perform t.event

/-- The frames that a client reads. -/
def read (t : Moment) (d : ConnectionId) : List ServerFrame :=
  match t.event with
  | .read c => if d = c then (t.before.clientRead c).1 else []
  | _ => []

def effect (t : Moment) : Effect := t.before.effect t.event

/-- A client that is listened to sends a message. -/
def Speaks (t : Moment) (c : ConnectionId) (payload : List UInt8) : Prop :=
  ∃ frame : ClientFrame, t.event = .send c frame ∧ t.before.listens c = true ∧ frame.checked.payload? = some payload

/-- What every moment is like. A client comes into a game by a join that is accepted and stays there until it ends;
from outside every game it is answered by the lobby alone, and from within a game by nobody but the game. -/
structure Proper (t : Moment) : Prop where
  /-- Who is in no game comes into one by a join that is accepted, and who is in one stays until the end. -/
  game? : ∀ c, t.after.game? c = t.effect.game? c
  /-- Who has made the handshake is listened to until the end. -/
  listens : ∀ c, t.after.listens c = t.effect.listens c
  /-- A message from outside every game is passed on by no game. -/
  unheard : ∀ c payload, t.Speaks c payload → t.before.game? c = none →
    ∃ new, t.after.journal = new ++ t.before.journal ∧ Registry.Unheard new
  /-- A message from within a game is passed on by the game, and no one else deals with it. -/
  forwards : ∀ c payload name, t.Speaks c payload → t.before.game? c = some name →
    (Utf8.decode payload).isOk = true → t.before.registry.Forwards name t.after.registry
  /-- What is no text is no request either, and within a game it comes to nothing. -/
  garbled : ∀ c payload, t.Speaks c payload → (Utf8.decode payload).isOk = false →
    t.before.registry.reply payload = Notice.unidentified.write ∧
      ∀ name, t.before.game? c = some name → t.after = t.before

theorem of_speaks {t : Moment} {c : ConnectionId} {payload : List UInt8} (speaks : t.Speaks c payload) :
    ∃ frame session, t.event = .send c frame ∧ t.before.session? c = some session ∧ session.phase = .active ∧
      t.after = (t.before.receivePayload c session payload).settle := by
  obtain ⟨frame, event, listens, message⟩ := speaks
  obtain ⟨session, found, active⟩ := Server.active_of_listens listens
  refine ⟨frame, session, event, found, active, ?_⟩
  rw [after, event, Server.perform, Server.clientSend]
  rw [Server.listens] at listens
  rw [if_pos listens]
  rw [Server.receiveAll, List.foldl_cons, List.foldl_nil, Server.receive_message found active message]

section

variable {t : Moment} {capacity : Nat} (calm : t.before.Calm capacity)

include calm

theorem passes (new : t.event = .connect → t.before.session? ⟨t.before.nextConnection⟩ = none) :
    t.after.Calm capacity ∧
      (∀ d, texts (t.read d) ++ texts (t.after.sent d) = texts (t.before.sent d) ++ t.effect.due d) ∧
      (∀ d, t.after.game? d = t.effect.game? d) ∧ ∀ d, t.after.listens d = t.effect.listens d := by
  obtain ⟨s, event⟩ := t
  have unread : ∀ {effect after}, s.Passes capacity effect after → after.Calm capacity ∧
      (∀ d, texts [] ++ texts (after.sent d) = texts (s.sent d) ++ effect.due d) ∧
        (∀ d, after.game? d = effect.game? d) ∧ ∀ d, after.listens d = effect.listens d :=
    fun passes => ⟨passes.calm, passes.sent, passes.game?, passes.listens⟩
  cases event with
  | connect => exact unread (calm.connect (new rfl))
  | handshake c => exact unread (calm.handshake c)
  | send c f =>
    simp only [after, read, effect, Server.effect, Server.perform]
    cases listens : s.listens c with
    | true =>
      obtain ⟨session, found, active⟩ := Server.active_of_listens listens
      rw [Server.listens] at listens
      rw [Server.clientSend, if_pos listens]
      exact unread (calm.receive found active f)
    | false =>
      rw [Server.listens] at listens
      rw [Server.clientSend, listens]
      exact unread calm.same
  | drop c => exact unread (calm.clientDrop c)
  | read c =>
    obtain ⟨later, reads, seen⟩ := calm.clientRead c
    exact ⟨later, fun d => (reads d).trans (List.append_nil _).symm, seen⟩
  | advance milliseconds => exact unread (calm.advance milliseconds)

theorem proper (new : t.event = .connect → t.before.session? ⟨t.before.nextConnection⟩ = none) : t.Proper where
  game? := (passes calm new).2.2.1
  listens := (passes calm new).2.2.2
  unheard := by
    intro c payload speaks outside
    obtain ⟨frame, session, event, found, active, same⟩ := of_speaks speaks
    rw [same]
    rw [calm.game?_eq found (Session.isLive_of_active active), Option.map_eq_none_iff] at outside
    exact calm.receive_unheard found active outside payload
  forwards := by
    intro c payload name speaks inside valid
    obtain ⟨frame, session, event, found, active, same⟩ := of_speaks speaks
    rw [same]
    rw [calm.game?_eq found (Session.isLive_of_active active), Option.map_eq_some_iff] at inside
    obtain ⟨ref, joined, rfl⟩ := inside
    exact calm.receive_forwards found active joined valid
  garbled := by
    intro c payload speaks invalid
    constructor
    · cases decoded : JoinRequest.decode payload with
      | ok q =>
        rw [isText_iff.mp (JoinRequest.isText_of_decode decoded)] at invalid
        cases invalid
      | error fault => exact (Registry.reply_of_unidentified decoded).1
    · intro name inside
      obtain ⟨frame, session, event, found, active, same⟩ := of_speaks speaks
      rw [calm.game?_eq found (Session.isLive_of_active active), Option.map_eq_some_iff] at inside
      obtain ⟨ref, joined, rfl⟩ := inside
      rw [same, Server.Calm.receive_invalid joined invalid, calm.toOrderly.settle_of_quiet calm.quiet]

end

end Moment

/-- A server from its start on, moment by moment. Events happen one after another, in any order and with any
frames; each is carried out until nothing is left to do. The number of a new connection is one that no session
has. -/
inductive Server.Recounts (capacity handshakeTimeout : Nat) : List Moment → Server → Prop
  | start : Recounts capacity handshakeTimeout [] (.create capacity handshakeTimeout)
  | next {past s} (event : Event) : Recounts capacity handshakeTimeout past s →
      (event = .connect → s.session? ⟨s.nextConnection⟩ = none) →
      Recounts capacity handshakeTimeout (past ++ [⟨s, event⟩]) (s.perform event)

namespace Server.Recounts

variable {capacity handshakeTimeout : Nat} {past : List Moment} {s : Server}
  (recounts : Recounts capacity handshakeTimeout past s)

include recounts

theorem calm : s.Calm capacity := by
  induction recounts with
  | start => exact create_calm capacity handshakeTimeout
  | @next past s event _ new ih => exact (Moment.passes (t := ⟨s, event⟩) ih new).1

theorem proper : ∀ t ∈ past, t.Proper := by
  induction recounts with
  | start => exact fun _ member => absurd member List.not_mem_nil
  | @next past s event before new ih =>
    intro t member
    rcases List.mem_append.mp member with earlier | last
    · exact ih t earlier
    · cases List.mem_singleton.mp last
      exact Moment.proper before.calm new

theorem texts_due (c : ConnectionId) :
    texts (past.flatMap (·.read c) ++ s.sent c) = past.flatMap (·.effect.due c) := by
  induction recounts with
  | start => rfl
  | @next past s event before new ih =>
    -- what is read at this moment leaves what is unread, and the two together are what they were
    have passes := (Moment.passes (t := ⟨s, event⟩) before.calm new).2.1 c
    simp only [List.flatMap_append, List.flatMap_singleton, texts_append, List.append_assoc] at ih ⊢
    rw [← ih, List.append_assoc]
    exact congrArg _ passes

/-- The texts that a client has read, and those that it has not, are the ones that came to be due to it, in that
order: answers until it is in a game, and then what the members of the game send. -/
theorem transcript :
    (∀ c, texts (past.flatMap (·.read c) ++ s.sent c) = past.flatMap (·.effect.due c)) ∧ ∀ t ∈ past, t.Proper :=
  ⟨recounts.texts_due, recounts.proper⟩

end Server.Recounts

namespace Server

/-- The moments of a server to which events happen. -/
def recount (s : Server) : List Event → List Moment
  | [] => []
  | event :: events => ⟨s, event⟩ :: (s.perform event).recount events

theorem Numbered.perform {s : Server} {count : Nat} (numbered : s.Numbered count) (event : Event) :
    (s.perform event).Numbered (count + if event.isConnect then 1 else 0) := by
  cases event with
  | connect => exact numbered.connect
  | handshake c => exact numbered.of_same (handshake_sameNumbers s c)
  | send c frame => exact numbered.of_same (clientSend_sameNumbers s c [frame])
  | drop c => exact numbered.of_same (clientDrop_sameNumbers s c)
  | read c => exact numbered.of_same (clientRead_sameNumbers s c)
  | advance milliseconds => exact numbered.of_same (advance_sameNumbers s milliseconds)

theorem Recounts.extend {capacity handshakeTimeout count : Nat} {past : List Moment} {s : Server}
    (recounts : Recounts capacity handshakeTimeout past s) (numbered : s.Numbered count) (events : List Event)
    (few : count + events.countP (·.isConnect) ≤ 2 ^ 64) :
    Recounts capacity handshakeTimeout (past ++ s.recount events) (events.foldl perform s) := by
  induction events generalizing past s count with
  | nil => simpa [recount] using recounts
  | cons event events ih =>
    rw [List.countP_cons, Nat.add_comm (events.countP _), ← Nat.add_assoc] at few
    have new : event = .connect → s.session? ⟨s.nextConnection⟩ = none := by
      rintro rfl
      exact numbered.new (Nat.lt_of_succ_le (Nat.le_trans (Nat.le_add_right _ _) few))
    simpa [recount] using ih (recounts.next event new) (numbered.perform event) few

/-- All events can happen to a server as long as no more than `2 ^ 64` clients come. -/
theorem recounts_of_few (capacity handshakeTimeout : Nat) (events : List Event)
    (few : events.countP (·.isConnect) ≤ 2 ^ 64) :
    Recounts capacity handshakeTimeout ((create capacity handshakeTimeout).recount events)
      (events.foldl perform (create capacity handshakeTimeout)) :=
  Recounts.start.extend (create_numbered capacity handshakeTimeout) events (by rwa [Nat.zero_add])

/-- Two clients want to be in one team, in which there is one place. The one who gets it says something, and the other
one has sent an octet that is no text. -/
def visit : List Event :=
  [.connect, .connect, .handshake ⟨1⟩, .handshake ⟨2⟩, .send ⟨2⟩ (.binary [0xFF]),
    .send ⟨1⟩ (.text (JoinRequest.write ⟨none, "ring", "Ada", .first⟩)),
    .send ⟨2⟩ (.text (JoinRequest.write ⟨none, "ring", "Bob", .first⟩)), .send ⟨1⟩ (.binary [0x68, 0x69]), .read ⟨1⟩]

theorem Recounts.transcript_visit :
    (∀ t ∈ (create 1 1000).recount visit, t.Proper) ∧
      texts (((create 1 1000).recount visit).flatMap (·.read ⟨1⟩) ++ (visit.foldl perform (create 1 1000)).sent ⟨1⟩) =
        [(Notice.joined none 0 [⟨0, "Ada", .first⟩]).write, [0x68, 0x69]] ∧
      texts (((create 1 1000).recount visit).flatMap (·.read ⟨2⟩) ++ (visit.foldl perform (create 1 1000)).sent ⟨2⟩) =
        [Notice.unidentified.write, (Notice.full none).write] := by
  have recounts : Recounts 1 1000 _ _ := recounts_of_few 1 1000 visit (by decide)
  obtain ⟨read, proper⟩ := recounts.transcript
  have first : ((create 1 1000).recount visit).flatMap (·.effect.due ⟨1⟩) =
      [(Notice.joined none 0 [⟨0, "Ada", .first⟩]).write, [0x68, 0x69]] := by
    decide +kernel
  have second : ((create 1 1000).recount visit).flatMap (·.effect.due ⟨2⟩) =
      [Notice.unidentified.write, (Notice.full none).write] := by
    decide +kernel
  exact ⟨proper, (read ⟨1⟩).trans first, (read ⟨2⟩).trans second⟩

end Server

end Scrimmage
