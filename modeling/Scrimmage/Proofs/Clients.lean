import Scrimmage.Proofs.Reading
import Scrimmage.Proofs.Sessions

namespace Scrimmage

open Text

namespace ClientFrame

/-- The octets of a frame that carries a message: those of a text have to be UTF-8. -/
def payload? : ClientFrame → Option (List UInt8)
  | .text payload => if (Utf8.decode payload).isOk then some payload else none
  | .binary payload => some payload
  | _ => none

/-- Whether a frame is the last one of its client: it closes the line or breaks its rules. -/
def isLast : ClientFrame → Bool
  | .text payload => !(Utf8.decode payload).isOk
  | .close _ | .invalid => true
  | _ => false

end ClientFrame

namespace Registry

/-- Whether the team that a request leads to has room. -/
def hasRoom (r : Registry) (q : JoinRequest) : Bool :=
  let g := r.gameOf q.game
  (g.side (g.resolve q.team)).size < r.capacity

/-- What a client is answered whose message comes from outside every game. -/
def reply (r : Registry) (payload : List UInt8) : List UInt8 :=
  match JoinRequest.decode payload with
  | .error _ => Notice.unidentified.write
  | .ok q =>
    if r.hasRoom q then
      let g := r.gameOf q.game
      let players := g.snapshot ++ [{ id := g.freeSlot, nick := q.nick, team := g.resolve q.team }]
      (Notice.joined q.id g.freeSlot (Game.bySlot players)).write
    else (Notice.full q.id).write

/-- The game that a message from outside every game leads into. -/
def entered? (r : Registry) (payload : List UInt8) : Option String :=
  match JoinRequest.decode payload with
  | .error _ => none
  | .ok q => if r.hasRoom q then some q.game else none

end Registry

theorem Registry.Serves.capacity_gameOf {r : Registry} {capacity : Nat} (serves : r.Serves capacity)
    (name : String) : (r.gameOf name).capacity = r.capacity := by
  cases found : r.games.find? name with
  | none => rw [gameOf_absent found, Game.create]
  | some h => rw [gameOf_found found, (serves.coherent.lives name h found).capacity_eq]

namespace Registry

theorem reply_of_unidentified {r : Registry} {payload : List UInt8} {fault : DecodeError}
    (decoded : JoinRequest.decode payload = .error fault) :
    r.reply payload = Notice.unidentified.write ∧ r.entered? payload = none := by
  simp only [reply, entered?, decoded, and_self]

theorem LetsIn.reply_eq {r : Registry} {capacity : Nat} (serves : r.Serves capacity)
    {payload : List UInt8} {q : JoinRequest} (decoded : JoinRequest.decode payload = .ok q) {c : ConnectionId}
    {session : SessionRef} {ref : GameRef} {placement : Placement} {after : Registry}
    (letsIn : r.LetsIn (q.application c) session ref placement after) :
    r.reply payload = (Game.welcome q.id placement).octets ∧ r.entered? payload = some q.game := by
  have admits := letsIn.admits
  have team : placement.team = (r.gameOf q.game).resolve q.team := admits.team
  have size := admits.room
  rw [serves.capacity_gameOf, team] at size
  have room : r.hasRoom q = true := decide_eq_true size
  have slot := admits.slot
  have players := admits.players
  rw [team, slot] at players
  simp only [reply, entered?, decoded, room, if_true, and_true]
  rw [Game.welcome, slot, players]
  rfl

theorem TurnsAway.reply_eq {r : Registry} {payload : List UInt8} {q : JoinRequest}
    (decoded : JoinRequest.decode payload = .ok q) {c : ConnectionId} {after : Registry}
    (turnsAway : r.TurnsAway (q.application c) after) :
    r.reply payload = (Notice.full q.id).write ∧ r.entered? payload = none := by
  have room : r.hasRoom q = false := decide_eq_false (Nat.not_lt.mpr turnsAway.full)
  simp only [reply, entered?, decoded, room, Bool.false_eq_true, if_false, and_self]

end Registry

/-- A session that becomes active goes on with its queue and its game. -/
theorem Session.goesOn_upgrade :
    Session.GoesOn fun session => { session.become .active with client := .upgraded } where
  ref session := session.become_ref _
  isLive session := by
    cases phase : session.phase <;> simp [become, isLive, phase, Phase.canBecome]
  pending session := by
    cases phase : session.phase <;> simp [become, phase, Phase.canBecome]

/-- What something comes to for the clients: which texts become due to each of them, which game each of them is
in afterwards, and whether it is listened to. -/
structure Effect where
  /-- The texts that become due to a client. -/
  due : ConnectionId → List (List UInt8)
  /-- The game that a client is in afterwards. -/
  game? : ConnectionId → Option String
  /-- Whether a client is listened to afterwards. -/
  listens : ConnectionId → Bool

namespace Server

def game? (s : Server) (c : ConnectionId) : Option String := s.registry.recorded? c

/-- Whether a client is listened to: it has a line to an active session. -/
def listens (s : Server) (c : ConnectionId) : Bool :=
  (s.session? c).any fun session => session.client = .upgraded && session.phase = .active

/-- What clients see nothing of. -/
def unchanged (s : Server) : Effect := { due := fun _ => [], game? := s.game?, listens := s.listens }

/-- The effect of a client's end: no one else sees anything of it. -/
def without (s : Server) (c : ConnectionId) : Effect where
  due _ := []
  game? d := if d = c then none else s.game? d
  listens d := d ≠ c && s.listens d

/-- The effect of a message of `c`. From outside every game it is answered, and may lead `c` into one; from a game
it goes to every member as it is. -/
def message (s : Server) (c : ConnectionId) (payload : List UInt8) : Effect where
  due d :=
    match s.game? c with
    | none => if d = c then [s.registry.reply payload] else []
    | some name => if (Utf8.decode payload).isOk ∧ s.game? d = some name then [payload] else []
  game? d :=
    match s.game? d with
    | none => if d = c then s.registry.entered? payload else none
    | some name => some name
  listens := s.listens

def frame (s : Server) (c : ConnectionId) (f : ClientFrame) : Effect :=
  match f.checked.payload? with
  | some payload => s.message c payload
  | none => if f.checked.isLast then s.without c else s.unchanged

theorem texts_sent_modifySession (s : Server) (c d : ConnectionId) {f : Session → Session}
    (kept : ∀ session, texts (f session).sent = texts session.sent) :
    texts ((s.modifySession c f).sent d) = texts (s.sent d) := by
  rw [sent, session?_modifySession, sent]
  cases found : s.session? d with
  | none => rw [Option.map_none, ite_self]
  | some session =>
    split
    · exact kept session
    · rfl

theorem listens_modifySession (s : Server) (c d : ConnectionId) {f : Session → Session}
    (client : ∀ session, (f session).client = session.client)
    (phase : ∀ session, (f session).phase = session.phase) :
    (s.modifySession c f).listens d = s.listens d := by
  rw [listens, session?_modifySession, listens]
  cases found : s.session? d with
  | none => rw [Option.map_none, ite_self]
  | some session =>
    split
    · simp only [Option.map_some, Option.any_some, client, phase]
    · rfl

theorem listens_eq_false {s : Server} {c : ConnectionId}
    (ended : ∀ session, s.session? c = some session → session.phase ≠ .active) : s.listens c = false := by
  rw [listens]
  cases found : s.session? c with
  | none => rfl
  | some session => simp [ended session found]

theorem active_of_listens {s : Server} {c : ConnectionId} (listens : s.listens c = true) :
    ∃ session, s.session? c = some session ∧ session.phase = .active := by
  rw [Server.listens, Option.any_eq_true] at listens
  obtain ⟨session, found, both⟩ := listens
  rw [Bool.and_eq_true, decide_eq_true_eq, decide_eq_true_eq] at both
  exact ⟨session, found, both.2⟩

/-- A message that leads into no game leaves everyone where they are. -/
theorem message_stays {s : Server} {c : ConnectionId} {payload : List UInt8}
    (stays : s.registry.entered? payload = none) (d : ConnectionId) : (s.message c payload).game? d = s.game? d := by
  simp only [message, stays, ite_self]
  cases s.game? d <;> rfl

theorem message_inside {s : Server} {c : ConnectionId} {payload : List UInt8} {name : String}
    (inside : s.game? c = some name) (d : ConnectionId) : (s.message c payload).game? d = s.game? d := by
  simp only [message]
  cases outside : s.game? d with
  | some other => rfl
  | none =>
    have other : d ≠ c := by
      rintro rfl
      cases inside.symm.trans outside
    rw [if_neg other]

section

variable {s : Server} {capacity : Nat} (orderly : s.Orderly capacity) (d : ConnectionId)

include orderly

theorem game?_settle : s.settle.game? d = s.game? d := by
  obtain ⟨x, registry, _⟩ := orderly.settle_tended.registry
  rw [game?, registry]
  rfl

theorem listens_settle : s.settle.listens d = s.listens d := by
  rw [listens, orderly.settle_tended.session, listens]
  cases found : s.session? d with
  | none => rfl
  | some session =>
    simp only [Option.map_some, Option.any_some]
    split <;> rfl

end

/-- A server in which nothing is left to do: it is orderly, and nothing waits in the queue of any live session. -/
structure Calm (s : Server) (capacity : Nat) : Prop extends s.Orderly capacity where
  quiet : s.Quiet

theorem create_calm (capacity handshakeTimeout : Nat) : (create capacity handshakeTimeout).Calm capacity := by
  have none : ∀ c, (create capacity handshakeTimeout).session? c = none := fun _ => rfl
  have unknown : ∀ c, (create capacity handshakeTimeout).registry.members.find? c = Option.none := fun _ => rfl
  exact {
    serves := Registry.create_serves capacity
    going := rfl
    attends := fun c _ found => by cases (none c).symm.trans found
    apart := fun c _ _ _ found => by cases (none c).symm.trans found
    registered := fun c _ known => by cases (unknown c).symm.trans known
    quiet := fun c _ found => by cases (none c).symm.trans found }

theorem Orderly.settle_calm {s : Server} {capacity : Nat} (orderly : s.Orderly capacity) :
    s.settle.Calm capacity where
  toOrderly := orderly.settle
  quiet := orderly.settle_quiet

/-- The server is at rest again, and every client has been sent the texts that `effect` makes due to it and no
others. Who is in which game and who is listened to is as the effect says, too. -/
structure Passes (s : Server) (capacity : Nat) (effect : Effect) (after : Server) : Prop where
  calm : after.Calm capacity
  sent : ∀ d, texts (after.sent d) = texts (s.sent d) ++ effect.due d
  game? : ∀ d, after.game? d = effect.game? d
  listens : ∀ d, after.listens d = effect.listens d

/-- The server is at rest again, and no client has seen anything of it. -/
abbrev Rests (s : Server) (capacity : Nat) : Server → Prop := s.Passes capacity s.unchanged

theorem Passes.then {s between after : Server} {capacity : Nat} (first : s.Rests capacity between)
    (second : between.Rests capacity after) : s.Rests capacity after where
  calm := second.calm
  sent d := (second.sent d).trans (congrArg (· ++ []) ((first.sent d).trans (List.append_nil _)))
  game? d := (second.game? d).trans (first.game? d)
  listens d := (second.listens d).trans (first.listens d)

theorem Passes.congr {s after : Server} {capacity : Nat} {effect same : Effect}
    (passes : s.Passes capacity effect after) (due : ∀ d, effect.due d = same.due d)
    (game? : ∀ d, effect.game? d = same.game? d) (listens : ∀ d, effect.listens d = same.listens d) :
    s.Passes capacity same after where
  calm := passes.calm
  sent d := (passes.sent d).trans (congrArg _ (due d))
  game? d := (passes.game? d).trans (game? d)
  listens d := (passes.listens d).trans (listens d)

/-- The end of a client that is in no game and is not listened to is seen by no one. -/
theorem Passes.without_eq {s after : Server} {capacity : Nat} {c : ConnectionId}
    (passes : s.Passes capacity (s.without c) after) (outside : s.game? c = none) (silent : s.listens c = false) :
    s.Rests capacity after := by
  refine passes.congr (fun _ => rfl) (fun d => ?_) fun d => ?_
  · by_cases here : d = c
    · simp [without, unchanged, here, outside]
    · simp [without, unchanged, here]
  · by_cases here : d = c
    · simp [without, unchanged, here, silent]
    · simp [without, unchanged, here]

theorem Passes.settle {s after : Server} {capacity : Nat} {effect : Effect}
    (passes : s.Passes capacity effect after) : s.Passes capacity effect after.settle := by
  rw [passes.calm.toOrderly.settle_of_quiet passes.calm.quiet]
  exact passes

namespace Calm

variable {s : Server} {capacity : Nat} (calm : s.Calm capacity)

include calm

theorem same : s.Rests capacity s := ⟨calm, fun _ => (List.append_nil _).symm, fun _ => rfl, fun _ => rfl⟩

theorem texts_sent (d : ConnectionId) : texts (s.sent d) = s.heard d := (heard_of_quiet calm.quiet d).symm

theorem queues {after : Server} {commands : ConnectionId → List Command}
    (queues : s.Queues capacity commands after) (sent : ∀ d, texts (after.sent d) = texts (s.sent d))
    (listens : ∀ d, after.listens d = s.listens d) :
    s.Passes capacity { due := fun d => payloads (commands d), game? := after.game?, listens := s.listens }
      after.settle := by
  have orderly := queues.keeps calm.toOrderly
  refine ⟨orderly.settle_calm, fun d => ?_, game?_settle orderly, fun d => ?_⟩
  · rw [orderly.settle_calm.texts_sent, orderly.heard_settle, queues.heard calm.toOrderly d (sent d),
      calm.texts_sent]
  · exact (listens_settle orderly d).trans (listens d)

theorem modifySession (c : ConnectionId) {f : Session → Session} (goesOn : Session.GoesOn f)
    (game : ∀ session, (f session).game = session.game) : (s.modifySession c f).Calm capacity := by
  have queues := calm.toOrderly.touch c goesOn game
  exact ⟨queues.keeps calm.toOrderly, queues.quiet calm.toOrderly calm.quiet fun _ => rfl⟩

theorem touch (c : ConnectionId) {f : Session → Session} (goesOn : Session.GoesOn f)
    (game : ∀ session, (f session).game = session.game)
    (sent : ∀ session, texts (f session).sent = texts session.sent)  :
    s.Passes capacity { s.unchanged with listens := (s.modifySession c f).listens } (s.modifySession c f) where
  calm := calm.modifySession c goesOn game
  sent d := (texts_sent_modifySession s c d sent).trans (List.append_nil _).symm
  game? _ := rfl
  listens _ := rfl

theorem rest (c : ConnectionId) {f : Session → Session} (goesOn : Session.GoesOn f)
    (game : ∀ session, (f session).game = session.game)
    (sent : ∀ session, texts (f session).sent = texts session.sent)
    (client : ∀ session, (f session).client = session.client)
    (phase : ∀ session, (f session).phase = session.phase) :
    s.Rests capacity (s.modifySession c f) :=
  (calm.touch c goesOn game sent).congr (fun _ => rfl) (fun _ => rfl) fun d =>
    listens_modifySession s c d client phase

/-- The game that the registry has recorded a live session in is the one that the session passes frames to. -/
theorem game?_eq {c : ConnectionId} {session : Session} (found : s.session? c = some session)
    (live : session.isLive = true) : s.game? c = session.game.map (·.name) := by
  rw [game?, Registry.recorded?, (calm.attends c session found live).member, Option.bind_some]

theorem game?_eq_none {c : ConnectionId} (gone : ∀ session, s.session? c = some session → session.isLive = false) :
    s.game? c = none := by
  rw [game?, Registry.recorded?, Option.bind_eq_none_iff]
  intro m known
  obtain ⟨session, found, live⟩ := calm.registered c m known
  cases live.symm.trans (gone session found)

section

variable {c : ConnectionId} {session : Session} (found : s.session? c = some session)

include found

theorem finish (live : session.isLive = true) (ending : Ending) (told : ending ≠ .registryUnavailable)
    (peerFrame : Option CloseFrame) : s.Passes capacity (s.without c) (s.finish c ending none peerFrame) := by
  have ends := calm.toOrderly.finish found live told peerFrame
  have after : (s.finish c ending none peerFrame).Calm capacity :=
    ⟨ends.keeps calm.toOrderly found live, ends.quiet calm.toOrderly found live calm.quiet⟩
  refine ⟨after, fun d => ?_, fun d => ?_, fun d => ?_⟩
  · rw [after.texts_sent, ends.heard calm.toOrderly found live calm.quiet, calm.texts_sent]
    exact (List.append_nil _).symm
  · rw [game?, Registry.recorded?, ends.members, Table.find?_erase]
    simp only [without]
    split <;> rfl
  · by_cases here : d = c
    · obtain ⟨ended, own, dead, _⟩ := ends.own
      have silent : (s.finish c ending none peerFrame).listens c = false := by
        refine listens_eq_false fun later found' active => ?_
        cases own.symm.trans found'
        cases dead.symm.trans (Session.isLive_of_active active)
      rw [here, silent]
      simp [without]
    · rw [listens, ends.others d here]
      simp [without, here, listens]

theorem finish_pending (pending : session.phase = .handshakePending) :
    s.Rests capacity (s.finish c .handshakeFailed none none) := by
  have live := Session.isLive_iff.mpr (Or.inl pending)
  refine (calm.finish found live .handshakeFailed (by decide) none).without_eq ?_ ?_
  · rw [calm.game?_eq found live, ((calm.attends c session found live).pending pending).1, Option.map_none]
  · exact listens_eq_false fun later found' active => by
      cases found.symm.trans found'
      cases pending.symm.trans active

variable (active : session.phase = .active)

include active

/-- The answer to a message from outside every game is all that it makes due. -/
theorem message_outside (outside : session.game = none) {payload : List UInt8} {p : Package}
    (same : s.registry.reply payload = p.octets) (d : ConnectionId) :
    payloads (own c [.write p] d) = (s.message c payload).due d := by
  simp only [message, calm.game?_eq found (Session.isLive_of_active active), outside, Option.map_none, own, same]
  split <;> rfl

theorem receive_outside (outside : session.game = none) (payload : List UInt8) :
    s.Passes capacity (s.message c payload) (s.receivePayload c session payload).settle := by
  have member := (calm.attends c session found (Session.isLive_of_active active)).member
  rw [outside] at member
  obtain ⟨receives, serves⟩ := Lobby.receive_receives calm.serves member rfl payload
  simp only [receivePayload, outside]
  generalize (Lobby.receive s.registry c payload).1 = outcome at receives ⊢
  generalize (Lobby.receive s.registry c payload).2 = after at receives serves ⊢
  cases receives with
  | unidentified decoded =>
    obtain ⟨reply, stays⟩ := Registry.reply_of_unidentified decoded
    have queues := calm.toOrderly.reply found active serves rfl (fun _ => rfl) rfl
      (p := Notice.unidentified.encode) (Notice.encode_isText _)
    refine (calm.queues queues (fun _ => rfl) fun _ => rfl).congr ?_ (fun d => ?_) fun _ => rfl
    · exact calm.message_outside found active outside reply
    · exact (message_stays stays d).symm
  | @full q _ decoded turnsAway =>
    obtain ⟨reply, stays⟩ := turnsAway.reply_eq decoded
    have queues := calm.toOrderly.reply found active serves turnsAway.members turnsAway.refs turnsAway.outboxes
      (p := (Notice.full q.id).encode) (Notice.encode_isText _)
    refine (calm.queues queues (fun _ => rfl) fun _ => rfl).congr ?_ (fun d => ?_) fun _ => rfl
    · exact calm.message_outside found active outside reply
    · refine Eq.trans ?_ (message_stays stays d).symm
      exact congrArg (fun members => (Table.find? members d).bind (·.game)) turnsAway.members
  | @joined q ref _ _ decoded letsIn =>
    -- the game has queued the answer, and the session turns to the game
    obtain ⟨reply, enters⟩ := letsIn.reply_eq calm.serves decoded
    have queues := calm.toOrderly.turn found active serves letsIn
    refine (calm.queues queues (fun _ => texts_sent_modifySession _ _ _ fun _ => rfl) fun d =>
      listens_modifySession _ _ _ (fun _ => rfl) fun _ => rfl).congr ?_ (fun d => ?_) fun _ => rfl
    · exact calm.message_outside found active outside reply
    · have members : after.members.find? d = _ := congrArg (Table.find? · d) letsIn.members
      rw [Table.find?_modify] at members
      have recorded : after.recorded? d = (s.message c payload).game? d := by
        simp only [message, enters, game?]
        rw [Registry.recorded?, members, Registry.recorded?]
        by_cases here : d = c
        · subst here
          rw [if_pos (show d = (q.application d).connection from rfl), if_pos rfl, member]
          rfl
        · rw [if_neg (show ¬d = (q.application c).connection from here), if_neg here]
          cases (s.registry.members.find? d).bind (·.game) <;> rfl
      exact recorded

omit calm found active in
/-- A message of a member that is no text changes nothing at all. -/
theorem receive_invalid {ref : GameRef} (joined : session.game = some ref) {payload : List UInt8}
    (invalid : (Utf8.decode payload).isOk = false) : s.receivePayload c session payload = s := by
  cases decoded : Utf8.decode payload with
  | ok => simp [decoded, Except.isOk, Except.toBool] at invalid
  | error fault => simp only [receivePayload, joined, Package.ofUtf8, decoded]

/-- A message of a member goes to the game and comes to nothing else. -/
theorem receivePayload_eq {ref : GameRef} (joined : session.game = some ref) {payload : List UInt8}
    (valid : (Utf8.decode payload).isOk = true) :
    s.receivePayload c session payload =
      { s with registry := (s.registry.askGame ref (.broadcast ⟨payload⟩)).2 } := by
  cases decoded : Utf8.decode payload with
  | error => simp [decoded, Except.isOk, Except.toBool] at valid
  | ok cs =>
    have at' := (calm.attends c session found (Session.isLive_of_active active)).game ref joined
    obtain ⟨relayed, _⟩ := calm.serves.coherent.relays at' ⟨payload⟩
    simp only [receivePayload, joined, Package.ofUtf8, decoded, relayed]

theorem receive_inside {ref : GameRef} (joined : session.game = some ref) (payload : List UInt8) :
    s.Passes capacity (s.message c payload) (s.receivePayload c session payload).settle := by
  have inside := calm.game?_eq found (Session.isLive_of_active active)
  rw [joined, Option.map_some] at inside
  have due : ∀ d, (s.message c payload).due d =
      if (Utf8.decode payload).isOk ∧ s.game? d = some ref.name then [payload] else [] := by
    intro d
    simp only [message, inside]
  cases valid : (Utf8.decode payload).isOk with
  | false =>
    rw [receive_invalid joined valid]
    refine calm.same.settle.congr (fun d => ?_) (fun d => (message_inside inside d).symm) fun _ => rfl
    rw [due, valid]
    simp [unchanged]
  | true =>
    have at' := (calm.attends c session found (Session.isLive_of_active active)).game ref joined
    obtain ⟨_, relays⟩ := calm.serves.coherent.relays at' ⟨payload⟩
    rw [calm.receivePayload_eq found active joined valid]
    have queues := calm.toOrderly.relay found (Session.isLive_of_active active) joined (p := ⟨payload⟩)
      (isText_iff.mpr valid)
    refine (calm.queues queues (fun _ => rfl) fun _ => rfl).congr (fun d => ?_) (fun d => ?_) fun _ => rfl
    · rw [due, valid]
      simp only [shares, true_and, game?]
      split <;> rfl
    · refine Eq.trans ?_ (message_inside inside d).symm
      exact congrArg (fun members => (Table.find? members d).bind (·.game)) relays.members

theorem receive_message (payload : List UInt8) :
    s.Passes capacity (s.message c payload) (s.receivePayload c session payload).settle := by
  cases joined : session.game with
  | none => exact calm.receive_outside found active joined payload
  | some ref => exact calm.receive_inside found active joined payload

theorem receive (f : ClientFrame) : s.Passes capacity (s.frame c f) (s.receive c f).settle := by
  have live := Session.isLive_of_active active
  simp only [Server.receive, found, active, if_true]
  unfold frame
  cases f.checked with
  | text payload =>
    cases decoded : Utf8.decode payload with
    | error fault =>
      simp only [ClientFrame.payload?, ClientFrame.isLast, decoded, Except.isOk, Except.toBool, Bool.not_false,
        Bool.false_eq_true, if_true, if_false]
      exact (calm.finish found live .transportError (by decide) none).settle
    | ok cs =>
      simp only [ClientFrame.payload?, decoded, Except.isOk, Except.toBool, if_true]
      exact calm.receive_message found active payload
  | binary payload => exact calm.receive_message found active payload
  | ping payload =>
    exact (calm.rest c (f := (·.deliver [.pong payload])) ⟨fun _ => rfl, fun _ => rfl, fun _ pending => pending⟩
      (fun _ => rfl) (fun session => (texts_append ..).trans (List.append_nil _)) (fun _ => rfl) fun _ => rfl).settle
  | pong payload => exact calm.same.settle
  | close peerFrame => exact (calm.finish found live .peerClosed (by decide) peerFrame).settle
  | invalid => exact (calm.finish found live .transportError (by decide) none).settle

end

theorem elapse (milliseconds : Nat) (c : ConnectionId) : s.Rests capacity (s.elapse milliseconds c) := by
  cases found : s.session? c with
  | none =>
    simp only [Server.elapse, found]
    exact calm.same
  | some session =>
    by_cases pending : session.phase = .handshakePending
    · simp only [Server.elapse, found, if_pos pending]
      have waits := calm.rest c (f := fun session' => { session' with waited := session.waited + milliseconds })
        ⟨fun _ => rfl, fun _ => rfl, fun _ pending => pending⟩ (fun _ => rfl) (fun _ => rfl) (fun _ => rfl)
        fun _ => rfl
      have found' := (session?_modifySession s c c fun session' =>
        { session' with waited := session.waited + milliseconds }).trans (if_pos rfl)
      rw [found, Option.map_some] at found'
      split
      · exact waits.then (waits.calm.finish_pending found' pending)
      · exact waits
    · simp only [Server.elapse, found, if_neg pending]
      exact calm.same

theorem pass (duration : Nat) : s.Rests capacity (s.modifyExchange (·.pass duration)) where
  calm := {
    serves := calm.serves.queues _
    going := calm.going
    attends := fun c session found live =>
      have attends := calm.attends c session found live
      ⟨attends.queue, attends.member, attends.game, attends.pending⟩
    apart := calm.apart
    registered := calm.registered
    quiet := calm.quiet }
  sent _ := (List.append_nil _).symm
  game? _ := rfl
  listens _ := rfl

theorem advance (milliseconds : Nat) : s.Rests capacity (s.advance milliseconds) := by
  -- induction from the end, because each client's time passes for a server in which the others' has passed
  have all : ∀ cs : List ConnectionId, s.Rests capacity
      (cs.foldl (Server.elapse milliseconds) (s.modifyExchange (·.pass (milliseconds * Clock.millisecond)))) := by
    intro cs
    induction cs using List.reverseRecOn with
    | nil => exact calm.pass _
    | append_singleton cs c ih =>
      rw [List.foldl_append, List.foldl_cons, List.foldl_nil]
      exact ih.then (ih.calm.elapse milliseconds c)
  exact (all _).settle

theorem connect (new : s.session? ⟨s.nextConnection⟩ = none) : s.Rests capacity s.connect.2 := by
  obtain ⟨ref, after, begins, same⟩ := calm.toOrderly.connect new
  have absent : ∀ session, s.session? ⟨s.nextConnection⟩ ≠ some session := fun session found => by
    cases new.symm.trans found
  have begun : s.Rests capacity after := by
    have later : after.Calm capacity := ⟨begins.keeps calm.toOrderly, begins.quiet calm.toOrderly calm.quiet⟩
    refine ⟨later, fun d => ?_, fun d => ?_, fun d => ?_⟩
    · rw [later.texts_sent, begins.heard calm.toOrderly new, calm.texts_sent]
      exact (List.append_nil _).symm
    · rw [game?, Registry.recorded?, begins.member]
      split
      · rename_i here
        exact here ▸ (calm.game?_eq_none fun session found => absurd found (absent session)).symm
      · rfl
    · rw [listens, begins.session]
      split
      · rename_i here
        exact here ▸ (listens_eq_false fun session found => absurd found (absent session)).symm
      · rfl
  rw [same]
  exact begun.settle.then (begun.settle.calm.elapse 0 ⟨s.nextConnection⟩).settle

theorem failHandshake (c : ConnectionId) : s.Rests capacity (s.failHandshake c) := by
  cases found : s.session? c with
  | none =>
    simp only [Server.failHandshake, found]
    exact calm.same
  | some session =>
    simp only [Server.failHandshake, found]
    split
    · rename_i pending
      exact (calm.finish_pending found pending).settle
    · exact calm.same

theorem leaveLine (c : ConnectionId) :
    s.Passes capacity { s.unchanged with listens := fun d => d ≠ c && s.listens d }
      (s.modifySession c fun session => { session with client := .gone }) := by
  refine (calm.touch c (f := fun session => { session with client := .gone })
    ⟨fun _ => rfl, fun _ => rfl, fun _ pending => pending⟩ (fun _ => rfl) fun _ => rfl).congr
    (fun _ => rfl) (fun _ => rfl) fun d => ?_
  simp only [listens, session?_modifySession]
  by_cases here : d = c
  · cases s.session? d <;> simp [here]
  · simp [here]

theorem handshake (c : ConnectionId) :
    s.Passes capacity
      (if (s.handshake c).1 = .done then { s.unchanged with listens := fun d => d = c || s.listens d }
        else s.unchanged)
      (s.handshake c).2 := by
  cases found : s.session? c with
  | none =>
    simp only [Server.handshake, found]
    exact calm.same
  | some session =>
    simp only [Server.handshake, found]
    split
    · exact calm.same
    · rename_i dialing
      rw [not_not] at dialing
      split
      · rename_i waits
        rw [Bool.and_eq_true, decide_eq_true_eq] at waits
        refine (calm.touch c Session.goesOn_upgrade (fun session => ?_) fun session => ?_).settle.congr
          (fun _ => rfl) (fun _ => rfl) fun d => ?_
        · exact session.become_game _
        · exact congrArg texts (session.become_sent _)
        · simp only [if_true, listens, session?_modifySession]
          by_cases here : d = c
          · simp [here, found, Session.become, waits.1, Phase.canBecome]
          · simp [here]
      · have failed := calm.failHandshake c
        have left := failed.calm.leaveLine c
        have silent : s.listens c = false := by simp [listens, found, dialing]
        refine ⟨left.calm, fun d => ?_, fun d => (left.game? d).trans (failed.game? d), fun d => ?_⟩
        · exact (left.sent d).trans (congrArg (· ++ []) ((failed.sent d).trans (List.append_nil _)))
        · refine (left.listens d).trans ?_
          simp only [failed.listens d]
          by_cases here : d = c
          · simp [here, silent, unchanged]
          · simp [here, unchanged]

theorem lineCut (c : ConnectionId) : s.Passes capacity (s.without c) (s.lineCut c) := by
  have silent : (∀ session, s.session? c = some session → session.isLive = false) →
      s.Passes capacity (s.without c) s := by
    intro ended
    refine calm.same.congr (fun _ => rfl) (fun d => ?_) fun d => ?_
    · by_cases here : d = c
      · simp [unchanged, without, here, calm.game?_eq_none ended]
      · simp [unchanged, without, here]
    · have deaf : s.listens c = false := listens_eq_false fun session found active => by
        cases (ended session found).symm.trans (Session.isLive_of_active active)
      by_cases here : d = c
      · simp [unchanged, without, here, deaf]
      · simp [unchanged, without, here]
  cases found : s.session? c with
  | none =>
    simp only [Server.lineCut, found]
    exact silent fun session found' => by cases found.symm.trans found'
  | some session =>
    simp only [Server.lineCut, found]
    split
    · rename_i pending
      exact calm.finish found (Session.isLive_iff.mpr (Or.inl pending)) .handshakeFailed (by decide) none
    · rename_i active
      exact calm.finish found (Session.isLive_of_active active) .peerClosed (by decide) none
    · rename_i ended begun
      refine silent fun session' found' => ?_
      cases found.symm.trans found'
      rw [← Bool.not_eq_true, Session.isLive_iff, not_or]
      exact ⟨ended, begun⟩

theorem clientDrop (c : ConnectionId) :
    s.Passes capacity (if s.hasLine c then s.without c else s.unchanged) (s.clientDrop c).2 := by
  rw [Server.clientDrop]
  split
  · have left := calm.leaveLine c
    obtain ⟨later, sent, games, listens⟩ := (left.calm.lineCut c).settle
    refine ⟨later, fun d => ?_, games, fun d => (listens d).trans ?_⟩
    · exact (sent d).trans (congrArg (· ++ []) ((left.sent d).trans (List.append_nil _)))
    · simp only [without, left.listens d]
      cases decide (d ≠ c) <;> rfl
  · exact calm.same

end Calm

end Server

end Scrimmage
