import Scrimmage.Lobby
import Scrimmage.Proofs.Census
import Scrimmage.Proofs.Delivery

namespace Scrimmage

namespace Registry

/-- The game that a name leads to: the one that is there, or else a new one. -/
def gameOf (r : Registry) (name : String) : Game :=
  ((r.games.find? name).map (·.game)).getD (.create name r.capacity)

theorem gameOf_found {r : Registry} {name : String} {h : HostedGame} (found : r.games.find? name = some h) :
    r.gameOf name = h.game := by
  rw [gameOf, found, Option.map_some, Option.getD_some]

theorem gameOf_absent {r : Registry} {name : String} (absent : r.games.find? name = none) :
    r.gameOf name = .create name r.capacity := by
  rw [gameOf, absent, Option.map_none, Option.getD_none]

/-- None of the measurements is that a game has passed a frame on. -/
def Unheard (new : Journal) : Prop := ∀ m ∈ new, ∀ recipients, m ≠ .broadcast recipients

theorem gameRef?_put {r : Registry} {name : String} {h : HostedGame} (hosts : r.Hosts name h) (game : Game)
    (x : Exchange) (other : String) : (r.put name (h.handled game) x).gameRef? other = r.gameRef? other := by
  rw [gameRef?, find?_put hosts]
  split
  · rename_i same
    rw [same, gameRef?_of_hosts hosts]
    rfl
  · rfl

theorem gameRef?_seated {r : Registry} {a : Application} {m : Member} {h : HostedGame} {placement : Placement}
    (hosts : r.Hosts a.game h) (other : String) :
    (r.seated a m h placement).gameRef? other = r.gameRef? other :=
  gameRef?_put hosts (h.game.entered (a.entrant m.session) placement)
    ((r.exchange.offer m.session (.write (Game.welcome a.id placement))).measure (·.messageHandled)) other

theorem exchange_seated (r : Registry) (a : Application) (m : Member) (h : HostedGame) (placement : Placement) :
    (r.seated a m h placement).exchange =
      (r.exchange.offer m.session (.write (Game.welcome a.id placement))).measure (·.messageHandled) := rfl

theorem gameRef?_createGame (r : Registry) (name other : String) :
    (r.createGame name).2.gameRef? other =
      if other = name then some ⟨name, r.nextGeneration⟩ else r.gameRef? other := by
  rw [gameRef?, gameRef?]
  simp only [createGame, measure, Table.find?_insert]
  split
  · rename_i same
    subst same
    rfl
  · rfl

/-- An applicant that is let in, as the sessions see it. It is recorded in the game of the name, its queue gets
the outcome in front of anything else from the game, and nothing else changes. -/
structure LetsIn (r : Registry) (a : Application) (session : SessionRef) (ref : GameRef) (placement : Placement)
    (after : Registry) : Prop where
  admits : (r.gameOf a.game).Admits (a.entrant session) placement
  members : after.members = r.members.modify a.connection fun m => { m with game := some a.game }
  name_eq : ref.name = a.game
  found : after.gameRef? a.game = some ref
  kept : ∀ other ref', r.gameRef? other = some ref' → after.gameRef? other = some ref'
  outbox : ∀ s, after.exchange.outbox? s = (r.exchange.outbox? s).map
    (Exchange.extended · (if session.queue = s.queue then [.write (Game.welcome a.id placement)] else []))
  journal : ∃ new, after.exchange.telemetry.journal = new ++ r.exchange.telemetry.journal ∧ Unheard new

/-- An applicant that is turned away for lack of room. -/
structure TurnsAway (r : Registry) (a : Application) (after : Registry) : Prop where
  full : r.capacity ≤ ((r.gameOf a.game).side ((r.gameOf a.game).resolve a.team)).size
  members : after.members = r.members
  refs : ∀ other, after.gameRef? other = r.gameRef? other
  outboxes : after.exchange.outboxes = r.exchange.outboxes
  journal : ∃ new, after.exchange.telemetry.journal = new ++ r.exchange.telemetry.journal ∧ Unheard new

namespace Serves

variable {r : Registry} {capacity : Nat} (serves : r.Serves capacity)

include serves

/-- A stranger to a game is turned away only if there is no room for it. -/
theorem gameFull {a : Application} {m : Member} (known : r.members.find? a.connection = some m)
    (outside : m.game = none) {failure : Failure}
    (refused : (r.gameOf a.game).place (a.entrant m.session) = .error failure) :
    failure = .gameFull a.game ∧
      r.capacity ≤ ((r.gameOf a.game).side ((r.gameOf a.game).resolve a.team)).size := by
  cases found : r.games.find? a.game with
  | some h =>
    have lives := serves.coherent.lives a.game h found
    rw [gameOf_found found] at refused ⊢
    rcases Game.place_eq_error refused with ⟨_, team, member⟩ | ⟨full, _, size⟩
    · -- a member of the game would be recorded in it
      have inside := Game.mem_members_iff.mpr ⟨team, (lives.sound.cached a.connection team).mp member⟩
      exact absurd inside (serves.coherent.not_mem_of_outside known outside found)
    · exact ⟨full.trans (congrArg _ lives.name_eq), lives.capacity_eq ▸ size⟩
  | none =>
    rw [gameOf_absent found] at refused ⊢
    rcases Game.place_eq_error refused with ⟨_, team, member⟩ | ⟨full, _, size⟩
    · cases member
    · exact ⟨full, size⟩

/-- A registered connection that is in no game is let in or turned away for lack of room. -/
theorem join_cases {a : Application} {m : Member} (known : r.members.find? a.connection = some m)
    (outside : m.game = none) :
    (∃ ref placement, (r.join a).1 = .ok ⟨ref, placement⟩ ∧ r.LetsIn a m.session ref placement (r.join a).2) ∨
      (r.join a).1 = .error (.gameFull a.game) ∧ r.TurnsAway a (r.join a).2 := by
  have joins := r.join_joins a
  generalize (r.join a).1 = outcome at joins ⊢
  generalize (r.join a).2 = after at joins ⊢
  cases joins with
  | draining closed => cases serves.accepting.symm.trans closed
  | unknown _ unknown => cases known.symm.trans unknown
  | elsewhere _ known' inside =>
    cases known.symm.trans known'
    cases outside.symm.trans inside
  | stopped _ _ _ found stopped => cases (serves.coherent.all_running _ _ found).symm.trans stopped
  | refused _ known' _ hosts refused =>
    cases known.symm.trans known'
    have same := gameOf_found hosts.found
    rw [← same] at refused
    obtain ⟨rfl, full⟩ := serves.gameFull known outside refused
    exact Or.inr ⟨rfl, full, rfl, gameRef?_put hosts _ _, rfl, [], rfl, nofun⟩
  | @admitted m' h placement _ known' _ hosts admits =>
    cases known.symm.trans known'
    refine Or.inl ⟨_, placement, rfl, ?_⟩
    exact {
      admits := gameOf_found hosts.found ▸ admits
      members := rfl
      name_eq := rfl
      found := (gameRef?_seated hosts _).trans (gameRef?_of_hosts hosts)
      kept := fun other ref' before => (gameRef?_seated hosts other).trans before
      outbox := fun s => Exchange.outbox?_offer _ _ _ _
      journal := ⟨[], by simp [exchange_seated, Exchange.measure, Telemetry.messageHandled], nofun⟩ }
  | refusedNew _ known' _ absent refused =>
    cases known.symm.trans known'
    rw [← gameOf_absent absent] at refused
    obtain ⟨rfl, full⟩ := serves.gameFull known outside refused
    refine Or.inr ⟨rfl, full, rfl, fun _ => rfl, rfl, ?_⟩
    exact ⟨[.gamesActive (Telemetry.lowered (r.exchange.telemetry.games + 1)),
      .gamesActive (r.exchange.telemetry.games + 1)], rfl, by simp [Unheard]⟩
  | @admittedNew m' placement _ known' _ absent admits =>
    cases known.symm.trans known'
    have hosts := hosts_createGame r a.game
    refine Or.inl ⟨_, placement, rfl, ?_⟩
    exact {
      admits := gameOf_absent absent ▸ admits
      members := rfl
      name_eq := rfl
      found := (gameRef?_seated hosts _).trans (gameRef?_of_hosts hosts)
      kept := by
        intro other ref' before
        have there : other ≠ a.game := by
          rintro rfl
          rw [gameRef?_eq_none absent] at before
          cases before
        rw [gameRef?_seated hosts, gameRef?_createGame, if_neg there, before]
      outbox := fun s => Exchange.outbox?_offer (r.createGame a.game).2.exchange _ _ _
      journal := by
        refine ⟨[.gamesActive (r.exchange.telemetry.games + 1)], ?_, by simp [Unheard]⟩
        simp [exchange_seated, Exchange.measure, Telemetry.messageHandled, createGame, Registry.measure,
          Telemetry.gameCreated, Telemetry.record] }

end Serves

/-- What a registry and the rest see when a connection goes. -/
structure LetsGo (r : Registry) (c : ConnectionId) (after : Registry) : Prop where
  members : after.members = r.members.erase c
  outboxes : after.exchange.outboxes = r.exchange.outboxes
  kept : ∀ d m name ref, d ≠ c → r.members.find? d = some m → m.game = some name → r.gameRef? name = some ref →
    after.gameRef? name = some ref

theorem Coherent.unregister_letsGo {r : Registry} (coherent : r.Coherent) (c : ConnectionId) :
    r.LetsGo c (r.unregister c).2 := by
  cases known : r.members.find? c with
  | none =>
    rw [unregister_unknown known]
    exact ⟨(Table.erase_of_none known).symm, rfl, fun _ _ _ _ _ _ _ found => found⟩
  | some m =>
    cases inside : m.game with
    | none =>
      rw [unregister_unjoined known inside]
      exact ⟨rfl, rfl, fun _ _ _ _ _ _ _ found => found⟩
    | some left =>
      obtain ⟨h, hosts, member⟩ := coherent.hosts_of_game known inside
      obtain ⟨team, key⟩ := Game.mem_members_iff.mp member
      have cached := ((coherent.lives left h hosts.found).sound.cached c team).mpr key
      have later := coherent.unregister c
      obtain ⟨members, _, _, _, _, _, outboxes⟩ := r.departed_kept c left h
      rw [unregister_joined known inside hosts] at later ⊢
      refine ⟨members, outboxes, ?_⟩
      intro d m' name ref other known' inside' found
      have stays : (r.departed c left h).recorded? d = some name := by
        rw [recorded?, members, Table.find?_erase, if_neg other, known', Option.bind_some, inside']
      obtain ⟨k, found', _⟩ := (later.recorded_iff d name).mp stays
      rw [gameRef?, found', ← found, gameRef?]
      rw [find?_departed hosts cached] at found'
      split at found'
      · rename_i same
        split at found'
        · cases found'
        · cases found'
          rw [same, hosts.found]
          rfl
      · rw [found']

/-- What a registry and the rest see when a frame is passed on to the members of a game: every queue of a member
gets it once, and no one's membership changes. -/
structure Relays (r : Registry) (name : String) (p : Package) (after : Registry) : Prop where
  members : after.members = r.members
  unjoined : after.unjoined = r.unjoined
  mailbox : after.mailbox = r.mailbox
  refs : ∀ other, after.gameRef? other = r.gameRef? other
  games : ∀ other, (after.games.find? other).map (·.game) = (r.games.find? other).map (·.game)
  outbox : ∀ d m s, r.members.find? d = some m → s = m.session →
    (∀ d' m', r.members.find? d' = some m' → m'.session.queue = s.queue → d' = d) →
    after.exchange.outbox? s = (r.exchange.outbox? s).map
      (Exchange.extended · (if m.game = some name then [.write p] else []))
  journal : (∀ d m, r.members.find? d = some m → r.exchange.accepts m.session = true) →
    after.exchange.telemetry.journal = .broadcast (r.population name) :: r.exchange.telemetry.journal

theorem Coherent.relays {r : Registry} (coherent : r.Coherent) {ref : GameRef}
    (found : r.gameRef? ref.name = some ref) (p : Package) :
    (r.askGame ref (.broadcast p)).1 = .ok .relayed ∧
      r.Relays ref.name p (r.askGame ref (.broadcast p)).2 := by
  obtain ⟨h, entry, same⟩ := gameRef?_eq_some found
  have hosts := coherent.hosts entry
  have sound := (coherent.lives ref.name h entry).sound
  have asked : r.askGame ref (.broadcast p) = (.ok .relayed, r.put ref.name (h.handled h.game)
      ((h.game.broadcast r.exchange p).measure (·.messageHandled))) := by
    rw [Registry.askGame, same]
    exact sendTo_hosts hosts _
  rw [asked]
  refine ⟨rfl, ?_⟩
  have owner : ∀ d team player, (h.game.side team).find? d = some player →
      ∃ m, r.members.find? d = some m ∧ player.session = m.session := by
    intro d team player seated
    have recorded := (coherent.recorded_iff d ref.name).mpr ⟨h, entry, Game.mem_members_of_find? seated⟩
    obtain ⟨m, known, _⟩ := recorded?_eq_some_iff.mp recorded
    exact ⟨m, known, coherent.session_eq d m ref.name h team player known entry seated⟩
  exact {
    members := rfl
    unjoined := rfl
    mailbox := rfl
    refs := gameRef?_put hosts _ _
    games := by
      intro other
      rw [find?_put hosts]
      split
      · rename_i here
        rw [here, entry]
        rfl
      · rfl
    outbox := by
      intro d m s known own apart
      have outbox := Game.outbox?_broadcast h.game r.exchange p s
      have owned : ∀ d' team player, (h.game.side team).find? d' = some player →
          (player.session.queue = s.queue ↔ d' = d) := by
        intro d' team player seated
        obtain ⟨m', known', session⟩ := owner d' team player seated
        constructor
        · intro queue
          exact apart d' m' known' (session ▸ queue)
        · rintro rfl
          cases known.symm.trans known'
          rw [session, own]
      rw [Game.copies_players sound owned p] at outbox
      have inside : d ∈ h.game.members ↔ m.game = some ref.name := by
        have recorded := coherent.recorded_iff d ref.name
        rw [recorded?, known, Option.bind_some, entry] at recorded
        simpa using recorded.symm
      simp only [inside] at outbox
      exact outbox
    journal := by
      intro accepts
      have taken : (h.game.players.map (·.session)).countP r.exchange.accepts = h.game.size := by
        rw [List.countP_eq_length.mpr, List.length_map, Game.players_length]
        intro session member
        obtain ⟨player, there, rfl⟩ := List.mem_map.mp member
        obtain ⟨d, team, seated⟩ := Game.mem_players_iff.mp there
        obtain ⟨m, known, same⟩ := owner d team player seated
        rw [same]
        exact accepts d m known
      have recorded : (h.game.broadcast r.exchange p).telemetry.journal =
          .broadcast (r.population ref.name) :: r.exchange.telemetry.journal := by
        rw [coherent.population_eq_size entry, ← taken]
        simp only [Game.broadcast, Exchange.measure, Telemetry.record, Game.telemetry_relay]
      exact recorded }

section

variable {r : Registry} {capacity : Nat}

theorem Serves.measure (serves : r.Serves capacity) (f : Telemetry → Telemetry) :
    (r.measure f).Serves capacity :=
  serves.queues (r.exchange.measure f)

theorem journal_record (count : Lobby.Count) :
    (Lobby.record r.closed count).exchange.telemetry.journal =
      [.joinLatency 0, .join count.label] ++ r.exchange.telemetry.journal := rfl

theorem unheard_record (count : Lobby.Count) {new : Journal} (unheard : Unheard new) :
    Unheard ([.joinLatency 0, .join count.label] ++ new) := by
  intro m member recipients
  rcases List.mem_append.mp member with counted | before
  · simp only [List.mem_cons, List.not_mem_nil, or_false] at counted
    rcases counted with rfl | rfl <;> simp
  · exact unheard m before recipients

theorem LetsIn.record {a : Application} {session : SessionRef} {ref : GameRef} {placement : Placement}
    {after : Registry} (letsIn : r.opened.LetsIn a session ref placement after) :
    r.LetsIn a session ref placement (Lobby.record after.closed .joined) where
  admits := letsIn.admits
  members := letsIn.members
  name_eq := letsIn.name_eq
  found := letsIn.found
  kept := letsIn.kept
  outbox := letsIn.outbox
  journal := by
    obtain ⟨new, journal, unheard⟩ := letsIn.journal
    refine ⟨_, ?_, unheard_record .joined unheard⟩
    rw [journal_record, journal, List.append_assoc]
    rfl

theorem TurnsAway.record {a : Application} {after : Registry} (turnsAway : r.opened.TurnsAway a after) :
    r.TurnsAway a (Lobby.record after.closed .full) where
  full := turnsAway.full
  members := turnsAway.members
  refs := turnsAway.refs
  outboxes := turnsAway.outboxes
  journal := by
    obtain ⟨new, journal, unheard⟩ := turnsAway.journal
    refine ⟨_, ?_, unheard_record .full unheard⟩
    rw [journal_record, journal, List.append_assoc]
    rfl

end

end Registry

def JoinRequest.application (q : JoinRequest) (c : ConnectionId) : Application :=
  { connection := c, game := q.game, nick := q.nick, team := q.team, id := q.id }

namespace Lobby

/-- What becomes of a frame of a connection that is in no game: it is no request, or the connection is let in,
or it is turned away. No other member, and no game or queue of another member, is touched by it. -/
inductive Receives (r : Registry) (c : ConnectionId) (session : SessionRef) (payload : List UInt8) :
    Outcome → Registry → Prop
  | unidentified {fault} : JoinRequest.decode payload = .error fault →
      Receives r c session payload (.reply Notice.unidentified.encode) (r.measure (·.record .unidentified))
  | joined {q ref placement after} : JoinRequest.decode payload = .ok q →
      r.LetsIn (q.application c) session ref placement after →
      Receives r c session payload (.joined ⟨ref, placement⟩) after
  | full {q after} : JoinRequest.decode payload = .ok q → r.TurnsAway (q.application c) after →
      Receives r c session payload (.reply (Notice.full q.id).encode) after

theorem receive_receives {r : Registry} {capacity : Nat} (serves : r.Serves capacity) {c : ConnectionId}
    {m : Member} (known : r.members.find? c = some m) (outside : m.game = none) (payload : List UInt8) :
    Receives r c m.session payload (receive r c payload).1 (receive r c payload).2 ∧
      (receive r c payload).2.Serves capacity := by
  cases decoded : JoinRequest.decode payload with
  | error fault =>
    simp only [receive, decoded]
    exact ⟨.unidentified decoded, serves.measure _⟩
  | ok q =>
    have joins := serves.opened.answer (q := .join (q.application c)) nofun
    have sent := serves.send_eq (f := (·.join (q.application c))) joins
    have recorded : ∀ count, (record ((r.opened.join (q.application c)).2.closed) count).Serves capacity :=
      fun count => joins.closed.measure _
    simp only [receive, decoded, receiveRequest]
    rw [JoinRequest.application] at sent recorded
    rw [sent]
    rcases serves.opened.join_cases (a := q.application c) known outside with
      ⟨ref, placement, accepted, letsIn⟩ | ⟨refused, turnsAway⟩
    · rw [JoinRequest.application] at accepted
      simp only [accepted, Except.bind, id]
      exact ⟨.joined decoded letsIn.record, recorded .joined⟩
    · rw [JoinRequest.application] at refused
      simp only [refused, Except.bind, Failure.isRejection]
      exact ⟨.full decoded turnsAway.record, recorded .full⟩

end Lobby

end Scrimmage
