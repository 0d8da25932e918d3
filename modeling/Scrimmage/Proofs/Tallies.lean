import Scrimmage.Proofs.Correlation
import Scrimmage.Proofs.Journals

namespace Scrimmage

/-- A message from outside every game, with the registry as it comes in. -/
structure Routing where
  registry : Registry
  connection : ConnectionId
  payload : List UInt8

namespace Routing

def request? (t : Routing) : Option JoinRequest := (JoinRequest.decode t.payload).toOption

def outcome (t : Routing) : Lobby.Outcome := (Lobby.receive t.registry t.connection t.payload).1

/-- Whether the message is no join. -/
def isForeign (t : Routing) : Bool := t.request?.isNone

/-- Whether the registry puts the client into a game. -/
def isAdmitted (t : Routing) : Bool :=
  t.request?.any fun q => (t.registry.outcome (q.application t.connection)).isOk

/-- Whether the client is told that there is no room. -/
def isTurnedAway (t : Routing) : Bool := t.request?.any fun q => t.outcome = .reply (Notice.full q.id).encode

/-- Whether the session is to end. -/
def isTerminated (t : Routing) : Bool := t.outcome matches .terminate _

/-- What an attempt to join is counted for. -/
def count? (t : Routing) : Option Lobby.Count :=
  t.request?.map fun q =>
    match t.registry.outcome (q.application t.connection) with
    | .ok _ => .joined
    | .error failure => if failure.isRejection then .full else .rejected

/-- What is put into the journal, the latest first. -/
def tallies (t : Routing) : Journal :=
  match t.count? with
  | none => [.unidentified]
  | some count => [.joinLatency 0, .join count.label]

variable {t : Routing}

theorem isForeign_eq : t.isForeign = t.count?.isNone := Option.isNone_map.symm

theorem isAdmitted_eq : t.isAdmitted = decide (t.count? = some .joined) := by
  rw [isAdmitted, count?]
  cases t.request? with
  | none => rfl
  | some q =>
    simp only [Option.any_some, Option.map_some, Option.some.injEq]
    cases t.registry.outcome (q.application t.connection) with
    | ok admission => rfl
    | error failure =>
      simp only
      split <;> rfl

end Routing

/-- A frame that is sent to a game, with the registry as it comes in. -/
structure Relaying where
  registry : Registry
  game : GameRef
  package : Package

namespace Relaying

/-- Whether the game handles it. -/
def isHandled (t : Relaying) : Bool := (t.registry.askGame t.game (.broadcast t.package)).1.isOk

/-- How many writes the queues of sessions have taken for it. -/
def taken (t : Relaying) : Nat :=
  (t.registry.askGame t.game (.broadcast t.package)).2.exchange.load - t.registry.exchange.load

/-- What is put into the journal. -/
def tallies (t : Relaying) : Journal := if t.isHandled then [.broadcast t.taken] else []

end Relaying

namespace Server

/-- The message from outside every game that a payload is. -/
def routingsOf (s : Server) (c : ConnectionId) (session : Session) (payload : List UInt8) : List Routing :=
  match session.game with
  | none => [⟨s.registry, c, payload⟩]
  | some _ => []

/-- The frame for a game that a payload is. -/
def relayingsOf (s : Server) (session : Session) (payload : List UInt8) : List Relaying :=
  match session.game, Package.ofUtf8 payload with
  | some game, .ok p => [⟨s.registry, game, p⟩]
  | _, _ => []

/-- The messages from outside every game that come in. -/
def routings (s : Server) (i : Incident) : List Routing :=
  (s.delivered? i).toList.flatMap fun (c, session, payload) => s.routingsOf c session payload

/-- The frames that are sent to games. -/
def relayings (s : Server) : Incident → List Relaying
  | .message game (.broadcast p) => [⟨s.registry, game, p⟩]
  | i => (s.delivered? i).toList.flatMap fun (_, session, payload) => s.relayingsOf session payload

/-- Whether a client has a session that has ended in an error. -/
def hasFailed (s : Server) (c : ConnectionId) : Bool := (s.session? c).any (·.ending.any Ending.isError)

/-- The sessions that have ended in an error since. -/
def failed (s after : Server) : List ConnectionId :=
  after.sessions.keys.filter fun c => after.hasFailed c && !s.hasFailed c

/-- What a client that comes gets before anything else happens to it. -/
def opened (s : Server) : Incident → Server
  | .event .connect => s.openSession.2.2
  | _ => s

/-- The sessions that end in an error in an incident. -/
def failures (s : Server) (i : Incident) : List ConnectionId := (s.opened i).failed (s.undergo i)

end Server

namespace Measurement

/-- Whether a measurement is about a message. -/
def isTally : Measurement → Bool
  | .join _ | .joinLatency _ | .unidentified | .broadcast _ => true
  | _ => false

def isSessionError : Measurement → Bool
  | .sessionError _ => true
  | _ => false

end Measurement

namespace Journal

theorem filter_tallies (j : Journal) : j.tallies.filter (·.isTally) = j.filter (·.isTally) := by
  rw [tallies, List.filter_filter]
  refine congrArg (List.filter · j) (funext fun m => ?_)
  cases m <;> rfl

theorem countP_tallies (j : Journal) : j.tallies.countP (·.isSessionError) = j.countP (·.isSessionError) := by
  rw [tallies, List.countP_filter]
  refine congrArg (List.countP · j) (funext fun m => ?_)
  cases m <;> rfl

end Journal

namespace Server

/-- What is put into the journal about messages in an incident, the latest first. -/
def work (s : Server) (i : Incident) : Journal :=
  (s.routings i).flatMap Routing.tallies ++ (s.relayings i).flatMap Relaying.tallies

/-- A session that is not closed has not ended. -/
def Tidy (s : Server) : Prop :=
  ∀ c session, s.session? c = some session → session.phase ≠ .closed → session.ending = none

variable {s between after : Server} {c : ConnectionId} {session : Session} {work more : Journal}

theorem failed_nodup (s after : Server) : (s.failed after).Nodup := after.sessions.keys_nodup.filter _

theorem mem_failed : c ∈ s.failed after ↔ after.hasFailed c = true ∧ s.hasFailed c = false := by
  rw [failed, List.mem_filter, Bool.and_eq_true, Bool.not_eq_true']
  refine and_iff_right_of_imp fun now => ?_
  obtain ⟨session, found, _⟩ := (Option.any_eq_true _ _).mp now.1
  exact Table.mem_keys_of_find? found

/-- What comes of a server, as far as it is counted. Every message from outside the games is either no join or
an attempt to join, and every attempt is counted for the one of three things that it comes to; frames are
counted by the games that pass them on, and sessions that end in an error when they end. -/
structure Reckons (s : Server) (work : Journal) (after : Server) : Prop where
  work : after.journal.filter (·.isTally) = work ++ s.journal.filter (·.isTally)
  errors : after.journal.countP (·.isSessionError) = (s.failed after).length + s.journal.countP (·.isSessionError)
  lasts : ∀ c, s.hasFailed c = true → after.hasFailed c = true
  tidy : after.Tidy

namespace Reckons

theorem trans (first : s.Reckons work between) (second : between.Reckons more after) :
    s.Reckons (more ++ work) after where
  work := by rw [second.work, first.work, List.append_assoc]
  errors := by
    -- those who fail now have not failed before, and those who have failed before stay so
    have apart : (between.failed after ++ s.failed between).Nodup :=
      List.nodup_append.mpr ⟨failed_nodup .., failed_nodup .., fun c later d earlier same => by
        subst same
        exact absurd (mem_failed.mp earlier).1 (Bool.eq_false_iff.mp (mem_failed.mp later).2)⟩
    have all : (s.failed after).Perm (between.failed after ++ s.failed between) :=
      (List.perm_ext_iff_of_nodup (failed_nodup ..) apart).mpr fun c => by
        have before := first.lasts c
        have then' := second.lasts c
        rw [List.mem_append, mem_failed, mem_failed, mem_failed]
        grind
    rw [second.errors, first.errors, all.length_eq, List.length_append, Nat.add_assoc]
  lasts c before := second.lasts c (first.lasts c before)
  tidy := second.tidy

theorem failed_eq_nil (same : ∀ c, after.hasFailed c = s.hasFailed c) : s.failed after = [] :=
  List.eq_nil_iff_forall_not_mem.mpr fun c inside => by
    obtain ⟨now, before⟩ := mem_failed.mp inside
    rw [same, before] at now
    cases now

/-- What is counted can be told from what is put into the journal besides gauges. -/
theorem of_notes (notes : s.exchange.Notes work after.exchange) (messages : ∀ m ∈ work, m.isTally = true)
    (same : ∀ c, after.hasFailed c = s.hasFailed c) (tidy : after.Tidy) : s.Reckons work after where
  work := by
    rw [← Journal.filter_tallies, journal, notes, List.filter_append, Journal.filter_tallies, journal,
      List.filter_eq_self.mpr messages]
  errors := by
    have none : work.countP (·.isSessionError) = 0 := List.countP_eq_zero.mpr fun m inside error => by
      have message := messages m inside
      cases m <;> cases message <;> cases error
    rw [← Journal.countP_tallies, journal, notes, List.countP_append, none, Journal.countP_tallies, journal,
      failed_eq_nil same]
    rfl
  lasts c before := (same c).trans before
  tidy := tidy

theorem of_silent (silent : s.exchange.Silent after.exchange) (same : ∀ c, after.hasFailed c = s.hasFailed c)
    (tidy : after.Tidy) : s.Reckons [] after :=
  of_notes silent nofun same tidy

theorem rfl (tidy : s.Tidy) : s.Reckons [] s := of_silent .rfl (fun _ => Eq.refl _) tidy

end Reckons

section

variable (tidy : s.Tidy)

include tidy

theorem registry_reckons {r : Registry} (notes : s.exchange.Notes work r.exchange)
    (messages : ∀ m ∈ work, m.isTally = true) : s.Reckons work { s with registry := r } :=
  .of_notes notes messages (fun _ => rfl) tidy

theorem silent_reckons {r : Registry} (silent : s.exchange.Silent r.exchange) :
    s.Reckons [] { s with registry := r } :=
  registry_reckons tidy silent nofun

theorem alter_reckons {x : Exchange} (silent : s.exchange.Silent x) (c : ConnectionId) {f : Session → Session}
    (unfailing : ∀ session, s.session? c = some session →
      (f session).ending.any Ending.isError = session.ending.any Ending.isError)
    (unended : ∀ session, s.session? c = some session → (f session).phase ≠ .closed → (f session).ending = none) :
    s.Reckons [] ((s.modifyExchange fun _ => x).modifySession c f) := by
  refine .of_silent silent (fun d => ?_) fun d session found isOpen => ?_
  · rw [hasFailed, hasFailed, session?_modifySession]
    split
    · rename_i here
      subst here
      rw [Option.any_map]
      cases there : s.session? d with
      | none => exact (congrArg (Option.any _) there).trans rfl
      | some session => exact (congrArg (Option.any _) there).trans (unfailing session there)
    · rfl
  · rw [session?_modifySession] at found
    split at found
    · rename_i here
      obtain ⟨before, there, rfl⟩ := Option.map_eq_some_iff.mp found
      exact unended before (here ▸ there) isOpen
    · exact tidy d session found isOpen

theorem modifySession_reckons (c : ConnectionId) {f : Session → Session}
    (ending : ∀ session, s.session? c = some session → (f session).ending = session.ending)
    (phase : ∀ session, s.session? c = some session → (f session).phase ≠ .closed → session.phase ≠ .closed) :
    s.Reckons [] (s.modifySession c f) :=
  alter_reckons tidy .rfl c (fun session found => congrArg (Option.any _) (ending session found))
    fun session found isOpen =>
      (ending session found).trans (tidy c session found (phase session found isOpen))

theorem hasFailed_of_live (found : s.session? c = some session) (live : session.isLive = true) :
    s.hasFailed c = false := by
  have unended : session.ending = none := tidy c session found fun closed => by simp [Session.isLive, closed] at live
  rw [hasFailed, found, Option.any_some, unended]
  rfl

section

variable (found : s.session? c = some session) {ending : Ending} (known : ending ≠ .registryUnavailable)
  (farewell : Option Package) (peerFrame : Option CloseFrame)

include found known

omit tidy in
theorem finish_notes :
    s.exchange.Notes (if ending.isError then [.sessionError ending.name] else [])
      (s.finish c ending farewell peerFrame).exchange := by
  obtain ⟨x, _, telemetry, same⟩ := finish_eq found known farewell peerFrame
  have asked : x.Silent (({ s.registry with exchange := x } : Registry).ask (.unregister c)).2.exchange :=
    Registry.ask_silent { s.registry with exchange := x } _
  have told : s.exchange.Notes (if ending.isError then [.sessionError ending.name] else []) x := by
    rw [Exchange.Notes, telemetry]
    split
    · exact List.filter_cons_of_pos rfl
    · rfl
  rw [same, Registry.send_unregister]
  exact told.trans asked

variable (live : session.isLive = true)

include live

theorem finish_tidy : (s.finish c ending farewell peerFrame).Tidy := by
  intro d later there isOpen
  have leaves := finish_leaves found known farewell peerFrame
  have course := session.course_ended live ending (goodbye (session.phase = Phase.active) ending farewell peerFrame)
  by_cases here : d = c
  · subst here
    rw [← Option.some.inj (leaves.ended.symm.trans there)] at isOpen
    exact absurd (congrArg Course.phase course) isOpen
  · exact tidy d later ((leaves.others d here).symm.trans there) isOpen

omit tidy in
theorem hasFailed_finish (d : ConnectionId) :
    (s.finish c ending farewell peerFrame).hasFailed d = if d = c then ending.isError else s.hasFailed d := by
  have leaves := finish_leaves found known farewell peerFrame
  have course := session.course_ended live ending (goodbye (session.phase = Phase.active) ending farewell peerFrame)
  split
  · rename_i here
    rw [here, hasFailed, leaves.ended, Option.any_some]
    exact congrArg (Option.any _) (congrArg Course.ending course)
  · rename_i elsewhere
    exact congrArg (Option.any _) (leaves.others d elsewhere)

theorem finish_reckons : s.Reckons [] (s.finish c ending farewell peerFrame) := by
  have notes := finish_notes found known farewell peerFrame
  have before := hasFailed_of_live tidy found live
  have now := hasFailed_finish found known farewell peerFrame live
  have own : (s.failed (s.finish c ending farewell peerFrame)).Perm (if ending.isError then [c] else []) := by
    refine (List.perm_ext_iff_of_nodup (failed_nodup ..) (by split <;> simp)).mpr fun d => ?_
    rw [mem_failed, now]
    by_cases here : d = c
    · rw [if_pos here, here, before]
      cases ending.isError <;> simp
    · rw [if_neg here]
      cases ending.isError <;> simp [here]
  refine ⟨?_, ?_, fun d failed => ?_, finish_tidy tidy found known farewell peerFrame live⟩
  · rw [← Journal.filter_tallies, journal, notes, List.filter_append, Journal.filter_tallies, journal]
    split <;> rfl
  · rw [← Journal.countP_tallies, journal, notes, List.countP_append, Journal.countP_tallies, journal, own.length_eq]
    split <;> rfl
  · rw [now, if_neg, failed]
    rintro rfl
    cases before.symm.trans failed

end

end

theorem InternalStep.reckons (step : InternalStep s after) (tidy : s.Tidy) : s.Reckons [] after := by
  cases step with
  | pass duration => exact silent_reckons tidy (Eq.refl _)
  | cancel refs =>
    have told : ∀ (refs : List SessionRef) (x : Exchange), x.Silent (refs.foldl Exchange.cancel x) := by
      intro refs
      induction refs with
      | nil => exact fun x => .rfl
      | cons ref refs ih => exact fun x => Exchange.Silent.trans (Eq.refl _) (ih (x.cancel ref))
    exact .of_silent (told refs s.exchange) (fun _ => rfl) tidy
  | touch c undisturbed =>
    exact modifySession_reckons tidy c (fun session _ => congrArg Course.ending (undisturbed.course session))
      fun session _ isOpen closed => isOpen ((congrArg Course.phase (undisturbed.course session)).trans closed)
  | @upgrade c session found pending =>
    refine modifySession_reckons tidy c (fun other found' => ?_) fun other found' _ => ?_
    · rw [Session.become]
      split_ifs <;> rfl
    · cases found.symm.trans found'
      rw [pending]
      decide
  | @pump c session found active =>
    have live := Session.isLive_of_active active
    have taken : s.Reckons [] (s.modifyExchange (·.modifyOutbox session.ref
        (·.drop (Scrimmage.pump (s.exchange.waiting session.ref)).taken))) := silent_reckons tidy (Eq.refl _)
    have drained : s.Reckons [] (s.drained c session) :=
      taken.trans (modifySession_reckons taken.tidy c
        (f := (·.deliver ((Scrimmage.pump (s.exchange.waiting session.ref)).texts.map .text)))
        (fun _ _ => rfl) fun _ _ isOpen => isOpen)
    rw [pumpSession_eq]
    split
    · exact drained
    · rename_i ending ends
      exact drained.trans (finish_reckons drained.tidy (session?_drained found) (ending_pump ends) none none live)
  | finish found live breaksOff => exact finish_reckons tidy found breaksOff.known _ _ live

theorem InternalSteps.reckons (steps : InternalSteps s after) (tidy : s.Tidy) : s.Reckons [] after := by
  induction steps with
  | refl => exact .rfl tidy
  | tail _ step ih => exact ih.trans (step.reckons ih.tidy)

theorem lobby_notes (t : Routing) :
    t.registry.exchange.Notes t.tallies (Lobby.receive t.registry t.connection t.payload).2.exchange := by
  have recorded : ∀ (r : Registry) (count : Lobby.Count), t.registry.Silent r →
      t.registry.exchange.Notes [.joinLatency 0, .join count.label] (Lobby.record r count).exchange := by
    intro r count silent
    have counted : r.exchange.Notes [.joinLatency 0, .join count.label] (Lobby.record r count).exchange := rfl
    exact Exchange.Notes.trans silent counted
  rw [Routing.tallies, Routing.count?, Routing.request?]
  cases decoded : JoinRequest.decode t.payload with
  | error fault =>
    simp only [Lobby.receive, decoded]
    exact t.registry.exchange.notes_record rfl
  | ok q =>
    rw [Lobby.receive_eq _ _ decoded]
    have asked := Registry.ask_silent t.registry (.join (q.application t.connection))
    simp only [Except.toOption, Option.map_some]
    cases t.registry.outcome (q.application t.connection) with
    | ok admission => exact recorded _ _ asked
    | error failure =>
      dsimp only
      split
      · exact recorded _ _ asked
      · exact recorded _ _ asked

theorem tallies_isTally (t : Routing) : ∀ m ∈ t.tallies, m.isTally = true := by
  intro m inside
  rw [Routing.tallies] at inside
  split at inside
  · rw [List.mem_singleton.mp inside]
    rfl
  · simp only [List.mem_cons, List.not_mem_nil, or_false] at inside
    rcases inside with rfl | rfl <;> rfl

/-- A message from outside every game is counted for what comes of it. -/
theorem routing_reckons (tidy : s.Tidy) (found : s.session? c = some session) (active : session.phase = .active)
    (outside : session.game = none) (payload : List UInt8) :
    s.Reckons (Routing.tallies ⟨s.registry, c, payload⟩) (s.receivePayload c session payload) := by
  have received : s.Reckons (Routing.tallies ⟨s.registry, c, payload⟩)
      { s with registry := (Lobby.receive s.registry c payload).2 } :=
    registry_reckons tidy (lobby_notes ⟨s.registry, c, payload⟩) (tallies_isTally _)
  simp only [receivePayload, outside]
  split
  · exact received.trans (silent_reckons received.tidy (Exchange.silent_offer ..))
  · rename_i admission _
    exact received.trans (modifySession_reckons received.tidy c (f := ({ · with game := some admission.game }))
      (fun _ _ => rfl) fun _ _ isOpen => isOpen)
  · exact received.trans (finish_reckons received.tidy found (by decide) _ none (Session.isLive_of_active active))

theorem message_reckons (tidy : s.Tidy) (game : GameRef) (p : Package) :
    s.Reckons (Relaying.tallies ⟨s.registry, game, p⟩)
      { s with registry := (s.registry.askGame game (.broadcast p)).2 } := by
  rw [Relaying.tallies, Relaying.isHandled]
  rcases s.registry.broadcast_notes game p with ⟨handled, notes⟩ | nothing
  · rw [handled]
    refine registry_reckons tidy notes fun m inside => ?_
    rw [List.mem_singleton.mp inside]
    rfl
  · rw [nothing]
    exact .rfl tidy

theorem payload_reckons (tidy : s.Tidy) (found : s.session? c = some session) (active : session.phase = .active)
    (payload : List UInt8) :
    s.Reckons ((s.routingsOf c session payload).flatMap Routing.tallies ++
        (s.relayingsOf session payload).flatMap Relaying.tallies)
      (s.receivePayload c session payload) := by
  rw [routingsOf, relayingsOf]
  cases game : session.game with
  | none =>
    simp only [List.flatMap_cons, List.flatMap_nil, List.append_nil]
    exact routing_reckons tidy found active game payload
  | some ref =>
    simp only [receivePayload, game]
    cases Package.ofUtf8 payload with
    | error fault => exact .rfl tidy
    | ok p =>
      simp only [List.flatMap_cons, List.flatMap_nil, List.append_nil, List.nil_append]
      have sent := message_reckons tidy ref p
      split
      · exact sent
      · exact sent.trans (finish_reckons sent.tidy found (by decide) _ none (Session.isLive_of_active active))

theorem clientRead_reckons (tidy : s.Tidy) (c : ConnectionId) : s.Reckons [] (s.clientRead c).2 := by
  rw [clientRead]
  split
  · exact .rfl tidy
  · split
    · exact .rfl tidy
    · exact modifySession_reckons tidy c (f := ({ · with sent := [] })) (fun _ _ => rfl) fun _ _ isOpen => isOpen

theorem opened_tidy (tidy : s.Tidy) (i : Incident) : (s.opened i).Tidy := by
  unfold opened
  split
  · intro d session found isOpen
    have found := (Table.find?_insert ..).symm.trans found
    split at found
    · cases found
      rfl
    · exact tidy d session found isOpen
  · exact tidy

theorem opened_silent (s : Server) (i : Incident) : s.exchange.Silent (s.opened i).exchange := by
  unfold opened
  split
  · obtain ⟨x, telemetry, _, _, opens⟩ := s.openSession_opens
    rw [opens]
    exact (congrArg (fun t : Telemetry => t.journal.tallies) telemetry :)
  · exact .rfl

theorem begun_reckons (tidy : s.openSession.2.2.Tidy) : s.openSession.2.2.Reckons [] s.begun := by
  obtain ⟨session, found, connecting⟩ := s.session?_openSession
  have silent := s.openSession.2.2.registry.ask_silent (.register s.openSession.1 s.openSession.2.1)
  rw [← Registry.send_register] at silent
  have known := silent_reckons tidy silent
  refine known.trans (modifySession_reckons known.tidy s.openSession.1 (fun other there => ?_) fun other there _ => ?_)
  · rw [Session.become]
    split_ifs <;> rfl
  · cases found.symm.trans there
    rw [connecting]
    decide

/-- A session that cannot be registered has ended, but not in an error. -/
theorem turnedOff_reckons (tidy : s.Tidy) (found : s.session? c = some session)
    (connecting : session.phase = .connecting) : s.Reckons [] (s.finish c .registryUnavailable none none) := by
  rw [finish_unavailable found connecting]
  have shut : s.exchange.Silent ((s.exchange.modifyOutbox session.ref (·.shut)).measure (·.sessionClosed)) := Eq.refl _
  refine alter_reckons tidy shut c (fun other there => ?_) fun other there isOpen => ?_
  · cases found.symm.trans there
    rw [tidy c session found (by rw [connecting]; decide)]
    rfl
  · cases found.symm.trans there
    refine absurd ?_ isOpen
    simp [turnedOff, Session.become, Session.deliver, Session.note, Phase.canBecome, connecting]

theorem connect_reckons (tidy : s.openSession.2.2.Tidy) : s.openSession.2.2.Reckons [] s.connect.2 := by
  cases running : s.registry.running with
  | true =>
    have begun := begun_reckons tidy
    exact begun.trans ((connect_internalSteps running).reckons begun.tidy)
  | false =>
    obtain ⟨session, found, connecting⟩ := s.session?_openSession
    rw [connect_stopped running]
    exact turnedOff_reckons tidy found connecting

/-- Whatever happens, messages are counted for what they are, and sessions that fail when they do. -/
theorem undergo_reckons (tidy : s.Tidy) (i : Incident) : (s.opened i).Reckons (s.work i) (s.undergo i) := by
  have served : i.Served → (∀ ref p, i ≠ .message ref (.broadcast p)) → s.Reckons (s.work i) (s.undergo i) := by
    intro served other
    have relayings : s.relayings i =
        (s.delivered? i).toList.flatMap fun (_, session, payload) => s.relayingsOf session payload := by
      rw [Server.relayings]
      exact other
    rw [work, routings, relayings]
    cases delivers : s.delivered? i with
    | none => exact (undergo_internalSteps served delivers).reckons tidy
    | some own =>
      obtain ⟨c, session, payload⟩ := own
      obtain ⟨found, active, steps⟩ := undergo_delivers delivers
      have received := payload_reckons tidy found active payload
      simp only [Option.toList_some, List.flatMap_singleton]
      exact received.trans (steps.reckons received.tidy)
  cases i with
  | event event =>
    cases event with
    | connect => exact connect_reckons (opened_tidy tidy (.event .connect))
    | read c => exact clientRead_reckons tidy c
    | _ => exact served trivial nofun
  | cancel ref => exact .of_silent (Eq.refl _) (fun _ => rfl) tidy
  | command ref command => exact silent_reckons tidy (s.exchange.silent_offer ref command)
  | summon c => exact .of_silent (Eq.refl _) (fun _ => rfl) tidy
  | request q => exact silent_reckons tidy (s.registry.ask_silent q)
  | message ref q =>
    cases q with
    | broadcast p =>
      have message := message_reckons tidy ref p
      rwa [← List.append_nil (Relaying.tallies _)] at message
    | _ => exact silent_reckons tidy (s.registry.askGame_silent ref nofun)
  | halt name => exact silent_reckons tidy (s.registry.halt_silent name)
  | stop => exact silent_reckons tidy s.registry.cancel_silent
  | _ => exact served trivial nofun

end Server

end Scrimmage
