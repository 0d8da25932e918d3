import Scrimmage.Proofs.Accounts
import Scrimmage.Proofs.Posts

namespace Scrimmage

namespace Exchange

/-- No queue goes, and none is shut or opened again. -/
def Keeps (x y : Exchange) : Prop := ∀ s o, x.outbox? s = some o → ∃ o', y.outbox? s = some o' ∧ o'.isOpen = o.isOpen

namespace Keeps

variable {x y z : Exchange}

theorem rfl : x.Keeps x := fun _ o queue => ⟨o, queue, .refl _⟩

theorem trans (first : x.Keeps y) (second : y.Keeps z) : x.Keeps z := by
  intro s o queue
  obtain ⟨o', queue', same⟩ := first s o queue
  obtain ⟨o'', queue'', same'⟩ := second s o' queue'
  exact ⟨o'', queue'', same'.trans same⟩

theorem modifyOutbox (x : Exchange) (t : SessionRef) {f : Outbox → Outbox} (same : ∀ o, (f o).isOpen = o.isOpen) :
    x.Keeps (x.modifyOutbox t f) := by
  intro s o queue
  rw [outbox?_modifyOutbox, queue]
  split
  · exact ⟨f o, .refl _, same o⟩
  · exact ⟨o, .refl _, .refl _⟩

theorem cancels (x : Exchange) (refs : List SessionRef) : x.Keeps (refs.foldl Exchange.cancel x) := by
  induction refs generalizing x with
  | nil => exact .rfl
  | cons ref refs ih => exact (modifyOutbox x ref (f := Outbox.cancel) fun _ => .refl _).trans (ih _)

theorem openOutbox (x : Exchange) (c : ConnectionId) : x.Keeps (x.openOutbox c).2 := by
  intro s o queue
  have inside : s.queue < x.outboxes.length := (List.getElem?_eq_some_iff.mp queue).1
  refine ⟨o, ?_, .refl _⟩
  rw [Exchange.openOutbox, outbox?, List.getElem?_append_left inside]
  exact queue

theorem accepts (keeps : x.Keeps y) {s : SessionRef} (isOpen : x.accepts s = true) : y.accepts s = true := by
  obtain ⟨o, queue, isOpen⟩ := Option.any_eq_true _ _ |>.mp isOpen
  obtain ⟨o', queue', same⟩ := keeps s o queue
  rw [Exchange.accepts, queue']
  exact same.trans isOpen

end Keeps

theorem Extends.keeps {x y : Exchange} {more : SessionRef → List Command} (extends' : x.Extends more y) :
    x.Keeps y := by
  intro s o queue
  refine ⟨extended o (more s), by rw [extends', queue, Option.map_some], ?_⟩
  rw [extended]
  split <;> rfl

/-- Nobody's packages are touched by those who tell sessions to stop. -/
theorem waiting_cancels (x : Exchange) (refs : List SessionRef) (s : SessionRef) :
    (refs.foldl Exchange.cancel x).waiting s = x.waiting s := by
  induction refs generalizing x with
  | nil => rfl
  | cons ref refs ih =>
    rw [List.foldl_cons, ih, waiting, cancel, outbox?_modifyOutbox, waiting]
    split
    · rw [Option.map_map]
      rfl
    · rfl

theorem written_cancels (x : Exchange) (refs : List SessionRef) (s : SessionRef) :
    (refs.foldl Exchange.cancel x).written s = x.written s :=
  congrArg Scrimmage.written (x.waiting_cancels refs s)

end Exchange

namespace Server

/-- Every session has a queue of its own, which is open as long as the session is live, and to which the
registry writes on behalf of its connection. This does not depend on whether games have stopped, sessions were
told to stop, or the registry has ended. -/
structure Posted (s : Server) : Prop where
  attended : s.registry.Attended
  member : ∀ c m, s.registry.members.find? c = some m →
    ∃ session, s.session? c = some session ∧ m.session = session.ref ∧ (m.game = none ↔ session.game = none)
  queue : ∀ c session, s.session? c = some session →
    ∃ o, s.exchange.outbox? session.ref = some o ∧ (session.isLive = true → o.isOpen = true)
  apart : ∀ c d session other, s.session? c = some session → s.session? d = some other →
    session.ref.queue = other.ref.queue → c = d

theorem create_posted (capacity handshakeTimeout : Nat) : (create capacity handshakeTimeout).Posted where
  attended := Registry.create_attended capacity
  member _ _ known := by cases known
  queue _ _ found := by cases found
  apart _ _ _ _ found := by cases found

variable {s after : Server} {c : ConnectionId} {session : Session}

namespace Posted

variable (posted : s.Posted)

include posted

theorem accepts (found : s.session? c = some session) (live : session.isLive = true) :
    s.exchange.accepts session.ref = true := by
  obtain ⟨o, queue, isOpen⟩ := posted.queue c session found
  rw [Exchange.accepts, queue]
  exact isOpen live

/-- The sessions stay, those that end aside, and so do their queues. -/
theorem of_sessions (attended : after.registry.Attended)
    (sessions : ∀ d later, after.session? d = some later →
      ∃ session, s.session? d = some session ∧ later.ref = session.ref ∧ (later.isLive = true → session.isLive = true))
    (member : ∀ d m, after.registry.members.find? d = some m →
      ∃ later, after.session? d = some later ∧ m.session = later.ref ∧ (m.game = none ↔ later.game = none))
    (queue : ∀ d session o, s.session? d = some session → s.exchange.outbox? session.ref = some o →
      ∃ o', after.exchange.outbox? session.ref = some o' ∧
        ∀ later, after.session? d = some later → later.isLive = true → o'.isOpen = o.isOpen) : after.Posted where
  attended := attended
  member := member
  queue d later found := by
    obtain ⟨session, before, ref, live⟩ := sessions d later found
    obtain ⟨o, there, isOpen⟩ := posted.queue d session before
    obtain ⟨o', there', same⟩ := queue d session o before there
    exact ⟨o', ref ▸ there', fun on => (same later found on).trans (isOpen (live on))⟩
  apart d e later other found found' same := by
    obtain ⟨session, before, ref, _⟩ := sessions d later found
    obtain ⟨session', before', ref', _⟩ := sessions e other found'
    exact posted.apart d e session session' before before' (by rw [← ref, ← ref', same])

theorem registry {r : Registry} (attended : r.Attended)
    (member : ∀ d m, r.members.find? d = some m → s.registry.members.find? d = some m)
    (keeps : s.exchange.Keeps r.exchange) : Posted { s with registry := r } := by
  refine posted.of_sessions attended (fun d later found => ⟨later, found, rfl, id⟩)
    (fun d m known => posted.member d m (member d m known)) fun d session o _ there => ?_
  obtain ⟨o', there', same⟩ := keeps _ o there
  exact ⟨o', there', fun _ _ _ => same⟩

theorem queues {x : Exchange} (keeps : s.exchange.Keeps x) :
    Posted { s with registry := { s.registry with exchange := x } } :=
  posted.registry (posted.attended.queues x) (fun _ _ known => known) keeps

theorem modifySession (c : ConnectionId) {f : Session → Session} (ref : ∀ session, (f session).ref = session.ref)
    (game : ∀ session, (f session).game = session.game)
    (live : ∀ session, s.session? c = some session → (f session).isLive = true → session.isLive = true) :
    (s.modifySession c f).Posted := by
  refine posted.of_sessions posted.attended (fun d later found => ?_) (fun d m known => ?_) fun d session o _ there =>
    ⟨o, there, fun _ _ _ => rfl⟩
  · rw [session?_modifySession] at found
    split at found
    · rename_i here
      obtain ⟨session, before, rfl⟩ := Option.map_eq_some_iff.mp found
      exact ⟨session, before, ref session, live session (here ▸ before)⟩
    · exact ⟨later, found, rfl, id⟩
  · obtain ⟨session, found, same, placed⟩ := posted.member d m known
    rw [session?_modifySession]
    split
    · exact ⟨f session, by rw [found, Option.map_some], same.trans (ref session).symm, by rw [placed, game]⟩
    · exact ⟨session, found, same, placed⟩

end Posted

/-- What it is for a session to be over. -/
structure Leaves (s : Server) (c : ConnectionId) (session : Session) (ending : Ending) (frames : List ServerFrame)
    (after : Server) : Prop where
  ended : after.session? c = some (session.ended ending frames)
  others : ∀ d, d ≠ c → after.session? d = s.session? d
  queues : ∃ closes, Wordless closes ∧ ∀ ref : SessionRef, ref.queue ≠ session.ref.queue →
    after.exchange.outbox? ref = (s.exchange.outbox? ref).map (Exchange.extended · (closes ref))
  queue : (s.exchange.outbox? session.ref).isSome = true → (after.exchange.outbox? session.ref).isSome = true
  member : ∀ d m, after.registry.members.find? d = some m → s.registry.members.find? d = some m
  attended : s.registry.Attended → after.registry.Attended

theorem Leaves.written {ending : Ending} {frames : List ServerFrame} (leaves : s.Leaves c session ending frames after)
    {ref : SessionRef} (apart : ref.queue ≠ session.ref.queue) :
    after.exchange.written ref = s.exchange.written ref := by
  obtain ⟨closes, wordless, queues⟩ := leaves.queues
  exact Exchange.written_extended (queues ref apart) (wordless ref)

/-- No queue goes. -/
def Stays (ref : SessionRef) (x y : Exchange) : Prop := (x.outbox? ref).isSome = true → (y.outbox? ref).isSome = true

theorem stays_modifyOutbox (ref : SessionRef) (x : Exchange) (t : SessionRef) (f : Outbox → Outbox) :
    Stays ref x (x.modifyOutbox t f) := by
  rw [Stays, Exchange.outbox?_modifyOutbox]
  split
  · rw [Option.isSome_map]
    exact id
  · exact id

theorem stays_beginClosing (ref : SessionRef) (s : Server) (c : ConnectionId) (session : Session) (ending : Ending)
    (farewell : Option Package) (peerFrame : Option CloseFrame) :
    Stays ref s.exchange (s.beginClosing c session ending farewell peerFrame).exchange := by
  have cleared := stays_modifyOutbox ref s.exchange session.ref (·.clear)
  rw [beginClosing]
  split <;> split
  · exact cleared
  · exact id
  · exact cleared
  · exact id

theorem stays_finish (ref : SessionRef) (s : Server) (c : ConnectionId) (ending : Ending) (farewell : Option Package)
    (peerFrame : Option CloseFrame) : Stays ref s.exchange (s.finish c ending farewell peerFrame).exchange := by
  rw [finish]
  split
  · exact id
  · rename_i session _
    have closing := stays_beginClosing ref s c session ending farewell peerFrame
    generalize s.beginClosing c session ending farewell peerFrame = t at closing
    dsimp only
    split
    · exact fun there => stays_modifyOutbox ref _ session.ref (·.shut) (closing there)
    · have other : ∀ a, RegistryRequest.unregister c ≠ .join a := by simp
      obtain ⟨closes, _, extends'⟩ := t.registry.ask_wordless other
      have told : Stays ref t.exchange (t.unregister c).exchange := by
        intro there
        have same : (t.unregister c).exchange = (t.registry.ask (.unregister c)).2.exchange :=
          congrArg Registry.exchange (t.registry.send_unregister c)
        rw [same, extends', Option.isSome_map]
        exact there
      exact fun there => stays_modifyOutbox ref _ session.ref (·.shut) (told (closing there))

theorem finish_leaves (found : s.session? c = some session) {ending : Ending} (told : ending ≠ .registryUnavailable)
    (farewell : Option Package) (peerFrame : Option CloseFrame) :
    s.Leaves c session ending (goodbye (session.phase = Phase.active) ending farewell peerFrame)
      (s.finish c ending farewell peerFrame) := by
  have stays := stays_finish session.ref s c ending farewell peerFrame
  obtain ⟨x, queues, _, same⟩ := finish_eq found told farewell peerFrame
  rw [same, Registry.send_unregister] at stays ⊢
  obtain ⟨closes, wordless, extends'⟩ :=
    ({ s.registry with exchange := x } : Registry).ask_wordless (q := .unregister c) nofun
  have member : ∀ d m, (({ s.registry with exchange := x } : Registry).ask (.unregister c)).2.members.find? d = some m →
      s.registry.members.find? d = some m := fun d m known =>
    Registry.member_of_ask (r := { s.registry with exchange := x }) (q := .unregister c) nofun nofun known
  have attended : s.registry.Attended →
      (({ s.registry with exchange := x } : Registry).ask (.unregister c)).2.Attended :=
    fun attended => (attended.queues x).ask _
  generalize (({ s.registry with exchange := x } : Registry).ask (.unregister c)).2 = left
    at stays extends' member attended
  exact {
    ended := session?_modifySession_self found _
    others := fun d other => (session?_modifySession _ c d _).trans (if_neg other)
    queues := by
      refine ⟨closes, wordless, fun ref other => ?_⟩
      have shut : (left.exchange.modifyOutbox session.ref (·.shut)).outbox? ref = left.exchange.outbox? ref := by
        rw [Exchange.outbox?_modifyOutbox, if_neg other.symm]
      exact shut.trans ((extends' ref).trans (congrArg _ (queues ref other)))
    queue := stays
    member := member
    attended := fun before => (attended before).queues _ }

namespace Posted

variable (posted : s.Posted)

include posted

theorem leaves {ending : Ending} {frames : List ServerFrame} (leaves : s.Leaves c session ending frames after)
    (found : s.session? c = some session) (live : session.isLive = true) : after.Posted := by
  have back : ∀ d later, after.session? d = some later →
      d = c ∧ later = session.ended ending frames ∨ d ≠ c ∧ s.session? d = some later := by
    intro d later there
    by_cases here : d = c
    · subst here
      exact Or.inl ⟨rfl, Option.some.inj (there.symm.trans leaves.ended)⟩
    · exact Or.inr ⟨here, (leaves.others d here).symm.trans there⟩
  have dead := session.ended_dead live ending frames
  refine posted.of_sessions (leaves.attended posted.attended) (fun d later there => ?_) (fun d m known => ?_)
    fun d other o there queue => ?_
  · rcases back d later there with ⟨rfl, rfl⟩ | ⟨_, before⟩
    · exact ⟨session, found, session.ended_ref .., fun on => by cases dead.symm.trans on⟩
    · exact ⟨later, before, rfl, id⟩
  · obtain ⟨before, there, same, placed⟩ := posted.member d m (leaves.member d m known)
    by_cases here : d = c
    · subst here
      cases found.symm.trans there
      exact ⟨_, leaves.ended, same.trans (session.ended_ref ..).symm, by rw [placed, session.ended_game]⟩
    · exact ⟨before, (leaves.others d here).trans there, same, placed⟩
  · by_cases here : d = c
    · subst here
      cases found.symm.trans there
      obtain ⟨o', queue'⟩ := Option.isSome_iff_exists.mp (leaves.queue (by rw [queue]; rfl))
      refine ⟨o', queue', fun later there' on => ?_⟩
      cases there'.symm.trans leaves.ended
      cases dead.symm.trans on
    · obtain ⟨closes, _, queues⟩ := leaves.queues
      have apart : other.ref.queue ≠ session.ref.queue :=
        fun same => here (posted.apart d c other session there found same)
      refine ⟨Exchange.extended o (closes other.ref), by rw [queues _ apart, queue, Option.map_some], fun _ _ _ => ?_⟩
      rw [Exchange.extended]
      split <;> rfl

theorem finish (found : s.session? c = some session) (live : session.isLive = true) {ending : Ending}
    (told : ending ≠ .registryUnavailable) (farewell : Option Package) (peerFrame : Option CloseFrame) :
    (s.finish c ending farewell peerFrame).Posted :=
  posted.leaves (finish_leaves found told farewell peerFrame) found live

theorem drained (c : ConnectionId) (session : Session) : (s.drained c session).Posted := by
  let pumped := Scrimmage.pump (s.exchange.waiting session.ref)
  have taken : (s.modifyExchange (·.modifyOutbox session.ref (·.drop pumped.taken))).Posted :=
    posted.queues (.modifyOutbox s.exchange session.ref fun _ => rfl)
  exact taken.modifySession c (f := (·.deliver (pumped.texts.map .text))) (fun _ => rfl) (fun _ => rfl)
    fun _ _ live => live

theorem pump (found : s.session? c = some session) (live : session.isLive = true) :
    (s.pumpSession c session).Posted := by
  rw [pumpSession_eq]
  split
  · exact posted.drained c session
  · rename_i ending ends
    exact (posted.drained c session).finish (session?_drained found) live (ending_pump ends) none none

theorem joined (found : s.session? c = some session) {a : Application} (own : a.connection = c) {admission : Admission}
    (joined : s.registry.outcome a = .ok admission) :
    ({ s with registry := Lobby.record (s.registry.ask (.join a)).2 .joined }.modifySession c
      fun session => { session with game := some admission.game }).Posted := by
  obtain ⟨m, known, outside, _, ⟨closes, _, extends'⟩, members⟩ := Registry.join_of_ok joined
  subst own
  have session? : ∀ d, (Server.modifySession { s with registry := Lobby.record (s.registry.ask (.join a)).2 .joined }
      a.connection fun session => { session with game := some admission.game }).session? d =
      if d = a.connection then (s.session? d).map fun session => { session with game := some admission.game }
      else s.session? d := fun d => session?_modifySession ..
  refine posted.of_sessions ((posted.attended.ask (.join a)).queues _) (fun d later there => ?_) (fun d m' there => ?_)
    fun d other o _ queue => ?_
  · rw [session?] at there
    split at there
    · obtain ⟨before, found', rfl⟩ := Option.map_eq_some_iff.mp there
      exact ⟨before, found', rfl, id⟩
    · exact ⟨later, there, rfl, id⟩
  · have there : (s.registry.ask (.join a)).2.members.find? d = some m' := there
    rw [members] at there
    rw [session?]
    split at there
    · rename_i here
      cases there
      obtain ⟨before, there, same, _⟩ := posted.member _ m known
      rw [if_pos here, here, there]
      exact ⟨_, rfl, same, by simp⟩
    · rename_i other
      rw [if_neg other]
      exact posted.member d m' there
  · obtain ⟨o', queue', same⟩ := extends'.keeps _ o queue
    exact ⟨o', queue', fun _ _ _ => same⟩

theorem refused {a : Application} {failure : Failure} (refused : s.registry.outcome a = .error failure)
    (count : Lobby.Count) : Posted { s with registry := Lobby.record (s.registry.ask (.join a)).2 count } := by
  obtain ⟨⟨closes, _, extends'⟩, members⟩ := Registry.join_of_error refused
  refine posted.registry ((posted.attended.ask (.join a)).queues _) (fun d m known => ?_) extends'.keeps
  exact (members d).symm.trans known

theorem offer (ref : SessionRef) (command : Command) : (s.modifyExchange (·.offer ref command)).Posted :=
  posted.queues (s.exchange.extends_offer ref command).keeps

theorem lobby (found : s.session? c = some session) (active : session.phase = .active) (outside : session.game = none)
    (payload : List UInt8) : (s.receivePayload c session payload).Posted := by
  cases decoded : JoinRequest.decode payload with
  | error fault =>
    rw [receive_unidentified outside decoded]
    have counted : Posted { s with registry := s.registry.measure (·.record .unidentified) } := posted.queues .rfl
    exact counted.offer ..
  | ok q =>
    cases answer : s.registry.outcome (q.application c) with
    | ok admission =>
      rw [receive_joined outside decoded answer]
      exact posted.joined found rfl answer
    | error failure =>
      cases rejection : failure.isRejection with
      | true =>
        rw [receive_full outside decoded answer rejection]
        exact (posted.refused answer .full).offer ..
      | false =>
        rw [receive_refused outside decoded answer rejection]
        exact (posted.refused answer .rejected).finish found (Session.isLive_of_active active) (by decide) _ none

theorem turn {allowed : Package → Prop} {answers : List (ConnectionId × Answer)} (turn : Turn allowed s answers after) :
    after.Posted := by
  cases turn with
  | pass duration => exact posted.queues .rfl
  | cancel refs =>
    have told : Posted { s with sessionsCancelled := true } := { posted with }
    exact told.queues (.cancels s.exchange refs)
  | touch c still =>
    exact posted.modifySession c (fun session => Session.ref_of_course (still.course session)) still.game
      fun session _ live => (Session.isLive_of_course (still.course session)).symm.trans live
  | @upgrade c session found pending =>
    refine posted.modifySession c (fun session => session.become_ref _) (fun session => session.become_game _)
      fun session' found' _ => ?_
    cases found.symm.trans found'
    exact Session.isLive_iff.mpr (Or.inl pending)
  | pump found active => exact posted.pump found (Session.isLive_of_active active)
  | finish ending farewell peerFrame found live told => exact posted.finish found live told farewell peerFrame
  | @relay ref p _ =>
    obtain ⟨⟨more, _, extends'⟩, members⟩ := s.registry.askGame_extends ref (q := .broadcast p) trivial
    exact posted.registry (posted.attended.askGame ref trivial) (fun d m known => (members d).symm.trans known)
      extends'.keeps
  | lobby payload found active outside => exact posted.lobby found active outside payload

theorem turns {allowed : Package → Prop} {answers : List (ConnectionId × Answer)}
    (turns : Turns allowed s answers after) : after.Posted := by
  induction turns with
  | refl => exact posted
  | tail _ turn ih => exact ih.turn turn

theorem tend (c : ConnectionId) : (s.tend c).Posted := by
  have turns : Turns (fun _ => True) s [] (s.tend c) := tend_turns s c
  exact posted.turns turns

theorem tendAll : s.tendAll.Posted := by
  have turns : Turns (fun _ => True) s [] s.tendAll := tendAll_turns s
  exact posted.turns turns

end Posted

end Server

end Scrimmage
