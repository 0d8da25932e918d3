import Scrimmage.Proofs.SessionSteps
import Scrimmage.Proofs.Making

namespace Scrimmage

open Text

/-- What the server writes itself. -/
def Package.IsNotice (p : Package) : Prop := ∃ m : Notice, p = m.encode

theorem Package.isNotice_encode {m : Notice} : ∀ p ∈ some m.encode, p.IsNotice :=
  fun _ same => ⟨m, (Option.some.inj same).symm⟩

theorem Package.isNotice_none : ∀ p ∈ (none : Option Package), p.IsNotice := forall_mem_none _

namespace Session

/-- The line of a session has been cut, or the session has ended by this. -/
def IsCut (session : Session) : Prop := session.ending = some .transportError ∨ ServerFrame.reset ∈ session.sent

/-- A session goes on with its line. -/
def KeepsLine (f : Session → Session) : Prop := ∀ session, (f session).IsCut → session.IsCut

theorem keepsLine_of_same {f : Session → Session} (ending : ∀ session, (f session).ending = session.ending)
    (sent : ∀ session, (f session).sent = session.sent) : KeepsLine f := by
  intro session cut
  rwa [IsCut, ending, sent] at cut

theorem keepsLine_deliver {frames : List ServerFrame} (whole : ServerFrame.reset ∉ frames) :
    KeepsLine (·.deliver frames) := by
  rintro session (ended | cut)
  · exact Or.inl ended
  · exact Or.inr ((List.mem_append.mp cut).resolve_right whole)

@[simp] theorem become_ending (session : Session) (next : Phase) : (session.become next).ending = session.ending := by
  rw [become]
  split_ifs <;> rfl

end Session

/-- What is no frame, or says that it is text and is not. -/
def ClientFrame.IsBroken : ClientFrame → Prop
  | .invalid => True
  | .text payload => ¬WellFormed payload
  | .binary _ | .ping _ | .pong _ | .close _ => False

instance : DecidablePred ClientFrame.IsBroken
  | .invalid => inferInstanceAs (Decidable True)
  | .text payload => inferInstanceAs (Decidable ¬WellFormed payload)
  | .binary _ | .ping _ | .pong _ | .close _ => inferInstanceAs (Decidable False)

namespace Incident

/-- A client breaks the rules of its line. -/
def Breaks (c : ConnectionId) : Incident → Prop
  | .event (.send d frame) => d = c ∧ frame.checked.IsBroken
  | .violate d violation => d = c ∧ ∃ frame ∈ violation.frame?, frame.checked.IsBroken
  | _ => False

instance (c : ConnectionId) : DecidablePred (Breaks c)
  | .event (.send d frame) => inferInstanceAs (Decidable (d = c ∧ frame.checked.IsBroken))
  | .violate d violation => inferInstanceAs (Decidable (d = c ∧ ∃ frame ∈ violation.frame?, frame.checked.IsBroken))
  | .event .connect | .event (.handshake _) | .event (.drop _) | .event (.read _) | .event (.advance _) | .cancel _
  | .cancelAll | .command _ _ | .summon _ | .request _ | .message _ _ | .halt _ | .stop | .turn _ | .settle =>
    inferInstanceAs (Decidable False)

/-- Packages that are handed over as such, by whoever holds them. -/
def given : Incident → List Package
  | .command _ (.write p) => [p]
  | .message _ (.broadcast p) => [p]
  | _ => []

/-- Packages that come from outside: those, and what the frames of clients can be made into. -/
def Hands (p : Package) (i : Incident) : Prop := p ∈ i.packages ∧ p.Made

end Incident

namespace Server

/-- One thing that happens at a server, taken apart as far as its lines are concerned: who puts what into which
queue, what leaves a queue for a line, and what cuts a line. Packages come from the server itself or are
`handed` to it, and a line is cut by a client that `breaks` its rules or by a package that turns out to be no
text. -/
inductive PackageStep (handed : Package → Prop) (breaks : ConnectionId → Prop) (s : Server) : Server → Prop
  | opens : PackageStep handed breaks s s.openSession.2.2
  | summon (c : ConnectionId) : PackageStep handed breaks s (s.modifyExchange fun x => (x.openOutbox c).2)
  | ask (q : RegistryRequest) : PackageStep handed breaks s { s with registry := (s.registry.ask q).2 }
  | message (ref : GameRef) {q : GameRequest} : (∀ p, q = .broadcast p → handed p) →
      PackageStep handed breaks s { s with registry := (s.registry.askGame ref q).2 }
  | halt (name : String) : PackageStep handed breaks s { s with registry := s.registry.halt name }
  | stop : PackageStep handed breaks s { s with registry := s.registry.cancel }
  | offer (ref : SessionRef) {command : Command} : (∀ p, command = .write p → p.IsNotice ∨ handed p) →
      PackageStep handed breaks s (s.modifyExchange (·.offer ref command))
  /-- Commands leave a queue, or what is known of it changes. -/
  | thins (ref : SessionRef) {f : Outbox → Outbox} : (∀ o, (f o).waiting ⊆ o.waiting) →
      PackageStep handed breaks s (s.modifyExchange (·.modifyOutbox ref f))
  | measure (f : Telemetry → Telemetry) : PackageStep handed breaks s (s.measure f)
  | pass (duration : Nat) : PackageStep handed breaks s (s.modifyExchange (·.pass duration))
  | cancelled : PackageStep handed breaks s { s with sessionsCancelled := true }
  | touch (c : ConnectionId) {f : Session → Session} : Session.KeepsLine f →
      PackageStep handed breaks s (s.modifySession c f)
  /-- A session says its last words. -/
  | parts {c : ConnectionId} {session : Session} {ending : Ending} {farewell : Option Package}
      (peerFrame : Option CloseFrame) : s.session? c = some session → (∀ p ∈ farewell, p.IsNotice) →
      (ending = .transportError → breaks c) →
      PackageStep handed breaks s (s.beginClosing c session ending farewell peerFrame)
  | concludes {c : ConnectionId} (ref : SessionRef) {ending : Ending} : (ending = .transportError → breaks c) →
      PackageStep handed breaks s (s.conclude c ref ending)
  /-- Among the packages that a session has taken off its queue there is one that is no text. -/
  | fails {c : ConnectionId} {session : Session} {count : Nat} : s.session? c = some session →
      (pump ((s.exchange.waiting session.ref).take count)).ending = some .transportError →
      PackageStep handed breaks s (s.carry c session count)

/-- One such step after another, in any order. -/
abbrev PackageSteps (handed : Package → Prop) (breaks : ConnectionId → Prop) : Server → Server → Prop :=
  Relation.ReflTransGen (PackageStep handed breaks)

variable {handed : Package → Prop} {breaks : ConnectionId → Prop} {s : Server} {c : ConnectionId} {session : Session}

theorem PackageSteps.foldl {α : Type} {f : Server → α → Server} (steps : ∀ s a, PackageSteps handed breaks s (f s a))
    (s : Server)
    (l : List α) : PackageSteps handed breaks s (l.foldl f s) := by
  induction l generalizing s with
  | nil => exact .refl
  | cons a l ih => exact (steps s a).trans (ih (f s a))

theorem touch_packageSteps (s : Server) (c : ConnectionId) {f : Session → Session}
    (ending : ∀ session, (f session).ending = session.ending) (sent : ∀ session, (f session).sent = session.sent) :
    PackageSteps handed breaks s (s.modifySession c f) :=
  .single (.touch c (Session.keepsLine_of_same ending sent))

theorem finish_packageSteps (found : s.session? c = some session) {ending : Ending} {farewell : Option Package}
    (told : ∀ p ∈ farewell, p.IsNotice) (own : ending = .transportError → breaks c) (peerFrame : Option CloseFrame) :
    PackageSteps handed breaks s (s.finish c ending farewell peerFrame) := by
  have parted : PackageSteps handed breaks s (s.beginClosing c session ending farewell peerFrame) :=
    .single (.parts peerFrame found told own)
  have same : s.finish c ending farewell peerFrame =
      (if ending = .registryUnavailable then s.beginClosing c session ending farewell peerFrame
        else (s.beginClosing c session ending farewell peerFrame).unregister c).conclude c session.ref ending := by
    rw [finish, found]
  rw [same]
  refine Relation.ReflTransGen.tail ?_ (.concludes session.ref own)
  split
  · exact parted
  · rw [unregister, Registry.send_unregister]
    exact (parted.tail (.ask _)).trans (touch_packageSteps _ c (fun _ => rfl) fun _ => rfl)

theorem finish_packageSteps_of_ne (found : s.session? c = some session) {ending : Ending}
    (whole : ending ≠ .transportError)
    {farewell : Option Package} (told : ∀ p ∈ farewell, p.IsNotice) (peerFrame : Option CloseFrame) :
    PackageSteps handed breaks s (s.finish c ending farewell peerFrame) :=
  finish_packageSteps found told (fun same => absurd same whole) peerFrame

theorem carried_packageSteps (s : Server) (c : ConnectionId) (session : Session) (count : Nat) :
    PackageSteps handed breaks s (s.carried c session count) := by
  have taken : PackageSteps handed breaks s (s.modifyExchange (·.modifyOutbox session.ref
      (·.drop (pump ((s.exchange.waiting session.ref).take count)).taken))) :=
    .single (.thins session.ref fun o => List.drop_subset _ o.waiting)
  refine taken.tail (.touch c (Session.keepsLine_deliver fun cut => ?_))
  obtain ⟨_, _, same⟩ := List.mem_map.mp cut
  cases same

theorem carry_packageSteps (found : s.session? c = some session) (count : Nat) :
    PackageSteps handed breaks s (s.carry c session count) := by
  by_cases fails : (pump ((s.exchange.waiting session.ref).take count)).ending = some .transportError
  · exact .single (.fails found fails)
  · rw [carry]
    split
    · exact carried_packageSteps s c session count
    · rename_i ending ends
      have there : (s.carried c session count).session? c = some (session.deliver _) :=
        session?_modifySession_self (s := s.modifyExchange _) found _
      exact (carried_packageSteps s c session count).trans
        (finish_packageSteps_of_ne there (fun same => fails (same ▸ ends)) Package.isNotice_none none)

theorem tend_packageSteps (s : Server) (c : ConnectionId) : PackageSteps handed breaks s (s.tend c) := by
  rw [tend]
  split
  · exact .refl
  · rename_i session found
    split
    · exact .refl
    · split
      · exact finish_packageSteps_of_ne found (by decide) Package.isNotice_encode none
      · split
        · rw [pumpSession_eq_carry]
          exact carry_packageSteps found _
        · exact .refl

theorem tendRounds_packageSteps (rounds : Nat) (s : Server) : PackageSteps handed breaks s (tendRounds rounds s) := by
  induction rounds generalizing s with
  | zero => exact .refl
  | succ rounds ih =>
    have all : PackageSteps handed breaks s s.tendAll := .foldl tend_packageSteps s _
    exact all.trans (ih _)

theorem settle_packageSteps (s : Server) : PackageSteps handed breaks s s.settle := tendRounds_packageSteps ..

theorem elapse_packageSteps (milliseconds : Nat) (s : Server) (c : ConnectionId) :
    PackageSteps handed breaks s (elapse milliseconds s c) := by
  rw [elapse]
  split
  · exact .refl
  · rename_i session found
    split
    · have waits : PackageSteps handed breaks s
          (s.modifySession c fun own => { own with waited := session.waited + milliseconds }) :=
        touch_packageSteps s c (fun _ => rfl) fun _ => rfl
      simp only
      split
      · exact waits.trans (finish_packageSteps_of_ne (session?_modifySession_self found _) (by decide)
          Package.isNotice_none _)
      · exact waits
    · exact .refl

theorem advance_packageSteps (s : Server) (milliseconds : Nat) :
    PackageSteps handed breaks s (s.advance milliseconds) := by
  have passed : PackageSteps handed breaks s (s.modifyExchange (·.pass (milliseconds * Clock.millisecond))) :=
    .single (.pass _)
  exact (passed.trans (PackageSteps.foldl (elapse_packageSteps milliseconds) _ _)).trans (settle_packageSteps _)

theorem connect_packageSteps (s : Server) : PackageSteps handed breaks s s.connect.2 := by
  have opened : PackageSteps handed breaks s s.openSession.2.2 := .single .opens
  cases running : s.registry.running with
  | true =>
    have begun : PackageSteps handed breaks s s.begun := by
      simp only [begun, Registry.send_register]
      refine (opened.tail (.ask _)).trans (touch_packageSteps _ _ (fun session => ?_) fun session => ?_)
      · exact Session.become_ending ..
      · exact Session.become_sent ..
    rw [connect_eq running]
    exact ((begun.trans (settle_packageSteps _)).trans (elapse_packageSteps 0 _ _)).trans (settle_packageSteps _)
  | false =>
    obtain ⟨session, found, _⟩ := s.session?_openSession
    rw [connect_stopped running]
    exact opened.trans (finish_packageSteps_of_ne found (by decide) Package.isNotice_none none)

theorem failHandshake_packageSteps (s : Server) (c : ConnectionId) :
    PackageSteps handed breaks s (s.failHandshake c) := by
  rw [failHandshake]
  split
  · exact .refl
  · rename_i session found
    split
    · exact (finish_packageSteps_of_ne found (by decide) Package.isNotice_none none).trans (settle_packageSteps _)
    · exact .refl

theorem handshake_packageSteps (s : Server) (c : ConnectionId) : PackageSteps handed breaks s (s.handshake c).2 := by
  rw [handshake]
  split
  · exact .refl
  · split
    · exact .refl
    · split
      · have upgraded : PackageSteps handed breaks s
            (s.modifySession c fun session => { session.become .active with client := .upgraded }) :=
          touch_packageSteps s c (fun session => session.become_ending .active) fun session =>
            session.become_sent .active
        exact upgraded.trans (settle_packageSteps _)
      · exact (failHandshake_packageSteps s c).trans (touch_packageSteps _ c (fun _ => rfl) fun _ => rfl)

theorem lineCut_packageSteps (s : Server) (c : ConnectionId) : PackageSteps handed breaks s (s.lineCut c) := by
  rw [lineCut]
  split
  · exact .refl
  · rename_i session found
    split
    · exact finish_packageSteps_of_ne found (by decide) Package.isNotice_none none
    · exact finish_packageSteps_of_ne found (by decide) Package.isNotice_none none
    · exact .refl

theorem clientDrop_packageSteps (s : Server) (c : ConnectionId) : PackageSteps handed breaks s (s.clientDrop c).2 := by
  rw [clientDrop]
  split
  · have gone : PackageSteps handed breaks s (s.modifySession c fun session => { session with client := .gone }) :=
      touch_packageSteps s c (fun _ => rfl) fun _ => rfl
    exact (gone.trans (lineCut_packageSteps _ c)).trans (settle_packageSteps _)
  · exact .refl

theorem clientRead_packageSteps (s : Server) (c : ConnectionId) : PackageSteps handed breaks s (s.clientRead c).2 := by
  rw [clientRead]
  split
  · exact .refl
  · split
    · exact .refl
    · refine .single (.touch c ?_)
      rintro session (ended | cut)
      · exact Or.inl ended
      · cases cut

theorem cancel_packageSteps (s : Server) (ref : SessionRef) :
    PackageSteps handed breaks s (s.modifyExchange (·.cancel ref)) :=
  .single (.thins ref (f := Outbox.cancel) fun _ => List.Subset.refl _)

theorem cancelSessions_packageSteps (s : Server) : PackageSteps handed breaks s s.cancelSessions := by
  have told : ∀ (refs : List SessionRef) (t : Server),
      PackageSteps handed breaks t (t.modifyExchange fun x => refs.foldl Exchange.cancel x) := by
    intro refs
    induction refs with
    | nil => exact fun _ => .refl
    | cons ref refs ih => exact fun t => (cancel_packageSteps t ref).trans (ih _)
  have cancelled : PackageSteps handed breaks s { s with sessionsCancelled := true } := .single .cancelled
  exact (cancelled.trans (told _ _)).trans (settle_packageSteps _)

theorem receivePayload_packageSteps (found : s.session? c = some session) {payload : List UInt8}
    (relayed : ∀ p, Package.ofUtf8 payload = .ok p → handed p) :
    PackageSteps handed breaks s (s.receivePayload c session payload) := by
  have replied : ∀ (t : Server) (m : Notice),
      PackageSteps handed breaks t (t.modifyExchange (·.offer session.ref (.write m.encode))) := fun t m =>
    .single (.offer session.ref fun p same => by cases same; exact Or.inl ⟨m, rfl⟩)
  have asked : ∀ (q : RegistryRequest) (count : Lobby.Count),
      PackageSteps handed breaks s { s with registry := Lobby.record (s.registry.ask q).2 count } := fun q count =>
    (Relation.ReflTransGen.single (.ask q)).tail (.measure _)
  cases game : session.game with
  | none =>
    cases decoded : JoinRequest.decode payload with
    | error fault =>
      rw [receive_unidentified game decoded]
      exact (Relation.ReflTransGen.single (.measure _)).trans (replied _ _)
    | ok q =>
      cases answer : s.registry.outcome (q.application c) with
      | ok admission =>
        rw [receive_joined game decoded answer]
        exact (asked _ _).trans (touch_packageSteps _ c (fun _ => rfl) fun _ => rfl)
      | error failure =>
        cases rejection : failure.isRejection with
        | true =>
          rw [receive_full game decoded answer rejection]
          exact (asked _ _).trans (replied _ _)
        | false =>
          rw [receive_refused game decoded answer rejection]
          exact (asked _ _).trans (finish_packageSteps_of_ne (s := { s with registry := Lobby.record _ _ })
            found (by decide)
            Package.isNotice_encode none)
  | some ref =>
    simp only [receivePayload, game]
    split
    · exact .refl
    · rename_i p made
      have passed : PackageSteps handed breaks s { s with registry := (s.registry.askGame ref (.broadcast p)).2 } :=
        .single (.message ref fun q same => by cases same; exact relayed p made)
      split
      · exact passed
      · exact passed.trans (finish_packageSteps_of_ne
          (s := { s with registry := (s.registry.askGame ref (.broadcast p)).2 })
          found (by decide) Package.isNotice_encode none)

theorem receive_packageSteps (s : Server) (c : ConnectionId) {frame : ClientFrame}
    (own : frame.checked.IsBroken → breaks c)
    (relayed : ∀ payload, frame.checked.payload? = some payload → ∀ p, Package.ofUtf8 payload = .ok p → handed p) :
    PackageSteps handed breaks s (s.receive c frame) := by
  rw [receive]
  split
  · exact .refl
  · rename_i session found
    split
    · cases checked : frame.checked with
      | text payload =>
        cases valid : Utf8.decode payload with
        | ok cs =>
          simp only [valid]
          refine receivePayload_packageSteps found (relayed payload ?_)
          rw [checked, ClientFrame.payload?, valid]
          rfl
        | error fault =>
          simp only [valid]
          refine finish_packageSteps found Package.isNotice_none (fun _ => own ?_) none
          rw [checked, ClientFrame.IsBroken, ← isText_iff_wellFormed, isText_iff, valid]
          exact Bool.false_ne_true
      | binary payload => exact receivePayload_packageSteps found (relayed payload (by rw [checked]; rfl))
      | ping payload =>
        exact .single (.touch c (Session.keepsLine_deliver (by simp)))
      | pong payload => exact .refl
      | close frame => exact finish_packageSteps_of_ne found (by decide) Package.isNotice_none frame
      | invalid => exact finish_packageSteps found Package.isNotice_none (fun _ => own (checked ▸ trivial)) none
    · exact .refl

variable {i : Incident} (own : ∀ c, i.Breaks c → breaks c) (hands : ∀ p, i.Hands p → handed p)

include own hands

theorem clientSend_packageSteps (s : Server) {frame : ClientFrame} (same : i = .event (.send c frame)) :
    PackageSteps handed breaks s (s.clientSend c [frame]).2 := by
  subst same
  rw [clientSend]
  split
  · refine (receive_packageSteps s c (fun broken => own c ⟨rfl, broken⟩) fun payload message p made => ?_).trans
      (settle_packageSteps _)
    refine hands p ⟨?_, .ofUtf8 made⟩
    rw [Incident.packages, message, ← Package.octets_of_ofUtf8 made]
    exact List.mem_singleton_self p
  · exact .refl

theorem violate_packageSteps (s : Server) {violation : Violation} (same : i = .violate c violation) :
    PackageSteps handed breaks s (s.violate c violation) := by
  subst same
  have received : ∀ frame, violation.frame? = some frame → PackageSteps handed breaks s (s.receive c frame).settle := by
    intro frame spelled
    have broke (broken : frame.checked.IsBroken) : breaks c := own c ⟨rfl, frame, spelled, broken⟩
    refine (receive_packageSteps s c broke fun payload message p made => ?_).trans (settle_packageSteps _)
    refine hands p ⟨?_, .ofUtf8 made⟩
    rw [Incident.packages, spelled, Option.bind_some, message, ← Package.octets_of_ofUtf8 made]
    exact List.mem_singleton_self p
  cases violation with
  | noHandshake => exact failHandshake_packageSteps s c
  | partialHandshake => exact touch_packageSteps s c (fun _ => rfl) fun _ => rfl
  | invalidFrame => exact received _ rfl
  | partialFrame => exact .refl
  | fragmented payload => exact received _ rfl

theorem undergo_packageSteps (s : Server) (made : ∀ p ∈ i.given, p.Made) :
    PackageSteps handed breaks s (s.undergo i) := by
  cases i with
  | event event =>
    cases event with
    | connect => exact connect_packageSteps s
    | handshake c => exact handshake_packageSteps s c
    | send c frame => exact clientSend_packageSteps own hands s rfl
    | drop c => exact clientDrop_packageSteps s c
    | read c => exact clientRead_packageSteps s c
    | advance milliseconds => exact advance_packageSteps s milliseconds
  | violate c violation => exact violate_packageSteps own hands s rfl
  | cancel ref => exact cancel_packageSteps s ref
  | cancelAll => exact cancelSessions_packageSteps s
  | command ref command =>
    refine .single (.offer ref fun p same => ?_)
    subst same
    exact Or.inr (hands p ⟨List.mem_singleton_self p, made p (List.mem_singleton_self p)⟩)
  | summon c => exact .single (.summon c)
  | request q => exact .single (.ask q)
  | message ref q =>
    refine .single (.message ref fun p same => ?_)
    subst same
    exact hands p ⟨List.mem_singleton_self p, made p (List.mem_singleton_self p)⟩
  | halt name => exact .single (.halt name)
  | stop => exact .single .stop
  | turn c => exact tend_packageSteps s c
  | settle => exact settle_packageSteps s

omit own hands

theorem after_packageSteps (s : Server) {run : List Incident} (made : ∀ i ∈ run, ∀ p ∈ i.given, p.Made)
    (own : ∀ i ∈ run, ∀ c, i.Breaks c → breaks c) (hands : ∀ i ∈ run, ∀ p, i.Hands p → handed p) :
    PackageSteps handed breaks s (s.after run) := by
  induction run generalizing s with
  | nil => exact .refl
  | cons i run ih =>
    simp only [List.forall_mem_cons] at made own hands
    exact (undergo_packageSteps own.1 hands.1 s made.1).trans (ih _ made.2 own.2 hands.2)

end Server

end Scrimmage
