import Scrimmage.Proofs.Ledger
import Scrimmage.Proofs.Lifecycle

namespace Scrimmage

namespace Registry

/-- A game is begun for an applicant, and has stopped before it lets the applicant in. -/
def forsake (r : Registry) (a : Application) (session : SessionRef) : Registry :=
  let (ref, begun) := r.opened.createGame a.game
  let (_, asked) := (begun.halt a.game).enter ref a session
  (asked.removeGame a.game).closed

/-- Some games stop, and the registry looks after its games. -/
def checked (r : Registry) (stopping : List String) : Registry := (stopping.foldl halt r).reap

end Registry

namespace Server

/-- What the actors of a server do from one wait to the next, but for the counting of sessions. Sessions go on, the
registry handles messages, while some games stop, and looks after its games, and games handle messages. The registry
ends some time after it has been told to stop; unless it may be `late`, it has a deadline then. The spare number is not
used for a connection. -/
inductive ActorStep (spare : ConnectionId) (late : Bool) (s : Server) : Server → Prop
  | touch (c : ConnectionId) (f : Session → Session) :
      (∀ session, (f session).phase = .closed ↔ session.phase = .closed) → ActorStep spare late s (s.modifySession c f)
  | handles (q : RegistryRequest) (stopping : List String) : (∀ ref, q ≠ .register spare ref) →
      ActorStep spare late s { s with registry := (s.registry.handle q).2.checked stopping }
  | forsakes {a : Application} {m : Member} (stopping : List String) : s.registry.running = true →
      s.registry.accepting = true → s.registry.members.find? a.connection = some m → m.game = none →
      s.registry.games.find? a.game = none →
      ActorStep spare late s { s with registry := (s.registry.forsake a m.session).checked stopping }
  | message (ref : GameRef) (q : GameRequest) : q.Open →
      ActorStep spare late s { s with registry := (s.registry.askGame ref q).2 }
  | halt (name : String) : ActorStep spare late s { s with registry := s.registry.halt name }
  /-- The registry is told to stop, and goes on until it notices. -/
  | told : ActorStep spare late s { s with registry := s.registry.cancelAll }
  | ends : s.registry.running = true → s.registry.cancelled = true →
      (late = false → s.registry.deadline?.isSome = true) →
      ActorStep spare late s { s with registry := s.registry.finish }
  /-- Queues change, time passes, and whatever is measured but the gauges. -/
  | queues (x : Exchange) : s.exchange.telemetry.SameGauges x.telemetry →
      ActorStep spare late s { s with registry := { s.registry with exchange := x } }
  | cancels : ActorStep spare late s { s with sessionsCancelled := true }

/-- A session has begun and is not closed. -/
def HasOpen (s : Server) (c : ConnectionId) : Prop := ∃ session, s.session? c = some session ∧ session.phase ≠ .closed

def openCount (s : Server) : Nat := s.sessions.values.countP (·.phase ≠ .closed)

end Server

/-- A server whose sessions run beside each other. A session changes the count and sets the gauge in two steps,
and so it does when it is closed, after its last transition; between any two of these steps others may come. -/
structure Interleaving where
  server : Server
  /-- The sessions that are closed and have not been counted out. -/
  leaving : List ConnectionId
  /-- What sessions have counted, and have not set the gauge to yet. -/
  pending : List (Tally ConnectionId × UInt64)

namespace Interleaving

def start (capacity handshakeTimeout : Nat) : Interleaving :=
  { server := .create capacity handshakeTimeout, leaving := [], pending := [] }

/-- What may happen next. A session that has begun sets the gauge before it does anything else. Unless sessions
`overlap`, none is counted before the gauge has been set for the one before. -/
inductive Step (spare : ConnectionId) (overlap late : Bool) (t : Interleaving) : Interleaving → Prop
  | actor {after : Server} : t.server.ActorStep spare late after → Step spare overlap late t { t with server := after }
  | opens : t.server.takeIn.1 ≠ spare → (overlap = false → t.pending = []) →
      Step spare overlap late t
        { t with
          server := t.server.takeIn.2.2.measure (·.countOpened.2)
          pending := t.pending ++ [(.came t.server.takeIn.1, t.server.exchange.telemetry.countOpened.1)] }
  | closes {c : ConnectionId} {session : Session} (ending : Ending) : t.server.session? c = some session →
      session.phase = .closing → (∀ count, (.came c, count) ∉ t.pending) →
      Step spare overlap late t
        { t with server := t.server.close c session.ref ending, leaving := t.leaving ++ [c] }
  | leaves {c : ConnectionId} : c ∈ t.leaving → (overlap = false → t.pending = []) →
      Step spare overlap late t
        { server := t.server.measure (·.countClosed.2)
          leaving := t.leaving.erase c
          pending := t.pending ++ [(.went c, t.server.exchange.telemetry.countClosed.1)] }
  | shows {entry : Tally ConnectionId × UInt64} : entry ∈ t.pending →
      Step spare overlap late t
        { t with server := t.server.measure (·.showSessions entry.2), pending := t.pending.erase entry }

abbrev Steps (spare : ConnectionId) (overlap late : Bool) : Interleaving → Interleaving → Prop :=
  Relation.ReflTransGen (Step spare overlap late)

/-- The session has been counted in and not counted out. -/
def StillCounts (t : Interleaving) (c : ConnectionId) : Prop := t.server.HasOpen c ∨ c ∈ t.leaving

/-- What sessions have counted, the latest first, and what of it they have set the gauge to, again the latest first.
Every count is either exported once or pending. -/
structure Exports (t : Interleaving) (entries exported : List (Tally ConnectionId × UInt64)) : Prop where
  books : Books entries (· ∈ t.server.sessions.keys) t.StillCounts (t.server.openCount + t.leaving.length)
    t.server.exchange.telemetry.sessions
  shown : t.server.exchange.telemetry.journal.settings sessionsGauge = exported.map (·.2)
  counted : (t.pending ++ exported).Perm entries

end Interleaving

namespace Registry

/-- Games that stop and are taken out change neither the standing of the registry nor its record of connections. -/
theorem checked_same (r : Registry) (stopping : List String) :
    (r.checked stopping).standing = r.standing ∧
      ∀ c, (r.checked stopping).members.find? c = r.members.find? c := by
  have stopped : (stopping.foldl halt r).standing = r.standing ∧
      ∀ c, (stopping.foldl halt r).members.find? c = r.members.find? c := by
    induction stopping generalizing r with
    | nil => exact ⟨rfl, fun _ => rfl⟩
    | cons name stopping ih =>
      obtain ⟨standing, member⟩ := ih (r.halt name)
      have halted := r.halt_undergoes name
      exact ⟨standing.trans halted.standing, fun c => (member c).trans (halted.member c)⟩
  have reaped := reap_undergoes (stopping.foldl halt r)
  exact ⟨reaped.standing.trans stopped.1, fun c => (reaped.member c).trans (stopped.2 c)⟩

theorem running_checked (r : Registry) (stopping : List String) : (r.checked stopping).running = r.running :=
  congrArg Standing.running (r.checked_same stopping).1

end Registry

namespace Server

variable {spare : ConnectionId} {late : Bool} {s after : Server}

/-- No session is about to be counted, or to set the gauge. -/
def interleaving (s : Server) : Interleaving := { server := s, leaving := [], pending := [] }

/-- The server goes on step by step, and its sessions are counted one after another. -/
abbrev Goes (spare : ConnectionId) (late : Bool) (s after : Server) : Prop :=
  Interleaving.Steps spare false late s.interleaving after.interleaving

theorem ActorStep.goes (step : s.ActorStep spare late after) : Goes spare late s after := .single (.actor step)

theorem ask_goes {q : RegistryRequest} (other : ∀ ref, q ≠ .register spare ref) :
    Goes spare true s { s with registry := (s.registry.ask q).2 } := by
  cases running : s.registry.running with
  | false =>
    rw [Registry.ask_stopped running]
  | true =>
    have handled : Goes spare true s { s with registry := (s.registry.handle q).2.checked [] } :=
      ActorStep.goes (.handles q [] other)
    have still : ((s.registry.handle q).2.checked []).running = true := by
      have standing := (s.registry.handle_undergoes q).standing
      rw [if_pos running] at standing
      exact (Registry.running_checked ..).trans ((congrArg Standing.running standing).trans
        ((s.registry.standing_requestChange q s.registry.standing).2.1.trans running))
    have turns : (s.registry.ask q).2 = if ((s.registry.handle q).2.checked []).cancelled then
        ((s.registry.handle q).2.checked []).finish else (s.registry.handle q).2.checked [] := by
      rw [Registry.ask_eq_handle, running]
      rfl
    rw [turns]
    split
    · rename_i cancelled
      have ends : Goes spare true { s with registry := (s.registry.handle q).2.checked [] }
          { s with registry := ((s.registry.handle q).2.checked []).finish } :=
        ActorStep.goes (.ends still cancelled Bool.noConfusion)
      exact handled.trans ends
    · exact handled

theorem cancel_goes (s : Server) : Goes spare true s { s with registry := s.registry.cancel } := by
  rw [Registry.cancel]
  split
  · rename_i running
    have told : Goes spare true s { s with registry := s.registry.cancelAll } := ActorStep.goes .told
    have ends : Goes spare true { s with registry := s.registry.cancelAll }
        { s with registry := s.registry.cancelAll.finish } :=
      ActorStep.goes (.ends running rfl Bool.noConfusion)
    exact told.trans ends
  · exact .refl

theorem touch_goes (c : ConnectionId) {f : Session → Session}
    (same : ∀ session, (f session).phase = .closed ↔ session.phase = .closed) :
    Goes spare late s (s.modifySession c f) :=
  ActorStep.goes (.touch c f same)

theorem queues_goes (x : Exchange) (gauges : s.exchange.telemetry.SameGauges x.telemetry) :
    Goes spare late s { s with registry := { s.registry with exchange := x } } :=
  ActorStep.goes (.queues x gauges)

theorem phase_become {session : Session} {next : Phase} (on : next ≠ .closed) :
    (session.become next).phase = .closed ↔ session.phase = .closed := by
  rw [Session.become]
  split
  · rfl
  · split
    · rename_i allowed
      have before : session.phase ≠ .closed := by
        intro closed
        rw [closed] at allowed
        cases next <;> cases allowed
      simp [on, before]
    · rfl

theorem beginClosing_goes (spare : ConnectionId) (late : Bool) {c : ConnectionId} {session : Session}
    (found : s.session? c = some session) (isOpen : session.phase ≠ .closed) (ending : Ending)
    (farewell : Option Package) (peerFrame : Option CloseFrame) :
    Goes spare late s (s.beginClosing c session ending farewell peerFrame) ∧
      ∃ later, (s.beginClosing c session ending farewell peerFrame).session? c = some later ∧
        later.phase = .closing ∧ later.ref = session.ref := by
  obtain ⟨x, closing, _, telemetry⟩ := s.beginClosing_eq c session ending farewell peerFrame
  have gauges : s.exchange.telemetry.SameGauges x.telemetry := by
    rw [telemetry]
    split
    · exact .record _ rfl
    · exact .rfl
  rw [closing]
  refine ⟨(queues_goes x gauges).trans (touch_goes c fun _ => phase_become (by decide)), _,
    session?_modifySession_self found _, ?_, ?_⟩
  · cases phase : session.phase <;> simp_all [Session.deliver, Session.become, Phase.canBecome]
  · exact session.become_ref _

theorem conclude_goes {c : ConnectionId} {session : Session} (found : s.session? c = some session)
    (closing : session.phase = .closing) (ending : Ending) : Goes spare late s (s.conclude c session.ref ending) := by
  have closes : Interleaving.Step spare false late s.interleaving _ :=
    .closes ending found closing fun _ => List.not_mem_nil
  have leaves : Interleaving.Step spare false late _ _ :=
    .leaves (t := { s.interleaving with server := s.close c session.ref ending, leaving := [] ++ [c] })
      (List.mem_singleton_self c) fun _ => rfl
  have shows : Interleaving.Step spare false late _ _ :=
    .shows (t := ⟨(s.close c session.ref ending).measure (·.countClosed.2), [], _⟩)
      (List.mem_singleton_self (Tally.went c, (s.close c session.ref ending).exchange.telemetry.countClosed.1))
  simp only [List.nil_append, List.erase_cons_head] at leaves shows
  have counted := ((Relation.ReflTransGen.single closes).tail leaves).tail shows
  exact counted.trans (touch_goes c fun _ => Iff.rfl)

theorem finish_goes {c : ConnectionId} {session : Session} (found : s.session? c = some session)
    (isOpen : session.phase ≠ .closed) (ending : Ending) (farewell : Option Package) (peerFrame : Option CloseFrame) :
    Goes spare true s (s.finish c ending farewell peerFrame) := by
  obtain ⟨begins, later, closing, phase, ref⟩ := beginClosing_goes spare true found isOpen ending farewell peerFrame
  have same : s.finish c ending farewell peerFrame =
      (if ending = .registryUnavailable then s.beginClosing c session ending farewell peerFrame
        else (s.beginClosing c session ending farewell peerFrame).unregister c).conclude c session.ref ending := by
    rw [finish, found]
  rw [same, ← ref]
  split
  · exact begins.trans (conclude_goes closing phase ending)
  · have told : Goes spare true s ((s.beginClosing c session ending farewell peerFrame).unregister c) := by
      rw [unregister, Registry.send_unregister]
      exact (begins.trans (ask_goes fun _ => RegistryRequest.noConfusion)).trans (touch_goes c fun _ => Iff.rfl)
    have noted : ((s.beginClosing c session ending farewell peerFrame).unregister c).session? c =
        some (later.note .unregistered) :=
      session?_modifySession_self (s := { s.beginClosing c session ending farewell peerFrame with registry := _ })
        closing _
    have still : (later.note .unregistered).phase = .closing := phase
    exact told.trans (conclude_goes noted still ending)

/-- All moves but the messages that register the spare number are made of steps. -/
theorem Move.goes {foreign : ConnectionId → Prop} (move : Move foreign s after) (own : ¬foreign spare) :
    Goes spare true s after := by
  cases move with
  | queues x widens => exact queues_goes x widens.gauges
  | cancelled => exact ActorStep.goes .cancels
  | touch c f same =>
    refine touch_goes c fun session => ?_
    rw [show (f session).phase = session.phase from congrArg Course.phase (same session)]
  | upgrade => exact touch_goes _ fun _ => phase_become (by decide)
  | finish ending farewell peerFrame found live =>
    refine finish_goes found (fun closed => ?_) ending farewell peerFrame
    rcases Session.isLive_iff.mp live with pending | active
    · cases closed.symm.trans pending
    · cases closed.symm.trans active
  | ask q isForeign =>
    refine ask_goes fun ref same => ?_
    subst same
    exact own isForeign
  | message ref q isOpen => exact ActorStep.goes (.message ref q isOpen)
  | halt name => exact ActorStep.goes (.halt name)
  | stop => exact cancel_goes s

theorem Moves.goes {foreign : ConnectionId → Prop} (moves : Moves foreign s after) (own : ¬foreign spare) :
    Goes spare true s after := by
  induction moves with
  | refl => exact .refl
  | tail _ move ih => exact ih.trans (move.goes own)

theorem openSession_goes (own : s.openSession.1 ≠ spare) : Goes spare late s s.openSession.2.2 := by
  have opens : Interleaving.Step spare false late s.interleaving _ := .opens own fun _ => rfl
  have shows : Interleaving.Step spare false late _ _ :=
    .shows (t := ⟨s.takeIn.2.2.measure (·.countOpened.2), [], _⟩)
      (List.mem_singleton_self (Tally.came s.takeIn.1, s.exchange.telemetry.countOpened.1))
  simp only [List.erase_cons_head] at shows
  have same : s.takeIn.2.2.exchange.telemetry = s.exchange.telemetry := by
    obtain ⟨x, telemetry, _, _, opens⟩ := s.takeIn_opens
    rw [opens]
    exact telemetry
  have counted := (Relation.ReflTransGen.single opens).tail shows
  rw [← same] at counted
  exact counted

theorem connect_goes (own : s.openSession.1 ≠ spare) : Goes spare true s s.connect.2 := by
  have opened : Goes spare true s s.openSession.2.2 := openSession_goes own
  have there := s.session?_openSession
  rw [connect]
  generalize s.openSession = started at own opened there ⊢
  obtain ⟨c, ref, s₁⟩ := started
  obtain ⟨session, found, phase⟩ := there
  have registered : Goes spare true s { s₁ with registry := (s₁.registry.send fun r => ((), r.register c ref)).2 } := by
    rw [Registry.send_register]
    refine opened.trans (ask_goes fun ref' same => own ?_)
    cases same
    rfl
  have found : ({ s₁ with registry := (s₁.registry.send fun r => ((), r.register c ref)).2 } : Server).session? c =
      some session := found
  simp only
  split
  · exact registered.trans (finish_goes found (by rw [phase]; decide) _ _ _)
  · have pending := registered.trans (touch_goes c (f := fun session =>
      (session.note .registered).become .handshakePending) fun _ => phase_become (by decide))
    have waits : ∀ t : Server, Moves (fun _ => False) t (elapse 0 t.settle c).settle := fun t =>
      ((settle_moves t).trans (elapse_moves 0 _ c)).trans (settle_moves _)
    exact pending.trans ((waits _).goes id)

/-- As long as a run does not use the spare number. -/
def Spares (spare : ConnectionId) (s : Server) : List Incident → Prop
  | [] => True
  | i :: run =>
    (match i with
      | .event .connect => s.openSession.1 ≠ spare
      | .request q => ∀ ref, q ≠ .register spare ref
      | .message _ q => q.Open
      | _ => True) ∧ (s.undergo i).Spares spare run

theorem after_goes {run : List Incident} (spares : s.Spares spare run) : Goes spare true s (s.after run) := by
  induction run generalizing s with
  | nil => exact .refl
  | cons i run ih =>
    refine Relation.ReflTransGen.trans ?_ (ih spares.2)
    have ordinary : ∀ {i : Incident}, i.Fits (fun _ => False) s → i ≠ .event .connect →
        Goes spare true s (s.undergo i) :=
      fun fits other => Moves.goes (undergo_moves fits other) id
    have here := spares.1
    cases i with
    | event event =>
      cases event with
      | connect => exact connect_goes here
      | _ => exact ordinary trivial (by simp)
    | request q => exact ask_goes here
    | message game q => exact ActorStep.goes (.message game q here)
    | stop => exact cancel_goes s
    | _ => exact ordinary trivial Incident.noConfusion

end Server

end Scrimmage
