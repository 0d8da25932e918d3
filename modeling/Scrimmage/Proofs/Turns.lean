import Scrimmage.Proofs.InternalSteps

namespace Scrimmage

open Text

/-- A session goes on, and nobody reads anything of it. -/
structure Session.KeepsStill (f : Session → Session) : Prop where
  course : ∀ session, (f session).course = session.course
  game : ∀ session, (f session).game = session.game
  texts : ∀ session, texts (f session).sent = texts session.sent

theorem Session.Undisturbed.keepsStill {f : Session → Session} (undisturbed : Undisturbed f) : KeepsStill f :=
  ⟨undisturbed.course, undisturbed.game, fun session => by
    rw [← texts_audible, undisturbed.audible session, texts_audible]⟩

/-- The answer to a join: the id that came with it, and what has come of it. -/
structure Answer where
  id : Option Json.Value
  result : JoinResult

def Answer.package (a : Answer) : Package := (Notice.joinResult a.id a.result).encode

namespace Registry

/-- What comes of an application. -/
def outcome (r : Registry) (a : Application) : Except Failure Admission := (r.send (·.join a)).1.bind id

/-- The answer to a message from outside every game, unless it is no join or one that is the last. -/
def answerTo? (r : Registry) (c : ConnectionId) (payload : List UInt8) : Option Answer :=
  match JoinRequest.decode payload with
  | .error _ => none
  | .ok q =>
    match r.outcome (q.application c) with
    | .ok admission => some { id := q.id, result := .joined admission.placement.slot admission.placement.players }
    | .error failure => if failure.isRejection then some { id := q.id, result := .full } else none

end Registry

namespace Server

/-- The answer to a frame, with the client that it is for. -/
def answers (s : Server) (c : ConnectionId) (frame : ClientFrame) : List (ConnectionId × Answer) :=
  match s.session? c with
  | none => []
  | some session =>
    if session.phase = .active ∧ session.game = none then
      ((frame.checked.payload?.bind (s.registry.answerTo? c)).map fun a => (c, a)).toList
    else []

/-- One thing that the server does, with the joins that are answered by it: one of its internal steps, a frame
that is relayed, or an answer to someone who is in no game. No packages are relayed but those allowed. -/
inductive Turn (allowed : Package → Prop) (s : Server) : List (ConnectionId × Answer) → Server → Prop
  | pass (duration : Nat) : Turn allowed s [] (s.modifyExchange (·.pass duration))
  | cancel (refs : List SessionRef) : Turn allowed s []
      ({ s with sessionsCancelled := true }.modifyExchange fun x => refs.foldl Exchange.cancel x)
  | touch (c : ConnectionId) {f : Session → Session} : Session.KeepsStill f → Turn allowed s [] (s.modifySession c f)
  | upgrade {c : ConnectionId} {session : Session} : s.session? c = some session →
      session.phase = .handshakePending → Turn allowed s [] (s.modifySession c (·.become .active))
  | pump {c : ConnectionId} {session : Session} : s.session? c = some session → session.phase = .active →
      Turn allowed s [] (s.pumpSession c session)
  | finish {c : ConnectionId} {session : Session} (ending : Ending) (farewell : Option Package)
      (peerFrame : Option CloseFrame) : s.session? c = some session → session.isLive = true →
      ending ≠ .registryUnavailable → (∀ p ∈ farewell, p.IsWarning) →
      Turn allowed s [] (s.finish c ending farewell peerFrame)
  | relay (ref : GameRef) {p : Package} : allowed p →
      Turn allowed s [] { s with registry := (s.registry.askGame ref (.broadcast p)).2 }
  /-- A message from outside every game. -/
  | lobby {c : ConnectionId} {session : Session} (payload : List UInt8) : s.session? c = some session →
      session.phase = .active → session.game = none →
      Turn allowed s ((s.registry.answerTo? c payload).map fun a => (c, a)).toList (s.receivePayload c session payload)

/-- Turns one after another, with all joins that are answered by them. Whatever a client does comes to such a
run. -/
inductive Turns (allowed : Package → Prop) (s : Server) : List (ConnectionId × Answer) → Server → Prop
  | refl : Turns allowed s [] s
  | tail {answers more : List (ConnectionId × Answer)} {between after : Server} : Turns allowed s answers between →
      Turn allowed between more after → Turns allowed s (answers ++ more) after

variable {allowed : Package → Prop} {s : Server} {c : ConnectionId} {session : Session}

theorem Turn.turns {answers : List (ConnectionId × Answer)} {after : Server} (turn : Turn allowed s answers after) :
    Turns allowed s answers after := .tail .refl turn

theorem Turns.trans {answers more : List (ConnectionId × Answer)} {between after : Server}
    (first : Turns allowed s answers between) (second : Turns allowed between more after) :
    Turns allowed s (answers ++ more) after := by
  induction second with
  | refl => rwa [List.append_nil]
  | tail _ turn ih =>
    rw [← List.append_assoc]
    exact ih.tail turn

theorem Turns.then {answers : List (ConnectionId × Answer)} {between after : Server}
    (first : Turns allowed s answers between) (second : Turns allowed between [] after) :
    Turns allowed s answers after := by
  have both := first.trans second
  rwa [List.append_nil] at both

theorem InternalStep.turn {after : Server} (step : InternalStep s after) : Turn allowed s [] after := by
  cases step with
  | pass duration => exact .pass duration
  | cancel refs => exact .cancel refs
  | touch c undisturbed => exact .touch c undisturbed.keepsStill
  | upgrade found pending => exact .upgrade found pending
  | pump found active => exact .pump found active
  | finish found live breaksOff => exact .finish _ _ _ found live breaksOff.known breaksOff.warning

theorem InternalSteps.turns {after : Server} (steps : InternalSteps s after) : Turns allowed s [] after := by
  induction steps with
  | refl => exact .refl
  | tail _ step ih => exact ih.trans step.turn.turns

theorem tend_turns (s : Server) (c : ConnectionId) : Turns allowed s [] (s.tend c) := (tend_internalSteps s c).turns

theorem tendAll_turns (s : Server) : Turns allowed s [] s.tendAll := (tendAll_internalSteps s).turns

theorem tendRounds_turns (rounds : Nat) (s : Server) : Turns allowed s [] (tendRounds rounds s) :=
  (tendRounds_internalSteps rounds s).turns

theorem settle_turns (s : Server) : Turns allowed s [] s.settle := (settle_internalSteps s).turns

theorem elapse_turns (milliseconds : Nat) (s : Server) (c : ConnectionId) :
    Turns allowed s [] (elapse milliseconds s c) :=
  (elapse_internalSteps milliseconds s c).turns

theorem advance_turns (s : Server) (milliseconds : Nat) : Turns allowed s [] (s.advance milliseconds) :=
  (advance_internalSteps s milliseconds).turns

theorem handshake_turns (s : Server) (c : ConnectionId) : Turns allowed s [] (s.handshake c).2 :=
  (handshake_internalSteps s c).turns

theorem clientDrop_turns (s : Server) (c : ConnectionId) : Turns allowed s [] (s.clientDrop c).2 :=
  (clientDrop_internalSteps s c).turns

theorem cancelSessions_turns (s : Server) : Turns allowed s [] s.cancelSessions :=
  (cancelSessions_internalSteps s).turns

theorem relay_turns (found : s.session? c = some session) (active : session.phase = .active) {game : GameRef}
    (inside : session.game = some game) {payload : List UInt8} (relayed : allowed ⟨payload⟩) :
    Turns allowed s [] (s.receivePayload c session payload) := by
  simp only [receivePayload, inside]
  split
  · exact .refl
  · rename_i p text
    have same : p = ⟨payload⟩ := by
      rw [Package.ofUtf8] at text
      split at text
      · exact (Except.ok.inj text).symm
      · cases text
    subst same
    have handled : Turns allowed s [] { s with registry := (s.registry.askGame game (.broadcast ⟨payload⟩)).2 } :=
      (Turn.relay game relayed).turns
    split
    · exact handled
    · have ends : Turn allowed _ [] _ := .finish .terminated (some Notice.shuttingDown.encode) none
        (s := { s with registry := (s.registry.askGame game (.broadcast ⟨payload⟩)).2 }) found
        (Session.isLive_of_active active) (by decide) fun p told => Option.some.inj told ▸ Notice.isWarning_shuttingDown
      exact handled.trans ends.turns

theorem receive_turns (s : Server) (c : ConnectionId) (frame : ClientFrame)
    (relayed : ∀ payload, frame.checked.payload? = some payload → allowed ⟨payload⟩) :
    Turns allowed s (s.answers c frame) (s.receive c frame) := by
  cases message : frame.checked.payload? with
  | none =>
    have silent : s.answers c frame = [] := by
      simp only [answers, message, Option.bind_none, Option.map_none, Option.toList_none, ite_self]
      split <;> rfl
    rw [silent]
    exact (receive_internalSteps s c message).turns
  | some payload =>
    by_cases active : ∃ session, s.session? c = some session ∧ session.phase = .active
    · obtain ⟨session, found, active⟩ := active
      rw [receive_payload found active message]
      simp only [answers, found, message, Option.bind_some]
      cases game : session.game with
      | none =>
        rw [if_pos ⟨active, rfl⟩]
        exact (Turn.lobby payload found active game).turns
      | some ref =>
        rw [if_neg (by simp)]
        exact relay_turns found active game (relayed payload message)
    · have idle : ∀ session, s.session? c = some session → session.phase ≠ .active :=
        fun session found phase => active ⟨session, found, phase⟩
      have silent : s.answers c frame = [] := by
        rw [answers]
        split
        · rfl
        · rename_i session found
          exact if_neg fun both => idle session found both.1
      rw [receive_idle idle, silent]
      exact .refl

/-- A client sends one frame, which is answered if the server listens to the client. -/
theorem clientSend_turns (s : Server) (c : ConnectionId) (frame : ClientFrame)
    (relayed : ∀ payload, frame.checked.payload? = some payload → allowed ⟨payload⟩) :
    Turns allowed s (if s.listens c then s.answers c frame else []) (s.clientSend c [frame]).2 := by
  rw [clientSend, ← listens]
  split
  · exact (receive_turns s c frame relayed).then (settle_turns _)
  · exact .refl

/-- The frame that the server makes of a violation, once it is complete. -/
def Violation.frame? : Violation → Option ClientFrame
  | .invalidFrame => some .invalid
  | .fragmented payload => some (.text payload)
  | .noHandshake | .partialHandshake | .partialFrame => none

theorem violate_turns (s : Server) (c : ConnectionId) (violation : Violation)
    (relayed : ∀ frame ∈ violation.frame?, ∀ payload, frame.checked.payload? = some payload → allowed ⟨payload⟩) :
    Turns allowed s ((violation.frame?.map (s.answers c)).getD []) (s.violate c violation) := by
  cases violation with
  | noHandshake => exact (failHandshake_internalSteps s c).turns
  | partialHandshake => exact (touch_internalSteps s c Session.undisturbed_spoiled).turns
  | invalidFrame => exact (receive_turns s c _ (relayed _ rfl)).then (settle_turns _)
  | partialFrame => exact .refl
  | fragmented payload => exact (receive_turns s c _ (relayed _ rfl)).then (settle_turns _)

end Server

end Scrimmage
