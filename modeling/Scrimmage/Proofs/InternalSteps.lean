import Scrimmage.Proofs.Clients

namespace Scrimmage

open Text

/-- What there is to say of a session but for its client and its game. -/
structure Course where
  ref : SessionRef
  phase : Phase
  history : List (Phase × Phase)
  refused : List (Phase × Phase)
  deeds : List Deed
  ending : Option Ending

def Course.isLive (t : Course) : Bool := t.phase = .handshakePending || t.phase = .active

namespace Session

def course (session : Session) : Course :=
  { ref := session.ref, phase := session.phase, history := session.history, refused := session.refused,
    deeds := session.deeds, ending := session.ending }

theorem ref_of_course {session other : Session} (same : session.course = other.course) : session.ref = other.ref :=
  congrArg Course.ref same

theorem isLive_of_course {session other : Session} (same : session.course = other.course) :
    session.isLive = other.isLive :=
  congrArg Course.isLive same

end Session

/-- Whether a frame answers a ping. -/
def ServerFrame.isPong : ServerFrame → Bool
  | .pong _ => true
  | _ => false

/-- What a client hears of its session; an answer to a ping says nothing. -/
def audible (frames : List ServerFrame) : List ServerFrame := frames.filter (!·.isPong)

theorem audible_append (frames more : List ServerFrame) : audible (frames ++ more) = audible frames ++ audible more :=
  List.filter_append ..

theorem texts_audible (frames : List ServerFrame) : texts (audible frames) = texts frames := by
  rw [texts, audible, List.filterMap_filter, texts]
  refine congrArg (List.filterMap · frames) (funext fun frame => ?_)
  cases frame <;> rfl

/-- A session goes on in its game, and its client hears nothing. -/
structure Session.Undisturbed (f : Session → Session) : Prop where
  course : ∀ session, (f session).course = session.course
  game : ∀ session, (f session).game = session.game
  audible : ∀ session, audible (f session).sent = audible session.sent

namespace Session

theorem undisturbed_client (client : ClientEnd) : Undisturbed fun session => { session with client } :=
  ⟨fun _ => rfl, fun _ => rfl, fun _ => rfl⟩

theorem undisturbed_waited (waited : Nat) : Undisturbed fun session => { session with waited } :=
  ⟨fun _ => rfl, fun _ => rfl, fun _ => rfl⟩

theorem undisturbed_spoiled : Undisturbed fun session => { session with spoiled := true } :=
  ⟨fun _ => rfl, fun _ => rfl, fun _ => rfl⟩

theorem undisturbed_pong (payload : List UInt8) : Undisturbed (·.deliver [.pong payload]) :=
  ⟨fun _ => rfl, fun _ => rfl, fun session => (audible_append session.sent _).trans (List.append_nil _)⟩

end Session

/-- What the server says of its own accord. -/
def Package.IsWarning (p : Package) : Prop := ∃ message closed, p = (Notice.warning message closed).encode

theorem Notice.isWarning_unidentified : Notice.unidentified.encode.IsWarning := ⟨_, _, rfl⟩

theorem Notice.isWarning_shuttingDown : Notice.shuttingDown.encode.IsWarning := ⟨_, _, rfl⟩

/-- A session that ends otherwise than by a command ends with a warning or without a last word, and with the
close of its client if that is what ends it. -/
structure Ending.BreaksOff (ending : Ending) (farewell : Option Package) (peerFrame : Option CloseFrame) : Prop where
  known : ending ≠ .registryUnavailable
  uncalled : ending ≠ .requested
  warning : ∀ p ∈ farewell, p.IsWarning
  own : ∀ frame ∈ peerFrame, ending = .peerClosed

theorem Ending.breaksOff_silently {ending : Ending} (known : ending ≠ .registryUnavailable)
    (uncalled : ending ≠ .requested) : ending.BreaksOff none none :=
  ⟨known, uncalled, by rintro _ ⟨⟩, by rintro _ ⟨⟩⟩

theorem Ending.breaksOff_warning {ending : Ending} (known : ending ≠ .registryUnavailable)
    (uncalled : ending ≠ .requested) {p : Package} (warning : p.IsWarning) : ending.BreaksOff (some p) none :=
  ⟨known, uncalled, fun _ same => Option.some.inj same ▸ warning, by rintro _ ⟨⟩⟩

theorem ending_pump {commands : List Command} {ending : Ending} (ends : (pump commands).ending = some ending) :
    ending ≠ .registryUnavailable := by
  induction commands with
  | nil => cases ends
  | cons command commands ih =>
    cases command with
    | close reason =>
      cases ends
      decide
    | write p =>
      rw [pump] at ends
      split at ends
      · cases ends
        decide
      · exact ih ends

namespace Server

/-- What a server does for its sessions of its own accord: queues are emptied, and sessions become active, are
told to stop, or end. Whatever a client does comes to such steps one after another, and to the payload of one
frame at most. -/
inductive InternalStep (s : Server) : Server → Prop
  | pass (duration : Nat) : InternalStep s (s.modifyExchange (·.pass duration))
  | cancel (refs : List SessionRef) :
      InternalStep s ({ s with sessionsCancelled := true }.modifyExchange fun x => refs.foldl Exchange.cancel x)
  | touch (c : ConnectionId) {f : Session → Session} : Session.Undisturbed f → InternalStep s (s.modifySession c f)
  | upgrade {c : ConnectionId} {session : Session} : s.session? c = some session →
      session.phase = .handshakePending → InternalStep s (s.modifySession c (·.become .active))
  | pump {c : ConnectionId} {session : Session} : s.session? c = some session → session.phase = .active →
      InternalStep s (s.pumpSession c session)
  | finish {c : ConnectionId} {session : Session} {ending : Ending} {farewell : Option Package}
      {peerFrame : Option CloseFrame} : s.session? c = some session → session.isLive = true →
      ending.BreaksOff farewell peerFrame → InternalStep s (s.finish c ending farewell peerFrame)

/-- One internal step after another. -/
abbrev InternalSteps : Server → Server → Prop := Relation.ReflTransGen InternalStep

variable {s : Server} {c : ConnectionId} {session : Session}

theorem InternalSteps.foldl {α : Type} {f : Server → α → Server} (steps : ∀ s a, InternalSteps s (f s a)) (s : Server)
    (l : List α) : InternalSteps s (l.foldl f s) := by
  induction l generalizing s with
  | nil => exact .refl
  | cons a l ih => exact (steps s a).trans (ih (f s a))

theorem session?_modifySession_self (found : s.session? c = some session) (f : Session → Session) :
    (s.modifySession c f).session? c = some (f session) :=
  Table.modify_find? f found

theorem touch_internalSteps (s : Server) (c : ConnectionId) {f : Session → Session}
    (undisturbed : Session.Undisturbed f) :
    InternalSteps s (s.modifySession c f) :=
  .single (.touch c undisturbed)

theorem finish_internalSteps (found : s.session? c = some session) (live : session.isLive = true) {ending : Ending}
    (known : ending ≠ .registryUnavailable) (uncalled : ending ≠ .requested) :
    InternalSteps s (s.finish c ending none none) :=
  .single (.finish found live (Ending.breaksOff_silently known uncalled))

/-- The server after a session has taken what waits for it, up to a command that ends the session. -/
def drained (s : Server) (c : ConnectionId) (session : Session) : Server :=
  let pumped := pump (s.exchange.waiting session.ref)
  (s.modifyExchange (·.modifyOutbox session.ref (·.drop pumped.taken))).modifySession c
    (·.deliver (pumped.texts.map .text))

theorem pumpSession_eq (s : Server) (c : ConnectionId) (session : Session) :
    s.pumpSession c session =
      match (pump (s.exchange.waiting session.ref)).ending with
      | none => s.drained c session
      | some ending => (s.drained c session).finish c ending none none := rfl

theorem session?_drained (found : s.session? c = some session) :
    (s.drained c session).session? c =
      some (session.deliver ((pump (s.exchange.waiting session.ref)).texts.map .text)) :=
  session?_modifySession_self (s := s.modifyExchange _) found _

theorem tend_internalSteps (s : Server) (c : ConnectionId) : InternalSteps s (s.tend c) := by
  rw [tend]
  split
  · exact .refl
  · rename_i session found
    split
    · exact .refl
    · rename_i live
      have live : session.isLive = true := by simpa using live
      split
      · exact .single (.finish found live
          (Ending.breaksOff_warning (by decide) (by decide) Notice.isWarning_shuttingDown))
      · split
        · rename_i active
          exact .single (.pump found active)
        · exact .refl

theorem tendAll_internalSteps (s : Server) : InternalSteps s s.tendAll := .foldl tend_internalSteps s _

theorem tendRounds_internalSteps (rounds : Nat) (s : Server) : InternalSteps s (tendRounds rounds s) := by
  induction rounds generalizing s with
  | zero => exact .refl
  | succ rounds ih => exact s.tendAll_internalSteps.trans (ih _)

theorem settle_internalSteps (s : Server) : InternalSteps s s.settle := tendRounds_internalSteps ..

theorem elapse_internalSteps (milliseconds : Nat) (s : Server) (c : ConnectionId) :
    InternalSteps s (elapse milliseconds s c) := by
  rw [elapse]
  split
  · exact .refl
  · rename_i session found
    split
    · rename_i pending
      have waits := touch_internalSteps s c (Session.undisturbed_waited (session.waited + milliseconds))
      simp only
      split
      · have live := Session.isLive_iff.mpr (Or.inl pending)
        exact waits.trans (finish_internalSteps (session?_modifySession_self found _) live (by decide) (by decide))
      · exact waits
    · exact .refl

theorem advance_internalSteps (s : Server) (milliseconds : Nat) : InternalSteps s (s.advance milliseconds) :=
  ((InternalSteps.foldl (elapse_internalSteps milliseconds) _ _).head (.pass _)).trans (settle_internalSteps _)

theorem failHandshake_internalSteps (s : Server) (c : ConnectionId) : InternalSteps s (s.failHandshake c) := by
  rw [failHandshake]
  split
  · exact .refl
  · rename_i session found
    split
    · rename_i pending
      have live := Session.isLive_iff.mpr (Or.inl pending)
      exact (finish_internalSteps found live (by decide) (by decide)).trans (settle_internalSteps _)
    · exact .refl

theorem upgrade_internalSteps (found : s.session? c = some session) (pending : session.phase = .handshakePending) :
    InternalSteps s (s.modifySession c fun session => { session.become .active with client := .upgraded }) := by
  have upgraded := (Relation.ReflTransGen.single (InternalStep.upgrade found pending)).trans
    (touch_internalSteps _ c (Session.undisturbed_client .upgraded))
  rwa [modifySession_modifySession] at upgraded

theorem handshake_internalSteps (s : Server) (c : ConnectionId) : InternalSteps s (s.handshake c).2 := by
  rw [handshake]
  split
  · exact .refl
  · rename_i session found
    split
    · exact .refl
    · split
      · rename_i ready
        have pending : session.phase = .handshakePending := of_decide_eq_true (Bool.and_eq_true_iff.mp ready).1
        exact (upgrade_internalSteps found pending).trans (settle_internalSteps _)
      · exact (failHandshake_internalSteps s c).trans (touch_internalSteps _ c (Session.undisturbed_client .gone))

theorem lineCut_internalSteps (s : Server) (c : ConnectionId) : InternalSteps s (s.lineCut c) := by
  rw [lineCut]
  split
  · exact .refl
  · rename_i session found
    split
    · rename_i pending
      exact finish_internalSteps found (Session.isLive_iff.mpr (Or.inl pending)) (by decide) (by decide)
    · rename_i active
      exact finish_internalSteps found (Session.isLive_of_active active) (by decide) (by decide)
    · exact .refl

theorem clientDrop_internalSteps (s : Server) (c : ConnectionId) : InternalSteps s (s.clientDrop c).2 := by
  rw [clientDrop]
  split
  · exact ((touch_internalSteps s c (Session.undisturbed_client .gone)).trans (lineCut_internalSteps _ c)).trans
      (settle_internalSteps _)
  · exact .refl

theorem cancelSessions_internalSteps (s : Server) : InternalSteps s s.cancelSessions :=
  (Relation.ReflTransGen.single (InternalStep.cancel _)).trans (settle_internalSteps _)

theorem receive_payload (found : s.session? c = some session) (active : session.phase = .active) {frame : ClientFrame}
    {payload : List UInt8} (message : frame.checked.payload? = some payload) :
    s.receive c frame = s.receivePayload c session payload := by
  simp only [receive, found, active, if_true]
  cases checked : frame.checked with
  | text octets =>
    rw [checked, ClientFrame.payload?] at message
    split at message
    · rename_i valid
      cases message
      cases decoded : Utf8.decode payload with
      | ok cs => simp only [decoded]
      | error fault => cases (congrArg Except.isOk decoded).symm.trans valid
    · cases message
  | binary octets =>
    rw [checked, ClientFrame.payload?] at message
    cases message
    rfl
  | ping | pong | close | invalid =>
    rw [checked] at message
    cases message

theorem receive_internalSteps (s : Server) (c : ConnectionId) {frame : ClientFrame}
    (nothing : frame.checked.payload? = none) : InternalSteps s (s.receive c frame) := by
  rw [receive]
  split
  · exact .refl
  · rename_i session found
    split
    · rename_i active
      have live := Session.isLive_of_active active
      cases checked : frame.checked with
      | text payload =>
        rw [checked, ClientFrame.payload?] at nothing
        split at nothing
        · cases nothing
        · rename_i bad
          cases valid : Utf8.decode payload with
          | ok cs => exact absurd (by rw [valid]; rfl) bad
          | error fault =>
            simp only [valid]
            exact finish_internalSteps found live (by decide) (by decide)
      | binary payload =>
        rw [checked] at nothing
        cases nothing
      | ping payload => exact touch_internalSteps s c (Session.undisturbed_pong payload)
      | pong payload => exact .refl
      | close frame =>
        exact .single (.finish found live ⟨by decide, by decide, by rintro _ ⟨⟩, fun _ _ => rfl⟩)
      | invalid => exact finish_internalSteps found live (by decide) (by decide)
    · exact .refl

theorem receive_idle (idle : ∀ session, s.session? c = some session → session.phase ≠ .active) (frame : ClientFrame) :
    s.receive c frame = s := by
  rw [receive]
  split
  · rfl
  · rename_i session found
    rw [if_neg (idle session found)]

/-- The payload of a frame, with the session that takes it in. -/
def payload? (s : Server) (c : ConnectionId) (frame : ClientFrame) : Option (Session × List UInt8) :=
  (s.session? c).bind fun session =>
    if session.phase = .active then frame.checked.payload?.map fun payload => (session, payload) else none

theorem receive_of_payload? {frame : ClientFrame} {payload : List UInt8}
    (takes : s.payload? c frame = some (session, payload)) :
    s.session? c = some session ∧ session.phase = .active ∧ s.receive c frame = s.receivePayload c session payload := by
  rw [payload?, Option.bind_eq_some_iff] at takes
  obtain ⟨other, found, takes⟩ := takes
  split at takes
  · rename_i active
    obtain ⟨message, checked, same⟩ := Option.map_eq_some_iff.mp takes
    cases same
    exact ⟨found, active, receive_payload found active checked⟩
  · cases takes

theorem receive_internalSteps_of_none {frame : ClientFrame} (nothing : s.payload? c frame = none) :
    InternalSteps s (s.receive c frame) := by
  by_cases active : ∃ session, s.session? c = some session ∧ session.phase = .active
  · obtain ⟨session, found, active⟩ := active
    rw [payload?, found, Option.bind_some, if_pos active, Option.map_eq_none_iff] at nothing
    exact receive_internalSteps s c nothing
  · rw [receive_idle fun session found phase => active ⟨session, found, phase⟩]

end Server

end Scrimmage
