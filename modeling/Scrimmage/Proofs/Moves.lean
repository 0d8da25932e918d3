import Scrimmage.Proofs.Gauge
import Scrimmage.Proofs.Numbers
import Scrimmage.Proofs.Turns

namespace Scrimmage

/-- The number of sessions is the same, and no queue goes. -/
structure Exchange.Retains (x y : Exchange) : Prop where
  sessions : y.telemetry.sessions = x.telemetry.sessions
  queue : ∀ s, (x.outbox? s).isSome = true → (y.outbox? s).isSome = true

/-- The gauges have not been set either. -/
structure Exchange.Widens (x y : Exchange) : Prop extends x.Retains y where
  gauges : x.telemetry.SameGauges y.telemetry

namespace Exchange

theorem Widens.of_gauges {x y : Exchange} (gauges : x.telemetry.SameGauges y.telemetry)
    (queue : ∀ s, (x.outbox? s).isSome = true → (y.outbox? s).isSome = true) : x.Widens y :=
  ⟨⟨gauges.sessions, queue⟩, gauges⟩

theorem widens_modifyOutbox (x : Exchange) (s : SessionRef) (f : Outbox → Outbox) :
    x.Widens (x.modifyOutbox s f) := by
  refine .of_gauges .rfl fun t there => ?_
  rw [outbox?_modifyOutbox]
  split
  · rwa [Option.isSome_map]
  · exact there

theorem widens_offer (x : Exchange) (s : SessionRef) (command : Command) : x.Widens (x.offer s command) := by
  refine .of_gauges (.of_eq (telemetry_offer ..)) fun t there => ?_
  rwa [outbox?_offer, Option.isSome_map]

theorem widens_measure (x : Exchange) {f : Telemetry → Telemetry} (gauges : ∀ t : Telemetry, t.SameGauges (f t)) :
    x.Widens (x.measure f) :=
  .of_gauges (gauges _) fun _ there => there

theorem widens_openOutbox (x : Exchange) (c : ConnectionId) : x.Widens (x.openOutbox c).2 := by
  refine .of_gauges .rfl fun s there => ?_
  obtain ⟨o, queue⟩ := Option.isSome_iff_exists.mp there
  have inside : s.queue < x.outboxes.length := (List.getElem?_eq_some_iff.mp queue).1
  rw [openOutbox, outbox?, List.getElem?_append_left inside]
  exact there

theorem Widens.foldl {α : Type} {f : Exchange → α → Exchange} (step : ∀ x a, Widens x (f x a)) (x : Exchange)
    (l : List α) : x.Widens (l.foldl f x) := by
  induction l generalizing x with
  | nil => exact .of_gauges .rfl fun _ there => there
  | cons a l ih =>
    have rest := ih (f x a)
    exact .of_gauges ((step x a).gauges.trans rest.gauges) fun s there => rest.queue s ((step x a).queue s there)

end Exchange

/-- A message of someone who is no session. Some connections are this one's own to register and to unregister, and
the registry is told to stop only when no session is left. -/
def RegistryRequest.IsForeign (foreign : ConnectionId → Prop) (s : Server) : RegistryRequest → Prop
  | .register c _ | .unregister c => foreign c
  | .join _ | .listing _ | .summary => True
  | .shutdown _ => s.liveCount = 0

theorem Registry.send_congr {α β : Type} {r : Registry} {f : Registry → α × Registry} {g : Registry → β × Registry}
    (same : ∀ r, (f r).2 = (g r).2) : (r.send f).2 = (r.send g).2 := by
  simp only [send, serve]
  split
  · simp only [same]
  · rfl

namespace Registry

variable (r : Registry) (c : ConnectionId)

theorem send_register (session : SessionRef) :
    (r.send fun r => ((), r.register c session)).2 = (r.ask (.register c session)).2 :=
  send_congr fun _ => rfl

theorem send_unregister : (r.send (·.unregister c)).2 = (r.ask (.unregister c)).2 := send_congr fun _ => rfl

theorem send_beginShutdown (timeout : Nat) :
    (r.send fun r => ((), r.beginShutdown timeout)).2 = (r.ask (.shutdown timeout)).2 :=
  send_congr fun _ => rfl

theorem ask_join (a : Application) : (r.ask (.join a)).2 = (r.send (·.join a)).2 := send_congr fun _ => rfl

end Registry

namespace Server

/-- What a server does, taken apart as far as the records of sessions and the registry are concerned: queues
change, a session changes in what does not concern its course, becomes active or ends, and the registry or a
game gets a message. Some connections are none of the server's sessions. -/
inductive Move (foreign : ConnectionId → Prop) (s : Server) : Server → Prop
  | queues (x : Exchange) : s.exchange.Widens x →
      Move foreign s { s with registry := { s.registry with exchange := x } }
  | cancelled : Move foreign s { s with sessionsCancelled := true }
  | touch (c : ConnectionId) (f : Session → Session) : (∀ session, (f session).course = session.course) →
      Move foreign s (s.modifySession c f)
  | upgrade {c : ConnectionId} {session : Session} : s.session? c = some session →
      session.phase = .handshakePending → Move foreign s (s.modifySession c (·.become .active))
  | finish {c : ConnectionId} {session : Session} (ending : Ending) (farewell : Option Package)
      (peerFrame : Option CloseFrame) : s.session? c = some session → session.isLive = true →
      ending ≠ .registryUnavailable → Move foreign s (s.finish c ending farewell peerFrame)
  | ask (q : RegistryRequest) : q.IsForeign foreign s → Move foreign s { s with registry := (s.registry.ask q).2 }
  | message (ref : GameRef) (q : GameRequest) : q.Open →
      Move foreign s { s with registry := (s.registry.askGame ref q).2 }
  | halt (name : String) : Move foreign s { s with registry := s.registry.halt name }
  /-- The registry stops without a message. -/
  | stop : s.liveCount = 0 → Move foreign s { s with registry := s.registry.cancel }

abbrev Moves (foreign : ConnectionId → Prop) : Server → Server → Prop := Relation.ReflTransGen (Move foreign)

variable {foreign : ConnectionId → Prop} {s : Server} {c : ConnectionId} {session : Session}

theorem Move.moves {after : Server} (move : Move foreign s after) : Moves foreign s after := .single move

theorem Move.sameNumbers {after : Server} (move : Move foreign s after) : s.SameNumbers after := by
  cases move with
  | touch c f => exact modifySession_sameNumbers s c f
  | upgrade => exact modifySession_sameNumbers ..
  | finish => exact finish_sameNumbers ..
  | _ => exact ⟨rfl, rfl⟩

theorem modifyExchange_moves {f : Exchange → Exchange} (widens : s.exchange.Widens (f s.exchange)) :
    Moves foreign s (s.modifyExchange f) :=
  .single (.queues _ widens)

theorem touch_moves (s : Server) (c : ConnectionId) {f : Session → Session}
    (same : ∀ session, (f session).course = session.course) : Moves foreign s (s.modifySession c f) :=
  .single (.touch c f same)

theorem drained_moves (s : Server) (c : ConnectionId) (session : Session) : Moves foreign s (s.drained c session) :=
  (modifyExchange_moves (s.exchange.widens_modifyOutbox _ _)).trans (touch_moves _ c fun _ => rfl)

theorem pumpSession_moves (found : s.session? c = some session) (live : session.isLive = true) :
    Moves foreign s (s.pumpSession c session) := by
  rw [pumpSession_eq]
  split
  · exact drained_moves s c session
  · rename_i ending ends
    exact (drained_moves s c session).tail (.finish ending none none (session?_drained found) live (ending_pump ends))

theorem cancelled_moves (s : Server) (refs : List SessionRef) :
    Moves foreign s ({ s with sessionsCancelled := true }.modifyExchange fun x => refs.foldl Exchange.cancel x) :=
  Move.cancelled.moves.trans
    (modifyExchange_moves (Exchange.Widens.foldl (fun x ref => x.widens_modifyOutbox ref _) _ _))

/-- A frame of a connection in no game is a request to join, or no matter of the registry. -/
theorem lobby_moves (s : Server) (c : ConnectionId) (payload : List UInt8) :
    Moves foreign s { s with registry := (Lobby.receive s.registry c payload).2 } := by
  have counted : ∀ (r : Registry) (count : Lobby.Count),
      Moves foreign { s with registry := r } { s with registry := Lobby.record r count } := fun r count =>
    .single (.queues _ (r.exchange.widens_measure fun t => (Telemetry.SameGauges.record t rfl).trans (.record _ rfl)))
  rw [Lobby.receive]
  split
  · rename_i q _
    have asked : Moves foreign s { s with registry := (s.registry.send (·.join (q.application c))).2 } := by
      have joined : Moves foreign s { s with registry := (s.registry.ask (.join (q.application c))).2 } :=
        .single (.ask _ trivial)
      rwa [Registry.ask_join] at joined
    rw [Lobby.receiveRequest]
    simp only
    split
    · exact asked.trans (counted _ _)
    · split
      · exact asked.trans (counted _ _)
      · exact asked.trans (counted _ _)
  · exact .single (.queues _ (s.registry.exchange.widens_measure fun t => .record t rfl))

theorem lobbyPayload_moves (found : s.session? c = some session) (active : session.phase = .active)
    (outside : session.game = none) (payload : List UInt8) : Moves foreign s (s.receivePayload c session payload) := by
  have handled : Moves foreign s _ := lobby_moves s c payload
  simp only [receivePayload, outside]
  split
  · exact handled.trans (modifyExchange_moves (Exchange.widens_offer _ _ _))
  · exact handled.trans (touch_moves _ c fun _ => rfl)
  · exact handled.tail (.finish _ _ _ found (Session.isLive_of_active active) (by decide))

theorem Turn.moves {allowed : Package → Prop} {answers : List (ConnectionId × Answer)} {after : Server}
    (turn : Turn allowed s answers after) : Moves foreign s after := by
  cases turn with
  | pass duration => exact modifyExchange_moves (.of_gauges .rfl fun _ there => there)
  | cancel refs => exact cancelled_moves s refs
  | touch c still => exact touch_moves s c still.course
  | upgrade found pending => exact (Move.upgrade found pending).moves
  | pump found active => exact pumpSession_moves found (Session.isLive_of_active active)
  | finish ending farewell peerFrame found live told => exact (Move.finish _ _ _ found live told).moves
  | @relay ref p _ => exact (Move.message ref (.broadcast p) trivial).moves
  | lobby payload found active outside => exact lobbyPayload_moves found active outside payload

theorem moves_of_turns {answers : List (ConnectionId × Answer)} {after : Server}
    (turns : Turns (fun _ => True) s answers after) : Moves foreign s after := by
  induction turns with
  | refl => exact .refl
  | tail _ turn ih => exact ih.trans turn.moves

theorem tend_moves (s : Server) (c : ConnectionId) : Moves foreign s (s.tend c) := moves_of_turns (tend_turns s c)

theorem settle_moves (s : Server) : Moves foreign s s.settle := moves_of_turns (settle_turns s)

theorem elapse_moves (milliseconds : Nat) (s : Server) (c : ConnectionId) :
    Moves foreign s (elapse milliseconds s c) :=
  moves_of_turns (elapse_turns milliseconds s c)

theorem advance_moves (s : Server) (milliseconds : Nat) : Moves foreign s (s.advance milliseconds) :=
  moves_of_turns (advance_turns s milliseconds)

theorem handshake_moves (s : Server) (c : ConnectionId) : Moves foreign s (s.handshake c).2 :=
  moves_of_turns (handshake_turns s c)

theorem clientDrop_moves (s : Server) (c : ConnectionId) : Moves foreign s (s.clientDrop c).2 :=
  moves_of_turns (clientDrop_turns s c)

theorem clientRead_moves (s : Server) (c : ConnectionId) : Moves foreign s (s.clientRead c).2 := by
  rw [clientRead]
  split
  · exact .refl
  · split
    · exact .refl
    · exact touch_moves s c fun _ => rfl

theorem cancelSessions_moves (s : Server) : Moves foreign s s.cancelSessions := moves_of_turns (cancelSessions_turns s)

theorem clientSend_moves (s : Server) (c : ConnectionId) (frame : ClientFrame) :
    Moves foreign s (s.clientSend c [frame]).2 :=
  moves_of_turns (clientSend_turns s c frame fun _ _ => trivial)

theorem violate_moves (s : Server) (c : ConnectionId) (violation : Violation) :
    Moves foreign s (s.violate c violation) :=
  moves_of_turns (violate_turns s c violation fun _ _ _ _ => trivial)

end Server

end Scrimmage
