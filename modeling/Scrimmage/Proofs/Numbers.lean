import Scrimmage.Server
import Scrimmage.Proofs.Table

namespace Scrimmage.Server

/-- No client has come in between. -/
structure SameNumbers (s after : Server) : Prop where
  keys : after.sessions.keys = s.sessions.keys
  next : after.nextConnection = s.nextConnection

theorem SameNumbers.rfl {s : Server} : s.SameNumbers s := ⟨.refl _, .refl _⟩

theorem SameNumbers.trans {s between after : Server} (first : s.SameNumbers between)
    (second : between.SameNumbers after) : s.SameNumbers after :=
  ⟨second.keys.trans first.keys, second.next.trans first.next⟩

theorem foldl_sameNumbers {α : Type} {f : Server → α → Server} (same : ∀ s a, SameNumbers s (f s a)) (s : Server)
    (l : List α) : s.SameNumbers (l.foldl f s) := by
  induction l generalizing s with
  | nil => exact .rfl
  | cons a l ih => exact (same s a).trans (ih (f s a))

theorem modifySession_sameNumbers (s : Server) (c : ConnectionId) (f : Session → Session) :
    s.SameNumbers (s.modifySession c f) :=
  ⟨Table.keys_modify .., rfl⟩

theorem registry_sameNumbers (s : Server) (registry : Registry) : s.SameNumbers { s with registry } := ⟨rfl, rfl⟩

theorem modifyExchange_sameNumbers (s : Server) (f : Exchange → Exchange) : s.SameNumbers (s.modifyExchange f) :=
  registry_sameNumbers ..

theorem unregister_sameNumbers (s : Server) (c : ConnectionId) : s.SameNumbers (s.unregister c) :=
  (registry_sameNumbers ..).trans (modifySession_sameNumbers ..)

theorem beginClosing_sameNumbers (s : Server) (c : ConnectionId) (session : Session) (ending : Ending)
    (farewell : Option Package) (peerFrame : Option CloseFrame) :
    s.SameNumbers (s.beginClosing c session ending farewell peerFrame) := by
  have cleared : s.SameNumbers (if (session.phase = .active : Bool) then
      s.modifyExchange (·.modifyOutbox session.ref (·.clear)) else s) := by
    split
    · exact modifyExchange_sameNumbers ..
    · exact .rfl
  rw [beginClosing]
  split
  · exact (cleared.trans (modifySession_sameNumbers ..)).trans (modifyExchange_sameNumbers ..)
  · exact cleared.trans (modifySession_sameNumbers ..)

theorem finish_sameNumbers (s : Server) (c : ConnectionId) (ending : Ending) (farewell : Option Package)
    (peerFrame : Option CloseFrame) : s.SameNumbers (s.finish c ending farewell peerFrame) := by
  rw [finish]
  split
  · exact .rfl
  · rename_i session _
    have closing := beginClosing_sameNumbers s c session ending farewell peerFrame
    have unregistered : s.SameNumbers (if ending = .registryUnavailable then
        s.beginClosing c session ending farewell peerFrame
        else (s.beginClosing c session ending farewell peerFrame).unregister c) := by
      split
      · exact closing
      · exact closing.trans (unregister_sameNumbers ..)
    exact (((unregistered.trans (modifyExchange_sameNumbers ..)).trans (modifySession_sameNumbers ..)).trans
      (modifyExchange_sameNumbers ..)).trans (modifySession_sameNumbers ..)

theorem pumpSession_sameNumbers (s : Server) (c : ConnectionId) (session : Session) :
    s.SameNumbers (s.pumpSession c session) := by
  have passed := (modifyExchange_sameNumbers s
    (·.modifyOutbox session.ref (·.drop (pump (s.exchange.waiting session.ref)).taken))).trans
    (modifySession_sameNumbers _ c (·.deliver ((pump (s.exchange.waiting session.ref)).texts.map .text)))
  rw [pumpSession]
  split
  · exact passed
  · exact passed.trans (finish_sameNumbers ..)

theorem tend_sameNumbers (s : Server) (c : ConnectionId) : s.SameNumbers (s.tend c) := by
  rw [tend]
  split
  · exact .rfl
  · split
    · exact .rfl
    · split
      · exact finish_sameNumbers ..
      · split
        · exact pumpSession_sameNumbers ..
        · exact .rfl

theorem tendRounds_sameNumbers (rounds : Nat) (s : Server) : s.SameNumbers (tendRounds rounds s) := by
  induction rounds generalizing s with
  | zero => exact .rfl
  | succ rounds ih => exact (foldl_sameNumbers tend_sameNumbers s _).trans (ih _)

theorem settle_sameNumbers (s : Server) : s.SameNumbers s.settle := tendRounds_sameNumbers ..

theorem elapse_sameNumbers (milliseconds : Nat) (s : Server) (c : ConnectionId) :
    s.SameNumbers (elapse milliseconds s c) := by
  rw [elapse]
  split
  · exact .rfl
  · rename_i session _
    have waits := modifySession_sameNumbers s c fun session' =>
      { session' with waited := session.waited + milliseconds }
    split
    · simp only
      split
      · exact waits.trans (finish_sameNumbers ..)
      · exact waits
    · exact .rfl

theorem advance_sameNumbers (s : Server) (milliseconds : Nat) : s.SameNumbers (s.advance milliseconds) :=
  ((modifyExchange_sameNumbers s (·.pass (milliseconds * Clock.millisecond))).trans
    (foldl_sameNumbers (elapse_sameNumbers milliseconds) _ _)).trans (settle_sameNumbers _)

theorem receivePayload_sameNumbers (s : Server) (c : ConnectionId) (session : Session) (payload : List UInt8) :
    s.SameNumbers (s.receivePayload c session payload) := by
  rw [receivePayload]
  split
  · have handled := registry_sameNumbers s (Lobby.receive s.registry c payload).2
    simp only
    split
    · exact handled.trans (modifyExchange_sameNumbers ..)
    · exact handled.trans (modifySession_sameNumbers ..)
    · exact handled.trans (finish_sameNumbers ..)
  · split
    · exact .rfl
    · rename_i game _ _ p _
      have handled := registry_sameNumbers s (s.registry.askGame game (.broadcast p)).2
      simp only
      split
      · exact handled
      · exact handled.trans (finish_sameNumbers ..)

theorem receive_sameNumbers (s : Server) (c : ConnectionId) (frame : ClientFrame) :
    s.SameNumbers (s.receive c frame) := by
  rw [receive]
  split
  · exact .rfl
  · split
    · split
      · split
        · exact receivePayload_sameNumbers ..
        · exact finish_sameNumbers ..
      · exact receivePayload_sameNumbers ..
      · exact modifySession_sameNumbers ..
      · exact .rfl
      · exact finish_sameNumbers ..
      · exact finish_sameNumbers ..
    · exact .rfl

theorem clientSend_sameNumbers (s : Server) (c : ConnectionId) (frames : List ClientFrame) :
    s.SameNumbers (s.clientSend c frames).2 := by
  rw [clientSend]
  split
  · exact foldl_sameNumbers (fun s frame => (receive_sameNumbers s c frame).trans (settle_sameNumbers _)) s frames
  · exact .rfl

theorem failHandshake_sameNumbers (s : Server) (c : ConnectionId) : s.SameNumbers (s.failHandshake c) := by
  rw [failHandshake]
  split
  · exact .rfl
  · split
    · exact (finish_sameNumbers ..).trans (settle_sameNumbers _)
    · exact .rfl

theorem handshake_sameNumbers (s : Server) (c : ConnectionId) : s.SameNumbers (s.handshake c).2 := by
  rw [handshake]
  split
  · exact .rfl
  · split
    · exact .rfl
    · split
      · exact (modifySession_sameNumbers ..).trans (settle_sameNumbers _)
      · exact (failHandshake_sameNumbers s c).trans (modifySession_sameNumbers ..)

theorem lineCut_sameNumbers (s : Server) (c : ConnectionId) : s.SameNumbers (s.lineCut c) := by
  rw [lineCut]
  split
  · exact .rfl
  · split
    · exact finish_sameNumbers ..
    · exact finish_sameNumbers ..
    · exact .rfl

theorem clientDrop_sameNumbers (s : Server) (c : ConnectionId) : s.SameNumbers (s.clientDrop c).2 := by
  rw [clientDrop]
  split
  · exact ((modifySession_sameNumbers ..).trans (lineCut_sameNumbers _ c)).trans (settle_sameNumbers _)
  · exact .rfl

theorem clientRead_sameNumbers (s : Server) (c : ConnectionId) : s.SameNumbers (s.clientRead c).2 := by
  rw [clientRead]
  split
  · exact .rfl
  · split
    · exact .rfl
    · exact modifySession_sameNumbers ..

/-- So many clients have come, and their numbers are those from 1 on. Whatever the server does for the clients
that it has, their numbers stay and so does the number that comes next; one comes again only when all `2 ^ 64`
have been given. -/
structure Numbered (s : Server) (count : Nat) : Prop where
  next : s.nextConnection = UInt64.ofNat (count + 1)
  given : ∀ c ∈ s.sessions.keys, ∃ i < count, c = ⟨UInt64.ofNat (i + 1)⟩

theorem create_numbered (capacity handshakeTimeout : Nat) : (create capacity handshakeTimeout).Numbered 0 :=
  ⟨rfl, fun _ member => absurd member List.not_mem_nil⟩

namespace Numbered

variable {s : Server} {count : Nat} (numbered : s.Numbered count)

include numbered

theorem of_same {after : Server} (same : s.SameNumbers after) : after.Numbered count :=
  ⟨same.next.trans numbered.next, same.keys ▸ numbered.given⟩

theorem opened : s.openSession.2.2.Numbered (count + 1) where
  next := by
    have next : s.openSession.2.2.nextConnection = s.nextConnection + 1 := rfl
    rw [next, numbered.next, UInt64.ofNat_add (count + 1)]
    rfl
  given := by
    intro c member
    obtain ⟨session, found⟩ := Table.mem_keys_iff.mp member
    have inserted := (Table.find?_insert s.sessions ⟨s.nextConnection⟩ c _).symm.trans found
    split at inserted
    · rename_i here
      exact ⟨count, Nat.lt_succ_self count, here.trans (congrArg ConnectionId.mk numbered.next)⟩
    · obtain ⟨i, below, number⟩ := numbered.given c (Table.mem_keys_of_find? inserted)
      exact ⟨i, Nat.lt_succ_of_lt below, number⟩

theorem connect : s.connect.2.Numbered (count + 1) := by
  have opened := numbered.opened
  rw [Server.connect]
  generalize s.openSession = started at opened ⊢
  obtain ⟨c, ref, s⟩ := started
  have registers := registry_sameNumbers s (s.registry.send fun r => ((), r.register c ref)).2
  simp only at opened ⊢
  split
  · exact opened.of_same (registers.trans (finish_sameNumbers ..))
  · refine opened.of_same (registers.trans ?_)
    exact (((modifySession_sameNumbers ..).trans (settle_sameNumbers _)).trans
      (elapse_sameNumbers 0 _ c)).trans (settle_sameNumbers _)

theorem new (few : count < 2 ^ 64) : s.session? ⟨s.nextConnection⟩ = none := by
  rw [session?, Table.find?_eq_none_iff]
  intro member
  obtain ⟨i, below, number⟩ := numbered.given _ member
  rw [numbered.next, ConnectionId.mk.injEq, ← UInt64.toNat_inj, UInt64.toNat_ofNat', UInt64.toNat_ofNat'] at number
  omega

end Numbered

end Scrimmage.Server
