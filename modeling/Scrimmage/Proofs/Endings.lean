import Scrimmage.Server
import Scrimmage.Proofs.Exchange
import Scrimmage.Proofs.Table

namespace Scrimmage

theorem Table.modify_modify {κ ν : Type} [DecidableEq κ] (t : Table κ ν) (k : κ) (f g : ν → ν) :
    (t.modify k f).modify k g = t.modify k (g ∘ f) := by
  apply ext_entries
  simp only [modify, map, List.map_map]
  apply List.map_congr_left
  rintro ⟨l, v⟩ _
  by_cases here : l = k
  · simp [here]
  · simp [here]

namespace Session

variable (session : Session) (next : Phase)

@[simp] theorem become_ref : (session.become next).ref = session.ref := by
  rw [become]
  split_ifs <;> rfl

@[simp] theorem become_game : (session.become next).game = session.game := by
  rw [become]
  split_ifs <;> rfl

@[simp] theorem become_deeds : (session.become next).deeds = session.deeds := by
  rw [become]
  split_ifs <;> rfl

@[simp] theorem become_sent : (session.become next).sent = session.sent := by
  rw [become]
  split_ifs <;> rfl

end Session

/-- A session that has ended, with what its client has been sent at the end. Whatever is said to the client and
whatever ends the session, the steps are the same. -/
def Session.ended (session : Session) (ending : Ending) (frames : List ServerFrame) : Session :=
  let told := ((session.become .closing).deliver frames).note .unregistered
  { told.become .closed with ending := some ending }.note .closed

namespace Session

variable (session : Session) (ending : Ending) (frames : List ServerFrame)

@[simp] theorem ended_ref : (session.ended ending frames).ref = session.ref := by
  simp [ended, note, deliver]

@[simp] theorem ended_game : (session.ended ending frames).game = session.game := by
  simp [ended, note, deliver]

@[simp] theorem ended_sent : (session.ended ending frames).sent = session.sent ++ frames := by
  simp [ended, note, deliver]

end Session

namespace Server

theorem modifySession_modifySession (s : Server) (c : ConnectionId) (f g : Session → Session) :
    (s.modifySession c f).modifySession c g = s.modifySession c (g ∘ f) := by
  simp only [modifySession, Table.modify_modify]

theorem beginClosing_eq (s : Server) (c : ConnectionId) (session : Session) (ending : Ending)
    (farewell : Option Package) (peerFrame : Option CloseFrame) :
    ∃ x, s.beginClosing c session ending farewell peerFrame =
        { s with registry := { s.registry with exchange := x } }.modifySession c (fun session' =>
          (session'.become .closing).deliver (goodbye (session.phase = Phase.active) ending farewell peerFrame)) ∧
      (∀ ref : SessionRef, ref.queue ≠ session.ref.queue → x.outbox? ref = s.exchange.outbox? ref) ∧
      x.telemetry =
        if ending.isError then s.exchange.telemetry.record (.sessionError ending.name) else s.exchange.telemetry := by
  refine ⟨if ending.isError then
    (if session.phase = .active then s.exchange.modifyOutbox session.ref (·.clear) else s.exchange).measure
      (·.record (.sessionError ending.name))
    else if session.phase = .active then s.exchange.modifyOutbox session.ref (·.clear) else s.exchange, ?_, ?_, ?_⟩
  · by_cases active : session.phase = .active <;> by_cases error : ending.isError = true <;>
      simp only [beginClosing, active, error, if_true, decide_true, decide_false, Bool.false_eq_true, if_false] <;> rfl
  · intro ref other
    have cleared : (s.exchange.modifyOutbox session.ref (·.clear)).outbox? ref = s.exchange.outbox? ref := by
      rw [Exchange.outbox?_modifyOutbox, if_neg other.symm]
    split_ifs
    · rw [Exchange.outbox?_measure, cleared]
    · rfl
    · exact cleared
    · rfl
  · split_ifs <;> rfl

/-- The registry is told, the queue is shut, and the session is closed. -/
theorem finish_eq {s : Server} {c : ConnectionId} {session : Session} (found : s.session? c = some session)
    {ending : Ending} (told : ending ≠ .registryUnavailable) (farewell : Option Package)
    (peerFrame : Option CloseFrame) :
    ∃ x : Exchange,
      (∀ ref : SessionRef, ref.queue ≠ session.ref.queue → x.outbox? ref = s.exchange.outbox? ref) ∧
      x.telemetry = (if ending.isError then s.exchange.telemetry.record (.sessionError ending.name)
        else s.exchange.telemetry) ∧
      s.finish c ending farewell peerFrame =
        { s with
          registry :=
            let left := (({ s.registry with exchange := x } : Registry).send (·.unregister c)).2
            { left with
              exchange := (left.exchange.modifyOutbox session.ref (·.shut)).measure (·.sessionClosed) } }.modifySession
          c (·.ended ending (goodbye (session.phase = Phase.active) ending farewell peerFrame)) := by
  obtain ⟨x, closing, queues, telemetry⟩ := s.beginClosing_eq c session ending farewell peerFrame
  refine ⟨x, queues, telemetry, ?_⟩
  simp only [finish, found, closing, told, if_false, unregister, conclude, close]
  simp only [modifySession, modifyExchange, measure, Table.modify_modify]
  rfl

end Server

end Scrimmage
