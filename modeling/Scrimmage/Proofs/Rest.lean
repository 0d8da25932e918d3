import Scrimmage.Proofs.Queues

namespace Scrimmage

theorem taken_pump {commands : List Command} (on : (pump commands).ending = none) :
    (pump commands).taken = commands.length := by
  induction commands with
  | nil => rfl
  | cons command commands ih =>
    cases command with
    | close reason => cases on
    | write p =>
      rw [pump] at on ⊢
      split at on
      · cases on
      · exact congrArg (· + 1) (ih on)

namespace Server

variable {foreign : ConnectionId → Prop} {s : Server} {c : ConnectionId} {session : Session}

/-- The session has nothing to do: no one told it to stop, and if it is active nothing waits for it. In each
round of the sessions one of them ends, or all of them are like this afterwards. -/
def RestsAt (s : Server) (c : ConnectionId) : Prop :=
  ∀ session, s.session? c = some session → session.isLive = true →
    s.exchange.isCancelled session.ref = false ∧ (session.phase = .active → s.exchange.waiting session.ref = [])

def AtRest (s : Server) : Prop := ∀ c, s.RestsAt c

theorem pumpSession_eq_self (empty : s.exchange.waiting session.ref = []) : s.pumpSession c session = s := by
  have nothing : s.exchange.modifyOutbox session.ref (·.drop 0) = s.exchange :=
    Exchange.modifyOutbox_eq_self fun o _ => rfl
  simp only [pumpSession, empty, pump, List.map_nil, modifyExchange]
  rw [← exchange, nothing]
  exact modifySession_eq_self _ _ fun session _ => session.deliver_nil

theorem RestsAt.tend_eq (rests : s.RestsAt c) : s.tend c = s := by
  rw [tend]
  split
  · rfl
  · rename_i session found
    split
    · rfl
    · rename_i live
      obtain ⟨going, empty⟩ := rests session found (by simpa using live)
      rw [if_neg (by simp [going])]
      split
      · rename_i active
        exact pumpSession_eq_self (empty active)
      · rfl

theorem AtRest.foldl_tend (rest : s.AtRest) (cs : List ConnectionId) : cs.foldl tend s = s := by
  induction cs with
  | nil => rfl
  | cons c cs ih => rw [List.foldl_cons, (rest c).tend_eq, ih]

theorem AtRest.tendRounds (rest : s.AtRest) (rounds : Nat) : tendRounds rounds s = s := by
  induction rounds with
  | zero => rfl
  | succ rounds ih => rw [Server.tendRounds, tendAll, rest.foldl_tend, ih]

theorem RestsAt.congr {after : Server} (rests : s.RestsAt c)
    (session : (after.session? c).map (·.course) = (s.session? c).map (·.course))
    (queue : ∀ session, s.session? c = some session → session.isLive = true →
      after.exchange.outbox? session.ref = s.exchange.outbox? session.ref) : after.RestsAt c := by
  intro later found live
  rw [found, Option.map_some] at session
  obtain ⟨before, found', same⟩ := Option.map_eq_some_iff.mp session.symm
  have live' := (Session.isLive_of_course same).trans live
  have phase : later.phase = before.phase := congrArg Course.phase same.symm
  have outbox := queue before found' live'
  obtain ⟨going, empty⟩ := rests before found' live'
  rw [← Session.ref_of_course same, Exchange.isCancelled, outbox, Exchange.waiting_eq_of_outbox? outbox, phase]
  exact ⟨going, empty⟩

theorem outbox?_drained (s : Server) (c : ConnectionId) (session : Session) (ref : SessionRef) :
    (s.drained c session).exchange.outbox? ref = if session.ref.queue = ref.queue then
      (s.exchange.outbox? ref).map (·.drop (pump (s.exchange.waiting session.ref)).taken)
      else s.exchange.outbox? ref :=
  Exchange.outbox?_modifyOutbox ..

theorem liveCount_finish (found : s.session? c = some session) (live : session.isLive = true) {ending : Ending}
    (told : ending ≠ .registryUnavailable) (farewell : Option Package) (peerFrame : Option CloseFrame) :
    (s.finish c ending farewell peerFrame).liveCount + 1 = s.liveCount := by
  have leaves := finish_leaves found told farewell peerFrame
  refine liveCount_without found live (fun later there => ?_) leaves.others
  rw [← Option.some.inj (leaves.ended.symm.trans there)]
  exact session.ended_dead live _ _

/-- Every live session has a queue of its own. This is all that is needed for a server to come to rest, after as
many rounds as it has live sessions and one more. -/
structure Drains (s : Server) : Prop where
  queued : ∀ c session, s.session? c = some session → session.isLive = true →
    (s.exchange.outbox? session.ref).isSome = true
  apart : ∀ c d session other, s.session? c = some session → session.isLive = true → s.session? d = some other →
    other.isLive = true → session.ref.queue = other.ref.queue → c = d

theorem Accounted.drains (accounted : s.Accounted foreign) : s.Drains := ⟨accounted.queued, accounted.apart⟩

theorem Posted.drains (posted : s.Posted) : s.Drains where
  queued c session found _ := by
    obtain ⟨o, queue, _⟩ := posted.queue c session found
    rw [queue]
    rfl
  apart c d session other found _ found' _ := posted.apart c d session other found found'

namespace Drains

variable (drains : s.Drains)

include drains

theorem finish (found : s.session? c = some session) (live : session.isLive = true) {ending : Ending}
    (told : ending ≠ .registryUnavailable) (farewell : Option Package) (peerFrame : Option CloseFrame) :
    (s.finish c ending farewell peerFrame).Drains := by
  have leaves := finish_leaves found told farewell peerFrame
  have back : ∀ d later, (s.finish c ending farewell peerFrame).session? d = some later → later.isLive = true →
      d ≠ c ∧ s.session? d = some later := by
    intro d later there on
    by_cases here : d = c
    · subst here
      rw [← Option.some.inj (leaves.ended.symm.trans there), session.ended_dead live] at on
      cases on
    · exact ⟨here, (leaves.others d here).symm.trans there⟩
  constructor
  · intro d later there on
    obtain ⟨other, before⟩ := back d later there on
    obtain ⟨_, _, queues⟩ := leaves.queues
    rw [queues _ fun same => other (drains.apart d c later session before on found live same), Option.isSome_map]
    exact drains.queued d later before on
  · intro d e later other there on there' on'
    exact drains.apart d e later other (back d later there on).2 on (back e other there' on').2 on'

theorem drained (c : ConnectionId) (session : Session) : (s.drained c session).Drains := by
  have back : ∀ d later, (s.drained c session).session? d = some later →
      ∃ before, s.session? d = some before ∧ later.ref = before.ref ∧ later.isLive = before.isLive := by
    intro d later there
    have there := (session?_modifySession (s.modifyExchange _) c d _).symm.trans there
    split at there
    · obtain ⟨before, found, rfl⟩ := Option.map_eq_some_iff.mp there
      exact ⟨before, found, rfl, rfl⟩
    · exact ⟨later, there, rfl, rfl⟩
  constructor
  · intro d later there on
    obtain ⟨before, found, ref, live⟩ := back d later there
    rw [outbox?_drained, ref]
    split
    · rw [Option.isSome_map]
      exact drains.queued d before found (live ▸ on)
    · exact drains.queued d before found (live ▸ on)
  · intro d e later other there on there' on' same
    obtain ⟨before, found, ref, live⟩ := back d later there
    obtain ⟨before', found', ref', live'⟩ := back e other there'
    exact drains.apart d e before before' found (live ▸ on) found' (live' ▸ on') (by rw [← ref, ← ref', same])

theorem tend (c : ConnectionId) : (s.tend c).Drains := by
  rw [Server.tend]
  split
  · exact drains
  · rename_i session found
    split
    · exact drains
    · rename_i live
      have live : session.isLive = true := by simpa using live
      split
      · exact drains.finish found live (by decide) _ none
      · split
        · rw [pumpSession_eq]
          split
          · exact drains.drained c session
          · rename_i ending ends
            exact (drains.drained c session).finish (session?_drained found) live (ending_pump ends) none none
        · exact drains

/-- A session that is not ended by what waits for it has then done what it has to do, and no one else has more. -/
theorem drained_rests (found : s.session? c = some session) (active : session.phase = .active)
    (going : s.exchange.isCancelled session.ref = false)
    (on : (pump (s.exchange.waiting session.ref)).ending = none) (d : ConnectionId) (rests : d = c ∨ s.RestsAt d) :
    (s.drained c session).RestsAt d := by
  have live := Session.isLive_of_active active
  have outbox := s.outbox?_drained c session
  by_cases here : d = c
  · subst here
    intro later found' _
    cases found'.symm.trans (session?_drained found)
    obtain ⟨o, queue⟩ := Option.isSome_iff_exists.mp (drains.queued d session found live)
    have waiting : s.exchange.waiting session.ref = o.waiting := by rw [Exchange.waiting, queue]; rfl
    have after : (s.drained d session).exchange.outbox? session.ref = some (o.drop o.waiting.length) := by
      rw [outbox, if_pos rfl, taken_pump on, waiting, queue, Option.map_some]
    rw [Exchange.isCancelled, queue] at going
    refine ⟨?_, fun _ => ?_⟩
    · have cancelled : (s.drained d session).exchange.isCancelled session.ref = o.isCancelled := by
        rw [Exchange.isCancelled, after]
        rfl
      exact cancelled.trans going
    · have rest : (s.drained d session).exchange.waiting session.ref = o.waiting.drop o.waiting.length := by
        rw [Exchange.waiting, after]
        rfl
      exact rest.trans List.drop_length
  · have other : (s.drained c session).session? d = s.session? d := by
      rw [Server.drained, session?_modifySession, if_neg here]
      rfl
    refine (rests.resolve_left here).congr (by rw [other]) fun later found' live' => ?_
    have queue : session.ref.queue ≠ later.ref.queue := fun same =>
      here (drains.apart c d session later found live found' live' same).symm
    rw [outbox, if_neg queue]

/-- A session that has something to do ends, or it has done it afterwards and no one else has more to do. -/
theorem tend_spec (c : ConnectionId) :
    (s.tend c).liveCount < s.liveCount ∨
      (s.tend c).liveCount = s.liveCount ∧ ∀ d, d = c ∨ s.RestsAt d → (s.tend c).RestsAt d := by
  by_cases rests : s.RestsAt c
  · rw [rests.tend_eq]
    exact Or.inr ⟨rfl, fun d at' => at'.elim (fun here => here ▸ rests) id⟩
  · rw [RestsAt] at rests
    push Not at rests
    obtain ⟨session, found, live, busy⟩ := rests
    simp only [Server.tend, found, live, Bool.not_true, Bool.false_eq_true, if_false]
    -- told to stop, or active with something in its queue, which may end it
    split
    · left
      have told : Ending.cancelled ≠ .registryUnavailable := by decide
      have count := liveCount_finish found live told (some Notice.shuttingDown.encode) none
      omega
    · rename_i going
      have going := Bool.eq_false_of_not_eq_true going
      have active := (busy going).1
      have drained := drains.drained_rests found active going
      have same : (s.drained c session).liveCount = s.liveCount :=
        liveCount_modifySession (s := s.modifyExchange _) fun _ _ => rfl
      rw [if_pos active, pumpSession_eq]
      split
      · rename_i on
        exact Or.inr ⟨same, drained on⟩
      · rename_i ending ends
        left
        have count := liveCount_finish (session?_drained found) live (ending_pump ends) none none
        omega

/-- A round over some sessions makes fewer sessions live, or leaves those and all that were at rest at rest. -/
theorem foldl_tend_spec (cs : List ConnectionId) :
    (cs.foldl Server.tend s).liveCount < s.liveCount ∨
      (cs.foldl Server.tend s).liveCount = s.liveCount ∧
        ∀ d, d ∈ cs ∨ s.RestsAt d → (cs.foldl Server.tend s).RestsAt d := by
  induction cs generalizing s with
  | nil => exact Or.inr ⟨rfl, fun d at' => at'.resolve_left List.not_mem_nil⟩
  | cons c cs ih =>
    rw [List.foldl_cons]
    rcases drains.tend_spec c with fewer | ⟨same, rests⟩
    · left
      rcases ih (drains.tend c) with less | ⟨equal, _⟩
      · exact less.trans fewer
      · exact equal.trans_lt fewer
    · rcases ih (drains.tend c) with less | ⟨equal, rest⟩
      · exact Or.inl (less.trans_eq same)
      · refine Or.inr ⟨equal.trans same, fun d at' => rest d ?_⟩
        rcases at' with inside | before
        · exact (List.mem_cons.mp inside).elim (fun here => Or.inr (rests d (Or.inl here))) Or.inl
        · exact Or.inr (rests d (Or.inr before))

theorem foldl_tend (cs : List ConnectionId) : (cs.foldl Server.tend s).Drains := by
  induction cs generalizing s with
  | nil => exact drains
  | cons c cs ih => exact ih (drains.tend c)

theorem tendAll_spec : s.tendAll.liveCount < s.liveCount ∨ s.tendAll.AtRest := by
  refine (drains.foldl_tend_spec s.sessions.keys).imp_right fun ⟨_, rest⟩ d => rest d ?_
  cases found : s.session? d with
  | some session => exact Or.inl (Table.mem_keys_of_find? found)
  | none => exact Or.inr fun session found' => by cases found.symm.trans found'

/-- As many rounds as there are live sessions, and one more, are enough. -/
theorem tendRounds_atRest {rounds : Nat} (enough : s.liveCount < rounds) : (Server.tendRounds rounds s).AtRest := by
  induction rounds generalizing s with
  | zero => exact absurd enough (Nat.not_lt_zero _)
  | succ rounds ih =>
    rw [Server.tendRounds]
    rcases drains.tendAll_spec with fewer | rest
    · exact ih (drains.foldl_tend _) (by omega)
    · rw [rest.tendRounds]
      exact rest

theorem settle_atRest : s.settle.AtRest := drains.tendRounds_atRest (Nat.lt_succ_self _)

end Drains

theorem Accounted.settle_atRest (accounted : s.Accounted foreign) : s.settle.AtRest := accounted.drains.settle_atRest

end Server

end Scrimmage
