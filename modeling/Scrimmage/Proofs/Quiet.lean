import Scrimmage.Server
import Scrimmage.Proofs.Exchange
import Scrimmage.Proofs.Service
import Scrimmage.Proofs.Writing

namespace Scrimmage

open Text

/-- The octets of the frames that a queue holds. -/
def payloads (commands : List Command) : List (List UInt8) :=
  commands.filterMap fun
    | .write p => some p.octets
    | .close _ => none

/-- The octets of a text that a client is sent. -/
def ServerFrame.octets? : ServerFrame → Option (List UInt8)
  | .text s => some (Utf8.ofString s)
  | _ => none

/-- The texts among what a client is sent. -/
def texts (frames : List ServerFrame) : List (List UInt8) := frames.filterMap ServerFrame.octets?

theorem texts_append (frames more : List ServerFrame) : texts (frames ++ more) = texts frames ++ texts more :=
  List.filterMap_append

theorem payloads_append (commands more : List Command) :
    payloads (commands ++ more) = payloads commands ++ payloads more :=
  List.filterMap_append

/-- A frame that can be passed on. -/
def Command.IsFrame (command : Command) : Prop := ∃ p, command = .write p ∧ IsText p.octets

/-- Frames of text are passed on to the last one, each with the octets that it has. -/
theorem pump_frames {commands : List Command} (all : ∀ command ∈ commands, command.IsFrame) :
    (pump commands).taken = commands.length ∧ (pump commands).ending = none ∧
      texts ((pump commands).texts.map .text) = payloads commands := by
  induction commands with
  | nil => exact ⟨rfl, rfl, rfl⟩
  | cons command commands ih =>
    obtain ⟨p, rfl, isText⟩ := all command List.mem_cons_self
    obtain ⟨s, text, octets⟩ := Package.text_of_isText isText
    obtain ⟨taken, ending, rest⟩ := ih fun more member => all more (List.mem_cons_of_mem _ member)
    simp only [pump, text]
    refine ⟨by rw [taken, List.length_cons], ending, ?_⟩
    rw [texts, payloads] at rest
    simp only [texts, payloads, List.map_cons, List.filterMap_cons, ServerFrame.octets?, octets, rest]

namespace Session

variable (session : Session) (frames : List ServerFrame)

@[simp] theorem sent_deliver : (session.deliver frames).sent = session.sent ++ frames := rfl

theorem isLive_iff {session : Session} :
    session.isLive = true ↔ session.phase = .handshakePending ∨ session.phase = .active := by
  simp [isLive]

theorem isLive_of_active {session : Session} (active : session.phase = .active) : session.isLive = true :=
  isLive_iff.mpr (Or.inr active)

@[simp] theorem deliver_nil : session.deliver [] = session := by
  simp [deliver]

end Session

namespace Server

section

variable (s : Server) (c d : ConnectionId)

theorem session?_modifySession (f : Session → Session) :
    (s.modifySession c f).session? d = if d = c then (s.session? d).map f else s.session? d :=
  Table.find?_modify ..

@[simp] theorem session?_modifyExchange (f : Exchange → Exchange) :
    (s.modifyExchange f).session? d = s.session? d := rfl

@[simp] theorem exchange_modifyExchange (f : Exchange → Exchange) :
    (s.modifyExchange f).exchange = f s.exchange := rfl

@[simp] theorem exchange_modifySession (f : Session → Session) : (s.modifySession c f).exchange = s.exchange := rfl

@[simp] theorem registry_modifySession (f : Session → Session) : (s.modifySession c f).registry = s.registry := rfl

theorem modifySession_eq_self {f : Session → Session}
    (fixed : ∀ session, s.session? c = some session → f session = session) : s.modifySession c f = s := by
  rw [modifySession, Table.modify_eq_self fixed]

end

/-- A live session has a queue that takes commands, all of them frames so far, and the registry keeps it as a
member of the game that it passes its frames to. -/
structure Attends (s : Server) (c : ConnectionId) (session : Session) : Prop where
  queue : ∃ o, s.exchange.outbox? session.ref = some o ∧ o.isOpen = true ∧ o.isCancelled = false ∧
    ∀ command ∈ o.waiting, command.IsFrame
  member : s.registry.members.find? c = some { game := session.game.map (·.name), session := session.ref }
  game : ∀ ref, session.game = some ref → s.registry.gameRef? ref.name = some ref
  pending : session.phase = .handshakePending → session.game = none ∧ s.exchange.waiting session.ref = []

theorem Attends.active {s : Server} {c : ConnectionId} {session : Session} (attends : s.Attends c session)
    (live : session.isLive = true) {ref : GameRef} (joined : session.game = some ref) : session.phase = .active := by
  rcases Session.isLive_iff.mp live with pending | active
  · rw [(attends.pending pending).1] at joined
    cases joined
  · exact active

/-- A server that no one has told to stop: its live sessions are the members of the registry, and each of them
has a queue of its own. -/
structure Orderly (s : Server) (capacity : Nat) : Prop where
  serves : s.registry.Serves capacity
  going : s.sessionsCancelled = false
  attends : ∀ c session, s.session? c = some session → session.isLive = true → s.Attends c session
  apart : ∀ c d session other, s.session? c = some session → session.isLive = true → s.session? d = some other →
    other.isLive = true → session.ref.queue = other.ref.queue → c = d
  registered : ∀ c m, s.registry.members.find? c = some m → ∃ session, s.session? c = some session ∧
    session.isLive = true

/-- Nothing waits in the queues of live sessions. -/
def Quiet (s : Server) : Prop :=
  ∀ c session, s.session? c = some session → session.isLive = true → s.exchange.waiting session.ref = []

def spoken (s : Server) (session : Session) : List ServerFrame :=
  (pump (s.exchange.waiting session.ref)).texts.map .text

/-- What it is for some sessions to have done what they have to do, and for the others not yet. One round over
all sessions passes everything on that waits, and after that every further round does nothing. -/
structure Tended (s : Server) (cs : List ConnectionId) (after : Server) : Prop where
  registry : ∃ x, after.registry = { s.registry with exchange := x } ∧ x.telemetry = s.exchange.telemetry
  going : after.sessionsCancelled = s.sessionsCancelled
  next : after.nextConnection = s.nextConnection
  timeout : after.handshakeTimeout = s.handshakeTimeout
  keys : after.sessions.keys = s.sessions.keys
  session : ∀ d, after.session? d =
    (s.session? d).map fun session =>
      if d ∈ cs ∧ session.phase = .active then session.deliver (s.spoken session) else session
  outbox : ∀ d session, s.session? d = some session → session.isLive = true →
    after.exchange.outbox? session.ref =
      (s.exchange.outbox? session.ref).map fun o => if d ∈ cs ∧ session.phase = .active then o.clear else o

theorem Tended.rfl {s : Server} : s.Tended [] s where
  registry := ⟨_, .refl _, .refl _⟩
  going := .refl _
  next := .refl _
  timeout := .refl _
  keys := .refl _
  session d := by simp
  outbox d session _ _ := by simp

section

variable {s after : Server} {cs : List ConnectionId} (tended : s.Tended cs after)

include tended

theorem Tended.forth {d : ConnectionId} {session : Session} (found : s.session? d = some session) :
    ∃ later, after.session? d = some later ∧ later.isLive = session.isLive ∧ later.ref = session.ref ∧
      later.phase = session.phase ∧ later.game = session.game := by
  refine ⟨_, by rw [tended.session, found, Option.map_some], ?_⟩
  split
  · exact ⟨.refl _, .refl _, .refl _, .refl _⟩
  · exact ⟨.refl _, .refl _, .refl _, .refl _⟩

theorem Tended.back {d : ConnectionId} {later : Session} (found : after.session? d = some later) :
    ∃ session, s.session? d = some session ∧ later.isLive = session.isLive ∧ later.ref = session.ref ∧
      later.phase = session.phase ∧ later.game = session.game := by
  cases before : s.session? d with
  | none =>
    rw [tended.session, before] at found
    cases found
  | some session =>
    obtain ⟨later', found', same⟩ := tended.forth before
    cases found.symm.trans found'
    exact ⟨session, .refl _, same⟩

end

theorem Tended.append {s between after : Server} {cs ds : List ConnectionId} (first : s.Tended cs between)
    (second : between.Tended ds after) (apart : cs.Disjoint ds) : s.Tended (cs ++ ds) after := by
  obtain ⟨x, registry, telemetry⟩ := first.registry
  obtain ⟨y, registry', telemetry'⟩ := second.registry
  have telemetry'' : between.exchange.telemetry = s.exchange.telemetry := by
    rw [← telemetry, Server.exchange, registry]
  have outboxes : ∀ d session, s.session? d = some session → session.isLive = true → d ∈ ds →
      between.exchange.outbox? session.ref = s.exchange.outbox? session.ref := by
    intro d session found live member
    have other : d ∉ cs := fun again => apart again member
    rw [first.outbox d session found live]
    simp [other]
  exact {
    registry := ⟨y, by rw [registry', registry], telemetry'.trans telemetry''⟩
    going := second.going.trans first.going
    next := second.next.trans first.next
    timeout := second.timeout.trans first.timeout
    keys := second.keys.trans first.keys
    session := by
      intro d
      rw [second.session, first.session, Option.map_map]
      cases found : s.session? d with
      | none => rfl
      | some session =>
        simp only [Option.map_some, Function.comp_apply, List.mem_append]
        by_cases here : d ∈ cs
        · have there : d ∉ ds := fun again => apart here again
          simp [here, there]
        · by_cases active : d ∈ ds ∧ session.phase = .active
          · have live := Session.isLive_of_active active.2
            have same := Exchange.waiting_eq_of_outbox? (outboxes d session found live active.1)
            simp [here, active, spoken, same]
          · simp [here, active]
    outbox := by
      intro d session found live
      obtain ⟨later, found', sameLive, ref, phase, _⟩ := first.forth found
      have later' := second.outbox d later found' (sameLive.trans live)
      rw [ref, first.outbox d session found live, Option.map_map] at later'
      rw [later']
      congr 1
      funext o
      simp only [Function.comp_apply, List.mem_append, phase]
      by_cases here : d ∈ cs
      · have there : d ∉ ds := fun again => apart here again
        simp [here, there]
      · simp [here] }

namespace Orderly

variable {s : Server} {capacity : Nat} (orderly : s.Orderly capacity)

include orderly

theorem spoken_eq {c : ConnectionId} {session : Session} (found : s.session? c = some session)
    (live : session.isLive = true) : texts (s.spoken session) = payloads (s.exchange.waiting session.ref) := by
  obtain ⟨o, queue, _, _, frames⟩ := (orderly.attends c session found live).queue
  have waiting : s.exchange.waiting session.ref = o.waiting := by simp [Exchange.waiting, queue]
  rw [spoken, waiting]
  exact (pump_frames frames).2.2

theorem isCancelled_eq_false {c : ConnectionId} {session : Session} (found : s.session? c = some session)
    (live : session.isLive = true) : s.exchange.isCancelled session.ref = false := by
  obtain ⟨o, queue, _, cancelled, _⟩ := (orderly.attends c session found live).queue
  rw [Exchange.isCancelled, queue, Option.any_some, cancelled]

theorem tend_active {c : ConnectionId} {session : Session} (found : s.session? c = some session)
    (active : session.phase = .active) :
    s.tend c = (s.modifyExchange (·.modifyOutbox session.ref (·.clear))).modifySession c
      (·.deliver (s.spoken session)) := by
  have live := Session.isLive_of_active active
  obtain ⟨o, queue, _, _, frames⟩ := (orderly.attends c session found live).queue
  have waiting : s.exchange.waiting session.ref = o.waiting := by simp [Exchange.waiting, queue]
  obtain ⟨taken, ending, _⟩ := pump_frames frames
  have cleared : s.exchange.modifyOutbox session.ref (·.drop o.waiting.length) =
      s.exchange.modifyOutbox session.ref (·.clear) :=
    Exchange.modifyOutbox_congr fun o' queue' => by rw [Option.some.inj (queue'.symm.trans queue), Outbox.clear]
  simp only [Server.tend, found, live, orderly.isCancelled_eq_false found live, active, pumpSession, waiting, taken,
    ending, Bool.not_true, Bool.false_eq_true, if_false, if_true, spoken, modifyExchange]
  rw [← exchange, cleared]

theorem tend_silent {c : ConnectionId} (silent : ∀ session, s.session? c = some session → session.phase ≠ .active) :
    s.tend c = s := by
  cases found : s.session? c with
  | none => simp only [Server.tend, found]
  | some session =>
    cases live : session.isLive with
    | false => simp only [Server.tend, found, live, Bool.not_false, if_true]
    | true =>
      simp only [Server.tend, found, live, orderly.isCancelled_eq_false found live, silent session found,
        Bool.not_true, Bool.false_eq_true, if_false]

theorem tend (c : ConnectionId) : s.Tended [c] (s.tend c) := by
  by_cases active : ∃ session, s.session? c = some session ∧ session.phase = .active
  · obtain ⟨session, found, active⟩ := active
    have live := Session.isLive_of_active active
    rw [orderly.tend_active found active]
    exact {
      registry := ⟨_, .refl _, .refl _⟩
      going := .refl _
      next := .refl _
      timeout := .refl _
      keys := Table.keys_modify ..
      session := by
        intro d
        rw [session?_modifySession, session?_modifyExchange]
        split
        · rename_i same
          simp [same, found, active]
        · rename_i other
          simp [other]
      outbox := by
        intro d other found' live'
        rw [exchange_modifySession, exchange_modifyExchange, Exchange.outbox?_modifyOutbox]
        by_cases same : d = c
        · subst same
          cases found.symm.trans found'
          simp [active]
        · have different : session.ref.queue ≠ other.ref.queue := fun queue =>
            same (orderly.apart c d session other found live found' live' queue).symm
          simp [same, different] }
  · have silent : ∀ session, s.session? c = some session → session.phase ≠ .active := fun session found phase =>
      active ⟨session, found, phase⟩
    rw [orderly.tend_silent silent]
    refine ⟨⟨_, .refl _, .refl _⟩, .refl _, .refl _, .refl _, .refl _, ?_, ?_⟩
    · intro d
      cases found : s.session? d with
      | none => rfl
      | some session =>
        have other : ¬(d ∈ [c] ∧ session.phase = .active) := by
          rintro ⟨member, phase⟩
          exact silent session (List.mem_singleton.mp member ▸ found) phase
        rw [Option.map_some, if_neg other]
    · intro d session found _
      have other : ¬(d ∈ [c] ∧ session.phase = .active) := by
        rintro ⟨member, phase⟩
        exact silent session (List.mem_singleton.mp member ▸ found) phase
      simp only [other, if_false, Option.map_id']

theorem tended {cs : List ConnectionId} {after : Server} (tended : s.Tended cs after) : after.Orderly capacity := by
  obtain ⟨x, registry, _⟩ := tended.registry
  exact {
    serves := registry ▸ orderly.serves.queues x
    going := tended.going.trans orderly.going
    attends := by
      intro c session found live
      obtain ⟨before, found, sameLive, ref, phase, game⟩ := tended.back found
      rw [sameLive] at live
      have attends := orderly.attends c before found live
      have outbox := tended.outbox c before found live
      obtain ⟨o, queue, isOpen, cancelled, frames⟩ := attends.queue
      rw [queue, Option.map_some] at outbox
      refine ⟨?_, ?_, ?_, ?_⟩
      · rw [ref]
        refine ⟨_, outbox, ?_⟩
        split
        · exact ⟨isOpen, cancelled, by simp [Outbox.clear, Outbox.drop]⟩
        · exact ⟨isOpen, cancelled, frames⟩
      · rw [registry, game, ref]
        exact attends.member
      · rw [registry, game]
        exact attends.game
      · rw [game, ref, phase]
        intro pending
        refine ⟨(attends.pending pending).1, ?_⟩
        have waits : ¬(c ∈ cs ∧ before.phase = .active) := by simp [pending]
        rw [if_neg waits, ← queue] at outbox
        rw [Exchange.waiting_eq_of_outbox? outbox, (attends.pending pending).2]
    apart := by
      intro c d session other found live found' live' queue
      obtain ⟨before, found, sameLive, ref, _⟩ := tended.back found
      obtain ⟨before', found', sameLive', ref', _⟩ := tended.back found'
      exact orderly.apart c d before before' found (sameLive.symm.trans live) found' (sameLive'.symm.trans live')
        (by rw [← ref, ← ref', queue])
    registered := by
      intro c m known
      rw [registry] at known
      obtain ⟨session, found, live⟩ := orderly.registered c m known
      obtain ⟨later, found', sameLive, _⟩ := tended.forth found
      exact ⟨later, found', sameLive.trans live⟩ }

theorem tend_all {cs : List ConnectionId} (nodup : cs.Nodup) : s.Tended cs (cs.foldl Server.tend s) := by
  induction cs generalizing s with
  | nil => exact .rfl
  | cons c cs ih =>
    rw [List.foldl_cons]
    have first := orderly.tend c
    -- the others find their queues as they were, for no two live sessions share one
    have rest := ih (orderly.tended first) (List.nodup_cons.mp nodup).2
    exact first.append rest (List.singleton_disjoint.mpr (List.nodup_cons.mp nodup).1)

theorem tendAll : s.Tended s.sessions.keys s.tendAll := orderly.tend_all s.sessions.keys_nodup

theorem tendAll_quiet : s.tendAll.Quiet := by
  intro c later found live
  obtain ⟨session, found', sameLive, ref, _⟩ := orderly.tendAll.back found
  rw [sameLive] at live
  have outbox := orderly.tendAll.outbox c session found' live
  rw [ref]
  by_cases active : session.phase = .active
  · simp only [Table.mem_keys_of_find? found', active, and_self, if_true] at outbox
    rw [Exchange.waiting, outbox]
    cases s.exchange.outbox? session.ref <;> simp [Outbox.clear, Outbox.drop]
  · -- before the handshake nothing is put into the queue of a session
    have pending := (Session.isLive_iff.mp live).resolve_right active
    simp only [active, and_false, if_false, Option.map_id'] at outbox
    rw [Exchange.waiting_eq_of_outbox? outbox, ((orderly.attends c session found' live).pending pending).2]

theorem tend_quiet (quiet : s.Quiet) (c : ConnectionId) : s.tend c = s := by
  by_cases active : ∃ session, s.session? c = some session ∧ session.phase = .active
  · obtain ⟨session, found, active⟩ := active
    have live := Session.isLive_of_active active
    have empty := quiet c session found live
    have nothing : s.exchange.modifyOutbox session.ref (·.clear) = s.exchange := by
      refine Exchange.modifyOutbox_eq_self fun o queue => ?_
      rw [Exchange.waiting, queue] at empty
      obtain ⟨waiting, _, _, _⟩ := o
      cases empty
      rfl
    have silence : s.spoken session = [] := by rw [spoken, empty, pump, List.map_nil]
    rw [orderly.tend_active found active, silence, modifyExchange, ← exchange, nothing]
    exact modifySession_eq_self _ _ fun session _ => session.deliver_nil
  · exact orderly.tend_silent fun session found phase => active ⟨session, found, phase⟩

theorem tendAll_of_quiet (quiet : s.Quiet) : s.tendAll = s := by
  rw [Server.tendAll]
  induction s.sessions.keys with
  | nil => rfl
  | cons c cs ih => rw [List.foldl_cons, orderly.tend_quiet quiet, ih]

theorem tendRounds_of_quiet (quiet : s.Quiet) (rounds : Nat) : tendRounds rounds s = s := by
  induction rounds with
  | zero => rfl
  | succ rounds ih => rw [tendRounds, orderly.tendAll_of_quiet quiet, ih]

theorem settle_eq : s.settle = s.tendAll :=
  (orderly.tended orderly.tendAll).tendRounds_of_quiet orderly.tendAll_quiet _

theorem settle_of_quiet (quiet : s.Quiet) : s.settle = s := by
  rw [orderly.settle_eq, orderly.tendAll_of_quiet quiet]

theorem settle : s.settle.Orderly capacity := orderly.settle_eq ▸ orderly.tended orderly.tendAll

theorem settle_quiet : s.settle.Quiet := orderly.settle_eq ▸ orderly.tendAll_quiet

theorem settle_tended : s.Tended s.sessions.keys s.settle := orderly.settle_eq ▸ orderly.tendAll

end Orderly

end Server

end Scrimmage
