import Scrimmage.Proofs.SessionSteps

namespace Scrimmage

namespace Server

/-- One thing after the other happens to a session, with whatever is put into its queue and whatever its client
reads. Whatever happens at a server comes to this for each of its sessions. -/
def SessionReaches (c : ConnectionId) (s after : Server) : Prop := ∃ queued read, SessionSteps c s queued read after

variable {s between after : Server} {c : ConnectionId} {session : Session}

theorem SessionSteps.trans {queued more : List Command} {read frames : List ServerFrame}
    (first : SessionSteps c s queued read between)
    (second : SessionSteps c between more frames after) : SessionSteps c s (queued ++ more) (read ++ frames) after := by
  induction second with
  | refl => rwa [List.append_nil, List.append_nil]
  | tail _ step ih =>
    rw [← List.append_assoc, ← List.append_assoc]
    exact ih.tail step

theorem SessionReaches.rfl : SessionReaches c s s := ⟨_, _, .refl⟩

theorem SessionReaches.trans (first : SessionReaches c s between) (second : SessionReaches c between after) :
    SessionReaches c s after := by
  obtain ⟨_, _, first⟩ := first
  obtain ⟨_, _, second⟩ := second
  exact ⟨_, _, first.trans second⟩

theorem SessionStep.reaches {more : List Command} {frames : List ServerFrame}
    (step : SessionStep c s more frames after) :
    SessionReaches c s after :=
  ⟨_, _, .tail .refl step⟩

theorem others_reaches
    (persists : ∀ session, s.session? c = some session →
      ∃ later, after.session? c = some later ∧ session.Persists later)
    (queue : ∀ session, s.session? c = some session → ∃ more, s.exchange.accepts session.ref = true →
      s.exchange.Takes session.ref more after.exchange) : SessionReaches c s after := by
  cases found : s.session? c with
  | none => exact (SessionStep.others [] fun session found' => by cases found.symm.trans found').reaches
  | some session =>
    obtain ⟨more, takes⟩ := queue session found
    refine (SessionStep.others more fun other found' => ?_).reaches
    cases found.symm.trans found'
    exact ⟨persists session found, takes⟩

/-- No session changes, and commands may be put into the queues. -/
theorem extends_reaches (same : after.session? c = s.session? c) {more : SessionRef → List Command}
    (extends' : s.exchange.Extends more after.exchange) : SessionReaches c s after :=
  others_reaches (fun session found => ⟨session, same.trans found, .rfl⟩) fun session _ =>
    ⟨more session.ref, fun isOpen => Exchange.takes_of_extended isOpen (extends' session.ref)⟩

theorem modifySession_reaches (s : Server) (c d : ConnectionId) {f : Session → Session}
    (persists : ∀ session, s.session? d = some session → c = d → session.Persists (f session)) :
    SessionReaches c s (s.modifySession d f) := by
  refine others_reaches (fun session found => ?_) fun session _ =>
    ⟨[], fun isOpen => ⟨isOpen, (List.append_nil _).symm⟩⟩
  rw [session?_modifySession]
  split
  · rename_i here
    exact ⟨f session, by rw [found, Option.map_some], persists session (here ▸ found) here⟩
  · exact ⟨session, found, .rfl⟩

section

variable {d : ConnectionId} {other : Session} (posted : s.Posted) (found : s.session? d = some other)

include posted found

theorem Posted.elsewhere (elsewhere : c ≠ d) (there : s.session? c = some session) :
    session.ref.queue ≠ other.ref.queue :=
  fun same => elsewhere (posted.apart c d session other there found same)

/-- What one session takes off its queue does not concern the others. -/
theorem drained_reaches (elsewhere : c ≠ d) : SessionReaches c s (s.drained d other) := by
  refine others_reaches (fun session there => ⟨session, ?_, .rfl⟩) fun session there => ⟨[], fun isOpen => ?_⟩
  · exact (session?_modifySession ..).trans ((if_neg elsewhere).trans there)
  · refine Exchange.takes_of_extended isOpen ((s.outbox?_drained d other session.ref).trans ?_)
    rw [if_neg (posted.elsewhere found elsewhere there).symm]
    simp

end

theorem finish_elsewhere {d : ConnectionId} {other : Session} (found : s.session? d = some other) (elsewhere : c ≠ d)
    (apart : ∀ session, s.session? c = some session → session.ref.queue ≠ other.ref.queue) {ending : Ending}
    (known : ending ≠ .registryUnavailable) (farewell : Option Package) (peerFrame : Option CloseFrame) :
    SessionReaches c s (s.finish d ending farewell peerFrame) := by
  have leaves := finish_leaves found known farewell peerFrame
  obtain ⟨closes, _, queues⟩ := leaves.queues
  exact others_reaches (fun session there => ⟨session, (leaves.others c elsewhere).trans there, .rfl⟩)
    fun session there => ⟨closes session.ref, fun isOpen =>
      Exchange.takes_of_extended isOpen (queues session.ref (apart session there))⟩

theorem finish_reaches {d : ConnectionId} {other : Session} (found : s.session? d = some other)
    (live : other.isLive = true)
    (apart : ∀ session, s.session? c = some session → c ≠ d → session.ref.queue ≠ other.ref.queue) {ending : Ending}
    {farewell : Option Package} {peerFrame : Option CloseFrame} (breaksOff : ending.BreaksOff farewell peerFrame) :
    SessionReaches c s (s.finish d ending farewell peerFrame) := by
  by_cases here : c = d
  · subst here
    exact (SessionStep.breaksOff found live breaksOff).reaches
  · exact finish_elsewhere found here (fun session there => apart session there here) breaksOff.known farewell peerFrame

theorem InternalStep.reaches (step : InternalStep s after) (posted : s.Posted) : SessionReaches c s after := by
  cases step with
  | pass duration =>
    exact others_reaches (fun session found => ⟨session, found, .rfl⟩) fun session _ =>
      ⟨[], fun isOpen => ⟨isOpen, (List.append_nil _).symm⟩⟩
  | cancel refs =>
    refine others_reaches (fun session found => ⟨session, found, .rfl⟩) fun session _ => ⟨[], fun isOpen => ⟨?_, ?_⟩⟩
    · exact (Exchange.Keeps.cancels s.exchange refs).accepts isOpen
    · exact (s.exchange.waiting_cancels refs session.ref).trans (List.append_nil _).symm
  | touch d undisturbed =>
    exact modifySession_reaches s c d fun session _ _ => ⟨undisturbed.course session, undisturbed.audible session⟩
  | @upgrade d session found pending =>
    by_cases here : c = d
    · subst here
      exact (SessionStep.upgrade found pending).reaches
    · exact modifySession_reaches s c d fun _ _ same => absurd same here
  | @pump d session found active =>
    by_cases here : c = d
    · subst here
      rw [pumpSession_eq_carry]
      exact (SessionStep.carries _ found active).reaches
    · have drained := drained_reaches posted found here
      rw [pumpSession_eq]
      split
      · exact drained
      · rename_i ending ends
        refine drained.trans (finish_elsewhere (session?_drained found) here (fun own there => ?_) (ending_pump ends)
          none none)
        exact (posted.drained d session).elsewhere (session?_drained found) here there
  | finish found live breaksOff =>
    exact finish_reaches found live (fun _ there elsewhere => posted.elsewhere found elsewhere there) breaksOff

theorem InternalSteps.reaches (steps : InternalSteps s after) (posted : s.Posted) : SessionReaches c s after := by
  induction steps with
  | refl => exact .rfl
  | tail first step ih =>
    have turns : Turns (fun _ => True) s [] _ := InternalSteps.turns first
    exact ih.trans (step.reaches (posted.turns turns))

/-- The registry changes, and commands may be put into the queues. -/
theorem registry_reaches (s : Server) {r : Registry} {more : SessionRef → List Command}
    (extends' : s.exchange.Extends more r.exchange) : SessionReaches c s { s with registry := r } :=
  extends_reaches rfl extends'

theorem payload_reaches (posted : s.Posted) {d : ConnectionId} {other : Session} (found : s.session? d = some other)
    (active : other.phase = .active) (payload : List UInt8) :
    SessionReaches c s (s.receivePayload d other payload) := by
  have recorded : ∀ (r : Registry) (count : Lobby.Count) {more : SessionRef → List Command},
      s.exchange.Extends more r.exchange → SessionReaches c s { s with registry := Lobby.record r count } :=
    fun r count _ extends' => registry_reaches s (by exact extends')
  have offered : ∀ (r : Registry) (p : Package), SessionReaches c { s with registry := r }
      (modifyExchange { s with registry := r } (·.offer other.ref (.write p))) :=
    fun r p => registry_reaches _ (r.exchange.extends_offer other.ref (.write p))
  have ended : ∀ (r : Registry) {p : Package}, p.IsWarning → SessionReaches c { s with registry := r }
      (finish { s with registry := r } d .terminated (some p) none) :=
    fun r p warning => finish_reaches (s := { s with registry := r }) found (Session.isLive_of_active active)
      (fun _ there elsewhere => posted.elsewhere found elsewhere there)
      (Ending.breaksOff_warning (by decide) (by decide) warning)
  cases game : other.game with
  | none =>
    cases decoded : JoinRequest.decode payload with
    | error fault =>
      rw [receive_unidentified game decoded]
      have counted : SessionReaches c s { s with registry := s.registry.measure (·.record .unidentified) } :=
        registry_reaches s (.of_same fun _ => rfl)
      exact counted.trans (offered _ _)
    | ok q =>
      cases answer : s.registry.outcome (q.application d) with
      | ok admission =>
        obtain ⟨_, _, _, _, ⟨closes, _, extends'⟩, _⟩ := Registry.join_of_ok answer
        rw [receive_joined game decoded answer]
        exact (recorded _ _ extends').trans (modifySession_reaches _ c d fun _ _ _ => ⟨rfl, rfl⟩)
      | error failure =>
        obtain ⟨⟨closes, _, extends'⟩, _⟩ := Registry.join_of_error answer
        cases rejection : failure.isRejection with
        | true =>
          rw [receive_full game decoded answer rejection]
          exact (recorded _ _ extends').trans (offered _ _)
        | false =>
          rw [receive_refused game decoded answer rejection]
          exact (recorded _ _ extends').trans (ended _ ⟨_, _, rfl⟩)
  | some ref =>
    simp only [receivePayload, game]
    split
    · exact .rfl
    · rename_i p _
      obtain ⟨⟨more, _, extends'⟩, _⟩ := s.registry.askGame_extends ref (q := .broadcast p) trivial
      have relayed : SessionReaches c s { s with registry := (s.registry.askGame ref (.broadcast p)).2 } :=
        registry_reaches s extends'
      split
      · exact relayed
      · exact relayed.trans (ended _ Notice.isWarning_shuttingDown)

theorem Posted.payload (posted : s.Posted) (found : s.session? c = some session) (active : session.phase = .active)
    (payload : List UInt8) : (s.receivePayload c session payload).Posted := by
  cases game : session.game with
  | none => exact posted.lobby found active game payload
  | some ref =>
    have turns : Turns (fun _ => True) s [] (s.receivePayload c session payload) :=
      relay_turns found active game trivial
    exact posted.turns turns

theorem clientRead_reaches (s : Server) (c d : ConnectionId) : SessionReaches c s (s.clientRead d).2 := by
  rw [clientRead]
  split
  · exact .rfl
  · rename_i session found
    split
    · exact .rfl
    · by_cases here : c = d
      · subst here
        exact (SessionStep.reads found).reaches
      · exact modifySession_reaches s c d fun _ _ same => absurd same here

/-- Whatever happens, nothing happens to a session but what there is in `SessionStep`. -/
theorem Posted.reaches (posted : s.Posted) {i : Incident} (plain : i.Plain) (other : i ≠ .event .connect) :
    SessionReaches c s (s.undergo i) := by
  have served : i.Served → SessionReaches c s (s.undergo i) := by
    intro served
    cases delivers : s.delivered? i with
    | none => exact (undergo_internalSteps served delivers).reaches posted
    | some own =>
      obtain ⟨d, session, payload⟩ := own
      obtain ⟨found, active, steps⟩ := undergo_delivers delivers
      exact (payload_reaches posted found active payload).trans
        (steps.reaches (posted.payload found active payload))
  cases i with
  | event event =>
    cases event with
    | connect => exact absurd rfl other
    | read d => exact clientRead_reaches s c d
    | _ => exact served trivial
  | cancel ref =>
    refine others_reaches (fun session found => ⟨session, found, .rfl⟩) fun session _ => ⟨[], fun isOpen => ⟨?_, ?_⟩⟩
    · exact (Exchange.Keeps.cancels s.exchange [ref]).accepts isOpen
    · exact (s.exchange.waiting_cancels [ref] session.ref).trans (List.append_nil _).symm
  | command ref command => exact registry_reaches s (s.exchange.extends_offer ref command)
  | summon d =>
    refine others_reaches (fun session found => ⟨session, found, .rfl⟩) fun session found => ⟨[], fun isOpen => ?_⟩
    obtain ⟨o, queue, _⟩ := posted.queue c session found
    have inside : session.ref.queue < s.exchange.outboxes.length := (List.getElem?_eq_some_iff.mp queue).1
    have same : (s.exchange.openOutbox d).2.outbox? session.ref = s.exchange.outbox? session.ref :=
      List.getElem?_append_left inside
    exact Exchange.takes_of_extended isOpen (same.trans (by simp))
  | request q =>
    obtain ⟨closes, _, extends'⟩ := s.registry.ask_wordless (q := q) fun a same => by subst same; exact plain
    exact registry_reaches s extends'
  | message ref q =>
    obtain ⟨⟨more, _, extends'⟩, _⟩ := s.registry.askGame_extends ref plain
    exact registry_reaches s extends'
  | halt name => exact registry_reaches s (halt_extends s.registry name).1
  | stop =>
    obtain ⟨⟨closes, _, extends'⟩, _⟩ := cancel_extends s.registry
    exact registry_reaches s extends'
  | _ => exact served trivial

theorem Arrives.reaches (arrives : s.Arrives ⟨s.nextConnection⟩ session between) (posted : s.Posted)
    (new : s.session? ⟨s.nextConnection⟩ = none) : SessionReaches c s between := by
  obtain ⟨closes, _, queues⟩ := arrives.queues
  refine others_reaches (fun own there => ⟨own, arrives.other new there, .rfl⟩) fun own there =>
    ⟨closes own.ref, fun isOpen => ?_⟩
  obtain ⟨o, queue, _⟩ := posted.queue c own there
  exact Exchange.takes_of_extended isOpen (queues own.ref (by rw [queue]; rfl))

theorem begun_reaches (s : Server) : SessionReaches s.openSession.1 s.openSession.2.2 s.begun := by
  obtain ⟨session, found, connecting⟩ := s.session?_openSession
  have other : ∀ a, RegistryRequest.register s.openSession.1 s.openSession.2.1 ≠ .join a := nofun
  obtain ⟨closes, _, extends'⟩ := s.openSession.2.2.registry.ask_wordless other
  rw [← Registry.send_register] at extends'
  have known : SessionStep s.openSession.1 { s.openSession.2.2 with registry := _ } [] [] s.begun :=
    .registers (by exact found) connecting
  exact (registry_reaches s.openSession.2.2 extends').trans known.reaches

theorem connect_reaches (posted : s.Posted) (new : s.session? ⟨s.nextConnection⟩ = none) :
    SessionReaches s.openSession.1 s.openSession.2.2 s.connect.2 := by
  cases running : s.registry.running with
  | true =>
    have begun := (begun_arrives posted running new).posted_after posted new
    exact s.begun_reaches.trans ((connect_internalSteps running).reaches begun)
  | false =>
    obtain ⟨session, found, connecting⟩ := s.session?_openSession
    rw [connect_stopped running]
    exact (SessionStep.turnsOff found connecting).reaches

/-- Things are in order, and every session has come from its opening to what it is by steps of its own. So what
is said of sessions that go through such steps is true of all sessions, in every run of the server. -/
structure SessionsReached (s : Server) : Prop where
  posted : s.Posted
  since : ∀ c session, s.session? c = some session → ∃ t : Server, t.openSession.1 = c ∧
    SessionReaches c t.openSession.2.2 s

theorem create_sessionsReached (capacity handshakeTimeout : Nat) : (create capacity handshakeTimeout).SessionsReached :=
  ⟨create_posted capacity handshakeTimeout, nofun⟩

theorem SessionsReached.undergo (reached : s.SessionsReached) {count : Nat} (numbered : s.Numbered count) {i : Incident}
    (plain : i.Plain) (few : count + (i.arrival s).length ≤ 2 ^ 64) :
    (s.undergo i).SessionsReached ∧ (s.undergo i).Numbered (count + (i.arrival s).length) := by
  obtain ⟨posted, since⟩ := reached
  have next : s.Proceeds (fun _ => True) i (s.undergo i) ∧ (s.undergo i).Numbered (count + (i.arrival s).length) :=
    posted.proceeds numbered plain few fun _ _ => trivial
  obtain ⟨proceeds, numbered'⟩ := next
  refine ⟨⟨proceeds.posted, fun c session found => ?_⟩, numbered'⟩
  -- a session that there has been before goes through some more steps
  have on : c ∈ s.sessions.keys → SessionReaches c s (s.undergo i) →
      ∃ t : Server, t.openSession.1 = c ∧ SessionReaches c t.openSession.2.2 (s.undergo i) := by
    intro there reaches
    obtain ⟨before, found⟩ := Table.mem_keys_iff.mp there
    obtain ⟨t, own, first⟩ := since c before found
    exact ⟨t, own, first.trans reaches⟩
  have inside := Table.mem_keys_of_find? found
  by_cases comes : i = .event .connect
  · subst comes
    have new := numbered.new (Nat.lt_of_succ_le few)
    by_cases here : c = ⟨s.nextConnection⟩
    · subst here
      exact ⟨s, rfl, connect_reaches posted new⟩
    · obtain ⟨_, between, arrives, steps⟩ := connect_arrives posted new
      rw [Server.undergo, perform, (steps.turns).sameNumbers.keys] at inside
      obtain ⟨begun, there⟩ := Table.mem_keys_iff.mp inside
      have there := (arrives.sessions c).symm.trans there
      rw [if_neg here] at there
      exact on (Table.mem_keys_of_find? there)
        ((arrives.reaches posted new).trans (steps.reaches (arrives.posted_after posted new)))
  · rw [(undergo_sameNumbers comes).keys] at inside
    exact on inside (posted.reaches plain comes)

/-- In every run in which nobody but the clients comes into games, each session has come to where it is by such things
alone. -/
theorem after_sessionSteps (capacity handshakeTimeout : Nat) {run : List Incident} (plain : ∀ i ∈ run, i.Plain)
    (few : ((create capacity handshakeTimeout).arrivals run).length ≤ 2 ^ 64) :
    ∀ c session, ((create capacity handshakeTimeout).after run).session? c = some session →
      ∃ t : Server, t.openSession.1 = c ∧ ∃ queued read,
        SessionSteps c t.openSession.2.2 queued read ((create capacity handshakeTimeout).after run) := by
  have whole : ∀ (run : List Incident) {s : Server} {count : Nat}, s.SessionsReached → s.Numbered count →
      (∀ i ∈ run, i.Plain) → count + (s.arrivals run).length ≤ 2 ^ 64 → (s.after run).SessionsReached := by
    intro run
    induction run with
    | nil => exact fun reached _ _ _ => reached
    | cons i run ih =>
      intro s count reached numbered plain few
      rw [arrivals, List.length_append, ← Nat.add_assoc] at few
      obtain ⟨reached', numbered'⟩ :=
        reached.undergo numbered (plain i List.mem_cons_self) (Nat.le_trans (Nat.le_add_right _ _) few)
      exact ih reached' numbered' (fun j member => plain j (List.mem_cons_of_mem _ member)) few
  intro c session found
  exact (whole run (create_sessionsReached capacity handshakeTimeout) (create_numbered capacity handshakeTimeout) plain
    (by rwa [Nat.zero_add])).since c session found

end Server

end Scrimmage
