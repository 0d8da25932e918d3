import Scrimmage.Proofs.Incidents

namespace Scrimmage

open Text

namespace Registry

/-- Whoever is not let in is not told to close either, unless its queue is that of a member of a game. -/
theorem outbox?_refused {r : Registry} (attended : r.Attended) (running : r.running = true) {a : Application}
    {failure : Failure} (refused : r.outcome a = .error failure) {s : SessionRef}
    (outside : ∀ d m, r.members.find? d = some m → m.session.queue = s.queue → m.game = none) :
    (r.ask (.join a)).2.exchange.outbox? s = r.exchange.outbox? s := by
  have handled := r.handle_undergoes (.join a)
  simp only [running, if_true, requestChange, verdict_eq_error running refused] at handled
  have reaped := (r.handle (.join a)).2.reap_undergoes
  have nobody : (r.handle (.join a)).2.membersOf (r.handle (.join a)).2.hasStopped s = 0 := by
    rw [membersOf, List.countP_eq_zero]
    intro m inside
    obtain ⟨d, known⟩ := Table.mem_values_iff.mp inside
    rw [handled.member] at known
    by_cases here : m.session.queue = s.queue
    · simp [outside d m known here]
    · simp [here]
  have kept : (r.handle (.join a)).2.reap.exchange.outbox? s = r.exchange.outbox? s := by
    rw [reaped.outbox, handled.outbox]
    simp [Change.reap, Change.close, nobody]
  have going : (r.handle (.join a)).2.reap.cancelled = false := by
    have same : (r.handle (.join a)).2.reap.standing = r.standing := reaped.standing.trans handled.standing
    exact (congrArg Standing.cancelled same).trans (attended.awake running)
  rw [ask_eq_handle]
  simp only [running, if_true, turn, going, Bool.false_eq_true, if_false]
  exact kept

end Registry

/-- Of texts with nothing but commands to close behind them, all are sent. -/
theorem length_texts_pump {words : List Package} (texts : ∀ p ∈ words, IsText p.octets) {closes : List Command}
    (wordless : written closes = []) : (pump (words.map .write ++ closes)).texts.length = words.length := by
  induction words with
  | nil =>
    cases closes with
    | nil => rfl
    | cons command closes =>
      cases command with
      | close reason => rfl
      | write p => cases wordless
  | cons p words ih =>
    obtain ⟨text, isText, _⟩ := p.text_of_isText (texts p List.mem_cons_self)
    rw [List.map_cons, List.cons_append, pump, isText]
    exact congrArg (· + 1) (ih fun p inside => texts p (List.mem_cons_of_mem _ inside))

theorem Exchange.isCancelled_extended {x y : Exchange} {s : SessionRef} {commands : List Command}
    (after : y.outbox? s = (x.outbox? s).map (extended · commands)) : y.isCancelled s = x.isCancelled s := by
  rw [isCancelled, isCancelled, after]
  cases x.outbox? s with
  | none => rfl
  | some o => by_cases isOpen : o.isOpen <;> simp [extended, isOpen]

namespace Server

variable {allowed : Package → Prop} {s after : Server} {c d : ConnectionId} {session : Session}
  {read : List (List UInt8)} {log : Log}

/-- What waits for a session will be passed on before the session ends: it is active, nobody has told it to
stop, and what is in its queue are packages of text and then nothing but commands to close. -/
structure Prompt (s : Server) (session : Session) : Prop where
  active : session.phase = .active
  going : s.exchange.isCancelled session.ref = false
  waiting : ∃ (words : List Package) (closes : List Command),
    s.exchange.waiting session.ref = words.map .write ++ closes ∧ written closes = [] ∧ ∀ p ∈ words, IsText p.octets

namespace Prompt

variable (prompt : s.Prompt session)

include prompt

theorem extend (closes : List Command) (wordless : written closes = [])
    (same : after.exchange.outbox? session.ref =
      (s.exchange.outbox? session.ref).map (Exchange.extended · closes)) : after.Prompt session where
  active := prompt.active
  going := (Exchange.isCancelled_extended same).trans prompt.going
  waiting := by
    obtain ⟨words, others, waits, nothing, texts⟩ := prompt.waiting
    refine ⟨words, others ++ if s.exchange.accepts session.ref then closes else [], ?_, ?_, texts⟩
    · rw [Exchange.waiting_extended same, waits, List.append_assoc]
    · rw [written_append, nothing]
      split
      · exact wordless
      · rfl

theorem tend (posted : s.Posted) (found : s.session? c = some session) (other : d ≠ c) :
    (s.tend d).session? c = some session ∧ (s.tend d).Prompt session := by
  have same : ∀ t : Server, t.exchange.outbox? session.ref = s.exchange.outbox? session.ref → t.Prompt session :=
    fun t same => prompt.extend [] rfl (by rw [same]; simp)
  have ends : ∀ {t : Server} {one : Session} {ending : Ending} {frames : List ServerFrame} {after : Server},
      t.session? c = some session → t.Prompt session → t.Leaves d one ending frames after →
      one.ref.queue ≠ session.ref.queue → after.session? c = some session ∧ after.Prompt session := by
    intro t one ending frames after found prompt leaves apart
    obtain ⟨closes, wordless, queues⟩ := leaves.queues
    exact ⟨(leaves.others c other.symm).trans found, prompt.extend _ (wordless session.ref) (queues _ apart.symm)⟩
  rw [Server.tend]
  split
  · exact ⟨found, prompt⟩
  · rename_i one there
    have apart : one.ref.queue ≠ session.ref.queue := fun same => other (posted.apart d c one session there found same)
    split
    · exact ⟨found, prompt⟩
    · split
      · exact ends found prompt (finish_leaves there (by decide) _ none) apart
      · split
        · have drained : (s.drained d one).session? c = some session ∧ (s.drained d one).Prompt session :=
            ⟨(session?_modifySession ..).trans ((if_neg other.symm).trans found),
              same _ ((outbox?_drained ..).trans (if_neg apart))⟩
          rw [pumpSession_eq]
          split
          · exact drained
          · rename_i ending ends'
            exact ends drained.1 drained.2 (finish_leaves (session?_drained there) (ending_pump ends') none none) apart
        · exact ⟨found, prompt⟩

theorem passes (posted : s.Posted) (found : s.session? c = some session) (tells : s.Tells allowed c read log) :
    ∃ log', (s.tend c).Tells allowed c read log' ∧ log.Grows log' [] ∧ log'.left = [] := by
  have live := Session.isLive_of_active prompt.active
  have same : s.tend c = s.pumpSession c session := by
    simp only [Server.tend, found, live, Bool.not_true, Bool.false_eq_true, if_false, prompt.going,
      prompt.active, if_true]
  obtain ⟨words, closes, waits, wordless, texts⟩ := prompt.waiting
  refine ⟨_, same ▸ tells.passes posted found prompt.active, log.grows_pass _, List.drop_eq_nil_of_le ?_⟩
  obtain ⟨_, found', follows⟩ := tells
  cases found.symm.trans found'
  have left : (s.exchange.written session.ref).length = log.left.length := by
    rw [follows.waiting live, List.length_map]
  rw [waits, length_texts_pump texts wordless, ← left, Exchange.written, waits, written_append, wordless,
    List.append_nil]
  exact List.length_filterMap_le .. |>.trans (by rw [List.length_map])

end Prompt

/-- All answers of the log, as it goes on, have been passed on. -/
def Passed (allowed : Package → Prop) (s : Server) (c : ConnectionId) (read : List (List UInt8)) (log : Log) : Prop :=
  ∃ log', s.Tells allowed c read log' ∧ log.Grows log' [] ∧ log'.IsAnswered

theorem Passed.then (passed : s.Passed allowed c read log) (posted : s.Posted) (turns : Turns allowed s [] after) :
    after.Passed allowed c read log := by
  obtain ⟨log', tells, grows, answered⟩ := passed
  obtain ⟨log'', tells', grows'⟩ := turns.continues posted tells
  exact ⟨log'', tells', grows.trans grows', grows'.isAnswered answered⟩

namespace Prompt

theorem foldl_tend (posted : s.Posted) (found : s.session? c = some session) (prompt : s.Prompt session)
    (tells : s.Tells allowed c read log) {cs : List ConnectionId} (inside : c ∈ cs) :
    (cs.foldl Server.tend s).Passed allowed c read log := by
  induction cs generalizing s log with
  | nil => cases inside
  | cons d cs ih =>
    have posted' := posted.tend d
    by_cases here : d = c
    · subst here
      obtain ⟨log', tells', grows, none⟩ := prompt.passes posted found tells
      have passed : (s.tend d).Passed allowed d read log := ⟨log', tells', grows, by rw [Log.IsAnswered, none]; rfl⟩
      exact passed.then posted' (InternalSteps.foldl tend_internalSteps _ cs).turns
    · obtain ⟨found', prompt'⟩ := prompt.tend posted found here
      obtain ⟨log', tells', grows⟩ := (tend_turns s d).continues posted tells
      have later := (List.mem_cons.mp inside).resolve_left (Ne.symm here)
      obtain ⟨log'', tells'', grows', answered⟩ := ih posted' found' prompt' tells' later
      exact ⟨log'', tells'', grows.trans grows', answered⟩

theorem settle (posted : s.Posted) (found : s.session? c = some session) (prompt : s.Prompt session)
    (tells : s.Tells allowed c read log) : s.settle.Passed allowed c read log := by
  have first := prompt.foldl_tend posted found tells (Table.mem_keys_of_find? found)
  exact first.then posted.tendAll (tendRounds_turns ..)

end Prompt

section

variable (posted : s.Posted) (found : s.session? c = some session) (active : session.phase = .active)
  (rests : s.RestsAt c)

include posted found active rests

/-- Something is put into the queue of a session that had nothing to do. -/
theorem prompt_of_posted {later : Session} (phase : later.phase = .active) (ref : later.ref = session.ref)
    {notice : Notice} {closes : List Command} (wordless : written closes = [])
    (same : after.exchange.outbox? session.ref =
      (s.exchange.outbox? session.ref).map (Exchange.extended · (.write notice.encode :: closes))) :
    after.Prompt later := by
  obtain ⟨going, empty⟩ := rests session found (Session.isLive_of_active active)
  refine ⟨phase, ?_, [notice.encode], closes, ?_, wordless, fun p inside => ?_⟩
  · rw [ref, Exchange.isCancelled_extended same, going]
  · rw [ref, Exchange.waiting_extended same, empty active,
      if_pos (posted.accepts found (Session.isLive_of_active active))]
    rfl
  · rw [List.mem_singleton.mp inside]
    exact notice.encode_isText

theorem prompt_lobby (outside : session.game = none) {payload : List UInt8} {a : Answer}
    (answered : s.registry.answerTo? c payload = some a) :
    ∃ later, (s.receivePayload c session payload).session? c = some later ∧
      (s.receivePayload c session payload).Prompt later := by
  rw [Registry.answerTo?] at answered
  cases decoded : JoinRequest.decode payload with
  | error fault =>
    rw [decoded] at answered
    cases answered
  | ok q =>
    simp only [decoded] at answered
    cases outcome : s.registry.outcome (q.application c) with
    | ok admission =>
      rw [receive_joined outside decoded outcome]
      obtain ⟨m, known, _, _, ⟨closes, wordless, extends'⟩, _⟩ := Registry.join_of_ok outcome
      obtain ⟨other, there, same, _⟩ := posted.member _ m known
      cases found.symm.trans there
      refine ⟨_, session?_modifySession_self (s := { s with
        registry := Lobby.record (s.registry.ask (.join (q.application c))).2 .joined }) found _, ?_⟩
      have told := extends' session.ref
      simp only [same, if_true] at told
      exact prompt_of_posted posted found active rests active rfl (wordless session.ref) told
    | error failure =>
      simp only [outcome] at answered
      split at answered
      · rename_i rejection
        rw [receive_full outside decoded outcome rejection]
        have running : s.registry.running = true := by
          cases running : s.registry.running with
          | true => rfl
          | false =>
            cases (Registry.outcome_stopped running _).symm.trans outcome
            cases rejection
        have kept := Registry.outbox?_refused (s := session.ref) posted.attended running outcome
            fun d m known same => by
          obtain ⟨other, there, ref, placed⟩ := posted.member d m known
          have here := posted.apart d c other session there found (ref ▸ same)
          subst here
          cases found.symm.trans there
          exact placed.mpr outside
        have told := Exchange.outbox?_offer
          (Lobby.record (s.registry.ask (.join (q.application c))).2 .full).exchange session.ref session.ref
          (.write (Notice.full q.id).encode)
        rw [if_pos rfl] at told
        have nothing : written [] = [] := rfl
        exact ⟨session, found,
          prompt_of_posted posted found active rests active rfl nothing (told.trans (congrArg _ kept))⟩
      · cases answered

end

end Server

end Scrimmage
