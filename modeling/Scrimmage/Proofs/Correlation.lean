import Scrimmage.Proofs.Passing
import Scrimmage.Proofs.Stated

namespace Scrimmage

open Json Text

/-- A join that a client sends from outside every game, and what comes of it. There is no result if the session
ends because of it. -/
structure Attempt where
  request : JoinRequest
  result : Option JoinResult

/-- The answer that is due, unless the join is the last thing that the session does. -/
def Attempt.answer? (t : Attempt) : Option Answer := t.result.map fun result => { id := t.request.id, result }

namespace Registry

def resultOf (r : Registry) (c : ConnectionId) (q : JoinRequest) : Option JoinResult :=
  match r.outcome (q.application c) with
  | .ok admission => some (.joined admission.placement.slot admission.placement.players)
  | .error failure => if failure.isRejection then some .full else none

def attempt? (r : Registry) (c : ConnectionId) (payload : List UInt8) : Option Attempt :=
  (JoinRequest.decode payload).toOption.map fun request => { request, result := r.resultOf c request }

theorem answerTo?_eq (r : Registry) (c : ConnectionId) (payload : List UInt8) :
    r.answerTo? c payload = (r.attempt? c payload).bind Attempt.answer? := by
  rw [answerTo?, attempt?]
  cases JoinRequest.decode payload with
  | error fault => rfl
  | ok q =>
    simp only [Except.toOption, Option.map_some, Option.bind_some, Attempt.answer?, resultOf]
    cases r.outcome (q.application c) with
    | ok admission => rfl
    | error failure =>
      simp only
      split <;> rfl

end Registry

namespace Server

variable {allowed : Package → Prop} {s after : Server} {c : ConnectionId} {session : Session}
  {read : List (List UInt8)} {log : Log}

def attempt? (s : Server) (c : ConnectionId) (frame : ClientFrame) : Option Attempt :=
  match s.session? c with
  | none => none
  | some session =>
    if session.phase = .active ∧ session.game = none then frame.checked.payload?.bind (s.registry.attempt? c) else none

/-- The joins that a client sends in an incident. -/
def attempts (s : Server) (c : ConnectionId) : Incident → List Attempt
  | .event (.send d frame) => if d = c ∧ s.listens d = true then (s.attempt? d frame).toList else []
  | .violate d violation => if d = c then (violation.frame?.bind (s.attempt? d)).toList else []
  | _ => []

/-- What there is to say of the incidents of a run, one after the other. -/
def along {α : Type} (f : Server → Incident → List α) (s : Server) : List Incident → List α
  | [] => []
  | i :: run => f s i ++ along f (s.undergo i) run

theorem answers_eq (s : Server) (c : ConnectionId) (frame : ClientFrame) :
    s.answers c frame = (((s.attempt? c frame).bind Attempt.answer?).map fun a => (c, a)).toList := by
  rw [answers, attempt?]
  cases s.session? c with
  | none => rfl
  | some session =>
    simp only
    split
    · rw [Option.bind_assoc]
      simp only [Registry.answerTo?_eq]
    · rfl

/-- The answers in an incident are those to the joins that are sent in it. -/
theorem answersFor_answered (s : Server) (c : ConnectionId) (i : Incident) :
    answersFor c (s.answered i) = (s.attempts c i).filterMap Attempt.answer? := by
  have own : ∀ d frame, answersFor c (s.answers d frame) =
      if d = c then (s.attempt? d frame).toList.filterMap Attempt.answer? else [] := by
    intro d frame
    rw [answers_eq, answersFor_own]
    split
    · cases s.attempt? d frame with
      | none => rfl
      | some t => cases answer : t.answer? <;> simp [answer]
    · rfl
  cases i with
  | event event =>
    cases event with
    | send d frame =>
      simp only [answered, attempts]
      by_cases listens : s.listens d = true
      · rw [if_pos listens, own]
        simp only [listens, and_true]
        split <;> rfl
      · simp [listens, answersFor]
    | _ => rfl
  | violate d violation =>
    simp only [answered, attempts]
    cases violation.frame? with
    | none => simp [answersFor]
    | some frame =>
      rw [Option.map_some, Option.getD_some, own, Option.bind_some]
      split <;> rfl
  | _ => rfl

/-- The notice is put into the queue of the session, and nothing into any other queue. -/
def Posts (s : Server) (session : Session) (notice : Notice) (after : Server) : Prop :=
  ∀ ref, after.exchange.written ref =
    s.exchange.written ref ++ if ref.queue = session.ref.queue then [notice.encode] else []

/-- What becomes of a join of a client that is in no game. One that is accepted is answered by the game, one
that is turned away by the lobby, and both answers are put into the queue of the same session and no other; any
other failure ends the session with a warning. -/
inductive Echoed (s : Server) (c : ConnectionId) (session : Session) (q : JoinRequest) (after : Server) : Prop
  | joined {admission : Admission} : s.registry.outcome (q.application c) = .ok admission →
      s.Posts session (.joined q.id admission.placement.slot admission.placement.players) after →
      after.session? c = some { session with game := some admission.game } → Echoed s c session q after
  | full : s.registry.outcome (q.application c) = .error (.gameFull q.game) → s.Posts session (.full q.id) after →
      after.session? c = some session → Echoed s c session q after
  /-- The session ends, and its client is told why. -/
  | ended {failure : Failure} {text : String} : s.registry.outcome (q.application c) = .error failure →
      failure.isRejection = false →
      (∀ ref : SessionRef, ref.queue ≠ session.ref.queue → after.exchange.written ref = s.exchange.written ref) →
      (Notice.warning failure.clientText true).encode.text = .ok text →
      after.session? c = some (session.ended .terminated [.text text, .close none]) → Echoed s c session q after

/-- Who is in no game has joined none as far as the registry knows. -/
theorem Posted.unjoined (posted : s.Posted) (found : s.session? c = some session) (outside : session.game = none)
    {m : Member} (known : s.registry.members.find? c = some m) : m.game = none := by
  obtain ⟨other, there, _, placed⟩ := posted.member c m known
  cases found.symm.trans there
  exact placed.mpr outside

/-- Commands of which one writes to an open queue, and the others nothing. -/
theorem posts_of_extends (accepts : s.exchange.accepts session.ref = true) {notice : Notice}
    {more : SessionRef → List Command} (extends' : s.exchange.Extends more after.exchange)
    (told : ∀ ref, written (more ref) = if session.ref.queue = ref.queue then [notice.encode] else []) :
    s.Posts session notice after := by
  intro ref
  rw [extends'.written, told]
  by_cases here : ref.queue = session.ref.queue
  · have taken : s.exchange.accepts ref = true := by
      rw [Exchange.accepts, Exchange.outbox?, here]
      exact accepts
    rw [if_pos taken, if_pos here.symm, if_pos here]
  · rw [if_neg (Ne.symm here), if_neg here, ite_self]

theorem Posted.echoed (posted : s.Posted) (found : s.session? c = some session) (active : session.phase = .active)
    (outside : session.game = none) {payload : List UInt8} {q : JoinRequest}
    (decoded : JoinRequest.decode payload = .ok q) : s.Echoed c session q (s.receivePayload c session payload) := by
  have accepts := posted.accepts found (Session.isLive_of_active active)
  cases outcome : s.registry.outcome (q.application c) with
  | ok admission =>
    rw [receive_joined outside decoded outcome]
    obtain ⟨m, known, _, _, ⟨closes, wordless, extends'⟩, _⟩ := Registry.join_of_ok outcome
    obtain ⟨other, there, same, _⟩ := posted.member _ m known
    cases found.symm.trans there
    refine .joined outcome (posts_of_extends accepts extends' fun ref => ?_) (session?_modifySession_self (s := { s with
      registry := Lobby.record (s.registry.ask (.join (q.application c))).2 .joined }) found _)
    rw [written_append, wordless, List.append_nil, same]
    split <;> rfl
  | error failure =>
    obtain ⟨⟨closes, wordless, extends'⟩, _⟩ := Registry.join_of_error outcome
    cases rejection : failure.isRejection with
    | true =>
      rw [receive_full outside decoded outcome rejection]
      obtain ⟨rfl, _⟩ := posted.attended.gameFull (fun m known => posted.unjoined found outside known) outcome rejection
      have asked : s.exchange.Extends closes
        (Lobby.record (s.registry.ask (.join (q.application c))).2 .full).exchange := extends'
      have replied := asked.trans (Exchange.extends_offer _ session.ref (.write (Notice.full q.id).encode))
      refine .full outcome (posts_of_extends accepts replied fun ref => ?_) found
      rw [written_append, wordless, List.nil_append]
      split <;> rfl
    | false =>
      rw [receive_refused outside decoded outcome rejection]
      obtain ⟨text, spelled, _⟩ :=
        (Notice.warning failure.clientText true).encode.text_of_isText (Notice.encode_isText _)
      have told : Ending.terminated ≠ .registryUnavailable := by decide
      have leaves := finish_leaves (s := { s with
        registry := Lobby.record (s.registry.ask (.join (q.application c))).2 .rejected }) found told
        (some (Notice.warning failure.clientText true).encode) none
      refine .ended outcome rejection (fun ref other => ?_) spelled (leaves.ended.trans ?_)
      · exact (leaves.written other).trans (extends'.written_of_wordless wordless ref)
      · simp [goodbye, active, spelled]

theorem along_append {α : Type} (f : Server → Incident → List α) (s : Server) (earlier later : List Incident) :
    s.along f (earlier ++ later) = s.along f earlier ++ (s.after earlier).along f later := by
  induction earlier generalizing s with
  | nil => rfl
  | cons i earlier ih => rw [List.cons_append, along, ih, along, List.append_assoc]; rfl

/-- The answers to the joins that a client sends. -/
def answersTo (s : Server) (c : ConnectionId) (run : List Incident) : List Answer :=
  (s.along (·.attempts c) run).filterMap Attempt.answer?

def readsOf (s : Server) (c : ConnectionId) (run : List Incident) : List (List UInt8) := s.along (·.reads c) run

theorem answersTo_append (s : Server) (c : ConnectionId) (earlier later : List Incident) :
    s.answersTo c (earlier ++ later) = s.answersTo c earlier ++ (s.after earlier).answersTo c later := by
  rw [answersTo, along_append, List.filterMap_append]
  rfl

theorem readsOf_append (s : Server) (c : ConnectionId) (earlier later : List Incident) :
    s.readsOf c (earlier ++ later) = s.readsOf c earlier ++ (s.after earlier).readsOf c later :=
  along_append ..

/-- What incidents come to for all clients, where the logs are kept in some way. -/
structure Carries (allowed : Package → Prop) (P : Log → Prop) (s : Server) (run : List Incident) : Prop where
  old : ∀ c read log, s.Tells allowed c read log → P log →
    ∃ log', (s.after run).Tells allowed c (read ++ s.readsOf c run) log' ∧ log.Grows log' (s.answersTo c run) ∧ P log'
  new : ∀ c, s.session? c = none →
    (s.after run).session? c = none ∧ s.readsOf c run = [] ∧ s.answersTo c run = [] ∨
      ∃ log, (s.after run).Tells allowed c (s.readsOf c run) log ∧ log.answers = s.answersTo c run ∧ P log

namespace Carries

variable {P : Log → Prop} {run more : List Incident}

theorem rfl : Carries allowed P s [] where
  old c read log tells keeps := ⟨log, by rwa [readsOf, along, List.append_nil], .rfl, keeps⟩
  new c absent := Or.inl ⟨absent, .refl _, .refl _⟩

theorem trans (first : Carries allowed P s run) (second : Carries allowed P (s.after run) more) :
    Carries allowed P s (run ++ more) where
  old c read log tells keeps := by
    obtain ⟨log', tells', grows, keeps'⟩ := first.old c read log tells keeps
    obtain ⟨log'', tells'', grows', keeps''⟩ := second.old c _ log' tells' keeps'
    rw [readsOf_append, answersTo_append, ← List.append_assoc, after, List.foldl_append]
    exact ⟨log'', tells'', grows.trans grows', keeps''⟩
  new c absent := by
    rw [readsOf_append, answersTo_append, after, List.foldl_append]
    rcases first.new c absent with ⟨absent', reads, answers⟩ | ⟨log, tells, answers, keeps⟩
    · rw [reads, answers]
      exact second.new c absent'
    · obtain ⟨log', tells', grows, keeps'⟩ := second.old c _ log tells keeps
      exact Or.inr ⟨log', tells', grows.answers.trans (congrArg (· ++ _) answers), keeps'⟩

end Carries

theorem answersTo_singleton (s : Server) (c : ConnectionId) (i : Incident) :
    s.answersTo c [i] = answersFor c (s.answered i) := by
  rw [answersFor_answered, answersTo, along, along, List.append_nil]

theorem readsOf_singleton (s : Server) (c : ConnectionId) (i : Incident) : s.readsOf c [i] = s.reads c i :=
  List.append_nil _

theorem nothing_of_absent (absent : s.session? c = none) (i : Incident) :
    s.readsOf c [i] = [] ∧ s.answersTo c [i] = [] := by
  rw [readsOf_singleton, answersTo, along, along, List.append_nil]
  cases i with
  | event event =>
    cases event with
    | read d =>
      refine ⟨?_, rfl⟩
      simp only [reads]
      split
      · rename_i here
        subst here
        simp only [clientRead, absent]
        rfl
      · rfl
    | send d frame =>
      refine ⟨rfl, ?_⟩
      simp only [attempts]
      split
      · rename_i here
        simp only [here.1, attempt?, absent]
        rfl
      · rfl
    | _ => exact ⟨rfl, rfl⟩
  | violate d violation =>
    refine ⟨rfl, ?_⟩
    simp only [attempts]
    split
    · rename_i here
      subst here
      cases violation.frame? with
      | none => rfl
      | some frame =>
        simp only [Option.bind_some, attempt?, absent]
        rfl
    · rfl
  | _ => exact ⟨rfl, rfl⟩

theorem Proceeds.carries {i : Incident} (proceeds : s.Proceeds allowed i (s.undergo i)) :
    Carries allowed (fun _ => True) s [i] where
  old c read log tells _ := by
    obtain ⟨log', tells', grows⟩ := proceeds.old c read log tells
    rw [readsOf_singleton, answersTo_singleton]
    exact ⟨log', tells', grows, trivial⟩
  new c absent := by
    obtain ⟨reads, answers⟩ := nothing_of_absent absent i
    rw [reads, answers]
    cases found : (s.after [i]).session? c with
    | none => exact Or.inl ⟨rfl, rfl, rfl⟩
    | some session =>
      obtain ⟨log, tells, grows⟩ := proceeds.new c session absent found
      exact Or.inr ⟨log, tells, grows.answers, trivial⟩

/-- A message that is answered comes from an active session outside every game. The answer is what the registry
makes of its payload. -/
structure Heard (s : Server) (c : ConnectionId) (session : Session) (frame : ClientFrame) (payload : List UInt8)
    (a : Answer) : Prop where
  found : s.session? c = some session
  active : session.phase = .active
  outside : session.game = none
  message : frame.checked.payload? = some payload
  answer : s.registry.answerTo? c payload = some a

theorem heard_of_answers {d : ConnectionId} {frame : ClientFrame} {a : Answer} {more : List Answer}
    (answered : answersFor c (s.answers d frame) = a :: more) :
    d = c ∧ more = [] ∧ ∃ session payload, s.Heard c session frame payload a := by
  rw [answers] at answered
  cases found : s.session? d with
  | none =>
    rw [found] at answered
    cases answered
  | some session =>
    simp only [found] at answered
    split at answered
    · rename_i outside
      rw [answersFor_own] at answered
      split at answered
      · rename_i here
        subst here
        cases message : frame.checked.payload? with
        | none =>
          rw [message] at answered
          cases answered
        | some payload =>
          rw [message, Option.bind_some] at answered
          cases answer : s.registry.answerTo? d payload with
          | none =>
            rw [answer] at answered
            cases answered
          | some a' =>
            rw [answer] at answered
            cases answered
            exact ⟨rfl, rfl, session, payload, found, outside.1, outside.2, message, answer⟩
      · cases answered
    · cases answered

/-- An incident in which a client is answered is a frame of the client. -/
theorem heard_of_answered {i : Incident} {a : Answer} {more : List Answer}
    (answered : answersFor c (s.answered i) = a :: more) :
    more = [] ∧ s.reads c i = [] ∧
      ∃ session frame payload, s.Heard c session frame payload a ∧ s.undergo i = (s.receive c frame).settle := by
  cases i with
  | event event =>
    cases event with
    | send d frame =>
      simp only [Server.answered] at answered
      split at answered
      · rename_i listens
        obtain ⟨rfl, only, session, payload, heard⟩ := heard_of_answers answered
        refine ⟨only, rfl, session, frame, payload, heard, ?_⟩
        rw [undergo, perform, clientSend, ← Server.listens, if_pos listens]
        rfl
      · cases answered
    | _ => cases answered
  | violate d violation =>
    cases violation with
    | invalidFrame | fragmented =>
      obtain ⟨rfl, only, session, payload, heard⟩ := heard_of_answers answered
      exact ⟨only, rfl, session, _, payload, heard, rfl⟩
    | _ => cases answered
  | _ => cases answered

theorem Posted.passes_answer (posted : s.Posted) (rests : s.RestsAt c) (tells : s.Tells allowed c read log)
    {frame : ClientFrame} {payload : List UInt8} {a : Answer} (heard : s.Heard c session frame payload a) :
    ∃ log', (s.receive c frame).settle.Tells allowed c read log' ∧ log.Grows log' [a] ∧ log'.IsAnswered := by
  rw [receive_message heard.found heard.active heard.message]
  have lobby : Turn allowed s _ (s.receivePayload c session payload) :=
    .lobby payload heard.found heard.active heard.outside
  obtain ⟨log', tells', grows⟩ := lobby.continues posted tells
  rw [answersFor_own, if_pos rfl, heard.answer] at grows
  have posted' := posted.lobby heard.found heard.active heard.outside payload
  obtain ⟨later, found', prompt⟩ :=
    prompt_lobby posted heard.found heard.active rests heard.outside heard.answer
  obtain ⟨log'', tells'', grows', answered⟩ := prompt.settle posted' found' tells'
  exact ⟨log'', tells'', grows.trans grows', answered⟩

/-- When the server comes to rest after each incident, no answer is lost. -/
theorem Proceeds.settles (posted : s.Posted) (rest : s.AtRest) {i : Incident}
    (proceeds : s.Proceeds allowed i (s.undergo i)) : Carries allowed Log.IsAnswered s [i, .settle] where
  old c read log tells answered := by
    have readsOf : s.readsOf c [i, .settle] = s.reads c i := by
      rw [← readsOf_singleton]
      exact (readsOf_append s c [i] [.settle]).trans (List.append_nil _)
    have answersTo : s.answersTo c [i, .settle] = answersFor c (s.answered i) := by
      rw [← answersTo_singleton]
      exact (answersTo_append s c [i] [.settle]).trans (List.append_nil _)
    rw [readsOf, answersTo]
    cases some : answersFor c (s.answered i) with
    | nil =>
      obtain ⟨log', tells', grows⟩ := proceeds.old c read log tells
      rw [some] at grows
      have passed : (s.undergo i).Passed allowed c (read ++ s.reads c i) log :=
        ⟨log', tells', grows, grows.isAnswered answered⟩
      exact passed.then proceeds.posted (settle_turns _)
    | cons a more =>
      obtain ⟨rfl, reads, session, frame, payload, heard, same⟩ := heard_of_answered some
      obtain ⟨log', tells', grows, answered'⟩ := posted.passes_answer (rest c) tells heard
      have passed : (s.undergo i).Passed allowed c read log' := ⟨log', same ▸ tells', .rfl, answered'⟩
      obtain ⟨log'', tells'', grows', answered''⟩ := passed.then proceeds.posted (settle_turns _)
      rw [reads, List.append_nil]
      exact ⟨log'', tells'', grows.trans grows', answered''⟩
  new c absent := by
    obtain ⟨reads, answers⟩ := nothing_of_absent absent i
    have readsOf : s.readsOf c [i, .settle] = [] := (readsOf_append s c [i] [.settle]).trans (by rw [reads]; rfl)
    have answersTo : s.answersTo c [i, .settle] = [] :=
      (answersTo_append s c [i] [.settle]).trans (by rw [answers]; rfl)
    rw [readsOf, answersTo]
    cases found : (s.undergo i).session? c with
    | none =>
      have keys : (s.undergo i).settle.sessions.keys = (s.undergo i).sessions.keys := (settle_sameNumbers _).keys
      refine Or.inl ⟨Table.find?_eq_none_iff.mpr ?_, rfl, rfl⟩
      exact fun inside => Table.find?_eq_none_iff.mp found (keys ▸ inside)
    | some session =>
      obtain ⟨log, tells, grows⟩ := proceeds.new c session absent found
      have passed : (s.undergo i).Passed allowed c [] { passed := [], left := [] } :=
        ⟨log, tells, grows, grows.isAnswered rfl⟩
      obtain ⟨log', tells', grows', answered⟩ := passed.then proceeds.posted (settle_turns _)
      exact Or.inr ⟨log', tells', grows'.answers, answered⟩

section

variable {run : List Incident} {count : Nat} (posted : s.Posted) (numbered : s.Numbered count)

include posted numbered

theorem run_carries (plain : ∀ i ∈ run, i.Plain) (few : count + (s.arrivals run).length ≤ 2 ^ 64)
    (words : ∀ i ∈ run, ∀ p ∈ i.packages, allowed p) :
    (s.after run).Posted ∧ Carries allowed (fun _ => True) s run := by
  induction run generalizing s count with
  | nil => exact ⟨posted, .rfl⟩
  | cons i run ih =>
    rw [arrivals, List.length_append, ← Nat.add_assoc] at few
    obtain ⟨proceeds, numbered'⟩ := posted.proceeds numbered (plain i List.mem_cons_self)
      (Nat.le_trans (Nat.le_add_right _ _) few) (words i List.mem_cons_self)
    obtain ⟨posted', rest⟩ := ih proceeds.posted numbered' (fun j inside => plain j (List.mem_cons_of_mem _ inside))
      few fun j inside => words j (List.mem_cons_of_mem _ inside)
    have first : Carries allowed (fun _ => True) s [i] := proceeds.carries
    exact ⟨posted', first.trans rest⟩

/-- A run in which the server comes to rest after each incident. -/
theorem settled_carries (rest : s.AtRest) {incidents : List Incident}
    (settled : run = incidents.flatMap fun i => [i, .settle]) (plain : ∀ i ∈ run, i.Plain)
    (few : count + (s.arrivals run).length ≤ 2 ^ 64) (words : ∀ i ∈ run, ∀ p ∈ i.packages, allowed p) :
    Carries allowed Log.IsAnswered s run := by
  subst settled
  induction incidents generalizing s count with
  | nil => exact .rfl
  | cons i incidents ih =>
    rw [List.flatMap_cons] at plain few words ⊢
    have pair : s.arrivals [i, .settle] = i.arrival s := List.append_nil _
    rw [arrivals_append, pair, List.length_append, ← Nat.add_assoc] at few
    obtain ⟨proceeds, numbered'⟩ := posted.proceeds numbered (plain i (by simp))
      (Nat.le_trans (Nat.le_add_right _ _) few) (words i (by simp))
    have turns : Turns (fun _ => True) (s.undergo i) [] (s.undergo i).settle := settle_turns _
    have others := ih (s := s.after [i, .settle]) (proceeds.posted.turns turns)
      (numbered'.of_same (settle_sameNumbers _)) proceeds.posted.drains.settle_atRest
      (fun j inside => plain j (List.mem_append_right _ inside)) few
      fun j inside => words j (List.mem_append_right _ inside)
    exact (proceeds.settles posted rest).trans others

end

/-- What is handed in during a run, to be passed on as it is. -/
def Handed (run : List Incident) (p : Package) : Prop := ∃ i ∈ run, p ∈ i.packages

/-- How the joins of clients are answered in a run, and after it. The answers in the log of a session are those
to the joins of its own client, each with the id that came with it, in the order in which they were sent. -/
structure Echoes (s : Server) (run : List Incident) : Prop where
  /-- Who is registered has a session, and the two agree on whether it has joined a game. -/
  registered : ∀ c m, (s.after run).registry.members.find? c = some m →
    ∃ session, (s.after run).session? c = some session ∧ m.session = session.ref ∧ (m.game = none ↔ session.game = none)
  echoed : ∀ c session frame payload q, (s.after run).session? c = some session → session.phase = .active →
    session.game = none → frame.checked.payload? = some payload → JoinRequest.decode payload = .ok q →
    Echoed (s.after run) c session q ((s.after run).receive c frame)
  /-- The id of a request is the one that its payload has, if any. -/
  id : ∀ payload q, JoinRequest.decode payload = .ok q →
    ∃ ms, JoinRequest.Typed payload "join" ms ∧ Optionally (Members.find? "id" ms) q.id
  told : ∀ c session, (s.after run).session? c = some session →
    ∃ log, Follows (Handed run) (s.after run) session (s.readsOf c run) log ∧ log.answers = s.answersTo c run ∧
      (session.phase = .active → (s.after run).RestsAt c → log.left = [])
  /-- When the server comes to rest after each incident, nobody whose session ends misses an answer. -/
  answered : ∀ incidents : List Incident, (run = incidents.flatMap fun i => [i, .settle]) → ∀ c session,
    (s.after run).session? c = some session →
    ∃ log, Follows (Handed run) (s.after run) session (s.readsOf c run) log ∧ log.answers = s.answersTo c run ∧
      log.IsAnswered
  rests : (s.after run).settle.AtRest

theorem Follows.left_of_rests (follows : Follows allowed s session read log) (found : s.session? c = some session)
    (active : session.phase = .active) (rests : s.RestsAt c) : log.left = [] := by
  have live := Session.isLive_of_active active
  have empty := (rests session found live).2 active
  have waiting := follows.waiting live
  rw [Exchange.written, empty] at waiting
  exact List.map_eq_nil_iff.mp waiting.symm

theorem Posted.run_echoes (begins : s.Posted) (numbered : s.Numbered 0) (nobody : ∀ c, s.session? c = none)
    {run : List Incident} (plain : ∀ i ∈ run, i.Plain) (few : (s.arrivals run).length ≤ 2 ^ 64) : s.Echoes run := by
  have few : 0 + (s.arrivals run).length ≤ 2 ^ 64 := by rwa [Nat.zero_add]
  have words : ∀ i ∈ run, ∀ p ∈ i.packages, Handed run p := fun i inside p handed => ⟨i, inside, handed⟩
  have quiet : s.AtRest := fun c session found => by cases (nobody c).symm.trans found
  obtain ⟨posted, carries⟩ := run_carries begins numbered plain few words
  have logs : ∀ {P}, Carries (Handed run) P s run → ∀ c session, (s.after run).session? c = some session →
      ∃ log, Follows (Handed run) (s.after run) session (s.readsOf c run) log ∧ log.answers = s.answersTo c run ∧
        P log := by
    intro P carries c session found
    rcases carries.new c (nobody c) with ⟨absent, _⟩ | ⟨log, ⟨other, found', follows⟩, answers, keeps⟩
    · cases absent.symm.trans found
    · cases found.symm.trans found'
      exact ⟨log, follows, answers, keeps⟩
  exact {
    registered := posted.member
    echoed := by
      intro c session frame payload q found active outside message decoded
      rw [receive_message found active message]
      exact posted.echoed found active outside decoded
    id := by
      intro payload q decoded
      obtain ⟨ms, typed, stated⟩ := JoinRequest.decode_eq_ok_iff.mp decoded
      exact ⟨ms, typed, stated.id⟩
    told := by
      intro c session found
      obtain ⟨log, follows, answers, _⟩ := logs carries c session found
      exact ⟨log, follows, answers, fun active rests => follows.left_of_rests found active rests⟩
    answered := fun incidents settled c session found =>
      logs (settled_carries begins numbered quiet settled plain few words) c session found
    rests := posted.drains.settle_atRest }

/-- Joins are answered to those who have sent them, with the ids that they have sent, in every run in which nobody but
the clients comes into games. -/
theorem echoes (capacity handshakeTimeout : Nat) {run : List Incident} (plain : ∀ i ∈ run, i.Plain)
    (few : ((create capacity handshakeTimeout).arrivals run).length ≤ 2 ^ 64) :
    (create capacity handshakeTimeout).Echoes run :=
  (create_posted capacity handshakeTimeout).run_echoes (create_numbered capacity handshakeTimeout) (fun _ => rfl)
    plain few

/-- Two clients want to be in one team, in which there is one place. The second one tries again, without an id. -/
def rivals : List Incident :=
  [.event .connect, .event (.handshake ⟨1⟩), .event .connect, .event (.handshake ⟨2⟩),
    .event (.send ⟨1⟩ (.text (JoinRequest.write ⟨some (.string "a"), "ring", "Ada", .first⟩))),
    .event (.send ⟨2⟩ (.text (JoinRequest.write ⟨some (.string "b"), "ring", "Bob", .first⟩))),
    .event (.send ⟨2⟩ (.text (JoinRequest.write ⟨none, "ring", "Bob", .second⟩)))]

theorem echoes_rivals :
    ((create 1 1000).answersTo ⟨2⟩ rivals).map (fun a => (a.id.map Json.write, a.result matches .full)) =
        [(some (Json.write (.string "b")), true), (none, false)] ∧
      (∀ i ∈ rivals, i.Plain) ∧ ((create 1 1000).arrivals rivals).length ≤ 2 ^ 64 ∧
      (create 1 1000).Echoes rivals := by
  have plain : ∀ i ∈ rivals, i.Plain := by simp [rivals, Incident.Plain]
  have few : ((create 1 1000).arrivals rivals).length ≤ 2 ^ 64 := by decide +kernel
  exact ⟨by decide +kernel, plain, few, echoes 1 1000 plain few⟩

end Server

end Scrimmage
