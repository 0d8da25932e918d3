import Scrimmage.Proofs.Queues
import Scrimmage.Proofs.Rest

namespace Scrimmage

open Text

inductive Entry
  | answer (a : Answer)
  | word (p : Package)

namespace Entry

def package : Entry → Package
  | .answer a => a.package
  | .word p => p

def octets (e : Entry) : List UInt8 := e.package.octets

def answer? : Entry → Option Answer
  | .answer a => some a
  | .word _ => none

end Entry

/-- Everything that was ever put into the queue of a session to be written, in order. What the client has been
sent is the beginning of the log, and what waits is the rest of it, unless the session has ended. An entry is
the answer to a join of this client, or a word that somebody has said. -/
structure Log where
  passed : List Entry
  /-- What waits, or has been lost at the end of the session. -/
  left : List Entry

namespace Log

def entries (log : Log) : List Entry := log.passed ++ log.left

def answers (log : Log) : List Answer := log.entries.filterMap Entry.answer?

/-- The log as it goes on: some joins are answered at its end, and the client is sent more of it. What was in it
before stays, in the same order. -/
structure Grows (log later : Log) (more : List Answer) : Prop where
  answers : later.answers = log.answers ++ more
  passed : log.passed <+: later.passed

theorem Grows.rfl {log : Log} : log.Grows log [] := ⟨(List.append_nil _).symm, List.prefix_rfl⟩

theorem Grows.trans {log between later : Log} {answers more : List Answer} (first : log.Grows between answers)
    (second : between.Grows later more) : log.Grows later (answers ++ more) :=
  ⟨by rw [second.answers, first.answers, List.append_assoc], first.passed.trans second.passed⟩

theorem grows_append (log : Log) (more : List Entry) :
    log.Grows { log with left := log.left ++ more } (more.filterMap Entry.answer?) where
  answers := by simp only [answers, entries, List.filterMap_append, List.append_assoc]
  passed := List.prefix_rfl

/-- The client is sent some of what waits. -/
def pass (log : Log) (count : Nat) : Log :=
  { passed := log.passed ++ log.left.take count, left := log.left.drop count }

theorem entries_pass (log : Log) (count : Nat) : (log.pass count).entries = log.entries := by
  rw [entries, pass, List.append_assoc, List.take_append_drop, entries]

theorem grows_pass (log : Log) (count : Nat) : log.Grows (log.pass count) [] where
  answers := by rw [answers, entries_pass, List.append_nil, answers]
  passed := List.prefix_append ..

/-- All answers have been passed on. -/
def IsAnswered (log : Log) : Prop := log.left.filterMap Entry.answer? = []

theorem Grows.isAnswered {log later : Log} (grows : log.Grows later []) (answered : log.IsAnswered) :
    later.IsAnswered := by
  obtain ⟨more, passed⟩ := grows.passed
  have same := grows.answers
  rw [IsAnswered] at answered
  simp only [Log.answers, entries, List.filterMap_append, answered, ← passed, List.append_assoc,
    List.append_nil] at same
  have nothing := List.append_right_eq_self.mp same
  exact (List.append_eq_nil_iff.mp nothing).2

end Log

theorem Package.octets_of_text {p : Package} {s : String} (text : p.text = .ok s) : Utf8.ofString s = p.octets := by
  obtain ⟨cs, decoded, same⟩ := Utf8.map_eq_ok text
  obtain ⟨s', text', octets⟩ := p.text_of_isText (isText_iff.mpr (by rw [decoded]; rfl))
  cases text.symm.trans text'
  exact octets

/-- The packages of a queue are sent one after the other, all of them if the session goes on. -/
theorem texts_pump (commands : List Command) :
    texts ((pump commands).texts.map .text) =
        ((written commands).take (pump commands).texts.length).map (·.octets) ∧
      ((pump commands).ending = none → (pump commands).texts.length = (written commands).length) := by
  induction commands with
  | nil => exact ⟨rfl, fun _ => rfl⟩
  | cons command commands ih =>
    cases command with
    | close reason => exact ⟨rfl, fun on => by cases on⟩
    | write p =>
      have head : written (.write p :: commands) = p :: written commands := rfl
      rw [pump, head]
      split
      · exact ⟨rfl, fun on => by cases on⟩
      · rename_i s text
        simp only [List.length_cons, List.take_succ_cons, List.map_cons]
        refine ⟨?_, fun on => congrArg (· + 1) (ih.2 on)⟩
        rw [← ih.1, ← Package.octets_of_text text]
        rfl

theorem texts_farewell (wasActive : Bool) (ending : Ending) (farewell : Option Package)
    (peerFrame : Option CloseFrame) :
    ∃ last : Option Package, (∀ p ∈ last, p ∈ farewell) ∧
      texts (Server.goodbye wasActive ending farewell peerFrame) = (last.map (·.octets)).toList := by
  rw [Server.goodbye.eq_def]
  split
  · exact ⟨none, nofun, rfl⟩
  · split
    · exact ⟨none, nofun, rfl⟩
    · split
      · exact ⟨none, nofun, rfl⟩
      · rename_i p
        split
        · rename_i s text
          refine ⟨some p, fun _ same => same, ?_⟩
          rw [Option.map_some, Option.toList_some, ← Package.octets_of_text text]
          rfl
        · exact ⟨none, nofun, rfl⟩

namespace Server

/-- The log tells what a session has been told, where `read` is what its client has read so far. Words are warnings of
the server, or packages that are allowed. -/
structure Follows (allowed : Package → Prop) (s : Server) (session : Session) (read : List (List UInt8)) (log : Log) :
    Prop where
  told : ∃ farewell : Option Package, (∀ p ∈ farewell, p.IsWarning) ∧ (session.isLive = true → farewell = none) ∧
    read ++ texts session.sent = log.passed.map Entry.octets ++ (farewell.map (·.octets)).toList
  waiting : session.isLive = true → s.exchange.written session.ref = log.left.map Entry.package
  words : ∀ p, .word p ∈ log.entries → p.IsWarning ∨ allowed p

variable {allowed : Package → Prop} {s after : Server} {c : ConnectionId} {session later : Session}
  {read : List (List UInt8)} {log : Log}

namespace Follows

variable (follows : Follows allowed s session read log)

include follows

theorem append (more : List Entry) (isLive : later.isLive = session.isLive)
    (sent : texts later.sent = texts session.sent) (waiting : session.isLive = true →
      after.exchange.written later.ref = s.exchange.written session.ref ++ more.map Entry.package)
    (words : ∀ p, .word p ∈ more → p.IsWarning ∨ allowed p) :
    Follows allowed after later read { log with left := log.left ++ more } where
  told := by rw [isLive, sent]; exact follows.told
  waiting live := by
    rw [isLive] at live
    rw [waiting live, follows.waiting live, List.map_append]
  words p inside := by
    rw [Log.entries, ← List.append_assoc] at inside
    exact (List.mem_append.mp inside).elim (follows.words p) (words p)

theorem same (isLive : later.isLive = session.isLive) (sent : texts later.sent = texts session.sent)
    (waiting : session.isLive = true → after.exchange.written later.ref = s.exchange.written session.ref) :
    Follows allowed after later read log := by
  have goesOn := follows.append [] isLive sent (fun live => by rw [waiting live]; exact (List.append_nil _).symm)
    nofun
  rwa [List.append_nil] at goesOn

/-- A session is sent some of what waits for it, and a farewell when it ends. -/
theorem pass (live : session.isLive = true) (count : Nat) (farewell : Option Package)
    (warning : ∀ p ∈ farewell, p.IsWarning)
    (sent : texts later.sent = texts session.sent ++ ((s.exchange.written session.ref).take count).map (·.octets) ++
      (farewell.map (·.octets)).toList)
    (on : later.isLive = true →
      farewell = none ∧ after.exchange.written later.ref = (s.exchange.written session.ref).drop count) :
    Follows allowed after later read (log.pass count) where
  told := by
    obtain ⟨last, _, none, told⟩ := follows.told
    rw [none live] at told
    refine ⟨farewell, warning, fun live => (on live).1, ?_⟩
    rw [sent, ← List.append_assoc, ← List.append_assoc, told, follows.waiting live, ← List.map_take, List.map_map,
      Option.map_none, Option.toList_none, List.append_nil, Log.pass, List.map_append]
    rfl
  waiting live' := by rw [(on live').2, follows.waiting live, Log.pass, List.map_drop]
  words p inside := follows.words p (log.entries_pass count ▸ inside)

end Follows

/-- The log tells what the session of a client has been told. -/
def Tells (allowed : Package → Prop) (s : Server) (c : ConnectionId) (read : List (List UInt8)) (log : Log) : Prop :=
  ∃ session, s.session? c = some session ∧ Follows allowed s session read log

/-- The answers among others that are for one client. -/
def answersFor (c : ConnectionId) (answers : List (ConnectionId × Answer)) : List Answer :=
  answers.filterMap fun (d, a) => if d = c then some a else none

theorem answersFor_append (c : ConnectionId) (answers more : List (ConnectionId × Answer)) :
    answersFor c (answers ++ more) = answersFor c answers ++ answersFor c more :=
  List.filterMap_append

/-- For one client it goes on with the log, which may grow by some answers. -/
def Continues (allowed : Package → Prop) (c : ConnectionId) (read : List (List UInt8)) (log : Log) (after : Server)
    (answers : List Answer) : Prop :=
  ∃ log', after.Tells allowed c read log' ∧ log.Grows log' answers

theorem Continues.then {between : Server} {answers more : List Answer}
    (first : Continues allowed c read log between answers)
    (second : ∀ log', between.Tells allowed c read log' → Continues allowed c read log' after more) :
    Continues allowed c read log after (answers ++ more) := by
  obtain ⟨log', tells, grows⟩ := first
  obtain ⟨log'', tells', grows'⟩ := second log' tells
  exact ⟨log'', tells', grows.trans grows'⟩

/-- A session is another one, as far as its client can tell. -/
structure Alike (session later : Session) : Prop where
  isLive : later.isLive = session.isLive
  ref : later.ref = session.ref
  texts : texts later.sent = texts session.sent

theorem Alike.rfl {session : Session} : Alike session session := ⟨.refl _, .refl _, .refl _⟩

/-- Nobody but one session is changed, and that one is still the same to its client. -/
theorem alike_modifySession (found : s.session? c = some session) (d : ConnectionId) {f : Session → Session}
    (alike : ∀ other, s.session? d = some other → Alike other (f other)) :
    ∃ later, (s.modifySession d f).session? c = some later ∧ Alike session later := by
  rw [session?_modifySession]
  split
  · rename_i here
    exact ⟨f session, by rw [found, Option.map_some], alike session (here ▸ found)⟩
  · exact ⟨session, found, .rfl⟩

namespace Tells

variable (tells : s.Tells allowed c read log)

include tells

theorem posts (posted : s.Posted) {more : SessionRef → List Command} (extends' : s.exchange.Extends more after.exchange)
    (sessions : ∀ session, s.session? c = some session → ∃ later, after.session? c = some later ∧ Alike session later)
    (entries : List Entry)
    (written : ∀ session, s.session? c = some session →
      Scrimmage.written (more session.ref) = entries.map Entry.package)
    (words : ∀ p, .word p ∈ entries → p.IsWarning ∨ allowed p) {answers : List Answer}
    (same : entries.filterMap Entry.answer? = answers) : Continues allowed c read log after answers := by
  obtain ⟨session, found, follows⟩ := tells
  obtain ⟨later, found', alike⟩ := sessions session found
  refine ⟨_, ⟨later, found', follows.append entries alike.isLive alike.texts (fun live => ?_) words⟩,
    same ▸ log.grows_append _⟩
  rw [alike.ref, extends'.written, if_pos (posted.accepts found live), written session found]

theorem same
    (sessions : ∀ session, s.session? c = some session → ∃ later, after.session? c = some later ∧ Alike session later)
    (waiting : ∀ session, s.session? c = some session →
      after.exchange.written session.ref = s.exchange.written session.ref) : Continues allowed c read log after [] := by
  obtain ⟨session, found, follows⟩ := tells
  obtain ⟨later, found', alike⟩ := sessions session found
  exact ⟨log, ⟨later, found', follows.same alike.isLive alike.texts fun _ => alike.ref ▸ waiting session found⟩, .rfl⟩

/-- The registry changes, and writes to the sessions what is allowed. -/
theorem registry (posted : s.Posted) {r : Registry} {more : SessionRef → List Command}
    (extends' : s.exchange.Extends more r.exchange) (words : ∀ ref, ∀ p ∈ written (more ref), allowed p) :
    Continues allowed c read log { s with registry := r } [] := by
  have ⟨session, found, _⟩ := tells
  refine tells.posts posted (by exact extends') (fun session found => ⟨session, by exact found, .rfl⟩)
    ((written (more session.ref)).map .word) (fun session' found' => ?_) (fun p inside => ?_) ?_
  · cases found.symm.trans found'
    rw [List.map_map]
    exact (List.map_id _).symm
  · obtain ⟨p, member, same⟩ := List.mem_map.mp inside
    cases same
    exact Or.inr (words _ p member)
  · rw [List.filterMap_map]
    exact List.filterMap_eq_nil_iff.mpr fun _ _ => rfl

/-- Whatever ends a session, only its own client is told, and by no more than a warning. -/
theorem finish {d : ConnectionId} {other : Session} (posted : s.Posted) (found : s.session? d = some other)
    (live : other.isLive = true) {ending : Ending} (told : ending ≠ .registryUnavailable) {farewell : Option Package}
    (warning : ∀ p ∈ farewell, p.IsWarning) (peerFrame : Option CloseFrame) :
    Continues allowed c read log (s.finish d ending farewell peerFrame) [] := by
  have leaves := finish_leaves found told farewell peerFrame
  by_cases here : c = d
  · subst here
    obtain ⟨session, found', follows⟩ := tells
    cases found.symm.trans found'
    obtain ⟨last, part, texts⟩ := texts_farewell (other.phase = Phase.active) ending farewell peerFrame
    refine ⟨_, ⟨_, leaves.ended, follows.pass live 0 last (fun p inside => warning p (part p inside)) ?_
      fun on => ?_⟩, log.grows_pass 0⟩
    · rw [Session.ended_sent, texts_append, texts, List.take_zero, List.map_nil, List.append_nil]
    · cases (other.ended_dead live _ _).symm.trans on
  · refine tells.same (fun session found' => ⟨session, (leaves.others c here).trans found', .rfl⟩)
      fun session found' => ?_
    exact leaves.written fun same => here (posted.apart c d session other found' found same)

/-- A client is sent what waits for it, up to what ends its session. -/
theorem passes {other : Session} (posted : s.Posted) (found : s.session? c = some other)
    (active : other.phase = .active) :
    (s.pumpSession c other).Tells allowed c read
      (log.pass (Scrimmage.pump (s.exchange.waiting other.ref)).texts.length) := by
  obtain ⟨session, found', follows⟩ := tells
  cases found.symm.trans found'
  have live := Session.isLive_of_active active
  obtain ⟨texts, all⟩ := texts_pump (s.exchange.waiting other.ref)
  rw [pumpSession_eq]
  split
  · rename_i on
    refine ⟨_, session?_drained found, follows.pass live _ none nofun ?_ fun _ => ⟨rfl, ?_⟩⟩
    · exact (texts_append ..).trans ((congrArg _ texts).trans (List.append_nil _).symm)
    · obtain ⟨o, queue, _⟩ := posted.queue c other found
      have waits : s.exchange.waiting other.ref = o.waiting := by rw [Exchange.waiting, queue]; rfl
      have empty : (s.drained c other).exchange.waiting other.ref = [] := by
        rw [Exchange.waiting, outbox?_drained, if_pos rfl, taken_pump on, waits, queue]
        exact List.drop_length
      rw [all on]
      exact (congrArg Scrimmage.written empty).trans List.drop_length.symm
  · rename_i ending ends
    have leaves := finish_leaves (session?_drained found) (ending_pump ends) none none
    obtain ⟨last, part, told⟩ := texts_farewell (other.phase = Phase.active) ending none none
    have nothing : last = none := by
      cases last with
      | none => rfl
      | some p => cases part p rfl
    refine ⟨_, leaves.ended, follows.pass live _ none nofun ?_ fun on => ?_⟩
    · rw [Session.ended_sent, texts_append, Session.deliver, texts_append, texts]
      exact congrArg _ (told.trans (by rw [nothing]))
    · cases ((other.deliver _).ended_dead live _ _).symm.trans on

theorem drained {d : ConnectionId} {other : Session} (posted : s.Posted) (found : s.session? d = some other)
    (there : c ≠ d) : Continues allowed c read log (s.drained d other) [] := by
  refine tells.same (fun session found' => ⟨session, ?_, .rfl⟩) fun session found' => ?_
  · exact (session?_modifySession ..).trans ((if_neg there).trans found')
  · have apart : other.ref.queue ≠ session.ref.queue := fun same =>
      there (posted.apart d c other session found found' same).symm
    rw [Exchange.written, Exchange.written, Exchange.waiting, Exchange.waiting, outbox?_drained, if_neg apart]

theorem pump {d : ConnectionId} {other : Session} (posted : s.Posted) (found : s.session? d = some other)
    (active : other.phase = .active) : Continues allowed c read log (s.pumpSession d other) [] := by
  by_cases here : c = d
  · subst here
    exact ⟨_, tells.passes posted found active, log.grows_pass _⟩
  · rw [pumpSession_eq]
    split
    · exact tells.drained posted found here
    · rename_i ending ends
      exact (tells.drained posted found here).then fun log' tells' =>
        tells'.finish (posted.drained d other) (session?_drained found) (Session.isLive_of_active active)
          (ending_pump ends) (by rintro _ ⟨⟩) none

end Tells

theorem answersFor_own (c d : ConnectionId) (answer : Option Answer) :
    answersFor c (answer.map fun a => (d, a)).toList = if d = c then answer.toList else [] := by
  cases answer with
  | none => simp [answersFor]
  | some a => by_cases here : d = c <;> simp [answersFor, here]

namespace Tells

variable (tells : s.Tells allowed c read log) (posted : s.Posted) {d : ConnectionId} {other : Session}
  (found : s.session? d = some other)

include tells posted found

theorem reply (e : Entry) (words : ∀ p, e = .word p → p.IsWarning ∨ allowed p) :
    Continues allowed c read log (s.modifyExchange (·.offer other.ref (.write e.package)))
      (if d = c then e.answer?.toList else []) := by
  have sessions : ∀ session, s.session? c = some session → ∃ later,
      (s.modifyExchange (·.offer other.ref (.write e.package))).session? c = some later ∧ Alike session later :=
    fun session found' => ⟨session, found', .rfl⟩
  refine tells.posts posted (s.exchange.extends_offer other.ref (.write e.package)) sessions (if d = c then [e] else [])
    (fun session found' => ?_) (fun p inside => ?_) ?_
  · by_cases here : d = c
    · subst here
      cases found.symm.trans found'
      rw [if_pos rfl, if_pos rfl]
      rfl
    · rw [if_neg fun same => here (posted.apart d c other session found found' same), if_neg here]
      rfl
  · split at inside
    · exact words p (List.mem_singleton.mp inside).symm
    · cases inside
  · split
    · cases e <;> rfl
    · rfl

/-- Whoever is let in gets the answer, and nobody else gets anything. -/
theorem joined {a : Application} (own : a.connection = d) {admission : Admission}
    (joined : s.registry.outcome a = .ok admission) :
    Continues allowed c read log
      ({ s with registry := Lobby.record (s.registry.ask (.join a)).2 .joined }.modifySession d
        fun session => { session with game := some admission.game })
      (if d = c then [{ id := a.id, result := .joined admission.placement.slot admission.placement.players }]
        else []) := by
  obtain ⟨m, known, _, _, ⟨closes, wordless, extends'⟩, _⟩ := Registry.join_of_ok joined
  obtain ⟨session, there, same, _⟩ := posted.member _ m known
  rw [own] at there
  cases found.symm.trans there
  refine tells.posts posted (by exact extends') (fun session found' => ?_)
    (if d = c then [.answer { id := a.id, result := .joined admission.placement.slot admission.placement.players }]
      else [])
    (fun session found' => ?_) (fun p inside => ?_) ?_
  · exact alike_modifySession found' d fun _ _ => ⟨rfl, rfl, rfl⟩
  · rw [written_append, wordless, List.append_nil, same]
    by_cases here : d = c
    · subst here
      cases found.symm.trans found'
      rw [if_pos rfl, if_pos rfl]
      rfl
    · rw [if_neg fun same => here (posted.apart d c other session found found' same), if_neg here]
      rfl
  · split at inside
    · cases List.mem_singleton.mp inside
    · cases inside
  · split <;> rfl

omit posted found in
theorem refused {a : Application} {failure : Failure} (refused : s.registry.outcome a = .error failure)
    (count : Lobby.Count) :
    Continues allowed c read log { s with registry := Lobby.record (s.registry.ask (.join a)).2 count } [] := by
  obtain ⟨⟨closes, wordless, extends'⟩, _⟩ := Registry.join_of_error refused
  exact tells.same (fun session found' => ⟨session, found', .rfl⟩) fun session _ =>
    extends'.written_of_wordless wordless session.ref

theorem lobby (active : other.phase = .active) (outside : other.game = none) (payload : List UInt8) :
    Continues allowed c read log (s.receivePayload d other payload)
      (answersFor c ((s.registry.answerTo? d payload).map fun a => (d, a)).toList) := by
  rw [answersFor_own, Registry.answerTo?]
  cases decoded : JoinRequest.decode payload with
  | error fault =>
    rw [receive_unidentified outside decoded]
    have counted : Posted { s with registry := s.registry.measure (·.record .unidentified) } := posted.queues .rfl
    have quiet : Continues allowed c read log { s with registry := s.registry.measure (·.record .unidentified) } [] :=
      tells.same (fun session found' => ⟨session, found', .rfl⟩) fun _ _ => rfl
    refine quiet.then fun log' tells' => ?_
    exact tells'.reply counted found (.word Notice.unidentified.encode) fun p same =>
      Or.inl (Entry.word.inj same ▸ Notice.isWarning_unidentified)
  | ok q =>
    cases answer : s.registry.outcome (q.application d) with
    | ok admission =>
      rw [receive_joined outside decoded answer]
      simp only [answer, Option.toList_some]
      exact tells.joined posted found rfl answer
    | error failure =>
      cases rejection : failure.isRejection with
      | true =>
        rw [receive_full outside decoded answer rejection]
        simp only [answer, rejection, if_true, Option.toList_some]
        refine (tells.refused answer .full).then fun log' tells' => ?_
        exact tells'.reply (posted.refused answer .full) found (.answer { id := q.id, result := .full }) nofun
      | false =>
        rw [receive_refused outside decoded answer rejection]
        simp only [answer, rejection, Bool.false_eq_true, if_false, Option.toList_none, ite_self]
        refine (tells.refused answer .rejected).then fun log' tells' => ?_
        have told : Ending.terminated ≠ .registryUnavailable := by decide
        have warning : ∀ p ∈ some (Notice.warning failure.clientText true).encode, p.IsWarning :=
          fun p told => Option.some.inj told ▸ ⟨_, _, rfl⟩
        exact tells'.finish (posted.refused answer .rejected) found (Session.isLive_of_active active) told warning none

end Tells

theorem Turn.continues {answers : List (ConnectionId × Answer)} (turn : Turn allowed s answers after)
    (posted : s.Posted) (tells : s.Tells allowed c read log) :
    Continues allowed c read log after (answersFor c answers) := by
  cases turn with
  | pass duration => exact tells.same (fun session found => ⟨session, found, .rfl⟩) fun _ _ => rfl
  | cancel refs =>
    exact tells.same (fun session found => ⟨session, found, .rfl⟩) fun session _ =>
      s.exchange.written_cancels refs session.ref
  | touch d still =>
    exact tells.same (fun session found => alike_modifySession found d fun other _ =>
      ⟨Session.isLive_of_course (still.course other), Session.ref_of_course (still.course other), still.texts other⟩)
      fun _ _ => rfl
  | @upgrade d pending found waits =>
    refine tells.same (fun session found' => alike_modifySession found' d fun other there => ?_) fun _ _ => rfl
    cases found.symm.trans there
    refine ⟨?_, pending.become_ref _, congrArg texts (pending.become_sent _)⟩
    simp [Session.become, Session.isLive, waits, Phase.canBecome]
  | pump found active => exact tells.pump posted found active
  | finish ending farewell peerFrame found live told warning =>
    exact tells.finish posted found live told warning peerFrame
  | @relay ref p relayed =>
    obtain ⟨⟨more, only, extends'⟩, _⟩ := s.registry.askGame_extends ref (q := .broadcast p) trivial
    refine tells.registry posted extends' fun ref p' member => ?_
    cases only ref p' member
    exact relayed
  | lobby payload found active outside => exact tells.lobby posted found active outside payload

theorem Turns.continues {answers : List (ConnectionId × Answer)} (turns : Turns allowed s answers after)
    (posted : s.Posted) (tells : s.Tells allowed c read log) :
    Continues allowed c read log after (answersFor c answers) := by
  induction turns with
  | refl => exact ⟨log, tells, .rfl⟩
  | tail first turn ih =>
    rw [answersFor_append]
    exact ih.then fun log' tells' => turn.continues (posted.turns first) tells'

end Server

end Scrimmage
