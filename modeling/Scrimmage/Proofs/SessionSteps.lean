import Scrimmage.Proofs.Incidents

namespace Scrimmage

open Text

/-- What a client is to hear of commands: every package up to the first close, and that. A package that is no text cuts
the line. -/
def due : List Command → List ServerFrame
  | [] => []
  | .close _ :: _ => [.close none]
  | .write p :: rest =>
    match p.text with
    | .ok s => .text s :: due rest
    | .error _ => [.reset]

/-- Packages that can be passed on. -/
def Spoken (packages : List Package) : Prop := ∀ p ∈ packages, IsText p.octets

/-- Frames pass packages on: each once and as it is, one after the other, and nothing else. An answer to a ping
is not among them. -/
structure Conveys (frames : List ServerFrame) (packages : List Package) : Prop where
  texts : texts frames = packages.map (·.octets)
  length : frames.length = packages.length

theorem drop_length_take {α : Type} (l : List α) (count : Nat) : l.drop (l.take count).length = l.drop count := by
  conv_lhs => enter [2]; rw [← List.take_append_drop count l]
  exact List.drop_left

theorem forall_mem_none {α : Type} (P : α → Prop) : ∀ a ∈ (none : Option α), P a :=
  fun _ inside => absurd inside (Option.not_mem_none _)

theorem Spoken.append {packages more : List Package} (spoken : Spoken packages) (others : Spoken more) :
    Spoken (packages ++ more) :=
  fun p member => (List.mem_append.mp member).elim (spoken p) (others p)

section

variable {packages : List Package} (spoken : Spoken packages)

include spoken

theorem due_append (rest : List Command) :
    due (packages.map .write ++ rest) = due (packages.map .write) ++ due rest := by
  induction packages with
  | nil => rfl
  | cons p packages ih =>
    obtain ⟨s, text, _⟩ := p.text_of_isText (spoken p List.mem_cons_self)
    simp only [List.map_cons, List.cons_append, due, text]
    rw [ih fun q member => spoken q (List.mem_cons_of_mem _ member)]

theorem conveys_due : Conveys (due (packages.map .write)) packages := by
  induction packages with
  | nil => exact ⟨rfl, rfl⟩
  | cons p packages ih =>
    obtain ⟨s, text, octets⟩ := p.text_of_isText (spoken p List.mem_cons_self)
    obtain ⟨same, length⟩ := ih fun q member => spoken q (List.mem_cons_of_mem _ member)
    simp only [List.map_cons, due, text]
    refine ⟨?_, congrArg (· + 1) length⟩
    rw [List.map_cons, ← octets, ← same]
    rfl

theorem due_close (reason : String) (rest : List Command) :
    due (packages.map .write ++ .close reason :: rest) = due (packages.map .write) ++ [.close none] :=
  due_append spoken _

end

theorem ending_pump_append {packages : List Package} (spoken : Spoken packages) (rest : List Command) :
    (pump (packages.map .write ++ rest)).ending = (pump rest).ending := by
  induction packages with
  | nil => rfl
  | cons p packages ih =>
    obtain ⟨s, text, _⟩ := p.text_of_isText (spoken p List.mem_cons_self)
    simp only [List.map_cons, List.cons_append, pump, text]
    exact ih fun q member => spoken q (List.mem_cons_of_mem _ member)

theorem audible_goodbye (wasActive : Bool) (ending : Ending) (farewell : Option Package)
    (peerFrame : Option CloseFrame) :
    audible (Server.goodbye wasActive ending farewell peerFrame) =
      Server.goodbye wasActive ending farewell peerFrame := by
  rw [Server.goodbye.eq_def]
  split
  · rfl
  · split
    · rfl
    · split
      · rfl
      · split <;> rfl

theorem audible_texts (lines : List String) : audible (lines.map .text) = lines.map .text := by
  rw [audible, List.filter_eq_self]
  intro frame member
  obtain ⟨_, _, rfl⟩ := List.mem_map.mp member
  rfl

theorem goodbye_warning {ending : Ending} (whole : ending ≠ .transportError) {farewell : Option Package}
    (warning : ∀ p ∈ farewell, p.IsWarning) :
    ∃ last : Option String, Server.goodbye true ending farewell none = (last.map .text).toList ++ [.close none] := by
  simp only [Server.goodbye, Bool.not_true, Bool.false_eq_true, if_false, whole]
  cases farewell with
  | none => exact ⟨none, rfl⟩
  | some p =>
    obtain ⟨message, closed, rfl⟩ := warning p rfl
    obtain ⟨s, text, _⟩ := Package.text_of_isText (Notice.warning message closed).encode_isText
    exact ⟨some s, by simp only [text]; rfl⟩

/-- How far commands are carried out: some packages are passed on, and then there is nothing more, or a close,
or a package that cannot be passed on. -/
inductive Pumps (commands : List Command) : Pumped → Prop
  | all (packages : List Package) {lines : List String} : Spoken packages → commands = packages.map .write →
      due commands = lines.map .text → Pumps commands { texts := lines, taken := commands.length, ending := none }
  | close (packages : List Package) {lines : List String} (reason : String) (rest : List Command) {taken : Nat} :
      Spoken packages → commands = packages.map .write ++ .close reason :: rest →
      due (packages.map .write) = lines.map .text →
      Pumps commands { texts := lines, taken, ending := some .requested }
  | fault (packages : List Package) {lines : List String} (rest : List Command) {taken : Nat} : Spoken packages →
      commands = packages.map .write ++ rest → due (packages.map .write) = lines.map .text → due rest = [.reset] →
      Pumps commands { texts := lines, taken, ending := some .transportError }

theorem Pumps.cons {p : Package} {line : String} (text : p.text = .ok line) {commands : List Command} {pumped : Pumped}
    (pumps : Pumps commands pumped) :
    Pumps (.write p :: commands)
      { pumped with texts := line :: pumped.texts, taken := pumped.taken + 1 } := by
  have one : Spoken [p] := by
    intro q member
    rw [List.mem_singleton.mp member]
    obtain ⟨cs, decoded, _⟩ := Utf8.map_eq_ok text
    exact isText_iff.mpr (by rw [decoded]; rfl)
  have first : ∀ commands, due (.write p :: commands) = .text line :: due commands := fun commands => by
    simp only [due, text]
  cases pumps with
  | all packages spoken same passed =>
    exact .all (p :: packages) (one.append spoken) (by rw [same]; rfl) (by rw [first, passed]; rfl)
  | close packages reason rest spoken same passed =>
    exact .close (p :: packages) reason rest (one.append spoken) (by rw [same]; rfl)
      (by rw [List.map_cons, first, passed]; rfl)
  | fault packages rest spoken same passed bad =>
    exact .fault (p :: packages) rest (one.append spoken) (by rw [same]; rfl)
      (by rw [List.map_cons, first, passed]; rfl) bad

theorem pump_pumps (commands : List Command) : Pumps commands (pump commands) := by
  have none : Spoken [] := by rintro _ ⟨⟩
  induction commands with
  | nil => exact .all [] none rfl rfl
  | cons command commands ih =>
    cases command with
    | close reason => exact .close [] reason commands none rfl rfl
    | write p =>
      rw [pump]
      split
      · rename_i fault text
        exact .fault [] (.write p :: commands) none rfl rfl (by simp only [due, text])
      · rename_i line text
        exact ih.cons text

/-- A session goes on, and its client hears nothing. -/
structure Session.Persists (session later : Session) : Prop where
  course : later.course = session.course
  audible : audible later.sent = audible session.sent

theorem Session.Persists.rfl {session : Session} : session.Persists session := ⟨.refl _, .refl _⟩

namespace Exchange

variable {x y : Exchange} {ref : SessionRef} {more : List Command}

/-- A queue that is open gets some commands and stays open. -/
structure Takes (x : Exchange) (ref : SessionRef) (more : List Command) (y : Exchange) : Prop where
  accepts : y.accepts ref = true
  waiting : y.waiting ref = x.waiting ref ++ more

theorem takes_of_extended (isOpen : x.accepts ref = true)
    (after : y.outbox? ref = (x.outbox? ref).map (extended · more)) : x.Takes ref more y :=
  ⟨(accepts_extended after).trans isOpen, by rw [waiting_extended after, if_pos isOpen]⟩

theorem accepts_drop (x : Exchange) {ref : SessionRef} (isOpen : x.accepts ref = true) (count : Nat) :
    (x.modifyOutbox ref (·.drop count)).accepts ref = true ∧
      (x.modifyOutbox ref (·.drop count)).waiting ref = (x.waiting ref).drop count := by
  rw [accepts] at isOpen
  rw [accepts, waiting, waiting, outbox?_modifyOutbox, if_pos rfl]
  cases queue : x.outbox? ref with
  | none =>
    rw [queue] at isOpen
    cases isOpen
  | some o =>
    rw [queue] at isOpen
    exact ⟨isOpen, rfl⟩

end Exchange

namespace Server

/-- A session takes the first few commands off its queue. -/
def carried (s : Server) (c : ConnectionId) (session : Session) (count : Nat) : Server :=
  let pumped := pump ((s.exchange.waiting session.ref).take count)
  (s.modifyExchange (·.modifyOutbox session.ref (·.drop pumped.taken))).modifySession c
    (·.deliver (pumped.texts.map .text))

/-- It ends if the last of them ends it. -/
def carry (s : Server) (c : ConnectionId) (session : Session) (count : Nat) : Server :=
  match (pump ((s.exchange.waiting session.ref).take count)).ending with
  | none => s.carried c session count
  | some ending => (s.carried c session count).finish c ending none none

theorem pumpSession_eq_carry (s : Server) (c : ConnectionId) (session : Session) :
    s.pumpSession c session = s.carry c session (s.exchange.waiting session.ref).length := by
  rw [pumpSession_eq, carry, carried, List.take_length]
  rfl

/-- The session of a client persists, and some commands are put into its queue if that takes any. Anything may
happen to others. -/
structure Bears (s : Server) (c : ConnectionId) (session : Session) (more : List Command) (after : Server) : Prop where
  persists : ∃ later, after.session? c = some later ∧ session.Persists later
  queue : s.exchange.accepts session.ref = true → s.exchange.Takes session.ref more after.exchange

/-- One thing that happens as far as one client is concerned, with the commands that are put into the queue of
its session and with what the client reads. Commands come from whomever, before the handshake or after it. -/
inductive SessionStep (c : ConnectionId) (s : Server) : List Command → List ServerFrame → Server → Prop
  /-- Anything happens to others, and anyone puts commands into the queue. -/
  | others {after : Server} (more : List Command) :
      (∀ session, s.session? c = some session → s.Bears c session more after) → SessionStep c s more [] after
  | registers {session : Session} : s.session? c = some session → session.phase = .connecting →
      SessionStep c s [] [] (s.modifySession c fun session => (session.note .registered).become .handshakePending)
  | upgrade {session : Session} : s.session? c = some session → session.phase = .handshakePending →
      SessionStep c s [] [] (s.modifySession c (·.become .active))
  | carries {session : Session} (count : Nat) : s.session? c = some session → session.phase = .active →
      SessionStep c s [] [] (s.carry c session count)
  | breaksOff {session : Session} {ending : Ending} {farewell : Option Package} {peerFrame : Option CloseFrame} :
      s.session? c = some session → session.isLive = true → ending.BreaksOff farewell peerFrame →
      SessionStep c s [] [] (s.finish c ending farewell peerFrame)
  /-- The registry has stopped when the session comes. -/
  | turnsOff {session : Session} : s.session? c = some session → session.phase = .connecting →
      SessionStep c s [] [] (s.finish c .registryUnavailable none none)
  | reads {session : Session} : s.session? c = some session →
      SessionStep c s [] (audible session.sent) (s.modifySession c fun session => { session with sent := [] })

/-- One such step after the other, with all commands, in the order in which they are put into the queue, and
with all that the client reads. -/
inductive SessionSteps (c : ConnectionId) (s : Server) : List Command → List ServerFrame → Server → Prop
  | refl : SessionSteps c s [] [] s
  | tail {queued more : List Command} {read frames : List ServerFrame} {between after : Server} :
      SessionSteps c s queued read between → SessionStep c between more frames after →
      SessionSteps c s (queued ++ more) (read ++ frames) after

variable {s after : Server} {c : ConnectionId} {session later : Session} {queued more : List Command}
  {got read frames : List ServerFrame}

theorem offer_sessionStep (found : s.session? c = some session) (command : Command) :
    SessionStep c s [command] [] (s.modifyExchange (·.offer session.ref command)) := by
  refine .others [command] fun other found' => ⟨⟨other, found', .rfl⟩, fun isOpen => ?_⟩
  cases found.symm.trans found'
  refine Exchange.takes_of_extended isOpen ((Exchange.outbox?_offer ..).trans ?_)
  rw [if_pos rfl]
  rfl

/-- A session that has not ended. What its client has got is what has been taken off the queue, which takes
commands, and the rest waits there. -/
structure Going (x : Exchange) (session : Session) (queued : List Command) (got : List ServerFrame) : Prop where
  phase : session.phase = .connecting ∨ session.isLive = true
  ending : session.ending = none
  history : ∀ step ∈ session.history, step.2 ≠ .closing
  accepts : x.accepts session.ref = true
  passed : ∃ packages, Spoken packages ∧ queued = packages.map .write ++ x.waiting session.ref ∧
    got = due (packages.map .write)

/-- A session that has ended. Its client has got the beginning of what was put into the queue, and whatever ends the
line. -/
inductive Gone (session : Session) (queued : List Command) (got : List ServerFrame) : Prop
  | called {packages : List Package} {reason : String} {rest : List Command} : session.phase = .closed →
      session.ending = some .requested → Spoken packages → queued = packages.map .write ++ .close reason :: rest →
      got = due (packages.map .write) ++ [.close none] → Gone session queued got
  | brokenOff {packages : List Package} {rest : List Command} {wasActive : Bool} {ending : Ending}
      {farewell : Option Package} {peerFrame : Option CloseFrame} : session.phase = .closed →
      session.ending = some ending → ending ≠ .requested → (∀ p ∈ farewell, p.IsWarning) →
      (∀ frame ∈ peerFrame, ending = .peerClosed) → Spoken packages → queued = packages.map .write ++ rest →
      got = due (packages.map .write) ++ goodbye wasActive ending farewell peerFrame →
      ((.active, .closing) ∈ session.history → wasActive = true) → Gone session queued got

/-- How it stands with a session. -/
def Holds (x : Exchange) (session : Session) (queued : List Command) (got : List ServerFrame) : Prop :=
  Going x session queued got ∨ Gone session queued got

theorem Gone.closed (gone : Gone session queued got) : session.phase = .closed := by
  cases gone with
  | called closed => exact closed
  | brokenOff closed => exact closed

theorem Holds.going (holds : Holds s.exchange session queued got) (unclosed : session.phase ≠ .closed) :
    Going s.exchange session queued got :=
  holds.resolve_right fun gone => unclosed gone.closed

theorem Gone.lasts (gone : Gone session queued got) (course : later.course = session.course) (more : List Command) :
    Gone later (queued ++ more) got := by
  have phase : later.phase = session.phase := congrArg Course.phase course
  have ending : later.ending = session.ending := congrArg Course.ending course
  have history : later.history = session.history := congrArg Course.history course
  cases gone with
  | called closed requested spoken same passed =>
    exact .called (phase.trans closed) (ending.trans requested) spoken
      (by rw [same, List.append_assoc, List.cons_append]) passed
  | brokenOff closed ended uncalled warning own spoken same passed active =>
    exact .brokenOff (phase.trans closed) (ending.trans ended) uncalled warning own spoken
      (by rw [same, List.append_assoc]) passed (by rw [history]; exact active)

/-- Whatever ends a session that has not begun to end, its client is told so. -/
theorem finish_tells (found : s.session? c = some session) (live : session.isLive = true)
    (fresh : ∀ step ∈ session.history, step.2 ≠ .closing) {ending : Ending} (known : ending ≠ .registryUnavailable)
    (farewell : Option Package) (peerFrame : Option CloseFrame) :
    ∃ later, (s.finish c ending farewell peerFrame).session? c = some later ∧ later.phase = .closed ∧
      later.ending = some ending ∧
      audible later.sent = audible session.sent ++ goodbye (session.phase = Phase.active) ending farewell peerFrame ∧
      ((.active, .closing) ∈ later.history → session.phase = .active) := by
  have leaves := finish_leaves found known farewell peerFrame
  have course := session.course_ended live ending
    (goodbye (session.phase = Phase.active) ending farewell peerFrame)
  refine ⟨_, leaves.ended, congrArg Course.phase course, congrArg Course.ending course, ?_, fun inside => ?_⟩
  · rw [Session.ended_sent, audible_append, audible_goodbye]
  · rw [show (session.ended _ _).history = _ from congrArg Course.history course] at inside
    simp only [List.mem_append, List.mem_singleton, Prod.mk.injEq] at inside
    rcases inside with (before | ⟨active, _⟩) | ⟨other, _⟩
    · exact absurd rfl (fresh _ before)
    · exact active.symm
    · cases other

namespace Going

variable (going : Going s.exchange session queued got)

include going

theorem lasts (course : later.course = session.course) (takes : s.exchange.Takes session.ref more after.exchange) :
    Going after.exchange later (queued ++ more) got := by
  obtain ⟨packages, spoken, same, passed⟩ := going.passed
  obtain ⟨accepts, waiting⟩ := takes
  refine ⟨?_, (congrArg Course.ending course).trans going.ending, ?_, ?_, packages, spoken, ?_, passed⟩
  · rw [Session.isLive_of_course course, show later.phase = session.phase from congrArg Course.phase course]
    exact going.phase
  · rw [show later.history = session.history from congrArg Course.history course]
    exact going.history
  · rwa [Session.ref_of_course course]
  · rw [Session.ref_of_course course, waiting, same, List.append_assoc]

theorem step (live : later.isLive = true) (ref : later.ref = session.ref) (ending : later.ending = session.ending)
    {earlier next : Phase} (history : later.history = session.history ++ [(earlier, next)]) (on : next ≠ .closing) :
    Going s.exchange later queued got where
  phase := Or.inr live
  ending := ending.trans going.ending
  history step inside := by
    rw [history] at inside
    rcases List.mem_append.mp inside with before | last
    · exact going.history step before
    · rw [List.mem_singleton.mp last]
      exact on
  accepts := by
    rw [ref]
    exact going.accepts
  passed := by
    rw [ref]
    exact going.passed

theorem registers (connecting : session.phase = .connecting) :
    Going s.exchange ((session.note .registered).become .handshakePending) queued got := by
  have became : (session.note .registered).become .handshakePending =
      { session.note .registered with
        phase := .handshakePending, history := session.history ++ [(.connecting, .handshakePending)] } := by
    rw [Session.become]
    simp only [Session.note, connecting, Phase.canBecome, reduceCtorEq, if_false, if_true]
  rw [became]
  exact going.step rfl rfl rfl rfl (by decide)

theorem upgrade (pending : session.phase = .handshakePending) :
    Going s.exchange (session.become .active) queued got := by
  have became : session.become .active =
      { session with phase := .active, history := session.history ++ [(.handshakePending, .active)] } := by
    rw [Session.become]
    simp only [pending, Phase.canBecome, reduceCtorEq, if_false, if_true]
  rw [became]
  exact going.step rfl rfl rfl rfl (by decide)

theorem brokenOff {ending : Ending} {farewell : Option Package} {peerFrame : Option CloseFrame} {wasActive : Bool}
    (closed : later.phase = .closed) (ended : later.ending = some ending) (uncalled : ending ≠ .requested)
    (warning : ∀ p ∈ farewell, p.IsWarning) (own : ∀ frame ∈ peerFrame, ending = .peerClosed)
    (active : (.active, .closing) ∈ later.history → wasActive = true) :
    Gone later queued (got ++ goodbye wasActive ending farewell peerFrame) := by
  obtain ⟨packages, spoken, same, passed⟩ := going.passed
  exact .brokenOff closed ended uncalled warning own spoken same (by rw [passed]) active

theorem breaksOff (found : s.session? c = some session) (live : session.isLive = true) {ending : Ending}
    {farewell : Option Package} {peerFrame : Option CloseFrame} (breaksOff : ending.BreaksOff farewell peerFrame) :
    ∃ later more, (s.finish c ending farewell peerFrame).session? c = some later ∧
      audible later.sent = audible session.sent ++ more ∧ Gone later queued (got ++ more) := by
  obtain ⟨later, found', closed, ended, sent, active⟩ :=
    finish_tells found live going.history breaksOff.known farewell peerFrame
  exact ⟨later, _, found', sent, going.brokenOff closed ended breaksOff.uncalled breaksOff.warning breaksOff.own
    fun inside => decide_eq_true (active inside)⟩

theorem turnsOff (found : s.session? c = some session) (connecting : session.phase = .connecting) :
    ∃ later more, (s.finish c .registryUnavailable none none).session? c = some later ∧
      audible later.sent = audible session.sent ++ more ∧ Gone later queued (got ++ more) := by
  rw [finish_unavailable found connecting]
  have closes : session.become .closing =
      { session with phase := .closing, history := session.history ++ [(.connecting, .closing)] } := by
    rw [Session.become]
    simp only [connecting, Phase.canBecome, reduceCtorEq, if_false, if_true]
  have turned : turnedOff session =
      { session with
        phase := .closed, history := session.history ++ [(.connecting, .closing), (.closing, .closed)],
        ending := some .registryUnavailable, sent := session.sent ++ [.ended],
        deeds := session.deeds ++ [.closed] } := by
    rw [turnedOff, closes, Session.become]
    simp only [Session.deliver, Session.note, Phase.canBecome, reduceCtorEq, if_false, if_true, List.append_assoc,
      List.cons_append, List.nil_append]
  have gone : Gone (turnedOff session) queued (got ++ goodbye false .registryUnavailable none none) :=
    going.brokenOff (by rw [turned]) (by rw [turned]) (by decide) (forall_mem_none _) (forall_mem_none _)
      fun inside => by
      rw [turned] at inside
      simp only [List.mem_append, List.mem_cons, Prod.mk.injEq, reduceCtorEq, false_and, List.not_mem_nil, or_false]
        at inside
      exact absurd rfl (going.history _ inside)
  exact ⟨_, _, session?_modifySession_self found _, by rw [turned, audible_append]; rfl, gone⟩

/-- Some packages more are passed on of the first few commands that wait. -/
theorem further {count : Nat} {packages : List Package} {rest : List Command} (spoken : Spoken packages)
    (first : (s.exchange.waiting session.ref).take count = packages.map .write ++ rest) :
    ∃ all, Spoken all ∧ queued = all.map .write ++ (rest ++ (s.exchange.waiting session.ref).drop count) ∧
      got ++ due (packages.map .write) = due (all.map .write) := by
  obtain ⟨before, spoken', same, passed⟩ := going.passed
  refine ⟨before ++ packages, spoken'.append spoken, ?_, ?_⟩
  · rw [same, List.map_append, List.append_assoc, ← List.append_assoc _ rest, ← first,
      List.take_append_drop]
  · rw [passed, List.map_append, due_append spoken']

/-- A session passes on what is due of the first few commands that wait for it. -/
theorem carries (found : s.session? c = some session) (active : session.phase = .active) (count : Nat) :
    ∃ later, (s.carry c session count).session? c = some later ∧
      later.ending = (pump ((s.exchange.waiting session.ref).take count)).ending ∧
      audible later.sent = audible session.sent ++ due ((s.exchange.waiting session.ref).take count) ∧
      Holds (s.carry c session count).exchange later queued
        (got ++ due ((s.exchange.waiting session.ref).take count)) := by
  have live := Session.isLive_of_active active
  have found' : (s.carried c session count).session? c = some
      (session.deliver ((pump ((s.exchange.waiting session.ref).take count)).texts.map .text)) :=
    session?_modifySession_self (s := s.modifyExchange _) found _
  have queue : (s.carried c session count).exchange.accepts session.ref = true ∧
      (s.carried c session count).exchange.waiting session.ref =
        (s.exchange.waiting session.ref).drop (pump ((s.exchange.waiting session.ref).take count)).taken :=
    s.exchange.accepts_drop going.accepts _
  have delivered : ∀ lines : List String,
      audible (session.deliver (lines.map .text)).sent = audible session.sent ++ lines.map .text := fun lines => by
    rw [Session.deliver, audible_append, audible_texts]
  have farewell : ∀ ending, goodbye (session.phase = Phase.active) ending none none =
      if ending = .transportError then [.reset] else [.close none] := fun ending => by
    rw [active]
    rfl
  rw [carry]
  have pumps := pump_pumps ((s.exchange.waiting session.ref).take count)
  generalize pump ((s.exchange.waiting session.ref).take count) = pumped at pumps found' queue ⊢
  -- how far the commands are carried out
  cases pumps with
  | all packages spoken same passed =>
    obtain ⟨all, spoken', queueing, told⟩ := going.further spoken (same.trans (List.append_nil _).symm)
    refine ⟨_, found', going.ending, by rw [delivered, passed], Or.inl ⟨Or.inr live, going.ending, going.history,
      queue.1, all, spoken', ?_, by rw [same, told]⟩⟩
    rw [queueing, List.nil_append, ← drop_length_take]
    exact congrArg _ queue.2.symm
  | close packages reason rest spoken same passed =>
    obtain ⟨all, spoken', queueing, told⟩ := going.further spoken same
    obtain ⟨later, there, closed, ended, sent, _⟩ :=
      finish_tells found' live going.history (show Ending.requested ≠ .registryUnavailable by decide) none none
    refine ⟨later, there, ended, ?_, Or.inr (.called closed ended spoken' queueing ?_)⟩
    · rw [sent, delivered, same, due_close spoken, passed, List.append_assoc]
      exact congrArg _ (congrArg _ (farewell _))
    · rw [same, due_close spoken, ← List.append_assoc, told]
  | fault packages rest spoken same passed bad =>
    obtain ⟨all, spoken', queueing, told⟩ := going.further spoken same
    obtain ⟨later, there, closed, ended, sent, _⟩ :=
      finish_tells found' live going.history (show Ending.transportError ≠ .registryUnavailable by decide) none none
    refine ⟨later, there, ended, ?_, Or.inr (@Gone.brokenOff _ _ _ all _ true _ none none closed ended (by decide)
      (forall_mem_none _) (forall_mem_none _) spoken'
      queueing ?_ fun _ => rfl)⟩
    · rw [sent, delivered, same, due_append spoken, passed, bad, List.append_assoc]
      exact congrArg _ (congrArg _ (farewell _))
    · rw [same, due_append spoken, bad, ← List.append_assoc, told]
      rfl

end Going

/-- How it stands with the session of a client, which has read some of what it has been sent. -/
def Stands (s : Server) (c : ConnectionId) (queued : List Command) (read : List ServerFrame) : Prop :=
  ∃ session, s.session? c = some session ∧ Holds s.exchange session queued (read ++ audible session.sent)

theorem openSession_stands (s : Server) : s.openSession.2.2.Stands s.openSession.1 [] [] := by
  obtain ⟨x, _, ⟨o, queue, empty, isOpen⟩, _, opens⟩ := s.openSession_opens
  rw [opens]
  refine ⟨_, (Table.find?_insert ..).trans (if_pos rfl), Or.inl ⟨Or.inl rfl, rfl, nofun, ?_, [], nofun, ?_, rfl⟩⟩
  · rw [Exchange.accepts]
    exact (congrArg (Option.any _) queue).trans isOpen
  · refine Eq.symm ((congrArg (fun queue => (Option.map _ queue).getD []) queue).trans ?_)
    exact empty

theorem SessionStep.stands (step : SessionStep c s more frames after) (stands : s.Stands c queued read) :
    after.Stands c (queued ++ more) (read ++ frames) := by
  obtain ⟨session, found, holds⟩ := stands
  -- what becomes of a session for which nothing new is put into the queue and nothing is read
  have on : ∀ (told : List ServerFrame) {after : Server} {later : Session}, after.session? c = some later →
      audible later.sent = audible session.sent ++ told →
      Holds after.exchange later queued (read ++ audible session.sent ++ told) →
        after.Stands c (queued ++ []) (read ++ []) := by
    intro told after later found' sent holds'
    rw [List.append_nil, List.append_nil]
    exact ⟨later, found', by rwa [sent, ← List.append_assoc]⟩
  cases step with
  | others _ bears =>
    have bears := bears session found
    obtain ⟨later, found', persists⟩ := bears.persists
    refine ⟨later, found', ?_⟩
    rw [List.append_nil, persists.audible]
    exact holds.imp (fun going => going.lasts persists.course (bears.queue going.accepts)) (·.lasts persists.course _)
  | registers found' connecting =>
    cases found.symm.trans found'
    have going := holds.going (by simp [connecting])
    refine on [] (session?_modifySession_self found _) ?_ ?_
    · rw [Session.become_sent, Session.note, List.append_nil]
    · rw [List.append_nil]
      exact Or.inl (going.registers connecting)
  | upgrade found' pending =>
    cases found.symm.trans found'
    have going := holds.going (by simp [pending])
    refine on [] (session?_modifySession_self found _) ?_ ?_
    · rw [Session.become_sent, List.append_nil]
    · rw [List.append_nil]
      exact Or.inl (going.upgrade pending)
  | carries count found' active =>
    cases found.symm.trans found'
    obtain ⟨later, found', _, sent, holds'⟩ := (holds.going (by simp [active])).carries found active count
    exact on _ found' sent holds'
  | breaksOff found' live breaksOff =>
    cases found.symm.trans found'
    have unclosed : session.phase ≠ .closed := fun closed => by simp [Session.isLive, closed] at live
    obtain ⟨later, told, found', sent, gone⟩ := (holds.going unclosed).breaksOff found live breaksOff
    exact on _ found' sent (Or.inr gone)
  | turnsOff found' connecting =>
    cases found.symm.trans found'
    obtain ⟨later, told, found', sent, gone⟩ := (holds.going (by simp [connecting])).turnsOff found connecting
    exact on _ found' sent (Or.inr gone)
  | reads found' =>
    cases found.symm.trans found'
    refine ⟨_, session?_modifySession_self found _, ?_⟩
    rw [show audible ({ session with sent := [] } : Session).sent = [] from rfl, List.append_nil (read ++ _)]
    have same : ({ session with sent := [] } : Session).course = session.course := rfl
    exact holds.imp (fun going => going.lasts same ⟨going.accepts, (List.append_nil _).symm⟩) (·.lasts same _)

theorem SessionSteps.stands (steps : SessionSteps c s queued read after) (stands : s.Stands c [] []) :
    after.Stands c queued read := by
  induction steps with
  | refl => exact stands
  | tail _ step ih => exact step.stands ih

/-- What the client of a session receives of what has been put into its queue. As long as nothing else ends the
session, all of it is due up to the first command to close. A session that is broken off has passed the
beginning on, and then gives its farewell. -/
structure Receives (s : Server) (c : ConnectionId) (session : Session) (queued : List Command)
    (got : List ServerFrame) : Prop where
  /-- Until the session ends, the first packages have been passed on, and all the rest waits. -/
  underway : session.ending = none → ∃ packages, queued = packages.map .write ++ s.exchange.waiting session.ref ∧
    Conveys got packages
  /-- An active session that is not told to stop passes all of it on in its turn, up to the first close. -/
  arrives : session.phase = .active → s.exchange.isCancelled session.ref = false →
    ∃ later more, (s.tend c).session? c = some later ∧ audible later.sent = audible session.sent ++ more ∧
      ∀ packages, Spoken packages →
        (queued = packages.map .write → Conveys (got ++ more) packages ∧ later.ending = none) ∧
        ∀ reason rest, queued = packages.map .write ++ .close reason :: rest → later.ending = some .requested ∧
          ∃ frames, Conveys frames packages ∧ got ++ more = frames ++ [.close none]
  /-- A session that has been told to close has passed on what was put into its queue before the first close. -/
  called : session.ending = some .requested → ∃ packages reason rest frames,
    queued = packages.map .write ++ .close reason :: rest ∧ Conveys frames packages ∧ got = frames ++ [.close none]
  /-- A session that was active and has been broken off has passed the beginning on, and then a farewell if any. -/
  brokenOff : session.ending = some .cancelled ∨ session.ending = some .terminated →
    (.active, .closing) ∈ session.history → ∃ packages rest frames, ∃ last : Option String,
      queued = packages.map .write ++ rest ∧ Conveys frames packages ∧
      got = frames ++ (last.map .text).toList ++ [.close none]

theorem Going.arrives (going : Going s.exchange session queued got) (found : s.session? c = some session)
    (active : session.phase = .active) (uncancelled : s.exchange.isCancelled session.ref = false) :
    ∃ later more, (s.tend c).session? c = some later ∧ later.ending = (pump queued).ending ∧
      audible later.sent = audible session.sent ++ more ∧ got ++ more = due queued := by
  obtain ⟨packages, spoken, same, passed⟩ := going.passed
  obtain ⟨later, found', ending, sent, _⟩ := going.carries found active (s.exchange.waiting session.ref).length
  rw [List.take_length] at ending sent
  have turn : s.tend c = s.carry c session (s.exchange.waiting session.ref).length := by
    rw [← pumpSession_eq_carry, tend, found]
    simp only [Session.isLive_of_active active, Bool.not_true, Bool.false_eq_true, if_false, uncancelled, active,
      if_true]
  refine ⟨later, _, turn ▸ found', ?_, sent, ?_⟩
  · rw [ending, same, ending_pump_append spoken]
  · rw [same, due_append spoken, passed]

/-- Everything that is put into the queue of a session, by whomever and whenever, arrives in that order, each package
once and as it is, up to the first command to close. If something else ends the session first, its client has got the
beginning, and nothing but a farewell after it. -/
theorem SessionSteps.receives {t : Server} (steps : SessionSteps t.openSession.1 t.openSession.2.2 queued read s) :
    ∃ session, s.session? t.openSession.1 = some session ∧
      s.Receives t.openSession.1 session queued (read ++ audible session.sent) := by
  obtain ⟨session, found, holds⟩ := steps.stands t.openSession_stands
  refine ⟨session, found, ⟨fun unended => ?_, fun active uncancelled => ?_, fun requested => ?_,
    fun apart inside => ?_⟩⟩
  · rcases holds with going | gone
    · obtain ⟨packages, spoken, same, passed⟩ := going.passed
      exact ⟨packages, same, passed ▸ conveys_due spoken⟩
    · cases gone with
      | called _ ended => cases unended.symm.trans ended
      | brokenOff _ ended => cases unended.symm.trans ended
  · obtain ⟨later, more, found', ending, sent, told⟩ :=
      (holds.going (by simp [active])).arrives found active uncancelled
    refine ⟨later, more, found', sent, fun packages spoken => ⟨fun same => ?_, fun reason rest same => ?_⟩⟩
    · rw [told, ending, same]
      refine ⟨conveys_due spoken, ?_⟩
      rw [← List.append_nil (packages.map _), ending_pump_append spoken]
      rfl
    · rw [told, ending, same, due_close spoken, ending_pump_append spoken]
      exact ⟨rfl, _, conveys_due spoken, rfl⟩
  · rcases holds with going | gone
    · cases going.ending.symm.trans requested
    · cases gone with
      | called _ _ spoken same passed => exact ⟨_, _, _, _, same, conveys_due spoken, passed⟩
      | brokenOff _ ended uncalled => exact absurd (Option.some.inj (ended.symm.trans requested)) uncalled
  · rcases holds with going | gone
    · rcases apart with cancelled | terminated
      · cases going.ending.symm.trans cancelled
      · cases going.ending.symm.trans terminated
    · cases gone with
      | called _ ended =>
        rcases apart with cancelled | terminated
        · cases ended.symm.trans cancelled
        · cases ended.symm.trans terminated
      | @brokenOff packages rest wasActive ending farewell peerFrame _ ended uncalled warning own spoken same passed
          active =>
        have other : ending ≠ .transportError ∧ ending ≠ .peerClosed := by
          rw [ended, Option.some_inj, Option.some_inj] at apart
          rcases apart with rfl | rfl <;> exact ⟨by decide, by decide⟩
        have silent : peerFrame = none :=
          Option.eq_none_iff_forall_not_mem.mpr fun frame closed => other.2 (own frame closed)
        obtain ⟨last, told⟩ := goodbye_warning other.1 warning
        refine ⟨packages, rest, _, last, same, conveys_due spoken, ?_⟩
        rw [passed, active inside, silent, told, List.append_assoc]

/-- Two packages for a client, one before the registry knows of it and one after its handshake, and a third one that
comes after a close. -/
def parcels : List Command := [.write ⟨[97]⟩, .write ⟨[98]⟩, .close "bye", .write ⟨[99]⟩]

/-- The first one has been passed on when the others are put into the queue. -/
theorem SessionSteps.receives_parcels :
    ∃ s session, SessionSteps (create 2 1000).openSession.1 (create 2 1000).openSession.2.2 parcels [] s ∧
      s.session? (create 2 1000).openSession.1 = some session ∧
      s.Receives (create 2 1000).openSession.1 session parcels (audible session.sent) := by
  have begun : SessionSteps (create 2 1000).openSession.1 (create 2 1000).openSession.2.2 [.write ⟨[97]⟩] [] _ :=
    (((SessionSteps.refl.tail (offer_sessionStep rfl (.write ⟨[97]⟩))).tail (.registers rfl rfl)).tail
    (.upgrade rfl rfl)).tail
      (.carries 1 rfl rfl)
  have run : SessionSteps (create 2 1000).openSession.1 (create 2 1000).openSession.2.2 parcels [] _ :=
    ((begun.tail (offer_sessionStep rfl (.write ⟨[98]⟩))).tail (offer_sessionStep rfl (.close "bye"))).tail
      (offer_sessionStep rfl (.write ⟨[99]⟩))
  obtain ⟨session, found, receives⟩ := SessionSteps.receives run
  exact ⟨_, session, run, found, receives⟩

end Server

end Scrimmage
