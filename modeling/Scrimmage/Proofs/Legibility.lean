import Scrimmage.Proofs.PackageSteps

namespace Scrimmage

open Text

theorem mem_written_iff {commands : List Command} {p : Package} : p ∈ written commands ↔ .write p ∈ commands := by
  rw [written, List.mem_filterMap]
  constructor
  · rintro ⟨command, inside, same⟩
    cases command with
    | write q =>
      cases same
      exact inside
    | close reason => cases same
  · exact fun inside => ⟨_, inside, rfl⟩

theorem ending_pump_ne {commands : List Command} (texts : ∀ p ∈ written commands, IsText p.octets) :
    (pump commands).ending ≠ some .transportError := by
  induction commands with
  | nil => nofun
  | cons command commands ih =>
    cases command with
    | close reason => simp [pump]
    | write p =>
      simp only [mem_written_iff, List.mem_cons] at texts ih
      obtain ⟨line, text, _⟩ := p.text_of_isText (texts p (Or.inl rfl))
      simp only [pump, text]
      exact ih fun q inside => texts q (Or.inr inside)

namespace Exchange

variable {new : Package → Prop} {x y z : Exchange}

/-- No packages are put into queues but new ones of a kind. -/
def Gains (new : Package → Prop) (x y : Exchange) : Prop := ∀ ref, ∀ p ∈ y.written ref, p ∈ x.written ref ∨ new p

namespace Gains

theorem of_waiting (same : ∀ ref, y.waiting ref = x.waiting ref) : x.Gains new y := by
  intro ref p inside
  rw [written, same] at inside
  exact Or.inl inside

theorem of_extends {more : SessionRef → List Command} (extends' : x.Extends more y)
    (all : ∀ ref, ∀ p ∈ Scrimmage.written (more ref), new p) : x.Gains new y := by
  intro ref p inside
  rw [extends'.written, List.mem_append] at inside
  refine inside.imp_right fun added => all ref p ?_
  split at added
  · exact added
  · cases added

theorem of_wordless {more : SessionRef → List Command} (extends' : x.Extends more y) (wordless : Wordless more) :
    x.Gains new y :=
  of_extends extends' fun ref p inside => by rw [wordless] at inside; cases inside

theorem thins (x : Exchange) (ref : SessionRef) {f : Outbox → Outbox} (fewer : ∀ o, (f o).waiting ⊆ o.waiting) :
    x.Gains new (x.modifyOutbox ref f) := by
  intro other p inside
  rw [written, mem_written_iff, waiting, outbox?_modifyOutbox] at inside
  rw [written, mem_written_iff, waiting]
  split at inside
  · cases queue : x.outbox? other with
    | none =>
      rw [queue] at inside
      cases inside
    | some o =>
      rw [queue] at inside
      exact Or.inl (fewer o inside)
  · exact Or.inl inside

end Gains

theorem waiting_openOutbox (x : Exchange) (c : ConnectionId) (ref : SessionRef) :
    (x.openOutbox c).2.waiting ref = x.waiting ref := by
  rw [waiting, waiting, outbox?, outbox?, openOutbox]
  rcases Nat.lt_trichotomy ref.queue x.outboxes.length with inside | here | outside
  · rw [List.getElem?_append_left inside]
  · rw [here, List.getElem?_concat_length, List.getElem?_eq_none le_rfl]
    rfl
  · rw [List.getElem?_eq_none outside.le, List.getElem?_eq_none (by simpa using outside)]

end Exchange

namespace Registry

variable {new : Package → Prop} (notices : ∀ p : Package, p.IsNotice → new p)

include notices

theorem ask_gains (r : Registry) (q : RegistryRequest) : r.exchange.Gains new (r.ask q).2.exchange := by
  cases running : r.running with
  | false =>
    rw [ask_stopped running]
    exact .of_waiting fun _ => rfl
  | true =>
    obtain ⟨⟨closes, wordless, extends'⟩, _⟩ := ask_extends running q
    refine .of_extends extends' fun ref p inside => ?_
    rw [written_append, wordless, List.append_nil, mem_written_iff, posts.eq_def] at inside
    split at inside
    · split at inside
      · cases inside
      · split at inside
        · cases List.mem_singleton.mp inside
          exact notices _ ⟨_, rfl⟩
        · cases inside
    · cases inside

theorem askGame_gains (r : Registry) (ref : GameRef) {q : GameRequest} (passed : ∀ p, q = .broadcast p → new p) :
    r.exchange.Gains new (r.askGame ref q).2.exchange := by
  have undergoes := r.askGame_undergoes ref q
  rw [messageChange] at undergoes
  cases reached : r.reached? ref with
  | none =>
    rw [reached] at undergoes
    exact .of_waiting fun s => Exchange.waiting_eq_of_outbox? (by rw [undergoes.outbox, Option.map_id'])
  | some f =>
    rw [reached] at undergoes
    have extends' : r.exchange.Extends (f.game.sends q) (r.askGame ref q).2.exchange := undergoes.outbox
    refine .of_extends extends' fun s p inside => ?_
    rw [mem_written_iff, Game.sends.eq_def] at inside
    split at inside
    · split at inside
      · split at inside
        · cases List.mem_singleton.mp inside
          exact notices _ ⟨_, rfl⟩
        · cases inside
      · cases inside
    · rename_i p' _
      cases (List.mem_replicate.mp inside).2
      exact passed p rfl
    · cases inside

end Registry

namespace Server

/-- The line of a client has been cut. -/
def Cut (s : Server) (c : ConnectionId) : Prop := ∃ session, s.session? c = some session ∧ session.IsCut

variable {handed : Package → Prop} {breaks : ConnectionId → Prop} {s after : Server} {c d : ConnectionId}

theorem cut_modifySession {f : Session → Session} (cut : (s.modifySession d f).Cut c) :
    s.Cut c ∨ c = d ∧ ∃ session, s.session? d = some session ∧ (f session).IsCut := by
  obtain ⟨later, found, cut⟩ := cut
  rw [session?_modifySession] at found
  split at found
  · rename_i here
    obtain ⟨session, there, rfl⟩ := Option.map_eq_some_iff.mp found
    exact Or.inr ⟨here, session, here ▸ there, cut⟩
  · exact Or.inl ⟨later, found, cut⟩

/-- Last words do not cut a line, unless this is what they are for. -/
theorem reset_mem_goodbye {wasActive : Bool} {ending : Ending} {farewell : Option Package}
    {peerFrame : Option CloseFrame} (told : ∀ p ∈ farewell, p.IsNotice)
    (cut : .reset ∈ goodbye wasActive ending farewell peerFrame) : ending = .transportError := by
  rw [goodbye.eq_def] at cut
  split at cut
  · simp at cut
  · split at cut
    · assumption
    · split at cut
      · simp at cut
      · obtain ⟨m, rfl⟩ := told _ rfl
        obtain ⟨line, text, _⟩ := m.encode_made.text
        simp [text] at cut

/-- What a step may do to queues and lines. Every package that is put into a queue is a notice of the server or
was handed over, and no line is cut but that of a client which breaks the rules. So a step that is sound keeps
everything in the queues text. -/
structure Sound (handed : Package → Prop) (breaks : ConnectionId → Prop) (s after : Server) : Prop where
  gains : s.exchange.Gains (fun p => p.IsNotice ∨ handed p) after.exchange
  cuts : ∀ c, after.Cut c → s.Cut c ∨ breaks c

namespace Sound

theorem registry {r : Registry} (gains : s.exchange.Gains (fun p => p.IsNotice ∨ handed p) r.exchange) :
    Sound handed breaks s { s with registry := r } :=
  ⟨gains, fun _ => Or.inl⟩

theorem touch (c : ConnectionId) {f : Session → Session}
    (whole : ∀ session, (f session).IsCut → session.IsCut ∨ breaks c) :
    Sound handed breaks s (s.modifySession c f) := by
  refine ⟨.of_waiting fun _ => rfl, fun d cut => ?_⟩
  rcases cut_modifySession cut with before | ⟨rfl, session, found, cut⟩
  · exact Or.inl before
  · exact (whole session cut).imp_left fun before => ⟨session, found, before⟩

theorem trans {between : Server} (first : Sound handed breaks s between) (second : Sound handed breaks between after) :
    Sound handed breaks s after where
  gains ref p inside := (second.gains ref p inside).elim (first.gains ref p) Or.inr
  cuts c cut := (second.cuts c cut).elim (first.cuts c) Or.inr

end Sound

theorem openSession_sound (s : Server) : Sound handed breaks s s.openSession.2.2 := by
  have opened : ∀ ref, s.openSession.2.2.exchange.waiting ref = s.exchange.waiting ref := by
    intro ref
    rw [← s.exchange.waiting_openOutbox ⟨s.nextConnection⟩ ref]
    cases cancelled : s.sessionsCancelled with
    | false => simp only [openSession, takeIn, cancelled]; rfl
    | true =>
      simp only [openSession, takeIn, cancelled]
      exact Exchange.waiting_cancels _ [_] ref
  refine ⟨.of_waiting opened, fun c cut => ?_⟩
  obtain ⟨x, _, _, _, opens⟩ := s.openSession_opens
  obtain ⟨session, found, cut⟩ := cut
  rw [opens] at found
  have inserted := (Table.find?_insert ..).symm.trans found
  split at inserted
  · cases inserted
    rcases cut with ended | cut
    · cases ended
    · cases cut
  · exact Or.inl ⟨session, inserted, cut⟩

theorem beginClosing_sound {session : Session} {ending : Ending} {farewell : Option Package}
    (peerFrame : Option CloseFrame) (told : ∀ p ∈ farewell, p.IsNotice) (own : ending = .transportError → breaks c) :
    Sound handed breaks s (s.beginClosing c session ending farewell peerFrame) := by
  have cleared : Sound handed breaks s (s.modifyExchange (·.modifyOutbox session.ref (·.clear))) :=
    .registry (.thins _ _ fun o => List.drop_subset _ _)
  have parted : ∀ t : Server, Sound handed breaks t (t.modifySession c fun other => (other.become .closing).deliver
      (goodbye (session.phase = .active) ending farewell peerFrame)) := by
    refine fun t => .touch c fun other cut => ?_
    rcases cut with ended | cut
    · exact Or.inl (Or.inl ((other.become_ending .closing).symm.trans ended))
    · refine (List.mem_append.mp cut).imp (fun before => ?_) fun last => own (reset_mem_goodbye told last)
      exact Or.inr (other.become_sent .closing ▸ before)
  have recorded : ∀ t : Server, Sound handed breaks t (t.measure (·.record (.sessionError ending.name))) :=
    fun t => .registry (.of_waiting fun _ => rfl)
  rw [beginClosing]
  split <;> split
  · exact (cleared.trans (parted _)).trans (recorded _)
  · exact (parted _).trans (recorded _)
  · exact cleared.trans (parted _)
  · exact parted _

theorem conclude_sound (ref : SessionRef) {ending : Ending} (own : ending = .transportError → breaks c) :
    Sound handed breaks s (s.conclude c ref ending) := by
  have shut : Sound handed breaks s (s.modifyExchange (·.modifyOutbox ref (·.shut))) :=
    .registry (.thins _ _ fun o => List.nil_subset _)
  have closed : ∀ t : Server, Sound handed breaks t
      (t.modifySession c fun session => { session.become .closed with ending := some ending }) := by
    refine fun t => .touch c fun session cut => ?_
    rcases cut with ended | cut
    · exact Or.inr (own (Option.some.inj ended))
    · exact Or.inl (Or.inr (session.become_sent .closed ▸ cut))
  have counted : ∀ t : Server, Sound handed breaks t (t.measure (·.sessionClosed)) :=
    fun t => .registry (.of_waiting fun _ => rfl)
  have noted : ∀ t : Server, Sound handed breaks t (t.modifySession c (·.note .closed)) :=
    fun t => .touch c fun session cut => Or.inl cut
  exact ((shut.trans (closed _)).trans (counted _)).trans (noted _)

/-- As long as there is nothing but text in the queues, no package fails to be sent. -/
theorem PackageStep.sound (step : PackageStep handed breaks s after)
    (texts : ∀ ref, ∀ p ∈ s.exchange.written ref, IsText p.octets) : Sound handed breaks s after := by
  cases step with
  | opens => exact openSession_sound s
  | summon d => exact .registry (.of_waiting (s.exchange.waiting_openOutbox d))
  | ask q => exact .registry (s.registry.ask_gains (fun _ => Or.inl) q)
  | message ref passed =>
    exact .registry (s.registry.askGame_gains (fun _ => Or.inl) ref fun p same => Or.inr (passed p same))
  | halt name => exact .registry (.of_wordless (halt_extends s.registry name).1 fun _ => rfl)
  | stop =>
    obtain ⟨⟨closes, wordless, extends'⟩, _⟩ := cancel_extends s.registry
    exact .registry (.of_wordless extends' wordless)
  | @offer ref command fits =>
    refine .registry (.of_extends (s.exchange.extends_offer ref command) fun other p inside => ?_)
    rw [mem_written_iff] at inside
    split at inside
    · exact fits p (List.mem_singleton.mp inside).symm
    · cases inside
  | thins ref fewer => exact .registry (.thins _ ref fewer)
  | measure f => exact .registry (.of_waiting fun _ => rfl)
  | pass duration => exact .registry (.of_waiting fun _ => rfl)
  | cancelled => exact ⟨.of_waiting fun _ => rfl, fun _ => Or.inl⟩
  | touch d keeps => exact .touch d fun session cut => Or.inl (keeps session cut)
  | parts peerFrame _ told own => exact beginClosing_sound peerFrame told own
  | concludes ref own => exact conclude_sound ref own
  | @fails d session count _ fails =>
    -- never so: the packages that were taken had been in the queue
    refine absurd fails (ending_pump_ne fun p inside => texts session.ref p ?_)
    exact ((List.take_sublist ..).filterMap _).subset inside

/-- There is nothing but text on its way to clients, of the server's own or handed over, and no line has been
cut but of a client that has broken its rules. No package is found not to be text when it is its turn to be
sent. -/
structure SpeaksText (handed : Package → Prop) (breaks : ConnectionId → Prop) (s : Server) : Prop where
  queued : ∀ ref, ∀ p ∈ s.exchange.written ref, WellFormed p.octets ∧ (p.IsNotice ∨ handed p)
  sendable : ∀ ref, ∀ p ∈ s.exchange.written ref, ∃ line, p.text = .ok line ∧ Utf8.ofString line = p.octets
  /-- However many commands a session takes off its queue, they do not make it fail. -/
  carried : ∀ ref count, (pump ((s.exchange.waiting ref).take count)).ending ≠ some .transportError
  cuts : ∀ c, s.Cut c → breaks c

theorem speaksText_of (queued : ∀ ref, ∀ p ∈ s.exchange.written ref, p.IsNotice ∨ handed p)
    (made : ∀ p, handed p → p.Made) (cuts : ∀ c, s.Cut c → breaks c) : s.SpeaksText handed breaks := by
  have all : ∀ ref, ∀ p ∈ s.exchange.written ref, p.Made := by
    intro ref p inside
    rcases queued ref p inside with ⟨m, rfl⟩ | own
    · exact m.encode_made
    · exact made p own
  refine ⟨fun ref p inside => ⟨Package.made_iff.mp (all ref p inside), queued ref p inside⟩,
    fun ref p inside => (all ref p inside).text, fun ref count => ending_pump_ne fun p inside => ?_, cuts⟩
  exact (all ref p (((List.take_sublist ..).filterMap _).subset inside)).isText

theorem PackageSteps.speaksText (steps : PackageSteps handed breaks s after) (made : ∀ p, handed p → p.Made)
    (speaks : s.SpeaksText handed breaks) : after.SpeaksText handed breaks := by
  induction steps with
  | refl => exact speaks
  | tail _ step ih =>
    have sound := step.sound fun ref p inside => isText_iff_wellFormed.mpr (ih.queued ref p inside).1
    refine speaksText_of (fun ref p inside => ?_) made fun c cut => ?_
    · exact (sound.gains ref p inside).elim (fun before => (ih.queued ref p before).2) id
    · exact (sound.cuts c cut).elim (ih.cuts c) id

theorem create_speaksText (capacity handshakeTimeout : Nat) :
    (create capacity handshakeTimeout).SpeaksText handed breaks where
  queued _ _ inside := by cases inside
  sendable _ _ inside := by cases inside
  carried ref count := by
    have nothing : (create capacity handshakeTimeout).exchange.waiting ref = [] := rfl
    rw [nothing, List.take_nil]
    nofun
  cuts c cut := by
    obtain ⟨_, found, _⟩ := cut
    cases found

/-- What is handed to a server in a run. -/
def HandedOver (run : List Incident) (p : Package) : Prop := ∃ i ∈ run, i.Hands p

/-- Whoever breaks the rules of its line in a run. -/
def Breaker (run : List Incident) (c : ConnectionId) : Prop := ∃ i ∈ run, i.Breaks c

/-- Whatever comes to a server, by clients with whatever payloads, nicks, games and ids, and however what it does about
it is interleaved: there is nothing but text on its way to clients. -/
theorem everything_is_text (capacity handshakeTimeout : Nat) {run : List Incident}
    (made : ∀ i ∈ run, ∀ p ∈ i.given, p.Made) :
    (∀ earlier, earlier <+: run →
      PackageSteps (HandedOver run) (Breaker run) (create capacity handshakeTimeout)
        ((create capacity handshakeTimeout).after earlier)) ∧
      (∀ s, PackageSteps (HandedOver run) (Breaker run) (create capacity handshakeTimeout) s →
        s.SpeaksText (HandedOver run) (Breaker run)) ∧
      (∀ m : Notice, WellFormed m.encode.octets) ∧
      (∀ octets p, Package.ofUtf8 octets = .ok p → p.octets = octets) ∧
      ∀ octets, (∃ p, Package.ofUtf8 octets = .ok p) ↔ WellFormed octets := by
  refine ⟨fun earlier begins => ?_, fun s steps => ?_, fun m => Package.made_iff.mp m.encode_made,
    fun _ _ => Package.octets_of_ofUtf8, fun _ => Package.exists_ofUtf8_iff⟩
  · -- what a beginning of the run brings, the whole of it brings as well
    have inside := begins.subset
    exact after_packageSteps _ (fun i member => made i (inside member))
      (fun i member c broken => ⟨i, inside member, broken⟩)
      fun i member p hands => ⟨i, inside member, hands⟩
  · exact steps.speaksText (fun p ⟨_, _, hands⟩ => hands.2) (create_speaksText ..)

/-- Two clients play, with odd names and each by itself. What one of them passes on is text only the first time; the
other one says that something is text which is not. Then the session of the first one is written to. -/
def babble : List Incident :=
  [.event .connect, .event (.handshake ⟨1⟩), .event .connect, .event (.handshake ⟨2⟩),
    .event (.send ⟨1⟩ (.text (JoinRequest.write ⟨some (.string "\x00\"ß"), "r\ning", "A😀", .first⟩))),
    .event (.send ⟨2⟩ (.binary (JoinRequest.write ⟨none, "", "", .random⟩))),
    .event (.send ⟨1⟩ (.binary [0xC3, 0xA9])), .event (.send ⟨1⟩ (.binary [0xC0, 0x80])),
    .event (.send ⟨2⟩ (.text [0xFF])), .command ⟨⟨1⟩, 0⟩ (.write (.ofText "ß"))]

theorem everything_is_text_babble :
    (∀ i ∈ babble, ∀ p ∈ i.given, p.Made) ∧
      ((create 5 1000).after babble).SpeaksText (HandedOver babble) (Breaker babble) ∧
      ((create 5 1000).after babble).exchange.written ⟨⟨1⟩, 0⟩ = [.ofText "ß"] ∧
      ((((create 5 1000).after babble).session? ⟨1⟩).map fun session => texts session.sent.getLast?.toList) =
        some [[0xC3, 0xA9]] ∧
      ((((create 5 1000).after babble).session? ⟨2⟩).map (·.ending)) = some (some .transportError) ∧
      ¬((create 5 1000).after babble).Cut ⟨1⟩ := by
  have made : ∀ i ∈ babble, ∀ p ∈ i.given, p.Made := by
    simp [babble, Incident.given, Package.Made.ofText]
  obtain ⟨steps, speaks, _⟩ := everything_is_text 5 1000 made
  have spoken := speaks _ (steps babble List.prefix_rfl)
  have own : ∀ i ∈ babble, ¬i.Breaks ⟨1⟩ := by decide +kernel
  refine ⟨made, spoken, by decide +kernel, by decide +kernel, by decide +kernel, fun cut => ?_⟩
  obtain ⟨i, inside, broken⟩ := spoken.cuts _ cut
  exact own i inside broken

end Server

end Scrimmage
