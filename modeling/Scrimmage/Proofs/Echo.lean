import Scrimmage.Proofs.Frames

namespace Scrimmage

namespace Run

variable {limits : Limits}

/-- What a session has taken so far to send it. -/
def sent (run : Run limits) (c : ConnectionId) (n : Nat) : List Package :=
  (List.range n).flatMap fun i => (run.event i).taken c

/-- What games have handled so far of a session. -/
def handled (run : Run limits) (c : ConnectionId) (n : Nat) : List Package :=
  (List.range n).flatMap fun i => (run.event i).heard c

/-- Nobody is held up for ever: neither a game that could always handle the message before it, nor a session for
whose frame there is room again and again. -/
structure Fair (run : Run limits) : Prop where
  /-- A game that could always handle a message handles one. -/
  games : ∀ ref n, (∀ m ≥ n, ∃ l after, WorldStep limits (run.world m) (.handles ref l) after) →
    ∃ m ≥ n, ∃ l, run.event m = .handles ref l
  /-- A session for whose frame there is room again and again finds some. -/
  sessions : ∀ c n, (∀ m ≥ n, ∃ k ≥ m, ∃ after, WorldStep limits (run.world k) (.delivers c) after) →
    ∃ m ≥ n, run.event m = .delivers c

/-- What a sender may count on. Whatever the parties do and in whichever order, the frames that a session sends
are handled by its game in that order, each once, while the sender is in the roster and never after its leave;
and if nobody is held up for ever, all of them are handled. -/
structure HearsItself (run : Run limits) : Prop where
  /-- What has been sent is what has been handled, what waits for the game and what there is no room for yet. -/
  inOrder : ∀ c n, run.sent c n = run.handled c n ++ (run.world n).waiting c ++ (run.world n).inHand c
  /-- A game that handles a frame has the sender in its roster, and queues the frame on its session. -/
  seated : ∀ n c ref p, run.event n = .handles ref ⟨.session c, .broadcast p⟩ →
    (run.world n).Hears c ref p (run.world (n + 1))
  /-- No game handles a frame after the leave of its sender. -/
  silent : ∀ m n c ref other writer p, run.event m = .handles ref ⟨writer, .leave c⟩ →
    run.event n = .handles other ⟨.session c, .broadcast p⟩ → n < m
  /-- All that is sent is handled in the end. -/
  heard : run.Fair → ∀ c n, ∃ m, run.sent c n <+: run.handled c m

end Run

namespace Run

variable {limits : Limits} (run : Run limits) (c : ConnectionId)

theorem sent_succ (n : Nat) : run.sent c (n + 1) = run.sent c n ++ (run.event n).taken c := by
  rw [sent, List.range_succ, List.flatMap_append, List.flatMap_singleton, sent]

theorem handled_succ (n : Nat) : run.handled c (n + 1) = run.handled c n ++ (run.event n).heard c := by
  rw [handled, List.range_succ, List.flatMap_append, List.flatMap_singleton, handled]

theorem sent_eq (n : Nat) :
    run.sent c n = run.handled c n ++ ((run.world n).waiting c ++ (run.world n).inHand c) := by
  induction n with
  | zero =>
    rw [run.start]
    rfl
  | succ n ih =>
    have flows := (run.step n).flows (run.orderly n) c
    rw [sent_succ, handled_succ, ih, List.append_assoc, flows, List.append_assoc]

theorem sent_mono {m n : Nat} (later : m ≤ n) : run.sent c m <+: run.sent c n := by
  induction n, later using Nat.le_induction with
  | base => exact List.prefix_rfl
  | succ n _ ih => exact ih.trans (run.sent_succ c n ▸ List.prefix_append ..)

theorem handled_mono {m n : Nat} (later : m ≤ n) : run.handled c m <+: run.handled c n := by
  induction n, later using Nat.le_induction with
  | base => exact List.prefix_rfl
  | succ n _ ih => exact ih.trans (run.handled_succ c n ▸ List.prefix_append ..)

theorem hasLeft_mono {c : ConnectionId} {m n : Nat} (later : m ≤ n) (left : (run.world m).HasLeft c) :
    (run.world n).HasLeft c := by
  induction n, later using Nat.le_induction with
  | base => exact left
  | succ n _ ih => exact (run.step n).hasLeft (run.orderly n) ih

theorem hears {n : Nat} {ref : GameRef} {p : Package}
    (handles : run.event n = .handles ref ⟨.session c, .broadcast p⟩) :
    (run.world n).Hears c ref p (run.world (n + 1)) := by
  have step := run.step n
  rw [handles] at step
  exact step.hears (run.orderly n)

theorem heard_before_left {m n : Nat} {ref other : GameRef} {writer : Writer} {p : Package}
    (leaves : run.event m = .handles ref ⟨writer, .leave c⟩)
    (handles : run.event n = .handles other ⟨.session c, .broadcast p⟩) : n < m := by
  by_contra after
  have different : m ≠ n := by
    rintro rfl
    cases leaves.symm.trans handles
  have step := run.step m
  rw [leaves] at step
  have left := run.hasLeft_mono (show m + 1 ≤ n by omega) (step.left (run.orderly m))
  have step' := run.step n
  rw [handles] at step'
  obtain ⟨s, plays⟩ := step'.plays (run.orderly n)
  exact left.not_plays plays

section

variable {ref : GameRef}

theorem box_le (n : Nat) : ((run.world n).boxes ref).length ≤ limits.box := by
  induction n with
  | zero =>
    rw [run.start]
    exact Nat.zero_le _
  | succ n ih =>
    have mail := (run.step n).mail ref
    generalize (run.world n).boxes ref = before at mail ih
    generalize (run.world (n + 1)).boxes ref = after at mail ⊢
    generalize run.event n = event at mail
    cases mail with
    | handled => exact (Nat.le_succ _).trans ih
    | still => exact ih
    | posted _ _ room =>
      rw [List.length_append]
      exact room

/-- As long as a game handles nothing, no message leaves its mailbox. -/
theorem box_grows {m n : Nat} (later : m ≤ n) (idle : ∀ k, m ≤ k → k < n → ∀ l, run.event k ≠ .handles ref l) :
    (run.world m).boxes ref <+: (run.world n).boxes ref := by
  induction n, later using Nat.le_induction with
  | base => exact List.prefix_rfl
  | succ n later ih =>
    refine (ih fun k since before => idle k since (Nat.lt_succ_of_lt before)).trans ?_
    have mail := (run.step n).mail ref
    have aside := idle n later (Nat.lt_succ_self n)
    generalize (run.world n).boxes ref = before at mail ⊢
    generalize (run.world (n + 1)).boxes ref = after at mail ⊢
    generalize run.event n = event at mail aside
    cases mail with
    | handled => exact absurd rfl (aside _)
    | still => exact List.prefix_rfl
    | posted => exact List.prefix_append ..

theorem box_of_handles {n : Nat} {l : Letter} (handles : run.event n = .handles ref l) :
    (run.world n).boxes ref = l :: (run.world (n + 1)).boxes ref := by
  have mail := (run.step n).mail ref
  rw [handles] at mail
  generalize (run.world n).boxes ref = before at mail ⊢
  generalize (run.world (n + 1)).boxes ref = after at mail ⊢
  cases mail with
  | handled => rfl
  | still aside => exact absurd rfl (aside l)
  | posted _ aside => exact absurd rfl (aside l)

variable {run}

theorem Fair.next_handled (fair : run.Fair) {n : Nat} (some : (run.world n).boxes ref ≠ [])
    (there : ∀ m ≥ n, (run.world n).boxes ref <+: (run.world m).boxes ref →
      (run.world m).registry.gameRef? ref.name = Option.some ref) :
    ∃ m ≥ n, (∃ l, run.event m = .handles ref l) ∧ (run.world n).boxes ref <+: (run.world m).boxes ref := by
  classical
  by_cases handles : ∃ m ≥ n, ∃ l, run.event m = .handles ref l
  · obtain ⟨later, first⟩ := Nat.find_spec handles
    refine ⟨Nat.find handles, later, first, run.box_grows later fun k since before l same => ?_⟩
    exact Nat.find_min handles before ⟨since, l, same⟩
  · have grows : ∀ m ≥ n, (run.world n).boxes ref <+: (run.world m).boxes ref := fun m later =>
      run.box_grows later fun k since _ l same => handles ⟨k, since, l, same⟩
    refine absurd (fair.games ref n fun m later => ?_) handles
    obtain ⟨l, rest, box⟩ := List.exists_cons_of_ne_nil fun none => some (List.prefix_nil.mp (none ▸ grows m later))
    exact ⟨l, _, .handles (there m later (grows m later)) box⟩

variable {c}

theorem there_of_frame {n : Nat} {l : Letter} {p : Package} (member : l ∈ (run.world n).boxes ref)
    (frame : l.frame? c = some p) :
    (run.world n).registry.gameRef? ref.name = some ref := by
  obtain ⟨_, plays⟩ := (run.orderly n).plays_of_frame member frame
  exact (run.orderly n).there_of_plays plays

/-- Whatever is ahead of it, a frame that waits is handled in the end. -/
theorem Fair.heard_of_waiting (fair : run.Fair) {l : Letter} {p : Package} (frame : l.frame? c = some p)
    (ahead : List Letter)
    {n : Nat} {behind : List Letter} (box : (run.world n).boxes ref = ahead ++ l :: behind) :
    ∃ m ≥ n, (run.event m).heard c ≠ [] := by
  induction ahead generalizing n behind with
  | nil =>
    obtain ⟨m, later, ⟨first, handles⟩, grows⟩ := fair.next_handled (by rw [box]; simp)
      fun _ _ grows => there_of_frame (grows.subset (by rw [box]; simp)) frame
    rw [box, run.box_of_handles handles, List.nil_append, List.cons_prefix_cons] at grows
    refine ⟨m, later, ?_⟩
    rw [handles, WorldEvent.heard, ← grows.1, frame]
    exact List.cons_ne_nil _ _
  | cons first ahead ih =>
    obtain ⟨m, later, ⟨first', handles⟩, grows⟩ := fair.next_handled (by rw [box]; simp)
      fun _ _ grows => there_of_frame (grows.subset (by rw [box]; simp)) frame
    rw [box, run.box_of_handles handles, List.cons_append, List.cons_prefix_cons] at grows
    obtain ⟨_, more, rest⟩ := grows
    rw [List.append_assoc, List.cons_append] at rest
    obtain ⟨k, since, heard⟩ := ih rest.symm
    exact ⟨k, by omega, heard⟩

/-- There is room in a mailbox again and again, as long as its game stays there. -/
theorem Fair.room (fair : run.Fair) {n : Nat}
    (there : ∀ m ≥ n, (run.world m).registry.gameRef? ref.name = Option.some ref) :
    ∃ m ≥ n, ((run.world m).boxes ref).length < limits.box := by
  by_cases full : ((run.world n).boxes ref).length < limits.box
  · exact ⟨n, Nat.le_refl n, full⟩
  · have waits : (run.world n).boxes ref ≠ [] := fun none => full (by rw [none]; exact limits.room)
    obtain ⟨m, later, ⟨l, handles⟩, _⟩ := fair.next_handled waits fun m later _ => there m later
    have before : ((run.world m).boxes ref).length ≤ limits.box := run.box_le m
    rw [run.box_of_handles handles] at before
    exact ⟨m + 1, Nat.le_succ_of_le later, before⟩

theorem holds_of_undelivered {n : Nat} {client : Client} {p : Package}
    (found : (run.world n).clients.find? c = some client)
    (sending : client.stage = .sending p) (never : ∀ m ≥ n, run.event m ≠ .delivers c) {m : Nat} (later : n ≤ m) :
    (run.world m).clients.find? c = some client := by
  induction m, later using Nat.le_induction with
  | base => exact found
  | succ m later ih =>
    have moves := (run.step m).client (run.orderly m) c
    have aside := never m later
    rw [ih] at moves
    generalize (run.world (m + 1)).clients.find? c = client? at moves ⊢
    generalize run.event m = event at moves aside
    cases moves with
    | still => rfl
    | delivers => exact absurd rfl aside
    | asks free | takes free | ends free => cases sending.symm.trans free
    | told _ waits => rcases waits with stage | stage <;> cases sending.symm.trans stage

theorem Fair.delivers_of_inHand (fair : run.Fair) {n : Nat} (holds : (run.world n).inHand c ≠ []) :
    ∃ m ≥ n, run.event m = .delivers c := by
  by_contra never
  have never : ∀ m ≥ n, run.event m ≠ .delivers c := fun m later delivers => never ⟨m, later, delivers⟩
  obtain ⟨client, p, found, sending⟩ := World.found_of_inHand holds
  have stays := fun m (later : m ≥ n) => holds_of_undelivered found sending never later
  have playing : client.stage.isPlaying = true := by rw [sending]; rfl
  obtain ⟨ref, inside⟩ : ∃ ref, client.game = Option.some ref := by
    refine Option.ne_none_iff_exists'.mp fun outside => ?_
    cases sending.symm.trans (((run.orderly n).life_playing found playing).2.2.2 outside)
  have there : ∀ m ≥ n, (run.world m).registry.gameRef? ref.name = Option.some ref := fun m later =>
    (run.orderly m).there_of_playing (stays m later) playing inside
  refine absurd (fair.sessions c n fun m later => ?_) fun ⟨m, later, delivers⟩ => never m later delivers
  obtain ⟨k, since, room⟩ := fair.room fun k since => there k (later.trans since)
  exact ⟨k, since, _, .delivers (stays k (later.trans since)) sending inside room⟩

theorem Fair.heard_of_outstanding (fair : run.Fair) {n : Nat}
    (outstanding : (run.world n).waiting c ++ (run.world n).inHand c ≠ []) : ∃ m ≥ n, (run.event m).heard c ≠ [] := by
  rw [Ne, List.append_eq_nil_iff, not_and_or] at outstanding
  rcases outstanding with waits | holds
  · obtain ⟨ref, l, member, p, frame⟩ := World.letter_of_waiting waits
    obtain ⟨ahead, behind, box⟩ := List.append_of_mem member
    exact fair.heard_of_waiting frame ahead box
  · obtain ⟨m, later, delivers⟩ := fair.delivers_of_inHand holds
    have step := run.step m
    rw [delivers] at step
    obtain ⟨p, ref, _, _, _, box⟩ := step.delivered (run.orderly m)
    obtain ⟨k, since, heard⟩ := fair.heard_of_waiting (Letter.frame?_eq_some_iff.mpr ⟨rfl, rfl⟩) _ box
    exact ⟨k, by omega, heard⟩

theorem Fair.handled_grows (fair : run.Fair) (n k : Nat) (within : k ≤ (run.sent c n).length) :
    ∃ m ≥ n, k ≤ (run.handled c m).length := by
  induction k with
  | zero => exact ⟨n, Nat.le_refl n, Nat.zero_le _⟩
  | succ k ih =>
    obtain ⟨m, later, ahead⟩ := ih (Nat.le_of_succ_le within)
    by_cases enough : k + 1 ≤ (run.handled c m).length
    · exact ⟨m, later, enough⟩
    · have sends := within.trans (run.sent_mono c later).length_le
      obtain ⟨i, since, heard⟩ := fair.heard_of_outstanding (n := m) (c := c) fun none => by
        rw [run.sent_eq, none, List.append_nil] at sends
        exact enough sends
      refine ⟨i + 1, by omega, ?_⟩
      have before := (run.handled_mono c since).length_le
      have more := List.length_pos_iff.mpr heard
      rw [run.handled_succ, List.length_append]
      omega

theorem Fair.all_heard (fair : run.Fair) (c : ConnectionId) (n : Nat) :
    ∃ m, run.sent c n <+: run.handled c m := by
  obtain ⟨m, later, enough⟩ := fair.handled_grows n _ (Nat.le_refl (run.sent c n).length)
  have handled : run.handled c m <+: run.sent c m := run.sent_eq c m ▸ List.prefix_append ..
  exact ⟨m, List.prefix_of_prefix_length_le (run.sent_mono c later) handled enough⟩

end

end Run

/-- In every run of the parties a session hears all that it sends, in the order in which it sends it, once and
before its leave. Only the last part, that everything is heard in the end, needs a fair run. -/
theorem Run.hears_itself {limits : Limits} (run : Run limits) : run.HearsItself where
  inOrder c n := by
    rw [run.sent_eq, List.append_assoc]
  seated _ c _ _ := run.hears c
  silent _ _ c _ _ _ _ := run.heard_before_left c
  heard fair := fair.all_heard

/-- What some parties do, and what is told of it. -/
abbrev Opening := List (WorldEvent × (World → World))

namespace Opening

/-- At each point one of the parties can do next what the opening says. -/
def Possible (limits : Limits) (w : World) : Opening → Prop
  | [] => True
  | (event, step) :: rest => WorldStep limits w event (step w) ∧ Possible limits (step w) rest

/-- How things are after some of the opening, and from its end on. -/
def world (w : World) : Opening → Nat → World
  | [], _ | _, 0 => w
  | (_, step) :: rest, n + 1 => world (step w) rest n

def event : Opening → Nat → WorldEvent
  | [], _ => .other
  | (event, _) :: _, 0 => event
  | _ :: rest, n + 1 => event rest n

variable {limits : Limits} {w : World}

theorem world_zero (opening : Opening) : opening.world w 0 = w := by
  cases opening <;> rfl

theorem world_of_length_le (opening : Opening) {n : Nat} (done : opening.length ≤ n) :
    opening.world w n = opening.world w opening.length := by
  induction opening generalizing w n with
  | nil => rfl
  | cons first rest ih =>
    obtain ⟨m, rfl⟩ := Nat.exists_eq_succ_of_ne_zero (Nat.ne_of_gt (Nat.lt_of_lt_of_le (Nat.succ_pos _) done))
    exact ih (Nat.le_of_succ_le_succ done)

end Opening

theorem WorldStep.idles {limits : Limits} (w : World) : WorldStep limits w .other w := by
  have step : WorldStep limits w .other _ := .queues ⟨⟨0⟩, 0⟩ id id fun _ => rfl
  have same : w.registry.exchange.modifyOutbox ⟨⟨0⟩, 0⟩ id = w.registry.exchange :=
    Exchange.modifyOutbox_eq_self fun _ _ => rfl
  rwa [World.modifyExchange, same] at step

namespace Opening

variable {limits : Limits} {w : World} {opening : Opening}

theorem Possible.step (possible : opening.Possible limits w) (n : Nat) :
    WorldStep limits (opening.world w n) (opening.event n) (opening.world w (n + 1)) := by
  induction opening generalizing w n with
  | nil => exact .idles w
  | cons first rest ih =>
    obtain ⟨step, later⟩ := possible
    cases n with
    | zero => exact (world_zero (w := first.2 w) rest).symm ▸ step
    | succ n => exact ih later n

/-- Every opening begins a run. -/
def run (possible : opening.Possible limits (.start limits.team)) : Run limits where
  world := opening.world (.start limits.team)
  event := opening.event
  start := opening.world_zero
  step := possible.step

/-- If nothing waits at the end of an opening, nobody is held up for ever. -/
theorem fair_run (possible : opening.Possible limits (.start limits.team)) {w : World}
    (done : opening.world (.start limits.team) opening.length = w)
    (boxes : ∀ ref, w.registry.gameRef? ref.name = some ref → w.boxes ref = []) (hands : ∀ c, w.inHand c = []) :
    (run possible).Fair where
  games ref n stuck := by
    obtain ⟨l, after, step⟩ := stuck (n + opening.length) (Nat.le_add_right ..)
    change WorldStep limits (opening.world _ _) _ _ at step
    rw [opening.world_of_length_le (Nat.le_add_left ..), done] at step
    cases step with
    | handles there box => cases (boxes ref there).symm.trans box
  sessions c n stuck := by
    obtain ⟨k, later, after, step⟩ := stuck (n + opening.length) (Nat.le_add_right ..)
    change WorldStep limits (opening.world _ k) _ _ at step
    rw [opening.world_of_length_le (Nat.le_trans (Nat.le_add_left ..) later)] at step
    obtain ⟨p, _, holds, _⟩ := step.delivered ((run possible).orderly opening.length)
    rw [done] at holds
    cases (hands c).symm.trans holds

end Opening

namespace Greeting

def limits : Limits := { team := 1, inbox := 1, box := 2, room := by decide }

def connection : ConnectionId := ⟨1⟩

def session : SessionRef := ⟨connection, 0⟩

def ring : GameRef := { name := "ring", generation := 0 }

def hello : Package := .ofText "hello"

def application : Application := { connection, game := "ring", nick := "ada", team := .random, id := none }

def enrol : SuspendedRequest := .enrol application session true

/-- The answers of the game. -/
def joined : Except Failure GameAnswer :=
  .ok (.joined (.ok { slot := 0, team := .first, players := Game.bySlot (Game.bySlot [] ++ [⟨0, "ada", .first⟩]) }))

def left : Except Failure GameAnswer := .ok (.left { removed := true, remaining := 0 })

def client (game : Option GameRef) (stage : Stage) : Client := { session, game, stage }

def post (e : SuspendedRequest) (w : World) : World :=
  { w with desk := some ⟨e, ring, .written⟩ }.post ring ⟨.registry, e.request⟩

def opening : Opening :=
  [(.other, (·.enter connection)),
    (.other, (·.attend (.register connection session) [])),
    (.other, (·.ask connection { client none .free with stage := .asking } (.join application))),
    (.other, (·.attend (.join application) [])),
    (.other, post enrol),
    (.handles ring ⟨.registry, enrol.request⟩, (·.handle ring ⟨.registry, enrol.request⟩ [])),
    (.other, (·.conclude ⟨enrol, ring, .answered joined⟩ joined)),
    (.takes connection hello, (·.put connection { client (some ring) .free with stage := .sending hello })),
    (.delivers connection, fun w =>
      (w.put connection { client (some ring) (.sending hello) with stage := .free }).post ring
        ⟨.session connection, .broadcast hello⟩),
    (.other, (·.ask connection { client (some ring) .free with stage := .parting } (.unregister connection))),
    (.other, (·.attend (.unregister connection) [])),
    (.other, post (.dismiss connection)),
    (.handles ring ⟨.session connection, .broadcast hello⟩,
      (·.handle ring ⟨.session connection, .broadcast hello⟩ [⟨.registry, .leave connection⟩])),
    (.handles ring ⟨.registry, .leave connection⟩, (·.handle ring ⟨.registry, .leave connection⟩ [])),
    (.other, (·.conclude ⟨.dismiss connection, ring, .answered left⟩ left)),
    (.other, fun w =>
      (w.modifyExchange (·.modifyOutbox (client (some ring) .parted).session (·.shut))).put connection
        { client (some ring) .parted with stage := .gone })]

theorem possible : opening.Possible limits (.start limits.team) :=
  ⟨.opens rfl (by decide),
    .attends rfl rfl,
    .applies application rfl rfl rfl rfl (by decide),
    .attends rfl rfl,
    .posts rfl (by decide),
    .handles rfl rfl,
    .concludes rfl rfl,
    .takes hello rfl rfl (fun outside => by cases outside),
    .delivers rfl rfl rfl (by decide),
    .parts rfl rfl (by decide),
    .attends rfl rfl,
    .posts rfl (by decide),
    .handles rfl rfl,
    .handles rfl rfl,
    .concludes rfl rfl,
    .ends rfl rfl,
    trivial⟩

def run : Run limits := Opening.run possible

def afterwards : World := opening.world (.start limits.team) opening.length

theorem games_afterwards : afterwards.registry.games.entries = [] := rfl

theorem clients_afterwards : afterwards.clients.entries = [(connection, client (some ring) .gone)] := rfl

theorem fair : run.Fair := by
  have vanished (name : String) : afterwards.registry.gameRef? name = none := by
    rw [Registry.gameRef?, Table.find?, games_afterwards]
    rfl
  refine Opening.fair_run possible rfl (fun ref there => ?_) fun c => ?_
  · cases (vanished ref.name).symm.trans there
  · by_contra holds
    obtain ⟨client, p, found, sending⟩ := World.found_of_inHand holds
    have entry := Table.find?_eq_some_iff.mp found
    rw [← afterwards, clients_afterwards, List.mem_singleton] at entry
    cases entry
    cases sending

end Greeting

theorem Run.hears_itself_greeting :
    Greeting.run.HearsItself ∧ Greeting.run.Fair ∧ Greeting.run.sent Greeting.connection 16 = [Greeting.hello] ∧
      Greeting.run.handled Greeting.connection 16 = [Greeting.hello] :=
  ⟨Run.hears_itself Greeting.run, Greeting.fair, rfl, rfl⟩

end Scrimmage
