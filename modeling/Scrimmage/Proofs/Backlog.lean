import Scrimmage.Proofs.Duties

namespace Scrimmage

namespace Registry

/-- No game counts a message. -/
def Idle (r : Registry) : Prop := ∀ name f, r.fixture? name = some f → f.depth = 0

/-- No message is counted, or counted off, in all. -/
structure SameDepths (r after : Registry) : Prop where
  own : after.mailbox.depth = r.mailbox.depth
  games : r.Idle → after.Idle

end Registry

/-- Games that are changed count as many messages as before, and games that are new count none. -/
def Change.Even (change : Change) : Prop :=
  ∀ name f g, change.fixture name f = some g → (∀ k, f = some k → k.depth = 0) → g.depth = 0

namespace Change

theorem even_of_still {change : Change} (still : ∀ name f, change.fixture name f = f) : change.Even := by
  intro name f g there idle
  rw [still] at there
  exact idle g there

theorem even_of_none {change : Change} (none : ∀ name f, change.fixture name f = none) : change.Even := by
  intro name f g there
  rw [none] at there
  cases there

theorem even_unregister (c : ConnectionId) (recorded : Option String) : (Change.unregister c recorded).Even := by
  intro name f g there idle
  simp only [Change.unregister] at there
  split at there
  · obtain ⟨k, rfl, left⟩ := Option.bind_eq_some_iff.mp there
    rw [Fixture.without] at left
    split at left
    · split at left
      · cases left
      · cases left
        exact idle k rfl
    · cases left
      exact idle g rfl
  · exact idle g there

theorem even_seat (a : Application) (session : SessionRef) (placement : Placement) (game : Game) :
    (Change.seat a session placement game).Even := by
  intro name f g there idle
  simp only [Change.seat] at there
  split at there
  · cases there
    cases f with
    | none => rfl
    | some k => exact idle k rfl
  · exact idle g there

theorem even_message (name : String) (f : Fixture) (q : GameRequest) : (Change.message name f q).Even := by
  intro other k g there idle
  simp only [Change.message] at there
  split at there
  · obtain ⟨h, rfl, rfl⟩ := Option.map_eq_some_iff.mp there
    exact idle h rfl
  · exact idle g there

end Change

namespace Registry

variable {r between after : Registry}

theorem SameDepths.rfl : r.SameDepths r := ⟨.refl _, id⟩

theorem SameDepths.trans (first : r.SameDepths between) (second : between.SameDepths after) : r.SameDepths after :=
  ⟨second.own.trans first.own, second.games ∘ first.games⟩

theorem Undergoes.sameDepths {change : Change} (undergoes : r.Undergoes change after) (even : change.Even) :
    r.SameDepths after :=
  ⟨undergoes.depth, fun idle name f there => even name _ f ((undergoes.fixture name).symm.trans there) (idle name)⟩

theorem answer_sameDepths (r : Registry) (q : RegistryRequest) : r.SameDepths (r.answer q).2 := by
  refine (r.answer_undergoes q).sameDepths ?_
  cases q with
  | unregister c => exact Change.even_unregister _ _
  | join a =>
    simp only [requestChange]
    split
    · exact Change.even_of_still fun _ _ => rfl
    · exact Change.even_seat _ _ _ _
  | _ => exact Change.even_of_still fun _ _ => rfl

theorem finish_sameDepths (r : Registry) : r.SameDepths r.finish :=
  r.finish_undergoes.sameDepths (Change.even_of_none fun _ _ => rfl)

theorem turn_sameDepths (r : Registry) : r.SameDepths r.turn := by
  have reaped : r.SameDepths r.reap := r.reap_undergoes.sameDepths fun name f g there idle => by
    simp only [Change.reap] at there
    split at there
    · cases there
    · exact idle g there
  rw [turn]
  split
  · exact reaped.trans (finish_sameDepths _)
  · exact reaped

theorem cancel_sameDepths (r : Registry) : r.SameDepths r.cancel := by
  rw [cancel]
  split
  · have told : r.SameDepths r.cancelAll := r.cancelAll_undergoes.sameDepths (Change.even_of_still fun _ _ => rfl)
    exact told.trans (finish_sameDepths _)
  · exact .rfl

theorem halt_sameDepths (r : Registry) (name : String) : r.SameDepths (r.halt name) := by
  refine (r.halt_undergoes name).sameDepths fun other f g there idle => ?_
  dsimp only at there
  split at there
  · obtain ⟨k, rfl, rfl⟩ := Option.map_eq_some_iff.mp there
    exact idle k rfl
  · exact idle g there

theorem askGame_sameDepths (r : Registry) (ref : GameRef) (q : GameRequest) : r.SameDepths (r.askGame ref q).2 := by
  refine (r.askGame_undergoes ref q).sameDepths ?_
  rw [messageChange]
  split
  · exact Change.even_of_still fun _ _ => rfl
  · exact Change.even_message _ _ _

theorem settle_sameDepths (r : Registry) (ref : GameRef) (answer : Except Failure GameAnswer) (e : SuspendedRequest) :
    r.SameDepths (r.settle ref answer e) := by
  refine (r.settle_undergoes ref answer e).sameDepths fun name f g there idle => ?_
  dsimp only at there
  split at there
  · cases there
  · exact idle g there

theorem suspended?_sameDepths {q : RegistryRequest} {e : SuspendedRequest} {ref : GameRef} {sent : Registry}
    (goes : r.suspended? q = some (e, ref, sent)) : r.SameDepths sent := by
  cases q with
  | unregister c =>
    obtain ⟨_, _, same⟩ := Option.map_eq_some_iff.mp goes
    cases same
    exact (r.forget_undergoes c).sameDepths (Change.even_of_still fun _ _ => rfl)
  | join a =>
    simp only [suspended?] at goes
    split at goes
    · split at goes
      · split at goes
        · cases goes
          exact .rfl
        · rename_i absent
          cases goes
          refine (createGame_undergoes (Option.map_eq_none_iff.mp absent)).sameDepths fun name f g there idle => ?_
          dsimp only at there
          split at there
          · cases there
            rfl
          · exact idle g there
      · cases goes
    · cases goes
  | listing name =>
    obtain ⟨_, _, same⟩ := Option.map_eq_some_iff.mp goes
    cases same
    exact .rfl
  | _ => cases goes

theorem closed_depth (r : Registry) : r.closed.mailbox.depth = r.mailbox.depth - 1 := rfl

theorem closed_idle (idle : r.Idle) : r.closed.Idle := idle

end Registry

theorem Mailbox.level_of_le_one {m : Mailbox} (small : m.depth ≤ 1) : m.level = .normal := by
  have warning : ¬m.kind.warningThreshold < m.depth := by
    cases m.kind <;> exact UInt64.not_lt.mpr (UInt64.le_trans small (by decide))
  have normal : ¬m.kind.normalThreshold < m.depth := by
    cases m.kind <;> exact UInt64.not_lt.mpr (UInt64.le_trans small (by decide))
  rw [level, levelAt, if_neg warning, if_neg normal]

namespace World

/-- One thing that happens at the mailboxes: whoever writes, be it one message or many at once, whatever is
asked for, and whether or not games stop on their own and the registry is told to. A message is counted when it
is taken out to be handled, and not when it is put in. -/
inductive MailboxStep (w : World) : World → Prop
  | calls (qs : List RegistryRequest) : MailboxStep w { w with inbox := w.inbox ++ qs }
  | writes (ref : GameRef) (letters : List Letter) : (∀ letter ∈ letters, letter.writer ≠ .registry) →
      MailboxStep w { w with boxes := Function.update w.boxes ref (w.boxes ref ++ letters) }
  | attends {q : RegistryRequest} {rest : List RegistryRequest} : w.registry.running = true → w.desk = none →
      w.inbox = q :: rest → MailboxStep w (w.attend q rest)
  | posts {e : SuspendedRequest} {ref : GameRef} : w.desk = some ⟨e, ref, .writing⟩ →
      MailboxStep w ({ w with desk := some ⟨e, ref, .written⟩ }.post ref ⟨.registry, e.request⟩)
  | handles {ref : GameRef} {letter : Letter} {rest : List Letter} {f : Fixture} : w.registry.reached? ref = some f →
      w.boxes ref = letter :: rest → MailboxStep w (w.handle ref letter rest)
  /-- The game that the registry waits for has stopped. -/
  | fails {duty : Duty} : w.desk = some duty → (∀ answer, duty.progress ≠ .answered answer) →
      w.registry.reached? duty.game = none →
      MailboxStep w { w with desk := some { duty with progress := .answered (.error .unreachable) } }
  | concludes {duty : Duty} {answer : Except Failure GameAnswer} : w.desk = some duty →
      duty.progress = .answered answer → MailboxStep w (w.conclude duty answer)
  | halts (name : String) : MailboxStep w { w with registry := w.registry.halt name }
  | stops : w.desk = none → MailboxStep w { w with registry := w.registry.cancel }
  /-- Queues of sessions are opened, drained and shut, and whatever is measured is. -/
  | queues (f : Exchange → Exchange) : MailboxStep w (w.modifyExchange f)
  | clients (clients : Table ConnectionId Client) : MailboxStep w { w with clients }

abbrev MailboxSteps : World → World → Prop := Relation.ReflTransGen MailboxStep

/-- The messages to the registry that it is not done with. -/
def backlog (w : World) : Nat := w.inbox.length + (if w.desk.isSome then 1 else 0)

/-- The messages that a game is not done with: it is done with one before it takes the next. -/
def backlogOf (w : World) (ref : GameRef) : Nat := (w.boxes ref).length

/-- What is counted: the message that the registry is occupied with, if there is one. -/
structure Counts (w : World) : Prop where
  registry : w.registry.mailbox.depth = if w.desk.isSome then 1 else 0
  games : w.registry.Idle

theorem start_counts (team : Nat) : (start team).Counts := ⟨rfl, fun _ _ there => by cases there⟩

variable {w after : World}

theorem Counts.same (counts : w.Counts) (depths : w.registry.SameDepths after.registry)
    (desk : after.desk.isSome = w.desk.isSome) : after.Counts :=
  ⟨by rw [depths.own, counts.registry, desk], depths.games counts.games⟩

theorem counts_done {r : Registry} (occupied : r.mailbox.depth = 1) (idle : r.Idle) (subject? : Option ConnectionId)
    (answer : RegistryAnswer) : (w.done r subject? answer).Counts := by
  have turned := r.closed.turn_sameDepths
  refine ⟨?_, turned.games (Registry.closed_idle idle)⟩
  exact turned.own.trans (by rw [Registry.closed_depth, occupied]; rfl)

/-- Whatever happens, no more is counted than what is being handled. -/
theorem MailboxStep.counts (step : MailboxStep w after) (counts : w.Counts) : after.Counts := by
  cases step with
  | calls | writes | queues | clients => exact counts.same ⟨rfl, id⟩ rfl
  | @attends q rest _ vacant first =>
    have occupied : w.registry.opened.mailbox.depth = 1 := by
      have none := counts.registry
      rw [vacant] at none
      rw [Registry.opened, Mailbox.enqueue, none]
      rfl
    have idle : w.registry.opened.Idle := counts.games
    rw [attend]
    cases goes : w.registry.opened.suspended? q with
    | some goal =>
      obtain ⟨e, ref, sent⟩ := goal
      have depths := Registry.suspended?_sameDepths goes
      simp only
      exact ⟨depths.own.trans occupied, depths.games idle⟩
    | none =>
      have depths := w.registry.opened.answer_sameDepths q
      exact counts_done (depths.own.trans occupied) (depths.games idle) ..
  | posts occupied => exact counts.same .rfl (by rw [occupied]; rfl)
  | @handles ref letter rest =>
    refine counts.same (w.registry.askGame_sameDepths ref letter.request) ?_
    simp only [handle]
    split
    · exact Option.isSome_map
    · rfl
  | fails occupied => exact counts.same .rfl (by rw [occupied]; rfl)
  | @concludes duty answer occupied =>
    have depths := w.registry.settle_sameDepths duty.game answer duty.suspended
    refine counts_done (depths.own.trans ?_) (depths.games counts.games) ..
    rw [counts.registry, occupied]
    rfl
  | halts name => exact counts.same (w.registry.halt_sameDepths name) rfl
  | stops => exact counts.same w.registry.cancel_sameDepths rfl

theorem MailboxSteps.counts (steps : MailboxSteps w after) (counts : w.Counts) : after.Counts := by
  induction steps with
  | refl => exact counts
  | tail _ step ih => exact step.counts ih

/-- Whoever asks is told of one message, and no mailbox is graded above normal, whatever waits. The message is
the question itself, for it is counted when it is taken out and not when it is put in. -/
theorem MailboxSteps.reports_one {team : Nat} (steps : MailboxSteps (start team) w) :
    (∀ rest, w.desk = none → w.inbox = .summary :: rest →
      (w.registry.opened.answer .summary).1 = .summary { w.registry.summary with mailboxDepth := 1 } ∧
        w.backlog = rest.length + 1) ∧
    (∀ ref writer rest f, w.registry.reached? ref = some f → w.boxes ref = ⟨writer, .roster⟩ :: rest →
      (w.registry.askGame ref .roster).1 = .ok (.roster f.game.roster 1) ∧ w.backlogOf ref = rest.length + 1) ∧
    w.registry.mailbox.level = .normal ∧
      ∀ name h, w.registry.games.find? name = some h →
        h.mailbox.level = .normal ∧ h.mailbox.enqueue.level = .normal := by
  have counts := steps.counts (start_counts team)
  refine ⟨fun rest vacant first => ⟨?_, ?_⟩, fun ref writer rest f reached first => ⟨?_, ?_⟩,
    Mailbox.level_of_le_one ?_, fun name h found => ?_⟩
  · have none := counts.registry
    rw [vacant] at none
    simp only [Registry.answer, Registry.summary, Registry.opened, Mailbox.enqueue, none]
    rfl
  · rw [backlog, first, vacant]
    rfl
  · obtain ⟨h, hosts, _, rfl⟩ := Registry.reached?_eq_some reached
    have none : h.fixture.depth = 0 := counts.games _ _ (Registry.fixture?_of_find? hosts.found)
    rw [(Registry.askGame_reached reached .roster).1, none]
    rfl
  · rw [backlogOf, first, List.length_cons]
  · rw [counts.registry]
    split
    · decide
    · decide
  · have none : h.mailbox.depth = 0 := counts.games name _ (Registry.fixture?_of_find? found)
    refine ⟨Mailbox.level_of_le_one (by rw [none]; decide), Mailbox.level_of_le_one ?_⟩
    show h.mailbox.depth + 1 ≤ 1
    rw [none]
    decide

def ring : GameRef := ⟨"ring", 0⟩

def ada : Application := ⟨⟨1⟩, "ring", "Ada", .first, none⟩

/-- A game is begun for an applicant, and the registry has written to it. -/
def applied : World :=
  let w := { start 5 with inbox := [.register ⟨1⟩ ⟨⟨1⟩, 0⟩, .join ada] }
  let w := (w.attend (.register ⟨1⟩ ⟨⟨1⟩, 0⟩) [.join ada]).attend (.join ada) []
  { w with desk := some ⟨.enrol ada ⟨⟨1⟩, 0⟩ true, ring, .written⟩ }.post ring
    ⟨.registry, .join (ada.entrant ⟨⟨1⟩, 0⟩)⟩

/-- The applicant has been let in, and then two ask the registry at once what there is, and two the game. -/
def asked : World :=
  let answer := (applied.registry.askGame ring (.join (ada.entrant ⟨⟨1⟩, 0⟩))).1
  let w := applied.handle ring ⟨.registry, .join (ada.entrant ⟨⟨1⟩, 0⟩)⟩ []
  let w := w.conclude ⟨.enrol ada ⟨⟨1⟩, 0⟩ true, ring, .answered answer⟩ answer
  { w with
    inbox := w.inbox ++ [.summary, .summary]
    boxes := Function.update w.boxes ring (w.boxes ring ++ [⟨.other, .roster⟩, ⟨.other, .roster⟩]) }

theorem mailboxSteps_asked : MailboxSteps (start 5) asked := by
  have called : MailboxSteps (start 5) { start 5 with inbox := [.register ⟨1⟩ ⟨⟨1⟩, 0⟩, .join ada] } :=
    .single (.calls (w := start 5) [.register ⟨1⟩ ⟨⟨1⟩, 0⟩, .join ada])
  have sent := (called.tail (.attends rfl rfl rfl)).tail (.attends rfl rfl rfl)
  have applied : MailboxSteps (start 5) applied := sent.tail (.posts rfl)
  have handled := applied.tail (@MailboxStep.handles _ ring ⟨.registry, .join (ada.entrant ⟨⟨1⟩, 0⟩)⟩ [] _ rfl rfl)
  have concluded := handled.tail
    (@MailboxStep.concludes _ ⟨.enrol ada ⟨⟨1⟩, 0⟩ true, ring, .answered _⟩ _ rfl rfl)
  exact (concluded.tail (.calls [.summary, .summary])).tail
    (.writes ring [⟨.other, .roster⟩, ⟨.other, .roster⟩] (by decide))

theorem reports_one_asked :
    asked.desk = none ∧ asked.inbox = [.summary, .summary] ∧
      (asked.registry.opened.answer .summary).1 = .summary { asked.registry.summary with mailboxDepth := 1 } ∧
      asked.backlog = 2 ∧ (∃ f, asked.registry.reached? ring = some f ∧
        (asked.registry.askGame ring .roster).1 = .ok (.roster f.game.roster 1)) ∧ asked.backlogOf ring = 2 := by
  obtain ⟨summary, roster, _⟩ := mailboxSteps_asked.reports_one
  have reached : ∃ f, asked.registry.reached? ring = some f := ⟨_, rfl⟩
  obtain ⟨f, reached⟩ := reached
  have called := summary [.summary] rfl rfl
  have written := roster ring .other [⟨.other, .roster⟩] f reached rfl
  exact ⟨rfl, rfl, called.1, called.2, ⟨f, reached, written.1⟩, written.2⟩

/-- Both questions are answered as if nobody else had asked, while two messages wait each time. -/
theorem backlog_untold :
    MailboxSteps (start 5) asked ∧
      (∃ summary, (asked.registry.opened.answer .summary).1 = .summary summary ∧
        summary.mailboxDepth.toNat ≠ asked.backlog) ∧
      ∃ roster depth, (asked.registry.askGame ring .roster).1 = .ok (.roster roster depth) ∧
        depth.toNat ≠ asked.backlogOf ring :=
  ⟨mailboxSteps_asked, ⟨_, rfl, by decide⟩, ⟨_, _, rfl, by decide⟩⟩

end World

end Scrimmage
