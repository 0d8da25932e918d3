import Scrimmage.Proofs.Hall

namespace Scrimmage

/-- A game as the registry keeps it, whether it goes on or has stopped. -/
structure Fixture.Holds (f : Fixture) (name : String) (capacity : Nat) : Prop where
  sound : f.game.Sound
  name_eq : f.game.name = name
  capacity_eq : f.game.capacity = capacity
  peopled : 0 < f.game.size

theorem Fixture.Holds.exists_player {f : Fixture} {name : String} {capacity : Nat} (holds : f.Holds name capacity) :
    ∃ team c p, (f.game.side team).find? c = some p := by
  have peopled := holds.peopled
  rw [← Game.members_length] at peopled
  obtain ⟨c, player⟩ := List.exists_mem_of_length_pos peopled
  obtain ⟨team, key⟩ := Game.mem_members_iff.mp player
  obtain ⟨p, seated⟩ := Table.mem_keys_iff.mp key
  exact ⟨team, c, p, seated⟩

namespace Registry

/-- The registry and its games agree on everyone but some connections that are recorded in games that are gone.
The registry forgets a game that has stopped after the next message and closes the sessions of its members,
whose records stay until they unregister. -/
structure Supervised (r : Registry) (stranded : ConnectionId → String → Prop) : Prop where
  listed : r.Listed
  holds : ∀ name f, r.fixture? name = some f → f.Holds name r.capacity
  seated : ∀ name f team c p, r.fixture? name = some f → f.running = true → (f.game.side team).find? c = some p →
    ∃ m, r.members.find? c = some m ∧ m.game = some name ∧ p.session = m.session
  recorded : ∀ c name, r.recorded? c = some name →
    (∃ f, r.fixture? name = some f ∧ c ∈ f.game.members) ∨ stranded c name

namespace Supervised

variable {r after : Registry} {stranded : ConnectionId → String → Prop} (supervised : r.Supervised stranded)

include supervised

theorem imp {stranded' : ConnectionId → String → Prop}
    (imp : ∀ c name, r.recorded? c = some name → stranded c name → stranded' c name) : r.Supervised stranded' :=
  { supervised with
    recorded := fun c name recorded => (supervised.recorded c name recorded).imp_right (imp c name recorded) }

theorem of_same (listed : after.Listed) (capacity : after.capacity = r.capacity)
    (member : ∀ c, after.members.find? c = r.members.find? c)
    (fixture : ∀ name, after.fixture? name = r.fixture? name) : after.Supervised stranded where
  listed := listed
  holds name f there := by
    rw [fixture] at there
    rw [capacity]
    exact supervised.holds name f there
  seated name f team c p there := by
    rw [fixture] at there
    rw [member]
    exact supervised.seated name f team c p there
  recorded c name recorded := by
    rw [recorded?, member] at recorded
    rw [fixture]
    exact supervised.recorded c name recorded

theorem undergo_still {outbox : SessionRef → Outbox → Outbox} {standing : Standing → Standing}
    (undergoes : r.Undergoes { outbox, standing } after) : after.Supervised stranded :=
  supervised.of_same (undergoes.listed supervised.listed) undergoes.capacity undergoes.member undergoes.fixture

theorem register {c : ConnectionId} {session : SessionRef} (undergoes : r.Undergoes (.register c session) after) :
    after.Supervised stranded where
  listed := undergoes.listed supervised.listed
  holds name f there := by
    rw [undergoes.fixture] at there
    rw [undergoes.capacity]
    exact supervised.holds name f there
  seated name f team d p there running seated := by
    rw [undergoes.fixture] at there
    obtain ⟨m, known, inside, same⟩ := supervised.seated name f team d p there running seated
    refine ⟨m, ?_, inside, same⟩
    rw [undergoes.member, known]
    simp [Change.register]
  recorded d name recorded := by
    rw [undergoes.fixture]
    refine supervised.recorded d name ?_
    obtain ⟨m, known, inside⟩ := recorded?_eq_some_iff.mp recorded
    rw [undergoes.member] at known
    simp only [Change.register] at known
    split at known
    · cases before : r.members.find? d with
      | some m₀ =>
        rw [before, Option.getD_some] at known
        exact recorded?_eq_some_iff.mpr ⟨m, before.trans known, inside⟩
      | none =>
        rw [before, Option.getD_none] at known
        rw [← Option.some.inj known] at inside
        cases inside
    · exact recorded?_eq_some_iff.mpr ⟨m, known, inside⟩

end Supervised

end Registry

namespace Game

variable {g : Game}

theorem remaining_leave (g : Game) (c : ConnectionId) : (g.leave c).1.remaining = (g.leave c).2.size := by
  cases member : g.teamOf.find? c with
  | none => rw [leave_of_none member]
  | some team => rw [leave_of_some member]

theorem find?_leave_iff (sound : g.Sound) {c d : ConnectionId} {team : Team} {p : Player} :
    ((g.leave c).2.side team).find? d = some p ↔ d ≠ c ∧ (g.side team).find? d = some p := by
  cases member : g.teamOf.find? c with
  | some other =>
    rw [leave_of_some member]
    exact find?_unseat_iff sound member
  | none =>
    rw [leave_of_none member]
    refine (and_iff_right_of_imp ?_).symm
    rintro seated rfl
    rw [sound.find?_of_absent member] at seated
    cases seated

theorem mem_members_leave_iff (sound : g.Sound) {c d : ConnectionId} :
    d ∈ (g.leave c).2.members ↔ d ≠ c ∧ d ∈ g.members := by
  simp only [mem_members_iff, Table.mem_keys_iff, find?_leave_iff sound, exists_and_left]

theorem name_leave (g : Game) (c : ConnectionId) : (g.leave c).2.name = g.name := by
  cases member : g.teamOf.find? c with
  | none => rw [leave_of_none member]
  | some team => rw [leave_of_some member, name_unseat]

end Game

/-- A game that is left by someone is still one if someone else is in it. -/
theorem Fixture.Holds.without {f f' : Fixture} {name : String} {capacity : Nat} (holds : f.Holds name capacity)
    {c : ConnectionId} (left : f.without c = some f') : f'.Holds name capacity := by
  rw [Fixture.without] at left
  split at left
  · split at left
    · cases left
    · rename_i some
      cases left
      have handled := f.game.answer_handles 0 .empty (.leave c)
      rw [Game.remaining_leave] at some
      exact ⟨holds.sound.handles handled, (f.game.name_leave c).trans holds.name_eq,
        handled.capacity_eq.trans holds.capacity_eq, Nat.pos_of_ne_zero some⟩
  · cases left
    exact holds

namespace Registry.Supervised

variable {r after : Registry} {stranded : ConnectionId → String → Prop} (supervised : r.Supervised stranded)

include supervised

theorem unregister {c : ConnectionId} (undergoes : r.Undergoes (.unregister c (r.recorded? c)) after) :
    after.Supervised fun d name => d ≠ c ∧ stranded d name := by
  have fixture := undergoes.fixture
  have member := undergoes.member
  simp only [Change.unregister] at fixture member
  have stays : ∀ {d m}, after.members.find? d = some m → d ≠ c ∧ r.members.find? d = some m := by
    intro d m known
    rw [member] at known
    split at known
    · cases known
    · rename_i other
      exact ⟨other, known⟩
  exact {
    listed := undergoes.listed supervised.listed
    holds := by
      intro name f there
      rw [fixture] at there
      rw [undergoes.capacity]
      split at there
      · obtain ⟨f₀, before, left⟩ := Option.bind_eq_some_iff.mp there
        exact (supervised.holds name f₀ before).without left
      · exact supervised.holds name f there
    seated := by
      intro name f team d p there running seated
      have before : d ≠ c ∧ ∃ m, r.members.find? d = some m ∧ m.game = some name ∧ p.session = m.session := by
        rw [fixture] at there
        split at there
        · obtain ⟨f₀, before, left⟩ := Option.bind_eq_some_iff.mp there
          have sound := (supervised.holds name f₀ before).sound
          rw [Fixture.without] at left
          split at left
          · rename_i goes
            split at left
            · cases left
            · cases left
              obtain ⟨other, seated⟩ := (Game.find?_leave_iff sound).mp seated
              exact ⟨other, supervised.seated name f₀ team d p before goes seated⟩
          · rename_i stopped
            cases left
            exact absurd running stopped
        · -- who is seated here is recorded here, and `c` is recorded elsewhere
          rename_i elsewhere
          obtain ⟨m, known, inside, same⟩ := supervised.seated name f team d p there running seated
          refine ⟨?_, m, known, inside, same⟩
          rintro rfl
          exact elsewhere (recorded?_eq_some_iff.mpr ⟨m, known, inside⟩)
      obtain ⟨other, m, known, inside, same⟩ := before
      refine ⟨m, ?_, inside, same⟩
      rw [member, if_neg other, known]
    recorded := by
      intro d name recorded
      obtain ⟨m, known, inside⟩ := recorded?_eq_some_iff.mp recorded
      obtain ⟨other, known⟩ := stays known
      rcases supervised.recorded d name (recorded?_eq_some_iff.mpr ⟨m, known, inside⟩) with ⟨f, there, player⟩ | left
      · left
        rw [fixture, there]
        split
        · have sound := (supervised.holds name f there).sound
          simp only [Option.bind_some, Fixture.without]
          split
          · have remains := (Game.mem_members_leave_iff sound).mpr ⟨other, player⟩
            have some := (Game.size_pos_of_mem remains).ne'
            rw [← Game.remaining_leave] at some
            rw [if_neg some]
            exact ⟨_, rfl, remains⟩
          · exact ⟨f, rfl, player⟩
        · exact ⟨f, rfl, player⟩
      · exact Or.inr ⟨other, left⟩ }

end Registry.Supervised

namespace Registry.Supervised

variable {r after : Registry} {stranded : ConnectionId → String → Prop} (supervised : r.Supervised stranded)

include supervised

/-- The game that an applicant gets into is the one of the name, or it has no player yet. -/
theorem gameFor? {name : String} {g : Game} (found : r.gameFor? name = some g) :
    g.Sound ∧ g.name = name ∧ g.capacity = r.capacity ∧
      (∀ c team p, (g.side team).find? c = some p →
        ∃ m, r.members.find? c = some m ∧ m.game = some name ∧ p.session = m.session) ∧
      ∀ f, r.fixture? name = some f → f.game = g := by
  rw [Registry.gameFor?] at found
  split at found
  · rename_i absent
    cases found
    refine ⟨Game.create_sound name r.capacity, rfl, rfl, ?_, fun f there => by cases absent.symm.trans there⟩
    intro c team p seated
    cases team <;> cases seated
  · rename_i f there
    split at found
    · rename_i running
      cases found
      have holds := supervised.holds name f there
      refine ⟨holds.sound, holds.name_eq, holds.capacity_eq, ?_, fun f' there' => ?_⟩
      · exact fun c team p => supervised.seated name f team c p there running
      · rw [Option.some.inj (there'.symm.trans there)]
    · cases found

theorem seat {a : Application} {session : SessionRef} {placement : Placement} {game : Game}
    (verdict : r.verdict a = .ok (session, placement, game))
    (undergoes : r.Undergoes (.seat a session placement game) after) : after.Supervised stranded := by
  obtain ⟨m₀, g, known₀, outside, rfl, found, admits, rfl⟩ := verdict_eq_ok verdict
  obtain ⟨sound, name_eq, capacity_eq, players, same⟩ := supervised.gameFor? found
  have fixture := undergoes.fixture
  have member := undergoes.member
  simp only [Change.seat] at fixture member
  have placed := Game.find?_entered_iff sound admits
  have own : after.members.find? a.connection = some { m₀ with game := some a.game } := by
    rw [member, if_pos rfl, known₀, Option.map_some]
  -- who is a player already is not the applicant
  have other : ∀ {c m name}, r.members.find? c = some m → m.game = some name → c ≠ a.connection := by
    rintro c m name known inside rfl
    cases known.symm.trans known₀
    rw [outside] at inside
    cases inside
  have kept : ∀ {c m name}, r.members.find? c = some m → m.game = some name → after.members.find? c = some m := by
    intro c m name known inside
    rw [member, if_neg (other known inside), known]
  exact {
    listed := undergoes.listed supervised.listed
    holds := by
      intro name f there
      rw [fixture] at there
      rw [undergoes.capacity]
      split at there
      · rename_i here
        cases there
        have newcomer := (placed a.connection placement.team _).mpr (Or.inl ⟨rfl, rfl, rfl⟩)
        exact ⟨sound.entered admits, here ▸ (Game.name_seat ..).trans name_eq,
          (Game.capacity_seat ..).trans capacity_eq, Game.size_pos_of_mem (Game.mem_members_of_find? newcomer)⟩
      · exact supervised.holds name f there
    seated := by
      intro name f team c p there running seated
      rw [fixture] at there
      split at there
      · rename_i here
        cases there
        rcases (placed c team p).mp seated with ⟨rfl, _, rfl⟩ | ⟨_, before⟩
        · exact ⟨_, own, here ▸ rfl, rfl⟩
        · obtain ⟨m, known, inside, session⟩ := players c team p before
          exact ⟨m, kept known inside, here ▸ inside, session⟩
      · obtain ⟨m, known, inside, session⟩ := supervised.seated name f team c p there running seated
        exact ⟨m, kept known inside, inside, session⟩
    recorded := by
      intro c name recorded
      obtain ⟨m, known, inside⟩ := recorded?_eq_some_iff.mp recorded
      by_cases newcomer : c = a.connection
      · subst newcomer
        cases own.symm.trans known
        cases inside
        left
        rw [fixture, if_pos rfl]
        exact ⟨_, rfl, Game.mem_members_of_find? ((placed a.connection placement.team _).mpr (Or.inl ⟨rfl, rfl, rfl⟩))⟩
      · rw [member, if_neg newcomer] at known
        refine (supervised.recorded c name (recorded?_eq_some_iff.mpr ⟨m, known, inside⟩)).imp_left ?_
        rintro ⟨f, there, player⟩
        rw [fixture]
        split
        · rename_i here
          subst here
          rw [same f there] at player
          obtain ⟨team, key⟩ := Game.mem_members_iff.mp player
          obtain ⟨p, seated⟩ := Table.mem_keys_iff.mp key
          exact ⟨_, rfl, Game.mem_members_of_find? ((placed c team p).mpr (Or.inr ⟨newcomer, seated⟩))⟩
        · exact ⟨f, there, player⟩ }

theorem halt {name : String}
    (undergoes : r.Undergoes
      { fixture := fun other f => if other = name then f.map ({ · with running := false }) else f } after) :
    after.Supervised stranded := by
  have fixture := undergoes.fixture
  have member : ∀ c, after.members.find? c = r.members.find? c := undergoes.member
  dsimp only at fixture
  exact {
    listed := undergoes.listed supervised.listed
    holds := by
      intro other f there
      rw [fixture] at there
      rw [undergoes.capacity]
      split at there
      · obtain ⟨f₀, before, rfl⟩ := Option.map_eq_some_iff.mp there
        have holds := supervised.holds other f₀ before
        exact ⟨holds.sound, holds.name_eq, holds.capacity_eq, holds.peopled⟩
      · exact supervised.holds other f there
    seated := by
      intro other f team c p there running
      rw [member]
      rw [fixture] at there
      split at there
      · obtain ⟨f₀, before, rfl⟩ := Option.map_eq_some_iff.mp there
        cases running
      · exact supervised.seated other f team c p there running
    recorded := by
      intro c other recorded
      rw [recorded?, member] at recorded
      refine (supervised.recorded c other recorded).imp_left ?_
      rintro ⟨f, there, player⟩
      rw [fixture]
      split
      · exact ⟨{ f with running := false }, by rw [there, Option.map_some], player⟩
      · exact ⟨f, there, player⟩ }

theorem reap {told : SessionRef → Nat} (undergoes : r.Undergoes (.reap r.hasStopped told) after) :
    after.Supervised (fun c name => stranded c name ∨ r.hasStopped name = true) ∧
      ∀ name f, after.fixture? name = some f → f.running = true := by
  have fixture := undergoes.fixture
  have member : ∀ c, after.members.find? c = r.members.find? c := undergoes.member
  simp only [Change.reap] at fixture
  have goes : ∀ {name f}, after.fixture? name = some f → r.fixture? name = some f ∧ r.hasStopped name = false := by
    intro name f there
    rw [fixture] at there
    split at there
    · cases there
    · rename_i running
      exact ⟨there, Bool.eq_false_of_not_eq_true running⟩
  refine ⟨?_, ?_⟩
  · exact {
      listed := undergoes.listed supervised.listed
      holds := by
        intro name f there
        rw [undergoes.capacity]
        exact supervised.holds name f (goes there).1
      seated := by
        intro name f team c p there running seated
        rw [member]
        exact supervised.seated name f team c p (goes there).1 running seated
      recorded := by
        intro c name recorded
        rw [recorded?, member] at recorded
        cases stopped : r.hasStopped name with
        | true => exact Or.inr (Or.inr rfl)
        | false =>
          rw [fixture, stopped]
          exact (supervised.recorded c name recorded).imp id Or.inl }
  · intro name f there
    obtain ⟨before, goes⟩ := goes there
    rw [hasStopped, before] at goes
    simpa using goes

theorem coherent (none : ∀ c name, ¬stranded c name)
    (running : ∀ name f, r.fixture? name = some f → f.running = true) : r.Coherent where
  unjoined_iff := supervised.listed.unjoined_iff
  unjoined_nodup := supervised.listed.nodup
  lives name h found := by
    have there := fixture?_of_find? found
    have holds := supervised.holds name _ there
    exact ⟨running name _ there, holds.sound, holds.name_eq, holds.capacity_eq, holds.peopled⟩
  recorded_iff c name := by
    constructor
    · intro recorded
      rcases supervised.recorded c name recorded with ⟨f, there, player⟩ | left
      · obtain ⟨h, found, rfl⟩ := Option.map_eq_some_iff.mp there
        exact ⟨h, found, player⟩
      · exact absurd left (none c name)
    · rintro ⟨h, found, player⟩
      obtain ⟨team, key⟩ := Game.mem_members_iff.mp player
      obtain ⟨p, seated⟩ := Table.mem_keys_iff.mp key
      have there := fixture?_of_find? found
      obtain ⟨m, known, inside, _⟩ := supervised.seated name _ team c p there (running name _ there) seated
      exact recorded?_eq_some_iff.mpr ⟨m, known, inside⟩
  session_eq c m name h team p known found seated := by
    have there := fixture?_of_find? found
    obtain ⟨m', known', _, same⟩ := supervised.seated name _ team c p there (running name _ there) seated
    rw [same, Option.some.inj (known.symm.trans known')]

end Registry.Supervised

namespace Registry

/-- The registry after some connections have gone. -/
def without (r : Registry) (gone : List ConnectionId) : Registry := gone.foldl (fun r c => (r.unregister c).2) r

theorem running_unregister {r : Registry} (running : ∀ name f, r.fixture? name = some f → f.running = true)
    (c : ConnectionId) (name : String) (f : Fixture) (there : (r.unregister c).2.fixture? name = some f) :
    f.running = true := by
  rw [(r.unregister_undergoes c).fixture] at there
  simp only [Change.unregister] at there
  split at there
  · obtain ⟨f₀, before, left⟩ := Option.bind_eq_some_iff.mp there
    have goes := running name f₀ before
    rw [Fixture.without, if_pos goes] at left
    split at left
    · cases left
    · cases left
      exact goes
  · exact running name f there

/-- Once all who are stranded have gone, the registry and its games agree on everyone. -/
theorem Supervised.coherent_without {r : Registry} {stranded : ConnectionId → String → Prop}
    (supervised : r.Supervised stranded) (running : ∀ name f, r.fixture? name = some f → f.running = true)
    {gone : List ConnectionId} (all : ∀ c name, stranded c name → c ∈ gone) : (r.without gone).Coherent := by
  induction gone generalizing r stranded with
  | nil => exact supervised.coherent (fun c name left => List.not_mem_nil (all c name left)) running
  | cons c gone ih =>
    refine ih (supervised.unregister (r.unregister_undergoes c)) (running_unregister running c) ?_
    rintro d name ⟨other, left⟩
    exact (List.mem_cons.mp (all d name left)).resolve_left other

end Registry

/-- What can happen as long as the registry goes on: games may stop at any time, and to leave and to join is left
to the registry. -/
def Act.Ordinary : Act → Prop
  | .message _ _ q => q.Open
  | .wind => False
  | _ => True

/-- A connection that has been recorded in a game since the registry found that the game had stopped, forgot it,
and closed the session of the connection, if that still took commands. -/
def Dismissed (steps : List Step) (c : ConnectionId) (name : String) : Prop :=
  ∃ earlier step later m, steps = earlier ++ step :: later ∧ step.act = .check ∧
    step.before.registry.hasStopped name = true ∧ step.after.registry.games.find? name = none ∧
    step.before.registry.members.find? c = some m ∧ m.game = some name ∧
    (step.before.registry.exchange.accepts m.session = true → .close Registry.gameStopped ∈ step.queued m.session) ∧
    ∀ u ∈ later, u.before.registry.recorded? c = some name

namespace Hall

/-- A hall from its start on, with the steps so far. Games may stop at any time and the registry looks after
them at any time; to leave and to join a game is left to the registry. -/
inductive Runs (capacity : Nat) : List Step → Hall → Prop
  | start (outboxes : List Outbox) : Runs capacity [] (start capacity outboxes)
  | next {steps h} (act : Act) : Runs capacity steps h → act.Ordinary →
      Runs capacity (steps ++ [⟨h, act⟩]) (h.perform act).2

end Hall

theorem Dismissed.next {steps : List Step} {h : Hall} {c : ConnectionId} {name : String}
    (dismissed : Dismissed steps c name) (recorded : h.registry.recorded? c = some name) (act : Act) :
    Dismissed (steps ++ [⟨h, act⟩]) c name := by
  obtain ⟨earlier, step, later, m, rfl, check, stopped, gone, known, inside, closed, since⟩ := dismissed
  refine ⟨earlier, step, later ++ [⟨h, act⟩], m, by simp, check, stopped, gone, known, inside, closed, ?_⟩
  intro u member
  rcases List.mem_append.mp member with before | now
  · exact since u before
  · cases List.mem_singleton.mp now
    exact recorded

theorem dismissed_of_check {steps : List Step} {h : Hall} {c : ConnectionId} {name : String}
    (recorded : h.registry.recorded? c = some name) (stopped : h.registry.hasStopped name = true) :
    Dismissed (steps ++ [⟨h, .check⟩]) c name := by
  obtain ⟨m, known, inside⟩ := Registry.recorded?_eq_some_iff.mp recorded
  have undergoes := h.perform_undergoes .check
  refine ⟨steps, ⟨h, .check⟩, [], m, rfl, rfl, stopped, ?_, known, inside, ?_,
    fun _ later => absurd later List.not_mem_nil⟩
  · have fixture := undergoes.fixture name
    simp only [Hall.change, Change.reap, stopped, if_true] at fixture
    exact Registry.fixture?_eq_none_iff.mp fixture
  · intro accepts
    have counted : 0 < h.registry.membersOf h.registry.hasStopped m.session := by
      rw [Registry.membersOf, List.countP_pos_iff]
      exact ⟨m, Table.mem_values_iff.mpr ⟨c, known⟩, by simp [inside, stopped]⟩
    have waiting := Exchange.waiting_extended (undergoes.outbox m.session)
    rw [Step.queued, Step.after, waiting, if_pos accepts, List.drop_left]
    exact List.mem_replicate.mpr ⟨counted.ne', rfl⟩

/-- A message that others than the registry send to a game changes no more than queues. -/
theorem Registry.askGame_still (r : Registry) (ref : GameRef) {q : GameRequest} (isOpen : q.Open) :
    ∃ outbox, r.Undergoes { outbox } (r.askGame ref q).2 := by
  have undergoes := r.askGame_undergoes ref q
  rw [messageChange] at undergoes
  split at undergoes
  · exact ⟨_, undergoes⟩
  · rename_i f reached
    obtain ⟨k, hosts, _, rfl⟩ := reached?_eq_some reached
    refine ⟨_, undergoes.congr (fun _ => rfl) (fun name => ?_) (fun _ => rfl) rfl⟩
    simp only [Change.message, Game.game_answer_of_open isOpen]
    split
    · rename_i here
      rw [here, fixture?_of_find? hosts.found]
      rfl
    · rfl

namespace Hall

theorem start_supervised (capacity : Nat) (outboxes : List Outbox) (stranded : ConnectionId → String → Prop) :
    (start capacity outboxes).registry.Supervised stranded where
  listed := (start_regular capacity outboxes).listed
  holds name f there := by cases there
  seated name f team c p there := by cases there
  recorded c name recorded := by cases recorded

theorem supervised_message {h : Hall} {stranded : ConnectionId → String → Prop}
    (supervised : h.registry.Supervised stranded) (c : ConnectionId) (n : Nat) {q : GameRequest} (isOpen : q.Open) :
    (h.perform (.message c n q)).2.registry.Supervised stranded := by
  rw [perform]
  split
  · exact supervised
  · obtain ⟨outbox, undergoes⟩ := h.registry.askGame_still _ isOpen
    exact supervised.undergo_still undergoes

/-- What any act leaves of the agreement: only a look at the games may leave someone stranded. -/
theorem supervised_perform {h : Hall} {stranded : ConnectionId → String → Prop}
    (supervised : h.registry.Supervised stranded) {act : Act} (ordinary : act.Ordinary) :
    (h.perform act).2.registry.Supervised
      fun c name => stranded c name ∨ act = .check ∧ h.registry.hasStopped name = true := by
  have undergoes := h.perform_undergoes act
  have weaken : ∀ {stranded' : ConnectionId → String → Prop}, (∀ c name, stranded' c name → stranded c name) →
      (h.perform act).2.registry.Supervised stranded' → (h.perform act).2.registry.Supervised
        fun c name => stranded c name ∨ act = .check ∧ h.registry.hasStopped name = true :=
    fun weaker kept => kept.imp fun c name _ left => Or.inl (weaker c name left)
  cases act with
  | request q =>
    simp only [change] at undergoes
    split at undergoes
    · cases q with
      | register c session => exact weaken (fun _ _ => id) (supervised.register undergoes)
      | unregister c => exact weaken (fun _ _ => And.right) (supervised.unregister undergoes)
      | join a =>
        simp only [Registry.requestChange] at undergoes
        split at undergoes
        · exact weaken (fun _ _ => id) (supervised.undergo_still undergoes)
        · rename_i verdict
          exact weaken (fun _ _ => id) (supervised.seat verdict undergoes)
      | _ => exact weaken (fun _ _ => id) (supervised.undergo_still undergoes)
    · exact weaken (fun _ _ => id) (supervised.undergo_still undergoes)
  | message c n q => exact weaken (fun _ _ => id) (supervised_message supervised c n ordinary)
  | halt name => exact weaken (fun _ _ => id) (supervised.halt undergoes)
  | check => exact (supervised.reap undergoes).1.imp fun c name _ left => left.imp id fun stopped => ⟨rfl, stopped⟩
  | wind => exact ordinary.elim
  | _ => exact weaken (fun _ _ => id) (supervised.undergo_still undergoes)

/-- At any time those who are recorded in games that they are not in were dismissed from them. -/
theorem Runs.supervised {capacity : Nat} {steps : List Step} {h : Hall} (run : Runs capacity steps h) :
    h.registry.Supervised (Dismissed steps) := by
  induction run with
  | start outboxes => exact start_supervised capacity outboxes _
  | @next steps h act _ ordinary ih =>
    have before : h.registry.Supervised fun c name => h.registry.recorded? c = some name ∧ Dismissed steps c name :=
      ih.imp fun c name recorded dismissed => ⟨recorded, dismissed⟩
    refine (supervised_perform before ordinary).imp fun c name recorded left => ?_
    rcases left with ⟨recorded, dismissed⟩ | ⟨rfl, stopped⟩
    · exact dismissed.next recorded act
    · -- to look at the games changes no record
      have same := (h.perform_undergoes .check).member c
      rw [Registry.recorded?, same] at recorded
      exact dismissed_of_check recorded stopped

/-- What holds after a look at the games. No stopped game is left, and all but those who are dismissed are where
they are recorded; once those have gone, everyone agrees again. -/
structure Restored (steps : List Step) (r : Registry) : Prop where
  running : ∀ name k, r.games.find? name = some k → k.running = true
  unjoined_iff : ∀ c, c ∈ r.unjoined ↔ ∃ m, r.members.find? c = some m ∧ m.game = none
  unjoined_nodup : r.unjoined.Nodup
  /-- A player is registered, with the same session, and recorded in the game. -/
  seated : ∀ name k team c p, r.games.find? name = some k → (k.game.side team).find? c = some p →
    ∃ m, r.members.find? c = some m ∧ m.game = some name ∧ p.session = m.session
  peopled : ∀ name k, r.games.find? name = some k → ∃ c, r.recorded? c = some name
  recorded : ∀ c name, r.recorded? c = some name →
    (∃ k, r.games.find? name = some k ∧ c ∈ k.game.members) ∨ Dismissed steps c name
  /-- Once those have gone whose game is not there or does not know them, all agree again. -/
  cleared : ∀ gone : List ConnectionId,
    (∀ c name, r.recorded? c = some name → (∃ k, r.games.find? name = some k ∧ c ∈ k.game.members) ∨ c ∈ gone) →
      (r.without gone).Coherent

/-- Whatever games have stopped, after the next message and a look at the games those are gone, and the registry
agrees with the games that are left on all connections but those whose game was found stopped and whose sessions
were closed for it. They are out of step until they unregister, and no longer. -/
theorem Runs.restored {capacity : Nat} {steps : List Step} {h : Hall} (run : Runs capacity steps h)
    (q : RegistryRequest) :
    Restored (steps ++ [⟨h, .request q⟩, ⟨(h.perform (.request q)).2, .check⟩])
      ((h.perform (.request q)).2.perform .check).2.registry := by
  have asked : Runs capacity (steps ++ [⟨h, .request q⟩]) (h.perform (.request q)).2 := run.next _ trivial
  have checked := asked.next .check trivial
  rw [List.append_assoc, List.singleton_append] at checked
  have supervised := checked.supervised
  have running := (asked.supervised.reap ((h.perform (.request q)).2.perform_undergoes .check)).2
  generalize ((h.perform (.request q)).2.perform .check).2.registry = r at supervised running
  have inGame : ∀ {c name}, (∃ f, r.fixture? name = some f ∧ c ∈ f.game.members) ↔
      ∃ k, r.games.find? name = some k ∧ c ∈ k.game.members := by
    intro c name
    simp only [Registry.fixture?, Option.map_eq_some_iff]
    constructor
    · rintro ⟨_, ⟨k, found, rfl⟩, player⟩
      exact ⟨k, found, player⟩
    · rintro ⟨k, found, player⟩
      exact ⟨k.fixture, ⟨k, found, rfl⟩, player⟩
  exact {
    running := fun name k found => running name _ (Registry.fixture?_of_find? found)
    unjoined_iff := supervised.listed.unjoined_iff
    unjoined_nodup := supervised.listed.nodup
    seated := fun name k team c p found =>
      have there := Registry.fixture?_of_find? found
      supervised.seated name _ team c p there (running name _ there)
    peopled := by
      intro name k found
      have there := Registry.fixture?_of_find? found
      obtain ⟨team, c, p, seated⟩ := (supervised.holds name _ there).exists_player
      obtain ⟨m, known, inside, _⟩ := supervised.seated name _ team c p there (running name _ there) seated
      exact ⟨c, Registry.recorded?_eq_some_iff.mpr ⟨m, known, inside⟩⟩
    recorded := fun c name recorded => (supervised.recorded c name recorded).imp_left inGame.mp
    cleared := by
      intro gone all
      have known : r.Supervised fun c name => r.recorded? c = some name ∧
          ¬∃ f, r.fixture? name = some f ∧ c ∈ f.game.members :=
        { supervised with
          recorded := fun c name recorded =>
            (Classical.em _).imp_right fun outside => ⟨recorded, outside⟩ }
      refine known.coherent_without running ?_
      rintro c name ⟨recorded, outside⟩
      exact (all c name recorded).resolve_left fun player => outside (inGame.mpr player) }

/-- A game that has stopped with its only player in it. -/
def ringHalted : Hall :=
  let registered := ((start 5 [.empty]).perform (.request (.register ⟨1⟩ ⟨⟨1⟩, 0⟩))).2
  let joined := (registered.perform (.request (.join ⟨⟨1⟩, "ring", "Ada", .first, none⟩))).2
  (joined.perform (.halt "ring")).2

theorem runs_ringHalted : ∃ steps, Runs 5 steps ringHalted :=
  ⟨_, .next _ (.next _ (.next _ (.start _) trivial) trivial) trivial⟩

theorem restored_ringHalted :
    ∃ steps, Runs 5 steps ringHalted ∧
      Restored (steps ++ [⟨ringHalted, .request .summary⟩, ⟨(ringHalted.perform (.request .summary)).2, .check⟩])
        ((ringHalted.perform (.request .summary)).2.perform .check).2.registry := by
  obtain ⟨steps, run⟩ := runs_ringHalted
  exact ⟨steps, run, run.restored .summary⟩

/-- The agreement on everyone, as it holds as long as no game stops. -/
def Documented (r : Registry) : Prop :=
  (∀ c name, r.recorded? c = some name → ∃ k, r.games.find? name = some k ∧ c ∈ k.game.members) ∧
    (∀ c m, r.members.find? c = some m → m.game = none → c ∈ r.unjoined) ∧
    ∀ name, (∃ c, r.recorded? c = some name) ↔ name ∈ r.games.keys

/-- The player of a game that has stopped is still recorded in it when the game is gone. -/
theorem not_documented_ringHalted :
    ¬∀ steps h, Runs 5 steps h → ∀ q,
      Documented ((h.perform (.request q)).2.perform .check).2.registry := by
  intro documented
  obtain ⟨steps, run⟩ := runs_ringHalted
  obtain ⟨_, _, named⟩ := documented steps ringHalted run .summary
  have recorded : ((ringHalted.perform (.request .summary)).2.perform .check).2.registry.recorded? ⟨1⟩ =
      some "ring" := by decide
  have gone : "ring" ∉ ((ringHalted.perform (.request .summary)).2.perform .check).2.registry.games.keys := by decide
  exact gone ((named "ring").mp ⟨⟨1⟩, recorded⟩)

end Hall

end Scrimmage
