import Scrimmage.Proofs.Hall

namespace Scrimmage

theorem forall₂_imp_of_mem {α β : Type} {R S : α → β → Prop} {l : List α} {l' : List β} (related : List.Forall₂ R l l')
    (imp : ∀ a ∈ l, ∀ b ∈ l', R a b → S a b) : List.Forall₂ S l l' := by
  induction related with
  | nil => exact .nil
  | cons first rest ih =>
    refine .cons (imp _ List.mem_cons_self _ List.mem_cons_self first) (ih fun a member b member' => ?_)
    exact imp a (List.mem_cons_of_mem _ member) b (List.mem_cons_of_mem _ member')

/-- A part of what there is to see: some connections, some names of games, and some queues. What happens within
the part is answered alike in two halls that look alike to those who see it, and leaves them alike; what happens
outside it does not show. -/
structure View where
  connection : ConnectionId → Prop
  name : String → Prop
  queue : Nat → Prop

/-- The view of everything. -/
def View.all : View := { connection := fun _ => True, name := fun _ => True, queue := fun _ => True }

/-- Two changes that do the same to the part that is seen. What they do to the rest may differ. -/
structure Change.Agrees (view : View) (one two : Change) : Prop where
  member : ∀ c, view.connection c → one.member c = two.member c
  fixture : ∀ name, view.name name → one.fixture name = two.fixture name
  outbox : ∀ s : SessionRef, view.queue s.queue → one.outbox s = two.outbox s
  standing : one.standing = two.standing

theorem Change.Agrees.same (view : View) (change : Change) : change.Agrees view change :=
  ⟨fun _ _ => rfl, fun _ _ => rfl, fun _ _ => rfl, rfl⟩

namespace Registry

/-- Two registries that look the same to those who see a part of them: the members, games and queues of the view
are the same, and so is what the registry is up to. Which game of a name it is does not show. -/
structure Alike (view : View) (r r' : Registry) : Prop where
  member : ∀ c, view.connection c → r.members.find? c = r'.members.find? c
  fixture : ∀ name, view.name name → r.fixture? name = r'.fixture? name
  outbox : ∀ s : SessionRef, view.queue s.queue → r.exchange.outbox? s = r'.exchange.outbox? s
  standing : r.standing = r'.standing
  capacity : r.capacity = r'.capacity
  depth : r.mailbox.depth = r'.mailbox.depth

theorem Alike.undergo {view : View} {r r' after after' : Registry} {change change' : Change} (alike : r.Alike view r')
    (one : r.Undergoes change after) (two : r'.Undergoes change' after') (agree : change.Agrees view change') :
    after.Alike view after' where
  member c seen := by rw [one.member, two.member, alike.member c seen, agree.member c seen]
  fixture name seen := by rw [one.fixture, two.fixture, alike.fixture name seen, agree.fixture name seen]
  outbox s seen := by rw [one.outbox, two.outbox, alike.outbox s seen, agree.outbox s seen]
  standing := by rw [one.standing, two.standing, alike.standing, agree.standing]
  capacity := by rw [one.capacity, two.capacity, alike.capacity]
  depth := by rw [one.depth, two.depth, alike.depth]

/-- Two ways to a game of one name, such that both lead to the game that is there or neither does. -/
structure SameWay (r r' : Registry) (ref ref' : GameRef) : Prop where
  name : ref.name = ref'.name
  there : r.gameRef? ref.name = some ref ↔ r'.gameRef? ref'.name = some ref'

/-- A game that was there before is there as long as a game of its name is. -/
theorem Undergoes.gameRef?_eq_some_iff {r after : Registry} {change : Change} (undergoes : r.Undergoes change after)
    {ref : GameRef} (older : ref.generation < r.nextGeneration) :
    after.gameRef? ref.name = some ref ↔ after.fixture? ref.name ≠ none ∧ r.gameRef? ref.name = some ref := by
  rw [undergoes.ref]
  cases after.fixture? ref.name with
  | none => simp
  | some f =>
    cases before : r.gameRef? ref.name with
    | some ref' => simp
    | none =>
      -- what is new is of the next generation
      have new : (⟨ref.name, r.nextGeneration⟩ : GameRef) ≠ ref := fun same =>
        older.ne (congrArg GameRef.generation same).symm
      simp [new]

theorem SameWay.undergo {r r' after after' : Registry} {change change' : Change} {ref ref' : GameRef}
    (same : SameWay r r' ref ref') (one : r.Undergoes change after) (two : r'.Undergoes change' after')
    (older : ref.generation < r.nextGeneration) (older' : ref'.generation < r'.nextGeneration)
    (fixture : after.fixture? ref.name = after'.fixture? ref.name) : SameWay after after' ref ref' where
  name := same.name
  there := by
    rw [one.gameRef?_eq_some_iff older, two.gameRef?_eq_some_iff older', same.there, fixture, same.name]

theorem SameWay.reached? {r r' : Registry} {ref ref' : GameRef} (same : SameWay r r' ref ref')
    (fixture : r.fixture? ref.name = r'.fixture? ref.name) : r.reached? ref = r'.reached? ref' := by
  rw [Registry.reached?, Registry.reached?, fixture, if_congr same.there rfl rfl, same.name]

end Registry

namespace Hall

/-- Two halls that look the same, also to the connections of the view that were let into games: their ways to a
game lead to the one that is there in both halls, or in neither. -/
structure Alike (view : View) (h h' : Hall) : Prop where
  registry : h.registry.Alike view h'.registry
  entries : ∀ c, view.connection c →
    List.Forall₂ (Registry.SameWay h.registry h'.registry) (h.entries c) (h'.entries c)
  names : ∀ c, view.connection c → ∀ ref ∈ h.entries c, view.name ref.name

theorem Alike.undergo {view : View} {h h' after after' : Hall} {change change' : Change} (alike : h.Alike view h')
    (regular : h.Regular) (regular' : h'.Regular) (one : h.registry.Undergoes change after.registry)
    (two : h'.registry.Undergoes change' after'.registry) (agree : change.Agrees view change')
    (entries : ∀ c, view.connection c → ∃ new new', after.entries c = h.entries c ++ new ∧
      after'.entries c = h'.entries c ++ new' ∧
      List.Forall₂ (Registry.SameWay after.registry after'.registry) new new' ∧ ∀ ref ∈ new, view.name ref.name) :
    after.Alike view after' := by
  have registry := alike.registry.undergo one two agree
  refine ⟨registry, fun c seen => ?_, fun c seen => ?_⟩
  · obtain ⟨new, new', before, before', ways, _⟩ := entries c seen
    rw [before, before']
    refine List.rel_append ?_ ways
    refine forall₂_imp_of_mem (alike.entries c seen) fun ref member ref' member' same => ?_
    exact same.undergo one two (regular.entered c ref member) (regular'.entered c ref' member')
      (registry.fixture _ (alike.names c seen ref member))
  · obtain ⟨new, _, before, _, _, names⟩ := entries c seen
    intro ref member
    rw [before] at member
    rcases List.mem_append.mp member with old | now
    · exact alike.names c seen ref old
    · exact names ref now

theorem Alike.of_registry {view : View} {h h' : Hall} (registry : h.registry.Alike view h'.registry)
    (entries : ∀ c, h.entries c = []) (entries' : ∀ c, h'.entries c = []) : h.Alike view h' where
  registry := registry
  entries c _ := by
    rw [entries c, entries' c]
    exact .nil
  names c _ ref member := by
    rw [entries c] at member
    cases member

theorem Alike.drop {view : View} {h h' after : Hall} {change : Change} (alike : h.Alike view h')
    (regular : h.Regular) (regular' : h'.Regular) (undergoes : h.registry.Undergoes change after.registry)
    (hidden : change.Agrees view {}) (entries : ∀ c, view.connection c → after.entries c = h.entries c) :
    after.Alike view h' :=
  alike.undergo regular regular' undergoes (.same h'.registry) hidden fun c seen =>
    ⟨[], [], by rw [entries c seen, List.append_nil], (List.append_nil _).symm, .nil,
      fun _ member => absurd member List.not_mem_nil⟩

end Hall

namespace Registry.Alike

variable {view : View} {r r' : Registry} (alike : r.Alike view r')

include alike

theorem recorded? {c : ConnectionId} (seen : view.connection c) : r.recorded? c = r'.recorded? c := by
  rw [Registry.recorded?, Registry.recorded?, alike.member c seen]

theorem verdict {a : Application} (seen : view.connection a.connection) (named : view.name a.game) :
    r.verdict a = r'.verdict a := by
  have accepting : r.accepting = r'.accepting := congrArg Standing.accepting alike.standing
  simp only [Registry.verdict, gameFor?, accepting, alike.member _ seen, alike.fixture _ named, alike.capacity]

end Registry.Alike

/-- A request that concerns what is seen and nothing else. -/
def RegistryRequest.Within (view : View) : RegistryRequest → Prop
  | .register c _ | .unregister c => view.connection c
  | .join a => view.connection a.connection ∧ view.name a.game
  | .listing name => view.name name
  | .summary => view = .all
  | .shutdown _ => True

/-- What concerns what is seen and nothing else. To look after the games concerns all of them, unless none has
stopped. -/
def Act.Within (view : View) : Act → Prop
  | .request q => q.Within view
  | .message c _ _ => view.connection c
  | .check | .wind => view = .all
  | _ => True

namespace Table

variable {κ ν : Type} [DecidableEq κ] {s t : Table κ ν}

theorem countP_values_congr (same : ∀ k, s.find? k = t.find? k) (P : ν → Bool) :
    s.values.countP P = t.values.countP P :=
  countP_values_eq fun k => by rw [same]

end Table

namespace Registry.Alike

section

variable {r r' : Registry} (alike : r.Alike .all r')

include alike

theorem hasStopped : r.hasStopped = r'.hasStopped := by
  funext name
  rw [Registry.hasStopped, Registry.hasStopped, alike.fixture name trivial]

theorem membersOf (names : String → Bool) : r.membersOf names = r'.membersOf names := by
  funext s
  exact Table.countP_values_congr (fun c => alike.member c trivial) _

theorem summary (listed : r.Listed) (listed' : r'.Listed) : r.summary = r'.summary := by
  have games : r.games.size = r'.games.size := Table.size_congr fun name => by
    have fixture := congrArg Option.isSome (alike.fixture name trivial)
    simpa only [fixture?, Option.isSome_map] using fixture
  have members : r.members.size = r'.members.size := Table.size_congr fun c => by rw [alike.member c trivial]
  have unjoined : r.unjoined.length = r'.unjoined.length :=
    length_eq_of_mem_iff listed.nodup listed'.nodup fun c => by
      rw [listed.unjoined_iff, listed'.unjoined_iff, alike.member c trivial]
  have accepting : r.accepting = r'.accepting := congrArg Standing.accepting alike.standing
  have sessions : r.exchange.telemetry.sessions = r'.exchange.telemetry.sessions :=
    congrArg Standing.sessions alike.standing
  simp only [Registry.summary, games, members, unjoined, accepting, sessions, alike.depth]

end

variable {view : View} {r r' : Registry} (alike : r.Alike view r')

include alike

theorem opened : r.opened.Alike view r'.opened :=
  { alike with depth := by simp only [Registry.opened, Mailbox.enqueue, alike.depth] }

theorem requestChange {q : RegistryRequest} (within : q.Within view) :
    (r.requestChange q).Agrees view (r'.requestChange q) := by
  cases q with
  | unregister c =>
    rw [Registry.requestChange, Registry.requestChange, alike.recorded? within]
    exact .same view _
  | join a =>
    rw [Registry.requestChange, Registry.requestChange, alike.verdict within.1 within.2]
    exact .same view _
  | _ => exact .same view _

theorem requestAnswer {q : RegistryRequest} (within : q.Within view) (listed : r.Listed) (listed' : r'.Listed) :
    r.requestAnswer q = r'.requestAnswer q := by
  cases q with
  | unregister c => rw [Registry.requestAnswer, Registry.requestAnswer, alike.member c within]
  | join a => rw [Registry.requestAnswer, Registry.requestAnswer, alike.verdict within.1 within.2]
  | listing name => rw [Registry.requestAnswer, Registry.requestAnswer, alike.fixture name within]
  | summary =>
    cases (show view = .all from within)
    rw [Registry.requestAnswer, Registry.requestAnswer, alike.summary listed listed']
  | register | shutdown => rfl

end Registry.Alike

theorem Act.within_all (act : Act) : act.Within .all := by
  cases act with
  | request q => cases q <;> simp [Within, RegistryRequest.Within, View.all]
  | _ => simp [Within, View.all]

theorem Registry.Alike.rfl (view : View) (r : Registry) : r.Alike view r :=
  ⟨fun _ _ => .refl _, fun _ _ => .refl _, fun _ _ => .refl _, .refl _, .refl _, .refl _⟩

namespace Hall.Alike

variable {view : View} {h h' : Hall} (alike : h.Alike view h')

include alike

/-- The game that a connection was let into at some time is another one in the other hall, but of the same name. -/
theorem entry {c : ConnectionId} (seen : view.connection c) (n : Nat) :
    (h.entries c)[n]? = none ∧ (h'.entries c)[n]? = none ∨
      ∃ ref ref', (h.entries c)[n]? = some ref ∧ (h'.entries c)[n]? = some ref' ∧
        Registry.SameWay h.registry h'.registry ref ref' ∧ view.name ref.name := by
  have ways := alike.entries c seen
  have names := alike.names c seen
  have length := ways.length_eq
  by_cases inside : n < (h.entries c).length
  · have inside' : n < (h'.entries c).length := length ▸ inside
    refine Or.inr ⟨_, _, List.getElem?_eq_getElem inside, List.getElem?_eq_getElem inside', ?_, ?_⟩
    · exact (List.forall₂_iff_get.mp ways).2 n inside inside'
    · exact names _ (List.getElem_mem inside)
  · have outside : (h.entries c).length ≤ n := Nat.le_of_not_lt inside
    exact Or.inl ⟨List.getElem?_eq_none outside, List.getElem?_eq_none (length ▸ outside)⟩

theorem change_message {c : ConnectionId} (seen : view.connection c) (n : Nat) (q : GameRequest) :
    (h.change (.message c n q)).Agrees view (h'.change (.message c n q)) ∧
      (h.perform (.message c n q)).1 = (h'.perform (.message c n q)).1 := by
  rcases alike.entry seen n with ⟨none, none'⟩ | ⟨ref, ref', some, some', same, named⟩
  · simp only [change, perform, none, none']
    exact ⟨.same view _, trivial⟩
  · have reached := same.reached? (alike.registry.fixture _ named)
    simp only [change, perform, some, some', Registry.messageChange, Registry.askGame_answer, Registry.messageAnswer,
      reached, same.name]
    exact ⟨.same view _, trivial⟩

theorem keep (regular : h.Regular) (regular' : h'.Regular) {act : Act} (calm : ∀ q, act ≠ .request q)
    (agree : (h.change act).Agrees view (h'.change act)) : (h.perform act).2.Alike view (h'.perform act).2 :=
  alike.undergo regular regular' (h.perform_undergoes act) (h'.perform_undergoes act) agree fun c _ =>
    ⟨[], [], by rw [h.entries_perform calm, List.append_nil], by rw [h'.entries_perform calm, List.append_nil],
      .nil, fun _ member => absurd member List.not_mem_nil⟩

/-- A request within the view is answered alike, and the halls go on looking alike. -/
theorem request (regular : h.Regular) (regular' : h'.Regular) {q : RegistryRequest} (within : q.Within view) :
    (h.perform (.request q)).1 = (h'.perform (.request q)).1 ∧
      (h.perform (.request q)).2.Alike view (h'.perform (.request q)).2 := by
  have running : h.registry.running = h'.registry.running := congrArg Standing.running alike.registry.standing
  have answer : (h.registry.handle q).1.map (·.shown) = (h'.registry.handle q).1.map (·.shown) := by
    have listed : h.registry.opened.Listed := ⟨regular.listed.unjoined_iff, regular.listed.nodup⟩
    have listed' : h'.registry.opened.Listed := ⟨regular'.listed.unjoined_iff, regular'.listed.nodup⟩
    rw [Registry.shown_handle, Registry.shown_handle, running,
      alike.registry.opened.requestAnswer within listed listed']
  have agree : (h.change (.request q)).Agrees view (h'.change (.request q)) := by
    simp only [change, running]
    split
    · exact alike.registry.requestChange within
    · exact .same view _
  refine ⟨congrArg Reply.registry answer, alike.undergo regular regular' (h.perform_undergoes (.request q))
    (h'.perform_undergoes (.request q)) agree fun c _ => ⟨_, _, rfl, rfl, ?_⟩⟩
  -- who is let in is let in in both halls, into the games that are there then
  have both := congrArg (fun answer => (q.entrance? c answer).isSome) answer
  simp only [RegistryRequest.isSome_entrance?_shown] at both
  cases letIn : q.entrance? c (h.registry.handle q).1 with
  | none =>
    rw [letIn] at both
    rw [Option.isSome_eq_false_iff.mp both.symm |> Option.isNone_iff_eq_none.mp]
    exact ⟨.nil, fun _ member => absurd member List.not_mem_nil⟩
  | some ref =>
    rw [letIn] at both
    obtain ⟨ref', letIn'⟩ := Option.isSome_iff_exists.mp both.symm
    obtain ⟨a, rfl, _, name, there⟩ := Registry.handle_entrance letIn
    obtain ⟨a', same, _, name', there'⟩ := Registry.handle_entrance letIn'
    cases same
    rw [letIn']
    have way : Registry.SameWay (h.registry.handle (.join a)).2 (h'.registry.handle (.join a)).2 ref ref' :=
      ⟨name.trans name'.symm, iff_of_true (name ▸ there) (name' ▸ there')⟩
    refine ⟨.cons way .nil, fun other member => ?_⟩
    rw [Option.mem_toList.mp member |> Option.some.inj |>.symm, name]
    exact within.2

/-- What happens within the view is answered alike, and the halls go on looking alike. -/
theorem within (regular : h.Regular) (regular' : h'.Regular) {act : Act} (within : act.Within view) :
    (h.perform act).1 = (h'.perform act).1 ∧ (h.perform act).2.Alike view (h'.perform act).2 := by
  cases act with
  | request q => exact alike.request regular regular' within
  | message c n q =>
    obtain ⟨agree, reply⟩ := alike.change_message within n q
    exact ⟨reply, alike.keep regular regular' (fun _ same => by cases same) agree⟩
  | check =>
    cases (show view = .all from within)
    refine ⟨rfl, alike.keep regular regular' (fun _ same => by cases same) ?_⟩
    rw [change, change, alike.registry.hasStopped, alike.registry.membersOf]
    exact .same .all _
  | wind =>
    cases (show view = .all from within)
    refine ⟨rfl, alike.keep regular regular' (fun _ same => by cases same) ?_⟩
    have cancelled : h.registry.cancelled = h'.registry.cancelled :=
      congrArg Standing.cancelled alike.registry.standing
    have running : h.registry.running = h'.registry.running := congrArg Standing.running alike.registry.standing
    have told : h.registry.endChange = h'.registry.endChange := by
      have counted : ∀ s : SessionRef, h.registry.members.values.countP (·.session.queue = s.queue) =
          h'.registry.members.values.countP (·.session.queue = s.queue) := fun s =>
        Table.countP_values_congr (fun c => alike.registry.member c trivial) _
      simp only [Registry.endChange, counted]
    rw [change, change, cancelled, running, told]
    exact .same .all _
  | _ => exact ⟨rfl, alike.keep regular regular' (fun _ same => by cases same) (.same view _)⟩

end Hall.Alike

/-- What happens is the same without the acts that are not marked: the marked ones are answered alike, and the
same is put into the queues. -/
structure Hall.Undisturbed (view : View) (h h' : Hall) (acts : List (Bool × Act)) : Prop where
  replies : ((h.steps acts).filter (·.1)).map (·.2.reply) = (h'.steps (acts.filter (·.1))).map (·.2.reply)
  queued : ∀ s : SessionRef, view.queue s.queue →
    (h.steps acts).flatMap (·.2.queued s) = (h'.steps (acts.filter (·.1))).flatMap (·.2.queued s)
  outbox : ∀ s : SessionRef, view.queue s.queue → (h.final acts).registry.exchange.outbox? s =
    (h'.final (acts.filter (·.1))).registry.exchange.outbox? s

theorem Step.queued_eq_nil {step : Step} {s : SessionRef}
    (same : step.after.registry.exchange.outbox? s = step.before.registry.exchange.outbox? s) :
    step.queued s = [] := by
  rw [queued, Exchange.waiting_eq_of_outbox? same, List.drop_length]

/-- It is enough that marked acts are answered alike by halls that look alike, and that the others do not show. -/
theorem Hall.undisturbed {view : View} (R : Hall → Hall → Prop) (Good : Bool → Step → Prop)
    (alike : ∀ {h h'}, R h h' → h.Alike view h')
    (keep : ∀ {h h' act}, R h h' → Good true ⟨h, act⟩ →
      (h.perform act).1 = (h'.perform act).1 ∧ R (h.perform act).2 (h'.perform act).2)
    (drop : ∀ {h h' act}, R h h' → Good false ⟨h, act⟩ → R (h.perform act).2 h')
    {acts : List (Bool × Act)} {h h' : Hall} (related : R h h')
    (good : ∀ step ∈ h.steps acts, Good step.1 step.2) : h.Undisturbed view h' acts := by
  induction acts generalizing h h' with
  | nil => exact ⟨rfl, fun _ _ => rfl, fun s seen => (alike related).registry.outbox s seen⟩
  | cons marked acts ih =>
    obtain ⟨mark, act⟩ := marked
    have now := good (mark, ⟨h, act⟩) List.mem_cons_self
    have later : ∀ step ∈ (h.perform act).2.steps acts, Good step.1 step.2 := fun step member =>
      good step (List.mem_cons_of_mem _ member)
    have before := (alike related).registry.outbox
    cases mark with
    | true =>
      obtain ⟨reply, next⟩ := keep related now
      have rest := ih next later
      have after := (alike next).registry.outbox
      refine ⟨?_, fun s seen => ?_, rest.outbox⟩
      · simp only [steps, List.filter_cons, if_true, List.map_cons]
        exact congrArg₂ List.cons reply rest.replies
      · have queued : (⟨h, act⟩ : Step).queued s = (⟨h', act⟩ : Step).queued s := by
          simp only [Step.queued, Step.after, Exchange.waiting_eq_of_outbox? (before s seen),
            Exchange.waiting_eq_of_outbox? (after s seen)]
        simp only [steps, List.filter_cons, if_true, List.flatMap_cons, queued, rest.queued s seen]
    | false =>
      have next := drop related now
      have rest := ih next later
      have after := (alike next).registry.outbox
      refine ⟨?_, fun s seen => ?_, rest.outbox⟩
      · simpa only [steps, List.filter_cons, Bool.false_eq_true, if_false] using rest.replies
      · have queued : (⟨h, act⟩ : Step).queued s = [] :=
          Step.queued_eq_nil ((after s seen).trans (before s seen).symm)
        simpa only [steps, List.filter_cons, Bool.false_eq_true, if_false, List.flatMap_cons, queued,
          List.nil_append] using rest.queued s seen

end Scrimmage
