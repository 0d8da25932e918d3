import Scrimmage.Proofs.Duties

namespace Scrimmage

/-- How far a connection has come: what its session says, what the registry has recorded of it, what waits for the
registry about it, and what the registry is doing about it. -/
inductive Life (c : ConnectionId) : Option Client → Option Member → List RegistryRequest →
    Option (SuspendedRequest × GameRef) → Prop
  | absent : Life c none none [] none
  | coming {s} : Life c (some ⟨s, none, .asking⟩) none [.register c s] none
  | playing {s game stage} : stage.isPlaying = true → (game = none → stage = .free) →
      Life c (some ⟨s, game, stage⟩) (some ⟨game.map (·.name), s⟩) [] none
  | applying {s a} : a.connection = c → Life c (some ⟨s, none, .asking⟩) (some ⟨none, s⟩) [.join a] none
  | entering {s a begun ref} : a.connection = c →
      Life c (some ⟨s, none, .asking⟩) (some ⟨none, s⟩) [] (some (.enrol a s begun, ref))
  | parting {s game} : Life c (some ⟨s, game, .parting⟩) (some ⟨game.map (·.name), s⟩) [.unregister c] none
  | leaving {s ref} : Life c (some ⟨s, some ref, .parting⟩) none [] (some (.dismiss c, ref))
  | ended {s game stage} : stage.isOver = true → Life c (some ⟨s, game, stage⟩) none [] none

/-- What may come later in a mailbox: one letter of the registry at a time, and none of whom it dismisses. -/
def Letter.Before (l m : Letter) : Prop :=
  l.writer = .registry → m.writer ≠ .registry ∧ ∀ c, l.request = .leave c → m.writer ≠ .session c

/-- The sessions that have not ended take what is written to them, each through a queue of its own. A session
shuts its queue only when it is gone. -/
structure Attentive (clients : Table ConnectionId Client) (x : Exchange) : Prop where
  isOpen : ∀ c client, clients.find? c = some client →
    ∃ o, x.outbox? client.session = some o ∧ (client.stage ≠ .gone → o.isOpen = true)
  own : ∀ c d client other, clients.find? c = some client → clients.find? d = some other →
    client.session.queue = other.session.queue → c = d

namespace World

/-- What waits for the registry about a connection. -/
def requests (w : World) (c : ConnectionId) : List RegistryRequest := w.inbox.filter (·.subject? = some c)

/-- What the registry is doing about a connection. -/
def duty? (w : World) (c : ConnectionId) : Option (SuspendedRequest × GameRef) :=
  (w.desk.filter (·.suspended.subject? = some c)).map fun duty => (duty.suspended, duty.game)

abbrev Lives (w : World) (c : ConnectionId) : Prop :=
  Life c (w.clients.find? c) (w.registry.members.find? c) (w.requests c) (w.duty? c)

/-- A game has handled the leave of a connection, and the registry has not gone on since. -/
def Dismissed (w : World) (c : ConnectionId) : Prop :=
  ∃ ref answer, w.desk = some ⟨.dismiss c, ref, .answered answer⟩

/-- There is no answer that the registry has not gone on with. -/
def Unanswered (w : World) : Prop := ∀ duty answer, w.desk = some duty → duty.progress ≠ .answered answer

def seat? (w : World) (c : ConnectionId) : Option (SessionRef × GameRef) := (w.clients.find? c).bind Client.seat?

/-- A session has joined a game, and has not left it. -/
def Plays (w : World) (c : ConnectionId) (s : SessionRef) (ref : GameRef) : Prop :=
  ¬w.Dismissed c ∧ w.seat? c = some (s, ref)

/-- Where a letter comes from. -/
def Backs (w : World) (ref : GameRef) (l : Letter) : Prop :=
  match l.writer with
  | .session c => ∃ p s, l.request = .broadcast p ∧ w.Plays c s ref
  | .registry => ∃ e, l.request = e.request ∧ w.desk = some ⟨e, ref, .written⟩
  | .other => l.request.Open

/-- What holds at every moment, whichever party goes on next. Each connection is at a point of its life that its
session, the registry and what waits between them agree on; who has not left is in the roster of its game; and
of the messages that wait for a game none comes after the leave of its sender. -/
structure Orderly (w : World) : Prop where
  fit : w.registry.Fit
  calm : ∀ timeout, .shutdown timeout ∉ w.inbox
  lives : ∀ c, w.Lives c
  seated : ∀ c s ref, w.Plays c s ref → w.registry.OnRoster ref c s
  holds : ∀ duty, w.desk = some duty → duty.Holds w.registry
  backed : ∀ ref, ∀ l ∈ w.boxes ref, w.Backs ref l
  lined : ∀ ref, (w.boxes ref).Pairwise Letter.Before
  attentive : Attentive w.clients w.registry.exchange

end World

theorem SuspendedRequest.eq_dismiss {e : SuspendedRequest} {c : ConnectionId} (leaves : e.request = .leave c) :
    e = .dismiss c := by
  cases e <;> cases leaves
  rfl

theorem Stage.isOver_of_isPlaying {stage : Stage} (playing : stage.isPlaying = true) : stage.isOver = false := by
  cases stage <;> first | rfl | cases playing

theorem Client.session_told (client : Client) (answer : RegistryAnswer) :
    (client.told answer).session = client.session := by
  cases answer <;> rfl

theorem Attentive.queues {clients : Table ConnectionId Client} {x y : Exchange} (attentive : Attentive clients x)
    (same : ∀ s, (y.outbox? s).map (·.isOpen) = (x.outbox? s).map (·.isOpen)) : Attentive clients y where
  isOpen c client found := by
    obtain ⟨o, there, isOpen⟩ := attentive.isOpen c client found
    have queue := same client.session
    rw [there, Option.map_some] at queue
    obtain ⟨o', there', still⟩ := Option.map_eq_some_iff.mp queue
    exact ⟨o', there', fun stays => still.trans (isOpen stays)⟩
  own := attentive.own

namespace Attentive

variable {clients later : Table ConnectionId Client} {x : Exchange} (attentive : Attentive clients x) {c : ConnectionId}
  {client : Client}

include attentive

theorem goes_on (origin : ∀ d client', later.find? d = some client' →
    ∃ client, clients.find? d = some client ∧ client'.session = client.session ∧
      (client'.stage ≠ .gone → client.stage ≠ .gone)) : Attentive later x where
  isOpen d client' there := by
    obtain ⟨client, found, same, stays⟩ := origin d client' there
    obtain ⟨o, queue, isOpen⟩ := attentive.isOpen d client found
    exact ⟨o, same ▸ queue, fun still => isOpen (stays still)⟩
  own d e client' other' there there' equal := by
    obtain ⟨client, found, same, _⟩ := origin d client' there
    obtain ⟨other, found', same', _⟩ := origin e other' there'
    exact attentive.own d e client other found found' (by rw [← same, ← same', equal])

theorem put {client' : Client} (found : clients.find? c = some client) (same : client'.session = client.session)
    (stays : client'.stage ≠ .gone → client.stage ≠ .gone) : Attentive (clients.insert c client') x := by
  refine attentive.goes_on fun d other there => ?_
  rw [Table.find?_insert] at there
  split at there
  · rename_i here
    cases there
    exact ⟨client, here ▸ found, same, stays⟩
  · exact ⟨other, there, rfl, id⟩

theorem enter (c : ConnectionId) (game : Option GameRef) (stage : Stage) :
    Attentive (clients.insert c ⟨(x.openOutbox c).1, game, stage⟩) (x.openOutbox c).2 := by
  have within : ∀ d other, clients.find? d = some other → other.session.queue < x.outboxes.length := by
    intro d other found
    obtain ⟨o, there, _⟩ := attentive.isOpen d other found
    exact (List.getElem?_eq_some_iff.mp there).1
  constructor
  · intro d other there
    rw [Table.find?_insert] at there
    split at there
    · cases there
      refine ⟨.empty, ?_, fun _ => rfl⟩
      simp [Exchange.outbox?, Exchange.openOutbox]
    · obtain ⟨o, queue, isOpen⟩ := attentive.isOpen d other there
      exact ⟨o, (List.getElem?_append_left (within d other there)).trans queue, isOpen⟩
  · intro d e one other there there' same
    rw [Table.find?_insert] at there there'
    split at there <;> split at there'
    · rename_i here here'
      exact here.trans here'.symm
    · cases there
      exact absurd same.symm (Nat.ne_of_lt (within e other there'))
    · cases there'
      exact absurd same (Nat.ne_of_lt (within d one there))
    · exact attentive.own d e one other there there' same

theorem ends (found : clients.find? c = some client) :
    Attentive (clients.insert c { client with stage := .gone }) (x.modifyOutbox client.session (·.shut)) where
  isOpen d other there := by
    rw [Table.find?_insert] at there
    rw [Exchange.outbox?_modifyOutbox]
    split at there
    · cases there
      obtain ⟨o, queue, _⟩ := attentive.isOpen c client found
      exact ⟨o.shut, by rw [if_pos rfl, queue, Option.map_some], fun stays => absurd rfl stays⟩
    · rename_i elsewhere
      rw [if_neg fun same => elsewhere (attentive.own d c other client there found same.symm)]
      exact attentive.isOpen d other there
  own :=
    have same : Attentive (clients.insert c { client with stage := .gone }) x :=
      attentive.put found rfl fun stays => absurd rfl stays
    same.own

end Attentive

namespace World

variable {w after : World} {c d : ConnectionId} {s : SessionRef} {ref : GameRef}

theorem plays_congr (desk : after.desk = w.desk) (seat : after.seat? c = w.seat? c) :
    after.Plays c s ref ↔ w.Plays c s ref := by
  rw [Plays, Plays, Dismissed, Dismissed, desk, seat]

theorem unanswered_of_idle (idle : w.desk = none) : w.Unanswered := by
  intro duty answer there
  cases idle.symm.trans there

theorem unanswered_of_desk {duty : Duty} (desk : w.desk = some duty)
    (still : ∀ answer, duty.progress ≠ .answered answer) :
    w.Unanswered := by
  intro duty' answer there
  cases desk.symm.trans there
  exact still answer

theorem Unanswered.plays_iff (still : w.Unanswered) : w.Plays c s ref ↔ w.seat? c = some (s, ref) := by
  refine and_iff_right ?_
  rintro ⟨ref, answer, desk⟩
  exact still _ answer desk rfl

theorem Unanswered.plays_congr (still : w.Unanswered) (later : after.Unanswered) (seat : after.seat? c = w.seat? c) :
    after.Plays c s ref ↔ w.Plays c s ref := by
  rw [later.plays_iff, still.plays_iff, seat]

theorem Backs.imp {l : Letter} (backs : w.Backs ref l)
    (plays : ∀ c s, l.writer = .session c → w.Plays c s ref → after.Plays c s ref)
    (desk : ∀ e, l.writer = .registry → l.request = e.request → w.desk = some ⟨e, ref, .written⟩ →
      after.desk = some ⟨e, ref, .written⟩) : after.Backs ref l := by
  obtain ⟨writer, request⟩ := l
  cases writer with
  | session c =>
    obtain ⟨p, s, same, there⟩ := backs
    exact ⟨p, s, same, plays c s rfl there⟩
  | registry =>
    obtain ⟨e, same, there⟩ := backs
    exact ⟨e, same, desk e rfl same there⟩
  | other => exact backs

theorem start_orderly (team : Nat) : (start team).Orderly where
  fit := ⟨rfl, fun _ _ there => by cases there⟩
  calm _ := List.not_mem_nil
  lives _ := .absent
  seated _ _ _ plays := by cases plays.2
  holds _ there := by cases there
  backed _ _ member := by cases member
  lined _ := .nil
  attentive := {
    isOpen := fun _ _ found => by cases found
    own := fun _ _ _ _ found => by cases found }

theorem duty?_of_desk {duty : Duty} (desk : w.desk = some duty) :
    w.duty? c = if duty.suspended.subject? = some c then some (duty.suspended, duty.game) else none := by
  rw [duty?, desk, Option.filter_some]
  split
  · rename_i about
    rw [if_pos (of_decide_eq_true about), Option.map_some]
  · rename_i aside
    rw [if_neg fun about => aside (decide_eq_true about), Option.map_none]

theorem duty?_congr
    (same : after.desk.map (fun duty => (duty.suspended, duty.game)) =
      w.desk.map fun duty => (duty.suspended, duty.game)) :
    after.duty? c = w.duty? c := by
  cases desk : w.desk with
  | none =>
    rw [desk] at same
    rw [duty?, duty?, desk, Option.map_eq_none_iff.mp same]
  | some duty =>
    rw [desk] at same
    obtain ⟨duty', desk', same⟩ := Option.map_eq_some_iff.mp same
    obtain ⟨suspended, game⟩ := Prod.mk.inj same
    rw [duty?_of_desk desk, duty?_of_desk desk', suspended, game]

theorem requests_append {q : RegistryRequest} (about : q.subject? = some c) (d : ConnectionId) :
    (w.inbox ++ [q]).filter (·.subject? = some d) = w.requests d ++ if c = d then [q] else [] := by
  rw [List.filter_append, requests]
  by_cases here : c = d
  · simp [about, here]
  · simp [about, here]

theorem requests_of_first {q : RegistryRequest} {rest : List RegistryRequest} (first : w.inbox = q :: rest)
    (d : ConnectionId) :
    w.requests d = (if q.subject? = some d then [q] else []) ++ rest.filter (·.subject? = some d) := by
  rw [requests, first, List.filter_cons]
  split
  · rename_i about
    rw [if_pos (of_decide_eq_true about), List.singleton_append]
  · rename_i aside
    rw [if_neg (fun about => aside (decide_eq_true about)), List.nil_append]

theorem requests_of_ne {q : RegistryRequest} {rest : List RegistryRequest} (first : w.inbox = q :: rest)
    (d : ConnectionId)
    (other : q.subject? ≠ some d) : rest.filter (·.subject? = some d) = w.requests d := by
  rw [requests_of_first first, if_neg other, List.nil_append]

theorem Lives.congr (lives : w.Lives c) (clients : after.clients.find? c = w.clients.find? c)
    (member : after.registry.members.find? c = w.registry.members.find? c) (requests : after.requests c = w.requests c)
    (duty : after.duty? c = w.duty? c) : after.Lives c := by
  rw [Lives, clients, member, requests, duty]
  exact lives

theorem boxes_post (w : World) (ref other : GameRef) (l : Letter) :
    (w.post ref l).boxes other = if other = ref then w.boxes ref ++ [l] else w.boxes other := by
  rw [post]
  exact Function.update_apply ..

theorem find?_done (w : World) (r : Registry) (subject? : Option ConnectionId) (answer : RegistryAnswer)
    (d : ConnectionId) :
    (w.done r subject? answer).clients.find? d =
      if subject? = some d then (w.clients.find? d).map (·.told answer) else w.clients.find? d := by
  cases subject? with
  | none => simp [done]
  | some c => simp only [done, Table.find?_modify, Option.some.injEq, eq_comm]

/-- Whom the registry was not concerned with is as before, and whom it was has read its answer. -/
theorem client_of_done {r : Registry} {subject? : Option ConnectionId} {answer : RegistryAnswer} {client' : Client}
    (found : (w.done r subject? answer).clients.find? d = some client') :
    ∃ client, w.clients.find? d = some client ∧
      (client' = client ∨ subject? = some d ∧ client' = client.told answer) := by
  rw [find?_done] at found
  split at found
  · rename_i here
    obtain ⟨client, there, rfl⟩ := Option.map_eq_some_iff.mp found
    exact ⟨client, there, Or.inr ⟨here, rfl⟩⟩
  · exact ⟨client', found, Or.inl rfl⟩

namespace Orderly

variable (orderly : w.Orderly)

include orderly

/-- A session goes on, and its queue and what waits for the registry about it may change. -/
theorem becomes {later : Client} {x : Exchange} {inbox : List RegistryRequest}
    (calm : ∀ timeout, .shutdown timeout ∉ inbox)
    (others : ∀ d, d ≠ c → inbox.filter (·.subject? = some d) = w.requests d) (seat : later.seat? = w.seat? c)
    (life : Life c (some later) (w.registry.members.find? c) (inbox.filter (·.subject? = some c)) (w.duty? c))
    (attentive : Attentive (w.clients.insert c later) x) :
    Orderly { w with
      registry := { w.registry with exchange := x }
      clients := w.clients.insert c later
      inbox } := by
  have plays : ∀ d s ref, Plays { w with
      registry := { w.registry with exchange := x }, clients := w.clients.insert c later, inbox } d s ref ↔
      w.Plays d s ref := by
    intro d s ref
    refine plays_congr rfl ?_
    rw [seat?, Table.find?_insert]
    split
    · rename_i here
      rw [here, ← seat, Option.bind_some]
    · rfl
  exact {
    fit := ⟨orderly.fit.awake, orderly.fit.games⟩
    calm := calm
    lives := fun d => by
      rw [Lives, requests]
      dsimp only
      rw [Table.find?_insert]
      by_cases here : d = c
      · rw [if_pos here, here]
        exact life
      · rw [if_neg here, others d here]
        exact orderly.lives d
    seated := fun d s ref there => orderly.seated d s ref ((plays d s ref).mp there)
    holds := fun duty there => ⟨(orderly.holds duty there).begun, (orderly.holds duty there).empty,
      (orderly.holds duty there).seated⟩
    backed := fun ref l member => (orderly.backed ref l member).imp (fun d s _ => (plays d s ref).mpr) fun _ _ _ => id
    lined := orderly.lined
    attentive := attentive }

theorem post {l : Letter} (backs : w.Backs ref l) (before : ∀ m ∈ w.boxes ref, m.Before l) :
    (w.post ref l).Orderly := by
  exact { orderly with
    backed := fun other m member => by
      rw [boxes_post] at member
      split at member
      · rename_i here
        subst here
        rcases List.mem_append.mp member with old | new
        · exact orderly.backed other m old
        · exact List.mem_singleton.mp new ▸ backs
      · exact orderly.backed other m member
    lined := fun other => by
      rw [boxes_post]
      split
      · exact List.pairwise_append.mpr ⟨orderly.lined ref, List.pairwise_singleton .., fun m member k single =>
          List.mem_singleton.mp single ▸ before m member⟩
      · exact orderly.lined other }

theorem queues {x : Exchange}
    (same : ∀ s, (x.outbox? s).map (·.isOpen) = (w.registry.exchange.outbox? s).map (·.isOpen)) :
    Orderly { w with registry := { w.registry with exchange := x } } :=
  { orderly with
    fit := ⟨orderly.fit.awake, orderly.fit.games⟩
    holds := fun duty there => ⟨(orderly.holds duty there).begun, (orderly.holds duty there).empty,
      (orderly.holds duty there).seated⟩
    attentive := orderly.attentive.queues same }

theorem inquires {q : RegistryRequest} (aside : q.subject? = none) (stays : ∀ timeout, q ≠ .shutdown timeout) :
    Orderly { w with inbox := w.inbox ++ [q] } :=
  { orderly with
    calm := fun timeout member => by
      rcases List.mem_append.mp member with old | new
      · exact orderly.calm timeout old
      · exact stays timeout (List.mem_singleton.mp new).symm
    lives := fun c => by
      have same : (w.inbox ++ [q]).filter (·.subject? = some c) = w.requests c := by
        simp [requests, aside]
      rw [Lives, requests]
      dsimp only
      rw [same]
      exact orderly.lives c }

theorem life_playing {client : Client} (found : w.clients.find? c = some client)
    (playing : client.stage.isPlaying = true) :
    w.registry.members.find? c = some ⟨client.game.map (·.name), client.session⟩ ∧ w.requests c = [] ∧
      w.duty? c = none ∧
      (client.game = none → client.stage = .free) := by
  have life := orderly.lives c
  rw [Lives, found] at life
  generalize w.registry.members.find? c = member? at life ⊢
  generalize w.requests c = requests at life ⊢
  generalize w.duty? c = duty at life ⊢
  cases life with
  | playing _ outside => exact ⟨rfl, rfl, rfl, outside⟩
  | @ended s game stage isOver => cases stage <;> cases isOver <;> cases playing
  | _ => cases playing

theorem asks {client : Client} {stage : Stage} {q : RegistryRequest} (found : w.clients.find? c = some client)
    (playing : client.stage = .free) (seat : Client.seat? { client with stage } = client.seat?)
    (about : q.subject? = some c)
    (life : Life c (some { client with stage }) (some ⟨client.game.map (·.name), client.session⟩) [q] none) :
    (w.ask c { client with stage } q).Orderly := by
  obtain ⟨member, requests, duty, _⟩ := orderly.life_playing found (by rw [playing]; rfl)
  refine orderly.becomes (x := w.registry.exchange) (fun timeout shutdown => ?_) (fun d other => ?_) ?_ ?_ ?_
  · rcases List.mem_append.mp shutdown with old | new
    · exact orderly.calm timeout old
    · rw [← List.mem_singleton.mp new] at about
      cases about
  · rw [requests_append about, if_neg (Ne.symm other), List.append_nil]
  · rw [seat, seat?, found, Option.bind_some]
  · rw [requests_append about, if_pos rfl, requests, member, duty]
    exact life
  · exact orderly.attentive.put found rfl fun _ => by rw [playing]; exact Stage.noConfusion

/-- A session that plays takes a frame, or has put one into the mailbox. -/
theorem plays {client : Client} {stage : Stage} (found : w.clients.find? c = some client)
    (before : client.stage.isPlaying = true) (later : stage.isPlaying = true)
    (inside : client.game = none → stage = .free) :
    (w.put c { client with stage }).Orderly := by
  obtain ⟨member, requests, duty, _⟩ := orderly.life_playing found before
  refine orderly.becomes (x := w.registry.exchange) orderly.calm (fun _ _ => rfl) ?_ ?_ ?_
  · rw [seat?, found, Option.bind_some, Client.seat?, Client.seat?, Stage.isOver_of_isPlaying later,
      Stage.isOver_of_isPlaying before]
  · change Life c _ _ (w.requests c) _
    rw [requests, member, duty]
    exact .playing later inside
  · refine orderly.attentive.put found rfl fun _ gone => ?_
    rw [gone] at before
    cases before

theorem hands_over {client : Client} {p : Package} (found : w.clients.find? c = some client)
    (sending : client.stage = .sending p) (inside : client.game = some ref) :
    ((w.put c { client with stage := .free }).post ref ⟨.session c, .broadcast p⟩).Orderly := by
  have freed : (w.put c { client with stage := .free }).Orderly :=
    orderly.plays found (by rw [sending]; rfl) rfl fun _ => rfl
  have here : (w.put c { client with stage := .free }).clients.find? c = some { client with stage := .free } :=
    (Table.find?_insert ..).trans (if_pos rfl)
  obtain ⟨_, _, duty, _⟩ := freed.life_playing here rfl
  have aside : ∀ e game progress, w.desk = some ⟨e, game, progress⟩ → e.subject? ≠ some c := by
    intro e game progress desk about
    cases ((duty?_of_desk desk).trans (if_pos about)).symm.trans duty
  refine freed.post ⟨p, client.session, rfl, ?_, ?_⟩ fun m member writer =>
    ⟨Writer.noConfusion, fun d leaves same => ?_⟩
  · rintro ⟨game, answer, desk⟩
    exact aside _ _ _ desk rfl
  · rw [seat?, here, Option.bind_some, Client.seat?, inside]
    rfl
  · -- the registry does not write about a session that plays
    have backs := freed.backed ref m member
    rw [Backs, writer] at backs
    obtain ⟨e, request, desk⟩ := backs
    cases same
    exact aside _ _ _ desk (by rw [e.eq_dismiss (request ▸ leaves)]; rfl)

theorem enter (new : w.clients.find? c = none) : (w.enter c).Orderly := by
  have life := orderly.lives c
  rw [Lives, new] at life
  generalize recorded : w.registry.members.find? c = member? at life
  generalize requests : w.requests c = waiting at life
  generalize duty : w.duty? c = about at life
  cases life
  have about : (RegistryRequest.register c (w.registry.exchange.openOutbox c).1).subject? = some c := rfl
  refine orderly.becomes (fun timeout shutdown => ?_) (fun d other => ?_) ?_ ?_ (orderly.attentive.enter c none .asking)
  · rcases List.mem_append.mp shutdown with old | registers
    · exact orderly.calm timeout old
    · cases List.mem_singleton.mp registers
  · have aside := requests_append (w := w) about d
    rwa [if_neg (Ne.symm other), List.append_nil] at aside
  · rw [seat?, new]
    rfl
  · have waiting := requests_append (w := w) about c
    rw [if_pos rfl, requests, List.nil_append] at waiting
    change Life c _ _ ((w.inbox ++ [_]).filter _) _
    rw [waiting, recorded, duty]
    exact .coming

theorem ends {client : Client} (found : w.clients.find? c = some client) (parted : client.stage = .parted) :
    ((w.modifyExchange (·.modifyOutbox client.session (·.shut))).put c { client with stage := .gone }).Orderly := by
  have life := orderly.lives c
  rw [Lives, found] at life
  refine orderly.becomes orderly.calm (fun _ _ => rfl) ?_ ?_ (orderly.attentive.ends found)
  · rw [seat?, found, Option.bind_some, Client.seat?, Client.seat?, parted]
    rfl
  · change Life c _ _ (w.requests c) _
    generalize w.registry.members.find? c = member? at life ⊢
    generalize w.requests c = requests at life ⊢
    generalize w.duty? c = duty at life ⊢
    cases life with
    | ended => exact .ended rfl
    | playing playing =>
      cases parted
      cases playing
    | _ => cases parted

end Orderly

end World

end Scrimmage
