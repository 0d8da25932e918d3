import Scrimmage.Proofs.Lives

namespace Scrimmage

namespace World

variable {w after : World} {c d : ConnectionId} {s : SessionRef} {ref : GameRef}

namespace Orderly

variable (orderly : w.Orderly)

include orderly

theorem sends {r : Registry} {e : SuspendedRequest} {inbox : List RegistryRequest} (idle : w.desk = none)
    (suits : w.registry.Suits e.subject? r) (kept : ∀ ref c s, w.registry.OnRoster ref c s → r.OnRoster ref c s)
    (calm : ∀ timeout, .shutdown timeout ∉ inbox)
    (others : ∀ d, e.subject? ≠ some d → inbox.filter (·.subject? = some d) = w.requests d)
    (begun : ∀ a s, e = .enrol a s true → r.Vacant ref.name)
    (subject : ∀ c, e.subject? = some c →
      Life c (w.clients.find? c) (r.members.find? c) (inbox.filter (·.subject? = some c)) (some (e, ref))) :
    Orderly { w with inbox, registry := r, desk := some { suspended := e, game := ref, progress := .writing } } := by
  have plays : ∀ c s ref', Plays { w with inbox, registry := r, desk := some ⟨e, ref, .writing⟩ } c s ref' ↔
      w.Plays c s ref' :=
    fun c s ref' => (unanswered_of_idle idle).plays_congr (unanswered_of_desk rfl fun _ => Progress.noConfusion) rfl
  exact {
    fit := suits.fit
    calm := calm
    lives := fun c => by
      by_cases here : e.subject? = some c
      · simp only [Lives, requests, duty?, Option.filter_some, here, decide_true, if_true, Option.map_some]
        exact subject c here
      · have before := orderly.lives c
        simp only [Lives, requests, duty?, Option.filter_some, here, decide_false, Bool.false_eq_true, if_false,
          Option.map_none]
        rw [suits.member c here, others c here]
        rwa [Lives, duty?, idle] at before
    seated := fun c s ref' there => kept ref' c s (orderly.seated c s ref' ((plays c s ref').mp there))
    holds := fun duty there => by
      cases there
      exact ⟨fun a s same _ => begun a s same, fun _ answered => (Progress.noConfusion answered),
        fun _ _ _ _ _ _ answered => (Progress.noConfusion answered)⟩
    backed := fun ref' l member => (orderly.backed ref' l member).imp (fun c s _ => (plays c s ref').mpr)
      fun e' _ _ there => by cases idle.symm.trans there
    lined := orderly.lined
    attentive := orderly.attentive.queues suits.queue }

/-- The registry is done with a message, and whom it is about goes on. -/
theorem done {r : Registry} {subject? : Option ConnectionId} {answer : RegistryAnswer} {inbox : List RegistryRequest}
    (suits : w.registry.Suits subject? r) (kept : ∀ ref c s, w.registry.OnRoster ref c s → r.OnRoster ref c s)
    (busy : ∀ duty, w.desk = some duty → duty.suspended.subject? = subject? ∧ duty.progress ≠ .written)
    (calm : ∀ timeout, .shutdown timeout ∉ inbox)
    (others : ∀ d, subject? ≠ some d → inbox.filter (·.subject? = some d) = w.requests d)
    (subject : ∀ c, subject? = some c → ∃ client, w.clients.find? c = some client ∧ client.stage ≠ .gone ∧
      (∀ s ref, ¬w.Plays c s ref) ∧
      Life c (some (client.told answer)) (r.members.find? c) (inbox.filter (·.subject? = some c)) none ∧
      ∀ s ref, (client.told answer).seat? = some (s, ref) → r.OnRoster ref c s) :
    (({ w with inbox } : World).done r subject? answer).Orderly := by
  have registry : (({ w with inbox } : World).done r subject? answer).registry = r.closed := suits.fit.turn_closed
  have clients := ({ w with inbox } : World).find?_done r subject? answer
  have plays : ∀ d s ref, subject? ≠ some d →
      ((({ w with inbox } : World).done r subject? answer).Plays d s ref ↔ w.Plays d s ref) := by
    intro d s ref other
    have seat : (({ w with inbox } : World).done r subject? answer).seat? d = w.seat? d := by
      rw [seat?, clients, if_neg other]
      rfl
    have outside : ¬w.Dismissed d := by
      rintro ⟨ref', answer', desk⟩
      exact other (busy _ desk).1.symm
    rw [(unanswered_of_idle rfl).plays_iff, seat, Plays, and_iff_right outside]
  have origin : ∀ d client', (({ w with inbox } : World).done r subject? answer).clients.find? d = some client' →
      ∃ client, w.clients.find? d = some client ∧ client'.session = client.session ∧
        (client'.stage ≠ .gone → client.stage ≠ .gone) := by
    intro d client' found
    obtain ⟨client, there, rfl | ⟨here, rfl⟩⟩ := client_of_done found
    · exact ⟨client', there, rfl, id⟩
    · obtain ⟨_, again, stays, _⟩ := subject d here
      cases there.symm.trans again
      exact ⟨client, there, client.session_told answer, fun _ => stays⟩
  exact {
    fit := by
      rw [registry]
      exact ⟨suits.fit.awake, suits.fit.games⟩
    calm := calm
    lives := fun d => by
      rw [Lives, clients, registry]
      by_cases here : subject? = some d
      · obtain ⟨client, there, _, _, life, _⟩ := subject d here
        rw [if_pos here, there]
        exact life
      · have before := orderly.lives d
        have aside : w.duty? d = none := by
          rw [duty?, Option.map_eq_none_iff, Option.filter_eq_none_iff]
          intro duty there about
          rw [(busy duty there).1, decide_eq_true_eq] at about
          exact here about
        rw [Lives, aside] at before
        rw [if_neg here]
        change Life d (w.clients.find? d) (r.members.find? d) (inbox.filter (·.subject? = some d)) none
        rwa [others d here, suits.member d here]
    seated := fun d s ref there => by
      rw [registry]
      by_cases here : subject? = some d
      · obtain ⟨client, found, _, _, _, seated⟩ := subject d here
        refine seated s ref ?_
        have seat := there.2
        rwa [seat?, clients, if_pos here, found] at seat
      · exact kept ref d s (orderly.seated d s ref ((plays d s ref here).mp there))
    holds := fun duty there => by cases there
    backed := fun ref l member => (orderly.backed ref l member).imp
      (fun d s _ there => by
        by_cases here : subject? = some d
        · obtain ⟨client, _, _, outside, _⟩ := subject d here
          exact (outside s ref there).elim
        · exact (plays d s ref here).mpr there)
      fun e _ _ there => absurd rfl (busy _ there).2
    lined := orderly.lined
    attentive := by
      have queues : Attentive w.clients r.closed.exchange := orderly.attentive.queues suits.queue
      rw [registry]
      exact queues.goes_on origin }

section

variable {q : RegistryRequest} {rest : List RegistryRequest} (first : w.inbox = q :: rest)

include first

theorem calm_of_first (timeout : Nat) : .shutdown timeout ∉ rest := fun member =>
  orderly.calm timeout (first ▸ List.mem_cons_of_mem q member)

theorem life_of_first (idle : w.desk = none) (about : q.subject? = some c) :
    Life c (w.clients.find? c) (w.registry.members.find? c) (q :: rest.filter (·.subject? = some c)) none := by
  have before := orderly.lives c
  rwa [Lives, requests_of_first first, if_pos about, duty?, idle] at before

theorem attend_done {r : Registry} {answer : RegistryAnswer} (idle : w.desk = none)
    (none : w.registry.opened.suspended? q = none)
    (answers : w.registry.opened.answer q = (answer, r)) (suits : w.registry.opened.Suits q.subject? r)
    (kept : ∀ ref c s, w.registry.opened.OnRoster ref c s → r.OnRoster ref c s)
    (subject : ∀ c, q.subject? = some c → ∃ client, w.clients.find? c = some client ∧ client.stage ≠ .gone ∧
      w.seat? c = Option.none ∧
      Life c (some (client.told answer)) (r.members.find? c) (rest.filter (·.subject? = some c)) Option.none ∧
      (client.told answer).seat? = Option.none) :
    (w.attend q rest).Orderly := by
  simp only [World.attend, none, answers]
  refine orderly.done suits.of_opened kept (fun duty there => ?_) (orderly.calm_of_first first) (requests_of_ne first)
    fun c about => ?_
  · cases idle.symm.trans there
  · obtain ⟨client, found, stays, outside, life, still⟩ := subject c about
    refine ⟨client, found, stays, fun s ref plays => ?_, life, fun s ref seat => ?_⟩
    · cases outside.symm.trans plays.2
    · cases still.symm.trans seat

theorem attend_sends {r : Registry} {e : SuspendedRequest} (idle : w.desk = none)
    (goes : w.registry.opened.suspended? q = some (e, ref, r)) (suits : w.registry.opened.Suits e.subject? r)
    (same : e.subject? = q.subject?) (kept : ∀ ref c s, w.registry.opened.OnRoster ref c s → r.OnRoster ref c s)
    (begun : ∀ a s, e = .enrol a s true → r.Vacant ref.name)
    (subject : ∀ c, q.subject? = some c →
      Life c (w.clients.find? c) (r.members.find? c) (rest.filter (·.subject? = some c)) (some (e, ref))) :
    (w.attend q rest).Orderly := by
  simp only [World.attend, goes]
  exact orderly.sends idle suits.of_opened kept (orderly.calm_of_first first)
    (fun d other => requests_of_ne first d (same ▸ other)) begun fun c about => subject c (same ▸ about)

end

theorem attend_register {rest : List RegistryRequest} (idle : w.desk = none) (first : w.inbox = .register c s :: rest) :
    (w.attend (.register c s) rest).Orderly := by
  have before := orderly.life_of_first first idle (c := c) rfl
  have fit := orderly.fit.opened
  have undergoes := w.registry.opened.register_undergoes c s
  generalize known : w.clients.find? c = client? at before
  generalize recorded : w.registry.members.find? c = member? at before
  generalize left : rest.filter (·.subject? = some c) = more at before
  cases before
  refine orderly.attend_done first idle rfl rfl
    (undergoes.suits fit (fun _ => rfl) (fun d m other => if_neg fun here => other (congrArg some here.symm))
      fit.games fun _ _ => rfl)
    (fun ref d t on => on.undergoes_still fit undergoes fun _ _ => rfl) fun d about => ?_
  cases about
  have member : (w.registry.opened.register c s).members.find? c = some ⟨none, s⟩ := by
    rw [undergoes.member]
    exact (if_pos rfl).trans (congrArg (fun m : Option Member => some (m.getD ⟨none, s⟩)) recorded)
  refine ⟨_, known, Stage.noConfusion, by rw [seat?, known]; rfl, ?_, rfl⟩
  rw [member, left]
  exact .playing rfl (fun _ => rfl)

theorem attend_unregister {rest : List RegistryRequest} (idle : w.desk = none)
    (first : w.inbox = .unregister c :: rest) :
    (w.attend (.unregister c) rest).Orderly := by
  have before := orderly.life_of_first first idle (c := c) rfl
  have fit := orderly.fit.opened
  have undergoes := w.registry.opened.forget_undergoes c
  have suits : w.registry.opened.Suits (some c) (w.registry.opened.forget c) :=
    undergoes.suits fit (fun _ => rfl) (fun d m other => if_neg fun here => other (congrArg some here.symm)) fit.games
      fun _ _ => rfl
  have kept : ∀ ref d s, w.registry.opened.OnRoster ref d s → (w.registry.opened.forget c).OnRoster ref d s :=
    fun ref d s on => on.undergoes_still fit undergoes fun _ _ => rfl
  have gone : (w.registry.opened.forget c).members.find? c = none := (undergoes.member c).trans (if_pos rfl)
  generalize known : w.clients.find? c = client? at before
  generalize recorded : w.registry.members.find? c = member? at before
  generalize left : rest.filter (·.subject? = some c) = more at before
  cases before with
  | @parting s game =>
    have recorded : w.registry.opened.members.find? c = some ⟨game.map (·.name), s⟩ := recorded
    cases game with
    | none =>
      refine orderly.attend_done first idle ?_ (by rw [Registry.answer, Registry.unregister_unjoined recorded rfl])
        suits kept
        fun d about => ?_
      · simp [Registry.suspended?, recorded]
      · cases about
        refine ⟨_, known, Stage.noConfusion, by rw [seat?, known]; rfl, ?_, rfl⟩
        rw [gone, left]
        exact .ended rfl
    | some ref =>
      -- it is still in the roster, so that its game is there
      have plays : w.Plays c s ref := by
        rw [(unanswered_of_idle idle).plays_iff, seat?, known]
        rfl
      obtain ⟨f, _, _, reached, _⟩ := orderly.seated c s ref plays
      have here : w.registry.opened.gameRef? ref.name = some ref := (orderly.fit.reached?_iff.mp reached).1
      have goes : w.registry.opened.suspended? (.unregister c) =
        some (.dismiss c, ref, w.registry.opened.forget c) := by
        simp [Registry.suspended?, recorded, here]
      refine orderly.attend_sends first idle goes suits rfl kept (fun _ _ same => by cases same) fun d about => ?_
      cases about
      rw [known, gone, left]
      exact .leaving

theorem attend_join {a : Application} {rest : List RegistryRequest} (idle : w.desk = none)
    (first : w.inbox = .join a :: rest) :
    (w.attend (.join a) rest).Orderly := by
  have before := orderly.life_of_first first idle (c := a.connection) rfl
  have fit := orderly.fit.opened
  generalize known : w.clients.find? a.connection = client? at before
  generalize recorded : w.registry.members.find? a.connection = member? at before
  generalize left : rest.filter (·.subject? = some a.connection) = more at before
  cases before with
  | @applying s _ _ =>
    have recorded : w.registry.opened.members.find? a.connection = some ⟨none, s⟩ := recorded
    cases accepting : w.registry.opened.accepting with
    | false =>
      have answers : w.registry.opened.answer (.join a) = (.joined (.error .draining), w.registry.opened) := by
        simp [Registry.answer, Registry.join, accepting]
      refine orderly.attend_done first idle ?_ answers fit.suits (fun _ _ _ => id) fun d about => ?_
      · simp [Registry.suspended?, recorded, accepting]
      · cases about
        refine ⟨_, known, Stage.noConfusion, by rw [seat?, known]; rfl, ?_, rfl⟩
        rw [recorded, left]
        exact .playing rfl (fun _ => rfl)
    | true =>
      cases there : w.registry.opened.gameRef? a.game with
      | some ref =>
        have goes : w.registry.opened.suspended? (.join a) = some (.enrol a s false, ref, w.registry.opened) := by
          simp [Registry.suspended?, recorded, accepting, there]
        refine orderly.attend_sends first idle goes fit.suits rfl (fun _ _ _ => id) (fun _ _ same => by cases same)
          fun d about => ?_
        cases about
        rw [known, recorded, left]
        exact .entering rfl
      | none =>
        have absent := Option.map_eq_none_iff.mp there
        have goes : w.registry.opened.suspended? (.join a) =
          some (.enrol a s true, w.registry.opened.createGame a.game) := by
          simp [Registry.suspended?, recorded, accepting, there]
        refine orderly.attend_sends first idle goes (Registry.createGame_suits fit absent) rfl
          (fun _ _ _ on => on.createGame fit absent) (fun _ _ _ => Registry.vacant_createGame absent) fun d about => ?_
        cases about
        change Life a.connection _ (w.registry.opened.members.find? a.connection) _ _
        rw [known, recorded, left]
        exact .entering rfl

theorem attend {q : RegistryRequest} {rest : List RegistryRequest} (idle : w.desk = none)
    (first : w.inbox = q :: rest) :
    (w.attend q rest).Orderly := by
  have fit := orderly.fit.opened
  cases q with
  | register c s => exact orderly.attend_register idle first
  | unregister c => exact orderly.attend_unregister idle first
  | join a => exact orderly.attend_join idle first
  | listing name =>
    cases there : w.registry.opened.gameRef? name with
    | none =>
      have answers : w.registry.opened.answer (.listing name) = (.listing none, w.registry.opened) := by
        simp [Registry.answer, Registry.listing, there]
      refine orderly.attend_done first idle ?_ answers fit.suits (fun _ _ _ => id) fun _ about => by cases about
      simp [Registry.suspended?, there]
    | some ref =>
      have goes : w.registry.opened.suspended? (.listing name) = some (.count, ref, w.registry.opened) := by
        simp [Registry.suspended?, there]
      exact orderly.attend_sends first idle goes fit.suits rfl (fun _ _ _ => id) (fun _ _ same => by cases same)
        fun _ about => by cases about
  | summary => exact orderly.attend_done first idle rfl rfl fit.suits (fun _ _ _ => id) fun _ about => by cases about
  | shutdown timeout => exact absurd (first ▸ List.mem_cons_self) (orderly.calm timeout)

theorem posts {e : SuspendedRequest} (desk : w.desk = some ⟨e, ref, .writing⟩) :
    ({ w with desk := some ⟨e, ref, .written⟩ }.post ref ⟨.registry, e.request⟩).Orderly := by
  have still : w.Unanswered := unanswered_of_desk desk fun _ => Progress.noConfusion
  have plays : ∀ c s ref', Plays { w with desk := some ⟨e, ref, .written⟩ } c s ref' ↔ w.Plays c s ref' :=
    fun c s ref' => still.plays_congr (unanswered_of_desk rfl fun _ => Progress.noConfusion) rfl
  have none : ∀ ref', ∀ m ∈ w.boxes ref', m.writer ≠ .registry := by
    intro ref' m member writer
    have backs := orderly.backed ref' m member
    rw [Backs, writer] at backs
    obtain ⟨e', _, there⟩ := backs
    cases desk.symm.trans there
  have written : Orderly { w with desk := some ⟨e, ref, .written⟩ } := { orderly with
    lives := fun c => (orderly.lives c).congr rfl rfl rfl (duty?_congr (by rw [desk]; rfl))
    seated := fun c s ref' there => orderly.seated c s ref' ((plays c s ref').mp there)
    holds := fun duty there => by
      cases there
      have before := orderly.holds _ desk
      exact ⟨fun a s same _ => before.begun a s same fun _ => Progress.noConfusion, fun _ => Progress.noConfusion,
        fun _ _ _ _ _ _ => Progress.noConfusion⟩
    backed := fun ref' m member => (orderly.backed ref' m member).imp (fun c s _ => (plays c s ref').mpr)
      fun _ writer => absurd writer (none ref' m member) }
  exact written.post ⟨e, rfl, rfl⟩ fun m member writer => absurd writer (none ref m member)

theorem seat?_of_dismissing {answered : Progress} (desk : w.desk = some ⟨.dismiss c, ref, answered⟩) :
    ∃ s, w.seat? c = some (s, ref) := by
  have life := orderly.lives c
  have duty : w.duty? c = some (.dismiss c, ref) := (duty?_of_desk desk).trans (if_pos rfl)
  rw [Lives, duty] at life
  generalize known : w.clients.find? c = client? at life
  generalize w.registry.members.find? c = member? at life
  generalize w.requests c = requests at life
  cases life with
  | @leaving s =>
    refine ⟨s, ?_⟩
    rw [seat?, known]
    rfl

section

variable {f : Fixture} {l : Letter} {rest : List Letter}

theorem handled (desk : Option Duty) (reached : w.registry.reached? ref = some f) (box : w.boxes ref = l :: rest)
    (same : desk.map (fun duty => (duty.suspended, duty.game)) = w.desk.map fun duty => (duty.suspended, duty.game))
    (seated : ∀ c s other, Plays { w with desk } c s other → (w.registry.askGame ref l.request).2.OnRoster other c s)
    (holds : ∀ duty, desk = some duty → duty.Holds (w.registry.askGame ref l.request).2)
    (backed : ∀ other m, m ∈ w.boxes other → (other = ref → l.Before m) → Backs { w with desk } other m) :
    Orderly { w with
      registry := (w.registry.askGame ref l.request).2
      boxes := Function.update w.boxes ref rest
      desk } := by
  have suits : w.registry.Suits none (w.registry.askGame ref l.request).2 :=
    Registry.askGame_suits reached orderly.fit l.request
  have lined := List.pairwise_cons.mp (box ▸ orderly.lined ref)
  exact {
    fit := suits.fit
    calm := orderly.calm
    lives := fun c => (orderly.lives c).congr rfl (suits.member c (by simp)) rfl (duty?_congr same)
    seated := seated
    holds := holds
    backed := fun other m member => by
      dsimp only at member
      rw [Function.update_apply] at member
      split at member
      · rename_i here
        exact backed other m (here ▸ box ▸ List.mem_cons_of_mem l member) fun _ => lined.1 m member
      · rename_i elsewhere
        exact backed other m member fun here => absurd here elsewhere
    lined := fun other => by
      dsimp only
      rw [Function.update_apply]
      split
      · exact lined.2
      · exact orderly.lined other
    attentive := orderly.attentive.queues suits.queue }

/-- A game handles the letter of the registry, which has the answer then. -/
theorem handle_suspended {e : SuspendedRequest} (reached : w.registry.reached? ref = some f)
    (box : w.boxes ref = ⟨.registry, e.request⟩ :: rest) (desk : w.desk = some ⟨e, ref, .written⟩) :
    (w.handle ref ⟨.registry, e.request⟩ rest).Orderly := by
  have still : w.Unanswered := unanswered_of_desk desk fun _ => Progress.noConfusion
  have handled := orderly.handled (some ⟨e, ref, .answered (w.registry.askGame ref e.request).1⟩) reached box
    (by rw [desk]; rfl) (fun c s other plays => ?_) (fun duty there => ?_) fun other m member before => ?_
  · simp only [World.handle, if_true, desk]
    exact handled
  · refine (orderly.seated c s other (still.plays_iff.mpr plays.2)).askGame reached orderly.fit e.request
      fun leaves => ?_
    exact plays.1 ⟨ref, _, by rw [e.eq_dismiss leaves]⟩
  · cases there
    exact Registry.holds_askGame reached orderly.fit fun a s same =>
      (orderly.holds _ desk).begun a s same (still _ · desk)
  · refine (orderly.backed other m member).imp (fun c s session plays => ⟨?_, plays.2⟩) fun e' again _ desk' => ?_
    -- whoever is dismissed has no letter behind that of the registry, and none in another game
    · rintro ⟨ref', answer, desk'⟩
      cases desk'
      obtain ⟨s', seat⟩ := orderly.seat?_of_dismissing desk
      cases seat.symm.trans plays.2
      exact (before rfl rfl).2 c rfl session
    · cases desk.symm.trans desk'
      exact absurd again (before rfl rfl).1

theorem handle_open (reached : w.registry.reached? ref = some f) (box : w.boxes ref = l :: rest)
    (writer : l.writer ≠ .registry) (isOpen : l.request.Open) : (w.handle ref l rest).Orderly := by
  have handled := orderly.handled w.desk reached box rfl
    (fun c s other plays => (orderly.seated c s other plays).askGame reached orderly.fit l.request (isOpen.ne_leave c))
    (fun duty desk => Registry.holds_askGame_of_open reached orderly.fit l.request (orderly.holds duty desk) isOpen)
    fun other m member _ => orderly.backed other m member
  simp only [World.handle, if_neg writer]
  exact handled

theorem handle (there : w.registry.gameRef? ref.name = some ref) (box : w.boxes ref = l :: rest) :
    (w.handle ref l rest).Orderly := by
  obtain ⟨f, reached⟩ := orderly.fit.reached?_of_ref there
  have backs := orderly.backed ref l (box ▸ List.mem_cons_self)
  obtain ⟨writer, request⟩ := l
  cases writer with
  | registry =>
    obtain ⟨e, rfl, desk⟩ := backs
    exact orderly.handle_suspended reached box desk
  | session c =>
    obtain ⟨p, _, rfl, _⟩ := backs
    exact orderly.handle_open reached box Writer.noConfusion trivial
  | other => exact orderly.handle_open reached box Writer.noConfusion backs

end

theorem conclude {duty : Duty} {answer : Except Failure GameAnswer} (desk : w.desk = some duty)
    (answered : duty.progress = .answered answer) : (w.conclude duty answer).Orderly := by
  obtain ⟨e, ref, progress⟩ := duty
  cases answered
  have holds := orderly.holds _ desk
  refine orderly.done (Registry.settle_suits ref answer e orderly.fit)
    (fun other c s on => on.settle orderly.fit (holds.empty answer rfl)) (fun duty there => ?_) orderly.calm
    (fun _ _ => rfl)
    fun c about => ?_
  · cases desk.symm.trans there
    exact ⟨rfl, Progress.noConfusion⟩
  · have life := orderly.lives c
    have duty : w.duty? c = some (e, ref) := (duty?_of_desk desk).trans (if_pos about)
    have member := (w.registry.settle_undergoes ref answer e).member c
    dsimp only at member
    rw [Lives, duty] at life
    generalize known : w.clients.find? c = client? at life
    generalize recorded : w.registry.members.find? c = member? at life member
    generalize waiting : w.requests c = requests at life
    change ∃ client, client? = _ ∧ _ ∧ _ ∧ Life c _ _ (w.requests c) _ ∧ _
    rw [member, waiting]
    cases life with
    | leaving =>
      refine ⟨_, rfl, Stage.noConfusion, fun s ref plays => plays.1 ⟨_, answer, desk⟩, .ended rfl, fun s ref seat => ?_⟩
      cases seat
    | @entering s a begun _ same =>
      refine ⟨_, rfl, Stage.noConfusion, fun s ref plays => ?_, ?_⟩
      · have seat := plays.2
        rw [seat?, known] at seat
        cases seat
      · cases outcome : SuspendedRequest.placement answer with
        | ok placement =>
          have admitted : (SuspendedRequest.enrol a s begun).admitted? answer = some c := by
            rw [SuspendedRequest.admitted?, outcome, ← same]
            rfl
          rw [if_pos admitted]
          simp only [Registry.conclusion, outcome, Except.map, Client.told, Except.toOption, Option.map_some]
          refine ⟨.playing rfl (fun _ => rfl), fun t other seat => ?_⟩
          cases seat
          rw [← same]
          exact (holds.seated a s begun answer placement rfl rfl outcome).settle orderly.fit (holds.empty answer rfl)
        | error failure =>
          have refused : (SuspendedRequest.enrol a s begun).admitted? answer ≠ some c := by
            simp [SuspendedRequest.admitted?, outcome, Except.toOption]
          rw [if_neg refused]
          simp only [Registry.conclusion, outcome, Except.map, Client.told, Except.toOption, Option.map_none]
          refine ⟨.playing rfl (fun _ => rfl), fun t other seat => ?_⟩
          cases seat

end Orderly

end World

theorem WorldStep.orderly {limits : Limits} {w after : World} {event : WorldEvent}
    (step : WorldStep limits w event after)
    (orderly : w.Orderly) : after.Orderly := by
  cases step with
  | opens new _ => exact orderly.enter new
  | @applies c client a found free outside same _ =>
    refine orderly.asks found free ?_ (congrArg some same) ?_
    · rw [Client.seat?, Client.seat?, outside, free]
      rfl
    · rw [outside]
      exact .applying same
  | takes p found free inside =>
    exact orderly.plays found (by rw [free]; rfl) rfl fun outside => absurd outside inside
  | delivers found sending inside _ => exact orderly.hands_over found sending inside
  | parts found free _ =>
    refine orderly.asks found free ?_ rfl .parting
    rw [Client.seat?, Client.seat?, free]
    rfl
  | ends found parted => exact orderly.ends found parted
  | inquires aside stays _ => exact orderly.inquires aside stays
  | writes isOpen _ => exact orderly.post isOpen fun m _ _ => ⟨Writer.noConfusion, fun _ _ => Writer.noConfusion⟩
  | queues s f t same =>
    refine orderly.queues fun s' => ?_
    rw [Exchange.outbox?_measure, Exchange.outbox?_modifyOutbox]
    split
    · rw [Option.map_map]
      exact congrArg (Option.map · _) (funext same)
    · rfl
  | attends idle first => exact orderly.attend idle first
  | posts desk _ => exact orderly.posts desk
  | handles there box => exact orderly.handle there box
  | concludes desk answered => exact orderly.conclude desk answered

/-- No party spoils what holds at every moment. The registry dismisses only who waits to be dismissed, whose
frames are all in the mailbox by then, and whatever waits for a game behind the leave of a connection comes from
others. -/
theorem Run.orderly {limits : Limits} (run : Run limits) (n : Nat) : (run.world n).Orderly := by
  induction n with
  | zero =>
    rw [run.start]
    exact World.start_orderly limits.team
  | succ n ih => exact (run.step n).orderly ih

end Scrimmage
