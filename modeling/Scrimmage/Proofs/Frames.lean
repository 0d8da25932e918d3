import Scrimmage.Proofs.Letters

namespace Scrimmage

/-- The frame of a session that a letter holds. -/
def Letter.frame? (l : Letter) (c : ConnectionId) : Option Package :=
  match l.writer, l.request with
  | .session d, .broadcast p => if d = c then some p else none
  | _, _ => none

theorem Letter.frame?_eq_some_iff {l : Letter} {c : ConnectionId} {p : Package} :
    l.frame? c = some p ↔ l.writer = .session c ∧ l.request = .broadcast p := by
  obtain ⟨writer, request⟩ := l
  cases writer <;> cases request <;> simp [frame?]

namespace WorldEvent

/-- What a session takes to send it. -/
def taken (c : ConnectionId) : WorldEvent → List Package
  | .takes d p => if d = c then [p] else []
  | _ => []

/-- Whether it is a session that goes on with a frame. -/
def IsOf (c : ConnectionId) : WorldEvent → Prop
  | .takes d _ | .delivers d => d = c
  | _ => False

/-- What a game handles of a session. -/
def heard (c : ConnectionId) : WorldEvent → List Package
  | .handles _ l => (l.frame? c).toList
  | _ => []

end WorldEvent

namespace World

/-- What of a session waits for a game. A frame of a session is in its hand as long as there is no room for it,
then in the mailbox of its game; no step loses one, doubles one or lets one overtake another. -/
def frames (w : World) (c : ConnectionId) (ref : GameRef) : List Package := (w.boxes ref).filterMap (·.frame? c)

/-- What of a session waits for its game. -/
def waiting (w : World) (c : ConnectionId) : List Package :=
  match w.seat? c with
  | some (_, ref) => w.frames c ref
  | none => []

/-- What a session has taken and there has been no room for yet. -/
def inHand (w : World) (c : ConnectionId) : List Package :=
  ((w.clients.find? c).bind (·.stage.package?)).toList

/-- A game handles a frame while its sender is in the roster, and the sender's queue is among those that get it,
with the frame in front of whatever else is put there. -/
structure Hears (w : World) (c : ConnectionId) (ref : GameRef) (p : Package) (after : World) : Prop where
  roster : ∃ client, w.clients.find? c = some client ∧ client.game = some ref ∧ w.registry.OnRoster ref c client.session
  queued : ∀ client, w.clients.find? c = some client → ∃ more,
    after.registry.exchange.waiting client.session = w.registry.exchange.waiting client.session ++ .write p :: more

/-- A game has handled the leave of a connection. -/
def HasLeft (w : World) (c : ConnectionId) : Prop :=
  w.Dismissed c ∨ ∃ client, w.clients.find? c = some client ∧ client.stage.isOver = true

end World

/-- What a step makes of a session, if there is one. A step that is not about the session leaves it as it is,
and every other one leads from one stage to the next. -/
inductive Moves (c : ConnectionId) : Option Client → WorldEvent → Option Client → Prop
  | still {client? : Option Client} {event : WorldEvent} : ¬event.IsOf c → Moves c client? event client?
  | comes (s : SessionRef) : Moves c none .other (some { session := s, game := none, stage := .asking })
  | asks {client : Client} {stage : Stage} : client.stage = .free → stage = .asking ∨ stage = .parting →
      Moves c (some client) .other (some { client with stage })
  | takes {client : Client} {p : Package} : client.stage = .free →
      Moves c (some client) (.takes c p) (some { client with stage := .sending p })
  | delivers {client : Client} {p : Package} : client.stage = .sending p →
      Moves c (some client) (.delivers c) (some { client with stage := .free })
  | told {client : Client} (answer : RegistryAnswer) : client.stage = .asking ∨ client.stage = .parting →
      Moves c (some client) .other (some (client.told answer))
  | ends {client : Client} : client.stage = .parted → Moves c (some client) .other (some { client with stage := .gone })

namespace World

variable {w after : World} {c d : ConnectionId} {ref : GameRef}

theorem busy_of_first {q : RegistryRequest} {rest : List RegistryRequest} (first : w.inbox = q :: rest)
    (about : q.subject? = some c) : w.requests c ≠ [] ∨ w.duty? c ≠ none := by
  left
  rw [requests_of_first first, if_pos about]
  exact List.cons_ne_nil _ _

theorem busy_of_desk {duty : Duty} (desk : w.desk = some duty) (about : duty.suspended.subject? = some c) :
    w.requests c ≠ [] ∨ w.duty? c ≠ none := by
  right
  rw [duty?_of_desk desk, if_pos about]
  simp

/-- A session about which something waits for the registry, or is being done by it, waits for an answer. -/
theorem Orderly.stage_of_busy (orderly : w.Orderly) (busy : w.requests c ≠ [] ∨ w.duty? c ≠ none) {client : Client}
    (found : w.clients.find? c = some client) : client.stage = .asking ∨ client.stage = .parting := by
  have life := orderly.lives c
  rw [Lives, found] at life
  generalize w.registry.members.find? c = member? at life
  generalize w.requests c = requests at life busy
  generalize w.duty? c = duty at life busy
  cases life with
  | playing | ended => simp at busy
  | coming | applying | entering => exact Or.inl rfl
  | parting | leaving => exact Or.inr rfl

theorem clients_attend (w : World) (q : RegistryRequest) (rest : List RegistryRequest) :
    (w.attend q rest).clients = w.clients ∨
      ∃ r answer, (w.attend q rest).clients = (w.done r q.subject? answer).clients := by
  cases goes : w.registry.opened.suspended? q with
  | some sent => exact Or.inl (by simp only [attend, goes])
  | none =>
    refine Or.inr ⟨(w.registry.opened.answer q).2, (w.registry.opened.answer q).1, ?_⟩
    simp only [attend, goes]
    rfl

end World

theorem WorldStep.client {limits : Limits} {w after : World} {event : WorldEvent}
    (step : WorldStep limits w event after)
    (orderly : w.Orderly) (c : ConnectionId) : Moves c (w.clients.find? c) event (after.clients.find? c) := by
  have still : ¬event.IsOf c → after.clients = w.clients → Moves c (w.clients.find? c) event (after.clients.find? c) :=
    fun aside same => by
      rw [same]
      exact .still aside
  have put : ∀ {d : ConnectionId} {later : Client}, after.clients = w.clients.insert d later →
      Moves d (w.clients.find? d) event (some later) → (d ≠ c → ¬event.IsOf c) →
      Moves c (w.clients.find? c) event (after.clients.find? c) := by
    intro d later clients moves aside
    rw [clients, Table.find?_insert]
    by_cases here : c = d
    · rw [if_pos here, here]
      exact moves
    · rw [if_neg here]
      exact .still (aside (Ne.symm here))
  have told : ∀ {r : Registry} {subject? : Option ConnectionId} {answer : RegistryAnswer}, event = .other →
      after.clients = (w.done r subject? answer).clients → (subject? = some c → w.requests c ≠ [] ∨ w.duty? c ≠ none) →
      Moves c (w.clients.find? c) event (after.clients.find? c) := by
    intro r subject? answer same clients busy
    rw [clients, World.find?_done, same]
    split
    · rename_i here
      cases found : w.clients.find? c with
      | none => exact .still not_false
      | some client => exact .told answer (orderly.stage_of_busy (busy here) found)
    · exact .still not_false
  cases step with
  | @opens d new _ =>
    refine put rfl ?_ fun _ => not_false
    rw [new]
    exact .comes _
  | applies a found free _ _ _ =>
    refine put rfl ?_ fun _ => not_false
    rw [found]
    exact .asks free (Or.inl rfl)
  | takes p found free _ =>
    refine put rfl ?_ id
    rw [found]
    exact .takes free
  | delivers found sending _ _ =>
    refine put rfl ?_ id
    rw [found]
    exact .delivers sending
  | parts found free _ =>
    refine put rfl ?_ fun _ => not_false
    rw [found]
    exact .asks free (Or.inr rfl)
  | ends found parted =>
    refine put rfl ?_ fun _ => not_false
    rw [found]
    exact .ends parted
  | @attends q rest _ first =>
    rcases w.clients_attend q rest with same | ⟨r, answer, same⟩
    · exact still not_false same
    · exact told rfl same (World.busy_of_first first)
  | concludes desk _ => exact told rfl rfl (World.busy_of_desk desk)
  | _ => exact still not_false rfl

theorem Moves.package? {c : ConnectionId} {client? later? : Option Client} {event : WorldEvent}
    (moves : Moves c client? event later?) (aside : event ≠ .delivers c) :
    (later?.bind (·.stage.package?)).toList = (client?.bind (·.stage.package?)).toList ++ event.taken c := by
  cases moves with
  | still other =>
    have nothing : event.taken c = [] := by
      cases event with
      | takes d p => exact if_neg other
      | _ => rfl
    rw [nothing, List.append_nil]
  | comes s => rfl
  | asks free stage =>
    rcases stage with rfl | rfl
    · simp [free, Stage.package?, WorldEvent.taken]
    · simp [free, Stage.package?, WorldEvent.taken]
  | takes free => simp [free, Stage.package?, WorldEvent.taken]
  | delivers => exact absurd rfl aside
  | told answer waits =>
    rcases waits with stage | stage
    · cases answer <;> simp [Client.told, stage, Stage.package?, WorldEvent.taken]
    · cases answer <;> simp [Client.told, stage, Stage.package?, WorldEvent.taken]
  | ends parted => simp [parted, Stage.package?, WorldEvent.taken]

theorem WorldStep.inHand {limits : Limits} {w after : World} {event : WorldEvent}
    (step : WorldStep limits w event after)
    (orderly : w.Orderly) {c : ConnectionId} (aside : event ≠ .delivers c) :
    after.inHand c = w.inHand c ++ event.taken c :=
  (step.client orderly c).package? aside

namespace World

variable {w after : World} {c d : ConnectionId} {ref : GameRef}

namespace Orderly

variable (orderly : w.Orderly)

include orderly

theorem plays_of_frame {l : Letter} {p : Package} (member : l ∈ w.boxes ref) (frame : l.frame? c = some p) :
    ∃ s, w.Plays c s ref := by
  have backs := orderly.backed ref l member
  rw [Letter.frame?_eq_some_iff] at frame
  rw [Backs, frame.1] at backs
  obtain ⟨_, s, _, plays⟩ := backs
  exact ⟨s, plays⟩

theorem there_of_plays {s : SessionRef} (plays : w.Plays c s ref) : w.registry.gameRef? ref.name = some ref := by
  obtain ⟨_, _, _, reached, _⟩ := orderly.seated c s ref plays
  exact (orderly.fit.reached?_iff.mp reached).1

theorem there_of_playing {client : Client} (found : w.clients.find? c = some client)
    (playing : client.stage.isPlaying = true)
    (inside : client.game = some ref) : w.registry.gameRef? ref.name = some ref := by
  obtain ⟨_, _, duty, _⟩ := orderly.life_playing found playing
  have plays : w.Plays c client.session ref := by
    refine ⟨?_, ?_⟩
    · rintro ⟨game, answer, desk⟩
      cases ((duty?_of_desk desk).trans (if_pos rfl)).symm.trans duty
    · rw [seat?, found, Option.bind_some, Client.seat?, Stage.isOver_of_isPlaying playing, inside]
      rfl
  exact orderly.there_of_plays plays

theorem waiting_of_frames (some : w.frames c ref ≠ []) : w.waiting c = w.frames c ref := by
  obtain ⟨p, member⟩ := List.exists_mem_of_ne_nil _ some
  obtain ⟨l, inside, frame⟩ := List.mem_filterMap.mp member
  obtain ⟨s, plays⟩ := orderly.plays_of_frame inside frame
  rw [waiting, plays.2]

omit orderly in
theorem waiting_of_none (none : ∀ ref, w.frames c ref = []) : w.waiting c = [] := by
  rw [waiting]
  split
  · exact none _
  · rfl

/-- As long as nothing of a session is put into a mailbox or taken out of one, the same waits. -/
theorem waiting_congr (later : after.Orderly) (same : ∀ ref, after.frames c ref = w.frames c ref) :
    after.waiting c = w.waiting c := by
  by_cases some : ∃ ref, w.frames c ref ≠ []
  · obtain ⟨ref, some⟩ := some
    rw [orderly.waiting_of_frames some, later.waiting_of_frames (same ref ▸ some), same]
  · have none : ∀ ref, w.frames c ref = [] := fun ref => by_contra fun other => some ⟨ref, other⟩
    rw [waiting_of_none none, waiting_of_none fun ref => (same ref).trans (none ref)]

end Orderly

theorem letter_of_waiting (some : w.waiting c ≠ []) : ∃ ref, ∃ l ∈ w.boxes ref, ∃ p, l.frame? c = Option.some p := by
  rw [waiting] at some
  split at some
  · rename_i ref _
    obtain ⟨p, member⟩ := List.exists_mem_of_ne_nil _ some
    obtain ⟨l, inside, frame⟩ := List.mem_filterMap.mp member
    exact ⟨ref, l, inside, p, frame⟩
  · exact absurd rfl some

theorem found_of_inHand (holds : w.inHand c ≠ []) :
    ∃ client p, w.clients.find? c = some client ∧ client.stage = .sending p := by
  rw [inHand] at holds
  cases found : w.clients.find? c with
  | none => exact absurd (by rw [found]; rfl) holds
  | some client =>
    rw [found, Option.bind_some] at holds
    cases stage : client.stage with
    | sending p => exact ⟨client, p, rfl, stage⟩
    | _ => exact absurd (by rw [stage]; rfl) holds

theorem frames_post (w : World) (ref : GameRef) (l : Letter) (c : ConnectionId) (other : GameRef) :
    (w.post ref l).frames c other = w.frames c other ++ if other = ref then (l.frame? c).toList else [] := by
  rw [frames, boxes_post]
  split
  · rename_i here
    have single : [l].filterMap (·.frame? c) = (l.frame? c).toList := by
      cases frame : l.frame? c <;> simp [frame]
    rw [List.filterMap_append, single, frames, here]
  · rw [List.append_nil, frames]

theorem boxes_handle (w : World) (ref other : GameRef) (l : Letter) (rest : List Letter) :
    (w.handle ref l rest).boxes other = if other = ref then rest else w.boxes other :=
  Function.update_apply ..

theorem boxes_attend (w : World) (q : RegistryRequest) (rest : List RegistryRequest) :
    (w.attend q rest).boxes = w.boxes := by
  rw [attend]
  split <;> rfl

theorem Orderly.waiting_handle (orderly : w.Orderly) {l : Letter} {rest : List Letter}
    (later : (w.handle ref l rest).Orderly)
    (box : w.boxes ref = l :: rest) (c : ConnectionId) :
    w.waiting c = (l.frame? c).toList ++ (w.handle ref l rest).waiting c := by
  cases frame : l.frame? c with
  | none =>
    refine (orderly.waiting_congr later fun other => ?_).symm
    rw [frames, frames, boxes_handle]
    split
    · rename_i here
      simp only [here, box, List.filterMap_cons, frame]
    · rfl
  | some p =>
    obtain ⟨s, _, seat⟩ := orderly.plays_of_frame (box ▸ List.mem_cons_self) frame
    have seat' : (w.handle ref l rest).seat? c = some (s, ref) := seat
    rw [waiting, waiting, seat, seat']
    simp only [frames, boxes_handle, if_true, box, List.filterMap_cons, frame]
    rfl

end World

theorem WorldStep.waiting {limits : Limits} {w after : World} {event : WorldEvent} {c : ConnectionId}
    (step : WorldStep limits w event after) (orderly : w.Orderly) (aside : event ≠ .delivers c) :
    w.waiting c = event.heard c ++ after.waiting c := by
  have later := step.orderly orderly
  have still : (∀ ref, after.frames c ref = w.frames c ref) → w.waiting c = [] ++ after.waiting c :=
    fun frames => (orderly.waiting_congr later frames).symm
  have posted : ∀ (v : World) ref (l : Letter), l.frame? c = none → ∀ other,
      (v.post ref l).frames c other = v.frames c other := by
    intro v ref l frame other
    rw [World.frames_post, frame]
    split <;> exact List.append_nil _
  cases step with
  | @delivers d client p ref found _ _ _ =>
    refine still (posted _ ref _ (if_neg fun here => aside ?_))
    rw [here]
  | writes => exact still (posted w _ _ rfl)
  | @attends q rest => exact still fun ref => by rw [World.frames, World.boxes_attend, World.frames]
  | posts => exact still (posted _ _ _ rfl)
  | handles there box => exact orderly.waiting_handle later box c
  | _ => exact still fun _ => rfl

theorem WorldStep.delivered {limits : Limits} {w after : World} {c : ConnectionId}
    (step : WorldStep limits w (.delivers c) after)
    (orderly : w.Orderly) :
    ∃ p ref, w.inHand c = [p] ∧ after.inHand c = [] ∧ after.waiting c = w.waiting c ++ [p] ∧
      after.boxes ref = w.boxes ref ++ [⟨.session c, .broadcast p⟩] := by
  have later := step.orderly orderly
  cases step with
  | @delivers _ client p ref found sending inside _ =>
    have box : ((w.put c { client with stage := .free }).post ref ⟨.session c, .broadcast p⟩).boxes ref =
        w.boxes ref ++ [⟨.session c, .broadcast p⟩] := (World.boxes_post ..).trans (if_pos rfl)
    have since : ((w.put c { client with stage := .free }).post ref ⟨.session c, .broadcast p⟩).clients.find? c =
        some { client with stage := .free } := (Table.find?_insert ..).trans (if_pos rfl)
    refine ⟨p, ref, ?_, ?_, ?_, box⟩
    · rw [World.inHand, found, Option.bind_some, sending]
      rfl
    · rw [World.inHand, since]
      rfl
    · have seat : w.seat? c = some (client.session, ref) := by
        rw [World.seat?, found, Option.bind_some, Client.seat?, sending, inside]
        rfl
      have frames : ((w.put c { client with stage := .free }).post ref ⟨.session c, .broadcast p⟩).frames c ref =
          w.frames c ref ++ [p] := by
        rw [World.frames, box, List.filterMap_append, World.frames]
        simp [Letter.frame?]
      rw [later.waiting_of_frames (by rw [frames]; simp), frames, World.waiting, seat]

/-- What waits and what is in hand grows by what is taken, and what is handled is the first of it. -/
theorem WorldStep.flows {limits : Limits} {w after : World} {event : WorldEvent} (step : WorldStep limits w event after)
    (orderly : w.Orderly) (c : ConnectionId) :
    w.waiting c ++ w.inHand c ++ event.taken c = event.heard c ++ (after.waiting c ++ after.inHand c) := by
  by_cases delivers : event = .delivers c
  · subst delivers
    obtain ⟨p, _, before, since, waits, _⟩ := step.delivered orderly
    rw [before, since, waits]
    rfl
  · rw [step.waiting orderly delivers, step.inHand orderly delivers]
    simp only [List.append_assoc]

theorem Client.seat?_eq_some {client : Client} {s : SessionRef} {ref : GameRef} (seat : client.seat? = some (s, ref)) :
    client.stage.isOver = false ∧ client.session = s ∧ client.game = some ref := by
  rw [Client.seat?] at seat
  split at seat
  · cases seat
  · rename_i on
    obtain ⟨_, inside, same⟩ := Option.map_eq_some_iff.mp seat
    cases same
    exact ⟨Bool.eq_false_of_not_eq_true on, rfl, inside⟩

theorem Registry.queued_of_onRoster {r : Registry} {ref : GameRef} {c : ConnectionId} {s : SessionRef}
    (on : r.OnRoster ref c s)
    (accepts : r.exchange.accepts s = true) (p : Package) : ∃ more,
    (r.askGame ref (.broadcast p)).2.exchange.waiting s = r.exchange.waiting s ++ .write p :: more := by
  obtain ⟨f, team, player, reached, seated, rfl⟩ := on
  have inside : player.session ∈ f.game.players.map (·.session) :=
    List.mem_map_of_mem (Game.mem_players_iff.mpr ⟨c, team, seated⟩)
  have some : 0 < (f.game.players.map (·.session)).countP (·.queue = player.session.queue) :=
    List.countP_pos_iff.mpr ⟨_, inside, decide_eq_true rfl⟩
  obtain ⟨more, count⟩ := Nat.exists_eq_succ_of_ne_zero (Nat.ne_of_gt some)
  refine ⟨List.replicate more (.write p), ?_⟩
  rw [Exchange.waiting_extended ((askGame_reached reached (.broadcast p)).2.outbox player.session), if_pos accepts]
  simp only [Game.sends, copies, count, List.replicate_succ]

theorem WorldStep.plays {limits : Limits} {w after : World} {c : ConnectionId} {ref : GameRef} {p : Package}
    (step : WorldStep limits w (.handles ref ⟨.session c, .broadcast p⟩) after) (orderly : w.Orderly) :
    ∃ s, w.Plays c s ref := by
  cases step with
  | handles _ box => exact orderly.plays_of_frame (box ▸ List.mem_cons_self) (Letter.frame?_eq_some_iff.mpr ⟨rfl, rfl⟩)

theorem WorldStep.hears {limits : Limits} {w after : World} {c : ConnectionId} {ref : GameRef} {p : Package}
    (step : WorldStep limits w (.handles ref ⟨.session c, .broadcast p⟩) after) (orderly : w.Orderly) :
    w.Hears c ref p after := by
  obtain ⟨s, plays⟩ := step.plays orderly
  have roster := orderly.seated c s ref plays
  obtain ⟨client, found, seat⟩ := Option.bind_eq_some_iff.mp plays.2
  obtain ⟨on, rfl, inside⟩ := client.seat?_eq_some seat
  obtain ⟨o, queue, isOpen⟩ := orderly.attentive.isOpen c client found
  have stays : client.stage ≠ .gone := by
    intro gone
    rw [gone] at on
    cases on
  refine ⟨⟨client, found, inside, roster⟩, fun other found' => ?_⟩
  cases found.symm.trans found'
  cases step
  refine Registry.queued_of_onRoster roster ?_ p
  rw [Exchange.accepts, queue, Option.any_some, isOpen stays]

theorem World.HasLeft.not_plays {w : World} {c : ConnectionId} (left : w.HasLeft c) {s : SessionRef} {ref : GameRef} :
    ¬w.Plays c s ref := by
  intro plays
  rcases left with dismissed | ⟨client, found, isOver⟩
  · exact plays.1 dismissed
  · have seat := plays.2
    rw [seat?, found, Option.bind_some] at seat
    cases (client.seat?_eq_some seat).1.symm.trans isOver

theorem Moves.isOver {c : ConnectionId} {client : Client} {later? : Option Client} {event : WorldEvent}
    (moves : Moves c (some client) event later?) (isOver : client.stage.isOver = true) :
    ∃ later, later? = some later ∧ later.stage.isOver = true := by
  cases moves with
  | still => exact ⟨client, rfl, isOver⟩
  | ends => exact ⟨_, rfl, rfl⟩
  | asks free | takes free | delivers free =>
    rw [free] at isOver
    cases isOver
  | told _ waits =>
    rcases waits with stage | stage
    · rw [stage] at isOver
      cases isOver
    · rw [stage] at isOver
      cases isOver

theorem World.Orderly.hasLeft_conclude {w : World} (orderly : w.Orderly) {c : ConnectionId} {ref : GameRef}
    {answer : Except Failure GameAnswer} (desk : w.desk = some ⟨.dismiss c, ref, .answered answer⟩) :
    (w.conclude ⟨.dismiss c, ref, .answered answer⟩ answer).HasLeft c := by
  obtain ⟨s, seat⟩ := orderly.seat?_of_dismissing desk
  obtain ⟨client, found, _⟩ := Option.bind_eq_some_iff.mp seat
  refine Or.inr ⟨client.told (.unregistered true), ?_, rfl⟩
  rw [World.conclude, find?_done, found]
  exact if_pos rfl

theorem WorldStep.hasLeft {limits : Limits} {w after : World} {event : WorldEvent} {c : ConnectionId}
    (step : WorldStep limits w event after) (orderly : w.Orderly) (left : w.HasLeft c) : after.HasLeft c := by
  rcases left with ⟨ref, answer, desk⟩ | ⟨client, found, isOver⟩
  · cases step with
    | attends idle _ => cases idle.symm.trans desk
    | posts desk' _ => cases desk.symm.trans desk'
    | @handles game l rest there box =>
      have writer : l.writer ≠ .registry := by
        intro writer
        have backs := orderly.backed game l (box ▸ List.mem_cons_self)
        rw [World.Backs, writer] at backs
        obtain ⟨_, _, desk'⟩ := backs
        cases desk.symm.trans desk'
      refine Or.inl ⟨ref, answer, ?_⟩
      simp only [World.handle, if_neg writer, desk]
    | concludes desk' answered =>
      cases desk.symm.trans desk'
      cases answered
      exact orderly.hasLeft_conclude desk
    | _ => exact Or.inl ⟨ref, answer, desk⟩
  · have moves := step.client orderly c
    rw [found] at moves
    exact Or.inr (moves.isOver isOver)

/-- A game has handled the leave of a connection; the registry alone writes one. -/
theorem WorldStep.left {limits : Limits} {w after : World} {c : ConnectionId} {ref : GameRef} {writer : Writer}
    (step : WorldStep limits w (.handles ref ⟨writer, .leave c⟩) after) (orderly : w.Orderly) : after.HasLeft c := by
  cases step with
  | @handles _ _ rest there box =>
    have backs := orderly.backed ref _ (box ▸ List.mem_cons_self)
    cases writer with
    | registry =>
      obtain ⟨e, request, desk⟩ := backs
      refine Or.inl ⟨ref, (w.registry.askGame ref (.leave c)).1, ?_⟩
      simp only [World.handle, if_true, desk, Option.map_some, e.eq_dismiss request.symm]
    | session d =>
      obtain ⟨p, _, same, _⟩ := backs
      cases same
    | other => exact (backs : GameRequest.Open (.leave c)).elim

/-- What a step makes of the mailbox of a game. The first message is taken out when the game handles it, and one
is put in at the end if there is room. -/
inductive Mail (limits : Limits) (ref : GameRef) : List Letter → WorldEvent → List Letter → Prop
  | handled {l : Letter} {rest : List Letter} : Mail limits ref (l :: rest) (.handles ref l) rest
  | still {box : List Letter} {event : WorldEvent} : (∀ l, event ≠ .handles ref l) → Mail limits ref box event box
  | posted {box : List Letter} {event : WorldEvent} (l : Letter) : (∀ l, event ≠ .handles ref l) →
      box.length < limits.box → Mail limits ref box event (box ++ [l])

theorem WorldStep.mail {limits : Limits} {w after : World} {event : WorldEvent} (step : WorldStep limits w event after)
    (ref : GameRef) : Mail limits ref (w.boxes ref) event (after.boxes ref) := by
  have posted : ∀ {v : World} {other : GameRef} {l : Letter}, (∀ l, event ≠ .handles ref l) → after = v.post other l →
      v.boxes = w.boxes → (v.boxes other).length < limits.box →
      Mail limits ref (w.boxes ref) event (after.boxes ref) := by
    intro v other l aside posts same room
    rw [posts, World.boxes_post, same]
    rw [same] at room
    split
    · rename_i here
      subst here
      exact .posted l aside room
    · exact .still aside
  cases step with
  | delivers _ _ _ room => exact posted (fun _ => WorldEvent.noConfusion) rfl rfl room
  | writes _ room => exact posted (fun _ => WorldEvent.noConfusion) rfl rfl room
  | posts _ room => exact posted (fun _ => WorldEvent.noConfusion) rfl rfl room
  | attends =>
    rw [World.boxes_attend]
    exact .still fun _ => WorldEvent.noConfusion
  | @handles other l rest _ box =>
    rw [World.boxes_handle]
    split
    · rename_i here
      rw [here, box]
      exact .handled
    · rename_i elsewhere
      refine .still fun m same => ?_
      cases same
      exact elsewhere rfl
  | _ => exact .still fun _ => WorldEvent.noConfusion

end Scrimmage
