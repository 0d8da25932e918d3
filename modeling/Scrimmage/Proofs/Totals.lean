import Scrimmage.Proofs.Tallies

namespace Scrimmage

namespace Journal

theorem counter_eq_countP (j : Journal) (s : Series) : j.counter s = j.countP (·.counter?.any (· = s)) := by
  rw [counter_eq, List.count, List.countP_filterMap]
  refine congrArg (List.countP · j) (funext fun m => ?_)
  cases m.counter? with
  | none => rfl
  | some t => exact beq_eq_decide ..

theorem total_eq_countP (j : Journal) (name : String) : j.total name = j.countP (·.counter?.any (·.name = name)) := by
  rw [total_eq, List.countP_filterMap]
  refine congrArg (List.countP · j) (funext fun m => ?_)
  cases m.counter? <;> rfl

theorem length_latencies (j : Journal) : j.latencies.length = j.countP (·.latency?.isSome) :=
  List.length_filterMap_eq_countP ..

theorem length_recipients (j : Journal) : j.recipients.length = j.countP (·.recipients?.isSome) :=
  List.length_filterMap_eq_countP ..

/-- What is counted about sessions that fail, whatever it is labelled with. -/
theorem total_sessionErrors (j : Journal) : j.total "gs_session_errors_total" = j.countP (·.isSessionError) := by
  rw [total_eq_countP]
  refine congrArg (List.countP · j) (funext fun m => ?_)
  cases m <;> rfl

end Journal

namespace Routing

variable {t : Routing}

theorem comes_to (t : Routing) :
    t.request? = none ∧ t.outcome = .reply Notice.unidentified.encode ∧ t.count? = none ∨
      ∃ q, t.request? = some q ∧
        ((∃ admission, t.outcome = .joined admission ∧ t.count? = some .joined) ∨
          t.outcome = .reply (Notice.full q.id).encode ∧ t.count? = some .full ∨
          ∃ p, t.outcome = .terminate p ∧ t.count? = some .rejected) := by
  rw [count?]
  cases decoded : JoinRequest.decode t.payload with
  | error fault =>
    have nothing : t.request? = none := by rw [request?, decoded]; rfl
    refine Or.inl ⟨nothing, ?_, by rw [nothing]; rfl⟩
    rw [outcome, Lobby.receive, decoded]
  | ok q =>
    have something : t.request? = some q := by rw [request?, decoded]; rfl
    refine Or.inr ⟨q, something, ?_⟩
    rw [something, Option.map_some, outcome, Lobby.receive_eq _ _ decoded]
    cases t.registry.outcome (q.application t.connection) with
    | ok admission => exact Or.inl ⟨admission, rfl, rfl⟩
    | error failure =>
      cases rejection : failure.isRejection with
      | true => exact Or.inr (Or.inl ⟨by simp only [rejection, if_true], by simp only [rejection, if_true]⟩)
      | false =>
        refine Or.inr (Or.inr ⟨(Notice.warning failure.clientText true).encode, ?_, ?_⟩)
        · simp only [rejection, Bool.false_eq_true, if_false]
        · simp only [rejection, Bool.false_eq_true, if_false]

theorem isTurnedAway_eq : t.isTurnedAway = decide (t.count? = some .full) := by
  rw [isTurnedAway]
  rcases t.comes_to with ⟨foreign, _, count⟩ | ⟨q, request,
    ⟨_, outcome, count⟩ | ⟨outcome, count⟩ | ⟨_, outcome, count⟩⟩
  · rw [foreign, count]
    rfl
  all_goals simp [request, outcome, count]

theorem isTerminated_eq : t.isTerminated = decide (t.count? = some .rejected) := by
  rw [isTerminated]
  rcases t.comes_to with ⟨_, outcome, count⟩ | ⟨_, _, ⟨_, outcome, count⟩ | ⟨outcome, count⟩ | ⟨_, outcome, count⟩⟩
  all_goals simp [outcome, count]

theorem countP_count? (routed : List Routing) :
    routed.countP (·.count?.isSome) =
      routed.countP (fun t => t.count? = some .joined) + routed.countP (fun t => t.count? = some .full) +
        routed.countP (fun t => t.count? = some .rejected) := by
  induction routed with
  | nil => rfl
  | cons t routed ih =>
    simp only [List.countP_cons, ih]
    rcases t.count? with _ | _ | _ | _ <;> simp <;> omega

theorem countP_tallies (t : Routing) (q : Measurement → Bool) :
    t.tallies.countP q =
      match t.count? with
      | none => (q .unidentified).toNat
      | some count => (q (.joinLatency 0)).toNat + (q (.join count.label)).toNat := by
  rw [tallies]
  cases t.count? with
  | none => cases one : q .unidentified <;> simp [one]
  | some count =>
    cases one : q (.joinLatency 0) <;> cases other : q (.join count.label) <;> simp [one, other]

end Routing

namespace Relaying

theorem countP_tallies (t : Relaying) (q : Measurement → Bool) :
    t.tallies.countP q = (t.isHandled && q (.broadcast t.taken)).toNat := by
  rw [tallies]
  cases t.isHandled with
  | false => rfl
  | true => cases one : q (.broadcast t.taken) <;> simp [one]

/-- A game that does not handle a frame does not put it into any queue. -/
theorem taken_of_unhandled {t : Relaying} (unhandled : t.isHandled = false) : t.taken = 0 := by
  rcases t.registry.broadcast_notes t.game t.package with ⟨handled, _⟩ | nothing
  · rw [isHandled, handled] at unhandled
    cases unhandled
  · rw [taken, nothing, Nat.sub_self]

end Relaying

/-- What counters and samples show of the messages from outside the games, the frames for games and the sessions
that have failed. Each counter shows how many of them there were in the run. -/
structure Journal.Accounts (j : Journal) (routed : List Routing) (relayed : List Relaying)
    (failed : List ConnectionId) : Prop where
  unidentified : j.counter ⟨"gs_unidentified_packages_total", none⟩ = routed.countP (·.isForeign)
  /-- Every attempt to join is counted, and it is measured how long it has taken. -/
  attempts : j.total "gs_joins_total" = routed.countP (·.request?.isSome)
  latencies : j.latencies.length = routed.countP (·.request?.isSome)
  joined : j.counter ⟨"gs_joins_total", some ⟨"result", "joined"⟩⟩ = routed.countP (·.isAdmitted)
  full : j.counter ⟨"gs_joins_total", some ⟨"result", "full"⟩⟩ = routed.countP (·.isTurnedAway)
  rejected : j.counter ⟨"gs_joins_total", some ⟨"result", "rejected"⟩⟩ = routed.countP (·.isTerminated)
  /-- There is nothing else that an attempt is counted for. -/
  results : j.total "gs_joins_total" =
    j.counter ⟨"gs_joins_total", some ⟨"result", "joined"⟩⟩ + j.counter ⟨"gs_joins_total", some ⟨"result", "full"⟩⟩ +
      j.counter ⟨"gs_joins_total", some ⟨"result", "rejected"⟩⟩
  broadcasts : j.counter ⟨"gs_broadcasts_total", none⟩ = relayed.countP (·.isHandled)
  samples : j.recipients.length = relayed.countP (·.isHandled)
  recipients : j.recipients.sum = (relayed.map (·.taken)).sum
  errors : j.total "gs_session_errors_total" = failed.length

/-- What a journal says of messages is what these are to be counted for. -/
def Journal.Covers (j : Journal) (routed : List Routing) (relayed : List Relaying) : Prop :=
  (j.filter (·.isTally)).Perm (routed.flatMap Routing.tallies ++ relayed.flatMap Relaying.tallies)

namespace Journal.Covers

theorem countP_flatMap {α : Type} {f : α → Journal} {q : Measurement → Bool} {p : α → Bool}
    (each : ∀ a, (f a).countP q = (p a).toNat) (l : List α) : (l.flatMap f).countP q = l.countP p := by
  induction l with
  | nil => rfl
  | cons a l ih =>
    rw [List.flatMap_cons, List.countP_append, each, ih, List.countP_cons]
    cases p a with
    | false => exact Nat.zero_add _
    | true => exact Nat.add_comm ..

variable {j : Journal} {routed : List Routing} {relayed : List Relaying} (covers : j.Covers routed relayed)

include covers

theorem countP {q : Measurement → Bool} (tally : ∀ m, q m = true → m.isTally = true) {p : Routing → Bool}
    {p' : Relaying → Bool} (routing : ∀ t : Routing, t.tallies.countP q = (p t).toNat)
    (relaying : ∀ t : Relaying, t.tallies.countP q = (p' t).toNat) :
    j.countP q = routed.countP p + relayed.countP p' := by
  have only : j.countP q = (j.filter (·.isTally)).countP q := by
    rw [List.countP_filter]
    refine List.countP_congr fun m _ => ?_
    rw [Bool.and_eq_true]
    exact ⟨fun counted => ⟨counted, tally m counted⟩, And.left⟩
  rw [only, covers.countP_eq, List.countP_append, countP_flatMap routing, countP_flatMap relaying]

/-- Something is counted for messages from outside the games alone. -/
theorem countP_routed {q : Measurement → Bool} (never : ∀ n, q (.broadcast n) = false) {p : Routing → Bool}
    (routing : ∀ t : Routing, t.tallies.countP q = (p t).toNat)
    (tally : ∀ m, q m = true → m.isTally = true := by intro m counted; cases m <;> first | rfl | cases counted) :
    j.countP q = routed.countP p := by
  have relaying : ∀ t : Relaying, t.tallies.countP q = false.toNat := fun t => by
    rw [t.countP_tallies, never, Bool.and_false]
  rw [covers.countP tally routing relaying, List.countP_false]
  exact Nat.add_zero _

/-- Something is counted for all frames that games pass on, and for these alone. -/
theorem countP_relayed {q : Measurement → Bool} (never : ∀ t : Routing, t.tallies.countP q = 0)
    (always : ∀ n, q (.broadcast n) = true)
    (tally : ∀ m, q m = true → m.isTally = true := by intro m counted; cases m <;> first | rfl | cases counted) :
    j.countP q = relayed.countP (·.isHandled) := by
  have relaying : ∀ t : Relaying, t.tallies.countP q = t.isHandled.toNat := fun t => by
    rw [t.countP_tallies, always, Bool.and_true]
  have routing : ∀ t : Routing, t.tallies.countP q = false.toNat := never
  rw [covers.countP tally routing relaying, List.countP_false]
  exact Nat.zero_add _

theorem joins (count : Lobby.Count) :
    j.counter ⟨"gs_joins_total", some ⟨"result", count.label⟩⟩ = routed.countP fun t => t.count? = some count := by
  rw [Journal.counter_eq_countP]
  refine covers.countP_routed (fun _ => rfl) fun t => ?_
  rw [t.countP_tallies]
  cases t.count? with
  | none => rfl
  | some own => cases own <;> cases count <;> rfl

/-- The frames that games pass on, with what the queues have taken of them. -/
theorem recipients : j.recipients.sum = (relayed.map (·.taken)).sum := by
  have only : j.recipients = (j.filter (·.isTally)).filterMap Measurement.recipients? := by
    rw [List.filterMap_filter]
    refine congrArg (List.filterMap · j) (funext fun m => ?_)
    cases m <;> rfl
  have none : ∀ t : Routing, t.tallies.filterMap Measurement.recipients? = [] := fun t => by
    rw [Routing.tallies]
    cases t.count? <;> rfl
  have each : ∀ t : Relaying, (t.tallies.filterMap Measurement.recipients?).sum = t.taken := fun t => by
    rw [Relaying.tallies]
    cases handled : t.isHandled with
    | false => exact (Relaying.taken_of_unhandled handled).symm
    | true => rfl
  have nothing : routed.flatMap (fun t => t.tallies.filterMap Measurement.recipients?) = [] :=
    List.flatMap_eq_nil_iff.mpr fun t _ => none t
  rw [only, (covers.filterMap _).sum_eq, List.filterMap_append, List.filterMap_flatMap, List.filterMap_flatMap,
    nothing, List.nil_append, List.flatMap_def, List.sum_flatten, List.map_map]
  exact congrArg List.sum (List.map_congr_left fun t _ => each t)

theorem accounts {failed : List ConnectionId} (errors : j.countP (·.isSessionError) = failed.length) :
    j.Accounts routed relayed failed := by
  have attempt : ∀ t : Routing, t.request?.isSome = t.count?.isSome := fun t => Option.isSome_map.symm
  have joined := covers.joins .joined
  have full := covers.joins .full
  have rejected := covers.joins .rejected
  have attempts : j.total "gs_joins_total" = routed.countP (·.count?.isSome) := by
    rw [Journal.total_eq_countP]
    refine covers.countP_routed (fun _ => rfl) fun t => ?_
    rw [t.countP_tallies]
    cases t.count? <;> rfl
  exact {
    unidentified := by
      rw [Journal.counter_eq_countP]
      refine covers.countP_routed (fun _ => rfl) fun t => ?_
      rw [t.countP_tallies, Routing.isForeign_eq]
      cases t.count? <;> rfl
    attempts := by
      simp only [attempt]
      exact attempts
    latencies := by
      simp only [attempt]
      rw [Journal.length_latencies]
      refine covers.countP_routed (fun _ => rfl) fun t => ?_
      rw [t.countP_tallies]
      cases t.count? <;> rfl
    joined := by
      simp only [Routing.isAdmitted_eq]
      exact joined
    full := by
      simp only [Routing.isTurnedAway_eq]
      exact full
    rejected := by
      simp only [Routing.isTerminated_eq]
      exact rejected
    results := by
      have parts := Routing.countP_count? routed
      rw [← joined, ← full, ← rejected] at parts
      exact attempts.trans parts
    broadcasts := by
      rw [Journal.counter_eq_countP]
      refine covers.countP_relayed (fun t => ?_) fun _ => rfl
      rw [t.countP_tallies]
      cases t.count? <;> rfl
    samples := by
      rw [Journal.length_recipients]
      refine covers.countP_relayed (fun t => ?_) fun _ => rfl
      rw [t.countP_tallies]
      cases t.count? <;> rfl
    recipients := covers.recipients
    errors := j.total_sessionErrors.trans errors }

end Journal.Covers

namespace Server

variable {s : Server}

theorem run_reckons (tidy : s.Tidy) (run : List Incident) :
    ∃ work, (s.after run).journal.filter (·.isTally) = work ++ s.journal.filter (·.isTally) ∧
      work.Perm ((s.along routings run).flatMap Routing.tallies ++ (s.along relayings run).flatMap Relaying.tallies) ∧
      (s.after run).journal.countP (·.isSessionError) =
        (s.along failures run).length + s.journal.countP (·.isSessionError) := by
  induction run generalizing s with
  | nil => exact ⟨[], rfl, .refl _, (Nat.zero_add _).symm⟩
  | cons i run ih =>
    have reckons := undergo_reckons tidy i
    obtain ⟨later, noted, covers, errors⟩ := ih reckons.tidy
    have before := s.opened_silent i
    have opened : (s.opened i).journal.tallies = s.journal.tallies := before
    refine ⟨later ++ s.work i, ?_, ?_, ?_⟩
    · rw [List.append_assoc, ← Journal.filter_tallies s.journal, ← opened, Journal.filter_tallies, ← reckons.work]
      exact noted
    · refine List.perm_iff_count.mpr fun m => ?_
      have counts := covers.count_eq m
      simp only [along, work, List.flatMap_append, List.count_append] at counts ⊢
      omega
    · have same := reckons.errors
      rw [← Journal.countP_tallies (s.opened i).journal, opened, Journal.countP_tallies] at same
      rw [along, List.length_append, Nat.add_comm (s.failures i).length, Nat.add_assoc]
      exact errors.trans (congrArg _ same)

/-- The counters account for everything that happens, in every run: each message from outside the games, each
frame for a game and each session that fails is counted for what it comes to, and for nothing else. -/
theorem counters_account (capacity handshakeTimeout : Nat) (run : List Incident) :
    ((create capacity handshakeTimeout).after run).journal.Accounts
      ((create capacity handshakeTimeout).along routings run)
      ((create capacity handshakeTimeout).along relayings run)
      ((create capacity handshakeTimeout).along failures run) := by
  have tidy : (create capacity handshakeTimeout).Tidy := nofun
  obtain ⟨work, noted, covers, errors⟩ := run_reckons tidy run
  have all : ((create capacity handshakeTimeout).after run).journal.filter (·.isTally) = work :=
    noted.trans (List.append_nil _)
  rw [← all] at covers
  exact Journal.Covers.accounts covers errors

/-- One client has no handshake, and two want to be in one team, in which there is one place. The one who has got it
says something that is passed on. -/
def crowd : List Incident :=
  [.event .connect, .event (.handshake ⟨1⟩), .event .connect, .event (.handshake ⟨2⟩),
    .event .connect, .violate ⟨3⟩ .noHandshake, .event (.send ⟨1⟩ (.text [0x3f])),
    .event (.send ⟨1⟩ (.text (JoinRequest.write ⟨none, "ring", "Ada", .first⟩))),
    .event (.send ⟨2⟩ (.text (JoinRequest.write ⟨none, "ring", "Bob", .first⟩))),
    .event (.send ⟨1⟩ (.text [0x3f]))]

theorem counters_account_crowd :
    ((create 1 1000).along routings crowd).map (·.count?) = [none, some .joined, some .full] ∧
      ((create 1 1000).along relayings crowd).map (·.taken) = [1] ∧
      (create 1 1000).along failures crowd = [⟨3⟩] ∧
      ((create 1 1000).after crowd).journal.Accounts ((create 1 1000).along routings crowd)
        ((create 1 1000).along relayings crowd) ((create 1 1000).along failures crowd) :=
  ⟨by decide +kernel, by decide +kernel, by decide +kernel, counters_account 1 1000 crowd⟩

end Server

end Scrimmage
