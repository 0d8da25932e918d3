import Scrimmage.Proofs.Views

namespace Scrimmage

/-- All that is not seen. -/
def View.rest (view : View) : View where
  connection c := ¬view.connection c
  name name := ¬view.name name
  queue n := ¬view.queue n

/-- The connections, names and queues of one of two groups. -/
def View.side (group : View) : Bool → View
  | true => group
  | false => group.rest

/-- What a group does: its connections come with queues of its own, go, ask for games by names of its own, send
frames and questions to the games that they are in, and use their queues. No one stops anything, so that there
is nothing to look after. -/
def Act.By (group : View) : Act → Prop
  | .request (.register c session) => group.connection c ∧ group.queue session.queue
  | .request (.unregister c) => group.connection c
  | .request (.join a) => group.connection a.connection ∧ group.name a.game
  | .request (.listing name) => group.name name
  | .message c _ q => group.connection c ∧ q.Open
  | .queue s _ => group.queue s.queue
  | .check => True
  | _ => False

theorem View.connection_iff_of_side {group : View} {side : Bool} {c : ConnectionId}
    (own : (group.side side).connection c) : group.connection c ↔ side = true := by
  cases side with
  | true => exact iff_of_true own rfl
  | false => exact iff_of_false own Bool.false_ne_true

theorem View.name_iff_of_side {group : View} {side : Bool} {name : String} (own : (group.side side).name name) :
    group.name name ↔ side = true := by
  cases side with
  | true => exact iff_of_true own rfl
  | false => exact iff_of_false own Bool.false_ne_true

theorem View.queue_iff_of_side {group : View} {side : Bool} {n : Nat} (own : (group.side side).queue n) :
    group.queue n ↔ side = true := by
  cases side with
  | true => exact iff_of_true own rfl
  | false => exact iff_of_false own Bool.false_ne_true

namespace Hall

/-- A hall in which a group of connections and the others keep to themselves: queues, names of games and games
that were ever entered are those of the group exactly for the members of the group. -/
structure Apart (group : View) (capacity : Nat) (h : Hall) : Prop where
  regular : h.Regular
  serves : h.registry.Serves capacity
  queue : ∀ c m, h.registry.members.find? c = some m → (group.queue m.session.queue ↔ group.connection c)
  name : ∀ c name, h.registry.recorded? c = some name → (group.name name ↔ group.connection c)
  entered : ∀ c, ∀ ref ∈ h.entries c, (group.name ref.name ↔ group.connection c)

variable {group : View} {capacity : Nat} {h : Hall} {act : Act}

theorem start_apart (group : View) (capacity : Nat) (outboxes : List Outbox) :
    (start capacity outboxes).Apart group capacity where
  regular := start_regular capacity outboxes
  serves := (Registry.create_serves capacity).queues _
  queue c m known := by cases known
  name c name recorded := by cases recorded
  entered c ref member := by cases member

theorem Apart.check_eq (apart : h.Apart group capacity) : (h.perform .check).2 = h := by
  rw [perform, Registry.reap_eq_self (Registry.stoppedGames_eq_nil apart.serves.coherent.all_running)]

theorem Apart.serves_perform (apart : h.Apart group capacity) {side : Bool} (by' : act.By (group.side side)) :
    (h.perform act).2.registry.Serves capacity := by
  refine apart.serves.perform ?_ ?_ ?_
  · cases act with
    | message c n q => exact by'.2
    | _ => trivial
  · rintro timeout rfl
    exact by'
  · rintro name rfl
    exact by'

theorem Apart.perform (apart : h.Apart group capacity) {side : Bool} (by' : act.By (group.side side)) :
    (h.perform act).2.Apart group capacity where
  regular := apart.regular.perform act
  serves := apart.serves_perform by'
  queue c m known := by
    rcases member_origin known with before | ⟨session, rfl, rfl⟩ | ⟨a, m₀, rfl, _, before, rfl⟩
    · exact apart.queue c m before
    · exact (View.queue_iff_of_side by'.2).trans (View.connection_iff_of_side by'.1).symm
    · exact apart.queue c m₀ before
  name c name recorded := by
    obtain ⟨m, known, inside⟩ := Registry.recorded?_eq_some_iff.mp recorded
    rcases member_origin known with before | ⟨session, rfl, rfl⟩ | ⟨a, m₀, rfl, rfl, _, rfl⟩
    · exact apart.name c name (Registry.recorded?_eq_some_iff.mpr ⟨m, before, inside⟩)
    · cases inside
    · cases inside
      exact (View.name_iff_of_side by'.2).trans (View.connection_iff_of_side by'.1).symm
  entered c ref member := by
    by_cases request : ∃ q, act = .request q
    · obtain ⟨q, rfl⟩ := request
      rcases List.mem_append.mp member with before | now
      · exact apart.entered c ref before
      · obtain ⟨a, rfl, rfl, name, _⟩ := Registry.handle_entrance (Option.mem_toList.mp now)
        rw [name]
        exact (View.name_iff_of_side by'.2).trans (View.connection_iff_of_side by'.1).symm
    · rw [h.entries_perform fun q same => request ⟨q, same⟩] at member
      exact apart.entered c ref member

/-- The players in the games of the others have queues of the others. -/
theorem Apart.queue_of_player (apart : h.Apart group capacity) {name : String} {k : HostedGame}
    (found : h.registry.games.find? name = some k) {p : Player} (player : p ∈ k.game.players) :
    group.queue p.session.queue ↔ group.name name := by
  obtain ⟨c, team, seated⟩ := Game.mem_players_iff.mp player
  have coherent := apart.serves.coherent
  have recorded := (coherent.recorded_iff c name).mpr ⟨k, found, Game.mem_members_of_find? seated⟩
  obtain ⟨m, known, _⟩ := Registry.recorded?_eq_some_iff.mp recorded
  rw [coherent.session_eq c m name k team p known found seated, apart.queue c m known, apart.name c name recorded]

theorem Apart.request_hidden (apart : h.Apart group capacity) {q : RegistryRequest}
    (by' : (Act.request q).By group.rest) : (h.registry.requestChange q).Agrees group {} := by
  cases q with
  | register c session =>
    refine { Change.Agrees.same group {} with member := fun d seen => funext fun m => ?_ }
    have other : d ≠ c := fun same => by'.1 (same ▸ seen)
    simp only [Registry.requestChange, Change.register, if_neg other]
  | unregister c =>
    refine { Change.Agrees.same group {} with
      member := fun d seen => funext fun m => ?_
      fixture := fun name seen => funext fun f => ?_ }
    · have other : d ≠ c := fun same => by' (same ▸ seen)
      simp only [Registry.requestChange, Change.unregister, if_neg other]
    · have other : h.registry.recorded? c ≠ some name := fun recorded =>
        by' ((apart.name c name recorded).mp seen)
      simp only [Registry.requestChange, Change.unregister, if_neg other]
  | join a =>
    simp only [Registry.requestChange]
    split
    · exact .same group {}
    · rename_i session placement game verdict
      obtain ⟨m, _, known, _, rfl, _⟩ := Registry.verdict_eq_ok verdict
      refine { Change.Agrees.same group {} with
        member := fun d seen => funext fun m => ?_
        fixture := fun name seen => funext fun f => ?_
        outbox := fun s seen => funext fun o => ?_ }
      · have other : d ≠ a.connection := fun same => by'.1 (same ▸ seen)
        simp only [Change.seat, if_neg other]
      · have other : name ≠ a.game := fun same => by'.2 (same ▸ seen)
        simp only [Change.seat, if_neg other]
      · have other : m.session.queue ≠ s.queue := fun same =>
          by'.1 ((apart.queue _ m known).mp (same ▸ seen))
        simp only [Change.seat, if_neg other, Exchange.extended_nil]
  | listing name => exact .same group {}
  | _ => exact by'.elim

theorem Apart.message_hidden (apart : h.Apart group capacity) {c : ConnectionId} {n : Nat} {q : GameRequest}
    (by' : (Act.message c n q).By group.rest) {ref : GameRef} (member : ref ∈ h.entries c) :
    (h.registry.messageChange ref q).Agrees group {} := by
  rw [Registry.messageChange]
  split
  · exact .same group {}
  · rename_i f reached
    obtain ⟨k, hosts, _, rfl⟩ := Registry.reached?_eq_some reached
    have foreign : ¬group.name ref.name := fun own => by'.1 ((apart.entered c ref member).mp own)
    refine { Change.Agrees.same group {} with
      fixture := fun name seen => funext fun f => ?_
      outbox := fun s seen => funext fun o => ?_ }
    · have other : name ≠ ref.name := fun same => foreign (same ▸ seen)
      simp only [Change.message, if_neg other]
    · have silent : k.game.sends q s = [] := by
        cases q with
        | broadcast p =>
          have nobody : (k.game.players.map (·.session)).countP (·.queue = s.queue) = 0 := by
            rw [List.countP_eq_zero]
            intro session player
            obtain ⟨p, there, rfl⟩ := List.mem_map.mp player
            have queue := apart.queue_of_player hosts.found there
            simp only [decide_eq_true_eq]
            exact fun same => foreign (queue.mp (same ▸ seen))
          rw [Game.sends, copies, nobody, List.replicate_zero]
        | join | leave => exact by'.2.elim
        | _ => rfl
      simp only [Change.message, HostedGame.fixture, silent, Exchange.extended_nil]

theorem Apart.hidden (apart : h.Apart group capacity) (by' : act.By group.rest) (looks : act ≠ .check) :
    (h.change act).Agrees group {} := by
  cases act with
  | request q =>
    simp only [change, apart.serves.running, if_true]
    exact apart.request_hidden by'
  | message c n q =>
    rw [change]
    split
    · exact .same group {}
    · rename_i ref entry
      exact apart.message_hidden by' (List.mem_of_getElem? entry)
  | queue s f =>
    refine { Change.Agrees.same group {} with outbox := fun t seen => funext fun o => ?_ }
    have other : s.queue ≠ t.queue := fun same => by' (same ▸ seen)
    simp only [change, if_neg other]
  | check => exact absurd rfl looks
  | _ => exact by'.elim

theorem entries_of_rest (h : Hall) (by' : act.By group.rest) {c : ConnectionId} (seen : group.connection c) :
    (h.perform act).2.entries c = h.entries c := by
  by_cases request : ∃ q, act = .request q
  · obtain ⟨q, rfl⟩ := request
    have nobody : q.entrance? c (h.registry.handle q).1 = none := by
      cases entrance : q.entrance? c (h.registry.handle q).1 with
      | none => rfl
      | some ref =>
        obtain ⟨a, rfl, rfl, _⟩ := Registry.handle_entrance entrance
        exact absurd seen by'.1
    simp only [perform, nobody, Option.toList_none, List.append_nil]
  · rw [h.entries_perform fun q same => request ⟨q, same⟩]

theorem within_of_by (by' : act.By group) (looks : act ≠ .check) : act.Within group := by
  cases act with
  | request q =>
    cases q with
    | register c session => exact by'.1
    | unregister c => exact by'
    | join a => exact by'
    | listing name => exact by'
    | _ => exact by'.elim
  | message c n q => exact by'.1
  | check => exact absurd rfl looks
  | queue => exact trivial
  | _ => exact by'.elim

/-- Two groups that share a registry and name no game of each other do not notice each other. All that a group is
answered, and all that is put into its queues, is as if the others were not there. -/
theorem groups_isolated (capacity : Nat) (outboxes : List Outbox) (group : View) (acts : List (Bool × Act))
    (split : ∀ act ∈ acts, act.2.By (group.side act.1)) :
    (start capacity outboxes).Undisturbed group (start capacity outboxes) acts := by
  refine undisturbed (fun h h' => h.Alike group h' ∧ h.Apart group capacity ∧ h'.Apart group capacity)
    (fun mark step => step.act.By (group.side mark)) And.left ?_ ?_ ?_ fun step member => split _ (act_of_steps member)
  · rintro h h' act ⟨alike, apart, apart'⟩ by'
    by_cases looks : act = .check
    · subst looks
      rw [apart.check_eq, apart'.check_eq]
      exact ⟨rfl, alike, apart, apart'⟩
    · obtain ⟨reply, next⟩ := alike.within apart.regular apart'.regular (within_of_by by' looks)
      exact ⟨reply, next, apart.perform by', apart'.perform by'⟩
  · rintro h h' act ⟨alike, apart, apart'⟩ by'
    by_cases looks : act = .check
    · subst looks
      rw [apart.check_eq]
      exact ⟨alike, apart, apart'⟩
    · exact ⟨alike.drop apart.regular apart'.regular (h.perform_undergoes act) (apart.hidden by' looks)
        (fun _ seen => h.entries_of_rest by' seen), apart.perform by', apart'⟩
  · have apart := start_apart group capacity outboxes
    exact ⟨.of_registry (.rfl group _) (fun _ => rfl) (fun _ => rfl), apart, apart⟩

/-- A connection, and all that is about the game that it plays in. -/
def loner : View := { connection := (· = ⟨1⟩), name := (· = "ring"), queue := (· = 0) }

/-- Two connections that play in games of their own. -/
def sharing : List (Bool × Act) :=
  [(true, .request (.register ⟨1⟩ ⟨⟨1⟩, 0⟩)), (false, .request (.register ⟨2⟩ ⟨⟨2⟩, 1⟩)),
    (false, .request (.join ⟨⟨2⟩, "wall", "Bo", .first, none⟩)),
    (true, .request (.join ⟨⟨1⟩, "ring", "Ada", .first, none⟩)),
    (false, .message ⟨2⟩ 0 (.broadcast ⟨[0x79, 0x6F]⟩)), (true, .message ⟨1⟩ 0 (.broadcast ⟨[0x68, 0x69]⟩)),
    (false, .request (.unregister ⟨2⟩)), (true, .request (.listing "ring"))]

theorem groups_isolated_sharing :
    (∀ act ∈ sharing, act.2.By (loner.side act.1)) ∧
      (start 5 [.empty, .empty]).Undisturbed loner (start 5 [.empty, .empty]) sharing := by
  have split : ∀ act ∈ sharing, act.2.By (loner.side act.1) := by
    simp [sharing, Act.By, View.side, View.rest, loner, GameRequest.Open]
  exact ⟨split, groups_isolated 5 [.empty, .empty] loner sharing split⟩

end Hall

end Scrimmage
