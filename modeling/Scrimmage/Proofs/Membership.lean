import Scrimmage.Proofs.Requests

namespace Scrimmage

theorem Game.size_pos_of_mem {g : Game} {c : ConnectionId} (member : c ∈ g.members) : 0 < g.size := by
  rw [← members_length]
  exact List.length_pos_of_mem member

/-- A game as the registry keeps it between two messages. -/
structure HostedGame.Lives (h : HostedGame) (name : String) (capacity : Nat) : Prop where
  running : h.running = true
  sound : h.game.Sound
  name_eq : h.game.name = name
  capacity_eq : h.game.capacity = capacity
  peopled : 0 < h.game.size

namespace Registry

def recorded? (r : Registry) (c : ConnectionId) : Option String := (r.members.find? c).bind (·.game)

theorem recorded?_eq_some_iff {r : Registry} {c : ConnectionId} {name : String} :
    r.recorded? c = some name ↔ ∃ m, r.members.find? c = some m ∧ m.game = some name :=
  Option.bind_eq_some_iff

/-- The game of a name has a player in one of its teams. -/
def Seats (r : Registry) (name : String) (team : Team) (c : ConnectionId) (p : Player) : Prop :=
  ∃ h, r.games.find? name = some h ∧ (h.game.side team).find? c = some p

theorem exists_mem_members_iff {r : Registry} {c : ConnectionId} {name : String} :
    (∃ h, r.games.find? name = some h ∧ c ∈ h.game.members) ↔ ∃ team p, r.Seats name team c p := by
  simp only [Game.mem_members_iff, Table.mem_keys_iff, Seats]
  constructor
  · rintro ⟨h, found, team, p, seated⟩
    exact ⟨team, p, h, found, seated⟩
  · rintro ⟨team, p, h, found, seated⟩
    exact ⟨h, found, team, p, seated⟩

/-- The registry and its games agree on who is where. A connection is recorded in a game exactly if it is in one
of the teams of the running game of that name, and every game has a player. -/
structure Coherent (r : Registry) : Prop where
  unjoined_iff : ∀ c, c ∈ r.unjoined ↔ ∃ m, r.members.find? c = some m ∧ m.game = none
  unjoined_nodup : r.unjoined.Nodup
  lives : ∀ name h, r.games.find? name = some h → h.Lives name r.capacity
  recorded_iff : ∀ c name, r.recorded? c = some name ↔ ∃ h, r.games.find? name = some h ∧ c ∈ h.game.members
  session_eq : ∀ c m name h team p, r.members.find? c = some m → r.games.find? name = some h →
    (h.game.side team).find? c = some p → p.session = m.session

theorem create_coherent (capacity : Nat) : (create capacity).Coherent where
  unjoined_iff c := by simp [create]
  unjoined_nodup := List.nodup_nil
  lives name h found := by cases found
  recorded_iff c name := by simp [create, recorded?]
  session_eq c m name h team p known := by cases known

namespace Coherent

variable {r : Registry} (coherent : r.Coherent)

include coherent

theorem hosts {name : String} {h : HostedGame} (found : r.games.find? name = some h) : r.Hosts name h :=
  ⟨found, (coherent.lives name h found).running⟩

theorem hosts_of_game {c : ConnectionId} {m : Member} {name : String} (known : r.members.find? c = some m)
    (inside : m.game = some name) : ∃ h, r.Hosts name h ∧ c ∈ h.game.members := by
  obtain ⟨h, found, member⟩ := (coherent.recorded_iff c name).mp (recorded?_eq_some_iff.mpr ⟨m, known, inside⟩)
  exact ⟨h, coherent.hosts found, member⟩

theorem not_mem_of_outside {c : ConnectionId} {m : Member} (known : r.members.find? c = some m)
    (outside : m.game = none) {name : String} {h : HostedGame} (found : r.games.find? name = some h) :
    c ∉ h.game.members := by
  intro member
  obtain ⟨m', known', inside⟩ := recorded?_eq_some_iff.mp ((coherent.recorded_iff c name).mpr ⟨h, found, member⟩)
  cases known.symm.trans known'
  rw [outside] at inside
  cases inside

/-- Agreement does not depend on the queues, the mailbox or the metrics. -/
theorem of_tables {r' : Registry} (games : r'.games = r.games) (members : r'.members = r.members)
    (unjoined : r'.unjoined = r.unjoined) (capacity : r'.capacity = r.capacity) : r'.Coherent where
  unjoined_iff c := by rw [unjoined, members, coherent.unjoined_iff]
  unjoined_nodup := unjoined ▸ coherent.unjoined_nodup
  lives name h found := by
    rw [games] at found
    rw [capacity]
    exact coherent.lives name h found
  recorded_iff c name := by rw [recorded?, members, games, ← coherent.recorded_iff c name, recorded?]
  session_eq c m name h team p known found := by
    rw [members] at known
    rw [games] at found
    exact coherent.session_eq c m name h team p known found

theorem put_same {name : String} {h : HostedGame} (found : r.games.find? name = some h) (x : Exchange) :
    (r.put name (h.handled h.game) x).Coherent := by
  have games := find?_put (coherent.hosts found) (h.handled h.game) x
  have back : ∀ {other h'}, (r.put name (h.handled h.game) x).games.find? other = some h' →
      ∃ h₀, r.games.find? other = some h₀ ∧ h'.game = h₀.game ∧ h'.running = h₀.running := by
    intro other h' at'
    rw [games] at at'
    split at at'
    · rename_i same
      cases at'
      exact ⟨h, same ▸ found, rfl, rfl⟩
    · exact ⟨h', at', rfl, rfl⟩
  exact {
    unjoined_iff := coherent.unjoined_iff
    unjoined_nodup := coherent.unjoined_nodup
    lives := by
      intro other h' at'
      obtain ⟨h₀, found₀, game, running⟩ := back at'
      have lives := coherent.lives other h₀ found₀
      exact ⟨running ▸ lives.running, game ▸ lives.sound, game ▸ lives.name_eq, game ▸ lives.capacity_eq,
        game ▸ lives.peopled⟩
    recorded_iff := by
      intro c other
      refine (coherent.recorded_iff c other).trans ?_
      constructor
      · rintro ⟨h₀, found₀, member⟩
        by_cases same : other = name
        · subst same
          cases found.symm.trans found₀
          exact ⟨h.handled h.game, by rw [games, if_pos rfl], member⟩
        · exact ⟨h₀, by rw [games, if_neg same, found₀], member⟩
      · rintro ⟨h', at', member⟩
        obtain ⟨h₀, found₀, game, _⟩ := back at'
        exact ⟨h₀, found₀, game ▸ member⟩
    session_eq := by
      intro c m other h' team p known at' seated
      obtain ⟨h₀, found₀, game, _⟩ := back at'
      exact coherent.session_eq c m other h₀ team p known found₀ (game ▸ seated) }

theorem register (c : ConnectionId) (session : SessionRef) : (r.register c session).Coherent := by
  cases known : r.members.find? c with
  | some m =>
    rw [register_known known]
    exact coherent
  | none =>
    rw [register_new known]
    have members := Table.find?_insert r.members c (v := { game := none, session })
    -- whoever is in a roster is recorded, and `c` is not
    have unseen : ∀ name h, r.games.find? name = some h → c ∉ h.game.members := by
      intro name h found member
      have named := (coherent.recorded_iff c name).mpr ⟨h, found, member⟩
      rw [recorded?, known] at named
      cases named
    exact {
      unjoined_iff := by
        intro d
        rw [List.mem_append, List.mem_singleton, coherent.unjoined_iff, members]
        by_cases same : d = c
        · simp [same]
        · simp [same]
      unjoined_nodup := by
        rw [List.nodup_append']
        refine ⟨coherent.unjoined_nodup, List.nodup_singleton c, ?_⟩
        rw [List.disjoint_singleton, coherent.unjoined_iff, known]
        rintro ⟨m, absurd, _⟩
        cases absurd
      lives := coherent.lives
      recorded_iff := by
        intro d name
        rw [recorded?, members]
        split
        · rename_i same
          subst same
          constructor
          · intro none
            cases none
          · rintro ⟨h, found, member⟩
            exact absurd member (unseen name h found)
        · exact coherent.recorded_iff d name
      session_eq := by
        intro d m name h team p at' found seated
        rw [members] at at'
        split at at'
        · rename_i same
          subst same
          exact absurd (Game.mem_members_of_find? seated) (unseen name h found)
        · exact coherent.session_eq d m name h team p at' found seated }

/-- What has to be seen to of a change at one connection that leaves the seats of all others alone. -/
theorem change {r' : Registry} {c : ConnectionId} (members : ∀ d, d ≠ c → r'.members.find? d = r.members.find? d)
    (unjoined : r'.unjoined = r.unjoined.filter (· ≠ c))
    (joined : ∀ m, r'.members.find? c = some m → m.game ≠ none)
    (lives : ∀ name h, r'.games.find? name = some h → h.Lives name r'.capacity)
    (others : ∀ name team d p, d ≠ c → (r'.Seats name team d p ↔ r.Seats name team d p))
    (own : ∀ name, r'.recorded? c = some name ↔ ∃ team p, r'.Seats name team c p)
    (session : ∀ m name team p, r'.members.find? c = some m → r'.Seats name team c p → p.session = m.session) :
    r'.Coherent where
  unjoined_iff d := by
    rw [unjoined, List.mem_filter, decide_eq_true_eq, coherent.unjoined_iff]
    by_cases same : d = c
    · subst same
      simpa using joined
    · simp [members d same, same]
  unjoined_nodup := unjoined ▸ coherent.unjoined_nodup.filter _
  lives := lives
  recorded_iff d name := by
    rw [exists_mem_members_iff]
    by_cases same : d = c
    · exact same ▸ own name
    · simp only [others _ _ d _ same, recorded?, members d same]
      exact (coherent.recorded_iff d name).trans exists_mem_members_iff
  session_eq d m name h team p known found seated := by
    by_cases same : d = c
    · exact session m name team p (same ▸ known) ⟨h, found, same ▸ seated⟩
    · obtain ⟨k, found', seated'⟩ := (others name team d p same).mp ⟨h, found, seated⟩
      exact coherent.session_eq d m name k team p (members d same ▸ known) found' seated'

theorem not_seats_of_outside {c : ConnectionId} {m : Member} (known : r.members.find? c = some m)
    (outside : m.game = none) {name : String} {team : Team} {p : Player} : ¬r.Seats name team c p := by
  rintro ⟨h, found, seated⟩
  exact coherent.not_mem_of_outside known outside found (Game.mem_members_of_find? seated)

theorem forget {c : ConnectionId} {m : Member} (known : r.members.find? c = some m) (outside : m.game = none) :
    (r.forget c).Coherent := by
  have gone : (r.forget c).members.find? c = none := by rw [Registry.forget, Table.find?_erase, if_pos rfl]
  have nowhere : ∀ name team p, ¬(r.forget c).Seats name team c p := fun _ _ _ =>
    coherent.not_seats_of_outside known outside
  refine coherent.change ?_ rfl ?_ coherent.lives (fun _ _ _ _ _ => Iff.rfl) ?_ ?_
  · intro d other
    rw [Registry.forget, Table.find?_erase, if_neg other]
  · intro m' known'
    cases gone.symm.trans known'
  · intro name
    simp [recorded?, gone, nowhere]
  · intro m' name team p known'
    cases gone.symm.trans known'

/-- A connection that is in no game may be seated in a game, which may be a new one. -/
theorem seat {r' : Registry} {c : ConnectionId} {m : Member} {name : String} {h' : HostedGame} {team : Team}
    {p : Player} (known : r.members.find? c = some m) (outside : m.game = none)
    (games : ∀ other, r'.games.find? other = if other = name then some h' else r.games.find? other)
    (members : r'.members = r.members.modify c fun m => { m with game := some name })
    (unjoined : r'.unjoined = r.unjoined.filter (· ≠ c)) (capacity : r'.capacity = r.capacity)
    (lives : h'.Lives name r.capacity) (session : p.session = m.session)
    (seated : ∀ d side player, (h'.game.side side).find? d = some player ↔
      d = c ∧ side = team ∧ player = p ∨ d ≠ c ∧ r.Seats name side d player) : r'.Coherent := by
  have own : r'.members.find? c = some { m with game := some name } := by
    rw [members, Table.find?_modify, if_pos rfl, known, Option.map_some]
  have seats : ∀ other side d player, r'.Seats other side d player ↔
      if other = name then d = c ∧ side = team ∧ player = p ∨ d ≠ c ∧ r.Seats name side d player
      else r.Seats other side d player := by
    intro other side d player
    rw [Seats, games]
    split
    · simpa using seated d side player
    · exact Iff.rfl
  refine coherent.change ?_ unjoined ?_ ?_ ?_ ?_ ?_
  · intro d other
    rw [members, Table.find?_modify, if_neg other]
  · intro m' known'
    cases own.symm.trans known'
    exact Option.some_ne_none name
  · intro other h found
    rw [games] at found
    rw [capacity]
    split at found
    · rename_i same
      cases found
      exact same ▸ lives
    · exact coherent.lives other h found
  · intro other side d player different
    rw [seats]
    split
    · rename_i here
      simp [here, different]
    · exact Iff.rfl
  · intro other
    have nowhere : ∀ side player, ¬r.Seats other side c player := fun _ _ => coherent.not_seats_of_outside known outside
    by_cases here : other = name
    · simp [recorded?, own, seats, here]
    · simp [recorded?, own, seats, here, Ne.symm here, nowhere]
  · intro m' other side player known' seat
    cases own.symm.trans known'
    rw [seats] at seat
    split at seat
    · rcases seat with ⟨_, _, rfl⟩ | ⟨absurd, _⟩
      · exact session
      · exact (absurd rfl).elim
    · exact absurd seat (coherent.not_seats_of_outside known outside)

/-- A connection may leave its game, which goes with its last player. -/
theorem leave {r' : Registry} {c : ConnectionId} {name : String} {h : HostedGame} (h' : HostedGame)
    (found : r.games.find? name = some h) (member : c ∈ h.game.members)
    (games : ∀ other, r'.games.find? other =
      if other = name then if h'.game.size = 0 then none else some h' else r.games.find? other)
    (members : r'.members = r.members.erase c) (unjoined : r'.unjoined = r.unjoined.filter (· ≠ c))
    (capacity : r'.capacity = r.capacity) (lives : 0 < h'.game.size → h'.Lives name r.capacity)
    (seated : ∀ d side player, (h'.game.side side).find? d = some player ↔
      d ≠ c ∧ (h.game.side side).find? d = some player) :
    r'.Coherent := by
  have gone : r'.members.find? c = none := by rw [members, Table.find?_erase, if_pos rfl]
  have seats : ∀ other side d player, r'.Seats other side d player ↔ d ≠ c ∧ r.Seats other side d player := by
    intro other side d player
    rw [Seats, games]
    by_cases here : other = name
    · subst here
      rw [if_pos rfl, Seats, found]
      by_cases empty : h'.game.size = 0
      · have vacant : (h'.game.side side).find? d ≠ some player := fun there =>
          absurd empty (Nat.ne_of_gt (Game.size_pos_of_mem (Game.mem_members_of_find? there)))
        rw [ne_eq, seated] at vacant
        simpa [empty] using vacant
      · simpa [empty] using seated d side player
    · rw [if_neg here]
      refine (and_iff_right_of_imp ?_).symm
      rintro ⟨k, at', again⟩ rfl
      have one := (coherent.recorded_iff d name).mpr ⟨h, found, member⟩
      rw [(coherent.recorded_iff d other).mpr ⟨k, at', Game.mem_members_of_find? again⟩] at one
      exact here (Option.some.inj one)
  refine coherent.change ?_ unjoined ?_ ?_ ?_ ?_ ?_
  · intro d other
    rw [members, Table.find?_erase, if_neg other]
  · intro m known
    cases gone.symm.trans known
  · intro other k at'
    rw [games] at at'
    rw [capacity]
    split at at'
    · rename_i here
      split at at'
      · cases at'
      · rename_i some
        cases at'
        exact here ▸ lives (Nat.pos_of_ne_zero some)
    · exact coherent.lives other k at'
  · intro other side d player different
    rw [seats, and_iff_right different]
  · intro other
    simp [recorded?, gone, seats]
  · intro m other side player known
    cases gone.symm.trans known

end Coherent

end Registry

end Scrimmage
