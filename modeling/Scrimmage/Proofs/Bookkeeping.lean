import Scrimmage.Proofs.Interleaving

namespace Scrimmage

namespace Registry

/-- Connections that are all different, with one left over, can be numbered by words. -/
theorem length_lt_words {l : List ConnectionId} {spare : ConnectionId} (nodup : l.Nodup) (unused : spare ∉ l) :
    l.length < 2 ^ 64 := by
  have injective : Function.Injective fun c : ConnectionId => c.number.toFin := by
    rintro ⟨c⟩ ⟨d⟩ same
    exact congrArg ConnectionId.mk (UInt64.toFin_inj.mp same)
  have all : ((spare :: l).map fun c => c.number.toFin).Nodup :=
    (List.nodup_cons.mpr ⟨unused, nodup⟩).map injective
  have bound := all.length_le_card
  rw [Fintype.card_fin, List.length_map, List.length_cons] at bound
  exact bound

/-- Every game has a member of its own, and whoever asks for a game is none of these. -/
theorem Housed.size_lt {r : Registry} (housed : r.Housed) {c : ConnectionId} {m : Member}
    (known : r.members.find? c = some m) (outside : m.game = none) : r.games.size < r.members.size := by
  have inside : r.games.keys ⊆ r.members.values.filterMap (·.game) := by
    intro name key
    obtain ⟨h, found⟩ := Table.mem_keys_iff.mp key
    obtain ⟨d, member, _, there, plays⟩ := housed.peopled found
    exact List.mem_filterMap.mpr ⟨member, Table.mem_values_iff.mpr ⟨d, there⟩, plays⟩
  have fewer := List.length_filterMap_lt_length_iff_exists.mpr
    ⟨m, Table.mem_values_iff.mpr ⟨c, known⟩, outside⟩
  rw [← Table.keys_length, ← Table.values_length]
  exact Nat.lt_of_le_of_lt (r.games.keys_nodup.subperm inside).length_le fewer

theorem Housed.room {r : Registry} (housed : r.Housed) {spare c : ConnectionId} {m : Member}
    (unused : r.members.find? spare = none) (known : r.members.find? c = some m) (outside : m.game = none) :
    r.games.size < 2 ^ 64 - 1 := by
  have fewer := housed.size_lt known outside
  have few := length_lt_words r.members.keys_nodup (Table.find?_eq_none_iff.mp unused)
  rw [Table.keys_length] at few
  omega

theorem halt_hosts {r : Registry} {name : String} {h : HostedGame} (hosts : r.Hosts name h) :
    r.halt name = { r with games := r.games.modify name HostedGame.stop, tokens := r.tokens.cancel h.generation } := by
  have ref : r.gameRef? name = some ⟨name, h.generation⟩ := by rw [gameRef?, hosts.found, Option.map_some]
  have running : r.isRunning ⟨name, h.generation⟩ = true := by simp [isRunning, hosts.found, hosts.running]
  simp only [halt, ref, stopGame, running, if_true]

theorem forsake_eq {r : Registry} {a : Application} (absent : r.games.find? a.game = none) (session : SessionRef) :
    r.forsake a session =
      { r.opened with
        tokens := (r.tokens.derive.cancel r.nextGeneration).cancel r.nextGeneration
        exchange := (r.exchange.measure (·.gameCreated)).measure (·.gameRemoved) }.closed := by
  have hosts := hosts_createGame r.opened a.game
  have halted := halt_hosts hosts
  have still : ∀ h, ((r.opened.createGame a.game).2.halt a.game).games.find? (r.opened.createGame a.game).1.name =
      some h → h.running = false := by
    intro h found
    change ((r.opened.createGame a.game).2.halt a.game).games.find? a.game = some h at found
    rw [halted, Table.modify_find? _ hosts.found] at found
    cases found
    rfl
  have there : ((r.opened.createGame a.game).2.halt a.game).games.find? a.game =
      some (HostedGame.start r.nextGeneration a.game r.capacity).stop := by
    rw [halted]
    exact Table.modify_find? _ hosts.found
  simp only [forsake, enter, sendTo_stopped still, Except.bind]
  rw [removeGame_found there, halted]
  simp only [createGame, measure, opened, Table.erase_modify, Table.erase_insert_of_none _ absent]
  rfl

namespace Turnover

variable {limit : Nat} {r : Registry}

theorem forsake {a : Application} (absent : r.games.find? a.game = none) (room : r.games.size < limit)
    (session : SessionRef) : Turnover limit r (r.forsake a session) := by
  have begun : Turnover limit r (r.createGame a.game).2 := .begun absent room
  have ended := begun.trans (removeGame _ a.game)
  have absent' : ¬r.games.contains a.game = true := by rw [Table.contains_eq_false_iff.mpr absent]; decide
  rw [removeGame_found (hosts_createGame r a.game).found] at ended
  simp only [createGame, measure, Table.erase_insert_of_none _ absent] at ended
  rw [forsake_eq absent]
  exact ended.trans (.of_tables (.handled _) rfl rfl rfl)

theorem checked (r : Registry) (stopping : List String) : Turnover limit r (r.checked stopping) := by
  have stopped : Turnover limit r (stopping.foldl Registry.halt r) := by
    induction stopping generalizing r with
    | nil => exact .refl r
    | cons name stopping ih => exact (halt r name).trans (ih _)
  exact stopped.trans (reap _)

end Turnover

theorem requestChange_member_none (r : Registry) {q : RegistryRequest} {c : ConnectionId}
    (other : ∀ ref, q ≠ .register c ref) : (r.requestChange q).member c none = none := by
  cases q with
  | register d ref =>
    have elsewhere : c ≠ d := fun same => other ref (same ▸ rfl)
    simp only [requestChange, Change.register, if_neg elsewhere]
  | unregister d =>
    simp only [requestChange, Change.unregister]
    split <;> rfl
  | join a =>
    simp only [requestChange]
    split
    · rfl
    · simp only [Change.seat]
      split <;> rfl
  | _ => rfl

theorem Supervised.checked {r : Registry} (supervised : r.Supervised fun _ _ => True) (stopping : List String) :
    (r.checked stopping).Housed := by
  have stopped : (stopping.foldl Registry.halt r).Supervised fun _ _ => True := by
    induction stopping generalizing r with
    | nil => exact supervised
    | cons name stopping ih => exact ih (supervised.halt (r.halt_undergoes name))
  exact stopped.reap_housed

end Registry

namespace Server

variable {spare : ConnectionId} {s after : Server}

/-- The numbers that are given one after another are not all given. -/
theorem lt_words_of_spare {count : Nat} (others : ∀ i < count, (⟨UInt64.ofNat (i + 1)⟩ : ConnectionId) ≠ spare) :
    count < 2 ^ 64 := by
  by_contra all
  have range := spare.number.toNat_lt
  have given : ∃ i < 2 ^ 64, UInt64.ofNat (i + 1) = spare.number := by
    by_cases zero : spare.number.toNat = 0
    · refine ⟨2 ^ 64 - 1, by omega, UInt64.toNat_inj.mp ?_⟩
      rw [zero, UInt64.toNat_ofNat', Nat.sub_add_cancel Nat.one_le_two_pow, Nat.mod_self]
    · refine ⟨spare.number.toNat - 1, by omega, UInt64.toNat_inj.mp ?_⟩
      rw [UInt64.toNat_ofNat']
      omega
  obtain ⟨i, below, same⟩ := given
  exact others i (by omega) (congrArg ConnectionId.mk same)

theorem hasOpen_of_any {c : ConnectionId} : s.HasOpen c ↔ (s.session? c).any (·.phase ≠ .closed) = true := by
  simp only [HasOpen, Option.any_eq_true, decide_eq_true_eq]

/-- One session more is open in the one server than in the other one. -/
theorem openCount_without {c : ConnectionId} (isOpen : after.HasOpen c) (closed : ¬s.HasOpen c)
    (others : ∀ d, d ≠ c → s.session? d = after.session? d) : s.openCount + 1 = after.openCount := by
  obtain ⟨session, found, phase⟩ := isOpen
  refine Table.countP_values_without found (decide_eq_true phase) ?_ fun d there =>
    congrArg (Option.any _) (others d there)
  exact Bool.eq_false_of_not_eq_true fun any => closed (hasOpen_of_any.mpr any)

theorem hasOpen_iff_of_ne {c : ConnectionId} (isOpen : after.HasOpen c) (closed : ¬s.HasOpen c)
    (others : ∀ d, d ≠ c → s.session? d = after.session? d) (d : ConnectionId) :
    (after.HasOpen d ↔ s.HasOpen d ∨ d = c) ∧ (s.HasOpen d ↔ after.HasOpen d ∧ d ≠ c) := by
  by_cases here : d = c
  · subst here
    simp [isOpen, closed]
  · have same : s.HasOpen d ↔ after.HasOpen d := by rw [hasOpen_of_any, hasOpen_of_any, others d here]
    simp [here, same]

theorem session?_takeIn (s : Server) (d : ConnectionId) :
    s.takeIn.2.2.session? d = if d = s.takeIn.1 then some (.create s.takeIn.2.1) else s.session? d := by
  obtain ⟨x, _, _, _, opens⟩ := s.takeIn_opens
  rw [opens]
  exact Table.find?_insert ..

theorem session?_close {c : ConnectionId} {session : Session} (found : s.session? c = some session)
    (closing : session.phase = .closing) (ending : Ending) :
    ∃ later, (s.close c session.ref ending).session? c = some later ∧ later.phase = .closed :=
  ⟨_, session?_modifySession_self (s := s.modifyExchange _) found _, by
    simp [Session.become, closing, Phase.canBecome]⟩

theorem session?_close_ne {c d : ConnectionId} (other : d ≠ c) (ref : SessionRef) (ending : Ending) :
    (s.close c ref ending).session? d = s.session? d :=
  (session?_modifySession (s.modifyExchange _) c d _).trans (if_neg other)

/-- Sessions that are closed are not open, and there are no more of both than there are sessions. -/
theorem openCount_add_le {closed : List ConnectionId} (nodup : closed.Nodup)
    (there : ∀ c ∈ closed, ∃ session, s.session? c = some session ∧ session.phase = .closed) :
    s.openCount + closed.length ≤ s.sessions.keys.length := by
  have open_eq : s.openCount = (s.sessions.keys.filter fun c => (s.session? c).any (·.phase ≠ .closed)).length :=
    Table.countP_values ..
  have apart : (s.sessions.keys.filter fun c => (s.session? c).any (·.phase ≠ .closed)).Disjoint closed := by
    intro c isOpen inside
    obtain ⟨session, found, phase⟩ := there c inside
    obtain ⟨other, found', on⟩ := Table.mem_filter_keys_iff.mp isOpen
    cases found.symm.trans found'
    simp [phase] at on
  have both := ((s.sessions.keys_nodup.filter _).append nodup apart).subperm (List.append_subset.mpr
    ⟨List.filter_subset_self _, fun c inside => (there c inside).elim fun _ found => Table.mem_keys_of_find? found.1⟩)
  rw [open_eq, ← List.length_append]
  exact both.length_le

end Server

namespace Interleaving

open Server

variable {spare : ConnectionId} {overlap late : Bool} {t after : Interleaving} {c : ConnectionId} {session : Session}
  {entries exported : List (Tally ConnectionId × UInt64)}

namespace Exports

variable (exports : t.Exports entries exported)

include exports

theorem of_same {s : Server} (keys : s.sessions.keys = t.server.sessions.keys)
    (isOpen : ∀ d, s.HasOpen d ↔ t.server.HasOpen d) (count : s.openCount = t.server.openCount)
    (word : s.exchange.telemetry.sessions = t.server.exchange.telemetry.sessions)
    (set : s.exchange.telemetry.journal.settings sessionsGauge =
      t.server.exchange.telemetry.journal.settings sessionsGauge) :
    Exports { t with server := s } entries exported where
  books := exports.books.congr (fun d => by rw [keys]) (fun d => or_congr_left (isOpen d)) (by rw [count]) word
  shown := set.trans exports.shown
  counted := exports.counted

theorem opens (unused : spare ∉ t.server.takeIn.2.2.sessions.keys) (new : t.server.session? t.server.takeIn.1 = none)
    (nodup : t.leaving.Nodup)
    (closed : ∀ c ∈ t.leaving, ∃ session, t.server.session? c = some session ∧ session.phase = .closed) :
    Exports
      { t with
        server := t.server.takeIn.2.2.measure (·.countOpened.2)
        pending := t.pending ++ [(.came t.server.takeIn.1, t.server.exchange.telemetry.countOpened.1)] }
      ((.came t.server.takeIn.1, t.server.exchange.telemetry.sessions + 1) :: entries) exported := by
  obtain ⟨x, telemetry, _, _, opens⟩ := t.server.takeIn_opens
  have keys : t.server.takeIn.2.2.sessions.keys = t.server.sessions.keys ++ [t.server.takeIn.1] := by
    rw [opens] at new ⊢
    exact Table.keys_insert_of_none _ new
  have isOpen : t.server.takeIn.2.2.HasOpen t.server.takeIn.1 :=
    ⟨_, (session?_takeIn ..).trans (if_pos rfl), Phase.noConfusion⟩
  have closed' : ¬t.server.HasOpen t.server.takeIn.1 := by
    rintro ⟨session, there, _⟩
    cases new.symm.trans there
  have elsewhere : ∀ d, d ≠ t.server.takeIn.1 → t.server.session? d = t.server.takeIn.2.2.session? d :=
    fun d there => by rw [session?_takeIn, if_neg there]
  have more := openCount_without isOpen closed' elsewhere
  have room : t.server.openCount + t.leaving.length + 1 < 2 ^ 64 := by
    have few := Registry.length_lt_words (Table.keys_nodup _) unused
    have most := openCount_add_le nodup closed
    rw [keys, List.length_append, List.length_singleton] at few
    omega
  have knows : ∀ d, d ∈ t.server.takeIn.2.2.sessions.keys ↔ d ∈ t.server.sessions.keys ∨ d = t.server.takeIn.1 :=
    fun d => by rw [keys, List.mem_append, List.mem_singleton]
  have presents : ∀ d, t.server.takeIn.2.2.HasOpen d ∨ d ∈ t.leaving ↔ t.StillCounts d ∨ d = t.server.takeIn.1 :=
    fun d => by rw [(hasOpen_iff_of_ne isOpen closed' elsewhere d).1, StillCounts, or_right_comm]
  have word : t.server.takeIn.2.2.exchange.telemetry = t.server.exchange.telemetry := by
    rw [opens]
    exact telemetry
  have entered := exports.books.come (Table.find?_eq_none_iff.mp new) room knows presents
  exact {
    books := entered.congr (fun _ => .rfl) (fun _ => .rfl) (by rw [Nat.add_right_comm, more]; rfl)
      (congrArg (Telemetry.sessions · + 1) word)
    shown := (congrArg (fun own : Telemetry => own.journal.settings sessionsGauge) word).trans exports.shown
    counted := by
      rw [List.append_assoc]
      exact List.perm_middle.trans (exports.counted.cons _) }

theorem closes (found : t.server.session? c = some session) (closing : session.phase = .closing) (ending : Ending) :
    Exports { t with server := t.server.close c session.ref ending, leaving := t.leaving ++ [c] } entries exported := by
  have isOpen : t.server.HasOpen c := ⟨session, found, by rw [closing]; decide⟩
  have closed : ¬(t.server.close c session.ref ending).HasOpen c := by
    rintro ⟨other, there, still⟩
    obtain ⟨later, now, phase⟩ := session?_close found closing ending
    cases now.symm.trans there
    exact still phase
  have elsewhere : ∀ d, d ≠ c → (t.server.close c session.ref ending).session? d = t.server.session? d :=
    fun d there => session?_close_ne there session.ref ending
  have fewer := openCount_without isOpen closed elsewhere
  have keys : (t.server.close c session.ref ending).sessions.keys = t.server.sessions.keys := Table.keys_modify ..
  exact {
    books := by
      refine exports.books.congr (fun d => by rw [keys]) (fun d => ?_) ?_ rfl
      · rw [StillCounts, StillCounts, (hasOpen_iff_of_ne isOpen closed elsewhere d).1, List.mem_append,
          List.mem_singleton, or_right_comm, or_assoc]
      · rw [← fewer, List.length_append, List.length_singleton]
        dsimp only
        omega
    shown := exports.shown
    counted := exports.counted }

theorem leaves (nodup : t.leaving.Nodup) (inside : c ∈ t.leaving) (found : t.server.session? c = some session)
    (closed : session.phase = .closed) :
    Exports
      { server := t.server.measure (·.countClosed.2)
        leaving := t.leaving.erase c
        pending := t.pending ++ [(.went c, t.server.exchange.telemetry.countClosed.1)] }
      ((.went c, t.server.exchange.telemetry.sessions - 1) :: entries) exported := by
  have gone : ¬t.server.HasOpen c := by
    rintro ⟨other, there, phase⟩
    cases found.symm.trans there
    exact phase closed
  have fewer : t.server.openCount + (t.leaving.erase c).length + 1 = t.server.openCount + t.leaving.length := by
    have positive := List.length_pos_of_mem inside
    rw [List.length_erase_of_mem inside]
    omega
  have presents : ∀ d, t.server.HasOpen d ∨ d ∈ t.leaving.erase c ↔ t.StillCounts d ∧ d ≠ c := by
    intro d
    rw [nodup.mem_erase_iff, StillCounts, or_and_right, and_comm (a := d ≠ c)]
    exact or_congr_left ⟨fun there => ⟨there, fun same => gone (same ▸ there)⟩, And.left⟩
  have some : 0 < t.server.exchange.telemetry.sessions.toNat := by
    rw [exports.books.exact, ← fewer]
    exact Nat.succ_pos _
  have value : t.server.exchange.telemetry.countClosed.1 = t.server.exchange.telemetry.sessions - 1 :=
    Telemetry.lowered_eq some
  exact {
    books := exports.books.go (Table.mem_keys_of_find? found) (Or.inr inside) fewer presents
    shown := exports.shown
    counted := by
      rw [value, List.append_assoc]
      exact List.perm_middle.trans (exports.counted.cons _) }

theorem shows {entry : Tally ConnectionId × UInt64} (inside : entry ∈ t.pending) :
    Exports
      { t with server := t.server.measure (·.showSessions entry.2), pending := t.pending.erase entry }
      entries (entry :: exported) where
  books := exports.books
  shown := congrArg (entry.2 :: ·) exports.shown
  counted := (List.perm_middle.trans ((List.perm_cons_erase inside).symm.append_right exported)).trans exports.counted

end Exports

/-- The books of games and sessions are kept through every step of an interleaving. A session that is about to
be counted out is closed already, sessions that are counted in turn leave at most one export pending, and the
spare number has not been used. -/
structure Booked (spare : ConnectionId) (overlap late : Bool) (t : Interleaving) : Prop where
  games : ∃ entries, t.server.registry.Accounts entries
  sessions : ∃ entries exported, t.Exports entries exported ∧
    (overlap = false → t.pending.length ≤ 1 ∧ entries = t.pending ++ exported)
  nodup : t.leaving.Nodup
  closed : ∀ c ∈ t.leaving, ∃ session, t.server.session? c = some session ∧ session.phase = .closed
  kept : t.server.registry.running = true ∨ late = false → t.server.registry.abandoned = []
  housed : t.server.registry.Housed
  unused : t.server.registry.members.find? spare = none
  numbered : ∃ count, t.server.Numbered count ∧ ∀ i < count, (⟨UInt64.ofNat (i + 1)⟩ : ConnectionId) ≠ spare

namespace Booked

variable (booked : t.Booked spare overlap late)

include booked

theorem abandoned_lt : t.server.registry.abandoned.length < 2 ^ 64 := by
  obtain ⟨entries, accounts⟩ := booked.games
  have range := t.server.registry.exchange.telemetry.games.toNat_lt
  rw [accounts.books.exact] at range
  omega

theorem registry {r : Registry} (games : ∃ entries, r.Accounts entries)
    (word : r.exchange.telemetry.sessions = t.server.exchange.telemetry.sessions)
    (set : r.exchange.telemetry.journal.settings sessionsGauge =
      t.server.exchange.telemetry.journal.settings sessionsGauge)
    (kept : r.running = true ∨ late = false → r.abandoned = []) (housed : r.Housed)
    (unused : r.members.find? spare = none) :
    Booked spare overlap late { t with server := { t.server with registry := r } } := by
  obtain ⟨entries, exported, exports, inOrder⟩ := booked.sessions
  obtain ⟨count, numbered, others⟩ := booked.numbered
  exact { booked with
    games, kept, housed, unused
    sessions := ⟨entries, exported, exports.of_same rfl (fun _ => .rfl) rfl word set, inOrder⟩
    numbered := ⟨count, numbered.of_same (registry_sameNumbers ..), others⟩ }

/-- The registry goes on with its games, which are entered as they come and go. -/
theorem turnover {limit : Nat} {r : Registry} (turnover : Registry.Turnover limit t.server.registry r)
    (room : limit + t.server.registry.abandoned.length < 2 ^ 64) (running : r.running = t.server.registry.running)
    (housed : r.Housed) (unused : r.members.find? spare = none) :
    Booked spare overlap late { t with server := { t.server with registry := r } } := by
  obtain ⟨entries, accounts⟩ := booked.games
  obtain ⟨more, games⟩ := turnover.accounts room accounts
  obtain ⟨word, set⟩ := turnover.sessions
  exact booked.registry ⟨_, games⟩ word set
    (fun due => turnover.abandoned.trans (booked.kept (due.imp_left running.symm.trans))) housed unused

/-- A registry that runs has room for as many games as there are connections. -/
theorem room_of_running (running : t.server.registry.running = true) :
    2 ^ 64 - 1 + t.server.registry.abandoned.length < 2 ^ 64 := by
  rw [booked.kept (Or.inl running)]
  decide

theorem touch (c : ConnectionId) {f : Session → Session}
    (same : ∀ session, (f session).phase = .closed ↔ session.phase = .closed) :
    Booked spare overlap late { t with server := t.server.modifySession c f } := by
  obtain ⟨entries, exported, exports, inOrder⟩ := booked.sessions
  obtain ⟨count, numbered, others⟩ := booked.numbered
  have any : ∀ d, ((t.server.modifySession c f).session? d).any (·.phase ≠ .closed) =
      (t.server.session? d).any (·.phase ≠ .closed) := by
    intro d
    rw [session?_modifySession]
    split
    · cases t.server.session? d <;> simp [same]
    · rfl
  have isOpen : ∀ d, (t.server.modifySession c f).HasOpen d ↔ t.server.HasOpen d := fun d =>
    (hasOpen_of_any (s := t.server.modifySession c f)).trans ((any d).symm ▸ hasOpen_of_any.symm)
  exact { booked with
    sessions := ⟨entries, exported,
      exports.of_same (Table.keys_modify ..) isOpen (Table.countP_values_eq any) rfl rfl, inOrder⟩
    closed := by
      intro d inside
      obtain ⟨session, found, closed⟩ := booked.closed d inside
      rw [session?_modifySession]
      split
      · exact ⟨f session, by rw [found, Option.map_some], (same session).mpr closed⟩
      · exact ⟨session, found, closed⟩
    numbered := ⟨count, numbered.of_same (modifySession_sameNumbers ..), others⟩ }

/-- A message is handled that does not register the spare number. -/
theorem handles {q : RegistryRequest} (other : ∀ ref, q ≠ .register spare ref) (stopping : List String) :
    Booked spare overlap late
      { t with
        server := { t.server with registry := (t.server.registry.handle q).2.checked stopping } } := by
  have housed := (booked.housed.supervised.handle q).checked stopping
  have unused : ((t.server.registry.handle q).2.checked stopping).members.find? spare = none := by
    rw [(Registry.checked_same ..).2, (t.server.registry.handle_undergoes q).member, booked.unused]
    split
    · exact t.server.registry.requestChange_member_none other
    · rfl
  cases running : t.server.registry.running with
  | true =>
    have room : t.server.registry.HasRoom (2 ^ 64 - 1) q := fun a m _ known outside =>
      booked.housed.room booked.unused known outside
    refine booked.turnover ((Registry.Turnover.handle room).trans (.checked _ stopping))
      (booked.room_of_running running)
      ?_ housed unused
    have standing := (t.server.registry.handle_undergoes q).standing
    rw [if_pos running] at standing
    exact ((Registry.running_checked ..).trans (congrArg Standing.running standing)).trans
      (t.server.registry.standing_requestChange q _).2.1
  | false =>
    rw [Registry.handle_stopped running] at housed unused ⊢
    exact booked.turnover (.checked _ stopping) ((Nat.zero_add _).trans_lt booked.abandoned_lt)
      (Registry.running_checked ..) housed unused

theorem forsakes {a : Application} {m : Member} (stopping : List String) (running : t.server.registry.running = true)
    (known : t.server.registry.members.find? a.connection = some m) (outside : m.game = none)
    (absent : t.server.registry.games.find? a.game = none) :
    Booked spare overlap late
      { t with
        server := { t.server with registry := (t.server.registry.forsake a m.session).checked stopping } } := by
  have room := booked.housed.room booked.unused known outside
  have housed : (t.server.registry.forsake a m.session).Housed := by
    rw [Registry.forsake_eq absent]
    exact booked.housed.of_same
      ⟨booked.housed.supervised.listed.unjoined_iff, booked.housed.supervised.listed.nodup⟩ rfl (fun _ => rfl)
      fun _ => rfl
  refine booked.turnover ((Registry.Turnover.forsake absent room m.session).trans (.checked _ stopping))
    (booked.room_of_running running) ?_ (housed.supervised.checked stopping) ?_
  · rw [Registry.running_checked, Registry.forsake_eq absent]
    rfl
  · rw [(Registry.checked_same ..).2, Registry.forsake_eq absent]
    exact booked.unused

/-- The registry ends, and what it leaves behind stays in the books. -/
theorem ends (running : t.server.registry.running = true)
    (due : late = false → t.server.registry.deadline?.isSome = true) :
    Booked spare overlap late { t with server := { t.server with registry := t.server.registry.finish } } := by
  obtain ⟨entries, accounts⟩ := booked.games
  obtain ⟨more, games⟩ := accounts.finish booked.abandoned_lt
  obtain ⟨word, set⟩ := t.server.registry.sessions_finish
  refine booked.registry ⟨_, games⟩ word set (fun kept => ?_) booked.housed.supervised.finish_housed
    ((t.server.registry.finish_undergoes.member spare).trans booked.unused)
  obtain ⟨deadline, waits⟩ := Option.isSome_iff_exists.mp (due (kept.resolve_left Bool.false_ne_true))
  exact (Registry.abandoned_finish_of_deadline waits).trans (booked.kept (Or.inl running))

theorem actor {s : Server} (step : t.server.ActorStep spare late s) :
    Booked spare overlap late { t with server := s } := by
  have room : 0 + t.server.registry.abandoned.length < 2 ^ 64 := (Nat.zero_add _).trans_lt booked.abandoned_lt
  cases step with
  | touch c f same => exact booked.touch c same
  | handles q stopping other => exact booked.handles other stopping
  | forsakes stopping running _ known outside absent => exact booked.forsakes stopping running known outside absent
  | message ref q isOpen =>
    obtain ⟨outbox, undergoes⟩ := t.server.registry.askGame_still ref isOpen
    exact booked.turnover (.askGame ..) room (congrArg Standing.running undergoes.standing)
      (booked.housed.askGame ref isOpen) ((undergoes.member spare).trans booked.unused)
  | halt name =>
    have undergoes := t.server.registry.halt_undergoes name
    exact booked.turnover (.halt ..) room (congrArg Standing.running undergoes.standing) (booked.housed.halt name)
      ((undergoes.member spare).trans booked.unused)
  | told =>
    have housed : t.server.registry.cancelAll.Housed := booked.housed.of_same
      ⟨booked.housed.supervised.listed.unjoined_iff, booked.housed.supervised.listed.nodup⟩ rfl (fun _ => rfl)
      fun _ => rfl
    exact booked.turnover (.of_tables .rfl rfl rfl rfl) room rfl housed booked.unused
  | ends running _ due => exact booked.ends running due
  | queues x gauges =>
    exact booked.turnover (.of_tables gauges rfl rfl rfl) room rfl (booked.housed.queues x) booked.unused
  | cancels =>
    obtain ⟨count, numbered, others⟩ := booked.numbered
    obtain ⟨entries, exported, exports, inOrder⟩ := booked.sessions
    exact { booked with
      sessions := ⟨entries, exported, exports.of_same rfl (fun _ => .rfl) rfl rfl rfl, inOrder⟩
      numbered := ⟨count, ⟨numbered.next, numbered.given⟩, others⟩ }

theorem opens (own : t.server.takeIn.1 ≠ spare) (alone : overlap = false → t.pending = []) :
    Booked spare overlap late
      { t with
        server := t.server.takeIn.2.2.measure (·.countOpened.2)
        pending := t.pending ++ [(.came t.server.takeIn.1, t.server.exchange.telemetry.countOpened.1)] } := by
  obtain ⟨games, accounts⟩ := booked.games
  obtain ⟨entries, exported, exports, inOrder⟩ := booked.sessions
  obtain ⟨count, numbered, others⟩ := booked.numbered
  have new := numbered.new (lt_words_of_spare others)
  have number : t.server.takeIn.1 = ⟨UInt64.ofNat (count + 1)⟩ := congrArg ConnectionId.mk numbered.next
  have later : ∀ i < count + 1, (⟨UInt64.ofNat (i + 1)⟩ : ConnectionId) ≠ spare := by
    intro i below
    rcases Nat.lt_succ_iff_lt_or_eq.mp below with before | rfl
    · exact others i before
    · exact number ▸ own
  have opened : t.server.takeIn.2.2.Numbered (count + 1) := ⟨numbered.opened.next, numbered.opened.given⟩
  have unused : spare ∉ t.server.takeIn.2.2.sessions.keys := by
    intro inside
    obtain ⟨i, below, same⟩ := opened.given spare inside
    exact later i below same.symm
  have entered := exports.opens unused new booked.nodup booked.closed
  obtain ⟨x, telemetry, _, _, opens⟩ := t.server.takeIn_opens
  have found : ∀ d session, t.server.session? d = some session → t.server.takeIn.2.2.session? d = some session := by
    intro d session before
    have elsewhere : d ≠ t.server.takeIn.1 := by
      rintro rfl
      cases new.symm.trans before
    exact (session?_takeIn ..).trans ((if_neg elsewhere).trans before)
  have word : x.telemetry.games = t.server.exchange.telemetry.games := congrArg Telemetry.games telemetry
  have set : x.telemetry.journal.settings gamesGauge = t.server.exchange.telemetry.journal.settings gamesGauge := by
    rw [telemetry]
  have registry : (t.server.takeIn.2.2.measure (·.countOpened.2)).registry =
      { t.server.registry with exchange := x.measure (·.countOpened.2) } := by
    rw [opens]
    rfl
  exact {
    games := ⟨games, by
      rw [registry]
      exact accounts.queues word set⟩
    sessions := ⟨_, exported, entered, fun inTurn => by
      obtain ⟨_, same⟩ := inOrder inTurn
      rw [same, alone inTurn]
      exact ⟨le_rfl, rfl⟩⟩
    nodup := booked.nodup
    closed := fun c inside => (booked.closed c inside).imp fun session there => ⟨found c session there.1, there.2⟩
    kept := by
      rw [registry]
      exact booked.kept
    housed := registry ▸ booked.housed.queues _
    unused := by
      rw [registry]
      exact booked.unused
    numbered := ⟨count + 1, ⟨opened.next, opened.given⟩, later⟩ }

theorem closes (ending : Ending) (found : t.server.session? c = some session) (closing : session.phase = .closing) :
    Booked spare overlap late
      { t with server := t.server.close c session.ref ending, leaving := t.leaving ++ [c] } := by
  obtain ⟨games, accounts⟩ := booked.games
  obtain ⟨entries, exported, exports, inOrder⟩ := booked.sessions
  obtain ⟨count, numbered, others⟩ := booked.numbered
  have new : c ∉ t.leaving := by
    intro inside
    obtain ⟨other, there, phase⟩ := booked.closed c inside
    cases found.symm.trans there
    cases closing.symm.trans phase
  exact {
    games := ⟨games, accounts.queues rfl rfl⟩
    sessions := ⟨entries, exported, exports.closes found closing ending, inOrder⟩
    nodup := booked.nodup.append (List.nodup_singleton c) (by simpa using new)
    closed := by
      intro d inside
      rcases List.mem_append.mp inside with before | here
      · obtain ⟨other, there, phase⟩ := booked.closed d before
        have elsewhere : c ≠ d := fun same => new (same ▸ before)
        exact ⟨other, (session?_close_ne elsewhere.symm ..).trans there, phase⟩
      · cases List.mem_singleton.mp here
        exact session?_close found closing ending
    kept := booked.kept
    housed := booked.housed.queues _
    unused := booked.unused
    numbered := ⟨count, numbered.of_same ⟨Table.keys_modify .., rfl⟩, others⟩ }

theorem leaves (inside : c ∈ t.leaving) (alone : overlap = false → t.pending = []) :
    Booked spare overlap late
      { server := t.server.measure (·.countClosed.2)
        leaving := t.leaving.erase c
        pending := t.pending ++ [(.went c, t.server.exchange.telemetry.countClosed.1)] } := by
  obtain ⟨games, accounts⟩ := booked.games
  obtain ⟨entries, exported, exports, inOrder⟩ := booked.sessions
  obtain ⟨count, numbered, others⟩ := booked.numbered
  obtain ⟨session, found, closed⟩ := booked.closed c inside
  have some : 0 < t.server.exchange.telemetry.sessions.toNat := by
    rw [exports.books.exact]
    exact Nat.add_pos_right _ (List.length_pos_of_mem inside)
  exact {
    games := ⟨games, accounts.queues rfl rfl⟩
    sessions := ⟨_, exported, exports.leaves booked.nodup inside found closed, fun inTurn => by
      obtain ⟨_, same⟩ := inOrder inTurn
      rw [same, alone inTurn, ← Telemetry.lowered_eq some]
      exact ⟨le_rfl, rfl⟩⟩
    nodup := booked.nodup.erase c
    closed := fun d there => booked.closed d (List.mem_of_mem_erase there)
    kept := booked.kept
    housed := booked.housed.queues _
    unused := booked.unused
    numbered := ⟨count, ⟨numbered.next, numbered.given⟩, others⟩ }

theorem shows {entry : Tally ConnectionId × UInt64} (inside : entry ∈ t.pending) :
    Booked spare overlap late
      { t with server := t.server.measure (·.showSessions entry.2), pending := t.pending.erase entry } := by
  obtain ⟨games, accounts⟩ := booked.games
  obtain ⟨entries, exported, exports, inOrder⟩ := booked.sessions
  obtain ⟨count, numbered, others⟩ := booked.numbered
  exact {
    games := ⟨games, accounts.queues rfl rfl⟩
    sessions := ⟨entries, _, exports.shows inside, fun inTurn => by
      -- it is the only one that is pending
      obtain ⟨few, same⟩ := inOrder inTurn
      obtain ⟨only, rest⟩ := List.length_eq_one_iff.mp (le_antisymm few (List.length_pos_of_mem inside))
      rw [rest, List.mem_singleton] at inside
      rw [same, rest, inside]
      simp⟩
    nodup := booked.nodup
    closed := booked.closed
    kept := booked.kept
    housed := booked.housed.queues _
    unused := booked.unused
    numbered := ⟨count, ⟨numbered.next, numbered.given⟩, others⟩ }

end Booked

theorem Step.booked (step : Step spare overlap late t after) (booked : t.Booked spare overlap late) :
    after.Booked spare overlap late := by
  cases step with
  | actor step => exact booked.actor step
  | opens own alone => exact booked.opens own alone
  | closes ending found closing => exact booked.closes ending found closing
  | leaves inside alone => exact booked.leaves inside alone
  | shows inside => exact booked.shows inside

theorem Steps.booked (steps : Steps spare overlap late t after) (booked : t.Booked spare overlap late) :
    after.Booked spare overlap late := by
  induction steps with
  | refl => exact booked
  | tail _ step ih => exact step.booked ih

/-- Sessions that are counted one after another set the gauge in the same order. -/
theorem Booked.sessionsShown (booked : t.Booked spare overlap late) (inTurn : overlap = false)
    (nothing : t.pending = []) : t.server.exchange.telemetry.journal.gauge? sessionsGauge =
      if t.server.sessions.keys = [] then none else some t.server.exchange.telemetry.sessions := by
  obtain ⟨entries, exported, exports, inOrder⟩ := booked.sessions
  obtain ⟨_, same⟩ := inOrder inTurn
  rw [nothing, List.nil_append] at same
  rw [Journal.gauge?_eq, exports.shown, List.head?_map, ← same]
  split
  · rename_i none
    exact exports.books.head?_of_none fun c => none ▸ List.not_mem_nil
  · rename_i some
    obtain ⟨c, inside⟩ := List.exists_mem_of_ne_nil _ some
    exact exports.books.head?_of_known inside

end Interleaving

namespace Server

variable {spare : ConnectionId} {late : Bool} {s : Server}

/-- A message is handled, and some games stop before the registry looks after them. -/
def afterHandling (s : Server) (q : RegistryRequest) (stopping : List String) : Server :=
  { s with registry := (s.registry.handle q).2.checked stopping }

/-- Two sessions begin, and one of them plays. -/
def opening : Server :=
  let s := (create 2 1000).openSession.2.2.openSession.2.2
  let s := s.afterHandling (.register ⟨1⟩ ⟨⟨1⟩, 0⟩) []
  let s := s.afterHandling (.register ⟨2⟩ ⟨⟨2⟩, 1⟩) []
  s.afterHandling (.join ⟨⟨1⟩, "ring", "Ada", .first, none⟩) []

end Server

namespace Interleaving

open Server

/-- A session has begun and been counted, and has not set the gauge. -/
def counted : Interleaving :=
  { server := (create 2 1000).takeIn.2.2.measure (·.countOpened.2), leaving := [], pending := [(.came ⟨1⟩, 1)] }

end Interleaving

end Scrimmage
