import Scrimmage.Proofs.Hall

namespace Scrimmage

/-- The counts are the same, and the gauges have not been set in between. -/
structure Telemetry.SameGauges (t t' : Telemetry) : Prop where
  games : t'.games = t.games
  sessions : t'.sessions = t.sessions
  set : t'.journal.filterMap Measurement.gauge? = t.journal.filterMap Measurement.gauge?

namespace Telemetry.SameGauges

theorem rfl {t : Telemetry} : t.SameGauges t := ⟨.refl _, .refl _, .refl _⟩

theorem trans {t u v : Telemetry} (first : t.SameGauges u) (second : u.SameGauges v) : t.SameGauges v :=
  ⟨second.games.trans first.games, second.sessions.trans first.sessions, second.set.trans first.set⟩

theorem of_eq {t t' : Telemetry} (same : t' = t) : t.SameGauges t' := same ▸ rfl

theorem handled (t : Telemetry) : t.SameGauges t.messageHandled := ⟨.refl _, .refl _, .refl _⟩

theorem record (t : Telemetry) {m : Measurement} (other : m.gauge? = none) : t.SameGauges (t.record m) :=
  ⟨.refl _, .refl _, List.filterMap_cons_none other⟩

end Telemetry.SameGauges

open Telemetry (SameGauges)

theorem Game.answer_sameGauges (g : Game) (depth : UInt64) (x : Exchange) (q : GameRequest) :
    x.telemetry.SameGauges (g.answer depth x q).2.2.telemetry := by
  cases q with
  | join e =>
    cases placed : g.place e with
    | error failure =>
      simp only [answer, join, placed]
      exact .rfl
    | ok outcome =>
      simp only [answer, join, placed]
      exact .of_eq (Exchange.telemetry_offer ..)
  | broadcast p =>
    have relayed := SameGauges.of_eq (telemetry_relay x p (g.players.map (·.session)))
    exact relayed.trans (.record _ rfl)
  | _ => exact .rfl

namespace Registry

theorem mem_keys_erase {t : Table String HostedGame} {name other : String} :
    other ∈ (t.erase name).keys ↔ other ∈ t.keys ∧ other ≠ name := by
  rw [Table.keys_erase, List.mem_filter, decide_eq_true_eq]

theorem find?_foldl_erase (t : Table String HostedGame) (names : List String) (name : String) :
    (names.foldl Table.erase t).find? name = if name ∈ names then none else t.find? name := by
  induction names generalizing t with
  | nil => simp
  | cons other names ih =>
    rw [List.foldl_cons, ih, Table.find?_erase]
    by_cases here : name = other <;> simp [here]

theorem measure_foldl (r : Registry) (names : List String) (f : Telemetry → Telemetry) :
    names.foldl (fun r _ => r.measure f) r =
      { r with exchange := names.foldl (fun x _ => x.measure f) r.exchange } := by
  induction names generalizing r with
  | nil => rfl
  | cons name names ih => exact ih (r.measure f)

/-- What is done to a table of games that is never larger than `limit` when a game is begun. Everything comes to
this, over and over: a game is begun and counted, a game is taken out and counted as gone, or nothing happens to
the table and the gauges stay. -/
inductive Turnover (limit : Nat) : Registry → Registry → Prop
  /-- The table has the same games. -/
  | still {r after : Registry} : r.exchange.telemetry.SameGauges after.exchange.telemetry →
      (∀ name, (after.games.find? name).map (·.generation) = (r.games.find? name).map (·.generation)) →
      after.nextGeneration = r.nextGeneration → after.abandoned = r.abandoned → Turnover limit r after
  | begun {r : Registry} {name : String} : r.games.find? name = none → r.games.size < limit →
      Turnover limit r (r.createGame name).2
  | gone {r : Registry} {name : String} {h : HostedGame} : r.games.find? name = some h →
      Turnover limit r ({ r with games := r.games.erase name }.measure (·.gameRemoved))
  | trans {r between after : Registry} : Turnover limit r between → Turnover limit between after →
      Turnover limit r after

/-- There is room for the game that a request may need. -/
def HasRoom (r : Registry) (limit : Nat) (q : RegistryRequest) : Prop :=
  ∀ a m, q = .join a → r.members.find? a.connection = some m → m.game = none → r.games.size < limit

namespace Turnover

variable {limit : Nat} {r between after : Registry}

theorem refl (r : Registry) : Turnover limit r r := .still .rfl (fun _ => rfl) rfl rfl

theorem of_tables (gauges : r.exchange.telemetry.SameGauges after.exchange.telemetry) (games : after.games = r.games)
    (next : after.nextGeneration = r.nextGeneration) (abandoned : after.abandoned = r.abandoned) :
    Turnover limit r after :=
  .still gauges (fun _ => by rw [games]) next abandoned

/-- Nothing is abandoned as long as the registry does not break off. -/
theorem abandoned (turnover : Turnover limit r after) : after.abandoned = r.abandoned := by
  induction turnover with
  | still _ _ _ same => exact same
  | begun => rfl
  | gone => rfl
  | trans _ _ first second => exact second.trans first

theorem put {name : String} {h : HostedGame} (hosts : r.Hosts name h) (game : Game) {x : Exchange}
    (gauges : r.exchange.telemetry.SameGauges x.telemetry) : Turnover limit r (r.put name (h.handled game) x) := by
  refine .still gauges (fun other => ?_) rfl rfl
  rw [find?_put hosts]
  split
  · rename_i here
    rw [here, hosts.found]
    rfl
  · rfl

theorem sendTo {α : Type} (r : Registry) (ref : GameRef) {f : Game → UInt64 → Exchange → α × Game × Exchange}
    (gauges : ∀ g depth (x : Exchange), x.telemetry.SameGauges (f g depth x).2.2.telemetry) :
    Turnover limit r (r.sendTo ref f).2 := by
  obtain ⟨name, generation⟩ := ref
  rcases r.sendTo_cases ⟨name, generation⟩ f with ⟨h, hosts, same⟩ | nothing
  · cases same
    rw [sendTo_hosts hosts]
    exact put hosts _ ((gauges ..).trans (.handled _))
  · rw [nothing]
    exact .refl r

theorem askGame (r : Registry) (ref : GameRef) (q : GameRequest) : Turnover limit r (r.askGame ref q).2 :=
  sendTo r ref fun g depth x => g.answer_sameGauges depth x q

theorem removeGame (r : Registry) (name : String) : Turnover limit r (r.removeGame name) := by
  cases found : r.games.find? name with
  | none =>
    rw [removeGame_absent found]
    exact .refl r
  | some h =>
    rw [removeGame_found found]
    exact (gone found).trans (.of_tables .rfl rfl rfl rfl)

theorem register (r : Registry) (c : ConnectionId) (session : SessionRef) :
    Turnover limit r (r.register c session) := by
  rw [Registry.register]
  split
  · exact .refl r
  · exact .of_tables .rfl rfl rfl rfl

theorem forget (r : Registry) (c : ConnectionId) : Turnover limit r (r.forget c) := .of_tables .rfl rfl rfl rfl

theorem departed {name : String} {h : HostedGame} (hosts : r.Hosts name h) (c : ConnectionId) :
    Turnover limit r (r.departed c name h) := by
  have hosts' : (r.forget c).Hosts name h := ⟨hosts.found, hosts.running⟩
  have left : Turnover limit r _ := (forget r c).trans
    (put hosts' (h.game.leave c).2 (x := r.exchange.measure (·.messageHandled)) (.handled _))
  rw [Registry.departed]
  split
  · exact left.trans (removeGame _ name)
  · exact left

theorem unregister (r : Registry) (c : ConnectionId) : Turnover limit r (r.unregister c).2 := by
  cases known : r.members.find? c with
  | none =>
    rw [unregister_unknown known]
    exact .refl r
  | some m =>
    cases inside : m.game with
    | none =>
      rw [unregister_unjoined known inside]
      exact forget r c
    | some name =>
      by_cases hosted : ∃ h, r.Hosts name h
      · obtain ⟨h, hosts⟩ := hosted
        rw [unregister_joined known inside hosts]
        exact departed hosts c
      · have still : ∀ h, r.games.find? name = some h → h.running = false := fun h found =>
          Bool.eq_false_of_not_eq_true fun running => hosted ⟨h, found, running⟩
        rw [unregister_stale known inside still]
        exact forget r c

theorem seated {a : Application} {h : HostedGame} (hosts : r.Hosts a.game h) (m : Member) (placement : Placement) :
    Turnover limit r (r.seated a m h placement) := by
  have gauges : r.exchange.telemetry.SameGauges
      ((r.exchange.offer m.session (.write (Game.welcome a.id placement))).measure (·.messageHandled)).telemetry :=
    (SameGauges.of_eq (Exchange.telemetry_offer ..)).trans (.handled _)
  exact (put hosts _ gauges).trans (.of_tables .rfl rfl rfl rfl)

/-- A game that is begun for an applicant and refuses it is counted as gone again. -/
theorem refused {name : String} (absent : r.games.find? name = none) (room : r.games.size < limit) :
    Turnover limit r
      { r with
        tokens := r.tokens.derive.cancel r.nextGeneration
        exchange := ((r.exchange.measure (·.gameCreated)).measure (·.messageHandled)).measure (·.gameRemoved) } := by
  have hosts := hosts_createGame r name
  have asked : Turnover limit (r.createGame name).2 _ :=
    put hosts (Game.create name r.capacity) (x := (r.createGame name).2.exchange.measure (·.messageHandled))
      (.handled _)
  have ended := ((begun absent room).trans asked).trans (removeGame _ name)
  rwa [removeGame_createGame absent rfl] at ended

theorem joins {a : Application} {outcome : Except Failure Admission} (joins : r.Joins a outcome after)
    (room : r.HasRoom limit (.join a)) : Turnover limit r after := by
  cases joins with
  | refused _ _ _ hosts => exact put hosts _ (.handled _)
  | admitted _ _ _ hosts => exact seated hosts _ _
  | refusedNew _ known outside absent => exact refused absent (room a _ rfl known outside)
  | admittedNew _ known outside absent =>
    exact (begun absent (room a _ rfl known outside)).trans (seated (hosts_createGame r a.game) _ _)
  | _ => exact .refl r

theorem answer {q : RegistryRequest} (room : r.HasRoom limit q) : Turnover limit r (r.answer q).2 := by
  cases q with
  | register c session => exact register r c session
  | unregister c => exact unregister r c
  | join a => exact joins (r.join_joins a) room
  | listing name =>
    have asked : Turnover limit r (r.listing name).2 := by
      rw [Registry.listing]
      split
      · exact .refl r
      · exact sendTo r _ fun _ _ _ => .rfl
    exact asked
  | _ => exact .of_tables .rfl rfl rfl rfl

theorem handle {q : RegistryRequest} (room : r.HasRoom limit q) : Turnover limit r (r.handle q).2 := by
  cases running : r.running with
  | false =>
    rw [handle_stopped running]
    exact .refl r
  | true =>
    have opened : Turnover limit r r.opened := .of_tables .rfl rfl rfl rfl
    rw [handle_running running]
    exact (opened.trans (answer (r := r.opened) room)).trans (.of_tables (.handled _) rfl rfl rfl)

theorem closeSessions (r : Registry) (reason : String) (sessions : List SessionRef) :
    Turnover limit r (r.closeSessions reason sessions) :=
  .of_tables (.of_eq (Exchange.telemetry_offers ..)) rfl rfl rfl

theorem reapGames {names : List String} (nodup : names.Nodup) (there : ∀ name ∈ names, name ∈ r.games.keys) :
    Turnover limit r (names.foldl reapGame r) := by
  induction names generalizing r with
  | nil => exact .refl r
  | cons name names ih =>
    obtain ⟨new, nodup⟩ := List.nodup_cons.mp nodup
    obtain ⟨h, found⟩ := Table.mem_keys_iff.mp (there name List.mem_cons_self)
    have reaped : Turnover limit r (r.reapGame name) :=
      (closeSessions r gameStopped (r.sessionsIn name)).trans (.gone found)
    refine reaped.trans (ih nodup fun other inside => ?_)
    exact mem_keys_erase.mpr ⟨there other (List.mem_cons_of_mem _ inside), fun same => new (same ▸ inside)⟩

theorem reap (r : Registry) : Turnover limit r r.reap := by
  refine reapGames (r.games.nodup.sublist (List.filter_sublist.map _)) fun name stopped => ?_
  obtain ⟨entry, inside, rfl⟩ := List.mem_map.mp stopped
  exact Table.mem_keys_of_mem (List.mem_filter.mp inside).1

theorem foldl_gone {names : List String} (nodup : names.Nodup) (there : ∀ name ∈ names, name ∈ r.games.keys) :
    Turnover limit r
      { r with
        games := names.foldl Table.erase r.games
        exchange := names.foldl (fun x _ => x.measure (·.gameRemoved)) r.exchange } := by
  induction names generalizing r with
  | nil => exact .refl r
  | cons name names ih =>
    obtain ⟨new, nodup⟩ := List.nodup_cons.mp nodup
    obtain ⟨h, found⟩ := Table.mem_keys_iff.mp (there name List.mem_cons_self)
    refine (gone found).trans (ih nodup fun other inside => ?_)
    exact mem_keys_erase.mpr ⟨there other (List.mem_cons_of_mem _ inside), fun same => new (same ▸ inside)⟩

/-- The games that are left are counted as gone, and the table is cleared. -/
theorem drain (r : Registry) : Turnover limit r r.drain := by
  have gone : Turnover limit r _ := foldl_gone r.games.keys_nodup fun _ inside => inside
  have cleared : ∀ name, (r.games.keys.foldl Table.erase r.games).find? name = none := by
    intro name
    rw [find?_foldl_erase]
    split
    · rfl
    · rename_i absent
      exact Table.find?_eq_none_iff.mpr absent
  rw [Registry.drain, measure_foldl]
  refine gone.trans (.still .rfl (fun name => ?_) rfl rfl)
  exact (congrArg (Option.map (·.generation)) (cleared name)).symm

theorem closeAll (r : Registry) : Turnover limit r r.closeAll := by
  obtain ⟨tokens, _, derived, same⟩ := { r with accepting := false }.cancelGames_eq
  have told : Turnover limit r { r with accepting := false, tokens } := .of_tables .rfl rfl derived rfl
  rw [Registry.closeAll, same]
  exact told.trans (closeSessions ..)

theorem halt (r : Registry) (name : String) : Turnover limit r (r.halt name) := by
  rw [Registry.halt]
  split
  · exact .refl r
  · rename_i ref _
    rw [stopGame]
    split
    · refine .still .rfl (fun other => ?_) rfl rfl
      rw [Table.find?_modify]
      split
      · rw [Option.map_map]
        rfl
      · rfl
    · exact .refl r

end Turnover

theorem abandoned_finish_of_deadline {r : Registry} {deadline : Nat} (due : r.deadline? = some deadline) :
    r.finish.abandoned = r.abandoned := by
  have drained : Turnover 0 r r.closeAll.drain := (Turnover.closeAll r).trans (.drain _)
  rw [finish_of_deadline due]
  exact drained.abandoned

theorem abandoned_finish_of_none {r : Registry} (never : r.deadline? = none) :
    r.finish.abandoned = r.abandoned ++ r.games.values.map (·.generation) := by
  rw [finish_of_none never]
  rfl

theorem abandoned_finish_of_vacant {r : Registry} (vacant : r.games.keys = []) :
    r.finish.abandoned = r.abandoned := by
  cases due : r.deadline? with
  | some deadline => exact abandoned_finish_of_deadline due
  | none =>
    have nothing : r.games.values = [] :=
      List.length_eq_zero_iff.mp (by rw [Table.values_length, ← Table.keys_length, vacant, List.length_nil])
    rw [abandoned_finish_of_none due, nothing]
    exact List.append_nil _

theorem abandoned_cancel {r : Registry} (vacant : r.games.keys = []) : r.cancel.abandoned = r.abandoned := by
  rw [Registry.cancel]
  split
  · exact abandoned_finish_of_vacant (r := r.cancelAll) vacant
  · rfl

/-- A message is handled, and the games that have stopped are taken out after it. -/
theorem Turnover.handle_reap (r : Registry) (q : RegistryRequest) :
    Turnover (r.games.size + 1) r (r.handle q).2.reap :=
  (handle fun _ _ _ _ _ => Nat.lt_succ_self _).trans (reap _)

/-- A message leaves games behind only if the registry ends after it and still has some. -/
theorem abandoned_ask {r : Registry} {q : RegistryRequest}
    (kept : (r.ask q).2.running = true ∨ (r.handle q).2.reap.games.keys = []) :
    (r.ask q).2.abandoned = r.abandoned := by
  have handled := (Turnover.handle_reap r q).abandoned
  rw [ask_eq_handle] at kept ⊢
  cases running : r.running with
  | false => rfl
  | true =>
    rw [running] at kept
    simp only [if_true, turn] at kept ⊢
    split
    · rename_i cancelled
      rw [if_pos cancelled] at kept
      have vacant := kept.resolve_left Bool.false_ne_true
      exact (abandoned_finish_of_vacant vacant).trans handled
    · exact handled

/-- A registry that is told to stop, and has a deadline, leaves no game behind either. -/
theorem abandoned_ask_shutdown {r : Registry} {timeout deadline : Nat}
    (due : Clock.after? r.exchange.now timeout = some deadline) :
    (r.ask (.shutdown timeout)).2.abandoned = r.abandoned := by
  have handled := (Turnover.handle_reap r (.shutdown timeout)).abandoned
  rw [ask_eq_handle]
  cases running : r.running with
  | false => rfl
  | true =>
    have present : (r.handle (.shutdown timeout)).2.reap.exchange.now = r.exchange.now := by
      rw [now_reap, handle_running running]
      rfl
    have given : (r.handle (.shutdown timeout)).2.reap.shutdownTimeout = timeout := by
      refine (congrArg Standing.timeout (reap_undergoes _).standing).trans ?_
      rw [handle_running running]
      rfl
    simp only [if_true, turn]
    have waits : (r.handle (.shutdown timeout)).2.reap.deadline? = some deadline := by
      rw [deadline?, present, given, due]
    split
    · exact (abandoned_finish_of_deadline waits).trans handled
    · exact handled

theorem size_eq_of_generations {r after : Registry}
    (same : ∀ name, (after.games.find? name).map (·.generation) = (r.games.find? name).map (·.generation)) :
    after.games.size = r.games.size := by
  refine Table.size_congr fun name => ?_
  have known := congrArg Option.isSome (same name)
  rwa [Option.isSome_map, Option.isSome_map] at known

/-- The gauge shows the number of games, those included that a registry has left behind when it broke off.
Whoever takes a game out, a leave, the look at games that have stopped, or the end of the registry, counts it as
gone once. -/
def Gauged (r : Registry) : Prop := r.exchange.telemetry.games = UInt64.ofNat (r.games.size + r.abandoned.length)

/-- The gauge shows the games of the table, and none has been left behind. A registry is like this from its
start on, as long as it has a deadline when it ends. -/
structure Complete (r : Registry) : Prop where
  gauged : r.Gauged
  abandoned : r.abandoned = []

theorem create_gauged (capacity : Nat) : (create capacity).Gauged := rfl

theorem create_complete (capacity : Nat) : (create capacity).Complete := ⟨create_gauged capacity, rfl⟩

variable {r after : Registry}

namespace Gauged

variable (gauged : r.Gauged)

include gauged

theorem of_same (games : after.exchange.telemetry.games = r.exchange.telemetry.games)
    (size : after.games.size = r.games.size) (abandoned : after.abandoned = r.abandoned) : after.Gauged := by
  rw [Gauged, games, size, abandoned]
  exact gauged

theorem turnover (limit : Nat) (turnover : Turnover limit r after) : after.Gauged := by
  induction turnover with
  | still gauges games _ abandoned => exact gauged.of_same gauges.games (size_eq_of_generations games) abandoned
  | @begun r name absent _ =>
    have counted : (r.createGame name).2.exchange.telemetry.games = r.exchange.telemetry.games + 1 := rfl
    have more : (r.createGame name).2.games.size = r.games.size + 1 := Table.size_insert_of_none _ absent
    have same : (r.createGame name).2.abandoned = r.abandoned := rfl
    rw [Gauged, counted, more, same, gauged, Nat.add_right_comm]
    exact (UInt64.ofNat_add _ 1).symm
  | @gone r name h found =>
    have counted : ({ r with games := r.games.erase name }.measure (·.gameRemoved)).exchange.telemetry.games =
        r.exchange.telemetry.games - 1 := rfl
    have fewer : (r.games.erase name).size + 1 = r.games.size := Table.size_erase found
    have same : ({ r with games := r.games.erase name }.measure (·.gameRemoved)).abandoned = r.abandoned := rfl
    rw [Gauged, counted, same, gauged, ← fewer, Nat.add_right_comm, UInt64.ofNat_add]
    exact add_sub_cancel_right _ _
  | trans _ _ first second => exact second (first gauged)

/-- What a registry has left is not in its table any more, but the gauge still shows it. -/
theorem breakOff : r.breakOff.Gauged := by
  have left : (r.games.values.map (·.generation)).length = r.games.size := by
    rw [List.length_map, Table.values_length]
  have size : (Registry.breakOff r).games.size + (Registry.breakOff r).abandoned.length =
      r.games.size + r.abandoned.length := by
    simp only [Registry.breakOff, List.length_append, left]
    exact (Nat.zero_add _).trans (Nat.add_comm _ _)
  rw [Gauged, size]
  exact gauged

theorem finish : r.finish.Gauged := by
  have closed : r.closeAll.Gauged := gauged.turnover 0 (.closeAll r)
  have awaited : r.closeAll.awaitGames.Gauged := by
    rw [awaitGames]
    split
    · exact closed.turnover 0 (.drain _)
    · exact closed.breakOff
  exact awaited.of_same rfl rfl rfl

theorem wind : r.wind.Gauged := by
  rw [Registry.wind]
  split
  · exact gauged.finish
  · exact gauged

theorem cancel : r.cancel.Gauged := by
  have told : r.cancelAll.Gauged := gauged.of_same rfl rfl rfl
  rw [Registry.cancel]
  split
  · exact told.finish
  · exact gauged

theorem turn : r.turn.Gauged := by
  have reaped : r.reap.Gauged := gauged.turnover 0 (.reap r)
  rw [Registry.turn]
  split
  · exact reaped.finish
  · exact reaped

theorem handle (q : RegistryRequest) : (r.handle q).2.Gauged :=
  gauged.turnover (r.games.size + 1) (.handle fun _ _ _ _ _ => Nat.lt_succ_self _)

theorem ask (q : RegistryRequest) : (r.ask q).2.Gauged := by
  rw [ask_eq_handle]
  dsimp only
  split
  · exact (gauged.handle q).turn
  · exact gauged

theorem askGame (ref : GameRef) (q : GameRequest) : (r.askGame ref q).2.Gauged :=
  gauged.turnover 0 (.askGame r ref q)

theorem halt (name : String) : (r.halt name).Gauged := gauged.turnover 0 (.halt r name)

end Gauged

end Registry

namespace Hall

theorem start_gauged (capacity : Nat) (outboxes : List Outbox) : (start capacity outboxes).registry.Gauged := rfl

theorem gauged_perform {h : Hall} (gauged : h.registry.Gauged) (act : Act) : (h.perform act).2.registry.Gauged := by
  cases act with
  | request q => exact gauged.handle q
  | message c n q =>
    simp only [perform]
    split
    · exact gauged
    · exact gauged.askGame _ q
  | halt name => exact gauged.halt name
  | check => exact gauged.turnover 0 (.reap h.registry)
  | wind => exact gauged.wind
  | _ => exact gauged.of_same rfl rfl rfl

theorem abandoned_perform (h : Hall) {act : Act} (goesOn : act ≠ .wind) :
    (h.perform act).2.registry.abandoned = h.registry.abandoned := by
  have kept : ∀ (limit : Nat) {r : Registry}, Registry.Turnover limit h.registry r →
      r.abandoned = h.registry.abandoned := fun _ _ turnover => turnover.abandoned
  cases act with
  | request q => exact kept (h.registry.games.size + 1) (.handle fun _ _ _ _ _ => Nat.lt_succ_self _)
  | message c n q =>
    simp only [perform]
    split
    · rfl
    · exact kept 0 (.askGame ..)
  | halt name => exact kept 0 (.halt ..)
  | check => exact kept 0 (.reap _)
  | wind => exact absurd rfl goesOn
  | _ => rfl

end Hall

end Scrimmage
