import Scrimmage.Proofs.Ledger

namespace Scrimmage

namespace Journal

/-- What a counter shows. -/
def counter (j : Journal) (s : Series) : Nat := ((j.counters.find? (·.1 = s)).map (·.2)).getD 0

/-- What all counters of one name show together, whatever their labels. -/
def total (j : Journal) (name : String) : Nat := ((j.counters.filter (·.1.name = name)).map (·.2)).sum

theorem distinct_nodup (series : List Series) : (distinct series).Nodup := by
  suffices nodup : ∀ seen : List Series, seen.Nodup →
      (series.foldl (fun seen s => if s ∈ seen then seen else seen ++ [s]) seen).Nodup from nodup [] List.nodup_nil
  induction series with
  | nil => exact fun seen nodup => nodup
  | cons s series ih =>
    intro seen nodup
    rw [List.foldl_cons]
    split
    · exact ih seen nodup
    · rename_i new
      refine ih _ (List.nodup_append.mpr ⟨nodup, List.nodup_singleton s, fun t inside u last => ?_⟩)
      rw [List.mem_singleton.mp last]
      rintro rfl
      exact new inside

theorem distinct_perm (series : List Series) : (distinct series).Perm series.dedup :=
  (List.perm_ext_iff_of_nodup (distinct_nodup series) series.nodup_dedup).mpr fun s => by
    rw [mem_distinct, List.mem_dedup]

theorem counter_eq (j : Journal) (s : Series) : j.counter s = (j.filterMap Measurement.counter?).count s := by
  have found : ∀ series : List Series, series.find? (· = s) = if s ∈ series then some s else none := by
    intro series
    split
    · rename_i inside
      cases there : series.find? (· = s) with
      | none => exact absurd (decide_eq_true rfl) (List.find?_eq_none.mp there s inside)
      | some t =>
        have same : t = s := by simpa using List.find?_some there
        rw [same]
    · rename_i outside
      exact List.find?_eq_none.mpr fun t inside same => outside (of_decide_eq_true same ▸ inside)
  rw [counter, counters, List.find?_map]
  simp only [Function.comp_def, found, mem_distinct]
  split
  · rfl
  · rename_i never
    exact (List.count_eq_zero.mpr never).symm

theorem total_eq (j : Journal) (name : String) :
    j.total name = (j.filterMap Measurement.counter?).countP (·.name = name) := by
  rw [← List.sum_map_count_dedup_filter_eq_countP, total, counters, List.filter_map, List.map_map]
  exact (((distinct_perm _).filter _).map _).sum_eq

/-- What is not about gauges. -/
def tallies (j : Journal) : Journal := j.filter (·.gauge?.isNone)

end Journal

namespace Exchange

/-- Some measurements are taken, the latest first, and gauges may be set. The counters that are exported are
read off the journal, so that it is enough to know what is put into it besides the gauges. -/
def Notes (x : Exchange) (new : Journal) (y : Exchange) : Prop :=
  y.telemetry.journal.tallies = new ++ x.telemetry.journal.tallies

/-- Nothing is measured but gauges. -/
abbrev Silent (x y : Exchange) : Prop := x.Notes [] y

variable {x y z : Exchange}

theorem Silent.rfl : x.Silent x := Eq.refl _

theorem Notes.trans {new more : Journal} (first : x.Notes new y) (second : y.Notes more z) :
    x.Notes (more ++ new) z := by
  rw [Notes, second, first, List.append_assoc]

theorem Silent.trans (first : x.Silent y) (second : y.Silent z) : x.Silent z := Notes.trans first second

theorem Silent.of_eq (same : y.telemetry = x.telemetry) : x.Silent y := by
  rw [Silent, Notes, same, List.nil_append]

theorem silent_offer (x : Exchange) (s : SessionRef) (command : Command) : x.Silent (x.offer s command) :=
  .of_eq (telemetry_offer ..)

theorem silent_handled (x : Exchange) : x.Silent (x.measure (·.messageHandled)) := Eq.refl _

theorem silent_removed (x : Exchange) : x.Silent (x.measure (·.gameRemoved)) := Eq.refl _

theorem notes_record (x : Exchange) {m : Measurement} (other : m.gauge? = none) :
    x.Notes [m] (x.measure (·.record m)) :=
  List.filter_cons_of_pos (by rw [other]; rfl)

/-- How many commands wait in all queues together. -/
def load (x : Exchange) : Nat := (x.outboxes.map (·.waiting.length)).sum

theorem sum_modify {α : Type} {f : α → α} {g : α → Nat} (grows : ∀ a, g (f a) = g a + 1) (l : List α) (i : Nat) :
    ((l.modify i f).map g).sum = (l.map g).sum + if i < l.length then 1 else 0 := by
  induction l generalizing i with
  | nil => simp
  | cons a l ih =>
    cases i with
    | zero =>
      simp only [List.modify_zero_cons, List.map_cons, List.sum_cons, grows, List.length_cons]
      rw [if_pos (Nat.zero_lt_succ _)]
      omega
    | succ i =>
      simp only [List.modify_succ_cons, List.map_cons, List.sum_cons, ih, List.length_cons, Nat.add_lt_add_iff_right]
      omega

theorem load_offer (x : Exchange) (s : SessionRef) (command : Command) :
    (x.offer s command).load = x.load + if x.accepts s then 1 else 0 := by
  rw [offer]
  split
  · rename_i taken
    obtain ⟨o, queue, _⟩ := (Option.any_eq_true _ _).mp taken
    have inside : s.queue < x.outboxes.length := (List.getElem?_eq_some_iff.mp queue).1
    have grows : ∀ o : Outbox, (o.push command).waiting.length = o.waiting.length + 1 := fun o => by
      rw [Outbox.push, List.length_append, List.length_singleton]
    rw [load, modifyOutbox, sum_modify grows, if_pos inside, load]
  · rfl

theorem accepts_offer (x : Exchange) (s t : SessionRef) (command : Command) :
    (x.offer t command).accepts s = x.accepts s :=
  accepts_extended (outbox?_offer ..)

theorem load_relay (x : Exchange) (p : Package) (sessions : List SessionRef) :
    (Game.relay x p sessions).load = x.load + sessions.countP x.accepts := by
  induction sessions generalizing x with
  | nil => rfl
  | cons s sessions ih =>
    have rest := ih (x.offer s (.write p))
    rw [load_offer, funext fun t => x.accepts_offer t s (.write p)] at rest
    refine rest.trans ?_
    rw [List.countP_cons]
    omega

end Exchange

/-- A game records how many sessions have taken a frame that it passes on. -/
theorem Game.broadcast_notes (g : Game) (x : Exchange) (p : Package) :
    x.Notes [.broadcast ((g.broadcast x p).load - x.load)] (g.broadcast x p) := by
  have relayed : x.Silent (relay x p (g.players.map (·.session))) := .of_eq (telemetry_relay ..)
  have grown : (g.broadcast x p).load - x.load = (g.players.map (·.session)).countP x.accepts := by
    have grows := x.load_relay p (g.players.map (·.session))
    exact (congrArg (· - x.load) grows).trans (Nat.add_sub_cancel_left ..)
  rw [grown]
  exact Exchange.Notes.trans relayed (Exchange.notes_record _ rfl)

namespace Registry

variable {r : Registry}

/-- Nothing is put into the journal but gauges. -/
abbrev Silent (r after : Registry) : Prop := r.exchange.Silent after.exchange

theorem sendTo_silent {α : Type} (r : Registry) (ref : GameRef) {f : Game → UInt64 → Exchange → α × Game × Exchange}
    (silent : ∀ g depth (x : Exchange), x.Silent (f g depth x).2.2) : r.Silent (r.sendTo ref f).2 := by
  obtain ⟨name, generation⟩ := ref
  rcases r.sendTo_cases ⟨name, generation⟩ f with ⟨h, hosts, same⟩ | nothing
  · cases same
    rw [sendTo_hosts hosts]
    exact (silent ..).trans (Exchange.silent_handled _)
  · rw [nothing]
    exact .rfl

theorem removeGame_silent (r : Registry) (name : String) : r.Silent (r.removeGame name) := by
  rw [removeGame]
  split
  · exact r.exchange.silent_removed
  · exact .rfl

theorem register_silent (r : Registry) (c : ConnectionId) (session : SessionRef) : r.Silent (r.register c session) := by
  rw [register]
  split <;> exact .rfl

theorem depart_silent (r : Registry) (ref : GameRef) (c : ConnectionId) : r.Silent (r.depart ref c) := by
  have left : r.Silent (r.sendTo ref fun g _ x => ((g.leave c).1, (g.leave c).2, x)).2 :=
    sendTo_silent r ref fun _ _ _ => .rfl
  rw [depart]
  dsimp only
  split
  · split
    · exact left.trans (removeGame_silent ..)
    · exact left
  · exact left

theorem unregister_silent (r : Registry) (c : ConnectionId) : r.Silent (r.unregister c).2 := by
  rw [unregister]
  split
  · exact .rfl
  · dsimp only
    split
    · exact .rfl
    · exact depart_silent ..

theorem enter_silent (r : Registry) (ref : GameRef) (a : Application) (session : SessionRef) :
    r.Silent (r.enter ref a session).2 := by
  have joined : ∀ e : Entrant, r.Silent (r.sendTo ref fun g _ x => g.join x e).2 := by
    refine fun e => sendTo_silent r ref fun g _ x => ?_
    rw [Game.join]
    split
    · exact .rfl
    · exact x.silent_offer ..
  rw [enter]
  dsimp only
  split
  · exact joined _
  · exact joined _

theorem join_silent (r : Registry) (a : Application) : r.Silent (r.join a).2 := by
  rw [join]
  split
  · exact .rfl
  · split
    · exact .rfl
    · split
      · exact .rfl
      · rename_i m _ _
        split
        · exact enter_silent ..
        · have entered : r.Silent ((r.createGame a.game).2.enter (r.createGame a.game).1 a m.session).2 :=
            Exchange.Silent.trans (Eq.refl _) (enter_silent ..)
          dsimp only
          split
          · rename_i same
            rwa [same] at entered
          · rename_i same
            rw [same] at entered
            exact entered.trans (removeGame_silent ..)

theorem listing_silent (r : Registry) (name : String) : r.Silent (r.listing name).2 := by
  rw [listing]
  split
  · exact .rfl
  · exact sendTo_silent r _ fun _ _ _ => .rfl

theorem answer_silent (r : Registry) (q : RegistryRequest) : r.Silent (r.answer q).2 := by
  cases q with
  | register c session => exact register_silent ..
  | unregister c => exact unregister_silent ..
  | join a => exact join_silent ..
  | listing name => exact listing_silent ..
  | summary | shutdown => exact .rfl

theorem closeSessions_silent (r : Registry) (reason : String) (sessions : List SessionRef) :
    r.Silent (r.closeSessions reason sessions) :=
  .of_eq (Exchange.telemetry_offers ..)

theorem reap_silent (r : Registry) : r.Silent r.reap := by
  have reaped : ∀ (names : List String) (r : Registry), r.Silent (names.foldl reapGame r) := by
    intro names
    induction names with
    | nil => exact fun r => .rfl
    | cons name names ih =>
      intro r
      have one : r.Silent (r.reapGame name) :=
        (closeSessions_silent r gameStopped (r.sessionsIn name)).trans (Exchange.silent_removed _)
      exact one.trans (ih _)
  exact reaped r.stoppedGames r

theorem finish_silent (r : Registry) : r.Silent r.finish := by
  have removed : ∀ (names : List String) (r : Registry),
      r.Silent (names.foldl (fun r _ => r.measure (·.gameRemoved)) r) := by
    intro names
    induction names with
    | nil => exact fun r => .rfl
    | cons name names ih => exact fun r => (Exchange.silent_removed _).trans (ih (r.measure (·.gameRemoved)))
  have closed : r.Silent r.closeAll :=
    closeSessions_silent { r with accepting := false }.cancelGames shuttingDown (r.members.values.map (·.session))
  have awaited : r.closeAll.Silent r.closeAll.awaitGames := by
    rw [awaitGames]
    split
    · exact removed _ r.closeAll
    · exact .rfl
  exact closed.trans awaited

theorem turn_silent (r : Registry) : r.Silent r.turn := by
  rw [turn]
  split
  · exact (reap_silent r).trans (finish_silent _)
  · exact reap_silent r

theorem ask_silent (r : Registry) (q : RegistryRequest) : r.Silent (r.ask q).2 := by
  have answered : r.Silent (Registry.answer { r with mailbox := r.mailbox.enqueue } q).2 :=
    answer_silent { r with mailbox := r.mailbox.enqueue } q
  rw [ask, send]
  split
  · exact (answered.trans (Exchange.silent_handled _)).trans (turn_silent _)
  · exact .rfl

theorem cancel_silent (r : Registry) : r.Silent r.cancel := by
  rw [cancel]
  split
  · exact finish_silent r.cancelAll
  · exact .rfl

theorem halt_silent (r : Registry) (name : String) : r.Silent (r.halt name) := by
  rw [halt]
  split
  · exact .rfl
  · rw [stopGame]
    split <;> exact .rfl

theorem askGame_silent (r : Registry) (ref : GameRef) {q : GameRequest} (other : ∀ p, q ≠ .broadcast p) :
    r.Silent (r.askGame ref q).2 := by
  refine sendTo_silent r ref fun g depth x => ?_
  cases q with
  | broadcast p => exact absurd rfl (other p)
  | join e =>
    rw [Game.answer, Game.join]
    dsimp only
    split
    · exact .rfl
    · exact x.silent_offer ..
  | _ => exact .rfl

theorem broadcast_notes (r : Registry) (ref : GameRef) (p : Package) :
    (r.askGame ref (.broadcast p)).1 = .ok .relayed ∧
        r.exchange.Notes [.broadcast ((r.askGame ref (.broadcast p)).2.exchange.load - r.exchange.load)]
          (r.askGame ref (.broadcast p)).2.exchange ∨
      r.askGame ref (.broadcast p) = (.error .unreachable, r) := by
  obtain ⟨name, generation⟩ := ref
  rcases r.sendTo_cases ⟨name, generation⟩ (fun g depth x => g.answer depth x (.broadcast p)) with
    ⟨h, hosts, same⟩ | nothing
  · cases same
    rw [askGame, sendTo_hosts hosts]
    exact Or.inl ⟨rfl, (h.game.broadcast_notes r.exchange p).trans (Exchange.silent_handled _)⟩
  · exact Or.inr nothing

end Registry

end Scrimmage
