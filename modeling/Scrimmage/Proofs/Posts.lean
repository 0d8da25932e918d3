import Scrimmage.Proofs.Attendance
import Scrimmage.Proofs.Moves

namespace Scrimmage

/-- The packages that a queue holds. -/
def written (commands : List Command) : List Package :=
  commands.filterMap fun
    | .write p => some p
    | .close _ => none

theorem written_append (commands more : List Command) : written (commands ++ more) = written commands ++ written more :=
  List.filterMap_append

theorem written_close (reason : String) (count : Nat) : written (List.replicate count (.close reason)) = [] := by
  simp [written]

/-- Commands of which none writes anything. -/
def Wordless (more : SessionRef → List Command) : Prop := ∀ s, written (more s) = []

namespace Exchange

def written (x : Exchange) (s : SessionRef) : List Package := Scrimmage.written (x.waiting s)

theorem written_eq {x : Exchange} {s : SessionRef} {o : Outbox} (queue : x.outbox? s = some o) :
    x.written s = Scrimmage.written o.waiting := by
  rw [written, waiting, queue]
  rfl

/-- The queues of before, with commands at the ends of those that are open. The registry writes to the one whom
it lets in and to nobody else, games relay what they are sent, and the end of a session leaves the packages of
all others where they are. -/
def Extends (x : Exchange) (more : SessionRef → List Command) (y : Exchange) : Prop :=
  ∀ s, y.outbox? s = (x.outbox? s).map (extended · (more s))

theorem written_extended {x y : Exchange} {s : SessionRef} {commands : List Command}
    (after : y.outbox? s = (x.outbox? s).map (extended · commands)) (wordless : Scrimmage.written commands = []) :
    y.written s = x.written s := by
  rw [written, waiting_extended after, written_append, written]
  split
  · rw [wordless, List.append_nil]
  · exact List.append_nil _

namespace Extends

variable {x y z : Exchange} {more later : SessionRef → List Command}

theorem of_same (same : ∀ s, y.outbox? s = x.outbox? s) : x.Extends (fun _ => []) y := by
  intro s
  simp [same]

theorem trans (first : x.Extends more y) (second : y.Extends later z) :
    x.Extends (fun s => more s ++ later s) z := by
  intro s
  simp only [second s, first s, Option.map_map, Function.comp_def, extended_append]

theorem written (extends' : x.Extends more y) (s : SessionRef) :
    y.written s = x.written s ++ if x.accepts s then Scrimmage.written (more s) else [] := by
  rw [Exchange.written, waiting_extended (extends' s), written_append, Exchange.written]
  split <;> rfl

theorem written_of_wordless (extends' : x.Extends more y) (wordless : Wordless more) (s : SessionRef) :
    y.written s = x.written s :=
  written_extended (extends' s) (wordless s)

end Extends

theorem extends_offer (x : Exchange) (t : SessionRef) (command : Command) :
    x.Extends (fun s => if t.queue = s.queue then [command] else []) (x.offer t command) :=
  fun s => outbox?_offer x s t command

end Exchange

namespace Registry

variable {r : Registry}

theorem turn_extends (r : Registry) :
    (∃ closes, Wordless closes ∧ r.exchange.Extends closes r.turn.exchange) ∧
      ∀ c, r.turn.members.find? c = r.members.find? c := by
  have reaped := r.reap_undergoes
  have told : r.exchange.Extends _ r.reap.exchange := reaped.outbox
  rw [turn]
  split
  · have ended := r.reap.finish_undergoes
    have last : r.reap.exchange.Extends _ r.reap.finish.exchange := ended.outbox
    refine ⟨⟨_, fun s => ?_, told.trans last⟩, fun c => (ended.member c).trans (reaped.member c)⟩
    rw [written_append, written_close, written_close, List.append_nil]
  · exact ⟨⟨_, fun s => written_close _ _, told⟩, reaped.member⟩

/-- A message puts into the queues what its request does, and what follows it. -/
theorem ask_extends (running : r.running = true) (q : RegistryRequest) :
    (∃ closes, Wordless closes ∧ r.exchange.Extends (fun s => r.posts q s ++ closes s) (r.ask q).2.exchange) ∧
      ∀ c, (r.ask q).2.members.find? c = (r.requestChange q).member c (r.members.find? c) := by
  have handled := r.handle_undergoes q
  rw [if_pos running] at handled
  have posted : r.exchange.Extends (r.posts q) (r.handle q).2.exchange := fun s =>
    (handled.outbox s).trans (by rw [r.requestChange_outbox])
  obtain ⟨⟨closes, wordless, told⟩, members⟩ := (r.handle q).2.turn_extends
  rw [ask_eq_handle, running]
  exact ⟨⟨closes, wordless, posted.trans told⟩, fun c => (members c).trans (handled.member c)⟩

theorem ask_wordless (r : Registry) {q : RegistryRequest} (other : ∀ a, q ≠ .join a) :
    ∃ closes, Wordless closes ∧ r.exchange.Extends closes (r.ask q).2.exchange := by
  cases running : r.running with
  | false =>
    rw [ask_stopped running]
    exact ⟨_, fun _ => rfl, .of_same fun _ => rfl⟩
  | true =>
    obtain ⟨⟨closes, wordless, told⟩, _⟩ := ask_extends running q
    have nothing : ∀ s, r.posts q s = [] := by
      intro s
      cases q with
      | join a => exact absurd rfl (other a)
      | _ => rfl
    simp only [nothing, List.nil_append] at told
    exact ⟨closes, wordless, told⟩

/-- A message that lets nobody in and takes nobody in brings no member. -/
theorem member_of_ask {q : RegistryRequest} (other : ∀ a, q ≠ .join a) (stranger : ∀ c ref, q ≠ .register c ref)
    {c : ConnectionId} {m : Member} (known : (r.ask q).2.members.find? c = some m) : r.members.find? c = some m := by
  cases running : r.running with
  | false => rwa [ask_stopped running] at known
  | true =>
    rw [(ask_extends running q).2] at known
    cases q with
    | join a => exact absurd rfl (other a)
    | register d ref => exact absurd rfl (stranger d ref)
    | unregister d =>
      simp only [requestChange, Change.unregister] at known
      split at known
      · cases known
      · exact known
    | listing | summary | shutdown => exact known

theorem outcome_stopped (stopped : r.running = false) (a : Application) : r.outcome a = .error .unreachable := by
  simp only [outcome, send, stopped, Bool.false_eq_true, if_false]
  rfl

theorem outcome_running (running : r.running = true) (a : Application) : r.outcome a = (r.opened.join a).1 := by
  rw [outcome, send, if_pos running]
  rfl

theorem verdict_eq_error (running : r.running = true) {a : Application} {failure : Failure}
    (refused : r.outcome a = .error failure) : r.verdict a = .error failure := by
  rw [outcome_running running] at refused
  have decides := r.opened.join_decides a
  rw [refused] at decides
  generalize (r.opened.join a).2 = after at decides
  cases decides with
  | refuses verdict _ => exact verdict

theorem join_of_ok {a : Application} {admission : Admission} (joined : r.outcome a = .ok admission) :
    ∃ m, r.members.find? a.connection = some m ∧ m.game = none ∧ admission.game.name = a.game ∧
      (∃ closes, Wordless closes ∧ r.exchange.Extends
        (fun s => (if m.session.queue = s.queue then [.write (Game.welcome a.id admission.placement)] else []) ++
          closes s) (r.ask (.join a)).2.exchange) ∧
      ∀ c, (r.ask (.join a)).2.members.find? c =
        if c = a.connection then some { m with game := some a.game } else r.members.find? c := by
  cases running : r.running with
  | false => cases (outcome_stopped running a).symm.trans joined
  | true =>
    rw [outcome_running running] at joined
    have decides := r.opened.join_decides a
    rw [joined] at decides
    generalize (r.opened.join a).2 = after at decides
    cases decides with
    | admits verdict name _ _ =>
      obtain ⟨m, g, known, outside, rfl, _⟩ := verdict_eq_ok verdict
      have known : r.members.find? a.connection = some m := known
      have same : r.verdict a = .ok _ := verdict
      obtain ⟨⟨closes, wordless, extends'⟩, members⟩ := ask_extends running (.join a)
      refine ⟨m, known, outside, name, ⟨closes, wordless, ?_⟩, fun c => ?_⟩
      · simp only [posts, same] at extends'
        exact extends'
      · rw [members]
        simp only [requestChange, same, Change.seat]
        split
        · rename_i here
          rw [here, known, Option.map_some]
        · rfl

/-- Who is refused is told nothing by the registry, and stays where it is. -/
theorem join_of_error {a : Application} {failure : Failure} (refused : r.outcome a = .error failure) :
    (∃ closes, Wordless closes ∧ r.exchange.Extends closes (r.ask (.join a)).2.exchange) ∧
      ∀ c, (r.ask (.join a)).2.members.find? c = r.members.find? c := by
  cases running : r.running with
  | false =>
    rw [ask_stopped running]
    exact ⟨⟨_, fun _ => rfl, .of_same fun _ => rfl⟩, fun _ => rfl⟩
  | true =>
    obtain ⟨⟨closes, wordless, extends'⟩, members⟩ := ask_extends running (.join a)
    simp only [posts, requestChange, verdict_eq_error running refused, List.nil_append] at extends' members
    exact ⟨⟨closes, wordless, extends'⟩, members⟩

/-- The game that a name leads to does not have anyone in it who is recorded in none. -/
theorem Attended.gameFor?_absent (attended : r.Attended) {c : ConnectionId} {m : Member}
    (known : r.members.find? c = some m) (outside : m.game = none) {name : String} {g : Game}
    (found : r.gameFor? name = some g) :
    g.name = name ∧ g.capacity = r.capacity ∧ g.teamOf.find? c = none := by
  rw [gameFor?] at found
  split at found
  · cases found
    exact ⟨rfl, rfl, rfl⟩
  · rename_i f there
    split at found
    · cases found
      have holds := attended.supervised.holds name f there
      refine ⟨holds.name_eq, holds.capacity_eq, Option.eq_none_iff_forall_ne_some.mpr fun team member => ?_⟩
      -- a player would be recorded in the game
      obtain ⟨p, seated⟩ := Table.mem_keys_iff.mp ((holds.sound.cached c team).mp member)
      obtain ⟨m', known', inside⟩ := attended.seated name f team c p there seated
      cases known.symm.trans known'
      cases outside.symm.trans inside
    · cases found

/-- Whoever is in no game is rejected by the game that it asks for, if at all. -/
theorem rejected_of_verdict {a : Application} (outside : ∀ m, r.members.find? a.connection = some m → m.game = none)
    {failure : Failure} (refused : r.verdict a = .error failure) (rejection : failure.isRejection = true) :
    ∃ m g, r.members.find? a.connection = some m ∧ r.gameFor? a.game = some g ∧
      g.place (a.entrant m.session) = .error failure := by
  cases accepting : r.accepting with
  | false =>
    simp only [verdict, accepting, Bool.not_false, if_true] at refused
    cases refused
    cases rejection
  | true =>
    cases known : r.members.find? a.connection with
    | none =>
      simp only [verdict, accepting, known, Bool.not_true, Bool.false_eq_true, if_false] at refused
      cases refused
      cases rejection
    | some m =>
      rw [verdict_outside accepting known (outside m known)] at refused
      split at refused
      · cases refused
        cases rejection
      · rename_i g found
        refine ⟨m, g, rfl, found, ?_⟩
        cases placed : g.place (a.entrant m.session) with
        | error other =>
          rw [placed] at refused
          cases refused
          rfl
        | ok outcome =>
          rw [placed] at refused
          cases refused

/-- Whoever is in no game is rejected only if there is no room in the game that it asks for. -/
theorem Attended.gameFull (attended : r.Attended) {a : Application}
    (outside : ∀ m, r.members.find? a.connection = some m → m.game = none) {failure : Failure}
    (refused : r.outcome a = .error failure) (rejection : failure.isRejection = true) :
    failure = .gameFull a.game ∧
      ∃ g, r.gameFor? a.game = some g ∧ r.capacity ≤ (g.side (g.resolve a.team)).size := by
  cases running : r.running with
  | false =>
    cases (outcome_stopped running a).symm.trans refused
    cases rejection
  | true =>
    obtain ⟨m, g, known, found, refused⟩ :=
      rejected_of_verdict outside (verdict_eq_error running refused) rejection
    obtain ⟨name, capacity, absent⟩ := attended.gameFor?_absent known (outside m known) found
    rcases Game.place_eq_error refused with ⟨_, team, member⟩ | ⟨full, _, size⟩
    · cases absent.symm.trans member
    · exact ⟨full.trans (congrArg _ name), g, found, capacity ▸ size⟩

/-- A message of others to a game is relayed, or nothing is written. -/
theorem askGame_extends (r : Registry) (ref : GameRef) {q : GameRequest} (isOpen : q.Open) :
    (∃ more, (∀ s, ∀ p ∈ written (more s), q = .broadcast p) ∧ r.exchange.Extends more (r.askGame ref q).2.exchange) ∧
      ∀ c, (r.askGame ref q).2.members.find? c = r.members.find? c := by
  have undergoes := r.askGame_undergoes ref q
  rw [messageChange] at undergoes
  cases reached : r.reached? ref with
  | none =>
    rw [reached] at undergoes
    refine ⟨⟨fun _ => [], (fun _ _ inside => by cases inside), .of_same fun s => ?_⟩, undergoes.member⟩
    rw [undergoes.outbox, Option.map_id']
  | some f =>
    rw [reached] at undergoes
    refine ⟨⟨f.game.sends q, fun s p inside => ?_, undergoes.outbox⟩, undergoes.member⟩
    cases q with
    | join | leave => exact isOpen.elim
    | broadcast p' =>
      simp only [Game.sends, copies, written, List.filterMap_replicate, List.mem_replicate] at inside
      rw [inside.2]
    | count | roster => cases inside

end Registry

theorem Lobby.receive_eq (r : Registry) (c : ConnectionId) {payload : List UInt8} {q : JoinRequest}
    (decoded : JoinRequest.decode payload = .ok q) :
    receive r c payload =
      match r.outcome (q.application c) with
      | .ok admission => (.joined admission, record (r.ask (.join (q.application c))).2 .joined)
      | .error failure =>
        if failure.isRejection then
          (.reply (Notice.full q.id).encode, record (r.ask (.join (q.application c))).2 .full)
        else
          (.terminate (Notice.warning failure.clientText true).encode,
            record (r.ask (.join (q.application c))).2 .rejected) := by
  simp only [receive, decoded, Registry.ask_join]
  rfl

namespace Server

variable {s : Server} {c : ConnectionId} {session : Session} (outside : session.game = none) {payload : List UInt8}

include outside

theorem receive_unidentified {fault : DecodeError} (decoded : JoinRequest.decode payload = .error fault) :
    s.receivePayload c session payload =
      { s with registry := s.registry.measure (·.record .unidentified) }.modifyExchange
        (·.offer session.ref (.write Notice.unidentified.encode)) := by
  simp only [receivePayload, outside, Lobby.receive, decoded]

variable {q : JoinRequest} (decoded : JoinRequest.decode payload = .ok q)

include decoded

theorem receive_joined {admission : Admission} (joined : s.registry.outcome (q.application c) = .ok admission) :
    s.receivePayload c session payload =
      { s with registry := Lobby.record (s.registry.ask (.join (q.application c))).2 .joined }.modifySession c
        fun session => { session with game := some admission.game } := by
  simp only [receivePayload, outside, Lobby.receive_eq _ _ decoded, joined]

theorem receive_full {failure : Failure} (refused : s.registry.outcome (q.application c) = .error failure)
    (rejection : failure.isRejection = true) :
    s.receivePayload c session payload =
      { s with registry := Lobby.record (s.registry.ask (.join (q.application c))).2 .full }.modifyExchange
        (·.offer session.ref (.write (Notice.full q.id).encode)) := by
  simp only [receivePayload, outside, Lobby.receive_eq _ _ decoded, refused, rejection, if_true]

theorem receive_refused {failure : Failure} (refused : s.registry.outcome (q.application c) = .error failure)
    (final : failure.isRejection = false) :
    s.receivePayload c session payload =
      { s with registry := Lobby.record (s.registry.ask (.join (q.application c))).2 .rejected }.finish c .terminated
        (some (Notice.warning failure.clientText true).encode) none := by
  simp only [receivePayload, outside, Lobby.receive_eq _ _ decoded, refused, final, Bool.false_eq_true, if_false]

end Server

end Scrimmage
