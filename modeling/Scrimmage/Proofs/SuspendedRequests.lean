import Scrimmage.Proofs.Supervision

namespace Scrimmage

/-- What the registry writes to a game for. While it waits for the answer the game may handle messages of
others, and others may send messages to the registry. -/
inductive SuspendedRequest
  /-- The game may have been begun for the applicant. -/
  | enrol (application : Application) (session : SessionRef) (begun : Bool)
  | dismiss (connection : ConnectionId)
  | count

namespace SuspendedRequest

def request : SuspendedRequest → GameRequest
  | .enrol a session _ => .join (a.entrant session)
  | .dismiss c => .leave c
  | .count => .count

def subject? : SuspendedRequest → Option ConnectionId
  | .enrol a _ _ => some a.connection
  | .dismiss c => some c
  | .count => none

/-- Where a game has put a player, or why it has not. -/
def placement : Except Failure GameAnswer → Except Failure Placement
  | .ok (.joined outcome) => outcome
  | .ok _ => .error .unreachable
  | .error failure => .error failure

/-- Who has been let in. -/
def admitted? : SuspendedRequest → Except Failure GameAnswer → Option ConnectionId
  | .enrol a _ _, answer => (placement answer).toOption.map fun _ => a.connection
  | _, _ => none

/-- Whether the game is to go: its last player has left, or it was begun for an applicant that it refuses. -/
def empties : SuspendedRequest → Except Failure GameAnswer → Bool
  | .enrol _ _ begun, answer => begun && (placement answer).toOption.isNone
  | .dismiss _, .ok (.left departure) => departure.remaining = 0
  | _, _ => false

end SuspendedRequest

def RegistryRequest.subject? : RegistryRequest → Option ConnectionId
  | .register c _ | .unregister c => some c
  | .join a => some a.connection
  | _ => none

namespace Registry

/-- What the registry does before it writes to a game, if a message takes it to one. -/
def suspended? (r : Registry) : RegistryRequest → Option (SuspendedRequest × GameRef × Registry)
  | .unregister c => ((r.members.find? c).bind fun m => m.game.bind r.gameRef?).map (.dismiss c, ·, r.forget c)
  | .join a =>
    match r.members.find? a.connection with
    | some { game := none, session } =>
      if r.accepting then
        match r.gameRef? a.game with
        | some ref => some (.enrol a session false, ref, r)
        | none => some (.enrol a session true, r.createGame a.game)
      else none
    | _ => none
  | .listing name => (r.gameRef? name).map (.count, ·, r)
  | _ => none

/-- What the registry answers when it has the answer of the game. -/
def conclusion (ref : GameRef) (answer : Except Failure GameAnswer) : SuspendedRequest → RegistryAnswer
  | .enrol _ _ _ => .joined ((SuspendedRequest.placement answer).map fun placement => { game := ref, placement })
  | .dismiss _ => .unregistered true
  | .count =>
    let players := match answer with
      | .ok (.count players) => players
      | _ => 0
    .listing (some { name := ref.name, players })

/-- What the registry does with the answer of the game. -/
def settle (r : Registry) (ref : GameRef) (answer : Except Failure GameAnswer) (e : SuspendedRequest) : Registry :=
  let r := if e.empties answer then r.removeGame ref.name else r
  match e.admitted? answer with
  | some c => r.recordJoined c ref.name
  | none => r

/-- It does not matter in which form the answer of a game comes. -/
theorem sendTo_map {α β : Type} (r : Registry) (ref : GameRef) (f : Game → UInt64 → Exchange → α × Game × Exchange)
    (form : α → β) :
    r.sendTo ref (fun g depth x => (form (f g depth x).1, (f g depth x).2)) =
      ((r.sendTo ref f).1.map form, (r.sendTo ref f).2) := by
  simp only [sendTo]
  split
  · rfl
  · split
    · simp only [HostedGame.send]
      split <;> rfl
    · rfl

theorem depart_eq (r : Registry) (ref : GameRef) (c : ConnectionId) :
    r.depart ref c = (r.askGame ref (.leave c)).2.settle ref (r.askGame ref (.leave c)).1 (.dismiss c) := by
  have asked : r.askGame ref (.leave c) = _ :=
    r.sendTo_map ref (fun g _ x => ((g.leave c).1, (g.leave c).2, x)) GameAnswer.left
  rw [asked, depart]
  generalize (r.sendTo ref fun g _ x => ((g.leave c).1, (g.leave c).2, x)) = sent
  obtain ⟨answer, after⟩ := sent
  cases answer with
  | ok departure =>
    simp only [settle, Except.map, SuspendedRequest.empties, SuspendedRequest.admitted?, decide_eq_true_eq]
  | error failure => rfl

theorem enter_eq (r : Registry) (ref : GameRef) (a : Application) (session : SessionRef) :
    r.enter ref a session =
      ((SuspendedRequest.placement (r.askGame ref (.join (a.entrant session))).1).map fun placement => ⟨ref, placement⟩,
        (r.askGame ref (.join (a.entrant session))).2.settle ref (r.askGame ref (.join (a.entrant session))).1
          (.enrol a session false)) := by
  have asked : r.askGame ref (.join (a.entrant session)) = _ :=
    r.sendTo_map ref (fun g _ x => g.join x (a.entrant session)) GameAnswer.joined
  rw [asked, enter, ← Application.entrant]
  generalize (r.sendTo ref fun g _ x => g.join x (a.entrant session)) = sent
  obtain ⟨answer, after⟩ := sent
  cases answer with
  | ok outcome => cases outcome <;> rfl
  | error failure => rfl

theorem unregister_dismisses {r : Registry} {c : ConnectionId} {m : Member} {ref : GameRef}
    (known : r.members.find? c = some m) (inside : m.game.bind r.gameRef? = some ref) :
    r.unregister c = (true, (r.forget c).depart ref c) := by
  have inside : m.game.bind (r.forget c).gameRef? = some ref := inside
  rw [forget] at inside
  simp only [unregister, known, inside]
  rfl

theorem join_begins {r : Registry} {a : Application} {session : SessionRef} (accepting : r.accepting = true)
    (known : r.members.find? a.connection = some { game := none, session }) (absent : r.games.find? a.game = none) :
    r.join a =
      let (ref, begun) := r.createGame a.game
      let (answer, asked) := begun.askGame ref (.join (a.entrant session))
      ((SuspendedRequest.placement answer).map fun placement => ⟨ref, placement⟩,
        asked.settle ref answer (.enrol a session true)) := by
  have begins := join_new accepting known rfl absent
  rw [enter_eq] at begins
  rw [begins]
  have ref : (r.createGame a.game).1 = ⟨a.game, r.nextGeneration⟩ := rfl
  simp only [ref]
  cases outcome : SuspendedRequest.placement ((r.createGame a.game).2.askGame ⟨a.game, r.nextGeneration⟩
      (.join (a.entrant session))).1 with
  | ok placement =>
    simp [settle, outcome, SuspendedRequest.empties, SuspendedRequest.admitted?, Except.map, Except.toOption]
  | error failure =>
    simp [settle, outcome, SuspendedRequest.empties, SuspendedRequest.admitted?, Except.map, Except.toOption]

/-- A message that takes the registry to a game is answered by what it does before, by the game, and by what it does
afterwards. -/
theorem answer_of_suspended {r sent : Registry} {q : RegistryRequest} {e : SuspendedRequest} {ref : GameRef}
    (goes : r.suspended? q = some (e, ref, sent)) :
    r.answer q =
      (conclusion ref (sent.askGame ref e.request).1 e,
        (sent.askGame ref e.request).2.settle ref (sent.askGame ref e.request).1 e) := by
  cases q with
  | unregister c =>
    obtain ⟨ref', found, same⟩ := Option.map_eq_some_iff.mp goes
    cases same
    obtain ⟨m, known, inside⟩ := Option.bind_eq_some_iff.mp found
    rw [answer, unregister_dismisses known inside, depart_eq]
    rfl
  | join a =>
    simp only [suspended?] at goes
    split at goes
    · rename_i session known
      split at goes
      · rename_i accepting
        split at goes
        · rename_i ref' there
          cases goes
          obtain ⟨h, found, rfl⟩ := gameRef?_eq_some there
          rw [answer, join_known accepting known rfl found, enter_eq]
          rfl
        · rename_i absent
          cases goes
          rw [answer, join_begins accepting known (Option.map_eq_none_iff.mp absent)]
          rfl
      · cases goes
    · cases goes
  | listing name =>
    obtain ⟨ref', found, same⟩ := Option.map_eq_some_iff.mp goes
    cases same
    obtain ⟨h, _, rfl⟩ := gameRef?_eq_some found
    have asked : r.askGame ⟨name, h.generation⟩ .count = _ :=
      r.sendTo_map ⟨name, h.generation⟩ (fun g _ x => (g.size, g, x)) GameAnswer.count
    simp only [answer, listing, found, SuspendedRequest.request]
    rw [asked]
    generalize (r.sendTo ⟨name, h.generation⟩ fun g _ x => (g.size, g, x)) = sent
    obtain ⟨answer, after⟩ := sent
    cases answer <;> rfl
  | _ => cases goes

end Registry

end Scrimmage
