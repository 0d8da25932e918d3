import Mathlib
import Scrimmage.Exchange
import Scrimmage.Game

namespace Scrimmage

namespace Exchange

@[simp] theorem outbox?_measure (x : Exchange) (f : Telemetry → Telemetry) (s : SessionRef) :
    (x.measure f).outbox? s = x.outbox? s := rfl

@[simp] theorem telemetry_offer (x : Exchange) (s : SessionRef) (command : Command) :
    (x.offer s command).telemetry = x.telemetry := by
  rw [offer]
  split <;> rfl

@[simp] theorem now_offer (x : Exchange) (s : SessionRef) (command : Command) : (x.offer s command).now = x.now := by
  rw [offer]
  split <;> rfl

theorem outbox?_modifyOutbox (x : Exchange) (s t : SessionRef) (f : Outbox → Outbox) :
    (x.modifyOutbox t f).outbox? s = if t.queue = s.queue then (x.outbox? s).map f else x.outbox? s := by
  simp only [outbox?, modifyOutbox, List.getElem?_modify]
  split <;> simp

theorem modifyOutbox_congr {x : Exchange} {s : SessionRef} {f g : Outbox → Outbox}
    (same : ∀ o, x.outbox? s = some o → f o = g o) : x.modifyOutbox s f = x.modifyOutbox s g := by
  have outboxes : x.outboxes.modify s.queue f = x.outboxes.modify s.queue g := by
    apply List.ext_getElem?
    intro i
    rw [List.getElem?_modify, List.getElem?_modify]
    split
    · rename_i here
      subst here
      cases found : x.outboxes[s.queue]? with
      | none => rfl
      | some o => exact congrArg some (same o found)
    · rfl
  simp only [modifyOutbox, outboxes]

theorem modifyOutbox_eq_self {x : Exchange} {s : SessionRef} {f : Outbox → Outbox}
    (fixed : ∀ o, x.outbox? s = some o → f o = o) : x.modifyOutbox s f = x := by
  rw [modifyOutbox_congr (g := id) fixed]
  simp [modifyOutbox]

theorem waiting_eq_of_outbox? {x y : Exchange} {s : SessionRef} (same : x.outbox? s = y.outbox? s) :
    x.waiting s = y.waiting s := by
  rw [waiting, waiting, same]

/-- The queue with commands at its end, if it still takes any. A queue that is shut takes nothing. -/
def extended (o : Outbox) (commands : List Command) : Outbox :=
  if o.isOpen then { o with waiting := o.waiting ++ commands } else o

@[simp] theorem extended_nil (o : Outbox) : extended o [] = o := by
  simp [extended]

theorem extended_append (o : Outbox) (commands more : List Command) :
    extended (extended o commands) more = extended o (commands ++ more) := by
  unfold extended
  split <;> simp_all

theorem outbox?_offer (x : Exchange) (s t : SessionRef) (command : Command) :
    (x.offer t command).outbox? s =
      (x.outbox? s).map (extended · (if t.queue = s.queue then [command] else [])) := by
  by_cases here : t.queue = s.queue
  · have same : x.outbox? t = x.outbox? s := by rw [outbox?, outbox?, here]
    rw [offer]
    cases found : x.outbox? s with
    | none => simp [accepts, same, found]
    | some o =>
      by_cases isOpen : o.isOpen
      · simp [accepts, same, found, isOpen, outbox?_modifyOutbox, here, extended, Outbox.push]
      · simp [accepts, same, found, isOpen, here, extended]
  · by_cases taken : x.accepts t
    · simp [offer, taken, outbox?_modifyOutbox, here]
    · simp [offer, taken, here]

theorem waiting_extended {x y : Exchange} {s : SessionRef} {commands : List Command}
    (after : y.outbox? s = (x.outbox? s).map (extended · commands)) :
    y.waiting s = x.waiting s ++ if x.accepts s then commands else [] := by
  rw [waiting, waiting, after, accepts]
  cases x.outbox? s with
  | none => simp
  | some o => by_cases isOpen : o.isOpen <;> simp [extended, isOpen]

theorem accepts_extended {x y : Exchange} {s : SessionRef} {commands : List Command}
    (after : y.outbox? s = (x.outbox? s).map (extended · commands)) : y.accepts s = x.accepts s := by
  rw [accepts, accepts, after]
  cases x.outbox? s with
  | none => rfl
  | some o => by_cases isOpen : o.isOpen <;> simp [extended, isOpen]

theorem telemetry_offers (x : Exchange) (command : Command) (sessions : List SessionRef) :
    (sessions.foldl (fun x t => x.offer t command) x).telemetry = x.telemetry := by
  induction sessions generalizing x with
  | nil => rfl
  | cons t sessions ih => exact (ih _).trans (telemetry_offer ..)

theorem now_offers (x : Exchange) (command : Command) (sessions : List SessionRef) :
    (sessions.foldl (fun x t => x.offer t command) x).now = x.now := by
  induction sessions generalizing x with
  | nil => rfl
  | cons t sessions ih => exact (ih _).trans (now_offer ..)

/-- A queue gets a command as often as it is the queue of one of the sessions. -/
theorem outbox?_offers (x : Exchange) (command : Command) (sessions : List SessionRef) (s : SessionRef) :
    (sessions.foldl (fun x t => x.offer t command) x).outbox? s =
      (x.outbox? s).map (extended · (List.replicate (sessions.countP (·.queue = s.queue)) command)) := by
  induction sessions generalizing x with
  | nil => simp
  | cons t sessions ih =>
    have step := ih (x.offer t command)
    rw [outbox?_offer, Option.map_map] at step
    refine step.trans (congrArg (Option.map · (x.outbox? s)) (funext fun o => ?_))
    rw [Function.comp_apply, extended_append]
    by_cases here : t.queue = s.queue
    · simp [here, List.replicate_succ]
    · simp [here]

end Exchange

/-- The commands that a relayed frame comes to in one queue. -/
def copies (p : Package) (s : SessionRef) (sessions : List SessionRef) : List Command :=
  List.replicate (sessions.countP (·.queue = s.queue)) (.write p)

@[simp] theorem Game.telemetry_relay (x : Exchange) (p : Package) (sessions : List SessionRef) :
    (Game.relay x p sessions).telemetry = x.telemetry :=
  x.telemetry_offers (.write p) sessions

theorem Game.outbox?_relay (x : Exchange) (p : Package) (sessions : List SessionRef) (s : SessionRef) :
    (Game.relay x p sessions).outbox? s = (x.outbox? s).map (Exchange.extended · (copies p s sessions)) :=
  x.outbox?_offers (.write p) sessions s

theorem Game.outbox?_broadcast (g : Game) (x : Exchange) (p : Package) (s : SessionRef) :
    (g.broadcast x p).outbox? s =
      (x.outbox? s).map (Exchange.extended · (copies p s (g.players.map (·.session)))) :=
  Game.outbox?_relay x p _ s

end Scrimmage
