import Scrimmage.Game
import Scrimmage.Metrics.Readings
import Scrimmage.StandIn

namespace Scrimmage

/-- A game on its own, without a registry: stand-ins join it and leave it, and its capacity may be anything. -/
structure Practice where
  hosted : HostedGame
  exchange : Exchange
  standIns : StandIns
  readings : Readings

namespace Practice

def create (name : String) (capacity : Nat) : Practice :=
  { hosted := .start 0 name capacity, exchange := .empty, standIns := .empty, readings := .none }

/-- Does something with the stand-ins. -/
def onStandIns {α : Type} (p : Practice) (f : StandIns → Exchange → α × StandIns × Exchange) :
    α × Practice :=
  let (a, standIns, exchange) := f p.standIns p.exchange
  (a, { p with standIns, exchange })

def ask (p : Practice) (q : GameRequest) : Except Failure GameAnswer × Practice :=
  let (answer, hosted, exchange) := p.hosted.ask p.exchange q
  (answer, { p with hosted, exchange })

def join (p : Practice) (c : ConnectionId) (nick : String) (team : TeamWish) (id : Option Json.Value) :
    Except Failure GameAnswer × Practice :=
  let (standIn, p) := p.onStandIns (·.summon · c)
  p.ask (.join { connection := c, nick, team, session := standIn.ref, id })

/-- Stops the game; whether it had been stopped before. -/
def stop (p : Practice) : Bool × Practice := (!p.hosted.running, { p with hosted := p.hosted.stop })

def report (p : Practice) : Report × Practice :=
  let report := p.readings.read p.exchange.telemetry.journal
  (report, { p with readings := report.counters })

end Practice

end Scrimmage
