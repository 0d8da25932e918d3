namespace Scrimmage

/-- What the health endpoints go by. `/health` answers as long as the process runs; `/ready` answers according
to whether the listener is bound and no shutdown has begun, and a shutdown is never taken back. -/
structure Health where
  listening : Bool
  draining : Bool
  deriving DecidableEq, Repr

namespace Health

def initial : Health := { listening := false, draining := false }

def markListening (h : Health) : Health := { h with listening := true }

def drain (h : Health) : Health := { h with draining := true }

def isReady (h : Health) : Bool := h.listening && !h.draining

inductive Endpoint
  | liveness
  | readiness
  deriving DecidableEq, Repr

/-- The path of a target, without the query. -/
def pathOf (target : List Char) : List Char := target.takeWhile (· ≠ '?')

/-- Which endpoint a path leads to; paths are compared as a whole. -/
def endpoint? (target : String) : Option Endpoint :=
  let path := String.ofList (pathOf target.toList)
  if path = "/health" then some .liveness
  else if path = "/ready" then some .readiness
  else none

/-- The methods that an endpoint serves. -/
def isServed (method : String) : Bool := method = "GET" || method = "HEAD"

/-- The status of an answer. -/
def status (h : Health) (method target : String) : Nat :=
  match endpoint? target with
  | none => 404
  | some endpoint =>
    if isServed method then
      match endpoint with
      | .liveness => 200
      | .readiness => if h.isReady then 200 else 503
    else 405

end Health

end Scrimmage
