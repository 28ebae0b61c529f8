/-
States of spot requests.

A spot launch is first a request that the provider may or may not fulfil.  `RequestState.isPending`
holds as long as the request may still turn into a node.
-/
import BuildFleet.Failure
import BuildFleet.Json.Value

namespace BuildFleet

open Json (Value)

/-- The state of a spot request at the provider. -/
inductive RequestState where
  /-- Waiting to be fulfilled. -/
  | opened
  | active
  | closed
  | cancelled
  | failed
deriving DecidableEq, Repr

namespace RequestState

/-- The states. -/
def all : List RequestState := [opened, active, closed, cancelled, failed]

/-- The name of a state. -/
def name : RequestState → String
  | opened => "open"
  | active => "active"
  | closed => "closed"
  | cancelled => "cancelled"
  | failed => "failed"

/-- The state with a name. -/
def ofName? (s : String) : Option RequestState :=
  all.find? (·.name = s)

/-- The request may still turn into a node. -/
def isPending : RequestState → Bool
  | opened | active => true
  | _ => false

/-- The state that a value names. -/
def ofValue (v : Value) : Except Failure RequestState :=
  match v.text?.bind ofName? with
  | some state => .ok state
  | none => .error (.badValue s!"{v.inspect} is not a valid RequestState")

theorem ofName?_name (r : RequestState) : ofName? r.name = some r := by
  cases r <;> decide

end RequestState

end BuildFleet
