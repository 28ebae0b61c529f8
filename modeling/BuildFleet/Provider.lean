/-
Compute providers.

A `Provider` is what the controllers need of a cloud: it counts, launches, awaits, describes and
ends instances.  Each operation is a step on the part of the world that the provider stands for, so
a statement about every provider is a statement about every course of events outside.
-/
import BuildFleet.Action
import BuildFleet.Node
import BuildFleet.RequestState

namespace BuildFleet

open Json (Value)

/-- A cloud that instances are launched in. -/
structure Provider (σ : Type) where
  /-- The number of instances that are pending or running, of one image or of all. -/
  count : Option String → Action σ Nat
  /-- The state of a spot request. -/
  requestState : String → Action σ RequestState
  /-- Launches one instance of a template. -/
  launch : Template → Action σ LaunchHandle
  /-- Waits so many seconds for a launch to come up, and gives the id of its instance. -/
  awaitRunning : LaunchHandle → Nat → Action σ String
  /-- The description of an instance. -/
  describe : String → Action σ Value
  /-- Ends an instance. -/
  terminate : String → Action σ Unit

end BuildFleet
