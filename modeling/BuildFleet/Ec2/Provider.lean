/-
The EC2 service as a provider.

`Compute.provider` offers the operations on instances in the form in which the controllers use
them.  Ids, which the service may reply in any shape, become texts, and an absent one the empty
text.
-/
import BuildFleet.Ec2.Compute
import BuildFleet.Provider

namespace BuildFleet.Ec2

open Json (Value)

/-- An id as a text. -/
def idText (id : Value) : String := if id.isTruthy then id.display else ""

/-- A handle with ids as texts. -/
def Handle.toLaunchHandle (h : Handle) : LaunchHandle :=
  { instanceId := idText h.instanceId, imageId := idText h.imageId
    spotRequest := if h.spotRequestId.isTruthy then some (idText h.spotRequestId) else none }

/-- A handle from ids as texts. -/
def Handle.ofLaunchHandle (h : LaunchHandle) : Handle :=
  { instanceId := .text h.instanceId, imageId := .text h.imageId
    spotRequestId := Template.optionalText h.spotRequest }

namespace Compute

variable {σ τ : Type} [Duration τ]

/-- The service as a provider that gives up a wait after so many looks at a spot request. -/
def provider (c : Compute σ τ) (looks : Nat) : Provider (Timeline σ τ) where
  count := c.count
  requestState id := c.requestState (.text id)
  launch t := do return (← c.launch t).toLaunchHandle
  awaitRunning h timeout := fun w =>
    let (outcome, _, w) := c.awaitRunning (Duration.seconds timeout) looks (.ofLaunchHandle h, w)
    (outcome.map idText, w)
  describe := c.describe
  terminate := c.terminate

end Compute

end BuildFleet.Ec2
