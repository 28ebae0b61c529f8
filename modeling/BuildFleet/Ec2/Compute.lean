/-
Instances of the EC2 service.

The operations on instances that the controllers need, each as one or more requests to a client of
the service:

* **`count`** — counts the instances that are pending or running; repeated when the service is busy;
* **`requestState`** — the state of a spot request;
* **`launch`** — one instance, or a spot request for one;
* **`awaitRunning`** — waits for a spot request to be fulfilled and for the instance to run;
* **`describe`**, **`terminate`** — one instance by its id.

A fault of the service surfaces as a failure of the provider that says what was being done.
Replies are taken as they come: nothing checks their shape before a part is needed.
-/
import BuildFleet.Ec2.Request
import BuildFleet.Json.Access
import BuildFleet.RequestState
import BuildFleet.Retry

namespace BuildFleet.Ec2

open Json (Value)

/-- A client of the service: what a request comes to. -/
structure Client (σ τ : Type) where
  /-- Makes a request. -/
  send : Request → σ → Response σ τ Value

/-- A client, and how the controllers use it. -/
structure Compute (σ τ : Type) where
  client : Client σ τ
  /-- The name of the application, a tag of its instances. -/
  appName : String
  /-- The pause between two looks at a spot request. -/
  pollInterval : τ

/-- What a launch gives: the ids as the service replied them.  The instance has none as long as its
spot request is not fulfilled. -/
structure Handle where
  instanceId : Value
  imageId : Value
  spotRequestId : Value
deriving Repr

namespace Compute

variable {σ τ α : Type} [Duration τ]

/-- A step that consults the service. -/
abbrev Step (σ τ α : Type) := Action (Timeline σ τ) α

/-- Makes a request. -/
def send (c : Compute σ τ) (r : Request) : Step σ τ Value :=
  Timeline.consult (c.client.send r)

/-- A step whose faults of the service are failures of the provider at the work in hand. -/
def asProviderFailure (work : String) (step : Step σ τ α) : Step σ τ α := do
  match ← step.attempt with
  | .ok a => return a
  | .error (.service fault) => Action.fail (.provider s!"{work}: {fault.message}")
  | .error failure => Action.fail failure

/-! ### Counting -/

/-- The number of instances in the reservations of a page. -/
def countReservations : List Value → Except Failure Nat
  | [] => .ok 0
  | reservation :: rest => do
    let instances ← (← reservation.getField "Instances" (.list [])).needParts
    return instances.length + (← countReservations rest)

/-- The number of instances on pages. -/
def countPages : List Value → Except Failure Nat
  | [] => .ok 0
  | page :: rest => do
    let n ← countReservations (← (← page.getField "Reservations" (.list [])).needParts)
    return n + (← countPages rest)

/-- When a listing is repeated. -/
def listingPolicy : RetryPolicy τ :=
  { maxAttempts := 3, delay := Duration.half, backoff := Duration.seconds 2
    mayPass := Failure.isTransient }

/-- Lists the instances once, and counts them. -/
def listOnce (c : Compute σ τ) (image : Option String) : Step σ τ Nat := do
  let pages ← c.send (.list image)
  Action.ofExcept (do countPages (← pages.needParts))

/-- The number of instances that are pending or running, of one image or of all. -/
def count (c : Compute σ τ) (image : Option String) : Step σ τ Nat :=
  timed "count_instances" (asProviderFailure "Failed to count instances" do
    return (← retry listingPolicy "_describe_instances" (c.listOnce image)).getD 0)

/-! ### Spot requests -/

/-- The code of a reply that does not know the spot request. -/
def unknownRequestCode : String := "InvalidSpotInstanceRequestID.NotFound"

/-- The work of looking at a spot request. -/
def lookingAt (id : Value) : String := s!"Failed to describe spot request {id.display}"

/-- The spot requests in a reply. -/
def requestsOf (reply : Value) : Except Failure Value :=
  reply.getField "SpotInstanceRequests" (.list [])

/-- The state that a reply gives for a spot request.  A request that is not there is closed, and a
state that has no name here is a failed one. -/
def stateIn (id : Value) (reply : Value) : Step σ τ RequestState := do
  let requests ← Action.ofExcept (requestsOf reply)
  if !requests.isTruthy then return .closed
  let state ← Action.ofExcept (do (← requests.needFirst).needField "State")
  match RequestState.ofValue state with
  | .ok known => return known
  | .error _ =>
    Timeline.note .warning s!"Unknown spot request state {state.inspect} for {id.display}"
    return .failed

/-- The state of a spot request. -/
def requestState (c : Compute σ τ) (id : Value) : Step σ τ RequestState := do
  match ← (c.send (.spotRequest id)).attempt with
  | .ok reply => stateIn id reply
  | .error (.service (.reply _ none)) => Action.fail (.missing "Error")
  | .error (.service fault) =>
    if fault.code? = some unknownRequestCode then
      Timeline.note .debug s!"Spot request {id.display} not found, treating as closed"
      return .closed
    else Action.fail (.provider s!"{lookingAt id}: {fault.message}")
  | .error failure => Action.fail failure

/-! ### Launching -/

/-- The first instance in the reply to a launch on demand. -/
def launchedOnDemand (o : LaunchOrder) (reply : Value) : Step σ τ Handle := do
  let id ← Action.ofExcept
    (do (← (← reply.needField "Instances").needFirst).needField "InstanceId")
  Timeline.note .info s!"Launched instance {id.display} from {o.template.imageId}"
  return ⟨id, .text o.template.imageId, .null⟩

/-- The first spot request in the reply to a launch as spot capacity. -/
def launchedSpot (o : LaunchOrder) (reply : Value) : Step σ τ Handle := do
  let request ← Action.ofExcept (do (← reply.needField "SpotInstanceRequests").needFirst)
  let id ← Action.ofExcept (request.needField "SpotInstanceRequestId")
  Timeline.note .info s!"Requested spot instance {id.display} from {o.template.imageId}"
  let instanceId ← Action.ofExcept (request.getField "InstanceId" .null)
  return ⟨instanceId.orEmpty, .text o.template.imageId, id⟩

/-- Launches one instance of a template.  The handle of a spot launch has only the id of the request
until the request is fulfilled. -/
def launch (c : Compute σ τ) (t : Template) : Step σ τ Handle :=
  let order : LaunchOrder := ⟨t, c.appName⟩
  timed "launch" do
    let reply ← asProviderFailure s!"Failed to launch template {t.name}"
      (c.send (if t.spot then .requestSpot order else .run order))
    if t.spot then launchedSpot order reply else launchedOnDemand order reply

/-! ### Waiting -/

/-- What a look at a spot request shows. -/
inductive Sight where
  | fulfilled (id : Value)
  | ended (state : Value)
  | waiting
deriving Repr

/-- The states in which a request may still be fulfilled. -/
def isWaitingState (state : Value) : Bool :=
  state.text? = some RequestState.opened.name || state.text? = some RequestState.active.name

/-- What a reply shows of a spot request. -/
def sightOf (reply : Value) : Except Failure Sight := do
  let requests ← requestsOf reply
  if !requests.isTruthy then return .ended (.text RequestState.closed.name)
  let request ← requests.needFirst
  let id ← request.getField "InstanceId" .null
  if id.isTruthy then return .fulfilled id
  let state ← request.getField "State" .null
  return if isWaitingState state then .waiting else .ended state

/-- Looks at a spot request until it is fulfilled, it is over, or the deadline has passed, with a
pause between two looks; gives up undecided after a number of looks. -/
def awaitFulfilment (c : Compute σ τ) (id : Value) (deadline : τ) : (looks : Nat) → Step σ τ Value
  | 0 => Action.fail .undecided
  | looks + 1 => do
    let reply ← asProviderFailure (lookingAt id) (c.send (.spotRequest id))
    match ← Action.ofExcept (sightOf reply) with
    | .fulfilled instanceId => return instanceId
    | .ended state =>
      Action.fail (.provider s!"Spot request {id.display} ended in state {state.display}")
    | .waiting =>
      if Duration.atLeast (← Timeline.now) deadline then
        Action.fail (.launchTimeout s!"Spot request {id.display} was not fulfilled in time")
      else
        Timeline.pause c.pollInterval
        c.awaitFulfilment id deadline looks

/-- The number of looks at an instance that cover the time to the deadline, or a second if less is
left. -/
def looksUntil (deadline now : τ) : Except Failure Int :=
  (Duration.steps waiterDelay (Duration.orAtLeast (Duration.sub deadline now) 1)).map (max 1)

/-- Waits for an instance to run. -/
def awaitInstance (c : Compute σ τ) (id : Value) (deadline : τ) : Step σ τ Value := do
  let looks ← Action.ofExcept (looksUntil deadline (← Timeline.now))
  match ← (c.send (.awaitRunning id looks)).attempt with
  | .ok _ =>
    Timeline.note .info s!"Instance {id.display} is running"
    return id
  | .error (.service (.waiter reason)) =>
    Action.fail (.launchTimeout
      s!"Instance {id.display} did not reach running: {(Fault.waiter reason).message}")
  | .error (.service fault) =>
    Action.fail (.provider s!"Failed waiting for instance {id.display}: {fault.message}")
  | .error failure => Action.fail failure

/-- Waits for a launch to come up, and gives the id of its instance, which the handle keeps as soon
as it is known. -/
def awaitRunning (c : Compute σ τ) (timeout : τ) (looks : Nat) :
    Action (Handle × Timeline σ τ) Value := do
  let outside {β : Type} (step : Step σ τ β) : Action (Handle × Timeline σ τ) β :=
    step.onPart (·.2) fun w (handle, _) => (handle, w)
  let deadline := Duration.add (← outside Timeline.now) timeout
  let handle ← Action.reads (·.1)
  if !handle.instanceId.isTruthy && handle.spotRequestId.isTruthy then
    let id ← outside (c.awaitFulfilment handle.spotRequestId deadline looks)
    Action.modify fun (handle, w) => ({ handle with instanceId := id }, w)
  let id ← Action.reads (·.1.instanceId)
  outside (c.awaitInstance id deadline)

/-! ### Single instances -/

/-- The first instance in some reservations. -/
def firstInReservations : List Value → Except Failure (Option Value)
  | [] => .ok none
  | reservation :: rest => do
    match ← (← reservation.getField "Instances" (.list [])).needParts with
    | found :: _ => return some found
    | [] => firstInReservations rest

/-- The description of an instance. -/
def describe (c : Compute σ τ) (id : String) : Step σ τ Value := do
  let reply ← asProviderFailure s!"Failed to describe instance {id}" (c.send (.describe id))
  let found ← Action.ofExcept
    (do firstInReservations (← (← reply.getField "Reservations" (.list [])).needParts))
  match found with
  | some v => return v
  | none => Action.fail (.provider s!"Instance {id} not found")

/-- Ends an instance. -/
def terminate (c : Compute σ τ) (id : String) : Step σ τ Unit :=
  timed "terminate" do
    let _ ← asProviderFailure s!"Failed to terminate instance {id}" (c.send (.terminate id))
    Timeline.note .info s!"Terminated instance {id}"

end Compute

end BuildFleet.Ec2
