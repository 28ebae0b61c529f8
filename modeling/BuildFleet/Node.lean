/-
Nodes.

A node is a launched instance that runs builds.  It knows whether it is connected, how many of its
executors are busy, and since when it has been idle:

* **`Node.markOnline`** — the idle clock starts when an idle node comes online;
* **`Node.setBusy`** — the idle clock restarts when the last executor comes free, and stops as long
  as one is busy.
-/
import BuildFleet.Clock.Moment
import BuildFleet.Failure
import BuildFleet.Template.Basic

namespace BuildFleet

open Json (Value)

/-- Whether a node is connected. -/
inductive NodeStatus where
  | offline
  | online
deriving DecidableEq, Repr

namespace NodeStatus

/-- The statuses. -/
def all : List NodeStatus := [offline, online]

/-- The name of a status. -/
def name : NodeStatus → String
  | offline => "offline"
  | online => "online"

/-- The status with a name. -/
def ofName (s : String) : Except Failure NodeStatus :=
  match all.find? (·.name = s) with
  | some status => .ok status
  | none => .error (.badValue s!"{Text.quoted s} is not a valid NodeStatus")

end NodeStatus

/-- What the provider gives for a launch.  A spot launch has no instance until its request is
fulfilled. -/
structure LaunchHandle where
  /-- The id of the instance; empty as long as there is none. -/
  instanceId : String
  imageId : String
  /-- The id of the spot request, for a spot launch. -/
  spotRequest : Option String
deriving DecidableEq, Repr

/-- The id that names a launch: that of its instance, or of its spot request while there is no
instance. -/
def LaunchHandle.id (h : LaunchHandle) : String :=
  if h.instanceId.isEmpty then h.spotRequest.getD (Value.constant none) else h.instanceId

/-- A launched instance. -/
structure Node where
  /-- The name, which never changes. -/
  name : String
  /-- The id of the instance; empty as long as there is none. -/
  instanceId : String
  /-- The machine image, as the provider reports it. -/
  imageId : Value
  /-- The labels that the node serves. -/
  labelString : String
  template : String
  executors : Int
  /-- The spot request that the node came from. -/
  spotRequest : Option String
  status : NodeStatus
  busy : Int
  /-- Since when all executors have been idle. -/
  idleSince : Option Moment
deriving Repr

namespace Node

/-- The name of a node: its template and the id of the launch or of the instance. -/
def nameFor (template id : String) : String := s!"{template} ({id})"

/-- A new node of a template. -/
def ofTemplate (t : Template) (id instanceId : String) (imageId : Value)
    (spotRequest : Option String) : Node :=
  { name := nameFor t.name id, instanceId, imageId, labelString := t.labelString
    template := t.name, executors := t.executors.val, spotRequest, status := .offline, busy := 0
    idleSince := none }

/-- The node for a launch. -/
def ofLaunch (t : Template) (h : LaunchHandle) : Node :=
  ofTemplate t h.id h.instanceId (.text h.imageId) h.spotRequest

/-! ### State -/

/-- The node is connected. -/
def isOnline (n : Node) : Bool := n.status = .online

/-- No executor is busy. -/
def isIdle (n : Node) : Bool := n.busy = 0

/-- An executor is free. -/
def hasIdleExecutor (n : Node) : Bool := n.busy < n.executors

/-- The node is connected and has a free executor. -/
def isSpare (n : Node) : Bool := n.isOnline && n.hasIdleExecutor

/-- The spot request of a node that is not connected. -/
def awaitedRequest? (n : Node) : Option String :=
  if n.isOnline then none else n.spotRequest.filter (!·.isEmpty)

/-! ### Changes -/

/-- Connects the node. -/
def markOnline (now : Moment) (n : Node) : Node :=
  { n with
    status := .online
    idleSince := if n.isIdle && n.idleSince.isNone then some now else n.idleSince }

/-- Disconnects the node. -/
def markOffline (n : Node) : Node := { n with status := .offline }

/-- A number of busy executors within what the node has. -/
def clampBusy (n : Node) (busy : Int) : Int := max 0 (min busy n.executors)

/-- Sets the number of busy executors. -/
def setBusy (busy : Int) (now : Moment) (n : Node) : Node :=
  let busy := n.clampBusy busy
  { n with
    busy
    idleSince :=
      if busy = 0 && 0 < n.busy then some now else if 0 < busy then none else n.idleSince }

/-- Sets the id of the instance. -/
def setInstance (id : String) (n : Node) : Node := { n with instanceId := id }

@[simp]
theorem name_markOnline (now : Moment) (n : Node) : (n.markOnline now).name = n.name := rfl

@[simp]
theorem name_markOffline (n : Node) : n.markOffline.name = n.name := rfl

@[simp]
theorem name_setBusy (busy : Int) (now : Moment) (n : Node) :
    (n.setBusy busy now).name = n.name := rfl

@[simp]
theorem name_setInstance (id : String) (n : Node) : (n.setInstance id).name = n.name := rfl

end Node

end BuildFleet
