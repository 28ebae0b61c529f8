/-
A cloud in memory.

The instances and spot requests of a `Cloud` are lists, a launch succeeds at once, and every
operation is written down.  Operations can be told to fail from some call on.

* **`Cloud.provider`** — the cloud as a provider;
* **`Cloud.configure`** — changes to the cloud from outside.
-/
import BuildFleet.Entries
import BuildFleet.Provider

namespace BuildFleet.Rehearsal

open Json (Value)

/-- An instance. -/
structure Instance where
  /-- Its machine image. -/
  image : String
  /-- Its state. -/
  state : String
deriving DecidableEq, Repr

/-- The operations that can be told to fail. -/
inductive Operation where
  | count
  | request
  | launch
  | wait
  | describe
  | terminate
deriving DecidableEq, Repr

/-- The operations. -/
def Operation.all : List Operation := [count, request, launch, wait, describe, terminate]

/-- The name of an operation. -/
def Operation.name : Operation → String
  | count => "count"
  | request => "request"
  | launch => "launch"
  | wait => "wait"
  | describe => "describe"
  | terminate => "terminate"

/-- How an operation fails. -/
structure Trouble where
  failure : Failure
  /-- The number of calls that succeed before. -/
  after : Nat
deriving DecidableEq, Repr

/-- A cloud. -/
structure Cloud where
  /-- The instances, by their ids. -/
  instances : List (String × Instance)
  /-- The states of the spot requests, by their ids. -/
  requests : List (String × Value)
  /-- Descriptions of instances that differ from what the cloud knows. -/
  descriptions : List (String × Value)
  /-- Launches add instances. -/
  recordsLaunches : Bool
  /-- The operations that fail. -/
  troubles : List (Operation × Trouble)
  /-- The number of ids given to instances. -/
  instanceIds : Nat
  /-- The number of ids given to spot requests. -/
  requestIds : Nat
  /-- The operations so far, in order. -/
  calls : List String

/-- Changes to a cloud. -/
structure CloudChange where
  /-- Images, and how many running instances to add of each. -/
  running : List (String × Nat)
  /-- States of instances. -/
  instances : List (String × String)
  /-- States of spot requests. -/
  requests : List (String × Value)
  /-- Descriptions of instances. -/
  descriptions : List (String × Value)
  /-- Whether launches add instances, if that changes. -/
  recordsLaunches : Option Bool
  /-- Operations that fail from now on, or no longer. -/
  troubles : List (Operation × Option Trouble)

namespace Cloud

/-- A cloud without instances. -/
def empty : Cloud :=
  { instances := [], requests := [], descriptions := [], recordsLaunches := true, troubles := []
    instanceIds := 0, requestIds := 0, calls := [] }

/-- A number with eight hexadecimal digits at least. -/
def hexadecimal (n : Nat) : String :=
  let digits := Nat.toDigits 16 n
  String.ofList (List.replicate (8 - digits.length) '0' ++ digits)

/-- The id that the next instance gets. -/
def nextInstanceId (c : Cloud) : String := "i-" ++ hexadecimal (c.instanceIds + 1)

/-- The id that the next spot request gets. -/
def nextRequestId (c : Cloud) : String := "sir-" ++ hexadecimal (c.requestIds + 1)

/-- Sets the state of an instance; an unknown one comes into being without an image. -/
def setState (c : Cloud) (id state : String) : Cloud :=
  let known := (Entries.find? id c.instances).getD ⟨"", state⟩
  { c with instances := Entries.put id { known with state } c.instances }

/-- Uses up the next instance id, and adds an instance with it if `present` is set. -/
def addInstance (c : Cloud) (new : Instance) (present : Bool) : Cloud :=
  { c with
    instances := if present then Entries.put c.nextInstanceId new c.instances else c.instances
    instanceIds := c.instanceIds + 1 }

/-- The number of instances that are pending or running, of one image or of all. -/
def live (c : Cloud) (image : Option String) : Nat :=
  c.instances.countP fun (_, i) =>
    (i.state = "pending" || i.state = "running") && (image.isNone || image = some i.image)

/-! ### Changes -/

/-- Adds running instances of an image. -/
def addRunning (c : Cloud) (image : String) : (count : Nat) → Cloud
  | 0 => c
  | n + 1 => (c.addInstance ⟨image, "running"⟩ true).addRunning image n

/-- Lets an operation fail, or no longer. -/
def setTrouble (c : Cloud) (operation : Operation) : Option Trouble → Cloud
  | some trouble => { c with troubles := Entries.put operation trouble c.troubles }
  | none => { c with troubles := Entries.erase operation c.troubles }

/-- Applies changes. -/
def configure (change : CloudChange) (c : Cloud) : Cloud :=
  let c := change.running.foldl (fun c (image, count) => c.addRunning image count) c
  let c := change.instances.foldl (fun c (id, state) => c.setState id state) c
  let c := change.troubles.foldl (fun c (operation, trouble) => c.setTrouble operation trouble) c
  { c with
    requests := Entries.putAll change.requests c.requests
    descriptions := Entries.putAll change.descriptions c.descriptions
    recordsLaunches := change.recordsLaunches.getD c.recordsLaunches }

/-! ### Operations -/

/-- Writes an operation down, and lets it fail if it is to. -/
def call (operation : Operation) (subject : String) : Action Cloud Unit := do
  Action.modify fun c => { c with calls := c.calls ++ [s!"{operation.name}:{subject}"] }
  match Entries.find? operation (← Action.reads (·.troubles)) with
  | none => return
  | some ⟨failure, 0⟩ => Action.fail failure
  | some ⟨failure, n + 1⟩ => Action.modify (·.setTrouble operation (some ⟨failure, n⟩))

/-- Counts instances. -/
def count (image : Option String) : Action Cloud Nat := do
  call .count (image.getD "*")
  Action.reads (·.live image)

/-- The state of a spot request; an unknown one is closed. -/
def requestState (id : String) : Action Cloud RequestState := do
  call .request id
  let requests ← Action.reads (·.requests)
  Action.ofExcept
    (RequestState.ofValue ((Entries.find? id requests).getD (.text RequestState.closed.name)))

/-- Launches an instance, or opens a spot request for one. -/
def launch (t : Template) : Action Cloud LaunchHandle := do
  call .launch t.name
  if t.spot then
    let id ← Action.reads (·.nextRequestId)
    Action.modify fun c =>
      { c with
        requests := Entries.put id (.text RequestState.opened.name) c.requests
        requestIds := c.requestIds + 1 }
    return ⟨"", t.imageId, some id⟩
  else
    let id ← Action.reads (·.nextInstanceId)
    Action.modify fun c => c.addInstance ⟨t.imageId, "pending"⟩ c.recordsLaunches
    return ⟨id, t.imageId, none⟩

/-- Fulfils the spot request of a launch, or lets its instance run. -/
def awaitRunning (h : LaunchHandle) (timeout : Nat) : Action Cloud String := do
  call .wait s!"{h.id}:{timeout}"
  if h.instanceId.isEmpty then
    let id ← Action.reads (·.nextInstanceId)
    Action.modify fun c =>
      let c := c.addInstance ⟨h.imageId, "running"⟩ c.recordsLaunches
      match h.spotRequest with
      | some request =>
        { c with requests := Entries.put request (.text RequestState.active.name) c.requests }
      | none => c
    return id
  else
    Action.modify fun c =>
      if (Entries.find? h.instanceId c.instances).isSome then c.setState h.instanceId "running"
      else c
    return h.instanceId

/-- The description of an instance. -/
def describe (id : String) : Action Cloud Value := do
  call .describe id
  match Entries.find? id (← Action.reads (·.descriptions)) with
  | some v => return v
  | none =>
    match Entries.find? id (← Action.reads (·.instances)) with
    | none => Action.fail (.provider s!"Instance {id} not found")
    | some i =>
      return .object [("InstanceId", .text id), ("ImageId", .text i.image),
        ("State", .object [("Name", .text i.state)])]

/-- Ends an instance, if it is known. -/
def terminate (id : String) : Action Cloud Unit := do
  call .terminate id
  Action.modify fun c =>
    if (Entries.find? id c.instances).isSome then c.setState id "terminated" else c

/-- A cloud that is a part of the world, as a provider. -/
def provider {σ : Type} (part : σ → Cloud) (put : Cloud → σ → σ) : Provider σ :=
  { count := fun image => (count image).onPart part put
    requestState := fun id => (requestState id).onPart part put
    launch := fun t => (launch t).onPart part put
    awaitRunning := fun h timeout => (awaitRunning h timeout).onPart part put
    describe := fun id => (describe id).onPart part put
    terminate := fun id => (terminate id).onPart part put }

end Cloud

end BuildFleet.Rehearsal
