/-
Requests to the EC2 service.

`Request` lists the requests that the controllers make; `Request.method` and `Request.arguments` are
their names and parameters in the interface of the service.
-/
import BuildFleet.Json.Value
import BuildFleet.Template.Basic

namespace BuildFleet.Ec2

open Json (Value)

/-- The states in which an instance counts. -/
def countableStates : List String := ["pending", "running"]

/-- The seconds between two looks of the service at an instance that is to run. -/
def waiterDelay : Nat := 15

/-- What a launch asks for, on demand or as a spot request. -/
structure LaunchOrder where
  template : Template
  /-- The name of the application, a tag of the instance. -/
  appName : String
deriving DecidableEq, Repr

/-- A request to the service. -/
inductive Request where
  /-- All pages of the instances that count, of one image or of all. -/
  | list (image : Option String)
  /-- The spot requests with an id. -/
  | spotRequest (id : Value)
  /-- One instance on demand. -/
  | run (order : LaunchOrder)
  /-- One instance as spot capacity. -/
  | requestSpot (order : LaunchOrder)
  /-- To wait until an instance runs, with so many looks at it. -/
  | awaitRunning (id : Value) (looks : Int)
  | describe (id : String)
  | terminate (id : String)
deriving Repr

namespace LaunchOrder

/-- The tags of the instance: the controller's own, overridden and followed by those of the
template. -/
def tags (o : LaunchOrder) : List (String × Value) :=
  Entries.putAll (o.template.tags.map fun (key, value) => (key, .text value))
    [("Name", .text s!"{o.appName}-{o.template.name}"), ("CreatedBy", .text o.appName),
     ("Template", .text o.template.name)]

/-- The tags for a kind of resource. -/
def tagSpecifications (o : LaunchOrder) (resource : String) : Value :=
  .list [.object [("ResourceType", .text resource),
    ("Tags", .list (o.tags.map fun (key, value) =>
      .object [("Key", .text key), ("Value", value)]))]]

/-- A parameter that is left out when it is absent or empty. -/
def ifGiven (name : String) : Option String → List (String × Value)
  | some s => if s.isEmpty then [] else [(name, .text s)]
  | none => []

/-- The machine to launch. -/
def specification (o : LaunchOrder) : List (String × Value) :=
  [("ImageId", .text o.template.imageId), ("InstanceType", .text o.template.instanceType)] ++
    ifGiven "KeyName" o.template.keyName ++
    (if o.template.securityGroupIds.isEmpty then []
     else [("SecurityGroupIds", .list (o.template.securityGroupIds.map .text))]) ++
    ifGiven "SubnetId" o.template.subnetId

end LaunchOrder

namespace Request

/-- The name of a request. -/
def method : Request → String
  | list _ => "paginate:describe_instances"
  | spotRequest _ => "describe_spot_instance_requests"
  | run _ => "run_instances"
  | requestSpot _ => "request_spot_instances"
  | awaitRunning .. => "wait:instance_running"
  | describe _ => "describe_instances"
  | terminate _ => "terminate_instances"

/-- A filter of instances. -/
def filter (name : String) (values : List String) : Value :=
  .object [("Name", .text name), ("Values", .list (values.map .text))]

/-- The parameters of a request. -/
def arguments : Request → List (String × Value)
  | list image =>
    [("Filters", .list (filter "instance-state-name" countableStates ::
      match image with
      | some id => [filter "image-id" [id]]
      | none => []))]
  | spotRequest id => [("SpotInstanceRequestIds", .list [id])]
  | run o =>
    [("MinCount", .int 1), ("MaxCount", .int 1),
     ("TagSpecifications", o.tagSpecifications "instance")] ++ o.specification
  | requestSpot o =>
    [("InstanceCount", .int 1), ("Type", .text "one-time"),
     ("LaunchSpecification", .object o.specification),
     ("TagSpecifications", o.tagSpecifications "spot-instances-request")] ++
      LaunchOrder.ifGiven "SpotPrice" o.template.spotMaxPrice
  | awaitRunning id looks =>
    [("InstanceIds", .list [id]),
     ("WaiterConfig", .object [("Delay", .int waiterDelay), ("MaxAttempts", .int looks)])]
  | describe id => [("InstanceIds", .list [.text id])]
  | terminate id => [("InstanceIds", .list [.text id])]

end Request

end BuildFleet.Ec2
