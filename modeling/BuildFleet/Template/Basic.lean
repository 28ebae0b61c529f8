/-
Templates.

A template describes one kind of node: what to launch for it, how many executors an instance
contributes, how many idle instances are to be kept ready and how long a surplus one may idle.

* **`Template.matches`** — the template serves a label;
* **`Template.isPrimedAt`** — its primed target applies at a moment;
* **`Template.ofValue`**, **`Template.toValue`** — templates in configuration files.
-/
import BuildFleet.Cap
import BuildFleet.Window

namespace BuildFleet

open Json (Value)
open Schema (Checked)

/-- The configuration of one kind of node. -/
structure Template where
  /-- The name by which the template is launched. -/
  name : String
  imageId : String
  instanceType : String
  /-- The executors that one instance contributes. -/
  executors : { n : Nat // 0 < n }
  /-- The most instances of the image. -/
  instanceCap : Nat
  /-- The idle instances to keep ready. -/
  primed : Nat
  /-- When idle instances are kept ready. -/
  windows : List Window
  /-- The labels that the template serves, separated by single spaces. -/
  labelString : String
  /-- The minutes after which a surplus idle instance is terminated; 0 for never. -/
  idleMinutes : Nat
  /-- Ask for spot capacity. -/
  spot : Bool
  /-- The highest price for spot capacity. -/
  spotMaxPrice : Option String
  keyName : Option String
  securityGroupIds : List String
  subnetId : Option String
  /-- The tags of the instances, each key once. -/
  tags : List (String × String)
deriving DecidableEq, Repr

namespace Template

/-! ### Labels and windows -/

/-- The single labels that the template serves. -/
def labels (t : Template) : List String :=
  Text.words t.labelString

/-- The template serves the label: it is the whole label string or one of the single labels.
Without a label every template serves. -/
def serves (t : Template) : Option String → Bool
  | none => true
  | some label =>
    let label := Text.trim label
    label = t.labelString || t.labels.contains label

/-- The primed target applies at the moment. -/
def isPrimedAt (t : Template) (now : Moment) : Bool :=
  Window.anyCovers t.windows now

/-! ### Configuration -/

/-- The minutes that stand in for a malformed idle time. -/
def defaultIdleMinutes : Nat := 30

/-- Reads a cap: a text or null is a configured cap, and any other value an integer. -/
def capOfValue [Schema.Conversions] (v : Value) : Checked Nat :=
  match v with
  | .null | .text _ | .brokenText _ =>
    match Cap.ofValue v with
    | .ok n => Schema.asNat (.int n)
    | .error fault => .reject (.rule fault.message)
  | v => Schema.asNat v

/-- Reads an idle time: null and a blank text mean never, and a malformed text is replaced by
`defaultIdleMinutes`. -/
def idleOfValue [Schema.Conversions] (v : Value) : Checked Nat :=
  match v with
  | .null => .accept 0
  | .text s =>
    if (Text.trim s).isEmpty then .accept 0
    else
      match Text.readInteger (Text.trim s) with
      | .ok n => Schema.asNat (.int n)
      | .error _ => malformed
  | .brokenText _ => malformed
  | v => Schema.asNat v
where
  malformed : Checked Nat :=
    .acceptNoting
      ⟨.info, s!"Malformed idle termination value: {v.inspect}, using {defaultIdleMinutes}"⟩
      defaultIdleMinutes

/-- Reads a label string: the words of the text of any value, and none for an absent value. -/
def labelsOfValue (v : Value) : Checked String :=
  .accept (Text.unwords (Text.words (if v.isTruthy then v.display else "")))

/-- Reads a template. -/
def ofValue [Schema.Conversions] : Value → Checked Template :=
  Schema.asModel fun fields =>
    Template.mk <$> Schema.required fields "name" Schema.asNonemptyText
      <*> Schema.required fields "image_id" Schema.asNonemptyText
      <*> Schema.optional fields "instance_type" "t3.medium" Schema.asText
      <*> Schema.optional fields "num_executors" ⟨1, Nat.one_pos⟩ Schema.asPositive
      <*> Schema.optional fields "instance_cap" Cap.unlimited capOfValue
      <*> Schema.optional fields "num_primed_instances" 0 Schema.asNat
      <*> Schema.optional fields "primed_windows" [] (Schema.asList Window.ofValue)
      <*> Schema.optional fields "label_string" "" labelsOfValue
      <*> Schema.optional fields "idle_termination_minutes" 0 idleOfValue
      <*> Schema.optional fields "spot" false Schema.asBool
      <*> Schema.optional fields "spot_max_price" none (Schema.asOptional Schema.asText)
      <*> Schema.optional fields "key_name" none (Schema.asOptional Schema.asText)
      <*> Schema.optional fields "security_group_ids" [] (Schema.asList Schema.asText)
      <*> Schema.optional fields "subnet_id" none (Schema.asOptional Schema.asText)
      <*> Schema.optional fields "tags" [] (Schema.asFields Schema.asText)

/-- A text or null. -/
def optionalText : Option String → Value
  | none => .null
  | some s => .text s

/-- The fields of a template, as a value that is read as it. -/
def toValue (t : Template) : Value :=
  .object
    [("name", .text t.name), ("image_id", .text t.imageId),
     ("instance_type", .text t.instanceType), ("num_executors", .int t.executors.val),
     ("instance_cap", .int t.instanceCap), ("num_primed_instances", .int t.primed),
     ("primed_windows", .list (t.windows.map Window.toValue)),
     ("label_string", .text t.labelString), ("idle_termination_minutes", .int t.idleMinutes),
     ("spot", .bool t.spot), ("spot_max_price", optionalText t.spotMaxPrice),
     ("key_name", optionalText t.keyName),
     ("security_group_ids", .list (t.securityGroupIds.map .text)),
     ("subnet_id", optionalText t.subnetId),
     ("tags", .object (t.tags.map fun (k, v) => (k, .text v)))]

end Template

end BuildFleet
