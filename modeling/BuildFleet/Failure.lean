/-
Why an operation did not complete.

Each constructor of `Failure` is a cause.  `Failure.message` words it, `Failure.display` is its text
inside a log message, and `Failure.isFleet` tells the failures that the controllers declare
themselves from those that reach them from outside.
-/
import BuildFleet.Ec2.Fault
import BuildFleet.Schema.Issue
import BuildFleet.Text.Quoted

namespace BuildFleet

/-- How a value differs from the shape that a step relies on. -/
inductive Misfit where
  /-- The value has no parts, or not the operation that is needed. -/
  | noSuchPart
  /-- The value is of another kind than the operation needs. -/
  | wrongKind
  /-- A list ends before the item that is needed. -/
  | noSuchItem
deriving DecidableEq, Repr

/-- Why a file of templates could not be read. -/
inductive FileFault where
  | absent
  | directory
  /-- A step on the way is not that of a directory. -/
  | notDirectory
  | nameTooLong
  /-- The name has a NUL in it, which no name has. -/
  | nulInName
  | notText
  | notJson
  /-- The content is a list, or else an object, that is nested too deeply. -/
  | tooDeep (isList : Bool)
deriving DecidableEq, Repr

/-- Why an operation did not complete. -/
inductive Failure where
  /-- The compute provider could not be reached or rejected a request. -/
  | provider (detail : String)
  /-- An instance did not reach the running state in time. -/
  | launchTimeout (detail : String)
  /-- The fleet is in trouble for a reason of no special kind. -/
  | fleet (detail : String)
  | noSuchTemplate (name : String)
  | noTemplates
  /-- A cap refused the launch of the template. -/
  | capReached (template : String)
  /-- The EC2 service, or the way to it, failed. -/
  | service (fault : Ec2.Fault)
  | notRegistered (node : String)
  | noSuchNode
  /-- A field or an entry is absent. -/
  | missing (key : String)
  /-- An object was asked for the item at a position, as if it were a list. -/
  | noItem (position : Nat)
  /-- The launch pool does not take the task. -/
  | poolRefused (detail : String)
  /-- A value is outside of what is allowed. -/
  | badValue (detail : String)
  /-- A duration is too long to be counted. -/
  | infinite
  /-- A value does not have the shape that a step relies on. -/
  | misfit (kind : Misfit)
  /-- A value does not have the shape that was asked for. -/
  | invalid (issues : List Schema.Issue)
  /-- A file could not be read. -/
  | unreadable (path : String) (fault : FileFault)
  /-- A scripted world has no response left. -/
  | scriptEnded
  /-- A wait was given up before its outcome was known. -/
  | undecided
deriving DecidableEq, Repr

namespace Failure

/-- The controllers declare the failure themselves. -/
def isFleet : Failure → Bool
  | .provider _ | .launchTimeout _ | .fleet _ | .noSuchTemplate _ | .noTemplates
  | .capReached _ => true
  | _ => false

/-- The failure in words. -/
def message : Failure → String
  | .provider detail | .launchTimeout detail | .fleet detail | .poolRefused detail
  | .badValue detail => detail
  | .noSuchTemplate name => s!"No such template: {name}"
  | .noTemplates => "No templates configured"
  | .capReached template => s!"Instance cap reached for template {template}"
  | .service fault => fault.message
  | .notRegistered node => s!"Node {node} is not registered"
  | .noSuchNode => "no such node"
  | .missing key => key
  | .noItem position => toString position
  | .infinite => "cannot convert float infinity to integer"
  | .misfit .noSuchPart => "the value has no such part"
  | .misfit .wrongKind => "the value is of the wrong kind"
  | .misfit .noSuchItem => "list index out of range"
  | .invalid issues => s!"{issues.length} validation errors"
  | .unreadable path .absent =>
    s!"[Errno 2] No such file or directory: {Text.quoted path}"
  | .unreadable path .directory => s!"[Errno 21] Is a directory: {Text.quoted path}"
  | .unreadable path .notDirectory => s!"[Errno 20] Not a directory: {Text.quoted path}"
  | .unreadable path .nameTooLong => s!"[Errno 36] File name too long: {Text.quoted path}"
  | .unreadable _ .nulInName => "embedded null byte"
  | .unreadable _ .notText => "the content is not UTF-8"
  | .unreadable _ .notJson => "the content is not JSON"
  | .unreadable _ (.tooDeep isList) =>
    let kind := if isList then "array" else "object"
    s!"maximum recursion depth exceeded while decoding a JSON {kind} from a unicode string"
  | .scriptEnded => "no scripted response left"
  | .undecided => "the outcome is not known yet"

/-- The failure inside a log message: an absent entry is named between quotes. -/
def display : Failure → String
  | .notRegistered node => Text.quoted (message (.notRegistered node))
  | .missing key => Text.quoted key
  | failure => failure.message

end Failure

end BuildFleet
