/-
Arguments of a command line.

`scan` goes through arguments from left to right.  An option is an argument that starts with a dash;
one that takes a value has it behind an equals sign, or else takes the next argument, whatever that
is.  After `--` there are no options any more.

A `UsageError` is what is wrong with a command line, and `UsageError.message` words it.
-/
import BuildFleet.Text.Quoted
import BuildFleet.Text.Similar
import BuildFleet.Text.Sorted

namespace BuildFleet.CommandLine

/-- An option of a command. -/
structure OptionSpec where
  /-- The name, with its dashes. -/
  name : String
  takesValue : Bool
  isRequired : Bool
  help : String
deriving DecidableEq, Repr

/-- What is wrong with a command line. -/
inductive UsageError where
  | noSuchOption (name : String) (similar : List String)
  | noValue (name : String)
  | strayValue (name : String)
  | missingOption (name : String)
  | extraArguments (arguments : List String)
  | noSuchCommand (name : String) (similar : List String)
  | missingCommand
deriving DecidableEq, Repr

namespace UsageError

/-- The hint at names that may have been meant. -/
def hint : List String → String
  | [] => ""
  | [name] => s!" Did you mean {Text.quoted name}?"
  | names => " (Did you mean one of: " ++ ", ".intercalate (names.map Text.quoted) ++ "?)"

/-- The error in words. -/
def message : UsageError → String
  | noSuchOption name similar =>
    s!"No such option {Text.quoted name}." ++ hint similar
  | noValue name => s!"Option {Text.quoted name} requires an argument."
  | strayValue name => s!"Option {Text.quoted name} does not take a value."
  | missingOption name => s!"Missing option {Text.quoted name}."
  | extraArguments [argument] => s!"Got unexpected extra argument ({argument})"
  | extraArguments arguments =>
    "Got unexpected extra arguments (" ++ " ".intercalate arguments ++ ")"
  | noSuchCommand name similar =>
    s!"No such command {Text.quoted name}." ++ hint similar
  | missingCommand => "Missing command."

/-- The error is reported together with the usage of the command. -/
def showsUsage : UsageError → Bool
  | noValue _ | strayValue _ => false
  | _ => true

end UsageError

/-- The names among some that are similar to a name, sorted. -/
def similarTo (name : String) (names : List String) : List String :=
  Text.sortedSet (names.filter (Text.isSimilar · name))

/-- What was found among arguments. -/
structure Scanned where
  /-- The options with their values, in order; an option without a value has the empty one. -/
  options : List (String × String)
  /-- The other arguments, in order. -/
  rest : List String
deriving DecidableEq, Repr

namespace Scanned

/-- The value of an option; the last one counts. -/
def value? (s : Scanned) (name : String) : Option String :=
  (s.options.reverse.find? (·.1 = name)).map (·.2)

/-- Adds an option in front. -/
def withOption (name value : String) (s : Scanned) : Scanned :=
  { s with options := (name, value) :: s.options }

/-- Adds an argument in front. -/
def withArgument (argument : String) (s : Scanned) : Scanned :=
  { s with rest := argument :: s.rest }

end Scanned

/-- Splits at the first equals sign, if there is one. -/
def splitEquals (argument : String) : String × Option String :=
  let cs := argument.toList
  match cs.dropWhile (· ≠ '=') with
  | [] => (argument, none)
  | _ :: value => (String.ofList (cs.takeWhile (· ≠ '=')), some (String.ofList value))

/-- The argument is written like an option. -/
def isOption (argument : String) : Bool :=
  match argument.toList with
  | '-' :: _ :: _ => true
  | _ => false

/-- The error for an option that there is not: after a single dash, each character would be an
option of its own. -/
def unknownOption (specs : List OptionSpec) (argument : String) : UsageError :=
  match argument.toList with
  | '-' :: '-' :: _ =>
    let name := (splitEquals argument).1
    .noSuchOption name (similarTo name (specs.map (·.name)))
  | _ => .noSuchOption (String.ofList (argument.toList.take 2)) []

/-- Reads an argument that is written like an option: the option, and its value if it has it behind
an equals sign. -/
def readOption (specs : List OptionSpec) (argument : String) :
    Except UsageError (OptionSpec × Option String) :=
  let (name, value) := splitEquals argument
  match specs.find? (·.name = name) with
  | none => .error (unknownOption specs argument)
  | some spec =>
    if value.isSome && !spec.takesValue then .error (.strayValue name) else .ok (spec, value)

/-- Goes through arguments while the value of the option `awaited` is still to come. -/
def scanAwaiting (specs : List OptionSpec) (intermixed : Bool) :
    (awaited : Option String) → List String → Except UsageError Scanned
  | none, [] => .ok ⟨[], []⟩
  | some name, [] => .error (.noValue name)
  | some name, value :: rest =>
    (scanAwaiting specs intermixed none rest).map (·.withOption name value)
  | none, argument :: rest =>
    if argument = "--" then .ok ⟨[], rest⟩
    else if isOption argument then do
      let (spec, value) ← readOption specs argument
      if spec.takesValue && value.isNone then scanAwaiting specs intermixed (some spec.name) rest
      else
        return (← scanAwaiting specs intermixed none rest).withOption spec.name (value.getD "")
    else if intermixed then
      (scanAwaiting specs intermixed none rest).map (·.withArgument argument)
    else .ok ⟨[], argument :: rest⟩

/-- Goes through arguments; unless options and arguments may be intermixed, the first argument that
is no option ends the options. -/
def scan (specs : List OptionSpec) (intermixed : Bool) (arguments : List String) :
    Except UsageError Scanned :=
  scanAwaiting specs intermixed none arguments

end BuildFleet.CommandLine
