/-
The program from its arguments to its output.

The arguments name a command; the settings are read before the command's own arguments are looked
at, and the templates only by a command that needs them.  `run` gives everything that the program
shows as one `Transcript`.
-/
import BuildFleet.CommandLine.Command
import BuildFleet.Rehearsal.Cloud
import BuildFleet.Schema.Convert
import BuildFleet.Settings.Precedence
import BuildFleet.Text.Terminal

namespace BuildFleet.CommandLine

open Rehearsal (Cloud)

/-- What surrounds the program. -/
structure Surroundings where
  /-- The variables of the process. -/
  environment : List (String × String)
  directory : Directory
  cloud : Cloud
  now : Moment
  /-- The number of pauses without an interruption. -/
  patience : Nat

/-! ### Log levels -/

/-- What the log level of the settings names. -/
inductive Threshold where
  /-- A level, by its number. -/
  | level (n : Nat)
  /-- The format of log entries, which is no level. -/
  | format (text : String)
deriving DecidableEq, Repr

/-- The names that a log level may have. -/
def thresholds : List (String × Threshold) :=
  [("CRITICAL", .level 50), ("FATAL", .level 50), ("ERROR", .level 40), ("WARNING", .level 30),
   ("WARN", .level 30), ("INFO", .level 20), ("DEBUG", .level 10), ("NOTSET", .level 0),
   ("BASIC_FORMAT", .format "%(levelname)s:%(name)s:%(message)s")]

/-- What a log level names, in any case; level 20 for an unknown one. -/
def thresholdOf (name : String) : Threshold :=
  (Entries.find? (Text.upper name) thresholds).getD (.level 20)

/-! ### What is shown -/

/-- What the program shows. -/
structure Transcript where
  code : Nat
  /-- The lines that are printed. -/
  lines : List String
  /-- What is printed about wrong usage. -/
  usage : String
  /-- The failure that ended the program, if one did. -/
  failure : Option Failure
  /-- The least serious level of log entries that are shown. -/
  logLevel : Option Threshold
  /-- The name of the application that the cloud was told. -/
  appName : Option String
  /-- The operations of the cloud. -/
  calls : List String
  /-- The pauses in seconds. -/
  pauses : List Nat
  /-- The log, in order. -/
  log : List LogEntry

/-! ### Usage -/

/-- The name of the program. -/
def programName : String := "cli"

/-- The program, or a command of it, as it is called. -/
def path : Option Verb → String
  | none => programName
  | some verb => s!"{programName} {verb.name}"

/-- The line that shows how something is called. -/
def usageLine : Option Verb → String
  | none => s!"Usage: {programName} [OPTIONS] COMMAND [ARGS]...\n"
  | some verb => s!"Usage: {path verb} [OPTIONS]\n"

/-- What is printed about wrong usage. -/
def usageText (verb : Option Verb) (error : UsageError) : String :=
  let usage :=
    if error.showsUsage then
      s!"{usageLine verb}Try '{path verb} {helpOption.name}' for help.\n\n"
    else ""
  s!"{usage}Error: {error.message}\n"

/-- Lines in two columns, the first one as wide as it has to be. -/
def columns (rows : List (String × String)) : List String :=
  let width := (rows.map (·.1.length)).foldl max 0
  rows.map fun (left, right) =>
    "  " ++ left ++ String.ofList (List.replicate (width - left.length) ' ') ++ "  " ++ right

/-- An option in two columns. -/
def optionRow (o : OptionSpec) : String × String :=
  (if o.takesValue then o.name ++ " TEXT" else o.name,
   if o.isRequired then o.help ++ "  [required]" else o.help)

/-- The help for a command. -/
def verbHelp (verb : Verb) : List String :=
  [usageLine (some verb), s!"  {verb.summary}\n", "Options:"] ++
    columns (verb.options.map optionRow)

/-- The help for the program. -/
def programHelp : List String :=
  [usageLine none, "  CLI commands for the EC2 fleet controller\n", "Options:"] ++
    columns [optionRow helpOption] ++ ["", "Commands:"] ++
    columns (Verb.all.map fun verb => (verb.name, verb.summary))

/-! ### The program -/

namespace Transcript

/-- The program has done nothing yet. -/
def start : Transcript :=
  { code := 0, lines := [], usage := "", failure := none, logLevel := none, appName := none
    calls := [], pauses := [], log := [] }

/-- Ends because of wrong usage. -/
def misused (t : Transcript) (verb : Option Verb) (error : UsageError) : Transcript :=
  { t with code := 2, usage := usageText verb error }

/-- Ends with a failure. -/
def failed (t : Transcript) (failure : Failure) : Transcript :=
  { t with code := 1, failure := some failure }

/-- Ends with help. -/
def helped (t : Transcript) (help : List String) : Transcript :=
  { t with lines := help }

/-- Writes more to the log. -/
def noting (t : Transcript) (entries : List LogEntry) : Transcript :=
  { t with log := t.log ++ entries }

/-- What is printed, in one text. -/
def output (t : Transcript) : String :=
  Text.unifyBreaks (String.join (t.lines.map (· ++ "\n")))

/-- What is printed about wrong usage, for a stream that no terminal reads. -/
def plainUsage (t : Transcript) : String :=
  Text.unifyBreaks (Text.withoutCommands t.usage)

end Transcript

/-- The seconds between two looks at the running sweeps. -/
def lookInterval : Nat := 1

/-- The controllers for the settings and the templates, and what loading these writes to the log. -/
def controllersFor (s : Settings) (directory : Directory) :
    List LogEntry × Except Failure (Controller Cloud) :=
  let (notes, catalog) := Catalog.load directory s.templatesFile
  (notes, do
    let controllers ←
      Controller.ofSettings s (← catalog) (Cloud.provider id fun cloud _ => cloud)
    return { controllers with isEager := true })

/-- Carries out an order with the controllers for the settings. -/
def runControllers (w : Surroundings) (s : Settings) (order : Order) (t : Transcript) :
    Transcript :=
  let (notes, controllers) := controllersFor s w.directory
  let t := { t with appName := some s.appName }.noting notes
  match controllers with
  | .error failure => t.failed failure
  | .ok c =>
    let (outcome, fleet) := order.carryOut c s w.patience (.fresh w.cloud w.now)
    let t := { t with calls := fleet.cloud.calls }.noting fleet.log
    match outcome with
    | .error failure => t.failed failure
    | .ok o =>
      { t with code := o.code, lines := o.lines, pauses := List.replicate o.pauses lookInterval }

/-- Carries out an order. -/
def runOrder (w : Surroundings) (s : Settings) (order : Order) (t : Transcript) : Transcript :=
  match order with
  | .showConfig => { t with lines := configLines s }
  | order => runControllers w s order t

/-- Reads what is asked of a command; none if it is help. -/
def readOrder (verb : Verb) (arguments : List String) : Except UsageError (Option Order) := do
  let scanned ← scan verb.options true arguments
  if (scanned.value? helpOption.name).isSome then return none
  let order ← verb.order scanned
  if scanned.rest.isEmpty then return some order else .error (.extraArguments scanned.rest)

/-- Runs a command. -/
def runVerb (w : Surroundings) (verb : Verb) (arguments : List String) : Transcript :=
  match Settings.load { given := [], environment := w.environment, directory := w.directory } with
  | .error failure => Transcript.start.failed failure
  | .ok s =>
    let t := { Transcript.start with logLevel := some (thresholdOf s.logLevel) }
    match readOrder verb arguments with
    | .error error => t.misused (some verb) error
    | .ok none => t.helped (verbHelp verb)
    | .ok (some order) => runOrder w s order t

/-- Goes through the program's own arguments, and on with those that follow them. -/
def scanProgram (arguments : List String) (go : List String → Transcript) : Transcript :=
  match scan [helpOption] false arguments with
  | .error error => Transcript.start.misused none error
  | .ok scanned =>
    if (scanned.value? helpOption.name).isSome then Transcript.start.helped programHelp
    else go scanned.rest

/-- Runs the program.  Without arguments it explains itself; arguments from one on that is no
command are looked at once more, as it may be an option. -/
def run (w : Surroundings) (arguments : List String) : Transcript :=
  if arguments.isEmpty then
    { Transcript.start with code := 2, usage := String.join (programHelp.map (· ++ "\n")) }
  else
    scanProgram arguments fun
      | [] => Transcript.start.misused none .missingCommand
      | name :: rest =>
        match Verb.ofName? name with
        | some verb => runVerb w verb rest
        | none =>
          scanProgram (name :: rest) fun _ =>
            Transcript.start.misused none
              (.noSuchCommand name (similarTo name (Verb.all.map (·.name))))

end BuildFleet.CommandLine
