/-
The program.

`runProcess` gathers what surrounds the program and prints what it shows.  The cloud is one in
memory, so the program can be tried out without an account anywhere.
-/
import BuildFleet.CommandLine.Program
import Std.Time.DateTime.Timestamp

namespace BuildFleet.CommandLine

/-- The variables that settings are read from. -/
def variableNames : List String :=
  let names :=
    ["app_name", "deployment_mode", "aws_region", "aws_access_key_id", "aws_secret_access_key",
     "aws_endpoint_url", "instance_cap_str", "templates_file", "launch_workers",
     "launch_timeout_seconds", "initial_delay_seconds", "recurrence_period_seconds",
     "retention_disabled", "log_level"]
  Settings.sharedNames.map (·.2) ++ names.map fun name => Text.upper (Settings.ownVariable name)

/-- The variables that the values in a file of variables refer to. -/
def referencedNames (content : ByteArray) : List String :=
  match String.fromUTF8? content with
  | none => []
  | some s =>
    (Settings.VariablesFile.assignments s).flatMap fun a =>
      (Settings.VariablesFile.references ((a.2.getD "").toList)).map (·.name)

/-- The variables of the process with some names. -/
def readVariables (names : List String) : IO (List (String × String)) :=
  names.eraseDups.filterMapM fun name => do
    if name.isEmpty then return none
    return (← IO.getEnv name).map ((name, ·))

/-- The files at some paths; a path without a file is left out. -/
def readFiles (paths : List String) : IO (List (String × ByteArray)) :=
  paths.filterMapM fun (path : String) => do
    match ← (IO.FS.readBinFile path).toBaseIO with
    | .ok content => return some (path, content)
    | .error _ => return none

/-- The microseconds from the start of the year 1 to that of the year 1970. -/
def epoch : Nat := Moment.daysBeforeYear 1970 * Moment.day

/-- The time. -/
def readClock : IO Moment := do
  let seconds := (← Std.Time.Timestamp.now).toSecondsSinceUnixEpoch.val
  return ⟨epoch + seconds.toNat * Moment.second⟩

/-- Runs the program on what surrounds the process, and prints what it shows. -/
def runProcess (arguments : List String) : IO UInt32 := do
  let fromFile ← readFiles [Settings.variablesFile]
  let environment ← readVariables (variableNames ++ fromFile.flatMap (referencedNames ·.2))
  let settings := Settings.load { given := [], environment, directory := ⟨fromFile⟩ }
  let templates ← match settings with
    | .ok s => readFiles [s.templatesFile]
    | .error _ => pure []
  let t := run
    { environment, directory := ⟨fromFile ++ templates⟩, cloud := .empty, now := ← readClock
      patience := 0 }
    arguments
  IO.print t.output
  IO.eprint t.plainUsage
  match t.failure with
  | some failure => IO.eprintln failure.message
  | none => pure ()
  return t.code.toUInt32

end BuildFleet.CommandLine

def main (arguments : List String) : IO UInt32 :=
  BuildFleet.CommandLine.runProcess arguments
