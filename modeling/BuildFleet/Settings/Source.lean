/-
Where settings come from.

A setting is looked up among the values given outright, the variables of the process and those of a
file.  A setting `x` is the variable `FLEET_X`; the four settings of the service are also known
under the name that other tools use for them.  How a file of variables is read, and which value of a
setting counts, is a parameter.

* **`Gathering`** — how values are gathered from the sources;
* **`LawfulGathering`** — what is relied on in that;
* **`load`** — the settings that sources give.
-/
import BuildFleet.Files
import BuildFleet.Settings.Basic
import BuildFleet.Text.Letter

namespace BuildFleet.Settings

open Json (Value)
open Schema (Checked)

/-- The sources of settings. -/
structure Sources where
  /-- Values given outright. -/
  given : List (String × Value)
  /-- The variables of the process. -/
  environment : List (String × String)
  /-- The working directory. -/
  directory : Directory

/-! ### Names -/

/-- The names under which other tools know a setting. -/
def sharedNames : List (String × String) :=
  [("aws_region", "AWS_DEFAULT_REGION"), ("aws_access_key_id", "AWS_ACCESS_KEY_ID"),
   ("aws_secret_access_key", "AWS_SECRET_ACCESS_KEY"), ("aws_endpoint_url", "AWS_ENDPOINT_URL")]

/-- The name under which other tools know a setting, if there is one. -/
def sharedName? (name : String) : Option String :=
  (sharedNames.find? (·.1 = name)).map (·.2)

/-- The variable of a setting that is the controller's own. -/
def ownVariable (name : String) : String :=
  "fleet_" ++ name

/-- The last value with a name, in any case. -/
def findVariable {α : Type} (known : List (String × α)) (name : String) : Option α :=
  (known.reverse.find? fun v => Text.lower v.1 = Text.lower name).map (·.2)

/-- Where a setting that was found in a variable is reported: under its own name. -/
def named (raw : Raw) : Raw := fun name =>
  (raw name).map fun (n, v) => (if n = ownVariable name then name else n, v)

/-! ### Gathering -/

/-- A name, and its value if it has one. -/
abbrev Assignment := String × Option String

/-- How values are gathered from the sources of settings. -/
class Gathering where
  /-- The variables in the text of a file, for the variables of the process. -/
  variablesIn : List (String × String) → String → List Assignment
  /-- The values of the settings, with the names under which they were given, for the variables in
  the file. -/
  lookup : Sources → List Assignment → Raw

export Gathering (lookup)

/-- Where nothing is given outright and the file has no variables, a setting has the value of its
variable in the process, under the shared name before the own one and with the names in any case. -/
class LawfulGathering [Gathering] : Prop where
  lookup_environment (environment : List (String × String)) (directory : Directory)
    (name : String) : (lookup ⟨[], environment, directory⟩ [] name).map (·.2) =
      (((sharedName? name).bind (findVariable environment)) <|>
        findVariable environment (ownVariable name)).map .text

/-! ### The file of variables -/

/-- The usual file of variables. -/
def variablesFile : String := ".env"

/-- The name of the value that, given outright, names another file of variables, or is null to do
without one. -/
def variablesFileName : String := "_env_file"

/-- The path of the file of variables, if there is to be one. -/
def Sources.variablesFile? (s : Sources) : Option String :=
  match Value.lookup variablesFileName s.given with
  | some .null => none
  | some (.text path) => some path
  | _ => some variablesFile

/-- The variables in the file of variables; none without the file. -/
def fileVariables [Gathering] (s : Sources) : Except Failure (List Assignment) :=
  match s.variablesFile? with
  | none => .ok []
  | some path =>
    match s.directory.readText path with
    | .ok text => .ok (Gathering.variablesIn s.environment text)
    | .error .notText => .error (.unreadable path .notText)
    | .error _ => .ok []

/-- Reads the settings from their sources. -/
def load [Schema.Conversions] [Gathering] (s : Sources) : Except Failure Settings := do
  let fromFile ← fileVariables s
  (ofRaw (named (lookup s fromFile))).toExcept

end BuildFleet.Settings
