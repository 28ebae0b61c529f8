/-
Settings of a controller process.

`Settings.ofRaw` checks the raw values of the settings, gathered from any source, and fills in
what is missing: the defaults of the fields, and the mock endpoint with its credentials in the two
local modes.  `Settings.environment` writes settings back as variables for another process.
-/
import BuildFleet.Cap
import BuildFleet.Schema.Conversions

namespace BuildFleet

open Json (Value)
open Schema (Checked)

/-- Where the controller runs. -/
inductive Mode where
  /-- On a developer's machine. -/
  | localDev
  /-- Against a mock of the service. -/
  | awsMock
  /-- Against the service. -/
  | awsProd
deriving DecidableEq, Repr

namespace Mode

/-- The modes. -/
def all : List Mode := [localDev, awsMock, awsProd]

/-- The name of a mode. -/
def name : Mode → String
  | localDev => "local-dev"
  | awsMock => "aws-mock"
  | awsProd => "aws-prod"

/-- The mode with a name. -/
def ofName? (s : String) : Option Mode :=
  all.find? (·.name = s)

/-- The names that modes had once, and their names now. -/
def oldNames : List (String × String) :=
  [("local-mock", "local-dev"), ("cloud", "aws-prod")]

/-- The name of today for a name. -/
def currentName (s : String) : String :=
  ((oldNames.find? (·.1 = s)).map (·.2)).getD s

/-- The mode works against a mock endpoint. -/
def isLocal : Mode → Bool
  | awsProd => false
  | _ => true

/-- Reads a mode by one of its names. -/
def ofText (s : String) : Checked Mode :=
  let s := currentName s
  match ofName? s with
  | some mode => .accept mode
  | none =>
    let names := Value.inspect (.list (all.map fun m => .text m.name))
    .reject (.rule s!"Invalid deployment_mode: {s}. Must be one of {names}")

/-- Reads a mode; a value with parts cannot be looked up as a name. -/
def ofValue [Schema.Conversions] (v : Value) : Checked Mode :=
  match v with
  | .list (_ :: _) | .object (_ :: _) | .brokenObject _ => .breakOff (.misfit .wrongKind)
  | v => (Schema.asText v).andThen ofText

end Mode

/-- The settings of a controller process. -/
structure Settings where
  /-- The name of the application, a tag of its instances. -/
  appName : String
  /-- Where the controller runs. -/
  mode : Mode
  /-- The region of the service. -/
  region : String
  accessKeyId : Option String
  secretAccessKey : Option String
  /-- The address of the service, if it is not the usual one. -/
  endpointUrl : Option String
  /-- The cap on all instances together, as text; empty for no bound. -/
  instanceCapText : String
  /-- The file that holds the templates. -/
  templatesFile : String
  /-- The number of launches that may run at once. -/
  launchWorkers : { n : Nat // 0 < n }
  /-- How many seconds a launch waits for its instance to run. -/
  launchTimeout : { n : Nat // 0 < n }
  /-- The seconds before the first sweep. -/
  initialDelay : Float
  /-- The seconds between sweeps. -/
  recurrencePeriod : Float
  /-- Never terminate idle nodes. -/
  retentionDisabled : Bool
  /-- The least serious level that is logged. -/
  logLevel : String
deriving Repr

namespace Settings

/-! ### Checking -/

/-- The address of the mock of the service. -/
def mockEndpoint : String := "http://localhost:5000"

/-- The key and the secret that the mock accepts. -/
def mockCredential : String := "mock"

/-- Reads the text of the cap: blank, or digits. -/
def capTextOfValue [Schema.Conversions] (v : Value) : Checked String :=
  (Schema.asText v).andThen fun s =>
    let s := Text.trim s
    if s.isEmpty || s.toList.all Text.isDigitLike then .accept s
    else
      let shown := Text.Piece.quoted (Text.Piece.trim v.displayPieces)
      .reject (.rule s!"Invalid instance cap: {shown}. Must be empty or a non-negative integer")

/-- In the local modes, the mock stands in for what is not set. -/
def withLocalDefaults (s : Settings) : Settings :=
  if s.mode.isLocal then
    { s with
      endpointUrl := some (s.endpointUrl.getD mockEndpoint)
      accessKeyId := some (s.accessKeyId.getD mockCredential)
      secretAccessKey := some (s.secretAccessKey.getD mockCredential) }
  else s

/-- The raw value of a setting, with the name under which it was given. -/
abbrev Raw := String → Option (String × Value)

/-- Reads one setting. -/
def field {α : Type} (raw : Raw) (name : String) (default : α) (read : Value → Checked α) :
    Checked α :=
  match raw name with
  | some (given, v) => (read v).under (.field given)
  | none => .accept default

/-- Checks the raw values of the settings. -/
def ofRaw [Schema.Conversions] (raw : Raw) : Checked Settings :=
  withLocalDefaults <$>
    (Settings.mk <$> field raw "app_name" "fleet-controller" Schema.asText
      <*> field raw "deployment_mode" .localDev Mode.ofValue
      <*> field raw "aws_region" "us-east-1" Schema.asText
      <*> field raw "aws_access_key_id" none (Schema.asOptional Schema.asText)
      <*> field raw "aws_secret_access_key" none (Schema.asOptional Schema.asText)
      <*> field raw "aws_endpoint_url" none (Schema.asOptional Schema.asText)
      <*> field raw "instance_cap_str" "" capTextOfValue
      <*> field raw "templates_file" "templates.json" Schema.asText
      <*> field raw "launch_workers" ⟨8, by decide⟩ Schema.asPositive
      <*> field raw "launch_timeout_seconds" ⟨600, by decide⟩ Schema.asPositive
      <*> field raw "initial_delay_seconds" 100.0 Schema.asNonnegativeDouble
      <*> field raw "recurrence_period_seconds" 10.0 Schema.asPositiveDouble
      <*> field raw "retention_disabled" false Schema.asBool
      <*> field raw "log_level" "INFO" Schema.asText)

/-! ### Use -/

/-- The cap on all instances together. -/
def instanceCap (s : Settings) : Except Failure Int :=
  Cap.ofText? s.instanceCapText

/-- The settings as variables for another process. -/
def environment (s : Settings) : List (String × String) :=
  [("FLEET_DEPLOYMENT_MODE", s.mode.name), ("AWS_DEFAULT_REGION", s.region),
   ("AWS_ENDPOINT_URL", s.endpointUrl.getD ""), ("FLEET_INSTANCE_CAP_STR", s.instanceCapText),
   ("FLEET_TEMPLATES_FILE", s.templatesFile),
   ("FLEET_RETENTION_DISABLED", if s.retentionDisabled then "true" else "false"),
   ("FLEET_LOG_LEVEL", s.logLevel)]

end Settings

end BuildFleet
