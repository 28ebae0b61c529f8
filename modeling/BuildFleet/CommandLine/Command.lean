/-
The commands of the program.

A `Verb` is a command by its name, with its options; an `Order` is a command with what was asked of
it.  `Verb.order` reads the one as the other, and `Order.carryOut` does what was asked and gives the
lines to be printed with the exit code.
-/
import BuildFleet.CommandLine.Arguments
import BuildFleet.Wiring

namespace BuildFleet.CommandLine

open Json (Value)

/-- The option that asks for help. -/
def helpOption : OptionSpec := ⟨"--help", false, false, "Show this message and exit."⟩

/-- A command by its name. -/
inductive Verb where
  | attach
  | provision
  | run
  | showConfig
  | tick
deriving DecidableEq, Repr

namespace Verb

/-- The commands, sorted by their names. -/
def all : List Verb := [attach, provision, run, showConfig, tick]

/-- The name of a command. -/
def name : Verb → String
  | attach => "attach"
  | provision => "provision"
  | run => "run"
  | showConfig => "show-config"
  | tick => "tick"

/-- The command with a name. -/
def ofName? (s : String) : Option Verb := all.find? (·.name = s)

/-- What a command does. -/
def summary : Verb → String
  | attach => "Check that a running instance can be adopted as a node."
  | provision => "Launch one node from a template and wait for it"
  | run => "Run the periodic driver until interrupted"
  | showConfig => "Show current configuration"
  | tick => "Run a single provisioning and retention sweep"

/-- The options of a command. -/
def options : Verb → List OptionSpec
  | attach =>
    [⟨"--instance-id", true, true, "Running instance to check"⟩,
     ⟨"--template", true, false, "Template the instance belongs to"⟩, helpOption]
  | provision => [⟨"--template", true, true, "Template name to launch"⟩, helpOption]
  | run | showConfig => [helpOption]
  | tick =>
    [⟨"--wait", false, false, "Wait for launched nodes to come online"⟩,
     ⟨"--no-wait", false, false, "Do not wait for launched nodes"⟩, helpOption]

end Verb

/-- What a command line asks for. -/
inductive Order where
  | showConfig
  /-- To make one sweep. -/
  | tick (waits : Bool)
  /-- To make sweeps until interrupted. -/
  | run
  | provision (template : String)
  /-- To look at an instance. -/
  | attach (id : String) (template : Option String)
deriving DecidableEq, Repr

/-- The last of the two switches decides whether to wait. -/
def waits (s : Scanned) : Bool :=
  match s.options.reverse.find? fun o => o.1 = "--wait" || o.1 = "--no-wait" with
  | some (name, _) => name = "--wait"
  | none => true

/-- The value of an option, which has to be given. -/
def need (s : Scanned) (name : String) : Except UsageError String :=
  match s.value? name with
  | some value => .ok value
  | none => .error (.missingOption name)

/-- What is asked of a command by its options. -/
def Verb.order (s : Scanned) : Verb → Except UsageError Order
  | .attach => return .attach (← need s "--instance-id") (s.value? "--template")
  | .provision => return .provision (← need s "--template")
  | .run => return .run
  | .showConfig => return .showConfig
  | .tick => return .tick (waits s)

/-! ### What the commands do -/

/-- What a command prints, its exit code, and how often it paused. -/
structure Outcome where
  lines : List String
  code : Nat
  pauses : Nat
deriving DecidableEq, Repr

/-- The settings in lines. -/
def configLines (s : Settings) : List String :=
  let endpoint := s.endpointUrl.getD (Value.constant none)
  let cap := if s.instanceCapText.isEmpty then "unlimited" else s.instanceCapText
  ["Current Configuration:", s!"  Deployment Mode: {s.mode.name}", s!"  AWS Region: {s.region}",
   s!"  AWS Endpoint: {endpoint}", s!"  Instance Cap: {cap}",
   s!"  Templates File: {s.templatesFile}", s!"  Launch Workers: {s.launchWorkers.val}",
   s!"  Sweep Period: {Number.text s.recurrencePeriod}s",
   s!"  Retention Disabled: {Value.constant (some s.retentionDisabled)}"]

variable {σ : Type}

/-- A plan in a line. -/
def planLine (plan : String × List PlannedUnit) : String :=
  let executors := plan.2.foldl (fun total u => total + u.executors) 0
  s!"{plan.1}: {plan.2.length} node(s), {executors} executor(s)"

/-- How many of some launches did not come up. -/
def failedAmong (p : Pool) (units : List PlannedUnit) : Nat :=
  units.countP fun u =>
    match p.launches[u.launch]? with
    | some ⟨_, .failed _⟩ => true
    | _ => false

/-- One sweep. -/
def carryOutTick (c : Controller σ) (waits : Bool) : Fleet.Step σ Outcome := do
  let plans ← c.sweep true
  if plans.isEmpty then return ⟨["Nothing to provision"], 0, 0⟩
  let lines := plans.map planLine
  if !waits then return ⟨lines, 0, 0⟩
  let units := plans.flatMap (·.2)
  let failed := failedAmong (← Action.reads (·.pool)) units
  return ⟨lines ++ [s!"{units.length - failed} node(s) online, {failed} failed"], 0, 0⟩

/-- Sweeps until an interruption after some pauses. -/
def carryOutRun (schedule : Schedule) (patience : Nat) : Fleet.Step σ Outcome := do
  Controller.startTimer schedule
  Controller.stopTimer
  return ⟨["Fleet controller running, press Ctrl+C to stop", "Stopping..."], 0, patience + 1⟩

/-- A step whose declared failures are printed. -/
def reporting (what : String) (step : Fleet.Step σ String) : Fleet.Step σ Outcome := do
  match ← step.attempt with
  | .ok line => return ⟨[line], 0, 0⟩
  | .error failure =>
    if failure.isFleet then return ⟨[s!"{what} failed: {failure.message}"], 1, 0⟩
    else Action.fail failure

/-- Does what is asked of the controllers. -/
def Order.carryOut (c : Controller σ) (s : Settings) (patience : Nat) :
    Order → Fleet.Step σ Outcome
  | .showConfig => return ⟨configLines s, 0, 0⟩
  | .tick waits => (carryOutTick c waits).ensuring (c.shutdown waits)
  | .run => (carryOutRun (.ofSettings s) patience).ensuring (c.shutdown false)
  | .provision template =>
    (reporting "Provisioning" do
      let n ← Fleet.nodeAt (← c.provision template)
      return s!"Provisioned {n.name} ({n.instanceId})").ensuring (c.shutdown true)
  | .attach id template =>
    (reporting "Attach" do
      let n ← Fleet.nodeAt (← c.attach id template)
      return s!"Instance {id} can be attached as {n.name} ({n.status.name})").ensuring
        (c.shutdown true)

end BuildFleet.CommandLine
