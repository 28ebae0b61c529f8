/-
Rehearsals.

A rehearsal carries out commands on a fleet whose cloud is in memory, one after the other, and
reports on each.  Commands for a wait are kept until the next launch waits; they are then carried
out while that launch is under way.

The depth to which such commands are nested bounds how often one wait can lead to another, and
`controllerAt` is defined by recursion on it.
-/
import BuildFleet.Rehearsal.Command
import BuildFleet.Wiring

namespace BuildFleet.Rehearsal

open Fleet (changeRoster nodeAt makeNode)

/-- The surroundings of a fleet in a rehearsal. -/
structure Stage where
  cloud : Cloud
  /-- The nodes that the rehearsal has named. -/
  refs : List (String × Nat)
  /-- The images that have been mentioned. -/
  images : List String
  /-- The commands for the next wait. -/
  waiting : List Command
  /-- The reports of the commands that were carried out during a wait. -/
  nested : List Report

/-- How launches are carried out. -/
inductive Work where
  /-- When a command says so. -/
  | onCommand
  /-- As soon as they are handed in. -/
  | atOnce
  /-- When a command says so, in a pool that ends with the controllers. -/
  | owned
deriving DecidableEq, Repr

/-- What stays the same in a rehearsal. -/
structure Setup where
  /-- The controllers; nothing happens while launches wait. -/
  controllers : Controller Stage
  /-- When sweeps are made. -/
  schedule : Schedule
  /-- Sweeps check the nodes. -/
  retains : Bool

/-- A step of a rehearsal. -/
abbrev Step (α : Type) := Action (Fleet Stage) α

namespace Setup

/-- The cloud of a rehearsal, as a provider. -/
def provider : Provider Stage := Cloud.provider (·.cloud) fun cloud stage => { stage with cloud }

/-- A rehearsal with some settings and templates. -/
def ofSettings (settings : Settings) (catalog : Catalog) (work : Work) (retains : Bool) :
    Except Failure Setup := do
  let controllers ← Controller.ofSettings settings catalog provider
  return {
    controllers := { controllers with isEager := work = .atOnce, ownsPool := work = .owned }
    schedule := .ofSettings settings
    retains }

/-- The fleet at the start of a rehearsal. -/
def opening (s : Setup) (cloud : Cloud) (now : Moment) : Fleet Stage :=
  let images := s.controllers.catalog.templates.map (·.imageId)
  .fresh { cloud, refs := [], images, waiting := [], nested := [] } now

end Setup

/-! ### Single commands -/

/-- The moment that a command names, or now. -/
def momentOr (moment : Option Moment) : Step Moment := do
  return moment.getD (← Action.reads (·.now))

/-- The number of the node that a command names. -/
def number : Whom → Step Nat
  | .ref ref => do
    match Entries.find? ref (← Action.reads (·.cloud.refs)) with
    | some k => return k
    | none => Action.fail (.missing ref)
  | .name name => do
    match ← Action.reads (·.roster.find? name) with
    | some k => return k
    | none => Action.fail .noSuchNode

/-- The node that a command names. -/
def nodeOf (whom : Whom) : Step Node := do nodeAt (← number whom)

/-- The node with a number, as an answer. -/
def answerNode (k : Nat) : Step Answer := return .node (← nodeAt k)

/-- The node with a number, as an answer, or nothing. -/
def answerNode? : Option Nat → Step Answer
  | some k => answerNode k
  | none => return .nothing

/-- The name of a template, as an answer. -/
def answerTemplate : Option Template → Answer
  | some t => .text t.name
  | none => .nothing

/-- Makes a node, and gives it a name in the rehearsal. -/
def introduce (ref : String) (n : Node) : Step Nat := do
  let k ← makeNode n
  Action.modify fun f =>
    { f with cloud := { f.cloud with refs := Entries.put ref k f.cloud.refs } }
  return k

/-- Makes a node from a sketch. -/
def draw (ref : String) (sketch : Sketch) : Step Nat := do
  let status ← Action.ofExcept (NodeStatus.ofName sketch.status)
  introduce ref { sketch.node with status }

/-- Takes note of an image. -/
def mention (image : String) : Step Unit :=
  Action.modify fun f =>
    { f with cloud := { f.cloud with images := f.cloud.images ++ [image] } }

/-- What has become of a launch, as an answer. -/
def answerProgress : Progress → Step Answer
  | .queued | .running => return .text "pending"
  | .cancelled => return .text "cancelled"
  | .done k => answerNode k
  | .failed failure => return .failure failure

/-- The number of the launch at a place. -/
def launchAt (place : Int) : Step Nat := do
  match ← Action.reads (·.pool.numberAt? place) with
  | some k => return k
  | none => Action.fail (.misfit .noSuchItem)

/-- What has become of the launch with a number. -/
def progressOf (k : Nat) : Step Progress := do
  match ← Action.reads (·.pool.launches[k]?) with
  | some l => return l.progress
  | none => Action.fail (.misfit .noSuchItem)

/-- Lets time pass, and all launches have their turn if `drains` is set. -/
def elapse (c : Controller Stage) (drains : Bool) (seconds : Float) : Step Unit := do
  Action.modify fun f => { f with now := f.now.later seconds }
  if drains then
    let _ ← c.drain

/-- Carries out a command. -/
def carryOut (s : Setup) (c : Controller Stage) : Command → Step Answer
  | .setNow now => do
    Action.modify fun f => { f with now }
    return .nothing
  | .configure change => do
    Action.modify fun f =>
      { f with cloud := { f.cloud with cloud := f.cloud.cloud.configure change } }
    return .nothing
  | .make ref sketch => do answerNode (← draw ref sketch)
  | .makeLaunched ref template handle => do
    let t ← Action.ofExcept (c.catalog.named template)
    answerNode (← introduce ref (Node.ofLaunch t handle))
  | .register ref sketch => do
    let k ← match sketch with
      | some sketch => draw ref sketch
      | none => number (.ref ref)
    Fleet.register k
    return .nothing
  | .connect whom moment => do
    Fleet.connect (← number whom) (← momentOr moment)
    return .nothing
  | .remove name => do answerNode? (← Fleet.remove name)
  | .find name => do answerNode? (← Action.reads (·.roster.find? name))
  | .withLabel label => return .texts ((← Action.reads (·.roster.withLabel label)).map (·.name))
  | .nodeLabels => return .texts (← Action.reads (·.roster.labels))
  | .spareCount label => return .number (← Action.reads (·.roster.spareCount label))
  | .markOnline whom moment => do
    let k ← number whom
    let now ← momentOr moment
    changeRoster (·.update k (Node.markOnline now) (Node.name_markOnline now))
    answerNode k
  | .markOffline whom => do
    let k ← number whom
    changeRoster (·.update k Node.markOffline Node.name_markOffline)
    answerNode k
  | .setBusy whom busy moment => do
    let k ← number whom
    let now ← momentOr moment
    changeRoster (·.update k (Node.setBusy busy now) (Node.name_setBusy busy now))
    answerNode k
  | .templateForLabel label => return answerTemplate (c.catalog.forLabel? label)
  | .imageOfTemplate name => do
    return .text (← Action.ofExcept (c.catalog.named name)).imageId
  | .templateForNode whom => do return answerTemplate (c.catalog.forNode? (← nodeOf whom))
  | .templateLabels => return .texts c.catalog.labels
  | .canProvision label => return .flag (c.canProvision label)
  | .decide label excess => return .plan (← c.decide label excess)
  | .sweepLabels => return .texts (c.sweepLabels (← Action.reads (·.roster)))
  | .sweep => return .plans (← c.sweep s.retains)
  | .run atMost duringWait => do
    if let some waiting := duringWait then
      Action.modify fun f => { f with cloud := { f.cloud with waiting } }
    match atMost with
    | some n => return .number (← c.runQueue n)
    | none => return .number (← c.drain)
  | .cancel place => do return .flag (← Controller.cancel (← launchAt place))
  | .progress place => do answerProgress (← progressOf (← launchAt place))
  | .provision name => do answerNode (← c.provision name)
  | .attach id template => do answerNode (← c.attach id template)
  | .shutdown wait => do
    c.shutdown wait
    return .nothing
  | .evaluate whom moment => do return .text (← c.evaluate (← nodeOf whom) moment).name
  | .check whom moment => do return .text (← c.check (← nodeOf whom) moment).name
  | .reserve image cap => do
    mention image
    return .flag (← c.reserve image cap)
  | .release image => do
    mention image
    Controller.release image
    return .nothing
  | .inFlight none => return .number (← Action.reads (·.ledger.total))
  | .inFlight (some image) => do
    mention image
    return .number (← Action.reads (·.ledger.inFlight image))
  | .startTimer => do
    Controller.startTimer s.schedule
    return .nothing
  | .stopTimer => do
    Controller.stopTimer
    return .nothing
  | .isSweeping => return .flag (← Action.reads (·.isSweeping))
  | .timer turns drains => do
    return .pauses (← c.timer s.schedule s.retains (elapse c drains) turns)

/-! ### Rehearsals -/

/-- What the fleet looks like. -/
def sceneOf (f : Fleet Stage) : Scene :=
  { nodes := f.roster.registered, total := f.ledger.total
    inFlight := f.cloud.images.map fun image => (image, f.ledger.inFlight image)
    launches := f.pool.launches.map (·.progress), live := f.cloud.cloud.live none }

/-- The fleet with the records of the current command replaced. -/
def withRecords (calls : List String) (nested : List Report) (log : List LogEntry)
    (f : Fleet Stage) : Fleet Stage :=
  { f with
    cloud := { f.cloud with cloud := { f.cloud.cloud with calls }, nested }
    log }

/-- Carries out a command, and reports on it. -/
def perform (s : Setup) (c : Controller Stage) (command : Command) (f : Fleet Stage) :
    Report × Fleet Stage :=
  let (outcome, f) := carryOut s c command (withRecords [] [] [] f)
  ({ outcome, scene := sceneOf f, calls := f.cloud.cloud.calls, nested := f.cloud.nested
     log := f.log }, f)

/-- Carries out commands one after the other. -/
def performAll (s : Setup) (c : Controller Stage) :
    List Command → Fleet Stage → List Report × Fleet Stage
  | [], f => ([], f)
  | command :: rest, f =>
    let (report, f) := perform s c command f
    let (reports, f) := performAll s c rest f
    (report :: reports, f)

/-- Carries out the commands for a wait, if there are any.  Their records are kept apart from those
of the command that is under way. -/
def meanwhile (s : Setup) (c : Controller Stage) (f : Fleet Stage) : Fleet Stage :=
  if f.cloud.waiting.isEmpty then f
  else
    let (reports, g) :=
      performAll s c f.cloud.waiting { f with cloud := { f.cloud with waiting := [] } }
    withRecords f.cloud.cloud.calls (f.cloud.nested ++ reports) f.log g

/-- The controllers of a rehearsal in which commands for a wait are nested to a depth. -/
def controllerAt (s : Setup) : (depth : Nat) → Controller Stage
  | 0 => s.controllers
  | n + 1 => { s.controllers with interlude := ⟨meanwhile s (controllerAt s n), n + 1⟩ }

/-- A whole rehearsal. -/
def rehearse (s : Setup) (cloud : Cloud) (now : Moment) (commands : List Command) : List Report :=
  (performAll s (controllerAt s (depths commands)) commands (s.opening cloud now)).1

end BuildFleet.Rehearsal
