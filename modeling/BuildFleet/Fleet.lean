/-
A fleet and its controllers.

A `Fleet` is the state that the controllers share: the nodes, the launches in flight and in the
pool, the time, the log, and the part of the world that they act on.  A `Controller` is what stays
the same: the provider, the templates, the limits.

The steps here are the ones that provisioning and retention have in common: to consult the
provider, to write to the log, to enter, connect and take out nodes.
-/
import BuildFleet.Ledger
import BuildFleet.Log
import BuildFleet.Pool
import BuildFleet.Provider
import BuildFleet.Roster
import BuildFleet.Template.Catalog

namespace BuildFleet

/-- The state that the controllers share. -/
structure Fleet (σ : Type) where
  /-- The part of the world that the controllers act on. -/
  cloud : σ
  roster : Roster
  /-- The launches in flight. -/
  ledger : Ledger
  /-- The launches in the pool. -/
  pool : Pool
  now : Moment
  /-- The sweeps are being repeated. -/
  isSweeping : Bool
  /-- The log so far, in order. -/
  log : List LogEntry

/-- What happens elsewhere while a launch waits for its instance. -/
structure Interlude (σ : Type) where
  happen : Fleet σ → Fleet σ
  /-- How often it may hand new launches to the pool. -/
  refills : Nat

/-- The surroundings and the limits of the controllers. -/
structure Controller (σ : Type) where
  provider : Provider σ
  catalog : Catalog
  /-- The most instances of all images. -/
  instanceCap : Int
  /-- How many seconds a launch waits for its instance. -/
  launchTimeout : Nat
  /-- Idle nodes are never terminated. -/
  retentionDisabled : Bool
  /-- The minutes in a number of microseconds. -/
  minutes : Int → Rat
  /-- Why the pool does not take a launch, if it does not. -/
  refuses : σ → Option String × σ
  /-- The pool carries out a launch as soon as it is handed in. -/
  isEager : Bool
  /-- The pool ends with the controllers. -/
  ownsPool : Bool
  interlude : Interlude σ

/-- Nothing happens. -/
def Interlude.none {σ : Type} : Interlude σ := ⟨id, 0⟩

namespace Fleet

variable {σ α : Type}

/-- A step of the controllers. -/
abbrev Step (σ α : Type) := Action (Fleet σ) α

/-- A fleet without nodes and launches. -/
def fresh (cloud : σ) (now : Moment) : Fleet σ :=
  { cloud, roster := .empty, ledger := .empty, pool := .empty, now, isSweeping := false, log := [] }

/-- Writes to the log. -/
def note (level : Level) (message : String) : Step σ Unit :=
  Action.modify fun f => { f with log := f.log ++ [⟨level, message⟩] }

/-- A step outside. -/
def consult (step : Action σ α) : Step σ α :=
  step.onPart (·.cloud) fun cloud f => { f with cloud }

/-- Changes the roster. -/
def changeRoster (change : Roster → Roster) : Step σ Unit :=
  Action.modify fun f => { f with roster := change f.roster }

/-- Changes the ledger. -/
def changeLedger (change : Ledger → Ledger) : Step σ Unit :=
  Action.modify fun f => { f with ledger := change f.ledger }

/-- Changes the pool. -/
def changePool (change : Pool → Pool) : Step σ Unit :=
  Action.modify fun f => { f with pool := change f.pool }

/-! ### Nodes -/

/-- The node with a number. -/
def nodeAt (k : Nat) : Step σ Node := do
  match ← Action.reads (·.roster.node? k) with
  | some n => return n
  | none => Action.fail (.misfit .noSuchItem)

/-- Makes a node, and gives its number. -/
def makeNode (n : Node) : Step σ Nat := do
  let k ← Action.reads (·.roster.next)
  changeRoster (·.make n)
  return k

/-- Registers a node. -/
def register (k : Nat) : Step σ Unit := do
  let n ← nodeAt k
  changeRoster (·.register k)
  note .info s!"Registered node {n.name} for labels '{n.labelString}'"

/-- Brings a node online whose name is registered. -/
def connect (k : Nat) (now : Moment) : Step σ Unit := do
  let n ← nodeAt k
  match ← Action.reads (·.roster.find? n.name) with
  | none => Action.fail (.notRegistered n.name)
  | some _ =>
    changeRoster (·.update k (Node.markOnline now) (Node.name_markOnline now))
    note .info s!"Node {n.name} is online"

/-- Takes a name out of the roster, and gives the number of its node. -/
def remove (name : String) : Step σ (Option Nat) := do
  let found ← Action.reads (·.roster.find? name)
  if found.isSome then
    changeRoster (·.remove name)
    note .info s!"Removed node {name}"
  return found

theorem nodeAt_of_some {k : Nat} {n : Node} {f : Fleet σ} (h : f.roster.node? k = some n) :
    nodeAt k f = (.ok n, f) := by
  simp [nodeAt, h]

theorem register_of_some {k : Nat} {n : Node} {f : Fleet σ} (h : f.roster.node? k = some n) :
    ∃ log, register k f = (.ok (), { f with roster := f.roster.register k, log }) :=
  ⟨_, by simp [register, nodeAt_of_some h, changeRoster, note]; rfl⟩

theorem connect_of_some {j k : Nat} {n : Node} {f : Fleet σ} (h : f.roster.node? k = some n)
    (hj : f.roster.find? n.name = some j) (now : Moment) :
    ∃ log, connect k now f =
      (.ok (), { f with
        roster := f.roster.update k (Node.markOnline now) (Node.name_markOnline now), log }) :=
  ⟨_, by simp [connect, nodeAt_of_some h, hj, changeRoster, note]; rfl⟩

theorem remove_of_some {name : String} {f : Fleet σ} {k : Nat}
    (h : f.roster.find? name = some k) :
    ∃ log, remove name f = (.ok (some k), { f with roster := f.roster.remove name, log }) :=
  ⟨_, by simp [remove, h, changeRoster, note]; rfl⟩

theorem remove_of_none {name : String} {f : Fleet σ} (h : f.roster.find? name = none) :
    remove name f = (.ok none, f) := by
  simp [remove, h]

end Fleet

end BuildFleet
