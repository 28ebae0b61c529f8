/-
Clients of the service, made once and kept.

A manager is built from the settings of the process and keeps the clients it made, one for each
service and region.  There is at most one manager, and the settings are read at most once, until
either is dropped:

* **`Clients.manager`** — the manager, built if there is none;
* **`Clients.client`** — the client for a service in a region, made if the manager has none;
* **`Clients.clear`**, **`Clients.reset`** — forget the clients, or the manager with them.

How a client comes into being is up to a `ClientFactory`; a client that could not be made leaves
nothing behind.
-/
import BuildFleet.Action
import BuildFleet.Log
import BuildFleet.Settings.Source

namespace BuildFleet.Ec2

/-- How a client proves who it acts for. -/
inductive Credentials where
  | profile (name : String)
  | keys (id secret : Option String)
deriving DecidableEq, Repr

/-- What all clients of a manager have in common. -/
structure ClientConfig where
  region : String
  /-- The name of the application, by which it makes itself known to the service. -/
  appName : String
  /-- The most connections at once. -/
  connections : Nat
deriving DecidableEq, Repr

/-- Describes the client that is to be made. -/
structure ClientOrder where
  credentials : Credentials
  service : String
  region : String
  /-- The address of the service, if it is not the usual one. -/
  endpointUrl : Option String
  /-- What it shares with other clients. -/
  config : ClientConfig
deriving DecidableEq, Repr

/-- Makes clients of type `κ`. -/
structure ClientFactory (σ κ : Type) where
  /-- Makes a client, or fails to. -/
  create : ClientOrder → Action σ κ

/-- Settings with the clients made from them. -/
structure Manager (κ : Type) where
  settings : Settings
  /-- The clients, by service and region. -/
  clients : List ((String × String) × κ)

/-- The clients of a process, and what they are made from. -/
structure Clients (σ κ : Type) where
  /-- Where the settings are read. -/
  sources : Settings.Sources
  /-- The settings, if they have been read. -/
  settings : Option Settings
  /-- The manager, if there is one. -/
  manager : Option (Manager κ)
  /-- The part of the world where clients are made. -/
  outside : σ
  /-- The log so far, in order. -/
  log : List LogEntry

/-- The fewest connections that a client may open at once. -/
def leastConnections : Nat := 10

/-- The configuration of clients: room for every launch at once, for the sweep and for one more. -/
def ClientConfig.ofSettings (s : Settings) : ClientConfig :=
  { region := s.region, appName := s.appName
    connections := max leastConnections (s.launchWorkers.val + 2) }

namespace Manager

variable {κ : Type}

/-- The client for a service and a region, if there is one. -/
def find? (m : Manager κ) (key : String × String) : Option κ :=
  Entries.find? key m.clients

/-- The region that a request for a client means: the region of the settings unless one is
named. -/
def regionFor (m : Manager κ) : Option String → String
  | some region => if region.isEmpty then m.settings.region else region
  | none => m.settings.region

/-- The address for new clients: in a local mode that of the settings. -/
def endpoint? (m : Manager κ) : Option String :=
  if m.settings.mode.isLocal then m.settings.endpointUrl.filter (!·.isEmpty) else none

/-- The profile that new clients use: one that is named by a variable, and only for the service
itself. -/
def profile? (m : Manager κ) (environment : List (String × String)) : Option String :=
  if m.settings.mode.isLocal then none
  else (Entries.find? "AWS_PROFILE" environment).filter (!·.isEmpty)

/-- The client to be made for a service and a region. -/
def order (m : Manager κ) (environment : List (String × String)) (key : String × String) :
    ClientOrder :=
  { credentials :=
      match m.profile? environment with
      | some name => .profile name
      | none => .keys m.settings.accessKeyId m.settings.secretAccessKey
    service := key.1, region := key.2, endpointUrl := m.endpoint?
    config := .ofSettings m.settings }

end Manager

namespace Clients

variable {σ κ : Type}

/-- A step on the clients of a process. -/
abbrev Step (σ κ α : Type) := Action (Clients σ κ) α

/-- Clients of a process that has not used any. -/
def fresh (sources : Settings.Sources) (outside : σ) : Clients σ κ :=
  { sources, settings := none, manager := none, outside, log := [] }

/-- Writes to the log. -/
def note (level : Level) (message : String) : Step σ κ Unit :=
  Action.modify fun c => { c with log := c.log ++ [⟨level, message⟩] }

/-- The settings, read if they have not been. -/
def currentSettings [Schema.Conversions] [Settings.Gathering] : Step σ κ Settings := do
  match ← Action.reads (·.settings) with
  | some s => return s
  | none =>
    let s ← Action.ofExcept (Settings.load (← Action.reads (·.sources)))
    Action.modify fun c => { c with settings := some s }
    return s

/-- What the log says of a new manager. -/
def openingNote (s : Settings) : String :=
  let endpoint := s.endpointUrl.getD (Json.Value.constant none)
  s!"Initializing AWSClientManager (mode: {s.mode.name}, region: {s.region}, " ++
    s!"endpoint: {endpoint})"

/-- The manager, built from the settings if there is none. -/
def currentManager [Schema.Conversions] [Settings.Gathering] : Step σ κ (Manager κ) := do
  match ← Action.reads (·.manager) with
  | some m => return m
  | none =>
    let s ← currentSettings
    note .info (openingNote s)
    let m : Manager κ := ⟨s, []⟩
    Action.modify fun c => { c with manager := some m }
    return m

/-- Makes a client that the manager does not have, and keeps it. -/
def make (factory : ClientFactory σ κ) (m : Manager κ) (key : String × String) : Step σ κ κ := do
  let environment ← Action.reads (·.sources.environment)
  match m.profile? environment with
  | some name => note .debug s!"Using AWS profile: {name}"
  | none => pure ()
  let create : Step σ κ κ :=
    (factory.create (m.order environment key)).onPart (·.outside) fun w c => { c with outside := w }
  match ← create.attempt with
  | .ok client =>
    let kept := { m with clients := (key, client) :: m.clients }
    Action.modify fun c => { c with manager := some kept }
    note .debug s!"Created {key.1} client in {key.2}"
    return client
  | .error failure =>
    note .error s!"Error creating {key.1} client in {key.2}: {failure.display}"
    Action.fail failure

/-- The client for a service, in a region or in that of the settings. -/
def client [Schema.Conversions] [Settings.Gathering] (factory : ClientFactory σ κ)
    (service : String) (region : Option String) : Step σ κ κ := do
  let m ← currentManager
  let key := (service, m.regionFor region)
  match m.find? key with
  | some found => return found
  | none => make factory m key

/-- Forgets the clients. -/
def clear [Schema.Conversions] [Settings.Gathering] : Step σ κ Unit := do
  let m ← currentManager
  Action.modify fun c => { c with manager := some { m with clients := [] } }

/-- Forgets the manager with its clients; the settings stay. -/
def reset : Step σ κ Unit :=
  Action.modify fun c => { c with manager := none }

/-- Changes variables of the process. -/
def setVariables (changes : List (String × String)) : Step σ κ Unit :=
  Action.modify fun c =>
    { c with sources := { c.sources with
        environment := Entries.putAll changes c.sources.environment } }

/-- Takes a variable out of the process. -/
def unsetVariable (name : String) : Step σ κ Unit :=
  Action.modify fun c =>
    { c with sources := { c.sources with
        environment := Entries.erase name c.sources.environment } }

/-- Forgets the settings; a manager keeps those it was built from. -/
def dropSettings : Step σ κ Unit :=
  Action.modify fun c => { c with settings := none }

end Clients

/-! ### A counting factory -/

/-- A place where clients are numbers, counted up as they are made. -/
structure Workshop where
  /-- The clients that were ordered, in order. -/
  orders : List ClientOrder
  /-- The number of clients made. -/
  made : Nat
  /-- Why the next client cannot be made, if it cannot. -/
  obstacle : Option Failure

namespace Workshop

/-- A place where nothing has been made. -/
def fresh : Workshop := ⟨[], 0, none⟩

/-- Makes the next client, unless there is an obstacle; the obstacle is gone after that. -/
def factory : ClientFactory Workshop Nat :=
  ⟨fun order w =>
    let orders := w.orders ++ [order]
    match w.obstacle with
    | some failure => (.error failure, { w with orders, obstacle := none })
    | none => (.ok w.made, { w with orders, made := w.made + 1 })⟩

end Workshop

end BuildFleet.Ec2
