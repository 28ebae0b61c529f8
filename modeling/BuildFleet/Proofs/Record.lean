/-
A record of what a provider does.

The world outside does not tell what was asked of it.  So the controllers can be given a provider
that does the same and keeps a record: what it has launched, what did not come up, and what it has
ended.

* **`Deeds`**, **`Controller.recording`** — the record, and the controllers with it;
* **`Occurrence`** — what can happen to a fleet: launches and waits, calls, checks, demand, sweeps,
  and changes of the surroundings;
* **`Controller.after`** — what has come of it, with the record.
-/
import BuildFleet.Proofs.Phases

namespace BuildFleet

variable {σ : Type}

/-- What a provider has done. -/
structure Deeds where
  /-- The launches that it answered with an instance or a spot request. -/
  launched : List LaunchHandle
  /-- The ids of the launches for which a wait failed. -/
  lost : List String
  /-- The ids of the instances that it ended. -/
  ended : List String

namespace Deeds

/-- Nothing was done. -/
def none : Deeds := ⟨[], [], []⟩

def launch (d : Deeds) : Except Failure LaunchHandle → Deeds
  | .ok handle => { d with launched := d.launched ++ [handle] }
  | .error _ => d

def await (handle : LaunchHandle) (d : Deeds) : Except Failure String → Deeds
  | .ok _ => d
  | .error _ => { d with lost := d.lost ++ [handle.id] }

def terminate (id : String) (d : Deeds) : Except Failure Unit → Deeds
  | .ok _ => { d with ended := d.ended ++ [id] }
  | .error _ => d

end Deeds

/-- The same step, with a note of its outcome in the record. -/
def Action.noted {α : Type} (note : Deeds → Except Failure α → Deeds) (step : Action σ α) :
    Action (σ × Deeds) α := fun x =>
  let (r, w) := step x.1
  (r, w, note x.2 r)

theorem Action.noted_of {α : Type} (note : Deeds → Except Failure α → Deeds) {step : Action σ α}
    {x : σ × Deeds} {r : Except Failure α} {w : σ} (h : step x.1 = (r, w)) :
    step.noted note x = (r, w, note x.2 r) := by
  simp only [noted, h]

theorem Action.of_noted {α : Type} {note : Deeds → Except Failure α → Deeds} {step : Action σ α}
    {x y : σ × Deeds} {r : Except Failure α} (h : step.noted note x = (r, y)) :
    step x.1 = (r, y.1) ∧ y.2 = note x.2 r := by
  rcases hs : step x.1 with ⟨r', w⟩
  rw [noted_of note hs] at h
  cases h
  exact ⟨rfl, rfl⟩

/-- The same provider, and a record of what it does. -/
def Provider.recording (p : Provider σ) : Provider (σ × Deeds) where
  count image := (p.count image).noted fun d _ => d
  requestState id := (p.requestState id).noted fun d _ => d
  launch t := (p.launch t).noted .launch
  awaitRunning handle seconds := (p.awaitRunning handle seconds).noted (.await handle)
  describe id := (p.describe id).noted fun d _ => d
  terminate id := (p.terminate id).noted (.terminate id)

/-- The same controllers, and a record of what the provider does.  What happens during a wait stands
between the phases of the launch. -/
def Controller.recording (c : Controller σ) : Controller (σ × Deeds) :=
  { c with
    provider := c.provider.recording
    refuses := fun x => ((c.refuses x.1).1, (c.refuses x.1).2, x.2)
    interlude := .none }

namespace Controller

variable {c : Controller σ} {x y : σ × Deeds}

theorem recording_launch {t : Template} {r : Except Failure LaunchHandle} {w : σ}
    (h : c.provider.launch t x.1 = (r, w)) :
    c.recording.provider.launch t x = (r, w, x.2.launch r) :=
  Action.noted_of .launch h

theorem recording_describe {id : String} {r : Except Failure Json.Value} {w : σ}
    (h : c.provider.describe id x.1 = (r, w)) :
    c.recording.provider.describe id x = (r, w, x.2) :=
  Action.noted_of (fun d _ => d) h

theorem of_recording_awaitRunning {handle : LaunchHandle} {seconds : Nat}
    {r : Except Failure String}
    (h : c.recording.provider.awaitRunning handle seconds x = (r, y)) :
    c.provider.awaitRunning handle seconds x.1 = (r, y.1) ∧ y.2 = x.2.await handle r :=
  Action.of_noted h

theorem of_recording_terminate {id : String} {r : Except Failure Unit}
    (h : c.recording.provider.terminate id x = (r, y)) :
    c.provider.terminate id x.1 = (r, y.1) ∧ y.2 = x.2.terminate id r :=
  Action.of_noted h

end Controller

/-- The same fleet, with nothing in the record. -/
def Fleet.recorded (f : Fleet σ) : Fleet (σ × Deeds) := { f with cloud := (f.cloud, .none) }

/-! ### What can happen -/

/-- One thing that happens to a fleet with launches under way. -/
inductive Occurrence (σ : Type) where
  /-- The launch with a number in the pool is taken up. -/
  | takeUp (launch : Nat)
  /-- Somebody asks for one node of a named template. -/
  | call (template : String)
  /-- The wait of the launch at a place is over. -/
  | finish (place : Nat)
  /-- Somebody asks for a node for an instance that is there already. -/
  | attach (id : String) (template : Option String)
  /-- The node with a number is checked. -/
  | check (node : Nat) (moment : Option Moment)
  /-- Somebody asks for so many executors for a label. -/
  | demand (label : String) (excess : Int)
  /-- A sweep, with or without the check of the nodes. -/
  | sweep (retains : Bool)
  /-- So many launches of the queue are carried out one after the other. -/
  | runQueue (atMost : Nat)
  /-- The launch with a number is cancelled. -/
  | cancel (launch : Nat)
  /-- The controllers are shut down. -/
  | shutdown (wait : Bool)
  /-- So many executors of a node are busy. -/
  | work (node : Nat) (busy : Int)
  /-- A node loses its connection. -/
  | disconnect (node : Nat)
  /-- A node whose instance is known gets its connection back. -/
  | reconnect (node : Nat)
  /-- The world outside changes, and time passes. -/
  | elsewhere (world : σ → σ) (now : Moment)

/-- Connects a node whose instance is known. -/
def Node.reconnect (now : Moment) (n : Node) : Node :=
  if n.instanceId.isEmpty then n else n.markOnline now

theorem Node.name_reconnect (now : Moment) (n : Node) : (n.reconnect now).name = n.name := by
  rw [reconnect]
  split <;> rfl

/-- What happens, as a phase of launches under way. -/
def Occurrence.phase (c : Controller σ) : Occurrence σ → Phase (σ × Deeds)
  | .takeUp launch => .takeUp launch
  | .call template => .call template
  | .finish place => .finish place
  | .attach id template => .attach id template
  | .check node moment => .check node moment
  | .demand label excess => .aside fun f => (c.recording.decide label excess f).2
  | .sweep retains => .aside fun f => (c.recording.sweep retains f).2
  | .runQueue atMost => .aside fun f => (c.recording.runQueue atMost f).2
  | .cancel launch => .aside fun f => (Controller.cancel launch f).2
  | .shutdown wait => .aside fun f => (c.recording.shutdown wait f).2
  | .work node busy => .aside fun f =>
    { f with roster := f.roster.update node (.setBusy busy f.now) (Node.name_setBusy busy f.now) }
  | .disconnect node => .aside fun f =>
    { f with roster := f.roster.update node .markOffline Node.name_markOffline }
  | .reconnect node => .aside fun f =>
    { f with roster := f.roster.update node (.reconnect f.now) (Node.name_reconnect f.now) }
  | .elsewhere world now => .aside fun f => { f with cloud := (world f.cloud.1, f.cloud.2), now }

/-- A fleet with nothing under way, after some occurrences and with a record of them. -/
def Controller.after (c : Controller σ) (events : List (Occurrence σ)) (f : Fleet σ) :
    Traffic (σ × Deeds) :=
  c.recording.proceed (events.map (·.phase c)) (.start f.recorded)

end BuildFleet
