/-
Courses of events.

What happens to a fleet in the course of time is a list of events: demand, sweeps, launches that get
their turn or are cancelled, checks, and changes of the surroundings that the controllers have no
part in.

* **`Controller.perform`**, **`Controller.run`** — one event, and a course of events;
* **`Controller.Orderly`** — what goes on while a launch waits for its instance is itself a course
  of events.

The outcome of an event is not kept.  A failure ends the event and not the course, and what was done
before the failure stays done.
-/
import BuildFleet.Sweep

namespace BuildFleet

variable {σ : Type}

/-- One thing that happens to a fleet. -/
inductive Event (σ : Type) where
  /-- Somebody asks for so many executors for a label. -/
  | demand (label : String) (excess : Int)
  /-- A sweep, with or without the check of the nodes. -/
  | sweep (retains : Bool)
  /-- Somebody asks for one node of a named template. -/
  | provision (template : String)
  /-- Somebody asks for a node for an instance that is there already. -/
  | attach (id : String) (template : Option String)
  /-- A node is checked. -/
  | check (node : Node) (moment : Option Moment)
  /-- The launch with a number gets its turn. -/
  | carryOut (launch : Nat)
  /-- So many launches of the queue get their turn. -/
  | runQueue (atMost : Nat)
  /-- The launch with a number is cancelled. -/
  | cancel (launch : Nat)
  /-- The controllers are shut down. -/
  | shutdown (wait : Bool)
  /-- The surroundings change: the world outside, the time, and what the nodes do. -/
  | elsewhere (world : σ → σ) (now : Moment) (nodes : Roster → Roster)

/-- The world outside changes only in an allowed way. -/
def Event.Within (allowed : (σ → σ) → Prop) : Event σ → Prop
  | .elsewhere world _ _ => allowed world
  | _ => True

theorem Event.within_true (e : Event σ) : e.Within fun _ => True := by
  cases e <;> trivial

namespace Controller

/-- The fleet after an event. -/
def perform (c : Controller σ) (f : Fleet σ) : Event σ → Fleet σ
  | .demand label excess => (c.decide label excess f).2
  | .sweep retains => (c.sweep retains f).2
  | .provision template => (c.provision template f).2
  | .attach id template => (c.attach id template f).2
  | .check node moment => (c.check node moment f).2
  | .carryOut launch => (c.carryOut launch f).2
  | .runQueue atMost => (c.runQueue atMost f).2
  | .cancel launch => (cancel launch f).2
  | .shutdown wait => (c.shutdown wait f).2
  | .elsewhere world now nodes =>
    { f with cloud := world f.cloud, now, roster := nodes f.roster }

/-- The fleet after a course of events. -/
def run (c : Controller σ) (events : List (Event σ)) (f : Fleet σ) : Fleet σ :=
  events.foldl c.perform f

@[simp]
theorem run_nil (c : Controller σ) (f : Fleet σ) : c.run [] f = f := rfl

@[simp]
theorem run_cons (c : Controller σ) (e : Event σ) (events : List (Event σ)) (f : Fleet σ) :
    c.run (e :: events) f = c.run events (c.perform f e) := rfl

/-- Nothing happens to the fleet while a launch waits for its instance, or what happens is a course
of events, with waits of the same kind in it, during which the world outside changes only in an
allowed way. -/
inductive Orderly (allowed : (σ → σ) → Prop) : Controller σ → Prop
  | still {c : Controller σ} (h : c.interlude.happen = id) : Orderly allowed c
  | busy {c : Controller σ} (hc : Orderly allowed c) (i : Interlude σ)
      (h : ∀ f, ∃ events : List (Event σ),
        (∀ e ∈ events, e.Within allowed) ∧ i.happen f = c.run events f) :
      Orderly allowed { c with interlude := i }

/-- The same controllers, with a course of events during every wait. -/
def during (c : Controller σ) (events : List (Event σ)) : Controller σ :=
  { c with interlude := ⟨c.run events, 0⟩ }

theorem Orderly.during {allowed : (σ → σ) → Prop} {c : Controller σ} (hc : Orderly allowed c)
    {events : List (Event σ)} (he : ∀ e ∈ events, e.Within allowed) :
    Orderly allowed (c.during events) :=
  .busy hc _ fun _ => ⟨events, he, rfl⟩

end Controller

end BuildFleet
