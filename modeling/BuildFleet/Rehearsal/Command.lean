/-
Commands of a rehearsal, and what is reported of them.

A `Command` is one thing that somebody does to a fleet; some commands come from the controllers'
surroundings and some look at the fleet.  A `Report` is the outcome of a command and the scene after
it.  A command that runs queued launches may carry commands for the time during which the first of
them waits.
-/
import BuildFleet.Rehearsal.Cloud
import BuildFleet.Sweep

namespace BuildFleet.Rehearsal

/-- How a command names a node. -/
inductive Whom where
  /-- By the name that the rehearsal gave it. -/
  | ref (ref : String)
  /-- By its name in the roster. -/
  | name (name : String)
deriving DecidableEq, Repr

/-- A node that a command makes; the fields are taken as they are. -/
structure Sketch where
  /-- The name of the status. -/
  status : String
  /-- The other fields. -/
  node : Node
deriving Repr

/-- One thing that is done to a fleet. -/
inductive Command where
  | setNow (now : Moment)
  /-- Changes the cloud. -/
  | configure (change : CloudChange)
  /-- Makes a node. -/
  | make (ref : String) (sketch : Sketch)
  /-- Makes a node for a launch. -/
  | makeLaunched (ref template : String) (handle : LaunchHandle)
  /-- Registers a node, after making it if a sketch is given. -/
  | register (ref : String) (sketch : Option Sketch)
  | connect (whom : Whom) (moment : Option Moment)
  | remove (name : String)
  | find (name : String)
  /-- The registered nodes with a label string. -/
  | withLabel (label : String)
  /-- The label strings of the registered nodes. -/
  | nodeLabels
  /-- The idle capacity for a label. -/
  | spareCount (label : String)
  | markOnline (whom : Whom) (moment : Option Moment)
  | markOffline (whom : Whom)
  | setBusy (whom : Whom) (busy : Int) (moment : Option Moment)
  /-- The template for a label. -/
  | templateForLabel (label : Option String)
  /-- The image of a named template. -/
  | imageOfTemplate (name : String)
  /-- The template that judges a node. -/
  | templateForNode (whom : Whom)
  /-- The label strings of the templates. -/
  | templateLabels
  /-- Whether a template serves a label. -/
  | canProvision (label : Option String)
  | decide (label : String) (excess : Int)
  /-- The labels of a sweep. -/
  | sweepLabels
  | sweep
  /-- Gives queued launches their turn; the commands, if any are given, are for the first wait, in
  place of those that were to be carried out then. -/
  | run (atMost : Option Nat) (duringWait : Option (List Command))
  /-- Cancels the launch at a place; a place below zero counts back from the last one. -/
  | cancel (place : Int)
  /-- What has become of the launch at a place. -/
  | progress (place : Int)
  /-- Launches one node. -/
  | provision (name : String)
  /-- Makes a node for an instance. -/
  | attach (id : String) (template : Option String)
  /-- Closes the pool. -/
  | shutdown (wait : Bool)
  | evaluate (whom : Whom) (moment : Option Moment)
  /-- Terminates a node that is not to be kept. -/
  | check (whom : Whom) (moment : Option Moment)
  /-- Takes a slot. -/
  | reserve (image : String) (cap : Int)
  /-- Gives a slot back. -/
  | release (image : String)
  /-- The launches in flight. -/
  | inFlight (image : Option String)
  | startTimer
  | stopTimer
  | isSweeping
  /-- Some turns of the timer; `drains` lets all launches have their turn in every pause. -/
  | timer (turns : Nat) (drains : Bool)
deriving Inhabited

mutual

/-- How deep commands for a wait are nested in a command. -/
def Command.depth : Command → Nat
  | .run _ (some duringWait) => depths duringWait + 1
  | _ => 0

/-- How deep commands for a wait are nested in some commands. -/
def depths : List Command → Nat
  | [] => 0
  | c :: rest => max c.depth (depths rest)

end

/-- What a command gives. -/
inductive Answer where
  | nothing
  | flag (b : Bool)
  | number (n : Nat)
  | text (s : String)
  | texts (ss : List String)
  | node (n : Node)
  | plan (units : List PlannedUnit)
  /-- Plans by labels. -/
  | plans (plans : List (String × List PlannedUnit))
  | failure (failure : Failure)
  /-- The pauses of the timer. -/
  | pauses (seconds : List Float)

/-- What a fleet looks like from outside. -/
structure Scene where
  /-- The registered nodes. -/
  nodes : List Node
  /-- The launches in flight. -/
  total : Nat
  /-- The launches in flight of the images that have been mentioned. -/
  inFlight : List (String × Nat)
  /-- What has become of the launches. -/
  launches : List Progress
  /-- The instances that are pending or running. -/
  live : Nat

/-- What is reported of a command. -/
structure Report where
  outcome : Except Failure Answer
  /-- The scene after it. -/
  scene : Scene
  /-- The operations of the cloud. -/
  calls : List String
  /-- The reports of the commands that were carried out during a wait. -/
  nested : List Report
  log : List LogEntry

end BuildFleet.Rehearsal
