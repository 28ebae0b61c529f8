/-
Sweeps.

A sweep tops up every label that some template serves, and then checks every registered node.
Sweeps are repeated on a timer; one that fails is logged, and the next one tries again.

* **`Controller.sweepLabels`** — the labels of a sweep;
* **`Controller.sweep`** — one sweep;
* **`Controller.timer`** — some turns of the timer.
-/
import BuildFleet.Number.Shortest
import BuildFleet.Provisioning
import BuildFleet.Retention

namespace BuildFleet

open Fleet (Step note)

variable {σ : Type}

/-- When sweeps are made. -/
structure Schedule where
  /-- The seconds before the first sweep. -/
  initialDelay : Float
  /-- The seconds between sweeps. -/
  period : Float

namespace Controller

/-- The label strings of the templates and of the registered nodes, sorted and each once. -/
def sweepLabels (c : Controller σ) (r : Roster) : List String :=
  Text.sortedSet (c.catalog.labels ++ r.labels)

/-- Decides for each label without unmet demand, and gives the plans that are not empty. -/
def topUp (c : Controller σ) : List String → Step σ (List (String × List PlannedUnit))
  | [] => return []
  | label :: rest => do
    let plan ← c.decide label 0
    let plans ← c.topUp rest
    return if plan.isEmpty then plans else (label, plan) :: plans

/-- Checks nodes one after the other, and counts the terminated ones. -/
def checkAll (c : Controller σ) : List Node → Step σ Nat
  | [] => return 0
  | n :: rest => do
    let decision ← c.check n none
    let count ← c.checkAll rest
    return if decision = .terminate then count + 1 else count

/-- Checks every registered node. -/
def retire (c : Controller σ) : Step σ Unit := do
  let count ← c.checkAll (← Action.reads (·.roster.registered))
  if count ≠ 0 then note .info s!"Terminated {count} idle node(s)"

/-- One sweep, with or without the check of the nodes; gives the plans that are not empty, by
label. -/
def sweep (c : Controller σ) (retains : Bool) : Step σ (List (String × List PlannedUnit)) := do
  let labels := c.sweepLabels (← Action.reads (·.roster))
  note .debug s!"Sweeping {labels.length} labels"
  let plans ← c.topUp (labels.filter fun label => c.canProvision (some label))
  if retains then c.retire
  return plans

/-! ### The timer -/

/-- One sweep whose failure is only logged. -/
def guardedSweep (c : Controller σ) (retains : Bool) : Step σ Unit := do
  match ← (c.sweep retains).attempt with
  | .ok _ => return
  | .error failure => note .error s!"Error in periodic sweep: {failure.display}"

/-- So many turns of the timer, each a pause and a sweep, and the pause in which the timer is
stopped; gives the pauses. -/
def turns (c : Controller σ) (retains : Bool) (elapse : Float → Step σ Unit) (period : Float) :
    (pause : Float) → (count : Nat) → Step σ (List Float)
  | pause, 0 => return [pause]
  | pause, n + 1 => do
    elapse pause
    c.guardedSweep retains
    let rest ← c.turns retains elapse period period n
    return pause :: rest

/-- The timer from its start until it is stopped after so many sweeps. -/
def timer (c : Controller σ) (s : Schedule) (retains : Bool) (elapse : Float → Step σ Unit)
    (count : Nat) : Step σ (List Float) :=
  c.turns retains elapse s.period s.initialDelay count

/-- Starts the timer, unless it runs. -/
def startTimer (s : Schedule) : Step σ Unit := do
  if !(← Action.reads (·.isSweeping)) then
    note .info (s!"Starting periodic driver: initial delay {Number.text s.initialDelay}s, " ++
      s!"period {Number.text s.period}s")
    Action.modify fun f => { f with isSweeping := true }

/-- Stops the timer. -/
def stopTimer : Step σ Unit := do
  note .info "Stopping periodic driver"
  Action.modify fun f => { f with isSweeping := false }

end Controller

end BuildFleet
