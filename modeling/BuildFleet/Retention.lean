/-
Retention.

A node that has been idle for longer than its template allows is terminated, unless it is still
needed to hold the template's primed target.

* **`Controller.evaluate`** — whether a node is to be kept;
* **`Controller.check`** — the same, and a node that is not to be kept is terminated and taken out.
-/
import BuildFleet.Fleet
import BuildFleet.Number.Decimal

namespace BuildFleet

open Fleet (Step note consult remove)

variable {σ : Type}

/-- Whether a node stays. -/
inductive Retention where
  | keep
  | terminate
deriving DecidableEq, Repr

/-- The name of a decision. -/
def Retention.name : Retention → String
  | keep => "keep"
  | terminate => "terminate"

/-- The template that judges a node: the one of the node's template name, or else the first with
the node's label string. -/
def Catalog.forNode? (c : Catalog) (n : Node) : Option Template :=
  (c.named? n.template) <|> (c.withLabelString? n.labelString)

namespace Controller

/-- How long a node has been idle, in minutes. -/
def idleMinutes (c : Controller σ) (n : Node) (now : Moment) : Rat :=
  c.minutes (now.since (n.idleSince.getD now))

/-- The idle node has used up its time. -/
def isOverdue (c : Controller σ) (t : Template) (n : Node) (now : Moment) : Bool :=
  !(c.idleMinutes n now ≤ t.idleMinutes)

/-- The node may be terminated when it has been idle for long enough. -/
def mayExpire (c : Controller σ) (t : Template) (n : Node) : Bool :=
  t.idleMinutes ≠ 0 && n.isIdle && n.isOnline && !c.retentionDisabled

/-- Weighs an overdue node against the primed target. -/
def weigh (c : Controller σ) (t : Template) (n : Node) (now : Moment) : Step σ Retention := do
  let idle ← Action.reads (·.roster.spareCount n.labelString)
  note .debug s!"Idle nodes for '{n.labelString}': {idle}"
  if t.primed < idle then
    note .info
      s!"Idle timeout: {n.name} idle for {Number.fixed 1 (c.idleMinutes n now)} minutes"
    return .terminate
  else
    note .debug s!"Keeping {n.name} as primed capacity ({idle}/{t.primed})"
    return .keep

/-- Whether a node is to be kept, now or at a given moment. -/
def evaluate (c : Controller σ) (n : Node) (moment : Option Moment) : Step σ Retention := do
  match c.catalog.forNode? n with
  | none =>
    note .warning s!"No template with labels '{n.labelString}' for node {n.name}, keeping it"
    return .keep
  | some t =>
    let now := moment.getD (← Action.reads (·.now))
    if c.mayExpire t n && c.isOverdue t n now then c.weigh t n now else return .keep

/-- Terminates a node that is not to be kept.  A node whose termination fails stays. -/
def check (c : Controller σ) (n : Node) (moment : Option Moment) : Step σ Retention := do
  match ← c.evaluate n moment with
  | .keep => return .keep
  | .terminate =>
    match ← (consult (c.provider.terminate n.instanceId)).attempt with
    | .ok _ =>
      let _ ← remove n.name
      return .terminate
    | .error (.provider detail) =>
      note .error s!"Failed to terminate idle node {n.name}: {detail}"
      return .keep
    | .error failure => Action.fail failure

end Controller

end BuildFleet
