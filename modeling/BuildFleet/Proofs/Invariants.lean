/-
Invariants of the nodes and the world outside.

The ledger, the pool, the time and the log can be left aside here: what is said of the nodes and of
the world outside is lost only by a question to the world, by a launch or by a check.  An invariant
that each of these upholds is therefore upheld by every operation.

* **`Maintains`** — a step after which the invariant holds if it held before, whatever its outcome;
* **`Controller.Upholds`** — the few steps that have to maintain an invariant;
* **`Upholds.decide`**, **`Upholds.sweep`**, **`Upholds.runQueue`**, … — the operations then do.
-/
import BuildFleet.Proofs.Checks
import BuildFleet.Proofs.Operations

namespace BuildFleet

open Fleet (Step consult)

variable {σ α β : Type} {c : Controller σ} {I : Fleet σ → Prop}

/-- Whatever the outcome of the step is, the invariant holds afterwards if it held before. -/
def Maintains (I : Fleet σ → Prop) (m : Step σ α) : Prop := ∀ f, I f → I (m f).2

namespace Maintains

theorem pure (a : α) : Maintains I (Pure.pure a) := fun _ hf => hf

theorem fail (e : Failure) : Maintains I (Action.fail e : Step σ α) := fun _ hf => hf

theorem reads (part : Fleet σ → α) : Maintains I (Action.reads part) := fun _ hf => hf

theorem attempt {m : Step σ α} (hm : Maintains I m) : Maintains I m.attempt := hm

theorem bind {m : Step σ α} {k : α → Step σ β} (hm : Maintains I m)
    (hk : ∀ a, Maintains I (k a)) : Maintains I (m >>= k) := by
  intro f hf
  have hg := hm f hf
  rw [Action.bind_apply]
  rcases hmf : m f with ⟨e | a, g⟩
  · rwa [hmf] at hg
  · rw [hmf] at hg
    exact hk a g hg

end Maintains

/-- The invariant is about the nodes and the world outside, and it is not lost when the world is
asked, by a launch, and by the check of a node that was made. -/
structure Controller.Upholds (c : Controller σ) (I : Fleet σ → Prop) : Prop where
  still {f g : Fleet σ} (roster : g.roster = f.roster) (cloud : g.cloud = f.cloud) : I f → I g
  count (image : Option String) : Maintains I (consult (c.provider.count image))
  requestState (id : String) : Maintains I (consult (c.provider.requestState id))
  refuses {f : Fleet σ} : I f → I { f with cloud := (c.refuses f.cloud).2 }
  launch (t : Template) : Maintains I (c.launch t)
  check {n : Node} {f : Fleet σ} (hn : n ∈ f.roster.nodes) (moment : Option Moment) :
    I f → I (c.check n moment f).2

/-- A check makes no nodes and changes none. -/
theorem Controller.nodes_check (c : Controller σ) (n : Node) (moment : Option Moment)
    (f : Fleet σ) : (c.check n moment f).2.roster.nodes = f.roster.nodes := by
  have hchecked := c.checked n moment f
  generalize c.check n moment f = outcome at hchecked
  cases hchecked <;> rfl

namespace Controller.Upholds

variable (h : c.Upholds I)

include h

theorem note (level : Level) (message : String) :
    Maintains I (Fleet.note level message : Step σ Unit) := fun _ => h.still rfl rfl

theorem changeLedger (change : Ledger → Ledger) :
    Maintains I (Fleet.changeLedger change : Step σ Unit) := fun _ => h.still rfl rfl

theorem changePool (change : Pool → Pool) :
    Maintains I (Fleet.changePool change : Step σ Unit) := fun _ => h.still rfl rfl

theorem settlingFor (default : α) (label : String) {m : Step σ α} (hm : Maintains I m) :
    Maintains I (Controller.settlingFor default label m) := by
  refine hm.attempt.bind fun r => ?_
  cases r with
  | ok a => exact .pure a
  | error e =>
    cases e with
    | provider detail => exact (h.note _ _).bind fun _ => .pure default
    | _ => exact .fail _

/-! ### The pool -/

theorem carryOut (k : Nat) : Maintains I (c.carryOut k) := by
  unfold Controller.carryOut
  refine (Maintains.reads _).bind fun l => ?_
  split
  next l t =>
    refine (h.changePool _).bind fun _ => (h.launch t).attempt.bind fun r => ?_
    cases r with
    | ok node => exact h.changePool _
    | error e => exact h.changePool _
  · exact .pure ()

theorem runQueue (n : Nat) : Maintains I (c.runQueue n) := by
  induction n with
  | zero => exact .pure 0
  | succ n ih =>
    refine (Maintains.reads _).bind fun queue => ?_
    cases queue with
    | nil => exact .pure 0
    | cons k rest =>
      exact (h.changePool _).bind fun _ => (h.carryOut k).bind fun _ => ih.bind fun _ => .pure _

theorem drain : Maintains I c.drain := by
  have hall : ∀ n, Maintains I (c.drainWithin n) := by
    intro n
    induction n with
    | zero => exact (Maintains.reads _).bind fun _ => h.runQueue _
    | succ n ih =>
      exact (Maintains.reads _).bind fun _ => (h.runQueue _).bind fun _ => ih.bind fun _ => .pure _
  exact hall _

theorem submit (t : Template) : Maintains I (c.submit t) := by
  have hrefusal : Maintains I c.refusal? := by
    refine (Maintains.reads _).bind fun isOpen => ?_
    cases isOpen with
    -- Only an open pool has the surroundings answer.
    | true => exact fun f hf => h.refuses hf
    | false => exact .pure _
  refine hrefusal.bind fun reason => ?_
  cases reason with
  | some reason => exact (h.changeLedger _).bind fun _ => .pure _
  | none =>
    refine (Maintains.reads _).bind fun k => (h.changePool _).bind fun _ => ?_
    split
    · exact h.drain.bind fun _ => .pure _
    · exact .pure _

theorem cancel (k : Nat) : Maintains I (Controller.cancel k) := by
  unfold Controller.cancel
  refine (Maintains.reads _).bind fun l => ?_
  split
  · exact (h.changePool _).bind fun _ => (h.changeLedger _).bind fun _ => .pure _
  · exact .pure _
  · exact .pure _

theorem shutdown (wait : Bool) : Maintains I (c.shutdown wait) := by
  unfold Controller.shutdown
  split
  · refine (h.changePool _).bind fun _ => ?_
    cases wait with
    | true => exact h.drain.bind fun _ => .pure _
    | false => exact .pure _
  · exact .pure _

/-! ### Decisions and sweeps -/

theorem reserve (image : String) (imageCap : Int) : Maintains I (c.reserve image imageCap) := by
  have hcounts : Maintains I (c.countInstances image) :=
    (h.count none).bind fun _ => (h.count (some image)).bind fun _ => .pure _
  refine hcounts.bind fun counted => (Maintains.reads _).bind fun ledger => ?_
  exact (h.note _ _).bind fun _ => (h.changeLedger _).bind fun _ => .pure _

theorem assess (label : String) (excess : Int) : Maintains I (c.assess label excess) := by
  have hpending : ∀ nodes, Maintains I (c.pendingAmong nodes) := by
    intro nodes
    induction nodes with
    | nil => exact .pure []
    | cons n rest ih =>
      unfold Controller.pendingAmong
      cases n.awaitedRequest? with
      | none => exact ih
      | some id => exact (h.requestState id).bind fun _ => ih.bind fun _ => .pure _
  refine (Maintains.reads _).bind fun nodes => (hpending nodes).bind fun pending => ?_
  refine (Maintains.reads _).bind fun spare => (h.note _ _).bind fun _ => ?_
  cases c.catalog.forLabel? (some label) with
  | none => exact (h.note _ _).bind fun _ => .pure none
  | some t =>
    refine (h.note _ _).bind fun _ => ?_
    split
    · exact .pure _
    · refine (Maintains.reads _).bind fun now => Maintains.bind ?_ fun _ => .pure _
      exact fun f => h.still rfl rfl

theorem launchUpTo (label : String) (t : Template) (units : Nat) :
    Maintains I (c.launchUpTo label t units) := by
  induction units with
  | zero => exact .pure []
  | succ n ih =>
    refine (h.settlingFor false label (h.reserve _ _)).bind fun granted => ?_
    cases granted with
    | false => exact .pure []
    | true =>
      refine (h.submit t).bind fun r => ?_
      cases r with
      | ok k => exact ih.bind fun _ => .pure _
      | error reason => exact (h.note _ _).bind fun _ => .pure []

theorem decide (label : String) (excess : Int) : Maintains I (c.decide label excess) := by
  refine (h.note _ _).bind fun _ => (h.settlingFor none label (h.assess _ _)).bind fun found => ?_
  cases found with
  | none => exact .pure []
  | some found =>
    obtain ⟨t, need⟩ := found
    dsimp only
    rw [Controller.launchWhile_eq]
    refine (h.launchUpTo label t _).bind fun plan => ?_
    split
    · exact (h.note _ _).bind fun _ => .pure plan
    · exact .pure plan

/-- Nodes that were made are checked one after the other, and each check leaves the others be. -/
theorem checkAll {nodes made : List Node} (hmade : ∀ n ∈ nodes, n ∈ made) :
    Maintains (fun f => I f ∧ f.roster.nodes = made) (c.checkAll nodes) := by
  induction nodes with
  | nil => exact .pure 0
  | cons n rest ih =>
    have hfirst : Maintains (fun f => I f ∧ f.roster.nodes = made) (c.check n none) := by
      rintro f ⟨hf, hnodes⟩
      have hn : n ∈ f.roster.nodes := hnodes ▸ hmade n List.mem_cons_self
      exact ⟨h.check hn none hf, (c.nodes_check n none f).trans hnodes⟩
    refine hfirst.bind fun _ => Maintains.bind ?_ fun _ => .pure _
    exact ih fun m hm => hmade m (List.mem_cons_of_mem n hm)

theorem retire : Maintains I c.retire := by
  intro f hf
  -- The nodes are read once, so the later ones have to be there still when their turn comes.
  have hmade : ∀ n ∈ f.roster.registered, n ∈ f.roster.nodes := by
    intro n hn
    obtain ⟨k, -, hk⟩ := List.mem_filterMap.mp hn
    exact List.mem_of_getElem? hk
  have hall : Maintains (fun g => I g ∧ g.roster.nodes = f.roster.nodes) (do
      let count ← c.checkAll f.roster.registered
      if count ≠ 0 then Fleet.note .info s!"Terminated {count} idle node(s)") := by
    refine (h.checkAll hmade).bind fun count => ?_
    split
    · exact fun g hg => ⟨h.note _ _ g hg.1, hg.2⟩
    · exact .pure ()
  exact (hall f ⟨hf, rfl⟩).1

theorem sweep (retains : Bool) : Maintains I (c.sweep retains) := by
  have htopUp : ∀ labels, Maintains I (c.topUp labels) := by
    intro labels
    induction labels with
    | nil => exact .pure []
    | cons label rest ih => exact (h.decide label 0).bind fun _ => ih.bind fun _ => .pure _
  refine (Maintains.reads _).bind fun _ => (h.note _ _).bind fun _ => ?_
  refine (htopUp _).bind fun plans => ?_
  cases retains with
  | true => exact h.retire.bind fun _ => .pure plans
  | false => exact .pure plans

end Controller.Upholds

end BuildFleet
