/-
What a promise saves.

A node that is not connected yet but may still come up by its spot request is a promise.  Promises
are taken off the demand, and they are taken off the idle nodes too, to which they do not belong; so
each of them saves one launch while the primed target does not count, and otherwise only as far as
more nodes are idle than are to be kept ready:

* **`Fleet.unpromised`** — the same fleet without the nodes that may still come up;
* **`Fleet.saved`** — how many launches they save;
* **`decide_saves`** — a decision plans so many launches less than it would without them.
-/
import BuildFleet.Proofs.Quantity
import BuildFleet.Proofs.Sweeps

namespace BuildFleet

open Controller (needFor unitsFor executorsOf shortfall)

variable {σ : Type} {c : Controller σ} {scene : σ → Scene}

/-! ### Without some nodes -/

/-- Takes out the names of some nodes. -/
def Roster.forget (r : Roster) (nodes : List Node) : Roster :=
  nodes.foldl (fun r n => r.remove n.name) r

namespace Roster

variable {r : Roster} {nodes : List Node}

theorem registered_forget (r : Roster) (nodes : List Node) :
    (r.forget nodes).registered = r.registered.filter (·.name ∉ nodes.map (·.name)) := by
  induction nodes generalizing r with
  | nil => simp [forget]
  | cons n rest ih =>
    show ((r.remove n.name).forget rest).registered = _
    rw [ih, registered_remove, List.filter_filter]
    refine List.filter_congr fun m _ => ?_
    rw [Bool.eq_iff_iff]
    simp [and_comm]

/-- To forget registered nodes leaves the others. -/
theorem filter_forget (hnodes : nodes ⊆ r.registered) {q : Node → Bool}
    (hq : ∀ n ∈ nodes, q n = false) :
    (r.forget nodes).registered.filter q = r.registered.filter q := by
  rw [registered_forget, List.filter_filter]
  refine List.filter_congr fun n hn => ?_
  by_cases hname : n.name ∈ nodes.map (·.name)
  · obtain ⟨m, hm, hsame⟩ := List.mem_map.mp hname
    obtain rfl := eq_of_name hn (hnodes hm) hsame
    simp [hq m hm]
  · simp [hname]

theorem promised_subset (r : Roster) (label : String) (s : Scene) :
    r.promised label s ⊆ r.registered :=
  List.filter_subset_self _

theorem promised_forget (r : Roster) (label : String) (s : Scene) :
    (r.forget (r.promised label s)).promised label s = [] := by
  refine List.filter_eq_nil_iff.mpr fun n hn hpromised => ?_
  rw [registered_forget, List.mem_filter] at hn
  have hname := of_decide_eq_true hn.2
  exact hname (List.mem_map_of_mem (List.mem_filter.mpr ⟨hn.1, hpromised⟩))

theorem spareCount_forget (r : Roster) (label : String) (s : Scene) :
    (r.forget (r.promised label s)).spareCount label = r.spareCount label := by
  rw [spareCount_eq, spareCount_eq, idleNodes, idleNodes,
    filter_forget (r.promised_subset label s)]
  intro n hn
  -- Who is not connected is not idle.
  have hoffline := (of_decide_eq_true (List.mem_filter.mp hn).2).2.1
  simp [hoffline]

end Roster

/-- The fleet without the nodes of a label that may still come up. -/
def Fleet.unpromised (scene : σ → Scene) (label : String) (f : Fleet σ) : Fleet σ :=
  { f with roster := f.roster.forget (f.roster.promised label (scene f.cloud)) }

/-- How many launches the nodes save that may still come up.  Each saves one; but while the primed
target counts, only those do for which there is an idle node that is not to be kept ready. -/
def Fleet.saved (scene : σ → Scene) (t : Template) (label : String) (f : Fleet σ) : Nat :=
  let promised := (f.roster.promised label (scene f.cloud)).length
  if t.isPrimedAt f.now then min promised (f.roster.spareCount label - t.primed) else promised

/-! ### What is needed -/

/-- Whole instances can be taken off before it is rounded up. -/
theorem unitsFor_sub (t : Template) (need : Int) (n : Nat) :
    unitsFor t (need - n * t.executors.val) = unitsFor t need - n := by
  have hpos : (0 : ℚ) < t.executors.val := by exact_mod_cast t.executors.property
  have hceil : ⌈((need - n * t.executors.val : Int) : ℚ) / t.executors.val⌉ =
      ⌈(need : ℚ) / t.executors.val⌉ - n := by
    push_cast
    rw [sub_div, mul_div_assoc, div_self hpos.ne', mul_one, Int.ceil_sub_natCast]
  have hless := unitsFor_eq_ceil t (need - n * t.executors.val)
  have hall := unitsFor_eq_ceil t need
  rw [hceil] at hless
  omega

theorem executorsOf_eq_mul {nodes : List Node} {executors : Nat}
    (h : ∀ n ∈ nodes, n.executors = executors) :
    executorsOf nodes = nodes.length * executors := by
  rw [executorsOf_eq_sum, List.map_congr_left h, List.map_const', List.sum_replicate, nsmul_eq_mul]

variable {t : Template} {label : String}

theorem needFor_promised {f : Fleet σ}
    (hsame : ∀ n ∈ f.roster.promised label (scene f.cloud), n.executors = t.executors.val)
    (excess : Int) :
    needFor t label excess (f.roster.promised label (scene f.cloud)) f =
      needFor t label excess [] (f.unpromised scene label) -
        f.saved scene t label * t.executors.val := by
  have hspare : (f.unpromised scene label).roster.spareCount label = f.roster.spareCount label :=
    f.roster.spareCount_forget label (scene f.cloud)
  rw [needFor, needFor, hspare, executorsOf_eq_mul hsame, Fleet.saved]
  generalize f.roster.promised label (scene f.cloud) = promised at *
  generalize t.executors.val = e
  show _ = excess - 0 + (if t.isPrimedAt f.now then _ else _) - _
  by_cases hprimed : t.isPrimedAt f.now = true
  · -- The shortfall grows by the promises that it was not negative for before.
    have hgrown : shortfall t (f.roster.spareCount label - promised.length) =
        shortfall t (f.roster.spareCount label - ([] : List Node).length) + promised.length -
          (min promised.length (f.roster.spareCount label - t.primed) : Nat) := by
      rw [shortfall, shortfall, List.length_nil]
      omega
    rw [if_pos hprimed, if_pos hprimed, if_pos hprimed, hgrown]
    ring
  · rw [if_neg hprimed, if_neg hprimed, if_neg hprimed]
    ring

theorem needed_unpromised {f : Fleet σ}
    (hsame : ∀ n ∈ f.roster.promised label (scene f.cloud), n.executors = t.executors.val)
    (excess : Int) :
    f.needed scene t label excess =
      (f.unpromised scene label).needed scene t label excess - f.saved scene t label := by
  have hnone : (f.unpromised scene label).roster.promised label
      (scene (f.unpromised scene label).cloud) = [] := f.roster.promised_forget label _
  rw [Fleet.needed, Fleet.needed, Roster.awaited_eq, Roster.awaited_eq, hnone,
    needFor_promised hsame, unitsFor_sub]

/-! ### Plans -/

/-- **What nodes save that may still come up.**  The provider is in good health, the pool takes the
launches and leaves them in the queue, the caps leave room for what is needed, and the nodes have as
many executors as a launch: then a decision plans as many launches less than it would without these
nodes as they save, but never fewer than none. -/
theorem decide_saves (hh : Healthy c.provider scene) (hc : c.Patient scene) (hw : c.Willing)
    (label : String) (excess : Int) {f : Fleet σ} (ho : f.pool.isOpen = true)
    (hserved : ∀ t, c.catalog.forLabel? (some label) = some t →
      (∀ n ∈ f.roster.promised label (scene f.cloud), n.executors = t.executors.val) ∧
        (f.unpromised scene label).needed scene t label excess ≤ c.room scene t f) :
    ∃ without plan g₀ g, c.decide label excess (f.unpromised scene label) = (.ok without, g₀) ∧
      c.decide label excess f = (.ok plan, g) ∧
      match c.catalog.forLabel? (some label) with
      | none => without = [] ∧ plan = []
      | some t => plan.length = without.length - f.saved scene t label := by
  cases ht : c.catalog.forLabel? (some label) with
  | none =>
    have hcalm := hc.calm hh f.cloud
    obtain ⟨without, g₀, hd₀, hnone₀⟩ := decide_quantity hcalm (fun w _ => hw w) label excess
      (f := f.unpromised scene label) rfl ho
    obtain ⟨plan, g, hd, hnone⟩ := decide_quantity hcalm (fun w _ => hw w) label excess
      (f := f) rfl ho
    rw [ht] at hnone₀ hnone
    exact ⟨without, plan, g₀, g, hd₀, hd, hnone₀.1, hnone.1⟩
  | some t =>
    obtain ⟨hsame, hroom⟩ := hserved t ht
    obtain ⟨without, g₀, hd₀, -, hlen₀, -⟩ :=
      decide_healthy hh hc ht excess (f.unpromised scene label)
    obtain ⟨plan, g, hd, -, hlen, -⟩ := decide_healthy hh hc ht excess f
    refine ⟨without, plan, g₀, g, hd₀, hd, ?_⟩
    have hroom₀ : c.room scene t (f.unpromised scene label) = c.room scene t f := rfl
    have hneeded := needed_unpromised hsame excess
    rw [hlen ho hw, hlen₀ ho hw, hroom₀, hneeded]
    omega

/-- A node of a template that waits for its instance. -/
def promisedNode (request : String) : Node :=
  .ofTemplate (.plain "a" "ami-1" "linux" 9) request "" (.text "ami-1") (some request)

/-- Two nodes are idle, and two wait for their instances. -/
def twoPromised : Fleet AmpleCloud :=
  { Fleet.fresh ⟨["ami-1", "ami-1"], ["sir-2", "sir-3"], 4⟩ ⟨0⟩ with
    roster := .ofNodes
      [idleNode "i-0", promisedNode "sir-2", idleNode "i-1", promisedNode "sir-3"] }

/-- One idle node is to be kept ready, so that one of the two promises saves a launch. -/
theorem decide_saves_twoPromised :
    ∃ without plan g₀ g,
      primedOnce.decide "linux" 3 (twoPromised.unpromised AmpleCloud.view "linux") =
        (.ok without, g₀) ∧
      primedOnce.decide "linux" 3 twoPromised = (.ok plan, g) ∧
      without.length = 3 ∧ plan.length = 2 := by
  have ht : primedOnce.catalog.forLabel? (some "linux") =
      some (.primedPlain "a" "ami-1" "linux" 1) := by decide +kernel
  have hserved : ∀ t, primedOnce.catalog.forLabel? (some "linux") = some t →
      (∀ n ∈ twoPromised.roster.promised "linux" twoPromised.cloud.view,
          n.executors = t.executors.val) ∧
        (twoPromised.unpromised AmpleCloud.view "linux").needed AmpleCloud.view t "linux" 3 ≤
          primedOnce.room AmpleCloud.view t twoPromised := by
    intro t h
    obtain rfl := Option.some.inj (ht.symm.trans h)
    decide +kernel
  have hpatient : primedOnce.Patient AmpleCloud.view := patient_ample _ _
  obtain ⟨without, plan, g₀, g, hd₀, hd, hlen⟩ := decide_saves healthy_ample hpatient
    (willing_ample _ _) "linux" 3 (f := twoPromised) rfl hserved
  have hsaved : twoPromised.saved AmpleCloud.view (.primedPlain "a" "ami-1" "linux" 1) "linux" =
      1 := by decide +kernel
  have hthree : (primedOnce.decide "linux" 3 (twoPromised.unpromised AmpleCloud.view "linux")).1.map
      (·.length) = .ok 3 := by decide +kernel
  rw [hd₀] at hthree
  have hlen₀ : without.length = 3 := Except.ok.inj hthree
  rw [ht] at hlen
  dsimp only at hlen
  rw [hsaved, hlen₀] at hlen
  exact ⟨without, plan, g₀, g, hd₀, hd, hlen₀, hlen⟩

/-- While no node is idle that could go, a promise saves nothing: one launch is planned with it and
without it. -/
theorem promise_saves_nothing :
    ∃ (t : Template) (f : Fleet AmpleCloud),
      primedOnce.catalog.forLabel? (some "linux") = some t ∧
      (∀ n ∈ f.roster.withLabel "linux", n.executors = t.executors.val) ∧
      (f.unpromised AmpleCloud.view "linux").needed AmpleCloud.view t "linux" 0 <
        primedOnce.room AmpleCloud.view t f ∧
      (f.roster.promised "linux" f.cloud.view).length = 1 ∧
      (primedOnce.decide "linux" 0 (f.unpromised AmpleCloud.view "linux")).1 =
        .ok [⟨"a", 1, 0⟩] ∧
      (primedOnce.decide "linux" 0 f).1 = .ok [⟨"a", 1, 0⟩] := by
  refine ⟨.primedPlain "a" "ami-1" "linux" 1,
    { Fleet.fresh ⟨[], ["sir-1"], 2⟩ ⟨0⟩ with roster := .ofNodes [promisedNode "sir-1"] }, ?_⟩
  decide +kernel

end BuildFleet
