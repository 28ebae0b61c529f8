/-
Sweeps.

A sweep decides for one label after the other, and then it checks one node after the other.  The
decisions only hand in launches, so that each of them finds the nodes as they were; the checks only
take out nodes that can be spared.

* **`topUp_of_decide`** — what one decision comes to, carried through the decisions of a sweep;
* **`Culled`** — nodes that could be spared are gone, and nothing else has happened to the nodes;
* **`planned_and_terminated`** — a sweep that plans launches for the very label of which it
  terminates a node.
-/
import BuildFleet.Proofs.Need
import BuildFleet.Proofs.Sparing

namespace BuildFleet

open Controller (needFor unitsFor executorsOf)

variable {σ : Type} {c : Controller σ} {scene : σ → Scene}

/-! ### The decisions of a sweep -/

/-- One decision of a sweep. -/
structure Decision where
  label : String
  /-- The template that serves the label. -/
  template : Template
  plan : List PlannedUnit

/-- The launches that a decision hands in. -/
def Decision.launches (d : Decision) : List Launch :=
  List.replicate d.plan.length ⟨d.template, .queued⟩

/-- The plans that are not empty, by label. -/
def plansOf (decisions : List Decision) : List (String × List PlannedUnit) :=
  (decisions.filter fun d => !d.plan.isEmpty).map fun d => (d.label, d.plan)

theorem exists_of_mem_plansOf {decisions : List Decision} {label : String}
    {plan : List PlannedUnit} (h : (label, plan) ∈ plansOf decisions) :
    plan ≠ [] ∧ ∃ t, ⟨label, t, plan⟩ ∈ decisions := by
  obtain ⟨⟨label, t, plan⟩, hd, heq⟩ := List.mem_map.mp h
  obtain ⟨rfl, rfl⟩ := Prod.mk.inj heq
  obtain ⟨hd, hne⟩ := List.mem_filter.mp hd
  exact ⟨by simpa using hne, t, hd⟩

theorem exists_of_mem_launches {decisions : List Decision} {l : Launch}
    (h : l ∈ decisions.flatMap (·.launches)) : ∃ d ∈ decisions, l = ⟨d.template, .queued⟩ := by
  obtain ⟨d, hd, hl⟩ := List.mem_flatMap.mp h
  exact ⟨d, hd, List.eq_of_mem_replicate hl⟩

/-- One decision for each label, each for the template that serves it, and what is handed in is
what they plan. -/
structure Decided (c : Controller σ) (labels : List String) (decisions : List Decision)
    (f g : Fleet σ) : Prop where
  labels : decisions.map (·.label) = labels
  served : ∀ d ∈ decisions, c.catalog.forLabel? (some d.label) = some d.template
  launches : g.pool.launches = f.pool.launches ++ decisions.flatMap (·.launches)
  roster : g.roster = f.roster

/-- With `left` of the labels still to be decided for, a decision comes to a plan, with `comes` of
it, and `left` of the rest of the labels. -/
def Controller.Decides (c : Controller σ) (left : List String → Fleet σ → Prop)
    (comes : Decision → Prop) : Prop :=
  ∀ (label : String) (rest : List String) (t : Template) (f : Fleet σ),
    c.catalog.forLabel? (some label) = some t → left (label :: rest) f →
    ∃ plan g, c.decide label 0 f = (.ok plan, g) ∧ Handed t plan f g ∧
      comes ⟨label, t, plan⟩ ∧ left rest g

theorem topUp_of_decide {left : List String → Fleet σ → Prop} {comes : Decision → Prop}
    (hdecide : c.Decides left comes)
    {labels : List String} (hserved : ∀ label ∈ labels, c.canProvision (some label))
    {f : Fleet σ} (h : left labels f) :
    ∃ decisions g, c.topUp labels f = (.ok (plansOf decisions), g) ∧
      Decided c labels decisions f g ∧ (∀ d ∈ decisions, comes d) ∧ left [] g := by
  -- By induction on the labels: each decision finds what the ones before it have left.
  induction labels generalizing f with
  | nil => exact ⟨[], f, rfl, ⟨rfl, by simp, by simp, rfl⟩, by simp, h⟩
  | cons label rest ih =>
    obtain ⟨t, ht⟩ := Option.isSome_iff_exists.mp (hserved label List.mem_cons_self)
    obtain ⟨plan, g, hd, hhanded, hcomes, hleft⟩ := hdecide label rest t f ht h
    obtain ⟨decisions, g', hrest, hdecided, hall, hend⟩ :=
      ih (fun l hl => hserved l (List.mem_cons_of_mem label hl)) hleft
    refine ⟨⟨label, t, plan⟩ :: decisions, g', ?_, ⟨?_, ?_, ?_, ?_⟩, ?_, hend⟩
    · by_cases hne : plan = []
      · simp [Controller.topUp, hd, hrest, hne, plansOf]
      · simp [Controller.topUp, hd, hrest, hne, plansOf]
    · rw [List.map_cons, hdecided.labels]
    · exact List.forall_mem_cons.mpr ⟨ht, hdecided.served⟩
    · rw [hdecided.launches, hhanded.launches, List.append_assoc, List.flatMap_cons,
        Decision.launches]
    · rw [hdecided.roster, hhanded.roster]
    · exact List.forall_mem_cons.mpr ⟨hcomes, hall⟩

/-- The labels that a sweep decides for. -/
def Controller.swept (c : Controller σ) (r : Roster) : List String :=
  (c.sweepLabels r).filter fun label => c.canProvision (some label)

theorem Controller.nodup_swept (c : Controller σ) (r : Roster) : (c.swept r).Nodup := by
  have hsorted := Text.pairwise_sortedSet (c.catalog.labels ++ r.labels)
  have hdistinct : (c.sweepLabels r).Nodup := hsorted.imp fun hlt => String.ne_of_lt hlt
  exact hdistinct.filter _

/-- A sweep is its decisions and then, as the case may be, its checks. -/
theorem sweep_of_decide {left : List String → Fleet σ → Prop} {comes : Decision → Prop}
    (hdecide : c.Decides left comes)
    {f : Fleet σ} (h : ∀ log, left (c.swept f.roster) { f with log }) :
    ∃ decisions g, (∀ retains, c.sweep retains f =
        (do
          if retains then c.retire
          return plansOf decisions) g) ∧
      Decided c (c.swept f.roster) decisions f g ∧ (∀ d ∈ decisions, comes d) ∧ left [] g := by
  obtain ⟨log, hnote⟩ : ∃ log, Fleet.note .debug
      s!"Sweeping {(c.sweepLabels f.roster).length} labels" f = (.ok (), { f with log }) :=
    ⟨_, rfl⟩
  have hserved : ∀ label ∈ c.swept f.roster, c.canProvision (some label) :=
    fun label hl => (List.mem_filter.mp hl).2
  obtain ⟨decisions, g, htop, hdecided, hall, hend⟩ := topUp_of_decide hdecide hserved (h log)
  refine ⟨decisions, g, fun retains => ?_,
    ⟨hdecided.labels, hdecided.served, hdecided.launches, hdecided.roster⟩, hall, hend⟩
  rw [Controller.swept] at htop
  simp only [Controller.sweep, Action.bind_apply, Action.reads_apply, hnote, htop]

/-! ### Checks -/

/-- There are more spare nodes with the label of a node than its template wants to be kept ready. -/
def Controller.canSpare (c : Controller σ) (r : Roster) (n : Node) : Prop :=
  ∃ t, c.catalog.forNode? n = some t ∧ t.primed < r.spareCount n.labelString

theorem Controller.LetsGo.canSpare {t : Template} {n : Node} {now : Moment} {r : Roster}
    (h : c.LetsGo t n now r) : c.canSpare r n :=
  ⟨t, h.judges, h.spare⟩

/-- Nodes are gone that could be spared; otherwise the nodes and the pool are the same. -/
structure Culled (c : Controller σ) (f g : Fleet σ) : Prop where
  nodes : g.roster.nodes = f.roster.nodes
  order : g.roster.order.Sublist f.roster.order
  pool : g.pool = f.pool
  gone : ∀ k ∈ f.roster.order, k ∉ g.roster.order →
    ∃ n, f.roster.node? k = some n ∧ c.canSpare f.roster n

namespace Culled

variable {f g : Fleet σ}

theorem refl (f : Fleet σ) : Culled c f f := ⟨rfl, .refl _, rfl, fun _ hk hn => absurd hk hn⟩

theorem check (h : Culled c f g) {n : Node} (hn : n ∈ f.roster.registered) :
    Culled c f (c.check n none g).2 := by
  have hchecked := c.checked n none g
  generalize c.check n none g = outcome at hchecked
  cases hchecked with
  | terminated hlets hterm =>
    refine ⟨h.nodes, List.filter_sublist.trans h.order, h.pool, fun k hk hgone => ?_⟩
    -- The name of the node is its own, so that no other node is taken out with it.
    by_cases hkg : k ∈ g.roster.order
    · have hname : g.roster.nameOf k = some n.name := by
        by_contra hne
        exact hgone (List.mem_filter.mpr ⟨hkg, by simpa using hne⟩)
      obtain ⟨j, hj, hjn⟩ := List.mem_filterMap.mp hn
      have hsame : f.roster.nameOf j = f.roster.nameOf k := by
        rw [Roster.nameOf, h.nodes] at hname
        exact (Roster.nameOf_of_node? hjn).trans hname.symm
      obtain rfl := f.roster.eq_of_nameOf hj hk hsame
      obtain ⟨t, ht, hless⟩ := hlets.canSpare
      exact ⟨n, hjn, t, ht, hless.trans_le (Roster.Thinned.spareCount_le ⟨h.nodes, h.order⟩ _)⟩
    · exact h.gone k hk hkg
  | _ => exact ⟨h.nodes, h.order, h.pool, h.gone⟩

theorem checkAll (h : Culled c f g) {nodes : List Node}
    (hn : ∀ n ∈ nodes, n ∈ f.roster.registered) : Culled c f (c.checkAll nodes g).2 := by
  induction nodes generalizing g with
  | nil => exact h
  | cons n rest ih =>
    have hfirst := h.check (hn n List.mem_cons_self)
    unfold Controller.checkAll
    rw [Action.bind_apply]
    rcases hc : c.check n none g with ⟨e | decision, g'⟩
    · rw [hc] at hfirst
      exact hfirst
    · rw [hc] at hfirst
      have hrest := ih hfirst fun m hm => hn m (List.mem_cons_of_mem n hm)
      simp only [Action.bind_apply]
      rcases hr : c.checkAll rest g' with ⟨e | count, g''⟩ <;> rw [hr] at hrest <;> exact hrest

end Culled

theorem culled_retire (f : Fleet σ) : Culled c f (c.retire f).2 := by
  have hall := (Culled.refl (c := c) f).checkAll fun n hn => hn
  simp only [Controller.retire, Action.bind_apply, Action.reads_apply]
  rcases hr : c.checkAll f.roster.registered f with ⟨e | count, g⟩
  · rw [hr] at hall
    exact hall
  · rw [hr] at hall
    by_cases hcount : count = 0
    · simpa [hcount] using hall
    · simp only [hcount, ne_eq, not_false_eq_true, if_true]
      exact ⟨hall.nodes, hall.order, hall.pool, hall.gone⟩

/-- A provider that fails to terminate makes the check keep the node. -/
theorem check_ok (hterm : ∀ id, FailsAsProvider (c.provider.terminate id)) (n : Node)
    (moment : Option Moment) (f : Fleet σ) :
    ∃ decision g, c.check n moment f = (.ok decision, g) := by
  have hchecked := c.checked n moment f
  generalize c.check n moment f = outcome at hchecked ⊢
  cases hchecked with
  | failed _ hfail he =>
    obtain ⟨detail, hdetail⟩ := hterm _ _ _ (congrArg Prod.fst hfail)
    exact absurd hdetail (he detail)
  | _ => exact ⟨_, _, rfl⟩

theorem checkAll_ok (hterm : ∀ id, FailsAsProvider (c.provider.terminate id)) (nodes : List Node)
    (f : Fleet σ) : ∃ count g, c.checkAll nodes f = (.ok count, g) := by
  induction nodes generalizing f with
  | nil => exact ⟨0, f, rfl⟩
  | cons n rest ih =>
    obtain ⟨decision, g, hone⟩ := check_ok hterm n none f
    obtain ⟨count, g', hrest⟩ := ih g
    exact ⟨_, g', by simp [Controller.checkAll, hone, hrest]; rfl⟩

theorem retire_ok (hterm : ∀ id, FailsAsProvider (c.provider.terminate id)) (f : Fleet σ) :
    ∃ g, c.retire f = (.ok (), g) := by
  obtain ⟨count, g, hall⟩ := checkAll_ok hterm f.roster.registered f
  simp only [Controller.retire, Action.bind_apply, Action.reads_apply, hall]
  by_cases hcount : count = 0
  · exact ⟨g, by simp [hcount]⟩
  · exact ⟨_, by simp [hcount, Fleet.note]; rfl⟩

/-- As long as no node can be spared, a check only writes to the log. -/
theorem retire_of_needed {f : Fleet σ}
    (h : ∀ n ∈ f.roster.registered, ¬c.canSpare f.roster n) :
    ∃ log, c.retire f = (.ok (), { f with log }) := by
  have hall : ∀ nodes, (∀ n ∈ nodes, ¬c.canSpare f.roster n) → ∀ log,
      ∃ log', c.checkAll nodes { f with log } = (.ok 0, { f with log := log' }) := by
    intro nodes
    induction nodes with
    | nil => exact fun _ log => ⟨log, rfl⟩
    | cons n rest ih =>
      intro hn log
      have hspare := hn n List.mem_cons_self
      have hone : ∃ log', c.check n none { f with log } = (.ok .keep, { f with log := log' }) := by
        have hchecked := c.checked n none { f with log }
        generalize c.check n none { f with log } = outcome at hchecked ⊢
        cases hchecked with
        | kept => exact ⟨_, rfl⟩
        | terminated hlets => exact absurd hlets.canSpare hspare
        | refused hlets => exact absurd hlets.canSpare hspare
        | failed hlets => exact absurd hlets.canSpare hspare
      obtain ⟨log', hcheck⟩ := hone
      obtain ⟨log'', hrest⟩ := ih (fun m hm => hn m (List.mem_cons_of_mem n hm)) log'
      exact ⟨log'', by simp [Controller.checkAll, hcheck, hrest]⟩
  obtain ⟨log, hnone⟩ := hall f.roster.registered h f.log
  exact ⟨log, by simp [Controller.retire, hnone]⟩

/-! ### Planned and terminated -/

theorem le_executorsOf {m : Nat} {nodes : List Node} (h : ∀ n ∈ nodes, (m : Int) ≤ n.executors) :
    (nodes.length * m : Int) ≤ executorsOf nodes := by
  induction nodes with
  | nil => simp [executorsOf]
  | cons n rest ih =>
    have hrest := ih fun p hp => h p (List.mem_cons_of_mem n hp)
    have hn := h n List.mem_cons_self
    have hlen : (((n :: rest).length : Nat) : Int) * m = rest.length * m + m := by
      rw [List.length_cons, Int.natCast_add, Int.add_mul, Int.natCast_one, Int.one_mul]
    rw [hlen]
    show _ ≤ n.executors + executorsOf rest
    omega

theorem spareCount_lt_primed {t : Template} {label : String} {pending : List Node} {f : Fleet σ}
    (hp : ∀ p ∈ pending, (t.executors.val : Int) ≤ p.executors)
    (h : 0 < unitsFor t (needFor t label 0 pending f)) : f.roster.spareCount label < t.primed := by
  have hneed : (0 : Int) < needFor t label 0 pending f := by
    simpa using lt_of_lt_unitsFor h
  -- A node that may still come up makes one more launch missing, and its executors pay for it.
  have hcover := le_executorsOf hp
  by_contra hge
  have hshort : Controller.shortfall t (f.roster.spareCount label - pending.length) ≤
      pending.length := by
    rw [Controller.shortfall]
    omega
  have hmul := Int.mul_le_mul_of_nonneg_right hshort (Int.natCast_nonneg t.executors.val)
  rw [needFor] at hneed
  split_ifs at hneed
  · omega
  · have := Int.mul_nonneg (Int.natCast_nonneg pending.length) (Int.natCast_nonneg t.executors.val)
    omega

/-- Each decision of a sweep needs what it would have needed at the start of the sweep. -/
theorem sweep_healthy (hh : Healthy c.provider scene) (hc : c.Patient scene) (f : Fleet σ) :
    ∃ decisions g, (∀ retains, c.sweep retains f =
        (do
          if retains then c.retire
          return plansOf decisions) g) ∧
      Decided c (c.swept f.roster) decisions f g ∧
      ∀ d ∈ decisions, d.plan.length ≤ f.needed scene d.template d.label 0 := by
  let left (_ : List String) (g : Fleet σ) : Prop := g.roster = f.roster ∧ Unseen scene f g
  let comes (d : Decision) : Prop := d.plan.length ≤ f.needed scene d.template d.label 0
  have hdecide : c.Decides left comes := by
    rintro label rest t g ht ⟨hroster, hunseen⟩
    obtain ⟨plan, g', hd, hle, -, hhanded, hunseen'⟩ := decide_healthy hh hc ht 0 g
    rw [hunseen.needed hroster] at hle
    exact ⟨plan, g', hd, hhanded, hle.trans (Nat.min_le_left _ _),
      hhanded.roster.trans hroster, hunseen.trans hunseen'⟩
  obtain ⟨decisions, g, hsweep, hdecided, hneeded, -⟩ :=
    sweep_of_decide hdecide (f := f) fun log => ⟨rfl, rfl, rfl⟩
  exact ⟨decisions, g, hsweep, hdecided, hneeded⟩

/-- **A sweep plans launches for a label of which it terminates a node** only where two templates
are at odds, or where launches that may still come up are too small: the template that judges the
node wants fewer nodes to be kept ready than the one that serves the label, or one of the nodes that
may still come up has fewer executors than a launch would have. -/
theorem planned_and_terminated (hh : Healthy c.provider scene) (hc : c.Patient scene)
    (hterm : ∀ id, FailsAsProvider (c.provider.terminate id)) (f : Fleet σ) :
    ∃ plans g, c.sweep true f = (.ok plans, g) ∧
      ∀ label plan, (label, plan) ∈ plans → ∀ k ∈ f.roster.order, k ∉ g.roster.order →
        ∀ n, f.roster.node? k = some n → n.labelString = label →
          ∃ s t, c.catalog.forLabel? (some label) = some s ∧ c.catalog.forNode? n = some t ∧
            (t.primed < s.primed ∨ ∃ p ∈ f.roster.awaited label (scene f.cloud),
              p.executors < s.executors.val) := by
  obtain ⟨decisions, g, hsweep, hdecided, hneeded⟩ := sweep_healthy hh hc f
  have hculled := culled_retire (c := c) g
  obtain ⟨g', hretire⟩ := retire_ok hterm g
  rw [hretire] at hculled
  refine ⟨plansOf decisions, g', by simp [hsweep true, hretire], ?_⟩
  rintro label plan hplan k hk hgone n hn rfl
  obtain ⟨hne, s, hd⟩ := exists_of_mem_plansOf hplan
  obtain ⟨m, hm, t, ht, hless⟩ := hculled.gone k (hdecided.roster ▸ hk) hgone
  rw [hdecided.roster] at hm hless
  obtain rfl : m = n := Option.some.inj (hm.symm.trans hn)
  have hs := hdecided.served _ hd
  have hle := hneeded _ hd
  refine ⟨s, t, hs, ht, ?_⟩
  by_cases hsmall : ∃ p ∈ f.roster.awaited m.labelString (scene f.cloud),
      p.executors < s.executors.val
  · exact .inr hsmall
  · left
    have hlarge : ∀ p ∈ f.roster.awaited m.labelString (scene f.cloud),
        (s.executors.val : Int) ≤ p.executors := by
      intro p hp
      exact Int.not_lt.mp fun hlt => hsmall ⟨p, hp, hlt⟩
    have hpos : 0 < f.needed scene s m.labelString 0 :=
      (List.length_pos_iff.mpr hne).trans_le hle
    have := spareCount_lt_primed hlarge hpos
    omega

/-- The roster of some nodes, registered one after the other. -/
def Roster.ofNodes (nodes : List Node) : Roster :=
  nodes.foldl (fun r n => (r.make n).register r.next) .empty

/-- Two templates share a label string: the first is to keep two nodes ready, the second none, and
its idle nodes are terminated after a minute. -/
def rivals : Controller AmpleCloud :=
  .ample [.primedPlain "a" "ami-1" "linux" 2,
    { Template.plain "b" "ami-2" "linux" 9 with idleMinutes := 1 }] 9

/-- A node of the second template that has been idle for two minutes. -/
def rivalNode : Node :=
  (Node.ofTemplate (.plain "b" "ami-2" "linux" 9) "i-1" "i-1" (.text "ami-2") none).markOnline ⟨0⟩

def rivalFleet : Fleet AmpleCloud :=
  { Fleet.fresh ⟨["ami-2"], [], 1⟩ ⟨120000000⟩ with roster := .ofNodes [rivalNode] }

theorem planned_and_terminated_rivals :
    ∃ s t, rivals.catalog.forLabel? (some "linux") = some s ∧
      rivals.catalog.forNode? rivalNode = some t ∧
      (t.primed < s.primed ∨ ∃ p ∈ rivalFleet.roster.awaited "linux" rivalFleet.cloud.view,
        p.executors < s.executors.val) := by
  have hterm : ∀ id, FailsAsProvider (rivals.provider.terminate id) := fun id w e h => by cases h
  have hpatient : rivals.Patient AmpleCloud.view := patient_ample _ _
  obtain ⟨plans, g, hsweep, hfight⟩ :=
    planned_and_terminated healthy_ample hpatient hterm rivalFleet
  have hplans : (rivals.sweep true rivalFleet).1 = .ok [("linux", [⟨"a", 1, 0⟩])] := by
    decide +kernel
  have horder : (rivals.sweep true rivalFleet).2.roster.order = [] := by decide +kernel
  rw [hsweep] at hplans horder
  obtain rfl : plans = [("linux", [⟨"a", 1, 0⟩])] := Except.ok.inj hplans
  have hgone : 0 ∉ g.roster.order := by
    rw [show g.roster.order = [] from horder]
    exact List.not_mem_nil
  exact hfight "linux" _ List.mem_cons_self 0 (by decide) hgone rivalNode rfl rfl

/-- One template with four executors, of which one node is to be kept ready. -/
def fourfold : Template :=
  { Template.primedPlain "a" "ami-1" "linux" 1 with executors := ⟨4, by decide⟩, idleMinutes := 1 }

/-- Two nodes of it are idle, and two with one executor each may still come up. -/
def smallFleet : Fleet AmpleCloud :=
  let n := Node.ofTemplate fourfold "i-1" "i-1" (.text "ami-1") none
  { Fleet.fresh ⟨["ami-1", "ami-1"], ["sir-1", "sir-2"], 2⟩ ⟨120000000⟩ with
    roster := .ofNodes
      [n.markOnline ⟨0⟩, { n with name := "a (i-2)" }.markOnline ⟨0⟩,
        { n with name := "a (sir-1)", executors := 1, spotRequest := some "sir-1" },
        { n with name := "a (sir-2)", executors := 1, spotRequest := some "sir-2" }] }

/-- One sweep plans and terminates for the same label, where two templates share a label string,
and where the nodes that may still come up are smaller than their template has them now. -/
theorem sweep_plans_and_terminates :
    ((rivals.sweep true rivalFleet).1 = .ok [("linux", [⟨"a", 1, 0⟩])] ∧
      rivalFleet.roster.order = [0] ∧ (rivals.sweep true rivalFleet).2.roster.order = []) ∧
    (((Controller.ample [fourfold] 9).sweep true smallFleet).1 =
        .ok [("linux", [⟨"a", 4, 0⟩])] ∧
      smallFleet.roster.order = [0, 1, 2, 3] ∧
      ((Controller.ample [fourfold] 9).sweep true smallFleet).2.roster.order = [1, 2, 3]) := by
  decide +kernel

end BuildFleet
