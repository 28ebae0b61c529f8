/-
Spare nodes.

Checks take nodes out one after the other, and each counts the nodes that are left.  So the number of
spare nodes for a label never falls below what the templates want to be kept ready:

* **`Spared`** — what one check may do to the roster;
* **`spared_check`** — it does no more than that;
* **`spared_run`** — nor does it after any number of other checks, and together they leave enough
  spare nodes.
-/
import BuildFleet.Proofs.Checks
import BuildFleet.Proofs.Health

namespace BuildFleet

variable {σ : Type}

/-! ### Names that are taken out -/

namespace Roster

variable {r s : Roster}

theorem registered_remove (r : Roster) (name : String) :
    (r.remove name).registered = r.registered.filter (·.name ≠ name) := by
  show (r.order.filter (r.nameOf · ≠ some name)).filterMap r.node? =
    (r.order.filterMap r.node?).filter (·.name ≠ name)
  induction r.order with
  | nil => rfl
  | cons k rest ih =>
    cases hk : r.node? k with
    | none =>
      have hname : r.nameOf k = none := by rw [nameOf, nameIn, ← node?, hk, Option.map_none]
      rw [List.filter_cons_of_pos (by simp [hname]), List.filterMap_cons_none hk,
        List.filterMap_cons_none hk, ih]
    | some n =>
      have hname := nameOf_of_node? hk
      rw [List.filterMap_cons_some hk]
      by_cases hn : n.name = name
      · rw [List.filter_cons_of_neg (by simp [hname, hn]), List.filter_cons_of_neg (by simp [hn]), ih]
      · rw [List.filter_cons_of_pos (by simp [hname, hn]), List.filterMap_cons_some hk,
          List.filter_cons_of_pos (by simp [hn]), ih]

theorem nodup_names (r : Roster) : (r.registered.map (·.name)).Nodup := by
  have hnames : r.registered.map (·.name) = r.order.filterMap r.nameOf := by
    rw [registered, List.map_filterMap]
    rfl
  rw [hnames, List.Nodup, List.pairwise_filterMap]
  have hdistinct : r.order.Pairwise fun j k => r.nameOf j ≠ r.nameOf k :=
    List.pairwise_map.mp r.distinct
  refine hdistinct.imp ?_
  intro j k hne a ha b hb hab
  exact hne (by rw [ha, hb, hab])

/-- Nodes are equal that are registered by one name. -/
theorem eq_of_name {n m : Node} (hn : n ∈ r.registered) (hm : m ∈ r.registered)
    (h : m.name = n.name) : m = n :=
  List.inj_on_of_nodup_map r.nodup_names hm hn h

theorem withLabel_remove {n : Node} (hown : ∀ m ∈ r.registered, m.name = n.name → m = n)
    {label : String} (hne : label ≠ n.labelString) :
    (r.remove n.name).withLabel label = r.withLabel label := by
  rw [withLabel, withLabel, registered_remove, List.filter_filter]
  refine List.filter_congr ?_
  intro m hm
  by_cases hlabel : m.labelString = label
  · -- The node with the name has another label.
    have hname : m.name ≠ n.name := by
      intro h
      rw [hown m hm h] at hlabel
      exact hne hlabel.symm
    simp [hlabel, hname]
  · simp [hlabel]

/-- No more than one spare node is lost with a name. -/
theorem spareCount_remove (r : Roster) (name label : String) :
    r.spareCount label ≤ (r.remove name).spareCount label + 1 := by
  have hnames : (r.registered.filter (fun m => !decide (m.name ≠ name))).length ≤ 1 := by
    have hcount : r.registered.countP (fun m => !decide (m.name ≠ name)) =
        (r.registered.map (·.name)).count name := by
      rw [List.count, List.countP_map]
      refine List.countP_congr fun m _ => ?_
      simp
    rw [← List.countP_eq_length_filter, hcount]
    exact List.nodup_iff_count_le_one.mp r.nodup_names name
  rw [spareCount, spareCount, withLabel, withLabel, registered_remove, List.countP_filter,
    List.countP_filter, List.countP_eq_countP_filter_add r.registered _ (·.name ≠ name)]
  exact Nat.add_le_add_left (List.countP_le_length.trans hnames) _

/-- The roster has lost some of its names. -/
structure Thinned (r s : Roster) : Prop where
  nodes : s.nodes = r.nodes
  order : s.order.Sublist r.order

theorem Thinned.registered (h : r.Thinned s) : s.registered.Sublist r.registered := by
  rw [Roster.registered, Roster.registered, node?_of_nodes h.nodes]
  exact h.order.filterMap _

theorem Thinned.spareCount_le (h : r.Thinned s) (label : String) :
    s.spareCount label ≤ r.spareCount label :=
  (h.registered.filter _).countP_le

end Roster

/-! ### One check -/

/-- What a check of a node may do to the roster, for what the check comes to. -/
structure Spared (c : Controller σ) (n : Node) (r : Roster)
    (result : Except Failure Retention × Fleet σ) : Prop where
  gone : result.1 = .ok .terminate → result.2.roster = r.remove n.name
  enough : result.1 = .ok .terminate →
    ∃ t, c.catalog.forNode? n = some t ∧ t.primed ≤ result.2.roster.spareCount n.labelString
  same : result.1 ≠ .ok .terminate → result.2.roster = r
  others : ∀ label, label ≠ n.labelString → result.2.roster.withLabel label = r.withLabel label

variable {c : Controller σ} {f g : Fleet σ} {n : Node}

theorem Spared.of_same {r : Roster} {result : Except Failure Retention × Fleet σ}
    (hkept : result.1 ≠ .ok .terminate) (hsame : result.2.roster = r) : Spared c n r result where
  gone h := absurd h hkept
  enough h := absurd h hkept
  same _ := hsame
  others _ _ := by rw [hsame]

theorem spared_check (hown : ∀ m ∈ f.roster.registered, m.name = n.name → m = n)
    (moment : Option Moment) : Spared c n f.roster (c.check n moment f) := by
  have hchecked := c.checked n moment f
  generalize c.check n moment f = result at hchecked ⊢
  cases hchecked with
  | terminated hlets =>
    refine ⟨fun _ => rfl, fun _ => ⟨_, hlets.judges, ?_⟩, fun h => absurd rfl h, ?_⟩
    · -- One more node was spare than is to be kept, and only one is lost.
      have hspare := hlets.spare
      have hloss := f.roster.spareCount_remove n.name n.labelString
      exact Nat.lt_succ_iff.mp (hspare.trans_le hloss)
    · intro label hne
      exact Roster.withLabel_remove hown hne
  | kept => exact .of_same (by simp) rfl
  | refused => exact .of_same (by simp) rfl
  | failed => exact .of_same (by simp) rfl

theorem Spared.thinned {r s : Roster} {result : Except Failure Retention × Fleet σ}
    (h : Spared c n s result) (hrs : r.Thinned s) : r.Thinned result.2.roster := by
  by_cases hterm : result.1 = .ok .terminate
  · rw [h.gone hterm]
    exact ⟨hrs.nodes, List.filter_sublist.trans hrs.order⟩
  · rw [h.same hterm]
    exact hrs

/-- As many nodes stay spare as every template wants that judges a node with the label. -/
theorem Spared.le_spareCount {r : Roster} {result : Except Failure Retention × Fleet σ}
    (h : Spared c n r result) {label : String} {enough : Nat}
    (hn : n.labelString = label → ∀ t, c.catalog.forNode? n = some t → enough ≤ t.primed) :
    min (r.spareCount label) enough ≤ result.2.roster.spareCount label := by
  by_cases hlabel : n.labelString = label
  · by_cases hterm : result.1 = .ok .terminate
    · obtain ⟨t, ht, hle⟩ := h.enough hterm
      rw [hlabel] at hle
      exact (Nat.min_le_right _ _).trans ((hn hlabel t ht).trans hle)
    · rw [h.same hterm]
      exact Nat.min_le_left _ _
  · rw [Roster.spareCount, Roster.spareCount, h.others label (Ne.symm hlabel)]
    exact Nat.min_le_left _ _

/-! ### Any number of checks -/

/-- Nothing happens to the nodes but that one is checked which was registered at first. -/
def Event.ChecksOnly (r : Roster) : Event σ → Prop
  | .check n _ => n ∈ r.registered
  | .elsewhere _ _ nodes => nodes = id
  | _ => False

theorem Roster.Thinned.eq_of_name {r s : Roster} (h : r.Thinned s) (hn : n ∈ r.registered) :
    ∀ m ∈ s.registered, m.name = n.name → m = n := by
  intro m hm hname
  exact Roster.eq_of_name hn (h.registered.subset hm) hname

theorem kept_run {events : List (Event σ)} (he : ∀ e ∈ events, e.ChecksOnly f.roster)
    (hg : f.roster.Thinned g.roster) :
    f.roster.Thinned (c.run events g).roster ∧
      ∀ label enough,
        (∀ n ∈ f.roster.withLabel label, ∀ t, c.catalog.forNode? n = some t → enough ≤ t.primed) →
        min (g.roster.spareCount label) enough ≤ (c.run events g).roster.spareCount label := by
  -- The run is followed from a fleet on that has lost some names: the nodes that are checked are
  -- those of the first fleet, whether they are still registered or not.
  induction events generalizing g with
  | nil => exact ⟨hg, fun label enough _ => Nat.min_le_left _ _⟩
  | cons e rest ih =>
    have hrest : ∀ e' ∈ rest, e'.ChecksOnly f.roster := fun e' he' =>
      he e' (List.mem_cons_of_mem e he')
    have hfirst := he e List.mem_cons_self
    rw [Controller.run_cons]
    cases e with
    | check n moment =>
      have hspared := spared_check (c := c) (hg.eq_of_name hfirst) moment
      obtain ⟨hthin, hkept⟩ := ih hrest (hspared.thinned hg)
      refine ⟨hthin, fun label enough hjudged => ?_⟩
      have hone : min (g.roster.spareCount label) enough ≤
          (c.check n moment g).2.roster.spareCount label := by
        refine hspared.le_spareCount fun hlabel => hjudged n ?_
        exact List.mem_filter.mpr ⟨hfirst, decide_eq_true hlabel⟩
      exact (le_min hone (Nat.min_le_right _ _)).trans (hkept label enough hjudged)
    | elsewhere world now nodes =>
      obtain rfl : nodes = id := hfirst
      exact ih hrest hg
    | _ => exact hfirst.elim

/-- **Checks eat no capacity that is to be kept ready.**  After any checks of registered nodes in any
order, again and again, and however the provider answers: a further check that terminates a node
leaves as many spare nodes as the template wants that judged it, any other check leaves the roster as
it is, and none touches the nodes with other labels; so the spare nodes for a label are never fewer
than at first or than all templates want that judge its nodes. -/
theorem spared_run {events : List (Event σ)} (he : ∀ e ∈ events, e.ChecksOnly f.roster) :
    (∀ n ∈ f.roster.registered, ∀ moment,
      Spared c n (c.run events f).roster (c.check n moment (c.run events f))) ∧
    ∀ label enough,
      (∀ n ∈ f.roster.withLabel label, ∀ t, c.catalog.forNode? n = some t → enough ≤ t.primed) →
      min (f.roster.spareCount label) enough ≤ (c.run events f).roster.spareCount label := by
  obtain ⟨hthin, hkept⟩ := kept_run (c := c) he ⟨rfl, .refl _⟩
  exact ⟨fun n hn moment => spared_check (hthin.eq_of_name hn) moment, hkept⟩

/-- A cloud that does not end the instance `i-1`, and a template of which one node is to be kept
ready. -/
def stubborn : Controller AmpleCloud :=
  { Controller.ample [{ Template.primedPlain "a" "ami-1" "linux" 1 with idleMinutes := 1 }] 9 with
    provider :=
      { Provider.ample with
        terminate := fun id w =>
          (if id = "i-1" then .error (.provider "RequestLimitExceeded") else .ok (), w) } }

def idleNode (id : String) : Node :=
  (Node.ofTemplate (.plain "a" "ami-1" "linux" 9) id id (.text "ami-1") none).markOnline ⟨0⟩

/-- Three nodes of the template that have been idle for two minutes. -/
def threeIdle : Fleet AmpleCloud :=
  { Fleet.fresh ⟨["ami-1", "ami-1", "ami-1"], [], 3⟩ ⟨120000000⟩ with
    roster := ["i-0", "i-1", "i-2"].foldl (fun r id => (r.make (idleNode id)).register r.next)
      .empty }

/-- The first is checked twice, and the instance of the second is not ended. -/
def fourChecks : List (Event AmpleCloud) :=
  [.check (idleNode "i-0") none, .check (idleNode "i-1") none, .check (idleNode "i-0") none,
    .check (idleNode "i-2") none]

theorem spared_run_fourChecks :
    (∀ e ∈ fourChecks, e.ChecksOnly threeIdle.roster) ∧
      Spared stubborn (idleNode "i-1") (stubborn.run fourChecks threeIdle).roster
        (stubborn.check (idleNode "i-1") none (stubborn.run fourChecks threeIdle)) ∧
      (stubborn.run fourChecks threeIdle).roster.order = [1] ∧
      1 ≤ (stubborn.run fourChecks threeIdle).roster.spareCount "linux" := by
  have hnodes : threeIdle.roster.registered = [idleNode "i-0", idleNode "i-1", idleNode "i-2"] := rfl
  have hchecks : ∀ e ∈ fourChecks, e.ChecksOnly threeIdle.roster := by
    simp [fourChecks, Event.ChecksOnly, hnodes]
  obtain ⟨hspared, hkept⟩ := spared_run (c := stubborn) hchecks
  refine ⟨hchecks, hspared _ (by simp [hnodes]) none, by decide +kernel, ?_⟩
  have hthree : threeIdle.roster.spareCount "linux" = 3 := by decide +kernel
  have hjudged : ∀ n ∈ threeIdle.roster.withLabel "linux",
      (stubborn.catalog.forNode? n).all (1 ≤ ·.primed) := by decide +kernel
  have hone := hkept "linux" 1 fun n hn t ht => by simpa [ht] using hjudged n hn
  rwa [hthree] at hone

end BuildFleet
