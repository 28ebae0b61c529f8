/-
Resilience.

A sweep asks the provider again and again, and every answer may be a failure.  Whatever fails, the
sweep decides for each of its labels and checks each of the nodes, and it ends with the plans that
it made on the way:

* **`Passes`** — a step is made for one thing after the other, and none of them fails;
* **`Sweeping`** — what a sweep is made of;
* **`sweep_passes`** — a sweep is made of it, however the provider and the pool answer.
-/
import BuildFleet.Proofs.Sparing
import BuildFleet.Proofs.Sweeps

namespace BuildFleet

open Fleet (Step)

variable {σ : Type} {c : Controller σ} {f g : Fleet σ}

/-! ### One step after the other -/

section Passes

variable {ι α : Type}

/-- A step is made for one thing after the other, and comes to a value each time. -/
inductive Passes (step : ι → Step σ α) : List (ι × α) → Fleet σ → Fleet σ → Prop
  | nil (f : Fleet σ) : Passes step [] f f
  | cons {i : ι} {a : α} {done : List (ι × α)} {f g h : Fleet σ} (first : step i f = (.ok a, g))
      (rest : Passes step done g h) : Passes step ((i, a) :: done) f h

theorem exists_passes (step : ι → Step σ α) (hstep : ∀ i f, ∃ a g, step i f = (.ok a, g))
    (things : List ι) (f : Fleet σ) : ∃ done g, Passes step done f g ∧ done.map (·.1) = things := by
  induction things generalizing f with
  | nil => exact ⟨[], f, .nil f, rfl⟩
  | cons i rest ih =>
    obtain ⟨a, g, hfirst⟩ := hstep i f
    obtain ⟨done, h, hrest, hdone⟩ := ih g
    exact ⟨(i, a) :: done, h, .cons hfirst hrest, by rw [List.map_cons, hdone]⟩

theorem Passes.roster {step : ι → Step σ α} (hstep : ∀ i f, (step i f).2.roster = f.roster)
    {done : List (ι × α)} (h : Passes step done f g) : g.roster = f.roster := by
  induction h with
  | nil => rfl
  | @cons i a done f g h first rest ih =>
    have hone := hstep i f
    rw [first] at hone
    exact ih.trans hone

end Passes

/-! ### Decisions and checks -/

theorem decide_ok (hlazy : c.isEager = false)
    (hcount : ∀ image, FailsAsProvider (c.provider.count image))
    (hstate : ∀ id, FailsAsProvider (c.provider.requestState id)) (label : String) (excess : Int)
    (f : Fleet σ) :
    ∃ plan g, c.decide label excess f = (.ok plan, g) ∧ g.roster = f.roster := by
  obtain ⟨plan, g, hdecide, hplan⟩ := decide_plans hlazy hcount hstate label excess f
  refine ⟨plan, g, hdecide, ?_⟩
  cases hserved : c.catalog.forLabel? (some label) with
  | none =>
    rw [hserved] at hplan
    exact hplan.2.roster
  | some t =>
    rw [hserved] at hplan
    exact hplan.1.roster

/-- The plans that are not empty are the result. -/
theorem topUp_of_passes {decided : List (String × List PlannedUnit)}
    (h : Passes (fun label => c.decide label 0) decided f g) :
    c.topUp (decided.map (·.1)) f = (.ok (decided.filter fun d => !d.2.isEmpty), g) := by
  induction h with
  | nil => rfl
  | @cons label plan decided f g h first rest ih =>
    rw [List.map_cons, Controller.topUp, Action.bind_of_ok first, Action.bind_of_ok ih]
    cases plan <;> rfl

theorem checkAll_of_passes {checked : List (Node × Retention)}
    (h : Passes (fun n => c.check n none) checked f g) :
    ∃ count, c.checkAll (checked.map (·.1)) f = (.ok count, g) := by
  induction h with
  | nil => exact ⟨0, rfl⟩
  | @cons n decision checked f g h first rest ih =>
    obtain ⟨count, hrest⟩ := ih
    rw [List.map_cons, Controller.checkAll, Action.bind_of_ok first, Action.bind_of_ok hrest]
    exact ⟨_, rfl⟩

/-- A node that is no longer registered after the checks was terminated by its own check, and the
provider ended its instance. -/
theorem exists_terminated {checked : List (Node × Retention)}
    (h : Passes (fun n => c.check n none) checked f g) {r : Roster} (hr : r.Thinned f.roster)
    (hnodes : ∀ d ∈ checked, d.1 ∈ r.registered) {k : Nat} (hk : k ∈ f.roster.order)
    (hgone : k ∉ g.roster.order) :
    ∃ n before after f₁, r.node? k = some n ∧ checked = before ++ (n, .terminate) :: after ∧
      Passes (fun n => c.check n none) before f f₁ ∧
      (c.provider.terminate n.instanceId f₁.cloud).1 = .ok () := by
  induction h with
  | nil => exact absurd hk hgone
  | @cons n decision checked f g h first rest ih =>
    have hrest : ∀ d ∈ checked, d.1 ∈ r.registered := fun d hd =>
      hnodes d (List.mem_cons_of_mem _ hd)
    have hone : n ∈ r.registered := hnodes _ List.mem_cons_self
    have hspared : Spared c n f.roster (.ok decision, g) := by
      have := spared_check (c := c) (hr.eq_of_name hone) none
      rwa [show c.check n none f = _ from first] at this
    by_cases hkg : k ∈ g.roster.order
    · obtain ⟨m, before, after, f₁, hm, hsplit, hbefore, hterm⟩ :=
        ih (hspared.thinned hr) hrest hkg hgone
      exact ⟨m, (n, decision) :: before, after, f₁, hm, by rw [hsplit, List.cons_append],
        .cons first hbefore, hterm⟩
    · -- The number is gone with the name of the node that is checked, and no other node has it.
      have hchecked := c.checked n none f
      rw [show c.check n none f = _ from first] at hchecked
      cases hchecked with
      | kept => exact absurd hk hkg
      | refused => exact absurd hk hkg
      | terminated hlets hterm =>
        have hname : f.roster.nameOf k = some n.name := by
          by_contra hne
          exact hkg (List.mem_filter.mpr ⟨hk, by simpa using hne⟩)
        obtain ⟨j, hj, hjn⟩ := List.mem_filterMap.mp hone
        have hsame : r.nameOf j = r.nameOf k := by
          rw [Roster.nameOf, hr.nodes] at hname
          exact (Roster.nameOf_of_node? hjn).trans hname.symm
        obtain rfl := r.eq_of_nameOf hj (hr.order.subset hk) hsame
        exact ⟨n, [], checked, f, hjn, rfl, .nil f, congrArg Prod.fst hterm⟩

/-! ### Labels -/

theorem Template.serves_own {t : Template}
    (h : t.labelString = Text.unwords (Text.words t.labelString)) :
    t.serves (some t.labelString) = true := by
  have htrim : Text.trim t.labelString = t.labelString := by
    rw [h]
    exact Text.trim_unwords_words t.labelString
  simp [serves, htrim]

theorem mem_swept {r : Roster} {label : String} :
    label ∈ c.swept r ↔ (∃ t ∈ c.catalog.templates, t.serves (some label) = true) ∧
      ((label ≠ "" ∧ ∃ t ∈ c.catalog.templates, t.labelString = label) ∨
        ∃ n ∈ r.registered, n.labelString = label) := by
  have hserved : c.canProvision (some label) = true ↔
      ∃ t ∈ c.catalog.templates, t.serves (some label) = true := by
    rw [Controller.canProvision, Catalog.forLabel?, List.find?_isSome]
  rw [Controller.swept, List.mem_filter, hserved, Controller.sweepLabels, Text.mem_sortedSet,
    List.mem_append, Catalog.labels, Roster.labels, Text.mem_sortedSet, Text.mem_sortedSet,
    List.mem_filter, List.mem_map, List.mem_map, decide_eq_true_eq, and_comm,
    and_comm (b := label ≠ "")]

/-! ### The sweep -/

/-- What a sweep is made of: one decision for each label and then, if it checks nodes, one check of
each node that is registered at that time. -/
structure Sweeping (c : Controller σ) (retains : Bool) (f : Fleet σ)
    (decided : List (String × List PlannedUnit)) (g : Fleet σ) (checked : List (Node × Retention))
    (h : Fleet σ) : Prop where
  decisions : ∃ log, Passes (fun label => c.decide label 0) decided { f with log } g
  /-- The labels are in order, and each is there once. -/
  sorted : (decided.map (·.1)).Pairwise (· < ·)
  /-- They are label strings of templates or of registered nodes, and some template serves them. -/
  labels : ∀ label, label ∈ decided.map (·.1) ↔
    (∃ t ∈ c.catalog.templates, t.serves (some label) = true) ∧
      ((label ≠ "" ∧ ∃ t ∈ c.catalog.templates, t.labelString = label) ∨
        ∃ n ∈ f.roster.registered, n.labelString = label)
  /-- Every template serves its own label string, if that is made of single words. -/
  own : ∀ t ∈ c.catalog.templates, t.labelString ≠ "" →
    t.labelString = Text.unwords (Text.words t.labelString) → t.labelString ∈ decided.map (·.1)
  roster : g.roster = f.roster
  checks : Passes (fun n => c.check n none) checked g h
  nodes : checked.map (·.1) = if retains then g.roster.registered else []
  /-- Only those nodes are gone whose own instances the provider ended. -/
  gone : ∀ k ∈ f.roster.order, k ∉ h.roster.order → ∃ n before after g₁,
    f.roster.node? k = some n ∧ checked = before ++ (n, .terminate) :: after ∧
      Passes (fun n => c.check n none) before g g₁ ∧
      (c.provider.terminate n.instanceId g₁.cloud).1 = .ok ()

theorem retire_of_passes {checked : List (Node × Retention)}
    (h : Passes (fun n => c.check n none) checked f g)
    (hnodes : checked.map (·.1) = f.roster.registered) :
    ∃ log, c.retire f = (.ok (), { g with log }) := by
  obtain ⟨count, hall⟩ := checkAll_of_passes h
  rw [hnodes] at hall
  simp only [Controller.retire, Action.bind_apply, Action.reads_apply, hall]
  by_cases hcount : count = 0
  · exact ⟨g.log, by simp [hcount]⟩
  · exact ⟨_, by simp [hcount, Fleet.note]; rfl⟩

section Sweep

variable (hlazy : c.isEager = false)
  (hcount : ∀ image, FailsAsProvider (c.provider.count image))
  (hstate : ∀ id, FailsAsProvider (c.provider.requestState id))
  (hterm : ∀ id, FailsAsProvider (c.provider.terminate id)) (retains : Bool)

include hlazy hcount hstate in
/-- The first part of a sweep: all labels are decided for, and what is left are the checks. -/
theorem exists_decided (f : Fleet σ) :
    ∃ decided g, (∃ log, Passes (fun label => c.decide label 0) decided { f with log } g) ∧
      decided.map (·.1) = c.swept f.roster ∧ g.roster = f.roster ∧
      c.sweep retains f = ((if retains then c.retire else pure ()) >>= fun _ =>
        pure (decided.filter fun d => !d.2.isEmpty)) g := by
  have hdecide : ∀ label f, ∃ plan g, c.decide label 0 f = (.ok plan, g) ∧ g.roster = f.roster :=
    fun label f => decide_ok hlazy hcount hstate label 0 f
  obtain ⟨log, hnote⟩ : ∃ log, Fleet.note .debug
      s!"Sweeping {(c.sweepLabels f.roster).length} labels" f = (.ok (), { f with log }) := ⟨_, rfl⟩
  obtain ⟨decided, g, hdecided, hlabels⟩ :=
    exists_passes (fun label => c.decide label 0)
      (fun label f => by
        obtain ⟨plan, g, hone, -⟩ := hdecide label f
        exact ⟨plan, g, hone⟩)
      (c.swept f.roster) { f with log }
  have hroster : g.roster = { f with log }.roster := by
    refine Passes.roster (fun label f => ?_) hdecided
    obtain ⟨plan, g, hone, hsame⟩ := hdecide label f
    rw [hone]
    exact hsame
  have htop := topUp_of_passes hdecided
  rw [hlabels, Controller.swept] at htop
  refine ⟨decided, g, ⟨log, hdecided⟩, hlabels, hroster, ?_⟩
  simp only [Controller.sweep, Action.bind_apply, Action.reads_apply, hnote, htop]
  cases retains <;> rfl

include hterm in
/-- The second part of a sweep: all registered nodes are checked, if any. -/
theorem exists_checked (g : Fleet σ) :
    ∃ checked h log, Passes (fun n => c.check n none) checked g h ∧
      checked.map (·.1) = (if retains then g.roster.registered else []) ∧
      (if retains then c.retire else pure ()) g = (.ok (), { h with log }) := by
  cases retains with
  | true =>
    obtain ⟨checked, h, hchecked, hnodes⟩ :=
      exists_passes (fun n => c.check n none) (fun n f => check_ok hterm n none f)
        g.roster.registered g
    obtain ⟨log, hretire⟩ := retire_of_passes hchecked hnodes
    exact ⟨checked, h, log, hchecked, hnodes, hretire⟩
  | false => exact ⟨[], g, g.log, .nil g, rfl, rfl⟩

include hlazy hcount hstate hterm in
/-- **Trouble does not spoil a sweep.**  However often the provider fails to count, to describe a spot
request or to end an instance, and whenever the pool refuses a launch: a sweep decides for all its
labels and checks all nodes, and it ends with the plans that are not empty. -/
theorem sweep_passes (f : Fleet σ) :
    ∃ decided g checked h log, Sweeping c retains f decided g checked h ∧
      c.sweep retains f = (.ok (decided.filter fun d => !d.2.isEmpty), { h with log }) := by
  obtain ⟨decided, g, hdecided, hlabels, hroster, hsweep⟩ :=
    exists_decided hlazy hcount hstate retains f
  obtain ⟨checked, h, log, hchecked, hnodes, hretire⟩ := exists_checked hterm retains g
  refine ⟨decided, g, checked, h, log, ⟨hdecided, ?_, ?_, ?_, hroster, hchecked, hnodes, ?_⟩, ?_⟩
  · rw [hlabels]
    exact (Text.pairwise_sortedSet _).filter _
  · intro label
    rw [hlabels]
    exact mem_swept
  · intro t ht hne hwords
    rw [hlabels, mem_swept]
    exact ⟨⟨t, ht, Template.serves_own hwords⟩, .inl ⟨hne, t, ht, rfl⟩⟩
  · intro k hk hgone
    refine exists_terminated hchecked ⟨by rw [hroster], by rw [hroster]⟩ ?_ (hroster ▸ hk) hgone
    intro d hd
    have hmem : d.1 ∈ checked.map (·.1) := List.mem_map_of_mem hd
    rw [hnodes, hroster] at hmem
    cases retains with
    | true => exact hmem
    | false => cases hmem
  · rw [hsweep, Action.bind_of_ok hretire]
    rfl

end Sweep

/-- A provider that counts no instances of `ami-2`, knows nothing about spot requests and does not
end the instance `i-1`, and a pool that takes one launch. -/
def flaky : Controller AmpleCloud :=
  { Controller.ample
      [.primedPlain "a" "ami-1" "linux" 1, .primedPlain "b" "ami-2" "gpu" 1,
        .primedPlain "c" "ami-3" "arm" 1, .primedPlain "w" "ami-1" "win" 1,
        { Template.plain "m" "ami-1" "mac" 9 with idleMinutes := 1 }] 9 with
    provider :=
      { Provider.ample with
        count := fun which w =>
          (if which = some "ami-2" then .error (.provider "RequestLimitExceeded") else .ok 0, w)
        requestState := fun _ w => (.error (.provider "Unavailable"), w)
        terminate := fun id w =>
          (if id = "i-1" then .error (.provider "RequestLimitExceeded") else .ok (), w) }
    refuses := fun w => (if w.ids = 0 then none else some Controller.closedText, { w with ids := 1 }) }

/-- Two nodes that are idle for too long, and one that waits for its instance. -/
def flakyFleet : Fleet AmpleCloud :=
  let mac (id : String) : Node :=
    (Node.ofTemplate (.plain "m" "ami-1" "mac" 9) id id (.text "ami-1") none).markOnline ⟨0⟩
  { Fleet.fresh ⟨[], [], 0⟩ ⟨120000000⟩ with
    roster := .ofNodes
      [mac "i-1", mac "i-2",
        .ofTemplate (.plain "w" "ami-1" "win" 9) "sir-1" "" (.text "ami-1") (some "sir-1")] }

/-- Of five decisions two find the provider in trouble, one finds the pool closed, and the first
still has its plan; of three checks one finds the provider in trouble, and the next one terminates
its node. -/
theorem sweep_passes_flaky :
    ∃ decided g checked h log,
      Sweeping flaky true flakyFleet decided g checked h ∧
      flaky.sweep true flakyFleet = (.ok [("arm", [⟨"c", 1, 0⟩])], { h with log }) ∧
      (∀ t ∈ flaky.catalog.templates, t.labelString ∈ decided.map (·.1)) ∧
      checked.map (·.1.name) = ["m (i-1)", "m (i-2)", "w (sir-1)"] ∧
      h.roster.order = [0, 2] := by
  have hcount : ∀ which, FailsAsProvider (flaky.provider.count which) := by
    intro which w e he
    by_cases hwhich : which = some "ami-2"
    · simp only [flaky, hwhich, if_true] at he
      exact ⟨_, (Except.error.inj he).symm⟩
    · simp [flaky, hwhich] at he
  have hstate : ∀ id, FailsAsProvider (flaky.provider.requestState id) := by
    intro id w e he
    exact ⟨_, (Except.error.inj he).symm⟩
  have hterm : ∀ id, FailsAsProvider (flaky.provider.terminate id) := by
    intro id w e he
    by_cases hid : id = "i-1"
    · simp only [flaky, hid, if_true] at he
      exact ⟨_, (Except.error.inj he).symm⟩
    · simp [flaky, hid] at he
  obtain ⟨decided, g, checked, h, log, hsweeping, hsweep⟩ :=
    sweep_passes (c := flaky) rfl hcount hstate hterm true flakyFleet
  have hplans : (flaky.sweep true flakyFleet).1 = .ok [("arm", [⟨"c", 1, 0⟩])] := by
    decide +kernel
  have horder : (flaky.sweep true flakyFleet).2.roster.order = [0, 2] := by decide +kernel
  have hnames : flakyFleet.roster.registered.map (·.name) = ["m (i-1)", "m (i-2)", "w (sir-1)"] := by
    decide +kernel
  have hwords : ∀ t ∈ flaky.catalog.templates,
      t.labelString ≠ "" ∧ t.labelString = Text.unwords (Text.words t.labelString) := by
    decide +kernel
  rw [hsweep] at hplans horder
  refine ⟨decided, g, checked, h, log, hsweeping, ?_, ?_, ?_, horder⟩
  · rw [hsweep, Except.ok.inj hplans]
  · intro t ht
    exact hsweeping.own t ht (hwords t ht).1 (hwords t ht).2
  · have hnodes := hsweeping.nodes
    rw [if_pos rfl, hsweeping.roster] at hnodes
    rw [← hnames, ← hnodes, List.map_map]
    rfl

end BuildFleet
