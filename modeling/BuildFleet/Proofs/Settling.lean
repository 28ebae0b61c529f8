/-
Sweeps that settle.

Where no two templates have a label in common, provisioning and retention agree on every node: the
template that serves a label is the one whose nodes are counted under it, and the one that judges
them.  If sweeps are made only when every launch has come up, and if the nodes stay idle, then there
are never more nodes of a template than are to be kept ready.

* **`Catalog.Separate`** — no two templates have a name or a label in common;
* **`Controller.Unhurried`** — a course of sweeps, launches that get their turn, and time;
* **`Held`** — the invariant: every node is idle, comes from a launch that has come up, and is
  counted under the label string of its template;
* **`primed_run`** — such a course never goes beyond the targets, no sweep terminates a node, and a
  target that is reached stays reached without further launches.
-/
import BuildFleet.Proofs.Growth

namespace BuildFleet

open Controller (needFor unitsFor)

variable {σ : Type} {c : Controller σ} {given : σ → Set String}

/-! ### Templates that are kept apart -/

/-- No two templates have a name or a label in common, and every one has a label string. -/
structure Catalog.Separate (c : Catalog) : Prop where
  names : ∀ s ∈ c.templates, ∀ t ∈ c.templates, s.name = t.name → s = t
  labels : ∀ s ∈ c.templates, ∀ t ∈ c.templates, ∀ w ∈ s.labels, w ∈ t.labels → s = t
  labelled : ∀ t ∈ c.templates, t.labelString ≠ ""

namespace Catalog.Separate

variable {c : Catalog} {s t : Template}

/-- A template that serves the label string of another one has a label in common with it. -/
theorem eq_of_forLabel? (h : c.Separate) (ht : t ∈ c.templates)
    (hs : c.forLabel? (some t.labelString) = some s) : s = t := by
  have hmem : s ∈ c.templates := List.mem_of_find?_eq_some hs
  have hsame : Text.trim t.labelString = s.labelString ∨
      Text.trim t.labelString ∈ s.labels := by
    have hserves := List.find?_some hs
    simpa [Template.serves] using hserves
  cases hwords : t.labels with
  | nil =>
    -- Without a word the label string is blank, and neither a label string nor a word is empty.
    have hblank : Text.trim t.labelString = "" := Text.trim_of_words_eq_nil hwords
    rw [hblank] at hsame
    obtain hempty | hempty := hsame
    · exact absurd hempty.symm (h.labelled s hmem)
    · exact absurd rfl (Text.ne_nil_of_mem_words hempty)
  | cons w rest =>
    have hw : w ∈ t.labels := hwords ▸ List.mem_cons_self
    obtain hwhole | hword := hsame
    · have hlabels : s.labels = t.labels := by
        rw [Template.labels, ← hwhole, Text.words_trim, Template.labels]
      exact h.labels s hmem t ht w (hlabels ▸ hw) hw
    · have hone : t.labels = [Text.trim t.labelString] := by
        rw [Template.labels, ← Text.words_trim]
        exact Text.words_of_mem hword
      refine h.labels s hmem t ht _ hword ?_
      rw [hone]
      exact List.mem_singleton_self _

/-- A node is judged by the template that it is named for. -/
theorem forNode?_eq (h : c.Separate) (ht : t ∈ c.templates) {n : Node}
    (hn : n.template = t.name) : c.forNode? n = some t := by
  have hfound : (c.named? n.template).isSome := by
    rw [Catalog.named?, List.find?_isSome]
    exact ⟨t, ht, by simp [hn]⟩
  obtain ⟨s, hs⟩ := Option.isSome_iff_exists.mp hfound
  have hname : s.name = t.name := by
    rw [← hn]
    simpa using List.find?_some hs
  have hst : s = t := h.names s (List.mem_of_find?_eq_some hs) t ht hname
  rw [Catalog.forNode?, hs, hst]
  rfl

end Catalog.Separate

/-! ### The invariant -/

/-- Every registered node is connected and idle, comes from a launch that has come up, and is
counted under the label string of the launch's template; and there are no more launches of a
template than nodes are to be kept ready. -/
structure Held (c : Controller σ) (given : σ → Set String) (f : Fleet σ) : Prop where
  known : Known given f
  served : ∀ t ∈ f.pool.launches.map (·.template),
    c.catalog.forLabel? (some t.labelString) = some t
  nodes : ∀ n ∈ f.roster.registered, n.isSpare ∧
    ∃ t ∈ f.pool.launches.map (·.template), n.template = t.name ∧ n.labelString = t.labelString
  cameUp : ∀ label, (f.roster.withLabel label).length = f.pool.cameUp label
  primed : ∀ t, f.pool.launches.countP (·.template = t) ≤ t.primed

namespace Held

variable {f g : Fleet σ}

theorem start (horder : f.roster.order = []) (hlaunches : f.pool.launches = []) :
    Held c given f where
  known k hk := by simp [horder] at hk
  served t ht := by simp [hlaunches] at ht
  nodes n hn := by simp [Roster.registered, horder] at hn
  cameUp label := by
    simp [Roster.withLabel, Roster.registered, horder, Pool.cameUp, hlaunches]
  primed t := by simp [hlaunches]

theorem grown (h : Held c given f) {added : List Nat} (hg : Grown given f g added) :
    Held c given g where
  known := hg.known
  served := by rw [hg.templates]; exact h.served
  nodes n hn := by
    rw [hg.registered] at hn
    rcases List.mem_append.mp hn with hn | hn
    · rw [hg.templates]
      exact h.nodes n hn
    · obtain ⟨k, hk, hkn⟩ := List.mem_filterMap.mp hn
      obtain ⟨m, hm, hspare, hjoined⟩ := hg.joined k hk
      obtain rfl : m = n := Option.some.inj (hm.symm.trans hkn)
      exact ⟨hspare, hjoined⟩
  cameUp label := by
    rw [(hg.withLabel label).1, List.length_append, h.cameUp, hg.cameUp,
      List.countP_eq_length_filter]
  primed t := by
    have hcount : ∀ p : Pool, p.launches.countP (·.template = t) =
        (p.launches.map (·.template)).countP (· = t) := fun p => by
      rw [List.countP_map]
      rfl
    rw [hcount, hg.templates, ← hcount]
    exact h.primed t

theorem spareCount (h : Held c given f) (label : String) :
    f.roster.spareCount label = (f.roster.withLabel label).length := by
  rw [Roster.spareCount, List.countP_eq_length]
  intro n hn
  exact (h.nodes n (List.mem_filter.mp hn).1).1

theorem template_eq (h : Held c given f) (hsep : c.catalog.Separate) {t : Template}
    (ht : t ∈ c.catalog.templates) {l : Launch} (hl : l ∈ f.pool.launches)
    (hlabel : l.template.labelString = t.labelString) : l.template = t := by
  have hserved := h.served _ (List.mem_map_of_mem hl)
  rw [hlabel] at hserved
  exact hsep.eq_of_forLabel? ht hserved

theorem length_withLabel_le (h : Held c given f) (hsep : c.catalog.Separate) {t : Template}
    (ht : t ∈ c.catalog.templates) :
    (f.roster.withLabel t.labelString).length ≤ f.pool.launches.countP (·.template = t) := by
  rw [h.cameUp, Pool.cameUp]
  refine List.countP_mono_left fun l hl hup => ?_
  have hlabel : l.template.labelString = t.labelString := by
    simp only [Bool.and_eq_true, decide_eq_true_eq] at hup
    exact hup.1
  exact decide_eq_true (h.template_eq hsep ht hl hlabel)

/-- When all launches have come up, there is a node for every one of them. -/
theorem countP_le_of_allUp (h : Held c given f) (hup : f.pool.AllUp) (t : Template) :
    f.pool.launches.countP (·.template = t) ≤ f.roster.spareCount t.labelString := by
  rw [h.spareCount, h.cameUp, Pool.cameUp]
  refine List.countP_mono_left fun l hl hlt => ?_
  have hlt : l.template = t := of_decide_eq_true hlt
  simp [hlt, hup l hl]

theorem not_canSpare (h : Held c given f) (hsep : c.catalog.Separate) {n : Node}
    (hn : n ∈ f.roster.registered) : ¬c.canSpare f.roster n := by
  rintro ⟨s, hs, hless⟩
  obtain ⟨-, t, ht, hname, hlabel⟩ := h.nodes n hn
  have hmem : t ∈ c.catalog.templates := List.mem_of_find?_eq_some (h.served t ht)
  -- The node is judged by the template that it was launched from, and helps to hold its target.
  rw [hsep.forNode?_eq hmem hname] at hs
  obtain rfl : t = s := Option.some.inj hs
  rw [hlabel, h.spareCount] at hless
  have := h.length_withLabel_le hsep hmem
  have := h.primed t
  omega

theorem label_eq (h : Held c given f) (hsep : c.catalog.Separate) {label : String} {t : Template}
    (hl : label ∈ c.sweepLabels f.roster)
    (ht : c.catalog.forLabel? (some label) = some t) : label = t.labelString := by
  -- Whether a template or a node has brought it in, the label is the label string of a template.
  rcases List.mem_append.mp (Text.mem_sortedSet.mp hl) with hl | hl
  · obtain ⟨hl, -⟩ := List.mem_filter.mp (Text.mem_sortedSet.mp hl)
    obtain ⟨s, hs, rfl⟩ := List.mem_map.mp hl
    rw [hsep.eq_of_forLabel? hs ht]
  · obtain ⟨n, hn, rfl⟩ := List.mem_map.mp (Text.mem_sortedSet.mp hl)
    obtain ⟨-, s, hs, -, hlabel⟩ := h.nodes n hn
    rw [hlabel, h.served s hs] at ht
    rw [hlabel, Option.some.inj ht]

end Held

/-! ### One sweep -/

theorem pendingAmong_of_online {nodes : List Node} (h : ∀ n ∈ nodes, n.isOnline) (f : Fleet σ) :
    c.pendingAmong nodes f = (.ok [], f) := by
  induction nodes with
  | nil => rfl
  | cons n rest ih =>
    have hn : n.awaitedRequest? = none := by
      rw [Node.awaitedRequest?, if_pos (h n List.mem_cons_self)]
    unfold Controller.pendingAmong
    rw [hn]
    exact ih fun m hm => h m (List.mem_cons_of_mem n hm)

/-- If all nodes of a label are connected, a decision hands in no more launches than are missing at
the primed target. -/
theorem decide_of_online (hlazy : c.isEager = false)
    (hcount : ∀ which, FailsAsProvider (c.provider.count which)) {label : String} {t : Template}
    {f : Fleet σ} (honline : ∀ n ∈ f.roster.withLabel label, n.isOnline)
    (ht : c.catalog.forLabel? (some label) = some t) :
    ∃ plan g, c.decide label 0 f = (.ok plan, g) ∧
      plan.length ≤ t.primed - f.roster.spareCount label ∧ Handed t plan f g := by
  have hnone : c.pendingAmong (f.roster.withLabel label) f =
      (.ok [], { f with cloud := f.cloud }) := pendingAmong_of_online honline f
  obtain ⟨log, hd⟩ := c.decide_of_served 0 hnone ht
  obtain ⟨plan, g, hplan, hle, hhanded⟩ := launchUpTo_handed hlazy hcount label t
    (unitsFor t (needFor t label 0 [] f)) { f with log }
  obtain ⟨log', hd⟩ := hd plan g hplan
  refine ⟨plan, { g with log := log' }, hd, ?_, hhanded.congr ⟨rfl, rfl, rfl⟩ ⟨rfl, rfl, rfl⟩⟩
  rw [unitsFor_needFor_nil] at hle
  split_ifs at hle <;> omega

theorem countP_launches_le {decisions : List Decision}
    (hlabel : ∀ d ∈ decisions, d.label = d.template.labelString)
    (hdistinct : (decisions.map (·.label)).Nodup) {t : Template} {m : Nat}
    (hle : ∀ d ∈ decisions, d.template = t → d.plan.length ≤ m) :
    (decisions.flatMap (·.launches)).countP (·.template = t) ≤ m := by
  induction decisions with
  | nil => simp
  | cons d rest ih =>
    rw [List.map_cons, List.nodup_cons] at hdistinct
    have hrest := ih (fun e he => hlabel e (List.mem_cons_of_mem d he)) hdistinct.2
      fun e he => hle e (List.mem_cons_of_mem d he)
    rw [List.flatMap_cons, List.countP_append, Decision.launches, List.countP_replicate]
    by_cases hd : d.template = t
    · -- A further decision for the template would be one for the same label.
      have hnone : (rest.flatMap (·.launches)).countP (·.template = t) = 0 := by
        rw [List.countP_eq_zero]
        intro l hl hlt
        obtain ⟨e, he, rfl⟩ := exists_of_mem_launches hl
        have het : e.template = t := of_decide_eq_true hlt
        refine hdistinct.1 (List.mem_map.mpr ⟨e, he, ?_⟩)
        rw [hlabel e (List.mem_cons_of_mem d he), hlabel d List.mem_cons_self, het, hd]
      have := hle d List.mem_cons_self hd
      simp only [hd, decide_true, if_true]
      omega
    · simp only [hd, decide_false, Bool.false_eq_true, if_false]
      omega

/-- Launches that are handed in when all others have come up, and no more than are missing. -/
theorem Held.handed_in {f g : Fleet σ} (h : Held c given f) (hup : f.pool.AllUp)
    {labels : List String} {decisions : List Decision} (hd : Decided c labels decisions f g)
    (hids : given f.cloud ⊆ given g.cloud)
    (hlabel : ∀ d ∈ decisions, d.label = d.template.labelString)
    (hdistinct : (decisions.map (·.label)).Nodup)
    (hle : ∀ d ∈ decisions, d.plan.length ≤ d.template.primed - f.roster.spareCount d.label) :
    Held c given g where
  known := hd.known h.known hids
  served t ht := by
    rw [hd.launches, List.map_append] at ht
    rcases List.mem_append.mp ht with ht | ht
    · exact h.served t ht
    · obtain ⟨l, hl, rfl⟩ := List.mem_map.mp ht
      obtain ⟨d, hmem, rfl⟩ := exists_of_mem_launches hl
      rw [← hlabel d hmem]
      exact hd.served d hmem
  nodes n hn := by
    rw [hd.roster] at hn
    obtain ⟨hspare, t, ht, hjoined⟩ := h.nodes n hn
    refine ⟨hspare, t, ?_, hjoined⟩
    rw [hd.launches, List.map_append]
    exact List.mem_append_left _ ht
  cameUp label := by rw [hd.roster, hd.cameUp, h.cameUp]
  primed t := by
    have hnew := countP_launches_le hlabel hdistinct (t := t)
      (m := t.primed - f.roster.spareCount t.labelString) fun d hmem hdt => by
        have := hle d hmem
        rwa [hlabel d hmem, hdt] at this
    have hold := h.countP_le_of_allUp hup t
    have := h.primed t
    rw [hd.launches, List.countP_append]
    omega

/-- A sweep that finds all launches up plans no more than is missing, and terminates nothing. -/
theorem Held.sweep {f : Fleet σ} (h : Held c given f) (hsep : c.catalog.Separate)
    (hlazy : c.isEager = false) (hcount : ∀ which, FailsAsProvider (c.provider.count which))
    (hf : Fresh c given) (hq : c.Quiet given) (hup : f.pool.AllUp) (retains : Bool) :
    ∃ plans g, c.sweep retains f = (.ok plans, g) ∧ Held c given g ∧ g.roster = f.roster ∧
      ∀ t ∈ c.catalog.templates, t.primed ≤ (f.roster.withLabel t.labelString).length →
        ∀ plan, (t.labelString, plan) ∉ plans := by
  let left (_ : List String) (g : Fleet σ) : Prop := g.roster = f.roster
  let comes (d : Decision) : Prop :=
    d.plan.length ≤ d.template.primed - f.roster.spareCount d.label
  have hdecide : c.Decides left comes := by
    intro label rest t g ht hroster
    have honline : ∀ n ∈ g.roster.withLabel label, n.isOnline := by
      intro n hn
      rw [hroster] at hn
      exact (Bool.and_eq_true _ _ ▸ (h.nodes n (List.mem_filter.mp hn).1).1).1
    obtain ⟨plan, g', hd, hle, hhanded⟩ := decide_of_online hlazy hcount honline ht
    rw [hroster] at hle
    exact ⟨plan, g', hd, hhanded, hle, hhanded.roster.trans hroster⟩
  obtain ⟨decisions, g, hsweep, hdecided, hall, -⟩ :=
    sweep_of_decide hdecide (f := f) fun log => rfl
  have hlabel : ∀ d ∈ decisions, d.label = d.template.labelString := by
    intro d hd
    have hl : d.label ∈ c.swept f.roster := by
      rw [← hdecided.labels]
      exact List.mem_map_of_mem hd
    exact h.label_eq hsep (List.mem_filter.mp hl).1 (hdecided.served d hd)
  have hdistinct : (decisions.map (·.label)).Nodup := hdecided.labels ▸ c.nodup_swept f.roster
  -- The nodes are needed, so that the checks leave them alone.
  obtain ⟨log, hend⟩ : ∃ log, c.sweep retains f = (.ok (plansOf decisions), { g with log }) := by
    have hneeded : ∀ n ∈ g.roster.registered, ¬c.canSpare g.roster n := by
      rw [hdecided.roster]
      exact fun n hn => h.not_canSpare hsep hn
    obtain ⟨log, hretire⟩ := retire_of_needed hneeded
    cases retains with
    | true => exact ⟨log, by simp [hsweep true, hretire]⟩
    | false => exact ⟨g.log, by simp [hsweep false]⟩
  have hids := hf.sweep hq retains f
  rw [hend] at hids
  have hheld := h.handed_in hup hdecided hids hlabel hdistinct hall
  refine ⟨plansOf decisions, { g with log }, hend,
    ⟨hheld.known, hheld.served, hheld.nodes, hheld.cameUp, hheld.primed⟩, hdecided.roster, ?_⟩
  intro t ht hreached plan hplan
  obtain ⟨hne, s, hd⟩ := exists_of_mem_plansOf hplan
  have hs := hdecided.served _ hd
  obtain rfl : s = t := hsep.eq_of_forLabel? ht hs
  have hle : plan.length ≤ s.primed - f.roster.spareCount s.labelString := hall _ hd
  rw [h.spareCount] at hle
  have hpos : 0 < plan.length := List.length_pos_iff.mpr hne
  omega

/-! ### Courses of sweeps -/

/-- Sweeps are made only when every launch has come up; otherwise nothing happens but that launches
get their turn, that time passes, and that the world outside changes. -/
def Controller.Unhurried (c : Controller σ) (given : σ → Set String) :
    List (Event σ) → Fleet σ → Prop
  | [], _ => True
  | e :: events, f =>
    (e.Calm given ∨ (∃ retains, e = .sweep retains) ∧ f.pool.AllUp) ∧
      c.Unhurried given events (c.perform f e)

section Course

variable (hsep : c.catalog.Separate) (hlazy : c.isEager = false)
  (hcount : ∀ which, FailsAsProvider (c.provider.count which)) (hf : Fresh c given)
  (hq : c.Quiet given)

include hsep hlazy hcount hf hq

theorem held_run {events : List (Event σ)} {f : Fleet σ} (h : Held c given f)
    (he : c.Unhurried given events f) :
    Held c given (c.run events f) ∧ ∀ label,
      (f.roster.withLabel label).length ≤ ((c.run events f).roster.withLabel label).length := by
  -- By induction on the events: a sweep keeps all nodes, and calm events only add some.
  induction events generalizing f with
  | nil => exact ⟨h, fun _ => le_rfl⟩
  | cons e events ih =>
    obtain ⟨hfirst, hrest⟩ := he
    have hone : Held c given (c.perform f e) ∧ ∀ label,
        (f.roster.withLabel label).length ≤
          ((c.perform f e).roster.withLabel label).length := by
      obtain hcalm | ⟨⟨retains, rfl⟩, hup⟩ := hfirst
      · have hcalm' : ∀ e' ∈ [e], e'.Calm given := by simpa using hcalm
        obtain ⟨added, hgrown⟩ := grown_run hf hq hcalm' h.known
        refine ⟨h.grown hgrown, fun label => ?_⟩
        rw [Controller.run_cons, Controller.run_nil] at hgrown
        rw [(hgrown.withLabel label).1, List.length_append]
        exact Nat.le_add_right _ _
      · obtain ⟨plans, g, hsweep, hheld, hroster, -⟩ := h.sweep hsep hlazy hcount hf hq hup retains
        have hg : c.perform f (.sweep retains) = g := congrArg Prod.snd hsweep
        rw [hg]
        exact ⟨hheld, fun label => by rw [hroster]⟩
    obtain ⟨hheld, hmore⟩ := ih hone.1 hrest
    exact ⟨hheld, fun label => (hone.2 label).trans (hmore label)⟩

/-- **Sweeps settle.**  From an empty fleet, in a course in which sweeps are made only when every
launch has come up and the nodes stay idle, there are at no time more nodes or launches of a
template than nodes are to be kept ready; a sweep always ends with its plans and terminates no node;
and once there are as many nodes of a template as are to be kept ready, no later sweep plans
launches for its label string. -/
theorem primed_run {f : Fleet σ} (horder : f.roster.order = []) (hlaunches : f.pool.launches = [])
    {events : List (Event σ)} (he : c.Unhurried given events f) :
    (∀ t ∈ c.catalog.templates,
      ((c.run events f).roster.withLabel t.labelString).length ≤ t.primed ∧
      (c.run events f).pool.launches.countP (·.template = t) ≤ t.primed) ∧
    ((c.run events f).pool.AllUp → ∀ retains, ∃ plans g,
      c.sweep retains (c.run events f) = (.ok plans, g) ∧ g.roster = (c.run events f).roster) ∧
    ∀ t ∈ c.catalog.templates,
      t.primed ≤ ((c.run events f).roster.withLabel t.labelString).length →
      ∀ later, c.Unhurried given later (c.run events f) →
        (c.run later (c.run events f)).pool.AllUp → ∀ retains, ∃ plans g,
          c.sweep retains (c.run later (c.run events f)) = (.ok plans, g) ∧
          ∀ plan, (t.labelString, plan) ∉ plans := by
  obtain ⟨h, -⟩ := held_run hsep hlazy hcount hf hq (Held.start horder hlaunches) he
  refine ⟨fun t ht => ⟨(h.length_withLabel_le hsep ht).trans (h.primed t), h.primed t⟩, ?_, ?_⟩
  · intro hup retains
    obtain ⟨plans, g, hsweep, -, hroster, -⟩ := h.sweep hsep hlazy hcount hf hq hup retains
    exact ⟨plans, g, hsweep, hroster⟩
  · intro t ht hreached later hlater hup retains
    obtain ⟨h', hmore⟩ := held_run hsep hlazy hcount hf hq h hlater
    obtain ⟨plans, g, hsweep, -, -, hnone⟩ := h'.sweep hsep hlazy hcount hf hq hup retains
    exact ⟨plans, g, hsweep, hnone t ht (hreached.trans (hmore t.labelString))⟩

end Course

/-- Two nodes of one template and one spot node of another are to be kept ready, and while the first
launch waits the second one gets its turn. -/
def pairOfLabels : Controller AmpleCloud :=
  (Controller.ample
    [{ Template.primedPlain "a" "ami-1" "linux docker" 2 with idleMinutes := 1 },
      { Template.primedPlain "b" "ami-2" "gpu" 1 with spot := true, executors := ⟨4, Nat.succ_pos 3⟩ }]
    9).during [.carryOut 1]

/-- Two sweeps, the second one an hour after all launches of the first have come up. -/
def twoSweeps : List (Event AmpleCloud) :=
  [.sweep true, .carryOut 0, .runQueue 3, .elsewhere id ⟨3600000000⟩ id, .sweep true]

theorem primed_run_pairOfLabels :
    (∀ t ∈ pairOfLabels.catalog.templates,
      ((pairOfLabels.run twoSweeps (.fresh ⟨[], [], 0⟩ ⟨0⟩)).roster.withLabel
        t.labelString).length ≤ t.primed ∧
      (pairOfLabels.run twoSweeps (.fresh ⟨[], [], 0⟩ ⟨0⟩)).pool.launches.countP
        (·.template = t) ≤ t.primed) ∧
      (pairOfLabels.run twoSweeps (.fresh ⟨[], [], 0⟩ ⟨0⟩)).roster.registered.map (·.name) =
        ["b (sir-0)", "a (i-1)", "a (i-3)"] := by
  have hsep : pairOfLabels.catalog.Separate := ⟨by decide +kernel, by decide +kernel, by decide⟩
  have hcount : ∀ which, FailsAsProvider (pairOfLabels.provider.count which) :=
    fun which w e h => by cases h
  have hfresh : Fresh pairOfLabels AmpleCloud.given := (fresh_ample _ _).during _
  have hquiet : pairOfLabels.Quiet AmpleCloud.given :=
    .during (.still rfl) (by simp [Event.Calm])
  have hcourse : pairOfLabels.Unhurried AmpleCloud.given twoSweeps (.fresh ⟨[], [], 0⟩ ⟨0⟩) := by
    refine ⟨.inr ⟨⟨true, rfl⟩, by decide⟩, .inl trivial, .inl trivial,
      .inl ⟨fun _ => Set.Subset.rfl, rfl⟩, .inr ⟨⟨true, rfl⟩, ?_⟩, trivial⟩
    decide +kernel
  exact ⟨(primed_run hsep rfl hcount hfresh hquiet rfl rfl hcourse).1, by decide +kernel⟩

end BuildFleet
