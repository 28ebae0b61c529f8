/-
Targets that are reached.

A sweep reaches a template through the label strings that it decides for, each of which stands for
the first template that serves it.  Where that is the template itself, or another one with the same
label string and no lower target, the sweep plans what is missing, and when its launches have come
up there are as many spare nodes as are to be kept ready.

* **`Controller.target`** — how many nodes a sweep keeps ready for a label;
* **`spareCount_sweep`** — they are there when the launches of the sweep have come up;
* **`sweep_misses_targets`** — templates that a sweep does not reach.
-/
import BuildFleet.Proofs.Growth

namespace BuildFleet

open Controller (needFor unitsFor)

variable {σ : Type} {c : Controller σ} {scene : σ → Scene} {given : σ → Set String}

/-- How many nodes are to be kept ready for a label. -/
def Controller.target (c : Controller σ) (label : String) : Nat :=
  ((c.catalog.forLabel? (some label)).map (·.primed)).getD 0

/-- None of the registered nodes may still come up. -/
def Roster.Unawaited (r : Roster) (s : Scene) : Prop :=
  ∀ n ∈ r.registered, n.isAwaited s = false

theorem Roster.Unawaited.needed {f : Fleet σ} (h : f.roster.Unawaited (scene f.cloud))
    (t : Template) (label : String) :
    f.needed scene t label 0 =
      if t.isPrimedAt f.now then t.primed - f.roster.spareCount label else 0 := by
  have hnone : f.roster.awaited label (scene f.cloud) = [] := by
    rw [Roster.awaited, List.filter_eq_nil_iff]
    intro n hn
    simp [h n (List.mem_filter.mp hn).1]
  rw [Fleet.needed, hnone, unitsFor_needFor_nil]

/-- With room for all of them under the caps, a sweep plans all launches that are needed. -/
theorem sweep_ample (hh : Healthy c.provider scene) (hc : c.Patient scene) (hw : c.Willing)
    {f : Fleet σ} (ho : f.pool.isOpen = true) (hnone : f.roster.Unawaited (scene f.cloud))
    (hroom : ∀ t ∈ c.catalog.templates,
      ((c.swept f.roster).map c.target).sum ≤ c.room scene t f) :
    ∃ decisions g, c.sweep false f = (.ok (plansOf decisions), g) ∧
      Decided c (c.swept f.roster) decisions f g ∧
      ∀ d ∈ decisions, d.plan.length = f.needed scene d.template d.label 0 := by
  let left (labels : List String) (g : Fleet σ) : Prop :=
    g.roster = f.roster ∧ Unseen scene f g ∧ g.pool.isOpen = true ∧
      ∀ t ∈ c.catalog.templates, (labels.map c.target).sum ≤ c.room scene t g
  let comes (d : Decision) : Prop := d.plan.length = f.needed scene d.template d.label 0
  have hdecide : c.Decides left comes := by
    rintro label rest t g ht ⟨hroster, hunseen, ho, hroom⟩
    obtain ⟨plan, g', hd, -, hlen, hhanded, hunseen'⟩ := decide_healthy hh hc ht 0 g
    have hlen := hlen ho hw
    rw [hunseen.needed hroster] at hlen
    have htarget : f.needed scene t label 0 ≤ c.target label := by
      rw [hnone.needed, Controller.target, ht, Option.map_some, Option.getD_some]
      split_ifs <;> omega
    simp only [List.map_cons, List.sum_cons] at hroom
    have ht' := hroom t (List.mem_of_find?_eq_some ht)
    have hall : plan.length = f.needed scene t label 0 := by omega
    refine ⟨plan, g', hd, hhanded, hall, hhanded.roster.trans hroster, hunseen.trans hunseen',
      hhanded.isOpen.trans ho, fun s hs => ?_⟩
    have hless := (room_of_handed (c := c) (t := s) hhanded hunseen'.scene).1
    have := hroom s hs
    omega
  obtain ⟨decisions, g, hsweep, hdecided, hall, -⟩ :=
    sweep_of_decide hdecide (f := f) fun log => ⟨rfl, ⟨rfl, rfl⟩, ho, hroom⟩
  exact ⟨decisions, g, hsweep false, hdecided, hall⟩

/-! ### Launches that come up -/

theorem countP_le_of_kept {α : Type} {q : α → Bool} {as bs : List α}
    (h : ∀ (i : Nat) (a : α), as[i]? = some a → q a = true → bs[i]? = some a) :
    as.countP q ≤ bs.countP q := by
  induction as generalizing bs with
  | nil => simp
  | cons a as ih =>
    cases bs with
    | nil =>
      have hnone : (a :: as).countP q = 0 := by
        rw [List.countP_eq_zero]
        intro x hx hq
        obtain ⟨i, hi⟩ := List.mem_iff_getElem?.mp hx
        simpa using h i x hi hq
      rw [hnone]
      exact Nat.zero_le _
    | cons b bs =>
      have hrest := ih fun i x hi => h (i + 1) x (by simpa using hi)
      by_cases ha : q a = true
      · obtain rfl : b = a := by simpa using h 0 a rfl ha
        simp only [List.countP_cons, ha, if_true]
        omega
      · rw [List.countP_cons_of_neg ha]
        exact hrest.trans (List.sublist_cons_self b bs).countP_le

/-- Launches that had come up stay so, and the new ones have come up by then. -/
theorem Grown.le_cameUp {f g h : Fleet σ} {added : List Nat} {new : List Launch}
    (hgrown : Grown given g h added) (hnew : g.pool.launches = f.pool.launches ++ new)
    (hup : ∀ (j : Nat) (l : Launch), f.pool.next ≤ j → h.pool.launches[j]? = some l →
      l.progress.isDone = true) (label : String) :
    f.pool.cameUp label + new.countP (·.template.labelString = label) ≤
      h.pool.cameUp label := by
  have hold : f.pool.cameUp label ≤ (h.pool.launches.take f.pool.next).countP
      fun l => l.template.labelString = label && l.progress.isDone := by
    refine countP_le_of_kept fun i l hl hdone => ?_
    have hlt : i < f.pool.next := (List.getElem?_eq_some_iff.mp hl).1
    have hq : l.progress ≠ .queued := by
      rintro hq
      simp [hq] at hdone
    rw [List.getElem?_take_of_lt hlt]
    refine hgrown.settled i l ?_ hq
    rw [hnew, List.getElem?_append_left hlt, hl]
  have hrest : new.countP (·.template.labelString = label) =
      (h.pool.launches.drop f.pool.next).countP
        fun l => l.template.labelString = label && l.progress.isDone := by
    have htemplates : (h.pool.launches.drop f.pool.next).map (·.template) =
        new.map (·.template) := by
      rw [List.map_drop, hgrown.templates, hnew, ← List.map_drop, Pool.next, List.drop_left]
    calc new.countP (·.template.labelString = label)
        = (new.map (·.template)).countP (·.labelString = label) := by
          rw [List.countP_map]
          rfl
      _ = (h.pool.launches.drop f.pool.next).countP (·.template.labelString = label) := by
          rw [← htemplates, List.countP_map]
          rfl
      _ = _ := by
          refine List.countP_congr fun l hl => ?_
          obtain ⟨i, hi⟩ := List.mem_iff_getElem?.mp hl
          rw [List.getElem?_drop] at hi
          simp [hup _ l (Nat.le_add_right _ _) hi]
  calc f.pool.cameUp label + new.countP (·.template.labelString = label)
      ≤ _ + _ := Nat.add_le_add hold hrest.le
    _ = h.pool.cameUp label := by
      rw [← List.countP_append, List.take_append_drop]
      rfl

theorem le_countP_launches {decisions : List Decision} {d : Decision} (hd : d ∈ decisions)
    {label : String} (hlabel : d.template.labelString = label) :
    d.plan.length ≤ (decisions.flatMap (·.launches)).countP (·.template.labelString = label) := by
  have hsub : d.launches.Sublist (decisions.flatMap (·.launches)) := by
    rw [List.flatMap]
    exact List.sublist_flatten_of_mem (List.mem_map_of_mem hd)
  calc d.plan.length
      = d.launches.countP (·.template.labelString = label) := by
        rw [Decision.launches, List.countP_replicate]
        simp [hlabel]
    _ ≤ _ := hsub.countP_le

/-- **A sweep reaches its targets** when all its launches have come up, if the caps leave room for
them and no node may still come up that was there before: there are as many spare nodes with a
template's label string as it wants to be kept ready, if the sweep decides for the label string and
the template that serves it has the same label string, a window that is open, and no lower
target. -/
theorem spareCount_sweep (hh : Healthy c.provider scene) (hc : c.Patient scene) (hw : c.Willing)
    (hf : Fresh c given) (hq : c.Quiet given) {f : Fleet σ} (ho : f.pool.isOpen = true)
    (hk : Known given f) (hnone : f.roster.Unawaited (scene f.cloud))
    (hroom : ∀ t ∈ c.catalog.templates,
      ((c.swept f.roster).map c.target).sum ≤ c.room scene t f) :
    ∃ plans g, c.sweep false f = (.ok plans, g) ∧
      ∀ events : List (Event σ), (∀ e ∈ events, e.Calm given) →
        (∀ (j : Nat) (l : Launch), f.pool.next ≤ j →
          (c.run events g).pool.launches[j]? = some l → l.progress.isDone = true) →
        ∀ s t : Template, t.labelString ∈ c.sweepLabels f.roster →
          c.catalog.forLabel? (some t.labelString) = some s → s.labelString = t.labelString →
          s.isPrimedAt f.now → t.primed ≤ s.primed →
          t.primed ≤ (c.run events g).roster.spareCount t.labelString := by
  obtain ⟨decisions, g, hsweep, hdecided, hall⟩ := sweep_ample hh hc hw ho hnone hroom
  refine ⟨plansOf decisions, g, hsweep, fun events he hup s t hl hs hlabel hprimed hle => ?_⟩
  have hids := hf.sweep hq false f
  rw [hsweep] at hids
  obtain ⟨added, hgrown⟩ := grown_run hf hq he (hdecided.known hk hids)
  -- The sweep has decided for the label string, and the launches of this decision are among all.
  have hswept : t.labelString ∈ decisions.map (·.label) := by
    rw [hdecided.labels, Controller.swept, List.mem_filter]
    exact ⟨hl, by rw [Controller.canProvision, hs]; rfl⟩
  obtain ⟨d, hd, hdl⟩ := List.mem_map.mp hswept
  have hds : d.template = s := by
    have := hdecided.served d hd
    rw [hdl, hs] at this
    exact (Option.some.inj this).symm
  have hplan : d.plan.length = s.primed - f.roster.spareCount t.labelString := by
    rw [hall d hd, hnone.needed, hds, hdl, if_pos hprimed]
  have hmany := le_countP_launches hd (hds.symm ▸ hlabel)
  have hcameUp := hgrown.le_cameUp hdecided.launches hup t.labelString
  have hspare := (hgrown.withLabel t.labelString).2
  have hqueued := hdecided.cameUp t.labelString
  rw [hdecided.roster] at hspare
  omega

/-- A template without caps, with idle instances to keep ready. -/
def Template.uncapped (name imageId labelString : String) (primed : Nat) : Template :=
  { Template.primedPlain name imageId labelString primed with instanceCap := Cap.unlimited }

/-- Two templates with one label string, and one for spot instances. -/
def sharedLabel : Controller AmpleCloud :=
  .ample [.uncapped "a" "ami-1" "linux" 3, .uncapped "b" "ami-2" "linux" 2,
    { Template.uncapped "c" "ami-3" "gpu metal" 1 with spot := true }] Cap.unlimited

/-- One node of the first template is there already. -/
def oneSpare : Fleet AmpleCloud :=
  let n := Node.ofTemplate (.uncapped "a" "ami-1" "linux" 3) "i-0" "i-0" (.text "ami-1") none
  { Fleet.fresh ⟨["ami-1"], [], 1⟩ ⟨0⟩ with roster := .ofNodes [n.markOnline ⟨0⟩] }

theorem spareCount_sweep_sharedLabel :
    ∃ plans g, sharedLabel.sweep false oneSpare = (.ok plans, g) ∧
      2 ≤ (sharedLabel.run [.runQueue 9] g).roster.spareCount "linux" ∧
      1 ≤ (sharedLabel.run [.runQueue 9] g).roster.spareCount "gpu metal" := by
  have hknown : Known AmpleCloud.given oneSpare := by
    intro k hk template id hname hid
    obtain rfl : k = 0 := List.mem_singleton.mp hk
    have hplain : '(' ∉ "i-0".toList := by decide
    rw [← Node.id_of_nameFor hplain hid (Option.some.inj hname)]
    exact ⟨0, Nat.one_pos, .inl rfl⟩
  have hnone : oneSpare.roster.Unawaited oneSpare.cloud.view := by
    unfold Roster.Unawaited
    decide
  have hroom : ∀ t ∈ sharedLabel.catalog.templates,
      ((sharedLabel.swept oneSpare.roster).map sharedLabel.target).sum ≤
        sharedLabel.room AmpleCloud.view t oneSpare := by
    decide +kernel
  have hpatient : sharedLabel.Patient AmpleCloud.view := patient_ample _ _
  have hfresh : Fresh sharedLabel AmpleCloud.given := fresh_ample _ _
  obtain ⟨plans, g, hsweep, hreached⟩ := spareCount_sweep healthy_ample hpatient
    (willing_ample _ _) hfresh (.still rfl) rfl hknown hnone hroom
  have hg : (sharedLabel.sweep false oneSpare).2 = g := congrArg Prod.snd hsweep
  have hall : (sharedLabel.run [.runQueue 9] g).pool.AllUp := by
    rw [← hg]
    decide +kernel
  have hspare := hreached [.runQueue 9] (by simp [Event.Calm])
    (fun j l _ hl => hall l (List.mem_of_getElem? hl))
  refine ⟨plans, g, hsweep, ?_, ?_⟩
  · exact hspare (.uncapped "a" "ami-1" "linux" 3) (.uncapped "b" "ami-2" "linux" 2)
      (by decide +kernel) (by decide +kernel) rfl (by decide) (by decide)
  · exact hspare { Template.uncapped "c" "ami-3" "gpu metal" 1 with spot := true }
      (.uncapped "c" "ami-3" "gpu metal" 1) (by decide +kernel) (by decide +kernel) rfl
      (by decide) (by decide)

/-- A sweep from an empty fleet, and then the launches that it plans. -/
def afterSweep (templates : List Template) : Fleet AmpleCloud :=
  (Controller.ample templates Cap.unlimited).run [.sweep false, .runQueue 9]
    (.fresh ⟨[], [], 0⟩ ⟨0⟩)

/-- The one template has no label. -/
def withoutLabel : Fleet AmpleCloud := afterSweep [.uncapped "a" "ami-1" "" 1]

/-- The template stands behind another one with its label string, which wants no node. -/
def behindIdle : Fleet AmpleCloud :=
  afterSweep [.uncapped "a" "ami-1" "linux" 0, .uncapped "b" "ami-2" "linux" 1]

/-- The label of the template is one of the labels of an earlier one. -/
def behindWider : Fleet AmpleCloud :=
  afterSweep [.uncapped "a" "ami-1" "linux docker" 1, .uncapped "b" "ami-2" "docker" 1]

/-- All launches of the sweep have come up, and there are still fewer nodes than are to be kept
ready.  Nothing was planned for the first two, and what was planned for the third is counted under
another label string. -/
theorem sweep_misses_targets :
    (withoutLabel.pool.AllUp ∧
        withoutLabel.roster.spareCount "" < (Template.uncapped "a" "ami-1" "" 1).primed) ∧
      (behindIdle.pool.AllUp ∧
        behindIdle.roster.spareCount "linux" < (Template.uncapped "b" "ami-2" "linux" 1).primed) ∧
      (behindWider.pool.AllUp ∧
        behindWider.roster.spareCount "docker" <
          (Template.uncapped "b" "ami-2" "docker" 1).primed) := by
  decide +kernel

end BuildFleet
