/-
Decisions when nothing goes wrong.

With a provider that answers every question and a pool that takes every launch, a decision comes to
a number: as many launches as are needed, or as the caps leave room for.

* **`Controller.room`** — how many slots the caps leave for a template;
* **`Fleet.needed`** — how many launches a decision asks for;
* **`decide_healthy`** — the number of launches of a decision;
* **`decide_again`** — what a decision needs does not depend on the launches that wait, so that one
  that is made again before they had their turn plans all of them once more, up to the caps.
-/
import BuildFleet.Proofs.Health
import BuildFleet.Proofs.Planning
import Mathlib.Data.List.Perm.Basic

namespace BuildFleet

open Controller (settlingFor needFor unitsFor executorsOf)

variable {σ : Type} {c : Controller σ} {scene : σ → Scene}

/-! ### Nodes that may still come up -/

/-- The node is not connected and may still come up by its spot request. -/
def Node.isAwaited (s : Scene) (n : Node) : Bool :=
  n.awaitedRequest?.any fun id => (s.request id).isPending

theorem Controller.Calm.pendingAmong {s : Scene} {calm : Set σ} (hc : c.Calm s calm)
    (nodes : List Node) {f : Fleet σ} (hf : f.cloud ∈ calm) :
    ∃ w ∈ calm, c.pendingAmong nodes f =
      (.ok (nodes.filter (·.isAwaited s)), { f with cloud := w }) := by
  induction nodes generalizing f with
  | nil => exact ⟨f.cloud, hf, rfl⟩
  | cons n rest ih =>
    unfold Controller.pendingAmong
    cases hn : n.awaitedRequest? with
    | none =>
      obtain ⟨w, hw, hrest⟩ := ih hf
      refine ⟨w, hw, ?_⟩
      have hnot : n.isAwaited s = false := by simp [Node.isAwaited, hn]
      rw [List.filter_cons_of_neg (by simp [hnot])]
      exact hrest
    | some id =>
      obtain ⟨v, hv, hasked⟩ := hc.requestState id f.cloud hf
      obtain ⟨w, hw, hrest⟩ := ih (f := { f with cloud := v }) hv
      refine ⟨w, hw, ?_⟩
      have hstate : n.isAwaited s = (s.request id).isPending := by simp [Node.isAwaited, hn]
      cases hp : (s.request id).isPending with
      | true => simp [Fleet.consult, hasked, hrest, hstate, hp]
      | false => simp [Fleet.consult, hasked, hrest, hstate, hp]

/-! ### One decision -/

section Decide

variable {label : String} (excess : Int) {f : Fleet σ} {pending : List Node} {w : σ}

/-- A decision finds out what is missing before anything else but an entry in the log. -/
theorem Controller.decide_of_pending (c : Controller σ)
    (hp : c.pendingAmong (f.roster.withLabel label) f = (.ok pending, { f with cloud := w })) :
    ∃ log, c.decide label excess f =
      match c.catalog.forLabel? (some label) with
      | none => (.ok [], { f with cloud := w, log })
      | some t => (do
        let plan ← c.launchUpTo label t (unitsFor t (needFor t label excess pending f))
        if !plan.isEmpty then
          Fleet.note .info s!"Planned {plan.length} new node(s) for '{label}'"
        return plan) { f with cloud := w, log } := by
  obtain ⟨log, hnote⟩ : ∃ log, Fleet.note .info
      s!"Excess workload start for '{label}': {excess}" f = (.ok (), { f with log }) := ⟨_, rfl⟩
  have hlog : c.pendingAmong (f.roster.withLabel label) { f with log } =
      (.ok pending, { f with cloud := w, log }) := by
    obtain ⟨r, v, hr⟩ := c.pendingAmong_of_cloud (f.roster.withLabel label) f.cloud
    obtain ⟨rfl, hv⟩ := Prod.mk.inj ((hr f rfl).symm.trans hp)
    obtain rfl : v = w := congrArg Fleet.cloud hv
    exact hr { f with log } rfl
  obtain ⟨log', ha⟩ := c.assess_of_pending label excess (f := { f with log }) hlog
  have hsettled := Controller.settlingFor_of_ok none label ha
  refine ⟨log', ?_⟩
  unfold Controller.decide
  rw [Action.bind_apply, hnote]
  simp only [Action.bind_apply, hsettled, Controller.launchWhile_eq]
  cases c.catalog.forLabel? (some label) with
  | none => rfl
  | some t => rfl

/-- Where a template serves the label, it is a number of launches that is missing. -/
theorem Controller.decide_of_served (c : Controller σ) {t : Template}
    (hp : c.pendingAmong (f.roster.withLabel label) f = (.ok pending, { f with cloud := w }))
    (ht : c.catalog.forLabel? (some label) = some t) :
    ∃ log, ∀ plan g, c.launchUpTo label t (unitsFor t (needFor t label excess pending f))
        { f with cloud := w, log } = (.ok plan, g) →
      ∃ log', c.decide label excess f = (.ok plan, { g with log := log' }) := by
  obtain ⟨log, hd⟩ := c.decide_of_pending excess hp
  rw [ht] at hd
  refine ⟨log, fun plan g hl => ?_⟩
  rw [hd]
  simp only [Action.bind_apply, hl]
  by_cases hne : plan = []
  · exact ⟨g.log, by simp [hne]⟩
  · exact ⟨_, by simp [hne, Fleet.note]; rfl⟩

end Decide

/-! ### Room under the caps -/

/-- How many more launches of a template the caps leave room for. -/
def Controller.room (c : Controller σ) (scene : σ → Scene) (t : Template) (f : Fleet σ) : Nat :=
  min (c.instanceCap - (scene f.cloud).number none - f.ledger.total).toNat
    (t.instanceCap - (scene f.cloud).number (some t.imageId) - f.ledger.inFlight t.imageId)

theorem room_pos {t : Template} {f : Fleet σ} : 0 < c.room scene t f ↔
    f.ledger.refusal? t.imageId
      ⟨(scene f.cloud).number none, (scene f.cloud).number (some t.imageId)⟩
      ⟨c.instanceCap, t.instanceCap⟩ = none := by
  rw [Ledger.refusal?_eq_none, Controller.room]
  dsimp only
  omega

section Calm

variable {s : Scene} {calm : Set σ} (hc : c.Calm s calm)
include hc

theorem Controller.Calm.reserve (label : String) (t : Template) {f : Fleet σ}
    (hf : f.cloud ∈ calm) :
    ∃ w ∈ calm, ∃ log, settlingFor false label (c.reserve t.imageId t.instanceCap) f =
      if 0 < c.room (fun _ => s) t f then
        (.ok true, { f with cloud := w, ledger := f.ledger.take t.imageId, log })
      else (.ok false, { f with cloud := w, log }) := by
  obtain ⟨v, hv, htotal⟩ := hc.count none f.cloud hf
  obtain ⟨w, hw, himage⟩ := hc.count (some t.imageId) v hv
  have hcounts := c.reserve_of_counts t.imageId t.instanceCap htotal himage
  by_cases hroom : 0 < c.room (fun _ => s) t f
  · obtain ⟨log, hs⟩ := c.takeSlot_of_none t.imageId t.instanceCap _ (f := { f with cloud := w })
      (room_pos (f := f).mp hroom)
    refine ⟨w, hw, log, ?_⟩
    rw [if_pos hroom]
    exact Controller.settlingFor_of_ok false label (hcounts.trans hs)
  · obtain ⟨r, hr⟩ := Option.ne_none_iff_exists'.mp fun h => hroom (room_pos.mpr h)
    obtain ⟨log, hs⟩ := c.takeSlot_of_refusal t.imageId t.instanceCap _
      (f := { f with cloud := w }) hr
    refine ⟨w, hw, log, ?_⟩
    rw [if_neg hroom]
    exact Controller.settlingFor_of_ok false label (hcounts.trans hs)

/-- A launch is handed in, or the pool refuses it and its slot is given back. -/
theorem Controller.Calm.submit (t : Template) {f : Fleet σ} (hf : f.cloud ∈ calm) :
    ∃ w ∈ calm,
      c.submit t f = (.ok (.ok f.pool.next), { f with cloud := w, pool := f.pool.push t }) ∨
        ¬(f.pool.isOpen = true ∧ ∀ v ∈ calm, (c.refuses v).1 = none) ∧ ∃ reason, c.submit t f =
          (.ok (.error reason), { f with cloud := w, ledger := f.ledger.release t.imageId }) := by
  obtain ⟨reason, w, hrefusal, hw⟩ := c.refusal?_ok f
  have hcalm : w ∈ calm := by
    obtain rfl | rfl := hw
    · exact hf
    · exact hc.quiet f.cloud hf
  refine ⟨w, hcalm, ?_⟩
  cases reason with
  | none =>
    left
    simp [Controller.submit, hrefusal, Fleet.changePool, hc.lazy]
  | some reason =>
    right
    refine ⟨?_, reason, ?_⟩
    · -- An open pool gives the answer of the surroundings.
      rintro ⟨ho, hwilling⟩
      rw [Controller.refusal?, Action.bind_apply, Action.reads_apply, ho] at hrefusal
      have hanswer : (c.refuses f.cloud).1 = some reason :=
        Except.ok.inj (congrArg Prod.fst hrefusal)
      rw [hwilling f.cloud hf] at hanswer
      cases hanswer
    · simp [Controller.submit, hrefusal, Controller.release, Fleet.changeLedger]

end Calm

/-- What goes on in a decision does not show in the world outside, and takes no time. -/
structure Unseen (scene : σ → Scene) (f g : Fleet σ) : Prop where
  scene : scene g.cloud = scene f.cloud
  now : g.now = f.now

theorem Unseen.trans {f g g' : Fleet σ} (h : Unseen scene f g) (h' : Unseen scene g g') :
    Unseen scene f g' :=
  ⟨h'.scene.trans h.scene, h'.now.trans h.now⟩

theorem Handed.total {t : Template} {plan : List PlannedUnit} {f g : Fleet σ}
    (h : Handed t plan f g) : g.ledger.total = f.ledger.total + plan.length := by
  have hperm : g.ledger.slots.Perm (List.replicate plan.length t.imageId ++ f.ledger.slots) := by
    refine List.perm_iff_count.mpr fun image => ?_
    have := h.inFlight image
    rw [List.count_append, List.count_replicate]
    simp only [Ledger.inFlight, beq_iff_eq] at *
    omega
  have := hperm.length_eq
  rw [List.length_append, List.length_replicate] at this
  simp only [Ledger.total]
  omega

/-- Launches that are handed in take up room. -/
theorem room_of_handed {s t : Template} {plan : List PlannedUnit} {f g : Fleet σ}
    (h : Handed s plan f g) (hs : scene g.cloud = scene f.cloud) :
    c.room scene t f ≤ c.room scene t g + plan.length ∧
      (s = t → c.room scene t g = c.room scene t f - plan.length) := by
  have htotal := h.total
  have himage := h.inFlight t.imageId
  simp only [Controller.room, hs]
  refine ⟨?_, fun hst => ?_⟩
  · split_ifs at himage <;> omega
  · rw [hst, if_pos rfl] at himage
    omega

theorem Controller.Calm.launchUpTo {s : Scene} {calm : Set σ} (hc : c.Calm s calm)
    (label : String) (t : Template) (units : Nat) {f : Fleet σ} (hf : f.cloud ∈ calm) :
    ∃ plan g, c.launchUpTo label t units f = (.ok plan, g) ∧
      plan.length ≤ min units (c.room (fun _ => s) t f) ∧
      (f.pool.isOpen = true → (∀ w ∈ calm, (c.refuses w).1 = none) →
        plan.length = min units (c.room (fun _ => s) t f)) ∧
      Handed t plan f g ∧ g.cloud ∈ calm ∧ g.now = f.now := by
  -- By induction on the launches still wanted: one is handed in if there is room and the pool takes
  -- it, and otherwise the plan ends.
  induction units generalizing f with
  | zero => exact ⟨[], f, rfl, by simp, by simp, .nil ⟨rfl, rfl, rfl⟩, hf, rfl⟩
  | succ n ih =>
    obtain ⟨v, hv, log, hreserve⟩ := hc.reserve label t hf
    by_cases hroom : 0 < c.room (fun _ => s) t f
    · rw [if_pos hroom] at hreserve
      obtain ⟨w, hw, hsubmit | ⟨hnot, reason, hsubmit⟩⟩ := hc.submit t
        (f := { f with cloud := v, ledger := f.ledger.take t.imageId, log }) hv
      · obtain ⟨plan, g, hrest, hle, heq, hplan, hcalm, hnow⟩ := ih
          (f := { f with
            cloud := w, ledger := f.ledger.take t.imageId, log, pool := f.pool.push t }) hw
        have hhanded : Handed t (⟨t.name, t.executors.val, f.pool.next⟩ :: plan) f g :=
          (hplan.congr (f := { f with ledger := f.ledger.take t.imageId, pool := f.pool.push t })
            ⟨rfl, rfl, rfl⟩ ⟨rfl, rfl, rfl⟩).cons
        have hless : c.room (fun _ => s) t { f with
            cloud := w, ledger := f.ledger.take t.imageId, log, pool := f.pool.push t } + 1 =
            c.room (fun _ => s) t f := by
          have himage := Ledger.inFlight_take f.ledger t.imageId t.imageId
          rw [if_pos rfl] at himage
          simp only [Controller.room, Ledger.total_take, himage] at *
          omega
        refine ⟨_, g, ?_, ?_, fun ho hwilling => ?_, hhanded, hcalm, hnow⟩
        · simp [Controller.launchUpTo, Controller.launchThen, hreserve, hsubmit, hrest]
        · rw [List.length_cons]
          omega
        · rw [List.length_cons, heq ho hwilling]
          omega
      · -- The slot was taken for nothing, and giving it back restores the ledger.
        have hback : ∃ log', c.launchUpTo label t (n + 1) f =
            (.ok [], { f with cloud := w, log := log' }) :=
          ⟨_, by
            simp [Controller.launchUpTo, Controller.launchThen, hreserve, hsubmit, Fleet.note]
            rfl⟩
        obtain ⟨log', hback⟩ := hback
        exact ⟨[], _, hback, Nat.zero_le _, fun ho hwilling => absurd ⟨ho, hwilling⟩ hnot,
          .nil ⟨rfl, rfl, rfl⟩, hw, rfl⟩
    · rw [if_neg hroom] at hreserve
      refine ⟨[], { f with cloud := v, log }, ?_, Nat.zero_le _, fun _ _ => ?_,
        .nil ⟨rfl, rfl, rfl⟩, hv, rfl⟩
      · simp [Controller.launchUpTo, Controller.launchThen, hreserve]
      · rw [List.length_nil]
        omega

/-! ### Decisions -/

/-- The nodes of a label that may still come up. -/
def Roster.awaited (r : Roster) (label : String) (s : Scene) : List Node :=
  (r.withLabel label).filter (·.isAwaited s)

/-- How many launches are needed for a label. -/
def Fleet.needed (scene : σ → Scene) (t : Template) (label : String) (excess : Int)
    (f : Fleet σ) : Nat :=
  unitsFor t (needFor t label excess (f.roster.awaited label (scene f.cloud)) f)

/-- As long as the world is calm, a decision hands in what is needed, as far as there is room and
the pool takes it. -/
theorem Controller.Calm.decide {s : Scene} {calm : Set σ} (hc : c.Calm s calm) {label : String}
    {t : Template} (ht : c.catalog.forLabel? (some label) = some t) (excess : Int) {f : Fleet σ}
    (hf : f.cloud ∈ calm) :
    ∃ plan g, c.decide label excess f = (.ok plan, g) ∧
      plan.length ≤ min (f.needed (fun _ => s) t label excess) (c.room (fun _ => s) t f) ∧
      (f.pool.isOpen = true → (∀ w ∈ calm, (c.refuses w).1 = none) →
        plan.length = min (f.needed (fun _ => s) t label excess) (c.room (fun _ => s) t f)) ∧
      Handed t plan f g ∧ g.cloud ∈ calm ∧ g.now = f.now := by
  obtain ⟨w, hw, hpending⟩ := hc.pendingAmong (f.roster.withLabel label) hf
  obtain ⟨log, hd⟩ := c.decide_of_served excess hpending ht
  obtain ⟨plan, g, hplan, hle, heq, hhanded, hcalm, hnow⟩ :=
    hc.launchUpTo label t (unitsFor t (needFor t label excess _ f))
      (f := { f with cloud := w, log }) hw
  obtain ⟨log', hd⟩ := hd plan g hplan
  exact ⟨plan, { g with log := log' }, hd, hle, heq, hhanded.congr ⟨rfl, rfl, rfl⟩ ⟨rfl, rfl, rfl⟩,
    hcalm, hnow⟩

/-- A decision hands in what is needed, as far as there is room and the pool takes it. -/
theorem decide_healthy (hh : Healthy c.provider scene) (hc : c.Patient scene) {label : String}
    {t : Template} (ht : c.catalog.forLabel? (some label) = some t) (excess : Int) (f : Fleet σ) :
    ∃ plan g, c.decide label excess f = (.ok plan, g) ∧
      plan.length ≤ min (f.needed scene t label excess) (c.room scene t f) ∧
      (f.pool.isOpen = true → c.Willing →
        plan.length = min (f.needed scene t label excess) (c.room scene t f)) ∧
      Handed t plan f g ∧ Unseen scene f g := by
  obtain ⟨plan, g, hd, hle, heq, hhanded, hcalm, hnow⟩ :=
    (hc.calm hh f.cloud).decide ht excess (f := f) rfl
  exact ⟨plan, g, hd, hle, fun ho hwilling => heq ho fun w _ => hwilling w, hhanded, hcalm, hnow⟩

/-- Without nodes that may still come up, what is needed is what is missing at the primed target. -/
theorem unitsFor_needFor_nil (t : Template) (label : String) (f : Fleet σ) :
    unitsFor t (needFor t label 0 [] f) =
      if t.isPrimedAt f.now then t.primed - f.roster.spareCount label else 0 := by
  have hpos := t.executors.property
  have hunits : ∀ m : Nat, unitsFor t (m * t.executors.val) = m := by
    intro m
    have hmul : ((m : Int) * t.executors.val).toNat = m * t.executors.val := by
      rw [← Int.natCast_mul, Int.toNat_natCast]
    rw [unitsFor, hmul, Nat.add_sub_assoc hpos, Nat.add_comm, Nat.add_mul_div_right _ _ hpos,
      Nat.div_eq_of_lt (Nat.sub_lt hpos Nat.one_pos), Nat.zero_add]
  have hshort : Controller.shortfall t (f.roster.spareCount label - ([] : List Node).length) =
      (t.primed - f.roster.spareCount label : Nat) := by
    rw [Controller.shortfall, List.length_nil]
    omega
  rw [needFor, hshort]
  by_cases hp : t.isPrimedAt f.now
  · simpa [hp, executorsOf] using hunits _
  · simpa [hp, executorsOf] using hunits 0

/-- What is needed for a label does not depend on the launches that wait. -/
theorem Unseen.needed {f g : Fleet σ} (h : Unseen scene f g) (hr : g.roster = f.roster)
    (t : Template) (label : String) (excess : Int) :
    g.needed scene t label excess = f.needed scene t label excess := by
  rw [Fleet.needed, Fleet.needed, needFor, needFor, hr, h.scene, h.now]

theorem launches_demands (hh : Healthy c.provider scene) (hc : c.Patient scene)
    (hw : c.Willing) {label : String} {t : Template}
    (ht : c.catalog.forLabel? (some label) = some t) (excess : Int) (m : Nat) {f : Fleet σ}
    (ho : f.pool.isOpen = true) :
    (c.run (List.replicate m (.demand label excess)) f).pool.launches =
      f.pool.launches ++
        List.replicate (min (m * f.needed scene t label excess) (c.room scene t f))
          ⟨t, .queued⟩ := by
  induction m generalizing f with
  | zero => simp
  | succ m ih =>
    -- The next decision plans for the same need, but it finds less room.
    obtain ⟨plan, g, hd, -, hlen, hhanded, hunseen⟩ := decide_healthy hh hc ht excess f
    have hg : c.perform f (.demand label excess) = g := congrArg Prod.snd hd
    have hroom := (room_of_handed (c := c) (t := t) hhanded hunseen.scene).2 rfl
    rw [List.replicate_succ, Controller.run_cons, hg, ih (by rw [hhanded.isOpen, ho]),
      hunseen.needed hhanded.roster, hroom, hhanded.launches, List.append_assoc,
      List.replicate_append_replicate, hlen ho hw]
    set needed := f.needed scene t label excess
    have hmul : (m + 1) * needed = m * needed + needed := Nat.succ_mul m needed
    have hsplit : min needed (c.room scene t f) +
        min (m * needed) (c.room scene t f - min needed (c.room scene t f)) =
        min ((m + 1) * needed) (c.room scene t f) := by
      omega
    rw [hsplit]

/-- **A decision does not see the launches that wait.**  Made again before any of them had its turn,
it plans nothing only if nothing was needed in the first place or the first decision has used up all
room under the caps; and any number of such decisions plan for the need over and over until there is
no room. -/
theorem decide_again (hh : Healthy c.provider scene) (hc : c.Patient scene) (hw : c.Willing)
    {label : String} {t : Template} (ht : c.catalog.forLabel? (some label) = some t) {f : Fleet σ}
    (ho : f.pool.isOpen = true) :
    ((c.decide label 0 (c.decide label 0 f).2).1 = .ok [] ↔
        f.needed scene t label 0 = 0 ∨ c.room scene t f ≤ f.needed scene t label 0) ∧
      ∀ m, (c.run (List.replicate m (.demand label 0)) f).pool.launches =
        f.pool.launches ++
          List.replicate (min (m * f.needed scene t label 0) (c.room scene t f))
            ⟨t, .queued⟩ := by
  refine ⟨?_, fun m => launches_demands hh hc hw ht 0 m ho⟩
  obtain ⟨plan, g, hd, -, hlen, hhanded, hunseen⟩ := decide_healthy hh hc ht 0 f
  obtain ⟨plan', g', hd', -, hlen', -, -⟩ := decide_healthy hh hc ht 0 g
  have hroom := (room_of_handed (c := c) (t := t) hhanded hunseen.scene).2 rfl
  have hlength : plan'.length = min (f.needed scene t label 0)
      (c.room scene t f - min (f.needed scene t label 0) (c.room scene t f)) := by
    rw [hlen' (by rw [hhanded.isOpen, ho]) hw, hunseen.needed hhanded.roster, hroom, hlen ho hw]
  have hnil : (Except.ok plan' : Except Failure _) = .ok [] ↔ plan'.length = 0 := by
    rw [List.length_eq_zero_iff, Except.ok.injEq]
  rw [hd, hd', hnil, hlength]
  omega

/-- Two instances are to be kept ready, and there may be five. -/
def primedLinux : Controller AmpleCloud := .ample [.primedPlain "a" "ami-1" "linux" 2] 5

/-- Four decisions plan all five launches that the cap allows, though two are needed. -/
theorem decide_again_primedLinux :
    (primedLinux.decide "linux" 0
        (primedLinux.decide "linux" 0 (.fresh ⟨[], [], 0⟩ ⟨0⟩)).2).1 ≠ .ok [] ∧
      (primedLinux.run (List.replicate 4 (.demand "linux" 0))
        (.fresh ⟨[], [], 0⟩ ⟨0⟩)).pool.launches =
        List.replicate 5 ⟨.primedPlain "a" "ami-1" "linux" 2, .queued⟩ := by
  have ht : primedLinux.catalog.forLabel? (some "linux") =
      some (.primedPlain "a" "ami-1" "linux" 2) := by decide +kernel
  have hpatient : primedLinux.Patient AmpleCloud.view := patient_ample _ _
  obtain ⟨hagain, hrun⟩ := decide_again healthy_ample hpatient (willing_ample _ _) ht
    (f := .fresh ⟨[], [], 0⟩ ⟨0⟩) rfl
  refine ⟨fun h => ?_, (hrun 4).trans (by decide +kernel)⟩
  have hneeds := hagain.mp h
  revert hneeds
  decide +kernel

/-- One instance is to be kept ready. -/
def primedOnce : Controller AmpleCloud := .ample [.primedPlain "a" "ami-1" "linux" 1] 5

/-- While the one launch that is needed waits, a second one is planned. -/
theorem decide_twice_plans_twice :
    (primedOnce.decide "linux" 0 (.fresh ⟨[], [], 0⟩ ⟨0⟩)).1 = .ok [⟨"a", 1, 0⟩] ∧
      (primedOnce.decide "linux" 0 (primedOnce.decide "linux" 0
        (.fresh ⟨[], [], 0⟩ ⟨0⟩)).2).1 = .ok [⟨"a", 1, 1⟩] := by
  decide +kernel

end BuildFleet
