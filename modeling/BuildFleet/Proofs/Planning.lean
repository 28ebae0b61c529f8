/-
Plans.

A decision meets trouble at any point: while the nodes that may still come up are looked for,
between the two counts for a slot, or when a launch whose slot is taken is handed to the pool.
**`decide_plans`** says that it ends with a plan all the same, that the plan is what was handed in,
and that the ledger, the pool and the plan agree: **`Handed`**.

The provider may answer anything and may fail at any question, but only as a provider does; the pool
may refuse any launch, and what it takes it does not carry out at once.
-/
import BuildFleet.Proofs.Census
import Mathlib.Algebra.BigOperators.Group.List.Basic
import Mathlib.Algebra.Ring.Nat

namespace BuildFleet

open Controller (settlingFor needFor unitsFor)

variable {σ : Type} {c : Controller σ}

/-- A step outside fails, if it fails, as a provider does. -/
def FailsAsProvider {α : Type} (m : Action σ α) : Prop :=
  ∀ w e, (m w).1 = .error e → ∃ detail, e = .provider detail

/-- The nodes, the pool and the ledger are the same. -/
structure Alike (f g : Fleet σ) : Prop where
  roster : g.roster = f.roster
  pool : g.pool = f.pool
  ledger : g.ledger = f.ledger

theorem Alike.trans {f g g' : Fleet σ} (h : Alike f g) (h' : Alike g g') : Alike f g' :=
  ⟨h'.roster.trans h.roster, h'.pool.trans h.pool, h'.ledger.trans h.ledger⟩

/-- A plan for a template is what was handed in, launch by launch and in order, and the launches
have their slots and wait for their turn; nothing else has happened to the nodes, the pool and the
ledger. -/
structure Handed (t : Template) (plan : List PlannedUnit) (f g : Fleet σ) : Prop where
  units : plan = (List.range plan.length).map fun i => ⟨t.name, t.executors.val, f.pool.next + i⟩
  launches : g.pool.launches = f.pool.launches ++ List.replicate plan.length ⟨t, .queued⟩
  queue : g.pool.queue = f.pool.queue ++ plan.map (·.launch)
  isOpen : g.pool.isOpen = f.pool.isOpen
  inFlight : ∀ image, g.ledger.inFlight image =
    f.ledger.inFlight image + if t.imageId = image then plan.length else 0
  surplus : g.ledger.surplus = f.ledger.surplus
  roster : g.roster = f.roster

namespace Handed

variable {t : Template} {plan : List PlannedUnit} {f f' g g' : Fleet σ}

theorem nil (h : Alike f g) : Handed t [] f g where
  units := rfl
  launches := by simp [h.pool]
  queue := by simp [h.pool]
  isOpen := by rw [h.pool]
  inFlight image := by simp [h.ledger]
  surplus := by rw [h.ledger]
  roster := h.roster

theorem congr (h : Handed t plan f' g) (hf : Alike f f') (hg : Alike g g') :
    Handed t plan f g' where
  units := by rw [← hf.pool]; exact h.units
  launches := by rw [hg.pool, ← hf.pool]; exact h.launches
  queue := by rw [hg.pool, ← hf.pool]; exact h.queue
  isOpen := by rw [hg.pool, ← hf.pool]; exact h.isOpen
  inFlight := by rw [hg.ledger, ← hf.ledger]; exact h.inFlight
  surplus := by rw [hg.ledger, ← hf.ledger]; exact h.surplus
  roster := by rw [hg.roster, ← hf.roster]; exact h.roster

/-- A launch that is handed in with a slot comes before those that are handed in after it. -/
theorem cons (h : Handed t plan
      { f with ledger := f.ledger.take t.imageId, pool := f.pool.push t } g) :
    Handed t (⟨t.name, t.executors.val, f.pool.next⟩ :: plan) f g where
  units := by
    have hnext : (f.pool.push t).next = f.pool.next + 1 := by simp [Pool.push, Pool.next]
    have hunits := h.units
    rw [hnext] at hunits
    rw [List.length_cons, List.range_succ_eq_map, List.map_cons, List.map_map]
    refine congrArg₂ List.cons (by rw [Nat.add_zero]) (hunits.trans ?_)
    refine List.map_congr_left fun i _ => ?_
    rw [Function.comp_apply, Nat.succ_eq_add_one, Nat.add_assoc, Nat.add_comm 1 i]
  launches := by
    rw [h.launches, Pool.push, List.append_assoc, List.length_cons, List.replicate_succ,
      List.singleton_append]
  queue := by
    rw [h.queue, Pool.push, List.append_assoc, List.map_cons, List.singleton_append]
  isOpen := h.isOpen
  inFlight image := by
    rw [h.inFlight image, Ledger.inFlight_take, List.length_cons]
    split_ifs <;> omega
  surplus := h.surplus
  roster := h.roster

/-- All launches of a plan but the last have so many executors together. -/
theorem executors_dropLast (h : Handed t plan f g) :
    (plan.dropLast.map (·.executors)).sum = (plan.length - 1) * t.executors.val := by
  have hall : ∀ unit ∈ plan, unit.executors = t.executors.val := by
    intro unit hu
    rw [h.units] at hu
    obtain ⟨i, -, rfl⟩ := List.mem_map.mp hu
    rfl
  have hmap : plan.dropLast.map (·.executors) =
      List.replicate (plan.length - 1) t.executors.val := by
    refine List.eq_replicate_iff.mpr ⟨by simp, fun n hn => ?_⟩
    obtain ⟨unit, hu, rfl⟩ := List.mem_map.mp hn
    exact hall unit (List.dropLast_subset plan hu)
  rw [hmap, List.sum_replicate, Nat.nsmul_eq_mul]

end Handed

/-! ### One launch of a plan -/

/-- A slot is granted or not, and in trouble it is not; that is all that happens. -/
theorem reserve_soft (hcount : ∀ image, FailsAsProvider (c.provider.count image)) (label : String)
    (t : Template) (f : Fleet σ) :
    ∃ granted g, settlingFor false label (c.reserve t.imageId t.instanceCap) f = (.ok granted, g) ∧
      Alike (if granted then { f with ledger := f.ledger.take t.imageId } else f) g := by
  have hreserved := c.reserved t.imageId t.instanceCap f
  generalize houtcome : c.reserve t.imageId t.instanceCap f = outcome at hreserved
  cases hreserved with
  | totalError hn =>
    obtain ⟨detail, rfl⟩ := hcount none f.cloud _ (congrArg Prod.fst hn)
    obtain ⟨log, hs⟩ := Controller.settlingFor_of_provider false label houtcome
    exact ⟨false, _, hs, rfl, rfl, rfl⟩
  | imageError hn hm =>
    obtain ⟨detail, rfl⟩ := hcount _ _ _ (congrArg Prod.fst hm)
    obtain ⟨log, hs⟩ := Controller.settlingFor_of_provider false label houtcome
    exact ⟨false, _, hs, rfl, rfl, rfl⟩
  | refused hn hm =>
    exact ⟨false, _, Controller.settlingFor_of_ok false label houtcome, rfl, rfl, rfl⟩
  | granted hn hm hr =>
    exact ⟨true, _, Controller.settlingFor_of_ok false label houtcome, rfl, rfl, rfl⟩

/-- A pool that does not carry out launches at once takes a launch or gives its slot back. -/
theorem submit_lazy (hlazy : c.isEager = false) (t : Template) (f : Fleet σ) :
    ∃ r g, c.submit t f = (.ok r, g) ∧
      ((r = .ok f.pool.next ∧ Alike { f with pool := f.pool.push t } g) ∨
        ∃ reason, r = .error reason ∧
          Alike { f with ledger := f.ledger.release t.imageId } g) := by
  obtain ⟨reason, w, hw, -⟩ := c.refusal?_ok f
  cases reason with
  | some reason =>
    refine ⟨_, { f with cloud := w, ledger := f.ledger.release t.imageId }, ?_,
      .inr ⟨reason, rfl, rfl, rfl, rfl⟩⟩
    simp [Controller.submit, hw, Controller.release, Fleet.changeLedger]
  | none =>
    refine ⟨_, { f with cloud := w, pool := f.pool.push t }, ?_, .inl ⟨rfl, rfl, rfl, rfl⟩⟩
    simp [Controller.submit, hw, Fleet.changePool, hlazy]

/-- By induction on the launches still wanted: each is handed in before the rest, or the plan ends
here with nothing changed. -/
theorem launchUpTo_handed (hlazy : c.isEager = false)
    (hcount : ∀ image, FailsAsProvider (c.provider.count image)) (label : String) (t : Template)
    (units : Nat) (f : Fleet σ) :
    ∃ plan g, c.launchUpTo label t units f = (.ok plan, g) ∧ plan.length ≤ units ∧
      Handed t plan f g := by
  induction units generalizing f with
  | zero => exact ⟨[], f, rfl, le_rfl, .nil ⟨rfl, rfl, rfl⟩⟩
  | succ n ih =>
    obtain ⟨granted, g, hg, hlike⟩ := reserve_soft hcount label t f
    cases granted with
    | false =>
      refine ⟨[], g, ?_, Nat.zero_le _, .nil hlike⟩
      simp [Controller.launchUpTo, Controller.launchThen, hg]
    | true =>
      rw [if_pos rfl] at hlike
      obtain ⟨r, g', hs, ⟨rfl, hlike'⟩ | ⟨reason, rfl, hlike'⟩⟩ := submit_lazy hlazy t g
      · obtain ⟨plan, g'', hrest, hlen, hplan⟩ := ih g'
        have hfirst :
            Alike { f with ledger := f.ledger.take t.imageId, pool := f.pool.push t } g' :=
          ⟨hlike'.roster.trans hlike.roster, by rw [hlike'.pool, hlike.pool],
            hlike'.ledger.trans hlike.ledger⟩
        rw [hlike.pool] at hs
        refine ⟨⟨t.name, t.executors.val, f.pool.next⟩ :: plan, g'', ?_, ?_,
          (hplan.congr hfirst ⟨rfl, rfl, rfl⟩).cons⟩
        · simp [Controller.launchUpTo, Controller.launchThen, hg, hs, hrest]
        · rw [List.length_cons]
          omega
      · -- The slot was taken for nothing, and giving it back restores the ledger.
        have hback : Alike f g' :=
          ⟨hlike'.roster.trans hlike.roster, hlike'.pool.trans hlike.pool, by
            rw [hlike'.ledger, hlike.ledger]
            exact Ledger.release_take _ _⟩
        have hend : ∃ log, c.launchUpTo label t (n + 1) f = (.ok [], { g' with log }) :=
          ⟨_, by
            simp [Controller.launchUpTo, Controller.launchThen, hg, hs, Fleet.note]
            rfl⟩
        obtain ⟨log, hl⟩ := hend
        exact ⟨[], _, hl, Nat.zero_le _, .nil (hback.trans ⟨rfl, rfl, rfl⟩)⟩

/-! ### The whole decision -/

/-- One launch fewer than the least number does not cover the need. -/
theorem lt_of_lt_unitsFor {t : Template} {need : Int} {n : Nat} (hn : n < unitsFor t need) :
    ((n * t.executors.val : Nat) : Int) < need := by
  have hpos := t.executors.property
  have hmul : (n + 1) * t.executors.val ≤ need.toNat + t.executors.val - 1 :=
    (Nat.le_div_iff_mul_le hpos).mp hn
  rw [Nat.succ_mul] at hmul
  omega

theorem pendingAmong_soft (hstate : ∀ id, FailsAsProvider (c.provider.requestState id))
    (nodes : List Node) (f : Fleet σ) {e : Failure} (h : (c.pendingAmong nodes f).1 = .error e) :
    ∃ detail, e = .provider detail := by
  induction nodes generalizing f with
  | nil => simp [Controller.pendingAmong] at h
  | cons n rest ih =>
    unfold Controller.pendingAmong at h
    cases hn : n.awaitedRequest? with
    | none =>
      rw [hn] at h
      exact ih f h
    | some id =>
      simp only [hn, Fleet.consult, Action.bind_apply, Action.onPart_apply] at h
      rcases hs : c.provider.requestState id f.cloud with ⟨e' | state, w⟩
      · obtain rfl : e' = e := by simpa [hs] using h
        exact hstate id f.cloud e' (by rw [hs])
      · simp only [hs] at h
        rcases hr : c.pendingAmong rest { f with cloud := w } with ⟨e' | more, g⟩
        · obtain rfl : e' = e := by simpa [hr] using h
          exact ih { f with cloud := w } (by rw [hr])
        · simp [hr] at h

/-- What is missing is found out, or trouble makes it nothing; that is all that happens. -/
theorem assess_soft (hstate : ∀ id, FailsAsProvider (c.provider.requestState id)) (label : String)
    (excess : Int) (f : Fleet σ) :
    ∃ found g, settlingFor none label (c.assess label excess) f = (.ok found, g) ∧ Alike f g ∧
      ∀ t need, found = some (t, need) → c.catalog.forLabel? (some label) = some t ∧
        ∃ pending, (c.pendingAmong (f.roster.withLabel label) f).1 = .ok pending ∧
          need = needFor t label excess pending f := by
  obtain ⟨r, w, hr⟩ := c.pendingAmong_of_cloud (f.roster.withLabel label) f.cloud
  have hp := hr f rfl
  cases r with
  | error e =>
    obtain ⟨detail, rfl⟩ := pendingAmong_soft hstate _ f (congrArg Prod.fst hp)
    obtain ⟨log, hs⟩ := Controller.settlingFor_of_provider none label
      (c.assess_of_error label excess hp)
    exact ⟨none, _, hs, ⟨rfl, rfl, rfl⟩, fun t need h => by simp at h⟩
  | ok pending =>
    obtain ⟨log, ha⟩ := c.assess_of_pending label excess hp
    refine ⟨_, _, Controller.settlingFor_of_ok none label ha, ⟨rfl, rfl, rfl⟩, fun t need h => ?_⟩
    obtain ⟨s, hs, hneed⟩ := Option.map_eq_some_iff.mp h
    obtain ⟨rfl, rfl⟩ := Prod.mk.inj hneed
    exact ⟨hs, pending, congrArg Prod.fst hp, rfl⟩

/-- **A decision always ends with a plan**, whatever the provider answers, however often it fails
and whenever the pool refuses a launch.  Without a template nothing has happened.  Otherwise the
plan is exactly what was handed in, and all its launches but the last together have fewer executors
than are missing. -/
theorem decide_plans (hlazy : c.isEager = false)
    (hcount : ∀ image, FailsAsProvider (c.provider.count image))
    (hstate : ∀ id, FailsAsProvider (c.provider.requestState id)) (label : String) (excess : Int)
    (f : Fleet σ) :
    ∃ plan g, c.decide label excess f = (.ok plan, g) ∧
      match c.catalog.forLabel? (some label) with
      | none => plan = [] ∧ Alike f g
      | some t => Handed t plan f g ∧ (plan ≠ [] → ∃ pending,
          (c.pendingAmong (f.roster.withLabel label) f).1 = .ok pending ∧
          (((plan.dropLast.map (·.executors)).sum : Nat) : Int) <
            needFor t label excess pending f) := by
  -- A decision starts with an entry in the log, which nothing that follows depends on.
  obtain ⟨log, hnote⟩ : ∃ log, Fleet.note .info
      s!"Excess workload start for '{label}': {excess}" f = (.ok (), { f with log }) := ⟨_, rfl⟩
  obtain ⟨found, g, hg, hlike, hfound⟩ := assess_soft hstate label excess { f with log }
  have hfg : Alike f g := ⟨hlike.roster, hlike.pool, hlike.ledger⟩
  unfold Controller.decide
  simp only [Action.bind_apply, hnote, hg]
  cases found with
  | none =>
    refine ⟨[], g, rfl, ?_⟩
    cases c.catalog.forLabel? (some label) with
    | none => exact ⟨rfl, hfg⟩
    | some t => exact ⟨.nil hfg, fun h => absurd rfl h⟩
  | some found =>
    obtain ⟨t, need⟩ := found
    obtain ⟨hlabel, pending, hpending, hneed⟩ := hfound t need rfl
    obtain ⟨plan, g', hplan, hlen, hhanded⟩ :=
      launchUpTo_handed hlazy hcount label t (unitsFor t need) g
    simp only [Action.bind_apply, Controller.launchWhile_eq, hplan]
    have hsame : (c.pendingAmong (f.roster.withLabel label) f).1 = .ok pending := by
      have hlog :=
        c.pendingAmong_congr (f.roster.withLabel label) (f := f) (g := { f with log }) rfl
      exact hlog.symm.trans hpending
    rw [hlabel]
    by_cases hne : plan = []
    · subst hne
      exact ⟨[], g', rfl, hhanded.congr hfg ⟨rfl, rfl, rfl⟩, fun h => absurd rfl h⟩
    · have hpos : 0 < plan.length := List.length_pos_iff.mpr hne
      rw [if_pos (by simpa using hne)]
      refine ⟨plan, _, rfl, hhanded.congr hfg ⟨rfl, rfl, rfl⟩, fun _ => ⟨pending, hsame, ?_⟩⟩
      have hlt : (((plan.length - 1) * t.executors.val : Nat) : Int) < need :=
        lt_of_lt_unitsFor (by omega)
      rw [hhanded.executors_dropLast]
      rw [hneed] at hlt
      exact hlt

/-- Controllers whose pool closes after the first launch. -/
def hesitant : Controller SmallCloud :=
  { Controller.small [.plain "a" "ami-1" "linux" 9] 9 with
    refuses := fun w => (if w.answers < 6 then some Controller.closedText else none, w) }

/-- Of three launches that are wanted, the first is handed in and the second is refused. -/
theorem decide_plans_hesitant :
    ∃ g, hesitant.decide "linux" 3 (.fresh ⟨[], 0, 8⟩ ⟨0⟩) = (.ok [⟨"a", 1, 0⟩], g) ∧
      Handed (.plain "a" "ami-1" "linux" 9) [⟨"a", 1, 0⟩] (.fresh ⟨[], 0, 8⟩ ⟨0⟩) g := by
  have hcount : ∀ image, FailsAsProvider (hesitant.provider.count image) := by
    rintro image ⟨instances, stock, _ | answers⟩ e h
    · exact ⟨_, (Except.error.inj h).symm⟩
    · cases h
  have hstate : ∀ id, FailsAsProvider (hesitant.provider.requestState id) := by
    intro id w e h
    cases h
  obtain ⟨plan, g, hd, hplan⟩ :=
    decide_plans rfl hcount hstate "linux" 3 (.fresh ⟨[], 0, 8⟩ ⟨0⟩)
  have hlabel : hesitant.catalog.forLabel? (some "linux") =
      some (.plain "a" "ami-1" "linux" 9) := by decide +kernel
  have hfirst : (hesitant.decide "linux" 3 (.fresh ⟨[], 0, 8⟩ ⟨0⟩)).1 =
      .ok [⟨"a", 1, 0⟩] := by decide +kernel
  rw [hlabel] at hplan
  rw [hd] at hfirst
  obtain rfl : plan = [⟨"a", 1, 0⟩] := Except.ok.inj hfirst
  exact ⟨g, hd, hplan.1⟩

end BuildFleet
