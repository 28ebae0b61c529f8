/-
The number of launches of a decision.

What a decision plans comes to one number: the executors that are missing, in whole instances and
rounded up, as far as both caps leave room.

* **`Fleet.missing`** — how many executors are missing for a label, with the nodes that may still
  come up counted as if they were there;
* **`headroom`** — how many instances a cap leaves room for;
* **`decide_quantity`** — the launches of a decision are the least of the three numbers, all for the
  template that serves the label, and they are what the ledger grows by.
-/
import BuildFleet.Proofs.Need
import Mathlib.Algebra.Order.Floor.Defs
import Mathlib.Algebra.Order.Floor.Ring
import Mathlib.Data.Rat.Floor
import Mathlib.Tactic.Linarith
import Mathlib.Tactic.FieldSimp

namespace BuildFleet

open Controller (needFor unitsFor executorsOf shortfall)

variable {σ : Type} {c : Controller σ}

/-! ### What is missing -/

/-- The registered nodes with a label string that are not connected and whose spot requests, as far
as they have one, are open or active. -/
def Roster.promised (r : Roster) (label : String) (s : Scene) : List Node :=
  r.registered.filter fun n =>
    n.labelString = label ∧ n.isOnline = false ∧ n.spotRequest ≠ none ∧ n.spotRequest ≠ some "" ∧
      (s.request (n.spotRequest.getD "") = .opened ∨ s.request (n.spotRequest.getD "") = .active)

/-- The registered nodes with a label string that are connected and have an executor to spare. -/
def Roster.idleNodes (r : Roster) (label : String) : List Node :=
  r.registered.filter fun n => n.labelString = label ∧ n.isOnline = true ∧ n.busy < n.executors

/-- How many executors are missing for a label: what is asked for, less what may still come up, and,
if the primed target counts, as many nodes of the template as the idle ones fall short of it.  The
nodes that may still come up are taken off the idle ones. -/
def Fleet.missing (s : Scene) (t : Template) (label : String) (excess : Int) (primed : Bool)
    (f : Fleet σ) : Int :=
  let promised := f.roster.promised label s
  let idle : Int := (f.roster.idleNodes label).length
  let shortfall := max 0 (t.primed - (idle - promised.length))
  excess - (promised.map (·.executors)).sum + if primed then shortfall * t.executors.val else 0

/-- How many more instances a cap leaves room for. -/
def headroom (cap : Int) (counted inFlight : Nat) : Int := max 0 (cap - counted - inFlight)

/-- The instances for so many executors, rounded up, as far as both caps leave room. -/
def Controller.quantity (c : Controller σ) (s : Scene) (t : Template) (f : Fleet σ) (need : Int) :
    Int :=
  min (max 0 ⌈(need : ℚ) / t.executors.val⌉)
    (min (headroom c.instanceCap (s.number none) f.ledger.total)
      (headroom t.instanceCap (s.number (some t.imageId)) (f.ledger.inFlight t.imageId)))

theorem Roster.awaited_eq (r : Roster) (label : String) (s : Scene) :
    r.awaited label s = r.promised label s := by
  rw [awaited, withLabel, promised, List.filter_filter]
  refine List.filter_congr fun n _ => ?_
  have hpending : ∀ state : RequestState,
      state.isPending = decide (state = .opened ∨ state = .active) := by
    intro state
    cases state <;> rfl
  -- Whoever is connected, and whoever has no request, is on neither side.
  cases ho : n.isOnline with
  | true => simp [Node.isAwaited, Node.awaitedRequest?, ho]
  | false =>
    cases hs : n.spotRequest with
    | none => simp [Node.isAwaited, Node.awaitedRequest?, hs]
    | some id =>
      by_cases hid : id = ""
      · subst hid
        simp [Node.isAwaited, Node.awaitedRequest?, ho, hs]
      · have hsome : id.isEmpty = false := by simpa using hid
        simp [Node.isAwaited, Node.awaitedRequest?, ho, hs, hid, hsome, hpending, Bool.and_comm]

theorem Roster.spareCount_eq (r : Roster) (label : String) :
    r.spareCount label = (r.idleNodes label).length := by
  rw [spareCount, withLabel, List.countP_eq_length_filter, idleNodes, List.filter_filter]
  refine congrArg List.length (List.filter_congr fun n _ => ?_)
  simp [Node.isSpare, Node.hasIdleExecutor, Bool.and_comm]

theorem executorsOf_eq_sum (nodes : List Node) :
    executorsOf nodes = (nodes.map (·.executors)).sum := by
  induction nodes with
  | nil => rfl
  | cons n rest ih =>
    rw [List.map_cons, List.sum_cons, ← ih]
    rfl

theorem needFor_awaited (s : Scene) (t : Template) (label : String) (excess : Int) (f : Fleet σ) :
    needFor t label excess (f.roster.awaited label s) f =
      f.missing s t label excess (t.windows.isEmpty || t.windows.any (·.covers f.now)) := by
  rw [needFor, Fleet.missing, executorsOf_eq_sum, f.roster.awaited_eq, f.roster.spareCount_eq]
  rfl

/-! ### Whole instances -/

/-- The least number of nodes is the quotient, rounded up. -/
theorem unitsFor_eq_ceil (t : Template) (need : Int) :
    (unitsFor t need : Int) = max 0 ⌈(need : ℚ) / t.executors.val⌉ := by
  have hpos := t.executors.property
  rw [unitsFor]
  generalize t.executors.val = e at hpos ⊢
  have he : (0 : ℚ) < e := by exact_mod_cast hpos
  rcases Int.lt_or_le 0 need with hneed | hneed
  · -- The quotient of natural numbers lies less than one above the exact one.
    obtain ⟨n, rfl⟩ := Int.eq_ofNat_of_zero_le hneed.le
    have hceil : ⌈((n : Int) : ℚ) / e⌉ = ((n + e - 1) / e : Nat) := by
      have hlow : ((n + e - 1) / e) * e ≤ n + e - 1 := Nat.div_mul_le_self _ _
      have hhigh : n ≤ ((n + e - 1) / e) * e := by
        have := Nat.lt_div_mul_add (a := n + e - 1) hpos
        omega
      generalize (n + e - 1) / e = m at hlow hhigh ⊢
      rw [Int.ceil_eq_iff]
      constructor
      · rw [lt_div_iff₀ he]
        have hlt : m * e < n + e := by omega
        have hlt' : (m : ℚ) * e < n + e := by exact_mod_cast hlt
        push_cast
        linarith
      · rw [div_le_iff₀ he]
        exact_mod_cast hhigh
    rw [hceil, Int.toNat_natCast, max_eq_right (Int.natCast_nonneg _)]
  · -- Where nothing is needed, the quotient is not positive, and both sides are zero.
    have hzero : (need.toNat + e - 1) / e = 0 := by
      rw [Int.toNat_of_nonpos hneed, Nat.zero_add]
      exact Nat.div_eq_of_lt (Nat.sub_lt hpos Nat.one_pos)
    have hceil : ⌈(need : ℚ) / e⌉ ≤ 0 := by
      rw [Int.ceil_le, Int.cast_zero]
      exact div_nonpos_of_nonpos_of_nonneg (by exact_mod_cast hneed) he.le
    rw [hzero, max_eq_left hceil]
    rfl

/-- Room under both caps is the smaller headroom of the two. -/
theorem room_eq_headroom (c : Controller σ) (s : Scene) (t : Template) (f : Fleet σ) :
    (c.room (fun _ => s) t f : Int) =
      min (headroom c.instanceCap (s.number none) f.ledger.total)
        (headroom t.instanceCap (s.number (some t.imageId)) (f.ledger.inFlight t.imageId)) := by
  rw [Controller.room, headroom, headroom]
  omega

/-! ### The plan -/

/-- **A decision plans exactly what is needed and allowed**, as long as the provider answers every
question with the same numbers and states and the pool takes the launches and leaves them in the
queue.  What is planned is all for the template that serves the label, is what was handed in, and
is what the ledger grows by; if no template serves the label, nothing has happened. -/
theorem decide_quantity {s : Scene} {calm : Set σ} (hc : c.Calm s calm)
    (hwilling : ∀ w ∈ calm, (c.refuses w).1 = none) (label : String) (excess : Int) {f : Fleet σ}
    (hf : f.cloud ∈ calm) (ho : f.pool.isOpen = true) :
    ∃ plan g, c.decide label excess f = (.ok plan, g) ∧
      match c.catalog.forLabel? (some label) with
      | none => plan = [] ∧ Alike f g
      | some t =>
        (plan.length : Int) = c.quantity s t f
            (f.missing s t label excess (t.windows.isEmpty || t.windows.any (·.covers f.now))) ∧
          (∀ unit ∈ plan, unit.template = t.name ∧ unit.executors = t.executors.val) ∧
          g.pool.launches = f.pool.launches ++ List.replicate plan.length ⟨t, .queued⟩ ∧
          ∀ image, g.ledger.inFlight image =
            f.ledger.inFlight image + if t.imageId = image then plan.length else 0 := by
  cases ht : c.catalog.forLabel? (some label) with
  | none =>
    obtain ⟨w, -, hpending⟩ := hc.pendingAmong (f.roster.withLabel label) hf
    obtain ⟨log, hd⟩ := c.decide_of_pending excess hpending
    rw [ht] at hd
    exact ⟨[], _, hd, rfl, rfl, rfl, rfl⟩
  | some t =>
    obtain ⟨plan, g, hd, -, hlen, hhanded, -, -⟩ := hc.decide ht excess hf
    refine ⟨plan, g, hd, ?_, ?_, hhanded.launches, hhanded.inFlight⟩
    · have hneeded := needFor_awaited s t label excess f
      rw [Controller.quantity, ← hneeded, ← unitsFor_eq_ceil, ← room_eq_headroom,
        hlen ho hwilling, Fleet.needed]
      exact Nat.cast_min ..
    · intro unit hu
      rw [hhanded.units] at hu
      obtain ⟨i, -, rfl⟩ := List.mem_map.mp hu
      exact ⟨rfl, rfl⟩

/-- Instances with two executors each, of which one is to be kept ready. -/
def pairsOfExecutors : Controller AmpleCloud :=
  .ample [{ Template.primedPlain "a" "ami-1" "linux" 1 with executors := ⟨2, Nat.two_pos⟩ }] 4

/-- Seven executors would need four instances, but besides the one that is there the cap leaves room
for three. -/
theorem decide_quantity_pairsOfExecutors :
    ∃ plan g, pairsOfExecutors.decide "linux" 5 (.fresh ⟨["ami-1"], [], 0⟩ ⟨0⟩) = (.ok plan, g) ∧
      plan.length = 3 ∧ g.ledger.inFlight "ami-1" = 3 := by
  obtain ⟨plan, g, hd, hplan⟩ := decide_quantity
    ((patient_ample _ _).calm healthy_ample ⟨["ami-1"], [], 0⟩)
    (fun w _ => willing_ample _ _ w) "linux" 5 (c := pairsOfExecutors)
    (f := .fresh ⟨["ami-1"], [], 0⟩ ⟨0⟩) rfl rfl
  have ht : pairsOfExecutors.catalog.forLabel? (some "linux") = some
      { Template.primedPlain "a" "ami-1" "linux" 1 with executors := ⟨2, Nat.two_pos⟩ } := by
    decide +kernel
  rw [ht] at hplan
  obtain ⟨hlen, -, -, hgrown⟩ := hplan
  have hthree : (plan.length : Int) = 3 := hlen.trans (by decide +kernel)
  have hlength : plan.length = 3 := by exact_mod_cast hthree
  refine ⟨plan, g, hd, hlength, ?_⟩
  rw [hgrown "ami-1", hlength]
  rfl

/-- A template without windows is primed at all times: an instance is planned though no window
covers the moment and nothing would be missing without the primed target. -/
theorem decide_primes_without_windows :
    ∃ t f, primedOnce.catalog.forLabel? (some "linux") = some t ∧
      (t.windows.any (·.covers f.now)) = false ∧
      primedOnce.quantity f.cloud.view t f
        (f.missing f.cloud.view t "linux" 0 (t.windows.any (·.covers f.now))) = 0 ∧
      (primedOnce.decide "linux" 0 f).1 = .ok [⟨"a", 1, 0⟩] :=
  ⟨.primedPlain "a" "ami-1" "linux" 1, .fresh ⟨[], [], 0⟩ ⟨0⟩, by decide +kernel, by decide +kernel,
    by decide +kernel, by decide +kernel⟩

end BuildFleet
