/-
The account of the slots.

Slots are taken in two places and given back in three.  **`inFlight_run`** says that nevertheless,
whenever no operation is under way, the slots of an image are exactly the launches of it that wait
for their turn.

The invariant behind it, **`Balanced`**, also holds in the middle of an operation, because it counts
the slots in hand.
-/
import BuildFleet.Proofs.Census
import BuildFleet.Proofs.Operations
import Mathlib.Algebra.BigOperators.Group.Finset.Basic

namespace BuildFleet

variable {σ : Type} {c : Controller σ} {allowed : (σ → σ) → Prop}

/-! ### The total -/

/-- The slots in use are those of all images together. -/
theorem Ledger.total_eq_sum (l : Ledger) {images : Finset String}
    (h : ∀ image, 0 < l.inFlight image → image ∈ images) :
    l.total = ∑ image ∈ images, l.inFlight image := by
  have hsub : l.slots.toFinset ⊆ images := by
    intro image hi
    exact h image (inFlight_pos.mpr (List.mem_toFinset.mp hi))
  have hzero : ∀ image ∈ images, image ∉ l.slots.toFinset → l.inFlight image = 0 := by
    intro image _ hi
    exact List.count_eq_zero.mpr fun hm => hi (List.mem_toFinset.mpr hm)
  calc l.total = ∑ image ∈ l.slots.toFinset, l.inFlight image :=
        (List.sum_toFinset_count_eq_length l.slots).symm
    _ = ∑ image ∈ images, l.inFlight image := Finset.sum_subset hsub hzero

/-! ### The invariant -/

/-- The slots in hand for an image. -/
def Hand.count (h : Hand) (image : String) : Nat := h.bare.count image + h.backed.count image

@[simp]
theorem Hand.count_none (image : String) : Hand.none.count image = 0 := rfl

theorem Hand.count_addBare (h : Hand) (image other : String) :
    (h.addBare image).count other = h.count other + if image = other then 1 else 0 := by
  simp only [count, addBare, Multiset.count_cons, eq_comm (a := other)]
  omega

theorem Hand.count_addBacked (h : Hand) (image other : String) :
    (h.addBacked image).count other = h.count other + if image = other then 1 else 0 := by
  simp only [count, addBacked, Multiset.count_cons, eq_comm (a := other)]
  omega

/-- Every slot belongs to a launch that waits, or it is in hand, and none was ever given back that
was not in use. -/
structure Balanced (h : Hand) (f : Fleet σ) : Prop where
  slots : ∀ image, f.ledger.inFlight image = f.pool.waiting image + h.count image
  surplus : f.ledger.surplus = 0

namespace Balanced

variable {h : Hand} {f : Fleet σ} {image : String}

/-- A slot in hand is in use, so that it can be given back. -/
theorem release {g : Hand} (hb : Balanced g f)
    (hg : ∀ other, g.count other = h.count other + if image = other then 1 else 0) :
    Balanced h { f with ledger := f.ledger.release image } := by
  refine ⟨fun other => ?_, ?_⟩
  · rw [Ledger.inFlight_release, hb.slots other, hg other]
    show f.pool.waiting other + _ - _ = f.pool.waiting other + _
    omega
  · have hpos : 0 < f.ledger.inFlight image := by
      rw [hb.slots image, hg image, if_pos rfl]
      omega
    exact (Ledger.surplus_release hpos).trans hb.surplus

theorem move {x y : Hand × Fleet σ} (hm : Move c allowed x y) (hb : Balanced x.1 x.2) :
    Balanced y.1 y.2 := by
  cases hm with
  | still ledger launches _ =>
    refine ⟨fun image => ?_, by rw [ledger]; exact hb.surplus⟩
    rw [ledger, hb.slots image, Pool.waiting, Pool.waiting, launches]
  | drift _ => exact ⟨hb.slots, hb.surplus⟩
  | @take h f t =>
    refine ⟨fun image => ?_, hb.surplus⟩
    have := hb.slots image
    simp only [Ledger.inFlight_take, Hand.count_addBare] at *
    omega
  -- A slot in hand becomes one that a waiting launch has, and the other way round.
  | @push h f t =>
    refine ⟨fun image => ?_, hb.surplus⟩
    have := hb.slots image
    simp only [Pool.waiting_push, Hand.count_addBare] at *
    omega
  | @pick h f k t progress hk hp =>
    refine ⟨fun image => ?_, hb.surplus⟩
    have := hb.slots image
    have := Pool.waiting_record_of_queued hk hp image
    simp only [Hand.count_addBare] at *
    omega
  -- The end of a launch has no slot to it: that one went into the hand when it was taken up.
  | settle hk hp =>
    refine ⟨fun image => ?_, hb.surplus⟩
    rw [Pool.waiting_record_of_started hk hp]
    exact hb.slots image
  | @launch h f t =>
    refine ⟨fun image => ?_, hb.surplus⟩
    rw [hb.slots image, Hand.count_addBare, Hand.count_addBacked]
  | fail _ => exact ⟨hb.slots, hb.surplus⟩
  | @giveBare h f image => exact hb.release (h.count_addBare image)
  | @giveBacked h f image => exact hb.release (h.count_addBacked image)

theorem moves {x y : Hand × Fleet σ} (hm : Moves c allowed x y) (hb : Balanced x.1 x.2) :
    Balanced y.1 y.2 := by
  induction hm with
  | refl => exact hb
  | tail _ hlast ih => exact ih.move hlast

end Balanced

/-- **The slots are exactly the launches that wait**: from an empty ledger and no launch that waits,
whatever happens in whatever order, the slots of each image are the launches of it that were handed
in and have neither been taken up nor been cancelled, all slots are those of the images together,
and no slot was ever given back that was not in use. -/
theorem inFlight_run (hc : c.Orderly fun _ => True) (events : List (Event σ)) {f : Fleet σ}
    (hl : f.ledger = .empty) (hp : ∀ image, f.pool.waiting image = 0) :
    (∀ image, (c.run events f).ledger.inFlight image = (c.run events f).pool.waiting image) ∧
      (∀ images : Finset String,
        (∀ image, 0 < (c.run events f).ledger.inFlight image → image ∈ images) →
        (c.run events f).ledger.total =
          ∑ image ∈ images, (c.run events f).ledger.inFlight image) ∧
      (c.run events f).ledger.surplus = 0 := by
  have hstart : Balanced .none f := ⟨fun image => by simp [hl, hp], by simp [hl, Ledger.empty]⟩
  have hmoves : Moves c (fun _ => True) (.none, f) (.none, c.run events f) :=
    moves_run hc (fun e _ => e.within_true) f
  have hend : Balanced .none (c.run events f) := hstart.moves hmoves
  refine ⟨fun image => ?_, fun images h => Ledger.total_eq_sum _ h, hend.surplus⟩
  rw [hend.slots image, Hand.count_none, Nat.add_zero]

/-- Two templates with one image, and launches during which another one is cancelled. -/
def sharedImage : Controller SmallCloud :=
  (Controller.small [.plain "a" "ami-1" "linux" 2, .plain "b" "ami-1" "metal" 3] 4).during
    [.cancel 1]

/-- Of four launches one comes up, one is cancelled twice, for one there is no stock, and one still
waits for its turn. -/
def sharedImageEnd : Fleet SmallCloud :=
  sharedImage.run [.demand "linux" 2, .demand "metal" 1, .carryOut 0, .demand "metal" 2,
    .carryOut 2, .cancel 1] (.fresh ⟨[], 1, 20⟩ ⟨0⟩)

theorem inFlight_run_sharedImage :
    (∀ image, sharedImageEnd.ledger.inFlight image = sharedImageEnd.pool.waiting image) ∧
      sharedImageEnd.pool.waiting "ami-1" = 1 ∧ sharedImageEnd.ledger.surplus = 0 := by
  have hc : sharedImage.Orderly fun _ => True := .during (.still rfl) fun e _ => e.within_true
  obtain ⟨hslots, -, hsurplus⟩ := inFlight_run hc
    [.demand "linux" 2, .demand "metal" 1, .carryOut 0, .demand "metal" 2, .carryOut 2, .cancel 1]
    (f := .fresh ⟨[], 1, 20⟩ ⟨0⟩) rfl fun _ => rfl
  exact ⟨hslots, by decide +kernel, hsurplus⟩

end BuildFleet
