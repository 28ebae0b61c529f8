/-
The ledger of launches in flight.

The provider's listing lags behind what has been asked of it, so every launch that has been decided
on but has not come to an end takes a slot here.  A slot is taken only while the instances that the
provider counts and the slots together stay below the caps.  A slot that is given back without being
in use changes no count; that it happened is kept in mind.

* **`Ledger.inFlight`**, **`Ledger.total`** — the slots of an image, and all of them;
* **`Ledger.refusal?`** — the cap that forbids one more launch;
* **`Ledger.take`**, **`Ledger.release`** — take a slot, give one back.
-/
namespace BuildFleet

/-- The slots in use, each as the image that is being launched, and an account of the slots that
were given back without being in use. -/
structure Ledger where
  slots : List String
  /-- How often a slot was given back that was not in use. -/
  surplus : Nat
deriving DecidableEq, Repr

/-- How many instances the provider counted. -/
structure Counted where
  /-- Of all images. -/
  total : Nat
  /-- Of the image in question. -/
  image : Nat
deriving DecidableEq, Repr

/-- The most instances that there may be. -/
structure Caps where
  /-- Of all images. -/
  total : Int
  /-- Of the image in question. -/
  image : Int
deriving DecidableEq, Repr

/-- The cap that forbids a launch. -/
inductive Refusal where
  /-- There are too many instances. -/
  | total
  /-- There are too many instances of the image. -/
  | image
deriving DecidableEq, Repr

namespace Ledger

/-- A ledger without slots in use. -/
def empty : Ledger := ⟨[], 0⟩

/-- The slots in use for an image. -/
def inFlight (l : Ledger) (image : String) : Nat := l.slots.count image

/-- The slots in use. -/
def total (l : Ledger) : Nat := l.slots.length

/-- Instances and slots together. -/
def estimate (l : Ledger) (image : String) (counted : Counted) : Counted :=
  ⟨counted.total + l.total, counted.image + l.inFlight image⟩

/-- The cap that forbids one more launch of an image; the one on all images comes first. -/
def refusal? (l : Ledger) (image : String) (counted : Counted) (caps : Caps) : Option Refusal :=
  let estimated := l.estimate image counted
  if caps.total ≤ estimated.total then some .total
  else if caps.image ≤ estimated.image then some .image
  else none

/-- Takes a slot for an image. -/
def take (l : Ledger) (image : String) : Ledger := { l with slots := image :: l.slots }

/-- Gives a slot for an image back, if there is one. -/
def release (l : Ledger) (image : String) : Ledger :=
  if image ∈ l.slots then { l with slots := l.slots.erase image }
  else { l with surplus := l.surplus + 1 }

/-- Takes a slot for an image unless a cap forbids it. -/
def takeWithin (l : Ledger) (image : String) (counted : Counted) (caps : Caps) : Bool × Ledger :=
  if (l.refusal? image counted caps).isNone then (true, l.take image) else (false, l)

/-- No cap forbids a launch if what is there and in flight stays below both. -/
theorem refusal?_eq_none {l : Ledger} {image : String} {counted : Counted} {caps : Caps} :
    l.refusal? image counted caps = none ↔
      ((counted.total + l.total : Nat) : Int) < caps.total ∧
        ((counted.image + l.inFlight image : Nat) : Int) < caps.image := by
  show refusal? l image counted caps = none ↔
    ((l.estimate image counted).total : Int) < caps.total ∧
      ((l.estimate image counted).image : Int) < caps.image
  rw [refusal?, ← Int.not_le, ← Int.not_le]
  by_cases ht : caps.total ≤ (l.estimate image counted).total
  · simp [ht]
  · by_cases hi : caps.image ≤ (l.estimate image counted).image
    · simp [ht, hi]
    · simp [ht, hi]

/-! ### What the operations do to the counts -/

@[simp]
theorem inFlight_empty (image : String) : empty.inFlight image = 0 := rfl

@[simp]
theorem total_empty : empty.total = 0 := rfl

theorem inFlight_take (l : Ledger) (image other : String) :
    (l.take image).inFlight other = l.inFlight other + if image = other then 1 else 0 := by
  simp [take, inFlight, List.count_cons]

@[simp]
theorem total_take (l : Ledger) (image : String) : (l.take image).total = l.total + 1 := rfl

@[simp]
theorem surplus_take (l : Ledger) (image : String) : (l.take image).surplus = l.surplus := rfl

theorem inFlight_pos {l : Ledger} {image : String} : 0 < l.inFlight image ↔ image ∈ l.slots :=
  List.count_pos_iff

theorem inFlight_release (l : Ledger) (image other : String) :
    (l.release image).inFlight other = l.inFlight other - if image = other then 1 else 0 := by
  by_cases h : image ∈ l.slots
  · rw [release, if_pos h]
    simp only [inFlight, List.count_erase, beq_iff_eq]
  · rw [release, if_neg h]
    by_cases ho : image = other
    · have hz : l.slots.count other = 0 := List.count_eq_zero.mpr (ho ▸ h)
      simp [inFlight, hz]
    · simp [inFlight, ho]

/-- A slot that is in use is given back for good. -/
theorem total_release {l : Ledger} {image : String} (h : 0 < l.inFlight image) :
    (l.release image).total + 1 = l.total := by
  have hm : image ∈ l.slots := inFlight_pos.mp h
  have hl : 0 < l.slots.length := List.length_pos_of_mem hm
  simp only [release, if_pos hm, total, List.length_erase_of_mem hm]
  omega

/-- Nothing is given back in vain as long as the slot is in use. -/
theorem surplus_release {l : Ledger} {image : String} (h : 0 < l.inFlight image) :
    (l.release image).surplus = l.surplus := by
  rw [release, if_pos (inFlight_pos.mp h)]

/-- A slot that is given back right after it was taken leaves no trace. -/
@[simp]
theorem release_take (l : Ledger) (image : String) : (l.take image).release image = l := by
  simp [release, take]

end Ledger

end BuildFleet
