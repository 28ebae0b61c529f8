/-
Caps over courses of events.

With a cloud that counts exactly, instances and slots together stay within the caps from one
operation to the next: **`live_run_le`**.

While a launch waits for its instance to run, the instance is counted and its slot is still taken,
so in the middle of an operation the bound is exceeded by the slots that have an instance.  This is
what **`WithinCaps`** says; between two operations there are no such slots.
-/
import BuildFleet.Proofs.Accounts
import Mathlib.Data.List.MinMax

namespace BuildFleet

variable {σ : Type} {c : Controller σ} {live : σ → Multiset String}

/-- The largest cap among the templates of an image, and zero if there is none. -/
def Catalog.largestCap (c : Catalog) (image : String) : Nat :=
  ((c.templates.filter (·.imageId = image)).map (·.instanceCap)).foldr max 0

theorem Catalog.instanceCap_le_largestCap {c : Catalog} {t : Template} (ht : t ∈ c.templates) :
    t.instanceCap ≤ c.largestCap t.imageId := by
  have hmem : t.instanceCap ∈
      (c.templates.filter (·.imageId = t.imageId)).map (·.instanceCap) :=
    List.mem_map_of_mem (List.mem_filter.mpr ⟨ht, by simp⟩)
  exact List.le_max_of_le' 0 hmem le_rfl

/-- Instances and slots together exceed the bounds, on all images and on each one, by no more than
the slots that have an instance. -/
def WithinCaps (live : σ → Multiset String) (bounds : Option String → Int) (h : Hand)
    (f : Fleet σ) : Prop :=
  ∀ which, (numberIn which (live f.cloud) + f.ledger.slotsOf which : Int) ≤
    bounds which + numberIn which h.backed

/-- The bounds are no smaller than the caps. -/
structure Covers (c : Controller σ) (bounds : Option String → Int) : Prop where
  total : c.instanceCap ≤ bounds none
  image : ∀ t ∈ c.catalog.templates, t.instanceCap ≤ bounds (some t.imageId)

/-- The caps, or the numbers of instances at the start where these are larger. -/
def bounds (c : Controller σ) (start : Multiset String) : Option String → Int
  | none => max c.instanceCap start.card
  | some image => (max (start.count image) (c.catalog.largestCap image) : Nat)

theorem covers_bounds (c : Controller σ) (start : Multiset String) : Covers c (bounds c start) where
  total := le_max_left _ _
  image t ht := by
    have := Catalog.instanceCap_le_largestCap ht
    rw [bounds]
    omega

namespace WithinCaps

variable {bounds : Option String → Int} {h : Hand} {f : Fleet σ}

/-- Fewer instances do no harm. -/
theorem shrink (hw : WithinCaps live bounds h f) {w : σ} (hle : live w ≤ live f.cloud) :
    WithinCaps live bounds h { f with cloud := w } := by
  intro which
  have := numberIn_mono hle which
  have := hw which
  show (numberIn which (live w) + f.ledger.slotsOf which : Int) ≤ _
  omega

/-- A slot that is granted fits under both caps, because what is counted is at least what is
there. -/
theorem take (hw : WithinCaps live bounds h f) (hn : Census c live) (hb : Covers c bounds)
    {t : Template} (ht : t ∈ c.catalog.templates) {n m : Nat} {w w' : σ}
    (htotal : c.provider.count none f.cloud = (.ok n, w))
    (himage : c.provider.count (some t.imageId) w = (.ok m, w'))
    (hr : f.ledger.refusal? t.imageId ⟨n, m⟩ ⟨c.instanceCap, t.instanceCap⟩ = none) :
    WithinCaps live bounds (h.addBare t.imageId)
      { f with cloud := w', ledger := f.ledger.take t.imageId } := by
  have hle : live w ≤ live f.cloud := by
    simpa only [htotal] using hn.asked (.count none f.cloud)
  have hle' : live w' ≤ live w := by
    simpa only [himage] using hn.asked (.count (some t.imageId) w)
  obtain ⟨hcap, hcap'⟩ := Ledger.refusal?_eq_none.mp hr
  intro which
  show (numberIn which (live w') + (f.ledger.take t.imageId).slotsOf which : Int) ≤
    bounds which + numberIn which h.backed
  rw [Ledger.slotsOf_take]
  cases which with
  | none =>
    have := (hn.exact htotal).1
    have := numberIn_mono hle' none
    have := hb.total
    simp only [Ledger.slotsOf, hit_none] at *
    omega
  | some image =>
    by_cases ho : image = t.imageId
    · subst ho
      have := (hn.exact himage).1
      have := hb.image t ht
      simp only [Ledger.slotsOf, hit_self] at *
      omega
    · -- The counts of the other images have not gone up.
      have := numberIn_mono (hle'.trans hle) (some image)
      have := hw (some image)
      rw [hit_of_ne ho]
      omega

theorem move (hn : Census c live) (hb : Covers c bounds) {x y : Hand × Fleet σ}
    (hm : Move c (Shrinks live) x y) (hx : Balanced x.1 x.2)
    (hw : WithinCaps live bounds x.1 x.2) : WithinCaps live bounds y.1 y.2 := by
  -- A slot in hand is in use, so that the slots really become fewer when it is given back.
  have hpos : ∀ image, 0 < x.1.count image → 0 < x.2.ledger.inFlight image := by
    intro image hi
    rw [hx.slots image]
    omega
  cases hm with
  | still ledger _ cloud =>
    intro which
    rw [ledger, cloud]
    exact hw which
  | drift hd => exact hw.shrink (hn.drift hd)
  | take ht htotal himage hr => exact hw.take hn hb ht htotal himage hr
  | push => exact hw
  | pick _ _ => exact hw
  | settle _ _ => exact hw
  | @launch h f t handle w hl =>
    -- The new instance is counted from here on, and so is its slot.
    intro which
    have hnumber := numberIn_mono (hn.launched hl) which
    have := hw which
    simp only [Hand.addBare, Hand.addBacked, numberIn_cons] at *
    omega
  | fail hl => exact hw.shrink (hn.refused hl)
  | @giveBare h f image =>
    intro which
    have hin : 0 < f.ledger.inFlight image :=
      hpos image (by rw [Hand.count_addBare, if_pos rfl]; omega)
    have := Ledger.slotsOf_release hin which
    have := hw which
    simp only [Hand.addBare] at *
    omega
  | @giveBacked h f image =>
    intro which
    have hin : 0 < f.ledger.inFlight image :=
      hpos image (by rw [Hand.count_addBacked, if_pos rfl]; omega)
    have := Ledger.slotsOf_release hin which
    have := hw which
    simp only [Hand.addBacked, numberIn_cons] at *
    omega

theorem moves (hn : Census c live) (hb : Covers c bounds) {x y : Hand × Fleet σ}
    (hm : Moves c (Shrinks live) x y) (hx : Balanced x.1 x.2)
    (hw : WithinCaps live bounds x.1 x.2) : WithinCaps live bounds y.1 y.2 := by
  induction hm with
  | refl => exact hw
  | tail hfirst hlast ih => exact ih.move hn hb hlast (hx.moves hfirst)

end WithinCaps

/-- **The caps hold over every course of events**, if the cloud counts exactly and instances come
into being only by launches: between two operations the instances and the slots in use together are
no more than the cap on all of them, or than there were instances at the start; and those of an
image are no more than there were at the start, or than the largest cap of its templates. -/
theorem live_run_le (hn : Census c live) (hc : c.Orderly (Shrinks live))
    {events : List (Event σ)} (he : ∀ e ∈ events, e.Within (Shrinks live)) {f : Fleet σ}
    (hl : f.ledger = .empty) (hp : ∀ image, f.pool.waiting image = 0) :
    ((live (c.run events f).cloud).card + (c.run events f).ledger.total : Int) ≤
        max c.instanceCap (live f.cloud).card ∧
      ∀ image, (live (c.run events f).cloud).count image +
          (c.run events f).ledger.inFlight image ≤
        max ((live f.cloud).count image) (c.catalog.largestCap image) := by
  have hx : Balanced .none f := ⟨fun image => by simp [hl, hp], by simp [hl, Ledger.empty]⟩
  have hstart : WithinCaps live (bounds c (live f.cloud)) .none f := by
    intro which
    rw [hl]
    cases which with
    | none => simp [numberIn, Ledger.slotsOf, Hand.none, bounds]
    | some image => simp [numberIn, Ledger.slotsOf, Hand.none, bounds]
  have hend := hstart.moves hn (covers_bounds c _) (moves_run hc he f) hx
  refine ⟨?_, fun image => ?_⟩
  · simpa [numberIn, Ledger.slotsOf, Hand.none, bounds] using hend none
  · have := hend (some image)
    simp only [numberIn, Ledger.slotsOf, Hand.none, bounds, Multiset.count_zero] at this
    omega

/-- Two templates with one image and different caps. -/
def twoCaps : Controller SmallCloud :=
  .small [.plain "a" "ami-1" "linux" 1, .plain "b" "ami-1" "metal" 3] 5

/-- The larger cap is reached with two launches and one that still waits; an instance disappears,
and the template with the smaller cap is refused. -/
def twoCapsEnd : Fleet SmallCloud :=
  twoCaps.run [.demand "metal" 5, .carryOut 0, .carryOut 1,
    .elsewhere (fun w => { w with instances := w.instances.tail }) ⟨0⟩ id, .demand "linux" 1]
    (.fresh ⟨["ami-2"], 2, 20⟩ ⟨0⟩)

theorem live_run_le_twoCaps :
    (twoCapsEnd.cloud.live.card + twoCapsEnd.ledger.total : Int) ≤ 5 ∧
      twoCapsEnd.cloud.live.count "ami-1" + twoCapsEnd.ledger.inFlight "ami-1" ≤ 3 ∧
      twoCapsEnd.ledger.inFlight "ami-1" = 1 := by
  have he : ∀ e ∈ [Event.demand "metal" 5, .carryOut 0, .carryOut 1,
      .elsewhere (fun w => { w with instances := w.instances.tail }) ⟨0⟩ id, .demand "linux" 1],
      e.Within (Shrinks SmallCloud.live) := by
    intro e he
    simp only [List.mem_cons, List.not_mem_nil, or_false] at he
    rcases he with rfl | rfl | rfl | rfl | rfl
    · trivial
    · trivial
    · trivial
    · exact fun w => (List.tail_sublist w.instances).subperm
    · trivial
  obtain ⟨htotal, himage⟩ := live_run_le (census_small _ 5)
    (c := twoCaps) (.still rfl) he (f := .fresh ⟨["ami-2"], 2, 20⟩ ⟨0⟩) rfl fun _ => rfl
  rw [twoCapsEnd]
  refine ⟨?_, ?_, by decide +kernel⟩
  · refine le_trans htotal ?_
    decide +kernel
  · refine le_trans (himage "ami-1") ?_
    decide +kernel

end BuildFleet
