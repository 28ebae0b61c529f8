/-
Clouds that count exactly.

What the controllers can know about the instances outside is what the provider counts.  `Census`
says that it counts them exactly, and that instances come into being only by a launch.

* **`numberIn`**, **`Ledger.slotsOf`** — instances and slots, of all images or of one;
* **`Census`** — the assumption, for a given reading of the world outside as a multiset of images;
* **`SmallCloud`**, **`Provider.small`** — a cloud that is a list of images, for which it holds.
-/
import BuildFleet.Proofs.Slots

namespace BuildFleet

variable {σ : Type}

/-! ### All images or one -/

/-- One, if a condition holds and the image is among those that are meant. -/
def hit (which : Option String) (image : String) (b : Bool) : Nat :=
  if which.all (· = image) && b then 1 else 0

@[simp]
theorem hit_false (which : Option String) (image : String) : hit which image false = 0 := by
  simp [hit]

@[simp]
theorem hit_none (image : String) : hit none image true = 1 := rfl

@[simp]
theorem hit_self (image : String) : hit (some image) image true = 1 := by
  simp [hit]

theorem hit_of_ne {image other : String} (h : other ≠ image) (b : Bool) :
    hit (some other) image b = 0 := by
  simp [hit, h]

theorem hit_le (which : Option String) (image : String) (b : Bool) :
    hit which image b ≤ hit which image true := by
  cases b with
  | true => exact le_rfl
  | false => simp

/-- The number of elements, of all kinds or of one. -/
def numberIn (which : Option String) (m : Multiset String) : Nat :=
  match which with
  | none => m.card
  | some image => m.count image

theorem numberIn_cons (which : Option String) (image : String) (m : Multiset String) :
    numberIn which (image ::ₘ m) = numberIn which m + hit which image true := by
  cases which with
  | none => simp [numberIn]
  | some other => simp [numberIn, hit, Multiset.count_cons]

theorem numberIn_mono {m m' : Multiset String} (h : m ≤ m') (which : Option String) :
    numberIn which m ≤ numberIn which m' := by
  cases which with
  | none => exact Multiset.card_le_card h
  | some image => exact Multiset.count_le_of_le image h

/-- The slots in use, of all images or of one. -/
def Ledger.slotsOf (l : Ledger) : Option String → Nat
  | none => l.total
  | some image => l.inFlight image

theorem Ledger.slotsOf_take (l : Ledger) (which : Option String) (image : String) :
    (l.take image).slotsOf which = l.slotsOf which + hit which image true := by
  cases which with
  | none => simp [slotsOf]
  | some other => simp [slotsOf, hit, inFlight_take, eq_comm (a := other)]

/-- A slot that is in use is given back for good. -/
theorem Ledger.slotsOf_release {l : Ledger} {image : String} (h : 0 < l.inFlight image)
    (which : Option String) :
    (l.release image).slotsOf which + hit which image true = l.slotsOf which := by
  cases which with
  | none => simpa [slotsOf] using total_release h
  | some other =>
    rw [slotsOf, slotsOf, inFlight_release]
    by_cases ho : image = other
    · subst ho
      rw [if_pos rfl, hit_self]
      omega
    · rw [if_neg ho, hit_of_ne (Ne.symm ho), Nat.sub_zero, Nat.add_zero]

/-! ### The assumption -/

/-- The provider counts exactly, and instances come into being only by a launch that succeeds, one
by one.  Instances may disappear whenever the provider or the pool is asked something; an answer
is exact if it was right at some instant of the call. -/
structure Census (c : Controller σ) (live : σ → Multiset String) : Prop where
  /-- The number of instances is exact, of all images and of each one. -/
  exact : ∀ {which : Option String} {n : Nat} {w w' : σ}, c.provider.count which w = (.ok n, w') →
    numberIn which (live w') ≤ n ∧ n ≤ numberIn which (live w)
  /-- No question brings an instance into being. -/
  asked : ∀ {v w : σ}, Drift c (fun _ => False) v w → live w ≤ live v
  /-- A launch that succeeds brings one instance of its image into being. -/
  launched : ∀ {t : Template} {handle : LaunchHandle} {w w' : σ},
    c.provider.launch t w = (.ok handle, w') → live w' ≤ t.imageId ::ₘ live w
  /-- A launch that fails brings none into being. -/
  refused : ∀ {t : Template} {e : Failure} {w w' : σ},
    c.provider.launch t w = (.error e, w') → live w' ≤ live w

/-- Changes of the world outside by which instances disappear at most. -/
def Shrinks (live : σ → Multiset String) (change : σ → σ) : Prop := ∀ w, live (change w) ≤ live w

/-- Other than by a launch, instances only disappear. -/
theorem Census.drift {c : Controller σ} {live : σ → Multiset String} (hc : Census c live)
    {v w : σ} (h : Drift c (Shrinks live) v w) : live w ≤ live v := by
  cases h with
  | count image => exact hc.asked (.count image v)
  | requestState id => exact hc.asked (.requestState id v)
  | awaitRunning handle n => exact hc.asked (.awaitRunning handle n v)
  | describe id => exact hc.asked (.describe id v)
  | terminate id => exact hc.asked (.terminate id v)
  | refuses => exact hc.asked (.refuses v)
  | elsewhere hw => exact hw v

/-! ### A small cloud -/

/-- A cloud that is small enough to be followed by hand. -/
structure SmallCloud where
  /-- The images of the instances. -/
  instances : List String
  /-- How many more instances can be launched. -/
  stock : Nat
  /-- How many more times the instances are counted. -/
  answers : Nat
deriving DecidableEq, Repr

/-- The images of the instances, in no order. -/
def SmallCloud.live (w : SmallCloud) : Multiset String := w.instances

/-- The operations of a small cloud. -/
def Provider.small : Provider SmallCloud where
  count image w :=
    match w.answers with
    | 0 => (.error (.provider "RequestLimitExceeded"), w)
    | n + 1 =>
      let number := match image with
        | none => w.instances.length
        | some image => w.instances.count image
      (.ok number, { w with answers := n })
  requestState _ w := (.ok .opened, w)
  launch t w :=
    match w.stock with
    | 0 => (.error (.provider "InsufficientInstanceCapacity"), w)
    | n + 1 =>
      (.ok ⟨s!"i-{w.instances.length}", t.imageId, none⟩,
        { w with instances := t.imageId :: w.instances, stock := n })
  awaitRunning handle _ w := (.ok handle.instanceId, w)
  describe _ w := (.ok (.object []), w)
  terminate _ w := (.ok (), { w with instances := w.instances.tail })

/-- A template with nothing special about it. -/
def Template.plain (name imageId labelString : String) (instanceCap : Nat) : Template where
  name := name
  imageId := imageId
  instanceType := "t3.medium"
  executors := ⟨1, Nat.one_pos⟩
  instanceCap := instanceCap
  primed := 0
  windows := []
  labelString := labelString
  idleMinutes := 0
  spot := false
  spotMaxPrice := none
  keyName := none
  securityGroupIds := []
  subnetId := none
  tags := []

/-- Controllers of a small cloud. -/
def Controller.small (templates : List Template) (instanceCap : Int) : Controller SmallCloud where
  provider := .small
  catalog := ⟨templates⟩
  instanceCap := instanceCap
  launchTimeout := 600
  retentionDisabled := false
  minutes microseconds := microseconds / 60000000
  refuses w := (none, w)
  isEager := false
  ownsPool := true
  interlude := .none

/-- A small cloud counts exactly. -/
theorem census_small (templates : List Template) (instanceCap : Int) :
    Census (.small templates instanceCap) SmallCloud.live where
  exact {which n w w'} h := by
    rcases w with ⟨instances, stock, _ | answers⟩
    · simp [Controller.small, Provider.small] at h
    · cases which with
      | none =>
        obtain ⟨rfl, rfl⟩ : instances.length = n ∧ ⟨instances, stock, answers⟩ = w' := by
          simpa [Controller.small, Provider.small] using h
        simp [numberIn, SmallCloud.live]
      | some image =>
        obtain ⟨rfl, rfl⟩ : instances.count image = n ∧ ⟨instances, stock, answers⟩ = w' := by
          simpa [Controller.small, Provider.small] using h
        simp [numberIn, SmallCloud.live]
  asked {v w} h := by
    cases h with
    | count image => rcases v with ⟨instances, stock, _ | answers⟩ <;> exact le_rfl
    | terminate id => exact (List.tail_sublist v.instances).subperm
    | elsewhere hw => exact hw.elim
    | _ => exact le_rfl
  launched {t handle w w'} h := by
    rcases w with ⟨instances, _ | stock, answers⟩
    · simp [Controller.small, Provider.small] at h
    · have hw : ⟨t.imageId :: instances, stock, answers⟩ = w' := by
        simpa [Controller.small, Provider.small] using congrArg Prod.snd h
      rw [← hw]
      exact le_rfl
  refused {t e w w'} h := by
    rcases w with ⟨instances, _ | stock, answers⟩
    · have hw : ⟨instances, 0, answers⟩ = w' := by
        simpa [Controller.small, Provider.small] using congrArg Prod.snd h
      rw [← hw]
    · simp [Controller.small, Provider.small] at h

end BuildFleet
