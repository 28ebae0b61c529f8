/-
Surroundings in good health.

Nothing goes wrong outside: the provider answers every question, the pool takes every launch, and
the ids of launches are new.

* **`Healthy`** — the provider answers with what there is to be seen, and to ask changes nothing of
  it;
* **`Controller.Patient`**, **`Controller.Willing`** — the pool leaves launches in the queue, and
  takes every one of them;
* **`Controller.Calm`** — the same for a while: as long as the world outside is one of some;
* **`Fresh`** — the id of a launch was not given before;
* **`AmpleCloud`**, **`Provider.ample`** — a cloud that has an instance for every launch, for which
  all of it holds.
-/
import BuildFleet.Proofs.Census
import Mathlib.Data.Set.Basic

namespace BuildFleet

variable {σ : Type}

/-- What there is to be seen of the world outside. -/
structure Scene where
  /-- How many instances there are, of one image or of all. -/
  number : Option String → Nat
  request : String → RequestState

/-- The provider answers every question with what there is to be seen, and to ask changes nothing of
it. -/
structure Healthy (p : Provider σ) (scene : σ → Scene) : Prop where
  count : ∀ which w, ∃ w', p.count which w = (.ok ((scene w).number which), w') ∧
    scene w' = scene w
  requestState : ∀ id w, ∃ w', p.requestState id w = (.ok ((scene w).request id), w') ∧
    scene w' = scene w

/-- The pool leaves launches in the queue, and to ask it changes nothing that is to be seen. -/
structure Controller.Patient (c : Controller σ) (scene : σ → Scene) : Prop where
  lazy : c.isEager = false
  quiet : ∀ w, scene (c.refuses w).2 = scene w

/-- The pool takes every launch as long as it is open. -/
def Controller.Willing (c : Controller σ) : Prop := ∀ w, (c.refuses w).1 = none

/-- As long as the world outside is one of `calm`, the provider answers every question with `s`, and
the world is one of `calm` still when the provider or the pool was asked; the pool leaves launches
in the queue. -/
structure Controller.Calm (c : Controller σ) (s : Scene) (calm : Set σ) : Prop where
  count : ∀ which, ∀ w ∈ calm, ∃ w' ∈ calm, c.provider.count which w = (.ok (s.number which), w')
  requestState : ∀ id, ∀ w ∈ calm, ∃ w' ∈ calm,
    c.provider.requestState id w = (.ok (s.request id), w')
  lazy : c.isEager = false
  quiet : ∀ w ∈ calm, (c.refuses w).2 ∈ calm

/-- What there is to be seen stays the same when a provider in good health is asked. -/
theorem Controller.Patient.calm {c : Controller σ} {scene : σ → Scene} (hc : c.Patient scene)
    (hh : Healthy c.provider scene) (w : σ) : c.Calm (scene w) { v | scene v = scene w } where
  count which v hv := by
    obtain ⟨v', hanswer, hsame⟩ := hh.count which v
    exact ⟨v', hsame.trans hv, hv ▸ hanswer⟩
  requestState id v hv := by
    obtain ⟨v', hanswer, hsame⟩ := hh.requestState id v
    exact ⟨v', hsame.trans hv, hv ▸ hanswer⟩
  lazy := hc.lazy
  quiet v hv := (hc.quiet v).trans hv

/-- The id of a launch was not given before, and has no opening bracket in it; an id that was given
stays given. -/
structure Fresh (c : Controller σ) (given : σ → Set String) : Prop where
  launched : ∀ {t : Template} {handle : LaunchHandle} {w w' : σ},
    c.provider.launch t w = (.ok handle, w') →
      '(' ∉ handle.id.toList ∧ handle.id ∉ given w ∧ handle.id ∈ given w' ∧ given w ⊆ given w'
  refused : ∀ {t : Template} {e : Failure} {w w' : σ},
    c.provider.launch t w = (.error e, w') → given w ⊆ given w'
  asked : ∀ {v w : σ}, Drift c (fun _ => False) v w → given v ⊆ given w

/-- Changes of the world outside by which no id is given back. -/
def Remembers (given : σ → Set String) (change : σ → σ) : Prop := ∀ w, given w ⊆ given (change w)

/-- However the controllers come by moves, no id is given back. -/
theorem Fresh.moves {c : Controller σ} {given : σ → Set String} (hf : Fresh c given)
    {x y : Hand × Fleet σ} (h : Moves c (Remembers given) x y) :
    given x.2.cloud ⊆ given y.2.cloud := by
  have hdrift : ∀ {v w : σ}, Drift c (Remembers given) v w → given v ⊆ given w := by
    intro v w hd
    cases hd with
    | count image => exact hf.asked (.count image v)
    | requestState id => exact hf.asked (.requestState id v)
    | awaitRunning handle n => exact hf.asked (.awaitRunning handle n v)
    | describe id => exact hf.asked (.describe id v)
    | terminate id => exact hf.asked (.terminate id v)
    | refuses => exact hf.asked (.refuses v)
    | elsewhere hw => exact hw v
  have hcount : ∀ {which : Option String} {n : Nat} {v w : σ},
      c.provider.count which v = (.ok n, w) → given v ⊆ given w := by
    intro which n v w hn
    have hd := hdrift (.count which v)
    rwa [hn] at hd
  induction h with
  | refl => exact Set.Subset.rfl
  | tail _ hm ih =>
    refine Set.Subset.trans ih ?_
    cases hm with
    | still _ _ cloud => exact cloud ▸ Set.Subset.rfl
    | drift hw => exact hdrift hw
    | take _ hn hm _ => exact Set.Subset.trans (hcount hn) (hcount hm)
    | launch hl => exact (hf.launched hl).2.2.2
    | fail hl => exact hf.refused hl
    | _ => exact Set.Subset.rfl

/-! ### An ample cloud -/

/-- A cloud that has an instance for every launch. -/
structure AmpleCloud where
  /-- The images of the instances. -/
  images : List String
  /-- The open spot requests. -/
  requests : List String
  /-- How many ids were given so far. -/
  ids : Nat
deriving DecidableEq, Repr

def AmpleCloud.view (w : AmpleCloud) : Scene where
  number
    | none => w.images.length
    | some image => w.images.count image
  request id := if id ∈ w.requests then .opened else .closed

/-- The operations of an ample cloud.  A spot launch has its instance when it is waited for. -/
def Provider.ample : Provider AmpleCloud where
  count which w := (.ok (w.view.number which), w)
  requestState id w := (.ok (w.view.request id), w)
  launch t w :=
    if t.spot then
      let id := s!"sir-{w.ids}"
      (.ok ⟨"", t.imageId, some id⟩, { w with requests := id :: w.requests, ids := w.ids + 1 })
    else
      (.ok ⟨s!"i-{w.ids}", t.imageId, none⟩,
        { w with images := t.imageId :: w.images, ids := w.ids + 1 })
  awaitRunning handle _ w :=
    match handle.spotRequest with
    | some id =>
      (.ok s!"i-{w.ids}",
        ⟨handle.imageId :: w.images, w.requests.filter (· ≠ id), w.ids + 1⟩)
    | none => (.ok handle.instanceId, w)
  describe _ w := (.ok (.object []), w)
  terminate _ w := (.ok (), { w with images := w.images.tail })

/-- Controllers of an ample cloud. -/
def Controller.ample (templates : List Template) (instanceCap : Int) : Controller AmpleCloud where
  provider := .ample
  catalog := ⟨templates⟩
  instanceCap := instanceCap
  launchTimeout := 600
  retentionDisabled := false
  minutes microseconds := microseconds / 60000000
  refuses w := (none, w)
  isEager := false
  ownsPool := true
  interlude := .none

theorem healthy_ample : Healthy Provider.ample AmpleCloud.view where
  count _ w := ⟨w, rfl, rfl⟩
  requestState _ w := ⟨w, rfl, rfl⟩

theorem patient_ample (templates : List Template) (instanceCap : Int) :
    (Controller.ample templates instanceCap).Patient AmpleCloud.view where
  lazy := rfl
  quiet _ := rfl

theorem willing_ample (templates : List Template) (instanceCap : Int) :
    (Controller.ample templates instanceCap).Willing := fun _ => rfl

/-- The ids that an ample cloud has given. -/
def AmpleCloud.given (w : AmpleCloud) : Set String :=
  { id | ∃ n < w.ids, id = s!"i-{n}" ∨ id = s!"sir-{n}" }

/-- Ids with different numbers differ, and so do those of instances and of spot requests. -/
theorem AmpleCloud.not_mem_given (w : AmpleCloud) :
    s!"i-{w.ids}" ∉ w.given ∧ s!"sir-{w.ids}" ∉ w.given := by
  have hdigits : ∀ {n m : Nat}, Nat.toDigits 10 n = Nat.toDigits 10 m → n = m := by
    intro n m h
    rw [← Nat.ofDigitChars_ten_toDigits (n := n), h, Nat.ofDigitChars_ten_toDigits]
  have hkinds : ∀ {n m : Nat}, s!"i-{n}" ≠ s!"sir-{m}" := by
    intro n m h
    have hlist := congrArg String.toList h
    simp only [String.toList_append] at hlist
    have hhead : some 'i' = some 's' := congrArg List.head? hlist
    cases hhead
  constructor
  · rintro ⟨n, hn, h | h⟩
    · have := hdigits (by simpa using congrArg String.toList h)
      omega
    · exact hkinds h
  · rintro ⟨n, hn, h | h⟩
    · exact hkinds h.symm
    · have := hdigits (by simpa using congrArg String.toList h)
      omega

/-- A number puts no bracket into an id. -/
theorem plain_numbered (kind : String) (hkind : '(' ∉ kind.toList) (n : Nat) :
    '(' ∉ (s!"{kind}{n}").toList := by
  intro hmem
  have hpart : '(' ∈ (toString kind).toList ∨ '(' ∈ Nat.toDigits 10 n := by
    simpa using hmem
  rcases hpart with hk | hd
  · exact hkind hk
  · exact absurd (Nat.isDigit_of_mem_toDigits (by decide) (by decide) hd) (by decide)

theorem fresh_ample (templates : List Template) (instanceCap : Int) :
    Fresh (.ample templates instanceCap) AmpleCloud.given where
  launched {t handle w w'} h := by
    have hmore : w.given ⊆ { id | ∃ n < w.ids + 1, id = s!"i-{n}" ∨ id = s!"sir-{n}" } :=
      fun id ⟨n, hn, hid⟩ => ⟨n, by omega, hid⟩
    obtain ⟨hinstance, hrequest⟩ := w.not_mem_given
    simp only [Controller.ample, Provider.ample] at h
    split at h
    · cases h
      exact ⟨plain_numbered "sir-" (by decide) w.ids, hrequest, ⟨w.ids, by simp, .inr rfl⟩, hmore⟩
    · cases h
      have hid : (⟨s!"i-{w.ids}", t.imageId, none⟩ : LaunchHandle).id = s!"i-{w.ids}" := by
        simp [LaunchHandle.id]
      rw [hid]
      exact ⟨plain_numbered "i-" (by decide) w.ids, hinstance, ⟨w.ids, by simp, .inl rfl⟩, hmore⟩
  refused {t e w w'} h := by
    simp only [Controller.ample, Provider.ample] at h
    split at h <;> cases h
  asked {v w} h := by
    cases h with
    | awaitRunning handle n =>
      simp only [Controller.ample, Provider.ample]
      split
      · exact fun id ⟨n, hn, hid⟩ => ⟨n, by simp; omega, hid⟩
      · exact Set.Subset.rfl
    | elsewhere hw => exact hw.elim
    | _ => exact Set.Subset.rfl

/-- A template with idle instances to keep ready. -/
def Template.primedPlain (name imageId labelString : String) (primed : Nat) : Template :=
  { Template.plain name imageId labelString 9 with primed }

end BuildFleet
