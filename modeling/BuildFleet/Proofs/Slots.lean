/-
What the controllers do to slots and launches.

Everything that the controllers do to the ledger, to the launches of the pool and to the world
outside is a sequence of a few kinds of moves.  Between two moves an operation may have slots in
hand: slots that are taken but belong to no launch that waits for its turn.

* **`Hand`** — the slots in hand, with and without an instance;
* **`Move`**, **`Moves`** — one move, and a sequence of moves;
* **`Keeps`** — a step that comes about by moves and has no more and no fewer slots in hand
  afterwards;
* **`Leads`** — a step that comes about by moves and ends with the slots in hand that go with its
  outcome.

The moves carry what decides about them: a slot is taken only after two counts and a comparison with
the caps, and an instance comes into being only by a launch whose slot is in hand.  What holds of
every move therefore holds of every operation, and the operations need not be opened again.
-/
import BuildFleet.Proofs.Course
import Mathlib.Data.Multiset.Count
import Mathlib.Logic.Relation

namespace BuildFleet

open Fleet (Step note consult changeRoster)

variable {σ α β : Type}

/-- The images of the slots that are taken and belong to no launch that waits. -/
structure Hand where
  /-- Those for which there is no instance. -/
  bare : Multiset String
  /-- Those for which there is one. -/
  backed : Multiset String

namespace Hand

/-- No slots in hand. -/
def none : Hand := ⟨0, 0⟩

/-- One more slot without an instance. -/
def addBare (image : String) (h : Hand) : Hand := { h with bare := image ::ₘ h.bare }

/-- One more slot with an instance. -/
def addBacked (image : String) (h : Hand) : Hand := { h with backed := image ::ₘ h.backed }

end Hand

/-- Changes of the world outside other than by a launch: those that come with the questions to the
provider and to the pool, and those that are allowed to happen by themselves. -/
inductive Drift (c : Controller σ) (allowed : (σ → σ) → Prop) : σ → σ → Prop
  | count (image : Option String) (w : σ) : Drift c allowed w (c.provider.count image w).2
  | requestState (id : String) (w : σ) : Drift c allowed w (c.provider.requestState id w).2
  | awaitRunning (handle : LaunchHandle) (seconds : Nat) (w : σ) :
      Drift c allowed w (c.provider.awaitRunning handle seconds w).2
  | describe (id : String) (w : σ) : Drift c allowed w (c.provider.describe id w).2
  | terminate (id : String) (w : σ) : Drift c allowed w (c.provider.terminate id w).2
  | refuses (w : σ) : Drift c allowed w (c.refuses w).2
  | elsewhere {world : σ → σ} (hw : allowed world) (w : σ) : Drift c allowed w (world w)

/-- One move, with the slots in hand before and after it. -/
inductive Move (c : Controller σ) (allowed : (σ → σ) → Prop) :
    Hand × Fleet σ → Hand × Fleet σ → Prop
  /-- Only the nodes, the queue, the time or the log change. -/
  | still {h : Hand} {f g : Fleet σ} (ledger : g.ledger = f.ledger)
      (launches : g.pool.launches = f.pool.launches) (cloud : g.cloud = f.cloud) :
      Move c allowed (h, f) (h, g)
  /-- Only the world outside changes. -/
  | drift {h : Hand} {f : Fleet σ} {w : σ} (hw : Drift c allowed f.cloud w) :
      Move c allowed (h, f) (h, { f with cloud := w })
  /-- A slot is taken for a template, after the instances were counted. -/
  | take {h : Hand} {f : Fleet σ} {t : Template} {n m : Nat} {w w' : σ}
      (ht : t ∈ c.catalog.templates)
      (hn : c.provider.count none f.cloud = (.ok n, w))
      (hm : c.provider.count (some t.imageId) w = (.ok m, w'))
      (hr : f.ledger.refusal? t.imageId ⟨n, m⟩ ⟨c.instanceCap, t.instanceCap⟩ = none) :
      Move c allowed (h, f)
        (h.addBare t.imageId, { f with cloud := w', ledger := f.ledger.take t.imageId })
  /-- The slot in hand passes to a launch that is handed in. -/
  | push {h : Hand} {f : Fleet σ} {t : Template} :
      Move c allowed (h.addBare t.imageId, f) (h, { f with pool := f.pool.push t })
  /-- A launch that waits is taken up or cancelled, and its slot is in hand. -/
  | pick {h : Hand} {f : Fleet σ} {k : Nat} {t : Template} {progress : Progress}
      (hk : f.pool.launches[k]? = some ⟨t, .queued⟩) (hp : progress ≠ .queued) :
      Move c allowed (h, f)
        (h.addBare t.imageId, { f with pool := f.pool.record k progress })
  /-- The end of a launch is recorded. -/
  | settle {h : Hand} {f : Fleet σ} {k : Nat} {progress : Progress}
      (hk : f.pool.Started k) (hp : progress ≠ .queued) :
      Move c allowed (h, f) (h, { f with pool := f.pool.record k progress })
  /-- An instance comes into being for a slot in hand. -/
  | launch {h : Hand} {f : Fleet σ} {t : Template} {handle : LaunchHandle} {w : σ}
      (hl : c.provider.launch t f.cloud = (.ok handle, w)) :
      Move c allowed (h.addBare t.imageId, f) (h.addBacked t.imageId, { f with cloud := w })
  /-- The provider does not launch an instance. -/
  | fail {h : Hand} {f : Fleet σ} {t : Template} {failure : Failure} {w : σ}
      (hl : c.provider.launch t f.cloud = (.error failure, w)) :
      Move c allowed (h, f) (h, { f with cloud := w })
  /-- A slot in hand without an instance is given back. -/
  | giveBare {h : Hand} {f : Fleet σ} {image : String} :
      Move c allowed (h.addBare image, f) (h, { f with ledger := f.ledger.release image })
  /-- A slot in hand with an instance is given back. -/
  | giveBacked {h : Hand} {f : Fleet σ} {image : String} :
      Move c allowed (h.addBacked image, f) (h, { f with ledger := f.ledger.release image })

/-- Some moves, one after the other. -/
abbrev Moves (c : Controller σ) (allowed : (σ → σ) → Prop) :
    Hand × Fleet σ → Hand × Fleet σ → Prop :=
  Relation.ReflTransGen (Move c allowed)

theorem Drift.of_interlude {c : Controller σ} {allowed : (σ → σ) → Prop} (i : Interlude σ)
    {v w : σ} (h : Drift c allowed v w) : Drift { c with interlude := i } allowed v w := by
  cases h with
  | count image => exact .count (c := { c with interlude := i }) image v
  | requestState id => exact .requestState (c := { c with interlude := i }) id v
  | awaitRunning handle n => exact .awaitRunning (c := { c with interlude := i }) handle n v
  | describe id => exact .describe (c := { c with interlude := i }) id v
  | terminate id => exact .terminate (c := { c with interlude := i }) id v
  | refuses => exact .refuses (c := { c with interlude := i }) v
  | elsewhere hw => exact .elsewhere hw v

/-- The moves do not depend on what happens while launches wait. -/
theorem Moves.of_interlude {c : Controller σ} {allowed : (σ → σ) → Prop} (i : Interlude σ)
    {x y : Hand × Fleet σ} (h : Moves c allowed x y) :
    Moves { c with interlude := i } allowed x y := by
  refine Relation.ReflTransGen.mono (fun a b hab => ?_) x y h
  cases hab with
  | still ledger launches cloud => exact .still ledger launches cloud
  | drift hw => exact .drift (hw.of_interlude i)
  | take ht hn hm hr => exact .take ht hn hm hr
  | push => exact .push
  | pick hk hp => exact .pick hk hp
  | settle hk hp => exact .settle hk hp
  | launch hl => exact .launch hl
  | fail hl => exact .fail hl
  | giveBare => exact .giveBare
  | giveBacked => exact .giveBacked

/-- A launch that no longer waits does not wait again. -/
theorem Moves.started {c : Controller σ} {allowed : (σ → σ) → Prop} {x y : Hand × Fleet σ}
    (h : Moves c allowed x y) {k : Nat} (hk : x.2.pool.Started k) : y.2.pool.Started k := by
  induction h with
  | refl => exact hk
  | tail _ hm ih =>
    -- Only four of the moves touch the launches, and none of them makes one wait that did not.
    cases hm with
    | still _ launches _ =>
      obtain ⟨l, hl, hq⟩ := ih
      exact ⟨l, by rw [launches]; exact hl, hq⟩
    | push => exact ih.push _
    | pick _ hp => exact ih.record _ hp
    | settle _ hp => exact ih.record _ hp
    | _ => exact ih

/-! ### Steps that come about by moves -/

/-- Whatever the outcome is, the step comes about by moves, and the slots in hand are the same
afterwards. -/
def Keeps (c : Controller σ) (allowed : (σ → σ) → Prop) (m : Step σ α) : Prop :=
  ∀ h f, Moves c allowed (h, f) (h, (m f).2)

/-- The step comes about by moves, and the slots in hand afterwards go with its outcome. -/
def Leads (c : Controller σ) (allowed : (σ → σ) → Prop) (h : Hand) (m : Step σ α)
    (after : Except Failure α → Hand) : Prop :=
  ∀ f, Moves c allowed (h, f) (after (m f).1, (m f).2)

namespace Leads

variable {c : Controller σ} {allowed : (σ → σ) → Prop} {h : Hand}

theorem of_keeps {m : Step σ α} (hm : Keeps c allowed m) (h : Hand) :
    Leads c allowed h m fun _ => h := hm h

theorem bind {m : Step σ α} {k : α → Step σ β} {between : Except Failure α → Hand}
    {after : Except Failure β → Hand} (hm : Leads c allowed h m between)
    (hk : ∀ a f, (m f).1 = .ok a → Leads c allowed (between (.ok a)) (k a) after)
    (he : ∀ e f, (m f).1 = .error e → between (.error e) = after (.error e)) :
    Leads c allowed h (m >>= k) after := by
  intro f
  have hf := hm f
  rw [Action.bind_apply]
  -- After a failure the continuation does not run, so its end has to be the end of the whole.
  rcases hmf : m f with ⟨e | a, g⟩
  · rw [hmf] at hf
    exact he e f (by rw [hmf]) ▸ hf
  · rw [hmf] at hf
    exact hf.trans (hk a f (by rw [hmf]) g)

end Leads

namespace Keeps

variable {c : Controller σ} {allowed : (σ → σ) → Prop}

theorem of_still {m : Step σ α} (ledger : ∀ f, (m f).2.ledger = f.ledger)
    (launches : ∀ f, (m f).2.pool.launches = f.pool.launches)
    (cloud : ∀ f, (m f).2.cloud = f.cloud) : Keeps c allowed m :=
  fun _ f => .single (.still (ledger f) (launches f) (cloud f))

theorem of_leads {m : Step σ α} (hm : ∀ h, Leads c allowed h m fun _ => h) :
    Keeps c allowed m := hm

theorem pure (a : α) : Keeps c allowed (Pure.pure a : Step σ α) := fun _ _ => .refl

theorem fail (e : Failure) : Keeps c allowed (Action.fail e : Step σ α) := fun _ _ => .refl

theorem reads (part : Fleet σ → α) : Keeps c allowed (Action.reads part) := fun _ _ => .refl

theorem ofExcept (r : Except Failure α) : Keeps c allowed (Action.ofExcept r : Step σ α) :=
  fun _ _ => .refl

theorem bind {m : Step σ α} {k : α → Step σ β} (hm : Keeps c allowed m)
    (hk : ∀ a, Keeps c allowed (k a)) : Keeps c allowed (m >>= k) :=
  fun h => Leads.bind (.of_keeps hm h) (fun a _ _ => .of_keeps (hk a) h) fun _ _ _ => rfl

theorem attempt {m : Step σ α} (hm : Keeps c allowed m) : Keeps c allowed m.attempt := hm

theorem consult {m : Action σ α} (hm : ∀ w, Drift c allowed w (m w).2) :
    Keeps c allowed (consult m) :=
  fun _ f => .single (.drift (hm f.cloud))

theorem note (level : Level) (message : String) :
    Keeps c allowed (note level message : Step σ Unit) :=
  of_still (fun _ => rfl) (fun _ => rfl) fun _ => rfl

theorem changeRoster (change : Roster → Roster) :
    Keeps c allowed (changeRoster change : Step σ Unit) :=
  of_still (fun _ => rfl) (fun _ => rfl) fun _ => rfl

end Keeps

end BuildFleet
