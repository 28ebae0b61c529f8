/-
The pool of launches.

Launches that have been decided on wait in a queue until one of the pool's workers takes them up.
Each launch has a number, the order of submission, under which its outcome can be looked up later.
A launch that has not been taken up yet can be cancelled; it keeps its place in the queue, and when
its turn comes it is passed over.
-/
import BuildFleet.Failure
import BuildFleet.Template.Basic

namespace BuildFleet

/-- What has become of a launch. -/
inductive Progress where
  /-- It waits for its turn. -/
  | queued
  /-- It is being carried out. -/
  | running
  /-- It came up as the node with this number. -/
  | done (node : Nat)
  | failed (failure : Failure)
  /-- It was cancelled before its turn. -/
  | cancelled
deriving DecidableEq, Repr

/-- A launch that was handed to the pool. -/
structure Launch where
  template : Template
  /-- What has become of it. -/
  progress : Progress
deriving DecidableEq, Repr

/-- The launches so far, and those that wait for their turn. -/
structure Pool where
  /-- The launches, by their numbers. -/
  launches : List Launch
  /-- The numbers of the launches that have not had their turn, in order. -/
  queue : List Nat
  /-- Launches are taken. -/
  isOpen : Bool
deriving DecidableEq, Repr

namespace Pool

/-- A pool without launches. -/
def empty : Pool := ⟨[], [], true⟩

/-- The number that the next launch gets. -/
def next (p : Pool) : Nat := p.launches.length

/-- Appends a launch. -/
def push (p : Pool) (t : Template) : Pool :=
  { p with launches := p.launches ++ [⟨t, .queued⟩], queue := p.queue ++ [p.next] }

/-- The number of the launch at a place; a place below zero counts back from the last launch. -/
def numberAt? (p : Pool) (place : Int) : Option Nat :=
  let number := if place < 0 then place + p.next else place
  if 0 ≤ number ∧ number < p.next then some number.toNat else none

/-- A place from zero on is the number of a launch. -/
theorem numberAt?_ofNat (p : Pool) (k : Nat) :
    p.numberAt? k = if k < p.next then some k else none := by
  have h : ¬(k : Int) < 0 := by omega
  simp [numberAt?, h]

/-- Records what has become of a launch. -/
def record (p : Pool) (k : Nat) (progress : Progress) : Pool :=
  { p with launches := p.launches.modify k fun l => { l with progress } }

/-- Takes no launches any more. -/
def close (p : Pool) : Pool := { p with isOpen := false }

/-- How many launches of an image wait for their turn: those that were handed in and have neither
been taken up nor been cancelled. -/
def waiting (p : Pool) (image : String) : Nat :=
  p.launches.countP fun l => l.template.imageId = image && l.progress = .queued

/-- The launch with a number was handed in, and it no longer waits for its turn. -/
def Started (p : Pool) (k : Nat) : Prop :=
  ∃ l, p.launches[k]? = some l ∧ l.progress ≠ .queued

/-! ### What the operations do to the launches that wait -/

theorem countP_modify {α : Type} (q : α → Bool) (f : α → α) {as : List α} {k : Nat} {a : α}
    (h : as[k]? = some a) :
    (as.modify k f).countP q + (if q a then 1 else 0) =
      as.countP q + if q (f a) then 1 else 0 := by
  induction as generalizing k with
  | nil => simp at h
  | cons b as ih =>
    cases k with
    | zero =>
      obtain rfl : b = a := by simpa using h
      simp only [List.modify_zero_cons, List.countP_cons]
      omega
    | succ k =>
      have hk : as[k]? = some a := by simpa using h
      have := ih hk
      simp only [List.modify_succ_cons, List.countP_cons]
      omega

theorem waiting_push (p : Pool) (t : Template) (image : String) :
    (p.push t).waiting image = p.waiting image + if t.imageId = image then 1 else 0 := by
  simp [waiting, push, List.countP_append, List.countP_singleton]

/-- A launch that is taken up or cancelled waits no longer. -/
theorem waiting_record_of_queued {p : Pool} {k : Nat} {t : Template} {progress : Progress}
    (h : p.launches[k]? = some ⟨t, .queued⟩) (hp : progress ≠ .queued) (image : String) :
    (p.record k progress).waiting image + (if t.imageId = image then 1 else 0) =
      p.waiting image := by
  have := countP_modify (fun l => l.template.imageId = image && l.progress = .queued)
    (fun l : Launch => { l with progress }) h
  simpa [waiting, record, hp] using this

/-- What becomes of a launch after its turn does not change which launches wait. -/
theorem waiting_record_of_started {p : Pool} {k : Nat} {progress : Progress}
    (h : p.Started k) (hp : progress ≠ .queued) (image : String) :
    (p.record k progress).waiting image = p.waiting image := by
  obtain ⟨l, hl, hq⟩ := h
  have := countP_modify (fun l => l.template.imageId = image && l.progress = .queued)
    (fun l : Launch => { l with progress }) hl
  simpa [waiting, record, hp, hq] using this

theorem Started.push {p : Pool} {k : Nat} (h : p.Started k) (t : Template) :
    (p.push t).Started k := by
  obtain ⟨l, hl, hq⟩ := h
  refine ⟨l, ?_, hq⟩
  have hk : k < p.launches.length := (List.getElem?_eq_some_iff.mp hl).1
  rw [Pool.push, List.getElem?_append_left hk, hl]

theorem Started.record {p : Pool} {k : Nat} (h : p.Started k) (j : Nat) {progress : Progress}
    (hp : progress ≠ .queued) : (p.record j progress).Started k := by
  obtain ⟨l, hl, hq⟩ := h
  by_cases hj : j = k
  · exact ⟨{ l with progress }, by simp [Pool.record, hj, hl], hp⟩
  · exact ⟨l, by simp [Pool.record, hj, hl], hq⟩

theorem started_record {p : Pool} {k : Nat} {l : Launch} {progress : Progress}
    (h : p.launches[k]? = some l) (hp : progress ≠ .queued) : (p.record k progress).Started k :=
  ⟨{ l with progress }, by simp [record, h], hp⟩

end Pool

end BuildFleet
