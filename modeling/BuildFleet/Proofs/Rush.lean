/-
Reservations that overlap.

A slot is asked for in three steps: the provider counts all instances, it counts those of the image,
and then the ledger compares and grants.  Only the last step is one that nobody can interrupt.  In a
`Rush` any number of reservations are under way at once, together with the launches that the
granted ones are for, and in every turn one of them goes one step further.

* **`Rush`** — the fleet, and how far each reservation has come;
* **`Controller.turn`**, **`Controller.rush`** — one step of one reservation, and a course of steps;
* **`rush_reserve`** — steps that nobody interrupts are a reservation as the controllers make it.

A rush also remembers what no controller knows: which instances have come into being since a count
was taken.  An instance is *handed over* from the ledger to the provider's count when its slot is
given back; a comparison whose counts are older than a whole hand-over has *missed* it.
-/
import BuildFleet.Provisioning

namespace BuildFleet

variable {σ : Type}

/-- A number of instances, and how many launches had succeeded when it was counted. -/
structure Reading where
  number : Nat
  seen : Nat
deriving DecidableEq, Repr

/-- How far a reservation has come, and the launch that it is for. -/
inductive Stage where
  /-- Nothing has been counted. -/
  | asked
  /-- All instances have been counted. -/
  | counted (total : Reading)
  /-- The instances of the image have been counted, too. -/
  | ready (total ofImage : Reading)
  /-- The slot is taken. -/
  | granted
  /-- The slot is taken, and the launch has failed. -/
  | barren
  /-- The slot is taken, and there is an instance, which came after so many others. -/
  | arrived (rank : Nat)
  /-- There is no slot any more, or there never was one. -/
  | ended (rank : Option Nat)
deriving DecidableEq, Repr

namespace Stage

/-- The slot is taken. -/
def holds : Stage → Bool
  | granted | barren | arrived _ => true
  | _ => false

/-- There is an instance, and its slot is taken as well. -/
def isArrived : Stage → Bool
  | arrived _ => true
  | _ => false

/-- How many instances came before the one of this launch. -/
def rank? : Stage → Option Nat
  | arrived rank => some rank
  | ended rank => rank
  | _ => none

/-- There is an instance, and it came after so many others. -/
def cameSince (seen : Nat) (stage : Stage) : Bool := stage.rank?.any (seen ≤ ·)

/-- There is an instance, it came after so many others, and its slot has been given back. -/
def wentSince (seen : Nat) (stage : Stage) : Bool := stage.cameSince seen && !stage.isArrived

end Stage

/-- A slot that was asked for. -/
structure Reservation where
  image : String
  cap : Int
  stage : Stage
deriving DecidableEq, Repr

/-- Any number of reservations under way. -/
structure Rush (σ : Type) where
  /-- What they share. -/
  fleet : Fleet σ
  /-- The reservations, by their numbers. -/
  reservations : List Reservation
  /-- How many launches have succeeded. -/
  arrivals : Nat
  /-- The most hand-overs, of all images or of one, that a single granted comparison has missed. -/
  missed : Option String → Nat

/-- One step. -/
inductive Turn (σ : Type) where
  /-- A slot is asked for. -/
  | ask (image : String) (cap : Int)
  /-- The reservation with a number counts or compares. -/
  | proceed (k : Nat)
  /-- The provider is asked for the instance of a granted reservation. -/
  | launch (k : Nat) (t : Template)
  /-- The slot of a reservation is given back. -/
  | release (k : Nat)
  /-- The world outside changes by itself. -/
  | elsewhere (world : σ → σ)

namespace Rush

/-- Nothing is under way. -/
def start (f : Fleet σ) : Rush σ := ⟨f, [], 0, fun _ => 0⟩

/-- The world outside has changed. -/
def inWorld (s : Rush σ) (w : σ) : Rush σ := { s with fleet := { s.fleet with cloud := w } }

/-- One more reservation. -/
def add (s : Rush σ) (r : Reservation) : Rush σ := { s with reservations := s.reservations ++ [r] }

/-- A reservation comes to a stage. -/
def settle (s : Rush σ) (k : Nat) (stage : Stage) : Rush σ :=
  { s with reservations := s.reservations.modify k fun r => { r with stage } }

/-- How many reservations are at a stage of a kind. -/
def tally (s : Rush σ) (which : Option String) (kind : Stage → Bool) : Nat :=
  s.reservations.countP fun r => which.all (· = r.image) && kind r.stage

/-- The hand-overs under way: the instances that are there and whose slot is taken as well. -/
def handovers (s : Rush σ) (which : Option String) : Nat := s.tally which Stage.isArrived

/-- What has been missed after a comparison is granted. -/
def missedBy (s : Rush σ) (image : String) (total ofImage : Reading) : Option String → Nat
  | none => max (s.missed none) (s.tally none (Stage.wentSince total.seen))
  | some other =>
    if other = image then
      max (s.missed (some other)) (s.tally (some other) (Stage.wentSince ofImage.seen))
    else s.missed (some other)

end Rush

namespace Controller

/-- The instances are counted, all of them or those of an image. -/
def look (c : Controller σ) (s : Rush σ) (k : Nat) (which : Option String)
    (next : Reading → Stage) : Rush σ :=
  match c.provider.count which s.fleet.cloud with
  | (.ok n, w) => (s.inWorld w).settle k (next ⟨n, s.arrivals⟩)
  | (.error _, w) => (s.inWorld w).settle k (.ended none)

/-- The counts are compared with the caps, and the slot is taken or refused. -/
def compare (c : Controller σ) (s : Rush σ) (k : Nat) (r : Reservation) (total ofImage : Reading) :
    Rush σ :=
  match c.takeSlot r.image r.cap ⟨total.number, ofImage.number⟩ s.fleet with
  | (.ok true, f) =>
    { s with fleet := f, missed := s.missedBy r.image total ofImage }.settle k .granted
  | (_, f) => { s with fleet := f }.settle k (.ended none)

/-- The provider is asked for an instance. -/
def arrive (c : Controller σ) (s : Rush σ) (k : Nat) (t : Template) : Rush σ :=
  match c.provider.launch t s.fleet.cloud with
  | (.ok _, w) => { s.inWorld w with arrivals := s.arrivals + 1 }.settle k (.arrived s.arrivals)
  | (.error _, w) => (s.inWorld w).settle k .barren

/-- A reservation goes one step further. -/
def advance (c : Controller σ) (s : Rush σ) (k : Nat) (r : Reservation) : Rush σ :=
  match r.stage with
  | .asked => c.look s k none .counted
  | .counted total => c.look s k (some r.image) (.ready total)
  | .ready total ofImage => c.compare s k r total ofImage
  | _ => s

/-- The rush after a turn.  A turn that is not the reservation's to take changes nothing. -/
def turn (c : Controller σ) (s : Rush σ) : Turn σ → Rush σ
  | .ask image cap => s.add ⟨image, cap, .asked⟩
  | .proceed k =>
    match s.reservations[k]? with
    | some r => c.advance s k r
    | none => s
  | .launch k t =>
    match s.reservations[k]? with
    | some r => if r.stage = .granted ∧ t.imageId = r.image then c.arrive s k t else s
    | none => s
  | .release k =>
    match s.reservations[k]? with
    | some r =>
      if r.stage.holds then
        { s with fleet := (release r.image s.fleet).2 }.settle k (.ended r.stage.rank?)
      else s
    | none => s
  | .elsewhere world => s.inWorld (world s.fleet.cloud)

/-- The rush after some turns. -/
def rush (c : Controller σ) (turns : List (Turn σ)) (s : Rush σ) : Rush σ := turns.foldl c.turn s

end Controller

/-! ### Steps that nobody interrupts -/

section Latest

variable (c : Controller σ) (s : Rush σ) (image : String) (cap : Int)

theorem settle_add (stage stage' : Stage) :
    (s.add ⟨image, cap, stage⟩).settle s.reservations.length stage' =
      s.add ⟨image, cap, stage'⟩ := by
  have hmodify : ∀ rs : List Reservation,
      (rs ++ [Reservation.mk image cap stage]).modify rs.length
          (fun r => { r with stage := stage' }) =
        rs ++ [⟨image, cap, stage'⟩] := by
    intro rs
    induction rs with
    | nil => rfl
    | cons _ rs ih => simpa using ih
  rw [Rush.settle, Rush.add, hmodify]
  rfl

/-- The turn of the latest reservation. -/
theorem turn_add (stage : Stage) :
    c.turn (s.add ⟨image, cap, stage⟩) (.proceed s.reservations.length) =
      c.advance (s.add ⟨image, cap, stage⟩) s.reservations.length ⟨image, cap, stage⟩ := by
  simp [Controller.turn, Rush.add]

/-- A count of the latest reservation takes it to the next stage, or to its end. -/
theorem look_add (which : Option String) (next : Reading → Stage) (stage : Stage) :
    c.look (s.add ⟨image, cap, stage⟩) s.reservations.length which next =
      match c.provider.count which s.fleet.cloud with
      | (.ok n, w) => (s.inWorld w).add ⟨image, cap, next ⟨n, s.arrivals⟩⟩
      | (.error _, w) => (s.inWorld w).add ⟨image, cap, .ended none⟩ := by
  have hcloud : (s.add ⟨image, cap, stage⟩).fleet.cloud = s.fleet.cloud := rfl
  rw [Controller.look, hcloud]
  rcases c.provider.count which s.fleet.cloud with ⟨e | n, w⟩
  · exact settle_add (s.inWorld w) image cap stage _
  · exact settle_add (s.inWorld w) image cap stage _

/-- The comparison of the latest reservation does what the locked part of a reservation does. -/
theorem compare_add (total ofImage : Reading) (stage : Stage) :
    ∃ stage' missed,
      c.compare (s.add ⟨image, cap, stage⟩) s.reservations.length ⟨image, cap, stage⟩ total
          ofImage =
        { s with
            fleet := (c.takeSlot image cap ⟨total.number, ofImage.number⟩ s.fleet).2
            missed }.add ⟨image, cap, stage'⟩ ∧
      (stage' = .granted ↔
        (c.takeSlot image cap ⟨total.number, ofImage.number⟩ s.fleet).1 = .ok true) := by
  have hfleet : (s.add ⟨image, cap, stage⟩).fleet = s.fleet := rfl
  rw [Controller.compare, hfleet]
  rcases c.takeSlot image cap ⟨total.number, ofImage.number⟩ s.fleet with ⟨e | granted, f⟩
  · exact ⟨.ended none, s.missed, settle_add { s with fleet := f } image cap stage _, by simp⟩
  · cases granted with
    | false =>
      exact ⟨.ended none, s.missed, settle_add { s with fleet := f } image cap stage _, by simp⟩
    | true =>
      exact ⟨.granted, _, settle_add { s with fleet := f, missed := _ } image cap stage _, by simp⟩

end Latest

/-- The three steps one after the other do what a reservation does: the fleet is the same, and the
slot is granted in the one case if it is in the other. -/
theorem rush_reserve (c : Controller σ) (s : Rush σ) (image : String) (cap : Int) :
    ∃ stage missed,
      c.rush [.ask image cap, .proceed s.reservations.length, .proceed s.reservations.length,
          .proceed s.reservations.length] s =
        { s with fleet := (c.reserve image cap s.fleet).2, missed }.add ⟨image, cap, stage⟩ ∧
      (stage = .granted ↔ (c.reserve image cap s.fleet).1 = .ok true) := by
  show ∃ stage missed, c.turn (c.turn (c.turn (s.add ⟨image, cap, .asked⟩)
    (.proceed s.reservations.length)) (.proceed s.reservations.length))
    (.proceed s.reservations.length) = _ ∧ _
  -- A reservation that has failed takes no further step.
  have hover : ∀ w, c.turn ((s.inWorld w).add ⟨image, cap, .ended none⟩)
      (.proceed s.reservations.length) = (s.inWorld w).add ⟨image, cap, .ended none⟩ :=
    fun w => turn_add c (s.inWorld w) image cap _
  have hfirst := (turn_add c s image cap .asked).trans (look_add c s image cap none .counted _)
  rcases hn : c.provider.count none s.fleet.cloud with ⟨e | n, w⟩
  · rw [hn] at hfirst
    rw [hfirst, hover, hover, c.reserve_of_total_error image cap hn]
    exact ⟨.ended none, s.missed, rfl, by simp⟩
  rw [hn] at hfirst
  have hsecond : c.turn ((s.inWorld w).add ⟨image, cap, .counted ⟨n, s.arrivals⟩⟩)
      (.proceed s.reservations.length) = _ :=
    (turn_add c (s.inWorld w) image cap _).trans
      (look_add c (s.inWorld w) image cap (some image) (.ready ⟨n, s.arrivals⟩) _)
  rcases hm : c.provider.count (some image) w with ⟨e | m, w'⟩
  · rw [show c.provider.count (some image) (s.inWorld w).fleet.cloud = _ from hm] at hsecond
    rw [hfirst, hsecond, c.reserve_of_image_error image cap hn hm]
    exact ⟨.ended none, s.missed, hover w', by simp⟩
  rw [show c.provider.count (some image) (s.inWorld w).fleet.cloud = _ from hm] at hsecond
  obtain ⟨stage, missed, hthird, hgranted⟩ := compare_add c (s.inWorld w') image cap
    ⟨n, s.arrivals⟩ ⟨m, s.arrivals⟩ (.ready ⟨n, s.arrivals⟩ ⟨m, s.arrivals⟩)
  rw [hfirst, hsecond, c.reserve_of_counts image cap hn hm]
  exact ⟨stage, missed, (turn_add c (s.inWorld w') image cap _).trans hthird, hgranted⟩

end BuildFleet
