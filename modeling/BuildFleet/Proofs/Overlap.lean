/-
Caps under overlapping reservations.

The counts that a comparison uses are older than the slots that it adds to them.  **`live_rush_le`**
says what the caps are worth all the same, however the steps of reservations and launches are
interleaved: the instances and the slots together exceed a cap by no more than the hand-overs under
way, in which an instance and its slot are both counted, and the hand-overs that a granted
comparison has missed, in which neither was.

That both occur is **`rush_exceeds_caps`**.

The invariant, **`Sound`**, says of every count that has not been compared yet what it is still
worth: the instances there now are at most those that were counted and those that have come since.
-/
import BuildFleet.Proofs.Census
import BuildFleet.Proofs.Rush
import Mathlib.Tactic.Set

namespace BuildFleet

variable {σ : Type} {c : Controller σ} {live : σ → Multiset String} {caps : String → Int}

/-- The cap on all instances, or on those of one image. -/
def limit (c : Controller σ) (caps : String → Int) : Option String → Int
  | none => c.instanceCap
  | some image => caps image

/-! ### Tallies -/

theorem Rush.tally_add (s : Rush σ) (r : Reservation) (which : Option String)
    (kind : Stage → Bool) :
    (s.add r).tally which kind = s.tally which kind + hit which r.image (kind r.stage) := by
  simp [tally, add, hit, List.countP_append, List.countP_singleton]

theorem Rush.tally_settle {s : Rush σ} {k : Nat} {r : Reservation}
    (hk : s.reservations[k]? = some r) (stage : Stage) (which : Option String)
    (kind : Stage → Bool) :
    (s.settle k stage).tally which kind + hit which r.image (kind r.stage) =
      s.tally which kind + hit which r.image (kind stage) := by
  have h := Pool.countP_modify
    (fun r : Reservation => which.all (fun image => image = r.image) && kind r.stage)
    (fun r : Reservation => { r with stage }) hk
  exact h

theorem Rush.mem_settle {s : Rush σ} {k : Nat} {r r' : Reservation}
    (hk : s.reservations[k]? = some r) {stage : Stage}
    (h : r' ∈ (s.settle k stage).reservations) : r' = { r with stage } ∨ r' ∈ s.reservations := by
  obtain ⟨j, hj⟩ := List.mem_iff_getElem?.mp h
  by_cases hkj : k = j
  · subst hkj
    rw [settle, List.getElem?_modify_eq, hk] at hj
    exact .inl (Option.some.inj hj).symm
  · rw [settle, List.getElem?_modify_ne _ _ hkj] at hj
    exact .inr (List.mem_iff_getElem?.mpr ⟨j, hj⟩)

/-- The instances that have come since a count are in a hand-over, or theirs is over. -/
theorem Rush.came_le (s : Rush σ) (which : Option String) (seen : Nat) :
    s.tally which (Stage.cameSince seen) ≤
      s.handovers which + s.tally which (Stage.wentSince seen) := by
  unfold handovers tally Stage.wentSince
  induction s.reservations with
  | nil => simp
  | cons r rs ih =>
    simp only [List.countP_cons]
    cases which.all (· = r.image) <;> cases r.stage.cameSince seen <;>
      cases r.stage.isArrived <;> simp <;> omega

/-! ### The invariant -/

/-- The counts of a reservation that have not been compared yet. -/
def Stage.readings (image : String) : Stage → List (Option String × Reading)
  | counted total => [(none, total)]
  | ready total ofImage => [(none, total), (some image, ofImage)]
  | _ => []

/-- The instances there now are at most those that were counted and those that have come since. -/
def Rush.Knows (s : Rush σ) (live : σ → Multiset String) (which : Option String)
    (reading : Reading) : Prop :=
  numberIn which (live s.fleet.cloud) ≤
      reading.number + s.tally which (Stage.cameSince reading.seen) ∧
    reading.seen ≤ s.arrivals

/-- What holds in a rush between any two steps. -/
structure Sound (c : Controller σ) (live : σ → Multiset String) (caps : String → Int)
    (s : Rush σ) : Prop where
  /-- A slot that a reservation has taken is in use. -/
  held : ∀ which, s.tally which Stage.holds ≤ s.fleet.ledger.slotsOf which
  capped : ∀ r ∈ s.reservations, r.cap ≤ caps r.image
  known : ∀ r ∈ s.reservations, ∀ p ∈ r.stage.readings r.image, s.Knows live p.1 p.2
  bound : ∀ which,
    (numberIn which (live s.fleet.cloud) + s.fleet.ledger.slotsOf which : Int) ≤
      limit c caps which + s.handovers which + s.missed which

/-- Neither a slot nor an instance goes with the stage. -/
structure Stage.Idle (stage : Stage) : Prop where
  holds : stage.holds = false
  rank : stage.rank? = none

theorem Stage.idle_ended : (Stage.ended none).Idle := ⟨rfl, rfl⟩

theorem Stage.Idle.isArrived {stage : Stage} (h : stage.Idle) : stage.isArrived = false := by
  cases stage with
  | arrived rank => exact absurd h.holds (by simp [Stage.holds])
  | _ => rfl

theorem Stage.Idle.cameSince {stage : Stage} (h : stage.Idle) (seen : Nat) :
    stage.cameSince seen = false := by
  rw [Stage.cameSince, h.rank]
  rfl

namespace Sound

variable {s : Rush σ} {k : Nat} {r : Reservation}

/-- When a reservation comes to a stage and the rest of the rush changes with it, it is enough to
compare what changes. -/
theorem settle (hs : Sound c live caps s) (hk : s.reservations[k]? = some r) {stage : Stage}
    {f : Fleet σ} {arrivals : Nat} {missed : Option String → Nat}
    (held : ∀ which, s.fleet.ledger.slotsOf which + hit which r.image stage.holds ≤
      f.ledger.slotsOf which + hit which r.image r.stage.holds)
    (came : ∀ which seen, seen ≤ s.arrivals →
      numberIn which (live f.cloud) + hit which r.image (r.stage.cameSince seen) ≤
        numberIn which (live s.fleet.cloud) + hit which r.image (stage.cameSince seen))
    (later : s.arrivals ≤ arrivals)
    (readings : ∀ p ∈ stage.readings r.image, p ∈ r.stage.readings r.image ∨
      numberIn p.1 (live f.cloud) ≤ p.2.number ∧ p.2.seen ≤ arrivals)
    (bound : ∀ which, (numberIn which (live f.cloud) + f.ledger.slotsOf which +
        hit which r.image r.stage.isArrived : Int) ≤
      limit c caps which + s.handovers which + hit which r.image stage.isArrived + missed which) :
    Sound c live caps ({ s with fleet := f, arrivals, missed }.settle k stage) := by
  set s' : Rush σ := { s with fleet := f, arrivals, missed }.settle k stage with hs'
  have htally : ∀ which kind, s'.tally which kind + hit which r.image (kind r.stage) =
      s.tally which kind + hit which r.image (kind stage) := fun which kind =>
    Rush.tally_settle (s := { s with fleet := f, arrivals, missed }) hk stage which kind
  have hmem : ∀ r' ∈ s'.reservations, r' = { r with stage } ∨ r' ∈ s.reservations := fun _ hr' =>
    Rush.mem_settle (s := { s with fleet := f, arrivals, missed }) hk hr'
  have hr : r ∈ s.reservations := List.mem_of_getElem? hk
  -- A count that was good for something before the step still is.
  have hkeep : ∀ which reading, s.Knows live which reading → s'.Knows live which reading := by
    intro which reading ⟨hnumber, hseen⟩
    have := htally which (Stage.cameSince reading.seen)
    have := came which reading.seen hseen
    refine ⟨?_, hseen.trans later⟩
    show numberIn which (live f.cloud) ≤ _
    omega
  refine ⟨fun which => ?_, fun r' hr' => ?_, fun r' hr' p hp => ?_, fun which => ?_⟩
  · have := htally which Stage.holds
    have := hs.held which
    have := held which
    show s'.tally which Stage.holds ≤ f.ledger.slotsOf which
    omega
  · rcases hmem r' hr' with rfl | hr'
    · exact hs.capped r hr
    · exact hs.capped r' hr'
  · rcases hmem r' hr' with rfl | hr'
    · rcases readings p hp with hold | ⟨hnumber, hseen⟩
      · exact hkeep _ _ (hs.known r hr p hold)
      · exact ⟨hnumber.trans (Nat.le_add_right _ _), hseen⟩
    · exact hkeep _ _ (hs.known r' hr' p hp)
  · have := htally which Stage.isArrived
    have := bound which
    show (numberIn which (live f.cloud) + f.ledger.slotsOf which : Int) ≤
      limit c caps which + s'.handovers which + missed which
    simp only [Rush.handovers] at *
    omega

/-- Fewer instances do no harm. -/
theorem shrink (hs : Sound c live caps s) {w : σ} (hle : live w ≤ live s.fleet.cloud) :
    Sound c live caps (s.inWorld w) where
  held := hs.held
  capped := hs.capped
  known r hr p hp :=
    ⟨(numberIn_mono hle p.1).trans (hs.known r hr p hp).1, (hs.known r hr p hp).2⟩
  bound which := by
    have := hs.bound which
    have := numberIn_mono hle which
    show (numberIn which (live w) + s.fleet.ledger.slotsOf which : Int) ≤
      limit c caps which + s.handovers which + s.missed which
    omega

/-! ### The steps -/

theorem ask (hs : Sound c live caps s) {image : String} {cap : Int} (hcap : cap ≤ caps image) :
    Sound c live caps (s.add ⟨image, cap, .asked⟩) := by
  have htally : ∀ which kind, kind Stage.asked = false →
      (s.add ⟨image, cap, .asked⟩).tally which kind = s.tally which kind := by
    intro which kind hkind
    rw [Rush.tally_add, hkind, hit_false, Nat.add_zero]
  have hmem : ∀ r ∈ (s.add ⟨image, cap, .asked⟩).reservations,
      r ∈ s.reservations ∨ r = ⟨image, cap, .asked⟩ := by
    intro r hr
    simpa [Rush.add] using hr
  refine ⟨fun which => ?_, fun r hr => ?_, fun r hr p hp => ?_, fun which => ?_⟩
  · rw [htally which _ rfl]
    exact hs.held which
  · rcases hmem r hr with hr | rfl
    · exact hs.capped r hr
    · exact hcap
  · rcases hmem r hr with hr | rfl
    · rw [Rush.Knows, htally p.1 _ rfl]
      exact hs.known r hr p hp
    · exact absurd hp List.not_mem_nil
  · rw [Rush.handovers, htally which _ rfl]
    exact hs.bound which

/-- A step between two stages without a slot and without an instance. -/
theorem settle_idle (hs : Sound c live caps s) (hk : s.reservations[k]? = some r)
    (hr : r.stage.Idle) {stage : Stage} (hstage : stage.Idle) {f : Fleet σ}
    (hledger : f.ledger = s.fleet.ledger) (hle : live f.cloud ≤ live s.fleet.cloud)
    (readings : ∀ p ∈ stage.readings r.image, p ∈ r.stage.readings r.image ∨
      numberIn p.1 (live f.cloud) ≤ p.2.number ∧ p.2.seen ≤ s.arrivals) :
    Sound c live caps ({ s with fleet := f }.settle k stage) := by
  refine hs.settle hk (fun which => ?_) (fun which seen _ => ?_) le_rfl readings fun which => ?_
  · rw [hr.holds, hstage.holds, hledger]
  · rw [hr.cameSince, hstage.cameSince, hit_false]
    exact Nat.add_le_add_right (numberIn_mono hle which) 0
  · have := hs.bound which
    have := numberIn_mono hle which
    rw [hr.isArrived, hstage.isArrived, hledger, hit_false]
    omega

theorem look (hs : Sound c live caps s) (hn : Census c live) (hk : s.reservations[k]? = some r)
    (hr : r.stage.Idle) {which : Option String} {next : Reading → Stage}
    (hnext : ∀ reading, (next reading).Idle)
    (hreadings : ∀ reading, ∀ p ∈ (next reading).readings r.image,
      p ∈ r.stage.readings r.image ∨ p = (which, reading)) :
    Sound c live caps (c.look s k which next) := by
  have hle : live (c.provider.count which s.fleet.cloud).2 ≤ live s.fleet.cloud :=
    hn.asked (.count which s.fleet.cloud)
  rw [Controller.look]
  rcases hcount : c.provider.count which s.fleet.cloud with ⟨e | n, w⟩
  · rw [hcount] at hle
    exact hs.settle_idle hk hr Stage.idle_ended rfl hle fun p hp => absurd hp List.not_mem_nil
  · rw [hcount] at hle
    refine hs.settle_idle hk hr (hnext _) rfl hle fun p hp => ?_
    rcases hreadings _ p hp with hold | rfl
    · exact .inl hold
    · exact .inr ⟨(hn.exact hcount).1, le_rfl⟩

/-- What was counted, what is in a hand-over and what was missed is all that there is. -/
theorem grant (hs : Sound c live caps s) (hk : s.reservations[k]? = some r)
    {total ofImage : Reading} (hstage : r.stage = .ready total ofImage)
    (hrefusal : s.fleet.ledger.refusal? r.image ⟨total.number, ofImage.number⟩
      ⟨c.instanceCap, r.cap⟩ = none) (which : Option String) :
    (numberIn which (live s.fleet.cloud) + (s.fleet.ledger.take r.image).slotsOf which : Int) ≤
      limit c caps which + s.handovers which + s.missedBy r.image total ofImage which := by
  have hr : r ∈ s.reservations := List.mem_of_getElem? hk
  obtain ⟨htotal, himage⟩ := Ledger.refusal?_eq_none.mp hrefusal
  have hcap := hs.capped r hr
  have hknown : ∀ which reading, (which, reading) ∈ r.stage.readings r.image →
      numberIn which (live s.fleet.cloud) ≤
        reading.number + s.tally which (Stage.cameSince reading.seen) :=
    fun _ _ hp => (hs.known r hr _ hp).1
  rw [Ledger.slotsOf_take]
  cases which with
  | none =>
    have := hknown none total (by simp [hstage, Stage.readings])
    have hcame := s.came_le none total.seen
    simp only [Rush.missedBy, Ledger.slotsOf, limit, hit_none] at *
    omega
  | some other =>
    by_cases ho : other = r.image
    · subst ho
      have := hknown (some r.image) ofImage (by simp [hstage, Stage.readings])
      have hcame := s.came_le (some r.image) ofImage.seen
      simp only [Rush.missedBy, Ledger.slotsOf, limit, hit_self, if_true] at *
      omega
    · have := hs.bound (some other)
      rw [Rush.missedBy, if_neg ho, hit_of_ne ho, Nat.add_zero]
      exact this

theorem compare (hs : Sound c live caps s) (hk : s.reservations[k]? = some r)
    {total ofImage : Reading} (hstage : r.stage = .ready total ofImage) :
    Sound c live caps (c.compare s k r total ofImage) := by
  have hidle : r.stage.Idle := by rw [hstage]; exact ⟨rfl, rfl⟩
  rw [Controller.compare]
  rcases hr : s.fleet.ledger.refusal? r.image ⟨total.number, ofImage.number⟩
    ⟨c.instanceCap, r.cap⟩ with _ | refusal
  · obtain ⟨log, ht⟩ := c.takeSlot_of_none r.image r.cap ⟨total.number, ofImage.number⟩ hr
    rw [ht]
    refine hs.settle hk (fun which => ?_) (fun which seen _ => ?_) le_rfl
      (fun p hp => absurd hp List.not_mem_nil) fun which => ?_
    · rw [hidle.holds, hit_false]
      exact (s.fleet.ledger.slotsOf_take which r.image).ge
    · rw [hidle.cameSince]
      exact le_rfl
    · have := hs.grant hk hstage hr which
      have hgranted : Stage.granted.isArrived = false := rfl
      rw [hidle.isArrived, hgranted, hit_false]
      simpa using this
  · obtain ⟨log, ht⟩ := c.takeSlot_of_refusal r.image r.cap ⟨total.number, ofImage.number⟩ hr
    rw [ht]
    exact hs.settle_idle hk hidle Stage.idle_ended rfl le_rfl
      fun p hp => absurd hp List.not_mem_nil

theorem arrive (hs : Sound c live caps s) (hn : Census c live)
    (hk : s.reservations[k]? = some r) (hstage : r.stage = .granted) {t : Template}
    (ht : t.imageId = r.image) : Sound c live caps (c.arrive s k t) := by
  rw [Controller.arrive]
  rcases hl : c.provider.launch t s.fleet.cloud with ⟨e | handle, w⟩
  · have hle := hn.refused hl
    refine hs.settle hk (fun which => ?_) (fun which seen _ => ?_) le_rfl
      (fun p hp => absurd hp List.not_mem_nil) fun which => ?_
    · rw [hstage]
      exact le_rfl
    · rw [hstage]
      exact Nat.add_le_add_right (numberIn_mono hle which) _
    · have := hs.bound which
      have := numberIn_mono hle which
      show (numberIn which (live w) + s.fleet.ledger.slotsOf which + _ : Int) ≤ _
      simp only [hstage, Stage.isArrived, hit_false]
      omega
  · -- The instance is there, and its slot is taken as well: a hand-over begins.
    have hle : ∀ which, numberIn which (live w) ≤
        numberIn which (live s.fleet.cloud) + hit which r.image true := by
      intro which
      have h := numberIn_mono (hn.launched hl) which
      rwa [numberIn_cons, ht] at h
    refine hs.settle hk (fun which => ?_) (fun which seen hseen => ?_) (Nat.le_succ _)
      (fun p hp => absurd hp List.not_mem_nil) fun which => ?_
    · rw [hstage]
      exact le_rfl
    · have hcame : (Stage.arrived s.arrivals).cameSince seen = true := by
        simpa [Stage.cameSince, Stage.rank?] using hseen
      have hgranted : Stage.granted.cameSince seen = false := rfl
      rw [hstage, hcame, hgranted, hit_false]
      exact hle which
    · have := hs.bound which
      have := hle which
      show (numberIn which (live w) + s.fleet.ledger.slotsOf which + _ : Int) ≤
        _ + _ + _ + s.missed which
      simp only [hstage, Stage.isArrived, hit_false]
      omega

theorem release (hs : Sound c live caps s) (hk : s.reservations[k]? = some r)
    (hholds : r.stage.holds = true) :
    Sound c live caps
      ({ s with fleet := (Controller.release r.image s.fleet).2 }.settle k
        (.ended r.stage.rank?)) := by
  have hpos : 0 < s.fleet.ledger.inFlight r.image := by
    have htally : 0 < s.tally (some r.image) Stage.holds :=
      List.countP_pos_iff.mpr ⟨r, List.mem_of_getElem? hk, by simp [hholds]⟩
    exact htally.trans_le (hs.held (some r.image))
  have hslots := fun which => Ledger.slotsOf_release hpos which
  refine hs.settle hk (fun which => ?_) (fun which seen _ => le_rfl) le_rfl
    (fun p hp => absurd hp List.not_mem_nil) fun which => ?_
  · have hover : (Stage.ended r.stage.rank?).holds = false := rfl
    rw [hholds, hover, hit_false]
    exact (hslots which).ge
  · -- If a hand-over is under way, it ends with its slot.
    have hend := hit_le which r.image r.stage.isArrived
    have hended : (Stage.ended r.stage.rank?).isArrived = false := rfl
    have := hslots which
    have := hs.bound which
    rw [hended, hit_false]
    show (numberIn which (live s.fleet.cloud) + (s.fleet.ledger.release r.image).slotsOf which + _ :
      Int) ≤ _
    omega

theorem advance (hs : Sound c live caps s) (hn : Census c live)
    (hk : s.reservations[k]? = some r) : Sound c live caps (c.advance s k r) := by
  rw [Controller.advance]
  cases hstage : r.stage with
  | asked =>
    refine hs.look hn hk (by rw [hstage]; exact ⟨rfl, rfl⟩) (fun _ => ⟨rfl, rfl⟩) ?_
    intro reading p hp
    exact .inr (by simpa [Stage.readings] using hp)
  | counted total =>
    refine hs.look hn hk (by rw [hstage]; exact ⟨rfl, rfl⟩) (fun _ => ⟨rfl, rfl⟩) ?_
    intro reading p hp
    simpa [hstage, Stage.readings] using hp
  | ready total ofImage => exact hs.compare hk hstage
  | _ => exact hs

end Sound

/-- The reservations keep to the caps that are meant for their images, and the world outside changes
by itself only in that instances disappear. -/
def Turn.Within (live : σ → Multiset String) (caps : String → Int) : Turn σ → Prop
  | .ask image cap => cap ≤ caps image
  | .elsewhere world => Shrinks live world
  | _ => True

theorem Sound.turn {s : Rush σ} (hs : Sound c live caps s) (hn : Census c live) {turn : Turn σ}
    (ht : turn.Within live caps) : Sound c live caps (c.turn s turn) := by
  cases turn with
  | ask image cap => exact hs.ask ht
  | proceed k =>
    rw [Controller.turn]
    cases hk : s.reservations[k]? with
    | none => exact hs
    | some r => exact hs.advance hn hk
  | launch k t =>
    rw [Controller.turn]
    cases hk : s.reservations[k]? with
    | none => exact hs
    | some r =>
      by_cases h : r.stage = .granted ∧ t.imageId = r.image
      · simpa only [if_pos h] using hs.arrive hn hk h.1 h.2
      · simpa only [if_neg h] using hs
  | release k =>
    rw [Controller.turn]
    cases hk : s.reservations[k]? with
    | none => exact hs
    | some r =>
      by_cases h : r.stage.holds = true
      · simpa only [if_pos h] using hs.release hk h
      · simpa only [if_neg h] using hs
  | elsewhere world => exact hs.shrink (ht s.fleet.cloud)

theorem Sound.rush (hn : Census c live) {turns : List (Turn σ)}
    (ht : ∀ turn ∈ turns, turn.Within live caps) {s : Rush σ} (hs : Sound c live caps s) :
    Sound c live caps (c.rush turns s) := by
  induction turns generalizing s with
  | nil => exact hs
  | cons turn turns ih =>
    exact ih (fun t h => ht t (List.mem_cons_of_mem turn h))
      (hs.turn hn (ht turn List.mem_cons_self))

/-- **What the caps are worth when reservations overlap**: from a start within the caps, however the
steps of any number of reservations and launches are interleaved, the instances and the slots
together exceed the cap on all of them by no more than the hand-overs under way and the hand-overs
that one granted comparison has missed, and likewise for each image and the cap that is meant for
it. -/
theorem live_rush_le (hn : Census c live) {turns : List (Turn σ)}
    (ht : ∀ turn ∈ turns, turn.Within live caps) {f : Fleet σ}
    (htotal : ((live f.cloud).card + f.ledger.total : Int) ≤ c.instanceCap)
    (himage : ∀ image, ((live f.cloud).count image + f.ledger.inFlight image : Int) ≤ caps image) :
    ((live (c.rush turns (.start f)).fleet.cloud).card +
          (c.rush turns (.start f)).fleet.ledger.total : Int) ≤
        c.instanceCap + (c.rush turns (.start f)).handovers none +
          (c.rush turns (.start f)).missed none ∧
      ∀ image, ((live (c.rush turns (.start f)).fleet.cloud).count image +
          (c.rush turns (.start f)).fleet.ledger.inFlight image : Int) ≤
        caps image + (c.rush turns (.start f)).handovers (some image) +
          (c.rush turns (.start f)).missed (some image) := by
  have hstart : Sound c live caps (.start f) := by
    refine ⟨fun which => Nat.zero_le _, fun r hr => ?_, fun r hr => ?_, fun which => ?_⟩
    · exact absurd hr List.not_mem_nil
    · exact absurd hr List.not_mem_nil
    · cases which with
      | none =>
        simpa [Rush.handovers, Rush.tally, Rush.start, numberIn, Ledger.slotsOf, limit]
          using htotal
      | some image =>
        simpa [Rush.handovers, Rush.tally, Rush.start, numberIn, Ledger.slotsOf, limit]
          using himage image
  have hend := (hstart.rush hn ht).bound
  exact ⟨hend none, fun image => hend (some image)⟩

/-! ### Room for one -/

/-- Controllers with room for one instance. -/
def onePlace : Controller SmallCloud := .small [.plain "a" "ami-1" "linux" 1] 1

/-- A launch has succeeded, and its slot is not given back yet. -/
def handOver : Rush SmallCloud :=
  onePlace.rush [.ask "ami-1" 1, .proceed 0, .proceed 0, .proceed 0,
    .launch 0 (.plain "a" "ami-1" "linux" 1)] (.start (.fresh ⟨[], 2, 20⟩ ⟨0⟩))

/-- A second reservation has counted while the first one was granted and not launched yet, and it
compares when the instance of the first one is there and the slot is given back. -/
def race : Rush SmallCloud :=
  onePlace.rush [.ask "ami-1" 1, .ask "ami-1" 1, .proceed 0, .proceed 0, .proceed 0, .proceed 1,
    .proceed 1, .launch 0 (.plain "a" "ami-1" "linux" 1), .release 0, .proceed 1,
    .launch 1 (.plain "a" "ami-1" "linux" 1), .release 1] (.start (.fresh ⟨[], 2, 20⟩ ⟨0⟩))

theorem live_rush_le_race :
    (race.fleet.cloud.live.card + race.fleet.ledger.total : Int) ≤
        1 + race.handovers none + race.missed none ∧
      race.fleet.cloud.live.card = 2 ∧ race.handovers none = 0 ∧ race.missed none = 1 := by
  have ht : ∀ turn ∈ [Turn.ask "ami-1" 1, .ask "ami-1" 1, .proceed 0, .proceed 0, .proceed 0,
      .proceed 1, .proceed 1, .launch 0 (.plain "a" "ami-1" "linux" 1), .release 0, .proceed 1,
      .launch 1 (.plain "a" "ami-1" "linux" 1), .release 1],
      turn.Within SmallCloud.live fun _ => 1 := by
    simp [Turn.Within]
  obtain ⟨htotal, -⟩ := live_rush_le (census_small [.plain "a" "ami-1" "linux" 1] 1) ht
    (f := .fresh ⟨[], 2, 20⟩ ⟨0⟩) (by decide +kernel) fun image => by
      simp [Fleet.fresh, SmallCloud.live]
  rw [race]
  exact ⟨htotal, by decide +kernel, by decide +kernel, by decide +kernel⟩

/-- The caps themselves do not hold when reservations overlap: in a hand-over an instance and its
slot are both there, and after the race there are two instances and no hand-over any more. -/
theorem rush_exceeds_caps :
    onePlace.instanceCap <
        (handOver.fleet.cloud.live.card + handOver.fleet.ledger.total : Int) ∧
      onePlace.instanceCap < (race.fleet.cloud.live.card + race.fleet.ledger.total : Int) ∧
      (1 : Int) < handOver.fleet.cloud.live.count "ami-1" +
        handOver.fleet.ledger.inFlight "ami-1" := by
  refine ⟨?_, ?_, ?_⟩
  · decide +kernel
  · decide +kernel
  · decide +kernel

end BuildFleet
