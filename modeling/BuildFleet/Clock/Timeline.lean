/-
Timelines.

A `Timeline` is a part of the world that answers requests, and a clock beside it.  A request takes
time, a pause takes time, and nothing else does.  Every pause and every log entry stays on record.

A clock that runs by itself does not make every pause: there is none that is shorter than nothing.
One that is set by hand is moved by whatever it is told.
-/
import BuildFleet.Action
import BuildFleet.Clock.Duration
import BuildFleet.Log

namespace BuildFleet

/-- A part of the world, with the time that passes while it is consulted. -/
structure Timeline (σ τ : Type) where
  /-- The part of the world. -/
  outside : σ
  clock : τ
  /-- The pauses so far, in order. -/
  pauses : List τ
  /-- The log so far, in order. -/
  log : List LogEntry
  /-- The clock does not run by itself. -/
  setByHand : Bool := true

/-- What a request to the outside comes to: an outcome, the time it took, and the world after it. -/
structure Response (σ τ α : Type) where
  outcome : Except Failure α
  /-- The time that the request took. -/
  took : τ
  /-- The world after it. -/
  outside : σ

namespace Timeline

variable {σ τ α : Type} [Duration τ]

/-- The time on the clock. -/
def now : Action (Timeline σ τ) τ :=
  Action.reads (·.clock)

/-- Why the clock does not make a pause of a length, if it does not. -/
def refusal? (w : Timeline σ τ) (d : τ) : Option Failure :=
  if w.setByHand then none else Duration.pauseFault? d

/-- Lets time pass, or fails if the clock does not make such a pause. -/
def pause (d : τ) : Action (Timeline σ τ) Unit := fun w =>
  match w.refusal? d with
  | some failure => (.error failure, w)
  | none => (.ok (), { w with clock := Duration.add w.clock d, pauses := w.pauses ++ [d] })

/-- Writes to the log. -/
def note (level : Level) (message : String) : Action (Timeline σ τ) Unit :=
  Action.modify fun w => { w with log := w.log ++ [⟨level, message⟩] }

/-- Makes a request to the outside. -/
def consult (request : σ → Response σ τ α) : Action (Timeline σ τ) α := fun w =>
  let response := request w.outside
  (response.outcome,
    { w with outside := response.outside, clock := Duration.add w.clock response.took })

/-! ### Pauses that are made -/

theorem refusal?_congr {w v : Timeline σ τ} (h : v.setByHand = w.setByHand) (d : τ) :
    v.refusal? d = w.refusal? d := by
  rw [refusal?, refusal?, h]

theorem pause_of_none {w : Timeline σ τ} {d : τ} (h : w.refusal? d = none) : pause d w =
    (.ok (), { w with clock := Duration.add w.clock d, pauses := w.pauses ++ [d] }) := by
  rw [pause, h]

theorem pause_of_some {w : Timeline σ τ} {d : τ} {failure : Failure}
    (h : w.refusal? d = some failure) : pause d w = (.error failure, w) := by
  rw [pause, h]

/-- A clock that runs by itself goes on to do so. -/
theorem pause_setByHand (d : τ) (w : Timeline σ τ) : (pause d w).2.setByHand = w.setByHand := by
  rw [pause]
  cases w.refusal? d <;> rfl

/-- Every clock makes a pause of a rational length that is not negative. -/
theorem refusal?_of_nonneg (w : Timeline σ Rat) {d : Rat} (h : 0 ≤ d) : w.refusal? d = none := by
  rw [refusal?, Duration.pauseFault?_of_nonneg h, ite_self]

end Timeline

end BuildFleet
