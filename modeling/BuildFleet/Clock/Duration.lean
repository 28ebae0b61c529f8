/-
Durations.

A type of durations in seconds can be added, subtracted, scaled and compared; a duration can be
covered by steps of whole seconds, be the length of a pause and be written with two places.
Programs run on doubles; rational durations obey the same rules without rounding.
-/
import BuildFleet.Failure
import BuildFleet.Number.Double

namespace BuildFleet

/-- Durations in seconds. -/
class Duration (τ : Type) where
  seconds : Nat → τ
  half : τ
  add : τ → τ → τ
  sub : τ → τ → τ
  scale : τ → τ → τ
  atLeast : τ → τ → Bool
  longer : τ → τ → Bool
  /-- The least number of steps of so many seconds that cover the duration. -/
  steps : Nat → τ → Except Failure Int
  /-- Why there is no pause of so many seconds, if there is none. -/
  pauseFault? : τ → Option Failure
  /-- The duration in seconds with two places. -/
  text : τ → String

namespace Duration

/-- The longer of a duration and a number of seconds. -/
def orAtLeast {τ : Type} [Duration τ] (x : τ) (n : Nat) : τ :=
  if longer (seconds n) x then seconds n else x

/-- No pause is shorter than none. -/
def negativePause : Failure := .badValue "sleep length must be non-negative"

instance : Duration Rat where
  seconds n := n
  half := 1 / 2
  add x y := x + y
  sub x y := x - y
  scale x y := x * y
  atLeast x y := decide (y ≤ x)
  longer x y := decide (y < x)
  steps n x := .ok (x / n).ceil
  pauseFault? x := if x < 0 then some negativePause else none
  text x := Number.fixed 2 x

theorem pauseFault?_of_nonneg {d : Rat} (h : 0 ≤ d) : pauseFault? d = none :=
  if_neg (Rat.not_lt.mpr h)

/-- The least integer that is not below a double. -/
def ceilDouble (x : Float) : Except Failure Int :=
  match Number.parts x with
  | .nan => .error (.badValue "cannot convert float NaN to integer")
  | .infinite _ => .error .infinite
  | .finite .. => .ok ((Number.value? x).getD 0).ceil

/-- What is wrong with a double as the length of a pause: a clock counts nanoseconds in a signed
word of 64 bits. -/
def doublePauseFault? (x : Float) : Option Failure :=
  match Number.parts x with
  | .nan => some (.badValue "Invalid value NaN (not a number)")
  | .infinite _ => some .infinite
  | .finite .. =>
    let nanoseconds := Number.nearestDouble ((Number.value? x).getD 0 * 1000000000)
    if nanoseconds < -Number.twoTo 63 || Number.twoTo 63 ≤ nanoseconds then some .infinite
    else if nanoseconds < 0 then some negativePause
    else none

instance : Duration Float where
  seconds n := Number.ofDecimal n 0
  half := 0.5
  add x y := x + y
  sub x y := x - y
  scale x y := x * y
  atLeast x y := y ≤ x
  longer x y := y < x
  steps n x := ceilDouble (x / Number.ofDecimal n 0)
  pauseFault? := doublePauseFault?
  text x := Number.fixedDouble 2 x

end Duration

end BuildFleet
