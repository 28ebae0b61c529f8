/-
Controllers from settings.

`Controller.ofSettings` puts a provider, templates and the settings together.  It fails only if the
cap in the settings cannot be read as a number.
-/
import BuildFleet.Settings.Basic
import BuildFleet.Sweep

namespace BuildFleet

variable {σ : Type}

/-- The minutes in a number of microseconds, rounded to a double twice: as seconds, and as
minutes. -/
def doubleMinutes (micros : Int) : Rat :=
  Number.nearestDouble (Number.nearestDouble (micros / 1000000) / 60)

/-- The controllers for a provider and templates.  The pool takes every launch, ends with the
controllers and carries launches out when it is told to. -/
def Controller.ofSettings (s : Settings) (catalog : Catalog) (provider : Provider σ) :
    Except Failure (Controller σ) := do
  return {
    provider, catalog
    instanceCap := ← s.instanceCap
    launchTimeout := s.launchTimeout.val
    retentionDisabled := s.retentionDisabled
    minutes := doubleMinutes
    refuses := fun w => (none, w)
    isEager := false
    ownsPool := true
    interlude := .none }

/-- When sweeps are made. -/
def Schedule.ofSettings (s : Settings) : Schedule := ⟨s.initialDelay, s.recurrencePeriod⟩

end BuildFleet
