/-
Trying again, and timing.

* **`retry`** — repeats a step as long as it fails in a way that may pass, with growing pauses
  between the attempts;
* **`timed`** — writes to the log how long a step took.
-/
import BuildFleet.Clock.Timeline

namespace BuildFleet

/-- When and how often to try again. -/
structure RetryPolicy (τ : Type) where
  /-- The number of attempts after which a failure is final. -/
  maxAttempts : Nat
  /-- The pause before the second attempt. -/
  delay : τ
  /-- The factor from each pause to the next. -/
  backoff : τ
  /-- The failure may pass. -/
  mayPass : Failure → Bool

/-- A failure of the EC2 service that may pass. -/
def Failure.isTransient : Failure → Bool
  | .service fault => fault.isTransient
  | _ => false

variable {σ τ α : Type} [Duration τ]

/-- The attempts from the number `attempt` on, with `left` attempts to go and the next pause. -/
def retryFrom (policy : RetryPolicy τ) (name : String) (step : Action (Timeline σ τ) α)
    (attempt : Nat) (pause : τ) : (left : Nat) → Action (Timeline σ τ) (Option α)
  | 0 => pure none
  | left + 1 => do
    match ← step.attempt with
    | .ok a => return some a
    | .error failure =>
      if left = 0 || !policy.mayPass failure then Action.fail failure
      else do
        Timeline.note .warning
          (s!"{name} attempt {attempt}/{policy.maxAttempts} failed: {failure.display}. " ++
            s!"Retrying in {Duration.text pause}s")
        Timeline.pause pause
        retryFrom policy name step (attempt + 1) (Duration.scale pause policy.backoff) left

/-- Repeats a step until it succeeds, fails for good, or has been tried often enough; there is no
value when it may not be tried at all. -/
def retry (policy : RetryPolicy τ) (name : String) (step : Action (Timeline σ τ) α) :
    Action (Timeline σ τ) (Option α) :=
  retryFrom policy name step 1 policy.delay policy.maxAttempts

theorem retryFrom_setByHand (policy : RetryPolicy τ) (name : String)
    {step : Action (Timeline σ τ) α} (h : ∀ w, (step w).2.setByHand = w.setByHand)
    (attempt : Nat) (pause : τ) (left : Nat) (w : Timeline σ τ) :
    (retryFrom policy name step attempt pause left w).2.setByHand = w.setByHand := by
  induction left generalizing attempt pause w with
  | zero => rfl
  | succ left ih =>
    rw [retryFrom, Action.bind_apply, Action.attempt_apply]
    rcases hr : (step w).1 with failure | a
    · by_cases hlast : left = 0 || !policy.mayPass failure
      · simp only [hlast, if_true]
        exact h w
      · simp only [hlast, Bool.false_eq_true, if_false, Timeline.note, Action.bind_apply,
          Action.modify_apply]
        generalize hnoted : ({ (step w).2 with log := _ } : Timeline σ τ) = noted
        have hkept : noted.setByHand = w.setByHand := by
          rw [← hnoted]
          exact h w
        have hpaused := Timeline.pause_setByHand pause noted
        rcases hpause : Timeline.pause pause noted with ⟨e | u, y⟩ <;> rw [hpause] at hpaused
        · exact hpaused.trans hkept
        · exact (ih _ _ _).trans (hpaused.trans hkept)
    · exact h w

/-- The seconds from which on a step counts as slow. -/
def slowSeconds : Nat := 5

/-- Writes to the log how long a step took: a failure at the level of errors, a slow step as a
warning. -/
def timed (name : String) (step : Action (Timeline σ τ) α) : Action (Timeline σ τ) α := do
  let start ← Timeline.now
  let outcome ← step.attempt
  let took := Duration.sub (← Timeline.now) start
  match outcome with
  | .error failure =>
    Timeline.note .error s!"{name} failed after {Duration.text took}s: {failure.display}"
    Action.fail failure
  | .ok a =>
    if Duration.atLeast took (Duration.seconds slowSeconds) then
      Timeline.note .warning s!"{name} took {Duration.text took}s"
    else Timeline.note .debug s!"{name} completed in {Duration.text took}s"
    return a

/-- Timing a step does not change what it comes to. -/
theorem timed_fst (name : String) (step : Action (Timeline σ τ) α) (w : Timeline σ τ) :
    (timed name step w).1 = (step w).1 := by
  simp only [timed, Action.bind_apply, Timeline.now, Action.reads_apply, Action.attempt_apply]
  rcases (step w).1 with e | a
  · rfl
  · dsimp only
    split <;> rfl

/-- Timing a step does not change what it does outside. -/
theorem timed_outside (name : String) (step : Action (Timeline σ τ) α) (w : Timeline σ τ) :
    (timed name step w).2.outside = (step w).2.outside := by
  simp only [timed, Action.bind_apply, Timeline.now, Action.reads_apply, Action.attempt_apply]
  rcases (step w).1 with e | a
  · rfl
  · dsimp only
    split <;> rfl

end BuildFleet
