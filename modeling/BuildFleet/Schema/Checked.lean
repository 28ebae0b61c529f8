/-
The result of checking a value against a shape.

A check gathers the defects of all parts of a value; it breaks off only at a value that a rule
cannot even look at, and then ends in a failure.  `Checked` combines the two with the log entries
written on the way: `<*>` puts checks of different parts side by side, and `andThen` applies one
more check to a value that passed.
-/
import BuildFleet.Failure
import BuildFleet.Log

namespace BuildFleet.Schema

/-- What a check found. -/
inductive Verdict (α : Type) where
  /-- The value has the shape, and this is what it holds. -/
  | accepted (a : α)
  /-- The value has these defects. -/
  | rejected (issues : List Issue)
  /-- The check broke off. -/
  | brokenOff (failure : Failure)
deriving Repr

/-- What a check found, and what it wrote to the log. -/
structure Checked (α : Type) where
  /-- The log entries, in order. -/
  notes : List LogEntry
  /-- What the check found. -/
  verdict : Verdict α
deriving Repr

namespace Checked

variable {α β : Type}

/-- The value passes as it is. -/
def accept (a : α) : Checked α := ⟨[], .accepted a⟩

/-- The value has one defect, at its top. -/
def reject (complaint : Complaint) : Checked α := ⟨[], .rejected [⟨[], complaint⟩]⟩

/-- The check breaks off. -/
def breakOff (failure : Failure) : Checked α := ⟨[], .brokenOff failure⟩

/-- The value passes, and an entry goes to the log. -/
def acceptNoting (entry : LogEntry) (a : α) : Checked α := ⟨[entry], .accepted a⟩

/-- Two checks side by side: the defects of both, or the first breaking off. -/
def both (f : Checked (α → β)) (x : Checked α) : Checked β :=
  match f.verdict with
  | .brokenOff failure => ⟨f.notes, .brokenOff failure⟩
  | .accepted g =>
    ⟨f.notes ++ x.notes,
      match x.verdict with
      | .accepted a => .accepted (g a)
      | .rejected issues => .rejected issues
      | .brokenOff failure => .brokenOff failure⟩
  | .rejected issues =>
    ⟨f.notes ++ x.notes,
      match x.verdict with
      | .accepted _ => .rejected issues
      | .rejected more => .rejected (issues ++ more)
      | .brokenOff failure => .brokenOff failure⟩

instance : Applicative Checked where
  pure := accept
  seq f x := both f (x ())

/-- One more check of a value that passed. -/
def andThen (x : Checked α) (f : α → Checked β) : Checked β :=
  match x.verdict with
  | .accepted a => ⟨x.notes ++ (f a).notes, (f a).verdict⟩
  | .rejected issues => ⟨x.notes, .rejected issues⟩
  | .brokenOff failure => ⟨x.notes, .brokenOff failure⟩

/-- The same check, of a value one step further in. -/
def under (step : Step) (x : Checked α) : Checked α :=
  { x with
    verdict := match x.verdict with
      | .rejected issues => .rejected (issues.map (·.under step))
      | verdict => verdict }

/-- The value that passed, or why there is none. -/
def toExcept (x : Checked α) : Except Failure α :=
  match x.verdict with
  | .accepted a => .ok a
  | .rejected issues => .error (.invalid issues)
  | .brokenOff failure => .error failure

/-! ### Values that pass -/

theorem toExcept_eq_ok {x : Checked α} {a : α} : x.toExcept = .ok a ↔ x.verdict = .accepted a := by
  rw [toExcept]
  cases x.verdict with
  | accepted b => simp
  | rejected issues => simp
  | brokenOff failure => simp

/-- Two checks side by side pass if both do. -/
theorem seq_accepted {f : Checked (α → β)} {x : Checked α} {b : β} :
    (f <*> x).verdict = .accepted b ↔
      ∃ g a, f.verdict = .accepted g ∧ x.verdict = .accepted a ∧ g a = b := by
  show (both f x).verdict = .accepted b ↔ _
  rw [both]
  cases hf : f.verdict with
  | accepted g => cases hx : x.verdict <;> simp
  | rejected issues => cases hx : x.verdict <;> simp
  | brokenOff failure => simp

theorem map_accepted {g : α → β} {x : Checked α} {b : β} :
    (g <$> x).verdict = .accepted b ↔ ∃ a, x.verdict = .accepted a ∧ g a = b := by
  show (pure g <*> x).verdict = .accepted b ↔ _
  rw [seq_accepted]
  constructor
  · rintro ⟨g', a, hg, hx, hb⟩
    cases hg
    exact ⟨a, hx, hb⟩
  · rintro ⟨a, hx, hb⟩
    exact ⟨g, a, rfl, hx, hb⟩

/-- Where a check took place does not matter for a value that passes. -/
theorem under_accepted {step : Step} {x : Checked α} {a : α} :
    (x.under step).verdict = .accepted a ↔ x.verdict = .accepted a := by
  rw [under]
  cases x.verdict <;> simp

/-- One check after the other passes if both do. -/
theorem andThen_accepted {x : Checked α} {f : α → Checked β} {b : β} :
    (x.andThen f).verdict = .accepted b ↔
      ∃ a, x.verdict = .accepted a ∧ (f a).verdict = .accepted b := by
  rw [andThen]
  cases x.verdict <;> simp

/-! ### Values that pass as they are -/

theorem accept_andThen (a : α) (f : α → Checked β) : (accept a).andThen f = f a := rfl

theorem map_accept (g : α → β) (a : α) : g <$> accept a = accept (g a) := rfl

theorem accept_seq (g : α → β) (a : α) : accept g <*> accept a = accept (g a) := rfl

theorem accept_under (step : Step) (a : α) : (accept a).under step = accept a := rfl

end Checked

end BuildFleet.Schema
