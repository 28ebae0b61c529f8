/-
Fallible steps on a state.

An `Action s α` takes a state and gives an outcome together with the state after it.  The state
counts also when the outcome is a failure, so what was done before a failure stays done, and
`ensuring` can tidy up behind it.
-/
import BuildFleet.Failure

namespace BuildFleet

/-- A step on a state of type `s` that ends in a value or in a failure. -/
def Action (s α : Type) : Type := s → Except Failure α × s

namespace Action

variable {s t α β : Type}

/-- Ends in a value and changes nothing. -/
def succeed (a : α) : Action s α := fun x => (.ok a, x)

/-- Ends in a failure and changes nothing. -/
def fail (f : Failure) : Action s α := fun x => (.error f, x)

/-- One step, and if it ends in a value, the next. -/
def andThen (m : Action s α) (f : α → Action s β) : Action s β := fun x =>
  match m x with
  | (.ok a, y) => f a y
  | (.error e, y) => (.error e, y)

instance : Monad (Action s) where
  pure := succeed
  bind := andThen

/-- A part of the state. -/
def reads (f : s → α) : Action s α := fun x => (.ok (f x), x)

/-- Changes the state. -/
def modify (f : s → s) : Action s Unit := fun x => (.ok (), f x)

/-- A step that ends in a given outcome. -/
def ofExcept (r : Except Failure α) : Action s α := fun x => (r, x)

/-- The outcome of a step as a value; the step itself then never fails. -/
def attempt (m : Action s α) : Action s (Except Failure α) := fun x =>
  let (r, y) := m x
  (.ok r, y)

/-- A step followed by another one, whether it fails or not. -/
def ensuring (m : Action s α) (after : Action s Unit) : Action s α := fun x =>
  let (r, y) := m x
  match after y with
  | (.ok _, z) => (r, z)
  | (.error e, z) => (.error e, z)

/-- A step on a part of the state. -/
def onPart (part : t → s) (put : s → t → t) (m : Action s α) : Action t α := fun x =>
  let (r, y) := m (part x)
  (r, put y x)

/-- Goes through a list and collects the values. -/
def forEach (f : α → Action s β) : List α → Action s (List β)
  | [] => succeed []
  | a :: as => do
    let b ← f a
    let bs ← forEach f as
    return b :: bs

instance : LawfulMonad (Action s) :=
  LawfulMonad.mk' _
    (fun m => by
      funext x
      show (match m x with
        | (.ok a, y) => succeed (id a) y
        | (.error e, y) => (.error e, y)) = m x
      rcases m x with ⟨_ | a, y⟩ <;> rfl)
    (fun _ _ => rfl)
    (fun m f g => by
      funext x
      show andThen (andThen m f) g x = andThen m (fun a => andThen (f a) g) x
      unfold andThen
      rcases m x with ⟨_ | a, y⟩ <;> rfl)

/-! ### Running steps -/

@[simp]
theorem pure_apply (a : α) (x : s) : (pure a : Action s α) x = (.ok a, x) := rfl

@[simp]
theorem bind_apply (m : Action s α) (f : α → Action s β) (x : s) :
    (m >>= f) x = match m x with
      | (.ok a, y) => f a y
      | (.error e, y) => (.error e, y) := rfl

theorem bind_of_ok {m : Action s α} {f : α → Action s β} {a : α} {x y : s}
    (h : m x = (.ok a, y)) : (m >>= f) x = f a y := by
  rw [bind_apply, h]

@[simp]
theorem map_apply (f : α → β) (m : Action s α) (x : s) :
    (f <$> m) x = match m x with
      | (.ok a, y) => (.ok (f a), y)
      | (.error e, y) => (.error e, y) := rfl

@[simp]
theorem fail_apply (f : Failure) (x : s) : (fail f : Action s α) x = (.error f, x) := rfl

@[simp]
theorem reads_apply (f : s → α) (x : s) : reads f x = (.ok (f x), x) := rfl

@[simp]
theorem modify_apply (f : s → s) (x : s) : modify f x = (.ok (), f x) := rfl

@[simp]
theorem ofExcept_apply (r : Except Failure α) (x : s) : ofExcept r x = (r, x) := rfl

@[simp]
theorem onPart_apply (part : t → s) (put : s → t → t) (m : Action s α) (x : t) :
    m.onPart part put x = ((m (part x)).1, put (m (part x)).2 x) := rfl

@[simp]
theorem attempt_apply (m : Action s α) (x : s) : attempt m x = (.ok (m x).1, (m x).2) := rfl

end Action

end BuildFleet
