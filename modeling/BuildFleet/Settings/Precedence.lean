/-
Which value of a setting counts.

A setting is looked up first among the values given outright, then among the variables of the
process, then in a file of variables.  All names are compared without regard to case, and the name
that other tools use for a setting is tried before its own.
-/
import BuildFleet.Settings.Source
import BuildFleet.Settings.VariablesFile

namespace BuildFleet.Settings

open Json (Value)

/-- The value given outright for a name: the one whose name is spelled alike comes before those
whose names differ in case. -/
def findGiven (given : List (String × Value)) (name : String) : Option Value :=
  Value.lookup name given <|> findVariable given name

/-- The value of a setting, with the name under which it was given. -/
def firstValue (s : Sources) (fromFile : List Assignment) : Raw := fun name =>
  let given (n : String) : Option (String × Value) := (findGiven s.given n).map ((n, ·))
  let fromVariable (n : String) : Option (String × Value) :=
    (findVariable s.environment n <|> (findVariable fromFile n).join).map fun v => (n, .text v)
  match sharedName? name with
  | some shared =>
    given shared <|> given name <|> fromVariable shared <|> fromVariable (ownVariable name)
  | none => given name <|> fromVariable (ownVariable name)

/-- Without other sources, the variables of the process decide. -/
theorem firstValue_environment (environment : List (String × String)) (directory : Directory)
    (name : String) : (firstValue ⟨[], environment, directory⟩ [] name).map (·.2) =
      (((sharedName? name).bind (findVariable environment)) <|>
        findVariable environment (ownVariable name)).map .text := by
  have hgiven : ∀ n, findGiven [] n = none := fun _ => rfl
  have hfile : ∀ n, findVariable ([] : List Assignment) n = none := fun _ => rfl
  rw [firstValue]
  cases sharedName? name with
  | none => simp [hgiven, hfile, Function.comp_def]
  | some shared =>
    cases hshared : findVariable environment shared with
    | none => simp [hgiven, hfile, hshared, Function.comp_def]
    | some v => simp [hgiven, hshared]

instance precedence : Gathering where
  variablesIn environment text := VariablesFile.resolve environment (VariablesFile.assignments text)
  lookup := firstValue

instance : LawfulGathering where
  lookup_environment := firstValue_environment

end BuildFleet.Settings
