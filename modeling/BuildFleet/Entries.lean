/-
Lists of entries, each with a key.

An entry that is put in under a key that is there already takes the place of the old one; a new key
comes last.  A list that is only changed by `put` has each key once.
-/
namespace BuildFleet.Entries

variable {κ α : Type} [DecidableEq κ]

/-- The value of the first entry with a key. -/
def find? (key : κ) (entries : List (κ × α)) : Option α :=
  (entries.find? (·.1 = key)).map (·.2)

/-- Sets the value for a key. -/
def put (key : κ) (a : α) : List (κ × α) → List (κ × α)
  | [] => [(key, a)]
  | (k, b) :: rest => if k = key then (k, a) :: rest else (k, b) :: put key a rest

/-- Sets values one after the other. -/
def putAll (changes entries : List (κ × α)) : List (κ × α) :=
  changes.foldl (fun es c => put c.1 c.2 es) entries

/-- Takes out the entries with a key. -/
def erase (key : κ) (entries : List (κ × α)) : List (κ × α) :=
  entries.filter (·.1 ≠ key)

@[simp]
theorem find?_nil (key : κ) : find? key ([] : List (κ × α)) = none := rfl

theorem find?_cons (key k : κ) (a : α) (rest : List (κ × α)) :
    find? key ((k, a) :: rest) = if k = key then some a else find? key rest := by
  by_cases h : k = key <;> simp [find?, h]

end BuildFleet.Entries
