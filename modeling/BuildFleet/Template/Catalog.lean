/-
Collections of templates.

A catalog is a list of templates that are tried in order: the first that serves a label or has a
name is the one.  `Catalog.load` reads one from a file.
-/
import BuildFleet.Files
import BuildFleet.Json.Reader
import BuildFleet.Template.Basic
import BuildFleet.Text.Sorted

namespace BuildFleet

open Json (Value)

/-- The labels of a template, sorted and each once. -/
def Template.labelSet (t : Template) : List String :=
  Text.sortedSet t.labels

/-- A read-only collection of templates. -/
structure Catalog where
  /-- The templates, in the order in which they are tried. -/
  templates : List Template
deriving DecidableEq, Repr

namespace Catalog

/-- The first template that serves a label. -/
def forLabel? (c : Catalog) (label : Option String) : Option Template :=
  c.templates.find? (·.serves label)

/-- The first template with a name. -/
def named? (c : Catalog) (name : String) : Option Template :=
  c.templates.find? (·.name = name)

/-- The first template with a name, or the failure to find one. -/
def named (c : Catalog) (name : String) : Except Failure Template :=
  match c.named? name with
  | some t => .ok t
  | none => .error (.noSuchTemplate name)

theorem mem_of_named (c : Catalog) {name : String} {t : Template} (h : c.named name = .ok t) :
    t ∈ c.templates := by
  rw [named] at h
  cases hn : c.named? name with
  | none => simp [hn] at h
  | some s =>
    obtain rfl : s = t := by simpa [hn] using h
    exact List.mem_of_find?_eq_some hn

/-- The first template with exactly a label string. -/
def withLabelString? (c : Catalog) (labelString : String) : Option Template :=
  c.templates.find? (·.labelString = labelString)

/-- The label strings of the templates that have one, sorted and each once. -/
def labels (c : Catalog) : List String :=
  Text.sortedSet ((c.templates.map (·.labelString)).filter (· ≠ ""))

/-! ### Files -/

/-- The values that a document lists: its parts, or those of its field `templates`. -/
def entries? : Value → Option (List Value)
  | v@(.object _) | v@(.brokenObject _) =>
    match v.field? "templates" with
    | some v => v.parts?
    | none => some []
  | v => v.parts?

/-- Reads templates one after the other up to the first that is not valid. -/
def readEntries [Schema.Conversions] : List Value → List LogEntry × Except Failure (List Template)
  | [] => ([], .ok [])
  | v :: rest =>
    let checked := Template.ofValue v
    match checked.toExcept with
    | .error failure => (checked.notes, .error failure)
    | .ok t =>
      let (notes, outcome) := readEntries rest
      (checked.notes ++ notes, outcome.map (t :: ·))

/-- The document in a file. -/
def readDocument (d : Directory) (path : String) : Except Failure Value := do
  let path := Directory.normalize path
  match d.readText path with
  | .error fault => .error (.unreadable path fault)
  | .ok s =>
    match Json.read s with
    | .ok v => return v
    | .error .malformed => .error (.unreadable path .notJson)
    | .error (.tooDeep isList) => .error (.unreadable path (.tooDeep isList))
    | .error (.tooLong digits) => .error (.badValue (Text.IntegerFault.tooLong digits).message)

/-- A failure to read a file that the log mentions. -/
def isLogged : Failure → Bool
  | .unreadable _ .notText | .unreadable _ .nulInName | .unreadable _ (.tooDeep _) => false
  | .unreadable _ _ => true
  | _ => false

/-- Reads the templates of a file: a list of them, or an object with the list in its field
`templates`. -/
def load [Schema.Conversions] (d : Directory) (path : String) :
    List LogEntry × Except Failure Catalog :=
  let path := Directory.normalize path
  match readDocument d path with
  | .error failure =>
    let notes :=
      if isLogged failure then
        [⟨.error, s!"Failed to read templates from {path}: {failure.display}"⟩]
      else []
    (notes, .error failure)
  | .ok v =>
    match entries? v with
    | none => ([], .error (.misfit .wrongKind))
    | some entries =>
      match readEntries entries with
      | (notes, .ok templates) =>
        (notes ++ [⟨.info, s!"Loaded {templates.length} templates from {path}"⟩],
          .ok ⟨templates⟩)
      | (notes, .error failure) =>
        let more :=
          match failure with
          | .invalid _ =>
            [⟨.error, s!"Invalid template definition in {path}: {failure.display}"⟩]
          | _ => []
        (notes ++ more, .error failure)

end Catalog

end BuildFleet
