/-
Files of variables.

A file of variables holds one assignment `NAME=value` a line, possibly behind the word `export`, and
comments that start with `#`.  A value stands in quotes, where it may go on over several lines and
have escapes, or it is the rest of the line up to a comment.  A name without `=` has no value.  What
is no assignment is passed over up to the end of its line.

In a value, `$` with a name in braces is a reference.  It stands for the value that the name has so
far in the file, else in the process, else for the default that may follow the name behind `:-`.

* **`assignments`** — the assignments in a text, in order;
* **`resolve`** — the variables that assignments make, with their references replaced.
-/
import BuildFleet.Entries
import BuildFleet.Settings.Source
import BuildFleet.Text.Blank

namespace BuildFleet.Settings.VariablesFile

open Text (isBlank)

/-- What is left of a text behind a part that was read. -/
abbrev Rest := List Char

/-! ### Lines -/

/-- A text whose lines all end in a line feed alone. -/
def unifyLines : List Char → List Char
  | [] => []
  | '\r' :: '\n' :: rest => '\n' :: unifyLines rest
  | c :: rest => (if c = '\r' then '\n' else c) :: unifyLines rest

/-- A blank within a line. -/
def isGap (c : Char) : Bool :=
  isBlank c && c != '\n'

/-- A text without the blanks at its head that belong to the line. -/
def skipGap (cs : List Char) : Rest :=
  cs.dropWhile isGap

/-- The rest of the line at the head of a text. -/
def line (cs : List Char) : List Char :=
  cs.takeWhile (· ≠ '\n')

/-- What follows behind the line at the head of a text. -/
def behindLine (cs : List Char) : Rest :=
  (cs.dropWhile (· ≠ '\n')).drop 1

/-- The end of an assignment: nothing, or a comment, up to the end of the line.  An error is what is
left of the text where it breaks off. -/
def readEnd (cs : List Char) : Except Rest Rest :=
  let behindComment :=
    match skipGap cs with
    | '#' :: rest => rest.dropWhile (· ≠ '\n')
    | _ => cs
  match skipGap behindComment with
  | [] => .ok []
  | '\n' :: rest => .ok rest
  | _ => .error behindComment

/-! ### Values -/

/-- The text up to its closing quote.  A backslash takes the character behind it along, so a quote
there does not close. -/
def readQuoted (quote : Char) (behindBackslash : Bool) : List Char → Option (List Char × Rest)
  | [] => none
  | c :: rest =>
    if c = quote && !behindBackslash then some ([], rest)
    else
      (readQuoted quote (c == '\\' && !behindBackslash) rest).map fun (text, rest) =>
        (c :: text, rest)

/-- The character that a backslash and one more character stand for between single quotes. -/
def singleEscape? : Char → Option Char
  | '\\' => some '\\'
  | '\x27' => some '\x27'
  | _ => none

/-- The character that a backslash and one more character stand for between double quotes. -/
def doubleEscape? : Char → Option Char
  | '\\' => some '\\'
  | '\x27' => some '\x27'
  | '"' => some '"'
  | 'a' => some '\x07'
  | 'b' => some '\x08'
  | 'f' => some '\x0c'
  | 'n' => some '\n'
  | 'r' => some '\r'
  | 't' => some '\t'
  | 'v' => some '\x0b'
  | _ => none

/-- A text with its escapes replaced; a backslash that escapes nothing stays. -/
def unescape (escape? : Char → Option Char) (behindBackslash : Bool) : List Char → List Char
  | [] => if behindBackslash then ['\\'] else []
  | c :: rest =>
    if behindBackslash then
      match escape? c with
      | some e => e :: unescape escape? false rest
      | none => '\\' :: c :: unescape escape? false rest
    else if c = '\\' then unescape escape? true rest
    else c :: unescape escape? false rest

/-- A line up to the first comment: a `#` behind a blank. -/
def withoutComment : List Char → List Char
  | [] => []
  | c :: rest =>
    if isBlank c && (rest.dropWhile isBlank).head? = some '#' then []
    else c :: withoutComment rest

/-- Reads a value behind its equals sign. -/
def readValue (cs : List Char) : Except Rest (List Char × Rest) :=
  let quoted (quote : Char) (escape? : Char → Option Char) (body : List Char) :
      Except Rest (List Char × Rest) :=
    match readQuoted quote false body with
    | some (text, rest) => .ok (unescape escape? false text, rest)
    | none => .error (quote :: body)
  match skipGap cs with
  | '\x27' :: body => quoted '\x27' singleEscape? body
  | '"' :: body => quoted '"' doubleEscape? body
  | _ => .ok (Text.trimChars (withoutComment (line cs)), cs.dropWhile (· ≠ '\n'))

/-! ### Assignments -/

/-- A text without the word `export` at its head. -/
def skipExport (cs : List Char) : Rest :=
  let word := "export".toList
  if word.isPrefixOf cs && ((cs.drop word.length).head?.any isGap) then
    skipGap (cs.drop word.length)
  else cs

/-- A character of a name without quotes. -/
def isNameChar (c : Char) : Bool :=
  c != '=' && c != '#' && !isBlank c

/-- Reads a name; there is none in front of a comment. -/
def readName (cs : List Char) : Except Rest (Option String × Rest) :=
  match cs with
  | '#' :: _ => .ok (none, cs)
  | '\x27' :: body =>
    match body.takeWhile (· ≠ '\x27'), body.dropWhile (· ≠ '\x27') with
    | c :: name, _ :: rest => .ok (some (String.ofList (c :: name)), rest)
    | _, _ => .error cs
  | _ =>
    match cs.takeWhile isNameChar with
    | [] => .error cs
    | name => .ok (some (String.ofList name), cs.dropWhile isNameChar)

/-- Reads a line with an assignment or a comment. -/
def readAssignment (cs : List Char) : Except Rest (Option Assignment × Rest) := do
  let (name, rest) ← readName (skipExport cs)
  match skipGap rest with
  | '=' :: body =>
    let (value, rest) ← readValue body
    return (name.map ((·, some (String.ofList value))), ← readEnd rest)
  | rest => return (name.map ((·, none)), ← readEnd rest)

/-- Reads assignments; each takes one of `fuel`. -/
def readAssignments : (fuel : Nat) → List Char → List Assignment
  | 0, _ => []
  | fuel + 1, cs =>
    match cs.dropWhile isBlank with
    | [] => []
    | cs =>
      match readAssignment cs with
      | .ok (assignment, rest) => assignment.toList ++ readAssignments fuel rest
      | .error rest => readAssignments fuel (behindLine rest)

/-- The assignments in a text, which may begin with a byte order mark. -/
def assignments (s : String) : List Assignment :=
  let cs :=
    match unifyLines s.toList with
    | '\ufeff' :: cs => cs
    | cs => cs
  readAssignments cs.length cs

/-! ### References -/

/-- A reference to a variable in a value. -/
structure Reference where
  /-- The name. -/
  name : String
  /-- What it stands for without the variable. -/
  default : String
  /-- The number of characters of the reference. -/
  length : Nat
deriving DecidableEq, Repr

/-- The reference at the head of a text. -/
def reference? : List Char → Option Reference
  | '$' :: '\x7b' :: body =>
    let name := body.takeWhile fun c => c ≠ '\x7d' && c ≠ ':'
    match body.drop name.length with
    | '\x7d' :: _ => some ⟨String.ofList name, "", name.length + 3⟩
    | ':' :: '-' :: more =>
      let default := more.takeWhile (· ≠ '\x7d')
      if default.length = more.length then none
      else some ⟨String.ofList name, String.ofList default, name.length + default.length + 5⟩
    | _ => none
  | _ => none

/-- The references in a text, wherever they start. -/
def references : List Char → List Reference
  | [] => []
  | c :: rest => (reference? (c :: rest)).toList ++ references rest

/-- A text with its references replaced; its first `skip` characters belong to a reference that was
replaced already. -/
def expand (value : Reference → String) : (skip : Nat) → List Char → List Char
  | _, [] => []
  | skip + 1, _ :: rest => expand value skip rest
  | 0, c :: rest =>
    match reference? (c :: rest) with
    | some r => (value r).toList ++ expand value (r.length - 1) rest
    | none => c :: expand value 0 rest

/-- A text without a dollar sign has no references. -/
theorem expand_of_not_mem (value : Reference → String) {cs : List Char} (h : '$' ∉ cs) :
    expand value 0 cs = cs := by
  induction cs with
  | nil => rfl
  | cons c rest ih =>
    have hc : c ≠ '$' := fun he => h (he ▸ List.mem_cons_self)
    have hnone : reference? (c :: rest) = none := by
      unfold reference?
      split
      · next heq => exact absurd (List.cons.inj heq).1 hc
      · rfl
    have hrest : '$' ∉ rest := fun hm => h (List.mem_cons_of_mem c hm)
    simp [expand, hnone, ih hrest]

/-- The value of a reference, with the variables `known` from the file and those of the process. -/
def valueOf (environment : List (String × String)) (known : List Assignment) (r : Reference) :
    String :=
  match Entries.find? r.name known with
  | some value => value.getD ""
  | none => (Entries.find? r.name environment).getD r.default

/-- The variables that assignments make, each name once. -/
def resolve (environment : List (String × String)) (as : List Assignment) : List Assignment :=
  as.foldl (fun known a =>
    let value := a.2.map fun s =>
      String.ofList (expand (valueOf environment known) 0 s.toList)
    Entries.put a.1 value known) []

end BuildFleet.Settings.VariablesFile
