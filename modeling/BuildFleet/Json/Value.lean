/-
Loosely typed values.

A `Value` is what a JSON document, a settings source or a cloud reply holds before anything is
known about its shape.  Integers and doubles are kept apart, and an object keeps its fields in
order.  A text with half of a UTF-16 pair in it, and an object with such a name, have cases of their
own.

`display` and `inspect` are the two texts of a value in messages: a text shows as it is in the
first and quoted in the second, and everything else alike.
-/
import BuildFleet.Entries
import BuildFleet.Number.Shortest
import BuildFleet.Text.Quoted

namespace BuildFleet.Json

/-- A value of any shape. -/
inductive Value where
  | null
  | bool (b : Bool)
  | int (n : Int)
  | float (x : Float)
  | text (s : String)
  /-- A text with an unpaired half in it. -/
  | brokenText (pieces : List Text.Piece)
  /-- A list of values. -/
  | list (items : List Value)
  /-- Named fields, in order and each name once. -/
  | object (fields : List (String × Value))
  /-- Named fields, with an unpaired half in some of the names. -/
  | brokenObject (fields : List (List Text.Piece × Value))
deriving Inhabited, Repr

namespace Value

/-- The value of the field `name` in a list of fields. -/
def lookup (name : String) (fields : List (String × Value)) : Option Value :=
  Entries.find? name fields

/-- The text that pieces form. -/
def ofPieces (ps : List Text.Piece) : Value :=
  match Text.Piece.text? ps with
  | some s => .text s
  | none => .brokenText ps

/-- The object with some fields. -/
def ofFields (fields : List (List Text.Piece × Value)) : Value :=
  match fields.mapM fun f => (Text.Piece.text? f.1).map ((·, f.2)) with
  | some fields => .object fields
  | none => .brokenObject fields

/-- The fields of an object; of one with broken names those with proper ones. -/
def fields? : Value → Option (List (String × Value))
  | .object fields => some fields
  | .brokenObject fields =>
    some (fields.filterMap fun f => (Text.Piece.text? f.1).map ((·, f.2)))
  | _ => none

/-- The value of a field; none also for a value that is no object. -/
def field? (v : Value) (name : String) : Option Value :=
  v.fields?.bind (lookup name)

/-- The text of a text value. -/
def text? : Value → Option String
  | .text s => some s
  | _ => none

/-- The value counts as present: it is neither null, false, zero nor empty. -/
def isTruthy : Value → Bool
  | .null => false
  | .bool b => b
  | .int n => n ≠ 0
  | .float x => x != 0
  | .text s => !s.isEmpty
  | .brokenText _ => true
  | .list items => !items.isEmpty
  | .object fields => !fields.isEmpty
  | .brokenObject _ => true

/-- The parts of a value that can be gone through: the items of a list, the characters of a text,
the names of the fields of an object. -/
def parts? : Value → Option (List Value)
  | .list items => some items
  | .text s => some (s.toList.map fun c => .text (String.singleton c))
  | .brokenText pieces => some (pieces.map fun p => ofPieces [p])
  | .object fields => some (fields.map fun f => .text f.1)
  | .brokenObject fields => some (fields.map fun f => ofPieces f.1)
  | _ => none

/-- The spellings of the constants in messages. -/
def constant : Option Bool → String
  | none => "None"
  | some true => "True"
  | some false => "False"

mutual

/-- A value in a message, with texts quoted. -/
def inspect : Value → String
  | .null => constant none
  | .bool b => constant (some b)
  | .int n => toString n
  | .float x => Number.text x
  | .text s => Text.quoted s
  | .brokenText pieces => Text.Piece.quoted pieces
  | .list items => "[" ++ inspectItems items ++ "]"
  | .object fields => "\x7b" ++ inspectFields fields ++ "\x7d"
  | .brokenObject fields => "\x7b" ++ inspectBroken fields ++ "\x7d"

/-- The items of a list, separated by commas. -/
def inspectItems : List Value → String
  | [] => ""
  | [v] => inspect v
  | v :: w :: rest => inspect v ++ ", " ++ inspectItems (w :: rest)

/-- The fields of an object, separated by commas. -/
def inspectFields : List (String × Value) → String
  | [] => ""
  | [(k, v)] => Text.quoted k ++ ": " ++ inspect v
  | (k, v) :: f :: rest => Text.quoted k ++ ": " ++ inspect v ++ ", " ++ inspectFields (f :: rest)

/-- The fields of an object with broken names, separated by commas. -/
def inspectBroken : List (List Text.Piece × Value) → String
  | [] => ""
  | [(k, v)] => Text.Piece.quoted k ++ ": " ++ inspect v
  | (k, v) :: f :: rest =>
    Text.Piece.quoted k ++ ": " ++ inspect v ++ ", " ++ inspectBroken (f :: rest)

end

/-- A value in a message, with a text as it is. -/
def display : Value → String
  | .text s => s
  | .brokenText pieces => Text.Piece.replaced pieces
  | v => inspect v

/-- A value in a message, in pieces. -/
def displayPieces : Value → List Text.Piece
  | .brokenText pieces => pieces
  | v => Text.Piece.ofText v.display

end Value

end BuildFleet.Json
