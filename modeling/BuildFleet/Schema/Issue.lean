/-
What is wrong with a value that was to have a given shape.

An `Issue` names the place, as the path of field names and positions from the value under test,
and the kind of the defect.  `Complaint.code` is the word by which a defect is reported.
-/
namespace BuildFleet.Schema

/-- A step on the way into a value. -/
inductive Step where
  /-- Into the field of a name. -/
  | field (name : String)
  /-- Into the item at a position. -/
  | item (position : Nat)
deriving DecidableEq, Repr

/-- The kinds of defects. -/
inductive Complaint where
  /-- A required field is absent. -/
  | missing
  /-- No text. -/
  | stringType
  /-- A text with an unpaired surrogate. -/
  | stringUnicode
  /-- A text that is too short. -/
  | stringTooShort
  /-- No integer, and nothing that is read as one. -/
  | intType
  /-- A text that does not spell an integer. -/
  | intParsing
  /-- A number with more digits than are read. -/
  | intParsingSize
  /-- A double with a fraction in place of an integer. -/
  | intFromFloat
  /-- An infinity, or not a number, in place of an integer. -/
  | finiteNumber
  /-- No number, and nothing that is read as one. -/
  | floatType
  /-- A text that does not spell a number. -/
  | floatParsing
  /-- No truth value, and nothing that is read as one. -/
  | boolType
  /-- A text or an integer that does not spell a truth value. -/
  | boolParsing
  /-- No list. -/
  | listType
  /-- No object with fields of one type. -/
  | dictType
  /-- No object with given fields. -/
  | modelType
  /-- A number below its lower bound. -/
  | greaterThanEqual
  /-- A number not above its lower bound. -/
  | greaterThan
  /-- A rule of the domain is broken, as the text says. -/
  | rule (text : String)
deriving DecidableEq, Repr

/-- The word by which a defect is reported. -/
def Complaint.code : Complaint → String
  | .missing => "missing"
  | .stringType => "string_type"
  | .stringUnicode => "string_unicode"
  | .stringTooShort => "string_too_short"
  | .intType => "int_type"
  | .intParsing => "int_parsing"
  | .intParsingSize => "int_parsing_size"
  | .intFromFloat => "int_from_float"
  | .finiteNumber => "finite_number"
  | .floatType => "float_type"
  | .floatParsing => "float_parsing"
  | .boolType => "bool_type"
  | .boolParsing => "bool_parsing"
  | .listType => "list_type"
  | .dictType => "dict_type"
  | .modelType => "model_type"
  | .greaterThanEqual => "greater_than_equal"
  | .greaterThan => "greater_than"
  | .rule _ => "value_error"

/-- The sentence about a broken rule. -/
def Complaint.message? : Complaint → Option String
  | .rule text => some ("Value error, " ++ text)
  | _ => none

/-- A defect and its place. -/
structure Issue where
  /-- The path to the place. -/
  path : List Step
  /-- The kind of the defect. -/
  complaint : Complaint
deriving DecidableEq, Repr

/-- The same defect, seen from one step further out. -/
def Issue.under (step : Step) (issue : Issue) : Issue :=
  { issue with path := step :: issue.path }

end BuildFleet.Schema
