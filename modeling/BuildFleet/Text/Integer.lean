/-
Integers written by people.

An integer is an optional sign and decimal digits of any script, with single underscores allowed
between digits and white space allowed around it.  Numbers of more than 4300 digits are refused, and
a refusal says why (`IntegerFault.message`).
-/
import BuildFleet.Text.Blank
import BuildFleet.Text.Digit
import BuildFleet.Text.Quoted

namespace BuildFleet.Text

/-- Why a text is no integer. -/
inductive IntegerFault where
  /-- The text is not written as an integer. -/
  | malformed (text : List Piece)
  /-- The number has more digits than are read. -/
  | tooLong (digits : Nat)
deriving DecidableEq, Repr

/-- The most digits that an integer may have, leading zeros included. -/
def digitLimit : Nat := 4300

/-- The message of a refusal; a long text is cut after 200 characters of its quoted form. -/
def IntegerFault.message : IntegerFault → String
  | .malformed text =>
    "invalid literal for int() with base 10: " ++
      String.ofList ((quotedPieces text).take 200)
  | .tooLong digits =>
    s!"Exceeds the limit ({digitLimit} digits) for integer string conversion: value has " ++
      s!"{digits} digits; use sys.set_int_max_str_digits() to increase the limit"

/-- The sign at the head of a text, and the text behind it. -/
def splitSign : List Char → Bool × List Char
  | '-' :: cs => (true, cs)
  | '+' :: cs => (false, cs)
  | cs => (false, cs)

/-- The digits of a run of digits and underscores, provided that each underscore stands between
two digits. -/
def digitRun (run : List Char) : Option (List Nat) :=
  let groups := splitChars '_' run
  if groups.all (! ·.isEmpty) then some (groups.flatten.filterMap decimalValue?) else none

/-- Reads an integer. -/
def readInteger (text : String) : Except IntegerFault Int :=
  let (negative, body) := splitSign (text.toList.dropWhile isWhiteSpace)
  let inRun (c : Char) : Bool := c == '_' || (decimalValue? c).isSome
  match digitRun (body.takeWhile inRun) with
  | none => .error (.malformed (Piece.ofText text))
  | some digits =>
    if digitLimit < digits.length then .error (.tooLong digits.length)
    else if (body.dropWhile inRun).all isWhiteSpace then
      .ok (if negative then -(ofDigits digits : Int) else ofDigits digits)
    else .error (.malformed (Piece.ofText text))

/-- Why a text with an unpaired half is no integer: a half ends the digits like any other stray
character. -/
def IntegerFault.ofPieces (text : List Piece) : IntegerFault :=
  match readInteger (Piece.replaced text) with
  | .error (.tooLong digits) => .tooLong digits
  | _ => .malformed text

end BuildFleet.Text
