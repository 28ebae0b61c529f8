/-
Integers as configuration spells them.

A numeral is digits without a needless zero in front, possibly behind a minus sign
(`readNumeral`).  A text that is no numeral is tidied (`tidied?`) and read again: white space around
it, a plus sign, zeros in front, a fraction of zeros and single underscores between characters do
not matter.  Of zeros and underscores in front the last one stays when nothing else is left.  Too
many digits are told from other defects only in a text that has not been tidied.
-/
import BuildFleet.Json.Reader
import BuildFleet.Schema.Issue

namespace BuildFleet.Schema

open Text (stripWhile isWhiteSpace splitChars)

/-- Reads a numeral.  Too many digits are refused as such, whatever follows them. -/
def readNumeral (cs : List Char) : Except Complaint Int :=
  let (negative, body) :=
    match cs with
    | '-' :: rest => (true, rest)
    | _ => (false, cs)
  match body with
  | ['0'] => .ok 0
  | '0' :: _ => .error .intParsing
  | _ =>
    let (digits, rest) := Json.splitDigits body
    if digits.isEmpty then .error .intParsing
    else if Text.digitLimit < digits.length then .error .intParsingSize
    else if !rest.isEmpty then .error .intParsing
    else
      let n : Int := Json.natOfDigits digits
      .ok (if negative then -n else n)

/-- A digit other than zero, or a minus sign: the character that a numeral begins with. -/
def startsNumeral (c : Char) : Bool :=
  c == '-' || ('1' ≤ c && c ≤ '9')

/-- The numeral behind zeros and underscores, of which `last` is the last one so far. -/
def behindZeros (last : Char) : List Char → Option (List Char)
  | [] => some [last]
  | c :: rest =>
    if c == '0' || c == '_' then behindZeros c rest
    else if startsNumeral c then some (c :: rest)
    else if c == '.' then some (last :: c :: rest)
    else none

/-- A numeral without the zeros in front, or between its minus sign and its digits. -/
def dropZeros : List Char → Option (List Char)
  | [] => none
  | c :: rest =>
    if c == '-' then (dropZeros rest).map (c :: ·)
    else if c == '0' then behindZeros c rest
    else if startsNumeral c then some (c :: rest)
    else none

/-- A numeral without a plus sign in front, and none with two signs. -/
def dropPlus : List Char → Option (List Char)
  | '+' :: '-' :: _ => none
  | '+' :: rest => some rest
  | cs => some cs

/-- A numeral without a fraction of zeros. -/
def dropZeroFraction (cs : List Char) : List Char :=
  match cs.dropWhile (· ≠ '.') with
  | '.' :: zeros =>
    if !zeros.isEmpty && zeros.all (· == '0') then cs.takeWhile (· ≠ '.') else cs
  | _ => cs

/-- A text without its underscores, provided that each stands alone between two characters. -/
def joinGroups (cs : List Char) : Option (List Char) :=
  let groups := splitChars '_' cs
  if groups.all (! ·.isEmpty) then some groups.flatten else none

/-- A text without all that does not matter in an integer. -/
def tidied? (cs : List Char) : Option (List Char) := do
  let cs ← dropZeros (← dropPlus (stripWhile isWhiteSpace cs))
  let cs := dropZeroFraction cs
  return (joinGroups cs).getD cs

/-- Reads the text of an integer. -/
def readLenient (s : String) : Except Complaint Int :=
  match readNumeral s.toList with
  | .error .intParsing =>
    match (tidied? s.toList).map readNumeral with
    | some (.ok n) => .ok n
    | _ => .error .intParsing
  | outcome => outcome

end BuildFleet.Schema
