/-
Reading JSON text.

The grammar is that of JSON with three more words, `NaN`, `Infinity` and `-Infinity`.  A number
without fraction and exponent is an integer of any size up to 4300 digits, any other number the
nearest double.  When an object repeats a name, the last value counts and stands in the place of
the first.  Lists and objects may be nested up to `nestingLimit`.
-/
import BuildFleet.Json.Value
import BuildFleet.Text.Integer

namespace BuildFleet.Json

open Text (Piece)

/-- Why a text is not read. -/
inductive ReadFault where
  /-- The text is not JSON. -/
  | malformed
  /-- An integer has more digits than are read. -/
  | tooLong (digits : Nat)
  /-- A list, or else an object, is nested too deeply. -/
  | tooDeep (isList : Bool)
deriving DecidableEq, Repr

/-- What is left of a text behind a part that was read. -/
abbrev Rest := List Char

/-- A text without the white space at its head. -/
def skipSpace (cs : List Char) : Rest :=
  cs.dropWhile fun c => c == ' ' || c == '\t' || c == '\n' || c == '\r'

/-! ### Texts -/

/-- A character of a text, or a UTF-16 unit that was written as an escape. -/
inductive Written where
  /-- A character. -/
  | char (c : Char)
  /-- A UTF-16 unit. -/
  | unit (n : Nat)

/-- The value of a hexadecimal digit. -/
def hexValue? (c : Char) : Option Nat :=
  if '0' ≤ c && c ≤ '9' then some (c.toNat - 0x30)
  else if 'a' ≤ c && c ≤ 'f' then some (c.toNat - 0x57)
  else if 'A' ≤ c && c ≤ 'F' then some (c.toNat - 0x37)
  else none

/-- The character that a backslash and one more character stand for. -/
def simpleEscape? : Char → Option Char
  | '"' => some '"'
  | '\\' => some '\\'
  | '/' => some '/'
  | 'b' => some '\x08'
  | 'f' => some '\x0c'
  | 'n' => some '\n'
  | 'r' => some '\r'
  | 't' => some '\t'
  | _ => none

/-- The unit that four hexadecimal digits spell. -/
def unit? (a b c d : Char) : Option Nat := do
  return (((← hexValue? a) * 16 + (← hexValue? b)) * 16 + (← hexValue? c)) * 16 + (← hexValue? d)

/-- Reads a text up to its closing quote; `acc` holds what was read, in reverse. -/
def readWritten (acc : List Written) : List Char → Except ReadFault (List Written × Rest)
  | [] => .error .malformed
  | '"' :: rest => .ok (acc.reverse, rest)
  | '\\' :: 'u' :: a :: b :: c :: d :: rest =>
    match unit? a b c d with
    | some n => readWritten (.unit n :: acc) rest
    | none => .error .malformed
  | '\\' :: c :: rest =>
    match simpleEscape? c with
    | some e => readWritten (.char e :: acc) rest
    | none => .error .malformed
  | c :: rest => if c.toNat < 0x20 then .error .malformed else readWritten (.char c :: acc) rest

/-- The unit is the first half of a pair. -/
def isHighUnit (n : Nat) : Bool := 0xD800 ≤ n && n < 0xDC00

/-- The unit is the second half of a pair. -/
def isLowUnit (n : Nat) : Bool := 0xDC00 ≤ n && n < 0xE000

/-- The character of two halves. -/
def pairOf (high low : Nat) : Char :=
  Char.ofNat (0x10000 + (high - 0xD800) * 0x400 + (low - 0xDC00))

/-- The pieces of a text, with `high` as an open first half of a pair. -/
def joinPairs (high : Option Nat) : List Written → List Piece
  | [] => high.toList.map .half
  | .char c :: rest => high.toList.map .half ++ .char c :: joinPairs none rest
  | .unit n :: rest =>
    if isLowUnit n then
      match high with
      | some h => .char (pairOf h n) :: joinPairs none rest
      | none => .half n :: joinPairs none rest
    else
      high.toList.map .half ++
        if isHighUnit n then joinPairs (some n) rest
        else .char (Char.ofNat n) :: joinPairs none rest

/-- Reads a text behind its opening quote. -/
def readText (cs : List Char) : Except ReadFault (List Piece × Rest) := do
  let (written, rest) ← readWritten [] cs
  return (joinPairs none written, rest)

/-! ### Numbers -/

/-- Splits off the digits `0`–`9` at the head. -/
def splitDigits (cs : List Char) : List Char × Rest :=
  (cs.takeWhile Char.isDigit, cs.dropWhile Char.isDigit)

/-- The number that ASCII digits spell. -/
def natOfDigits (ds : List Char) : Nat :=
  Text.ofDigits (ds.map fun c => c.toNat - 0x30)

/-- The fraction behind a whole number: its digits, if there is a point with digits behind it. -/
def splitFraction : List Char → Option (List Char) × Rest
  | '.' :: cs =>
    match splitDigits cs with
    | ([], _) => (none, '.' :: cs)
    | (ds, rest) => (some ds, rest)
  | cs => (none, cs)

/-- The exponent behind a number, if there is one with digits. -/
def splitExponent (cs : List Char) : Option Int × Rest :=
  match cs with
  | e :: tail =>
    if e == 'e' || e == 'E' then
      let (negative, body) := Text.splitSign tail
      match splitDigits body with
      | ([], _) => (none, cs)
      | (ds, rest) => (some (if negative then -(natOfDigits ds : Int) else natOfDigits ds), rest)
    else (none, cs)
  | [] => (none, [])

/-- Reads a number whose minus sign has been read already. -/
def readNumber (negative : Bool) (cs : List Char) : Except ReadFault (Value × Rest) :=
  let (whole, afterWhole) :=
    match cs with
    | '0' :: rest => (['0'], rest)
    | _ => splitDigits cs
  if whole.isEmpty then .error .malformed
  else
    let (fraction, afterFraction) := splitFraction afterWhole
    let (exponent, rest) := splitExponent afterFraction
    match fraction, exponent with
    | none, none =>
      if Text.digitLimit < whole.length then .error (.tooLong whole.length)
      else
        let n : Int := natOfDigits whole
        .ok (.int (if negative then -n else n), rest)
    | _, _ =>
      let tenths := fraction.getD []
      let x := Number.ofDecimal (natOfDigits (whole ++ tenths)) (exponent.getD 0 - tenths.length)
      .ok (.float (if negative then -x else x), rest)

/-! ### Values -/

/-- The words of the language, and their values. -/
def wordValues : List (List Char × Value) :=
  [("null".toList, .null), ("true".toList, .bool true), ("false".toList, .bool false),
   ("NaN".toList, .float (0.0 / 0.0)), ("Infinity".toList, .float (1.0 / 0.0)),
   ("-Infinity".toList, .float (-1.0 / 0.0))]

/-- The word at the head of a text. -/
def word? (cs : List Char) : Option (Value × Rest) :=
  (wordValues.find? fun (w, _) => w.isPrefixOf cs).map fun (w, v) => (v, cs.drop w.length)

mutual

/-- Reads a value; each step into a value or on to its next part takes one of `fuel`, and each step
into a value one of `depth`. -/
def readValue (fuel depth : Nat) (cs : List Char) : Except ReadFault (Value × Rest) :=
  match fuel with
  | 0 => .error .malformed
  | fuel + 1 =>
    match word? cs with
    | some read => .ok read
    | none =>
      match cs with
      | '"' :: rest => do
        let (s, rest) ← readText rest
        return (.ofPieces s, rest)
      | '[' :: rest =>
        if depth = 0 then .error (.tooDeep true)
        else
          match skipSpace rest with
          | ']' :: rest => .ok (.list [], rest)
          | rest => readItems fuel (depth - 1) [] rest
      | '\x7b' :: rest =>
        if depth = 0 then .error (.tooDeep false)
        else
          match skipSpace rest with
          | '\x7d' :: rest => .ok (.object [], rest)
          | rest => readFields fuel (depth - 1) [] rest
      | '-' :: rest => readNumber true rest
      | cs => readNumber false cs

/-- Reads the items of a list from the next one on; `acc` holds those read, in reverse. -/
def readItems (fuel depth : Nat) (acc : List Value) (cs : List Char) :
    Except ReadFault (Value × Rest) :=
  match fuel with
  | 0 => .error .malformed
  | fuel + 1 => do
    let (v, rest) ← readValue fuel depth cs
    match skipSpace rest with
    | ',' :: rest => readItems fuel depth (v :: acc) (skipSpace rest)
    | ']' :: rest => return (.list (v :: acc).reverse, rest)
    | _ => .error .malformed

/-- Reads the fields of an object from the next one on; `acc` holds those read. -/
def readFields (fuel depth : Nat) (acc : List (List Piece × Value)) (cs : List Char) :
    Except ReadFault (Value × Rest) :=
  match fuel with
  | 0 => .error .malformed
  | fuel + 1 =>
    match cs with
    | '"' :: rest => do
      let (name, rest) ← readText rest
      match skipSpace rest with
      | ':' :: rest =>
        let (v, rest) ← readValue fuel depth (skipSpace rest)
        let acc := Entries.put name v acc
        match skipSpace rest with
        | ',' :: rest => readFields fuel depth acc (skipSpace rest)
        | '\x7d' :: rest => return (.ofFields acc, rest)
        | _ => .error .malformed
      | _ => .error .malformed
    | _ => .error .malformed

end

/-- The most lists and objects around a value. -/
def nestingLimit : Nat := 980

/-- Reads a text that holds one value and nothing else. -/
def read (s : String) : Except ReadFault Value := do
  let cs := skipSpace s.toList
  let (v, rest) ← readValue (2 * cs.length + 2) nestingLimit cs
  if (skipSpace rest).isEmpty then return v else .error .malformed

end BuildFleet.Json
