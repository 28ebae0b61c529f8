/-
Writing JSON text on one line.

Controls and the characters that some readers take for the end of a line are escaped; all others
stand as they are.  A double is written with the fewest digits that read back as it.
-/
import BuildFleet.Json.Value

namespace BuildFleet.Json

/-- One character of a JSON text. -/
def escapeChar (c : Char) : List Char :=
  if c = '"' then ['\\', '"']
  else if c = '\\' then ['\\', '\\']
  else if c.toNat < 0x20 || c.toNat = 0x7F || c.toNat = 0x85 || c.toNat = 0x2028 ||
      c.toNat = 0x2029 then
    '\\' :: 'u' :: Text.hex 4 c.toNat
  else [c]

/-- A JSON text with its quotes. -/
def printText (s : String) : String :=
  String.ofList ('"' :: s.toList.flatMap escapeChar ++ ['"'])

/-- A JSON text in pieces with its quotes; halves are escaped. -/
def printPieces (ps : List Text.Piece) : String :=
  let escape : Text.Piece → List Char
    | .char c => escapeChar c
    | .half unit => '\\' :: 'u' :: Text.hex 4 unit
  String.ofList ('"' :: ps.flatMap escape ++ ['"'])

/-- A double as a JSON number, or as one of the three words. -/
def printDouble (x : Float) : String :=
  match Number.parts x with
  | .nan => "NaN"
  | .infinite negative => if negative then "-Infinity" else "Infinity"
  | .finite .. => Number.text x

mutual

/-- A value as JSON text. -/
def print : Value → String
  | .null => "null"
  | .bool true => "true"
  | .bool false => "false"
  | .int n => toString n
  | .float x => printDouble x
  | .text s => printText s
  | .brokenText pieces => printPieces pieces
  | .list items => "[" ++ printItems items ++ "]"
  | .object fields => "\x7b" ++ printFields fields ++ "\x7d"
  | .brokenObject fields => "\x7b" ++ printBroken fields ++ "\x7d"

/-- The items of a list, separated by commas. -/
def printItems : List Value → String
  | [] => ""
  | [v] => print v
  | v :: w :: rest => print v ++ "," ++ printItems (w :: rest)

/-- The fields of an object, separated by commas. -/
def printFields : List (String × Value) → String
  | [] => ""
  | [(k, v)] => printText k ++ ":" ++ print v
  | (k, v) :: f :: rest => printText k ++ ":" ++ print v ++ "," ++ printFields (f :: rest)

/-- The fields of an object with broken names, separated by commas. -/
def printBroken : List (List Text.Piece × Value) → String
  | [] => ""
  | [(k, v)] => printPieces k ++ ":" ++ print v
  | (k, v) :: f :: rest => printPieces k ++ ":" ++ print v ++ "," ++ printBroken (f :: rest)

end

end BuildFleet.Json
