/-
Quoted text, as messages show it.

A text stands between single quotes, or between double quotes when it holds a single quote and no
double quote.  The backslash and the surrounding quote are escaped, and so is every character that
would not show: controls, formatting characters, all spaces but the common one, and code points
without a character.  A text in pieces is quoted in the same way (`quotedPieces_map`), and its
halves are escaped.
-/
import BuildFleet.Text.Piece
import BuildFleet.Text.Unassigned

namespace BuildFleet.Text

/-- The first and last code points of the runs of characters that do not show: controls,
formatting characters, private use, and separators other than the common space. -/
def unprintable : List (Nat × Nat) :=
  [(0x0, 0x1F), (0x7F, 0xA0), (0xAD, 0xAD), (0x600, 0x605), (0x61C, 0x61C), (0x6DD, 0x6DD),
   (0x70F, 0x70F), (0x890, 0x891), (0x8E2, 0x8E2), (0x1680, 0x1680), (0x180E, 0x180E),
   (0x2000, 0x200F), (0x2028, 0x202F), (0x205F, 0x206F), (0x3000, 0x3000), (0xD800, 0xF8FF),
   (0xFEFF, 0xFEFF), (0xFFF0, 0xFFFB), (0xFFFE, 0xFFFF), (0x110BD, 0x110BD),
   (0x110CD, 0x110CD), (0x13430, 0x13438), (0x1BCA0, 0x1BCA3), (0x1D173, 0x1D17A),
   (0xE0000, 0xE00FF), (0xE01F0, 0x10FFFF)]

/-- The character shows as itself in a message. -/
def isPrintable (c : Char) : Bool :=
  !(unprintable.any (fun (a, b) => a ≤ c.toNat && c.toNat ≤ b) || isUnassigned c)

/-- The lower-case hexadecimal digit of a number below sixteen. -/
def hexDigit (n : Nat) : Char :=
  if n < 10 then Char.ofNat (0x30 + n) else Char.ofNat (0x57 + n)

/-- `n` in hexadecimal, with its last `width` digits. -/
def hex : (width n : Nat) → List Char
  | 0, _ => []
  | width + 1, n => hex width (n / 16) ++ [hexDigit (n % 16)]

/-- The quote that surrounds a text. -/
def quoteFor (cs : List Char) : Char :=
  if cs.contains '\x27' && !cs.contains '"' then '"' else '\x27'

/-- One character between quotes. -/
def quoteChar (quote c : Char) : List Char :=
  if c = quote || c = '\\' then ['\\', c]
  else if c = '\n' then ['\\', 'n']
  else if c = '\r' then ['\\', 'r']
  else if c = '\t' then ['\\', 't']
  else if isPrintable c then [c]
  else if c.toNat < 0x100 then '\\' :: 'x' :: hex 2 c.toNat
  else if c.toNat < 0x10000 then '\\' :: 'u' :: hex 4 c.toNat
  else '\\' :: 'U' :: hex 8 c.toNat

/-- `cs` as quoted text. -/
def quotedChars (cs : List Char) : List Char :=
  let quote := quoteFor cs
  quote :: cs.flatMap (quoteChar quote) ++ [quote]

/-- `s` as quoted text. -/
def quoted (s : String) : String :=
  String.ofList (quotedChars s.toList)

/-! ### Texts in pieces -/

/-- One piece between quotes. -/
def quotePiece (quote : Char) : Piece → List Char
  | .char c => quoteChar quote c
  | .half unit => '\\' :: 'u' :: hex 4 unit

/-- A text in pieces as quoted text. -/
def quotedPieces (ps : List Piece) : List Char :=
  let quote := quoteFor (ps.filterMap Piece.char?)
  quote :: ps.flatMap (quotePiece quote) ++ [quote]

/-- A text in pieces as quoted text. -/
def Piece.quoted (ps : List Piece) : String :=
  String.ofList (quotedPieces ps)

/-- A text of characters alone is quoted as a text. -/
theorem quotedPieces_map (cs : List Char) : quotedPieces (cs.map .char) = quotedChars cs := by
  have h : (cs.map Piece.char).filterMap Piece.char? = cs := by
    simp [List.filterMap_map, Function.comp_def, Piece.char?]
  simp [quotedPieces, quotedChars, h, List.flatMap_map, quotePiece]

end BuildFleet.Text
