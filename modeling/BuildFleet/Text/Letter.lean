/-
Letters without regard to case.

Words of a fixed ASCII vocabulary (weekdays, levels, variable names) are compared in one case.
Only the characters whose image holds an ASCII character matter for that, and these are few
outside ASCII: two for `lower`, seventeen for `upper`.  Every other character stays as it is.
-/
namespace BuildFleet.Text

/-- The lower case of a character, as far as it holds an ASCII character. -/
def lowerChar (c : Char) : List Char :=
  if 'A' ≤ c && c ≤ 'Z' then [Char.ofNat (c.toNat + 32)]
  else if c.toNat = 0x130 then ['i', '\u0307']
  else if c.toNat = 0x212A then ['k']
  else [c]

/-- The characters outside ASCII whose upper case holds an ASCII character. -/
def upperSpecial : List (Nat × List Char) :=
  [(0xDF, ['S', 'S']), (0x131, ['I']), (0x149, ['\u02BC', 'N']), (0x17F, ['S']),
   (0x1F0, ['J', '\u030C']), (0x1E96, ['H', '\u0331']), (0x1E97, ['T', '\u0308']),
   (0x1E98, ['W', '\u030A']), (0x1E99, ['Y', '\u030A']), (0x1E9A, ['A', '\u02BE']),
   (0xFB00, ['F', 'F']), (0xFB01, ['F', 'I']), (0xFB02, ['F', 'L']), (0xFB03, ['F', 'F', 'I']),
   (0xFB04, ['F', 'F', 'L']), (0xFB05, ['S', 'T']), (0xFB06, ['S', 'T'])]

/-- The upper case of a character, as far as it holds an ASCII character. -/
def upperChar (c : Char) : List Char :=
  if 'a' ≤ c && c ≤ 'z' then [Char.ofNat (c.toNat - 32)]
  else
    match upperSpecial.find? (·.1 = c.toNat) with
    | some (_, cs) => cs
    | none => [c]

/-- A text in lower case, for comparison with words in ASCII. -/
def lower (s : String) : String :=
  String.ofList (s.toList.flatMap lowerChar)

/-- A text in upper case, for comparison with words in ASCII. -/
def upper (s : String) : String :=
  String.ofList (s.toList.flatMap upperChar)

/-- Two texts that differ at most in the case of the letters `A`–`Z`. -/
def equalLetters (s t : String) : Bool :=
  s.toList.map Char.toLower == t.toList.map Char.toLower

end BuildFleet.Text
