/-
Text on its way to a terminal.

A terminal takes an escape character and an opening bracket, with what follows up to the first
letter or the like, as a command about colours, the cursor and so on.  `withoutCommands` leaves such
commands out, for a stream that no terminal reads, and `unifyBreaks` writes every line break as a
line feed alone.
-/
namespace BuildFleet.Text

/-- The character belongs to the parameters of a command: a digit or one of `:;<=>?`. -/
def isParameter (c : Char) : Bool :=
  '0' ≤ c && c ≤ '?'

/-- The character may stand between the parameters of a command and its end: a blank or one of the
marks in front of the digits. -/
def isIntermediate (c : Char) : Bool :=
  ' ' ≤ c && c ≤ '/'

/-- The character ends a command: a letter or a mark behind the digits. -/
def endsCommand (c : Char) : Bool :=
  '@' ≤ c && c ≤ '~'

/-- The length of the command at the head of a text. -/
def commandLength? : List Char → Option Nat
  | '\x1b' :: '[' :: rest =>
    let parameters := rest.takeWhile isParameter
    let rest := rest.drop parameters.length
    let intermediates := rest.takeWhile isIntermediate
    match rest.drop intermediates.length with
    | c :: _ => if endsCommand c then some (parameters.length + intermediates.length + 3) else none
    | [] => none
  | _ => none

/-- A text without its commands; its first `skip` characters belong to one that was left out. -/
def dropCommands : (skip : Nat) → List Char → List Char
  | _, [] => []
  | skip + 1, _ :: rest => dropCommands skip rest
  | 0, c :: rest =>
    match commandLength? (c :: rest) with
    | some length => dropCommands (length - 1) rest
    | none => c :: dropCommands 0 rest

/-- A text without the commands to a terminal. -/
def withoutCommands (s : String) : String :=
  String.ofList (dropCommands 0 s.toList)

/-- A list of characters with each carriage return in front of a line feed left out. -/
def unifyBreaksChars : List Char → List Char
  | [] => []
  | c :: rest =>
    if c = '\r' && rest.head? = some '\n' then unifyBreaksChars rest else c :: unifyBreaksChars rest

/-- A text with each line break written as a line feed. -/
def unifyBreaks (s : String) : String :=
  String.ofList (unifyBreaksChars s.toList)

/-- A text without an escape character has no commands. -/
theorem dropCommands_of_not_mem {cs : List Char} (h : '\x1b' ∉ cs) : dropCommands 0 cs = cs := by
  induction cs with
  | nil => rfl
  | cons c rest ih =>
    have hc : c ≠ '\x1b' := fun he => h (he ▸ List.mem_cons_self)
    have hnone : commandLength? (c :: rest) = none := by
      unfold commandLength?
      split
      · next heq => exact absurd (List.cons.inj heq).1 hc
      · rfl
    have hrest : '\x1b' ∉ rest := fun hm => h (List.mem_cons_of_mem c hm)
    simp [dropCommands, hnone, ih hrest]

end BuildFleet.Text
