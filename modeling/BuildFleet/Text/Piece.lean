/-
Texts in pieces.

A text that was written with escapes may hold half of a UTF-16 pair without the other half, and no
character stands for that.  Where such texts have to be kept apart, a text is a list of pieces, each
a character or an unpaired half.

* **`Piece.text?`** — the text, unless there is a half in it;
* **`Piece.replaced`** — the text with the replacement character for each half.
-/
import BuildFleet.Text.Blank

namespace BuildFleet.Text

/-- A piece of a text: a character, or half of a pair without the other half. -/
inductive Piece where
  /-- A character. -/
  | char (c : Char)
  /-- A unit of UTF-16 that is half of a pair. -/
  | half (unit : Nat)
deriving DecidableEq, Repr

namespace Piece

/-- The character, unless the piece is a half. -/
def char? : Piece → Option Char
  | char c => some c
  | half _ => none

/-- The character, and the replacement character for a half. -/
def replacedChar : Piece → Char
  | char c => c
  | half _ => '\ufffd'

/-- A text in pieces. -/
def ofText (s : String) : List Piece :=
  s.toList.map char

/-- The text that pieces form, unless there is a half among them. -/
def text? (ps : List Piece) : Option String :=
  (ps.mapM char?).map String.ofList

/-- The text that pieces form, with the replacement character for each half. -/
def replaced (ps : List Piece) : String :=
  String.ofList (ps.map replacedChar)

/-- The pieces without the blanks at the two ends; a half is not blank. -/
def trim (ps : List Piece) : List Piece :=
  stripWhile (fun p => p.char?.any isBlank) ps

theorem mapM_char?_map (cs : List Char) : (cs.map char).mapM char? = some cs := by
  induction cs with
  | nil => rfl
  | cons c cs ih => rw [List.map_cons, List.mapM_cons, ih]; rfl

theorem eq_map_of_mapM_char? {ps : List Piece} {cs : List Char} (h : ps.mapM char? = some cs) :
    ps = cs.map char := by
  induction ps generalizing cs with
  | nil =>
    obtain rfl : [] = cs := by simpa using h
    rfl
  | cons p ps ih =>
    cases p with
    | half n => simp [char?] at h
    | char c =>
      obtain ⟨ds, hds, rfl⟩ : ∃ ds, ps.mapM char? = some ds ∧ c :: ds = cs := by
        simpa [char?, Option.bind_eq_some_iff] using h
      rw [List.map_cons, ← ih hds]

/-- A text in pieces forms the text again. -/
theorem text?_ofText (s : String) : text? (ofText s) = some s := by
  rw [text?, ofText, mapM_char?_map, Option.map_some, String.ofList_toList]

/-- Pieces that form a text are those of the text. -/
theorem eq_ofText_of_text? {ps : List Piece} {s : String} (h : text? ps = some s) :
    ps = ofText s := by
  obtain ⟨cs, hcs, rfl⟩ := Option.map_eq_some_iff.1 h
  rw [ofText, String.toList_ofList, eq_map_of_mapM_char? hcs]

end Piece

end BuildFleet.Text
