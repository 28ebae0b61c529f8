/-
Caps on the number of instances.

A cap is configured as a text; an empty one means that there is no bound.  `Cap.unlimited` is then
the cap, and it is larger than any number of instances a provider can count.
-/
import BuildFleet.Text.Integer
import BuildFleet.Failure
import BuildFleet.Json.Value

namespace BuildFleet.Cap

open Json (Value)

/-- The cap that never refuses. -/
def unlimited : Nat := 9223372036854775807

/-- Reads the text of a cap; a blank text means no bound. -/
def ofText (s : String) : Except Text.IntegerFault Int :=
  let s := Text.trim s
  if s.isEmpty then .ok unlimited else Text.readInteger s

/-- Reads a configured cap: null means no bound, and any other value counts by its text. -/
def ofValue : Value → Except Text.IntegerFault Int
  | .null => .ok unlimited
  | .brokenText pieces => .error (.ofPieces (Text.Piece.trim pieces))
  | v => ofText v.display

/-- Reads the text of a cap, with a text that is no integer as the failure. -/
def ofText? (s : String) : Except Failure Int :=
  (ofText s).mapError fun fault => .badValue fault.message

end BuildFleet.Cap
