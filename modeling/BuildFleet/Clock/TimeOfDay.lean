/-
Times of day as people write them.

A time of day is an hour and a minute with a colon between them; each is an integer in any of its
spellings, so blanks, signs and digits of other scripts are fine as long as the numbers are in
range.
-/
import BuildFleet.Clock.Moment
import BuildFleet.Text.Integer

namespace BuildFleet.TimeOfDay

/-- Reads `HH:MM` as the minute of the day. -/
def read? (s : String) : Option Nat :=
  match Text.splitChars ':' (Text.trimChars s.toList) with
  | [hour, min] =>
    match Text.readInteger (String.ofList hour), Text.readInteger (String.ofList min) with
    | .ok hour, .ok min =>
      if 0 ≤ hour && hour < 24 && 0 ≤ min && min < 60 then some (hour * 60 + min).toNat
      else none
    | _, _ => none
  | _ => none

end BuildFleet.TimeOfDay
