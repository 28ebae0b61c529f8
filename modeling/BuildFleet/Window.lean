/-
Primed windows.

A primed window says when idle capacity is to be kept ready: between two times of day, on given
weekdays or on all of them.  A window whose end is earlier than its start goes on past midnight, a
window with two empty bounds covers the whole day, and a window with a malformed bound covers
nothing.

* **`Window.covers`** — the window covers a moment;
* **`Window.remark?`** — what is written to the log about that;
* **`Window.ofValue`**, **`Window.toValue`** — windows in configuration files.
-/
import BuildFleet.Clock.TimeOfDay
import BuildFleet.Schema.Conversions
import BuildFleet.Text.Letter

namespace BuildFleet

open Json (Value)
open Schema (Checked)

/-- A range of the day, on all days or on some weekdays. -/
structure Window where
  /-- Where the window starts, as written. -/
  start : List Text.Piece
  /-- Where the window ends, as written. -/
  stop : List Text.Piece
  /-- The weekdays of the window; none for all days. -/
  days : Option (List Weekday)
deriving DecidableEq, Repr

namespace Window

/-! ### Coverage -/

/-- Neither end is bounded. -/
def isUnbounded (w : Window) : Bool :=
  w.start.isEmpty && w.stop.isEmpty

/-- The window has a part on the weekday. -/
def includesDay (w : Window) (d : Weekday) : Bool :=
  match w.days with
  | none => true
  | some days => days.contains d

/-- A bound as a minute of the day, if it is well formed. -/
def boundOf? (bound : List Text.Piece) : Option Nat :=
  (Text.Piece.text? bound).bind TimeOfDay.read?

/-- Both bounds as minutes of the day, if both are well formed. -/
def bounds? (w : Window) : Option (Nat × Nat) := do
  return (← boundOf? w.start, ← boundOf? w.stop)

/-- The bounds around the minute `m`.  A range that goes on past midnight started the day before, or
it stops the day after. -/
def boundsAround (start stop m : Nat) : Int × Int :=
  if stop < start then
    if m < start then ((start : Int) - Moment.minutesPerDay, stop)
    else (start, (stop : Int) + Moment.minutesPerDay)
  else (start, stop)

/-- The minute `m` lies in the range from `start` up to but not including `stop`, past midnight if
`stop` comes first. -/
def inRange (start stop m : Nat) : Bool :=
  let (start, stop) := boundsAround start stop m
  start ≤ m && m < stop

/-- On one face of the clock, a minute of a range past midnight comes after its start or before its
end. -/
theorem inRange_eq {start stop m : Nat} (hstart : start < Moment.minutesPerDay)
    (hm : m < Moment.minutesPerDay) : inRange start stop m =
      if stop < start then start ≤ m || m < stop else start ≤ m && m < stop := by
  rw [Moment.minutesPerDay] at hstart hm
  refine Bool.eq_iff_iff.mpr ?_
  rw [inRange, boundsAround]
  by_cases hpast : stop < start
  · by_cases hbefore : m < start
    · simp only [if_pos hpast, if_pos hbefore, Bool.and_eq_true, Bool.or_eq_true,
        decide_eq_true_eq, Moment.minutesPerDay]
      omega
    · simp only [if_pos hpast, if_neg hbefore, Bool.and_eq_true, Bool.or_eq_true,
        decide_eq_true_eq, Moment.minutesPerDay]
      omega
  · simp only [if_neg hpast, Bool.and_eq_true, decide_eq_true_eq]
    omega

/-- The window covers the moment. -/
def covers (w : Window) (now : Moment) : Bool :=
  w.includesDay now.weekday &&
    (w.isUnbounded ||
      match w.bounds? with
      | some (start, stop) => inRange start stop now.minuteOfDay
      | none => false)

/-- What is written to the log when the window is tried at a moment: nothing if the weekday or the
lack of bounds decides, a warning about malformed bounds, and else the outcome. -/
def remark? (w : Window) (now : Moment) : Option LogEntry :=
  if !w.includesDay now.weekday || w.isUnbounded then none
  else
    match w.bounds? with
    | none =>
      some ⟨.warning, "Ignoring primed window with malformed bounds: " ++
        s!"start={Text.Piece.quoted w.start}, end={Text.Piece.quoted w.stop}"⟩
    | some (start, stop) =>
      let outcome := if inRange start stop now.minuteOfDay then "in" else "not in"
      let (start, stop) := (Text.Piece.replaced w.start, Text.Piece.replaced w.stop)
      some ⟨.debug, s!"Primed window {start}-{stop} at {now.hourMinute}: " ++
        s!"{outcome} time period"⟩

/-- One of the windows covers the moment; a list without windows leaves nothing out. -/
def anyCovers (ws : List Window) (now : Moment) : Bool :=
  ws.isEmpty || ws.any (·.covers now)

/-- The windows that are tried at a moment: all up to the first that covers it. -/
def tried (now : Moment) : List Window → List Window
  | [] => []
  | w :: ws => if w.covers now then [w] else w :: tried now ws

/-- What is written to the log when a list of windows is tried at a moment. -/
def remarks (ws : List Window) (now : Moment) : List LogEntry :=
  (tried now ws).filterMap (·.remark? now)

/-! ### Configuration -/

/-- A bound as it is kept: the trimmed text of any value, and empty for null. -/
def boundOfValue : Value → Checked (List Text.Piece)
  | .null => .accept []
  | v => .accept (Text.Piece.trim v.displayPieces)

/-- The weekday that a text begins with, in any case. -/
def weekdayOfText? (s : String) : Option Weekday :=
  Weekday.ofName? (String.ofList ((Text.lower (Text.trim s)).toList.take 3))

/-- A weekday by number, where Monday is 0. -/
def weekdayOfNumber (n : Int) (shown : String) : Except String Weekday :=
  match if 0 ≤ n then Weekday.ofNumber? n.toNat else none with
  | some d => .ok d
  | none => .error s!"Weekday number out of range: {shown}"

/-- A weekday by name or by number. -/
def weekdayOfValue (v : Value) : Except String Weekday :=
  match v with
  | .int n => weekdayOfNumber n v.display
  | .bool b => weekdayOfNumber (if b then 1 else 0) v.display
  | v =>
    match weekdayOfText? v.display with
    | some d => .ok d
    | none => .error s!"Unknown weekday: {v.inspect}"

/-- The weekdays of a window; null stands for all days. -/
def daysOfValue : Value → Checked (Option (List Weekday))
  | .null => .accept none
  | v =>
    match v.parts? with
    | none => .breakOff (.misfit .wrongKind)
    | some parts =>
      match parts.mapM weekdayOfValue with
      | .ok days => .accept (some days)
      | .error text => .reject (.rule text)

/-- Reads a window. -/
def ofValue : Value → Checked Window :=
  Schema.asModel fun fields =>
    Window.mk <$> Schema.optional fields "start_time" [] boundOfValue
      <*> Schema.optional fields "end_time" [] boundOfValue
      <*> Schema.optional fields "days" none daysOfValue

/-- A window as a value that is read as it. -/
def toValue (w : Window) : Value :=
  .object
    [("start_time", .ofPieces w.start), ("end_time", .ofPieces w.stop),
     ("days", match w.days with
       | none => .null
       | some days => .list (days.map fun d => .text d.name))]

end Window

end BuildFleet
