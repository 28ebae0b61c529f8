/-
Moments.

A `Moment` is a date and a time of day without a time zone, counted in microseconds from the start
of the year 1, which was a Monday.  `read?` and `text` go between moments and their written form
`YYYY-MM-DDTHH:MM:SS`, with six more digits for a fraction of a second that is not zero.
-/
import BuildFleet.Number.Double
import BuildFleet.Json.Reader

namespace BuildFleet

/-- The days of the week. -/
inductive Weekday where
  | monday
  | tuesday
  | wednesday
  | thursday
  | friday
  | saturday
  | sunday
deriving DecidableEq, Repr

namespace Weekday

/-- The days of the week in order. -/
def all : List Weekday :=
  [monday, tuesday, wednesday, thursday, friday, saturday, sunday]

/-- The short name of a day. -/
def name : Weekday → String
  | monday => "mon"
  | tuesday => "tue"
  | wednesday => "wed"
  | thursday => "thu"
  | friday => "fri"
  | saturday => "sat"
  | sunday => "sun"

/-- The day with a short name. -/
def ofName? (s : String) : Option Weekday :=
  all.find? (·.name = s)

/-- The day with a number, where Monday is 0. -/
def ofNumber? (n : Nat) : Option Weekday := all[n]?

theorem ofName?_name (d : Weekday) : ofName? d.name = some d := by
  cases d <;> decide

end Weekday

/-- A point in time, in microseconds from the start of the year 1. -/
structure Moment where
  /-- The microseconds since the start of the year 1. -/
  micros : Nat
deriving DecidableEq, Repr

namespace Moment

/-- The microseconds of a second. -/
def second : Nat := 1000000

/-- The microseconds of a minute. -/
def minute : Nat := 60 * second

/-- The minutes of a day. -/
def minutesPerDay : Nat := 1440

/-- The microseconds of a day. -/
def day : Nat := minutesPerDay * minute

/-- The minute of the day. -/
def minuteOfDay (t : Moment) : Nat :=
  t.micros / minute % minutesPerDay

/-- The day of the week. -/
def weekday (t : Moment) : Weekday :=
  (Weekday.ofNumber? (t.micros / day % 7)).getD .monday

/-- The microseconds from `s` to `t`, negative when `t` is earlier. -/
def since (t s : Moment) : Int := (t.micros : Int) - s.micros

/-- The moment a number of seconds later; the seconds are rounded to microseconds, and a duration
without end does not count. -/
def later (t : Moment) (seconds : Float) : Moment :=
  match Number.value? seconds with
  | none => t
  | some x =>
    let whole := x.num.tdiv x.den
    let part := Number.nearestDouble ((x - whole) * 1000000)
    let micros : Int := Number.roundHalfEven part.num.natAbs part.den
    let shift := whole * 1000000 + (if part.num < 0 then -micros else micros)
    ⟨((t.micros : Int) + shift).toNat⟩

/-! ### Dates -/

/-- The year has a 29th of February. -/
def isLeapYear (year : Nat) : Bool :=
  year % 4 = 0 && (year % 100 ≠ 0 || year % 400 = 0)

/-- The lengths of the months of a year. -/
def monthLengths (year : Nat) : List Nat :=
  [31, if isLeapYear year then 29 else 28, 31, 30, 31, 30, 31, 31, 30, 31, 30, 31]

/-- The days before the first of January of a year. -/
def daysBeforeYear (year : Nat) : Nat :=
  let y := year - 1
  365 * y + y / 4 - y / 100 + y / 400

/-- The days before a date, counted from the start of the year 1. -/
def daysBefore (year month dayOfMonth : Nat) : Nat :=
  daysBeforeYear year + ((monthLengths year).take (month - 1)).foldl (· + ·) 0 + (dayOfMonth - 1)

/-- The month and the day of the month of the day number `n` of a year, counted from zero. -/
def monthAndDay (n : Nat) : List Nat → Nat × Nat
  | [] => (1, n + 1)
  | len :: rest =>
    if n < len then (1, n + 1)
    else
      let (month, dayOfMonth) := monthAndDay (n - len) rest
      (month + 1, dayOfMonth)

/-- The year in which a day lies, where `year` is not after it and at most `fuel` years before. -/
def yearFrom (days year : Nat) : (fuel : Nat) → Nat
  | 0 => year
  | fuel + 1 => if daysBeforeYear (year + 1) ≤ days then yearFrom days (year + 1) fuel else year

/-- Year, month and day of the month of a day, counted from the start of the year 1. -/
def date (days : Nat) : Nat × Nat × Nat :=
  let year := yearFrom days (days / 366 + 1) (days / 366 / 400 + 2)
  let (month, dayOfMonth) := monthAndDay (days - daysBeforeYear year) (monthLengths year)
  (year, month, dayOfMonth)

/-! ### Written form -/

/-- Hour and minute with two digits each. -/
def hourMinute (t : Moment) : String :=
  let m := t.minuteOfDay
  String.ofList (Number.padded 2 (m / 60) ++ ':' :: Number.padded 2 (m % 60))

/-- The written form of a moment. -/
def text (t : Moment) : String :=
  let (year, month, dayOfMonth) := date (t.micros / day)
  let seconds := t.micros / second % 60
  let fraction := t.micros % second
  String.ofList (Number.padded 4 year ++ '-' :: Number.padded 2 month ++
      '-' :: Number.padded 2 dayOfMonth ++ ['T']) ++
    t.hourMinute ++ String.ofList (':' :: Number.padded 2 seconds ++
      if fraction = 0 then [] else '.' :: Number.padded 6 fraction)

/-- Reads `width` digits. -/
def readDigits? (width : Nat) (cs : List Char) : Option (Nat × List Char) :=
  let ds := cs.take width
  if ds.length = width && ds.all Char.isDigit then some (Json.natOfDigits ds, cs.drop width)
  else none

/-- Drops one character that has to be there. -/
def expect? (c : Char) : List Char → Option (List Char)
  | d :: rest => if d = c then some rest else none
  | [] => none

/-- Reads the written form of a moment. -/
def read? (s : String) : Option Moment := do
  let (year, rest) ← readDigits? 4 s.toList
  let (month, rest) ← readDigits? 2 (← expect? '-' rest)
  let (dayOfMonth, rest) ← readDigits? 2 (← expect? '-' rest)
  let (hour, rest) ← readDigits? 2 (← expect? 'T' rest)
  let (min, rest) ← readDigits? 2 (← expect? ':' rest)
  let (seconds, rest) ← readDigits? 2 (← expect? ':' rest)
  let (fraction, _) ←
    match rest with
    | [] => some (0, [])
    | rest => readDigits? 6 (← expect? '.' rest)
  return ⟨daysBefore year month dayOfMonth * day + (60 * hour + min) * minute + seconds * second +
    fraction⟩

end Moment

end BuildFleet
