/-
Decimal texts of exact numbers.

`fixed` writes a rational number with a given number of places, rounding to nearest and a tie to
the even neighbour.  It is exact arithmetic throughout, so the text of a double depends on the
double's exact value and not on its shortest spelling.
-/
import BuildFleet.Number.Power

namespace BuildFleet.Number

/-- The integer nearest to `num / den`, and the even one of two that are equally near. -/
def roundHalfEven (num den : Nat) : Nat :=
  let q := num / den
  let twice := 2 * (num % den)
  if twice < den then q
  else if den < twice then q + 1
  else if q % 2 = 0 then q else q + 1

/-- The decimal digits of `n`, with zeros in front up to `width` characters. -/
def padded (width n : Nat) : List Char :=
  let ds := Nat.toDigits 10 n
  List.replicate (width - ds.length) '0' ++ ds

/-- `num / den` with `places` digits behind the point. -/
def fixedNat (places num den : Nat) : List Char :=
  let scaled := roundHalfEven (num * tenTo places) den
  let whole := Nat.toDigits 10 (scaled / tenTo places)
  if places = 0 then whole else whole ++ '.' :: padded places (scaled % tenTo places)

/-- A rational number with `places` digits behind the point. -/
def fixed (places : Nat) (x : Rat) : String :=
  let sign := if x.num < 0 then ['-'] else []
  String.ofList (sign ++ fixedNat places x.num.natAbs x.den)

end BuildFleet.Number
