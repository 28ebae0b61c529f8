/-
Double-precision numbers, taken apart exactly.

* **`parts`** — a double as what it denotes: not a number, an infinity, or a sign with an exact
  magnitude `significand * 2 ^ exponent`;
* **`nearestDouble`** — the double nearest to a rational number, as a rational number, for
  magnitudes that neither overflow nor lose precision at the small end;
* **`ofDecimal`** — the double nearest to a decimal.

Everything but `ofDecimal` is exact integer arithmetic.
-/
import BuildFleet.Number.Decimal

namespace BuildFleet.Number

/-- What a double denotes. -/
inductive Parts where
  | nan
  | infinite (negative : Bool)
  /-- The number `significand * 2 ^ exponent`, or its opposite. -/
  | finite (negative : Bool) (significand : Nat) (exponent : Int)
deriving DecidableEq, Repr

/-- Takes a double apart. -/
def parts (x : Float) : Parts :=
  let bits := x.toBits.toNat
  let negative := bits / twoTo 63 = 1
  let biased : Nat := bits / twoTo 52 % twoTo 11
  let fraction := bits % twoTo 52
  if biased = 2047 then
    if fraction = 0 then .infinite negative else .nan
  else if biased = 0 then .finite negative fraction (-1074)
  else .finite negative (twoTo 52 + fraction) ((biased : Int) - 1075)

/-- `m * 2 ^ e` as a quotient of natural numbers. -/
def binaryQuotient (m : Nat) (e : Int) : Nat × Nat :=
  (m * twoTo e.toNat, twoTo (-e).toNat)

/-- The exact value of a finite double. -/
def value? (x : Float) : Option Rat :=
  match parts x with
  | .finite negative m e =>
    let (num, den) := binaryQuotient m e
    some (mkRat (if negative then -(num : Int) else num) den)
  | _ => none

/-- A double with a given number of places, rounded from its exact value. -/
def fixedDouble (places : Nat) (x : Float) : String :=
  match parts x with
  | .nan => "nan"
  | .infinite negative => if negative then "-inf" else "inf"
  | .finite negative m e =>
    let (num, den) := binaryQuotient m e
    String.ofList ((if negative then ['-'] else []) ++ fixedNat places num den)

/-- The exponent `e` for which `num / den` lies in `[2 ^ 52 * 2 ^ e, 2 ^ 53 * 2 ^ e)`. -/
def binaryExponent (num den : Nat) : Int :=
  let e : Int := (num.log2 : Int) - den.log2 - 52
  if num * twoTo (-e).toNat < twoTo 52 * (den * twoTo e.toNat) then e - 1 else e

/-- The number with 53 significant bits that is nearest to `x`, the one with an even last bit of
two that are equally near. -/
def nearestDouble (x : Rat) : Rat :=
  if x.num = 0 then 0
  else
    let e := binaryExponent x.num.natAbs x.den
    let m := roundHalfEven (x.num.natAbs * twoTo (-e).toNat) (x.den * twoTo e.toNat)
    let (num, den) := binaryQuotient m e
    mkRat (if x.num < 0 then -(num : Int) else num) den

/-- The double nearest to `m * 10 ^ e`. -/
def ofDecimal (m : Nat) (e : Int) : Float :=
  let size : Int := (Nat.toDigits 10 m).length + e
  if m = 0 || size < -400 then 0
  else if 400 < size then 1.0 / 0.0
  else if e < 0 then Float.ofScientific m true (-e).toNat
  else Float.ofScientific m false e.toNat

end BuildFleet.Number
