/-
The shortest decimal that reads back as a given double.

For 1, 2, … 17 digits the two neighbours of the double's exact value on the grid of decimals with
that many digits are tried; the first grid with a decimal that rounds to the double wins, and of
two such decimals the nearer.  `text` writes the result positionally between `1e-4` and `1e16` and
with an exponent outside, always with a mark that tells it from an integer.
-/
import BuildFleet.Number.Double

namespace BuildFleet.Number

/-- The interval of numbers that round to a double, and the double itself, over one common
denominator.  The ends belong to it when the significand is even. -/
structure Neighbourhood where
  /-- The lower end. -/
  low : Nat
  /-- The double. -/
  mid : Nat
  /-- The upper end. -/
  high : Nat
  /-- The denominator of all three. -/
  den : Nat
  /-- The ends round to the double too. -/
  closed : Bool

/-- The interval around `m * 2 ^ e`.  Below a power of two the doubles lie twice as dense. -/
def neighbourhood (m : Nat) (e : Int) : Neighbourhood :=
  let scale := twoTo (e - 2).toNat
  let below := if m = twoTo 52 && e ≠ -1074 then 1 else 2
  { low := (4 * m - below) * scale, mid := 4 * m * scale, high := (4 * m + 2) * scale,
    den := twoTo (2 - e).toNat, closed := m % 2 == 0 }

/-- The exponent of the leading decimal digit of `num / den`. -/
def decimalExponent (num den : Nat) : Int :=
  let k : Int := (Nat.toDigits 10 num).length - (Nat.toDigits 10 den).length
  if num * tenTo (-k).toNat < den * tenTo k.toNat then k - 1 else k

/-- The decimal `d * 10 ^ g` lies in the interval. -/
def Neighbourhood.holds (n : Neighbourhood) (g : Int) (d : Nat) : Bool :=
  let x := d * n.den * tenTo g.toNat
  let unit := tenTo (-g).toNat
  if n.closed then n.low * unit ≤ x && x ≤ n.high * unit
  else n.low * unit < x && x < n.high * unit

/-- The decimal on the grid of multiples of `10 ^ g` that rounds to the double, if there is one;
the nearer of two, and the even one of two that are equally near. -/
def Neighbourhood.onGrid (n : Neighbourhood) (g : Int) : Option Nat :=
  let num := n.mid * tenTo (-g).toNat
  let den := n.den * tenTo g.toNat
  let d := num / den
  match n.holds g d, n.holds g (d + 1) with
  | true, true => some (roundHalfEven num den)
  | true, false => some d
  | false, true => some (d + 1)
  | false, false => none

/-- The first of the grids with `tried`, `tried + 1`, … digits that holds a decimal for the
double. -/
def Neighbourhood.search (n : Neighbourhood) (top : Int) : (fuel tried : Nat) → Nat × Int
  | 0, tried => (n.mid / n.den, top - tried + 1)
  | fuel + 1, tried =>
    let g := top - tried + 1
    match n.onGrid g with
    | some d => (d, g)
    | none => n.search top fuel (tried + 1)

/-- A decimal without zeros at its end, as its digits and the exponent of the last one. -/
def dropZeros : List Char → Int → List Char × Int
  | ds, g =>
    let kept := (ds.reverse.dropWhile (· == '0')).reverse
    (kept, g + (ds.length - kept.length : Nat))

/-- The digits of the shortest decimal for `m * 2 ^ e` with `0 < m`, and the exponent of its last
digit. -/
def shortestDigits (m : Nat) (e : Int) : List Char × Int :=
  let n := neighbourhood m e
  let (d, g) := n.search (decimalExponent n.mid n.den) 17 1
  dropZeros (Nat.toDigits 10 d) g

/-- A decimal exponent with its sign and at least two digits. -/
def exponentText (e : Int) : List Char :=
  (if e < 0 then '-' else '+') :: padded 2 e.natAbs

/-- Digits whose last one has the exponent `g`, written out. -/
def layout (ds : List Char) (g : Int) : List Char :=
  let top : Int := g + ds.length - 1
  if -4 ≤ top && top < 16 then
    if 0 ≤ g then ds ++ List.replicate g.toNat '0' ++ ['.', '0']
    else if 0 ≤ top then
      let whole := (top + 1).toNat
      ds.take whole ++ '.' :: ds.drop whole
    else '0' :: '.' :: List.replicate (-top - 1).toNat '0' ++ ds
  else
    match ds with
    | [] => []
    | [d] => d :: 'e' :: exponentText top
    | d :: rest => d :: '.' :: rest ++ 'e' :: exponentText top

/-- The shortest decimal that reads back as `x`. -/
def text (x : Float) : String :=
  match parts x with
  | .nan => "nan"
  | .infinite negative => if negative then "-inf" else "inf"
  | .finite negative m e =>
    let body := if m = 0 then ['0', '.', '0'] else (fun (ds, g) => layout ds g) (shortestDigits m e)
    String.ofList ((if negative then ['-'] else []) ++ body)

end BuildFleet.Number
