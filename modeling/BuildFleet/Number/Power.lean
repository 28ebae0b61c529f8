/-
Powers of two and of ten.

The two bases of number texts: doubles are counted in powers of two, decimals in powers of ten.
-/
namespace BuildFleet.Number

/-- The power of two with an exponent. -/
def twoTo (n : Nat) : Nat := Nat.pow 2 n

/-- The power of ten with an exponent. -/
def tenTo (n : Nat) : Nat := Nat.pow 10 n

theorem twoTo_pos (n : Nat) : 0 < twoTo n := Nat.pow_pos (by decide)

theorem twoTo_add (m n : Nat) : twoTo (m + n) = twoTo m * twoTo n := Nat.pow_add 2 m n

end BuildFleet.Number
