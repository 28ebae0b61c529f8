/-
Rounding does not make a time longer.

The minutes for which a node has been idle are rounded to a double twice.  A number up to an integer
that is itself a double stays up to it when it is rounded, and so a time that is within a limit of
whole minutes is within it also when it is counted in doubles:

* **`Number.nearestDouble_le`** — rounding does not go beyond an integer;
* **`doubleMinutes_le`** — whole minutes that are not used up are not used up in doubles.
-/
import BuildFleet.Wiring
import Mathlib.Algebra.Order.Field.Rat
import Mathlib.Algebra.Order.Field.Basic
import Mathlib.Tactic.NormNum
import Mathlib.Tactic.Ring
import Mathlib.Tactic.Set

namespace BuildFleet

namespace Number

theorem roundHalfEven_le {num den n : Nat} (h : num ≤ n * den) : roundHalfEven num den ≤ n := by
  have hdiv : num / den ≤ n := Nat.div_le_of_le_mul (Nat.mul_comm n den ▸ h)
  have hsplit : den * (num / den) + num % den = num := Nat.div_add_mod num den
  rcases Nat.lt_or_eq_of_le hdiv with hless | heq
  · rw [roundHalfEven]
    split_ifs <;> omega
  · -- The quotient is exact here, so that nothing is left to be rounded up.
    have hrest : num % den = 0 := by
      rw [heq, Nat.mul_comm] at hsplit
      omega
    have heven : den = 0 → n % 2 = 0 := by
      rintro rfl
      rw [← heq, Nat.div_zero]
    rw [roundHalfEven, hrest, heq]
    split_ifs <;> omega

theorem binaryExponent_nonpos {num den : Nat} (hnum : num ≠ 0)
    (h : num ≤ twoTo 52 * den) : binaryExponent num den ≤ 0 := by
  have hlog : ¬52 + (den.log2 + 1) ≤ num.log2 := by
    intro hle
    have hden : den < twoTo (den.log2 + 1) := Nat.lt_log2_self
    have hnum : twoTo num.log2 ≤ num := Nat.log2_self_le hnum
    have hpow : twoTo (52 + (den.log2 + 1)) ≤ twoTo num.log2 :=
      Nat.pow_le_pow_right (by decide) hle
    rw [twoTo_add] at hpow
    have hmul := Nat.mul_lt_mul_of_pos_left hden (twoTo_pos 52)
    exact absurd (hmul.trans_le (hpow.trans (hnum.trans h))) (Nat.lt_irrefl _)
  rw [binaryExponent]
  split_ifs <;> omega

/-- A number up to an integer that is a double is not rounded beyond it. -/
theorem nearestDouble_le {x : Rat} {n : Nat} (hn : n ≤ twoTo 52) (h : x ≤ n) :
    nearestDouble x ≤ n := by
  have hzero : (0 : Rat) ≤ n := Nat.cast_nonneg n
  rw [nearestDouble]
  split
  · exact hzero
  next hnum =>
    dsimp only [binaryQuotient]
    rw [Rat.mkRat_eq_div]
    by_cases hneg : x.num < 0
    · rw [if_pos hneg]
      refine le_trans (div_nonpos_of_nonpos_of_nonneg ?_ (Nat.cast_nonneg _)) hzero
      push_cast
      exact neg_nonpos.mpr (by positivity)
    · -- As the number is small, its last binary place is behind the point.
      rw [if_neg hneg]
      have hle : x.num.natAbs ≤ n * x.den := by
        have hint := (Rat.le_iff x n).mp h
        rw [Rat.num_natCast, Rat.den_natCast, Int.natCast_one, Int.mul_one,
          ← Int.natCast_mul] at hint
        omega
      have hsmall : x.num.natAbs ≤ twoTo 52 * x.den := hle.trans (Nat.mul_le_mul_right _ hn)
      have hexp := binaryExponent_nonpos (Int.natAbs_ne_zero.mpr hnum) hsmall
      set e := binaryExponent x.num.natAbs x.den
      have he : e.toNat = 0 := Int.toNat_eq_zero.mpr hexp
      have hone : twoTo e.toNat = 1 := by rw [he]; rfl
      rw [hone, Nat.mul_one, Nat.mul_one, div_le_iff₀ (Nat.cast_pos.mpr (twoTo_pos _))]
      have hround : roundHalfEven (x.num.natAbs * twoTo (-e).toNat) x.den ≤
          n * twoTo (-e).toNat := by
        refine roundHalfEven_le ?_
        rw [Nat.mul_right_comm]
        exact Nat.mul_le_mul_right _ hle
      exact_mod_cast hround

end Number

/-- A time up to some whole minutes is no longer when it is counted in doubles. -/
theorem doubleMinutes_le {micros : Int} {minutes : Nat} (hm : 60 * minutes ≤ Number.twoTo 52)
    (h : micros ≤ (minutes * Moment.minute : Nat)) : doubleMinutes micros ≤ minutes := by
  have hseconds : (micros : Rat) / 1000000 ≤ (60 * minutes : Nat) := by
    rw [div_le_iff₀ (by norm_num)]
    have hmicros : (micros : Rat) ≤ ((minutes * Moment.minute : Nat) : Int) := Int.cast_le.mpr h
    refine hmicros.trans (le_of_eq ?_)
    simp only [Moment.minute, Moment.second]
    push_cast
    ring
  have hrounded := Number.nearestDouble_le hm hseconds
  refine Number.nearestDouble_le (by omega) ?_
  rw [div_le_iff₀ (by norm_num)]
  refine hrounded.trans (le_of_eq ?_)
  push_cast
  ring

end BuildFleet
