import Mathlib.Algebra.Group.Nat.Defs
import Mathlib.Tactic.SplitIfs
import StableLocator.Number.Binary64

/-!
# The size of floating point numbers

Rounding keeps the parts of a number small: a mantissa has at most 53 bits, and no finite number has more
than `wholeBits` bits before the point.

* `Binary64.Bounded` — the bounds of the parts;
* `Binary64.bounded_ofDecimal` — they hold for every decimal that is rounded;
* `Binary64.whole_lt` — a number within them without its fraction.
-/

namespace StableLocator
namespace Number
namespace Binary64

/-! ## Powers -/

/-- A power with an exponent that is not negative is a whole number. -/
theorem scale_natCast (base k : Nat) : scale base k = (base ^ k, 1) := by
  rw [scale, if_pos (Int.natCast_nonneg k), Int.toNat_natCast]
  rfl

/-- A power with a negative exponent is one over a whole number. -/
theorem scale_neg (base k : Nat) : scale base (-k) = (1, base ^ k) := by
  cases k with
  | zero => rfl
  | succ k =>
    rw [scale, if_neg (by omega), Int.neg_neg, Int.toNat_natCast]
    rfl

/-! ## Rounding -/

def Bounded : Binary64 → Prop
  | .finite _ mantissa exponent => mantissa < mantissaLimit ∧ exponent ≤ maxExponent
  | _ => True

/-- Rounding adds at most one to the quotient without its fraction. -/
theorem roundDiv_le (num den : Nat) : roundDiv num den ≤ num / den + 1 := by
  unfold roundDiv
  extract_lets q twice
  split_ifs <;> omega

/-- A quotient has few bits in a unit that leaves at most 51 of them. -/
theorem div_lt_mantissaLimit {num den : Nat} {e : Int}
    (h : (Nat.log2 num : Int) - Nat.log2 den - 51 ≤ e) :
    num * (scale 2 e).2 / (den * (scale 2 e).1) < mantissaLimit := by
  by_cases hDen : den = 0
  · rw [hDen, Nat.zero_mul, Nat.div_zero]
    decide
  have hNum : num < 2 ^ (num.log2 + 1) := Nat.lt_log2_self
  have hLeast : 2 ^ den.log2 ≤ den := Nat.log2_self_le hDen
  have hPositive : 0 < den := Nat.pos_of_ne_zero hDen
  have hLimit : mantissaLimit = 2 ^ 53 := rfl
  rw [hLimit]
  obtain ⟨k, rfl | rfl⟩ := e.eq_nat_or_neg
  · rw [scale_natCast, Nat.mul_one,
      Nat.div_lt_iff_lt_mul (Nat.mul_pos hPositive (Nat.two_pow_pos k))]
    calc num < 2 ^ (num.log2 + 1) := hNum
      _ ≤ 2 ^ (53 + (den.log2 + k)) := Nat.pow_le_pow_right (by decide) (by omega)
      _ = 2 ^ 53 * (2 ^ den.log2 * 2 ^ k) := by rw [Nat.pow_add, Nat.pow_add 2 den.log2]
      _ ≤ 2 ^ 53 * (den * 2 ^ k) := Nat.mul_le_mul_left _ (Nat.mul_le_mul_right _ hLeast)
  · rw [scale_neg, Nat.mul_one, Nat.div_lt_iff_lt_mul hPositive]
    calc num * 2 ^ k < 2 ^ (num.log2 + 1) * 2 ^ k :=
          Nat.mul_lt_mul_of_pos_right hNum (Nat.two_pow_pos k)
      _ = 2 ^ (num.log2 + 1 + k) := (Nat.pow_add ..).symm
      _ ≤ 2 ^ (53 + den.log2) := Nat.pow_le_pow_right (by decide) (by omega)
      _ = 2 ^ 53 * 2 ^ den.log2 := Nat.pow_add ..
      _ ≤ 2 ^ 53 * den := Nat.mul_le_mul_left _ hLeast

/-- A fraction is rounded to a number with small parts, or is too large for one. -/
theorem bounded_ofFraction (negative : Bool) (num den : Nat) :
    (ofFraction negative num den).Bounded := by
  unfold ofFraction
  extract_lets guess quotient small exponent
  -- The last of the three exponents is large enough for any quotient.
  have hSmall : (quotient exponent).1 / (quotient exponent).2 < mantissaLimit := by
    have small_iff (e : Int) : small e = true ↔ (quotient e).1 / (quotient e).2 < mantissaLimit :=
      decide_eq_true_iff
    rw [← small_iff]
    unfold exponent
    split_ifs with hFirst hSecond
    · exact hFirst
    · exact hSecond
    · exact (small_iff _).mpr (div_lt_mantissaLimit (by omega))
  have hRound := roundDiv_le (quotient exponent).1 (quotient exponent).2
  generalize hMantissa : roundDiv (quotient exponent).1 (quotient exponent).2 = mantissa at hRound
  simp only [hMantissa]
  by_cases hFull : mantissa = mantissaLimit
  · simp only [if_pos hFull]
    split
    · trivial
    · exact ⟨by decide, by omega⟩
  · simp only [if_neg hFull]
    split
    · trivial
    · exact ⟨by omega, by omega⟩

/-- A decimal is rounded to a number with small parts, or is too large for one. -/
theorem bounded_ofDecimal (negative : Bool) (digits : Nat) (power : Int) :
    (ofDecimal negative digits power).Bounded := by
  unfold ofDecimal
  extract_lets width
  split_ifs
  · exact ⟨by decide, by decide⟩
  · trivial
  · exact ⟨by decide, by decide⟩
  · exact bounded_ofFraction ..

/-! ## Integers -/

/-- The largest number of bits before the point. -/
def wholeBits : Nat := 1024

/-- A finite number without its fraction has no more bits than that. -/
theorem whole_lt {mantissa : Nat} {exponent : Int} (hMantissa : mantissa < mantissaLimit)
    (hExponent : exponent ≤ maxExponent) : whole mantissa exponent < 2 ^ wholeBits := by
  have hLimit : mantissaLimit = 2 ^ 53 := rfl
  have hMax : maxExponent = 971 := rfl
  rw [hLimit] at hMantissa
  rw [hMax] at hExponent
  obtain ⟨k, rfl | rfl⟩ := exponent.eq_nat_or_neg
  · simp only [whole, scale_natCast, Nat.div_one]
    calc mantissa * 2 ^ k < 2 ^ 53 * 2 ^ k :=
          Nat.mul_lt_mul_of_pos_right hMantissa (Nat.two_pow_pos k)
      _ = 2 ^ (53 + k) := (Nat.pow_add ..).symm
      _ ≤ 2 ^ wholeBits := Nat.pow_le_pow_right (by decide) (by unfold wholeBits; omega)
  · simp only [whole, scale_neg, Nat.mul_one]
    calc mantissa / 2 ^ k ≤ mantissa := Nat.div_le_self ..
      _ < 2 ^ 53 := hMantissa
      _ ≤ 2 ^ wholeBits := Nat.pow_le_pow_right (by decide) (by decide)

end Binary64
end Number
end StableLocator
