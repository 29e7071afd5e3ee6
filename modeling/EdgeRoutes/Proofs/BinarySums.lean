import EdgeRoutes.Number.Binary64
import Mathlib.Algebra.Order.Field.Rat
import Mathlib.Data.Nat.Log
import Mathlib.Tactic.FieldSimp
import Mathlib.Tactic.Ring

/-! Sums of whole numbers in binary arithmetic of 64 bits. A whole number up to `2 ^ 53` is a binary number, so it is
not rounded, and neither is a sum of such numbers that stays within that bound. -/

namespace EdgeRoutes.Number

theorem scaleUp_two_pos (e : Int) : 0 < scaleUp 2 1 e := by
  rw [scaleUp, one_mul]
  exact Nat.two_pow_pos _

/-- An exponent of two is carried by the numerator or, if it is negative, by the denominator. -/
theorem scaleUp_two_eq (n : Nat) (e : Int) : (scaleUp 2 n e : ℚ) = n * 2 ^ e * scaleUp 2 1 (-e) := by
  rcases Int.eq_nat_or_neg e with ⟨k, rfl | rfl⟩
  · simp [scaleUp]
  · simp [scaleUp]

theorem scaleUp_of_nonpos {e : Int} (he : e ≤ 0) (n : Nat) : scaleUp 2 n e = n := by
  rw [scaleUp, Int.toNat_of_nonpos he]
  exact Nat.mul_one n

theorem scaleUp_two_of_nonneg {e : Int} (he : 0 ≤ e) (n : Nat) : (scaleUp 2 n e : ℚ) = n * 2 ^ e := by
  rw [scaleUp_two_eq, scaleUp_of_nonpos (by omega), Nat.cast_one, mul_one]

namespace Magnitude

/-- The number that is meant. -/
def value (x : Magnitude) : ℚ := x.mant * 2 ^ x.exp

theorem roundDiv_mul (q : Nat) {den : Nat} (hden : 0 < den) : roundDiv (q * den) den = q := by
  have hdiv : q * den / den = q := Nat.mul_div_cancel q hden
  have hmod : q * den % den = 0 := Nat.mul_mod_left q den
  simp only [roundDiv, hdiv, hmod]
  rw [if_neg (by omega)]

/-- A quotient in the middle of the range is the multiple of a power of two that it is rounded to. -/
theorem value_ofQuotient {num den : Nat} (hnum : num ≠ 0) (hexp : exponentOf num den ≤ 1) :
    ∃ x, ofQuotient num den = some x ∧
      x.value = scaled num den (exponentOf num den) * 2 ^ exponentOf num den := by
  simp only [ofQuotient, if_neg hnum]
  generalize exponentOf num den = e at hexp
  generalize scaled num den e = m
  by_cases hm : m = Nat.pow 2 53
  · -- the mantissa was rounded up to a power of two, which goes to the exponent
    refine ⟨⟨Nat.pow 2 52, e + 1⟩, ?_, ?_⟩
    · rw [if_pos hm, if_neg]
      simp only [maxExp]
      omega
    · rw [value, hm, zpow_add_one₀ two_ne_zero]
      norm_num
      ring
  · refine ⟨⟨m, e⟩, ?_, rfl⟩
    rw [if_neg hm, if_neg]
    simp only [maxExp]
    omega

/-- Up to `2 ^ 53` no bit of a whole number is below the exponent, except that the last one has a zero there. -/
theorem exponentOf_mul {n den : Nat} (hn : 0 < n) (hden : 0 < den) (h : n ≤ 2 ^ 53) :
    exponentOf (n * den) den ≤ 0 ∨ exponentOf (n * den) den = 1 ∧ n = 2 ^ 53 := by
  have hnum : n * den ≠ 0 := (Nat.mul_pos hn hden).ne'
  have hle : Nat.log2 den ≤ Nat.log2 (n * den) :=
    (Nat.le_log2 hnum).mpr ((Nat.log2_self_le hden.ne').trans (Nat.le_mul_of_pos_left den hn))
  have hlt : Nat.log2 (n * den) < Nat.log2 den + 54 := by
    rw [Nat.log2_lt hnum]
    calc n * den ≤ 2 ^ 53 * den := Nat.mul_le_mul_right den h
      _ < 2 ^ 53 * 2 ^ (Nat.log2 den + 1) := Nat.mul_lt_mul_of_pos_left Nat.lt_log2_self (by norm_num)
      _ = 2 ^ (Nat.log2 den + 54) := by rw [← pow_add]; congr 1; omega
  simp only [exponentOf]
  generalize hguess : (Nat.log2 (n * den) : Int) - Nat.log2 den - 53 = guess
  have hguess0 : guess ≤ 0 := by omega
  by_cases hfits : scaleUp 2 (n * den) (-guess) < scaleUp 2 den guess * Nat.pow 2 53
  · rw [if_pos hfits]
    simp only [minExp]
    omega
  · rw [if_neg hfits]
    by_cases hzero : guess = 0
    · rw [hzero, neg_zero, scaleUp_of_nonpos le_rfl, scaleUp_of_nonpos le_rfl, mul_comm,
        Nat.mul_lt_mul_left hden] at hfits
      exact Or.inr ⟨by rw [hzero]; rfl, Nat.le_antisymm h (Nat.le_of_not_lt hfits)⟩
    · simp only [minExp]
      omega

/-- A whole number up to `2 ^ 53`, written as a quotient, is not rounded. -/
theorem ofQuotient_mul {n den : Nat} (hden : 0 < den) (h : n ≤ 2 ^ 53) :
    ∃ x, ofQuotient (n * den) den = some x ∧ x.value = n := by
  rcases Nat.eq_zero_or_pos n with rfl | hn
  · refine ⟨zero, ?_, ?_⟩
    · rw [ofQuotient, if_pos (Nat.zero_mul den)]
    · simp [value, zero]
  · have hexp := exponentOf_mul hn hden h
    have hmiddle : exponentOf (n * den) den ≤ 1 := by omega
    obtain ⟨x, hx, hvalue⟩ := value_ofQuotient (Nat.mul_pos hn hden).ne' hmiddle
    refine ⟨x, hx, hvalue.trans ?_⟩
    rcases hexp with hexp | ⟨hexp, rfl⟩
    · obtain ⟨k, hk⟩ := Int.exists_eq_neg_ofNat hexp
      have hscaled : scaled (n * den) den (-k) = n * 2 ^ k := by
        rw [scaled, neg_neg, scaleUp_of_nonpos (by omega) den, scaleUp, Int.toNat_natCast, Nat.mul_right_comm]
        exact roundDiv_mul _ hden
      rw [hk, hscaled]
      simp
    · have hscaled : scaled (2 ^ 53 * den) den 1 = 2 ^ 52 := by
        rw [scaled, scaleUp_of_nonpos (by omega), show 2 ^ 53 * den = 2 ^ 52 * (den * 2) by ring]
        exact roundDiv_mul _ (Nat.mul_pos hden Nat.two_pos)
      rw [hexp, hscaled]
      norm_num

/-- So is one with an exponent of two. -/
theorem round_of_value {m n : Nat} {e : Int} (hvalue : (m * 2 ^ e : ℚ) = n) (h : n ≤ 2 ^ 53) :
    ∃ x, round m e = some x ∧ x.value = n := by
  have hnum : scaleUp 2 m e = n * scaleUp 2 1 (-e) := by
    have hcast := scaleUp_two_eq m e
    rw [hvalue] at hcast
    exact_mod_cast hcast
  rw [round, hnum]
  exact ofQuotient_mul (scaleUp_two_pos _) h

theorem ofNat_of_le {n : Nat} (h : n ≤ 2 ^ 53) : ∃ x, ofNat n = some x ∧ x.value = n := by
  have hone := ofQuotient_mul Nat.one_pos h
  rwa [Nat.mul_one] at hone

/-- A sum of whole numbers that stays within `2 ^ 53` is not rounded. -/
theorem add_of_le {x y : Magnitude} {a b : Nat} (hx : x.value = a) (hy : y.value = b) (h : a + b ≤ 2 ^ 53) :
    ∃ z, x.add y = some z ∧ z.value = (a + b : Nat) := by
  refine round_of_value ?_ h
  rw [Nat.cast_add, scaleUp_two_of_nonneg (by omega), scaleUp_two_of_nonneg (by omega), add_mul, mul_assoc, mul_assoc,
    ← zpow_add₀ two_ne_zero, ← zpow_add₀ two_ne_zero, sub_add_cancel, sub_add_cancel, Nat.cast_add, ← hx, ← hy]
  rfl

theorem floor_of_value {x : Magnitude} {n : Nat} (h : x.value = n) : x.floor = n := by
  have hnum : scaleUp 2 x.mant x.exp = n * scaleUp 2 1 (-x.exp) := by
    have hcast := scaleUp_two_eq x.mant x.exp
    rw [show (x.mant * 2 ^ x.exp : ℚ) = n from h] at hcast
    exact_mod_cast hcast
  rw [floor, hnum]
  exact Nat.mul_div_cancel n (scaleUp_two_pos _)

end Magnitude
end EdgeRoutes.Number
