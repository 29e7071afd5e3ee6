import EdgeRoutes.Number.Integer
import EdgeRoutes.Number.Shortest
import EdgeRoutes.Proofs.BinarySums
import Mathlib.Algebra.Order.Archimedean.Basic
import Mathlib.Algebra.Order.Field.Power
import Mathlib.Data.Nat.Cast.Order.Field
import Mathlib.Data.Rat.Floor
import Mathlib.Tactic.Linarith

/-! Decimals of binary numbers. A decimal that is near enough to a binary number is rounded to it, seventeen digits come
near enough, and so the shortest decimal of a binary number is read back as that number. -/

namespace EdgeRoutes.Number

section Scaling

theorem scaleUp_pos {base : Nat} (hbase : 0 < base) {n : Nat} (hn : 0 < n) (e : Int) : 0 < scaleUp base n e :=
  Nat.mul_pos hn (Nat.pow_pos hbase)

/-- The exponent is carried by the numerator or, if it is negative, by the denominator. -/
theorem scaleUp_div {base : Nat} (hbase : 0 < base) (n m : Nat) (e : Int) :
    (scaleUp base n e : ℚ) / scaleUp base m (-e) = n / m * (base : ℚ) ^ e := by
  have hbase0 : (base : ℚ) ≠ 0 := by exact_mod_cast hbase.ne'
  rcases Int.eq_nat_or_neg e with ⟨k, rfl | rfl⟩
  · simp [scaleUp]
    ring
  · simp [scaleUp]
    field_simp

end Scaling

namespace Magnitude

section Rounding

/-- Less than half away from a whole number, a quotient is rounded to it. -/
theorem roundDiv_of_near {num den m : Nat} (hden : 0 < den) (h : |(num : ℚ) / den - m| < 1 / 2) :
    roundDiv num den = m := by
  have hden' : (0 : ℚ) < den := by exact_mod_cast hden
  obtain ⟨hlow, hhigh⟩ := abs_lt.mp h
  have hupper : 2 * num < (2 * m + 1) * den := by
    have : (num : ℚ) / den < m + 1 / 2 := by linarith
    rw [div_lt_iff₀ hden'] at this
    have : (2 * num : ℚ) < (2 * m + 1) * den := by linarith
    exact_mod_cast this
  have hlower : 2 * m * den < 2 * num + den := by
    have : (m : ℚ) - 1 / 2 < num / den := by linarith
    rw [lt_div_iff₀ hden'] at this
    have : (2 * m * den : ℚ) < 2 * num + den := by linarith
    exact_mod_cast this
  have hdiv := Nat.div_add_mod num den
  have hmod := Nat.mod_lt num hden
  simp only [roundDiv]
  generalize num / den = q at *
  generalize num % den = r at *
  have hq : q ≤ m := by
    by_contra hlt
    have := Nat.mul_le_mul_left den (Nat.lt_of_not_le hlt)
    lia
  have hm : m ≤ q + 1 := by
    by_contra hlt
    have := Nat.mul_le_mul_left den (Nat.lt_of_not_le hlt)
    lia
  obtain rfl | rfl : m = q ∨ m = q + 1 := by omega
  · rw [if_neg]
    lia
  · rw [if_pos]
    lia

/-- The exponent at which a quotient has 53 bits, if that is not too small. -/
theorem exponentOf_eq {num den : Nat} (hnum : 0 < num) (hden : 0 < den) {e : Int}
    (hlow : (2 : ℚ) ^ (e + 52) ≤ num / den) (hhigh : (num / den : ℚ) < 2 ^ (e + 53)) :
    exponentOf num den = max minExp e := by
  have hden' : (0 : ℚ) < den := by exact_mod_cast hden
  have hnumLog : (2 : ℚ) ^ (num.log2 : Int) ≤ num ∧ (num : ℚ) < 2 ^ ((num.log2 : Int) + 1) := by
    constructor
    · exact_mod_cast Nat.log2_self_le hnum.ne'
    · exact_mod_cast Nat.lt_log2_self
  have hdenLog : (2 : ℚ) ^ (den.log2 : Int) ≤ den ∧ (den : ℚ) < 2 ^ ((den.log2 : Int) + 1) := by
    constructor
    · exact_mod_cast Nat.log2_self_le hden.ne'
    · exact_mod_cast Nat.lt_log2_self
  simp only [exponentOf]
  generalize hguess : (num.log2 : Int) - den.log2 - 53 = guess
  have hfits : scaleUp 2 num (-guess) < scaleUp 2 den guess * Nat.pow 2 53 ↔ (num / den : ℚ) < 2 ^ (guess + 53) := by
    have hpos : (0 : ℚ) < scaleUp 2 den guess := by exact_mod_cast scaleUp_pos Nat.two_pos hden guess
    have hquotient := scaleUp_div Nat.two_pos num den (-guess)
    rw [neg_neg, div_eq_iff hpos.ne'] at hquotient
    rw [← Nat.cast_lt (α := ℚ), hquotient, Nat.cast_mul, mul_comm (scaleUp 2 den guess : ℚ), mul_lt_mul_iff_left₀ hpos,
      Nat.cast_ofNat, zpow_neg, ← div_eq_mul_inv, div_lt_iff₀ (zpow_pos two_pos _), zpow_add₀ two_ne_zero, mul_comm]
    norm_cast
  have habove : (num / den : ℚ) < 2 ^ (guess + 54) := by
    calc (num / den : ℚ) < 2 ^ ((num.log2 : Int) + 1) / 2 ^ (den.log2 : Int) :=
          div_lt_div₀ hnumLog.2 hdenLog.1 (zpow_pos two_pos _).le (zpow_pos two_pos _)
      _ = 2 ^ (guess + 54) := by
          rw [← zpow_sub₀ two_ne_zero]
          congr 1
          omega
  have hbelow : (2 : ℚ) ^ (guess + 52) < num / den := by
    calc (2 : ℚ) ^ (guess + 52) = 2 ^ (num.log2 : Int) / 2 ^ ((den.log2 : Int) + 1) := by
          rw [← zpow_sub₀ two_ne_zero]
          congr 1
          omega
      _ < num / den := div_lt_div₀' hnumLog.1 hdenLog.2 (by exact_mod_cast hnum) hden'
  have hle : e + 52 < guess + 54 := (zpow_lt_zpow_iff_right₀ one_lt_two).mp (hlow.trans_lt habove)
  have hge : guess + 52 < e + 53 := (zpow_lt_zpow_iff_right₀ one_lt_two).mp (hbelow.trans hhigh)
  by_cases heq : e = guess
  · rw [if_pos (hfits.mpr (heq ▸ hhigh)), heq]
  · have hnext : e = guess + 1 := by omega
    have hlow' : (2 : ℚ) ^ (guess + 53) ≤ num / den := by
      rw [show guess + 53 = e + 52 by omega]
      exact hlow
    rw [if_neg fun h => (hfits.mp h).not_ge hlow', hnext]

/-- A magnitude that 64 bits hold: 53 bits, all of them used unless the exponent is the smallest. -/
structure Fits (x : Magnitude) : Prop where
  mant_lt : x.mant < 2 ^ 53
  exp_ge : minExp ≤ x.exp
  exp_le : x.exp ≤ maxExp
  full : x.mant < 2 ^ 52 → x.exp = minExp

variable {x : Magnitude}

/-- A multiple of a power of two is found again from a quotient that is near it. -/
theorem scaled_of_near {num den m : Nat} (hden : 0 < den) {e : Int}
    (h : |(num / den : ℚ) - m * 2 ^ e| < 2 ^ e / 2) : scaled num den e = m := by
  have hpos : (0 : ℚ) < 2 ^ e := zpow_pos two_pos _
  have hquotient := scaleUp_div Nat.two_pos num den (-e)
  rw [neg_neg, zpow_neg, ← div_eq_mul_inv] at hquotient
  refine roundDiv_of_near (scaleUp_pos Nat.two_pos hden e) ?_
  rw [hquotient]
  have hdiff : (num / den : ℚ) / 2 ^ e - m = ((num / den : ℚ) - m * 2 ^ e) / 2 ^ e := by
    field_simp
  rw [Nat.cast_ofNat, hdiff, abs_div, abs_of_pos hpos, div_lt_iff₀ hpos]
  linarith

theorem ofQuotient_of_scaled (hx : x.Fits) {num den : Nat} (hnum : 0 < num) (hexp : exponentOf num den = x.exp)
    (hscaled : scaled num den x.exp = x.mant) : ofQuotient num den = some x := by
  have hmant : x.mant ≠ Nat.pow 2 53 := hx.mant_lt.ne
  simp only [ofQuotient, hnum.ne', if_false, hexp, hscaled, if_neg hmant]
  exact if_neg (not_lt.mpr hx.exp_le)

/-- A quotient within a part in `2 * 10 ^ 16` of a magnitude is rounded to it. -/
theorem ofQuotient_of_near (hx : x.Fits) {num den : Nat} (hnum : 0 < num) (hden : 0 < den)
    (hnear : 2 * 10 ^ 16 * |(num / den : ℚ) - x.value| ≤ x.value) : ofQuotient num den = some x := by
  have hpos : (0 : ℚ) < 2 ^ x.exp := zpow_pos two_pos _
  have hq : (0 : ℚ) < num / den := div_pos (by exact_mod_cast hnum) (by exact_mod_cast hden)
  have hmant_le : (x.mant : ℚ) ≤ 2 ^ 53 - 1 := by
    have : (x.mant : ℚ) + 1 ≤ 2 ^ 53 := by exact_mod_cast hx.mant_lt
    linarith
  have hvalue_le : x.value ≤ (2 ^ 53 - 1) * 2 ^ x.exp := mul_le_mul_of_nonneg_right hmant_le hpos.le
  have hclose : |(num / den : ℚ) - x.value| < 2 ^ x.exp / 2 := by linarith
  obtain ⟨hbelow, habove⟩ := abs_le.mp (le_refl |(num / den : ℚ) - x.value|)
  have h52 : (2 : ℚ) ^ (x.exp + 52) = 2 ^ 52 * 2 ^ x.exp := by
    rw [zpow_add₀ two_ne_zero, mul_comm]
    norm_cast
  have h53 : (2 : ℚ) ^ (x.exp + 53) = 2 ^ 53 * 2 ^ x.exp := by
    rw [zpow_add₀ two_ne_zero, mul_comm]
    norm_cast
  have hhigh : (num / den : ℚ) < 2 ^ (x.exp + 53) := by
    rw [h53]
    linarith
  have hscaled : scaled num den x.exp = x.mant := scaled_of_near hden hclose
  by_cases hlow : (2 : ℚ) ^ (x.exp + 52) ≤ num / den
  · refine ofQuotient_of_scaled hx hnum ?_ hscaled
    rw [exponentOf_eq hnum hden hlow hhigh, max_eq_right hx.exp_ge]
  rw [not_le] at hlow
  by_cases hmin : x.exp = minExp
  · -- below the smallest exponent all quotients have that exponent
    obtain ⟨n, hn, hn'⟩ := exists_mem_Ico_zpow hq (one_lt_two (α := ℚ))
    refine ofQuotient_of_scaled hx hnum ?_ hscaled
    have hlt : n < x.exp + 52 := (zpow_lt_zpow_iff_right₀ one_lt_two).mp (hn.trans_lt hlow)
    have hn53 : (num / den : ℚ) < 2 ^ (n - 52 + 53) := by rwa [show n - 52 + 53 = n + 1 by omega]
    rw [exponentOf_eq hnum hden (by simpa using hn) hn53, max_eq_left (by omega), hmin]
  · -- just below a power of two the quotient has one bit more, and is rounded up to that power
    have hfull : 2 ^ 52 ≤ x.mant := not_lt.mp fun h => hmin (hx.full h)
    have hmant52 : x.mant = 2 ^ 52 := by
      refine le_antisymm (not_lt.mp fun h => ?_) hfull
      have hmant' : (2 : ℚ) ^ 52 + 1 ≤ x.mant := by exact_mod_cast h
      have hvalue_ge : (2 ^ 52 + 1) * 2 ^ x.exp ≤ x.value := mul_le_mul_of_nonneg_right hmant' hpos.le
      linarith
    have hvalue : x.value = 2 ^ 52 * 2 ^ x.exp := by
      rw [value, hmant52]
      norm_cast
    have hhalf : (2 : ℚ) ^ (x.exp - 1) = 2 ^ x.exp / 2 := zpow_sub_one₀ two_ne_zero _
    have hexp : exponentOf num den = x.exp - 1 := by
      have hmin' := hx.exp_ge
      have h51 : (2 : ℚ) ^ (x.exp - 1 + 52) ≤ num / den := by
        rw [zpow_add₀ two_ne_zero, hhalf, show (2 : ℚ) ^ (52 : ℤ) = 2 ^ 52 from rfl]
        linarith
      have h52' : (num / den : ℚ) < 2 ^ (x.exp - 1 + 53) := by rwa [show x.exp - 1 + 53 = x.exp + 52 by omega]
      rw [exponentOf_eq hnum hden h51 h52', max_eq_right (by omega)]
    have hscaled' : scaled num den (x.exp - 1) = 2 ^ 53 := by
      refine scaled_of_near hden ?_
      rw [hhalf, show ((2 ^ 53 : Nat) : ℚ) * (2 ^ x.exp / 2) = x.value by rw [hvalue]; push_cast; ring]
      linarith
    have hpower : Nat.pow 2 53 = 2 ^ 53 := rfl
    simp only [ofQuotient, hnum.ne', if_false, hexp, hscaled', hpower, if_true, sub_add_cancel]
    rw [if_neg (not_lt.mpr hx.exp_le)]
    exact congrArg (fun m => some (⟨m, x.exp⟩ : Magnitude)) hmant52.symm

end Rounding

section Digits

variable {x : Magnitude}

theorem den_pos (x : Magnitude) : 0 < x.den := scaleUp_pos Nat.two_pos Nat.one_pos _

theorem num_div_den (x : Magnitude) : (x.num / x.den : ℚ) = x.value := by
  rw [num, den, scaleUp_div Nat.two_pos, Nat.cast_one, div_one]
  rfl

/-- Powers of two and of ten: `2 ^ 93` is just below `10 ^ 28`. -/
theorem two_pow_le (n : Nat) : (2 : ℚ) ^ (93 * 11 + n) ≤ 10 ^ 308 * 2 ^ n := by
  have hbase : (2 : ℚ) ^ 93 ≤ 10 ^ 28 := by norm_num
  have hpower : (2 : ℚ) ^ (93 * 11) ≤ 10 ^ (28 * 11) := by
    rw [pow_mul, pow_mul]
    exact pow_le_pow_left₀ (by norm_num) hbase 11
  rw [pow_add]
  exact mul_le_mul_of_nonneg_right hpower (pow_pos two_pos n).le

theorem Fits.value_lt (hx : x.Fits) : x.value < 10 ^ (309 : Int) := by
  have hmant : (x.mant : ℚ) < 2 ^ 53 := by exact_mod_cast hx.mant_lt
  have hexp : (2 : ℚ) ^ x.exp ≤ 2 ^ (971 : Int) := zpow_le_zpow_right₀ one_le_two hx.exp_le
  calc x.value < 2 ^ 53 * 2 ^ x.exp := mul_lt_mul_of_pos_right hmant (zpow_pos two_pos _)
    _ ≤ 2 ^ 53 * 2 ^ (971 : Int) := mul_le_mul_of_nonneg_left hexp (by norm_num)
    _ = 2 ^ (93 * 11 + 1) := by rw [zpow_ofNat, ← pow_add]
    _ ≤ 10 ^ 308 * 2 ^ 1 := two_pow_le 1
    _ ≤ 10 ^ 308 * 10 := mul_le_mul_of_nonneg_left (by norm_num) (pow_pos (by norm_num) 308).le
    _ = 10 ^ (309 : Int) := by rw [zpow_ofNat, ← pow_succ]

theorem Fits.le_value (hx : x.Fits) (hmant : 0 < x.mant) : (10 : ℚ) ^ (-324 : Int) ≤ x.value := by
  have hone : (1 : ℚ) ≤ x.mant := by exact_mod_cast hmant
  have hexp : (2 : ℚ) ^ (-1074 : Int) ≤ 2 ^ x.exp := zpow_le_zpow_right₀ one_le_two hx.exp_ge
  have hpower : (2 : ℚ) ^ 1074 ≤ 10 ^ 324 :=
    calc (2 : ℚ) ^ 1074 = 2 ^ (93 * 11 + 51) := rfl
      _ ≤ 10 ^ 308 * 2 ^ 51 := two_pow_le 51
      _ ≤ 10 ^ 308 * 10 ^ 16 := mul_le_mul_of_nonneg_left (by norm_num) (pow_pos (by norm_num) 308).le
      _ = 10 ^ 324 := by rw [← pow_add]
  calc (10 : ℚ) ^ (-324 : Int) = (10 ^ 324)⁻¹ := by rw [zpow_neg, zpow_ofNat]
    _ ≤ (2 ^ 1074)⁻¹ := inv_anti₀ (pow_pos two_pos _) hpower
    _ = 1 * 2 ^ (-1074 : Int) := by rw [zpow_neg, zpow_ofNat, one_mul]
    _ ≤ x.value := mul_le_mul hone hexp (zpow_pos two_pos _).le (zero_le_one.trans hone)

/-- The decimal point of a magnitude: the value has that many digits before it. -/
theorem decimalPoint_spec (hx : x.Fits) (hmant : 0 < x.mant) :
    (10 : ℚ) ^ (x.decimalPoint - 1) ≤ x.value ∧ x.value < 10 ^ x.decimalPoint := by
  have hden : (0 : ℚ) < x.den := by exact_mod_cast x.den_pos
  unfold decimalPoint
  split_ifs with hle
  · have hpos : 0 < x.num / x.den := Nat.div_pos hle x.den_pos
    obtain ⟨k, hk⟩ : ∃ k, (Nat.toDigits 10 (x.num / x.den)).length = k + 1 :=
      Nat.exists_eq_succ_of_ne_zero Nat.length_toDigits_pos.ne'
    have hupper : x.num / x.den < 10 ^ (k + 1) :=
      (Nat.length_toDigits_le_iff (by norm_num) k.succ_pos).mp hk.le
    have hlower : 10 ^ k ≤ x.num / x.den := by
      rcases Nat.eq_zero_or_pos k with rfl | hkpos
      · exact hpos
      · exact not_lt.mp fun h => by
          have := (Nat.length_toDigits_le_iff (b := 10) (by norm_num) hkpos).mpr h
          omega
    rw [hk, ← num_div_den]
    push_cast
    rw [add_sub_cancel_right]
    constructor
    · calc (10 : ℚ) ^ (k : Int) ≤ ((x.num / x.den : Nat) : ℚ) := by exact_mod_cast hlower
        _ ≤ x.num / x.den := Nat.cast_div_le
    · rw [div_lt_iff₀ hden]
      have hlt : x.num < 10 ^ (k + 1) * x.den :=
        calc x.num < x.den * (x.num / x.den + 1) := Nat.lt_mul_div_succ _ x.den_pos
          _ ≤ x.den * 10 ^ (k + 1) := Nat.mul_le_mul_left _ hupper
          _ = 10 ^ (k + 1) * x.den := Nat.mul_comm _ _
      exact_mod_cast hlt
  · -- the zeros after the point are as many as it takes tens to bring the value to one
    have hreach (j : Nat) : x.den ≤ scaleUp 10 x.num (j + 1) ↔ (10 : ℚ) ^ (-(j : Int) - 1) ≤ x.value := by
      rw [← num_div_den, le_div_iff₀ hden, ← neg_add', zpow_neg, inv_mul_le_iff₀ (by positivity), scaleUp, mul_comm]
      exact_mod_cast Iff.rfl
    cases hfound : (List.range 400).find? (fun (j : Nat) => x.den ≤ scaleUp 10 x.num (j + 1)) with
    | none =>
        have hnever := List.find?_eq_none.mp hfound 399 (List.mem_range.mpr (by norm_num))
        refine absurd ((hreach 399).mpr ?_) (by simpa using hnever)
        exact (zpow_le_zpow_right₀ (by norm_num) (by norm_num)).trans (hx.le_value hmant)
    | some j =>
        obtain ⟨hj, -, hbefore⟩ := List.find?_range_eq_some.mp hfound
        have hpoint : Int.negOfNat ((some j).getD 0) = -(j : Int) := Int.negOfNat_eq
        rw [hpoint]
        refine ⟨(hreach j).mp (of_decide_eq_true hj), ?_⟩
        cases j with
        | zero =>
            rw [← num_div_den, div_lt_iff₀ hden]
            have hlt : x.num < x.den := not_le.mp hle
            simpa using hlt
        | succ i =>
            have hmore := hbefore i i.lt_succ_self
            have hless : ¬ (10 : ℚ) ^ (-(i : Int) - 1) ≤ x.value := fun h => by
              simp [(hreach i).mpr h] at hmore
            rw [not_le] at hless
            refine hless.trans_eq (congrArg _ ?_)
            omega

/-- The point is not far out. -/
theorem decimalPoint_bounds (hx : x.Fits) (hmant : 0 < x.mant) : -324 < x.decimalPoint ∧ x.decimalPoint ≤ 309 := by
  obtain ⟨hlow, hhigh⟩ := decimalPoint_spec hx hmant
  have hbase : (1 : ℚ) < 10 := by norm_num
  have h₁ : -324 < x.decimalPoint := (zpow_lt_zpow_iff_right₀ hbase).mp ((hx.le_value hmant).trans_lt hhigh)
  have h₂ : x.decimalPoint - 1 < 309 := (zpow_lt_zpow_iff_right₀ hbase).mp (hlow.trans_lt hx.value_lt)
  omega

/-- The quotient that `withDigits?` divides is the value in units of the last digit. -/
theorem grid_quotient (x : Magnitude) (grid : Int) :
    (scaleUp 10 x.num (-grid) / scaleUp 10 x.den grid : ℚ) = x.value / 10 ^ grid := by
  have hquotient := @scaleUp_div 10 (by norm_num) x.num x.den (-grid)
  rw [neg_neg, num_div_den, zpow_neg, ← div_eq_mul_inv] at hquotient
  exact_mod_cast hquotient

/-- The decimal is read as a binary number by its value, unless it is far out. -/
theorem ofDecimal_of_size {digits : Nat} (hdigits : 0 < digits) {exp10 : Int}
    (hlow : -330 ≤ exp10 + (Nat.toDigits 10 digits).length) (hhigh : exp10 + (Nat.toDigits 10 digits).length ≤ 310) :
    ofDecimal digits exp10 = ofQuotient (scaleUp 10 digits exp10) (scaleUp 10 1 (-exp10)) := by
  simp only [ofDecimal]
  rw [if_neg (by omega), if_neg (by omega)]

theorem decimal_quotient (digits : Nat) (exp10 : Int) :
    (scaleUp 10 digits exp10 / scaleUp 10 1 (-exp10) : ℚ) = digits * 10 ^ exp10 := by
  have hquotient := @scaleUp_div 10 (by norm_num) digits 1 exp10
  rw [Nat.cast_one, div_one] at hquotient
  exact_mod_cast hquotient

/-- Seventeen digits tell a binary number from all others. -/
theorem ofDecimal_seventeen (hx : x.Fits) (hmant : 0 < x.mant) {d : Nat}
    (hnear : |(d : ℚ) - x.value / 10 ^ (x.decimalPoint - 17)| ≤ 1 / 2) (hd : 10 ^ 16 ≤ d) (hd' : d ≤ 10 ^ 17) :
    ofDecimal d (x.decimalPoint - 17) = some x := by
  obtain ⟨hlow, hhigh⟩ := decimalPoint_spec hx hmant
  obtain ⟨hmin, hmax⟩ := decimalPoint_bounds hx hmant
  have hpos : 0 < d := (by norm_num : 0 < 10 ^ 16).trans_le hd
  have hshort : (Nat.toDigits 10 d).length ≤ 18 :=
    (Nat.length_toDigits_le_iff (by norm_num) (by norm_num)).mpr (hd'.trans_lt (by norm_num))
  have hlong : ¬ (Nat.toDigits 10 d).length ≤ 16 := fun h =>
    ((Nat.length_toDigits_le_iff (by norm_num) (by norm_num)).mp h).not_ge hd
  rw [ofDecimal_of_size hpos (by omega) (by omega)]
  refine ofQuotient_of_near hx (scaleUp_pos (by norm_num) hpos _) (scaleUp_pos (by norm_num) Nat.one_pos _) ?_
  rw [decimal_quotient]
  have hunit : (0 : ℚ) < 10 ^ (x.decimalPoint - 17) := zpow_pos (by norm_num) _
  have hscale : (10 : ℚ) ^ (x.decimalPoint - 1) = 10 ^ 16 * 10 ^ (x.decimalPoint - 17) := by
    rw [← zpow_natCast, ← zpow_add₀ (by norm_num)]
    congr 1
    push_cast
    ring
  have hdiff : (d : ℚ) * 10 ^ (x.decimalPoint - 17) - x.value =
      ((d : ℚ) - x.value / 10 ^ (x.decimalPoint - 17)) * 10 ^ (x.decimalPoint - 17) := by
    rw [sub_mul, div_mul_cancel₀ _ hunit.ne']
  rw [hdiff, abs_mul, abs_of_pos hunit]
  have hbound := mul_le_mul_of_nonneg_right hnear hunit.le
  linarith

/-- The value in units of the last of `n` digits, rounded down. -/
def lowDigits (x : Magnitude) (n : Nat) : Nat :=
  scaleUp 10 x.num (-(x.decimalPoint - n)) / scaleUp 10 x.den (x.decimalPoint - n)

/-- Digits that are found read as the number again. -/
theorem withDigits?_spec {n d : Nat} (h : x.withDigits? n = some d) :
    ofDecimal d (x.decimalPoint - n) = some x ∧ x.lowDigits n ≤ d := by
  simp only [withDigits?] at h
  have hlow : scaleUp 10 x.num (-(x.decimalPoint - n)) / scaleUp 10 x.den (x.decimalPoint - n) = x.lowDigits n := rfl
  rw [hlow] at h
  split at h
  · next hback _ =>
    cases h
    exact ⟨beq_iff_eq.mp hback, le_rfl⟩
  · next _ hback =>
    cases h
    exact ⟨beq_iff_eq.mp hback, Nat.le_succ _⟩
  · next hback hback' =>
    cases h
    split_ifs
    · exact ⟨beq_iff_eq.mp hback, le_rfl⟩
    · exact ⟨beq_iff_eq.mp hback', Nat.le_succ _⟩
  · cases h

/-- The value lies between two neighbours. -/
theorem lowDigits_spec (x : Magnitude) (n : Nat) :
    (x.lowDigits n : ℚ) ≤ x.value / 10 ^ (x.decimalPoint - n) ∧
      x.value / 10 ^ (x.decimalPoint - n) < (x.lowDigits n + 1 : Nat) := by
  have hden : 0 < scaleUp 10 x.den (x.decimalPoint - n) := scaleUp_pos (by norm_num) x.den_pos _
  rw [← grid_quotient]
  constructor
  · exact Nat.cast_div_le
  · rw [div_lt_iff₀ (by exact_mod_cast hden), mul_comm]
    exact_mod_cast Nat.lt_mul_div_succ _ hden

theorem le_lowDigits (hx : x.Fits) (hmant : 0 < x.mant) (n : Nat) : 10 ^ n ≤ x.lowDigits (n + 1) := by
  have hunit : (0 : ℚ) < 10 ^ (x.decimalPoint - (n + 1 : Nat)) := zpow_pos (by norm_num) _
  have hvalue : (10 : ℚ) ^ n ≤ x.value / 10 ^ (x.decimalPoint - (n + 1 : Nat)) := by
    rw [le_div_iff₀ hunit, ← zpow_natCast, ← zpow_add₀ (by norm_num),
      show (n : Int) + (x.decimalPoint - (n + 1 : Nat)) = x.decimalPoint - 1 by push_cast; ring]
    exact (decimalPoint_spec hx hmant).1
  have hlt : (10 ^ n : Nat) < x.lowDigits (n + 1) + 1 := by
    exact_mod_cast hvalue.trans_lt (x.lowDigits_spec (n + 1)).2
  omega

theorem lowDigits_lt (hx : x.Fits) (hmant : 0 < x.mant) (n : Nat) : x.lowDigits n < 10 ^ n := by
  have hunit : (0 : ℚ) < 10 ^ (x.decimalPoint - n) := zpow_pos (by norm_num) _
  have hvalue : x.value / 10 ^ (x.decimalPoint - n) < 10 ^ n := by
    rw [div_lt_iff₀ hunit, ← zpow_natCast, ← zpow_add₀ (by norm_num), add_sub_cancel]
    exact (decimalPoint_spec hx hmant).2
  exact_mod_cast (x.lowDigits_spec n).1.trans_lt hvalue

/-- Seventeen digits are enough for every number. -/
theorem isSome_withDigits?_seventeen (hx : x.Fits) (hmant : 0 < x.mant) : (x.withDigits? 17).isSome = true := by
  obtain ⟨hlow, hhigh⟩ := x.lowDigits_spec 17
  have hge := le_lowDigits hx hmant 16
  have hlt := lowDigits_lt hx hmant 17
  -- one of the neighbours is at most half a unit away
  have hback : ofDecimal (x.lowDigits 17) (x.decimalPoint - 17) = some x ∨
      ofDecimal (x.lowDigits 17 + 1) (x.decimalPoint - 17) = some x := by
    push_cast at hlow hhigh
    rcases le_total (x.value / 10 ^ (x.decimalPoint - 17)) (x.lowDigits 17 + 1 / 2) with hhalf | hhalf
    · refine Or.inl (ofDecimal_seventeen hx hmant (abs_le.mpr ⟨by linarith, by linarith⟩) hge hlt.le)
    · refine Or.inr (ofDecimal_seventeen hx hmant (abs_le.mpr ⟨?_, ?_⟩) (hge.trans (Nat.le_succ _)) hlt)
      · push_cast
        linarith
      · push_cast
        linarith
  simp only [withDigits?]
  split
  · rfl
  · rfl
  · rfl
  · next hnot hnot' =>
    rcases hback with hback | hback
    · exact absurd (beq_iff_eq.mpr hback) (Bool.eq_false_iff.mp hnot)
    · exact absurd (beq_iff_eq.mpr hback) (Bool.eq_false_iff.mp hnot')

end Digits

section Quotients

theorem roundDiv_mul_right (num den : Nat) {k : Nat} (hk : 0 < k) :
    roundDiv (num * k) (den * k) = roundDiv num den := by
  have hover : 2 * (num % den * k) > den * k ↔ 2 * (num % den) > den := by
    rw [← Nat.mul_assoc]
    exact Nat.mul_lt_mul_right hk
  have htie : 2 * (num % den * k) = den * k ↔ 2 * (num % den) = den := by
    rw [← Nat.mul_assoc]
    exact Nat.mul_left_inj hk.ne'
  simp only [roundDiv, Nat.mul_div_mul_right _ _ hk, Nat.mul_mod_mul_right, hover, htie]

theorem roundDiv_congr {num den num' den' : Nat} (hden : 0 < den) (hden' : 0 < den') (h : num * den' = num' * den) :
    roundDiv num den = roundDiv num' den' := by
  rw [← roundDiv_mul_right num den hden', h, Nat.mul_comm den den', roundDiv_mul_right _ _ hden]

/-- Rounding depends on the quotient alone. -/
theorem ofQuotient_congr {num den num' den' : Nat} (hnum : 0 < num) (hden : 0 < den) (hnum' : 0 < num')
    (hden' : 0 < den') (h : num * den' = num' * den) : ofQuotient num den = ofQuotient num' den' := by
  have hq : (num / den : ℚ) = num' / den' := by
    rw [div_eq_div_iff (by exact_mod_cast hden.ne') (by exact_mod_cast hden'.ne')]
    exact_mod_cast h
  have hpos : (0 : ℚ) < num / den := div_pos (by exact_mod_cast hnum) (by exact_mod_cast hden)
  obtain ⟨n, hn, hn'⟩ := exists_mem_Ico_zpow hpos (one_lt_two (α := ℚ))
  have hlow : (2 : ℚ) ^ (n - 52 + 52) ≤ num / den := by simpa using hn
  have hhigh : (num / den : ℚ) < 2 ^ (n - 52 + 53) := by rwa [show n - 52 + 53 = n + 1 by omega]
  have hexp : exponentOf num den = exponentOf num' den' := by
    rw [exponentOf_eq hnum hden hlow hhigh, exponentOf_eq hnum' hden' (hq ▸ hlow) (hq ▸ hhigh)]
  have hscaled (e : Int) : scaled num den e = scaled num' den' e := by
    refine roundDiv_congr (scaleUp_pos Nat.two_pos hden e) (scaleUp_pos Nat.two_pos hden' e) ?_
    simp only [scaleUp]
    rw [Nat.mul_mul_mul_comm, h, Nat.mul_mul_mul_comm]
  simp only [ofQuotient, hnum.ne', hnum'.ne', if_false, hexp, hscaled]

theorem length_toDigits_mul_pow {m : Nat} (hm : 0 < m) (k : Nat) :
    (Nat.toDigits 10 (m * 10 ^ k)).length = (Nat.toDigits 10 m).length + k := by
  induction k with
  | zero => simp
  | succ k ih =>
      have happend : Nat.toDigits 10 (m * 10 ^ k) ++ Nat.toDigits 10 0 = Nat.toDigits 10 (10 * (m * 10 ^ k) + 0) :=
        Nat.toDigits_append_toDigits (by norm_num) (Nat.mul_pos hm (by positivity)) (by norm_num)
      rw [show m * 10 ^ (k + 1) = 10 * (m * 10 ^ k) + 0 by ring, ← happend, List.length_append, ih]
      rfl

/-- Zeros at the end of the digits of a decimal go to its exponent. -/
theorem ofDecimal_mul_pow (m k : Nat) (e : Int) : ofDecimal (m * 10 ^ k) e = ofDecimal m (e + k) := by
  rcases Nat.eq_zero_or_pos m with rfl | hm
  · simp [ofDecimal]
  have hmk : 0 < m * 10 ^ k := Nat.mul_pos hm (by positivity)
  have hten : 0 < 10 := by norm_num
  have hquotient : ofQuotient (scaleUp 10 (m * 10 ^ k) e) (scaleUp 10 1 (-e)) =
      ofQuotient (scaleUp 10 m (e + k)) (scaleUp 10 1 (-(e + k))) := by
    refine ofQuotient_congr (scaleUp_pos hten hmk _) (scaleUp_pos hten Nat.one_pos _) (scaleUp_pos hten hm _)
      (scaleUp_pos hten Nat.one_pos _) ?_
    have hsame : (scaleUp 10 (m * 10 ^ k) e / scaleUp 10 1 (-e) : ℚ) =
        scaleUp 10 m (e + k) / scaleUp 10 1 (-(e + k)) := by
      rw [decimal_quotient, decimal_quotient, zpow_add₀ (by norm_num), zpow_natCast]
      push_cast
      ring
    have hpos (exp : Int) : (scaleUp 10 1 exp : ℚ) ≠ 0 := by exact_mod_cast (scaleUp_pos hten Nat.one_pos exp).ne'
    rw [div_eq_div_iff (hpos _) (hpos _)] at hsame
    exact_mod_cast hsame
  have hsize : e + ((Nat.toDigits 10 (m * 10 ^ k)).length : Int) = e + k + (Nat.toDigits 10 m).length := by
    rw [length_toDigits_mul_pow hm]
    push_cast
    ring
  simp only [ofDecimal, hsize, hmk.ne', hm.ne', false_or, hquotient]

end Quotients

end Magnitude

section Shortest

variable {x : Magnitude}

theorem ofDigits_toDigits (n : Nat) : ofDigits (Nat.toDigits 10 n) = n := Nat.ofDigitChars_ten_toDigits

theorem ofDigits_append (xs ys : List Char) : ofDigits (xs ++ ys) = 10 ^ ys.length * ofDigits xs + ofDigits ys :=
  (Nat.ofDigitChars_append 0).trans Nat.ofDigitChars_eq_ofDigitChars_zero

theorem ofDigits_zeros (k : Nat) : ofDigits (List.replicate k '0') = 0 :=
  Nat.ofDigitChars_replicate_zero

theorem ofDigits_append_zeros (ds : List Char) (k : Nat) :
    ofDigits (ds ++ List.replicate k '0') = ofDigits ds * 10 ^ k := by
  rw [ofDigits_append, ofDigits_zeros, List.length_replicate, Nat.add_zero, Nat.mul_comm]

theorem ofDigits_zeros_append (k : Nat) (ds : List Char) : ofDigits (List.replicate k '0' ++ ds) = ofDigits ds := by
  rw [ofDigits_append, ofDigits_zeros, Nat.mul_zero, Nat.zero_add]

/-- The digits of a number that is not zero do not start with a zero. -/
theorem toDigits_head {n : Nat} (hn : 0 < n) : ∃ c cs, Nat.toDigits 10 n = c :: cs ∧ c ≠ '0' := by
  induction n using Nat.strongRecOn with
  | ind n ih =>
      by_cases hlt : n < 10
      · refine ⟨n.digitChar, [], Nat.toDigits_of_lt_base hlt, ?_⟩
        have hall : ∀ n < 10, 0 < n → n.digitChar ≠ '0' := by decide
        exact hall n hlt hn
      · obtain ⟨c, cs, hdigits, hc⟩ := ih (n / 10) (by omega) (by omega)
        refine ⟨c, cs ++ [(n % 10).digitChar], ?_, hc⟩
        rw [Nat.toDigits_of_base_le (by norm_num) (by omega), hdigits]
        rfl

/-- The decimal is read as the magnitude; its digits do not start with a zero, except for zero itself. -/
structure Decimal.Reads (d : Decimal) (x : Magnitude) : Prop where
  digits : ∀ c ∈ d.digits, c.isDigit = true
  start : d = ⟨['0'], 1⟩ ∨ ∃ c cs, d.digits = c :: cs ∧ c ≠ '0'
  value : Magnitude.ofDecimal (ofDigits d.digits) (d.point - d.digits.length) = some x

theorem exists_zeros (text : List Char) :
    ∃ k, text = (text.reverse.dropWhile (· == '0')).reverse ++ List.replicate k '0' := by
  refine ⟨(text.reverse.takeWhile (· == '0')).length, ?_⟩
  have hzeros : text.reverse.takeWhile (· == '0') = List.replicate (text.reverse.takeWhile (· == '0')).length '0' :=
    List.eq_replicate_iff.mpr ⟨rfl, fun c hc => by
      simpa using List.all_eq_true.mp List.all_takeWhile c hc⟩
  have hsplit := congrArg List.reverse (List.takeWhile_append_dropWhile (p := (· == '0')) (l := text.reverse))
  rw [List.reverse_append, List.reverse_reverse, hzeros, List.reverse_replicate] at hsplit
  exact hsplit.symm

/-- A decimal may do without the zeros at the end of its digits. -/
theorem Decimal.reads_of_toDigits {d : Nat} (hd : 0 < d) {point : Int}
    (h : Magnitude.ofDecimal d (point - (Nat.toDigits 10 d).length) = some x) :
    Reads ⟨((Nat.toDigits 10 d).reverse.dropWhile (· == '0')).reverse, point⟩ x := by
  obtain ⟨k, hk⟩ := exists_zeros (Nat.toDigits 10 d)
  generalize ((Nat.toDigits 10 d).reverse.dropWhile (· == '0')).reverse = ds at hk
  have hvalue : d = ofDigits ds * 10 ^ k := by rw [← ofDigits_append_zeros, ← hk, ofDigits_toDigits]
  constructor
  case digits =>
    intro c hc
    have hmem : c ∈ Nat.toDigits 10 d := hk ▸ List.mem_append_left _ hc
    exact Nat.isDigit_of_mem_toDigits (by norm_num) (by norm_num) hmem
  case start =>
    obtain ⟨c, cs, hhead, hc⟩ := toDigits_head hd
    cases ds with
    | nil =>
        have hzero : c ∈ List.replicate k '0' := by
          rw [← List.nil_append (List.replicate k '0'), ← hk, hhead]
          exact List.mem_cons_self
        exact absurd (List.eq_of_mem_replicate hzero) hc
    | cons b bs =>
        rw [hhead, List.cons_append, List.cons.injEq] at hk
        exact Or.inr ⟨b, bs, rfl, hk.1 ▸ hc⟩
  case value =>
    rw [hk, hvalue, List.length_append, List.length_replicate, Magnitude.ofDecimal_mul_pow] at h
    rw [← h]
    congr 1
    push_cast
    ring

/-- The shortest text of a number is read as that number. -/
theorem Magnitude.reads_shortest (hx : x.Fits) : x.shortest.Reads x := by
  rcases Nat.eq_zero_or_pos x.mant with hzero | hmant
  · have hx0 : x = zero := by
      obtain ⟨mant, exp⟩ := x
      obtain rfl : mant = 0 := hzero
      exact congrArg _ (hx.full (by norm_num))
    rw [hx0]
    exact ⟨List.forall_mem_singleton.mpr rfl, Or.inl rfl, rfl⟩
  · obtain ⟨⟨d, n⟩, hfound⟩ : ∃ found,
        ((List.range 17).findSome? fun i => (x.withDigits? (i + 1)).map (·, i + 1)) = some found := by
      refine Option.isSome_iff_exists.mp (List.findSome?_isSome_iff.mpr ⟨16, List.mem_range.mpr (by norm_num), ?_⟩)
      rw [Option.isSome_map]
      exact isSome_withDigits?_seventeen hx hmant
    have hshortest : x.shortest = ⟨((Nat.toDigits 10 d).reverse.dropWhile (· == '0')).reverse,
        x.decimalPoint + ((Nat.toDigits 10 d).length - n : Nat)⟩ := by
      simp only [shortest, hmant.ne', if_false, hfound, Option.getD_some]
    obtain ⟨i, -, hi⟩ := List.exists_of_findSome?_eq_some hfound
    obtain ⟨d', hdigits, hpair⟩ := Option.map_eq_some_iff.mp hi
    cases hpair
    obtain ⟨hback, hlow⟩ := withDigits?_spec hdigits
    have hge : 10 ^ i ≤ d := (le_lowDigits hx hmant i).trans hlow
    have hlength : i + 1 ≤ (Nat.toDigits 10 d).length := by
      rcases Nat.eq_zero_or_pos i with rfl | hi
      · exact Nat.length_toDigits_pos
      · by_contra hshort
        exact ((Nat.length_toDigits_le_iff (by norm_num) hi).mp (by omega)).not_ge hge
    rw [hshortest]
    refine Decimal.reads_of_toDigits ((Nat.pow_pos (by norm_num)).trans_le hge) ?_
    rw [← hback]
    congr 1
    omega

end Shortest

end EdgeRoutes.Number
