import Mathlib.Data.Int.Log
import Afcon360.Foundation.Rounding

/-!
# Rounding rationals to significant digits

Decimal arithmetic with a precision rounds every result to that many digits, wherever the
point is. The step is the place of the last digit that is kept, which lies below the
leading digit of the value, so the error is small against the value itself.
-/

namespace Foundation

/-- The place of the last digit that is kept. -/
def lastPlace (digits : ℕ) (x : ℚ) : ℚ := 10 ^ (Int.log 10 |x| + 1 - digits)

/-- Round to `digits` significant digits, ties to the even digit. -/
def toPrecision (digits : ℕ) (x : ℚ) : ℚ :=
  if x = 0 then 0 else roundHalfEven 1 (x / lastPlace digits x) * lastPlace digits x

variable {digits n : ℕ} {x y : ℚ}

theorem lastPlace_pos : 0 < lastPlace digits x := zpow_pos (by norm_num) _

theorem abs_roundHalfEven_sub_le (n : ℕ) (x : ℚ) : |roundHalfEven n x - x * n| ≤ 1 / 2 := by
  have hfloor := Int.floor_le (x * n)
  have hnext := Int.lt_floor_add_one (x * n)
  simp only [roundHalfEven]
  rw [abs_le]
  split
  · constructor <;> linarith
  · split
    · push_cast
      constructor <;> linarith
    · split
      · constructor <;> linarith
      · push_cast
        constructor <;> linarith

theorem abs_roundHalfUp_sub_le (n : ℕ) (x : ℚ) : |roundHalfUp n x - x * n| ≤ 1 / 2 := by
  unfold roundHalfUp
  split
  · have hfloor := Int.floor_le (x * n + 1 / 2)
    have hnext := Int.lt_floor_add_one (x * n + 1 / 2)
    rw [abs_le]
    constructor <;> linarith
  · have hfloor := Int.floor_le (-x * n + 1 / 2)
    have hnext := Int.lt_floor_add_one (-x * n + 1 / 2)
    rw [abs_le]
    push_cast
    constructor <;> linarith

theorem abs_gridValue_roundHalfUp_sub_le (hn : 0 < n) (x : ℚ) :
    |gridValue n (roundHalfUp n x) - x| ≤ 1 / (2 * n) := by
  have pos : (0 : ℚ) < n := by exact_mod_cast hn
  have herror := abs_roundHalfUp_sub_le n x
  have hscale : gridValue n (roundHalfUp n x) - x = (roundHalfUp n x - x * n) / n := by
    unfold gridValue
    field_simp
  rw [hscale, abs_div, abs_of_pos pos, div_le_div_iff₀ pos (by positivity)]
  nlinarith

/-- The last place is small against the value. -/
theorem lastPlace_le (hdigits : 1 ≤ digits) (hx : x ≠ 0) :
    lastPlace digits x ≤ |x| / 10 ^ (digits - 1) := by
  have hlead : ((10 : ℕ) : ℚ) ^ Int.log 10 |x| ≤ |x| :=
    Int.zpow_log_le_self (by norm_num) (abs_pos.mpr hx)
  have hsplit : lastPlace digits x = (10 : ℚ) ^ Int.log 10 |x| / 10 ^ (digits - 1) := by
    unfold lastPlace
    rw [eq_div_iff (by positivity), ← zpow_natCast, ← zpow_add₀ (by norm_num)]
    congr 1
    omega
  rw [hsplit]
  push_cast at hlead
  gcongr

theorem abs_toPrecision_sub_le (hdigits : 1 ≤ digits) (x : ℚ) :
    |toPrecision digits x - x| ≤ |x| / (2 * 10 ^ (digits - 1)) := by
  unfold toPrecision
  split
  · rename_i hzero
    simp [hzero]
  · rename_i hx
    have herror := abs_roundHalfEven_sub_le 1 (x / lastPlace digits x)
    have hplace := lastPlace_le hdigits hx
    have pos : 0 < lastPlace digits x := lastPlace_pos
    generalize lastPlace digits x = place at *
    have hscale : (roundHalfEven 1 (x / place) : ℚ) * place - x =
        (roundHalfEven 1 (x / place) - x / place * (1 : ℕ)) * place := by
      field_simp
      push_cast
      ring
    rw [hscale, abs_mul, abs_of_pos pos]
    calc _ ≤ 1 / 2 * place := by gcongr
      _ ≤ 1 / 2 * (|x| / 10 ^ (digits - 1)) := by gcongr
      _ = |x| / (2 * 10 ^ (digits - 1)) := by ring

/-- From four digits on a result is off by a thousandth at most. -/
theorem abs_toPrecision_sub_le_of_four (hdigits : 4 ≤ digits) (x : ℚ) :
    |toPrecision digits x - x| ≤ |x| / 1000 := by
  have hscale : (10 : ℚ) ^ 3 ≤ 10 ^ (digits - 1) :=
    pow_le_pow_right₀ (by norm_num) (by omega)
  refine (abs_toPrecision_sub_le (by omega : 1 ≤ digits) x).trans ?_
  apply div_le_div_of_nonneg_left (abs_nonneg x) (by norm_num)
  linarith

theorem toPrecision_mem (hdigits : 4 ≤ digits) (hx : 0 ≤ x) :
    999 / 1000 * x ≤ toPrecision digits x ∧ toPrecision digits x ≤ 1001 / 1000 * x := by
  have hbounds := abs_le.mp (abs_toPrecision_sub_le_of_four hdigits x)
  rw [abs_of_nonneg hx] at hbounds
  constructor <;> linarith [hbounds.1, hbounds.2]

theorem abs_toPrecision_le (hdigits : 4 ≤ digits) (x : ℚ) :
    |toPrecision digits x| ≤ 1001 / 1000 * |x| := by
  have herror := abs_toPrecision_sub_le_of_four hdigits x
  have htriangle : |toPrecision digits x| ≤ |toPrecision digits x - x| + |x| := by
    simpa using abs_add_le (toPrecision digits x - x) x
  linarith

/-- A rounded value stays between the powers of ten around the value. -/
theorem toPrecision_decade (hdigits : 1 ≤ digits) (hx : 0 < x) :
    10 ^ Int.log 10 x ≤ toPrecision digits x ∧
      toPrecision digits x ≤ 10 ^ (Int.log 10 x + 1) := by
  have hlow : (10 : ℚ) ^ Int.log 10 x ≤ x := by
    exact_mod_cast Int.zpow_log_le_self (b := 10) (by norm_num) hx
  have hhigh : x < (10 : ℚ) ^ (Int.log 10 x + 1) := by
    exact_mod_cast Int.lt_zpow_succ_log_self (b := 10) (by norm_num) x
  have hplace : lastPlace digits x = 10 ^ (Int.log 10 x + 1 - digits) := by
    rw [lastPlace, abs_of_pos hx]
  have hpos : (0 : ℚ) < 10 ^ (Int.log 10 x + 1 - digits) := zpow_pos (by norm_num) _
  have hfirst : (10 : ℚ) ^ Int.log 10 x =
      10 ^ (digits - 1) * 10 ^ (Int.log 10 x + 1 - digits) := by
    rw [← zpow_natCast, ← zpow_add₀ (by norm_num)]
    congr 1
    omega
  have hnext : (10 : ℚ) ^ (Int.log 10 x + 1) =
      10 ^ digits * 10 ^ (Int.log 10 x + 1 - digits) := by
    rw [← zpow_natCast, ← zpow_add₀ (by norm_num)]
    congr 1
    omega
  rw [toPrecision, if_neg hx.ne', hplace, hfirst, hnext]
  rw [hfirst] at hlow
  rw [hnext] at hhigh
  generalize (10 : ℚ) ^ (Int.log 10 x + 1 - digits) = place at *
  constructor
  · apply mul_le_mul_of_nonneg_right _ hpos.le
    have hsteps : (10 : ℤ) ^ (digits - 1) ≤ roundHalfEven 1 (x / place) := by
      apply le_roundHalfEven
      rw [Nat.cast_one, mul_one, le_div_iff₀ hpos]
      exact_mod_cast hlow
    exact_mod_cast hsteps
  · apply mul_le_mul_of_nonneg_right _ hpos.le
    have hsteps : roundHalfEven 1 (x / place) ≤ (10 : ℤ) ^ digits := by
      have hless : x / place < 10 ^ digits := by rwa [div_lt_iff₀ hpos]
      apply roundHalfEven_le_iff.mpr
      refine .inl ?_
      push_cast
      linarith
    exact_mod_cast hsteps

theorem toPrecision_nonneg (hdigits : 1 ≤ digits) (hx : 0 ≤ x) : 0 ≤ toPrecision digits x := by
  obtain rfl | hpos := hx.eq_or_lt
  · simp [toPrecision]
  · have hdecade : (0 : ℚ) < 10 ^ Int.log 10 x := zpow_pos (by norm_num) _
    exact hdecade.le.trans (toPrecision_decade hdigits hpos).1

/-- Values of one decade are rounded to one grid, a greater decade stays above. -/
theorem toPrecision_mono (hdigits : 1 ≤ digits) (hx : 0 ≤ x) (h : x ≤ y) :
    toPrecision digits x ≤ toPrecision digits y := by
  obtain rfl | hpos := hx.eq_or_lt
  · rw [toPrecision, if_pos rfl]
    exact toPrecision_nonneg hdigits h
  · have hypos : 0 < y := hpos.trans_le h
    obtain hlog | hlog := (Int.log_mono_right (b := 10) hpos h).eq_or_lt
    · have hplace : lastPlace digits y = lastPlace digits x := by
        rw [lastPlace, lastPlace, abs_of_pos hpos, abs_of_pos hypos, hlog]
      have hplacePos : 0 < lastPlace digits x := lastPlace_pos
      have hsteps : roundHalfEven 1 (x / lastPlace digits x) ≤
          roundHalfEven 1 (y / lastPlace digits x) :=
        roundHalfEven_mono 1 (div_le_div_of_nonneg_right h hplacePos.le)
      rw [toPrecision, toPrecision, if_neg hpos.ne', if_neg hypos.ne', hplace]
      exact mul_le_mul_of_nonneg_right (by exact_mod_cast hsteps) hplacePos.le
    · calc toPrecision digits x
          ≤ 10 ^ (Int.log 10 x + 1) := (toPrecision_decade hdigits hpos).2
        _ ≤ 10 ^ Int.log 10 y := zpow_le_zpow_right₀ (by norm_num) hlog
        _ ≤ toPrecision digits y := (toPrecision_decade hdigits hypos).1

theorem toPrecision_decimal {places : ℕ} (h : n < 10 ^ digits) :
    toPrecision digits ((n : ℚ) / 10 ^ places) = n / 10 ^ places := by
  obtain rfl | hn := n.eq_zero_or_pos
  · simp [toPrecision]
  · have hpos : (0 : ℚ) < n / 10 ^ places := by positivity
    have hsmall : (n : ℚ) / 10 ^ places < ((10 : ℕ) : ℚ) ^ ((digits : ℤ) - places) := by
      rw [Nat.cast_ofNat, zpow_sub₀ (by norm_num), zpow_natCast, zpow_natCast]
      gcongr
      exact_mod_cast h
    have hlog := (Int.lt_zpow_iff_log_lt (by norm_num) hpos).mp hsmall
    -- the last place kept lies at or below the last decimal
    obtain ⟨more, hmore⟩ : ∃ more : ℕ,
        Int.log 10 ((n : ℚ) / 10 ^ places) + 1 - digits = -(places : ℤ) - more :=
      ⟨(-(places : ℤ) - (Int.log 10 ((n : ℚ) / 10 ^ places) + 1 - digits)).toNat, by omega⟩
    have hplace : lastPlace digits ((n : ℚ) / 10 ^ places) = 1 / 10 ^ places / 10 ^ more := by
      rw [lastPlace, abs_of_pos hpos, hmore, zpow_sub₀ (by norm_num), zpow_neg, zpow_natCast,
        zpow_natCast, one_div]
    have hscaled : (n : ℚ) / 10 ^ places / (1 / 10 ^ places / 10 ^ more) =
        gridValue 1 ((n * 10 ^ more : ℕ) : ℤ) := by
      unfold gridValue
      push_cast
      field_simp
    rw [toPrecision, if_neg hpos.ne', hplace, hscaled, roundHalfEven_gridValue (by norm_num)]
    push_cast
    field_simp

end Foundation
