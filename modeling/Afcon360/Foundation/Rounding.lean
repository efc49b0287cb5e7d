import Mathlib.Data.Int.ConditionallyCompleteOrder
import Mathlib.Data.Rat.Floor
import Mathlib.Tactic.Positivity

/-!
# Rounding rationals to a grid

A grid of `n` steps per unit represents the rational `x` by an integer number of
steps. The three modes are those of decimal arithmetic: towards zero, to the
nearest step with ties away from zero, and to the nearest step with ties to the
even step.

A value already on the grid is its own rounding in every mode, and rounding
never crosses a grid point: this is what lets a comparison made before rounding
be used after it.
-/

namespace Foundation

/-- The value of a number of steps on the grid of `n` steps per unit. -/
def gridValue (n : ℕ) (steps : ℤ) : ℚ := steps / n

/-- Round towards zero. -/
def roundDown (n : ℕ) (x : ℚ) : ℤ := if 0 ≤ x then ⌊x * n⌋ else -⌊-x * n⌋

/-- Round to the nearest step, ties away from zero. -/
def roundHalfUp (n : ℕ) (x : ℚ) : ℤ :=
  if 0 ≤ x then ⌊x * n + 1 / 2⌋ else -⌊-x * n + 1 / 2⌋

/-- Round to the nearest step, ties to the even step. -/
def roundHalfEven (n : ℕ) (x : ℚ) : ℤ :=
  let steps := ⌊x * n⌋
  let rest := x * n - steps
  if rest < 1 / 2 then steps
  else if 1 / 2 < rest then steps + 1
  else if steps % 2 = 0 then steps
  else steps + 1

variable {n : ℕ} {x y : ℚ} {steps : ℤ}

theorem gridValue_mul (hn : 0 < n) : gridValue n steps * n = steps := by
  have : (n : ℚ) ≠ 0 := by positivity
  simp [gridValue, this]

theorem gridValue_add (n : ℕ) (steps steps' : ℤ) :
    gridValue n (steps + steps') = gridValue n steps + gridValue n steps' := by
  simp [gridValue, add_div]

@[simp] theorem gridValue_nonneg_iff (hn : 0 < n) : 0 ≤ gridValue n steps ↔ 0 ≤ steps := by
  have pos : (0 : ℚ) < n := by exact_mod_cast hn
  rw [gridValue, le_div_iff₀ pos, zero_mul]
  exact_mod_cast Iff.rfl

@[simp] theorem gridValue_pos_iff (hn : 0 < n) : 0 < gridValue n steps ↔ 0 < steps := by
  have hcast : (0 : ℚ) < n := by exact_mod_cast hn
  rw [gridValue, div_pos_iff_of_pos_right hcast]
  exact_mod_cast Iff.rfl

theorem gridValue_inj {steps' : ℤ} (hn : 0 < n) :
    gridValue n steps = gridValue n steps' ↔ steps = steps' := by
  have hcast : (n : ℚ) ≠ 0 := by exact_mod_cast hn.ne'
  rw [gridValue, gridValue, div_left_inj' hcast]
  exact_mod_cast Iff.rfl

theorem gridValue_le_iff (hn : 0 < n) : gridValue n steps ≤ x ↔ (steps : ℚ) ≤ x * n := by
  rw [gridValue, div_le_iff₀ (by exact_mod_cast hn)]

theorem le_gridValue_iff (hn : 0 < n) : x ≤ gridValue n steps ↔ x * n ≤ steps := by
  rw [gridValue, le_div_iff₀ (by exact_mod_cast hn)]

theorem roundDown_of_exact (h : x * n = steps) : roundDown n x = steps := by
  unfold roundDown
  split
  · rw [h, Int.floor_intCast]
  · rw [neg_mul, h, ← Int.cast_neg, Int.floor_intCast, neg_neg]

theorem roundHalfUp_le (h : x * n ≤ steps) : roundHalfUp n x ≤ steps := by
  unfold roundHalfUp
  split
  · apply Int.le_of_lt_add_one
    rw [Int.floor_lt]
    push_cast
    linarith
  · have below : -steps ≤ ⌊-x * n + 1 / 2⌋ := by
      rw [Int.le_floor]
      push_cast
      linarith
    omega

theorem le_roundHalfUp (h : steps ≤ x * n) : steps ≤ roundHalfUp n x := by
  unfold roundHalfUp
  split
  · rw [Int.le_floor]
    linarith
  · have below : ⌊-x * n + 1 / 2⌋ < -steps + 1 := by
      rw [Int.floor_lt]
      push_cast
      linarith
    omega

theorem roundHalfUp_mono (n : ℕ) : Monotone (roundHalfUp n) := by
  intro x y h
  have scaled : x * n ≤ y * n := mul_le_mul_of_nonneg_right h (by positivity)
  by_cases hx : 0 ≤ x
  · rw [roundHalfUp, roundHalfUp, if_pos hx, if_pos (hx.trans h)]
    exact Int.floor_le_floor (by linarith)
  · have low : roundHalfUp n x ≤ 0 := by
      apply roundHalfUp_le
      push_cast
      exact mul_nonpos_of_nonpos_of_nonneg (not_le.mp hx).le (by positivity)
    by_cases hy : 0 ≤ y
    · refine low.trans (le_roundHalfUp ?_)
      push_cast
      positivity
    · rw [roundHalfUp, roundHalfUp, if_neg hx, if_neg hy]
      have := Int.floor_le_floor (show -y * n + 1 / 2 ≤ -x * n + 1 / 2 by linarith)
      omega

theorem le_roundHalfEven (h : steps ≤ x * n) : steps ≤ roundHalfEven n x := by
  have below : steps ≤ ⌊x * n⌋ := Int.le_floor.mpr h
  simp only [roundHalfEven]
  split
  · exact below
  · split
    · omega
    · split <;> omega

/-- Rounding ties to even stays at or below a grid point exactly for the values less than half
a step above it, and half a step above it where it is even. -/
theorem roundHalfEven_le_iff :
    roundHalfEven n x ≤ steps ↔
      x * n < steps + 1 / 2 ∨ x * n = steps + 1 / 2 ∧ steps % 2 = 0 := by
  have hfloor := Int.floor_le (x * n)
  have hnext := Int.lt_floor_add_one (x * n)
  generalize hdown : ⌊x * n⌋ = down at hfloor hnext
  simp only [roundHalfEven, hdown]
  -- the value lies in the step that begins at `down`
  obtain hlt | rfl | hgt := lt_trichotomy down steps
  · have hbelow : (down : ℚ) + 1 ≤ steps := by exact_mod_cast hlt
    have hleft : x * n < steps + 1 / 2 := by linarith
    simp only [hleft, true_or, iff_true]
    split
    · omega
    · split
      · omega
      · split <;> omega
  · split
    · rename_i hrest
      simp only [le_refl, true_iff]
      exact .inl (by linarith)
    · rename_i hrest
      split
      · rename_i hrest'
        constructor
        · intro h
          omega
        · rintro (h | ⟨h, -⟩) <;> linarith
      · rename_i hrest'
        have hhalf : x * n = down + 1 / 2 := by linarith
        split
        · rename_i heven
          simp [hhalf, heven]
        · rename_i hodd
          simp [hhalf, hodd]
  · have habove : (steps : ℚ) + 1 ≤ down := by exact_mod_cast hgt
    constructor
    · intro h
      exfalso
      revert h
      split
      · omega
      · split
        · omega
        · split <;> omega
    · rintro (h | ⟨h, -⟩) <;> linarith

theorem roundHalfEven_mono (n : ℕ) : Monotone (roundHalfEven n) := by
  intro x y h
  have scaled : x * n ≤ y * n := mul_le_mul_of_nonneg_right h (by positivity)
  apply roundHalfEven_le_iff.mpr
  obtain hlt | ⟨heq, heven⟩ := roundHalfEven_le_iff.mp (le_refl (roundHalfEven n y))
  · exact .inl (by linarith)
  · obtain hlt | hsame := scaled.lt_or_eq
    · exact .inl (by linarith)
    · exact .inr ⟨hsame.trans heq, heven⟩

theorem roundHalfUp_of_exact (h : x * n = steps) : roundHalfUp n x = steps :=
  le_antisymm (roundHalfUp_le h.le) (le_roundHalfUp h.ge)

theorem roundHalfEven_gridValue (hn : 0 < n) : roundHalfEven n (gridValue n steps) = steps := by
  simp [roundHalfEven, gridValue_mul hn]

theorem roundHalfUp_gridValue (hn : 0 < n) : roundHalfUp n (gridValue n steps) = steps :=
  roundHalfUp_of_exact (gridValue_mul hn)

/-- A coarse grid lies on every finer grid that divides its steps. -/
theorem roundHalfUp_coarse (factor : ℕ) (hn : 0 < n) :
    roundHalfUp (n * factor) (gridValue n steps) = steps * factor := by
  apply roundHalfUp_of_exact
  push_cast
  rw [← mul_assoc, gridValue_mul hn]

end Foundation
