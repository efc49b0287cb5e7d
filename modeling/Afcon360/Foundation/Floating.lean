import Afcon360.Foundation.Precision

/-!
# Floating formats

A floating format keeps so many digits of a value, but none below its least step, and it holds
the values below a bound. The binary format of machine floats and the default context of decimal
arithmetic are two of them.

Rounding is monotone on what is not negative, and it does not pass a power of the radix. So a
value of moderate size stays one, and its rounding is close to it.
-/

namespace Foundation

/-- A number, an infinity, or what is neither. -/
inductive Number
  | finite (value : ℚ)
  | infinite (negative : Bool)
  | nan
deriving DecidableEq, Repr

structure Format where
  radix : ℕ
  digits : ℕ
  /-- The exponent of the least step. -/
  least : ℤ
  /-- The exponent of the bound. -/
  most : ℤ
  one_lt_radix : 1 < radix
  digits_pos : 0 < digits

namespace Format

/-- The exponent of the last digit that is kept. -/
def place (format : Format) (x : ℚ) : ℤ :=
  max (Int.log format.radix |x| + 1 - format.digits) format.least

def step (format : Format) (x : ℚ) : ℚ := (format.radix : ℚ) ^ format.place x

/-- The nearest value of the format, ties to the even digit. -/
def round (format : Format) (x : ℚ) : ℚ :=
  roundHalfEven 1 (x / format.step x) * format.step x

/-- The rounded value is within the bound. -/
def Holds (format : Format) (x : ℚ) : Prop := |format.round x| < (format.radix : ℚ) ^ format.most

instance (format : Format) (x : ℚ) : Decidable (format.Holds x) :=
  inferInstanceAs (Decidable (_ < _))

/-- The nearest number; what is out of the bound is an infinity. -/
def nearest (format : Format) (x : ℚ) : Number :=
  if format.Holds x then .finite (format.round x) else .infinite (x < 0)

/-! ## Rounding -/

section Rounding

variable {format : Format} {x y : ℚ} {k : ℤ}

theorem radix_pos : (0 : ℚ) < format.radix := by
  have := format.one_lt_radix
  exact_mod_cast (by omega : 0 < format.radix)

theorem one_lt_radix_cast : (1 : ℚ) < format.radix := by exact_mod_cast format.one_lt_radix

theorem power_pos (k : ℤ) : (0 : ℚ) < (format.radix : ℚ) ^ k := zpow_pos radix_pos k

theorem power_le {l : ℤ} (h : k ≤ l) : (format.radix : ℚ) ^ k ≤ (format.radix : ℚ) ^ l :=
  zpow_le_zpow_right₀ one_lt_radix_cast.le h

theorem step_pos : 0 < format.step x := power_pos _

/-- A power from the last kept digit on is a whole number of steps. -/
theorem exists_steps (h : format.place x ≤ k) :
    ∃ steps : ℤ, (format.radix : ℚ) ^ k = steps * format.step x := by
  refine ⟨(format.radix : ℤ) ^ (k - format.place x).toNat, ?_⟩
  have hsplit : k = ((k - format.place x).toNat : ℤ) + format.place x := by omega
  unfold step
  push_cast
  rw [← zpow_natCast, ← zpow_add₀ radix_pos.ne', ← hsplit]

theorem round_le {steps : ℤ} (h : x ≤ steps * format.step x) :
    format.round x ≤ steps * format.step x := by
  have hscaled : x / format.step x ≤ steps := (div_le_iff₀ step_pos).mpr h
  have hsteps : roundHalfEven 1 (x / format.step x) ≤ steps := by
    refine roundHalfEven_le_iff.mpr (.inl ?_)
    push_cast
    linarith
  unfold round
  have hcast : (roundHalfEven 1 (x / format.step x) : ℚ) ≤ steps := by exact_mod_cast hsteps
  exact mul_le_mul_of_nonneg_right hcast step_pos.le

theorem le_round {steps : ℤ} (h : steps * format.step x ≤ x) :
    steps * format.step x ≤ format.round x := by
  have hscaled : steps ≤ x / format.step x * (1 : ℕ) := by
    push_cast
    rw [mul_one]
    exact (le_div_iff₀ step_pos).mpr h
  have hcast : (steps : ℚ) ≤ roundHalfEven 1 (x / format.step x) := by
    exact_mod_cast le_roundHalfEven hscaled
  unfold round
  exact mul_le_mul_of_nonneg_right hcast step_pos.le

theorem round_of_steps {steps : ℤ} (h : x = steps * format.step x) : format.round x = x := by
  refine le_antisymm ?_ ?_
  · calc format.round x ≤ steps * format.step x := round_le h.le
      _ = x := h.symm
  · calc x = steps * format.step x := h
      _ ≤ format.round x := le_round h.ge

@[simp] theorem round_zero : format.round 0 = 0 := by
  have hzero : (0 : ℚ) = ((0 : ℤ) : ℚ) * format.step 0 := by simp
  exact round_of_steps hzero

theorem round_nonneg (h : 0 ≤ x) : 0 ≤ format.round x := by
  have hzero : ((0 : ℤ) : ℚ) * format.step x ≤ format.round x := le_round (by simpa using h)
  simpa using hzero

theorem place_mono (hx : 0 < x) (h : x ≤ y) : format.place x ≤ format.place y := by
  have hlog : Int.log format.radix |x| ≤ Int.log format.radix |y| := by
    rw [abs_of_pos hx, abs_of_pos (hx.trans_le h)]
    exact Int.log_mono_right hx h
  unfold place
  omega

theorem round_mono (hx : 0 ≤ x) (h : x ≤ y) : format.round x ≤ format.round y := by
  obtain rfl | hpos := hx.eq_or_lt
  · rw [round_zero]
    exact round_nonneg h
  have hy : 0 < y := hpos.trans_le h
  have hplaces : format.place x ≤ format.place y := place_mono hpos h
  obtain hsame | hless := hplaces.eq_or_lt
  · have hstep : format.step x = format.step y := by rw [step, step, hsame]
    have hscaled : x / format.step y ≤ y / format.step y :=
      div_le_div_of_nonneg_right h step_pos.le
    have hcast : (roundHalfEven 1 (x / format.step y) : ℚ) ≤
        roundHalfEven 1 (y / format.step y) := by exact_mod_cast roundHalfEven_mono 1 hscaled
    rw [round, round, hstep]
    exact mul_le_mul_of_nonneg_right hcast step_pos.le
  -- the power at the head of the larger value lies between
  have hradix := format.one_lt_radix
  have hdigits := format.digits_pos
  have hplace : format.place y = Int.log format.radix |y| + 1 - format.digits := by
    have hleast : format.least ≤ format.place x := le_max_right _ _
    unfold place at hless hleast ⊢
    omega
  rw [abs_of_pos hy] at hplace
  have hlog : Int.log format.radix x < Int.log format.radix y := by
    refine lt_of_le_of_ne (Int.log_mono_right hpos h) fun hequal => ?_
    have : format.place x = format.place y := by
      rw [place, place, abs_of_pos hpos, abs_of_pos hy, hequal]
    omega
  have habove : x ≤ (format.radix : ℚ) ^ Int.log format.radix y :=
    (Int.lt_zpow_succ_log_self hradix x).le.trans (power_le (by omega))
  have hbelow : (format.radix : ℚ) ^ Int.log format.radix y ≤ y :=
    Int.zpow_log_le_self hradix hy
  obtain ⟨steps, hsteps⟩ : ∃ steps : ℤ, (format.radix : ℚ) ^ Int.log format.radix y =
      steps * format.step x := exists_steps (by omega)
  obtain ⟨steps', hsteps'⟩ : ∃ steps : ℤ, (format.radix : ℚ) ^ Int.log format.radix y =
      steps * format.step y := exists_steps (by omega)
  calc format.round x ≤ steps * format.step x := round_le (hsteps ▸ habove)
    _ = (format.radix : ℚ) ^ Int.log format.radix y := hsteps.symm
    _ = steps' * format.step y := hsteps'
    _ ≤ format.round y := le_round (hsteps' ▸ hbelow)

theorem round_power (h : format.least ≤ k) :
    format.round ((format.radix : ℚ) ^ k) = (format.radix : ℚ) ^ k := by
  have hplace : format.place ((format.radix : ℚ) ^ k) ≤ k := by
    have hdigits := format.digits_pos
    unfold place
    rw [abs_of_pos (power_pos k), Int.log_zpow format.one_lt_radix]
    omega
  obtain ⟨steps, hsteps⟩ := exists_steps hplace
  exact round_of_steps hsteps

/-- An integer of few digits is a value of the format. -/
theorem round_intCast {value : ℤ} (hleast : format.least ≤ 0)
    (h : |(value : ℚ)| < (format.radix : ℚ) ^ format.digits) :
    format.round value = value := by
  obtain rfl | hzero := eq_or_ne value 0
  · simp
  have habs : 0 < |(value : ℚ)| := abs_pos.mpr (by exact_mod_cast hzero)
  have hlog : Int.log format.radix |(value : ℚ)| < format.digits := by
    rw [← zpow_natCast] at h
    exact (Int.lt_zpow_iff_log_lt format.one_lt_radix habs).mp h
  have hplace : format.place value ≤ 0 := by
    unfold place
    omega
  obtain ⟨steps, hsteps⟩ := exists_steps hplace
  have hvalue : (value : ℚ) = ((value * steps : ℤ) : ℚ) * format.step value := by
    push_cast
    rw [mul_assoc, ← hsteps, zpow_zero, mul_one]
  exact round_of_steps hvalue

/-- Rounding does not come below a power from above. -/
theorem power_le_abs_round (hk : format.least ≤ k) (h : (format.radix : ℚ) ^ k ≤ |x|) :
    (format.radix : ℚ) ^ k ≤ |format.round x| := by
  have habs : 0 < |x| := (power_pos k).trans_le h
  have hdigits := format.digits_pos
  have hlog : k ≤ Int.log format.radix |x| :=
    (Int.zpow_le_iff_le_log format.one_lt_radix habs).mp h
  have hhead : (format.radix : ℚ) ^ Int.log format.radix |x| ≤ |x| :=
    Int.zpow_log_le_self format.one_lt_radix habs
  have hplace : format.place x ≤ Int.log format.radix |x| := by
    unfold place
    omega
  obtain ⟨steps, hsteps⟩ := exists_steps hplace
  refine (power_le hlog).trans ?_
  rw [hsteps] at hhead ⊢
  obtain hx | hx := le_total 0 x
  · rw [abs_of_nonneg hx] at hhead
    exact (le_round hhead).trans (le_abs_self _)
  · rw [abs_of_nonpos hx] at hhead
    have hneg : x ≤ ((-steps : ℤ) : ℚ) * format.step x := by
      push_cast
      linarith
    have hround := round_le hneg
    push_cast at hround
    rw [← abs_neg]
    exact (by linarith : steps * format.step x ≤ -format.round x).trans (le_abs_self _)

/-- Rounding does not pass a power from below. -/
theorem abs_round_le_power (hk : format.least ≤ k) (h : |x| ≤ (format.radix : ℚ) ^ k) :
    |format.round x| ≤ (format.radix : ℚ) ^ k := by
  obtain rfl | hzero := eq_or_ne x 0
  · simpa using (power_pos k).le
  have habs : 0 < |x| := abs_pos.mpr hzero
  have hdigits := format.digits_pos
  have hlog : Int.log format.radix |x| ≤ k := by
    have hmono := Int.log_mono_right (b := format.radix) habs h
    rwa [Int.log_zpow format.one_lt_radix] at hmono
  have hplace : format.place x ≤ k := by
    unfold place
    omega
  obtain ⟨steps, hsteps⟩ := exists_steps hplace
  obtain ⟨hlow, hhigh⟩ := abs_le.mp h
  rw [abs_le]
  constructor
  · have hneg : ((-steps : ℤ) : ℚ) * format.step x = -(format.radix : ℚ) ^ k := by
      push_cast
      rw [hsteps, neg_mul]
    rw [← hneg] at hlow ⊢
    exact le_round hlow
  · rw [hsteps] at hhigh ⊢
    exact round_le hhigh

theorem holds_of_abs_le (hk : format.least ≤ k) (hmost : k < format.most)
    (h : |x| ≤ (format.radix : ℚ) ^ k) : format.Holds x :=
  (abs_round_le_power hk h).trans_lt (zpow_lt_zpow_right₀ one_lt_radix_cast hmost)

theorem abs_round_sub_le : |format.round x - x| ≤ format.step x / 2 := by
  have herror := abs_roundHalfEven_sub_le 1 (x / format.step x)
  have hpos : 0 < format.step x := step_pos
  have hscale : format.round x - x =
      (roundHalfEven 1 (x / format.step x) - x / format.step x * (1 : ℕ)) * format.step x := by
    unfold round
    push_cast
    rw [mul_one, sub_mul, div_mul_cancel₀ _ hpos.ne']
  rw [hscale, abs_mul, abs_of_pos hpos]
  calc _ ≤ 1 / 2 * format.step x := mul_le_mul_of_nonneg_right herror hpos.le
    _ = format.step x / 2 := by ring

end Rounding

/-! ## Values of moderate size -/

/-- Zero, or between a power of the radix and its inverse. -/
def Moderate (format : Format) (k : ℤ) (x : ℚ) : Prop :=
  x = 0 ∨ (format.radix : ℚ) ^ (-k) ≤ x ∧ x ≤ (format.radix : ℚ) ^ k

/-- What rounding may change a value by, against the value. -/
def error (format : Format) : ℚ := (format.radix : ℚ) ^ (1 - format.digits : ℤ) / 2

namespace Moderate

variable {format : Format} {x y : ℚ} {k l : ℤ}

theorem nonneg (h : format.Moderate k x) : 0 ≤ x := by
  obtain rfl | ⟨hlow, -⟩ := h
  · exact le_refl 0
  · exact (power_pos _).le.trans hlow

theorem le (h : format.Moderate k x) : x ≤ (format.radix : ℚ) ^ k := by
  obtain rfl | ⟨-, hhigh⟩ := h
  · exact (power_pos k).le
  · exact hhigh

theorem mono (h : format.Moderate k x) (hle : k ≤ l) : format.Moderate l x := by
  obtain rfl | ⟨hlow, hhigh⟩ := h
  · exact .inl rfl
  · exact .inr ⟨(power_le (by omega)).trans hlow, hhigh.trans (power_le hle)⟩

theorem mul (hx : format.Moderate k x) (hy : format.Moderate l y) :
    format.Moderate (k + l) (x * y) := by
  obtain rfl | ⟨hxlow, hxhigh⟩ := hx
  · exact .inl (zero_mul y)
  obtain rfl | ⟨hylow, hyhigh⟩ := hy
  · exact .inl (mul_zero x)
  have hsplit : ∀ a b : ℤ, (format.radix : ℚ) ^ (a + b) =
      (format.radix : ℚ) ^ a * (format.radix : ℚ) ^ b := fun a b => zpow_add₀ radix_pos.ne' a b
  have hxpos : 0 < x := (power_pos _).trans_le hxlow
  refine .inr ⟨?_, ?_⟩
  · rw [neg_add, hsplit]
    exact mul_le_mul hxlow hylow (power_pos _).le hxpos.le
  · rw [hsplit]
    exact mul_le_mul hxhigh hyhigh ((power_pos _).le.trans hylow) (power_pos _).le

theorem add (hx : format.Moderate k x) (hy : format.Moderate k y) :
    format.Moderate (k + 1) (x + y) := by
  have hxnonneg := hx.nonneg
  have hynonneg := hy.nonneg
  have hhigh : x + y ≤ (format.radix : ℚ) ^ (k + 1) := by
    have htwo : (2 : ℚ) ≤ format.radix := by exact_mod_cast format.one_lt_radix
    rw [zpow_add₀ radix_pos.ne', zpow_one]
    have hpower : 0 < (format.radix : ℚ) ^ k := power_pos k
    nlinarith [hx.le, hy.le]
  have hpower : (format.radix : ℚ) ^ (-(k + 1)) ≤ (format.radix : ℚ) ^ (-k) :=
    power_le (by omega)
  obtain rfl | ⟨hxlow, -⟩ := hx
  · obtain rfl | ⟨hylow, -⟩ := hy
    · exact .inl (zero_add 0)
    · exact .inr ⟨by linarith, hhigh⟩
  · exact .inr ⟨by linarith, hhigh⟩

theorem round (h : format.Moderate k x) (hleast : format.least ≤ -k) (hk : 0 ≤ k) :
    format.Moderate k (format.round x) := by
  obtain rfl | ⟨hlow, hhigh⟩ := h
  · exact .inl round_zero
  have hpos : 0 < x := (power_pos _).trans_le hlow
  refine .inr ⟨?_, ?_⟩
  · rw [← round_power (k := -k) hleast]
    exact round_mono (power_pos _).le hlow
  · rw [← round_power (k := k) (by omega)]
    exact round_mono hpos.le hhigh

theorem holds (h : format.Moderate k x) (hleast : format.least ≤ k) (hmost : k < format.most) :
    format.Holds x := by
  refine holds_of_abs_le hleast hmost ?_
  rw [abs_of_nonneg h.nonneg]
  exact h.le

/-- The rounding of such a value is close to it. -/
theorem close (h : format.Moderate k x) (hleast : format.least + format.digits - 1 ≤ -k) :
    |format.round x - x| ≤ format.error * x := by
  obtain rfl | ⟨hlow, -⟩ := h
  · simp
  have hpos : 0 < x := (power_pos _).trans_le hlow
  have hlog : -k ≤ Int.log format.radix x :=
    (Int.zpow_le_iff_le_log format.one_lt_radix hpos).mp hlow
  have hplace : format.place x = Int.log format.radix x + (1 - format.digits) := by
    unfold place
    rw [abs_of_pos hpos]
    omega
  have hstep : format.step x ≤ (format.radix : ℚ) ^ (1 - format.digits : ℤ) * x := by
    unfold step
    rw [hplace, zpow_add₀ radix_pos.ne', mul_comm]
    exact mul_le_mul_of_nonneg_left (Int.zpow_log_le_self format.one_lt_radix hpos)
      (power_pos _).le
  calc |format.round x - x| ≤ format.step x / 2 := abs_round_sub_le
    _ ≤ (format.radix : ℚ) ^ (1 - format.digits : ℤ) * x / 2 := by linarith
    _ = format.error * x := by unfold error; ring

end Moderate

/-! ## Computed and exact values -/

theorem error_pos {format : Format} : 0 < format.error := half_pos (power_pos _)

theorem error_le_one {format : Format} : format.error ≤ 1 := by
  have hdigits := format.digits_pos
  have hpower : (format.radix : ℚ) ^ (1 - format.digits : ℤ) ≤ (format.radix : ℚ) ^ (0 : ℤ) :=
    power_le (by omega)
  rw [zpow_zero] at hpower
  unfold error
  linarith

/-- A value that was computed with so many roundings, against the exact one. -/
structure Near (format : Format) (roundings : ℕ) (exact computed : ℚ) : Prop where
  low : (1 - format.error) ^ roundings * exact ≤ computed
  high : computed ≤ (1 + format.error) ^ roundings * exact

namespace Near

variable {format : Format} {roundings : ℕ} {exact computed x : ℚ} {k : ℤ}

theorem refl (format : Format) (x : ℚ) : format.Near 0 x x := ⟨by simp, by simp⟩

theorem round (h : format.Near roundings exact computed) (hmoderate : format.Moderate k computed)
    (hleast : format.least + format.digits - 1 ≤ -k) :
    format.Near (roundings + 1) exact (format.round computed) := by
  obtain ⟨hlow, hhigh⟩ := abs_le.mp (hmoderate.close hleast)
  have hpos : 0 < format.error := error_pos
  have hone : format.error ≤ 1 := error_le_one
  constructor
  · calc (1 - format.error) ^ (roundings + 1) * exact
        = (1 - format.error) * ((1 - format.error) ^ roundings * exact) := by ring
      _ ≤ (1 - format.error) * computed := mul_le_mul_of_nonneg_left h.low (by linarith)
      _ ≤ format.round computed := by linarith
  · calc format.round computed ≤ (1 + format.error) * computed := by linarith
      _ ≤ (1 + format.error) * ((1 + format.error) ^ roundings * exact) :=
        mul_le_mul_of_nonneg_left h.high (by linarith)
      _ = (1 + format.error) ^ (roundings + 1) * exact := by ring

theorem mul (h : format.Near roundings exact computed) (hx : 0 ≤ x) :
    format.Near roundings (exact * x) (computed * x) := by
  constructor
  · rw [← mul_assoc]
    exact mul_le_mul_of_nonneg_right h.low hx
  · rw [← mul_assoc]
    exact mul_le_mul_of_nonneg_right h.high hx

theorem add (h : format.Near roundings exact computed) (hx : 0 ≤ x) :
    format.Near roundings (x + exact) (x + computed) := by
  have hpos : 0 < format.error := error_pos
  have hone : format.error ≤ 1 := error_le_one
  have hbelow : (1 - format.error) ^ roundings * x ≤ x :=
    mul_le_of_le_one_left hx (pow_le_one₀ (by linarith) (by linarith))
  have habove : x ≤ (1 + format.error) ^ roundings * x :=
    le_mul_of_one_le_left hx (one_le_pow₀ (by linarith))
  constructor
  · rw [mul_add]
    exact add_le_add hbelow h.low
  · rw [mul_add]
    exact add_le_add habove h.high

end Near

/-! ## Arithmetic -/

inductive ArithmeticError
  | invalidOperation | overflow
deriving DecidableEq, Repr

/-- The value as a number; one that is out of the bound is refused. -/
def keep (format : Format) (x : ℚ) : Except ArithmeticError Number :=
  if format.Holds x then .ok (.finite (format.round x)) else .error .overflow

def add (format : Format) : Number → Number → Except ArithmeticError Number
  | .nan, _ | _, .nan => .ok .nan
  | .finite x, .finite y => format.keep (x + y)
  | .infinite negative, .infinite negative' =>
    if negative = negative' then .ok (.infinite negative) else .error .invalidOperation
  | .infinite negative, .finite _ | .finite _, .infinite negative => .ok (.infinite negative)

def mul (format : Format) : Number → Number → Except ArithmeticError Number
  | .nan, _ | _, .nan => .ok .nan
  | .finite x, .finite y => format.keep (x * y)
  | .infinite negative, .infinite negative' => .ok (.infinite (negative != negative'))
  | .infinite negative, .finite x | .finite x, .infinite negative =>
    if x = 0 then .error .invalidOperation else .ok (.infinite (negative != decide (x < 0)))

end Format

namespace Number

def neg : Number → Number
  | finite x => finite (-x)
  | infinite negative => infinite !negative
  | nan => nan

/-- The first number is less than the second; the order of what is no number is refused. -/
def less : Number → Number → Except Format.ArithmeticError Bool
  | nan, _ | _, nan => .error .invalidOperation
  | finite x, finite y => .ok (x < y)
  | infinite negative, finite _ => .ok negative
  | finite _, infinite negative => .ok !negative
  | infinite negative, infinite negative' => .ok (negative && !negative')

end Number

namespace Format

section Arithmetic

variable {format : Format} {a b : Number} {x y z : ℚ}

theorem keep_eq_finite :
    format.keep x = .ok (.finite z) ↔ format.Holds x ∧ format.round x = z := by
  unfold keep
  by_cases h : format.Holds x <;> simp [h]

/-- A finite sum is one of finite numbers. -/
theorem add_eq_finite :
    format.add a b = .ok (.finite z) ↔
      ∃ x y, a = .finite x ∧ b = .finite y ∧ format.Holds (x + y) ∧ format.round (x + y) = z := by
  cases a <;> cases b <;> simp [add, keep_eq_finite]
  case infinite.infinite => split <;> simp

/-- A finite product is one of finite numbers. -/
theorem mul_eq_finite :
    format.mul a b = .ok (.finite z) ↔
      ∃ x y, a = .finite x ∧ b = .finite y ∧ format.Holds (x * y) ∧ format.round (x * y) = z := by
  cases a <;> cases b <;> simp [mul, keep_eq_finite]
  case finite.infinite => split <;> simp
  case infinite.finite => split <;> simp

/-- The sum of two values within a power is within the next one. -/
theorem add_of_abs_le {k : ℤ} (hleast : format.least ≤ k + 1) (hmost : k + 1 < format.most)
    (hx : |x| ≤ (format.radix : ℚ) ^ k) (hy : |y| ≤ (format.radix : ℚ) ^ k) :
    ∃ z, format.add (.finite x) (.finite y) = .ok (.finite z) ∧
      |z| ≤ (format.radix : ℚ) ^ (k + 1) := by
  have hsum : |x + y| ≤ (format.radix : ℚ) ^ (k + 1) := by
    have htwo : (2 : ℚ) ≤ format.radix := by exact_mod_cast format.one_lt_radix
    have hpower : 0 < (format.radix : ℚ) ^ k := power_pos k
    calc |x + y| ≤ |x| + |y| := abs_add_le x y
      _ ≤ (format.radix : ℚ) ^ k * format.radix := by nlinarith
      _ = (format.radix : ℚ) ^ (k + 1) := by rw [zpow_add₀ radix_pos.ne', zpow_one]
  exact ⟨format.round (x + y),
    add_eq_finite.mpr ⟨x, y, rfl, rfl, holds_of_abs_le hleast hmost hsum, rfl⟩,
    abs_round_le_power hleast hsum⟩

end Arithmetic

/-! ## Two formats -/

/-- The default context of decimal arithmetic: 28 digits, exponents to 999999. -/
def decimal : Format where
  radix := 10
  digits := 28
  least := -1000026
  most := 1000000
  one_lt_radix := by decide
  digits_pos := by decide

/-- The binary format of machine floats. -/
def double : Format where
  radix := 2
  digits := 53
  least := -1074
  most := 1024
  one_lt_radix := by decide
  digits_pos := by decide

end Format

/-! ## Machine floats -/

/-- Why a value is not read as a float. -/
inductive FloatError
  | notNumeric | overflow
deriving DecidableEq, Repr

/-- An integer as a float; one that is too large is refused. -/
def floatOfInt (value : ℤ) : Except FloatError Number :=
  match Format.double.nearest value with
  | .finite x => .ok (.finite x)
  | _ => .error .overflow

/-- A float below 2 ^ 53 is the integer it was made from. -/
theorem floatOfInt_eq {value : ℤ} {x : ℚ} (h : floatOfInt value = .ok (.finite x))
    (hx : |x| < 2 ^ 53) : x = value := by
  have hround : Format.double.round value = x := by
    unfold floatOfInt Format.nearest at h
    by_cases hholds : Format.double.Holds value
    · simpa [hholds] using h
    · simp [hholds] at h
  by_cases hsmall : |(value : ℚ)| < 2 ^ 53
  · rw [← hround]
    exact Format.round_intCast (by decide) hsmall
  · have hpower : (Format.double.radix : ℚ) ^ (53 : ℤ) = 2 ^ 53 := by norm_num [Format.double]
    have hbelow : (Format.double.radix : ℚ) ^ (53 : ℤ) ≤ |Format.double.round value| :=
      Format.power_le_abs_round (by decide) (hpower ▸ not_lt.mp hsmall)
    rw [hround, hpower] at hbelow
    exact absurd hx (not_lt.mpr hbelow)

end Foundation
