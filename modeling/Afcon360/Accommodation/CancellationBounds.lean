import Mathlib.Algebra.Order.Ring.Star
import Mathlib.Data.Rat.Star
import Mathlib.Tactic.NormNum.GCD
import Afcon360.Accommodation.CancellationPolicy

/-!
# What a cancellation quote can promise

A quote stays within what was paid and what the stay cost unless a guest who is checked in
before the first night has more nights left than the stay has, or the fixed penalty for not
showing up is more than the stay. Cancelling later refunds more exactly where the policy's rate
for the middle of the stay is above its rate on the last day before it. The four tables of
tiers agree except on the strictest policy, and on rows with a rate of their own.
-/

namespace Afcon360.Accommodation

open Foundation

/-- The amount rounds to at most so many cents. -/
def RoundsWithin (amount : ℚ) (cents : ℕ) : Prop :=
  amount * 100 < cents + 1 / 2 ∨ amount * 100 = cents + 1 / 2 ∧ cents % 2 = 0

variable {amount : ℚ} {cents : ℕ}

theorem roundsWithin_iff :
    RoundsWithin amount cents ↔ quantizeCents amount ≤ gridValue 100 cents := by
  have heven : ((cents : ℤ) % 2 = 0) ↔ cents % 2 = 0 := by omega
  rw [quantizeCents_le_iff, roundHalfEven_le_iff, Int.cast_natCast, heven, Nat.cast_ofNat,
    RoundsWithin]

/-- The amount of a column fits the precision. -/
theorem toPrecision_cents (h : cents < 10 ^ 10) :
    toPrecision 28 (gridValue 100 cents) = gridValue 100 cents := by
  have hdecimal : gridValue 100 cents = (cents : ℚ) / 10 ^ 2 := by
    unfold gridValue
    push_cast
    norm_num
  rw [hdecimal, toPrecision_decimal (by omega)]

namespace QuotedBooking

variable (booking : QuotedBooking)

/-- The cents the policy is applied to. -/
def baseCents : ℕ :=
  if booking.timing = "pay_now" ∨ booking.timing = "deposit" then booking.paidCents
  else booking.totalCents

def base : ℚ := gridValue 100 booking.baseCents

def totalNights : ℤ := booking.checkOut - booking.checkIn

variable {booking} {policy : CancellationPolicy} {legacy : LegacyPolicy} {date : ℤ}

@[simp] theorem arguments_base : (booking.arguments date).base = booking.base := by
  simp only [arguments, QuoteArguments.base, base, baseCents, totalAmount, amountPaid]
  simp only [quantizeCents_gridValue]
  by_cases hnow : booking.timing = "pay_now"
  · simp [hnow]
  · by_cases hdeposit : booking.timing = "deposit" <;> simp [hnow, hdeposit]

@[simp] theorem arguments_totalNights :
    (booking.arguments date).totalNights = booking.totalNights := rfl

theorem totalNights_pos : 0 < booking.totalNights := Int.sub_pos_of_lt booking.validDates

theorem base_nonneg : 0 ≤ booking.base := by
  unfold base gridValue
  positivity

theorem totalAmount_nonneg : 0 ≤ booking.totalAmount := by
  unfold totalAmount gridValue
  positivity

theorem baseCents_lt : booking.baseCents < 10 ^ 10 := by
  unfold baseCents
  split
  · exact booking.paidBound
  · exact booking.totalBound

/-- The phase of a booking on a date. -/
theorem arguments_phase :
    (booking.arguments date).phase =
      if booking.status = .checkedIn ∨ booking.checkIn ≤ date ∧ date < booking.checkOut then
        .midStay
      else if booking.checkIn ≤ date then .noShow else .preCheckin := by
  simp [arguments, QuoteArguments.phase]

theorem arguments_nightsLeft (h : (booking.arguments date).phase = .midStay) :
    (booking.arguments date).nightsLeft = max (booking.checkOut - date) 0 := by
  have hphase : (booking.arguments date).nightsRemaining =
      some (if (booking.arguments date).phase = .midStay then max (booking.checkOut - date) 0
        else 0) := rfl
  rw [QuoteArguments.nightsLeft, hphase, if_pos h]
  rfl

/-- The part of the nights that is left on a date within the stay. -/
def unusedRatio (booking : QuotedBooking) (date : ℤ) : ℚ :=
  toPrecision 28 ((max (booking.checkOut - date) 0 : ℤ) / booking.totalNights)

/-- The part of the base that goes with them, at the policy's rate. -/
def midStayRefund (booking : QuotedBooking) (policy : CancellationPolicy) (date : ℤ) : ℚ :=
  toPrecision 28
    (toPrecision 28 (booking.base * booking.unusedRatio date) * (policy.midStayRefundPct / 100))

theorem arguments_midStayRefund (h : (booking.arguments date).phase = .midStay) :
    policy.midStayRefund (booking.arguments date) = booking.midStayRefund policy date := by
  rw [CancellationPolicy.midStayRefund, arguments_nightsLeft h, arguments_totalNights,
    arguments_base, midStayRefund, unusedRatio]
  simp only [totalNights_pos, true_and]
  split
  · rfl
  · rename_i hnone
    have hzero : max (booking.checkOut - date) 0 = 0 := by omega
    rw [hzero]
    simp [toPrecision]

/-- What the quote of a cancellable booking refunds. -/
theorem refund_eq :
    policy.refund (booking.arguments date) =
      match (booking.arguments date).phase with
      | .preCheckin => quantizeCents
          (booking.base * (policy.preCheckinPct (booking.checkIn - date) / 100))
      | .midStay => quantizeCents (booking.midStayRefund policy date)
      | _ => 0 := by
  unfold CancellationPolicy.refund
  cases hphase : (booking.arguments date).phase with
  | preCheckin =>
    have hbefore : date < booking.checkIn := by
      rw [arguments_phase] at hphase
      by_contra hnot
      split at hphase
      · cases hphase
      · split at hphase
        · cases hphase
        · omega
    have hdays : (booking.arguments date).daysUntil = booking.checkIn - date :=
      max_eq_left (by simp [arguments]; omega)
    simp only [arguments_base, hdays]
  | midStay => simp only [arguments_midStayRefund hphase]
  | noShow => rfl
  | none => rfl

theorem fine_eq (h : (booking.arguments date).phase ≠ .noShow) :
    policy.refund (booking.arguments date) + policy.fine (booking.arguments date) =
      booking.base := by
  rw [CancellationPolicy.fine, if_neg h, arguments_base, refund_eq, base]
  split
  · rw [quantizeCents_sub_quantizeCents]
    ring
  · rw [quantizeCents_sub_quantizeCents]
    ring
  · rw [sub_zero, quantizeCents_gridValue, zero_add]

end QuotedBooking

/-! ## The bounds of a quote -/

namespace CancellationPolicy

variable (policy : CancellationPolicy)

/-- The percentage within the stay is a number of hundredths. -/
theorem midStayRefundSteps :
    ∃ steps : ℕ, policy.midStayRefundPct = steps / 100 ∧ steps ≤ 10 ^ 4 := by
  obtain ⟨hnonneg, hle⟩ := policy.midStayRefundRange
  have hnum : (((policy.midStayRefundPct * 100).num : ℤ) : ℚ) = policy.midStayRefundPct * 100 :=
    Rat.coe_int_num_of_den_eq_one policy.midStayRefundDecimals
  have hsteps : 0 ≤ (policy.midStayRefundPct * 100).num := Rat.num_nonneg.mpr (by positivity)
  obtain ⟨steps, heq⟩ := Int.eq_ofNat_of_zero_le hsteps
  rw [heq, Int.cast_natCast] at hnum
  refine ⟨steps, by linarith, ?_⟩
  have hcast : (steps : ℚ) ≤ 10 ^ 4 := by linarith
  exact_mod_cast hcast

theorem preCheckinPct_range (days : ℤ) :
    0 ≤ policy.preCheckinPct days ∧ policy.preCheckinPct days ≤ 100 := by
  unfold preCheckinPct
  split_ifs <;> first | exact policy.preCheckinRefundRange | norm_num

end CancellationPolicy

/-- What every quote of the booking should keep to. -/
structure CancellationQuote.Bounded (quote : CancellationQuote) (booking : QuotedBooking) :
    Prop where
  refund_nonneg : 0 ≤ quote.refund
  refund_le_base : quote.refund ≤ quote.refundableBase
  refund_le_paid : booking.timing = "pay_now" ∨ booking.timing = "deposit" →
    quote.refund ≤ booking.amountPaid
  balanced : quote.phase ≠ .noShow → quote.refund + quote.fine = quote.refundableBase
  fine : quote.phase = .noShow → 0 ≤ quote.fine ∧ quote.fine ≤ booking.totalAmount

/-- Within the stay the part of the nights left does not exceed the base; past it a penalty
other than the first night does not exceed the stay. -/
def QuotedBooking.KeepsBounds (booking : QuotedBooking) (policy : CancellationPolicy)
    (date : ℤ) : Prop :=
  booking.status.isCancellable = true →
    match (booking.arguments date).phase with
    | .midStay => RoundsWithin (booking.midStayRefund policy date) booking.baseCents
    | .noShow =>
      if policy.noShowPenalty = 1 then True
      else if 1 ≤ policy.noShowPenalty then RoundsWithin policy.noShowPenalty booking.totalCents
      else RoundsWithin (booking.base * (policy.noShowPenalty / 100)) booking.totalCents
    | _ => True

namespace QuotedBooking

variable {booking : QuotedBooking} {policy : CancellationPolicy} {legacy : LegacyPolicy} {date : ℤ}

theorem base_eq_amountPaid (h : booking.timing = "pay_now" ∨ booking.timing = "deposit") :
    booking.base = booking.amountPaid := by
  rw [base, baseCents, if_pos h, amountPaid]

theorem quantizeCents_share_le {share : ℚ} (h : share ≤ 1) :
    quantizeCents (booking.base * share) ≤ booking.base := by
  have hle : booking.base * share ≤ booking.base := by
    simpa using mul_le_mul_of_nonneg_left h booking.base_nonneg
  calc quantizeCents (booking.base * share)
      ≤ quantizeCents booking.base := quantizeCents_mono hle
    _ = booking.base := quantizeCents_gridValue

theorem unusedRatio_nonneg : 0 ≤ booking.unusedRatio date := by
  have hnights : (0 : ℚ) < booking.totalNights := by exact_mod_cast booking.totalNights_pos
  have hleft : (0 : ℚ) ≤ (max (booking.checkOut - date) 0 : ℤ) := by
    exact_mod_cast le_max_right _ _
  apply toPrecision_nonneg (by norm_num)
  positivity

theorem midStayRefund_nonneg : 0 ≤ booking.midStayRefund policy date := by
  have hpct := policy.midStayRefundRange.1
  have hratio : 0 ≤ toPrecision 28 (booking.base * booking.unusedRatio date) :=
    toPrecision_nonneg (by norm_num) (mul_nonneg booking.base_nonneg unusedRatio_nonneg)
  apply toPrecision_nonneg (by norm_num)
  positivity

theorem refund_nonneg : 0 ≤ policy.refund (booking.arguments date) := by
  have hpct := (policy.preCheckinPct_range (booking.checkIn - date)).1
  have hbase := booking.base_nonneg
  rw [refund_eq]
  split
  · exact quantizeCents_nonneg (by positivity)
  · exact quantizeCents_nonneg midStayRefund_nonneg
  · exact le_refl 0

theorem noShowFine_eq :
    policy.noShowFine (booking.arguments date) =
      if policy.noShowPenalty = 1 then
        quantizeCents (toPrecision 28 (booking.totalAmount / booking.totalNights))
      else if 1 ≤ policy.noShowPenalty then quantizeCents policy.noShowPenalty
      else quantizeCents (booking.base * (policy.noShowPenalty / 100)) := by
  have htotal : quantizeCents (booking.arguments date).totalAmount = booking.totalAmount :=
    quantizeCents_gridValue
  unfold CancellationPolicy.noShowFine
  simp only [htotal, arguments_totalNights, booking.totalNights_pos, arguments_base, if_true]
  by_cases hfirst : policy.noShowPenalty = 1
  · simp [hfirst]
  · simp [hfirst]

/-- The penalty is never negative, and exceeds the stay only as a fixed sum or a percentage. -/
theorem noShowFine_bounded_iff :
    0 ≤ policy.noShowFine (booking.arguments date) ∧
        policy.noShowFine (booking.arguments date) ≤ booking.totalAmount ↔
      if policy.noShowPenalty = 1 then True
      else if 1 ≤ policy.noShowPenalty then RoundsWithin policy.noShowPenalty booking.totalCents
      else RoundsWithin (booking.base * (policy.noShowPenalty / 100)) booking.totalCents := by
  have hpenalty := policy.noShowPenaltyPositive
  have hbase := booking.base_nonneg
  have htotal := booking.totalAmount_nonneg
  rw [noShowFine_eq]
  split_ifs with hfirst hfixed
  · have hone : (1 : ℚ) ≤ booking.totalNights := by exact_mod_cast booking.totalNights_pos
    have hle : booking.totalAmount / booking.totalNights ≤ booking.totalAmount :=
      div_le_self htotal hone
    have hnight : 0 ≤ booking.totalAmount / booking.totalNights := by positivity
    refine iff_of_true
      ⟨quantizeCents_nonneg (toPrecision_nonneg (by norm_num) hnight), ?_⟩ trivial
    calc quantizeCents (toPrecision 28 (booking.totalAmount / booking.totalNights))
        ≤ quantizeCents (toPrecision 28 booking.totalAmount) :=
          quantizeCents_mono (toPrecision_mono (by norm_num) hnight hle)
      _ = booking.totalAmount := by
          rw [totalAmount, toPrecision_cents booking.totalBound, quantizeCents_gridValue]
  · rw [roundsWithin_iff]
    exact and_iff_right (quantizeCents_nonneg hpenalty)
  · rw [roundsWithin_iff]
    exact and_iff_right (quantizeCents_nonneg (by positivity))

/-- A quote keeps its bounds exactly where the nights left or the penalty do not overshoot. -/
theorem cancellation_quote_bounded (booking : QuotedBooking) (policy : CancellationPolicy)
    (legacy : LegacyPolicy) (date : ℤ) :
    (booking.cancellationQuote (some policy) legacy date).Bounded booking ↔
      booking.KeepsBounds policy date := by
  by_cases hstatus : booking.status.isCancellable = true
  · have hquote : booking.cancellationQuote (some policy) legacy date =
        policy.calculateQuote (booking.arguments date) := by
      simp [cancellationQuote, hstatus]
    rw [hquote, KeepsBounds]
    simp only [hstatus, forall_const]
    constructor
    · intro h
      have hle := h.refund_le_base
      have hfine := h.fine
      simp only [CancellationPolicy.calculateQuote, arguments_base] at hle hfine
      cases hphase : (booking.arguments date).phase with
      | midStay =>
        rw [refund_eq, hphase] at hle
        exact roundsWithin_iff.mpr hle
      | noShow =>
        rw [CancellationPolicy.fine, if_pos hphase] at hfine
        exact noShowFine_bounded_iff.mp (hfine hphase)
      | preCheckin => trivial
      | none => trivial
    · intro h
      have hle : policy.refund (booking.arguments date) ≤ booking.base := by
        rw [refund_eq]
        cases hphase : (booking.arguments date).phase with
        | midStay =>
          rw [hphase] at h
          exact roundsWithin_iff.mp h
        | preCheckin =>
          have hpct := (policy.preCheckinPct_range (booking.checkIn - date)).2
          exact quantizeCents_share_le (by linarith)
        | noShow => exact booking.base_nonneg
        | none => exact booking.base_nonneg
      refine ⟨refund_nonneg, ?_, ?_, ?_, ?_⟩
      · exact hle.trans_eq arguments_base.symm
      · intro htiming
        exact hle.trans_eq (base_eq_amountPaid htiming)
      · intro hphase
        exact (fine_eq hphase).trans arguments_base.symm
      · intro hphase
        have hphase : (booking.arguments date).phase = .noShow := hphase
        rw [hphase] at h
        simp only [CancellationPolicy.calculateQuote, CancellationPolicy.fine, if_pos hphase]
        exact noShowFine_bounded_iff.mpr h
  · have hquote : booking.cancellationQuote (some policy) legacy date = {} := by
      simp [cancellationQuote, hstatus]
    rw [hquote]
    refine iff_of_true ⟨le_refl 0, le_refl 0, ?_, ?_, ?_⟩ (fun h => absurd h hstatus)
    · intro htiming
      rw [← base_eq_amountPaid htiming]
      exact booking.base_nonneg
    · exact fun _ => add_zero 0
    · rintro ⟨⟩

/-- A guest checked in for two nights whose dates were then moved ahead has four nights left. -/
theorem refund_exceeds_payment :
    let booking : QuotedBooking :=
      { status := .checkedIn, totalCents := 20000, paidCents := 20000
        paymentTiming := some "pay_now", checkIn := 12, checkOut := 14, numNights := 2 }
    let quote := booking.cancellationQuote (some { name := "FLEX" }) ⟨10, none, "flexible"⟩ 10
    quote.refund = 400 ∧ booking.amountPaid = 200 ∧ ¬ quote.Bounded booking := by
  intro booking quote
  have hrefund : quote.refund = 400 := by decide +kernel
  have hpaid : booking.amountPaid = 200 := by decide +kernel
  refine ⟨hrefund, hpaid, fun h => ?_⟩
  have hle := h.refund_le_paid (by decide)
  rw [hrefund, hpaid] at hle
  norm_num at hle

end QuotedBooking

/-! ## Later cancellations -/

theorem CancellationPolicy.preCheckinPct_mono (policy : CancellationPolicy) :
    Monotone policy.preCheckinPct := by
  intro days days' h
  unfold preCheckinPct
  split_ifs <;> first | omega | norm_num

namespace QuotedBooking

variable {booking : QuotedBooking} {policy : CancellationPolicy} {legacy : LegacyPolicy}
variable {date date' : ℤ}

/-- The rate within the stay is not above that of the last day before it, or both come to the
same cents. -/
def RatesFall (booking : QuotedBooking) (policy : CancellationPolicy) : Prop :=
  policy.midStayRefundPct ≤ policy.preCheckinPct 1 ∨
    roundHalfEven 100 (booking.base * (policy.midStayRefundPct / 100)) =
      roundHalfEven 100 (booking.base * (policy.preCheckinPct 1 / 100))

theorem ratesFall_iff :
    booking.RatesFall policy ↔
      quantizeCents (booking.base * (policy.midStayRefundPct / 100)) ≤
        quantizeCents (booking.base * (policy.preCheckinPct 1 / 100)) := by
  have hbase := booking.base_nonneg
  constructor
  · rintro (hle | heq)
    · refine quantizeCents_mono (mul_le_mul_of_nonneg_left ?_ hbase)
      linarith
    · rw [quantizeCents, quantizeCents, heq]
  · intro h
    obtain hle | hlt := le_or_gt policy.midStayRefundPct (policy.preCheckinPct 1)
    · exact .inl hle
    · refine .inr (le_antisymm (quantizeCents_le_iff.mp h) (roundHalfEven_mono 100 ?_))
      refine mul_le_mul_of_nonneg_left ?_ hbase
      linarith

theorem unusedRatio_antitone (h : date ≤ date') :
    booking.unusedRatio date' ≤ booking.unusedRatio date := by
  have hnights : (0 : ℚ) < booking.totalNights := by exact_mod_cast booking.totalNights_pos
  have hnone : (0 : ℚ) ≤ (max (booking.checkOut - date') 0 : ℤ) := by
    exact_mod_cast le_max_right _ _
  have hleft : ((max (booking.checkOut - date') 0 : ℤ) : ℚ) ≤
      (max (booking.checkOut - date) 0 : ℤ) := by
    exact_mod_cast max_le_max_right 0 (by omega)
  apply toPrecision_mono (by norm_num)
  · positivity
  · gcongr

theorem midStayRefund_antitone (h : date ≤ date') :
    booking.midStayRefund policy date' ≤ booking.midStayRefund policy date := by
  have hpct := policy.midStayRefundRange.1
  have hbase := booking.base_nonneg
  have hratio : 0 ≤ booking.unusedRatio date' := unusedRatio_nonneg
  have hpart : toPrecision 28 (booking.base * booking.unusedRatio date') ≤
      toPrecision 28 (booking.base * booking.unusedRatio date) :=
    toPrecision_mono (by norm_num) (mul_nonneg hbase hratio)
      (mul_le_mul_of_nonneg_left (unusedRatio_antitone h) hbase)
  have hnonneg : 0 ≤ toPrecision 28 (booking.base * booking.unusedRatio date') :=
    toPrecision_nonneg (by norm_num) (mul_nonneg hbase hratio)
  apply toPrecision_mono (by norm_num)
  · positivity
  · gcongr

/-- On the day of the check-in every night is left, and nothing is rounded. -/
theorem midStayRefund_checkIn :
    booking.midStayRefund policy booking.checkIn =
      booking.base * (policy.midStayRefundPct / 100) := by
  have hleft : max (booking.checkOut - booking.checkIn) 0 = booking.totalNights :=
    max_eq_left booking.totalNights_pos.le
  have hnights : (booking.totalNights : ℚ) ≠ 0 := by
    exact_mod_cast booking.totalNights_pos.ne'
  have hratio : booking.unusedRatio booking.checkIn = 1 := by
    have hone : toPrecision 28 ((1 : ℕ) / 10 ^ 0) = ((1 : ℕ) : ℚ) / 10 ^ 0 :=
      toPrecision_decimal (by norm_num)
    rw [unusedRatio, hleft, div_self hnights]
    simpa using hone
  obtain ⟨steps, hsteps, hbound⟩ := policy.midStayRefundSteps
  have hproduct : booking.base * (policy.midStayRefundPct / 100) =
      ((booking.baseCents * steps : ℕ) : ℚ) / 10 ^ 6 := by
    rw [hsteps, base, gridValue]
    push_cast
    ring
  have hdigits : booking.baseCents * steps < 10 ^ 28 := by
    have hcents := booking.baseCents_lt
    have hle : booking.baseCents * steps ≤ 10 ^ 10 * 10 ^ 4 :=
      Nat.mul_le_mul hcents.le hbound
    omega
  rw [midStayRefund, hratio, mul_one, base, toPrecision_cents booking.baseCents_lt, ← base,
    hproduct, toPrecision_decimal hdigits]

/-- From the first night on the refund is at most the rate within the stay. -/
theorem midStayRefund_le (h : booking.checkIn ≤ date) :
    booking.midStayRefund policy date ≤ booking.base * (policy.midStayRefundPct / 100) := by
  exact (midStayRefund_antitone h).trans_eq midStayRefund_checkIn

theorem refund_of_checkedIn (h : booking.status = .checkedIn) :
    policy.refund (booking.arguments date) =
      quantizeCents (booking.midStayRefund policy date) := by
  rw [refund_eq, arguments_phase, if_pos (.inl h)]

/-- The three stretches of a booking that is not checked in. -/
theorem refund_of_not_checkedIn (h : booking.status ≠ .checkedIn) :
    policy.refund (booking.arguments date) =
      if date < booking.checkIn then
        quantizeCents (booking.base * (policy.preCheckinPct (booking.checkIn - date) / 100))
      else if date < booking.checkOut then
        quantizeCents (booking.midStayRefund policy date)
      else 0 := by
  rw [refund_eq, arguments_phase]
  simp only [h, false_or]
  by_cases hbefore : date < booking.checkIn
  · have hnot : ¬ booking.checkIn ≤ date := by omega
    simp [hbefore, hnot]
  · have harrived : booking.checkIn ≤ date := by omega
    by_cases hwithin : date < booking.checkOut <;> simp [hbefore, harrived, hwithin]

theorem refund_antitone (hfall : booking.status = .checkedIn ∨ booking.RatesFall policy)
    (h : date ≤ date') :
    policy.refund (booking.arguments date') ≤ policy.refund (booking.arguments date) := by
  have hbase := booking.base_nonneg
  have hwithin : quantizeCents (booking.midStayRefund policy date') ≤
      quantizeCents (booking.midStayRefund policy date) :=
    quantizeCents_mono (midStayRefund_antitone h)
  by_cases hstatus : booking.status = .checkedIn
  · rw [refund_of_checkedIn hstatus, refund_of_checkedIn hstatus]
    exact hwithin
  · have hrates := ratesFall_iff.mp (hfall.resolve_left hstatus)
    have hnonneg : 0 ≤ policy.refund (booking.arguments date) := refund_nonneg
    rw [refund_of_not_checkedIn hstatus] at hnonneg ⊢
    rw [refund_of_not_checkedIn hstatus]
    by_cases hlate : date' < booking.checkIn
    · have hearly : date < booking.checkIn := by omega
      rw [if_pos hlate, if_pos hearly]
      refine quantizeCents_mono (mul_le_mul_of_nonneg_left ?_ hbase)
      have hpct := policy.preCheckinPct_mono
        (show booking.checkIn - date' ≤ booking.checkIn - date by omega)
      linarith
    · rw [if_neg hlate]
      by_cases hover : date' < booking.checkOut
      · rw [if_pos hover]
        by_cases hearly : date < booking.checkIn
        · -- the boundary: the best of the stay against the worst before it
          rw [if_pos hearly]
          have hpct := policy.preCheckinPct_mono
            (show 1 ≤ booking.checkIn - date by omega)
          calc quantizeCents (booking.midStayRefund policy date')
              ≤ quantizeCents (booking.base * (policy.midStayRefundPct / 100)) :=
                quantizeCents_mono (midStayRefund_le (by omega))
            _ ≤ quantizeCents (booking.base * (policy.preCheckinPct 1 / 100)) := hrates
            _ ≤ quantizeCents
                  (booking.base * (policy.preCheckinPct (booking.checkIn - date) / 100)) :=
                quantizeCents_mono (mul_le_mul_of_nonneg_left (by linarith) hbase)
        · have hbetween : date < booking.checkOut := by omega
          rw [if_neg hearly, if_pos hbetween]
          exact hwithin
      · rw [if_neg hover]
        exact hnonneg

/-- Cancelling later never refunds more exactly where the rates fall at the check-in day, or
there is nothing to cancel, or the guest is checked in. -/
theorem cancellation_refund_monotone (booking : QuotedBooking) (policy : CancellationPolicy)
    (legacy : LegacyPolicy) :
    (∀ date date' : ℤ, date ≤ date' →
        (booking.cancellationQuote (some policy) legacy date').refund ≤
          (booking.cancellationQuote (some policy) legacy date).refund) ↔
      booking.status.isCancellable = false ∨ booking.status = .checkedIn ∨
        booking.RatesFall policy := by
  by_cases hstatus : booking.status.isCancellable = true
  · have hquote : ∀ date, (booking.cancellationQuote (some policy) legacy date).refund =
        policy.refund (booking.arguments date) := by
      intro date
      simp [cancellationQuote, hstatus, CancellationPolicy.calculateQuote]
    simp only [hquote, hstatus, Bool.true_eq_false, false_or]
    constructor
    · intro h
      by_cases hchecked : booking.status = .checkedIn
      · exact .inl hchecked
      · refine .inr (ratesFall_iff.mpr ?_)
        have hlast := h (booking.checkIn - 1) booking.checkIn (by omega)
        rw [refund_of_not_checkedIn hchecked, refund_of_not_checkedIn hchecked,
          if_neg (lt_irrefl _), if_pos booking.validDates, if_pos (by omega),
          midStayRefund_checkIn, sub_sub_cancel] at hlast
        exact hlast
    · intro h date date' hle
      exact refund_antitone h hle
  · have hquote : ∀ date, booking.cancellationQuote (some policy) legacy date = {} := by
      intro date
      simp [cancellationQuote, hstatus]
    simp only [hquote, hstatus, le_refl, implies_true, true_or]

/-- The strict policy as the system seeds it refunds nothing five days before, and half on
the day itself. -/
theorem later_refunds_more :
    let booking : QuotedBooking :=
      { status := .confirmed, totalCents := 20000, paidCents := 20000
        paymentTiming := some "pay_now", checkIn := 10, checkOut := 12, numNights := 2 }
    let policy : CancellationPolicy :=
      { name := "STRICT", preCheckinDays := 7, preCheckinRefundPct := 50, midStayRefundPct := 50 }
    let quote := booking.cancellationQuote (some policy) ⟨5, none, "strict"⟩
    (quote 5).refund = 0 ∧ (quote 10).refund = 100 := by
  decide +kernel

end QuotedBooking

/-! ## Four tables of tiers -/

section Tiers

variable {name : String} {days : ℤ} {amount : ℚ} {cents : ℕ} {policy : CancellationPolicy}

/-- The percentage of `_apply_policy_tiers` and of a property's booking policy. -/
def tiersPct (name : String) (days : ℤ) : ℚ :=
  if name = "flexible" then if 1 ≤ days then 100 else 0
  else if name = "moderate" then if 5 ≤ days then 100 else if 1 ≤ days then 50 else 0
  else if name = "strict" then if 7 ≤ days then 50 else 0
  else if name = "super_strict" then if 30 ≤ days then 50 else if 14 ≤ days then 25 else 0
  else 0

theorem getCancellationRefund_eq :
    getCancellationRefund name days amount = amount * (tiersPct name days / 100) := by
  unfold getCancellationRefund tiersPct
  split_ifs <;> ring

theorem applyPolicyTiers_eq (h : 0 ≤ amount) :
    applyPolicyTiers name amount days = amount * (tiersPct name days / 100) := by
  obtain rfl | hpos := h.eq_or_lt
  · simp [applyPolicyTiers]
  · rw [← getCancellationRefund_eq, applyPolicyTiers, if_neg (not_le.mpr hpos)]
    rfl

theorem calculateRefund_eq :
    (calculateRefund name amount days).refundAmount =
      if name = "super_strict" then 0 else amount * (tiersPct name days / 100) := by
  by_cases hstrict : name = "super_strict"
  · simp [calculateRefund, hstrict]
  · rw [if_neg hstrict, ← getCancellationRefund_eq, calculateRefund, getCancellationRefund]
    simp only [hstrict, ↓reduceIte]
    split_ifs <;> rfl

/-- A policy row stands for the host's policy of its name with the same tiers. -/
theorem preCheckinPct_policyAlias (days : ℤ) (hname : policy.name = policyAlias name)
    (h : name ∈ ["flexible", "moderate", "strict", "super_strict"]) :
    policy.preCheckinPct days = tiersPct name days := by
  simp only [List.mem_cons, List.not_mem_nil, or_false] at h
  obtain rfl | rfl | rfl | rfl := h
  · have hrow : policy.name = "FLEX" := hname.trans (by decide +kernel)
    simp [CancellationPolicy.preCheckinPct, hrow, tiersPct]
  · have hrow : policy.name = "MOD" := hname.trans (by decide +kernel)
    simp [CancellationPolicy.preCheckinPct, hrow, tiersPct]
  · have hrow : policy.name = "STRICT" := hname.trans (by decide +kernel)
    simp [CancellationPolicy.preCheckinPct, hrow, tiersPct]
  · have hrow : policy.name = "SUPER" := hname.trans (by decide +kernel)
    simp [CancellationPolicy.preCheckinPct, hrow, tiersPct]

/-- A percentage of cents that comes to no cent. -/
theorem quantizeCents_pct_eq_zero {pct : ℚ} (hpct : 0 ≤ pct) :
    quantizeCents (gridValue 100 cents * (pct / 100)) = 0 ↔ (cents : ℚ) * pct ≤ 50 := by
  have hzero : (0 : ℚ) = gridValue 100 (0 : ℕ) := by simp [gridValue]
  have hnonneg : 0 ≤ quantizeCents (gridValue 100 cents * (pct / 100)) :=
    quantizeCents_nonneg (by unfold gridValue; positivity)
  have hvalue : gridValue 100 cents * (pct / 100) * 100 = cents * pct / 100 := by
    unfold gridValue
    push_cast
    ring
  have hle : quantizeCents (gridValue 100 cents * (pct / 100)) ≤ 0 ↔ (cents : ℚ) * pct ≤ 50 := by
    rw [hzero, ← roundsWithin_iff, RoundsWithin, hvalue]
    simp only [Nat.cast_zero, zero_add, Nat.zero_mod, and_true, ← le_iff_lt_or_eq]
    constructor <;> intro h <;> linarith
  rw [← hle]
  exact ⟨fun h => h.le, fun h => le_antisymm h hnonneg⟩

/-- A stay paid in full that is cancelled some days before it. -/
def stayPaidInFull (cents : ℕ) (timing : String) (checkIn checkOut days : ℤ) : QuoteArguments where
  totalAmount := gridValue 100 cents
  amountPaid := gridValue 100 cents
  paymentTiming := timing
  checkIn := checkIn
  checkOut := checkOut
  cancellationDate := checkIn - days

theorem refund_stayPaidInFull {timing : String} {checkIn checkOut : ℤ} (hdays : 1 ≤ days) :
    policy.refund (stayPaidInFull cents timing checkIn checkOut days) =
      quantizeCents (gridValue 100 cents * (policy.preCheckinPct days / 100)) := by
  have hbefore : ¬ checkIn ≤ checkIn - days := by omega
  have hphase : (stayPaidInFull cents timing checkIn checkOut days).phase = .preCheckin := by
    simp [QuoteArguments.phase, stayPaidInFull, hbefore]
  have hdaysUntil : (stayPaidInFull cents timing checkIn checkOut days).daysUntil = days := by
    simp only [QuoteArguments.daysUntil, stayPaidInFull]
    omega
  have hbase : (stayPaidInFull cents timing checkIn checkOut days).base = gridValue 100 cents := by
    simp only [QuoteArguments.base, stayPaidInFull, quantizeCents_gridValue, ite_self]
  simp only [CancellationPolicy.refund, hphase, hdaysUntil, hbase]

/-- The four tables refund the same exactly for the first three names, and for the others
where the percentage of the quote comes to no cent. -/
theorem refund_tables_agree (name : String) (policy : CancellationPolicy)
    (hname : policy.name = policyAlias name) (cents : ℕ) (timing : String)
    (checkIn checkOut days : ℤ) (hdays : 1 ≤ days) :
    (let amount := gridValue 100 cents
      let refund := quantizeCents
        (policy.calculateQuote (stayPaidInFull cents timing checkIn checkOut days)).refund
      refund = quantizeCents (applyPolicyTiers name amount days) ∧
        refund = quantizeCents (calculateRefund name amount days).refundAmount ∧
        refund = quantizeCents (getCancellationRefund name days amount)) ↔
      name ∈ ["flexible", "moderate", "strict"] ∨
        (cents : ℚ) * policy.preCheckinPct days ≤ 50 := by
  have hamount : (0 : ℚ) ≤ gridValue 100 cents := by
    unfold gridValue
    positivity
  have hpct := (policy.preCheckinPct_range days).1
  have hrefund : quantizeCents (policy.calculateQuote
      (stayPaidInFull cents timing checkIn checkOut days)).refund =
        quantizeCents (gridValue 100 cents * (policy.preCheckinPct days / 100)) := by
    have hsame : (policy.calculateQuote
        (stayPaidInFull cents timing checkIn checkOut days)).refund =
          policy.refund (stayPaidInFull cents timing checkIn checkOut days) := rfl
    rw [hsame, refund_stayPaidInFull hdays]
    exact quantizeCents_gridValue
  simp only [hrefund, applyPolicyTiers_eq hamount, getCancellationRefund_eq, calculateRefund_eq]
  by_cases hthree : name ∈ ["flexible", "moderate", "strict"]
  · have hsame := preCheckinPct_policyAlias days hname
      (List.mem_append_left ["super_strict"] hthree)
    have hstrict : name ≠ "super_strict" := by
      rintro rfl
      exact absurd hthree (by decide)
    simp [hthree, hsame, hstrict]
  · simp only [hthree, false_or]
    rw [← quantizeCents_pct_eq_zero hpct]
    by_cases hstrict : name = "super_strict"
    · have hsame := preCheckinPct_policyAlias days hname (by simp [hstrict])
      simp only [hstrict, ↓reduceIte, quantizeCents_zero] at hsame ⊢
      rw [hsame]
      tauto
    · have hnone : tiersPct name days = 0 := by
        simp only [List.mem_cons, List.not_mem_nil, or_false, not_or] at hthree
        simp [tiersPct, hthree, hstrict]
      simp [hstrict, hnone]

/-- Forty days before a strictest stay the quote gives half back, the pricing service nothing. -/
theorem pricing_service_refunds_nothing :
    let policy : CancellationPolicy := { name := policyAlias "super_strict" }
    (policy.calculateQuote (stayPaidInFull 20000 "pay_now" 100 102 40)).refund = 100 ∧
      (calculateRefund "super_strict" (gridValue 100 (20000 : ℕ)) 40).refundAmount = 0 := by
  decide +kernel

theorem refund_tables_agree_moderate :
    let amount := gridValue 100 (20000 : ℕ)
    let refund := quantizeCents (CancellationPolicy.calculateQuote { name := "MOD" }
      (stayPaidInFull 20000 "pay_now" 100 102 3)).refund
    refund = quantizeCents (applyPolicyTiers "moderate" amount 3) ∧
      refund = quantizeCents (calculateRefund "moderate" amount 3).refundAmount ∧
      refund = quantizeCents (getCancellationRefund "moderate" 3 amount) :=
  (refund_tables_agree "moderate" { name := "MOD" } (by decide +kernel) 20000 "pay_now" 100 102 3
    (by decide)).mpr (.inl (by decide))

end Tiers

end Afcon360.Accommodation
