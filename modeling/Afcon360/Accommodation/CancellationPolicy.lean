import Afcon360.Accommodation.BookingState
import Afcon360.Foundation.Precision

/-!
# Cancellation quotes

`calculate_quote` of a policy row, `get_cancellation_quote` of a booking with the legacy
quote it falls back to, and the three other tables of tiers. Dates are day numbers, amounts
are rationals rounded where the source quantizes, which is to the even cent. The quotients, and
the products that follow them, keep 28 digits; a product of two columns fits them.

A policy carries the check constraints of its table and a booking those of its dates, both with
the bounds of the columns the quote reads.
-/

namespace Afcon360.Accommodation

open Foundation

/-- `_q`. -/
def quantizeCents (value : ℚ) : ℚ := gridValue 100 (roundHalfEven 100 value)

/-- The text of an amount with two decimals. -/
def centsText (value : ℚ) : String :=
  let steps := roundHalfEven 100 value
  let rest := steps.natAbs % 100
  (if steps < 0 then "-" else "") ++ toString (steps.natAbs / 100) ++ "." ++
    (if rest < 10 then "0" else "") ++ toString rest

/-- A row of `accommodation_cancellation_policies`. -/
structure CancellationPolicy where
  name : String
  preCheckinDays : ℕ := 1
  preCheckinRefundPct : ℚ := 100
  midStayRefundPct : ℚ := 100
  noShowPenalty : ℚ := 0
  preCheckinRefundRange : 0 ≤ preCheckinRefundPct ∧ preCheckinRefundPct ≤ 100 := by norm_num
  midStayRefundRange : 0 ≤ midStayRefundPct ∧ midStayRefundPct ≤ 100 := by norm_num
  midStayRefundDecimals : (midStayRefundPct * 100).den = 1 := by norm_num
  noShowPenaltyPositive : 0 ≤ noShowPenalty := by norm_num

inductive CancellationPhase
  | none | preCheckin | midStay | noShow
  deriving DecidableEq, Repr

structure CancellationQuote where
  allowed : Bool := false
  message : String := "Cannot cancel at this stage"
  phase : CancellationPhase := .none
  policy : Option String := none
  refundableBase : ℚ := 0
  refund : ℚ := 0
  fine : ℚ := 0
  nightsRemaining : ℤ := 0
  daysUntilCheckin : ℤ := 0
  deriving DecidableEq, Repr

/-- The dates and amounts `calculate_quote` is called with. -/
structure QuoteArguments where
  totalAmount : ℚ
  amountPaid : ℚ
  paymentTiming : String
  checkIn : ℤ
  checkOut : ℤ
  cancellationDate : ℤ
  isCheckedIn : Bool := false
  nightsRemaining : Option ℤ := none

namespace QuoteArguments

/-- The phase the date falls in. -/
def phase (stay : QuoteArguments) : CancellationPhase :=
  if stay.isCheckedIn ∨ stay.checkIn ≤ stay.cancellationDate ∧
      stay.cancellationDate < stay.checkOut then .midStay
  else if stay.checkIn ≤ stay.cancellationDate then .noShow
  else .preCheckin

def daysUntil (stay : QuoteArguments) : ℤ := max (stay.checkIn - stay.cancellationDate) 0

def totalNights (stay : QuoteArguments) : ℤ := stay.checkOut - stay.checkIn

/-- The nights left as the mid-stay phase counts them. -/
def nightsLeft (stay : QuoteArguments) : ℤ :=
  stay.nightsRemaining.getD (stay.checkOut - stay.cancellationDate)

/-- The amount the policy is applied to. -/
def base (stay : QuoteArguments) : ℚ :=
  if stay.paymentTiming = "pay_now" then quantizeCents stay.amountPaid
  else if stay.paymentTiming = "deposit" then quantizeCents stay.amountPaid
  else quantizeCents stay.totalAmount

end QuoteArguments

namespace CancellationPolicy

/-- The percentage refunded so many days before the stay. The graduated names have their own
tiers; the two sides of the free cancellation window read the same column. -/
def preCheckinPct (policy : CancellationPolicy) (days : ℤ) : ℚ :=
  if policy.name = "MOD" then if 5 ≤ days then 100 else if 1 ≤ days then 50 else 0
  else if policy.name = "STRICT" then if 7 ≤ days then 50 else 0
  else if policy.name = "SUPER" then if 30 ≤ days then 50 else if 14 ≤ days then 25 else 0
  else if policy.name = "NOSHOW" then 0
  else if policy.name = "FLEX" then if 1 ≤ days then 100 else 0
  else if policy.preCheckinDays ≤ days then policy.preCheckinRefundPct
  else policy.preCheckinRefundPct

/-- The part of the base that is refunded in the middle of a stay, before it is quantized. -/
def midStayRefund (policy : CancellationPolicy) (stay : QuoteArguments) : ℚ :=
  if 0 < stay.totalNights ∧ 0 < stay.nightsLeft then
    let unusedRatio := toPrecision 28 (stay.nightsLeft / stay.totalNights)
    toPrecision 28 (toPrecision 28 (stay.base * unusedRatio) * (policy.midStayRefundPct / 100))
  else 0

/-- The penalty of a guest who never came. -/
def noShowFine (policy : CancellationPolicy) (stay : QuoteArguments) : ℚ :=
  if 1 ≤ policy.noShowPenalty then
    if policy.noShowPenalty = 1 then
      let total := quantizeCents stay.totalAmount
      quantizeCents
        (if 0 < stay.totalNights then toPrecision 28 (total / stay.totalNights) else total)
    else quantizeCents policy.noShowPenalty
  else quantizeCents (stay.base * (policy.noShowPenalty / 100))

def refund (policy : CancellationPolicy) (stay : QuoteArguments) : ℚ :=
  match stay.phase with
  | .preCheckin => quantizeCents (stay.base * (policy.preCheckinPct stay.daysUntil / 100))
  | .midStay => quantizeCents (policy.midStayRefund stay)
  | _ => 0

def fine (policy : CancellationPolicy) (stay : QuoteArguments) : ℚ :=
  if stay.phase = .noShow then policy.noShowFine stay
  else quantizeCents (stay.base - policy.refund stay)

/-- What the quote says to the guest. -/
def message (policy : CancellationPolicy) (stay : QuoteArguments) : String :=
  let refund := policy.refund stay
  let fine := policy.fine stay
  (if refund ≤ 0 ∧ fine ≤ 0 then "No refund under '" ++ policy.name ++ "' policy"
    else if stay.base ≤ refund then
      "Full refund (" ++ centsText refund ++ ") under '" ++ policy.name ++ "' policy"
    else if stay.phase = .noShow then "No-show penalty: " ++ centsText fine ++ " charged"
    else "Partial refund of " ++ centsText refund ++ " under '" ++ policy.name ++
      "' policy (fine " ++ centsText fine ++ ")") ++
  if stay.paymentTiming = "pay_on_arrival" ∧ 0 < fine then " (debt created for penalty)" else ""

/-- `calculate_quote`. -/
def calculateQuote (policy : CancellationPolicy) (stay : QuoteArguments) : CancellationQuote where
  allowed := true
  message := policy.message stay
  phase := stay.phase
  policy := some policy.name
  refundableBase := stay.base
  refund := policy.refund stay
  fine := policy.fine stay
  nightsRemaining := if stay.phase = .midStay then max stay.nightsLeft 0 else 0
  daysUntilCheckin := if stay.phase = .preCheckin then stay.daysUntil else 0

end CancellationPolicy

/-! ## The other tables of tiers -/

/-- `_apply_policy_tiers`. -/
def applyPolicyTiers (policyName : String) (base : ℚ) (daysRemaining : ℤ) : ℚ :=
  if base ≤ 0 then 0
  else if policyName = "flexible" then if 1 ≤ daysRemaining then base else 0
  else if policyName = "moderate" then
    if 5 ≤ daysRemaining then base else if 1 ≤ daysRemaining then base * (1 / 2) else 0
  else if policyName = "strict" then if 7 ≤ daysRemaining then base * (1 / 2) else 0
  else if policyName = "super_strict" then
    if 30 ≤ daysRemaining then base * (1 / 2)
    else if 14 ≤ daysRemaining then base * (1 / 4) else 0
  else 0

/-- `get_cancellation_refund` of a property's booking policy. -/
def getCancellationRefund (cancellationPolicy : String) (daysUntilCheckin : ℤ) (totalAmount : ℚ) :
    ℚ :=
  if cancellationPolicy = "flexible" then if 1 ≤ daysUntilCheckin then totalAmount else 0
  else if cancellationPolicy = "moderate" then
    if 5 ≤ daysUntilCheckin then totalAmount
    else if 1 ≤ daysUntilCheckin then totalAmount * (1 / 2) else 0
  else if cancellationPolicy = "strict" then
    if 7 ≤ daysUntilCheckin then totalAmount * (1 / 2) else 0
  else if cancellationPolicy = "super_strict" then
    if 30 ≤ daysUntilCheckin then totalAmount * (1 / 2)
    else if 14 ≤ daysUntilCheckin then totalAmount * (1 / 4) else 0
  else 0

structure RefundExplanation where
  refundAmount : ℚ
  policy : String
  explanation : String
  deriving DecidableEq, Repr

/-- `PricingService.calculate_refund` of a booking whose property has the policy. -/
def calculateRefund (policy : String) (totalAmount : ℚ) (daysUntilCheckin : ℤ) :
    RefundExplanation :=
  if policy = "flexible" then
    if 1 ≤ daysUntilCheckin then
      ⟨totalAmount, "flexible", "Full refund (cancelled at least 24h before check-in)"⟩
    else ⟨0, "flexible", "No refund (cancelled within 24h of check-in)"⟩
  else if policy = "moderate" then
    if 5 ≤ daysUntilCheckin then
      ⟨totalAmount, "moderate", "Full refund (cancelled at least 5 days before check-in)"⟩
    else if 1 ≤ daysUntilCheckin then
      ⟨totalAmount * (1 / 2), "moderate", "50% refund (cancelled 1-4 days before check-in)"⟩
    else ⟨0, "moderate", "No refund (cancelled within 24h of check-in)"⟩
  else if policy = "strict" then
    if 7 ≤ daysUntilCheckin then
      ⟨totalAmount * (1 / 2), "strict",
        "50% refund (cancelled at least 7 days before check-in)"⟩
    else ⟨0, "strict", "No refund (cancelled within 7 days of check-in)"⟩
  else ⟨0, "super_strict", "Non-refundable booking"⟩

/-- The name under which a policy row stands for a host's policy. -/
def policyAlias (name : String) : String :=
  if name.toLower = "flexible" then "FLEX"
  else if name.toLower = "moderate" then "MOD"
  else if name.toLower = "strict" then "STRICT"
  else if name.toLower = "super_strict" then "SUPER"
  else if name.toLower = "no_show" then "NOSHOW"
  else if name.toLower = "no_show_penalty" then "NOSHOW"
  else name

/-! ## The quote of a booking -/

/-- The columns of a booking that its quote reads; the amounts are the cents of
`Numeric(10, 2)`. -/
structure QuotedBooking where
  status : BookingStatus
  totalCents : ℕ
  paidCents : ℕ
  paymentTiming : Option String
  checkIn : ℤ
  checkOut : ℤ
  numNights : ℕ
  validDates : checkIn < checkOut := by decide
  totalBound : totalCents < 10 ^ 10 := by decide
  paidBound : paidCents < 10 ^ 10 := by decide

/-- What the legacy quote finds: the property's booking policy row and the policy's name. -/
structure LegacyPolicy where
  today : ℤ
  propertyPolicy : Option String
  policyName : String

namespace QuotedBooking

variable (booking : QuotedBooking)

def totalAmount : ℚ := gridValue 100 booking.totalCents

def amountPaid : ℚ := gridValue 100 booking.paidCents

/-- `payment_timing or "pay_now"`. -/
def timing : String := (booking.paymentTiming.filter fun text => text ≠ "").getD "pay_now"

/-- The call of `calculate_quote`. Outside the stay it passes no nights at all. -/
def arguments (date : ℤ) : QuoteArguments :=
  let stay : QuoteArguments := {
    totalAmount := booking.totalAmount
    amountPaid := booking.amountPaid
    paymentTiming := booking.timing
    checkIn := booking.checkIn
    checkOut := booking.checkOut
    cancellationDate := date
    isCheckedIn := booking.status = .checkedIn }
  { stay with
    nightsRemaining :=
      some (if stay.phase = .midStay then max (booking.checkOut - date) 0 else 0) }

/-- `_get_legacy_cancellation_quote`. -/
def legacyQuote (legacy : LegacyPolicy) : CancellationQuote :=
  let total := booking.totalAmount
  if booking.status = .checkedIn then
    let nights := booking.checkOut - legacy.today
    let start : CancellationQuote :=
      { allowed := true, phase := .midStay, policy := some legacy.policyName
        nightsRemaining := max nights 0 }
    if nights ≤ 0 then { start with message := "No refund — stay already completed" }
    else
      let base := min (toPrecision 28 (toPrecision 28 (total * nights) / max booking.numNights 1))
        total
      let refund :=
        if legacy.policyName = "flexible" ∨ legacy.policyName = "moderate" then base
        else if legacy.policyName = "strict" then toPrecision 28 (base * (1 / 2))
        else if legacy.policyName = "super_strict" then toPrecision 28 (base * (1 / 4))
        else 0
      let fine := toPrecision 28 (base - refund)
      { start with
        refundableBase := quantizeCents base
        refund := quantizeCents refund
        fine := quantizeCents fine
        message := "Mid-stay cancellation under '" ++ legacy.policyName ++ "' policy: " ++
          centsText refund ++ " refunded on " ++ centsText base ++ " remaining, fine " ++
          centsText fine }
  else
    let days := booking.checkIn - legacy.today
    let refund := match legacy.propertyPolicy with
      | some name => getCancellationRefund name days total
      | none => applyPolicyTiers legacy.policyName total days
    { allowed := true
      phase := .preCheckin
      policy := some legacy.policyName
      refundableBase := quantizeCents total
      refund := quantizeCents refund
      fine := quantizeCents (total - refund)
      daysUntilCheckin := days
      message :=
        if quantizeCents refund ≤ 0 then "No refund under '" ++ legacy.policyName ++ "' policy"
        else if quantizeCents total ≤ quantizeCents refund then "Full refund"
        else "Partial refund of " ++ centsText refund ++ " under '" ++ legacy.policyName ++
          "' policy (fine " ++ centsText (total - refund) ++ ")" }

/-- `get_cancellation_quote`; a policy always allows, so who asks makes no difference. -/
def cancellationQuote (policy : Option CancellationPolicy) (legacy : LegacyPolicy) (date : ℤ) :
    CancellationQuote :=
  if booking.status.isCancellable = false then {}
  else
    match policy with
    | none => booking.legacyQuote legacy
    | some policy => policy.calculateQuote (booking.arguments date)

end QuotedBooking

/-! ## Cents -/

section Cents

variable {value other : ℚ} {steps : ℤ}

theorem quantizeCents_gridValue : quantizeCents (gridValue 100 steps) = gridValue 100 steps := by
  rw [quantizeCents, roundHalfEven_gridValue (by decide)]

theorem quantizeCents_mono (h : value ≤ other) : quantizeCents value ≤ quantizeCents other := by
  have hsteps := roundHalfEven_mono 100 h
  unfold quantizeCents gridValue
  gcongr

theorem quantizeCents_le_iff :
    quantizeCents value ≤ gridValue 100 steps ↔ roundHalfEven 100 value ≤ steps := by
  unfold quantizeCents gridValue
  rw [div_le_div_iff_of_pos_right (by norm_num), Int.cast_le]

@[simp] theorem quantizeCents_zero : quantizeCents 0 = 0 := by
  rw [quantizeCents, show (0 : ℚ) = gridValue 100 0 by simp [gridValue],
    roundHalfEven_gridValue (by decide)]

theorem quantizeCents_nonneg (h : 0 ≤ value) : 0 ≤ quantizeCents value := by
  rw [← quantizeCents_zero]
  exact quantizeCents_mono h

/-- What is taken from cents in cents leaves cents. -/
theorem quantizeCents_sub_quantizeCents :
    quantizeCents (gridValue 100 steps - quantizeCents value) =
      gridValue 100 steps - quantizeCents value := by
  have hgrid : gridValue 100 steps - quantizeCents value =
      gridValue 100 (steps - roundHalfEven 100 value) := by
    unfold quantizeCents gridValue
    push_cast
    ring
  rw [hgrid, quantizeCents_gridValue]

end Cents

end Afcon360.Accommodation
