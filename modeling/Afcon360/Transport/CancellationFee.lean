import Afcon360.Transport.Cancellation

/-!
# The fee of a scheduled cancellation

The fee is a percentage of the fare, rounded to cents, bounded by a cap and by the fare itself.
Before the last hour percentage and cap are zero, so one formula covers all tiers: the fee is
monotone because the formula is monotone in each of its arguments, and because the tiers
follow each other in time.
-/

namespace Afcon360.Transport

open Foundation

/-! ## Amounts in cents -/

/-- The amount is a whole number of cents. -/
def InCents (amount : ℚ) : Prop := ∃ cents : ℤ, amount = gridValue 100 cents

theorem inCents_bookingMoney (value : Option ℚ) : InCents (bookingMoney value) := by
  cases value with
  | none => exact ⟨0, by simp [bookingMoney, gridValue]⟩
  | some amount => exact ⟨_, rfl⟩

theorem inCents_zero : InCents 0 := ⟨0, by simp [gridValue]⟩

theorem InCents.min {a b : ℚ} (ha : InCents a) (hb : InCents b) : InCents (min a b) := by
  obtain h | h := min_choice a b
  · rwa [h]
  · rwa [h]

theorem InCents.max {a b : ℚ} (ha : InCents a) (hb : InCents b) : InCents (max a b) := by
  obtain h | h := max_choice a b
  · rwa [h]
  · rwa [h]

theorem InCents.sub {a b : ℚ} (ha : InCents a) (hb : InCents b) : InCents (a - b) := by
  obtain ⟨x, rfl⟩ := ha
  obtain ⟨y, rfl⟩ := hb
  refine ⟨x - y, ?_⟩
  simp [gridValue, sub_div]

theorem bookingMoney_of_inCents {amount : ℚ} (h : InCents amount) :
    bookingMoney (some amount) = amount := by
  obtain ⟨cents, rfl⟩ := h
  simp only [bookingMoney, roundHalfEven_gridValue (n := 100) (by norm_num)]

theorem bookingMoney_mono {a b : ℚ} (h : a ≤ b) :
    bookingMoney (some a) ≤ bookingMoney (some b) := by
  have hround : roundHalfEven 100 a ≤ roundHalfEven 100 b := roundHalfEven_mono 100 h
  have hcast : (roundHalfEven 100 a : ℚ) ≤ roundHalfEven 100 b := by exact_mod_cast hround
  simp only [bookingMoney, gridValue]
  gcongr

theorem bookingMoney_le {a b : ℚ} (h : a ≤ b) (hb : InCents b) : bookingMoney (some a) ≤ b := by
  rw [← bookingMoney_of_inCents hb]
  exact bookingMoney_mono h

theorem bookingMoney_nonneg {a : ℚ} (h : 0 ≤ a) : 0 ≤ bookingMoney (some a) := by
  rw [← bookingMoney_of_inCents inCents_zero]
  exact bookingMoney_mono h

/-! ## The formula -/

/-- A percentage of the fare, at most the cap and at most the fare. -/
def tierFee (percentage : ℕ) (cap fare : ℚ) : ℚ :=
  bookingMoney (some (min (min (bookingMoney (some (fare * percentage / 100))) cap) fare))

theorem tierFee_mono {percentage percentage' : ℕ} {cap cap' fare fare' : ℚ}
    (hpercentage : percentage ≤ percentage') (hcap : cap ≤ cap') (hnonneg : 0 ≤ fare)
    (hfare : fare ≤ fare') : tierFee percentage cap fare ≤ tierFee percentage' cap' fare' := by
  have hcast : (percentage : ℚ) ≤ percentage' := by exact_mod_cast hpercentage
  have hshare : fare * percentage / 100 ≤ fare' * percentage' / 100 := by
    have hnonneg' : 0 ≤ fare' := hnonneg.trans hfare
    gcongr
  exact bookingMoney_mono (min_le_min (min_le_min (bookingMoney_mono hshare) hcap) hfare)

theorem tierFee_nonneg {percentage : ℕ} {cap fare : ℚ} (hcap : 0 ≤ cap) (hfare : 0 ≤ fare) :
    0 ≤ tierFee percentage cap fare := by
  have hshare : 0 ≤ fare * percentage / 100 := by positivity
  exact bookingMoney_nonneg (le_min (le_min (bookingMoney_nonneg hshare) hcap) hfare)

theorem tierFee_le {percentage : ℕ} {cap fare : ℚ} (hcap : InCents cap) (hfare : InCents fare) :
    tierFee percentage cap fare ≤ min cap fare :=
  bookingMoney_le (min_le_min_right _ (min_le_right _ _)) (hcap.min hfare)

namespace BookingRecord

/-- The fare that the policy works with. -/
def fare (booking : BookingRecord) : ℚ := max 0 (bookingMoney booking.finalPrice)

/-- The `cap` that the policy returns with the fee. -/
def cancellationCap (booking : BookingRecord) (now : ℤ) : ℚ :=
  if ¬ booking.scheduled then 0
  else
    match booking.pickupTime with
    | none => 0
    | some pickup =>
      if 60 * minute < pickup - now then 0
      else if 15 * minute ≤ pickup - now then 10000
      else 20000

/-- `get_cancellation_policy`, asked at a time. -/
def getCancellationPolicy (booking : BookingRecord) (now : ℤ) : CancellationPolicy :=
  booking.cancellationPolicy now

theorem fare_nonneg (booking : BookingRecord) : 0 ≤ booking.fare := le_max_left _ _

theorem inCents_fare (booking : BookingRecord) : InCents booking.fare :=
  inCents_zero.max (inCents_bookingMoney _)

/-- Where nothing is charged, the formula with nothing in it says so. -/
theorem tierFee_zero (booking : BookingRecord) : tierFee 0 0 booking.fare = 0 := by
  have hle : tierFee 0 0 booking.fare ≤ min 0 booking.fare :=
    tierFee_le inCents_zero booking.inCents_fare
  have hnonneg : 0 ≤ tierFee 0 0 booking.fare := tierFee_nonneg le_rfl booking.fare_nonneg
  exact le_antisymm (hle.trans (min_le_left _ _)) hnonneg

/-- All tiers are one formula. -/
theorem fee_eq (booking : BookingRecord) (now : ℤ) :
    (booking.cancellationPolicy now).fee =
      tierFee (booking.cancellationPolicy now).percentage (booking.cancellationCap now)
        booking.fare := by
  unfold cancellationPolicy cancellationCap
  by_cases hscheduled : ¬ booking.scheduled
  · simp only [if_pos hscheduled, tierFee_zero]
  simp only [if_neg hscheduled]
  cases booking.pickupTime with
  | none => simp only [tierFee_zero]
  | some pickup =>
    dsimp only
    by_cases hearly : 60 * minute < pickup - now
    · simp only [if_pos hearly, tierFee_zero]
    simp only [if_neg hearly]
    by_cases hlate : 15 * minute ≤ pickup - now
    · simp only [if_pos hlate]
      rfl
    · simp only [if_neg hlate]
      rfl

theorem percentage_mono (booking : BookingRecord) {now later : ℤ} (h : now ≤ later) :
    (booking.cancellationPolicy now).percentage ≤
      (booking.cancellationPolicy later).percentage := by
  unfold cancellationPolicy
  split
  · simp
  cases booking.pickupTime with
  | none => simp
  | some pickup =>
    dsimp only
    split_ifs
    all_goals first
      | omega
      | exact Nat.zero_le _
      | exact le_rfl
      | exact (by decide : (20 : ℕ) ≤ 40)

theorem cancellationCap_mono (booking : BookingRecord) {now later : ℤ} (h : now ≤ later) :
    booking.cancellationCap now ≤ booking.cancellationCap later := by
  unfold cancellationCap
  split
  · simp
  cases booking.pickupTime with
  | none => simp
  | some pickup =>
    dsimp only
    split_ifs
    all_goals first
      | omega
      | norm_num

theorem inCents_cancellationCap (booking : BookingRecord) (now : ℤ) :
    InCents (booking.cancellationCap now) := by
  unfold cancellationCap
  split
  · exact inCents_zero
  split
  · exact inCents_zero
  split_ifs
  · exact inCents_zero
  · exact ⟨1000000, by norm_num [gridValue]⟩
  · exact ⟨2000000, by norm_num [gridValue]⟩

theorem cancellationCap_nonneg (booking : BookingRecord) (now : ℤ) :
    0 ≤ booking.cancellationCap now := by
  unfold cancellationCap
  split
  · exact le_rfl
  split
  · exact le_rfl
  split_ifs
  all_goals norm_num

/-- The fee stays between zero and both bounds. -/
theorem fee_bounded (booking : BookingRecord) (now : ℤ) :
    0 ≤ (booking.cancellationPolicy now).fee ∧
      (booking.cancellationPolicy now).fee ≤ min (booking.cancellationCap now) booking.fare := by
  rw [fee_eq]
  exact ⟨tierFee_nonneg (booking.cancellationCap_nonneg now) booking.fare_nonneg,
    tierFee_le (booking.inCents_cancellationCap now) booking.inCents_fare⟩

theorem fee_mono_time (booking : BookingRecord) {now later : ℤ} (h : now ≤ later) :
    (booking.cancellationPolicy now).fee ≤ (booking.cancellationPolicy later).fee := by
  rw [fee_eq, fee_eq]
  exact tierFee_mono (booking.percentage_mono h) (booking.cancellationCap_mono h)
    booking.fare_nonneg le_rfl

/-- The tier is a matter of the time alone. -/
theorem percentage_finalPrice (booking : BookingRecord) (price : Option ℚ) (now : ℤ) :
    ({ booking with finalPrice := price }.cancellationPolicy now).percentage =
      (booking.cancellationPolicy now).percentage := by
  unfold cancellationPolicy
  dsimp only
  change (if ¬ booking.scheduled then _ else _ : CancellationPolicy).percentage = _
  split
  · rfl
  cases booking.pickupTime with
  | none => rfl
  | some pickup =>
    dsimp only
    split_ifs
    all_goals rfl

theorem fee_mono_fare (booking : BookingRecord) {price price' : Option ℚ} (now : ℤ)
    (h : fare { booking with finalPrice := price } ≤ fare { booking with finalPrice := price' }) :
    ({ booking with finalPrice := price }.cancellationPolicy now).fee ≤
      ({ booking with finalPrice := price' }.cancellationPolicy now).fee := by
  rw [fee_eq, fee_eq, percentage_finalPrice, percentage_finalPrice booking price']
  exact tierFee_mono le_rfl le_rfl (fare_nonneg _) h

theorem inCents_fee (booking : BookingRecord) (now : ℤ) :
    InCents (booking.cancellationPolicy now).fee := by
  rw [fee_eq]
  exact inCents_bookingMoney _

end BookingRecord

namespace CancellationDesk

variable {desk after : CancellationDesk} {bookingId userId : ℕ} {booking : BookingRecord}
  {args : CancelArgs} {now : ℤ} {receipt : CancelReceipt}

/-! ## What a cancellation records -/

/-- The reason is one of those for which nothing is charged. -/
def Safety (args : CancelArgs) : Prop := (args.reasonCategory.getD "").toLower ∈ safetyCategories

instance (args : CancelArgs) : Decidable (Safety args) :=
  inferInstanceAs (Decidable ((args.reasonCategory.getD "").toLower ∈ safetyCategories))

/-- The row has what the cancellation wrote on it. -/
structure Records (row written : BookingRecord) : Prop where
  cancellation : row.cancellation = written.cancellation
  fact : row.cancellationFact = written.cancellationFact
  credits : row.driverCredits = written.driverCredits

theorem bookings_freeVehicle (desk : CancellationDesk) (bookingId : ℕ) (vehicle : Option ℕ) :
    (desk.freeVehicle bookingId vehicle).bookings = desk.bookings := by
  unfold freeVehicle
  split
  · rfl
  · split <;> rfl

/-- A release keeps what was written before it. -/
theorem records_release {terminal : BookingStatus} {row : BookingRecord}
    (hrow : desk.bookings[bookingId]? = some row)
    (h : desk.release bookingId terminal = .ok after) :
    ∃ row', after.bookings[bookingId]? = some row' ∧ Records row' row := by
  have hlt : bookingId < desk.bookings.length := (List.getElem?_eq_some_iff.mp hrow).1
  unfold release at h
  rw [hrow] at h
  split at h
  · cases h
  dsimp only at h
  split at h
  · split at h
    · cases h
      refine ⟨{ row with
        status := terminal, assignedDriverId := none, assignedVehicleId := none }, ?_,
        ⟨rfl, rfl, rfl⟩⟩
      simp only [cleanupOffer, bookings_freeVehicle, setBooking]
      exact List.getElem?_set_self hlt
    · cases h
  · split at h
    · cases h
    · cases h
      exact ⟨{ row with status := terminal }, List.getElem?_set_self hlt, ⟨rfl, rfl, rfl⟩⟩

/-- A cancellation that goes through has written and answered what it settled. -/
theorem cancelBooking_ok (hrow : desk.bookings[bookingId]? = some booking)
    (h : desk.cancelBooking bookingId userId args now = (.ok receipt, after)) :
    receipt = (desk.settle booking userId args now).2 ∧
      ∃ row, after.bookings[bookingId]? = some row ∧
        Records row (desk.settle booking userId args now).1 := by
  have hlt : bookingId < desk.bookings.length := (List.getElem?_eq_some_iff.mp hrow).1
  simp only [cancelBooking, hrow] at h
  split at h
  · cases h
  split at h
  · cases h
  split at h
  · cases h
  split at h
  · cases h
    exact ⟨rfl, _, List.getElem?_set_self hlt, ⟨rfl, rfl, rfl⟩⟩
  split at h
  · cases h
  · rename_i released hreleased
    cases h
    exact ⟨rfl, records_release (List.getElem?_set_self hlt) hreleased⟩

/-- What the caller is charged. -/
def charged (booking : BookingRecord) (userId : ℕ) (args : CancelArgs) (now : ℤ) : ℚ :=
  if Safety args ∨ booking.userId ≠ userId then 0 else (booking.getCancellationPolicy now).fee

theorem charged_cases (booking : BookingRecord) (userId : ℕ) (args : CancelArgs) (now : ℤ) :
    charged booking userId args now = 0 ∨
      charged booking userId args now = (booking.cancellationPolicy now).fee := by
  unfold charged
  split
  · exact .inl rfl
  · exact .inr rfl

theorem charged_bounded (booking : BookingRecord) (userId : ℕ) (args : CancelArgs) (now : ℤ) :
    0 ≤ charged booking userId args now ∧ charged booking userId args now ≤ booking.fare := by
  have hfee := booking.fee_bounded now
  obtain h | h := charged_cases booking userId args now
  · exact ⟨h.ge, h.le.trans booking.fare_nonneg⟩
  · exact ⟨h ▸ hfee.1, h ▸ hfee.2.trans (min_le_right _ _)⟩

theorem inCents_charged (booking : BookingRecord) (userId : ℕ) (args : CancelArgs) (now : ℤ) :
    InCents (charged booking userId args now) := by
  obtain h | h := charged_cases booking userId args now
  · exact h ▸ inCents_zero
  · exact h ▸ booking.inCents_fee now

/-- Four fifths of a fee, in cents, are between zero and the fee. -/
theorem credit_bounded {fee : ℚ} (hcents : InCents fee) (h : 0 ≤ fee) :
    0 ≤ bookingMoney (some (fee * (80 / 100))) ∧ bookingMoney (some (fee * (80 / 100))) ≤ fee :=
  ⟨bookingMoney_nonneg (by positivity), bookingMoney_le (by linarith) hcents⟩

/-- The fee and the refund as they are written and answered. -/
theorem settle_fee (desk : CancellationDesk) (booking : BookingRecord) (userId : ℕ)
    (args : CancelArgs) (now : ℤ) :
    ∃ fact columns, (desk.settle booking userId args now).1.cancellationFact = some fact ∧
      (desk.settle booking userId args now).1.cancellation = some columns ∧
      fact.fee = charged booking userId args now ∧
      columns.fee = charged booking userId args now ∧
      (desk.settle booking userId args now).2.cancellationFee =
        charged booking userId args now ∧
      fact.refundAmountEstimate = bookingMoney (some (max 0
        (bookingMoney booking.finalPrice - charged booking userId args now))) ∧
      (desk.settle booking userId args now).2.refundAmount = fact.refundAmountEstimate := by
  unfold settle charged BookingRecord.getCancellationPolicy Safety
  by_cases hsafety : (args.reasonCategory.getD "").toLower ∈ safetyCategories
  all_goals by_cases hrider : booking.userId = userId
  all_goals simp [hsafety, hrider]

/-- The credit goes to a driver, or to nobody. -/
theorem settle_driver (desk : CancellationDesk) (booking : BookingRecord) (userId : ℕ)
    (args : CancelArgs) (now : ℤ) :
    ∃ (driver : Option DriverRecord) (credit : ℚ),
      credit = bookingMoney (some (charged booking userId args now * (80 / 100))) ∧
      (desk.settle booking userId args now).2.driverCredit =
        (if driver.isSome then credit else 0) ∧
      (desk.settle booking userId args now).1.driverCredits =
        match driver with
        | none => booking.driverCredits
        | some driver => booking.appendDriverCredit driver credit
            (booking.cancellationPolicy now).currency "late_cancellation" now := by
  unfold settle charged BookingRecord.getCancellationPolicy Safety
  by_cases hsafety : (args.reasonCategory.getD "").toLower ∈ safetyCategories
  all_goals by_cases hrider : booking.userId = userId
  all_goals
    simp only [hsafety, hrider, not_true_eq_false, not_false_eq_true, decide_true, decide_false,
      ne_eq, or_true, or_false, if_true, if_false]
    exact ⟨_, _, rfl, rfl, rfl⟩

/-- An appended credit is the amount in cents. -/
theorem mem_appendDriverCredit (booking : BookingRecord) (driver : DriverRecord) (amount : ℚ)
    (currency reason : String) (now : ℤ) :
    ∃ credits, booking.appendDriverCredit driver amount currency reason now =
        booking.driverCredits ++ credits ∧
      ∀ credit ∈ credits, credit.amount = bookingMoney (some amount) := by
  unfold BookingRecord.appendDriverCredit
  dsimp only
  split
  · exact ⟨[], by simp, by simp⟩
  · exact ⟨_, rfl, by simp⟩

/-- The credit that is answered, and the one that is written, are between zero and the fee. -/
theorem settle_credit (desk : CancellationDesk) (booking : BookingRecord) (userId : ℕ)
    (args : CancelArgs) (now : ℤ) :
    0 ≤ (desk.settle booking userId args now).2.driverCredit ∧
    (desk.settle booking userId args now).2.driverCredit ≤ charged booking userId args now ∧
    ∃ credits, (desk.settle booking userId args now).1.driverCredits =
        booking.driverCredits ++ credits ∧
      ∀ credit ∈ credits, 0 ≤ credit.amount ∧
        credit.amount ≤ charged booking userId args now := by
  obtain ⟨driver, credit, hcredit, hanswer, hwritten⟩ := settle_driver desk booking userId args now
  have hcharged := charged_bounded booking userId args now
  have hbounds := credit_bounded (inCents_charged booking userId args now) hcharged.1
  rw [← hcredit] at hbounds
  have hcents : InCents credit := hcredit ▸ inCents_bookingMoney _
  cases driver with
  | none =>
    rw [hanswer, hwritten]
    exact ⟨le_rfl, hcharged.1, [], by simp, by simp⟩
  | some driver =>
    obtain ⟨credits, happended, hamount⟩ := mem_appendDriverCredit booking driver credit
      (booking.cancellationPolicy now).currency "late_cancellation" now
    rw [hanswer, hwritten]
    refine ⟨hbounds.1, hbounds.2, credits, happended, fun appended hmem => ?_⟩
    rw [hamount appended hmem, bookingMoney_of_inCents hcents]
    exact hbounds

/-- The refund is what the fee leaves of a price in cents. -/
theorem refund_add_charged {cents : ℤ} (hprice : booking.finalPrice = some (gridValue 100 cents))
    (hnonneg : 0 ≤ cents) (userId : ℕ) (args : CancelArgs) (now : ℤ) :
    bookingMoney (some (max 0 (bookingMoney booking.finalPrice -
      charged booking userId args now))) + charged booking userId args now =
        gridValue 100 cents := by
  have hmoney : bookingMoney booking.finalPrice = gridValue 100 cents := by
    rw [hprice]
    exact bookingMoney_of_inCents ⟨cents, rfl⟩
  have hfare : booking.fare = gridValue 100 cents := by
    rw [BookingRecord.fare, hmoney]
    exact max_eq_right ((gridValue_nonneg_iff (by norm_num)).2 hnonneg)
  have hle := (charged_bounded booking userId args now).2
  rw [hfare] at hle
  have hcents := InCents.sub ⟨cents, rfl⟩ (inCents_charged booking userId args now)
  rw [hmoney, max_eq_right (by linarith), bookingMoney_of_inCents hcents]
  linarith

/-- The fee of a scheduled cancellation is bounded and monotone, and a cancellation that goes
through charges what the preview says, unless it is not the rider's or has a safety reason;
it writes and answers a refund that makes up the price with it, and credits the driver with
a part of it. -/
theorem scheduled_cancellation_fee :
    (∀ (booking : BookingRecord) (now : ℤ), 0 ≤ (booking.cancellationPolicy now).fee ∧
      (booking.cancellationPolicy now).fee ≤
        min (booking.cancellationCap now) booking.fare) ∧
    (∀ (booking : BookingRecord) (now later : ℤ), now ≤ later →
      (booking.cancellationPolicy now).fee ≤ (booking.cancellationPolicy later).fee) ∧
    (∀ (booking : BookingRecord) (price price' : Option ℚ) (now : ℤ),
      BookingRecord.fare { booking with finalPrice := price } ≤
        BookingRecord.fare { booking with finalPrice := price' } →
      ({ booking with finalPrice := price }.cancellationPolicy now).fee ≤
        ({ booking with finalPrice := price' }.cancellationPolicy now).fee) ∧
    ∀ (desk after : CancellationDesk) (bookingId userId : ℕ) (args : CancelArgs) (now : ℤ)
      (booking : BookingRecord) (receipt : CancelReceipt),
      desk.bookings[bookingId]? = some booking →
      desk.cancelBooking bookingId userId args now = (.ok receipt, after) →
      ∃ row fact columns, after.bookings[bookingId]? = some row ∧
        row.cancellationFact = some fact ∧ row.cancellation = some columns ∧
        columns.fee = fact.fee ∧ receipt.cancellationFee = fact.fee ∧
        receipt.refundAmount = fact.refundAmountEstimate ∧
        (∀ cents : ℤ, booking.finalPrice = some (gridValue 100 cents) → 0 ≤ cents →
          fact.refundAmountEstimate + fact.fee = gridValue 100 cents) ∧
        0 ≤ receipt.driverCredit ∧ receipt.driverCredit ≤ fact.fee ∧
        (∃ credits, row.driverCredits = booking.driverCredits ++ credits ∧
          ∀ credit ∈ credits, 0 ≤ credit.amount ∧ credit.amount ≤ fact.fee) ∧
        (booking.userId ≠ userId ∨ Safety args → fact.fee = 0) ∧
        (booking.userId = userId → ¬ Safety args →
          fact.fee = (booking.getCancellationPolicy now).fee) := by
  refine ⟨fun booking now => booking.fee_bounded now, fun booking now later h =>
    booking.fee_mono_time h, fun booking price price' now h => booking.fee_mono_fare now h, ?_⟩
  intro desk after bookingId userId args now booking receipt hrow hcancel
  obtain ⟨rfl, row, hafter, hrecords⟩ := cancelBooking_ok hrow hcancel
  obtain ⟨fact, columns, hfact, hcolumns, hfee, hcolumnsFee, hanswer, hrefund, hrefund'⟩ :=
    settle_fee desk booking userId args now
  obtain ⟨hnonneg, hle, credits, happended, hamounts⟩ :=
    settle_credit desk booking userId args now
  refine ⟨row, fact, columns, hafter, hrecords.fact.trans hfact,
    hrecords.cancellation.trans hcolumns, hcolumnsFee.trans hfee.symm, hanswer.trans hfee.symm,
    hrefund', ?_, hnonneg, hfee ▸ hle, ⟨credits, hrecords.credits.trans happended, ?_⟩, ?_, ?_⟩
  · intro cents hprice hcents
    rw [hrefund, hfee]
    exact refund_add_charged hprice hcents userId args now
  · rw [hfee]
    exact hamounts
  · intro hfree
    rw [hfee]
    exact if_pos hfree.symm
  · intro hrider hsafety
    rw [hfee]
    exact if_neg fun h => h.elim hsafety fun hne => hne hrider

/-- A ride for 100.00, two hours after the epoch. -/
def plannedRide : BookingRecord :=
  { status := .confirmed, bookingReference := "AFC-2", userId := 7,
    providerType := .individualDriver, bookingMode := "scheduled",
    pickupTime := some (120 * minute), finalPrice := some 100 }

def plannedDesk : CancellationDesk := ⟨[plannedRide], [], [], noOffers⟩

/-- Cancelled ten minutes before its pickup, it costs at least what it costs half an hour
before, at most what a dearer one costs, and fee and refund make up its price. -/
theorem plannedRide_fee :
    (plannedRide.cancellationPolicy (90 * minute)).fee ≤
      (plannedRide.cancellationPolicy (110 * minute)).fee ∧
    (plannedRide.cancellationPolicy (110 * minute)).fee ≤
      ({ plannedRide with finalPrice := some 200 }.cancellationPolicy (110 * minute)).fee ∧
    ∃ row fact, (plannedDesk.cancelBooking 0 7 {} (110 * minute)).2.bookings[0]? = some row ∧
      row.cancellationFact = some fact ∧
      fact.refundAmountEstimate + fact.fee = gridValue 100 10000 ∧
      fact.fee = (plannedRide.getCancellationPolicy (110 * minute)).fee := by
  obtain ⟨-, htime, hfare, hcancel⟩ := scheduled_cancellation_fee
  obtain ⟨row, fact, -, hrow, hfact, -, -, -, -, hrefund, -, -, -, -, hcharged⟩ :=
    hcancel plannedDesk _ 0 7 {} (110 * minute) plannedRide
      (plannedDesk.settle plannedRide 7 {} (110 * minute)).2 rfl rfl
  refine ⟨htime plannedRide _ _ (by decide),
    hfare plannedRide (some 100) (some 200) (110 * minute) (by decide +kernel),
    row, fact, hrow, hfact, hrefund 10000 (by decide +kernel) (by decide),
    hcharged rfl (by decide +kernel)⟩

end CancellationDesk

end Afcon360.Transport
