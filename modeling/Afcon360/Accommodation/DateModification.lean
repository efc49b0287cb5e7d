import Afcon360.Accommodation.Inventory
import Afcon360.Accommodation.Pricing
import Afcon360.Accommodation.RefundDesk
import Afcon360.Foundation.Run

/-!
# Changing the dates of a booking

`modify_booking_dates` prices the new stay from the columns of the booking: its nights at the
stored rate and the stored fees as they are. So the total depends on the dates alone, whatever
the way to them. But the fees were percentages of the old stay, and what is due is counted from
the old total and not from what was paid. The theorem says after which calls the booking is as
if it were new.
-/

namespace Afcon360.Accommodation

open Foundation

/-- What `calculate_modification_price` returns. -/
structure ModificationPrice where
  nights : ℤ
  newSubtotal : ℚ
  newTotal : ℚ
  oldTotal : ℚ
  deltaAmount : ℚ
  refundAmount : ℚ
  amountOwed : ℚ
  oldAmountPaid : ℚ
  deriving DecidableEq, Repr

/-- `calculate_modification_price`. -/
def calculateModificationPrice (booking : PricedBooking) (checkIn checkOut : ℤ) :
    Except String ModificationPrice :=
  let nights := checkOut - checkIn
  if nights < 0 then .error "Check-out must be after check-in"
  else
    let newSubtotal := money (money booking.nightlyRate * nights)
    let newTotal := money (newSubtotal + money booking.cleaningFee + money booking.serviceFee +
      money booking.taxes)
    let oldTotal := money booking.totalAmount
    let delta := money (newTotal - oldTotal)
    .ok {
      nights, newSubtotal, newTotal, oldTotal
      deltaAmount := delta
      refundAmount := if delta < 0 then money (-delta) else 0
      amountOwed := if 0 < delta then money delta else 0
      oldAmountPaid := money booking.amountPaid }

/-- A call of `modify_booking_dates`, with what it finds besides the booking's own dates and
prices. -/
structure ModifyCall where
  newCheckIn : Option ℤ := none
  newCheckOut : Option ℤ := none
  authorised : Bool := true
  isDeleted : Bool := false
  status : BookingStatus := .confirmed
  /-- The property's calendar day, if its time zone is valid. -/
  today : Option ℤ
  minStayNights : Option ℤ := none
  maxStayNights : Option ℤ := none
  unavailable : Option String := none
  /-- The transaction ends in an exception. -/
  fails : Bool := false

namespace ModifyCall

variable (call : ModifyCall) (booking : PricedBooking)

def targetCheckIn : ℤ := call.newCheckIn.getD booking.checkIn

def targetCheckOut : ℤ := call.newCheckOut.getD booking.checkOut

def targetNights : ℤ := call.targetCheckOut booking - call.targetCheckIn booking

/-- The checks before the price. -/
def check : Except String Unit := do
  require (call.isDeleted = false) "Booking is deleted and cannot be modified"
  require call.authorised "You are not authorised to modify this booking's dates"
  require call.status.isStaying call.status.notModifiable
  require (¬ (call.targetCheckIn booking = booking.checkIn ∧
      call.targetCheckOut booking = booking.checkOut))
    "No date changes provided — new dates match the current booking"
  match call.today with
  | none => .error "This property needs a valid IANA timezone before booking dates can be changed."
  | some today => do
      require (today ≤ call.targetCheckIn booking)
        "New check-in date cannot be in the past at the property"
      require (today < call.targetCheckOut booking)
        "New check-out date must be in the future at the property"
      require (call.targetCheckIn booking < call.targetCheckOut booking)
        "Check-out must be after check-in"
      require (∀ nights ∈ call.minStayNights, nights = 0 ∨ nights ≤ call.targetNights booking)
        (shortStay (call.targetNights booking) (call.minStayNights.getD 0))
      require (∀ nights ∈ call.maxStayNights, nights = 0 ∨ call.targetNights booking ≤ nights)
        (longStay (call.targetNights booking) (call.maxStayNights.getD 0))
      match call.unavailable with
      | some reason => .error ("New dates are not available: " ++ reason)
      | none => .ok ()

/-- `modify_booking_dates`: the booking after a call that succeeds. -/
def modifyBookingDates : Except String PricedBooking := do
  call.check booking
  let price ← calculateModificationPrice booking (call.targetCheckIn booking)
    (call.targetCheckOut booking)
  require (call.fails = false) "Unable to modify booking dates. Please try again."
  pure { booking with
    checkIn := call.targetCheckIn booking
    checkOut := call.targetCheckOut booking
    numNights := call.targetNights booking
    totalAmount := price.newTotal
    amountDue := price.amountOwed
    refundAmount := if 0 < price.refundAmount then price.refundAmount else booking.refundAmount }

/-- One call on the booking; a call that fails leaves it as it was. -/
def Step (booking : PricedBooking) (call : ModifyCall) (after : PricedBooking) : Prop :=
  after = (call.modifyBookingDates booking).toOption.getD booking

end ModifyCall

/-! ## What the columns of a booking say -/

/-- The stored total is the nights at the stored rate and the stored fees. -/
structure PricedBooking.Priced (booking : PricedBooking) : Prop where
  nightlyRate : IsMoney booking.nightlyRate
  cleaningFee : IsMoney booking.cleaningFee
  serviceFee : IsMoney booking.serviceFee
  taxes : IsMoney booking.taxes
  amountPaid : IsMoney booking.amountPaid
  total : booking.totalAmount = booking.nightlyRate * (booking.checkOut - booking.checkIn) +
    booking.cleaningFee + booking.serviceFee + booking.taxes

/-- The booking as it was created, with any amounts paid and due since. -/
def PricedBooking.CreatedAt (booking : PricedBooking) (property : PricedProperty) : Prop :=
  ∃ roomTypeId checkIn checkOut rooms created,
    createPricedBooking property roomTypeId checkIn checkOut rooms = .ok created ∧
      IsMoney booking.amountPaid ∧
      booking = { created with
        amountPaid := booking.amountPaid
        amountDue := booking.amountDue
        refundAmount := booking.refundAmount }

/-- The total a booking for the same dates and rooms would be stored with. -/
def PricedBooking.freshTotal (booking : PricedBooking) (property : PricedProperty) : Option ℚ :=
  (createPricedBooking property booking.roomTypeId booking.checkIn booking.checkOut
    booking.roomsRequested).toOption.map PricedBooking.totalAmount

/-- The booking is as if it were new: its total is the fresh one, and what is due is what of it
is not paid. -/
structure PricedBooking.Settled (booking : PricedBooking) (property : PricedProperty) : Prop where
  total : booking.freshTotal property = some booking.totalAmount
  due : booking.amountDue = max 0 (booking.totalAmount - booking.amountPaid)

/-- The columns no call changes. -/
structure PricedBooking.SameRates (booking other : PricedBooking) : Prop where
  roomTypeId : other.roomTypeId = booking.roomTypeId
  roomsRequested : other.roomsRequested = booking.roomsRequested
  nightlyRate : other.nightlyRate = booking.nightlyRate
  cleaningFee : other.cleaningFee = booking.cleaningFee
  serviceFee : other.serviceFee = booking.serviceFee
  taxes : other.taxes = booking.taxes
  amountPaid : other.amountPaid = booking.amountPaid

/-- The new nights at the stored rate with the stored fees. -/
def ModifyCall.targetTotal (call : ModifyCall) (booking : PricedBooking) : ℚ :=
  booking.nightlyRate * call.targetNights booking + booking.cleaningFee + booking.serviceFee +
    booking.taxes

/-- The fees of the new nights are the stored ones, and the old total was what is paid or
neither of them falls short of the new price. -/
def ModifyCall.Fits (call : ModifyCall) (property : PricedProperty) (booking : PricedBooking) :
    Prop :=
  (∀ rates ∈ property.ratesFor booking.roomTypeId,
    let price := priceAt rates (call.targetNights booking) 1 property.taxRatePct {}
    price.serviceFee + price.taxes = booking.serviceFee + booking.taxes) ∧
  (booking.totalAmount = booking.amountPaid ∨
    call.targetTotal booking ≤ booking.totalAmount ∧
      call.targetTotal booking ≤ booking.amountPaid)

/-! ## One call -/

section Modify

variable {property : PricedProperty} {booking after : PricedBooking} {call : ModifyCall}

theorem calculateModificationPrice_eq_ok {checkIn checkOut : ℤ} {price : ModificationPrice}
    (hpriced : booking.Priced)
    (h : calculateModificationPrice booking checkIn checkOut = .ok price) :
    price.newTotal = booking.nightlyRate * (checkOut - checkIn) + booking.cleaningFee +
        booking.serviceFee + booking.taxes ∧
      price.amountOwed = max 0 (price.newTotal - booking.totalAmount) := by
  have htotal : IsMoney booking.totalAmount := by
    have hnights := hpriced.nightlyRate.mul_int (booking.checkOut - booking.checkIn)
    push_cast at hnights
    rw [hpriced.total]
    exact ((hnights.add hpriced.cleaningFee).add hpriced.serviceFee).add hpriced.taxes
  unfold calculateModificationPrice at h
  simp only at h
  split at h
  · cases h
  · cases h
    have hnights := hpriced.nightlyRate.mul_int (checkOut - checkIn)
    have hnew : IsMoney (booking.nightlyRate * (checkOut - checkIn : ℤ) + booking.cleaningFee +
        booking.serviceFee + booking.taxes) :=
      ((hnights.add hpriced.cleaningFee).add hpriced.serviceFee).add hpriced.taxes
    simp only [hpriced.nightlyRate.money_eq, hpriced.cleaningFee.money_eq,
      hpriced.serviceFee.money_eq, hpriced.taxes.money_eq, hnights.money_eq, hnew.money_eq,
      htotal.money_eq, (hnew.sub htotal).money_eq]
    push_cast
    refine ⟨rfl, ?_⟩
    split
    · rename_i hpos
      exact (max_eq_right hpos.le).symm
    · rename_i hnot
      exact (max_eq_left (not_lt.mp hnot)).symm

/-- A call that succeeds sets the dates and prices the new nights at the stored rates. -/
theorem modifyBookingDates_eq_ok (hpriced : booking.Priced)
    (h : call.modifyBookingDates booking = .ok after) :
    booking.SameRates after ∧
      after.checkIn = call.targetCheckIn booking ∧ after.checkOut = call.targetCheckOut booking ∧
      after.checkIn < after.checkOut ∧
      after.totalAmount = call.targetTotal booking ∧
      after.amountDue = max 0 (after.totalAmount - booking.totalAmount) := by
  simp only [ModifyCall.modifyBookingDates, bind_eq_ok, require_eq_ok, pure_eq_ok,
    exists_const] at h
  obtain ⟨_, hcheck, price, hprice, -, rfl⟩ := h
  obtain ⟨htotal, howed⟩ := calculateModificationPrice_eq_ok hpriced hprice
  have hdates : call.targetCheckIn booking < call.targetCheckOut booking := by
    simp only [ModifyCall.check, bind_eq_ok, require_eq_ok, exists_const] at hcheck
    cases htoday : call.today with
    | none => simp [htoday] at hcheck
    | some today =>
      simp only [htoday, bind_eq_ok, require_eq_ok, exists_const] at hcheck
      exact hcheck.2.2.2.2.2.2.1
  refine ⟨⟨rfl, rfl, rfl, rfl, rfl, rfl, rfl⟩, rfl, rfl, hdates, ?_, howed⟩
  simp only [ModifyCall.targetTotal, ModifyCall.targetNights]
  push_cast
  exact htotal

namespace PricedBooking

theorem SameRates.trans {other third : PricedBooking} (h : booking.SameRates other)
    (h' : other.SameRates third) : booking.SameRates third :=
  ⟨h'.roomTypeId.trans h.roomTypeId, h'.roomsRequested.trans h.roomsRequested,
    h'.nightlyRate.trans h.nightlyRate, h'.cleaningFee.trans h.cleaningFee,
    h'.serviceFee.trans h.serviceFee, h'.taxes.trans h.taxes, h'.amountPaid.trans h.amountPaid⟩

theorem Priced.modify (hpriced : booking.Priced)
    (h : call.modifyBookingDates booking = .ok after) : after.Priced := by
  obtain ⟨hsame, hin, hout, -, htotal, -⟩ := modifyBookingDates_eq_ok hpriced h
  refine ⟨?_, ?_, ?_, ?_, ?_, ?_⟩
  · exact hsame.nightlyRate ▸ hpriced.nightlyRate
  · exact hsame.cleaningFee ▸ hpriced.cleaningFee
  · exact hsame.serviceFee ▸ hpriced.serviceFee
  · exact hsame.taxes ▸ hpriced.taxes
  · exact hsame.amountPaid ▸ hpriced.amountPaid
  · rw [htotal, hin, hout, hsame.nightlyRate, hsame.cleaningFee, hsame.serviceFee, hsame.taxes,
      ModifyCall.targetTotal, ModifyCall.targetNights]
    push_cast
    rfl

/-- What holds of a booking of the property after any calls. -/
structure Kept (property : PricedProperty) (start booking : PricedBooking) : Prop where
  priced : booking.Priced
  same : start.SameRates booking
  rooms : 1 ≤ booking.roomsRequested
  roomTypeId : (booking.roomTypeId <|> property.firstActiveRoomType) = booking.roomTypeId
  rates : ∃ rates, property.ratesFor booking.roomTypeId = some rates ∧
    booking.nightlyRate = rates.nightlyRate ∧ booking.cleaningFee = rates.cleaning
  dates : booking.checkIn < booking.checkOut

theorem CreatedAt.kept (h : booking.CreatedAt property) : Kept property booking booking := by
  obtain ⟨roomTypeId, checkIn, checkOut, rooms, created, hcreated, hpaid, hbooking⟩ := h
  obtain ⟨hdates, hrooms, rates, hrates, rfl⟩ := createPricedBooking_eq_ok.mp hcreated
  have htax : (0 : ℚ) ≤ property.taxRatePct := property.taxRatePct.2
  have hnights : 0 ≤ checkOut - checkIn := by omega
  have hrate : (priceAt rates (checkOut - checkIn) 1 property.taxRatePct {}).nightlyRate =
      rates.nightlyRate := RateCard.isMoney_nightlyRate.money_eq
  have hclean : (priceAt rates (checkOut - checkIn) 1 property.taxRatePct {}).cleaningFee =
      rates.cleaning := by
    rw [priceAt_cleaningFee, Int.cast_one, mul_one]
  rw [hbooking]
  refine ⟨⟨?_, ?_, isMoney_money _, isMoney_money _, hpaid, ?_⟩,
    ⟨rfl, rfl, rfl, rfl, rfl, rfl, rfl⟩, hrooms, ?_, ⟨rates, hrates, hrate, hclean⟩, hdates⟩
  · exact isMoney_money _
  · simp only
    rw [hclean]
    exact RateCard.isMoney_cleaning
  · have htotal := priceAt_total rates hnights zero_le_one htax
    have hsubtotal : (priceAt rates (checkOut - checkIn) 1 property.taxRatePct {}).subtotal =
        rates.nightlyRate * (checkOut - checkIn) := by
      rw [priceAt_subtotal, Int.cast_one, mul_one]
      push_cast
      rfl
    simp only
    rw [hrate, ← hsubtotal, ← priceAt_gross]
    exact htotal
  · simp only
    cases roomTypeId <;> cases property.firstActiveRoomType <;> rfl

theorem Kept.step {start : PricedBooking} (h : Kept property start booking)
    (hstep : call.Step booking after) : Kept property start after := by
  unfold ModifyCall.Step at hstep
  cases hmodify : call.modifyBookingDates booking with
  | error message =>
    rw [hmodify] at hstep
    rwa [hstep]
  | ok modified =>
    rw [hmodify] at hstep
    obtain rfl : after = modified := hstep
    obtain ⟨hsame, -, -, hdates, -, -⟩ := modifyBookingDates_eq_ok h.priced hmodify
    refine ⟨h.priced.modify hmodify, h.same.trans hsame, ?_, ?_, ?_, hdates⟩
    · rw [hsame.roomsRequested]
      exact h.rooms
    · rw [hsame.roomTypeId]
      exact h.roomTypeId
    · rw [hsame.roomTypeId, hsame.nightlyRate, hsame.cleaningFee]
      exact h.rates

theorem Kept.run {start : PricedBooking} {calls : List ModifyCall}
    (h : start.CreatedAt property) (run : Run ModifyCall.Step start calls booking) :
    Kept property start booking :=
  run.invariant _ (fun _ _ _ hkept hstep => hkept.step hstep) h.kept

/-- The fresh total is the nights at the stored rate and the fees of those nights. -/
theorem Kept.freshTotal_eq {start : PricedBooking} (h : Kept property start booking) :
    ∃ rates, property.ratesFor booking.roomTypeId = some rates ∧
      booking.freshTotal property = some (booking.nightlyRate *
        (booking.checkOut - booking.checkIn) + booking.cleaningFee +
        (priceAt rates (booking.checkOut - booking.checkIn) 1 property.taxRatePct {}).serviceFee +
        (priceAt rates (booking.checkOut - booking.checkIn) 1 property.taxRatePct {}).taxes) := by
  obtain ⟨rates, hrates, hrate, hclean⟩ := h.rates
  have htax : (0 : ℚ) ≤ property.taxRatePct := property.taxRatePct.2
  have hnights : 0 ≤ booking.checkOut - booking.checkIn := sub_nonneg_of_le h.dates.le
  have hrates' : property.ratesFor (booking.roomTypeId <|> property.firstActiveRoomType) =
      some rates := by rw [h.roomTypeId, hrates]
  refine ⟨rates, hrates, ?_⟩
  rw [freshTotal, createPricedBooking_eq_ok.mpr ⟨h.dates, h.rooms, rates, hrates', rfl⟩]
  have htotal := priceAt_total rates hnights zero_le_one htax
  rw [priceAt_gross, priceAt_subtotal, priceAt_cleaningFee] at htotal
  push_cast at htotal
  simp only [mul_one] at htotal
  rw [hrate, hclean]
  exact congrArg some htotal

end PricedBooking

/-- What is due after a call is what is left to pay exactly where the old total was paid, or
nothing is owed on either count. -/
theorem max_sub_eq_iff {new old paid : ℚ} :
    max 0 (new - old) = max 0 (new - paid) ↔ old = paid ∨ new ≤ old ∧ new ≤ paid := by
  constructor
  · intro h
    obtain hold | hold := le_or_gt new old
    · rw [max_eq_left (sub_nonpos.mpr hold)] at h
      exact .inr ⟨hold, sub_nonpos.mp (h ▸ le_max_right 0 (new - paid))⟩
    · rw [max_eq_right (sub_pos.mpr hold).le] at h
      have hpaid : paid < new := by
        by_contra hnot
        rw [max_eq_left (sub_nonpos.mpr (not_lt.mp hnot))] at h
        linarith
      rw [max_eq_right (sub_pos.mpr hpaid).le] at h
      exact .inl (by linarith)
  · rintro (rfl | ⟨hold, hpaid⟩)
    · rfl
    · rw [max_eq_left (sub_nonpos.mpr hold), max_eq_left (sub_nonpos.mpr hpaid)]

/-- After any calls the total depends on the dates alone; and the next call that succeeds
leaves the booking as if it were new exactly where it fits. -/
theorem date_modification (property : PricedProperty) (start : PricedBooking)
    (hstart : start.CreatedAt property) (calls : List ModifyCall) (booking : PricedBooking)
    (run : Run ModifyCall.Step start calls booking) :
    (∀ (calls' : List ModifyCall) (other : PricedBooking),
        Run ModifyCall.Step start calls' other →
        other.checkIn = booking.checkIn → other.checkOut = booking.checkOut →
        other.totalAmount = booking.totalAmount) ∧
      ∀ (call : ModifyCall) (after : PricedBooking),
        call.modifyBookingDates booking = .ok after →
          (after.Settled property ↔ call.Fits property booking) := by
  have hkept := PricedBooking.Kept.run hstart run
  constructor
  · intro calls' other run' hin hout
    have hother := PricedBooking.Kept.run hstart run'
    rw [hother.priced.total, hkept.priced.total, hin, hout, hother.same.nightlyRate,
      hother.same.cleaningFee, hother.same.serviceFee, hother.same.taxes,
      hkept.same.nightlyRate, hkept.same.cleaningFee, hkept.same.serviceFee, hkept.same.taxes]
  · intro call after hmodify
    obtain ⟨hsame, hin, hout, -, htotal, hdue⟩ := modifyBookingDates_eq_ok hkept.priced hmodify
    have hafter : PricedBooking.Kept property start after :=
      hkept.step (by rw [ModifyCall.Step, hmodify]; rfl)
    obtain ⟨rates, hrates, hfresh⟩ := hafter.freshTotal_eq
    have hnights : after.checkOut - after.checkIn = call.targetNights booking := by
      rw [hin, hout, ModifyCall.targetNights]
    have hfees : after.freshTotal property = some after.totalAmount ↔
        (priceAt rates (call.targetNights booking) 1 property.taxRatePct {}).serviceFee +
          (priceAt rates (call.targetNights booking) 1 property.taxRatePct {}).taxes =
            booking.serviceFee + booking.taxes := by
      rw [hfresh, Option.some.injEq, hnights, hafter.priced.total, hsame.serviceFee, hsame.taxes]
      constructor <;> intro h <;> linarith
    have hleft : after.amountDue = max 0 (after.totalAmount - after.amountPaid) ↔
        booking.totalAmount = booking.amountPaid ∨
          call.targetTotal booking ≤ booking.totalAmount ∧
            call.targetTotal booking ≤ booking.amountPaid := by
      rw [hdue, hsame.amountPaid, max_sub_eq_iff, htotal]
    have hrates' : property.ratesFor booking.roomTypeId = some rates := by
      rw [← hsame.roomTypeId]
      exact hrates
    constructor
    · intro h
      refine ⟨?_, hleft.mp h.due⟩
      intro rates' hmem
      obtain rfl : rates = rates' := Option.some.inj (hrates'.symm.trans hmem)
      exact hfees.mp h.total
    · intro h
      exact ⟨hfees.mpr (h.1 rates hrates'), hleft.mpr h.2⟩

/-- Two nights at 100.00 and a fee of a tenth that become four: the fee stays that of two
nights, and of the 420.00 nothing was paid, but 200.00 are due. -/
theorem longer_stay_keeps_old_fee :
    let property : PricedProperty := { rates := { basePricePerNight := 10000 } }
    ((createPricedBooking property none 10 12 1).toOption.bind fun booking =>
      (ModifyCall.modifyBookingDates { newCheckOut := some 14, today := some 5 }
        booking).toOption.map fun after =>
          (after.totalAmount, after.freshTotal property, after.amountPaid, after.amountDue)) =
      some (420, some 440, 0, 200) := by
  decide +kernel

/-- Two nights without fees, paid, shortened to one and then moved by a day. -/
theorem date_modification_moved :
    let property : PricedProperty := { rates := { basePricePerNight := 10000, serviceFeePct := 0 } }
    let moved : PricedBooking :=
      { roomTypeId := none, checkIn := 11, checkOut := 12, numNights := 1, roomsRequested := 1
        nightlyRate := 100, cleaningFee := 0, serviceFee := 0, taxes := 0, totalAmount := 100
        amountPaid := 200, refundAmount := 100 }
    moved.Settled property := by
  intro property moved
  let start : PricedBooking :=
    { roomTypeId := none, checkIn := 10, checkOut := 12, numNights := 2, roomsRequested := 1
      nightlyRate := 100, cleaningFee := 0, serviceFee := 0, taxes := 0, totalAmount := 200
      amountPaid := 200 }
  let shortened : PricedBooking :=
    { start with checkOut := 11, numNights := 1, totalAmount := 100, refundAmount := 100 }
  have hcreated : createPricedBooking property none 10 12 1 = .ok { start with amountPaid := 0 } :=
    eq_ok_of_toOption (by decide +kernel)
  have hstart : start.CreatedAt property :=
    ⟨none, 10, 12, 1, _, hcreated, ⟨20000, by norm_num [start, gridValue]⟩, rfl⟩
  have run : Run ModifyCall.Step start [{ newCheckOut := some 11, today := some 5 }] shortened :=
    .single (by unfold ModifyCall.Step; decide +kernel)
  have hmoved : ModifyCall.modifyBookingDates
      { newCheckIn := some 11, newCheckOut := some 12, today := some 5 } shortened = .ok moved :=
    eq_ok_of_toOption (by decide +kernel)
  refine ((date_modification property start hstart _ _ run).2 _ _ hmoved).mpr ⟨?_, .inr ?_⟩
  · intro rates hrates
    obtain rfl : property.rates = rates := Option.some.inj hrates
    decide +kernel
  · decide +kernel

/-! ## The same routine at the desks -/

/-- The call the inventory sees, with the text of its check of availability. -/
def Inventory.DateChange.asCall (change : Inventory.DateChange) (s : Inventory) (id : ℕ)
    (row : StayBooking) (reason : String) : ModifyCall where
  newCheckIn := change.newCheckIn
  newCheckOut := change.newCheckOut
  authorised := row.hostUserId = change.hostUserId ∨ change.isAdmin
  isDeleted := row.isDeleted
  status := row.status
  today := some change.today
  minStayNights := change.minStayNights.map Int.ofNat
  maxStayNights := change.maxStayNights.map Int.ofNat
  unavailable :=
    match s.datesAvailable id row (change.newCheckIn.getD row.checkIn)
      (change.newCheckOut.getD row.checkOut) with
    | .ok () => none
    | .error _ => some reason

/-- The inventory lets through what the checks here let through. -/
theorem Inventory.modifyBookingDates_ok_iff {s : Inventory} {id : ℕ} {row : StayBooking}
    {change : DateChange} (hrow : s.bookings[id]? = some row)
    (hprice : change.priceError = none) (hin : booking.checkIn = row.checkIn)
    (hout : booking.checkOut = row.checkOut) (reason : String) :
    (∃ t, s.modifyBookingDates id change = .ok t) ↔
      (change.asCall s id row reason).check booking = .ok () := by
  simp only [ModifyCall.check, check_bind_eq_ok, require_eq_ok]
  simp only [modifyBookingDates, hrow, hprice, check_bind_eq_ok, require_eq_ok, DateChange.asCall,
    ModifyCall.targetCheckIn, ModifyCall.targetCheckOut, ModifyCall.targetNights, hin, hout]
  generalize change.newCheckIn.getD row.checkIn = checkIn
  generalize change.newCheckOut.getD row.checkOut = checkOut
  by_cases valid : checkIn < checkOut
  · simp only [dif_pos valid, check_bind_eq_ok, require_eq_ok, exists_and_left, not_and_or]
    cases s.datesAvailable id row checkIn checkOut with
    | error _ => simp
    | ok _ =>
      have hleast : ∀ least : ℕ, least = 0 ∨ (least : ℤ) ≤ checkOut - checkIn ↔
          (least : ℤ) ≤ checkOut - checkIn := by
        have hnights : (0 : ℤ) < checkOut - checkIn := sub_pos.mpr valid
        intro least
        omega
      cases change.minStayNights <;> cases change.maxStayNights <;> cases row.roomTypeId <;>
        simp [valid, hleast]
  · simp [valid]

/-- What the checks after the status answer. -/
def ModifyCall.refusal (call : ModifyCall) (booking : PricedBooking) : Option String :=
  match call.check booking with
  | .error message => some message
  | .ok () => none

/-- The refund desk sees this call on this booking, in cents. -/
structure PriceChange.Reads (change : PriceChange) (b : AccommodationBooking) (call : ModifyCall)
    (booking : PricedBooking) : Prop where
  kept : call.isDeleted = false
  authorised : call.authorised = decide (b.hostUserId = change.hostUserId ∨ change.isAdmin)
  status : call.status = b.status
  refusal : change.refusal = call.refusal booking
  completes : call.fails = false
  nights : call.targetNights booking = change.nights
  nightlyRate : booking.nightlyRate = gridValue 100 change.nightlyRate
  cleaningFee : booking.cleaningFee = gridValue 100 change.cleaningFee
  serviceFee : booking.serviceFee = gridValue 100 change.serviceFee
  taxes : booking.taxes = gridValue 100 change.taxes
  totalAmount : booking.totalAmount = gridValue 100 b.totalAmount
  refundAmount : booking.refundAmount = gridValue 100 b.refundAmount

/-- The refund desk makes the same checks. -/
theorem PriceChange.Reads.check {change : PriceChange} {b : AccommodationBooking}
    (h : change.Reads b call booking) : change.check b = call.check booking := by
  simp only [PriceChange.check, h.refusal, ModifyCall.refusal]
  by_cases hauthorised : b.hostUserId = change.hostUserId ∨ change.isAdmin
  · by_cases hstaying : b.status.isStaying
    · rw [require, if_pos hauthorised, require, if_pos hstaying]
      cases call.check booking <;> rfl
    · simp [ModifyCall.check, require, h.kept, h.authorised, h.status, hauthorised, hstaying, bind,
        Except.bind]
  · simp [ModifyCall.check, require, h.kept, h.authorised, hauthorised, bind, Except.bind]

/-- It reckons the same price. -/
theorem PriceChange.Reads.price {change : PriceChange} {b : AccommodationBooking}
    (h : change.Reads b call booking) :
    ∃ price, calculateModificationPrice booking (call.targetCheckIn booking)
        (call.targetCheckOut booking) = .ok price ∧
      price.newTotal = gridValue 100 change.newTotal ∧
      price.refundAmount = gridValue 100 (change.refundAmount b) := by
  have hnights : call.targetCheckOut booking - call.targetCheckIn booking = change.nights :=
    h.nights
  have hmoney : ∀ steps, money (gridValue 100 steps) = gridValue 100 steps :=
    fun steps => (isMoney_gridValue steps).money_eq
  have hsubtotal : gridValue 100 change.nightlyRate * ((change.nights : ℤ) : ℚ) =
      gridValue 100 (change.nightlyRate * change.nights) := by
    unfold gridValue
    push_cast
    ring
  have hdelta : gridValue 100 change.newTotal - gridValue 100 b.totalAmount =
      gridValue 100 (change.newTotal - b.totalAmount) := by
    unfold gridValue
    push_cast
    ring
  have hnew : money (money (money booking.nightlyRate * ((change.nights : ℤ) : ℚ)) +
      money booking.cleaningFee + money booking.serviceFee + money booking.taxes) =
        gridValue 100 change.newTotal := by
    simp only [h.nightlyRate, h.cleaningFee, h.serviceFee, h.taxes, hmoney, hsubtotal,
      ← gridValue_add]
    rfl
  refine ⟨_, if_neg ?_, ?_, ?_⟩
  · omega
  · rw [hnights, hnew]
  · have hback : -gridValue 100 (change.newTotal - b.totalAmount) =
        gridValue 100 (b.totalAmount - change.newTotal) := by
      unfold gridValue
      push_cast
      ring
    have hless : gridValue 100 (change.newTotal - b.totalAmount) < 0 ↔
        change.newTotal - b.totalAmount < 0 := by
      rw [← not_le, gridValue_nonneg_iff (by decide), not_le]
    simp only [hnights, hnew, h.totalAmount, hmoney, hdelta, hless, hback, PriceChange.refundAmount]
    split
    · rfl
    · simp [gridValue]

/-- And writes the same total and refund. -/
theorem PriceChange.Reads.modify {change : PriceChange} {b : AccommodationBooking}
    (h : change.Reads b call booking) :
    (call.modifyBookingDates booking).toOption.map (fun after =>
        (after.totalAmount, after.refundAmount)) =
      (Accommodation.modifyBookingDates b change).toOption.map (fun b' =>
        (gridValue 100 b'.totalAmount, gridValue 100 b'.refundAmount)) := by
  have hcheck := h.check
  simp only [ModifyCall.modifyBookingDates, Accommodation.modifyBookingDates, toOption_bind, hcheck]
  cases hchecked : call.check booking with
  | error message => rfl
  | ok _ =>
    obtain ⟨price, hprice, htotal, hrefund⟩ := h.price
    have hcompletes : require (call.fails = false)
        "Unable to modify booking dates. Please try again." = .ok () :=
      require_eq_ok.mpr h.completes
    rw [hprice, hcompletes]
    simp only [toOption_ok, Option.bind_some, pure, Except.pure, Option.map_some, htotal, hrefund,
      h.refundAmount, gridValue_pos_iff (by decide : 0 < 100)]
    split <;> rfl

end Modify

end Afcon360.Accommodation
