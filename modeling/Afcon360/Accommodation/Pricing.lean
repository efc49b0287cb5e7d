import Afcon360.Foundation.Guard
import Afcon360.Foundation.Rounding

/-!
# The price of a booking

`calculate_total` of the pricing service, and the columns `create_booking` stores from it. The
rates are columns of two decimals that the forms keep from being negative, so they are cents
and hundredths of a percent; discounts and a tax rate are amounts without a sign. The
breakdown always adds up. The booking is priced for one room, whatever number of rooms it is
for: its total is that of the pricing service for one room only, or where rooms are free.
-/

namespace Afcon360.Accommodation

open Foundation

/-- `money`: two decimals, ties away from zero. -/
def money (value : ℚ) : ℚ := gridValue 100 (roundHalfUp 100 value)

/-- The prices of a property or of a room type. -/
structure RateCard where
  basePricePerNight : ℕ
  cleaningFee : ℕ := 0
  serviceFeePct : ℕ := 1000
  deriving DecidableEq, Repr

namespace RateCard

def nightlyRate (rates : RateCard) : ℚ := gridValue 100 rates.basePricePerNight

def cleaning (rates : RateCard) : ℚ := gridValue 100 rates.cleaningFee

/-- `service_fee_pct` as a percentage. -/
def servicePct (rates : RateCard) : ℚ := gridValue 100 rates.serviceFeePct

/-- Staying costs nothing. -/
def IsFree (rates : RateCard) : Prop := rates.basePricePerNight = 0 ∧ rates.cleaningFee = 0

end RateCard

/-- What the pricing service reads of a property and its room types. -/
structure PricedProperty where
  rates : RateCard
  roomType : ℕ → Option RateCard := fun _ => none
  firstActiveRoomType : Option ℕ := none
  taxRatePct : ℚ≥0 := 0

/-- The rates of the room type if one is asked for, else those of the property. -/
def PricedProperty.ratesFor (property : PricedProperty) (roomTypeId : Option ℕ) :
    Option RateCard :=
  match roomTypeId with
  | none => some property.rates
  | some id => property.roomType id

structure PriceOptions where
  numRooms : ℤ := 1
  promoDiscount : ℚ≥0 := 0
  loyaltyDiscount : ℚ≥0 := 0
  walletCredit : ℚ≥0 := 0
  taxRatePct : Option ℚ≥0 := none

structure PriceBreakdown where
  nightlyRate : ℚ
  nights : ℤ
  numRooms : ℤ
  subtotal : ℚ
  cleaningFee : ℚ
  serviceFee : ℚ
  serviceFeePct : ℚ
  taxRatePct : ℚ
  taxes : ℚ
  promoDiscount : ℚ
  loyaltyDiscount : ℚ
  walletCredit : ℚ
  discountTotal : ℚ
  grossTotal : ℚ
  total : ℚ
  deriving DecidableEq, Repr

/-- The breakdown of a price at given rates. -/
def priceAt (rates : RateCard) (nights rooms : ℤ) (taxRatePct : ℚ) (options : PriceOptions) :
    PriceBreakdown :=
  let nightlyRate := money rates.nightlyRate
  let cleaningFee := money rates.cleaning * rooms
  let subtotal := money (nightlyRate * nights * rooms)
  let serviceFee := money (subtotal * (rates.servicePct / 100))
  let taxable := subtotal + cleaningFee + serviceFee
  let taxes := money (taxable * (taxRatePct / 100))
  let gross := money (taxable + taxes)
  let promo := money options.promoDiscount
  let loyalty := money options.loyaltyDiscount
  let credit := money options.walletCredit
  let discount := min (money (promo + loyalty + credit)) gross
  { nightlyRate, nights, numRooms := rooms, subtotal, cleaningFee, serviceFee
    serviceFeePct := rates.servicePct, taxRatePct, taxes
    promoDiscount := promo, loyaltyDiscount := loyalty, walletCredit := credit
    discountTotal := discount, grossTotal := gross, total := money (gross - discount) }

/-- `calculate_total`. -/
def calculateTotal (property : PricedProperty) (roomTypeId : Option ℕ) (checkIn checkOut : ℤ)
    (options : PriceOptions) : Except String PriceBreakdown :=
  let nights := checkOut - checkIn
  let rooms := max 1 (if options.numRooms = 0 then 1 else options.numRooms)
  if nights ≤ 0 then .error "Check-out must be after check-in"
  else
    match property.ratesFor roomTypeId with
    | none => .error "Room type not found or does not belong to this property"
    | some rates =>
      let taxRatePct : ℚ≥0 := options.taxRatePct.getD property.taxRatePct
      .ok (priceAt rates nights rooms taxRatePct options)

/-- The columns of a booking about its dates and its price. -/
structure PricedBooking where
  roomTypeId : Option ℕ
  checkIn : ℤ
  checkOut : ℤ
  numNights : ℤ
  roomsRequested : ℤ
  nightlyRate : ℚ
  cleaningFee : ℚ
  serviceFee : ℚ
  taxes : ℚ
  totalAmount : ℚ
  amountPaid : ℚ := 0
  amountDue : ℚ := 0
  refundAmount : ℚ := 0
  deriving DecidableEq, Repr

/-- The dates, the rooms and the price in `create_booking`, which does not pass the rooms on. -/
def createPricedBooking (property : PricedProperty) (roomTypeId : Option ℕ)
    (checkIn checkOut roomsRequested : ℤ) : Except String PricedBooking :=
  if checkOut ≤ checkIn then .error "Check-out must be after check-in"
  else if roomsRequested < 1 then .error "At least one room must be requested"
  else
    let roomTypeId := roomTypeId <|> property.firstActiveRoomType
    match calculateTotal property roomTypeId checkIn checkOut {} with
    | .error message => .error message
    | .ok pricing => .ok {
        roomTypeId := roomTypeId
        checkIn := checkIn
        checkOut := checkOut
        numNights := pricing.nights
        roomsRequested := roomsRequested
        nightlyRate := pricing.nightlyRate
        cleaningFee := pricing.cleaningFee
        serviceFee := pricing.serviceFee
        taxes := pricing.taxes
        totalAmount := pricing.total }

/-! ## Money -/

variable {value other : ℚ} {steps steps' : ℤ}

/-- A value in whole cents. -/
def IsMoney (value : ℚ) : Prop := ∃ steps : ℤ, value = gridValue 100 steps

theorem isMoney_money (value : ℚ) : IsMoney (money value) := ⟨_, rfl⟩

theorem isMoney_gridValue (steps : ℤ) : IsMoney (gridValue 100 steps) := ⟨steps, rfl⟩

namespace IsMoney

theorem money_eq (h : IsMoney value) : money value = value := by
  obtain ⟨steps, rfl⟩ := h
  rw [money, roundHalfUp_gridValue (by decide)]

theorem add (h : IsMoney value) (h' : IsMoney other) : IsMoney (value + other) := by
  obtain ⟨steps, rfl⟩ := h
  obtain ⟨steps', rfl⟩ := h'
  exact ⟨steps + steps', by unfold gridValue; push_cast; ring⟩

theorem sub (h : IsMoney value) (h' : IsMoney other) : IsMoney (value - other) := by
  obtain ⟨steps, rfl⟩ := h
  obtain ⟨steps', rfl⟩ := h'
  exact ⟨steps - steps', by unfold gridValue; push_cast; ring⟩

theorem mul_int (h : IsMoney value) (count : ℤ) : IsMoney (value * count) := by
  obtain ⟨steps, rfl⟩ := h
  exact ⟨steps * count, by unfold gridValue; push_cast; ring⟩

theorem min (h : IsMoney value) (h' : IsMoney other) : IsMoney (min value other) := by
  rcases min_choice value other with heq | heq <;> rwa [heq]

end IsMoney

theorem money_mono (h : value ≤ other) : money value ≤ money other := by
  have hsteps := roundHalfUp_mono 100 h
  unfold money gridValue
  gcongr

@[simp] theorem money_zero : money 0 = 0 := by
  have hzero : IsMoney 0 := ⟨0, by simp [gridValue]⟩
  exact hzero.money_eq

theorem money_nonneg (h : 0 ≤ value) : 0 ≤ money value := by
  rw [← money_zero]
  exact money_mono h

/-! ## The breakdown adds up -/

/-- The total is the gross less the discounts as far as they go, and the gross is the sum of
its parts. -/
structure PriceBreakdown.Adds (price : PriceBreakdown) : Prop where
  total : price.total = price.grossTotal -
    min (price.promoDiscount + price.loyaltyDiscount + price.walletCredit) price.grossTotal
  total_nonneg : 0 ≤ price.total
  total_le_gross : price.total ≤ price.grossTotal
  gross : price.grossTotal =
    price.subtotal + price.cleaningFee + price.serviceFee + price.taxes

section Price

variable {rates : RateCard} {nights rooms : ℤ} {taxRatePct : ℚ} {options : PriceOptions}

theorem RateCard.isMoney_nightlyRate : IsMoney rates.nightlyRate := isMoney_gridValue _

theorem RateCard.isMoney_cleaning : IsMoney rates.cleaning := isMoney_gridValue _

theorem RateCard.nightlyRate_nonneg : 0 ≤ rates.nightlyRate := by
  unfold nightlyRate gridValue
  positivity

theorem RateCard.cleaning_nonneg : 0 ≤ rates.cleaning := by
  unfold cleaning gridValue
  positivity

theorem RateCard.servicePct_nonneg : 0 ≤ rates.servicePct := by
  unfold servicePct gridValue
  positivity

/-- The subtotal needs no rounding. -/
theorem priceAt_subtotal :
    (priceAt rates nights rooms taxRatePct options).subtotal =
      rates.nightlyRate * nights * rooms := by
  have hrate : money rates.nightlyRate = rates.nightlyRate := RateCard.isMoney_nightlyRate.money_eq
  simp only [priceAt, hrate]
  exact ((RateCard.isMoney_nightlyRate.mul_int nights).mul_int rooms).money_eq

theorem priceAt_cleaningFee :
    (priceAt rates nights rooms taxRatePct options).cleaningFee = rates.cleaning * rooms := by
  simp only [priceAt, RateCard.isMoney_cleaning.money_eq]

theorem priceAt_gross :
    (priceAt rates nights rooms taxRatePct options).grossTotal =
      (priceAt rates nights rooms taxRatePct options).subtotal +
        (priceAt rates nights rooms taxRatePct options).cleaningFee +
        (priceAt rates nights rooms taxRatePct options).serviceFee +
        (priceAt rates nights rooms taxRatePct options).taxes := by
  refine IsMoney.money_eq (.add (.add (.add (isMoney_money _) ?_) (isMoney_money _))
    (isMoney_money _))
  exact (isMoney_money _).mul_int rooms

theorem priceAt_serviceFee_nonneg (rates : RateCard) (taxRatePct : ℚ) (options : PriceOptions)
    (hnights : 0 ≤ nights) (hrooms : 0 ≤ rooms) :
    0 ≤ (priceAt rates nights rooms taxRatePct options).serviceFee := by
  have hrate := rates.nightlyRate_nonneg
  have hpct := rates.servicePct_nonneg
  have hn : (0 : ℚ) ≤ nights := by exact_mod_cast hnights
  have hr : (0 : ℚ) ≤ rooms := by exact_mod_cast hrooms
  have hsubtotal : 0 ≤ (priceAt rates nights rooms taxRatePct options).subtotal := by
    rw [priceAt_subtotal]
    positivity
  exact money_nonneg (mul_nonneg hsubtotal (by positivity))

theorem priceAt_taxable_nonneg (rates : RateCard) (taxRatePct : ℚ) (options : PriceOptions)
    (hnights : 0 ≤ nights) (hrooms : 0 ≤ rooms) :
    0 ≤ (priceAt rates nights rooms taxRatePct options).subtotal +
      (priceAt rates nights rooms taxRatePct options).cleaningFee +
      (priceAt rates nights rooms taxRatePct options).serviceFee := by
  have hservice := priceAt_serviceFee_nonneg rates taxRatePct options hnights hrooms
  have hrate := rates.nightlyRate_nonneg
  have hclean := rates.cleaning_nonneg
  have hn : (0 : ℚ) ≤ nights := by exact_mod_cast hnights
  have hr : (0 : ℚ) ≤ rooms := by exact_mod_cast hrooms
  rw [priceAt_subtotal, priceAt_cleaningFee]
  positivity

theorem priceAt_adds (rates : RateCard) (options : PriceOptions) (hnights : 0 ≤ nights) 
    (hrooms : 0 ≤ rooms) (htax : 0 ≤ taxRatePct) :
    (priceAt rates nights rooms taxRatePct options).Adds := by
  have htaxable := priceAt_taxable_nonneg rates taxRatePct options hnights hrooms
  have htaxes : 0 ≤ (priceAt rates nights rooms taxRatePct options).taxes :=
    money_nonneg (mul_nonneg htaxable (by positivity))
  have hgross : 0 ≤ (priceAt rates nights rooms taxRatePct options).grossTotal := by
    rw [priceAt_gross]
    linarith
  have hpromo : 0 ≤ money options.promoDiscount := money_nonneg (by positivity)
  have hloyalty : 0 ≤ money options.loyaltyDiscount := money_nonneg (by positivity)
  have hcredit : 0 ≤ money options.walletCredit := money_nonneg (by positivity)
  have hsum : money (money options.promoDiscount + money options.loyaltyDiscount +
      money options.walletCredit) = money options.promoDiscount + money options.loyaltyDiscount +
        money options.walletCredit :=
    IsMoney.money_eq (.add (.add (isMoney_money _) (isMoney_money _)) (isMoney_money _))
  have htotal : (priceAt rates nights rooms taxRatePct options).total =
      (priceAt rates nights rooms taxRatePct options).grossTotal -
        min (money options.promoDiscount + money options.loyaltyDiscount +
          money options.walletCredit)
          (priceAt rates nights rooms taxRatePct options).grossTotal := by
    rw [← hsum]
    exact IsMoney.money_eq
      (.sub (isMoney_money _) (.min (isMoney_money _) (isMoney_money _)))
  refine ⟨htotal, ?_, ?_, priceAt_gross⟩
  · rw [htotal]
    exact sub_nonneg_of_le (min_le_right _ _)
  · rw [htotal]
    exact sub_le_self _ (le_min (by positivity) hgross)

/-- Without discounts the total is the gross. -/
theorem priceAt_total (rates : RateCard) (hnights : 0 ≤ nights) (hrooms : 0 ≤ rooms)
    (htax : 0 ≤ taxRatePct) :
    (priceAt rates nights rooms taxRatePct { numRooms := rooms }).total =
      (priceAt rates nights rooms taxRatePct {}).grossTotal := by
  have hadds := priceAt_adds rates { numRooms := rooms } hnights hrooms htax
  have hgross : 0 ≤ (priceAt rates nights rooms taxRatePct { numRooms := rooms }).grossTotal :=
    hadds.total_nonneg.trans hadds.total_le_gross
  have hnone : (priceAt rates nights rooms taxRatePct { numRooms := rooms }).promoDiscount +
      (priceAt rates nights rooms taxRatePct { numRooms := rooms }).loyaltyDiscount +
      (priceAt rates nights rooms taxRatePct { numRooms := rooms }).walletCredit = 0 := by
    simp [priceAt]
  rw [hadds.total, hnone, min_eq_left hgross, sub_zero]
  rfl

/-- Every further room costs at least its nights and its cleaning. -/
theorem priceAt_gross_add_le (rates : RateCard) (options : PriceOptions) {rooms' : ℤ}
    (hnights : 0 ≤ nights) (h : rooms ≤ rooms') (htax : 0 ≤ taxRatePct) :
    (priceAt rates nights rooms taxRatePct options).grossTotal +
        (rates.nightlyRate * nights + rates.cleaning) * (rooms' - rooms) ≤
      (priceAt rates nights rooms' taxRatePct options).grossTotal := by
  have hrate := rates.nightlyRate_nonneg
  have hclean := rates.cleaning_nonneg
  have hpct := rates.servicePct_nonneg
  have hn : (0 : ℚ) ≤ nights := by exact_mod_cast hnights
  have hr : (rooms : ℚ) ≤ rooms' := by exact_mod_cast h
  have hsubtotal : rates.nightlyRate * nights * rooms ≤ rates.nightlyRate * nights * rooms' :=
    mul_le_mul_of_nonneg_left hr (by positivity)
  have hcleaning : rates.cleaning * rooms ≤ rates.cleaning * rooms' :=
    mul_le_mul_of_nonneg_left hr hclean
  have hservice : (priceAt rates nights rooms taxRatePct options).serviceFee ≤
      (priceAt rates nights rooms' taxRatePct options).serviceFee := by
    refine money_mono (mul_le_mul_of_nonneg_right ?_ (by positivity))
    have hparts : (priceAt rates nights rooms taxRatePct options).subtotal ≤
        (priceAt rates nights rooms' taxRatePct options).subtotal := by
      rw [priceAt_subtotal, priceAt_subtotal]
      exact hsubtotal
    exact hparts
  have htaxes : (priceAt rates nights rooms taxRatePct options).taxes ≤
      (priceAt rates nights rooms' taxRatePct options).taxes := by
    refine money_mono (mul_le_mul_of_nonneg_right ?_ (by positivity))
    have hparts : (priceAt rates nights rooms taxRatePct options).subtotal +
        (priceAt rates nights rooms taxRatePct options).cleaningFee +
        (priceAt rates nights rooms taxRatePct options).serviceFee ≤
        (priceAt rates nights rooms' taxRatePct options).subtotal +
        (priceAt rates nights rooms' taxRatePct options).cleaningFee +
        (priceAt rates nights rooms' taxRatePct options).serviceFee := by
      rw [priceAt_subtotal, priceAt_subtotal, priceAt_cleaningFee, priceAt_cleaningFee]
      linarith
    exact hparts
  rw [priceAt_gross, priceAt_gross, priceAt_subtotal, priceAt_subtotal, priceAt_cleaningFee,
    priceAt_cleaningFee]
  linarith

theorem priceAt_gross_of_free (h : rates.IsFree) :
    (priceAt rates nights rooms taxRatePct options).grossTotal = 0 := by
  have hrate : rates.nightlyRate = 0 := by simp [RateCard.nightlyRate, h.1, gridValue]
  have hclean : rates.cleaning = 0 := by simp [RateCard.cleaning, h.2, gridValue]
  simp [priceAt, hrate, hclean]

/-- Several rooms cost what one room costs exactly where they are free. -/
theorem priceAt_gross_eq_iff (hnights : 0 < nights) (hrooms : 1 < rooms) (htax : 0 ≤ taxRatePct) :
    (priceAt rates nights 1 taxRatePct options).grossTotal =
      (priceAt rates nights rooms taxRatePct options).grossTotal ↔ rates.IsFree := by
  constructor
  · intro h
    have hle := priceAt_gross_add_le rates options hnights.le hrooms.le htax
    have hrate := rates.nightlyRate_nonneg
    have hclean := rates.cleaning_nonneg
    have hn : (0 : ℚ) < nights := by exact_mod_cast hnights
    have hr : (0 : ℚ) < rooms - 1 := by
      have hone : (1 : ℚ) < rooms := by exact_mod_cast hrooms
      linarith
    have hnone : rates.nightlyRate * nights + rates.cleaning ≤ 0 := by
      rw [h] at hle
      push_cast at hle
      by_contra hpos
      have hproduct := mul_pos (not_le.mp hpos) hr
      linarith
    have hproduct : 0 ≤ rates.nightlyRate * nights := by positivity
    have hcleaning : rates.cleaning = 0 := by linarith
    have hnightly : rates.nightlyRate = 0 := by
      obtain hzero | hzero := mul_eq_zero.mp (le_antisymm (by linarith) hproduct)
      · exact hzero
      · exact absurd hzero hn.ne'
    simpa [RateCard.IsFree, RateCard.nightlyRate, RateCard.cleaning, gridValue] using
      And.intro hnightly hcleaning
  · intro h
    rw [priceAt_gross_of_free h, priceAt_gross_of_free h]

end Price

/-! ## What is stored -/

section Stored

variable {property : PricedProperty} {roomTypeId : Option ℕ} {checkIn checkOut rooms : ℤ}
variable {options : PriceOptions} {price : PriceBreakdown} {booking : PricedBooking}

theorem calculateTotal_eq_ok :
    calculateTotal property roomTypeId checkIn checkOut options = .ok price ↔
      0 < checkOut - checkIn ∧ ∃ rates, property.ratesFor roomTypeId = some rates ∧
        price = priceAt rates (checkOut - checkIn)
          (max 1 (if options.numRooms = 0 then 1 else options.numRooms))
          (options.taxRatePct.getD property.taxRatePct : ℚ≥0) options := by
  unfold calculateTotal
  by_cases hnights : checkOut - checkIn ≤ 0
  · simp only [hnights, ↓reduceIte, not_lt.mpr hnights, false_and, reduceCtorEq]
  · simp only [hnights, ↓reduceIte, not_le.mp hnights, true_and]
    cases property.ratesFor roomTypeId with
    | none => simp
    | some rates => simp [eq_comm]

theorem createPricedBooking_eq_ok :
    createPricedBooking property roomTypeId checkIn checkOut rooms = .ok booking ↔
      checkIn < checkOut ∧ 1 ≤ rooms ∧
        ∃ rates, property.ratesFor (roomTypeId <|> property.firstActiveRoomType) = some rates ∧
          booking =
            let price := priceAt rates (checkOut - checkIn) 1 property.taxRatePct {}
            { roomTypeId := roomTypeId <|> property.firstActiveRoomType
              checkIn, checkOut, numNights := checkOut - checkIn, roomsRequested := rooms
              nightlyRate := price.nightlyRate, cleaningFee := price.cleaningFee
              serviceFee := price.serviceFee, taxes := price.taxes
              totalAmount := price.total } := by
  unfold createPricedBooking
  by_cases hdates : checkOut ≤ checkIn
  · simp [hdates]
  · by_cases hrooms : rooms < 1
    · simp [hdates, hrooms]
    · have hlt : checkIn < checkOut := not_le.mp hdates
      have hone : 1 ≤ rooms := not_lt.mp hrooms
      have hnights : ¬ checkOut - checkIn ≤ 0 := by omega
      simp only [hdates, hrooms, ↓reduceIte, hlt, hone, true_and, calculateTotal, hnights]
      cases property.ratesFor (roomTypeId <|> property.firstActiveRoomType) with
      | none => simp
      | some rates => simp [eq_comm, priceAt]

/-- Every breakdown adds up, and the booking is stored at the price of its rooms, exactly where
one room is booked or the rooms are free. -/
theorem booking_price (property : PricedProperty) (roomTypeId : Option ℕ)
    (checkIn checkOut rooms : ℤ) (options : PriceOptions) :
    ((∀ price, calculateTotal property roomTypeId checkIn checkOut options = .ok price →
        price.Adds) ∧
      ∀ booking, createPricedBooking property roomTypeId checkIn checkOut rooms = .ok booking →
        ∃ price, calculateTotal property booking.roomTypeId checkIn checkOut
            { numRooms := rooms } = .ok price ∧ booking.totalAmount = price.total) ↔
      checkOut ≤ checkIn ∨ rooms ≤ 1 ∨
        ∀ rates ∈ property.ratesFor (roomTypeId <|> property.firstActiveRoomType),
          rates.IsFree := by
  have htax : (0 : ℚ) ≤ property.taxRatePct := property.taxRatePct.2
  have hadds : ∀ price, calculateTotal property roomTypeId checkIn checkOut options = .ok price →
      price.Adds := by
    intro price hprice
    obtain ⟨hnights, rates, -, rfl⟩ := calculateTotal_eq_ok.mp hprice
    exact priceAt_adds _ _ hnights.le (by omega) (NNRat.coe_nonneg _)
  rw [and_iff_right hadds]
  by_cases hdates : checkOut ≤ checkIn
  · simp only [hdates, true_or, iff_true]
    intro booking hbooking
    exact absurd (createPricedBooking_eq_ok.mp hbooking).1 (not_lt.mpr hdates)
  · have hlt : checkIn < checkOut := not_le.mp hdates
    have hnights : 0 < checkOut - checkIn := sub_pos.mpr hlt
    -- for the booking that is stored the two prices are those of one room and of all
    have hstored : ∀ rates, property.ratesFor (roomTypeId <|> property.firstActiveRoomType) =
        some rates → 1 ≤ rooms →
        ((∃ price, calculateTotal property (roomTypeId <|> property.firstActiveRoomType) checkIn
            checkOut { numRooms := rooms } = .ok price ∧
          (priceAt rates (checkOut - checkIn) 1 property.taxRatePct {}).total = price.total) ↔
        (priceAt rates (checkOut - checkIn) 1 property.taxRatePct {}).grossTotal =
          (priceAt rates (checkOut - checkIn) rooms property.taxRatePct {}).grossTotal) := by
      intro rates hrates hone
      have hmax : max 1 (if rooms = 0 then 1 else rooms) = rooms := by
        split <;> omega
      have hleft := priceAt_total rates hnights.le zero_le_one htax
      have hright := priceAt_total rates hnights.le (zero_le_one.trans hone) htax
      rw [hleft, ← hright]
      constructor
      · rintro ⟨price, hprice, htotal⟩
        obtain ⟨-, rates', hrates', rfl⟩ := calculateTotal_eq_ok.mp hprice
        obtain rfl : rates = rates' := Option.some.inj (hrates.symm.trans hrates')
        simp only [hmax] at htotal
        exact htotal
      · intro htotal
        refine ⟨_, calculateTotal_eq_ok.mpr ⟨hnights, rates, hrates, rfl⟩, ?_⟩
        simp only [hmax]
        exact htotal
    constructor
    · intro h
      refine .inr (or_iff_not_imp_left.mpr fun hmany rates hrates => ?_)
      have hone : 1 < rooms := not_le.mp hmany
      have hprice := h _ (createPricedBooking_eq_ok.mpr ⟨hlt, hone.le, rates, hrates, rfl⟩)
      exact (priceAt_gross_eq_iff hnights hone htax).mp ((hstored rates hrates hone.le).mp hprice)
    · intro h booking hbooking
      obtain ⟨-, hone, rates, hrates, rfl⟩ := createPricedBooking_eq_ok.mp hbooking
      refine (hstored rates hrates hone).mpr ?_
      rcases h.resolve_left hdates with hfew | hfree
      · rw [le_antisymm hfew hone]
      · rw [priceAt_gross_of_free (hfree rates hrates), priceAt_gross_of_free (hfree rates hrates)]

/-- Two rooms for two nights at 100.00 are stored at the price of one. -/
theorem two_rooms_stored_at_one :
    let property : PricedProperty := { rates := { basePricePerNight := 10000 } }
    (createPricedBooking property none 10 12 2).toOption.map PricedBooking.totalAmount =
        some 220 ∧
      (calculateTotal property none 10 12 { numRooms := 2 }).toOption.map PriceBreakdown.total =
        some 440 := by
  decide +kernel

end Stored

end Afcon360.Accommodation
