import Afcon360.Foundation.Guard
import Afcon360.Foundation.Json
import Afcon360.Foundation.Rounding
import Afcon360.Foundation.Run

/-!
# Promo codes on a booking

Amounts of a booking are columns of two decimals, kept in cents; discounts are exact. Instants
are seconds. A booking is what the database has of it: `apply_promo_code` loads the row, and
of what it changes on the object the commit writes a JSON column only where another object was
assigned to it. Upper case is a parameter.
-/

namespace Afcon360.Transport.PromotionService

open Foundation

inductive DiscountType
  | percentage | fixed
deriving DecidableEq, Repr

structure PromoDetails where
  discountType : DiscountType
  discountValue : ℚ
  minAmount : ℚ
  maxDiscount : Option ℚ
  validUntil : ℤ
  firstRideOnly : Bool := false
  serviceTypes : Option (List String) := none
deriving DecidableEq, Repr

/-- Midnight of 31 December 2026. -/
def endOf2026 : ℤ := 1798675200

def validCodes : List (String × PromoDetails) :=
  [ ("WELCOME10",
      { discountType := .percentage, discountValue := 10, minAmount := 20, maxDiscount := some 10,
        validUntil := endOf2026, serviceTypes := some ["on_demand", "airport_transfer"] }),
    ("AFCON25",
      { discountType := .percentage, discountValue := 25, minAmount := 50, maxDiscount := some 25,
        validUntil := endOf2026, serviceTypes := some ["stadium_shuttle", "hotel_transfer"] }),
    ("FIRSTRIDE",
      { discountType := .fixed, discountValue := 15, minAmount := 25, maxDiscount := some 15,
        validUntil := endOf2026, firstRideOnly := true }) ]

inductive PromoError
  | invalidCode
  | expiredCode
  | notFirstRide
  | invalidServiceType (serviceType : String)
  | minAmountNotMet (minAmount : ℚ)
  | alreadyApplied
deriving DecidableEq, Repr

/-- The text of an error; an amount of the table is written with two decimals. -/
def PromoError.message (amountText : ℚ → String) : PromoError → String
  | .invalidCode => "Invalid promo code"
  | .expiredCode => "Promo code has expired"
  | .notFirstRide => "Promo code only valid for first ride"
  | .invalidServiceType serviceType =>
    "Promo code not valid for " ++ serviceType ++ " service"
  | .minAmountNotMet minAmount =>
    "Minimum booking amount of $" ++ amountText minAmount ++ " required"
  | .alreadyApplied => "Promo code already applied to this booking"

/-- `_calculate_discount`. -/
def calculateDiscount (details : PromoDetails) (bookingAmount : ℚ) : ℚ :=
  let discount :=
    match details.discountType with
    | .percentage =>
      let discount := bookingAmount * (details.discountValue / 100)
      match details.maxDiscount with
      | some maxDiscount => if maxDiscount ≠ 0 then min discount maxDiscount else discount
      | none => discount
    | .fixed => details.discountValue
  min discount bookingAmount

/-- What the metadata of a booking says; `other` are the fields besides `promo_codes`. -/
structure BookingMetadata where
  promoCodes : Option (List String) := none
  other : Json.Fields := []

/-- A column value that counts as false: NULL, or an object without fields. -/
def falsy : Option BookingMetadata → Bool
  | none => true
  | some metadata => metadata.promoCodes.isNone && metadata.other.isEmpty

/-- The codes recorded on the booking. -/
def recorded (metadata : Option BookingMetadata) : List String :=
  (metadata.bind BookingMetadata.promoCodes).getD []

/-- A booking; the prices are not negative by table constraints. -/
structure Booking where
  userId : ℕ
  serviceType : String
  basePrice : ℕ
  finalPrice : ℕ
  promotionDiscount : Option ℤ := none
  bookingMetadata : Option BookingMetadata := none

/-- `final_price or base_price`, in cents. -/
def Booking.price (booking : Booking) : ℕ :=
  if booking.finalPrice ≠ 0 then booking.finalPrice else booking.basePrice

/-- A call: the text, the time it is made at, whether the customer has had a ride by then, and
whether the commit goes through. -/
structure Call where
  promoCode : String
  now : ℤ
  hasPreviousRides : Bool
  commits : Bool

section

variable (upper : String → String)

/-- `promo_code.strip().upper()`. -/
def cleanCode (promoCode : String) : String := upper (strip promoCode)

def detailsOf (promoCode : String) : Option PromoDetails :=
  validCodes.lookup (cleanCode upper promoCode)

/-- The validation of a code for a booking; it answers with the discount. -/
def validatePromoCode (booking : Booking) (call : Call) : Except PromoError ℚ :=
  match detailsOf upper call.promoCode with
  | none => .error .invalidCode
  | some details =>
    let estimatedPrice : ℚ := gridValue 100 booking.price
    if call.now > details.validUntil then .error .expiredCode
    else if details.firstRideOnly ∧ booking.userId ≠ 0 ∧ call.hasPreviousRides then
      .error .notFirstRide
    else if details.serviceTypes.any (fun types => booking.serviceType ∉ types) then
      .error (.invalidServiceType booking.serviceType)
    else if estimatedPrice < details.minAmount then
      .error (.minAmountNotMet details.minAmount)
    else .ok (calculateDiscount details estimatedPrice)

/-- What the column keeps of the discount so far and a new one. -/
def addDiscount (sofar : Option ℤ) (discount : ℚ) : ℤ :=
  roundHalfUp 100 (gridValue 100 (sofar.getD 0) + discount)

/-- The metadata object after the code was appended. -/
def appendCode (metadata : BookingMetadata) (promoCode : String) : BookingMetadata :=
  { metadata with promoCodes := some (metadata.promoCodes.getD [] ++ [promoCode]) }

/-- What the commit writes into the JSON column. Where the column had a value that counts as
true, the object it was loaded into was extended and assigned to itself, which is no change. -/
def writeMetadata (metadata : Option BookingMetadata) (promoCode : String) :
    Option BookingMetadata :=
  if falsy metadata then some (appendCode {} promoCode) else metadata

/-- The booking after the code was applied with this discount. -/
def Booking.discounted (booking : Booking) (promoCode : String) (discount : ℚ) : Booking :=
  { booking with
    promotionDiscount := some (addDiscount booking.promotionDiscount discount)
    bookingMetadata := writeMetadata booking.bookingMetadata promoCode }

def applyPromoCode (booking : Booking) (call : Call) : Except PromoError Booking :=
  if call.promoCode ∈ recorded booking.bookingMetadata then .error .alreadyApplied
  else
    match validatePromoCode upper booking call with
    | .error error => .error error
    | .ok discount => .ok (booking.discounted call.promoCode discount)

/-- A booking with the codes that were applied to it, in their normal form. -/
structure Desk where
  booking : Booking
  applied : List String := []

/-- One call on the booking; without its commit it leaves nothing. -/
def serve (desk : Desk) (call : Call) : Desk :=
  match applyPromoCode upper desk.booking call with
  | .error _ => desk
  | .ok booking =>
    if call.commits then ⟨booking, desk.applied ++ [cleanCode upper call.promoCode]⟩ else desk

/-- The discount of a recorded code, in the cents of its column. -/
def codeDiscount (booking : Booking) (promoCode : String) : ℤ :=
  match detailsOf upper promoCode with
  | none => 0
  | some details => roundHalfUp 100 (calculateDiscount details (gridValue 100 booking.price))

/-- What is asked of a booking: every code was applied at most once, the discount is that of
the recorded codes, and it does not exceed the price. -/
structure Consistent (desk : Desk) : Prop where
  once : desk.applied.Nodup
  recorded_sum : desk.booking.promotionDiscount.getD 0 =
    ((recorded desk.booking.bookingMetadata).map (codeDiscount upper desk.booking)).sum
  bounded : desk.booking.promotionDiscount.getD 0 ≤ desk.booking.price

/-- The call is accepted and its commit goes through. -/
def Applies (desk : Desk) (call : Call) : Prop :=
  call.commits = true ∧ ∃ booking, applyPromoCode upper desk.booking call = .ok booking

/-- A booking no code was applied to. -/
structure Fresh (desk : Desk) : Prop where
  applied : desk.applied = []
  discount : desk.booking.promotionDiscount.getD 0 = 0
  recorded : recorded desk.booking.bookingMetadata = []

/-! ### One call -/

variable {upper : String → String}

variable {call : Call} {desk : Desk}

/-- From its minimum amount on, a code is worth something, and never more than the booking. -/
theorem calculateDiscount_bounds {promoCode : String} {details : PromoDetails} {amount : ℚ}
    (h : detailsOf upper promoCode = some details) (hamount : details.minAmount ≤ amount) :
    2 ≤ calculateDiscount details amount ∧ calculateDiscount details amount ≤ amount := by
  obtain ⟨before, rest, hcodes, -⟩ := List.lookup_eq_some_iff.1 h
  have hmem : details ∈ validCodes.map Prod.snd := by
    rw [hcodes]
    simp
  refine ⟨?_, min_le_right _ _⟩
  simp only [validCodes, List.map_cons, List.map_nil, List.mem_cons, List.not_mem_nil,
    or_false] at hmem
  obtain rfl | rfl | rfl := hmem
  all_goals
    simp only at hamount
    simp only [calculateDiscount]
    norm_num
    try constructor
    all_goals linarith

theorem validatePromoCode_ok {booking : Booking} {discount : ℚ}
    (h : validatePromoCode upper booking call = .ok discount) :
    ∃ details, detailsOf upper call.promoCode = some details ∧
      details.minAmount ≤ gridValue 100 booking.price ∧
      discount = calculateDiscount details (gridValue 100 booking.price) := by
  unfold validatePromoCode at h
  cases hdetails : detailsOf upper call.promoCode with
  | none =>
    rw [hdetails] at h
    cases h
  | some details =>
    rw [hdetails] at h
    dsimp only at h
    split_ifs at h with hexpired hfirst hservice hamount
    cases h
    exact ⟨details, rfl, not_lt.1 hamount, rfl⟩

theorem applyPromoCode_ok {booking booking' : Booking}
    (h : applyPromoCode upper booking call = .ok booking') :
    ∃ details, detailsOf upper call.promoCode = some details ∧
      details.minAmount ≤ gridValue 100 booking.price ∧
      booking' = booking.discounted call.promoCode
        (calculateDiscount details (gridValue 100 booking.price)) := by
  unfold applyPromoCode at h
  split at h
  · cases h
  cases hvalid : validatePromoCode upper booking call with
  | error error =>
    rw [hvalid] at h
    cases h
  | ok discount =>
    rw [hvalid] at h
    cases h
    obtain ⟨details, hdetails, hamount, rfl⟩ := validatePromoCode_ok hvalid
    exact ⟨details, hdetails, hamount, rfl⟩

theorem serve_of_applies {booking' : Booking} (hcommits : call.commits = true)
    (happly : applyPromoCode upper desk.booking call = .ok booking') :
    serve upper desk call = ⟨booking', desk.applied ++ [cleanCode upper call.promoCode]⟩ := by
  simp only [serve, happly, hcommits, if_true]

/-- A call that is refused, or that is rolled back, leaves the booking. -/
theorem serve_of_not_applies (h : ¬ Applies upper desk call) :
    serve upper desk call = desk := by
  unfold serve
  cases happly : applyPromoCode upper desk.booking call with
  | error error => rfl
  | ok booking' => exact if_neg fun hcommits => h ⟨hcommits, booking', happly⟩

/-- The first code of a booking whose metadata is empty: the column keeps its discount. -/
theorem addDiscount_first {sofar : Option ℤ} (h : sofar.getD 0 = 0) (discount : ℚ) :
    addDiscount sofar discount = roundHalfUp 100 discount := by
  simp [addDiscount, h, gridValue]

/-- A discount of two units moves the column. -/
theorem lt_addDiscount {sofar : Option ℤ} {discount : ℚ} (h : 2 ≤ discount) :
    sofar.getD 0 < addDiscount sofar discount := by
  refine lt_of_lt_of_le (lt_add_one _) (le_roundHalfUp ?_)
  have hgrid : gridValue 100 (sofar.getD 0) * (100 : ℕ) = (sofar.getD 0 : ℤ) :=
    gridValue_mul (by norm_num)
  push_cast at hgrid ⊢
  linarith

/-- The state between calls: it is consistent, and where the metadata is empty no code has been
applied yet. -/
def Between (upper : String → String) (desk : Desk) : Prop :=
  Consistent upper desk ∧ (falsy desk.booking.bookingMetadata = true → Fresh desk)

theorem Fresh.between (h : Fresh desk) : Between upper desk := by
  refine ⟨⟨by simp [h.applied], by simp [h.discount, h.recorded], ?_⟩, fun _ => h⟩
  rw [h.discount]
  positivity

@[simp] theorem codeDiscount_discounted (booking : Booking) (promoCode : String) (discount : ℚ) :
    codeDiscount upper (booking.discounted promoCode discount) = codeDiscount upper booking := rfl

/-- A code that is applied to empty metadata leaves the booking consistent. -/
theorem consistent_first (hfresh : Fresh desk)
    (hfalsy : falsy desk.booking.bookingMetadata = true) (happlies : Applies upper desk call) :
    Consistent upper (serve upper desk call) := by
  obtain ⟨hcommits, booking', happly⟩ := happlies
  obtain ⟨details, hdetails, hamount, rfl⟩ := applyPromoCode_ok happly
  have hdiscount := addDiscount_first hfresh.discount
    (calculateDiscount details (gridValue 100 desk.booking.price))
  have hle := (calculateDiscount_bounds hdetails hamount).2
  rw [serve_of_applies hcommits happly]
  refine ⟨by simp [hfresh.applied], ?_, ?_⟩
  · have hcode : codeDiscount upper desk.booking call.promoCode =
        roundHalfUp 100 (calculateDiscount details (gridValue 100 desk.booking.price)) := by
      simp [codeDiscount, hdetails]
    have hrecorded : recorded (writeMetadata desk.booking.bookingMetadata call.promoCode) =
        [call.promoCode] := by
      simp [writeMetadata, hfalsy, recorded, appendCode]
    rw [codeDiscount_discounted]
    change addDiscount _ _ = ((recorded (writeMetadata _ _)).map _).sum
    rw [hdiscount, hrecorded, List.map_singleton, List.sum_singleton, hcode]
  · change addDiscount _ _ ≤ (desk.booking.price : ℤ)
    rw [hdiscount]
    refine roundHalfUp_le ?_
    have hgrid : gridValue 100 desk.booking.price * (100 : ℕ) = (desk.booking.price : ℤ) :=
      gridValue_mul (by norm_num)
    push_cast at hgrid ⊢
    linarith

/-- A code that is applied to other metadata moves the discount and is not recorded. -/
theorem not_consistent_later (hdesk : Consistent upper desk)
    (hfalsy : falsy desk.booking.bookingMetadata = false) (happlies : Applies upper desk call) :
    ¬ Consistent upper (serve upper desk call) := by
  obtain ⟨hcommits, booking', happly⟩ := happlies
  obtain ⟨details, hdetails, hamount, rfl⟩ := applyPromoCode_ok happly
  have hmoved : desk.booking.promotionDiscount.getD 0 <
      addDiscount desk.booking.promotionDiscount
        (calculateDiscount details (gridValue 100 desk.booking.price)) :=
    lt_addDiscount (calculateDiscount_bounds hdetails hamount).1
  have hwritten : writeMetadata desk.booking.bookingMetadata call.promoCode =
      desk.booking.bookingMetadata := by
    simp [writeMetadata, hfalsy]
  rw [serve_of_applies hcommits happly]
  intro hafter
  have hsum := hafter.recorded_sum
  rw [codeDiscount_discounted] at hsum
  change addDiscount _ _ = ((recorded (writeMetadata _ _)).map _).sum at hsum
  rw [hwritten, ← hdesk.recorded_sum] at hsum
  exact hmoved.ne' hsum

/-- What one call preserves: from a consistent booking it leaves a consistent one exactly when
a code is applied only to empty metadata. -/
theorem consistent_serve_iff (h : Between upper desk) (call : Call) :
    Consistent upper (serve upper desk call) ↔
      (Applies upper desk call → falsy desk.booking.bookingMetadata = true) := by
  by_cases happlies : Applies upper desk call
  · simp only [happlies, true_imp_iff]
    constructor
    · intro hafter
      by_contra hfalsy
      exact not_consistent_later h.1 (Bool.eq_false_iff.2 hfalsy) happlies hafter
    · intro hfalsy
      exact consistent_first (h.2 hfalsy) hfalsy happlies
  · rw [serve_of_not_applies happlies]
    exact iff_of_true h.1 fun h => absurd h happlies

/-- Once a code is applied the metadata is not empty any more. -/
theorem falsy_serve (happlies : Applies upper desk call) :
    falsy (serve upper desk call).booking.bookingMetadata = false := by
  obtain ⟨hcommits, booking', happly⟩ := happlies
  obtain ⟨details, -, -, rfl⟩ := applyPromoCode_ok happly
  rw [serve_of_applies hcommits happly]
  change falsy (writeMetadata desk.booking.bookingMetadata call.promoCode) = false
  unfold writeMetadata
  split
  · rfl
  · rename_i hfalsy
    exact Bool.eq_false_iff.2 hfalsy

theorem between_serve (h : Between upper desk) (hafter : Consistent upper (serve upper desk call)) :
    Between upper (serve upper desk call) := by
  refine ⟨hafter, fun hfalsy => ?_⟩
  by_cases happlies : Applies upper desk call
  · rw [falsy_serve happlies] at hfalsy
    cases hfalsy
  · rw [serve_of_not_applies happlies] at hfalsy ⊢
    exact h.2 hfalsy

/-! ### Sequences of calls -/

/-- Along every sequence of calls on a booking without codes, the booking stays consistent
exactly when every code that is applied finds the metadata empty. -/
theorem promo_codes_consistent (upper : String → String) (desk : Desk) (calls : List Call)
    (hfresh : Fresh desk) :
    Along (serve upper) (fun desk call => Consistent upper (serve upper desk call)) desk calls ↔
      Along (serve upper) (fun desk call => Applies upper desk call →
        falsy desk.booking.bookingMetadata = true) desk calls :=
  along_iff (Between upper) (fun _ _ => between_serve)
    (fun _ call h => consistent_serve_iff h call) hfresh.between

end

/-- A first ride for 25.00, with empty metadata. -/
def firstRide : Desk where
  booking :=
    { userId := 7, serviceType := "on_demand", basePrice := 2500, finalPrice := 2500,
      bookingMetadata := some {} }

theorem firstRide_fresh : Fresh firstRide := ⟨rfl, rfl, rfl⟩

theorem firstRide_consistent :
    Along (serve String.toUpper)
      (fun desk call => Consistent String.toUpper (serve String.toUpper desk call)) firstRide
      [⟨"FIRSTRIDE", 0, false, true⟩] :=
  (promo_codes_consistent String.toUpper firstRide _ firstRide_fresh).2
    (along_cons.2 ⟨fun _ => rfl, along_nil _ _ _⟩)

/-- The same code in another spelling is applied again and not recorded: 30.00 off a ride for
25.00, of which the metadata explains 15.00. -/
theorem firstRide_twice : Fresh firstRide ∧
    ¬ (serve String.toUpper (serve String.toUpper firstRide ⟨"FIRSTRIDE", 0, false, true⟩)
      ⟨" firstride ", 0, false, true⟩).applied.Nodup ∧
    codeDiscount String.toUpper firstRide.booking "FIRSTRIDE" = 1500 ∧
    recorded (serve String.toUpper (serve String.toUpper firstRide ⟨"FIRSTRIDE", 0, false, true⟩)
      ⟨" firstride ", 0, false, true⟩).booking.bookingMetadata = ["FIRSTRIDE"] ∧
    (serve String.toUpper (serve String.toUpper firstRide ⟨"FIRSTRIDE", 0, false, true⟩)
      ⟨" firstride ", 0, false, true⟩).booking.promotionDiscount = some 3000 ∧
    firstRide.booking.price = 2500 := by
  have happlied : (serve String.toUpper (serve String.toUpper firstRide
      ⟨"FIRSTRIDE", 0, false, true⟩) ⟨" firstride ", 0, false, true⟩).applied =
        ["FIRSTRIDE", "FIRSTRIDE"] := by decide +kernel
  refine ⟨firstRide_fresh, ?_, ?_⟩
  · rw [happlied]
    decide
  · decide +kernel

end Afcon360.Transport.PromotionService
