import Afcon360.Foundation.Guard
import Afcon360.Foundation.Rounding
import Afcon360.Transport.Assignment
import Afcon360.Transport.OfferStore

/-!
# Cancelling a booking

`BookingService.cancel_booking` is for the booker, the assigned driver and the provider of
a booking. It is told the id of a user and compares it with three columns of the booking:
the booker is a user, but the assigned driver is a driver profile and the provider is
numbered by its own kind. The three numberings have nothing to do with each other.

Bookings, driver profiles and vehicles are named by their positions in the tables, times are
in microseconds.
-/

namespace Afcon360.Transport

open Foundation

inductive ProviderType
  | individualDriver | hotelFleet | tourOperator | transportCompany | externalPlatform
deriving DecidableEq, Repr

/-- `booking_metadata["cancellation"]`. -/
structure CancellationFact where
  fee : ℚ
  currency : String
  tier : String
  refundAmountEstimate : ℚ
  initiatedBy : String
  scheduled : Bool
  percentage : ℕ
  recordedAt : ℤ
deriving DecidableEq, Repr

/-- An entry of `booking_metadata["driver_cancellation_credits"]`. -/
structure DriverCredit where
  driverCode : String
  driverUserPublicId : Option String
  amount : ℚ
  currency : String
  reason : String
  bookingReference : String
  recordedAt : ℤ
deriving DecidableEq, Repr

/-- The columns `cancellation_*`. -/
structure CancellationColumns where
  cancelledAt : ℤ
  reason : Option String
  reasonCategory : Option String
  safetyFlag : Bool
  stage : BookingStatus
  fee : ℚ
  initiatedBy : String
deriving DecidableEq, Repr

structure BookingRecord extends Booking where
  bookingReference : String
  userId : ℕ
  providerType : ProviderType
  providerId : Option ℕ := none
  /-- `booking_metadata["booking_mode"]` -/
  bookingMode : String := ""
  pickupTime : Option ℤ := none
  finalPrice : Option ℚ := none
  currency : String := "UGX"
  cancellation : Option CancellationColumns := none
  cancellationFact : Option CancellationFact := none
  driverCredits : List DriverCredit := []
deriving DecidableEq, Repr

structure DriverRecord extends DriverProfile where
  userId : ℕ
  driverCode : String
  userPublicId : Option String := none
deriving DecidableEq, Repr

/-- The committed tables and the offers. -/
structure CancellationDesk where
  bookings : List BookingRecord
  drivers : List DriverRecord
  vehicles : List Vehicle
  offers : OfferStore

inductive CancelError
  | notFound (message : String)
  | permission (message : String)
  | validation (message : String)
deriving DecidableEq, Repr

/-- The `data` of the answer. -/
structure CancelReceipt where
  bookingReference : String
  cancellationFee : ℚ
  refundAmount : ℚ
  currency : String
  feeTier : String
  driverCredit : ℚ
  stageAtCancellation : BookingStatus
  safetyCancellation : Bool
deriving DecidableEq, Repr

/-- The arguments that do not say who calls. -/
structure CancelArgs where
  reason : Option String := none
  reasonCategory : Option String := none
  safetyFlag : Bool := false
deriving DecidableEq, Repr

/-! ## The policy -/

/-- `_money` -/
def bookingMoney (value : Option ℚ) : ℚ :=
  match value with
  | none => 0
  | some amount => gridValue 100 (roundHalfEven 100 amount)

structure CancellationPolicy where
  scheduled : Bool
  fee : ℚ
  currency : String
  tier : String
  percentage : ℕ
deriving DecidableEq, Repr

def minute : ℤ := 60 * 1000000

namespace BookingRecord

/-- `_booking_mode(booking) == SCHEDULED_BOOKING_MODE` -/
def scheduled (booking : BookingRecord) : Bool :=
  (strip booking.bookingMode).toLower = "scheduled"

/-- `_booking_currency_code` -/
def currencyCode (booking : BookingRecord) : String :=
  (strip (if booking.currency = "" then "UGX" else booking.currency)).toUpper

/-- `_cancellation_policy`: only a scheduled booking costs something, and only within the
hour before its pickup. -/
def cancellationPolicy (booking : BookingRecord) (now : ℤ) : CancellationPolicy :=
  let currency := booking.currencyCode
  if ¬ booking.scheduled then ⟨false, 0, currency, "not_scheduled", 0⟩
  else
    match booking.pickupTime with
    | none => ⟨true, 0, currency, "unreleased_pickup", 0⟩
    | some pickup =>
      let fare := max 0 (bookingMoney booking.finalPrice)
      if 60 * minute < pickup - now then ⟨true, 0, currency, "more_than_1h", 0⟩
      else
        let (percentage, cap, tier) : ℕ × ℚ × String :=
          if 15 * minute ≤ pickup - now then (20, 10000, "15m_to_1h")
          else (40, 20000, "under_15m")
        let fee := min (min (bookingMoney (some (fare * percentage / 100))) cap) fare
        ⟨true, bookingMoney (some fee), currency, tier, percentage⟩

/-- `_append_driver_credit` -/
def appendDriverCredit (booking : BookingRecord) (driver : DriverRecord) (amount : ℚ)
    (currency reason : String) (now : ℤ) : List DriverCredit :=
  let credit := bookingMoney (some amount)
  if credit ≤ 0 then booking.driverCredits
  else booking.driverCredits ++
    [⟨driver.driverCode, driver.userPublicId, credit, currency, reason,
      booking.bookingReference, now⟩]

end BookingRecord

/-- `PRE_ASSIGNMENT_STATUSES` -/
def BookingStatus.preAssignment : BookingStatus → Bool
  | .pendingPayment => true
  | .confirmed => true
  | _ => false

/-- `ALL_CANCELLABLE_STATUSES`: those after the assignment are the ones in which a driver
may still cancel. -/
def BookingStatus.cancellable (status : BookingStatus) : Bool :=
  status.preAssignment || status.driverCancellable

/-- `SAFETY_CATEGORIES` -/
def safetyCategories : List String :=
  ["driver_vehicle_mismatch", "driver_identity_mismatch", "safety_concern",
    "driver_requested_cancel", "unexpected_driver_behaviour"]

/-! ## The release -/

/-- `cleanup_offer` of a whole booking, with no command of another call in between. -/
def OfferStore.cleanupBooking (s : OfferStore) (ref : String) : OfferStore :=
  { s with
    offers := fun key => if key.1 = ref ∧ key.2 ∈ s.index ref then none else s.offers key
    legacy := Function.update s.legacy ref none
    driverOffers := fun driver =>
      if driver ∈ s.index ref then (s.driverOffers driver).erase ref else s.driverOffers driver
    index := Function.update s.index ref ∅ }

namespace CancellationDesk

/-- The columns that assignments are about. -/
def fleet (desk : CancellationDesk) : FleetTables where
  bookings := desk.bookings.map BookingRecord.toBooking
  drivers := desk.drivers.map DriverRecord.toDriverProfile
  vehicles := desk.vehicles

def setBooking (desk : CancellationDesk) (bookingId : ℕ) (booking : BookingRecord) :
    CancellationDesk :=
  { desk with bookings := desk.bookings.set bookingId booking }

/-- The vehicle is free again unless another active booking has it. -/
def freeVehicle (desk : CancellationDesk) (bookingId : ℕ) : Option ℕ → CancellationDesk
  | none => desk
  | some vehicleId =>
    if desk.fleet.engagedOther (.vehicle vehicleId) bookingId then desk
    else
      { desk with
        vehicles := desk.vehicles.modify vehicleId fun vehicle =>
          if !vehicle.isAvailable && !vehicle.isDeleted then { vehicle with isAvailable := true }
          else vehicle }

def cleanupOffer (desk : CancellationDesk) (ref : String) : CancellationDesk :=
  { desk with offers := desk.offers.cleanupBooking ref }

/-- `AssignmentService.release` -/
def release (desk : CancellationDesk) (bookingId : ℕ) (terminal : BookingStatus) :
    Except DispatchClaimError CancellationDesk :=
  if ¬ terminal.terminalRelease then
    .error ⟨"invalid_state", terminal.value ++ " is not a terminal release status"⟩
  else
    match desk.bookings[bookingId]? with
    | none => .error ⟨"booking_unavailable", "booking not found"⟩
    | some row =>
      if row.isAssigned then
        if row.active then
          .ok (((desk.setBooking bookingId
              { row with
                status := terminal, assignedDriverId := none, assignedVehicleId := none
                }).freeVehicle bookingId row.assignedVehicleId).cleanupOffer
            row.bookingReference)
        else .error ⟨"invalid_state", "booking is not in an active assignment state"⟩
      else if row.isDeleted then .error ⟨"invalid_state", "booking is not releasable"⟩
      else
        .ok ((desk.setBooking bookingId { row with status := terminal }).cleanupOffer
          row.bookingReference)

/-! ## The call -/

/-- What a cancellation is going to write on the row, and its answer. -/
def settle (desk : CancellationDesk) (booking : BookingRecord) (userId : ℕ) (args : CancelArgs)
    (now : ℤ) : BookingRecord × CancelReceipt :=
  let isSafety := (args.reasonCategory.getD "").toLower ∈ safetyCategories
  let safetyFlag := args.safetyFlag || isSafety
  let isRider : Bool := booking.userId = userId
  let initiatedBy := if isRider then "rider" else "admin"
  let policy := booking.cancellationPolicy now
  let (fee, tier) : ℚ × String :=
    if isSafety then (0, "safety")
    else if ¬ isRider then (0, "non_rider")
    else (policy.fee, policy.tier)
  let refund := bookingMoney (some (max 0 (bookingMoney booking.finalPrice - fee)))
  let driver :=
    if isRider ∧ 0 < fee then booking.assignedDriverId.bind (desk.drivers[·]?) else none
  let credit := bookingMoney (some (fee * (80 / 100)))
  ({ booking with
      cancellation := some
        ⟨now, args.reason, args.reasonCategory, safetyFlag, booking.status, fee, initiatedBy⟩
      cancellationFact := some
        ⟨fee, policy.currency, tier, refund, initiatedBy, policy.scheduled,
          if tier ∈ ["safety", "non_rider"] then 0 else policy.percentage, now⟩
      driverCredits :=
        match driver with
        | none => booking.driverCredits
        | some driver =>
          booking.appendDriverCredit driver credit policy.currency "late_cancellation" now },
    ⟨booking.bookingReference, fee, refund, policy.currency, tier,
      if driver.isSome then credit else 0, booking.status, safetyFlag⟩)

/-- `cancel_booking`, with the desk it leaves: whatever it raises, it rolls back. -/
def cancelBooking (desk : CancellationDesk) (bookingId userId : ℕ) (args : CancelArgs) (now : ℤ) :
    Except CancelError CancelReceipt × CancellationDesk :=
  match desk.bookings[bookingId]? with
  | none => (.error (.notFound "Booking not found"), desk)
  | some booking =>
    if booking.userId ≠ userId ∧ booking.assignedDriverId ≠ some userId ∧
        booking.providerId ≠ some userId then
      (.error (.permission "Cannot cancel another user's booking"), desk)
    else if booking.isDeleted then (.error (.notFound "Booking not found"), desk)
    else if ¬ booking.status.cancellable then
      (.error (.validation ("Cannot cancel booking in " ++ booking.status.value ++ " stage. " ++
        "Normal rider cancellation is only available before the trip starts.")), desk)
    else
      let (row, receipt) := desk.settle booking userId args now
      if booking.status.preAssignment then
        (.ok receipt, desk.setBooking bookingId { row with status := .cancelled })
      else
        -- the columns are flushed before the release reads the row
        match (desk.setBooking bookingId row).release bookingId .cancelled with
        | .error e => (.error (.validation e.message), desk)
        | .ok after => (.ok receipt, after)

/-! ## Who may cancel -/

variable {desk : CancellationDesk} {bookingId userId : ℕ} {booking : BookingRecord}
  {args : CancelArgs} {now : ℤ}

/-- The id is one of the three that the call compares it with. -/
def Matches (booking : BookingRecord) (userId : ℕ) : Prop :=
  booking.userId = userId ∨ booking.assignedDriverId = some userId ∨
    booking.providerId = some userId

/-- The call raises `PermissionError`. -/
def Denied (result : Except CancelError CancelReceipt) : Prop :=
  ∃ message, result = .error (.permission message)

theorem cancelBooking_of_not_matches (hrow : desk.bookings[bookingId]? = some booking)
    (h : ¬ Matches booking userId) (args : CancelArgs) (now : ℤ) :
    desk.cancelBooking bookingId userId args now =
      (.error (.permission "Cannot cancel another user's booking"), desk) := by
  simp only [Matches, not_or] at h
  simp [cancelBooking, hrow, h]

/-- Past the first check nothing is a matter of permission. -/
theorem not_denied_of_matches (hrow : desk.bookings[bookingId]? = some booking)
    (h : Matches booking userId) (args : CancelArgs) (now : ℤ) :
    ¬ Denied (desk.cancelBooking bookingId userId args now).1 := by
  have hpass : ¬ (booking.userId ≠ userId ∧ booking.assignedDriverId ≠ some userId ∧
      booking.providerId ≠ some userId) := by
    intro ⟨hbooker, hdriver, hprovider⟩
    exact h.elim hbooker fun h => h.elim hdriver hprovider
  rintro ⟨message, hdenied⟩
  unfold cancelBooking at hdenied
  simp only [hrow, if_neg hpass] at hdenied
  split at hdenied
  · cases hdenied
  split at hdenied
  · cases hdenied
  split at hdenied
  · cases hdenied
  split at hdenied
  · cases hdenied
  · cases hdenied

/-- The permission error depends on three columns of the booking and on the user. -/
theorem denied_iff (hrow : desk.bookings[bookingId]? = some booking) :
    Denied (desk.cancelBooking bookingId userId args now).1 ↔ ¬ Matches booking userId := by
  constructor
  · intro hdenied h
    exact not_denied_of_matches hrow h args now hdenied
  · intro h
    rw [cancelBooking_of_not_matches hrow h]
    exact ⟨_, rfl⟩

/-! ## The people -/

/-- The user account of the assigned driver. -/
def IsDriver (desk : CancellationDesk) (booking : BookingRecord) (userId : ℕ) : Prop :=
  ∃ driver, booking.assignedDriverId.bind (desk.drivers[·]?) = some driver ∧
    driver.userId = userId

/-- Neither the booker, nor the user account of the assigned driver, nor that of the
provider; `account` is the user account of a provider, by kind and number. -/
def Stranger (account : ProviderType → ℕ → Option ℕ) (desk : CancellationDesk)
    (booking : BookingRecord) (userId : ℕ) : Prop :=
  booking.userId ≠ userId ∧ ¬ desk.IsDriver booking userId ∧
    booking.providerId.bind (account booking.providerType) ≠ some userId

/-- A stranger is refused and nothing changes; the driver is not refused. -/
def Authority (account : ProviderType → ℕ → Option ℕ) (desk : CancellationDesk) (bookingId : ℕ)
    (booking : BookingRecord) (userId : ℕ) : Prop :=
  (desk.Stranger account booking userId → ∀ args now,
    Denied (desk.cancelBooking bookingId userId args now).1 ∧
      (desk.cancelBooking bookingId userId args now).2 = desk) ∧
  (desk.IsDriver booking userId → ∀ args now,
    ¬ Denied (desk.cancelBooking bookingId userId args now).1)

/-- No offers. -/
def noOffers : OfferStore where
  now := 0
  offers _ := none
  legacy _ := none
  driverOffers _ := ∅
  index _ := ∅
  sweepLock := none

/-- A booking of user 7 whose driver is profile 1, of user 9. -/
def coincidence : CancellationDesk where
  bookings := [{ status := .assigned, assignedDriverId := some 1, assignedVehicleId := some 0
                 bookingReference := "AFC-1", userId := 7, providerType := .hotelFleet
                 providerId := some 3 }]
  drivers := [{ isOnline := true, userId := 6, driverCode := "DRV-0" },
    { isOnline := true, userId := 9, driverCode := "DRV-1" }]
  vehicles := [{ isAvailable := false }]
  offers := noOffers

/-- Strangers are kept out and the driver is let in exactly when the numbers happen to say
so: no stranger has the number of the driver profile or of the provider, and the driver's
user account is the booker's or has one of these numbers. -/
theorem cancellation_authority (account : ProviderType → ℕ → Option ℕ)
    (hrow : desk.bookings[bookingId]? = some booking) (userId : ℕ) :
    desk.Authority account bookingId booking userId ↔
      (desk.Stranger account booking userId →
        booking.assignedDriverId ≠ some userId ∧ booking.providerId ≠ some userId) ∧
      (desk.IsDriver booking userId →
        booking.userId = userId ∨ booking.assignedDriverId = some userId ∨
          booking.providerId = some userId) := by
  constructor
  · intro ⟨hstranger, hdriver⟩
    constructor
    · intro h
      have hnot : ¬ Matches booking userId := (denied_iff hrow).mp (hstranger h {} 0).1
      simp only [Matches, not_or] at hnot
      exact hnot.2
    · intro h
      exact not_not.mp fun hnot => hdriver h {} 0 ((denied_iff hrow).mpr hnot)
  · intro ⟨hstranger, hdriver⟩
    constructor
    · intro h args now
      have hnot : ¬ Matches booking userId := by
        rintro (hbooker | hprofile | hprovider)
        · exact h.1 hbooker
        · exact (hstranger h).1 hprofile
        · exact (hstranger h).2 hprovider
      rw [cancelBooking_of_not_matches hrow hnot]
      exact ⟨⟨_, rfl⟩, rfl⟩
    · intro h args now
      exact not_denied_of_matches hrow (hdriver h) args now

/-- User 8 has nobody's number and is refused. -/
theorem cancellation_authority_stranger :
    coincidence.Authority (fun _ _ => some 5) 0 coincidence.bookings[0] 8 := by
  refine (cancellation_authority (fun _ _ => some 5) (by rfl) 8).mpr ⟨fun _ => by decide, ?_⟩
  rintro ⟨driver, hdriver, huser⟩
  obtain rfl : coincidence.drivers[1] = driver := Option.some.inj hdriver
  exact absurd huser (by decide)

/-- User 1 is not refused, since the driver profile has the number 1; user 9 is the driver
and is. -/
theorem coincidence_confuses :
    ¬ coincidence.Authority (fun _ _ => some 5) 0 coincidence.bookings[0] 1 ∧
      ¬ coincidence.Authority (fun _ _ => some 5) 0 coincidence.bookings[0] 9 := by
  have hrow : coincidence.bookings[0]? = some coincidence.bookings[0] := rfl
  constructor
  · intro h
    have hstranger : coincidence.Stranger (fun _ _ => some 5) coincidence.bookings[0] 1 := by
      refine ⟨by decide, ?_, by decide⟩
      rintro ⟨driver, hdriver, huser⟩
      obtain rfl : coincidence.drivers[1] = driver := Option.some.inj hdriver
      exact absurd huser (by decide)
    have hdenied := (h.1 hstranger {} 0).1
    exact (denied_iff hrow).mp hdenied (.inr (.inl (by decide)))
  · intro h
    refine h.2 ⟨coincidence.drivers[1], rfl, rfl⟩ {} 0 ((denied_iff hrow).mpr ?_)
    unfold Matches
    decide

end CancellationDesk

end Afcon360.Transport
