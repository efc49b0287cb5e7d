import Mathlib.Data.List.Sort
import Afcon360.Foundation.Guard
import Afcon360.Transport.Assignment
import Afcon360.Transport.Reservation

/-!
# What a reservation is asked for and what it is created with

`create_reservation` validates its arguments, binds the caller's key to a fingerprint of
them, asks the policy evaluator, proves that the vehicles of a specific request belong to
the provider, and writes a header with one line for each vehicle or unit. This module has
the parts of the call that touch no reservation table; the statements that do are in
`ReservationDesk`.

The fingerprint is SHA-256 of the JSON text of the canonical request. The text is
determined by the canonical values and determines them, so the digest here is a function of
these values. A datetime in UTC is its instant, and a decimal printed in fixed-point form
is its digits with the number of places behind the point.
-/

namespace Afcon360.Transport

open Foundation

/-- A datetime: its wall clock in microseconds and its offset, which a naive one lacks. -/
structure DateTime where
  wall : ℤ
  utcoffset : Option ℤ
deriving DecidableEq, Repr

/-- `astimezone(timezone.utc)`. -/
def DateTime.instant (time : DateTime) : ℤ := time.wall - time.utcoffset.getD 0

/-- A decimal with its exponent. -/
structure Decimal where
  coefficient : ℤ
  exponent : ℤ
deriving DecidableEq, Repr

/-- The digits of a fixed-point text and how many of them stand behind the point. -/
structure FixedPoint where
  digits : ℤ
  places : ℕ
deriving DecidableEq, Repr

namespace Decimal

def value (amount : Decimal) : ℚ :=
  if 0 ≤ amount.exponent then amount.coefficient * 10 ^ amount.exponent.toNat
  else amount.coefficient / 10 ^ (-amount.exponent).toNat

/-- `format(value, "f")`: a positive exponent is written out, a negative one gives the
places. -/
def formatF (amount : Decimal) : FixedPoint :=
  if 0 ≤ amount.exponent then ⟨amount.coefficient * 10 ^ amount.exponent.toNat, 0⟩
  else ⟨amount.coefficient, (-amount.exponent).toNat⟩

end Decimal

def FixedPoint.value (text : FixedPoint) : ℚ := text.digits / 10 ^ text.places

theorem Decimal.value_formatF (amount : Decimal) : amount.formatF.value = amount.value := by
  unfold formatF Decimal.value
  split
  · simp [FixedPoint.value]
  · simp [FixedPoint.value]

/-- The arguments of `create_reservation`; `actor` is `none` when nobody is logged in. -/
structure ReservationRequest where
  actor : Option ℕ
  offeringCode : String
  providerType : String
  providerId : ℤ
  windowStart : DateTime
  windowEnd : DateTime
  requiredQuantity : ℤ
  mode : String
  idempotencyKey : String
  paymentMethod : Option String := none
  paymentTiming : Option String := none
  commercialPolicyRef : Option String := none
  onBehalfOfOrganisationId : Option ℤ := none
  authorityEvidence : Option (List (String × String)) := none
  eventId : Option ℤ := none
  contextSource : Option String := none
  contextRef : Option String := none
  specificVehicleIds : Option (List ℤ) := none
  estimatedValue : Option Decimal := none
deriving DecidableEq, Repr

structure TransportOffering where
  code : String
  minSeats : ℤ
  maxSeats : ℤ
  /-- `compatible_vehicle_classes` of the metadata; empty when there are none. -/
  compatibleVehicleClasses : List String := []
deriving DecidableEq, Repr

/-- The columns of a vehicle that a specific reservation reads. -/
structure OwnedVehicle extends Vehicle where
  ownerType : String
  ownerId : ℤ
  passengerCapacity : ℤ
  vehicleClass : Option String
deriving DecidableEq, Repr

/-- The tables and settings that the reservation service reads and never writes. -/
structure ReservationContext where
  /-- The active offering of a normalised code. -/
  offering : String → Option TransportOffering
  vehicle : ℤ → Option OwnedVehicle
  enabledPaymentMethods : List String
  depositLeadHours : ℤ
  depositPercent : ℚ
  commercialPolicy : String → Option String
  /-- Why the user may not act for the organisation, if so. -/
  authorityDenied : ℕ → ℤ → Option String
  /-- `actor_can_access_reservation`. -/
  canAccess : ℕ → TransportReservation → Bool

def reservationModes : List String := ["capacity", "specific"]

namespace ReservationRequest

variable (request : ReservationRequest)

def pool : Pool := ⟨request.providerType, request.providerId, request.offeringCode⟩

def vehicleIds : List ℤ := request.specificVehicleIds.getD []

def isSpecific : Bool := request.mode = "specific"

/-- The checks before the first statement on the reservation tables. -/
def check (context : ReservationContext) : Except ReservationError (ℕ × TransportOffering) :=
  if request.windowStart.utcoffset.isNone ∨ request.windowEnd.utcoffset.isNone then
    .error (.validation "window_start and window_end must be timezone-aware")
  else if request.windowEnd.instant ≤ request.windowStart.instant then
    .error (.validation "window_end must be strictly after window_start")
  else if request.requiredQuantity ≤ 0 then
    .error (.validation "required_quantity must be a positive integer")
  else if request.mode ∉ reservationModes then
    .error (.validation "mode must be one of ['capacity', 'specific']")
  else
    match request.actor with
    | none => .error (.permission "Authentication required")
    | some user =>
      if request.idempotencyKey = "" then .error (.validation "idempotency_key is required")
      else
        match context.offering (strip request.offeringCode).toLower with
        | none => .error (.notFound ("Unknown or inactive offering '" ++
            request.offeringCode ++ "'"))
        | some offering =>
          if request.isSpecific ∧ (request.vehicleIds = [] ∨
              (request.vehicleIds.length : ℤ) ≠ request.requiredQuantity) then
            .error (.validation
              "specific mode requires exactly `required_quantity` vehicle ids")
          else .ok (user, offering)

end ReservationRequest

/-! ## The fingerprint -/

/-- The canonical values that are hashed. -/
structure CanonicalRequest where
  offeringCode : String
  providerType : String
  providerId : ℤ
  windowStart : ℤ
  windowEnd : ℤ
  requiredQuantity : ℤ
  mode : String
  paymentMethod : Option String
  paymentTiming : Option String
  commercialPolicyRef : Option String
  onBehalfOfOrganisationId : Option ℤ
  eventId : Option ℤ
  contextSource : Option String
  contextRef : Option String
  specificVehicleIds : List ℤ
  estimatedValue : Option FixedPoint
deriving DecidableEq, Repr

/-- `_request_fingerprint` before the hash. -/
def ReservationRequest.canonical (request : ReservationRequest) : CanonicalRequest where
  offeringCode := (strip request.offeringCode).toLower
  providerType := (strip request.providerType).toLower
  providerId := request.providerId
  windowStart := request.windowStart.instant
  windowEnd := request.windowEnd.instant
  requiredQuantity := request.requiredQuantity
  mode := (strip request.mode).toLower
  paymentMethod := request.paymentMethod.map (fun text => (strip text).toUpper)
  paymentTiming := request.paymentTiming.map (fun text => (strip text).toUpper)
  commercialPolicyRef := request.commercialPolicyRef
  onBehalfOfOrganisationId := request.onBehalfOfOrganisationId
  eventId := request.eventId
  contextSource := request.contextSource
  contextRef := request.contextRef
  specificVehicleIds := request.vehicleIds.insertionSort (· ≤ ·)
  estimatedValue := request.estimatedValue.map Decimal.formatF

/-! ## The policy -/

inductive PaymentTiming
  | now | deposit | endOfTrip | invoice
deriving DecidableEq, Repr

namespace PaymentTiming

/-- `CANONICAL_PAYMENT_TIMINGS`. -/
def ofText (text : String) : Option PaymentTiming :=
  if text = "NOW" then some .now
  else if text = "DEPOSIT" then some .deposit
  else if text = "END_OF_TRIP" then some .endOfTrip
  else if text = "INVOICE" then some .invoice
  else none

/-- `_REQUIRED_OBLIGATION_FOR_RESERVED`. -/
def requiredObligation : PaymentTiming → List ReservationObligationState
  | .now => [.paid]
  | .deposit => [.deposited, .paid]
  | .endOfTrip => [.deposited, .paid, .unpaid]
  | .invoice => [.deposited, .paid, .unpaid]

/-- Moving an obligation forward keeps the requirement of every timing. -/
theorem requiredObligation_forward {timing : PaymentTiming}
    {current target : ReservationObligationState} (h : current ∈ timing.requiredObligation)
    (forward : current.rank ≤ target.rank) : target ∈ timing.requiredObligation := by
  cases timing <;> cases current <;> cases target <;>
    simp_all [requiredObligation, ReservationObligationState.rank]

end PaymentTiming

def canonicalPaymentMethods : List String :=
  ["BANK_TRANSFER", "CARD", "CASH", "MOBILE_MONEY", "WALLET"]

/-- What the evaluator decides about a request it allows. -/
structure PolicyDecision where
  requiresDeposit : Bool
  depositAmount : Option ℚ
  depositDueAt : Option ℤ
  requiredObligationForReserved : List ReservationObligationState
  commercialPolicyRef : Option String
deriving DecidableEq, Repr

namespace ReservationRequest

variable (request : ReservationRequest) (context : ReservationContext)

/-- The stripped upper-case text, none when nothing is left. -/
def normalised (text : Option String) : Option String :=
  some ((strip (text.getD "")).toUpper) |>.filter (fun text => text ≠ "")

/-- The timing is required and one of the canonical ones. -/
def parseTiming : Except String PaymentTiming :=
  match normalised request.paymentTiming with
  | none => .error "payment_timing is required"
  | some text =>
    match PaymentTiming.ofText text with
    | none => .error ("Unsupported payment_timing '" ++ text ++
        "'. Canonical: ['DEPOSIT', 'END_OF_TRIP', 'INVOICE', 'NOW'].")
    | some timing => .ok timing

/-- The gate for the payment method. -/
def checkMethod (timing : PaymentTiming) : Except String Unit :=
  match normalised request.paymentMethod with
  | none =>
    if timing = .now then .error "payment_method is required for timing=NOW" else .ok ()
  | some method =>
    if method ∉ canonicalPaymentMethods then
      .error ("Unsupported payment_method '" ++ method ++
        "'. Canonical: ['BANK_TRANSFER', 'CARD', 'CASH', 'MOBILE_MONEY', 'WALLET'].")
    else if method ∉ context.enabledPaymentMethods.map (fun text => (strip text).toUpper) then
      .error ("Payment method '" ++ method ++ "' is not enabled for this deployment")
    else .ok ()

/-- `_validate_authority`, for a request on behalf of an organisation. -/
def checkAuthority (user : ℕ) : Except String Unit :=
  match request.onBehalfOfOrganisationId with
  | none => .ok ()
  | some organisation =>
    match context.authorityDenied user organisation with
    | none => .ok ()
    | some reason => .error reason

/-- `_compute_deposit`. -/
def depositTerms (timing : PaymentTiming) : Bool × Option ℚ × Option ℤ :=
  if timing = .deposit then
    (true, request.estimatedValue.map (fun amount => amount.value * context.depositPercent / 100),
      some (request.windowStart.instant - context.depositLeadHours * 3600000000))
  else (false, none, none)

/-- The evaluator; the error is the reason of the refusal. Its checks of the window, the
quantity and the actor repeat those of the caller. -/
def evaluate (user : ℕ) : Except String PolicyDecision := do
  let timing ← request.parseTiming
  request.checkMethod context timing
  request.checkAuthority context user
  let deposit := request.depositTerms context timing
  return {
    requiresDeposit := deposit.1
    depositAmount := deposit.2.1
    depositDueAt := deposit.2.2
    requiredObligationForReserved := timing.requiredObligation
    commercialPolicyRef :=
      request.commercialPolicyRef.filter (fun text => text ≠ "") <|>
        context.commercialPolicy request.offeringCode }

end ReservationRequest

/-! ## The vehicles of a specific request -/

namespace ReservationRequest

variable (request : ReservationRequest) (context : ReservationContext)

/-- `_prove_vehicle_ownership` for one vehicle. -/
def proveVehicle (offering : TransportOffering) (id : ℤ) : Except ReservationError Unit :=
  match (context.vehicle id).filter (fun vehicle => !vehicle.isDeleted) with
  | none => .error (.notFound ("Vehicle " ++ toString id ++ " not found"))
  | some vehicle =>
    if request.providerType ≠ "organisation" ∧ request.providerType ≠ "driver" then
      .error (.validation "specific reservations require an organisation or driver provider")
    else if vehicle.ownerType ≠ request.providerType ∨ vehicle.ownerId ≠ request.providerId then
      .error (.permission ("Vehicle " ++ toString id ++
        " is not owned by the indicated provider"))
    else if vehicle.status.toLower ≠ "active" ∨ ¬ vehicle.isAvailable then
      .error (.validation ("Vehicle " ++ toString id ++ " is not in active status"))
    else if ¬ (offering.minSeats ≤ vehicle.passengerCapacity ∧
        vehicle.passengerCapacity ≤ offering.maxSeats) then
      .error (.validation ("Vehicle " ++ toString id ++
        " capacity is not eligible for offering '" ++ offering.code ++ "'"))
    else
      match vehicle.vehicleClass with
      | none => .ok ()
      | some vehicleClass =>
        if offering.compatibleVehicleClasses ≠ [] ∧
            vehicleClass ∉ offering.compatibleVehicleClasses then
          .error (.validation ("Vehicle " ++ toString id ++ " (class=" ++ vehicleClass ++
            ") is not eligible for offering '" ++ offering.code ++ "'"))
        else .ok ()

/-- `_prove_vehicle_ownership`. -/
def proveVehicles (offering : TransportOffering) : List ℤ → Except ReservationError Unit
  | [] => .ok ()
  | id :: rest => do
      request.proveVehicle context offering id
      proveVehicles offering rest

end ReservationRequest

/-! ## The header and its lines -/

namespace TransportReservation

/-- `SM.transition`. -/
def transition (row : TransportReservation) (target : ReservationState) :
    Except ReservationError TransportReservation :=
  if target ∈ row.state.transitions then .ok { row with state := target }
  else .error (.invalidReservationTransition row.state target)

/-- The states of `_consume_capacity_locked`. -/
def consumeCapacity (row : TransportReservation) :
    Except ReservationError TransportReservation := do
  let row ← row.transition .held
  if row.satisfiesReserved row.obligationState then row.transition .reserved else return row

/-- A draft becomes held, and reserved at once when its policy asks for no payment. -/
theorem consumeCapacity_draft {row : TransportReservation} (h : row.state = .draft) :
    row.consumeCapacity = .ok { row with
      state := if row.satisfiesReserved row.obligationState then .reserved else .held } := by
  have satisfied : ∀ state, satisfiesReserved { row with state := state } row.obligationState =
      row.satisfiesReserved row.obligationState := fun _ => rfl
  unfold consumeCapacity transition
  rw [h]
  cases hsat : row.satisfiesReserved row.obligationState with
  | true =>
    simp [ReservationState.transitions, bind, Except.bind, satisfied, hsat]
  | false =>
    simp [ReservationState.transitions, bind, Except.bind, satisfied, hsat, pure, Except.pure]

end TransportReservation

inductive LineState
  | held | reserved | materialized | cancelled
deriving DecidableEq, Repr

/-- `ACTIVE_LINE_STATES`. -/
def LineState.active : LineState → Bool
  | .held => true
  | .reserved => true
  | .materialized => true
  | .cancelled => false

/-- A line of the reservation at position `reservationId`. -/
structure TransportReservationLine where
  reservationId : ℕ
  vehicleId : Option ℤ
  windowStart : ℤ
  windowEnd : ℤ
  state : LineState
  isDeleted : Bool := false
deriving DecidableEq, Repr

namespace ReservationRequest

variable (request : ReservationRequest)

/-- The header as it is added to the session. -/
def draft (digest : CanonicalRequest → String) (user : ℕ) (decision : PolicyDecision) :
    TransportReservation where
  reservingUserId := user
  idempotencyKey := request.idempotencyKey
  requestFingerprint := digest request.canonical
  pool := request.pool
  windowStart := request.windowStart.instant
  windowEnd := request.windowEnd.instant
  requiredQuantity := request.requiredQuantity.toNat
  mode := request.mode
  state := .draft
  obligationState := .unpaid
  paymentMethod := normalised request.paymentMethod
  paymentTiming := normalised request.paymentTiming
  commercialPolicyRef := decision.commercialPolicyRef
  onBehalfOfOrganisationId := request.onBehalfOfOrganisationId
  authorityEvidence := request.authorityEvidence.getD []
  eventId := request.eventId
  contextSource := request.contextSource
  contextRef := request.contextRef
  depositRequired := decision.requiresDeposit
  requiredTotalAmount := request.estimatedValue.map (fun amount => storedAmount amount.value)
  amountReceived := 0
  depositAmount := decision.depositAmount.map storedAmount
  depositDueAt := decision.depositDueAt
  walletTransactionReference := none
  requiredObligationForReserved := decision.requiredObligationForReserved

/-- The vehicles of the lines: those of the list, or none for each unit. -/
def lineVehicles : List (Option ℤ) :=
  if request.isSpecific then request.vehicleIds.map some
  else List.replicate request.requiredQuantity.toNat none

/-- `_materialise_lines`. -/
def materialiseLines (reservationId : ℕ) : List TransportReservationLine :=
  request.lineVehicles.map (fun vehicleId =>
    { reservationId
      vehicleId
      windowStart := request.windowStart.instant
      windowEnd := request.windowEnd.instant
      state := .held })

end ReservationRequest

/-- The amounts of a header fit their columns. -/
def TransportReservation.fits (row : TransportReservation) : Bool :=
  row.requiredTotalAmount.all fitsColumn && row.depositAmount.all fitsColumn

/-- The header as it is committed. -/
def ReservationRequest.created (request : ReservationRequest)
    (digest : CanonicalRequest → String) (user : ℕ) (decision : PolicyDecision) :
    Except ReservationError TransportReservation :=
  let row := request.draft digest user decision
  if row.fits then row.consumeCapacity else .error .numericOverflow

theorem ReservationRequest.created_eq_ok {request : ReservationRequest}
    {digest : CanonicalRequest → String} {user : ℕ} {decision : PolicyDecision}
    {row : TransportReservation} (h : request.created digest user decision = .ok row) :
    (request.draft digest user decision).fits = true ∧
      row = { request.draft digest user decision with
        state := if .unpaid ∈ decision.requiredObligationForReserved then .reserved
          else .held } := by
  have hstate : (request.draft digest user decision).state = .draft := rfl
  simp only [created, TransportReservation.consumeCapacity_draft hstate] at h
  by_cases hfits : (request.draft digest user decision).fits = true
  · simp only [hfits, if_true, Except.ok.injEq] at h
    refine ⟨hfits, h.symm.trans ?_⟩
    by_cases hmem : ReservationObligationState.unpaid ∈ decision.requiredObligationForReserved <;>
      simp [TransportReservation.satisfiesReserved, draft, hmem]
  · simp [hfits] at h

end Afcon360.Transport
