import Afcon360.Transport.FareTables
import Afcon360.Transport.BookingKey

/-!
# The checks of a ride request

Before `create_request` looks its key up it validates the payload, opens the signed fare
quote, prices the trip again, asks which payment methods are ready and resolves the pickup
time. `checkRide` is all of that, in the order of the source. What it reads besides the
payload is in `RideWorld`: the clock, the age a quote may have, the fare tables and the
payment methods at that moment.

The functions of other modules that read nothing but their arguments are `RideHelpers`:
parsing of dates, the location snapshot with its search evidence, the straight-line distance,
the resolution of a local pickup time, and the opening of a signed token, which gives the
quote and the second it was signed in.
-/

namespace Afcon360.Transport

open Foundation

/-- An endpoint of the payload: the object, its `_source` and its `_geocode`. -/
structure Endpoint where
  latitude : Option ℚ := none
  longitude : Option ℚ := none
  address : Option String := none
  source : Option String := none
  geocode : Option String := none
deriving DecidableEq, Repr

/-- The request body; the passenger count as `int` reads it, if it can. -/
structure RidePayload where
  idempotencyKey : Option String := none
  pickup : Option Endpoint := none
  dropoff : Option Endpoint := none
  serviceType : Option String := none
  vehicleClass : Option String := none
  passengerCount : Option (Option ℤ) := none
  fareQuoteToken : Option String := none
  confirmedFareAmount : Option ℚ := none
  currency : Option String := none
  paymentMethod : Option String := none
  bookingMode : Option String := none
  pickupTime : Option String := none
deriving DecidableEq, Repr

/-- A signed quote. The coordinates are in steps of seven decimals, the distance in steps
of six. -/
structure FareQuote where
  v : ℕ := 1
  serviceType : String
  vehicleClass : String
  currency : String
  amount : Option ℚ
  fareVersion : String
  pickup : ℤ × ℤ
  dropoff : ℤ × ℤ
  distanceKm : ℤ
  quotedAt : String
deriving DecidableEq, Repr

/-- What `calculate_estimate` returns. -/
structure FareEstimate where
  total : ℚ
  currency : Option String
  version : String
deriving DecidableEq, Repr

/-- What `resolve_local_datetime` returns; instants are in microseconds. -/
structure ResolvedSchedule where
  utcDatetime : ℤ
  localDatetime : String
  timezoneName : String
  utcOffset : String
deriving DecidableEq, Repr

structure RideHelpers where
  fromisoformat : String → Option DateTime
  snapshot : String → Endpoint → Option String → Except BookingError Coordinates
  measuredDistance : Coordinates → Coordinates → Option ℚ
  resolveSchedule : String → Coordinates → Except String ResolvedSchedule
  unsign : String → Option (FareQuote × ℤ)

structure RideWorld where
  now : ℤ
  /-- `TRANSPORT_FARE_QUOTE_MAX_AGE_SECONDS`. -/
  quoteMaxAge : ℤ := 15 * 60
  estimate : String → String → ℚ → DateTime → FareEstimate
  /-- The codes of the methods whose status is ready. -/
  readyMethods : ℕ → String → ℚ → List String

/-- How a call ends. -/
inductive RideOutcome
  | created (publicId : ℕ)
  /-- The request found, and its first cycle. -/
  | replayed (publicId : ℕ) (cycleKey : Option String)
  | invalid (error : BookingError)
  /-- `IdempotencyConflictError`. -/
  | conflict
  /-- `ServiceUnavailableError`. -/
  | unavailable
deriving DecidableEq, Repr

def invalidField (message field : String) : RideOutcome := .invalid ⟨message, some field⟩

/-! ## The payload -/

def serviceTypes : List String :=
  ["airport_arrival", "airport_departure", "stadium_shuttle", "hotel_transfer", "city_tour",
    "on_demand", "scheduled_route", "custom_tour"]

def vehicleClasses : List String := ["economy", "comfort", "premium", "luxury", "van", "bus"]

/-- The keys of `SOURCE_METHOD_PAIRS`, sorted. -/
def locationSources : List String := ["curated", "gps", "map", "search"]

namespace RidePayload

def key (payload : RidePayload) : String := strip (payload.idempotencyKey.getD "")

/-- `str(booking_mode or "instant").strip().lower()`. -/
def mode (payload : RidePayload) : String := plainText payload.bookingMode "instant"

/-- `validate_booking_request` on the validation view. The clock's own text stands for a
pickup time that is absent or not asked for. -/
def errors (fromisoformat : String → Option DateTime) (payload : RidePayload) : List String :=
  let service := textOr payload.serviceType ""
  let vehicle := textOr payload.vehicleClass ""
  let time := if payload.mode = "scheduled" then textOr payload.pickupTime "" else ""
  (if payload.pickup.isNone then ["Pickup Location is required"] else []) ++
  (if payload.dropoff.isNone then ["Dropoff Location is required"] else []) ++
  (if service = "" then ["Service Type is required"] else []) ++
  (match payload.passengerCount.getD (some 1) with
    | none => ["Passenger count must be a valid number"]
    | some count =>
      if count < 1 ∨ 100 < count then ["Passenger count must be between 1 and 100"] else []) ++
  (if service ≠ "" ∧ service.toLower ∉ serviceTypes then
    ["Service type must be one of: " ++ String.intercalate ", " serviceTypes] else []) ++
  (if vehicle ≠ "" ∧ vehicle.toLower ∉ vehicleClasses then
    ["Vehicle class must be one of: " ++ String.intercalate ", " vehicleClasses] else []) ++
  (if time ≠ "" ∧ (fromisoformat time).isNone then ["Pickup time must be a valid datetime"]
    else [])

end RidePayload

/-- `_resolve_snapshot`. -/
def resolveSnapshot (helpers : RideHelpers) (name : String) (raw : Option Endpoint) :
    Except RideOutcome Coordinates :=
  match raw with
  | none => .error (invalidField (name ++ " must be an object with latitude/longitude") name)
  | some location =>
    if location.latitude.isNone ∨ location.longitude.isNone then
      .error (invalidField (name ++ " must include both 'latitude' and 'longitude'") name)
    else
      let source := (location.source.map strip).filter fun text => text ≠ ""
      if ∀ text ∈ source, text ∈ locationSources then
        match helpers.snapshot name location source with
        | .ok place => .ok place
        | .error error => .error (.invalid error)
      else .error (invalidField
        (name ++ "_source must be one of " ++ listText locationSources) (name ++ "_source"))

/-- What the payload says by itself. -/
structure RideSurvey where
  key : String
  serviceType : String
  vehicleClass : String
  passengerCount : ℤ
  pickup : Coordinates
  dropoff : Coordinates
  measuredKm : ℚ
deriving DecidableEq, Repr

/-- The part of `create_request` before the quote. -/
def surveyRide (helpers : RideHelpers) (payload : RidePayload) : Except RideOutcome RideSurvey := do
  require (payload.key ≠ "") (invalidField "idempotency_key is required" "idempotency_key")
  let errors := payload.errors helpers.fromisoformat
  require (errors = []) (.invalid ⟨String.intercalate "; " errors, none⟩)
  let serviceType := (textOr payload.serviceType "").toLower
  require (serviceType ∈ serviceTypes) (invalidField "Invalid service_type" "service_type")
  let vehicleClass := (textOr payload.vehicleClass "comfort").toLower
  let pickup ← resolveSnapshot helpers "pickup" payload.pickup
  let dropoff ← resolveSnapshot helpers "dropoff" payload.dropoff
  match helpers.measuredDistance pickup dropoff with
  | none => .error (invalidField "Resolved coordinates required for fare calculation" "pickup")
  | some measuredKm => pure {
      key := payload.key
      serviceType := serviceType
      vehicleClass := vehicleClass
      passengerCount := (payload.passengerCount.getD (some 1)).getD 1
      pickup := pickup
      dropoff := dropoff
      measuredKm := measuredKm }

/-! ## The quote -/

/-- `money_amount`; `none` is a value that is not a number. -/
def moneyAmount (value : Option ℚ) : Except RideOutcome ℚ := do
  let amount := gridValue 100 (roundHalfUp 100 (value.getD 0))
  require (0 < amount)
    (invalidField "Invalid fare amount. Please request a new fare quote." "confirmed_fare_amount")
  pure amount

/-- `_coords` of the quote. -/
def quoteCoords (place : Coordinates) : ℤ × ℤ :=
  (roundHalfEven (10 ^ 7) place.latitude, roundHalfEven (10 ^ 7) place.longitude)

/-- The signature's age lies between zero and the limit. -/
def RideWorld.accepts (world : RideWorld) (signedAt : ℤ) : Prop :=
  0 ≤ world.now / 1000000 - signedAt ∧ world.now / 1000000 - signedAt ≤ world.quoteMaxAge

instance (world : RideWorld) (signedAt : ℤ) : Decidable (world.accepts signedAt) :=
  inferInstanceAs (Decidable (_ ∧ _))

/-- `load_fare_quote`. -/
def loadFareQuote (helpers : RideHelpers) (world : RideWorld) (token : Option String) :
    Except RideOutcome FareQuote := do
  let text := token.getD ""
  require (strip text ≠ "")
    (invalidField "Please review and confirm a current fare before requesting a driver."
      "fare_quote_token")
  match helpers.unsign text with
  | none => .error (invalidField
      "Your fare quote could not be verified. Please review the fare again." "fare_quote_token")
  | some (quote, signedAt) => do
      require (world.accepts signedAt)
        (invalidField
          "Your fare quote has expired. Please review the updated fare before continuing."
          "fare_quote_token")
      require (quote.v = 1)
        (invalidField "Your fare quote is invalid. Please review the fare again."
          "fare_quote_token")
      pure quote

/-- `quoted_at`, which must be a naive time. -/
def FareQuote.reference (helpers : RideHelpers) (quote : FareQuote) :
    Except RideOutcome DateTime :=
  match (helpers.fromisoformat quote.quotedAt).filter fun time => time.utcoffset.isNone with
  | none => .error (invalidField "Your fare quote is invalid. Please review the fare again."
      "fare_quote_token")
  | some time => .ok time

/-- The facts of the trip that the quote must agree with. -/
def FareQuote.Matches (quote : FareQuote) (survey : RideSurvey) (currency fareVersion : String) :
    Prop :=
  quote.serviceType = (strip survey.serviceType).toLower ∧
    quote.vehicleClass = (strip survey.vehicleClass).toLower ∧
    quote.currency = (strip currency).toUpper ∧
    quote.pickup = quoteCoords survey.pickup ∧ quote.dropoff = quoteCoords survey.dropoff ∧
    quote.distanceKm = roundHalfEven (10 ^ 6) survey.measuredKm ∧
    quote.fareVersion = fareVersion

instance (quote : FareQuote) (survey : RideSurvey) (currency fareVersion : String) :
    Decidable (quote.Matches survey currency fareVersion) :=
  inferInstanceAs (Decidable (_ ∧ _))

/-- `validate_fare_quote`. -/
def validateFareQuote (quote : FareQuote) (survey : RideSurvey) (currency : String)
    (estimate : FareEstimate) (confirmed : Option ℚ) : Except RideOutcome ℚ := do
  let accepted ← moneyAmount confirmed
  let quoted ← moneyAmount quote.amount
  let current ← moneyAmount (some estimate.total)
  require (quote.Matches survey currency estimate.version ∧ accepted = quoted ∧ quoted = current)
    (invalidField
      "The fare or trip details have changed. Please review the current fare and confirm again."
      "confirmed_fare_amount")
  pure accepted

/-! ## The remaining checks -/

/-- `str(estimate.get("currency") or "USD").upper()`. -/
def FareEstimate.currencyCode (estimate : FareEstimate) : String :=
  (textOr estimate.currency "USD").toUpper

/-- The preferred currency, if there is one. -/
def RidePayload.requestedCurrency (payload : RidePayload) : Except RideOutcome (Option String) := do
  let requested := (payload.currency.filter fun text => text ≠ "").map String.toUpper
  require (∀ code ∈ requested, code ∈ currencies) (invalidField "Invalid currency code" "currency")
  pure requested

def RidePayload.method (payload : RidePayload) : String :=
  (strip (payload.paymentMethod.getD "")).toLower

/-- The lead a scheduled pickup needs. -/
def minimumLead : ℤ := 15 * 60 * 1000000

/-- The time of the pickup and what the fingerprint keeps of it. -/
def pickupTimes (helpers : RideHelpers) (world : RideWorld) (payload : RidePayload)
    (pickup : Coordinates) : Except RideOutcome (ℤ × String) := do
  require (payload.mode = "instant" ∨ payload.mode = "scheduled")
    (invalidField "booking_mode must be 'instant' or 'scheduled'" "booking_mode")
  if payload.mode = "instant" then pure (world.now, "immediate")
  else
    let raw := textOr payload.pickupTime ""
    require (raw ≠ "") (invalidField "Scheduled pickups require an explicit pickup_time"
      "pickup_time")
    match helpers.resolveSchedule raw pickup with
    | .error message => .error (invalidField message "pickup_time")
    | .ok schedule => do
        require (world.now + minimumLead ≤ schedule.utcDatetime)
          (invalidField "Scheduled pickups must be at least 15 minutes from now at the pickup location. For an immediate ride, choose 'Now'."
            "pickup_time")
        pure (schedule.utcDatetime, "schedule:" ++ schedule.localDatetime ++ "|" ++
          schedule.timezoneName ++ "|" ++ schedule.utcOffset)

/-- The canonical values that `_trip_hash` hashes. -/
structure RideTrip where
  serviceType : String
  vehicleClass : String
  passengerCount : ℤ
  pickup : ℤ × ℤ
  dropoff : ℤ × ℤ
  paymentMethod : String
  currencyCode : String
  pickupTime : String
  requestedCurrency : Option String
  acceptedFareAmount : ℚ
  fareVersion : String
deriving DecidableEq, Repr

/-- The coordinates in steps of six decimals. -/
def tripCoords (place : Coordinates) : ℤ × ℤ :=
  (roundHalfEven (10 ^ 6) place.latitude, roundHalfEven (10 ^ 6) place.longitude)

/-- A request that passed every check. -/
structure RideDraft where
  key : String
  trip : RideTrip
  pickup : Coordinates
  dropoff : Coordinates
  requestedAt : ℤ
deriving DecidableEq, Repr

/-- `create_request` up to the lookup of its key. -/
def checkRide (helpers : RideHelpers) (world : RideWorld) (owner : ℕ) (payload : RidePayload) :
    Except RideOutcome RideDraft := do
  let survey ← surveyRide helpers payload
  let quote ← loadFareQuote helpers world payload.fareQuoteToken
  let quotedAt ← quote.reference helpers
  let estimate := world.estimate survey.serviceType survey.vehicleClass survey.measuredKm quotedAt
  let currency := estimate.currencyCode
  require (currency ∈ currencies) .unavailable
  let requestedCurrency ← payload.requestedCurrency
  let method := payload.method
  require (method ≠ "")
    (invalidField "Choose a payment method before requesting the ride" "payment_method")
  let offered := world.readyMethods owner currency estimate.total
  require (method ∈ offered)
    (invalidField ("payment_method must be one of: " ++ listText (offered.dedup.mergeSort (· ≤ ·)))
      "payment_method")
  let amount ← validateFareQuote quote survey currency estimate payload.confirmedFareAmount
  let times ← pickupTimes helpers world payload survey.pickup
  pure {
    key := survey.key
    trip := {
      serviceType := survey.serviceType
      vehicleClass := survey.vehicleClass
      passengerCount := survey.passengerCount
      pickup := tripCoords survey.pickup
      dropoff := tripCoords survey.dropoff
      paymentMethod := method
      currencyCode := currency
      pickupTime := times.2
      requestedCurrency := requestedCurrency
      acceptedFareAmount := amount
      fareVersion := estimate.version }
    pickup := survey.pickup
    dropoff := survey.dropoff
    requestedAt := times.1 }

/-! ## Checks made twice -/

section Repeat

variable {helpers : RideHelpers} {world later : RideWorld} {owner : ℕ} {payload : RidePayload}
variable {survey : RideSurvey} {quote : FareQuote} {estimate : FareEstimate} {currency : String}
variable {place : Coordinates} {draft draft' : RideDraft} {amount : ℚ} {times : ℤ × String}

theorem loadFareQuote_eq_ok {token : Option String} :
    loadFareQuote helpers world token = .ok quote ↔
      strip (token.getD "") ≠ "" ∧ quote.v = 1 ∧
        ∃ signedAt, helpers.unsign (token.getD "") = some (quote, signedAt) ∧
          world.accepts signedAt := by
  simp only [loadFareQuote, check_bind_eq_ok, require_eq_ok]
  cases hunsign : helpers.unsign (token.getD "") with
  | none => simp
  | some opened =>
    obtain ⟨found, signedAt⟩ := opened
    simp only [check_bind_eq_ok, require_eq_ok, pure_eq_ok, Option.some.injEq, Prod.mk.injEq]
    constructor
    · rintro ⟨htoken, haccepts, hv, rfl⟩
      exact ⟨htoken, hv, signedAt, ⟨rfl, rfl⟩, haccepts⟩
    · rintro ⟨htoken, hv, _, ⟨rfl, rfl⟩, haccepts⟩
      exact ⟨htoken, haccepts, hv, rfl⟩

theorem validateFareQuote_eq_ok {confirmed : Option ℚ} :
    validateFareQuote quote survey currency estimate confirmed = .ok amount ↔
      moneyAmount confirmed = .ok amount ∧ moneyAmount quote.amount = .ok amount ∧
        moneyAmount (some estimate.total) = .ok amount ∧
        quote.Matches survey currency estimate.version := by
  simp only [validateFareQuote, bind_eq_ok, require_eq_ok, pure_eq_ok, exists_const]
  constructor
  · rintro ⟨_, haccepted, _, hquoted, _, hcurrent, ⟨hmatches, rfl, rfl⟩, rfl⟩
    exact ⟨haccepted, hquoted, hcurrent, hmatches⟩
  · rintro ⟨haccepted, hquoted, hcurrent, hmatches⟩
    exact ⟨_, haccepted, _, hquoted, _, hcurrent, ⟨hmatches, rfl, rfl⟩, rfl⟩

/-- The codes of the list are as the quote spells them. -/
theorem strip_currency (h : currency ∈ currencies) : (strip currency).toUpper = currency := by
  revert currency
  decide +kernel

/-- What a passed check says, piece by piece. -/
theorem checkRide_eq_ok :
    checkRide helpers world owner payload = .ok draft ↔
      ∃ survey, surveyRide helpers payload = .ok survey ∧
      ∃ quote, loadFareQuote helpers world payload.fareQuoteToken = .ok quote ∧
      ∃ quotedAt, quote.reference helpers = .ok quotedAt ∧
      ∃ estimate, estimate =
          world.estimate survey.serviceType survey.vehicleClass survey.measuredKm quotedAt ∧
        estimate.currencyCode ∈ currencies ∧
      ∃ requested, payload.requestedCurrency = .ok requested ∧
        payload.method ≠ "" ∧
        payload.method ∈ world.readyMethods owner estimate.currencyCode estimate.total ∧
      ∃ amount, validateFareQuote quote survey estimate.currencyCode estimate
          payload.confirmedFareAmount = .ok amount ∧
      ∃ times, pickupTimes helpers world payload survey.pickup = .ok times ∧
        draft =
          { key := survey.key
            trip := ⟨survey.serviceType, survey.vehicleClass, survey.passengerCount,
              tripCoords survey.pickup, tripCoords survey.dropoff, payload.method,
              estimate.currencyCode, times.2, requested, amount, estimate.version⟩
            pickup := survey.pickup
            dropoff := survey.dropoff
            requestedAt := times.1 } := by
  simp only [checkRide, bind_eq_ok, require_eq_ok, pure_eq_ok, exists_const, exists_eq_left,
    eq_comm (a := draft)]

end Repeat

end Afcon360.Transport
