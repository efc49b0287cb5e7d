import Afcon360.Foundation.Guard
import Afcon360.Foundation.Json
import Afcon360.Transport.Assignment

/-!
# Event seat reservations

The coordination contract is the only way in which events write passengers. A call of
`ensure_passenger_reservation` finds the active reservation of the event assignment; where
it lies on the booking already it is returned, and where it lies on another booking it is
retired. Then a passenger of the booking is looked for by email and by user id, and the one
found, or else a new one, is tagged with the assignment and confirmed. Last the booking's
seat target is checked.

The lookups take the first row of an unordered query. A `FirstRow` is such a choice; every
call has its own. A call that raises is rolled back by its caller.
-/

namespace Afcon360.Transport

open Foundation

/-- The first row of a query without an order: some row that meets the condition, if any. -/
structure FirstRow (ρ : Type) where
  pick : (ρ → Bool) → List ρ → Option ℕ
  found : ∀ {p rows i}, pick p rows = some i → ∃ row, rows[i]? = some row ∧ p row = true
  absent : ∀ {p rows}, pick p rows = none → ∀ row ∈ rows, p row = false

namespace FirstRow

variable {ρ : Type}

variable {rows : List ρ} {search : FirstRow ρ}

/-- The row found, with its id. -/
def first (search : FirstRow ρ) (p : ρ → Bool) (rows : List ρ) : Option (ℕ × ρ) :=
  (search.pick p rows).bind fun i => rows[i]?.map fun row => (i, row)

theorem first_eq_some {p : ρ → Bool} {i : ℕ} {row : ρ}
    (h : search.first p rows = some (i, row)) : rows[i]? = some row ∧ p row = true := by
  obtain ⟨j, hpick, hrow⟩ := Option.bind_eq_some_iff.mp h
  obtain ⟨found, hfound, hp⟩ := search.found hpick
  obtain ⟨other, hother, heq⟩ := Option.map_eq_some_iff.mp hrow
  cases heq
  rw [hfound] at hother
  cases hother
  exact ⟨hfound, hp⟩

theorem first_eq_none {p : ρ → Bool}
    (h : search.first p rows = none) : ∀ row ∈ rows, p row = false := by
  cases hpick : search.pick p rows with
  | none => exact search.absent hpick
  | some i =>
    obtain ⟨row, hrow, -⟩ := search.found hpick
    simp [first, hpick, hrow] at h

theorem first_of_absent {p : ρ → Bool}
    (h : ∀ row ∈ rows, p row = false) : search.first p rows = none := by
  cases hfirst : search.first p rows with
  | none => rfl
  | some found =>
    obtain ⟨hrow, hp⟩ := first_eq_some hfirst
    rw [h found.2 (List.mem_of_getElem? hrow)] at hp
    cases hp

/-- The rows in the order of their ids. -/
def inOrder : FirstRow ρ where
  pick p rows := rows.findIdx? p
  found h := by
    obtain ⟨hlt, hp, -⟩ := List.findIdx?_eq_some_iff_getElem.mp h
    exact ⟨_, List.getElem?_eq_getElem hlt, hp⟩
  absent h := List.findIdx?_eq_none_iff.mp h

/-- One row before all others. -/
def preferring (i : ℕ) : FirstRow ρ where
  pick p rows := if rows[i]?.any p then some i else rows.findIdx? p
  found h := by
    split at h
    · rename_i hany
      cases h
      exact (Option.any_eq_true _ _).mp hany
    · exact inOrder.found h
  absent h := by
    split at h
    · cases h
    · exact inOrder.absent h

theorem first_preferring {p : ρ → Bool} {row : ρ} {i : ℕ}
    (hrow : rows[i]? = some row) (hp : p row = true) :
    (preferring i).first p rows = some (i, row) := by
  simp [first, preferring, hrow, hp]

end FirstRow

inductive PassengerStatus
  | pending | confirmed | assigned | claimed | linked | cancelled
deriving DecidableEq, Repr

/-- A passenger of a booking. -/
structure TransportPassenger where
  publicId : String
  bookingId : ℕ
  userId : Option ℕ := none
  eventAssignmentId : Option ℕ := none
  name : Option String := none
  email : Option String := none
  phone : Option String := none
  status : PassengerStatus := .pending
  passengerMetadata : Json.Fields := []
  isDeleted : Bool := false

/-- The passenger has a seat. -/
def TransportPassenger.active (passenger : TransportPassenger) : Bool :=
  !passenger.isDeleted && passenger.status ≠ .cancelled

/-- A booking as the contract reads it; the seat target is positive by a table constraint. -/
structure CoordinatedBooking where
  bookingReference : String
  status : BookingStatus
  passengerCount : ℕ
  passengerCount_pos : 0 < passengerCount
  assignedDriverId : Option ℕ
  assignedVehicleId : Option ℕ
  eventId : Option ℕ := none
  isDeleted : Bool := false

inductive VerificationTier
  | pending | basicVerified | platformVerified | eventCertified
deriving DecidableEq, Repr

structure EventDriver extends DriverProfile where
  isAvailable : Bool
  verificationTier : VerificationTier

structure EventVehicle extends Vehicle where
  currentBookingId : Option ℕ
  passengerCapacity : Option ℕ

/-- Drivers and vehicles, which the contract only reads. -/
structure EventFleet where
  driver : ℕ → Option EventDriver
  vehicle : ℕ → Option EventVehicle

/-- The position of a row is its id. -/
structure SeatTables where
  bookings : List CoordinatedBooking
  passengers : List TransportPassenger

structure ContractError where
  code : String
  message : String
deriving DecidableEq, Repr

/-! ## The booking of a call -/

def isDigits (text : String) : Bool := text ≠ "" ∧ text.toList.all Char.isDigit

/-- `int(text)` of digits. -/
def digitsValue (text : String) : ℕ :=
  text.toList.foldl (fun value digit => 10 * value + (digit.toNat - '0'.toNat)) 0

/-- The id of the booking a reference names: by reference, else by the number it is. -/
def bookingNamed (bookings : List CoordinatedBooking) (ref : String) : Option ℕ :=
  (bookings.findIdx? fun booking => booking.bookingReference = ref ∧
    booking.isDeleted = false).orElse
    fun _ => if isDigits ref then some (digitsValue ref) else none

/-- The booking of an id, unless it is deleted. -/
def bookingRow (bookings : List CoordinatedBooking) (id : ℕ) : Option (ℕ × CoordinatedBooking) :=
  bookings[id]?.bind fun booking => if booking.isDeleted then none else some (id, booking)

/-- `_load_booking`. -/
def loadBooking (bookings : List CoordinatedBooking) (bookingReference : String) :
    Except ContractError (ℕ × CoordinatedBooking) := do
  require (strip bookingReference ≠ "")
    ⟨"TRANSPORT_BOOKING_NOT_FOUND", "Transport booking reference is required"⟩
  match (bookingNamed bookings (strip bookingReference)).bind (bookingRow bookings) with
  | some found => .ok found
  | none => .error ⟨"TRANSPORT_BOOKING_NOT_FOUND", "Transport booking was not found"⟩

/-- `ASSIGNABLE_BOOKING_STATUSES`. -/
def assignableBookingStatuses : List BookingStatus := [.confirmed, .assigned]

/-- `EVENT_VERIFIED_TIERS`. -/
def eventVerifiedTiers : List VerificationTier := [.platformVerified, .eventCertified]

/-- `_validate_booking`. -/
def validateBooking (fleet : EventFleet) (bookingId : ℕ) (booking : CoordinatedBooking) :
    Except ContractError Unit := do
  require (booking.status ∈ assignableBookingStatuses)
    ⟨"TRANSPORT_BOOKING_UNAVAILABLE", "Transport booking is not assignable"⟩
  match booking.assignedDriverId.bind fleet.driver,
    booking.assignedVehicleId.bind fleet.vehicle with
  | some driver, some vehicle => do
      require (driver.isDeleted = false ∧ driver.isAvailable = true ∧ driver.isOnline = true)
        ⟨"DRIVER_UNAVAILABLE", "The assigned driver is not available"⟩
      require (driver.complianceStatus = .approved)
        ⟨"DRIVER_NOT_APPROVED", "The assigned driver is not approved"⟩
      require (driver.verificationTier ∈ eventVerifiedTiers)
        ⟨"DRIVER_NOT_APPROVED", "The assigned driver is not verified for event service"⟩
      require (vehicle.isDeleted = false ∧ vehicle.status.toLower = "active")
        ⟨"VEHICLE_UNAVAILABLE", "The assigned vehicle is not active"⟩
      require (vehicle.isAvailable = true ∨ vehicle.currentBookingId = some bookingId)
        ⟨"VEHICLE_UNAVAILABLE", "The assigned vehicle is not available"⟩
      require (vehicle.passengerCapacity.all fun capacity =>
          decide (booking.passengerCount ≤ capacity))
        ⟨"TRANSPORT_CAPACITY_EXCEEDED", "The vehicle has no remaining capacity"⟩
  | _, _ =>
    .error ⟨"TRANSPORT_RESOURCE_INCOMPLETE",
      "Transport booking has no eligible driver and vehicle"⟩

/-! ## Reserving a seat -/

/-- The arguments of `ensure_passenger_reservation`, with the clock as it is printed and the
public id a new row gets. -/
structure EnsureSeat where
  bookingReference : String
  eventAssignmentId : Option ℕ := none
  eventId : Option ℕ := none
  fullName : Option String := none
  email : Option String := none
  phone : Option String := none
  userId : Option ℕ := none
  reason : Option String := some "event_coordination"
  now : String
  publicId : String

/-- An argument that is not empty. -/
def given (text : Option String) : Option String := text.filter (fun text => text ≠ "")

def givenId (id : Option ℕ) : Option ℕ := id.filter (fun id => id ≠ 0)

/-- The first characters of a text. -/
def clip (text : String) (length : ℕ) : String := String.ofList (text.toList.take length)

/-- The email that rows are compared with. -/
def emailNorm (email : Option String) : Option String :=
  given (some (strip (email.getD "")).toLower)

/-- `_apply_passenger_identity`. -/
def EnsureSeat.applyIdentity (call : EnsureSeat) (passenger : TransportPassenger) :
    TransportPassenger :=
  { passenger with
    name := ((given call.fullName).map fun name => clip (strip name) 150).or passenger.name
    email := ((given call.email).map fun email =>
      clip (strip email).toLower 255).or passenger.email
    phone := ((given call.phone).map fun phone => clip (strip phone) 30).or passenger.phone
    userId := (givenId call.userId).or passenger.userId }

/-- The row that a seat is reserved with: tagged where the call has an assignment. -/
def EnsureSeat.reserve (call : EnsureSeat) (passenger : TransportPassenger) :
    TransportPassenger :=
  { call.applyIdentity { passenger with
      eventAssignmentId := call.eventAssignmentId.or passenger.eventAssignmentId } with
    status := .confirmed }

/-- A seat given up, with the metadata that says when and why. -/
def retire (metadata : Json.Fields) (passenger : TransportPassenger) : TransportPassenger :=
  { passenger with
    status := .cancelled
    passengerMetadata := Json.Fields.update passenger.passengerMetadata metadata }

def EnsureSeat.retired (call : EnsureSeat) : TransportPassenger → TransportPassenger :=
  retire [("released_at", .str call.now),
    ("release_reason", .str (strip ((given call.reason).getD "reassigned")))]

/-- An active reservation of the assignment. -/
def TransportPassenger.holdsFor (assignmentId : ℕ) (passenger : TransportPassenger) : Bool :=
  passenger.eventAssignmentId = some assignmentId && passenger.active

/-- An active reservation on the booking. -/
def TransportPassenger.seated (bookingId : ℕ) (passenger : TransportPassenger) : Bool :=
  passenger.bookingId = bookingId && passenger.active

def EnsureSeat.matchesEmail (call : EnsureSeat) (bookingId : ℕ)
    (passenger : TransportPassenger) : Bool :=
  passenger.seated bookingId && (emailNorm call.email).any fun email =>
    passenger.email = some email

def EnsureSeat.matchesUser (call : EnsureSeat) (bookingId : ℕ)
    (passenger : TransportPassenger) : Bool :=
  passenger.seated bookingId && (givenId call.userId).any fun userId =>
    passenger.userId = some userId

/-- The passenger found by email, else by user id. -/
def EnsureSeat.findPassenger (call : EnsureSeat) (search : FirstRow TransportPassenger)
    (bookingId : ℕ) (passengers : List TransportPassenger) : Option (ℕ × TransportPassenger) :=
  (search.first (call.matchesEmail bookingId) passengers).orElse fun _ =>
    search.first (call.matchesUser bookingId) passengers

/-- What `_reservation_result` returns. -/
structure SeatResult where
  passengerId : ℕ
  passengerPublicId : String
  status : PassengerStatus
  eventAssignmentId : Option ℕ
deriving DecidableEq, Repr

def seatResult (passengerId : ℕ) (passenger : TransportPassenger) : SeatResult :=
  ⟨passengerId, passenger.publicId, passenger.status, passenger.eventAssignmentId⟩

/-- The row of a passenger that is not there yet. -/
def EnsureSeat.fresh (call : EnsureSeat) (bookingId : ℕ) : TransportPassenger :=
  { publicId := call.publicId, bookingId := bookingId }

/-- Reserve a seat with the passenger found or a new one, then check the seat target. -/
def EnsureSeat.place (call : EnsureSeat) (search : FirstRow TransportPassenger)
    (bookingId : ℕ) (booking : CoordinatedBooking) (passengers : List TransportPassenger) :
    Except ContractError (SeatResult × List TransportPassenger) :=
  let (result, rows) :=
    match call.findPassenger search bookingId passengers with
    | some (i, passenger) =>
      (seatResult i (call.reserve passenger), passengers.modify i call.reserve)
    | none =>
      (seatResult passengers.length (call.reserve (call.fresh bookingId)),
        passengers ++ [call.reserve (call.fresh bookingId)])
  if rows.countP (TransportPassenger.seated bookingId) ≤ booking.passengerCount then
    .ok (result, rows)
  else .error ⟨"TRANSPORT_BOOKING_FULL", "Transport booking capacity exceeded"⟩

/-- The active reservation of the call's assignment. -/
def EnsureSeat.current (call : EnsureSeat) (search : FirstRow TransportPassenger)
    (passengers : List TransportPassenger) : Option (ℕ × TransportPassenger) :=
  call.eventAssignmentId.bind fun assignmentId =>
    search.first (TransportPassenger.holdsFor assignmentId) passengers

/-- Return the reservation where it lies on the booking; retire it elsewhere and place the
passenger anew. -/
def EnsureSeat.seat (call : EnsureSeat) (search : FirstRow TransportPassenger)
    (bookingId : ℕ) (booking : CoordinatedBooking) (passengers : List TransportPassenger) :
    Except ContractError (SeatResult × List TransportPassenger) :=
  match call.current search passengers with
  | some (i, existing) =>
    if existing.bookingId = bookingId then
      .ok (seatResult i (call.applyIdentity existing), passengers.modify i call.applyIdentity)
    else call.place search bookingId booking (passengers.modify i call.retired)
  | none => call.place search bookingId booking passengers

/-- The booking's event after the call. -/
def EnsureSeat.tagEvent (call : EnsureSeat) (booking : CoordinatedBooking) :
    Except ContractError (Option ℕ) :=
  match call.eventId, booking.eventId with
  | none, tagged => .ok tagged
  | some event, none => .ok (some event)
  | some event, some tagged =>
    if tagged = event then .ok (some tagged)
    else .error ⟨"TRANSPORT_BOOKING_EVENT_MISMATCH",
      "Transport booking is reserved for another event"⟩

def ensurePassengerReservation (fleet : EventFleet) (search : FirstRow TransportPassenger)
    (tables : SeatTables) (call : EnsureSeat) :
    Except ContractError (SeatResult × SeatTables) := do
  let (bookingId, booking) ← loadBooking tables.bookings call.bookingReference
  validateBooking fleet bookingId booking
  let eventId ← call.tagEvent booking
  let (result, passengers) ← call.seat search bookingId booking tables.passengers
  return (result,
    ⟨tables.bookings.set bookingId { booking with eventId := eventId }, passengers⟩)

/-! ## Giving a seat up -/

/-- The arguments of `release_passenger`. -/
structure ReleaseSeat where
  eventAssignmentId : Option ℕ := none
  removedByUserId : Option ℕ := none
  reason : Option String := none
  now : String

/-- The arguments of `release_passenger_for_guest`. -/
structure ReleaseGuest where
  bookingReference : String
  email : Option String := none
  userId : Option ℕ := none
  removedByUserId : Option ℕ := none
  reason : Option String := none
  now : String

/-- The metadata of a release. -/
def releaseMetadata (now : String) (reason : Option String) (removedByUserId : Option ℕ) :
    Json.Fields :=
  [("released_at", .str now),
    ("release_reason", .str (strip ((given reason).getD "assignment cancelled"))),
    ("released_by_user_id", (removedByUserId.map fun id => Json.num id).getD .null)]

/-- Retire the rows that meet the condition; `false` when there is none. -/
def releaseWhere (tables : SeatTables) (condition : TransportPassenger → Bool)
    (metadata : Json.Fields) : Bool × SeatTables :=
  if tables.passengers.any condition then
    (true, { tables with
      passengers := tables.passengers.map fun passenger =>
        if condition passenger then retire metadata passenger else passenger })
  else (false, tables)

def releasePassenger (tables : SeatTables) (call : ReleaseSeat) : Bool × SeatTables :=
  match call.eventAssignmentId with
  | none => (false, tables)
  | some assignmentId =>
    releaseWhere tables (TransportPassenger.holdsFor assignmentId)
      (releaseMetadata call.now call.reason call.removedByUserId)

/-- The passenger is the guest of the call and not bound to an event assignment. -/
def ReleaseGuest.isGuest (call : ReleaseGuest) (bookingId : ℕ)
    (passenger : TransportPassenger) : Bool :=
  passenger.seated bookingId && passenger.eventAssignmentId.isNone &&
    ((emailNorm call.email).any (fun email => passenger.email = some email) ||
      (givenId call.userId).any fun userId => passenger.userId = some userId)

def releasePassengerForGuest (tables : SeatTables) (call : ReleaseGuest) :
    Except ContractError (Bool × SeatTables) := do
  let (bookingId, _) ← loadBooking tables.bookings call.bookingReference
  require ((emailNorm call.email).isSome ∨ (givenId call.userId).isSome)
    ⟨"PASSENGER_IDENTITY_REQUIRED",
      "A passenger email or user id is required to release the reservation"⟩
  return releaseWhere tables (call.isGuest bookingId)
    (releaseMetadata call.now call.reason call.removedByUserId)

/-! ## Calls one after the other -/

inductive SeatCall
  | ensure (call : EnsureSeat)
  | release (call : ReleaseSeat)
  | releaseGuest (call : ReleaseGuest)

/-- The tables a call leaves: committed when it returns, rolled back when it raises. -/
def seatNext (fleet : EventFleet) (tables : SeatTables)
    (step : SeatCall × FirstRow TransportPassenger) : SeatTables :=
  match step.1 with
  | .ensure call =>
    match ensurePassengerReservation fleet step.2 tables call with
    | .ok (_, tables) => tables
    | .error _ => tables
  | .release call => (releasePassenger tables call).2
  | .releaseGuest call =>
    match releasePassengerForGuest tables call with
    | .ok (_, tables) => tables
    | .error _ => tables

/-- The assignment a call is made for. -/
def SeatCall.assignment : SeatCall → Option ℕ
  | .ensure call => call.eventAssignmentId
  | .release call => call.eventAssignmentId
  | .releaseGuest _ => none

end Afcon360.Transport
