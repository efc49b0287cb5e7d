import Afcon360.Foundation.RowLock

/-!
# Claims and releases of drivers and vehicles

`AssignmentService` gives a confirmed booking a driver and a vehicle and takes them back.
Each call is one transaction of several statements at the isolation level read committed:
a statement reads what is committed when it begins, and a row that a call has written or
locked stays locked until the call ends.

An update whose row is locked waits. When it goes on it checks its conditions again on the
row as it then is, but a subquery keeps what it read when the statement began. The updates
of the vehicle have such a subquery, so each of them is two steps here: it begins, and it
goes on when the row is free. The updates of the booking have conditions on their own row
only and are one step.

Bookings, drivers and vehicles are named by their positions in the tables.
-/

namespace Afcon360.Transport

open Foundation

inductive BookingStatus
  | draft | pendingPayment | confirmed | assigned | driverEnRoute | pickupArrived | inProgress
  | completed | cancelled | noShow | disputed | noMatch
deriving DecidableEq, Repr

inductive ComplianceStatus
  | pendingReview | underReview | approved | suspended | revoked | blacklisted
deriving DecidableEq, Repr

/-- The text of a status. -/
def BookingStatus.value : BookingStatus → String
  | .draft => "draft"
  | .pendingPayment => "pending_payment"
  | .confirmed => "confirmed"
  | .assigned => "assigned"
  | .driverEnRoute => "driver_en_route"
  | .pickupArrived => "pickup_arrived"
  | .inProgress => "in_progress"
  | .completed => "completed"
  | .cancelled => "cancelled"
  | .noShow => "no_show"
  | .disputed => "disputed"
  | .noMatch => "no_match"

/-- `NO_MATCH_REASONS`. -/
def noMatchReasons : List String := ["no_supply", "all_rejected"]

/-- `ACTIVE_ASSIGNMENT_STATUSES`. -/
def BookingStatus.activeAssignment : BookingStatus → Bool
  | .assigned => true
  | .driverEnRoute => true
  | .pickupArrived => true
  | .inProgress => true
  | .disputed => true
  | _ => false

/-- `TERMINAL_RELEASE_STATUSES`. -/
def BookingStatus.terminalRelease : BookingStatus → Bool
  | .completed => true
  | .cancelled => true
  | .noShow => true
  | _ => false

/-- The statuses in which a driver may still cancel. -/
def BookingStatus.driverCancellable : BookingStatus → Bool
  | .assigned => true
  | .driverEnRoute => true
  | .pickupArrived => true
  | _ => false

structure Booking where
  status : BookingStatus
  assignedDriverId : Option ℕ := none
  assignedVehicleId : Option ℕ := none
  isDeleted : Bool := false
deriving DecidableEq, Repr

structure DriverProfile where
  complianceStatus : ComplianceStatus := .approved
  isOnline : Bool
  isDeleted : Bool := false
deriving DecidableEq, Repr

structure Vehicle where
  status : String := "active"
  isAvailable : Bool
  isDeleted : Bool := false
deriving DecidableEq, Repr

structure FleetTables where
  bookings : List Booking
  drivers : List DriverProfile
  vehicles : List Vehicle
deriving DecidableEq, Repr

/-- What a booking can hold. -/
inductive Resource
  | driver (id : ℕ)
  | vehicle (id : ℕ)
deriving DecidableEq, Repr

inductive FleetRow
  | booking (id : ℕ)
  | resource (resource : Resource)
deriving DecidableEq, Repr

namespace Booking

/-- A non-deleted booking with an active assignment. -/
def active (booking : Booking) : Bool := booking.status.activeAssignment && !booking.isDeleted

/-- The driver and the vehicle of an active booking. -/
def holds (booking : Booking) : Resource → Bool
  | .driver id => booking.active && booking.assignedDriverId = some id
  | .vehicle id => booking.active && booking.assignedVehicleId = some id

/-- Confirmed and completely unassigned. -/
def claimable (booking : Booking) : Bool :=
  booking.status = .confirmed && booking.assignedDriverId.isNone &&
    booking.assignedVehicleId.isNone && !booking.isDeleted

def isAssigned (booking : Booking) : Bool :=
  booking.assignedDriverId.isSome || booking.assignedVehicleId.isSome

end Booking

namespace FleetTables

/-- `driver_engaged_other` and `vehicle_engaged_other`. -/
def engagedOther (tables : FleetTables) (resource : Resource) (bookingId : ℕ) : Bool :=
  tables.bookings.zipIdx.any (fun entry => entry.2 ≠ bookingId && entry.1.holds resource)

/-- The rows that a call has written. -/
def write (tables : FleetTables) (bookingId : ℕ) (booking : Booking)
    (vehicle : Option (ℕ × Vehicle)) : FleetTables :=
  { tables with
    bookings := tables.bookings.set bookingId booking
    vehicles :=
      match vehicle with
      | none => tables.vehicles
      | some (id, row) => tables.vehicles.set id row }

end FleetTables

/-- `DispatchClaimError`. -/
structure DispatchClaimError where
  kind : String
  message : String
deriving DecidableEq, Repr

/-- The arguments of a claim. -/
structure Claim where
  bookingId : ℕ
  driverId : ℕ
  vehicleId : ℕ
  forced : Bool
deriving DecidableEq, Repr

/-- The conditions of a claim on the row of its vehicle. -/
def Claim.vehicleReady (c : Claim) (vehicle : Vehicle) : Bool :=
  !vehicle.isDeleted && vehicle.status = "active" && (vehicle.isAvailable || c.forced)

/-- How far a claim is, with the versions of the rows that it has written. -/
inductive ClaimStage
  | called
  | driverLocked
  | bookingUpdated (booking : Booking)
  | driverChecked (booking : Booking)
  | vehicleBegun (booking : Booking)
  | vehicleUpdated (booking : Booking) (vehicle : Vehicle)
deriving DecidableEq, Repr

/-- The arguments of a release; `release_to_no_match` when `toNoMatch`. -/
structure Release where
  bookingId : ℕ
  target : BookingStatus
  toNoMatch : Bool
deriving DecidableEq, Repr

/-- How far a release is: the row it has read, the version it has written, and the vehicle
that is still to be freed. -/
inductive ReleaseStage
  | called
  | read (seen : Booking)
  | bookingUpdated (booking : Booking) (vehicleId : Option ℕ)
  | vehicleBegun (booking : Booking) (vehicleId : ℕ)
  | done (booking : Booking) (vehicle : Option (ℕ × Vehicle))
deriving DecidableEq, Repr

inductive FleetCall
  | claim (claim : Claim) (stage : ClaimStage)
  | release (release : Release) (stage : ReleaseStage)
  | failed (error : DispatchClaimError)
  | rolledBack
  | replayed
  | committed
deriving DecidableEq, Repr

/-- The rows a claim has locked. -/
def ClaimStage.holds (c : Claim) (row : FleetRow) : ClaimStage → Bool
  | .called => false
  | .driverLocked => row = .resource (.driver c.driverId)
  | .bookingUpdated _ | .driverChecked _ | .vehicleBegun _ =>
    row = .resource (.driver c.driverId) ∨ row = .booking c.bookingId
  | .vehicleUpdated _ _ =>
    row = .resource (.driver c.driverId) ∨ row = .booking c.bookingId ∨
      row = .resource (.vehicle c.vehicleId)

/-- The rows a release has locked. -/
def ReleaseStage.holds (r : Release) (row : FleetRow) : ReleaseStage → Bool
  | .called => false
  | .read _ => r.toNoMatch && row = .booking r.bookingId
  | .bookingUpdated _ _ | .vehicleBegun _ _ | .done _ none => row = .booking r.bookingId
  | .done _ (some (vehicleId, _)) =>
    row = .booking r.bookingId ∨ row = .resource (.vehicle vehicleId)

def FleetCall.holds : FleetCall → FleetRow → Bool
  | .claim c stage, row => stage.holds c row
  | .release r stage, row => stage.holds r row
  | _, _ => false

/-- The committed tables and the calls. -/
structure Fleet where
  tables : FleetTables
  calls : List FleetCall := []
deriving DecidableEq, Repr

namespace Fleet

inductive Move
  | claim (bookingId driverId vehicleId : ℕ) (force actorIsAdmin : Bool)
  | release (bookingId : ℕ) (terminalStatus : BookingStatus)
  | releaseToNoMatch (bookingId : ℕ) (reason : String)
  | next (place : ℕ)
  | commit (place : ℕ)
  | abort (place : ℕ)
deriving DecidableEq, Repr

def free (s : Fleet) (place : ℕ) (row : FleetRow) : Bool :=
  rowFree FleetCall.holds s.calls place row

def setCall (s : Fleet) (place : ℕ) (call : FleetCall) : Fleet :=
  { s with calls := s.calls.set place call }

/-- Roll back and raise. -/
def fail (s : Fleet) (place : ℕ) (kind message : String) : Fleet :=
  s.setCall place (.failed ⟨kind, message⟩)

def vehicleUnavailable (s : Fleet) (place : ℕ) : Fleet :=
  s.fail place "vehicle_unavailable"
    "vehicle is not claimable (missing, inactive, busy on another active booking, or deleted)"

/-- The next statement of a claim. -/
def claimNext (s : Fleet) (place : ℕ) (c : Claim) : ClaimStage → Fleet
  -- r0: lock the driver
  | .called =>
    match s.tables.drivers[c.driverId]? with
    | none => s.fail place "driver_unavailable" "driver not found"
    | some _ =>
      if s.free place (.resource (.driver c.driverId)) then
        s.setCall place (.claim c .driverLocked)
      else s
  -- r1: the booking must be confirmed and unassigned
  | .driverLocked =>
    match s.tables.bookings[c.bookingId]?.filter Booking.claimable with
    | none =>
      s.fail place "booking_unavailable"
        "booking is no longer claimable (already assigned, cancelled, or deleted)"
    | some booking =>
      if s.free place (.booking c.bookingId) then
        s.setCall place (.claim c (.bookingUpdated
          { booking with
            status := .assigned
            assignedDriverId := some c.driverId
            assignedVehicleId := some c.vehicleId }))
      else s
  -- r2: the driver must be ready and not engaged elsewhere
  | .bookingUpdated booking =>
    if s.tables.drivers[c.driverId]?.any (fun driver => !driver.isDeleted &&
          driver.complianceStatus = .approved && (driver.isOnline || c.forced)) &&
        !s.tables.engagedOther (.driver c.driverId) c.bookingId then
      s.setCall place (.claim c (.driverChecked booking))
    else
      s.fail place "driver_unavailable"
        ("driver is not claimable (missing, offline, busy on another active booking," ++
          " unapproved, or deleted)")
  -- r3 begins: the conditions on the vehicle, and no other active booking has it
  | .driverChecked booking =>
    if s.tables.vehicles[c.vehicleId]?.any c.vehicleReady &&
        !s.tables.engagedOther (.vehicle c.vehicleId) c.bookingId then
      s.setCall place (.claim c (.vehicleBegun booking))
    else s.vehicleUnavailable place
  -- r3 goes on: the conditions on the row as it now is
  | .vehicleBegun booking =>
    if s.free place (.resource (.vehicle c.vehicleId)) then
      match s.tables.vehicles[c.vehicleId]?.filter c.vehicleReady with
      | none => s.vehicleUnavailable place
      | some vehicle =>
        s.setCall place (.claim c (.vehicleUpdated booking
          { vehicle with isAvailable := false }))
    else s
  | .vehicleUpdated _ _ => s

/-- The update of the booking in `release`: the assigned form takes the driver and the
vehicle off an active booking, the other form only sets the status. -/
def releaseBooking (s : Fleet) (place : ℕ) (r : Release) (seen : Booking) : Fleet :=
  let assigned := seen.isAssigned
  match s.tables.bookings[r.bookingId]?.filter (fun booking => !booking.isDeleted &&
      (!assigned || booking.status.activeAssignment)) with
  | none =>
    if assigned then
      s.fail place "invalid_state" "booking is not in an active assignment state"
    else s.fail place "invalid_state" "booking is not releasable"
  | some booking =>
    if s.free place (.booking r.bookingId) then
      if assigned then
        s.setCall place (.release r (.bookingUpdated
          { booking with
            status := r.target, assignedDriverId := none, assignedVehicleId := none }
          seen.assignedVehicleId))
      -- Its reason stays, and `chk_no_match_reason` refuses it with another status.
      else if booking.status = .noMatch then s.setCall place .rolledBack
      else s.setCall place (.release r (.done { booking with status := r.target } none))
    else s

/-- The update of the booking in `release_to_no_match`, whose row is locked. -/
def noMatchBooking (s : Fleet) (place : ℕ) (r : Release) (seen : Booking) : Fleet :=
  match s.tables.bookings[r.bookingId]?.filter (fun booking => !booking.isDeleted &&
      booking.status.driverCancellable) with
  | none => s.fail place "invalid_state" "booking is no longer in the assigned state"
  | some booking =>
    s.setCall place (.release r (.bookingUpdated
      { booking with
        status := r.target, assignedDriverId := none, assignedVehicleId := none }
      seen.assignedVehicleId))

/-- The first statement of a release: `release` reads the booking, `release_to_no_match`
locks it and goes on only with a pre-trip assignment. -/
def releaseRead (s : Fleet) (place : ℕ) (r : Release) : Fleet :=
  match s.tables.bookings[r.bookingId]? with
  | none => s.fail place "booking_unavailable" "booking not found"
  | some seen =>
    if ¬ r.toNoMatch then s.setCall place (.release r (.read seen))
    else if ¬ s.free place (.booking r.bookingId) then s
    else if seen.status = .noMatch then s.setCall place .replayed
    else if ¬ seen.isAssigned then
      s.fail place "invalid_state" "booking has no active assignment to release"
    else if ¬ seen.status.driverCancellable then
      s.fail place "invalid_state" "booking is not in a pre-trip assignment state"
    else s.setCall place (.release r (.read seen))

/-- The next statement of a release. -/
def releaseNext (s : Fleet) (place : ℕ) (r : Release) : ReleaseStage → Fleet
  | .called => s.releaseRead place r
  | .read seen => if r.toNoMatch then s.noMatchBooking place r seen else s.releaseBooking
      place r seen
  -- the update of the vehicle begins
  | .bookingUpdated booking none => s.setCall place (.release r (.done booking none))
  | .bookingUpdated booking (some vehicleId) =>
    if s.tables.vehicles[vehicleId]?.any (fun vehicle => !vehicle.isAvailable &&
          !vehicle.isDeleted) &&
        !s.tables.engagedOther (.vehicle vehicleId) r.bookingId then
      s.setCall place (.release r (.vehicleBegun booking vehicleId))
    else s.setCall place (.release r (.done booking none))
  -- and goes on
  | .vehicleBegun booking vehicleId =>
    if s.free place (.resource (.vehicle vehicleId)) then
      match s.tables.vehicles[vehicleId]?.filter (fun vehicle => !vehicle.isAvailable &&
          !vehicle.isDeleted) with
      | none => s.setCall place (.release r (.done booking none))
      | some vehicle =>
        s.setCall place (.release r (.done booking
          (some (vehicleId, { vehicle with isAvailable := true }))))
    else s
  | .done _ _ => s

/-- A claim begins: only an administrator may force it, and the booking must be there. -/
def beginClaim (s : Fleet) (c : Claim) (actorIsAdmin : Bool) : FleetCall :=
  if c.forced ∧ ¬ actorIsAdmin then
    .failed ⟨"unauthorized", "force claims are restricted to admin/super_admin/owner actors"⟩
  else
    match s.tables.bookings[c.bookingId]? with
    | none => .failed ⟨"booking_unavailable", "booking not found"⟩
    | some _ => .claim c .called

/-- Commit a call that has run all its statements. -/
def commitCall (s : Fleet) (place : ℕ) : Fleet :=
  match s.calls[place]? with
  | some (.claim c (.vehicleUpdated booking vehicle)) =>
    { tables := s.tables.write c.bookingId booking (some (c.vehicleId, vehicle))
      calls := s.calls.set place .committed }
  | some (.release r (.done booking vehicle)) =>
    { tables := s.tables.write r.bookingId booking vehicle
      calls := s.calls.set place .committed }
  | _ => s

/-- A call that is still under way is rolled back: a deadlock, a time-out, or an error of
the transaction that a claim is part of. -/
def abortCall (s : Fleet) (place : ℕ) : Fleet :=
  match s.calls[place]? with
  | some (.claim _ _) => s.setCall place .rolledBack
  | some (.release _ _) => s.setCall place .rolledBack
  | _ => s

def after (s : Fleet) : Move → Fleet
  | .claim bookingId driverId vehicleId force actorIsAdmin =>
    { s with
      calls := s.calls ++ [s.beginClaim ⟨bookingId, driverId, vehicleId, force⟩ actorIsAdmin] }
  | .release bookingId terminalStatus =>
    { s with
      calls := s.calls ++
        [if terminalStatus.terminalRelease then .release ⟨bookingId, terminalStatus, false⟩ .called
         else .failed ⟨"invalid_state",
           terminalStatus.value ++ " is not a terminal release status"⟩] }
  | .releaseToNoMatch bookingId reason =>
    { s with
      calls := s.calls ++
        [if reason ∈ noMatchReasons then .release ⟨bookingId, .noMatch, true⟩ .called
         else .failed ⟨"invalid_state", reason ++ " is not a no-match reason"⟩] }
  | .next place =>
    match s.calls[place]? with
    | some (.claim c stage) => s.claimNext place c stage
    | some (.release r stage) => s.releaseNext place r stage
    | _ => s
  | .commit place => s.commitCall place
  | .abort place => s.abortCall place

def step (s : Fleet) (move : Move) (t : Fleet) : Prop := s.after move = t

end Fleet

end Afcon360.Transport
