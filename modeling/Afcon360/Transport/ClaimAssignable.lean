import Afcon360.Transport.AssignmentRuns
import Afcon360.Transport.SeatReservation

/-!
# What a claim leaves for the event contract

The event contract takes bookings that are confirmed or assigned, with an approved driver
and a vehicle that is available or engaged on that very booking. A claim assigns the booking
and takes the vehicle out of availability; it does not write the column by which the
contract would see for whom.

The two models meet in the tables of the fleet. The columns that no assignment writes are
a `ContractColumns`.
-/

namespace Afcon360.Transport

open Foundation

/-- The columns of bookings, drivers and vehicles that the contract reads and no assignment
writes. -/
structure ContractColumns where
  bookingReference : ℕ → String
  passengerCount : ℕ → ℕ
  passengerCount_pos : ∀ id, 0 < passengerCount id
  eventId : ℕ → Option ℕ
  isAvailable : ℕ → Bool
  verificationTier : ℕ → VerificationTier
  currentBookingId : ℕ → Option ℕ
  passengerCapacity : ℕ → Option ℕ

namespace ContractColumns

/-- A row of the bookings as the contract reads it. -/
def booking (columns : ContractColumns) (id : ℕ) (row : Booking) : CoordinatedBooking where
  bookingReference := columns.bookingReference id
  status := row.status
  passengerCount := columns.passengerCount id
  passengerCount_pos := columns.passengerCount_pos id
  assignedDriverId := row.assignedDriverId
  assignedVehicleId := row.assignedVehicleId
  eventId := columns.eventId id
  isDeleted := row.isDeleted

/-- Drivers and vehicles as the contract reads them. -/
def fleet (columns : ContractColumns) (tables : FleetTables) : EventFleet where
  driver id := tables.drivers[id]?.map fun row =>
    { row with
      isAvailable := columns.isAvailable id
      verificationTier := columns.verificationTier id }
  vehicle id := tables.vehicles[id]?.map fun row =>
    { row with
      currentBookingId := columns.currentBookingId id
      passengerCapacity := columns.passengerCapacity id }

end ContractColumns

/-! ## The rows a claim leaves -/

/-- The version of its booking that a claim writes. -/
structure Claim.LeavesBooking (c : Claim) (tables : FleetTables) (row : Booking) : Prop where
  there : c.bookingId < tables.bookings.length
  assigned : row.status = .assigned
  driver : row.assignedDriverId = some c.driverId
  vehicle : row.assignedVehicleId = some c.vehicleId
  live : row.isDeleted = false

/-- The version of its vehicle. -/
structure Claim.LeavesVehicle (c : Claim) (tables : FleetTables) (row : Vehicle) : Prop where
  there : c.vehicleId < tables.vehicles.length
  active : row.status = "active"
  taken : row.isAvailable = false
  live : row.isDeleted = false

def ClaimStage.Leaves (c : Claim) (tables : FleetTables) : ClaimStage → Prop
  | .called | .driverLocked => True
  | .bookingUpdated row | .driverChecked row | .vehicleBegun row => c.LeavesBooking tables row
  | .vehicleUpdated row vehicle => c.LeavesBooking tables row ∧ c.LeavesVehicle tables vehicle

def FleetCall.Leaves (tables : FleetTables) : FleetCall → Prop
  | .claim c stage => stage.Leaves c tables
  | _ => True

namespace Fleet

variable {s t : Fleet} {place : ℕ} {c : Claim} {r : Release} {moves : List Move}

/-- Every claim has written what it is to leave. -/
def Leaves (s : Fleet) : Prop :=
  ∀ (place : ℕ) (call : FleetCall), s.calls[place]? = some call → call.Leaves s.tables

theorem Leaves.setCall (h : s.Leaves) {call : FleetCall} (hcall : call.Leaves s.tables) :
    (s.setCall place call).Leaves := by
  intro q other hother
  obtain ⟨-, rfl⟩ | ⟨-, hold⟩ := getElem?_set_cases hother
  · exact hcall
  · exact h q other hold

theorem claimNext_leaves (h : s.Leaves) {stage : ClaimStage}
    (hcall : s.calls[place]? = some (.claim c stage)) :
    (s.claimNext place c stage).Leaves := by
  have hstage : stage.Leaves c s.tables := h place _ hcall
  cases stage with
  | called =>
    simp only [claimNext]
    split
    · exact h.setCall trivial
    split
    · exact h.setCall trivial
    · exact h
  | driverLocked =>
    simp only [claimNext]
    split
    · exact h.setCall trivial
    rename_i booking hbooking
    split
    · obtain ⟨hrow, hclaimable⟩ := Option.filter_eq_some_iff.mp hbooking
      refine h.setCall ⟨(List.getElem?_eq_some_iff.mp hrow).1, rfl, rfl, rfl, ?_⟩
      simp only [Booking.claimable, Bool.and_eq_true, Bool.not_eq_true'] at hclaimable
      exact hclaimable.2
    · exact h
  | bookingUpdated booking | driverChecked booking =>
    simp only [claimNext]
    split
    · exact h.setCall hstage
    · exact h.setCall trivial
  | vehicleBegun booking =>
    simp only [claimNext]
    split
    · split
      · exact h.setCall trivial
      · rename_i vehicle hvehicle
        obtain ⟨hrow, hready⟩ := Option.filter_eq_some_iff.mp hvehicle
        simp only [Claim.vehicleReady, Bool.and_eq_true, Bool.not_eq_true',
          decide_eq_true_eq] at hready
        exact h.setCall ⟨hstage, (List.getElem?_eq_some_iff.mp hrow).1, hready.1.2, rfl,
          hready.1.1⟩
    · exact h
  | vehicleUpdated booking vehicle => exact h

theorem releaseNext_leaves (h : s.Leaves) (stage : ReleaseStage) :
    (s.releaseNext place r stage).Leaves := by
  cases stage with
  | called =>
    simp only [releaseNext, releaseRead]
    repeat' split
    all_goals first
      | exact h
      | exact h.setCall trivial
  | read seen =>
    simp only [releaseNext, releaseBooking, noMatchBooking]
    repeat' split
    all_goals first
      | exact h
      | exact h.setCall trivial
  | bookingUpdated booking vehicleId =>
    cases vehicleId with
    | none => exact h.setCall trivial
    | some vehicleId =>
      simp only [releaseNext]
      split
      · exact h.setCall trivial
      · exact h.setCall trivial
  | vehicleBegun booking vehicleId =>
    simp only [releaseNext]
    split
    · split
      · exact h.setCall trivial
      · exact h.setCall trivial
    · exact h
  | done booking vehicle => exact h

theorem leaves_write {call : FleetCall} {tables : FleetTables} {bookingId : ℕ}
    {booking : Booking} {vehicle : Option (ℕ × Vehicle)} (h : call.Leaves tables) :
    call.Leaves (tables.write bookingId booking vehicle) := by
  have hbookings : (tables.write bookingId booking vehicle).bookings.length =
      tables.bookings.length := by simp [FleetTables.write]
  have hvehicles : (tables.write bookingId booking vehicle).vehicles.length =
      tables.vehicles.length := by
    cases vehicle <;> simp [FleetTables.write]
  have hrow : ∀ {c : Claim} {row : Booking}, c.LeavesBooking tables row →
      c.LeavesBooking (tables.write bookingId booking vehicle) row :=
    fun h => ⟨hbookings ▸ h.there, h.assigned, h.driver, h.vehicle, h.live⟩
  cases call with
  | claim c stage =>
    cases stage with
    | called | driverLocked => trivial
    | bookingUpdated row | driverChecked row | vehicleBegun row => exact hrow h
    | vehicleUpdated row vehicle' =>
      exact ⟨hrow h.1, hvehicles ▸ h.2.there, h.2.active, h.2.taken, h.2.live⟩
  | _ => trivial

theorem commitCall_leaves (h : s.Leaves) : (s.commitCall place).Leaves := by
  have hwrite : ∀ (bookingId : ℕ) (booking : Booking) (vehicle : Option (ℕ × Vehicle)),
      Leaves { tables := s.tables.write bookingId booking vehicle
               calls := s.calls.set place .committed } := by
    intro bookingId booking vehicle q call hcall
    obtain ⟨-, rfl⟩ | ⟨-, hold⟩ := getElem?_set_cases hcall
    · trivial
    · exact leaves_write (h q call hold)
  unfold commitCall
  split
  · exact hwrite _ _ _
  · exact hwrite _ _ _
  · exact h

theorem after_leaves (h : s.Leaves) (move : Move) : (s.after move).Leaves := by
  have happend : ∀ call : FleetCall, call.Leaves s.tables →
      Leaves { s with calls := s.calls ++ [call] } := by
    intro call hcall q other hother
    obtain hold | ⟨-, rfl⟩ := getElem?_append_cases hother
    · exact h q other hold
    · exact hcall
  cases move with
  | claim bookingId driverId vehicleId force actorIsAdmin =>
    refine happend _ ?_
    unfold beginClaim
    split
    · trivial
    · split <;> trivial
  | release bookingId terminalStatus =>
    refine happend _ ?_
    split <;> trivial
  | releaseToNoMatch bookingId reason =>
    refine happend _ ?_
    split <;> trivial
  | next place =>
    simp only [after]
    split
    · rename_i hcall
      exact claimNext_leaves h hcall
    · exact releaseNext_leaves h _
    · exact h
  | commit place => exact commitCall_leaves h
  | abort place =>
    simp only [after, abortCall]
    split
    · exact h.setCall trivial
    · exact h.setCall trivial
    · exact h

theorem run_leaves (run : Run step s moves t) (hcalls : s.calls = []) : t.Leaves := by
  have hstart : s.Leaves := by
    intro place call hcall
    rw [hcalls] at hcall
    cases hcall
  refine run.invariant Leaves ?_ hstart
  rintro before move _ h rfl
  exact after_leaves h move

end Fleet

/-! ## The contract after a claim -/

/-- The driver of the claim is online, available, approved and event-verified, and the
vehicle has room for the passengers. -/
structure ContractColumns.Eligible (columns : ContractColumns) (tables : FleetTables)
    (c : Claim) : Prop where
  driver : ∃ row, tables.drivers[c.driverId]? = some row ∧ row.isOnline = true ∧
    row.complianceStatus = .approved ∧ row.isDeleted = false
  available : columns.isAvailable c.driverId = true
  verified : columns.verificationTier c.driverId ∈ eventVerifiedTiers
  capacity : ∀ capacity, columns.passengerCapacity c.vehicleId = some capacity →
    columns.passengerCount c.bookingId ≤ capacity

/-- The booking is still that of the claim and not released, and its vehicle is as the claim
left it. -/
structure Claim.Kept (c : Claim) (vehicle : Vehicle) (tables : FleetTables) (row : Booking) :
    Prop where
  there : tables.bookings[c.bookingId]? = some row
  driver : row.assignedDriverId = some c.driverId
  assignedVehicle : row.assignedVehicleId = some c.vehicleId
  active : row.active = true
  unchanged : tables.vehicles[c.vehicleId]? = some vehicle

theorem validateBooking_iff {columns : ContractColumns} {tables : FleetTables} {c : Claim}
    {row : Booking} {vehicle : Vehicle} (eligible : columns.Eligible tables c)
    (kept : c.Kept vehicle tables row) (left : c.LeavesVehicle tables vehicle) :
    validateBooking (columns.fleet tables) c.bookingId (columns.booking c.bookingId row) =
        .ok () ↔
      row.status = .assigned ∧ columns.currentBookingId c.vehicleId = some c.bookingId := by
  obtain ⟨driver, hdriver, honline, happroved, hlive⟩ := eligible.driver
  have hactive : row.status.activeAssignment = true := (Bool.and_eq_true_iff.mp kept.active).1
  have hstatus : row.status ∈ assignableBookingStatuses ↔ row.status = .assigned := by
    cases hrow : row.status with
    | assigned => simp [assignableBookingStatuses]
    | confirmed => rw [hrow] at hactive; cases hactive
    | _ => simp [assignableBookingStatuses]
  have hcapacity : ((columns.passengerCapacity c.vehicleId).all fun capacity =>
      decide (columns.passengerCount c.bookingId ≤ capacity)) = true := by
    cases hsome : columns.passengerCapacity c.vehicleId with
    | none => rfl
    | some capacity => exact decide_eq_true (eligible.capacity capacity hsome)
  have htext : "active".toLower = "active" := by decide +kernel
  unfold validateBooking
  rw [check_bind_eq_ok, require_eq_ok]
  simp only [ContractColumns.booking, ContractColumns.fleet, kept.driver, kept.assignedVehicle,
    Option.bind_some, hdriver, kept.unchanged, Option.map_some, check_bind_eq_ok, require_eq_ok,
    hlive, eligible.available, honline, happroved, eligible.verified, left.live, left.active,
    htext, left.taken, hcapacity, hstatus, and_true, true_and, Bool.false_eq_true, false_or]

/-- The claim gets through: it commits the versions of its booking and its vehicle. -/
def Fleet.ClaimSucceeds (s : Fleet) (place : ℕ) (c : Claim) (booking : Booking)
    (vehicle : Vehicle) : Prop :=
  s.calls[place]? = some (.claim c (.vehicleUpdated booking vehicle))

/-- In every state that calls of any number reach, a claim that succeeds leaves its booking
assigned. For as long as the booking keeps the driver and the vehicle and these are as they
were, the contract accepts it exactly if it is still in the status that the claim gave it
and the column by which the vehicle names its booking has named it all along. -/
theorem claim_assignable {start s : Fleet} {moves : List Fleet.Move} {place : ℕ} {c : Claim}
    {booking : Booking} {vehicle : Vehicle} (columns : ContractColumns)
    (hstart : start.calls = []) (run : Run Fleet.step start moves s)
    (hclaim : s.ClaimSucceeds place c booking vehicle) :
    c.Kept vehicle (s.after (.commit place)).tables booking ∧ booking.status = .assigned ∧
      ∀ (later : FleetTables) (row : Booking), columns.Eligible later c →
        c.Kept vehicle later row →
        (validateBooking (columns.fleet later) c.bookingId (columns.booking c.bookingId row) =
            .ok () ↔
          row.status = .assigned ∧
            columns.currentBookingId c.vehicleId = some c.bookingId) := by
  obtain ⟨hbooking, hvehicle⟩ := Fleet.run_leaves run hstart place _ hclaim
  refine ⟨?_, hbooking.assigned, ?_⟩
  · have htables : (s.after (.commit place)).tables =
        s.tables.write c.bookingId booking (some (c.vehicleId, vehicle)) := by
      have hcall : s.calls[place]? = some (.claim c (.vehicleUpdated booking vehicle)) := hclaim
      simp only [Fleet.after, Fleet.commitCall, hcall]
    rw [htables]
    refine ⟨?_, hbooking.driver, hbooking.vehicle, ?_, ?_⟩
    · simp [FleetTables.write, hbooking.there]
    · simp [Booking.active, hbooking.assigned, hbooking.live, BookingStatus.activeAssignment]
    · simp [FleetTables.write, hvehicle.there]
  · intro later row eligible kept
    have left : c.LeavesVehicle later vehicle :=
      ⟨(List.getElem?_eq_some_iff.mp kept.unchanged).1, hvehicle.active, hvehicle.taken,
        hvehicle.live⟩
    exact validateBooking_iff eligible kept left

/-! ## A claim of one booking -/

/-- One confirmed booking, one driver who is online and one vehicle. -/
def oneConfirmed : Fleet :=
  { tables :=
      { bookings := [{ status := .confirmed }]
        drivers := [{ isOnline := true }]
        vehicles := [{ isAvailable := true }] } }

/-- Two passengers, an event-certified driver and a vehicle of four seats. -/
def oneColumns (currentBookingId : Option ℕ) : ContractColumns where
  bookingReference _ := "TR1"
  passengerCount _ := 2
  passengerCount_pos _ := by decide
  eventId _ := none
  isAvailable _ := true
  verificationTier _ := .eventCertified
  currentBookingId _ := currentBookingId
  passengerCapacity _ := some 4

/-- The statements of a claim, before its commit. -/
def oneClaim : Fleet :=
  [Fleet.Move.claim 0 0 0 false false, .next 0, .next 0, .next 0, .next 0, .next 0].foldl
    Fleet.after oneConfirmed

theorem eligible_oneClaim (currentBookingId : Option ℕ) :
    (oneColumns currentBookingId).Eligible (oneClaim.after (.commit 0)).tables
      ⟨0, 0, 0, false⟩ where
  driver := ⟨{ isOnline := true }, by decide +kernel, rfl, rfl, rfl⟩
  available := rfl
  verified := by simp [oneColumns, eventVerifiedTiers]
  capacity := by
    rintro capacity ⟨⟩
    exact (by decide : (2 : ℕ) ≤ 4)

theorem claim_assignable_named :
    validateBooking ((oneColumns (some 0)).fleet (oneClaim.after (.commit 0)).tables) 0
      ((oneColumns (some 0)).booking 0 ⟨.assigned, some 0, some 0, false⟩) = .ok () := by
  have h := claim_assignable (oneColumns (some 0)) rfl (Run.foldl Fleet.after oneConfirmed _)
    (show oneClaim.ClaimSucceeds 0 ⟨0, 0, 0, false⟩ ⟨.assigned, some 0, some 0, false⟩
      { isAvailable := false } by unfold Fleet.ClaimSucceeds; decide +kernel)
  exact (h.2.2 _ _ (eligible_oneClaim _) h.1).mpr ⟨rfl, rfl⟩

/-- No assignment writes the column, so that an assigned booking is refused because of its
own vehicle. -/
theorem claimed_vehicle_unavailable :
    ¬ ∀ (columns : ContractColumns) (start : Fleet) (moves : List Fleet.Move) (place : ℕ)
        (c : Claim) (booking : Booking) (vehicle : Vehicle), start.calls = [] →
      (moves.foldl Fleet.after start).ClaimSucceeds place c booking vehicle →
      columns.Eligible ((moves.foldl Fleet.after start).after (.commit place)).tables c →
      validateBooking (columns.fleet ((moves.foldl Fleet.after start).after (.commit place)).tables)
        c.bookingId (columns.booking c.bookingId booking) = .ok () := by
  intro h
  have hvalid := h (oneColumns none) oneConfirmed
    [.claim 0 0 0 false false, .next 0, .next 0, .next 0, .next 0, .next 0] 0 ⟨0, 0, 0, false⟩
    ⟨.assigned, some 0, some 0, false⟩ { isAvailable := false } rfl
    (by unfold Fleet.ClaimSucceeds; decide +kernel) (eligible_oneClaim none)
  exact absurd hvalid (by decide +kernel)

end Afcon360.Transport
