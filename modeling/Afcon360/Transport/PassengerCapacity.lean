import Afcon360.Foundation.Run
import Afcon360.Transport.SeatReservation

/-!
# Passengers, vehicles and the places of a booking

The passenger service puts passengers into vehicles and moves them between bookings. A passenger
is a row under its position; a cancelled passenger keeps its vehicle. A query of the service sees
what the session has changed so far, so the table is the state of the session; the booking of
a passenger is the one its `booking_id` names.
-/

namespace Afcon360.Transport.PassengerService

open Foundation

structure Passenger where
  bookingId : ℕ
  assignedVehicleId : Option ℕ := none
  status : PassengerStatus := .pending
  isDeleted : Bool := false
deriving DecidableEq, Repr

/-- A vehicle; its capacity is positive by a table constraint. -/
structure Vehicle where
  licensePlate : String
  passengerCapacity : ℕ
  positive : 0 < passengerCapacity
  maxPassengerCapacity : Option ℕ := none
  isDeleted : Bool := false

/-- A booking; its passenger count is positive by a table constraint. -/
structure Booking where
  passengerCount : ℕ
  positive : 0 < passengerCount

/-- The vehicles and the bookings, under their ids. -/
structure Fleet where
  vehicle : ℕ → Vehicle
  booking : ℕ → Booking

inductive ServiceError
  | passengerNotFound (id : ℕ)
  | vehicleNotFound (id : ℕ)
  | noCapacity
  | atCapacity (licensePlate : String) (capacity : ℕ)
  | bookingFull (passengerCount : ℕ)
deriving DecidableEq, Repr

def ServiceError.message : ServiceError → String
  | .passengerNotFound _ => "Passenger not found"
  | .vehicleNotFound _ => "Vehicle not found"
  | .noCapacity => "Vehicle has no defined passenger capacity"
  | .atCapacity licensePlate capacity =>
    "Vehicle '" ++ licensePlate ++ "' is at capacity (" ++ toString capacity ++
      " passengers already assigned)"
  | .bookingFull passengerCount =>
    "Booking allows at most " ++ toString passengerCount ++ " passengers"

namespace Passenger

/-- The row is there and not cancelled. -/
def counted (passenger : Passenger) : Bool :=
  !passenger.isDeleted && passenger.status ≠ .cancelled

/-- The passenger takes a place in the vehicle. -/
def inVehicle (vehicle : ℕ) (passenger : Passenger) : Bool :=
  passenger.assignedVehicleId = some vehicle && passenger.counted

/-- The passenger takes one of the places of the booking. -/
def seatedIn (booking : ℕ) (passenger : Passenger) : Bool :=
  passenger.bookingId = booking && passenger.counted && passenger.assignedVehicleId.isSome

def moveTo (passenger : Passenger) (booking : ℕ) : Passenger :=
  { passenger with bookingId := booking }

@[simp] theorem moveTo_bookingId (passenger : Passenger) (booking : ℕ) :
    (passenger.moveTo booking).bookingId = booking := rfl

@[simp] theorem moveTo_isDeleted (passenger : Passenger) (booking : ℕ) :
    (passenger.moveTo booking).isDeleted = passenger.isDeleted := rfl

@[simp] theorem moveTo_inVehicle (passenger : Passenger) (booking vehicle : ℕ) :
    (passenger.moveTo booking).inVehicle vehicle = passenger.inVehicle vehicle := rfl

@[simp] theorem moveTo_assignedVehicleId (passenger : Passenger) (booking : ℕ) :
    (passenger.moveTo booking).assignedVehicleId = passenger.assignedVehicleId := rfl

@[simp] theorem moveTo_status (passenger : Passenger) (booking : ℕ) :
    (passenger.moveTo booking).status = passenger.status := rfl

end Passenger

/-- `passenger_capacity or max_passenger_capacity or 0`. -/
def Vehicle.capacity (vehicle : Vehicle) : ℕ :=
  if vehicle.passengerCapacity ≠ 0 then vehicle.passengerCapacity
  else vehicle.maxPassengerCapacity.getD 0

def checkCapacity (fleet : Fleet) (rows : List Passenger) (vehicle : ℕ) (passenger : Passenger)
    (targetBooking : ℕ) : Except ServiceError Unit :=
  let capacity := (fleet.vehicle vehicle).capacity
  let currently : ℤ := rows.countP (Passenger.inVehicle vehicle)
  let dedup : ℤ :=
    if passenger.assignedVehicleId = some vehicle ∧ passenger.status ≠ .cancelled then 1 else 0
  let assignedNow : ℤ := rows.countP (Passenger.seatedIn targetBooking)
  -- Unlike the count, this does not ask whether the passenger is cancelled.
  let dedupSelf : ℤ :=
    if passenger.bookingId = targetBooking ∧ passenger.assignedVehicleId.isSome then 1 else 0
  let passengerCount := (fleet.booking targetBooking).passengerCount
  if capacity ≤ 0 then .error .noCapacity
  else if currently - dedup + 1 > capacity then
    .error (.atCapacity (fleet.vehicle vehicle).licensePlate capacity)
  else if passengerCount ≠ 0 ∧ assignedNow - dedupSelf + 1 > passengerCount then
    .error (.bookingFull passengerCount)
  else .ok ()

def assignVehicle (fleet : Fleet) (rows : List Passenger) (id vehicle : ℕ)
    (booking : Option ℕ) : Except ServiceError (List Passenger) :=
  match rows[id]? with
  | none => .error (.passengerNotFound id)
  | some passenger =>
    if passenger.isDeleted then .error (.passengerNotFound id)
    else if (fleet.vehicle vehicle).isDeleted then .error (.vehicleNotFound vehicle)
    else
      let target := booking.getD passenger.bookingId
      match checkCapacity fleet rows vehicle passenger target with
      | .error error => .error error
      | .ok () =>
        .ok (rows.set id { passenger with
          assignedVehicleId := some vehicle, status := .assigned, bookingId := target })

def getPassenger (rows : List Passenger) (id : ℕ) : Option Passenger :=
  rows[id]?.filter (fun passenger => !passenger.isDeleted)

/-- Moving a passenger to another booking. The booking is written before the check, and stays
written where the check refuses. -/
def reassignPassenger (fleet : Fleet) (rows : List Passenger) (id newBooking : ℕ)
    (vehicle : Option ℕ) : List Passenger × Except ServiceError Unit :=
  match getPassenger rows id with
  | none => (rows, .error (.passengerNotFound id))
  | some passenger =>
    let moved := rows.set id (passenger.moveTo newBooking)
    match vehicle with
    | none => (moved, .ok ())
    | some vehicle =>
      match assignVehicle fleet moved id vehicle (some newBooking) with
      | .error error => (moved, .error error)
      | .ok assigned => (assigned, .ok ())

/-- The coordination contract releases a passenger by its status alone. -/
def cancelPassenger (rows : List Passenger) (id : ℕ) : List Passenger :=
  rows.modify id fun passenger =>
    if passenger.counted then { passenger with status := .cancelled } else passenger

inductive Call
  | assign (id vehicle : ℕ) (booking : Option ℕ)
  | reassign (id newBooking : ℕ) (vehicle : Option ℕ)
  | cancel (id : ℕ)

def Call.id : Call → ℕ
  | .assign id _ _ => id
  | .reassign id _ _ => id
  | .cancel id => id

/-- One call: the table afterwards and the answer. -/
def serve (fleet : Fleet) (rows : List Passenger) : Call → List Passenger × Except ServiceError Unit
  | .assign id vehicle booking =>
    match assignVehicle fleet rows id vehicle booking with
    | .error error => (rows, .error error)
    | .ok assigned => (assigned, .ok ())
  | .reassign id newBooking vehicle => reassignPassenger fleet rows id newBooking vehicle
  | .cancel id => (cancelPassenger rows id, .ok ())

/-- The table after a sequence of calls. -/
def after (fleet : Fleet) (rows : List Passenger) (calls : List Call) : List Passenger :=
  calls.foldl (fun rows call => (serve fleet rows call).1) rows

/-- No vehicle carries more passengers than its capacity. -/
def VehiclesFit (fleet : Fleet) (rows : List Passenger) : Prop :=
  ∀ vehicle, rows.countP (Passenger.inVehicle vehicle) ≤ (fleet.vehicle vehicle).capacity

/-- No booking has more passengers in vehicles than it was made for. -/
def BookingsFit (fleet : Fleet) (rows : List Passenger) : Prop :=
  ∀ booking, rows.countP (Passenger.seatedIn booking) ≤ (fleet.booking booking).passengerCount

/-- What is asked of a call: the places suffice after it, and where it is refused the passenger
is as before. -/
structure Sound (fleet : Fleet) (rows : List Passenger) (call : Call) : Prop where
  vehicles : VehiclesFit fleet (serve fleet rows call).1
  bookings : BookingsFit fleet (serve fleet rows call).1
  unchanged : ∀ error, (serve fleet rows call).2 = .error error →
    (serve fleet rows call).1[call.id]? = rows[call.id]?

/-- The vehicle is there and has a place for the passenger. -/
def Takes (fleet : Fleet) (rows : List Passenger) (vehicle : ℕ) (passenger : Passenger) : Prop :=
  (fleet.vehicle vehicle).isDeleted = false ∧
    (passenger.inVehicle vehicle = true ∨
      rows.countP (Passenger.inVehicle vehicle) < (fleet.vehicle vehicle).capacity)

/-- The booking has a free place. -/
def HasPlace (fleet : Fleet) (rows : List Passenger) (booking : ℕ) : Prop :=
  rows.countP (Passenger.seatedIn booking) < (fleet.booking booking).passengerCount

/-- A cancelled passenger that kept its vehicle. -/
def Passenger.stranded (passenger : Passenger) : Prop :=
  passenger.status = .cancelled ∧ passenger.assignedVehicleId.isSome

/-- The state before a call under which it is sound. A stranded passenger comes back into its
own booking only where that has a free place; a passenger changes the booking only into a free
place, together with a vehicle only into one that takes it. -/
def Meets (fleet : Fleet) (rows : List Passenger) : Call → Prop
  | .assign id vehicle booking => ∀ passenger, getPassenger rows id = some passenger →
    passenger.stranded → booking.getD passenger.bookingId = passenger.bookingId →
      Takes fleet rows vehicle passenger → HasPlace fleet rows passenger.bookingId
  | .reassign id newBooking none => ∀ passenger, getPassenger rows id = some passenger →
    passenger.bookingId ≠ newBooking → passenger.seatedIn passenger.bookingId →
      HasPlace fleet rows newBooking
  | .reassign id newBooking (some vehicle) => ∀ passenger, getPassenger rows id = some passenger →
    if passenger.bookingId = newBooking then
      passenger.stranded → Takes fleet rows vehicle passenger → HasPlace fleet rows newBooking
    else Takes fleet rows vehicle passenger ∧ HasPlace fleet rows newBooking
  | .cancel _ => True

/-! ### Counting after one row was written -/

section Counting

variable {rows : List Passenger} {id : ℕ} {old new : Passenger}

theorem countP_set_add (p : Passenger → Bool) (new : Passenger) (h : rows[id]? = some old) :
    (rows.set id new).countP p + (p old).toNat = rows.countP p + (p new).toNat := by
  obtain ⟨hlt, rfl⟩ := List.getElem?_eq_some_iff.mp h
  have hle := List.boole_getElem_le_countP (p := p) hlt
  rw [List.countP_set hlt]
  generalize rows.countP p = count at hle ⊢
  cases hold : p rows[id] <;> cases p new <;> simp [hold] at hle ⊢ <;> omega

/-- A bound outlasts the writing of a row that counts only where it did or where there is
room for one more. -/
theorem countP_set_le_iff {p : Passenger → Bool} {bound : ℕ} (h : rows[id]? = some old)
    (hle : rows.countP p ≤ bound) :
    (rows.set id new).countP p ≤ bound ↔
      (p new = true → p old = true ∨ rows.countP p < bound) := by
  have hadd := countP_set_add p new h
  cases hold : p old <;> cases hnew : p new <;> simp [hold, hnew] at hadd ⊢ <;> omega

variable {fleet : Fleet}

theorem vehiclesFit_set_iff (h : rows[id]? = some old) (hfit : VehiclesFit fleet rows) :
    VehiclesFit fleet (rows.set id new) ↔ ∀ vehicle, new.inVehicle vehicle = true →
      old.inVehicle vehicle = true ∨
        rows.countP (Passenger.inVehicle vehicle) < (fleet.vehicle vehicle).capacity :=
  forall_congr' fun vehicle => countP_set_le_iff h (hfit vehicle)

theorem bookingsFit_set_iff (h : rows[id]? = some old) (hfit : BookingsFit fleet rows) :
    BookingsFit fleet (rows.set id new) ↔ ∀ booking, new.seatedIn booking = true →
      old.seatedIn booking = true ∨ HasPlace fleet rows booking :=
  forall_congr' fun booking => countP_set_le_iff h (hfit booking)

end Counting

/-! ### The calls -/

theorem Vehicle.capacity_eq (vehicle : Vehicle) :
    vehicle.capacity = vehicle.passengerCapacity :=
  if_pos vehicle.positive.ne'

theorem getPassenger_some {rows : List Passenger} {id : ℕ} {passenger : Passenger} :
    getPassenger rows id = some passenger ↔
      rows[id]? = some passenger ∧ passenger.isDeleted = false := by
  simp [getPassenger, Option.filter_eq_some_iff]

section Check

variable {fleet : Fleet} {rows : List Passenger} {id vehicle target : ℕ} {passenger : Passenger}

/-- The check as an inequality of counts. -/
theorem checkCapacity_ok_iff :
    checkCapacity fleet rows vehicle passenger target = .ok () ↔
      rows.countP (Passenger.inVehicle vehicle) + 1 ≤ (fleet.vehicle vehicle).capacity +
        (if passenger.assignedVehicleId = some vehicle ∧ passenger.status ≠ .cancelled
          then 1 else 0) ∧
      rows.countP (Passenger.seatedIn target) + 1 ≤ (fleet.booking target).passengerCount +
        (if passenger.bookingId = target ∧ passenger.assignedVehicleId.isSome then 1 else 0) := by
  have hcapacity := (fleet.vehicle vehicle).capacity_eq
  have hpositive := (fleet.vehicle vehicle).positive
  have hcount := (fleet.booking target).positive
  unfold checkCapacity
  dsimp only
  rw [if_neg (by omega)]
  generalize (rows.countP (Passenger.inVehicle vehicle)) = currently
  generalize (rows.countP (Passenger.seatedIn target)) = assigned
  by_cases hdedup : passenger.assignedVehicleId = some vehicle ∧ passenger.status ≠ .cancelled
  all_goals by_cases hself : passenger.bookingId = target ∧ passenger.assignedVehicleId.isSome
  all_goals
    simp only [hdedup, hself, if_false]
    split_ifs
    all_goals simp only [false_iff, true_iff]
    all_goals omega

theorem inVehicle_iff (hdeleted : passenger.isDeleted = false) :
    passenger.inVehicle vehicle = true ↔
      passenger.assignedVehicleId = some vehicle ∧ passenger.status ≠ .cancelled := by
  simp [Passenger.inVehicle, Passenger.counted, hdeleted]

theorem seatedIn_iff (hdeleted : passenger.isDeleted = false) :
    passenger.seatedIn target = true ↔ passenger.bookingId = target ∧
      passenger.status ≠ .cancelled ∧ passenger.assignedVehicleId.isSome := by
  simp [Passenger.seatedIn, Passenger.counted, hdeleted, and_assoc]

theorem assignVehicle_eq (hrow : rows[id]? = some passenger)
    (hdeleted : passenger.isDeleted = false) (booking : Option ℕ) :
    assignVehicle fleet rows id vehicle booking =
      if (fleet.vehicle vehicle).isDeleted then .error (.vehicleNotFound vehicle)
      else match checkCapacity fleet rows vehicle passenger (booking.getD passenger.bookingId) with
        | .error error => .error error
        | .ok () => .ok (rows.set id ⟨booking.getD passenger.bookingId, some vehicle, .assigned,
            false⟩) := by
  unfold assignVehicle
  rw [hrow]
  dsimp only
  rw [if_neg (by simp [hdeleted]), hdeleted]

/-- An assignment is refused, or it passed the check and wrote the row. -/
theorem assignVehicle_cases (fleet : Fleet) (hrow : rows[id]? = some passenger)
    (hdeleted : passenger.isDeleted = false) (vehicle : ℕ) (booking : Option ℕ) :
    (∃ error, assignVehicle fleet rows id vehicle booking = .error error ∧
      ¬ ((fleet.vehicle vehicle).isDeleted = false ∧
        checkCapacity fleet rows vehicle passenger (booking.getD passenger.bookingId) = .ok ())) ∨
    (assignVehicle fleet rows id vehicle booking =
        .ok (rows.set id ⟨booking.getD passenger.bookingId, some vehicle, .assigned, false⟩) ∧
      (fleet.vehicle vehicle).isDeleted = false ∧
      checkCapacity fleet rows vehicle passenger (booking.getD passenger.bookingId) = .ok ()) := by
  rw [assignVehicle_eq hrow hdeleted]
  by_cases hgone : (fleet.vehicle vehicle).isDeleted
  · exact .inl ⟨_, if_pos hgone, fun h => by simp [hgone] at h⟩
  rw [if_neg hgone]
  cases hcheck : checkCapacity fleet rows vehicle passenger (booking.getD passenger.bookingId) with
  | error error => exact .inl ⟨error, rfl, fun h => by cases h.2⟩
  | ok _ => exact .inr ⟨rfl, by simpa using hgone, rfl⟩

/-- The table fits after a passenger was put into a vehicle exactly when both had room. -/
theorem fits_assigned_iff (hrow : rows[id]? = some passenger)
    (hvehicles : VehiclesFit fleet rows) (hbookings : BookingsFit fleet rows)
    (vehicle target : ℕ) :
    (VehiclesFit fleet (rows.set id ⟨target, some vehicle, .assigned, false⟩) ∧
      BookingsFit fleet (rows.set id ⟨target, some vehicle, .assigned, false⟩)) ↔
    (passenger.inVehicle vehicle = true ∨
        rows.countP (Passenger.inVehicle vehicle) < (fleet.vehicle vehicle).capacity) ∧
      (passenger.seatedIn target = true ∨ HasPlace fleet rows target) := by
  rw [vehiclesFit_set_iff hrow hvehicles, bookingsFit_set_iff hrow hbookings]
  constructor
  · rintro ⟨hvehicle, hbooking⟩
    exact ⟨hvehicle vehicle (by simp [Passenger.inVehicle, Passenger.counted]),
      hbooking target (by simp [Passenger.seatedIn, Passenger.counted])⟩
  · rintro ⟨hvehicle, hbooking⟩
    constructor
    · intro other hother
      have heq : vehicle = other := by simpa [Passenger.inVehicle, Passenger.counted] using hother
      exact heq ▸ hvehicle
    · intro other hother
      have heq : target = other := by simpa [Passenger.seatedIn, Passenger.counted] using hother
      exact heq ▸ hbooking

/-- Where the vehicles fit, the check asks the vehicle for a place, and the booking for one unless
the passenger is counted out of it. -/
theorem check_iff (hdeleted : passenger.isDeleted = false) (hvehicles : VehiclesFit fleet rows) :
    checkCapacity fleet rows vehicle passenger target = .ok () ↔
      (passenger.inVehicle vehicle = true ∨
        rows.countP (Passenger.inVehicle vehicle) < (fleet.vehicle vehicle).capacity) ∧
      rows.countP (Passenger.seatedIn target) + 1 ≤ (fleet.booking target).passengerCount +
        (if passenger.bookingId = target ∧ passenger.assignedVehicleId.isSome then 1 else 0) := by
  have hfit := hvehicles vehicle
  rw [checkCapacity_ok_iff, inVehicle_iff hdeleted]
  refine and_congr_left fun _ => ?_
  by_cases hin : passenger.assignedVehicleId = some vehicle ∧ passenger.status ≠ .cancelled
  · simp only [hin, ne_eq, not_false_eq_true, and_self, if_true, true_or, iff_true]
    omega
  · simp only [hin, if_false, false_or]
    omega

end Check

section Sound

variable {fleet : Fleet} {rows : List Passenger} {id : ℕ} {passenger : Passenger}

theorem sound_of_same {call : Call} (hvehicles : VehiclesFit fleet rows)
    (hbookings : BookingsFit fleet rows) (h : (serve fleet rows call).1 = rows) :
    Sound fleet rows call where
  vehicles := by rwa [h]
  bookings := by rwa [h]
  unchanged _ _ := by rw [h]

theorem sound_iff_of_ok {call : Call} {written : List Passenger}
    (h : serve fleet rows call = (written, .ok ())) :
    Sound fleet rows call ↔ VehiclesFit fleet written ∧ BookingsFit fleet written := by
  constructor
  · rintro ⟨hvehicles, hbookings, -⟩
    rw [h] at hvehicles hbookings
    exact ⟨hvehicles, hbookings⟩
  · rintro ⟨hvehicles, hbookings⟩
    refine ⟨by rwa [h], by rwa [h], fun error herror => ?_⟩
    rw [h] at herror
    cases herror

theorem assignVehicle_none (fleet : Fleet) (h : getPassenger rows id = none) (vehicle : ℕ)
    (booking : Option ℕ) :
    ∃ error, assignVehicle fleet rows id vehicle booking = .error error := by
  unfold assignVehicle
  cases hrow : rows[id]? with
  | none => exact ⟨_, rfl⟩
  | some passenger =>
    have hdeleted : passenger.isDeleted = true := by simpa [getPassenger, hrow] using h
    exact ⟨_, if_pos hdeleted⟩

/-- A passenger that the check lets into a booking has a place there, unless it is stranded in
it. -/
theorem place_iff {target : ℕ} (hdeleted : passenger.isDeleted = false)
    (hplace : rows.countP (Passenger.seatedIn target) + 1 ≤ (fleet.booking target).passengerCount +
      (if passenger.bookingId = target ∧ passenger.assignedVehicleId.isSome then 1 else 0)) :
    (passenger.seatedIn target = true ∨ HasPlace fleet rows target) ↔
      (passenger.stranded → passenger.bookingId = target → HasPlace fleet rows target) := by
  rw [seatedIn_iff hdeleted]
  constructor
  · rintro (⟨-, hactive, -⟩ | hfree) ⟨hcancelled, -⟩ -
    · exact absurd hcancelled hactive
    · exact hfree
  · intro hstranded
    by_cases hself : passenger.bookingId = target ∧ passenger.assignedVehicleId.isSome
    · by_cases hcancelled : passenger.status = .cancelled
      · exact .inr (hstranded ⟨hcancelled, hself.2⟩ hself.1)
      · exact .inl ⟨hself.1, hcancelled, hself.2⟩
    · rw [if_neg hself] at hplace
      exact .inr hplace

/-- Putting a passenger into a vehicle is sound unless a stranded passenger comes back into
a booking of its own that is full. -/
theorem assign_sound_iff (hget : getPassenger rows id = some passenger)
    (hvehicles : VehiclesFit fleet rows) (hbookings : BookingsFit fleet rows) (vehicle : ℕ)
    (booking : Option ℕ) :
    Sound fleet rows (.assign id vehicle booking) ↔
      (passenger.stranded → passenger.bookingId = booking.getD passenger.bookingId →
        Takes fleet rows vehicle passenger →
          HasPlace fleet rows (booking.getD passenger.bookingId)) := by
  obtain ⟨hrow, hdeleted⟩ := getPassenger_some.1 hget
  generalize htarget : booking.getD passenger.bookingId = target
  have hfull := hbookings target
  rcases assignVehicle_cases fleet hrow hdeleted vehicle booking with
    ⟨error, herror, hrefused⟩ | ⟨hok, hvehicle, hcheck⟩
  · have hserve : (serve fleet rows (.assign id vehicle booking)).1 = rows := by
      simp only [serve, herror]
    refine iff_of_true (sound_of_same hvehicles hbookings hserve) ?_
    rintro ⟨hcancelled, hsome⟩ hown ⟨hvehicle, hroom⟩
    rw [htarget, check_iff hdeleted hvehicles, if_pos ⟨hown, hsome⟩] at hrefused
    exact absurd ⟨hvehicle, hroom, by omega⟩ hrefused
  · rw [htarget] at hok hcheck
    have hserve : serve fleet rows (.assign id vehicle booking) =
        (rows.set id ⟨target, some vehicle, .assigned, false⟩, .ok ()) := by
      simp only [serve, hok]
    obtain ⟨hroom, hplace⟩ := (check_iff hdeleted hvehicles).1 hcheck
    rw [sound_iff_of_ok hserve, fits_assigned_iff hrow hvehicles hbookings,
      and_iff_right hroom, place_iff hdeleted hplace]
    simp only [Takes, hvehicle, hroom, and_self, forall_const]

/-- A passenger that is only moved needs a place where it sits in a vehicle. -/
theorem move_sound_iff (hget : getPassenger rows id = some passenger)
    (hvehicles : VehiclesFit fleet rows) (hbookings : BookingsFit fleet rows) (newBooking : ℕ) :
    Sound fleet rows (.reassign id newBooking none) ↔
      (passenger.bookingId ≠ newBooking → passenger.seatedIn passenger.bookingId →
        HasPlace fleet rows newBooking) := by
  obtain ⟨hrow, hdeleted⟩ := getPassenger_some.1 hget
  have hdeleted' : (passenger.moveTo newBooking).isDeleted = false := hdeleted
  have hserve : serve fleet rows (.reassign id newBooking none) =
      (rows.set id (passenger.moveTo newBooking), .ok ()) := by
    simp only [serve, reassignPassenger, hget]
  rw [sound_iff_of_ok hserve, vehiclesFit_set_iff hrow hvehicles,
    bookingsFit_set_iff hrow hbookings, and_iff_right fun _ hin => .inl hin]
  simp only [seatedIn_iff hdeleted, seatedIn_iff hdeleted', Passenger.moveTo_bookingId,
    Passenger.moveTo_status, Passenger.moveTo_assignedVehicleId]
  constructor
  · intro h hne hseated
    exact (h newBooking ⟨rfl, hseated.2⟩).resolve_left fun hold => hne hold.1
  · rintro h booking ⟨rfl, hactive⟩
    by_cases hown : passenger.bookingId = newBooking
    · exact .inl ⟨hown, hactive⟩
    · exact .inr (h hown ⟨trivial, hactive⟩)

theorem countP_moved (hget : getPassenger rows id = some passenger) {newBooking : ℕ}
    (hne : passenger.bookingId ≠ newBooking) :
    (rows.set id (passenger.moveTo newBooking)).countP (Passenger.seatedIn newBooking) =
      rows.countP (Passenger.seatedIn newBooking) +
        if passenger.status ≠ .cancelled ∧ passenger.assignedVehicleId.isSome then 1 else 0 := by
  obtain ⟨hrow, hdeleted⟩ := getPassenger_some.1 hget
  have hdeleted' : (passenger.moveTo newBooking).isDeleted = false := hdeleted
  have hadd := countP_set_add (Passenger.seatedIn newBooking) (passenger.moveTo newBooking) hrow
  have hold : passenger.seatedIn newBooking = false := by simp [Passenger.seatedIn, hne]
  have hnew : (passenger.moveTo newBooking).seatedIn newBooking = true ↔
      passenger.status ≠ .cancelled ∧ passenger.assignedVehicleId.isSome := by
    simp [seatedIn_iff hdeleted']
  rw [hold, Bool.toNat_false, Nat.add_zero] at hadd
  rw [hadd]
  by_cases hactive : passenger.status ≠ .cancelled ∧ passenger.assignedVehicleId.isSome
  · rw [if_pos hactive, hnew.2 hactive, Bool.toNat_true]
  · rw [if_neg hactive, Bool.eq_false_iff.2 fun h => hactive (hnew.1 h), Bool.toNat_false]

/-- The check on a passenger that was moved into the booking first: the place it has taken
there is taken off again, and one more where it is stranded. -/
theorem check_moved_iff (hget : getPassenger rows id = some passenger)
    (hvehicles : VehiclesFit fleet rows) (hbookings : BookingsFit fleet rows) {newBooking : ℕ}
    (hne : passenger.bookingId ≠ newBooking) (vehicle : ℕ) :
    checkCapacity fleet (rows.set id (passenger.moveTo newBooking)) vehicle
        (passenger.moveTo newBooking) newBooking = .ok () ↔
      (passenger.inVehicle vehicle = true ∨
        rows.countP (Passenger.inVehicle vehicle) < (fleet.vehicle vehicle).capacity) ∧
      (HasPlace fleet rows newBooking ∨ passenger.stranded) := by
  obtain ⟨hrow, hdeleted⟩ := getPassenger_some.1 hget
  have hdeleted' : (passenger.moveTo newBooking).isDeleted = false := hdeleted
  have hfits : VehiclesFit fleet (rows.set id (passenger.moveTo newBooking)) :=
    (vehiclesFit_set_iff hrow hvehicles).2 fun _ hin => .inl hin
  have hsame : (rows.set id (passenger.moveTo newBooking)).countP (Passenger.inVehicle vehicle) =
      rows.countP (Passenger.inVehicle vehicle) := by
    have hadd := countP_set_add (Passenger.inVehicle vehicle) (passenger.moveTo newBooking) hrow
    rw [Passenger.moveTo_inVehicle] at hadd
    exact Nat.add_right_cancel hadd
  have hfull := hbookings newBooking
  rw [check_iff hdeleted' hfits, hsame,
    Passenger.moveTo_inVehicle, countP_moved hget hne]
  refine and_congr_right fun _ => ?_
  simp only [Passenger.moveTo_bookingId, Passenger.moveTo_assignedVehicleId, true_and, HasPlace,
    Passenger.stranded]
  by_cases hsome : passenger.assignedVehicleId.isSome
  all_goals by_cases hcancelled : passenger.status = .cancelled
  all_goals simp [hsome, hcancelled]
  all_goals omega

/-- A passenger that is moved into another booking together with a vehicle: a refusal leaves it
moved, so both must have a place for it. -/
theorem transfer_sound_iff (hget : getPassenger rows id = some passenger)
    (hvehicles : VehiclesFit fleet rows) (hbookings : BookingsFit fleet rows)
    {newBooking : ℕ} (hne : passenger.bookingId ≠ newBooking) (vehicle : ℕ) :
    Sound fleet rows (.reassign id newBooking (some vehicle)) ↔
      Takes fleet rows vehicle passenger ∧ HasPlace fleet rows newBooking := by
  obtain ⟨hrow, hdeleted⟩ := getPassenger_some.1 hget
  obtain ⟨hlt, -⟩ := List.getElem?_eq_some_iff.mp hrow
  have hmoved : (rows.set id (passenger.moveTo newBooking))[id]? =
      some (passenger.moveTo newBooking) := List.getElem?_set_self hlt
  have hcheck := check_moved_iff hget hvehicles hbookings hne vehicle
  rcases assignVehicle_cases fleet hmoved hdeleted vehicle (some newBooking) with
    ⟨error, herror, hrefused⟩ | ⟨hok, hvehicle, haccepted⟩
  · have hserve : serve fleet rows (.reassign id newBooking (some vehicle)) =
        (rows.set id (passenger.moveTo newBooking), .error error) := by
      simp only [serve, reassignPassenger, hget, herror]
    refine iff_of_false ?_ ?_
    · rintro ⟨-, -, hsame⟩
      have hsame := hsame error (by rw [hserve])
      rw [hserve, Call.id, hmoved, hrow] at hsame
      exact hne (congrArg Passenger.bookingId (Option.some.inj hsame)).symm
    · rintro ⟨⟨hvehicle, hroom⟩, hplace⟩
      exact hrefused ⟨hvehicle, hcheck.2 ⟨hroom, .inl hplace⟩⟩
  · have hserve : serve fleet rows (.reassign id newBooking (some vehicle)) =
        (rows.set id ⟨newBooking, some vehicle, .assigned, false⟩, .ok ()) := by
      simp only [serve, reassignPassenger, hget, hok, List.set_set, Option.getD_some]
    have hroom := (hcheck.1 haccepted).1
    rw [sound_iff_of_ok hserve, fits_assigned_iff hrow hvehicles hbookings]
    simp only [hroom, seatedIn_iff hdeleted, hne, false_and, false_or, true_and, Takes, hvehicle]

/-- A move into the booking the passenger has is an assignment to the vehicle. -/
theorem serve_reassign_same (hget : getPassenger rows id = some passenger) (vehicle : ℕ) :
    serve fleet rows (.reassign id passenger.bookingId (some vehicle)) =
      serve fleet rows (.assign id vehicle (some passenger.bookingId)) := by
  obtain ⟨hrow, -⟩ := getPassenger_some.1 hget
  have hsame : rows.set id (passenger.moveTo passenger.bookingId) = rows := by
    obtain ⟨hlt, heq⟩ := List.getElem?_eq_some_iff.mp hrow
    exact heq ▸ List.set_getElem_self hlt
  simp only [serve, reassignPassenger, hget, hsame]

theorem sound_congr {call other : Call} (h : serve fleet rows call = serve fleet rows other)
    (hid : call.id = other.id) : Sound fleet rows call ↔ Sound fleet rows other := by
  constructor
  · rintro ⟨hvehicles, hbookings, hsame⟩
    exact ⟨h ▸ hvehicles, h ▸ hbookings, hid ▸ h ▸ hsame⟩
  · rintro ⟨hvehicles, hbookings, hsame⟩
    exact ⟨h ▸ hvehicles, h ▸ hbookings, hid ▸ h ▸ hsame⟩

/-- A cancellation takes a passenger out of every count of active ones. -/
theorem countP_cancelled_le (p : Passenger → Bool)
    (hcounted : ∀ passenger, p passenger = true → passenger.counted = true) (id : ℕ) :
    (cancelPassenger rows id).countP p ≤ rows.countP p := by
  refine countP_modify_le fun old _ hp => ?_
  by_cases hactive : old.counted
  · rw [if_pos hactive] at hp
    have hcancelled := hcounted _ hp
    simp [Passenger.counted] at hcancelled
  · rwa [if_neg hactive] at hp

theorem sound_iff_meets (hvehicles : VehiclesFit fleet rows) (hbookings : BookingsFit fleet rows)
    (call : Call) : Sound fleet rows call ↔ Meets fleet rows call := by
  cases call with
  | assign id vehicle booking =>
    cases hget : getPassenger rows id with
    | none =>
      obtain ⟨error, herror⟩ := assignVehicle_none fleet hget vehicle booking
      have hserve : (serve fleet rows (.assign id vehicle booking)).1 = rows := by
        simp only [serve, herror]
      exact iff_of_true (sound_of_same hvehicles hbookings hserve) (by simp [Meets, hget])
    | some passenger =>
      rw [assign_sound_iff hget hvehicles hbookings]
      simp only [Meets, hget, Option.some.injEq, forall_eq']
      refine imp_congr_right fun _ => ⟨fun h hown => ?_, fun h hown => ?_⟩
      · rw [hown] at h
        exact h rfl
      · rw [← hown]
        exact h hown.symm
  | reassign id newBooking vehicle =>
    cases hget : getPassenger rows id with
    | none =>
      have hserve : (serve fleet rows (.reassign id newBooking vehicle)).1 = rows := by
        simp only [serve, reassignPassenger, hget]
      refine iff_of_true (sound_of_same hvehicles hbookings hserve) ?_
      cases vehicle <;> simp [Meets, hget]
    | some passenger =>
      cases vehicle with
      | none =>
        rw [move_sound_iff hget hvehicles hbookings]
        simp only [Meets, hget, Option.some.injEq, forall_eq']
      | some vehicle =>
        simp only [Meets, hget, Option.some.injEq, forall_eq']
        by_cases hown : passenger.bookingId = newBooking
        · subst hown
          rw [if_pos rfl]
          have hassign := assign_sound_iff hget hvehicles hbookings vehicle
            (some passenger.bookingId)
          simp only [Option.getD_some, forall_const] at hassign
          rw [← hassign]
          exact sound_congr (serve_reassign_same hget vehicle) rfl
        · rw [if_neg hown]
          exact transfer_sound_iff hget hvehicles hbookings hown vehicle
  | cancel id =>
    refine iff_of_true ⟨fun vehicle => ?_, fun booking => ?_, fun error herror => ?_⟩ trivial
    · refine (countP_cancelled_le (Passenger.inVehicle vehicle) ?_ id).trans (hvehicles vehicle)
      simp +contextual [Passenger.inVehicle]
    · refine (countP_cancelled_le (Passenger.seatedIn booking) ?_ id).trans (hbookings booking)
      simp +contextual [Passenger.seatedIn]
    · cases herror

end Sound

/-! ### Sequences of calls -/

section Calls

variable {fleet : Fleet} {rows : List Passenger}

theorem vehiclesFit_assigned {id vehicle : ℕ} {booking : Option ℕ} {written : List Passenger}
    (h : VehiclesFit fleet rows)
    (hok : assignVehicle fleet rows id vehicle booking = .ok written) :
    VehiclesFit fleet written := by
  cases hget : getPassenger rows id with
  | none =>
    obtain ⟨error, herror⟩ := assignVehicle_none fleet hget vehicle booking
    rw [herror] at hok
    cases hok
  | some passenger =>
    obtain ⟨hrow, hdeleted⟩ := getPassenger_some.1 hget
    rcases assignVehicle_cases fleet hrow hdeleted vehicle booking with
      ⟨error, herror, -⟩ | ⟨hset, -, hcheck⟩
    · rw [herror] at hok
      cases hok
    · rw [hset] at hok
      cases hok
      refine (vehiclesFit_set_iff hrow h).2 fun other hother => ?_
      have heq : vehicle = other := by simpa [Passenger.inVehicle, Passenger.counted] using hother
      exact heq ▸ ((check_iff hdeleted h).1 hcheck).1

theorem vehiclesFit_moved {id : ℕ} {passenger : Passenger} (h : VehiclesFit fleet rows)
    (hget : getPassenger rows id = some passenger) (newBooking : ℕ) :
    VehiclesFit fleet (rows.set id (passenger.moveTo newBooking)) :=
  (vehiclesFit_set_iff (getPassenger_some.1 hget).1 h).2 fun _ hin => .inl hin

theorem vehiclesFit_serve (h : VehiclesFit fleet rows) (call : Call) :
    VehiclesFit fleet (serve fleet rows call).1 := by
  cases call with
  | assign id vehicle booking =>
    cases hassign : assignVehicle fleet rows id vehicle booking with
    | error error => simpa only [serve, hassign] using h
    | ok written => simpa only [serve, hassign] using vehiclesFit_assigned h hassign
  | reassign id newBooking vehicle =>
    cases hget : getPassenger rows id with
    | none => simpa only [serve, reassignPassenger, hget] using h
    | some passenger =>
      have hmoved := vehiclesFit_moved h hget newBooking
      cases vehicle with
      | none => simpa only [serve, reassignPassenger, hget] using hmoved
      | some vehicle =>
        cases hassign : assignVehicle fleet (rows.set id (passenger.moveTo newBooking)) id vehicle
            (some newBooking) with
        | error error => simpa only [serve, reassignPassenger, hget, hassign] using hmoved
        | ok written =>
          simpa only [serve, reassignPassenger, hget, hassign] using
            vehiclesFit_assigned hmoved hassign
  | cancel id =>
    intro vehicle
    refine (countP_cancelled_le (Passenger.inVehicle vehicle) ?_ id).trans (h vehicle)
    simp +contextual [Passenger.inVehicle]

theorem vehiclesFit_after (h : VehiclesFit fleet rows) (calls : List Call) :
    VehiclesFit fleet (after fleet rows calls) := by
  induction calls generalizing rows with
  | nil => exact h
  | cons call rest ih => exact ih (vehiclesFit_serve h call)

/-- In a sequence of calls from a table whose places suffice, no vehicle ever carries more than
its capacity; and every call keeps the bookings within their passenger counts and leaves the
passenger it refuses as it was exactly when every call meets the condition. -/
theorem capacity_kept (fleet : Fleet) (rows : List Passenger) (calls : List Call)
    (hvehicles : VehiclesFit fleet rows) (hbookings : BookingsFit fleet rows) :
    VehiclesFit fleet (after fleet rows calls) ∧
    (Along (fun rows call => (serve fleet rows call).1) (Sound fleet) rows calls ↔
      Along (fun rows call => (serve fleet rows call).1) (Meets fleet) rows calls) := by
  refine ⟨vehiclesFit_after hvehicles calls, ?_⟩
  refine along_iff (fun rows => VehiclesFit fleet rows ∧ BookingsFit fleet rows) ?_ ?_
    ⟨hvehicles, hbookings⟩
  · intro rows call _ hsound
    exact ⟨hsound.vehicles, hsound.bookings⟩
  · intro rows call hfits
    exact sound_iff_meets hfits.1 hfits.2 call

end Calls

/-- Every vehicle has four places and every booking is for one passenger. -/
def smallBookings : Fleet where
  vehicle _ := { licensePlate := "UAX 001A", passengerCapacity := 4, positive := by decide }
  booking _ := { passengerCount := 1, positive := by decide }

def riders : List Passenger := [{ bookingId := 0 }, { bookingId := 0 }, { bookingId := 1 }]

theorem riders_fit :
    VehiclesFit smallBookings riders ∧ BookingsFit smallBookings riders := by
  constructor <;> intro id <;> simp [riders, Passenger.inVehicle, Passenger.seatedIn]

theorem riders_kept : VehiclesFit smallBookings
    (after smallBookings riders [.assign 0 0 none, .assign 1 0 none, .reassign 2 0 (some 0)]) :=
  (capacity_kept smallBookings riders _ riders_fit.1 riders_fit.2).1

/-- A passenger is put into a vehicle and cancelled, another takes the one place of the booking,
and the first comes back beside it. And a passenger that the full booking refuses is in it. -/
theorem second_rider_seated :
    VehiclesFit smallBookings riders ∧ BookingsFit smallBookings riders ∧
    ¬ BookingsFit smallBookings (after smallBookings riders
      [.assign 0 0 none, .cancel 0, .assign 1 0 none, .assign 0 0 none]) ∧
    (serve smallBookings (after smallBookings riders [.assign 0 0 none])
        (.reassign 2 0 (some 0))).2 = .error (.bookingFull 1) ∧
    (serve smallBookings (after smallBookings riders [.assign 0 0 none])
        (.reassign 2 0 (some 0))).1[2]? ≠
      (after smallBookings riders [.assign 0 0 none])[2]? := by
  refine ⟨riders_fit.1, riders_fit.2, fun h => ?_, by decide +kernel, by decide +kernel⟩
  exact absurd (h 0) (by decide +kernel)

end Afcon360.Transport.PassengerService
