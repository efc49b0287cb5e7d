import Mathlib.Data.List.Nodup
import Afcon360.Foundation.Run
import Afcon360.Accommodation.Inventory

/-!
# Physical rooms

`check_in` looks at the rooms assigned to a booking and `check_out` gives them back. A call
reads the booking and its assignments by plain queries and writes in one transaction at its
end. Calls may overlap in any way. A booking that is changed between a call's read and its
end is written over.

A booking without assignments cannot be checked in: `check_in` chooses rooms for it and
then builds rows of `RoomBooking`, a name that its module does not import, and the error is
answered by a rollback. So every assignment was there before the calls. `check_in` leaves the
assignments as they are, and `check_out` ends only those that have the status `checked_in`,
while the column's default is `active`.
-/

namespace Afcon360.Accommodation

open Foundation

inductive RoomStatus
  | available | booked | maintenance
  deriving DecidableEq, Repr

/-- A row of `accommodation_rooms`. -/
structure Room where
  status : RoomStatus := .available
  deriving DecidableEq, Repr

inductive AssignmentStatus
  | active | checkedIn | checkedOut
  deriving DecidableEq, Repr

/-- A row of `accommodation_room_bookings`. -/
structure RoomBooking where
  bookingId : ℕ
  roomId : ℕ
  status : AssignmentStatus := .active
  deriving DecidableEq, Repr

/-- The status is one of those `check_in` counts. -/
def RoomBooking.isActive (assignment : RoomBooking) : Bool := assignment.status ≠ .checkedOut

/-- A booking with the room it is shown with. -/
structure HouseBooking extends StayBooking where
  assignedRoomId : Option ℕ := none

/-- A call between its reads and its end, with the booking as it was read. -/
inductive DeskCall
  | checkIn (booking : ℕ) (row : HouseBooking)
  | assign (booking : ℕ) (row : HouseBooking) (existing : List ℕ)
  | checkOut (booking : ℕ) (row : HouseBooking)

structure House where
  rooms : List Room
  bookings : List HouseBooking
  assignments : List RoomBooking := []
  underWay : List DeskCall := []

namespace House

variable {s : House} {booking row : HouseBooking}

/-- The rooms actively assigned to a booking. -/
def roomsOf (s : House) (id : ℕ) : List ℕ :=
  (s.assignments.filter (fun row => row.bookingId = id ∧ row.isActive)).map RoomBooking.roomId

def setStatus (rooms : List Room) (ids : List ℕ) (status : RoomStatus) : List Room :=
  rooms.mapIdx (fun i room => if i ∈ ids then { room with status := status } else room)

/-! ## Checking in -/

/-- The columns of the booking that `check_in` writes. -/
def markCheckedIn (booking : HouseBooking) : HouseBooking :=
  { booking with status := .checkedIn, isCheckedIn := true }

/-- The last transaction of `check_in`. Assignments that exist are used as they are, if they
are as many as the booking asks for. -/
def assign (s : House) (id : ℕ) (row : HouseBooking) (existing : List ℕ) : Option House :=
  match existing with
  | [] =>
    -- Rooms are chosen, or there are not enough; either way nothing is committed, for the
    -- name `RoomBooking` is not bound.
    none
  | _ =>
    if existing.length = row.roomsRequested then
      some { s with bookings := s.bookings.modify id markCheckedIn }
    else none

/-! ## Checking out -/

/-- The last transaction of `check_out`: the room the booking was read with and the rooms
of its assignments that are checked in are released. -/
def release (s : House) (id : ℕ) (row : HouseBooking) : House :=
  let own := (s.assignments.filter (fun other =>
    other.bookingId = id ∧ other.status = .checkedIn)).map RoomBooking.roomId
  { s with
    rooms := setStatus s.rooms (own ++ row.assignedRoomId.toList) .available
    bookings := s.bookings.modify id
      (fun booking => { booking with status := .checkedOut, isCheckedOut := true })
    assignments := s.assignments.map (fun other =>
      if other.bookingId = id ∧ other.status = .checkedIn then
        { other with status := .checkedOut }
      else other) }

/-! ## Calls -/

/-- The steps of the calls. A change of dates is the adjustment a call may ask for at its
start; the day, the registration and the payment policy are the environment's. -/
inductive Move
  | beginCheckIn (env : Inventory.DeskEnv) (booking : ℕ)
  | readAssignments (place : ℕ)
  | finishCheckIn (place : ℕ)
  | beginCheckOut (booking : ℕ)
  | finishCheckOut (place : ℕ)
  | adjustDates (booking : ℕ) (checkIn checkOut : Day) (valid : checkIn < checkOut)
  | abandon (place : ℕ)

/-- The first query of `check_in` and its checks. -/
def mayCheckIn (env : Inventory.DeskEnv) (booking : HouseBooking) : Bool :=
  ¬ booking.isCheckedIn ∧ booking.status = .confirmed ∧ booking.checkIn ≤ env.today ∧
    env.registered ∧ env.policyRefusal = none

def mayCheckOut (booking : HouseBooking) : Bool :=
  booking.status = .checkedIn ∧ ¬ booking.isCheckedOut

def call (s : House) (rest : DeskCall) : House := { s with underWay := s.underWay ++ [rest] }

def forget (s : House) (place : ℕ) : House := { s with underWay := s.underWay.eraseIdx place }

/-- The house after a step. A call that is refused or raises leaves it as it is. -/
def after (s : House) : Move → House
  | .beginCheckIn env id =>
    match s.bookings[id]? with
    | some row => if mayCheckIn env row then s.call (.checkIn id row) else s
    | none => s
  | .readAssignments place =>
    match s.underWay[place]? with
    | some (.checkIn id row) =>
      { s with underWay := s.underWay.set place (.assign id row (s.roomsOf id)) }
    | _ => s
  | .finishCheckIn place =>
    match s.underWay[place]? with
    | some (.assign id row existing) =>
      ((s.forget place).assign id row existing).getD (s.forget place)
    | _ => s
  | .beginCheckOut id =>
    match s.bookings[id]? with
    | some row => if mayCheckOut row then s.call (.checkOut id row) else s
    | none => s
  | .finishCheckOut place =>
    match s.underWay[place]? with
    | some (.checkOut id row) => (s.forget place).release id row
    | _ => s
  | .adjustDates id checkIn checkOut valid =>
    { s with
      bookings := s.bookings.modify id
        (fun booking => { booking with checkIn, checkOut, valid_dates := valid }) }
  | .abandon place => s.forget place

def Step (s : House) (move : Move) (t : House) : Prop := t = s.after move

/-! ## What is asked -/

/-- No room is assigned to two bookings whose stays overlap. -/
def Disjoint (s : House) : Prop :=
  ∀ (id other : ℕ) (booking booking' : HouseBooking), s.bookings[id]? = some booking →
    s.bookings[other]? = some booking' → id ≠ other →
      overlaps booking.checkIn booking.checkOut booking'.checkIn booking'.checkOut →
        ∀ room ∈ s.roomsOf id, room ∉ s.roomsOf other

/-- Every booking that is checked in has the rooms it asked for, and no room is assigned
to two bookings whose stays overlap. -/
structure Housed (s : House) : Prop where
  rooms : ∀ (id : ℕ) (booking : HouseBooking), s.bookings[id]? = some booking →
    booking.status = .checkedIn →
      (s.roomsOf id).Nodup ∧ (s.roomsOf id).length = booking.roomsRequested
  disjoint : s.Disjoint

/-- The check-out of a booking frees its rooms and touches nothing else. -/
structure Vacates (s t : House) (id : ℕ) : Prop where
  freed : ∀ room ∈ s.roomsOf id, ∃ row, t.rooms[room]? = some row ∧ row.status = .available
  ended : t.roomsOf id = []
  others : ∀ room ∉ s.roomsOf id, t.rooms[room]? = s.rooms[room]?
  kept : ∀ other, other ≠ id → t.roomsOf other = s.roomsOf other

/-- The booking of a call that ends is still as the call read it, a booking that is checked
out has no assignment with the default status, and new dates of a booking do not meet those
of another one in the same room. -/
def Orderly (s : House) : Move → Prop
  | .finishCheckIn place =>
    match s.underWay[place]? with
    | some (.assign id _ _) => ∃ booking, s.bookings[id]? = some booking ∧
        booking.status = .confirmed
    | _ => True
  | .finishCheckOut place =>
    match s.underWay[place]? with
    | some (.checkOut id _) => (∃ booking, s.bookings[id]? = some booking ∧
        booking.status = .checkedIn) ∧
        ∀ assignment ∈ s.assignments, assignment.bookingId = id → assignment.status ≠ .active
    | _ => True
  | .adjustDates id checkIn checkOut _ => ∀ (other : ℕ) (booking : HouseBooking),
      s.bookings[other]? = some booking → id ≠ other →
        overlaps checkIn checkOut booking.checkIn booking.checkOut →
          ∀ room ∈ s.roomsOf id, room ∉ s.roomsOf other
  | _ => True

/-- A state before any call: the rows are as the tables' constraints have them, and a booking
that is confirmed or checked in is shown with a room of its own. -/
structure Prepared (s : House) : Prop where
  housed : s.Housed
  idle : s.underWay = []
  distinct : ∀ id, (s.roomsOf id).Nodup
  stored : ∀ assignment ∈ s.assignments, ∃ row, s.rooms[assignment.roomId]? = some row
  shown : ∀ (id : ℕ) (booking : HouseBooking), s.bookings[id]? = some booking →
    booking.status = .confirmed ∨ booking.status = .checkedIn →
      ∀ room, booking.assignedRoomId = some room → room ∈ s.roomsOf id

/-! ## What holds while no call is overtaken -/

/-- A call under way fits the house: what it read of the booking and does not change is
still there, and so are the rooms it has seen, while the booking waits for its check-in. -/
def CallFits (s : House) : DeskCall → Prop
  | .checkIn id row => ∃ booking, s.bookings[id]? = some booking ∧
      booking.roomsRequested = row.roomsRequested
  | .assign id row existing => ∃ booking, s.bookings[id]? = some booking ∧
      booking.roomsRequested = row.roomsRequested ∧
      (booking.status = .confirmed → existing = s.roomsOf id)
  | .checkOut id row => ∃ booking, s.bookings[id]? = some booking ∧
      booking.assignedRoomId = row.assignedRoomId

structure Inv (s : House) : Prop where
  housed : s.Housed
  distinct : ∀ id, (s.roomsOf id).Nodup
  stored : ∀ assignment ∈ s.assignments, ∃ row, s.rooms[assignment.roomId]? = some row
  shown : ∀ (id : ℕ) (booking : HouseBooking), s.bookings[id]? = some booking →
    booking.status = .confirmed ∨ booking.status = .checkedIn →
      ∀ room, booking.assignedRoomId = some room → room ∈ s.roomsOf id
  calls : ∀ call ∈ s.underWay, s.CallFits call

theorem Prepared.inv (h : s.Prepared) : Inv s :=
  ⟨h.housed, h.distinct, h.stored, h.shown, by simp [h.idle]⟩

theorem mem_roomsOf {id room : ℕ} :
    room ∈ s.roomsOf id ↔
      ∃ row ∈ s.assignments, row.bookingId = id ∧ row.isActive = true ∧ row.roomId = room := by
  simp [roomsOf, and_assoc]

theorem setStatus_getElem? (rooms : List Room) (ids : List ℕ) (status : RoomStatus) (i : ℕ) :
    (setStatus rooms ids status)[i]? =
      rooms[i]?.map (fun room => if i ∈ ids then { room with status := status } else room) := by
  rw [setStatus, List.getElem?_mapIdx]

/-! ## Steps -/

variable {id : ℕ}

theorem modify_self {bookings : List HouseBooking} {booking : HouseBooking}
    (f : HouseBooking → HouseBooking) (h : bookings[id]? = some booking) :
    (bookings.modify id f)[id]? = some (f booking) := by
  rw [List.getElem?_modify, h]
  simp

theorem modify_other {bookings : List HouseBooking} {id other : ℕ}
    (f : HouseBooking → HouseBooking) (h : other ≠ id) :
    (bookings.modify id f)[other]? = bookings[other]? := by
  rw [List.getElem?_modify]
  simp [Ne.symm h]

/-- Only `calls` looks at the calls under way. -/
theorem Inv.withCalls (inv : Inv s) {calls : List DeskCall}
    (h : ∀ call ∈ calls, s.CallFits call) : Inv { s with underWay := calls } :=
  ⟨⟨inv.housed.rooms, inv.housed.disjoint⟩, inv.distinct, inv.stored, inv.shown, h⟩

theorem Inv.call (inv : Inv s) {call : DeskCall} (h : s.CallFits call) :
    Inv (s.call call) := by
  refine inv.withCalls (fun other hother => ?_)
  obtain hother | hother := List.mem_append.mp hother
  · exact inv.calls other hother
  · rw [List.mem_singleton.mp hother]
    exact h

theorem Inv.forget (inv : Inv s) (place : ℕ) : Inv (s.forget place) :=
  inv.withCalls (fun call hcall => inv.calls call (List.mem_of_mem_eraseIdx hcall))

/-- Where the assignments of other bookings stay as they are, calls fit the house after a
booking was changed: it does not come back to wait for its check-in, and if it waits its rooms
are still the same. -/
theorem CallFits.modify {s t : House} {f : HouseBooking → HouseBooking} {call : DeskCall}
    (hbookings : t.bookings = s.bookings.modify id f)
    (hrequested : ∀ booking, (f booking).roomsRequested = booking.roomsRequested)
    (hroom : ∀ booking, (f booking).assignedRoomId = booking.assignedRoomId)
    (hstatus : ∀ booking, (f booking).status = .confirmed →
      booking.status = .confirmed ∧ t.roomsOf id = s.roomsOf id)
    (hothers : ∀ other, other ≠ id → t.roomsOf other = s.roomsOf other)
    (h : s.CallFits call) : t.CallFits call := by
  have hread : ∀ (other : ℕ) (booking : HouseBooking), s.bookings[other]? = some booking →
      ∃ booking', t.bookings[other]? = some booking' ∧
        booking'.roomsRequested = booking.roomsRequested ∧
        booking'.assignedRoomId = booking.assignedRoomId ∧
        (booking'.status = .confirmed → booking.status = .confirmed ∧
          t.roomsOf other = s.roomsOf other) := by
    intro other booking hbooking
    by_cases hother : other = id
    · subst hother
      exact ⟨f booking, by rw [hbookings, modify_self f hbooking], hrequested booking,
        hroom booking, hstatus booking⟩
    · exact ⟨booking, by rw [hbookings, modify_other f hother, hbooking], rfl, rfl,
        fun hconfirmed => ⟨hconfirmed, hothers other hother⟩⟩
  cases call with
  | checkIn other row =>
    obtain ⟨booking, hbooking, hrow⟩ := h
    obtain ⟨booking', hbooking', hsame, -⟩ := hread other booking hbooking
    exact ⟨booking', hbooking', hsame.trans hrow⟩
  | assign other row existing =>
    obtain ⟨booking, hbooking, hrow, hseen⟩ := h
    obtain ⟨booking', hbooking', hsame, -, hkept⟩ := hread other booking hbooking
    refine ⟨booking', hbooking', hsame.trans hrow, fun hconfirmed => ?_⟩
    obtain ⟨hbefore, hrooms⟩ := hkept hconfirmed
    rw [hrooms]
    exact hseen hbefore
  | checkOut other row =>
    obtain ⟨booking, hbooking, hshown⟩ := h
    obtain ⟨booking', hbooking', -, hsame, -⟩ := hread other booking hbooking
    exact ⟨booking', hbooking', hsame.trans hshown⟩

theorem modify_cases {f : HouseBooking → HouseBooking} {other : ℕ}
    (h : (s.bookings.modify id f)[other]? = some booking) :
    (other ≠ id ∧ s.bookings[other]? = some booking) ∨
      other = id ∧ ∃ old, s.bookings[id]? = some old ∧ booking = f old := by
  by_cases hother : other = id
  · subst hother
    rw [List.getElem?_modify] at h
    obtain ⟨old, hold, hsame⟩ := Option.map_eq_some_iff.mp h
    exact .inr ⟨rfl, old, hold, by rw [← hsame]; simp⟩
  · rw [modify_other f hother] at h
    exact .inl ⟨hother, h⟩

theorem Inv.adjustDates (inv : Inv s) {checkIn checkOut : Day}
    (valid : checkIn < checkOut) (horderly : s.Orderly (.adjustDates id checkIn checkOut valid)) :
    Inv (s.after (.adjustDates id checkIn checkOut valid)) := by
  have hread : ∀ (other : ℕ) (booking : HouseBooking),
      (s.after (.adjustDates id checkIn checkOut valid)).bookings[other]? = some booking →
        ∃ old, s.bookings[other]? = some old ∧ booking.status = old.status ∧
          booking.roomsRequested = old.roomsRequested ∧
          booking.assignedRoomId = old.assignedRoomId := by
    intro other booking hbooking
    obtain ⟨-, hsame⟩ | ⟨rfl, old, hold, rfl⟩ := modify_cases hbooking
    · exact ⟨booking, hsame, rfl, rfl, rfl⟩
    · exact ⟨old, hold, rfl, rfl, rfl⟩
  refine ⟨⟨?_, ?_⟩, inv.distinct, inv.stored, ?_, ?_⟩
  · intro other booking hbooking hchecked
    obtain ⟨old, hold, hstatus, hrequested, -⟩ := hread other booking hbooking
    rw [hrequested]
    exact inv.housed.rooms other old hold (hstatus ▸ hchecked)
  · intro first second found found' hfound hfound' hne hmeet
    obtain ⟨hother, hsame⟩ | ⟨rfl, old, -, rfl⟩ := modify_cases hfound
    · obtain ⟨-, hsame'⟩ | ⟨rfl, old', -, rfl⟩ := modify_cases hfound'
      · exact inv.housed.disjoint first second found found' hsame hsame' hne hmeet
      · have hmeet' : overlaps checkIn checkOut found.checkIn found.checkOut := by
          simpa [overlaps, and_comm] using hmeet
        exact fun room hroom hroom' =>
          horderly first found hsame (Ne.symm hne) hmeet' room hroom' hroom
    · obtain ⟨-, hsame'⟩ | ⟨hsame, -⟩ := modify_cases hfound'
      · exact horderly second found' hsame' hne hmeet
      · exact absurd hsame.symm hne
  · intro other booking hbooking hstays
    obtain ⟨old, hold, hstatus, -, hshown⟩ := hread other booking hbooking
    rw [hshown]
    exact inv.shown other old hold (hstatus ▸ hstays)
  · intro call hcall
    exact CallFits.modify rfl (fun _ => rfl) (fun _ => rfl) (fun _ h => ⟨h, rfl⟩)
      (fun _ _ => rfl) (inv.calls call hcall)

/-- The end of a check-in whose booking still waits for it and has the rooms it asked for. -/
theorem Inv.markCheckedIn (inv : Inv s) (hbooking : s.bookings[id]? = some booking)
    (hstatus : booking.status = .confirmed)
    (hlength : (s.roomsOf id).length = booking.roomsRequested) :
    Inv { s with bookings := s.bookings.modify id House.markCheckedIn } := by
  have hread : ∀ (other : ℕ) (found : HouseBooking),
      (s.bookings.modify id House.markCheckedIn)[other]? = some found →
        ∃ old, s.bookings[other]? = some old ∧ found.checkIn = old.checkIn ∧
          found.checkOut = old.checkOut := by
    intro other found hfound
    obtain ⟨-, hsame⟩ | ⟨rfl, old, hold, rfl⟩ := modify_cases hfound
    · exact ⟨found, hsame, rfl, rfl⟩
    · exact ⟨old, hold, rfl, rfl⟩
  refine ⟨⟨?_, ?_⟩, inv.distinct, inv.stored, ?_, ?_⟩
  · intro other found hfound hchecked
    obtain ⟨-, hsame⟩ | ⟨rfl, old, hold, rfl⟩ := modify_cases hfound
    · exact inv.housed.rooms other found hsame hchecked
    · cases hbooking.symm.trans hold
      exact ⟨inv.distinct other, hlength⟩
  · intro first second found found' hfound hfound' hne hmeet
    obtain ⟨old, hold, hin, hout⟩ := hread first found hfound
    obtain ⟨old', hold', hin', hout'⟩ := hread second found' hfound'
    rw [hin, hout, hin', hout'] at hmeet
    exact inv.housed.disjoint first second old old' hold hold' hne hmeet
  · intro other found hfound hstays
    obtain ⟨-, hsame⟩ | ⟨rfl, old, hold, rfl⟩ := modify_cases hfound
    · exact inv.shown other found hsame hstays
    · cases hbooking.symm.trans hold
      exact inv.shown other booking hbooking (.inl hstatus)
  · intro call hcall
    exact CallFits.modify rfl (fun _ => rfl) (fun _ => rfl)
      (fun found h => by simp [House.markCheckedIn] at h) (fun _ _ => rfl) (inv.calls call hcall)

/-- The row after the check-out of a booking. -/
def vacated (id : ℕ) (row : RoomBooking) : RoomBooking :=
  if row.bookingId = id ∧ row.status = .checkedIn then { row with status := .checkedOut } else row

theorem release_assignments (s : House) (id : ℕ) (row : HouseBooking) :
    (s.release id row).assignments = s.assignments.map (vacated id) := rfl

theorem vacated_roomId (id : ℕ) (row : RoomBooking) : (vacated id row).roomId = row.roomId := by
  rw [vacated]
  split <;> rfl

theorem vacated_bookingId (id : ℕ) (row : RoomBooking) :
    (vacated id row).bookingId = row.bookingId := by
  rw [vacated]
  split <;> rfl

/-- No assignment of the booking has the default status. -/
def Entered (s : House) (id : ℕ) : Prop :=
  ∀ assignment ∈ s.assignments, assignment.bookingId = id → assignment.status ≠ .active

theorem Entered.isActive_iff (entered : s.Entered id) {row : RoomBooking}
    (h : row ∈ s.assignments) (hid : row.bookingId = id) :
    row.isActive = true ↔ row.status = .checkedIn := by
  have hactive := entered row h hid
  unfold RoomBooking.isActive
  cases hstatus : row.status <;> simp_all

theorem vacated_isActive (entered : s.Entered id) {row : RoomBooking} (h : row ∈ s.assignments) :
    (vacated id row).isActive = (row.isActive && decide (row.bookingId ≠ id)) := by
  by_cases hid : row.bookingId = id
  · by_cases hchecked : row.status = .checkedIn
    · simp [vacated, hid, hchecked, RoomBooking.isActive]
    · have hended := mt (entered.isActive_iff h hid).mp hchecked
      simp [vacated, hid, hchecked, hended]
  · simp [vacated, hid]

theorem roomsOf_release (entered : s.Entered id) (row : HouseBooking) (other : ℕ) :
    (s.release id row).roomsOf other = if other = id then [] else s.roomsOf other := by
  have hroomId : RoomBooking.roomId ∘ vacated id = RoomBooking.roomId := by
    funext assignment
    exact vacated_roomId id assignment
  rw [roomsOf, release_assignments, List.filter_map, List.map_map, hroomId]
  split
  · rename_i hother
    subst hother
    rw [List.map_eq_nil_iff, List.filter_eq_nil_iff]
    intro assignment hassignment
    simp only [Function.comp, vacated_bookingId, vacated_isActive entered hassignment]
    simp +contextual
  · rename_i hother
    rw [roomsOf]
    congr 1
    refine List.filter_congr (fun assignment hassignment => ?_)
    simp only [Function.comp, vacated_bookingId, vacated_isActive entered hassignment,
      decide_eq_decide]
    constructor
    · rintro ⟨hid, hactive⟩
      simp only [Bool.and_eq_true] at hactive
      exact ⟨hid, hactive.1⟩
    · rintro ⟨hid, hactive⟩
      simp [hid, hactive, hother]

/-- The rooms a check-out releases are those of the booking. -/
theorem Inv.released_iff (inv : Inv s) (entered : s.Entered id)
    (hbooking : s.bookings[id]? = some booking) (hstatus : booking.status = .checkedIn)
    (hshown : booking.assignedRoomId = row.assignedRoomId) (room : ℕ) :
    room ∈ (s.assignments.filter (fun other => other.bookingId = id ∧
        other.status = .checkedIn)).map RoomBooking.roomId ++ row.assignedRoomId.toList ↔
      room ∈ s.roomsOf id := by
  have hown : s.assignments.filter (fun other => other.bookingId = id ∧
      other.status = .checkedIn) =
        s.assignments.filter (fun other => other.bookingId = id ∧ other.isActive) := by
    refine List.filter_congr (fun other hother => ?_)
    rw [decide_eq_decide]
    exact and_congr_right (fun hid => (entered.isActive_iff hother hid).symm)
  rw [hown, List.mem_append]
  constructor
  · rintro (hown | hshownRoom)
    · exact hown
    · rw [← hshown] at hshownRoom
      exact inv.shown id booking hbooking (.inr hstatus) room (Option.mem_toList.mp hshownRoom)
  · exact .inl

/-- The check-out of a booking that is checked in, as the call read it. -/
theorem Inv.vacates (inv : Inv s) (entered : s.Entered id)
    (hbooking : s.bookings[id]? = some booking) (hstatus : booking.status = .checkedIn)
    (hshown : booking.assignedRoomId = row.assignedRoomId) : Vacates s (s.release id row) id := by
  refine ⟨?_, ?_, ?_, ?_⟩
  · intro room hroom
    obtain ⟨assignment, hassignment, -, -, rfl⟩ := mem_roomsOf.mp hroom
    obtain ⟨place, hplace⟩ := inv.stored assignment hassignment
    refine ⟨{ place with status := .available }, ?_, rfl⟩
    rw [release, setStatus_getElem?, hplace, Option.map_some,
      if_pos ((inv.released_iff entered hbooking hstatus hshown _).mpr hroom)]
  · rw [roomsOf_release entered, if_pos rfl]
  · intro room hroom
    have hnot := fun h => hroom ((inv.released_iff entered hbooking hstatus hshown room).mp h)
    rw [release, setStatus_getElem?]
    cases s.rooms[room]? with
    | none => rfl
    | some place => rw [Option.map_some, if_neg hnot]
  · intro other hother
    rw [roomsOf_release entered, if_neg hother]

theorem Inv.release (inv : Inv s) (entered : s.Entered id) (row : HouseBooking) :
    Inv (s.release id row) := by
  have hsub : ∀ other, ((s.release id row).roomsOf other).Sublist (s.roomsOf other) := by
    intro other
    rw [roomsOf_release entered]
    split
    · exact List.nil_sublist _
    · exact List.Sublist.refl _
  have hread : ∀ (other : ℕ) (found : HouseBooking),
      (s.release id row).bookings[other]? = some found →
        ∃ old, s.bookings[other]? = some old ∧ found.checkIn = old.checkIn ∧
          found.checkOut = old.checkOut ∧
          (found.status ≠ .checkedOut → other ≠ id ∧ found = old) := by
    intro other found hfound
    obtain ⟨hne, hsame⟩ | ⟨rfl, old, hold, rfl⟩ := modify_cases hfound
    · exact ⟨found, hsame, rfl, rfl, fun _ => ⟨hne, rfl⟩⟩
    · exact ⟨old, hold, rfl, rfl, fun h => absurd rfl h⟩
  refine ⟨⟨?_, ?_⟩, fun other => (inv.distinct other).sublist (hsub other), ?_, ?_, ?_⟩
  · intro other found hfound hchecked
    obtain ⟨old, hold, -, -, hkept⟩ := hread other found hfound
    obtain ⟨hne, rfl⟩ := hkept (by simp [hchecked])
    rw [roomsOf_release entered, if_neg hne]
    exact inv.housed.rooms other found hold hchecked
  · intro first second found found' hfound hfound' hne hmeet room hroom hroom'
    obtain ⟨old, hold, hin, hout, -⟩ := hread first found hfound
    obtain ⟨old', hold', hin', hout', -⟩ := hread second found' hfound'
    rw [hin, hout, hin', hout'] at hmeet
    exact inv.housed.disjoint first second old old' hold hold' hne hmeet room
      ((hsub first).subset hroom) ((hsub second).subset hroom')
  · intro assignment hassignment
    obtain ⟨other, hother, rfl⟩ := List.mem_map.mp hassignment
    obtain ⟨place, hplace⟩ := inv.stored other hother
    change ∃ found, (s.release id row).rooms[(vacated id other).roomId]? = some found
    rw [House.release, vacated_roomId, setStatus_getElem?, hplace]
    exact ⟨_, rfl⟩
  · intro other found hfound hstays
    obtain ⟨old, hold, -, -, hkept⟩ := hread other found hfound
    obtain ⟨hne, rfl⟩ := hkept (by obtain h | h := hstays <;> simp [h])
    rw [roomsOf_release entered, if_neg hne]
    exact inv.shown other found hold hstays
  · intro call hcall
    exact CallFits.modify rfl (fun _ => rfl) (fun _ => rfl) (fun _ h => by simp at h)
      (fun other hne => by rw [roomsOf_release entered, if_neg hne]) (inv.calls call hcall)

/-! ## Runs -/

theorem Inv.step {s t : House} {move : Move} (inv : Inv s)
    (h : Guarded Orderly Step s move t) : Inv t := by
  obtain ⟨horderly, rfl⟩ := h
  cases move with
  | beginCheckIn env id =>
    simp only [after]
    split
    · rename_i row hrow
      split
      · exact inv.call ⟨row, hrow, rfl⟩
      · exact inv
    · exact inv
  | readAssignments place =>
    simp only [after]
    split
    · rename_i id row hcall
      obtain ⟨booking, hbooking, hrequested⟩ := inv.calls _ (List.mem_of_getElem? hcall)
      refine inv.withCalls (fun call hmem => ?_)
      obtain hmem | rfl := List.mem_or_eq_of_mem_set hmem
      · exact inv.calls call hmem
      · exact ⟨booking, hbooking, hrequested, fun _ => rfl⟩
    · exact inv
  | finishCheckIn place =>
    simp only [after]
    split
    · rename_i id row existing hcall
      obtain ⟨booking, hbooking, hrequested, hseen⟩ := inv.calls _ (List.mem_of_getElem? hcall)
      simp only [Orderly, hcall, hbooking, Option.some.injEq, exists_eq_left'] at horderly
      obtain rfl := hseen horderly
      unfold assign
      split
      · exact inv.forget place
      · split
        · rename_i hlength
          exact (inv.forget place).markCheckedIn hbooking horderly (hlength.trans hrequested.symm)
        · exact inv.forget place
    · exact inv
  | beginCheckOut id =>
    simp only [after]
    split
    · rename_i row hrow
      split
      · exact inv.call ⟨row, hrow, rfl⟩
      · exact inv
    · exact inv
  | finishCheckOut place =>
    simp only [after]
    split
    · rename_i id row hcall
      simp only [Orderly, hcall] at horderly
      have entered : (s.forget place).Entered id := horderly.2
      exact (inv.forget place).release entered row
    · exact inv
  | adjustDates id checkIn checkOut valid => exact inv.adjustDates valid horderly
  | abandon place => exact inv.forget place

/-- In every orderly interleaving, bookings that are checked in have their rooms, rooms are
not shared by stays that overlap, and a check-out frees the rooms of its booking and no
others. -/
theorem house_housed {start s : House} {moves : List Move} (hprepared : start.Prepared)
    (run : Run (Guarded Orderly Step) start moves s) :
    Housed s ∧ ∀ (place id : ℕ) (row : HouseBooking) (t : House),
      s.underWay[place]? = some (.checkOut id row) →
      Guarded Orderly Step s (.finishCheckOut place) t → Vacates s t id := by
  have inv := run.invariant Inv (fun _ _ _ inv h => inv.step h) hprepared.inv
  refine ⟨inv.housed, ?_⟩
  rintro place id row t hcall ⟨horderly, rfl⟩
  obtain ⟨booking, hbooking, hshown⟩ := inv.calls _ (List.mem_of_getElem? hcall)
  simp only [Orderly, hcall, hbooking, Option.some.injEq, exists_eq_left'] at horderly
  simp only [after, hcall]
  have entered : (s.forget place).Entered id := horderly.2
  have hvacates := (inv.forget place).vacates entered hbooking horderly.1 hshown
  exact ⟨hvacates.freed, hvacates.ended, hvacates.others, hvacates.kept⟩

/-! ## Without assignments -/

/-- Nobody has a room, nobody is checked in, and no call has seen anything else. -/
structure Vacant (s : House) : Prop where
  unassigned : s.assignments = []
  absent : ∀ booking ∈ s.bookings, booking.status ≠ .checkedIn
  calls : ∀ call ∈ s.underWay, (∃ id row, call = .checkIn id row) ∨
    ∃ id row, call = .assign id row []

theorem Vacant.housed (vacant : s.Vacant) : s.Housed := by
  refine ⟨?_, ?_⟩
  · intro id booking hbooking hchecked
    exact absurd hchecked (vacant.absent booking (List.mem_of_getElem? hbooking))
  · intro id other _ _ _ _ _ _ room hroom
    simp [roomsOf, vacant.unassigned] at hroom

theorem Vacant.withCalls (vacant : s.Vacant) {calls : List DeskCall}
    (h : ∀ call ∈ calls, (∃ id row, call = .checkIn id row) ∨ ∃ id row, call = .assign id row []) :
    Vacant { s with underWay := calls } :=
  ⟨vacant.unassigned, vacant.absent, h⟩

theorem Vacant.forget (vacant : s.Vacant) (place : ℕ) : Vacant (s.forget place) :=
  vacant.withCalls (fun call hcall => vacant.calls call (List.mem_of_mem_eraseIdx hcall))

theorem Vacant.step {s t : House} {move : Move} (vacant : s.Vacant) (h : Step s move t) :
    t.Vacant ∧ t.rooms = s.rooms := by
  obtain rfl := h
  have hrooms : ∀ id, s.roomsOf id = [] := fun id => by simp [roomsOf, vacant.unassigned]
  cases move with
  | beginCheckIn env id =>
    simp only [after]
    split
    · rename_i row hrow
      split
      · refine ⟨vacant.withCalls (fun call hcall => ?_), rfl⟩
        obtain hcall | hcall := List.mem_append.mp hcall
        · exact vacant.calls call hcall
        · exact .inl ⟨id, row, List.mem_singleton.mp hcall⟩
      · exact ⟨vacant, rfl⟩
    · exact ⟨vacant, rfl⟩
  | readAssignments place =>
    simp only [after]
    split
    · rename_i id row hcall
      refine ⟨vacant.withCalls (fun call hmem => ?_), rfl⟩
      obtain hmem | rfl := List.mem_or_eq_of_mem_set hmem
      · exact vacant.calls call hmem
      · exact .inr ⟨id, row, by rw [hrooms]⟩
    · exact ⟨vacant, rfl⟩
  | finishCheckIn place =>
    simp only [after]
    split
    · rename_i id row existing hcall
      obtain ⟨_, _, hother⟩ | ⟨_, _, hsame⟩ := vacant.calls _ (List.mem_of_getElem? hcall)
      · cases hother
      · cases hsame
        exact ⟨vacant.forget place, rfl⟩
    · exact ⟨vacant, rfl⟩
  | beginCheckOut id =>
    simp only [after]
    split
    · rename_i row hrow
      split
      · rename_i hmay
        simp only [mayCheckOut, decide_eq_true_eq] at hmay
        exact absurd hmay.1 (vacant.absent row (List.mem_of_getElem? hrow))
      · exact ⟨vacant, rfl⟩
    · exact ⟨vacant, rfl⟩
  | finishCheckOut place =>
    simp only [after]
    split
    · rename_i id row hcall
      obtain ⟨_, _, hother⟩ | ⟨_, _, hother⟩ := vacant.calls _ (List.mem_of_getElem? hcall) <;>
        cases hother
    · exact ⟨vacant, rfl⟩
  | adjustDates id checkIn checkOut valid =>
    refine ⟨⟨vacant.unassigned, ?_, vacant.calls⟩, rfl⟩
    intro booking hbooking
    obtain ⟨other, hother⟩ := List.mem_iff_getElem?.mp hbooking
    obtain ⟨-, hsame⟩ | ⟨-, old, hold, rfl⟩ := modify_cases hother
    · exact vacant.absent booking (List.mem_of_getElem? hsame)
    · exact vacant.absent old (List.mem_of_getElem? hold)
  | abandon place => exact ⟨vacant.forget place, rfl⟩

/-- Where no room is assigned at the start, no call ever checks a booking in or changes a
room. -/
theorem vacant_of_run {start s : House} {moves : List Move} (vacant : start.Vacant)
    (run : Run Step start moves s) : s.Vacant ∧ s.Housed ∧ s.rooms = start.rooms := by
  have hlast : s.Vacant ∧ s.rooms = start.rooms := by
    refine run.invariant (fun s => s.Vacant ∧ s.rooms = start.rooms) ?_ ⟨vacant, rfl⟩
    rintro s move t ⟨hvacant, hrooms⟩ hstep
    obtain ⟨hnext, hsame⟩ := hvacant.step hstep
    exact ⟨hnext, hsame.trans hrooms⟩
  exact ⟨hlast.1, hlast.1.housed, hlast.2⟩

/-! ## One booking -/

theorem oneRoom_dates : (10 : ℤ) < 12 := by decide

theorem oneRoom_rooms : 1 ≤ 1 := le_rfl

/-- A confirmed booking of one room. -/
def oneRoom : HouseBooking :=
  { propertyId := 0, roomTypeId := some 0, guestUserId := 4, bookedByUserId := 4, hostUserId := 9,
    checkIn := 10, checkOut := 12, roomsRequested := 1, status := .confirmed, expiresAt := none,
    idempotencyKey := none, flow := .instant, valid_dates := oneRoom_dates
    rooms_positive := oneRoom_rooms, assignedRoomId := some 0 }

/-- Two rooms, the first one assigned to the booking. -/
def twoRooms (status : AssignmentStatus) : House :=
  { rooms := [⟨.booked⟩, ⟨.available⟩]
    bookings := [oneRoom]
    assignments := [⟨0, 0, status⟩] }

theorem twoRooms_prepared {status : AssignmentStatus} (hstatus : status ≠ .checkedOut) :
    (twoRooms status).Prepared := by
  have hrooms : (twoRooms status).roomsOf 0 = [0] := by
    simp [roomsOf, twoRooms, RoomBooking.isActive, hstatus]
  have hone : ∀ (id : ℕ) (booking : HouseBooking),
      (twoRooms status).bookings[id]? = some booking → id = 0 ∧ booking = oneRoom := by
    intro id booking h
    cases id with
    | zero => exact ⟨rfl, (Option.some.inj h).symm⟩
    | succ id => simp [twoRooms] at h
  refine ⟨⟨?_, ?_⟩, rfl, ?_, ?_, ?_⟩
  · intro id booking hbooking hchecked
    obtain ⟨-, rfl⟩ := hone id booking hbooking
    cases hchecked
  · intro id other booking booking' hbooking hbooking' hne
    exact absurd ((hone id booking hbooking).1.trans (hone other booking' hbooking').1.symm) hne
  · intro id
    refine List.Nodup.sublist (List.filter_sublist.map _) ?_
    simp [twoRooms]
  · simp [twoRooms]
  · intro id booking hbooking _ room hroom
    obtain ⟨rfl, rfl⟩ := hone id booking hbooking
    rw [hrooms, ← Option.some.inj hroom]
    simp

def desk : Inventory.DeskEnv := { today := 10 }

/-- One stay from the check-in to the check-out. -/
def oneStay : List Move :=
  [.beginCheckIn desk 0, .readAssignments 0, .finishCheckIn 0, .beginCheckOut 0,
    .finishCheckOut 0]

/-- A booking whose assignment was entered as checked in: its room is free at the end. -/
theorem house_housed_oneStay :
    ∃ s, Run (Guarded Orderly Step) (twoRooms .checkedIn) oneStay s ∧ s.roomsOf 0 = [] ∧
      s.rooms[0]? = some ⟨.available⟩ ∧ Housed s := by
  have run : Run (Guarded Orderly Step) (twoRooms .checkedIn) oneStay _ :=
    .cons ⟨trivial, rfl⟩ (.cons ⟨trivial, rfl⟩ (.cons ⟨⟨_, rfl, rfl⟩, rfl⟩
      (.cons ⟨trivial, rfl⟩ (.cons ⟨⟨⟨_, rfl, rfl⟩, by decide⟩, rfl⟩ (.nil _)))))
  exact ⟨_, run, by decide, by decide, (house_housed (twoRooms_prepared (by decide)) run).1⟩

/-- A booking whose assignment has the default status keeps its room after the check-out. -/
theorem checked_out_keeps_room :
    ∃ s t, Run Step (twoRooms .active) (oneStay.take 4) s ∧ (twoRooms .active).Prepared ∧
      s.underWay.length = 1 ∧ Step s (.finishCheckOut 0) t ∧
      t.bookings.map (fun booking => booking.status) = [.checkedOut] ∧ ¬ Vacates s t 0 := by
  have run : Run Step (twoRooms .active) (oneStay.take 4) _ :=
    .cons rfl (.cons rfl (.cons rfl (.cons rfl (.nil _))))
  refine ⟨_, _, run, twoRooms_prepared (by decide), by decide, rfl, by decide, fun vacates => ?_⟩
  exact absurd vacates.ended (by decide)

end House

end Afcon360.Accommodation
