import Afcon360.Foundation.Run
import Afcon360.Transport.Assignment

/-!
# Exclusive assignment

No driver and no vehicle is that of two active bookings. A claim locks its driver before it
looks for the driver's other bookings, so claims of one driver follow each other. The vehicle
is locked by the update that looks for its other bookings; a claim that waited there relies
on the availability flag of the row, which the claim it waited for has cleared. A forced
claim does not look at the flag: it is safe only if no claim of the vehicle was committed
while it waited.
-/

namespace Afcon360.Transport

open Foundation

namespace FleetTables

variable {tables : FleetTables} {resource : Resource} {i j bookingId : ℕ} {booking : Booking}
variable {vehicle : Option (ℕ × Vehicle)}

/-- An active booking has the resource. -/
def Holds (tables : FleetTables) (i : ℕ) (resource : Resource) : Prop :=
  ∃ booking, tables.bookings[i]? = some booking ∧ booking.holds resource = true

/-- Every driver and every vehicle is that of at most one active booking. -/
def Exclusive (tables : FleetTables) : Prop :=
  ∀ i j resource, tables.Holds i resource → tables.Holds j resource → i = j

theorem engagedOther_eq_false :
    tables.engagedOther resource bookingId = false ↔
      ∀ i, tables.Holds i resource → i = bookingId := by
  unfold engagedOther
  rw [List.any_eq_false]
  constructor
  · rintro h i ⟨booking, hbooking, hholds⟩
    have := h (booking, i) (List.mem_zipIdx_iff_getElem?.mpr hbooking)
    simpa [hholds] using this
  · rintro h ⟨booking, i⟩ hmem
    have hbooking := List.mem_zipIdx_iff_getElem?.mp hmem
    by_cases hholds : booking.holds resource
    · simp [h i ⟨booking, hbooking, hholds⟩]
    · simp [hholds]

theorem holds_write (h : (tables.write bookingId booking vehicle).Holds i resource) :
    (i = bookingId ∧ booking.holds resource = true) ∨
      (i ≠ bookingId ∧ tables.Holds i resource) := by
  obtain ⟨row, hrow, hholds⟩ := h
  obtain ⟨rfl, rfl⟩ | ⟨hne, hrow⟩ := getElem?_set_cases hrow
  · exact .inl ⟨rfl, hholds⟩
  · exact .inr ⟨hne, row, hrow, hholds⟩

theorem bookings_write_ne (h : i ≠ bookingId) :
    (tables.write bookingId booking vehicle).bookings[i]? = tables.bookings[i]? := by
  simp [write, Ne.symm h]

theorem holds_write_of_ne (hne : i ≠ bookingId) (h : tables.Holds i resource) :
    (tables.write bookingId booking vehicle).Holds i resource := by
  obtain ⟨row, hrow, hholds⟩ := h
  exact ⟨row, (bookings_write_ne hne).trans hrow, hholds⟩

/-- A booking that has ended gives up what it had. -/
theorem holds_of_holds_write (ended : booking.active = false)
    (h : (tables.write bookingId booking vehicle).Holds i resource) :
    i ≠ bookingId ∧ tables.Holds i resource := by
  obtain ⟨_, hholds⟩ | h := holds_write h
  · cases resource <;> simp [Booking.holds, ended] at hholds
  · exact h

end FleetTables

/-! ## What each call relies on -/

/-- The booking of a claim is free in the committed tables, and its new version has the
driver and the vehicle of the claim only. -/
structure Claim.Booked (c : Claim) (tables : FleetTables) (booking : Booking) : Prop where
  free : ∃ old, tables.bookings[c.bookingId]? = some old ∧ old.claimable = true
  holds : ∀ resource, booking.holds resource = true →
    resource = .driver c.driverId ∨ resource = .vehicle c.vehicleId

/-- No other active booking has the resource. -/
def Claim.Free (c : Claim) (tables : FleetTables) (resource : Resource) : Prop :=
  ∀ i, tables.Holds i resource → i = c.bookingId

/-- If another active booking has got the vehicle, the row of the vehicle shows it to a
claim that looks. -/
def Claim.Shown (c : Claim) (tables : FleetTables) : Prop :=
  c.Free tables (.vehicle c.vehicleId) ∨
    (c.forced = false ∧ ∀ vehicle, tables.vehicles[c.vehicleId]? = some vehicle →
      vehicle.isAvailable = false)

def ClaimStage.Fits (c : Claim) (tables : FleetTables) : ClaimStage → Prop
  | .called | .driverLocked => True
  | .bookingUpdated booking => c.Booked tables booking
  | .driverChecked booking => c.Booked tables booking ∧ c.Free tables (.driver c.driverId)
  | .vehicleBegun booking =>
    c.Booked tables booking ∧ c.Free tables (.driver c.driverId) ∧ c.Shown tables
  | .vehicleUpdated booking vehicle =>
    c.Booked tables booking ∧ c.Free tables (.driver c.driverId) ∧
      c.Free tables (.vehicle c.vehicleId) ∧ vehicle.isAvailable = false

/-- A version of a booking that is neither active nor can be claimed. -/
def Booking.Ended (booking : Booking) : Prop :=
  booking.active = false ∧ booking.claimable = false

def ReleaseStage.Fits (r : Release) (tables : FleetTables) : ReleaseStage → Prop
  | .called => True
  | .read seen =>
    (r.toNoMatch = true → seen.isAssigned = true) ∧
    (seen.isAssigned = true → ∀ booking, tables.bookings[r.bookingId]? = some booking →
      booking.claimable = false ∧
        (booking.active = true → booking.assignedVehicleId = seen.assignedVehicleId))
  | .bookingUpdated booking vehicleId =>
    booking.Ended ∧ ∀ id, vehicleId = some id → tables.Holds r.bookingId (.vehicle id)
  | .vehicleBegun booking vehicleId =>
    booking.Ended ∧ tables.Holds r.bookingId (.vehicle vehicleId)
  | .done booking vehicle =>
    booking.Ended ∧ ∀ entry, vehicle = some entry → tables.Holds r.bookingId (.vehicle entry.1)

/-- A forced claim of the vehicle that is in its update of the vehicle. -/
def FleetCall.forcedWaiter (vehicleId : ℕ) : FleetCall → Bool
  | .claim c (.vehicleBegun _) => c.vehicleId = vehicleId && c.forced
  | _ => false

def FleetCall.Fits (tables : FleetTables) : FleetCall → Prop
  | .claim c stage => stage.Fits c tables
  | .release r stage =>
    (r.target.activeAssignment = false ∧ r.target ≠ .confirmed) ∧ stage.Fits r tables
  | _ => True

namespace Fleet

structure Valid (s : Fleet) : Prop where
  exclusive : s.tables.Exclusive
  locks : OneHolder FleetCall.holds s.calls
  calls : ∀ (place : ℕ) (call : FleetCall), s.calls[place]? = some call → call.Fits s.tables

variable {s : Fleet} {place : ℕ} {old call : FleetCall} {c : Claim} {r : Release}

variable {tables : FleetTables} {vehicle : Option (ℕ × Vehicle)} {booking : Booking}
  {bookingId : ℕ}

/-! ## Statements -/

theorem Valid.setCall (valid : s.Valid) (hold : s.calls[place]? = some old)
    (fits : call.Fits s.tables)
    (taken : ∀ row, call.holds row = true → old.holds row = true ∨ s.free place row = true) :
    (s.setCall place call).Valid where
  exclusive := valid.exclusive
  locks := valid.locks.set hold taken
  calls q other hother := by
    obtain ⟨_, rfl⟩ | ⟨_, hother⟩ := getElem?_set_cases hother
    · exact fits
    · exact valid.calls q other hother

theorem Valid.fail (valid : s.Valid) (hold : s.calls[place]? = some old) (kind message : String) :
    (s.fail place kind message).Valid :=
  valid.setCall hold trivial (fun row h => by simp [FleetCall.holds] at h)

theorem Valid.append (valid : s.Valid) (fits : call.Fits s.tables)
    (none' : ∀ row, call.holds row = false) : Valid { s with calls := s.calls ++ [call] } where
  exclusive := valid.exclusive
  locks := valid.locks.append none'
  calls q other hother := by
    obtain hother | ⟨_, rfl⟩ := getElem?_append_cases hother
    · exact valid.calls q other hother
    · exact fits

theorem claimNext_valid (valid : s.Valid) {stage : ClaimStage}
    (hold : s.calls[place]? = some (.claim c stage)) : (s.claimNext place c stage).Valid := by
  have fits : stage.Fits c s.tables := valid.calls place _ hold
  cases stage with
  | called =>
    simp only [claimNext]
    split
    · exact valid.fail hold _ _
    split
    · rename_i free
      refine valid.setCall hold trivial ?_
      intro row h
      simp only [FleetCall.holds, ClaimStage.holds, decide_eq_true_eq] at h
      exact .inr (h ▸ free)
    · exact valid
  | driverLocked =>
    simp only [claimNext]
    split
    · exact valid.fail hold _ _
    rename_i booking hbooking
    obtain ⟨hrow, hclaimable⟩ := Option.filter_eq_some_iff.mp hbooking
    split
    · rename_i free
      refine valid.setCall hold ⟨⟨booking, hrow, hclaimable⟩, ?_⟩ ?_
      · intro resource h
        cases resource <;> simp_all [Booking.holds]
      · intro row h
        simp only [FleetCall.holds, ClaimStage.holds, decide_eq_true_eq] at h ⊢
        obtain h | h := h
        · exact .inl h
        · exact .inr (h ▸ free)
    · exact valid
  | bookingUpdated booking =>
    simp only [claimNext]
    split
    · rename_i hready
      simp only [Bool.and_eq_true, Bool.not_eq_true'] at hready
      exact valid.setCall hold ⟨fits, FleetTables.engagedOther_eq_false.mp hready.2⟩
        (fun row h => .inl h)
    · exact valid.fail hold _ _
  | driverChecked booking =>
    simp only [claimNext]
    split
    · rename_i hready
      simp only [Bool.and_eq_true, Bool.not_eq_true'] at hready
      exact valid.setCall hold
        ⟨fits.1, fits.2, .inl (FleetTables.engagedOther_eq_false.mp hready.2)⟩
        (fun row h => .inl h)
    · exact valid.fail hold _ _
  | vehicleBegun booking =>
    simp only [claimNext]
    split
    · rename_i free
      split
      · exact valid.fail hold _ _
      rename_i vehicle hvehicle
      obtain ⟨hrow, hready⟩ := Option.filter_eq_some_iff.mp hvehicle
      refine valid.setCall hold ⟨fits.1, fits.2.1, ?_, rfl⟩ ?_
      · -- A claim that looks at the flag finds it set only if nobody has the vehicle.
        obtain hfree | ⟨hforced, hflag⟩ := fits.2.2
        · exact hfree
        · simp [Claim.vehicleReady, hforced, hflag vehicle hrow] at hready
      · intro row h
        simp only [FleetCall.holds, ClaimStage.holds, decide_eq_true_eq] at h ⊢
        obtain h | h | h := h
        · exact .inl (.inl h)
        · exact .inl (.inr h)
        · exact .inr (h ▸ free)
    · exact valid
  | vehicleUpdated booking vehicle => exact valid

theorem ended_of_target (hactive : booking.status.activeAssignment = false)
    (hconfirmed : booking.status ≠ .confirmed) : booking.Ended := by
  simp [Booking.Ended, Booking.active, Booking.claimable, hactive, hconfirmed]

theorem releaseRead_valid (valid : s.Valid)
    (hold : s.calls[place]? = some (.release r .called)) : (s.releaseRead place r).Valid := by
  obtain ⟨target, _⟩ := valid.calls place _ hold
  unfold releaseRead
  split
  · exact valid.fail hold _ _
  rename_i seen hseen
  have fits : (r.toNoMatch = true → seen.isAssigned = true) →
      (FleetCall.release r (.read seen)).Fits s.tables := by
    refine fun hmode => ⟨target, hmode, ?_⟩
    intro hassigned booking hbooking
    cases hseen.symm.trans hbooking
    refine ⟨?_, fun _ => rfl⟩
    simp only [Booking.isAssigned, Bool.or_eq_true, Option.isSome_iff_ne_none] at hassigned
    rcases hassigned with h | h <;> simp [Booking.claimable, h]
  split
  · rename_i hmode
    refine valid.setCall hold (fits (fun h => absurd h hmode)) ?_
    intro row h
    simp [FleetCall.holds, ReleaseStage.holds, hmode] at h
  split
  · exact valid
  rename_i hfree
  split
  · exact valid.setCall hold trivial (fun row h => by simp [FleetCall.holds] at h)
  split
  · exact valid.fail hold _ _
  rename_i hassigned
  split
  · exact valid.fail hold _ _
  refine valid.setCall hold (fits (fun _ => not_not.mp hassigned)) ?_
  intro row h
  simp only [FleetCall.holds, ReleaseStage.holds, Bool.and_eq_true, decide_eq_true_eq] at h
  exact .inr (h.2 ▸ not_not.mp hfree)

/-- The update of an assigned booking: the row it read is still the assignment. -/
theorem assigned_update_valid {seen booking : Booking} (valid : s.Valid)
    (hold : s.calls[place]? = some (.release r (.read seen)))
    (hassigned : seen.isAssigned = true) (hrow : s.tables.bookings[r.bookingId]? = some booking)
    (hactive : booking.active = true)
    (taken : r.toNoMatch = true ∨ s.free place (.booking r.bookingId) = true) :
    (s.setCall place (.release r (.bookingUpdated
      { booking with
        status := r.target, assignedDriverId := none, assignedVehicleId := none }
      seen.assignedVehicleId))).Valid := by
  obtain ⟨target, fits⟩ := valid.calls place _ hold
  have same := (fits.2 hassigned booking hrow).2 hactive
  refine valid.setCall hold ⟨target, ended_of_target target.1 target.2, ?_⟩ ?_
  · intro id hid
    refine ⟨booking, hrow, ?_⟩
    simp [Booking.holds, hactive, same, hid]
  · intro row h
    simp only [FleetCall.holds, ReleaseStage.holds, Bool.and_eq_true, decide_eq_true_eq] at h ⊢
    exact taken.imp (fun hmode => ⟨hmode, h⟩) (fun hfree => h ▸ hfree)

theorem releaseBooking_valid {seen : Booking} (valid : s.Valid)
    (hold : s.calls[place]? = some (.release r (.read seen))) :
    (s.releaseBooking place r seen).Valid := by
  obtain ⟨target, _⟩ := valid.calls place _ hold
  unfold releaseBooking
  dsimp only
  split
  · split
    · exact valid.fail hold _ _
    · exact valid.fail hold _ _
  rename_i booking hbooking
  obtain ⟨hrow, hquals⟩ := Option.filter_eq_some_iff.mp hbooking
  split
  · rename_i hfree
    split
    · rename_i hassigned
      have hactive : booking.active = true := by
        simpa [Booking.active, hassigned, and_comm] using hquals
      exact assigned_update_valid valid hold hassigned hrow hactive (.inr hfree)
    split
    · exact valid.setCall hold trivial (fun row h => by simp [FleetCall.holds] at h)
    · refine valid.setCall hold ⟨target, ended_of_target target.1 target.2, by simp⟩ ?_
      intro row h
      simp only [FleetCall.holds, ReleaseStage.holds, decide_eq_true_eq] at h
      exact .inr (h ▸ hfree)
  · exact valid

theorem driverCancellable_active {status : BookingStatus} (h : status.driverCancellable = true) :
    status.activeAssignment = true := by
  cases status <;> simp_all [BookingStatus.driverCancellable, BookingStatus.activeAssignment]

/-- `release_to_no_match` reads its row under the lock, and goes on only if it is
assigned. -/
theorem noMatchBooking_valid {seen : Booking} (valid : s.Valid)
    (hold : s.calls[place]? = some (.release r (.read seen))) (hmode : r.toNoMatch = true) :
    (s.noMatchBooking place r seen).Valid := by
  obtain ⟨_, hassigned, _⟩ := valid.calls place _ hold
  unfold noMatchBooking
  split
  · exact valid.fail hold _ _
  rename_i booking hbooking
  obtain ⟨hrow, hquals⟩ := Option.filter_eq_some_iff.mp hbooking
  simp only [Bool.and_eq_true, Bool.not_eq_true'] at hquals
  have hactive : booking.active = true := by
    simp [Booking.active, hquals.1, driverCancellable_active hquals.2]
  exact assigned_update_valid valid hold (hassigned hmode) hrow hactive (.inl hmode)

theorem releaseNext_valid (valid : s.Valid) {stage : ReleaseStage}
    (hold : s.calls[place]? = some (.release r stage)) : (s.releaseNext place r stage).Valid := by
  cases stage with
  | called => exact releaseRead_valid valid hold
  | read seen =>
    simp only [releaseNext]
    split
    · rename_i hmode
      exact noMatchBooking_valid valid hold hmode
    · exact releaseBooking_valid valid hold
  | bookingUpdated booking vehicleId =>
    obtain ⟨target, ended, held⟩ := valid.calls place _ hold
    have done : (s.setCall place (.release r (.done booking none))).Valid :=
      valid.setCall hold ⟨target, ended, by simp⟩ (fun row h => .inl h)
    cases vehicleId with
    | none => exact done
    | some vehicleId =>
      simp only [releaseNext]
      split
      · exact valid.setCall hold ⟨target, ended, held vehicleId rfl⟩ (fun row h => .inl h)
      · exact done
  | vehicleBegun booking vehicleId =>
    obtain ⟨target, ended, held⟩ := valid.calls place _ hold
    simp only [releaseNext]
    split
    · rename_i hfree
      split
      · exact valid.setCall hold ⟨target, ended, by simp⟩ (fun row h => .inl h)
      · refine valid.setCall hold ⟨target, ended, ?_⟩ ?_
        · intro entry hentry
          cases hentry
          exact held
        · intro row h
          simp only [FleetCall.holds, ReleaseStage.holds, decide_eq_true_eq] at h ⊢
          obtain h | h := h
          · exact .inl h
          · exact .inr (h ▸ hfree)
    · exact valid
  | done booking vehicle => exact valid

/-! ## Commits -/

/-- Two calls do not lock the same row. -/
theorem Valid.apart {other : FleetCall} {q : ℕ} (valid : s.Valid)
    (hcall : s.calls[place]? = some call) (hother : s.calls[q]? = some other) (hne : q ≠ place)
    {row : FleetRow} (h : call.holds row = true) : other.holds row = false := by
  by_contra hholds
  exact hne (valid.locks q place other call row hother hcall (by simpa using hholds) h)

theorem vehicles_write {bookingId id : ℕ} {written : Option (ℕ × Vehicle)} {vehicle : Vehicle}
    (h : (tables.write bookingId booking written).vehicles[id]? = some vehicle) :
    written = some (id, vehicle) ∨
      ((∀ row, written ≠ some (id, row)) ∧ tables.vehicles[id]? = some vehicle) := by
  cases written with
  | none => exact .inr ⟨by simp, h⟩
  | some entry =>
    obtain ⟨id', row⟩ := entry
    obtain ⟨rfl, rfl⟩ | ⟨hne, h⟩ := getElem?_set_cases h
    · exact .inl rfl
    · refine .inr ⟨?_, h⟩
      intro row' hrow
      exact hne (Prod.mk.inj (Option.some.inj hrow)).1.symm

theorem booked_write {written booking : Booking} (booked : c.Booked tables booking)
    (hne : c.bookingId ≠ bookingId) : c.Booked (tables.write bookingId written vehicle)
      booking := by
  obtain ⟨old, hold, hclaimable⟩ := booked.free
  exact ⟨⟨old, (FleetTables.bookings_write_ne hne).trans hold, hclaimable⟩, booked.holds⟩

/-- A claim keeps what it relies on through the commit of another call, where its resources
stay free and its vehicle stays shown. -/
theorem claim_fits_write {c : Claim} {stage : ClaimStage} (fits : stage.Fits c tables)
    (hbooking : (FleetCall.claim c stage).holds (.booking bookingId) = false)
    (hfree : ∀ resource, (FleetCall.claim c stage).holds (.resource resource) = true →
      c.Free tables resource → c.Free (tables.write bookingId booking vehicle) resource)
    (hshown : ∀ row, stage = .vehicleBegun row → c.Shown tables →
      c.Shown (tables.write bookingId booking vehicle)) :
    stage.Fits c (tables.write bookingId booking vehicle) := by
  cases stage with
  | called => trivial
  | driverLocked => trivial
  | bookingUpdated row =>
    simp [FleetCall.holds, ClaimStage.holds] at hbooking
    exact booked_write fits (Ne.symm hbooking)
  | driverChecked row =>
    simp [FleetCall.holds, ClaimStage.holds] at hbooking
    exact ⟨booked_write fits.1 (Ne.symm hbooking),
      hfree _ (by simp [FleetCall.holds, ClaimStage.holds]) fits.2⟩
  | vehicleBegun row =>
    simp [FleetCall.holds, ClaimStage.holds] at hbooking
    exact ⟨booked_write fits.1 (Ne.symm hbooking),
      hfree _ (by simp [FleetCall.holds, ClaimStage.holds]) fits.2.1,
      hshown row rfl fits.2.2⟩
  | vehicleUpdated row row' =>
    simp [FleetCall.holds, ClaimStage.holds] at hbooking
    exact ⟨booked_write fits.1 (Ne.symm hbooking),
      hfree _ (by simp [FleetCall.holds, ClaimStage.holds]) fits.2.1,
      hfree _ (by simp [FleetCall.holds, ClaimStage.holds]) fits.2.2.1, fits.2.2.2⟩

/-- A release keeps what it relies on through the commit of another call, where what it has
read of its booking still tells what it has to. -/
theorem release_fits_write {r : Release} {stage : ReleaseStage} (fits : stage.Fits r tables)
    (hbooking : (FleetCall.release r stage).holds (.booking bookingId) = false)
    (hread : ∀ seen, stage = .read seen → r.bookingId = bookingId → seen.isAssigned = true →
      booking.claimable = false ∧
        (booking.active = true → booking.assignedVehicleId = seen.assignedVehicleId)) :
    stage.Fits r (tables.write bookingId booking vehicle) := by
  cases stage with
  | called => trivial
  | read seen =>
    refine ⟨fits.1, ?_⟩
    intro hassigned row hrow
    obtain ⟨hsame, rfl⟩ | ⟨_, hkept⟩ := getElem?_set_cases hrow
    · exact hread seen rfl hsame hassigned
    · exact fits.2 hassigned row hkept
  | bookingUpdated row vehicleId =>
    simp [FleetCall.holds, ReleaseStage.holds] at hbooking
    exact ⟨fits.1, fun id hid =>
      FleetTables.holds_write_of_ne (Ne.symm hbooking) (fits.2 id hid)⟩
  | vehicleBegun row vehicleId =>
    simp [FleetCall.holds, ReleaseStage.holds] at hbooking
    exact ⟨fits.1, FleetTables.holds_write_of_ne (Ne.symm hbooking) fits.2⟩
  | done row entry =>
    have hapart : bookingId ≠ r.bookingId := by
      cases entry <;> simp_all [FleetCall.holds, ReleaseStage.holds]
    exact ⟨fits.1, fun found hfound =>
      FleetTables.holds_write_of_ne (Ne.symm hapart) (fits.2 found hfound)⟩

section ClaimCommit

variable {booking : Booking} {vehicle : Vehicle}

/-- What another claim found free stays free, the driver and the vehicle of this one
apart. -/
theorem free_write {tables : FleetTables} {c' : Claim} {resource : Resource}
    (holds : ∀ resource, booking.holds resource = true →
      resource = .driver c.driverId ∨ resource = .vehicle c.vehicleId)
    (hdriver : resource ≠ .driver c.driverId) (hvehicle : resource ≠ .vehicle c.vehicleId)
    (h : c'.Free tables resource) {written : Option (ℕ × Vehicle)} :
    c'.Free (tables.write c.bookingId booking written) resource := by
  intro i hi
  obtain ⟨_, hholds⟩ | ⟨_, hi⟩ := FleetTables.holds_write hi
  · obtain rfl | rfl := holds resource hholds
    · exact absurd rfl hdriver
    · exact absurd rfl hvehicle
  · exact h i hi

/-- The commit of a claim shows its vehicle to a claim that waited for it, unless that one
is forced. -/
theorem shown_write {tables : FleetTables} {c' : Claim} (booked : c.Booked tables booking)
    (hflag : vehicle.isAvailable = false)
    (hwaits : c'.vehicleId = c.vehicleId → c'.forced = false) (hshown : c'.Shown tables) :
    c'.Shown (tables.write c.bookingId booking (some (c.vehicleId, vehicle))) := by
  by_cases hsame : c'.vehicleId = c.vehicleId
  · refine .inr ⟨hwaits hsame, ?_⟩
    intro found hfound
    obtain hwritten | ⟨hnot, _⟩ := vehicles_write hfound
    · rw [← (Prod.mk.inj (Option.some.inj hwritten)).2]
      exact hflag
    · exact absurd (by rw [hsame]) (hnot vehicle)
  · obtain hfree | ⟨hforced, hflag'⟩ := hshown
    · exact .inl (free_write booked.holds (by simp) (by simpa using hsame) hfree)
    · refine .inr ⟨hforced, ?_⟩
      intro found hfound
      obtain hwritten | ⟨_, hfound⟩ := vehicles_write hfound
      · exact absurd (Prod.mk.inj (Option.some.inj hwritten)).1.symm hsame
      · exact hflag' found hfound

/-- The other calls after the commit of a claim. -/
theorem fits_claim_commit (valid : s.Valid)
    (hcall : s.calls[place]? = some (.claim c (.vehicleUpdated booking vehicle)))
    (waiter : s.calls.any (FleetCall.forcedWaiter c.vehicleId) = false) {q : ℕ} {other : FleetCall}
    (hother : s.calls[q]? = some other) (hne : q ≠ place) :
    other.Fits (s.tables.write c.bookingId booking (some (c.vehicleId, vehicle))) := by
  obtain ⟨booked, _, _, hflag⟩ := valid.calls place _ hcall
  have fits := valid.calls q other hother
  have hbooking : other.holds (.booking c.bookingId) = false :=
    valid.apart hcall hother hne (by simp [FleetCall.holds, ClaimStage.holds])
  have hdriver : other.holds (.resource (.driver c.driverId)) = false :=
    valid.apart hcall hother hne (by simp [FleetCall.holds, ClaimStage.holds])
  have hvehicle : other.holds (.resource (.vehicle c.vehicleId)) = false :=
    valid.apart hcall hother hne (by simp [FleetCall.holds, ClaimStage.holds])
  cases other with
  | claim c' stage =>
    refine claim_fits_write fits hbooking ?_ ?_
    · -- The other claim has locked what it found free, and these locks are not this one's.
      intro resource hholds hfree
      refine free_write booked.holds ?_ ?_ hfree
      · rintro rfl
        exact absurd hholds (by simp [hdriver])
      · rintro rfl
        exact absurd hholds (by simp [hvehicle])
    · rintro row rfl hshown
      refine shown_write booked hflag (fun hsame => ?_) hshown
      have hforced := List.any_eq_false.mp waiter _ (List.mem_of_getElem? hother)
      simpa [FleetCall.forcedWaiter, hsame] using hforced
  | release r stage =>
    refine ⟨fits.1, release_fits_write fits.2 hbooking ?_⟩
    rintro seen rfl hsame hassigned
    obtain ⟨old, hold, hclaimable⟩ := booked.free
    have hkept := (fits.2.2 hassigned old (hsame ▸ hold)).1
    simp [hkept] at hclaimable
  | failed error => trivial
  | rolledBack => trivial
  | replayed => trivial
  | committed => trivial

end ClaimCommit

section ReleaseCommit

variable {booking : Booking} {vehicle : Option (ℕ × Vehicle)}

theorem fits_release_commit (valid : s.Valid)
    (hcall : s.calls[place]? = some (.release r (.done booking vehicle))) {q : ℕ}
    {other : FleetCall} (hother : s.calls[q]? = some other) (hne : q ≠ place) :
    other.Fits (s.tables.write r.bookingId booking vehicle) := by
  obtain ⟨_, ended, held⟩ := valid.calls place _ hcall
  have fits := valid.calls q other hother
  have hbooking : other.holds (.booking r.bookingId) = false :=
    valid.apart hcall hother hne (by cases vehicle <;> simp [FleetCall.holds, ReleaseStage.holds])
  cases other with
  | claim c' stage =>
    have free : ∀ resource, c'.Free s.tables resource →
        c'.Free (s.tables.write r.bookingId booking vehicle) resource :=
      fun resource hfree i hi => hfree i (FleetTables.holds_of_holds_write ended.1 hi).2
    refine claim_fits_write fits hbooking (fun resource _ => free resource) ?_
    intro row _ hshown
    obtain hfree | ⟨hforced, hflag⟩ := hshown
    · exact .inl (free _ hfree)
    by_cases hfreed : ∃ found, vehicle = some (c'.vehicleId, found)
    · -- The release had the vehicle, so nobody has it now.
      obtain ⟨found, hfound⟩ := hfreed
      refine .inl (fun i hi => ?_)
      obtain ⟨hi, hholds⟩ := FleetTables.holds_of_holds_write ended.1 hi
      exact absurd (valid.exclusive _ _ _ hholds (held _ hfound)) hi
    · refine .inr ⟨hforced, ?_⟩
      intro found hfound
      obtain hwritten | ⟨_, hfound⟩ := vehicles_write hfound
      · exact absurd ⟨found, hwritten⟩ hfreed
      · exact hflag found hfound
  | release r' stage =>
    refine ⟨fits.1, release_fits_write fits.2 hbooking ?_⟩
    intro seen _ _ _
    exact ⟨ended.2, fun h => by simp [ended.1] at h⟩
  | failed error => trivial
  | rolledBack => trivial
  | replayed => trivial
  | committed => trivial

end ReleaseCommit

variable {tables : FleetTables} {move : Move}

theorem exclusive_claim {booking : Booking} {vehicle : Option (ℕ × Vehicle)}
    (exclusive : tables.Exclusive) (booked : c.Booked tables booking)
    (hdriver : c.Free tables (.driver c.driverId))
      (hvehicle : c.Free tables (.vehicle c.vehicleId)) :
    (tables.write c.bookingId booking vehicle).Exclusive := by
  have free : ∀ i resource, tables.Holds i resource → booking.holds resource = true →
      i = c.bookingId := by
    intro i resource hi hholds
    obtain rfl | rfl := booked.holds resource hholds
    · exact hdriver i hi
    · exact hvehicle i hi
  intro i j resource hi hj
  rcases FleetTables.holds_write hi with ⟨hi, hholds⟩ | ⟨hi, hholds⟩ <;>
    obtain ⟨hj, hholds'⟩ | ⟨hj, hholds'⟩ := FleetTables.holds_write hj
  · rw [hi, hj]
  · exact absurd (free j resource hholds' hholds) hj
  · exact absurd (free i resource hholds hholds') hi
  · exact exclusive i j resource hholds hholds'

theorem exclusive_release {bookingId : ℕ} {booking : Booking}
    {vehicle : Option (ℕ × Vehicle)} (exclusive : tables.Exclusive)
    (ended : booking.active = false) : (tables.write bookingId booking vehicle).Exclusive := by
  intro i j resource hi hj
  exact exclusive i j resource (FleetTables.holds_of_holds_write ended hi).2
    (FleetTables.holds_of_holds_write ended hj).2

theorem Valid.commit (valid : s.Valid) (hcall : s.calls[place]? = some call)
    (exclusive : tables.Exclusive)
    (fits : ∀ q other, s.calls[q]? = some other → q ≠ place → other.Fits tables) :
    Valid { tables, calls := s.calls.set place .committed } where
  exclusive := exclusive
  locks := valid.locks.set hcall (fun row h => by simp [FleetCall.holds] at h)
  calls q other hother := by
    obtain ⟨_, rfl⟩ | ⟨hne, hother⟩ := getElem?_set_cases hother
    · trivial
    · exact fits q other hother hne

/-- The commit of a claim finds no forced claim in its update of the same vehicle. -/
def clear (s : Fleet) : Move → Bool
  | .commit place =>
    match s.calls[place]? with
    | some (.claim c (.vehicleUpdated _ _)) =>
      !s.calls.any (FleetCall.forcedWaiter c.vehicleId)
    | _ => true
  | _ => true

theorem commitCall_valid (valid : s.Valid) (hclear : s.clear (.commit place) = true) :
    (s.commitCall place).Valid := by
  unfold commitCall
  split
  · rename_i c booking vehicle hcall
    obtain ⟨booked, hdriver, hvehicle, _⟩ := valid.calls place _ hcall
    refine valid.commit hcall (exclusive_claim valid.exclusive booked hdriver hvehicle) ?_
    intro q other hother hne
    have waiter : s.calls.any (FleetCall.forcedWaiter c.vehicleId) = false := by
      simpa [clear, hcall] using hclear
    exact fits_claim_commit valid hcall waiter hother hne
  · rename_i r booking vehicle hcall
    obtain ⟨_, ended, _⟩ := valid.calls place _ hcall
    refine valid.commit hcall (exclusive_release valid.exclusive ended.1) ?_
    intro q other hother hne
    exact fits_release_commit valid hcall hother hne
  · exact valid

theorem terminalRelease_ended {status : BookingStatus} (h : status.terminalRelease = true) :
    status.activeAssignment = false ∧ status ≠ .confirmed := by
  cases status <;> simp_all [BookingStatus.terminalRelease, BookingStatus.activeAssignment]

theorem after_valid (valid : s.Valid) (hclear : s.clear move = true) :
    (s.after move).Valid := by
  cases move with
  | claim bookingId driverId vehicleId force actorIsAdmin =>
    simp only [after, beginClaim]
    split
    · exact valid.append trivial (fun _ => rfl)
    split
    · exact valid.append trivial (fun _ => rfl)
    · exact valid.append trivial (fun _ => rfl)
  | release bookingId terminalStatus =>
    simp only [after]
    split
    · rename_i hterminal
      exact valid.append ⟨terminalRelease_ended hterminal, trivial⟩ (fun _ => rfl)
    · exact valid.append trivial (fun _ => rfl)
  | releaseToNoMatch bookingId reason =>
    simp only [after]
    split
    · exact valid.append ⟨⟨rfl, by simp⟩, trivial⟩ (fun _ => rfl)
    · exact valid.append trivial (fun _ => rfl)
  | next place =>
    simp only [after]
    split
    · rename_i hcall
      exact claimNext_valid valid hcall
    · rename_i hcall
      exact releaseNext_valid valid hcall
    · exact valid
  | commit place => exact commitCall_valid valid hclear
  | abort place =>
    simp only [after, abortCall]
    split
    · rename_i hcall
      exact valid.setCall hcall trivial (fun row h => by simp [FleetCall.holds] at h)
    · rename_i hcall
      exact valid.setCall hcall trivial (fun row h => by simp [FleetCall.holds] at h)
    · exact valid

/-! ## Runs -/

/-- The call that a move belongs to. -/
def Move.callOf (s : Fleet) : Move → ℕ
  | .next place | .commit place | .abort place => place
  | _ => s.calls.length

/-- The call did not get through. -/
def failedAt (s : Fleet) (place : ℕ) : Bool :=
  match s.calls[place]? with
  | some (.failed _) | some .rolledBack => true
  | _ => false

theorem claimNext_eq (s : Fleet) (place : ℕ) (c : Claim) (stage : ClaimStage) :
    s.claimNext place c stage = s ∨ ∃ call, s.claimNext place c stage = s.setCall place call := by
  cases stage with
  | called =>
    simp only [claimNext]
    split
    · exact .inr ⟨_, rfl⟩
    split
    · exact .inr ⟨_, rfl⟩
    · exact .inl rfl
  | driverLocked =>
    simp only [claimNext]
    split
    · exact .inr ⟨_, rfl⟩
    split
    · exact .inr ⟨_, rfl⟩
    · exact .inl rfl
  | bookingUpdated booking | driverChecked booking =>
    simp only [claimNext]
    split
    · exact .inr ⟨_, rfl⟩
    · exact .inr ⟨_, rfl⟩
  | vehicleBegun booking =>
    simp only [claimNext]
    split
    · split
      · exact .inr ⟨_, rfl⟩
      · exact .inr ⟨_, rfl⟩
    · exact .inl rfl
  | vehicleUpdated booking vehicle => exact .inl rfl

theorem releaseNext_eq (s : Fleet) (place : ℕ) (r : Release) (stage : ReleaseStage) :
    s.releaseNext place r stage = s ∨
      ∃ call, s.releaseNext place r stage = s.setCall place call := by
  cases stage with
  | called =>
    simp only [releaseNext, releaseRead]
    repeat' split
    all_goals first
      | exact .inl rfl
      | exact .inr ⟨_, rfl⟩
  | read seen =>
    simp only [releaseNext, noMatchBooking, releaseBooking]
    repeat' split
    all_goals first
      | exact .inl rfl
      | exact .inr ⟨_, rfl⟩
  | bookingUpdated booking vehicleId =>
    cases vehicleId with
    | none => exact .inr ⟨_, rfl⟩
    | some vehicleId =>
      simp only [releaseNext]
      split
      · exact .inr ⟨_, rfl⟩
      · exact .inr ⟨_, rfl⟩
  | vehicleBegun booking vehicleId =>
    simp only [releaseNext]
    split
    · split
      · exact .inr ⟨_, rfl⟩
      · exact .inr ⟨_, rfl⟩
    · exact .inl rfl
  | done booking vehicle => exact .inl rfl

/-- Only a commit changes the tables. -/
theorem tables_eq (s : Fleet) (h : ∀ place, move ≠ .commit place) :
    (s.after move).tables = s.tables := by
  cases move with
  | claim | release | releaseToNoMatch => rfl
  | next place =>
    simp only [after]
    split
    · rename_i c stage _
      rcases claimNext_eq s place c stage with h | ⟨call, h⟩ <;> rw [h]
      rfl
    · rename_i r stage _
      rcases releaseNext_eq s place r stage with h | ⟨call, h⟩ <;> rw [h]
      rfl
    · rfl
  | abort place =>
    simp only [after, abortCall]
    split <;> rfl
  | commit place => exact absurd rfl (h place)

/-- A call that changes the tables is then committed. -/
theorem tables_after (s : Fleet) (move : Move) :
    (s.after move).tables = s.tables ∨
      (s.after move).calls[move.callOf s]? = some .committed := by
  cases move with
  | commit place =>
    simp only [after, commitCall, Move.callOf]
    split
    · rename_i hcall
      refine .inr ?_
      have := (List.getElem?_eq_some_iff.mp hcall).1
      simp [this]
    · rename_i hcall
      refine .inr ?_
      have := (List.getElem?_eq_some_iff.mp hcall).1
      simp [this]
    · exact .inl rfl
  | _ => exact .inl (tables_eq s (by simp))

theorem committed_after {q : ℕ} (move : Move) (h : s.calls[q]? = some .committed) :
    (s.after move).calls[q]? = some .committed := by
  have append : ∀ call, (s.calls ++ [call])[q]? = some .committed := by
    intro call
    rw [List.getElem?_append_left (List.getElem?_eq_some_iff.mp h).1]
    exact h
  have other : ∀ (place : ℕ) (call old : FleetCall), s.calls[place]? = some old →
      old ≠ .committed → (s.calls.set place call)[q]? = some .committed := by
    intro place call old hold hne
    have hq : place ≠ q := by
      rintro rfl
      exact hne (Option.some.inj (hold.symm.trans h))
    simpa [hq] using h
  cases move with
  | claim | release | releaseToNoMatch => exact append _
  | next place =>
    simp only [after]
    split
    · rename_i c stage hcall
      rcases claimNext_eq s place c stage with heq | ⟨call, heq⟩ <;> rw [heq]
      · exact h
      · exact other place call _ hcall (by simp)
    · rename_i r stage hcall
      rcases releaseNext_eq s place r stage with heq | ⟨call, heq⟩ <;> rw [heq]
      · exact h
      · exact other place call _ hcall (by simp)
    · exact h
  | abort place =>
    simp only [after, abortCall]
    split
    · rename_i hcall
      exact other place _ _ hcall (by simp)
    · rename_i hcall
      exact other place _ _ hcall (by simp)
    · exact h
  | commit place =>
    simp only [after, commitCall]
    split
    · rename_i hcall
      exact other place _ _ hcall (by simp)
    · rename_i hcall
      exact other place _ _ hcall (by simp)
    · exact h

/-- A vehicle that a move makes available is that of no active booking. -/
theorem available_after (valid : s.Valid) {id : ℕ} {before after' : Vehicle}
    (hbefore : s.tables.vehicles[id]? = some before)
    (hafter : (s.after move).tables.vehicles[id]? = some after')
    (unavailable : before.isAvailable = false) (available : after'.isAvailable = true) (i : ℕ) :
    ¬ (s.after move).tables.Holds i (.vehicle id) := by
  have changed : (s.after move).tables ≠ s.tables := by
    intro h
    rw [h, hbefore] at hafter
    cases hafter
    simp [unavailable] at available
  cases move with
  | commit place =>
    simp only [after, commitCall] at hafter changed ⊢
    split at hafter
    · rename_i c booking vehicle hcall
      obtain ⟨_, _, _, hflag⟩ := valid.calls place _ hcall
      obtain hwritten | ⟨_, hkept⟩ := vehicles_write hafter
      · rw [(Prod.mk.inj (Option.some.inj hwritten)).2] at hflag
        simp [hflag] at available
      · rw [hbefore] at hkept
        cases hkept
        simp [unavailable] at available
    · rename_i r booking vehicle hcall
      obtain ⟨_, ended, held⟩ := valid.calls place _ hcall
      obtain hwritten | ⟨_, hkept⟩ := vehicles_write hafter
      · simp only
        intro hholds
        obtain ⟨hne, hholds⟩ := FleetTables.holds_of_holds_write ended.1 hholds
        exact hne (valid.exclusive _ _ _ hholds (held _ hwritten))
      · rw [hbefore] at hkept
        cases hkept
        simp [unavailable] at available
    · rename_i hcall
      simp_all
  | _ => exact absurd (tables_eq s (by simp)) changed

theorem run_committed {t : Fleet} {moves : List Move} {q : ℕ} (run : Run step s moves t)
    (h : s.calls[q]? = some .committed) : t.calls[q]? = some .committed := by
  refine run.invariant (fun fleet => fleet.calls[q]? = some .committed) ?_ h
  rintro fleet move _ h rfl
  exact committed_after move h

/-- No call is under way and nobody is assigned twice. -/
def Idle (s : Fleet) : Prop := s.calls = [] ∧ s.tables.Exclusive

theorem Idle.valid (idle : s.Idle) : s.Valid where
  exclusive := idle.2
  locks := idle.1 ▸ oneHolder_nil
  calls place call hcall := by
    rw [idle.1] at hcall
    simp at hcall

theorem run_fleet_valid {t : Fleet} {moves : List Move}
    (run : Run (Guarded (fun s move => s.clear move = true) step) s moves t) (valid : s.Valid) :
    t.Valid := by
  refine run.invariant Valid ?_ valid
  rintro fleet move _ valid ⟨hclear, rfl⟩
  exact after_valid valid hclear

/-- Along every run in which no claim is committed while a forced claim is in its update of
the same vehicle: nobody is assigned twice, the moves of a call that does not get through
leave the tables as they are, and a vehicle becomes available only when no active booking
has it. -/
theorem assignment_exclusive {start s t final : Fleet} {before rest : List Move} {move : Move}
    (idle : start.Idle)
    (reached : Run (Guarded (fun s move => s.clear move = true) step) start before s)
    (here : Guarded (fun s move => s.clear move = true) step s move t)
    (later : Run (Guarded (fun s move => s.clear move = true) step) t rest final) :
    s.tables.Exclusive ∧ t.tables.Exclusive ∧
    (final.failedAt (move.callOf s) = true → t.tables = s.tables) ∧
    ∀ id old new, s.tables.vehicles[id]? = some old → t.tables.vehicles[id]? = some new →
      old.isAvailable = false → new.isAvailable = true → ∀ i, ¬ t.tables.Holds i (.vehicle id) := by
  have valid := run_fleet_valid reached idle.valid
  obtain ⟨hclear, rfl⟩ := here
  refine ⟨valid.exclusive, (after_valid valid hclear).exclusive, ?_, ?_⟩
  · intro hfailed
    rcases tables_after s move with h | h
    · exact h
    · simp [failedAt, run_committed later.of_guarded h] at hfailed
  · intro id old new hold hnew unavailable available
    exact available_after valid hold hnew unavailable available

/-- Two confirmed bookings, two drivers, one vehicle. -/
def twoBookings : Fleet :=
  { tables :=
      { bookings := [{ status := .confirmed }, { status := .confirmed }]
        drivers := [{ isOnline := true }, { isOnline := true }]
        vehicles := [{ isAvailable := true }] } }

theorem twoBookings_idle : twoBookings.Idle := by
  refine ⟨rfl, ?_⟩
  rintro i j resource ⟨booking, hbooking, hholds⟩ _
  have hmem := List.mem_of_getElem? hbooking
  simp only [twoBookings, List.mem_cons, List.not_mem_nil, or_false, or_self] at hmem
  subst hmem
  cases resource <;> simp [Booking.holds, Booking.active, BookingStatus.activeAssignment] at hholds

/-- Both bookings are claimed with the vehicle; the second claim is in its update of the
vehicle when the first is ready to commit. -/
def raceFor (force : Bool) : List Move :=
  [.claim 0 0 0 force true, .claim 1 1 0 force true,
    .next 0, .next 0, .next 0, .next 0, .next 0, .next 1, .next 1, .next 1, .next 1]

/-- Without force the second claim fails when it goes on. -/
theorem assignment_exclusive_race :
    let s := (raceFor false).foldl after twoBookings
    let t := s.after (.commit 0)
    let final := t.after (.next 1)
    final.failedAt 1 = true ∧ t.tables.vehicles = [{ isAvailable := false }] ∧
      s.tables.Exclusive ∧ t.tables.Exclusive := by
  intro s t final
  have reached : Run (Guarded (fun s move => s.clear move = true) step) twoBookings
      (raceFor false) s := by
    repeat' refine .cons ⟨rfl, rfl⟩ ?_
    exact .nil _
  have here : Guarded (fun s move => s.clear move = true) step s (.commit 0) t :=
    ⟨by decide +kernel, rfl⟩
  have later : Run (Guarded (fun s move => s.clear move = true) step) t [.next 1] final :=
    .single ⟨rfl, rfl⟩
  have h := assignment_exclusive twoBookings_idle reached here later
  exact ⟨by decide +kernel, by decide +kernel, h.1, h.2.1⟩

/-- With force it does not look at the flag, and the bookings it looked for are those
before the first claim was committed. -/
theorem vehicle_assigned_twice :
    ¬ ∀ (start final : Fleet) (moves : List Move), start.Idle → Run step start moves final →
      final.tables.Exclusive := by
  intro h
  have exclusive := h twoBookings _ (raceFor true ++ [.commit 0, .next 1, .commit 1])
    twoBookings_idle (Run.foldl after _ _)
  have twice : (0 : ℕ) = 1 := by
    refine exclusive 0 1 (.vehicle 0) ?_ ?_
    · exact ⟨⟨.assigned, some 0, some 0, false⟩, by decide +kernel, by decide +kernel⟩
    · exact ⟨⟨.assigned, some 1, some 0, false⟩, by decide +kernel, by decide +kernel⟩
  cases twice

end Fleet

end Afcon360.Transport
