import Afcon360.Foundation.Run
import Afcon360.Transport.SeatReservation

/-!
# Who owns a seat

In every state that contract calls reach, an event assignment has at most one active
reservation and no booking has more active reservations than seats. A call made for one
assignment leaves the reservations of another as they were unless the passenger it finds by
email or user id on its booking belongs to that other assignment: the row is then tagged
anew, whoever owned it.
-/

namespace Afcon360.Transport

open Foundation TransportPassenger

variable {fleet : EventFleet} {search : FirstRow TransportPassenger} {tables : SeatTables}
variable {call : EnsureSeat} {bookingId i : ℕ} {booking : CoordinatedBooking}
variable {eventId : Option ℕ}
variable {rows rows' : List TransportPassenger} {passenger : TransportPassenger}

variable {row : TransportPassenger} {result : SeatResult}

/-! ## What a call does to the passengers -/

theorem EnsureSeat.findPassenger_seated
    (h : call.findPassenger search bookingId rows = some (i, passenger)) :
    rows[i]? = some passenger ∧ passenger.seated bookingId = true := by
  unfold findPassenger at h
  cases hemail : search.first (call.matchesEmail bookingId) rows with
  | some found =>
    rw [hemail] at h
    cases h
    obtain ⟨hrow, hmatch⟩ := FirstRow.first_eq_some hemail
    exact ⟨hrow, (Bool.and_eq_true_iff.mp hmatch).1⟩
  | none =>
    rw [hemail] at h
    obtain ⟨hrow, hmatch⟩ := FirstRow.first_eq_some h
    exact ⟨hrow, (Bool.and_eq_true_iff.mp hmatch).1⟩

/-- The passengers after a placement: one row reserved, or a new one added. -/
inductive Placed (call : EnsureSeat) (search : FirstRow TransportPassenger) (bookingId : ℕ)
    (rows : List TransportPassenger) : List TransportPassenger → Prop
  | reused {i : ℕ} {passenger : TransportPassenger} :
      call.findPassenger search bookingId rows = some (i, passenger) →
      Placed call search bookingId rows (rows.modify i call.reserve)
  | added : call.findPassenger search bookingId rows = none →
      Placed call search bookingId rows (rows ++ [call.reserve (call.fresh bookingId)])

theorem EnsureSeat.place_eq_ok
    (h : call.place search bookingId booking rows = .ok (result, rows')) :
    Placed call search bookingId rows rows' ∧
      rows'.countP (seated bookingId) ≤ booking.passengerCount := by
  unfold place at h
  cases hfind : call.findPassenger search bookingId rows with
  | some found =>
    simp only [hfind] at h
    split at h
    · rename_i hfits
      cases h
      exact ⟨.reused hfind, hfits⟩
    · cases h
  | none =>
    simp only [hfind] at h
    split at h
    · rename_i hfits
      cases h
      exact ⟨.added hfind, hfits⟩
    · cases h

/-- The passengers after a call that returns: the reservation of the assignment was there,
or a passenger was placed once no other row holds for the assignment. -/
inductive Seated (call : EnsureSeat) (search : FirstRow TransportPassenger) (bookingId : ℕ)
    (booking : CoordinatedBooking) (rows : List TransportPassenger) :
    List TransportPassenger → Prop
  | current {i : ℕ} {existing : TransportPassenger} :
      call.current search rows = some (i, existing) → existing.bookingId = bookingId →
      Seated call search bookingId booking rows (rows.modify i call.applyIdentity)
  | moved {i : ℕ} {existing : TransportPassenger} {rows' : List TransportPassenger} :
      call.current search rows = some (i, existing) → existing.bookingId ≠ bookingId →
      Placed call search bookingId (rows.modify i call.retired) rows' →
      rows'.countP (seated bookingId) ≤ booking.passengerCount →
      Seated call search bookingId booking rows rows'
  | placed {rows' : List TransportPassenger} :
      call.current search rows = none →
      Placed call search bookingId rows rows' →
      rows'.countP (seated bookingId) ≤ booking.passengerCount →
      Seated call search bookingId booking rows rows'

theorem EnsureSeat.seat_eq_ok (h : call.seat search bookingId booking rows = .ok (result, rows')) :
    Seated call search bookingId booking rows rows' := by
  unfold seat at h
  cases hcurrent : call.current search rows with
  | some found =>
    simp only [hcurrent] at h
    split at h
    · rename_i hhere
      cases h
      exact .current hcurrent hhere
    · rename_i helse
      obtain ⟨hplaced, hfits⟩ := place_eq_ok h
      exact .moved hcurrent helse hplaced hfits
  | none =>
    simp only [hcurrent] at h
    obtain ⟨hplaced, hfits⟩ := place_eq_ok h
    exact .placed hcurrent hplaced hfits

theorem loadBooking_eq_ok {bookings : List CoordinatedBooking} {reference : String}
    (h : loadBooking bookings reference = .ok (bookingId, booking)) :
    bookings[bookingId]? = some booking := by
  obtain ⟨-, h⟩ := check_bind_eq_ok.mp h
  split at h
  · rename_i hfound
    cases h
    obtain ⟨id, -, hrow⟩ := Option.bind_eq_some_iff.mp hfound
    obtain ⟨row, hid, hrow⟩ := Option.bind_eq_some_iff.mp hrow
    split at hrow
    · cases hrow
    · cases hrow
      exact hid
  · cases h

/-- What a call checks before it looks at passengers. -/
def EnsureSeat.Accepted (call : EnsureSeat) (fleet : EventFleet) (tables : SeatTables)
    (bookingId : ℕ) (booking : CoordinatedBooking) (eventId : Option ℕ) : Prop :=
  loadBooking tables.bookings call.bookingReference = .ok (bookingId, booking) ∧
    validateBooking fleet bookingId booking = .ok () ∧ call.tagEvent booking = .ok eventId

variable {tables' : SeatTables}

theorem ensurePassengerReservation_eq_ok :
    ensurePassengerReservation fleet search tables call = .ok (result, tables') ↔
      ∃ bookingId booking eventId passengers,
        call.Accepted fleet tables bookingId booking eventId ∧
        call.seat search bookingId booking tables.passengers = .ok (result, passengers) ∧
        tables' =
          ⟨tables.bookings.set bookingId { booking with eventId := eventId }, passengers⟩ := by
  constructor
  · intro h
    obtain ⟨⟨bookingId, booking⟩, hload, h⟩ := bind_eq_ok.mp h
    obtain ⟨hvalid, h⟩ := check_bind_eq_ok.mp h
    obtain ⟨eventId, htag, h⟩ := bind_eq_ok.mp h
    obtain ⟨⟨result', passengers⟩, hseat, h⟩ := bind_eq_ok.mp h
    cases h
    exact ⟨bookingId, booking, eventId, passengers, ⟨hload, hvalid, htag⟩, hseat, rfl⟩
  · rintro ⟨bookingId, booking, eventId, passengers, ⟨hload, hvalid, htag⟩, hseat, rfl⟩
    refine bind_eq_ok.mpr ⟨_, hload, check_bind_eq_ok.mpr ⟨hvalid, ?_⟩⟩
    exact bind_eq_ok.mpr ⟨_, htag, bind_eq_ok.mpr ⟨_, hseat, rfl⟩⟩

theorem EnsureSeat.current_eq_some {existing : TransportPassenger}
    (h : call.current search rows = some (i, existing)) :
    ∃ assignmentId, call.eventAssignmentId = some assignmentId ∧
      rows[i]? = some existing ∧ existing.holdsFor assignmentId = true := by
  obtain ⟨assignmentId, hassignment, hfirst⟩ := Option.bind_eq_some_iff.mp h
  exact ⟨assignmentId, hassignment, FirstRow.first_eq_some hfirst⟩

/-- The assignment of the call has no active reservation. -/
def EnsureSeat.Free (call : EnsureSeat) (rows : List TransportPassenger) : Prop :=
  ∀ assignmentId, call.eventAssignmentId = some assignmentId →
    ∀ row ∈ rows, row.holdsFor assignmentId = false

theorem EnsureSeat.free_of_current_eq_none (h : call.current search rows = none) :
    call.Free rows := by
  intro assignmentId hassignment
  unfold current at h
  rw [hassignment] at h
  exact FirstRow.first_eq_none h

/-! ## The seats that the written rows stand for -/

@[simp] theorem active_retire (metadata : Json.Fields) (row : TransportPassenger) :
    (retire metadata row).active = false := by
  simp [retire, active]

@[simp] theorem holdsFor_retire (metadata : Json.Fields) (row : TransportPassenger) (a : ℕ) :
    (retire metadata row).holdsFor a = false := by
  simp [holdsFor]

@[simp] theorem seated_retire (metadata : Json.Fields) (row : TransportPassenger) (id : ℕ) :
    (retire metadata row).seated id = false := by
  simp [seated]

theorem eventAssignmentId_reserve (call : EnsureSeat) (row : TransportPassenger) :
    (call.reserve row).eventAssignmentId = call.eventAssignmentId.or row.eventAssignmentId := rfl

theorem bookingId_of_seated {id : ℕ} (h : row.seated id = true) :
    row.bookingId = id := by
  simpa using (Bool.and_eq_true_iff.mp h).1

theorem active_of_seated {id : ℕ} (h : row.seated id = true) :
    row.active = true := (Bool.and_eq_true_iff.mp h).2

theorem eventAssignmentId_of_holdsFor {a : ℕ}
    (h : row.holdsFor a = true) : row.eventAssignmentId = some a := by
  simpa using (Bool.and_eq_true_iff.mp h).1

/-- A reserved row holds for the call's assignment, or for whom the row held. -/
theorem holdsFor_reserve {a : ℕ} (hactive : row.active = true)
    (h : (call.reserve row).holdsFor a = true) :
    row.holdsFor a = true ∨ call.eventAssignmentId = some a := by
  have htag := eventAssignmentId_of_holdsFor h
  rw [eventAssignmentId_reserve] at htag
  cases hcall : call.eventAssignmentId with
  | none =>
    rw [hcall] at htag
    exact .inl (Bool.and_eq_true_iff.mpr ⟨by simpa using htag, hactive⟩)
  | some assignmentId =>
    rw [hcall] at htag
    exact .inr htag

theorem releasePassengerForGuest_eq_ok {call : ReleaseGuest} {released : Bool}
    (h : releasePassengerForGuest tables call = .ok (released, tables')) :
    ∃ bookingId, tables' = (releaseWhere tables (call.isGuest bookingId)
      (releaseMetadata call.now call.reason call.removedByUserId)).2 := by
  obtain ⟨⟨bookingId, booking⟩, -, h⟩ := bind_eq_ok.mp h
  obtain ⟨-, h⟩ := check_bind_eq_ok.mp h
  exact ⟨bookingId, (congrArg Prod.snd (pure_eq_ok.mp h)).symm⟩

/-! ## One active reservation for an assignment -/

/-- No two rows hold for one assignment. -/
def Single (rows : List TransportPassenger) : Prop :=
  ∀ (i j : ℕ) (row other : TransportPassenger) (a : ℕ), rows[i]? = some row →
    rows[j]? = some other → row.holdsFor a = true → other.holdsFor a = true → i = j

namespace Single

/-- At most row `k` holds newly, and only for an assignment that had no reservation. -/
theorem of_new {k : ℕ} (h : Single rows) (hfree : call.Free rows)
    (hold : ∀ (j : ℕ) (row : TransportPassenger) (a : ℕ), rows'[j]? = some row →
      row.holdsFor a = true → (∃ old, rows[j]? = some old ∧ old.holdsFor a = true) ∨
        j = k ∧ call.eventAssignmentId = some a) :
    Single rows' := by
  intro i j first second a hi hj hfirst hsecond
  obtain ⟨p, hp, hpa⟩ | ⟨rfl, hnew⟩ := hold i first a hi hfirst
  · obtain ⟨q, hq, hqa⟩ | ⟨rfl, hnew⟩ := hold j second a hj hsecond
    · exact h i j p q a hp hq hpa hqa
    · rw [hfree a hnew p (List.mem_of_getElem? hp)] at hpa
      cases hpa
  · obtain ⟨q, hq, hqa⟩ | ⟨rfl, -⟩ := hold j second a hj hsecond
    · rw [hfree a hnew q (List.mem_of_getElem? hq)] at hqa
      cases hqa
    · rfl

theorem of_old (h : Single rows)
    (hold : ∀ (j : ℕ) (row : TransportPassenger) (a : ℕ), rows'[j]? = some row →
      row.holdsFor a = true → ∃ old, rows[j]? = some old ∧ old.holdsFor a = true) :
    Single rows' := by
  intro i j first second a hi hj hfirst hsecond
  obtain ⟨p, hp, hpa⟩ := hold i first a hi hfirst
  obtain ⟨q, hq, hqa⟩ := hold j second a hj hsecond
  exact h i j p q a hp hq hpa hqa

theorem modify {f : TransportPassenger → TransportPassenger} (h : Single rows)
    (hold : ∀ (row : TransportPassenger) (a : ℕ), (f row).holdsFor a = true →
      row.holdsFor a = true) : Single (rows.modify i f) := by
  refine h.of_old fun j row a hrow ha => ?_
  obtain ⟨rfl, old, hold', rfl⟩ | ⟨-, hrow⟩ := getElem?_modify_cases hrow
  · exact ⟨old, hold', hold old a ha⟩
  · exact ⟨row, hrow, ha⟩

theorem placed (h : Single rows) (hfree : call.Free rows)
    (hplaced : Placed call search bookingId rows rows') : Single rows' := by
  cases hplaced with
  | @reused k passenger hfind =>
    obtain ⟨hrow, hseated⟩ := EnsureSeat.findPassenger_seated hfind
    refine h.of_new hfree (k := k) fun j row a hget ha => ?_
    obtain ⟨rfl, old, hold, rfl⟩ | ⟨-, hget⟩ := getElem?_modify_cases hget
    · rw [hrow] at hold
      cases hold
      obtain hbefore | hnew := holdsFor_reserve (active_of_seated hseated) ha
      · exact .inl ⟨_, hrow, hbefore⟩
      · exact .inr ⟨rfl, hnew⟩
    · exact .inl ⟨row, hget, ha⟩
  | added hfind =>
    refine h.of_new hfree (k := rows.length) fun j row a hget ha => ?_
    obtain hget | ⟨rfl, rfl⟩ := getElem?_append_cases hget
    · exact .inl ⟨row, hget, ha⟩
    · have htag := eventAssignmentId_of_holdsFor ha
      rw [eventAssignmentId_reserve] at htag
      exact .inr ⟨rfl, by simpa [EnsureSeat.fresh] using htag⟩

theorem free_retired {existing : TransportPassenger} (h : Single rows)
    (hcurrent : call.current search rows = some (i, existing)) :
    call.Free (rows.modify i call.retired) := by
  obtain ⟨a, hassignment, hrow, hholds⟩ := EnsureSeat.current_eq_some hcurrent
  intro assignmentId hcall row hmem
  rw [hassignment] at hcall
  cases hcall
  obtain ⟨j, hj⟩ := List.mem_iff_getElem?.mp hmem
  obtain ⟨rfl, old, -, rfl⟩ | ⟨hne, hj⟩ := getElem?_modify_cases hj
  · exact holdsFor_retire _ _ _
  · by_contra hother
    exact hne (h j i row existing a hj hrow (by simpa using hother) hholds)

theorem seated (h : Single rows) (hseated : Seated call search bookingId booking rows rows') :
    Single rows' := by
  cases hseated with
  | current hcurrent hhere => exact h.modify fun row a ha => ha
  | @moved i _ _ hcurrent helse hplaced hfits =>
    have hretired : Single (rows.modify i call.retired) :=
      h.modify fun row a ha => by simp [EnsureSeat.retired] at ha
    exact hretired.placed (h.free_retired hcurrent) hplaced
  | placed hcurrent hplaced hfits =>
    exact h.placed (EnsureSeat.free_of_current_eq_none hcurrent) hplaced

end Single

/-! ## No more seats than the booking has -/

/-- No booking has more active reservations than seats. -/
def Fits (bookings : List CoordinatedBooking) (rows : List TransportPassenger) : Prop :=
  ∀ (id : ℕ) (booking : CoordinatedBooking), bookings[id]? = some booking →
    rows.countP (seated id) ≤ booking.passengerCount

theorem Placed.countP_le {id : ℕ} (h : Placed call search bookingId rows rows')
    (hother : id ≠ bookingId) : rows'.countP (seated id) ≤ rows.countP (seated id) := by
  cases h with
  | @reused k passenger hfind =>
    obtain ⟨hrow, hseated⟩ := EnsureSeat.findPassenger_seated hfind
    refine countP_modify_le fun old hold hnew => ?_
    rw [hrow] at hold
    cases hold
    have hid : (call.reserve passenger).bookingId = id := bookingId_of_seated hnew
    have hhere : passenger.bookingId = bookingId := bookingId_of_seated hseated
    exact absurd (hid.symm.trans hhere) hother
  | added hfind =>
    have hfresh : (call.reserve (call.fresh bookingId)).seated id = false := by
      by_contra hnew
      exact hother (bookingId_of_seated (by simpa using hnew)).symm
    simp [List.countP_append, hfresh]

theorem Seated.countP_le (h : Seated call search bookingId booking rows rows') (id : ℕ) :
    rows'.countP (seated id) ≤ rows.countP (seated id) ∨
      id = bookingId ∧ rows'.countP (seated id) ≤ booking.passengerCount := by
  cases h with
  | current hcurrent hhere => exact .inl (countP_modify_le fun old _ hnew => hnew)
  | @moved i _ _ hcurrent helse hplaced hfits =>
    by_cases hid : id = bookingId
    · subst hid
      exact .inr ⟨rfl, hfits⟩
    · have hretired : (rows.modify i call.retired).countP (seated id) ≤
          rows.countP (seated id) :=
        countP_modify_le fun old _ hnew => by simp [EnsureSeat.retired] at hnew
      exact .inl ((hplaced.countP_le hid).trans hretired)
  | placed hcurrent hplaced hfits =>
    by_cases hid : id = bookingId
    · subst hid
      exact .inr ⟨rfl, hfits⟩
    · exact .inl (hplaced.countP_le hid)

/-! ## Every state reached -/

/-- An assignment has at most one active reservation, and every booking seats for all. -/
structure Coherent (tables : SeatTables) : Prop where
  single : Single tables.passengers
  fits : Fits tables.bookings tables.passengers

namespace Coherent

theorem ensure {result : SeatResult} {tables' : SeatTables} (h : Coherent tables)
    (hensure : ensurePassengerReservation fleet search tables call = .ok (result, tables')) :
    Coherent tables' := by
  obtain ⟨bookingId, booking, eventId, passengers, haccepted, hseat, rfl⟩ :=
    ensurePassengerReservation_eq_ok.mp hensure
  have hseated := EnsureSeat.seat_eq_ok hseat
  refine ⟨h.single.seated hseated, fun id row hrow => ?_⟩
  have hbooking := loadBooking_eq_ok haccepted.1
  have hold : ∃ old, tables.bookings[id]? = some old ∧
      old.passengerCount = row.passengerCount := by
    obtain ⟨rfl, rfl⟩ | ⟨-, hrow⟩ := getElem?_set_cases hrow
    · exact ⟨booking, hbooking, rfl⟩
    · exact ⟨row, hrow, rfl⟩
  obtain ⟨old, hold, hcount⟩ := hold
  obtain hle | ⟨rfl, hle⟩ := hseated.countP_le id
  · calc passengers.countP (seated id)
        ≤ tables.passengers.countP (seated id) := hle
      _ ≤ old.passengerCount := h.fits id old hold
      _ = row.passengerCount := hcount
  · rw [hbooking] at hold
    cases hold
    exact hle.trans hcount.le

theorem releaseWhere (h : Coherent tables) (condition : TransportPassenger → Bool)
    (metadata : Json.Fields) :
    Coherent (releaseWhere tables condition metadata).2 := by
  unfold Transport.releaseWhere
  split
  · refine ⟨h.single.of_old fun j row a hrow ha => ?_, fun id booking hbooking => ?_⟩
    · rw [List.getElem?_map] at hrow
      obtain ⟨old, hold, rfl⟩ := Option.map_eq_some_iff.mp hrow
      split at ha
      · simp at ha
      · exact ⟨old, hold, ha⟩
    · rw [List.countP_map]
      refine (List.countP_mono_left fun row _ hrow => ?_).trans (h.fits id booking hbooking)
      simp only [Function.comp_apply] at hrow
      split at hrow
      · simp at hrow
      · exact hrow
  · exact h

theorem next (h : Coherent tables) (step : SeatCall × FirstRow TransportPassenger) :
    Coherent (seatNext fleet tables step) := by
  obtain ⟨seatCall, search⟩ := step
  cases seatCall with
  | ensure call =>
    unfold seatNext
    dsimp only
    split
    · rename_i hensure
      exact h.ensure hensure
    · exact h
  | release call =>
    unfold seatNext releasePassenger
    dsimp only
    split
    · exact h
    · exact h.releaseWhere _ _
  | releaseGuest call =>
    unfold seatNext
    dsimp only
    split
    · rename_i hrelease
      obtain ⟨bookingId, rfl⟩ := releasePassengerForGuest_eq_ok hrelease
      exact h.releaseWhere _ _
    · exact h

theorem run (h : Coherent tables) (calls : List (SeatCall × FirstRow TransportPassenger)) :
    Coherent (calls.foldl (seatNext fleet) tables) := by
  refine (Run.foldl (seatNext fleet) tables calls).invariant Coherent ?_ h
  rintro before step _ hbefore rfl
  exact hbefore.next step

end Coherent

/-! ## The reservations of other assignments -/

/-- The rows that belong to the assignment are the same. -/
def SameReservations (assignmentId : ℕ) (rows rows' : List TransportPassenger) : Prop :=
  ∀ (i : ℕ) (row : TransportPassenger), row.eventAssignmentId = some assignmentId →
    (rows[i]? = some row ↔ rows'[i]? = some row)

namespace SameReservations

variable {a : ℕ}

theorem refl (rows : List TransportPassenger) : SameReservations a rows rows :=
  fun _ _ _ => Iff.rfl

theorem trans {middle : List TransportPassenger} (first : SameReservations a rows middle)
    (second : SameReservations a middle rows') : SameReservations a rows rows' :=
  fun i row hrow => (first i row hrow).trans (second i row hrow)

/-- A row that is not the assignment's is rewritten and does not become so. -/
theorem modify {f : TransportPassenger → TransportPassenger}
    (h : ∀ old, rows[i]? = some old → f old = old ∨
      old.eventAssignmentId ≠ some a ∧ (f old).eventAssignmentId ≠ some a) :
    SameReservations a rows (rows.modify i f) := by
  intro j row hrow
  rw [List.getElem?_modify]
  by_cases hj : i = j
  · subst hj
    cases hold : rows[i]? with
    | none => simp
    | some old =>
      simp only [if_true, Option.map_eq_map, Option.map_some, Option.some.injEq]
      obtain hsame | ⟨hbefore, hafter⟩ := h old hold
      · rw [hsame]
      · constructor
        · rintro rfl
          exact absurd hrow hbefore
        · rintro rfl
          exact absurd hrow hafter
  · simp [hj]

theorem modify_other {f : TransportPassenger → TransportPassenger} {old : TransportPassenger}
    (hrow : rows[i]? = some old) (hold : old.eventAssignmentId ≠ some a)
    (hkeeps : (f old).eventAssignmentId = old.eventAssignmentId) :
    SameReservations a rows (rows.modify i f) := by
  refine modify fun row hget => ?_
  rw [hrow] at hget
  cases hget
  exact .inr ⟨hold, by rwa [hkeeps]⟩

theorem append {new : TransportPassenger} (h : new.eventAssignmentId ≠ some a) :
    SameReservations a rows (rows ++ [new]) := by
  intro j row hrow
  constructor
  · intro hget
    rw [List.getElem?_append_left (List.getElem?_eq_some_iff.mp hget).1]
    exact hget
  · intro hget
    obtain hget | ⟨-, rfl⟩ := getElem?_append_cases hget
    · exact hget
    · exact absurd hrow h

/-- Only rows that are not the assignment's are retired. -/
theorem map_retire {condition : TransportPassenger → Bool} {metadata : Json.Fields}
    (h : ∀ row, condition row = true → row.eventAssignmentId ≠ some a) :
    SameReservations a rows
      (rows.map fun row => if condition row then retire metadata row else row) := by
  intro j row hrow
  rw [List.getElem?_map]
  cases hold : rows[j]? with
  | none => simp
  | some old =>
    simp only [Option.map_some, Option.some.injEq]
    by_cases hcondition : condition old = true
    · rw [if_pos hcondition]
      constructor
      · rintro rfl
        exact absurd hrow (h _ hcondition)
      · rintro rfl
        exact absurd hrow (h old hcondition)
    · rw [if_neg hcondition]

end SameReservations

/-! ## The passenger that a call finds -/

namespace EnsureSeat

theorem seated_of_matchesEmail (h : call.matchesEmail bookingId passenger = true) :
    passenger.seated bookingId = true := (Bool.and_eq_true_iff.mp h).1

theorem seated_of_matchesUser (h : call.matchesUser bookingId passenger = true) :
    passenger.seated bookingId = true := (Bool.and_eq_true_iff.mp h).1

/-- Some order of the rows lets the call find the passenger: by email, or by user id where
nobody on the booking has the email. -/
def Candidate (call : EnsureSeat) (bookingId : ℕ) (rows : List TransportPassenger)
    (passenger : TransportPassenger) : Prop :=
  call.matchesEmail bookingId passenger = true ∨
    (∀ row ∈ rows, call.matchesEmail bookingId row = false) ∧
      call.matchesUser bookingId passenger = true

theorem Candidate.seated (h : call.Candidate bookingId rows passenger) :
    passenger.seated bookingId = true := by
  obtain hemail | ⟨-, huser⟩ := h
  · exact seated_of_matchesEmail hemail
  · exact seated_of_matchesUser huser

theorem candidate_of_findPassenger
    (h : call.findPassenger search bookingId rows = some (i, passenger)) :
    call.Candidate bookingId rows passenger := by
  unfold findPassenger at h
  cases hemail : search.first (call.matchesEmail bookingId) rows with
  | some found =>
    rw [hemail] at h
    cases h
    exact .inl (FirstRow.first_eq_some hemail).2
  | none =>
    rw [hemail] at h
    exact .inr ⟨FirstRow.first_eq_none hemail, (FirstRow.first_eq_some h).2⟩

theorem findPassenger_preferring (hrow : rows[i]? = some passenger)
    (h : call.Candidate bookingId rows passenger) :
    call.findPassenger (.preferring i) bookingId rows = some (i, passenger) := by
  unfold findPassenger
  obtain hemail | ⟨hnone, huser⟩ := h
  · rw [FirstRow.first_preferring hrow hemail]
    rfl
  · rw [FirstRow.first_of_absent hnone, FirstRow.first_preferring hrow huser]
    rfl

/-- Retiring a reservation that is not on the booking changes no candidate. -/
theorem candidate_retired {existing : TransportPassenger} (hrow : rows[i]? = some existing)
    (helse : existing.bookingId ≠ bookingId) :
    passenger ∈ rows.modify i call.retired ∧
        call.Candidate bookingId (rows.modify i call.retired) passenger ↔
      passenger ∈ rows ∧ call.Candidate bookingId rows passenger := by
  have hmem : ∀ row : TransportPassenger, row.seated bookingId = true →
      (row ∈ rows.modify i call.retired ↔ row ∈ rows) := by
    intro row hseated
    rw [List.mem_iff_getElem?, List.mem_iff_getElem?]
    constructor
    · rintro ⟨j, hj⟩
      obtain ⟨rfl, old, -, rfl⟩ | ⟨-, hj⟩ := getElem?_modify_cases hj
      · rw [retired, seated_retire] at hseated
        cases hseated
      · exact ⟨j, hj⟩
    · rintro ⟨j, hj⟩
      have hne : i ≠ j := by
        rintro rfl
        rw [hrow] at hj
        cases hj
        exact helse (bookingId_of_seated hseated)
      exact ⟨j, by simpa [List.getElem?_modify, hne] using hj⟩
  have hnone : (∀ row ∈ rows.modify i call.retired, call.matchesEmail bookingId row = false) ↔
      ∀ row ∈ rows, call.matchesEmail bookingId row = false := by
    constructor
    · intro h row hrow
      by_contra hmatch
      have hseated := seated_of_matchesEmail (by simpa using hmatch)
      exact hmatch (h row ((hmem row hseated).mpr hrow))
    · intro h row hrow
      by_contra hmatch
      have hseated := seated_of_matchesEmail (by simpa using hmatch)
      exact hmatch (h row ((hmem row hseated).mp hrow))
  unfold Candidate
  rw [hnone]
  constructor
  · rintro ⟨hpassenger, hcandidate⟩
    exact ⟨(hmem _ (Candidate.seated hcandidate)).mp hpassenger, hcandidate⟩
  · rintro ⟨hpassenger, hcandidate⟩
    exact ⟨(hmem _ (Candidate.seated hcandidate)).mpr hpassenger, hcandidate⟩

/-- Where the call gets to look for a passenger, none it can find is another assignment's,
unless reserving the row leaves it as it is. -/
def Clear (call : EnsureSeat) (fleet : EventFleet) (tables : SeatTables) : Prop :=
  ∀ bookingId booking eventId, call.Accepted fleet tables bookingId booking eventId →
    (∀ a, call.eventAssignmentId = some a → ∀ row ∈ tables.passengers,
      row.holdsFor a = true → row.bookingId ≠ bookingId) →
    ∀ passenger ∈ tables.passengers, call.Candidate bookingId tables.passengers passenger →
      ∀ a, passenger.eventAssignmentId = some a → call.eventAssignmentId ≠ some a →
        call.reserve passenger = passenger

end EnsureSeat

theorem Placed.same {a : ℕ} (h : Placed call search bookingId rows rows')
    (hcall : call.eventAssignmentId ≠ some a)
    (hclear : ∀ passenger ∈ rows, call.Candidate bookingId rows passenger →
      passenger.eventAssignmentId = some a → call.reserve passenger = passenger) :
    SameReservations a rows rows' := by
  cases h with
  | @reused k passenger hfind =>
    obtain ⟨hrow, -⟩ := EnsureSeat.findPassenger_seated hfind
    have hcandidate := EnsureSeat.candidate_of_findPassenger hfind
    refine .modify fun old hold => ?_
    rw [hrow] at hold
    cases hold
    by_cases htag : passenger.eventAssignmentId = some a
    · exact .inl (hclear passenger (List.mem_of_getElem? hrow) hcandidate htag)
    · refine .inr ⟨htag, ?_⟩
      rw [eventAssignmentId_reserve]
      cases hassignment : call.eventAssignmentId with
      | none => simpa using htag
      | some b => rwa [hassignment] at hcall
  | added hfind =>
    refine .append ?_
    rw [eventAssignmentId_reserve]
    simpa [EnsureSeat.fresh] using hcall

/-- A clear call leaves the reservations of every other assignment. -/
theorem EnsureSeat.Clear.same {a : ℕ} {result : SeatResult}
    (hclear : call.Clear fleet tables) (hcall : call.eventAssignmentId ≠ some a)
    (h : Coherent tables)
    (hensure : ensurePassengerReservation fleet search tables call = .ok (result, tables')) :
    SameReservations a tables.passengers tables'.passengers := by
  obtain ⟨bookingId, booking, eventId, passengers, haccepted, hseat, rfl⟩ :=
    ensurePassengerReservation_eq_ok.mp hensure
  have hclear := hclear bookingId booking eventId haccepted
  cases seat_eq_ok hseat with
  | current hcurrent hhere =>
    obtain ⟨own, hown, hrow, hholds⟩ := current_eq_some hcurrent
    have htag := eventAssignmentId_of_holdsFor hholds
    exact .modify_other hrow (by rwa [htag, ← hown]) rfl
  | @moved i existing _ hcurrent helse hplaced hfits =>
    obtain ⟨own, hown, hrow, hholds⟩ := current_eq_some hcurrent
    have htag := eventAssignmentId_of_holdsFor hholds
    have hretired : SameReservations a tables.passengers
        (tables.passengers.modify i call.retired) :=
      .modify_other hrow (by rwa [htag, ← hown]) rfl
    refine hretired.trans (hplaced.same hcall fun passenger hmem hcandidate htag => ?_)
    obtain ⟨hmem, hcandidate⟩ := (candidate_retired hrow helse).mp ⟨hmem, hcandidate⟩
    refine hclear ?_ passenger hmem hcandidate a htag hcall
    intro assignmentId hassignment row hrowMem hrowHolds
    rw [hown] at hassignment
    cases hassignment
    obtain ⟨j, hj⟩ := List.mem_iff_getElem?.mp hrowMem
    have hji := h.single j i row existing own hj hrow hrowHolds hholds
    subst hji
    rw [hrow] at hj
    cases hj
    exact helse
  | placed hcurrent hplaced hfits =>
    have hfree := free_of_current_eq_none hcurrent
    refine hplaced.same hcall fun passenger hmem hcandidate htag => ?_
    refine hclear ?_ passenger hmem hcandidate a htag hcall
    intro assignmentId hassignment row hrowMem hrowHolds
    rw [hfree assignmentId hassignment row hrowMem] at hrowHolds
    cases hrowHolds

/-! ## When the reservations of others are safe -/

namespace EnsureSeat

/-- With room on the booking the passenger found is reserved. -/
theorem place_of_findPassenger
    (hfind : call.findPassenger search bookingId rows = some (i, passenger))
    (hroom : rows.countP (seated bookingId) ≤ booking.passengerCount) :
    call.place search bookingId booking rows =
      .ok (seatResult i (call.reserve passenger), rows.modify i call.reserve) := by
  obtain ⟨hrow, hseated⟩ := findPassenger_seated hfind
  have hfits : (rows.modify i call.reserve).countP (seated bookingId) ≤ booking.passengerCount := by
    refine (countP_modify_le fun old hold _ => ?_).trans hroom
    rw [hrow] at hold
    cases hold
    exact hseated
  simp only [place, hfind]
  rw [if_pos hfits]

/-- A candidate is reserved in some order of the rows. -/
theorem seat_candidate (h : Coherent tables)
    (haccepted : call.Accepted fleet tables bookingId booking eventId)
    (hnothere : ∀ a, call.eventAssignmentId = some a → ∀ row ∈ tables.passengers,
      row.holdsFor a = true → row.bookingId ≠ bookingId)
    (hrow : tables.passengers[i]? = some passenger)
    (hcandidate : call.Candidate bookingId tables.passengers passenger) :
    ∃ result passengers,
      call.seat (.preferring i) bookingId booking tables.passengers = .ok (result, passengers) ∧
        passengers[i]? = some (call.reserve passenger) := by
  have hroom := h.fits bookingId booking (loadBooking_eq_ok haccepted.1)
  unfold seat
  cases hcurrent : call.current (.preferring i) tables.passengers with
  | none =>
    have hfind := findPassenger_preferring hrow hcandidate
    exact ⟨_, _, place_of_findPassenger hfind hroom, by simp [hrow]⟩
  | some found =>
    obtain ⟨j, existing⟩ := found
    obtain ⟨own, hown, hexisting, hholds⟩ := current_eq_some hcurrent
    have helse : existing.bookingId ≠ bookingId :=
      hnothere own hown existing (List.mem_of_getElem? hexisting) hholds
    have hne : j ≠ i := by
      rintro rfl
      rw [hexisting] at hrow
      cases hrow
      exact helse (bookingId_of_seated hcandidate.seated)
    have hrow' : (tables.passengers.modify j call.retired)[i]? = some passenger := by
      simpa [List.getElem?_modify, hne] using hrow
    have hcandidate' := ((candidate_retired hexisting helse).mpr
      ⟨List.mem_of_getElem? hrow, hcandidate⟩).2
    have hroom' : (tables.passengers.modify j call.retired).countP (seated bookingId) ≤
        booking.passengerCount := by
      refine (countP_modify_le fun old _ hnew => ?_).trans hroom
      rw [retired, seated_retire] at hnew
      cases hnew
    have hfind := findPassenger_preferring hrow' hcandidate'
    refine ⟨seatResult i (call.reserve passenger),
      (tables.passengers.modify j call.retired).modify i call.reserve, ?_, ?_⟩
    · simp only [helse, if_false]
      exact place_of_findPassenger hfind hroom'
    · simp [hrow']

end EnsureSeat

/-- What a call needs so as not to touch the reservations of other assignments. -/
def SeatCall.Clear (fleet : EventFleet) (tables : SeatTables) : SeatCall → Prop
  | .ensure call => call.Clear fleet tables
  | .release _ => True
  | .releaseGuest _ => True

/-- Whatever the order of the rows, the call leaves the reservations of other assignments. -/
def SeatCall.Frames (fleet : EventFleet) (tables : SeatTables) (call : SeatCall) : Prop :=
  ∀ (search : FirstRow TransportPassenger) (a : ℕ), call.assignment ≠ some a →
    SameReservations a tables.passengers (seatNext fleet tables (call, search)).passengers

theorem SameReservations.releaseWhere {a : ℕ} {condition : TransportPassenger → Bool}
    {metadata : Json.Fields} (h : ∀ row, condition row = true → row.eventAssignmentId ≠ some a) :
    SameReservations a tables.passengers (releaseWhere tables condition metadata).2.passengers := by
  unfold Transport.releaseWhere
  split
  · exact .map_retire h
  · exact .refl _

theorem SeatCall.frames_iff (h : Coherent tables) (call : SeatCall) :
    call.Frames fleet tables ↔ call.Clear fleet tables := by
  cases call with
  | ensure call =>
    constructor
    · intro hframes bookingId booking eventId haccepted hnothere passenger hmem hcandidate a
        htag hcall
      obtain ⟨i, hrow⟩ := List.mem_iff_getElem?.mp hmem
      obtain ⟨result, passengers, hseat, hreserved⟩ :=
        EnsureSeat.seat_candidate h haccepted hnothere hrow hcandidate
      have hensure := ensurePassengerReservation_eq_ok.mpr
        ⟨bookingId, booking, eventId, passengers, haccepted, hseat, rfl⟩
      have hsame := hframes (.preferring i) a hcall
      simp only [seatNext, hensure] at hsame
      have hkept := (hsame i passenger htag).mp hrow
      rw [hreserved] at hkept
      exact Option.some.inj hkept
    · intro hclear search a hcall
      simp only [seatNext]
      split
      · rename_i hensure
        exact hclear.same hcall h hensure
      · exact .refl _
  | release call =>
    refine ⟨fun _ => trivial, fun _ search a hcall => ?_⟩
    simp only [seatNext, releasePassenger]
    cases hassignment : call.eventAssignmentId with
    | none => exact .refl _
    | some own =>
      refine .releaseWhere fun row hholds htag => hcall ?_
      rw [eventAssignmentId_of_holdsFor hholds] at htag
      exact hassignment.trans htag
  | releaseGuest call =>
    refine ⟨fun _ => trivial, fun _ search a hcall => ?_⟩
    simp only [seatNext]
    split
    · rename_i hrelease
      obtain ⟨bookingId, rfl⟩ := releasePassengerForGuest_eq_ok hrelease
      refine .releaseWhere fun row hguest htag => ?_
      have hnone := (Bool.and_eq_true_iff.mp (Bool.and_eq_true_iff.mp hguest).1).2
      rw [htag] at hnone
      cases hnone
    · exact .refl _

/-- In every state that calls reach, an assignment has at most one active reservation and
no booking has more than its seats. A further call leaves the reservations of all other
assignments, whatever the order of the rows, exactly if it is clear. -/
theorem seat_reservations (fleet : EventFleet) (start : SeatTables) (hstart : Coherent start)
    (calls : List (SeatCall × FirstRow TransportPassenger)) :
    let tables := calls.foldl (seatNext fleet) start
    Single tables.passengers ∧ Fits tables.bookings tables.passengers ∧
      ∀ call : SeatCall, call.Frames fleet tables ↔ call.Clear fleet tables := by
  have hreached : Coherent (calls.foldl (seatNext fleet) start) := hstart.run calls
  exact ⟨hreached.single, hreached.fits, fun call => call.frames_iff hreached⟩

/-! ## A shared email -/

/-- One driver and one vehicle of twelve seats, ready for events. -/
def oneBusFleet : EventFleet where
  driver id := if id = 0 then
    some { isOnline := true, isAvailable := true, verificationTier := .eventCertified } else none
  vehicle id := if id = 0 then
    some { isAvailable := true, currentBookingId := none, passengerCapacity := some 12 } else none

/-- A confirmed booking of two seats on them, one of which a guest of assignment 1 has. -/
def oneSeatTaken : SeatTables where
  bookings := [{
    bookingReference := "TR1"
    status := .confirmed
    passengerCount := 2
    passengerCount_pos := by decide
    assignedDriverId := some 0
    assignedVehicleId := some 0 }]
  passengers := [{
    publicId := "p1"
    bookingId := 0
    eventAssignmentId := some 1
    email := some "guest@team.example"
    status := .confirmed }]

theorem coherent_oneSeatTaken : Coherent oneSeatTaken := by
  refine ⟨fun i j row other a hi hj _ _ => ?_, fun id booking hbooking => ?_⟩
  · have hlti := (List.getElem?_eq_some_iff.mp hi).1
    have hltj := (List.getElem?_eq_some_iff.mp hj).1
    simp only [oneSeatTaken, List.length_singleton] at hlti hltj
    omega
  · exact List.countP_le_length.trans booking.passengerCount_pos

/-- A guest of assignment 2 with the same email asks for a seat. -/
def seatByEmail : EnsureSeat where
  bookingReference := "TR1"
  eventAssignmentId := some 2
  email := some "guest@team.example"
  now := "2026-01-01T00:00:00+00:00"
  publicId := "p2"

theorem seat_reservations_one_bus :
    Single oneSeatTaken.passengers ∧ Fits oneSeatTaken.bookings oneSeatTaken.passengers ∧
      ∀ call : SeatCall,
        call.Frames oneBusFleet oneSeatTaken ↔ call.Clear oneBusFleet oneSeatTaken :=
  seat_reservations oneBusFleet oneSeatTaken coherent_oneSeatTaken []

/-- Two guests of one booking share an email: the second assignment takes the seat of the
first, which is left without a reservation. -/
theorem second_assignment_takes_seat :
    ¬ ∀ (fleet : EventFleet) (start : SeatTables)
        (calls : List (SeatCall × FirstRow TransportPassenger)) (call : SeatCall),
      Coherent start → call.Frames fleet (calls.foldl (seatNext fleet) start) := by
  intro h
  have hframes : (SeatCall.ensure seatByEmail).Frames oneBusFleet oneSeatTaken :=
    h oneBusFleet oneSeatTaken [] _ coherent_oneSeatTaken
  have hsame := hframes .inOrder 1 (by decide)
  have htags : (seatNext oneBusFleet oneSeatTaken
      (.ensure seatByEmail, .inOrder)).passengers.map eventAssignmentId = [some 2] := by
    decide +kernel
  obtain ⟨row, hrow, htag⟩ := List.map_eq_singleton_iff.mp htags
  have hkept := (hsame 0 _ rfl).mp rfl
  rw [hrow] at hkept
  cases hkept
  cases htag

end Afcon360.Transport
