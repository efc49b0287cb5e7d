import Afcon360.Foundation.Firsts
import Afcon360.Foundation.JsonText
import Afcon360.Foundation.Run
import Afcon360.Foundation.Guard
import Afcon360.Accommodation.CancellationPolicy

/-!
# Cancellation penalties

`cancel_booking` records the fine of a booking that is paid on arrival as a row of
`accommodation_cancellation_penalties`, unless there is a row with the penalty key already. The
key is the caller's idempotency key, whatever booking it was used for before.

Only the statuses of bookings, what their quotes read, and the penalties are looked at here. A
cancellation that raises is rolled back.
-/

namespace Afcon360.Accommodation

open Foundation

/-- What a cancellation reads of a booking. -/
structure CancellableBooking extends QuotedBooking where
  bookingOwnerId : Option ℕ := none
  bookedByUserId : ℕ
  guestUserId : Option ℕ := none
  primaryGuestId : Option ℕ := none
  hostUserId : ℕ
  currency : Option String := none

/-- `authorized_cancel_actor_ids`. -/
def CancellableBooking.cancelActorIds (booking : CancellableBooking) : List (Option ℕ) :=
  [booking.bookingOwnerId, some booking.bookedByUserId, booking.guestUserId,
    booking.primaryGuestId, some booking.hostUserId]

/-- `penalty_metadata`. -/
structure PenaltyMetadata where
  policy : Option String
  phase : CancellationPhase
  refundableBase : String
  cancelledBy : Option ℕ
  cancelledAt : ℕ
  deriving DecidableEq

/-- A row of `accommodation_cancellation_penalties`. -/
structure CancellationPenalty where
  bookingId : ℕ
  amount : ℚ
  currency : String := "USD"
  status : String := "PENDING"
  idempotencyKey : String
  metadata : PenaltyMetadata
  deriving DecidableEq

/-- A call of `cancel_booking`, with what it reads elsewhere: the policy in force, the date, the
clock, and whether one of the other steps raises. -/
structure CancelCall where
  bookingId : ℕ
  cancelledByUserId : Option ℕ
  idempotencyKey : Option String := none
  policy : Option CancellationPolicy := none
  legacy : LegacyPolicy
  date : ℤ
  now : ℕ
  timeNs : ℕ
  raises : Bool := false

/-- `idempotency_key or f"cancel-{booking.id}-{time_ns()}"`. -/
def CancelCall.penaltyKey (call : CancelCall) : String :=
  (call.idempotencyKey.filter (fun key => key ≠ "")).getD
    ("cancel-" ++ toString call.bookingId ++ "-" ++ toString call.timeNs)

/-- A cancellation that owes a penalty. -/
structure Charge where
  bookingId : ℕ
  fine : ℚ
  key : String
  deriving DecidableEq

def CancellationPenalty.charge (penalty : CancellationPenalty) : Charge :=
  ⟨penalty.bookingId, penalty.amount, penalty.idempotencyKey⟩

/-- The table with its unique keys. -/
structure PenaltyTable where
  rows : List CancellationPenalty := []
  unique : (rows.map CancellationPenalty.idempotencyKey).Nodup := by simp

/-- The bookings, the penalties, and the cancellations so far that owe one. -/
structure PenaltyDesk where
  bookings : List CancellableBooking
  penalties : PenaltyTable := {}
  charges : List Charge := []

namespace PenaltyDesk

/-- The row of a charge, if the columns take it. -/
def penaltyRow (call : CancelCall) (booking : CancellableBooking) (quote : CancellationQuote) :
    CancellationPenalty where
  bookingId := call.bookingId
  amount := quote.fine
  currency := (booking.currency.filter (fun text => text ≠ "")).getD "USD"
  idempotencyKey := call.penaltyKey
  metadata :=
    { policy := quote.policy
      phase := quote.phase
      refundableBase := centsText quote.refundableBase
      cancelledBy := call.cancelledByUserId
      cancelledAt := call.now }

/-- `NUMERIC(10, 2)` and the lengths of the texts. -/
def fits (row : CancellationPenalty) : Bool :=
  row.amount < 10 ^ 8 ∧ row.currency.length ≤ 3 ∧ row.idempotencyKey.length ≤ 100

/-- Insert the penalty unless its key is there. -/
def recordPenalty (table : PenaltyTable) (row : CancellationPenalty) : Except String PenaltyTable :=
  if free : row.idempotencyKey ∉ table.rows.map CancellationPenalty.idempotencyKey then
    if fits row then
      .ok
        { rows := table.rows ++ [row]
          unique := by
            rw [List.map_append]
            exact List.Nodup.append table.unique (by simp) (by simpa using free) }
    else .error "Unable to cancel booking. Please contact support."
  else .ok table

/-- The penalty of a cancellation, owed by a booking that is paid on arrival and has a fine. -/
def charge (s : PenaltyDesk) (call : CancelCall) (booking : CancellableBooking)
    (quote : CancellationQuote) : Except String PenaltyDesk :=
  if booking.timing = "pay_on_arrival" ∧ 0 < quote.fine then do
    let row := penaltyRow call booking quote
    let penalties ← recordPenalty s.penalties row
    pure { s with penalties, charges := s.charges ++ [row.charge] }
  else .ok s

/-- `cancel_booking`. -/
def cancelBooking (s : PenaltyDesk) (call : CancelCall) : Except String PenaltyDesk :=
  match s.bookings[call.bookingId]? with
  | none => .error "Booking not found"
  | some booking => do
      require (call.cancelledByUserId ∈ booking.cancelActorIds)
        "You are not authorised to cancel this booking."
      let quote := booking.cancellationQuote call.policy call.legacy call.date
      require quote.allowed quote.message
      require (.cancelled ∈ booking.status.validTransitions) "Cannot transition booking"
      require (¬ call.raises) "Unable to cancel booking. Please contact support."
      let cancelled : CancellableBooking := { booking with status := .cancelled }
      ({ s with bookings := s.bookings.set call.bookingId cancelled }).charge call booking quote

/-- What happens at the desk: cancellations, and what the rest of the module does to bookings. -/
inductive Move
  | cancel (call : CancelCall)
  | book (booking : CancellableBooking)
  | transit (id : ℕ) (status : BookingStatus)
  | amend (id : ℕ) (columns : CancellableBooking)

def move (s : PenaltyDesk) : Move → PenaltyDesk
  | .cancel call =>
    match s.cancelBooking call with
    | .ok t => t
    | .error _ => s
  | .book booking => { s with bookings := s.bookings ++ [booking] }
  | .transit id status =>
    match s.bookings[id]? with
    | some booking =>
      if status ∈ booking.status.validTransitions then
        { s with bookings := s.bookings.set id { booking with status } }
      else s
    | none => s
  | .amend id columns =>
    match s.bookings[id]? with
    | some booking =>
      { s with bookings := s.bookings.set id { columns with status := booking.status } }
    | none => s

/-- The penalties of a booking. -/
def penaltiesOf (s : PenaltyDesk) (id : ℕ) : List CancellationPenalty :=
  s.penalties.rows.filter (fun row => row.bookingId = id)

/-- Every cancellation that owes a penalty has exactly one, of its own booking and with its
fine. -/
def Penalised (s : PenaltyDesk) : Prop :=
  ∀ charge ∈ s.charges, ∃ row, s.penaltiesOf charge.bookingId = [row] ∧
    row.bookingId = charge.bookingId ∧ row.amount = charge.fine

variable {s t : PenaltyDesk} {call : CancelCall} {table new : PenaltyTable}
  {row : CancellationPenalty}

/-! ## What a cancellation does -/

/-- Only a cancellable booking gets a quote that allows it. -/
theorem isCancellable_of_allowed {booking : QuotedBooking} {policy : Option CancellationPolicy}
    {legacy : LegacyPolicy} {date : ℤ}
    (h : (booking.cancellationQuote policy legacy date).allowed = true) :
    booking.status.isCancellable = true := by
  unfold QuotedBooking.cancellationQuote at h
  split at h
  · cases h
  · rename_i hstatus
    simpa using hstatus

theorem cancelBooking_ok (h : s.cancelBooking call = .ok t) :
    ∃ booking, s.bookings[call.bookingId]? = some booking ∧
      booking.status.isCancellable = true ∧
      t.bookings = s.bookings.set call.bookingId { booking with status := .cancelled } ∧
      ((t.penalties = s.penalties ∧ t.charges = s.charges) ∨
        ∃ row, row.bookingId = call.bookingId ∧ row.idempotencyKey = call.penaltyKey ∧
          recordPenalty s.penalties row = .ok t.penalties ∧
          t.charges = s.charges ++ [row.charge]) := by
  unfold cancelBooking at h
  split at h
  · cases h
  · rename_i booking hbooking
    simp only [check_bind_eq_ok, require_eq_ok] at h
    obtain ⟨-, hallowed, -, -, h⟩ := h
    refine ⟨booking, hbooking, isCancellable_of_allowed hallowed, ?_⟩
    unfold charge at h
    split at h
    · obtain ⟨penalties, hrecord, h⟩ := bind_eq_ok.mp h
      cases h
      exact ⟨rfl, .inr ⟨_, rfl, rfl, hrecord, rfl⟩⟩
    · cases h
      exact ⟨rfl, .inl ⟨rfl, rfl⟩⟩

/-- The table keeps the first charge of every key. -/
theorem recordPenalty_ok {charges : List Charge} (h : recordPenalty table row = .ok new)
    (hrows : table.rows.map CancellationPenalty.charge = firsts Charge.key charges) :
    new.rows.map CancellationPenalty.charge = firsts Charge.key (charges ++ [row.charge]) := by
  have hkeys : (firsts Charge.key charges).map Charge.key =
      table.rows.map CancellationPenalty.idempotencyKey := by
    rw [← hrows, List.map_map]
    rfl
  rw [firsts_concat, hkeys]
  unfold recordPenalty at h
  split at h
  · rename_i free
    split at h
    · cases h
      have hnew : row.charge.key ∉ table.rows.map CancellationPenalty.idempotencyKey := free
      rw [if_neg hnew, List.map_append, hrows]
      rfl
    · cases h
  · rename_i taken
    cases h
    have hold : row.charge.key ∈ table.rows.map CancellationPenalty.idempotencyKey :=
      not_not.mp taken
    rw [if_pos hold, hrows]

/-! ## Every run -/

/-- The statuses after a cancellation. -/
def isOver (status : BookingStatus) : Bool := status ∈ [.cancelled, .refunded]

theorem not_isOver_of_isCancellable {status : BookingStatus} (h : status.isCancellable = true) :
    isOver status = false := by
  cases status <;> simp_all [BookingStatus.isCancellable, isOver]

theorem isOver_of_transition {old new : BookingStatus} (h : isOver old = true)
    (hnew : new ∈ old.validTransitions) : isOver new = true := by
  cases old <;> simp_all [BookingStatus.validTransitions, isOver]

/-- The penalties are the first charges of their keys, and no booking is charged twice, for one
that was charged stays cancelled. -/
structure Inv (s : PenaltyDesk) : Prop where
  rows : s.penalties.rows.map CancellationPenalty.charge = firsts Charge.key s.charges
  once : (s.charges.map Charge.bookingId).Nodup
  charged : ∀ charge ∈ s.charges, ∃ booking, s.bookings[charge.bookingId]? = some booking ∧
    isOver booking.status = true

/-- Bookings may change as long as those that are over stay so. -/
theorem Inv.of_bookings {bookings : List CancellableBooking} (inv : Inv s)
    (h : ∀ (id : ℕ) (booking : CancellableBooking), s.bookings[id]? = some booking →
      isOver booking.status = true →
      ∃ later : CancellableBooking, bookings[id]? = some later ∧ isOver later.status = true) :
    Inv { s with bookings } where
  rows := inv.rows
  once := inv.once
  charged := by
    intro charge hcharge
    obtain ⟨booking, hbooking, hover⟩ := inv.charged charge hcharge
    exact h _ booking hbooking hover

/-- One booking is replaced; if it is over, so is what replaces it. -/
theorem over_set {bookings : List CancellableBooking} {id : ℕ} {old new : CancellableBooking}
    (hold : bookings[id]? = some old) (hnew : isOver old.status = true → isOver new.status = true)
    (other : ℕ) (booking : CancellableBooking) (hbooking : bookings[other]? = some booking)
    (hover : isOver booking.status = true) :
    ∃ later, (bookings.set id new)[other]? = some later ∧ isOver later.status = true := by
  by_cases hid : id = other
  · subst hid
    cases hold.symm.trans hbooking
    obtain ⟨hlength, -⟩ := List.getElem?_eq_some_iff.mp hbooking
    exact ⟨new, by simp [hlength], hnew hover⟩
  · exact ⟨booking, by rw [List.getElem?_set_ne hid, hbooking], hover⟩

theorem Inv.cancelBooking (inv : Inv s) (h : s.cancelBooking call = .ok t) : Inv t := by
  obtain ⟨booking, hbooking, hcancellable, hbookings, hpenalties⟩ := cancelBooking_ok h
  have hover := not_isOver_of_isCancellable hcancellable
  have hset := @over_set _ _ _ { booking with status := .cancelled } hbooking fun _ => rfl
  have hlater : Inv { s with bookings := t.bookings } := by
    rw [hbookings]
    exact inv.of_bookings hset
  obtain ⟨hsame, hcharges⟩ | ⟨row, hrow, -, hrecord, hcharges⟩ := hpenalties
  · exact ⟨by rw [hsame, hcharges]; exact inv.rows, by rw [hcharges]; exact inv.once,
      by rw [hcharges]; exact hlater.charged⟩
  · refine ⟨?_, ?_, ?_⟩
    · rw [hcharges]
      exact recordPenalty_ok hrecord inv.rows
    · -- the booking was not over, so it is not among those charged
      rw [hcharges, List.map_append]
      refine List.Nodup.append inv.once (by simp) ?_
      simp only [List.map_cons, List.map_nil, List.disjoint_singleton]
      intro hmem
      obtain ⟨charge, hcharge, hid⟩ := List.mem_map.mp hmem
      obtain ⟨other, hother, hstatus⟩ := inv.charged charge hcharge
      have hsame : charge.bookingId = call.bookingId := hid.trans hrow
      rw [hsame, hbooking] at hother
      cases hother
      rw [hover] at hstatus
      cases hstatus
    · intro charge hcharge
      rw [hcharges] at hcharge
      obtain hold | hnew := List.mem_append.mp hcharge
      · exact hlater.charged charge hold
      · obtain rfl := List.mem_singleton.mp hnew
        obtain ⟨hlength, -⟩ := List.getElem?_eq_some_iff.mp hbooking
        refine ⟨{ booking with status := .cancelled }, ?_, rfl⟩
        have hid : row.charge.bookingId = call.bookingId := hrow
        rw [hbookings, hid, List.getElem?_set_self hlength]

theorem Inv.move (inv : Inv s) (a : Move) : Inv (s.move a) := by
  cases a with
  | cancel call =>
    simp only [PenaltyDesk.move]
    split
    · rename_i hcall
      exact inv.cancelBooking hcall
    · exact inv
  | book booking =>
    refine inv.of_bookings ?_
    intro id old hold hover
    obtain ⟨hlength, -⟩ := List.getElem?_eq_some_iff.mp hold
    exact ⟨old, by rw [List.getElem?_append_left hlength, hold], hover⟩
  | transit id status =>
    simp only [PenaltyDesk.move]
    split
    · rename_i booking hbooking
      split
      · rename_i hvalid
        exact inv.of_bookings (over_set hbooking (fun hover => isOver_of_transition hover hvalid))
      · exact inv
    · exact inv
  | amend id columns =>
    simp only [PenaltyDesk.move]
    split
    · rename_i booking hbooking
      exact inv.of_bookings (over_set hbooking (fun hover => hover))
    · exact inv

/-- The desk before any cancellation. -/
def opening (bookings : List CancellableBooking) : PenaltyDesk := { bookings }

theorem inv_opening (bookings : List CancellableBooking) : Inv (opening bookings) where
  rows := rfl
  once := List.nodup_nil
  charged := by simp [opening]

theorem inv_of_run (bookings : List CancellableBooking) (moves : List Move) :
    Inv (moves.foldl move (opening bookings)) := by
  refine (Run.foldl move (opening bookings) moves).invariant Inv ?_ (inv_opening bookings)
  rintro s a t inv rfl
  exact inv.move a

/-! ## One penalty for every charge -/

/-- The penalties of a booking are its charges that were the first with their key. -/
theorem Inv.penaltiesOf (inv : Inv s) (id : ℕ) :
    (s.penaltiesOf id).map CancellationPenalty.charge =
      (firsts Charge.key s.charges).filter (fun charge => charge.bookingId = id) := by
  rw [← inv.rows, List.filter_map]
  rfl

theorem Inv.penalised_iff (inv : Inv s) :
    s.Penalised ↔ (s.charges.map Charge.key).Nodup := by
  rw [← firsts_eq_self_iff]
  constructor
  · intro h
    -- the row of a charge is that of a first, and no other charge is of its booking
    have hkept : s.charges ⊆ firsts Charge.key s.charges := by
      intro charge hcharge
      obtain ⟨row, hrow, hid, -⟩ := h charge hcharge
      have hfirsts := inv.penaltiesOf charge.bookingId
      rw [hrow] at hfirsts
      have hfilter : row.charge ∈ (firsts Charge.key s.charges).filter
          (fun other => other.bookingId = charge.bookingId) := by
        rw [← hfirsts]
        exact List.mem_singleton_self _
      have hmem := (List.mem_filter.mp hfilter).1
      have hsame : row.charge = charge :=
        List.inj_on_of_nodup_map inv.once ((firsts_sublist s.charges).subset hmem) hcharge hid
      exact hsame ▸ hmem
    have hnodup : s.charges.Nodup := inv.once.of_map _
    exact (firsts_sublist s.charges).eq_of_length_le (hnodup.subperm hkept).length_le
  · intro h charge hcharge
    have hcharges := inv.penaltiesOf charge.bookingId
    rw [h, filter_eq_singleton inv.once hcharge] at hcharges
    obtain ⟨row, hrow, hsame⟩ := List.map_eq_singleton_iff.mp hcharges
    refine ⟨row, hrow, ?_, ?_⟩
    · exact congrArg Charge.bookingId hsame
    · exact congrArg Charge.fine hsame

/-- In every run, each cancellation that owes a penalty has exactly one, its own and over its fine,
exactly when no two of them used the same key. -/
theorem penalties_of_run (bookings : List CancellableBooking) (moves : List Move) :
    (moves.foldl move (opening bookings)).Penalised ↔
      ((moves.foldl move (opening bookings)).charges.map Charge.key).Nodup :=
  (inv_of_run bookings moves).penalised_iff

/-- Two bookings of 300, each cancelled on the day before the stay under the strict policy: with
the same key the second has no penalty. -/
theorem penalty_missing_for_reused_key :
    let booking : CancellableBooking :=
      { status := .confirmed, totalCents := 30000, paidCents := 0
        paymentTiming := some "pay_on_arrival", checkIn := 10, checkOut := 12, numNights := 2
        bookedByUserId := 7, hostUserId := 8 }
    let call (id : ℕ) : CancelCall :=
      { bookingId := id, cancelledByUserId := some 7, idempotencyKey := some "retry"
        legacy := ⟨9, none, "strict"⟩, date := 9, now := 0, timeNs := 0 }
    let t := [Move.cancel (call 0), .cancel (call 1)].foldl move (opening [booking, booking])
    ¬ t.Penalised ∧ t.penaltiesOf 1 = [] ∧ (t.penaltiesOf 0).map (·.amount) = [300] ∧
    t.charges = [⟨0, 300, "retry"⟩, ⟨1, 300, "retry"⟩] := by
  intro booking call t
  have hnone : t.penaltiesOf 1 = [] := by decide +kernel
  have hcharges : t.charges = [⟨0, 300, "retry"⟩, ⟨1, 300, "retry"⟩] := by decide +kernel
  refine ⟨?_, hnone, by decide +kernel, hcharges⟩
  intro hpenalised
  obtain ⟨row, hrow, -⟩ := hpenalised ⟨1, 300, "retry"⟩ (by rw [hcharges]; simp)
  rw [hnone] at hrow
  cases hrow

end PenaltyDesk

end Afcon360.Accommodation
