import Afcon360.Accommodation.Inventory

/-!
# Clean-up of expired bookings

`cleanup_expired_bookings` cancels what `get_pending_expired_bookings` returns, one booking
after the other and without an actor. `cancel_booking` accepts no actor where one of the
users it would accept is missing. A booking that cannot be cancelled is skipped.

What counts as a paid booking is a parameter: nothing in the sweep asks for it.
-/

namespace Afcon360.Accommodation

namespace Inventory

variable {booking : StayBooking} {s : Inventory} {now : Instant}

/-! ## The sweep -/

/-- What the quote and the environment make of one cancellation: it is carried out, the
quote does not allow it, or something raises before or after the commit that releases the
blocks of a room type. -/
inductive CancelOutcome
  | done | refused | raisesEarly | raisesLate
  deriving DecidableEq, Repr

/-- `None` is one of the users who may cancel. -/
def acceptsNoActor (booking : StayBooking) : Bool :=
  booking.bookingOwnerId = none ∨ booking.primaryGuestId = none

/-- The rooms of a booking given back. -/
def releaseRooms (s : Inventory) (id : ℕ) (booking : StayBooking) : Inventory :=
  (s.dropDates id).dropOwnBlocks id booking

/-- `cancel_booking` without an actor, both its transactions. -/
def cancelWithoutActor (s : Inventory) (id : ℕ) (outcome : CancelOutcome) : Inventory :=
  match s.bookings[id]? with
  | none => s
  | some booking =>
    if acceptsNoActor booking ∧ booking.status.isCancellable then
      match outcome with
      | .done =>
        match (s.releaseRooms id booking).transition id .cancelled with
        | .ok t => t
        | .error _ => s
      | .refused => s
      | .raisesEarly => s
      | .raisesLate => if booking.roomTypeId.isSome then s.releaseRooms id booking else s
    else s

/-- The deadline of the booking has passed. -/
def isExpired (now : Instant) (booking : StayBooking) : Bool :=
  booking.expiresAt.any (fun expiresAt => expiresAt < now)

/-- The statuses of `get_pending_expired_bookings`. -/
def isSwept (status : BookingStatus) : Bool := status = .pending ∨ status = .pendingApproval

/-- `get_pending_expired_bookings`. -/
def pendingExpiredBookings (s : Inventory) (now : Instant) : List ℕ :=
  (List.range s.bookings.length).filter (fun id =>
    s.bookings[id]?.any (fun booking => isSwept booking.status ∧ isExpired now booking))

/-- `cleanup_expired_bookings`. -/
def cleanupExpiredBookings (s : Inventory) (now : Instant) (outcome : ℕ → CancelOutcome) :
    Inventory :=
  (s.pendingExpiredBookings now).foldl (fun t id => t.cancelWithoutActor id (outcome id)) s

/-! ## What is asked -/

/-- The statuses in which a booking waits for payment or approval. -/
def isWaiting (status : BookingStatus) : Bool :=
  status ∈ [.held, .pendingPayment, .pending, .pendingApproval]

/-- The block holds the room type and the dates of the booking for it. -/
def isOwnBlock (id : ℕ) (booking : StayBooking) (block : InventoryBlock) : Bool :=
  block.bookingId = some id ∧ booking.roomTypeId = some block.roomTypeId ∧
    block.dateRangeStart = booking.checkIn ∧ block.dateRangeEnd = booking.checkOut

/-- The booking and the rows that hold inventory for it are the same in both tables. -/
structure Untouched (s t : Inventory) (id : ℕ) : Prop where
  booking : t.bookings[id]? = s.bookings[id]?
  dates : ∀ blocked, blocked.bookingId = some id →
    (blocked ∈ t.blockedDates ↔ blocked ∈ s.blockedDates)
  blocks : ∀ block, block.bookingId = some id → (block ∈ t.blocks ↔ block ∈ s.blocks)

/-- The booking is cancelled and holds no inventory. -/
structure CleanedUp (t : Inventory) (id : ℕ) (booking : StayBooking) : Prop where
  cancelled : ∃ row, t.bookings[id]? = some row ∧ row.status = .cancelled
  dates : ∀ blocked ∈ t.blockedDates, blocked.bookingId ≠ some id
  blocks : ∀ block ∈ t.blocks, ¬ isOwnBlock id booking block

/-- Whatever happens to single cancellations: a booking that waits, is not paid and has
expired is cleaned up if its own cancellation is carried out; one that is confirmed, paid
or not expired is left alone. -/
def Cleans (s : Inventory) (now : Instant) (paid : StayBooking → Bool) : Prop :=
  ∀ (outcome : ℕ → CancelOutcome) (id : ℕ) (booking : StayBooking),
    s.bookings[id]? = some booking →
    (isWaiting booking.status → ¬ paid booking → isExpired now booking → outcome id = .done →
      CleanedUp (s.cleanupExpiredBookings now outcome) id booking) ∧
    (booking.status = .confirmed ∨ paid booking ∨ ¬ isExpired now booking →
      Untouched s (s.cleanupExpiredBookings now outcome) id)

/-- When it does: of the bookings that wait and have expired, the unpaid ones are pending
or wait for approval and lack an owner or a primary guest; the paid ones that are pending
or wait for approval have both. -/
structure CleanupFits (s : Inventory) (now : Instant) (paid : StayBooking → Bool) : Prop where
  swept : ∀ booking ∈ s.bookings, isWaiting booking.status → ¬ paid booking →
    isExpired now booking → isSwept booking.status ∧ acceptsNoActor booking
  spared : ∀ booking ∈ s.bookings, isSwept booking.status → paid booking →
    isExpired now booking → ¬ acceptsNoActor booking

/-! ## One cancellation -/

theorem Untouched.refl (s : Inventory) (id : ℕ) : Untouched s s id :=
  ⟨rfl, fun _ _ => Iff.rfl, fun _ _ => Iff.rfl⟩

variable {id : ℕ}

theorem Untouched.trans {s t u : Inventory} (h : Untouched s t id)
    (h' : Untouched t u id) : Untouched s u id :=
  ⟨h'.booking.trans h.booking,
    fun blocked hid => (h'.dates blocked hid).trans (h.dates blocked hid),
    fun block hid => (h'.blocks block hid).trans (h.blocks block hid)⟩

theorem mem_releaseRooms_dates
    {blocked : BlockedDate} : blocked ∈ (s.releaseRooms id booking).blockedDates ↔
      blocked ∈ s.blockedDates ∧ blocked.bookingId ≠ some id := by
  have hdates : (s.releaseRooms id booking).blockedDates = (s.dropDates id).blockedDates := by
    simp only [releaseRooms, dropOwnBlocks]
    split <;> rfl
  rw [hdates, dropDates, List.mem_filter, decide_eq_true_eq]

theorem mem_releaseRooms_blocks
    {block : InventoryBlock} : block ∈ (s.releaseRooms id booking).blocks ↔
      block ∈ s.blocks ∧ ¬ isOwnBlock id booking block := by
  simp only [releaseRooms, dropOwnBlocks]
  split
  · rename_i hnone
    simp [isOwnBlock, hnone, dropDates]
  · rename_i roomTypeId hroom
    simp only [releaseRoomTypeBlocks, dropDates, List.mem_filter, isOwnBlock, hroom,
      Option.some.injEq, decide_eq_true_eq, reduceCtorEq, false_or]
    refine and_congr_right (fun _ => not_congr ?_)
    constructor
    · rintro ⟨hid, hstart, hend, hbooking⟩
      exact ⟨hbooking, hid.symm, hstart, hend⟩
    · rintro ⟨hbooking, hid, hstart, hend⟩
      exact ⟨hid.symm, hstart, hend, hbooking⟩

theorem releaseRooms_bookings (s : Inventory) (id : ℕ) (booking : StayBooking) :
    (s.releaseRooms id booking).bookings = s.bookings := by
  simp only [releaseRooms, dropOwnBlocks]
  split <;> rfl

theorem releaseRooms_untouched (s : Inventory) {id other : ℕ} (booking : StayBooking)
    (h : other ≠ id) : Untouched s (s.releaseRooms id booking) other := by
  have hne : some other ≠ some id := fun heq => h (Option.some.inj heq)
  refine ⟨by rw [releaseRooms_bookings], ?_, ?_⟩
  · intro blocked hblocked
    rw [mem_releaseRooms_dates, hblocked]
    exact and_iff_left hne
  · intro block hblock
    rw [mem_releaseRooms_blocks]
    refine and_iff_left (fun hown => ?_)
    simp only [isOwnBlock, decide_eq_true_eq] at hown
    exact hne (hblock.symm.trans hown.1)

/-- A cancellation that is carried out. -/
theorem cancelWithoutActor_done
    (hbooking : s.bookings[id]? = some booking) (haccepts : acceptsNoActor booking)
    (hstatus : booking.status.isCancellable) :
    s.cancelWithoutActor id .done =
      { s.releaseRooms id booking with
        bookings := s.bookings.set id { booking with status := .cancelled }
        history := (s.releaseRooms id booking).history ++
          [⟨id, .booking booking.status, .booking .cancelled⟩] } := by
  have hvalid := BookingStatus.cancelled_mem_of_isCancellable hstatus
  have hrow : (s.releaseRooms id booking).bookings[id]? = some booking := by
    rw [releaseRooms_bookings, hbooking]
  simp only [cancelWithoutActor, hbooking, haccepts, hstatus, and_self, if_true, transition,
    hvalid, Foundation.require, releaseRooms_bookings]
  rfl

theorem cancelWithoutActor_untouched (s : Inventory) {id other : ℕ} (outcome : CancelOutcome)
    (h : other ≠ id) : Untouched s (s.cancelWithoutActor id outcome) other := by
  cases hbooking : s.bookings[id]? with
  | none =>
    simp only [cancelWithoutActor, hbooking]
    exact .refl s other
  | some booking =>
    by_cases haccepts : acceptsNoActor booking ∧ booking.status.isCancellable
    · cases outcome with
      | done =>
        have hreleased := s.releaseRooms_untouched booking h
        rw [cancelWithoutActor_done hbooking haccepts.1 haccepts.2]
        refine ⟨?_, hreleased.dates, hreleased.blocks⟩
        rw [List.getElem?_set_ne (Ne.symm h)]
      | refused =>
        simp only [cancelWithoutActor, hbooking, if_pos haccepts]
        exact .refl s other
      | raisesEarly =>
        simp only [cancelWithoutActor, hbooking, if_pos haccepts]
        exact .refl s other
      | raisesLate =>
        simp only [cancelWithoutActor, hbooking, if_pos haccepts]
        split
        · exact s.releaseRooms_untouched booking h
        · exact .refl s other
    · simp only [cancelWithoutActor, hbooking, if_neg haccepts]
      exact .refl s other

theorem cancelWithoutActor_unauthorised
    (hbooking : s.bookings[id]? = some booking) (h : ¬ acceptsNoActor booking)
    (outcome : CancelOutcome) : s.cancelWithoutActor id outcome = s := by
  simp only [cancelWithoutActor, hbooking]
  rw [if_neg (fun hboth => h hboth.1)]

/-! ## The whole sweep -/

theorem foldl_cancel_untouched (outcome : ℕ → CancelOutcome) (ids : List ℕ)
    (h : id ∉ ids) : ∀ s : Inventory,
      Untouched s (ids.foldl (fun t other => t.cancelWithoutActor other (outcome other)) s) id := by
  induction ids with
  | nil => exact fun s => .refl s id
  | cons other rest ih =>
    intro s
    obtain ⟨hne, hrest⟩ := not_or.mp (fun hmem => h (List.mem_cons.mpr hmem))
    exact (s.cancelWithoutActor_untouched (outcome other) hne).trans (ih hrest _)

theorem mem_pendingExpiredBookings (hbooking : s.bookings[id]? = some booking) :
    id ∈ s.pendingExpiredBookings now ↔ isSwept booking.status ∧ isExpired now booking := by
  rw [pendingExpiredBookings, List.mem_filter, List.mem_range, hbooking]
  simp [(List.getElem?_eq_some_iff.mp hbooking).1]

/-- A booking the query does not return is left alone. -/
theorem cleanup_untouched (outcome : ℕ → CancelOutcome) (hbooking : s.bookings[id]? = some booking)
    (h : ¬ (isSwept booking.status ∧ isExpired now booking)) :
    Untouched s (s.cleanupExpiredBookings now outcome) id :=
  foldl_cancel_untouched outcome _ (fun hmem => h ((mem_pendingExpiredBookings hbooking).mp hmem)) s

/-- A booking the query returns has its one turn. -/
theorem cleanup_split (outcome : ℕ → CancelOutcome) (hbooking : s.bookings[id]? = some booking)
    (h : isSwept booking.status ∧ isExpired now booking) :
    ∃ before : Inventory, Untouched s before id ∧
      Untouched (before.cancelWithoutActor id (outcome id))
        (s.cleanupExpiredBookings now outcome) id := by
  have hnodup : (s.pendingExpiredBookings now).Nodup := List.nodup_range.filter _
  obtain ⟨first, rest, hsplit⟩ :=
    List.append_of_mem ((mem_pendingExpiredBookings hbooking).mpr h)
  rw [hsplit] at hnodup
  have hfirst : id ∉ first := fun hmem =>
    (List.nodup_append.mp hnodup).2.2 id hmem id List.mem_cons_self rfl
  have hrest : id ∉ rest := (List.nodup_cons.mp (List.nodup_append.mp hnodup).2.1).1
  refine ⟨_, foldl_cancel_untouched outcome first hfirst s, ?_⟩
  rw [cleanupExpiredBookings, hsplit, List.foldl_append, List.foldl_cons]
  exact foldl_cancel_untouched outcome rest hrest _

theorem isCancellable_of_isSwept {status : BookingStatus} (h : isSwept status) :
    status.isCancellable := by
  cases status <;> simp_all [isSwept, BookingStatus.isCancellable]

/-- A booking the query returns, whose cancellation is accepted and carried out. -/
theorem cleanup_cleanedUp {outcome : ℕ → CancelOutcome} (hbooking : s.bookings[id]? = some booking)
    (h : isSwept booking.status ∧ isExpired now booking) (haccepts : acceptsNoActor booking)
    (hdone : outcome id = .done) :
    CleanedUp (s.cleanupExpiredBookings now outcome) id booking := by
  obtain ⟨before, hbefore, hafter⟩ := cleanup_split outcome hbooking h
  have hrow : before.bookings[id]? = some booking := hbefore.booking.trans hbooking
  rw [hdone, cancelWithoutActor_done hrow haccepts (isCancellable_of_isSwept h.1)] at hafter
  refine ⟨⟨{ booking with status := .cancelled }, ?_, rfl⟩, ?_, ?_⟩
  · rw [hafter.booking, List.getElem?_set_self (List.getElem?_eq_some_iff.mp hrow).1]
  · intro blocked hblocked hid
    have hleft := (hafter.dates blocked hid).mp hblocked
    exact (mem_releaseRooms_dates.mp hleft).2 hid
  · intro block hblock hown
    have hid : block.bookingId = some id := by
      simp only [isOwnBlock, decide_eq_true_eq] at hown
      exact hown.1
    have hleft := (hafter.blocks block hid).mp hblock
    exact (mem_releaseRooms_blocks.mp hleft).2 hown

/-- The sweep does what it is for exactly when no unpaid booking has expired that it does
not select or may not cancel, and no paid one that it does. -/
theorem cleanup_iff (s : Inventory) (now : Instant) (paid : StayBooking → Bool) :
    s.Cleans now paid ↔ s.CleanupFits now paid := by
  constructor
  · intro cleans
    -- Every cancellation is carried out here.
    refine ⟨?_, ?_⟩
    · intro booking hmem hwaiting hunpaid hexpired
      obtain ⟨id, hbooking⟩ := List.mem_iff_getElem?.mp hmem
      obtain ⟨row, hrow, hcancelled⟩ := ((cleans (fun _ => .done) id booking hbooking).1 hwaiting
        hunpaid hexpired rfl).cancelled
      have hchanged : ∀ t : Inventory, t.bookings[id]? = some booking →
        t.bookings[id]? ≠ some row := by
        intro t ht heq
        rw [ht] at heq
        cases heq
        rw [hcancelled] at hwaiting
        simp [isWaiting] at hwaiting
      by_cases hswept : isSwept booking.status
      · refine ⟨hswept, ?_⟩
        by_contra hrefused
        obtain ⟨before, hbefore, hafter⟩ := cleanup_split (fun _ => .done) hbooking
          ⟨hswept, hexpired⟩
        have hsame := hbefore.booking.trans hbooking
        rw [cancelWithoutActor_unauthorised hsame hrefused] at hafter
        exact hchanged _ (hafter.booking.trans hsame) hrow
      · have huntouched : Untouched s (s.cleanupExpiredBookings now (fun _ => .done)) id :=
          cleanup_untouched _ hbooking (fun h => hswept h.1)
        exact absurd hrow (hchanged _ (huntouched.booking.trans hbooking))
    · intro booking hmem hswept hpaid hexpired haccepts
      obtain ⟨id, hbooking⟩ := List.mem_iff_getElem?.mp hmem
      have huntouched := (cleans (fun _ => .done) id booking hbooking).2 (.inr (.inl hpaid))
      have hcleaned : CleanedUp (s.cleanupExpiredBookings now (fun _ => .done)) id booking :=
        cleanup_cleanedUp hbooking ⟨hswept, hexpired⟩ haccepts rfl
      obtain ⟨row, hrow, hcancelled⟩ := hcleaned.cancelled
      rw [huntouched.booking, hbooking] at hrow
      cases hrow
      rw [hcancelled] at hswept
      simp [isSwept] at hswept
  · rintro ⟨swept, spared⟩ outcome id booking hbooking
    have hmem := List.mem_of_getElem? hbooking
    refine ⟨?_, ?_⟩
    · intro hwaiting hunpaid hexpired hdone
      obtain ⟨hswept, haccepts⟩ := swept booking hmem hwaiting hunpaid hexpired
      exact cleanup_cleanedUp hbooking ⟨hswept, hexpired⟩ haccepts hdone
    · intro hkept
      by_cases hselected : isSwept booking.status ∧ isExpired now booking
      · have hpaid : paid booking := by
          rcases hkept with hconfirmed | hpaid | hlater
          · rw [hconfirmed] at hselected
            simp [isSwept] at hselected
          · exact hpaid
          · exact absurd hselected.2 hlater
        obtain ⟨before, hbefore, hafter⟩ := cleanup_split outcome hbooking hselected
        rw [cancelWithoutActor_unauthorised (hbefore.booking.trans hbooking)
          (spared booking hmem hselected.1 hpaid hselected.2)] at hafter
        exact hbefore.trans hafter
      · exact cleanup_untouched outcome hbooking hselected

/-- A booking of one night that waits for its payment. -/
def unpaidNight : StayBooking :=
  { propertyId := 0, roomTypeId := some 0, guestUserId := 4, bookedByUserId := 4, hostUserId := 9,
    checkIn := 10, checkOut := 11, roomsRequested := 1, status := .pendingPayment,
    expiresAt := some 900000000, idempotencyKey := none, flow := .instant, valid_dates := by decide,
    rooms_positive := by decide }

/-- The status of every new booking that is paid at once is not one the sweep selects. -/
theorem expired_payment_stays :
    ¬ Cleans { roomTypes := [], bookings := [unpaidNight] } 900000001 (fun _ => false) := by
  intro cleans
  obtain ⟨row, hrow, hcancelled⟩ :=
    ((cleans (fun _ => .done) 0 unpaidNight rfl).1 (by decide) (by decide) (by decide)
      rfl).cancelled
  cases hrow
  cases hcancelled

end Inventory

end Afcon360.Accommodation
