import Afcon360.Foundation.Run
import Afcon360.Accommodation.Inventory

/-!
# Overbooking

Every interleaving of the transactions of the booking operations. On each night the
rooms of the bookings that stay, and the blocks that belong to none of them, have to
fit into the units of their room type.

`available_units` leaves out the blocks marked booked, on the assumption that their
bookings are counted. A hold that a checkout turns over to a booking is marked booked
at once, when its booking is still open and counted nowhere. A confirmation relies on
the booking's own blocks, which the expiry of somebody else's hold can delete. A
change of dates checks in one transaction and writes in the next.
-/

namespace Afcon360.Accommodation.Inventory

open Foundation

/-- The transactions of the system. `finish` and `abandon` are about the operation
at that place of `underWay`. -/
inductive Move
  | createHold (request : HoldRequest) (now : Instant)
  | convertHold (hold booking : ℕ)
  | createBooking (env : BookingEnv) (request : BookingRequest)
  | confirmBooking (env : ConfirmEnv) (booking : ℕ)
  | approveBooking (booking : ℕ)
  | rejectBooking (booking : ℕ)
  | cancelBooking (booking actor : ℕ) (quoteRefusal : Option String)
  | modifyBookingDates (booking : ℕ) (change : DateChange)
  | checkIn (env : DeskEnv) (booking : ℕ)
  | checkOut (booking : ℕ)
  | refund (booking : ℕ) (full : Bool)
  | expireRoomHolds (now : Instant)
  | releaseExpiredHolds (now : Instant) (holdMinutes batchSize afterBlockedId afterRoomHoldId : ℕ)
  | finish (place : ℕ)
  | abandon (place : ℕ)

/-- The later transactions of an operation. -/
def resume (s : Inventory) : Continuation → Except BookingError Inventory
  | .create id => s.startBooking id
  | .hold hold => .ok { s with holds := s.holds ++ [hold] }
  | .modify id checkIn checkOut valid => .ok (s.finishModify id checkIn checkOut valid)
  | .cancel id => s.transition id .cancelled
  | .expire marked rest => .ok (s.expireHolds marked rest)

/-- The operation at this place is not under way any more. -/
def forget (s : Inventory) (place : ℕ) : Inventory :=
  { s with underWay := s.underWay.eraseIdx place }

/-- A transaction that raises is rolled back. -/
def orElse (s : Inventory) (outcome : Except BookingError Inventory) : Inventory :=
  match outcome with
  | .ok t => t
  | .error _ => s

/-- The tables after a transaction. -/
def after (s : Inventory) : Move → Inventory
  | .createHold request now => s.orElse (s.createHold request now)
  | .convertHold hold booking => s.convertHold hold booking
  | .createBooking env request => s.orElse ((createBooking env s request).map Prod.snd)
  | .confirmBooking env id => s.orElse (confirmBooking env s id)
  | .approveBooking id => s.orElse (s.approveBooking id)
  | .rejectBooking id => s.orElse (s.rejectBooking id)
  | .cancelBooking id actor quoteRefusal => s.orElse (s.cancelBooking id actor quoteRefusal)
  | .modifyBookingDates id change => s.orElse (s.modifyBookingDates id change)
  | .checkIn env id => s.orElse (checkIn env s id)
  | .checkOut id => s.orElse (s.checkOut id)
  | .refund id full => s.orElse (s.refundStatus id full)
  | .expireRoomHolds now => s.expireRoomHolds now
  | .releaseExpiredHolds now holdMinutes batchSize afterBlockedId afterRoomHoldId =>
    s.releaseExpiredHolds now holdMinutes batchSize afterBlockedId afterRoomHoldId
  | .finish place =>
    match s.underWay[place]? with
    | none => s
    | some rest => (s.forget place).orElse ((s.forget place).resume rest)
  | .abandon place => s.forget place

def Step (s : Inventory) (move : Move) (t : Inventory) : Prop := t = s.after move

/-! ## What is asked -/

/-- The booking stays in a room of this type on this night. -/
def isStayOn (roomTypeId : ℕ) (night : Day) (booking : StayBooking) : Bool :=
  booking.roomTypeId = some roomTypeId ∧ booking.status.isStaying ∧
    covers booking.checkIn booking.checkOut night

/-- The block belongs to a booking that stays. -/
def ownerStays (s : Inventory) (block : InventoryBlock) : Bool :=
  (block.bookingId.bind (s.bookings[·]?)).any (fun booking => booking.status.isStaying)

/-- The units of a room type that are taken on a night. -/
def taken (s : Inventory) (roomTypeId : ℕ) (night : Day) : ℕ :=
  load StayBooking.roomsRequested (isStayOn roomTypeId night) s.bookings +
    load InventoryBlock.unitsBlocked (fun block => block.roomTypeId = roomTypeId ∧
      covers block.dateRangeStart block.dateRangeEnd night ∧ ¬ s.ownerStays block) s.blocks

/-- No night of any room type is overbooked. -/
def Sound (s : Inventory) : Prop :=
  ∀ roomTypeId roomType night, s.roomTypes[roomTypeId]? = some roomType →
    s.taken roomTypeId night ≤ roomType.totalUnits

/-- The blocks marked booked that meet the dates belong to a booking that stays, or
to this one: `available_units` misses nothing else. -/
def Seen (s : Inventory) (roomTypeId : ℕ) (checkIn checkOut : Day) (own : Option ℕ) : Prop :=
  ∀ block ∈ s.blocks, block.roomTypeId = roomTypeId →
    overlaps block.dateRangeStart block.dateRangeEnd checkIn checkOut → block.reason = .booked →
    s.ownerStays block ∨ own ≠ none ∧ block.bookingId = own

/-- The units are available, and nothing is missed. -/
def Fits (s : Inventory) (roomTypeId : ℕ) (checkIn checkOut : Day) (units : ℕ)
    (own : Option ℕ) : Prop :=
  units ≤ s.availableUnits roomTypeId checkIn checkOut own ∧ s.Seen roomTypeId checkIn checkOut own

/-- The booking's own blocks, on exactly its dates, hold the rooms it asks for. -/
def Held (s : Inventory) (id : ℕ) (booking : StayBooking) (roomTypeId : ℕ) : Prop :=
  booking.roomsRequested ≤ load InventoryBlock.unitsBlocked (fun block =>
    block.roomTypeId = roomTypeId ∧ block.bookingId = some id ∧
      block.dateRangeStart = booking.checkIn ∧ block.dateRangeEnd = booking.checkOut) s.blocks

instance (s : Inventory) (id : ℕ) (booking : StayBooking) (roomTypeId : ℕ) :
    Decidable (s.Held id booking roomTypeId) :=
  inferInstanceAs (Decidable (_ ≤ _))

/-- The units a transaction takes are backed. A new hold or booking needs blocks
marked booked to be counted; a confirmation needs the booking's own blocks, or enough
available units; the write of new dates needs them to be available still. -/
def Backed (s : Inventory) : Move → Prop
  | .createHold request _ => ∀ roomTypeId, s.multiUnit request.roomTypeId = some roomTypeId →
      s.Seen roomTypeId request.checkIn request.checkOut none
  | .createBooking _ request => request.skipHoldCreation = false →
      ∀ roomTypeId, s.resolveRoomType request = some roomTypeId →
        s.Seen roomTypeId request.checkIn request.checkOut none
  | .confirmBooking _ id | .approveBooking id => ∀ booking roomTypeId,
      s.bookings[id]? = some booking → booking.roomTypeId = some roomTypeId →
        s.Held id booking roomTypeId ∨
          s.Fits roomTypeId booking.checkIn booking.checkOut booking.roomsRequested (some id)
  | .finish place => ∀ id checkIn checkOut valid booking roomTypeId,
      s.underWay[place]? = some (.modify id checkIn checkOut valid) →
      s.bookings[id]? = some booking → booking.roomTypeId = some roomTypeId →
      booking.status.isStaying →
        s.Fits roomTypeId checkIn checkOut booking.roomsRequested (some id)
  | _ => True

/-! ## Invariants -/

/-- A block belongs to nobody, or to an open booking on exactly its dates; a booking
whose cancellation is under way has none. -/
structure Owned (s : Inventory) : Prop where
  owner : ∀ block ∈ s.blocks, ∀ id, block.bookingId = some id →
    ∃ booking, s.bookings[id]? = some booking ∧ booking.status.isOpen ∧
      booking.roomTypeId = some block.roomTypeId ∧ block.dateRangeStart = booking.checkIn ∧
      block.dateRangeEnd = booking.checkOut
  released : ∀ id, .cancel id ∈ s.underWay →
    id < s.bookings.length ∧ ∀ block ∈ s.blocks, block.bookingId ≠ some id

/-- The units of the blocks on a night. -/
def blocksOn (roomTypeId : ℕ) (night : Day) (block : InventoryBlock) : Bool :=
  block.roomTypeId = roomTypeId ∧ covers block.dateRangeStart block.dateRangeEnd night

variable {s t : Inventory}

theorem Owned.not_ownerStays (owned : Owned s) {block : InventoryBlock} (h : block ∈ s.blocks) :
    s.ownerStays block = false := by
  unfold ownerStays
  cases hid : block.bookingId with
  | none => rfl
  | some id =>
    obtain ⟨booking, hbooking, hopen, -⟩ := owned.owner block h id hid
    have hnot : booking.status.isStaying = false := by
      by_contra hstays
      rw [Bool.not_eq_false] at hstays
      rw [BookingStatus.not_isOpen_of_isStaying hstays] at hopen
      cases hopen
    simp [hbooking, hnot]

/-- Where every block is owned rightly, all blocks count. -/
theorem Owned.taken_eq (owned : Owned s) (roomTypeId : ℕ) (night : Day) :
    s.taken roomTypeId night =
      load StayBooking.roomsRequested (isStayOn roomTypeId night) s.bookings +
        load InventoryBlock.unitsBlocked (blocksOn roomTypeId night) s.blocks := by
  rw [taken]
  congr 1
  apply le_antisymm
  · apply load_mono
    intro block _ h
    simp only [blocksOn, decide_eq_true_eq] at *
    exact ⟨h.1, h.2.1⟩
  · apply load_mono
    intro block hblock h
    simp only [blocksOn, decide_eq_true_eq] at *
    exact ⟨h.1, h.2, by simp [owned.not_ownerStays hblock]⟩

/-- Units that fit are free on every night of the dates. -/
theorem Fits.night_free (owned : Owned s) {roomTypeId : ℕ} {checkIn checkOut : Day} {units : ℕ}
    {own : Option ℕ} (fits : s.Fits roomTypeId checkIn checkOut units own) (positive : 1 ≤ units)
    {roomType : RoomType} (htype : s.roomTypes[roomTypeId]? = some roomType) {night : Day}
    (hnight : covers checkIn checkOut night) :
    load StayBooking.roomsRequested (isStayOn roomTypeId night) (s.bookingsExcept own) +
      load InventoryBlock.unitsBlocked (fun block => blocksOn roomTypeId night block ∧
        ¬ (own ≠ none ∧ block.bookingId = own)) s.blocks + units ≤ roomType.totalUnits := by
  obtain ⟨havailable, hseen⟩ := fits
  simp only [availableUnits, htype] at havailable
  have hbooked : load StayBooking.roomsRequested (isStayOn roomTypeId night)
      (s.bookingsExcept own) ≤ s.bookedUnits roomTypeId checkIn checkOut own := by
    apply load_mono
    intro booking _ h
    simp only [isStayOn, decide_eq_true_eq] at *
    refine ⟨h.1, ?_, overlaps_of_covers h.2.2 hnight⟩
    simp [BookingStatus.isActive, h.2.1]
  have hblocked : load InventoryBlock.unitsBlocked (fun block => blocksOn roomTypeId night block ∧
      ¬ (own ≠ none ∧ block.bookingId = own)) s.blocks ≤
        s.blockedUnits roomTypeId checkIn checkOut := by
    apply load_mono
    intro block hblock h
    simp only [blocksOn, decide_eq_true_eq] at *
    obtain ⟨⟨hroom, hcovers⟩, hother⟩ := h
    have hmeets := overlaps_of_covers hcovers hnight
    refine ⟨hroom, hmeets, ?_⟩
    intro hreason
    obtain hstays | hown := hseen block hblock hroom hmeets hreason
    · rw [owned.not_ownerStays hblock] at hstays
      cases hstays
    · exact hother hown
  omega

/-- What every reachable state satisfies. -/
structure Inv (s : Inventory) : Prop where
  sound : Sound s
  owned : Owned s

/-- The tables `t` has beside those of `s`: blocks are only deleted, and a booking
whose cancellation gets under way has none left. -/
structure Shrinks (s t : Inventory) : Prop where
  roomTypes : t.roomTypes = s.roomTypes
  blocks : t.blocks.Sublist s.blocks
  released : ∀ id, .cancel id ∈ t.underWay → .cancel id ∈ s.underWay ∨
    id < s.bookings.length ∧ ∀ block ∈ t.blocks, block.bookingId ≠ some id

/-- The night counts of a state that is owned rightly, as the two tables give them. -/
theorem Inv.fits (inv : Inv s) {roomTypeId : ℕ} {roomType : RoomType}
    (htype : s.roomTypes[roomTypeId]? = some roomType) (night : Day) :
    load StayBooking.roomsRequested (isStayOn roomTypeId night) s.bookings +
      load InventoryBlock.unitsBlocked (blocksOn roomTypeId night) s.blocks ≤
        roomType.totalUnits := by
  rw [← inv.owned.taken_eq]
  exact inv.sound roomTypeId roomType night htype

theorem Inv.of_fits (owned : Owned s)
    (h : ∀ roomTypeId roomType night, s.roomTypes[roomTypeId]? = some roomType →
      load StayBooking.roomsRequested (isStayOn roomTypeId night) s.bookings +
        load InventoryBlock.unitsBlocked (blocksOn roomTypeId night) s.blocks ≤
          roomType.totalUnits) : Inv s := by
  refine ⟨?_, owned⟩
  intro roomTypeId roomType night htype
  rw [owned.taken_eq]
  exact h roomTypeId roomType night htype

theorem Shrinks.load_blocks_le (shrinks : Shrinks s t) (roomTypeId : ℕ) (night : Day) :
    load InventoryBlock.unitsBlocked (blocksOn roomTypeId night) t.blocks ≤
      load InventoryBlock.unitsBlocked (blocksOn roomTypeId night) s.blocks :=
  load_sublist_le shrinks.blocks

theorem Inv.of_same_bookings (inv : Inv s) (shrinks : Shrinks s t)
    (same : t.bookings = s.bookings) : Inv t := by
  have owned : Owned t := by
    constructor
    · intro block hblock id hid
      rw [same]
      exact inv.owned.owner block (shrinks.blocks.subset hblock) id hid
    · intro id hid
      rw [same]
      obtain hold | hnew := shrinks.released id hid
      · obtain ⟨hlen, hnone⟩ := inv.owned.released id hold
        exact ⟨hlen, fun block hblock => hnone block (shrinks.blocks.subset hblock)⟩
      · exact hnew
  apply Inv.of_fits owned
  intro roomTypeId roomType night htype
  rw [shrinks.roomTypes] at htype
  have hbefore := inv.fits htype night
  have hblocks := shrinks.load_blocks_le roomTypeId night
  rw [same]
  omega

variable {id : ℕ} {old new : StayBooking}

/-- A row of the bookings was rewritten, and it is still the owner of its blocks or
has none. -/
theorem Owned.set (owned : Owned s) (shrinks : Shrinks s t)
    (hrow : s.bookings[id]? = some old) (hset : t.bookings = s.bookings.set id new)
    (own : new.status.isOpen ∧ new.roomTypeId = old.roomTypeId ∧ new.checkIn = old.checkIn ∧
        new.checkOut = old.checkOut ∨
      ∀ block ∈ t.blocks, block.bookingId ≠ some id) : Owned t := by
  have hlen : id < s.bookings.length := (List.getElem?_eq_some_iff.mp hrow).1
  constructor
  · intro block hblock owner howner
    obtain ⟨booking, hbooking, hopen, hrest⟩ :=
      owned.owner block (shrinks.blocks.subset hblock) owner howner
    by_cases hid : owner = id
    · subst hid
      obtain rfl : old = booking := Option.some.inj (hrow.symm.trans hbooking)
      obtain ⟨hnew, htype, hin, hout⟩ | hnone := own
      · refine ⟨new, ?_, hnew, ?_⟩
        · rw [hset, List.getElem?_set_self hlen]
        · rw [htype, hin, hout]
          exact hrest
      · exact absurd howner (hnone block hblock)
    · refine ⟨booking, ?_, hopen, hrest⟩
      rw [hset, List.getElem?_set_ne (Ne.symm hid)]
      exact hbooking
  · intro owner howner
    rw [hset, List.length_set]
    obtain hold | hnew := shrinks.released owner howner
    · obtain ⟨hlen', hnone⟩ := owned.released owner hold
      exact ⟨hlen', fun block hblock => hnone block (shrinks.blocks.subset hblock)⟩
    · exact hnew

/-- A row of the bookings was rewritten and stays on no new night. -/
theorem Inv.of_set (inv : Inv s) (shrinks : Shrinks s t)
    (hrow : s.bookings[id]? = some old) (hset : t.bookings = s.bookings.set id new)
    (rooms : new.roomsRequested = old.roomsRequested)
    (stays : ∀ roomTypeId night, isStayOn roomTypeId night new → isStayOn roomTypeId night old)
    (own : new.status.isOpen ∧ new.roomTypeId = old.roomTypeId ∧ new.checkIn = old.checkIn ∧
        new.checkOut = old.checkOut ∨
      ∀ block ∈ t.blocks, block.bookingId ≠ some id) : Inv t := by
  apply Inv.of_fits (inv.owned.set shrinks hrow hset own)
  intro roomTypeId roomType night htype
  rw [shrinks.roomTypes] at htype
  have hbefore := inv.fits htype night
  have hblocks := shrinks.load_blocks_le roomTypeId night
  have herase : load StayBooking.roomsRequested (isStayOn roomTypeId night)
      (s.bookings.eraseIdx id) + _ = _ := load_eraseIdx _ _ hrow
  have hshare : load StayBooking.roomsRequested (isStayOn roomTypeId night) [new] ≤
      load StayBooking.roomsRequested (isStayOn roomTypeId night) [old] := by
    rw [load_singleton, load_singleton]
    by_cases hnew : isStayOn roomTypeId night new
    · rw [if_pos hnew, if_pos (stays roomTypeId night hnew), rooms]
    · rw [if_neg hnew]
      exact Nat.zero_le _
  rw [hset, load_set hrow]
  omega

variable {booking : StayBooking}

/-- All blocks of a booking are on exactly its dates, so dropping its own blocks
leaves none. -/
theorem Owned.dropOwnBlocks_none (owned : Owned s) (hrow : s.bookings[id]? = some booking) :
    ∀ block ∈ (s.dropOwnBlocks id booking).blocks, block.bookingId ≠ some id := by
  intro block hblock hid
  unfold dropOwnBlocks at hblock
  split at hblock
  case h_1 hnone =>
    obtain ⟨owner, howner, -, htype, -⟩ := owned.owner block hblock id hid
    obtain rfl : booking = owner := Option.some.inj (hrow.symm.trans howner)
    rw [hnone] at htype
    cases htype
  case h_2 roomTypeId hsome =>
    obtain ⟨hmem, hkept⟩ := List.mem_filter.mp hblock
    obtain ⟨owner, howner, -, htype, hin, hout⟩ := owned.owner block hmem id hid
    obtain rfl : booking = owner := Option.some.inj (hrow.symm.trans howner)
    rw [hsome] at htype
    simp [← Option.some.inj htype, hin, hout, hid] at hkept

theorem dropOwnBlocks_sublist (s : Inventory) (id : ℕ) (booking : StayBooking) :
    (s.dropOwnBlocks id booking).blocks.Sublist s.blocks := by
  unfold dropOwnBlocks
  split
  · exact List.Sublist.refl _
  · exact List.filter_sublist

/-- A booking that takes its place fits on a night where its own blocks held its
rooms: what they held is dropped. -/
theorem Held.night_fits (inv : Inv s) {roomTypeId : ℕ}
    (held : s.Held id booking roomTypeId) (hroom : booking.roomTypeId = some roomTypeId)
    {roomType : RoomType} (htype : s.roomTypes[roomTypeId]? = some roomType) {night : Day}
    (hnight : covers booking.checkIn booking.checkOut night) :
    load StayBooking.roomsRequested (isStayOn roomTypeId night) (s.bookings.eraseIdx id) +
      load InventoryBlock.unitsBlocked (blocksOn roomTypeId night)
        (s.dropOwnBlocks id booking).blocks + booking.roomsRequested ≤ roomType.totalUnits := by
  have hbefore := inv.fits htype night
  have hbookings : load StayBooking.roomsRequested (isStayOn roomTypeId night)
      (s.bookings.eraseIdx id) ≤ _ := load_sublist_le (s.bookings.eraseIdx_sublist id)
  -- The dropped blocks and those that are kept are different blocks of this night.
  have happart : load InventoryBlock.unitsBlocked (blocksOn roomTypeId night)
      (s.dropOwnBlocks id booking).blocks + load InventoryBlock.unitsBlocked (fun block =>
        block.roomTypeId = roomTypeId ∧ block.bookingId = some id ∧
          block.dateRangeStart = booking.checkIn ∧ block.dateRangeEnd = booking.checkOut) s.blocks ≤
      load InventoryBlock.unitsBlocked (blocksOn roomTypeId night) s.blocks := by
    simp only [dropOwnBlocks, hroom, releaseRoomTypeBlocks]
    rw [load_filter]
    apply load_add_le
    · intro block _ h
      exact (Bool.and_eq_true_iff.mp h).1
    · intro block _ h
      simp only [decide_eq_true_eq] at h
      obtain ⟨hblock, -, hin, hout⟩ := h
      simp only [blocksOn, hblock, hin, hout, hnight, decide_eq_true_eq]
      exact ⟨trivial, trivial⟩
    · rintro block - ⟨hkept, hown⟩
      simp only [decide_eq_true_eq] at hown
      obtain ⟨hblock, hid, hin, hout⟩ := hown
      simp [hblock, hid, hin, hout] at hkept
  have hheld : booking.roomsRequested ≤ _ := held
  omega

/-- A booking takes its rooms: it gives up its blocks and stays. -/
theorem Inv.of_occupy (inv : Inv s)
    (hrow : s.bookings[id]? = some old) (hset : t.bookings = s.bookings.set id new)
    (hroomTypes : t.roomTypes = s.roomTypes) (hunderWay : t.underWay = s.underWay)
    (hblocks : t.blocks = (s.dropOwnBlocks id old).blocks)
    (rooms : new.roomsRequested = old.roomsRequested) (htype : new.roomTypeId = old.roomTypeId)
    (hin : new.checkIn = old.checkIn) (hout : new.checkOut = old.checkOut)
    (backed : ∀ roomTypeId, old.roomTypeId = some roomTypeId → s.Held id old roomTypeId ∨
      s.Fits roomTypeId old.checkIn old.checkOut old.roomsRequested (some id)) : Inv t := by
  have hnone := inv.owned.dropOwnBlocks_none hrow
  have hsub : t.blocks.Sublist s.blocks := by
    rw [hblocks]
    exact s.dropOwnBlocks_sublist id old
  have shrinks : Shrinks s t := by
    refine ⟨hroomTypes, hsub, ?_⟩
    intro other hother
    rw [hunderWay] at hother
    exact .inl hother
  rw [← hblocks] at hnone
  apply Inv.of_fits (inv.owned.set shrinks hrow hset (.inr hnone))
  intro roomTypeId roomType night hroom
  rw [hroomTypes] at hroom
  have hbefore := inv.fits hroom night
  have hload := shrinks.load_blocks_le roomTypeId night
  have herase : load StayBooking.roomsRequested (isStayOn roomTypeId night)
      (s.bookings.eraseIdx id) + _ = _ := load_eraseIdx _ _ hrow
  rw [hset, load_set hrow, load_singleton]
  by_cases hnew : isStayOn roomTypeId night new
  · rw [if_pos hnew, rooms]
    simp only [isStayOn, decide_eq_true_eq] at hnew
    obtain ⟨hrt, -, hnight⟩ := hnew
    rw [hin, hout] at hnight
    rw [htype] at hrt
    obtain held | fits := backed roomTypeId hrt
    · have hfits := held.night_fits inv hrt hroom hnight
      rw [← hblocks] at hfits
      omega
    · have hfree := fits.night_free inv.owned old.rooms_positive hroom hnight
      have hothers : load InventoryBlock.unitsBlocked (blocksOn roomTypeId night) t.blocks ≤
          load InventoryBlock.unitsBlocked (fun block => blocksOn roomTypeId night block ∧
            ¬ (some id ≠ none ∧ block.bookingId = some id)) s.blocks := by
        refine le_trans (load_mono ?_) (load_sublist_le hsub)
        intro block hblock h
        simp [h, hnone block hblock]
      simp only [bookingsExcept] at hfree
      omega
  · rw [if_neg hnew]
    omega

/-- Units that are available are blocked. -/
theorem Inv.of_block (inv : Inv s) {block : InventoryBlock}
    (hroomTypes : t.roomTypes = s.roomTypes) (hbookings : t.bookings = s.bookings)
    (hblocks : t.blocks = s.blocks ++ [block])
    (hunderWay : ∀ id, .cancel id ∈ t.underWay → .cancel id ∈ s.underWay)
    (fits : s.Fits block.roomTypeId block.dateRangeStart block.dateRangeEnd
      block.unitsBlocked none)
    (howner : ∀ id, block.bookingId = some id → ¬ .cancel id ∈ s.underWay ∧
      ∃ booking, s.bookings[id]? = some booking ∧ booking.status.isOpen ∧
        booking.roomTypeId = some block.roomTypeId ∧ block.dateRangeStart = booking.checkIn ∧
        block.dateRangeEnd = booking.checkOut) : Inv t := by
  have owned : Owned t := by
    constructor
    · intro row hrow id hid
      rw [hbookings]
      rw [hblocks, List.mem_append, List.mem_singleton] at hrow
      obtain hold | rfl := hrow
      · exact inv.owned.owner row hold id hid
      · exact (howner id hid).2
    · intro id hid
      rw [hbookings]
      obtain ⟨hlen, hnone⟩ := inv.owned.released id (hunderWay id hid)
      refine ⟨hlen, ?_⟩
      intro row hrow hrowid
      rw [hblocks, List.mem_append, List.mem_singleton] at hrow
      obtain hold | rfl := hrow
      · exact hnone row hold hrowid
      · exact (howner id hrowid).1 (hunderWay id hid)
  apply Inv.of_fits owned
  intro roomTypeId roomType night htype
  rw [hroomTypes] at htype
  have hbefore := inv.fits htype night
  rw [hbookings, hblocks, load_append, load_singleton]
  by_cases hon : blocksOn roomTypeId night block
  · rw [if_pos hon]
    simp only [blocksOn, decide_eq_true_eq] at hon
    obtain ⟨rfl, hnight⟩ := hon
    obtain hzero | hpos := Nat.eq_zero_or_pos block.unitsBlocked
    · omega
    · have hfree := fits.night_free inv.owned hpos htype hnight
      have hall : load InventoryBlock.unitsBlocked (blocksOn block.roomTypeId night) s.blocks ≤
          load InventoryBlock.unitsBlocked (fun row => blocksOn block.roomTypeId night row ∧
            ¬ ((none : Option ℕ) ≠ none ∧ row.bookingId = none)) s.blocks := by
        apply load_mono
        intro row _ h
        simp [h]
      simp only [bookingsExcept] at hfree
      omega
  · rw [if_neg hon]
    omega

theorem Inv.of_insert (inv : Inv s) {draft : StayBooking} (hnot : draft.status.isStaying = false) :
    Inv { s with bookings := s.bookings ++ [draft] } := by
  apply Inv.of_fits
  · constructor
    · intro block hblock id hid
      obtain ⟨booking, hbooking, hrest⟩ := inv.owned.owner block hblock id hid
      refine ⟨booking, ?_, hrest⟩
      exact List.getElem?_append_left (List.getElem?_eq_some_iff.mp hbooking).1 ▸ hbooking
    · intro id hid
      obtain ⟨hlen, hnone⟩ := inv.owned.released id hid
      refine ⟨?_, hnone⟩
      rw [List.length_append]
      omega
  · intro roomTypeId roomType night htype
    have hbefore := inv.fits htype night
    have hshare : load StayBooking.roomsRequested (isStayOn roomTypeId night) [draft] = 0 := by
      rw [load_singleton, if_neg]
      simp [isStayOn, hnot]
    simp only [load_append]
    omega

/-- Holds on the dates of an open booking become its own. -/
theorem Inv.of_adopt (inv : Inv s)
    (hrow : s.bookings[id]? = some booking) (hopen : booking.status.isOpen)
    (hnew : ¬ .cancel id ∈ s.underWay) : Inv (s.adoptHolds id booking) := by
  apply Inv.of_fits
  · constructor
    · intro block hblock owner howner
      obtain ⟨row, hmem, rfl⟩ := List.mem_map.mp hblock
      split at howner
      case isTrue hadopted =>
        obtain rfl : id = owner := Option.some.inj howner
        rw [if_pos hadopted]
        obtain ⟨htype, hin, hout, -⟩ := hadopted
        exact ⟨booking, hrow, hopen, htype.symm, hin, hout⟩
      case isFalse hkept =>
        rw [if_neg hkept]
        exact inv.owned.owner row hmem owner howner
    · intro other hother
      obtain ⟨hlen, hnone⟩ := inv.owned.released other hother
      refine ⟨hlen, ?_⟩
      intro block hblock howner
      obtain ⟨row, hmem, rfl⟩ := List.mem_map.mp hblock
      split at howner
      · obtain rfl : id = other := Option.some.inj howner
        exact hnew hother
      · exact hnone row hmem howner
  · intro roomTypeId roomType night htype
    have hbefore := inv.fits htype night
    have hsame : load InventoryBlock.unitsBlocked (blocksOn roomTypeId night)
        (s.adoptHolds id booking).blocks ≤
          load InventoryBlock.unitsBlocked (blocksOn roomTypeId night) s.blocks := by
      apply load_map_le
      · intro row _
        split <;> rfl
      · intro row _ h
        split at h <;> exact h
    change load StayBooking.roomsRequested (isStayOn roomTypeId night) s.bookings + _ ≤ _
    omega

/-! ## The operations -/

theorem transition_ok {new : BookingStatus} (h : s.transition id new = .ok t) :
    ∃ booking, s.bookings[id]? = some booking ∧ new ∈ booking.status.validTransitions ∧
      t = { s with
        bookings := s.bookings.set id { booking with status := new }
        history := s.history ++ [⟨id, .booking booking.status, .booking new⟩] } := by
  unfold transition at h
  split at h
  case h_1 => cases h
  case h_2 booking hrow =>
    rw [check_bind_eq_ok, require_eq_ok, pure_eq_ok] at h
    exact ⟨booking, hrow, h.1, h.2.symm⟩

/-- A booking that is not open owns no blocks. -/
theorem Owned.none_of_not_open (owned : Owned s)
    (hrow : s.bookings[id]? = some booking) (hclosed : booking.status.isOpen = false) :
    ∀ block ∈ s.blocks, block.bookingId ≠ some id := by
  intro block hblock hid
  obtain ⟨owner, howner, hopen, -⟩ := owned.owner block hblock id hid
  obtain rfl : booking = owner := Option.some.inj (hrow.symm.trans howner)
  rw [hclosed] at hopen
  cases hopen

theorem Inv.of_transition (inv : Inv s) {new : BookingStatus} (h : s.transition id new = .ok t)
    (stays : new.isStaying → ∀ booking, s.bookings[id]? = some booking → booking.status.isStaying)
    (own : new.isOpen ∨ ∀ block ∈ s.blocks, block.bookingId ≠ some id) : Inv t := by
  obtain ⟨booking, hrow, -, rfl⟩ := transition_ok h
  have shrinks : Shrinks s { s with
      bookings := s.bookings.set id { booking with status := new }
      history := s.history ++ [⟨id, .booking booking.status, .booking new⟩] } :=
    ⟨rfl, List.Sublist.refl _, fun _ h => .inl h⟩
  apply inv.of_set shrinks hrow rfl rfl
  · intro roomTypeId night hstay
    simp only [isStayOn, decide_eq_true_eq] at *
    exact ⟨hstay.1, stays hstay.2.1 booking hrow, hstay.2.2⟩
  · obtain hopen | hnone := own
    · exact .inl ⟨hopen, rfl, rfl, rfl⟩
    · exact .inr hnone

theorem Inv.of_orElse (inv : Inv s) {outcome : Except BookingError Inventory}
    (h : ∀ t, outcome = .ok t → Inv t) : Inv (s.orElse outcome) := by
  cases outcome with
  | error _ => exact inv
  | ok t => exact h t rfl

theorem createHold_inv (inv : Inv s) {request : HoldRequest} {now : Instant}
    (backed : s.Backed (.createHold request now)) (h : s.createHold request now = .ok t) :
    Inv t := by
  unfold createHold at h
  split at h
  case h_1 => cases h
  case h_2 hold _ =>
    split at h
    case h_1 roomTypeId hmulti =>
      simp only [check_bind_eq_ok, require_eq_ok, pure_eq_ok] at h
      obtain ⟨havailable, rfl⟩ := h
      refine inv.of_block rfl rfl rfl (fun _ h => h) ⟨havailable, backed roomTypeId hmulti⟩ ?_
      intro id hid
      cases hid
    case h_2 =>
      simp only [check_bind_eq_ok, require_eq_ok, pure_eq_ok] at h
      obtain ⟨-, rfl⟩ := h
      refine inv.of_same_bookings ⟨rfl, List.Sublist.refl _, ?_⟩ rfl
      intro id hid
      simp only [suspend, blockDates, List.mem_append, List.mem_singleton, reduceCtorEq,
        or_false] at hid
      exact .inl hid

theorem convertHold_inv (inv : Inv s) (hold booking : ℕ) : Inv (s.convertHold hold booking) := by
  unfold convertHold
  split
  · exact inv
  · split
    · exact inv.of_same_bookings ⟨rfl, List.Sublist.refl _, fun _ h => .inl h⟩ rfl
    · exact inv

theorem startBooking_inv (inv : Inv s) (h : s.startBooking id = .ok t) : Inv t := by
  unfold startBooking at h
  split at h
  case h_1 => cases h
  case h_2 booking _ =>
    obtain ⟨held, hheld, hstarted⟩ := bind_eq_ok.mp h
    have hinv : Inv held := inv.of_transition hheld (fun h => by cases h) (.inl rfl)
    have hstatus : booking.flow.firstStatus.isStaying = false ∧
        booking.flow.firstStatus.isOpen = true := by
      cases booking.flow <;> exact ⟨rfl, rfl⟩
    apply hinv.of_transition hstarted
    · intro hstays
      rw [hstatus.1] at hstays
      cases hstays
    · exact .inl hstatus.2

theorem draft?_status {env : BookingEnv} {request : BookingRequest} {roomTypeId : Option ℕ}
    {draft : StayBooking} (h : request.draft? env roomTypeId = .ok draft) :
    draft.status = .draft ∧ draft.roomTypeId = roomTypeId ∧ draft.checkIn = request.checkIn ∧
      draft.checkOut = request.checkOut := by
  unfold BookingRequest.draft? at h
  split at h
  · split at h
    · cases h
      exact ⟨rfl, rfl, rfl, rfl⟩
    · cases h
  · cases h

theorem blockRoomTypeUnits_ok {roomTypeId : ℕ} {checkIn checkOut : Day} {units : ℕ}
    {reason : BlockReason} {bookingId createdBy : Option ℕ}
    (h : s.blockRoomTypeUnits roomTypeId checkIn checkOut units reason bookingId createdBy =
      .ok t) :
    units ≤ s.availableUnits roomTypeId checkIn checkOut none ∧
      t = { s with
        blocks := s.blocks ++
          [⟨roomTypeId, bookingId, checkIn, checkOut, units, reason, createdBy⟩] } := by
  unfold blockRoomTypeUnits at h
  simp only [check_bind_eq_ok, require_eq_ok, pure_eq_ok] at h
  obtain ⟨-, havailable, -, rfl⟩ := h
  exact ⟨havailable, rfl⟩

theorem blockForBooking_ok {env : BookingEnv} {request : BookingRequest}
    {roomTypeId : Option ℕ} (h : s.blockForBooking env request id roomTypeId = some t) :
    (roomTypeId = none ∧ t = s.blockDates request.propertyId request.checkIn request.checkOut
        .temporaryHold (some id) (some request.guestUserId) env.now) ∨
      ∃ typeId, roomTypeId = some typeId ∧
        request.roomsRequested ≤ s.availableUnits typeId request.checkIn request.checkOut none ∧
        t = { s with
          blocks := s.blocks ++ [⟨typeId, some id, request.checkIn, request.checkOut,
            request.roomsRequested, .temporaryHold, some request.guestUserId⟩] } := by
  cases roomTypeId with
  | none =>
    cases h
    exact .inl ⟨rfl, rfl⟩
  | some typeId =>
    simp only [blockForBooking] at h
    split at h
    · rename_i blocked hblocked
      cases h
      exact .inr ⟨typeId, rfl, blockRoomTypeUnits_ok hblocked⟩
    · cases h

theorem createBooking_inv (inv : Inv s) {env : BookingEnv} {request : BookingRequest}
    (backed : s.Backed (.createBooking env request))
    (h : createBooking env s request = .ok (id, t)) : Inv t := by
  unfold createBooking at h
  obtain ⟨draft, hdraft, h⟩ := bind_eq_ok.mp h
  obtain ⟨hstatus, htype, hin, hout⟩ := draft?_status hdraft
  obtain ⟨-, h⟩ := check_bind_eq_ok.mp h
  have hnew : ¬ .cancel s.bookings.length ∈ s.underWay := by
    intro hmem
    have hlen := (inv.owned.released _ hmem).1
    omega
  have hinserted : Inv (s.insertBooking draft) := by
    apply inv.of_insert
    rw [hstatus]
    rfl
  have hrow : (s.bookings ++ [draft])[s.bookings.length]? = some draft := by simp
  split at h
  case h_1 =>
    cases h
    exact inv
  case h_2 =>
    obtain ⟨-, h⟩ := check_bind_eq_ok.mp h
    obtain ⟨-, h⟩ := check_bind_eq_ok.mp h
    split at h
    case isTrue =>
      obtain ⟨started, hstarted, h⟩ := bind_eq_ok.mp h
      cases h
      refine startBooking_inv ?_ hstarted
      exact hinserted.of_adopt hrow (by rw [hstatus]; rfl) hnew
    case isFalse hskip =>
      dsimp only at h
      split at h
      case h_1 blocked hblocked =>
        cases h
        obtain ⟨-, rfl⟩ | ⟨roomTypeId, hroom, havailable, rfl⟩ := blockForBooking_ok hblocked
        · refine hinserted.of_same_bookings ⟨rfl, List.Sublist.refl _, ?_⟩ rfl
          intro other hother
          simp only [suspend, blockDates, List.mem_append, List.mem_singleton, reduceCtorEq,
            or_false] at hother
          exact .inl hother
        · refine hinserted.of_block rfl rfl rfl ?_ ⟨havailable, ?_⟩ ?_
          · intro other hother
            simp only [suspend, List.mem_append, List.mem_singleton, reduceCtorEq,
              or_false] at hother
            exact hother
          · -- No block of a booking that stays is left, so nothing marked booked is there.
            intro block hblock hroomType hmeets hreason
            have hseen := backed (by simpa using hskip) roomTypeId hroom block hblock hroomType
              hmeets hreason
            rw [inv.owned.not_ownerStays hblock] at hseen
            simp at hseen
          · intro other hother
            obtain rfl : s.bookings.length = other := Option.some.inj hother
            refine ⟨hnew, draft, hrow, ?_, ?_, hin.symm, hout.symm⟩
            · rw [hstatus]
              rfl
            · rw [htype, hroom]
      case h_2 =>
        obtain ⟨started, hstarted, h⟩ := bind_eq_ok.mp h
        cases h
        exact startBooking_inv hinserted hstarted

theorem markPaid_ok (h : s.markPaid id booking = .ok t) :
    ∃ history, t = { s with
      bookings := s.bookings.set id { booking with payment := some .paid }, history } := by
  unfold markPaid at h
  simp only [check_bind_eq_ok, require_eq_ok, pure_eq_ok] at h
  exact ⟨_, h.2.symm⟩

@[simp] theorem dropOwnBlocks_bookings (id : ℕ) (booking : StayBooking) :
    (s.dropOwnBlocks id booking).bookings = s.bookings := by
  unfold dropOwnBlocks
  split <;> rfl

@[simp] theorem dropOwnBlocks_roomTypes (id : ℕ) (booking : StayBooking) :
    (s.dropOwnBlocks id booking).roomTypes = s.roomTypes := by
  unfold dropOwnBlocks
  split <;> rfl

@[simp] theorem dropOwnBlocks_underWay (id : ℕ) (booking : StayBooking) :
    (s.dropOwnBlocks id booking).underWay = s.underWay := by
  unfold dropOwnBlocks
  split <;> rfl

theorem dropOwnBlocks_blocks_congr {s' : Inventory} (h : s'.blocks = s.blocks) (id : ℕ)
    (booking : StayBooking) :
    (s'.dropOwnBlocks id booking).blocks = (s.dropOwnBlocks id booking).blocks := by
  unfold dropOwnBlocks
  split
  · exact h
  · simp only [releaseRoomTypeBlocks, h]

theorem bookDates_blocks (id : ℕ) : (s.bookDates id).blocks = s.blocks := rfl

/-! ### What an operation that succeeds does -/

theorem confirmBooking_ok {env : ConfirmEnv} (h : confirmBooking env s id = .ok t) :
    ∃ booking paid, s.bookings[id]? = some booking ∧
      ((s.bookDates id).dropOwnBlocks id booking).markPaid id booking = .ok paid ∧
      paid.transition id .confirmed = .ok t := by
  unfold confirmBooking at h
  split at h
  case h_1 => cases h
  case h_2 booking hrow =>
    obtain ⟨-, -, -, -, -, h⟩ := by simpa only [check_bind_eq_ok] using h
    split at h
    case h_1 => cases h
    case h_2 =>
      obtain ⟨paid, hpaid, hconfirmed⟩ := bind_eq_ok.mp h
      exact ⟨booking, paid, hrow, hpaid, hconfirmed⟩

theorem approveBooking_ok (h : s.approveBooking id = .ok t) :
    ∃ booking, s.bookings[id]? = some booking ∧
      ((s.bookDates id).dropOwnBlocks id booking).transition id .confirmed = .ok t := by
  unfold approveBooking at h
  split at h
  case h_1 => cases h
  case h_2 booking hrow =>
    obtain ⟨-, h⟩ := check_bind_eq_ok.mp h
    exact ⟨booking, hrow, h⟩

/-- Blocks are released and the transition is left for later, or there are none. -/
theorem releaseAndCancel_ok (h : s.releaseAndCancel id booking = .ok t) :
    (booking.roomTypeId = none ∧ (s.dropDates id).transition id .cancelled = .ok t) ∨
      t = ((s.dropDates id).dropOwnBlocks id booking).suspend (.cancel id) := by
  unfold releaseAndCancel at h
  split at h
  case h_1 htype => exact .inl ⟨htype, h⟩
  case h_2 => exact .inr (Except.ok.inj h).symm

theorem rejectBooking_ok (h : s.rejectBooking id = .ok t) :
    ∃ booking, s.bookings[id]? = some booking ∧ booking.status = .pendingApproval ∧
      s.releaseAndCancel id booking = .ok t := by
  unfold rejectBooking at h
  split at h
  case h_1 => cases h
  case h_2 booking hrow =>
    rw [check_bind_eq_ok, require_eq_ok] at h
    exact ⟨booking, hrow, h⟩

theorem cancelBooking_ok {id actor : ℕ} {quoteRefusal : Option String}
    (h : s.cancelBooking id actor quoteRefusal = .ok t) :
    ∃ booking, s.bookings[id]? = some booking ∧ booking.status.isCancellable ∧
      s.releaseAndCancel id booking = .ok t := by
  unfold cancelBooking at h
  split at h
  case h_1 => cases h
  case h_2 booking hrow =>
    obtain ⟨-, hcancellable, h⟩ := by simpa only [check_bind_eq_ok, require_eq_ok] using h
    split at h
    case h_1 => cases h
    case h_2 => exact ⟨booking, hrow, hcancellable, h⟩

/-- The blocks are released, or the dates are blocked instead, and the new dates are left for
later. -/
theorem modifyBookingDates_ok {change : DateChange} (h : s.modifyBookingDates id change = .ok t) :
    ∃ booking checkIn checkOut, ∃ valid : checkIn < checkOut, s.bookings[id]? = some booking ∧
      (t = ((s.dropDates id).dropOwnBlocks id booking).suspend
          (.modify id checkIn checkOut valid) ∨
        t = (((s.dropDates id).dropOwnBlocks id booking).blockDates booking.propertyId checkIn
          checkOut .booked (some id) (some change.hostUserId) change.now).suspend
            (.modify id checkIn checkOut valid)) := by
  unfold modifyBookingDates at h
  split at h
  case h_1 => cases h
  case h_2 booking hrow =>
    obtain ⟨-, -, -, -, -, -, h⟩ := by simpa only [check_bind_eq_ok] using h
    split at h
    case isFalse => cases h
    case isTrue valid =>
      obtain ⟨-, -, -, h⟩ := by simpa only [check_bind_eq_ok] using h
      refine ⟨booking, _, _, valid, hrow, ?_⟩
      split at h
      case h_1 => cases h
      case h_2 =>
        split at h
        · exact .inl (pure_eq_ok.mp h).symm
        · exact .inr (pure_eq_ok.mp h).symm

theorem checkIn_ok {env : DeskEnv} (h : checkIn env s id = .ok t) :
    ∃ booking, s.bookings[id]? = some booking ∧ booking.status = .confirmed ∧
      transition { s with bookings := s.bookings.set id { booking with isCheckedIn := true } }
        id .checkedIn = .ok t := by
  unfold checkIn at h
  split at h
  case h_1 => cases h
  case h_2 booking hrow =>
    obtain ⟨-, hready, h⟩ := by simpa only [check_bind_eq_ok, require_eq_ok] using h
    split at h
    case h_1 => cases h
    case h_2 => exact ⟨booking, hrow, hready.1, (check_bind_eq_ok.mp h).2⟩

theorem checkOut_ok (h : s.checkOut id = .ok t) :
    ∃ booking, s.bookings[id]? = some booking ∧ booking.status = .checkedIn ∧
      transition { s with bookings := s.bookings.set id { booking with isCheckedOut := true } }
        id .checkedOut = .ok t := by
  unfold checkOut at h
  split at h
  case h_1 => cases h
  case h_2 booking hrow =>
    obtain ⟨hstatus, -, h⟩ := by simpa only [check_bind_eq_ok, require_eq_ok] using h
    exact ⟨booking, hrow, hstatus, h⟩

/-! ### They keep the invariant -/

theorem confirmBooking_inv (inv : Inv s) {env : ConfirmEnv}
    (backed : s.Backed (.confirmBooking env id)) (h : confirmBooking env s id = .ok t) :
    Inv t := by
  obtain ⟨booking, paid, hrow, hpaid, hconfirmed⟩ := confirmBooking_ok h
  obtain ⟨history, rfl⟩ := markPaid_ok hpaid
  obtain ⟨marked, hmarked, -, rfl⟩ := transition_ok hconfirmed
  have hlen : id < s.bookings.length := (List.getElem?_eq_some_iff.mp hrow).1
  simp only [dropOwnBlocks_bookings] at hmarked
  rw [show (s.bookDates id).bookings = s.bookings from rfl,
    List.getElem?_set_self hlen] at hmarked
  cases hmarked
  have hset : ((((s.bookDates id).dropOwnBlocks id booking).bookings.set id
      { booking with payment := some .paid }).set id
      { booking with payment := some .paid, status := .confirmed }) =
      s.bookings.set id { booking with payment := some .paid, status := .confirmed } := by
    rw [List.set_set, dropOwnBlocks_bookings]
    rfl
  refine inv.of_occupy hrow hset ?_ ?_ ?_ rfl rfl rfl rfl (backed booking · hrow)
  · simp [bookDates]
  · simp [bookDates]
  · exact dropOwnBlocks_blocks_congr (bookDates_blocks id) id booking

theorem approveBooking_inv (inv : Inv s) (backed : s.Backed (.approveBooking id))
    (h : s.approveBooking id = .ok t) : Inv t := by
  obtain ⟨booking, hrow, h⟩ := approveBooking_ok h
  obtain ⟨marked, hmarked, -, rfl⟩ := transition_ok h
  simp only [dropOwnBlocks_bookings] at hmarked
  obtain rfl : booking = marked := Option.some.inj (hrow.symm.trans hmarked)
  have hset : ((s.bookDates id).dropOwnBlocks id booking).bookings.set id
      { booking with status := .confirmed } =
      s.bookings.set id { booking with status := .confirmed } := by
    rw [dropOwnBlocks_bookings]
    rfl
  refine inv.of_occupy hrow hset ?_ ?_ ?_ rfl rfl rfl rfl (backed booking · hrow)
  · simp [bookDates]
  · simp [bookDates]
  · exact dropOwnBlocks_blocks_congr (bookDates_blocks id) id booking

theorem releaseAndCancel_inv (inv : Inv s)
    (hrow : s.bookings[id]? = some booking) (h : s.releaseAndCancel id booking = .ok t) :
    Inv t := by
  have hdropped : Inv (s.dropDates id) :=
    inv.of_same_bookings ⟨rfl, List.Sublist.refl _, fun _ h => .inl h⟩ rfl
  have hnone := hdropped.owned.dropOwnBlocks_none hrow
  obtain ⟨htype, h⟩ | rfl := releaseAndCancel_ok h
  · apply hdropped.of_transition h
    · intro hstays
      cases hstays
    · rw [dropOwnBlocks, htype] at hnone
      exact .inr hnone
  · refine hdropped.of_same_bookings ⟨?_, ?_, ?_⟩ ?_
    · simp [suspend]
    · exact (s.dropDates id).dropOwnBlocks_sublist id booking
    · intro other hother
      simp only [suspend, dropOwnBlocks_underWay, List.mem_append, List.mem_singleton,
        Continuation.cancel.injEq] at hother
      obtain hold | rfl := hother
      · exact .inl hold
      · exact .inr ⟨(List.getElem?_eq_some_iff.mp hrow).1, hnone⟩
    · simp [suspend]

theorem rejectBooking_inv (inv : Inv s) (h : s.rejectBooking id = .ok t) : Inv t := by
  obtain ⟨booking, hrow, -, h⟩ := rejectBooking_ok h
  exact releaseAndCancel_inv inv hrow h

theorem cancelBooking_inv (inv : Inv s) {id actor : ℕ} {quoteRefusal : Option String}
    (h : s.cancelBooking id actor quoteRefusal = .ok t) : Inv t := by
  obtain ⟨booking, hrow, -, h⟩ := cancelBooking_ok h
  exact releaseAndCancel_inv inv hrow h

theorem Inv.of_dates (inv : Inv s) {blockedDates : List BlockedDate} :
    Inv { s with blockedDates } :=
  inv.of_same_bookings ⟨rfl, List.Sublist.refl _, fun _ h => .inl h⟩ rfl

/-- Nothing is asked of a continuation other than a cancellation. -/
theorem Inv.of_suspend (inv : Inv s) {rest : Continuation} (h : ∀ id, rest ≠ .cancel id) :
    Inv (s.suspend rest) := by
  refine inv.of_same_bookings ⟨rfl, List.Sublist.refl _, ?_⟩ rfl
  intro id hid
  obtain hold | hnew := List.mem_append.mp hid
  · exact .inl hold
  · exact absurd (List.mem_singleton.mp hnew).symm (h id)

theorem Inv.of_dropOwnBlocks (inv : Inv s) (id : ℕ) (booking : StayBooking) :
    Inv (s.dropOwnBlocks id booking) := by
  refine inv.of_same_bookings ⟨by simp, s.dropOwnBlocks_sublist id booking, ?_⟩ (by simp)
  intro other hother
  rw [dropOwnBlocks_underWay] at hother
  exact .inl hother

theorem modifyBookingDates_inv (inv : Inv s) {change : DateChange}
    (h : s.modifyBookingDates id change = .ok t) : Inv t := by
  obtain ⟨booking, checkIn, checkOut, valid, -, h⟩ := modifyBookingDates_ok h
  have hreleased : Inv ((s.dropDates id).dropOwnBlocks id booking) :=
    Inv.of_dropOwnBlocks inv.of_dates id booking
  obtain rfl | rfl := h
  · exact hreleased.of_suspend (fun _ h => by cases h)
  · exact Inv.of_suspend hreleased.of_dates (fun _ h => by cases h)

/-- The new dates of a booking that stays are available, and it owns no blocks. -/
theorem finishModify_inv (inv : Inv s) {checkIn checkOut : Day} {valid : checkIn < checkOut}
    (backed : ∀ booking roomTypeId, s.bookings[id]? = some booking →
      booking.roomTypeId = some roomTypeId → booking.status.isStaying →
      s.Fits roomTypeId checkIn checkOut booking.roomsRequested (some id)) :
    Inv (s.finishModify id checkIn checkOut valid) := by
  unfold finishModify
  split
  case h_1 => exact inv
  case h_2 booking hrow =>
    split
    case isTrue => exact inv
    case isFalse hcond =>
      have hnone : ∀ block ∈ s.blocks, block.bookingId ≠ some id := by
        intro block hblock hid
        obtain ⟨owner, howner, hopen, htype, -⟩ := inv.owned.owner block hblock id hid
        obtain rfl : booking = owner := Option.some.inj (hrow.symm.trans howner)
        apply hcond
        refine ⟨by rw [htype]; rfl, ?_⟩
        intro hstays
        rw [BookingStatus.not_isOpen_of_isStaying hstays] at hopen
        cases hopen
      have shrinks : Shrinks s { s with
          bookings := s.bookings.set id { booking with checkIn, checkOut, valid_dates := valid }
            } :=
        ⟨rfl, List.Sublist.refl _, fun _ h => .inl h⟩
      apply Inv.of_fits (inv.owned.set shrinks hrow rfl (.inr hnone))
      intro roomTypeId roomType night htype
      have hbefore := inv.fits htype night
      have herase : load StayBooking.roomsRequested (isStayOn roomTypeId night)
          (s.bookings.eraseIdx id) + _ = _ := load_eraseIdx _ _ hrow
      rw [load_set hrow, load_singleton]
      dsimp only
      split
      case isFalse => omega
      case isTrue hnew =>
        simp only [isStayOn, decide_eq_true_eq] at hnew
        obtain ⟨hroom, hstays, hnight⟩ := hnew
        have hfree := (backed booking roomTypeId hrow hroom hstays).night_free inv.owned
          booking.rooms_positive htype hnight
        have hall : load InventoryBlock.unitsBlocked (blocksOn roomTypeId night) s.blocks ≤
            load InventoryBlock.unitsBlocked (fun block => blocksOn roomTypeId night block ∧
              ¬ (some id ≠ none ∧ block.bookingId = some id)) s.blocks := by
          apply load_mono
          intro block hblock h
          simp [h, hnone block hblock]
        simp only [bookingsExcept] at hfree
        omega

/-- A mark on the row of a booking. -/
theorem Inv.of_mark (inv : Inv s)
    (hrow : s.bookings[id]? = some old) (hclosed : old.status.isOpen = false)
    (rooms : new.roomsRequested = old.roomsRequested) (htype : new.roomTypeId = old.roomTypeId)
    (hin : new.checkIn = old.checkIn) (hout : new.checkOut = old.checkOut)
    (hstatus : new.status = old.status) :
    Inv { s with bookings := s.bookings.set id new } := by
  have shrinks : Shrinks s { s with bookings := s.bookings.set id new } :=
    ⟨rfl, List.Sublist.refl _, fun _ h => .inl h⟩
  apply inv.of_set shrinks hrow rfl rooms
  · intro roomTypeId night hstay
    simp only [isStayOn, htype, hin, hout, hstatus] at *
    exact hstay
  · exact .inr (inv.owned.none_of_not_open hrow hclosed)

theorem checkIn_inv (inv : Inv s) {env : DeskEnv} (h : checkIn env s id = .ok t) : Inv t := by
  obtain ⟨booking, hrow, hconfirmed, h⟩ := checkIn_ok h
  have hclosed : booking.status.isOpen = false := by
    rw [hconfirmed]
    rfl
  have hlen : id < s.bookings.length := (List.getElem?_eq_some_iff.mp hrow).1
  have hinv : Inv { s with bookings := s.bookings.set id { booking with isCheckedIn := true } } :=
    inv.of_mark hrow hclosed rfl rfl rfl rfl rfl
  refine hinv.of_transition h ?_ ?_
  · intro _ marked hmarked
    rw [List.getElem?_set_self hlen] at hmarked
    cases hmarked
    rw [hconfirmed]
    rfl
  · exact .inr (inv.owned.none_of_not_open hrow hclosed)

theorem checkOut_inv (inv : Inv s) (h : s.checkOut id = .ok t) : Inv t := by
  obtain ⟨booking, hrow, hstatus, h⟩ := checkOut_ok h
  have hclosed : booking.status.isOpen = false := by
    rw [hstatus]
    rfl
  have hinv : Inv { s with bookings := s.bookings.set id { booking with isCheckedOut := true } } :=
    inv.of_mark hrow hclosed rfl rfl rfl rfl rfl
  refine hinv.of_transition h ?_ ?_
  · intro hstays
    cases hstays
  · exact .inr (inv.owned.none_of_not_open hrow hclosed)

theorem recordRefundHistory_inv (inv : Inv s) (id : ℕ) : Inv (s.recordRefundHistory id) := by
  unfold recordRefundHistory
  split
  · exact inv
  · exact inv.of_same_bookings ⟨rfl, List.Sublist.refl _, fun _ h => .inl h⟩ rfl

theorem refundStatus_inv (inv : Inv s) {full : Bool}
    (h : s.refundStatus id full = .ok t) : Inv t := by
  unfold refundStatus at h
  split at h
  case h_1 => cases h
  case h_2 booking hrow =>
    split at h
    case isTrue hcancelled =>
      obtain ⟨refunded, hrefunded, hrecorded⟩ := bind_eq_ok.mp h
      cases hrecorded
      apply recordRefundHistory_inv
      apply inv.of_transition hrefunded
      · intro hstays
        cases hstays
      · refine .inr (inv.owned.none_of_not_open hrow ?_)
        rw [hcancelled.1]
        rfl
    case isFalse =>
      cases h
      exact recordRefundHistory_inv inv id

theorem Inv.of_markExpired (inv : Inv s) (holds : List ℕ) : Inv (s.markExpired holds) :=
  inv.of_same_bookings ⟨rfl, List.Sublist.refl _, fun _ h => .inl h⟩ rfl

theorem Inv.of_release (inv : Inv s) (roomTypeId : ℕ) (checkIn checkOut : Day)
    (bookingId : Option ℕ) : Inv (s.releaseRoomTypeBlocks roomTypeId checkIn checkOut bookingId) :=
  inv.of_same_bookings ⟨rfl, List.filter_sublist, fun _ h => .inl h⟩ rfl

/-- The loop of the expiry, by induction on the holds left. -/
theorem expireHolds_inv (inv : Inv s) (marked rest : List ℕ) : Inv (s.expireHolds marked rest) := by
  induction rest generalizing s marked with
  | nil => exact inv.of_markExpired marked
  | cons id rest ih =>
    unfold expireHolds
    split
    case h_1 => exact ih inv marked
    case h_2 hold _ =>
      have hdropped : Inv (s.dropHeldDates hold) := inv.of_dates
      split
      case h_1 => exact ih hdropped _
      case h_2 roomTypeId _ =>
        apply Inv.of_suspend
        · exact (hdropped.of_release roomTypeId _ _ _).of_markExpired marked
        · intro id h
          cases h

/-- The whole step: each transaction keeps the invariant when what it takes is
backed. -/
theorem resume_inv (inv : Inv s) {rest : Continuation}
    (released : ∀ id, rest = .cancel id → ∀ block ∈ s.blocks, block.bookingId ≠ some id)
    (backed : ∀ id checkIn checkOut valid booking roomTypeId,
      rest = .modify id checkIn checkOut valid → s.bookings[id]? = some booking →
      booking.roomTypeId = some roomTypeId → booking.status.isStaying →
      s.Fits roomTypeId checkIn checkOut booking.roomsRequested (some id))
    (h : s.resume rest = .ok t) : Inv t := by
  cases rest with
  | create id => exact startBooking_inv inv h
  | hold hold =>
    cases h
    exact inv.of_same_bookings ⟨rfl, List.Sublist.refl _, fun _ h => .inl h⟩ rfl
  | modify id checkIn checkOut valid =>
    cases h
    exact finishModify_inv inv (backed id checkIn checkOut valid · · rfl)
  | cancel id =>
    apply inv.of_transition h
    · intro hstays
      cases hstays
    · exact .inr (released id rfl)
  | expire marked rest =>
    cases h
    exact expireHolds_inv inv marked rest

theorem Inv.of_forget (inv : Inv s) (place : ℕ) : Inv (s.forget place) :=
  inv.of_same_bookings
    ⟨rfl, List.Sublist.refl _, fun _ h => .inl (List.mem_of_mem_eraseIdx h)⟩ rfl

theorem after_inv (inv : Inv s) {move : Move} (backed : s.Backed move) : Inv (s.after move) := by
  cases move with
  | createHold request now => exact inv.of_orElse (fun _ h => createHold_inv inv backed h)
  | convertHold hold booking => exact convertHold_inv inv hold booking
  | createBooking env request =>
    apply inv.of_orElse
    intro t h
    cases hcall : createBooking env s request with
    | error e =>
      rw [hcall] at h
      cases h
    | ok result =>
      rw [hcall] at h
      cases h
      exact createBooking_inv inv backed hcall
  | confirmBooking env id => exact inv.of_orElse (fun _ h => confirmBooking_inv inv backed h)
  | approveBooking id => exact inv.of_orElse (fun _ h => approveBooking_inv inv backed h)
  | rejectBooking id => exact inv.of_orElse (fun _ h => rejectBooking_inv inv h)
  | cancelBooking id actor quoteRefusal =>
    exact inv.of_orElse (fun _ h => cancelBooking_inv inv h)
  | modifyBookingDates id change =>
    exact inv.of_orElse (fun _ h => modifyBookingDates_inv inv h)
  | checkIn env id => exact inv.of_orElse (fun _ h => checkIn_inv inv h)
  | checkOut id => exact inv.of_orElse (fun _ h => checkOut_inv inv h)
  | refund id full => exact inv.of_orElse (fun _ h => refundStatus_inv inv h)
  | expireRoomHolds now => exact expireHolds_inv inv _ _
  | releaseExpiredHolds now holdMinutes batchSize afterBlockedId afterRoomHoldId =>
    exact Inv.of_markExpired inv.of_dates _
  | finish place =>
    simp only [after]
    split
    case h_1 => exact inv
    case h_2 rest hrest =>
      apply (inv.of_forget place).of_orElse
      intro t h
      refine resume_inv (inv.of_forget place) ?_ ?_ h
      · rintro id rfl
        exact (inv.owned.released id (List.mem_of_getElem? hrest)).2
      · rintro id checkIn checkOut valid booking roomTypeId rfl hrow htype hstays
        exact backed id checkIn checkOut valid booking roomTypeId hrest hrow htype hstays
  | abandon place => exact inv.of_forget place

/-! ## Runs -/

/-- Nothing was booked yet; the hosts may have blocked units. -/
structure Opened (s : Inventory) : Prop where
  bookings : s.bookings = []
  underWay : s.underWay = []
  ownerless : ∀ block ∈ s.blocks, block.bookingId = none
  sound : Sound s

theorem Opened.inv (opened : Opened s) : Inv s := by
  refine ⟨opened.sound, ?_, ?_⟩
  · intro block hblock id hid
    rw [opened.ownerless block hblock] at hid
    cases hid
  · intro id hid
    rw [opened.underWay] at hid
    cases hid

/-- In every interleaving of backed transactions no night is overbooked. -/
theorem no_overbooking {moves : List Move} (opened : Opened s)
    (run : Run (Guarded Backed Step) s moves t) : Sound t := by
  have hinv : Inv t := by
    refine run.invariant Inv ?_ opened.inv
    rintro s move _ inv ⟨backed, rfl⟩
    exact after_inv inv backed
  exact hinv.sound

theorem run_foldl (s : Inventory) (moves : List Move) : Run Step s moves (moves.foldl after s) :=
  (Run.foldl after s moves).mono (fun _ _ _ h => h.symm)

/-- A property with one room type of three units. -/
def lakeside : Inventory := { roomTypes := [⟨0, 3, 2, true⟩] }

theorem lakeside_opened : Opened lakeside := by
  refine ⟨rfl, rfl, ?_, ?_⟩
  · intro block hblock
    cases hblock
  · intro roomTypeId roomType night _
    exact Nat.zero_le _

/-- Two rooms for three nights, by the guest with this id. -/
def twoRooms (guest : ℕ) (skipHoldCreation : Bool) : BookingRequest :=
  { propertyId := 0, guestUserId := guest, hostUserId := 9, checkIn := 10, checkOut := 13
    numGuests := 3, roomsRequested := 2, roomTypeId := some 0, skipHoldCreation }

/-- The hold a checkout takes before it. -/
def twoRoomsHold (guest : ℕ) : HoldRequest :=
  { propertyId := 0, checkIn := 10, checkOut := 13, createdBy := guest, roomTypeId := some 0
    units := 2, expiresAt := 900000000 }

/-- A booking with a block of its own, confirmed. -/
def oneSale : List Move :=
  [.createBooking { now := 0 } (twoRooms 1 false), .finish 0, .confirmBooking { now := 1 } 0]

theorem no_overbooking_lakeside : Sound (oneSale.foldl after lakeside) := by
  have hheld :
      let s := (lakeside.after (.createBooking { now := 0 } (twoRooms 1 false))).after (.finish 0)
      (s.bookings[0]?).all (fun booking => booking.roomTypeId.all (fun roomTypeId =>
        s.Held 0 booking roomTypeId)) := by
    decide +kernel
  have run : Run (Guarded Backed Step) lakeside oneSale (oneSale.foldl after lakeside) := by
    refine .cons ⟨?_, rfl⟩ (.cons ⟨?_, rfl⟩ (.cons ⟨?_, rfl⟩ (.nil _)))
    · rintro - roomTypeId - block hblock
      cases hblock
    · intro id checkIn checkOut valid booking roomTypeId hmodify
      cases hmodify
    · intro booking roomTypeId hrow htype
      have hbooking := (Option.all_eq_true _ _).mp hheld booking hrow
      have hroom := (Option.all_eq_true _ _).mp hbooking roomTypeId htype
      exact .inl (of_decide_eq_true hroom)
  exact no_overbooking lakeside_opened run

/-- Two checkouts turn their holds over to their bookings: the first hold is not
counted when the second is taken, and each confirmation looks for one free unit only.
Four of three rooms are booked. -/
theorem lakeside_overbooked : ∃ s moves t, Opened s ∧ Run Step s moves t ∧ ¬ Sound t := by
  refine ⟨lakeside, [.createHold (twoRoomsHold 1) 0, .createBooking { now := 0 } (twoRooms 1 true),
    .createHold (twoRoomsHold 2) 0, .createBooking { now := 0 } (twoRooms 2 true),
    .confirmBooking { now := 1 } 0, .confirmBooking { now := 1 } 1], _, lakeside_opened,
    run_foldl _ _, ?_⟩
  intro sound
  have hfits := sound 0 ⟨0, 3, 2, true⟩ 11 (by decide +kernel)
  revert hfits
  decide +kernel

end Afcon360.Accommodation.Inventory
