import Afcon360.Accommodation.HoldExpiry

/-!
# Whose blocks a release deletes

A cancellation, a rejection, a change of dates and the expiry of an unapproved booking
delete the inventory blocks on the booking's room type and dates that carry its id. The
expiry of a hold goes by room type and dates alone, since the block of a hold carries no
id. The table does not say for whom a block was written; here that stands beside each row.
-/

namespace Afcon360.Accommodation

open Foundation

universe u v

/-- Two ways to delete rows leave the same values exactly when they delete the same rows. -/
theorem filter_map_eq_iff {α : Type u} {β : Type v} {rows : List β} {f : β → α} {p : α → Bool}
    {q : β → Bool} :
    (rows.map f).filter p = (rows.filter q).map f ↔ ∀ row ∈ rows, p (f row) = q row := by
  classical
  constructor
  · intro h row hrow
    have hcount := congrArg (List.count (f row)) h
    rw [List.count_eq_countP, List.count_eq_countP, List.countP_map] at hcount
    cases hp : p (f row) with
    | false =>
      have hnone : List.countP (· == f row) ((rows.map f).filter p) = 0 := by
        rw [List.countP_eq_zero]
        intro value hvalue heq
        rw [beq_iff_eq.mp heq] at hvalue
        rw [(List.mem_filter.mp hvalue).2] at hp
        cases hp
      rw [hnone] at hcount
      cases hq : q row with
      | false => rfl
      | true =>
        have hmem := List.countP_eq_zero.mp hcount.symm row (List.mem_filter.mpr ⟨hrow, hq⟩)
        simp at hmem
    | true =>
      -- All rows of this value are kept, so none of them is deleted on the other side.
      have hall : List.countP (· == f row) ((rows.map f).filter p) =
          List.countP ((· == f row) ∘ f) rows := by
        rw [List.countP_filter, List.countP_map]
        refine List.countP_congr (fun other _ => ?_)
        simp only [Function.comp_apply, Bool.and_eq_true, beq_iff_eq, and_iff_left_iff_imp]
        intro hsame
        rw [hsame, hp]
      rw [hall, List.countP_eq_countP_filter_add rows ((· == f row) ∘ f) q] at hcount
      cases hq : q row with
      | true => rfl
      | false =>
        have hzero : List.countP ((· == f row) ∘ f) (rows.filter (fun a => !q a)) = 0 := by
          omega
        have hmem := List.countP_eq_zero.mp hzero row
          (List.mem_filter.mpr ⟨hrow, by simp [hq]⟩)
        simp at hmem
  · intro h
    rw [List.filter_map]
    congr 1
    exact List.filter_congr h

/-! ## Owners -/

/-- Those an inventory block is written for. -/
inductive BlockParty
  | booking (id : ℕ)
  | hold (id : ℕ)
  deriving DecidableEq

/-- A block with the party it was written for; `none` for one that a host entered. -/
structure OwnedBlock where
  block : InventoryBlock
  creator : Option BlockParty

/-- The block lies on the room type and the dates of the booking. -/
def StayBooking.spans (booking : StayBooking) (block : InventoryBlock) : Bool :=
  booking.roomTypeId = some block.roomTypeId ∧ block.dateRangeStart = booking.checkIn ∧
    block.dateRangeEnd = booking.checkOut

/-- The block lies on the room type and the dates of the hold. -/
def RoomHold.spans (hold : RoomHold) (block : InventoryBlock) : Bool :=
  hold.roomTypeId = some block.roomTypeId ∧ block.dateRangeStart = hold.checkIn ∧
    block.dateRangeEnd = hold.checkOut

namespace Inventory

/-- What its writer put into the row: the id of a booking, or the room type and dates of a
hold. The id of a block without one may be filled in later by a booking that takes it over. -/
def Written (s : Inventory) (row : OwnedBlock) : Prop :=
  match row.creator with
  | none => row.block.bookingId = none
  | some (.booking id) => row.block.bookingId = some id
  | some (.hold id) => ∃ hold, s.holds[id]? = some hold ∧ hold.spans row.block

/-- The blocks of the table with their owners. A hold is linked to a booking when it is
converted. -/
structure Ownership (s : Inventory) where
  rows : List OwnedBlock
  rows_eq : rows.map OwnedBlock.block = s.blocks
  written : ∀ row ∈ rows, s.Written row
  unlinked : ∀ hold ∈ s.holds, hold.status = .active → hold.bookingId = none

/-- The hold was converted to the booking. -/
def holdOf (s : Inventory) (hold booking : ℕ) : Bool :=
  s.holds[hold]?.any (fun row => row.bookingId = some booking)

/-- The block was written for the party; those of its hold are a booking's too. -/
def belongs (s : Inventory) (party : BlockParty) (row : OwnedBlock) : Bool :=
  match party, row.creator with
  | .booking id, some (.hold hold) => s.holdOf hold id
  | party, creator => creator = some party

/-- The blocks that should be left when those of a party are released. -/
def Ownership.blocksExcept {s : Inventory} (owned : s.Ownership) (party : BlockParty) :
    List InventoryBlock :=
  (owned.rows.filter (fun row => !s.belongs party row)).map OwnedBlock.block

/-! ## The releases -/

/-- One round of the loop of `expire_room_holds`: the hold's dates and blocks. -/
def expireHold (s : Inventory) (hold : RoomHold) : Inventory :=
  let dropped := s.dropHeldDates hold
  match hold.roomTypeId with
  | none => dropped
  | some roomTypeId =>
    dropped.releaseRoomTypeBlocks roomTypeId hold.checkIn hold.checkOut hold.bookingId

/-- `release_hold`. -/
def releaseHold (s : Inventory) (propertyId : ℕ) (checkIn checkOut : Day)
    (createdBy : Option ℕ) : Inventory :=
  { s with
    blockedDates := s.blockedDates.filter (fun blocked =>
      ¬ (blocked.propertyId = propertyId ∧ covers checkIn checkOut blocked.blockedDate ∧
        blocked.reason = .temporaryHold ∧ (createdBy = none ∨ blocked.createdBy = createdBy)))
    holds := s.holds.map (fun hold =>
      if hold.propertyId = propertyId ∧ hold.checkIn = checkIn ∧ hold.checkOut = checkOut ∧
          hold.status = .active ∧ (createdBy = none ∨ hold.guestUserId = createdBy) then
        { hold with status := .released }
      else hold) }

/-- One booking of `expire_unapproved_bookings`, up to the commit of its release. -/
def expireUnapproved (s : Inventory) (id : ℕ) (booking : StayBooking) : Inventory :=
  let marked : Inventory :=
    { s with
      holds := s.holds.map (fun hold =>
        if hold.propertyId = booking.propertyId ∧ hold.checkIn = booking.checkIn ∧
            hold.checkOut = booking.checkOut ∧ hold.status = .active then
          { hold with status := .expired }
        else hold) }
  match booking.roomTypeId with
  | some _ => marked.dropOwnBlocks id booking
  | none => marked.releaseHold booking.propertyId booking.checkIn booking.checkOut none

/-- What releases the blocks of one booking or hold, and the tables it leaves. -/
inductive Releases (s : Inventory) : BlockParty → Inventory → Prop
  | cancel {id actor : ℕ} {quoteRefusal : Option String} {t : Inventory} :
      s.cancelBooking id actor quoteRefusal = .ok t → Releases s (.booking id) t
  | reject {id : ℕ} {t : Inventory} : s.rejectBooking id = .ok t → Releases s (.booking id) t
  | modify {id : ℕ} {change : DateChange} {t : Inventory} :
      s.modifyBookingDates id change = .ok t → Releases s (.booking id) t
  | expireUnapproved {id : ℕ} {booking : StayBooking} : s.bookings[id]? = some booking →
      booking.status = .pendingApproval →
      Releases s (.booking id) (s.expireUnapproved id booking)
  | expireHold {id : ℕ} {hold : RoomHold} {now : Instant} : s.holds[id]? = some hold →
      hold.isDue now → Releases s (.hold id) (s.expireHold hold)

/-- When a release fits. A hold is alone on its room type and dates. No block was turned
over to a booking that came from a hold of somebody else, and what is the booking's own
carries its id and lies where the booking does. -/
def Ownership.Fits {s : Inventory} (owned : s.Ownership) : BlockParty → Prop
  | .hold id => ∀ hold, s.holds[id]? = some hold →
      ∀ row ∈ owned.rows, hold.spans row.block → row.creator = some (.hold id)
  | .booking id => ∀ booking, s.bookings[id]? = some booking →
      (∀ row ∈ owned.rows, ∀ hold, row.creator = some (.hold hold) →
        row.block.bookingId = some id → booking.spans row.block → s.holdOf hold id) ∧
      ∀ row ∈ owned.rows, s.belongs (.booking id) row →
        row.block.bookingId = some id ∧ booking.spans row.block

/-! ## What is deleted -/

section

variable {s t : Inventory} {id : ℕ} {booking : StayBooking} {hold : RoomHold}
  {row : OwnedBlock} {party : BlockParty}

/-- A booking's release deletes by its id, room type and dates. -/
theorem dropOwnBlocks_blocks (s : Inventory) (id : ℕ) (booking : StayBooking) :
    (s.dropOwnBlocks id booking).blocks =
      s.blocks.filter (fun block => ¬ (block.bookingId = some id ∧ booking.spans block)) := by
  unfold dropOwnBlocks StayBooking.spans
  split
  · rename_i hnone
    simp [hnone]
  · rename_i roomTypeId hsome
    refine List.filter_congr (fun block _ => ?_)
    simp only [hsome, Option.some.injEq, decide_not, decide_eq_true_eq, reduceCtorEq, false_or]
    congr 1
    rw [decide_eq_decide]
    constructor
    · rintro ⟨rfl, hstart, hend, hid⟩
      exact ⟨hid, rfl, hstart, hend⟩
    · rintro ⟨hid, rfl, hstart, hend⟩
      exact ⟨rfl, hstart, hend, hid⟩

theorem expireHold_blocks (s : Inventory) (hunlinked : hold.bookingId = none) :
    (s.expireHold hold).blocks = s.blocks.filter (fun block => ¬ hold.spans block) := by
  unfold expireHold RoomHold.spans
  split
  · rename_i hnone
    simp [hnone, dropHeldDates]
  · rename_i roomTypeId hsome
    refine List.filter_congr (fun block _ => ?_)
    simp only [hsome, hunlinked, Option.some.injEq, decide_not, decide_eq_true_eq,
      true_or, and_true]
    congr 1
    rw [decide_eq_decide]
    constructor
    · rintro ⟨rfl, hstart, hend⟩
      exact ⟨rfl, hstart, hend⟩
    · rintro ⟨rfl, hstart, hend⟩
      exact ⟨rfl, hstart, hend⟩

/-- A state whose blocks are those that a filter leaves is exact when the filter spares the
rows of others and no others. -/
theorem Ownership.exact_iff (owned : s.Ownership) {keep : InventoryBlock → Bool}
    (hblocks : t.blocks = s.blocks.filter keep) :
    t.blocks = owned.blocksExcept party ↔
      ∀ row ∈ owned.rows, keep row.block = !s.belongs party row := by
  rw [hblocks, ← owned.rows_eq, Ownership.blocksExcept, filter_map_eq_iff]

theorem transition_blocks {new : BookingStatus} (h : s.transition id new = .ok t) :
    t.blocks = s.blocks := by
  obtain ⟨booking, -, -, rfl⟩ := transition_ok h
  rfl

theorem dropDates_dropOwnBlocks (s : Inventory) (id : ℕ) (booking : StayBooking) :
    ((s.dropDates id).dropOwnBlocks id booking).blocks = (s.dropOwnBlocks id booking).blocks := by
  have hsame : (s.dropDates id).blocks = s.blocks := rfl
  exact dropOwnBlocks_blocks_congr hsame id booking

theorem releaseAndCancel_blocks (h : s.releaseAndCancel id booking = .ok t) :
    t.blocks = (s.dropOwnBlocks id booking).blocks := by
  obtain ⟨hnone, h⟩ | rfl := releaseAndCancel_ok h
  · rw [transition_blocks h, dropOwnBlocks, hnone]
    rfl
  · exact dropDates_dropOwnBlocks s id booking

theorem rejectBooking_blocks (h : s.rejectBooking id = .ok t) :
    ∃ booking, s.bookings[id]? = some booking ∧ t.blocks = (s.dropOwnBlocks id booking).blocks := by
  obtain ⟨booking, hbooking, -, h⟩ := rejectBooking_ok h
  exact ⟨booking, hbooking, releaseAndCancel_blocks h⟩

theorem cancelBooking_blocks {actor : ℕ} {quoteRefusal : Option String}
    (h : s.cancelBooking id actor quoteRefusal = .ok t) :
    ∃ booking, s.bookings[id]? = some booking ∧ t.blocks = (s.dropOwnBlocks id booking).blocks := by
  obtain ⟨booking, hbooking, -, h⟩ := cancelBooking_ok h
  exact ⟨booking, hbooking, releaseAndCancel_blocks h⟩

theorem modifyBookingDates_blocks {change : DateChange}
    (h : s.modifyBookingDates id change = .ok t) :
    ∃ booking, s.bookings[id]? = some booking ∧ t.blocks = (s.dropOwnBlocks id booking).blocks := by
  obtain ⟨booking, checkIn, checkOut, valid, hbooking, rfl | rfl⟩ := modifyBookingDates_ok h
  · exact ⟨booking, hbooking, dropDates_dropOwnBlocks s id booking⟩
  · exact ⟨booking, hbooking, dropDates_dropOwnBlocks s id booking⟩

theorem expireUnapproved_blocks :
    (s.expireUnapproved id booking).blocks = (s.dropOwnBlocks id booking).blocks := by
  unfold expireUnapproved
  split
  · rename_i roomTypeId hsome
    simp only [dropOwnBlocks, hsome]
    rfl
  · rename_i hnone
    simp only [releaseHold, dropOwnBlocks, hnone]

/-- Every release deletes what carries the booking's id where the booking lies, or all that
lies where the hold does. -/
theorem Releases.cases (owned : s.Ownership) (h : Releases s party t) :
    (∃ id booking, party = .booking id ∧ s.bookings[id]? = some booking ∧
      t.blocks = s.blocks.filter (fun block =>
        ¬ (block.bookingId = some id ∧ booking.spans block))) ∨
    (∃ id hold, party = .hold id ∧ s.holds[id]? = some hold ∧
      t.blocks = s.blocks.filter (fun block => ¬ hold.spans block)) := by
  cases h with
  | cancel h =>
    obtain ⟨booking, hbooking, hblocks⟩ := cancelBooking_blocks h
    exact .inl ⟨_, booking, rfl, hbooking, hblocks.trans (dropOwnBlocks_blocks _ _ _)⟩
  | reject h =>
    obtain ⟨booking, hbooking, hblocks⟩ := rejectBooking_blocks h
    exact .inl ⟨_, booking, rfl, hbooking, hblocks.trans (dropOwnBlocks_blocks _ _ _)⟩
  | modify h =>
    obtain ⟨booking, hbooking, hblocks⟩ := modifyBookingDates_blocks h
    exact .inl ⟨_, booking, rfl, hbooking, hblocks.trans (dropOwnBlocks_blocks _ _ _)⟩
  | expireUnapproved hbooking =>
    exact .inl ⟨_, _, rfl, hbooking, expireUnapproved_blocks.trans (dropOwnBlocks_blocks _ _ _)⟩
  | expireHold hhold hdue =>
    have hactive := (of_decide_eq_true hdue).1
    have hunlinked := owned.unlinked _ (List.mem_of_getElem? hhold) hactive
    exact .inr ⟨_, _, rfl, hhold, expireHold_blocks s hunlinked⟩

/-! ## When a release is exact -/

@[simp] theorem belongs_hold :
  s.belongs (.hold id) row = decide (row.creator = some (.hold id)) := by
  obtain ⟨block, creator⟩ := row
  rcases creator with _ | _ | _ <;> rfl

theorem belongs_booking_of_creator (h : row.creator = some (.booking id)) :
    s.belongs (.booking id) row = true := by
  simp [belongs, h]

theorem belongs_booking_of_hold {hold : ℕ} (h : row.creator = some (.hold hold)) :
    s.belongs (.booking id) row = s.holdOf hold id := by
  simp [belongs, h]

/-- The release of a booking is exact when nothing foreign was turned over to it and its own
blocks carry its id where it lies. -/
theorem Ownership.booking_exact_iff (owned : s.Ownership)
    (hbooking : s.bookings[id]? = some booking)
    (hblocks : t.blocks = s.blocks.filter (fun block =>
      ¬ (block.bookingId = some id ∧ booking.spans block))) :
    t.blocks = owned.blocksExcept (.booking id) ↔ owned.Fits (.booking id) := by
  rw [owned.exact_iff hblocks]
  constructor
  · intro hexact found hfound
    obtain rfl : booking = found := Option.some.inj (hbooking.symm.trans hfound)
    refine ⟨?_, ?_⟩
    · intro row hrow hold hcreator hid hspans
      have hrowExact := hexact row hrow
      rw [belongs_booking_of_hold hcreator] at hrowExact
      simpa [hid, hspans] using hrowExact
    · intro row hrow hbelongs
      have hrowExact := hexact row hrow
      simpa [hbelongs] using hrowExact
  · intro hfits row hrow
    obtain ⟨hforeign, hown⟩ := hfits booking hbooking
    have hsame : (row.block.bookingId = some id ∧ booking.spans row.block = true) ↔
        s.belongs (.booking id) row = true := by
      refine ⟨?_, hown row hrow⟩
      rintro ⟨hid, hspans⟩
      have hwritten := owned.written row hrow
      unfold Written at hwritten
      split at hwritten
      · rw [hid] at hwritten
        cases hwritten
      · rename_i other hcreator
        obtain rfl : id = other := Option.some.inj (hid.symm.trans hwritten)
        exact belongs_booking_of_creator hcreator
      · rename_i hold hcreator
        rw [belongs_booking_of_hold hcreator]
        exact hforeign row hrow hold hcreator hid hspans
    cases hbelongs : s.belongs (.booking id) row with
    | true => simpa [hbelongs] using hsame
    | false =>
      rw [hbelongs] at hsame
      exact decide_eq_true (fun hboth => Bool.false_ne_true (hsame.mp hboth))

/-- The release of a hold is exact when the hold is alone on its room type and dates. -/
theorem Ownership.hold_exact_iff (owned : s.Ownership) (hhold : s.holds[id]? = some hold)
    (hblocks : t.blocks = s.blocks.filter (fun block => ¬ hold.spans block)) :
    t.blocks = owned.blocksExcept (.hold id) ↔ owned.Fits (.hold id) := by
  rw [owned.exact_iff hblocks]
  constructor
  · intro hexact found hfound row hrow hspans
    obtain rfl : hold = found := Option.some.inj (hhold.symm.trans hfound)
    have hrowExact := hexact row hrow
    simpa [hspans] using hrowExact
  · intro hfits row hrow
    have hsame : hold.spans row.block = true ↔ row.creator = some (.hold id) := by
      refine ⟨hfits hold hhold row hrow, ?_⟩
      intro hcreator
      have hwritten := owned.written row hrow
      rw [Written, hcreator] at hwritten
      obtain ⟨found, hfound, hspans⟩ := hwritten
      rwa [← Option.some.inj (hfound.symm.trans hhold)]
    by_cases hcreator : row.creator = some (.hold id)
    · simpa [hcreator] using hsame
    · have hfree := mt hsame.mp hcreator
      simp [hcreator, hfree]

/-- A cancellation, a rejection, a change of dates or an expiry removes the blocks written
for its booking or hold and no others exactly when it fits. -/
theorem release_exact_iff (owned : s.Ownership) (h : Releases s party t) :
    t.blocks = owned.blocksExcept party ↔ owned.Fits party := by
  rcases h.cases owned with ⟨id, booking, rfl, hbooking, hblocks⟩ | ⟨id, hold, rfl, hhold, hblocks⟩
  · exact owned.booking_exact_iff hbooking hblocks
  · exact owned.hold_exact_iff hhold hblocks

end

/-! ## A hold beside a booking -/

/-- A payment hold on one room of type 0. -/
def shortHold : RoomHold :=
  { propertyId := 1, roomTypeId := some 0, guestUserId := some 5, checkIn := 10, checkOut := 12
    units := 1, expiresAt := 100, dates_valid := by decide }

/-- A booking of another guest on the same room type and dates that waits for payment. -/
def openBooking : StayBooking :=
  { propertyId := 1, roomTypeId := some 0, guestUserId := 6, bookedByUserId := 6, hostUserId := 3
    checkIn := 10, checkOut := 12, roomsRequested := 1, status := .pendingPayment
    expiresAt := none, idempotencyKey := none, flow := .instant, valid_dates := by decide
    rooms_positive := le_rfl }

theorem shortHold_due : shortHold.isDue 100 = true := by decide

/-- The block `create_hold` writes for the hold. -/
def holdBlock : InventoryBlock := ⟨0, none, 10, 12, 1, .temporaryHold, some 5⟩

/-- The block `create_booking` writes for the booking. -/
def bookingBlock : InventoryBlock := ⟨0, some 0, 10, 12, 1, .temporaryHold, some 6⟩

/-- The hold is alone on its dates. -/
def heldRoom : Inventory where
  roomTypes := [{ propertyId := 1, totalUnits := 5, maxGuests := 2 }]
  blocks := [holdBlock]
  holds := [shortHold]

/-- The booking is there too. -/
def sharedRoom : Inventory :=
  { heldRoom with bookings := [openBooking], blocks := [holdBlock, bookingBlock] }

def heldRoomOwners : heldRoom.Ownership where
  rows := [⟨holdBlock, some (.hold 0)⟩]
  rows_eq := rfl
  written := by
    simp only [List.mem_singleton, forall_eq]
    exact ⟨shortHold, rfl, by decide⟩
  unlinked := by
    simp only [heldRoom, List.mem_singleton, forall_eq]
    exact fun _ => rfl

def sharedRoomOwners : sharedRoom.Ownership where
  rows := [⟨holdBlock, some (.hold 0)⟩, ⟨bookingBlock, some (.booking 0)⟩]
  rows_eq := rfl
  written := by
    simp only [List.mem_cons, List.not_mem_nil, or_false, forall_eq_or_imp, forall_eq]
    exact ⟨⟨shortHold, rfl, by decide⟩, rfl⟩
  unlinked := by
    simp only [sharedRoom, heldRoom, List.mem_singleton, forall_eq]
    exact fun _ => rfl

/-- Alone, the hold's expiry removes its block and no other. -/
theorem hold_alone_released :
    (heldRoom.expireHold shortHold).blocks = heldRoomOwners.blocksExcept (.hold 0) := by
  have hrelease : Releases heldRoom (.hold 0) (heldRoom.expireHold shortHold) :=
    .expireHold rfl shortHold_due
  refine (release_exact_iff heldRoomOwners hrelease).mpr ?_
  intro hold _ row hrow _
  obtain rfl := List.mem_singleton.mp hrow
  rfl

/-- Its expiry removes the block of the other guest's booking as well. -/
theorem expiry_frees_booked_room :
    ¬ ∀ (s t : Inventory) (owned : s.Ownership) (party : BlockParty), Releases s party t →
      t.blocks = owned.blocksExcept party := by
  intro claim
  have hrelease : Releases sharedRoom (.hold 0) (sharedRoom.expireHold shortHold) :=
    .expireHold rfl shortHold_due
  have hblocks := congrArg List.length (claim _ _ sharedRoomOwners _ hrelease)
  exact absurd hblocks (by decide +kernel)

end Inventory

end Afcon360.Accommodation
