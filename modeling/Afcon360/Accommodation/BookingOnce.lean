import Afcon360.Accommodation.Overbooking

/-!
# One booking for one key

The calls of `create_booking` with the idempotency key of one guest. A call looks the key
up, checks availability on what the tables then hold, and inserts its row together with
the units it blocks; what happens to the status of the row is a later transaction. Other
calls may act at each of these points. The lock on the property keeps calls for the same
property apart up to the insert; nothing here rests on it.

The row of a key is unique in the table. A call whose insert fails looks the key up again
and returns what it finds.

A call that skips its hold, as the checkout's does, turns over to its booking every open hold
on the dates, whoever took it. The booking has the inventory of one booking where these are
holds of its own guest and of no more units than it asks for.
-/

namespace Afcon360.Accommodation

open Foundation

/-! ## Calls -/

/-- A call of `create_booking`: its key was not found, its checks were passed, or its row
was committed and its status is still to be set. -/
inductive CreateCall
  | looked (env : Inventory.BookingEnv) (request : Inventory.BookingRequest)
  | ready (env : Inventory.BookingEnv) (request : Inventory.BookingRequest)
      (roomTypeId : Option ℕ) (draft : StayBooking)
  | written (request : Inventory.BookingRequest) (id : ℕ)

def CreateCall.request : CreateCall → Inventory.BookingRequest
  | .looked _ request => request
  | .ready _ request _ _ => request
  | .written request _ => request

/-- The tables, the calls under way and what the others returned: a booking or an error. -/
structure BookingDesk where
  tables : Inventory
  calls : List CreateCall := []
  results : List (Option ℕ) := []

namespace BookingDesk

open Inventory

inductive Move
  | start (env : BookingEnv) (request : BookingRequest)
  | check (place : ℕ)
  | write (place : ℕ)
  | finish (place : ℕ)
  | fail (place : ℕ) (integrity : Bool)

/-- The call at this place is over. -/
def answer (s : BookingDesk) (place : ℕ) (tables : Inventory) (result : Option ℕ) : BookingDesk :=
  { tables, calls := s.calls.eraseIdx place, results := s.results ++ [result] }

def goOn (s : BookingDesk) (place : ℕ) (tables : Inventory) (call : CreateCall) : BookingDesk :=
  { s with tables, calls := s.calls.set place call }

/-- Units or dates are missing. -/
def isShortage : BookingError → Bool
  | .onlyAvailable _ _ => true
  | .dateNotAvailable _ => true
  | _ => false

/-- The validation and the lookup of the key. -/
def start (s : BookingDesk) (env : BookingEnv) (request : BookingRequest) : BookingDesk :=
  if request.checkIn < request.checkOut ∧ 1 ≤ request.roomsRequested ∧ env.canBeBooked then
    match s.tables.duplicateOf request with
    | some id => { s with results := s.results ++ [some id] }
    | none => { s with calls := s.calls ++ [.looked env request] }
  else { s with results := s.results ++ [none] }

/-- The checks. On a shortage the key is looked up again. -/
def check (s : BookingDesk) (place : ℕ) (env : BookingEnv) (request : BookingRequest) :
    BookingDesk :=
  let roomTypeId := s.tables.resolveRoomType request
  match stayChecks env s.tables request roomTypeId, request.draft? env roomTypeId with
  | .ok _, .ok draft => s.goOn place s.tables (.ready env request roomTypeId draft)
  | .error error, _ =>
    s.answer place s.tables (if isShortage error then s.tables.duplicateOf request else none)
  | _, .error _ => s.answer place s.tables none

/-- The insert and the first commit. A row with the key makes the insert fail. -/
def write (s : BookingDesk) (place : ℕ) (env : BookingEnv) (request : BookingRequest)
    (roomTypeId : Option ℕ) (draft : StayBooking) : BookingDesk :=
  if s.tables.keyFree request then
    let id := s.tables.bookings.length
    let inserted := s.tables.insertBooking draft
    if request.skipHoldCreation then
      match (inserted.adoptHolds id draft).startBooking id with
      | .ok started => s.answer place started (some id)
      | .error _ => s.answer place s.tables none
    else
      match inserted.blockForBooking env request id roomTypeId with
      | some blocked => s.goOn place blocked (.written request id)
      | none =>
        match inserted.startBooking id with
        | .ok started => s.answer place started (some id)
        | .error _ => s.answer place s.tables none
  else s.answer place s.tables (s.tables.duplicateOf request)

/-- The transaction that sets the status. -/
def finish (s : BookingDesk) (place id : ℕ) : BookingDesk :=
  match s.tables.startBooking id with
  | .ok started => s.answer place started (some id)
  | .error _ => s.answer place s.tables none

/-- The desk after a step. A transaction that fails is rolled back; after a violation of a
constraint the key is looked up. -/
def after (s : BookingDesk) : Move → BookingDesk
  | .start env request => s.start env request
  | .check place =>
    match s.calls[place]? with
    | some (.looked env request) => s.check place env request
    | _ => s
  | .write place =>
    match s.calls[place]? with
    | some (.ready env request roomTypeId draft) => s.write place env request roomTypeId draft
    | _ => s
  | .finish place =>
    match s.calls[place]? with
    | some (.written _ id) => s.finish place id
    | _ => s
  | .fail place integrity =>
    match s.calls[place]? with
    | some call =>
      s.answer place s.tables (if integrity then s.tables.duplicateOf call.request else none)
    | none => s

def Step (s : BookingDesk) (move : Move) (t : BookingDesk) : Prop := t = s.after move

/-- The call is one of this guest with this key. -/
def HasKey (key : String) (guest : ℕ) (_ : BookingDesk) : Move → Prop
  | .start _ request => request.idempotencyKey = some key ∧ request.guestUserId = guest
  | _ => True

/-! ## What is asked -/

/-- The guest of the booking, or the one who made it, took the hold. -/
def isHolder (booking : StayBooking) (createdBy : Option ℕ) : Bool :=
  createdBy = some booking.guestUserId ∨ createdBy = some booking.bookedByUserId

/-- What the inventory of `t` has over that of `s` is what one booking takes: blocks on its
room type and dates, of no more units than it asks for, and days of its stay. What it lacks is
an open hold of the same guest. -/
structure BlockedFor (s t : Inventory) (id : ℕ) (booking : StayBooking) : Prop where
  blocks : ∀ block ∈ t.blocks, block ∈ s.blocks ∨
    block.bookingId = some id ∧ booking.roomTypeId = some block.roomTypeId ∧
      block.dateRangeStart = booking.checkIn ∧ block.dateRangeEnd = booking.checkOut
  units : load InventoryBlock.unitsBlocked (fun block => block.bookingId = some id) t.blocks ≤
    load InventoryBlock.unitsBlocked (fun block => block.bookingId = some id) s.blocks +
      booking.roomsRequested
  dates : ∀ row ∈ t.blockedDates, row ∈ s.blockedDates ∨
    row.bookingId = some id ∧ row.propertyId = booking.propertyId ∧
      covers booking.checkIn booking.checkOut row.blockedDate
  heldBlocks : ∀ block ∈ s.blocks, block ∈ t.blocks ∨
    block.bookingId = none ∧ block.reason = .temporaryHold ∧ isHolder booking block.createdBy
  heldDates : ∀ row ∈ s.blockedDates, row ∈ t.blockedDates ∨
    row.bookingId = none ∧ row.reason = .temporaryHold ∧ isHolder booking row.createdBy

/-- The blocks that a call which skips its hold turns over to the booking. -/
def adopts (booking : StayBooking) (block : InventoryBlock) : Bool :=
  some block.roomTypeId = booking.roomTypeId ∧ block.dateRangeStart = booking.checkIn ∧
    block.dateRangeEnd = booking.checkOut ∧ block.reason = .temporaryHold ∧ block.bookingId = none

/-- The dates that it turns over. -/
def adoptsDate (booking : StayBooking) (row : BlockedDate) : Bool :=
  row.propertyId = booking.propertyId ∧ covers booking.checkIn booking.checkOut row.blockedDate ∧
    row.reason = .temporaryHold

/-- The open holds on the dates of the booking are its guest's, of no more units than it asks
for, and none of the dates is held for another booking. -/
structure HoldsOwn (s : Inventory) (booking : StayBooking) : Prop where
  blocks : ∀ block ∈ s.blocks, adopts booking block → isHolder booking block.createdBy
  units : load InventoryBlock.unitsBlocked (adopts booking) s.blocks ≤ booking.roomsRequested
  dates : ∀ row ∈ s.blockedDates, adoptsDate booking row →
    row.bookingId = none ∧ isHolder booking row.createdBy

instance (s : Inventory) (booking : StayBooking) : Decidable (HoldsOwn s booking) :=
  decidable_of_iff
    ((∀ block ∈ s.blocks, adopts booking block → isHolder booking block.createdBy) ∧
      load InventoryBlock.unitsBlocked (adopts booking) s.blocks ≤ booking.roomsRequested ∧
      ∀ row ∈ s.blockedDates, adoptsDate booking row →
        row.bookingId = none ∧ isHolder booking row.createdBy)
    ⟨fun ⟨hblocks, hunits, hdates⟩ => ⟨hblocks, hunits, hdates⟩,
      fun own => ⟨own.blocks, own.units, own.dates⟩⟩

/-- A call that skips its hold inserts its row where the holds are its own. -/
def AdoptsOwn (s : BookingDesk) : Move → Prop
  | .write place => ∀ env request roomTypeId draft,
    s.calls[place]? = some (.ready env request roomTypeId draft) → request.skipHoldCreation →
      s.tables.keyFree request → HoldsOwn s.tables draft
  | _ => True

/-- The row of the key. -/
def isKeyed (key : String) (guest : ℕ) (booking : StayBooking) : Bool :=
  booking.idempotencyKey = some key ∧ booking.guestUserId = guest

/-- At most one row was created, by a call with the key, and the inventory is blocked for
that one only. -/
def CreatedOnce (key : String) (guest : ℕ) (s t : Inventory) : Prop :=
  (t.bookings.length = s.bookings.length ∧ t.blocks = s.blocks ∧
    t.blockedDates = s.blockedDates) ∨
  (t.bookings.length = s.bookings.length + 1 ∧
    ∃ booking, t.bookings[s.bookings.length]? = some booking ∧ isKeyed key guest booking ∧
      BlockedFor s t s.bookings.length booking)

/-! ## Steps -/

/-- The tables differ in statuses and history only. -/
structure SameRows (s t : Inventory) : Prop where
  blocks : t.blocks = s.blocks
  dates : t.blockedDates = s.blockedDates
  length : t.bookings.length = s.bookings.length
  rows : ∀ (i : ℕ) (booking : StayBooking), s.bookings[i]? = some booking →
    ∃ status, t.bookings[i]? = some { booking with status := status }

theorem SameRows.trans {s t u : Inventory} (h : SameRows s t) (h' : SameRows t u) :
    SameRows s u := by
  refine ⟨h'.blocks.trans h.blocks, h'.dates.trans h.dates, h'.length.trans h.length, ?_⟩
  intro i booking hbooking
  obtain ⟨status, ht⟩ := h.rows i booking hbooking
  obtain ⟨status', hu⟩ := h'.rows i _ ht
  exact ⟨status', hu⟩

theorem transition_sameRows {s t : Inventory} {id : ℕ} {new : BookingStatus}
    (h : s.transition id new = .ok t) : SameRows s t := by
  obtain ⟨row, hrow, -, rfl⟩ := transition_ok h
  refine ⟨rfl, rfl, List.length_set, ?_⟩
  intro i booking hbooking
  by_cases hi : id = i
  · subst hi
    rw [hrow] at hbooking
    cases hbooking
    exact ⟨new, List.getElem?_set_self (List.getElem?_eq_some_iff.mp hrow).1⟩
  · exact ⟨booking.status, (List.getElem?_set_ne hi).trans hbooking⟩

theorem startBooking_sameRows {s t : Inventory} {id : ℕ} (h : s.startBooking id = .ok t) :
    SameRows s t := by
  rw [startBooking] at h
  split at h
  · cases h
  · obtain ⟨held, hheld, hstarted⟩ := bind_eq_ok.mp h
    exact (transition_sameRows hheld).trans (transition_sameRows hstarted)

section Key

variable {key : String} {guest : ℕ}

variable {request : BookingRequest} {start : Inventory} {t : BookingDesk} {draft : StayBooking}
  {roomTypeId : Option ℕ} {s : Inventory}

/-- The first row of the key. -/
def IsFirst (key : String) (guest : ℕ) (s : Inventory) (id : ℕ) : Prop :=
  (∃ booking, s.bookings[id]? = some booking ∧ isKeyed key guest booking) ∧
  ∀ i < id, ∀ booking, s.bookings[i]? = some booking → ¬ isKeyed key guest booking

theorem IsFirst.unique {id id' : ℕ} (h : IsFirst key guest s id)
    (h' : IsFirst key guest s id') : id = id' := by
  obtain ⟨⟨booking, hbooking, hkeyed⟩, hbefore⟩ := h
  obtain ⟨⟨booking', hbooking', hkeyed'⟩, hbefore'⟩ := h'
  obtain hlt | heq | hlt := Nat.lt_trichotomy id id'
  · exact absurd hkeyed (hbefore' id hlt booking hbooking)
  · exact heq
  · exact absurd hkeyed' (hbefore id' hlt booking' hbooking')

variable {id : ℕ}

theorem SameRows.isFirst {s t : Inventory} (h : SameRows s t)
    (hfirst : IsFirst key guest s id) : IsFirst key guest t id := by
  obtain ⟨⟨booking, hbooking, hkeyed⟩, hbefore⟩ := hfirst
  obtain ⟨status, ht⟩ := h.rows id booking hbooking
  refine ⟨⟨_, ht, hkeyed⟩, ?_⟩
  intro i hi row hrow hrowKeyed
  have hlength : i < s.bookings.length := h.length ▸ (List.getElem?_eq_some_iff.mp hrow).1
  obtain ⟨old, hold⟩ : ∃ old, s.bookings[i]? = some old :=
    ⟨_, List.getElem?_eq_getElem hlength⟩
  obtain ⟨status', ht'⟩ := h.rows i old hold
  rw [ht'] at hrow
  cases hrow
  exact hbefore i hi old hold hrowKeyed

theorem isFirst_insert (draft : StayBooking)
    (h : IsFirst key guest s id) : IsFirst key guest (s.insertBooking draft) id := by
  obtain ⟨⟨booking, hbooking, hkeyed⟩, hbefore⟩ := h
  have hlt := (List.getElem?_eq_some_iff.mp hbooking).1
  refine ⟨⟨booking, (List.getElem?_append_left hlt).trans hbooking, hkeyed⟩, ?_⟩
  intro i hi row hrow
  rw [insertBooking, List.getElem?_append_left (by omega)] at hrow
  exact hbefore i hi row hrow

theorem duplicateOf_isFirst
    (hkey : request.idempotencyKey = some key) (hguest : request.guestUserId = guest)
    (h : s.duplicateOf request = some id) : IsFirst key guest s id := by
  rw [duplicateOf, hkey, hguest] at h
  obtain ⟨found, hfound, hindex⟩ := Option.bind_eq_some_iff.mp h
  have hsame : key = found := by
    rw [Option.filter_eq_some_iff] at hfound
    exact Option.some.inj hfound.1
  subst hsame
  obtain ⟨hlt, hrow, hbefore⟩ := List.findIdx?_eq_some_iff_getElem.mp hindex
  refine ⟨⟨s.bookings[id], List.getElem?_eq_getElem hlt, hrow⟩, ?_⟩
  intro i hi booking hbooking
  obtain ⟨hlength, rfl⟩ := List.getElem?_eq_some_iff.mp hbooking
  exact hbefore i hi

/-- A row inserted while the key is free is its first. -/
theorem keyFree_isFirst (hkey : request.idempotencyKey = some key) (hfree : s.keyFree request)
    (hdraft : isKeyed key guest draft) :
    IsFirst key guest (s.insertBooking draft) s.bookings.length := by
  refine ⟨⟨draft, by simp [insertBooking], hdraft⟩, ?_⟩
  intro i hi booking hbooking hkeyed
  rw [insertBooking, List.getElem?_append_left hi] at hbooking
  simp only [keyFree, hkey, Option.all_some, List.all_eq_true, decide_eq_true_eq] at hfree
  simp only [isKeyed, decide_eq_true_eq] at hkeyed
  exact hfree booking (List.mem_of_getElem? hbooking) hkeyed.1

/-- Of the booking, what is blocked for it does not look at the status. -/
theorem BlockedFor.status {s t : Inventory} {booking : StayBooking}
    (h : BlockedFor s t id booking) (status : BookingStatus) :
    BlockedFor s t id { booking with status := status } :=
  ⟨h.blocks, h.units, h.dates, h.heldBlocks, h.heldDates⟩

/-- It looks at the inventory rows only. -/
theorem BlockedFor.of_rows {s s' t t' : Inventory} {booking : StayBooking}
    (h : BlockedFor s t id booking) (hs : s'.blocks = s.blocks)
    (hs' : s'.blockedDates = s.blockedDates) (ht : t'.blocks = t.blocks)
    (ht' : t'.blockedDates = t.blockedDates) : BlockedFor s' t' id booking := by
  refine ⟨?_, ?_, ?_, ?_, ?_⟩
  · rw [hs, ht]
    exact h.blocks
  · rw [hs, ht]
    exact h.units
  · rw [hs', ht']
    exact h.dates
  · rw [hs, ht]
    exact h.heldBlocks
  · rw [hs', ht']
    exact h.heldDates

theorem BlockedFor.refl (s : Inventory) (id : ℕ) (booking : StayBooking) :
    BlockedFor s s id booking :=
  ⟨fun _ h => .inl h, Nat.le_add_right _ _, fun _ h => .inl h, fun _ h => .inl h,
    fun _ h => .inl h⟩

/-- The days `blockDates` adds are days of the stay. -/
theorem blockedFor_blockDates {s : Inventory} {createdBy : Option ℕ} {now : Instant} :
    BlockedFor s (s.blockDates draft.propertyId draft.checkIn draft.checkOut .temporaryHold
      (some id) createdBy now) id draft := by
  refine { BlockedFor.refl s id draft with dates := ?_, heldDates := ?_ }
  · intro row hrow
    obtain hrow | hrow := List.mem_append.mp hrow
    · exact .inl hrow
    · obtain ⟨⟨day, i⟩, hmem, rfl⟩ := List.mem_map.mp hrow
      have hday := (List.mem_filter.mp (List.fst_mem_of_mem_zipIdx hmem)).1
      obtain ⟨j, hj, rfl⟩ := List.mem_map.mp hday
      obtain ⟨k, hlt, rfl⟩ : ∃ k < (draft.checkOut - draft.checkIn).toNat, j = (k : ℤ) := by
        simpa using hj
      have hcovered : draft.checkIn ≤ draft.checkIn + k ∧ draft.checkIn + k < draft.checkOut :=
        ⟨le_add_of_nonneg_right (Int.natCast_nonneg k),
          lt_sub_iff_add_lt'.mp (Int.lt_toNat.mp hlt)⟩
      exact .inr ⟨rfl, rfl, decide_eq_true hcovered⟩
  · exact fun row hrow => .inl (List.mem_append_left _ hrow)

/-- The holds a booking takes over are one booking's where they are its own. -/
theorem blockedFor_adoptHolds {s : Inventory} (own : HoldsOwn s draft) :
    BlockedFor s (s.adoptHolds id draft) id draft := by
  have hblocks : (s.adoptHolds id draft).blocks = s.blocks.map (fun block =>
      if adopts draft block then { block with reason := .booked, bookingId := some id }
      else block) := by
    simp only [adoptHolds, adopts, decide_eq_true_eq]
  have hdates : (s.adoptHolds id draft).blockedDates = s.blockedDates.map (fun row =>
      if adoptsDate draft row then { row with reason := .booked, bookingId := some id }
      else row) := by
    simp only [adoptHolds, adoptsDate, decide_eq_true_eq]
  refine ⟨?_, ?_, ?_, ?_, ?_⟩
  · rw [hblocks]
    intro block hblock
    obtain ⟨old, hold, rfl⟩ := List.mem_map.mp hblock
    split
    · rename_i hadopts
      simp only [adopts, decide_eq_true_eq] at hadopts
      exact .inr ⟨rfl, hadopts.1.symm, hadopts.2.1, hadopts.2.2.1⟩
    · exact .inl hold
  · rw [hblocks]
    refine Nat.le_trans ?_ (Nat.add_le_add_left own.units _)
    apply load_map_le_add
    · intro block _
      split <;> rfl
    · intro block _ hcounts
      by_cases hadopts : adopts draft block
      · exact .inr hadopts
      · rw [if_neg hadopts] at hcounts
        exact .inl hcounts
  · rw [hdates]
    intro row hrow
    obtain ⟨old, hold, rfl⟩ := List.mem_map.mp hrow
    split
    · rename_i hadopts
      simp only [adoptsDate, decide_eq_true_eq] at hadopts
      exact .inr ⟨rfl, hadopts.1, hadopts.2.1⟩
    · exact .inl hold
  · rw [hblocks]
    intro block hblock
    by_cases hadopts : adopts draft block
    · have hholder := own.blocks block hblock hadopts
      simp only [adopts, decide_eq_true_eq] at hadopts
      exact .inr ⟨hadopts.2.2.2.2, hadopts.2.2.2.1, hholder⟩
    · exact .inl (List.mem_map.mpr ⟨block, hblock, if_neg hadopts⟩)
  · rw [hdates]
    intro row hrow
    by_cases hadopts : adoptsDate draft row
    · obtain ⟨hbooking, hholder⟩ := own.dates row hrow hadopts
      simp only [adoptsDate, decide_eq_true_eq] at hadopts
      exact .inr ⟨hbooking, hadopts.2.2, hholder⟩
    · exact .inl (List.mem_map.mpr ⟨row, hrow, if_neg hadopts⟩)

theorem SameRows.createdOnce {s t u : Inventory} (h : SameRows t u)
    (hcreated : CreatedOnce key guest s t) : CreatedOnce key guest s u := by
  obtain ⟨hlength, hblocks, hdates⟩ | ⟨hlength, booking, hbooking, hkeyed, hblocked⟩ := hcreated
  · exact .inl ⟨h.length.trans hlength, h.blocks.trans hblocks, h.dates.trans hdates⟩
  · obtain ⟨status, hu⟩ := h.rows _ booking hbooking
    exact .inr ⟨h.length.trans hlength, _, hu, hkeyed,
      (hblocked.status status).of_rows rfl rfl h.blocks h.dates⟩

/-! ## Runs -/

/-- What a call carries agrees with its request and with the tables. -/
def CallFits (key : String) (guest : ℕ) (tables : Inventory) (call : CreateCall) : Prop :=
  (call.request.idempotencyKey = some key ∧ call.request.guestUserId = guest) ∧
  match call with
  | .looked _ _ => True
  | .ready env request roomTypeId draft => request.draft? env roomTypeId = .ok draft
  | .written _ id => IsFirst key guest tables id

structure Inv (key : String) (guest : ℕ) (start : Inventory) (t : BookingDesk) : Prop where
  created : CreatedOnce key guest start t.tables
  results : ∀ id, some id ∈ t.results → IsFirst key guest t.tables id
  calls : ∀ call ∈ t.calls, CallFits key guest t.tables call
  grown : start.bookings.length < t.tables.bookings.length →
    IsFirst key guest t.tables start.bookings.length

theorem CallFits.mono {s t : Inventory} {call : CreateCall}
    (h : ∀ id, IsFirst key guest s id → IsFirst key guest t id)
      (hfits : CallFits key guest s call) :
    CallFits key guest t call := by
  obtain ⟨hrequest, hrest⟩ := hfits
  refine ⟨hrequest, ?_⟩
  cases call with
  | looked env request => trivial
  | ready env request roomTypeId draft => exact hrest
  | written request id => exact h id hrest

theorem draft?_columns {env : BookingEnv} (h : request.draft? env roomTypeId = .ok draft) :
    draft.propertyId = request.propertyId ∧ draft.guestUserId = request.guestUserId ∧
      draft.roomsRequested = request.roomsRequested ∧
      draft.idempotencyKey = request.idempotencyKey := by
  rw [BookingRequest.draft?] at h
  split at h
  · split at h
    · cases h
      exact ⟨rfl, rfl, rfl, rfl⟩
    · cases h
  · cases h

/-- A call that ends, with tables in which earlier answers still stand. -/
theorem Inv.answer (inv : Inv key guest start t)
    (place : ℕ) {tables : Inventory} {result : Option ℕ}
    (hcreated : CreatedOnce key guest start tables)
    (hmono : ∀ id, IsFirst key guest t.tables id → IsFirst key guest tables id)
    (hgrown : start.bookings.length < tables.bookings.length →
      IsFirst key guest tables start.bookings.length)
    (hresult : ∀ id, result = some id → IsFirst key guest tables id) :
    Inv key guest start (t.answer place tables result) := by
  refine ⟨hcreated, ?_, ?_, hgrown⟩
  · intro id hid
    obtain hid | hid := List.mem_append.mp hid
    · exact hmono id (inv.results id hid)
    · exact hresult id (List.mem_singleton.mp hid).symm
  · intro call hcall
    exact (inv.calls call (List.mem_of_mem_eraseIdx hcall)).mono hmono

theorem Inv.goOn (inv : Inv key guest start t) (place : ℕ) {tables : Inventory} {call : CreateCall}
    (hcreated : CreatedOnce key guest start tables)
    (hmono : ∀ id, IsFirst key guest t.tables id → IsFirst key guest tables id)
    (hgrown : start.bookings.length < tables.bookings.length →
      IsFirst key guest tables start.bookings.length)
    (hcall : CallFits key guest tables call) : Inv key guest start (t.goOn place tables call) := by
  refine ⟨hcreated, fun id hid => hmono id (inv.results id hid), ?_, hgrown⟩
  intro other hother
  obtain hother | rfl := List.mem_or_eq_of_mem_set hother
  · exact (inv.calls other hother).mono hmono
  · exact hcall

theorem Inv.reply (inv : Inv key guest start t) (place : ℕ) {result : Option ℕ}
    (hresult : ∀ id, result = some id → IsFirst key guest t.tables id) :
    Inv key guest start (t.answer place t.tables result) :=
  inv.answer place inv.created (fun _ h => h) inv.grown hresult

/-- While the key is free no row was created. -/
theorem Inv.unwritten (inv : Inv key guest start t) (hkey : request.idempotencyKey = some key)
    (hfree : t.tables.keyFree request) :
    t.tables.bookings.length = start.bookings.length ∧ t.tables.blocks = start.blocks ∧
      t.tables.blockedDates = start.blockedDates := by
  obtain hsame | ⟨hlength, booking, hbooking, hkeyed, -⟩ := inv.created
  · exact hsame
  · simp only [keyFree, hkey, Option.all_some, List.all_eq_true, decide_eq_true_eq] at hfree
    simp only [isKeyed, decide_eq_true_eq] at hkeyed
    exact absurd hkeyed.1 (hfree booking (List.mem_of_getElem? hbooking))

/-- The insert of a call whose key is free, with what it blocks. -/
theorem createdOnce_insert {start s u : Inventory}
    (hlength : s.bookings.length = start.bookings.length) (hkeyed : isKeyed key guest draft)
    (hbookings : u.bookings = s.bookings ++ [draft])
    (hblocked : BlockedFor start u start.bookings.length draft) :
    CreatedOnce key guest start u := by
  refine .inr ⟨?_, draft, ?_, hkeyed, hblocked⟩
  · rw [hbookings, List.length_append, List.length_singleton, hlength]
  · rw [hbookings, ← hlength, List.getElem?_append_right (le_refl _), Nat.sub_self]
    rfl

theorem blockForBooking_spec {env : BookingEnv} {s blocked : Inventory}
    (hdraft : request.draft? env roomTypeId = .ok draft)
    (h : s.blockForBooking env request id roomTypeId = some blocked) :
    blocked.bookings = s.bookings ∧ BlockedFor s blocked id draft := by
  obtain ⟨hproperty, hguest, hrooms, -⟩ := draft?_columns hdraft
  obtain ⟨-, hroomType, hcheckIn, hcheckOut⟩ := draft?_status hdraft
  obtain ⟨rfl, rfl⟩ | ⟨roomTypeId, rfl, -, rfl⟩ := blockForBooking_ok h
  · rw [← hproperty, ← hcheckIn, ← hcheckOut]
    exact ⟨rfl, blockedFor_blockDates⟩
  · refine ⟨rfl, { BlockedFor.refl s id draft with blocks := ?_, units := ?_, heldBlocks := ?_ }⟩
    · intro block hblock
      obtain hblock | hblock := List.mem_append.mp hblock
      · exact .inl hblock
      · obtain rfl := List.mem_singleton.mp hblock
        exact .inr ⟨rfl, hroomType, hcheckIn.symm, hcheckOut.symm⟩
    · rw [load_append, load_singleton, if_pos (by simp), hrooms]
    · exact fun block hblock => .inl (List.mem_append_left _ hblock)

/-- The tables of a call that inserted its row while the key was free. -/
structure Wrote (key : String) (guest : ℕ) (start s u : Inventory) : Prop where
  created : CreatedOnce key guest start u
  mono : ∀ id, IsFirst key guest s id → IsFirst key guest u id
  first : IsFirst key guest u s.bookings.length
  place : s.bookings.length = start.bookings.length

theorem Wrote.sameRows {start s t u : Inventory} (h : Wrote key guest start s t)
    (hsame : SameRows t u) : Wrote key guest start s u :=
  ⟨hsame.createdOnce h.created, fun id hid => hsame.isFirst (h.mono id hid),
    hsame.isFirst h.first, h.place⟩

/-- Only the rows of the bookings say which one is the first. -/
theorem IsFirst.of_bookings {s t : Inventory} (h : t.bookings = s.bookings)
    (hfirst : IsFirst key guest s id) : IsFirst key guest t id := by
  rw [IsFirst, h]
  exact hfirst

theorem Inv.wrote (inv : Inv key guest start t) (hkey : request.idempotencyKey = some key)
    (hfree : t.tables.keyFree request) (hdraft : isKeyed key guest draft)
    {u : Inventory} (hbookings : u.bookings = (t.tables.insertBooking draft).bookings)
    (hblocked : BlockedFor (t.tables.insertBooking draft) u t.tables.bookings.length draft) :
    Wrote key guest start t.tables u := by
  obtain ⟨hlength, hblocks, hdates⟩ := inv.unwritten hkey hfree
  refine ⟨createdOnce_insert hlength hdraft hbookings ?_, ?_, ?_, hlength⟩
  · -- Nothing was blocked before, so what is blocked now was added to `start`.
    rw [hlength] at hblocked
    exact hblocked.of_rows hblocks.symm hdates.symm rfl rfl
  · intro id hid
    exact (isFirst_insert draft hid).of_bookings hbookings
  · exact (keyFree_isFirst hkey hfree hdraft).of_bookings hbookings

theorem Inv.answer_wrote (inv : Inv key guest start t)
    (place : ℕ) {u : Inventory} (h : Wrote key guest start t.tables u) :
    Inv key guest start (t.answer place u (some t.tables.bookings.length)) := by
  refine inv.answer place h.created h.mono (fun _ => h.place ▸ h.first) ?_
  intro id hid
  cases hid
  exact h.first

theorem Inv.step_start (inv : Inv key guest start t)
    (env : BookingEnv) (hkey : request.idempotencyKey = some key)
    (hguest : request.guestUserId = guest) : Inv key guest start (t.start env request) := by
  rw [BookingDesk.start]
  split
  · split
    · rename_i id hduplicate
      refine ⟨inv.created, ?_, inv.calls, inv.grown⟩
      intro other hother
      obtain hother | hother := List.mem_append.mp hother
      · exact inv.results other hother
      · cases List.mem_singleton.mp hother
        exact duplicateOf_isFirst hkey hguest hduplicate
    · refine ⟨inv.created, inv.results, ?_, inv.grown⟩
      intro call hcall
      obtain hcall | hcall := List.mem_append.mp hcall
      · exact inv.calls call hcall
      · cases List.mem_singleton.mp hcall
        exact ⟨⟨hkey, hguest⟩, trivial⟩
  · refine ⟨inv.created, ?_, inv.calls, inv.grown⟩
    intro other hother
    obtain hother | hother := List.mem_append.mp hother
    · exact inv.results other hother
    · cases List.mem_singleton.mp hother

theorem Inv.step_check (inv : Inv key guest start t) (place : ℕ) (env : BookingEnv)
    (hkey : request.idempotencyKey = some key) (hguest : request.guestUserId = guest) :
    Inv key guest start (t.check place env request) := by
  rw [BookingDesk.check]
  split
  · rename_i hdraft
    exact inv.goOn place inv.created (fun _ h => h) inv.grown ⟨⟨hkey, hguest⟩, hdraft⟩
  · refine inv.reply place ?_
    intro id hid
    split at hid
    · exact duplicateOf_isFirst hkey hguest hid
    · cases hid
  · refine inv.reply place ?_
    intro id hid
    cases hid

theorem Inv.step_write (inv : Inv key guest start t) (place : ℕ) (env : BookingEnv)
    (hkey : request.idempotencyKey = some key)
    (hguest : request.guestUserId = guest) (hdraft : request.draft? env roomTypeId = .ok draft)
    (hown : request.skipHoldCreation → t.tables.keyFree request → HoldsOwn t.tables draft) :
    Inv key guest start (t.write place env request roomTypeId draft) := by
  have hnone : Inv key guest start (t.answer place t.tables none) := by
    refine inv.reply place ?_
    intro id hid
    cases hid
  have hkeyed : isKeyed key guest draft := by
    obtain ⟨-, hdraftGuest, -, hdraftKey⟩ := draft?_columns hdraft
    simp only [isKeyed, hdraftKey, hdraftGuest, hkey, hguest, and_self, decide_true]
  rw [BookingDesk.write]
  split
  · rename_i hfree
    simp only
    split
    · rename_i hskip
      split
      · rename_i started hstarted
        obtain ⟨hblocks, hunits, hdates⟩ := hown hskip hfree
        have hwrote := inv.wrote hkey hfree hkeyed (u := (t.tables.insertBooking draft).adoptHolds
          t.tables.bookings.length draft) rfl (blockedFor_adoptHolds ⟨hblocks, hunits, hdates⟩)
        exact inv.answer_wrote place (hwrote.sameRows (startBooking_sameRows hstarted))
      · exact hnone
    · split
      · rename_i blocked hblocked
        obtain ⟨hbookings, hfor⟩ := blockForBooking_spec hdraft hblocked
        have hwrote := inv.wrote hkey hfree hkeyed hbookings hfor
        exact inv.goOn place hwrote.created hwrote.mono (fun _ => hwrote.place ▸ hwrote.first)
          ⟨⟨hkey, hguest⟩, hwrote.first⟩
      · split
        · rename_i started hstarted
          have hwrote := inv.wrote hkey hfree hkeyed (u := t.tables.insertBooking draft) rfl
            (.refl _ _ _)
          exact inv.answer_wrote place (hwrote.sameRows (startBooking_sameRows hstarted))
        · exact hnone
  · refine inv.reply place ?_
    intro id hid
    exact duplicateOf_isFirst hkey hguest hid

theorem Inv.step_finish (inv : Inv key guest start t)
    (place : ℕ) (hid : IsFirst key guest t.tables id) :
    Inv key guest start (t.finish place id) := by
  rw [BookingDesk.finish]
  split
  · rename_i started hstarted
    have hsame := startBooking_sameRows hstarted
    refine inv.answer place (hsame.createdOnce inv.created) (fun _ h => hsame.isFirst h) ?_ ?_
    · intro hgrown
      rw [hsame.length] at hgrown
      exact hsame.isFirst (inv.grown hgrown)
    · intro other hother
      cases hother
      exact hsame.isFirst hid
  · refine inv.reply place ?_
    intro other hother
    cases hother

/-- Every step of a call with the key that takes over its own holds keeps the invariant. -/
theorem Inv.step {s t : BookingDesk} {move : Move} (inv : Inv key guest start s)
    (h : Guarded (fun s move => HasKey key guest s move ∧ AdoptsOwn s move) Step s move t) :
    Inv key guest start t := by
  obtain ⟨⟨hguard, hown⟩, rfl⟩ := h
  cases move with
  | start env request => exact inv.step_start env hguard.1 hguard.2
  | check place =>
    simp only [after]
    split
    · rename_i env request hcall
      obtain ⟨⟨hkey, hguest⟩, -⟩ := inv.calls _ (List.mem_of_getElem? hcall)
      exact inv.step_check place env hkey hguest
    · exact inv
  | write place =>
    simp only [after]
    split
    · rename_i env request roomTypeId draft hcall
      obtain ⟨⟨hkey, hguest⟩, hdraft⟩ := inv.calls _ (List.mem_of_getElem? hcall)
      exact inv.step_write place env hkey hguest hdraft (hown env request roomTypeId draft hcall)
    · exact inv
  | finish place =>
    simp only [after]
    split
    · rename_i request id hcall
      exact inv.step_finish place (inv.calls _ (List.mem_of_getElem? hcall)).2
    · exact inv
  | fail place integrity =>
    simp only [after]
    split
    · rename_i call hcall
      obtain ⟨⟨hkey, hguest⟩, -⟩ := inv.calls _ (List.mem_of_getElem? hcall)
      refine inv.reply place ?_
      intro id hid
      split at hid
      · exact duplicateOf_isFirst hkey hguest hid
      · cases hid
    · exact inv

/-- Two properties with two rooms each; at the first, guest 4 holds a room. -/
def twoProperties : BookingDesk where
  tables :=
    { roomTypes := [{ propertyId := 0, totalUnits := 2, maxGuests := 2 },
        { propertyId := 1, totalUnits := 2, maxGuests := 2 }]
      blocks := [⟨0, none, 10, 12, 1, .temporaryHold, some 4⟩] }

/-- A request of guest 4 under the key `trip`, for the room held at the first property. -/
def tripRequest (propertyId : ℕ) : BookingRequest :=
  { propertyId, guestUserId := 4, hostUserId := 9, checkIn := 10, checkOut := 12, numGuests := 2
    idempotencyKey := some "trip", skipHoldCreation := propertyId = 0 }

/-- Neither call finds the key, both pass the checks, and the second to insert fails. -/
def twoTrips : List Move :=
  [.start { now := 0 } (tripRequest 0), .start { now := 0 } (tripRequest 1), .check 0, .check 1,
    .write 0, .write 0]

theorem adoptsOwn_write {s : BookingDesk} {place : ℕ}
    (h : (s.calls[place]?).all (fun call => match call with
      | .ready _ request _ draft => ¬ request.skipHoldCreation ∨ HoldsOwn s.tables draft
      | _ => True)) : AdoptsOwn s (.write place) := by
  intro env request roomTypeId draft hcall hskip _
  simp only [hcall, Option.all_some, hskip, not_true, false_or, decide_eq_true_eq] at h
  exact h

/-- Guest 5 holds the other room of the first property on the same dates. -/
def twoHolds : BookingDesk :=
  { twoProperties with
    tables := { twoProperties.tables with
      blocks := [⟨0, none, 10, 12, 1, .temporaryHold, some 4⟩,
        ⟨0, none, 10, 12, 1, .temporaryHold, some 5⟩] } }

def oneTrip : List Move := [.start { now := 0 } (tripRequest 0), .check 0, .write 0]

end Key

end BookingDesk

end Afcon360.Accommodation
