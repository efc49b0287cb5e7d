import Mathlib.Algebra.Order.Ring.Int
import Afcon360.Foundation.Guard
import Afcon360.Foundation.Load
import Afcon360.Accommodation.BookingState

/-!
# Room inventory

The rows that say which units of a room type are taken, and the operations of
`BookingService` and `AvailabilityService` on them. An operation that commits in the
middle is cut there: its first transaction leaves a `Continuation` behind, which a
later step takes up on whatever the tables then hold.

A row is identified by its position. `exclude` and `booking_id` arguments are
optional ids. What an operation asks of other services (prices, policies, abuse
limits, moderation flags) is part of its arguments.
-/

namespace Afcon360.Accommodation

open Foundation

/-- A calendar date of the property. -/
abbrev Day := ℤ

/-- Microseconds since the epoch, in UTC. -/
abbrev Instant := ℤ

/-! ## Rows -/

structure RoomType where
  propertyId : ℕ
  totalUnits : ℕ
  maxGuests : ℕ
  isActive : Bool := true
  deriving DecidableEq

/-- Why units or dates are blocked. -/
inductive BlockReason
  | booked | temporaryHold | ownerBlocked | maintenance | renovation | seasonal
  deriving DecidableEq, Repr

/-- A row of `accommodation_inventory_blocks`. -/
structure InventoryBlock where
  roomTypeId : ℕ
  bookingId : Option ℕ
  dateRangeStart : Day
  dateRangeEnd : Day
  unitsBlocked : ℕ
  reason : BlockReason
  createdBy : Option ℕ

/-- A row of `accommodation_blocked_dates`. -/
structure BlockedDate where
  id : ℕ
  propertyId : ℕ
  blockedDate : Day
  reason : BlockReason
  bookingId : Option ℕ
  createdBy : Option ℕ
  createdAt : Instant

inductive HoldStatus
  | active | released | expired | converted
  deriving DecidableEq, Repr

/-- A row of `accommodation_room_holds`. -/
structure RoomHold where
  propertyId : ℕ
  roomTypeId : Option ℕ
  bookingId : Option ℕ := none
  guestUserId : Option ℕ
  checkIn : Day
  checkOut : Day
  units : ℕ
  expiresAt : Instant
  status : HoldStatus := .active
  dates_valid : checkIn < checkOut

/-- `booking_flow_type`. -/
inductive BookingFlow
  | instant | hostApproval | payOnArrivalApproval | depositApproval | invoiceApproval
  deriving DecidableEq, Repr

/-- The status a new booking is left in. -/
def BookingFlow.firstStatus : BookingFlow → BookingStatus
  | .instant => .pendingPayment
  | _ => .pendingApproval

/-- The columns of `accommodation_bookings` that decide about inventory, with the
checks of the table. -/
structure StayBooking where
  propertyId : ℕ
  roomTypeId : Option ℕ
  guestUserId : ℕ
  bookedByUserId : ℕ
  hostUserId : ℕ
  bookingOwnerId : Option ℕ := none
  primaryGuestId : Option ℕ := none
  checkIn : Day
  checkOut : Day
  roomsRequested : ℕ
  status : BookingStatus
  isCheckedIn : Bool := false
  isCheckedOut : Bool := false
  /-- The state of the latest payment event. -/
  payment : Option PaymentState := none
  expiresAt : Option Instant
  idempotencyKey : Option String
  flow : BookingFlow
  isDeleted : Bool := false
  valid_dates : checkIn < checkOut
  rooms_positive : 1 ≤ roomsRequested

/-- The texts of the history: booking statuses, and payment states marked as such. -/
inductive HistoryStatus
  | booking (status : BookingStatus)
  | payment (state : PaymentState)
  deriving DecidableEq, Repr

/-- A row of `accommodation_booking_status_history`. -/
structure HistoryRow where
  bookingId : ℕ
  fromStatus : HistoryStatus
  toStatus : HistoryStatus
  deriving DecidableEq, Repr

/-- What is left to do after a commit in the middle of an operation. -/
inductive Continuation
  | create (booking : ℕ)
  | hold (hold : RoomHold)
  | modify (booking : ℕ) (checkIn checkOut : Day) (valid : checkIn < checkOut)
  | cancel (booking : ℕ)
  | expire (marked rest : List ℕ)

/-- The tables and the operations under way. `rule` is the availability rule of a
property that applies to a day. -/
structure Inventory where
  roomTypes : List RoomType
  rule : ℕ → Day → Option Bool := fun _ _ => none
  bookings : List StayBooking := []
  blocks : List InventoryBlock := []
  blockedDates : List BlockedDate := []
  holds : List RoomHold := []
  history : List HistoryRow := []
  underWay : List Continuation := []

/-- What an operation returns instead of a result. -/
inductive BookingError
  | refused (message : String)
  | notAuthorised (message : String)
  | onlyAvailable (available requested : ℕ)
  | dateNotAvailable (day : Day)
  | invalidTransition (fromStatus toStatus : BookingStatus)
  | invalidPayment (state : PaymentState)

namespace Inventory

/-! ## The state machine -/

/-- `BookingStateMachine.transition`: the status and one row of history. -/
def transition (s : Inventory) (id : ℕ) (new : BookingStatus) : Except BookingError Inventory :=
  match s.bookings[id]? with
  | none => .error (.refused "Booking not found")
  | some booking => do
      require (new ∈ booking.status.validTransitions) (.invalidTransition booking.status new)
      pure { s with
        bookings := s.bookings.set id { booking with status := new }
        history := s.history ++ [⟨id, .booking booking.status, .booking new⟩] }

/-! ## Availability -/

/-- The bookings, without the excluded one. -/
def bookingsExcept (s : Inventory) : Option ℕ → List StayBooking
  | none => s.bookings
  | some id => s.bookings.eraseIdx id

/-- The units reserved by bookings that meet the dates. -/
def bookedUnits (s : Inventory) (roomTypeId : ℕ) (checkIn checkOut : Day) (exclude : Option ℕ) :
    ℕ :=
  load StayBooking.roomsRequested (fun booking => booking.roomTypeId = some roomTypeId ∧
    booking.status.isActive ∧ overlaps booking.checkIn booking.checkOut checkIn checkOut)
    (s.bookingsExcept exclude)

/-- The units of the blocks that meet the dates, those marked booked left out. -/
def blockedUnits (s : Inventory) (roomTypeId : ℕ) (checkIn checkOut : Day) : ℕ :=
  load InventoryBlock.unitsBlocked (fun block => block.roomTypeId = roomTypeId ∧
    overlaps block.dateRangeStart block.dateRangeEnd checkIn checkOut ∧ block.reason ≠ .booked)
    s.blocks

/-- `HostService.available_units`. -/
def availableUnits (s : Inventory) (roomTypeId : ℕ) (checkIn checkOut : Day)
    (exclude : Option ℕ) : ℕ :=
  match s.roomTypes[roomTypeId]? with
  | none => 0
  | some roomType =>
    roomType.totalUnits - s.bookedUnits roomTypeId checkIn checkOut exclude -
      s.blockedUnits roomTypeId checkIn checkOut

/-- `is_date_available`. -/
def isDateAvailable (s : Inventory) (propertyId : ℕ) (day : Day) (exclude : Option ℕ) : Bool :=
  match s.blockedDates.find?
      (fun blocked => blocked.propertyId = propertyId ∧ blocked.blockedDate = day) with
  | some blocked => exclude ≠ none ∧ blocked.bookingId = exclude
  | none =>
    let roomTypes := s.roomTypes.zipIdx.filter
      (fun (roomType, _) => roomType.propertyId = propertyId ∧ roomType.isActive)
    let anyFree :=
      if roomTypes.isEmpty then
        (s.bookingsExcept exclude).all (fun booking => ¬ (booking.propertyId = propertyId ∧
          booking.status.isStaying ∧ covers booking.checkIn booking.checkOut day))
      else roomTypes.any (fun (_, id) => 0 < s.availableUnits id day (day + 1) exclude)
    anyFree ∧ (s.rule propertyId day).getD true

/-- The days of a stay. -/
def days (checkIn checkOut : Day) : List Day :=
  (List.range (checkOut - checkIn).toNat).map (fun i => checkIn + i)

/-- `is_range_available`. -/
def isRangeAvailable (s : Inventory) (propertyId : ℕ) (checkIn checkOut : Day)
    (exclude : Option ℕ) : Except BookingError Unit := do
  require (checkIn < checkOut) (.refused "Check-out must be after check-in")
  match (days checkIn checkOut).find?
      (fun day => ¬ s.isDateAvailable propertyId day exclude) with
  | none => .ok ()
  | some day => .error (.dateNotAvailable day)

/-! ## Blocks -/

/-- Leave the rest of an operation to a later transaction. -/
def suspend (s : Inventory) (rest : Continuation) : Inventory :=
  { s with underWay := s.underWay ++ [rest] }

/-- `block_room_type_units`. The model's validator does not accept the reason
`booked`. -/
def blockRoomTypeUnits (s : Inventory) (roomTypeId : ℕ) (checkIn checkOut : Day) (units : ℕ)
    (reason : BlockReason) (bookingId createdBy : Option ℕ) : Except BookingError Inventory := do
  require (s.roomTypes[roomTypeId]?.isSome) (.refused "Room type not found")
  require (units ≤ s.availableUnits roomTypeId checkIn checkOut none)
    (.onlyAvailable (s.availableUnits roomTypeId checkIn checkOut none) units)
  require (reason ≠ .booked) (.refused "Invalid InventoryBlock.reason: booked")
  pure { s with
    blocks := s.blocks ++
      [⟨roomTypeId, bookingId, checkIn, checkOut, units, reason, createdBy⟩] }

/-- `release_room_type_blocks`: the blocks on exactly these dates, of one booking or
of all. -/
def releaseRoomTypeBlocks (s : Inventory) (roomTypeId : ℕ) (checkIn checkOut : Day)
    (bookingId : Option ℕ) : Inventory :=
  { s with
    blocks := s.blocks.filter (fun block => ¬ (block.roomTypeId = roomTypeId ∧
      block.dateRangeStart = checkIn ∧ block.dateRangeEnd = checkOut ∧
      (bookingId = none ∨ block.bookingId = bookingId))) }

/-- `block_dates`: the days that are not blocked yet. -/
def blockDates (s : Inventory) (propertyId : ℕ) (checkIn checkOut : Day) (reason : BlockReason)
    (bookingId createdBy : Option ℕ) (now : Instant) : Inventory :=
  let free := (days checkIn checkOut).filter (fun day => ¬ s.blockedDates.any
    (fun blocked => blocked.propertyId = propertyId ∧ blocked.blockedDate = day))
  let firstId := (s.blockedDates.map BlockedDate.id).foldl max 0 + 1
  { s with
    blockedDates := s.blockedDates ++ free.zipIdx.map (fun (day, i) =>
      ⟨firstId + i, propertyId, day, reason, bookingId, createdBy, now⟩) }

/-- Delete the blocked dates of a booking. -/
def dropDates (s : Inventory) (booking : ℕ) : Inventory :=
  { s with blockedDates := s.blockedDates.filter (fun blocked => blocked.bookingId ≠ some booking) }

/-! ## Holds -/

/-- The arguments of `create_hold`. -/
structure HoldRequest where
  propertyId : ℕ
  checkIn : Day
  checkOut : Day
  createdBy : ℕ
  roomTypeId : Option ℕ
  units : ℕ
  expiresAt : Instant

/-- The row a hold is tracked by, if it passes the check of its table. -/
def HoldRequest.row? (request : HoldRequest) : Option RoomHold :=
  if h : request.checkIn < request.checkOut then
    some
      { propertyId := request.propertyId
        roomTypeId := request.roomTypeId
        guestUserId := some request.createdBy
        checkIn := request.checkIn
        checkOut := request.checkOut
        units := request.units
        expiresAt := request.expiresAt
        dates_valid := h }
  else none

/-- The room type of a request, if it has several units. -/
def multiUnit (s : Inventory) (roomTypeId : Option ℕ) : Option ℕ :=
  roomTypeId.filter (fun id => s.roomTypes[id]?.any (fun roomType => 1 < roomType.totalUnits))

/-- `create_hold`. Units of a room type with several units are blocked in the same
transaction as the hold; a single unit is held through the property's dates, which
are committed first. -/
def createHold (s : Inventory) (request : HoldRequest) (now : Instant) :
    Except BookingError Inventory :=
  match request.row? with
  | none => .error (.refused "Could not hold dates. Please try again.")
  | some hold =>
    match s.multiUnit request.roomTypeId with
    | some roomTypeId => do
        let available := s.availableUnits roomTypeId request.checkIn request.checkOut none
        require (request.units ≤ available) (.onlyAvailable available request.units)
        pure { s with
          blocks := s.blocks ++
            [⟨roomTypeId, none, request.checkIn, request.checkOut, request.units,
              .temporaryHold, some request.createdBy⟩]
          holds := s.holds ++ [hold] }
    | none => do
        let blocked := s.blockDates request.propertyId request.checkIn request.checkOut
          .temporaryHold none (some request.createdBy) now
        require (blocked.blockedDates.length ≠ s.blockedDates.length)
          (.refused "Dates are already on hold")
        pure (blocked.suspend (.hold hold))

/-- The link the checkout writes after the booking of a hold was created. -/
def convertHold (s : Inventory) (hold booking : ℕ) : Inventory :=
  match s.holds[hold]? with
  | none => s
  | some row =>
    if row.status = .active then
      { s with
        holds := s.holds.set hold { row with status := .converted, bookingId := some booking } }
    else s

def markExpired (s : Inventory) (holds : List ℕ) : Inventory :=
  { s with
    holds := s.holds.mapIdx (fun i row =>
      if i ∈ holds then { row with status := .expired } else row) }

/-- The temporary dates of a hold's guest. -/
def dropHeldDates (s : Inventory) (hold : RoomHold) : Inventory :=
  { s with
    blockedDates := s.blockedDates.filter (fun blocked =>
      ¬ (blocked.propertyId = hold.propertyId ∧
        covers hold.checkIn hold.checkOut blocked.blockedDate ∧
        blocked.reason = .temporaryHold ∧ blocked.createdBy = hold.guestUserId)) }

/-- The loop of `expire_room_holds` up to its next commit, which the release of a
room type's blocks makes. A hold is marked in the transaction after that. -/
def expireHolds (s : Inventory) (marked : List ℕ) : List ℕ → Inventory
  | [] => s.markExpired marked
  | id :: rest =>
    match s.holds[id]? with
    | none => s.expireHolds marked rest
    | some hold =>
      match hold.roomTypeId with
      | none => (s.dropHeldDates hold).expireHolds (marked ++ [id]) rest
      | some roomTypeId =>
        (((s.dropHeldDates hold).releaseRoomTypeBlocks roomTypeId hold.checkIn hold.checkOut
          hold.bookingId).markExpired marked).suspend (.expire [id] rest)

/-- `expire_room_holds`. -/
def expireRoomHolds (s : Inventory) (now : Instant) : Inventory :=
  s.expireHolds [] ((List.range s.holds.length).filter (fun i =>
    s.holds[i]?.any (fun hold => hold.status = .active ∧ hold.expiresAt ≤ now)))

/-- `release_expired_holds`: one page of temporary dates and of holds. It leaves the
blocks of room types alone. -/
def releaseExpiredHolds (s : Inventory) (now : Instant) (holdMinutes batchSize afterBlockedId
    afterRoomHoldId : ℕ) : Inventory :=
  let batch := max 1 (min batchSize 100)
  let oldDates := ((s.blockedDates.filter (fun blocked => blocked.reason = .temporaryHold ∧
    blocked.createdAt < now - holdMinutes * 60000000 ∧ afterBlockedId < blocked.id)).map
    BlockedDate.id).take batch
  let oldHolds := ((List.range s.holds.length).filter (fun i => afterRoomHoldId < i + 1 ∧
    s.holds[i]?.any (fun hold => hold.status = .active ∧ hold.expiresAt ≤ now))).take batch
  { s with
    blockedDates := s.blockedDates.filter (fun blocked => blocked.id ∉ oldDates) }.markExpired
    oldHolds

/-! ## Creating a booking -/

/-- The arguments of `create_booking` that inventory depends on. -/
structure BookingRequest where
  propertyId : ℕ
  guestUserId : ℕ
  hostUserId : ℕ
  bookedByUserId : Option ℕ := none
  bookingOwnerId : Option ℕ := none
  primaryGuestId : Option ℕ := none
  checkIn : Day
  checkOut : Day
  numGuests : ℕ
  roomsRequested : ℕ := 1
  roomTypeId : Option ℕ := none
  idempotencyKey : Option String := none
  paymentTiming : Option String := none
  skipHoldCreation : Bool := false

/-- What `create_booking` asks the property and other services. -/
structure BookingEnv where
  now : Instant
  canBeBooked : Bool := true
  hostApproval : Bool := false
  allowPayNow : Bool := true
  abuse : Option String := none
  priceError : Option String := none
  holdMinutes : ℕ := 15

/-- `_determine_booking_flow_type`. -/
def determineBookingFlowType (env : BookingEnv) (paymentTiming : Option String) : BookingFlow :=
  if env.hostApproval then .hostApproval
  else
    match paymentTiming.filter (· ≠ "") with
    | none => if env.allowPayNow then .instant else .hostApproval
    | some timing =>
      if timing.toLower = "pay_on_arrival" then .payOnArrivalApproval
      else if timing.toLower = "invoice" then .invoiceApproval
      else if timing.toLower = "deposit" then .depositApproval
      else if timing.toLower = "pay_now" ∧ env.allowPayNow then .instant
      else .hostApproval

/-- The room type asked for, or the first active one of the property. -/
def resolveRoomType (s : Inventory) (request : BookingRequest) : Option ℕ :=
  request.roomTypeId.or (s.roomTypes.findIdx? (fun roomType =>
    roomType.propertyId = request.propertyId ∧ roomType.isActive))

/-- The booking an idempotency key already stands for; an empty key is not looked up. -/
def duplicateOf (s : Inventory) (request : BookingRequest) : Option ℕ :=
  (request.idempotencyKey.filter (fun key => key ≠ "")).bind
    (fun key => s.bookings.findIdx? (fun booking =>
    booking.idempotencyKey = some key ∧ booking.guestUserId = request.guestUserId))

/-- The checks between the lookup of the key and the insert. -/
def stayChecks (env : BookingEnv) (s : Inventory) (request : BookingRequest)
    (roomTypeId : Option ℕ) : Except BookingError Unit := do
  let fits := (roomTypeId.bind (s.roomTypes[·]?)).all (fun roomType =>
    request.numGuests ≤ request.roomsRequested * roomType.maxGuests)
  require fits (.refused "Too many guests for the requested rooms")
  match env.abuse with
  | some message => .error (.refused message)
  | none =>
    if ¬ request.skipHoldCreation then do
      match roomTypeId with
      | some id =>
        let available := s.availableUnits id request.checkIn request.checkOut none
        require (request.roomsRequested ≤ available)
          (.onlyAvailable available request.roomsRequested)
      | none => pure ()
      s.isRangeAvailable request.propertyId request.checkIn request.checkOut none
    match env.priceError with
    | some message => .error (.refused message)
    | none => pure ()

/-- No row has the key of the request. -/
def keyFree (s : Inventory) (request : BookingRequest) : Bool :=
  request.idempotencyKey.all (fun key =>
    s.bookings.all (fun booking => booking.idempotencyKey ≠ some key))

/-- The new row, a draft, if the request passes the first checks. -/
def BookingRequest.draft? (env : BookingEnv) (request : BookingRequest) (roomTypeId : Option ℕ) :
    Except BookingError StayBooking :=
  if hdates : request.checkIn < request.checkOut then
    if hrooms : 1 ≤ request.roomsRequested then
      .ok
        { propertyId := request.propertyId
          roomTypeId
          guestUserId := request.guestUserId
          bookedByUserId := request.bookedByUserId.getD request.guestUserId
          hostUserId := request.hostUserId
          bookingOwnerId := request.bookingOwnerId
          primaryGuestId := request.primaryGuestId
          checkIn := request.checkIn
          checkOut := request.checkOut
          roomsRequested := request.roomsRequested
          status := .draft
          expiresAt := some (env.now + env.holdMinutes * 60000000)
          idempotencyKey := request.idempotencyKey
          flow := determineBookingFlowType env request.paymentTiming
          valid_dates := hdates
          rooms_positive := hrooms }
    else .error (.refused "At least one room must be requested")
  else .error (.refused "Check-out must be after check-in")

/-- The transitions of a new booking: through `HELD` to the status its flow asks
for. -/
def startBooking (s : Inventory) (id : ℕ) : Except BookingError Inventory :=
  match s.bookings[id]? with
  | none => .error (.refused "Booking not found")
  | some booking => do
      let held ← s.transition id .held
      held.transition id booking.flow.firstStatus

/-- Turn the open holds on the booking's dates over to it. -/
def adoptHolds (s : Inventory) (id : ℕ) (booking : StayBooking) : Inventory :=
  { s with
    blockedDates := s.blockedDates.map (fun blocked =>
      if blocked.propertyId = booking.propertyId ∧
          covers booking.checkIn booking.checkOut blocked.blockedDate ∧
          blocked.reason = .temporaryHold then
        { blocked with reason := .booked, bookingId := some id }
      else blocked)
    blocks := s.blocks.map (fun block =>
      if some block.roomTypeId = booking.roomTypeId ∧ block.dateRangeStart = booking.checkIn ∧
          block.dateRangeEnd = booking.checkOut ∧ block.reason = .temporaryHold ∧
          block.bookingId = none then
        { block with reason := .booked, bookingId := some id }
      else block) }

/-- The units of a new booking blocked and committed; `none` when that is refused. -/
def blockForBooking (env : BookingEnv) (s : Inventory) (request : BookingRequest) (id : ℕ)
    (roomTypeId : Option ℕ) : Option Inventory :=
  match roomTypeId with
  | none => some (s.blockDates request.propertyId request.checkIn request.checkOut .temporaryHold
      (some id) (some request.guestUserId) env.now)
  | some roomTypeId =>
    match s.blockRoomTypeUnits roomTypeId request.checkIn request.checkOut request.roomsRequested
        .temporaryHold (some id) (some request.guestUserId) with
    | .ok blocked => some blocked
    | .error _ => none

/-- The table with the new row. -/
def insertBooking (s : Inventory) (draft : StayBooking) : Inventory :=
  { s with bookings := s.bookings ++ [draft] }

/-- `create_booking`. The payment event is written by a transaction of its own, of
which nothing here depends; it is pending. -/
def createBooking (env : BookingEnv) (s : Inventory) (request : BookingRequest) :
    Except BookingError (ℕ × Inventory) := do
  let roomTypeId := s.resolveRoomType request
  let draft ← request.draft? env roomTypeId
  require env.canBeBooked (.refused "Property is not available for booking")
  match s.duplicateOf request with
  | some id => pure (id, s)
  | none =>
    stayChecks env s request roomTypeId
    -- The key of a booking of another guest breaks the unique constraint.
    require (s.keyFree request) (.refused "Unable to create booking. Please try again.")
    let id := s.bookings.length
    let inserted := s.insertBooking draft
    if request.skipHoldCreation then
      let started ← (inserted.adoptHolds id draft).startBooking id
      pure (id, started)
    else
      match inserted.blockForBooking env request id roomTypeId with
      | some blocked => pure (id, blocked.suspend (.create id))
      | none =>
        -- Only a warning is logged; the transaction goes on.
        let started ← inserted.startBooking id
        pure (id, started)

/-! ## Confirming -/

/-- What `confirm_booking` asks other services. -/
structure ConfirmEnv where
  now : Instant
  openFlags : Bool := false
  policyRefusal : Option String := none

/-- Delete the blocks a booking holds for its own dates. -/
def dropOwnBlocks (s : Inventory) (id : ℕ) (booking : StayBooking) : Inventory :=
  match booking.roomTypeId with
  | none => s
  | some roomTypeId =>
    s.releaseRoomTypeBlocks roomTypeId booking.checkIn booking.checkOut (some id)

/-- The dates held for a booking become booked. -/
def bookDates (s : Inventory) (id : ℕ) : Inventory :=
  { s with
    blockedDates := s.blockedDates.map (fun blocked =>
      if blocked.bookingId = some id then { blocked with reason := .booked } else blocked) }

/-- `PaymentStateMachine.mark_paid` on the latest payment event, or on a new one. -/
def markPaid (s : Inventory) (id : ℕ) (booking : StayBooking) : Except BookingError Inventory := do
  let state := booking.payment.getD .pending
  require state.canBePaid (.invalidPayment state)
  pure { s with
    bookings := s.bookings.set id { booking with payment := some .paid }
    history := s.history ++ [⟨id, .payment state, .payment .paid⟩] }

/-- `confirm_booking`. -/
def confirmBooking (env : ConfirmEnv) (s : Inventory) (id : ℕ) : Except BookingError Inventory :=
  match s.bookings[id]? with
  | none => .error (.refused "Booking not found")
  | some booking => do
      require (booking.status ≠ .confirmed) (.refused "Booking already confirmed")
      require (booking.expiresAt.all (fun expiresAt => env.now ≤ expiresAt))
        (.refused "Booking has expired. Please create a new booking.")
      require (booking.roomTypeId.all (fun roomTypeId =>
          0 < s.availableUnits roomTypeId booking.checkIn booking.checkOut (some id)))
        (.refused ("Selected dates are no longer available for this room type. " ++
          "Please contact support."))
      s.isRangeAvailable booking.propertyId booking.checkIn booking.checkOut (some id)
      require (¬ env.openFlags) (.refused "Booking has open content flags")
      match env.policyRefusal with
      | some message => .error (.refused message)
      | none => do
          let paid ← ((s.bookDates id).dropOwnBlocks id booking).markPaid id booking
          paid.transition id .confirmed

/-- `approve_booking`. -/
def approveBooking (s : Inventory) (id : ℕ) : Except BookingError Inventory :=
  match s.bookings[id]? with
  | none => .error (.refused "Booking not found")
  | some booking => do
      require (booking.status = .pendingApproval) (.refused "Cannot approve booking in this state")
      ((s.bookDates id).dropOwnBlocks id booking).transition id .confirmed

/-! ## Cancelling -/

/-- The common part of `reject_booking` and `cancel_booking`: release what the
booking holds and commit, then make the transition. -/
def releaseAndCancel (s : Inventory) (id : ℕ) (booking : StayBooking) :
    Except BookingError Inventory :=
  match booking.roomTypeId with
  | none => (s.dropDates id).transition id .cancelled
  | some _ => .ok (((s.dropDates id).dropOwnBlocks id booking).suspend (.cancel id))

/-- `reject_booking`. -/
def rejectBooking (s : Inventory) (id : ℕ) : Except BookingError Inventory :=
  match s.bookings[id]? with
  | none => .error (.refused "Booking not found")
  | some booking => do
      require (booking.status = .pendingApproval) (.refused "Cannot reject booking in this state")
      s.releaseAndCancel id booking

/-- The users who may cancel a booking. -/
def StayBooking.cancelActors (booking : StayBooking) : List ℕ :=
  [booking.bookedByUserId, booking.guestUserId, booking.hostUserId] ++
    booking.bookingOwnerId.toList ++ booking.primaryGuestId.toList

/-- `cancel_booking`; `quoteRefusal` is the message of a quote that does not allow
it. -/
def cancelBooking (s : Inventory) (id actor : ℕ) (quoteRefusal : Option String) :
    Except BookingError Inventory :=
  match s.bookings[id]? with
  | none => .error (.refused "Booking not found")
  | some booking => do
      require (actor ∈ StayBooking.cancelActors booking)
        (.notAuthorised "You are not authorised to cancel this booking.")
      require booking.status.isCancellable (.refused "Cannot cancel at this stage")
      match quoteRefusal with
      | some message => .error (.refused message)
      | none => s.releaseAndCancel id booking

/-! ## Changing the dates -/

/-- The arguments of `modify_booking_dates`, and what it asks the property. -/
structure DateChange where
  hostUserId : ℕ
  isAdmin : Bool := false
  newCheckIn : Option Day := none
  newCheckOut : Option Day := none
  today : Day
  minStayNights : Option ℕ := none
  maxStayNights : Option ℕ := none
  priceError : Option String := none
  now : Instant

/-- The availability check for the new dates. -/
def datesAvailable (s : Inventory) (id : ℕ) (booking : StayBooking) (checkIn checkOut : Day) :
    Except BookingError Unit :=
  match booking.roomTypeId with
  | some roomTypeId =>
    let available := s.availableUnits roomTypeId checkIn checkOut (some id)
    require (booking.roomsRequested ≤ available) (.onlyAvailable available booking.roomsRequested)
  | none => s.isRangeAvailable booking.propertyId checkIn checkOut (some id)

/-- `modify_booking_dates` up to the commit that releases the old blocks. -/
def modifyBookingDates (s : Inventory) (id : ℕ) (change : DateChange) :
    Except BookingError Inventory :=
  match s.bookings[id]? with
  | none => .error (.refused "Booking not found")
  | some booking => do
      require (¬ booking.isDeleted) (.refused "Booking is deleted and cannot be modified")
      require (booking.hostUserId = change.hostUserId ∨ change.isAdmin)
        (.notAuthorised "You are not authorised to modify this booking's dates")
      require booking.status.isStaying (.refused booking.status.notModifiable)
      let checkIn := change.newCheckIn.getD booking.checkIn
      let checkOut := change.newCheckOut.getD booking.checkOut
      require (checkIn ≠ booking.checkIn ∨ checkOut ≠ booking.checkOut)
        (.refused "No date changes provided — new dates match the current booking")
      require (change.today ≤ checkIn)
        (.refused "New check-in date cannot be in the past at the property")
      require (change.today < checkOut)
        (.refused "New check-out date must be in the future at the property")
      if valid : checkIn < checkOut then do
        require (change.minStayNights.all (fun nights => nights ≤ (checkOut - checkIn)))
          (.refused (shortStay (checkOut - checkIn) (change.minStayNights.getD 0 : ℕ)))
        require (change.maxStayNights.all
          (fun nights => nights = 0 ∨ (checkOut - checkIn) ≤ nights))
          (.refused (longStay (checkOut - checkIn) (change.maxStayNights.getD 0 : ℕ)))
        s.datesAvailable id booking checkIn checkOut
        match change.priceError with
        | some message => .error (.refused message)
        | none =>
          let released := (s.dropDates id).dropOwnBlocks id booking
          match booking.roomTypeId with
          | some _ => pure (released.suspend (.modify id checkIn checkOut valid))
          | none => pure ((released.blockDates booking.propertyId checkIn checkOut .booked (some id)
              (some change.hostUserId) change.now).suspend (.modify id checkIn checkOut valid))
      else .error (.refused "Check-out must be after check-in")

/-- The last transaction of a change of dates. A booking that is not staying any
more would need a block, with a reason that is not accepted. -/
def finishModify (s : Inventory) (id : ℕ) (checkIn checkOut : Day) (valid : checkIn < checkOut) :
    Inventory :=
  match s.bookings[id]? with
  | none => s
  | some booking =>
    if booking.roomTypeId.isSome ∧ ¬ booking.status.isStaying then s
    else { s with
      bookings := s.bookings.set id { booking with checkIn, checkOut, valid_dates := valid } }

/-! ## At the desk -/

/-- What `check_in` asks about the booking: the day at the property, and whether
registration, payment policy and physical rooms allow it. The rooms refuse a booking that has
another number of assignments than it asks for, and also one that has none: the rows of
`RoomBooking` it would need fail on the unbound name. -/
structure DeskEnv where
  today : Day
  registered : Bool := true
  policyRefusal : Option String := none
  roomsRefusal : Option String := none

/-- `check_in`; an adjustment of the dates is a change of dates before it. -/
def checkIn (env : DeskEnv) (s : Inventory) (id : ℕ) : Except BookingError Inventory :=
  match s.bookings[id]? with
  | none => .error (.refused "Booking not found")
  | some booking => do
      require (¬ booking.isCheckedIn) (.refused "Booking is already checked in")
      require (booking.status = .confirmed ∧ booking.checkIn ≤ env.today ∧ env.registered)
        (.refused "Booking is not ready for check-in.")
      match env.policyRefusal with
      | some message => .error (.refused message)
      | none => do
          require (env.roomsRefusal = none) (.refused (env.roomsRefusal.getD ""))
          let marked : Inventory :=
            { s with bookings := s.bookings.set id { booking with isCheckedIn := true } }
          marked.transition id .checkedIn

/-- `check_out`. -/
def checkOut (s : Inventory) (id : ℕ) : Except BookingError Inventory :=
  match s.bookings[id]? with
  | none => .error (.refused "Booking not found")
  | some booking => do
      require (booking.status = .checkedIn)
        (.refused "Only checked-in bookings can be checked out")
      require (¬ booking.isCheckedOut) (.refused "Booking is already checked out")
      let marked : Inventory :=
        { s with bookings := s.bookings.set id { booking with isCheckedOut := true } }
      marked.transition id .checkedOut

/-- `_record_refund_history`: a row from the status to itself. -/
def recordRefundHistory (s : Inventory) (id : ℕ) : Inventory :=
  match s.bookings[id]? with
  | none => s
  | some booking =>
    { s with
      history := s.history ++ [⟨id, .booking booking.status, .booking booking.status⟩] }

/-- What the record of a refund does to the status: a cancelled booking that is
refunded in full makes the transition. -/
def refundStatus (s : Inventory) (id : ℕ) (full : Bool) : Except BookingError Inventory :=
  match s.bookings[id]? with
  | none => .error (.refused "Booking not found")
  | some booking =>
    if booking.status = .cancelled ∧ full then do
      let refunded ← s.transition id .refunded
      pure (refunded.recordRefundHistory id)
    else pure (s.recordRefundHistory id)

end Inventory

end Afcon360.Accommodation
