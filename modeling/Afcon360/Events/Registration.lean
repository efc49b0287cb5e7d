import Afcon360.Events.Inventory
import Afcon360.Foundation.Guard

/-!
# Registrations

A registration gets its references from the slug of the event and a number. A row that
breaks one of the unique constraints is not inserted, and the transaction that tried leaves
nothing. Registering takes a seat of a limited tier in the transaction that inserts the row;
cancelling returns it.
-/

namespace Afcon360.Events

open Foundation

inductive BookingType
  | self
  | thirdParty
  | group
deriving DecidableEq, Repr

/-! ## References -/

/-- `{seq:08d}` -/
def padded (seq : ℕ) : List Char :=
  let digits := (Nat.repr seq).toList
  List.replicate (8 - digits.length) '0' ++ digits

/-- The slug in a reference: upper case, no hyphens, at most twenty characters. -/
def refSlug (slug : String) : List Char :=
  let slug := if slug = "" then "EVENT" else slug
  (slug.toUpper.toList.map fun c => if c = '-' then '_' else c).take 20

/-- `generate_refs`, the registration reference. -/
def registrationRef (slug : String) (seq : ℕ) : String :=
  String.ofList ("ER-".toList ++ refSlug slug ++ '-' :: padded seq)

namespace EventTables

/-! ## Rows -/

/-- The unique constraints that two registrations can meet in. Users are compared only
where both rows have one. -/
def conflicts (row other : Registration) : Bool :=
  row.registrationRef = other.registrationRef ∨
    (row.eventId = other.eventId ∧ row.userId.isSome ∧ row.userId = other.userId) ∨
    (row.eventId = other.eventId ∧ row.email = other.email)

/-- The insert of a registration. -/
def insertRegistration (t : EventTables) (row : Registration) : Option EventTables :=
  if t.registrations.any (conflicts row) then none
  else some { t with registrations := t.registrations ++ [row] }

/-- The registrations of an event, counted. -/
def registrationCount (t : EventTables) (eventId : ℕ) : ℕ :=
  t.registrations.countP (·.eventId = eventId)

/-- The user is registered for the event. -/
def registered (t : EventTables) (eventId userId : ℕ) : Bool :=
  t.registrations.any fun row => row.eventId = eventId ∧ row.userId = some userId

end EventTables

/-! ## Registering -/

/-- The arguments of `register_for_event_optimistic`, with the answers of the availability
gate and of the discount check, and the tier that a query in price order finds first. -/
structure RegistrationOrder where
  identifier : String
  userId : ℕ
  attendeeUserId : Option ℕ
  bookingType : BookingType
  ticketTypeId : Option ℕ
  email : String
  gateError : Option String
  discountError : Option String
  first : ℕ
deriving DecidableEq

/-- Whose registration is looked for. -/
def RegistrationOrder.checkUserId (order : RegistrationOrder) : Option ℕ :=
  match order.bookingType with
  | .self => some order.userId
  | .thirdParty => some (order.attendeeUserId.getD order.userId)
  | .group => none

/-- The row of a registration. -/
def RegistrationOrder.row (order : RegistrationOrder) (now : ℤ) (eventId : ℕ) (event : Event)
    (sequence ticketTypeId : ℕ) (tier : TicketType) : Registration where
  eventId := eventId
  ticketTypeId := ticketTypeId
  userId := some (order.attendeeUserId.getD order.userId)
  email := (strip order.email).toLower
  registrationRef := Events.registrationRef event.slug sequence
  status := if tier.price = 0 then .confirmed else .pendingPayment
  paymentStatus := if tier.price = 0 then .free else .pending
  createdAt := now

/-- What the caller is told when there is a registration. A key is made up where none is given,
so the two texts for a call without one are never returned. -/
def alreadyRegistered : String := "Duplicate request - registration already processed"

inductive RegisterError
  | refused (message : String)
  | soldOut (error : InventoryError)
  | failed
deriving DecidableEq, Repr

namespace EventTables

/-- The tier at the place is an active one of the event, and none is cheaper. -/
def cheapest (t : EventTables) (eventId place : ℕ) : Bool :=
  t.ticketTypes[place]?.any fun tier =>
    tier.eventId = eventId ∧ tier.isActive = true ∧
      ∀ other ∈ t.ticketTypes, other.eventId = eventId → other.isActive = true →
        tier.price ≤ other.price

/-- The tier a registration is for. An event without tiers and without a fee gets one. -/
def chooseTier (t : EventTables) (event : Event) (eventId : ℕ) (order : RegistrationOrder) :
    Except RegisterError (EventTables × ℕ) :=
  match order.ticketTypeId with
  | some id =>
    if t.ticketTypes[id]?.any (fun tier => tier.eventId = eventId ∧ tier.isActive = true) then
      .ok (t, id)
    else .error (.refused "Invalid ticket type")
  | none =>
    if t.cheapest eventId order.first then .ok (t, order.first)
    else if t.ticketTypes.any (fun tier => tier.eventId = eventId ∧ tier.isActive = true) then
      -- the query found another row
      .error .failed
    else if t.ticketTypes.any (fun tier => tier.eventId = eventId ∧ 0 < tier.price) ∨
        event.registrationFee ≠ 0 then
      .error (.refused "No active ticket types available for this event.")
    else
      .ok ({ t with
        ticketTypes := t.ticketTypes ++ [.create eventId "Free Entry" 0 0] },
        t.ticketTypes.length)

/-- Decrement of a limited tier. -/
def takeSeat (t : EventTables) (eventId ticketTypeId : ℕ) (tier : TicketType) :
    Except RegisterError EventTables :=
  if 0 < tier.capacity then
    (t.atomicDecrement eventId ticketTypeId 1).mapError RegisterError.soldOut
  else .ok t

/-- An attempt of `register_for_event_optimistic` from the look for a registration on. -/
def enrol (t : EventTables) (now : ℤ) (order : RegistrationOrder) (eventId : ℕ) (event : Event)
    (ticketTypeId : ℕ) (tier : TicketType) : Except RegisterError EventTables :=
  if order.checkUserId.any (t.registered eventId) then .error (.refused alreadyRegistered)
  else do
    let t ← t.takeSeat eventId ticketTypeId tier
    let sequence := t.registrationCount eventId + 1
    match t.insertRegistration (order.row now eventId event sequence ticketTypeId tier) with
    | none => .error .failed
    | some t => .ok t

/-- One attempt of `register_for_event_optimistic`, up to its commit. -/
def registerForEventOptimistic (t : EventTables) (now : ℤ) (order : RegistrationOrder) :
    Except RegisterError EventTables :=
  match t.events.findIdx? (·.slug = order.identifier) with
  | none => .error (.refused "Event not found")
  | some eventId =>
    match t.events[eventId]?, order.gateError with
    | none, _ => .error .failed
    | _, some message => .error (.refused message)
    | some event, none => do
        let (t, ticketTypeId) ← t.chooseTier event eventId order
        match t.ticketTypes[ticketTypeId]?, order.discountError with
        | none, _ => .error .failed
        | _, some message => .error (.refused s!"Discount code error: {message}")
        | some tier, none => t.enrol now order eventId event ticketTypeId tier

/-! ## Cancelling and expiring -/

/-- `cancel_registration` of the row at the place, read as `seen`; `today` is the server's
day. -/
def cancelRegistration (t : EventTables) (today : ℤ) (userId place : ℕ) (seen : Registration) :
    Except String EventTables :=
  if seen.userId ≠ some userId then .error "Unauthorized"
  else if seen.status = .cancelled then .error "Already cancelled"
  else if seen.status = .checkedIn then .error "Cannot cancel a checked-in registration"
  else if (t.events[seen.eventId]?.bind Event.startDate).any (· < today) then
    .error "Cannot cancel past events"
  else
    let t := { t with
      registrations := t.registrations.modify place fun row => { row with status := .cancelled } }
    match t.ticketTypes[seen.ticketTypeId]? with
    | none => .ok t
    | some tier =>
      .ok (if 0 < tier.capacity then t.incrementCapacity seen.ticketTypeId 1 else t)

/-- A registration that the reaper expires: unpaid for two hours. -/
def overdue (now : ℤ) (row : Registration) : Bool :=
  row.paymentStatus = .pending ∧ row.status = .pendingPayment ∧ row.createdAt ≤ now - 2 * 60 * 60

/-- The rows of a page expire, one after the other. -/
def expireRows (t : EventTables) (rows : List (Registration × ℕ)) : EventTables :=
  rows.foldl (fun t entry => { t with
    registrations := t.registrations.modify entry.2 fun row =>
      { row with paymentStatus := .expired, status := .expired } }) t

/-- `capacity_released[key] = capacity_released.get(key, 0) + 1` -/
def bump (key : ℕ × ℕ) : List ((ℕ × ℕ) × ℕ) → List ((ℕ × ℕ) × ℕ)
  | [] => [(key, 1)]
  | (other, count) :: rest =>
    if other = key then (other, count + 1) :: rest else (other, count) :: bump key rest

/-- The seats of a page by event and tier. -/
def capacityReleased (rows : List (Registration × ℕ)) : List ((ℕ × ℕ) × ℕ) :=
  rows.foldl (fun counts entry => bump (entry.1.eventId, entry.1.ticketTypeId) counts) []

/-- The first transaction of `expire_pending_registrations`, and the seats that the signals
after it release. -/
def expirePendingRegistrations (t : EventTables) (now : ℤ) (locked : ℕ → Bool)
    (after batch : ℕ) : EventTables × List ((ℕ × ℕ) × ℕ) :=
  let expired := page t.registrations (overdue now) locked after batch
  (t.expireRows expired, capacityReleased expired)

end EventTables

end Afcon360.Events
