import Afcon360.Foundation.Load
import Afcon360.Foundation.Table
import Mathlib.Algebra.Order.Ring.Rat

/-!
# Ticket inventory

A limited ticket tier counts the seats it has left. Seats are taken by one conditional
update and returned by one capped update; a hold is a row of its own that says how many
seats it took. A capacity of zero means that the tier is unlimited, and its seats are not
counted.
-/

namespace Afcon360.Events

open Foundation

/-! ## Tables -/

structure Event where
  slug : String
  maxCapacity : ℕ
  registrationFee : ℚ
  /-- The day the event starts on. -/
  startDate : Option ℤ
deriving DecidableEq

structure TicketType where
  eventId : ℕ
  name : String
  price : ℚ
  capacity : ℕ
  availableSeats : Option ℤ
  version : ℕ
  isActive : Bool
deriving DecidableEq

/-- `TicketType(...)`: a new tier has all its seats. -/
def TicketType.create (eventId : ℕ) (name : String) (price : ℚ) (capacity : ℕ) : TicketType where
  eventId := eventId
  name := name
  price := price
  capacity := capacity
  availableSeats := some capacity
  version := 0
  isActive := true

inductive ReservationStatus
  | reserved
  | confirmed
  | released
  | expired
  | cancelled
deriving DecidableEq, Repr

def ReservationStatus.text : ReservationStatus → String
  | .reserved => "reserved"
  | .confirmed => "confirmed"
  | .released => "released"
  | .expired => "expired"
  | .cancelled => "cancelled"

structure TicketHold where
  eventId : ℕ
  ticketTypeId : ℕ
  userId : Option ℕ
  quantity : ℕ
  status : ReservationStatus
  idempotencyKey : Option String
  walletTxnId : Option String
  holdMinutes : ℕ
  expiresAt : ℤ
  releasedAt : Option ℤ
  releaseReason : Option String
  convertedRegistrationId : Option ℕ
deriving DecidableEq

inductive RegistrationStatus
  | pendingPayment
  | confirmed
  | cancelled
  | checkedIn
  | noShow
  | expired
deriving DecidableEq, Repr

inductive PaymentStatus
  | free
  | pending
  | paid
  | failed
  | refunded
  | expired
deriving DecidableEq, Repr

structure Registration where
  eventId : ℕ
  ticketTypeId : ℕ
  userId : Option ℕ
  email : String
  registrationRef : String
  status : RegistrationStatus
  paymentStatus : PaymentStatus
  createdAt : ℤ
deriving DecidableEq

/-- A registration that is neither cancelled nor expired. -/
def Registration.live (row : Registration) : Bool :=
  row.status ≠ .cancelled ∧ row.status ≠ .expired

/-- A hold that has its seats: reserved, or confirmed. -/
def TicketHold.holding (row : TicketHold) : Bool :=
  row.status = .reserved ∨ row.status = .confirmed

structure EventTables where
  events : List Event
  ticketTypes : List TicketType
  holds : List TicketHold
  registrations : List Registration
deriving DecidableEq

inductive InventoryError
  | valueError (message : String)
  | reservation (message : String)
deriving DecidableEq, Repr

/-! ## Taking and returning seats -/

namespace EventTables

/-- `_event_consumed_seats`: the seats sold of the limited tiers of an event. -/
def eventConsumedSeats (t : EventTables) (eventId : ℕ) : ℤ :=
  ((t.ticketTypes.filter fun tier => tier.eventId = eventId ∧ 0 < tier.capacity).map
    fun tier => (tier.capacity : ℤ) - tier.availableSeats.getD tier.capacity).sum

/-- The tier that the conditional update of `_atomic_decrement` finds. -/
def sellable (t : EventTables) (eventId ticketTypeId quantity : ℕ) : Option (TicketType × ℤ) :=
  t.ticketTypes[ticketTypeId]?.bind fun tier =>
    tier.availableSeats.bind fun available =>
      if tier.eventId = eventId ∧ tier.isActive = true ∧ (quantity : ℤ) ≤ available then
        some (tier, available)
      else none

/-- Why the conditional update found no row; an unlimited tier is no error. -/
def unsellable (t : EventTables) (eventId ticketTypeId quantity : ℕ) :
    Except InventoryError EventTables :=
  match t.ticketTypes[ticketTypeId]?.filter (·.eventId = eventId) with
  | none => .error (.reservation "Ticket type not found")
  | some tier =>
    if tier.isActive = false then
      .error (.reservation "Ticket type is not available for sale")
    else if tier.capacity = 0 then .ok t
    else if tier.availableSeats.getD tier.capacity < quantity then
      let available := tier.availableSeats.getD tier.capacity
      let name := tier.name
      .error (.reservation s!"Only {available} ticket(s) available for '{name}'")
    else .error (.reservation "Ticket inventory unavailable")

/-- `_atomic_decrement` -/
def atomicDecrement (t : EventTables) (eventId ticketTypeId quantity : ℕ) :
    Except InventoryError EventTables :=
  if quantity < 1 then .error (.valueError "quantity must be >= 1")
  else
    match t.events[eventId]? with
    | none => .error (.reservation "Event not found")
    | some event =>
      if 0 < event.maxCapacity ∧
          (event.maxCapacity : ℤ) < t.eventConsumedSeats eventId + quantity then
        .error (.reservation "Event has reached full capacity")
      else
        match t.sellable eventId ticketTypeId quantity with
        | some (tier, available) =>
          .ok { t with
            ticketTypes := t.ticketTypes.set ticketTypeId
              { tier with availableSeats := some (available - quantity) } }
        | none => t.unsellable eventId ticketTypeId quantity

/-- `increment_capacity`: seats go back to a limited tier, up to its capacity. -/
def incrementCapacity (t : EventTables) (ticketTypeId quantity : ℕ) : EventTables :=
  if quantity < 1 then t
  else
    match t.ticketTypes[ticketTypeId]? with
    | none => t
    | some tier =>
      if 0 < tier.capacity then
        { t with
          ticketTypes := t.ticketTypes.set ticketTypeId
            { tier with
              availableSeats :=
                some (min tier.capacity (tier.availableSeats.getD tier.capacity + quantity)) } }
      else t

/-- The update of the handler of released capacity: here a tier without a count starts from
zero. -/
def addSeats (t : EventTables) (eventId ticketTypeId : ℕ) (seats : ℤ) : EventTables :=
  match t.ticketTypes[ticketTypeId]?.filter (·.eventId = eventId) with
  | none => t
  | some tier =>
    { t with
      ticketTypes := t.ticketTypes.set ticketTypeId
        { tier with
          availableSeats := some (min tier.capacity (tier.availableSeats.getD 0 + seats))
          version := tier.version + 1 } }

/-- `handle_capacity_released`: an unlimited tier only gets a new version. -/
def handleCapacityReleased (t : EventTables) (eventId ticketTypeId seatsReleased : ℕ) :
    EventTables :=
  match t.ticketTypes[ticketTypeId]?.filter (·.eventId = eventId) with
  | none => t
  | some tier =>
    if tier.capacity = 0 then
      { t with
        ticketTypes := t.ticketTypes.set ticketTypeId { tier with version := tier.version + 1 } }
    else t.addSeats eventId ticketTypeId seatsReleased

/-- `release_expired_capacity`. The update it builds calls `func`, which its module does not
import: the task rolls back and answers that it failed. -/
def releaseExpiredCapacity (t : EventTables) (_eventId _ticketTypeId : ℕ) (_seatsToRelease : ℤ) :
    Bool × EventTables :=
  (false, t)

/-! ## Holds -/

/-- `reserve_capacity`, with its commit. -/
def reserveCapacity (t : EventTables) (now : ℤ) (eventId ticketTypeId quantity : ℕ)
    (userId : Option ℕ) (holdMinutes : ℕ) (idempotencyKey : Option String) :
    Except InventoryError EventTables :=
  (t.atomicDecrement eventId ticketTypeId quantity).map fun t =>
    { t with
      holds := t.holds ++ [{
        eventId := eventId
        ticketTypeId := ticketTypeId
        userId := userId
        quantity := quantity
        status := .reserved
        idempotencyKey := idempotencyKey
        walletTxnId := none
        holdMinutes := holdMinutes
        expiresAt := now + 60 * holdMinutes
        releasedAt := none
        releaseReason := none
        convertedRegistrationId := none }] }

/-- `mark_released`, written to the row the object stands for. -/
def markReleased (t : EventTables) (now : ℤ) (place : ℕ) (reason : Option String) : EventTables :=
  { t with
    holds := t.holds.modify place fun row =>
      { row with status := .released, releasedAt := some now, releaseReason := reason } }

/-- `release_hold` of an object that was read as `seen`. -/
def releaseHold (t : EventTables) (now : ℤ) (place : ℕ) (seen : TicketHold)
    (reason : Option String) : Bool × EventTables :=
  if seen.status ≠ .reserved then (false, t)
  else (true, (t.incrementCapacity seen.ticketTypeId seen.quantity).markReleased now place reason)

/-- `mark_confirmed`; what is not given stays. -/
def markConfirmed (t : EventTables) (place : ℕ) (walletTxnId : Option String)
    (registrationId : Option ℕ) : EventTables :=
  { t with
    holds := t.holds.modify place fun row =>
      { row with
        status := .confirmed
        walletTxnId := walletTxnId <|> row.walletTxnId
        convertedRegistrationId := registrationId <|> row.convertedRegistrationId
        releaseReason := some "Converted to registration" } }

/-- `confirm_reservation` of an object that was read as `seen`. -/
def confirmReservation (t : EventTables) (place : ℕ) (seen : TicketHold)
    (walletTxnId : Option String) (registrationId : Option ℕ) :
    Except InventoryError EventTables :=
  match seen.status with
  | .confirmed => .ok t
  | .released | .expired | .cancelled =>
    let status := seen.status.text
    .error (.reservation s!"Hold is {status} and cannot be confirmed")
  | .reserved => .ok (t.markConfirmed place walletTxnId registrationId)

/-- A page of the beat tasks: the first rows past a place that are due and not locked. -/
def page {ρ : Type} (rows : List ρ) (due : ρ → Bool) (locked : ℕ → Bool) (after batch : ℕ) :
    List (ρ × ℕ) :=
  (rows.zipIdx.filter fun entry => due entry.1 && decide (after ≤ entry.2) && !locked entry.2).take
    (max 1 (min batch 50))

/-- `release_expired_ticket_holds`: one page of due holds, read under their row locks and
released in one transaction. -/
def releaseExpiredTicketHolds (t : EventTables) (now : ℤ) (locked : ℕ → Bool)
    (after batch : ℕ) : EventTables :=
  (page t.holds (fun row => row.status = .reserved ∧ row.expiresAt ≤ now) locked after batch).foldl
    (fun t entry => (t.releaseHold now entry.2 entry.1 (some "expired by beat")).2) t

end EventTables

end Afcon360.Events
