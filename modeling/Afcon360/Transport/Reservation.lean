import Afcon360.Foundation.Rounding

/-!
# Reservations, their two state machines and the payment callback

A reservation has a lifecycle of its own and, beside it, the state of the payer's
obligation. `apply_obligation_event` is the callback of the payment side: it advances the
obligation and promotes a held reservation once its policy is met.

The callback reads the row without a lock. What it writes is the set of columns whose value
differs from the one it has read, so it is a change to be applied to whatever row is there
when the call commits.

Amounts are stored in hundredths; the callback itself compares decimals before they are
rounded to the column.
-/

namespace Afcon360.Transport

open Foundation

inductive ReservationState
  | draft | held | reserved | materialized | completed | cancelled | expired
deriving DecidableEq, Repr

inductive ReservationObligationState
  | unpaid | deposited | paid
deriving DecidableEq, Repr

namespace ReservationState

/-- The text of a state. -/
def value : ReservationState → String
  | .draft => "draft"
  | .held => "held"
  | .reserved => "reserved"
  | .materialized => "materialized"
  | .completed => "completed"
  | .cancelled => "cancelled"
  | .expired => "expired"

/-- `RESERVATION_TRANSITIONS`. -/
def transitions : ReservationState → List ReservationState
  | .draft => [.held, .cancelled]
  | .held => [.reserved, .cancelled, .expired]
  | .reserved => [.materialized, .cancelled, .expired]
  | .materialized => [.completed, .cancelled]
  | .completed => []
  | .cancelled => []
  | .expired => []

/-- `TERMINAL_STATES`. -/
def isTerminal : ReservationState → Bool
  | .completed => true
  | .cancelled => true
  | .expired => true
  | _ => false

/-- `CAPACITY_CONSUMING_STATES`, which are also the states that can be cancelled. -/
def consumesCapacity : ReservationState → Bool
  | .held => true
  | .reserved => true
  | .materialized => true
  | _ => false

theorem not_isTerminal_of_consumesCapacity {state : ReservationState}
    (h : state.consumesCapacity = true) : state.isTerminal = false := by
  cases state <;> simp_all [isTerminal, consumesCapacity]

end ReservationState

namespace ReservationObligationState

/-- `OBLIGATION_TRANSITIONS`: forward only. -/
def transitions : ReservationObligationState → List ReservationObligationState
  | .unpaid => [.deposited, .paid]
  | .deposited => [.paid]
  | .paid => []

/-- How far an obligation is. -/
def rank : ReservationObligationState → ℕ
  | .unpaid => 0
  | .deposited => 1
  | .paid => 2

theorem mem_transitions_iff {current target : ReservationObligationState} :
    target ∈ current.transitions ↔ current.rank < target.rank := by
  cases current <;> cases target <;> simp [transitions, rank]

end ReservationObligationState

inductive ReservationError
  | validation (message : String)
  | notFound (message : String)
  | permission (message : String)
  | conflict (message : String)
  | invalidReservationTransition (current target : ReservationState)
  | invalidObligationTransition (current : ReservationObligationState)
      (target : Option ReservationObligationState)
  /-- No slice of the pool at all, a gap, or an end before the end of the window. -/
  | supplyUndeclared
  | supplyGap (cursor sliceStart : ℤ)
  | supplyEnds (cursor windowEnd : ℤ)
  | insufficientSupply (sliceStart sliceEnd : ℤ) (requested available : ℤ)
  /-- A value outside its column. -/
  | numericOverflow
  /-- `_lookup_idempotent` called with positional arguments. -/
  | typeError
deriving DecidableEq, Repr

/-- A provider's offering: what supply is declared for and reservations draw on. -/
structure Pool where
  providerType : String
  providerId : ℤ
  offeringCode : String
deriving DecidableEq, Repr

structure TransportReservation where
  reservingUserId : ℕ
  idempotencyKey : String
  requestFingerprint : String
  pool : Pool
  windowStart : ℤ
  windowEnd : ℤ
  requiredQuantity : ℕ
  mode : String
  state : ReservationState
  obligationState : ReservationObligationState
  paymentMethod : Option String
  paymentTiming : Option String
  commercialPolicyRef : Option String
  onBehalfOfOrganisationId : Option ℤ
  authorityEvidence : List (String × String)
  eventId : Option ℤ
  contextSource : Option String
  contextRef : Option String
  depositRequired : Bool
  requiredTotalAmount : Option ℤ
  amountReceived : ℤ
  depositAmount : Option ℤ
  depositDueAt : Option ℤ
  walletTransactionReference : Option String
  /-- `required_obligation_for_reserved` of the policy snapshot. -/
  requiredObligationForReserved : List ReservationObligationState
  isDeleted : Bool := false
deriving DecidableEq, Repr

/-- The value of a stored amount. -/
def money (hundredths : ℤ) : ℚ := gridValue 100 hundredths

/-- A decimal as the column `NUMERIC(10, 2)` stores it. -/
def storedAmount (amount : ℚ) : ℤ := roundHalfUp 100 amount

/-- Ten digits, two of them after the point. -/
def fitsColumn (hundredths : ℤ) : Bool := hundredths.natAbs < 10 ^ 10

/-- The amount of a callback: none, a text that is no decimal, or a decimal. -/
inductive AmountArgument
  | absent
  | malformed
  | decimal (amount : ℚ)
deriving DecidableEq, Repr

/-- A callback of the payment side. The target is `none` when it names no obligation state. -/
structure ObligationEvent where
  target : Option ReservationObligationState
  walletTransactionReference : Option String := none
  amountReceived : AmountArgument := .absent
deriving DecidableEq, Repr

/-- The reference of an event; the empty text counts as none. -/
def ObligationEvent.reference (event : ObligationEvent) : Option String :=
  event.walletTransactionReference.filter (fun text => text ≠ "")

/-- The columns a callback writes. -/
structure ObligationChange where
  obligationState : Option ReservationObligationState
  amountReceived : Option ℤ
  walletTransactionReference : Option String
  state : Option ReservationState
deriving DecidableEq, Repr

def ObligationChange.apply (change : ObligationChange) (row : TransportReservation) :
    TransportReservation :=
  { row with
    obligationState := change.obligationState.getD row.obligationState
    amountReceived := change.amountReceived.getD row.amountReceived
    walletTransactionReference :=
      change.walletTransactionReference <|> row.walletTransactionReference
    state := change.state.getD row.state }

namespace TransportReservation

variable (row : TransportReservation) (event : ObligationEvent)

/-- `obligation_satisfies_reserved`. -/
def satisfiesReserved (obligation : ReservationObligationState) : Bool :=
  obligation ∈ row.requiredObligationForReserved

/-- What will have been received: the larger of what is recorded and the amount of the
event, which for an event without an amount is the deposit or the total. -/
def proposedReceived : Except ReservationError ℚ :=
  match event.amountReceived with
  | .malformed => .error (.validation "amount_received must be a decimal amount")
  | .decimal received =>
    if received < 0 then .error (.validation "amount_received must not be negative")
    else .ok (max (money row.amountReceived) received)
  | .absent =>
    match event.target, row.depositAmount, row.requiredTotalAmount with
    | some .deposited, some deposit, _ => .ok (max (money row.amountReceived) (money deposit))
    | some .paid, _, some total => .ok (max (money row.amountReceived) (money total))
    | _, _, _ => .ok (money row.amountReceived)

/-- A deposit needs a deposit amount that is met, a settlement a total that is met. -/
def checkTarget (proposed : ℚ) : Except ReservationError Unit :=
  match event.target with
  | some .deposited =>
    match row.depositAmount with
    | none => .error (.validation "Deposit event requires a valid deposit reference amount")
    | some deposit =>
      if proposed < money deposit then
        .error (.validation "Deposit event does not satisfy the required deposit amount")
      else .ok ()
  | some .paid =>
    match row.requiredTotalAmount with
    | none => .error (.validation "Paid state requires a valid required total amount")
    | some total =>
      if proposed < money total then
        .error (.validation "Full-settlement event does not satisfy the required total amount")
      else .ok ()
  | _ => .ok ()

/-- The event that the row remembers. -/
def isDuplicate : Bool :=
  event.reference.isSome && row.walletTransactionReference = event.reference

/-- The columns that differ from the row after the event has been recorded on it. -/
def obligationChange (target : ReservationObligationState) (proposed : ℚ) : ObligationChange :=
  { obligationState := if target = row.obligationState then none else some target
    amountReceived :=
      if proposed = money row.amountReceived then none else some (storedAmount proposed)
    walletTransactionReference := event.reference
    state :=
      if row.state = .held ∧ row.satisfiesReserved target = true then some .reserved else none }

/-- `apply_obligation_event` up to its commit, on the row it has read. `none` when the event
is the one the row remembers. -/
def applyObligationEvent : Except ReservationError (Option ObligationChange) :=
  if row.isDeleted then .error (.notFound "Reservation not found")
  else if row.state.isTerminal ∧ event.target ≠ some row.obligationState then
    .error (.validation ("Reservation is in terminal state '" ++ row.state.value ++
      "'; obligation cannot transition"))
  else
    match row.proposedReceived event with
    | .error error => .error error
    | .ok proposed =>
      match row.checkTarget event proposed with
      | .error error => .error error
      | .ok () =>
        if row.isDuplicate event then .ok none
        else
          match event.target with
          | none => .error (.invalidObligationTransition row.obligationState none)
          | some target =>
            if target ≠ row.obligationState ∧ target ∉ row.obligationState.transitions then
              .error (.invalidObligationTransition row.obligationState (some target))
            else .ok (some (row.obligationChange event target proposed))

/-- The commit of a callback. A reference that another reservation has violates the unique
index; the call then returns the row as it is. -/
def record (taken : Bool) (change : ObligationChange) (row : TransportReservation) :
    Except ReservationError TransportReservation :=
  if change.amountReceived.any (fun amount => !fitsColumn amount) then .error .numericOverflow
  else if taken ∧ change.walletTransactionReference.isSome then .ok row
  else .ok (change.apply row)

/-- The condition of the update in `cancel_reservation`. -/
def cancellable (row : TransportReservation) : Bool :=
  row.state.consumesCapacity && !row.isDeleted

/-- The condition of the update in `expire_due_held_reservations`. -/
def expirable (now : ℤ) (row : TransportReservation) : Bool :=
  row.state = .held && row.obligationState = .unpaid && row.depositDueAt.any (· < now) &&
    !row.isDeleted

end TransportReservation

end Afcon360.Transport
