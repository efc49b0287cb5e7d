import Mathlib.Data.List.Basic

/-!
# The lifecycle of a booking

`AccommodationBookingStatus` and the transitions of `BookingStateMachine`, and the
states of a payment with those from which it can become paid.
-/

namespace Afcon360.Accommodation

/-- `AccommodationBookingStatus`; the last two are legacy states. -/
inductive BookingStatus
  | draft | held | pendingPayment | pendingApproval | confirmed | checkedIn | checkedOut | closed
  | cancelled | noShow | expired | refunded | pending | paymentPartial
  deriving DecidableEq, Repr

namespace BookingStatus

/-- `VALID_TRANSITIONS`. -/
def validTransitions : BookingStatus → List BookingStatus
  | .draft => [.held, .cancelled]
  | .held => [.pendingPayment, .pendingApproval, .expired, .cancelled]
  | .pendingPayment => [.confirmed, .cancelled, .expired]
  | .pendingApproval => [.confirmed, .cancelled]
  | .confirmed => [.checkedIn, .cancelled, .noShow]
  | .checkedIn => [.checkedOut, .cancelled]
  | .checkedOut => [.closed]
  | .cancelled => [.refunded]
  | .closed | .refunded | .expired | .noShow => []
  | .pending => [.pendingApproval, .confirmed, .cancelled, .expired]
  | .paymentPartial => [.confirmed, .cancelled]

/-- The statuses whose bookings occupy their rooms. -/
def isStaying (status : BookingStatus) : Bool := status = .confirmed ∨ status = .checkedIn

/-- `ACTIVE_BOOKING_STATUSES`: the statuses `available_units` counts. -/
def isActive (status : BookingStatus) : Bool := status.isStaying ∨ status = .pending

/-- The statuses in which a booking can still become confirmed. -/
def isOpen (status : BookingStatus) : Bool :=
  status ∈ [.draft, .held, .pendingPayment, .pendingApproval, .pending, .paymentPartial]

/-- `CANCELLABLE_STATUSES`. -/
def isCancellable (status : BookingStatus) : Bool :=
  status ∈ [.draft, .held, .pending, .pendingPayment, .pendingApproval, .confirmed, .checkedIn]

/-- The stored text of a status. -/
def value : BookingStatus → String
  | .draft => "draft"
  | .held => "held"
  | .pendingPayment => "pending_payment"
  | .pendingApproval => "pending_approval"
  | .confirmed => "confirmed"
  | .checkedIn => "checked_in"
  | .checkedOut => "checked_out"
  | .closed => "closed"
  | .cancelled => "cancelled"
  | .noShow => "no_show"
  | .expired => "expired"
  | .refunded => "refunded"
  | .pending => "pending"
  | .paymentPartial => "payment_partial"

/-- What `modify_booking_dates` says of a booking that is not staying. -/
def notModifiable (status : BookingStatus) : String :=
  "Cannot modify dates for a booking in '" ++ status.value ++ "' status"

theorem not_isOpen_of_isStaying {status : BookingStatus} (h : status.isStaying) :
    status.isOpen = false := by
  cases status <;> simp_all [isStaying, isOpen]

theorem cancelled_mem_of_isCancellable {status : BookingStatus} (h : status.isCancellable) :
    .cancelled ∈ status.validTransitions := by
  cases status <;> simp_all [isCancellable, validTransitions]

end BookingStatus

/-- What `modify_booking_dates` says of a stay that is too short. -/
def shortStay (nights minimum : Int) : String :=
  "New stay (" ++ toString nights ++ " nights) is shorter than the property's minimum stay of " ++
    toString minimum ++ " nights"

/-- And of one that is too long. -/
def longStay (nights maximum : Int) : String :=
  "New stay (" ++ toString nights ++ " nights) exceeds the property's maximum stay of " ++
    toString maximum ++ " nights"

/-- `PaymentState`. -/
inductive PaymentState
  | unpaid | pending | processing | partiallyPaid | paid | failed | refundPending | refunded
  | partialRefund | cancelled
  deriving DecidableEq, Repr

/-- The states whose `VALID_TRANSITIONS` have `PAID`. -/
def PaymentState.canBePaid (state : PaymentState) : Bool :=
  state ∈ [.unpaid, .pending, .processing, .partiallyPaid, .refundPending]

end Afcon360.Accommodation
