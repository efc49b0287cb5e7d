import Afcon360.Accommodation.Escrow
import Afcon360.Wallet.System

/-!
# The refund desk

Everything that writes the refund columns of bookings: cancellation, by the service and by
the booking's own method, a change of dates, the request and the review of a refund, its
execution through the wallet and the verification of an execution by an outside provider.
Each is one step, under the lock of the booking's row but for the booking's own method; the
wallet refund is cut in three by its transfer.

The desk has all bookings. Columns that other parts of the platform write can change at
any time, and so can the commission row and the wallet. An amount that `quantize` does
not take raises; only in `refund_guest` does this leave a trace.
-/

namespace Afcon360.Accommodation

open Foundation Wallet

/-- A workflow that says that money went back. -/
def RefundWorkflow.isSettled (workflow : RefundWorkflow) : Bool :=
  workflow.state = some .refunded ∨ workflow.state = some .partiallyRefunded

/-! ## Cancelling -/

/-- The arguments of `cancel_booking`, with the refund of the quote or the message it
refuses with. -/
structure Cancellation where
  cancelledByUserId : Option UserId
  reason : Option String := none
  requestHumanReview : Bool := false
  quote : Except String ℚ
  paymentTiming : Option String := none
  violationRecorded : Bool := true

/-- `authorized_cancel_actor_ids`. -/
def AccommodationBooking.cancelActorIds (booking : AccommodationBooking) : List (Option UserId) :=
  [booking.bookingOwnerId, some booking.bookedByUserId, booking.guestUserId,
    booking.primaryGuestId, some booking.hostUserId]

/-- What keeps a cancellation's refund from being automatic. -/
def Cancellation.reviewFlags (args : Cancellation) (booking : AccommodationBooking) :
    List RiskFlag :=
  flagIf args.requestHumanReview .humanReviewRequested ++
    flagIf (args.cancelledByUserId = some booking.hostUserId)
      .providerCancellationLiabilityReview ++
    flagIf (¬ booking.policy.isVersion2) .bookingTimePolicySnapshotIncomplete

/-- The refund that is due in cash. -/
def Cancellation.refundableCash (args : Cancellation) (refund : ℚ) : ℚ :=
  if (args.paymentTiming.filter (· ≠ "")).getD "pay_now" ∈ ["pay_now", "deposit"] then refund
  else 0

/-- The workflow a cancellation starts. -/
def Cancellation.workflow (args : Cancellation) (booking : AccommodationBooking) (refund : ℚ) :
    RefundWorkflow :=
  let flags := args.reviewFlags booking
  { state := some
      (if 0 < args.refundableCash refund ∨ flags ≠ [] then
        if flags ≠ [] then .pendingHumanReview else .screening
      else .noRefundDue)
    riskFlags := some flags
    requestedByUserId := args.cancelledByUserId
    signed := true }

/-- `cancel_booking`, the columns of the booking. -/
def cancelBooking (booking : AccommodationBooking) (args : Cancellation) :
    Except String AccommodationBooking := do
  require (args.cancelledByUserId ∈ booking.cancelActorIds)
    "You are not authorised to cancel this booking."
  require booking.status.isCancellable "Cannot cancel at this stage"
  let refund ← args.quote
  require (.cancelled ∈ booking.status.validTransitions) "Cannot transition booking"
  require (args.violationRecorded ∨
      ¬ (args.cancelledByUserId = some booking.hostUserId ∧ booking.status.isStaying))
    "Unable to cancel booking. Please contact support."
  pure { booking with
    status := .cancelled
    cancelledByUserId := args.cancelledByUserId
    cancellationReason := args.reason
    policy := { booking.policy with outcomeRefund := some refund, outcomeSigned := true }
    workflow := args.workflow booking refund }

/-- `AccommodationBooking.cancel`, which the events of a stay call: the refund of the quote is
written down as made. -/
def AccommodationBooking.cancel (booking : AccommodationBooking) (userId : Option UserId)
    (reason : Option String) (quote : Except String ℚ) (now : Timestamp) :
    Except String AccommodationBooking := do
  require booking.status.isCancellable "Cannot cancel at this stage"
  let refund ← quote
  require (.cancelled ∈ booking.status.validTransitions) "Cannot transition booking"
  pure { booking with
    status := .cancelled
    cancelledByUserId := userId
    cancellationReason := reason
    refundAmount := if 0 < refund then Cents.ofDecimal refund else booking.refundAmount
    paymentStatus := if 0 < refund then .refunded else booking.paymentStatus
    refundedAt := if 0 < refund then some now else booking.refundedAt }

/-! ## Changing the dates -/

/-- The arguments of `modify_booking_dates` that its price depends on, and the rates of
the booking; `refusal` is what the checks of dates and availability answer. -/
structure PriceChange where
  hostUserId : UserId
  isAdmin : Bool := false
  refusal : Option String := none
  nights : ℕ
  nightlyRate : Cents
  cleaningFee : Cents := 0
  serviceFee : Cents := 0
  taxes : Cents := 0

/-- `new_total` of `calculate_modification_price`. -/
def PriceChange.newTotal (change : PriceChange) : Cents :=
  change.nightlyRate * change.nights + change.cleaningFee + change.serviceFee + change.taxes

/-- `refund_amount` of `calculate_modification_price`: by how much the new total is less. -/
def PriceChange.refundAmount (change : PriceChange) (booking : AccommodationBooking) : Cents :=
  if change.newTotal - booking.totalAmount < 0 then booking.totalAmount - change.newTotal else 0

/-- The checks of `modify_booking_dates`. -/
def PriceChange.check (change : PriceChange) (booking : AccommodationBooking) :
    Except String Unit := do
  require (booking.hostUserId = change.hostUserId ∨ change.isAdmin)
    "You are not authorised to modify this booking's dates"
  require booking.status.isStaying booking.status.notModifiable
  match change.refusal with
  | some message => .error message
  | none => .ok ()

/-- `modify_booking_dates`, the columns of the booking. -/
def modifyBookingDates (booking : AccommodationBooking) (change : PriceChange) :
    Except String AccommodationBooking := do
  change.check booking
  pure { booking with
    totalAmount := change.newTotal
    refundAmount :=
      if 0 < change.refundAmount booking then change.refundAmount booking
      else booking.refundAmount }

/-! ## Reviewing -/

/-- The arguments of `submit_refund_review`. -/
structure ReviewRequest where
  refundAmount : ℚ
  reason : Option String
  requestedByUserId : UserId

/-- `submit_refund_review`. A case whose signature is not valid may be submitted again. -/
def submitRefundReview (authority : Authority) (booking : AccommodationBooking)
    (request : ReviewRequest) : Except String AccommodationBooking := do
  require (authority.actor = some request.requestedByUserId)
    "The refund requester must be the authenticated property manager"
  require (authority.canManageProperty request.requestedByUserId booking.property)
    "Only an authorised property manager can submit this request"
  require (5 ≤ (strip (request.reason.getD "")).length)
    "A review reason of at least five characters is required"
  let amount := Cents.ofDecimal request.refundAmount
  require (0 < amount) "Requested refund must be greater than zero"
  require (amount ≤ booking.amountPaid)
    "Requested refund must not exceed the confirmed amount paid"
  let workflow := booking.workflow
  require (¬ (workflow.signed ∧ (workflow.isSettled ∨ workflow.state = some .pendingHumanReview ∨
      workflow.state = some .approvedExternalExecutionPending ∨
      workflow.state = some .approvedRecoveryRequired)))
    "A refund review or settlement is already active for this booking"
  let flagged :=
    if workflow.signed then workflow else workflow.flag [.refundWorkflowIntegrityFailed]
  pure (booking.storeWorkflow { flagged.flag [.providerOrManualException] with
    state := some .pendingHumanReview
    requestedByUserId := some request.requestedByUserId })

/-- `reject_refund_review`. -/
def rejectRefundReview (authority : Authority) (booking : AccommodationBooking)
    (reviewer : UserId) (reason : Option String) : Except String AccommodationBooking := do
  require (authority.actor = some reviewer)
    "The refund reviewer must be the authenticated platform administrator"
  require (authority.hasGlobalRole reviewer) "Platform administrator review is required"
  require (5 ≤ (strip (reason.getD "")).length)
    "A rejection reason of at least five characters is required"
  require booking.workflow.signed ("Refund workflow signature failed; do not reject until " ++
    "the case is safely resubmitted and reviewed")
  require (booking.workflow.state = some .pendingHumanReview)
    "This refund is not awaiting human review"
  require (isIndependentRefundReviewer authority booking reviewer)
    ("The cancellation actor, guest, booking owner, requester, host or " ++
      "property-side manager cannot reject this review as the platform reviewer")
  pure (booking.storeWorkflow { booking.workflow with state := some .rejected })

/-! ## Refunds by the original provider -/

/-- The metadata of the history row of a verified refund. -/
structure VerifiedRefund where
  approvedByUserId : Option UserId
  verifiedByUserId : UserId
  amount : Cents
  externalProviderReference : String

/-- A history row with the trigger `external_refund_verified`; the one of a transition
has no details. -/
structure VerificationRow where
  bookingId : ℕ
  details : Option VerifiedRefund

/-- `str(metadata.get("external_provider_reference"))`. -/
def VerificationRow.reference (row : VerificationRow) : String :=
  (row.details.map VerifiedRefund.externalProviderReference).getD "None"

/-- The arguments of `record_external_refund_execution`. -/
structure ExternalExecution where
  amount : ℚ
  providerReference : Option String
  verificationNote : Option String
  reviewerUserId : UserId

/-- The checks of `record_external_refund_execution`; the amount and the reference it
records. -/
def externalExecutionChecks (authority : Authority) (rows : List VerificationRow)
    (booking : AccommodationBooking) (args : ExternalExecution) :
    Except String (Cents × String) := do
  require (authority.actor = some args.reviewerUserId)
    "The execution verifier must be the authenticated platform administrator"
  require (authority.hasGlobalRole args.reviewerUserId)
    "Platform administrator authorization is required"
  let reference := strip (args.providerReference.getD "")
  require (reference ≠ "") "Original provider refund reference is required"
  require (10 ≤ (strip (args.verificationNote.getD "")).length)
    "Record what you independently checked in the original provider's system"
  let workflow := booking.workflow
  require workflow.signed "The external refund approval record failed its signature check"
  require (workflow.state = some .approvedExternalExecutionPending)
    "This refund is not awaiting external payment execution"
  require (workflow.approvedByUserId.any (· ≠ 0) ∧ workflow.approvalReason.any (· ≠ ""))
    "The human approval record is incomplete"
  require (workflow.approvedByUserId ≠ some args.reviewerUserId)
    "A different platform administrator must verify external execution"
  require (isIndependentRefundReviewer authority booking args.reviewerUserId)
    ("The cancellation actor, guest, booking owner, requester, host or " ++
      "property-side manager cannot verify external execution")
  let amount := Cents.ofDecimal args.amount
  require (0 < amount ∧ amount ≤ booking.amountPaid)
    "Verified provider refund must be positive and no greater than the amount collected"
  require (amount = workflow.approvedAmount.getD 0)
    "Recorded provider execution amount does not match the approved amount"
  require (rows.all (fun row => row.reference ≠ reference))
    "This provider refund reference has already been recorded"
  pure (amount, reference)

/-- The booking after a refund was verified. -/
def AccommodationBooking.refundExternally (booking : AccommodationBooking) (amount : Cents)
    (now : Timestamp) : AccommodationBooking :=
  let full := booking.amountPaid ≤ amount
  AccommodationBooking.storeWorkflow
    { booking with
      refundAmount := amount
      refundedAt := some now
      paymentStatus := if full then .refunded else .partialRefund
      status := if booking.status = .cancelled ∧ full then .refunded else booking.status }
    { booking.workflow with state := some (if full then .refunded else .partiallyRefunded) }

/-- The history rows of the verification, the transition's first. -/
def verificationRows (booking : AccommodationBooking) (args : ExternalExecution) (amount : Cents)
    (reference : String) : List VerificationRow :=
  (if booking.status = .cancelled ∧ booking.amountPaid ≤ amount then [⟨booking.id, none⟩]
    else []) ++
    [⟨booking.id, some
      { approvedByUserId := booking.workflow.approvedByUserId
        verifiedByUserId := args.reviewerUserId
        amount
        externalProviderReference := reference }⟩]

/-! ## The desk -/

/-- A refund that holds its booking's settlement lock: about to transfer, or with its
transfer committed. -/
inductive RefundFlight
  | due (order : RefundOrder) (request : TransferRequest)
  | paid (order : RefundOrder) (receipt : TransferReceipt)

def RefundFlight.order : RefundFlight → RefundOrder
  | .due order _ | .paid order _ => order

/-- The history row `refund_ledger_settled`. -/
structure SettledRow where
  bookingId : ℕ
  order : RefundOrder

/-- A decision of a platform administrator, with the row and the rights it was taken
on. -/
structure Review where
  bookingId : ℕ
  reviewer : UserId
  amount : Cents
  booking : AccommodationBooking
  authority : Authority

/-- The tables, and the refunds under way. `approvals` and `verifications` record the
decisions taken so far. -/
structure Desk where
  db : Db
  bookings : ℕ → Option AccommodationBooking
  commissions : ℕ → Option BookingCommission := fun _ => none
  flights : ℕ → Option RefundFlight := fun _ => none
  rows : List VerificationRow := []
  settled : List SettledRow := []
  approvals : List Review := []
  verifications : List Review := []

/-- An amount argument that raises has the text of its exception. -/
inductive DeskMove
  | cancelBooking (id : ℕ) (args : Cancellation)
  | modifyBookingDates (id : ℕ) (change : PriceChange)
  | submitRefundReview (id : ℕ) (authority : Authority) (request : ReviewRequest)
  | refundGuest (id : ℕ) (authority : Authority) (refundAmount : Except String ℚ)
  | refundGuestApproved (id : ℕ) (authority : Authority) (args : ApprovalArgs)
  | rejectRefundReview (id : ℕ) (authority : Authority) (reviewer : UserId)
      (reason : Option String)
  | recordExternalRefundExecution (id : ℕ) (authority : Authority) (args : ExternalExecution)
      (now : Timestamp)
  | transfer (id : ℕ) (env : Env)
  | record (id : ℕ) (now : Timestamp)
  | crash (id : ℕ)
  | wallet (env : Env) (call : WalletCall)
  | commission (id : ℕ) (row : Option BookingCommission)
  | cancel (id : ℕ) (userId : Option UserId) (reason : Option String) (quote : Except String ℚ)
      (now : Timestamp)
  | edit (id : ℕ) (columns : AccommodationBooking)

namespace Desk

/-- Commit a booking row. -/
def store (s : Desk) (id : ℕ) (booking : AccommodationBooking) : Desk :=
  { s with bookings := Function.update s.bookings id (some booking) }

/-- The settlement lock of a booking, or its release. -/
def setFlight (s : Desk) (id : ℕ) (flight : Option RefundFlight) : Desk :=
  { s with flights := Function.update s.flights id flight }

/-- The row an operation commits, if it does not refuse. -/
def commit (s : Desk) (id : ℕ) : Except String AccommodationBooking → Desk
  | .error _ => s
  | .ok booking => s.store id booking

/-- An exception in a refund; only the automatic one leaves a trace. -/
def raised (s : Desk) (id : ℕ) (booking : AccommodationBooking) (source : AuthorizationSource) :
    Desk :=
  match source with
  | .bookingTimePolicy => (s.store id (automaticRefundFailed booking)).setFlight id none
  | .platformHumanReview => s.setFlight id none

/-- Follow the decision of a refund. -/
def follow (s : Desk) (id : ℕ) (authority : Authority) (booking : AccommodationBooking) :
    RefundDecision → Desk
  | .answer _ _ booking => s.store id booking
  | .execute order =>
    match escrowRefundRequest authority s.db booking (s.commissions id) order with
    | .error (.refused _) => s
    | .error _ => s.raised id booking order.source
    | .ok request => s.setFlight id (some (.due order request))

/-- A call of `refund_guest`. -/
def refundGuest (s : Desk) (id : ℕ) (authority : Authority) (booking : AccommodationBooking) :
    Except String ℚ → Desk
  | .ok amount =>
    s.follow id authority booking
      (refundGuestOpening authority s.db booking (s.commissions id) amount)
  | .error _ =>
    -- The amount is read after the checks of the actor and before those of the case.
    if authority.actor.isSome ∧ booking.cancelledByUserId = authority.actor ∧
        (booking.status = .cancelled ∨ booking.status = .refunded) then
      s.store id (automaticRefundFailed booking)
    else s

/-- Whether a review lets the refund go on. -/
def approves : RefundDecision → Bool
  | .answer ok _ _ => ok
  | .execute _ => true

/-- A call of `refund_guest_approved`. -/
def refundGuestApproved (s : Desk) (id : ℕ) (authority : Authority)
    (booking : AccommodationBooking) (args : ApprovalArgs) : Desk :=
  let decision := refundGuestApprovedOpening authority s.db booking (s.commissions id) args
  let followed := s.follow id authority booking decision
  if approves decision then
    { followed with
      approvals := followed.approvals ++ authority.actor.toList.map (fun reviewer =>
        ⟨id, reviewer, Cents.ofDecimal args.refundAmount, booking, authority⟩) }
  else followed

/-- A call of `record_external_refund_execution`. -/
def recordExternal (s : Desk) (id : ℕ) (authority : Authority) (booking : AccommodationBooking)
    (args : ExternalExecution) (now : Timestamp) : Desk :=
  match externalExecutionChecks authority s.rows booking args with
  | .error _ => s
  | .ok (amount, reference) =>
    { s.store id (booking.refundExternally amount now) with
      rows := s.rows ++ verificationRows booking args amount reference
      verifications := s.verifications ++
        [⟨id, args.reviewerUserId, amount, booking, authority⟩] }

/-- The transfer of the refund under way. -/
def transfer (s : Desk) (id : ℕ) (env : Env) (booking : AccommodationBooking) :
    RefundFlight → Desk
  | .due order request =>
    match Wallet.transfer env s.db request with
    | .error _ => s.raised id booking order.source
    | .ok (receipt, db) => { s with db }.setFlight id (some (.paid order receipt))
  | .paid .. => s

/-- The last commit of the refund under way. -/
def record (s : Desk) (id : ℕ) (now : Timestamp) (booking : AccommodationBooking) :
    RefundFlight → Desk
  | .due .. => s
  | .paid order receipt =>
    let existing := (s.db.getByClientRequestId (refundKey booking.id)).map Prod.snd
    match refundMismatch booking order receipt existing with
    | some _ => (s.store id (queueReconciliation booking order)).setFlight id none
    | none =>
      let commissions := Function.update s.commissions id
        ((s.commissions id).map (fun commission => commission.refund order.amount))
      { (s.store id (booking.refund order now)).setFlight id none with
        commissions
        settled := s.settled ++ [⟨id, order⟩] }

/-- What others write: any column but the id and those of refunds, and no status that
says a refund. -/
def edited (booking columns : AccommodationBooking) : AccommodationBooking :=
  { columns with
    id := booking.id
    refundAmount := booking.refundAmount
    refundedAt := booking.refundedAt
    workflow := booking.workflow
    status := if columns.status = .refunded then booking.status else columns.status
    paymentStatus :=
      if columns.paymentStatus = .refunded ∨ columns.paymentStatus = .partialRefund then
        booking.paymentStatus
      else columns.paymentStatus }

/-- The row a move is about. -/
def withBooking (s : Desk) (id : ℕ) (act : AccommodationBooking → Desk) : Desk :=
  match s.bookings id with
  | none => s
  | some booking => act booking

/-- Refunds through the wallet share a lock that is taken without waiting. -/
def locked (s : Desk) (id : ℕ) (act : AccommodationBooking → Desk) : Desk :=
  if (s.flights id).isSome then s else s.withBooking id act

/-- One step. -/
def next (s : Desk) : DeskMove → Desk
  | .cancelBooking id args =>
    s.withBooking id (fun booking => s.commit id (Accommodation.cancelBooking booking args))
  | .modifyBookingDates id change =>
    s.withBooking id (fun booking =>
      s.commit id (Accommodation.modifyBookingDates booking change))
  | .submitRefundReview id authority request =>
    s.withBooking id (fun booking =>
      s.commit id (Accommodation.submitRefundReview authority booking request))
  | .refundGuest id authority amount =>
    s.locked id (fun booking => s.refundGuest id authority booking amount)
  | .refundGuestApproved id authority args =>
    s.locked id (fun booking => s.refundGuestApproved id authority booking args)
  | .rejectRefundReview id authority reviewer reason =>
    s.withBooking id (fun booking =>
      s.commit id (Accommodation.rejectRefundReview authority booking reviewer reason))
  | .recordExternalRefundExecution id authority args now =>
    s.withBooking id (fun booking => s.recordExternal id authority booking args now)
  | .transfer id env =>
    s.withBooking id (fun booking => (s.flights id).elim s (s.transfer id env booking))
  | .record id now =>
    s.withBooking id (fun booking => (s.flights id).elim s (s.record id now booking))
  | .crash id => s.setFlight id none
  | .wallet env call => { s with db := call.effect env s.db }
  | .commission id row => { s with commissions := Function.update s.commissions id row }
  | .cancel id userId reason quote now =>
    s.withBooking id (fun booking => s.commit id (booking.cancel userId reason quote now))
  | .edit id columns => s.withBooking id (fun booking => s.store id (edited booking columns))

def Step (s : Desk) (move : DeskMove) (t : Desk) : Prop := s.next move = t

/-- Bookings of which nothing has been refunded and no refund has been asked for. -/
structure Fresh (s : Desk) : Prop where
  id : ∀ id booking, s.bookings id = some booking → booking.id = id
  refundAmount : ∀ id booking, s.bookings id = some booking → booking.refundAmount = 0
  refundedAt : ∀ id booking, s.bookings id = some booking → booking.refundedAt = none
  status : ∀ id booking, s.bookings id = some booking → booking.status ≠ .refunded
  paymentStatus : ∀ id booking, s.bookings id = some booking →
    booking.paymentStatus ≠ .refunded ∧ booking.paymentStatus ≠ .partialRefund
  workflow : ∀ id booking, s.bookings id = some booking → booking.workflow = {}
  idle : ∀ id, s.flights id = none
  rows : s.rows = []
  settled : s.settled = []
  approvals : s.approvals = []
  verifications : s.verifications = []

/-! ## What a step does -/

/-- Everything a move can do to the row of a booking. -/
inductive Change (s : Desk) (move : DeskMove) (id : ℕ) (b b' : AccommodationBooking) : Prop
  | kept : b' = b → Change s move id b b'
  | edited {columns : AccommodationBooking} : b' = Desk.edited b columns → Change s move id b b'
  | cancelled {args : Cancellation} : move = .cancelBooking id args →
      cancelBooking b args = .ok b' → Change s move id b b'
  | modified {change : PriceChange} : move = .modifyBookingDates id change →
      modifyBookingDates b change = .ok b' → Change s move id b b'
  | withdrawn {userId : Option UserId} {reason : Option String} {quote : Except String ℚ}
      {now : Timestamp} : move = .cancel id userId reason quote now →
      b.cancel userId reason quote now = .ok b' → Change s move id b b'
  | submitted {authority : Authority} {request : ReviewRequest} :
      submitRefundReview authority b request = .ok b' → Change s move id b b'
  | rejected {authority : Authority} {reviewer : UserId} {reason : Option String} :
      rejectRefundReview authority b reviewer reason = .ok b' → Change s move id b b'
  | screened {authority : Authority} {amount : ℚ} {ok : Bool} {message : String} :
      s.flights id = none →
      refundGuestOpening authority s.db b (s.commissions id) amount = .answer ok message b' →
      Change s move id b b'
  | reviewed {authority : Authority} {args : ApprovalArgs} {ok : Bool} {message : String} :
      s.flights id = none → move = .refundGuestApproved id authority args →
      refundGuestApprovedOpening authority s.db b (s.commissions id) args =
        .answer ok message b' → Change s move id b b'
  | unreadable {authority : Authority} {e : String} : move = .refundGuest id authority (.error e) →
      b' = automaticRefundFailed b → Change s move id b b'
  | unsent {authority : Authority} {amount : ℚ} {order : RefundOrder} :
      s.flights id = none →
      refundGuestOpening authority s.db b (s.commissions id) amount = .execute order →
      b' = automaticRefundFailed b → Change s move id b b'
  | raised {flight : RefundFlight} : s.flights id = some flight →
      b' = automaticRefundFailed b → Change s move id b b'
  | queued {order : RefundOrder} {receipt : TransferReceipt} :
      s.flights id = some (.paid order receipt) → b' = queueReconciliation b order →
      Change s move id b b'
  | refunded {order : RefundOrder} {receipt : TransferReceipt} {now : Timestamp} :
      move = .record id now → s.flights id = some (.paid order receipt) →
      refundMismatch b order receipt
        ((s.db.getByClientRequestId (refundKey b.id)).map Prod.snd) = none →
      b' = b.refund order now → Change s move id b b'
  | verified {authority : Authority} {args : ExternalExecution} {now : Timestamp}
      {amount : Cents} {reference : String} :
      move = .recordExternalRefundExecution id authority args now →
      externalExecutionChecks authority s.rows b args = .ok (amount, reference) →
      b' = b.refundExternally amount now → Change s move id b b'

variable {s t : Desk} {move : DeskMove} {id i : ℕ} {b b' : AccommodationBooking}

variable {authority : Authority} {args : ApprovalArgs} {flight : RefundFlight} {now : Timestamp}
  {j : ℕ}

@[simp] theorem store_same : (s.store id b).bookings id = some b := by
  simp [store]

theorem store_other (h : i ≠ id) : (s.store id b).bookings i = s.bookings i := by
  simp [store, h]

/-- The move changed only this row, and so. -/
structure Touches (s : Desk) (move : DeskMove) (id : ℕ) (b : AccommodationBooking) (t : Desk) :
    Prop where
  others : ∀ i, i ≠ id → t.bookings i = s.bookings i
  row : ∃ b', t.bookings id = some b' ∧ Change s move id b b'

theorem Touches.none (hb : s.bookings id = some b) (h : t.bookings = s.bookings) :
    Touches s move id b t :=
  ⟨fun i _ => by rw [h], b, by rw [h, hb], .kept rfl⟩

theorem Touches.store (h : Change s move id b b') (ht : t.bookings = (s.store id b').bookings) :
    Touches s move id b t :=
  ⟨fun _ hi => by rw [ht, store_other hi], b', by rw [ht, store_same], h⟩

theorem commit_touches {result : Except String AccommodationBooking}
    (hb : s.bookings id = some b) (h : ∀ b', result = .ok b' → Change s move id b b') :
    Touches s move id b (s.commit id result) := by
  cases result with
  | error e => exact .none hb rfl
  | ok b' => exact .store (h b' rfl) rfl

theorem raised_touches {source : AuthorizationSource} (hb : s.bookings id = some b)
    (h : source = .bookingTimePolicy → Change s move id b (automaticRefundFailed b)) :
    Touches s move id b (s.raised id b source) := by
  cases source with
  | bookingTimePolicy => exact .store (h rfl) rfl
  | platformHumanReview => exact .none hb rfl

theorem follow_touches {decision : RefundDecision} (hb : s.bookings id = some b)
    (hanswer : ∀ ok message b', decision = .answer ok message b' → Change s move id b b')
    (hexecute : ∀ order, decision = .execute order → order.source = .bookingTimePolicy →
      Change s move id b (automaticRefundFailed b)) :
    Touches s move id b (s.follow id authority b decision) := by
  cases decision with
  | answer ok message b' => exact .store (hanswer _ _ _ rfl) rfl
  | execute order =>
    simp only [follow]
    split
    · exact .none hb rfl
    · exact raised_touches hb (hexecute order rfl)
    · exact .none hb rfl

/-- The order of an approval is one of a human review. -/
theorem refundGuestApprovedOpening_execute {db : Db}
    {commission : Option BookingCommission} {order : RefundOrder}
    (h : refundGuestApprovedOpening authority db b commission args = .execute order) :
    ∃ actor reason, approvalChecks authority b args = .ok (actor, reason, order.amount) ∧
      order.source = .platformHumanReview ∧ order.approvedByUserId = some actor := by
  simp only [refundGuestApprovedOpening] at h
  split at h
  · cases h
  · rename_i actor reason amount hchecks
    repeat' split at h
    all_goals cases h
    all_goals exact ⟨actor, reason, hchecks, rfl, rfl⟩

theorem refundGuest_touches {amount : Except String ℚ}
    (hb : s.bookings id = some b) (hidle : s.flights id = none)
    (hmove : move = .refundGuest id authority amount) :
    Touches s move id b (s.refundGuest id authority b amount) := by
  cases amount with
  | ok amount =>
    refine follow_touches hb (fun _ _ _ h => .screened hidle h) ?_
    intro order h _
    exact .unsent hidle h rfl
  | error e =>
    simp only [refundGuest]
    split
    · exact .store (.unreadable hmove rfl) rfl
    · exact .none hb rfl

theorem refundGuestApproved_touches (hb : s.bookings id = some b) (hidle : s.flights id = none)
    (hmove : move = .refundGuestApproved id authority args) :
    Touches s move id b (s.refundGuestApproved id authority b args) := by
  have hfollow : Touches s move id b (s.follow id authority b
      (refundGuestApprovedOpening authority s.db b (s.commissions id) args)) := by
    refine follow_touches hb (fun _ _ _ h => .reviewed hidle hmove h) ?_
    intro order h hsource
    obtain ⟨_, _, -, hhuman, -⟩ := refundGuestApprovedOpening_execute h
    cases hhuman.symm.trans hsource
  simp only [refundGuestApproved]
  split
  · exact ⟨hfollow.others, hfollow.row⟩
  · exact hfollow

theorem recordExternal_touches {args : ExternalExecution} (hb : s.bookings id = some b)
    (hmove : move = .recordExternalRefundExecution id authority args now) :
    Touches s move id b (s.recordExternal id authority b args now) := by
  simp only [recordExternal]
  split
  · exact .none hb rfl
  · rename_i amount reference hchecks
    exact .store (.verified hmove hchecks rfl) rfl

theorem transfer_touches {env : Env} (hb : s.bookings id = some b) :
    Touches s move id b ((s.flights id).elim s (s.transfer id env b)) := by
  cases hflight : s.flights id with
  | none => exact .none hb rfl
  | some flight =>
    cases flight with
    | due order request =>
      simp only [Option.elim, transfer]
      split
      · exact raised_touches hb (fun _ => .raised hflight rfl)
      · exact .none hb rfl
    | paid order receipt => exact .none hb rfl

theorem record_touches (hb : s.bookings id = some b) (hmove : move = .record id now) :
    Touches s move id b ((s.flights id).elim s (s.record id now b)) := by
  cases hflight : s.flights id with
  | none => exact .none hb rfl
  | some flight =>
    cases flight with
    | due order request => exact .none hb rfl
    | paid order receipt =>
      simp only [Option.elim, record]
      split
      · exact .store (.queued hflight rfl) rfl
      · rename_i hmatches
        exact .store (.refunded hmove hflight hmatches rfl) rfl

/-- The booking a move is about. -/
def target : DeskMove → Option ℕ
  | .cancelBooking id _ | .modifyBookingDates id _ | .submitRefundReview id _ _
  | .refundGuest id _ _ | .refundGuestApproved id _ _ | .rejectRefundReview id _ _ _
  | .recordExternalRefundExecution id _ _ _ | .transfer id _ | .record id _
  | .cancel id _ _ _ _ | .edit id _ => some id
  | .crash _ | .wallet _ _ | .commission _ _ => none

theorem next_of_missing (hmove : target move = some id) (hb : s.bookings id = none) :
    s.next move = s := by
  cases move with
  | crash | wallet | commission => cases hmove
  | refundGuest | refundGuestApproved =>
    cases hmove
    simp only [next, locked, withBooking, hb, ite_self]
  | _ =>
    cases hmove
    simp only [next, withBooking, hb]

theorem next_touches (hmove : target move = some id) (hb : s.bookings id = some b) :
    Touches s move id b (s.next move) := by
  cases move with
  | cancelBooking _ args =>
    cases hmove
    simp only [next, withBooking, hb]
    exact commit_touches hb (fun _ h => .cancelled rfl h)
  | modifyBookingDates _ change =>
    cases hmove
    simp only [next, withBooking, hb]
    exact commit_touches hb (fun _ h => .modified rfl h)
  | submitRefundReview _ authority request =>
    cases hmove
    simp only [next, withBooking, hb]
    exact commit_touches hb (fun _ h => .submitted h)
  | refundGuest _ authority amount =>
    cases hmove
    simp only [next, locked, withBooking, hb]
    split
    · exact .none hb rfl
    · rename_i hidle
      exact refundGuest_touches hb (by simpa using hidle) rfl
  | refundGuestApproved _ authority args =>
    cases hmove
    simp only [next, locked, withBooking, hb]
    split
    · exact .none hb rfl
    · rename_i hidle
      exact refundGuestApproved_touches hb (by simpa using hidle) rfl
  | rejectRefundReview _ authority reviewer reason =>
    cases hmove
    simp only [next, withBooking, hb]
    exact commit_touches hb (fun _ h => .rejected h)
  | recordExternalRefundExecution _ authority args now =>
    cases hmove
    simp only [next, withBooking, hb]
    exact recordExternal_touches hb rfl
  | transfer _ env =>
    cases hmove
    simp only [next, withBooking, hb]
    exact transfer_touches hb
  | record _ now =>
    cases hmove
    simp only [next, withBooking, hb]
    exact record_touches hb rfl
  | cancel _ userId reason quote now =>
    cases hmove
    simp only [next, withBooking, hb]
    exact commit_touches hb (fun _ h => .withdrawn rfl h)
  | edit _ columns =>
    cases hmove
    simp only [next, withBooking, hb]
    exact .store (.edited rfl) rfl
  | crash | wallet | commission => cases hmove

theorem next_of_untargeted (hmove : target move = none) :
    (s.next move).bookings = s.bookings := by
  cases move with
  | crash | wallet | commission => rfl
  | _ => cases hmove

/-- Every row stays, changed by one of the operations or not at all. -/
theorem next_change (hb : s.bookings id = some b) :
    ∃ b', (s.next move).bookings id = some b' ∧ Change s move id b b' := by
  cases hmove : target move with
  | none => exact ⟨b, by rw [next_of_untargeted hmove, hb], .kept rfl⟩
  | some i =>
    cases hi : s.bookings i with
    | none => exact ⟨b, by rw [next_of_missing hmove hi, hb], .kept rfl⟩
    | some c =>
      have htouches := next_touches hmove hi
      by_cases hid : id = i
      · subst hid
        obtain rfl : b = c := by simpa [hb] using hi
        exact htouches.row
      · exact ⟨b, by rw [htouches.others id hid, hb], .kept rfl⟩

theorem next_missing (hb : s.bookings id = none) : (s.next move).bookings id = none := by
  cases hmove : target move with
  | none => rw [next_of_untargeted hmove, hb]
  | some i =>
    cases hi : s.bookings i with
    | none => rw [next_of_missing hmove hi, hb]
    | some c =>
      have hid : id ≠ i := by
        rintro rfl
        simp [hb] at hi
      rw [(next_touches hmove hi).others id hid, hb]

/-- A row after a move comes from a row before it. -/
theorem change_of_next (hb : (s.next move).bookings id = some b') :
    ∃ b, s.bookings id = some b ∧ Change s move id b b' := by
  cases hs : s.bookings id with
  | none =>
    rw [next_missing hs] at hb
    cases hb
  | some b =>
    obtain ⟨c, hc, hchange⟩ : ∃ c, (s.next move).bookings id = some c ∧
        Change s move id b c := next_change hs
    obtain rfl : c = b' := by simpa [hc] using hb
    exact ⟨b, rfl, hchange⟩

/-! ### The other tables -/

/-- Everything but the booking rows and the locks. -/
structure SameTables (s t : Desk) : Prop where
  db : t.db = s.db
  rows : t.rows = s.rows
  settled : t.settled = s.settled
  approvals : t.approvals = s.approvals
  verifications : t.verifications = s.verifications

theorem commit_tables (s : Desk) (id : ℕ) (result : Except String AccommodationBooking) :
    SameTables s (s.commit id result) := by
  cases result with
  | error e => exact ⟨rfl, rfl, rfl, rfl, rfl⟩
  | ok b => exact ⟨rfl, rfl, rfl, rfl, rfl⟩

theorem raised_tables (s : Desk) (id : ℕ) (b : AccommodationBooking)
    (source : AuthorizationSource) : SameTables s (s.raised id b source) := by
  cases source with
  | bookingTimePolicy => exact ⟨rfl, rfl, rfl, rfl, rfl⟩
  | platformHumanReview => exact ⟨rfl, rfl, rfl, rfl, rfl⟩

theorem follow_tables (s : Desk) (id : ℕ) (authority : Authority) (b : AccommodationBooking)
    (decision : RefundDecision) : SameTables s (s.follow id authority b decision) := by
  cases decision with
  | answer ok message b' => exact ⟨rfl, rfl, rfl, rfl, rfl⟩
  | execute order =>
    simp only [follow]
    split
    · exact ⟨rfl, rfl, rfl, rfl, rfl⟩
    · exact raised_tables s id b order.source
    · exact ⟨rfl, rfl, rfl, rfl, rfl⟩

theorem refundGuest_tables (s : Desk) (id : ℕ) (authority : Authority) (b : AccommodationBooking)
    (amount : Except String ℚ) : SameTables s (s.refundGuest id authority b amount) := by
  cases amount with
  | ok amount => exact follow_tables s id authority b _
  | error e =>
    simp only [refundGuest]
    split
    · exact ⟨rfl, rfl, rfl, rfl, rfl⟩
    · exact ⟨rfl, rfl, rfl, rfl, rfl⟩

/-- Everything a move can do to the other tables. -/
inductive TableChange (s : Desk) (move : DeskMove) (t : Desk) : Prop
  | same : SameTables s t → TableChange s move t
  | wallet {env : Env} {call : WalletCall} : t.db = call.effect env s.db → t.rows = s.rows →
      t.settled = s.settled → t.approvals = s.approvals → t.verifications = s.verifications →
      TableChange s move t
  | settled {id : ℕ} {order : RefundOrder} {receipt : TransferReceipt} : t.db = s.db →
      t.rows = s.rows → s.flights id = some (.paid order receipt) →
      t.settled = s.settled ++ [⟨id, order⟩] → t.approvals = s.approvals →
      t.verifications = s.verifications → TableChange s move t
  | approved {id : ℕ} {authority : Authority} {b : AccommodationBooking} {args : ApprovalArgs}
      {actor : UserId} {reason : String} {amount : Cents} : t.db = s.db → t.rows = s.rows →
      t.settled = s.settled → t.verifications = s.verifications →
      move = .refundGuestApproved id authority args → s.bookings id = some b →
      approvalChecks authority b args = .ok (actor, reason, amount) →
      t.approvals = s.approvals ++ [⟨id, actor, amount, b, authority⟩] → TableChange s move t
  | verified {id : ℕ} {authority : Authority} {b : AccommodationBooking}
      {args : ExternalExecution} {now : Timestamp} {amount : Cents} {reference : String} :
      t.db = s.db → t.settled = s.settled → t.approvals = s.approvals →
      move = .recordExternalRefundExecution id authority args now → s.bookings id = some b →
      externalExecutionChecks authority s.rows b args = .ok (amount, reference) →
      t.rows = s.rows ++ verificationRows b args amount reference →
      t.verifications = s.verifications ++ [⟨id, args.reviewerUserId, amount, b, authority⟩] →
      TableChange s move t

/-- What the checks of an approval grant. -/
theorem approvalChecks_ok {actor : UserId} {reason : String} {amount : Cents}
    (h : approvalChecks authority b args = .ok (actor, reason, amount)) :
    authority.actor = some actor ∧ authority.hasGlobalRole actor ∧ b.workflow.signed ∧
      b.workflow.state = some .pendingHumanReview ∧
      isIndependentRefundReviewer authority b actor ∧
      amount = Cents.ofDecimal args.refundAmount := by
  simp only [approvalChecks] at h
  split at h
  · cases h
  · rename_i found hfound
    obtain ⟨hactor, hrole⟩ := Option.filter_eq_some_iff.mp hfound
    obtain ⟨a, ha, h⟩ := bind_eq_ok.mp h
    cases ha
    simp only [check_bind_eq_ok, require_eq_ok] at h
    obtain ⟨-, hsigned, -, -, hstate, hindependent, -, -, -, -, -, -, h⟩ := h
    cases h
    exact ⟨hactor, hrole, hsigned, hstate, hindependent, rfl⟩

/-- A review that lets a refund go on passed the checks. -/
theorem approvalChecks_of_approves {db : Db} {commission : Option BookingCommission}
    (h : approves (refundGuestApprovedOpening authority db b commission args)) :
    ∃ actor reason amount, approvalChecks authority b args = .ok (actor, reason, amount) := by
  simp only [refundGuestApprovedOpening] at h
  split at h
  · cases h
  · rename_i actor reason amount hchecks
    exact ⟨actor, reason, amount, hchecks⟩

theorem refundGuestApproved_tables
    (hmove : move = .refundGuestApproved id authority args) (hb : s.bookings id = some b) :
    TableChange s move (s.refundGuestApproved id authority b args) := by
  have hsame := follow_tables s id authority b
    (refundGuestApprovedOpening authority s.db b (s.commissions id) args)
  simp only [refundGuestApproved]
  split
  · rename_i happroves
    obtain ⟨actor, reason, amount, hchecks⟩ := approvalChecks_of_approves happroves
    obtain ⟨hactor, -, -, -, -, rfl⟩ := approvalChecks_ok hchecks
    refine .approved hsame.db hsame.rows hsame.settled hsame.verifications hmove hb hchecks ?_
    rw [hsame.approvals, hactor]
    rfl
  · exact .same hsame

/-- A transfer move does nothing, or makes the transfer that is due. -/
theorem next_transfer (s : Desk) (id : ℕ) (env : Env) :
    s.next (.transfer id env) = s ∨ ∃ b order request, s.bookings id = some b ∧
      s.flights id = some (.due order request) ∧
      ((∃ e, Wallet.transfer env s.db request = .error e ∧
          s.next (.transfer id env) = s.raised id b order.source) ∨
        ∃ receipt db, Wallet.transfer env s.db request = .ok (receipt, db) ∧
          s.next (.transfer id env) =
            { s with db }.setFlight id (some (.paid order receipt))) := by
  simp only [next, withBooking]
  split
  · exact .inl rfl
  · rename_i b hb
    cases hflight : s.flights id with
    | none => exact .inl rfl
    | some flight =>
      cases flight with
      | paid order receipt => exact .inl rfl
      | due order request =>
        refine .inr ⟨b, order, request, hb, rfl, ?_⟩
        simp only [Option.elim, transfer]
        split
        · rename_i e hfails
          exact .inl ⟨e, hfails, rfl⟩
        · rename_i receipt db hpaid
          exact .inr ⟨receipt, db, hpaid, rfl⟩

/-- A recording move does nothing, or records the refund that was paid: it is settled, or the
case waits for a reconciliation. -/
theorem next_record (s : Desk) (id : ℕ) (now : Timestamp) :
    s.next (.record id now) = s ∨ ∃ b order receipt, s.bookings id = some b ∧
      s.flights id = some (.paid order receipt) ∧
      (s.next (.record id now) = (s.store id (queueReconciliation b order)).setFlight id none ∨
        s.next (.record id now) =
          { (s.store id (b.refund order now)).setFlight id none with
            commissions := Function.update s.commissions id
              ((s.commissions id).map (fun commission => commission.refund order.amount))
            settled := s.settled ++ [⟨id, order⟩] }) := by
  simp only [next, withBooking]
  split
  · exact .inl rfl
  · rename_i b hb
    cases hflight : s.flights id with
    | none => exact .inl rfl
    | some flight =>
      cases flight with
      | due order request => exact .inl rfl
      | paid order receipt =>
        refine .inr ⟨b, order, receipt, hb, rfl, ?_⟩
        simp only [Option.elim, record]
        split
        · exact .inl rfl
        · exact .inr rfl

theorem next_tables (s : Desk) (move : DeskMove) : TableChange s move (s.next move) := by
  cases move with
  | cancelBooking id args | modifyBookingDates id change | submitRefundReview id authority request
  | rejectRefundReview id authority reviewer reason | cancel id userId reason quote now =>
    simp only [next, withBooking]
    split
    · exact .same ⟨rfl, rfl, rfl, rfl, rfl⟩
    · exact .same (commit_tables s _ _)
  | refundGuest id authority amount =>
    simp only [next, locked, withBooking]
    split
    · exact .same ⟨rfl, rfl, rfl, rfl, rfl⟩
    · split
      · exact .same ⟨rfl, rfl, rfl, rfl, rfl⟩
      · exact .same (refundGuest_tables s id authority _ amount)
  | refundGuestApproved id authority args =>
    simp only [next, locked, withBooking]
    split
    · exact .same ⟨rfl, rfl, rfl, rfl, rfl⟩
    · split
      · exact .same ⟨rfl, rfl, rfl, rfl, rfl⟩
      · rename_i b hb
        exact refundGuestApproved_tables rfl hb
  | recordExternalRefundExecution id authority args now =>
    simp only [next, withBooking, recordExternal]
    split
    · exact .same ⟨rfl, rfl, rfl, rfl, rfl⟩
    · rename_i b hb
      split
      · exact .same ⟨rfl, rfl, rfl, rfl, rfl⟩
      · rename_i amount reference hchecks
        exact .verified rfl rfl rfl rfl hb hchecks rfl rfl
  | transfer id env =>
    rcases next_transfer s id env with
      hsame | ⟨b, order, request, -, -, ⟨-, -, hraised⟩ | ⟨receipt, db, hpaid, hsent⟩⟩
    · rw [hsame]
      exact .same ⟨rfl, rfl, rfl, rfl, rfl⟩
    · rw [hraised]
      exact .same (raised_tables s id b order.source)
    · rw [hsent]
      have heffect : db = WalletCall.effect env s.db (.transfer request) := by
        simp [WalletCall.effect, committed, hpaid]
      exact .wallet heffect rfl rfl rfl rfl
  | record id now =>
    rcases next_record s id now with
      hsame | ⟨b, order, receipt, -, hflight, hqueued | hsettled⟩
    · rw [hsame]
      exact .same ⟨rfl, rfl, rfl, rfl, rfl⟩
    · rw [hqueued]
      exact .same ⟨rfl, rfl, rfl, rfl, rfl⟩
    · rw [hsettled]
      exact .settled rfl rfl hflight rfl rfl rfl
  | crash id => exact .same ⟨rfl, rfl, rfl, rfl, rfl⟩
  | wallet env call => exact .wallet rfl rfl rfl rfl rfl
  | commission id row => exact .same ⟨rfl, rfl, rfl, rfl, rfl⟩
  | edit id columns =>
    simp only [next, withBooking]
    split
    · exact .same ⟨rfl, rfl, rfl, rfl, rfl⟩
    · exact .same ⟨rfl, rfl, rfl, rfl, rfl⟩

/-! ### The locks -/

theorem commit_flights (s : Desk) (id : ℕ) (result : Except String AccommodationBooking) :
    (s.commit id result).flights = s.flights := by
  cases result with
  | error e => rfl
  | ok b => rfl

@[simp] theorem setFlight_same {flight : Option RefundFlight} :
    (s.setFlight id flight).flights id = flight := by
  simp [setFlight]

theorem setFlight_other {flight : Option RefundFlight} (h : i ≠ id) :
    (s.setFlight id flight).flights i = s.flights i := by
  simp [setFlight, h]

/-- Where a lock comes from that is held after a move: it was held before, perhaps by a
transfer that has been made since, or a refund was begun. -/
inductive FlightChange (s : Desk) (move : DeskMove) (id : ℕ) (flight : RefundFlight) : Prop
  | kept : s.flights id = some flight → FlightChange s move id flight
  | sent {order : RefundOrder} {request : TransferRequest} {receipt : TransferReceipt} :
      s.flights id = some (.due order request) → flight = .paid order receipt →
      FlightChange s move id flight
  | automatic {authority : Authority} {b : AccommodationBooking} {amount : ℚ}
      {order : RefundOrder} {request : TransferRequest} : s.bookings id = some b →
      (s.next move).bookings = s.bookings → s.flights id = none →
      refundGuestOpening authority s.db b (s.commissions id) amount = .execute order →
      flight = .due order request → FlightChange s move id flight
  | approved {authority : Authority} {b : AccommodationBooking} {args : ApprovalArgs}
      {order : RefundOrder} {request : TransferRequest} : s.bookings id = some b →
      (s.next move).bookings = s.bookings → s.flights id = none →
      move = .refundGuestApproved id authority args →
      refundGuestApprovedOpening authority s.db b (s.commissions id) args = .execute order →
      flight = .due order request → FlightChange s move id flight

/-- A lock that was taken or left as it was. -/
theorem setFlight_cases {new : Option RefundFlight}
    (h : (s.setFlight j new).flights id = some flight) :
    (id = j ∧ new = some flight) ∨ s.flights id = some flight := by
  by_cases hid : id = j
  · subst hid
    exact .inl ⟨rfl, by simpa using h⟩
  · exact .inr (by rwa [setFlight_other hid] at h)

theorem raised_flights {source : AuthorizationSource}
    (h : (s.raised j b source).flights id = some flight) : s.flights id = some flight := by
  cases source with
  | bookingTimePolicy | platformHumanReview =>
    obtain ⟨-, hnone⟩ | h := setFlight_cases h
    · cases hnone
    · exact h

/-- A decision takes the lock only for an order it executes. -/
theorem follow_flights {decision : RefundDecision}
    (h : (s.follow j authority b decision).flights id = some flight) :
    s.flights id = some flight ∨ (id = j ∧ ∃ order request, decision = .execute order ∧
      flight = .due order request ∧ (s.follow j authority b decision).bookings = s.bookings) := by
  cases decision with
  | answer ok message b' => exact .inl h
  | execute order =>
    simp only [follow] at h ⊢
    split at h
    · exact .inl h
    · exact .inl (raised_flights h)
    · rename_i request hrequest
      obtain ⟨hid, hnew⟩ | h := setFlight_cases h
      · exact .inr ⟨hid, order, request, rfl, (Option.some.inj hnew).symm, rfl⟩
      · exact .inl h

theorem next_flights (h : (s.next move).flights id = some flight) :
    FlightChange s move id flight := by
  cases move with
  | cancelBooking j args | modifyBookingDates j change | submitRefundReview j authority request
  | rejectRefundReview j authority reviewer reason | cancel j userId reason quote now =>
    simp only [next, withBooking] at h
    split at h
    · exact .kept h
    · exact .kept (by rwa [commit_flights] at h)
  | refundGuest j authority amount =>
    by_cases hfree : (s.flights j).isSome
    · exact .kept (by simpa [next, locked, hfree] using h)
    · cases hb : s.bookings j with
      | none => exact .kept (by simpa [next, locked, withBooking, hb] using h)
      | some b =>
        have hnext : s.next (.refundGuest j authority amount) =
            s.refundGuest j authority b amount := by
          simp [next, locked, withBooking, hb, hfree]
        rw [hnext] at h
        cases amount with
        | ok amount =>
          obtain h | ⟨rfl, order, request, hexecute, hflight, hsame⟩ := follow_flights h
          · exact .kept h
          · exact .automatic hb (by rw [hnext]; exact hsame) (by simpa using hfree) hexecute
              hflight
        | error e =>
          simp only [refundGuest] at h
          split at h
          · exact .kept h
          · exact .kept h
  | refundGuestApproved j authority args =>
    by_cases hfree : (s.flights j).isSome
    · exact .kept (by simpa [next, locked, hfree] using h)
    · cases hb : s.bookings j with
      | none => exact .kept (by simpa [next, locked, withBooking, hb] using h)
      | some b =>
        have hnext : s.next (.refundGuestApproved j authority args) =
            s.refundGuestApproved j authority b args := by
          simp [next, locked, withBooking, hb, hfree]
        have hflights : ∀ i, (s.refundGuestApproved j authority b args).flights i =
            (s.follow j authority b (refundGuestApprovedOpening authority s.db b
              (s.commissions j) args)).flights i := by
          intro i
          simp only [refundGuestApproved]
          split
          · rfl
          · rfl
        have hbookings : (s.refundGuestApproved j authority b args).bookings =
            (s.follow j authority b (refundGuestApprovedOpening authority s.db b
              (s.commissions j) args)).bookings := by
          simp only [refundGuestApproved]
          split
          · rfl
          · rfl
        rw [hnext, hflights] at h
        obtain h | ⟨rfl, order, request, hexecute, hflight, hsame⟩ := follow_flights h
        · exact .kept h
        · exact .approved hb (by rw [hnext, hbookings]; exact hsame) (by simpa using hfree) rfl
            hexecute hflight
  | recordExternalRefundExecution j authority args now =>
    simp only [next, withBooking, recordExternal] at h
    split at h
    · exact .kept h
    · split at h
      · exact .kept h
      · exact .kept h
  | transfer j env =>
    rcases next_transfer s j env with
      hsame | ⟨b, order, request, -, hflight, ⟨-, -, hraised⟩ | ⟨receipt, db, -, hsent⟩⟩
    · exact .kept (by rwa [hsame] at h)
    · rw [hraised] at h
      exact .kept (raised_flights h)
    · rw [hsent] at h
      obtain ⟨rfl, hnew⟩ | h := setFlight_cases h
      · exact .sent hflight (Option.some.inj hnew).symm
      · exact .kept h
  | record j now =>
    rcases next_record s j now with
      hsame | ⟨b, order, receipt, -, -, hqueued | hsettled⟩
    · exact .kept (by rwa [hsame] at h)
    · rw [hqueued] at h
      obtain ⟨-, hnone⟩ | h := setFlight_cases h
      · cases hnone
      · exact .kept h
    · rw [hsettled] at h
      obtain ⟨-, hnone⟩ | h := setFlight_cases (s := s.store j _) h
      · cases hnone
      · exact .kept h
  | crash j =>
    obtain ⟨-, hnone⟩ | h := setFlight_cases h
    · cases hnone
    · exact .kept h
  | wallet env call => exact .kept h
  | commission j row => exact .kept h
  | edit j columns =>
    simp only [next, withBooking] at h
    split at h
    · exact .kept h
    · exact .kept h

/-- The last commit of a refund releases the lock. -/
theorem record_flights {order : RefundOrder} {receipt : TransferReceipt}
    (hb : s.bookings id = some b) (hflight : s.flights id = some (.paid order receipt)) :
    (s.next (.record id now)).flights id = none := by
  simp only [next, withBooking, hb, hflight, Option.elim, record]
  split
  · simp
  · exact setFlight_same

end Desk

end Afcon360.Accommodation
