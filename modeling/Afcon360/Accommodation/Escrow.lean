import Afcon360.Wallet.Transfer
import Afcon360.Accommodation.BookingState

/-!
# The escrow of a booking

`MarketplaceService` of the accommodation module. A guest's payment is held in the
platform's escrow account; later it is paid to the host, or back to the guest under
the booking's policy or after a human review. Each of the three settlements is cut
at its wallet transfer, which is committed on its own: an opening that decides and
writes the request, and a part that records the outcome in the rows of the booking.

Amounts of bookings and commissions are `NUMERIC(10, 2)` columns. A JSON document
kept with its HMAC is kept with a flag that says whether the HMAC verifies.
-/

namespace Afcon360.Accommodation

open Foundation Wallet

/-- A `NUMERIC(10, 2)` column, in hundredths. -/
abbrev Cents := ℤ

namespace Cents

/-- The decimal a query returns for a stored amount. -/
def toDecimal (cents : Cents) : ℚ := gridValue moneyQuant cents

/-- `Decimal.quantize(Decimal("0.01"))`. -/
def ofDecimal (value : ℚ) : Cents := roundHalfEven moneyQuant value

/-- The text of a decimal with two places. -/
def text (cents : Cents) : String :=
  (if cents < 0 then "-" else "") ++ toString (cents.natAbs / 100) ++ "." ++
    toString (cents.natAbs % 100 / 10) ++ toString (cents.natAbs % 10)

end Cents

/-! ## Rows -/

/-- `AccommodationPaymentStatus`. -/
inductive PaymentStatus
  | unpaid | pending | processing | paid | partiallyPaid | failed | refunded | partialRefund
  deriving DecidableEq, Repr

inductive CommissionStatus
  | pending | held | released | refunded | partiallyRefunded
  deriving DecidableEq, Repr

def CommissionStatus.text : CommissionStatus → String
  | .pending => "pending"
  | .held => "held"
  | .released => "released"
  | .refunded => "refunded"
  | .partiallyRefunded => "partially_refunded"

/-- The states of a refund workflow. -/
inductive WorkflowState
  | screening | noRefundDue | pendingHumanReview | approvedExternalExecutionPending
  | approvedRecoveryRequired | rejected | refunded | partiallyRefunded
  deriving DecidableEq, Repr

/-- What screening and execution can hold against a refund. -/
inductive RiskFlag
  | bookingTimePolicySnapshotIncomplete | bookingTimePolicySnapshotIntegrityFailed
  | cancellationOutcomeIntegrityFailed | paymentNotHeldInPlatformWallet
  | originalPlatformTransactionMissing | bookingPaymentNotConfirmed
  | refundExceedsConfirmedPayment | escrowCommissionRecordMissing
  | escrowNotHeldForAutomaticRefund | refundExceedsEscrowAmount | previousRefundRecorded
  | originalPaymentCannotBeReconciled | refundWorkflowIntegrityFailed
  | refundExecutionReconciliationFailed | automaticRefundExecutionFailed
  | providerOrManualException | humanReviewRequested | providerCancellationLiabilityReview
  deriving DecidableEq, Repr

/-- `policy_snapshot["refund_workflow"]`. -/
structure RefundWorkflow where
  state : Option WorkflowState := none
  riskFlags : Option (List RiskFlag) := none
  requestedByUserId : Option UserId := none
  approvedAmount : Option Cents := none
  approvedByUserId : Option UserId := none
  approvalReason : Option String := none
  signed : Bool := false

namespace RefundWorkflow

/-- `workflow.get("risk_flags") or []`. -/
def flags (workflow : RefundWorkflow) : List RiskFlag := workflow.riskFlags.getD []

/-- Add flags, each once and in order of first mention. -/
def flag (workflow : RefundWorkflow) (more : List RiskFlag) : RefundWorkflow :=
  { workflow with riskFlags := some (workflow.flags ++ more).eraseDups }

/-- `workflow.update(context)`. -/
def update (workflow context : RefundWorkflow) : RefundWorkflow :=
  { workflow with
    state := context.state.or workflow.state
    riskFlags := context.riskFlags.or workflow.riskFlags
    requestedByUserId := context.requestedByUserId.or workflow.requestedByUserId
    approvedAmount := context.approvedAmount.or workflow.approvedAmount
    approvedByUserId := context.approvedByUserId.or workflow.approvedByUserId
    approvalReason := context.approvalReason.or workflow.approvalReason }

/-- The record of an approval. -/
def approve (workflow : RefundWorkflow) (state : WorkflowState) (amount : Cents) (actor : UserId)
    (reason : String) : RefundWorkflow :=
  { workflow with
    state := some state
    approvedAmount := some amount
    approvedByUserId := some actor
    approvalReason := some reason }

end RefundWorkflow

/-- The evidence of the cancellation policy kept in `policy_snapshot`. -/
structure PolicyEvidence where
  isVersion2 : Bool
  rulesSigned : Bool
  outcomeRefund : Option ℚ
  outcomeSigned : Bool

structure Property where
  ownerUserId : Option UserId
  ownerOrgId : Option ℕ

/-- The columns of `accommodation_bookings` that settlements read or write. -/
structure AccommodationBooking where
  id : ℕ
  bookingReference : String
  property : Option Property
  status : BookingStatus
  isCheckedIn : Bool := false
  checkedInBy : Option UserId := none
  cancelledByUserId : Option UserId := none
  cancellationReason : Option String := none
  bookedByUserId : UserId
  guestUserId : Option UserId := none
  bookingOwnerId : Option UserId := none
  primaryGuestId : Option UserId := none
  hostUserId : UserId
  currency : Currency
  paymentMethod : Option String := none
  paymentStatus : PaymentStatus := .unpaid
  walletTxnId : Option TransactionId := none
  totalAmount : Cents
  amountPaid : Cents := 0
  refundAmount : Cents := 0
  refundedAt : Option Timestamp := none
  policy : PolicyEvidence
  workflow : RefundWorkflow := {}

/-- `_store_refund_workflow`: the stored workflow is signed. -/
def AccommodationBooking.storeWorkflow (booking : AccommodationBooking)
    (workflow : RefundWorkflow) : AccommodationBooking :=
  { booking with workflow := { workflow with signed := true } }

/-- A row of `accommodation_booking_commissions`. -/
structure BookingCommission where
  id : ℕ
  totalAmount : Cents
  commissionAmount : Cents
  hostPayout : Cents
  status : CommissionStatus
  hostPayoutTransactionId : Option TransactionId := none
  releasedBy : Option UserId := none
  refundAmount : Cents := 0

/-- The commission row `charge_guest` writes: the split of a payment into commission
and payout, held in escrow. -/
def BookingCommission.ofCharge (id : ℕ) (total : Cents) (commissionPct : ℚ) : BookingCommission :=
  let commission := Cents.ofDecimal (total.toDecimal * commissionPct / 100)
  { id
    totalAmount := total
    commissionAmount := commission
    hostPayout := total - commission
    status := .held }

/-- What a settlement asks about the logged-in user, and the configuration.
`managesAccommodation` answers for a user and an organisation; `none` is a lookup
that raised. -/
structure Authority where
  actor : Option UserId
  canManageProperty : UserId → Option Property → Bool
  hasGlobalRole : UserId → Bool
  managesAccommodation : UserId → ℕ → Option Bool
  platformOrgId : Option UserId
  now : String

/-- How a settlement ends early: a refusal it returns, or an exception. -/
inductive SettlementError
  | refused (message : String)
  | runtime (message : String)
  | wallet (error : WalletError)

/-! ## Accounts -/

/-- `_get_platform_account_id`. -/
def getPlatformAccountId (platformOrgId : Option UserId) (db : Db) (currency : Currency) :
    Except SettlementError AccountId :=
  match platformOrgId with
  | none => .error (.runtime ("PLATFORM_ORG_ID not configured. " ++
      "Set it in config to the internal BIGINT ID of the platform organisation."))
  | some orgId =>
    match db.getByUserId orgId currency with
    | .error e => .error (.wallet e)
    | .ok none => .error (.runtime ("Platform escrow account not found for org " ++
        toString orgId ++ ". Please create it during system setup."))
    | .ok (some account) => .ok account.id

/-- `_get_account_for_user`. -/
def getAccountForUser (db : Db) (userId : UserId) (currency : Currency) :
    Except SettlementError AccountId :=
  match db.getByUserId userId currency with
  | .error e => .error (.wallet e)
  | .ok none => .error (.runtime ("Wallet account not found for user " ++ toString userId ++
      ". Please create a wallet first."))
  | .ok (some account) => .ok account.id

/-! ## The payout -/

/-- The idempotency key of a booking's payout. -/
def payoutKey (id : ℕ) : String := "booking_" ++ toString id ++ "_payout"

/-- The idempotency key of a booking's refund. -/
def refundKey (id : ℕ) : String := "booking_" ++ toString id ++ "_refund"

/-- The transfer of a payout. -/
def payoutRequest (authority : Authority) (booking : AccommodationBooking)
    (commission : BookingCommission) (actor : UserId) (escrow host : AccountId) :
    TransferRequest :=
  { fromAccountId := escrow
    toAccountId := host
    amount := commission.hostPayout.toDecimal
    currency := booking.currency
    clientRequestId := payoutKey booking.id
    note := some ("Host payout: " ++ booking.bookingReference)
    metadata :=
      [("booking_id", toString booking.id), ("booking_reference", booking.bookingReference),
        ("commission_id", toString commission.id), ("approved_by_user_id", toString actor),
        ("approval_source", "host_check_in"),
        ("approval_reason", "Host confirmed guest check-in"), ("approved_at", authority.now)]
    systemInitiated := true }

/-- `_release_host_payout_locked` up to its transfer. -/
def releaseHostPayoutOpening (authority : Authority) (db : Db) (booking : AccommodationBooking)
    (commission : Option BookingCommission) : Except SettlementError (UserId × TransferRequest) :=
  match authority.actor with
  | none => .error (.refused "An authenticated host approval is required")
  | some actor => do
      require (authority.canManageProperty actor booking.property)
        (.refused "You are not authorised to approve this host payout")
      require (booking.isCheckedIn ∧ booking.status = .checkedIn ∧
          booking.checkedInBy = some actor)
        (.refused "A host must confirm this booking's check-in before payout")
      match commission with
      | none => .error (.refused "Commission record not found")
      | some commission =>
        require (commission.status = .held)
          (.refused ("Commission already " ++ commission.status.text))
        let host ← getAccountForUser db booking.hostUserId booking.currency
        let escrow ← getPlatformAccountId authority.platformOrgId db booking.currency
        pure (actor, payoutRequest authority booking commission actor escrow host)

/-- The commission after the payout's transfer. -/
def BookingCommission.release (commission : BookingCommission) (actor : UserId)
    (transactionId : TransactionId) : BookingCommission :=
  { commission with
    status := .released
    releasedBy := some actor
    hostPayoutTransactionId := some transactionId }

/-! ## Screening -/

/-- The payment methods whose money is in the platform's wallet. -/
def AccommodationBooking.paidByPlatformWallet (booking : AccommodationBooking) : Bool :=
  ((booking.paymentMethod.getD "").toLower) ∈ ["wallet", "mock_gateway"]

def AccommodationBooking.paymentCollected (booking : AccommodationBooking) : Bool :=
  booking.paymentStatus = .paid ∨ booking.paymentStatus = .partiallyPaid

def AccommodationBooking.refundRecorded (booking : AccommodationBooking) : Bool :=
  booking.refundedAt.isSome ∨ 0 < booking.refundAmount

/-- The original payment is a completed transfer of this booking's payer that
covers the refund. -/
def AccommodationBooking.originalReconciles (booking : AccommodationBooking) (db : Db)
    (amount : Cents) : Bool :=
  match booking.walletTxnId.bind db.transactions.get? with
  | none => false
  | some original =>
    original.status = .completed ∧ original.userId = some booking.bookedByUserId ∧
      amount.toDecimal ≤ original.amount.toDecimal ∧
      original.currency.toUpper = booking.currency.toUpper ∧
      original.metadata.lookup "booking_id" = some (toString booking.id)

/-- The flag, if the condition holds. -/
def flagIf (cond : Prop) [Decidable cond] (flag : RiskFlag) : List RiskFlag :=
  if cond then [flag] else []

/-- `_refund_screening_flags`. -/
def refundScreeningFlags (db : Db) (booking : AccommodationBooking) (amount : Cents)
    (commission : Option BookingCommission) : List RiskFlag :=
  (flagIf (¬ booking.policy.isVersion2) .bookingTimePolicySnapshotIncomplete ++
    flagIf (booking.policy.isVersion2 ∧ ¬ booking.policy.rulesSigned)
      .bookingTimePolicySnapshotIntegrityFailed ++
    flagIf (¬ booking.policy.outcomeSigned) .cancellationOutcomeIntegrityFailed ++
    flagIf (¬ booking.paidByPlatformWallet) .paymentNotHeldInPlatformWallet ++
    flagIf (booking.walletTxnId = none) .originalPlatformTransactionMissing ++
    flagIf (¬ booking.paymentCollected) .bookingPaymentNotConfirmed ++
    flagIf (booking.amountPaid < amount) .refundExceedsConfirmedPayment ++
    (match commission with
      | none => [.escrowCommissionRecordMissing]
      | some commission =>
        flagIf (commission.status ≠ .held) .escrowNotHeldForAutomaticRefund ++
          flagIf (commission.totalAmount < amount) .refundExceedsEscrowAmount) ++
    flagIf booking.refundRecorded .previousRefundRecorded ++
    flagIf (booking.walletTxnId ≠ none ∧ ¬ booking.originalReconciles db amount)
      .originalPaymentCannotBeReconciled).eraseDups

/-- Property-side users do not review refunds; a membership that cannot be checked
counts against the reviewer. -/
def Property.allowsReviewer (property : Property) (authority : Authority) (reviewer : UserId) :
    Bool :=
  property.ownerUserId ≠ some reviewer ∧
    property.ownerOrgId.all (fun orgId => authority.managesAccommodation reviewer orgId =
      some false)

instance : LawfulBEq (Option UserId) := Option.instLawfulBEq UserId

/-- `_is_independent_refund_reviewer`. -/
def isIndependentRefundReviewer (authority : Authority) (booking : AccommodationBooking)
    (reviewer : UserId) : Bool :=
  some reviewer ∉ [booking.cancelledByUserId, some booking.bookedByUserId, booking.guestUserId,
      booking.bookingOwnerId, booking.primaryGuestId, some booking.hostUserId,
      booking.workflow.requestedByUserId] ∧
    booking.property.any (fun property => property.allowsReviewer authority reviewer)

/-! ## The refunds -/

inductive AuthorizationSource
  | bookingTimePolicy | platformHumanReview
  deriving DecidableEq, Repr

def AuthorizationSource.text : AuthorizationSource → String
  | .bookingTimePolicy => "booking_time_policy"
  | .platformHumanReview => "platform_human_review"

/-- A refund that may be executed: its amount, who authorised it, and the workflow
as it was decided, which the rollback at the start of the transfer would lose. -/
structure RefundOrder where
  amount : Cents
  source : AuthorizationSource
  authorizedByUserId : UserId
  approvedByUserId : Option UserId := none
  approvalReason : String
  workflow : RefundWorkflow

/-- What a refund decides before it moves money: an answer, with the booking row it
commits, or an order to execute. -/
inductive RefundDecision
  | answer (ok : Bool) (message : String) (booking : AccommodationBooking)
  | execute (order : RefundOrder)

/-- `_refund_guest_locked` up to `_execute_escrow_refund`. -/
def refundGuestOpening (authority : Authority) (db : Db) (booking : AccommodationBooking)
    (commission : Option BookingCommission) (refundAmount : ℚ) : RefundDecision :=
  match authority.actor with
  | none => .answer false "An authenticated booking cancellation is required" booking
  | some actor =>
    let amount := Cents.ofDecimal refundAmount
    let policyAmount := Cents.ofDecimal (booking.policy.outcomeRefund.getD 0)
    let workflow := booking.workflow
    if ¬ (booking.cancelledByUserId = some actor ∧
        (booking.status = .cancelled ∨ booking.status = .refunded)) then
      .answer false "Only the authenticated cancellation actor can start this policy refund"
        booking
    else if amount ≤ 0 ∨ amount ≠ policyAmount then
      .answer false ("Refund amount does not match the recorded booking-time " ++
        "cancellation calculation") booking
    else if ¬ workflow.signed then
      .answer true ("Refund workflow integrity could not be verified; the case was sent for " ++
          "human review")
        (booking.storeWorkflow { workflow.flag [.refundWorkflowIntegrityFailed] with
          state := some .pendingHumanReview })
    else if workflow.state = some .refunded ∨ workflow.state = some .partiallyRefunded then
      .answer false "Already refunded" booking
    else if workflow.state = some .pendingHumanReview ∨
        workflow.state = some .approvedExternalExecutionPending ∨
        workflow.state = some .approvedRecoveryRequired ∨ workflow.state = some .rejected then
      .answer true "Refund is awaiting platform human review or external settlement" booking
    else
      let flags := (refundScreeningFlags db booking amount commission ++ workflow.flags).eraseDups
      if flags ≠ [] then
        .answer true "Refund submitted to the platform human-approval queue"
          (booking.storeWorkflow { workflow with
            state := some .pendingHumanReview
            riskFlags := some flags })
      else
        .execute
          { amount
            source := .bookingTimePolicy
            authorizedByUserId := actor
            approvalReason := (booking.cancellationReason.filter (· ≠ "")).getD
              "Authenticated guest cancellation under frozen booking policy"
            workflow }

/-- The flags an approval must acknowledge, in the order of their texts. -/
def integrityFlags : List RiskFlag :=
  [.bookingTimePolicySnapshotIncomplete, .bookingTimePolicySnapshotIntegrityFailed,
    .cancellationOutcomeIntegrityFailed]

/-- The flags no approval overrides. -/
def hardFlags : List RiskFlag :=
  [.originalPlatformTransactionMissing, .originalPaymentCannotBeReconciled,
    .bookingPaymentNotConfirmed, .refundExceedsConfirmedPayment, .escrowCommissionRecordMissing,
    .refundExceedsEscrowAmount, .previousRefundRecorded]

/-- The arguments of `refund_guest_approved`. -/
structure ApprovalArgs where
  refundAmount : ℚ
  approvalReason : Option String
  integrityExceptionAcknowledged : Bool := false

/-- The checks of an approval before the escrow is looked at. -/
def approvalChecks (authority : Authority) (booking : AccommodationBooking)
    (args : ApprovalArgs) : Except String (UserId × String × Cents) := do
  let actor ← match authority.actor.filter authority.hasGlobalRole with
    | none => .error "Platform administrator approval is required"
    | some actor => .ok actor
  let reason := strip (args.approvalReason.getD "")
  require (5 ≤ reason.length) "An approval reason of at least five characters is required"
  require (booking.workflow.signed) ("Refund workflow signature failed; do not approve until " ++
    "the case is safely resubmitted and reviewed")
  require (¬ booking.refundRecorded) "Already refunded"
  require (booking.workflow.state ≠ some .refunded ∧
    booking.workflow.state ≠ some .partiallyRefunded) "Already refunded"
  require (booking.workflow.state = some .pendingHumanReview)
    "This refund is not awaiting human review"
  require (isIndependentRefundReviewer authority booking actor)
    ("The cancellation actor, guest, booking owner, requester, host or " ++
      "property-side manager cannot approve this refund")
  let amount := Cents.ofDecimal args.refundAmount
  require (0 < amount) "Approved refund amount must be greater than zero"
  require (amount ≤ booking.amountPaid)
    "Approved refund cannot exceed the amount actually collected"
  require (amount ≤ booking.totalAmount) "Approved refund cannot exceed the booking total"
  require (booking.paymentCollected) "The original payment has not been confirmed as collected"
  require (0 < booking.amountPaid) "There is no collected payment available to refund"
  require (booking.paidByPlatformWallet ∨ booking.walletTxnId ≠ none)
    ("The original external payment reference is missing; " ++
      "provider settlement cannot be verified")
  pure (actor, reason, amount)

/-- `_refund_guest_approved_locked` up to `_execute_escrow_refund`. -/
def refundGuestApprovedOpening (authority : Authority) (db : Db) (booking : AccommodationBooking)
    (commission : Option BookingCommission) (args : ApprovalArgs) : RefundDecision :=
  match approvalChecks authority booking args with
  | .error message => .answer false message booking
  | .ok (actor, reason, amount) =>
    let screening := refundScreeningFlags db booking amount commission
    let discovered := integrityFlags.filter (· ∈ screening)
    let workflow :=
      if discovered = [] then booking.workflow else booking.workflow.flag discovered
    if discovered ≠ [] ∧ ¬ args.integrityExceptionAcknowledged then
      .answer false ("The booking policy evidence failed its integrity check. " ++
        "Review the warning and explicitly acknowledge the exception before approval.")
        (booking.storeWorkflow workflow)
    else if booking.paidByPlatformWallet ∧ screening.any (· ∈ hardFlags) then
      .answer false ("The original payment or escrow cannot be reconciled; " ++
        "keep this request in review") booking
    else if ¬ booking.paidByPlatformWallet then
      .answer true ("Approved. Refund remains pending execution by the original payment " ++
          "provider or property")
        (booking.storeWorkflow
          (workflow.approve .approvedExternalExecutionPending amount actor reason))
    else if commission.map BookingCommission.status ≠ some .held then
      .answer true ("Approved, but escrow recovery is required before the refund can be " ++
          "executed")
        (booking.storeWorkflow
          (workflow.approve .approvedRecoveryRequired amount actor reason))
    else
      .execute
        { amount
          source := .platformHumanReview
          authorizedByUserId := actor
          approvedByUserId := some actor
          approvalReason := reason
          workflow }

/-- The transfer of a refund. -/
def refundRequest (authority : Authority) (booking : AccommodationBooking) (order : RefundOrder)
    (escrow guest : AccountId) : TransferRequest :=
  { fromAccountId := escrow
    toAccountId := guest
    amount := order.amount.toDecimal
    currency := booking.currency
    clientRequestId := refundKey booking.id
    note := some ("Accommodation refund: " ++ booking.bookingReference)
    metadata :=
      [("booking_id", toString booking.id), ("booking_reference", booking.bookingReference),
        ("refund_amount", order.amount.text), ("authorization_source", order.source.text),
        ("authorized_by_user_id", toString order.authorizedByUserId)] ++
      order.approvedByUserId.toList.map (fun id => ("approved_by_user_id", toString id)) ++
      [("approval_reason", order.approvalReason), ("approved_at", authority.now)]
    systemInitiated := true }

/-- `_execute_escrow_refund` up to its transfer. -/
def escrowRefundRequest (authority : Authority) (db : Db) (booking : AccommodationBooking)
    (commission : Option BookingCommission) (order : RefundOrder) :
    Except SettlementError TransferRequest := do
  require (0 < order.amount) (.refused "Refund amount must be greater than zero")
  match commission.filter (fun commission => commission.status = .held) with
  | none => .error (.refused
      "Platform escrow is not held; human recovery review is required")
  | some commission =>
    require (order.amount ≤ booking.amountPaid)
      (.refused "Refund exceeds the amount actually paid")
    require (order.amount ≤ commission.totalAmount)
      (.refused "Refund exceeds the amount held in escrow")
    let escrow ← getPlatformAccountId authority.platformOrgId db booking.currency
    let guest ← getAccountForUser db booking.bookedByUserId booking.currency
    pure (refundRequest authority booking order escrow guest)

/-- The comparison of the wallet's row with the refund; the text is recorded with
the case. -/
def refundMismatch (booking : AccommodationBooking) (order : RefundOrder)
    (receipt : TransferReceipt) (existing : Option Transaction) : Option String :=
  match existing with
  | none => some "Wallet did not return a durable refund transaction"
  | some existing =>
    if existing.status ≠ .completed then
      some "The wallet refund transaction is not completed; keep the booking unrefunded"
    else if existing.amount.toDecimal ≠ order.amount.toDecimal then
      some "An earlier refund transaction exists for a different amount"
    else if existing.currency.toUpper ≠ booking.currency.toUpper then
      some "The durable refund transaction currency does not match the booking"
    else if existing.recipientUserId ≠ some booking.bookedByUserId then
      some "The durable refund transaction recipient does not match the booking payer"
    else if existing.metadata.lookup "booking_id" ≠ some (toString booking.id) then
      some "The durable wallet transaction is not tied to this booking"
    else if receipt.alreadyProcessed ∧
        ((existing.metadata.lookup "authorization_source").getD "" = "" ∨
          (existing.metadata.lookup "authorized_by_user_id").getD "" = "") then
      some "Existing refund transaction has no complete authorization evidence"
    else none

/-- `_queue_refund_execution_reconciliation`. -/
def queueReconciliation (booking : AccommodationBooking) (order : RefundOrder) :
    AccommodationBooking :=
  booking.storeWorkflow
    { (booking.workflow.update order.workflow).flag [.refundExecutionReconciliationFailed] with
      state := some .pendingHumanReview }

/-- The handler of an exception in an automatic refund. -/
def automaticRefundFailed (booking : AccommodationBooking) : AccommodationBooking :=
  booking.storeWorkflow { booking.workflow.flag [.automaticRefundExecutionFailed] with
    state := some .pendingHumanReview }

/-- The commission after the refund's transfer. -/
def BookingCommission.refund (commission : BookingCommission) (amount : Cents) :
    BookingCommission :=
  { commission with
    status := if commission.totalAmount ≤ amount then .refunded else .partiallyRefunded
    refundAmount := amount }

/-- The booking after the refund's transfer. -/
def AccommodationBooking.refund (booking : AccommodationBooking) (order : RefundOrder)
    (now : Timestamp) : AccommodationBooking :=
  let full := booking.amountPaid ≤ order.amount
  AccommodationBooking.storeWorkflow
    { booking with
      refundAmount := order.amount
      refundedAt := some now
      paymentStatus := if full then .refunded else .partialRefund
      status := if booking.status = .cancelled ∧ full then .refunded else booking.status }
    { booking.workflow.update order.workflow with
      state := some (if full then .refunded else .partiallyRefunded) }

end Afcon360.Accommodation
