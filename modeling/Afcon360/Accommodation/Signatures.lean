import Afcon360.Foundation.JsonText
import Afcon360.Foundation.Guard
import Afcon360.Foundation.Run

/-!
# Signatures of refund workflows

The refund workflow of a booking is an object in its policy snapshot, and the snapshot is a
column anyone with access to the database could change. `sign_refund_workflow` therefore
signs the workflow together with the columns that identify the booking and with the
signatures of its policy rules and of its cancellation. The other modules of this directory
take the check of the signature as one bit; here it is looked at.

A write installs a workflow in the snapshot and signs it. Here every write may follow every
other: which of them is allowed in which state makes no difference to the signature. Since
a write replaces the snapshot as a whole, one that started from a snapshot read earlier is
a write after that earlier one.

The digest, the encoder and the text of a value that is no string are parameters. `none` is
an exception; it leaves the booking as it is stored.
-/

namespace Afcon360.Accommodation

open Foundation Json

/-- What signing takes from the libraries: `json.dumps` on sorted values, the digest under
the application's key, and `str`. -/
structure Signer where
  dumps : Json → String
  hexdigest : String → String
  str : Json → String

/-- The columns that identify a booking, and its policy snapshot. -/
structure SignedBooking where
  id : ℕ
  bookingReference : String
  propertyId : ℕ
  bookedByUserId : ℕ
  hostUserId : ℕ
  currency : Option String
  policySnapshot : Fields

namespace SignedBooking

/-- `_refund_policy_booking_context`. -/
def refundPolicyBookingContext (booking : SignedBooking) : Json :=
  .obj
    [("booking_id", .str (toString booking.id)),
     ("booking_reference", .str booking.bookingReference),
     ("property_id", .str (toString booking.propertyId)),
     ("booked_by_user_id", .str (toString booking.bookedByUserId)),
     ("host_user_id", .str (toString booking.hostUserId)),
     ("currency", .str (booking.currency.getD "").toUpper)]

/-- `booking.currency or "USD"`. -/
def currencyOrUsd (booking : SignedBooking) : String :=
  (booking.currency.filter (fun currency => currency ≠ "")).getD "USD"

/-- A value of the snapshot, `None` in its absence. -/
def stored (booking : SignedBooking) (field : String) : Json :=
  (booking.policySnapshot.lookup field).getD .null

/-- A field of the rules of the booking; rules that are no object have no `get`. -/
def policyRule (booking : SignedBooking) (field : String) : Option Json :=
  match (booking.stored "cancellation_policy_rules").orElse (.obj []) with
  | .obj rules => some ((rules.lookup field).getD .null)
  | _ => none

def policyRulesSignature (booking : SignedBooking) : Option Json := booking.policyRule "hmac_sha256"

def cancellationOutcomeSignature (booking : SignedBooking) : Json :=
  booking.stored "cancellation_outcome_hmac"

/-- What `sign_refund_workflow` signs, with the fields of all objects sorted. -/
def refundWorkflowPayload (booking : SignedBooking) (workflow : Fields) : Option Json := do
  let rules ← booking.policyRulesSignature
  some (Json.obj
    [("booking", booking.refundPolicyBookingContext),
     ("policy_rules_signature", rules),
     ("cancellation_outcome_signature", booking.cancellationOutcomeSignature),
     ("workflow", .obj (workflow.without "hmac_sha256"))]).canonical

end SignedBooking

namespace Signer

variable (signer : Signer)

def sign (payload : Json) : String := signer.hexdigest (signer.dumps payload)

/-- `sign_cancellation_policy_rules`. -/
def signCancellationPolicyRules (booking : SignedBooking) (rules : Fields) : String :=
  signer.sign (Json.obj
    [("booking", booking.refundPolicyBookingContext),
     ("rules", .obj ((rules.without "hmac_sha256").without "sha256"))]).canonical

/-- `sign_cancellation_outcome`. -/
def signCancellationOutcome (booking : SignedBooking) (outcome : Fields) : Option String := do
  let rules ← booking.policyRulesSignature
  some (signer.sign (Json.obj
    [("booking", booking.refundPolicyBookingContext),
     ("policy_rules_signature", rules),
     ("outcome", .obj outcome)]).canonical)

/-- `sign_refund_workflow`. -/
def signRefundWorkflow (booking : SignedBooking) (workflow : Fields) : Option String :=
  (booking.refundWorkflowPayload workflow).map signer.sign

/-- `str(workflow.get("hmac_sha256") or "")`. -/
def recordedSignature (workflow : Fields) : String :=
  match ((workflow.lookup "hmac_sha256").getD .null).orElse (.str "") with
  | .str text => text
  | value => signer.str value

end Signer

def isAscii (text : String) : Bool := text.toList.all (fun c => c.toNat < 128)

/-- `hmac.compare_digest`, which takes texts of ASCII characters only. -/
def compareDigest (a b : String) : Option Bool :=
  if isAscii a ∧ isAscii b then some (a = b) else none

/-- `verify_refund_workflow`. An exception of the signer is a failure, one of the
comparison is not caught. -/
def Signer.verifyRefundWorkflow (signer : Signer) (booking : SignedBooking) (workflow : Fields) :
    Option Bool :=
  let recorded := signer.recordedSignature workflow
  if recorded = "" then some false
  else match signer.signRefundWorkflow booking workflow with
    | none => some false
    | some expected => compareDigest recorded expected

/-! ## Writes -/

/-- `_refund_workflow`: the stored workflow, empty if there is none. -/
def SignedBooking.refundWorkflow (booking : SignedBooking) : Option Fields :=
  match (booking.stored "refund_workflow").orElse (.obj []) with
  | .obj workflow => some workflow
  | _ => none

/-- `_store_refund_workflow`: the workflow is installed before it is signed. -/
def Signer.storeRefundWorkflow (signer : Signer) (booking : SignedBooking)
    (snapshot workflow : Fields) : Option SignedBooking := do
  let signed := workflow.without "hmac_sha256"
  let snapshot := snapshot.set "refund_workflow" (.obj signed)
  let signature ← signer.signRefundWorkflow { booking with policySnapshot := snapshot } signed
  let signed := signed.set "hmac_sha256" (.str signature)
  some { booking with policySnapshot := snapshot.set "refund_workflow" (.obj signed) }

/-- `list(value)` of a value that can be iterated. -/
def listOf : Json → Option (List Json)
  | .arr items => some items
  | .str text => some (text.toList.map (fun c => .str (String.singleton c)))
  | .obj fields => some (fields.map (fun field => .str field.1))
  | _ => none

/-- A key of a dictionary. -/
inductive HashKey
  | none
  | number (value : ℚ)
  | text (value : String)
  deriving DecidableEq

/-- What makes two values equal as keys: numbers and truth values by their value. Arrays
and objects are no keys. -/
def hashKey : Json → Option HashKey
  | .null => some .none
  | .bool value => some (.number (if value then 1 else 0))
  | .num value => some (.number value)
  | .str text => some (.text text)
  | _ => none

/-- `list(dict.fromkeys(items))`: the first of equal items is kept. -/
def fromKeys (seen : List HashKey) : List Json → Option (List Json)
  | [] => some []
  | item :: rest => do
      let key ← hashKey item
      if key ∈ seen then fromKeys seen rest
      else
        let kept ← fromKeys (key :: seen) rest
        some (item :: kept)

/-- The items of `workflow["risk_flags"]`, none if there are no flags. -/
def riskFlags (workflow : Fields) : Option (List Json) :=
  listOf (((workflow.lookup "risk_flags").getD .null).orElse (.arr []))

/-- `list(dict.fromkeys(list(workflow.get("risk_flags") or []) + more))`. -/
def withRiskFlags (workflow : Fields) (more : List String) : Option Json := do
  let flags ← riskFlags workflow
  let kept ← fromKeys [] (flags ++ more.map .str)
  some (.arr kept)

def optionNat : Option ℕ → Json
  | some value => .num value
  | none => .null

def optionText : Option String → Json
  | some value => .str value
  | none => .null

/-- `str(message)[:500]`. -/
def clip (message : String) : Json := .str (String.ofList (message.toList.take 500))

/-- The rules the booking route freezes. -/
structure FrozenRules where
  name : String
  preCheckinDays : ℤ
  preCheckinRefundPct : String
  midStayRefundPct : String
  noShowPenalty : String
  payOnArrivalPenaltyType : Option String
  depositRefundable : Bool
  refundableCleaningFee : Bool
  refundableServiceFee : Bool
  refundableTaxes : Bool
  sourcePropertyId : Option ℕ
  capturedAt : String

def FrozenRules.fields (rules : FrozenRules) : Fields :=
  [("snapshot_version", .num 2),
   ("name", .str rules.name),
   ("pre_checkin_days", .num rules.preCheckinDays),
   ("pre_checkin_refund_pct", .str rules.preCheckinRefundPct),
   ("mid_stay_refund_pct", .str rules.midStayRefundPct),
   ("no_show_penalty", .str rules.noShowPenalty),
   ("pay_on_arrival_penalty_type", optionText rules.payOnArrivalPenaltyType),
   ("deposit_refundable", .bool rules.depositRefundable),
   ("refundable_cleaning_fee", .bool rules.refundableCleaningFee),
   ("refundable_service_fee", .bool rules.refundableServiceFee),
   ("refundable_taxes", .bool rules.refundableTaxes),
   ("source_property_id", optionNat rules.sourcePropertyId),
   ("captured_at", .str rules.capturedAt)]

/-- The other terms of the property's booking policy. -/
structure FrozenTerms where
  cancellationPolicy : Option String
  freeCancelHours : Option ℕ
  noShowChargeType : Option String
  noShowChargeAmount : Option String
  depositPercentage : Option String
  balanceDueDaysBeforeCheckin : Option ℕ

def FrozenTerms.fields (terms : FrozenTerms) : Fields :=
  [("cancellation_policy", optionText terms.cancellationPolicy),
   ("free_cancel_hours", optionNat terms.freeCancelHours),
   ("no_show_charge_type", optionText terms.noShowChargeType),
   ("no_show_charge_amount", optionText terms.noShowChargeAmount),
   ("deposit_percentage", optionText terms.depositPercentage),
   ("balance_due_days_before_checkin", optionNat terms.balanceDueDaysBeforeCheckin)]

/-- The quote and the circumstances of a cancellation. -/
structure CancellationRecord where
  policy : Option String
  phase : String
  refundableBase : String
  refund : String
  fine : String
  nightsRemaining : ℤ
  daysUntilCheckin : ℤ
  cancelledBy : Option ℕ
  cancelledAt : String
  fromStatus : String
  paymentMethod : Option String
  paymentTiming : String
  isHostCancellation : Bool
  requestHumanReview : Bool
  refundableCashAmount : String
  cashRefundable : Bool
  requestReason : String
  submittedAt : String

def CancellationRecord.outcome (record : CancellationRecord) (version : Json) : Fields :=
  [("policy", optionText record.policy),
   ("phase", .str record.phase),
   ("refundable_base", .str record.refundableBase),
   ("refund", .str record.refund),
   ("fine", .str record.fine),
   ("nights_remaining", .num record.nightsRemaining),
   ("days_until_checkin", .num record.daysUntilCheckin),
   ("cancelled_by", optionNat record.cancelledBy),
   ("cancelled_at", .str record.cancelledAt),
   ("from_status", .str record.fromStatus),
   ("policy_snapshot_version", version)]

def isTwo : Json → Bool
  | .num value => value = 2
  | _ => false

def CancellationRecord.reviewFlags (record : CancellationRecord) (version : Json) : List Json :=
  (if record.requestHumanReview then [.str "human_review_requested"] else []) ++
  (if record.isHostCancellation then [.str "provider_cancellation_liability_review"] else []) ++
  (if isTwo version then [] else [.str "booking_time_policy_snapshot_incomplete"])

/-- The workflow a cancellation starts. -/
def CancellationRecord.workflow (record : CancellationRecord) (currency : String)
    (flags : List Json) : Fields :=
  if record.cashRefundable ∨ flags ≠ [] then
    [("state", .str (if flags.isEmpty then "screening" else "pending_human_review")),
     ("proposed_amount", .str record.refundableCashAmount),
     ("currency", .str currency),
     ("payment_method", optionText record.paymentMethod),
     ("request_source",
       .str (if record.isHostCancellation then "host_cancellation" else "guest_cancellation")),
     ("requested_by_user_id", optionNat record.cancelledBy),
     ("request_reason", .str (strip record.requestReason)),
     ("submitted_at", .str record.submittedAt),
     ("risk_flags", .arr flags),
     ("policy_amount", .str record.refund),
     ("payment_timing", .str record.paymentTiming)]
  else
    [("state", .str "no_refund_due"),
     ("proposed_amount", .str "0.00"),
     ("currency", .str currency),
     ("request_source", .str "booking_cancellation"),
     ("requested_by_user_id", optionNat record.cancelledBy),
     ("submitted_at", .str record.submittedAt),
     ("risk_flags", .arr []),
     ("policy_amount", .str record.refund),
     ("payment_timing", .str record.paymentTiming)]

/-- Everything that is written to a policy snapshot: the booking route freezes the policy, a
cancellation records its outcome and starts a workflow, and the refund service moves the
workflow on. Times, texts and amounts are as the operation has them. -/
inductive RefundWrite
  | policyFrozen (terms : FrozenTerms) (rules : Option FrozenRules)
  | bookingCancelled (record : CancellationRecord)
  | integrityReviewQueued (queuedAt : String)
  | reviewQueued (screening : List String) (amount submittedAt : String)
  | automaticRefundFailed (error failedAt : String)
  | reviewSubmitted (signatureValid : Bool) (amount requestSource : String) (requester : ℕ)
      (reason submittedAt : String)
  | integrityRechecked (flags : List String) (reviewedAt : String)
  | integrityAcknowledged (flags : List String) (actor : ℕ) (reason acknowledgedAt : String)
  | approvedExternal (amount : String) (actor : ℕ) (reason approvedAt originalReference : String)
  | approvedRecovery (amount : String) (actor : ℕ) (reason approvedAt : String)
  | rejected (reviewer : ℕ) (reason rejectedAt : String)
  | executionVerified (fullRefund : Bool) (amount reference note : String) (reviewer : ℕ)
      (verifiedAt : String)
  | reconciliationQueued (context : Fields) (message failedAt : String)
      (transactionId : Option String)
  | settled (context : Fields) (fullRefund : Bool)
      (amount remainingPaid remainingEscrow transactionId completedAt : String)
      (authorization : Fields)

/-- The workflow after the operation's own writes, before it is stored. -/
def RefundWrite.edit (currency : String) (workflow : Fields) : RefundWrite → Option Fields
  | policyFrozen _ _ => none
  | bookingCancelled _ => none
  | integrityReviewQueued queuedAt => do
      let flags ← withRiskFlags workflow ["refund_workflow_integrity_failed"]
      some (workflow.update
        [("state", .str "pending_human_review"),
         ("risk_flags", flags),
         ("review_reason", .str "The stored refund workflow failed its signature check"),
         ("integrity_review_queued_at", .str queuedAt)])
  | reviewQueued screening amount submittedAt => do
      let recorded ← riskFlags workflow
      let flags ← fromKeys [] (screening.map .str ++ recorded)
      some (workflow.update
        [("state", .str "pending_human_review"),
         ("proposed_amount", .str amount),
         ("currency", .str currency),
         ("risk_flags", .arr flags),
         ("review_submitted_at", .str submittedAt),
         ("review_reason",
           .str "Machine screening could not safely authorize automatic refund")])
  | automaticRefundFailed error failedAt => do
      let flags ← withRiskFlags workflow ["automatic_refund_execution_failed"]
      some (workflow.update
        [("state", .str "pending_human_review"),
         ("last_error", clip error),
         ("failed_at", .str failedAt),
         ("risk_flags", flags)])
  | reviewSubmitted signatureValid amount requestSource requester reason submittedAt => do
      let workflow ←
        if signatureValid then some workflow
        else do
          let flags ← withRiskFlags workflow ["refund_workflow_integrity_failed"]
          some (workflow.update
            [("risk_flags", flags),
             ("integrity_review_reason", .str
               "Previous refund workflow signature was invalid; provider request resubmitted for review")])
      let flags ← withRiskFlags workflow ["provider_or_manual_exception"]
      some (workflow.update
        [("state", .str "pending_human_review"),
         ("proposed_amount", .str amount),
         ("currency", .str currency),
         ("request_source", .str requestSource),
         ("requested_by_user_id", .num requester),
         ("request_reason", .str reason),
         ("submitted_at", .str submittedAt),
         ("risk_flags", flags)])
  | integrityRechecked discovered reviewedAt => do
      let flags ← withRiskFlags workflow discovered
      some (workflow.update
        [("risk_flags", flags),
         ("integrity_review_required", .bool true),
         ("integrity_reviewed_at", .str reviewedAt)])
  | integrityAcknowledged discovered actor reason acknowledgedAt => do
      let flags ← withRiskFlags workflow discovered
      some (workflow.update
        [("integrity_exception_acknowledged_by_user_id", .num actor),
         ("integrity_exception_acknowledged_at", .str acknowledgedAt),
         ("integrity_exception_reason", .str reason),
         ("risk_flags", flags)])
  | approvedExternal amount actor reason approvedAt originalReference =>
    some (workflow.update
      [("state", .str "approved_external_execution_pending"),
       ("approved_amount", .str amount),
       ("approved_by_user_id", .num actor),
       ("approval_reason", .str reason),
       ("approved_at", .str approvedAt),
       ("execution_owner", .str "original_payment_provider_or_property"),
       ("original_payment_reference", .str originalReference),
       ("execution_note", .str
         "Do not mark refunded until the original payment channel supplies an execution reference.")])
  | approvedRecovery amount actor reason approvedAt =>
    some (workflow.update
      [("state", .str "approved_recovery_required"),
       ("approved_amount", .str amount),
       ("approved_by_user_id", .num actor),
       ("approval_reason", .str reason),
       ("approved_at", .str approvedAt),
       ("execution_note", .str
         "Escrow has already been released or cannot be reconciled. Financial recovery is required before payment.")])
  | rejected reviewer reason rejectedAt =>
    some (workflow.update
      [("state", .str "rejected"),
       ("rejected_by_user_id", .num reviewer),
       ("rejection_reason", .str reason),
       ("rejected_at", .str rejectedAt)])
  | executionVerified fullRefund amount reference note reviewer verifiedAt =>
    some (workflow.update
      [("state", .str (if fullRefund then "refunded" else "partially_refunded")),
       ("actual_amount", .str amount),
       ("external_provider_reference", .str reference),
       ("execution_verification_note", .str note),
       ("execution_verification_method", .str "independent_manual_provider_reconciliation"),
       ("execution_verified_by_user_id", .num reviewer),
       ("execution_verified_at", .str verifiedAt)])
  | reconciliationQueued context message failedAt transactionId => do
      let workflow := workflow.update (context.without "hmac_sha256")
      let flags ← withRiskFlags workflow ["refund_execution_reconciliation_failed"]
      some (workflow.update
        [("state", .str "pending_human_review"),
         ("last_error", clip message),
         ("failed_at", .str failedAt),
         ("reconciliation_transaction_id", optionText transactionId),
         ("risk_flags", flags),
         ("review_reason", .str
           "Wallet execution or its durable transaction could not be reconciled automatically; administrator review is required.")])
  | settled context fullRefund amount remainingPaid remainingEscrow transactionId completedAt
      authorization =>
      some ((workflow.update (context.without "hmac_sha256")).update
        [("state", .str (if fullRefund then "refunded" else "partially_refunded")),
         ("actual_amount", .str amount),
         ("remaining_paid_amount", .str remainingPaid),
         ("remaining_escrow_amount", .str remainingEscrow),
         ("transaction_id", .str transactionId),
         ("completed_at", .str completedAt),
         ("authorization", .obj authorization)])

namespace Signer

variable (signer : Signer)

/-- The booking route's freezing of the policy, which starts a new snapshot. -/
def freezePolicy (booking : SignedBooking) (terms : FrozenTerms) (rules : Option FrozenRules) :
    SignedBooking :=
  let frozen : Json := match rules with
    | some rules => .obj (rules.fields.set "hmac_sha256"
        (.str (signer.signCancellationPolicyRules booking rules.fields)))
    | none => .null
  { booking with policySnapshot := terms.fields.set "cancellation_policy_rules" frozen }

/-- The part of `cancel_booking` that writes the snapshot. The outcome is signed while the
booking still has its former snapshot, the workflow when it has the new one. -/
def cancelBooking (booking : SignedBooking) (record : CancellationRecord) :
    Option SignedBooking := do
  let version ← booking.policyRule "snapshot_version"
  let outcome := record.outcome version
  let outcomeSignature ← signer.signCancellationOutcome booking outcome
  let snapshot := (booking.policySnapshot.set "cancellation_outcome" (.obj outcome)).set
    "cancellation_outcome_hmac" (.str outcomeSignature)
  let workflow := record.workflow booking.currencyOrUsd (record.reviewFlags version)
  let snapshot := snapshot.set "refund_workflow" (.obj workflow)
  let signature ← signer.signRefundWorkflow { booking with policySnapshot := snapshot } workflow
  let workflow := workflow.set "hmac_sha256" (.str signature)
  some { booking with policySnapshot := snapshot.set "refund_workflow" (.obj workflow) }

def write? (booking : SignedBooking) : RefundWrite → Option SignedBooking
  | .policyFrozen terms rules => some (signer.freezePolicy booking terms rules)
  | .bookingCancelled record => signer.cancelBooking booking record
  | write => do
      let workflow ← booking.refundWorkflow
      let workflow ← write.edit booking.currencyOrUsd workflow
      signer.storeRefundWorkflow booking booking.policySnapshot workflow

/-- One operation: an exception rolls its writes back. -/
def write (booking : SignedBooking) (write : RefundWrite) : SignedBooking :=
  (signer.write? booking write).getD booking

end Signer

/-! ## What is signed -/

/-- Of the snapshot the payload has two signatures only; the stored workflow is given. -/
theorem SignedBooking.refundWorkflowPayload_set (booking : SignedBooking) (snapshot : Fields)
    (value value' : Json) (workflow : Fields) :
    refundWorkflowPayload
        { booking with
          policySnapshot :=
            (snapshot.set "refund_workflow" value).set "refund_workflow" value' } workflow =
      refundWorkflowPayload
        { booking with policySnapshot := snapshot.set "refund_workflow" value } workflow := by
  have hrules : "cancellation_policy_rules" ≠ "refund_workflow" := by decide
  have houtcome : "cancellation_outcome_hmac" ≠ "refund_workflow" := by decide
  simp only [refundWorkflowPayload, policyRulesSignature, policyRule, cancellationOutcomeSignature,
    stored, refundPolicyBookingContext, Fields.lookup_set_other _ _ hrules,
    Fields.lookup_set_other _ _ houtcome]

/-- The recorded signature is no part of what is signed. -/
theorem SignedBooking.refundWorkflowPayload_signed (booking : SignedBooking) (workflow : Fields)
    (signature : Json) :
    booking.refundWorkflowPayload (workflow.set "hmac_sha256" signature) =
      booking.refundWorkflowPayload workflow := by
  simp only [refundWorkflowPayload, Fields.without_set]

/-- The two bookings and workflows differ in something the signature is to cover. -/
def SignedDiffers (booking booking' : SignedBooking) (workflow workflow' : Fields) : Prop :=
  (∃ field, field ≠ "hmac_sha256" ∧
    (workflow'.lookup field).map canonical ≠ (workflow.lookup field).map canonical) ∨
  booking'.refundPolicyBookingContext.canonical ≠ booking.refundPolicyBookingContext.canonical ∨
  booking'.policyRulesSignature.map canonical ≠ booking.policyRulesSignature.map canonical ∨
  booking'.cancellationOutcomeSignature.canonical ≠ booking.cancellationOutcomeSignature.canonical

/-- Each of them alters the payload. -/
theorem SignedDiffers.payload_ne {booking booking' : SignedBooking} {workflow workflow' : Fields}
    {payload : Json} (hpayload : booking.refundWorkflowPayload workflow = some payload)
    (h : SignedDiffers booking booking' workflow workflow') :
    booking'.refundWorkflowPayload workflow' ≠ some payload := by
  intro hpayload'
  obtain ⟨rules, hrules, hcanonical⟩ := Option.bind_eq_some_iff.mp hpayload
  obtain ⟨rules', hrules', hcanonical'⟩ := Option.bind_eq_some_iff.mp hpayload'
  have heq := (Option.some.inj hcanonical').trans (Option.some.inj hcanonical).symm
  obtain ⟨field, hfield, hne⟩ | hne | hne | hne := h
  · refine canonical_ne_of_field "workflow" ?_ heq
    have hworkflow : (Json.obj (workflow'.without "hmac_sha256")).canonical ≠
        (Json.obj (workflow.without "hmac_sha256")).canonical := by
      refine canonical_ne_of_field field ?_
      rwa [Fields.lookup_without _ hfield, Fields.lookup_without _ hfield]
    simpa [Fields.lookup_cons] using hworkflow
  · refine canonical_ne_of_field "booking" ?_ heq
    simpa [Fields.lookup_cons] using hne
  · refine canonical_ne_of_field "policy_rules_signature" ?_ heq
    rw [hrules, hrules'] at hne
    simpa [Fields.lookup_cons] using hne
  · refine canonical_ne_of_field "cancellation_outcome_signature" ?_ heq
    simpa [Fields.lookup_cons] using hne

/-! ## Verification -/

section Verification

variable {signer : Signer} (hdumps : Function.Injective signer.dumps)
  (hdigest : Function.Injective signer.hexdigest)
  (hascii : ∀ text, isAscii (signer.hexdigest text) = true)
  (hnonempty : ∀ text, signer.hexdigest text ≠ "")

include hdumps hdigest in
theorem Signer.sign_injective : Function.Injective signer.sign := hdigest.comp hdumps

variable {booking : SignedBooking}

theorem Signer.verify_sign {workflow : Fields}
    (h : signer.verifyRefundWorkflow booking workflow = some true) :
    signer.signRefundWorkflow booking workflow = some (signer.recordedSignature workflow) := by
  simp only [Signer.verifyRefundWorkflow] at h
  split at h
  · cases h
  · split at h
    · cases h
    · rename_i expected hsign
      rw [hsign]
      simp only [compareDigest] at h
      split at h
      · have heq : signer.recordedSignature workflow = expected := by simpa using h
        rw [heq]
      · cases h

include hascii hnonempty in
/-- The recorded signature is right, or the check fails. -/
theorem Signer.verify_of_recorded {workflow : Fields} {payload : Json}
    (hrecorded : signer.recordedSignature workflow = signer.sign payload) :
    signer.verifyRefundWorkflow booking workflow =
      some (decide (signer.signRefundWorkflow booking workflow = some (signer.sign payload))) := by
  simp only [Signer.verifyRefundWorkflow, hrecorded]
  have hsigned : signer.sign payload ≠ "" := hnonempty _
  rw [if_neg hsigned]
  cases hpayload : booking.refundWorkflowPayload workflow with
  | none => simp [Signer.signRefundWorkflow, hpayload]
  | some payload' =>
    simp only [Signer.signRefundWorkflow, hpayload, Option.map_some, compareDigest]
    rw [if_pos ⟨hascii _, hascii _⟩]
    simp [eq_comm]

theorem Signer.recordedSignature_set (workflow : Fields) {signature : String}
    (h : signature ≠ "") :
    signer.recordedSignature (workflow.set "hmac_sha256" (.str signature)) = signature := by
  simp [Signer.recordedSignature, Fields.lookup_set_self, orElse, truthy, h]

include hascii hnonempty in
/-- A workflow that is installed and then signed verifies. -/
theorem Signer.install_verifies {snapshot workflow : Fields} {signature : String}
    (hsign : signer.signRefundWorkflow
      { booking with policySnapshot := snapshot.set "refund_workflow" (.obj workflow) } workflow =
        some signature) :
    signer.verifyRefundWorkflow
      { booking with
        policySnapshot := (snapshot.set "refund_workflow" (.obj workflow)).set "refund_workflow"
            (.obj (workflow.set "hmac_sha256" (.str signature))) }
      (workflow.set "hmac_sha256" (.str signature)) = some true := by
  obtain ⟨payload, hpayload, rfl⟩ := Option.map_eq_some_iff.mp hsign
  rw [verify_of_recorded hascii hnonempty (recordedSignature_set workflow (hnonempty _))]
  simp only [Signer.signRefundWorkflow, SignedBooking.refundWorkflowPayload_signed,
    SignedBooking.refundWorkflowPayload_set, hpayload, Option.map_some, decide_true]

/-- The workflow of the booking, if it has one, verifies. -/
def Signer.Verified (signer : Signer) (booking : SignedBooking) : Prop :=
  ∀ value, booking.policySnapshot.lookup "refund_workflow" = some value →
    ∃ workflow, value = .obj workflow ∧ signer.verifyRefundWorkflow booking workflow = some true

include hascii hnonempty in
theorem Signer.installed_verified {snapshot workflow : Fields} {signature : String}
    (hsign : signer.signRefundWorkflow
      { booking with policySnapshot := snapshot.set "refund_workflow" (.obj workflow) } workflow =
        some signature) :
    signer.Verified
      { booking with
        policySnapshot := (snapshot.set "refund_workflow" (.obj workflow)).set "refund_workflow"
            (.obj (workflow.set "hmac_sha256" (.str signature))) } := by
  intro value hvalue
  rw [Fields.lookup_set_self] at hvalue
  cases hvalue
  exact ⟨_, rfl, install_verifies hascii hnonempty hsign⟩

variable {booking booking' : SignedBooking}

include hascii hnonempty in
theorem Signer.storeRefundWorkflow_verified {snapshot workflow : Fields}
    (h : signer.storeRefundWorkflow booking snapshot workflow = some booking') :
    signer.Verified booking' := by
  obtain ⟨signature, hsign, hbooking⟩ := Option.bind_eq_some_iff.mp h
  cases hbooking
  exact installed_verified hascii hnonempty hsign

include hascii hnonempty in
theorem Signer.cancelBooking_verified
    {record : CancellationRecord} (h : signer.cancelBooking booking record = some booking') :
    signer.Verified booking' := by
  obtain ⟨version, -, h⟩ := Option.bind_eq_some_iff.mp h
  obtain ⟨outcomeSignature, -, h⟩ := Option.bind_eq_some_iff.mp h
  obtain ⟨signature, hsign, hbooking⟩ := Option.bind_eq_some_iff.mp h
  cases hbooking
  exact installed_verified hascii hnonempty hsign

/-- A frozen policy starts a snapshot without a workflow. -/
theorem Signer.freezePolicy_verified (booking : SignedBooking) (terms : FrozenTerms)
    (rules : Option FrozenRules) : signer.Verified (signer.freezePolicy booking terms rules) := by
  intro value hvalue
  simp only [Signer.freezePolicy] at hvalue
  rw [Fields.lookup_set_other _ _ (by decide)] at hvalue
  simp [FrozenTerms.fields, Fields.lookup_cons] at hvalue

include hascii hnonempty in
/-- Every write but the freezing ends by storing what it signed. -/
theorem Signer.write?_verified {write : RefundWrite}
    (h : signer.write? booking write = some booking') : signer.Verified booking' := by
  cases write with
  | policyFrozen terms rules =>
    cases h
    exact freezePolicy_verified booking terms rules
  | bookingCancelled record => exact cancelBooking_verified hascii hnonempty h
  | _ =>
    obtain ⟨_, -, hedited⟩ := Option.bind_eq_some_iff.mp h
    obtain ⟨workflow, -, hstore⟩ := Option.bind_eq_some_iff.mp hedited
    exact storeRefundWorkflow_verified hascii hnonempty hstore

include hascii hnonempty in
theorem Signer.writes_verified (writes : List RefundWrite)
    (h : signer.Verified booking) : signer.Verified (writes.foldl signer.write booking) := by
  refine (Run.foldl signer.write booking writes).invariant signer.Verified ?_ h
  rintro before write after hbefore rfl
  rw [Signer.write]
  cases hwrite : signer.write? before write with
  | none => exact hbefore
  | some after => exact write?_verified hascii hnonempty hwrite

include hdumps hdigest hascii hnonempty in
/-- The check fails where the recorded signature is still the one of another payload. -/
theorem Signer.verify_altered {workflow workflow' : Fields}
    (hverified : signer.verifyRefundWorkflow booking workflow = some true)
    (hrecorded : workflow'.lookup "hmac_sha256" = workflow.lookup "hmac_sha256")
    (haltered : booking'.refundWorkflowPayload workflow' ≠ booking.refundWorkflowPayload workflow) :
    signer.verifyRefundWorkflow booking' workflow' = some false := by
  have hsign := verify_sign hverified
  obtain ⟨payload, hpayload, hpayloadSign⟩ := Option.map_eq_some_iff.mp hsign
  have hsame : signer.recordedSignature workflow' = signer.sign payload := by
    rw [hpayloadSign, Signer.recordedSignature, Signer.recordedSignature, hrecorded]
  rw [verify_of_recorded hascii hnonempty hsame]
  rw [hpayload] at haltered
  have hne : signer.signRefundWorkflow booking' workflow' ≠ some (signer.sign payload) := by
    intro heq
    obtain ⟨payload', hpayload', hsign'⟩ := Option.map_eq_some_iff.mp heq
    rw [hpayload', sign_injective hdumps hdigest hsign'] at haltered
    exact haltered rfl
  simp [hne]

end Verification

/-- Whatever is written to the snapshot of a booking that had no workflow, the stored
workflow verifies. A workflow that verifies fails the check once anything the signature is
to cover has been altered, in the workflow, in the booking or in the two signatures bound
to it, while the recorded signature is kept. -/
theorem refundWorkflow_signed (signer : Signer) (hdumps : Function.Injective signer.dumps)
    (hdigest : Function.Injective signer.hexdigest)
    (hascii : ∀ text, isAscii (signer.hexdigest text) = true)
    (hnonempty : ∀ text, signer.hexdigest text ≠ "") :
    (∀ (booking : SignedBooking) (writes : List RefundWrite),
      booking.policySnapshot.lookup "refund_workflow" = none →
        signer.Verified (writes.foldl signer.write booking)) ∧
    (∀ (booking booking' : SignedBooking) (workflow workflow' : Fields),
      signer.verifyRefundWorkflow booking workflow = some true →
      workflow'.lookup "hmac_sha256" = workflow.lookup "hmac_sha256" →
      (booking'.refundWorkflowPayload workflow' ≠ booking.refundWorkflowPayload workflow ∨
        SignedDiffers booking booking' workflow workflow') →
      signer.verifyRefundWorkflow booking' workflow' = some false) := by
  refine ⟨?_, ?_⟩
  · intro booking writes hnone
    refine Signer.writes_verified hascii hnonempty writes ?_
    intro value hvalue
    rw [hnone] at hvalue
    cases hvalue
  · intro booking booking' workflow workflow' hverified hrecorded haltered
    refine Signer.verify_altered hdumps hdigest hascii hnonempty hverified hrecorded ?_
    rcases haltered with haltered | haltered
    · exact haltered
    · obtain ⟨payload, hpayload, -⟩ := Option.map_eq_some_iff.mp (Signer.verify_sign hverified)
      rw [hpayload]
      exact haltered.payload_ne hpayload

/-! ## A signer -/

/-- The code points of a text, in decimal. -/
def codePoints (text : String) : String :=
  String.ofList ('#' :: text.toList.flatMap (fun c => Nat.toDigits 10 c.toNat ++ ['.']))

theorem codePoints_append_inj {text text' : List Char}
    (h : text.flatMap (fun c => Nat.toDigits 10 c.toNat ++ ['.']) =
      text'.flatMap (fun c => Nat.toDigits 10 c.toNat ++ ['.'])) : text = text' := by
  have hdot : ∀ tail : List Char, ∀ c ∈ ('.' :: tail).head?, c.isDigit = false := by
    intro tail c hc
    cases hc
    decide
  induction text generalizing text' with
  | nil =>
    cases text' with
    | nil => rfl
    | cons c' text' => simp at h
  | cons c text ih =>
    cases text' with
    | nil => simp at h
    | cons c' text' =>
      simp only [List.flatMap_cons, List.append_assoc, List.cons_append, List.nil_append] at h
      obtain ⟨hcode, htail⟩ := digits_append_inj (hdot _) (hdot _) h
      rw [Char.toNat_inj.mp hcode, ih (List.cons.inj htail).2]

theorem codePoints_injective : Function.Injective codePoints := by
  intro text text' h
  have hchars := (List.cons.inj (String.ofList_injective h)).2
  exact String.toList_inj.mp (codePoints_append_inj hchars)

theorem codePoints_ascii (text : String) : isAscii (codePoints text) = true := by
  rw [isAscii, codePoints, String.toList_ofList, List.all_eq_true]
  intro c hc
  rw [List.mem_cons, List.mem_flatMap] at hc
  obtain rfl | ⟨letter, -, hc⟩ := hc
  · decide
  · obtain hc | hc := List.mem_append.mp hc
    · have hdigit := Nat.isDigit_of_mem_toDigits (by decide) (by decide) hc
      rw [Char.isDigit_iff_toNat] at hdigit
      have : '9'.toNat = 57 := rfl
      simp only [decide_eq_true_eq]
      omega
    · rw [List.mem_singleton.mp hc]
      decide

/-- A signer whose digest hides nothing and is injective. -/
def openSigner : Signer := { dumps := dumps, hexdigest := codePoints, str := dumps }

def lakeBooking : SignedBooking :=
  { id := 7, bookingReference := "ACC-1", propertyId := 3, bookedByUserId := 5, hostUserId := 9,
    currency := some "ugx", policySnapshot := [] }

def lakeCase : SignedBooking :=
  [RefundWrite.integrityReviewQueued "t"].foldl openSigner.write lakeBooking

theorem lakeCase_state :
    ∃ signature, lakeCase.policySnapshot.lookup "refund_workflow" = some (.obj
      [("state", .str "pending_human_review"),
       ("risk_flags", .arr [.str "refund_workflow_integrity_failed"]),
       ("review_reason", .str "The stored refund workflow failed its signature check"),
       ("integrity_review_queued_at", .str "t"),
       ("hmac_sha256", signature)]) :=
  ⟨_, rfl⟩

theorem refundWorkflow_signed_lakeCase :
    ∃ workflow : Fields, lakeCase.policySnapshot.lookup "refund_workflow" = some (.obj workflow) ∧
      openSigner.verifyRefundWorkflow lakeCase workflow = some true ∧
      openSigner.verifyRefundWorkflow lakeCase (workflow.set "state" (.str "refunded")) =
        some false := by
  have hnonempty : ∀ text, openSigner.hexdigest text ≠ "" := by
    intro text
    simp [openSigner, codePoints, ← String.toList_inj]
  obtain ⟨hverified, haltered⟩ := refundWorkflow_signed openSigner dumps_injective
    codePoints_injective codePoints_ascii hnonempty
  obtain ⟨signature, hstored⟩ := lakeCase_state
  obtain ⟨workflow, hworkflow, hvalid⟩ := hverified lakeBooking _ rfl _ hstored
  rw [Json.obj.injEq] at hworkflow
  subst hworkflow
  refine ⟨_, hstored, hvalid, haltered lakeCase lakeCase _ _ hvalid ?_ (.inr (.inl ?_))⟩
  · exact Fields.lookup_set_other _ _ (by decide)
  · refine ⟨"state", by decide, ?_⟩
    rw [Fields.lookup_set_self, Fields.lookup_cons, if_pos rfl]
    simp [canonical]

end Afcon360.Accommodation
