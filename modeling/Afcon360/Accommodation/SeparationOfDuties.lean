import Afcon360.Accommodation.RefundEvidence

/-!
# Separation of duties

A refund that goes through human review is approved by an administrator who has no part
in the booking or its property, and one that a provider executes is verified by a second
one. `Separated` says this of everything the desk has recorded, and that no provider
reference stands for two refunds.

A case that says money went back should not be touched again. It is, when the booking is
cancelled after a refund, and when `refund_guest` raises before it looks at the case. In
runs without these two it stays as it is.
-/

namespace Afcon360.Accommodation

open Foundation Wallet

/-- The decision of an administrator who is neither a party to the booking nor on the
side of its property. -/
structure Review.Independent (review : Review) : Prop where
  isActor : review.authority.actor = some review.reviewer
  isAdmin : review.authority.hasGlobalRole review.reviewer
  notGuest : some review.reviewer ∉ [some review.booking.bookedByUserId,
    review.booking.guestUserId, review.booking.bookingOwnerId, review.booking.primaryGuestId]
  notCanceller : review.booking.cancelledByUserId ≠ some review.reviewer
  notRequester : review.booking.workflow.requestedByUserId ≠ some review.reviewer
  notHost : review.booking.hostUserId ≠ review.reviewer
  notOwner : ∀ property, review.booking.property = some property →
    property.ownerUserId ≠ some review.reviewer
  notManager : ∀ property orgId, review.booking.property = some property →
    property.ownerOrgId = some orgId →
    review.authority.managesAccommodation review.reviewer orgId = some false

theorem Review.Independent.of_check {review : Review}
    (hactor : review.authority.actor = some review.reviewer)
    (hadmin : review.authority.hasGlobalRole review.reviewer)
    (h : isIndependentRefundReviewer review.authority review.booking review.reviewer) :
    review.Independent := by
  simp only [isIndependentRefundReviewer, List.mem_cons, List.not_mem_nil, or_false, not_or,
    decide_eq_true_eq, Bool.decide_and, Bool.and_eq_true] at h
  obtain ⟨⟨hcanceller, hbooker, hguest, howner, hprimary, hhost, hrequester⟩, hproperty⟩ := h
  refine ⟨hactor, hadmin, ?_, Ne.symm hcanceller, Ne.symm hrequester, ?_, ?_, ?_⟩
  · simp only [List.mem_cons, List.not_mem_nil, or_false, not_or]
    exact ⟨hbooker, hguest, howner, hprimary⟩
  · intro heq
    exact hhost (by rw [heq])
  · intro property hbooking
    rw [hbooking] at hproperty
    simp only [Option.any_some, Property.allowsReviewer, Bool.decide_and, Bool.and_eq_true,
      decide_eq_true_eq] at hproperty
    exact hproperty.1
  · intro property orgId hbooking horg
    rw [hbooking] at hproperty
    simp only [Option.any_some, Property.allowsReviewer, Bool.decide_and, Bool.and_eq_true,
      decide_eq_true_eq, horg, Option.all_some] at hproperty
    exact hproperty.2

namespace Desk

/-- The order is the one an administrator approved. -/
def Approved (s : Desk) (id : ℕ) (order : RefundOrder) : Prop :=
  order.source = .platformHumanReview → ∃ approval ∈ s.approvals, approval.bookingId = id ∧
    order.approvedByUserId = some approval.reviewer ∧ order.amount = approval.amount

/-- A verified refund was approved by one administrator and verified by another one, and
its amount is the approved one. -/
def Countersigned (s : Desk) (id : ℕ) (refund : VerifiedRefund) : Prop :=
  ∃ approval ∈ s.approvals, ∃ verification ∈ s.verifications,
    approval.bookingId = id ∧ verification.bookingId = id ∧
    refund.approvedByUserId = some approval.reviewer ∧
    refund.verifiedByUserId = verification.reviewer ∧
    approval.reviewer ≠ verification.reviewer ∧
    refund.amount = approval.amount ∧ refund.amount = verification.amount

/-- The provider references recorded so far. -/
def references (s : Desk) : List String :=
  s.rows.filterMap (fun row => row.details.map VerifiedRefund.externalProviderReference)

/-- What is asked of everything the desk has recorded. -/
structure Separated (s : Desk) : Prop where
  approvals : ∀ review ∈ s.approvals, review.Independent
  verifications : ∀ review ∈ s.verifications, review.Independent
  underWay : ∀ id flight, s.flights id = some flight → s.Approved id flight.order
  executed : ∀ row ∈ s.settled, s.Approved row.bookingId row.order
  verified : ∀ row ∈ s.rows, ∀ refund, row.details = some refund →
    s.Countersigned row.bookingId refund
  references : s.references.Nodup

/-- A refunded case is not cancelled, and `refund_guest` is not called for it with an
amount that raises. -/
def LeavesSettled (s : Desk) : DeskMove → Prop
  | .cancelBooking id _ | .refundGuest id _ (.error _) =>
    ∀ booking, s.bookings id = some booking → ¬ booking.workflow.isSettled
  | _ => True

/-! ## The invariant -/

/-- What keeps the records separate: the signatures of settled cases are valid, a refund
under way is not settled nor left to the provider, and a case left to the provider names
its approval. -/
structure Inv (s : Desk) : Prop where
  keyed : Keyed s
  separated : Separated s
  signed : ∀ id booking, s.bookings id = some booking → booking.workflow.isSettled →
    booking.workflow.signed
  unsettled : ∀ id booking flight, s.bookings id = some booking → s.flights id = some flight →
    ¬ booking.workflow.isSettled ∧
      booking.workflow.state ≠ some .approvedExternalExecutionPending
  granted : ∀ id booking, s.bookings id = some booking →
    booking.workflow.state = some .approvedExternalExecutionPending →
    ∃ approval ∈ s.approvals, approval.bookingId = id ∧
      booking.workflow.approvedByUserId = some approval.reviewer ∧
      booking.workflow.approvedAmount = some approval.amount

variable {s t : Desk} {move : DeskMove} {id : ℕ} {b b' : AccommodationBooking}

theorem Fresh.inv (fresh : Fresh s) : Inv s := by
  refine ⟨fresh.id, ⟨?_, ?_, ?_, ?_, ?_, ?_⟩, ?_, ?_, ?_⟩
  · simp [fresh.approvals]
  · simp [fresh.verifications]
  · intro id flight hflight
    rw [fresh.idle id] at hflight
    cases hflight
  · simp [fresh.settled]
  · simp [fresh.rows]
  · simp [references, fresh.rows]
  · intro id b hb hsettled
    rw [fresh.workflow id b hb] at hsettled
    cases hsettled
  · intro id b flight _ hflight
    rw [fresh.idle id] at hflight
    cases hflight
  · intro id b hb hstate
    rw [fresh.workflow id b hb] at hstate
    cases hstate

/-! ## What a step does to a case -/

theorem externalExecutionChecks_ok {authority : Authority} {rows : List VerificationRow}
    {args : ExternalExecution} {amount : Cents} {reference : String}
    (h : externalExecutionChecks authority rows b args = .ok (amount, reference)) :
    authority.actor = some args.reviewerUserId ∧ authority.hasGlobalRole args.reviewerUserId ∧
      b.workflow.state = some .approvedExternalExecutionPending ∧
      b.workflow.approvedByUserId ≠ some args.reviewerUserId ∧
      isIndependentRefundReviewer authority b args.reviewerUserId ∧
      amount = b.workflow.approvedAmount.getD 0 ∧
      ∀ row ∈ rows, row.reference ≠ reference := by
  simp only [externalExecutionChecks, check_bind_eq_ok, require_eq_ok, pure_eq_ok,
    List.all_eq_true, decide_eq_true_eq] at h
  obtain ⟨hactor, hrole, -, -, -, hstate, -, hother, hindependent, -, hamount, hfresh, h⟩ := h
  cases h
  exact ⟨hactor, hrole, hstate, hother, hindependent, hamount, hfresh⟩

/-- What a step can do to a workflow that it changes: it is left in review, in
screening or rejected; it is approved; or it is settled. -/
theorem Change.workflow (h : Change s move id b b') :
    b'.workflow = b.workflow ∨
    (¬ b'.workflow.isSettled ∧
      b'.workflow.state ≠ some .approvedExternalExecutionPending) ∨
    (∃ authority args actor reason amount ok message,
      move = .refundGuestApproved id authority args ∧ s.flights id = none ∧
      refundGuestApprovedOpening authority s.db b (s.commissions id) args =
        .answer ok message b' ∧ ok = true ∧
      approvalChecks authority b args = .ok (actor, reason, amount) ∧
      b'.workflow.state = some .approvedExternalExecutionPending ∧
      b'.workflow.approvedByUserId = some actor ∧ b'.workflow.approvedAmount = some amount) ∨
    (b'.workflow.isSettled ∧ b'.workflow.signed ∧
      ((∃ order receipt now, move = .record id now ∧
        s.flights id = some (.paid order receipt)) ∨
      b.workflow.state = some .approvedExternalExecutionPending)) := by
  have hopen : ∀ {state : WorkflowState}, b'.workflow.state = some state → state ≠ .refunded →
      state ≠ .partiallyRefunded → state ≠ .approvedExternalExecutionPending →
      ¬ b'.workflow.isSettled ∧
        b'.workflow.state ≠ some .approvedExternalExecutionPending := by
    intro state hstate hne hne' hne''
    refine ⟨not_isSettled_of_state hstate hne hne', ?_⟩
    rw [hstate]
    exact fun h => hne'' (Option.some.inj h)
  cases h with
  | kept hb => exact .inl (by rw [hb])
  | edited hb => exact .inl (by rw [hb]; rfl)
  | cancelled _ hcancel =>
    obtain ⟨refund, -, rfl⟩ := cancelBooking_ok hcancel
    rcases Cancellation.workflow_state _ b refund with hstate | hstate | hstate <;>
      exact .inr (.inl (hopen hstate (by decide) (by decide) (by decide)))
  | modified _ hmodify =>
    obtain ⟨-, rfl⟩ := modifyBookingDates_ok hmodify
    exact .inl rfl
  | withdrawn _ hcancel =>
    obtain ⟨-, refund, -, rfl⟩ := cancel_ok hcancel
    exact .inl rfl
  | submitted hsubmit =>
    obtain ⟨-, workflow, hstate, rfl⟩ := submitRefundReview_ok hsubmit
    exact .inr (.inl (hopen hstate (by decide) (by decide) (by decide)))
  | rejected hreject =>
    obtain ⟨-, rfl⟩ := rejectRefundReview_ok hreject
    exact .inr (.inl (hopen rfl (by decide) (by decide) (by decide)))
  | screened _ hanswer =>
    obtain rfl | ⟨-, workflow, hstate, rfl⟩ := refundGuestOpening_answer hanswer
    · exact .inl rfl
    · exact .inr (.inl (hopen hstate (by decide) (by decide) (by decide)))
  | reviewed hidle hmove hanswer =>
    obtain rfl | ⟨actor, reason, amount, hchecks, workflow, hstate,
      rfl | ⟨rfl, rfl⟩ | ⟨-, rfl⟩⟩ := refundGuestApprovedOpening_answer hanswer
    · exact .inl rfl
    · exact .inr (.inl (hopen hstate (by decide) (by decide) (by decide)))
    · exact .inr (.inr (.inl ⟨_, _, actor, reason, amount, _, _, hmove, hidle, hanswer, rfl,
        hchecks, rfl, rfl, rfl⟩))
    · exact .inr (.inl (hopen rfl (by decide) (by decide) (by decide)))
  | unreadable _ hb | unsent _ _ hb | raised _ hb | queued _ hb =>
    subst hb
    exact .inr (.inl (hopen rfl (by decide) (by decide) (by decide)))
  | refunded hmove hflight _ hb =>
    subst hb
    refine .inr (.inr (.inr ⟨?_, rfl, .inl ⟨_, _, _, hmove, hflight⟩⟩))
    simp only [AccommodationBooking.refund, AccommodationBooking.storeWorkflow,
      RefundWorkflow.isSettled]
    split <;> rfl
  | verified _ hchecks hb =>
    subst hb
    obtain ⟨-, -, hstate, -⟩ := externalExecutionChecks_ok hchecks
    refine .inr (.inr (.inr ⟨?_, rfl, .inr hstate⟩))
    simp only [AccommodationBooking.refundExternally, AccommodationBooking.storeWorkflow,
      RefundWorkflow.isSettled]
    split <;> rfl

theorem Change.keeps_settled (inv : Inv s) (hguard : LeavesSettled s move)
    (hb : s.bookings id = some b) (hsettled : b.workflow.isSettled)
    (h : Change s move id b b') : b'.workflow = b.workflow := by
  have hsigned := inv.signed id b hb hsettled
  have hstate : ∀ {state : WorkflowState}, b.workflow.state = some state → state ≠ .refunded →
      state ≠ .partiallyRefunded → b'.workflow = b.workflow := by
    intro state hstate hne hne'
    exact absurd hsettled (not_isSettled_of_state hstate hne hne')
  cases h with
  | kept hb => rw [hb]
  | edited hb => rw [hb]; rfl
  | cancelled hmove _ =>
    subst hmove
    exact absurd hsettled (hguard b hb)
  | modified _ hmodify =>
    obtain ⟨-, rfl⟩ := modifyBookingDates_ok hmodify
    rfl
  | withdrawn _ hcancel =>
    obtain ⟨-, refund, -, rfl⟩ := cancel_ok hcancel
    rfl
  | submitted hsubmit =>
    exact absurd hsettled ((submitRefundReview_ok hsubmit).1 hsigned)
  | rejected hreject => exact hstate (rejectRefundReview_ok hreject).1 (by decide) (by decide)
  | screened _ hanswer =>
    obtain rfl | ⟨hopen, -⟩ := refundGuestOpening_answer hanswer
    · rfl
    · exact absurd ⟨hsigned, hsettled⟩ hopen
  | reviewed _ _ hanswer =>
    obtain rfl | ⟨actor, reason, amount, hchecks, -⟩ := refundGuestApprovedOpening_answer hanswer
    · rfl
    · obtain ⟨-, -, -, hpending, -⟩ := approvalChecks_ok hchecks
      exact hstate hpending (by decide) (by decide)
  | unreadable hmove _ =>
    subst hmove
    exact absurd hsettled (hguard b hb)
  | unsent _ hexecute _ => exact absurd hsettled (refundGuestOpening_execute hexecute).1
  | raised hflight _ => exact absurd hsettled (inv.unsettled id b _ hb hflight).1
  | queued hflight _ => exact absurd hsettled (inv.unsettled id b _ hb hflight).1
  | refunded _ hflight _ _ => exact absurd hsettled (inv.unsettled id b _ hb hflight).1
  | verified _ hchecks _ =>
    obtain ⟨-, -, hpending, -⟩ := externalExecutionChecks_ok hchecks
    exact hstate hpending (by decide) (by decide)

/-! ## What a step does to the records -/

theorem next_approvals (s : Desk) (move : DeskMove) :
    ∀ review ∈ s.approvals, review ∈ (s.next move).approvals := by
  intro review hmem
  cases next_tables s move with
  | same h => rwa [h.approvals]
  | wallet _ _ _ happrovals => rwa [happrovals]
  | settled _ _ _ _ happrovals => rwa [happrovals]
  | approved _ _ _ _ _ _ _ happrovals =>
    rw [happrovals]
    exact List.mem_append_left _ hmem
  | verified _ _ happrovals => rwa [happrovals]

theorem next_verifications (s : Desk) (move : DeskMove) :
    ∀ review ∈ s.verifications, review ∈ (s.next move).verifications := by
  intro review hmem
  cases next_tables s move with
  | same h => rwa [h.verifications]
  | wallet _ _ _ _ hverifications => rwa [hverifications]
  | settled _ _ _ _ _ hverifications => rwa [hverifications]
  | approved _ _ _ hverifications => rwa [hverifications]
  | verified _ _ _ _ _ _ _ hverifications =>
    rw [hverifications]
    exact List.mem_append_left _ hmem

theorem Approved.next {order : RefundOrder} (h : s.Approved id order) (move : DeskMove) :
    (s.next move).Approved id order := by
  intro hsource
  obtain ⟨approval, hmem, hparts⟩ := h hsource
  exact ⟨approval, next_approvals s move approval hmem, hparts⟩

theorem Countersigned.next {refund : VerifiedRefund} (h : s.Countersigned id refund)
    (move : DeskMove) : (s.next move).Countersigned id refund := by
  obtain ⟨approval, happroval, verification, hverification, hparts⟩ := h
  exact ⟨approval, next_approvals s move approval happroval, verification,
    next_verifications s move verification hverification, hparts⟩

/-- A review that lets a refund go on is recorded. -/
theorem approval_recorded {authority : Authority} {args : ApprovalArgs} {actor : UserId}
    {reason : String} {amount : Cents} (hb : s.bookings id = some b) (hidle : s.flights id = none)
    (happroves : approves
      (refundGuestApprovedOpening authority s.db b (s.commissions id) args))
    (hchecks : approvalChecks authority b args = .ok (actor, reason, amount)) :
    (⟨id, actor, amount, b, authority⟩ : Review) ∈
      (s.next (.refundGuestApproved id authority args)).approvals := by
  obtain ⟨hactor, -, -, -, -, rfl⟩ := approvalChecks_ok hchecks
  simp [next, locked, withBooking, hb, hidle, refundGuestApproved, happroves, hactor]

theorem approvals_next (separated : Separated s) (move : DeskMove) :
    ∀ review ∈ (s.next move).approvals, review.Independent := by
  intro review hmem
  cases next_tables s move with
  | same h => exact separated.approvals review (by rwa [h.approvals] at hmem)
  | wallet _ _ _ h => exact separated.approvals review (by rwa [h] at hmem)
  | settled _ _ _ _ h => exact separated.approvals review (by rwa [h] at hmem)
  | approved _ _ _ _ _ _ hchecks h =>
    rw [h, List.mem_append, List.mem_singleton] at hmem
    obtain hmem | rfl := hmem
    · exact separated.approvals review hmem
    · obtain ⟨hactor, hrole, -, -, hindependent, -⟩ := approvalChecks_ok hchecks
      exact .of_check hactor hrole hindependent
  | verified _ _ h => exact separated.approvals review (by rwa [h] at hmem)

theorem verifications_next (separated : Separated s) (move : DeskMove) :
    ∀ review ∈ (s.next move).verifications, review.Independent := by
  intro review hmem
  cases next_tables s move with
  | same h => exact separated.verifications review (by rwa [h.verifications] at hmem)
  | wallet _ _ _ _ h => exact separated.verifications review (by rwa [h] at hmem)
  | settled _ _ _ _ _ h => exact separated.verifications review (by rwa [h] at hmem)
  | approved _ _ _ h => exact separated.verifications review (by rwa [h] at hmem)
  | verified _ _ _ _ _ hchecks _ h =>
    rw [h, List.mem_append, List.mem_singleton] at hmem
    obtain hmem | rfl := hmem
    · exact separated.verifications review hmem
    · obtain ⟨hactor, hrole, -, -, hindependent, -⟩ := externalExecutionChecks_ok hchecks
      exact .of_check hactor hrole hindependent

theorem underWay_next (separated : Separated s) {flight : RefundFlight}
    (h : (s.next move).flights id = some flight) : (s.next move).Approved id flight.order := by
  cases next_flights h with
  | kept h => exact (separated.underWay id flight h).next move
  | sent hdue hflight =>
    subst hflight
    exact (separated.underWay id _ hdue).next move
  | automatic _ _ _ hexecute hflight =>
    subst hflight
    intro hsource
    rw [RefundFlight.order, (refundGuestOpening_execute hexecute).2.2] at hsource
    cases hsource
  | approved hb _ hidle hmove hexecute hflight =>
    subst hmove hflight
    intro _
    obtain ⟨actor, reason, hchecks, -, hactor⟩ := refundGuestApprovedOpening_execute hexecute
    refine ⟨_, approval_recorded hb hidle (by rw [hexecute]; rfl) hchecks, rfl, hactor, rfl⟩

theorem executed_next (separated : Separated s) (move : DeskMove) :
    ∀ row ∈ (s.next move).settled, (s.next move).Approved row.bookingId row.order := by
  intro row hmem
  cases next_tables s move with
  | same h => exact (separated.executed row (by rwa [h.settled] at hmem)).next move
  | wallet _ _ h => exact (separated.executed row (by rwa [h] at hmem)).next move
  | settled _ _ hflight h =>
    rw [h, List.mem_append, List.mem_singleton] at hmem
    obtain hmem | rfl := hmem
    · exact (separated.executed row hmem).next move
    · exact (separated.underWay _ _ hflight).next move
  | approved _ _ h => exact (separated.executed row (by rwa [h] at hmem)).next move
  | verified _ h => exact (separated.executed row (by rwa [h] at hmem)).next move

/-- The rows of a verification: its details stand in the last one. -/
theorem mem_verificationRows {args : ExternalExecution} {amount : Cents} {reference : String}
    {row : VerificationRow} {refund : VerifiedRefund}
    (hmem : row ∈ verificationRows b args amount reference) (hdetails : row.details = some refund) :
    row.bookingId = b.id ∧
      refund = ⟨b.workflow.approvedByUserId, args.reviewerUserId, amount, reference⟩ := by
  simp only [verificationRows, List.mem_append, List.mem_singleton] at hmem
  obtain hmem | rfl := hmem
  · split at hmem
    · obtain rfl := List.mem_singleton.mp hmem
      cases hdetails
    · cases hmem
  · exact ⟨rfl, (Option.some.inj hdetails).symm⟩

theorem verified_next (inv : Inv s) (move : DeskMove) :
    ∀ row ∈ (s.next move).rows, ∀ refund, row.details = some refund →
      (s.next move).Countersigned row.bookingId refund := by
  intro row hmem refund hdetails
  have hold : row ∈ s.rows → (s.next move).Countersigned row.bookingId refund :=
    fun h => (inv.separated.verified row h refund hdetails).next move
  cases next_tables s move with
  | same h => exact hold (by rwa [h.rows] at hmem)
  | wallet _ h => exact hold (by rwa [h] at hmem)
  | settled _ h => exact hold (by rwa [h] at hmem)
  | approved _ h => exact hold (by rwa [h] at hmem)
  | verified _ _ happrovals _ hb hchecks hrows hverifications =>
    rw [hrows, List.mem_append] at hmem
    obtain hmem | hmem := hmem
    · exact hold hmem
    · obtain ⟨hid, rfl⟩ := mem_verificationRows hmem hdetails
      obtain ⟨-, -, hstate, hother, -, hamount, -⟩ := externalExecutionChecks_ok hchecks
      obtain ⟨approval, happroval, hbooking, hactor, happroved⟩ := inv.granted _ _ hb hstate
      rw [happroved, Option.getD_some] at hamount
      rw [hid, inv.keyed _ _ hb]
      refine ⟨approval, by rwa [happrovals], _,
        by rw [hverifications]; exact List.mem_append_right _ (List.mem_singleton.mpr rfl),
        hbooking, rfl, hactor, rfl, ?_, hamount, rfl⟩
      rintro heq
      exact hother (by rw [hactor, heq])

theorem filterMap_verificationRows (args : ExternalExecution) (amount : Cents)
    (reference : String) :
    (verificationRows b args amount reference).filterMap
      (fun row => row.details.map VerifiedRefund.externalProviderReference) = [reference] := by
  simp only [verificationRows]
  split
  · rfl
  · rfl

theorem references_next (separated : Separated s) (move : DeskMove) :
    (s.next move).references.Nodup := by
  unfold references
  cases next_tables s move with
  | same h => rw [h.rows]; exact separated.references
  | wallet _ h => rw [h]; exact separated.references
  | settled _ h => rw [h]; exact separated.references
  | approved _ h => rw [h]; exact separated.references
  | verified _ _ _ _ _ hchecks hrows =>
    rename_i reference _
    obtain ⟨-, -, -, -, -, -, hfresh⟩ := externalExecutionChecks_ok hchecks
    rw [hrows, List.filterMap_append, filterMap_verificationRows]
    refine List.Nodup.append separated.references (List.nodup_singleton _) ?_
    rw [List.disjoint_singleton]
    intro hmem
    obtain ⟨row, hrow, hreference⟩ := List.mem_filterMap.mp hmem
    refine hfresh row hrow ?_
    rw [VerificationRow.reference, hreference]
    rfl

/-! ## Runs -/

theorem signed_next (inv : Inv s) (hb' : (s.next move).bookings id = some b')
    (hsettled : b'.workflow.isSettled) : b'.workflow.signed := by
  obtain ⟨b, hb, hchange⟩ := change_of_next hb'
  obtain h | ⟨hopen, -⟩ | ⟨_, _, _, _, _, _, _, _, _, _, _, _, hstate, _⟩ | ⟨-, hsigned, -⟩ :=
    hchange.workflow
  · rw [h] at hsettled ⊢
    exact inv.signed id b hb hsettled
  · exact absurd hsettled hopen
  · exact absurd hsettled (not_isSettled_of_state hstate (by decide) (by decide))
  · exact hsigned

theorem unsettled_next (inv : Inv s) {flight : RefundFlight}
    (hb' : (s.next move).bookings id = some b') (hflight : (s.next move).flights id = some flight) :
    ¬ b'.workflow.isSettled ∧
      b'.workflow.state ≠ some .approvedExternalExecutionPending := by
  obtain ⟨b, hb, hchange⟩ := change_of_next hb'
  -- A refund that was under way before the move.
  have hheld : ∀ current, s.flights id = some current → ¬ b'.workflow.isSettled ∧
      b'.workflow.state ≠ some .approvedExternalExecutionPending := by
    intro current hcurrent
    have hbefore := inv.unsettled id b current hb hcurrent
    obtain h | h | ⟨_, _, _, _, _, _, _, _, hidle, _⟩ |
      ⟨-, -, ⟨order, receipt, now, rfl, hpaid⟩ | hexternal⟩ := hchange.workflow
    · rwa [h]
    · exact h
    · rw [hidle] at hcurrent
      cases hcurrent
    · rw [record_flights hb hpaid] at hflight
      cases hflight
    · exact absurd hexternal hbefore.2
  cases next_flights hflight with
  | kept h => exact hheld _ h
  | sent h _ => exact hheld _ h
  | automatic hrow hsame _ hexecute _ =>
    rw [hsame, hrow] at hb'
    cases hb'
    exact ⟨(refundGuestOpening_execute hexecute).1, (refundGuestOpening_execute hexecute).2.1⟩
  | approved hrow hsame _ _ hexecute _ =>
    rw [hsame, hrow] at hb'
    cases hb'
    obtain ⟨actor, reason, hchecks, -⟩ := refundGuestApprovedOpening_execute hexecute
    obtain ⟨-, -, -, hstate, -⟩ := approvalChecks_ok hchecks
    refine ⟨not_isSettled_of_state hstate (by decide) (by decide), ?_⟩
    rw [hstate]
    decide

theorem granted_next (inv : Inv s) (hb' : (s.next move).bookings id = some b')
    (hstate : b'.workflow.state = some .approvedExternalExecutionPending) :
    ∃ approval ∈ (s.next move).approvals, approval.bookingId = id ∧
      b'.workflow.approvedByUserId = some approval.reviewer ∧
      b'.workflow.approvedAmount = some approval.amount := by
  obtain ⟨b, hb, hchange⟩ := change_of_next hb'
  obtain h | ⟨-, hopen⟩ |
    ⟨authority, args, actor, reason, amount, ok, message, rfl, hidle, hanswer, hok, hchecks, -,
      hactor, hamount⟩ | ⟨hsettled, -⟩ := hchange.workflow
  · rw [h] at hstate ⊢
    obtain ⟨approval, hmem, hparts⟩ := inv.granted id b hb hstate
    exact ⟨approval, next_approvals s move approval hmem, hparts⟩
  · exact absurd hstate hopen
  · exact ⟨_, approval_recorded hb hidle (by rw [hanswer]; exact hok) hchecks, rfl, hactor, hamount⟩
  · exact absurd hsettled (not_isSettled_of_state hstate (by decide) (by decide))

theorem Inv.next (inv : Inv s) (move : DeskMove) : Inv (s.next move) where
  keyed := inv.keyed.next move
  separated :=
    { approvals := approvals_next inv.separated move
      verifications := verifications_next inv.separated move
      underWay := fun _ _ h => underWay_next inv.separated h
      executed := executed_next inv.separated move
      verified := verified_next inv move
      references := references_next inv.separated move }
  signed := fun _ _ => signed_next inv
  unsettled := fun _ _ _ => unsettled_next inv
  granted := fun _ _ => granted_next inv

theorem run_inv {start : Desk} {moves : List DeskMove} (fresh : Fresh start)
    (run : Run Step start moves s) : Inv s := by
  refine run.invariant Inv ?_ fresh.inv
  rintro s move _ inv rfl
  exact inv.next move

/-- In every run of the desk the duties are separate; and in every run that goes on
without cancelling a refunded case or asking for its refund with an amount that raises, a
refunded case stays as it is. -/
theorem duties_separated {start : Desk} {moves later : List DeskMove} (fresh : Fresh start)
    (run : Run Step start moves s) (onward : Run (Guarded LeavesSettled Step) s later t) :
    Separated s ∧ ∀ id booking, s.bookings id = some booking → booking.workflow.isSettled →
      ∃ booking', t.bookings id = some booking' ∧ booking'.workflow = booking.workflow := by
  have hinv := run_inv fresh run
  refine ⟨hinv.separated, ?_⟩
  intro id booking hb hsettled
  have hkept : Inv t ∧ ∃ booking', t.bookings id = some booking' ∧
      booking'.workflow = booking.workflow := by
    refine onward.invariant (fun t => Inv t ∧ ∃ booking', t.bookings id = some booking' ∧
      booking'.workflow = booking.workflow) ?_ ⟨hinv, booking, hb, rfl⟩
    rintro t move _ ⟨inv, b, hrow, hsame⟩ ⟨hguard, rfl⟩
    obtain ⟨b', hrow', hchange⟩ : ∃ b', (t.next move).bookings id = some b' ∧
        Change t move id b b' := next_change hrow
    refine ⟨inv.next move, b', hrow', ?_⟩
    rw [hchange.keeps_settled inv hguard hrow (by rwa [hsame]), hsame]
  exact hkept.2

/-- The refund by the provider, and then a request for a second one, which changes
nothing. -/
theorem duties_separated_providerRefund :
    (providerRefund.foldl next oneStay).references = ["MM-1"] ∧
      Separated (providerRefund.foldl next oneStay) ∧
      ∃ booking', ((providerRefund.foldl next oneStay).next
        (.submitRefundReview 5 (loggedIn 20) ⟨100, some "late again", 20⟩)).bookings 5 =
          some booking' ∧ booking'.workflow.isSettled := by
  have hrow : ((providerRefund.foldl next oneStay).bookings 5).any
      (fun booking => booking.workflow.isSettled) = true := by
    decide +kernel
  have hreferences : (providerRefund.foldl next oneStay).references = ["MM-1"] := by
    decide +kernel
  have hrun := providerRefund_run.of_guarded
  generalize providerRefund.foldl next oneStay = s at hrow hreferences hrun ⊢
  have onward : Run (Guarded LeavesSettled Step) s
      [.submitRefundReview 5 (loggedIn 20) ⟨100, some "late again", 20⟩]
      (s.next (.submitRefundReview 5 (loggedIn 20) ⟨100, some "late again", 20⟩)) :=
    .cons ⟨trivial, rfl⟩ (.nil _)
  have hduties := duties_separated oneStay_fresh hrun onward
  cases hb : s.bookings 5 with
  | none =>
    rw [hb] at hrow
    cases hrow
  | some booking =>
    rw [hb] at hrow
    obtain ⟨booking', hb', hsame⟩ := hduties.2 5 booking hb hrow
    exact ⟨hreferences, hduties.1, booking', hb', by rwa [hsame]⟩

/-- The guest cancels after the provider's refund; the case is screened again. -/
theorem refunded_case_reopened :
    Fresh oneStay ∧
      Run Step oneStay providerRefund (providerRefund.foldl next oneStay) ∧
      ((providerRefund.foldl next oneStay).bookings 5).map (fun b => b.workflow.state) =
        some (some .partiallyRefunded) ∧
      (((providerRefund.foldl next oneStay).next (.cancelBooking 5
        { cancelledByUserId := some 7, quote := .ok 200 })).bookings 5).map
          (fun b => b.workflow.state) = some (some .screening) :=
  ⟨oneStay_fresh, providerRefund_run.of_guarded, by decide +kernel, by decide +kernel⟩

end Desk

end Afcon360.Accommodation
