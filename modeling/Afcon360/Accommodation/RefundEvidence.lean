import Afcon360.Accommodation.RefundDesk

/-!
# Recorded refunds

A booking that says it was refunded is believed: a later refund is then answered with
"Already refunded" or held back by screening. `Truthful` asks that such a booking has
been refunded, by a completed wallet transaction or by a verified refund of its
provider, of just the amount it says.

A change of dates that lowers the total writes the difference into the column the refunds
use, and a booking that its event cancels writes the refund of its quote there; nothing is
paid. In runs without the one and the other the records are true.
-/

namespace Afcon360.Accommodation

open Foundation Wallet

/-- What is read as a refund that has been made. -/
def AccommodationBooking.SaysRefunded (booking : AccommodationBooking) : Prop :=
  booking.refundRecorded ∨ booking.status = .refunded ∨
    (booking.paymentStatus = .refunded ∨ booking.paymentStatus = .partialRefund) ∨
    booking.workflow.isSettled

namespace Desk

/-- A completed wallet transaction or a verified provider refund, of this booking and
this amount. -/
def Refunded (s : Desk) (id : ℕ) (amount : Cents) : Prop :=
  (∃ transactionId row, s.db.getByClientRequestId (refundKey id) = some (transactionId, row) ∧
    row.status = .completed ∧ row.amount.toDecimal = amount.toDecimal ∧
    row.metadata.lookup "booking_id" = some (toString id)) ∨
  ∃ row ∈ s.rows, row.bookingId = id ∧ row.details.map VerifiedRefund.amount = some amount

/-- Bookings say they were refunded only if they were. -/
def Truthful (s : Desk) : Prop :=
  ∀ id booking, s.bookings id = some booking → booking.SaysRefunded →
    s.Refunded id booking.refundAmount

/-- A change of dates that goes through does not lower the total, and a booking is not
cancelled through its own method while its quote has a refund. -/
def WritesNoRefund (s : Desk) : DeskMove → Prop
  | .modifyBookingDates id change =>
    ∀ booking, s.bookings id = some booking → change.check booking = .ok () →
      booking.totalAmount ≤ change.newTotal
  | .cancel id _ _ quote _ =>
    ∀ booking refund, s.bookings id = some booking → booking.status.isCancellable →
      quote = .ok refund → refund ≤ 0
  | _ => True

variable {s t : Desk} {move : DeskMove} {id : ℕ} {b b' : AccommodationBooking} {amount : Cents}

variable {authority : Authority} {commission : Option BookingCommission} {db : Db}

/-! ## Evidence stays -/

theorem Refunded.next (h : s.Refunded id amount) (move : DeskMove) :
    (s.next move).Refunded id amount := by
  have hstays : ∀ {t : Desk}, (t.db = s.db ∨ ∃ env call, t.db = WalletCall.effect env s.db call) →
      (∀ row ∈ s.rows, row ∈ t.rows) → t.Refunded id amount := by
    intro t hdb hrows
    obtain ⟨transactionId, row, hrow, hstatus, hamount, hbooking⟩ | ⟨row, hrow, hdetails⟩ := h
    · refine .inl ⟨transactionId, row, ?_, hstatus, hamount, hbooking⟩
      obtain hsame | ⟨env, call, heffect⟩ := hdb
      · rw [hsame, hrow]
      · rw [heffect]
        exact run_keeps_completed (.single (a := (env, call)) rfl) hrow hstatus
    · exact .inr ⟨row, hrows row hrow, hdetails⟩
  cases next_tables s move with
  | same h => exact hstays (.inl h.db) (by rw [h.rows]; exact fun _ hrow => hrow)
  | wallet hdb hrows => exact hstays (.inr ⟨_, _, hdb⟩) (by rw [hrows]; exact fun _ hrow => hrow)
  | settled hdb hrows => exact hstays (.inl hdb) (by rw [hrows]; exact fun _ hrow => hrow)
  | approved hdb hrows => exact hstays (.inl hdb) (by rw [hrows]; exact fun _ hrow => hrow)
  | verified hdb _ _ _ _ _ hrows =>
    refine hstays (.inl hdb) ?_
    intro row hrow
    rw [hrows]
    exact List.mem_append_left _ hrow

/-! ## What the operations say -/

/-- The booking after a step says nothing about refunds that it did not say before. -/
structure SaysNoMore (b b' : AccommodationBooking) : Prop where
  refundAmount : b'.refundAmount = b.refundAmount
  before : b'.SaysRefunded → b.SaysRefunded

/-- The refund columns are unchanged, no status says a refund that did not, and the
workflow says one only if it did. -/
theorem SaysNoMore.of_columns (hamount : b'.refundAmount = b.refundAmount)
    (hat : b'.refundedAt = b.refundedAt) (hstatus : b'.status = .refunded → b.status = .refunded)
    (hpayment : b'.paymentStatus = .refunded ∨ b'.paymentStatus = .partialRefund →
      b.paymentStatus = .refunded ∨ b.paymentStatus = .partialRefund)
    (hworkflow : b'.workflow.isSettled → b.workflow.isSettled) : SaysNoMore b b' := by
  refine ⟨hamount, ?_⟩
  rintro (h | h | h | h)
  · left
    simpa only [AccommodationBooking.refundRecorded, hamount, hat] using h
  · exact .inr (.inl (hstatus h))
  · exact .inr (.inr (.inl (hpayment h)))
  · exact .inr (.inr (.inr (hworkflow h)))

theorem SaysNoMore.refl (b : AccommodationBooking) : SaysNoMore b b := ⟨rfl, id⟩

theorem SaysNoMore.storeWorkflow {workflow : RefundWorkflow}
    (h : workflow.isSettled → b.workflow.isSettled) :
    SaysNoMore b (b.storeWorkflow workflow) :=
  .of_columns rfl rfl (fun h => h) (fun h => h) h

theorem edited_saysNoMore (b columns : AccommodationBooking) : SaysNoMore b (edited b columns) := by
  refine .of_columns rfl rfl ?_ ?_ (fun h => h)
  · intro h
    simp only [edited] at h
    split at h
    · exact h
    · contradiction
  · intro h
    simp only [edited] at h
    split at h
    · exact h
    · contradiction

theorem cancelBooking_ok {args : Cancellation} (h : cancelBooking b args = .ok b') :
    ∃ refund, args.quote = .ok refund ∧
      b' = { b with
        status := .cancelled
        cancelledByUserId := args.cancelledByUserId
        cancellationReason := args.reason
        policy := { b.policy with outcomeRefund := some refund, outcomeSigned := true }
        workflow := args.workflow b refund } := by
  simp only [cancelBooking, check_bind_eq_ok] at h
  obtain ⟨-, -, h⟩ := h
  obtain ⟨refund, hquote, h⟩ := bind_eq_ok.mp h
  simp only [check_bind_eq_ok, pure_eq_ok] at h
  exact ⟨refund, hquote, h.2.2.symm⟩

/-- A cancellation starts a workflow in which nothing has been refunded or approved. -/
theorem Cancellation.workflow_state (args : Cancellation) (b : AccommodationBooking) (refund : ℚ) :
    (args.workflow b refund).state = some .pendingHumanReview ∨
      (args.workflow b refund).state = some .screening ∨
      (args.workflow b refund).state = some .noRefundDue := by
  simp only [Cancellation.workflow]
  split
  · split
    · exact .inl rfl
    · exact .inr (.inl rfl)
  · exact .inr (.inr rfl)

theorem cancel_ok {userId : Option UserId} {reason : Option String} {quote : Except String ℚ}
    {now : Timestamp} (h : b.cancel userId reason quote now = .ok b') :
    b.status.isCancellable ∧ ∃ refund, quote = .ok refund ∧
      b' = { b with
        status := .cancelled
        cancelledByUserId := userId
        cancellationReason := reason
        refundAmount := if 0 < refund then Cents.ofDecimal refund else b.refundAmount
        paymentStatus := if 0 < refund then .refunded else b.paymentStatus
        refundedAt := if 0 < refund then some now else b.refundedAt } := by
  simp only [AccommodationBooking.cancel, check_bind_eq_ok, require_eq_ok] at h
  obtain ⟨hstatus, h⟩ := h
  obtain ⟨refund, hquote, h⟩ := bind_eq_ok.mp h
  simp only [check_bind_eq_ok, pure_eq_ok] at h
  exact ⟨hstatus, refund, hquote, h.2.symm⟩

theorem modifyBookingDates_ok {change : PriceChange} (h : modifyBookingDates b change = .ok b') :
    change.check b = .ok () ∧
      b' = { b with
        totalAmount := change.newTotal
        refundAmount :=
          if 0 < change.refundAmount b then change.refundAmount b else b.refundAmount } := by
  simp only [modifyBookingDates, check_bind_eq_ok, pure_eq_ok] at h
  exact ⟨h.1, h.2.symm⟩

theorem submitRefundReview_ok {request : ReviewRequest}
    (h : submitRefundReview authority b request = .ok b') :
    (b.workflow.signed → ¬ b.workflow.isSettled) ∧ ∃ workflow : RefundWorkflow,
      workflow.state = some .pendingHumanReview ∧ b' = b.storeWorkflow workflow := by
  simp only [submitRefundReview, check_bind_eq_ok, require_eq_ok, pure_eq_ok] at h
  obtain ⟨-, -, -, -, -, hopen, h⟩ := h
  refine ⟨fun hsigned hsettled => hopen ⟨hsigned, .inl hsettled⟩, _, ?_, h.symm⟩
  rfl

theorem rejectRefundReview_ok {reviewer : UserId} {reason : Option String}
    (h : rejectRefundReview authority b reviewer reason = .ok b') :
    b.workflow.state = some .pendingHumanReview ∧
      b' = b.storeWorkflow { b.workflow with state := some .rejected } := by
  simp only [rejectRefundReview, check_bind_eq_ok, require_eq_ok, pure_eq_ok] at h
  obtain ⟨-, -, -, -, hstate, -, h⟩ := h
  exact ⟨hstate, h.symm⟩

/-- The answers of an automatic refund: nothing is written, or the case is queued. -/
theorem refundGuestOpening_answer {refund : ℚ} {ok : Bool} {message : String}
    (h : refundGuestOpening authority db b commission refund = .answer ok message b') :
    b' = b ∨ (¬ (b.workflow.signed ∧ b.workflow.isSettled) ∧ ∃ workflow : RefundWorkflow,
      workflow.state = some .pendingHumanReview ∧ b' = b.storeWorkflow workflow) := by
  simp only [refundGuestOpening] at h
  split at h
  · cases h
    exact .inl rfl
  · split at h
    · cases h
      exact .inl rfl
    · split at h
      · cases h
        exact .inl rfl
      · split at h
        · rename_i hunsigned
          cases h
          exact .inr ⟨fun hboth => hunsigned hboth.1, _, rfl, rfl⟩
        · split at h
          · cases h
            exact .inl rfl
          · rename_i hopen
            split at h
            · cases h
              exact .inl rfl
            · split at h
              · cases h
                refine .inr ⟨?_, _, rfl, rfl⟩
                rintro ⟨-, hsettled⟩
                exact hopen (by simpa [RefundWorkflow.isSettled] using hsettled)
              · cases h

/-- An automatic refund is executed only on a case that is not settled. -/
theorem refundGuestOpening_execute {refund : ℚ} {order : RefundOrder}
    (h : refundGuestOpening authority db b commission refund = .execute order) :
    ¬ b.workflow.isSettled ∧ b.workflow.state ≠ some .approvedExternalExecutionPending ∧
      order.source = .bookingTimePolicy := by
  simp only [refundGuestOpening] at h
  split at h
  · cases h
  · split at h
    · cases h
    · split at h
      · cases h
      · split at h
        · cases h
        · split at h
          · cases h
          · rename_i hopen
            split at h
            · cases h
            · rename_i hwaiting
              split at h
              · cases h
              · cases h
                refine ⟨fun hsettled => hopen (by simpa [RefundWorkflow.isSettled] using hsettled),
                  fun hexternal => hwaiting (.inr (.inl hexternal)), rfl⟩

/-- The answers of a review: nothing is written; the case is flagged and stays in
review; or it is approved. -/
theorem refundGuestApprovedOpening_answer {args : ApprovalArgs} {ok : Bool} {message : String}
    (h : refundGuestApprovedOpening authority db b commission args = .answer ok message b') :
    b' = b ∨ ∃ actor reason amount,
      approvalChecks authority b args = .ok (actor, reason, amount) ∧
      ∃ workflow : RefundWorkflow, workflow.state = some .pendingHumanReview ∧
        (b' = b.storeWorkflow workflow ∨
          ok = true ∧
            b' = b.storeWorkflow
              (workflow.approve .approvedExternalExecutionPending amount actor reason) ∨
          ok = true ∧
            b' = b.storeWorkflow
              (workflow.approve .approvedRecoveryRequired amount actor reason)) := by
  simp only [refundGuestApprovedOpening] at h
  split at h
  · cases h
    exact .inl rfl
  · rename_i actor reason amount hchecks
    obtain ⟨-, -, -, hstate, -⟩ := approvalChecks_ok hchecks
    generalize integrityFlags.filter (· ∈ refundScreeningFlags db b amount commission) =
      discovered at h
    have hflagged : ∀ workflow, workflow =
        (if discovered = [] then b.workflow else b.workflow.flag discovered) →
        workflow.state = some .pendingHumanReview := by
      rintro workflow rfl
      split
      · exact hstate
      · exact hstate
    generalize hworkflow : (if discovered = [] then b.workflow else b.workflow.flag discovered) =
      workflow at h
    have hpending := hflagged workflow hworkflow.symm
    split at h
    · cases h
      exact .inr ⟨actor, reason, amount, hchecks, workflow, hpending, .inl rfl⟩
    · split at h
      · cases h
        exact .inl rfl
      · split at h
        · cases h
          exact .inr ⟨actor, reason, amount, hchecks, workflow, hpending, .inr (.inl ⟨rfl, rfl⟩)⟩
        · split at h
          · cases h
            exact .inr ⟨actor, reason, amount, hchecks, workflow, hpending,
              .inr (.inr ⟨rfl, rfl⟩)⟩
          · cases h

theorem not_isSettled_of_state {workflow : RefundWorkflow} {state : WorkflowState}
    (h : workflow.state = some state) (hne : state ≠ .refunded)
    (hne' : state ≠ .partiallyRefunded) : ¬ workflow.isSettled := by
  simp [RefundWorkflow.isSettled, h, hne, hne']

/-- What a step makes a booking say: nothing new, the amount of a change of dates or of a
quote, or a refund with its evidence. -/
theorem Change.saysNoMore (h : Change s move id b b') :
    SaysNoMore b b' ∨
    (∃ change, move = .modifyBookingDates id change ∧ modifyBookingDates b change = .ok b') ∨
    (∃ userId reason quote now, move = .cancel id userId reason quote now ∧
      b.cancel userId reason quote now = .ok b') ∨
    (∃ order receipt now, s.flights id = some (.paid order receipt) ∧
      refundMismatch b order receipt
        ((s.db.getByClientRequestId (refundKey b.id)).map Prod.snd) = none ∧
      b' = b.refund order now) ∨
    (∃ authority args now amount reference,
      move = .recordExternalRefundExecution id authority args now ∧
      externalExecutionChecks authority s.rows b args = .ok (amount, reference) ∧
      b' = b.refundExternally amount now) := by
  have hstored : ∀ {state : WorkflowState} {workflow : RefundWorkflow},
      workflow.state = some state → state ≠ .refunded → state ≠ .partiallyRefunded →
      SaysNoMore b (b.storeWorkflow workflow) := by
    intro state workflow hstate hne hne'
    exact .storeWorkflow (fun h => absurd h (not_isSettled_of_state hstate hne hne'))
  cases h with
  | kept hb => exact .inl (hb ▸ .refl b)
  | edited hb => exact .inl (hb ▸ edited_saysNoMore b _)
  | cancelled _ hcancel =>
    obtain ⟨refund, -, rfl⟩ := cancelBooking_ok hcancel
    refine .inl (.of_columns rfl rfl (fun h => by cases h) (fun h => h) ?_)
    intro hsettled
    rcases Cancellation.workflow_state _ b refund with hstate | hstate | hstate <;>
      exact absurd hsettled (not_isSettled_of_state hstate (by decide) (by decide))
  | modified hmove hmodify => exact .inr (.inl ⟨_, hmove, hmodify⟩)
  | withdrawn hmove hcancel => exact .inr (.inr (.inl ⟨_, _, _, _, hmove, hcancel⟩))
  | submitted hsubmit =>
    obtain ⟨-, workflow, hstate, rfl⟩ := submitRefundReview_ok hsubmit
    exact .inl (hstored hstate (by decide) (by decide))
  | rejected hreject =>
    obtain ⟨-, rfl⟩ := rejectRefundReview_ok hreject
    exact .inl (hstored rfl (by decide) (by decide))
  | screened _ hanswer =>
    obtain rfl | ⟨-, workflow, hstate, rfl⟩ := refundGuestOpening_answer hanswer
    · exact .inl (.refl b')
    · exact .inl (hstored hstate (by decide) (by decide))
  | reviewed _ _ hanswer =>
    obtain rfl | ⟨actor, reason, amount, -, workflow, hstate, rfl | ⟨-, rfl⟩ | ⟨-, rfl⟩⟩ :=
      refundGuestApprovedOpening_answer hanswer
    · exact .inl (.refl b')
    · exact .inl (hstored hstate (by decide) (by decide))
    · exact .inl (hstored rfl (by decide) (by decide))
    · exact .inl (hstored rfl (by decide) (by decide))
  | unreadable _ hb => exact .inl (hb ▸ hstored rfl (by decide) (by decide))
  | unsent _ _ hb => exact .inl (hb ▸ hstored rfl (by decide) (by decide))
  | raised _ hb => exact .inl (hb ▸ hstored rfl (by decide) (by decide))
  | queued _ hb => exact .inl (hb ▸ hstored rfl (by decide) (by decide))
  | refunded _ hflight hmatches hb =>
      exact .inr (.inr (.inr (.inl ⟨_, _, _, hflight, hmatches, hb⟩)))
  | verified hmove hchecks hb =>
    exact .inr (.inr (.inr (.inr ⟨_, _, _, _, _, hmove, hchecks, hb⟩)))

/-! ## Runs -/

/-- A change of dates that does not lower the total leaves the refund alone. -/
theorem modified_saysNoMore {change : PriceChange} (h : modifyBookingDates b change = .ok b')
    (hguard : change.check b = .ok () → b.totalAmount ≤ change.newTotal) : SaysNoMore b b' := by
  obtain ⟨hcheck, rfl⟩ := modifyBookingDates_ok h
  have hle := hguard hcheck
  have hzero : change.refundAmount b = 0 := by
    rw [PriceChange.refundAmount, if_neg]
    exact not_lt.mpr (sub_nonneg.mpr hle)
  refine .of_columns ?_ rfl (fun h => h) (fun h => h) (fun h => h)
  simp [hzero]

/-- So does a booking's own cancellation when its quote has no refund. -/
theorem withdrawn_saysNoMore {userId : Option UserId} {reason : Option String}
    {quote : Except String ℚ} {now : Timestamp}
    (h : b.cancel userId reason quote now = .ok b')
    (hguard : b.status.isCancellable → ∀ refund, quote = .ok refund → refund ≤ 0) :
    SaysNoMore b b' := by
  obtain ⟨hstatus, refund, hquote, rfl⟩ := cancel_ok h
  have hnone : ¬ 0 < refund := not_lt.mpr (hguard hstatus refund hquote)
  simp only [if_neg hnone]
  exact .of_columns rfl rfl (fun h => by cases h) (fun h => h) (fun h => h)

/-- A wallet row that matches is the evidence of the refund. -/
theorem refunded_of_matches {order : RefundOrder} {receipt : TransferReceipt} (hid : b.id = id)
    (h : refundMismatch b order receipt
      ((s.db.getByClientRequestId (refundKey b.id)).map Prod.snd) = none) :
    s.Refunded id order.amount := by
  subst hid
  cases hrow : s.db.getByClientRequestId (refundKey b.id) with
  | none => simp [hrow, refundMismatch] at h
  | some found =>
    obtain ⟨transactionId, row⟩ := found
    simp only [hrow, Option.map_some, refundMismatch] at h
    repeat' split at h
    all_goals try cases h
    rename_i hstatus hamount _ _ hbooking _
    exact .inl ⟨transactionId, row, hrow, not_not.mp hstatus, not_not.mp hamount,
      not_not.mp hbooking⟩

/-- The row of a verification is the evidence of the refund. -/
theorem refunded_of_verified {args : ExternalExecution} {now : Timestamp}
    {reference : String} (hid : b.id = id) (hb : s.bookings id = some b)
    (hchecks : externalExecutionChecks authority s.rows b args = .ok (amount, reference)) :
    (s.next (.recordExternalRefundExecution id authority args now)).Refunded id amount := by
  refine .inr ⟨⟨b.id, some ⟨b.workflow.approvedByUserId, args.reviewerUserId, amount, reference⟩⟩,
    ?_, hid, rfl⟩
  simp [next, withBooking, hb, recordExternal, hchecks, verificationRows]

theorem Change.id_eq (h : Change s move id b b') : b'.id = b.id := by
  cases h with
  | kept hb | edited hb | unreadable _ hb | unsent _ _ hb | raised _ hb | queued _ hb
  | refunded _ _ _ hb | verified _ _ hb =>
    subst hb
    rfl
  | cancelled _ h =>
    obtain ⟨refund, -, rfl⟩ := cancelBooking_ok h
    rfl
  | modified _ h =>
    obtain ⟨-, rfl⟩ := modifyBookingDates_ok h
    rfl
  | withdrawn _ h =>
    obtain ⟨-, refund, -, rfl⟩ := cancel_ok h
    rfl
  | submitted h =>
    obtain ⟨-, workflow, -, rfl⟩ := submitRefundReview_ok h
    rfl
  | rejected h =>
    obtain ⟨-, rfl⟩ := rejectRefundReview_ok h
    rfl
  | screened _ h =>
    obtain rfl | ⟨-, workflow, -, rfl⟩ := refundGuestOpening_answer h
    · rfl
    · rfl
  | reviewed _ _ h =>
    obtain rfl | ⟨actor, reason, amount, -, workflow, -, rfl | ⟨-, rfl⟩ | ⟨-, rfl⟩⟩ :=
      refundGuestApprovedOpening_answer h
    · rfl
    · rfl
    · rfl
    · rfl

/-- Each booking is stored under its id. -/
def Keyed (s : Desk) : Prop := ∀ id booking, s.bookings id = some booking → booking.id = id

theorem Keyed.next (keyed : Keyed s) (move : DeskMove) : Keyed (s.next move) := by
  intro id b' hb'
  obtain ⟨b, hb, hchange⟩ := change_of_next hb'
  rw [hchange.id_eq, keyed id b hb]

theorem Truthful.next (truthful : Truthful s) (keyed : Keyed s) (hguard : WritesNoRefund s move) :
    Truthful (s.next move) := by
  intro id b' hb' hsays
  obtain ⟨b, hb, hchange⟩ := change_of_next hb'
  have hkept : SaysNoMore b b' → (s.next move).Refunded id b'.refundAmount := by
    intro h
    rw [h.refundAmount]
    exact (truthful id b hb (h.before hsays)).next move
  obtain h | ⟨change, rfl, hmodify⟩ | ⟨userId, reason, quote, now, rfl, hcancel⟩ |
    ⟨order, receipt, now, -, hmatches, rfl⟩ |
    ⟨authority, args, now, amount, reference, rfl, hchecks, rfl⟩ := hchange.saysNoMore
  · exact hkept h
  · exact hkept (modified_saysNoMore hmodify (hguard b hb))
  · exact hkept (withdrawn_saysNoMore hcancel (fun hstatus refund => hguard b refund hb hstatus))
  · exact (refunded_of_matches (keyed id b hb) hmatches).next move
  · exact refunded_of_verified (keyed id b hb) hb hchecks

theorem Fresh.truthful (fresh : Fresh s) : Truthful s := by
  intro id b hb hsays
  obtain h | h | h | h := hsays
  · simp [AccommodationBooking.refundRecorded, fresh.refundAmount id b hb,
      fresh.refundedAt id b hb] at h
  · exact absurd h (fresh.status id b hb)
  · obtain h | h := h
    · exact absurd h (fresh.paymentStatus id b hb).1
    · exact absurd h (fresh.paymentStatus id b hb).2
  · rw [fresh.workflow id b hb] at h
    cases h

/-- An approval that is answered with "Already refunded" found the booking saying so. -/
theorem saysRefunded_of_already {args : ApprovalArgs}
    (h : approvalChecks authority b args = .error "Already refunded") : b.SaysRefunded := by
  by_contra hnot
  have hrecorded : ¬ b.refundRecorded := fun h => hnot (.inl h)
  have hsettled : b.workflow.state ≠ some .refunded ∧
      b.workflow.state ≠ some .partiallyRefunded := by
    refine ⟨fun h => hnot (.inr (.inr (.inr ?_))), fun h => hnot (.inr (.inr (.inr ?_)))⟩
    · simp [RefundWorkflow.isSettled, h]
    · simp [RefundWorkflow.isSettled, h]
  simp only [approvalChecks] at h
  split at h
  · simp [bind_eq_error] at h
  · simp [bind_eq_error, hrecorded, hsettled, pure, Except.pure] at h

theorem saysRefunded_of_screened
    (h : .previousRefundRecorded ∈ refundScreeningFlags db b amount commission) :
    b.SaysRefunded := by
  by_contra hnot
  have hrecorded : b.refundRecorded = false := by
    by_contra hrecorded
    exact hnot (.inl (by simpa using hrecorded))
  simp only [refundScreeningFlags, List.mem_eraseDups] at h
  cases commission <;> simp [flagIf, hrecorded] at h

/-- In every run in which no change of dates lowers a total and no booking with a refund in
its quote is cancelled through its own method, a booking says it was refunded only if it was;
and no refund is refused or held back as made already unless it was made. -/
theorem refunds_truthful {start : Desk} {moves : List DeskMove} (fresh : Fresh start)
    (run : Run (Guarded WritesNoRefund Step) start moves s) :
    Truthful s ∧ ∀ id booking, s.bookings id = some booking →
      (∀ authority args, approvalChecks authority booking args = .error "Already refunded" →
        s.Refunded id booking.refundAmount) ∧
      ∀ amount,
        .previousRefundRecorded ∈ refundScreeningFlags s.db booking amount (s.commissions id) →
        s.Refunded id booking.refundAmount := by
  have hinv : Truthful s ∧ Keyed s := by
    refine run.invariant (fun s => Truthful s ∧ Keyed s) ?_ ⟨fresh.truthful, fresh.id⟩
    rintro s move _ ⟨truthful, keyed⟩ ⟨hguard, rfl⟩
    exact ⟨truthful.next keyed hguard, keyed.next move⟩
  refine ⟨hinv.1, ?_⟩
  intro id booking hb
  refine ⟨?_, ?_⟩
  · intro authority args hanswer
    exact hinv.1 id booking hb (saysRefunded_of_already hanswer)
  · intro amount hflag
    exact hinv.1 id booking hb (saysRefunded_of_screened hflag)

/-! ### A refund by the original provider, and a shortened stay -/

/-- A stay of three nights for 300, paid by mobile money. -/
def threeNights : AccommodationBooking :=
  { id := 5
    bookingReference := "ACC-5"
    property := some ⟨some 20, none⟩
    status := .confirmed
    bookedByUserId := 7
    guestUserId := some 7
    hostUserId := 20
    currency := "UGX"
    paymentMethod := some "mobile_money"
    paymentStatus := .paid
    walletTxnId := some 1
    totalAmount := 30000
    amountPaid := 30000
    policy := ⟨true, true, none, false⟩ }

def oneStay : Desk :=
  { db := Db.opened [] (by decide)
    bookings := fun id => if id = 5 then some threeNights else none }

/-- The rights of a user: 20 manages the property, 90 and 91 are administrators. -/
def loggedIn (user : UserId) : Authority :=
  { actor := some user
    canManageProperty := fun user _ => user = 20
    hasGlobalRole := fun user => user = 90 ∨ user = 91
    managesAccommodation := fun _ _ => some false
    platformOrgId := none
    now := "2026-06-01T12:00:00+00:00" }

/-- The host asks for a refund of 100, one administrator approves it and the other one
verifies that the provider paid it. -/
def providerRefund : List DeskMove :=
  [.submitRefundReview 5 (loggedIn 20) ⟨100, some "late keys", 20⟩,
    .refundGuestApproved 5 (loggedIn 90) ⟨100, some "agreed with host", true⟩,
    .recordExternalRefundExecution 5 (loggedIn 91)
      ⟨100, some "MM-1", some "checked the portal", 91⟩ 3]

theorem oneStay_fresh : Fresh oneStay := by
  have hrow : ∀ id booking, oneStay.bookings id = some booking →
      id = 5 ∧ booking = threeNights := by
    intro id booking h
    simp only [oneStay] at h
    split at h
    · rename_i hid
      exact ⟨hid, (Option.some.inj h).symm⟩
    · cases h
  refine ⟨?_, ?_, ?_, ?_, ?_, ?_, fun _ => rfl, rfl, rfl, rfl, rfl⟩
  all_goals
    intro id booking hb
    obtain ⟨rfl, rfl⟩ := hrow id booking hb
  · rfl
  · rfl
  · rfl
  · decide
  · exact ⟨by decide, by decide⟩
  · rfl

theorem providerRefund_run : Run (Guarded WritesNoRefund Step) oneStay providerRefund
    (providerRefund.foldl next oneStay) :=
  .cons ⟨trivial, rfl⟩ (.cons ⟨trivial, rfl⟩ (.cons ⟨trivial, rfl⟩ (.nil _)))

theorem refunds_truthful_providerRefund :
    ((providerRefund.foldl next oneStay).bookings 5).map AccommodationBooking.refundAmount =
        some 10000 ∧
      Truthful (providerRefund.foldl next oneStay) :=
  ⟨by decide +kernel, (refunds_truthful oneStay_fresh providerRefund_run).1⟩

/-- The stay is shortened to two nights; the guest then cancels and asks for a review. -/
def shortenedAndCancelled : List DeskMove :=
  [.modifyBookingDates 5 { hostUserId := 20, nights := 2, nightlyRate := 10000 },
    .cancelBooking 5 { cancelledByUserId := some 7, quote := .ok 200, requestHumanReview := true }]

/-- The row after that. -/
def cancelledStay : AccommodationBooking :=
  { threeNights with
    status := .cancelled
    cancelledByUserId := some 7
    totalAmount := 20000
    refundAmount := 10000
    policy := ⟨true, true, some 200, true⟩
    workflow :=
      { state := some .pendingHumanReview
        riskFlags := some [.humanReviewRequested]
        requestedByUserId := some 7
        signed := true } }

theorem shortenedAndCancelled_row :
    (shortenedAndCancelled.foldl next oneStay).bookings 5 = some cancelledStay := rfl

/-- Or the event it was booked for cancels the stay, 300 being due to the guest. -/
def cancelledByEvent : List DeskMove :=
  [.cancel 5 (some 30) (some "Cancelled via event finals") (.ok 300) 4]

/-- The row after that. -/
def refundedStay : AccommodationBooking :=
  { threeNights with
    status := .cancelled
    cancelledByUserId := some 30
    cancellationReason := some "Cancelled via event finals"
    paymentStatus := .refunded
    refundAmount := 30000
    refundedAt := some 4 }

theorem cancelledByEvent_row :
    (cancelledByEvent.foldl next oneStay).bookings 5 = some refundedStay := by
  have hcents : Cents.ofDecimal 300 = 30000 := by decide +kernel
  have hcancel : threeNights.cancel (some 30) (some "Cancelled via event finals") (.ok 300) 4 =
      .ok refundedStay := by
    have hchecks : threeNights.status.isCancellable = true ∧
        .cancelled ∈ threeNights.status.validTransitions := by decide
    simp [AccommodationBooking.cancel, hchecks, require, hcents, refundedStay, bind, Except.bind,
      pure, Except.pure]
  have hrow : oneStay.bookings 5 = some threeNights := rfl
  simp only [cancelledByEvent, List.foldl, next, withBooking, hrow, hcancel, commit, store_same]

/-- Without a transfer under its key and without a verification nothing was refunded. -/
theorem not_refunded (hdb : (s.db.getByClientRequestId (refundKey id)).isNone)
    (hrows : s.rows.isEmpty) : ¬ s.Refunded id amount := by
  rintro (⟨transactionId, row, hfound, -⟩ | ⟨row, hmem, -⟩)
  · rw [hfound] at hdb
    cases hdb
  · rw [List.isEmpty_iff.mp hrows] at hmem
    cases hmem

/-- The booking says that 100 were refunded, or all 300. Nothing was; and the refund of the
first cancellation is not approved because of it. -/
theorem shortened_stay_not_refunded :
    Fresh oneStay ∧
      Run Step oneStay shortenedAndCancelled (shortenedAndCancelled.foldl next oneStay) ∧
      (shortenedAndCancelled.foldl next oneStay).bookings 5 = some cancelledStay ∧
      cancelledStay.refundAmount = 10000 ∧
      approvalChecks (loggedIn 90) cancelledStay ⟨200, some "agreed with host", true⟩ =
        .error "Already refunded" ∧
      ¬ (shortenedAndCancelled.foldl next oneStay).Refunded 5 10000 ∧
      ¬ Truthful (shortenedAndCancelled.foldl next oneStay) ∧
      Run Step oneStay cancelledByEvent (cancelledByEvent.foldl next oneStay) ∧
      (cancelledByEvent.foldl next oneStay).bookings 5 = some refundedStay ∧
      ¬ Truthful (cancelledByEvent.foldl next oneStay) := by
  have hnot : ¬ (shortenedAndCancelled.foldl next oneStay).Refunded 5 10000 :=
    not_refunded (by decide +kernel) (by decide +kernel)
  have hnot' : ¬ (cancelledByEvent.foldl next oneStay).Refunded 5 30000 :=
    not_refunded (by decide +kernel) (by decide +kernel)
  have hrun : Run Step oneStay shortenedAndCancelled (shortenedAndCancelled.foldl next oneStay) :=
    .cons rfl (.cons rfl (.nil _))
  have hrun' : Run Step oneStay cancelledByEvent (cancelledByEvent.foldl next oneStay) :=
    .cons rfl (.nil _)
  have hrow := shortenedAndCancelled_row
  have hrow' := cancelledByEvent_row
  generalize shortenedAndCancelled.foldl next oneStay = s at hnot hrun hrow ⊢
  generalize cancelledByEvent.foldl next oneStay = t at hnot' hrun' hrow' ⊢
  refine ⟨oneStay_fresh, hrun, hrow, rfl, ?_, hnot, ?_, hrun', hrow', ?_⟩
  · decide +kernel
  · intro truthful
    exact hnot (truthful 5 cancelledStay hrow (.inl (by decide)))
  · intro truthful
    exact hnot' (truthful 5 refundedStay hrow' (.inl (by decide)))

end Desk

end Afcon360.Accommodation
