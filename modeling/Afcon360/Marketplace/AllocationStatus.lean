import Afcon360.Marketplace.Refund

/-!
# The status of an invoice and its allocations

Three places of `MarketplaceInvoiceService` put a status to what is allocated to an invoice:
the end of a completed payment, the end of a refund, and
`update_invoice_status_from_allocations`. An allocation is positive for a payment and
negative for a refund. Here the three read a list of amounts; that the payments and refunds of
`PartialPayment` and `Refund` write these statuses is shown at the end.
-/

namespace Afcon360.Marketplace

open Foundation Wallet

/-- The columns of an invoice that follow its allocations. -/
structure StatusRow where
  status : InvoiceStatus
  paidAt : Option Timestamp := none
  cancelledAt : Option Timestamp := none
  transactionId : Option TransactionId := none
deriving DecidableEq

namespace StatusRow

/-- What was paid and not given back: the positive amounts without the negative ones. -/
def netPaid (allocations : List ℚ) : ℚ :=
  (allocations.filter (0 < ·)).sum - ((allocations.filter (· < 0)).map abs).sum

/-- The end of `complete_payment_attempt`: the allocations of the query, the new one among
them, and the attempt's amount again. -/
def afterPayment (row : StatusRow) (amount : ℚ) (allocations : List ℚ) (attempt : ℚ)
    (transactionId : TransactionId) (now : Timestamp) : StatusRow :=
  if amount ≤ allocations.sum + attempt then
    { row with status := .paid, paidAt := some now, transactionId := some transactionId }
  else { row with status := .partiallyPaid }

/-- The end of `process_refund`. -/
def afterRefund (row : StatusRow) (amount : ℚ) (allocations : List ℚ) (now : Timestamp) :
    StatusRow :=
  if netPaid allocations ≤ 0 then { row with status := .refunded, cancelledAt := some now }
  else if netPaid allocations < amount then { row with status := .partiallyRefunded }
  else { row with status := .paid }

/-- `update_invoice_status_from_allocations`. -/
def updateFromAllocations (row : StatusRow) (amount : ℚ) (allocations : List ℚ)
    (now : Timestamp) : StatusRow :=
  let net := netPaid allocations
  if net ≤ 0 then
    if row.status = .paid ∨ row.status = .partiallyPaid ∨ row.status = .partiallyRefunded then
      { row with status := .refunded }
    else row
  else if amount ≤ net then
    if row.status ≠ .paid then
      { row with status := .paid, paidAt := some (row.paidAt.getD now) }
    else row
  else if row.status = .paid ∨ row.status = .refunded then
    { row with status := if 0 < net then .partiallyPaid else .due }
  else if row.status = .due ∧ 0 < net then { row with status := .partiallyPaid }
  else row

variable {row : StatusRow} {amount attempt : ℚ} {allocations : List ℚ}
  {transactionId : TransactionId} {now later : Timestamp}

/-- What is left of the payments is the sum of all amounts. -/
theorem netPaid_eq_sum (allocations : List ℚ) : netPaid allocations = allocations.sum := by
  unfold netPaid
  induction allocations with
  | nil => simp
  | cons first rest ih =>
    obtain hneg | rfl | hpos := lt_trichotomy first 0
    · simp only [List.filter_cons, decide_eq_true_eq, hneg, hneg.not_gt, if_true, if_false,
        List.map_cons, List.sum_cons, abs_of_neg hneg]
      linarith
    · simpa using ih
    · simp only [List.filter_cons, decide_eq_true_eq, hpos, hpos.not_gt, if_true, if_false,
        List.sum_cons]
      linarith

theorem updateFromAllocations_idempotent (row : StatusRow) (amount : ℚ) (allocations : List ℚ)
    (now later : Timestamp) :
    (row.updateFromAllocations amount allocations now).updateFromAllocations amount allocations
      later = row.updateFromAllocations amount allocations now := by
  unfold updateFromAllocations
  dsimp only
  by_cases hnone : netPaid allocations ≤ 0
  · simp only [if_pos hnone]
    split
    · simp
    · rfl
  by_cases hfull : amount ≤ netPaid allocations
  · simp only [if_neg hnone, if_pos hfull]
    split
    · simp
    · rfl
  have hsome : 0 < netPaid allocations := not_le.mp hnone
  simp only [if_neg hnone, if_neg hfull, hsome, if_true, and_true]
  split
  · simp
  · split
    · simp
    · rfl

/-- An update leaves a refunded invoice as the refund has left it. -/
theorem updateFromAllocations_afterRefund (row : StatusRow) (amount : ℚ) (allocations : List ℚ)
    (now later : Timestamp) :
    (row.afterRefund amount allocations now).updateFromAllocations amount allocations later =
      row.afterRefund amount allocations now := by
  unfold afterRefund updateFromAllocations
  dsimp only
  by_cases hnone : netPaid allocations ≤ 0
  · simp [if_pos hnone]
  · by_cases hfull : amount ≤ netPaid allocations
    · simp [hnone, hfull, not_lt.mpr hfull]
    · simp [hnone, hfull, not_le.mp hfull]

/-- An update leaves an invoice as the payment has left it when the payment calls it paid and
it is, and when it calls it partially paid and something is. -/
theorem updateFromAllocations_afterPayment (hattempt : 0 ≤ attempt) (hamount : 0 < amount)
    (h : amount ≤ allocations.sum ∨ allocations.sum + attempt < amount ∧ 0 < allocations.sum) :
    (row.afterPayment amount allocations attempt transactionId now).updateFromAllocations amount
      allocations later = row.afterPayment amount allocations attempt transactionId now := by
  unfold afterPayment updateFromAllocations
  dsimp only
  rw [netPaid_eq_sum]
  obtain hfull | ⟨hpart, hsome⟩ := h
  · have hreached : amount ≤ allocations.sum + attempt := by linarith
    have hsome : ¬ allocations.sum ≤ 0 := by linarith
    simp [hreached, hsome, hfull]
  · have hbelow : ¬ amount ≤ allocations.sum := by linarith
    simp [not_le.mpr hpart, not_le.mpr hsome, hbelow]

/-- The three statuses of an invoice that is paid in full, and what each is otherwise: a refund
tells what was given back, a payment never does, and an update leaves alone what they have
set. -/
theorem allocation_statuses (row : StatusRow) {amount : ℚ} (allocations : List ℚ) {attempt : ℚ}
    (transactionId : TransactionId) (now later : Timestamp) (hamount : 0 < amount)
    (hattempt : 0 < attempt) :
    (amount ≤ netPaid allocations →
      (row.afterPayment amount allocations attempt transactionId now).status = .paid ∧
      (row.afterRefund amount allocations now).status = .paid ∧
      (row.updateFromAllocations amount allocations now).status = .paid) ∧
    (row.afterRefund amount allocations now).status =
      (if netPaid allocations ≤ 0 then .refunded
      else if netPaid allocations < amount then .partiallyRefunded else .paid) ∧
    ((row.afterPayment amount allocations attempt transactionId now).status = .paid ∨
      (row.afterPayment amount allocations attempt transactionId now).status = .partiallyPaid) ∧
    (row.updateFromAllocations amount allocations now).updateFromAllocations amount allocations
      later = row.updateFromAllocations amount allocations now ∧
    (row.afterRefund amount allocations now).updateFromAllocations amount allocations later =
      row.afterRefund amount allocations now ∧
    (amount ≤ netPaid allocations ∨
      (row.afterPayment amount allocations attempt transactionId now).status = .partiallyPaid ∧
        0 < netPaid allocations →
      (row.afterPayment amount allocations attempt transactionId now).updateFromAllocations amount
        allocations later = row.afterPayment amount allocations attempt transactionId now) := by
  refine ⟨?_, ?_, ?_, updateFromAllocations_idempotent .., updateFromAllocations_afterRefund .., ?_⟩
  · intro hfull
    have hsome : ¬ netPaid allocations ≤ 0 := by linarith
    refine ⟨?_, ?_, ?_⟩
    · have hreached : amount ≤ allocations.sum + attempt := by
        rw [netPaid_eq_sum] at hfull
        linarith
      simp [afterPayment, hreached]
    · simp [afterRefund, hsome, not_lt.mpr hfull]
    · by_cases hpaid : row.status = .paid <;> simp [updateFromAllocations, hsome, hfull, hpaid]
  · unfold afterRefund
    split
    · rfl
    · split <;> rfl
  · unfold afterPayment
    split
    · exact .inl rfl
    · exact .inr rfl
  · rw [netPaid_eq_sum]
    rintro (hfull | ⟨hpart, hsome⟩)
    · exact updateFromAllocations_afterPayment hattempt.le hamount (.inl hfull)
    · refine updateFromAllocations_afterPayment hattempt.le hamount (.inr ⟨?_, hsome⟩)
      by_contra hreached
      simp [afterPayment, not_lt.mp hreached] at hpart

/-- A payment of 40 on 100, and a refund that is not allocated. -/
theorem allocation_statuses_partial :
    let row : StatusRow := { status := .due }
    let paid := row.afterPayment 100 [40] 40 7 1
    let refund := row.afterRefund 100 [40] 1
    refund.status = .partiallyRefunded ∧
    (100 ≤ netPaid [40] →
      paid.status = .paid ∧ refund.status = .paid ∧
      (row.updateFromAllocations 100 [40] 1).status = .paid) ∧
    refund.status =
      (if netPaid [40] ≤ 0 then .refunded
      else if netPaid [40] < 100 then .partiallyRefunded else .paid) ∧
    (paid.status = .paid ∨ paid.status = .partiallyPaid) ∧
    (row.updateFromAllocations 100 [40] 1).updateFromAllocations 100 [40] 2 =
      row.updateFromAllocations 100 [40] 1 ∧
    refund.updateFromAllocations 100 [40] 2 = refund ∧
    (100 ≤ netPaid [40] ∨ paid.status = .partiallyPaid ∧ 0 < netPaid [40] →
      paid.updateFromAllocations 100 [40] 2 = paid) := by
  intro row paid refund
  exact ⟨by decide +kernel, allocation_statuses row [40] 7 1 2 (by norm_num) (by norm_num)⟩

/-- A payment and a refund call the same allocations by different names, and an update takes back
what a payment of 60 on 100 has set. -/
theorem allocation_statuses_differ :
    let row : StatusRow := { status := .due }
    ((row.afterPayment 100 [40] 40 7 1).status = .partiallyPaid ∧
      (row.afterRefund 100 [40] 1).status = .partiallyRefunded) ∧
    (row.afterPayment 100 [60] 60 7 1).status = .paid ∧
    ((row.afterPayment 100 [60] 60 7 1).updateFromAllocations 100 [60] 2).status =
      .partiallyPaid := by
  decide +kernel

/-! ## The statuses that are written -/

/-- The amounts that are allocated to an invoice. -/
def amountsOf (b : Billing) (id : ℕ) : List ℚ :=
  (b.allocations.filter (·.invoice = id)).map (·.amount.toDecimal)

/-- A completed attempt writes the status of `afterPayment`. -/
theorem settledRow_status (row : StatusRow) (b : Billing) (attempt : PaymentAttempt)
    (transactionId : TransactionId) (invoice : Invoice) (now : Timestamp) :
    (settledRow b attempt transactionId invoice).status =
      (row.afterPayment invoice.amount.toDecimal (amountsOf b attempt.invoice)
        attempt.amount.toDecimal transactionId now).status := by
  have hsum : (amountsOf b attempt.invoice).sum = b.allocated attempt.invoice := rfl
  by_cases hreached :
      invoice.amount.toDecimal ≤ b.allocated attempt.invoice + attempt.amount.toDecimal
  · simp only [settledRow, afterPayment, hsum, if_pos hreached]
  · simp only [settledRow, afterPayment, hsum, if_neg hreached]

/-- A refund writes the status of `afterRefund`. -/
theorem statusAfterRefund_eq (row : StatusRow) (b : Billing) (id : ℕ) (invoice : Invoice)
    (now : Timestamp) :
    statusAfterRefund b id invoice =
      (row.afterRefund invoice.amount.toDecimal (amountsOf b id) now).status := by
  have hnet : netPaid (amountsOf b id) = b.allocated id := netPaid_eq_sum _
  simp only [statusAfterRefund, afterRefund, hnet]
  split
  · rfl
  · split <;> rfl

end StatusRow

end Afcon360.Marketplace
