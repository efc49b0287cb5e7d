import Afcon360.Marketplace.Settlement
import Afcon360.Marketplace.PartialPayment

/-!
# Refunds

`process_refund` after any sequence of payments. A refund of a wallet invoice is a
wallet transfer from the escrow, committed on its own, followed by an allocation
with a negative amount. The table declares `CHECK (amount > 0)`, so the flush that
would write this allocation raises. A refund of any other invoice moves no money
and writes no allocation; only the status is computed again.

`collected` and `refunds` record what was paid outside the allocations (a wallet
settlement, cash) and what was given back.
-/

namespace Afcon360.Marketplace

open Foundation Wallet Settlement

/-- The arguments of `process_refund`. -/
structure RefundArgs where
  amount : Option ℚ
  currency : String
  reason : String
  originalTransactionId : Option String := none

/-- A call of `process_refund`: the invoice, the arguments, what the call reads,
and the random part of its key. -/
structure RefundCall where
  invoice : ℕ
  args : RefundArgs
  accounts : SettlementEnv
  env : Env
  suffix : String

/-- What a refund left behind, what it answered, and what it gave back. -/
structure RefundOutcome where
  billing : Billing
  result : Except InvoiceError ℚ
  given : Option ℚ

/-- The amount that may be refunded. -/
def eligibleRefund (b : Billing) (id : ℕ) (invoice : Invoice) : ℚ :=
  if invoice.status = .cashReceived then invoice.amount.toDecimal
  else b.outstandingAmount id invoice + b.allocated id

/-- The checks before anything is moved. -/
def refundChecks (b : Billing) (id : ℕ) (args : RefundArgs) :
    Except InvoiceError (Invoice × ℚ) := do
  let invoice ← b.getInvoice id
  let amount ← money args.amount
  let currency ← currencyCode args.currency
  require (invoice.status = .paid ∨ invoice.status = .partiallyPaid ∨
      invoice.status = .cashReceived)
    (.refused .invoiceNotRefundable "This invoice cannot be refunded in its current state.")
  require (currency = invoice.currency)
    (.refused .currencyMismatch "Refund currency must match invoice currency.")
  require (amount ≤ eligibleRefund b id invoice)
    (.refused .refundExceedsEligible "Refund amount exceeds eligible amount.")
  pure (invoice, amount)

/-- The transfer of a refund. -/
def refundRequest (call : RefundCall) (invoice : Invoice) (escrow payer : Account) (amount : ℚ) :
    TransferRequest :=
  { fromAccountId := escrow.id
    toAccountId := payer.id
    amount
    currency := invoice.currency
    clientRequestId := "MARKETPLACE-REFUND-" ++ toString call.invoice ++ "-" ++ call.suffix
    note := some ("Marketplace refund for " ++ invoice.serviceReference)
    metadata :=
      [("marketplace_invoice_id", toString call.invoice), ("refund_reason", call.args.reason)] ++
      call.args.originalTransactionId.toList.map (fun id => ("original_transaction_id", id))
    systemInitiated := true }

/-- The error a failed refund transfer is reported as. -/
def refundError : WalletError → InvoiceError
  | .insufficientBalance .. => .refused .escrowInsufficientFunds
      "Escrow account has insufficient funds for refund."
  | .walletNotFound _ => .refused .escrowMissing "Escrow account not found for refund."
  | _ => .refused .refundUnavailable "Wallet could not process refund."

/-- The transfer from the escrow to the payer's account. -/
def refundTransfer (call : RefundCall) (b : Billing) (invoice : Invoice) (amount : ℚ) :
    Except InvoiceError (TransferReceipt × Db) := do
  match ← getByUserId b.db invoice.payerUserId invoice.currency with
  | none => .error (.refused .payerWalletMissing "Payer Wallet account not found for refund.")
  | some payer =>
    let escrow ← getTransportEscrowAccount call.accounts b.db invoice.currency
    match transfer call.env b.db (refundRequest call invoice escrow payer amount) with
    | .error e => .error (refundError e)
    | .ok result => .ok result

/-- The status after a refund, from what is allocated. -/
def statusAfterRefund (b : Billing) (id : ℕ) (invoice : Invoice) : InvoiceStatus :=
  if b.allocated id ≤ 0 then .refunded
  else if b.allocated id < invoice.amount.toDecimal then .partiallyRefunded
  else .paid

def Billing.withRefundStatus (b : Billing) (id : ℕ) (invoice : Invoice) : Billing :=
  { b with invoices := b.invoices.set id { invoice with status := statusAfterRefund b id invoice } }

/-- `process_refund`. -/
def processRefund (call : RefundCall) (b : Billing) : RefundOutcome :=
  match refundChecks b call.invoice call.args with
  | .error e => ⟨b, .error e, none⟩
  | .ok (invoice, amount) =>
    if invoice.paymentMethod = .wallet ∧ invoice.status ≠ .cashReceived then
      match refundTransfer call b invoice amount with
      | .error e => ⟨b, .error e, none⟩
      | .ok (receipt, db) =>
        let given := if receipt.alreadyProcessed then none else some amount
        match Amount.ofDecimal? (-amount) with
        | none => ⟨{ b with db }, .error .database, given⟩
        | some stored =>
          let written : Billing :=
            { b with
              db
              allocations := b.allocations ++
                [⟨receipt.transactionId, call.invoice, stored, invoice.currency, 0⟩] }
          ⟨written.withRefundStatus call.invoice invoice, .ok amount, given⟩
    else ⟨b.withRefundStatus call.invoice invoice, .ok amount, some amount⟩

/-! ## The wallet settlement as one call -/

/-- What a settlement left behind, what it answered, and whether its transfer was
posted by it. -/
structure SettleOutcome where
  billing : Billing
  result : Except InvoiceError Unit
  posted : Bool

structure SettleCall where
  invoice : ℕ
  context : ServiceContext
  requestId : Option String
  accounts : SettlementEnv
  env : Env

/-- The transfer of a settlement. -/
def settleTransfer (call : SettleCall) (b : Billing) (invoice : Invoice) :
    Except InvoiceError (Account × TransferReceipt × Db) := do
  let account ← payerAccount call.accounts b.db invoice
  let escrow ← getTransportEscrowAccount call.accounts b.db invoice.currency
  match transfer call.env b.db
      (settlementRequest call.invoice invoice account escrow call.requestId) with
  | .error e => .error (collectionError e)
  | .ok (receipt, db) => .ok (escrow, receipt, db)

/-- The verification and the last commit of a settlement. -/
def settleRecord (id : ℕ) (invoice : Invoice) (escrow : Account) (transactionId : TransactionId)
    (db : Db) : Except InvoiceError Invoice := do
  verifyTransaction id invoice escrow (db.transactions.get? transactionId)
  recordPaid invoice transactionId

/-- `settle_after_completion` without interference. -/
def settleAfterCompletion (call : SettleCall) (b : Billing) : SettleOutcome :=
  match b.invoices[call.invoice]? with
  | none => ⟨b, .error (.refused .invoiceNotFound "Wallet invoice not found"), false⟩
  | some invoice =>
    match markDueAfterCompletion invoice call.context with
    | .error e => ⟨b, .error e, false⟩
    | .ok due =>
      let marked : Billing := { b with invoices := b.invoices.set call.invoice due }
      if due.status.isSettled then ⟨marked, .ok (), false⟩
      else
        match due.paymentMethod with
        | .cash => ⟨marked, .ok (), false⟩
        | .other methodId => ⟨marked, .error (.refused .methodNotIntegrated
            ("Marketplace settlement for " ++ methodId ++ " is not yet implemented.")), false⟩
        | .wallet =>
          match settleTransfer call marked due with
          | .error e => ⟨marked, .error e, false⟩
          | .ok (escrow, receipt, db) =>
            let posted := !receipt.alreadyProcessed
            match settleRecord call.invoice due escrow receipt.transactionId db with
            | .error e => ⟨{ marked with db }, .error e, posted⟩
            | .ok paid =>
              ⟨{ marked with db, invoices := marked.invoices.set call.invoice paid },
                .ok (), posted⟩

/-! ## Books over all payments and refunds -/

structure Books where
  billing : Billing
  collected : List (ℕ × ℚ)
  refunds : List (ℕ × ℚ)

inductive InvoiceCall
  | payment (call : PaymentCall)
  | markDue (invoice : ℕ) (context : ServiceContext)
  | confirmCash (invoice : ℕ) (context : ServiceContext) (driver : Driver)
  | settle (call : SettleCall)
  | refund (call : RefundCall)

namespace Books

/-- What a log says about one invoice. -/
def total (log : List (ℕ × ℚ)) (id : ℕ) : ℚ := ((log.filter (·.1 = id)).map Prod.snd).sum

/-- Everything paid on an invoice. -/
def paid (s : Books) (id : ℕ) : ℚ := s.billing.allocated id + total s.collected id

def refunded (s : Books) (id : ℕ) : ℚ := total s.refunds id

/-- Rewrite one row, or leave it when the change raises; `collects` says what the
change collected. -/
def rewrite (s : Books) (id : ℕ) (change : Invoice → Except InvoiceError Invoice)
    (collects : Invoice → Option ℚ) : Books :=
  match s.billing.invoices[id]? with
  | none => s
  | some invoice =>
    match change invoice with
    | .error _ => s
    | .ok new =>
      { s with
        billing := { s.billing with invoices := s.billing.invoices.set id new }
        collected := s.collected ++ (collects invoice).toList.map (fun amount => (id, amount)) }

/-- A driver's first confirmation collects the invoice amount. -/
def cashCollected (invoice : Invoice) : Option ℚ :=
  if invoice.status = .cashReceived then none else some invoice.amount.toDecimal

/-- A settlement whose transfer was posted collects the invoice amount. -/
def settle (s : Books) (call : SettleCall) : Books :=
  let outcome := settleAfterCompletion call s.billing
  { s with
    billing := outcome.billing
    collected := s.collected ++
      if outcome.posted then
        (s.billing.invoices[call.invoice]?).toList.map
          (fun invoice => (call.invoice, invoice.amount.toDecimal))
      else [] }

def refund (s : Books) (call : RefundCall) : Books :=
  let outcome := processRefund call s.billing
  { s with
    billing := outcome.billing
    refunds := s.refunds ++ outcome.given.toList.map (fun amount => (call.invoice, amount)) }

def after (s : Books) : InvoiceCall → Books
  | .payment call => { s with billing := s.billing.after call }
  | .markDue id context =>
    s.rewrite id (fun invoice => markDueAfterCompletion invoice context) (fun _ => none)
  | .confirmCash id context driver =>
    s.rewrite id (fun invoice => confirmCashReceipt invoice context driver) cashCollected
  | .settle call => s.settle call
  | .refund call => s.refund call

def Step (s : Books) (call : InvoiceCall) (t : Books) : Prop := t = s.after call

/-- What is asked of the books: no more is refunded than was paid, and an invoice
is refunded exactly when all of it has been given back. -/
structure Sound (s : Books) : Prop where
  covered : ∀ (id : ℕ) invoice, s.billing.invoices[id]? = some invoice →
    s.refunded id ≤ s.paid id
  refundedIff : ∀ (id : ℕ) invoice, s.billing.invoices[id]? = some invoice →
    (invoice.status = .refunded ↔ 0 < s.refunded id ∧ s.refunded id = s.paid id)

/-- A refund that raises leaves every wallet balance unchanged. -/
def FailsClean (s : Books) (call : RefundCall) : Prop :=
  ∀ e, (processRefund call s.billing).result = .error e → ∀ accountId currency,
    (processRefund call s.billing).billing.db.getBalance accountId currency =
      s.billing.db.getBalance accountId currency

/-- A refund that passes the checks is either one of a wallet invoice whose
transfer is not posted, or one that stays within what was paid and takes the rest
of it exactly when nothing is allocated to the invoice. -/
def Refundable (s : Books) : InvoiceCall → Prop
  | .refund call => ∀ invoice amount,
      refundChecks s.billing call.invoice call.args = .ok (invoice, amount) →
      if invoice.paymentMethod = .wallet ∧ invoice.status ≠ .cashReceived then
        ∀ receipt db, refundTransfer call s.billing invoice amount = .ok (receipt, db) →
          receipt.alreadyProcessed = true
      else
        s.refunded call.invoice + amount ≤ s.paid call.invoice ∧
          (s.refunded call.invoice + amount = s.paid call.invoice ↔
            s.billing.allocated call.invoice = 0)
  | _ => True

variable {s t : Books} {id : ℕ} {invoice : Invoice} {amount : ℚ}

variable {call : RefundCall} {b : Billing}

theorem total_append (log : List (ℕ × ℚ)) (id other : ℕ) (amount : ℚ) :
    total (log ++ [(id, amount)]) other = total log other + if id = other then amount else 0 := by
  unfold total
  rw [List.filter_append, List.map_append, List.sum_append]
  by_cases hid : id = other <;> simp [hid]

theorem total_nonneg {log : List (ℕ × ℚ)} (h : ∀ entry ∈ log, 0 < entry.2) (id : ℕ) :
    0 ≤ total log id := by
  refine List.sum_nonneg ?_
  intro amount hamount
  obtain ⟨entry, hentry, rfl⟩ := List.mem_map.mp hamount
  exact (h entry (List.mem_of_mem_filter hentry)).le

theorem allocated_nonneg (b : Billing) (id : ℕ) : 0 ≤ b.allocated id := by
  refine List.sum_nonneg ?_
  intro amount hamount
  obtain ⟨allocation, -, rfl⟩ := List.mem_map.mp hamount
  exact allocation.amount.toDecimal_pos.le

/-! ## Payments -/

/-- A call that refunds nothing keeps the books sound if it leaves a row as
refunded as it was, or pays something on it and leaves it not refunded. -/
theorem Sound.pay (sound : Sound s) (hrefunds : t.refunds = s.refunds)
    (hrows : ∀ (id : ℕ) new, t.billing.invoices[id]? = some new →
      ∃ old, s.billing.invoices[id]? = some old ∧
        ((t.paid id = s.paid id ∧ (new.status = .refunded ↔ old.status = .refunded)) ∨
          (s.paid id < t.paid id ∧ new.status ≠ .refunded))) : Sound t := by
  have hrefunded : ∀ id, t.refunded id = s.refunded id := by
    intro id
    rw [refunded, refunded, hrefunds]
  constructor
  · intro id new hnew
    obtain ⟨old, hold, ⟨hsame, -⟩ | ⟨hmore, -⟩⟩ := hrows id new hnew
    · rw [hrefunded, hsame]
      exact sound.covered id old hold
    · rw [hrefunded]
      exact (sound.covered id old hold).trans hmore.le
  · intro id new hnew
    obtain ⟨old, hold, ⟨hsame, hstatus⟩ | ⟨hmore, hstatus⟩⟩ := hrows id new hnew
    · rw [hrefunded, hsame, hstatus]
      exact sound.refundedIff id old hold
    · rw [hrefunded]
      refine iff_of_false hstatus ?_
      rintro ⟨-, hequal⟩
      have := sound.covered id old hold
      linarith

theorem Sound.payment (sound : Sound s) (call : PaymentCall) : Sound (s.after (.payment call)) := by
  cases call with
  | wallet db => exact ⟨sound.covered, sound.refundedIff⟩
  | create id args =>
    cases h : createPaymentAttempt s.billing id args with
    | error e => simpa [Books.after, Billing.after, Billing.committed, h] using sound
    | ok b =>
      obtain ⟨invoice, attempt, status, hinvoice, -, -, hstatus, -, hallocations, -, hinvoices⟩ :=
        Billing.createPaymentAttempt_ok h
      refine sound.pay rfl ?_
      intro other new hnew
      simp only [Books.after, Billing.after, Billing.committed, h, paid,
        Billing.allocated_congr hallocations, true_and] at hnew ⊢
      rw [hinvoices] at hnew
      obtain ⟨rfl, rfl⟩ | ⟨-, hold⟩ := getElem?_set_cases hnew
      · exact ⟨invoice, hinvoice, .inl hstatus⟩
      · exact ⟨new, hold, .inl Iff.rfl⟩
  | complete id args =>
    cases h : completePaymentAttempt s.billing id args with
    | error e => simpa [Books.after, Billing.after, Billing.committed, h] using sound
    | ok b =>
      obtain ⟨attempt, done, -, -, -, -, -, ⟨-, transactionId, hallocations, hinvoices⟩ |
        ⟨-, hallocations, hinvoices⟩⟩ := Billing.completePaymentAttempt_ok h
      · refine sound.pay rfl ?_
        intro other new hnew
        simp only [Books.after, Billing.after, Billing.committed, h, paid,
          Billing.allocated_append hallocations] at hnew ⊢
        rw [hinvoices] at hnew
        obtain ⟨rfl, old, hold, rfl⟩ | ⟨hne, hold⟩ := getElem?_modify_cases hnew
        · refine ⟨old, hold, .inr ⟨?_, ?_⟩⟩
          · simpa using attempt.amount.toDecimal_pos
          · simp only [settledRow]
            split <;> simp
        · exact ⟨new, hold, .inl ⟨by simp [Ne.symm hne], Iff.rfl⟩⟩
      · refine sound.pay rfl ?_
        intro other new hnew
        simp only [Books.after, Billing.after, Billing.committed, h, paid,
          Billing.allocated_congr hallocations, true_and] at hnew ⊢
        rw [hinvoices] at hnew
        exact ⟨new, hnew, .inl Iff.rfl⟩

/-- Rewriting a row that is not refunded, before or after, and collecting nothing
or a positive amount. -/
theorem Sound.rewrite (sound : Sound s) {change : Invoice → Except InvoiceError Invoice}
    {collects : Invoice → Option ℚ}
    (hchange : ∀ old new, change old = .ok new → old.status ≠ .refunded ∧ new.status ≠ .refunded)
    (hcollects : ∀ old amount, collects old = some amount → 0 < amount) :
    Sound (s.rewrite id change collects) := by
  unfold Books.rewrite
  split
  · exact sound
  · rename_i old hold
    split
    · exact sound
    · rename_i new hnew
      obtain ⟨hbefore, hafter⟩ := hchange old new hnew
      refine sound.pay rfl ?_
      intro other row hrow
      obtain ⟨rfl, rfl⟩ | ⟨hne, hrow⟩ := getElem?_set_cases hrow
      · refine ⟨old, hold, ?_⟩
        cases hamount : collects old with
        | none => exact .inl ⟨by simp [paid, Billing.allocated], iff_of_false hafter hbefore⟩
        | some amount =>
          have hpositive := hcollects old amount hamount
          exact .inr ⟨by simpa [paid, Billing.allocated, total_append] using hpositive, hafter⟩
      · refine ⟨row, hrow, .inl ⟨?_, Iff.rfl⟩⟩
        cases collects old with
        | none => simp [paid, Billing.allocated]
        | some amount => simp [paid, Billing.allocated, total_append, Ne.symm hne]

theorem Sound.markDue (sound : Sound s) (id : ℕ) (context : ServiceContext) :
    Sound (s.after (.markDue id context)) := by
  refine sound.rewrite ?_ (by simp)
  intro old new h
  obtain ⟨rfl, hstatus⟩ | ⟨hpending, rfl⟩ := markDueAfterCompletion_ok h
  · have hnot : new.status ≠ .refunded := by
      intro hrefunded
      simp [hrefunded, InvoiceStatus.isSettled] at hstatus
    exact ⟨hnot, hnot⟩
  · exact ⟨by simp [hpending], by simp⟩

theorem Sound.confirmCash (sound : Sound s) (id : ℕ) (context : ServiceContext) (driver : Driver) :
    Sound (s.after (.confirmCash id context driver)) := by
  refine sound.rewrite ?_ ?_
  · intro old new h
    obtain ⟨-, ⟨rfl, hstatus⟩ | ⟨hstatus, rfl⟩⟩ := confirmCashReceipt_ok h
    · exact ⟨by simp [hstatus], by simp [hstatus]⟩
    · exact ⟨by simp [hstatus], by simp⟩
  · intro old amount h
    unfold cashCollected at h
    split at h
    · cases h
    · cases h
      exact old.amount.toDecimal_pos

/-- A settlement writes no allocation and rewrites its own row at most, which is
not refunded before or after if it is rewritten or a transfer was posted. -/
theorem settleAfterCompletion_row (call : SettleCall) (b : Billing) :
    (settleAfterCompletion call b).billing.allocations = b.allocations ∧
    (((settleAfterCompletion call b).billing.invoices = b.invoices ∧
        (settleAfterCompletion call b).posted = false) ∨
      ∃ old new, b.invoices[call.invoice]? = some old ∧ old.status ≠ .refunded ∧
        new.status ≠ .refunded ∧
        (settleAfterCompletion call b).billing.invoices = b.invoices.set call.invoice new) := by
  unfold settleAfterCompletion
  split
  · exact ⟨rfl, .inl ⟨rfl, rfl⟩⟩
  · rename_i old hold
    split
    · exact ⟨rfl, .inl ⟨rfl, rfl⟩⟩
    · rename_i due hdue
      have hstatus : old.status ≠ .refunded ∧ due.status ≠ .refunded := by
        obtain ⟨rfl, hstatus⟩ | ⟨hpending, rfl⟩ := markDueAfterCompletion_ok hdue
        · have hnot : due.status ≠ .refunded := by
            intro hrefunded
            simp [hrefunded, InvoiceStatus.isSettled] at hstatus
          exact ⟨hnot, hnot⟩
        · exact ⟨by simp [hpending], by simp⟩
      simp only
      split
      · exact ⟨rfl, .inr ⟨old, due, hold, hstatus.1, hstatus.2, rfl⟩⟩
      · split
        · exact ⟨rfl, .inr ⟨old, due, hold, hstatus.1, hstatus.2, rfl⟩⟩
        · exact ⟨rfl, .inr ⟨old, due, hold, hstatus.1, hstatus.2, rfl⟩⟩
        · split
          · exact ⟨rfl, .inr ⟨old, due, hold, hstatus.1, hstatus.2, rfl⟩⟩
          · split
            · exact ⟨rfl, .inr ⟨old, due, hold, hstatus.1, hstatus.2, rfl⟩⟩
            · rename_i row hrow
              simp only [settleRecord, check_bind_eq_ok] at hrow
              obtain ⟨-, hpaid, -⟩ := State.recordPaid_ok hrow.2
              exact ⟨rfl, .inr ⟨old, row, hold, hstatus.1, by simp [hpaid], List.set_set ..⟩⟩

theorem Sound.settle (sound : Sound s) (call : SettleCall) : Sound (s.after (.settle call)) := by
  obtain ⟨hallocations, hcase⟩ := settleAfterCompletion_row call s.billing
  have hallocated : ∀ id, (s.after (.settle call)).billing.allocated id = s.billing.allocated id :=
    Billing.allocated_congr hallocations
  refine sound.pay rfl ?_
  intro other row hrow
  obtain ⟨hinvoices, hposted⟩ | ⟨old, new, hold, hbefore, hafter, hinvoices⟩ := hcase
  · refine ⟨row, by rw [← hinvoices]; exact hrow, .inl ⟨?_, Iff.rfl⟩⟩
    rw [paid, paid, hallocated]
    simp [Books.after, Books.settle, hposted]
  · have hset : (s.billing.invoices.set call.invoice new)[other]? = some row := by
      rw [← hinvoices]
      exact hrow
    cases hposted : (settleAfterCompletion call s.billing).posted with
    | false =>
      have hpaid : (s.after (.settle call)).paid other = s.paid other := by
        rw [paid, paid, hallocated]
        simp [Books.after, Books.settle, hposted]
      obtain ⟨rfl, rfl⟩ | ⟨-, hrow⟩ := getElem?_set_cases hset
      · exact ⟨old, hold, .inl ⟨hpaid, iff_of_false hafter hbefore⟩⟩
      · exact ⟨row, hrow, .inl ⟨hpaid, Iff.rfl⟩⟩
    | true =>
      have hpaid : (s.after (.settle call)).paid other = s.paid other +
          if call.invoice = other then old.amount.toDecimal else 0 := by
        rw [paid, paid, hallocated]
        simp [Books.after, Books.settle, hposted, hold, total_append, add_assoc]
      obtain ⟨rfl, rfl⟩ | ⟨hne, hrow⟩ := getElem?_set_cases hset
      · refine ⟨old, hold, .inr ⟨?_, hafter⟩⟩
        rw [hpaid]
        simpa using old.amount.toDecimal_pos
      · exact ⟨row, hrow, .inl ⟨by rw [hpaid]; simp [Ne.symm hne], Iff.rfl⟩⟩

/-! ## Refunds -/

theorem refundChecks_ok (h : refundChecks b call.invoice call.args = .ok (invoice, amount)) :
    b.invoices[call.invoice]? = some invoice ∧ 0 < amount := by
  obtain ⟨found, hfound, h⟩ := bind_eq_ok.mp h
  obtain ⟨value, hvalue, h⟩ := bind_eq_ok.mp h
  obtain ⟨currency, -, h⟩ := bind_eq_ok.mp h
  simp only [check_bind_eq_ok, pure_eq_ok, Prod.mk.injEq] at h
  obtain ⟨-, -, -, rfl, rfl⟩ := h
  refine ⟨Billing.getInvoice_ok hfound, ?_⟩
  unfold money at hvalue
  split at hvalue
  · cases hvalue
  · simp only [check_bind_eq_ok, require_eq_ok, pure_eq_ok] at hvalue
    obtain ⟨hpositive, rfl⟩ := hvalue
    exact hpositive

/-- The check of the table: a negative amount is never stored. -/
theorem ofDecimal?_neg (h : 0 < amount) : Amount.ofDecimal? (-amount) = none := by
  have hround : roundHalfUp microsPerUnit (-amount) ≤ 0 := by
    refine roundHalfUp_le ?_
    have : 0 < amount * (microsPerUnit : ℚ) := mul_pos h (by norm_num [microsPerUnit])
    push_cast
    linarith
  unfold Amount.ofDecimal?
  rw [dif_neg]
  rintro ⟨hpositive, -⟩
  omega

/-- A quantized positive amount is stored as one. -/
theorem quantized_micros_pos {request : TransferRequest} (h : 0 < request.quantized) :
    0 < roundHalfUp microsPerUnit request.quantized := by
  have hsteps : 0 < roundDown moneyQuant request.amount := by
    rwa [TransferRequest.quantized, quantize, gridValue_pos_iff (by decide)] at h
  rw [TransferRequest.quantized, roundHalfUp_quantize]
  omega

/-- A refund transfer that returns is a replay that changed nothing, or it has
changed the balance of the escrow. -/
theorem refundTransfer_ok {receipt : TransferReceipt} {db : Db}
    (h : refundTransfer call b invoice amount = .ok (receipt, db)) :
    (receipt.alreadyProcessed = true ∧ db = b.db) ∨
      (receipt.alreadyProcessed = false ∧ ∃ accountId currency,
        db.getBalance accountId currency ≠ b.db.getBalance accountId currency) := by
  obtain ⟨found, hfound, h⟩ := bind_eq_ok.mp h
  split at h
  · cases h
  · rename_i payer
    obtain ⟨escrow, hescrow, h⟩ := bind_eq_ok.mp h
    split at h
    · cases h
    · rename_i result htransfer
      cases h
      obtain ⟨hpayerStored, -, hpayerCurrency⟩ := getByUserId_ok hfound
      obtain ⟨hescrowStored, -, hescrowCurrency⟩ := getTransportEscrowAccount_ok hescrow
      obtain ⟨parties, hparties, hreplay | hposted⟩ := transfer_ok htransfer
      · obtain ⟨rfl, id, existing, -, -, -, rfl⟩ := hreplay
        exact .inl ⟨rfl, rfl⟩
      · obtain ⟨-, legs, booking, row, hlegs, -, posted, hbooked, -, -, rfl, rfl⟩ := hposted
        obtain ⟨hdiffer, hpositive, hsender, hrecipient⟩ := transferOpening_ok hparties
        have hescrowFound := Db.accountById_of_mem hescrowStored
        have hpayerFound := Db.accountById_of_mem hpayerStored
        obtain ⟨sender, recipient⟩ := parties
        obtain rfl : escrow = sender := Option.some.inj (hescrowFound.symm.trans hsender)
        obtain rfl : payer = recipient := Option.some.inj (hpayerFound.symm.trans hrecipient)
        have hsame := (transferChecks_ok hlegs).1
        simp only [transferLegs, hescrowCurrency, hpayerCurrency, if_true] at hsame
        cases hsame
        refine .inr ⟨by simp [transferReceipt, hbooked], escrow.id, escrow.currency, ?_⟩
        -- The two entries are in one currency on two accounts, so the debit shows.
        have hfee : (refundRequest call invoice escrow payer amount).fee = 0 := rfl
        have hne : payer.id ≠ escrow.id := Ne.symm hdiffer
        have hbalance := posted.balance escrow.id escrow.currency
        simp only [transferDrafts, hfee, lt_irrefl, if_false, List.append_nil, List.map_cons,
          List.map_nil, Db.EntryDraft.posting, Posting.balance_cons, Posting.balance_nil,
          hescrowCurrency, and_self, if_true, hne, false_and, add_zero] at hbalance
        have hdebit := quantized_micros_pos hpositive
        rw [Db.getBalance, Db.getBalance, Ne, gridValue_inj (by decide), hescrowCurrency, hbalance]
        omega

theorem Sound.refund_refused (sound : Sound s) {e : InvoiceError}
    (houtcome : processRefund call s.billing = ⟨s.billing, .error e, none⟩) :
    Sound (s.after (.refund call)) ∧ FailsClean s call := by
  constructor
  · simpa [Books.after, Books.refund, houtcome] using sound
  · intro _ _ _ _
    rw [houtcome]

theorem statusAfterRefund_refunded (b : Billing) (id : ℕ) (invoice : Invoice) :
    statusAfterRefund b id invoice = .refunded ↔ b.allocated id = 0 := by
  have hnonneg := allocated_nonneg b id
  unfold statusAfterRefund
  split
  · rename_i hnone
    exact iff_of_true rfl (le_antisymm hnone hnonneg)
  · rename_i hsome
    refine iff_of_false ?_ (fun hzero => hsome hzero.le)
    split <;> simp

/-- A refund outside the wallet path is recorded in full and only rewrites the
status. -/
theorem Sound.refund_recorded_iff (sound : Sound s) (positive : ∀ entry ∈ s.refunds, 0 < entry.2)
    (hinvoice : s.billing.invoices[call.invoice]? = some invoice) (hamount : 0 < amount)
    (houtcome : processRefund call s.billing =
      ⟨s.billing.withRefundStatus call.invoice invoice, .ok amount, some amount⟩) :
    Sound (s.after (.refund call)) ↔
      s.refunded call.invoice + amount ≤ s.paid call.invoice ∧
        (s.refunded call.invoice + amount = s.paid call.invoice ↔
          s.billing.allocated call.invoice = 0) := by
  have hpaid : ∀ id, (s.after (.refund call)).paid id = s.paid id := by
    intro id
    simp [Books.after, Books.refund, houtcome, paid, Billing.withRefundStatus, Billing.allocated]
  have hrefunded : ∀ id, (s.after (.refund call)).refunded id =
      s.refunded id + if call.invoice = id then amount else 0 := by
    intro id
    simp [Books.after, Books.refund, houtcome, refunded, total_append]
  have hrows : (s.after (.refund call)).billing.invoices = s.billing.invoices.set call.invoice
      { invoice with status := statusAfterRefund s.billing call.invoice invoice } := by
    simp [Books.after, Books.refund, houtcome, Billing.withRefundStatus]
  have hbefore : 0 ≤ s.refunded call.invoice := total_nonneg positive _
  have hstatus := statusAfterRefund_refunded s.billing call.invoice invoice
  constructor
  · intro after
    have hrow : (s.after (.refund call)).billing.invoices[call.invoice]? = some
        { invoice with status := statusAfterRefund s.billing call.invoice invoice } := by
      rw [hrows, List.getElem?_set_self (List.getElem?_eq_some_iff.mp hinvoice).1]
    have hcovered := after.covered _ _ hrow
    have hiff := after.refundedIff _ _ hrow
    rw [hrefunded, hpaid] at hcovered hiff
    simp only [if_true] at hcovered hiff
    refine ⟨hcovered, ?_⟩
    rw [← hstatus, hiff]
    exact ⟨fun hall => ⟨by linarith, hall⟩, fun hboth => hboth.2⟩
  · rintro ⟨hcovered, hiff⟩
    constructor
    · intro other row hrow
      rw [hrefunded, hpaid]
      rw [hrows] at hrow
      obtain ⟨rfl, rfl⟩ | ⟨hne, hold⟩ := getElem?_set_cases hrow
      · simpa using hcovered
      · simpa [Ne.symm hne] using sound.covered other row hold
    · intro other row hrow
      rw [hrefunded, hpaid]
      rw [hrows] at hrow
      obtain ⟨rfl, rfl⟩ | ⟨hne, hold⟩ := getElem?_set_cases hrow
      · simp only [if_true]
        rw [hstatus, ← hiff]
        exact ⟨fun hall => ⟨by linarith, hall⟩, fun hboth => hboth.2⟩
      · simpa [Ne.symm hne] using sound.refundedIff other row hold

/-- Right after a refund the books are sound and the call has failed cleanly, if it
failed, exactly when it was refundable. -/
theorem Sound.refund_iff (sound : Sound s) (positive : ∀ entry ∈ s.refunds, 0 < entry.2)
    (call : RefundCall) :
    (Sound (s.after (.refund call)) ∧ FailsClean s call) ↔ Refundable s (.refund call) := by
  cases hchecks : refundChecks s.billing call.invoice call.args with
  | error e =>
    refine iff_of_true (sound.refund_refused (e := e) (by simp only [processRefund, hchecks])) ?_
    intro invoice amount h
    rw [hchecks] at h
    cases h
  | ok checked =>
    obtain ⟨invoice, amount⟩ := checked
    obtain ⟨hinvoice, hamount⟩ := refundChecks_ok hchecks
    have hrefundable : Refundable s (.refund call) ↔
        if invoice.paymentMethod = .wallet ∧ invoice.status ≠ .cashReceived then
          ∀ receipt db, refundTransfer call s.billing invoice amount = .ok (receipt, db) →
            receipt.alreadyProcessed = true
        else
          s.refunded call.invoice + amount ≤ s.paid call.invoice ∧
            (s.refunded call.invoice + amount = s.paid call.invoice ↔
              s.billing.allocated call.invoice = 0) := by
      simp [Refundable, hchecks]
    rw [hrefundable]
    by_cases hwallet : invoice.paymentMethod = .wallet ∧ invoice.status ≠ .cashReceived
    · rw [if_pos hwallet]
      cases htransfer : refundTransfer call s.billing invoice amount with
      | error e =>
        refine iff_of_true (sound.refund_refused (e := e) ?_) (by simp)
        simp only [processRefund, hchecks, if_pos hwallet, htransfer]
      | ok result =>
        obtain ⟨receipt, db⟩ := result
        have houtcome : processRefund call s.billing = ⟨{ s.billing with db },
            .error .database, if receipt.alreadyProcessed then none else some amount⟩ := by
          simp only [processRefund, hchecks, if_pos hwallet, htransfer,
            ofDecimal?_neg hamount]
        obtain ⟨hreplayed, rfl⟩ | ⟨hposted, hmoved⟩ := refundTransfer_ok htransfer
        · refine iff_of_true (sound.refund_refused (e := .database) ?_) ?_
          · rw [houtcome, if_pos hreplayed]
          · rintro receipt' db' hsame
            obtain ⟨rfl, -⟩ := Prod.mk.inj (Except.ok.inj hsame)
            exact hreplayed
        · refine iff_of_false ?_ ?_
          · rintro ⟨-, hclean⟩
            obtain ⟨accountId, currency, hdiffer⟩ := hmoved
            have hsame := hclean .database (by rw [houtcome]) accountId currency
            rw [houtcome] at hsame
            exact hdiffer hsame
          · intro hall
            have hreplayed := hall receipt db rfl
            rw [hposted] at hreplayed
            cases hreplayed
    · rw [if_neg hwallet]
      have houtcome : processRefund call s.billing =
          ⟨s.billing.withRefundStatus call.invoice invoice, .ok amount, some amount⟩ := by
        simp only [processRefund, hchecks, if_neg hwallet]
      have hclean : FailsClean s call := by
        intro e herror
        rw [houtcome] at herror
        cases herror
      rw [← sound.refund_recorded_iff positive hinvoice hamount houtcome]
      exact ⟨fun h => h.1, fun h => ⟨h, hclean⟩⟩

/-! ## Whole runs -/

theorem processRefund_given (h : (processRefund call b).given = some amount) : 0 < amount := by
  unfold processRefund at h
  split at h
  · cases h
  · rename_i invoice checked hchecks
    have hpositive := (refundChecks_ok hchecks).2
    simp only [ofDecimal?_neg hpositive] at h
    split at h
    · split at h
      · cases h
      · split at h
        · cases h
        · rwa [← Option.some.inj h]
    · rwa [← Option.some.inj h]

/-- Everything given back is a positive amount. -/
theorem refunds_positive_after (positive : ∀ entry ∈ s.refunds, 0 < entry.2) (call : InvoiceCall) :
    ∀ entry ∈ (s.after call).refunds, 0 < entry.2 := by
  cases call with
  | payment call => exact positive
  | markDue id context =>
    simp only [Books.after, Books.rewrite]
    repeat' split
    all_goals exact positive
  | confirmCash id context driver =>
    simp only [Books.after, Books.rewrite]
    repeat' split
    all_goals exact positive
  | settle call => exact positive
  | refund call =>
    intro entry hentry
    obtain hold | hnew := List.mem_append.mp hentry
    · exact positive entry hold
    · obtain ⟨amount, hgiven, rfl⟩ := List.mem_map.mp hnew
      exact processRefund_given (Option.mem_toList.mp hgiven)

theorem Sound.after (sound : Sound s) (positive : ∀ entry ∈ s.refunds, 0 < entry.2)
    {call : InvoiceCall} (refundable : Refundable s call) : Sound (s.after call) := by
  cases call with
  | payment call => exact sound.payment call
  | markDue id context => exact sound.markDue id context
  | confirmCash id context driver => exact sound.confirmCash id context driver
  | settle call => exact sound.settle call
  | refund call => exact ((sound.refund_iff positive call).mpr refundable).1

/-- Open invoices on which nothing was paid or refunded. -/
structure Fresh (s : Books) : Prop where
  billing : s.billing.Fresh
  notRefunded : ∀ invoice ∈ s.billing.invoices, invoice.status ≠ .refunded
  collected : s.collected = []
  refunds : s.refunds = []

theorem Fresh.sound (fresh : Fresh s) : Sound s := by
  have hrefunded : ∀ id, s.refunded id = 0 := by simp [refunded, total, fresh.refunds]
  have hpaid : ∀ id, s.paid id = 0 := by
    simp [paid, total, fresh.collected, Billing.allocated, fresh.billing.allocations]
  constructor
  · intro id invoice _
    rw [hrefunded, hpaid]
  · intro id invoice hinvoice
    rw [hrefunded, hpaid]
    exact iff_of_false (fresh.notRefunded invoice (List.mem_of_getElem? hinvoice)) (by simp)

/-- In every run whose refunds are all refundable the books are sound and every
refund that fails, fails cleanly. In every run at all, a refund of sound books does
both exactly when it is refundable. -/
theorem refunds_sound (fresh : Fresh s) :
    (∀ calls t, Run (Guarded Refundable Step) s calls t →
      Sound t ∧ ∀ call, Refundable t (.refund call) → FailsClean t call) ∧
    (∀ calls t, Run Step s calls t → Sound t → ∀ call,
      (Sound (t.after (.refund call)) ∧ FailsClean t call) ↔ Refundable t (.refund call)) := by
  have start : ∀ entry ∈ s.refunds, 0 < entry.2 := by simp [fresh.refunds]
  constructor
  · intro calls t run
    obtain ⟨sound, positive⟩ : Sound t ∧ ∀ entry ∈ t.refunds, 0 < entry.2 := by
      refine run.invariant (fun s => Sound s ∧ ∀ entry ∈ s.refunds, 0 < entry.2) ?_
        ⟨fresh.sound, start⟩
      rintro s call t ⟨sound, positive⟩ ⟨refundable, rfl⟩
      exact ⟨sound.after positive refundable, refunds_positive_after positive call⟩
    exact ⟨sound, fun call h => ((sound.refund_iff positive call).mpr h).2⟩
  · intro calls t run sound call
    have positive : ∀ entry ∈ t.refunds, 0 < entry.2 := by
      refine run.invariant (fun s => ∀ entry ∈ s.refunds, 0 < entry.2) ?_ start
      rintro s call t positive rfl
      exact refunds_positive_after positive call
    exact sound.refund_iff positive call

/-! ## A cash ride and a wallet ride -/

/-- The ride of `Settlement`, with a chosen method of payment. The wallet has also
recorded a transfer of 100 shillings from the payer to the escrow. -/
def rideBooks (paymentMethod : PaymentMethod) : Books where
  billing :=
    { db := walletRun State.rideWallets
        [(Env.lenient 1 ⟨7, false⟩, .transfer (rent none none))]
      invoices := [{ State.rideInvoice with paymentMethod }]
      attempts := []
      allocations := [] }
  collected := []
  refunds := []

/-- A refund of the whole ride. -/
def refundRide : RefundCall where
  invoice := 0
  args := { amount := some 100, currency := "UGX", reason := "Driver did not arrive" }
  accounts := { isActive := fun _ => true, isTransportEscrow := fun id => id = 2 }
  env := Env.lenient 2 ⟨9, true⟩
  suffix := "5f3a9c01"

theorem run_after (s : Books) (calls : List InvoiceCall) :
    Run Step s calls (calls.foldl Books.after s) :=
  (Run.foldl Books.after s calls).mono (fun _ _ _ h => h.symm)

private theorem rideBooks_fresh (paymentMethod : PaymentMethod) : Fresh (rideBooks paymentMethod) :=
  ⟨⟨rfl, rfl, by simp [rideBooks, State.rideInvoice]⟩,
    by simp [rideBooks, State.rideInvoice], rfl, rfl⟩

/-- The ride after it was paid in cash. -/
def cashRide : Books :=
  [.markDue 0 State.rideContext, .confirmCash 0 State.rideContext ⟨4, 44, none⟩].foldl Books.after
    (rideBooks .cash)

/-- A ride paid in cash is refunded in full. -/
theorem cash_ride_refunded :
    Sound (cashRide.after (.refund refundRide)) ∧
      (cashRide.after (.refund refundRide)).refunded 0 = 100 := by
  have hpaid : (match refundChecks cashRide.billing refundRide.invoice refundRide.args with
      | .error _ => true
      | .ok (invoice, amount) =>
        ¬ (invoice.paymentMethod = .wallet ∧ invoice.status ≠ .cashReceived) ∧
          cashRide.refunded 0 + amount = cashRide.paid 0 ∧
          cashRide.billing.allocated 0 = 0) = true := by
    decide +kernel
  refine ⟨((refunds_sound (rideBooks_fresh .cash)).1 [.markDue 0 State.rideContext,
    .confirmCash 0 State.rideContext ⟨4, 44, none⟩, .refund refundRide] _ ?_).1, by decide +kernel⟩
  refine .cons ⟨trivial, rfl⟩ (.cons ⟨trivial, rfl⟩ (.cons ⟨?_, rfl⟩ (.nil _)))
  change Refundable cashRide (.refund refundRide)
  intro invoice amount hchecks
  rw [hchecks] at hpaid
  simp only [decide_eq_true_eq] at hpaid
  obtain ⟨hcash, hall, hnone⟩ := hpaid
  rw [if_neg hcash]
  exact ⟨hall.le, iff_of_true hall hnone⟩

/-- The ride is paid from the wallet: the recorded transfer is put to it. -/
def walletRide : List InvoiceCall :=
  [.payment (.create 0 { amount := some 100, currency := "UGX", paymentMethod := "wallet" }),
    .payment (.complete 0 { transactionId := some 1 })]

/-- Its refund fails after the money has gone back. -/
theorem failed_refund_moves_money :
    ¬ ∀ (s t : Books) (calls : List InvoiceCall), Fresh s → Run Step s calls t →
      Sound t ∧ ∀ call, FailsClean t call := by
  intro claim
  have hmoved : let t := walletRide.foldl Books.after (rideBooks .wallet)
      (processRefund refundRide t.billing).result.isOk = false ∧
        (processRefund refundRide t.billing).billing.db.getBalance 1 "UGX" ≠
          t.billing.db.getBalance 1 "UGX" := by
    decide +kernel
  obtain ⟨-, hclean⟩ := claim (rideBooks .wallet) _ walletRide (rideBooks_fresh .wallet)
    (run_after _ _)
  obtain ⟨hfailed, hdiffer⟩ := hmoved
  cases hresult : (processRefund refundRide
      (walletRide.foldl Books.after (rideBooks .wallet)).billing).result with
  | error e => exact hdiffer (hclean refundRide e hresult 1 "UGX")
  | ok amount =>
    rw [hresult] at hfailed
    cases hfailed

end Books

end Afcon360.Marketplace
