import Afcon360.Wallet.Checks

/-!
# Marketplace invoices

A row of `wallet_marketplace_invoices` and the steps of `MarketplaceInvoiceService`
that read and rewrite one row under its lock: the comparison of the caller's
context, `mark_due_after_completion`, and `confirm_cash_receipt`. An invoice is
identified by its position. Its amount went through `_money` when it was created
and is a whole number of hundredths.
-/

namespace Afcon360.Marketplace

open Foundation Wallet

inductive InvoiceStatus
  | pending | due | paid | cashReceived | failed | cancelled | refunded | partiallyPaid
  | partiallyRefunded | refundPending
  deriving DecidableEq, Repr

inductive PaymentMethod
  | cash | wallet
  | other (methodId : String)
  deriving DecidableEq, Repr

inductive SettlementTiming
  | payOnCompletion | payNow | deposit | payOnArrival
  deriving DecidableEq, Repr

/-- The codes of `MarketplaceInvoiceError`. -/
inductive ErrorCode
  | invalidAmount | invalidCurrency | invoiceNotFound | invoiceContextMismatch | invoiceNotPayable
  | methodNotIntegrated | walletAccountMissing | walletAccountUnavailable
  | transportEscrowUnavailable | transactionPinRequired | insufficientFunds
  | settlementUnavailable | settlementUnverified | invoiceAlreadyPaid | invoiceStateChanged
  | methodMismatch | cashAlreadyConfirmed | invoiceNotDue | invoiceAlreadySettled
  | currencyMismatch | amountExceedsOutstanding | attemptNotFound | attemptAlreadyCompleted
  | invalidTransaction | transactionNotFound | transactionNotCompleted | amountMismatch |
      invoiceNotRefundable
  | refundExceedsEligible | payerWalletMissing | escrowInsufficientFunds | escrowMissing
  | refundUnavailable | invalidIdempotencyKey | invalidServiceReference | payerRequired
  | timingNotSupported | invoiceIdempotencyConflict | invoiceConflictUnresolved
  | methodUnavailable | currencyNotSupported | marketNotSupported | amountOutOfRange
  | walletPinAuthorizationUnavailable
  deriving DecidableEq, Repr

/-- What a call of the service raises: its own error, or one of the database. -/
inductive InvoiceError
  | refused (code : ErrorCode) (message : String)
  | database
  deriving DecidableEq, Repr

/-- The receipt metadata a driver's confirmation leaves. -/
structure CashConfirmation where
  driverUserId : UserId
  driverProfileId : ℤ
  driverCode : Option String
  deriving DecidableEq, Repr

structure Invoice where
  serviceCode : String
  serviceReference : String
  payerUserId : UserId
  amount : Amount
  currency : Currency
  paymentMethod : PaymentMethod
  settlementTiming : SettlementTiming := .payOnCompletion
  status : InvoiceStatus := .pending
  transactionId : Option TransactionId := none
  cashReceivedByUserId : Option UserId := none
  receipt : Option CashConfirmation := none
  hundredths : (10000 : ℤ) ∣ amount.micros

/-- `_SETTLED_STATES`. -/
def InvoiceStatus.isSettled : InvoiceStatus → Bool
  | .paid | .cashReceived => true
  | _ => false

/-! ## Normalised input -/

/-- `_money`; `none` is a value that is not a number. -/
def money (value : Option ℚ) : Except InvoiceError ℚ :=
  match value with
  | none => .error (.refused .invalidAmount "Invoice amount is invalid")
  | some value => do
      let amount := gridValue moneyQuant (roundHalfUp moneyQuant value)
      require (0 < amount) (.refused .invalidAmount "Invoice amount must be greater than zero")
      pure amount

/-- `_currency`. -/
def currencyCode (value : String) : Except InvoiceError Currency := do
  let result := (strip value).toUpper
  require (result ≠ "" ∧ result.length ≤ 10 ∧ result.toList.all Char.isAlpha)
    (.refused .invalidCurrency "Invoice currency is invalid")
  pure result

/-- What a marketplace module says about the service it reports on. -/
structure ServiceContext where
  payerUserId : UserId
  serviceCode : String
  serviceReference : String
  amount : Option ℚ
  currency : String

/-- `_validate_context`. -/
def validateContext (invoice : Invoice) (context : ServiceContext) : Except InvoiceError Unit := do
  let amount ← money context.amount
  let currency ← currencyCode context.currency
  require
    (invoice.serviceCode = (strip context.serviceCode).toLower ∧
      invoice.serviceReference = strip context.serviceReference ∧
      invoice.payerUserId = context.payerUserId ∧
      quantizeHalfEven invoice.amount.toDecimal = amount ∧
      invoice.currency.toUpper = currency)
    (.refused .invoiceContextMismatch
      "The settlement details do not match the confirmed Wallet invoice.")

/-! ## Rewriting a row -/

/-- `mark_due_after_completion` on the locked row. -/
def markDueAfterCompletion (invoice : Invoice) (context : ServiceContext) :
    Except InvoiceError Invoice := do
  validateContext invoice context
  match invoice.status with
  | .pending => pure { invoice with status := .due }
  | .due | .paid | .cashReceived => pure invoice
  | _ => .error (.refused .invoiceNotPayable
      "This Wallet invoice is not payable in its current state.")

/-- The driver who confirms a cash receipt. -/
structure Driver where
  userId : UserId
  profileId : ℤ
  code : Option String := none

/-- `str(driver_code or "")[:100] or None`. -/
def Driver.storedCode (driver : Driver) : Option String :=
  (driver.code.map (fun code => String.ofList (code.toList.take 100))).filter (· ≠ "")

/-- `receipt.get("driver_profile_id") or -1`; zero counts as missing. -/
def Invoice.confirmedBy (invoice : Invoice) : ℤ :=
  match invoice.receipt with
  | none => -1
  | some receipt => if receipt.driverProfileId = 0 then -1 else receipt.driverProfileId

/-- `confirm_cash_receipt` on the locked row. -/
def confirmCashReceipt (invoice : Invoice) (context : ServiceContext) (driver : Driver) :
    Except InvoiceError Invoice := do
  validateContext invoice context
  require (invoice.paymentMethod = .cash)
    (.refused .methodMismatch "This invoice did not select cash payment.")
  if invoice.status = .cashReceived then
    require (invoice.confirmedBy = driver.profileId)
      (.refused .cashAlreadyConfirmed "Cash receipt has already been confirmed for this invoice.")
    pure invoice
  else
    require (invoice.status = .due) (.refused .invoiceNotDue
      "Cash can be confirmed only after Wallet records the completed trip as due.")
    pure
      { invoice with
        status := .cashReceived
        cashReceivedByUserId := some driver.userId
        receipt := some ⟨driver.userId, driver.profileId, driver.storedCode⟩ }

/-! ## What the steps leave in place -/

/-- The terms of an invoice, which no step changes. -/
structure Invoice.SameTerms (old new : Invoice) : Prop where
  payerUserId : new.payerUserId = old.payerUserId
  amount : new.amount = old.amount
  currency : new.currency = old.currency
  paymentMethod : new.paymentMethod = old.paymentMethod

variable {invoice new : Invoice} {context : ServiceContext}

/-- Marking an invoice due changes a pending one to due, and leaves a due or
settled one alone. -/
theorem markDueAfterCompletion_ok (h : markDueAfterCompletion invoice context = .ok new) :
    (new = invoice ∧ (invoice.status = .due ∨ invoice.status.isSettled = true)) ∨
      (invoice.status = .pending ∧ new = { invoice with status := .due }) := by
  simp only [markDueAfterCompletion, check_bind_eq_ok] at h
  obtain ⟨-, h⟩ := h
  split at h
  · rename_i hstatus
    exact .inr ⟨hstatus, (pure_eq_ok.mp h).symm⟩
  · rename_i hstatus
    exact .inl ⟨(pure_eq_ok.mp h).symm, .inl hstatus⟩
  · rename_i hstatus
    exact .inl ⟨(pure_eq_ok.mp h).symm, .inr (by rw [hstatus]; rfl)⟩
  · rename_i hstatus
    exact .inl ⟨(pure_eq_ok.mp h).symm, .inr (by rw [hstatus]; rfl)⟩
  · cases h

/-- A confirmed cash receipt is one of a cash invoice that was due, or a repeated
confirmation that changes nothing. -/
theorem confirmCashReceipt_ok {driver : Driver}
    (h : confirmCashReceipt invoice context driver = .ok new) :
    invoice.paymentMethod = .cash ∧
      ((new = invoice ∧ invoice.status = .cashReceived) ∨
        (invoice.status = .due ∧
          new = { invoice with
            status := .cashReceived
            cashReceivedByUserId := some driver.userId
            receipt := some ⟨driver.userId, driver.profileId, driver.storedCode⟩ })) := by
  simp only [confirmCashReceipt, check_bind_eq_ok, require_eq_ok] at h
  obtain ⟨-, hcash, h⟩ := h
  refine ⟨hcash, ?_⟩
  split at h
  · rename_i hstatus
    simp only [check_bind_eq_ok, pure_eq_ok] at h
    exact .inl ⟨h.2.symm, hstatus⟩
  · simp only [check_bind_eq_ok, require_eq_ok, pure_eq_ok] at h
    exact .inr ⟨h.1, h.2.symm⟩

/-- The amount of an invoice survives the wallet's quantization. -/
theorem Invoice.quantize_amount (invoice : Invoice) :
    quantize invoice.amount.toDecimal = invoice.amount.toDecimal := by
  obtain ⟨cents, hcents⟩ := invoice.hundredths
  have hgrid : invoice.amount.toDecimal = gridValue moneyQuant cents := by
    simp only [Amount.toDecimal, gridValue, hcents, microsPerUnit, moneyQuant]
    push_cast
    ring
  rw [hgrid, quantize_gridValue]

end Afcon360.Marketplace
