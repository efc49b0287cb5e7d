import Afcon360.Wallet.System
import Afcon360.Marketplace.Invoice

/-!
# Partial payments

`create_payment_attempt` and `complete_payment_attempt`. An attempt is checked
against what is outstanding when it is created; completing it allocates its amount
to the invoice without another check.

A completion adds the allocation to the session before it adds up the invoice's
allocations. The query behind that sum flushes the session, so the new allocation
is among the rows it returns, and the amount of the attempt is added to them once
more.
-/

namespace Afcon360.Marketplace

open Foundation Wallet

inductive AttemptStatus
  | created | pending | requiresAction | succeeded | failed | cancelled | expired
  deriving DecidableEq, Repr

/-- The states in which an attempt can still be completed. -/
def AttemptStatus.isOpen : AttemptStatus → Bool
  | .created | .pending | .requiresAction => true
  | _ => false

/-- A row of `wallet_marketplace_payment_attempts`. -/
structure PaymentAttempt where
  invoice : ℕ
  attemptNumber : ℕ
  amount : Amount
  currency : Currency
  paymentMethod : String
  providerName : Option String := none
  providerReference : Option String := none
  status : AttemptStatus := .created
  idempotencyKey : Option String := none
  errorCode : Option String := none
  errorMessage : Option String := none

/-- A row of `wallet_marketplace_allocations`. `attempt` is not a column: it
records which attempt the row was written for. -/
structure Allocation where
  transactionId : TransactionId
  invoice : ℕ
  amount : Amount
  currency : Currency
  attempt : ℕ

/-- The wallet tables and the marketplace tables. -/
structure Billing where
  db : Db
  invoices : List Invoice
  attempts : List PaymentAttempt
  allocations : List Allocation

namespace Billing

/-- The sum of an invoice's allocations. -/
def allocated (b : Billing) (id : ℕ) : ℚ :=
  ((b.allocations.filter (·.invoice = id)).map (·.amount.toDecimal)).sum

/-- `MarketplaceInvoice.outstanding_amount`. -/
def outstandingAmount (b : Billing) (id : ℕ) (invoice : Invoice) : ℚ :=
  if invoice.status.isSettled then 0 else max (invoice.amount.toDecimal - b.allocated id) 0

/-- The row `get_invoice` returns. -/
def getInvoice (b : Billing) (id : ℕ) : Except InvoiceError Invoice :=
  match b.invoices[id]? with
  | none => .error (.refused .invoiceNotFound "Wallet invoice not found")
  | some invoice => .ok invoice

end Billing

/-! ## Creating an attempt -/

/-- The arguments of `create_payment_attempt`. -/
structure AttemptArgs where
  amount : Option ℚ
  currency : String
  paymentMethod : String
  providerName : Option String := none
  providerReference : Option String := none
  idempotencyKey : Option String := none

/-- The number of the next attempt. -/
def nextAttemptNumber (b : Billing) (id : ℕ) : ℕ :=
  ((b.attempts.filter (·.invoice = id)).map PaymentAttempt.attemptNumber).foldl max 0 + 1

/-- The status of an invoice after an attempt was added to it. -/
def statusWithAttempt (b : Billing) (id : ℕ) (invoice : Invoice) : InvoiceStatus :=
  match invoice.status with
  | .due =>
    if b.outstandingAmount id invoice < invoice.amount.toDecimal then .partiallyPaid else .due
  | .pending => if invoice.settlementTiming = .payOnCompletion then .pending else .due
  | status => status

/-- `create_payment_attempt`. -/
def createPaymentAttempt (b : Billing) (id : ℕ) (args : AttemptArgs) :
    Except InvoiceError Billing := do
  let invoice ← b.getInvoice id
  let amount ← money args.amount
  let currency ← currencyCode args.currency
  require (invoice.status.isSettled = false)
    (.refused .invoiceAlreadySettled "This invoice is already settled.")
  require (currency = invoice.currency)
    (.refused .currencyMismatch "Payment amount currency must match invoice currency.")
  require (amount ≤ b.outstandingAmount id invoice)
    (.refused .amountExceedsOutstanding "Payment amount exceeds remaining balance.")
  match Amount.ofDecimal? amount with
  | none => .error .database
  | some stored =>
    pure
      { b with
        invoices := b.invoices.set id { invoice with status := statusWithAttempt b id invoice }
        attempts := b.attempts ++
          [{ invoice := id
             attemptNumber := nextAttemptNumber b id
             amount := stored
             currency
             paymentMethod := (strip args.paymentMethod).toLower
             providerName := args.providerName
             providerReference := args.providerReference
             idempotencyKey := args.idempotencyKey }] }

/-! ## Completing an attempt -/

/-- The arguments of `complete_payment_attempt`; `transactionId` is `none` when it
is not a transaction id at all. -/
structure CompletionArgs where
  transactionId : Option TransactionId
  status : AttemptStatus := .succeeded
  providerReference : Option String := none
  errorCode : Option String := none
  errorMessage : Option String := none

/-- A provider reference replaces the recorded one unless it is empty. -/
def referenceAfter (args : CompletionArgs) (attempt : PaymentAttempt) : Option String :=
  (args.providerReference.filter (· ≠ "")).or attempt.providerReference

/-- The transaction a completion names, compared with the attempt. -/
def checkPayment (b : Billing) (attempt : PaymentAttempt) (args : CompletionArgs) :
    Except InvoiceError TransactionId :=
  match args.transactionId with
  | none => .error (.refused .invalidTransaction "Invalid transaction ID")
  | some id =>
    match b.db.transactions.get? id with
    | none => .error (.refused .transactionNotFound "Wallet transaction not found")
    | some row => do
        require (row.status = .completed)
          (.refused .transactionNotCompleted "Transaction is not completed")
        require (quantizeHalfEven row.amount.toDecimal = attempt.amount.toDecimal)
          (.refused .amountMismatch "Transaction amount does not match attempt amount")
        require (row.currency.toUpper = attempt.currency)
          (.refused .currencyMismatch "Transaction currency does not match attempt currency")
        pure id

/-- Insert an allocation; one transaction is allocated to an invoice once. -/
def Billing.allocate (b : Billing) (allocation : Allocation) : Except InvoiceError Billing :=
  if b.allocations.any (fun other => other.transactionId = allocation.transactionId ∧
      other.invoice = allocation.invoice) then .error .database
  else .ok { b with allocations := b.allocations ++ [allocation] }

/-- The invoice after a completion: the rows of the query, the new allocation
among them, and the attempt's amount again. -/
def settledRow (b : Billing) (attempt : PaymentAttempt) (transactionId : TransactionId)
    (invoice : Invoice) : Invoice :=
  let paidAmount := b.allocated attempt.invoice + attempt.amount.toDecimal
  if invoice.amount.toDecimal ≤ paidAmount then
    { invoice with status := .paid, transactionId := some transactionId }
  else { invoice with status := .partiallyPaid }

/-- `complete_payment_attempt`. -/
def completePaymentAttempt (b : Billing) (id : ℕ) (args : CompletionArgs) :
    Except InvoiceError Billing :=
  match b.attempts[id]? with
  | none => .error (.refused .attemptNotFound "Payment attempt not found")
  | some attempt => do
      require (attempt.status.isOpen = true) (.refused .attemptAlreadyCompleted
        "This payment attempt has already been completed.")
      if args.status = .succeeded then
        let transactionId ← checkPayment b attempt args
        let flushed ← b.allocate
          { transactionId, invoice := attempt.invoice, amount := attempt.amount
            currency := attempt.currency, attempt := id }
        pure
          { flushed with
            attempts := b.attempts.set id
              { attempt with
                status := .succeeded, providerReference := referenceAfter args attempt }
            invoices := b.invoices.modify attempt.invoice
              (settledRow flushed attempt transactionId) }
      else
        pure
          { b with
            attempts := b.attempts.set id
              { attempt with
                status := args.status
                errorCode := args.errorCode
                errorMessage := args.errorMessage
                providerReference := referenceAfter args attempt } }

/-! ## Runs -/

/-- A call, or wallet activity that leaves the wallet tables in another state. -/
inductive PaymentCall
  | wallet (db : Db)
  | create (invoice : ℕ) (args : AttemptArgs)
  | complete (attempt : ℕ) (args : CompletionArgs)

namespace Billing

/-- A call that raises is rolled back. -/
def committed (b : Billing) : Except InvoiceError Billing → Billing
  | .error _ => b
  | .ok b' => b'

def after (b : Billing) : PaymentCall → Billing
  | .wallet db => { b with db }
  | .create id args => b.committed (createPaymentAttempt b id args)
  | .complete id args => b.committed (completePaymentAttempt b id args)

def Step (b : Billing) (call : PaymentCall) (b' : Billing) : Prop := b' = b.after call

/-- Open invoices with no attempt and no allocation yet. -/
structure Fresh (b : Billing) : Prop where
  attempts : b.attempts = []
  allocations : b.allocations = []
  unpaid : ∀ invoice ∈ b.invoices, invoice.status ≠ .paid

/-- What is asked of the books: no invoice is overpaid, no attempt is allocated
twice, and an invoice is paid exactly when its allocations cover it. -/
structure Sound (b : Billing) : Prop where
  within : ∀ (id : ℕ) invoice, b.invoices[id]? = some invoice →
    b.allocated id ≤ invoice.amount.toDecimal
  once : (b.allocations.map Allocation.attempt).Nodup
  paidIff : ∀ (id : ℕ) invoice, b.invoices[id]? = some invoice →
    (invoice.status = .paid ↔ invoice.amount.toDecimal ≤ b.allocated id)

/-- An attempt that is completed as succeeded pays exactly what is left of its
invoice, or less than half of it. -/
def Fits (b : Billing) : PaymentCall → Prop
  | .complete id args => args.status = .succeeded → ∀ attempt invoice,
      b.attempts[id]? = some attempt → attempt.status.isOpen = true →
      b.invoices[attempt.invoice]? = some invoice →
      attempt.amount.toDecimal = invoice.amount.toDecimal - b.allocated attempt.invoice ∨
        2 * attempt.amount.toDecimal < invoice.amount.toDecimal - b.allocated attempt.invoice
  | _ => True

/-! ## What the calls do -/

variable {b b' : Billing} {id : ℕ}

variable {attempt : PaymentAttempt} {args : CompletionArgs}

theorem allocated_append {allocation : Allocation}
    (h : b'.allocations = b.allocations ++ [allocation]) (id : ℕ) :
    b'.allocated id = b.allocated id +
      if allocation.invoice = id then allocation.amount.toDecimal else 0 := by
  unfold allocated
  rw [h, List.filter_append, List.map_append, List.sum_append]
  by_cases hid : allocation.invoice = id <;> simp [hid]

theorem allocated_congr (h : b'.allocations = b.allocations) (id : ℕ) :
    b'.allocated id = b.allocated id := by
  rw [allocated, allocated, h]

theorem getInvoice_ok {invoice : Invoice} (h : b.getInvoice id = .ok invoice) :
    b.invoices[id]? = some invoice := by
  unfold getInvoice at h
  split at h
  · cases h
  · rename_i found hfound
    rw [hfound, Except.ok.inj h]

/-- A created attempt belongs to an invoice that is not paid, and leaves it unpaid
and as refunded as it was. -/
theorem createPaymentAttempt_ok {args : AttemptArgs} (h : createPaymentAttempt b id args = .ok b') :
    ∃ invoice attempt status, b.invoices[id]? = some invoice ∧ invoice.status ≠ .paid ∧
      status ≠ .paid ∧ (status = .refunded ↔ invoice.status = .refunded) ∧
      attempt.invoice = id ∧ b'.allocations = b.allocations ∧
      b'.attempts = b.attempts ++ [attempt] ∧
      b'.invoices = b.invoices.set id { invoice with status } := by
  obtain ⟨invoice, hinvoice, h⟩ := bind_eq_ok.mp h
  obtain ⟨amount, -, h⟩ := bind_eq_ok.mp h
  obtain ⟨currency, -, h⟩ := bind_eq_ok.mp h
  simp only [check_bind_eq_ok, require_eq_ok] at h
  obtain ⟨hopen, -, -, h⟩ := h
  have hunpaid : invoice.status ≠ .paid := by
    intro hpaid
    rw [hpaid] at hopen
    cases hopen
  have hstatus : statusWithAttempt b id invoice ≠ .paid ∧
      (statusWithAttempt b id invoice = .refunded ↔ invoice.status = .refunded) := by
    unfold statusWithAttempt
    split
    · rename_i hdue
      split <;> simp [hdue]
    · rename_i hpending
      split <;> simp [hpending]
    · exact ⟨hunpaid, Iff.rfl⟩
  split at h
  · cases h
  · cases h
    exact ⟨invoice, _, _, getInvoice_ok hinvoice, hunpaid, hstatus.1, hstatus.2, rfl, rfl, rfl,
      rfl⟩

/-- A completed attempt was open. A succeeded one is allocated and its invoice
settled with the new allocation in the sum; another leaves both alone. -/
theorem completePaymentAttempt_ok (h : completePaymentAttempt b id args = .ok b') :
    ∃ attempt done, b.attempts[id]? = some attempt ∧ attempt.status.isOpen = true ∧
      b'.attempts = b.attempts.set id done ∧ done.invoice = attempt.invoice ∧
      done.status = args.status ∧
      ((args.status = .succeeded ∧ ∃ transactionId,
          b'.allocations = b.allocations ++
            [⟨transactionId, attempt.invoice, attempt.amount, attempt.currency, id⟩] ∧
          b'.invoices = b.invoices.modify attempt.invoice
            (fun invoice => settledRow b' attempt transactionId invoice)) ∨
        (args.status ≠ .succeeded ∧ b'.allocations = b.allocations ∧
          b'.invoices = b.invoices)) := by
  unfold completePaymentAttempt at h
  split at h
  · cases h
  · rename_i attempt hattempt
    simp only [check_bind_eq_ok, require_eq_ok] at h
    obtain ⟨hopen, h⟩ := h
    split at h
    · rename_i hstatus
      obtain ⟨transactionId, -, h⟩ := bind_eq_ok.mp h
      obtain ⟨flushed, hflushed, h⟩ := bind_eq_ok.mp h
      cases h
      unfold allocate at hflushed
      split at hflushed
      · cases hflushed
      · cases hflushed
        exact ⟨attempt, _, hattempt, hopen, rfl, rfl, hstatus.symm,
          .inl ⟨hstatus, transactionId, rfl, rfl⟩⟩
    · rename_i hstatus
      cases h
      exact ⟨attempt, _, hattempt, hopen, rfl, rfl, rfl, .inr ⟨hstatus, rfl, rfl⟩⟩

theorem settledRow_amount {transactionId : TransactionId}
    (invoice : Invoice) : (settledRow b attempt transactionId invoice).amount = invoice.amount := by
  simp only [settledRow]
  split <;> rfl

theorem settledRow_paid {transactionId : TransactionId}
    (invoice : Invoice) : (settledRow b attempt transactionId invoice).status = .paid ↔
      invoice.amount.toDecimal ≤ b.allocated attempt.invoice + attempt.amount.toDecimal := by
  simp only [settledRow]
  split
  · rename_i hcovered
    exact iff_of_true rfl hcovered
  · rename_i hshort
    exact iff_of_false (by simp) hshort

/-! ## Without any condition -/

/-- Attempts belong to invoices, and every allocation to an attempt that
succeeded, each to another one. -/
structure Inv (b : Billing) : Prop where
  known : ∀ attempt ∈ b.attempts, attempt.invoice < b.invoices.length
  once : (b.allocations.map Allocation.attempt).Nodup
  done : ∀ allocation ∈ b.allocations, ∃ attempt,
    b.attempts[allocation.attempt]? = some attempt ∧ attempt.status = .succeeded

theorem Inv.create (inv : Inv b) {args : AttemptArgs}
    (h : createPaymentAttempt b id args = .ok b') :
    Inv b' := by
  obtain ⟨invoice, attempt, status, hinvoice, -, -, -, hattempt, hallocations, hattempts,
    hinvoices⟩ := createPaymentAttempt_ok h
  refine ⟨?_, by rw [hallocations]; exact inv.once, ?_⟩
  · intro other hother
    rw [hinvoices, List.length_set]
    rw [hattempts] at hother
    obtain hold | hnew := List.mem_append.mp hother
    · exact inv.known other hold
    · obtain rfl := List.mem_singleton.mp hnew
      rw [hattempt]
      exact (List.getElem?_eq_some_iff.mp hinvoice).1
  · intro allocation hallocation
    rw [hallocations] at hallocation
    obtain ⟨done, hdone, hstatus⟩ := inv.done allocation hallocation
    refine ⟨done, ?_, hstatus⟩
    rw [hattempts, List.getElem?_append_left (List.getElem?_eq_some_iff.mp hdone).1, hdone]

/-- An open attempt has no allocation. -/
theorem Inv.not_allocated (inv : Inv b)
    (hattempt : b.attempts[id]? = some attempt) (hopen : attempt.status.isOpen = true) :
    ∀ allocation ∈ b.allocations, allocation.attempt ≠ id := by
  rintro allocation hallocation rfl
  obtain ⟨done, hdone, hstatus⟩ := inv.done allocation hallocation
  rw [hattempt] at hdone
  cases hdone
  rw [hstatus] at hopen
  cases hopen

theorem Inv.complete (inv : Inv b) (h : completePaymentAttempt b id args = .ok b') : Inv b' := by
  obtain ⟨attempt, done, hattempt, hopen, hattempts, hdoneInvoice, hdoneStatus, hcase⟩ :=
    completePaymentAttempt_ok h
  have hfresh := inv.not_allocated hattempt hopen
  have hlength : b'.invoices.length = b.invoices.length := by
    obtain ⟨-, transactionId, -, hinvoices⟩ | ⟨-, -, hinvoices⟩ := hcase
    · rw [hinvoices, List.length_modify]
    · rw [hinvoices]
  have hkept : ∀ allocation ∈ b.allocations, ∃ attempt,
      b'.attempts[allocation.attempt]? = some attempt ∧ attempt.status = .succeeded := by
    intro allocation hallocation
    obtain ⟨other, hother, hstatus⟩ := inv.done allocation hallocation
    refine ⟨other, ?_, hstatus⟩
    rw [hattempts, List.getElem?_set_ne (Ne.symm (hfresh allocation hallocation)), hother]
  refine ⟨?_, ?_, ?_⟩
  · intro other hother
    rw [hattempts] at hother
    rw [hlength]
    obtain hold | rfl := List.mem_or_eq_of_mem_set hother
    · exact inv.known other hold
    · rw [hdoneInvoice]
      exact inv.known attempt (List.mem_of_getElem? hattempt)
  · obtain ⟨-, transactionId, hallocations, -⟩ | ⟨-, hallocations, -⟩ := hcase
    · rw [hallocations, List.map_append]
      refine inv.once.append (by simp) ?_
      simpa using hfresh
    · rw [hallocations]
      exact inv.once
  · intro allocation hallocation
    obtain ⟨hsucceeded, transactionId, hallocations, -⟩ | ⟨-, hallocations, -⟩ := hcase
    · rw [hallocations] at hallocation
      obtain hold | hnew := List.mem_append.mp hallocation
      · exact hkept allocation hold
      · obtain rfl := List.mem_singleton.mp hnew
        refine ⟨done, ?_, hdoneStatus.trans hsucceeded⟩
        rw [hattempts, List.getElem?_set_self (List.getElem?_eq_some_iff.mp hattempt).1]
    · rw [hallocations] at hallocation
      exact hkept allocation hallocation

theorem Inv.after (inv : Inv b) (call : PaymentCall) : Inv (b.after call) := by
  cases call with
  | wallet db => exact ⟨inv.known, inv.once, inv.done⟩
  | create id args =>
    cases h : createPaymentAttempt b id args with
    | error e => simpa [Billing.after, committed, h] using inv
    | ok b' => simpa [Billing.after, committed, h] using inv.create h
  | complete id args =>
    cases h : completePaymentAttempt b id args with
    | error e => simpa [Billing.after, committed, h] using inv
    | ok b' => simpa [Billing.after, committed, h] using inv.complete h

/-! ## When the books stay sound -/

theorem Sound.create (sound : Sound b) {args : AttemptArgs}
    (h : createPaymentAttempt b id args = .ok b') : Sound b' := by
  obtain ⟨invoice, attempt, status, hinvoice, hunpaid, hstatus, -, -, hallocations, -,
    hinvoices⟩ := createPaymentAttempt_ok h
  refine ⟨?_, by rw [hallocations]; exact sound.once, ?_⟩
  · intro other row hrow
    rw [allocated_congr hallocations]
    rw [hinvoices] at hrow
    obtain ⟨rfl, rfl⟩ | ⟨-, hold⟩ := getElem?_set_cases hrow
    · exact sound.within other invoice hinvoice
    · exact sound.within other row hold
  · intro other row hrow
    rw [allocated_congr hallocations]
    rw [hinvoices] at hrow
    obtain ⟨rfl, rfl⟩ | ⟨-, hold⟩ := getElem?_set_cases hrow
    · have hpaidIff := sound.paidIff other invoice hinvoice
      exact iff_of_false hstatus (fun hcovered => hunpaid (hpaidIff.mpr hcovered))
    · exact sound.paidIff other row hold

/-- A completion keeps the books sound exactly when its attempt fits. -/
theorem Sound.complete_iff (sound : Sound b) (inv : Inv b)
    (h : completePaymentAttempt b id args = .ok b') :
    Sound b' ↔ Fits b (.complete id args) := by
  obtain ⟨attempt, done, hattempt, hopen, -, -, -, hcase⟩ := completePaymentAttempt_ok h
  rcases hcase with ⟨hsucceeded, transactionId, hallocations, hinvoices⟩ |
    ⟨hother, hallocations, hinvoices⟩
  · obtain ⟨invoice, hinvoice⟩ : ∃ invoice, b.invoices[attempt.invoice]? = some invoice :=
      ⟨_, List.getElem?_eq_getElem (inv.known attempt (List.mem_of_getElem? hattempt))⟩
    have hpaid : b'.allocated attempt.invoice =
        b.allocated attempt.invoice + attempt.amount.toDecimal := by
      rw [allocated_append hallocations]
      simp
    have hothers : ∀ other, other ≠ attempt.invoice → b'.allocated other = b.allocated other := by
      intro other hne
      rw [allocated_append hallocations]
      simp [Ne.symm hne]
    have hsettled : b'.invoices[attempt.invoice]? =
        some (settledRow b' attempt transactionId invoice) := by
      rw [hinvoices, List.getElem?_modify_eq, hinvoice]
      rfl
    constructor
    · intro after _ attempt' invoice' hattempt' _ hinvoice'
      rw [hattempt] at hattempt'
      cases hattempt'
      rw [hinvoice] at hinvoice'
      cases hinvoice'
      have hwithin := after.within _ _ hsettled
      have hpaidIff := after.paidIff _ _ hsettled
      rw [settledRow_amount, hpaid] at hwithin hpaidIff
      rw [settledRow_paid, hpaid] at hpaidIff
      by_cases hcovered : invoice.amount.toDecimal ≤
          b.allocated attempt.invoice + attempt.amount.toDecimal
      · exact .inl (by linarith)
      · have hshort := fun hdouble => hcovered (hpaidIff.mp hdouble)
        exact .inr (by linarith [not_le.mp hshort])
    · intro fits
      have hfits := fits hsucceeded attempt invoice hattempt hopen hinvoice
      have hpositive := attempt.amount.toDecimal_pos
      refine ⟨?_, (inv.complete h).once, ?_⟩
      · intro other row hrow
        rw [hinvoices] at hrow
        rcases getElem?_modify_cases hrow with ⟨rfl, old, hold, rfl⟩ | ⟨hne, hold⟩
        · rw [hinvoice] at hold
          cases hold
          rw [settledRow_amount, hpaid]
          rcases hfits with hexact | hhalf <;> linarith
        · rw [hothers other hne]
          exact sound.within other row hold
      · intro other row hrow
        rw [hinvoices] at hrow
        rcases getElem?_modify_cases hrow with ⟨rfl, old, hold, rfl⟩ | ⟨hne, hold⟩
        · rw [hinvoice] at hold
          cases hold
          rw [settledRow_paid, settledRow_amount, hpaid]
          rcases hfits with hexact | hhalf
          · exact iff_of_true (by linarith) (by linarith)
          · exact iff_of_false (by linarith) (by linarith)
        · rw [hothers other hne]
          exact sound.paidIff other row hold
  · refine iff_of_true ?_ (fun hsucceeded => absurd hsucceeded hother)
    refine ⟨?_, by rw [hallocations]; exact sound.once, ?_⟩
    · intro other row hrow
      rw [allocated_congr hallocations]
      exact sound.within other row (by rw [← hinvoices]; exact hrow)
    · intro other row hrow
      rw [allocated_congr hallocations]
      exact sound.paidIff other row (by rw [← hinvoices]; exact hrow)

theorem Sound.after (sound : Sound b) (inv : Inv b) {call : PaymentCall} (fits : Fits b call) :
    Sound (b.after call) := by
  cases call with
  | wallet db => exact ⟨sound.within, sound.once, sound.paidIff⟩
  | create id args =>
    cases h : createPaymentAttempt b id args with
    | error e => simpa [Billing.after, committed, h] using sound
    | ok b' => simpa [Billing.after, committed, h] using sound.create h
  | complete id args =>
    cases h : completePaymentAttempt b id args with
    | error e => simpa [Billing.after, committed, h] using sound
    | ok b' => simpa [Billing.after, committed, h] using (sound.complete_iff inv h).mpr fits

theorem Fresh.inv (fresh : Fresh b) : Inv b :=
  ⟨by simp [fresh.attempts], by simp [fresh.allocations], by simp [fresh.allocations]⟩

theorem Fresh.sound (fresh : Fresh b) : Sound b := by
  have hnothing : ∀ id, b.allocated id = 0 := by simp [allocated, fresh.allocations]
  refine ⟨?_, by simp [fresh.allocations], ?_⟩
  · intro id invoice _
    rw [hnothing]
    exact invoice.amount.toDecimal_pos.le
  · intro id invoice hinvoice
    rw [hnothing]
    exact iff_of_false (fresh.unpaid invoice (List.mem_of_getElem? hinvoice))
      (not_le.mpr invoice.amount.toDecimal_pos)

/-- In every run in which each succeeded completion fits, the books are sound. In
every run at all no attempt is allocated twice, and a completion of sound books
leaves sound books exactly when it fits. -/
theorem partial_payments_sound (fresh : Fresh b) :
    (∀ calls b', Run (Guarded Fits Step) b calls b' → Sound b') ∧
    (∀ calls b', Run Step b calls b' → (b'.allocations.map Allocation.attempt).Nodup ∧
      ∀ id args b'', Sound b' → completePaymentAttempt b' id args = .ok b'' →
        (Sound b'' ↔ Fits b' (.complete id args))) := by
  have kept : ∀ s call t, Inv s → Step s call t → Inv t := by
    rintro s call t inv rfl
    exact inv.after call
  constructor
  · intro calls b' run
    have both : Sound b' ∧ Inv b' := by
      refine run.invariant (fun b => Sound b ∧ Inv b) ?_ ⟨fresh.sound, fresh.inv⟩
      rintro s call t ⟨sound, inv⟩ ⟨fits, rfl⟩
      exact ⟨sound.after inv fits, inv.after call⟩
    exact both.1
  · intro calls b' run
    have inv : Inv b' := run.invariant Inv kept fresh.inv
    exact ⟨inv.once, fun _ _ _ sound h => sound.complete_iff inv h⟩

/-! ## A trip paid in part -/

/-- A deposit of 1000 shillings is recorded in the wallet, and a trip is invoiced
with a given amount. -/
def trip (amount : Amount) (hundredths : (10000 : ℤ) ∣ amount.micros) : Billing where
  db := walletRun twoWallets [fundFirst]
  invoices := [{ serviceCode := "transport", serviceReference := "R-5", payerUserId := 7
                 amount, currency := "UGX", paymentMethod := .other "mobile_money_mtn"
                 settlementTiming := .payNow, hundredths }]
  attempts := []
  allocations := []

/-- The deposit is put to the trip's invoice. -/
def payTrip : List PaymentCall :=
  [.create 0 { amount := some 1000, currency := "UGX", paymentMethod := "mobile_money_mtn" },
    .complete 0 { transactionId := some 0 }]

private theorem trip_fresh (amount : Amount) (hundredths : (10000 : ℤ) ∣ amount.micros) :
    Fresh (trip amount hundredths) :=
  ⟨rfl, rfl, by simp [trip]⟩

theorem run_after (b : Billing) (calls : List PaymentCall) :
    Run Step b calls (calls.foldl Billing.after b) :=
  (Run.foldl Billing.after b calls).mono (fun _ _ _ h => h.symm)

/-- A trip of 1000 shillings. -/
def shortTrip : Billing := trip ⟨1000000000, by decide, by decide⟩ (by decide)

/-- A trip of 2000 shillings. -/
def longTrip : Billing := trip ⟨2000000000, by decide, by decide⟩ (by decide)

/-- The short trip is paid by the deposit. -/
theorem short_trip_paid :
    Sound (payTrip.foldl Billing.after shortTrip) ∧
      (payTrip.foldl Billing.after shortTrip).allocated 0 = 1000 := by
  have hexact : let b := shortTrip.after payTrip[0]
      ∀ attempt ∈ b.attempts, ∀ invoice ∈ b.invoices,
        attempt.amount.toDecimal = invoice.amount.toDecimal - b.allocated attempt.invoice := by
    decide +kernel
  have hfresh : Fresh shortTrip := trip_fresh _ _
  refine ⟨(partial_payments_sound hfresh).1 payTrip _ ?_, by decide +kernel⟩
  refine .cons ⟨trivial, rfl⟩ (.cons ⟨?_, rfl⟩ (.nil _))
  intro _ attempt invoice hattempt _ hinvoice
  exact .inl (hexact attempt (List.mem_of_getElem? hattempt) invoice
    (List.mem_of_getElem? hinvoice))

/-- The long trip is marked as paid by the same deposit. -/
theorem half_paid_trip_marked_paid :
    ¬ ∀ (b b' : Billing) (calls : List PaymentCall), Fresh b → Run Step b calls b' → Sound b' := by
  intro claim
  have hpaid : (payTrip.foldl Billing.after longTrip).invoices[0]?.any (fun invoice =>
      invoice.status = .paid ∧
        (payTrip.foldl Billing.after longTrip).allocated 0 < invoice.amount.toDecimal) = true := by
    decide +kernel
  obtain ⟨invoice, hinvoice, hpaid⟩ := (Option.any_eq_true _ _).mp hpaid
  simp only [decide_eq_true_eq] at hpaid
  have hsound := claim longTrip _ payTrip (trip_fresh _ _) (run_after _ _)
  exact absurd ((hsound.paidIff 0 invoice hinvoice).mp hpaid.1) (not_le.mpr hpaid.2)

end Billing

end Afcon360.Marketplace
