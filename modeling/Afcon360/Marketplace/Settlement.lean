import Afcon360.Marketplace.Invoice
import Afcon360.Wallet.TransferOutcome

/-!
# Settling an invoice through the wallet

`settle_after_completion` is several database transactions: the row is marked due
and committed, the accounts are read, the wallet transfer runs in its own
transactions under the key of the invoice, and the row is locked again and marked
paid. Starting the transfer rolls the caller's transaction back, so no lock on the
invoice is held while the transfer runs.

Any number of workers go through these stages in any order, together with
`mark_due_after_completion` and `confirm_cash_receipt`. The stages of the transfer
are those of `Wallet.Service`: a worker of the marketplace and the wallet's worker
of the same number are one process. A worker may fail at any stage.
-/

namespace Afcon360.Marketplace

open Foundation Wallet

/-- What a settlement reads besides the rows of the wallet: the columns of
`accounts` that say whether an account is active and whether it is the Transport
escrow. -/
structure SettlementEnv where
  isActive : AccountId → Bool
  isTransportEscrow : AccountId → Bool

/-- The account lookup, with the exception it raises reported as the marketplace's. -/
def getByUserId (db : Db) (userId : UserId) (currency : Currency) :
    Except InvoiceError (Option Account) :=
  (db.getByUserId userId currency).mapError (fun _ => .database)

/-- `_get_transport_escrow_account`. -/
def getTransportEscrowAccount (env : SettlementEnv) (db : Db) (currency : Currency) :
    Except InvoiceError Account :=
  match db.accounts.rows.find? (fun account =>
      account.ownerType = .platform ∧ account.currency = currency ∧ account.isFrozen = false ∧
        env.isActive account.id ∧ env.isTransportEscrow account.id) with
  | none => .error (.refused .transportEscrowUnavailable
      "Transport Wallet escrow is not configured for this currency. Payment remains pending.")
  | some account => .ok account

/-- The payer's account in the invoice currency, if it can pay. -/
def payerAccount (env : SettlementEnv) (db : Db) (invoice : Invoice) :
    Except InvoiceError Account := do
  match ← getByUserId db invoice.payerUserId invoice.currency with
  | none => .error (.refused .walletAccountMissing
      "No Wallet account exists in the invoice currency.")
  | some account =>
    require (account.currency.toUpper = invoice.currency) (.refused .walletAccountMissing
      "No Wallet account exists in the invoice currency.")
    require (env.isActive account.id ∧ account.isFrozen = false ∧ account.ownerType = .user)
      (.refused .walletAccountUnavailable
        "The payer Wallet account is not active for this payment.")
    pure account

/-- The idempotency key of an invoice's transfer. -/
def invoiceKey (id : ℕ) : String := "MARKETPLACE-INVOICE-" ++ toString id

def SettlementTiming.text : SettlementTiming → String
  | .payOnCompletion => "pay_on_completion"
  | .payNow => "pay_now"
  | .deposit => "deposit"
  | .payOnArrival => "pay_on_arrival"

/-- The transfer that collects an invoice. -/
def settlementRequest (id : ℕ) (invoice : Invoice) (account escrow : Account)
    (requestId : Option String) : TransferRequest :=
  { fromAccountId := account.id
    toAccountId := escrow.id
    amount := invoice.amount.toDecimal
    currency := invoice.currency
    clientRequestId := invoiceKey id
    note := some ("Transport marketplace invoice " ++ invoice.serviceReference)
    metadata :=
      [("marketplace_invoice_id", toString id), ("service_code", invoice.serviceCode),
        ("service_reference", invoice.serviceReference),
        ("settlement_timing", invoice.settlementTiming.text)] ++
      requestId.toList.map (fun text => ("request_id", text)) ++
      [("escrow_account_id", toString escrow.id), ("escrow_service_type", "transport")]
    systemInitiated := true }

/-- The error a failed transfer is reported as. -/
def collectionError : WalletError → InvoiceError
  | .transactionPin _ => .refused .transactionPinRequired
      "Wallet requires transaction PIN authorization. This invoice remains due; no payment was confirmed."
  | .insufficientBalance .. => .refused .insufficientFunds
      "Your Wallet balance is too low. Add funds, then retry payment."
  | .walletNotFound _ => .refused .walletAccountMissing
      "The payer or Transport escrow Wallet account could not be found."
  | _ => .refused .settlementUnavailable
      "Wallet could not complete settlement. The invoice remains due and can be retried."

/-- The comparison of the wallet's transaction with the invoice. -/
def verifyTransaction (id : ℕ) (invoice : Invoice) (escrow : Account)
    (transaction : Option Transaction) : Except InvoiceError Unit :=
  match transaction with
  | none => .error (.refused .settlementUnverified
      "Wallet's canonical transaction does not match this invoice.")
  | some row => require
      (row.status = .completed ∧ row.txType = .transfer ∧
        quantizeHalfEven row.amount.toDecimal = quantizeHalfEven invoice.amount.toDecimal ∧
        row.currency.toUpper = invoice.currency ∧ row.userId = some invoice.payerUserId ∧
        row.recipientUserId ≠ none ∧ row.recipientUserId = escrow.userId ∧
        row.metadata.lookup "marketplace_invoice_id" = some (toString id) ∧
        row.metadata.lookup "escrow_account_id" = some (toString escrow.id))
      (.refused .settlementUnverified
        "Wallet's canonical transaction does not match this invoice.")

/-- The last stage on the row locked again. -/
def recordPaid (invoice : Invoice) (transactionId : TransactionId) :
    Except InvoiceError Invoice :=
  if invoice.status = .paid then do
    require (invoice.transactionId = some transactionId) (.refused .invoiceAlreadyPaid
      "This invoice has already been settled by a different transaction.")
    pure invoice
  else do
    require (invoice.status = .due) (.refused .invoiceStateChanged
      "The Wallet invoice changed state during settlement; reconcile before retrying.")
    pure { invoice with status := .paid, transactionId := some transactionId }

namespace Settlement

/-- Where a settlement stands. `posted` says whether this call's transfer was
posted by it or found posted. -/
inductive Phase
  | idle
  | due (invoice : ℕ) (requestId : Option String)
  | prepared (invoice : ℕ) (escrow : Account) (request : TransferRequest)
  | transferring (invoice : ℕ) (escrow : Account) (request : TransferRequest)
  | collected (invoice : ℕ) (escrow : Account) (transactionId : TransactionId) (posted : Bool)

/-- The committed rows and the workers of marketplace and wallet. -/
structure State where
  wallet : Service
  invoices : List Invoice
  workers : List Phase

/-- The stages of a transfer after its opening. -/
inductive Stage
  | check | claim | commit | fail

def Stage.move : Stage → Wallet.Move
  | .check => .check
  | .claim => .claim
  | .commit => .commit
  | .fail => .fail

inductive Move
  | markDue (invoice : ℕ) (context : ServiceContext)
  | confirmCash (invoice : ℕ) (context : ServiceContext) (driver : Driver)
  | settle (invoice : ℕ) (context : ServiceContext) (requestId : Option String)
  | prepare (env : SettlementEnv)
  | startTransfer (env : Env)
  | advance (stage : Stage)
  | record
  | fail

/-- What a move shows. A call that ends in an error tells which transaction it
had posted. -/
inductive Event
  | progressed
  | returned
  | failed (error : InvoiceError) (posted : Option TransactionId)

namespace State

def goto (s : State) (i : ℕ) (phase : Phase) : State :=
  { s with workers := s.workers.set i phase }

/-- A call on one locked row that commits it or raises. -/
def rewrite (s : State) (id : ℕ) (change : Invoice → Except InvoiceError Invoice) :
    State × Event :=
  match s.invoices[id]? with
  | none => (s, .failed (.refused .invoiceNotFound "Wallet invoice not found") none)
  | some invoice =>
    match change invoice with
    | .error e => (s, .failed e none)
    | .ok new => ({ s with invoices := s.invoices.set id new }, .returned)

/-- The first transaction of a settlement: the row is due from here on. -/
def settle (s : State) (i id : ℕ) (context : ServiceContext) (requestId : Option String) :
    State × Event :=
  match s.rewrite id (fun invoice => markDueAfterCompletion invoice context) with
  | (t, .returned) => (t.goto i (.due id requestId), .progressed)
  | (t, event) => (t, event)

/-- Read the row again and find the accounts; a settled or a cash invoice ends
the call here. -/
def prepare (s : State) (i : ℕ) (env : SettlementEnv) (id : ℕ) (requestId : Option String) :
    State × Event :=
  match s.invoices[id]? with
  | none => (s.goto i .idle, .failed (.refused .invoiceNotFound "Wallet invoice not found") none)
  | some invoice =>
    if invoice.status.isSettled then (s.goto i .idle, .returned)
    else
      match invoice.paymentMethod with
      | .cash => (s.goto i .idle, .returned)
      | .other methodId => (s.goto i .idle, .failed (.refused .methodNotIntegrated
          ("Marketplace settlement for " ++ methodId ++ " is not yet implemented.")) none)
      | .wallet =>
        match payerAccount env s.wallet.db invoice with
        | .error e => (s.goto i .idle, .failed e none)
        | .ok account =>
          match getTransportEscrowAccount env s.wallet.db invoice.currency with
          | .error e => (s.goto i .idle, .failed e none)
          | .ok escrow =>
            (s.goto i (.prepared id escrow
              (settlementRequest id invoice account escrow requestId)), .progressed)

/-- Take over what a stage of the transfer did. -/
def absorb (s : State) (i id : ℕ) (escrow : Account) (request : TransferRequest)
    (outcome : Service × Wallet.Event) : State × Event :=
  let t : State := { s with wallet := outcome.1 }
  match outcome.2 with
  | .progressed => (t.goto i (.transferring id escrow request), .progressed)
  | .returned _ _ (.ok receipt) =>
    (t.goto i (.collected id escrow receipt.transactionId (!receipt.alreadyProcessed)),
      .progressed)
  | .returned _ _ (.error e) => (t.goto i .idle, .failed (collectionError e) none)
  | .rolledBack => (t.goto i .idle, .failed (collectionError .database) none)

/-- The transaction a settlement has posted, reported with its error. -/
def postedBy (transactionId : TransactionId) (posted : Bool) : Option TransactionId :=
  if posted then some transactionId else none

/-- Verify the transaction, lock the row again and mark it paid. -/
def record (s : State) (i id : ℕ) (escrow : Account) (transactionId : TransactionId)
    (posted : Bool) : State × Event :=
  match s.invoices[id]? with
  | none => (s.goto i .idle, .failed (.refused .invoiceNotFound "Wallet invoice not found")
      (postedBy transactionId posted))
  | some invoice =>
    match verifyTransaction id invoice escrow (s.wallet.db.transactions.get? transactionId) with
    | .error e => (s.goto i .idle, .failed e (postedBy transactionId posted))
    | .ok () =>
      match recordPaid invoice transactionId with
      | .error e => (s.goto i .idle, .failed e (postedBy transactionId posted))
      | .ok new =>
        (({ s with invoices := s.invoices.set id new } : State).goto i .idle, .returned)

/-- The process stops, or the database fails: what is committed stays. -/
def fail (s : State) (i : ℕ) (phase : Phase) : State × Event :=
  ({ s with
      wallet := s.wallet.goto i .idle
      workers := s.workers.set i .idle },
    .failed .database
      (match phase with
        | .collected _ _ transactionId posted => postedBy transactionId posted
        | _ => none))

/-- One move of one worker. -/
def step (s : State) (label : ℕ × Move) : Option (State × Event) :=
  match label.2, s.workers[label.1]? with
  | .markDue id context, some .idle =>
    some (s.rewrite id (fun invoice => markDueAfterCompletion invoice context))
  | .confirmCash id context driver, some .idle =>
    some (s.rewrite id (fun invoice => confirmCashReceipt invoice context driver))
  | .settle id context requestId, some .idle => some (s.settle label.1 id context requestId)
  | .prepare env, some (.due id requestId) => some (s.prepare label.1 env id requestId)
  | .startTransfer env, some (.prepared id escrow request) =>
    (s.wallet.step (label.1, .call env request)).map (s.absorb label.1 id escrow request)
  | .advance stage, some (.transferring id escrow request) =>
    (s.wallet.step (label.1, stage.move)).map (s.absorb label.1 id escrow request)
  | .record, some (.collected id escrow transactionId posted) =>
    some (s.record label.1 id escrow transactionId posted)
  | .fail, some phase => some (s.fail label.1 phase)
  | _, _ => none

def Step (s : State) (label : ℕ × Move) (t : State) : Prop :=
  ∃ event, s.step label = some (t, event)

end State

/-! ## What is collected for an invoice -/

/-- The request transfers exactly the invoice from the payer's account to an
escrow account of the platform, without a fee, under the invoice's key. -/
structure Collecting (id : ℕ) (invoice : Invoice) (account escrow : Account)
    (request : TransferRequest) : Prop where
  method : invoice.paymentMethod = .wallet
  payer : account.userId = some invoice.payerUserId
  payerCurrency : account.currency = invoice.currency
  platform : escrow.ownerType = .platform
  escrowCurrency : escrow.currency = invoice.currency
  fromAccount : request.fromAccountId = account.id
  toAccount : request.toAccountId = escrow.id
  amount : request.amount = invoice.amount.toDecimal
  currency : request.currency = invoice.currency
  noFee : request.platformFee = none
  key : request.clientRequestId = invoiceKey id

/-- A posted transfer that collected the invoice. -/
structure Collects (id : ℕ) (invoice : Invoice) (record : PostedTransfer) : Prop where
  collecting : Collecting id invoice record.parties.sender record.parties.recipient record.request
  legs : record.legs = ⟨invoice.amount.toDecimal, invoice.currency, invoice.amount.toDecimal,
    invoice.currency⟩

variable {id : ℕ} {invoice old new : Invoice} {account escrow : Account}
  {request : TransferRequest} {record : PostedTransfer}

theorem Collecting.sameTerms (h : Collecting id old account escrow request)
    (hterms : Invoice.SameTerms old new) : Collecting id new account escrow request where
  method := hterms.paymentMethod.trans h.method
  payer := by rw [hterms.payerUserId, h.payer]
  payerCurrency := by rw [hterms.currency, h.payerCurrency]
  platform := h.platform
  escrowCurrency := by rw [hterms.currency, h.escrowCurrency]
  fromAccount := h.fromAccount
  toAccount := h.toAccount
  amount := by rw [hterms.amount, h.amount]
  currency := by rw [hterms.currency, h.currency]
  noFee := h.noFee
  key := h.key

theorem Collects.sameTerms (h : Collects id old record) (hterms : Invoice.SameTerms old new) :
    Collects id new record where
  collecting := h.collecting.sameTerms hterms
  legs := by rw [hterms.amount, hterms.currency, h.legs]

theorem invoiceKey_injective {id id' : ℕ} (h : invoiceKey id = invoiceKey id') : id = id' := by
  have htext : toString id = toString id' := (String.append_right_inj _).mp h
  have hdigits : Nat.toDigits 10 id = Nat.toDigits 10 id' := by
    rw [← Nat.toList_repr, ← Nat.toList_repr]
    exact congrArg String.toList htext
  rw [← Nat.ofDigitChars_ten_toDigits (n := id), hdigits, Nat.ofDigitChars_ten_toDigits]

/-- Between accounts of the invoice currency both legs carry the invoice amount. -/
theorem Collecting.legs (h : Collecting id invoice account escrow request) {env : Env} {legs : Legs}
    (hlegs : transferLegs env request ⟨account, escrow⟩ = .ok legs) :
    legs = ⟨invoice.amount.toDecimal, invoice.currency, invoice.amount.toDecimal,
      invoice.currency⟩ := by
  have hquantized : request.quantized = invoice.amount.toDecimal := by
    rw [TransferRequest.quantized, h.amount, invoice.quantize_amount]
  simp only [transferLegs, h.payerCurrency, h.escrowCurrency, if_true, hquantized] at hlegs
  exact (Except.ok.inj hlegs).symm

/-- A collected invoice moved its amount from the payer's account to the escrow
account, and nothing else. -/
theorem Collects.postings (h : Collects id invoice record) :
    (transferDrafts record.request record.parties record.legs record.id).map
        Db.EntryDraft.posting =
      [⟨record.parties.sender.id, invoice.currency, -invoice.amount.micros⟩,
        ⟨record.parties.recipient.id, invoice.currency, invoice.amount.micros⟩] := by
  have hfee : record.request.fee = 0 := by
    simp [TransferRequest.fee, h.collecting.noFee]
  have hmicros : roundHalfUp microsPerUnit invoice.amount.toDecimal = invoice.amount.micros :=
    roundHalfUp_gridValue (by decide)
  simp [transferDrafts, hfee, h.legs, Db.EntryDraft.posting, hmicros]

theorem getByUserId_ok {db : Db} {userId : UserId} {currency : Currency}
    (h : getByUserId db userId currency = .ok (some account)) :
    account ∈ db.accounts.rows ∧ account.userId = some userId ∧ account.currency = currency := by
  unfold getByUserId at h
  cases hfound : db.getByUserId userId currency with
  | error e =>
    rw [hfound] at h
    cases h
  | ok found =>
    rw [hfound] at h
    obtain rfl := Except.ok.inj h
    exact Db.getByUserId_ok hfound

theorem payerAccount_ok {env : SettlementEnv} {db : Db}
    (h : payerAccount env db invoice = .ok account) :
    account ∈ db.accounts.rows ∧ account.userId = some invoice.payerUserId ∧
      account.currency = invoice.currency := by
  obtain ⟨found, hfound, h⟩ := bind_eq_ok.mp h
  split at h
  · cases h
  · simp only [check_bind_eq_ok, pure_eq_ok] at h
    obtain ⟨-, -, rfl⟩ := h
    exact getByUserId_ok hfound

theorem getTransportEscrowAccount_ok {env : SettlementEnv} {db : Db} {currency : Currency}
    (h : getTransportEscrowAccount env db currency = .ok escrow) :
    escrow ∈ db.accounts.rows ∧ escrow.ownerType = .platform ∧ escrow.currency = currency := by
  unfold getTransportEscrowAccount at h
  split at h
  · cases h
  · rename_i found hfound
    obtain rfl := Except.ok.inj h
    have hconditions := List.find?_some hfound
    simp only [decide_eq_true_eq] at hconditions
    exact ⟨List.mem_of_find?_eq_some hfound, hconditions.1, hconditions.2.1⟩

/-! ## The invariant -/

namespace State

/-- The worker's request collects the invoice, between accounts that exist. -/
def Prepared (s : State) (id : ℕ) (escrow : Account) (request : TransferRequest) : Prop :=
  ∃ invoice account, s.invoices[id]? = some invoice ∧
    Collecting id invoice account escrow request ∧
    s.wallet.db.accountById account.id = some account ∧
    s.wallet.db.accountById escrow.id = some escrow

/-- A transfer was posted under the key of the invoice. -/
def PostedAs (s : State) (id : ℕ) (transactionId : TransactionId) : Prop :=
  ∃ record ∈ s.wallet.posted, record.request.clientRequestId = invoiceKey id ∧
    record.id = transactionId

def PhaseOk (s : State) (i : ℕ) : Phase → Prop
  | .idle | .due .. => True
  | .prepared id escrow request => s.Prepared id escrow request
  | .transferring id escrow request => s.Prepared id escrow request ∧
      ∃ phase, s.wallet.workers[i]? = some phase ∧ Service.Carries request phase
  | .collected id _ transactionId _ => (∃ invoice, s.invoices[id]? = some invoice) ∧
      s.PostedAs id transactionId

/-- A paid invoice names the transfer posted for it, and only a cash invoice is
marked as received in cash. -/
structure RowOk (s : State) (id : ℕ) (invoice : Invoice) : Prop where
  paid : invoice.status = .paid →
    ∃ transactionId, invoice.transactionId = some transactionId ∧ s.PostedAs id transactionId
  cash : invoice.status = .cashReceived ∨ invoice.cashReceivedByUserId ≠ none →
    invoice.paymentMethod = .cash

structure Inv (s : State) : Prop where
  wallet : Service.Inv s.wallet
  phases : ∀ (i : ℕ) phase, s.workers[i]? = some phase → s.PhaseOk i phase
  collections : ∀ record ∈ s.wallet.posted, ∀ id invoice, s.invoices[id]? = some invoice →
    record.request.clientRequestId = invoiceKey id → Collects id invoice record
  rows : ∀ (id : ℕ) invoice, s.invoices[id]? = some invoice → s.RowOk id invoice

/-- What every step leaves in place: posted transfers, accounts, and the terms of
the invoices. -/
structure Grows (s t : State) : Prop where
  posted : s.wallet.posted ⊆ t.wallet.posted
  accounts : ∀ id, t.wallet.db.accountById id = s.wallet.db.accountById id
  kept : ∀ (id : ℕ) old, s.invoices[id]? = some old →
    ∃ new, t.invoices[id]? = some new ∧ Invoice.SameTerms old new
  known : ∀ (id : ℕ) new, t.invoices[id]? = some new →
    ∃ old, s.invoices[id]? = some old ∧ Invoice.SameTerms old new

variable {s t : State} {i : ℕ} {phase : Phase}

theorem Grows.same_invoices (hposted : s.wallet.posted ⊆ t.wallet.posted)
    (haccounts : ∀ id, t.wallet.db.accountById id = s.wallet.db.accountById id)
    (hinvoices : t.invoices = s.invoices) : Grows s t := by
  refine ⟨hposted, haccounts, ?_, ?_⟩
  · intro id old hold
    exact ⟨old, by rw [hinvoices, hold], ⟨rfl, rfl, rfl, rfl⟩⟩
  · intro id new hnew
    exact ⟨new, by rw [← hinvoices, hnew], ⟨rfl, rfl, rfl, rfl⟩⟩

theorem Grows.set (hwallet : t.wallet = s.wallet) (hold : s.invoices[id]? = some old)
    (hterms : Invoice.SameTerms old new) (hinvoices : t.invoices = s.invoices.set id new) :
    Grows s t := by
  refine ⟨by rw [hwallet]; exact List.Subset.refl _, by simp [hwallet], ?_, ?_⟩
  · intro other row hrow
    rw [hinvoices, List.getElem?_set]
    split
    · rename_i hsame
      subst hsame
      rw [hold] at hrow
      cases hrow
      exact ⟨new, by simp [(List.getElem?_eq_some_iff.mp hold).1], hterms⟩
    · exact ⟨row, hrow, ⟨rfl, rfl, rfl, rfl⟩⟩
  · intro other row hrow
    rw [hinvoices] at hrow
    obtain ⟨rfl, rfl⟩ | ⟨-, hrow⟩ := getElem?_set_cases hrow
    · exact ⟨old, hold, hterms⟩
    · exact ⟨row, hrow, ⟨rfl, rfl, rfl, rfl⟩⟩

variable {transactionId : TransactionId}

theorem PostedAs.grow (h : s.PostedAs id transactionId)
    (growth : Grows s t) : t.PostedAs id transactionId := by
  obtain ⟨record, hrecord, hkey⟩ := h
  exact ⟨record, growth.posted hrecord, hkey⟩

theorem Prepared.grow (h : s.Prepared id escrow request) (growth : Grows s t) :
    t.Prepared id escrow request := by
  obtain ⟨invoice, account, hinvoice, hcollecting, haccount, hescrow⟩ := h
  obtain ⟨new, hnew, hterms⟩ := growth.kept id invoice hinvoice
  exact ⟨new, account, hnew, hcollecting.sameTerms hterms,
    by rw [growth.accounts, haccount], by rw [growth.accounts, hescrow]⟩

theorem PhaseOk.grow (h : s.PhaseOk i phase) (growth : Grows s t)
    (hworker : t.wallet.workers[i]? = s.wallet.workers[i]?) : t.PhaseOk i phase := by
  cases phase with
  | idle => trivial
  | due id requestId => trivial
  | prepared id escrow request => exact Prepared.grow h growth
  | transferring id escrow request =>
    obtain ⟨hprepared, phase, hphase, hcarries⟩ := h
    exact ⟨hprepared.grow growth, phase, by rw [hworker, hphase], hcarries⟩
  | collected id escrow transactionId posted =>
    obtain ⟨⟨invoice, hinvoice⟩, hposted⟩ := h
    obtain ⟨new, hnew, -⟩ := growth.kept id invoice hinvoice
    exact ⟨⟨new, hnew⟩, hposted.grow growth⟩

/-- The invariant survives growth if the new phase, the new postings and the
rewritten rows are justified. -/
theorem Inv.grow (inv : Inv s) (growth : Grows s t) (hwallet : Service.Inv t.wallet)
    (hworkers : ∀ (j : ℕ) q, t.workers[j]? = some q → t.PhaseOk j q ∨
      (s.workers[j]? = some q ∧ t.wallet.workers[j]? = s.wallet.workers[j]?))
    (hposted : ∀ record ∈ t.wallet.posted, record ∈ s.wallet.posted ∨
      ∃ id invoice, t.invoices[id]? = some invoice ∧ Collects id invoice record)
    (hrows : ∀ (id : ℕ) row, t.invoices[id]? = some row →
      s.invoices[id]? = some row ∨ t.RowOk id row) : Inv t := by
  refine ⟨hwallet, ?_, ?_, ?_⟩
  · intro j q hq
    obtain hok | ⟨hold, hsame⟩ := hworkers j q hq
    · exact hok
    · exact (inv.phases j q hold).grow growth hsame
  · intro record hrecord id invoice hinvoice hkey
    obtain hold | ⟨id', invoice', hinvoice', hcollects⟩ := hposted record hrecord
    · obtain ⟨row, hrow, hterms⟩ := growth.known id invoice hinvoice
      exact (inv.collections record hold id row hrow hkey).sameTerms hterms
    · obtain rfl : id' = id := invoiceKey_injective (hcollects.collecting.key.symm.trans hkey)
      rw [hinvoice] at hinvoice'
      cases hinvoice'
      exact hcollects
  · intro id row hrow
    obtain hold | hok := hrows id row hrow
    · refine ⟨?_, (inv.rows id row hold).cash⟩
      intro hpaid
      obtain ⟨transactionId, htransaction, hposted⟩ := (inv.rows id row hold).paid hpaid
      exact ⟨transactionId, htransaction, hposted.grow growth⟩
    · exact hok

/-! ## One step -/

theorem Inv.goto (inv : Inv s) (hphase : s.PhaseOk i phase) : Inv (s.goto i phase) := by
  have growth : Grows s (s.goto i phase) :=
    .same_invoices (List.Subset.refl _) (fun _ => rfl) rfl
  refine inv.grow growth inv.wallet ?_ (fun _ h => .inl h) (fun _ _ h => .inl h)
  intro j q hq
  obtain ⟨rfl, rfl⟩ | ⟨-, hold⟩ := getElem?_set_cases hq
  · exact .inl (hphase.grow growth rfl)
  · exact .inr ⟨hold, rfl⟩

/-- A row is rewritten so that it is not newly paid, and marked as received in
cash only if it is a cash invoice. -/
structure Keeps (old new : Invoice) : Prop where
  terms : Invoice.SameTerms old new
  paid : new.status = .paid → old.status = .paid ∧ new.transactionId = old.transactionId
  cash : new.status = .cashReceived ∨ new.cashReceivedByUserId ≠ none →
    (old.status = .cashReceived ∨ old.cashReceivedByUserId ≠ none) ∨ old.paymentMethod = .cash

theorem Keeps.refl (invoice : Invoice) : Keeps invoice invoice :=
  ⟨⟨rfl, rfl, rfl, rfl⟩, fun h => ⟨h, rfl⟩, fun h => .inl h⟩

theorem markDue_keeps {context : ServiceContext}
    (h : markDueAfterCompletion invoice context = .ok new) : Keeps invoice new := by
  obtain ⟨rfl, -⟩ | ⟨-, rfl⟩ := markDueAfterCompletion_ok h
  · exact .refl _
  · exact ⟨⟨rfl, rfl, rfl, rfl⟩, by simp, fun h => .inl (.inr (h.resolve_left (by simp)))⟩

theorem confirmCash_keeps {context : ServiceContext} {driver : Driver}
    (h : confirmCashReceipt invoice context driver = .ok new) : Keeps invoice new := by
  obtain ⟨hcash, ⟨rfl, -⟩ | ⟨-, rfl⟩⟩ := confirmCashReceipt_ok h
  · exact .refl _
  · exact ⟨⟨rfl, rfl, rfl, rfl⟩, by simp, fun _ => .inr hcash⟩

theorem rewrite_frame (s : State) (id : ℕ) (change : Invoice → Except InvoiceError Invoice) :
    (s.rewrite id change).1.wallet = s.wallet ∧ (s.rewrite id change).1.workers = s.workers := by
  unfold State.rewrite
  split
  · exact ⟨rfl, rfl⟩
  · split <;> exact ⟨rfl, rfl⟩

theorem Inv.rewrite (inv : Inv s) {change : Invoice → Except InvoiceError Invoice}
    (hchange : ∀ old new, change old = .ok new → Keeps old new) : Inv (s.rewrite id change).1 := by
  unfold State.rewrite
  split
  · exact inv
  · rename_i old hold
    split
    · exact inv
    · rename_i new hnew
      have keeps := hchange old new hnew
      have growth : Grows s { s with invoices := s.invoices.set id new } :=
        .set rfl hold keeps.terms rfl
      refine inv.grow growth inv.wallet (fun _ _ h => .inr ⟨h, rfl⟩) (fun _ h => .inl h) ?_
      intro other row hrow
      obtain ⟨rfl, rfl⟩ | ⟨-, hrow⟩ := getElem?_set_cases hrow
      · have rowOk := inv.rows other old hold
        refine .inr ⟨?_, ?_⟩
        · intro hpaid
          obtain ⟨hpaid', hsame⟩ := keeps.paid hpaid
          obtain ⟨transactionId, htransaction, hposted⟩ := rowOk.paid hpaid'
          exact ⟨transactionId, hsame.trans htransaction, hposted.grow growth⟩
        · intro hcash
          rw [keeps.terms.paymentMethod]
          obtain hbefore | hmethod := keeps.cash hcash
          · exact rowOk.cash hbefore
          · exact hmethod
      · exact .inl hrow

theorem Inv.settle (inv : Inv s) {context : ServiceContext} {requestId : Option String} :
    Inv (s.settle i id context requestId).1 := by
  have hrewritten : Inv (s.rewrite id (fun invoice => markDueAfterCompletion invoice context)).1 :=
    inv.rewrite (fun _ _ h => markDue_keeps h)
  unfold State.settle
  split
  · rename_i t heq
    rw [heq] at hrewritten
    exact hrewritten.goto trivial
  · rename_i t event heq
    rw [heq] at hrewritten
    exact hrewritten

theorem Inv.prepare (inv : Inv s) {env : SettlementEnv} {requestId : Option String} :
    Inv (s.prepare i env id requestId).1 := by
  unfold State.prepare
  split
  · exact inv.goto trivial
  · rename_i invoice hinvoice
    split
    · exact inv.goto trivial
    · split
      · exact inv.goto trivial
      · exact inv.goto trivial
      · rename_i hmethod
        split
        · exact inv.goto trivial
        · rename_i account haccount
          split
          · exact inv.goto trivial
          · rename_i escrow hescrow
            obtain ⟨hstored, hpayer, hcurrency⟩ := payerAccount_ok haccount
            obtain ⟨hstored', hplatform, hcurrency'⟩ := getTransportEscrowAccount_ok hescrow
            refine inv.goto ⟨invoice, account, hinvoice, ?_, Db.accountById_of_mem hstored,
              Db.accountById_of_mem hstored'⟩
            exact ⟨hmethod, hpayer, hcurrency, hplatform, hcurrency', rfl, rfl, rfl, rfl, rfl, rfl⟩

/-- A stage of the transfer leaves the marketplace's promises in place. -/
theorem Inv.absorb (inv : Inv s) {wallet : Service} {event : Wallet.Event}
    (hprepared : s.Prepared id escrow request) (hwallet : Service.Inv wallet)
    (hothers : ∀ j, j ≠ i → wallet.workers[j]? = s.wallet.workers[j]?)
    (houtcome : Service.Outcome s.wallet wallet i request event) :
    Inv (s.absorb i id escrow request (wallet, event)).1 := by
  -- Every case moves worker `i` to a phase that has to be justified; the others stay.
  have moved : ∀ next, Grows s ({ s with wallet } : State) →
      (∀ record ∈ wallet.posted, record ∈ s.wallet.posted ∨
        ∃ id invoice, s.invoices[id]? = some invoice ∧ Collects id invoice record) →
      ({ s with wallet } : State).PhaseOk i next →
        Inv (({ s with wallet } : State).goto i next) := by
    intro next growth hposted hnext
    refine inv.grow (t := ({ s with wallet } : State).goto i next)
      ⟨growth.posted, growth.accounts, growth.kept, growth.known⟩ hwallet ?_ hposted
      (fun _ _ h => .inl h)
    intro j q hq
    obtain ⟨rfl, rfl⟩ | ⟨hne, hold⟩ := getElem?_set_cases hq
    · exact .inl (hnext.grow (.same_invoices (List.Subset.refl _) (fun _ => rfl) rfl) rfl)
    · exact .inr ⟨hold, hothers j hne⟩
  have untouched : Service.Untouched s.wallet wallet → ∀ next,
      ({ s with wallet } : State).PhaseOk i next →
        Inv (({ s with wallet } : State).goto i next) := by
    rintro ⟨hdb, hposted⟩ next hnext
    refine moved next (.same_invoices ?_ ?_ rfl) ?_ hnext
    · exact fun record hrecord => by rw [hposted]; exact hrecord
    · exact fun account => by rw [hdb]
    · exact fun record hrecord => .inl (by rw [← hposted]; exact hrecord)
  cases houtcome with
  | progressed hsame hworker hcarries =>
    have hgrown : ({ s with wallet } : State).Prepared id escrow request :=
      hprepared.grow (.same_invoices (by rw [hsame.2]; exact List.Subset.refl _)
        (by simp [hsame.1]) rfl)
    exact untouched hsame _ ⟨hgrown, _, hworker, hcarries⟩
  | refused hsame => exact untouched hsame _ trivial
  | rolledBack hsame => exact untouched hsame _ trivial
  | replayed hsame hrecord hkey hid _ =>
    obtain ⟨invoice, account, hinvoice, hcollecting, -, -⟩ := hprepared
    refine untouched hsame _ ⟨⟨invoice, hinvoice⟩, _, ?_, hkey.trans hcollecting.key, hid⟩
    rw [show ({ s with wallet } : State).wallet.posted = s.wallet.posted from hsame.2]
    exact hrecord
  | @posted env parties legs receipt haccounts hposted hparties hlegs _ =>
    obtain ⟨invoice, account, hinvoice, hcollecting, haccount, hescrow⟩ := hprepared
    obtain ⟨hsender, hrecipient⟩ := hparties
    rw [hcollecting.fromAccount, haccount] at hsender
    rw [hcollecting.toAccount, hescrow] at hrecipient
    obtain ⟨sender, recipient⟩ := parties
    obtain rfl : account = sender := Option.some.inj hsender
    obtain rfl : escrow = recipient := Option.some.inj hrecipient
    refine moved _ (.same_invoices ?_ haccounts rfl) ?_
      ⟨⟨invoice, hinvoice⟩, ⟨request, ⟨account, escrow⟩, legs, receipt.transactionId⟩, ?_,
        hcollecting.key, rfl⟩
    · rw [hposted]
      exact List.subset_append_left _ _
    · intro record hrecord
      rw [hposted] at hrecord
      obtain hold | hnew := List.mem_append.mp hrecord
      · exact .inl hold
      · obtain rfl := List.mem_singleton.mp hnew
        exact .inr ⟨id, invoice, hinvoice, hcollecting, hcollecting.legs hlegs⟩
    · rw [show ({ s with wallet } : State).wallet.posted = _ from hposted]
      exact List.mem_append_right _ (List.mem_singleton_self _)

theorem recordPaid_ok (h : recordPaid invoice transactionId = .ok new) :
    invoice.SameTerms new ∧ new.status = .paid ∧ new.transactionId = some transactionId ∧
      new.cashReceivedByUserId = invoice.cashReceivedByUserId := by
  unfold recordPaid at h
  split at h
  · rename_i hpaid
    simp only [check_bind_eq_ok, require_eq_ok, pure_eq_ok] at h
    obtain ⟨hsame, rfl⟩ := h
    exact ⟨⟨rfl, rfl, rfl, rfl⟩, hpaid, hsame, rfl⟩
  · simp only [check_bind_eq_ok, require_eq_ok, pure_eq_ok] at h
    obtain ⟨-, rfl⟩ := h
    exact ⟨⟨rfl, rfl, rfl, rfl⟩, rfl, rfl, rfl⟩

theorem Inv.recording (inv : Inv s) {posted : Bool} (hposted : s.PostedAs id transactionId) :
    Inv (s.record i id escrow transactionId posted).1 := by
  unfold State.record
  split
  · exact inv.goto trivial
  · rename_i old hold
    split
    · exact inv.goto trivial
    · split
      · exact inv.goto trivial
      · rename_i new hnew
        obtain ⟨hterms, hpaid, htransaction, hreceived⟩ := recordPaid_ok hnew
        have growth : Grows s { s with invoices := s.invoices.set id new } :=
          .set rfl hold hterms rfl
        refine Inv.goto (inv.grow growth inv.wallet (fun _ _ h => .inr ⟨h, rfl⟩)
          (fun _ h => .inl h) ?_) trivial
        intro other row hrow
        obtain ⟨rfl, rfl⟩ | ⟨-, hrow⟩ := getElem?_set_cases hrow
        · refine .inr ⟨fun _ => ⟨transactionId, htransaction, hposted.grow growth⟩, ?_⟩
          rw [hpaid, hreceived, hterms.paymentMethod]
          rintro (hstatus | hcash)
          · cases hstatus
          · exact (inv.rows other old hold).cash (.inr hcash)
        · exact .inl hrow

theorem Inv.fail (inv : Inv s) : Inv (s.fail i phase).1 := by
  have growth : Grows s (s.fail i phase).1 := .same_invoices (List.Subset.refl _) (fun _ => rfl) rfl
  refine inv.grow growth (inv.wallet.goto_unclaimed trivial (fun _ => rfl)) ?_
    (fun _ h => .inl h) (fun _ _ h => .inl h)
  intro j q hq
  obtain ⟨rfl, rfl⟩ | ⟨hne, hold⟩ := getElem?_set_cases hq
  · exact .inl trivial
  · exact .inr ⟨hold, by simp [State.fail, Service.goto, List.getElem?_set_ne (Ne.symm hne)]⟩

theorem Inv.step (inv : Inv s) {label : ℕ × Move} {event : Event}
    (h : s.step label = some (t, event)) : Inv t := by
  unfold State.step at h
  split at h
  · obtain rfl : _ = t := congrArg Prod.fst (Option.some.inj h)
    exact inv.rewrite (fun _ _ h => markDue_keeps h)
  · obtain rfl : _ = t := congrArg Prod.fst (Option.some.inj h)
    exact inv.rewrite (fun _ _ h => confirmCash_keeps h)
  · obtain rfl : _ = t := congrArg Prod.fst (Option.some.inj h)
    exact inv.settle
  · obtain rfl : _ = t := congrArg Prod.fst (Option.some.inj h)
    exact inv.prepare
  · rename_i hworker
    obtain ⟨⟨wallet, shown⟩, hwallet, heq⟩ := Option.map_eq_some_iff.mp h
    obtain rfl : _ = t := congrArg Prod.fst heq
    exact inv.absorb (inv.phases _ _ hworker) (inv.wallet.step hwallet)
      (fun _ hj => Service.step_others hwallet hj) (Service.call_outcome inv.wallet hwallet)
  · rename_i hworker
    obtain ⟨⟨wallet, shown⟩, hwallet, heq⟩ := Option.map_eq_some_iff.mp h
    obtain rfl : _ = t := congrArg Prod.fst heq
    obtain ⟨hprepared, phase, hphase, hcarries⟩ := inv.phases _ _ hworker
    exact inv.absorb hprepared (inv.wallet.step hwallet)
      (fun _ hj => Service.step_others hwallet hj)
      (Service.stage_outcome inv.wallet hphase hcarries hwallet)
  · rename_i hworker
    obtain rfl : _ = t := congrArg Prod.fst (Option.some.inj h)
    exact inv.recording (inv.phases _ _ hworker).2
  · obtain rfl : _ = t := congrArg Prod.fst (Option.some.inj h)
    exact inv.fail
  · cases h

/-! ## Whole runs -/

/-- Newly created invoices before any call: no worker is busy, and no transfer was
posted under the key of an invoice. -/
structure Fresh (s : State) : Prop where
  idle : ∀ phase ∈ s.workers, phase = .idle
  walletIdle : ∀ phase ∈ s.wallet.workers, phase = .idle
  traced : Service.Traced s.wallet.db s.wallet.posted
  uncollected : ∀ record ∈ s.wallet.posted, ∀ id < s.invoices.length,
    record.request.clientRequestId ≠ invoiceKey id
  pending : ∀ invoice ∈ s.invoices, invoice.status = .pending ∧ invoice.cashReceivedByUserId = none

theorem Fresh.inv (fresh : Fresh s) : Inv s := by
  refine ⟨⟨fresh.traced, ?_, ?_⟩, ?_, ?_, ?_⟩
  · intro i phase hphase
    rw [fresh.walletIdle phase (List.mem_of_getElem? hphase)]
    trivial
  · intro i j phase phase' key hphase _ hkey _
    rw [fresh.walletIdle phase (List.mem_of_getElem? hphase)] at hkey
    cases hkey
  · intro i phase hphase
    rw [fresh.idle phase (List.mem_of_getElem? hphase)]
    trivial
  · intro record hrecord id invoice hinvoice hkey
    exact absurd hkey
      (fresh.uncollected record hrecord id (List.getElem?_eq_some_iff.mp hinvoice).1)
  · intro id invoice hinvoice
    obtain ⟨hstatus, hreceived⟩ := fresh.pending invoice (List.mem_of_getElem? hinvoice)
    exact ⟨by simp [hstatus], by simp [hstatus, hreceived]⟩

/-- A posted transfer that collected the invoice, its completed row, and the two
ledger entries under it. -/
structure Collected (db : Db) (id : ℕ) (invoice : Invoice) (record : PostedTransfer) : Prop where
  collects : Collects id invoice record
  row : ∃ row, db.transactions.get? record.id = some row ∧ row.status = .completed ∧
    row.txType = .transfer ∧ row.amount = invoice.amount ∧ row.currency = invoice.currency
  entries : (db.ledger.filter (·.transactionId = record.id)).map LedgerEntry.posting =
    [⟨record.parties.sender.id, invoice.currency, -invoice.amount.micros⟩,
      ⟨record.parties.recipient.id, invoice.currency, invoice.amount.micros⟩]

theorem Inv.collected (inv : Inv s) (hinvoice : s.invoices[id]? = some invoice)
    (hrecord : record ∈ s.wallet.posted)
    (hkey : record.request.clientRequestId = invoiceKey id) :
    Collected s.wallet.db id invoice record := by
  have collects := inv.collections record hrecord id invoice hinvoice hkey
  obtain ⟨-, row, hrow, hfound⟩ := inv.wallet.traced.rows record hrecord
  obtain ⟨-, htype, -, hamount, hcurrency, -⟩ := Db.draftTransaction_ok hrow
  refine ⟨collects, ⟨row.complete, (Table.lookup_eq_some_iff.mp hfound).1, rfl, htype, ?_,
    hcurrency.trans collects.collecting.currency⟩, ?_⟩
  · rw [TransferRequest.quantized, collects.collecting.amount, invoice.quantize_amount,
      Amount.toDecimal, roundHalfUp_gridValue (by decide)] at hamount
    exact Amount.ext hamount
  · rw [inv.wallet.traced.entries record hrecord, collects.postings]

theorem Inv.posted_once (inv : Inv s) (key : String) :
    (s.wallet.posted.filter (·.request.clientRequestId = key)).length ≤ 1 := by
  have honce := List.nodup_iff_count_le_one.mp inv.wallet.traced.once key
  rw [List.count, List.countP_map] at honce
  rw [← List.countP_eq_length_filter]
  simpa [Function.comp_def, beq_eq_decide] using honce

/-- The transfer a call has posted, seen from the phase of its worker. -/
def Phase.posted : Phase → Option TransactionId
  | .collected _ _ transactionId posted => postedBy transactionId posted
  | _ => none

theorem Phase.posted_eq_some {phase : Phase} :
    posted phase = some transactionId ↔ ∃ id escrow, phase = .collected id escrow transactionId
      true := by
  cases phase with
  | collected id escrow found fresh => cases fresh <;> simp [posted, postedBy]
  | _ => simp [posted]

theorem rewrite_failed {change : Invoice → Except InvoiceError Invoice} {e : InvoiceError}
    {posted : Option TransactionId} (h : (s.rewrite id change).2 = .failed e posted) :
    posted = none := by
  unfold State.rewrite at h
  split at h
  · cases h
    rfl
  · split at h
    · cases h
      rfl
    · cases h

theorem absorb_failed {outcome : Service × Wallet.Event} {e : InvoiceError}
    {posted : Option TransactionId}
    (h : (s.absorb i id escrow request outcome).2 = .failed e posted) : posted = none := by
  unfold State.absorb at h
  split at h <;> cases h <;> rfl

/-- A call that raises reports the transfer it had posted. -/
theorem step_failed {label : ℕ × Move} {e : InvoiceError} {posted : Option TransactionId}
    (h : s.step label = some (t, .failed e posted)) (hworker : s.workers[label.1]? = some phase) :
    posted = Phase.posted phase := by
  simp only [State.step, hworker] at h
  split at h
  · rename_i heq
    cases heq
    exact rewrite_failed (congrArg Prod.snd (Option.some.inj h))
  · rename_i heq
    cases heq
    exact rewrite_failed (congrArg Prod.snd (Option.some.inj h))
  · rename_i heq
    cases heq
    unfold State.settle at h
    split at h
    · cases h
    · rename_i event _ heq
      cases h
      exact rewrite_failed (congrArg Prod.snd heq)
  · rename_i heq
    cases heq
    unfold State.prepare at h
    repeat' split at h
    all_goals cases h
    all_goals rfl
  · rename_i heq
    cases heq
    obtain ⟨outcome, -, houtcome⟩ := Option.map_eq_some_iff.mp h
    exact absorb_failed (congrArg Prod.snd houtcome)
  · rename_i heq
    cases heq
    obtain ⟨outcome, -, houtcome⟩ := Option.map_eq_some_iff.mp h
    exact absorb_failed (congrArg Prod.snd houtcome)
  · rename_i heq
    cases heq
    unfold State.record at h
    repeat' split at h
    all_goals cases h
    all_goals rfl
  · rename_i heq
    cases heq
    cases h
    cases phase <;> rfl
  · cases h

/-- A stage of the transfer commits nothing, or the call has now posted. -/
theorem absorb_db {wallet : Service} {shown : Wallet.Event}
    (houtcome : Service.Outcome s.wallet wallet i request shown) (hi : i < s.workers.length) :
    (s.absorb i id escrow request (wallet, shown)).1.wallet.db = s.wallet.db ∨
      ((s.absorb i id escrow request (wallet, shown)).2 = .progressed ∧
        ∃ transactionId, (s.absorb i id escrow request (wallet, shown)).1.workers[i]? =
          some (.collected id escrow transactionId true)) := by
  cases houtcome with
  | progressed hsame _ _ => exact .inl hsame.1
  | refused hsame => exact .inl hsame.1
  | rolledBack hsame => exact .inl hsame.1
  | replayed hsame _ _ _ _ => exact .inl hsame.1
  | @posted _ _ _ receipt _ _ _ _ hfresh =>
    exact .inr ⟨rfl, receipt.transactionId, by simp [State.absorb, State.goto, hi, hfresh]⟩

/-- A step commits nothing in the wallet, or its call has now posted the transfer
of its invoice. -/
theorem step_db (inv : Inv s) {label : ℕ × Move} {event : Event}
    (h : s.step label = some (t, event)) :
    t.wallet.db = s.wallet.db ∨ (event = .progressed ∧ ∃ id escrow transactionId,
      t.workers[label.1]? = some (.collected id escrow transactionId true)) := by
  unfold State.step at h
  split at h
  · obtain rfl : _ = t := congrArg Prod.fst (Option.some.inj h)
    exact .inl (by rw [(rewrite_frame _ _ _).1])
  · obtain rfl : _ = t := congrArg Prod.fst (Option.some.inj h)
    exact .inl (by rw [(rewrite_frame _ _ _).1])
  · rename_i id context _ _ _
    have hframe := (rewrite_frame s id (fun invoice => markDueAfterCompletion invoice context)).1
    obtain rfl : _ = t := congrArg Prod.fst (Option.some.inj h)
    unfold State.settle
    split
    · rename_i heq
      rw [heq] at hframe
      exact .inl (by rw [← hframe]; rfl)
    · rename_i heq
      rw [heq] at hframe
      exact .inl (by rw [← hframe])
  · obtain rfl : _ = t := congrArg Prod.fst (Option.some.inj h)
    unfold State.prepare
    repeat' split
    all_goals exact .inl rfl
  · rename_i hworker
    obtain ⟨⟨wallet, shown⟩, hwallet, heq⟩ := Option.map_eq_some_iff.mp h
    obtain rfl : _ = t := congrArg Prod.fst heq
    obtain rfl : _ = event := congrArg Prod.snd heq
    refine (absorb_db (Service.call_outcome inv.wallet hwallet)
      (List.getElem?_eq_some_iff.mp hworker).1).imp_right ?_
    exact fun hcollected => ⟨hcollected.1, _, _, hcollected.2⟩
  · rename_i hworker
    obtain ⟨⟨wallet, shown⟩, hwallet, heq⟩ := Option.map_eq_some_iff.mp h
    obtain rfl : _ = t := congrArg Prod.fst heq
    obtain ⟨-, phase, hphase, hcarries⟩ := inv.phases _ _ hworker
    obtain rfl : _ = event := congrArg Prod.snd heq
    refine (absorb_db (Service.stage_outcome inv.wallet hphase hcarries hwallet)
      (List.getElem?_eq_some_iff.mp hworker).1).imp_right ?_
    exact fun hcollected => ⟨hcollected.1, _, _, hcollected.2⟩
  · obtain rfl : _ = t := congrArg Prod.fst (Option.some.inj h)
    unfold State.record
    repeat' split
    all_goals exact .inl rfl
  · obtain rfl : _ = t := congrArg Prod.fst (Option.some.inj h)
    exact .inl rfl
  · cases h

/-- For every interleaving, repetition and failure of the calls: at most one
transfer is posted for an invoice, and it moves exactly the invoice amount from
the payer to the escrow; a paid invoice names it; and no invoice is both collected
and received in cash. A step changes the wallet only by posting such a transfer,
and a call that raises afterwards, which it then reports, leaves that one transfer
behind and nothing else. -/
theorem invoices_collected_once (fresh : Fresh s) {labels : List (ℕ × Move)}
    (run : Run Step s labels t) :
    (∀ (id : ℕ) invoice, t.invoices[id]? = some invoice →
      (t.wallet.posted.filter (·.request.clientRequestId = invoiceKey id)).length ≤ 1 ∧
      (∀ record ∈ t.wallet.posted, record.request.clientRequestId = invoiceKey id →
        Collected t.wallet.db id invoice record) ∧
      (invoice.status = .paid → ∃ record ∈ t.wallet.posted,
        invoice.transactionId = some record.id ∧ Collected t.wallet.db id invoice record) ∧
      ¬ ((∃ record ∈ t.wallet.posted, record.request.clientRequestId = invoiceKey id) ∧
        (invoice.status = .cashReceived ∨ invoice.cashReceivedByUserId ≠ none))) ∧
    (∀ label u event, t.step label = some (u, event) →
      u.wallet.db = t.wallet.db ∨ (event = .progressed ∧ ∃ id escrow transactionId,
        u.workers[label.1]? = some (.collected id escrow transactionId true))) ∧
    ∀ label u phase e posted, t.step label = some (u, .failed e posted) →
      t.workers[label.1]? = some phase →
      (∀ transactionId, posted = some transactionId ↔
        ∃ id escrow, phase = .collected id escrow transactionId true) ∧
      ∀ transactionId, posted = some transactionId → ∃ id invoice record,
        t.invoices[id]? = some invoice ∧ record ∈ t.wallet.posted ∧
        record.id = transactionId ∧ Collected t.wallet.db id invoice record := by
  have inv : Inv t := run.invariant Inv (fun _ _ _ h ⟨_, hstep⟩ => h.step hstep) fresh.inv
  refine ⟨?_, fun _ _ _ hstep => step_db inv hstep, ?_⟩
  · intro id invoice hinvoice
    refine ⟨inv.posted_once _, fun _ h hkey => inv.collected hinvoice h hkey, ?_, ?_⟩
    · intro hpaid
      obtain ⟨transactionId, htransaction, record, hrecord, hkey, rfl⟩ :=
        (inv.rows id invoice hinvoice).paid hpaid
      exact ⟨record, hrecord, htransaction, inv.collected hinvoice hrecord hkey⟩
    · rintro ⟨⟨record, hrecord, hkey⟩, hcash⟩
      have hmethod := (inv.rows id invoice hinvoice).cash hcash
      rw [(inv.collections record hrecord id invoice hinvoice hkey).collecting.method] at hmethod
      cases hmethod
  · intro label u phase e posted hstep hworker
    obtain rfl := step_failed hstep hworker
    refine ⟨fun _ => Phase.posted_eq_some, ?_⟩
    intro transactionId hposted
    obtain ⟨id, escrow, rfl⟩ := Phase.posted_eq_some.mp hposted
    obtain ⟨⟨invoice, hinvoice⟩, record, hrecord, hkey, hid⟩ := inv.phases _ _ hworker
    exact ⟨id, invoice, record, hinvoice, hrecord, hid, inv.collected hinvoice hrecord hkey⟩

/-! ## One ride -/

/-- The wallet of user 7, who has topped up 1000 shillings, and the Transport
escrow account of the platform. -/
def rideWallets : Db :=
  walletRun (Db.opened [userWallet 1 7 "UGX", platformWallet 2 1] (by decide)) [fundFirst]

/-- An invoice of 100 shillings for a ride of user 7. -/
def rideInvoice : Invoice :=
  { serviceCode := "transport", serviceReference := "R-5", payerUserId := 7
    amount := ⟨100000000, by decide, by decide⟩, currency := "UGX", paymentMethod := .wallet
    hundredths := by decide }

def rideContext : ServiceContext :=
  { payerUserId := 7, serviceCode := "transport", serviceReference := "R-5", amount := some 100
    currency := "UGX" }

/-- The unpaid ride, and one idle worker. -/
def ride : State where
  wallet := ⟨rideWallets, [.idle], []⟩
  invoices := [rideInvoice]
  workers := [.idle]

/-- A settlement up to the commit of its transfer. -/
def collectRide : List (ℕ × Move) :=
  [(0, .settle 0 rideContext none),
    (0, .prepare { isActive := fun _ => true, isTransportEscrow := fun id => id = 2 }),
    (0, .startTransfer (Env.lenient 1 ⟨7, false⟩)), (0, .advance .check), (0, .advance .claim),
    (0, .advance .commit)]

/-- The state after a move. -/
def next (s : State) (label : ℕ × Move) : Option State := (s.step label).map Prod.fst

theorem step_of_next (s : State) (label : ℕ × Move) (t : State)
    (h : s.next label = some t) : Step s label t := by
  obtain ⟨⟨t', event⟩, hstep, rfl⟩ := Option.map_eq_some_iff.mp h
  exact ⟨event, hstep⟩

private theorem ride_fresh : Fresh ride where
  idle := by simp [ride]
  walletIdle := by simp [ride]
  traced := .nil (by decide +kernel)
  uncollected := by simp [ride]
  pending := by simp [ride, rideInvoice]

/-- A settlement that runs to its end leaves the ride paid and collected. -/
theorem ride_collected :
    ∃ t invoice record, exec next ride (collectRide ++ [(0, .record)]) = some t ∧
      t.invoices[0]? = some invoice ∧ invoice.status = .paid ∧
      Collected t.wallet.db 0 invoice record := by
  have hpaid : (exec next ride (collectRide ++ [(0, .record)])).any
      (fun t => t.invoices[0]?.any (fun invoice => invoice.status = .paid)) = true := by
    decide +kernel
  obtain ⟨t, hrun, hpaid⟩ := (Option.any_eq_true _ _).mp hpaid
  obtain ⟨invoice, hinvoice, hpaid⟩ := (Option.any_eq_true _ _).mp hpaid
  have hstatus : invoice.status = .paid := by simpa using hpaid
  obtain ⟨record, -, -, hcollected⟩ := ((invoices_collected_once ride_fresh
    (Run.of_exec step_of_next hrun)).1 0 invoice hinvoice).2.2.1 hstatus
  exact ⟨t, invoice, record, hrun, hinvoice, hstatus, hcollected⟩

/-- The moves that begin a call. -/
def Move.starts : Move → Bool
  | .markDue .. | .confirmCash .. | .settle .. => true
  | _ => false

/-- The moves of a single call of one worker. -/
def OneCall (labels : List (ℕ × Move)) : Prop :=
  ∃ i first rest, labels = (i, first) :: rest ∧ Move.starts first = true ∧
    ∀ label ∈ rest, label.1 = i ∧ Move.starts label.2 = false

/-- A settlement that fails after its transfer was committed has raised, and the
payer has paid. -/
theorem failed_settlement_keeps_payment :
    ¬ ∀ (s t u : State) (labels : List (ℕ × Move)) label e posted, Fresh s →
      Run Step s labels t → OneCall (labels ++ [label]) →
      t.step label = some (u, .failed e posted) →
      ∀ invoice ∈ s.invoices, ∀ account ∈ s.wallet.db.accounts.rows,
        account.userId = some invoice.payerUserId →
        u.wallet.db.getBalance account.id invoice.currency =
          s.wallet.db.getBalance account.id invoice.currency := by
  intro claim
  have hpaid : (exec next ride collectRide).any (fun t =>
      t.wallet.db.getBalance 1 "UGX" ≠ ride.wallet.db.getBalance 1 "UGX" ∧
        t.workers[0]?.isSome) = true := by
    decide +kernel
  obtain ⟨t, hrun, hpaid⟩ := (Option.any_eq_true _ _).mp hpaid
  simp only [decide_eq_true_eq] at hpaid
  obtain ⟨hpaid, hworker⟩ := hpaid
  obtain ⟨phase, hphase⟩ := Option.isSome_iff_exists.mp hworker
  have hfails : t.step (0, .fail) = some (t.fail 0 phase) := by
    simp [State.step, hphase]
  have hcall : OneCall (collectRide ++ [(0, .fail)]) :=
    ⟨0, _, _, rfl, rfl, by simp [Move.starts]⟩
  have hrider : ride.wallet.db.accounts.rows.any
      (fun account => account.id = 1 ∧ account.userId = some 7) = true := by decide +kernel
  obtain ⟨account, haccount, howner⟩ := List.any_eq_true.mp hrider
  simp only [decide_eq_true_eq] at howner
  have hsame := claim ride t _ collectRide (0, .fail) _ _ ride_fresh
    (Run.of_exec step_of_next hrun) hcall hfails rideInvoice (by simp [ride]) account haccount
    howner.2
  rw [howner.1] at hsame
  exact hpaid hsame

end State

end Settlement

end Afcon360.Marketplace
