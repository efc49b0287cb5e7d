import Afcon360.Wallet.Booking
import Afcon360.Wallet.Checks

/-!
# Transfers

`WalletService.transfer`, one database transaction cut at the places where other
transactions can be observed: the opening (validation, PIN, account locks,
ownership), the lookup of the idempotency key, the checks that compute the two
legs, and the booking. `transfer` runs them against one database state.
-/

namespace Afcon360.Wallet

open Foundation

/-- The arguments of `transfer`. -/
structure TransferRequest where
  fromAccountId : AccountId
  toAccountId : AccountId
  amount : ℚ
  currency : Currency
  clientRequestId : String
  note : Option String := none
  metadata : Metadata := []
  platformFee : Option ℚ := none
  feeCurrency : Option Currency := none
  pin : Option String := none
  systemInitiated : Bool := false

namespace TransferRequest

/-- The amount after `_quantize`. -/
def quantized (request : TransferRequest) : ℚ := quantize request.amount

/-- `platform_fee or Decimal('0')`. -/
def fee (request : TransferRequest) : ℚ := request.platformFee.getD 0

/-- `fee_currency or currency`; an empty string counts as missing. -/
def feeCurrencyOr (request : TransferRequest) : Currency :=
  (request.feeCurrency.filter (· ≠ "")).getD request.currency

end TransferRequest

/-- What `transfer` returns; a replay leaves out the account ids and the note. -/
structure TransferReceipt where
  transactionId : TransactionId
  alreadyProcessed : Bool
  amount : ℚ
  currency : Currency
  newBalanceFrom : ℚ
  newBalanceTo : ℚ
  accounts : Option (AccountId × AccountId) := none
  note : Option String := none

/-- The two locked accounts of a transfer. -/
structure Parties where
  sender : Account
  recipient : Account

/-- The amounts and currencies of the two ledger entries. -/
structure Legs where
  debitAmount : ℚ
  debitCurrency : Currency
  creditAmount : ℚ
  creditCurrency : Currency

/-! ## Opening -/

/-- The check of a PIN against the sender's authority. -/
def checkPin (authority : Option PinAuthority) (pin : Option String) : Attempt Unit :=
  match authority with
  | none => .error (.transactionPin "Sender PIN authority could not be verified")
  | some authority =>
    if ¬ authority.pinSet then
      .error (.transactionPin "Set a transaction PIN before sending money")
    else
      match pin.filter (· ≠ "") with
      | none => .error (.transactionPin "Transaction PIN is required")
      | some pin => require (authority.verify pin = true) (.transactionPin "Invalid or locked PIN")

/-- PIN verification, skipped for system-initiated transfers. Every failure other
than a missing account, a missing permission or a PIN error fails closed as a PIN
error. -/
def verifyPin (env : Env) (db : Db) (request : TransferRequest) : Attempt Unit :=
  if request.systemInitiated then .ok ()
  else
    match lockAccount db request.fromAccountId with
    | .error e => .error e
    | .ok sender =>
      match checkOwnership env false sender with
      | .error .attribute => .error (.transactionPin
          "AFCON360 could not securely verify your transaction PIN. No transfer was made.")
      | .error e => .error e
      | .ok () => checkPin (env.pinAuthority sender.userId) request.pin

/-- Lock both accounts in the order of their ids. -/
def lockParties (db : Db) (request : TransferRequest) : Attempt Parties :=
  if request.fromAccountId ≤ request.toAccountId then do
    let sender ← lockAccount db request.fromAccountId
    let recipient ← lockAccount db request.toAccountId
    pure ⟨sender, recipient⟩
  else do
    let recipient ← lockAccount db request.toAccountId
    let sender ← lockAccount db request.fromAccountId
    pure ⟨sender, recipient⟩

/-- Everything `transfer` does before it looks at the idempotency key. -/
def transferOpening (env : Env) (db : Db) (request : TransferRequest) : Attempt Parties := do
  require (request.fromAccountId ≠ request.toAccountId) (.value "Cannot transfer to yourself")
  require (0 < request.quantized) (.value "Amount must be greater than zero")
  validateCurrency env request.currency
  verifyPin env db request
  let parties ← lockParties db request
  checkOwnership env request.systemInitiated parties.sender
  pure parties

/-! ## The terms recorded under a key -/

/-- The metadata keys that identify a marketplace payment. -/
def financialKeys : List String :=
  ["marketplace_invoice_id", "service_code", "service_reference", "settlement_timing",
    "escrow_account_id", "escrow_service_type"]

/-- `_transfer_terms_match`. The recorded amount is quantized as the request's
is; currencies are compared in upper case; accounts are compared by the users
that own them. -/
def transferTermsMatch (request : TransferRequest) (parties : Parties) (candidate : Transaction) :
    Bool :=
  candidate.txType = .transfer ∧
    quantize candidate.amount.toDecimal = quantize request.quantized ∧
    candidate.currency.toUpper = request.currency.toUpper ∧
    candidate.userId = parties.sender.userId ∧
    candidate.recipientUserId = parties.recipient.userId ∧
    financialKeys.all (fun key => request.metadata.lookup key = candidate.metadata.lookup key)

/-! ## Checks and legs -/

/-- The legs of a transfer. Between accounts of one currency both legs carry the
requested amount in the accounts' currency; otherwise one leg is converted. -/
def transferLegs (env : Env) (request : TransferRequest) (parties : Parties) : Attempt Legs :=
  let amount := request.quantized
  let home := parties.sender.currency
  let abroad := parties.recipient.currency
  if home = abroad then .ok ⟨amount, home, amount, abroad⟩
  else if request.currency = home then
    match env.fxRate home abroad with
    | none => .error (.rateUnavailable home abroad)
    | some rate => .ok ⟨amount, home, quantizeHalfEven (amount * rate), abroad⟩
  else
    match env.fxRate request.currency home with
    | none => .error (.rateUnavailable request.currency home)
    | some rate => .ok ⟨quantizeHalfEven (amount * rate), home, amount, abroad⟩

/-- The checks between the lookup of the key and the booking. -/
def transferChecks (env : Env) (db : Db) (request : TransferRequest) (parties : Parties) :
    Attempt Legs := do
  let amount := request.quantized
  checkTransactionLimit env amount .transfer
  checkFrozen parties.sender
  checkFrozen parties.recipient
  checkKycLimits env db parties.sender.userId amount .send request.currency
    parties.recipient.userId parties.sender.id
  checkFraudRisk env parties.sender.userId amount request.currency parties.recipient.userId
  let legs ← transferLegs env request parties
  let balance := db.getBalance parties.sender.id legs.debitCurrency
  let totalDebit := legs.debitAmount + request.fee
  require (totalDebit ≤ balance) (.insufficientBalance legs.debitCurrency totalDebit balance)
  checkDailyLimit env db parties.sender.id legs.debitAmount legs.debitCurrency
  checkMonthlyLimit env db parties.sender.id legs.debitAmount legs.debitCurrency
  pure legs

/-! ## Booking -/

/-- The entries of a transfer: the debit, the credit and, for a positive
platform fee, a second debit in the fee's currency. -/
def transferDrafts (request : TransferRequest) (parties : Parties) (legs : Legs)
    (id : TransactionId) : List Db.EntryDraft :=
  [⟨id, parties.sender.id, .debit, legs.debitAmount, legs.debitCurrency⟩,
    ⟨id, parties.recipient.id, .credit, legs.creditAmount, legs.creditCurrency⟩] ++
  if 0 < request.fee then
    [⟨id, parties.sender.id, .debit, request.fee, request.feeCurrencyOr⟩]
  else []

/-- The transaction row of a transfer. -/
def transferRow (request : TransferRequest) (parties : Parties) : Attempt Transaction :=
  Db.draftTransaction request.clientRequestId .transfer request.quantized request.currency
    parties.sender.userId parties.recipient.userId request.metadata

/-- The receipt of a replay found by the lookup before the checks. -/
def replayReceipt (db : Db) (parties : Parties) (id : TransactionId) (existing : Transaction) :
    TransferReceipt where
  transactionId := id
  alreadyProcessed := true
  amount := existing.amount.toDecimal
  currency := existing.currency
  newBalanceFrom := db.getBalance parties.sender.id parties.sender.currency.toUpper
  newBalanceTo := db.getBalance parties.recipient.id parties.recipient.currency.toUpper

/-- Answer a request whose key is recorded already. -/
def transferReplay (db : Db) (request : TransferRequest) (parties : Parties) (id : TransactionId)
    (existing : Transaction) : Attempt TransferReceipt :=
  if ¬ transferTermsMatch request parties existing then
    .error (.duplicateTransaction request.clientRequestId (some id))
  else if existing.status ≠ .completed then
    .error (.duplicateTransaction request.clientRequestId (some id))
  else .ok (replayReceipt db parties id existing)

/-- The receipt of a booking: a replay won by another call reports the balances
of the two legs, a posting those in the requested currency. -/
def transferReceipt (request : TransferRequest) (parties : Parties) (legs : Legs)
    (booking : Booking) : TransferReceipt :=
  if booking.posted then
    { transactionId := booking.id
      alreadyProcessed := false
      amount := request.quantized
      currency := request.currency
      newBalanceFrom := booking.db.getBalance parties.sender.id request.currency
      newBalanceTo := booking.db.getBalance parties.recipient.id request.currency
      accounts := some (parties.sender.id, parties.recipient.id)
      note := request.note }
  else
    { transactionId := booking.id
      alreadyProcessed := true
      amount := request.quantized
      currency := request.currency
      newBalanceFrom := booking.db.getBalance parties.sender.id legs.debitCurrency
      newBalanceTo := booking.db.getBalance parties.recipient.id legs.creditCurrency }

/-- The booking of a transfer. A completed row that another call recorded first
must carry the same terms. -/
def bookTransfer (env : Env) (db : Db) (request : TransferRequest) (parties : Parties)
    (legs : Legs) : Attempt Booking := do
  let row ← transferRow request parties
  let booking ← book db env.now row (transferDrafts request parties legs)
  require (booking.posted = true ∨ transferTermsMatch request parties booking.row)
    (.duplicateTransaction request.clientRequestId (some booking.id))
  pure booking

/-- `WalletService.transfer`. -/
def transfer (env : Env) (db : Db) (request : TransferRequest) : Attempt (TransferReceipt × Db) :=
  do
    let parties ← transferOpening env db request
    match db.getByClientRequestId request.clientRequestId with
    | some (id, existing) => do
        let receipt ← transferReplay db request parties id existing
        pure (receipt, db)
    | none => do
        let legs ← transferChecks env db request parties
        let booking ← bookTransfer env db request parties legs
        pure (transferReceipt request parties legs booking, booking.db)

/-! ## What a transfer that returned went through -/

section

variable {env : Env} {db db' : Db} {request : TransferRequest} {parties : Parties} {legs : Legs}
  {receipt : TransferReceipt} {booking : Booking}

theorem lockParties_ok (h : lockParties db request = .ok parties) :
    db.accountById request.fromAccountId = some parties.sender ∧
      db.accountById request.toAccountId = some parties.recipient := by
  unfold lockParties at h
  split at h
  · obtain ⟨sender, hsender, h⟩ := bind_eq_ok.mp h
    obtain ⟨recipient, hrecipient, h⟩ := bind_eq_ok.mp h
    cases h
    exact ⟨lockAccount_eq_ok.mp hsender, lockAccount_eq_ok.mp hrecipient⟩
  · obtain ⟨recipient, hrecipient, h⟩ := bind_eq_ok.mp h
    obtain ⟨sender, hsender, h⟩ := bind_eq_ok.mp h
    cases h
    exact ⟨lockAccount_eq_ok.mp hsender, lockAccount_eq_ok.mp hrecipient⟩

/-- The opening answers with the two accounts the request names, which differ. -/
theorem transferOpening_ok (h : transferOpening env db request = .ok parties) :
    request.fromAccountId ≠ request.toAccountId ∧ 0 < request.quantized ∧
      db.accountById request.fromAccountId = some parties.sender ∧
      db.accountById request.toAccountId = some parties.recipient := by
  simp only [transferOpening, check_bind_eq_ok, require_eq_ok] at h
  obtain ⟨hdiffer, hamount, -, -, h⟩ := h
  obtain ⟨found, hfound, h⟩ := bind_eq_ok.mp h
  simp only [check_bind_eq_ok, pure_eq_ok] at h
  obtain ⟨-, rfl⟩ := h
  obtain ⟨hsender, hrecipient⟩ := lockParties_ok hfound
  exact ⟨hdiffer, hamount, hsender, hrecipient⟩

/-- Whatever the accounts' currencies, the debit is in the sender's currency and
the credit in the recipient's, and the debited amount is a whole number of
hundredths. -/
theorem transferLegs_ok (h : transferLegs env request parties = .ok legs) :
    legs.debitCurrency = parties.sender.currency ∧
      legs.creditCurrency = parties.recipient.currency ∧
      ∃ steps, legs.debitAmount = gridValue moneyQuant steps := by
  simp only [transferLegs] at h
  split at h
  · cases h
    exact ⟨rfl, rfl, _, rfl⟩
  · split at h
    · split at h
      · cases h
      · cases h
        exact ⟨rfl, rfl, _, rfl⟩
    · split at h
      · cases h
      · cases h
        exact ⟨rfl, rfl, _, rfl⟩

/-- The checks computed the legs and compared the debit and the fee, as numbers,
with the balance in the debit currency. -/
theorem transferChecks_ok (h : transferChecks env db request parties = .ok legs) :
    transferLegs env request parties = .ok legs ∧
      legs.debitAmount + request.fee ≤ db.getBalance parties.sender.id legs.debitCurrency := by
  simp only [transferChecks, check_bind_eq_ok] at h
  obtain ⟨-, -, -, -, -, h⟩ := h
  obtain ⟨found, hfound, h⟩ := bind_eq_ok.mp h
  simp only [check_bind_eq_ok, require_eq_ok, pure_eq_ok] at h
  obtain ⟨hbalance, -, -, rfl⟩ := h
  exact ⟨hfound, hbalance⟩

/-- All entries of a transfer stand under its transaction. -/
theorem transferDrafts_under (id : TransactionId) :
    ∀ draft ∈ transferDrafts request parties legs id, draft.transactionId = id := by
  intro draft hdraft
  unfold transferDrafts at hdraft
  split at hdraft
  · simp only [List.cons_append, List.nil_append, List.mem_cons, List.not_mem_nil, or_false]
      at hdraft
    rcases hdraft with rfl | rfl | rfl <;> rfl
  · simp only [List.append_nil, List.mem_cons, List.not_mem_nil, or_false] at hdraft
    rcases hdraft with rfl | rfl <;> rfl

/-- A transfer that returned is a replay that changed nothing, or a posting. -/
theorem transfer_ok (h : transfer env db request = .ok (receipt, db')) :
    ∃ parties, transferOpening env db request = .ok parties ∧
      ((db' = db ∧ ∃ id existing,
          db.getByClientRequestId request.clientRequestId = some (id, existing) ∧
          transferTermsMatch request parties existing ∧ existing.status = .completed ∧
          receipt = replayReceipt db parties id existing) ∨
        (db.getByClientRequestId request.clientRequestId = none ∧ ∃ legs booking row,
          transferChecks env db request parties = .ok legs ∧
          transferRow request parties = .ok row ∧
          Posted db env.now row (transferDrafts request parties legs) booking ∧
          booking.posted = true ∧ booking.id = db.transactions.size ∧ booking.row = row ∧
          db' = booking.db ∧ receipt = transferReceipt request parties legs booking)) := by
  obtain ⟨parties, hparties, h⟩ := bind_eq_ok.mp h
  refine ⟨parties, hparties, ?_⟩
  split at h
  · rename_i id existing hfound
    obtain ⟨replay, hreplay, h⟩ := bind_eq_ok.mp h
    cases h
    unfold transferReplay at hreplay
    split at hreplay
    · cases hreplay
    · rename_i hmatch
      split at hreplay
      · cases hreplay
      · rename_i hstatus
        cases hreplay
        exact .inl ⟨rfl, id, existing, hfound, by simpa using hmatch, by simpa using hstatus, rfl⟩
  · rename_i hnone
    obtain ⟨legs, hlegs, h⟩ := bind_eq_ok.mp h
    obtain ⟨booking, hbooking, h⟩ := bind_eq_ok.mp h
    cases h
    obtain ⟨row, hrow, hbook⟩ := bind_eq_ok.mp hbooking
    obtain ⟨booked, hbooked, hbook⟩ := bind_eq_ok.mp hbook
    simp only [check_bind_eq_ok, pure_eq_ok] at hbook
    obtain ⟨-, rfl⟩ := hbook
    obtain ⟨hkey, -, hpending, -⟩ := Db.draftTransaction_ok hrow
    obtain ⟨-, -, -, hfound⟩ | ⟨hposted, posted⟩ := book_ok hpending hbooked
    · rw [hkey, hnone] at hfound
      cases hfound
    · have hfresh := posted.found
      rw [hkey, hnone] at hfresh
      obtain hfresh | ⟨-, hid, hrow'⟩ := hfresh
      · cases hfresh
      · exact .inr ⟨hnone, legs, booked, row, hlegs, hrow, posted, hposted, hid, hrow', rfl, rfl⟩

/-- A transfer is refused when its key names a row that does not match its
terms. -/
theorem transfer_refused {id : TransactionId} {existing : Transaction}
    (hfound : db.getByClientRequestId request.clientRequestId = some (id, existing))
    (hdiffer : ∀ parties, transferOpening env db request = .ok parties →
      ¬ transferTermsMatch request parties existing) :
    ∃ e, transfer env db request = .error e := by
  cases h : transfer env db request with
  | error e => exact ⟨e, rfl⟩
  | ok result =>
    obtain ⟨parties, hparties, hreplay | hposted⟩ := transfer_ok h
    · obtain ⟨-, id', existing', hfound', hmatch, -⟩ := hreplay
      rw [hfound] at hfound'
      cases hfound'
      exact absurd hmatch (hdiffer parties hparties)
    · rw [hfound] at hposted
      cases hposted.1

end

end Afcon360.Wallet
