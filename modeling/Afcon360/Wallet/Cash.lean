import Afcon360.Wallet.Booking
import Afcon360.Wallet.Checks

/-!
# Deposits and withdrawals

`WalletService.deposit` and `WalletService.withdraw`. Each is one database
transaction: an opening that validates the request, reads and locks the account
and applies every check, and the booking. The idempotency key is looked at in the
booking only, after all checks of the opening.
-/

namespace Afcon360.Wallet

open Foundation

/-- Python's `a or b` on optional strings: the first unless it is empty. -/
def orElse (first second : Option String) : Option String :=
  match first with
  | none => second
  | some text => if text = "" then second else some text

/-- The arguments of `deposit` that decide what it does. -/
structure DepositRequest where
  accountId : Option AccountId := none
  amount : Option ℚ
  currency : Option Currency
  clientRequestId : Option String := none
  metadata : Metadata := []
  txType : TransactionType := .deposit
  systemInitiated : Bool := false
  userId : Option UserId := none
  reference : Option String := none
  idempotencyKey : Option String := none

/-- The resolved idempotency key. -/
def DepositRequest.key (request : DepositRequest) : Option String :=
  orElse (orElse request.clientRequestId request.idempotencyKey) request.reference

/-- The arguments of `withdraw` that decide what it does. -/
structure WithdrawRequest where
  accountId : AccountId
  amount : ℚ
  currency : Currency
  clientRequestId : String
  metadata : Metadata := []
  txType : TransactionType := .withdraw
  agentOnBehalf : Bool := false
  systemInitiated : Bool := false

/-- What both operations return; a replay leaves out some of the keys. -/
structure CashReceipt where
  transactionId : TransactionId
  alreadyProcessed : Bool
  amount : ℚ
  currency : Currency
  newBalance : ℚ
  accountId : Option AccountId
  userId : Option UserId

/-- What the opening of an operation hands to the booking: the locked account
and the amount and currency to post. -/
structure Opening where
  account : Account
  amount : ℚ
  currency : Currency

/-- The account a deposit names, directly or by its owner. -/
def resolveDepositAccount (db : Db) (request : DepositRequest) : Attempt AccountId :=
  match request.accountId with
  | some id => .ok id
  | none =>
    match request.userId with
    | none => .error (.value "account_id (or user_id) is required")
    | some userId => do
        match ← db.getByUserId userId (request.currency.getD "UGX") with
        | none => .error (.walletNotFound userId)
        | some account => .ok account.id

/-- Convert a deposit to the account's home currency. -/
def convertDeposit (env : Env) (account : Account) (amount : ℚ) (currency : Currency) :
    Attempt (ℚ × Currency) :=
  if account.currency = currency then .ok (amount, currency)
  else
    match env.fxRate currency account.currency with
    | none => .error (.rateUnavailable currency account.currency)
    | some rate => .ok (quantizeHalfEven (amount * rate), account.currency)

/-- Everything `deposit` does before it looks at the idempotency key. -/
def depositOpening (env : Env) (db : Db) (request : DepositRequest) : Attempt Opening := do
  let accountId ← resolveDepositAccount db request
  match request.amount, request.currency with
  | some amount, some currency => do
      let amount := quantize amount
      require (0 < amount) (.value "Amount must be greater than zero")
      validateCurrency env currency
      checkTransactionLimit env amount .deposit
      let account ← lockAccount db accountId
      checkOwnership env request.systemInitiated account
      checkFrozen account
      let converted ← convertDeposit env account amount currency
      checkKycLimits env db account.userId converted.1 .deposit converted.2 none account.id
      checkFraudRisk env account.userId converted.1 converted.2 none
      checkDailyLimit env db account.id converted.1 converted.2
      checkMonthlyLimit env db account.id converted.1 converted.2
      pure ⟨account, converted.1, converted.2⟩
  | _, _ => .error (.value "amount and currency are required")

/-- Everything `withdraw` does before it looks at the idempotency key. -/
def withdrawOpening (env : Env) (db : Db) (request : WithdrawRequest) : Attempt Opening := do
  let amount := quantize request.amount
  require (0 < amount) (.value "Amount must be greater than zero")
  validateCurrency env request.currency
  checkTransactionLimit env amount .withdraw
  let account ← lockAccount db request.accountId
  checkOwnership env (request.systemInitiated || request.agentOnBehalf) account
  checkFrozen account
  checkKycLimits env db account.userId amount .withdraw request.currency none account.id
  checkFraudRisk env account.userId amount request.currency none
  require (amount ≤ db.getBalance account.id request.currency)
    (.insufficientBalance request.currency amount (db.getBalance account.id request.currency))
  checkDailyLimit env db account.id amount request.currency
  checkMonthlyLimit env db account.id amount request.currency
  pure ⟨account, amount, request.currency⟩

/-- The single ledger entry of a deposit or a withdrawal. -/
def Opening.draft (opening : Opening) (entryType : EntryType) (id : TransactionId) :
    Db.EntryDraft :=
  ⟨id, opening.account.id, entryType, opening.amount, opening.currency⟩

/-- The booking of both operations. A missing key breaks the row's not-null
constraint. -/
def bookCash (env : Env) (db : Db) (entryType : EntryType) (key : Option String)
    (txType : TransactionType) (metadata : Metadata) (opening : Opening) : Attempt Booking :=
  match key with
  | none => .error .database
  | some key => do
      let row ← Db.draftTransaction key txType opening.amount opening.currency
        opening.account.userId none metadata
      book db env.now row (fun id => [opening.draft entryType id])

/-- The receipt of a booking; the keys left out of a replay's receipt are
parameters. -/
def cashReceipt (opening : Opening) (booking : Booking) (accountId : Option AccountId)
    (userId : Option UserId) : CashReceipt where
  transactionId := booking.id
  alreadyProcessed := ¬ booking.posted
  amount := opening.amount
  currency := opening.currency
  newBalance := booking.db.getBalance opening.account.id opening.currency
  accountId
  userId

/-- `WalletService.deposit`. -/
def deposit (env : Env) (db : Db) (request : DepositRequest) : Attempt (CashReceipt × Db) := do
  let opening ← depositOpening env db request
  let booking ← bookCash env db .credit request.key request.txType request.metadata opening
  let owner := if booking.posted then opening.account.userId else none
  pure (cashReceipt opening booking (some opening.account.id) owner, booking.db)

/-- `WalletService.withdraw`. A replay's receipt does not name the account. -/
def withdraw (env : Env) (db : Db) (request : WithdrawRequest) : Attempt (CashReceipt × Db) := do
  let opening ← withdrawOpening env db request
  let booking ← bookCash env db .debit (some request.clientRequestId) request.txType
    request.metadata opening
  let accountId := if booking.posted then some opening.account.id else none
  let owner := if booking.posted then opening.account.userId else none
  pure (cashReceipt opening booking accountId owner, booking.db)

/-! ## Calls of either operation -/

/-- A call of `deposit` or of `withdraw`. -/
inductive CashRequest
  | deposit (request : DepositRequest)
  | withdraw (request : WithdrawRequest)

namespace CashRequest

def run (env : Env) (db : Db) : CashRequest → Attempt (CashReceipt × Db)
  | .deposit request => Wallet.deposit env db request
  | .withdraw request => Wallet.withdraw env db request

def opening (env : Env) (db : Db) : CashRequest → Attempt Opening
  | .deposit request => depositOpening env db request
  | .withdraw request => withdrawOpening env db request

def key : CashRequest → Option String
  | .deposit request => request.key
  | .withdraw request => some request.clientRequestId

def entryType : CashRequest → EntryType
  | .deposit _ => .credit
  | .withdraw _ => .debit

def txType : CashRequest → TransactionType
  | .deposit request => request.txType
  | .withdraw request => request.txType

def metadata : CashRequest → Metadata
  | .deposit request => request.metadata
  | .withdraw request => request.metadata

variable {env : Env} {db db' : Db} {request : CashRequest} {receipt : CashReceipt}

/-- The row a call records under its key. -/
def row (request : CashRequest) (key : String) (opening : Opening) : Attempt Transaction :=
  Db.draftTransaction key request.txType opening.amount opening.currency opening.account.userId
    none request.metadata

/-- A call returns exactly when its opening and its booking do; the receipt
reports the booking. -/
theorem run_ok (h : request.run env db = .ok (receipt, db')) :
    ∃ opening key row booking, request.opening env db = .ok opening ∧ request.key = some key ∧
      request.row key opening = .ok row ∧
      book db env.now row (fun id => [opening.draft request.entryType id]) = .ok booking ∧
      db' = booking.db ∧ receipt.transactionId = booking.id ∧
      receipt.alreadyProcessed = !booking.posted ∧ receipt.amount = opening.amount ∧
      receipt.currency = opening.currency := by
  cases request with
  | deposit request =>
    obtain ⟨opening, hopening, h⟩ := bind_eq_ok.mp h
    obtain ⟨booking, hbooking, h⟩ := bind_eq_ok.mp h
    cases h
    unfold bookCash at hbooking
    split at hbooking
    · cases hbooking
    · rename_i key hkey
      obtain ⟨row, hrow, hbook⟩ := bind_eq_ok.mp hbooking
      exact ⟨opening, key, row, booking, hopening, hkey, hrow, hbook, rfl, rfl,
        by simp [cashReceipt], rfl, rfl⟩
  | withdraw request =>
    obtain ⟨opening, hopening, h⟩ := bind_eq_ok.mp h
    obtain ⟨booking, hbooking, h⟩ := bind_eq_ok.mp h
    cases h
    obtain ⟨row, hrow, hbook⟩ := bind_eq_ok.mp hbooking
    exact ⟨opening, _, row, booking, hopening, rfl, hrow, hbook, rfl, rfl,
      by simp [cashReceipt], rfl, rfl⟩

/-- The converse: from the opening and the booking to the receipt. -/
theorem run_of_booking {opening : Opening} {key : String} {row : Transaction} {booking : Booking}
    (hopening : request.opening env db = .ok opening) (hkey : request.key = some key)
    (hrow : request.row key opening = .ok row)
    (hbook : book db env.now row (fun id => [opening.draft request.entryType id]) = .ok booking) :
    ∃ receipt, request.run env db = .ok (receipt, booking.db) ∧
      receipt.transactionId = booking.id ∧ receipt.alreadyProcessed = !booking.posted ∧
      receipt.amount = opening.amount ∧ receipt.currency = opening.currency := by
  cases request with
  | deposit request =>
    refine ⟨_, bind_eq_ok.mpr ⟨opening, hopening, bind_eq_ok.mpr ⟨booking, ?_, rfl⟩⟩, rfl,
      by simp [cashReceipt], rfl, rfl⟩
    simp only [show request.key = some key from hkey, bookCash]
    exact bind_eq_ok.mpr ⟨row, hrow, hbook⟩
  | withdraw request =>
    cases hkey
    exact ⟨_, bind_eq_ok.mpr ⟨opening, hopening, bind_eq_ok.mpr ⟨booking,
      bind_eq_ok.mpr ⟨row, hrow, hbook⟩, rfl⟩⟩, rfl, by simp [cashReceipt], rfl, rfl⟩

end CashRequest

/-- What a withdrawal's opening established. -/
theorem withdrawOpening_ok {env : Env} {db : Db} {request : WithdrawRequest} {opening : Opening}
    (h : withdrawOpening env db request = .ok opening) :
    db.accountById request.accountId = some opening.account ∧
      opening.amount = quantize request.amount ∧ opening.currency = request.currency ∧
      opening.amount ≤ db.getBalance opening.account.id opening.currency := by
  simp only [withdrawOpening, check_bind_eq_ok, require_eq_ok] at h
  obtain ⟨-, -, -, h⟩ := h
  obtain ⟨account, haccount, h⟩ := bind_eq_ok.mp h
  simp only [check_bind_eq_ok, require_eq_ok, pure_eq_ok] at h
  obtain ⟨-, -, -, -, hbalance, -, -, rfl⟩ := h
  exact ⟨lockAccount_eq_ok.mp haccount, rfl, rfl, hbalance⟩

end Afcon360.Wallet
