import Afcon360.Foundation.Guard
import Afcon360.Wallet.Kyc

/-!
# The checks of `WalletService`

The private helpers that raise before any row is written. Each reads the
environment and the ledger and writes nothing.
-/

namespace Afcon360.Wallet

open Foundation

/-- Steps per unit of `MONEY_QUANT`. -/
def moneyQuant : ℕ := 100

/-- `_quantize`: two decimal places, rounding down. -/
def quantize (value : ℚ) : ℚ := gridValue moneyQuant (roundDown moneyQuant value)

/-- `Decimal.quantize` with the context's rounding, as conversions use it. -/
def quantizeHalfEven (value : ℚ) : ℚ := gridValue moneyQuant (roundHalfEven moneyQuant value)

/-- `_validate_currency`. -/
def validateCurrency (env : Env) (currency : Currency) : Attempt Unit :=
  require (currency.toUpper ∈ env.supportedCurrencies)
    (.unsupportedCurrency currency env.supportedCurrencies)

/-- `_check_transaction_limit`. -/
def checkTransactionLimit (env : Env) (amount : ℚ) (operation : Operation) : Attempt Unit :=
  require (amount ≤ env.walletMax operation)
    (.limitExceeded "per_transaction" "any" (env.walletMax operation) amount)

/-- The ceiling `_check_daily_limit` compares with. -/
def dailyLimit (env : Env) (currency : Currency) : ℚ :=
  match env.config.maxDailyAmount with
  | some limit => limit
  | none => if currency = "USD" then env.dailyLimitHome else env.dailyLimitLocal

/-- `_check_daily_limit`. -/
def checkDailyLimit (env : Env) (db : Db) (accountId : AccountId) (amount : ℚ)
    (currency : Currency) : Attempt Unit :=
  require (db.getDailyVolume env.now accountId currency + amount ≤ dailyLimit env currency)
    (.limitExceeded "daily" currency (dailyLimit env currency)
      (db.getDailyVolume env.now accountId currency))

/-- The ceiling `_check_monthly_limit` compares with; `none` is no limit. -/
def monthlyLimit (env : Env) (db : Db) (accountId : AccountId) : Option ℚ :=
  match env.config.maxMonthlyAmount with
  | some limit => some limit
  | none =>
    match db.accountById accountId with
    | none => none
    | some account => account.monthlyVolumeLimit.filter (· ≠ 0)

/-- `_check_monthly_limit`. -/
def checkMonthlyLimit (env : Env) (db : Db) (accountId : AccountId) (amount : ℚ)
    (currency : Currency) : Attempt Unit :=
  match monthlyLimit env db accountId with
  | none => .ok ()
  | some limit =>
    require (db.getMonthlyVolume env.now accountId currency + amount ≤ limit)
      (.limitExceeded "monthly" currency limit
        (db.getMonthlyVolume env.now accountId currency))

/-- `_check_fraud_risk`. -/
def checkFraudRisk (env : Env) (userId : Option UserId) (amount : ℚ) (currency : Currency)
    (recipient : Option UserId) : Attempt Unit :=
  require (env.fraudBlocks userId amount currency recipient = false)
    (.complianceBlock "fraud_detection")

/-- The freeze check. -/
def checkFrozen (account : Account) : Attempt Unit :=
  require (account.isFrozen = false) (.walletFrozen account.id account.frozenReason)

def ownershipMessage : String := "You do not have permission to operate on this account"

/-- The ownership check: unless the call is exempt, only the owner or an
administrator may operate on an account. Without a logged-in user there is no
`current_user.id` to compare. -/
def checkOwnership (env : Env) (exempt : Bool) (account : Account) : Attempt Unit :=
  match exempt, env.currentUser with
  | true, _ => .ok ()
  | false, none => .error .attribute
  | false, some user =>
    require (account.userId = some user.id ∨ user.isAdmin) (.permission ownershipMessage)

/-- `get_by_id` with `for_update`, raising when there is no such account. -/
def lockAccount (db : Db) (id : AccountId) : Attempt Account :=
  match db.accountById id with
  | none => .error (.walletNotFound id)
  | some account => .ok account

theorem lockAccount_eq_ok {db : Db} {id : AccountId} {account : Account} :
    lockAccount db id = .ok account ↔ db.accountById id = some account := by
  unfold lockAccount
  split <;> simp_all

theorem quantize_gridValue (steps : ℤ) :
    quantize (gridValue moneyQuant steps) = gridValue moneyQuant steps := by
  rw [quantize, roundDown_of_exact (gridValue_mul (by decide))]

@[simp] theorem quantize_quantize (value : ℚ) : quantize (quantize value) = quantize value :=
  quantize_gridValue _

/-- A quantized amount lies on the storage grid: storing it is exact. -/
theorem roundHalfUp_quantize (value : ℚ) :
    roundHalfUp microsPerUnit (quantize value) = roundDown moneyQuant value * 10000 :=
  roundHalfUp_coarse (n := moneyQuant) 10000 (by decide)

theorem toDecimal_of_quantized {amount : Amount} {value : ℚ}
    (h : amount.micros = roundHalfUp microsPerUnit (quantize value)) :
    amount.toDecimal = quantize value := by
  rw [roundHalfUp_quantize] at h
  simp only [Amount.toDecimal, h, quantize, gridValue, microsPerUnit, moneyQuant]
  push_cast
  ring

end Afcon360.Wallet
