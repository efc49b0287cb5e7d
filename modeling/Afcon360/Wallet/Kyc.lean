import Afcon360.Wallet.Environment
import Afcon360.Wallet.Repository

/-!
# KYC limits

`KYCLimitService`, with the volume windows of `RegulatoryVolumeCalculator` and
the calendar arithmetic of `TimezoneEngine`. An answer says whether the
transaction is allowed and which tier decided it.
-/

namespace Afcon360.Wallet

open Foundation

/-- The actions `check_transaction_allowed` knows. -/
inductive KycAction
  | send | receive | withdraw | deposit
  deriving DecidableEq, Repr

/-- A row of `TIER_FEATURES`. -/
structure TierFeatures where
  canSend : Bool
  canReceive : Bool
  canWithdraw : Bool
  canDeposit : Bool

/-- `TIER_FEATURES.get(kyc_level, TIER_FEATURES[0])`. -/
def tierFeatures (kycLevel : ℕ) : TierFeatures :=
  if 1 ≤ kycLevel ∧ kycLevel ≤ 5 then ⟨true, true, true, true⟩ else ⟨false, true, false, true⟩

def TierFeatures.allows (features : TierFeatures) : KycAction → Bool
  | .send => features.canSend
  | .receive => features.canReceive
  | .withdraw => features.canWithdraw
  | .deposit => features.canDeposit

/-! ## Volume windows -/

namespace TimezoneEngine

/-- `KAMPALA_TZ_OFFSET`. -/
def kampalaOffset : ℤ := 3 * 3600 * 1000000

/-- Days since the epoch of the Kampala calendar day of an instant. -/
def kampalaDay (t : Timestamp) : ℤ := (t + kampalaOffset) / microsPerDay

/-- The day of the month of a day counted from the epoch, in the proleptic
Gregorian calendar. Days are counted from 1 March of year 0, so that the leap
day ends the year; `yearDay` is the day in that year. -/
def dayOfMonth (day : ℤ) : ℤ :=
  let shifted := day + 719468
  let eraDay := shifted % 146097
  let year := (eraDay - eraDay / 1460 + eraDay / 36524 - eraDay / 146096) / 365
  let yearDay := eraDay - (365 * year + year / 4 - year / 100)
  let month := (5 * yearDay + 2) / 153
  yearDay - (153 * month + 2) / 5 + 1

def getDayStartUtc (t : Timestamp) : Timestamp := kampalaDay t * microsPerDay - kampalaOffset

def getMonthStartUtc (t : Timestamp) : Timestamp :=
  (kampalaDay t - (dayOfMonth (kampalaDay t) - 1)) * microsPerDay - kampalaOffset

end TimezoneEngine

/-- The start of `get_daily_window_bounds`; the end is the call's time. -/
def dailyWindowStart (env : Env) : Timestamp :=
  match env.volumePolicy.dailyWindowMode with
  | .calendar => TimezoneEngine.getDayStartUtc env.now
  | .rolling => env.now - microsPerDay

/-- The start of `get_monthly_window_bounds`. -/
def monthlyWindowStart (env : Env) : Timestamp :=
  match env.volumePolicy.monthlyWindowMode with
  | .calendar => TimezoneEngine.getMonthStartUtc env.now
  | .rolling => env.now - 30 * microsPerDay

/-- Whether an entry belongs to a completed transaction. -/
def Db.entryCompleted (db : Db) (entry : LedgerEntry) : Bool :=
  match db.transactions.get? entry.transactionId with
  | some row => row.status = .completed
  | none => false

/-- The eligible debits of an account in a currency between two instants:
completed transactions only, reversals left out. -/
def regulatoryVolume (db : Db) (accountId : AccountId) (currency : Currency)
    (start stop : Timestamp) : ℚ :=
  let eligible := (db.ledger.zipIdx.filter (fun e => e.2 ∉ db.reversals)).map Prod.fst
  gridValue microsPerUnit (Db.sumWhere eligible (fun e =>
    e.accountId = accountId ∧ e.currency = currency ∧ e.entryType = .debit ∧
      db.entryCompleted e ∧ start ≤ e.createdAt ∧ e.createdAt ≤ stop))

/-- `RegulatoryVolumeCalculator.check_daily_limit` and `check_monthly_limit`. -/
def withinRegulatoryLimit (volume amount limit : ℚ) : Bool :=
  limit ≤ 0 ∨ volume + amount ≤ limit

/-! ## The service -/

/-- `_operational_per_txn_ceiling`. -/
def operationalPerTxnCeiling (config : WalletSystemConfig) : KycAction → ℚ
  | .deposit => config.maxDepositAmount
  | .withdraw => config.maxWithdrawalAmount
  | .send => config.maxTransferAmount
  | .receive => config.maxTransferAmount

/-- The two keys of an answer that its callers read. -/
structure KycVerdict where
  allowed : Bool
  kycLevel : Option ℕ := none

/-- The `require_kyc_for_*` flags block tier 0. -/
def kycRequired (config : WalletSystemConfig) : KycAction → Bool
  | .deposit => config.requireKycForDeposits
  | .withdraw => config.requireKycForWithdrawals
  | .send => config.requireKycForTransfers
  | .receive => false

/-- `_check_org_transaction_allowed`. The answer names the tier under another
key than the user path does, so its caller finds no `kyc_level`. -/
def checkOrgTransactionAllowed (env : Env) (status : KybStatus) (owner : Option UserId)
    (amount : ℚ) (action : KycAction) (currency : Currency) (recipient : Option UserId) :
    KycVerdict :=
  if ¬ status.isOperationalKyb then { allowed := false }
  else if env.requiresFullKyb owner amount currency recipient ∧ ¬ status.isFullKyb then
    { allowed := false }
  else if ¬ (tierFeatures status.kybLevel).allows action then { allowed := false }
  else if min (env.tierLimits status.kybLevel).perTxnLimit
      (operationalPerTxnCeiling env.config action) < amount then
    { allowed := false }
  else { allowed := true }

/-- `KYCLimitService.check_transaction_allowed`. -/
def checkTransactionAllowed (env : Env) (owner : Option UserId) (amount : ℚ) (action : KycAction)
    (currency : Currency) (recipient : Option UserId) : KycVerdict :=
  match env.organisationKyb owner with
  | some status => checkOrgTransactionAllowed env status owner amount action currency recipient
  | none =>
    let kycLevel := env.kycTier owner
    if ¬ (tierFeatures kycLevel).allows action then { allowed := false }
    else if kycRequired env.config action ∧ kycLevel = 0 then { allowed := false }
    else if min (env.tierLimits kycLevel).perTxnLimit
        (operationalPerTxnCeiling env.config action) < amount then
      { allowed := false }
    else { allowed := true, kycLevel := some kycLevel }

/-- `check_regulatory_cumulative_limits`; the answer is the violated limit. -/
def checkRegulatoryCumulativeLimits (env : Env) (db : Db) (accountId : AccountId)
    (currency : Currency) (amount : ℚ) (kycLevel : ℕ) : Option String :=
  match db.accountById accountId with
  | none => some "cumulative"
  | some _ =>
    let limits := env.tierLimits kycLevel
    if ¬ withinRegulatoryLimit
        (regulatoryVolume db accountId currency (dailyWindowStart env) env.now)
        amount limits.dailyLimit then
      some "daily"
    else if ¬ withinRegulatoryLimit
        (regulatoryVolume db accountId currency (monthlyWindowStart env) env.now)
        amount limits.monthlyLimit then
      some "monthly"
    else none

/-- `WalletService._check_kyc_limits`. -/
def checkKycLimits (env : Env) (db : Db) (owner : Option UserId) (amount : ℚ) (action : KycAction)
    (currency : Currency) (recipient : Option UserId) (accountId : AccountId) : Attempt Unit :=
  let verdict := checkTransactionAllowed env owner amount action currency recipient
  if ¬ verdict.allowed then .error (.limitExceeded "kyc" currency 0 amount)
  else
    match checkRegulatoryCumulativeLimits env db accountId currency amount
        (verdict.kycLevel.getD (env.kycTier owner)) with
    | some limitType => .error (.limitExceeded ("kyc_" ++ limitType) currency 0 amount)
    | none => .ok ()

end Afcon360.Wallet
