import Afcon360.Wallet.Model

/-!
# What a wallet call reads besides the wallet tables

The session's user, the clock, the configuration rows and the answers of the
services the wallet asks: the KYC authority, organisation KYB, the fraud score,
the exchange-rate provider and the PIN check. Each call has its own environment,
so between two calls all of it may change.
-/

namespace Afcon360.Wallet

/-- The operations a per-transaction limit `WALLET_MAX_*` is configured for. -/
inductive Operation
  | deposit | withdraw | transfer
  deriving DecidableEq, Repr

/-- The logged-in user; `isAdmin` is `WalletService._is_admin`. -/
structure CurrentUser where
  id : UserId
  isAdmin : Bool := false

/-- The columns of `WalletSystemConfig` that limits are read from. -/
structure WalletSystemConfig where
  maxDepositAmount : ℚ := 1000000
  maxWithdrawalAmount : ℚ := 500000
  maxTransferAmount : ℚ := 1000000
  maxDailyAmount : Option ℚ := some 5000000
  maxMonthlyAmount : Option ℚ := some 50000000
  requireKycForDeposits : Bool := false
  requireKycForWithdrawals : Bool := true
  requireKycForTransfers : Bool := false

/-- The limits of a KYC tier; zero means that the tier sets none. -/
structure TierLimits where
  dailyLimit : ℚ
  monthlyLimit : ℚ
  perTxnLimit : ℚ

/-- `OrganisationKYBService.compute_status`. -/
structure KybStatus where
  isOperationalKyb : Bool
  isFullKyb : Bool
  kybLevel : ℕ

inductive WindowMode
  | calendar | rolling
  deriving DecidableEq, Repr

/-- The active `RegulatoryVolumePolicy`. -/
structure RegulatoryVolumePolicy where
  dailyWindowMode : WindowMode := .calendar
  monthlyWindowMode : WindowMode := .calendar

/-- A user's transaction PIN: whether a hash is stored, and the verification. -/
structure PinAuthority where
  pinSet : Bool
  verify : String → Bool

structure Env where
  now : Timestamp
  currentUser : Option CurrentUser
  supportedCurrencies : List Currency := ["USD", "UGX", "KES", "TZS", "NGN", "EUR", "CFA"]
  walletMax : Operation → ℚ := fun _ => 10000
  dailyLimitHome : ℚ := 10000
  dailyLimitLocal : ℚ := 10000
  config : WalletSystemConfig := {}
  tierLimits : ℕ → TierLimits
  kycTier : Option UserId → ℕ
  /-- The KYB status of the live organisation with this id, if there is one. -/
  organisationKyb : Option UserId → Option KybStatus := fun _ => none
  requiresFullKyb : Option UserId → ℚ → Currency → Option UserId → Bool := fun _ _ _ _ => false
  volumePolicy : RegulatoryVolumePolicy := {}
  /-- Whether the fraud score of a transaction is one that blocks it. -/
  fraudBlocks : Option UserId → ℚ → Currency → Option UserId → Bool := fun _ _ _ _ => false
  /-- The rate `get_rate_safe` returns; `none` stands for its exceptions. -/
  fxRate : Currency → Currency → Option ℚ := fun _ _ => none
  pinAuthority : Option UserId → Option PinAuthority := fun _ => none

end Afcon360.Wallet
