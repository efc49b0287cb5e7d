import Afcon360.Foundation.Table
import Afcon360.Foundation.Rounding
import Afcon360.Foundation.Posting

/-!
# Wallet rows and the wallet database

The rows of `accounts`, `transactions` and `ledger_entries`, each with the
constraints its table declares, and the database state that holds them. A
balance is never stored: it is derived from the ledger, in `Repository`.

Decimals in memory are rationals. A stored decimal is a `NUMERIC(18, 6)`, an
integer number of millionths; storing rounds ties away from zero. Account
identifiers are the numbers behind the canonical UUID texts, and a transaction
is identified by the position of its row.
-/

namespace Afcon360.Wallet

open Foundation

abbrev Currency := String
abbrev UserId := ℕ
abbrev AccountId := ℕ
abbrev TransactionId := ℕ

/-- Microseconds since the epoch, in UTC. -/
abbrev Timestamp := ℤ

/-- Steps per unit of a stored decimal. -/
def microsPerUnit : ℕ := 1000000

/-- A stored amount: `NUMERIC(18, 6)` under a `CHECK (amount > 0)`. -/
@[ext] structure Amount where
  micros : ℤ
  positive : 0 < micros
  fits : micros < 10 ^ 18
  deriving DecidableEq

namespace Amount

/-- Store a decimal; `none` is a numeric overflow or a failed check. -/
def ofDecimal? (x : ℚ) : Option Amount :=
  if h : 0 < roundHalfUp microsPerUnit x ∧ roundHalfUp microsPerUnit x < 10 ^ 18 then
    some ⟨roundHalfUp microsPerUnit x, h.1, h.2⟩
  else none

/-- The decimal a query returns for a stored amount. -/
def toDecimal (amount : Amount) : ℚ := gridValue microsPerUnit amount.micros

theorem toDecimal_pos (amount : Amount) : 0 < amount.toDecimal := by
  have hmicros : (0 : ℚ) < amount.micros := by exact_mod_cast amount.positive
  exact div_pos hmicros (by norm_num [microsPerUnit])

theorem micros_of_ofDecimal? {x : ℚ} {amount : Amount} (h : ofDecimal? x = some amount) :
    amount.micros = roundHalfUp microsPerUnit x := by
  unfold ofDecimal? at h
  split at h
  · rw [← Option.some.inj h]
  · cases h

end Amount

inductive AccountOwnerType
  | user | organisation | platform | system
  deriving DecidableEq, Repr

/-- A financial account. `single_owner` and `owner_consistent` are the checks
`ck_accounts_single_owner` and `ck_accounts_owner_type_consistent`. -/
structure Account where
  id : AccountId
  ownerType : AccountOwnerType := .user
  userId : Option UserId
  organisationId : Option ℕ := none
  currency : Currency
  isFrozen : Bool := false
  frozenReason : Option String := none
  monthlyVolumeLimit : Option ℚ := none
  single_owner : userId = none ∨ organisationId = none := by decide
  owner_consistent :
    (ownerType = .user ∧ userId ≠ none ∧ organisationId = none) ∨
    (ownerType = .organisation ∧ (organisationId ≠ none ∨ userId ≠ none)) ∨
    ((ownerType = .platform ∨ ownerType = .system) ∧ userId ≠ none ∧ organisationId = none) := by
      decide

inductive TransactionType
  | deposit | withdraw | transfer | fee | refund | adjustment
  deriving DecidableEq, Repr

inductive TransactionStatus
  | pending | completed | failed | cancelled
  deriving DecidableEq, Repr

/-- A JSON object; a key bound to `null` reads like a missing key. -/
abbrev Metadata := List (String × String)

/-- A row of `transactions`. -/
structure Transaction where
  clientRequestId : String
  txType : TransactionType
  status : TransactionStatus
  amount : Amount
  currency : Currency
  userId : Option UserId
  recipientUserId : Option UserId
  metadata : Metadata
  key_fits : clientRequestId.length ≤ 255
  currency_fits : currency.length ≤ 10
  deriving DecidableEq

inductive EntryType
  | debit | credit
  deriving DecidableEq, Repr

/-- A row of `ledger_entries`. -/
structure LedgerEntry where
  transactionId : TransactionId
  accountId : AccountId
  entryType : EntryType
  amount : Amount
  currency : Currency
  createdAt : Timestamp
  currency_fits : currency.length ≤ 10
  deriving DecidableEq

namespace LedgerEntry

/-- A credit counts positively, a debit negatively. -/
def signed (entry : LedgerEntry) : ℤ :=
  match entry.entryType with
  | .credit => entry.amount.micros
  | .debit => -entry.amount.micros

/-- The signed posting an entry stands for. -/
def posting (entry : LedgerEntry) : Posting AccountId Currency :=
  ⟨entry.accountId, entry.currency, entry.signed⟩

end LedgerEntry

/-- The wallet tables. `reversals` holds the positions of ledger entries that a
reversal reference names. Both foreign keys of the ledger are fields. -/
structure Db where
  accounts : Table Account Account.id
  transactions : Table Transaction Transaction.clientRequestId
  ledger : List LedgerEntry
  reversals : List ℕ
  account_fk : ∀ entry ∈ ledger, (accounts.lookup entry.accountId).isSome
  transaction_fk : ∀ entry ∈ ledger, entry.transactionId < transactions.size

/-- The exceptions of the wallet services, with the data they carry. -/
inductive WalletError
  | value (message : String)
  | attribute
  | permission (message : String)
  | walletNotFound (walletRef : AccountId)
  | walletFrozen (walletRef : AccountId) (reason : Option String)
  | insufficientBalance (currency : Currency) (required available : ℚ)
  | limitExceeded (limitType : String) (currency : Currency) (limit current : ℚ)
  | duplicateTransaction (idempotencyKey : String) (existing : Option TransactionId)
  | unsupportedCurrency (currency : Currency) (supported : List Currency)
  | complianceBlock (ruleName : String)
  | transactionPin (message : String)
  | rateUnavailable (base quote : Currency)
  /-- The `RuntimeError` of an assignment that the check of identifiers refuses. -/
  | idViolation (model field : String)
  | database
  deriving DecidableEq

/-- A service call: an exception, after which the transaction is rolled back, or
a result. -/
abbrev Attempt := Except WalletError

end Afcon360.Wallet
