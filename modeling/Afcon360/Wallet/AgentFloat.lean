import Afcon360.Foundation.Guard
import Afcon360.Wallet.Model

/-!
# Agent floats

The pre-funded balance of an agent in a currency and the rows that record its
movements: `AgentFloatRepository` and `AgentFloatService`. A balance and an amount are
`NUMERIC(20, 4)`, a whole number of ten-thousandths; an account is its position.
-/

namespace Afcon360.Wallet

open Foundation

/-- Steps per unit of a stored float balance. -/
def floatSteps : ℕ := 10000

/-- A row of `agent_float_accounts`. -/
structure FloatAccount where
  userId : UserId
  currency : Currency
  balance : ℤ := 0
  isDeleted : Bool := false

def FloatAccount.key (account : FloatAccount) : ℕ × String :=
  (account.userId, account.currency)

/-- What moved a float. -/
inductive FloatEntryType
  | cashIn | cashOut | topup | adjustment
  deriving DecidableEq, Repr

/-- A row of `agent_float_ledgers`. -/
structure FloatEntry where
  floatAccountId : ℕ
  userId : UserId
  currency : Currency
  amount : ℤ
  balanceAfter : ℤ
  entryType : FloatEntryType
  reference : Option String
  createdBy : Option UserId

structure FloatBook where
  accounts : Table FloatAccount FloatAccount.key
  ledger : List FloatEntry

/-- The exceptions of the float service. -/
inductive FloatError
  | value (message : String)
  | database
  deriving DecidableEq

namespace FloatBook

/-- `AgentFloatRepository.get`, with the row's position. -/
def get (book : FloatBook) (userId : UserId) (currency : Currency) : Option (ℕ × FloatAccount) :=
  (book.accounts.lookup (userId, currency)).filter (fun found => ¬ found.2.isDeleted)

/-- `AgentFloatService.get_balance`. -/
def getBalance (book : FloatBook) (userId : UserId) (currency : Currency) : ℚ :=
  match book.get userId currency with
  | none => 0
  | some (_, account) => gridValue floatSteps account.balance

/-- Store a balance; `none` is a numeric overflow. -/
@[irreducible] def storeBalance? (value : ℚ) : Option ℤ :=
  let steps := roundHalfUp floatSteps value
  if |steps| < 10 ^ 20 then some steps else none

/-- Write a new balance and the movement that led to it. -/
def record (book : FloatBook) (position : ℕ) (account : FloatAccount) (amount : ℚ)
    (entryType : FloatEntryType) (reference : Option String) (createdBy : Option UserId) :
    Except FloatError FloatBook :=
  let balance := gridValue floatSteps account.balance + amount
  match storeBalance? balance with
  | none => .error .database
  | some stored =>
    .ok
      { accounts := book.accounts.modify position (fun row => { row with balance := stored })
          (fun _ => rfl)
        ledger := book.ledger ++
          [{ floatAccountId := position, userId := account.userId
             currency := account.currency, amount := roundHalfUp floatSteps amount
             balanceAfter := stored, entryType, reference, createdBy }] }

def insufficientFloat (account : FloatAccount) (amount : ℚ) : FloatError :=
  .value (s!"Insufficient agent float: have {gridValue floatSteps account.balance} " ++
    s!"{account.currency}, need {amount} {account.currency}")

/-- `AgentFloatService.debit`. -/
def debit (book : FloatBook) (userId : UserId) (currency : Currency) (amount : ℚ)
    (entryType : FloatEntryType) (reference : Option String) (createdBy : Option UserId) :
    Except FloatError FloatBook := do
  require (0 < amount) (.value "Debit amount must be positive")
  match book.get userId currency with
  | none => .error (.value "Agent float account not found")
  | some (position, account) => do
      require (amount ≤ gridValue floatSteps account.balance) (insufficientFloat account amount)
      book.record position account (-amount) entryType reference createdBy

/-- `AgentFloatRepository.get_or_create`; the unique constraint also counts deleted
rows. -/
def getOrCreate (book : FloatBook) (userId : UserId) (currency : Currency) :
    Except FloatError (ℕ × FloatAccount × FloatBook) :=
  match book.get userId currency with
  | some (position, account) => .ok (position, account, book)
  | none =>
    let account : FloatAccount := { userId, currency }
    match book.accounts.insert? account with
    | none => .error .database
    | some accounts => .ok (book.accounts.size, account, { book with accounts })

/-- `AgentFloatService.credit`. -/
def credit (book : FloatBook) (userId : UserId) (currency : Currency) (amount : ℚ)
    (entryType : FloatEntryType) (reference : Option String) (createdBy : Option UserId) :
    Except FloatError FloatBook := do
  require (0 ≤ amount) (.value "Credit amount must be non-negative")
  let (position, account, opened) ← book.getOrCreate userId currency
  opened.record position account amount entryType reference createdBy

/-! ## What the operations do -/

variable {book book' : FloatBook} {userId : UserId} {currency : Currency} {amount : ℚ}
  {entryType : FloatEntryType} {reference : Option String} {createdBy : Option UserId}

theorem get_eq_some {position : ℕ} {account : FloatAccount}
    (h : book.get userId currency = some (position, account)) :
    book.accounts.lookup (userId, currency) = some (position, account) ∧
      account.isDeleted = false := by
  obtain ⟨hfound, hkept⟩ := Option.filter_eq_some_iff.mp h
  exact ⟨hfound, by simpa using hkept⟩

theorem credit_ledger
    (h : book.credit userId currency amount entryType reference createdBy = .ok book') :
    ∃ entry, book'.ledger = book.ledger ++ [entry] ∧ entry.reference = reference ∧
      entry.entryType = entryType := by
  obtain ⟨-, h⟩ := check_bind_eq_ok.mp h
  obtain ⟨⟨position, account, opened⟩, hopened, h⟩ := bind_eq_ok.mp h
  have hsame : opened.ledger = book.ledger := by
    unfold getOrCreate at hopened
    split at hopened
    · cases hopened
      rfl
    · dsimp only at hopened
      split at hopened
      · cases hopened
      · cases hopened
        rfl
  simp only [record] at h
  split at h
  · cases h
  · cases h
    exact ⟨_, by rw [← hsame], rfl, rfl⟩

end FloatBook

end Afcon360.Wallet
