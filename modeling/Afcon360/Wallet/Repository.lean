import Afcon360.Wallet.Model

/-!
# Wallet repositories

The queries and statements of `AccountRepository`, `TransactionRepository` and
`LedgerRepository`. Balances and volumes are read off the ledger. An insert that
breaks a declared constraint is a database error.
-/

namespace Afcon360.Wallet

open Foundation

def microsPerDay : ℤ := 86400 * 1000000

namespace Db

/-! ## Accounts -/

/-- `AccountRepository.get_by_id`. -/
def accountById (db : Db) (id : AccountId) : Option Account :=
  (db.accounts.lookup id).map Prod.snd

/-- `AccountRepository.get_by_user_id`; several accounts of one currency raise. -/
def getByUserId (db : Db) (userId : UserId) (currency : Currency) : Attempt (Option Account) :=
  match db.accounts.rows.filter
      (fun account => account.userId = some userId ∧ account.currency = currency) with
  | [] => .ok none
  | [account] => .ok (some account)
  | _ => .error .database

/-- Rewrite an account in place, as `freeze_account` and `unfreeze_account` do. -/
def modifyAccount (db : Db) (id : AccountId) (f : Account → Account)
    (keeps : ∀ account, (f account).id = account.id) : Db :=
  match db.accounts.lookup id with
  | none => db
  | some (i, _) =>
    { db with
      accounts := db.accounts.modify i f keeps
      account_fk := by
        intro entry hentry
        rw [Table.lookup_modify, Option.isSome_map]
        exact db.account_fk entry hentry }

/-- `AccountRepository.freeze_account`. -/
def freezeAccount (db : Db) (id : AccountId) (reason : String) : Db :=
  db.modifyAccount id (fun a => { a with isFrozen := true, frozenReason := some reason })
    (fun _ => rfl)

/-- `AccountRepository.unfreeze_account`. -/
def unfreezeAccount (db : Db) (id : AccountId) : Db :=
  db.modifyAccount id (fun a => { a with isFrozen := false, frozenReason := none }) (fun _ => rfl)

/-! ## Ledger queries -/

/-- The sum of the stored amounts of the entries that satisfy a condition. -/
def sumWhere (entries : List LedgerEntry) (cond : LedgerEntry → Bool) : ℤ :=
  (entries.map (fun entry => if cond entry then entry.amount.micros else 0)).sum

/-- Credits less debits of an account in a currency, in millionths. -/
def balanceMicros (db : Db) (accountId : AccountId) (currency : Currency) : ℤ :=
  let selected := db.ledger.filter (fun e => e.accountId = accountId ∧ e.currency = currency)
  sumWhere selected (fun e => e.entryType = .credit) -
    sumWhere selected (fun e => e.entryType = .debit)

/-- `LedgerRepository.get_balance`. -/
def getBalance (db : Db) (accountId : AccountId) (currency : Currency) : ℚ :=
  gridValue microsPerUnit (db.balanceMicros accountId currency)

/-- Debits of an account in a currency from `since` on. -/
def debitVolume (db : Db) (accountId : AccountId) (currency : Currency) (since : Timestamp) : ℚ :=
  gridValue microsPerUnit (sumWhere db.ledger (fun e =>
    e.accountId = accountId ∧ e.currency = currency ∧ e.entryType = .debit ∧ since ≤ e.createdAt))

/-- `LedgerRepository.get_daily_volume` with its default window. -/
def getDailyVolume (db : Db) (now : Timestamp) (accountId : AccountId) (currency : Currency) : ℚ :=
  db.debitVolume accountId currency (now - microsPerDay)

/-- `LedgerRepository.get_monthly_volume` with its default window. -/
def getMonthlyVolume (db : Db) (now : Timestamp) (accountId : AccountId) (currency : Currency) :
    ℚ :=
  db.debitVolume accountId currency (now - 30 * microsPerDay)

/-! ## Transactions -/

/-- `TransactionRepository.get_by_client_request_id`, with the row's id. -/
def getByClientRequestId (db : Db) (key : String) : Option (TransactionId × Transaction) :=
  db.transactions.lookup key

/-- Insert a transaction row whose key is free. -/
def insertTransaction? (db : Db) (row : Transaction) : Option Db :=
  match h : db.transactions.insert? row with
  | none => none
  | some transactions =>
    some
      { db with
        transactions := transactions
        transaction_fk := by
          intro entry hentry
          rw [Table.size_insert h]
          exact Nat.lt_succ_of_lt (db.transaction_fk entry hentry) }

/-- `TransactionRepository.update_status`. -/
def updateStatus (db : Db) (id : TransactionId) (status : TransactionStatus) : Db :=
  { db with
    transactions := db.transactions.modify id (fun row => { row with status }) (fun _ => rfl)
    transaction_fk := by
      intro entry hentry
      rw [Table.size_modify]
      exact db.transaction_fk entry hentry }

/-- Check the values of a new transaction row against its columns. -/
def draftTransaction (key : String) (txType : TransactionType) (amount : ℚ) (currency : Currency)
    (userId recipientUserId : Option UserId) (metadata : Metadata) : Attempt Transaction :=
  match Amount.ofDecimal? amount with
  | none => .error .database
  | some stored =>
    if h : key.length ≤ 255 ∧ currency.length ≤ 10 then
      .ok
        { clientRequestId := key
          txType
          status := .pending
          amount := stored
          currency
          userId
          recipientUserId
          metadata
          key_fits := h.1
          currency_fits := h.2 }
    else .error .database

/-- `TransactionRepository.get_or_create` on a checked row. The insert skips a
key that is taken; the row under the key is then fetched. -/
def getOrCreate (db : Db) (row : Transaction) : Attempt (TransactionId × Transaction × Db) :=
  match db.getByClientRequestId row.clientRequestId with
  | some (id, existing) => .ok (id, existing, db)
  | none =>
    match db.insertTransaction? row with
    | some db' => .ok (db.transactions.size, row, db')
    | none => .error (.duplicateTransaction row.clientRequestId none)

/-! ## Posting -/

/-- A ledger entry as a service builds it, before the database stores it. -/
structure EntryDraft where
  transactionId : TransactionId
  accountId : AccountId
  entryType : EntryType
  amount : ℚ
  currency : Currency

/-- The stored form of a drafted entry. -/
def EntryDraft.store? (now : Timestamp) (draft : EntryDraft) : Option LedgerEntry :=
  match Amount.ofDecimal? draft.amount with
  | none => none
  | some amount =>
    if h : draft.currency.length ≤ 10 then
      some
        { transactionId := draft.transactionId
          accountId := draft.accountId
          entryType := draft.entryType
          amount
          currency := draft.currency
          createdAt := now
          currency_fits := h }
    else none

/-- The stored forms of a batch, all or none. -/
def storeAll? (now : Timestamp) : List EntryDraft → Option (List LedgerEntry)
  | [] => some []
  | draft :: rest =>
    match draft.store? now, storeAll? now rest with
    | some entry, some entries => some (entry :: entries)
    | _, _ => none

/-- `LedgerRepository.post_entries` and the flush that enforces the constraints. -/
def postEntries (db : Db) (now : Timestamp) (drafts : List EntryDraft) : Attempt Db :=
  match storeAll? now drafts with
  | none => .error .database
  | some entries =>
    if h : ∀ entry ∈ entries, (db.accounts.lookup entry.accountId).isSome ∧
        entry.transactionId < db.transactions.size then
      .ok
        { db with
          ledger := db.ledger ++ entries
          account_fk := by
            intro entry hentry
            obtain hold | hnew := List.mem_append.mp hentry
            · exact db.account_fk entry hold
            · exact (h entry hnew).1
          transaction_fk := by
            intro entry hentry
            obtain hold | hnew := List.mem_append.mp hentry
            · exact db.transaction_fk entry hold
            · exact (h entry hnew).2 }
    else .error .database

/-! ## What the statements do -/

variable {db db' : Db} {now : Timestamp} {drafts : List EntryDraft} {entries : List LedgerEntry}

theorem accountById_id {id : AccountId} {account : Account}
    (h : db.accountById id = some account) : account.id = id := by
  obtain ⟨⟨i, row⟩, hrow, rfl⟩ := Option.map_eq_some_iff.mp h
  exact (Table.lookup_eq_some_iff.mp hrow).2

theorem accountById_of_mem {account : Account} (h : account ∈ db.accounts.rows) :
    db.accountById account.id = some account := by
  obtain ⟨i, hi⟩ := List.mem_iff_getElem?.mp h
  have hlookup : db.accounts.lookup account.id = some (i, account) :=
    Table.lookup_eq_some_iff.mpr ⟨hi, rfl⟩
  rw [Db.accountById, hlookup]
  rfl

theorem getByUserId_ok {userId : UserId} {currency : Currency} {account : Account}
    (h : db.getByUserId userId currency = .ok (some account)) :
    account ∈ db.accounts.rows ∧ account.userId = some userId ∧ account.currency = currency := by
  unfold getByUserId at h
  split at h
  · cases h
  · rename_i found hfound
    obtain rfl := Option.some.inj (Except.ok.inj h)
    have hmem : found ∈ [found] := List.mem_singleton_self found
    rw [← hfound, List.mem_filter] at hmem
    simpa using hmem
  · cases h

theorem currency_of_accountById {id : AccountId} {account : Account} {c : Currency}
    (h : (db.accountById id).map Account.currency = some c)
    (haccount : db.accountById id = some account) : account.currency = c := by
  rw [haccount] at h
  exact Option.some.inj h

/-- The posting a drafted entry becomes once it is stored. -/
def EntryDraft.posting (draft : EntryDraft) : Posting AccountId Currency where
  account := draft.accountId
  currency := draft.currency
  amount :=
    match draft.entryType with
    | .credit => roundHalfUp microsPerUnit draft.amount
    | .debit => -roundHalfUp microsPerUnit draft.amount

/-- The ledger as signed postings. -/
def journal (db : Db) : List (Posting AccountId Currency) := db.ledger.map LedgerEntry.posting

/-- The two conditional sums of the balance query are the balance of the
journal. -/
theorem balanceMicros_eq (db : Db) (accountId : AccountId) (currency : Currency) :
    db.balanceMicros accountId currency = Posting.balance db.journal accountId currency := by
  unfold balanceMicros journal
  induction db.ledger with
  | nil => rfl
  | cons entry rest ih =>
    simp only [List.map_cons, Posting.balance_cons, ← ih, List.filter_cons, LedgerEntry.posting]
    by_cases h : entry.accountId = accountId ∧ entry.currency = currency
    · simp only [h, and_self, decide_true, if_true, sumWhere, List.map_cons, List.sum_cons]
      have kinds : entry.entryType = .debit ∨ entry.entryType = .credit := by
        cases entry.entryType <;> simp
      obtain he | he := kinds
      · simp only [LedgerEntry.signed, he]
        simp
        omega
      · simp only [LedgerEntry.signed, he]
        simp
        omega
    · simp [h]

theorem getBalance_eq (db : Db) (accountId : AccountId) (currency : Currency) :
    db.getBalance accountId currency =
      gridValue microsPerUnit (Posting.balance db.journal accountId currency) := by
  rw [getBalance, balanceMicros_eq]

/-- What storing a drafted entry keeps of it. -/
theorem store?_eq_some {draft : EntryDraft} {entry : LedgerEntry}
    (h : draft.store? now = some entry) :
    entry.posting = draft.posting ∧ entry.transactionId = draft.transactionId ∧
      entry.entryType = draft.entryType ∧ entry.accountId = draft.accountId ∧
      entry.currency = draft.currency ∧
      entry.amount.micros = roundHalfUp microsPerUnit draft.amount := by
  unfold EntryDraft.store? at h
  split at h
  · cases h
  · rename_i amount hamount
    have hmicros := Amount.micros_of_ofDecimal? hamount
    split at h
    · cases h
      cases hd : draft.entryType <;>
        simp [LedgerEntry.posting, LedgerEntry.signed, EntryDraft.posting, hd, hmicros]
    · cases h

theorem storeAll?_forall₂ (h : storeAll? now drafts = some entries) :
    List.Forall₂ (fun draft entry => draft.store? now = some entry) drafts entries := by
  induction drafts generalizing entries with
  | nil =>
    cases h
    exact .nil
  | cons draft rest ih =>
    simp only [storeAll?] at h
    split at h
    · rename_i entry stored hentry hstored
      cases h
      exact .cons hentry (ih hstored)
    · cases h

theorem storeAll?_mem (h : storeAll? now drafts = some entries) {entry : LedgerEntry}
    (hentry : entry ∈ entries) : ∃ draft ∈ drafts, draft.store? now = some entry := by
  have matched := storeAll?_forall₂ h
  clear h
  induction matched with
  | nil => cases hentry
  | cons hstored _ ih =>
    obtain rfl | hrest := List.mem_cons.mp hentry
    · exact ⟨_, List.mem_cons_self, hstored⟩
    · obtain ⟨draft, hdraft, hstored'⟩ := ih hrest
      exact ⟨draft, List.mem_cons_of_mem _ hdraft, hstored'⟩

theorem storeAll?_postings (h : storeAll? now drafts = some entries) :
    entries.map LedgerEntry.posting = drafts.map EntryDraft.posting := by
  have matched := storeAll?_forall₂ h
  clear h
  induction matched with
  | nil => rfl
  | cons hentry _ ih => rw [List.map_cons, List.map_cons, ih, (store?_eq_some hentry).1]

theorem postEntries_ok (h : db.postEntries now drafts = .ok db') :
    ∃ entries, storeAll? now drafts = some entries ∧ db'.ledger = db.ledger ++ entries ∧
      db'.accounts = db.accounts ∧ db'.transactions = db.transactions ∧
      db'.reversals = db.reversals := by
  unfold postEntries at h
  split at h
  · cases h
  · rename_i entries hentries
    split at h
    · cases h
      exact ⟨entries, hentries, rfl, rfl, rfl, rfl⟩
    · cases h

/-- A drafted row carries the given values and is pending. -/
theorem draftTransaction_ok {key : String} {txType : TransactionType} {amount : ℚ}
    {currency : Currency} {userId recipientUserId : Option UserId} {metadata : Metadata}
    {row : Transaction}
    (h : draftTransaction key txType amount currency userId recipientUserId metadata = .ok row) :
    row.clientRequestId = key ∧ row.txType = txType ∧ row.status = .pending ∧
      row.amount.micros = roundHalfUp microsPerUnit amount ∧ row.currency = currency ∧
      row.userId = userId ∧ row.recipientUserId = recipientUserId ∧ row.metadata = metadata := by
  unfold draftTransaction at h
  split at h
  · cases h
  · rename_i stored hstored
    split at h
    · cases h
      exact ⟨rfl, rfl, rfl, Amount.micros_of_ofDecimal? hstored, rfl, rfl, rfl, rfl⟩
    · cases h

theorem insertTransaction?_eq_some {row : Transaction} (h : db.insertTransaction? row = some db') :
    db.transactions.insert? row = some db'.transactions ∧ db'.ledger = db.ledger ∧
      db'.accounts = db.accounts ∧ db'.reversals = db.reversals := by
  unfold insertTransaction? at h
  split at h
  · cases h
  · rename_i transactions hinsert
    cases h
    exact ⟨hinsert, rfl, rfl, rfl⟩

/-- `get_or_create` either fetches the row under the key and changes nothing, or
inserts the given row at the next position. -/
theorem getOrCreate_ok {row found : Transaction} {id : TransactionId}
    (h : db.getOrCreate row = .ok (id, found, db')) :
    (db.getByClientRequestId row.clientRequestId = some (id, found) ∧ db' = db) ∨
      (db.getByClientRequestId row.clientRequestId = none ∧ id = db.transactions.size ∧
        found = row ∧ db.insertTransaction? row = some db') := by
  unfold getOrCreate at h
  split at h
  · rename_i id' existing hfound
    cases h
    exact .inl ⟨hfound, rfl⟩
  · rename_i hnone
    split at h
    · rename_i inserted hinsert
      cases h
      exact .inr ⟨hnone, rfl, rfl, hinsert⟩
    · cases h

@[simp] theorem modifyAccount_ledger (id : AccountId) (f : Account → Account)
    (keeps : ∀ account, (f account).id = account.id) :
    (db.modifyAccount id f keeps).ledger = db.ledger := by
  unfold modifyAccount
  split <;> rfl

@[simp] theorem modifyAccount_transactions (id : AccountId) (f : Account → Account)
    (keeps : ∀ account, (f account).id = account.id) :
    (db.modifyAccount id f keeps).transactions = db.transactions := by
  unfold modifyAccount
  split <;> rfl

end Db

end Afcon360.Wallet
