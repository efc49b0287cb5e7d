import Afcon360.Foundation.Guard
import Afcon360.Wallet.Repository

/-!
# Booking a transaction

Deposit, withdrawal and transfer end alike: `get_or_create` the transaction row,
return if it is completed already, else post the ledger entries under its id and
mark it completed. `book` is that common tail. `book_ok` lists everything a
booking that returned can have done; the effects on balances, on the transaction
table and on the other rows are read off it.
-/

namespace Afcon360.Wallet

open Foundation

/-- What a booking returns: the row `get_or_create` answered with, whether
entries were posted, and the database after the call. -/
structure Booking where
  id : TransactionId
  row : Transaction
  posted : Bool
  db : Db

/-- Get or create the row, then post and complete unless it is completed. -/
def book (db : Db) (now : Timestamp) (row : Transaction)
    (drafts : TransactionId → List Db.EntryDraft) : Attempt Booking :=
  match db.getOrCreate row with
  | .error e => .error e
  | .ok (id, found, created) =>
    if found.status = .completed then .ok ⟨id, found, false, created⟩
    else
      match created.postEntries now (drafts id) with
      | .error e => .error e
      | .ok posted => .ok ⟨id, found, true, posted.updateStatus id .completed⟩

/-- The row with its status set to completed. -/
def Transaction.complete (row : Transaction) : Transaction := { row with status := .completed }

section

variable {db : Db} {now : Timestamp} {row : Transaction}
  {drafts : TransactionId → List Db.EntryDraft} {booking : Booking}

/-- A booking that posted: the entries are appended, the row under the key is
completed, every other row stays. -/
structure Posted (db : Db) (now : Timestamp) (row : Transaction)
    (drafts : TransactionId → List Db.EntryDraft) (booking : Booking) : Prop where
  key : booking.row.clientRequestId = row.clientRequestId
  open_status : booking.row.status ≠ .completed
  found : db.getByClientRequestId row.clientRequestId = some (booking.id, booking.row) ∨
    (db.getByClientRequestId row.clientRequestId = none ∧ booking.id = db.transactions.size ∧
      booking.row = row)
  ledger : ∃ entries, Db.storeAll? now (drafts booking.id) = some entries ∧
    booking.db.ledger = db.ledger ++ entries
  accounts : booking.db.accounts = db.accounts
  reversals : booking.db.reversals = db.reversals
  completed : booking.db.getByClientRequestId row.clientRequestId =
    some (booking.id, booking.row.complete)
  other_keys : ∀ key, key ≠ row.clientRequestId →
    booking.db.getByClientRequestId key = db.getByClientRequestId key
  size : db.transactions.size ≤ booking.db.transactions.size
  other_rows : ∀ i, i ≠ booking.id → booking.db.transactions.get? i = db.transactions.get? i

private theorem posted_of_existing {created posted : Db} {id : TransactionId} {found : Transaction}
    (hfound : db.getByClientRequestId row.clientRequestId = some (id, found))
    (hopen : found.status ≠ .completed) (hcreated : created = db)
    (hposted : created.postEntries now (drafts id) = .ok posted) :
    Posted db now row drafts ⟨id, found, true, posted.updateStatus id .completed⟩ := by
  subst hcreated
  obtain ⟨entries, hentries, hledger, haccounts, htransactions, hreversals⟩ :=
    Db.postEntries_ok hposted
  refine
    { key := (Table.lookup_eq_some_iff.mp hfound).2
      open_status := hopen
      found := .inl hfound
      ledger := ⟨entries, hentries, hledger⟩
      accounts := haccounts
      reversals := hreversals
      completed := ?_
      other_keys := ?_
      size := ?_
      other_rows := ?_ }
  · simp only [Db.getByClientRequestId, Db.updateStatus, Table.lookup_modify, htransactions] at *
    simp [hfound, Transaction.complete]
  · intro key hkey
    simp only [Db.getByClientRequestId, Db.updateStatus, Table.lookup_modify, htransactions] at *
    cases hl : created.transactions.lookup key with
    | none => rfl
    | some other =>
      obtain ⟨hget, hother⟩ :=
        Table.lookup_eq_some_iff.mp (show _ = some (other.1, other.2) from hl)
      have hne : other.1 ≠ id := by
        rintro rfl
        obtain ⟨hget', hkey'⟩ := Table.lookup_eq_some_iff.mp hfound
        rw [hget] at hget'
        cases hget'
        exact hkey (hother.symm.trans hkey')
      simp [hne]
  · simp [Db.updateStatus, htransactions]
  · intro i hi
    simp only [Db.updateStatus, Table.get?_modify, htransactions]
    rw [if_neg (Ne.symm hi)]

private theorem posted_of_fresh {created posted : Db}
    (hnone : db.getByClientRequestId row.clientRequestId = none)
    (hopen : row.status ≠ .completed) (hinsert : db.insertTransaction? row = some created)
    (hposted : created.postEntries now (drafts db.transactions.size) = .ok posted) :
    Posted db now row drafts
      ⟨db.transactions.size, row, true, posted.updateStatus db.transactions.size .completed⟩ := by
  obtain ⟨hrows, hcreated, haccounts', hreversals'⟩ := Db.insertTransaction?_eq_some hinsert
  obtain ⟨entries, hentries, hledger, haccounts, htransactions, hreversals⟩ :=
    Db.postEntries_ok hposted
  refine
    { key := rfl
      open_status := hopen
      found := .inr ⟨hnone, rfl, rfl⟩
      ledger := ⟨entries, hentries, by rw [← hcreated]; exact hledger⟩
      accounts := haccounts.trans haccounts'
      reversals := hreversals.trans hreversals'
      completed := ?_
      other_keys := ?_
      size := ?_
      other_rows := ?_ }
  · simp only [Db.getByClientRequestId, Db.updateStatus, Table.lookup_modify, htransactions,
      Table.lookup_insert_self hrows]
    simp [Transaction.complete]
  · intro key hkey
    simp only [Db.getByClientRequestId, Db.updateStatus, Table.lookup_modify, htransactions,
      Table.lookup_insert_ne hrows hkey]
    cases hl : db.transactions.lookup key with
    | none => rfl
    | some other =>
      have hget := (Table.lookup_eq_some_iff.mp (show _ = some (other.1, other.2) from hl)).1
      have hne : other.1 ≠ db.transactions.size := Nat.ne_of_lt (Table.lt_size_of_get? hget)
      simp [hne]
  · simp [Db.updateStatus, htransactions, Table.size_insert hrows]
  · intro i hi
    simp only [Db.updateStatus, Table.get?_modify, htransactions, Table.get?_insert hrows]
    rw [if_neg (Ne.symm hi), if_neg hi]

/-- A booking that returned either found a completed row and changed nothing, or
posted. -/
theorem book_ok (hpending : row.status = .pending) (h : book db now row drafts = .ok booking) :
    (booking.posted = false ∧ booking.db = db ∧ booking.row.status = .completed ∧
      db.getByClientRequestId row.clientRequestId = some (booking.id, booking.row)) ∨
    (booking.posted = true ∧ Posted db now row drafts booking) := by
  have hopen : row.status ≠ .completed := by simp [hpending]
  unfold book at h
  split at h
  · cases h
  · rename_i id found created hcreate
    obtain ⟨hfound, rfl⟩ | ⟨hnone, rfl, rfl, hinsert⟩ := Db.getOrCreate_ok hcreate
    · split at h
      · rename_i hstatus
        cases h
        exact .inl ⟨rfl, rfl, hstatus, hfound⟩
      · rename_i hstatus
        split at h
        · cases h
        · rename_i posted hposted
          cases h
          exact .inr ⟨rfl, posted_of_existing hfound hstatus rfl hposted⟩
    · rw [if_neg hopen] at h
      split at h
      · cases h
      · rename_i posted hposted
        cases h
        exact .inr ⟨rfl, posted_of_fresh hnone hopen hinsert hposted⟩

theorem book_completed {id : TransactionId} {found : Transaction}
    (hfound : db.getByClientRequestId row.clientRequestId = some (id, found))
    (hstatus : found.status = .completed) :
    book db now row drafts = .ok ⟨id, found, false, db⟩ := by
  simp [book, Db.getOrCreate, hfound, hstatus]

theorem Posted.journal (h : Posted db now row drafts booking) :
    booking.db.journal = db.journal ++ (drafts booking.id).map Db.EntryDraft.posting := by
  obtain ⟨entries, hentries, hledger⟩ := h.ledger
  simp only [Db.journal, hledger, List.map_append, Db.storeAll?_postings hentries]

theorem Posted.id_lt_size (h : Posted db now row drafts booking) :
    booking.id < booking.db.transactions.size :=
  Table.lt_size_of_get? (Table.lookup_eq_some_iff.mp h.completed).1

/-- If the drafts carry the transaction's id, so do the new entries. -/
theorem Posted.entries_under (h : Posted db now row drafts booking)
    (under : ∀ draft ∈ drafts booking.id, draft.transactionId = booking.id) :
    ∃ entries, booking.db.ledger = db.ledger ++ entries ∧
      entries.map LedgerEntry.posting = (drafts booking.id).map Db.EntryDraft.posting ∧
      ∀ entry ∈ entries, entry.transactionId = booking.id := by
  obtain ⟨entries, hentries, hledger⟩ := h.ledger
  refine ⟨entries, hledger, Db.storeAll?_postings hentries, ?_⟩
  intro entry hentry
  obtain ⟨draft, hdraft, hstored⟩ := Db.storeAll?_mem hentries hentry
  exact (Db.store?_eq_some hstored).2.1.trans (under draft hdraft)

/-- Under a fresh transaction stand exactly the entries of the batch; the other
transactions keep theirs. -/
theorem Posted.filter_ledger (h : Posted db now row drafts booking)
    (fresh : booking.id = db.transactions.size)
    (under : ∀ draft ∈ drafts booking.id, draft.transactionId = booking.id) :
    (booking.db.ledger.filter (·.transactionId = booking.id)).map LedgerEntry.posting =
        (drafts booking.id).map Db.EntryDraft.posting ∧
      ∀ id, id ≠ booking.id →
        booking.db.ledger.filter (·.transactionId = id) =
          db.ledger.filter (·.transactionId = id) := by
  obtain ⟨entries, hledger, hpostings, hunder⟩ := h.entries_under under
  constructor
  · have hold : db.ledger.filter (·.transactionId = booking.id) = [] := by
      rw [List.filter_eq_nil_iff]
      intro entry hentry
      have hlt := db.transaction_fk entry hentry
      rw [← fresh] at hlt
      simpa using Nat.ne_of_lt hlt
    have hnew : entries.filter (·.transactionId = booking.id) = entries := by
      rw [List.filter_eq_self]
      intro entry hentry
      simpa using hunder entry hentry
    rw [hledger, List.filter_append, hold, hnew, List.nil_append, hpostings]
  · intro id hid
    have hnone : entries.filter (·.transactionId = id) = [] := by
      rw [List.filter_eq_nil_iff]
      intro entry hentry
      rw [hunder entry hentry]
      simpa using Ne.symm hid
    rw [hledger, List.filter_append, hnone, List.append_nil]

theorem Posted.accountById (h : Posted db now row drafts booking) (id : AccountId) :
    booking.db.accountById id = db.accountById id := by
  rw [Db.accountById, Db.accountById, h.accounts]

theorem Posted.balance (h : Posted db now row drafts booking) (accountId : AccountId)
    (currency : Currency) :
    booking.db.balanceMicros accountId currency = db.balanceMicros accountId currency +
      Posting.balance ((drafts booking.id).map Db.EntryDraft.posting) accountId currency := by
  rw [Db.balanceMicros_eq, Db.balanceMicros_eq, h.journal, Posting.balance_append]

end

end Afcon360.Wallet
