import Afcon360.Wallet.Replay
import Afcon360.Wallet.Solvency

/-!
# Reconciliation

`ReconciliationService` compares two balances of every account: one from the ledger
entries, one from the completed transactions. Most of the second is selected by the column
`account_id` of a transaction, which no statement of the wallet writes: `get_or_create`
leaves it null. What remains are the transfers whose recipient is the account's user.
-/

namespace Afcon360.Wallet

open Foundation

/-- The column `account_id`. -/
def Transaction.accountId (_ : Transaction) : Option AccountId := none

namespace Db

/-- `_get_ledger_balance`, in millionths. -/
def ledgerBalance (db : Db) (account : Account) : ℤ :=
  sumWhere db.ledger (fun e =>
    e.accountId = account.id ∧ e.currency = account.currency ∧ e.entryType = .credit) -
  sumWhere db.ledger (fun e =>
    e.accountId = account.id ∧ e.currency = account.currency ∧ e.entryType = .debit)

/-- The sum of the amounts of the completed transactions in a currency that satisfy a
condition. -/
def sumCompleted (db : Db) (currency : Currency) (cond : Transaction → Bool) : ℤ :=
  (db.transactions.rows.map (fun row =>
    if row.currency = currency ∧ row.status = .completed ∧ cond row then row.amount.micros
    else 0)).sum

/-- `_get_transaction_balance`. A user that is null selects the transfers without a
recipient. -/
def transactionBalance (db : Db) (account : Account) : ℤ :=
  let deposits := db.sumCompleted account.currency (fun row =>
    row.accountId = some account.id ∧ row.txType ∈ [.deposit, .adjustment, .refund])
  let withdrawals := db.sumCompleted account.currency (fun row =>
    row.accountId = some account.id ∧ row.txType ∈ [.withdraw, .fee])
  let sentTransfers := db.sumCompleted account.currency (fun row =>
    row.accountId = some account.id ∧ row.txType = .transfer)
  let receivedTransfers := db.sumCompleted account.currency (fun row =>
    row.recipientUserId = account.userId ∧ row.txType = .transfer)
  (deposits + receivedTransfers) - (withdrawals + sentTransfers)

/-- `run_daily_reconciliation` reports no mismatch. -/
def Reconciled (db : Db) : Prop :=
  ∀ account ∈ db.accounts.rows, db.ledgerBalance account = db.transactionBalance account

instance (db : Db) : Decidable db.Reconciled :=
  inferInstanceAs (Decidable (∀ account ∈ db.accounts.rows, _ = _))

/-! ## The two balances -/

variable {db : Db} {account : Account}

theorem ledgerBalance_eq (db : Db) (account : Account) :
    db.ledgerBalance account = Posting.balance db.journal account.id account.currency := by
  rw [ledgerBalance, journal]
  induction db.ledger with
  | nil => rfl
  | cons entry rest ih =>
    rw [List.map_cons, Posting.balance_cons, ← ih]
    by_cases h : entry.accountId = account.id ∧ entry.currency = account.currency
    · cases hkind : entry.entryType <;>
        simp [sumWhere, LedgerEntry.posting, LedgerEntry.signed, h, hkind] <;> omega
    · have hnot : ∀ kind : EntryType, ¬ (entry.accountId = account.id ∧
          entry.currency = account.currency ∧ entry.entryType = kind) :=
        fun kind hall => h ⟨hall.1, hall.2.1⟩
      simp [sumWhere, LedgerEntry.posting, h, hnot]

theorem sumCompleted_eq_zero {currency : Currency} {cond : Transaction → Bool}
    (h : ∀ row ∈ db.transactions.rows, cond row = false) : db.sumCompleted currency cond = 0 := by
  rw [sumCompleted, List.sum_eq_zero]
  intro value hvalue
  obtain ⟨row, hrow, rfl⟩ := List.mem_map.mp hvalue
  simp [h row hrow]

theorem sumCompleted_nonneg (db : Db) (currency : Currency) (cond : Transaction → Bool) :
    0 ≤ db.sumCompleted currency cond := by
  refine List.sum_nonneg ?_
  intro value hvalue
  obtain ⟨row, -, rfl⟩ := List.mem_map.mp hvalue
  split
  · exact le_of_lt row.amount.positive
  · exact le_refl 0

/-- Only received transfers count. -/
theorem transactionBalance_eq (db : Db) (account : Account) :
    db.transactionBalance account = db.sumCompleted account.currency (fun row =>
      row.recipientUserId = account.userId ∧ row.txType = .transfer) := by
  have hnone : ∀ cond : Transaction → Prop, [DecidablePred cond] →
      db.sumCompleted account.currency (fun row =>
        row.accountId = some account.id ∧ cond row) = 0 := by
    intro cond _
    refine sumCompleted_eq_zero ?_
    intro row _
    simp [Transaction.accountId]
  rw [transactionBalance, hnone (fun row => row.txType ∈ [.deposit, .adjustment, .refund]),
    hnone (fun row => row.txType ∈ [.withdraw, .fee]), hnone (fun row => row.txType = .transfer)]
  omega

theorem transactionBalance_nonneg (db : Db) (account : Account) :
    0 ≤ db.transactionBalance account := by
  rw [transactionBalance_eq]
  exact sumCompleted_nonneg db _ _

theorem mem_of_accountById {id : AccountId} (h : db.accountById id = some account) :
    account ∈ db.accounts.rows := by
  obtain ⟨⟨i, row⟩, hrow, rfl⟩ := Option.map_eq_some_iff.mp h
  exact List.mem_of_getElem? (Table.lookup_eq_some_iff.mp hrow).1

/-- No call has posted anything. -/
structure Untouched (db : Db) : Prop where
  ledger : db.ledger = []
  transactions : db.transactions.rows = []

theorem Untouched.reconciled (h : Untouched db) : db.Reconciled := by
  intro account _
  rw [ledgerBalance_eq, journal, h.ledger, transactionBalance_eq, sumCompleted, h.transactions]
  rfl

theorem Untouched.getByClientRequestId (h : Untouched db) (key : String) :
    db.getByClientRequestId key = none := by
  refine Table.lookup_eq_none_iff.mpr ?_
  intro i row hrow
  rw [Table.get?, h.transactions] at hrow
  cases hrow

end Db

/-! ## Steps -/

section

variable {env : Env} {db : Db} {now : Timestamp} {row : Transaction}
  {drafts : TransactionId → List Db.EntryDraft} {booking : Booking}

theorem Posted.amount_pos (h : Posted db now row drafts booking) (draft : Db.EntryDraft)
    (hdraft : draft ∈ drafts booking.id) : 0 < roundHalfUp microsPerUnit draft.amount := by
  obtain ⟨entries, hentries, -⟩ := h.ledger
  have hmatched := Db.storeAll?_forall₂ hentries
  obtain ⟨i, hi, rfl⟩ := List.getElem_of_mem hdraft
  have hstored := hmatched.get hi (hmatched.length_eq ▸ hi)
  have hmicros := (Db.store?_eq_some hstored).2.2.2.2.2
  simp only [List.get_eq_getElem] at hmicros
  rw [← hmicros]
  exact Amount.positive _

theorem Posted.ledger_ne_nil (h : Posted db now row drafts booking)
    (hdrafts : drafts booking.id ≠ []) : booking.db.ledger ≠ [] := by
  obtain ⟨entries, hentries, hledger⟩ := h.ledger
  intro hempty
  have hlength := (Db.storeAll?_forall₂ hentries).length_eq
  rw [hledger, List.append_eq_nil_iff] at hempty
  rw [hempty.2, List.length_nil, List.length_eq_zero_iff] at hlength
  exact hdrafts hlength

theorem Posted.ledgerBalance_of_untouched (h : Posted db now row drafts booking)
    (huntouched : db.Untouched) (account : Account) :
    booking.db.ledgerBalance account = Posting.balance
      ((drafts booking.id).map Db.EntryDraft.posting)
      account.id account.currency := by
  rw [Db.ledgerBalance_eq, h.journal, Db.journal, huntouched.ledger]
  rfl

/-- The rows after the first posting are those of its key. -/
theorem Posted.rows_of_untouched (h : Posted db now row drafts booking)
    (huntouched : db.Untouched) :
    ∀ recorded ∈ booking.db.transactions.rows, recorded = row.complete := by
  have hrow : booking.row = row := by
    obtain hfound | ⟨-, -, hrow⟩ := h.found
    · rw [huntouched.getByClientRequestId] at hfound
      cases hfound
    · exact hrow
  intro recorded hrecorded
  obtain ⟨i, hi⟩ := List.mem_iff_getElem?.mp hrecorded
  by_cases hid : i = booking.id
  · have hget := (Table.lookup_eq_some_iff.mp h.completed).1
    rw [hid] at hi
    rw [← hrow]
    exact Option.some.inj (hi.symm.trans hget)
  · have hother := h.other_rows i hid
    rw [Table.get?, Table.get?, hi, huntouched.transactions] at hother
    cases hother

/-- A deposit or withdrawal is not recorded as a transfer: its callers record deposits,
withdrawals and adjustments. -/
def WalletCall.Typed : WalletCall → Prop
  | .cash request => request.txType ≠ .transfer
  | _ => True

/-- The first deposit leaves a credit that no transaction explains. -/
theorem deposit_not_reconciled {request : DepositRequest} {opening : Opening} {key : String}
    (h : CashPosted env db (.deposit request) opening key row booking) (huntouched : db.Untouched)
    (htype : request.txType ≠ .transfer) : ¬ booking.db.Reconciled := by
  obtain ⟨_, _, currency, -, -, -, -, -, -, haccount, -, -, hconverts, -⟩ :=
    depositOpening_eq_ok.mp h.opening_ok
  have hcurrency : opening.currency = opening.account.currency := by
    obtain ⟨hsame, -, hposted⟩ | ⟨-, hposted, -⟩ := hconverts
    · rw [hposted, hsame]
    · exact hposted
  have hmem : opening.account ∈ booking.db.accounts.rows := by
    rw [h.posted.accounts]
    exact Db.mem_of_accountById haccount
  intro hreconciled
  have hbalance := hreconciled opening.account hmem
  have hpos := h.posted.amount_pos _ (List.mem_singleton_self _)
  rw [h.posted.ledgerBalance_of_untouched huntouched, Db.transactionBalance_eq,
    Db.sumCompleted_eq_zero] at hbalance
  · simp [Opening.draft, Db.EntryDraft.posting, CashRequest.entryType, hcurrency] at hbalance
    simp only [Opening.draft] at hpos
    omega
  · intro recorded hrecorded
    rw [h.posted.rows_of_untouched huntouched recorded hrecorded]
    have hrow := (Db.draftTransaction_ok h.row_ok).2.1
    simp [Transaction.complete, hrow, CashRequest.txType, htype]

/-- Nothing can be withdrawn first. -/
theorem withdraw_not_posted {request : WithdrawRequest} {opening : Opening} {key : String}
    (h : CashPosted env db (.withdraw request) opening key row booking)
    (huntouched : db.Untouched) : False := by
  have hzero : db.balanceMicros opening.account.id opening.currency = 0 := by
    rw [Db.balanceMicros_eq, Db.journal, huntouched.ledger]
    rfl
  have hcovered : draftDebits [opening.draft .debit booking.id] opening.account.id
      opening.currency ≤ db.balanceMicros opening.account.id opening.currency :=
    cashPosted_covered h (le_of_eq hzero.symm)
  have hpos := h.posted.amount_pos _ (List.mem_singleton_self _)
  simp [draftDebits, Opening.draft, CashRequest.entryType, hzero] at hcovered hpos
  omega

/-- A transfer leaves a debit on its sender, and no transaction counts negatively. -/
theorem transfer_not_reconciled {request : TransferRequest} {parties : Parties} {legs : Legs}
    (h : TransferPosted env db request parties legs row booking) (huntouched : db.Untouched) :
    ¬ booking.db.Reconciled := by
  obtain ⟨hdiffer, -, hsender, hrecipient⟩ := transferOpening_ok h.opening_ok
  have hcurrency := (transferLegs_ok (transferChecks_ok h.checks_ok).1).1
  have hids : parties.recipient.id ≠ parties.sender.id := by
    rw [Db.accountById_id hsender, Db.accountById_id hrecipient]
    exact Ne.symm hdiffer
  have hmem : parties.sender ∈ booking.db.accounts.rows := by
    rw [h.posted.accounts]
    exact Db.mem_of_accountById hsender
  intro hreconciled
  have hbalance := hreconciled parties.sender hmem
  have hnonneg := booking.db.transactionBalance_nonneg parties.sender
  have hdebit : 0 < roundHalfUp microsPerUnit legs.debitAmount :=
    h.posted.amount_pos ⟨booking.id, parties.sender.id, .debit, legs.debitAmount,
      legs.debitCurrency⟩ (by simp [transferDrafts])
  rw [← hbalance, h.posted.ledgerBalance_of_untouched huntouched] at hnonneg
  by_cases hfee : 0 < request.fee
  · have hfeePos : 0 < roundHalfUp microsPerUnit request.fee :=
      h.posted.amount_pos ⟨booking.id, parties.sender.id, .debit, request.fee,
        request.feeCurrencyOr⟩ (by simp [transferDrafts, hfee])
    simp [transferDrafts, Db.EntryDraft.posting, hfee, hcurrency, hids] at hnonneg
    split at hnonneg <;> omega
  · simp [transferDrafts, Db.EntryDraft.posting, hfee, hcurrency, hids] at hnonneg
    omega

/-- What a call can do first: nothing, or a posting that the service then reports. -/
theorem untouched_or_not_reconciled (env : Env) (huntouched : db.Untouched) {call : WalletCall}
    (htyped : call.Typed) :
    (call.effect env db).Untouched ∨
      (call.effect env db).ledger ≠ [] ∧ ¬ (call.effect env db).Reconciled := by
  rcases effect_cases env db call with
    ⟨hledger, htransactions⟩ | ⟨request, opening, key, row, booking, rfl, h, heffect⟩ |
    ⟨request, parties, legs, row, booking, rfl, h, heffect⟩
  · refine .inl ⟨hledger.trans huntouched.ledger, ?_⟩
    rw [htransactions]
    exact huntouched.transactions
  · rw [heffect]
    cases request with
    | deposit request =>
      exact .inr ⟨h.posted.ledger_ne_nil (List.cons_ne_nil _ _),
        deposit_not_reconciled h huntouched htyped⟩
    | withdraw request => exact (withdraw_not_posted h huntouched).elim
  · rw [heffect]
    exact .inr ⟨h.posted.ledger_ne_nil (List.cons_ne_nil _ _),
      transfer_not_reconciled h huntouched⟩

theorem effect_ledger_ne_nil (env : Env) (call : WalletCall) (h : db.ledger ≠ []) :
    (call.effect env db).ledger ≠ [] := by
  rcases effect_cases env db call with
    ⟨hledger, -⟩ | ⟨_, _, _, _, booking, rfl, hposted, heffect⟩ |
    ⟨_, _, _, _, booking, rfl, hposted, heffect⟩
  · rwa [hledger]
  · obtain ⟨entries, -, hledger⟩ := hposted.posted.ledger
    rw [heffect, hledger]
    exact List.append_ne_nil_of_left_ne_nil h entries
  · obtain ⟨entries, -, hledger⟩ := hposted.posted.ledger
    rw [heffect, hledger]
    exact List.append_ne_nil_of_left_ne_nil h entries

theorem walletRun_ledger_ne_nil (labels : List (Env × WalletCall)) (h : db.ledger ≠ []) :
    (walletRun db labels).ledger ≠ [] := by
  induction labels generalizing db with
  | nil => exact h
  | cons label rest ih => exact ih (effect_ledger_ne_nil label.1 label.2 h)

/-! ## Runs -/

theorem run_reconciled_iff {labels : List (Env × WalletCall)} (huntouched : db.Untouched)
    (htyped : ∀ label ∈ labels, label.2.Typed) :
    (∀ k, (walletRun db (labels.take k)).Reconciled) ↔ (walletRun db labels).ledger = [] := by
  induction labels generalizing db with
  | nil =>
    refine iff_of_true ?_ huntouched.ledger
    intro k
    rw [List.take_nil]
    exact huntouched.reconciled
  | cons label rest ih =>
    obtain ⟨hfirst, hrest⟩ := List.forall_mem_cons.mp htyped
    obtain hnext | ⟨hledger, hnot⟩ := untouched_or_not_reconciled label.1 huntouched hfirst
    · refine Iff.trans ⟨?_, ?_⟩ (ih hnext hrest)
      · intro h k
        exact h (k + 1)
      · intro h k
        cases k with
        | zero => exact huntouched.reconciled
        | succ k => exact h k
    · refine iff_of_false ?_ (walletRun_ledger_ne_nil rest hledger)
      intro h
      exact hnot (h 1)

end

/-- From freshly opened accounts, the service reports no mismatch in any state of a run
exactly when the run posts nothing. -/
theorem reconciliation_iff (accounts : List Account) (unique : (accounts.map Account.id).Nodup)
    (labels : List (Env × WalletCall)) (htyped : ∀ label ∈ labels, label.2.Typed) :
    (∀ k, (walletRun (Db.opened accounts unique) (labels.take k)).Reconciled) ↔
      (walletRun (Db.opened accounts unique) labels).ledger = [] :=
  run_reconciled_iff ⟨rfl, rfl⟩ htyped

/-- A transfer from an empty wallet is refused, and the balances agree. -/
theorem reconciliation_iff_refused :
    (walletRun (Db.opened [{ id := 1, userId := some 7, currency := "UGX" },
      { id := 2, userId := some 8, currency := "UGX" }] (by decide))
      ([(Env.lenient 0 ⟨7, false⟩, .transfer (rent none none))].take 1)).Reconciled := by
  refine (reconciliation_iff _ _ _ ?_).mpr (by decide +kernel) 1
  intro label hlabel
  cases List.mem_singleton.mp hlabel
  trivial

/-- One deposit is reported as a mismatch. -/
theorem deposit_reported : ¬ (walletRun twoWallets [fundFirst]).Reconciled := by
  decide +kernel

end Afcon360.Wallet
