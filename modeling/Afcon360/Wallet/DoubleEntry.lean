import Afcon360.Wallet.System

/-!
# Double entry

A transfer between accounts of one currency posts a debit and a credit of the
same amount. A positive platform fee adds a second debit and no credit, so the
entries of that transaction do not balance: the fee leaves the accounts
altogether.
-/

namespace Afcon360.Wallet

open Foundation

/-- The debits posted under a transaction in a currency. -/
def debitsUnder (db : Db) (id : TransactionId) (currency : Currency) : ℤ :=
  Db.sumWhere db.ledger (fun e =>
    e.transactionId = id ∧ e.currency = currency ∧ e.entryType = .debit)

/-- The credits posted under a transaction in a currency. -/
def creditsUnder (db : Db) (id : TransactionId) (currency : Currency) : ℤ :=
  Db.sumWhere db.ledger (fun e =>
    e.transactionId = id ∧ e.currency = currency ∧ e.entryType = .credit)

/-- The balances of all accounts in a currency together. -/
def holdings (db : Db) (currency : Currency) : ℚ :=
  (db.accounts.rows.map (fun account => db.getBalance account.id currency)).sum

/-- A transfer between accounts of one currency that returned. -/
def sameCurrencyTransfer (db : Db) (label : Env × TransferRequest) (db' : Db) : Prop :=
  (∃ receipt, transfer label.1 db label.2 = .ok (receipt, db')) ∧
    ∀ sender recipient, db.accountById label.2.fromAccountId = some sender →
      db.accountById label.2.toAccountId = some recipient → sender.currency = recipient.currency

/-- The transfer takes no positive fee, or its key is recorded and it posts
nothing. -/
def NoFeePosted (db : Db) (label : Env × TransferRequest) : Prop :=
  label.2.fee ≤ 0 ∨ (db.getByClientRequestId label.2.clientRequestId).isSome

section

variable {db db' : Db} {env : Env} {request : TransferRequest} {parties : Parties} {legs : Legs}
  {row : Transaction} {booking : Booking} {id : TransactionId} {currency : Currency}

variable {labels : List (Env × TransferRequest)}

/-- Credits less debits under a transaction are the total of its postings. -/
theorem credits_sub_debits (db : Db) (id : TransactionId) (currency : Currency) :
    creditsUnder db id currency - debitsUnder db id currency =
      Posting.total ((db.ledger.filter (·.transactionId = id)).map LedgerEntry.posting)
        currency := by
  unfold creditsUnder debitsUnder
  induction db.ledger with
  | nil => rfl
  | cons entry rest ih =>
    have kinds : entry.entryType = .debit ∨ entry.entryType = .credit := by
      cases entry.entryType <;> simp
    simp only [Db.sumWhere, List.map_cons, List.sum_cons, List.filter_cons,
      decide_eq_true_eq] at ih ⊢
    by_cases hid : entry.transactionId = id
    · simp only [hid, true_and, if_true, List.map_cons, Posting.total_cons, ← ih,
        LedgerEntry.posting, LedgerEntry.signed]
      obtain hkind | hkind := kinds
      · by_cases hc : entry.currency = currency
        · simp only [hkind, hc, and_true, reduceCtorEq, and_false, if_true, if_false]
          omega
        · simp only [hc, false_and, if_false]
          omega
      · by_cases hc : entry.currency = currency
        · simp only [hkind, hc, and_true, reduceCtorEq, and_false, if_true, if_false]
          omega
        · simp only [hc, false_and, if_false]
          omega
    · simp only [hid, false_and, if_false, ← ih]
      omega

/-- The balances of all accounts add up to the total of the journal. -/
theorem holdings_eq (db : Db) (currency : Currency) :
    holdings db currency = gridValue microsPerUnit (Posting.total db.journal currency) := by
  have covers : ∀ p ∈ db.journal, p.account ∈ db.accounts.rows.map Account.id := by
    intro p hp
    obtain ⟨entry, hentry, rfl⟩ := List.mem_map.mp hp
    obtain ⟨⟨i, account⟩, hfound⟩ := Option.isSome_iff_exists.mp (db.account_fk entry hentry)
    obtain ⟨hget, hid⟩ := Table.lookup_eq_some_iff.mp hfound
    exact List.mem_map.mpr ⟨account, List.mem_of_getElem? hget, hid⟩
  have hsum := Posting.sum_balance_eq_total db.accounts.unique covers currency
  rw [← hsum]
  unfold holdings
  induction db.accounts.rows with
  | nil => simp [gridValue]
  | cons account rest ih =>
    rw [List.map_cons, List.sum_cons, ih, List.map_cons, List.map_cons, List.sum_cons,
      gridValue_add, Db.getBalance_eq]

/-- The net amount a posted transfer between accounts of one currency adds: the
fee is missing. -/
theorem total_transferDrafts (same : parties.sender.currency = parties.recipient.currency)
    (hlegs : transferLegs env request parties = .ok legs) :
    Posting.total ((transferDrafts request parties legs id).map Db.EntryDraft.posting) currency =
      if 0 < request.fee ∧ request.feeCurrencyOr = currency then
        -roundHalfUp microsPerUnit request.fee
      else 0 := by
  simp only [transferLegs, same, if_true] at hlegs
  cases hlegs
  by_cases hfee : 0 < request.fee
  · by_cases hc : parties.recipient.currency = currency
    · simp [transferDrafts, Db.EntryDraft.posting, hfee, hc]
    · simp [transferDrafts, Db.EntryDraft.posting, hfee, hc]
  · by_cases hc : parties.recipient.currency = currency
    · simp [transferDrafts, Db.EntryDraft.posting, hfee, hc]
    · simp [transferDrafts, Db.EntryDraft.posting, hfee, hc]

theorem filter_posted (h : TransferPosted env db request parties legs row booking) :
    (booking.db.ledger.filter (·.transactionId = booking.id)).map LedgerEntry.posting =
        (transferDrafts request parties legs booking.id).map Db.EntryDraft.posting ∧
      ∀ id, id ≠ booking.id →
        booking.db.ledger.filter (·.transactionId = id) =
          db.ledger.filter (·.transactionId = id) :=
  h.posted.filter_ledger h.id_eq (transferDrafts_under booking.id)

theorem sameCurrencyTransfer_cases (h : sameCurrencyTransfer db (env, request) db') :
    (db' = db ∧ (db.getByClientRequestId request.clientRequestId).isSome) ∨
    ∃ parties legs row booking, TransferPosted env db request parties legs row booking ∧
      parties.sender.currency = parties.recipient.currency ∧ db' = booking.db := by
  obtain ⟨⟨receipt, hreceipt⟩, hcurrency⟩ := h
  obtain ⟨parties, hparties, hreplay | hposted⟩ := transfer_ok hreceipt
  · obtain ⟨rfl, id, existing, hfound, -⟩ := hreplay
    exact .inl ⟨rfl, by rw [hfound]; rfl⟩
  · obtain ⟨hfresh, legs, booking, row, hlegs, hrow, posted, -, hid, hrow', rfl, -⟩ := hposted
    obtain ⟨-, -, hsender, hrecipient⟩ := transferOpening_ok hparties
    exact .inr ⟨parties, legs, row, booking,
      ⟨hparties, hfresh, hlegs, hrow, posted, hid, hrow'⟩, hcurrency _ _ hsender hrecipient, rfl⟩

/-- What a posted transfer adds to the total of a currency. -/
theorem total_posted (h : TransferPosted env db request parties legs row booking)
    (same : parties.sender.currency = parties.recipient.currency) (currency : Currency) :
    Posting.total booking.db.journal currency = Posting.total db.journal currency +
        creditsUnder booking.db booking.id currency - debitsUnder booking.db booking.id currency ∧
      creditsUnder booking.db booking.id currency - debitsUnder booking.db booking.id currency =
        if 0 < request.fee ∧ request.feeCurrencyOr = currency then
          -roundHalfUp microsPerUnit request.fee
        else 0 := by
  have hlegs := (transferChecks_ok h.checks_ok).1
  have hnet := credits_sub_debits booking.db booking.id currency
  have htotal : Posting.total booking.db.journal currency = Posting.total db.journal currency +
      Posting.total ((transferDrafts request parties legs booking.id).map Db.EntryDraft.posting)
        currency := by
    rw [h.posted.journal, Posting.total_append]
  rw [(filter_posted h).1] at hnet
  refine ⟨by omega, ?_⟩
  rw [hnet, total_transferDrafts same hlegs]

theorem posted_fee_pos (h : TransferPosted env db request parties legs row booking)
    (hfee : 0 < request.fee) : 0 < roundHalfUp microsPerUnit request.fee := by
  obtain ⟨entries, hentries, -⟩ := h.posted.ledger
  simp only [transferDrafts, hfee, if_true, List.cons_append, List.nil_append] at hentries
  have matched := Db.storeAll?_forall₂ hentries
  cases matched with
  | cons _ rest =>
    cases rest with
    | cons _ rest =>
      cases rest with
      | cons hstored _ =>
        rw [← (Db.store?_eq_some hstored).2.2.2.2.2]
        exact Amount.positive _

theorem run_keeps_entries
    (run : Run sameCurrencyTransfer db labels db') (hid : id < db.transactions.size) :
    db'.ledger.filter (·.transactionId = id) = db.ledger.filter (·.transactionId = id) := by
  induction run with
  | nil _ => rfl
  | cons step _ ih =>
    rcases sameCurrencyTransfer_cases step with
      ⟨rfl, -⟩ | ⟨parties, legs, row, booking, h, -, rfl⟩
    · exact ih hid
    · rw [ih (lt_of_lt_of_le hid h.posted.size)]
      exact (filter_posted h).2 id (by rw [h.id_eq]; exact Nat.ne_of_lt hid)

private theorem entries_determine (h : db'.ledger.filter (·.transactionId = id) =
    db.ledger.filter (·.transactionId = id)) (currency : Currency) :
    creditsUnder db' id currency - debitsUnder db' id currency =
      creditsUnder db id currency - debitsUnder db id currency := by
  rw [credits_sub_debits, credits_sub_debits, h]

/-- One step that posts no fee keeps the total and balances what it posts. -/
theorem noFeePosted_step (noFee : NoFeePosted db (env, request))
    (step : sameCurrencyTransfer db (env, request) db') (currency : Currency) :
    Posting.total db'.journal currency = Posting.total db.journal currency ∧
      ∀ id, db.transactions.size ≤ id → id < db'.transactions.size →
        debitsUnder db' id currency = creditsUnder db' id currency := by
  rcases sameCurrencyTransfer_cases step with
    ⟨rfl, -⟩ | ⟨parties, legs, row, booking, h, same, rfl⟩
  · exact ⟨rfl, fun id hle hlt => absurd hlt (by omega)⟩
  · have hfee : ¬ 0 < request.fee := by
      obtain hfee | hkey := noFee
      · exact not_lt.mpr hfee
      · rw [show db.getByClientRequestId request.clientRequestId = none from h.fresh] at hkey
        cases hkey
    obtain ⟨htotal, hnet⟩ := total_posted h same currency
    rw [if_neg (fun hc => hfee hc.1)] at hnet
    refine ⟨by omega, ?_⟩
    intro id hle hlt
    by_cases hid : id = booking.id
    · rw [hid]
      omega
    · -- No other position was added by the insert.
      have hsize := h.posted.size
      have hother := h.posted.other_rows id hid
      have hnone : db.transactions.get? id = none := List.getElem?_eq_none hle
      rw [hnone] at hother
      exact absurd hlt (Nat.not_lt.mpr (List.getElem?_eq_none_iff.mp hother))

/-- A run that posts no fee balances every transaction it posts. -/
theorem guarded_run_balances (run : Run (Guarded NoFeePosted sameCurrencyTransfer) db labels db')
    (hid : db.transactions.size ≤ id) (currency : Currency) :
    debitsUnder db' id currency = creditsUnder db' id currency := by
  induction run with
  | nil s =>
    have hempty : s.ledger.filter (·.transactionId = id) = [] := by
      rw [List.filter_eq_nil_iff]
      intro entry hentry
      have hlt := lt_of_lt_of_le (s.transaction_fk entry hentry) hid
      simpa using Nat.ne_of_lt hlt
    have hnet := credits_sub_debits s id currency
    rw [hempty] at hnet
    simp only [List.map_nil, Posting.total_nil] at hnet
    omega
  | @cons s middle t label rest step tail ih =>
    obtain ⟨env, request⟩ := label
    by_cases hlt : id < middle.transactions.size
    · have hkept := entries_determine (run_keeps_entries tail.of_guarded hlt) currency
      have hstep := (noFeePosted_step step.1 step.2 currency).2 id hid hlt
      omega
    · exact ih (not_lt.mp hlt)

/-- A run that posts no fee moves money between accounts only. -/
theorem guarded_run_holdings
    (run : Run (Guarded NoFeePosted sameCurrencyTransfer) db labels db') (currency : Currency) :
    holdings db' currency = holdings db currency := by
  rw [holdings_eq, holdings_eq]
  congr 1
  refine run.relation
    (fun s t => Posting.total t.journal currency = Posting.total s.journal currency)
    (fun _ => rfl) ?_ ?_
  · intro s middle t h h'
    exact h'.trans h
  · rintro s ⟨env, request⟩ t ⟨noFee, step⟩
    exact (noFeePosted_step noFee step currency).1

/-- Conversely, a run whose transactions all balance posted no fee: a fee would
stand unbalanced under its transaction, and later steps leave the entries of a
recorded transaction alone. -/
theorem noFeePosted_of_balanced (run : Run sameCurrencyTransfer db labels db')
    (balanced : ∀ id, db.transactions.size ≤ id → ∀ currency,
      debitsUnder db' id currency = creditsUnder db' id currency) :
    Run (Guarded NoFeePosted sameCurrencyTransfer) db labels db' := by
  induction run with
  | nil s => exact .nil s
  | @cons s middle t label rest step tail ih =>
    obtain ⟨env, request⟩ := label
    rcases sameCurrencyTransfer_cases step with
      ⟨rfl, hkey⟩ | ⟨parties, legs, row, booking, h, same, rfl⟩
    · exact .cons ⟨.inr hkey, step⟩ (ih balanced)
    · refine .cons ⟨.inl (not_lt.mp fun hfee => ?_), step⟩
        (ih fun id hid => balanced id (h.posted.size.trans hid))
      have hkept := entries_determine
        (run_keeps_entries tail h.posted.id_lt_size) request.feeCurrencyOr
      have hnet := (total_posted h same request.feeCurrencyOr).2
      rw [if_pos ⟨hfee, rfl⟩] at hnet
      have hbalanced := balanced booking.id h.id_eq.ge request.feeCurrencyOr
      have := posted_fee_pos h hfee
      omega

/-- For a run of transfers within one currency: every transaction the run posted
balances and the accounts hold together what they held before, exactly when no
step of the run posted a fee. -/
theorem double_entry_iff_no_fee_posted {labels : List (Env × TransferRequest)}
    (run : Run sameCurrencyTransfer db labels db') :
    ((∀ id, db.transactions.size ≤ id → ∀ currency,
        debitsUnder db' id currency = creditsUnder db' id currency) ∧
      ∀ currency, holdings db' currency = holdings db currency) ↔
    Run (Guarded NoFeePosted sameCurrencyTransfer) db labels db' := by
  constructor
  · rintro ⟨balanced, -⟩
    exact noFeePosted_of_balanced run balanced
  · intro guarded
    exact ⟨fun id hid currency => guarded_run_balances guarded hid currency,
      guarded_run_holdings guarded⟩

end

/-- The rent paid out of 1000 shillings, with a fee or without. -/
def rentPaid (platformFee : Option ℚ) : Db :=
  walletRun twoWallets
    [fundFirst, (Env.lenient 1 ⟨7, false⟩, .transfer (rent platformFee none))]

private theorem rent_step (platformFee : Option ℚ)
    (returned : (transfer (Env.lenient 1 ⟨7, false⟩) (walletRun twoWallets [fundFirst])
      (rent platformFee none)).isOk) :
    sameCurrencyTransfer (walletRun twoWallets [fundFirst])
      (Env.lenient 1 ⟨7, false⟩, rent platformFee none) (rentPaid platformFee) := by
  refine ⟨exists_receipt _ _ returned, ?_⟩
  intro sender recipient hsender hrecipient
  have shillings : ∀ id ∈ [1, 2],
      ((walletRun twoWallets [fundFirst]).accountById id).map Account.currency = some "UGX" := by
    decide +kernel
  rw [Db.currency_of_accountById (shillings 1 (by decide)) hsender,
    Db.currency_of_accountById (shillings 2 (by decide)) hrecipient]

/-- Without a fee the two wallets keep their 1000 shillings. -/
theorem rent_without_fee_balances :
    holdings (rentPaid none) "UGX" = holdings (walletRun twoWallets [fundFirst]) "UGX" ∧
      holdings (rentPaid none) "UGX" = 1000 := by
  have step := rent_step none (by decide +kernel)
  have noFee : NoFeePosted (walletRun twoWallets [fundFirst])
      (Env.lenient 1 ⟨7, false⟩, rent none none) := .inl (by decide +kernel)
  have balanced := (double_entry_iff_no_fee_posted (.single step)).mpr (.single ⟨noFee, step⟩)
  exact ⟨balanced.2 "UGX", by decide +kernel⟩

/-- A fee of 10 is debited and credited to nobody: 990 shillings remain. -/
theorem rent_with_fee_unbalanced :
    ¬ ∀ (db db' : Db) (labels : List (Env × TransferRequest)),
      Run sameCurrencyTransfer db labels db' → (∀ label ∈ labels, 0 ≤ label.2.fee) →
      (∀ id, db.transactions.size ≤ id → ∀ currency,
          debitsUnder db' id currency = creditsUnder db' id currency) ∧
        ∀ currency, holdings db' currency = holdings db currency := by
  intro claim
  have step := rent_step (some 10) (by decide +kernel)
  have hholdings := (claim _ _ _ (.single step) (by decide +kernel)).2 "UGX"
  exact absurd hholdings (by decide +kernel)

end Afcon360.Wallet
