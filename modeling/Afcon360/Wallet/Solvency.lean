import Afcon360.Wallet.System

/-!
# Balances stay non-negative

A withdrawal compares its amount with the balance it debits. A transfer compares
the sum of debit and platform fee with the balance in the debit currency, but
posts the fee in `fee_currency or currency`, and it adds a negative fee to the
sum although nothing is credited for it. `FeeCovered` is the condition on a
transfer under which the comparison speaks about the entries that are posted.
-/

namespace Afcon360.Wallet

open Foundation

/-- What a call debited from an account in a currency. -/
def debited (db db' : Db) (accountId : AccountId) (currency : Currency) : ℚ :=
  gridValue microsPerUnit (Db.sumWhere (db'.ledger.drop db.ledger.length) (fun e =>
    e.accountId = accountId ∧ e.currency = currency ∧ e.entryType = .debit))

/-- The fee of a transfer is not negative, and a positive fee is taken in the
currency of the sender's account or is covered by the sender's balance in its own
currency. -/
def FeeCovered (db : Db) : Env × WalletCall → Prop
  | (_, .transfer request) => 0 ≤ request.fee ∧ (0 < request.fee →
      ∀ sender, db.accountById request.fromAccountId = some sender →
        request.feeCurrencyOr = sender.currency ∨
          request.fee ≤ db.getBalance sender.id request.feeCurrencyOr)
  | _ => True

section

variable {now : Timestamp} {drafts : List Db.EntryDraft} {entries : List LedgerEntry}
  (accountId : AccountId) (currency : Currency)

/-- The debits of a batch of drafts on an account in a currency, once stored. -/
def draftDebits (drafts : List Db.EntryDraft) (accountId : AccountId) (currency : Currency) : ℤ :=
  (drafts.map (fun d =>
    if d.accountId = accountId ∧ d.currency = currency ∧ d.entryType = .debit then
      roundHalfUp microsPerUnit d.amount
    else 0)).sum

theorem sumWhere_debits_stored (h : Db.storeAll? now drafts = some entries) :
    Db.sumWhere entries (fun e =>
      e.accountId = accountId ∧ e.currency = currency ∧ e.entryType = .debit) =
      draftDebits drafts accountId currency := by
  have matched := Db.storeAll?_forall₂ h
  clear h
  induction matched with
  | nil => rfl
  | cons hentry _ ih =>
    obtain ⟨-, -, htype, haccount, hcurrency, hmicros⟩ := Db.store?_eq_some hentry
    simp only [Db.sumWhere, draftDebits, List.map_cons, List.sum_cons, decide_eq_true_eq] at ih ⊢
    rw [ih, htype, haccount, hcurrency, hmicros]

/-- A batch takes no more from a balance than its debits. -/
theorem neg_debits_le_balance (entries : List LedgerEntry) :
    -Db.sumWhere entries (fun e =>
      e.accountId = accountId ∧ e.currency = currency ∧ e.entryType = .debit) ≤
      Posting.balance (entries.map LedgerEntry.posting) accountId currency := by
  induction entries with
  | nil => simp [Db.sumWhere]
  | cons entry rest ih =>
    have hpos := entry.amount.positive
    have kinds : entry.entryType = .debit ∨ entry.entryType = .credit := by
      cases entry.entryType <;> simp
    simp only [Db.sumWhere, List.map_cons, List.sum_cons, Posting.balance_cons,
      LedgerEntry.posting, LedgerEntry.signed, decide_eq_true_eq] at ih ⊢
    by_cases hc : entry.accountId = accountId ∧ entry.currency = currency
    · obtain hkind | hkind := kinds
      · simp only [hc, hkind, and_self, if_true]
        omega
      · simp only [hc, hkind, and_self, if_true, reduceCtorEq, and_false, if_false]
        omega
    · have hd : ¬ (entry.accountId = accountId ∧ entry.currency = currency ∧
          entry.entryType = .debit) := fun h => hc ⟨h.1, h.2.1⟩
      simp only [hc, hd, if_false]
      omega

end

section

variable {db : Db} {env : Env} {accountId : AccountId} {currency : Currency}

variable {request : TransferRequest} {row : Transaction} {booking : Booking} {parties : Parties}
  {legs : Legs}

private theorem micros_pos : 0 < microsPerUnit := by decide

/-- A posting whose debits the balance covers leaves it non-negative. -/
theorem posted_solvent {now : Timestamp} {drafts : TransactionId → List Db.EntryDraft}
    (posted : Posted db now row drafts booking)
    (covered : draftDebits (drafts booking.id) accountId currency ≤
      db.balanceMicros accountId currency) :
    0 ≤ booking.db.getBalance accountId currency ∧
      debited db booking.db accountId currency ≤ db.getBalance accountId currency := by
  obtain ⟨entries, hentries, hledger⟩ := posted.ledger
  have hdebits := sumWhere_debits_stored accountId currency hentries
  have htaken := neg_debits_le_balance accountId currency entries
  have hbalance := posted.balance accountId currency
  rw [Db.storeAll?_postings hentries] at htaken
  constructor
  · rw [Db.getBalance, gridValue_nonneg_iff micros_pos]
    omega
  · unfold debited Db.getBalance
    rw [hledger, List.drop_left, hdebits, gridValue_le_iff micros_pos, gridValue_mul micros_pos]
    exact_mod_cast covered

/-- The single entry of a deposit or a withdrawal is covered by its balance. -/
theorem cashPosted_covered {request : CashRequest} {opening : Opening} {key : String}
    (h : CashPosted env db request opening key row booking)
    (start : 0 ≤ db.balanceMicros accountId currency) :
    draftDebits [opening.draft request.entryType booking.id] accountId currency ≤
      db.balanceMicros accountId currency := by
  cases request with
  | deposit request => simpa [draftDebits, Opening.draft, CashRequest.entryType] using start
  | withdraw request =>
    obtain ⟨haccount, hamount, -, hbalance⟩ := withdrawOpening_ok h.opening_ok
    simp only [draftDebits, Opening.draft, CashRequest.entryType, List.map_cons, List.map_nil,
      List.sum_cons, List.sum_nil, and_true, add_zero]
    split
    · rename_i hsame
      rw [Db.getBalance, le_gridValue_iff micros_pos, hsame.1, hsame.2] at hbalance
      exact roundHalfUp_le hbalance
    · exact start

/-- The debits of a transfer on its sender: the debit leg, and the fee. -/
theorem draftDebits_transfer {id : TransactionId} :
    draftDebits (transferDrafts request parties legs id) accountId currency =
      (if parties.sender.id = accountId ∧ legs.debitCurrency = currency then
        roundHalfUp microsPerUnit legs.debitAmount else 0) +
      (if 0 < request.fee ∧ parties.sender.id = accountId ∧ request.feeCurrencyOr = currency then
        roundHalfUp microsPerUnit request.fee else 0) := by
  unfold transferDrafts
  by_cases hfee : 0 < request.fee
  · simp [draftDebits, hfee]
  · simp [draftDebits, hfee]

/-- The balance check of a transfer covers the debit and a fee in the same
currency together. -/
theorem debit_and_fee_covered (hchecks : transferChecks env db request parties = .ok legs) :
    roundHalfUp microsPerUnit legs.debitAmount + roundHalfUp microsPerUnit request.fee ≤
      db.balanceMicros parties.sender.id legs.debitCurrency := by
  obtain ⟨hlegs, hbalance⟩ := transferChecks_ok hchecks
  obtain ⟨-, -, steps, hsteps⟩ := transferLegs_ok hlegs
  -- The debit lies on the storage grid, so only the fee is rounded, and it is
  -- rounded below a grid point.
  have hdebit : legs.debitAmount * microsPerUnit = ((steps * 10000 : ℤ) : ℚ) := by
    rw [hsteps, show ((microsPerUnit : ℕ) : ℚ) = moneyQuant * 10000 by norm_num [microsPerUnit,
      moneyQuant], ← mul_assoc, gridValue_mul (by decide)]
    push_cast
    ring
  rw [Db.getBalance, le_gridValue_iff micros_pos, add_mul, hdebit] at hbalance
  have hrest : request.fee * microsPerUnit ≤
      ((db.balanceMicros parties.sender.id legs.debitCurrency - steps * 10000 : ℤ) : ℚ) := by
    push_cast at hbalance ⊢
    linarith
  have := roundHalfUp_le hrest
  rw [roundHalfUp_of_exact hdebit]
  omega

theorem transferPosted_covered (h : TransferPosted env db request parties legs row booking)
    (covered : FeeCovered db (env, .transfer request))
    (start : 0 ≤ db.balanceMicros accountId currency) :
    draftDebits (transferDrafts request parties legs booking.id) accountId currency ≤
      db.balanceMicros accountId currency := by
  obtain ⟨hfee, hcurrency⟩ := covered
  have hboth := debit_and_fee_covered h.checks_ok
  have hfeeRounded : 0 ≤ roundHalfUp microsPerUnit request.fee :=
    le_roundHalfUp (by push_cast; positivity)
  obtain ⟨-, -, hsender, -⟩ := transferOpening_ok h.opening_ok
  have hdebitCurrency := (transferLegs_ok (transferChecks_ok h.checks_ok).1).1
  rw [draftDebits_transfer]
  by_cases haccount : parties.sender.id = accountId
  · by_cases hdebit : legs.debitCurrency = currency
    · rw [haccount, hdebit] at hboth
      simp only [haccount, hdebit, true_and, and_self, if_true]
      split <;> omega
    · simp only [haccount, hdebit, and_false, if_false, true_and, zero_add]
      split
      · rename_i hposted
        obtain hsame | hown := hcurrency hposted.1 parties.sender hsender
        · exact absurd (hdebitCurrency.trans (hsame.symm.trans hposted.2)) hdebit
        · rw [Db.getBalance, le_gridValue_iff micros_pos, haccount, hposted.2] at hown
          exact roundHalfUp_le hown
      · exact start
  · simpa [haccount] using start

/-- One call under `FeeCovered` debits no more than the balance it meets. -/
theorem effect_solvent {call : WalletCall} (covered : FeeCovered db (env, call))
    (start : 0 ≤ db.getBalance accountId currency) :
    0 ≤ (call.effect env db).getBalance accountId currency ∧
      debited db (call.effect env db) accountId currency ≤ db.getBalance accountId currency := by
  have hmicros : 0 ≤ db.balanceMicros accountId currency :=
    (gridValue_nonneg_iff micros_pos).mp start
  rcases effect_cases env db call with
    ⟨hledger, -⟩ | ⟨request, opening, key, row, booking, rfl, h, heffect⟩ |
    ⟨request, parties, legs, row, booking, rfl, h, heffect⟩
  · constructor
    · simpa only [Db.getBalance, Db.balanceMicros, hledger] using start
    · simpa [debited, hledger, Db.sumWhere, gridValue] using start
  · rw [heffect]
    exact posted_solvent h.posted (cashPosted_covered h hmicros)
  · rw [heffect]
    exact posted_solvent h.posted (transferPosted_covered h covered hmicros)

/-- In a run whose transfers all have a covered fee, a balance that starts
non-negative stays so, and no call debits more than the balance its check saw. -/
theorem covered_runs_keep_balances_nonneg {db' : Db} {labels : List (Env × WalletCall)}
    (run : Run (Guarded FeeCovered walletStep) db labels db')
    (start : 0 ≤ db.getBalance accountId currency) :
    0 ≤ db'.getBalance accountId currency ∧
      ∀ env call, FeeCovered db' (env, call) →
        debited db' (call.effect env db') accountId currency ≤
          db'.getBalance accountId currency := by
  have reached : 0 ≤ db'.getBalance accountId currency := by
    refine run.invariant (fun d => 0 ≤ d.getBalance accountId currency) ?_ start
    rintro d label d' hnonneg ⟨covered, rfl⟩
    exact (effect_solvent covered hnonneg).1
  exact ⟨reached, fun env call covered => (effect_solvent covered reached).2⟩

end

/-- A transfer of 100 shillings to the second wallet with a fee of 10. -/
def payWithFee (feeCurrency : Currency) : Env × WalletCall :=
  (Env.lenient 1 ⟨7, false⟩, .transfer (rent (some 10) (some feeCurrency)))

/-- A fee in the wallet's own currency is covered: 890 remain of 1000. -/
theorem shilling_fee_keeps_balances :
    (walletRun twoWallets [fundFirst, payWithFee "UGX"]).getBalance 1 "UGX" = 890 ∧
      0 ≤ (walletRun twoWallets [fundFirst, payWithFee "UGX"]).getBalance 1 "UGX" := by
  have covered : FeeCovered (walletRun twoWallets [fundFirst]) (payWithFee "UGX") := by
    refine ⟨by decide +kernel, fun _ sender hsender => .inl ?_⟩
    exact (Db.currency_of_accountById (c := "UGX") (by decide +kernel) hsender).symm
  have funded : Guarded FeeCovered walletStep twoWallets fundFirst
      (walletRun twoWallets [fundFirst]) := ⟨trivial, rfl⟩
  have run : Run (Guarded FeeCovered walletStep) twoWallets [fundFirst, payWithFee "UGX"]
      (walletRun twoWallets [fundFirst, payWithFee "UGX"]) :=
    .cons funded (.cons ⟨covered, rfl⟩ (.nil _))
  exact ⟨by decide +kernel, (covered_runs_keep_balances_nonneg run (by decide +kernel)).1⟩

/-- A fee in dollars is taken from a wallet that holds no dollars. -/
theorem dollar_fee_overdraws :
    ¬ ∀ (db db' : Db) (labels : List (Env × WalletCall)) (accountId : AccountId)
        (currency : Currency), Run walletStep db labels db' →
      0 ≤ db.getBalance accountId currency → 0 ≤ db'.getBalance accountId currency := by
  intro claim
  have hend := claim twoWallets _ _ 1 "USD" (run_walletRun _ [fundFirst, payWithFee "USD"])
    (by decide +kernel)
  exact absurd hend (by decide +kernel)

end Afcon360.Wallet
