import Afcon360.Wallet.Solvency

/-!
# Spending ceilings

Every withdrawal and transfer adds its own amount to the debits of the last day and of
the last thirty days and compares the sums with `max_daily_amount` and
`max_monthly_amount`. Whatever the order of the times, the last call of a window saw all
earlier debits of that window, so the checks bound every window.

The fee of a transfer is a second debit that neither check adds. `FeeCounted` is the
condition under which the ceilings hold all the same.
-/

namespace Afcon360.Wallet

open Foundation

/-- The ceilings of a `WalletSystemConfig` that sets both. -/
structure Ceilings where
  daily : ℚ
  monthly : ℚ

/-- The call meets this configuration. -/
def Ceilings.Configured (ceilings : Ceilings) (env : Env) : Prop :=
  env.config.maxDailyAmount = some ceilings.daily ∧
    env.config.maxMonthlyAmount = some ceilings.monthly

/-- The debits of an account in a currency, from `start` to `stop` inclusive. -/
def debitsDuring (entries : List LedgerEntry) (accountId : AccountId) (currency : Currency)
    (start stop : Timestamp) : ℤ :=
  Db.sumWhere entries (fun e => e.accountId = accountId ∧ e.currency = currency ∧
    e.entryType = .debit ∧ start ≤ e.createdAt ∧ e.createdAt ≤ stop)

/-- In no window of this length are the debits above the limit. A limit below zero
lets nothing through. -/
def WithinLimit (entries : List LedgerEntry) (length : Timestamp) (limit : ℚ) : Prop :=
  ∀ accountId currency start,
    gridValue microsPerUnit (debitsDuring entries accountId currency start (start + length)) ≤
      max 0 limit

/-- Both ceilings hold for these entries. -/
def Ceilings.Hold (ceilings : Ceilings) (entries : List LedgerEntry) : Prop :=
  WithinLimit entries microsPerDay ceilings.daily ∧
    WithinLimit entries (30 * microsPerDay) ceilings.monthly

/-- A positive fee is stored with six decimals. -/
def TransferRequest.storedFee (request : TransferRequest) : ℚ :=
  gridValue microsPerUnit (roundHalfUp microsPerUnit request.fee)

/-- The fee of a transfer, with the debit if that is in the same currency, is within
the ceilings too. -/
def FeeCounted (ceilings : Ceilings) (db : Db) : Env × WalletCall → Prop
  | (env, .transfer request) => 0 < request.fee → ∀ parties legs,
      transferOpening env db request = .ok parties → transferLegs env request parties = .ok legs →
      let spent := request.storedFee +
        if request.feeCurrencyOr = legs.debitCurrency then legs.debitAmount else 0
      db.getDailyVolume env.now parties.sender.id request.feeCurrencyOr + spent ≤ ceilings.daily ∧
        db.getMonthlyVolume env.now parties.sender.id request.feeCurrencyOr + spent ≤
          ceilings.monthly
  | _ => True

/-- The calls of a run: one configuration, and fees that are counted. -/
def Metered (ceilings : Ceilings) (db : Db) (label : Env × WalletCall) : Prop :=
  ceilings.Configured label.1 ∧ FeeCounted ceilings db label

section

variable {db : Db} {env : Env} {entries batch : List LedgerEntry} {now length : Timestamp}
  {limit : ℚ}

variable {ceilings : Ceilings} {old : List LedgerEntry}

/-! ## Sums of entries -/

theorem sumWhere_append (left right : List LedgerEntry) (cond : LedgerEntry → Bool) :
    Db.sumWhere (left ++ right) cond = Db.sumWhere left cond + Db.sumWhere right cond := by
  simp [Db.sumWhere]

theorem sumWhere_le {cond cond' : LedgerEntry → Bool} (h : ∀ e ∈ entries, cond e → cond' e) :
    Db.sumWhere entries cond ≤ Db.sumWhere entries cond' := by
  refine List.sum_le_sum ?_
  intro e he
  have hpos := e.amount.positive
  by_cases hcond : cond e
  · rw [if_pos hcond, if_pos (h e he hcond)]
  · rw [if_neg hcond]
    split <;> omega

theorem sumWhere_nonneg (cond : LedgerEntry → Bool) : 0 ≤ Db.sumWhere entries cond := by
  refine List.sum_nonneg ?_
  intro value hvalue
  obtain ⟨e, -, rfl⟩ := List.mem_map.mp hvalue
  have hpos := e.amount.positive
  split <;> omega

theorem storeAll?_createdAt {drafts : List Db.EntryDraft}
    (h : Db.storeAll? now drafts = some entries) : ∀ e ∈ entries, e.createdAt = now := by
  intro e he
  obtain ⟨draft, -, hstored⟩ := Db.storeAll?_mem h he
  unfold Db.EntryDraft.store? at hstored
  split at hstored
  · cases hstored
  · split at hstored
    · cases hstored
      rfl
    · cases hstored

/-! ## One window -/

/-- A batch of one moment is added to what was posted before it. The window that
contains the moment reaches back no further than the sum of the check. -/
theorem WithinLimit.append (within : WithinLimit entries length limit)
    (hledger : db.ledger = old ++ entries) (moment : ∀ e ∈ batch, e.createdAt = now)
    (checked : ∀ accountId currency,
      let debits := Db.sumWhere batch (fun e =>
        e.accountId = accountId ∧ e.currency = currency ∧ e.entryType = .debit)
      debits = 0 ∨ db.debitVolume accountId currency (now - length) +
        gridValue microsPerUnit debits ≤ limit) :
    WithinLimit (entries ++ batch) length limit := by
  intro accountId currency start
  have hbefore := within accountId currency start
  have hsplit : debitsDuring (entries ++ batch) accountId currency start (start + length) =
      debitsDuring entries accountId currency start (start + length) +
        debitsDuring batch accountId currency start (start + length) := sumWhere_append _ _ _
  have hbatch : debitsDuring batch accountId currency start (start + length) ≤
      Db.sumWhere batch (fun e =>
        e.accountId = accountId ∧ e.currency = currency ∧ e.entryType = .debit) := by
    apply sumWhere_le
    intro e _ h
    simp only [decide_eq_true_eq] at *
    exact ⟨h.1, h.2.1, h.2.2.1⟩
  rw [hsplit]
  by_cases hinside : start ≤ now ∧ now ≤ start + length
  · obtain hzero | hvolume := checked accountId currency
    · have hnone : debitsDuring batch accountId currency start (start + length) = 0 :=
        le_antisymm (hzero ▸ hbatch) (sumWhere_nonneg _)
      rw [hnone, add_zero]
      exact hbefore
    · have hseen : debitsDuring entries accountId currency start (start + length) ≤
          Db.sumWhere db.ledger (fun e => e.accountId = accountId ∧ e.currency = currency ∧
            e.entryType = .debit ∧ now - length ≤ e.createdAt) := by
        rw [hledger, sumWhere_append]
        refine le_trans (sumWhere_le ?_) (le_add_of_nonneg_left (sumWhere_nonneg _))
        intro e _ h
        simp only [decide_eq_true_eq] at *
        exact ⟨h.1, h.2.1, h.2.2.1, le_trans (sub_le_iff_le_add.mpr hinside.2) h.2.2.2.1⟩
      refine le_trans ?_ (le_max_of_le_right hvolume)
      rw [Db.debitVolume, ← gridValue_add, gridValue_le_iff (by decide),
        gridValue_mul (by decide)]
      exact_mod_cast add_le_add hseen hbatch
  · have hnone : debitsDuring batch accountId currency start (start + length) = 0 := by
      have hfalse : debitsDuring batch accountId currency start (start + length) ≤
          Db.sumWhere batch (fun _ => false) := by
        apply sumWhere_le
        intro e he h
        simp only [decide_eq_true_eq, moment e he] at h
        exact absurd ⟨h.2.2.2.1, h.2.2.2.2⟩ hinside
      refine le_antisymm (le_trans hfalse ?_) (sumWhere_nonneg _)
      simp [Db.sumWhere]
    rw [hnone, add_zero]
    exact hbefore

/-! ## What the checks saw -/

theorem checkDailyLimit_ok (configured : ceilings.Configured env)
    {accountId : AccountId} {amount : ℚ} {currency : Currency}
    (h : checkDailyLimit env db accountId amount currency = .ok ()) :
    db.getDailyVolume env.now accountId currency + amount ≤ ceilings.daily := by
  rw [checkDailyLimit, require_eq_ok, dailyLimit, configured.1] at h
  exact h

theorem checkMonthlyLimit_ok (configured : ceilings.Configured env)
    {accountId : AccountId} {amount : ℚ} {currency : Currency}
    (h : checkMonthlyLimit env db accountId amount currency = .ok ()) :
    db.getMonthlyVolume env.now accountId currency + amount ≤ ceilings.monthly := by
  simp only [checkMonthlyLimit, monthlyLimit, configured.2, require_eq_ok] at h
  exact h

theorem stored_hundredths (steps : ℤ) :
    gridValue microsPerUnit (roundHalfUp microsPerUnit (gridValue moneyQuant steps)) =
      gridValue moneyQuant steps := by
  have hstored : roundHalfUp microsPerUnit (gridValue moneyQuant steps) = steps * 10000 :=
    roundHalfUp_coarse (n := moneyQuant) 10000 (by decide)
  rw [hstored]
  simp only [gridValue, microsPerUnit, moneyQuant]
  push_cast
  ring

/-- The checks of a withdrawal speak about its entry. -/
theorem withdraw_checked (configured : ceilings.Configured env)
    {request : WithdrawRequest} {opening : Opening}
    (h : withdrawOpening env db request = .ok opening) :
    (∃ steps, opening.amount = gridValue moneyQuant steps) ∧
      db.getDailyVolume env.now opening.account.id opening.currency + opening.amount ≤
        ceilings.daily ∧
      db.getMonthlyVolume env.now opening.account.id opening.currency + opening.amount ≤
        ceilings.monthly := by
  simp only [withdrawOpening, check_bind_eq_ok, require_eq_ok] at h
  obtain ⟨-, -, -, h⟩ := h
  obtain ⟨account, -, h⟩ := bind_eq_ok.mp h
  simp only [check_bind_eq_ok, pure_eq_ok] at h
  obtain ⟨-, -, -, -, -, hdaily, hmonthly, rfl⟩ := h
  exact ⟨⟨_, rfl⟩, checkDailyLimit_ok configured hdaily, checkMonthlyLimit_ok configured hmonthly⟩

/-- The checks of a transfer speak about its debit. -/
theorem transfer_checked (configured : ceilings.Configured env)
    {request : TransferRequest} {parties : Parties} {legs : Legs}
    (h : transferChecks env db request parties = .ok legs) :
    db.getDailyVolume env.now parties.sender.id legs.debitCurrency + legs.debitAmount ≤
        ceilings.daily ∧
      db.getMonthlyVolume env.now parties.sender.id legs.debitCurrency + legs.debitAmount ≤
        ceilings.monthly := by
  simp only [transferChecks, check_bind_eq_ok] at h
  obtain ⟨-, -, -, -, -, h⟩ := h
  obtain ⟨found, -, h⟩ := bind_eq_ok.mp h
  simp only [check_bind_eq_ok, pure_eq_ok] at h
  obtain ⟨-, hdaily, hmonthly, rfl⟩ := h
  exact ⟨checkDailyLimit_ok configured hdaily, checkMonthlyLimit_ok configured hmonthly⟩

/-- A batch of drafts is within a limit if its debits on each account fit on top of
the volume. -/
def DraftsFit (db : Db) (drafts : List Db.EntryDraft) (since : Timestamp) (limit : ℚ) : Prop :=
  ∀ accountId currency, draftDebits drafts accountId currency = 0 ∨
    db.debitVolume accountId currency since +
      gridValue microsPerUnit (draftDebits drafts accountId currency) ≤ limit

/-- A deposit debits nothing, a withdrawal what it checked. -/
theorem cash_fits (configured : ceilings.Configured env)
    {request : CashRequest} {opening : Opening} (h : request.opening env db = .ok opening)
    (id : TransactionId) :
    DraftsFit db [opening.draft request.entryType id] (env.now - microsPerDay) ceilings.daily ∧
      DraftsFit db [opening.draft request.entryType id] (env.now - 30 * microsPerDay)
        ceilings.monthly := by
  cases request with
  | deposit request =>
    constructor
    · intro accountId currency
      exact .inl (by simp [draftDebits, Opening.draft, CashRequest.entryType])
    · intro accountId currency
      exact .inl (by simp [draftDebits, Opening.draft, CashRequest.entryType])
  | withdraw request =>
    obtain ⟨⟨steps, hsteps⟩, hdaily, hmonthly⟩ := withdraw_checked configured h
    have hdebits : ∀ accountId currency,
        draftDebits [opening.draft .debit id] accountId currency = 0 ∨
          (opening.account.id = accountId ∧ opening.currency = currency ∧
            gridValue microsPerUnit (draftDebits [opening.draft .debit id] accountId currency) =
              opening.amount) := by
      intro accountId currency
      by_cases hsame : opening.account.id = accountId ∧ opening.currency = currency
      · refine .inr ⟨hsame.1, hsame.2, ?_⟩
        have hone : draftDebits [opening.draft .debit id] accountId currency =
            roundHalfUp microsPerUnit opening.amount := by
          simp [draftDebits, Opening.draft, hsame]
        rw [hone, hsteps, stored_hundredths]
      · exact .inl (by simpa [draftDebits, Opening.draft] using fun h h' => absurd ⟨h, h'⟩ hsame)
    constructor
    · intro accountId currency
      obtain hzero | ⟨rfl, rfl, hamount⟩ := hdebits accountId currency
      · exact .inl hzero
      · exact .inr (hamount ▸ hdaily)
    · intro accountId currency
      obtain hzero | ⟨rfl, rfl, hamount⟩ := hdebits accountId currency
      · exact .inl hzero
      · exact .inr (hamount ▸ hmonthly)

/-- The debit of a transfer fits by its check, the fee by the condition. -/
theorem transfer_fits {request : TransferRequest} {parties : Parties} {legs : Legs}
    {since : Timestamp} (hlegs : transferLegs env request parties = .ok legs)
    (debit : db.debitVolume parties.sender.id legs.debitCurrency since + legs.debitAmount ≤ limit)
    (fee : 0 < request.fee → db.debitVolume parties.sender.id request.feeCurrencyOr since +
      (request.storedFee + if request.feeCurrencyOr = legs.debitCurrency then legs.debitAmount
        else 0) ≤ limit) (id : TransactionId) :
    DraftsFit db (transferDrafts request parties legs id) since limit := by
  intro accountId currency
  obtain ⟨-, -, steps, hsteps⟩ := transferLegs_ok hlegs
  rw [draftDebits_transfer]
  by_cases haccount : parties.sender.id = accountId
  · subst haccount
    by_cases hfee : 0 < request.fee ∧ request.feeCurrencyOr = currency
    · obtain ⟨hpositive, rfl⟩ := hfee
      have hcounted := fee hpositive
      rw [TransferRequest.storedFee] at hcounted
      refine .inr ?_
      by_cases hsame : request.feeCurrencyOr = legs.debitCurrency
      · simp only [hsame, hpositive, and_self, if_true] at hcounted ⊢
        rw [gridValue_add, hsteps, stored_hundredths, ← hsteps]
        linarith
      · simp only [hsame, Ne.symm hsame, hpositive, and_self, and_false, if_true, if_false,
          zero_add, add_zero] at hcounted ⊢
        exact hcounted
    · have hnone : ¬ (0 < request.fee ∧ parties.sender.id = parties.sender.id ∧
          request.feeCurrencyOr = currency) := fun h => hfee ⟨h.1, h.2.2⟩
      rw [if_neg hnone, add_zero]
      by_cases hsame : legs.debitCurrency = currency
      · subst hsame
        refine .inr ?_
        rw [if_pos ⟨rfl, rfl⟩, hsteps, stored_hundredths, ← hsteps]
        exact debit
      · exact .inl (if_neg (fun h => hsame h.2))
  · exact .inl (by simp [haccount])

/-! ## Runs -/

/-- A posting whose drafts fit keeps both ceilings. -/
theorem Posted.ceilings_hold {row : Transaction}
    {drafts : TransactionId → List Db.EntryDraft} {booking : Booking}
    (posted : Posted db now row drafts booking) (hledger : db.ledger = old ++ entries)
    (hold : ceilings.Hold entries)
    (daily : DraftsFit db (drafts booking.id) (now - microsPerDay) ceilings.daily)
    (monthly : DraftsFit db (drafts booking.id) (now - 30 * microsPerDay) ceilings.monthly) :
    ∃ later, booking.db.ledger = old ++ later ∧ ceilings.Hold later := by
  obtain ⟨batch, hbatch, hposted⟩ := posted.ledger
  refine ⟨entries ++ batch, ?_, ?_, ?_⟩
  · rw [hposted, hledger, List.append_assoc]
  · refine hold.1.append hledger (storeAll?_createdAt hbatch) ?_
    intro accountId currency
    rw [sumWhere_debits_stored accountId currency hbatch]
    exact daily accountId currency
  · refine hold.2.append hledger (storeAll?_createdAt hbatch) ?_
    intro accountId currency
    rw [sumWhere_debits_stored accountId currency hbatch]
    exact monthly accountId currency

theorem effect_ceilings_hold {call : WalletCall}
    (metered : Metered ceilings db (env, call)) (hledger : db.ledger = old ++ entries)
    (hold : ceilings.Hold entries) :
    ∃ later, (call.effect env db).ledger = old ++ later ∧ ceilings.Hold later := by
  obtain ⟨configured, counted⟩ := metered
  rcases effect_cases env db call with
    ⟨hsame, -⟩ | ⟨request, opening, key, row, booking, rfl, h, heffect⟩ |
    ⟨request, parties, legs, row, booking, rfl, h, heffect⟩
  · exact ⟨entries, hsame.trans hledger, hold⟩
  · rw [heffect]
    have hfits := cash_fits configured h.opening_ok booking.id
    exact h.posted.ceilings_hold hledger hold hfits.1 hfits.2
  · rw [heffect]
    have hlegs := (transferChecks_ok h.checks_ok).1
    have hchecked := transfer_checked configured h.checks_ok
    have hfee : 0 < request.fee → _ := fun hpositive =>
      counted hpositive parties legs h.opening_ok hlegs
    exact h.posted.ceilings_hold hledger hold
      (transfer_fits hlegs hchecked.1 (fun hpositive => (hfee hpositive).1) booking.id)
      (transfer_fits hlegs hchecked.2 (fun hpositive => (hfee hpositive).2) booking.id)

/-- Over every run of metered calls, whatever was posted before it, the debits of the
run in any window are within the ceilings. -/
theorem spending_within_ceilings {ceilings : Ceilings} {db' : Db}
    {labels : List (Env × WalletCall)}
    (run : Run (Guarded (Metered ceilings) walletStep) db labels db') :
    ceilings.Hold (db'.ledger.drop db.ledger.length) := by
  have hstart : ceilings.Hold [] := by
    constructor
    · intro accountId currency start
      simp [debitsDuring, Db.sumWhere, gridValue]
    · intro accountId currency start
      simp [debitsDuring, Db.sumWhere, gridValue]
  have hend : ∃ later, db'.ledger = db.ledger ++ later ∧ ceilings.Hold later := by
    refine run.invariant
      (fun d => ∃ later, d.ledger = db.ledger ++ later ∧ ceilings.Hold later) ?_
      ⟨[], (List.append_nil _).symm, hstart⟩
    rintro d ⟨env, call⟩ d' ⟨later, hledger, hold⟩ ⟨metered, rfl⟩
    exact effect_ceilings_hold metered hledger hold
  obtain ⟨later, hledger, hold⟩ := hend
  rw [hledger, List.drop_left]
  exact hold

end

/-- A transfer of 100 shillings with a fee of 10, under a daily ceiling. -/
def payUnder (daily : ℚ) : Env × WalletCall :=
  ({ Env.lenient 1 ⟨7, false⟩ with
      config := { maxDailyAmount := some daily, maxMonthlyAmount := some 1000 } },
    .transfer (rent (some 10) none))

/-- With a ceiling of 110 debit and fee are both counted. -/
theorem fee_within_ceilings :
    Ceilings.Hold ⟨110, 1000⟩ ((walletRun twoWallets [fundFirst, payUnder 110]).ledger.drop
      (walletRun twoWallets [fundFirst]).ledger.length) := by
  have counted : FeeCounted ⟨110, 1000⟩ (walletRun twoWallets [fundFirst]) (payUnder 110) := by
    intro _ parties legs hopening hlegs
    obtain ⟨-, -, hsender, hrecipient⟩ := transferOpening_ok hopening
    have hid : parties.sender.id = 1 := Db.accountById_id hsender
    have hhome := Db.currency_of_accountById (c := "UGX") (by decide +kernel) hsender
    have habroad := Db.currency_of_accountById (c := "UGX") (by decide +kernel) hrecipient
    simp only [transferLegs, hhome, habroad, if_true] at hlegs
    obtain rfl := Except.ok.inj hlegs
    rw [hid]
    decide +kernel
  have run : Run (Guarded (Metered ⟨110, 1000⟩) walletStep) (walletRun twoWallets [fundFirst])
      [payUnder 110] (walletRun twoWallets [fundFirst, payUnder 110]) :=
    .cons ⟨⟨⟨rfl, rfl⟩, counted⟩, rfl⟩ (.nil _)
  exact spending_within_ceilings run

/-- With a ceiling of 100 the debit alone exhausts it, and the fee is taken on top. -/
theorem fee_above_ceiling :
    ¬ ∀ (ceilings : Ceilings) (db db' : Db) (labels : List (Env × WalletCall)),
      Run (Guarded (fun _ label => ceilings.Configured label.1) walletStep) db labels db' →
        ceilings.Hold (db'.ledger.drop db.ledger.length) := by
  intro claim
  have run : Run (Guarded (fun _ label => Ceilings.Configured ⟨100, 1000⟩ label.1) walletStep)
      (walletRun twoWallets [fundFirst]) [payUnder 100]
      (walletRun twoWallets [fundFirst, payUnder 100]) :=
    .cons ⟨⟨rfl, rfl⟩, rfl⟩ (.nil _)
  have hwindow := (claim _ _ _ _ run).1 1 "UGX" 0
  revert hwindow
  decide +kernel

end Afcon360.Wallet
