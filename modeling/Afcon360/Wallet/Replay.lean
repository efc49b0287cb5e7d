import Afcon360.Wallet.System

/-!
# Replays of deposits and withdrawals

Both operations consult the idempotency key last: a repeated call first passes
every check of a new one, and then any completed row under the key answers it,
whichever request recorded it. So a replay is answered, and a reused key goes
through, exactly when the checks pass. `Admitted` spells these checks out.
-/

namespace Afcon360.Wallet

open Foundation

/-! ## The checks before the lookup -/

/-- The caller may operate on the account. -/
def MayOperate (env : Env) (exempt : Bool) (account : Account) : Prop :=
  exempt = true ∨ ∃ user, env.currentUser = some user ∧
    (account.userId = some user.id ∨ user.isAdmin = true)

/-- KYC, fraud, daily and monthly limits let an amount pass. -/
structure WithinLimits (env : Env) (db : Db) (action : KycAction) (opening : Opening) : Prop where
  kyc : checkKycLimits env db opening.account.userId opening.amount action opening.currency none
    opening.account.id = .ok ()
  fraud : env.fraudBlocks opening.account.userId opening.amount opening.currency none = false
  daily : db.getDailyVolume env.now opening.account.id opening.currency + opening.amount ≤
    dailyLimit env opening.currency
  monthly : ∀ limit, monthlyLimit env db opening.account.id = some limit →
    db.getMonthlyVolume env.now opening.account.id opening.currency + opening.amount ≤ limit

/-- The amount and currency a deposit posts: as requested on an account of that
currency, else converted. -/
def DepositConverts (env : Env) (amount : ℚ) (currency : Currency) (opening : Opening) : Prop :=
  (opening.account.currency = currency ∧ opening.amount = amount ∧ opening.currency = currency) ∨
    (opening.account.currency ≠ currency ∧ opening.currency = opening.account.currency ∧
      ∃ rate, env.fxRate currency opening.account.currency = some rate ∧
        opening.amount = quantizeHalfEven (amount * rate))

/-- Every check `deposit` makes before it looks at the key passes. -/
def DepositAdmitted (env : Env) (db : Db) (request : DepositRequest) (opening : Opening) : Prop :=
  ∃ accountId amount currency, resolveDepositAccount db request = .ok accountId ∧
    request.amount = some amount ∧ request.currency = some currency ∧
    0 < quantize amount ∧ currency.toUpper ∈ env.supportedCurrencies ∧
    quantize amount ≤ env.walletMax .deposit ∧
    db.accountById accountId = some opening.account ∧
    MayOperate env request.systemInitiated opening.account ∧
    opening.account.isFrozen = false ∧
    DepositConverts env (quantize amount) currency opening ∧
    WithinLimits env db .deposit opening

/-- Every check `withdraw` makes before it looks at the key passes. -/
def WithdrawAdmitted (env : Env) (db : Db) (request : WithdrawRequest) (opening : Opening) :
    Prop :=
  opening.amount = quantize request.amount ∧ opening.currency = request.currency ∧
    0 < opening.amount ∧ opening.currency.toUpper ∈ env.supportedCurrencies ∧
    opening.amount ≤ env.walletMax .withdraw ∧
    db.accountById request.accountId = some opening.account ∧
    MayOperate env (request.systemInitiated || request.agentOnBehalf) opening.account ∧
    opening.account.isFrozen = false ∧
    opening.amount ≤ db.getBalance opening.account.id opening.currency ∧
    WithinLimits env db .withdraw opening

/-- The row of the call fits its columns. -/
def Storable (key : String) (opening : Opening) : Prop :=
  (Amount.ofDecimal? opening.amount).isSome ∧ key.length ≤ 255 ∧ opening.currency.length ≤ 10

namespace CashRequest

/-- Every check of the operation before the lookup of the key passes. -/
def Admitted (env : Env) (db : Db) (key : String) (opening : Opening) : CashRequest → Prop
  | .deposit request => DepositAdmitted env db request opening ∧ Storable key opening
  | .withdraw request => WithdrawAdmitted env db request opening ∧ Storable key opening

end CashRequest

section

variable {env : Env} {db : Db} {account : Account} {opening : Opening}

theorem checkOwnership_eq_ok {exempt : Bool} {u : Unit} :
    checkOwnership env exempt account = .ok u ↔ MayOperate env exempt account := by
  unfold checkOwnership MayOperate
  split
  · simp
  · rename_i hnone
    simp [hnone]
  · rename_i user huser
    simp [huser]

theorem checkMonthlyLimit_eq_ok {accountId : AccountId} {amount : ℚ} {currency : Currency}
    {u : Unit} :
    checkMonthlyLimit env db accountId amount currency = .ok u ↔
      ∀ limit, monthlyLimit env db accountId = some limit →
        db.getMonthlyVolume env.now accountId currency + amount ≤ limit := by
  unfold checkMonthlyLimit
  split
  · rename_i hnone
    simp [hnone]
  · rename_i limit hlimit
    simp [hlimit]

theorem convertDeposit_eq_ok {amount : ℚ} {currency : Currency} :
    convertDeposit env opening.account amount currency = .ok (opening.amount, opening.currency) ↔
      DepositConverts env amount currency opening := by
  unfold convertDeposit DepositConverts
  split
  · rename_i hsame
    simp only [Except.ok.injEq, Prod.mk.injEq, hsame, true_and, ne_eq, not_true, false_and,
      or_false]
    exact ⟨fun ⟨ha, hc⟩ => ⟨ha.symm, hc.symm⟩, fun ⟨ha, hc⟩ => ⟨ha.symm, hc.symm⟩⟩
  · rename_i hdiff
    simp only [hdiff, false_and, ne_eq, not_false_eq_true, true_and, false_or]
    split
    · rename_i hnone
      simp [hnone]
    · rename_i rate hrate
      simp only [Except.ok.injEq, Prod.mk.injEq, hrate, Option.some.injEq, exists_eq_left']
      exact ⟨fun ⟨ha, hc⟩ => ⟨hc.symm, ha.symm⟩, fun ⟨hc, ha⟩ => ⟨ha.symm, hc.symm⟩⟩

/-- The four limit checks in sequence. -/
theorem withinLimits_iff {action : KycAction} :
    WithinLimits env db action opening ↔
      checkKycLimits env db opening.account.userId opening.amount action opening.currency none
          opening.account.id = .ok () ∧
        checkFraudRisk env opening.account.userId opening.amount opening.currency none = .ok () ∧
        checkDailyLimit env db opening.account.id opening.amount opening.currency = .ok () ∧
        checkMonthlyLimit env db opening.account.id opening.amount opening.currency = .ok () := by
  simp only [checkFraudRisk, checkDailyLimit, require_eq_ok, checkMonthlyLimit_eq_ok]
  exact ⟨fun h => ⟨h.kyc, h.fraud, h.daily, h.monthly⟩,
    fun ⟨hkyc, hfraud, hdaily, hmonthly⟩ => ⟨hkyc, hfraud, hdaily, hmonthly⟩⟩

theorem depositOpening_eq_ok {request : DepositRequest} :
    depositOpening env db request = .ok opening ↔ DepositAdmitted env db request opening := by
  unfold depositOpening DepositAdmitted
  rw [bind_eq_ok]
  constructor
  · rintro ⟨accountId, hresolve, h⟩
    split at h
    · rename_i amount currency hamount hcurrency
      simp only [check_bind_eq_ok, require_eq_ok, validateCurrency, checkTransactionLimit] at h
      obtain ⟨hpos, hsupported, hmax, h⟩ := h
      obtain ⟨account, haccount, h⟩ := bind_eq_ok.mp h
      simp only [check_bind_eq_ok, checkFrozen, require_eq_ok] at h
      obtain ⟨howner, hfrozen, h⟩ := h
      obtain ⟨converted, hconvert, h⟩ := bind_eq_ok.mp h
      simp only [check_bind_eq_ok, pure_eq_ok] at h
      obtain ⟨hkyc, hfraud, hdaily, hmonthly, rfl⟩ := h
      exact ⟨accountId, amount, currency, hresolve, hamount, hcurrency, hpos, hsupported, hmax,
        lockAccount_eq_ok.mp haccount, checkOwnership_eq_ok.mp howner, hfrozen,
        convertDeposit_eq_ok.mp hconvert, withinLimits_iff.mpr ⟨hkyc, hfraud, hdaily, hmonthly⟩⟩
    · cases h
  · rintro ⟨accountId, amount, currency, hresolve, hamount, hcurrency, hpos, hsupported, hmax,
      haccount, howner, hfrozen, hconvert, hlimits⟩
    obtain ⟨hkyc, hfraud, hdaily, hmonthly⟩ := withinLimits_iff.mp hlimits
    refine ⟨accountId, hresolve, ?_⟩
    rw [hamount, hcurrency]
    simp only [check_bind_eq_ok, require_eq_ok, validateCurrency, checkTransactionLimit]
    refine ⟨hpos, hsupported, hmax, bind_eq_ok.mpr ⟨_, lockAccount_eq_ok.mpr haccount, ?_⟩⟩
    simp only [check_bind_eq_ok, checkFrozen, require_eq_ok]
    refine ⟨checkOwnership_eq_ok.mpr howner, hfrozen,
      bind_eq_ok.mpr ⟨_, convertDeposit_eq_ok.mpr hconvert, ?_⟩⟩
    simp only [check_bind_eq_ok, pure_eq_ok]
    exact ⟨hkyc, hfraud, hdaily, hmonthly, trivial⟩

theorem withdrawOpening_eq_ok {request : WithdrawRequest} :
    withdrawOpening env db request = .ok opening ↔ WithdrawAdmitted env db request opening := by
  simp only [withdrawOpening, WithdrawAdmitted, check_bind_eq_ok, require_eq_ok, validateCurrency,
    checkTransactionLimit]
  constructor
  · rintro ⟨hpos, hsupported, hmax, h⟩
    obtain ⟨account, haccount, h⟩ := bind_eq_ok.mp h
    simp only [check_bind_eq_ok, checkFrozen, require_eq_ok, pure_eq_ok] at h
    obtain ⟨howner, hfrozen, hkyc, hfraud, hbalance, hdaily, hmonthly, rfl⟩ := h
    exact ⟨rfl, rfl, hpos, hsupported, hmax, lockAccount_eq_ok.mp haccount,
      checkOwnership_eq_ok.mp howner, hfrozen, hbalance,
      withinLimits_iff.mpr ⟨hkyc, hfraud, hdaily, hmonthly⟩⟩
  · rintro ⟨hamount, hcurrency, hpos, hsupported, hmax, haccount, howner, hfrozen, hbalance,
      hlimits⟩
    obtain ⟨hkyc, hfraud, hdaily, hmonthly⟩ := withinLimits_iff.mp hlimits
    rw [hamount] at hpos hmax hbalance hkyc hfraud hdaily hmonthly
    rw [hcurrency] at hsupported hbalance hkyc hfraud hdaily hmonthly
    refine ⟨hpos, hsupported, hmax, bind_eq_ok.mpr ⟨_, lockAccount_eq_ok.mpr haccount, ?_⟩⟩
    simp only [check_bind_eq_ok, checkFrozen, require_eq_ok, pure_eq_ok]
    refine ⟨checkOwnership_eq_ok.mpr howner, hfrozen, hkyc, hfraud, hbalance, hdaily, hmonthly, ?_⟩
    rw [← hamount, ← hcurrency]

end

namespace CashRequest

variable {env : Env} {db : Db} {request : CashRequest} {key : String} {opening : Opening}

theorem opening_and_row_iff :
    (request.opening env db = .ok opening ∧ ∃ row, request.row key opening = .ok row) ↔
      request.Admitted env db key opening := by
  have hrow : (∃ row, request.row key opening = .ok row) ↔ Storable key opening := by
    unfold row Db.draftTransaction Storable
    split
    · rename_i hnone
      simp [hnone]
    · rename_i stored hstored
      split
      · rename_i hfits
        simp [hstored, hfits]
      · rename_i hfits
        simp [hstored, hfits]
  rw [hrow]
  cases request with
  | deposit request => exact and_congr_left fun _ => depositOpening_eq_ok
  | withdraw request => exact and_congr_left fun _ => withdrawOpening_eq_ok

/-- A key recorded as completed answers every call that is admitted, and no
other. -/
theorem run_on_completed (env : Env) {id : TransactionId} {recorded : Transaction}
    (hkey : request.key = some key)
    (hrecorded : db.getByClientRequestId key = some (id, recorded))
    (hstatus : recorded.status = .completed) :
    (∀ opening, request.Admitted env db key opening → ∃ receipt,
      request.run env db = .ok (receipt, db) ∧ receipt.transactionId = id ∧
        receipt.alreadyProcessed = true ∧ receipt.amount = opening.amount ∧
        receipt.currency = opening.currency) ∧
    ((∀ opening, ¬ request.Admitted env db key opening) → ∃ e, request.run env db = .error e) := by
  constructor
  · intro opening hadmitted
    obtain ⟨hopening, row, hrow⟩ := opening_and_row_iff.mpr hadmitted
    have hrowKey : row.clientRequestId = key := (Db.draftTransaction_ok hrow).1
    have hbook : book db env.now row (fun id => [opening.draft request.entryType id]) =
        .ok ⟨id, recorded, false, db⟩ := book_completed (by rw [hrowKey]; exact hrecorded) hstatus
    exact run_of_booking hopening hkey hrow hbook
  · intro hrefused
    cases hrun : request.run env db with
    | error e => exact ⟨e, rfl⟩
    | ok result =>
      obtain ⟨opening, key', row, booking, hopening, hkey', hrow, -⟩ := run_ok hrun
      cases hkey.symm.trans hkey'
      exact absurd (opening_and_row_iff.mp ⟨hopening, row, hrow⟩) (hrefused opening)

/-- A call that succeeded has a completed row under its key. -/
theorem recorded_of_run {db' : Db} {receipt : CashReceipt}
    (h : request.run env db = .ok (receipt, db')) :
    ∃ key recorded, request.key = some key ∧ recorded.status = .completed ∧
      db'.getByClientRequestId key = some (receipt.transactionId, recorded) := by
  obtain ⟨opening, key, row, booking, -, hkey, hrow, hbook, rfl, hid, -⟩ := run_ok h
  obtain ⟨hrowKey, -, hpending, -⟩ := Db.draftTransaction_ok hrow
  rw [hid]
  obtain ⟨-, hdb, hstatus, hfound⟩ | ⟨-, posted⟩ := book_ok hpending hbook
  · exact ⟨key, booking.row, hkey, hstatus, by rw [hdb, ← hrowKey]; exact hfound⟩
  · exact ⟨key, booking.row.complete, hkey, rfl, by rw [← hrowKey]; exact posted.completed⟩

/-! ## Terms -/

end CashRequest

/-- What a caller asks for: the operation, the account, the amount after
rounding and the currency. -/
structure CashTerms where
  operation : Operation
  accountId : AccountId
  amount : ℚ
  currency : Currency
  deriving DecidableEq

namespace CashRequest

def terms (db : Db) : CashRequest → Option CashTerms
  | .deposit request =>
    match resolveDepositAccount db request, request.amount, request.currency with
    | .ok accountId, some amount, some currency =>
      some ⟨.deposit, accountId, quantize amount, currency⟩
    | _, _, _ => none
  | .withdraw request =>
    some ⟨.withdraw, request.accountId, quantize request.amount, request.currency⟩

/-- What a call owes to the recorded one: with the same terms it returns the
original success and changes nothing, with other terms it is rejected. -/
def ReplaySafe (env : Env) (db : Db) (later : CashRequest) (recordedTerms : Option CashTerms)
    (original : CashReceipt) : Prop :=
  (later.terms db = recordedTerms → ∃ receipt, later.run env db = .ok (receipt, db) ∧
    receipt.transactionId = original.transactionId ∧ receipt.alreadyProcessed = true ∧
    receipt.amount = original.amount ∧ receipt.currency = original.currency) ∧
  (later.terms db ≠ recordedTerms → ∃ e, later.run env db = .error e)

/-- With the same terms every check before the lookup passes, and a conversion
yields the original amount; with other terms one of the checks refuses. -/
def ChecksDecide (env : Env) (db : Db) (later : CashRequest) (key : String)
    (recordedTerms : Option CashTerms) (original : CashReceipt) : Prop :=
  (later.terms db = recordedTerms → ∃ opening, later.Admitted env db key opening ∧
    opening.amount = original.amount ∧ opening.currency = original.currency) ∧
  (later.terms db ≠ recordedTerms → ∀ opening, ¬ later.Admitted env db key opening)

/-- After a success under a key and any run of wallet calls, a later call with
that key meets its obligation exactly when the checks made before the lookup
happen to decide it so. A transfer under that key compares the recorded
operation and is rejected. -/
theorem replay_safe_iff_checks_decide {first later : CashRequest} {firstEnv env : Env}
    {before after db : Db} {original : CashReceipt} {labels : List (Env × WalletCall)}
    {key : String} (recorded : first.run firstEnv before = .ok (original, after))
    (run : Run walletStep after labels db) (hfirst : first.key = some key)
    (hlater : later.key = some key) :
    (ReplaySafe env db later (first.terms before) original ↔
      ChecksDecide env db later key (first.terms before) original) ∧
    ∀ request : TransferRequest, request.clientRequestId = key →
      (∀ id row, db.getByClientRequestId key = some (id, row) → row.txType ≠ .transfer) →
      ∃ e, transfer env db request = .error e := by
  obtain ⟨key', row, hkey', hstatus, hfound⟩ := recorded_of_run recorded
  obtain rfl := Option.some.inj (hfirst.symm.trans hkey')
  have hkept := run_keeps_completed run hfound hstatus
  obtain ⟨hanswer, hreject⟩ := run_on_completed env hlater hkept hstatus
  refine ⟨and_congr (imp_congr_right fun _ => ?_) (imp_congr_right fun _ => ?_), ?_⟩
  · constructor
    · rintro ⟨receipt, hrun, -, -, hamount, hcurrency⟩
      obtain ⟨opening, key'', row', booking, hopening, hkey'', hrow, -, -, -, -, hamount',
        hcurrency'⟩ := run_ok hrun
      obtain rfl := Option.some.inj (hlater.symm.trans hkey'')
      exact ⟨opening, opening_and_row_iff.mp ⟨hopening, row', hrow⟩, hamount'.symm.trans hamount,
        hcurrency'.symm.trans hcurrency⟩
    · rintro ⟨opening, hadmitted, hamount, hcurrency⟩
      obtain ⟨receipt, hrun, hid, hprocessed, hamount', hcurrency'⟩ := hanswer opening hadmitted
      exact ⟨receipt, hrun, hid, hprocessed, hamount'.trans hamount, hcurrency'.trans hcurrency⟩
  · constructor
    · rintro ⟨e, he⟩ opening hadmitted
      obtain ⟨receipt, hrun, -⟩ := hanswer opening hadmitted
      rw [he] at hrun
      cases hrun
    · exact hreject
  · rintro request rfl hother
    refine transfer_refused hkept fun parties _ hmatch => hother _ _ hkept ?_
    simp only [transferTermsMatch, decide_eq_true_eq] at hmatch
    exact hmatch.1

/-- The deposit of 1000 shillings, sent once more with nothing in between. -/
theorem top_up_replayed :
    ∃ original,
      (deposit topUp).run (Env.lenient 0 ⟨7, false⟩) twoWallets =
        .ok (original, walletRun twoWallets [fundFirst]) ∧
      ReplaySafe (Env.lenient 5 ⟨7, false⟩) (walletRun twoWallets [fundFirst]) (.deposit topUp)
        ((deposit topUp).terms twoWallets) original := by
  obtain ⟨original, horiginal⟩ := exists_receipt twoWallets
    ((deposit topUp).run (Env.lenient 0 ⟨7, false⟩) twoWallets) (by decide +kernel)
  obtain ⟨receipt, hreceipt⟩ := exists_receipt (walletRun twoWallets [fundFirst])
    ((deposit topUp).run (Env.lenient 5 ⟨7, false⟩) (walletRun twoWallets [fundFirst]))
    (by decide +kernel)
  obtain ⟨opening, key, row, booking, hopening, hkey, hrow, -, -, -, -, hamount, hcurrency⟩ :=
    run_ok hreceipt
  obtain rfl := Option.some.inj (hkey.symm.trans (rfl : (deposit topUp).key = some "top-up"))
  have hnew : (receipt.amount, receipt.currency) = (1000, "UGX") :=
    reported (f := fun r => (r.1.amount, r.1.currency)) (by decide +kernel) hreceipt
  have hold : (original.amount, original.currency) = (1000, "UGX") :=
    reported (f := fun r => (r.1.amount, r.1.currency)) (by decide +kernel) horiginal
  have hsame := Prod.mk.inj (hnew.trans hold.symm)
  exact ⟨original, horiginal, (replay_safe_iff_checks_decide horiginal (.nil _) rfl rfl).1.mpr
    ⟨fun _ => ⟨opening, opening_and_row_iff.mp ⟨hopening, row, hrow⟩, hamount ▸ hsame.1,
      hcurrency ▸ hsame.2⟩, fun hdiffer => absurd rfl hdiffer⟩⟩

/-- A withdrawal of the whole balance. -/
def cashOut : WithdrawRequest :=
  { accountId := 1, amount := 1000, currency := "UGX", clientRequestId := "cash-out" }

/-- The withdrawal succeeded; its replay meets an empty balance and is refused. -/
theorem cash_out_replay_refused :
    ¬ ∀ (first later : CashRequest) (firstEnv env : Env) (before after db : Db)
        (original : CashReceipt) (labels : List (Env × WalletCall)) (key : String),
      first.run firstEnv before = .ok (original, after) → Run walletStep after labels db →
      first.key = some key → later.key = some key →
      ReplaySafe env db later (first.terms before) original := by
  intro claim
  obtain ⟨original, horiginal⟩ := exists_receipt (walletRun twoWallets [fundFirst])
    ((withdraw cashOut).run (Env.lenient 1 ⟨7, false⟩) (walletRun twoWallets [fundFirst]))
    (by decide +kernel)
  obtain ⟨receipt, hreceipt, -⟩ := (claim (.withdraw cashOut) (.withdraw cashOut) _
    (Env.lenient 2 ⟨7, false⟩) _ _ _ original [] "cash-out" horiginal (.nil _) rfl rfl).1 rfl
  have hrefused : ((withdraw cashOut).run (Env.lenient 2 ⟨7, false⟩)
      (committed (walletRun twoWallets [fundFirst]) ((withdraw cashOut).run
        (Env.lenient 1 ⟨7, false⟩) (walletRun twoWallets [fundFirst])))).isOk = false := by
    decide +kernel
  rw [hreceipt] at hrefused
  cases hrefused

end CashRequest

end Afcon360.Wallet
