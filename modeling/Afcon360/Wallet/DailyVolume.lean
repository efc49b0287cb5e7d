import Afcon360.Wallet.DayWindow
import Afcon360.Wallet.Spending

/-!
# The daily regulatory limit

Every withdrawal and transfer compares its amount and the debits of the day with the daily
limit of the owner's tier. A debit that was accepted is in the ledger, completed, when the next
one is checked, so that the last check of a day saw all the others.

A transfer is checked in the currency it is requested in, and debited in the currency of the
sender's account. `Denominated` is the condition under which these are one.
-/

namespace Afcon360.Wallet

open Foundation TimezoneEngine

/-- Reversal references name entries that exist. -/
def Db.ReversalsExist (db : Db) : Prop := ∀ i ∈ db.reversals, i < db.ledger.length

/-- The entries that `_build_base_query` and the filter on the status select. -/
def Db.eligible (db : Db) : List LedgerEntry :=
  ((db.ledger.zipIdx.filter (fun e => e.2 ∉ db.reversals)).map Prod.fst).filter db.entryCompleted

/-- The daily limit of the tier of an account's owner; zero when there is none. -/
def Db.dailyLimitOf (db : Db) (env : Env) (accountId : AccountId) : ℚ :=
  match db.accountById accountId with
  | some account => (env.tierLimits (env.kycTier account.userId)).dailyLimit
  | none => 0

/-- The account a call takes money from. -/
def WalletCall.source : WalletCall → Option AccountId
  | .cash (.withdraw request) => some request.accountId
  | .transfer request => some request.fromAccountId
  | _ => none

/-- At a call that takes money from the account there is a daily limit, and not above this
one. -/
def Limited (accountId : AccountId) (limit : ℚ) (db : Db) (label : Env × WalletCall) : Prop :=
  label.2.source = some accountId →
    0 < db.dailyLimitOf label.1 accountId ∧ db.dailyLimitOf label.1 accountId ≤ limit

/-- A transfer is requested in the currency of the sender's account. -/
def Denominated (db : Db) (label : Env × WalletCall) : Prop :=
  match label.2 with
  | .transfer request => ∀ account ∈ db.accountById request.fromAccountId,
      request.currency = account.currency
  | _ => True

/-- The debit a call posted for the amount it checked, the first entry it added. The fee of a
transfer comes after it. -/
def acceptedDebit (db db' : Db) : Option LedgerEntry :=
  (db'.ledger.drop db.ledger.length).head?.filter (fun e => e.entryType = .debit)

/-- The accepted debits of a run. -/
def acceptedDebits (db : Db) : List (Env × WalletCall) → List LedgerEntry
  | [] => []
  | (env, call) :: rest =>
    (acceptedDebit db (call.effect env db)).toList ++ acceptedDebits (call.effect env db) rest

/-- What was accepted of an account in a currency on a local day. -/
def acceptedOn (debits : List LedgerEntry) (accountId : AccountId) (currency : Currency)
    (day : ℤ) : ℚ :=
  gridValue microsPerUnit (Db.sumWhere debits (fun e =>
    e.accountId = accountId ∧ e.currency = currency ∧ kampalaDay e.createdAt = day))

section

variable {db db' : Db} {env : Env} {accountId : AccountId} {currency : Currency} {amount : ℚ}
  {entries past : List LedgerEntry} {e : LedgerEntry}

variable {row : Transaction} {booking : Booking} {now : Timestamp}

/-! ## What the check saw -/

theorem sumWhere_filter (cond keep : LedgerEntry → Bool) :
    Db.sumWhere (entries.filter keep) cond = Db.sumWhere entries (fun e => cond e && keep e) := by
  induction entries with
  | nil => rfl
  | cons e rest ih =>
    simp only [Db.sumWhere, List.map_cons, List.sum_cons, List.filter_cons] at ih ⊢
    by_cases hkeep : keep e = true
    · simp [hkeep, ih]
    · simp [hkeep, ih]

theorem sumWhere_sublist (h : entries.Sublist past) (cond : LedgerEntry → Bool) :
    Db.sumWhere entries cond ≤ Db.sumWhere past cond := by
  refine List.Sublist.sum_le_sum (h.map _) ?_
  intro value hvalue
  obtain ⟨e, -, rfl⟩ := List.mem_map.mp hvalue
  have hpos := e.amount.positive
  split <;> omega

theorem regulatoryVolume_eq (start stop : Timestamp) :
    regulatoryVolume db accountId currency start stop =
      gridValue microsPerUnit (Db.sumWhere db.eligible (fun e => e.accountId = accountId ∧
        e.currency = currency ∧ e.entryType = .debit ∧ start ≤ e.createdAt ∧
          e.createdAt ≤ stop)) := by
  simp only [regulatoryVolume, Db.eligible, sumWhere_filter]
  congr 2
  funext e
  by_cases h : db.entryCompleted e = true <;> simp [h]

/-- The tier of the check is that of the owner, also where the answer names none. -/
theorem kycLevel_checkTransactionAllowed (owner : Option UserId) (action : KycAction)
    (recipient : Option UserId) :
    (checkTransactionAllowed env owner amount action currency recipient).kycLevel.getD
      (env.kycTier owner) = env.kycTier owner := by
  unfold checkTransactionAllowed
  split
  · unfold checkOrgTransactionAllowed
    split_ifs <;> rfl
  · simp only
    split_ifs <;> rfl

theorem checkKycLimits_ok {owner recipient : Option UserId} {action : KycAction}
    (h : checkKycLimits env db owner amount action currency recipient accountId = .ok ()) :
    withinRegulatoryLimit (regulatoryVolume db accountId currency (dailyWindowStart env) env.now)
      amount (env.tierLimits (env.kycTier owner)).dailyLimit = true := by
  simp only [checkKycLimits, kycLevel_checkTransactionAllowed] at h
  split at h
  · cases h
  · split at h
    · cases h
    · rename_i hnone
      unfold checkRegulatoryCumulativeLimits at hnone
      split at hnone
      · cases hnone
      · by_contra hover
        simp [hover] at hnone

/-- The debit is within the daily limit on top of the volume, if there is a limit. -/
def Checked (env : Env) (db : Db) (e : LedgerEntry) : Prop :=
  withinRegulatoryLimit (regulatoryVolume db e.accountId e.currency (dailyWindowStart env) env.now)
    e.amount.toDecimal (db.dailyLimitOf env e.accountId) = true

/-- A withdrawal's check speaks about its entry. -/
theorem withdraw_daily {request : WithdrawRequest} {opening : Opening}
    (h : withdrawOpening env db request = .ok opening) :
    db.accountById request.accountId = some opening.account ∧
      (∃ steps, opening.amount = gridValue moneyQuant steps) ∧
      withinRegulatoryLimit
        (regulatoryVolume db opening.account.id opening.currency (dailyWindowStart env) env.now)
        opening.amount (env.tierLimits (env.kycTier opening.account.userId)).dailyLimit = true := by
  have haccount := (withdrawOpening_ok h).1
  simp only [withdrawOpening, check_bind_eq_ok, require_eq_ok] at h
  obtain ⟨-, -, -, h⟩ := h
  obtain ⟨account, -, h⟩ := bind_eq_ok.mp h
  simp only [check_bind_eq_ok, pure_eq_ok] at h
  obtain ⟨-, -, hkyc, -, -, -, -, rfl⟩ := h
  exact ⟨haccount, ⟨_, rfl⟩, checkKycLimits_ok hkyc⟩

/-- The check of a transfer speaks about the requested amount and currency. -/
theorem transfer_daily {request : TransferRequest} {parties : Parties} {legs : Legs}
    (h : transferChecks env db request parties = .ok legs) :
    withinRegulatoryLimit
      (regulatoryVolume db parties.sender.id request.currency (dailyWindowStart env) env.now)
      request.quantized (env.tierLimits (env.kycTier parties.sender.userId)).dailyLimit = true := by
  simp only [transferChecks, check_bind_eq_ok] at h
  obtain ⟨-, -, -, hkyc, -⟩ := h
  exact checkKycLimits_ok hkyc

/-- In the sender's currency the debit is the requested amount. -/
theorem debit_of_denominated {request : TransferRequest} {parties : Parties} {legs : Legs}
    (h : transferLegs env request parties = .ok legs)
    (hdenominated : request.currency = parties.sender.currency) :
    legs.debitAmount = request.quantized ∧ legs.debitCurrency = request.currency := by
  simp only [transferLegs, hdenominated, if_true] at h
  split at h
  · obtain rfl := Except.ok.inj h
    exact ⟨rfl, hdenominated.symm⟩
  · split at h
    · cases h
    · obtain rfl := Except.ok.inj h
      exact ⟨rfl, hdenominated.symm⟩

/-! ## What a call accepted -/

variable {drafts : TransactionId → List Db.EntryDraft}

/-- The first draft of a posting is its first entry. -/
theorem Posted.head
    (h : Posted db now row drafts booking) {draft : Db.EntryDraft} {rest : List Db.EntryDraft}
    (hdrafts : drafts booking.id = draft :: rest) :
    ∃ first, (booking.db.ledger.drop db.ledger.length).head? = some first ∧
      draft.store? now = some first ∧ first.createdAt = now := by
  obtain ⟨stored, hstored, hledger⟩ := h.ledger
  have hmoment := storeAll?_createdAt hstored
  rw [hdrafts] at hstored
  have hmatch := Db.storeAll?_forall₂ hstored
  cases hmatch with
  | cons hfirst _ =>
    exact ⟨_, by rw [hledger, List.drop_left]; rfl, hfirst, hmoment _ List.mem_cons_self⟩

/-- An accepted debit is of the account the call names and of the moment of the call, and it
was checked, if the call is in the currency of the account. -/
theorem acceptedDebit_checked {call : WalletCall} (hdenominated : Denominated db (env, call))
    (h : acceptedDebit db (call.effect env db) = some e) :
    call.source = some e.accountId ∧ e.entryType = .debit ∧ e.createdAt = env.now ∧
      Checked env db e := by
  obtain ⟨hhead, hdebit⟩ := Option.filter_eq_some_iff.mp h
  have hdebit : e.entryType = .debit := by simpa using hdebit
  rcases effect_cases env db call with
    ⟨hsame, -⟩ | ⟨request, opening, key, row, booking, rfl, hposted, heffect⟩ |
    ⟨request, parties, legs, row, booking, rfl, hposted, heffect⟩
  · rw [hsame, List.drop_length] at hhead
    cases hhead
  · rw [heffect] at hhead
    obtain ⟨first, hfirst, hstore, hmoment⟩ := hposted.posted.head rfl
    obtain rfl := Option.some.inj (hfirst.symm.trans hhead)
    obtain ⟨-, -, htype, haccount, hcurrency, hmicros⟩ := Db.store?_eq_some hstore
    cases request with
    | deposit request =>
      rw [hdebit] at htype
      cases htype
    | withdraw request =>
      obtain ⟨hfound, ⟨steps, hsteps⟩, hwithin⟩ := withdraw_daily hposted.opening_ok
      have haccount : first.accountId = opening.account.id := haccount
      have hcurrency : first.currency = opening.currency := hcurrency
      have hid : opening.account.id = request.accountId := Db.accountById_id hfound
      have hamount : first.amount.toDecimal = opening.amount := by
        rw [Amount.toDecimal, hmicros]
        simp only [Opening.draft]
        rw [hsteps, stored_hundredths]
      refine ⟨by rw [haccount, hid]; rfl, hdebit, hmoment, ?_⟩
      rw [Checked, hamount, haccount, hcurrency, Db.dailyLimitOf, hid, hfound]
      rw [hid] at hwithin
      exact hwithin
  · rw [heffect] at hhead
    obtain ⟨first, hfirst, hstore, hmoment⟩ := hposted.posted.head rfl
    obtain rfl := Option.some.inj (hfirst.symm.trans hhead)
    obtain ⟨-, -, -, haccount, hcurrency, hmicros⟩ := Db.store?_eq_some hstore
    obtain ⟨-, -, hsender, -⟩ := transferOpening_ok hposted.opening_ok
    have hlegs := (transferChecks_ok hposted.checks_ok).1
    obtain ⟨hdebited, hin⟩ := debit_of_denominated hlegs (hdenominated _ hsender)
    obtain ⟨-, -, steps, hsteps⟩ := transferLegs_ok hlegs
    have hwithin := transfer_daily hposted.checks_ok
    have haccount : first.accountId = parties.sender.id := haccount
    have hcurrency : first.currency = legs.debitCurrency := hcurrency
    have hid : parties.sender.id = request.fromAccountId := Db.accountById_id hsender
    have hamount : first.amount.toDecimal = legs.debitAmount := by
      rw [Amount.toDecimal, hmicros, hsteps, stored_hundredths]
    refine ⟨by rw [haccount, hid]; rfl, hdebit, hmoment, ?_⟩
    rw [Checked, hamount, hdebited, haccount, hcurrency, hin, Db.dailyLimitOf, hid, hsender]
    rw [hid] at hwithin
    exact hwithin

/-! ## What the next check counts -/

/-- What was completed stays completed, what was posted becomes so. -/
theorem Posted.entryCompleted (h : Posted db now row drafts booking)
    (hentry : e.transactionId = booking.id ∨ db.entryCompleted e = true) :
    booking.db.entryCompleted e = true := by
  have hget := (Table.lookup_eq_some_iff.mp h.completed).1
  by_cases hid : e.transactionId = booking.id
  · simp only [Db.entryCompleted, hid, hget]
    rfl
  · have hold := hentry.resolve_left hid
    simp only [Db.entryCompleted, h.other_rows _ hid] at hold ⊢
    exact hold

/-- A posting adds its entries to the eligible ones. -/
theorem Posted.eligible (h : Posted db now row drafts booking) (hexist : db.ReversalsExist)
    (under : ∀ draft ∈ drafts booking.id, draft.transactionId = booking.id) :
    (db.eligible ++ booking.db.ledger.drop db.ledger.length).Sublist booking.db.eligible := by
  obtain ⟨added, hledger, -, hunder⟩ := h.entries_under under
  rw [hledger, List.drop_left, Db.eligible, Db.eligible, hledger, h.reversals, List.zipIdx_append,
    List.filter_append, List.map_append, List.filter_append]
  refine List.Sublist.append (List.monotone_filter_right _ fun e he => ?_) ?_
  · exact h.entryCompleted (.inr he)
  · have hall : (added.zipIdx (0 + db.ledger.length)).filter (fun e => e.2 ∉ db.reversals) =
        added.zipIdx (0 + db.ledger.length) := by
      rw [List.filter_eq_self]
      rintro ⟨e, i⟩ he
      have hle := (List.mem_zipIdx he).1
      simp only [decide_eq_true_eq]
      intro hmem
      have hlt := hexist i hmem
      omega
    have hcompleted : added.filter booking.db.entryCompleted = added := by
      rw [List.filter_eq_self]
      intro e he
      exact h.entryCompleted (.inl (hunder e he))
    rw [hall, List.zipIdx_map_fst, hcompleted]

theorem effect_reversals (env : Env) (db : Db) (call : WalletCall) :
    (call.effect env db).reversals = db.reversals := by
  cases call with
  | cash request =>
    cases h : request.run env db with
    | error e => simp [WalletCall.effect, committed, h]
    | ok result =>
      obtain ⟨receipt, db'⟩ := result
      obtain ⟨opening, key, row, booking, -, -, hrow, hbook, rfl, -⟩ := CashRequest.run_ok h
      simp only [WalletCall.effect, committed, h]
      obtain ⟨-, hdb, -⟩ | ⟨-, posted⟩ := book_ok (Db.draftTransaction_ok hrow).2.2.1 hbook
      · rw [hdb]
      · exact posted.reversals
  | transfer request =>
    cases h : transfer env db request with
    | error e => simp [WalletCall.effect, committed, h]
    | ok result =>
      obtain ⟨receipt, db'⟩ := result
      simp only [WalletCall.effect, committed, h]
      obtain ⟨parties, -, ⟨hdb, -⟩ | ⟨-, legs, booking, row, -, -, posted, -, -, -, rfl, -⟩⟩ :=
        transfer_ok h
      · rw [hdb]
      · exact posted.reversals
  | freezeAccount id reason =>
    simp only [WalletCall.effect, Db.freezeAccount, Db.modifyAccount]
    split <;> rfl
  | unfreezeAccount id =>
    simp only [WalletCall.effect, Db.unfreezeAccount, Db.modifyAccount]
    split <;> rfl

/-- A call keeps the eligible entries and adds the debit it accepted. -/
theorem effect_eligible (env : Env) (call : WalletCall) (hexist : db.ReversalsExist) :
    (db.eligible ++ (acceptedDebit db (call.effect env db)).toList).Sublist
        (call.effect env db).eligible ∧
      (call.effect env db).ReversalsExist := by
  have hreversals := effect_reversals env db call
  have grown : ∀ {row : Transaction} {drafts : TransactionId → List Db.EntryDraft}
      {booking : Booking}, Posted db env.now row drafts booking →
      (∀ draft ∈ drafts booking.id, draft.transactionId = booking.id) →
      call.effect env db = booking.db →
      (db.eligible ++ (acceptedDebit db (call.effect env db)).toList).Sublist
          (call.effect env db).eligible ∧
        (call.effect env db).ReversalsExist := by
    intro row drafts booking posted under heffect
    obtain ⟨added, -, hledger⟩ := posted.ledger
    rw [heffect]
    constructor
    · refine List.Sublist.trans (List.Sublist.append (List.Sublist.refl _) ?_)
        (posted.eligible hexist under)
      rw [acceptedDebit]
      cases booking.db.ledger.drop db.ledger.length with
      | nil => exact List.Sublist.refl _
      | cons first rest =>
        simp only [List.head?_cons, Option.filter_some]
        split
        · exact (List.nil_sublist rest).cons_cons first
        · exact List.nil_sublist _
    · intro i hi
      rw [posted.reversals] at hi
      have hlt := hexist i hi
      rw [hledger, List.length_append]
      omega
  rcases effect_cases env db call with
    ⟨hledger, htransactions⟩ | ⟨request, opening, key, row, booking, rfl, hposted, heffect⟩ |
    ⟨request, parties, legs, row, booking, rfl, hposted, heffect⟩
  · have hsame : (call.effect env db).eligible = db.eligible := by
      have hcompleted : (call.effect env db).entryCompleted = db.entryCompleted := by
        funext e
        simp only [Db.entryCompleted, htransactions]
      rw [Db.eligible, Db.eligible, hledger, hreversals, hcompleted]
    constructor
    · rw [hsame, acceptedDebit, hledger, List.drop_length]
      simp
    · intro i hi
      rw [hreversals] at hi
      rw [hledger]
      exact hexist i hi
  · refine grown hposted.posted ?_ heffect
    intro draft hdraft
    rw [List.mem_singleton.mp hdraft]
    rfl
  · exact grown hposted.posted (transferDrafts_under _) heffect

/-! ## Runs -/

theorem dailyWindowStart_le (env : Env) :
    (dailyWindowStart env : ℤ) ≤ Datetime.dayStart env.now := by
  have hlt := Datetime.lt_dayStart_add env.now
  unfold dailyWindowStart
  split
  · exact le_rfl
  · exact sub_le_iff_le_add.mpr hlt.le

/-- An instant of the day of another is not before its day start. -/
theorem dayStart_le_of_day {t t' : Timestamp} (h : kampalaDay t' = kampalaDay t) :
    (Datetime.dayStart t : ℤ) ≤ t' := by
  have hsame : Datetime.dayStart t = Datetime.dayStart t' := by
    simp only [Datetime.dayStart, getDayStartUtc, h]
  rw [hsame]
  exact Datetime.dayStart_le t'

/-- What the accepted debits of a day come to is in the volume of its last check. -/
theorem acceptedOn_le_volume (hcounted : past.Sublist db.eligible)
    (hdebits : ∀ e ∈ past, e.entryType = .debit) (hbefore : ∀ e ∈ past, e.createdAt ≤ env.now) :
    acceptedOn past accountId currency (kampalaDay env.now) ≤
      regulatoryVolume db accountId currency (dailyWindowStart env) env.now := by
  rw [regulatoryVolume_eq, acceptedOn, gridValue_le_iff (by decide), gridValue_mul (by decide)]
  have hwindow := dailyWindowStart_le env
  have hsum : Db.sumWhere past (fun e => e.accountId = accountId ∧ e.currency = currency ∧
        kampalaDay e.createdAt = kampalaDay env.now) ≤
      Db.sumWhere past (fun e => e.accountId = accountId ∧ e.currency = currency ∧
        e.entryType = .debit ∧ dailyWindowStart env ≤ e.createdAt ∧ e.createdAt ≤ env.now) := by
    refine sumWhere_le fun e he h => ?_
    simp only [decide_eq_true_eq] at h ⊢
    exact ⟨h.1, h.2.1, hdebits e he, hwindow.trans (dayStart_le_of_day h.2.2), hbefore e he⟩
  exact_mod_cast hsum.trans (sumWhere_sublist hcounted _)

theorem acceptedOn_append (day : ℤ) :
    acceptedOn (past ++ entries) accountId currency day =
      acceptedOn past accountId currency day + acceptedOn entries accountId currency day := by
  rw [acceptedOn, sumWhere_append, gridValue_add]
  rfl

/-- One call keeps what was accepted on a day within the limit. -/
theorem accepted_step {call : WalletCall} {limit : ℚ} {day : ℤ}
    (hcounted : past.Sublist db.eligible) (hdebits : ∀ e ∈ past, e.entryType = .debit)
    (hbefore : ∀ e ∈ past, e.createdAt ≤ env.now)
    (hlimited : Limited accountId limit db (env, call)) (hdenominated : Denominated db (env, call))
    (hwithin : acceptedOn past accountId currency day ≤ limit) :
    acceptedOn (past ++ (acceptedDebit db (call.effect env db)).toList) accountId currency day ≤
      limit := by
  rw [acceptedOn_append]
  cases haccepted : acceptedDebit db (call.effect env db) with
  | none => simpa [acceptedOn, Db.sumWhere, gridValue] using hwithin
  | some e =>
    obtain ⟨hsource, -, hmoment, hchecked⟩ := acceptedDebit_checked hdenominated haccepted
    by_cases hmatch : e.accountId = accountId ∧ e.currency = currency ∧
        kampalaDay e.createdAt = day
    · obtain ⟨rfl, rfl, rfl⟩ := hmatch
      obtain ⟨hpos, hle⟩ := hlimited hsource
      have hamount : acceptedOn [e] e.accountId e.currency (kampalaDay e.createdAt) =
          e.amount.toDecimal := by
        simp [acceptedOn, Db.sumWhere, Amount.toDecimal]
      simp only [Checked, withinRegulatoryLimit, decide_eq_true_eq, not_le.mpr hpos, false_or]
        at hchecked
      have hvolume : acceptedOn _ e.accountId e.currency _ ≤ _ :=
        acceptedOn_le_volume hcounted hdebits hbefore
      rw [Option.toList_some, hamount, hmoment]
      linarith
    · have hnone : acceptedOn [e] accountId currency day = 0 := by
        simp [acceptedOn, Db.sumWhere, gridValue, hmatch]
      rw [Option.toList_some, hnone, add_zero]
      exact hwithin

/-- The clock of a run does not go back. -/
def Ordered (labels : List (Env × WalletCall)) : Prop :=
  labels.Pairwise (fun first second => first.1.now ≤ second.1.now)

/-- Over every run. -/
theorem accepted_run {limit : ℚ} {day : ℤ} {labels : List (Env × WalletCall)}
    (hexist : db.ReversalsExist) (hordered : Ordered labels)
    (hcounted : past.Sublist db.eligible) (hdebits : ∀ e ∈ past, e.entryType = .debit)
    (hbefore : ∀ e ∈ past, ∀ label ∈ labels, e.createdAt ≤ label.1.now)
    (halong : Along (fun db label => label.2.effect label.1 db)
      (fun db label => Limited accountId limit db label ∧ Denominated db label) db labels)
    (hwithin : acceptedOn past accountId currency day ≤ limit) :
    acceptedOn (past ++ acceptedDebits db labels) accountId currency day ≤ limit := by
  induction labels generalizing db past with
  | nil => simpa [acceptedDebits] using hwithin
  | cons label rest ih =>
    obtain ⟨env, call⟩ := label
    obtain ⟨⟨hlimited, hdenominated⟩, hrest⟩ := along_cons.mp halong
    obtain ⟨hfirst, hordered⟩ := List.pairwise_cons.mp hordered
    obtain ⟨hgrown, hexist'⟩ := effect_eligible env call hexist
    have hnow : ∀ e ∈ past, e.createdAt ≤ env.now :=
      fun e he => hbefore e he _ List.mem_cons_self
    have hnew : ∀ e ∈ (acceptedDebit db (call.effect env db)).toList,
        e.entryType = .debit ∧ e.createdAt = env.now := by
      intro e he
      obtain ⟨-, hdebit, hmoment, -⟩ :=
        acceptedDebit_checked hdenominated (Option.mem_toList.mp he)
      exact ⟨hdebit, hmoment⟩
    rw [acceptedDebits, ← List.append_assoc]
    refine ih hexist' hordered ((hcounted.append (List.Sublist.refl _)).trans hgrown) ?_ ?_ hrest
      (accepted_step hcounted hdebits hnow hlimited hdenominated hwithin)
    · intro e he
      obtain hold | hadded := List.mem_append.mp he
      · exact hdebits e hold
      · exact (hnew e hadded).1
    · intro e he label hlabel
      obtain hold | hadded := List.mem_append.mp he
      · exact hbefore e hold label (List.mem_cons_of_mem _ hlabel)
      · rw [(hnew e hadded).2]
        exact hfirst label hlabel

end

/-- A shilling wallet of user 7 and a dollar wallet of user 8. -/
def twoCurrencies : Db :=
  Db.opened [userWallet 1 7 "UGX", userWallet 2 8 "USD"] (by decide)

/-- A transfer with a limit of 500 a day and 3700 shillings to the dollar. -/
def send (now : Timestamp) (amount : ℚ) (currency : Currency) (key : String) : Env × WalletCall :=
  ({ Env.lenient now ⟨7, false⟩ with
      tierLimits := fun _ => ⟨500, 0, 1000000⟩
      fxRate := fun base _ => some (if base = "USD" then 3700 else 1 / 3700) },
    .transfer { fromAccountId := 1, toAccountId := 2, amount, currency
                clientRequestId := key, systemInitiated := true })

/-- A time of 22:00 without a zone. -/
def lateEvening : Datetime := ⟨22 * 3600 * 1000000, none, by decide⟩

/-- The same in UTC is on the next day in Kampala. -/
def lateEveningUtc : Datetime := ⟨22 * 3600 * 1000000, some 0, by decide⟩

end Afcon360.Wallet
