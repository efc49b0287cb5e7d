import Afcon360.Foundation.Run
import Afcon360.Wallet.Cash
import Afcon360.Wallet.Transfer

/-!
# Runs of wallet calls

The wallet as a transition system. Each call runs in one database transaction
that holds the row locks of the accounts it touches, so a run is a sequence of
calls, each with the environment it happens to meet. A call that raises is
rolled back.

`effect_cases` says once what a call can do to the database; every invariant of
runs is derived from it.
-/

namespace Afcon360.Wallet

open Foundation

/-- The calls that change wallet rows. -/
inductive WalletCall
  | cash (request : CashRequest)
  | transfer (request : TransferRequest)
  | freezeAccount (id : AccountId) (reason : String)
  | unfreezeAccount (id : AccountId)

/-- The database after a call: that of the result, or the one before if the call
raised. -/
def committed {ρ : Type} (db : Db) (outcome : Attempt (ρ × Db)) : Db :=
  match outcome with
  | .ok (_, db') => db'
  | .error _ => db

theorem exists_receipt {ρ : Type} (db : Db) (outcome : Attempt (ρ × Db)) (h : outcome.isOk) :
    ∃ receipt, outcome = .ok (receipt, committed db outcome) := by
  cases outcome with
  | error e => cases h
  | ok result => exact ⟨result.1, rfl⟩

theorem reported {ρ β : Type} {result : ρ} {outcome : Attempt ρ} {f : ρ → β} {v : β}
    (hvalue : outcome.map f = .ok v) (h : outcome = .ok result) : f result = v := by
  rw [h] at hvalue
  exact Except.ok.inj hvalue

namespace WalletCall

/-- What a call leaves behind. -/
def effect (env : Env) (db : Db) : WalletCall → Db
  | .cash request => committed db (request.run env db)
  | .transfer request => committed db (Wallet.transfer env db request)
  | .freezeAccount id reason => db.freezeAccount id reason
  | .unfreezeAccount id => db.unfreezeAccount id

end WalletCall

/-- One call with its environment. -/
def walletStep (db : Db) (label : Env × WalletCall) (db' : Db) : Prop :=
  db' = label.2.effect label.1 db

/-- The database after a sequence of calls. -/
def walletRun (db : Db) (labels : List (Env × WalletCall)) : Db :=
  labels.foldl (fun db label => label.2.effect label.1 db) db

theorem run_walletRun (db : Db) (labels : List (Env × WalletCall)) :
    Run walletStep db labels (walletRun db labels) := by
  induction labels generalizing db with
  | nil => exact .nil db
  | cons label rest ih => exact .cons rfl (ih _)

/-- Freshly opened accounts: no transaction, an empty ledger. -/
def Db.opened (accounts : List Account) (unique : (accounts.map Account.id).Nodup) : Db where
  accounts := ⟨accounts, unique⟩
  transactions := ⟨[], List.nodup_nil⟩
  ledger := []
  reversals := []
  account_fk := by simp
  transaction_fk := by simp

/-- An environment that limits nothing below a million, seen by a given user. -/
def Env.lenient (now : Timestamp) (user : CurrentUser) : Env where
  now
  currentUser := some user
  walletMax := fun _ => 1000000
  tierLimits := fun _ => ⟨0, 0, 1000000⟩
  kycTier := fun _ => 1

/-- A wallet of a user. -/
abbrev userWallet (id : AccountId) (userId : UserId) (currency : Currency) : Account :=
  { id, userId := some userId, currency, single_owner := .inr rfl
    owner_consistent := .inl ⟨rfl, Option.some_ne_none userId, rfl⟩ }

/-- A shilling account of the platform, kept by a user. -/
abbrev platformWallet (id : AccountId) (userId : UserId) : Account :=
  { id, ownerType := .platform, userId := some userId, currency := "UGX", single_owner := .inr rfl
    owner_consistent := .inr (.inr ⟨.inl rfl, Option.some_ne_none userId, rfl⟩) }

/-- Two shilling wallets, of the users 7 and 8. -/
def twoWallets : Db :=
  Db.opened [userWallet 1 7 "UGX", userWallet 2 8 "UGX"] (by decide)

/-- A deposit of 1000 shillings to the first wallet. -/
def topUp : DepositRequest :=
  { accountId := some 1, amount := some 1000, currency := some "UGX"
    clientRequestId := some "top-up" }

def fundFirst : Env × WalletCall := (Env.lenient 0 ⟨7, false⟩, .cash (.deposit topUp))

/-- A transfer of 100 shillings from the first wallet to the second. -/
def rent (platformFee : Option ℚ) (feeCurrency : Option Currency) : TransferRequest :=
  { fromAccountId := 1, toAccountId := 2, amount := 100, currency := "UGX"
    clientRequestId := "rent", platformFee, feeCurrency, systemInitiated := true }

/-- A cash call that posted its entry. -/
structure CashPosted (env : Env) (db : Db) (request : CashRequest) (opening : Opening)
    (key : String) (row : Transaction) (booking : Booking) : Prop where
  opening_ok : request.opening env db = .ok opening
  key_ok : request.key = some key
  row_ok : request.row key opening = .ok row
  posted : Posted db env.now row (fun id => [opening.draft request.entryType id]) booking

/-- A transfer that posted its entries. -/
structure TransferPosted (env : Env) (db : Db) (request : TransferRequest) (parties : Parties)
    (legs : Legs) (row : Transaction) (booking : Booking) : Prop where
  opening_ok : transferOpening env db request = .ok parties
  fresh : db.getByClientRequestId request.clientRequestId = none
  checks_ok : transferChecks env db request parties = .ok legs
  row_ok : transferRow request parties = .ok row
  posted : Posted db env.now row (transferDrafts request parties legs) booking
  id_eq : booking.id = db.transactions.size
  row_eq : booking.row = row

/-- A call leaves ledger and transactions alone, or it posted a deposit, a
withdrawal or a transfer. -/
theorem effect_cases (env : Env) (db : Db) (call : WalletCall) :
    ((call.effect env db).ledger = db.ledger ∧
      (call.effect env db).transactions = db.transactions) ∨
    (∃ request opening key row booking, call = .cash request ∧
      CashPosted env db request opening key row booking ∧ call.effect env db = booking.db) ∨
    (∃ request parties legs row booking, call = .transfer request ∧
      TransferPosted env db request parties legs row booking ∧
      call.effect env db = booking.db) := by
  cases call with
  | cash request =>
    cases h : request.run env db with
    | error e => exact .inl (by simp [WalletCall.effect, committed, h])
    | ok result =>
      obtain ⟨receipt, db'⟩ := result
      obtain ⟨opening, key, row, booking, hopening, hkey, hrow, hbook, rfl, -⟩ :=
        CashRequest.run_ok h
      have heffect : WalletCall.effect env db (.cash request) = booking.db := by
        simp [WalletCall.effect, committed, h]
      rcases book_ok (Db.draftTransaction_ok hrow).2.2.1 hbook with
        ⟨-, hdb, -⟩ | ⟨-, posted⟩
      · exact .inl (by rw [heffect, hdb]; exact ⟨rfl, rfl⟩)
      · exact .inr (.inl ⟨request, opening, key, row, booking, rfl,
          ⟨hopening, hkey, hrow, posted⟩, heffect⟩)
  | transfer request =>
    cases h : transfer env db request with
    | error e => exact .inl (by simp [WalletCall.effect, committed, h])
    | ok result =>
      obtain ⟨receipt, db'⟩ := result
      have heffect : WalletCall.effect env db (.transfer request) = db' := by
        simp [WalletCall.effect, committed, h]
      obtain ⟨parties, hparties, hreplay | hposted⟩ := transfer_ok h
      · exact .inl (by rw [heffect, hreplay.1]; exact ⟨rfl, rfl⟩)
      · obtain ⟨hfresh, legs, booking, row, hlegs, hrow, posted, -, hid, hrow', rfl, -⟩ :=
          hposted
        exact .inr (.inr ⟨request, parties, legs, row, booking, rfl,
          ⟨hparties, hfresh, hlegs, hrow, posted, hid, hrow'⟩, heffect⟩)
  | freezeAccount id reason => exact .inl (by simp [WalletCall.effect, Db.freezeAccount])
  | unfreezeAccount id => exact .inl (by simp [WalletCall.effect, Db.unfreezeAccount])

/-- A posting leaves the completed rows alone. -/
theorem Posted.keeps_completed {db : Db} {now : Timestamp} {row : Transaction}
    {drafts : TransactionId → List Db.EntryDraft} {booking : Booking}
    (h : Posted db now row drafts booking) {key : String} {id : TransactionId}
    {recorded : Transaction} (hrecorded : db.getByClientRequestId key = some (id, recorded))
    (hstatus : recorded.status = .completed) :
    booking.db.getByClientRequestId key = some (id, recorded) := by
  by_cases hkey : key = row.clientRequestId
  · -- The booking would have found the completed row and posted nothing.
    subst hkey
    obtain hfound | ⟨hnone, -⟩ := h.found
    · rw [hrecorded] at hfound
      cases hfound
      exact absurd hstatus h.open_status
    · rw [hrecorded] at hnone
      cases hnone
  · rw [h.other_keys key hkey, hrecorded]

/-- A posting leaves no key free that was taken. -/
theorem Posted.keeps_key {db : Db} {now : Timestamp} {row : Transaction}
    {drafts : TransactionId → List Db.EntryDraft} {booking : Booking}
    (h : Posted db now row drafts booking) {key : String}
    (htaken : (db.getByClientRequestId key).isSome) :
    (booking.db.getByClientRequestId key).isSome := by
  by_cases hkey : key = row.clientRequestId
  · subst hkey
    rw [h.completed]
    rfl
  · rwa [h.other_keys key hkey]

theorem effect_keeps_key (env : Env) {db : Db} (call : WalletCall) {key : String}
    (htaken : (db.getByClientRequestId key).isSome) :
    ((call.effect env db).getByClientRequestId key).isSome := by
  rcases effect_cases env db call with
    ⟨-, htransactions⟩ | ⟨_, _, _, _, booking, rfl, h, heffect⟩ |
    ⟨_, _, _, _, booking, rfl, h, heffect⟩
  · simpa only [Db.getByClientRequestId, htransactions] using htaken
  · rw [heffect]
    exact h.posted.keeps_key htaken
  · rw [heffect]
    exact h.posted.keeps_key htaken

/-- What a transfer that returned did to its key: it found it taken and changed
nothing, or it took it for the requested amount. -/
theorem transfer_takes_key {env : Env} {db db' : Db} {request : TransferRequest}
    {receipt : TransferReceipt} (h : transfer env db request = .ok (receipt, db')) :
    (receipt.alreadyProcessed = true ∧ db' = db) ∨
      (receipt.alreadyProcessed = false ∧ receipt.amount = request.quantized ∧
        db.getByClientRequestId request.clientRequestId = none ∧
        (db'.getByClientRequestId request.clientRequestId).isSome) := by
  obtain ⟨parties, -, hreplay | hposted⟩ := transfer_ok h
  · obtain ⟨hdb, id, existing, -, -, -, rfl⟩ := hreplay
    exact .inl ⟨rfl, hdb⟩
  · obtain ⟨hfree, legs, booking, row, -, hrow, posted, hbooked, -, -, rfl, rfl⟩ := hposted
    refine .inr ⟨by simp [transferReceipt, hbooked], by simp [transferReceipt, hbooked], hfree, ?_⟩
    rw [← (Db.draftTransaction_ok hrow).1, posted.completed]
    rfl

/-- What is recorded as completed under a key stays recorded. -/
theorem run_keeps_completed {db db' : Db} {labels : List (Env × WalletCall)}
    (run : Run walletStep db labels db') {key : String} {id : TransactionId}
    {recorded : Transaction} (hrecorded : db.getByClientRequestId key = some (id, recorded))
    (hstatus : recorded.status = .completed) :
    db'.getByClientRequestId key = some (id, recorded) := by
  refine run.invariant (fun d => d.getByClientRequestId key = some (id, recorded)) ?_ hrecorded
  rintro d ⟨env, call⟩ d' hd rfl
  rcases effect_cases env d call with
    ⟨-, htransactions⟩ | ⟨_, _, _, _, booking, rfl, h, heffect⟩ |
    ⟨_, _, _, _, booking, rfl, h, heffect⟩
  · simpa only [Db.getByClientRequestId, htransactions] using hd
  · rw [heffect]
    exact h.posted.keeps_completed hd hstatus
  · rw [heffect]
    exact h.posted.keeps_completed hd hstatus

end Afcon360.Wallet
