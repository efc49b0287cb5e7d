import Afcon360.Wallet.System
import Afcon360.Wallet.AgentFloat
import Afcon360.Wallet.Commission

/-!
# Agent cash-out

`AgentCashOutService.confirm`, cut at its commits: the checks, the withdrawal, the
credit of the agent's float, and the rest (the intent is consumed and the commission
recorded). Any number of confirmations may be under way, and between two of their
transactions anything else may happen.

A withdrawal repeated under one reference is answered from its record and the
confirmation goes on to credit the float again. A withdrawal that posts reads its row and
the balance after its commit, which leaves a transaction open in which the credit's block
cannot begin: only a repeated confirmation credits the float. A commission is recorded by
the withdrawal, whose metadata name the agent, and by the confirmation.
-/

namespace Afcon360.Wallet

open Foundation

/-- A pending withdrawal, as it is kept in Redis. -/
structure WithdrawalIntent where
  source : String
  amount : ℚ
  currency : Currency
  userId : UserId
  accountId : AccountId
  deriving DecidableEq

/-- How far a confirmation is: past the checks; past the withdrawal, with the session
idle or not; past the credit. -/
inductive CashOutStage
  | admitted
  | debited (tx : TransactionId) (idle : Bool)
  | credited (tx : TransactionId)
  deriving DecidableEq

/-- The confirmation can credit the float, or has done so. -/
def CashOutStage.leads : CashOutStage → Bool
  | .admitted => false
  | .debited _ idle => idle
  | .credited _ => true

/-- A confirmation under way. -/
structure CashOut where
  reference : String
  agentId : UserId
  intent : WithdrawalIntent
  stage : CashOutStage
  deriving DecidableEq

/-- The tables, the pending withdrawals and the confirmations under way. -/
structure CashOutDesk where
  wallet : Db
  floats : FloatBook
  commissions : List Commission := []
  intents : String → Option WithdrawalIntent
  calls : ℕ → Option CashOut := fun _ => none

/-- What a step of a confirmation meets. -/
structure CashOutEnv where
  wallet : Env
  /-- `commission_rate` of the cash-out terms over a hundred. -/
  rate : ℚ
  /-- The audit row, and with it the commission, is committed. -/
  audited : Bool := true

/-- The withdrawal of a confirmation. -/
def CashOut.request (call : CashOut) : WithdrawRequest where
  accountId := call.intent.accountId
  amount := call.intent.amount
  currency := call.intent.currency
  clientRequestId := call.reference
  agentOnBehalf := true
  metadata := [("agent_id", toString call.agentId), ("source", "agent_cash_out"),
    ("reference", call.reference)]

/-- The commission a withdrawal that posts records for the agent its metadata name. -/
def CashOut.earned (call : CashOut) (rate : ℚ) (receipt : CashReceipt) : List Commission :=
  if receipt.alreadyProcessed then []
  else commissionFor rate receipt.amount call.agentId call.intent.currency .withdraw
    receipt.transactionId

namespace CashOutDesk

/-- Set or remove the confirmation of a process. -/
def put (desk : CashOutDesk) (process : ℕ) (call : Option CashOut) : CashOutDesk :=
  { desk with calls := Function.update desk.calls process call }

/-- The checks of `confirm`; `guard` is the refusal of `assert_agent_can_operate`. -/
def accept (desk : CashOutDesk) (process : ℕ) (reference : String) (agentId : UserId)
    (isAgent : Bool) (guard : Option String) : CashOutDesk :=
  match desk.calls process, desk.intents reference with
  | none, some intent =>
    if isAgent ∧ intent.source = "agent_cashout" ∧ guard = none then
      desk.put process (some ⟨reference, agentId, intent, .admitted⟩)
    else desk
  | _, _ => desk

/-- The withdrawal. A failure ends the confirmation. A replay returns from inside the
withdrawal's block; a posting reads its row after the block, also for what it returns, and
that transaction stays open. -/
def debit (desk : CashOutDesk) (env : CashOutEnv) (process : ℕ) (call : CashOut) : CashOutDesk :=
  match withdraw env.wallet desk.wallet call.request with
  | .error _ => desk.put process none
  | .ok (receipt, wallet) =>
    { desk with wallet, commissions := desk.commissions ++ call.earned env.rate receipt }.put
      process (some { call with
        stage := .debited receipt.transactionId receipt.alreadyProcessed })

/-- The credit of the float. A failure ends the confirmation with a warning. -/
def credit (desk : CashOutDesk) (process : ℕ) (call : CashOut) (tx : TransactionId)
    (idle : Bool) : CashOutDesk :=
  if ¬ idle then desk.put process none
  else
    match desk.floats.credit call.agentId call.intent.currency call.intent.amount .cashOut
        (some call.reference) (some call.agentId) with
    | .error _ => desk.put process none
    | .ok floats =>
      { desk with floats }.put process (some { call with stage := .credited tx })

/-- The intent is consumed and the commission recorded. -/
def finish (desk : CashOutDesk) (env : CashOutEnv) (process : ℕ) (call : CashOut)
    (tx : TransactionId) : CashOutDesk :=
  let earned :=
    if env.audited then
      commissionFor env.rate call.intent.amount call.agentId call.intent.currency .cashOut tx
    else []
  { desk with
    intents := fun other => if other = call.reference then none else desk.intents other
    commissions := desk.commissions ++ earned }.put process none

/-- The next transaction of a confirmation. -/
def advance (desk : CashOutDesk) (env : CashOutEnv) (process : ℕ) : CashOutDesk :=
  match desk.calls process with
  | none => desk
  | some call =>
    match call.stage with
    | .admitted => desk.debit env process call
    | .debited tx idle => desk.credit process call tx idle
    | .credited tx => desk.finish env process call tx

/-- What can happen. `lose` is a process that dies, `expire` the end of an intent's
time, `other` any wallet call that is not a cash-out. -/
inductive Move
  | accept (process : ℕ) (reference : String) (agentId : UserId) (isAgent : Bool)
      (guard : Option String)
  | advance (env : CashOutEnv) (process : ℕ)
  | lose (process : ℕ)
  | expire (reference : String)
  | other (env : Env) (call : WalletCall)

def after (desk : CashOutDesk) : Move → CashOutDesk
  | .accept process reference agentId isAgent guard =>
    desk.accept process reference agentId isAgent guard
  | .advance env process => desk.advance env process
  | .lose process => desk.put process none
  | .expire reference =>
    { desk with intents := fun other => if other = reference then none else desk.intents other }
  | .other env call => { desk with wallet := call.effect env desk.wallet }

def Step (desk : CashOutDesk) (move : Move) (next : CashOutDesk) : Prop := next = desk.after move

/-! ## What is asked -/

/-- The debits a reference's withdrawal posted. -/
def debits (desk : CashOutDesk) (reference : String) : ℕ :=
  match desk.wallet.getByClientRequestId reference with
  | none => 0
  | some (id, _) => ((desk.wallet.ledger.filter (·.transactionId = id)).filter
      (·.entryType = .debit)).length

/-- The credits of a float under a reference. -/
def credits (desk : CashOutDesk) (reference : String) : ℕ :=
  (desk.floats.ledger.filter (fun entry => entry.reference = some reference ∧
    entry.entryType = .cashOut)).length

/-- The commissions recorded for a transaction. -/
def recorded (desk : CashOutDesk) (tx : TransactionId) : ℕ :=
  (desk.commissions.filter (·.sourceId = tx)).length

/-- No confirmation of the reference is past its checks. -/
def Quiet (desk : CashOutDesk) (reference : String) : Prop :=
  ∀ process call, desk.calls process = some call → call.reference = reference →
    call.stage = .admitted

/-- The float is credited as often as the wallet is debited, at most once, and a
cash-out that was confirmed has one commission. -/
def Settled (desk : CashOutDesk) (reference : String) : Prop :=
  desk.credits reference = desk.debits reference ∧ desk.debits reference ≤ 1 ∧
    ∀ id row, desk.wallet.getByClientRequestId reference = some (id, row) → desk.recorded id = 1

/-- A wallet call under a key. -/
def usesKey (call : WalletCall) (key : String) : Prop :=
  match call with
  | .cash request => request.key = some key
  | .transfer request => request.clientRequestId = key
  | _ => False

/-- No confirmation of the reference can still credit the float, or has done so and goes
on. -/
def Behind (desk : CashOutDesk) (reference : String) : Prop :=
  ∀ process call, desk.calls process = some call → call.reference = reference →
    call.stage.leads = false

/-- The float is credited under the reference, or a confirmation is on the way to it. -/
def Covered (desk : CashOutDesk) (reference : String) : Prop :=
  desk.credits reference ≠ 0 ∨ ¬ desk.Behind reference

/-- The condition on the steps of a reference: its withdrawal is repeated only before the
float is credited, by one confirmation at a time; a confirmation that cannot credit the
float gives up only when another one has done so or is about to; the credit can be stored;
the commission is recorded a second time only if the first one was nothing; no other
process dies on the way; and no other call uses the reference as its key. -/
def Orderly (reference : String) (desk : CashOutDesk) : Move → Prop
  | .advance env process => ∀ call, desk.calls process = some call → call.reference = reference →
      match call.stage with
      | .admitted =>
        desk.wallet.getByClientRequestId reference = none ∨ ¬ desk.Covered reference
      | .debited _ false => desk.Covered reference
      | .debited _ true => (desk.floats.credit call.agentId call.intent.currency
          call.intent.amount .cashOut (some reference) (some call.agentId)).isOk
      | .credited tx => desk.recorded tx = 0 ↔
          env.audited = true ∧ 0 < calculateCommission env.rate call.intent.amount
  | .lose process => ∀ call, desk.calls process = some call → call.reference = reference →
      call.stage.leads = false ∧ (call.stage = .admitted ∨ desk.Covered reference)
  | .other _ call => ¬ usesKey call reference
  | _ => True

end CashOutDesk

/-! ## What a posting leaves alone -/

/-- A later state of the wallet: keys keep their rows' positions. -/
structure KeepsIds (db db' : Db) : Prop where
  ids : ∀ key id row, db.getByClientRequestId key = some (id, row) →
    ∃ row', db'.getByClientRequestId key = some (id, row')
  size : db.transactions.size ≤ db'.transactions.size

/-- The row of a key and the entries under it are as they were. -/
structure Undisturbed (key : String) (db db' : Db) : Prop where
  row : db'.getByClientRequestId key = db.getByClientRequestId key
  entries : ∀ id found, db.getByClientRequestId key = some (id, found) →
    db'.ledger.filter (·.transactionId = id) = db.ledger.filter (·.transactionId = id)

theorem Undisturbed.of_same {key : String} {db db' : Db} (hledger : db'.ledger = db.ledger)
    (htransactions : db'.transactions = db.transactions) : Undisturbed key db db' := by
  constructor
  · rw [Db.getByClientRequestId, Db.getByClientRequestId, htransactions]
  · intro id found _
    rw [hledger]

theorem KeepsIds.of_same {db db' : Db} (htransactions : db'.transactions = db.transactions) :
    KeepsIds db db' := by
  constructor
  · intro key id row h
    exact ⟨row, by rwa [Db.getByClientRequestId, htransactions]⟩
  · rw [htransactions]

section

variable {db : Db} {now : Timestamp} {row : Transaction}
  {drafts : TransactionId → List Db.EntryDraft} {booking : Booking}

theorem Posted.keepsIds (h : Posted db now row drafts booking) : KeepsIds db booking.db := by
  refine ⟨?_, h.size⟩
  intro key id found hfound
  by_cases hkey : key = row.clientRequestId
  · subst hkey
    obtain hold | ⟨hnone, -⟩ := h.found
    · rw [hfound] at hold
      cases hold
      exact ⟨_, h.completed⟩
    · rw [hfound] at hnone
      cases hnone
  · exact ⟨found, by rw [h.other_keys key hkey, hfound]⟩

/-- The entries under another key's row are not touched: the rows differ. -/
theorem Posted.undisturbed (h : Posted db now row drafts booking)
    (under : ∀ draft ∈ drafts booking.id, draft.transactionId = booking.id) {key : String}
    (hkey : key ≠ row.clientRequestId) : Undisturbed key db booking.db := by
  refine ⟨h.other_keys key hkey, ?_⟩
  intro id found hfound
  obtain ⟨hget, hfoundKey⟩ := Table.lookup_eq_some_iff.mp hfound
  have hne : booking.id ≠ id := by
    rintro rfl
    obtain hold | ⟨-, hid, -⟩ := h.found
    · obtain ⟨hget', hkey'⟩ := Table.lookup_eq_some_iff.mp hold
      rw [hget] at hget'
      cases hget'
      exact hkey (hfoundKey.symm.trans hkey')
    · rw [hid] at hget
      exact absurd (Table.lt_size_of_get? hget) (lt_irrefl _)
  obtain ⟨entries, hledger, -, hunder⟩ := h.entries_under under
  have hnew : entries.filter (·.transactionId = id) = [] := by
    rw [List.filter_eq_nil_iff]
    intro entry hentry
    rw [hunder entry hentry]
    simpa using hne
  rw [hledger, List.filter_append, hnew, List.append_nil]

end

theorem effect_keepsIds (env : Env) (db : Db) (call : WalletCall) :
    KeepsIds db (call.effect env db) := by
  rcases effect_cases env db call with
    ⟨-, htransactions⟩ | ⟨_, _, _, _, booking, rfl, h, heffect⟩ |
    ⟨_, _, _, _, booking, rfl, h, heffect⟩
  · exact .of_same htransactions
  · rw [heffect]
    exact h.posted.keepsIds
  · rw [heffect]
    exact h.posted.keepsIds

theorem effect_undisturbed (env : Env) (db : Db) {call : WalletCall} {key : String}
    (hkey : ¬ CashOutDesk.usesKey call key) : Undisturbed key db (call.effect env db) := by
  rcases effect_cases env db call with
    ⟨hledger, htransactions⟩ | ⟨request, opening, used, row, booking, rfl, h, heffect⟩ |
    ⟨request, parties, legs, row, booking, rfl, h, heffect⟩
  · exact .of_same hledger htransactions
  · rw [heffect]
    apply h.posted.undisturbed
    · intro draft hdraft
      rw [List.mem_singleton.mp hdraft]
      rfl
    · rw [(Db.draftTransaction_ok h.row_ok).1]
      rintro rfl
      exact hkey h.key_ok
  · rw [heffect]
    apply h.posted.undisturbed (transferDrafts_under booking.id)
    rw [(Db.draftTransaction_ok h.row_ok).1]
    rintro rfl
    exact hkey rfl

/-- A withdrawal that returned was recorded before, or it posted one debit. -/
theorem withdraw_cases {env : Env} {db db' : Db} {request : WithdrawRequest}
    {receipt : CashReceipt} (h : withdraw env db request = .ok (receipt, db')) :
    (receipt.alreadyProcessed = true ∧ db' = db ∧ ∃ row,
        db.getByClientRequestId request.clientRequestId = some (receipt.transactionId, row)) ∨
      ∃ (opening : Opening) (row : Transaction) (booking : Booking),
        receipt.alreadyProcessed = false ∧
        row.clientRequestId = request.clientRequestId ∧
        Posted db env.now row (fun id => [opening.draft .debit id]) booking ∧
        db' = booking.db ∧ receipt.transactionId = booking.id := by
  have hrun : (CashRequest.withdraw request).run env db = .ok (receipt, db') := h
  obtain ⟨opening, key, row, booking, -, hkey, hrow, hbook, rfl, hid, hprocessed, -⟩ :=
    CashRequest.run_ok hrun
  obtain rfl : request.clientRequestId = key := Option.some.inj hkey
  obtain ⟨hrowKey, -, hpending, -⟩ := Db.draftTransaction_ok hrow
  obtain ⟨hposted, hdb, -, hfound⟩ | ⟨hposted, posted⟩ := book_ok hpending hbook
  · refine .inl ⟨by simp [hprocessed, hposted], hdb, booking.row, ?_⟩
    rw [hid, ← hrowKey]
    exact hfound
  · exact .inr ⟨opening, row, booking, by simp [hprocessed, hposted], hrowKey, posted, rfl, hid⟩

/-- The first withdrawal under a key: one debit under a new row. -/
theorem withdraw_fresh {db : Db} {now : Timestamp} {row : Transaction} {opening : Opening}
    {booking : Booking} (posted : Posted db now row (fun id => [opening.draft .debit id]) booking)
    (hfree : db.getByClientRequestId row.clientRequestId = none) :
    booking.id = db.transactions.size ∧
      ((booking.db.ledger.filter (·.transactionId = booking.id)).filter
        (·.entryType = .debit)).length = 1 := by
  have hid : booking.id = db.transactions.size := by
    obtain hold | ⟨-, hid, -⟩ := posted.found
    · rw [hfree] at hold
      cases hold
    · exact hid
  refine ⟨hid, ?_⟩
  obtain ⟨entries, hentries, hledger⟩ := posted.ledger
  have hmatched := Db.storeAll?_forall₂ hentries
  obtain ⟨entry, rfl⟩ : ∃ entry, entries = [entry] := by
    cases hmatched with
    | cons _ hrest =>
      cases hrest
      exact ⟨_, rfl⟩
  obtain ⟨draft, hdraft, hstored⟩ := Db.storeAll?_mem hentries (List.mem_singleton_self entry)
  obtain ⟨-, htx, htype, -⟩ := Db.store?_eq_some hstored
  rw [List.mem_singleton.mp hdraft] at htx htype
  have hold : db.ledger.filter (·.transactionId = booking.id) = [] := by
    rw [List.filter_eq_nil_iff]
    intro old hmem
    have hlt := db.transaction_fk old hmem
    rw [← hid] at hlt
    simpa using Nat.ne_of_lt hlt
  have htx' : entry.transactionId = booking.id := htx
  have htype' : entry.entryType = .debit := htype
  rw [hledger, List.filter_append, hold]
  simp [htx', htype']

/-- The transaction a confirmation's withdrawal answered with. -/
def CashOutStage.tx? : CashOutStage → Option TransactionId
  | .admitted => none
  | .debited tx _ => some tx
  | .credited tx => some tx

namespace CashOutDesk

/-! ## Invariants -/

/-- Confirmations know the transaction of their reference, and commissions name
transactions that exist. -/
structure Linked (desk : CashOutDesk) : Prop where
  tx : ∀ process call tx, desk.calls process = some call → call.stage.tx? = some tx →
    ∃ row, desk.wallet.getByClientRequestId call.reference = some (tx, row)
  sources : ∀ commission ∈ desk.commissions,
    commission.sourceId < desk.wallet.transactions.size

/-- The only confirmation of the reference that can credit the float or has done so. -/
structure Alone (desk : CashOutDesk) (reference : String) (stage : CashOutStage) (process : ℕ) :
    Prop where
  here : ∃ call, desk.calls process = some call ∧ call.reference = reference ∧ call.stage = stage
  others : ∀ other call, other ≠ process → desk.calls other = some call →
    call.reference = reference → call.stage.leads = false

/-- The reference is debited once, under a completed row. -/
structure Debited (desk : CashOutDesk) (reference : String) (id : TransactionId) : Prop where
  row : ∃ row, desk.wallet.getByClientRequestId reference = some (id, row) ∧
    row.status = .completed
  debits : desk.debits reference = 1
  recorded : desk.recorded id ≤ 1

/-- How far a reference is. -/
inductive Phase (reference : String) (desk : CashOutDesk) : Prop
  | fresh (hrow : desk.wallet.getByClientRequestId reference = none)
      (hcredits : desk.credits reference = 0) (hquiet : desk.Quiet reference)
  | posted (id : TransactionId) (hdebited : desk.Debited reference id)
      (hcredits : desk.credits reference = 0) (hbehind : desk.Behind reference)
      (hpast : ∃ process call, desk.calls process = some call ∧ call.reference = reference ∧
        call.stage ≠ .admitted)
  | repeated (id : TransactionId) (process : ℕ) (hdebited : desk.Debited reference id)
      (hcredits : desk.credits reference = 0)
      (halone : desk.Alone reference (.debited id true) process)
  | credited (id : TransactionId) (process : ℕ) (hdebited : desk.Debited reference id)
      (hcredits : desk.credits reference = 1) (halone : desk.Alone reference (.credited id) process)
  | done (id : TransactionId) (hdebited : desk.Debited reference id)
      (hcredits : desk.credits reference = 1) (hrecorded : desk.recorded id = 1)
      (hbehind : desk.Behind reference)

structure Inv (reference : String) (desk : CashOutDesk) : Prop where
  linked : Linked desk
  phase : Phase reference desk

variable {desk next : CashOutDesk} {reference : String}

variable {process : ℕ} {call : CashOut}

theorem Phase.settled (phase : Phase reference desk) (quiet : desk.Quiet reference) :
    desk.Settled reference := by
  cases phase with
  | fresh hrow hcredits _ =>
    have hdebits : desk.debits reference = 0 := by
      simp [debits, hrow]
    refine ⟨by rw [hcredits, hdebits], by rw [hdebits]; exact Nat.zero_le _, ?_⟩
    intro id row hfound
    rw [hrow] at hfound
    cases hfound
  | posted id _ _ _ hpast =>
    obtain ⟨process, call, hcall, hreference, hstage⟩ := hpast
    exact absurd (quiet process call hcall hreference) hstage
  | repeated id process _ _ halone =>
    obtain ⟨call, hcall, hreference, hstage⟩ := halone.here
    rw [quiet process call hcall hreference] at hstage
    cases hstage
  | credited id process _ _ halone =>
    obtain ⟨call, hcall, hreference, hstage⟩ := halone.here
    rw [quiet process call hcall hreference] at hstage
    cases hstage
  | done id hdebited hcredits hrecorded _ =>
    refine ⟨by rw [hcredits, hdebited.debits], le_of_eq hdebited.debits, ?_⟩
    intro id' row' hfound
    obtain ⟨row, hrow, -⟩ := hdebited.row
    rw [hrow] at hfound
    cases hfound
    exact hrecorded

/-- What a step leaves of a reference that it is not about. -/
structure Apart (reference : String) (desk next : CashOutDesk) : Prop where
  wallet : Undisturbed reference desk.wallet next.wallet
  credits : next.credits reference = desk.credits reference
  recorded : ∀ id row, desk.wallet.getByClientRequestId reference = some (id, row) →
    next.recorded id = desk.recorded id
  calls : ∀ process call, next.calls process = some call → call.reference = reference →
    call.stage = .admitted ∨ desk.calls process = some call
  kept : ∀ process call, desk.calls process = some call → call.reference = reference →
    call.stage ≠ .admitted → next.calls process = some call

theorem Apart.quiet (apart : Apart reference desk next) (quiet : desk.Quiet reference) :
    next.Quiet reference := by
  intro process call hcall hreference
  obtain hadmitted | hold := apart.calls process call hcall hreference
  · exact hadmitted
  · exact quiet process call hold hreference

theorem Apart.behind (apart : Apart reference desk next) (behind : desk.Behind reference) :
    next.Behind reference := by
  intro process call hcall hreference
  obtain hadmitted | hold := apart.calls process call hcall hreference
  · rw [hadmitted]
    rfl
  · exact behind process call hold hreference

variable {stage : CashOutStage}

theorem Apart.alone (apart : Apart reference desk next)
    (hstage : stage ≠ .admitted) (alone : desk.Alone reference stage process) :
    next.Alone reference stage process := by
  obtain ⟨call, hcall, hreference, hcallStage⟩ := alone.here
  refine ⟨⟨call, apart.kept process call hcall hreference (hcallStage ▸ hstage), hreference,
    hcallStage⟩, ?_⟩
  intro other found hne hfound hfoundReference
  obtain hadmitted | hold := apart.calls other found hfound hfoundReference
  · rw [hadmitted]
    rfl
  · exact alone.others other found hne hold hfoundReference

theorem Apart.debits (apart : Apart reference desk next) :
    next.debits reference = desk.debits reference := by
  unfold CashOutDesk.debits
  rw [apart.wallet.row]
  cases hrow : desk.wallet.getByClientRequestId reference with
  | none => rfl
  | some found =>
    obtain ⟨id, row⟩ := found
    simp only [apart.wallet.entries id row hrow]

theorem Apart.debited (apart : Apart reference desk next) {id : TransactionId}
    (debited : desk.Debited reference id) : next.Debited reference id := by
  obtain ⟨row, hrow, hcompleted⟩ := debited.row
  refine ⟨⟨row, apart.wallet.row.trans hrow, hcompleted⟩, apart.debits.trans debited.debits, ?_⟩
  rw [apart.recorded id row hrow]
  exact debited.recorded

theorem Apart.phase (apart : Apart reference desk next) (phase : Phase reference desk) :
    Phase reference next := by
  cases phase with
  | fresh hrow hcredits hquiet =>
    exact .fresh (apart.wallet.row.trans hrow) (apart.credits.trans hcredits)
      (apart.quiet hquiet)
  | posted id hdebited hcredits hbehind hpast =>
    obtain ⟨process, call, hcall, hreference, hstage⟩ := hpast
    exact .posted id (apart.debited hdebited) (apart.credits.trans hcredits)
      (apart.behind hbehind)
      ⟨process, call, apart.kept process call hcall hreference hstage, hreference, hstage⟩
  | repeated id process hdebited hcredits halone =>
    exact .repeated id process (apart.debited hdebited) (apart.credits.trans hcredits)
      (apart.alone (by simp) halone)
  | credited id process hdebited hcredits halone =>
    exact .credited id process (apart.debited hdebited) (apart.credits.trans hcredits)
      (apart.alone (by simp) halone)
  | done id hdebited hcredits hrecorded hbehind =>
    obtain ⟨row, hrow, -⟩ := hdebited.row
    refine .done id (apart.debited hdebited) (apart.credits.trans hcredits) ?_
      (apart.behind hbehind)
    rw [apart.recorded id row hrow]
    exact hrecorded

/-! ## The steps -/

theorem put_calls (desk : CashOutDesk) (process other : ℕ) (call : Option CashOut) :
    (desk.put process call).calls other = if other = process then call else desk.calls other := by
  simp [put, Function.update_apply]

/-- A confirmation that ends, or that has not got past its checks, is not linked to
anything. -/
theorem Linked.put (linked : Linked desk) {call : Option CashOut}
    (h : ∀ found tx, call = some found → found.stage.tx? = some tx →
      ∃ row, desk.wallet.getByClientRequestId found.reference = some (tx, row)) :
    Linked (desk.put process call) := by
  refine ⟨?_, linked.sources⟩
  intro other found tx hfound htx
  rw [put_calls] at hfound
  split at hfound
  · exact h found tx hfound htx
  · exact linked.tx other found tx hfound htx

theorem Linked.put_at (linked : Linked desk) {found : CashOut} {tx : TransactionId}
    {row : Transaction} (hstage : found.stage.tx? = some tx)
    (hrow : desk.wallet.getByClientRequestId found.reference = some (tx, row)) :
    Linked (desk.put process (some found)) := by
  refine linked.put ?_
  intro call tx' hcall htx
  cases hcall
  obtain rfl : tx = tx' := Option.some.inj (hstage.symm.trans htx)
  exact ⟨row, hrow⟩

/-- A step that writes nothing of the reference and replaces a confirmation which is
another reference's or has not got past its checks. -/
theorem Apart.put (desk : CashOutDesk) {middle : CashOutDesk} {call : Option CashOut}
    (hcalls : middle.calls = desk.calls) (hwallet : Undisturbed reference desk.wallet middle.wallet)
    (hcredits : middle.credits reference = desk.credits reference)
    (hrecorded : ∀ id row, desk.wallet.getByClientRequestId reference = some (id, row) →
      middle.recorded id = desk.recorded id)
    (hnew : ∀ found, call = some found → found.reference = reference → found.stage = .admitted)
    (hold : ∀ found, desk.calls process = some found → found.reference = reference →
      found.stage = .admitted) : Apart reference desk (middle.put process call) := by
  refine ⟨hwallet, hcredits, hrecorded, ?_, ?_⟩
  · intro other found hfound hreference
    rw [put_calls, hcalls] at hfound
    split at hfound
    · exact .inl (hnew found hfound hreference)
    · exact .inr hfound
  · intro other found hfound hreference hstage
    rw [put_calls, hcalls]
    split
    · rename_i hother
      subst hother
      exact absurd (hold found hfound hreference) hstage
    · exact hfound

theorem Alone.not_behind (alone : desk.Alone reference stage process)
    (hleads : stage.leads = true) : ¬ desk.Behind reference := by
  intro behind
  obtain ⟨call, hcall, hreference, hstage⟩ := alone.here
  have := behind process call hcall hreference
  rw [hstage, hleads] at this
  cases this

theorem Behind.put_none (behind : desk.Behind reference) (process : ℕ) :
    (desk.put process none).Behind reference := by
  intro other call hcall hreference
  rw [put_calls] at hcall
  split at hcall
  · cases hcall
  · exact behind other call hcall hreference

theorem Alone.put_none {leader : ℕ}
    (alone : desk.Alone reference stage leader) (hleads : stage.leads = true)
    (hbehind : ∀ found, desk.calls process = some found → found.reference = reference →
      found.stage.leads = false) : (desk.put process none).Alone reference stage leader := by
  obtain ⟨call, hcall, hreference, hstage⟩ := alone.here
  have hne : leader ≠ process := by
    rintro rfl
    have := hbehind call hcall hreference
    rw [hstage, hleads] at this
    cases this
  refine ⟨⟨call, ?_, hreference, hstage⟩, ?_⟩
  · rw [put_calls, if_neg hne]
    exact hcall
  · intro other found hother hfound hfoundReference
    rw [put_calls] at hfound
    split at hfound
    · cases hfound
    · exact alone.others other found hother hfound hfoundReference

/-- The confirmation of a process ends: it has not got past its checks, or it leaves the
credit to another one. -/
theorem Inv.drop (inv : Inv reference desk)
    (h : ∀ found, desk.calls process = some found → found.reference = reference →
      found.stage.leads = false ∧ (found.stage = .admitted ∨ desk.Covered reference)) :
    Inv reference (desk.put process none) := by
  refine ⟨inv.linked.put (by simp), ?_⟩
  by_cases hadmitted : ∀ found, desk.calls process = some found → found.reference = reference →
      found.stage = .admitted
  · exact Apart.phase (Apart.put desk rfl (.of_same rfl rfl) rfl (fun _ _ _ => rfl) (by simp)
      hadmitted) inv.phase
  · push Not at hadmitted
    obtain ⟨call, hcall, hreference, hstage⟩ := hadmitted
    have hcovered := (h call hcall hreference).2.resolve_left hstage
    have hbehind := fun found hfound hfoundReference => (h found hfound hfoundReference).1
    cases inv.phase with
    | fresh _ _ hquiet => exact absurd (hquiet process call hcall hreference) hstage
    | posted id _ hcredits hall _ =>
      obtain hsome | hleads := hcovered
      · exact absurd hcredits hsome
      · exact absurd hall hleads
    | repeated id leader hdebited hcredits halone =>
      exact .repeated id leader ⟨hdebited.row, hdebited.debits, hdebited.recorded⟩ hcredits
        (halone.put_none rfl hbehind)
    | credited id leader hdebited hcredits halone =>
      exact .credited id leader ⟨hdebited.row, hdebited.debits, hdebited.recorded⟩ hcredits
        (halone.put_none rfl hbehind)
    | done id hdebited hcredits hrecorded hall =>
      exact .done id ⟨hdebited.row, hdebited.debits, hdebited.recorded⟩ hcredits hrecorded
        (hall.put_none process)

theorem Inv.drop_admitted (inv : Inv reference desk)
    (h : ∀ found, desk.calls process = some found → found.reference = reference →
      found.stage = .admitted) : Inv reference (desk.put process none) := by
  refine inv.drop (fun found hfound hreference => ?_)
  have hadmitted := h found hfound hreference
  exact ⟨by rw [hadmitted]; rfl, .inl hadmitted⟩

theorem admit_inv (inv : Inv reference desk) (process : ℕ) (other : String) (agentId : UserId)
    (isAgent : Bool) (guard : Option String) :
    Inv reference (desk.accept process other agentId isAgent guard) := by
  unfold accept
  split
  · rename_i intent hnone _
    split
    · refine ⟨inv.linked.put ?_, Apart.phase (Apart.put desk rfl (.of_same rfl rfl) rfl
        (fun _ _ _ => rfl) ?_ ?_) inv.phase⟩
      · rintro found tx hfound htx
        cases hfound
        cases htx
      · rintro found hfound -
        rw [← Option.some.inj hfound]
      · intro found hfound
        rw [hnone] at hfound
        cases hfound
    · exact inv
  · exact inv

theorem other_inv (inv : Inv reference desk) {env : Env} {call : WalletCall}
    (hkey : ¬ usesKey call reference) :
    Inv reference { desk with wallet := call.effect env desk.wallet } := by
  have hids := effect_keepsIds env desk.wallet call
  refine ⟨⟨?_, ?_⟩, Apart.phase ⟨effect_undisturbed env desk.wallet hkey, rfl, fun _ _ _ => rfl,
    fun _ _ h _ => .inr h, fun _ _ h _ _ => h⟩ inv.phase⟩
  · intro process found tx hfound htx
    obtain ⟨row, hrow⟩ := inv.linked.tx process found tx hfound htx
    exact hids.ids _ _ _ hrow
  · intro commission hmem
    exact lt_of_lt_of_le (inv.linked.sources commission hmem) hids.size

theorem tx_ne {db : Db} {first second : String} {id id' : TransactionId} {row row' : Transaction}
    (hne : first ≠ second) (h : db.getByClientRequestId first = some (id, row))
    (h' : db.getByClientRequestId second = some (id', row')) : id ≠ id' := by
  rintro rfl
  obtain ⟨hget, hkey⟩ := Table.lookup_eq_some_iff.mp h
  obtain ⟨hget', hkey'⟩ := Table.lookup_eq_some_iff.mp h'
  rw [hget] at hget'
  cases hget'
  exact hne (hkey.symm.trans hkey')

/-- Commissions of one transaction do not count for another. -/
theorem recorded_append {earned : List Commission} {tx id : TransactionId}
    (h : ∀ commission ∈ earned, commission.sourceId = tx) (commissions : List Commission) :
    ((commissions ++ earned).filter (·.sourceId = id)).length =
      (commissions.filter (·.sourceId = id)).length + if tx = id then earned.length else 0 := by
  rw [List.filter_append, List.length_append]
  congr 1
  split
  · rename_i hid
    rw [List.filter_eq_self.mpr]
    intro commission hmem
    simpa [hid] using h commission hmem
  · rename_i hid
    rw [List.filter_eq_nil_iff.mpr]
    · rfl
    · intro commission hmem
      rw [h commission hmem]
      simpa using hid

theorem commissionFor_length (rate amount : ℚ) (agentId : UserId) (currency : Currency)
    (sourceType : CommissionSource) (sourceId : TransactionId) :
    (commissionFor rate amount agentId currency sourceType sourceId).length =
      if 0 < calculateCommission rate amount then 1 else 0 := by
  unfold commissionFor
  split <;> rfl

/-- What the withdrawal of a confirmation that returned did. -/
theorem debit_cases (desk : CashOutDesk) (env : CashOutEnv) (process : ℕ) (call : CashOut) :
    desk.debit env process call = desk.put process none ∨
      ∃ wallet earned tx idle row,
        desk.debit env process call = { desk with
          wallet, commissions := desk.commissions ++ earned }.put process
            (some { call with stage := .debited tx idle }) ∧
        wallet.getByClientRequestId call.reference = some (tx, row) ∧
        (∀ commission ∈ earned, commission.sourceId = tx) ∧ KeepsIds desk.wallet wallet ∧
        (∀ key, key ≠ call.reference → Undisturbed key desk.wallet wallet) ∧
        (desk.wallet.getByClientRequestId call.reference = none →
          idle = false ∧ tx = desk.wallet.transactions.size ∧ row.status = .completed ∧
            ((wallet.ledger.filter (·.transactionId = tx)).filter
              (·.entryType = .debit)).length = 1 ∧ earned.length ≤ 1) ∧
        ∀ id found, desk.wallet.getByClientRequestId call.reference = some (id, found) →
          found.status = .completed → idle = true ∧ wallet = desk.wallet ∧ earned = [] := by
  unfold debit
  cases hcall : withdraw env.wallet desk.wallet call.request with
  | error e => exact .inl rfl
  | ok result =>
    obtain ⟨receipt, wallet⟩ := result
    refine .inr ⟨wallet, call.earned env.rate receipt, receipt.transactionId,
      receipt.alreadyProcessed, ?_⟩
    rcases withdraw_cases hcall with ⟨hprocessed, rfl, row, hfound⟩ |
      ⟨opening, row, booking, hprocessed, hkey, posted, rfl, hid⟩
    · have hearned : call.earned env.rate receipt = [] := by
        simp [CashOut.earned, hprocessed]
      refine ⟨row, rfl, hfound, ?_, .of_same rfl, fun _ _ => .of_same rfl rfl, ?_, ?_⟩
      · simp [hearned]
      · intro hnone
        rw [show call.request.clientRequestId = call.reference from rfl, hnone] at hfound
        cases hfound
      · exact fun _ _ _ _ => ⟨hprocessed, rfl, hearned⟩
    · have hkey' : row.clientRequestId = call.reference := hkey
      refine ⟨booking.row.complete, rfl, ?_, ?_, posted.keepsIds, ?_, ?_, ?_⟩
      · rw [hid, ← hkey']
        exact posted.completed
      · simp only [CashOut.earned, hprocessed, Bool.false_eq_true, if_false]
        exact commissionFor_sourceId
      · intro key hne
        apply posted.undisturbed
        · intro draft hdraft
          rw [List.mem_singleton.mp hdraft]
          rfl
        · rw [hkey']
          exact hne
      · intro hnone
        rw [← hkey'] at hnone
        obtain ⟨hfresh, hone⟩ := withdraw_fresh posted hnone
        refine ⟨hprocessed, hid.trans hfresh, rfl, by rw [hid]; exact hone, ?_⟩
        simp only [CashOut.earned, hprocessed, Bool.false_eq_true, if_false,
          commissionFor_length]
        split <;> omega
      · intro id found hfound hcompleted
        rw [← hkey'] at hfound
        obtain hopen | ⟨hnone, -⟩ := posted.found
        · rw [hfound] at hopen
          cases hopen
          exact absurd hcompleted posted.open_status
        · rw [hfound] at hnone
          cases hnone

theorem debit_inv (inv : Inv reference desk) {env : CashOutEnv}
    (hcall : desk.calls process = some call) (hstage : call.stage = .admitted)
    (orderly : call.reference = reference →
      desk.wallet.getByClientRequestId reference = none ∨ ¬ desk.Covered reference) :
    Inv reference (desk.debit env process call) := by
  have hadmitted : ∀ found, desk.calls process = some found → found.reference = reference →
      found.stage = .admitted := by
    intro found hfound _
    rw [hcall] at hfound
    rw [← Option.some.inj hfound, hstage]
  rcases debit_cases desk env process call with hfailed |
    ⟨wallet, earned, tx, idle, row, hdebit, hrow, hearned, hids, hothers, hfirst, hagain⟩
  · rw [hfailed]
    exact inv.drop_admitted hadmitted
  · rw [hdebit]
    have hlinked : Linked { desk with wallet, commissions := desk.commissions ++ earned } := by
      constructor
      · intro other found tx' hfound htx
        obtain ⟨row', hrow'⟩ := inv.linked.tx other found tx' hfound htx
        exact hids.ids _ _ _ hrow'
      · intro commission hmem
        rcases List.mem_append.mp hmem with hold | hnew
        · exact lt_of_lt_of_le (inv.linked.sources commission hold) hids.size
        · rw [hearned commission hnew]
          exact Table.lt_size_of_get? (Table.lookup_eq_some_iff.mp hrow).1
    refine ⟨hlinked.put_at rfl hrow, ?_⟩
    · by_cases hreference : call.reference = reference
      · rw [hreference] at hfirst hagain hrow
        have hhere : ({ desk with wallet, commissions := desk.commissions ++ earned }.put process
            (some { call with stage := .debited tx idle })).calls process =
              some { call with stage := .debited tx idle } := by
          rw [put_calls, if_pos rfl]
        have hothersBehind : desk.Behind reference → ∀ other found, other ≠ process →
            ({ desk with wallet, commissions := desk.commissions ++ earned }.put process
              (some { call with stage := .debited tx idle })).calls other = some found →
            found.reference = reference → found.stage.leads = false := by
          intro behind other found hne hfound hfoundReference
          rw [put_calls, if_neg hne] at hfound
          exact behind other found hfound hfoundReference
        have huncovered : ∀ {id}, desk.Debited reference id → ¬ desk.Covered reference := by
          intro id hdebited
          obtain ⟨found, hfound, -⟩ := hdebited.row
          exact (orderly hreference).resolve_left (by simp [hfound])
        cases inv.phase with
        | fresh hnone hcredits hquiet =>
          -- The first withdrawal of this reference.
          obtain ⟨rfl, htx, hcompleted, hone, hearnedLength⟩ := hfirst hnone
          refine .posted tx ⟨⟨row, hrow, hcompleted⟩, ?_, ?_⟩ hcredits ?_
            ⟨process, _, hhere, hreference, by simp⟩
          · simp only [debits, put, hrow]
            exact hone
          · have hbefore : (desk.commissions.filter (·.sourceId = tx)) = [] := by
              rw [List.filter_eq_nil_iff]
              intro commission hmem
              have hlt := inv.linked.sources commission hmem
              rw [← htx] at hlt
              simpa using Nat.ne_of_lt hlt
            simp only [recorded, put, recorded_append hearned, hbefore, if_true]
            simpa using hearnedLength
          · intro other found hfound hfoundReference
            by_cases hother : other = process
            · subst hother
              rw [hhere] at hfound
              rw [← Option.some.inj hfound]
              rfl
            · apply hothersBehind ?_ other found hother hfound hfoundReference
              intro third call' hthird hthirdReference
              rw [hquiet third call' hthird hthirdReference]
              rfl
        | posted id hdebited hcredits hbehind _ =>
          -- A repetition, answered from the record.
          obtain ⟨found, hfound, hcompleted⟩ := hdebited.row
          obtain ⟨rfl, rfl, rfl⟩ := hagain id found hfound hcompleted
          obtain ⟨rfl, rfl⟩ := Prod.mk.inj (Option.some.inj (hrow.symm.trans hfound))
          refine .repeated tx process ⟨⟨row, hrow, hcompleted⟩, hdebited.debits, ?_⟩ hcredits
            ⟨⟨_, hhere, hreference, rfl⟩, hothersBehind hbehind⟩
          simp only [recorded, put, List.append_nil]
          exact hdebited.recorded
        | repeated id leader hdebited _ halone =>
          exact absurd (.inr (halone.not_behind rfl)) (huncovered hdebited)
        | credited id leader hdebited _ halone =>
          exact absurd (.inr (halone.not_behind rfl)) (huncovered hdebited)
        | done id hdebited hcredits _ _ =>
          exact absurd (.inl (by rw [hcredits]; decide)) (huncovered hdebited)
      · -- The withdrawal of another reference.
        have hundisturbed := hothers reference (Ne.symm hreference)
        refine Apart.phase (Apart.put desk rfl hundisturbed rfl ?_ ?_ hadmitted) inv.phase
        · intro id found hfound
          have hne : tx ≠ id := tx_ne hreference hrow (hundisturbed.row.trans hfound)
          simp only [recorded, recorded_append hearned, hne, if_false, add_zero]
        · intro found hfound hfoundReference
          cases hfound
          exact absurd hfoundReference hreference

/-- The credit of another reference, or of this one. -/
theorem credits_append {floats : FloatBook} {entry : FloatEntry}
    (hledger : floats.ledger = desk.floats.ledger ++ [entry]) {other : String}
    (hreference : entry.reference = some other) (htype : entry.entryType = .cashOut) :
    ({ desk with floats } : CashOutDesk).credits reference =
      desk.credits reference + if other = reference then 1 else 0 := by
  simp only [credits, hledger, List.filter_append, List.length_append]
  congr 1
  by_cases h : other = reference
  · simp [hreference, htype, h]
  · simp [hreference, h]

/-- The confirmation of the reference that leads is the phase's own. -/
theorem Alone.is {other process : ℕ}
    (alone : desk.Alone reference stage other) (hcall : desk.calls process = some call)
    (hreference : call.reference = reference) (hleads : call.stage.leads = true) :
    other = process ∧ call.stage = stage := by
  have hsame : other = process := by
    by_contra hdiffer
    have := alone.others process call (Ne.symm hdiffer) hcall hreference
    rw [hleads] at this
    cases this
  subst hsame
  obtain ⟨found, hfound, -, hfoundStage⟩ := alone.here
  rw [hcall] at hfound
  rw [Option.some.inj hfound]
  exact ⟨rfl, hfoundStage⟩

/-- The phase of a reference one of whose confirmations leads. -/
theorem Phase.leading (phase : Phase reference desk)
    (hcall : desk.calls process = some call) (hreference : call.reference = reference)
    (hleads : call.stage.leads = true) :
    ∃ tx, desk.Debited reference tx ∧ desk.Alone reference call.stage process ∧
      (call.stage = .debited tx true ∧ desk.credits reference = 0 ∨
        call.stage = .credited tx ∧ desk.credits reference = 1) := by
  have hnot : ¬ desk.Behind reference := fun behind => by
    have := behind process call hcall hreference
    rw [hleads] at this
    cases this
  cases phase with
  | fresh _ _ hquiet =>
    rw [hquiet process call hcall hreference] at hleads
    cases hleads
  | posted _ _ _ hbehind _ => exact absurd hbehind hnot
  | done _ _ _ _ hbehind => exact absurd hbehind hnot
  | repeated tx other hdebited hcredits halone =>
    obtain ⟨rfl, hstage⟩ := halone.is hcall hreference hleads
    exact ⟨tx, hdebited, hstage ▸ halone, .inl ⟨hstage, hcredits⟩⟩
  | credited tx other hdebited hcredits halone =>
    obtain ⟨rfl, hstage⟩ := halone.is hcall hreference hleads
    exact ⟨tx, hdebited, hstage ▸ halone, .inr ⟨hstage, hcredits⟩⟩

theorem credit_inv (inv : Inv reference desk) {tx : TransactionId}
    (hcall : desk.calls process = some call) (hstage : call.stage = .debited tx true)
    (orderly : call.reference = reference → (desk.floats.credit call.agentId call.intent.currency
      call.intent.amount .cashOut (some reference) (some call.agentId)).isOk) :
    Inv reference (desk.credit process call tx true) := by
  obtain ⟨row, hrow⟩ := inv.linked.tx process call tx hcall (by rw [hstage]; rfl)
  by_cases hreference : call.reference = reference
  · subst hreference
    obtain ⟨tx', hdebited, halone, hphase⟩ := inv.phase.leading hcall rfl (by rw [hstage]; rfl)
    obtain ⟨rfl, hcredits⟩ : tx = tx' ∧ desk.credits call.reference = 0 := by
      simpa [hstage] using hphase
    have hok := orderly rfl
    cases hcredit : desk.floats.credit call.agentId call.intent.currency call.intent.amount
        .cashOut (some call.reference) (some call.agentId) with
    | error e =>
      rw [hcredit] at hok
      cases hok
    | ok floats =>
      obtain ⟨entry, hledger, hentry, htype⟩ := FloatBook.credit_ledger hcredit
      have hlinked : Linked { desk with floats } := ⟨inv.linked.tx, inv.linked.sources⟩
      simp only [credit, hcredit, not_true_eq_false, if_false]
      refine ⟨hlinked.put_at rfl hrow, ?_⟩
      · refine .credited tx process ⟨hdebited.row, hdebited.debits, hdebited.recorded⟩ ?_
          ⟨⟨{ call with stage := .credited tx }, ?_, rfl, rfl⟩, ?_⟩
        · change ({ desk with floats } : CashOutDesk).credits call.reference = 1
          rw [credits_append hledger hentry htype, hcredits, if_pos rfl]
        · rw [put_calls, if_pos rfl]
        · intro third found hne hfound hfoundReference
          rw [put_calls, if_neg hne] at hfound
          exact halone.others third found hne hfound hfoundReference
  · have hforeign : ∀ found, desk.calls process = some found → found.reference = reference →
        found.stage = .admitted := by
      intro found hfound hfoundReference
      rw [hcall] at hfound
      cases hfound
      exact absurd hfoundReference hreference
    simp only [credit, not_true_eq_false, if_false]
    split
    · exact inv.drop_admitted hforeign
    · rename_i floats hcredit
      obtain ⟨entry, hledger, hentry, htype⟩ := FloatBook.credit_ledger hcredit
      have hlinked : Linked { desk with floats } := ⟨inv.linked.tx, inv.linked.sources⟩
      refine ⟨hlinked.put_at rfl hrow, Apart.phase (Apart.put desk rfl (.of_same rfl rfl) ?_
        (fun _ _ _ => rfl) ?_ hforeign) inv.phase⟩
      · rw [credits_append hledger hentry htype, if_neg hreference, add_zero]
      · intro found hfound hfoundReference
        cases hfound
        exact absurd hfoundReference hreference

theorem finish_inv (inv : Inv reference desk) {env : CashOutEnv}
    {tx : TransactionId} (hcall : desk.calls process = some call)
    (hstage : call.stage = .credited tx)
    (orderly : call.reference = reference → (desk.recorded tx = 0 ↔
      env.audited = true ∧ 0 < calculateCommission env.rate call.intent.amount)) :
    Inv reference (desk.finish env process call tx) := by
  obtain ⟨row, hrow⟩ := inv.linked.tx process call tx hcall (by rw [hstage]; rfl)
  have hearned : ∀ commission ∈ (if env.audited then commissionFor env.rate call.intent.amount
      call.agentId call.intent.currency .cashOut tx else []), commission.sourceId = tx := by
    split
    · exact commissionFor_sourceId
    · simp
  have hlength : (if env.audited then commissionFor env.rate call.intent.amount
      call.agentId call.intent.currency .cashOut tx else []).length =
      if env.audited = true ∧ 0 < calculateCommission env.rate call.intent.amount then 1
      else 0 := by
    cases env.audited with
    | true => simp [commissionFor_length]
    | false => simp
  unfold finish
  generalize (if env.audited then commissionFor env.rate call.intent.amount
      call.agentId call.intent.currency .cashOut tx else []) = earned at hearned hlength ⊢
  dsimp only
  have hsources : ∀ commission ∈ desk.commissions ++ earned,
      commission.sourceId < desk.wallet.transactions.size := by
    intro commission hmem
    obtain hold | hnew := List.mem_append.mp hmem
    · exact inv.linked.sources commission hold
    · rw [hearned commission hnew]
      exact Table.lt_size_of_get? (Table.lookup_eq_some_iff.mp hrow).1
  have hlinked : Linked { desk with
      intents := fun other => if other = call.reference then none else desk.intents other
      commissions := desk.commissions ++ earned } := ⟨inv.linked.tx, hsources⟩
  refine ⟨hlinked.put (by simp), ?_⟩
  by_cases hreference : call.reference = reference
  · subst hreference
    obtain ⟨tx', hdebited, halone, hphase⟩ := inv.phase.leading hcall rfl (by rw [hstage]; rfl)
    obtain ⟨rfl, hcredits⟩ : tx = tx' ∧ desk.credits call.reference = 1 := by
      simpa [hstage] using hphase
    have hone : desk.recorded tx + earned.length = 1 := by
      rw [hlength]
      split
      · rename_i hpositive
        rw [(orderly rfl).mpr hpositive]
      · rename_i hnothing
        have hsome : desk.recorded tx ≠ 0 := fun h => hnothing ((orderly rfl).mp h)
        have hle := hdebited.recorded
        omega
    have hrecorded : ((desk.commissions ++ earned).filter (·.sourceId = tx)).length = 1 := by
      rw [recorded_append hearned, if_pos rfl]
      exact hone
    refine .done tx ⟨hdebited.row, hdebited.debits, le_of_eq hrecorded⟩ hcredits hrecorded ?_
    · intro third found hfound hfoundReference
      rw [put_calls] at hfound
      split at hfound
      · cases hfound
      · rename_i hne
        exact halone.others third found hne hfound hfoundReference
  · refine Apart.phase (Apart.put desk rfl (.of_same rfl rfl) rfl ?_ (by simp) ?_) inv.phase
    · intro id found hfound
      have hne : tx ≠ id := tx_ne hreference hrow hfound
      simp only [recorded, recorded_append hearned, hne, if_false, add_zero]
    · intro found hfound hfoundReference
      rw [hcall] at hfound
      cases hfound
      exact absurd hfoundReference hreference

theorem after_inv (inv : Inv reference desk) {move : Move}
    (orderly : Orderly reference desk move) : Inv reference (desk.after move) := by
  cases move with
  | accept process other agentId isAgent guard =>
    exact admit_inv inv process other agentId isAgent guard
  | lose process => exact inv.drop orderly
  | expire other =>
    have hapart : Apart reference desk (desk.after (.expire other)) :=
      ⟨.of_same rfl rfl, rfl, fun _ _ _ => rfl, fun _ _ h _ => .inr h, fun _ _ h _ _ => h⟩
    exact ⟨⟨inv.linked.tx, inv.linked.sources⟩, hapart.phase inv.phase⟩
  | other env call => exact other_inv inv orderly
  | advance env process =>
    simp only [after, advance]
    split
    · exact inv
    · rename_i call hcall
      have hcond := orderly call hcall
      split
      · rename_i hstage
        simp only [hstage] at hcond
        exact debit_inv inv hcall hstage hcond
      · rename_i tx idle hstage
        simp only [hstage] at hcond
        cases idle with
        | true => exact credit_inv inv hcall hstage hcond
        | false =>
          -- The credit is refused: the transaction of the withdrawal is still open.
          refine inv.drop (fun found hfound hreference => ?_)
          obtain rfl := Option.some.inj (hcall.symm.trans hfound)
          exact ⟨by rw [hstage]; rfl, .inr (hcond hreference)⟩
      · rename_i tx hstage
        simp only [hstage] at hcond
        exact finish_inv inv hcall hstage hcond

/-- Nothing happened under the reference yet. -/
structure Untouched (reference : String) (desk : CashOutDesk) : Prop where
  row : desk.wallet.getByClientRequestId reference = none
  credits : desk.credits reference = 0
  calls : ∀ process, desk.calls process = none
  sources : ∀ commission ∈ desk.commissions,
    commission.sourceId < desk.wallet.transactions.size

theorem Untouched.inv (untouched : Untouched reference desk) : Inv reference desk := by
  refine ⟨⟨?_, untouched.sources⟩, .fresh untouched.row untouched.credits ?_⟩
  · intro process call tx hcall
    rw [untouched.calls process] at hcall
    cases hcall
  · intro process call hcall
    rw [untouched.calls process] at hcall
    cases hcall

theorem run_foldl (desk : CashOutDesk) (moves : List Move) :
    Run Step desk moves (moves.foldl after desk) :=
  (Run.foldl after desk moves).mono (fun _ _ _ h => h.symm)

/-- The process whose confirmation a move is about. -/
def Move.process? : Move → Option ℕ
  | .accept process _ _ _ _ => some process
  | .advance _ process => some process
  | .lose process => some process
  | .expire _ => none
  | .other _ _ => none

theorem after_calls (desk : CashOutDesk) {move : Move} {other : ℕ}
    (h : move.process? ≠ some other) : (desk.after move).calls other = desk.calls other := by
  cases move with
  | accept process reference agentId isAgent guard =>
    have hne : other ≠ process := fun hsame => h (by rw [hsame]; rfl)
    simp only [after, accept]
    split
    · split
      · rw [put_calls, if_neg hne]
      · rfl
    · rfl
  | advance env process =>
    have hne : other ≠ process := fun hsame => h (by rw [hsame]; rfl)
    simp only [after, advance]
    split
    · rfl
    · split
      · unfold debit
        split
        · rw [put_calls, if_neg hne]
        · rw [put_calls, if_neg hne]
      · unfold credit
        split
        · rw [put_calls, if_neg hne]
        · split
          · rw [put_calls, if_neg hne]
          · rw [put_calls, if_neg hne]
      · simp only [finish]
        rw [put_calls, if_neg hne]
  | lose process =>
    have hne : other ≠ process := fun hsame => h (by rw [hsame]; rfl)
    rw [after, put_calls, if_neg hne]
  | expire reference => rfl
  | other env call => rfl

theorem foldl_calls (moves : List Move) (desk : CashOutDesk) {other : ℕ}
    (h : ∀ move ∈ moves, move.process? ≠ some other) :
    (moves.foldl after desk).calls other = desk.calls other := by
  induction moves generalizing desk with
  | nil => rfl
  | cons move rest ih =>
    rw [List.foldl_cons, ih (desk.after move) (fun found hfound =>
      h found (List.mem_cons_of_mem _ hfound)), after_calls desk (h move List.mem_cons_self)]

/-- After a run only the listed processes have confirmations under way. -/
theorem calls_listed {moves : List Move} {desk : CashOutDesk} (processes : List ℕ)
    (start : ∀ process, desk.calls process = none)
    (listed : ∀ move ∈ moves, ∀ process, move.process? = some process → process ∈ processes)
    (hcall : (moves.foldl after desk).calls process = some call) : process ∈ processes := by
  by_contra hmem
  rw [foldl_calls, start process] at hcall
  · cases hcall
  · intro move hmove hprocess
    exact hmem (listed move hmove process hprocess)

/-- A run in which the listed processes are done ends quietly. -/
theorem quiet_of_done {moves : List Move} {desk : CashOutDesk} (processes : List ℕ)
    (start : ∀ process, desk.calls process = none)
    (listed : ∀ move ∈ moves, ∀ process, move.process? = some process → process ∈ processes)
    (done : ∀ process ∈ processes, (moves.foldl after desk).calls process = none)
    (reference : String) : (moves.foldl after desk).Quiet reference := by
  intro process call hcall
  rw [done process (calls_listed processes start listed hcall)] at hcall
  cases hcall

def kioskIntent : WithdrawalIntent :=
  { source := "agent_cashout", amount := 200, currency := "UGX", userId := 7, accountId := 1 }

/-- The confirmation of the agent 4 at a stage. -/
def kioskCall (stage : CashOutStage) : CashOut := ⟨"WDR-1", 4, kioskIntent, stage⟩

/-- A customer with 1000 shillings and a pending cash-out of 200. -/
def kiosk : CashOutDesk where
  wallet := walletRun twoWallets [fundFirst]
  floats := { accounts := ⟨[{ userId := 4, currency := "UGX" }], by decide⟩, ledger := [] }
  intents := fun reference => if reference = "WDR-1" then some kioskIntent else none

/-- What the steps of the agent 4 meet: a commission of a hundredth, or of nothing. -/
def kioskEnv (rate : ℚ) : CashOutEnv where
  wallet := Env.lenient 1 ⟨4, false⟩
  rate

/-- Two confirmations got past the checks. The first one posts the withdrawal, the second
one is answered from its record and credits the float; only then the first one gives up.
The owner drops the commission before the second one ends. -/
def oneCommission : List Move :=
  [.accept 0 "WDR-1" 4 true none, .accept 1 "WDR-1" 4 true none,
    .advance (kioskEnv (1 / 100)) 0, .advance (kioskEnv (1 / 100)) 1,
    .advance (kioskEnv (1 / 100)) 1, .advance (kioskEnv (1 / 100)) 0, .advance (kioskEnv 0) 1]

theorem kiosk_untouched : Untouched "WDR-1" kiosk := by
  refine ⟨by decide +kernel, rfl, fun _ => rfl, ?_⟩
  intro commission h
  cases h

/-- Three confirmations of one reference got past the checks. The first one debits the
wallet and cannot credit the float; the other two are answered from its record, and
each credits the float. -/
def threeConfirmations : List Move :=
  [.accept 0 "WDR-1" 4 true none, .accept 1 "WDR-1" 4 true none, .accept 2 "WDR-1" 4 true none] ++
    [0, 0, 1, 2, 1, 2, 1, 2].map (.advance (kioskEnv (1 / 100)))

end CashOutDesk

end Afcon360.Wallet
