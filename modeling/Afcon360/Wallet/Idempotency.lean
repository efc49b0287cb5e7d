import Afcon360.Wallet.System

/-!
# Concurrent transfers under one key

The calls of `transfer` interleave. Each worker goes through the stages of
`Transfer` one at a time against what is committed at that moment: the opening
and the first lookup of the key, the checks, `get_or_create`, and the commit that
makes its row and its entries visible together. Inserting a key blocks while
another transaction holds an uncommitted row with the same key. A worker may fail
at any stage; its transaction is then rolled back.

No account lock is modelled, so the runs here include all those the locks allow.
`posted` records which call posted under which transaction.
-/

namespace Afcon360.Wallet

open Foundation

/-- A transfer that was posted, and the transaction it was posted under. -/
structure PostedTransfer where
  request : TransferRequest
  parties : Parties
  legs : Legs
  id : TransactionId

/-- Where a worker stands in its call. -/
inductive Phase
  | idle
  | looked (env : Env) (request : TransferRequest) (parties : Parties)
  | checked (env : Env) (request : TransferRequest) (parties : Parties) (legs : Legs)
  | claimed (env : Env) (request : TransferRequest) (parties : Parties) (legs : Legs)
      (row : Transaction)

/-- The uncommitted insert of a claimed key is what other inserts wait for. -/
def Phase.holdsKey (key : String) : Phase → Bool
  | .claimed _ request _ _ _ => request.clientRequestId = key
  | _ => false

/-- The committed database, the workers, and what was posted so far. -/
structure Service where
  db : Db
  workers : List Phase
  posted : List PostedTransfer

/-- What a worker does next. -/
inductive Move
  | call (env : Env) (request : TransferRequest)
  | check
  | claim
  | commit
  | fail

/-- What a move shows: nothing yet, the call's return, or a rollback. `met` is
the row the call found under its key. -/
inductive Event
  | progressed
  | returned (request : TransferRequest) (met : Option (TransactionId × Transaction))
      (result : Attempt TransferReceipt)
  | rolledBack

namespace Service

/-- Put a worker into a phase. -/
def goto (s : Service) (i : ℕ) (phase : Phase) : Service :=
  { s with workers := s.workers.set i phase }

/-- The opening and the lookup before the checks. -/
def call (s : Service) (i : ℕ) (env : Env) (request : TransferRequest) : Service × Event :=
  match transferOpening env s.db request with
  | .error e => (s, .returned request none (.error e))
  | .ok parties =>
    match s.db.getByClientRequestId request.clientRequestId with
    | some (id, existing) =>
      (s, .returned request (some (id, existing))
        (transferReplay s.db request parties id existing))
    | none => (s.goto i (.looked env request parties), .progressed)

def check (s : Service) (i : ℕ) (env : Env) (request : TransferRequest) (parties : Parties) :
    Service × Event :=
  match transferChecks env s.db request parties with
  | .error e => (s.goto i .idle, .returned request none (.error e))
  | .ok legs => (s.goto i (.checked env request parties legs), .progressed)

/-- The answer of `get_or_create` when it fetches a completed row. -/
def lateReplay (s : Service) (request : TransferRequest) (parties : Parties) (legs : Legs)
    (id : TransactionId) (existing : Transaction) : Attempt TransferReceipt :=
  if transferTermsMatch request parties existing then
    .ok (transferReceipt request parties legs ⟨id, existing, false, s.db⟩)
  else .error (.duplicateTransaction request.clientRequestId (some id))

/-- `get_or_create`: insert the key or fetch the row that holds it. -/
def claim (s : Service) (i : ℕ) (env : Env) (request : TransferRequest) (parties : Parties)
    (legs : Legs) : Service × Event :=
  match transferRow request parties with
  | .error e => (s.goto i .idle, .returned request none (.error e))
  | .ok row =>
    match s.db.getByClientRequestId request.clientRequestId with
    | none => (s.goto i (.claimed env request parties legs row), .progressed)
    | some (id, existing) =>
      if existing.status = .completed then
        (s.goto i .idle, .returned request (some (id, existing))
          (s.lateReplay request parties legs id existing))
      else (s.goto i (.claimed env request parties legs row), .progressed)

/-- Post the entries, complete the row and commit. -/
def commit (s : Service) (i : ℕ) (env : Env) (request : TransferRequest) (parties : Parties)
    (legs : Legs) (row : Transaction) : Service × Event :=
  match book s.db env.now row (transferDrafts request parties legs) with
  | .error e => (s.goto i .idle, .returned request none (.error e))
  | .ok booking =>
    ({ db := booking.db
       workers := s.workers.set i .idle
       posted := if booking.posted then s.posted ++ [⟨request, parties, legs, booking.id⟩]
         else s.posted },
      .returned request none (.ok (transferReceipt request parties legs booking)))

/-- One move of one worker; a move that does not fit its phase, or that has to
wait, is not enabled. -/
def step (s : Service) (label : ℕ × Move) : Option (Service × Event) :=
  match label.2, s.workers[label.1]? with
  | .call env request, some .idle => some (s.call label.1 env request)
  | .check, some (.looked env request parties) => some (s.check label.1 env request parties)
  | .claim, some (.checked env request parties legs) =>
    if s.workers.any (Phase.holdsKey request.clientRequestId) then none
    else some (s.claim label.1 env request parties legs)
  | .commit, some (.claimed env request parties legs row) =>
    some (s.commit label.1 env request parties legs row)
  | .fail, some _ => some (s.goto label.1 .idle, .rolledBack)
  | _, _ => none

/-- The transition relation of the workers. -/
def Step (s : Service) (label : ℕ × Move) (t : Service) : Prop :=
  ∃ event, s.step label = some (t, event)

end Service

/-! ## Terms -/

/-- The financial terms of a transfer: the accounts, the amount, the currency,
the fee it posts and the marketplace identity. -/
structure TransferTerms where
  fromAccountId : AccountId
  toAccountId : AccountId
  amount : ℚ
  currency : Currency
  fee : Option (ℚ × Currency)
  financial : List (Option String)
  deriving DecidableEq

def TransferRequest.terms (request : TransferRequest) : TransferTerms where
  fromAccountId := request.fromAccountId
  toAccountId := request.toAccountId
  amount := request.quantized
  currency := request.currency.toUpper
  fee := if 0 < request.fee then some (request.fee, request.feeCurrencyOr) else none
  financial := financialKeys.map (fun key => request.metadata.lookup key)

/-- What `_transfer_terms_match` compares: instead of the accounts the users that
own them, and no fee. -/
def comparedTerms (db : Db) (request : TransferRequest) :
    ℚ × Currency × Option (Option UserId) × Option (Option UserId) × List (Option String) :=
  (request.quantized, request.currency.toUpper,
    (db.accountById request.fromAccountId).map Account.userId,
    (db.accountById request.toAccountId).map Account.userId,
    financialKeys.map (fun key => request.metadata.lookup key))

namespace Service

/-- What is owed to a call that meets a row under its key: the original
transaction if the row is completed and was posted with the same terms, the
duplicate error otherwise. -/
def Answered (s : Service) (request : TransferRequest) (id : TransactionId)
    (existing : Transaction) (result : Attempt TransferReceipt) : Prop :=
  let sameTransfer := existing.status = .completed ∧
    ∃ record ∈ s.posted, record.id = id ∧ record.request.terms = request.terms
  (sameTransfer → ∃ receipt, result = .ok receipt ∧ receipt.transactionId = id ∧
    receipt.alreadyProcessed = true) ∧
  (¬ sameTransfer →
    result = .error (.duplicateTransaction request.clientRequestId (some id)))

/-- No transfer posted under the request's key agrees with it in what is compared
and differs in its accounts or its fee. -/
def Distinguished (s : Service) (request : TransferRequest) : Prop :=
  ∀ record ∈ s.posted, record.request.clientRequestId = request.clientRequestId →
    comparedTerms s.db record.request = comparedTerms s.db request →
    record.request.terms = request.terms

/-! ## The invariant -/

/-- The parties are the two accounts the request names. -/
def PartiesOf (db : Db) (request : TransferRequest) (parties : Parties) : Prop :=
  db.accountById request.fromAccountId = some parties.sender ∧
    db.accountById request.toAccountId = some parties.recipient

/-- The record of posted transfers agrees with the database: one record per key,
each with its completed row and exactly its entries, and every completed transfer
row has its record. -/
structure Traced (db : Db) (posted : List PostedTransfer) : Prop where
  once : (posted.map (·.request.clientRequestId)).Nodup
  rows : ∀ record ∈ posted, PartiesOf db record.request record.parties ∧
    ∃ row, transferRow record.request record.parties = .ok row ∧
      db.getByClientRequestId record.request.clientRequestId = some (record.id, row.complete)
  entries : ∀ record ∈ posted,
    (db.ledger.filter (·.transactionId = record.id)).map LedgerEntry.posting =
      (transferDrafts record.request record.parties record.legs record.id).map
        Db.EntryDraft.posting
  complete : ∀ key id row, db.getByClientRequestId key = some (id, row) →
    row.txType = .transfer → row.status = .completed →
    ∃ record ∈ posted, record.request.clientRequestId = key ∧ record.id = id

theorem Traced.nil {db : Db} (h : ∀ row ∈ db.transactions.rows, row.txType ≠ .transfer) :
    Traced db [] := by
  refine ⟨.nil, by simp, by simp, ?_⟩
  intro key id row hfound htype
  have hget := (Table.lookup_eq_some_iff.mp hfound).1
  exact absurd htype (h row (List.mem_of_getElem? hget))

/-- What a worker may rely on: once its lookup found the key free, only a
completed row can turn up under it, and a claimed key stays free. -/
def PhaseOk (db : Db) : Phase → Prop
  | .idle => True
  | .looked _ request parties | .checked _ request parties _ =>
    PartiesOf db request parties ∧
      ∀ id row, db.getByClientRequestId request.clientRequestId = some (id, row) →
        row.status = .completed
  | .claimed _ request parties _ row =>
    PartiesOf db request parties ∧ transferRow request parties = .ok row ∧
      db.getByClientRequestId request.clientRequestId = none

structure Inv (s : Service) : Prop where
  traced : Traced s.db s.posted
  phases : ∀ (i : ℕ) phase, s.workers[i]? = some phase → PhaseOk s.db phase
  exclusive : ∀ (i j : ℕ) phase phase' key, s.workers[i]? = some phase →
    s.workers[j]? = some phase' → phase.holdsKey key = true → phase'.holdsKey key = true → i = j

variable {s t : Service} {i j : ℕ} {phase : Phase}

variable {request : TransferRequest} {parties : Parties} {row : Transaction}
  {posted : List PostedTransfer} {db : Db} {existing : Transaction} {legs : Legs}
  {booking : Booking} {label : ℕ × Move} {env : Env}

/-- Moving one worker keeps the invariant if its new phase is justified and
claims no key that another worker holds. -/
theorem Inv.goto (inv : Inv s) (hphase : PhaseOk s.db phase)
    (hfree : ∀ key, phase.holdsKey key = true → ∀ q ∈ s.workers, q.holdsKey key = false) :
    Inv (s.goto i phase) := by
  refine ⟨inv.traced, ?_, ?_⟩
  · intro j q hq
    obtain ⟨-, rfl⟩ | ⟨-, hold⟩ := getElem?_set_cases hq
    · exact hphase
    · exact inv.phases j q hold
  · intro j k q q' key hq hq' hkey hkey'
    obtain ⟨rfl, rfl⟩ | ⟨-, hold⟩ := getElem?_set_cases hq
    · obtain ⟨rfl, rfl⟩ | ⟨-, hold'⟩ := getElem?_set_cases hq'
      · rfl
      · rw [hfree key hkey q' (List.mem_of_getElem? hold')] at hkey'
        cases hkey'
    · obtain ⟨rfl, rfl⟩ | ⟨-, hold'⟩ := getElem?_set_cases hq'
      · rw [hfree key hkey' q (List.mem_of_getElem? hold)] at hkey
        cases hkey
      · exact inv.exclusive j k q q' key hold hold' hkey hkey'

theorem Inv.goto_unclaimed (inv : Inv s) (hphase : PhaseOk s.db phase)
    (hnone : ∀ key, phase.holdsKey key = false) : Inv (s.goto i phase) :=
  inv.goto hphase fun key hkey => by rw [hnone key] at hkey; cases hkey

theorem Inv.call (inv : Inv s) (env : Env) (request : TransferRequest) :
    Inv (s.call i env request).1 := by
  unfold Service.call
  split
  · exact inv
  · rename_i parties hparties
    split
    · exact inv
    · rename_i hnone
      obtain ⟨-, -, hsender, hrecipient⟩ := transferOpening_ok hparties
      refine inv.goto_unclaimed ⟨⟨hsender, hrecipient⟩, ?_⟩ (fun _ => rfl)
      intro id row hrow
      rw [hnone] at hrow
      cases hrow

theorem Inv.check (inv : Inv s) (hworker : s.workers[i]? = some (.looked env request parties)) :
    Inv (s.check i env request parties).1 := by
  unfold Service.check
  split
  · exact inv.goto_unclaimed trivial (fun _ => rfl)
  · have hlooked : PhaseOk s.db (.looked env request parties) := inv.phases i _ hworker
    exact inv.goto_unclaimed hlooked (fun _ => rfl)

theorem Inv.claim (inv : Inv s) (hworker : s.workers[i]? = some (.checked env request parties legs))
    (hfree : s.workers.any (Phase.holdsKey request.clientRequestId) = false) :
    Inv (s.claim i env request parties legs).1 := by
  obtain ⟨hparties, hcompleted⟩ := inv.phases i _ hworker
  unfold Service.claim
  split
  · exact inv.goto_unclaimed trivial (fun _ => rfl)
  · rename_i row hrow
    split
    · rename_i hnone
      refine inv.goto ⟨hparties, hrow, hnone⟩ ?_
      intro key hkey q hq
      obtain rfl : request.clientRequestId = key := by simpa [Phase.holdsKey] using hkey
      simpa using List.any_eq_false.mp hfree q hq
    · rename_i id existing hfound
      rw [if_pos (hcompleted id existing hfound)]
      exact inv.goto_unclaimed trivial (fun _ => rfl)

/-- A posting under a free key extends the record of posted transfers. -/
theorem Traced.post (traced : Traced db posted) {now : Timestamp}
    (hparties : PartiesOf db request parties) (hrow : transferRow request parties = .ok row)
    (hnone : db.getByClientRequestId request.clientRequestId = none)
    (h : Posted db now row (transferDrafts request parties legs) booking)
    (hid : booking.id = db.transactions.size) (hbooked : booking.row = row) :
    Traced booking.db (posted ++ [⟨request, parties, legs, booking.id⟩]) := by
  have hkey : row.clientRequestId = request.clientRequestId := (Db.draftTransaction_ok hrow).1
  have hother : ∀ record ∈ posted,
      record.request.clientRequestId ≠ request.clientRequestId := by
    intro record hrecord hsame
    obtain ⟨-, recorded, -, hfound⟩ := traced.rows record hrecord
    rw [hsame, hnone] at hfound
    cases hfound
  obtain ⟨hnew, hkept⟩ := h.filter_ledger hid (transferDrafts_under booking.id)
  refine ⟨?_, ?_, ?_, ?_⟩
  · rw [List.map_append]
    refine traced.once.append (by simp) ?_
    simpa using hother
  · intro record hrecord
    obtain hold | hadded := List.mem_append.mp hrecord
    · obtain ⟨⟨hsender, hrecipient⟩, recorded, hrecorded, hfound⟩ := traced.rows record hold
      refine ⟨⟨by rw [h.accountById, hsender], by rw [h.accountById, hrecipient]⟩, recorded,
        hrecorded, ?_⟩
      rw [h.other_keys _ (by rw [hkey]; exact hother record hold), hfound]
    · obtain rfl := List.mem_singleton.mp hadded
      refine ⟨⟨by rw [h.accountById, hparties.1], by rw [h.accountById, hparties.2]⟩, row,
        hrow, ?_⟩
      have hcompleted := h.completed
      rwa [hkey, hbooked] at hcompleted
  · intro record hrecord
    obtain hold | hadded := List.mem_append.mp hrecord
    · obtain ⟨-, recorded, -, hfound⟩ := traced.rows record hold
      have hlt := Table.lt_size_of_get? (Table.lookup_eq_some_iff.mp hfound).1
      rw [hkept record.id (by rw [hid]; exact Nat.ne_of_lt hlt)]
      exact traced.entries record hold
    · obtain rfl := List.mem_singleton.mp hadded
      exact hnew
  · intro key id found hfound htype hstatus
    by_cases hsame : key = request.clientRequestId
    · subst hsame
      have hcompleted := h.completed
      rw [hkey, hfound] at hcompleted
      cases hcompleted
      exact ⟨_, List.mem_append_right _ (List.mem_singleton_self _), rfl, rfl⟩
    · rw [h.other_keys key (by rw [hkey]; exact hsame)] at hfound
      obtain ⟨record, hrecord, hrecordKey, hrecordId⟩ :=
        traced.complete key id found hfound htype hstatus
      exact ⟨record, List.mem_append_left _ hrecord, hrecordKey, hrecordId⟩

theorem claimed_books (hclaimed : PhaseOk db (.claimed env request parties legs row))
    (hbook : book db env.now row (transferDrafts request parties legs) = .ok booking) :
    booking.posted = true ∧ Posted db env.now row (transferDrafts request parties legs) booking ∧
      booking.id = db.transactions.size ∧ booking.row = row := by
  obtain ⟨-, hrow, hnone⟩ := hclaimed
  obtain ⟨hkey, -, hpending, -⟩ := Db.draftTransaction_ok hrow
  obtain ⟨-, -, -, hfound⟩ | ⟨hposted, h⟩ := book_ok hpending hbook
  · rw [hkey, hnone] at hfound
    cases hfound
  · have hfound := h.found
    rw [hkey, hnone] at hfound
    obtain hfound | ⟨-, hid, hrow'⟩ := hfound
    · cases hfound
    · exact ⟨hposted, h, hid, hrow'⟩

/-- A posting by another worker leaves a worker's expectations in place, unless
both hold the key. -/
theorem PhaseOk.post {now : Timestamp}
    {drafts : TransactionId → List Db.EntryDraft} (hphase : PhaseOk db phase)
    (h : Posted db now row drafts booking) (hkey : phase.holdsKey row.clientRequestId = false) :
    PhaseOk booking.db phase := by
  have parties : ∀ {request parties}, PartiesOf db request parties →
      PartiesOf booking.db request parties :=
    fun hp => ⟨by rw [h.accountById, hp.1], by rw [h.accountById, hp.2]⟩
  have completed : ∀ {key : String},
      (∀ id found, db.getByClientRequestId key = some (id, found) → found.status = .completed) →
      ∀ id found, booking.db.getByClientRequestId key = some (id, found) →
        found.status = .completed := by
    intro key hdb id found hfound
    by_cases hsame : key = row.clientRequestId
    · subst hsame
      rw [h.completed] at hfound
      cases hfound
      rfl
    · rw [h.other_keys key hsame] at hfound
      exact hdb id found hfound
  cases phase with
  | idle => trivial
  | looked env request parties' => exact ⟨parties hphase.1, completed hphase.2⟩
  | checked env request parties' legs => exact ⟨parties hphase.1, completed hphase.2⟩
  | claimed env request parties' legs row' =>
    refine ⟨parties hphase.1, hphase.2.1, ?_⟩
    rw [h.other_keys _ (by simpa [Phase.holdsKey] using hkey)]
    exact hphase.2.2

theorem Inv.commit (inv : Inv s)
    (hworker : s.workers[i]? = some (.claimed env request parties legs row)) :
    Inv (s.commit i env request parties legs row).1 := by
  unfold Service.commit
  split
  · exact inv.goto_unclaimed trivial (fun _ => rfl)
  · rename_i booking hbook
    have hclaimed := inv.phases i _ hworker
    obtain ⟨hposted, h, hid, hbooked⟩ := claimed_books hclaimed hbook
    obtain ⟨hparties, hrow, hnone⟩ := hclaimed
    have hkey : row.clientRequestId = request.clientRequestId := (Db.draftTransaction_ok hrow).1
    simp only [hposted, if_true]
    refine ⟨inv.traced.post hparties hrow hnone h hid hbooked, ?_, ?_⟩
    · intro j q hq
      obtain ⟨-, rfl⟩ | ⟨hji, hold⟩ := getElem?_set_cases hq
      · trivial
      · refine (inv.phases j q hold).post h ?_
        by_contra hholds
        have hown : (Phase.claimed env request parties legs row).holdsKey row.clientRequestId =
            true := by simp [Phase.holdsKey, hkey]
        exact hji (inv.exclusive j i q _ _ hold hworker (by simpa using hholds) hown)
    · intro j k q q' key hq hq' hkey hkey'
      obtain ⟨rfl, rfl⟩ | ⟨-, hold⟩ := getElem?_set_cases hq
      · cases hkey
      · obtain ⟨rfl, rfl⟩ | ⟨-, hold'⟩ := getElem?_set_cases hq'
        · cases hkey'
        · exact inv.exclusive j k q q' key hold hold' hkey hkey'

theorem Inv.step (inv : Inv s) {event : Event} (h : s.step label = some (t, event)) : Inv t := by
  unfold Service.step at h
  split at h
  · obtain rfl : _ = t := congrArg Prod.fst (Option.some.inj h)
    exact inv.call _ _
  · rename_i hworker
    obtain rfl : _ = t := congrArg Prod.fst (Option.some.inj h)
    exact inv.check hworker
  · rename_i hworker
    split at h
    · cases h
    · rename_i hfree
      obtain rfl : _ = t := congrArg Prod.fst (Option.some.inj h)
      exact inv.claim hworker (by simpa using hfree)
  · rename_i hworker
    obtain rfl : _ = t := congrArg Prod.fst (Option.some.inj h)
    exact inv.commit hworker
  · obtain rfl : _ = t := congrArg Prod.fst (Option.some.inj h)
    exact inv.goto_unclaimed trivial (fun _ => rfl)
  · cases h

theorem Inv.run (inv : Inv s) {labels : List (ℕ × Move)} (run : Run Step s labels t) : Inv t :=
  run.invariant Inv (fun _ _ _ hinv ⟨_, hstep⟩ => hinv.step hstep) inv

/-! ## What a call that meets a row is answered -/

/-- On the row of a posted transfer, `_transfer_terms_match` compares exactly
`comparedTerms`. -/
theorem transferTermsMatch_iff {record : PostedTransfer} (hparties : PartiesOf db request parties)
    (hrecorded : PartiesOf db record.request record.parties)
    (hrow : transferRow record.request record.parties = .ok row) :
    transferTermsMatch request parties row.complete = true ↔
      comparedTerms db record.request = comparedTerms db request := by
  obtain ⟨-, htype, -, hamount, hcurrency, huser, hrecipient, hmetadata⟩ :=
    Db.draftTransaction_ok hrow
  have hdecimal : row.amount.toDecimal = record.request.quantized :=
    toDecimal_of_quantized hamount
  have hquantize : ∀ r : TransferRequest, quantize r.quantized = r.quantized :=
    fun r => quantize_quantize r.amount
  simp only [transferTermsMatch, Transaction.complete, comparedTerms, htype, hdecimal, hcurrency,
    huser, hrecipient, hmetadata, hquantize, hparties.1, hparties.2, hrecorded.1, hrecorded.2,
    Option.map_some, decide_eq_true_eq, List.all_eq_true, Prod.mk.injEq, Option.some.injEq,
    true_and, List.map_inj_left]
  constructor
  · rintro ⟨ha, hc, hu, hr, hm⟩
    exact ⟨ha, hc, hu, hr, fun key hkey => (hm key hkey).symm⟩
  · rintro ⟨ha, hc, hu, hr, hm⟩
    exact ⟨ha, hc, hu, hr, fun key hkey => (hm key hkey).symm⟩

theorem comparedTerms_of_terms {request request' : TransferRequest}
    (h : request.terms = request'.terms) : comparedTerms db request = comparedTerms db
      request' := by
  simp only [TransferRequest.terms, TransferTerms.mk.injEq] at h
  obtain ⟨hfrom, hto, hamount, hcurrency, -, hfinancial⟩ := h
  simp only [comparedTerms, hfrom, hto, hamount, hcurrency, hfinancial]

/-- A transaction id determines the posted transfer it was posted under. -/
theorem Traced.record_unique (traced : Traced db posted)
    {record record' : PostedTransfer} (hrecord : record ∈ posted) (hrecord' : record' ∈ posted)
    (hid : record.id = record'.id) : record = record' := by
  obtain ⟨-, row, hrow, hfound⟩ := traced.rows record hrecord
  obtain ⟨-, row', hrow', hfound'⟩ := traced.rows record' hrecord'
  obtain ⟨hget, hkey⟩ := Table.lookup_eq_some_iff.mp hfound
  obtain ⟨hget', hkey'⟩ := Table.lookup_eq_some_iff.mp hfound'
  rw [hid, hget'] at hget
  rw [← Option.some.inj hget] at hkey
  exact List.inj_on_of_nodup_map traced.once hrecord hrecord' (hkey.symm.trans hkey')

/-- A posted transfer with the id of the row a key names was posted under that
key. -/
theorem Traced.record_key (traced : Traced db posted)
    {record : PostedTransfer} (hrecord : record ∈ posted) {key : String}
    (hfound : db.getByClientRequestId key = some (record.id, existing)) :
    record.request.clientRequestId = key := by
  obtain ⟨-, row, -, hrecorded⟩ := traced.rows record hrecord
  obtain ⟨hget, hkey⟩ := Table.lookup_eq_some_iff.mp hfound
  obtain ⟨hget', hkey'⟩ := Table.lookup_eq_some_iff.mp hrecorded
  rw [hget] at hget'
  rw [← Option.some.inj hget', hkey] at hkey'
  exact hkey'.symm

/-- A call that succeeds exactly on a completed row with matching terms gives
every request its due exactly when the request is distinguished. -/
theorem answered_iff_distinguished (traced : Traced s.db s.posted) {id : TransactionId}
    {result : Attempt TransferReceipt} (hparties : PartiesOf s.db request parties)
    (hfound : s.db.getByClientRequestId request.clientRequestId = some (id, existing))
    (hok : transferTermsMatch request parties existing = true → existing.status = .completed →
      ∃ receipt, result = .ok receipt ∧ receipt.transactionId = id ∧
        receipt.alreadyProcessed = true)
    (herror : ¬ (transferTermsMatch request parties existing = true ∧
      existing.status = .completed) →
      result = .error (.duplicateTransaction request.clientRequestId (some id))) :
    Answered s request id existing result ↔ Distinguished s request := by
  -- The record a matching row belongs to, and what matching says about it.
  have matched : ∀ record ∈ s.posted, record.request.clientRequestId = request.clientRequestId →
      record.id = id ∧ existing.status = .completed ∧
        (transferTermsMatch request parties existing = true ↔
          comparedTerms s.db record.request = comparedTerms s.db request) := by
    intro record hrecord hkey
    obtain ⟨hrecorded, row, hrow, hrecordFound⟩ := traced.rows record hrecord
    rw [hkey, hfound] at hrecordFound
    cases hrecordFound
    exact ⟨rfl, rfl, transferTermsMatch_iff hparties hrecorded hrow⟩
  constructor
  · rintro ⟨-, hrejected⟩ record hrecord hkey hcompared
    obtain ⟨hid, hstatus, hmatch⟩ := matched record hrecord hkey
    by_contra hterms
    have hnot : ¬ (existing.status = .completed ∧
        ∃ record ∈ s.posted, record.id = id ∧ record.request.terms = request.terms) := by
      rintro ⟨-, record', hrecord', hid', hterms'⟩
      obtain rfl := traced.record_unique hrecord hrecord' (hid.trans hid'.symm)
      exact hterms hterms'
    obtain ⟨receipt, hreceipt, -⟩ := hok (hmatch.mpr hcompared) hstatus
    rw [hrejected hnot] at hreceipt
    cases hreceipt
  · intro distinguished
    constructor
    · rintro ⟨hstatus, record, hrecord, rfl, hterms⟩
      have hkey := traced.record_key hrecord hfound
      exact hok ((matched record hrecord hkey).2.2.mpr (comparedTerms_of_terms hterms)) hstatus
    · intro hnot
      refine herror fun ⟨hmatch, hstatus⟩ => hnot ⟨hstatus, ?_⟩
      have htype : existing.txType = .transfer := by
        simp only [transferTermsMatch, decide_eq_true_eq] at hmatch
        exact hmatch.1
      obtain ⟨record, hrecord, hkey, hid⟩ :=
        traced.complete _ _ _ hfound htype hstatus
      exact ⟨record, hrecord, hid,
        distinguished record hrecord hkey ((matched record hrecord hkey).2.2.mp hmatch)⟩

/-- Where a call returned with a row it met. -/
theorem step_met (inv : Inv s) {id : TransactionId} {result : Attempt TransferReceipt}
    (h : s.step label = some (t, .returned request (some (id, existing)) result)) :
    t.db = s.db ∧ (Answered s request id existing result ↔ Distinguished s request) := by
  unfold Service.step at h
  split at h
  · rename_i env request' _ _
    simp only [Service.call] at h
    split at h
    · cases h
    · rename_i parties hparties
      obtain ⟨-, -, hsender, hrecipient⟩ := transferOpening_ok hparties
      split at h
      · rename_i hfound
        cases h
        refine ⟨rfl, answered_iff_distinguished inv.traced ⟨hsender, hrecipient⟩ hfound ?_ ?_⟩
        · intro hmatch hstatus
          exact ⟨replayReceipt s.db parties id existing, by simp [transferReplay, hmatch, hstatus],
            rfl, rfl⟩
        · intro hnot
          unfold transferReplay
          split
          · rfl
          · rename_i hmatch
            split
            · rfl
            · rename_i hstatus
              exact absurd ⟨by simpa using hmatch, by simpa using hstatus⟩ hnot
      · cases h
  · simp only [Service.check] at h
    split at h <;> cases h
  · rename_i hworker
    have hparties := (inv.phases _ _ hworker).1
    split at h
    · cases h
    · simp only [Service.claim] at h
      split at h
      · cases h
      · split at h
        · cases h
        · rename_i hfound
          split at h
          · rename_i hstatus
            cases h
            refine ⟨rfl, answered_iff_distinguished inv.traced hparties hfound ?_ ?_⟩
            · intro hmatch _
              exact ⟨_, by rw [lateReplay, if_pos hmatch], rfl, rfl⟩
            · intro hnot
              rw [lateReplay, if_neg fun hmatch => hnot ⟨hmatch, hstatus⟩]
          · cases h
  · simp only [Service.commit] at h
    split at h <;> cases h
  · cases h
  · cases h

/-- A step posts at most one transfer; any other step leaves the database as it
is. -/
theorem step_posts (inv : Inv s) {event : Event} (h : s.step label = some (t, event)) :
    (t.db = s.db ∧ t.posted = s.posted) ∨
      ∃ record receipt, t.posted = s.posted ++ [record] ∧
        event = .returned record.request none (.ok receipt) ∧
        receipt.transactionId = record.id ∧ receipt.alreadyProcessed = false := by
  unfold Service.step at h
  split at h
  · obtain rfl : _ = t := congrArg Prod.fst (Option.some.inj h)
    unfold Service.call
    split
    · exact .inl ⟨rfl, rfl⟩
    · split <;> exact .inl ⟨rfl, rfl⟩
  · obtain rfl : _ = t := congrArg Prod.fst (Option.some.inj h)
    unfold Service.check
    split <;> exact .inl ⟨rfl, rfl⟩
  · split at h
    · cases h
    · obtain rfl : _ = t := congrArg Prod.fst (Option.some.inj h)
      unfold Service.claim
      split
      · exact .inl ⟨rfl, rfl⟩
      · split
        · exact .inl ⟨rfl, rfl⟩
        · split <;> exact .inl ⟨rfl, rfl⟩
  · rename_i hworker
    simp only [Service.commit] at h
    split at h
    · cases h
      exact .inl ⟨rfl, rfl⟩
    · rename_i booking hbook
      obtain ⟨hposted, -⟩ := claimed_books (inv.phases _ _ hworker) hbook
      cases h
      refine .inr ⟨_, _, by rw [hposted, if_pos rfl], rfl, ?_, ?_⟩
      · simp [transferReceipt, hposted]
      · simp [transferReceipt, hposted]
  · cases h
    exact .inl ⟨rfl, rfl⟩
  · cases h

/-- For every interleaving of transfer calls, failures included: no key is posted
twice and a posted transfer has exactly its own entries; a step that posts nothing
leaves the database as it is; and a call that meets a row under its key posts
nothing and gets its due exactly when it is distinguished. -/
theorem interleaved_transfers_post_once (idle : ∀ phase ∈ s.workers, phase = .idle)
    (traced : Traced s.db s.posted) {labels : List (ℕ × Move)} (run : Run Step s labels t) :
    (t.posted.map (·.request.clientRequestId)).Nodup ∧
    (∀ record ∈ t.posted,
      (t.db.ledger.filter (·.transactionId = record.id)).map LedgerEntry.posting =
        (transferDrafts record.request record.parties record.legs record.id).map
          Db.EntryDraft.posting) ∧
    (∀ label t' event, t.step label = some (t', event) →
      (t'.db = t.db ∧ t'.posted = t.posted) ∨
        ∃ record receipt, t'.posted = t.posted ++ [record] ∧
          event = .returned record.request none (.ok receipt) ∧
          receipt.transactionId = record.id ∧ receipt.alreadyProcessed = false) ∧
    ∀ label t' request id existing result,
      t.step label = some (t', .returned request (some (id, existing)) result) →
      t'.db = t.db ∧ (Answered t request id existing result ↔ Distinguished t request) := by
  have start : Inv s := by
    refine ⟨traced, ?_, ?_⟩
    · intro i phase hphase
      rw [idle phase (List.mem_of_getElem? hphase)]
      trivial
    · intro i j phase phase' key hphase _ hkey _
      rw [idle phase (List.mem_of_getElem? hphase)] at hkey
      cases hkey
  have inv := start.run run
  exact ⟨inv.traced.once, inv.traced.entries, fun _ _ _ h => step_posts inv h,
    fun _ _ _ _ _ _ h => step_met inv h⟩

/-! ## Two workers and one key -/

/-- The state after a move. -/
def next (s : Service) (label : ℕ × Move) : Option Service := (s.step label).map Prod.fst

theorem step_of_next (s : Service) (label : ℕ × Move) (t : Service)
    (h : s.next label = some t) : Step s label t := by
  obtain ⟨⟨t', event⟩, hstep, rfl⟩ := Option.map_eq_some_iff.mp h
  exact ⟨event, hstep⟩

/-- A wallet of user 7 and the wallets of two organisations, which have no user. -/
def organisationWallets : Db :=
  Db.opened [userWallet 1 7 "UGX",
    { id := 2, ownerType := .organisation, userId := none, organisationId := some 20
      currency := "UGX" },
    { id := 3, ownerType := .organisation, userId := none, organisationId := some 30
      currency := "UGX" }] (by decide)

/-- Two idle workers; the user's wallet holds 1000 shillings. -/
def twoWorkers : Service where
  db := walletRun organisationWallets [fundFirst]
  workers := [.idle, .idle]
  posted := []

/-- A payment of 100 shillings to one of the organisations. -/
def payOrganisation (toAccountId : AccountId) : TransferRequest :=
  { fromAccountId := 1, toAccountId, amount := 100, currency := "UGX"
    clientRequestId := "invoice-5", systemInitiated := true }

/-- Both workers look the key up before either inserts it; the second finds the
first one's row in `get_or_create`. -/
def race : List (ℕ × Move) :=
  [(0, .call (Env.lenient 1 ⟨7, false⟩) (payOrganisation 2)),
    (1, .call (Env.lenient 1 ⟨7, false⟩) (payOrganisation 2)),
    (0, .check), (1, .check), (0, .claim), (0, .commit), (1, .claim)]

private theorem twoWorkers_traced : Traced twoWorkers.db twoWorkers.posted :=
  .nil (by decide +kernel)

private theorem twoWorkers_idle : ∀ phase ∈ twoWorkers.workers, phase = .idle := by
  simp [twoWorkers]

/-- The race posts the payment once. -/
theorem race_posts_once :
    ∃ t, exec next twoWorkers race = some t ∧ t.posted.length = 1 ∧
      (t.posted.map (·.request.clientRequestId)).Nodup := by
  have hposted : (exec next twoWorkers race).any (fun t => t.posted.length = 1) = true := by
    decide +kernel
  obtain ⟨t, hrun, hlength⟩ := (Option.any_eq_true _ _).mp hposted
  exact ⟨t, hrun, by simpa using hlength, (interleaved_transfers_post_once twoWorkers_idle
    twoWorkers_traced (Run.of_exec step_of_next hrun)).1⟩

/-- The call succeeded on a row although no transfer with its terms was posted. -/
def settlesOther (s : Service) : Event → Bool
  | .returned request (some _) (.ok _) =>
    s.posted.all (fun record => record.request.terms ≠ request.terms)
  | _ => false

/-- A payment to one organisation is answered with the payment to the other: both
recipients have no user. -/
theorem other_recipient_answered :
    ¬ ∀ (s t : Service) (labels : List (ℕ × Move)), (∀ phase ∈ s.workers, phase = .idle) →
      Traced s.db s.posted → Run Step s labels t →
      ∀ label t' request id existing result,
        t.step label = some (t', .returned request (some (id, existing)) result) →
        Answered t request id existing result := by
  intro claim
  have hcall : (exec next twoWorkers race).any (fun t =>
      (t.step (0, .call (Env.lenient 2 ⟨7, false⟩) (payOrganisation 3))).any
        (fun next => settlesOther t next.2)) = true := by decide +kernel
  obtain ⟨t, hrun, hcall⟩ := (Option.any_eq_true _ _).mp hcall
  obtain ⟨⟨t', event⟩, hstep, hother⟩ := (Option.any_eq_true _ _).mp hcall
  match event, hother, hstep with
  | .returned request (some (id, existing)) (.ok receipt), hother, hstep =>
    obtain ⟨-, hrejected⟩ := claim twoWorkers t race twoWorkers_idle twoWorkers_traced
      (Run.of_exec step_of_next hrun) _ _ _ _ _ _ hstep
    have hnone : ¬ ∃ record ∈ t.posted, record.id = id ∧
        record.request.terms = request.terms := by
      rintro ⟨record, hrecord, -, hterms⟩
      simp only [settlesOther, List.all_eq_true, decide_eq_true_eq] at hother
      exact hother record hrecord hterms
    cases hrejected fun h => hnone h.2

end Service

end Afcon360.Wallet
