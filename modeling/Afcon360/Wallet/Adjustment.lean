import Afcon360.Utils.IdGuard
import Afcon360.Wallet.System

/-!
# Adjustment requests

`admin_request_adjustment`, `approve_adjustment` and `reject_adjustment`. An
approval is three database transactions: reading the request, executing the
adjustment as a deposit or a withdrawal of its own, and committing the new status.
The request row is not locked in between. A request below the auto-approval
threshold is committed as approved and executed afterwards. The ledger key of an
execution is made of the time and the account.

`account_id` and `transaction_id` of a request are UUID columns that the check of assigned
identifiers takes for numbers. Unless the configuration sets `PRODUCTION`, no request can be
added, and the approval of one that is there raises after its execution was committed.

Workers move through these transactions in any order; a call that raises, or a
worker that stops, leaves what is committed. `executions` and `rejections` record
what happened, for the statements below.
-/

namespace Afcon360.Wallet

open Foundation Utils

inductive AdjustmentStatus
  | pending | approved | rejected
  deriving DecidableEq, Repr

inductive AdjustmentType
  | deposit | withdraw
  deriving DecidableEq, Repr

/-- A row of `wallet_adjustment_requests`. -/
structure AdjustmentRequest where
  accountId : AccountId
  amount : Amount
  currency : Currency
  adjustmentType : AdjustmentType
  reason : String
  requestedById : UserId
  status : AdjustmentStatus
  approvedById : Option UserId := none
  rejectedById : Option UserId := none
  rejectionReason : Option String := none
  transactionId : Option TransactionId := none

/-- What the adjustment calls read besides the wallet: the auto-approval
threshold and who is an owner or super admin. -/
structure AdminEnv extends Env where
  autoApproveThreshold : ℚ := 1000
  isHighAdmin : UserId → Bool

/-- The arguments of `admin_request_adjustment`. -/
structure AdjustmentArgs where
  accountId : AccountId
  amount : ℚ
  currency : Currency
  adjustmentType : AdjustmentType
  reason : String

/-- Small shilling amounts are approved at once. -/
def autoApproves (env : AdminEnv) (args : AdjustmentArgs) : Bool :=
  args.currency = "UGX" ∧ quantize args.amount < env.autoApproveThreshold

/-- A UUID may be assigned to this field of a request. -/
def requestAdmits (production : Bool) (field : String) : Bool :=
  IDGuard.admits production "AdjustmentRequestModel" field .other (some .uuid)

/-- The row `admin_request_adjustment` adds. -/
def newAdjustment (production : Bool) (env : AdminEnv) (db : Db) (args : AdjustmentArgs) :
    Attempt AdjustmentRequest :=
  match env.currentUser with
  | none => .error (.permission "Admin privileges required to request adjustment")
  | some user => do
      require (user.isAdmin = true) (.permission "Admin privileges required to request adjustment")
      require (args.reason.toList.any (fun c => !c.isWhitespace) = true)
        (.value "Reason is mandatory for manual adjustments")
      require (0 < quantize args.amount) (.value "Amount must be positive")
      let _ ← lockAccount db args.accountId
      require (requestAdmits production "account_id" = true)
        (.idViolation "AdjustmentRequestModel" "account_id")
      match Amount.ofDecimal? (quantize args.amount) with
      | none => .error .database
      | some amount =>
        pure
          { accountId := args.accountId
            amount
            currency := args.currency
            adjustmentType := args.adjustmentType
            reason := args.reason
            requestedById := user.id
            status := if autoApproves env args then .approved else .pending }

/-- The checks of `approve_adjustment` on the request it read. -/
def checkApproval (env : AdminEnv) (approver : UserId) (row : AdjustmentRequest) :
    Attempt Unit := do
  require (env.isHighAdmin approver = true)
    (.permission "Only Super Admins or Owners can approve adjustments")
  require (row.status = .pending) (.value "Request is already decided")

/-- The checks of `reject_adjustment` on the request it read. -/
def checkRejection (env : AdminEnv) (rejecter : UserId) (row : AdjustmentRequest) :
    Attempt Unit := do
  require (env.isHighAdmin rejecter = true ∨ row.requestedById = rejecter)
    (.permission "Permission denied to reject this request")
  require (row.status = .pending) (.value "Request is already decided")

/-- The idempotency key of `admin_deposit` and `admin_withdraw`. -/
def adjustmentKey (now : Timestamp) (row : AdjustmentRequest) : String :=
  match row.adjustmentType with
  | .deposit => "admin_dep_" ++ toString now ++ "_" ++ toString row.accountId
  | .withdraw => "admin_wd_" ++ toString now ++ "_" ++ toString row.accountId

/-- The reason an execution is recorded with. -/
def executionReason (request : ℕ) (row : AdjustmentRequest) (auto : Bool) : String :=
  (if auto then "Auto-Approved " else "Approved ") ++ "Adjustment: " ++ row.reason ++
    " (Request " ++ toString request ++ ")"

/-- The deposit or withdrawal that carries an adjustment out. -/
def adjustmentCall (now : Timestamp) (request : ℕ) (row : AdjustmentRequest) (auto : Bool) :
    CashRequest :=
  let metadata := [("adjustment_reason", executionReason request row auto),
    ("type", "admin_adjustment")]
  match row.adjustmentType with
  | .deposit => .deposit
      { accountId := some row.accountId
        amount := some row.amount.toDecimal
        currency := some row.currency
        clientRequestId := some (adjustmentKey now row)
        metadata
        txType := .adjustment }
  | .withdraw => .withdraw
      { accountId := row.accountId
        amount := row.amount.toDecimal
        currency := row.currency
        clientRequestId := adjustmentKey now row
        metadata
        txType := .adjustment }

/-- `admin_deposit` or `admin_withdraw`, as the request says. -/
def executeAdjustment (env : AdminEnv) (db : Db) (request : ℕ) (row : AdjustmentRequest)
    (auto : Bool) : Attempt (CashReceipt × Db) :=
  match env.currentUser with
  | none => .error (.permission "Admin privileges required")
  | some user => do
      require (user.isAdmin = true) (.permission "Admin privileges required")
      (adjustmentCall env.now request row auto).run env.toEnv db

namespace Adjustment

/-- An execution that posted a ledger entry for a request, and whether the
request had been rejected by then. -/
structure Execution where
  request : ℕ
  transactionId : TransactionId
  afterRejection : Bool

/-- Where a worker stands: between reading the request and executing it, between
the posting and the commit of the status, or before the commit of a rejection. -/
inductive Phase
  | idle
  | approving (request : ℕ) (approver : UserId) (auto : Bool)
  | executed (request : ℕ) (approver : UserId) (transactionId : TransactionId)
  | rejecting (request : ℕ) (rejecter : UserId) (reason : String)

structure State where
  /-- The configuration sets `PRODUCTION`. -/
  production : Bool
  db : Db
  requests : List AdjustmentRequest
  workers : List Phase
  executions : List Execution
  rejections : List ℕ

inductive Move
  | request (env : AdminEnv) (args : AdjustmentArgs)
  | approve (env : AdminEnv) (request : ℕ) (approver : UserId)
  | execute (env : AdminEnv)
  | finish
  | reject (env : AdminEnv) (request : ℕ) (rejecter : UserId) (reason : String)
  | commitRejection
  | fail

namespace State

def goto (s : State) (i : ℕ) (phase : Phase) : State :=
  { s with workers := s.workers.set i phase }

/-- Commit a new request; an auto-approved one is executed next. -/
def request (s : State) (i : ℕ) (env : AdminEnv) (args : AdjustmentArgs) : State :=
  match newAdjustment s.production env s.db args with
  | .error _ => s
  | .ok row =>
    { s with
      requests := s.requests ++ [row]
      workers := if autoApproves env args then
          s.workers.set i (.approving s.requests.length row.requestedById true)
        else s.workers }

/-- Read the request and check that it may be approved. -/
def approve (s : State) (i : ℕ) (env : AdminEnv) (request : ℕ) (approver : UserId) : State :=
  match s.requests[request]? with
  | none => s
  | some row =>
    match checkApproval env approver row with
    | .error _ => s
    | .ok () => s.goto i (.approving request approver false)

/-- Post the adjustment in a transaction of its own. -/
def execute (s : State) (i : ℕ) (env : AdminEnv) (request : ℕ) (approver : UserId)
    (auto : Bool) : State :=
  match s.requests[request]? with
  | none => s.goto i .idle
  | some row =>
    match executeAdjustment env s.db request row auto with
    | .error _ => s.goto i .idle
    | .ok (receipt, db) =>
      { s with
        db
        workers := s.workers.set i (.executed request approver receipt.transactionId)
        executions := if receipt.alreadyProcessed then s.executions
          else s.executions ++ [⟨request, receipt.transactionId, request ∈ s.rejections⟩] }

/-- Commit the approved status, whatever the status is by now. The assignment of the
transaction's id may raise before the commit. -/
def finish (s : State) (i : ℕ) (request : ℕ) (approver : UserId)
    (transactionId : TransactionId) : State :=
  if requestAdmits s.production "transaction_id" then
    { s with
      requests := s.requests.modify request (fun row =>
        { row with
          status := .approved, approvedById := some approver
          transactionId := some transactionId })
      workers := s.workers.set i .idle }
  else s.goto i .idle

/-- Read the request and check that it may be rejected. -/
def reject (s : State) (i : ℕ) (env : AdminEnv) (request : ℕ) (rejecter : UserId)
    (reason : String) : State :=
  match s.requests[request]? with
  | none => s
  | some row =>
    match checkRejection env rejecter row with
    | .error _ => s
    | .ok () => s.goto i (.rejecting request rejecter reason)

def commitRejection (s : State) (i : ℕ) (request : ℕ) (rejecter : UserId) (reason : String) :
    State :=
  { s with
    requests := s.requests.modify request (fun row =>
      { row with
        status := .rejected, rejectedById := some rejecter, rejectionReason := some reason })
    workers := s.workers.set i .idle
    rejections := request :: s.rejections }

/-- One transaction of one worker. -/
def step (s : State) (label : ℕ × Move) : Option State :=
  match label.2, s.workers[label.1]? with
  | .request env args, some .idle => some (s.request label.1 env args)
  | .approve env request approver, some .idle => some (s.approve label.1 env request approver)
  | .execute env, some (.approving request approver auto) =>
    some (s.execute label.1 env request approver auto)
  | .finish, some (.executed request approver transactionId) =>
    some (s.finish label.1 request approver transactionId)
  | .reject env request rejecter reason, some .idle =>
    some (s.reject label.1 env request rejecter reason)
  | .commitRejection, some (.rejecting request rejecter reason) =>
    some (s.commitRejection label.1 request rejecter reason)
  | .fail, some _ => some (s.goto label.1 .idle)
  | _, _ => none

def Step (s : State) (label : ℕ × Move) (t : State) : Prop := s.step label = some t

/-- A request was executed. -/
def Executed (s : State) (request : ℕ) : Prop :=
  ∃ execution ∈ s.executions, execution.request = request

/-- What is asked of a committed state: one execution per request at most, none
after a rejection, and a request is approved exactly when it was executed. -/
structure Sound (s : State) : Prop where
  once : (s.executions.map Execution.request).Nodup
  notRejected : ∀ execution ∈ s.executions, execution.afterRejection = false
  approvedIff : ∀ (request : ℕ) row, s.requests[request]? = some row →
    (row.status = .approved ↔ s.Executed request)

/-- All workers idle. -/
def initial (production : Bool) (db : Db) (rows : List AdjustmentRequest) (workers : ℕ) :
    State where
  production
  db
  requests := rows
  workers := List.replicate workers .idle
  executions := []
  rejections := []

/-- The step carries no adjustment out: it does not create an auto-approved
request, and an execution it attempts is refused by the wallet. -/
def Unexecuted (s : State) : ℕ × Move → Prop
  | (_, .request env args) => s.production = true → autoApproves env args = false
  | (i, .execute env) => ∀ request approver auto row,
      s.workers[i]? = some (.approving request approver auto) →
      s.requests[request]? = some row →
      (executeAdjustment env s.db request row auto).isOk = false
  | _ => True

/-- Nothing was carried out, and no worker is about to record that something
was. -/
structure Quiet (s : State) : Prop where
  executions : s.executions = []
  undecided : ∀ (request : ℕ) row, s.requests[request]? = some row → row.status ≠ .approved
  workers : ∀ phase ∈ s.workers, ∀ request approver id, phase ≠ .executed request approver id

variable {s t u : State} {i : ℕ} {label : ℕ × Move}

theorem Quiet.sound (h : Quiet s) : Sound s := by
  refine ⟨by rw [h.executions]; exact .nil, by simp [h.executions], ?_⟩
  intro request row hrow
  have hstatus := h.undecided request row hrow
  simp [Executed, h.executions, hstatus]

theorem Quiet.goto (h : Quiet s) {phase : Phase}
    (hphase : ∀ request approver id, phase ≠ .executed request approver id) :
    Quiet (s.goto i phase) := by
  refine ⟨h.executions, h.undecided, ?_⟩
  intro q hq
  obtain hold | rfl := List.mem_or_eq_of_mem_set hq
  · exact h.workers q hold
  · exact hphase

/-- Only a configuration for production lets a UUID pass. -/
theorem requestAdmits_iff {production : Bool} {field : String}
    (hfield : field = "account_id" ∨ field = "transaction_id") :
    requestAdmits production field = true ↔ production = true := by
  obtain rfl | rfl := hfield <;> cases production <;> decide

theorem newAdjustment_ok {production : Bool} {env : AdminEnv} {db : Db} {args : AdjustmentArgs}
    {row : AdjustmentRequest} (h : newAdjustment production env db args = .ok row) :
    production = true ∧ row.status = if autoApproves env args then .approved else .pending := by
  unfold newAdjustment at h
  split at h
  · cases h
  · simp only [check_bind_eq_ok] at h
    obtain ⟨-, -, -, h⟩ := h
    obtain ⟨_, -, h⟩ := bind_eq_ok.mp h
    simp only [check_bind_eq_ok, require_eq_ok] at h
    obtain ⟨hadmits, h⟩ := h
    refine ⟨(requestAdmits_iff (.inl rfl)).mp hadmits, ?_⟩
    split at h
    · cases h
    · cases h
      rfl

theorem Quiet.step (h : Quiet s) (hguard : Unexecuted s label) (hstep : s.step label = some t) :
    Quiet t := by
  obtain ⟨i, move⟩ := label
  unfold State.step at hstep
  split at hstep
  · rename_i env args hmove _
    obtain rfl : move = _ := hmove
    cases hstep
    unfold State.request
    split
    · exact h
    · rename_i row hrow
      obtain ⟨hproduction, hstatus⟩ := newAdjustment_ok hrow
      have hmanual : autoApproves env args = false := hguard hproduction
      refine ⟨h.executions, ?_, by simpa [hmanual] using h.workers⟩
      intro request other hother
      obtain hold | ⟨-, rfl⟩ := getElem?_append_cases hother
      · exact h.undecided request other hold
      · rw [hstatus, hmanual]
        simp
  · cases hstep
    unfold State.approve
    split
    · exact h
    · split
      · exact h
      · exact h.goto (by simp)
  · rename_i env request approver auto hmove hworker
    obtain rfl : move = _ := hmove
    cases hstep
    unfold State.execute
    split
    · exact h.goto (by simp)
    · rename_i row hrow
      have hrefused := hguard request approver auto row hworker hrow
      split
      · exact h.goto (by simp)
      · rename_i receipt db hok
        rw [hok] at hrefused
        cases hrefused
  · rename_i request approver id _ hworker
    exact absurd rfl (h.workers _ (List.mem_of_getElem? hworker) request approver id)
  · cases hstep
    unfold State.reject
    split
    · exact h
    · split
      · exact h
      · exact h.goto (by simp)
  · cases hstep
    have hidle : Quiet (s.goto i .idle) := h.goto (by simp)
    refine ⟨h.executions, ?_, hidle.workers⟩
    intro request row hrow
    obtain ⟨-, old, -, rfl⟩ | ⟨-, hold⟩ := getElem?_modify_cases hrow
    · simp
    · exact h.undecided request row hold
  · cases hstep
    exact h.goto (by simp)
  · cases hstep

/-! ## Carrying an adjustment out -/

/-- Every execution names a request that exists. -/
def Known (s : State) : Prop := ∀ execution ∈ s.executions, execution.request < s.requests.length

theorem Known.step (h : Known s) (hstep : s.step label = some t) : Known t := by
  unfold State.step at hstep
  split at hstep
  · cases hstep
    unfold State.request
    split
    · exact h
    · intro execution hexecution
      have := h execution hexecution
      simp only [List.length_append, List.length_singleton]
      omega
  · cases hstep
    unfold State.approve
    split
    · exact h
    · split <;> exact h
  · cases hstep
    unfold State.execute
    split
    · exact h
    · rename_i row hrow
      split
      · exact h
      · intro execution hexecution
        simp only at hexecution
        split at hexecution
        · exact h execution hexecution
        · obtain hold | hnew := List.mem_append.mp hexecution
          · exact h execution hold
          · obtain rfl := List.mem_singleton.mp hnew
            exact (List.getElem?_eq_some_iff.mp hrow).1
  · cases hstep
    unfold State.finish
    split
    · simpa [Known] using h
    · exact h
  · cases hstep
    unfold State.reject
    split
    · exact h
    · split <;> exact h
  · cases hstep
    simpa [Known, State.commitRejection] using h
  · cases hstep
    exact h
  · cases hstep

/-- The step posted an adjustment, or created a request that is approved
already. -/
def CarriesOut (s t : State) : Prop :=
  t.executions ≠ s.executions ∨ ∃ row, t.requests = s.requests ++ [row] ∧ row.status = .approved

/-- Only an execution changes what was executed; it leaves the requests alone. -/
theorem executions_step (hstep : s.step label = some t) (hchanged : t.executions ≠ s.executions) :
    t.requests = s.requests ∧ ∃ execution, t.executions = s.executions ++ [execution] ∧
      ∃ row, s.requests[execution.request]? = some row := by
  unfold State.step at hstep
  split at hstep
  · cases hstep
    unfold State.request at hchanged
    split at hchanged <;> exact absurd rfl hchanged
  · cases hstep
    unfold State.approve at hchanged
    split at hchanged
    · exact absurd rfl hchanged
    · split at hchanged <;> exact absurd rfl hchanged
  · cases hstep
    unfold State.execute at hchanged ⊢
    split at hchanged
    · exact absurd rfl hchanged
    · rename_i row hrow
      split at hchanged
      · exact absurd rfl hchanged
      · rename_i receipt db hok
        split at hchanged
        · exact absurd rfl hchanged
        · rename_i hnew
          exact ⟨rfl, _, by rw [if_neg hnew], row, hrow⟩
  · cases hstep
    unfold State.finish at hchanged
    split at hchanged <;> exact absurd rfl hchanged
  · cases hstep
    unfold State.reject at hchanged
    split at hchanged
    · exact absurd rfl hchanged
    · split at hchanged <;> exact absurd rfl hchanged
  · cases hstep
    exact absurd rfl hchanged
  · cases hstep
    exact absurd rfl hchanged
  · cases hstep

/-- Carrying an adjustment out breaks soundness at once: the posting is committed
before the status, or the status before the posting. -/
theorem carriesOut_unsound (hknown : Known s) (hstep : s.step label = some t)
    (hcarried : CarriesOut s t) : ¬ (Sound s ∧ Sound t) := by
  rintro ⟨before, after⟩
  obtain hchanged | ⟨row, hrequests, happroved⟩ := hcarried
  · obtain ⟨hsame, execution, hexecutions, row, hrow⟩ := executions_step hstep hchanged
    have hexecuted : t.Executed execution.request :=
      ⟨execution, by rw [hexecutions]; simp, rfl⟩
    have happroved := (after.approvedIff _ row (by rw [hsame]; exact hrow)).mpr hexecuted
    obtain ⟨earlier, hearlier, hrequest⟩ := (before.approvedIff _ row hrow).mp happroved
    have honce := after.once
    rw [hexecutions, List.map_append, List.map_singleton] at honce
    have hfresh := (List.nodup_append.mp honce).2.2 execution.request
      (List.mem_map.mpr ⟨earlier, hearlier, hrequest⟩) execution.request (by simp)
    exact hfresh rfl
  · have hrow : t.requests[s.requests.length]? = some row := by rw [hrequests]; simp
    obtain ⟨execution, hexecution, hrequest⟩ := (after.approvedIff _ row hrow).mp happroved
    by_cases hchanged : t.executions = s.executions
    · rw [hchanged] at hexecution
      have := hknown execution hexecution
      omega
    · have hlength := congrArg List.length (executions_step hstep hchanged).1
      rw [hrequests] at hlength
      simp at hlength

/-! ## Without requests -/

/-- There is no request, and none can be added. -/
structure Closed (s : State) : Prop where
  production : s.production = false
  requests : s.requests = []
  executions : s.executions = []

theorem Closed.sound (h : Closed s) : Sound s :=
  ⟨by rw [h.executions]; exact .nil, by simp [h.executions], by simp [h.requests]⟩

theorem Closed.step (h : Closed s) (hstep : s.step label = some t) : Closed t := by
  have hnone : ∀ request : ℕ, s.requests[request]? = none := fun _ => by simp [h.requests]
  unfold State.step at hstep
  split at hstep
  · cases hstep
    unfold State.request
    split
    · exact h
    · rename_i row hrow
      rw [h.production] at hrow
      cases (newAdjustment_ok hrow).1
  · cases hstep
    simpa [State.approve, hnone] using h
  · cases hstep
    simp only [State.execute, hnone]
    exact ⟨h.production, h.requests, h.executions⟩
  · cases hstep
    unfold State.finish
    split
    · exact ⟨h.production, by simp [h.requests], h.executions⟩
    · exact ⟨h.production, h.requests, h.executions⟩
  · cases hstep
    simpa [State.reject, hnone] using h
  · cases hstep
    exact ⟨h.production, by simp [State.commitRejection, h.requests], h.executions⟩
  · cases hstep
    exact ⟨h.production, h.requests, h.executions⟩
  · cases hstep

/-- For runs from idle workers, transaction by transaction: as long as nothing is carried out
every state is sound, and the step that carries an adjustment out leaves a state that is not.
Without a configuration for production an empty table stays empty and every state is sound. -/
theorem adjustments_sound (production : Bool) (db : Db) (rows : List AdjustmentRequest)
    (workers : ℕ) :
    ((∀ row ∈ rows, row.status ≠ .approved) → ∀ labels t,
      Run (Guarded Unexecuted Step) (initial production db rows workers) labels t → Sound t) ∧
    (∀ labels s t label, Run Step (initial production db rows workers) labels s →
      Step s label t → CarriesOut s t → ¬ (Sound s ∧ Sound t)) ∧
    (production = false → rows = [] → ∀ labels t,
      Run Step (initial production db rows workers) labels t → Sound t ∧ t.requests = []) := by
  refine ⟨?_, ?_, ?_⟩
  · intro hrows labels t run
    have start : Quiet (initial production db rows workers) := by
      refine ⟨rfl, fun request row hrow => hrows row (List.mem_of_getElem? hrow), ?_⟩
      intro phase hphase
      rw [(List.mem_replicate.mp hphase).2]
      simp
    exact (run.invariant Quiet (fun _ _ _ h hstep => h.step hstep.1 hstep.2) start).sound
  · intro labels s t label run hstep
    have start : Known (initial production db rows workers) := by simp [Known, initial]
    have hknown := run.invariant Known (fun _ _ _ h hstep => h.step hstep) start
    exact carriesOut_unsound hknown hstep
  · intro hproduction hrows labels t run
    have hclosed := run.invariant Closed (fun _ _ _ h hstep => h.step hstep)
      ⟨hproduction, hrows, rfl⟩
    exact ⟨hclosed.sound, hclosed.requests⟩

/-! ## Two reviewers -/

/-- The administrator 9, who is an owner, at a given time. -/
def ownerEnv (now : Timestamp) : AdminEnv where
  toEnv := Env.lenient now ⟨9, true⟩
  isHighAdmin := fun user => user = 9

/-- A credit of 5000 shillings, which needs an approval. -/
def credit : AdjustmentArgs :=
  { accountId := 1, amount := 5000, currency := "UGX", adjustmentType := .deposit
    reason := "Missing top-up" }

/-- Both reviewers read the request while it is pending, and both post it. -/
def bothApprove : List (ℕ × Move) :=
  [(0, .request (ownerEnv 1) credit), (0, .approve (ownerEnv 2) 0 9),
    (1, .approve (ownerEnv 2) 0 9), (0, .execute (ownerEnv 2)), (1, .execute (ownerEnv 3)),
    (0, .finish), (1, .finish)]

/-- A pending request of 5000 shillings. -/
def pendingCredit : AdjustmentRequest :=
  { accountId := 1, amount := ⟨5000000000, by decide, by decide⟩, currency := "UGX"
    adjustmentType := .deposit, reason := "Missing top-up", requestedById := 9
    status := .pending }

/-- One reviewer approves the request that is there. -/
def oneApproves : List (ℕ × Move) :=
  [(0, .approve (ownerEnv 2) 0 9), (0, .execute (ownerEnv 2)), (0, .finish)]

/-- In production two reviewers post a request twice. Otherwise one reviewer is enough: the
request is posted and stays pending. -/
theorem two_reviewers_post_twice :
    (¬ ∀ db workers labels t, Run Step (initial true db [] workers) labels t → Sound t) ∧
    ¬ ∀ db workers labels t, Run Step (initial false db [pendingCredit] workers) labels t →
      Sound t := by
  constructor
  · intro claim
    have htwice : (exec step (initial true twoWallets [] 2) bothApprove).any
        (fun t => !decide (t.executions.map Execution.request).Nodup) = true := by
      decide +kernel
    obtain ⟨t, hrun, htwice⟩ := (Option.any_eq_true _ _).mp htwice
    have honce := (claim _ _ _ t (Run.of_exec (fun _ _ _ h => h) hrun)).once
    simp [honce] at htwice
  · intro claim
    have hposted : (exec step (initial false twoWallets [pendingCredit] 1) oneApproves).any
        (fun t => decide (t.executions.map Execution.request = [0] ∧
          t.requests.map (fun row => row.status) = [.pending])) = true := by
      decide +kernel
    obtain ⟨t, hrun, hposted⟩ := (Option.any_eq_true _ _).mp hposted
    obtain ⟨hexecutions, hrequests⟩ := of_decide_eq_true hposted
    have sound := claim _ _ _ t (Run.of_exec (fun _ _ _ h => h) hrun)
    obtain ⟨execution, hmem, hzero⟩ := List.mem_map.mp (hexecutions ▸ List.mem_singleton_self 0)
    obtain ⟨row, hrow, hpending⟩ := List.map_eq_singleton_iff.mp hrequests
    have happroved := (sound.approvedIff 0 row (by rw [hrow]; rfl)).mpr ⟨execution, hmem, hzero⟩
    rw [hpending] at happroved
    cases happroved

end State

end Adjustment

end Afcon360.Wallet
