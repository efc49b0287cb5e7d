import Afcon360.Foundation.Session
import Afcon360.Wallet.AgentFloat
import Afcon360.Wallet.System

/-!
# Agent cash-in

`AgentCashInService.confirm` debits the agent's float and deposits into the customer's
wallet inside one `with session.begin()` block, and credits the float again when an
exception other than a `ValueError` escapes. The deposit is written to be called
outside of any transaction: it rolls the session back before it opens its own, so
inside the block it discards the debit and, with a session that does not reopen a
block, fails to begin.

Either way the block leaves the float as it was, and the credit that is meant to undo
the debit comes on top.
-/

namespace Afcon360.Wallet

open Foundation

/-- A pending deposit, as it is kept in Redis. -/
structure DepositIntent where
  source : String
  amount : ℚ
  currency : Currency
  userId : UserId
  accountId : Option AccountId

/-- The rows of the two services and the pending deposits. -/
structure CashDesk where
  wallet : Db
  floats : FloatBook
  intents : String → Option DepositIntent

structure AgentUser where
  id : UserId
  isAgent : Bool := true

/-- Where the database may fail on its own: in the float's debit, inside the deposit's
transaction, in the read after its commit, and in the float's credit. -/
structure CashInFaults where
  debit : Bool := false
  deposit : Bool := false
  balance : Bool := false
  refund : Bool := false

/-- What a confirmation meets. -/
structure CashInEnv where
  wallet : Env
  agent : AgentUser
  agentsEnabled : Bool := true
  /-- The refusal of `assert_agent_can_operate`. -/
  guard : Option String := none
  /-- Earlier reads left a transaction open. -/
  begun : Bool := false
  /-- Whether the session begins again inside a block that was rolled back. -/
  reopens : Bool := false
  faults : CashInFaults := {}

/-- The exception classes the service tells apart: `KeyError`, `TypeError` and
`ValueError` on the one hand, all others on the other. -/
inductive Escape
  | malformed
  | other
  deriving DecidableEq

def FloatError.escape : FloatError → Escape
  | .value _ => .malformed
  | .database => .other

/-- The classes of `wallet.exceptions` derive from `Exception`. -/
def WalletError.escape : WalletError → Escape
  | .value _ => .malformed
  | _ => .other

/-- The deposit of a confirmation. -/
def DepositIntent.request (intent : DepositIntent) (reference : String) (agent : AgentUser) :
    DepositRequest where
  accountId := intent.accountId
  amount := some intent.amount
  currency := some intent.currency
  reference := some reference
  idempotencyKey := some reference
  systemInitiated := true
  metadata := [("agent_id", toString agent.id), ("source", "agent_cash_in"),
    ("reference", reference)]

/-- What `deposit` validates before it rolls the session back. -/
def depositPrelude (env : Env) (db : Db) (request : DepositRequest) : Attempt Unit := do
  let _ ← resolveDepositAccount db request
  match request.amount, request.currency with
  | some amount, some currency => do
      require (0 < quantize amount) (.value "Amount must be greater than zero")
      validateCurrency env currency
      checkTransactionLimit env (quantize amount) .deposit
  | _, _ => .error (.value "amount and currency are required")

namespace CashDesk

/-- `float_service.debit`. -/
def debitWork (env : CashInEnv) (reference : String) (intent : DepositIntent) :
    Work CashDesk Escape Unit := fun session =>
  if env.faults.debit then (.error .other, session.read)
  else
    match session.working.floats.debit env.agent.id intent.currency intent.amount .cashIn
        (some reference) (some env.agent.id) with
    | .error e => (.error e.escape, session.read)
    | .ok floats => (.ok (), session.write (fun desk => { desk with floats }))

/-- `wallet_service.deposit`, in the caller's session. -/
def depositWork (env : CashInEnv) (reference : String) (intent : DepositIntent) :
    Work CashDesk Escape CashReceipt := fun session =>
  let request := intent.request reference env.agent
  match depositPrelude env.wallet session.working.wallet request with
  | .error e => (.error e.escape, session)
  | .ok () =>
    let outcome := Session.block env.reopens .other (fun (opened : Session CashDesk) =>
      match deposit env.wallet opened.working.wallet request with
      | .error e => (.error e.escape, opened)
      | .ok (receipt, wallet) =>
        if env.faults.deposit then (.error .other, opened)
        else (.ok receipt, opened.write (fun desk => { desk with wallet }))) session.rollback
    match outcome with
    | (.error e, left) => (.error e, left)
    | (.ok receipt, left) =>
      -- A replay returns from inside the block and reads no balance after it.
      if receipt.alreadyProcessed then (.ok receipt, left)
      else if env.faults.balance then (.error .other, left.read)
      else (.ok receipt, left.read)

/-- The body of the block of `confirm`. -/
def cashInWork (env : CashInEnv) (reference : String) (intent : DepositIntent) :
    Work CashDesk Escape CashReceipt := fun session =>
  match debitWork env reference intent session with
  | (.error e, left) => (.error e, left)
  | (.ok (), debited) => depositWork env reference intent debited

/-- `float_service.credit`, as it is called after a failure. -/
def creditWork (env : CashInEnv) (intent : DepositIntent) : Work CashDesk Escape Unit :=
  fun session =>
    if env.faults.refund then (.error .other, session.read)
    else
      match session.working.floats.credit env.agent.id intent.currency intent.amount .adjustment
          none none with
      | .error e => (.error e.escape, session.read)
      | .ok floats => (.ok (), session.write (fun desk => { desk with floats }))

/-- The checks before the block, with the intent of the reference. -/
def pendingCashIn (env : CashInEnv) (desk : CashDesk) (reference : String) :
    Except String DepositIntent := do
  require env.agent.isAgent "Only authorized agents can confirm cash-ins."
  require env.agentsEnabled "Agent cash-in is currently disabled."
  match desk.intents reference with
  | none => .error "Invalid or expired reference code."
  | some intent => do
      require (intent.source = "agent") "This reference is not an agent deposit."
      match env.guard with
      | some message => .error message
      | none => pure intent

/-- `consume_deposit_intent`. -/
def consume (desk : CashDesk) (reference : String) : CashDesk :=
  { desk with intents := fun other => if other = reference then none else desk.intents other }

/-- `AgentCashInService.confirm`: whether it reports success, and what is committed. -/
def confirmCashIn (env : CashInEnv) (desk : CashDesk) (reference : String) : Bool × CashDesk :=
  match pendingCashIn env desk reference with
  | .error _ => (false, desk)
  | .ok intent =>
    match Session.block env.reopens .other (cashInWork env reference intent)
        { Session.idle desk with active := env.begun } with
    | (.ok _, left) => (true, left.committed.consume reference)
    | (.error .malformed, left) => (false, left.committed)
    | (.error .other, left) =>
      -- A failure of the credit is only logged.
      (false, (Session.block env.reopens .other (creditWork env intent) left).2.committed)

/-! ## What is asked -/

/-- The float of the agent in the currency of the deposit. -/
def floatOf (desk : CashDesk) (env : CashInEnv) (intent : DepositIntent) : ℚ :=
  desk.floats.getBalance env.agent.id intent.currency

/-- The customer's balance in that currency. -/
def walletOf (desk : CashDesk) (intent : DepositIntent) : ℚ :=
  match intent.accountId with
  | none => 0
  | some accountId => desk.wallet.getBalance accountId intent.currency

/-- All or nothing: the float falls by the amount exactly if the wallet rises by it,
and a confirmation that reports a failure moves neither. -/
def AllOrNothing (env : CashInEnv) (desk : CashDesk) (reference : String) : Prop :=
  let after := (confirmCashIn env desk reference).2
  ∀ intent, desk.intents reference = some intent →
    (after.floatOf env intent = desk.floatOf env intent - intent.amount ↔
      after.walletOf intent = desk.walletOf intent + intent.amount) ∧
    ((confirmCashIn env desk reference).1 = false →
      after.floatOf env intent = desk.floatOf env intent ∧
        after.walletOf intent = desk.walletOf intent)

/-- A `ValueError`: the float refuses the debit (the amount is not positive, there is
no float, it is too low), or the deposit has no account or rounds to nothing. -/
def Malformed (desk : CashDesk) (env : CashInEnv) (reference : String) (intent : DepositIntent) :
    Prop :=
  env.faults.debit = false ∧
    (match desk.floats.debit env.agent.id intent.currency intent.amount .cashIn (some reference)
        (some env.agent.id) with
    | .error (.value _) => true
    | .error .database => false
    | .ok _ => decide (intent.accountId = none ∨ quantize intent.amount ≤ 0)) = true

/-- The credit after a failure succeeds and moves the float. -/
def RefundMoves (desk : CashDesk) (env : CashInEnv) (intent : DepositIntent) : Prop :=
  env.faults.refund = false ∧
    match desk.floats.credit env.agent.id intent.currency intent.amount .adjustment none none with
    | .error _ => False
    | .ok floats => floats.getBalance env.agent.id intent.currency ≠ desk.floatOf env intent

/-- The desk after the credit that follows a failure. -/
def refunded (desk : CashDesk) (env : CashInEnv) (intent : DepositIntent) : CashDesk :=
  if env.faults.refund then desk
  else
    match desk.floats.credit env.agent.id intent.currency intent.amount .adjustment none none with
    | .error _ => desk
    | .ok floats => { desk with floats }

/-! ## The course of a confirmation -/

section

variable {env : CashInEnv} {desk : CashDesk} {reference : String} {intent : DepositIntent}

theorem pendingCashIn_ok (h : pendingCashIn env desk reference = .ok intent) :
    desk.intents reference = some intent := by
  simp only [pendingCashIn, check_bind_eq_ok] at h
  obtain ⟨-, -, h⟩ := h
  split at h
  · cases h
  · rename_i found hfound
    obtain ⟨-, h⟩ := check_bind_eq_ok.mp h
    split at h
    · cases h
    · rw [hfound, pure_eq_ok.mp h]

/-- A desk on which neither side moved. -/
theorem unmoved_iff :
    (desk.floatOf env intent = desk.floatOf env intent - intent.amount ↔
      desk.walletOf intent = desk.walletOf intent + intent.amount) := by
  constructor
  · intro h
    linarith
  · intro h
    linarith

/-- The deposit's own checks raise a `ValueError` exactly without an account or with
an amount that rounds to nothing. -/
theorem depositPrelude_escape (env : CashInEnv) (db : Db) (reference : String)
    (intent : DepositIntent) :
    (∃ e, depositPrelude env.wallet db (intent.request reference env.agent) = .error e ∧
        e.escape = .malformed) ↔ intent.accountId = none ∨ quantize intent.amount ≤ 0 := by
  cases haccount : intent.accountId with
  | none =>
    simp [depositPrelude, DepositIntent.request, resolveDepositAccount, haccount, bind,
      Except.bind, WalletError.escape]
  | some accountId =>
    by_cases hamount : 0 < quantize intent.amount
    · have hpositive : ¬ quantize intent.amount ≤ 0 := not_le.mpr hamount
      simp only [reduceCtorEq, false_or, hpositive, iff_false]
      rintro ⟨e, he, hescape⟩
      simp only [depositPrelude, DepositIntent.request, resolveDepositAccount, haccount, bind,
        Except.bind, require, hamount, if_true, validateCurrency, checkTransactionLimit] at he
      split at he
      · rename_i hcurrency
        split at hcurrency
        · cases hcurrency
        · cases hcurrency
          cases he
          cases hescape
      · split at he
        · cases he
        · cases he
          cases hescape
    · simp [depositPrelude, DepositIntent.request, resolveDepositAccount, haccount, bind,
        Except.bind, require, hamount, WalletError.escape, not_lt.mp hamount]

theorem confirm_begun (hpending : pendingCashIn env desk reference = .ok intent)
    (hbegun : env.begun = true) : confirmCashIn env desk reference = (false, desk) := by
  have hactive : ({ Session.idle desk with active := env.begun } : Session CashDesk).active =
      true := hbegun
  simp only [confirmCashIn, hpending, Session.block_refused hactive]
  rfl

theorem credit_committed (env : CashInEnv) (intent : DepositIntent) (desk : CashDesk) :
    (Session.block env.reopens Escape.other (creditWork env intent)
      (Session.idle desk)).2.committed = desk.refunded env intent := by
  cases hfault : env.faults.refund with
  | true =>
    have hbody : creditWork env intent (Session.opened desk) =
        (.error .other, (Session.opened desk).read) := by
      simp [creditWork, hfault]
    rw [Session.block_error hbody]
    simp [refunded, hfault, Session.read, Session.rollback, Session.opened]
  | false =>
    cases hcredit : desk.floats.credit env.agent.id intent.currency intent.amount .adjustment
        none none with
    | error e =>
      have hbody : creditWork env intent (Session.opened desk) =
          (.error e.escape, (Session.opened desk).read) := by
        simp [creditWork, hfault, Session.opened, hcredit]
      rw [Session.block_error hbody]
      simp [refunded, hfault, hcredit, Session.read, Session.rollback, Session.opened]
    | ok floats =>
      have hbody : creditWork env intent (Session.opened desk) =
          (.ok (), (Session.opened desk).write (fun desk => { desk with floats })) := by
        simp [creditWork, hfault, Session.opened, hcredit]
      rw [Session.block_ok hbody rfl]
      simp [refunded, hfault, hcredit, Session.write, Session.commit, Session.opened]

/-- With a session that does not reopen a block, the body fails: before it touches the
wallet if the call is malformed, and otherwise with another exception. In both cases
what is committed is as before. -/
theorem cashIn_fails (desk : CashDesk) (reference : String) (intent : DepositIntent)
    (hclosed : env.reopens = false) :
    ∃ e, Session.block env.reopens Escape.other (cashInWork env reference intent)
        (Session.idle desk) = (.error e, Session.idle desk) ∧
      (e = .malformed ↔ desk.Malformed env reference intent) := by
  cases hfault : env.faults.debit with
  | true =>
    have hbody : cashInWork env reference intent (Session.opened desk) =
        (.error .other, (Session.opened desk).read) := by
      simp [cashInWork, debitWork, hfault]
    refine ⟨_, Session.block_error hbody, ?_⟩
    simp [Malformed, hfault]
  | false =>
    cases hdebit : desk.floats.debit env.agent.id intent.currency intent.amount .cashIn
        (some reference) (some env.agent.id) with
    | error e =>
      have hbody : cashInWork env reference intent (Session.opened desk) =
          (.error e.escape, (Session.opened desk).read) := by
        simp [cashInWork, debitWork, hfault, Session.opened, hdebit]
      refine ⟨_, Session.block_error hbody, ?_⟩
      cases e <;> simp [Malformed, hfault, hdebit, FloatError.escape]
    | ok floats =>
      have hdebited : cashInWork env reference intent (Session.opened desk) =
          depositWork env reference intent
            ((Session.opened desk).write (fun desk => { desk with floats })) := by
        simp [cashInWork, debitWork, hfault, Session.opened, hdebit]
      have hescape := depositPrelude_escape env desk.wallet reference intent
      cases hprelude : depositPrelude env.wallet desk.wallet
          (intent.request reference env.agent) with
      | error e =>
        have hbody : cashInWork env reference intent (Session.opened desk) =
            (.error e.escape,
              (Session.opened desk).write (fun desk => { desk with floats })) := by
          rw [hdebited]
          simp [depositWork, Session.opened, Session.write, hprelude]
        refine ⟨_, Session.block_error hbody, ?_⟩
        simp only [Malformed, hfault, hdebit, true_and, decide_eq_true_eq, ← hescape, hprelude]
        simp
      | ok _ =>
        -- The deposit rolls the block's transaction back and cannot begin its own.
        have hbody : cashInWork env reference intent (Session.opened desk) =
            (.error .other, ((Session.opened desk).write
              (fun desk => { desk with floats })).rollback) := by
          rw [hdebited]
          simp only [depositWork, Session.opened, Session.write, hprelude]
          rw [Session.block_closed rfl hclosed]
        refine ⟨_, Session.block_error hbody, ?_⟩
        simp only [Malformed, hfault, hdebit, true_and, decide_eq_true_eq, ← hescape, hprelude]
        simp

/-- A confirmation that reaches the block: nothing happens if it is malformed, else
the float is credited. -/
theorem confirm_reaches (hclosed : env.reopens = false) (hidle : env.begun = false)
    (hpending : pendingCashIn env desk reference = .ok intent) :
    (desk.Malformed env reference intent → confirmCashIn env desk reference = (false, desk)) ∧
      (¬ desk.Malformed env reference intent →
        confirmCashIn env desk reference = (false, desk.refunded env intent)) := by
  obtain ⟨e, hblock, hmalformed⟩ := cashIn_fails desk reference intent hclosed
  have hsession : ({ Session.idle desk with active := env.begun } : Session CashDesk) =
      Session.idle desk := by
    rw [hidle]
    rfl
  cases e with
  | malformed =>
    have hm : desk.Malformed env reference intent := hmalformed.mp rfl
    refine ⟨fun _ => ?_, fun h => absurd hm h⟩
    simp only [confirmCashIn, hpending, hsession, hblock]
    rfl
  | other =>
    have hm : ¬ desk.Malformed env reference intent := by
      intro h
      cases hmalformed.mpr h
    refine ⟨fun h => absurd h hm, fun _ => ?_⟩
    simp only [confirmCashIn, hpending, hsession, hblock, credit_committed]

/-- The credit after a failure leaves the wallet, and the float unless it moves it. -/
theorem refunded_float :
    (desk.refunded env intent).floatOf env intent = desk.floatOf env intent ↔
      ¬ desk.RefundMoves env intent := by
  cases hfault : env.faults.refund with
  | true => simp [refunded, RefundMoves, hfault]
  | false =>
    cases hcredit : desk.floats.credit env.agent.id intent.currency intent.amount .adjustment
        none none with
    | error e => simp [refunded, RefundMoves, hfault, hcredit]
    | ok floats =>
      simp only [refunded, RefundMoves, hfault, hcredit, floatOf, true_and, ne_eq, not_not,
        Bool.false_eq_true, if_false]

theorem refunded_wallet (env : CashInEnv) (desk : CashDesk) (intent : DepositIntent) :
    (desk.refunded env intent).walletOf intent = desk.walletOf intent := by
  have hwallet : (desk.refunded env intent).wallet = desk.wallet := by
    unfold refunded
    split
    · rfl
    · split <;> rfl
  rw [walletOf, walletOf, hwallet]

end

/-- A deposit of the customer 7 through an agent. -/
def cashInOf (amount : ℚ) : DepositIntent :=
  { source := "agent", amount, currency := "UGX", userId := 7, accountId := some 1 }

/-- An agent with a float of 500 shillings, a customer with a wallet, and deposits of
200 and 600. -/
def agentDesk : CashDesk where
  wallet := Db.opened [userWallet 1 7 "UGX"] (by decide)
  floats :=
    { accounts := ⟨[{ userId := 4, currency := "UGX", balance := 5000000 }], by decide⟩
      ledger := [] }
  intents := fun reference =>
    if reference = "DEP-1" then some (cashInOf 200)
    else if reference = "DEP-2" then some (cashInOf 600)
    else none

/-- The environment of the agent: deposits above the given limit are refused. -/
def agentEnv (walletMax : ℚ) : CashInEnv where
  wallet := { Env.lenient 0 ⟨4, false⟩ with walletMax := fun _ => walletMax }
  agent := { id := 4 }

end CashDesk

end Afcon360.Wallet
