import Afcon360.Foundation.Guard
import Afcon360.Foundation.Run
import Afcon360.Wallet.Commission

/-!
# Payouts of agent commissions

`PayoutService` pays agents the commission they have earned. What may be requested is
read from the unpaid commission rows at the time of the request; the rows are
consumed when a payout is paid, the oldest first and each as a whole. Requests that
are still open do not reduce what further requests may ask for.
-/

namespace Afcon360.Wallet

open Foundation

inductive PayoutStatus
  | pending | approved | rejected | paid
  deriving DecidableEq, Repr

def PayoutStatus.text : PayoutStatus → String
  | .pending => "pending"
  | .approved => "approved"
  | .rejected => "rejected"
  | .paid => "paid"

/-- A row of `payout_requests`; its reference is its position. -/
structure PayoutRequest where
  agentId : UserId
  amount : ℚ
  currency : Currency
  paymentMethod : String
  status : PayoutStatus := .pending
  deriving DecidableEq

/-- What a call of the service reports instead of a success: a reply with its message,
or an exception. -/
inductive PayoutError
  | reply (message : String)
  | raised
  deriving DecidableEq

/-- The column `NUMERIC(18, 6)`; `none` is a numeric overflow. -/
@[irreducible] def storePayout? (amount : ℚ) : Option ℚ :=
  let steps := roundHalfUp microsPerUnit amount
  if |steps| < 10 ^ 18 then some (gridValue microsPerUnit steps) else none

/-- The row is one `settle_for_payout` and `available_commission` read. -/
def Commission.unpaidFor (agentId : UserId) (currency : Currency) (row : Commission) : Bool :=
  row.agentId = agentId ∧ row.currency = currency ∧ row.isPaid = false

/-- The row is paid, for this agent and currency. -/
def Commission.paidTo (agentId : UserId) (currency : Currency) (row : Commission) : Bool :=
  row.agentId = agentId ∧ row.currency = currency ∧ row.isPaid = true

/-- The request is paid, for this agent and currency. -/
def PayoutRequest.paidTo (agentId : UserId) (currency : Currency) (payout : PayoutRequest) : Bool :=
  payout.agentId = agentId ∧ payout.currency = currency ∧ payout.status = .paid

/-- The loop of `settle_for_payout`: mark the unpaid rows of the agent while something
of the amount remains. -/
def settleRows (agentId : UserId) (currency : Currency) : List Commission → ℚ → List Commission
  | [], _ => []
  | row :: rows, remaining =>
    if row.unpaidFor agentId currency then
      if remaining ≤ 0 then row :: rows
      else { row with isPaid := true } :: settleRows agentId currency rows (remaining - row.amount)
    else row :: settleRows agentId currency rows remaining

/-- What `WalletService.deposit` did for a payout to the agent's wallet. -/
inductive Disbursement
  /-- It raised. -/
  | failed
  /-- It returned without recording a commission: the deposit was known already. -/
  | known
  /-- It booked the transaction and, since the metadata name the agent, recorded a
  commission at the cash-in rate. -/
  | booked (rate : ℚ) (transactionId : TransactionId)
  deriving DecidableEq

/-- The commission rows a disbursement leaves behind. -/
def Disbursement.rows (disbursement : Disbursement) (payout : PayoutRequest) : List Commission :=
  match disbursement with
  | .booked rate transactionId =>
    commissionFor rate payout.amount payout.agentId payout.currency .deposit transactionId
  | _ => []

theorem commissionFor_pos {rate amount : ℚ} {agentId : UserId} {currency : Currency}
    {sourceType : CommissionSource} {sourceId : TransactionId} :
    ∀ row ∈ commissionFor rate amount agentId currency sourceType sourceId, 0 < row.amount := by
  intro row hrow
  unfold commissionFor at hrow
  split at hrow
  · rw [List.mem_singleton.mp hrow]
    assumption
  · cases hrow

theorem Disbursement.rows_pos {disbursement : Disbursement} {payout : PayoutRequest} :
    ∀ row ∈ disbursement.rows payout, 0 < row.amount := by
  intro row hrow
  cases disbursement with
  | failed => cases hrow
  | known => cases hrow
  | booked rate transactionId => exact commissionFor_pos row hrow

theorem settleRows_pos {agentId : UserId} {currency : Currency} {rows : List Commission}
    {remaining : ℚ} (h : ∀ row ∈ rows, 0 < row.amount) :
    ∀ row ∈ settleRows agentId currency rows remaining, 0 < row.amount := by
  induction rows generalizing remaining with
  | nil =>
    intro row hrow
    cases hrow
  | cons first rest ih =>
    have hfirst := h first List.mem_cons_self
    have hrest := fun row hrow => h row (List.mem_cons_of_mem first hrow)
    unfold settleRows
    split
    · split
      · exact h
      · intro row hrow
        obtain rfl | hrow := List.mem_cons.mp hrow
        · exact hfirst
        · exact ih hrest row hrow
    · intro row hrow
      obtain rfl | hrow := List.mem_cons.mp hrow
      · exact hfirst
      · exact ih hrest row hrow

/-- The two tables. Commissions are recorded only if they are positive. -/
structure Agency where
  commissions : List Commission := []
  payouts : List PayoutRequest := []
  positive : ∀ row ∈ commissions, 0 < row.amount := by simp

namespace Agency

variable {s t : Agency} {agentId : UserId} {currency : Currency}

/-- The amounts of the unpaid commissions of an agent, oldest first. -/
def unpaid (agentId : UserId) (currency : Currency) (rows : List Commission) : List ℚ :=
  (rows.filter (Commission.unpaidFor agentId currency)).map Commission.amount

/-- `available_commission`. -/
def availableCommission (s : Agency) (agentId : UserId) (currency : Currency) : ℚ :=
  (unpaid agentId currency s.commissions).sum

/-- `record_commission`, behind the check of its callers that there is something to
record. -/
def recordCommission (s : Agency) (rate amount : ℚ) (agentId : UserId) (currency : Currency)
    (sourceType : CommissionSource) (sourceId : TransactionId) : Agency where
  commissions := s.commissions ++ commissionFor rate amount agentId currency sourceType sourceId
  payouts := s.payouts
  positive := by
    intro row hrow
    obtain hrow | hrow := List.mem_append.mp hrow
    · exact s.positive row hrow
    · exact commissionFor_pos row hrow

/-- `request_for_agent`. -/
def requestForAgent (s : Agency) (agentId : UserId) (amount : ℚ) (currency : Currency)
    (paymentMethod : String) : Except PayoutError Agency := do
  require (0 < amount) (.reply "Payout amount must be positive.")
  require (amount ≤ s.availableCommission agentId currency + 1 / 100)
    (.reply "Requested amount exceeds available commission.")
  match storePayout? amount with
  | none => .error .raised
  | some stored =>
    .ok { s with payouts := s.payouts ++ [{ agentId, amount := stored, currency, paymentMethod }] }

/-- `PayoutRepository.get`. -/
def get (s : Agency) (requestRef : ℕ) : Except PayoutError PayoutRequest :=
  match s.payouts[requestRef]? with
  | none => .error (.reply "Payout request not found.")
  | some payout => .ok payout

def setStatus (s : Agency) (requestRef : ℕ) (status : PayoutStatus) : Agency :=
  { s with payouts := s.payouts.modify requestRef (fun payout => { payout with status }) }

/-- `approve`. -/
def approve (s : Agency) (requestRef : ℕ) : Except PayoutError Agency := do
  let payout ← s.get requestRef
  require (payout.status = .pending) (.reply ("Payout is already " ++ payout.status.text ++ "."))
  .ok (s.setStatus requestRef .approved)

/-- `reject`. -/
def reject (s : Agency) (requestRef : ℕ) : Except PayoutError Agency := do
  let payout ← s.get requestRef
  require (payout.status ≠ .paid ∧ payout.status ≠ .rejected)
    (.reply ("Payout is already " ++ payout.status.text ++ "."))
  .ok (s.setStatus requestRef .rejected)

/-- The commissions when `settle_for_payout` starts. -/
def rowsBefore (s : Agency) (payout : PayoutRequest) (disbursement : Disbursement) :
    List Commission :=
  if payout.paymentMethod = "wallet" then s.commissions ++ disbursement.rows payout
  else s.commissions

theorem rowsBefore_pos {payout : PayoutRequest} {disbursement : Disbursement} :
    ∀ row ∈ s.rowsBefore payout disbursement, 0 < row.amount := by
  intro row hrow
  unfold rowsBefore at hrow
  split at hrow
  · obtain hrow | hrow := List.mem_append.mp hrow
    · exact s.positive row hrow
    · exact Disbursement.rows_pos row hrow
  · exact s.positive row hrow

/-- Settle the commissions up to the amount of the payout and mark it paid. -/
def settle (s : Agency) (requestRef : ℕ) (payout : PayoutRequest) (disbursement : Disbursement) :
    Agency where
  commissions :=
    settleRows payout.agentId payout.currency (s.rowsBefore payout disbursement) payout.amount
  payouts := s.payouts.modify requestRef (fun payout => { payout with status := .paid })
  positive := settleRows_pos rowsBefore_pos

/-- `pay`. A payout need not be approved. One whose disbursement raised stays as it
is. -/
def pay (s : Agency) (requestRef : ℕ) (disbursement : Disbursement) :
    Except PayoutError Agency := do
  let payout ← s.get requestRef
  require (payout.status ≠ .paid) (.reply "Payout already paid.")
  require (payout.status ≠ .rejected) (.reply "Cannot pay a rejected payout.")
  require (payout.paymentMethod = "wallet" → disbursement ≠ .failed) .raised
  .ok (s.settle requestRef payout disbursement)

/-- What happens to the agents: a commission is earned, or the service is called. A
disbursement that books and then fails to be settled is a commission earned at the
deposit, followed by a payment that raises. -/
inductive Move
  | earn (rate amount : ℚ) (agentId : UserId) (currency : Currency)
      (sourceType : CommissionSource) (sourceId : TransactionId)
  | request (agentId : UserId) (amount : ℚ) (currency : Currency) (paymentMethod : String)
  | approve (requestRef : ℕ)
  | reject (requestRef : ℕ)
  | pay (requestRef : ℕ) (disbursement : Disbursement)

/-- The tables after a call; a call that does not succeed leaves them as they were. -/
def after (s : Agency) (result : Except PayoutError Agency) : Agency :=
  match result with
  | .ok t => t
  | .error _ => s

def move (s : Agency) : Move → Agency
  | .earn rate amount agentId currency sourceType sourceId =>
    s.recordCommission rate amount agentId currency sourceType sourceId
  | .request agentId amount currency paymentMethod =>
    s.after (s.requestForAgent agentId amount currency paymentMethod)
  | .approve requestRef => s.after (s.approve requestRef)
  | .reject requestRef => s.after (s.reject requestRef)
  | .pay requestRef disbursement => s.after (s.pay requestRef disbursement)

def Step (s : Agency) (a : Move) (t : Agency) : Prop := s.move a = t

/-- The commission an agent has earned. -/
def earned (s : Agency) (agentId : UserId) (currency : Currency) : ℚ :=
  ((s.commissions.filter (fun row => row.agentId = agentId ∧ row.currency = currency)).map
    Commission.amount).sum

/-- The commission rows marked paid, added up. -/
def paidRows (agentId : UserId) (currency : Currency) (rows : List Commission) : ℚ :=
  ((rows.filter (Commission.paidTo agentId currency)).map Commission.amount).sum

/-- The paid payouts, added up. -/
def paidPayouts (agentId : UserId) (currency : Currency) (payouts : List PayoutRequest) : ℚ :=
  ((payouts.filter (PayoutRequest.paidTo agentId currency)).map PayoutRequest.amount).sum

/-- No agent is paid more than earned, and what is marked paid is what was paid. -/
def Settled (s : Agency) : Prop :=
  ∀ agentId currency,
    paidPayouts agentId currency s.payouts ≤ s.earned agentId currency ∧
      paidRows agentId currency s.commissions = paidPayouts agentId currency s.payouts

/-- The oldest amounts, down to one of them, add up to the amount. -/
def Covers (amounts : List ℚ) (amount : ℚ) : Prop := ∃ oldest, oldest <+: amounts ∧
    oldest.sum = amount

/-- A payment that goes through finds unpaid rows that add up to the payout. -/
def Exact (s : Agency) : Move → Prop
  | .pay requestRef disbursement =>
    ∀ payout, s.get requestRef = .ok payout →
      payout.status ≠ .paid → payout.status ≠ .rejected →
      (payout.paymentMethod = "wallet" → disbursement ≠ .failed) →
      Covers (unpaid payout.agentId payout.currency (s.rowsBefore payout disbursement))
        payout.amount
  | _ => True

section Rows

variable {rows : List Commission} {row : Commission} {amount : ℚ}

theorem unpaid_cons (row : Commission) (rows : List Commission) :
    unpaid agentId currency (row :: rows) =
      if row.unpaidFor agentId currency then row.amount :: unpaid agentId currency rows
      else unpaid agentId currency rows := by
  by_cases h : row.unpaidFor agentId currency <;> simp [unpaid, h]

theorem paidRows_cons (row : Commission) (rows : List Commission) :
    paidRows agentId currency (row :: rows) =
      (if row.paidTo agentId currency then row.amount else 0) + paidRows agentId currency rows := by
  by_cases h : row.paidTo agentId currency <;> simp [paidRows, h]

theorem paidRows_append (rows more : List Commission) :
    paidRows agentId currency (rows ++ more) =
      paidRows agentId currency rows + paidRows agentId currency more := by
  simp [paidRows]

theorem unpaid_pos (h : ∀ row ∈ rows, 0 < row.amount) :
    ∀ amount ∈ unpaid agentId currency rows, 0 < amount := by
  intro amount hamount
  obtain ⟨row, hrow, rfl⟩ := List.mem_map.mp hamount
  exact h row (List.mem_filter.mp hrow).1

theorem paidRows_mark (h : row.unpaidFor agentId currency) (rows : List Commission) :
    paidRows agentId currency ({ row with isPaid := true } :: rows) =
      row.amount + paidRows agentId currency rows ∧
    paidRows agentId currency (row :: rows) = paidRows agentId currency rows := by
  simp only [Commission.unpaidFor, decide_eq_true_eq] at h
  obtain ⟨hagent, hcurrency, hpaid⟩ := h
  rw [paidRows_cons, paidRows_cons]
  simp [Commission.paidTo, hagent, hcurrency, hpaid]

theorem Covers.tail {amounts : List ℚ} {first : ℚ} (h : Covers (first :: amounts) amount)
    (hpos : 0 < amount) : Covers amounts (amount - first) := by
  obtain ⟨oldest, holdest, hsum⟩ := h
  obtain rfl | ⟨rest, rfl, hrest⟩ := List.prefix_cons_iff.mp holdest
  · rw [List.sum_nil] at hsum
    exact absurd hsum (ne_of_lt hpos)
  · refine ⟨rest, hrest, ?_⟩
    rw [List.sum_cons] at hsum
    linarith

/-- Positive amounts cover only what is not negative. -/
theorem Covers.nonneg {amounts : List ℚ} (h : Covers amounts amount)
    (hpos : ∀ amount ∈ amounts, 0 < amount) : 0 ≤ amount := by
  obtain ⟨oldest, holdest, rfl⟩ := h
  exact List.sum_nonneg (fun amount hamount => le_of_lt (hpos amount (holdest.subset hamount)))

/-- The loop marks the oldest unpaid rows, whatever the amount is. -/
theorem settleRows_marks (agentId : UserId) (currency : Currency) (rows : List Commission)
    (amount : ℚ) :
    ∃ oldest, oldest <+: unpaid agentId currency rows ∧
      paidRows agentId currency (settleRows agentId currency rows amount) =
        paidRows agentId currency rows + oldest.sum := by
  induction rows generalizing amount with
  | nil => exact ⟨[], List.nil_prefix, by simp [settleRows]⟩
  | cons row rest ih =>
    unfold settleRows
    rw [unpaid_cons]
    split
    · rename_i hrow
      split
      · exact ⟨[], List.nil_prefix, by simp⟩
      · obtain ⟨oldest, holdest, hsum⟩ := ih (amount - row.amount)
        refine ⟨row.amount :: oldest, (List.prefix_cons_inj _).mpr holdest, ?_⟩
        rw [(paidRows_mark hrow _).1, (paidRows_mark hrow _).2, hsum, List.sum_cons]
        ring
    · obtain ⟨oldest, holdest, hsum⟩ := ih amount
      refine ⟨oldest, holdest, ?_⟩
      rw [paidRows_cons, paidRows_cons, hsum, add_assoc]

theorem settleRows_exact (hpos : ∀ row ∈ rows, 0 < row.amount)
    (hcovers : Covers (unpaid agentId currency rows) amount) :
    paidRows agentId currency (settleRows agentId currency rows amount) =
      paidRows agentId currency rows + amount := by
  induction rows generalizing amount with
  | nil =>
    obtain ⟨oldest, holdest, rfl⟩ := hcovers
    have hnil : oldest = [] := List.prefix_nil.mp holdest
    simp [settleRows, hnil]
  | cons row rest ih =>
    have hrest := fun other hother => hpos other (List.mem_cons_of_mem row hother)
    have hnonneg := hcovers.nonneg (unpaid_pos hpos)
    rw [unpaid_cons] at hcovers
    unfold settleRows
    split
    · rename_i hrow
      rw [if_pos hrow] at hcovers
      split
      · rename_i hstop
        rw [le_antisymm hstop hnonneg, add_zero]
      · rename_i hgo
        have htail := ih hrest (hcovers.tail (not_le.mp hgo))
        rw [(paidRows_mark hrow _).1, (paidRows_mark hrow _).2, htail]
        ring
    · rename_i hrow
      rw [if_neg hrow] at hcovers
      rw [paidRows_cons, paidRows_cons, ih hrest hcovers, add_assoc]

/-- The paid rows of another agent or currency are not touched. -/
theorem settleRows_other {agentId' : UserId} {currency' : Currency}
    (h : ¬ (agentId' = agentId ∧ currency' = currency)) (rows : List Commission) (amount : ℚ) :
    paidRows agentId' currency' (settleRows agentId currency rows amount) =
      paidRows agentId' currency' rows := by
  induction rows generalizing amount with
  | nil => rfl
  | cons row rest ih =>
    unfold settleRows
    split
    · rename_i hrow
      simp only [Commission.unpaidFor, decide_eq_true_eq] at hrow
      obtain ⟨rfl, rfl, -⟩ := hrow
      split
      · rfl
      · rw [paidRows_cons, paidRows_cons, ih]
        have hother : ∀ isPaid, Commission.paidTo agentId' currency' { row with isPaid } =
          false := by
          intro isPaid
          simp only [Commission.paidTo, decide_eq_false_iff_not]
          rintro ⟨rfl, rfl, -⟩
          exact h ⟨rfl, rfl⟩
        rw [hother true, show row.paidTo agentId' currency' = false from hother row.isPaid]
    · rw [paidRows_cons, paidRows_cons, ih]

theorem paidRows_unpaid (h : ∀ row ∈ rows, row.isPaid = false) :
    paidRows agentId currency rows = 0 := by
  have hnone : rows.filter (Commission.paidTo agentId currency) = [] := by
    refine List.filter_eq_nil_iff.mpr ?_
    intro row hrow hpaid
    simp [Commission.paidTo, h row hrow] at hpaid
  rw [paidRows, hnone, List.map_nil, List.sum_nil]

theorem commissionFor_unpaid {rate amount : ℚ} {sourceType : CommissionSource}
    {sourceId : TransactionId} :
    ∀ row ∈ commissionFor rate amount agentId currency sourceType sourceId, row.isPaid = false := by
  intro row hrow
  unfold commissionFor at hrow
  split at hrow
  · rw [List.mem_singleton.mp hrow]
  · cases hrow

theorem Disbursement.rows_unpaid {disbursement : Disbursement} {payout : PayoutRequest} :
    ∀ row ∈ disbursement.rows payout, row.isPaid = false := by
  intro row hrow
  cases disbursement with
  | failed => cases hrow
  | known => cases hrow
  | booked rate transactionId => exact commissionFor_unpaid row hrow

theorem paidRows_rowsBefore (s : Agency) (payout : PayoutRequest) (disbursement : Disbursement) :
    paidRows agentId currency (s.rowsBefore payout disbursement) =
      paidRows agentId currency s.commissions := by
  unfold rowsBefore
  split
  · rw [paidRows_append, paidRows_unpaid Disbursement.rows_unpaid, add_zero]
  · rfl

theorem paidRows_le_earned (s : Agency) (agentId : UserId) (currency : Currency) :
    paidRows agentId currency s.commissions ≤ s.earned agentId currency := by
  have hsub : (s.commissions.filter (Commission.paidTo agentId currency)).Sublist
      (s.commissions.filter (fun row => row.agentId = agentId ∧ row.currency = currency)) := by
    refine List.monotone_filter_right s.commissions ?_
    intro row hrow
    simp only [Commission.paidTo, decide_eq_true_eq] at hrow ⊢
    exact ⟨hrow.1, hrow.2.1⟩
  refine List.Sublist.sum_le_sum (hsub.map Commission.amount) ?_
  intro amount hamount
  obtain ⟨row, hrow, rfl⟩ := List.mem_map.mp hamount
  exact le_of_lt (s.positive row (List.mem_filter.mp hrow).1)

end Rows

section Payouts

variable {payouts : List PayoutRequest} {payout : PayoutRequest} {requestRef : ℕ}

theorem paidPayouts_cons (payout : PayoutRequest) (payouts : List PayoutRequest) :
    paidPayouts agentId currency (payout :: payouts) =
      (if payout.paidTo agentId currency then payout.amount else 0) +
        paidPayouts agentId currency payouts := by
  by_cases h : payout.paidTo agentId currency <;> simp [paidPayouts, h]

/-- A payout that was not paid counts from now on if its new status is paid. -/
theorem paidPayouts_setStatus (status : PayoutStatus) (h : payouts[requestRef]? = some payout)
    (hunpaid : payout.status ≠ .paid) :
    paidPayouts agentId currency (payouts.modify requestRef (fun row => { row with status })) =
      paidPayouts agentId currency payouts +
        (if PayoutRequest.paidTo agentId currency { payout with status } then payout.amount
          else 0) := by
  induction payouts generalizing requestRef with
  | nil => cases h
  | cons first rest ih =>
    cases requestRef with
    | zero =>
      obtain rfl : first = payout := by simpa using h
      have hnot : first.paidTo agentId currency = false := by
        simp [PayoutRequest.paidTo, hunpaid]
      rw [List.modify_zero_cons, paidPayouts_cons, paidPayouts_cons, hnot]
      simp only [Bool.false_eq_true, if_false, zero_add]
      exact add_comm _ _
    | succ position =>
      rw [List.modify_succ_cons, paidPayouts_cons, paidPayouts_cons, ih (by simpa using h),
        add_assoc]

end Payouts

section Steps

variable {requestRef : ℕ} {payout : PayoutRequest} {disbursement : Disbursement}

/-- What is marked paid is what was paid, for every agent and currency. -/
def Balanced (s : Agency) : Prop :=
  ∀ agentId currency,
    paidRows agentId currency s.commissions = paidPayouts agentId currency s.payouts

theorem Balanced.settled (h : s.Balanced) : s.Settled := by
  intro agentId currency
  refine ⟨?_, h agentId currency⟩
  rw [← h agentId currency]
  exact s.paidRows_le_earned agentId currency

theorem get_ok : s.get requestRef = .ok payout ↔ s.payouts[requestRef]? = some payout := by
  unfold get
  split <;> simp_all

theorem recordCommission_balanced (h : s.Balanced) (rate amount : ℚ) (agentId : UserId)
    (currency : Currency) (sourceType : CommissionSource) (sourceId : TransactionId) :
    (s.recordCommission rate amount agentId currency sourceType sourceId).Balanced := by
  intro agentId' currency'
  show paidRows agentId' currency' (s.commissions ++ _) = _
  rw [paidRows_append, paidRows_unpaid commissionFor_unpaid, add_zero]
  exact h agentId' currency'

theorem requestForAgent_balanced (h : s.Balanced) {amount : ℚ} {paymentMethod : String}
    (hok : s.requestForAgent agentId amount currency paymentMethod = .ok t) : t.Balanced := by
  unfold requestForAgent at hok
  obtain ⟨-, hok⟩ := check_bind_eq_ok.mp hok
  obtain ⟨-, hok⟩ := check_bind_eq_ok.mp hok
  split at hok
  · cases hok
  · rename_i stored _
    cases hok
    intro agentId' currency'
    have hnew : ∀ stored, PayoutRequest.paidTo agentId' currency'
        { agentId, amount := stored, currency, paymentMethod } = false := by
      intro stored
      simp [PayoutRequest.paidTo]
    rw [h agentId' currency']
    simp [paidPayouts, hnew]

theorem setStatus_balanced (h : s.Balanced) {status : PayoutStatus}
    (hpayout : s.payouts[requestRef]? = some payout) (hbefore : payout.status ≠ .paid)
    (hafter : status ≠ .paid) : (s.setStatus requestRef status).Balanced := by
  intro agentId currency
  show _ = paidPayouts agentId currency (s.payouts.modify requestRef _)
  have hnot : PayoutRequest.paidTo agentId currency { payout with status } = false := by
    simp [PayoutRequest.paidTo, hafter]
  rw [paidPayouts_setStatus status hpayout hbefore, hnot, if_neg Bool.false_ne_true, add_zero]
  exact h agentId currency

theorem approve_balanced (h : s.Balanced) (hok : s.approve requestRef = .ok t) : t.Balanced := by
  obtain ⟨payout, hget, hok⟩ := bind_eq_ok.mp hok
  obtain ⟨hpending, hok⟩ := check_bind_eq_ok.mp hok
  rw [require_eq_ok] at hpending
  cases hok
  exact setStatus_balanced h (get_ok.mp hget) (by rw [hpending]; decide) (by decide)

theorem reject_balanced (h : s.Balanced) (hok : s.reject requestRef = .ok t) : t.Balanced := by
  obtain ⟨payout, hget, hok⟩ := bind_eq_ok.mp hok
  obtain ⟨hopen, hok⟩ := check_bind_eq_ok.mp hok
  rw [require_eq_ok] at hopen
  cases hok
  exact setStatus_balanced h (get_ok.mp hget) hopen.1 (by decide)

theorem pay_ok (hok : s.pay requestRef disbursement = .ok t) :
    ∃ payout, s.get requestRef = .ok payout ∧ payout.status ≠ .paid ∧
      payout.status ≠ .rejected ∧ (payout.paymentMethod = "wallet" → disbursement ≠ .failed) ∧
      t = s.settle requestRef payout disbursement := by
  obtain ⟨payout, hget, hok⟩ := bind_eq_ok.mp hok
  obtain ⟨hunpaid, hok⟩ := check_bind_eq_ok.mp hok
  obtain ⟨hopen, hok⟩ := check_bind_eq_ok.mp hok
  obtain ⟨hdisbursed, hok⟩ := check_bind_eq_ok.mp hok
  rw [require_eq_ok] at hunpaid hopen hdisbursed
  exact ⟨payout, hget, hunpaid, hopen, hdisbursed, (Except.ok.inj hok).symm⟩

theorem settle_paidPayouts (hpayout : s.payouts[requestRef]? = some payout)
    (hunpaid : payout.status ≠ .paid) :
    paidPayouts agentId currency (s.settle requestRef payout disbursement).payouts =
      paidPayouts agentId currency s.payouts +
        (if agentId = payout.agentId ∧ currency = payout.currency then payout.amount else 0) := by
  show paidPayouts agentId currency (s.payouts.modify requestRef _) = _
  rw [paidPayouts_setStatus .paid hpayout hunpaid]
  simp only [PayoutRequest.paidTo, and_true, decide_eq_true_eq, @eq_comm _ payout.agentId,
    @eq_comm _ payout.currency]

/-- A payment keeps the balance exactly if the rows it finds add up to the payout. -/
theorem settle_balanced_iff (h : s.Balanced) (hpayout : s.payouts[requestRef]? = some payout)
    (hunpaid : payout.status ≠ .paid) :
    (s.settle requestRef payout disbursement).Balanced ↔
      Covers (unpaid payout.agentId payout.currency (s.rowsBefore payout disbursement))
        payout.amount := by
  have hrows : ∀ agentId currency,
      paidRows agentId currency (s.rowsBefore payout disbursement) =
        paidPayouts agentId currency s.payouts := by
    intro agentId currency
    rw [paidRows_rowsBefore, h agentId currency]
  constructor
  · intro hafter
    obtain ⟨oldest, holdest, hmarks⟩ := settleRows_marks payout.agentId payout.currency
      (s.rowsBefore payout disbursement) payout.amount
    have hpaid := hafter payout.agentId payout.currency
    rw [settle_paidPayouts hpayout hunpaid, if_pos ⟨rfl, rfl⟩] at hpaid
    refine ⟨oldest, holdest, ?_⟩
    have hsame := hmarks.symm.trans hpaid
    rw [hrows] at hsame
    exact add_left_cancel hsame
  · intro hcovers agentId currency
    rw [settle_paidPayouts hpayout hunpaid]
    show paidRows agentId currency (settleRows _ _ _ _) = _
    by_cases hpair : agentId = payout.agentId ∧ currency = payout.currency
    · obtain ⟨rfl, rfl⟩ := hpair
      rw [settleRows_exact rowsBefore_pos hcovers, hrows, if_pos ⟨rfl, rfl⟩]
    · rw [settleRows_other hpair, hrows, if_neg hpair, add_zero]

theorem step_balanced (s : Agency) (a : Move) (t : Agency) (h : s.Balanced)
    (hstep : Guarded Exact Step s a t) : t.Balanced := by
  obtain ⟨hexact, rfl⟩ := hstep
  have hafter : ∀ result : Except PayoutError Agency, (∀ t, result = .ok t → t.Balanced) →
      (s.after result).Balanced := by
    intro result hresult
    cases result with
    | error e => exact h
    | ok t => exact hresult t rfl
  cases a with
  | earn rate amount agentId currency sourceType sourceId =>
    exact recordCommission_balanced h rate amount agentId currency sourceType sourceId
  | request agentId amount currency paymentMethod =>
    exact hafter _ (fun t hok => requestForAgent_balanced h hok)
  | approve requestRef => exact hafter _ (fun t hok => approve_balanced h hok)
  | reject requestRef => exact hafter _ (fun t hok => reject_balanced h hok)
  | pay requestRef disbursement =>
    refine hafter _ ?_
    intro t hok
    obtain ⟨payout, hget, hunpaid, hopen, hdisbursed, rfl⟩ := pay_ok hok
    exact (settle_balanced_iff h (get_ok.mp hget) hunpaid).mpr
      (hexact payout hget hunpaid hopen hdisbursed)

end Steps

/-- While every payment finds unpaid rows that add up to it, no agent is paid more than
earned, and the rows marked paid are what was paid. -/
theorem payouts_settled {labels : List Move} (run : Run (Guarded Exact Step) {} labels s) :
    s.Settled :=
  (run.invariant Balanced step_balanced (fun _ _ => rfl)).settled

/-- An agent earns ten and requests it. -/
def requested : Agency :=
  List.foldl move {} [.earn 1 10 4 "UGX" .transfer 1, .request 4 10 "UGX" "bank", .approve 0]

/-- The payout of the ten finds the row of ten. -/
theorem payouts_settled_ten :
    paidPayouts 4 "UGX" (requested.move (.pay 0 .known)).payouts = 10 ∧
      (requested.move (.pay 0 .known)).Settled := by
  refine ⟨by decide +kernel, ?_⟩
  have hpay : requested.Exact (.pay 0 .known) := by
    intro payout hget _ _ _
    have hrequest : requested.get 0 = .ok ⟨4, 10, "UGX", "bank", .approved⟩ := by decide +kernel
    obtain rfl := Except.ok.inj (hrequest.symm.trans hget)
    exact ⟨[10], by decide +kernel, List.sum_singleton⟩
  have run : Run (Guarded Exact Step) {}
      [.earn 1 10 4 "UGX" .transfer 1, .request 4 10 "UGX" "bank", .approve 0, .pay 0 .known]
      (requested.move (.pay 0 .known)) :=
    .cons ⟨trivial, rfl⟩ (.cons ⟨trivial, rfl⟩ (.cons ⟨trivial, rfl⟩ (.single ⟨hpay, rfl⟩)))
  exact payouts_settled run

/-- The agent requests the ten twice before either request is paid, and is paid
twenty. -/
theorem ten_paid_twice : ¬ ∀ labels s, Run Step {} labels s → s.Settled := by
  intro h
  have hpaid := (h _ _ (Run.foldl move {}
    [.earn 1 10 4 "UGX" .transfer 1, .request 4 10 "UGX" "bank",
    .request 4 10 "UGX" "bank", .pay 0 .known, .pay 1 .known]) 4 "UGX").1
  exact absurd hpaid (by decide +kernel)

end Agency

end Afcon360.Wallet
