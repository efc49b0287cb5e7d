import Mathlib.Algebra.Order.Ring.Unbundled.Rat
import Afcon360.Accommodation.BookingState
import Afcon360.Utils.IdGuard

/-!
# Payment states

`PaymentStateMachine`: the table of transitions, `transition` and the seven helpers, over
the rows of `accommodation_booking_payments` and what is written to the history. A helper
that raises leaves in the session what it had added before.

The gateway's transaction id is assigned after the transition, to a text column that the check
of identifiers wants a UUID in; the check is off when the configuration sets `PRODUCTION`.
-/

namespace Afcon360.Accommodation

open Utils

namespace PaymentState

/-- `VALID_TRANSITIONS`. -/
def validTransitions : PaymentState → List PaymentState
  | .unpaid => [.pending, .partiallyPaid, .paid, .cancelled]
  | .pending => [.processing, .partiallyPaid, .paid, .failed, .cancelled, .unpaid]
  | .processing => [.partiallyPaid, .paid, .failed, .cancelled]
  | .partiallyPaid => [.pending, .paid, .failed, .refundPending, .cancelled]
  | .paid => [.refundPending, .partialRefund, .refunded]
  | .failed => [.unpaid, .pending, .cancelled]
  | .refundPending => [.refunded, .partialRefund, .paid]
  | .refunded => []
  | .partialRefund => [.refundPending, .refunded]
  | .cancelled => []

/-- `can_transition`. -/
def canTransition (current new : PaymentState) (amount : Option ℚ) : Bool :=
  new ∈ current.validTransitions ∧ (new = .partiallyPaid → ∀ value ∈ amount, 0 < value)

/-- Only a partial payment looks at the amount. -/
theorem canTransition_of_mem {current new : PaymentState} (hmem : new ∈ current.validTransitions)
    (hnew : new ≠ .partiallyPaid) (amount : Option ℚ) : current.canTransition new amount := by
  simp [canTransition, hmem, hnew]

theorem not_canTransition {current new : PaymentState} (hmem : new ∉ current.validTransitions)
    (amount : Option ℚ) : ¬ current.canTransition new amount := by
  simp [canTransition, hmem]

end PaymentState

/-- A row of `accommodation_booking_payments`. -/
structure PaymentEvent where
  bookingId : ℕ
  paymentStatus : PaymentState := .pending
  paymentMethod : String
  paymentGateway : Option String := none
  idempotencyKey : Option String := none
  walletTxnId : Option String := none
  gatewayTransactionId : Option String := none
  failureReason : Option String := none
  retryCount : ℕ := 0

/-- What a transition writes to the history of the booking. The event is the one whose
reference stands in the metadata. -/
structure PaymentHistory where
  event : ℕ
  bookingId : ℕ
  fromStatus : PaymentState
  toStatus : PaymentState
  changedBy : Option ℕ
  trigger : String
  reason : Option String
  amount : Option ℚ

/-- The session: the total of each booking, the payment events and the history. -/
structure PaymentTable where
  /-- The configuration sets `PRODUCTION`. -/
  production : Bool := false
  totalAmount : ℕ → Option ℚ
  events : List PaymentEvent := []
  history : List PaymentHistory := []

inductive PaymentError
  | invalidTransition (bookingId : ℕ) (current new : PaymentState)
  | integrity
  | noEvent
  /-- The `RuntimeError` of an assignment that the check of identifiers refuses. -/
  | idViolation (field : String)

/-- The helpers of `PaymentStateMachine` with their arguments. -/
inductive PaymentHelper
  | initiatePayment (bookingId : ℕ) (amount : ℚ) (method : String) (gateway : Option String)
      (user : Option ℕ) (key : Option String)
  | markProcessing (event : ℕ) (gatewayTxn walletTxn : Option String)
  | markPaid (event : ℕ) (amount : ℚ) (walletTxn gatewayTxn : Option String) (user : Option ℕ)
  | markPartiallyPaid (event : ℕ) (amount : ℚ) (walletTxn gatewayTxn : Option String)
      (user : Option ℕ)
  | markFailed (event : ℕ) (failureReason : String) (user : Option ℕ)
  | initiateRefund (event : ℕ) (amount : ℚ) (reason : String) (user : Option ℕ)
  | markRefunded (event : ℕ) (amount : ℚ) (walletTxn : Option String) (user : Option ℕ)

namespace PaymentTable

/-- The session a helper leaves and whether it returned. -/
abbrev Outcome := PaymentTable × Except PaymentError Unit

/-- `transition`, and the assignments to the event that follow it, unless the last of them
raises. -/
def transition (s : PaymentTable) (event : ℕ) (new : PaymentState) (user : Option ℕ)
    (trigger : String) (reason : Option String) (amount : Option ℚ)
    (assign : PaymentEvent → PaymentEvent) (admitted : Bool := true) : Outcome :=
  match s.events[event]? with
  | none => (s, .error .noEvent)
  | some row =>
    if row.paymentStatus.canTransition new amount then
      ({ s with
          events := s.events.set event { assign row with paymentStatus := new }
          history := s.history ++
            [⟨event, row.bookingId, row.paymentStatus, new, user, trigger, reason,
              amount.filter (· ≠ 0)⟩] },
        if admitted then .ok () else .error (.idViolation "gateway_transaction_id"))
    else (s, .error (.invalidTransition row.bookingId row.paymentStatus new))

/-- A row of the table has the key. -/
def keyUsed (s : PaymentTable) (key : Option String) : Bool :=
  key.any (fun key => s.events.any (fun row => row.idempotencyKey = some key))

/-- The session with a new row in the state `PENDING`. -/
def addPending (s : PaymentTable) (bookingId : ℕ) (method : String) (gateway key : Option String) :
    PaymentTable :=
  let event : PaymentEvent :=
    { bookingId, paymentStatus := .pending, paymentMethod := method, paymentGateway := gateway,
      idempotencyKey := key }
  { s with events := s.events ++ [event] }

/-- `initiate_payment`: the row is flushed in the state `PENDING`, then moved to
`PENDING`. -/
def initiatePayment (s : PaymentTable) (bookingId : ℕ) (amount : ℚ) (method : String)
    (gateway : Option String) (user : Option ℕ) (key : Option String) : Outcome :=
  if s.keyUsed key then (s, .error .integrity)
  else
    (s.addPending bookingId method gateway key).transition s.events.length .pending user
      "payment_initiated" (some "Payment initiated") (some amount) id

/-- `amount >= Decimal(str(payment_event.booking.total_amount or 0))`. -/
def isFull (s : PaymentTable) (event : ℕ) (amount : ℚ) : Bool :=
  (s.events[event]?.bind (fun row => s.totalAmount row.bookingId)).getD 0 ≤ amount

/-- A text argument that is neither `None` nor empty, else what stood there. -/
def orKept (new old : Option String) : Option String := (new.filter (· ≠ "")).or old

/-- The status of the event; a payment without an event is unpaid. -/
def stateOf (s : PaymentTable) (event : ℕ) : PaymentState :=
  (s.events[event]?.map (·.paymentStatus)).getD .unpaid

/-- The gateway's transaction id, if there is one, may be assigned. -/
def gatewayAdmits (s : PaymentTable) (gatewayTxn : Option String) : Bool :=
  IDGuard.admits s.production "AccommodationBookingPayment" "gateway_transaction_id" .string
    ((gatewayTxn.filter (· ≠ "")).map .text)

/-- The helpers. -/
def apply (s : PaymentTable) : PaymentHelper → Outcome
  | .initiatePayment bookingId amount method gateway user key =>
    s.initiatePayment bookingId amount method gateway user key
  | .markProcessing event gatewayTxn walletTxn =>
    s.transition event .processing none "gateway_processing" none none (fun row =>
      if s.gatewayAdmits gatewayTxn then
        { row with
          gatewayTransactionId := orKept gatewayTxn row.gatewayTransactionId
          walletTxnId := orKept walletTxn row.walletTxnId }
      else row) (s.gatewayAdmits gatewayTxn)
  | .markPaid event amount walletTxn gatewayTxn user =>
    s.transition event .paid user "payment_completed" (some "Payment completed") (some amount)
      (fun row =>
        { row with
          walletTxnId := walletTxn
          gatewayTransactionId :=
            if s.gatewayAdmits gatewayTxn then orKept gatewayTxn row.gatewayTransactionId
            else row.gatewayTransactionId })
      (s.gatewayAdmits gatewayTxn)
  | .markPartiallyPaid event amount walletTxn gatewayTxn user =>
    s.transition event .partiallyPaid user "partial_payment" (some "Partial payment received")
      (some amount) (fun row =>
        { row with
          walletTxnId := walletTxn
          gatewayTransactionId :=
            if s.gatewayAdmits gatewayTxn then orKept gatewayTxn row.gatewayTransactionId
            else row.gatewayTransactionId })
      (s.gatewayAdmits gatewayTxn)
  | .markFailed event failureReason user =>
    s.transition event .failed user "payment_failed"
      (some ("Payment failed: " ++ failureReason)) none (fun row =>
        { row with failureReason := some failureReason, retryCount := row.retryCount + 1 })
  | .initiateRefund event amount reason user =>
    s.transition event (if s.isFull event amount then .refundPending else .partialRefund) user
      "refund_initiated" (some ("Refund initiated: " ++ reason)) (some amount) id
  | .markRefunded event amount walletTxn user =>
    s.transition event
      (if s.stateOf event = .refundPending then .refunded else .partialRefund) user
      "refund_completed" (some "Refund completed") (some amount) (fun row =>
        { row with walletTxnId := orKept walletTxn row.walletTxnId })

/-! ## What is asked -/

/-- The helper recorded one transition, admitted from the state of its event. -/
def RecordsOne (s : PaymentTable) (helper : PaymentHelper) : Prop :=
  ∃ row : PaymentHistory, (s.apply helper).1.history = s.history ++ [row] ∧
    row.fromStatus = s.stateOf row.event ∧ row.toStatus = (s.apply helper).1.stateOf row.event ∧
    row.toStatus ∈ row.fromStatus.validTransitions ∧
    ∀ other ≠ row.event, (s.apply helper).1.events[other]? = s.events[other]?

/-- The step is as the table of transitions has it: a helper that the table admits, also one
that raises afterwards, records one transition, and one that is rejected records nothing. -/
def Records (s : PaymentTable) (helper : PaymentHelper) : Prop :=
  match (s.apply helper).2 with
  | .ok _ => s.RecordsOne helper
  | .error (.idViolation _) => s.RecordsOne helper
  | .error _ => (s.apply helper).1 = s

def Accepts (s : PaymentTable) (helper : PaymentHelper) : Prop := (s.apply helper).2 = .ok ()

/-- The session after the helpers, whether or not they return. -/
def after (s : PaymentTable) (helpers : List PaymentHelper) : PaymentTable :=
  helpers.foldl (fun s helper => (s.apply helper).1) s

/-- `P` holds of every helper and the session it meets. -/
def Along (P : PaymentTable → PaymentHelper → Prop) : PaymentTable → List PaymentHelper → Prop
  | _, [] => True
  | s, helper :: rest => P s helper ∧ Along P (s.apply helper).1 rest

/-- The rows lead from one state to the other, each transition admitted. -/
def Path : PaymentState → List PaymentHistory → PaymentState → Prop
  | first, [], last => first = last
  | first, row :: rest, last =>
    row.fromStatus = first ∧ row.toStatus ∈ first.validTransitions ∧ Path row.toStatus rest last

/-- The helper is an `initiate_payment` with a key that no row has. -/
def Starts (s : PaymentTable) : PaymentHelper → Prop
  | .initiatePayment _ _ _ _ _ key => ¬ s.keyUsed key
  | _ => False

/-- A refund: started, then completed. -/
def refundHelpers (event : ℕ) (reason : String) (walletTxn : Option String) (user : Option ℕ)
    (amount : ℚ) : List PaymentHelper :=
  [.initiateRefund event amount reason user, .markRefunded event amount walletTxn user]

/-- Processing, payment and refunds of an event. -/
def chain (event : ℕ) (amount : ℚ) (gatewayTxn walletTxn : Option String) (user : Option ℕ)
    (reason : String) (refunds : List ℚ) : List PaymentHelper :=
  [.markProcessing event gatewayTxn walletTxn, .markPaid event amount walletTxn gatewayTxn user] ++
    refunds.flatMap (refundHelpers event reason walletTxn user)

/-! ## Steps -/

section Transition

variable {s : PaymentTable} {event : ℕ} {new : PaymentState} {user : Option ℕ} {trigger : String}
  {reason : Option String} {amount : Option ℚ} {assign : PaymentEvent → PaymentEvent}

variable {state : PaymentState} {helper : PaymentHelper} {total : ℚ} {admitted : Bool}

/-- A helper that is one `transition` is as the table has it. -/
theorem records_of_transition
    (h : s.apply helper = s.transition event new user trigger reason amount assign admitted) :
    s.Records helper := by
  cases hrow : s.events[event]? with
  | none => simp only [Records, h, transition, hrow]
  | some row =>
    have hlt := (List.getElem?_eq_some_iff.mp hrow).1
    by_cases hcan : row.paymentStatus.canTransition new amount
    · have hone : s.RecordsOne helper := by
        simp only [RecordsOne, h, transition, hrow, hcan, if_true]
        rw [PaymentState.canTransition, decide_eq_true_eq] at hcan
        refine ⟨_, rfl, ?_, ?_, hcan.1, ?_⟩
        · simp [stateOf, hrow]
        · simp [stateOf, List.getElem?_set_self hlt]
        · intro other hother
          exact List.getElem?_set_ne (Ne.symm hother)
      simp only [Records, h, transition, hrow, hcan, if_true]
      cases admitted with
      | true => exact hone
      | false => exact hone
    · simp only [Records, h, transition, hrow, hcan, Bool.false_eq_true, if_false]

/-- The event is there, in this state and for a booking of this total. -/
def At (s : PaymentTable) (event : ℕ) (state : PaymentState) (total : ℚ) : Prop :=
  ∃ row, s.events[event]? = some row ∧ row.paymentStatus = state ∧
    (s.totalAmount row.bookingId).getD 0 = total

theorem At.isFull_iff (h : s.At event state total) (value : ℚ) :
    s.isFull event value ↔ total ≤ value := by
  obtain ⟨row, hrow, -, htotal⟩ := h
  simp [isFull, hrow, htotal]

theorem At.stateOf_eq (h : s.At event state total) :
    s.stateOf event = state := by
  obtain ⟨row, hrow, hstate, -⟩ := h
  simp [stateOf, hrow, hstate]

/-- A helper that is one admitted `transition` moves the event, and it is accepted unless an
assignment raises. -/
theorem At.accepts (h : s.At event state total)
    (hhelper : s.apply helper = s.transition event new user trigger reason amount assign admitted)
    (hassign : ∀ row, (assign row).bookingId = row.bookingId)
    (hcan : state.canTransition new amount) :
    (s.Accepts helper ↔ admitted = true) ∧ (s.apply helper).1.At event new total := by
  obtain ⟨row, hrow, rfl, htotal⟩ := h
  have hlt := (List.getElem?_eq_some_iff.mp hrow).1
  simp only [Accepts, hhelper, transition, hrow, hcan, if_true]
  refine ⟨by cases admitted <;> simp, _, List.getElem?_set_self hlt, rfl, ?_⟩
  simpa only [hassign] using htotal

theorem At.not_accepts (h : s.At event state total)
    (hhelper : s.apply helper = s.transition event new user trigger reason amount assign admitted)
    (hcan : ¬ state.canTransition new amount) : ¬ s.Accepts helper := by
  obtain ⟨row, hrow, rfl, -⟩ := h
  simp [Accepts, hhelper, transition, hrow, hcan]

end Transition

variable {s : PaymentTable}

/-- `initiate_payment` raises, and a new row is left in the session when its key is free. -/
theorem initiatePayment_eq {key : Option String} (hfree : ¬ s.keyUsed key) (bookingId : ℕ)
    (amount : ℚ) (method : String) (gateway : Option String) (user : Option ℕ) :
    s.initiatePayment bookingId amount method gateway user key =
      (s.addPending bookingId method gateway key,
        .error (.invalidTransition bookingId .pending .pending)) := by
  have hcan : ¬ PaymentState.canTransition .pending .pending (some amount) :=
    PaymentState.not_canTransition (by decide) _
  simp [PaymentTable.initiatePayment, hfree, transition, addPending, hcan]

theorem not_accepts_initiatePayment (bookingId : ℕ) (amount : ℚ) (method : String)
    (gateway : Option String) (user : Option ℕ) (key : Option String) :
    ¬ s.Accepts (.initiatePayment bookingId amount method gateway user key) := by
  by_cases hused : s.keyUsed key
  · simp [Accepts, apply, PaymentTable.initiatePayment, hused]
  · simp [Accepts, apply, initiatePayment_eq hused]

/-- A step is as the table has it unless it starts a payment. -/
theorem records_iff (helper : PaymentHelper) : s.Records helper ↔ ¬ s.Starts helper := by
  cases helper with
  | initiatePayment bookingId amount method gateway user key =>
    by_cases hused : s.keyUsed key
    · simp [Records, Starts, apply, PaymentTable.initiatePayment, hused]
    · have hne : s.addPending bookingId method gateway key ≠ s := by
        intro heq
        have hevents := congrArg (fun t => t.events.length) heq
        simp [addPending] at hevents
      simp [Records, Starts, apply, initiatePayment_eq hused, hused, hne]
  | markProcessing event gatewayTxn walletTxn =>
    exact iff_of_true (records_of_transition (by rfl)) id
  | markPaid event amount walletTxn gatewayTxn user =>
    exact iff_of_true (records_of_transition (by rfl)) id
  | markPartiallyPaid event amount walletTxn gatewayTxn user =>
    exact iff_of_true (records_of_transition (by rfl)) id
  | markFailed event failureReason user =>
    exact iff_of_true (records_of_transition (by rfl)) id
  | initiateRefund event amount reason user =>
    exact iff_of_true (records_of_transition (by rfl)) id
  | markRefunded event amount walletTxn user =>
    exact iff_of_true (records_of_transition (by rfl)) id

/-! ## Runs -/

theorem along_congr {P Q : PaymentTable → PaymentHelper → Prop}
    (h : ∀ s helper, P s helper ↔ Q s helper)
    (s : PaymentTable) (helpers : List PaymentHelper) : Along P s helpers ↔ Along Q s helpers := by
  induction helpers generalizing s with
  | nil => exact Iff.rfl
  | cons helper rest ih => exact and_congr (h s helper) (ih _)

/-- Along a run the rows recorded for an event lead from its state before to its state
after. -/
theorem path_of_records {helpers : List PaymentHelper} (h : Along Records s helpers) :
    ∃ rows, (s.after helpers).history = s.history ++ rows ∧
      ∀ event, Path (s.stateOf event) (rows.filter (·.event = event))
        ((s.after helpers).stateOf event) := by
  induction helpers generalizing s with
  | nil => exact ⟨[], (List.append_nil _).symm, fun event => rfl⟩
  | cons helper rest ih =>
    obtain ⟨hstep, hrest⟩ := h
    obtain ⟨rows, hhistory, hpath⟩ := ih hrest
    have hone : s.RecordsOne helper → ∃ rows,
        (s.after (helper :: rest)).history = s.history ++ rows ∧
          ∀ event, Path (s.stateOf event) (rows.filter (·.event = event))
            ((s.after (helper :: rest)).stateOf event) := by
      rintro ⟨row, hrow, hfrom, hto, hvalid, hothers⟩
      refine ⟨row :: rows, ?_, ?_⟩
      · exact hhistory.trans (by rw [hrow, List.append_assoc, List.singleton_append])
      · intro event
        by_cases hevent : row.event = event
        · subst hevent
          rw [List.filter_cons_of_pos (by simp)]
          exact ⟨hfrom, hfrom ▸ hvalid, hto ▸ hpath row.event⟩
        · have hkept : (s.apply helper).1.stateOf event = s.stateOf event := by
            rw [stateOf, hothers event (Ne.symm hevent), stateOf]
          rw [List.filter_cons_of_neg (by simpa using hevent), ← hkept]
          exact hpath event
    rw [Records] at hstep
    split at hstep
    · exact hone hstep
    · exact hone hstep
    · have hafter : s.after (helper :: rest) = s.after rest := by
        rw [after, List.foldl_cons, hstep, after]
      rw [hstep] at hhistory hpath
      rw [hafter]
      exact ⟨rows, hhistory, hpath⟩

/-! ## The chain -/

section Chain

variable {event : ℕ} {total : ℚ}

theorem At.markProcessing (h : s.At event .pending total) (gatewayTxn walletTxn : Option String) :
    (s.Accepts (.markProcessing event gatewayTxn walletTxn) ↔ s.gatewayAdmits gatewayTxn) ∧
      (s.apply (.markProcessing event gatewayTxn walletTxn)).1.At event .processing total :=
  h.accepts (by rfl) (by intro row; split <;> rfl)
    (PaymentState.canTransition_of_mem (by decide) (by decide) _)

theorem gatewayAdmits_markProcessing (event : ℕ) (gatewayTxn walletTxn : Option String) :
    (s.apply (.markProcessing event gatewayTxn walletTxn)).1.gatewayAdmits gatewayTxn =
      s.gatewayAdmits gatewayTxn := by
  simp only [apply, transition]
  split
  · rfl
  · split <;> rfl

theorem At.markPaid (h : s.At event .processing total) (amount : ℚ)
    (walletTxn gatewayTxn : Option String) (user : Option ℕ) :
    (s.Accepts (.markPaid event amount walletTxn gatewayTxn user) ↔
        s.gatewayAdmits gatewayTxn) ∧
      (s.apply (.markPaid event amount walletTxn gatewayTxn user)).1.At event .paid total :=
  h.accepts (by rfl) (by intro row; rfl)
    (PaymentState.canTransition_of_mem (by decide) (by decide) _)

theorem At.initiateRefund {state : PaymentState} (h : s.At event state total) (amount : ℚ)
    (reason : String) (user : Option ℕ)
    (hcan : state.canTransition (if total ≤ amount then .refundPending else .partialRefund)
      (some amount)) :
    s.Accepts (.initiateRefund event amount reason user) ∧
      (s.apply (.initiateRefund event amount reason user)).1.At event
        (if total ≤ amount then .refundPending else .partialRefund) total := by
  simp only [← h.isFull_iff amount] at hcan ⊢
  have hboth : (s.Accepts (.initiateRefund event amount reason user) ↔ true = true) ∧ _ :=
    h.accepts (by rfl) (by intro row; rfl) hcan
  exact ⟨hboth.1.mpr rfl, hboth.2⟩

theorem At.markRefunded (h : s.At event .refundPending total) (amount : ℚ)
    (walletTxn : Option String) (user : Option ℕ) :
    s.Accepts (.markRefunded event amount walletTxn user) ∧
      (s.apply (.markRefunded event amount walletTxn user)).1.At event .refunded total := by
  have happly : s.apply (.markRefunded event amount walletTxn user) =
      s.transition event .refunded user "refund_completed" (some "Refund completed") (some amount)
        (fun row => { row with walletTxnId := orKept walletTxn row.walletTxnId }) := by
    simp only [apply, h.stateOf_eq, if_true]
  obtain ⟨haccepts, hat⟩ := h.accepts happly (fun _ => rfl)
    (PaymentState.canTransition_of_mem (by decide) (by decide) _)
  exact ⟨haccepts.mpr rfl, hat⟩

/-- A partial refund that was started cannot be completed. -/
theorem At.not_markRefunded (h : s.At event .partialRefund total) (amount : ℚ)
    (walletTxn : Option String) (user : Option ℕ) :
    ¬ s.Accepts (.markRefunded event amount walletTxn user) := by
  refine h.not_accepts (by rfl) ?_
  rw [h.stateOf_eq]
  exact PaymentState.not_canTransition (by decide) _

theorem At.not_initiateRefund (h : s.At event .refunded total) (amount : ℚ) (reason : String)
    (user : Option ℕ) : ¬ s.Accepts (.initiateRefund event amount reason user) := by
  refine h.not_accepts (by rfl) (PaymentState.not_canTransition ?_ _)
  exact List.not_mem_nil

/-- A paid event can be refunded once, and in full. -/
theorem along_refunds_iff (h : s.At event .paid total) (reason : String)
    (walletTxn : Option String) (user : Option ℕ) (refunds : List ℚ) :
    Along Accepts s (refunds.flatMap (refundHelpers event reason walletTxn user)) ↔
      refunds = [] ∨ ∃ amount, refunds = [amount] ∧ total ≤ amount := by
  cases refunds with
  | nil => simp [Along]
  | cons amount rest =>
    have hcan : PaymentState.canTransition .paid
        (if total ≤ amount then .refundPending else .partialRefund) (some amount) := by
      split <;> exact PaymentState.canTransition_of_mem (by decide) (by decide) _
    obtain ⟨hinitiate, hat⟩ := h.initiateRefund amount reason user hcan
    by_cases hfull : total ≤ amount
    · rw [if_pos hfull] at hat
      obtain ⟨hmark, hrefunded⟩ := hat.markRefunded amount walletTxn user
      cases rest with
      | nil => simp [Along, refundHelpers, hinitiate, hmark, hfull]
      | cons next rest =>
        simp [Along, refundHelpers, hrefunded.not_initiateRefund]
    · rw [if_neg hfull] at hat
      simp [Along, refundHelpers, hat.not_markRefunded, hfull]

/-- From a pending event the chain is accepted exactly when the gateway's id may be assigned and
it ends with the payment or with one full refund. -/
theorem along_chain_iff (h : s.At event .pending total) (amount : ℚ)
    (gatewayTxn walletTxn : Option String) (user : Option ℕ) (reason : String) (refunds : List ℚ) :
    Along Accepts s (chain event amount gatewayTxn walletTxn user reason refunds) ↔
      s.gatewayAdmits gatewayTxn ∧
        (refunds = [] ∨ ∃ amount, refunds = [amount] ∧ total ≤ amount) := by
  have hprocessing := h.markProcessing gatewayTxn walletTxn
  have hpaid := hprocessing.2.markPaid amount walletTxn gatewayTxn user
  rw [gatewayAdmits_markProcessing] at hpaid
  refine (and_congr hprocessing.1 (and_congr hpaid.1
    (along_refunds_iff hpaid.2 reason walletTxn user refunds))).trans ?_
  exact ⟨fun h => h.2, fun h => ⟨h.1, h⟩⟩

end Chain

/-- The rows of a run are as the table of transitions has them exactly when no step starts a
payment; those of an event then lead from its state before the run to its state after. The
chain is never accepted from its start, and from a pending event exactly when the gateway's id
may be assigned and there is no refund or a single full one. -/
theorem paymentStates_iff (s : PaymentTable) :
    (∀ helpers, Along Records s helpers ↔ Along (fun s helper => ¬ s.Starts helper) s helpers) ∧
    (∀ helpers, Along (fun s helper => ¬ s.Starts helper) s helpers →
      ∃ rows, (s.after helpers).history = s.history ++ rows ∧
        ∀ event, Path (s.stateOf event) (rows.filter (·.event = event))
          ((s.after helpers).stateOf event)) ∧
    (∀ bookingId amount method gateway user key gatewayTxn walletTxn reason refunds,
      ¬ Along Accepts s (.initiatePayment bookingId amount method gateway user key ::
        chain s.events.length amount gatewayTxn walletTxn user reason refunds)) ∧
    (∀ event row amount gatewayTxn walletTxn user reason refunds,
      s.events[event]? = some row → row.paymentStatus = .pending →
        (Along Accepts s (chain event amount gatewayTxn walletTxn user reason refunds) ↔
          s.gatewayAdmits gatewayTxn ∧
            (refunds = [] ∨ ∃ refund, refunds = [refund] ∧ s.isFull event refund))) := by
  have hrecords := along_congr (fun s helper => records_iff (s := s) helper) s
  refine ⟨hrecords, ?_, ?_, ?_⟩
  · intro helpers hstarts
    exact path_of_records ((hrecords helpers).mpr hstarts)
  · intro bookingId amount method gateway user key gatewayTxn walletTxn reason refunds h
    exact not_accepts_initiatePayment bookingId amount method gateway user key h.1
  · intro event row amount gatewayTxn walletTxn user reason refunds hrow hpending
    have hat : s.At event .pending ((s.totalAmount row.bookingId).getD 0) :=
      ⟨row, hrow, hpending, rfl⟩
    simp only [hat.isFull_iff]
    exact along_chain_iff hat amount gatewayTxn walletTxn user reason refunds

/-- A booking of 100 without a payment. -/
def unpaidBooking : PaymentTable := { totalAmount := fun _ => some 100 }

/-- The same booking with the event that `create_booking` writes. -/
def pendingBooking : PaymentTable :=
  { unpaidBooking with events := [{ bookingId := 0, paymentMethod := "pending" }] }

/-- The first helper of the chain raises and leaves its row; a payment of 100 cannot be
refunded by 40 and 60; and the id `FLW-1` of a gateway stops the chain. -/
theorem initiatePayment_leaves_row :
    ¬ Along Records unpaidBooking [.initiatePayment 0 100 "wallet" none none none] ∧
    ¬ Along Accepts unpaidBooking (.initiatePayment 0 100 "wallet" none none none ::
      chain 0 100 none none none "cancelled" [100]) ∧
    ¬ Along Accepts pendingBooking (chain 0 100 none none none "cancelled" [40, 60]) ∧
    ¬ Along Accepts pendingBooking (chain 0 100 (some "FLW-1") none none "cancelled" [100]) := by
  refine ⟨?_, ?_, ?_, ?_⟩
  · rintro ⟨hrecords, -⟩
    exact (records_iff _).mp hrecords (by simp [Starts, keyUsed])
  · rintro ⟨haccepts, -⟩
    exact not_accepts_initiatePayment _ _ _ _ _ _ haccepts
  · rw [along_chain_iff ⟨_, rfl, rfl, rfl⟩]
    simp
  · rw [along_chain_iff ⟨_, rfl, rfl, rfl⟩]
    rintro ⟨hadmits, -⟩
    revert hadmits
    decide

end PaymentTable

end Afcon360.Accommodation
