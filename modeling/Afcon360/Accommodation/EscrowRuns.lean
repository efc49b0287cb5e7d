import Afcon360.Accommodation.Escrow
import Afcon360.Wallet.System

/-!
# Settling the escrow of a booking

One booking that has been charged, and everything that can happen to its escrow.
The three settlements share a session lock of the booking, taken without waiting,
so at most one of them is under way. Between its transfer and its last commit a
settlement can be cut short: by a crash, by an exception, or by a transfer that is
found to differ from the refund. The commission then still says `held`.

The other parts of the platform appear as arbitrary wallet calls and arbitrary
changes of the booking row. `payments` records the transfers that settlements of
this booking posted.
-/

namespace Afcon360.Accommodation

open Foundation Wallet

/-- The two ways out of the escrow. -/
inductive Kind
  | payout | refund
  deriving DecidableEq, Repr

/-- The idempotency key of a settlement. -/
def Kind.key (id : ℕ) : Kind → String
  | .payout => payoutKey id
  | .refund => refundKey id

structure Payment where
  kind : Kind
  amount : ℚ

/-- The settlement that holds the lock: about to transfer, or with its transfer
committed. -/
inductive Flight
  | payout (actor : UserId) (request : TransferRequest)
  | payoutPaid (actor : UserId) (transactionId : TransactionId)
  | refund (order : RefundOrder) (request : TransferRequest)
  | refundPaid (order : RefundOrder) (receipt : TransferReceipt)

def Flight.kind : Flight → Kind
  | .payout .. | .payoutPaid .. => .payout
  | .refund .. | .refundPaid .. => .refund

/-- The transfer a settlement is about to make. -/
def Flight.request : Flight → Option TransferRequest
  | .payout _ request | .refund _ request => some request
  | .payoutPaid .. | .refundPaid .. => none

/-- The committed rows, the settlement under way and the transfers posted so far. -/
structure State where
  db : Db
  booking : AccommodationBooking
  commission : BookingCommission
  flight : Option Flight := none
  payments : List Payment := []

inductive Move
  | releaseHostPayout (authority : Authority)
  | refundGuest (authority : Authority) (refundAmount : ℚ)
  | refundGuestApproved (authority : Authority) (args : ApprovalArgs)
  | transfer (env : Env)
  | record (now : Timestamp)
  | crash
  | wallet (env : Env) (call : WalletCall)
  | edit (booking : AccommodationBooking)

/-- The settlement a move asks for. -/
def Move.starts : Move → Option Kind
  | .releaseHostPayout _ => some .payout
  | .refundGuest .. | .refundGuestApproved .. => some .refund
  | _ => none

namespace State

/-- An exception in a refund; only the automatic one leaves a trace. -/
def refundRaised (s : State) : AuthorizationSource → State
  | .bookingTimePolicy => { s with booking := automaticRefundFailed s.booking, flight := none }
  | .platformHumanReview => { s with flight := none }

/-- Follow the decision of a refund. -/
def follow (s : State) (authority : Authority) : RefundDecision → State
  | .answer _ _ booking => { s with booking }
  | .execute order =>
    match escrowRefundRequest authority s.db s.booking (some s.commission) order with
    | .error (.refused _) => s
    | .error _ => s.refundRaised order.source
    | .ok request => { s with flight := some (.refund order request) }

/-- A call of one of the settlements; while another holds the lock it returns at
once. -/
def start (s : State) : Move → State
  | .releaseHostPayout authority =>
    match releaseHostPayoutOpening authority s.db s.booking (some s.commission) with
    | .error _ => s
    | .ok (actor, request) => { s with flight := some (.payout actor request) }
  | .refundGuest authority amount =>
    s.follow authority
      (refundGuestOpening authority s.db s.booking (some s.commission) amount)
  | .refundGuestApproved authority args =>
    s.follow authority
      (refundGuestApprovedOpening authority s.db s.booking (some s.commission) args)
  | _ => s

/-- The state after a settlement's transfer was committed. -/
def pay (s : State) (kind : Kind) (receipt : TransferReceipt) (db : Db) (flight : Flight) : State :=
  { s with
    db
    flight := some flight
    payments := if receipt.alreadyProcessed then s.payments
      else s.payments ++ [⟨kind, receipt.amount⟩] }

/-- The transfer of the settlement under way. -/
def transfer (s : State) (env : Env) : Flight → Option State
  | .payout actor request =>
    match Wallet.transfer env s.db request with
    | .error _ => some { s with flight := none }
    | .ok (receipt, db) =>
      some (s.pay .payout receipt db (.payoutPaid actor receipt.transactionId))
  | .refund order request =>
    match Wallet.transfer env s.db request with
    | .error _ => some (s.refundRaised order.source)
    | .ok (receipt, db) => some (s.pay .refund receipt db (.refundPaid order receipt))
  | .payoutPaid .. | .refundPaid .. => none

/-- The last commit of the settlement under way. -/
def record (s : State) (now : Timestamp) : Flight → Option State
  | .payoutPaid actor transactionId =>
    some { s with commission := s.commission.release actor transactionId, flight := none }
  | .refundPaid order receipt =>
    let existing := (s.db.getByClientRequestId (refundKey s.booking.id)).map Prod.snd
    match refundMismatch s.booking order receipt existing with
    | some _ => some { s with booking := queueReconciliation s.booking order, flight := none }
    | none =>
      some { s with
        commission := s.commission.refund order.amount
        booking := s.booking.refund order now
        flight := none }
  | .payout .. | .refund .. => none

/-- One step. An edit of the booking row does not touch its id and its currency. -/
def next (s : State) : Move → Option State
  | .transfer env => s.flight.bind (s.transfer env)
  | .record now => s.flight.bind (s.record now)
  | .crash => some { s with flight := none }
  | .wallet env call => some { s with db := call.effect env s.db }
  | .edit booking =>
    if booking.id = s.booking.id ∧ booking.currency = s.booking.currency then
      some { s with booking }
    else none
  | move => some (if s.flight.isSome then s else s.start move)

def Step (s : State) (move : Move) (t : State) : Prop := s.next move = some t

/-- What has left the escrow for this booking. -/
def outgoing (s : State) : ℚ := (s.payments.map Payment.amount).sum

/-- What is asked: no more leaves than was charged, and the host's payout and a
full refund are not both paid. -/
structure Sound (charged : Cents) (s : State) : Prop where
  covered : s.outgoing ≤ charged.toDecimal
  once : ¬ (⟨.payout, s.commission.hostPayout.toDecimal⟩ ∈ s.payments ∧
    ⟨.refund, charged.toDecimal⟩ ∈ s.payments)

/-- A booking right after its charge; no settlement has been started. -/
structure Charged (charged : Cents) (s : State) : Prop where
  positive : 0 < charged
  commission : ∃ id rate, 0 ≤ rate ∧ s.commission = .ofCharge id charged rate
  idle : s.flight = none
  nothing : s.payments = []

/-- No settlement is started on a held escrow out of which the other one has been
paid already. -/
def Uncrossed (s : State) (move : Move) : Prop :=
  ∀ kind, move.starts = some kind → s.flight = none → s.commission.status = .held →
    ∀ payment ∈ s.payments, payment.kind = kind

/-! ## What the openings grant -/

/-- What a settlement of this kind may move: the payout, or a refund of at most
what was charged. -/
def Due (total host : Cents) (amount : ℚ) : Kind → Prop
  | .payout => amount = host.toDecimal
  | .refund => ∃ cents ≤ total, amount = cents.toDecimal

theorem Due.quantize {total host : Cents} {amount : ℚ} {kind : Kind}
    (h : Due total host amount kind) : quantize amount = amount := by
  cases kind with
  | payout =>
    obtain rfl : amount = host.toDecimal := h
    exact quantize_gridValue _
  | refund =>
    obtain ⟨cents, -, rfl⟩ := h
    exact quantize_gridValue _

theorem Due.le {total host : Cents} {amount : ℚ} {kind : Kind} (bound : host ≤ total)
    (h : Due total host amount kind) : amount ≤ total.toDecimal := by
  have hmono : ∀ {cents : Cents}, cents ≤ total → cents.toDecimal ≤ total.toDecimal := by
    intro cents hle
    rw [Cents.toDecimal, Cents.toDecimal, gridValue_le_iff (by decide),
      gridValue_mul (by decide)]
    exact_mod_cast hle
  cases kind with
  | payout =>
    obtain rfl : amount = host.toDecimal := h
    exact hmono bound
  | refund =>
    obtain ⟨cents, hle, rfl⟩ := h
    exact hmono hle

/-- A request made for a settlement of this kind. -/
structure Requested (s : State) (kind : Kind) (request : TransferRequest) : Prop where
  key : request.clientRequestId = kind.key s.booking.id
  due : Due s.commission.totalAmount s.commission.hostPayout request.amount kind

variable {s t : State} {authority : Authority}

variable {move : Move} {request : TransferRequest}

theorem releaseHostPayoutOpening_ok {actor : UserId}
    (h : releaseHostPayoutOpening authority s.db s.booking (some s.commission) =
      .ok (actor, request)) :
    s.commission.status = .held ∧ Requested s .payout request := by
  unfold releaseHostPayoutOpening at h
  split at h
  · cases h
  · simp only [check_bind_eq_ok, require_eq_ok] at h
    obtain ⟨-, -, hheld, h⟩ := h
    obtain ⟨host, -, h⟩ := bind_eq_ok.mp h
    obtain ⟨escrow, -, h⟩ := bind_eq_ok.mp h
    cases h
    exact ⟨hheld, rfl, rfl⟩

theorem escrowRefundRequest_ok {order : RefundOrder}
    (h : escrowRefundRequest authority s.db s.booking (some s.commission) order = .ok request) :
    s.commission.status = .held ∧ Requested s .refund request := by
  simp only [escrowRefundRequest, check_bind_eq_ok] at h
  obtain ⟨-, h⟩ := h
  split at h
  · cases h
  · rename_i commission hcommission
    simp only [Option.filter_eq_some_iff, Option.some.injEq, decide_eq_true_eq] at hcommission
    obtain ⟨rfl, hheld⟩ := hcommission
    simp only [check_bind_eq_ok, require_eq_ok] at h
    obtain ⟨-, hcovered, h⟩ := h
    obtain ⟨escrow, -, h⟩ := bind_eq_ok.mp h
    obtain ⟨guest, -, h⟩ := bind_eq_ok.mp h
    cases h
    exact ⟨hheld, rfl, order.amount, hcovered, rfl⟩

/-- The row an answer commits is still the row of this booking. -/
theorem refundGuestOpening_id {amount : ℚ} {ok : Bool} {message : String}
    {booking : AccommodationBooking}
    (h : refundGuestOpening authority s.db s.booking (some s.commission) amount =
      .answer ok message booking) : booking.id = s.booking.id := by
  simp only [refundGuestOpening] at h
  repeat' split at h
  all_goals
    cases h
    try rfl

theorem refundGuestApprovedOpening_id {args : ApprovalArgs} {ok : Bool} {message : String}
    {booking : AccommodationBooking}
    (h : refundGuestApprovedOpening authority s.db s.booking (some s.commission) args =
      .answer ok message booking) : booking.id = s.booking.id := by
  simp only [refundGuestApprovedOpening] at h
  repeat' split at h
  all_goals
    cases h
    try rfl

/-! ## What a step does -/

/-- The terms of the escrow stay, and the keys that are taken. -/
structure Keeps (s t : State) : Prop where
  id : t.booking.id = s.booking.id
  total : t.commission.totalAmount = s.commission.totalAmount
  host : t.commission.hostPayout = s.commission.hostPayout
  keys : ∀ key, (s.db.getByClientRequestId key).isSome → (t.db.getByClientRequestId key).isSome

/-- Everything a step can do to the settlement under way and to the payments. -/
inductive Effect (s : State) (move : Move) (t : State) : Prop
  | quiet : t.payments = s.payments → t.flight = s.flight → Effect s move t
  | ended : t.payments = s.payments → t.flight = none → Effect s move t
  | started {kind : Kind} {flight : Flight} {request : TransferRequest} :
      t.payments = s.payments → move.starts = some kind → s.flight = none →
      s.commission.status = .held → t.flight = some flight → flight.kind = kind →
      flight.request = some request → Requested s kind request → Effect s move t
  | replayed {before after : Flight} :
      t.payments = s.payments → s.flight = some before → t.flight = some after →
      after.kind = before.kind → after.request = none → Effect s move t
  | posted {before after : Flight} {request : TransferRequest} :
      s.flight = some before → before.request = some request →
      s.db.getByClientRequestId request.clientRequestId = none →
      (t.db.getByClientRequestId request.clientRequestId).isSome →
      t.payments = s.payments ++ [⟨before.kind, request.quantized⟩] →
      t.flight = some after → after.kind = before.kind → after.request = none → Effect s move t

theorem Keeps.of_same_db (hid : t.booking.id = s.booking.id)
    (hcommission : t.commission = s.commission) (hdb : t.db = s.db) : Keeps s t :=
  ⟨hid, by rw [hcommission], by rw [hcommission], fun _ h => by rwa [hdb]⟩

theorem refundRaised_effect (s : State) (move : Move) (source : AuthorizationSource) :
    Keeps s (s.refundRaised source) ∧ Effect s move (s.refundRaised source) := by
  cases source with
  | bookingTimePolicy => exact ⟨.of_same_db rfl rfl rfl, .ended rfl rfl⟩
  | platformHumanReview => exact ⟨.of_same_db rfl rfl rfl, .ended rfl rfl⟩

theorem follow_effect (hstarts : move.starts = some .refund)
    (hidle : s.flight = none) {decision : RefundDecision}
    (hid : ∀ ok message booking, decision = .answer ok message booking →
      booking.id = s.booking.id) :
    Keeps s (s.follow authority decision) ∧ Effect s move (s.follow authority decision) := by
  cases decision with
  | answer ok message booking =>
    exact ⟨.of_same_db (hid _ _ _ rfl) rfl rfl, .quiet rfl rfl⟩
  | execute order =>
    simp only [follow]
    split
    · exact ⟨.of_same_db rfl rfl rfl, .quiet rfl rfl⟩
    · exact refundRaised_effect s move order.source
    · rename_i request hrequest
      obtain ⟨hheld, hrequested⟩ := escrowRefundRequest_ok hrequest
      exact ⟨.of_same_db rfl rfl rfl, .started rfl hstarts hidle hheld rfl rfl rfl hrequested⟩

theorem start_effect (hidle : s.flight = none) :
    Keeps s (s.start move) ∧ Effect s move (s.start move) := by
  unfold start
  split
  · split
    · exact ⟨.of_same_db rfl rfl rfl, .quiet rfl rfl⟩
    · rename_i actor request hopening
      obtain ⟨hheld, hrequested⟩ := releaseHostPayoutOpening_ok hopening
      exact ⟨.of_same_db rfl rfl rfl, .started rfl rfl hidle hheld rfl rfl rfl hrequested⟩
  · exact follow_effect rfl hidle (fun _ _ _ => refundGuestOpening_id)
  · exact follow_effect rfl hidle (fun _ _ _ => refundGuestApprovedOpening_id)
  · exact ⟨.of_same_db rfl rfl rfl, .quiet rfl rfl⟩

/-- A transfer that returned paid once, or found its key taken. -/
theorem pay_effect {env : Env} {before after : Flight}
    {receipt : TransferReceipt} {db : Db} (hflight : s.flight = some before)
    (hrequest : before.request = some request) (hkind : after.kind = before.kind)
    (hpaid : after.request = none) (h : Wallet.transfer env s.db request = .ok (receipt, db)) :
    Keeps s (s.pay before.kind receipt db after) ∧
      Effect s move (s.pay before.kind receipt db after) := by
  have hkeys : ∀ key, (s.db.getByClientRequestId key).isSome →
      (db.getByClientRequestId key).isSome := by
    intro key htaken
    have heffect : WalletCall.effect env s.db (.transfer request) = db := by
      simp [WalletCall.effect, committed, h]
    rw [← heffect]
    exact effect_keeps_key env _ htaken
  refine ⟨⟨rfl, rfl, rfl, hkeys⟩, ?_⟩
  obtain ⟨hreplayed, -⟩ | ⟨hposted, hamount, hfree, htaken⟩ := transfer_takes_key h
  · exact .replayed (by simp [pay, hreplayed]) hflight rfl hkind hpaid
  · exact .posted hflight hrequest hfree htaken (by simp [pay, hposted, hamount]) rfl hkind hpaid

theorem transfer_effect {env : Env} {flight : Flight}
    (hflight : s.flight = some flight) (h : s.transfer env flight = some t) :
    Keeps s t ∧ Effect s move t := by
  cases flight with
  | payout actor request =>
    simp only [transfer] at h
    split at h
    · cases h
      exact ⟨.of_same_db rfl rfl rfl, .ended rfl rfl⟩
    · rename_i receipt db hpaid
      cases h
      exact pay_effect hflight rfl rfl rfl hpaid
  | refund order request =>
    simp only [transfer] at h
    split at h
    · cases h
      exact refundRaised_effect s move order.source
    · rename_i receipt db hpaid
      cases h
      exact pay_effect hflight rfl rfl rfl hpaid
  | payoutPaid actor transactionId => cases h
  | refundPaid order receipt => cases h

theorem record_effect {now : Timestamp} {flight : Flight}
    (h : s.record now flight = some t) : Keeps s t ∧ Effect s move t := by
  cases flight with
  | payout actor request => cases h
  | refund order request => cases h
  | payoutPaid actor transactionId =>
    cases h
    exact ⟨⟨rfl, rfl, rfl, fun _ htaken => htaken⟩, .ended rfl rfl⟩
  | refundPaid order receipt =>
    simp only [record] at h
    split at h
    · cases h
      exact ⟨.of_same_db rfl rfl rfl, .ended rfl rfl⟩
    · cases h
      exact ⟨⟨rfl, rfl, rfl, fun _ htaken => htaken⟩, .ended rfl rfl⟩

theorem step_effect (h : Step s move t) : Keeps s t ∧ Effect s move t := by
  unfold Step next at h
  split at h
  · obtain ⟨flight, hflight, h⟩ := Option.bind_eq_some_iff.mp h
    exact transfer_effect hflight h
  · obtain ⟨flight, hflight, h⟩ := Option.bind_eq_some_iff.mp h
    exact record_effect h
  · cases h
    exact ⟨.of_same_db rfl rfl rfl, .ended rfl rfl⟩
  · rename_i env call
    cases h
    exact ⟨⟨rfl, rfl, rfl, fun _ htaken => effect_keeps_key env call htaken⟩, .quiet rfl rfl⟩
  · split at h
    · rename_i hsame
      cases h
      exact ⟨.of_same_db hsame.1 rfl rfl, .quiet rfl rfl⟩
    · cases h
  · split at h
    · cases h
      exact ⟨.of_same_db rfl rfl rfl, .quiet rfl rfl⟩
    · rename_i hidle
      cases h
      exact start_effect (by simpa using hidle)

/-! ## Invariants -/

/-- Every payment was due, holds its key and is the only one of its kind; so is
the transfer that is about to be made. -/
structure Inv (total host : Cents) (s : State) : Prop where
  total_eq : s.commission.totalAmount = total
  host_eq : s.commission.hostPayout = host
  bound : host ≤ total
  taken : ∀ payment ∈ s.payments,
    (s.db.getByClientRequestId (payment.kind.key s.booking.id)).isSome
  kinds : (s.payments.map Payment.kind).Nodup
  due : ∀ payment ∈ s.payments, Due total host payment.amount payment.kind
  requested : ∀ flight, s.flight = some flight → ∀ request, flight.request = some request →
    Requested s flight.kind request

variable {total host : Cents}

/-- What only depends on the terms and the keys carries over to the next state. -/
theorem Inv.carry (inv : Inv total host s) (keeps : Keeps s t) :
    (∀ payment ∈ s.payments,
      (t.db.getByClientRequestId (payment.kind.key t.booking.id)).isSome) ∧
    ∀ kind request, Requested s kind request → Requested t kind request := by
  constructor
  · intro payment hpayment
    rw [keeps.id]
    exact keeps.keys _ (inv.taken payment hpayment)
  · intro kind request h
    refine ⟨by rw [keeps.id]; exact h.key, ?_⟩
    rw [keeps.total, keeps.host]
    exact h.due

theorem Inv.unpaid (inv : Inv total host s) (keeps : Keeps s t)
    (hpayments : t.payments = s.payments)
    (hrequested : ∀ flight, t.flight = some flight → ∀ request, flight.request = some request →
      Requested s flight.kind request) : Inv total host t := by
  obtain ⟨htaken, hcarry⟩ := inv.carry keeps
  refine
    { total_eq := keeps.total.trans inv.total_eq
      host_eq := keeps.host.trans inv.host_eq
      bound := inv.bound
      taken := ?_
      kinds := ?_
      due := ?_
      requested := ?_ }
  · rw [hpayments]
    exact htaken
  · rw [hpayments]
    exact inv.kinds
  · rw [hpayments]
    exact inv.due
  · intro flight hflight request hrequest
    exact hcarry _ _ (hrequested flight hflight request hrequest)

/-- A transfer posts under a key that was free, so no payment of its kind has been
made. -/
theorem Inv.posted (inv : Inv total host s) (keeps : Keeps s t) {before after : Flight}
    {request : TransferRequest} (hbefore : s.flight = some before)
    (hrequest : before.request = some request)
    (hfree : s.db.getByClientRequestId request.clientRequestId = none)
    (htaken : (t.db.getByClientRequestId request.clientRequestId).isSome)
    (hpayments : t.payments = s.payments ++ [⟨before.kind, request.quantized⟩])
    (hafter : t.flight = some after) (hpaid : after.request = none) : Inv total host t := by
  have hrequested := inv.requested before hbefore request hrequest
  have hdue := hrequested.due
  rw [inv.total_eq, inv.host_eq] at hdue
  refine
    { total_eq := keeps.total.trans inv.total_eq
      host_eq := keeps.host.trans inv.host_eq
      bound := inv.bound
      taken := ?_
      kinds := ?_
      due := ?_
      requested := ?_ }
  · intro payment hpayment
    rw [hpayments, List.mem_append, List.mem_singleton] at hpayment
    obtain hold | rfl := hpayment
    · exact (inv.carry keeps).1 payment hold
    · rwa [keeps.id, ← hrequested.key]
  · rw [hpayments, List.map_append, List.nodup_append]
    refine ⟨inv.kinds, List.nodup_singleton _, ?_⟩
    intro kind hkind other hother
    rw [List.map_singleton, List.mem_singleton] at hother
    rintro rfl
    obtain ⟨payment, hpayment, hsame⟩ := List.mem_map.mp hkind
    have hheld := inv.taken payment hpayment
    rw [hsame, hother, ← hrequested.key, hfree] at hheld
    cases hheld
  · intro payment hpayment
    rw [hpayments, List.mem_append, List.mem_singleton] at hpayment
    obtain hold | rfl := hpayment
    · exact inv.due payment hold
    · have hexact : request.quantized = request.amount := hdue.quantize
      rwa [hexact]
  · intro flight hflight later hlater
    rw [hafter] at hflight
    cases hflight
    rw [hpaid] at hlater
    cases hlater

theorem Inv.step (inv : Inv total host s) {move : Move} (h : Step s move t) :
    Inv total host t := by
  obtain ⟨keeps, effect⟩ := step_effect h
  cases effect with
  | quiet hpayments hflight =>
    refine inv.unpaid keeps hpayments ?_
    rw [hflight]
    exact inv.requested
  | ended hpayments hflight =>
    refine inv.unpaid keeps hpayments ?_
    intro flight hsome
    rw [hflight] at hsome
    cases hsome
  | started hpayments _ _ _ hflight hkind hrequest hrequested =>
    refine inv.unpaid keeps hpayments ?_
    intro flight hsome request hsame
    rw [hflight] at hsome
    cases hsome
    rw [hrequest] at hsame
    cases hsame
    rwa [hkind]
  | replayed hpayments _ hflight _ hpaid =>
    refine inv.unpaid keeps hpayments ?_
    intro flight hsome request hsame
    rw [hflight] at hsome
    cases hsome
    rw [hpaid] at hsame
    cases hsame
  | posted hbefore hrequest hfree htaken hpayments hafter _ hpaid =>
    exact inv.posted keeps hbefore hrequest hfree htaken hpayments hafter hpaid

/-- All payments are of one kind, and so is the settlement under way. -/
structure OneWay (s : State) : Prop where
  payments : ∀ payment ∈ s.payments, ∀ other ∈ s.payments, payment.kind = other.kind
  flight : ∀ flight, s.flight = some flight → ∀ payment ∈ s.payments, payment.kind = flight.kind

theorem OneWay.step (one : OneWay s) {move : Move} (uncrossed : Uncrossed s move)
    (h : Step s move t) : OneWay t := by
  obtain ⟨-, effect⟩ := step_effect h
  cases effect with
  | quiet hpayments hflight =>
    constructor
    · rw [hpayments]
      exact one.payments
    · rw [hpayments, hflight]
      exact one.flight
  | ended hpayments hflight =>
    constructor
    · rw [hpayments]
      exact one.payments
    · intro flight hsome
      rw [hflight] at hsome
      cases hsome
  | started hpayments hstarts hidle hheld hflight hkind _ _ =>
    constructor
    · rw [hpayments]
      exact one.payments
    · intro flight hsome
      rw [hflight] at hsome
      cases hsome
      rw [hpayments, hkind]
      exact uncrossed _ hstarts hidle hheld
  | replayed hpayments hbefore hafter hkind _ =>
    constructor
    · rw [hpayments]
      exact one.payments
    · intro flight hsome
      rw [hafter] at hsome
      cases hsome
      rw [hpayments, hkind]
      exact one.flight _ hbefore
  | @posted before after request hbefore _ _ _ hpayments hafter hkind _ =>
    have hall : ∀ payment ∈ t.payments, payment.kind = before.kind := by
      intro payment hpayment
      rw [hpayments, List.mem_append, List.mem_singleton] at hpayment
      obtain hold | rfl := hpayment
      · exact one.flight _ hbefore payment hold
      · rfl
    constructor
    · intro payment hpayment other hother
      rw [hall payment hpayment, hall other hother]
    · intro flight hsome
      rw [hafter] at hsome
      cases hsome
      rw [hkind]
      exact hall

/-- One payment at most, and it was due. -/
theorem OneWay.sound (one : OneWay s) (inv : Inv total host s) (positive : 0 ≤ total) :
    Sound total s := by
  constructor
  · have hkinds := inv.kinds
    have hdue := inv.due
    have hsame := one.payments
    rw [outgoing]
    -- Two payments would be of one kind, which `kinds` excludes.
    match hpayments : s.payments with
    | [] =>
      simpa [Cents.toDecimal, gridValue_nonneg_iff (show 0 < moneyQuant by decide)] using positive
    | [payment] =>
      rw [hpayments] at hdue
      simpa using (hdue payment (by simp)).le inv.bound
    | first :: second :: rest =>
      rw [hpayments] at hkinds hsame
      have hdiffer : first.kind ≠ second.kind := by
        intro hequal
        simp [hequal] at hkinds
      exact absurd (hsame first (by simp) second (by simp)) hdiffer
  · rintro ⟨hpayout, hrefund⟩
    exact absurd (one.payments _ hpayout _ hrefund) (by simp)

/-! ## Whole runs -/

/-- A rate that is not negative leaves the host at most what was charged. -/
theorem hostPayout_le {id : ℕ} {charged : Cents} {rate : ℚ} (positive : 0 ≤ charged)
    (hrate : 0 ≤ rate) : (BookingCommission.ofCharge id charged rate).hostPayout ≤ charged := by
  have hcharged : 0 ≤ charged.toDecimal := by
    rwa [Cents.toDecimal, gridValue_nonneg_iff (by decide)]
  have hcommission : 0 ≤ Cents.ofDecimal (charged.toDecimal * rate / 100) := by
    apply le_roundHalfEven
    push_cast
    positivity
  exact sub_le_self charged hcommission

theorem Charged.inv {charged : Cents} (h : Charged charged s) :
    Inv charged s.commission.hostPayout s := by
  obtain ⟨id, rate, hrate, hcommission⟩ := h.commission
  refine ⟨by rw [hcommission]; rfl, rfl, ?_, ?_, ?_, ?_, ?_⟩
  · rw [hcommission]
    exact hostPayout_le h.positive.le hrate
  · simp [h.nothing]
  · simp [h.nothing]
  · simp [h.nothing]
  · simp [h.idle]

/-- In every run whose settlements are never crossed, with calls repeated and
interrupted anywhere, no more leaves the escrow than was charged and the booking is
not settled both ways. In every run at all, each of the two ways is paid at most
once, and never more than was charged. -/
theorem escrow_settles_once {charged : Cents} {moves : List Move} (start : Charged charged s) :
    (Run (Guarded Uncrossed Step) s moves t → Sound charged t) ∧
      (Run Step s moves t → (t.payments.map Payment.kind).Nodup ∧
        ∀ payment ∈ t.payments, payment.amount ≤ charged.toDecimal) := by
  constructor
  · intro run
    obtain ⟨inv, one⟩ : Inv charged s.commission.hostPayout t ∧ OneWay t := by
      refine run.invariant (fun s' => Inv charged s.commission.hostPayout s' ∧ OneWay s') ?_
        ⟨start.inv, by simp [start.nothing], by simp [start.nothing]⟩
      rintro s' move t' ⟨inv, one⟩ ⟨uncrossed, hstep⟩
      exact ⟨inv.step hstep, one.step uncrossed hstep⟩
    exact one.sound inv start.positive.le
  · intro run
    have inv : Inv charged s.commission.hostPayout t :=
      run.invariant _ (fun _ _ _ inv hstep => inv.step hstep) start.inv
    exact ⟨inv.kinds, fun payment hpayment => (inv.due payment hpayment).le inv.bound⟩

/-! ## A stay of 100 shillings -/

/-- The escrow of the platform holds the payments of two bookings of user 7. -/
def stayWallets : Db :=
  walletRun (Db.opened [userWallet 1 7 "UGX", userWallet 2 8 "UGX", platformWallet 3 1] (by decide))
    [fundFirst, charge 6, charge 5]
where
  charge (id : ℕ) : Env × WalletCall :=
    ({ Env.lenient 1 ⟨7, false⟩ with
        pinAuthority := fun _ => some ⟨true, fun pin => pin = "2580"⟩ },
      .transfer
        { fromAccountId := 1, toAccountId := 3, amount := 100, currency := "UGX"
          clientRequestId := "booking_" ++ toString id ++ "_charge_1"
          metadata := [("booking_id", toString id)], pin := some "2580" })

/-- Booking 5, checked in by its host, with a refund request under review. -/
def stay : State where
  db := stayWallets
  booking :=
    { id := 5, bookingReference := "AFC-5", property := some ⟨some 8, none⟩, status := .checkedIn
      isCheckedIn := true, checkedInBy := some 8, bookedByUserId := 7, hostUserId := 8
      currency := "UGX", paymentMethod := some "wallet", paymentStatus := .paid
      walletTxnId := some 2, totalAmount := 10000, amountPaid := 10000
      policy := ⟨true, true, none, false⟩
      workflow :=
        { state := some .pendingHumanReview, riskFlags := some [.providerOrManualException]
          requestedByUserId := some 8, signed := true } }
  commission := .ofCharge 1 10000 10

/-- What the user with this id may do: manage its own properties, and review
refunds as the administrator 9. -/
def actingAs (user : UserId) : Authority where
  actor := some user
  canManageProperty := fun id property => property.any (fun p => p.ownerUserId = some id)
  hasGlobalRole := fun id => id = 9
  managesAccommodation := fun _ _ => some false
  platformOrgId := some 1
  now := "2025-12-21T10:00:00+00:00"

/-- The host's payout up to the commit of its transfer. -/
def payHost : List Move := [.releaseHostPayout (actingAs 8), .transfer (Env.lenient 2 ⟨8, false⟩)]

/-- The refund of the whole stay, approved by the administrator. -/
def refundStay : List Move :=
  [.refundGuestApproved (actingAs 9)
      { refundAmount := 100, approvalReason := some "Guest left early"
        integrityExceptionAcknowledged := true },
    .transfer (Env.lenient 3 ⟨9, true⟩), .record 3]

theorem stay_charged : Charged 10000 stay :=
  ⟨by decide, ⟨1, 10, by decide, rfl⟩, rfl, rfl⟩

instance (s : State) (move : Move) : Decidable (Uncrossed s move) :=
  decidable_of_iff (∀ kind ∈ move.starts, s.flight = none → s.commission.status = .held →
    ∀ payment ∈ s.payments, payment.kind = kind) Iff.rfl

/-- The payout is interrupted after its transfer and called again: the host is paid
once. -/
theorem payout_retried :
    ∃ t, Run (Guarded Uncrossed Step) stay
        (payHost ++ [.crash] ++ payHost ++ [.record 4]) t ∧
      Sound 10000 t ∧ t.outgoing = 90 := by
  have hpaid : (exec (fun s move => if Uncrossed s move then s.next move else none) stay
      (payHost ++ [.crash] ++ payHost ++ [.record 4])).any (fun t => t.outgoing = 90) = true := by
    decide +kernel
  cases hexec : exec (fun s move => if Uncrossed s move then s.next move else none) stay
      (payHost ++ [.crash] ++ payHost ++ [.record 4]) with
  | none =>
    rw [hexec] at hpaid
    cases hpaid
  | some t =>
    rw [hexec, Option.any_some, decide_eq_true_eq] at hpaid
    have run : Run (Guarded Uncrossed Step) stay
        (payHost ++ [.crash] ++ payHost ++ [.record 4]) t := by
      refine Run.of_exec ?_ hexec
      intro s move t h
      simp only [Option.ite_none_right_eq_some] at h
      exact h
    exact ⟨t, run, (escrow_settles_once stay_charged).1 run, hpaid⟩

/-- The payout is interrupted after its transfer and the stay is then refunded: the
host and the guest are both paid. -/
theorem interrupted_payout_paid_twice :
    ¬ ∀ (charged : Cents) (s t : State) (moves : List Move), Charged charged s →
      Run Step s moves t → Sound charged t := by
  intro claim
  have hpaid : (exec next stay (payHost ++ [.crash] ++ refundStay)).any
      (fun t => t.outgoing = 190) = true := by
    decide +kernel
  cases hexec : exec next stay (payHost ++ [.crash] ++ refundStay) with
  | none =>
    rw [hexec] at hpaid
    cases hpaid
  | some t =>
    rw [hexec, Option.any_some, decide_eq_true_eq] at hpaid
    have hcovered := (claim 10000 stay t _ stay_charged
      (Run.of_exec (fun _ _ _ h => h) hexec)).covered
    rw [hpaid] at hcovered
    norm_num [Cents.toDecimal, gridValue, moneyQuant] at hcovered

end State

end Afcon360.Accommodation
