import Afcon360.Accommodation.Escrow
import Afcon360.Wallet.System

/-!
# Charging a guest

`charge_guest` splits the total of a booking into the platform's commission and the host's
payout, transfers the total from the guest's wallet to the platform's escrow with the
commission as the fee of the transfer, and records the split.

It passes no PIN and does not call the transfer one of the system's, so the transfer is always
refused: no charge succeeds, and what is said of charges that succeed holds of none.
-/

namespace Afcon360.Accommodation

open Foundation Wallet

/-- `PLATFORM_COMMISSION_PCT`, as a text and as a number. -/
structure CommissionRate where
  text : String := "10.0"
  pct : ℚ := 10

/-- The arguments of `charge_guest`, with the property of the booking. -/
structure ChargeCall where
  booking : AccommodationBooking
  propertyId : ℕ
  totalAmount : Cents
  currency : Currency
  idempotencyKey : String

namespace ChargeCall

variable (call : ChargeCall) (rate : CommissionRate)

def commissionAmount : Cents :=
  Cents.ofDecimal (call.totalAmount.toDecimal * rate.pct / 100)

def hostPayout : Cents := call.totalAmount - call.commissionAmount rate

/-- The idempotency key of the transfer. -/
def clientRequestId : String :=
  "booking_" ++ toString call.booking.id ++ "_charge_" ++ call.idempotencyKey

/-- The transfer that is asked for. -/
def request (guest escrow : AccountId) : TransferRequest :=
  { fromAccountId := guest
    toAccountId := escrow
    amount := call.totalAmount.toDecimal
    currency := call.currency
    clientRequestId := call.clientRequestId
    note := some ("Booking payment: " ++ call.booking.bookingReference)
    metadata :=
      [("booking_id", toString call.booking.id),
        ("booking_reference", call.booking.bookingReference),
        ("property_id", toString call.propertyId),
        ("guest_user_id", toString call.booking.bookedByUserId),
        ("host_user_id", toString call.booking.hostUserId), ("commission_pct", rate.text),
        ("commission_amount", (call.commissionAmount rate).text),
        ("host_payout", (call.hostPayout rate).text)]
    platformFee := some (call.commissionAmount rate).toDecimal
    feeCurrency := some call.currency }

end ChargeCall

/-- What a charge that succeeded leaves: the booking and its commission row. -/
structure GuestCharge where
  transactionId : TransactionId
  booking : AccommodationBooking
  commission : BookingCommission

/-- The rows written after the transfer. The booking has one commission row at most, and the
columns take values below a hundred million, rates below a thousand. -/
def recordCharge (call : ChargeCall) (rate : CommissionRate) (existing : Option BookingCommission)
    (id : ℕ) (transactionId : TransactionId) : Except SettlementError GuestCharge := do
  require existing.isNone (.wallet .database)
  require (|call.totalAmount| < 10 ^ 10 ∧ |call.commissionAmount rate| < 10 ^ 10 ∧
      |call.hostPayout rate| < 10 ^ 10 ∧ |roundHalfUp 100 rate.pct| < 10 ^ 5)
    (.wallet .database)
  pure
    { transactionId
      booking :=
        { call.booking with
          walletTxnId := some transactionId
          paymentStatus := .paid
          amountPaid := call.totalAmount }
      commission := .ofCharge id call.totalAmount rate.pct }

/-- `charge_guest`. The transfer is committed before the rows are written. -/
def chargeGuest (env : Env) (platformOrgId : Option UserId) (rate : CommissionRate) (db : Db)
    (existing : Option BookingCommission) (id : ℕ) (call : ChargeCall) :
    Db × Except SettlementError GuestCharge :=
  let sent : Except SettlementError (TransferReceipt × Db) := do
    let guest ← getAccountForUser db call.booking.bookedByUserId call.currency
    let escrow ← getPlatformAccountId platformOrgId db call.currency
    match transfer env db (call.request rate guest escrow) with
    | .ok result => pure result
    | .error e => .error (.wallet e)
  match sent with
  | .ok (receipt, after) => (after, recordCharge call rate existing id receipt.transactionId)
  | .error e => (db, .error e)

/-- The charge took the total from the guest, put it into the escrow, and recorded a split of
it into two amounts that are not negative. -/
structure ExactCharge (before after : Db) (guest escrow : AccountId) (call : ChargeCall)
    (commission : BookingCommission) : Prop where
  debited : after.getBalance guest call.currency =
    before.getBalance guest call.currency - call.totalAmount.toDecimal
  credited : after.getBalance escrow call.currency =
    before.getBalance escrow call.currency + call.totalAmount.toDecimal
  commission_nonneg : 0 ≤ commission.commissionAmount
  payout_nonneg : 0 ≤ commission.hostPayout
  sum : commission.commissionAmount + commission.hostPayout = call.totalAmount

variable {env : Env} {db : Db} {request : TransferRequest} {call : ChargeCall}
  {rate : CommissionRate}

/-! ## Without a PIN -/

theorem checkPin_none (authority : Option PinAuthority) :
    ∃ e, checkPin authority none = .error e := by
  unfold checkPin
  split
  · exact ⟨_, rfl⟩
  · split
    · exact ⟨_, rfl⟩
    · exact ⟨_, rfl⟩

/-- A transfer that is not the system's and comes without a PIN is refused. -/
theorem transfer_refused_of_no_pin (hpin : request.pin = none)
    (hsystem : request.systemInitiated = false) : ∃ e, transfer env db request = .error e := by
  cases h : transfer env db request with
  | error e => exact ⟨e, rfl⟩
  | ok result =>
    obtain ⟨receipt, after⟩ := result
    obtain ⟨parties, hopening, -⟩ := transfer_ok h
    simp only [transferOpening, check_bind_eq_ok] at hopening
    obtain ⟨-, -, -, hverify, -⟩ := hopening
    unfold verifyPin at hverify
    rw [hsystem, hpin] at hverify
    simp only [Bool.false_eq_true, if_false] at hverify
    split at hverify
    · cases hverify
    · split at hverify
      · cases hverify
      · cases hverify
      · obtain ⟨e, he⟩ := checkPin_none (env.pinAuthority _)
        rw [he] at hverify
        cases hverify

/-- No charge succeeds, and nothing moves. -/
theorem chargeGuest_fails (env : Env) (platformOrgId : Option UserId) (rate : CommissionRate)
    (db : Db) (existing : Option BookingCommission) (id : ℕ) (call : ChargeCall) :
    ∃ e, chargeGuest env platformOrgId rate db existing id call = (db, .error e) := by
  unfold chargeGuest
  dsimp only
  split
  · rename_i receipt sentDb hsent
    obtain ⟨guest, -, hsent⟩ := bind_eq_ok.mp hsent
    obtain ⟨escrow, -, hsent⟩ := bind_eq_ok.mp hsent
    have hrefused : ∃ e, transfer env db (call.request rate guest escrow) = .error e :=
      transfer_refused_of_no_pin rfl rfl
    obtain ⟨e, he⟩ := hrefused
    rw [he] at hsent
    cases hsent
  · exact ⟨_, rfl⟩

/-! ## The split -/

/-- Whatever the rate, the two amounts are the total. -/
theorem split_eq (call : ChargeCall) (rate : CommissionRate) :
    call.commissionAmount rate + call.hostPayout rate = call.totalAmount := by
  rw [ChargeCall.hostPayout]
  ring

/-- A rate between nothing and everything leaves no amount negative. -/
theorem split_nonneg (htotal : 0 ≤ call.totalAmount) (hpct : 0 ≤ rate.pct ∧ rate.pct ≤ 100) :
    0 ≤ call.commissionAmount rate ∧ 0 ≤ call.hostPayout rate := by
  have hvalue : 0 ≤ call.totalAmount.toDecimal := (gridValue_nonneg_iff (by decide)).mpr htotal
  have hbelow : call.totalAmount.toDecimal * rate.pct / 100 ≤ call.totalAmount.toDecimal := by
    rw [div_le_iff₀ (by norm_num)]
    exact mul_le_mul_of_nonneg_left hpct.2 hvalue
  have hround := roundHalfEven_mono moneyQuant
  constructor
  · have hpart : 0 ≤ call.totalAmount.toDecimal * rate.pct / 100 :=
      div_nonneg (mul_nonneg hvalue hpct.1) (by norm_num)
    calc (0 : ℤ) = roundHalfEven moneyQuant (gridValue moneyQuant 0) :=
          (roundHalfEven_gridValue (by decide)).symm
      _ = roundHalfEven moneyQuant 0 := by rw [gridValue]; simp
      _ ≤ call.commissionAmount rate := hround hpart
  · rw [ChargeCall.hostPayout, sub_nonneg]
    calc call.commissionAmount rate ≤ roundHalfEven moneyQuant call.totalAmount.toDecimal :=
          hround hbelow
      _ = call.totalAmount := roundHalfEven_gridValue (by decide)

end Afcon360.Accommodation
