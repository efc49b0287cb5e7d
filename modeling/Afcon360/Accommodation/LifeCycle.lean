import Afcon360.Accommodation.Overbooking
import Afcon360.Accommodation.SeparationOfDuties

/-!
# The life of a booking

Of the tables only the statuses and the history are looked at here. `LifeStep` is what
may happen to them: a draft is inserted, a booking makes a valid transition and gets a
row, a row notes its status, a row records a payment. Every transaction of every
interleaving is a sequence of such steps, so the rows of statuses lead from `draft` to
the status of the booking. The rows of `PaymentStateMachine` stand in the same table
between them.

An operation that is refused because of the status or of the actor has written nothing.
This is about whole operations, one after another: a cancellation commits the release of its
rooms before its transition, which cannot fail unless another call comes between the two.
-/

namespace Afcon360.Accommodation

open Foundation Relation Wallet

/-- One status may follow another. -/
def BookingStatus.Leads (a b : BookingStatus) : Prop := b ∈ a.validTransitions

/-- A row of history that leads from one status to another, or notes one. -/
def RowStep (a : BookingStatus) (row : BookingStatus × BookingStatus) (b : BookingStatus) : Prop :=
  row = (a, b) ∧ (a.Leads b ∨ b = a)

/-- The statuses of the row, if it is one of this booking and not of a payment. -/
def HistoryRow.statuses (id : ℕ) (row : HistoryRow) : Option (BookingStatus × BookingStatus) :=
  if row.bookingId = id then
    match row.fromStatus, row.toStatus with
    | .booking a, .booking b => some (a, b)
    | _, _ => none
  else none

/-- The rows of a booking's statuses, in the order they were written. -/
def lifeRows (history : List HistoryRow) (id : ℕ) : List (BookingStatus × BookingStatus) :=
  history.filterMap (HistoryRow.statuses id)

/-! ## Statuses and their history -/

structure Life where
  statuses : List BookingStatus
  history : List HistoryRow

inductive LifeStep : Life → Life → Prop
  | insert (statuses : List BookingStatus) (history : List HistoryRow) :
      LifeStep ⟨statuses, history⟩ ⟨statuses ++ [.draft], history⟩
  | transit {statuses : List BookingStatus} (history : List HistoryRow) {id : ℕ}
      {a b : BookingStatus} : statuses[id]? = some a → a.Leads b →
      LifeStep ⟨statuses, history⟩
        ⟨statuses.set id b, history ++ [⟨id, .booking a, .booking b⟩]⟩
  | note {statuses : List BookingStatus} (history : List HistoryRow) {id : ℕ}
      {a : BookingStatus} : statuses[id]? = some a →
      LifeStep ⟨statuses, history⟩ ⟨statuses, history ++ [⟨id, .booking a, .booking a⟩]⟩
  | payment (statuses : List BookingStatus) (history : List HistoryRow) (id : ℕ)
      (a b : PaymentState) :
      LifeStep ⟨statuses, history⟩ ⟨statuses, history ++ [⟨id, .payment a, .payment b⟩]⟩

/-- The rows of every booking lead from `draft` to its status, and there are none
without a booking. -/
structure Life.Consistent (life : Life) : Prop where
  chained : ∀ id status, life.statuses[id]? = some status →
    Run RowStep .draft (lifeRows life.history id) status
  none : ∀ id, life.statuses[id]? = none → lifeRows life.history id = []

theorem lifeRows_append (history : List HistoryRow) (row : HistoryRow) (id : ℕ) :
    lifeRows (history ++ [row]) id = lifeRows history id ++ (row.statuses id).toList := by
  rw [lifeRows, List.filterMap_append]
  rfl

theorem statuses_self (id : ℕ) (a b : BookingStatus) :
    HistoryRow.statuses id ⟨id, .booking a, .booking b⟩ = some (a, b) := by
  simp [HistoryRow.statuses]

theorem statuses_other {id other : ℕ} (h : other ≠ id) (a b : HistoryStatus) :
    HistoryRow.statuses id ⟨other, a, b⟩ = none := by
  simp [HistoryRow.statuses, h]

theorem statuses_payment (id other : ℕ) (a b : PaymentState) :
    HistoryRow.statuses id ⟨other, .payment a, .payment b⟩ = none := by
  simp [HistoryRow.statuses]

section

variable {life life' : Life}

variable {id : ℕ}

/-- A row of a booking, with the status it leads to. -/
theorem Life.Consistent.row (h : life.Consistent) {a b : BookingStatus}
    (ha : life.statuses[id]? = some a) (hrow : a.Leads b ∨ b = a) :
    Life.Consistent ⟨life.statuses.set id b, life.history ++ [⟨id, .booking a, .booking b⟩]⟩ := by
  obtain ⟨hlen, -⟩ := List.getElem?_eq_some_iff.mp ha
  refine ⟨?_, ?_⟩
  · intro other status hstatus
    rw [List.getElem?_set] at hstatus
    rw [lifeRows_append]
    split at hstatus
    · rename_i hid
      subst hid
      obtain rfl : b = status := Option.some.inj hstatus
      rw [statuses_self]
      exact (h.chained id a ha).append (.single ⟨rfl, hrow⟩)
    · rename_i hid
      rw [statuses_other hid]
      simpa using h.chained other status hstatus
  · intro other hnone
    rw [List.getElem?_set] at hnone
    rw [lifeRows_append]
    split at hnone
    · cases hnone
    · rename_i hid
      rw [statuses_other hid, h.none other hnone]
      rfl

theorem LifeStep.consistent (step : LifeStep life life') (h : life.Consistent) :
    life'.Consistent := by
  cases step with
  | insert statuses history =>
    refine ⟨?_, ?_⟩
    · intro id status hstatus
      rw [List.getElem?_append] at hstatus
      split at hstatus
      · exact h.chained id status hstatus
      · rename_i hnew
        have hrows := h.none id (List.getElem?_eq_none (not_lt.mp hnew))
        rw [List.getElem?_singleton] at hstatus
        split at hstatus
        · cases hstatus
          rw [hrows]
          exact .nil _
        · cases hstatus
    · intro id hnone
      refine h.none id (List.getElem?_eq_none ?_)
      have hlen := List.getElem?_eq_none_iff.mp hnone
      rw [List.length_append, List.length_singleton] at hlen
      exact Nat.le_of_succ_le hlen
  | transit history ha hleads => exact h.row ha (.inl hleads)
  | note history ha =>
    obtain ⟨hlen, rfl⟩ := List.getElem?_eq_some_iff.mp ha
    have hsame := h.row ha (.inr rfl)
    rwa [List.set_getElem_self] at hsame
  | payment statuses history id a b =>
    refine ⟨?_, ?_⟩
    · intro other status hstatus
      rw [lifeRows_append, statuses_payment]
      simpa using h.chained other status hstatus
    · intro other hnone
      rw [lifeRows_append, statuses_payment, h.none other hnone]
      rfl

theorem LifeStep.reaches (step : LifeStep life life') {status : BookingStatus}
    (h : life.statuses[id]? = some status) :
    ∃ later, life'.statuses[id]? = some later ∧ ReflTransGen BookingStatus.Leads status later := by
  cases step with
  | insert statuses history =>
    obtain ⟨hlen, -⟩ := List.getElem?_eq_some_iff.mp h
    exact ⟨status, by rw [List.getElem?_append_left hlen]; exact h, .refl⟩
  | transit history ha hleads =>
    rename_i i a b
    by_cases hid : i = id
    · subst hid
      obtain ⟨hlen, -⟩ := List.getElem?_eq_some_iff.mp h
      obtain rfl : a = status := Option.some.inj (ha.symm.trans h)
      exact ⟨b, by simp [hlen], .single hleads⟩
    · exact ⟨status, by rw [List.getElem?_set_ne hid]; exact h, .refl⟩
  | note history ha => exact ⟨status, h, .refl⟩
  | payment statuses history id a b => exact ⟨status, h, .refl⟩

/-- Several steps. -/
abbrev Lives := ReflTransGen LifeStep

theorem Lives.consistent (steps : Lives life life') (h : life.Consistent) :
    life'.Consistent := by
  induction steps with
  | refl => exact h
  | tail _ step ih => exact step.consistent ih

theorem Lives.reaches (steps : Lives life life') {status : BookingStatus}
    (h : life.statuses[id]? = some status) :
    ∃ later, life'.statuses[id]? = some later ∧ ReflTransGen BookingStatus.Leads status later := by
  induction steps with
  | refl => exact ⟨status, h, .refl⟩
  | tail _ step ih =>
    obtain ⟨middle, hmiddle, hfirst⟩ := ih
    obtain ⟨later, hlater, hsecond⟩ := step.reaches hmiddle
    exact ⟨later, hlater, hfirst.trans hsecond⟩

end

theorem eq_of_reaches_of_terminal {a b : BookingStatus} (h : ReflTransGen BookingStatus.Leads a b)
    (hterminal : a.validTransitions = []) : b = a := by
  induction h with
  | refl => rfl
  | tail _ hleads ih =>
    subst ih
    rw [BookingStatus.Leads, hterminal] at hleads
    cases hleads

/-- Errors about the state machines or the rights of the actor. -/
def BookingError.isDenial : BookingError → Bool
  | .notAuthorised _ | .invalidTransition _ _ | .invalidPayment _ => true
  | .refused _ | .onlyAvailable _ _ | .dateNotAvailable _ => false

namespace Inventory

variable {s t : Inventory}

variable {booking : StayBooking} {outcome : Except BookingError Inventory} {e : BookingError}
  {new : BookingStatus}

/-! ## What the transactions do -/

def life (s : Inventory) : Life := ⟨s.bookings.map StayBooking.status, s.history⟩

theorem life_eq (hbookings : t.bookings = s.bookings) (hhistory : t.history = s.history) :
    t.life = s.life := by
  simp [life, hbookings, hhistory]

theorem Lives.of_same (hbookings : t.bookings = s.bookings) (hhistory : t.history = s.history) :
    Lives s.life t.life := by
  rw [life_eq hbookings hhistory]

variable {id : ℕ}

theorem Lives.of_set {old new : StayBooking} (hrow : s.bookings[id]? = some old)
    (hstatus : new.status = old.status) (hbookings : t.bookings = s.bookings.set id new)
    (hhistory : t.history = s.history) : Lives s.life t.life := by
  obtain ⟨hlen, rfl⟩ := List.getElem?_eq_some_iff.mp hrow
  have hsame : t.life = s.life := by
    simp only [life, hbookings, hhistory, List.map_set, hstatus, Life.mk.injEq, and_true]
    rw [← List.getElem_map (f := StayBooking.status) (h := by simpa using hlen),
      List.set_getElem_self]
  rw [hsame]

theorem transition_lives (h : s.transition id new = .ok t) : Lives s.life t.life := by
  obtain ⟨booking, hrow, hvalid, rfl⟩ := transition_ok h
  have hstatus : s.life.statuses[id]? = some booking.status := by simp [life, hrow]
  have hstep := LifeStep.transit s.life.history hstatus hvalid
  refine .single ?_
  simpa only [life, List.map_set] using hstep

theorem startBooking_lives (h : s.startBooking id = .ok t) : Lives s.life t.life := by
  unfold startBooking at h
  split at h
  · cases h
  · obtain ⟨held, hheld, h⟩ := bind_eq_ok.mp h
    exact (transition_lives hheld).trans (transition_lives h)

theorem insert_lives {draft : StayBooking} (hstatus : draft.status = .draft)
    (hbookings : t.bookings = s.bookings ++ [draft]) (hhistory : t.history = s.history) :
    Lives s.life t.life := by
  refine .single ?_
  simp only [life, hbookings, hhistory, List.map_append, List.map_singleton, hstatus]
  exact .insert _ _

theorem createBooking_lives {env : BookingEnv} {request : BookingRequest}
    (h : createBooking env s request = .ok (id, t)) : Lives s.life t.life := by
  unfold createBooking at h
  obtain ⟨draft, hdraft, h⟩ := bind_eq_ok.mp h
  obtain ⟨hstatus, -⟩ := draft?_status hdraft
  obtain ⟨-, h⟩ := check_bind_eq_ok.mp h
  split at h
  · cases h
    exact .refl
  · obtain ⟨-, h⟩ := check_bind_eq_ok.mp h
    obtain ⟨-, h⟩ := check_bind_eq_ok.mp h
    split at h
    · obtain ⟨started, hstarted, h⟩ := bind_eq_ok.mp h
      cases h
      refine ReflTransGen.trans ?_ (startBooking_lives hstarted)
      exact insert_lives hstatus rfl rfl
    · dsimp only at h
      split at h
      · rename_i blocked hblocked
        cases h
        obtain ⟨-, rfl⟩ | ⟨roomTypeId, -, -, rfl⟩ := blockForBooking_ok hblocked
        · exact insert_lives hstatus rfl rfl
        · exact insert_lives hstatus rfl rfl
      · obtain ⟨started, hstarted, h⟩ := bind_eq_ok.mp h
        cases h
        refine ReflTransGen.trans ?_ (startBooking_lives hstarted)
        exact insert_lives hstatus rfl rfl

@[simp] theorem dropOwnBlocks_history (id : ℕ) (booking : StayBooking) :
    (s.dropOwnBlocks id booking).history = s.history := by
  unfold dropOwnBlocks
  split <;> rfl

theorem markPaid_lives (hrow : s.bookings[id]? = some booking)
    (h : s.markPaid id booking = .ok t) : Lives s.life t.life := by
  unfold markPaid at h
  simp only [check_bind_eq_ok, require_eq_ok, pure_eq_ok] at h
  obtain ⟨-, rfl⟩ := h
  have hset : Lives s.life (life { s with
      bookings := s.bookings.set id { booking with payment := some .paid } }) := by
    refine Lives.of_set hrow ?_ rfl rfl
    rfl
  exact hset.tail (.payment _ _ id _ _)

/-- The dates and the blocks of a booking are released. -/
theorem released_lives (id : ℕ) (booking : StayBooking) :
    Lives s.life ((s.bookDates id).dropOwnBlocks id booking).life :=
  Lives.of_same (by simp [bookDates]) (by simp [bookDates])

theorem confirmBooking_lives {env : ConfirmEnv} (h : confirmBooking env s id = .ok t) :
    Lives s.life t.life := by
  obtain ⟨booking, paid, hrow, hpaid, h⟩ := confirmBooking_ok h
  have hrow' : ((s.bookDates id).dropOwnBlocks id booking).bookings[id]? = some booking := by
    simpa [bookDates] using hrow
  exact ((released_lives id booking).trans (markPaid_lives hrow' hpaid)).trans
    (transition_lives h)

theorem approveBooking_lives (h : s.approveBooking id = .ok t) : Lives s.life t.life := by
  obtain ⟨booking, -, h⟩ := approveBooking_ok h
  exact (released_lives id booking).trans (transition_lives h)

theorem releaseAndCancel_lives
    (h : s.releaseAndCancel id booking = .ok t) : Lives s.life t.life := by
  obtain ⟨-, h⟩ | rfl := releaseAndCancel_ok h
  · have hdropped : Lives s.life (s.dropDates id).life := Lives.of_same rfl rfl
    exact hdropped.trans (transition_lives h)
  · exact Lives.of_same (by simp [suspend, dropDates]) (by simp [suspend, dropDates])

theorem rejectBooking_lives (h : s.rejectBooking id = .ok t) : Lives s.life t.life := by
  obtain ⟨booking, -, -, h⟩ := rejectBooking_ok h
  exact releaseAndCancel_lives h

theorem cancelBooking_lives {id actor : ℕ} {quoteRefusal : Option String}
    (h : s.cancelBooking id actor quoteRefusal = .ok t) : Lives s.life t.life := by
  obtain ⟨booking, -, -, h⟩ := cancelBooking_ok h
  exact releaseAndCancel_lives h

theorem modifyBookingDates_lives {change : DateChange}
    (h : s.modifyBookingDates id change = .ok t) : Lives s.life t.life := by
  obtain ⟨booking, checkIn, checkOut, valid, -, rfl | rfl⟩ := modifyBookingDates_ok h
  · exact Lives.of_same (by simp [suspend, dropDates]) (by simp [suspend, dropDates])
  · exact Lives.of_same (by simp [suspend, blockDates, dropDates])
      (by simp [suspend, blockDates, dropDates])

theorem finishModify_lives (s : Inventory) (id : ℕ) (checkIn checkOut : Day)
    (valid : checkIn < checkOut) :
      Lives s.life (s.finishModify id checkIn checkOut valid).life := by
  unfold finishModify
  split
  · exact .refl
  · rename_i booking hrow
    split
    · exact .refl
    · refine Lives.of_set hrow ?_ rfl rfl
      rfl

theorem checkIn_lives {env : DeskEnv} (h : checkIn env s id = .ok t) : Lives s.life t.life := by
  obtain ⟨booking, hrow, -, h⟩ := checkIn_ok h
  refine ReflTransGen.trans ?_ (transition_lives h)
  refine Lives.of_set hrow ?_ rfl rfl
  rfl

theorem checkOut_lives (h : s.checkOut id = .ok t) : Lives s.life t.life := by
  obtain ⟨booking, hrow, -, h⟩ := checkOut_ok h
  refine ReflTransGen.trans ?_ (transition_lives h)
  refine Lives.of_set hrow ?_ rfl rfl
  rfl

theorem recordRefundHistory_lives (s : Inventory) (id : ℕ) :
    Lives s.life (s.recordRefundHistory id).life := by
  unfold recordRefundHistory
  split
  · exact .refl
  · rename_i booking hrow
    exact .single (.note _ (by simp [hrow]))

theorem refundStatus_lives {full : Bool} (h : s.refundStatus id full = .ok t) :
    Lives s.life t.life := by
  unfold refundStatus at h
  split at h
  · cases h
  · split at h
    · obtain ⟨refunded, hrefunded, h⟩ := bind_eq_ok.mp h
      cases h
      exact (transition_lives hrefunded).trans (recordRefundHistory_lives refunded id)
    · cases h
      exact recordRefundHistory_lives s id

theorem expireHolds_life (s : Inventory) (marked rest : List ℕ) :
    (s.expireHolds marked rest).life = s.life := by
  induction rest generalizing s marked with
  | nil => rfl
  | cons id rest ih =>
    simp only [expireHolds]
    split
    · exact ih s marked
    · split
      · rw [ih]
        rfl
      · rfl

theorem createHold_life {request : HoldRequest} {now : Instant}
    (h : s.createHold request now = .ok t) : t.life = s.life := by
  unfold createHold at h
  split at h
  · cases h
  · split at h
    · simp only [check_bind_eq_ok] at h
      obtain ⟨-, h⟩ := h
      cases h
      rfl
    · simp only [check_bind_eq_ok] at h
      obtain ⟨-, h⟩ := h
      cases h
      rfl

theorem resume_lives {rest : Continuation} (h : s.resume rest = .ok t) : Lives s.life t.life := by
  cases rest with
  | create id => exact startBooking_lives h
  | hold hold =>
    cases h
    exact .refl
  | modify id checkIn checkOut valid =>
    cases h
    exact finishModify_lives s id checkIn checkOut valid
  | cancel id => exact transition_lives h
  | expire marked rest =>
    cases h
    rw [expireHolds_life]

theorem orElse_lives
    (h : ∀ t, outcome = .ok t → Lives s.life t.life) : Lives s.life (s.orElse outcome).life := by
  cases outcome with
  | error e => exact .refl
  | ok t => exact h t rfl

theorem after_lives (s : Inventory) (move : Move) : Lives s.life (s.after move).life := by
  cases move with
  | createHold request now =>
    exact orElse_lives (fun t h => by rw [createHold_life h])
  | convertHold hold booking =>
    simp only [after, convertHold]
    split
    · exact .refl
    · split
      · exact .refl
      · exact .refl
  | createBooking env request =>
    refine orElse_lives ?_
    intro t h
    obtain ⟨⟨id, t'⟩, hcreate, rfl⟩ : ∃ result, createBooking env s request = .ok result ∧
        result.2 = t := by
      cases hcreate : createBooking env s request with
      | error e =>
        rw [hcreate] at h
        cases h
      | ok result =>
        rw [hcreate] at h
        cases h
        exact ⟨result, rfl, rfl⟩
    exact createBooking_lives hcreate
  | confirmBooking env id => exact orElse_lives (fun _ => confirmBooking_lives)
  | approveBooking id => exact orElse_lives (fun _ => approveBooking_lives)
  | rejectBooking id => exact orElse_lives (fun _ => rejectBooking_lives)
  | cancelBooking id actor quoteRefusal => exact orElse_lives (fun _ => cancelBooking_lives)
  | modifyBookingDates id change => exact orElse_lives (fun _ => modifyBookingDates_lives)
  | checkIn env id => exact orElse_lives (fun _ => checkIn_lives)
  | checkOut id => exact orElse_lives (fun _ => checkOut_lives)
  | refund id full => exact orElse_lives (fun _ => refundStatus_lives)
  | expireRoomHolds now =>
    simp only [after, expireRoomHolds, expireHolds_life]
    exact .refl
  | releaseExpiredHolds now holdMinutes batchSize afterBlockedId afterRoomHoldId => exact .refl
  | finish place =>
    simp only [after]
    split
    · exact .refl
    · rename_i rest hrest
      exact orElse_lives (s := s.forget place) (fun _ => resume_lives)
  | abandon place => exact .refl

/-! ## Whole operations -/

/-- The calls of the booking service. An adjustment of the dates at the desk is a change
of dates before it, with the rest of its arguments. -/
inductive Operation
  | createBooking (env : BookingEnv) (request : BookingRequest)
  | confirmBooking (env : ConfirmEnv) (id : ℕ)
  | approveBooking (id : ℕ)
  | rejectBooking (id : ℕ)
  | cancelBooking (id actor : ℕ) (quoteRefusal : Option String)
  | modifyBookingDates (id : ℕ) (change : DateChange)
  | checkIn (env : DeskEnv) (id : ℕ) (adjust : Option DateChange)
  | checkOut (today : Day) (id : ℕ) (adjust : Option DateChange)

/-- Run an operation to its end: after its first transaction comes the one it left to
do. -/
def complete (s : Inventory) (outcome : Except BookingError Inventory) :
    Inventory × Option BookingError :=
  match outcome with
  | .error e => (s, some e)
  | .ok t =>
    match t.underWay[s.underWay.length]? with
    | none => (t, none)
    | some rest =>
      match (t.forget s.underWay.length).resume rest with
      | .ok u => (u, none)
      | .error e => (t.forget s.underWay.length, some e)

/-- Change the dates if asked to, then go on. -/
def adjustThen (s : Inventory) (id : ℕ) (change : Option DateChange) (message : String)
    (act : Inventory → Except BookingError Inventory) : Inventory × Option BookingError :=
  match change with
  | none => s.complete (act s)
  | some change =>
    match s.complete (s.modifyBookingDates id change) with
    | (t, some _) => (t, some (.refused message))
    | (t, none) => t.complete (act t)

/-- What a call leaves, and the error it ends with. -/
def perform (s : Inventory) : Operation → Inventory × Option BookingError
  | .createBooking env request => s.complete ((createBooking env s request).map Prod.snd)
  | .confirmBooking env id => s.complete (confirmBooking env s id)
  | .approveBooking id => s.complete (s.approveBooking id)
  | .rejectBooking id => s.complete (s.rejectBooking id)
  | .cancelBooking id actor quoteRefusal => s.complete (s.cancelBooking id actor quoteRefusal)
  | .modifyBookingDates id change => s.complete (s.modifyBookingDates id change)
  | .checkIn env id adjust =>
    match s.bookings[id]? with
    | none => (s, some (.refused "Booking not found"))
    | some booking =>
      if booking.isCheckedIn then (s, some (.refused "Booking is already checked in"))
      else
        s.adjustThen id
          ((adjust.filter (fun _ => env.today < booking.checkIn)).map (fun change =>
            { change with
              hostUserId := booking.hostUserId
              newCheckIn := some env.today
              newCheckOut := some booking.checkOut }))
          "Could not adjust check-in to today" (fun t => checkIn env t id)
  | .checkOut today id adjust =>
    match s.bookings[id]? with
    | none => (s, some (.refused "Booking not found"))
    | some booking =>
      if booking.status ≠ .checkedIn then
        (s, some (.refused "Only checked-in bookings can be checked out"))
      else if booking.isCheckedOut then
        (s, some (.refused "Booking is already checked out"))
      else
        s.adjustThen id
          ((adjust.filter (fun _ => today < booking.checkOut)).map (fun change =>
            { change with
              hostUserId := booking.hostUserId
              newCheckIn := some booking.checkIn
              newCheckOut := some today }))
          "Could not adjust check-out to today" (fun t => t.checkOut id)

/-- What an operation leaves to do succeeds. -/
def Finishes (s : Inventory) (outcome : Except BookingError Inventory) : Prop :=
  ∀ t rest, outcome = .ok t → t.underWay[s.underWay.length]? = some rest →
    ∃ u, (t.forget s.underWay.length).resume rest = .ok u

/-- An error then comes from the first transaction, which is rolled back. -/
theorem Finishes.complete_error
    (finishes : Finishes s outcome) (h : s.complete outcome = (t, some e)) :
    t = s ∧ outcome = .error e := by
  unfold complete at h
  split at h
  · cases h
    exact ⟨rfl, rfl⟩
  · rename_i u
    split at h
    · cases h
    · rename_i rest hrest
      obtain ⟨v, hv⟩ := finishes u rest rfl hrest
      rw [hv] at h
      cases h

theorem Finishes.of_same
    (h : ∀ t, outcome = .ok t → t.underWay = s.underWay) : Finishes s outcome := by
  intro t rest ht hrest
  rw [h t ht, List.getElem?_eq_none (Nat.le_refl _)] at hrest
  cases hrest

theorem Finishes.of_suspend (h : ∀ t, outcome = .ok t → ∃ own u, t.underWay = s.underWay ++ [own] ∧
      (t.forget s.underWay.length).resume own = .ok u) : Finishes s outcome := by
  intro t rest ht hrest
  obtain ⟨own, u, hunderWay, hresume⟩ := h t ht
  rw [hunderWay, List.getElem?_append_right (Nat.le_refl _)] at hrest
  simp only [Nat.sub_self, List.getElem?_cons_zero, Option.some.injEq] at hrest
  exact ⟨u, hrest ▸ hresume⟩

theorem transition_underWay (h : s.transition id new = .ok t) : t.underWay = s.underWay := by
  obtain ⟨booking, -, -, rfl⟩ := transition_ok h
  rfl

theorem transition_of_valid
    (hrow : s.bookings[id]? = some booking) (hvalid : new ∈ booking.status.validTransitions) :
    s.transition id new = .ok { s with
      bookings := s.bookings.set id { booking with status := new }
      history := s.history ++ [⟨id, .booking booking.status, .booking new⟩] } := by
  simp [transition, hrow, require, hvalid, bind, Except.bind, pure, Except.pure]

/-- The machine accepts a valid status for a row that was just rewritten. -/
theorem transition_set (stored : StayBooking) (hrow : s.bookings[id]? = some booking)
    (hvalid : new ∈ stored.status.validTransitions) :
    ∃ t, Inventory.transition { s with bookings := s.bookings.set id stored } id new = .ok t := by
  have hlen := (List.getElem?_eq_some_iff.mp hrow).1
  exact ⟨_, transition_of_valid (by simp [hlen]) hvalid⟩

theorem firstStatus_mem (flow : BookingFlow) :
    flow.firstStatus ∈ BookingStatus.held.validTransitions := by
  cases flow <;> decide

theorem startBooking_of_draft
    (hrow : s.bookings[id]? = some booking) (hdraft : booking.status = .draft) :
    ∃ t, s.startBooking id = .ok t := by
  obtain ⟨hlen, -⟩ := List.getElem?_eq_some_iff.mp hrow
  have hvalid : .held ∈ booking.status.validTransitions := by
    rw [hdraft]
    decide
  have hheld := transition_of_valid hrow hvalid
  have hrow' : (s.bookings.set id { booking with status := .held })[id]? =
      some { booking with status := .held } := by
    simp [hlen]
  simp only [startBooking, hrow, hheld, bind, Except.bind]
  exact ⟨_, transition_of_valid hrow' (firstStatus_mem booking.flow)⟩

theorem createBooking_finishes (env : BookingEnv) (request : BookingRequest) :
    Finishes s ((createBooking env s request).map Prod.snd) := by
  intro t rest ht hrest
  cases hcreate : createBooking env s request with
  | error e =>
    rw [hcreate] at ht
    cases ht
  | ok result =>
    obtain ⟨id, created⟩ := result
    rw [hcreate] at ht
    cases ht
    unfold createBooking at hcreate
    obtain ⟨draft, hdraft, h⟩ := bind_eq_ok.mp hcreate
    obtain ⟨hstatus, -⟩ := draft?_status hdraft
    obtain ⟨-, h⟩ := check_bind_eq_ok.mp h
    have hnothing : ∀ {u : Inventory}, u.underWay = s.underWay →
        u.underWay[s.underWay.length]? ≠ some rest := by
      intro u hu hrest
      rw [hu, List.getElem?_eq_none (Nat.le_refl _)] at hrest
      cases hrest
    have hstart : ∀ {inserted u : Inventory},
        inserted.startBooking s.bookings.length = .ok u → inserted.underWay = s.underWay →
        u.underWay = s.underWay := by
      intro inserted u hu hinserted
      unfold startBooking at hu
      split at hu
      · cases hu
      · obtain ⟨held, hheld, hu⟩ := bind_eq_ok.mp hu
        rw [transition_underWay hu, transition_underWay hheld, hinserted]
    -- The draft has been inserted and its start is left to do.
    have hleft : ∀ {u : Inventory}, u.bookings = s.bookings ++ [draft] →
        u.underWay = s.underWay ++ [.create s.bookings.length] →
        u.underWay[s.underWay.length]? = some rest →
        ∃ v, (u.forget s.underWay.length).resume rest = .ok v := by
      intro u hbookings hunderWay hrest
      rw [hunderWay, List.getElem?_append_right (Nat.le_refl _)] at hrest
      simp only [Nat.sub_self, List.getElem?_cons_zero, Option.some.injEq] at hrest
      subst hrest
      have hrow : (u.forget s.underWay.length).bookings[s.bookings.length]? = some draft := by
        simp [forget, hbookings]
      exact startBooking_of_draft hrow hstatus
    split at h
    · cases h
      exact absurd hrest (hnothing rfl)
    · obtain ⟨-, h⟩ := check_bind_eq_ok.mp h
      obtain ⟨-, h⟩ := check_bind_eq_ok.mp h
      split at h
      · obtain ⟨started, hstarted, h⟩ := bind_eq_ok.mp h
        cases h
        exact absurd hrest (hnothing (hstart hstarted rfl))
      · dsimp only at h
        split at h
        · rename_i blocked hblocked
          cases h
          obtain ⟨-, rfl⟩ | ⟨roomTypeId, -, -, rfl⟩ := blockForBooking_ok hblocked
          · exact hleft rfl rfl hrest
          · exact hleft rfl rfl hrest
        · obtain ⟨started, hstarted, h⟩ := bind_eq_ok.mp h
          cases h
          exact absurd hrest (hnothing (hstart hstarted rfl))

theorem markPaid_underWay (h : s.markPaid id booking = .ok t) : t.underWay = s.underWay := by
  obtain ⟨history, rfl⟩ := markPaid_ok h
  rfl

theorem confirmBooking_finishes (env : ConfirmEnv) (id : ℕ) :
    Finishes s (confirmBooking env s id) := by
  refine .of_same ?_
  intro t h
  obtain ⟨booking, paid, -, hpaid, h⟩ := confirmBooking_ok h
  rw [transition_underWay h, markPaid_underWay hpaid, dropOwnBlocks_underWay]
  rfl

theorem approveBooking_finishes (id : ℕ) : Finishes s (s.approveBooking id) := by
  refine .of_same ?_
  intro t h
  obtain ⟨booking, -, h⟩ := approveBooking_ok h
  rw [transition_underWay h, dropOwnBlocks_underWay]
  rfl

/-- The release of a booking that may be cancelled is followed by its transition. -/
theorem releaseAndCancel_finishes
    (hrow : s.bookings[id]? = some booking)
      (hvalid : .cancelled ∈ booking.status.validTransitions) :
    Finishes s (s.releaseAndCancel id booking) := by
  intro t rest h hrest
  obtain ⟨-, h⟩ | rfl := releaseAndCancel_ok h
  · have hsame : t.underWay = (s.dropDates id).underWay := transition_underWay h
    rw [hsame, show (s.dropDates id).underWay = s.underWay from rfl,
      List.getElem?_eq_none (Nat.le_refl _)] at hrest
    cases hrest
  · simp only [suspend, dropOwnBlocks_underWay, dropDates] at hrest
    rw [List.getElem?_append_right (Nat.le_refl _)] at hrest
    simp only [Nat.sub_self, List.getElem?_cons_zero, Option.some.injEq] at hrest
    subst hrest
    have hrow' : ((((s.dropDates id).dropOwnBlocks id booking).suspend (.cancel id)).forget
        s.underWay.length).bookings[id]? = some booking := by
      simpa [forget, suspend, dropDates] using hrow
    exact ⟨_, transition_of_valid hrow' hvalid⟩

theorem rejectBooking_finishes (id : ℕ) : Finishes s (s.rejectBooking id) := by
  intro t rest h hrest
  obtain ⟨booking, hrow, hstatus, h⟩ := rejectBooking_ok h
  exact releaseAndCancel_finishes hrow (by rw [hstatus]; decide) t rest h hrest

theorem cancelBooking_finishes (id actor : ℕ) (quoteRefusal : Option String) :
    Finishes s (s.cancelBooking id actor quoteRefusal) := by
  intro t rest h hrest
  obtain ⟨booking, hrow, hcancellable, h⟩ := cancelBooking_ok h
  exact releaseAndCancel_finishes hrow
    (BookingStatus.cancelled_mem_of_isCancellable hcancellable) t rest h hrest

theorem modifyBookingDates_finishes (id : ℕ) (change : DateChange) :
    Finishes s (s.modifyBookingDates id change) := by
  refine .of_suspend ?_
  intro t h
  obtain ⟨booking, checkIn, checkOut, valid, -, h⟩ := modifyBookingDates_ok h
  have hreleased : ((s.dropDates id).dropOwnBlocks id booking).underWay = s.underWay :=
    dropOwnBlocks_underWay id booking
  obtain rfl | rfl := h
  · exact ⟨_, _, congrArg (· ++ [_]) hreleased, rfl⟩
  · exact ⟨_, _, congrArg (· ++ [_]) hreleased, rfl⟩

theorem checkIn_finishes (env : DeskEnv) (id : ℕ) : Finishes s (checkIn env s id) := by
  refine .of_same ?_
  intro t h
  obtain ⟨booking, -, -, h⟩ := checkIn_ok h
  rw [transition_underWay h]

theorem checkOut_finishes (id : ℕ) : Finishes s (s.checkOut id) := by
  refine .of_same ?_
  intro t h
  obtain ⟨booking, -, -, h⟩ := checkOut_ok h
  rw [transition_underWay h]

/-- A check-in that is refused is not refused by the state machine. -/
theorem checkIn_not_denied {env : DeskEnv}
    (h : checkIn env s id = .error e) : e.isDenial = false := by
  unfold checkIn at h
  split at h
  · cases h
    rfl
  · rename_i booking hrow
    simp only [bind_eq_error, require_eq_error, require_eq_ok] at h
    obtain ⟨-, rfl⟩ | ⟨-, -, ⟨-, rfl⟩ | ⟨-, ⟨hconfirmed, -⟩, h⟩⟩ := h
    · rfl
    · rfl
    · split at h
      · cases h
        rfl
      · simp only [bind_eq_error, require_eq_error, require_eq_ok] at h
        obtain ⟨-, rfl⟩ | ⟨-, -, h⟩ := h
        · rfl
        · have hvalid : .checkedIn ∈ booking.status.validTransitions := by
            rw [hconfirmed]
            decide
          obtain ⟨u, hu⟩ := transition_set { booking with isCheckedIn := true } hrow hvalid
          rw [hu] at h
          cases h

theorem checkOut_not_denied (h : s.checkOut id = .error e) : e.isDenial = false := by
  unfold checkOut at h
  split at h
  · cases h
    rfl
  · rename_i booking hrow
    simp only [bind_eq_error, require_eq_error, require_eq_ok] at h
    obtain ⟨-, rfl⟩ | ⟨-, hstatus, ⟨-, rfl⟩ | ⟨-, -, h⟩⟩ := h
    · rfl
    · rfl
    · have hvalid : .checkedOut ∈ booking.status.validTransitions := by
        rw [hstatus]
        decide
      obtain ⟨u, hu⟩ := transition_set { booking with isCheckedOut := true } hrow hvalid
      rw [hu] at h
      cases h

theorem adjustThen_denied {change : Option DateChange} {message : String}
    {act : Inventory → Except BookingError Inventory}
    (finishes : ∀ u, Finishes u (act u)) (hact : ∀ u e, act u = .error e → e.isDenial = false)
    (h : s.adjustThen id change message act = (t, some e)) (hdenial : e.isDenial) : t = s := by
  unfold adjustThen at h
  split at h
  · exact ((finishes s).complete_error h).1
  · split at h
    · cases h
      cases hdenial
    · rename_i u hadjusted
      have herror := ((finishes u).complete_error h).2
      rw [hact u e herror] at hdenial
      cases hdenial

/-- A call that ends with an error about the status or the actor leaves everything as it
was. -/
theorem perform_denied {operation : Operation}
    (h : s.perform operation = (t, some e)) (hdenial : e.isDenial) : t = s := by
  cases operation with
  | createBooking env request => exact ((createBooking_finishes env request).complete_error h).1
  | confirmBooking env id => exact ((confirmBooking_finishes env id).complete_error h).1
  | approveBooking id => exact ((approveBooking_finishes id).complete_error h).1
  | rejectBooking id => exact ((rejectBooking_finishes id).complete_error h).1
  | cancelBooking id actor quoteRefusal =>
    exact ((cancelBooking_finishes id actor quoteRefusal).complete_error h).1
  | modifyBookingDates id change =>
    exact ((modifyBookingDates_finishes id change).complete_error h).1
  | checkIn env id adjust =>
    simp only [perform] at h
    split at h
    · cases h
      rfl
    · split at h
      · cases h
        rfl
      · exact adjustThen_denied (fun _ => checkIn_finishes env id)
          (fun _ _ => checkIn_not_denied) h hdenial
  | checkOut today id adjust =>
    simp only [perform] at h
    split at h
    · cases h
      rfl
    · split at h
      · cases h
        rfl
      · split at h
        · cases h
          rfl
        · exact adjustThen_denied (fun _ => checkOut_finishes id)
            (fun _ _ => checkOut_not_denied) h hdenial

end Inventory

/-! ## Refusals of the marketplace -/

namespace Desk

/-- The answer to an exception of an automatic refund, which is recorded. -/
def executionFailed : String := "Refund execution failed; the payment remains unrefunded"

/-- The answer to an approval when the evidence of the policy is found wanting, which is
recorded. -/
def integrityFailed : String :=
  "The booking policy evidence failed its integrity check. " ++
    "Review the warning and explicitly acknowledge the exception before approval."

/-- The message a decision is refused with. -/
def decisionRefusal (s : Desk) (id : ℕ) (authority : Authority) (booking : AccommodationBooking)
    (raises : String) : RefundDecision → Option String
  | .answer ok message _ => if ok then none else some message
  | .execute order =>
    match escrowRefundRequest authority s.db booking (s.commissions id) order with
    | .error (.refused message) => some message
    | .error _ => some raises
    | .ok _ => none

/-- The message of a result that was not committed. -/
def refusalOf {α : Type} : Except String α → Option String
  | .error message => some message
  | .ok _ => none

/-- The message a call on a booking ends with, if it refuses. -/
def refusal (s : Desk) (booking : AccommodationBooking) : DeskMove → Option String
  | .cancelBooking _ args => refusalOf (Accommodation.cancelBooking booking args)
  | .modifyBookingDates _ change => refusalOf (Accommodation.modifyBookingDates booking change)
  | .submitRefundReview _ authority request =>
    refusalOf (Accommodation.submitRefundReview authority booking request)
  | .refundGuest id authority (.ok amount) =>
    s.decisionRefusal id authority booking executionFailed
      (refundGuestOpening authority s.db booking (s.commissions id) amount)
  | .refundGuest _ _ (.error _) => some executionFailed
  | .refundGuestApproved id authority args =>
    s.decisionRefusal id authority booking "Could not execute approved refund: "
      (refundGuestApprovedOpening authority s.db booking (s.commissions id) args)
  | .rejectRefundReview _ authority reviewer reason =>
    refusalOf (Accommodation.rejectRefundReview authority booking reviewer reason)
  | .recordExternalRefundExecution _ authority args _ =>
    refusalOf (externalExecutionChecks authority s.rows booking args)
  | _ => none

variable {s : Desk} {move : DeskMove} {id : ℕ} {b : AccommodationBooking} {message : String}

theorem store_self (hb : s.bookings id = some b) : s.store id b = s := by
  simp [store, ← hb]

theorem setFlight_self (hidle : s.flights id = none) : s.setFlight id none = s := by
  simp [setFlight, ← hidle]

theorem commit_refused {result : Except String AccommodationBooking}
    (h : refusalOf result = some message) : s.commit id result = s := by
  cases result with
  | error e => rfl
  | ok b => cases h

/-- A decision that is refused without a write leaves the desk as it is. -/
theorem follow_refused {authority : Authority} {decision : RefundDecision} {raises : String}
    (hb : s.bookings id = some b) (hidle : s.flights id = none)
    (h : s.decisionRefusal id authority b raises decision = some message)
    (hanswer : ∀ b', decision = .answer false message b' → b' = b)
    (hraises : ∀ order, decision = .execute order → order.source = .bookingTimePolicy →
      message ≠ raises) : s.follow id authority b decision = s := by
  cases decision with
  | answer ok text b' =>
    cases ok with
    | true => cases h
    | false =>
      obtain rfl : text = message := Option.some.inj h
      obtain rfl := hanswer b' rfl
      exact store_self hb
  | execute order =>
    have raised : ∀ raised : Option String, raised = some raises → raised = some message →
        s.raised id b order.source = s := by
      rintro _ rfl hmessage
      cases hsource : order.source with
      | bookingTimePolicy =>
        exact absurd (Option.some.inj hmessage).symm (hraises order rfl hsource)
      | platformHumanReview => exact setFlight_self hidle
    cases hrequest : escrowRefundRequest authority s.db b (s.commissions id) order with
    | ok request => simp [decisionRefusal, hrequest] at h
    | error e =>
      simp only [decisionRefusal, hrequest] at h
      simp only [follow, hrequest]
      cases e with
      | refused text => rfl
      | runtime text => exact raised _ rfl h
      | wallet error => exact raised _ rfl h

/-- The refusals of an automatic refund write nothing. -/
theorem refundGuestOpening_refused {authority : Authority} {db : Db}
    {commission : Option BookingCommission} {amount : ℚ} {b' : AccommodationBooking}
    (h : refundGuestOpening authority db b commission amount = .answer false message b') :
    b' = b := by
  simp only [refundGuestOpening] at h
  repeat' split at h
  all_goals
    cases h
    try rfl

/-- The refusals of an approval write nothing, but for one. -/
theorem refundGuestApprovedOpening_refused {authority : Authority} {db : Db}
    {commission : Option BookingCommission} {args : ApprovalArgs} {b' : AccommodationBooking}
    (hmessage : message ≠ integrityFailed)
    (h : refundGuestApprovedOpening authority db b commission args = .answer false message b') :
    b' = b := by
  simp only [refundGuestApprovedOpening] at h
  split at h
  · cases h
    rfl
  · split at h
    · cases h
      exact absurd rfl hmessage
    · repeat' split at h
      all_goals
        cases h
        try rfl

/-- A call that is refused, because of the actor for one, leaves the rows as they were;
the two answers that follow a write are not about the actor. -/
theorem next_refused (hb : s.bookings id = some b) (htarget : target move = some id)
    (h : s.refusal b move = some message) (hintegrity : message ≠ integrityFailed)
    (hexecution : message ≠ executionFailed) :
    (s.next move).bookings = s.bookings ∧ (s.next move).rows = s.rows ∧
      (s.next move).settled = s.settled := by
  cases move with
  | cancelBooking | modifyBookingDates | submitRefundReview | rejectRefundReview =>
    cases htarget
    simp only [next, withBooking, hb, commit_refused h, and_self]
  | refundGuest i authority amount =>
    cases htarget
    simp only [next, locked, withBooking, hb]
    split
    · exact ⟨rfl, rfl, rfl⟩
    · rename_i hfree
      cases amount with
      | ok amount =>
        have hsame := follow_refused hb (by simpa using hfree) h
          (fun _ => refundGuestOpening_refused) (fun _ _ _ => hexecution)
        simp only [refundGuest, hsame, and_self]
      | error e => exact absurd (Option.some.inj h).symm hexecution
  | refundGuestApproved i authority args =>
    cases htarget
    simp only [next, locked, withBooking, hb]
    split
    · exact ⟨rfl, rfl, rfl⟩
    · rename_i hfree
      have hsame := follow_refused hb (by simpa using hfree) h
        (fun _ => refundGuestApprovedOpening_refused hintegrity) (by
          intro order hexecute hsource
          obtain ⟨-, -, -, hhuman, -⟩ := refundGuestApprovedOpening_execute hexecute
          cases hhuman.symm.trans hsource)
      simp only [refundGuestApproved, hsame]
      split
      · exact ⟨rfl, rfl, rfl⟩
      · exact ⟨rfl, rfl, rfl⟩
  | recordExternalRefundExecution i authority args now =>
    cases htarget
    simp only [next, withBooking, hb, recordExternal]
    cases hchecks : externalExecutionChecks authority s.rows b args with
    | error e => exact ⟨rfl, rfl, rfl⟩
    | ok result =>
      simp only [refusal, hchecks] at h
      cases h
  | transfer | record | cancel | edit | crash | wallet | commission => cases h

end Desk

/-! ## Runs -/

namespace Inventory

theorem run_lives {s t : Inventory} {moves : List Move} (run : Run Step s moves t) :
    Lives s.life t.life := by
  refine run.relation (fun s t => Lives s.life t.life) (fun _ => .refl)
    (fun _ _ _ => ReflTransGen.trans) ?_
  rintro s move _ rfl
  exact after_lives s move

/-- In every run of the transactions: the rows of a booking's statuses, those of its
payments set aside, lead from `draft` to its status, its later statuses follow by valid
transitions, and a terminal one stays. From every state of such a run, a whole call of the
booking service or of the marketplace that is refused because of a status or of the actor
changes nothing. -/
theorem booking_life {start s t : Inventory} {moves later : List Move}
    (hbookings : start.bookings = []) (hhistory : start.history = [])
    (run : Run Step start moves s) (onward : Run Step s later t) :
    (∀ id booking, s.bookings[id]? = some booking →
      Run RowStep .draft (lifeRows s.history id) booking.status ∧
      ∃ booking', t.bookings[id]? = some booking' ∧
        ReflTransGen BookingStatus.Leads booking.status booking'.status ∧
        (booking.status.validTransitions = [] → booking'.status = booking.status)) ∧
    (∀ operation u e, s.perform operation = (u, some e) → e.isDenial → u = s) ∧
    ∀ (desk : Desk) id row move message, desk.bookings id = some row →
      Desk.target move = some id → desk.refusal row move = some message →
      message ≠ Desk.integrityFailed → message ≠ Desk.executionFailed →
      (desk.next move).bookings = desk.bookings ∧ (desk.next move).rows = desk.rows ∧
        (desk.next move).settled = desk.settled := by
  have hconsistent : s.life.Consistent := by
    refine Lives.consistent (run_lives run) ⟨?_, ?_⟩
    · intro id status h
      simp [life, hbookings] at h
    · intro id _
      simp [life, hhistory, lifeRows]
  refine ⟨?_, fun _ _ _ => perform_denied, fun _ _ _ _ _ => Desk.next_refused⟩
  intro id booking hrow
  have hstatus : s.life.statuses[id]? = some booking.status := by
    simp [life, hrow]
  refine ⟨hconsistent.chained id booking.status hstatus, ?_⟩
  obtain ⟨status, hlater, hreaches⟩ := Lives.reaches (run_lives onward) hstatus
  obtain ⟨booking', hrow', rfl⟩ : ∃ booking', t.bookings[id]? = some booking' ∧
      booking'.status = status := by
    simpa [life, Option.map_eq_some_iff] using hlater
  exact ⟨booking', hrow', hreaches, eq_of_reaches_of_terminal hreaches⟩

/-- The sale of two rooms at the lake: the rows of its statuses lead to `confirmed`. -/
theorem booking_life_oneSale :
    ∃ booking, (oneSale.foldl after lakeside).bookings[0]? = some booking ∧
      booking.status = .confirmed ∧
      Run RowStep .draft (lifeRows (oneSale.foldl after lakeside).history 0) booking.status := by
  have hrow : ((oneSale.foldl after lakeside).bookings[0]?).map StayBooking.status =
      some .confirmed := by
    decide +kernel
  have hrun := run_foldl lakeside oneSale
  generalize oneSale.foldl after lakeside = s at hrow hrun ⊢
  obtain ⟨booking, hb, hstatus⟩ := Option.map_eq_some_iff.mp hrow
  have hlife := booking_life rfl rfl hrun (.nil s)
  exact ⟨booking, hb, hstatus, (hlife.1 0 booking hb).1⟩

/-- A second cancellation between the two commits of a first: the first ends with an invalid
transition, and the block it has released stays released. -/
example :
    let unpaid := (oneSale.take 2).foldl after lakeside
    let between := [.cancelBooking 0 1 none, .cancelBooking 0 9 none, .finish 1].foldl after unpaid
    unpaid.blocks.length = 1 ∧ between.blocks.length = 0 ∧
      between.underWay.length = 1 ∧ (between.bookings[0]?).map StayBooking.status = some
        .cancelled ∧
      .cancelled ∉ BookingStatus.cancelled.validTransitions := by
  decide +kernel

/-- All rows of that booking do not chain: the payment's stand between the others. -/
theorem payment_rows_break_chain :
    Run Step lakeside oneSale (oneSale.foldl after lakeside) ∧
      (oneSale.foldl after lakeside).history.map HistoryRow.fromStatus =
        [.booking .draft, .booking .held, .payment .pending, .booking .pendingPayment] ∧
      (oneSale.foldl after lakeside).history.map HistoryRow.toStatus =
        [.booking .held, .booking .pendingPayment, .payment .paid, .booking .confirmed] ∧
      ¬ ((oneSale.foldl after lakeside).history.filter (fun row => row.bookingId = 0)).IsChain
        (fun row next => next.fromStatus = row.toStatus) :=
  ⟨run_foldl lakeside oneSale, by decide +kernel, by decide +kernel, by decide +kernel⟩

end Inventory

end Afcon360.Accommodation
