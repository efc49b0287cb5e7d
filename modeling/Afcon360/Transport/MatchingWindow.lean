import Afcon360.Transport.Cancellation

/-!
# The matching window of a booking

A confirmed booking looks for a driver for the length of a window. The check closes it without a
match when the pool of drivers has declined or when the window is over. A rider may try again,
which starts the window anew; the log of the attempts stays.

Instants are in microseconds. The offers themselves are in a store that forgets them, so what
it answers a check is part of the check.
-/

namespace Afcon360.Transport.MatchingService

open Foundation

def noMatchNoSupply : String := "no_supply"

def noMatchAllRejected : String := "all_rejected"

inductive AttemptOutcome
  | offered | declined | expired
deriving DecidableEq, Repr

/-- An entry of `offer_attempts`. -/
structure Attempt where
  driverId : ℕ
  vehicleId : Option ℕ := none
  outcome : AttemptOutcome
  madeAt : ℤ
deriving DecidableEq, Repr

/-- The columns and the metadata of a booking that matching reads. -/
structure MatchingBooking where
  userId : ℕ
  status : BookingStatus
  assignedDriverId : Option ℕ := none
  assignedVehicleId : Option ℕ := none
  isDeleted : Bool := false
  noMatchReason : Option String := none
  noMatchCause : Option String := none
  pickupMode : Option String := none
  bookingMode : Option String := none
  pickupTime : Option ℤ := none
  confirmedAt : Option ℤ := none
  matchingStartedAt : Option ℤ := none
  offerAttempts : List Attempt := []
deriving DecidableEq, Repr

structure MatchingConfig where
  windowSeconds : ℤ := 180
  poolSize : ℤ := 5
  leadMinutes : ℤ := 30

def second : ℤ := 1000000

/-! ## The log of the attempts -/

/-- The drivers that some attempt offered the ride to. -/
def offeredDrivers (attempts : List Attempt) : Finset ℕ :=
  ((attempts.filter fun attempt =>
    attempt.outcome = .offered || attempt.outcome = .declined || attempt.outcome = .expired).map
      Attempt.driverId).toFinset

/-- The drivers that declined. -/
def declinedDrivers (attempts : List Attempt) : Finset ℕ :=
  ((attempts.filter fun attempt => attempt.outcome = .declined).map Attempt.driverId).toFinset

namespace MatchingBooking

/-- `record_offer_ledger`: only offers and declines are recorded, and the write may fail. -/
def recordOfferLedger (booking : MatchingBooking) (attempt : Attempt) (written : Bool) :
    MatchingBooking × Bool :=
  if attempt.outcome ≠ .offered ∧ attempt.outcome ≠ .declined then (booking, false)
  else if ¬ written ∨ booking.isDeleted then (booking, false)
  else ({ booking with offerAttempts := booking.offerAttempts ++ [attempt] }, true)

/-- `_stamp_matching_window_start` -/
def stampMatchingWindowStart (booking : MatchingBooking) (now : ℤ) : MatchingBooking :=
  { booking with matchingStartedAt := some now }

/-- `_matching_window_start` -/
def matchingWindowStart (booking : MatchingBooking) : Option ℤ :=
  booking.matchingStartedAt <|> booking.confirmedAt

/-- `_booking_mode`: the column counts before the metadata. -/
def mode (booking : MatchingBooking) : String :=
  let column := booking.pickupMode.getD ""
  (strip (if column ≠ "" then column else booking.bookingMode.getD "")).toLower

/-- `scheduled_not_due_reason` -/
def scheduledNotDueReason (config : MatchingConfig) (booking : MatchingBooking) (now : ℤ) :
    Option String :=
  if booking.mode ≠ "scheduled" then none
  else
    match booking.pickupTime with
    | none => some "scheduled_pickup_time_unset"
    | some pickupTime =>
      if now < pickupTime - config.leadMinutes * (60 * second) then some "scheduled_not_due"
      else none

end MatchingBooking

/-! ## Closing and trying again -/

inductive MatchingError
  | invalidReason (reason : String)
  | bookingNotFound
  | otherUser
  | wrongStatus (status : BookingStatus)
  | assigned
deriving DecidableEq, Repr

/-- `mark_no_match`; the answer says whether the booking was closed before. -/
def markNoMatch (booking : MatchingBooking) (reason : String) :
    Except MatchingError (MatchingBooking × Bool) :=
  if reason ∉ noMatchReasons then .error (.invalidReason reason)
  else if booking.isDeleted then .error .bookingNotFound
  else if booking.status = .noMatch then .ok (booking, true)
  else if booking.status ≠ .confirmed then .error (.wrongStatus booking.status)
  else if booking.assignedDriverId.isSome ∨ booking.assignedVehicleId.isSome then .error .assigned
  else .ok ({ booking with status := .noMatch, noMatchReason := some reason }, false)

/-- `retry_matching` without the offers it makes at its end. -/
def retryMatching (booking : MatchingBooking) (userId : ℕ) (now : ℤ) :
    Except MatchingError MatchingBooking :=
  if booking.isDeleted then .error .bookingNotFound
  else if booking.userId ≠ userId then .error .otherUser
  else if booking.status ≠ .noMatch then .error (.wrongStatus booking.status)
  else
    let reopened := { booking with
      status := .confirmed, noMatchReason := none, noMatchCause := none }
    .ok (reopened.stampMatchingWindowStart now)

/-- The answers of the check. -/
inductive CheckOutcome
  | waiting (reason : String)
  | inProgress (offered declined : ℕ)
  | terminal (replayed : Bool) (reason : Option String)
deriving DecidableEq, Repr

/-- Whatever closing raises is an answer of the check. -/
def close (booking : MatchingBooking) (reason : String) : MatchingBooking × CheckOutcome :=
  match markNoMatch booking reason with
  | .error _ => (booking, .waiting "error")
  | .ok (closed, replayed) => (closed, .terminal replayed (some reason))

/-- `check_matching_outcome`; `live` is whether the store knows an open offer. -/
def checkMatchingOutcome (config : MatchingConfig) (booking : MatchingBooking) (live : Bool)
    (now : ℤ) : MatchingBooking × CheckOutcome :=
  if booking.isDeleted then (booking, .waiting "booking_not_found")
  else if booking.status = .noMatch then (booking, .terminal true booking.noMatchReason)
  else if booking.status ≠ .confirmed ∨ booking.assignedDriverId.isSome ∨
      booking.assignedVehicleId.isSome then (booking, .waiting "not_awaiting_matching")
  else
    match booking.scheduledNotDueReason config now with
    | some reason => (booking, .waiting reason)
    | none =>
      let offered := offeredDrivers booking.offerAttempts
      let declined := declinedDrivers booking.offerAttempts
      if ¬ live ∧ config.poolSize ≤ declined.card then close booking noMatchAllRejected
      else
        match booking.matchingWindowStart with
        | none => (booking, .inProgress offered.card declined.card)
        | some started =>
          if ¬ live ∧ config.windowSeconds * second ≤ now - started then
            close booking (if offered ≠ ∅ then noMatchAllRejected else noMatchNoSupply)
          else (booking, .inProgress offered.card declined.card)

/-! ## Histories -/

/-- What happens to a booking. An offer or a decline is made whether or not its entry in the log
is written. The other services claim, release and cancel bookings; they leave the log and the
start of the window alone. -/
inductive Event
  | offer (driver vehicle : ℕ) (written : Bool) (now : ℤ)
  | decline (driver : ℕ) (written : Bool) (now : ℤ)
  | retry (userId : ℕ) (now : ℤ)
  | check (live : Bool) (now : ℤ)
  | change (status : BookingStatus) (driver vehicle : Option ℕ) (reason cause : Option String)
deriving DecidableEq, Repr

/-- A booking together with its latest retry and the attempts made since then. -/
structure Matching where
  booking : MatchingBooking
  retriedAt : Option ℤ := none
  since : List Attempt := []
deriving DecidableEq, Repr

namespace Matching

/-- An attempt is made. -/
def attempt (matching : Matching) (made : Attempt) (written : Bool) : Matching :=
  { matching with
    booking := (matching.booking.recordOfferLedger made written).1
    since := matching.since ++ [made] }

end Matching

def next (config : MatchingConfig) (matching : Matching) : Event → Matching
  | .offer driver vehicle written now =>
    matching.attempt ⟨driver, some vehicle, .offered, now⟩ written
  | .decline driver written now =>
    matching.attempt ⟨driver, none, .declined, now⟩ written
  | .retry userId now =>
    match retryMatching matching.booking userId now with
    | .error _ => matching
    | .ok booking => { booking, retriedAt := some now, since := [] }
  | .check live now =>
    { matching with booking := (checkMatchingOutcome config matching.booking live now).1 }
  | .change status driver vehicle reason cause =>
    { matching with
      booking := { matching.booking with
        status := status
        assignedDriverId := driver
        assignedVehicleId := vehicle
        noMatchReason := reason
        noMatchCause := cause } }

/-- A booking after a sequence of events. -/
def after (config : MatchingConfig) (booking : MatchingBooking) (events : List Event) : Matching :=
  events.foldl (next config) { booking }

/-- The booking waits for a match: it is confirmed, nobody has it, and its ride is not held back
for later. -/
def InMatching (config : MatchingConfig) (booking : MatchingBooking) (now : ℤ) : Prop :=
  booking.isDeleted = false ∧ booking.status = .confirmed ∧ booking.assignedDriverId = none ∧
    booking.assignedVehicleId = none ∧ booking.scheduledNotDueReason config now = none

/-- The window that began then is over. -/
def Elapsed (config : MatchingConfig) (began now : ℤ) : Prop :=
  config.windowSeconds * second ≤ now - began

/-- An offer is among the attempts. -/
def HasOffer (attempts : List Attempt) : Prop := ∃ attempt ∈ attempts, attempt.outcome = .offered

/-- The check closed the booking for this reason. -/
def ClosedAs (config : MatchingConfig) (booking : MatchingBooking) (live : Bool) (now : ℤ)
    (reason : String) : Prop :=
  (checkMatchingOutcome config booking live now).2 = .terminal false (some reason)

/-- What is asked of a check of a retried booking. -/
structure SoundCheck (config : MatchingConfig) (matching : Matching) (retried : ℤ) (live : Bool)
    (now : ℤ) : Prop where
  rejected : ClosedAs config matching.booking live now noMatchAllRejected →
    matching.since ≠ [] ∧
      (config.poolSize ≤ (declinedDrivers matching.since).card ∨ Elapsed config retried now)
  supply : InMatching config matching.booking now →
    (ClosedAs config matching.booking live now noMatchNoSupply ↔
      Elapsed config retried now ∧ ¬ HasOffer matching.since)

/-- What is asked of an event. -/
def Sound (config : MatchingConfig) (matching : Matching) : Event → Prop
  | .check live now =>
    (matching.booking.status = .noMatch → next config matching (.check live now) = matching) ∧
    ∀ retried, matching.retriedAt = some retried → SoundCheck config matching retried live now
  | _ => True

/-- The condition: until the window is over, only drivers that declined since the retry exhaust
the pool; when it is over, the check sees an offer if and only if one was made since. -/
def Meets (config : MatchingConfig) (matching : Matching) : Event → Prop
  | .check live now =>
    ∀ retried, matching.retriedAt = some retried → InMatching config matching.booking now →
      let exhausted := config.poolSize ≤ (declinedDrivers matching.booking.offerAttempts).card
      (¬ Elapsed config retried now → live = false → exhausted →
        matching.since ≠ [] ∧ config.poolSize ≤ (declinedDrivers matching.since).card) ∧
      (Elapsed config retried now →
        (live = true ∨ exhausted ∨ matching.booking.offerAttempts ≠ [] ↔ HasOffer matching.since))
  | _ => True

/-! ## What the check does -/

section Check

variable {config : MatchingConfig} {booking : MatchingBooking} {live : Bool} {now : ℤ}

theorem offeredDrivers_eq_empty_iff (attempts : List Attempt) :
    offeredDrivers attempts = ∅ ↔ attempts = [] := by
  have hall : ∀ attempt ∈ attempts, (attempt.outcome = .offered || attempt.outcome = .declined ||
      attempt.outcome = .expired : Bool) = true := by
    intro attempt _
    cases attempt.outcome <;> rfl
  rw [offeredDrivers, List.filter_eq_self.2 hall, List.toFinset_eq_empty_iff, List.map_eq_nil_iff]

theorem noMatchNoSupply_ne : noMatchNoSupply ≠ noMatchAllRejected := by decide

/-- A booking in matching is closed for either reason. -/
theorem close_of_inMatching (h : InMatching config booking now) {reason : String}
    (hreason : reason ∈ noMatchReasons) :
    (close booking reason).2 = .terminal false (some reason) := by
  obtain ⟨hdeleted, hstatus, hdriver, hvehicle, -⟩ := h
  simp [close, markNoMatch, hreason, hdeleted, hstatus, hdriver, hvehicle]

theorem check_of_inMatching (h : InMatching config booking now) :
    checkMatchingOutcome config booking live now =
      let offered := offeredDrivers booking.offerAttempts
      let declined := declinedDrivers booking.offerAttempts
      if ¬ live ∧ config.poolSize ≤ declined.card then close booking noMatchAllRejected
      else
        match booking.matchingWindowStart with
        | none => (booking, .inProgress offered.card declined.card)
        | some started =>
          if ¬ live ∧ config.windowSeconds * second ≤ now - started then
            close booking (if offered ≠ ∅ then noMatchAllRejected else noMatchNoSupply)
          else (booking, .inProgress offered.card declined.card) := by
  obtain ⟨hdeleted, hstatus, hdriver, hvehicle, hdue⟩ := h
  simp [checkMatchingOutcome, hdeleted, hstatus, hdriver, hvehicle, hdue]

/-- Only a booking in matching is closed. -/
theorem inMatching_of_closedAs {reason : String} (h : ClosedAs config booking live now reason) :
    InMatching config booking now := by
  unfold ClosedAs checkMatchingOutcome at h
  split at h
  · cases h
  next hdeleted =>
  split at h
  · cases h
  split at h
  · cases h
  next hawaiting =>
  split at h
  · cases h
  next hdue =>
  push Not at hawaiting
  obtain ⟨hstatus, hdriver, hvehicle⟩ := hawaiting
  exact ⟨by simpa using hdeleted, hstatus, by simpa using hdriver, by simpa using hvehicle, hdue⟩

/-- When a booking in matching is closed, and why. -/
theorem closedAs_iff (live : Bool) (h : InMatching config booking now) {started : ℤ}
    (hstart : booking.matchingWindowStart = some started) :
    (ClosedAs config booking live now noMatchAllRejected ↔
      live = false ∧ (config.poolSize ≤ (declinedDrivers booking.offerAttempts).card ∨
        Elapsed config started now ∧ booking.offerAttempts ≠ [])) ∧
    (ClosedAs config booking live now noMatchNoSupply ↔
      live = false ∧ ¬ config.poolSize ≤ (declinedDrivers booking.offerAttempts).card ∧
        Elapsed config started now ∧ booking.offerAttempts = []) := by
  have hsupply : (close booking noMatchNoSupply).2 = .terminal false (some noMatchNoSupply) :=
    close_of_inMatching h (by decide)
  have hrejected : (close booking noMatchAllRejected).2 =
      .terminal false (some noMatchAllRejected) := close_of_inMatching h (by decide)
  have hne := noMatchNoSupply_ne
  rw [ClosedAs, ClosedAs, check_of_inMatching h]
  simp only [hstart, Elapsed]
  cases live
  case true => simp
  by_cases hpool : config.poolSize ≤ (declinedDrivers booking.offerAttempts).card
  · simp [hpool, hrejected, hne.symm]
  by_cases helapsed : config.windowSeconds * second ≤ now - started
  · by_cases hnone : booking.offerAttempts = []
    · have hempty := (offeredDrivers_eq_empty_iff booking.offerAttempts).2 hnone
      rw [hnone] at hpool hempty
      simp [hpool, helapsed, hempty, hsupply, hne, hnone]
    · have hempty := mt (offeredDrivers_eq_empty_iff booking.offerAttempts).1 hnone
      simp [hpool, helapsed, hempty, hrejected, hne.symm, hnone]
  · simp [hpool, helapsed]

theorem check_of_not_inMatching (h : ¬ InMatching config booking now) :
    (checkMatchingOutcome config booking live now).1 = booking := by
  unfold checkMatchingOutcome
  split
  · rfl
  next hdeleted =>
  split
  · rfl
  split
  · rfl
  next hawaiting =>
  split
  · rfl
  next hdue =>
  push Not at hawaiting
  obtain ⟨hstatus, hdriver, hvehicle⟩ := hawaiting
  exact absurd ⟨by simpa using hdeleted, hstatus, by simpa using hdriver, by simpa using hvehicle,
    hdue⟩ h

theorem check_closed (h : booking.status = .noMatch) :
    (checkMatchingOutcome config booking live now).1 = booking := by
  refine check_of_not_inMatching fun hin => ?_
  rw [hin.2.1] at h
  cases h

theorem close_matchingStartedAt (reason : String) :
    (close booking reason).1.matchingStartedAt = booking.matchingStartedAt := by
  unfold close
  cases hmark : markNoMatch booking reason with
  | error error => rfl
  | ok answer =>
    unfold markNoMatch at hmark
    repeat' split at hmark
    all_goals cases hmark
    all_goals rfl

theorem check_matchingStartedAt :
    (checkMatchingOutcome config booking live now).1.matchingStartedAt =
      booking.matchingStartedAt := by
  by_cases h : InMatching config booking now
  · rw [check_of_inMatching h]
    dsimp only
    repeat' split
    all_goals first | exact close_matchingStartedAt _ | rfl
  · rw [check_of_not_inMatching h]

end Check

/-! ## Whole histories -/

/-- The window of a retried booking begins with its latest retry. -/
def Matching.Stamped (matching : Matching) : Prop :=
  ∀ retried, matching.retriedAt = some retried →
    matching.booking.matchingStartedAt = some retried

section Histories

variable {config : MatchingConfig} {matching : Matching}

theorem retry_matchingStartedAt {booking reopened : MatchingBooking} {userId : ℕ} {now : ℤ}
    (h : retryMatching booking userId now = .ok reopened) :
    reopened.matchingStartedAt = some now := by
  unfold retryMatching at h
  repeat' split at h
  all_goals cases h
  rfl

theorem stamped_attempt (h : matching.Stamped) (made : Attempt) (written : Bool) :
    (matching.attempt made written).Stamped := by
  intro retried hretried
  have hsame : (matching.booking.recordOfferLedger made written).1.matchingStartedAt =
      matching.booking.matchingStartedAt := by
    unfold MatchingBooking.recordOfferLedger
    repeat' split
    all_goals rfl
  exact hsame.trans (h retried hretried)

/-- What an event keeps: whatever happens, the window begins with the latest retry. -/
theorem stamped_next (h : matching.Stamped) (event : Event) :
    (next config matching event).Stamped := by
  cases event with
  | offer driver vehicle written now => exact stamped_attempt h _ written
  | decline driver written now => exact stamped_attempt h _ written
  | retry userId now =>
    cases hretry : retryMatching matching.booking userId now with
    | error error => simpa only [next, hretry] using h
    | ok booking =>
      intro retried hretried
      simp only [next, hretry, Option.some.injEq] at hretried ⊢
      subst hretried
      exact retry_matchingStartedAt hretry
  | check live now =>
    intro retried hretried
    exact check_matchingStartedAt.trans (h retried hretried)
  | change status driver vehicle reason cause => exact h

/-- The check of a retried booking is sound exactly when it meets the condition. -/
theorem soundCheck_iff (h : matching.Stamped) {retried : ℤ}
    (hretried : matching.retriedAt = some retried) (live : Bool) (now : ℤ) :
    SoundCheck config matching retried live now ↔
      (InMatching config matching.booking now →
        (¬ Elapsed config retried now → live = false →
          config.poolSize ≤ (declinedDrivers matching.booking.offerAttempts).card →
          matching.since ≠ [] ∧ config.poolSize ≤ (declinedDrivers matching.since).card) ∧
        (Elapsed config retried now →
          (live = true ∨ config.poolSize ≤ (declinedDrivers matching.booking.offerAttempts).card ∨
            matching.booking.offerAttempts ≠ [] ↔ HasOffer matching.since))) := by
  by_cases hin : InMatching config matching.booking now
  swap
  · refine iff_of_true ⟨fun hclosed => ?_, fun h => absurd h hin⟩ fun h => absurd h hin
    exact absurd (inMatching_of_closedAs hclosed) hin
  have hstart : matching.booking.matchingWindowStart = some retried := by
    simp [MatchingBooking.matchingWindowStart, h retried hretried]
  have hoffer : HasOffer matching.since → matching.since ≠ [] := by
    rintro ⟨attempt, hmem, -⟩
    exact List.ne_nil_of_mem hmem
  obtain ⟨hrejected, hsupply⟩ := closedAs_iff live hin hstart
  constructor
  · rintro ⟨hsound, hexact⟩ -
    rw [hrejected] at hsound
    have hexact := hexact hin
    rw [hsupply] at hexact
    refine ⟨fun hopen hlive hpool => ?_, fun helapsed => ?_⟩
    · obtain ⟨hne, hcause⟩ := hsound ⟨hlive, .inl hpool⟩
      exact ⟨hne, hcause.resolve_right hopen⟩
    · rw [← not_iff_not, not_or, not_or, Bool.not_eq_true, not_ne_iff]
      simpa only [helapsed, true_and] using hexact
  · intro hmeets
    obtain ⟨hbefore, hafter⟩ := hmeets hin
    refine ⟨fun hclosed => ?_, fun _ => ?_⟩
    · obtain ⟨hlive, hcause⟩ := hrejected.1 hclosed
      by_cases helapsed : Elapsed config retried now
      · have hseen : HasOffer matching.since :=
          (hafter helapsed).1 (.inr (hcause.imp_right And.right))
        exact ⟨hoffer hseen, .inr helapsed⟩
      · have hpool := hcause.resolve_right fun h => helapsed h.1
        obtain ⟨hne, hexhausted⟩ := hbefore helapsed hlive hpool
        exact ⟨hne, .inl hexhausted⟩
    · rw [hsupply]
      by_cases helapsed : Elapsed config retried now
      · have hexact := not_congr (hafter helapsed)
        rw [not_or, not_or, Bool.not_eq_true, not_ne_iff] at hexact
        simpa only [helapsed, true_and] using hexact
      · simp only [helapsed, false_and, and_false]

theorem next_check_closed (h : matching.booking.status = .noMatch) (live : Bool) (now : ℤ) :
    next config matching (.check live now) = matching := by
  simp only [next, check_closed h]

theorem sound_iff_meets (h : matching.Stamped) (event : Event) :
    Sound config matching event ↔ Meets config matching event := by
  cases event with
  | check live now =>
    rw [Sound, and_iff_right fun hclosed => next_check_closed hclosed live now]
    exact forall₂_congr fun retried hretried => soundCheck_iff h hretried live now
  | offer => exact Iff.rfl
  | decline => exact Iff.rfl
  | retry => exact Iff.rfl
  | change => exact Iff.rfl

/-- In every history of a booking, a closed booking stays as a check finds it; and every check
of a retried booking closes it for attempts since the retry, or for want of offers since then
when the window is over, exactly when every check meets the condition. -/
theorem retried_window (config : MatchingConfig) (booking : MatchingBooking) (events : List Event) :
    (∀ live now, (after config booking events).booking.status = .noMatch →
      after config booking (events ++ [.check live now]) = after config booking events) ∧
    (Along (next config) (Sound config) { booking } events ↔
      Along (next config) (Meets config) { booking } events) := by
  constructor
  · intro live now hstatus
    rw [after, List.foldl_append, List.foldl_cons, List.foldl_nil]
    exact next_check_closed hstatus live now
  · refine along_iff Matching.Stamped ?_ ?_ ?_
    · intro matching event h _
      exact stamped_next h event
    · intro matching event h
      exact sound_iff_meets h event
    · intro retried hretried
      cases hretried

end Histories

def newRide : MatchingBooking :=
  { userId := 7, status := .confirmed, confirmedAt := some 0, matchingStartedAt := some 0 }

/-- Five drivers decline, a check closes the booking, and the rider tries again. -/
def declinedRide : List Event :=
  ([1, 2, 3, 4, 5].map fun driver => .decline driver true (10 * second)) ++
    [.check false (11 * second), .retry 7 (60 * second)]

/-- The next check closes the booking at once: nobody was asked. -/
theorem declinedRide_closed :
    (after {} newRide declinedRide).retriedAt = some (60 * second) ∧
    (after {} newRide declinedRide).since = [] ∧
    ClosedAs {} (after {} newRide declinedRide).booking false (61 * second) noMatchAllRejected ∧
    ¬ Along (next {}) (Sound {}) { booking := newRide }
      (declinedRide ++ [.check false (61 * second)]) := by
  have hretried : (after {} newRide declinedRide).retriedAt = some (60 * second) := by
    decide +kernel
  have hsince : (after {} newRide declinedRide).since = [] := by decide +kernel
  have hclosed : ClosedAs {} (after {} newRide declinedRide).booking false (61 * second)
      noMatchAllRejected := by
    unfold ClosedAs
    decide +kernel
  refine ⟨hretried, hsince, hclosed, fun h => ?_⟩
  have hsound := (h declinedRide _ [] rfl).2 _ hretried
  exact (hsound.rejected hclosed).1 hsince

end Afcon360.Transport.MatchingService
