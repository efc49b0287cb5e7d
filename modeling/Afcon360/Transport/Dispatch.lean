import Mathlib.Data.Int.Basic
import Mathlib.Data.List.Basic

/-!
# Ride requests and their offers

A ride request is matched in search cycles. A cycle offers the ride to one driver after
the other, along a pool of candidates that was ranked when the cycle began, and closes
when its window elapses or the pool is used up. The booking is made by the transaction
in which a driver accepts; that transaction also closes the cycle and converts the
request.

Times are microseconds. The rows are those of one request: its cycles, highest number
first, each with its attempts, and the bookings that carry the id of the request. Every
operation reads the clock several times; `clock i` is the `i`-th reading.
-/

namespace Afcon360.Transport

inductive RequestStatus
  | searching | converting | converted | cancelled
deriving DecidableEq, Repr

inductive CycleStatus
  | searching | converting | completed | expired | cancelled
deriving DecidableEq, Repr

inductive AttemptStatus
  | queued | offered | accepting | declined | timedOut | skipped | claimFailed | won | withdrawn
deriving DecidableEq, Repr

inductive TerminalReason
  | noSupply | allRejected | riderCancelled
deriving DecidableEq, Repr

/-- The statuses of `uq_offer_attempt_actionable`. -/
def AttemptStatus.actionable : AttemptStatus → Bool
  | .offered => true
  | .accepting => true
  | _ => false

/-- An outcome. -/
def AttemptStatus.terminal : AttemptStatus → Bool
  | .queued => false
  | .offered => false
  | .accepting => false
  | _ => true

/-- The statuses of `uq_search_cycle_active`. -/
def CycleStatus.active : CycleStatus → Bool
  | .searching => true
  | .converting => true
  | _ => false

/-- What the ranker says of a driver. -/
structure Candidate where
  driverId : Option ℕ
  vehicleId : Option ℕ

/-- A candidate in the snapshot of a cycle. -/
structure PoolItem where
  driverId : ℕ
  vehicleId : ℕ
  rank : ℕ
deriving DecidableEq, Repr

structure OfferAttempt where
  driverId : ℕ
  vehicleId : ℕ
  attemptNumber : ℕ
  candidateRank : ℕ
  status : AttemptStatus
  responseDeadline : Option ℤ
deriving DecidableEq, Repr

structure SearchCycle where
  cycleNumber : ℕ
  status : CycleStatus
  deadline : Option ℤ
  rankedPool : Option (List PoolItem) := none
  terminalReason : Option TerminalReason := none
  attempts : List OfferAttempt := []
deriving DecidableEq, Repr

structure RideBooking where
  searchCycle : ℕ
  driverId : ℕ
  vehicleId : ℕ
deriving DecidableEq, Repr

structure RideRequest where
  userId : ℕ
  isDeleted : Bool := false
  status : RequestStatus := .searching
  cycles : List SearchCycle
  bookings : List RideBooking := []
deriving DecidableEq, Repr

/-- `RideRequestDispatchError`, or a violated constraint that reaches the caller. -/
inductive DispatchFailure
  | refused (code message : String)
  | integrityError
deriving DecidableEq, Repr

/-- The `status` of an answer. -/
inductive SearchStatus
  | request (status : RequestStatus)
  | cycle (status : CycleStatus)
  | noActiveSearch
  | expired
  | offered
  | accepting
  | noSupply
  | cancelled (replay : Bool)
deriving DecidableEq, Repr

def responseSeconds : ℤ := 25

def microseconds (seconds : ℤ) : ℤ := seconds * 1000000

def matchingPoolSize : ℕ := 5

/-- `_candidate_snapshot`, with the ranks. -/
def candidateSnapshot (candidates : List Candidate) : List PoolItem :=
  let safe := candidates.filterMap (fun candidate =>
    match candidate.driverId, candidate.vehicleId with
    | some driverId, some vehicleId =>
      if driverId = 0 ∨ vehicleId = 0 then none else some (driverId, vehicleId)
    | _, _ => none)
  safe.mapIdx (fun i pair => ⟨pair.1, pair.2, i + 1⟩)

namespace SearchCycle

/-- Give one attempt a status. -/
def setStatus (cycle : SearchCycle) (number : ℕ) (status : AttemptStatus) : SearchCycle :=
  { cycle with
    attempts := cycle.attempts.map (fun attempt =>
      if attempt.attemptNumber = number then { attempt with status } else attempt) }

/-- The offered or accepting attempt. -/
def activeAttempt (cycle : SearchCycle) : Option OfferAttempt :=
  cycle.attempts.find? (fun attempt => attempt.status.actionable)

/-- The attempt that is offered to a driver. -/
def offeredTo (cycle : SearchCycle) (driverId : ℕ) : Option OfferAttempt :=
  cycle.attempts.find? (fun attempt => attempt.driverId = driverId ∧ attempt.status = .offered)

/-- `_insert_offer`. -/
def insertOffer (cycle : SearchCycle) (candidate : PoolItem) (attemptNumber : ℕ) (now : ℤ) :
    SearchCycle :=
  { cycle with
    attempts := cycle.attempts ++
      [{ driverId := candidate.driverId
         vehicleId := candidate.vehicleId
         attemptNumber
         candidateRank := if candidate.rank = 0 then attemptNumber else candidate.rank
         status := .offered
         responseDeadline := some (now + microseconds responseSeconds) }] }

/-- The matching window is over. -/
def windowElapsed (cycle : SearchCycle) (now : ℤ) : Bool :=
  cycle.deadline.any (fun deadline => deadline ≤ now)

/-- `_close_cycle_at_deadline`; `none` when the window has not elapsed. The session may
hold an attempt that it loaded as offered before: it goes by what it loaded. -/
def closeCycleAtDeadline (cycle : SearchCycle) (held : Option ℕ) (now : ℤ) :
    Option SearchCycle :=
  if cycle.windowElapsed now then
    some { cycle with
      attempts := cycle.attempts.map (fun attempt =>
        if attempt.status.actionable ∨ held = some attempt.attemptNumber then
          { attempt with status := .timedOut }
        else attempt)
      status := .expired
      terminalReason := some (if cycle.attempts = [] then .noSupply else .allRejected) }
  else none

/-- The next candidate of the pool that was not tried. -/
def nextCandidate (cycle : SearchCycle) : Option PoolItem :=
  (cycle.rankedPool.getD []).find? (fun item =>
    ∀ attempt ∈ cycle.attempts, attempt.driverId ≠ item.driverId)

def maxNumber (cycle : SearchCycle) : ℕ :=
  cycle.attempts.foldl (fun highest attempt => max highest attempt.attemptNumber) 0

/-- `_advance_locked`: close an attempt and offer the ride to the next candidate. -/
def advanceLocked (cycle : SearchCycle) (held : Option ℕ) (number : ℕ) (outcome : AttemptStatus)
    (now insertedAt : ℤ) : SearchCycle :=
  let closed := cycle.setStatus number outcome
  match closed.closeCycleAtDeadline (held.filter (· ≠ number)) now with
  | some expired => expired
  | none =>
    match closed.nextCandidate with
    | none =>
      { closed with
        status := .expired
        terminalReason := some (if closed.attempts = [] then .noSupply else .allRejected) }
    | some candidate => closed.insertOffer candidate (closed.maxNumber + 1) insertedAt

/-- The pool is ranked once in a cycle. -/
def snapshotPool (cycle : SearchCycle) (ranked : List Candidate) : SearchCycle :=
  { cycle with
    rankedPool := some (cycle.rankedPool.getD
      (candidateSnapshot (ranked.take matchingPoolSize))) }

end SearchCycle

namespace RideRequest

/-- `_cycle_for_request`: the cycle with the highest number. -/
def cycleForRequest (request : RideRequest) : Option SearchCycle := request.cycles.head?

/-- The rows with the newest cycle rewritten. -/
def setCycle (request : RideRequest) (cycle : SearchCycle) : RideRequest :=
  { request with cycles := cycle :: request.cycles.tail }

/-- The unique indexes that the rows of a request are under. -/
def Indexed (request : RideRequest) : Prop :=
  (request.cycles.filter (fun cycle => cycle.status.active)).length ≤ 1 ∧
  (request.cycles.map SearchCycle.cycleNumber).Nodup ∧
  (∀ cycle ∈ request.cycles,
    (cycle.attempts.filter (fun attempt => attempt.status.actionable)).length ≤ 1 ∧
    (cycle.attempts.map OfferAttempt.attemptNumber).Nodup) ∧
  request.bookings.length ≤ 1

instance (request : RideRequest) : Decidable request.Indexed :=
  inferInstanceAs (Decidable (_ ∧ _ ∧ _ ∧ _))

/-- Commit new rows; a violated index rolls them back and raises. -/
def commit {α : Type} (request new : RideRequest) (answer : Except DispatchFailure α) :
    Except DispatchFailure α × RideRequest :=
  if new.Indexed then (answer, new) else (.error .integrityError, request)

/-- The status as the session has it: what it loaded earlier, or the row's. -/
def statusIn (request : RideRequest) (held : Option RequestStatus) : RequestStatus :=
  held.getD request.status

def requestNotFound : DispatchFailure := .refused "request_not_found" "Ride request not found"

/-- `start_search`. `ranked` is the answer of the ranker. After a failed insert the offer is
looked up again; these rows have none, so the error is raised. -/
def startSearch (request : RideRequest) (held : Option RequestStatus) (ranked : List Candidate)
    (clock : ℕ → ℤ) : Except DispatchFailure SearchStatus × RideRequest :=
  if request.isDeleted then (.error requestNotFound, request)
  else if request.statusIn held ≠ .searching then
    (.ok (.request (request.statusIn held)), request)
  else
    match request.cycleForRequest with
    | none => (.ok .noActiveSearch, request)
    | some cycle =>
      if cycle.status ≠ .searching then (.ok .noActiveSearch, request)
      else
        match cycle.closeCycleAtDeadline none (clock 0) with
        | some closed => request.commit (request.setCycle closed) (.ok .expired)
        | none =>
          match cycle.activeAttempt with
          | some active =>
            if active.status = .offered ∧ active.responseDeadline.any (clock 1 < ·) then
              (.ok .offered, request)
            else if active.status = .accepting then (.ok .accepting, request)
            else
              let next := cycle.advanceLocked none active.attemptNumber .timedOut (clock 2)
                (clock 3)
              request.commit (request.setCycle next) (.ok (.cycle next.status))
          | none =>
            let ready := cycle.snapshotPool ranked
            match ready.rankedPool.getD [] with
            | [] =>
              request.commit
                (request.setCycle
                  { ready with status := .expired, terminalReason := some .noSupply })
                (.ok .noSupply)
            | candidate :: _ =>
              request.commit (request.setCycle (ready.insertOffer candidate 1 (clock 2)))
                (.ok .offered)

/-- `retry_search` up to its first commit; the answer `none` goes on with `start_search`. -/
def retrySearch (request : RideRequest) (held : Option RequestStatus) (ownerUserId : ℕ)
    (windowSeconds : ℤ) (clock : ℕ → ℤ) :
    Except DispatchFailure (Option SearchStatus) × RideRequest :=
  if request.isDeleted ∨ request.userId ≠ ownerUserId then (.error requestNotFound, request)
  else if request.statusIn held ≠ .searching then
    (.error (.refused "request_not_retryable" "This ride request can no longer be retried"),
      request)
  else
    match request.cycleForRequest with
    | none =>
      request.commit
        { request with
          cycles := { cycleNumber := 1
                      status := .searching
                      deadline := some (clock 0 + microseconds windowSeconds) } ::
            request.cycles }
        (.ok none)
    | some cycle =>
      if cycle.status = .searching then
        match cycle.closeCycleAtDeadline none (clock 0) with
        | some closed => request.commit (request.setCycle closed) (.ok (some .expired))
        | none =>
          match cycle.activeAttempt with
          | some active =>
            if active.status = .accepting then
              (.error (.refused "accept_in_progress"
                "A driver is currently accepting this ride"), request)
            else if active.responseDeadline.any (clock 1 < ·) then
              (.ok (some .offered), request)
            else
              let next := cycle.advanceLocked none active.attemptNumber .timedOut (clock 2)
                (clock 3)
              request.commit (request.setCycle next) (.ok (some (.cycle next.status)))
          | none => (.ok none, request)
      else if cycle.status = .expired ∨ cycle.status = .cancelled then
        request.commit
          { request with
            cycles := { cycleNumber := cycle.cycleNumber + 1
                        status := .searching
                        deadline := some (clock 0 + microseconds windowSeconds) } ::
              request.cycles }
          (.ok none)
      else
        (.error (.refused "request_not_retryable" "This ride request is not awaiting a retry"),
          request)

/-- Take a searching cycle back with its offer. -/
def withdraw (cycle : SearchCycle) : SearchCycle :=
  { cycle with
    attempts := cycle.attempts.map (fun attempt =>
      if attempt.status.actionable then { attempt with status := .withdrawn } else attempt)
    status := .cancelled
    terminalReason := some .riderCancelled }

/-- `cancel_request`. -/
def cancelRequest (request : RideRequest) (held : Option RequestStatus) (ownerUserId : ℕ) :
    Except DispatchFailure SearchStatus × RideRequest :=
  if request.isDeleted ∨ request.userId ≠ ownerUserId then (.error requestNotFound, request)
  else
    match request.statusIn held with
    | .converted =>
      (.error (.refused "already_assigned"
        "A driver has already accepted this ride. Use the trip cancellation flow instead."),
        request)
    | .cancelled => (.ok (.cancelled true), request)
    | .converting =>
      (.error (.refused "request_not_cancellable"
        "This ride request can no longer be cancelled"), request)
    | .searching =>
      let withdrawn : RideRequest :=
        match request.cycleForRequest with
        | some cycle =>
          if cycle.status = .searching then request.setCycle (withdraw cycle) else request
        | none => request
      request.commit { withdrawn with status := .cancelled } (.ok (.cancelled false))

/-- The newest cycle when the session sees the request searching and the cycle is. -/
def searchingCycle (request : RideRequest) (held : Option RequestStatus) : Option SearchCycle :=
  if request.isDeleted ∨ request.statusIn held ≠ .searching then none
  else request.cycleForRequest.filter (fun cycle => cycle.status = .searching)

/-- `decline_offer`. -/
def declineOffer (request : RideRequest) (held : Option RequestStatus) (driverId : ℕ)
    (clock : ℕ → ℤ) : Except DispatchFailure Bool × RideRequest :=
  match request.searchingCycle held with
  | none => (.ok false, request)
  | some cycle =>
    match cycle.offeredTo driverId with
    | none => (.ok false, request)
    | some attempt =>
      request.commit
        (request.setCycle (cycle.advanceLocked none attempt.attemptNumber .declined (clock 0)
          (clock 1)))
        (.ok true)

/-- The rows `recover_expired` begins with: offered attempts whose time is up, by cycle and
number. -/
def expiredOffers (request : RideRequest) (now : ℤ) : List (ℕ × ℕ) :=
  request.cycles.flatMap (fun cycle =>
    (cycle.attempts.filter (fun attempt => attempt.status = .offered ∧
      (attempt.responseDeadline.any (· ≤ now) ∨ cycle.windowElapsed now))).map
      (fun attempt => (cycle.cycleNumber, attempt.attemptNumber)))

/-- The transaction of `recover_expired` for one of its rows. The session loaded the
request and its cycle before it had the lock: it tests the statuses it then read. -/
def recoverRow (request : RideRequest) (heldRequest : RequestStatus) (heldCycle : CycleStatus)
    (row : ℕ × ℕ) (clock : ℕ → ℤ) : Except DispatchFailure Unit × RideRequest :=
  if request.isDeleted ∨ heldRequest ≠ .searching ∨ heldCycle ≠ .searching then (.ok (), request)
  else
    match request.cycleForRequest with
    | none => (.ok (), request)
    | some cycle =>
      match cycle.attempts.find? (fun attempt => (cycle.cycleNumber, attempt.attemptNumber) = row ∧
          attempt.status = .offered) with
      | none => (.ok (), request)
      | some attempt =>
        match cycle.closeCycleAtDeadline none (clock 0) with
        | some closed => request.commit (request.setCycle closed) (.ok ())
        | none =>
          if attempt.responseDeadline.any (clock 0 < ·) then (.ok (), request)
          else
            request.commit
              (request.setCycle (cycle.advanceLocked none attempt.attemptNumber .timedOut
                (clock 1) (clock 2)))
              (.ok ())

/-- The requests of the second scan of `recover_expired`: a searching cycle without an
attempt. -/
def awaitsFirstOffer (request : RideRequest) : Bool :=
  request.status = .searching && !request.isDeleted &&
    request.cycles.any (fun cycle => cycle.status = .searching && cycle.attempts.isEmpty)

/-- What the Wallet invoice of the request turns out to be. -/
inductive InvoiceCheck
  | fits | invalid | unavailable | mismatch
deriving DecidableEq, Repr

/-- What an acceptance meets outside of the rows of the request. -/
structure Acceptance where
  /-- The driver still has the vehicle. -/
  activePair : Bool
  currencySupported : Bool
  invoice : InvoiceCheck
  /-- What the claim raises: its kind and message. -/
  claimError : Option (String × String)
  /-- The database fails on the insert, the claim or the commit. -/
  databaseFails : Bool

/-- The end of an acceptance that did not make a booking. -/
inductive AcceptFailure
  | refused (code message : String)
  /-- The conversion was rolled back; the offer is still to be passed on. -/
  | rolledBack (code message : String)
  | integrityError
deriving DecidableEq, Repr

/-- The rows of a won request. -/
def convert (request : RideRequest) (cycle : SearchCycle) (attempt : OfferAttempt) : RideRequest :=
  { request.setCycle
      { cycle with
        attempts := cycle.attempts.map (fun other =>
          if other.attemptNumber = attempt.attemptNumber then { other with status := .won }
          else if other.status.actionable then { other with status := .skipped }
          else other)
        status := .completed
        terminalReason := none } with
    status := .converted
    bookings := request.bookings ++
      [⟨cycle.cycleNumber, attempt.driverId, attempt.vehicleId⟩] }

def assignmentConflict : String × String :=
  ("assignment_conflict",
    "The driver or vehicle is no longer available. We are checking another driver.")

/-- The booking, the claim and the conversion, committed together. The statuses
`converting` and `accepting` stand only while this transaction is open. -/
def conversion (request : RideRequest) (cycle : SearchCycle) (attempt : OfferAttempt)
    (acceptance : Acceptance) : Except AcceptFailure RideBooking × RideRequest :=
  if ¬ acceptance.currencySupported then
    (.error (.refused "invalid_currency" "The quoted fare currency is not supported"), request)
  else
    match acceptance.invoice with
    | .invalid =>
      (.error (.refused "wallet_invoice_invalid"
        "This ride has an invalid Wallet invoice reference."), request)
    | .unavailable =>
      (.error (.refused "wallet_invoice_unavailable"
        "Wallet could not validate the ride invoice. Please retry."), request)
    | .mismatch =>
      (.error (.refused "wallet_invoice_mismatch"
        ("This ride's Wallet invoice does not match its confirmed fare and payment" ++
          " choice.")), request)
    | .fits =>
      let won := request.convert cycle attempt
      if acceptance.databaseFails ∨ ¬ won.Indexed then
        (.error (.rolledBack assignmentConflict.1 assignmentConflict.2), request)
      else
        match acceptance.claimError with
        | some (kind, message) => (.error (.rolledBack kind message), request)
        | none => (.ok ⟨cycle.cycleNumber, attempt.driverId, attempt.vehicleId⟩, won)

/-- Commit an acceptance that ends with an error. -/
def commitRefusal (request new : RideRequest) (code message : String) :
    Except AcceptFailure RideBooking × RideRequest :=
  if new.Indexed then (.error (.refused code message), new) else (.error .integrityError, request)

/-- `accept_offer` up to its first commit or rollback. The session may have loaded an
offer before it had the lock: its cycle and number. -/
def acceptOffer (request : RideRequest) (held : Option RequestStatus) (offer : Option (ℕ × ℕ))
    (driverId vehicleId : ℕ) (acceptance : Acceptance) (clock : ℕ → ℤ) :
    Except AcceptFailure RideBooking × RideRequest :=
  if request.isDeleted then
    (.error (.refused "request_not_found" "Ride request not found"), request)
  else if request.statusIn held = .converted then
    (.error (.refused "already_accepted" "Another driver already accepted this ride"), request)
  else if request.statusIn held ≠ .searching then
    (.error (.refused "request_not_searchable" "This ride request is no longer available"),
      request)
  else
    match request.cycleForRequest.filter (fun cycle => cycle.status = .searching) with
    | none =>
      (.error (.refused "offer_unavailable" "This ride offer is no longer active"), request)
    | some cycle =>
      let loaded := (offer.filter (fun key => key.1 = cycle.cycleNumber)).map Prod.snd
      match cycle.closeCycleAtDeadline loaded (clock 0) with
      | some closed =>
        request.commitRefusal (request.setCycle closed) "matching_window_expired"
          ("This matching window has expired. The rider can try finding a driver" ++
            " again.")
      | none =>
        match (cycle.offeredTo driverId).filter (fun attempt => attempt.vehicleId = vehicleId) with
        | none =>
          (.error (.refused "offer_unavailable"
            "This driver has no active offer for the ride"), request)
        | some attempt =>
          if ¬ attempt.responseDeadline.any (clock 0 < ·) then
            request.commitRefusal
              (request.setCycle (cycle.advanceLocked loaded attempt.attemptNumber .timedOut
                (clock 1) (clock 2)))
              "offer_expired" "This ride offer has expired"
          else if ¬ acceptance.activePair then
            request.commitRefusal
              (request.setCycle (cycle.advanceLocked loaded attempt.attemptNumber
                .claimFailed (clock 1) (clock 2)))
              "vehicle_assignment_changed"
              ("Your active vehicle changed after this offer. We are checking another" ++
                " driver.")
          else request.conversion cycle attempt acceptance

/-- The transaction of `accept_offer` after a conversion that was rolled back. -/
def passOffer (request : RideRequest) (driverId : ℕ) (clock : ℕ → ℤ) :
    Except DispatchFailure Unit × RideRequest :=
  match request.searchingCycle none with
  | none => (.ok (), request)
  | some cycle =>
    match cycle.offeredTo driverId with
    | none => (.ok (), request)
    | some attempt =>
      request.commit
        (request.setCycle (cycle.advanceLocked none attempt.attemptNumber .claimFailed (clock 0)
          (clock 1)))
        (.ok ())

end RideRequest

end Afcon360.Transport
