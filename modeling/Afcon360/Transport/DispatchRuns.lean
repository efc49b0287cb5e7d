import Afcon360.Foundation.Run
import Afcon360.Transport.DispatchRequest

/-!
# Dispatch of a ride request

The calls of the dispatch service on one request, in any order and at any clock values. A
move is one transaction; it runs under the lock of the request row. The calls that go on
after a commit or a rollback are kept as calls under way, and other calls may act before
they go on.

The lock does not refresh what the session loaded before it. A locking query finds the row
by the database's values and returns the object that the session already has, so a caller
that loaded the request without the lock goes by the status it read then. The rider's
cancellation and retry do, and so does the driver's acceptance with the offer it looked up.
-/

namespace Afcon360.Transport

open Foundation

namespace RideRequest

variable {request next : RideRequest} {held : Option RequestStatus} {clock : ℕ → ℤ}

variable {attempt : OfferAttempt} {cycle : SearchCycle}

/-! ## The transactions -/

theorem Change.commit {α : Type} {answer : Except DispatchFailure α}
    (change : Change request next) : Change request (request.commit next answer).2 := by
  unfold RideRequest.commit
  split
  · exact change
  · exact .same

theorem mem_of_activeAttempt (h : cycle.activeAttempt = some attempt) :
    attempt ∈ cycle.attempts ∧ attempt.status.actionable = true :=
  ⟨List.mem_of_find?_eq_some h, by simpa using List.find?_some h⟩

theorem mem_of_offeredTo {driverId : ℕ} (h : cycle.offeredTo driverId = some attempt) :
    attempt ∈ cycle.attempts ∧ attempt.status = .offered := by
  have := List.find?_some h
  simp only [decide_eq_true_eq] at this
  exact ⟨List.mem_of_find?_eq_some h, this.2⟩

theorem actionable_of_offered (h : attempt.status = .offered) :
    attempt.status.actionable = true := by
  simp [h, AttemptStatus.actionable]

theorem cycleForRequest_of_searchingCycle (h : request.searchingCycle held = some cycle) :
    request.cycleForRequest = some cycle ∧ cycle.status = .searching := by
  unfold searchingCycle at h
  split at h
  · cases h
  · simpa [Option.filter_eq_some_iff] using h

/-- The offer that the session has loaded, among the attempts of this cycle. -/
def loadedOffer (offer : Option (ℕ × ℕ)) (cycle : SearchCycle) : Option ℕ :=
  (offer.filter (fun key => key.1 = cycle.cycleNumber)).map Prod.snd

/-- The cycle searches, or an offer of it stands. -/
def Live (cycle : SearchCycle) : Prop :=
  cycle.status = .searching ∨ ∃ attempt ∈ cycle.attempts, attempt.status = .offered

/-- What a transaction writes that takes the newest cycle a step further, in a session that
has loaded this offer. -/
inductive CycleStep (request : RideRequest) (offer : Option (ℕ × ℕ)) (clock : ℕ → ℤ) :
    RideRequest → Prop
  | same : CycleStep request offer clock request
  | closed {cycle closed : SearchCycle} {i : ℕ} : request.cycleForRequest = some cycle →
      Live cycle →
      cycle.closeCycleAtDeadline (loadedOffer offer cycle) (clock i) = some closed →
      CycleStep request offer clock (request.setCycle closed)
  | passed {cycle : SearchCycle} {attempt : OfferAttempt} {outcome : AttemptStatus} {i j : ℕ} :
      request.cycleForRequest = some cycle → Live cycle → attempt ∈ cycle.attempts →
      attempt.status.actionable →
      outcome = .timedOut ∨ outcome = .declined ∨ outcome = .claimFailed →
      CycleStep request offer clock (request.setCycle
        (cycle.advanceLocked (loadedOffer offer cycle) attempt.attemptNumber outcome (clock i)
          (clock j)))
  | noSupply {cycle : SearchCycle} {ranked : List Candidate} :
      request.cycleForRequest = some cycle → cycle.status = .searching →
      cycle.activeAttempt = none →
      CycleStep request offer clock (request.setCycle
        { cycle.snapshotPool ranked with status := .expired, terminalReason := some .noSupply })
  | offered {cycle : SearchCycle} {ranked : List Candidate} {candidate : PoolItem}
      {rest : List PoolItem} {i : ℕ} : request.cycleForRequest = some cycle →
      cycle.status = .searching → cycle.activeAttempt = none →
      (cycle.snapshotPool ranked).rankedPool.getD [] = candidate :: rest →
      CycleStep request offer clock (request.setCycle
        ((cycle.snapshotPool ranked).insertOffer candidate 1 (clock i)))

section

variable {offer : Option (ℕ × ℕ)}

theorem CycleStep.commit {α : Type} {answer : Except DispatchFailure α}
    (taken : CycleStep request offer clock next) :
    CycleStep request offer clock (request.commit next answer).2 := by
  unfold RideRequest.commit
  split
  · exact taken
  · exact .same

theorem CycleStep.commitRefusal {code message : String}
    (taken : CycleStep request offer clock next) :
    CycleStep request offer clock (request.commitRefusal next code message).2 := by
  unfold RideRequest.commitRefusal
  split
  · exact taken
  · exact .same

/-- The offer to a driver is passed on. -/
theorem CycleStep.passedOffer {cycle : SearchCycle} {attempt : OfferAttempt}
    {outcome : AttemptStatus} {driverId i j : ℕ} (head : request.cycleForRequest = some cycle)
    (searching : cycle.status = .searching) (h : cycle.offeredTo driverId = some attempt)
    (houtcome : outcome = .timedOut ∨ outcome = .declined ∨ outcome = .claimFailed) :
    CycleStep request offer clock (request.setCycle
      (cycle.advanceLocked (loadedOffer offer cycle) attempt.attemptNumber outcome (clock i)
        (clock j))) := by
  obtain ⟨member, offered⟩ := mem_of_offeredTo h
  exact .passed head (.inl searching) member (actionable_of_offered offered) houtcome

end

theorem startSearch_step (ranked : List Candidate) :
    CycleStep request none clock (request.startSearch held ranked clock).2 := by
  unfold startSearch
  split
  · exact .same
  split
  · exact .same
  split
  · exact .same
  rename_i cycle head
  split
  · exact .same
  rename_i hsearching
  have searching : cycle.status = .searching := not_not.mp hsearching
  split
  · rename_i closed hclosed
    exact CycleStep.commit (.closed head (.inl searching) hclosed)
  split
  · rename_i active hactive
    obtain ⟨member, actionable⟩ := mem_of_activeAttempt hactive
    split
    · exact .same
    split
    · exact .same
    · exact CycleStep.commit (.passed head (.inl searching) member actionable (.inl rfl))
  · rename_i hactive
    dsimp only
    split
    · exact CycleStep.commit (.noSupply head searching hactive)
    · rename_i hpool
      exact CycleStep.commit (.offered head searching hactive hpool)

/-- What a retry writes that opens a cycle: the first one, or the one after a cycle that has
ended. -/
inductive Opened (request : RideRequest) : RideRequest → Prop
  | first {deadline : Option ℤ} : request.cycleForRequest = none →
      Opened request { request with
        cycles := { cycleNumber := 1, status := .searching, deadline } :: request.cycles }
  | after {cycle : SearchCycle} {deadline : Option ℤ} : request.cycleForRequest = some cycle →
      cycle.status = .expired ∨ cycle.status = .cancelled →
      Opened request { request with
        cycles := { cycleNumber := cycle.cycleNumber + 1, status := .searching, deadline } ::
          request.cycles }

theorem Opened.commit {α : Type} {answer : Except DispatchFailure α}
    (hstatus : request.statusIn held = .searching) (opened : Opened request next) :
    CycleStep request none clock (request.commit next answer).2 ∨
      request.statusIn held = .searching ∧ Opened request (request.commit next answer).2 := by
  unfold RideRequest.commit
  split
  · exact .inr ⟨hstatus, opened⟩
  · exact .inl .same

/-- A retry goes on with the searching cycle, or opens one if the session sees the request
searching. -/
theorem retrySearch_step (ownerUserId : ℕ) (windowSeconds : ℤ) :
    CycleStep request none clock (request.retrySearch held ownerUserId windowSeconds clock).2 ∨
      request.statusIn held = .searching ∧
        Opened request (request.retrySearch held ownerUserId windowSeconds clock).2 := by
  unfold retrySearch
  split
  · exact .inl .same
  split
  · exact .inl .same
  rename_i hstatus
  have hheld : request.statusIn held = .searching := not_not.mp hstatus
  split
  · rename_i head
    exact Opened.commit hheld (.first head)
  rename_i cycle head
  split
  · rename_i searching
    left
    split
    · rename_i closed hclosed
      exact CycleStep.commit (.closed head (.inl searching) hclosed)
    split
    · rename_i active hactive
      obtain ⟨member, actionable⟩ := mem_of_activeAttempt hactive
      split
      · exact .same
      split
      · exact .same
      · exact CycleStep.commit (.passed head (.inl searching) member actionable (.inl rfl))
    · exact .same
  split
  · rename_i hended
    exact Opened.commit hheld (.after head hended)
  · exact .inl .same

theorem declineOffer_step (driverId : ℕ) :
    CycleStep request none clock (request.declineOffer held driverId clock).2 := by
  unfold declineOffer
  split
  · exact .same
  rename_i cycle hcycle
  obtain ⟨head, searching⟩ := cycleForRequest_of_searchingCycle hcycle
  split
  · exact .same
  · rename_i attempt hattempt
    exact CycleStep.commit (.passedOffer head searching hattempt (.inr (.inl rfl)))

theorem passOffer_step (driverId : ℕ) :
    CycleStep request none clock (request.passOffer driverId clock).2 := by
  unfold passOffer
  split
  · exact .same
  rename_i cycle hcycle
  obtain ⟨head, searching⟩ := cycleForRequest_of_searchingCycle hcycle
  split
  · exact .same
  · rename_i attempt hattempt
    exact CycleStep.commit (.passedOffer head searching hattempt (.inr (.inr rfl)))

/-- A row is recovered only if its attempt is still offered, whatever the session read of its
cycle. -/
theorem recoverRow_step (heldRequest : RequestStatus) (heldCycle : CycleStatus) (row : ℕ × ℕ) :
    CycleStep request none clock (request.recoverRow heldRequest heldCycle row clock).2 := by
  unfold recoverRow
  split
  · exact .same
  split
  · exact .same
  rename_i cycle head
  split
  · exact .same
  rename_i attempt hattempt
  have member := List.mem_of_find?_eq_some hattempt
  have offered : attempt.status = .offered := by
    have := List.find?_some hattempt
    simp only [decide_eq_true_eq] at this
    exact this.2
  split
  · rename_i closed hclosed
    exact CycleStep.commit (.closed head (.inr ⟨attempt, member, offered⟩) hclosed)
  split
  · exact .same
  · exact CycleStep.commit (.passed head (.inr ⟨attempt, member, offered⟩) member
      (actionable_of_offered offered) (.inl rfl))

/-- An acceptance passes the offer on, or converts the request with it. -/
theorem acceptOffer_step (offer : Option (ℕ × ℕ)) (driverId vehicleId : ℕ)
    (acceptance : Acceptance) :
    CycleStep request offer clock
        (request.acceptOffer held offer driverId vehicleId acceptance clock).2 ∨
      ∃ cycle attempt, request.cycleForRequest = some cycle ∧ cycle.status = .searching ∧
        attempt ∈ cycle.attempts ∧ attempt.status = .offered ∧
        (request.acceptOffer held offer driverId vehicleId acceptance clock).2 =
          request.convert cycle attempt := by
  unfold acceptOffer
  split
  · exact .inl .same
  split
  · exact .inl .same
  split
  · exact .inl .same
  split
  · exact .inl .same
  rename_i cycle hcycle
  obtain ⟨head, searching⟩ : request.cycleForRequest = some cycle ∧ cycle.status = .searching := by
    simpa [Option.filter_eq_some_iff] using hcycle
  dsimp only
  split
  · rename_i closed hclosed
    exact .inl (CycleStep.commitRefusal (.closed head (.inl searching) hclosed))
  split
  · exact .inl .same
  rename_i attempt hattempt
  have hoffered : cycle.offeredTo driverId = some attempt :=
    (Option.filter_eq_some_iff.mp hattempt).1
  split
  · exact .inl (CycleStep.commitRefusal (.passedOffer head searching hoffered (.inl rfl)))
  split
  · exact .inl (CycleStep.commitRefusal (.passedOffer head searching hoffered (.inr (.inr rfl))))
  unfold conversion
  split
  · exact .inl .same
  split
  · exact .inl .same
  · exact .inl .same
  · exact .inl .same
  dsimp only
  split
  · exact .inl .same
  split
  · exact .inl .same
  · obtain ⟨member, offered⟩ := mem_of_offeredTo hoffered
    exact .inr ⟨cycle, attempt, head, searching, member, offered, rfl⟩

/-! ## Each of them is a change -/

/-- The offer that an acceptance has looked up is still offered, unless the window is
open at every reading of the clock. -/
def OfferCurrent (request : RideRequest) (offer : Option (ℕ × ℕ)) (clock : ℕ → ℤ) : Prop :=
  ∀ cycle, request.cycleForRequest = some cycle →
    cycle.HeldCurrent ((offer.filter (fun key => key.1 = cycle.cycleNumber)).map Prod.snd) ∨
      ∀ i, cycle.windowElapsed (clock i) = false

theorem offerCurrent_none : request.OfferCurrent none clock :=
  fun _ _ => .inl SearchCycle.heldCurrent_none

theorem Valid.live {cycle : SearchCycle} (valid : request.Valid)
    (head : request.cycleForRequest = some cycle) (live : Live cycle) :
    cycle.status = .searching := by
  obtain ⟨rest, hcycles⟩ := cycles_of_cycleForRequest head
  obtain searching | ⟨attempt, member, offered⟩ := live
  · exact searching
  · by_contra h
    have := ((valid.cycles cycle (by simp [hcycles])).settled h).2 attempt member
    simp [offered, AttemptStatus.terminal] at this

/-- A searching cycle without an active attempt has none at all. -/
theorem Valid.no_attempts {cycle : SearchCycle} (valid : request.Valid)
    (head : request.cycleForRequest = some cycle) (searching : cycle.status = .searching)
    (h : cycle.activeAttempt = none) : cycle.attempts = [] := by
  obtain ⟨rest, hcycles⟩ := cycles_of_cycleForRequest head
  rcases (valid.cycles cycle (by simp [hcycles])).offering searching with hnil |
    ⟨past, current, hattempts, _, hcurrent⟩
  · exact hnil
  · have := List.find?_eq_none.mp h current (by simp [hattempts])
    simp [hcurrent, AttemptStatus.actionable] at this

theorem CycleStep.change {offer : Option (ℕ × ℕ)} (taken : CycleStep request offer clock next)
    (valid : request.Valid) (current : request.OfferCurrent offer clock) :
    Change request next := by
  have hcycle : ∀ {cycle : SearchCycle}, request.cycleForRequest = some cycle → cycle.Valid := by
    intro cycle head
    obtain ⟨rest, hcycles⟩ := cycles_of_cycleForRequest head
    exact valid.cycles cycle (by simp [hcycles])
  cases taken with
  | same => exact .same
  | closed head live hclosed =>
    have searching := valid.live head live
    refine .cycle head searching ((hcycle head).closeCycleAtDeadline searching ?_ hclosed)
    refine (current _ head).resolve_right (fun hwindow => ?_)
    simp [SearchCycle.closeCycleAtDeadline, hwindow] at hclosed
  | passed head live member actionable houtcome =>
    have searching := valid.live head live
    refine .cycle head searching ((hcycle head).advanceLocked searching member actionable ?_ ?_
      ((current _ head).imp_right (fun hwindow => hwindow _)))
    · rcases houtcome with rfl | rfl | rfl <;> rfl
    · rcases houtcome with rfl | rfl | rfl <;> simp
  | noSupply head searching hactive =>
    have hattempts := valid.no_attempts head searching hactive
    refine .cycle head searching ⟨rfl, ?_, by simp, by simp [hattempts]⟩
    exact .of_ended (by simp [SearchCycle.snapshotPool, hattempts])
      (by simp [SearchCycle.snapshotPool, hattempts]) (by simp) (by simp)
  | offered head searching hactive hpool =>
    have hattempts := valid.no_attempts head searching hactive
    refine .cycle head searching (SearchCycle.follows_insertOffer searching rfl ?_ ?_ ?_ ?_)
    all_goals simp [SearchCycle.snapshotPool, hattempts]

/-- A retry goes by the status it read; it must not be older than a cancellation. -/
theorem retrySearch_change (valid : request.Valid) (ownerUserId : ℕ) (windowSeconds : ℤ)
    (current : held = some .searching → request.status ≠ .cancelled) :
    Change request (request.retrySearch held ownerUserId windowSeconds clock).2 := by
  obtain taken | ⟨hheld, opened⟩ := retrySearch_step ownerUserId windowSeconds
  · exact taken.change valid offerCurrent_none
  have hcancelled : request.status ≠ .cancelled := by
    cases held with
    | none =>
      simp only [statusIn, Option.getD_none] at hheld
      simp [hheld]
    | some status =>
      simp only [statusIn, Option.getD_some] at hheld
      exact current (by rw [hheld])
  -- A converted request has a completed cycle, which is not followed by another.
  have open' : (∀ cycle, request.cycleForRequest = some cycle → cycle.status ≠ .completed) →
      request.status = .searching := by
    intro hcompleted
    cases hrequest : request.status with
    | searching => rfl
    | converting => exact absurd hrequest valid.converting
    | cancelled => exact absurd hrequest hcancelled
    | converted =>
      obtain ⟨_, _, cycle, head, completed⟩ := valid.converted hrequest
      exact absurd completed (hcompleted cycle head)
  generalize (request.retrySearch held ownerUserId windowSeconds clock).2 = next at opened
  cases opened with
  | first head =>
    have hcycles : request.cycles = [] := by simpa [cycleForRequest] using head
    exact .retried (open' (by simp [head])) (by simp [hcycles]) rfl rfl
  | after head hended =>
    have hclosed : ∀ other, request.cycleForRequest = some other →
        other.status ≠ .searching ∧ other.status ≠ .completed := by
      intro other hother
      cases head.symm.trans hother
      rcases hended with h | h <;> simp [h]
    refine .retried (open' fun other h => (hclosed other h).2) ?_ rfl rfl
    intro other hmem
    exact ⟨valid.none_searching (fun other h => (hclosed other h).1) other hmem,
      valid.number_lt head other hmem⟩

/-- A cancellation goes by the status it read; it must not be older than the end of the
search. -/
theorem cancelRequest_change (valid : request.Valid) (ownerUserId : ℕ)
    (current : held = some .searching → request.status = .searching) :
    Change request (request.cancelRequest held ownerUserId).2 := by
  unfold cancelRequest
  split
  · exact .same
  split
  · exact .same
  · exact .same
  · exact .same
  rename_i hstatus
  have searching : request.status = .searching := by
    cases held with
    | none => simpa [statusIn] using hstatus
    | some status => exact current (by simpa [statusIn] using hstatus)
  refine Change.commit ?_
  split
  · rename_i cycle head
    split
    · rename_i hcycle
      exact .withdrawn head hcycle
    · rename_i hcycle
      refine .cancelled searching (valid.none_searching ?_)
      intro other hother
      cases head.symm.trans hother
      exact hcycle
  · rename_i head
    refine .cancelled searching (valid.none_searching ?_)
    intro other hother
    rw [head] at hother
    cases hother

theorem acceptOffer_change (valid : request.Valid) {offer : Option (ℕ × ℕ)}
    (current : request.OfferCurrent offer clock) (driverId vehicleId : ℕ)
    (acceptance : Acceptance) :
    Change request (request.acceptOffer held offer driverId vehicleId acceptance clock).2 := by
  rcases acceptOffer_step offer driverId vehicleId acceptance with
    taken | ⟨cycle, attempt, head, searching, member, offered, hconverted⟩
  · exact taken.change valid current
  · rw [hconverted]
    exact .converted head searching member offered

end RideRequest

/-! ## Calls -/

/-- A call after a commit or a rollback: a search still to be started, the rows that
`recover_expired` has left, or an acceptance whose conversion was rolled back. -/
inductive DispatchCall
  | search
  | recover (rows : List (ℕ × ℕ))
  | passOffer (driverId : ℕ)
deriving DecidableEq, Repr

structure DispatchDesk where
  request : RideRequest
  calls : List DispatchCall := []

namespace DispatchDesk

/-- The transactions. `held` is the status of the request in an object that the session
loaded before, if it has one. -/
inductive Move
  | startSearch (held : Option RequestStatus) (ranked : List Candidate) (clock : ℕ → ℤ)
  | retrySearch (held : Option RequestStatus) (ownerUserId : ℕ) (windowSeconds : ℤ)
      (clock : ℕ → ℤ)
  | declineOffer (held : Option RequestStatus) (driverId : ℕ) (clock : ℕ → ℤ)
  | cancelRequest (held : Option RequestStatus) (ownerUserId : ℕ)
  | acceptOffer (held : Option RequestStatus) (offer : Option (ℕ × ℕ)) (driverId vehicleId : ℕ)
      (acceptance : RideRequest.Acceptance) (clock : ℕ → ℤ)
  | recoverExpired (batch : ℕ) (now : ℤ)
  | resume (place : ℕ) (held : Option RequestStatus) (heldRow : RequestStatus × CycleStatus)
      (ranked : List Candidate) (clock : ℕ → ℤ)
  | crash (place : ℕ)

/-- The call at this place goes on. -/
def resume (s : DispatchDesk) (place : ℕ) (held : Option RequestStatus)
    (heldRow : RequestStatus × CycleStatus) (ranked : List Candidate) (clock : ℕ → ℤ) :
    DispatchDesk :=
  match s.calls[place]? with
  | none => s
  | some .search =>
    { request := (s.request.startSearch held ranked clock).2
      calls := s.calls.eraseIdx place }
  | some (.recover (row :: rest)) =>
    { request := (s.request.recoverRow heldRow.1 heldRow.2 row clock).2
      calls := s.calls.set place (.recover rest) }
  | some (.recover []) =>
    if s.request.awaitsFirstOffer then { s with calls := s.calls.set place .search }
    else { s with calls := s.calls.eraseIdx place }
  | some (.passOffer driverId) =>
    { request := (s.request.passOffer driverId clock).2
      calls := s.calls.eraseIdx place }

/-- The desk after a move. -/
def after (s : DispatchDesk) : Move → DispatchDesk
  | .startSearch held ranked clock =>
    { s with request := (s.request.startSearch held ranked clock).2 }
  | .retrySearch held ownerUserId windowSeconds clock =>
    match s.request.retrySearch held ownerUserId windowSeconds clock with
    | (.ok none, request) => { request, calls := s.calls ++ [.search] }
    | (_, request) => { s with request }
  | .declineOffer held driverId clock =>
    { s with request := (s.request.declineOffer held driverId clock).2 }
  | .cancelRequest held ownerUserId =>
    { s with request := (s.request.cancelRequest held ownerUserId).2 }
  | .acceptOffer held offer driverId vehicleId acceptance clock =>
    match s.request.acceptOffer held offer driverId vehicleId acceptance clock with
    | (.error (.rolledBack _ _), request) =>
      { request, calls := s.calls ++ [.passOffer driverId] }
    | (_, request) => { s with request }
  | .recoverExpired batch now =>
    { s with calls := s.calls ++ [.recover ((s.request.expiredOffers now).take batch)] }
  | .resume place held heldRow ranked clock => s.resume place held heldRow ranked clock
  | .crash place => { s with calls := s.calls.eraseIdx place }

/-- A request that was just created. -/
def Created (s : DispatchDesk) : Prop :=
  s.request.status = .searching ∧ s.request.bookings = [] ∧ s.calls = [] ∧
  ∃ cycle, s.request.cycles = [cycle] ∧ cycle.status = .searching ∧ cycle.attempts = []

def step (s : DispatchDesk) (move : Move) (t : DispatchDesk) : Prop := s.after move = t

/-- The moves of a session that does not go by an outdated object: a cancellation that
read `searching` finds the request searching, a retry that did does not find it cancelled,
and the offer that an acceptance looked up is still offered when the window closes. -/
def Current (s : DispatchDesk) : Move → Prop
  | .retrySearch held _ _ _ => held = some .searching → s.request.status ≠ .cancelled
  | .cancelRequest held _ => held = some .searching → s.request.status = .searching
  | .acceptOffer _ offer _ _ _ clock => s.request.OfferCurrent offer clock
  | _ => True

variable {s t : DispatchDesk} {move : Move} {moves : List Move}

/-- The session of the call has loaded nothing before it has the lock. -/
def Move.fresh : Move → Bool
  | .retrySearch held _ _ _ => held.isNone
  | .cancelRequest held _ => held.isNone
  | .acceptOffer _ offer _ _ _ _ => offer.isNone
  | _ => true

theorem current_of_fresh (h : move.fresh = true) : s.Current move := by
  cases move with
  | retrySearch held ownerUserId windowSeconds clock =>
    intro hheld
    simp [Move.fresh, hheld] at h
  | cancelRequest held ownerUserId =>
    intro hheld
    simp [Move.fresh, hheld] at h
  | acceptOffer held offer driverId vehicleId acceptance clock =>
    obtain rfl : offer = none := by simpa [Move.fresh] using h
    exact RideRequest.offerCurrent_none
  | _ => trivial

theorem resume_change (valid : s.request.Valid) (place : ℕ) (held : Option RequestStatus)
    (heldRow : RequestStatus × CycleStatus) (ranked : List Candidate) (clock : ℕ → ℤ) :
    s.request.Change (s.resume place held heldRow ranked clock).request := by
  unfold resume
  split
  · exact .same
  · exact (RideRequest.startSearch_step ranked).change valid RideRequest.offerCurrent_none
  · exact (RideRequest.recoverRow_step _ _ _).change valid RideRequest.offerCurrent_none
  · split
    · exact .same
    · exact .same
  · exact (RideRequest.passOffer_step _).change valid RideRequest.offerCurrent_none

theorem after_change (valid : s.request.Valid) (current : s.Current move) :
    s.request.Change (s.after move).request := by
  cases move with
  | startSearch held ranked clock =>
    exact (RideRequest.startSearch_step ranked).change valid RideRequest.offerCurrent_none
  | retrySearch held ownerUserId windowSeconds clock =>
    have change : s.request.Change
        (s.request.retrySearch held ownerUserId windowSeconds clock).2 :=
      RideRequest.retrySearch_change valid ownerUserId windowSeconds current
    simp only [after]
    split <;> simp_all
  | declineOffer held driverId clock =>
    exact (RideRequest.declineOffer_step driverId).change valid RideRequest.offerCurrent_none
  | cancelRequest held ownerUserId =>
    exact RideRequest.cancelRequest_change valid ownerUserId current
  | acceptOffer held offer driverId vehicleId acceptance clock =>
    have change : s.request.Change
        (s.request.acceptOffer held offer driverId vehicleId acceptance clock).2 :=
      RideRequest.acceptOffer_change valid current driverId vehicleId acceptance
    simp only [after]
    split <;> simp_all
  | recoverExpired batch now => exact .same
  | resume place held heldRow ranked clock =>
    exact resume_change valid place held heldRow ranked clock
  | crash place => exact .same

theorem Created.valid (created : s.Created) : s.request.Valid := by
  obtain ⟨hstatus, hbookings, _, cycle, hcycles, hcycle, hattempts⟩ := created
  refine
    { numbers := by simp [hcycles], cycles := ?_, older := by simp [hcycles],
      ended := fun h => absurd hstatus h, converting := by simp [hstatus],
      converted := fun h => by simp [hstatus] at h, unconverted := ?_ }
  · intro other hmem
    rw [hcycles, List.mem_singleton] at hmem
    subst hmem
    exact
      { numbers := by simp [hattempts]
        settled := fun h => absurd hcycle h
        offering := fun _ => .inl hattempts
        unwon := by simp [hattempts] }
  · intro _
    simp [hbookings, hcycles, hcycle]

theorem run_valid (run : Run (Guarded Current step) s moves t) (valid : s.request.Valid) :
    t.request.Valid := by
  refine run.invariant (fun desk => desk.request.Valid) ?_ valid
  rintro desk move _ valid ⟨current, rfl⟩
  exact (after_change valid current).valid valid

theorem run_settled (run : Run (Guarded Current step) s moves t) (valid : s.request.Valid) :
    s.request.Settled t.request := by
  refine (run.invariant (fun desk => desk.request.Valid ∧ s.request.Settled desk.request) ?_
    ⟨valid, .refl _⟩).2
  rintro desk move _ ⟨valid, settled⟩ ⟨current, rfl⟩
  have change := after_change valid current
  exact ⟨change.valid valid, settled.trans (change.settled valid)⟩

end DispatchDesk

/-! ## What holds of a request -/

namespace RideRequest

/-- What holds of the rows of a request in every state. -/
structure Sound (request : RideRequest) : Prop where
  converted_iff : request.status = .converted ↔
    request.bookings.length = 1 ∧ request.wonCount = 1
  cancelled : request.status = .cancelled → request.bookings = []
  oneSearching : (request.cycles.filter (fun cycle => cycle.status = .searching)).length ≤ 1
  oneOffered : ∀ cycle ∈ request.cycles, cycle.status = .searching →
    (cycle.attempts.filter (fun attempt => attempt.status = .offered)).length ≤ 1
  closedRequest : request.status ≠ .searching → ∀ cycle ∈ request.cycles,
    ∀ attempt ∈ cycle.attempts, attempt.status ≠ .offered ∧ attempt.status ≠ .accepting
  closedCycle : ∀ cycle ∈ request.cycles, cycle.status ≠ .searching →
    ∀ attempt ∈ cycle.attempts, attempt.status ≠ .offered ∧ attempt.status ≠ .accepting

theorem Valid.quiet {request : RideRequest} {cycle : SearchCycle} (valid : request.Valid)
    (member : cycle ∈ request.cycles) (h : cycle.status ≠ .searching) :
    ∀ attempt ∈ cycle.attempts, attempt.status ≠ .offered ∧ attempt.status ≠ .accepting := by
  intro attempt hmem
  have := ((valid.cycles cycle member).settled h).2 attempt hmem
  cases hstatus : attempt.status <;> simp_all [AttemptStatus.terminal]

theorem Valid.sound {request : RideRequest} (valid : request.Valid) : request.Sound where
  converted_iff := by
    constructor
    · intro h
      obtain ⟨hbooking, hwon, _⟩ := valid.converted h
      exact ⟨hbooking, hwon⟩
    · rintro ⟨hbooking, _⟩
      by_contra h
      simp [(valid.unconverted h).1] at hbooking
  cancelled h := (valid.unconverted (by simp [h])).1
  oneSearching := by
    cases hcycles : request.cycles with
    | nil => simp
    | cons first rest =>
      have hrest : rest.filter (fun cycle => cycle.status = .searching) = [] := by
        rw [List.filter_eq_nil_iff]
        intro cycle hmem
        simpa using valid.older cycle (by simpa [hcycles] using hmem)
      rw [List.filter_cons, hrest]
      split <;> simp
  oneOffered cycle hmem searching := by
    rcases (valid.cycles cycle hmem).offering searching with hnil |
      ⟨past, current, hattempts, hpast, _⟩
    · simp [hnil]
    · have hnone : past.filter (fun attempt => attempt.status = .offered) = [] := by
        rw [List.filter_eq_nil_iff]
        intro attempt hold
        have := hpast attempt hold
        cases hstatus : attempt.status <;> simp_all [AttemptStatus.terminal]
      rw [hattempts, List.filter_append, hnone, List.nil_append]
      exact List.length_filter_le _ _
  closedRequest h cycle hmem := valid.quiet hmem (valid.ended h cycle hmem)
  closedCycle _ hmem h := valid.quiet hmem h

end RideRequest

namespace DispatchDesk

/-- From the creation of a request on, along every run in which no session goes by an
outdated object, the rows are sound and what has ended stays as it is. -/
theorem dispatch_sound {start middle final : DispatchDesk} {first second : List Move}
    (created : start.Created) (reached : Run (Guarded Current step) start first middle)
    (later : Run (Guarded Current step) middle second final) :
    middle.request.Sound ∧ final.request.Sound ∧ middle.request.Settled final.request := by
  have valid := run_valid reached created.valid
  exact ⟨valid.sound, (run_valid later valid).sound, run_settled later valid⟩

/-- A request with its first cycle, open for five minutes. -/
def newRequest : DispatchDesk :=
  { request :=
      { userId := 7
        cycles := [{ cycleNumber := 1, status := .searching, deadline := some 300000000 }] } }

/-- Two candidates are ranked and the ride is offered to the first. -/
def search : Move :=
  .startSearch none [⟨some 1, some 11⟩, ⟨some 2, some 12⟩] (fun _ => 0)

/-- The driver accepts within the 25 seconds, and nothing stands in the way. -/
def accept (driverId vehicleId : ℕ) : Move :=
  .acceptOffer none none driverId vehicleId ⟨true, true, .fits, none, false⟩ (fun _ => 1000000)

/-- The first driver declines, the second accepts, and the rider, who sees it, cannot
cancel. -/
theorem dispatch_sound_accepted :
    let middle := (newRequest.after search).after (.declineOffer none 1 (fun _ => 500000))
    let final := (middle.after (accept 2 12)).after (.cancelRequest (some .converted) 7)
    final.request.status = .converted ∧
      middle.request.Sound ∧ final.request.Sound ∧ middle.request.Settled final.request := by
  intro middle final
  have start : newRequest.Created := ⟨rfl, rfl, rfl, _, rfl, rfl, rfl⟩
  have reached : Run (Guarded Current step) newRequest
      [search, .declineOffer none 1 (fun _ => 500000)] middle :=
    .cons ⟨trivial, rfl⟩ (.cons ⟨trivial, rfl⟩ (.nil _))
  have later : Run (Guarded Current step) middle
      [accept 2 12, .cancelRequest (some .converted) 7] final :=
    .cons ⟨current_of_fresh rfl, rfl⟩ (.cons ⟨nofun, rfl⟩ (.nil _))
  exact ⟨by decide +kernel, dispatch_sound start reached later⟩

/-- The rider's session loads the searching request and waits for the lock while the driver
accepts: the cancellation then goes through. -/
theorem converted_request_cancelled :
    ¬ ∀ (start final : DispatchDesk) (moves : List Move), start.Created →
      Run step start moves final → final.request.Sound := by
  intro h
  have sound := h newRequest _ [search, accept 1 11, .cancelRequest (some .searching) 7]
    ⟨rfl, rfl, rfl, _, rfl, rfl, rfl⟩ (Run.foldl after _ _)
  have booked := sound.cancelled (by decide +kernel)
  exact absurd booked (by decide +kernel)

end DispatchDesk

end Afcon360.Transport
