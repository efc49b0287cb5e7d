import Afcon360.Foundation.Firsts
import Afcon360.Transport.DispatchRuns

/-!
# The order of the offers

A cycle goes through the distinct drivers of its pool, in the order of the snapshot: the
drivers tried are a prefix of them and the attempts are numbered from one. As long as it
searches, all offers but the last were passed on and the last one stands. So an offer that
is passed on makes the number of offers passed on grow by one, and when it reaches the
number of drivers there is nobody left and the cycle has expired.

This needs no session that goes by what it loads under the lock: it holds along every run
of the dispatch service.
-/

namespace Afcon360.Transport

open Foundation

/-- The offer went to the next driver: it was declined, ran out of time or could not be
claimed. -/
def AttemptStatus.passedOn : AttemptStatus → Bool
  | .declined => true
  | .timedOut => true
  | .claimFailed => true
  | _ => false

/-- What does not change of an attempt. -/
def OfferAttempt.key (attempt : OfferAttempt) : ℕ × ℕ × ℕ :=
  (attempt.driverId, attempt.vehicleId, attempt.attemptNumber)

namespace SearchCycle

/-- The drivers that the ride was offered to. -/
def tried (cycle : SearchCycle) : List ℕ := cycle.attempts.map OfferAttempt.driverId

/-- The distinct drivers of the snapshot, by rank. -/
def drivers (cycle : SearchCycle) : List ℕ :=
  ((cycle.rankedPool.getD []).map PoolItem.driverId).eraseDups

/-- How many offers were passed on. -/
def passed (cycle : SearchCycle) : ℕ :=
  cycle.attempts.countP (fun attempt => attempt.status.passedOn)

structure InOrder (cycle : SearchCycle) : Prop where
  unranked : cycle.rankedPool = none → cycle.attempts = []
  order : cycle.tried <+: cycle.drivers
  numbers : cycle.attempts.map OfferAttempt.attemptNumber = List.range' 1 cycle.attempts.length
  live : cycle.status ≠ .expired → cycle.rankedPool = none ∨
    ∃ past current, cycle.attempts = past ++ [current] ∧
      (∀ old ∈ past, old.status.passedOn) ∧ current.status.passedOn = false ∧
      (cycle.status = .searching ↔ current.status = .offered)
  expired : cycle.status = .expired → ∀ attempt ∈ cycle.attempts, attempt.status.passedOn

/-- The same cycle at a later time. -/
structure Continues (cycle later : SearchCycle) : Prop where
  number : later.cycleNumber = cycle.cycleNumber
  pool : ∀ pool, cycle.rankedPool = some pool → later.rankedPool = some pool
  offers : cycle.attempts.map OfferAttempt.key <+: later.attempts.map OfferAttempt.key

/-- A cycle that has an offer passes it on when it changes, unless a driver or the rider
ends the search. -/
def Advances (cycle next : SearchCycle) : Prop :=
  cycle.attempts ≠ [] →
    next.passed = cycle.passed + 1 ∨ next.status = .completed ∨ next.status = .cancelled

/-- A cycle after a transaction that changed it. -/
structure Turn (cycle next : SearchCycle) : Prop where
  searching : cycle.status = .searching
  continues : cycle.Continues next
  inOrder : next.InOrder
  advances : cycle.Advances next

variable {cycle next later : SearchCycle} {held : Option ℕ} {now insertedAt : ℤ}

variable {attempt : OfferAttempt} {candidate : PoolItem}

theorem Continues.refl (cycle : SearchCycle) : cycle.Continues cycle :=
  ⟨rfl, fun _ h => h, List.prefix_refl _⟩

theorem Continues.trans (first : cycle.Continues next) (second : next.Continues later) :
    cycle.Continues later :=
  ⟨second.number.trans first.number, fun pool h => second.pool pool (first.pool pool h),
    first.offers.trans second.offers⟩

/-! ## Rewriting the attempts -/

theorem map_driverId_of_key {attempts others : List OfferAttempt}
    (h : attempts.map OfferAttempt.key = others.map OfferAttempt.key) :
    attempts.map OfferAttempt.driverId = others.map OfferAttempt.driverId := by
  have := congrArg (List.map Prod.fst) h
  simpa [List.map_map, Function.comp_def, OfferAttempt.key] using this

theorem map_number_of_key {attempts others : List OfferAttempt}
    (h : attempts.map OfferAttempt.key = others.map OfferAttempt.key) :
    attempts.map OfferAttempt.attemptNumber = others.map OfferAttempt.attemptNumber := by
  have := congrArg (List.map (fun key => key.2.2)) h
  simpa [List.map_map, Function.comp_def, OfferAttempt.key] using this

variable {f : OfferAttempt → OfferAttempt}

theorem map_key_map {attempts : List OfferAttempt} (h : ∀ attempt, (f attempt).key = attempt.key) :
    (attempts.map f).map OfferAttempt.key = attempts.map OfferAttempt.key := by
  rw [List.map_map]
  exact List.map_congr_left (fun attempt _ => h attempt)

theorem passed_of_all (h : ∀ attempt ∈ cycle.attempts, attempt.status.passedOn) :
    cycle.passed = cycle.attempts.length :=
  List.countP_eq_length.mpr h

theorem passed_append {past : List OfferAttempt} {current : OfferAttempt}
    (hattempts : cycle.attempts = past ++ [current]) (hpast : ∀ old ∈ past, old.status.passedOn)
    (hcurrent : current.status.passedOn = false) : cycle.passed = past.length := by
  rw [passed, hattempts, List.countP_append, List.countP_eq_length.mpr hpast]
  simp [hcurrent]

/-- The last attempt of a searching cycle that has been ranked stands. -/
theorem InOrder.current (ordered : cycle.InOrder) (searching : cycle.status = .searching) :
    cycle.rankedPool = none ∨ ∃ past current, cycle.attempts = past ++ [current] ∧
      (∀ old ∈ past, old.status.passedOn) ∧ current.status = .offered := by
  obtain hnone | ⟨past, current, hattempts, hpast, -, hiff⟩ := ordered.live (by simp [searching])
  · exact .inl hnone
  · exact .inr ⟨past, current, hattempts, hpast, hiff.mp searching⟩

/-- An attempt of a searching cycle was passed on or stands. -/
theorem InOrder.passedOn_or_offered (ordered : cycle.InOrder)
    (searching : cycle.status = .searching) (member : attempt ∈ cycle.attempts) :
    attempt.status.passedOn = true ∨ attempt.status = .offered := by
  obtain hnone | ⟨past, current, hattempts, hpast, hcurrent⟩ := ordered.current searching
  · rw [ordered.unranked hnone] at member
    cases member
  · rw [hattempts, List.mem_append, List.mem_singleton] at member
    obtain hmem | rfl := member
    · exact .inl (hpast attempt hmem)
    · exact .inr hcurrent

/-- What stays when the outcomes of the attempts are rewritten. -/
theorem InOrder.rewrite (ordered : cycle.InOrder)
    (next : SearchCycle) (hkey : ∀ attempt, (f attempt).key = attempt.key)
    (hattempts : next.attempts = cycle.attempts.map f)
    (hpool : next.rankedPool = cycle.rankedPool) (hnumber : next.cycleNumber = cycle.cycleNumber)
    (hlive : next.status ≠ .expired → next.rankedPool = none ∨
      ∃ past current, next.attempts = past ++ [current] ∧
        (∀ old ∈ past, old.status.passedOn) ∧ current.status.passedOn = false ∧
        (next.status = .searching ↔ current.status = .offered))
    (hexpired : next.status = .expired → ∀ attempt ∈ next.attempts, attempt.status.passedOn) :
    cycle.Continues next ∧ next.InOrder := by
  have hkeys : next.attempts.map OfferAttempt.key = cycle.attempts.map OfferAttempt.key := by
    rw [hattempts, map_key_map hkey]
  refine ⟨⟨hnumber, fun _ h => hpool.trans h, by rw [hkeys]⟩, ?_, ?_, ?_, hlive, hexpired⟩
  · intro hnone
    simp [hattempts, ordered.unranked (hpool ▸ hnone)]
  · rw [tried, map_driverId_of_key hkeys, drivers, hpool]
    exact ordered.order
  · rw [map_number_of_key hkeys, hattempts, List.length_map]
    exact ordered.numbers

/-- A searching cycle expires: every attempt has been passed on. -/
theorem InOrder.expire {reason : Option TerminalReason}
    (ordered : cycle.InOrder) (searching : cycle.status = .searching)
    (hkey : ∀ attempt, (f attempt).key = attempt.key)
    (hpassed : ∀ attempt ∈ cycle.attempts, (f attempt).status.passedOn) :
    cycle.Turn { cycle with
      attempts := cycle.attempts.map f, status := .expired, terminalReason := reason } := by
  have hall : ∀ attempt ∈ cycle.attempts.map f, attempt.status.passedOn := by
    intro attempt hmem
    obtain ⟨old, hold, rfl⟩ := List.mem_map.mp hmem
    exact hpassed old hold
  obtain ⟨continues, inOrder⟩ := ordered.rewrite { cycle with
    attempts := cycle.attempts.map f, status := .expired, terminalReason := reason }
    hkey rfl rfl rfl (fun h => absurd rfl h) (fun _ => hall)
  refine ⟨searching, continues, inOrder, ?_⟩
  · intro hne
    left
    rw [passed_of_all hall]
    obtain hnone | ⟨past, current, hattempts, hpast, hcurrent⟩ := ordered.current searching
    · exact absurd (ordered.unranked hnone) hne
    · rw [passed_append hattempts hpast (by simp [hcurrent, AttemptStatus.passedOn])]
      simp [hattempts]

/-- A driver or the rider ends the search: the offer that stands gets its outcome. -/
theorem InOrder.finish {status : CycleStatus}
    {reason : Option TerminalReason} (ordered : cycle.InOrder)
    (searching : cycle.status = .searching) (hstatus : status = .completed ∨ status = .cancelled)
    (hkey : ∀ attempt, (f attempt).key = attempt.key)
    (hpast : ∀ attempt ∈ cycle.attempts, attempt.status.passedOn → (f attempt).status.passedOn)
    (hcurrent : ∀ attempt ∈ cycle.attempts, attempt.status = .offered →
      (f attempt).status.passedOn = false ∧ (f attempt).status ≠ .offered) :
    cycle.Turn { cycle with
      attempts := cycle.attempts.map f, status, terminalReason := reason } := by
  have hclosed : status ≠ .searching := by rcases hstatus with rfl | rfl <;> simp
  have hrewritten := ordered.rewrite { cycle with
    attempts := cycle.attempts.map f, status, terminalReason := reason } hkey rfl rfl rfl ?_ ?_
  · exact ⟨searching, hrewritten.1, hrewritten.2, fun _ => .inr hstatus⟩
  · intro _
    obtain hnone | ⟨past, current, hattempts, hold, hoffered⟩ := ordered.current searching
    · exact .inl hnone
    · have ended := hcurrent current (by simp [hattempts]) hoffered
      refine .inr ⟨past.map f, f current, by simp [hattempts], ?_, ended.1, ?_⟩
      · intro attempt hmem
        obtain ⟨old, hpresent, rfl⟩ := List.mem_map.mp hmem
        exact hpast old (by simp [hattempts, hpresent]) (hold old hpresent)
      · simp [hclosed, ended.2]
  · intro h
    rcases hstatus with rfl | rfl <;> cases h

/-! ## What a transaction does to a cycle -/

theorem InOrder.closeCycleAtDeadline (ordered : cycle.InOrder)
    (searching : cycle.status = .searching)
    (h : cycle.closeCycleAtDeadline held now = some next) : cycle.Turn next := by
  unfold SearchCycle.closeCycleAtDeadline at h
  split at h
  · cases h
    refine ordered.expire searching ?_ ?_
    · intro attempt
      split <;> rfl
    · intro attempt hmem
      obtain hpassed | hoffered := ordered.passedOn_or_offered searching hmem
      · split
        · rfl
        · exact hpassed
      · simp [hoffered, AttemptStatus.actionable, AttemptStatus.passedOn]
  · cases h

/-- The number after the last one. -/
theorem maxNumber_of_numbers
    (h : cycle.attempts.map OfferAttempt.attemptNumber = List.range' 1 cycle.attempts.length) :
    cycle.maxNumber = cycle.attempts.length := by
  have grows : ∀ (count start highest : ℕ), highest + 1 = start →
      (List.range' start count).foldl max highest + 1 = start + count := by
    intro count
    induction count with
    | zero =>
      intro start highest hstart
      simp [hstart]
    | succ count ih =>
      intro start highest hstart
      rw [List.range'_succ, List.foldl_cons, ih _ _ (by omega)]
      omega
  have hmax : cycle.maxNumber =
      (cycle.attempts.map OfferAttempt.attemptNumber).foldl max 0 := by
    rw [List.foldl_map]
    rfl
  have := grows cycle.attempts.length 1 0 rfl
  rw [hmax, h]
  omega

/-- The next candidate has the driver that comes after those tried. -/
theorem nextCandidate_driver (order : cycle.tried <+: cycle.drivers) :
    cycle.nextCandidate.map PoolItem.driverId = cycle.drivers[cycle.tried.length]? := by
  rw [drivers, ← map_find?_notMem order]
  congr 1
  unfold SearchCycle.nextCandidate
  congr 1
  funext item
  simp [tried, eq_comm]

/-- The next driver gets the ride, after attempts that were passed on. -/
theorem inOrder_insertOffer
    (searching : cycle.status = .searching) (ranked : cycle.rankedPool ≠ none)
    (order : cycle.tried ++ [candidate.driverId] <+: cycle.drivers)
    (numbers : cycle.attempts.map OfferAttempt.attemptNumber =
      List.range' 1 cycle.attempts.length)
    (hpassed : ∀ attempt ∈ cycle.attempts, attempt.status.passedOn) :
    (cycle.insertOffer candidate (cycle.attempts.length + 1) insertedAt).InOrder where
  unranked h := absurd h ranked
  order := by
    have htried : (cycle.insertOffer candidate (cycle.attempts.length + 1) insertedAt).tried =
        cycle.tried ++ [candidate.driverId] := by simp [insertOffer, tried]
    rw [htried]
    exact order
  numbers := by
    simp only [insertOffer, List.map_append, List.map_cons, List.map_nil, numbers,
      List.length_append, List.length_cons, List.length_nil, Nat.zero_add]
    rw [List.range'_1_concat, Nat.add_comm]
  live _ := .inr ⟨cycle.attempts, _, rfl, hpassed, rfl, by simp [insertOffer, searching]⟩
  expired h := by simp [insertOffer, searching] at h

/-- The next candidate gets the ride after the offer that stood was closed. -/
theorem InOrder.offerNext {closed : SearchCycle} (ordered : cycle.InOrder)
    (searching : cycle.status = .searching) (status : closed.status = cycle.status)
    (number : closed.cycleNumber = cycle.cycleNumber)
    (pool : closed.rankedPool = cycle.rankedPool) (ranked : cycle.rankedPool ≠ none)
    (keys : closed.attempts.map OfferAttempt.key = cycle.attempts.map OfferAttempt.key)
    (hpassed : ∀ attempt ∈ closed.attempts, attempt.status.passedOn)
    (grows : closed.attempts.length = cycle.passed + 1)
    (hcandidate : closed.nextCandidate = some candidate) :
    cycle.Turn (closed.insertOffer candidate (closed.maxNumber + 1) insertedAt) := by
  have htried : closed.tried = cycle.tried := map_driverId_of_key keys
  have hdrivers : closed.drivers = cycle.drivers := by rw [drivers, pool, drivers]
  have hlength : closed.attempts.length = cycle.attempts.length := by
    simpa using congrArg List.length keys
  have numbers : closed.attempts.map OfferAttempt.attemptNumber =
      List.range' 1 closed.attempts.length := by
    rw [map_number_of_key keys, hlength]
    exact ordered.numbers
  have order : closed.tried <+: closed.drivers := by
    rw [htried, hdrivers]
    exact ordered.order
  have hdriver := nextCandidate_driver order
  rw [hcandidate, Option.map_some] at hdriver
  rw [maxNumber_of_numbers numbers]
  refine
    { searching
      continues := ⟨number, fun known hknown => pool.trans hknown, ?_⟩
      inOrder := inOrder_insertOffer (status.trans searching) (pool ▸ ranked)
        (prefix_concat order hdriver.symm) numbers hpassed
      advances := fun _ => .inl ?_ }
  · simp only [insertOffer, List.map_append, keys]
    exact List.prefix_append _ _
  · have hnew : (closed.insertOffer candidate (closed.attempts.length + 1) insertedAt).passed =
        closed.attempts.length := passed_append rfl hpassed rfl
    rw [hnew, grows]

/-- Passing the offer of a searching cycle on. -/
theorem InOrder.advanceLocked {outcome : AttemptStatus}
    (ordered : cycle.InOrder) (searching : cycle.status = .searching)
    (member : attempt ∈ cycle.attempts) (actionable : attempt.status.actionable)
    (houtcome : outcome.passedOn) :
    cycle.Turn (cycle.advanceLocked held attempt.attemptNumber outcome now insertedAt) := by
  have standing : attempt.status.passedOn = false := by
    cases hstatus : attempt.status <;> simp_all [AttemptStatus.passedOn, AttemptStatus.actionable]
  -- The attempt is the last one.
  obtain ⟨past, hattempts, hpast⟩ : ∃ past, cycle.attempts = past ++ [attempt] ∧
      ∀ old ∈ past, old.status.passedOn := by
    obtain hnone | ⟨past, current, hattempts, hpast, -⟩ := ordered.current searching
    · rw [ordered.unranked hnone] at member
      cases member
    · rw [hattempts, List.mem_append, List.mem_singleton] at member
      obtain hmem | rfl := member
      · simp [hpast attempt hmem] at standing
      · exact ⟨past, hattempts, hpast⟩
  let close : OfferAttempt → OfferAttempt := fun other =>
    if other.attemptNumber = attempt.attemptNumber then { other with status := outcome } else other
  have hclosed : cycle.setStatus attempt.attemptNumber outcome =
      { cycle with attempts := cycle.attempts.map close } := rfl
  have hkey : ∀ other, (close other).key = other.key := by
    intro other
    simp only [close]
    split <;> rfl
  have hended : ∀ other ∈ cycle.attempts, (close other).status.passedOn := by
    intro other hmem
    simp only [close]
    split
    · exact houtcome
    · rename_i hother
      rw [hattempts, List.mem_append, List.mem_singleton] at hmem
      obtain hmem | rfl := hmem
      · exact hpast other hmem
      · exact absurd rfl hother
  unfold SearchCycle.advanceLocked
  simp only [hclosed]
  split
  · rename_i expired hexpired
    unfold SearchCycle.closeCycleAtDeadline at hexpired
    split at hexpired
    · cases hexpired
      simp only [List.map_map]
      refine ordered.expire searching ?_ ?_
      · intro other
        simp only [Function.comp_apply]
        split
        · exact hkey other
        · exact hkey other
      · intro other hmem
        simp only [Function.comp_apply]
        split
        · rfl
        · exact hended other hmem
    · cases hexpired
  split
  · exact ordered.expire searching hkey hended
  · rename_i candidate hcandidate
    refine ordered.offerNext searching rfl rfl rfl ?_ (map_key_map hkey) ?_ ?_ hcandidate
    · intro hnone
      simp [ordered.unranked hnone] at member
    · intro other hmem
      obtain ⟨old, hold, rfl⟩ := List.mem_map.mp hmem
      exact hended old hold
    · rw [List.length_map, passed_append hattempts hpast standing]
      simp [hattempts]

/-- The pool is ranked and its first candidate gets the ride. -/
theorem InOrder.offerFirst {ranked : List Candidate} {rest : List PoolItem}
    (ordered : cycle.InOrder) (searching : cycle.status = .searching)
    (unranked : cycle.rankedPool = none)
    (hpool : (cycle.snapshotPool ranked).rankedPool.getD [] = candidate :: rest) :
    cycle.Turn ((cycle.snapshotPool ranked).insertOffer candidate 1 insertedAt) := by
  have hattempts := ordered.unranked unranked
  have hready : (cycle.snapshotPool ranked).attempts = [] := hattempts
  refine
    { searching
      continues := ⟨rfl, fun pool h => by simp [unranked] at h, by simp [hattempts]⟩
      inOrder := ?_
      advances := fun h => absurd hattempts h }
  have order : (cycle.snapshotPool ranked).tried ++ [candidate.driverId] <+:
      (cycle.snapshotPool ranked).drivers := by
    rw [drivers, hpool, tried, hready, List.map_cons, List.eraseDups_cons]
    simp
  have inOrder := @inOrder_insertOffer (cycle.snapshotPool ranked) insertedAt candidate searching
    (by simp [snapshotPool]) order (by simp [hready]) (by simp [hready])
  simpa only [hready, List.length_nil, Nat.zero_add] using inOrder

/-- The pool is ranked and has no candidate. -/
theorem InOrder.expireEmpty {ranked : List Candidate} (ordered : cycle.InOrder)
    (searching : cycle.status = .searching) (unranked : cycle.rankedPool = none) :
    cycle.Turn { cycle.snapshotPool ranked with
      status := .expired, terminalReason := some .noSupply } := by
  have hattempts := ordered.unranked unranked
  refine
    { searching
      continues := ⟨rfl, fun pool h => by simp [unranked] at h, by simp [hattempts]⟩
      inOrder := ⟨?_, ?_, ?_, ?_, ?_⟩
      advances := fun h => absurd hattempts h }
  all_goals simp [snapshotPool, tried, hattempts]

theorem InOrder.withdraw (ordered : cycle.InOrder) (searching : cycle.status = .searching) :
    cycle.Turn (RideRequest.withdraw cycle) := by
  refine ordered.finish searching (.inr rfl) ?_ ?_ ?_
  · intro attempt
    split <;> rfl
  · intro attempt _ hpassed
    cases hstatus : attempt.status <;> simp_all [AttemptStatus.passedOn, AttemptStatus.actionable]
  · intro attempt _ hoffered
    simp [hoffered, AttemptStatus.actionable, AttemptStatus.passedOn]

/-- The driver who has the offer takes the ride. -/
theorem InOrder.won (ordered : cycle.InOrder)
    (searching : cycle.status = .searching) (member : attempt ∈ cycle.attempts)
    (offered : attempt.status = .offered) :
    cycle.Turn { cycle with
      attempts := cycle.attempts.map (fun other =>
        if other.attemptNumber = attempt.attemptNumber then { other with status := .won }
        else if other.status.actionable then { other with status := .skipped }
        else other)
      status := .completed
      terminalReason := none } := by
  refine ordered.finish searching (.inl rfl) ?_ ?_ ?_
  · intro other
    split
    · rfl
    · split <;> rfl
  · intro other hmem hpassed
    have hnumber : other.attemptNumber ≠ attempt.attemptNumber := by
      intro hsame
      have nodup : (cycle.attempts.map OfferAttempt.attemptNumber).Nodup := by
        rw [ordered.numbers]
        exact List.nodup_range'
      have := List.inj_on_of_nodup_map nodup hmem member hsame
      simp [this, offered, AttemptStatus.passedOn] at hpassed
    rw [if_neg hnumber]
    cases hstatus : other.status <;> simp_all [AttemptStatus.passedOn, AttemptStatus.actionable]
  · intro other _ hoffered
    split
    · simp [AttemptStatus.passedOn]
    · simp [hoffered, AttemptStatus.actionable, AttemptStatus.passedOn]

end SearchCycle

/-! ## What a transaction does to the cycles -/

namespace RideRequest

/-- The cycles of a request and those that became of them, below the ones opened since. -/
def Carried (rel : SearchCycle → SearchCycle → Prop) (cycles later : List SearchCycle) : Prop :=
  ∃ kept, kept <:+ later ∧ List.Forall₂ rel cycles kept

/-- What a transaction can do to the cycles. -/
inductive Shift (cycles : List SearchCycle) : List SearchCycle → Prop
  | same : Shift cycles cycles
  | turned {cycle next : SearchCycle} {rest : List SearchCycle} :
      cycles = cycle :: rest → cycle.Turn next → Shift cycles (next :: rest)
  | opened {new : SearchCycle} : new.status = .searching → new.rankedPool = none →
      new.attempts = [] → Shift cycles (new :: cycles)

/-- Every cycle is in order. -/
def Ordered (request : RideRequest) : Prop := ∀ cycle ∈ request.cycles, cycle.InOrder

variable {request new : RideRequest} {cycle : SearchCycle} {held : Option RequestStatus}
  {clock : ℕ → ℤ}

theorem Shift.commit {α : Type} {answer : Except DispatchFailure α}
    (shift : Shift request.cycles new.cycles) :
    Shift request.cycles (request.commit new answer).2.cycles := by
  unfold RideRequest.commit
  split
  · exact shift
  · exact .same

/-- The newest cycle takes its turn. -/
theorem shift_setCycle {next : SearchCycle} (head : request.cycleForRequest = some cycle)
    (turn : cycle.Turn next) : Shift request.cycles (request.setCycle next).cycles := by
  obtain ⟨rest, hcycles⟩ := cycles_of_cycleForRequest head
  have hnext : (request.setCycle next).cycles = next :: rest := by
    simp [RideRequest.setCycle, hcycles]
  rw [hnext]
  exact .turned hcycles turn

theorem Ordered.head (ordered : request.Ordered) (head : request.cycleForRequest = some cycle) :
    cycle.InOrder := by
  obtain ⟨rest, hcycles⟩ := cycles_of_cycleForRequest head
  exact ordered cycle (by simp [hcycles])

/-- A searching cycle in which no offer stands has not been ranked. -/
theorem Ordered.unranked (ordered : request.Ordered)
    (head : request.cycleForRequest = some cycle) (searching : cycle.status = .searching)
    (h : cycle.activeAttempt = none) : cycle.rankedPool = none := by
  obtain hnone | ⟨past, current, hattempts, _, hcurrent⟩ := (ordered.head head).current searching
  · exact hnone
  · have := List.find?_eq_none.mp h current (by simp [hattempts])
    simp [hcurrent, AttemptStatus.actionable] at this

theorem Ordered.live (ordered : request.Ordered)
    (head : request.cycleForRequest = some cycle) (live : Live cycle) :
    cycle.status = .searching := by
  have inOrder := ordered.head head
  obtain searching | ⟨attempt, member, offered⟩ := live
  · exact searching
  by_cases hexpired : cycle.status = .expired
  · have := inOrder.expired hexpired attempt member
    simp [offered, AttemptStatus.passedOn] at this
  · obtain hnone | ⟨past, current, hattempts, hpast, _, hiff⟩ := inOrder.live hexpired
    · rw [inOrder.unranked hnone] at member
      cases member
    · rw [hattempts, List.mem_append, List.mem_singleton] at member
      obtain hmem | rfl := member
      · have := hpast attempt hmem
        simp [offered, AttemptStatus.passedOn] at this
      · exact hiff.mpr offered

theorem CycleStep.shift {offer : Option (ℕ × ℕ)} (taken : CycleStep request offer clock new)
    (ordered : request.Ordered) : Shift request.cycles new.cycles := by
  cases taken with
  | same => exact .same
  | closed head live hclosed =>
    exact shift_setCycle head
      ((ordered.head head).closeCycleAtDeadline (ordered.live head live) hclosed)
  | passed head live member actionable houtcome =>
    refine shift_setCycle head
      ((ordered.head head).advanceLocked (ordered.live head live) member actionable ?_)
    rcases houtcome with rfl | rfl | rfl <;> rfl
  | noSupply head searching hactive =>
    exact shift_setCycle head
      ((ordered.head head).expireEmpty searching (ordered.unranked head searching hactive))
  | offered head searching hactive hpool =>
    exact shift_setCycle head
      ((ordered.head head).offerFirst searching (ordered.unranked head searching hactive) hpool)

theorem retrySearch_shift (ordered : request.Ordered) (ownerUserId : ℕ) (windowSeconds : ℤ) :
    Shift request.cycles (request.retrySearch held ownerUserId windowSeconds clock).2.cycles := by
  obtain taken | ⟨-, opened⟩ := retrySearch_step ownerUserId windowSeconds
  · exact taken.shift ordered
  · generalize (request.retrySearch held ownerUserId windowSeconds clock).2 = next at opened
    cases opened with
    | first head => exact .opened rfl rfl rfl
    | after head hended => exact .opened rfl rfl rfl

theorem cancelRequest_shift (ordered : request.Ordered) (ownerUserId : ℕ) :
    Shift request.cycles (request.cancelRequest held ownerUserId).2.cycles := by
  unfold cancelRequest
  split
  · exact .same
  split
  · exact .same
  · exact .same
  · exact .same
  refine Shift.commit ?_
  split
  · rename_i cycle head
    split
    · rename_i searching
      exact shift_setCycle head ((ordered.head head).withdraw searching)
    · exact .same
  · exact .same

theorem acceptOffer_shift (ordered : request.Ordered) (offer : Option (ℕ × ℕ))
    (driverId vehicleId : ℕ) (acceptance : Acceptance) :
    Shift request.cycles
      (request.acceptOffer held offer driverId vehicleId acceptance clock).2.cycles := by
  rcases acceptOffer_step offer driverId vehicleId acceptance with
    taken | ⟨cycle, attempt, head, searching, member, offered, hconverted⟩
  · exact taken.shift ordered
  · rw [hconverted]
    exact shift_setCycle head ((ordered.head head).won searching member offered)

/-! ## What holds of the cycles -/

/-- A cycle after one transaction. -/
def StepsTo (cycle next : SearchCycle) : Prop := next = cycle ∨ cycle.Turn next

theorem Shift.steps {later : List SearchCycle} (shift : Shift request.cycles later) :
    Carried StepsTo request.cycles later := by
  have unchanged : ∀ cycles : List SearchCycle, List.Forall₂ StepsTo cycles cycles := fun cycles =>
    List.forall₂_same.mpr (fun _ _ => .inl rfl)
  cases shift with
  | same => exact ⟨_, List.suffix_rfl, unchanged _⟩
  | turned hcycles turn =>
    rw [hcycles]
    exact ⟨_, List.suffix_rfl, .cons (.inr turn) (unchanged _)⟩
  | opened => exact ⟨_, List.suffix_cons _ _, unchanged _⟩

theorem Shift.ordered (shift : Shift request.cycles new.cycles) (ordered : request.Ordered) :
    new.Ordered := by
  unfold Ordered at *
  generalize new.cycles = cycles at shift
  cases shift with
  | same => exact ordered
  | turned hcycles turn =>
    intro cycle hmem
    obtain rfl | hmem := List.mem_cons.mp hmem
    · exact turn.inOrder
    · exact ordered cycle (by simp [hcycles, hmem])
  | opened searching unranked hattempts =>
    intro cycle hmem
    obtain rfl | hmem := List.mem_cons.mp hmem
    · exact ⟨fun _ => hattempts, by simp [SearchCycle.tried, hattempts], by simp [hattempts],
        fun _ => .inl unranked, by simp [hattempts]⟩
    · exact ordered cycle hmem

theorem Carried.mono {rel rel' : SearchCycle → SearchCycle → Prop} {cycles later : List SearchCycle}
    (carried : Carried rel cycles later) (h : ∀ cycle next, rel cycle next → rel' cycle next) :
    Carried rel' cycles later := by
  obtain ⟨kept, hlater, hkept⟩ := carried
  exact ⟨kept, hlater, hkept.imp h⟩

theorem forall₂_trans {rel : SearchCycle → SearchCycle → Prop}
    (trans : ∀ cycle next last, rel cycle next → rel next last → rel cycle last)
    {cycles middle later : List SearchCycle} (first : List.Forall₂ rel cycles middle)
    (second : List.Forall₂ rel middle later) : List.Forall₂ rel cycles later := by
  induction first generalizing later with
  | nil =>
    cases second
    exact .nil
  | cons hhead _ ih =>
    cases second with
    | cons hhead' htail' => exact .cons (trans _ _ _ hhead hhead') (ih htail')

theorem Carried.trans {rel : SearchCycle → SearchCycle → Prop}
    {cycles middle later : List SearchCycle}
    (trans : ∀ cycle next last, rel cycle next → rel next last → rel cycle last)
    (first : Carried rel cycles middle) (second : Carried rel middle later) :
    Carried rel cycles later := by
  obtain ⟨kept, hmiddle, hkept⟩ := first
  obtain ⟨kept', hlater, hkept'⟩ := second
  have hdrop := List.forall₂_drop (middle.length - kept.length) hkept'
  rw [← List.suffix_iff_eq_drop.mp hmiddle] at hdrop
  exact ⟨_, (List.drop_suffix _ _).trans hlater, forall₂_trans trans hkept hdrop⟩

theorem StepsTo.continues {next : SearchCycle} (h : StepsTo cycle next) :
    cycle.Continues next := by
  obtain rfl | turn := h
  · exact .refl _
  · exact turn.continues

end RideRequest

namespace DispatchDesk

open RideRequest

variable {s t : DispatchDesk} {move : Move} {moves : List Move}

theorem resume_shift (ordered : s.request.Ordered) (place : ℕ) (held : Option RequestStatus)
    (heldRow : RequestStatus × CycleStatus) (ranked : List Candidate) (clock : ℕ → ℤ) :
    Shift s.request.cycles (s.resume place held heldRow ranked clock).request.cycles := by
  unfold resume
  split
  · exact .same
  · exact (startSearch_step ranked).shift ordered
  · exact (recoverRow_step _ _ _).shift ordered
  · split
    · exact .same
    · exact .same
  · exact (passOffer_step _).shift ordered

theorem after_shift (ordered : s.request.Ordered) (move : Move) :
    Shift s.request.cycles (s.after move).request.cycles := by
  cases move with
  | startSearch held ranked clock => exact (startSearch_step ranked).shift ordered
  | retrySearch held ownerUserId windowSeconds clock =>
    have shift : Shift s.request.cycles
        (s.request.retrySearch held ownerUserId windowSeconds clock).2.cycles :=
      retrySearch_shift ordered ownerUserId windowSeconds
    simp only [after]
    split <;> simp_all
  | declineOffer held driverId clock => exact (declineOffer_step driverId).shift ordered
  | cancelRequest held ownerUserId => exact cancelRequest_shift ordered ownerUserId
  | acceptOffer held offer driverId vehicleId acceptance clock =>
    have shift : Shift s.request.cycles
        (s.request.acceptOffer held offer driverId vehicleId acceptance clock).2.cycles :=
      acceptOffer_shift ordered offer driverId vehicleId acceptance
    simp only [after]
    split <;> simp_all
  | recoverExpired batch now => exact .same
  | resume place held heldRow ranked clock =>
    exact resume_shift ordered place held heldRow ranked clock
  | crash place => exact .same

theorem run_ordered (run : Run step s moves t) (ordered : s.request.Ordered) :
    t.request.Ordered ∧ Carried SearchCycle.Continues s.request.cycles t.request.cycles := by
  refine run.invariant (fun desk => desk.request.Ordered ∧
    Carried SearchCycle.Continues s.request.cycles desk.request.cycles) ?_
    ⟨ordered, _, List.suffix_rfl, List.forall₂_same.mpr (fun cycle _ => .refl cycle)⟩
  rintro desk move _ ⟨ordered, carried⟩ rfl
  have shift := after_shift ordered move
  exact ⟨shift.ordered ordered, carried.trans (fun _ _ _ => SearchCycle.Continues.trans)
    (shift.steps.mono (fun _ _ => StepsTo.continues))⟩

/-- A request that was just created, its cycle not ranked. -/
def Unranked (s : DispatchDesk) : Prop :=
  s.Created ∧ ∀ cycle ∈ s.request.cycles, cycle.rankedPool = none

theorem Unranked.ordered (unranked : s.Unranked) : s.request.Ordered := by
  obtain ⟨⟨_, _, _, first, hcycles, _, hattempts⟩, hnone⟩ := unranked
  intro cycle hmem
  have hcycle := hnone cycle hmem
  rw [hcycles, List.mem_singleton] at hmem
  subst hmem
  exact ⟨fun _ => hattempts, by simp [SearchCycle.tried, hattempts], by simp [hattempts],
    fun _ => .inl hcycle, by simp [hattempts]⟩

end DispatchDesk

/-- What holds of a cycle in every state: the drivers tried are different and the first of
the pool, the attempts are numbered from one, and once as many offers were passed on as there
are drivers the cycle has expired. -/
structure SearchCycle.Dispatched (cycle : SearchCycle) : Prop where
  different : cycle.tried.Nodup
  order : cycle.tried <+: cycle.drivers
  numbers : cycle.attempts.map OfferAttempt.attemptNumber = List.range' 1 cycle.attempts.length
  bounded : cycle.passed ≤ cycle.drivers.length
  exhausted : cycle.rankedPool ≠ none → cycle.passed = cycle.drivers.length →
    cycle.status = .expired

theorem SearchCycle.InOrder.dispatched {cycle : SearchCycle} (ordered : cycle.InOrder) :
    cycle.Dispatched where
  different := ordered.order.sublist.nodup (nodup_eraseDups _)
  order := ordered.order
  numbers := ordered.numbers
  bounded := by
    have htried := ordered.order.length_le
    have hpassed : cycle.passed ≤ cycle.attempts.length := List.countP_le_length
    simp only [SearchCycle.tried, List.length_map] at htried
    omega
  exhausted hranked hpassed := by
    by_contra h
    obtain hnone | ⟨past, current, hattempts, hpast, hcurrent, -⟩ := ordered.live h
    · exact hranked hnone
    · have htried := ordered.order.length_le
      rw [SearchCycle.passed_append hattempts hpast hcurrent] at hpassed
      simp only [SearchCycle.tried, hattempts, List.length_map, List.length_append,
        List.length_cons] at htried
      omega

namespace DispatchDesk

open RideRequest

/-- From the creation of a request on, along every run: every cycle goes through its pool
in order; a later state has the same cycles, each with the same snapshot and its earlier
offers; and a move leaves a cycle as it is unless it is searching, and of a searching cycle
with an offer it passes one offer on or ends it with a booking or a cancellation. -/
theorem dispatch_in_order {start s t : DispatchDesk} {first second : List Move}
    (created : start.Unranked) (reached : Run step start first s) (later : Run step s second t) :
    (∀ cycle ∈ s.request.cycles, cycle.Dispatched) ∧
    Carried SearchCycle.Continues s.request.cycles t.request.cycles ∧
    ∀ move, Carried (fun cycle next => next = cycle ∨
        cycle.status = .searching ∧ cycle.Advances next)
      s.request.cycles (s.after move).request.cycles := by
  obtain ⟨ordered, -⟩ := run_ordered reached created.ordered
  refine ⟨fun cycle hmem => (ordered cycle hmem).dispatched, (run_ordered later ordered).2, ?_⟩
  intro move
  refine (after_shift ordered move).steps.mono ?_
  rintro cycle next (same | turn)
  · exact .inl same
  · exact .inr ⟨turn.searching, turn.advances⟩

/-- Three candidates, two of them with one driver, are ranked. The first driver declines and
the second lets the time run out: nobody is left, and the cycle has expired. -/
theorem dispatch_in_order_exhausted :
    let ranked := newRequest.after
      (.startSearch none [⟨some 1, some 11⟩, ⟨some 2, some 12⟩, ⟨some 1, some 13⟩] (fun _ => 0))
    let declined := ranked.after (.declineOffer none 1 (fun _ => 500000))
    let late := (declined.after (.recoverExpired 10 26000000)).after
      (.resume 0 none (.searching, .searching) [] (fun _ => 26000000))
    (declined.request.cycles.map SearchCycle.tried = [[1, 2]] ∧
      late.request.cycles.map (fun cycle => (cycle.status, cycle.passed)) = [(.expired, 2)]) ∧
    (∀ cycle ∈ declined.request.cycles, cycle.Dispatched) ∧
    Carried SearchCycle.Continues declined.request.cycles late.request.cycles ∧
    ∀ move, Carried (fun cycle next => next = cycle ∨
        cycle.status = .searching ∧ cycle.Advances next)
      declined.request.cycles (declined.after move).request.cycles := by
  intro ranked declined late
  have created : newRequest.Unranked := ⟨⟨rfl, rfl, rfl, _, rfl, rfl, rfl⟩, by simp [newRequest]⟩
  exact ⟨by decide +kernel,
    dispatch_in_order created (.cons rfl (.cons rfl (.nil _))) (.cons rfl (.cons rfl (.nil late)))⟩

end DispatchDesk

end Afcon360.Transport
