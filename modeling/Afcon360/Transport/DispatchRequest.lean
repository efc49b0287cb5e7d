import Afcon360.Transport.DispatchCycle

/-!
# One ride request

What a transaction of the dispatch service does to the rows of a request is one of six
things: nothing, a step of the searching cycle, a new cycle, a cancellation with or without
a searching cycle, or the conversion. Each keeps the rows valid and leaves alone what has
ended.
-/

namespace Afcon360.Transport

namespace RideRequest

/-- The number of won attempts. -/
def wonCount (request : RideRequest) : ℕ :=
  (request.cycles.flatMap SearchCycle.attempts).countP (fun attempt => attempt.status = .won)

structure Valid (request : RideRequest) : Prop where
  numbers : request.cycles.Pairwise (fun cycle older => older.cycleNumber < cycle.cycleNumber)
  cycles : ∀ cycle ∈ request.cycles, cycle.Valid
  older : ∀ cycle ∈ request.cycles.tail, cycle.status ≠ .searching
  ended : request.status ≠ .searching → ∀ cycle ∈ request.cycles, cycle.status ≠ .searching
  converting : request.status ≠ .converting
  converted : request.status = .converted → request.bookings.length = 1 ∧ request.wonCount = 1 ∧
    ∃ cycle, request.cycleForRequest = some cycle ∧ cycle.status = .completed
  unconverted : request.status ≠ .converted →
    request.bookings = [] ∧ ∀ cycle ∈ request.cycles, cycle.status ≠ .completed

/-- What a transaction can do. -/
inductive Change (request : RideRequest) : RideRequest → Prop
  | same : Change request request
  | cycle {cycle next : SearchCycle} : request.cycleForRequest = some cycle →
      cycle.status = .searching → cycle.Follows next → Change request (request.setCycle next)
  | retried {new : SearchCycle} : request.status = .searching →
      (∀ cycle ∈ request.cycles, cycle.status ≠ .searching ∧
        cycle.cycleNumber < new.cycleNumber) →
      new.status = .searching → new.attempts = [] →
      Change request { request with cycles := new :: request.cycles }
  | cancelled : request.status = .searching →
      (∀ cycle ∈ request.cycles, cycle.status ≠ .searching) →
      Change request { request with status := .cancelled }
  | withdrawn {cycle : SearchCycle} : request.cycleForRequest = some cycle →
      cycle.status = .searching →
      Change request { request.setCycle (withdraw cycle) with status := .cancelled }
  | converted {cycle : SearchCycle} {attempt : OfferAttempt} :
      request.cycleForRequest = some cycle → cycle.status = .searching →
      attempt ∈ cycle.attempts → attempt.status = .offered →
      Change request (request.convert cycle attempt)

variable {request next : RideRequest} {cycle : SearchCycle}

theorem cycles_of_cycleForRequest (h : request.cycleForRequest = some cycle) :
    ∃ rest, request.cycles = cycle :: rest := by
  unfold cycleForRequest at h
  cases hcycles : request.cycles with
  | nil => simp [hcycles] at h
  | cons first rest =>
    simp [hcycles] at h
    exact ⟨rest, by rw [h]⟩

theorem Valid.searching (valid : request.Valid) (head : request.cycleForRequest = some cycle)
    (searching : cycle.status = .searching) : request.status = .searching := by
  obtain ⟨rest, hcycles⟩ := cycles_of_cycleForRequest head
  by_contra h
  exact valid.ended h cycle (by simp [hcycles]) searching

/-- The newest cycle is closed only if all are. -/
theorem Valid.none_searching (valid : request.Valid)
    (head : ∀ cycle, request.cycleForRequest = some cycle → cycle.status ≠ .searching) :
    ∀ cycle ∈ request.cycles, cycle.status ≠ .searching := by
  intro cycle hmem
  cases hcycles : request.cycles with
  | nil => simp [hcycles] at hmem
  | cons first rest =>
    rw [hcycles, List.mem_cons] at hmem
    obtain rfl | hmem := hmem
    · exact head _ (by simp [cycleForRequest, hcycles])
    · exact valid.older cycle (by simpa [hcycles] using hmem)

theorem Valid.number_lt (valid : request.Valid) (head : request.cycleForRequest = some cycle) :
    ∀ other ∈ request.cycles, other.cycleNumber < cycle.cycleNumber + 1 := by
  obtain ⟨rest, hcycles⟩ := cycles_of_cycleForRequest head
  have numbers := valid.numbers
  rw [hcycles, List.pairwise_cons] at numbers
  intro other hmem
  rw [hcycles, List.mem_cons] at hmem
  obtain rfl | hmem := hmem
  · omega
  · have := numbers.1 other hmem
    omega

/-! ## Changes keep the rows valid -/

/-- The rows after the searching cycle was replaced. -/
theorem Valid.setCycle {new : SearchCycle} {status : RequestStatus} (valid : request.Valid)
    (head : request.cycleForRequest = some cycle) (searching : cycle.status = .searching)
    (follows : cycle.Follows new) (hstatus : status = .searching ∨ status = .cancelled)
    (hclosed : status = .cancelled → new.status ≠ .searching) :
    Valid { request.setCycle new with status } := by
  have open' := valid.searching head searching
  obtain ⟨rest, hcycles⟩ := cycles_of_cycleForRequest head
  have hcycles' : (request.setCycle new).cycles = new :: rest := by
    simp [RideRequest.setCycle, hcycles]
  have numbers := valid.numbers
  have older := valid.older
  rw [hcycles] at numbers older
  have unconverted := valid.unconverted (by simp [open'])
  refine
    { numbers := ?_, cycles := ?_, older := ?_, ended := ?_, converting := ?_, converted := ?_,
      unconverted := ?_ }
  · simp only [hcycles', List.pairwise_cons, follows.number]
    exact List.pairwise_cons.mp numbers
  · simp only [hcycles', List.mem_cons]
    rintro other (rfl | hmem)
    · exact follows.valid
    · exact valid.cycles other (by simp [hcycles, hmem])
  · simpa only [hcycles', List.tail_cons] using older
  · simp only [hcycles', List.mem_cons]
    rintro h other (rfl | hmem)
    · exact hclosed (hstatus.resolve_left h)
    · exact older other (by simpa using hmem)
  · rcases hstatus with rfl | rfl <;> simp
  · rcases hstatus with rfl | rfl <;> simp
  · intro _
    refine ⟨unconverted.1, ?_⟩
    simp only [hcycles', List.mem_cons]
    rintro other (rfl | hmem)
    · exact follows.unwon
    · exact unconverted.2 other (by simp [hcycles, hmem])

/-- The attempts of a won cycle. -/
theorem convert_attempts {attempt : OfferAttempt} (valid : cycle.Valid)
    (searching : cycle.status = .searching) (member : attempt ∈ cycle.attempts)
    (offered : attempt.status = .offered) :
    ∃ past, cycle.attempts = past ++ [attempt] ∧ (∀ old ∈ past, old.status.terminal) ∧
      cycle.attempts.map (fun other =>
        if other.attemptNumber = attempt.attemptNumber then { other with status := .won }
        else if other.status.actionable then { other with status := .skipped }
        else other) = past ++ [{ attempt with status := .won }] := by
  obtain ⟨past, hattempts, hpast, hnumbers, _⟩ :=
    valid.current searching member (by simp [offered, AttemptStatus.actionable])
  refine ⟨past, hattempts, hpast, ?_⟩
  rw [hattempts, SearchCycle.map_append_singleton]
  · simp
  · intro old hold
    simp [hnumbers old hold, hpast old hold]

theorem Valid.convert {attempt : OfferAttempt} (valid : request.Valid)
    (head : request.cycleForRequest = some cycle) (searching : cycle.status = .searching)
    (member : attempt ∈ cycle.attempts) (offered : attempt.status = .offered) :
    (request.convert cycle attempt).Valid := by
  have open' := valid.searching head searching
  obtain ⟨rest, hcycles⟩ := cycles_of_cycleForRequest head
  have hvalid : cycle.Valid := valid.cycles cycle (by simp [hcycles])
  obtain ⟨past, hattempts, hpast, hmap⟩ := convert_attempts hvalid searching member offered
  have unconverted := valid.unconverted (by simp [open'])
  have hpastUnwon : ∀ old ∈ past, old.status ≠ .won := fun old hold =>
    hvalid.unwon (by simp [searching]) old (by simp [hattempts, hold])
  have numbers := valid.numbers
  have older := valid.older
  rw [hcycles] at numbers older
  have hcycles' : (request.convert cycle attempt).cycles =
      { cycle with
        attempts := past ++ [{ attempt with status := .won }]
        status := .completed
        terminalReason := none } :: rest := by
    simp only [RideRequest.convert, RideRequest.setCycle, hmap, hcycles, List.tail_cons]
  refine
    { numbers := ?_, cycles := ?_, older := ?_, ended := ?_,
      converting := by simp [RideRequest.convert],
      converted := ?_, unconverted := fun h => absurd rfl h }
  · rw [hcycles', List.pairwise_cons]
    exact List.pairwise_cons.mp numbers
  · rw [hcycles']
    simp only [List.mem_cons]
    rintro other (rfl | hmem)
    · refine
        { numbers := ?_, settled := ?_, offering := ?_, unwon := fun h => absurd rfl h }
      · have := hvalid.numbers
        rw [hattempts, List.map_append] at this
        rw [List.map_append]
        exact this
      · intro _
        refine ⟨by simp, ?_⟩
        simp only [List.mem_append, List.mem_singleton]
        rintro old (hold | rfl)
        · exact hpast old hold
        · rfl
      · intro h
        cases h
    · exact valid.cycles other (by simp [hcycles, hmem])
  · simpa only [hcycles', List.tail_cons] using older
  · rw [hcycles']
    simp only [List.mem_cons]
    rintro _ other (rfl | hmem)
    · simp
    · exact older other (by simpa using hmem)
  · intro _
    refine ⟨by simp [RideRequest.convert, unconverted.1], ?_, _, rfl, rfl⟩
    have hrest : ∀ other ∈ rest, ∀ old ∈ other.attempts, old.status ≠ .won := by
      intro other hmem
      have hother : other ∈ request.cycles := by simp [hcycles, hmem]
      exact (valid.cycles other hother).unwon (unconverted.2 other hother)
    have hpastCount : past.countP (fun old => old.status = .won) = 0 := by
      rw [List.countP_eq_zero]
      simpa using hpastUnwon
    have hrestCount : (rest.flatMap SearchCycle.attempts).countP
        (fun old => old.status = .won) = 0 := by
      rw [List.countP_eq_zero]
      intro old hold
      obtain ⟨other, hother, hattempt⟩ := List.mem_flatMap.mp hold
      simpa using hrest other hother old hattempt
    simp only [wonCount, hcycles', List.flatMap_cons, List.countP_append, hpastCount, hrestCount]
    simp

theorem Change.valid (change : Change request next) (valid : request.Valid) : next.Valid := by
  cases change with
  | same => exact valid
  | cycle head searching follows =>
    have open' := valid.searching head searching
    have valid' : Valid { request.setCycle _ with status := request.status } :=
      valid.setCycle head searching follows (.inl open') (fun h => by simp [open'] at h)
    exact valid'
  | @retried new open' hclosed hsearching hattempts =>
    have unconverted := valid.unconverted (by simp [open'])
    refine
      { numbers := ?_, cycles := ?_, older := ?_, ended := fun h => absurd open' h,
        converting := valid.converting, converted := fun h => by simp [open'] at h,
        unconverted := ?_ }
    · exact List.pairwise_cons.mpr ⟨fun other hmem => (hclosed other hmem).2, valid.numbers⟩
    · simp only [List.mem_cons]
      rintro other (rfl | hmem)
      · exact
          { numbers := by simp [hattempts]
            settled := fun h => absurd hsearching h
            offering := fun _ => .inl hattempts
            unwon := by simp [hattempts] }
      · exact valid.cycles other hmem
    · exact fun other hmem => (hclosed other (by simpa using hmem)).1
    · intro _
      refine ⟨unconverted.1, ?_⟩
      simp only [List.mem_cons]
      rintro other (rfl | hmem)
      · simp [hsearching]
      · exact unconverted.2 other hmem
  | cancelled open' hclosed =>
    exact
      { numbers := valid.numbers, cycles := valid.cycles, older := valid.older
        ended := fun _ => hclosed
        converting := by simp
        converted := fun h => by cases h
        unconverted := fun _ => valid.unconverted (by simp [open']) }
  | withdrawn head searching =>
    obtain ⟨rest, hcycles⟩ := cycles_of_cycleForRequest head
    exact valid.setCycle head searching
      ((valid.cycles _ (by simp [hcycles])).withdraw searching) (.inr rfl)
      (fun _ => by simp [withdraw])
  | converted head searching member offered =>
    exact valid.convert head searching member offered

/-! ## Changes leave alone what has ended -/

structure Settled (request next : RideRequest) : Prop where
  rows : request.status = .converted ∨ request.status = .cancelled → next = request
  cycles : ∀ cycle ∈ request.cycles, cycle.status.active = false → cycle ∈ next.cycles
  attempts : ∀ cycle ∈ request.cycles, ∀ attempt ∈ cycle.attempts, attempt.status.terminal →
    ∃ later ∈ next.cycles, later.cycleNumber = cycle.cycleNumber ∧ attempt ∈ later.attempts

theorem Settled.refl (request : RideRequest) : Settled request request :=
  ⟨fun _ => rfl, fun _ hmem _ => hmem, fun cycle hmem _ hattempt _ => ⟨cycle, hmem, rfl, hattempt⟩⟩

theorem Settled.trans {middle : RideRequest} (first : Settled request middle)
    (second : Settled middle next) : Settled request next where
  rows h := by
    obtain rfl := first.rows h
    exact second.rows h
  cycles cycle hmem hclosed := second.cycles cycle (first.cycles cycle hmem hclosed) hclosed
  attempts cycle hmem attempt hattempt hended := by
    obtain ⟨between, hbetween, hnumber, hkept⟩ := first.attempts cycle hmem attempt hattempt hended
    obtain ⟨later, hlater, hnumber', hkept'⟩ := second.attempts between hbetween attempt
      hkept hended
    exact ⟨later, hlater, hnumber'.trans hnumber, hkept'⟩

/-- A request whose searching cycle was replaced. -/
theorem settled_of_cycle {new : SearchCycle} (valid : request.Valid)
    (head : request.cycleForRequest = some cycle) (searching : cycle.status = .searching)
    (hcycles : next.cycles = new :: request.cycles.tail)
    (hnumber : new.cycleNumber = cycle.cycleNumber)
    (keeps : ∀ attempt ∈ cycle.attempts, attempt.status.terminal → attempt ∈ new.attempts) :
    Settled request next := by
  obtain ⟨rest, hrest⟩ := cycles_of_cycleForRequest head
  rw [hrest, List.tail_cons] at hcycles
  refine ⟨?_, ?_, ?_⟩
  · intro h
    rw [valid.searching head searching] at h
    simp at h
  · intro other hmem hclosed
    rw [hrest, List.mem_cons] at hmem
    rw [hcycles, List.mem_cons]
    obtain rfl | hmem := hmem
    · simp [searching, CycleStatus.active] at hclosed
    · exact .inr hmem
  · intro other hmem attempt hattempt hended
    rw [hrest, List.mem_cons] at hmem
    obtain rfl | hmem := hmem
    · exact ⟨new, by simp [hcycles], hnumber, keeps attempt hattempt hended⟩
    · exact ⟨other, by simp [hcycles, hmem], rfl, hattempt⟩

theorem Change.settled (change : Change request next) (valid : request.Valid) :
    Settled request next := by
  cases change with
  | same => exact .refl request
  | cycle head searching follows =>
    exact settled_of_cycle valid head searching rfl follows.number follows.keeps
  | retried open' _ _ _ =>
    exact ⟨fun h => by simp [open'] at h, fun cycle hmem _ => List.mem_cons_of_mem _ hmem,
      fun cycle hmem attempt hattempt _ =>
        ⟨cycle, List.mem_cons_of_mem _ hmem, rfl, hattempt⟩⟩
  | cancelled open' _ =>
    exact ⟨fun h => by simp [open'] at h, fun _ hmem _ => hmem,
      fun cycle hmem _ hattempt _ => ⟨cycle, hmem, rfl, hattempt⟩⟩
  | withdrawn head searching =>
    obtain ⟨rest, hcycles⟩ := cycles_of_cycleForRequest head
    have follows := (valid.cycles _ (by simp [hcycles])).withdraw searching
    exact settled_of_cycle valid head searching rfl follows.number follows.keeps
  | @converted cycle attempt head searching member offered =>
    obtain ⟨rest, hcycles⟩ := cycles_of_cycleForRequest head
    obtain ⟨past, hattempts, _, hmap⟩ :=
      convert_attempts (valid.cycles cycle (by simp [hcycles])) searching member offered
    refine settled_of_cycle valid head searching rfl rfl ?_
    intro other hmem hended
    rw [hattempts, List.mem_append, List.mem_singleton] at hmem
    simp only [hmap, List.mem_append]
    obtain hmem | rfl := hmem
    · exact .inl hmem
    · simp [offered, AttemptStatus.terminal] at hended

end RideRequest

end Afcon360.Transport
