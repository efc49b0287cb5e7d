import Mathlib.Data.List.Nodup
import Afcon360.Transport.Dispatch

/-!
# One search cycle

A searching cycle either has no attempt yet or has one offer, its last attempt, after
attempts that have ended. Closing the cycle, passing the offer on and taking the cycle back
keep this, and they leave the attempts that have ended as they are.
-/

namespace Afcon360.Transport

@[simp] theorem AttemptStatus.not_actionable_of_terminal {status : AttemptStatus}
    (h : status.terminal = true) : status.actionable = false := by
  cases status <;> simp_all [AttemptStatus.terminal, AttemptStatus.actionable]

namespace SearchCycle

structure Valid (cycle : SearchCycle) : Prop where
  numbers : (cycle.attempts.map OfferAttempt.attemptNumber).Nodup
  settled : cycle.status ≠ .searching →
    cycle.status ≠ .converting ∧ ∀ attempt ∈ cycle.attempts, attempt.status.terminal
  offering : cycle.status = .searching → cycle.attempts = [] ∨
    ∃ past current, cycle.attempts = past ++ [current] ∧
      (∀ attempt ∈ past, attempt.status.terminal) ∧ current.status = .offered
  unwon : cycle.status ≠ .completed → ∀ attempt ∈ cycle.attempts, attempt.status ≠ .won

/-- A cycle that took the place of a searching one. -/
structure Follows (cycle next : SearchCycle) : Prop where
  number : next.cycleNumber = cycle.cycleNumber
  valid : next.Valid
  unwon : next.status ≠ .completed
  keeps : ∀ attempt ∈ cycle.attempts, attempt.status.terminal → attempt ∈ next.attempts

/-- What the session holds as offered is. -/
def HeldCurrent (cycle : SearchCycle) (held : Option ℕ) : Prop :=
  ∀ attempt ∈ cycle.attempts, held = some attempt.attemptNumber → attempt.status = .offered

variable {cycle next : SearchCycle} {held : Option ℕ} {now insertedAt : ℤ}

theorem heldCurrent_none : cycle.HeldCurrent none := by
  intro attempt _ h
  cases h

/-- An actionable attempt of a searching cycle is its last one, and the others have other
numbers. -/
theorem Valid.current (valid : cycle.Valid) (searching : cycle.status = .searching)
    {attempt : OfferAttempt} (member : attempt ∈ cycle.attempts)
    (actionable : attempt.status.actionable) :
    ∃ past, cycle.attempts = past ++ [attempt] ∧ (∀ old ∈ past, old.status.terminal) ∧
      (∀ old ∈ past, old.attemptNumber ≠ attempt.attemptNumber) ∧ attempt.status = .offered := by
  obtain hnil | ⟨past, current, hattempts, hpast, hcurrent⟩ := valid.offering searching
  · rw [hnil] at member
    cases member
  · have same : attempt = current := by
      rw [hattempts, List.mem_append, List.mem_singleton] at member
      obtain hmem | rfl := member
      · simp [hpast _ hmem] at actionable
      · rfl
    subst same
    refine ⟨past, hattempts, hpast, ?_, hcurrent⟩
    intro old hold hnumber
    have numbers := valid.numbers
    rw [hattempts, List.map_append, List.nodup_append] at numbers
    exact numbers.2.2 _ (List.mem_map_of_mem hold) _ (by simp) hnumber

theorem map_eq_self {attempts : List OfferAttempt} {f : OfferAttempt → OfferAttempt}
    (h : ∀ attempt ∈ attempts, f attempt = attempt) : attempts.map f = attempts :=
  (List.map_congr_left h).trans (List.map_id _)

theorem map_append_singleton {past : List OfferAttempt} {current : OfferAttempt}
    {f : OfferAttempt → OfferAttempt} (h : ∀ old ∈ past, f old = old) :
    (past ++ [current]).map f = past ++ [f current] := by
  rw [List.map_append, List.map_cons, List.map_nil, map_eq_self h]

/-- A cycle that closes with attempts that have all ended is valid. -/
theorem Valid.of_ended {status : CycleStatus} {reason : Option TerminalReason}
    {attempts : List OfferAttempt}
    (numbers : (attempts.map OfferAttempt.attemptNumber).Nodup)
    (ended : ∀ attempt ∈ attempts, attempt.status.terminal ∧ attempt.status ≠ .won)
    (hsearching : status ≠ .searching) (hconverting : status ≠ .converting) :
    Valid { cycle with attempts, status, terminalReason := reason } where
  numbers := numbers
  settled _ := ⟨hconverting, fun attempt h => (ended attempt h).1⟩
  offering h := absurd h hsearching
  unwon _ attempt h := (ended attempt h).2

/-- The attempts of a searching cycle after every one was given an outcome, unless it had
one. -/
theorem ended_of_map (valid : cycle.Valid) (searching : cycle.status = .searching)
    {f : OfferAttempt → OfferAttempt}
    (hnumber : ∀ attempt, (f attempt).attemptNumber = attempt.attemptNumber)
    (hterminal : ∀ attempt ∈ cycle.attempts, attempt.status.terminal → f attempt = attempt)
    (hoffered : ∀ attempt ∈ cycle.attempts, attempt.status = .offered →
      (f attempt).status.terminal ∧ (f attempt).status ≠ .won) :
    ((cycle.attempts.map f).map OfferAttempt.attemptNumber).Nodup ∧
    (∀ attempt ∈ cycle.attempts.map f, attempt.status.terminal ∧ attempt.status ≠ .won) ∧
    ∀ attempt ∈ cycle.attempts, attempt.status.terminal → attempt ∈ cycle.attempts.map f := by
  refine ⟨?_, ?_, ?_⟩
  · rw [List.map_map, show OfferAttempt.attemptNumber ∘ f = OfferAttempt.attemptNumber from
      funext hnumber]
    exact valid.numbers
  · intro attempt hmem
    obtain ⟨old, hold, rfl⟩ := List.mem_map.mp hmem
    have hunwon := valid.unwon (by simp [searching]) old hold
    by_cases hended : old.status.terminal
    · rw [hterminal old hold hended]
      exact ⟨hended, hunwon⟩
    · refine hoffered old hold ?_
      obtain hnil | ⟨past, current, hattempts, hpast, hcurrent⟩ := valid.offering searching
      · rw [hnil] at hold
        cases hold
      · rw [hattempts, List.mem_append, List.mem_singleton] at hold
        obtain hold | rfl := hold
        · exact absurd (hpast old hold) hended
        · exact hcurrent
  · intro attempt hmem hended
    exact List.mem_map.mpr ⟨attempt, hmem, hterminal attempt hmem hended⟩

theorem Valid.closeCycleAtDeadline (valid : cycle.Valid) (searching : cycle.status = .searching)
    (current : cycle.HeldCurrent held) (h : cycle.closeCycleAtDeadline held now = some next) :
    cycle.Follows next := by
  unfold SearchCycle.closeCycleAtDeadline at h
  split at h
  · cases h
    have ended := ended_of_map valid searching (f := fun attempt =>
        if attempt.status.actionable ∨ held = some attempt.attemptNumber then
          { attempt with status := .timedOut } else attempt)
      (by intro attempt; split <;> rfl)
      (by
        intro attempt hmem hended
        rw [if_neg]
        rintro (hactionable | hheld)
        · simp [hended] at hactionable
        · simp [current attempt hmem hheld, AttemptStatus.terminal] at hended)
      (by
        intro attempt _ hoffered
        simp [hoffered, AttemptStatus.actionable, AttemptStatus.terminal])
    exact ⟨rfl, .of_ended ended.1 ended.2.1 (by simp) (by simp), by simp, ended.2.2⟩
  · cases h

theorem Valid.withdraw (valid : cycle.Valid) (searching : cycle.status = .searching) :
    cycle.Follows (RideRequest.withdraw cycle) := by
  have ended := ended_of_map valid searching (f := fun attempt =>
      if attempt.status.actionable then { attempt with status := .withdrawn } else attempt)
    (by intro attempt; split <;> rfl)
    (by intro attempt _ hended; simp [hended])
    (by
      intro attempt _ hoffered
      simp [hoffered, AttemptStatus.actionable, AttemptStatus.terminal])
  exact ⟨rfl, .of_ended ended.1 ended.2.1 (by simp) (by simp), by simp [RideRequest.withdraw],
    ended.2.2⟩

theorem number_le_maxNumber {attempt : OfferAttempt} (member : attempt ∈ cycle.attempts) :
    attempt.attemptNumber ≤ cycle.maxNumber := by
  have grows : ∀ (attempts : List OfferAttempt) (start : ℕ),
      start ≤ attempts.foldl (fun highest attempt => max highest attempt.attemptNumber) start ∧
      ∀ attempt ∈ attempts, attempt.attemptNumber ≤
        attempts.foldl (fun highest attempt => max highest attempt.attemptNumber) start := by
    intro attempts
    induction attempts with
    | nil => intro start; simp
    | cons first rest ih =>
      intro start
      obtain ⟨hstart, hrest⟩ := ih (max start first.attemptNumber)
      simp only [List.foldl_cons, List.mem_cons]
      refine ⟨by omega, ?_⟩
      rintro attempt (rfl | hmem)
      · omega
      · exact hrest attempt hmem
  exact (grows cycle.attempts 0).2 attempt member

/-- A new offer after attempts that have ended. -/
theorem follows_insertOffer {candidate : PoolItem} {number : ℕ}
    (searching : next.status = .searching) (hnumber : next.cycleNumber = cycle.cycleNumber)
    (numbers : (next.attempts.map OfferAttempt.attemptNumber).Nodup)
    (ended : ∀ attempt ∈ next.attempts, attempt.status.terminal ∧ attempt.status ≠ .won)
    (keeps : ∀ attempt ∈ cycle.attempts, attempt.status.terminal → attempt ∈ next.attempts)
    (fresh : ∀ attempt ∈ next.attempts, attempt.attemptNumber ≠ number) :
    cycle.Follows (next.insertOffer candidate number insertedAt) where
  number := hnumber
  unwon := by simp [insertOffer, searching]
  keeps attempt hmem hended := by
    simp only [insertOffer, List.mem_append]
    exact .inl (keeps attempt hmem hended)
  valid :=
    { numbers := by
        simp only [insertOffer, List.map_append, List.map_cons, List.map_nil]
        refine List.Nodup.append numbers (by simp) ?_
        simp only [List.disjoint_singleton, List.mem_map, not_exists, not_and]
        exact fresh
      settled := fun h => absurd searching h
      offering := fun _ => .inr ⟨next.attempts, _, rfl, fun attempt h => (ended attempt h).1, rfl⟩
      unwon := by
        intro _ attempt hmem
        simp only [insertOffer, List.mem_append, List.mem_singleton] at hmem
        obtain hmem | rfl := hmem
        · exact (ended attempt hmem).2
        · simp }

/-- Passing the offer of a searching cycle on. -/
theorem Valid.advanceLocked {attempt : OfferAttempt} {outcome : AttemptStatus}
    (valid : cycle.Valid) (searching : cycle.status = .searching)
    (member : attempt ∈ cycle.attempts) (actionable : attempt.status.actionable)
    (houtcome : outcome.terminal) (hwon : outcome ≠ .won)
    (current : cycle.HeldCurrent held ∨ cycle.windowElapsed now = false) :
    cycle.Follows (cycle.advanceLocked held attempt.attemptNumber outcome now insertedAt) := by
  obtain ⟨past, hattempts, hpast, hnumbers, hoffered⟩ := valid.current searching member actionable
  have hclosed : (cycle.setStatus attempt.attemptNumber outcome).attempts =
      past ++ [{ attempt with status := outcome }] := by
    simp only [setStatus, hattempts]
    rw [map_append_singleton (fun old hold => by simp [hnumbers old hold])]
    simp
  generalize hc : cycle.setStatus attempt.attemptNumber outcome = closed at hclosed
  have hstatus : closed.status = .searching := by rw [← hc]; exact searching
  have hnumber : closed.cycleNumber = cycle.cycleNumber := by rw [← hc]; rfl
  have hdeadline : closed.deadline = cycle.deadline := by rw [← hc]; rfl
  have numbers : (closed.attempts.map OfferAttempt.attemptNumber).Nodup := by
    have := valid.numbers
    rw [hattempts, List.map_append] at this
    rw [hclosed, List.map_append]
    exact this
  have ended : ∀ other ∈ closed.attempts, other.status.terminal ∧ other.status ≠ .won := by
    intro other hmem
    rw [hclosed, List.mem_append, List.mem_singleton] at hmem
    obtain hmem | rfl := hmem
    · refine ⟨hpast other hmem, valid.unwon (by simp [searching]) other ?_⟩
      rw [hattempts]
      exact List.mem_append_left _ hmem
    · exact ⟨houtcome, hwon⟩
  have keeps : ∀ other ∈ cycle.attempts, other.status.terminal → other ∈ closed.attempts := by
    intro other hmem hended
    rw [hattempts, List.mem_append, List.mem_singleton] at hmem
    rw [hclosed, List.mem_append]
    obtain hmem | rfl := hmem
    · exact .inl hmem
    · simp [hoffered, AttemptStatus.terminal] at hended
  have hnone : ∀ other ∈ closed.attempts,
      (held.filter (· ≠ attempt.attemptNumber)) = some other.attemptNumber →
        cycle.windowElapsed now = false := by
    intro other hmem hheld
    rw [Option.filter_eq_some_iff] at hheld
    obtain current | hwindow := current
    · rw [hclosed, List.mem_append, List.mem_singleton] at hmem
      obtain hmem | rfl := hmem
      · have := current other (by rw [hattempts]; exact List.mem_append_left _ hmem) hheld.1
        simpa [this, AttemptStatus.terminal] using hpast other hmem
      · simp at hheld
    · exact hwindow
  unfold SearchCycle.advanceLocked
  simp only [hc]
  split
  · rename_i expired hexpired
    unfold SearchCycle.closeCycleAtDeadline at hexpired
    split at hexpired
    · rename_i helapsed
      cases hexpired
      have hmap : closed.attempts.map (fun other =>
          if other.status.actionable ∨
              held.filter (· ≠ attempt.attemptNumber) = some other.attemptNumber then
            { other with status := .timedOut } else other) = closed.attempts := by
        refine map_eq_self ?_
        intro other hmem
        rw [if_neg]
        rintro (hactionable | hheld)
        · simp [(ended other hmem).1] at hactionable
        · have := hnone other hmem hheld
          simp [windowElapsed, hdeadline] at helapsed this
          grind
      refine ⟨hnumber, .of_ended ?_ ?_ (by simp) (by simp), by simp, ?_⟩
      · rw [hmap]
        exact numbers
      · rw [hmap]
        exact ended
      · simp only [hmap]
        exact keeps
    · cases hexpired
  · split
    · exact ⟨hnumber, .of_ended numbers ended (by simp) (by simp), by simp, keeps⟩
    · refine follows_insertOffer hstatus hnumber numbers ended keeps ?_
      intro other hmem hsame
      have := number_le_maxNumber hmem
      omega

end SearchCycle

end Afcon360.Transport
