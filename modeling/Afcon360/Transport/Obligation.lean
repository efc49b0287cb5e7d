import Afcon360.Foundation.Run
import Afcon360.Transport.ReservationPolicy

/-!
# Callbacks delivered one after another

The payment side may deliver a callback more than once. The row remembers the reference of
the latest event only, so a replay is recognised as a duplicate as long as no other event
came in between. After that it is stopped by the transition table, unless its target is
still the state of the obligation: then the row takes the old reference back.

Between two deliveries the reservation may be cancelled or expire. What has been received
never decreases and the obligation only moves forward; this is also why a replay passes the
amount checks it has passed before.
-/

namespace Afcon360.Transport

open Foundation

/-- The amount of the event fits its column. -/
def ObligationEvent.amountFits (event : ObligationEvent) : Bool :=
  match event.amountReceived with
  | .decimal amount => fitsColumn (storedAmount amount)
  | _ => true

/-- What may happen to one reservation. `taken` says whether another reservation has the
reference of the event when the call commits. -/
inductive ReservationStep
  | event (event : ObligationEvent) (taken : Bool)
  | cancel
  | expire (now : ℤ)
deriving DecidableEq, Repr

namespace TransportReservation

/-- `apply_obligation_event` with nobody else at work on the row. -/
def deliver (taken : Bool) (event : ObligationEvent) (row : TransportReservation) :
    Except ReservationError TransportReservation :=
  match row.applyObligationEvent event with
  | .error error => .error error
  | .ok none => .ok row
  | .ok (some change) => row.record taken change

/-- The reservation after a step; a call that raises leaves it as it is. -/
def after (row : TransportReservation) : ReservationStep → TransportReservation
  | .event event taken =>
    match row.deliver taken event with
    | .error _ => row
    | .ok result => result
  | .cancel => if row.cancellable then { row with state := .cancelled } else row
  | .expire now => if row.expirable now then { row with state := .expired } else row

def run (row : TransportReservation) (steps : List ReservationStep) : TransportReservation :=
  steps.foldl after row

end TransportReservation

/-- The second row is the first one with the obligation, what was received and the
reference moved on. -/
structure Advance (old new : TransportReservation) : Prop where
  received : old.amountReceived ≤ new.amountReceived
  forward : old.obligationState.rank ≤ new.obligationState.rank
  deposit : new.depositAmount = old.depositAmount
  total : new.requiredTotalAmount = old.requiredTotalAmount
  required : new.requiredObligationForReserved = old.requiredObligationForReserved
  isDeleted : new.isDeleted = old.isDeleted

namespace Advance

theorem refl (row : TransportReservation) : Advance row row :=
  ⟨le_refl _, le_refl _, rfl, rfl, rfl, rfl⟩

theorem trans {old middle new : TransportReservation} (first : Advance old middle)
    (second : Advance middle new) : Advance old new where
  received := first.received.trans second.received
  forward := first.forward.trans second.forward
  deposit := second.deposit.trans first.deposit
  total := second.total.trans first.total
  required := second.required.trans first.required
  isDeleted := second.isDeleted.trans first.isDeleted

end Advance

theorem money_le_money {a b : ℤ} : money a ≤ money b ↔ a ≤ b := by
  unfold money
  rw [gridValue_le_iff (by decide), gridValue_mul (by decide)]
  exact Int.cast_le

theorem le_storedAmount {hundredths : ℤ} {amount : ℚ} (h : money hundredths ≤ amount) :
    hundredths ≤ storedAmount amount :=
  le_roundHalfUp ((gridValue_le_iff (by decide)).mp h)

theorem storedAmount_le {hundredths : ℤ} {amount : ℚ} (h : amount ≤ money hundredths) :
    storedAmount amount ≤ hundredths :=
  roundHalfUp_le ((le_gridValue_iff (by decide)).mp h)

@[simp] theorem storedAmount_money (hundredths : ℤ) :
  storedAmount (money hundredths) = hundredths :=
  roundHalfUp_gridValue (by decide)

namespace TransportReservation

variable {row later : TransportReservation} {event : ObligationEvent} {proposed : ℚ}
variable {change : ObligationChange} {result : TransportReservation} {taken : Bool}

variable {target : ReservationObligationState}

/-! ## What a delivery has passed -/

/-- The event passes the checks of its amount against the row. -/
structure Passes (row : TransportReservation) (event : ObligationEvent) (proposed : ℚ) : Prop where
  present : row.isDeleted = false
  amount : row.proposedReceived event = .ok proposed
  target : row.checkTarget event proposed = .ok ()

theorem received_le_proposed (h : row.proposedReceived event = .ok proposed) :
    money row.amountReceived ≤ proposed := by
  unfold proposedReceived at h
  split at h
  · cases h
  · split at h
    · cases h
    · cases h
      exact le_max_left _ _
  · split at h <;> cases h
    · exact le_max_left _ _
    · exact le_max_left _ _
    · exact le_refl _

/-- An event that did not raise has passed the checks; then it was a duplicate, or its
target can be reached. -/
theorem applyObligationEvent_eq_ok {outcome : Option ObligationChange}
    (h : row.applyObligationEvent event = .ok outcome) :
    ∃ proposed, row.Passes event proposed ∧
      (row.state.isTerminal = true → event.target = some row.obligationState) ∧
      ((row.isDuplicate event = true ∧ outcome = none) ∨
        ∃ target, row.isDuplicate event = false ∧ event.target = some target ∧
          (target = row.obligationState ∨ row.obligationState.rank < target.rank) ∧
          outcome = some (row.obligationChange event target proposed)) := by
  unfold applyObligationEvent at h
  by_cases hdel : row.isDeleted = true
  · simp [hdel] at h
  rw [if_neg hdel] at h
  by_cases hterm : row.state.isTerminal = true ∧ event.target ≠ some row.obligationState
  · simp [hterm] at h
  rw [if_neg hterm] at h
  have terminal : row.state.isTerminal = true → event.target = some row.obligationState := by
    intro hstate
    by_contra hne
    exact hterm ⟨hstate, hne⟩
  cases hamount : row.proposedReceived event with
  | error error => simp [hamount] at h
  | ok proposed =>
    simp only [hamount] at h
    cases htarget : row.checkTarget event proposed with
    | error error => simp [htarget] at h
    | ok _ =>
      simp only [htarget] at h
      refine ⟨proposed, ⟨by simpa using hdel, hamount, htarget⟩, terminal, ?_⟩
      cases hdup : row.isDuplicate event with
      | true =>
        simp only [hdup, if_true, Except.ok.injEq] at h
        exact .inl ⟨rfl, h.symm⟩
      | false =>
        simp only [hdup, Bool.false_eq_true, if_false] at h
        cases hevent : event.target with
        | none => simp [hevent] at h
        | some target =>
          simp only [hevent] at h
          by_cases hstep : target ≠ row.obligationState ∧
              target ∉ row.obligationState.transitions
          · simp [hstep] at h
          · rw [if_neg hstep] at h
            refine .inr ⟨target, rfl, rfl, ?_, by simpa using h.symm⟩
            rw [← ReservationObligationState.mem_transitions_iff]
            by_cases heq : target = row.obligationState
            · exact .inl heq
            · exact .inr (by_contra fun hmem => hstep ⟨heq, hmem⟩)

/-- The other way round: checks passed, no duplicate, the target reachable. -/
theorem applyObligationEvent_of_passes
    (passes : row.Passes event proposed) (hdup : row.isDuplicate event = false)
    (htarget : event.target = some target) (reach : target = row.obligationState ∨
      (row.state.isTerminal = false ∧ row.obligationState.rank < target.rank)) :
    row.applyObligationEvent event = .ok (some (row.obligationChange event target proposed)) := by
  have hterm : ¬ (row.state.isTerminal = true ∧ event.target ≠ some row.obligationState) := by
    rintro ⟨hstate, hne⟩
    obtain heq | ⟨hlive, _⟩ := reach
    · exact hne (by rw [htarget, heq])
    · simp [hlive] at hstate
  have hstep : ¬ (target ≠ row.obligationState ∧ target ∉ row.obligationState.transitions) := by
    rintro ⟨hne, hmem⟩
    obtain heq | ⟨_, hlt⟩ := reach
    · exact hne heq
    · exact hmem (ReservationObligationState.mem_transitions_iff.mpr hlt)
  unfold applyObligationEvent
  rw [if_neg (by simp [passes.present]), if_neg hterm]
  simp only [passes.amount, passes.target, hdup, htarget, Bool.false_eq_true, if_false]
  rw [if_neg hstep]

/-- A delivery that did not raise: the event changed nothing, which takes a reference, or
it was recorded. -/
theorem deliver_eq_ok (h : row.deliver taken event = .ok result) :
    ∃ proposed, row.Passes event proposed ∧
      ((event.reference.isSome = true ∧ result = row) ∨
        ∃ target, event.target = some target ∧
          (target = row.obligationState ∨ row.obligationState.rank < target.rank) ∧
          (row.obligationChange event target proposed).amountReceived.all fitsColumn = true ∧
          result = (row.obligationChange event target proposed).apply row) := by
  unfold deliver record at h
  cases hevent : row.applyObligationEvent event with
  | error error => simp [hevent] at h
  | ok outcome =>
    obtain ⟨proposed, passes, -, hdup | ⟨target, -, htarget, reach, rfl⟩⟩ :=
      applyObligationEvent_eq_ok hevent
    · obtain ⟨hdup, rfl⟩ := hdup
      simp only [hevent, Except.ok.injEq] at h
      unfold isDuplicate at hdup
      simp only [Bool.and_eq_true] at hdup
      exact ⟨proposed, passes, .inl ⟨hdup.1, h.symm⟩⟩
    · simp only [hevent] at h
      split at h
      · cases h
      · rename_i hfits
        split at h
        · rename_i hcollide
          cases h
          exact ⟨proposed, passes, .inl ⟨hcollide.2, rfl⟩⟩
        · cases h
          refine ⟨proposed, passes, .inr ⟨target, htarget, reach, ?_, rfl⟩⟩
          simpa [Option.any_eq_true_iff_get, Option.all_eq_true_iff_get] using hfits

/-! ## Forward only -/

theorem apply_amountReceived (target : ReservationObligationState) :
    ((row.obligationChange event target proposed).apply row).amountReceived =
      storedAmount proposed := by
  simp only [obligationChange, ObligationChange.apply]
  split
  · rename_i heq
    rw [heq, storedAmount_money]
    rfl
  · rfl

@[simp] theorem apply_obligationState (target : ReservationObligationState) :
    ((row.obligationChange event target proposed).apply row).obligationState = target := by
  simp only [obligationChange, ObligationChange.apply]
  split
  · rename_i heq
    exact heq.symm
  · rfl

theorem advance_apply (hamount : row.proposedReceived event = .ok proposed)
    (reach : target = row.obligationState ∨ row.obligationState.rank < target.rank) :
    Advance row ((row.obligationChange event target proposed).apply row) where
  received := by
    rw [apply_amountReceived]
    exact le_storedAmount (received_le_proposed hamount)
  forward := by
    rw [apply_obligationState]
    obtain rfl | hlt := reach
    · exact le_refl _
    · exact hlt.le
  deposit := rfl
  total := rfl
  required := rfl
  isDeleted := rfl

theorem advance_deliver (h : row.deliver taken event = .ok result) : Advance row result := by
  obtain ⟨proposed, passes, ⟨-, rfl⟩ | ⟨target, -, reach, -, rfl⟩⟩ := deliver_eq_ok h
  · exact .refl _
  · exact advance_apply passes.amount reach

theorem advance_after (row : TransportReservation) (step : ReservationStep) :
    Advance row (row.after step) := by
  cases step with
  | event event taken =>
    simp only [after]
    cases hdeliver : row.deliver taken event with
    | error error => exact .refl row
    | ok result => exact advance_deliver hdeliver
  | cancel =>
    simp only [after]
    split
    · exact ⟨le_refl _, le_refl _, rfl, rfl, rfl, rfl⟩
    · exact .refl row
  | expire now =>
    simp only [after]
    split
    · exact ⟨le_refl _, le_refl _, rfl, rfl, rfl, rfl⟩
    · exact .refl row

theorem advance_run (row : TransportReservation) (steps : List ReservationStep) :
    Advance row (row.run steps) := by
  refine Run.relation Advance .refl (fun _ _ _ => .trans) ?_ (Run.foldl after row steps)
  rintro row step _ rfl
  exact advance_after row step

/-! ## What every reached row satisfies -/

/-- A held reservation still waits for its policy, and all amounts fit their columns. -/
structure Reached (row : TransportReservation) : Prop where
  waits : row.state = .held → row.satisfiesReserved row.obligationState = false
  received : fitsColumn row.amountReceived = true
  amounts : row.fits = true

theorem reached_created {request : ReservationRequest} {digest : CanonicalRequest → String}
    {user : ℕ} {decision : PolicyDecision}
    (h : request.created digest user decision = .ok row) : row.Reached := by
  obtain ⟨hfits, rfl⟩ := ReservationRequest.created_eq_ok h
  refine ⟨?_, rfl, hfits⟩
  intro hheld
  by_cases hmem : ReservationObligationState.unpaid ∈ decision.requiredObligationForReserved
  · simp [hmem] at hheld
  · exact decide_eq_false hmem

theorem reached_after (reached : row.Reached) (step : ReservationStep) :
    (row.after step).Reached := by
  cases step with
  | event event taken =>
    simp only [after]
    cases hdeliver : row.deliver taken event with
    | error error => exact reached
    | ok result =>
      obtain ⟨proposed, passes, ⟨-, rfl⟩ | ⟨target, -, reach, hfits, rfl⟩⟩ :=
        deliver_eq_ok hdeliver
      · exact reached
      · refine ⟨?_, ?_, reached.amounts⟩
        · rw [apply_obligationState]
          intro hheld
          simp only [obligationChange, ObligationChange.apply] at hheld
          split at hheld
          · cases hheld
          · rename_i hpromote
            have hsat : ¬ row.satisfiesReserved target = true := fun h => hpromote ⟨hheld, h⟩
            exact Bool.eq_false_iff.mpr hsat
        · simp only [ObligationChange.apply]
          cases hchange : (row.obligationChange event target proposed).amountReceived with
          | none => exact reached.received
          | some amount => simpa [hchange] using hfits
  | cancel =>
    simp only [after]
    split
    · exact ⟨by simp, reached.received, reached.amounts⟩
    · exact reached
  | expire now =>
    simp only [after]
    split
    · exact ⟨by simp, reached.received, reached.amounts⟩
    · exact reached

theorem reached_run (reached : row.Reached) (steps : List ReservationStep) :
    (row.run steps).Reached := by
  refine Run.invariant Reached ?_ (Run.foldl after row steps) reached
  rintro row step _ hreached rfl
  exact reached_after hreached step

/-! ## Replays -/

/-- The proposed amount of an event on a later row: not less than it was, and nothing but
what has been received since can have raised it. -/
theorem proposedReceived_later (advance : Advance row later)
    (h : row.proposedReceived event = .ok proposed) :
    ∃ proposed', later.proposedReceived event = .ok proposed' ∧ proposed ≤ proposed' ∧
      proposed' ≤ max (money later.amountReceived) proposed := by
  have hle : money row.amountReceived ≤ money later.amountReceived :=
    money_le_money.mpr advance.received
  have raise : ∀ amount, max (money row.amountReceived) amount ≤
      max (money later.amountReceived) amount := fun amount => max_le_max_right amount hle
  have bound : ∀ amount, max (money later.amountReceived) amount ≤
      max (money later.amountReceived) (max (money row.amountReceived) amount) :=
    fun amount => max_le_max_left _ (le_max_right _ _)
  unfold proposedReceived at h ⊢
  rw [advance.deposit, advance.total]
  split at h
  · cases h
  · split at h
    · cases h
    · rename_i hneg
      cases h
      rw [if_neg hneg]
      exact ⟨_, rfl, raise _, bound _⟩
  · split at h <;> cases h
    · exact ⟨_, rfl, raise _, bound _⟩
    · exact ⟨_, rfl, raise _, bound _⟩
    · exact ⟨_, rfl, hle, le_max_left _ _⟩

theorem checkTarget_mono {proposed' : ℚ} (advance : Advance row later)
    (h : row.checkTarget event proposed = .ok ()) (hle : proposed ≤ proposed') :
    later.checkTarget event proposed' = .ok () := by
  unfold checkTarget at h ⊢
  rw [advance.deposit, advance.total]
  split at h
  · split at h
    · cases h
    · split at h
      · cases h
      · rename_i hlt
        exact if_neg fun hlt' => hlt (hle.trans_lt hlt')
  · split at h
    · cases h
    · split at h
      · cases h
      · rename_i hlt
        exact if_neg fun hlt' => hlt (hle.trans_lt hlt')
  · rfl

/-- A later row lets an event through that an earlier one has let through. -/
theorem passes_later (advance : Advance row later) (passes : row.Passes event proposed) :
    ∃ proposed', later.Passes event proposed' ∧
      proposed' ≤ max (money later.amountReceived) proposed := by
  obtain ⟨proposed', hamount, hle, hbound⟩ := proposedReceived_later advance passes.amount
  exact ⟨proposed', ⟨advance.isDeleted.trans passes.present, hamount,
    checkTarget_mono advance passes.target hle⟩, hbound⟩

theorem storedAmount_max (x y : ℚ) :
    storedAmount (max x y) = max (storedAmount x) (storedAmount y) :=
  (roundHalfUp_mono 100).map_max

theorem fitsColumn_max {a b : ℤ} (ha : fitsColumn a = true) (hb : fitsColumn b = true) :
    fitsColumn (max a b) = true := by
  rcases max_choice a b with h | h <;> rw [h] <;> assumption

/-- On a reached row the proposed amount fits its column if the amount of the event does. -/
theorem fitsColumn_proposed (reached : row.Reached) (hfits : event.amountFits = true)
    (h : row.proposedReceived event = .ok proposed) : fitsColumn (storedAmount proposed) =
      true := by
  have received := reached.received
  have amounts := reached.amounts
  simp only [fits, Bool.and_eq_true] at amounts
  unfold proposedReceived at h
  split at h
  · cases h
  · rename_i amount hamount
    simp only [ObligationEvent.amountFits, hamount] at hfits
    split at h
    · cases h
    · cases h
      rw [storedAmount_max, storedAmount_money]
      exact fitsColumn_max received hfits
  · split at h <;> cases h
    · rename_i hdeposit
      rw [storedAmount_max, storedAmount_money, storedAmount_money]
      exact fitsColumn_max received (by simpa [hdeposit] using amounts.2)
    · rename_i htotal
      rw [storedAmount_max, storedAmount_money, storedAmount_money]
      exact fitsColumn_max received (by simpa [htotal] using amounts.1)
    · rw [storedAmount_money]
      exact received

/-- An amount that does not fit is larger than what the row has, so it is written. -/
theorem overflow_of_not_amountFits (reached : row.Reached) (hfits : event.amountFits = false)
    (h : row.proposedReceived event = .ok proposed) (target : ReservationObligationState) :
    (row.obligationChange event target proposed).amountReceived.any
      (fun amount => !fitsColumn amount) = true := by
  unfold ObligationEvent.amountFits at hfits
  unfold proposedReceived at h
  cases hamount : event.amountReceived with
  | absent => simp [hamount] at hfits
  | malformed => simp [hamount] at hfits
  | decimal amount =>
    simp only [hamount] at h hfits
    split at h
    · cases h
    · rename_i hneg
      cases h
      have large : row.amountReceived < storedAmount amount := by
        have nonneg : 0 ≤ storedAmount amount := by
          refine le_storedAmount ?_
          simpa [money, gridValue] using hneg
        have hrow := reached.received
        simp only [fitsColumn, decide_eq_true_eq, decide_eq_false_iff_not] at hfits hrow
        omega
      have hmax : max (money row.amountReceived) amount = amount := by
        refine max_eq_right ?_
        by_contra hlt
        have := storedAmount_le (not_le.mp hlt).le
        omega
      have hne : amount ≠ money row.amountReceived := by
        rintro rfl
        simp at large
      simp [obligationChange, hmax, hne, hfits]

/-- The replays that write: the event has a reference which is not the remembered one, and
its target is where the obligation is or lies ahead of it. -/
def rewrites (row : TransportReservation) (event : ObligationEvent) : Bool :=
  event.reference.isSome && row.walletTransactionReference ≠ event.reference && event.amountFits &&
    (event.target = some row.obligationState ||
      (!row.state.isTerminal &&
        event.target.any (fun target => row.obligationState.rank < target.rank)))

theorem rewrites_iff :
    row.rewrites event = true ↔ event.reference.isSome = true ∧
      row.walletTransactionReference ≠ event.reference ∧ event.amountFits = true ∧
      ∃ target, event.target = some target ∧ (target = row.obligationState ∨
        (row.state.isTerminal = false ∧ row.obligationState.rank < target.rank)) := by
  cases htarget : event.target with
  | none => simp [rewrites, htarget]
  | some target => simp [rewrites, htarget, and_assoc]

/-- A replay that writes gives the row its own reference. -/
theorem after_of_rewrites (reached : row.Reached) (passes : row.Passes event proposed)
    (h : row.rewrites event = true) : row.after (.event event false) ≠ row := by
  obtain ⟨href, hne, hfits, target, htarget, reach⟩ := rewrites_iff.mp h
  have hdup : row.isDuplicate event = false := by simp [isDuplicate, hne]
  have fits : ¬ (row.obligationChange event target proposed).amountReceived.any
      (fun amount => !fitsColumn amount) = true := by
    have := fitsColumn_proposed reached hfits passes.amount
    simp only [obligationChange]
    split <;> simp [this]
  have hdeliver : row.deliver false event =
      .ok ((row.obligationChange event target proposed).apply row) := by
    simp [deliver, record, applyObligationEvent_of_passes passes hdup htarget reach, fits]
  intro hsame
  simp only [after, hdeliver] at hsame
  have href' := congrArg walletTransactionReference hsame
  obtain ⟨reference, href⟩ := Option.isSome_iff_exists.mp href
  simp only [ObligationChange.apply, obligationChange, href] at href'
  exact hne (by rw [href]; exact href'.symm)

/-- A recorded event without a reference leaves nothing to write for its replay. -/
theorem apply_eq_self (reached : row.Reached)
    (href : event.reference = none) (htarget : target = row.obligationState)
    (hamount : storedAmount proposed = row.amountReceived) :
    (row.obligationChange event target proposed).apply row = row := by
  have hstate : ¬ (row.state = .held ∧ row.satisfiesReserved target = true) := by
    rintro ⟨hheld, hsat⟩
    rw [htarget, reached.waits hheld] at hsat
    cases hsat
  have hreceived : ((row.obligationChange event target proposed).apply row).amountReceived =
      row.amountReceived := (apply_amountReceived target).trans hamount
  simp only [obligationChange, ObligationChange.apply] at hreceived ⊢
  simp [href, htarget ▸ hstate, htarget, hreceived]

/-- An event without a reference that did not raise was recorded: on a later row its target
is not ahead and its amount has been received. -/
theorem recorded_of_no_reference {first : TransportReservation}
    (processed : first.deliver taken event = .ok row)
    (advance : Advance row later) (href : event.reference = none)
    (htarget : event.target = some target)
    (reach : target = later.obligationState ∨ later.obligationState.rank < target.rank)
    (hamount : later.proposedReceived event = .ok proposed) :
    target = later.obligationState ∧ storedAmount proposed = later.amountReceived := by
  obtain ⟨proposed₀, passes, ⟨hsome, -⟩ | ⟨target₀, htarget₀, reach₀, -, rfl⟩⟩ :=
    deliver_eq_ok processed
  · simp [href] at hsome
  obtain rfl : target = target₀ := by
    rw [htarget, Option.some.injEq] at htarget₀
    exact htarget₀
  have hforward := advance.forward
  have hreceived := advance.received
  rw [apply_obligationState] at hforward
  rw [apply_amountReceived] at hreceived
  constructor
  · obtain heq | hlt := reach
    · exact heq
    · omega
  · obtain ⟨proposed', hamount', -, hbound⟩ :=
      proposedReceived_later ((advance_apply passes.amount reach₀).trans advance) passes.amount
    obtain rfl : proposed = proposed' := by
      rw [hamount, Except.ok.injEq] at hamount'
      exact hamount'
    refine le_antisymm ?_ (le_storedAmount (received_le_proposed hamount))
    calc storedAmount proposed ≤ storedAmount (max (money later.amountReceived) proposed₀) :=
          roundHalfUp_mono 100 hbound
      _ = max later.amountReceived (storedAmount proposed₀) := by
          rw [storedAmount_max, storedAmount_money]
      _ = later.amountReceived := max_eq_left hreceived

/-- A reference that is neither remembered nor too large an amount: only a collision keeps
the change from being written. -/
theorem rewrites_of_change (reached : row.Reached)
    (passes : row.Passes event proposed) (href : event.reference.isSome = true)
    (hdup : row.isDuplicate event = false) (htarget : event.target = some target)
    (terminal : row.state.isTerminal = true → event.target = some row.obligationState)
    (reach : target = row.obligationState ∨ row.obligationState.rank < target.rank)
    (hfits : ¬ (row.obligationChange event target proposed).amountReceived.any
      (fun amount => !fitsColumn amount) = true) : row.rewrites event = true := by
  refine rewrites_iff.mpr ⟨href, by simpa [isDuplicate, href] using hdup, ?_, target, htarget, ?_⟩
  · by_contra hlarge
    exact hfits (overflow_of_not_amountFits reached (by simpa using hlarge) passes.amount target)
  · obtain heq | hlt := reach
    · exact .inl heq
    · refine .inr ⟨?_, hlt⟩
      by_contra hterm
      have hsame := terminal (by simpa using hterm)
      rw [htarget, Option.some.injEq] at hsame
      simp [hsame] at hlt

/-- Any other replay of an event that did not raise leaves the later row as it is. -/
theorem after_of_not_rewrites {first : TransportReservation} {taken' : Bool}
    (processed : first.deliver taken event = .ok row) (advance : Advance row later)
    (reached : later.Reached) (h : ¬ (later.rewrites event = true ∧ taken' = false)) :
    later.after (.event event taken') = later := by
  simp only [after, deliver, record]
  cases hevent : later.applyObligationEvent event with
  | error error => rfl
  | ok outcome =>
    obtain ⟨proposed, passes, terminal, ⟨-, rfl⟩ | ⟨target, hdup, htarget, reach, rfl⟩⟩ :=
      applyObligationEvent_eq_ok hevent
    · rfl
    · by_cases hfits : (later.obligationChange event target proposed).amountReceived.any
          (fun amount => !fitsColumn amount) = true
      · simp only [hfits, if_true]
      · cases href : event.reference with
        | some reference =>
          have hrewrites := rewrites_of_change reached passes (by simp [href]) hdup htarget
            terminal reach hfits
          have htaken : taken' = true := by simpa [hrewrites] using h
          have hwritten : (later.obligationChange event target
              proposed).walletTransactionReference.isSome = true := by
            simp [obligationChange, href]
          simp only [hfits, Bool.false_eq_true, if_false, htaken, hwritten, and_self, if_true]
        | none =>
          obtain ⟨hsame, hamount⟩ := recorded_of_no_reference processed advance href htarget
            reach passes.amount
          have hnot : ¬ (taken' = true ∧ (later.obligationChange event target
              proposed).walletTransactionReference.isSome = true) := by
            simp [obligationChange, href]
          simp only [hfits, Bool.false_eq_true, if_false, hnot]
          exact apply_eq_self reached href hsame hamount

end TransportReservation

/-- Whatever happens to a reservation after its creation, what has been received never
decreases and the obligation only moves forward. A callback that has been processed and is
delivered again at any later point leaves the reservation exactly as it was unless it
rewrites the reference of the row. -/
theorem callbacks_replay (request : ReservationRequest) (digest : CanonicalRequest → String)
    (user : ℕ) (decision : PolicyDecision) (row : TransportReservation)
    (created : request.created digest user decision = .ok row) :
    (∀ steps more, (row.run steps).amountReceived ≤ (row.run (steps ++ more)).amountReceived ∧
      (row.run steps).obligationState.rank ≤ (row.run (steps ++ more)).obligationState.rank) ∧
    (∀ steps event taken result more again,
      (row.run steps).deliver taken event = .ok result →
      ((result.run more).after (.event event again) = result.run more ↔
        ¬ ((result.run more).rewrites event = true ∧ again = false))) := by
  constructor
  · intro steps more
    have advance : Advance (row.run steps) (row.run (steps ++ more)) := by
      have := TransportReservation.advance_run (row.run steps) more
      simpa [TransportReservation.run] using this
    exact ⟨advance.received, advance.forward⟩
  · intro steps event taken result more again processed
    have reached : result.Reached := by
      have := TransportReservation.reached_after
        (TransportReservation.reached_run (TransportReservation.reached_created created) steps)
        (.event event taken)
      simpa [TransportReservation.after, processed] using this
    have advance := TransportReservation.advance_run result more
    have reachedLater := TransportReservation.reached_run reached more
    constructor
    · rintro hsame ⟨hrewrites, rfl⟩
      obtain ⟨proposed, passes, -⟩ := TransportReservation.deliver_eq_ok processed
      obtain ⟨proposed', passes', -⟩ := TransportReservation.passes_later
        ((TransportReservation.advance_deliver processed).trans advance) passes
      exact TransportReservation.after_of_rewrites reachedLater passes' hrewrites hsame
    · exact TransportReservation.after_of_not_rewrites processed advance reachedLater

/-! ## Two deposits -/

/-- A request for one vehicle of a provider, to be paid by a deposit. -/
def depositRequest : ReservationRequest where
  actor := some 7
  offeringCode := "van"
  providerType := "organisation"
  providerId := 3
  windowStart := ⟨1000, some 0⟩
  windowEnd := ⟨2000, some 0⟩
  requiredQuantity := 1
  mode := "capacity"
  idempotencyKey := "key"
  paymentMethod := some "WALLET"
  paymentTiming := some "DEPOSIT"
  estimatedValue := some ⟨100, 0⟩

def depositDecision : PolicyDecision where
  requiresDeposit := true
  depositAmount := some 20
  depositDueAt := some 500
  requiredObligationForReserved := PaymentTiming.deposit.requiredObligation
  commercialPolicyRef := none

def depositReservation : TransportReservation :=
  { depositRequest.draft (fun _ => "") 7 depositDecision with state := .held }

def firstDeposit : ObligationEvent := ⟨some .deposited, some "wallet-1", .decimal 20⟩

def secondDeposit : ObligationEvent := ⟨some .deposited, some "wallet-2", .decimal 30⟩

theorem callbacks_replay_deposits :
    (∀ steps more, (depositReservation.run steps).amountReceived ≤
        (depositReservation.run (steps ++ more)).amountReceived ∧
      (depositReservation.run steps).obligationState.rank ≤
        (depositReservation.run (steps ++ more)).obligationState.rank) ∧
    (∀ steps event taken result more again,
      (depositReservation.run steps).deliver taken event = .ok result →
      ((result.run more).after (.event event again) = result.run more ↔
        ¬ ((result.run more).rewrites event = true ∧ again = false))) :=
  callbacks_replay depositRequest (fun _ => "") 7 depositDecision depositReservation
    (by decide +kernel)

/-- The first of two deposits delivered again: the row takes its reference back. -/
theorem replay_rewrites_reference :
    ∃ result, depositReservation.deliver false firstDeposit = .ok result ∧
      (result.run [.event secondDeposit false]).after (.event firstDeposit false) ≠
        result.run [.event secondDeposit false] :=
  ⟨depositReservation.after (.event firstDeposit false), by decide +kernel, by decide +kernel⟩

end Afcon360.Transport
