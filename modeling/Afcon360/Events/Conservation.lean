import Afcon360.Events.Registration

/-!
# Where the seats of a tier are

The seats of a limited tier are available, held, taken by a live registration, or in
between: taken from one of these places and not yet put into another. Every operation
moves seats from one place to another, so it is described by what it does to the seats in
between.
-/

namespace Afcon360.Events

open Foundation

namespace EventTables

variable {t t' : EventTables} {extra extra' : ℕ → ℕ} {k : ℕ} {tier new : TicketType}

variable {eventId quantity : ℕ} {place : ℕ} {row : Registration} {order : RegistrationOrder}
  {now : ℤ}

/-- The seats of the holds that still have them. -/
def held (t : EventTables) (k : ℕ) : ℕ :=
  load TicketHold.quantity (fun row => row.holding && decide (row.ticketTypeId = k)) t.holds

/-- The live registrations of a tier. -/
def live (t : EventTables) (k : ℕ) : ℕ :=
  load (fun _ => 1) (fun row => row.live && decide (row.ticketTypeId = k)) t.registrations

/-- Each seat of a limited tier is in one place; `extra` counts those in between. -/
def Balanced (t : EventTables) (extra : ℕ → ℕ) : Prop :=
  ∀ (k : ℕ) (tier : TicketType), t.ticketTypes[k]? = some tier → 0 < tier.capacity →
    ∃ available : ℤ, tier.availableSeats = some available ∧ 0 ≤ available ∧
      (tier.capacity : ℤ) = available + t.held k + t.live k + extra k

/-- Seats move between the tier and the seats in between. -/
theorem Balanced.setSeats (h : t.Balanced extra) (hk : t.ticketTypes[k]? = some tier)
    (hcapacity : new.capacity = tier.capacity)
    (hseats : 0 < tier.capacity → ∀ available, tier.availableSeats = some available →
      0 ≤ available → available + extra k ≤ tier.capacity →
      ∃ left : ℤ, new.availableSeats = some left ∧ 0 ≤ left ∧
        left + extra' k = available + extra k) (hother : ∀ j, j ≠ k → extra' j = extra j) :
    ({ t with ticketTypes := t.ticketTypes.set k new } : EventTables).Balanced extra' := by
  intro j other hj hlimited
  obtain ⟨rfl, rfl⟩ | ⟨hne, hold⟩ := getElem?_set_cases hj
  · rw [hcapacity] at hlimited
    obtain ⟨available, havailable, hpos, hsum⟩ := h j tier hk hlimited
    obtain ⟨left, hleft, hleft0, hmoved⟩ :=
      hseats hlimited available havailable hpos (by omega)
    refine ⟨left, hleft, hleft0, ?_⟩
    simp only [held, live] at hsum ⊢
    rw [hcapacity]
    omega
  · obtain ⟨available, havailable, hpos, hsum⟩ := h j other hold hlimited
    refine ⟨available, havailable, hpos, ?_⟩
    rw [hother j hne]
    exact hsum

/-- Seats move between a hold or a registration and the seats in between. -/
theorem Balanced.move (h : t.Balanced extra) (htiers : t'.ticketTypes = t.ticketTypes)
    (hmoved : ∀ j tier, t.ticketTypes[j]? = some tier → 0 < tier.capacity →
      t'.held j + t'.live j + extra' j = t.held j + t.live j + extra j) :
    t'.Balanced extra' := by
  intro j tier hj hlimited
  rw [htiers] at hj
  obtain ⟨available, havailable, hpos, hsum⟩ := h j tier hj hlimited
  refine ⟨available, havailable, hpos, ?_⟩
  have := hmoved j tier hj hlimited
  omega

theorem Balanced.appendTier (h : t.Balanced extra) (hnew : new.capacity = 0) :
    ({ t with ticketTypes := t.ticketTypes ++ [new] } : EventTables).Balanced extra := by
  intro j tier hj hlimited
  obtain hold | ⟨-, rfl⟩ := getElem?_append_cases hj
  · exact h j tier hold hlimited
  · omega

/-- `extra` with more seats of one tier. -/
def plus (extra : ℕ → ℕ) (k seats : ℕ) : ℕ → ℕ :=
  Function.update extra k (extra k + seats)

@[simp] theorem plus_self (extra : ℕ → ℕ) (k seats : ℕ) : plus extra k seats k = extra k + seats :=
  Function.update_self ..

theorem plus_other {j : ℕ} (h : j ≠ k) (seats : ℕ) : plus extra k seats j = extra j :=
  Function.update_of_ne h ..

/-- The seats in between matter for limited tiers only. -/
theorem Balanced.congr (h : t.Balanced extra)
    (hextra : ∀ k tier, t.ticketTypes[k]? = some tier → 0 < tier.capacity → extra' k = extra k) :
    t.Balanced extra' := by
  intro j tier hj hlimited
  rw [hextra j tier hj hlimited]
  exact h j tier hj hlimited

theorem Balanced.of_plus_zero (h : t.Balanced (plus extra k 0)) : t.Balanced extra := by
  have hzero : plus extra k 0 = extra := by simp [plus]
  rwa [hzero] at h

/-- Seats of a tier that does not count them. -/
theorem Balanced.plus_of_unlimited {seats : ℕ}
    (hk : ∀ tier, t.ticketTypes[k]? = some tier → ¬ 0 < tier.capacity) :
    t.Balanced (plus extra k seats) ↔ t.Balanced extra := by
  have hsame : ∀ j tier, t.ticketTypes[j]? = some tier → 0 < tier.capacity →
      plus extra k seats j = extra j := by
    intro j tier hj hlimited
    refine plus_other ?_ seats
    rintro rfl
    exact hk tier hj hlimited
  exact ⟨fun h => h.congr fun j tier hj hl => (hsame j tier hj hl).symm, fun h => h.congr hsame⟩

/-! ## Taking and returning -/

theorem sellable_eq_some {available : ℤ}
    (h : t.sellable eventId k quantity = some (tier, available)) :
    t.ticketTypes[k]? = some tier ∧ tier.availableSeats = some available ∧
      tier.eventId = eventId ∧ tier.isActive = true ∧ (quantity : ℤ) ≤ available := by
  obtain ⟨tier', htier, h⟩ := Option.bind_eq_some_iff.mp h
  obtain ⟨available', havailable, h⟩ := Option.bind_eq_some_iff.mp h
  split at h
  · rename_i hcond
    cases h
    exact ⟨htier, havailable, hcond⟩
  · cases h

theorem unsellable_eq_ok (h : t.unsellable eventId k quantity = .ok t') :
    t' = t ∧ ∃ tier, t.ticketTypes[k]? = some tier ∧ tier.eventId = eventId ∧
      tier.isActive = true ∧ tier.capacity = 0 := by
  unfold unsellable at h
  split at h
  · cases h
  · rename_i tier hfound
    obtain ⟨htier, hevent⟩ := Option.filter_eq_some_iff.mp hfound
    split at h
    · cases h
    rename_i hactive
    split at h
    · rename_i hcapacity
      cases h
      exact ⟨rfl, tier, htier, of_decide_eq_true hevent, by simpa using hactive, hcapacity⟩
    · dsimp only at h
      split at h <;> cases h

/-- What a decrement that went through has found and done. -/
theorem atomicDecrement_eq_ok (h : t.atomicDecrement eventId k quantity = .ok t') :
    1 ≤ quantity ∧
    (∃ event, t.events[eventId]? = some event ∧ ¬ (0 < event.maxCapacity ∧
      (event.maxCapacity : ℤ) < t.eventConsumedSeats eventId + quantity)) ∧
    ∃ tier, t.ticketTypes[k]? = some tier ∧ tier.eventId = eventId ∧ tier.isActive = true ∧
      ((tier.capacity = 0 ∧ t' = t) ∨
      ∃ available : ℤ, tier.availableSeats = some available ∧ (quantity : ℤ) ≤ available ∧
        t' = { t with
          ticketTypes := t.ticketTypes.set k
            { tier with availableSeats := some (available - quantity) } }) := by
  unfold atomicDecrement at h
  split at h
  · cases h
  rename_i hquantity
  split at h
  · cases h
  rename_i event hevent
  split at h
  · cases h
  rename_i hcap
  refine ⟨by omega, ⟨event, hevent, hcap⟩, ?_⟩
  split at h
  · rename_i tier available hfound
    obtain ⟨htier, havailable, hevent, hactive, hle⟩ := sellable_eq_some hfound
    cases h
    exact ⟨tier, htier, hevent, hactive, .inr ⟨available, havailable, hle, rfl⟩⟩
  · obtain ⟨rfl, tier, htier, hevent, hactive, hzero⟩ := unsellable_eq_ok h
    exact ⟨tier, htier, hevent, hactive, .inl ⟨hzero, rfl⟩⟩

/-- A reservation that went through is a decrement and a new hold on its seats. -/
theorem reserveCapacity_eq_ok {eventId quantity holdMinutes : ℕ} {userId : Option ℕ}
    {key : Option String}
    (h : t.reserveCapacity now eventId k quantity userId holdMinutes key = .ok t') :
    ∃ (u : EventTables) (row : TicketHold), t.atomicDecrement eventId k quantity = .ok u ∧
      row.ticketTypeId = k ∧ row.quantity = quantity ∧ row.holding = true ∧
      t' = { u with holds := u.holds ++ [row] } := by
  unfold reserveCapacity at h
  cases hdec : t.atomicDecrement eventId k quantity with
  | error e =>
    rw [hdec] at h
    cases h
  | ok u =>
    rw [hdec] at h
    cases h
    exact ⟨u, _, rfl, rfl, rfl, rfl, rfl⟩

/-- A seat that was taken for a registration: a decrement, or nothing where the tier does not
count its seats. -/
theorem takeSeat_eq_ok {eventId : ℕ} (h : t.takeSeat eventId k tier = .ok t') :
    t.atomicDecrement eventId k 1 = .ok t' ∨ ¬ 0 < tier.capacity ∧ t' = t := by
  unfold takeSeat at h
  split at h
  · cases hdec : t.atomicDecrement eventId k 1 with
    | error e =>
      rw [hdec] at h
      cases h
    | ok u =>
      rw [hdec] at h
      cases h
      exact .inl rfl
  · rename_i hunlimited
    cases h
    exact .inr ⟨hunlimited, rfl⟩

/-- A decrement puts the seats in between. -/
theorem Balanced.atomicDecrement (h : t.Balanced extra)
    (hok : t.atomicDecrement eventId k quantity = .ok t') :
      t'.Balanced (plus extra k quantity) := by
  obtain ⟨-, -, tier, htier, -, -, ⟨hzero, rfl⟩ | ⟨available, havailable, hle, rfl⟩⟩ :=
    atomicDecrement_eq_ok hok
  · refine (Balanced.plus_of_unlimited fun other hother => ?_).mpr h
    rw [htier] at hother
    cases hother
    omega
  · refine h.setSeats htier rfl ?_ (fun j hj => plus_other hj quantity)
    intro _ available' havailable' _ _
    rw [havailable] at havailable'
    cases havailable'
    exact ⟨available - quantity, rfl, by omega, by rw [plus_self]; push_cast; omega⟩

/-- An increment takes seats from in between. -/
theorem Balanced.incrementCapacity {quantity : ℕ} (h : t.Balanced (plus extra k quantity)) :
    (t.incrementCapacity k quantity).Balanced extra := by
  unfold EventTables.incrementCapacity
  split
  · rename_i hzero
    obtain rfl : quantity = 0 := by omega
    exact h.of_plus_zero
  split
  · rename_i hnone
    exact (Balanced.plus_of_unlimited (by simp [hnone])).mp h
  · rename_i tier htier
    split
    · refine h.setSeats htier rfl ?_ (fun j hj => (plus_other hj quantity).symm)
      intro _ available havailable hpos hle
      rw [plus_self] at hle ⊢
      push_cast at hle ⊢
      refine ⟨available + quantity, ?_, by omega, by omega⟩
      simp only [havailable, Option.getD_some, Option.some.injEq]
      omega
    · rename_i hunlimited
      refine (Balanced.plus_of_unlimited fun other hother => ?_).mp h
      rw [htier] at hother
      cases hother
      exact hunlimited

/-- The update that adds seats takes them from in between, where the tier is the event's. -/
theorem Balanced.addSeats {eventId seats : ℕ} (h : t.Balanced (plus extra k seats))
    (hevent : ∀ tier, t.ticketTypes[k]? = some tier → 0 < tier.capacity → tier.eventId = eventId) :
    (t.addSeats eventId k seats).Balanced extra := by
  unfold EventTables.addSeats
  split
  · rename_i hnone
    refine (Balanced.plus_of_unlimited fun tier htier hlimited => ?_).mp h
    simp [htier, hevent tier htier hlimited] at hnone
  · rename_i tier hfound
    obtain ⟨htier, -⟩ := Option.filter_eq_some_iff.mp hfound
    refine h.setSeats htier rfl ?_ (fun j hj => (plus_other hj seats).symm)
    intro _ available havailable hpos hle
    rw [plus_self] at hle ⊢
    push_cast at hle ⊢
    refine ⟨available + seats, ?_, by omega, by omega⟩
    simp only [havailable, Option.getD_some, Option.some.injEq]
    omega

theorem Balanced.handleCapacityReleased {seats : ℕ} (h : t.Balanced (plus extra k seats))
    (eventId : ℕ)
    (hevent : ∀ tier, t.ticketTypes[k]? = some tier → 0 < tier.capacity → tier.eventId = eventId) :
    (t.handleCapacityReleased eventId k seats).Balanced extra := by
  unfold EventTables.handleCapacityReleased
  split
  · rename_i hnone
    refine (Balanced.plus_of_unlimited fun tier htier hlimited => ?_).mp h
    simp [htier, hevent tier htier hlimited] at hnone
  · rename_i tier hfound
    obtain ⟨htier, -⟩ := Option.filter_eq_some_iff.mp hfound
    split
    · rename_i hzero
      have hunlimited : t.Balanced extra := by
        refine (Balanced.plus_of_unlimited fun other hother => ?_).mp h
        rw [htier] at hother
        cases hother
        omega
      exact hunlimited.setSeats htier rfl (fun hlimited => by omega) (fun _ _ => rfl)
    · exact h.addSeats hevent

/-! ## Holds -/

/-- A hold with its seats gets them from in between. -/
theorem Balanced.appendHold {row : TicketHold} (hrow : row.holding = true)
    (h : t.Balanced (plus extra row.ticketTypeId row.quantity)) :
    ({ t with holds := t.holds ++ [row] } : EventTables).Balanced extra := by
  refine h.move rfl fun j _ _ _ => ?_
  simp only [held, live, load_append, load_singleton, hrow, Bool.true_and, decide_eq_true_eq]
  by_cases hj : row.ticketTypeId = j
  · subst hj
    rw [plus_self, if_pos rfl]
    omega
  · rw [plus_other (Ne.symm hj), if_neg hj]
    omega

/-- A hold is rewritten: it keeps its seats, or they are in between. -/
theorem Balanced.modifyHold (h : t.Balanced extra) {row : TicketHold}
    {f : TicketHold → TicketHold} (hrow : t.holds[place]? = some row)
    (htier : (f row).ticketTypeId = row.ticketTypeId) (hquantity : (f row).quantity = row.quantity)
    (hextra : ∀ j, extra' j + (if (f row).holding && decide (row.ticketTypeId = j)
        then row.quantity else 0) =
      extra j + (if row.holding && decide (row.ticketTypeId = j) then row.quantity else 0)) :
    ({ t with holds := t.holds.modify place f } : EventTables).Balanced extra' := by
  refine h.move rfl fun j _ _ _ => ?_
  have hmodify := load_modify TicketHold.quantity
    (fun row => row.holding && decide (row.ticketTypeId = j)) f hrow
  simp only [load_singleton, htier, hquantity] at hmodify
  have hj := hextra j
  simp only [held, live]
  omega

theorem Balanced.markReleased (h : t.Balanced extra) (now : ℤ) (reason : Option String)
    {row : TicketHold} (hrow : t.holds[place]? = some row) (hholding : row.holding = true) :
    (t.markReleased now place reason).Balanced (plus extra row.ticketTypeId row.quantity) := by
  refine h.modifyHold hrow rfl rfl fun j => ?_
  have hgone : ({ row with
      status := .released
      releasedAt := some now
      releaseReason := reason } : TicketHold).holding = false := rfl
  simp only [hgone, hholding, Bool.false_and, Bool.true_and, Bool.false_eq_true, if_false,
    decide_eq_true_eq]
  by_cases hj : row.ticketTypeId = j
  · subst hj
    rw [plus_self, if_pos rfl]
    omega
  · rw [plus_other (Ne.symm hj), if_neg hj]

theorem Balanced.markConfirmed (h : t.Balanced extra) {row : TicketHold}
    {walletTxnId : Option String} {registrationId : Option ℕ} (hrow : t.holds[place]? = some row)
    (hholding : row.holding = true) :
    (t.markConfirmed place walletTxnId registrationId).Balanced extra := by
  refine h.modifyHold hrow rfl rfl fun j => ?_
  have hstill : ({ row with
      status := .confirmed
      walletTxnId := walletTxnId <|> row.walletTxnId
      convertedRegistrationId := registrationId <|> row.convertedRegistrationId
      releaseReason := some "Converted to registration" } : TicketHold).holding = true := rfl
  rw [hstill, hholding]

/-- The tier counts its seats. -/
def limited (t : EventTables) (k : ℕ) : Bool :=
  t.ticketTypes[k]?.any fun tier => decide (0 < tier.capacity)

theorem ne_of_not_limited {j : ℕ} (hk : t.limited k = false) (htier : t.ticketTypes[j]? = some tier)
    (hlimited : 0 < tier.capacity) : k ≠ j := by
  rintro rfl
  simp [limited, htier, hlimited] at hk

/-- A hold of an unlimited tier may become anything. -/
theorem Balanced.modifyHold_unlimited (h : t.Balanced extra) (row : TicketHold)
    {f : TicketHold → TicketHold} (hrow : t.holds[place]? = some row)
    (htier : (f row).ticketTypeId = row.ticketTypeId)
    (hunlimited : t.limited row.ticketTypeId = false) :
    ({ t with holds := t.holds.modify place f } : EventTables).Balanced extra := by
  refine h.move rfl fun j tier hj hlimited => ?_
  have hmodify := load_modify TicketHold.quantity
    (fun row => row.holding && decide (row.ticketTypeId = j)) f hrow
  simp [load_singleton, htier, ne_of_not_limited hunlimited hj hlimited] at hmodify
  simp only [held, live]
  omega

/-! ## Frames -/

@[simp] theorem incrementCapacity_holds (quantity : ℕ) :
    (t.incrementCapacity k quantity).holds = t.holds := by
  unfold EventTables.incrementCapacity
  repeat' split
  all_goals rfl

@[simp] theorem incrementCapacity_registrations (quantity : ℕ) :
    (t.incrementCapacity k quantity).registrations = t.registrations := by
  unfold EventTables.incrementCapacity
  repeat' split
  all_goals rfl

@[simp] theorem limited_incrementCapacity (j quantity : ℕ) :
    (t.incrementCapacity k quantity).limited j = t.limited j := by
  unfold EventTables.incrementCapacity
  split
  · rfl
  split
  · rfl
  rename_i tier htier
  split
  · simp only [limited]
    by_cases hj : k = j
    · subst hj
      have hlt := (List.getElem?_eq_some_iff.mp htier).1
      rw [htier, List.getElem?_set_self hlt]
      rfl
    · rw [List.getElem?_set_ne hj]
  · rfl

/-- Releasing an object that tells the truth about its row. -/
theorem Balanced.releaseHold (h : t.Balanced extra) {seen row : TicketHold}
    {reason : Option String} (hrow : t.holds[place]? = some row)
    (htier : seen.ticketTypeId = row.ticketTypeId) (hquantity : seen.quantity = row.quantity)
    (hstatus : seen.status = .reserved → t.limited row.ticketTypeId = true →
      row.holding = true) :
    (t.releaseHold now place seen reason).2.Balanced extra := by
  unfold EventTables.releaseHold
  split
  · exact h
  rename_i hreserved
  cases hlimited : t.limited row.ticketTypeId with
  | false =>
    have hback : (t.incrementCapacity seen.ticketTypeId seen.quantity).Balanced extra := by
      refine Balanced.incrementCapacity ((Balanced.plus_of_unlimited ?_).mpr h)
      intro tier htier' hpos
      rw [htier] at htier'
      exact ne_of_not_limited hlimited htier' hpos rfl
    refine hback.modifyHold_unlimited row (by simpa using hrow) rfl ?_
    simp only [limited_incrementCapacity, hlimited]
  | true =>
    have hholding := hstatus (not_not.mp hreserved) hlimited
    -- the seats come out of the hold and go back to the tier; the order does not matter
    have hreleased := h.markReleased now reason hrow hholding
    rw [← htier, ← hquantity] at hreleased
    have hback := hreleased.incrementCapacity
    refine hback.move ?_ fun j _ _ _ => ?_
    · simp only [EventTables.markReleased, EventTables.incrementCapacity]
      repeat' split
      all_goals rfl
    · simp only [held, live, EventTables.markReleased, incrementCapacity_holds,
        incrementCapacity_registrations]

/-! ## Pages -/

theorem mem_page {ρ : Type} {rows : List ρ} {due : ρ → Bool} {locked : ℕ → Bool}
    {after batch : ℕ} {entry : ρ × ℕ} (h : entry ∈ page rows due locked after batch) :
    rows[entry.2]? = some entry.1 ∧ due entry.1 = true := by
  obtain ⟨hmem, hcond⟩ := List.mem_filter.mp (List.mem_of_mem_take h)
  simp only [Bool.and_eq_true] at hcond
  exact ⟨List.mem_zipIdx_iff_getElem?.mp hmem, hcond.1.1⟩

theorem page_nodup {ρ : Type} (rows : List ρ) (due : ρ → Bool) (locked : ℕ → Bool)
    (after batch : ℕ) : ((page rows due locked after batch).map Prod.snd).Nodup := by
  have hplaces : (rows.zipIdx.map Prod.snd).Nodup := by
    rw [List.zipIdx_map_snd]
    exact List.nodup_range'
  exact hplaces.sublist (((List.take_sublist _ _).trans List.filter_sublist).map _)

/-- The holds of a page give their seats back. -/
theorem Balanced.releaseAll (now : ℤ) (rows : List (TicketHold × ℕ)) (h : t.Balanced extra)
    (nodup : (rows.map Prod.snd).Nodup)
    (hrows : ∀ entry ∈ rows, t.holds[entry.2]? = some entry.1 ∧ entry.1.holding = true) :
    (rows.foldl (fun t entry =>
      (t.releaseHold now entry.2 entry.1 (some "expired by beat")).2) t).Balanced extra := by
  induction rows generalizing t with
  | nil => exact h
  | cons entry rest ih =>
    obtain ⟨hhere, hholding⟩ := hrows entry List.mem_cons_self
    rw [List.map_cons, List.nodup_cons] at nodup
    refine ih (h.releaseHold hhere rfl rfl fun _ _ => hholding) nodup.2 fun other hother => ?_
    obtain ⟨hthere, hholding'⟩ := hrows other (List.mem_cons_of_mem _ hother)
    refine ⟨?_, hholding'⟩
    have hne : entry.2 ≠ other.2 := fun heq => nodup.1 (heq ▸ List.mem_map_of_mem hother)
    show (t.releaseHold now entry.2 entry.1 (some "expired by beat")).2.holds[other.2]? = _
    unfold EventTables.releaseHold
    split
    · exact hthere
    · simp only [EventTables.markReleased, incrementCapacity_holds,
        List.getElem?_modify_ne _ _ hne, hthere]

theorem Balanced.releaseExpiredTicketHolds (h : t.Balanced extra) (now : ℤ) (locked : ℕ → Bool)
    (after batch : ℕ) : (t.releaseExpiredTicketHolds now locked after batch).Balanced extra := by
  refine h.releaseAll now _ (page_nodup _ _ _ _ _) fun entry hentry => ?_
  obtain ⟨hrow, hdue⟩ := mem_page hentry
  refine ⟨hrow, ?_⟩
  simp only [decide_eq_true_eq] at hdue
  simp [TicketHold.holding, hdue.1]

/-! ## Registrations -/

/-- A live registration takes its seat from in between. -/
theorem Balanced.appendRegistration (hlive : row.live = true)
    (h : t.Balanced (plus extra row.ticketTypeId 1)) :
    ({ t with registrations := t.registrations ++ [row] } : EventTables).Balanced extra := by
  refine h.move rfl fun j _ _ _ => ?_
  simp only [held, live, load_append, load_singleton, hlive, Bool.true_and, decide_eq_true_eq]
  by_cases hj : row.ticketTypeId = j
  · subst hj
    rw [plus_self, if_pos rfl]
    omega
  · rw [plus_other (Ne.symm hj), if_neg hj]
    omega

/-- A live registration ends, and its seat is in between. -/
theorem Balanced.endRegistration (h : t.Balanced extra)
    {f : Registration → Registration} (hrow : t.registrations[place]? = some row)
    (hlive : row.live = true) (htier : (f row).ticketTypeId = row.ticketTypeId)
    (hended : (f row).live = false) :
    ({ t with registrations := t.registrations.modify place f } : EventTables).Balanced
      (plus extra row.ticketTypeId 1) := by
  refine h.move rfl fun j _ _ _ => ?_
  have hmodify := load_modify (fun _ : Registration => 1)
    (fun row => row.live && decide (row.ticketTypeId = j)) f hrow
  simp only [load_singleton, htier, hended, hlive, Bool.false_and, Bool.true_and,
    Bool.false_eq_true, if_false, decide_eq_true_eq] at hmodify
  simp only [held, live]
  by_cases hj : row.ticketTypeId = j
  · subst hj
    rw [if_pos rfl] at hmodify
    rw [plus_self]
    omega
  · rw [if_neg hj] at hmodify
    rw [plus_other (Ne.symm hj)]
    omega

/-- The rows of a page expire, and as many seats are in between. -/
theorem Balanced.expireRows (rows : List (Registration × ℕ)) (h : t.Balanced extra)
    (nodup : (rows.map Prod.snd).Nodup)
    (hrows : ∀ entry ∈ rows, t.registrations[entry.2]? = some entry.1 ∧ entry.1.live = true) :
    (t.expireRows rows).Balanced
      (fun k => extra k + rows.countP (fun entry => entry.1.ticketTypeId = k)) := by
  induction rows generalizing t extra with
  | nil => exact h
  | cons entry rest ih =>
    obtain ⟨hhere, hlive⟩ := hrows entry List.mem_cons_self
    rw [List.map_cons, List.nodup_cons] at nodup
    have hfirst := h.endRegistration
      (f := fun row => { row with paymentStatus := .expired, status := .expired })
      hhere hlive rfl rfl
    have hrest := ih hfirst nodup.2 fun other hother => by
      obtain ⟨hthere, hlive'⟩ := hrows other (List.mem_cons_of_mem _ hother)
      have hne : entry.2 ≠ other.2 := fun heq => nodup.1 (heq ▸ List.mem_map_of_mem hother)
      exact ⟨by simp only [List.getElem?_modify_ne _ _ hne, hthere], hlive'⟩
    refine hrest.congr fun j _ _ _ => ?_
    rw [List.countP_cons]
    by_cases hj : entry.1.ticketTypeId = j
    · subst hj
      simp only [plus_self, decide_true, if_true]
      omega
    · rw [plus_other (Ne.symm hj)]
      simp [hj]

/-- A registration of an unlimited tier may become anything. -/
theorem Balanced.modifyRegistration_unlimited (h : t.Balanced extra)
    {f : Registration → Registration} (hrow : t.registrations[place]? = some row)
    (htier : (f row).ticketTypeId = row.ticketTypeId)
    (hunlimited : t.limited row.ticketTypeId = false) :
    ({ t with registrations := t.registrations.modify place f } : EventTables).Balanced extra := by
  refine h.move rfl fun j tier hj hlimited => ?_
  have hmodify := load_modify (fun _ : Registration => 1)
    (fun row => row.live && decide (row.ticketTypeId = j)) f hrow
  simp [load_singleton, htier, ne_of_not_limited hunlimited hj hlimited] at hmodify
  simp only [held, live]
  omega

/-- Cancelling by an object that tells the truth about the tier of its row. -/
theorem Balanced.cancelRegistration (h : t.Balanced extra) {today : ℤ} {userId place : ℕ}
    {seen row : Registration} (hrow : t.registrations[place]? = some row)
    (htier : seen.ticketTypeId = row.ticketTypeId)
    (hlive : t.limited row.ticketTypeId = true → row.live = true)
    (hok : t.cancelRegistration today userId place seen = .ok t') : t'.Balanced extra := by
  unfold EventTables.cancelRegistration at hok
  split at hok
  · cases hok
  split at hok
  · cases hok
  split at hok
  · cases hok
  split at hok
  · cases hok
  dsimp only at hok
  rw [htier] at hok
  cases hlimited : t.limited row.ticketTypeId with
  | false =>
    have hended := h.modifyRegistration_unlimited
      (f := fun row => { row with status := .cancelled }) hrow rfl hlimited
    split at hok <;> cases hok
    · exact hended
    · rename_i tier htier'
      rw [if_neg fun hpos => ne_of_not_limited hlimited htier' hpos rfl]
      exact hended
  | true =>
    have hended := h.endRegistration (f := fun row => { row with status := .cancelled })
      hrow (hlive hlimited) rfl rfl
    split at hok <;> cases hok
    · rename_i hnone
      simp [limited, hnone] at hlimited
    · rename_i tier htier'
      have hpos : 0 < tier.capacity := by simpa [limited, htier'] using hlimited
      rw [if_pos hpos]
      exact hended.incrementCapacity

theorem chooseTier_eq_ok {event : Event} {eventId : ℕ}
    (hok : t.chooseTier event eventId order = .ok (t', k)) :
    (t' = t ∨ ∃ tier : TicketType, tier.capacity = 0 ∧
      t' = { t with ticketTypes := t.ticketTypes ++ [tier] }) ∧
    ∃ tier, t'.ticketTypes[k]? = some tier ∧ tier.eventId = eventId := by
  unfold EventTables.chooseTier at hok
  split at hok
  · split at hok
    · rename_i hfound
      cases hok
      obtain ⟨tier, htier, hcond⟩ := (Option.any_eq_true _ _).mp hfound
      simp only [decide_eq_true_eq] at hcond
      exact ⟨.inl rfl, tier, htier, hcond.1⟩
    · cases hok
  · split at hok
    · rename_i hfound
      cases hok
      obtain ⟨tier, htier, hcond⟩ := (Option.any_eq_true _ _).mp hfound
      simp only [decide_eq_true_eq] at hcond
      exact ⟨.inl rfl, tier, htier, hcond.1⟩
    split at hok
    · cases hok
    split at hok
    · cases hok
    · cases hok
      exact ⟨.inr ⟨_, rfl, rfl⟩, _, List.getElem?_concat_length, rfl⟩

theorem Balanced.takeSeat (h : t.Balanced extra) {eventId : ℕ}
    (htier : t.ticketTypes[k]? = some tier) (hok : t.takeSeat eventId k tier = .ok t') :
    t'.Balanced (plus extra k 1) := by
  obtain hdec | ⟨hunlimited, rfl⟩ := takeSeat_eq_ok hok
  · exact h.atomicDecrement hdec
  · refine (Balanced.plus_of_unlimited fun other hother => ?_).mpr h
    rw [htier] at hother
    cases hother
    exact hunlimited

theorem insertRegistration_eq_some (h : t.insertRegistration row = some t') :
    t.registrations.any (conflicts row) = false ∧
      t' = { t with registrations := t.registrations ++ [row] } := by
  unfold EventTables.insertRegistration at h
  split at h
  · cases h
  · rename_i hnone
    cases h
    exact ⟨by simpa using hnone, rfl⟩

/-- The parts of a registration that went through. -/
theorem registerForEventOptimistic_eq_ok (hok : t.registerForEventOptimistic now order = .ok t') :
    ∃ (event : Event) (eventId ticketTypeId : ℕ) (chosen taken : EventTables) (tier : TicketType)
      (row : Registration),
      t.events[eventId]? = some event ∧
      t.chooseTier event eventId order = .ok (chosen, ticketTypeId) ∧
      chosen.ticketTypes[ticketTypeId]? = some tier ∧
      chosen.takeSeat eventId ticketTypeId tier = .ok taken ∧
      taken.insertRegistration row = some t' ∧
      row.eventId = eventId ∧ row.ticketTypeId = ticketTypeId ∧ row.live = true := by
  unfold EventTables.registerForEventOptimistic at hok
  split at hok
  · cases hok
  rename_i eventId hslug
  split at hok
  · cases hok
  · cases hok
  rename_i event hevent hgate
  obtain ⟨⟨chosen, ticketTypeId⟩, hchoose, hok⟩ := bind_eq_ok.mp hok
  dsimp only at hok
  split at hok
  · cases hok
  · cases hok
  rename_i tier htier hdiscount
  unfold EventTables.enrol at hok
  split at hok
  · cases hok
  obtain ⟨taken, htake, hok⟩ := bind_eq_ok.mp hok
  dsimp only at hok
  split at hok
  · cases hok
  · rename_i after hinsert
    cases hok
    refine ⟨event, eventId, ticketTypeId, chosen, taken, tier, _, hevent, hchoose, htier, htake,
      hinsert, rfl, rfl, ?_⟩
    by_cases hprice : tier.price = 0
    · simp [RegistrationOrder.row, Registration.live, hprice]
    · simp [RegistrationOrder.row, Registration.live, hprice]

/-- Registering moves a seat from the tier to the new row. -/
theorem Balanced.registerForEventOptimistic (h : t.Balanced extra)
    (hok : t.registerForEventOptimistic now order = .ok t') :
    t'.Balanced extra := by
  obtain ⟨event, eventId, ticketTypeId, chosen, taken, tier, row, -, hchoose, htier, htake,
    hinsert, -, hrow, hlive⟩ := registerForEventOptimistic_eq_ok hok
  have hchosen : chosen.Balanced extra := by
    obtain rfl | ⟨new, hnew, rfl⟩ := (chooseTier_eq_ok hchoose).1
    · exact h
    · exact h.appendTier hnew
  obtain ⟨-, rfl⟩ := insertRegistration_eq_some hinsert
  have htaken := hchosen.takeSeat htier htake
  rw [← hrow] at htaken
  exact htaken.appendRegistration hlive

/-! ## Released capacity -/

/-- The seats of a tier in a list of released capacity. -/
def seatsOf (released : List ((ℕ × ℕ) × ℕ)) (k : ℕ) : ℕ :=
  load Prod.snd (fun entry => decide (entry.1.2 = k)) released

theorem seatsOf_bump (key : ℕ × ℕ) (counts : List ((ℕ × ℕ) × ℕ)) :
    seatsOf (bump key counts) k = seatsOf counts k + if key.2 = k then 1 else 0 := by
  induction counts with
  | nil => simp [bump, seatsOf, load_singleton]
  | cons entry rest ih =>
    obtain ⟨other, count⟩ := entry
    simp only [seatsOf, bump] at ih ⊢
    split
    · rename_i hkey
      subst hkey
      rw [load_cons _ _ rest, load_cons _ _ rest, load_singleton, load_singleton]
      by_cases hk : other.2 = k
      · simp only [hk, decide_true, if_true]
        omega
      · simp [hk]
    · rw [load_cons _ _ (bump key rest), load_cons _ _ rest, ih]
      omega

theorem seatsOf_capacityReleased (rows : List (Registration × ℕ)) :
    seatsOf (capacityReleased rows) k =
      rows.countP (fun entry => entry.1.ticketTypeId = k) := by
  have hfold : ∀ counts, seatsOf (rows.foldl (fun counts entry =>
      bump (entry.1.eventId, entry.1.ticketTypeId) counts) counts) k =
      seatsOf counts k + rows.countP (fun entry => entry.1.ticketTypeId = k) := by
    induction rows with
    | nil => exact fun _ => rfl
    | cons entry rest ih =>
      intro counts
      rw [List.foldl_cons, ih, seatsOf_bump, List.countP_cons]
      by_cases hk : entry.1.ticketTypeId = k
      · simp only [hk, decide_true, if_true]
        omega
      · simp [hk]
  exact (hfold []).trans (Nat.zero_add _)

theorem Balanced.expirePendingRegistrations (h : t.Balanced extra) (now : ℤ)
    (locked : ℕ → Bool) (after batch : ℕ) :
    (t.expirePendingRegistrations now locked after batch).1.Balanced (fun k =>
      extra k + seatsOf (t.expirePendingRegistrations now locked after batch).2 k) := by
  have hrows := h.expireRows (page t.registrations (overdue now) locked after batch)
    (page_nodup _ _ _ _ _) fun entry hentry => by
      obtain ⟨hrow, hdue⟩ := mem_page hentry
      simp only [overdue, decide_eq_true_eq] at hdue
      exact ⟨hrow, by simp [Registration.live, hdue.2.1]⟩
  refine hrows.congr fun j _ _ _ => ?_
  simp only [EventTables.expirePendingRegistrations, seatsOf_capacityReleased]

end EventTables

end Afcon360.Events
