import Mathlib.Algebra.BigOperators.Ring.Finset
import Afcon360.Events.TicketOffice

/-!
# Sold out

Three answers to whether a tier has a seat left: the public snapshot counts the registrations
that are confirmed or checked in, the inventory has a counter and the seats of the event, and
the registration with payment counts every registration there is.

Seats are somewhere: in the counter, in a hold, in a live registration or still to be returned.
So what the counter says can be said with the rows.
-/

namespace Afcon360.Events

open Foundation

/-- When a tier is on sale. -/
structure SaleWindow where
  availableFrom : Option ℤ := none
  availableUntil : Option ℤ := none
deriving DecidableEq

def SaleWindow.contains (window : SaleWindow) (now : ℤ) : Bool :=
  window.availableFrom.all (· ≤ now) && window.availableUntil.all (now < ·)

/-- `total_statuses` -/
def Registration.sold (row : Registration) : Bool :=
  row.status = .confirmed ∨ row.status = .checkedIn

structure TicketSnapshot where
  id : ℕ
  registrationCount : ℕ
  remaining : Option ℕ
  isSoldOut : Bool
  isAvailableNow : Bool
deriving DecidableEq

structure AvailabilitySnapshot where
  totalRegistrations : ℕ
  remainingCapacity : Option ℕ
  isSoldOut : Bool
  ticketTypes : List TicketSnapshot
deriving DecidableEq

/-- The tier is in the snapshot and available. -/
def AvailabilitySnapshot.availableNow (snapshot : AvailabilitySnapshot) (ticketTypeId : ℕ) : Bool :=
  (snapshot.ticketTypes.find? (·.id = ticketTypeId)).any TicketSnapshot.isAvailableNow

namespace EventTables

/-! ## The public snapshot -/

/-- The registrations of a tier that the snapshot counts. -/
def ticketCount (t : EventTables) (ticketTypeId : ℕ) : ℕ :=
  t.registrations.countP fun row => row.ticketTypeId = ticketTypeId ∧ row.sold

def ticketSnapshot (t : EventTables) (window : SaleWindow) (now : ℤ) (ticketTypeId : ℕ)
    (tier : TicketType) : TicketSnapshot :=
  let count := t.ticketCount ticketTypeId
  let remaining := if tier.capacity ≠ 0 then some (tier.capacity - count) else none
  let soldOut : Bool := remaining = some 0
  { id := ticketTypeId
    registrationCount := count
    remaining := remaining
    isSoldOut := soldOut
    isAvailableNow := window.contains now && !soldOut }

/-- `_availability_snapshot`, the places; a tier that is not active is not in it. -/
def availabilitySnapshot (t : EventTables) (windows : ℕ → SaleWindow) (now : ℤ) (eventId : ℕ)
    (event : Event) : AvailabilitySnapshot :=
  let total := t.registrations.countP fun row => row.eventId = eventId ∧ row.sold
  let remaining := if 0 < event.maxCapacity then some (event.maxCapacity - total) else none
  { totalRegistrations := total
    remainingCapacity := remaining
    isSoldOut := remaining = some 0
    ticketTypes := (t.ticketTypes.zipIdx.filter fun entry =>
      entry.1.eventId = eventId ∧ entry.1.isActive = true).map fun entry =>
        t.ticketSnapshot (windows entry.2) now entry.2 entry.1 }

/-! ## Registering with payment -/

/-- The capacity test of `register_for_event_with_payment`. -/
def paymentCapacity (t : EventTables) (eventId : ℕ) (event : Event) (ticketTypeId : ℕ)
    (tier : TicketType) : Except RegisterError Unit :=
  let name := tier.name
  if 0 < tier.capacity ∧
      tier.capacity ≤ t.registrations.countP (·.ticketTypeId = ticketTypeId) then
    .error (.refused s!"Ticket tier '{name}' is sold out")
  else if 0 < event.maxCapacity ∧ event.maxCapacity ≤ t.registrationCount eventId then
    .error (.refused "Event has reached full capacity")
  else .ok ()

/-- The tier of a registration with payment: it need not be active, unless it is a free one that
was not asked for. -/
def paymentTier (t : EventTables) (eventId : ℕ) (order : RegistrationOrder) :
    Except RegisterError ℕ :=
  match order.ticketTypeId with
  | some id =>
    if t.ticketTypes[id]?.any (fun tier => tier.eventId = eventId) then .ok id
    else .error (.refused "Invalid ticket type")
  | none =>
    if t.ticketTypes[order.first]?.any (fun tier =>
        tier.eventId = eventId ∧ tier.price = 0 ∧ tier.isActive = true) then .ok order.first
    else .error (.refused "No ticket type selected or available for registration.")

/-- The number after the id of the last registration of the event. -/
def nextSequence (t : EventTables) (eventId : ℕ) : ℕ :=
  match (t.registrations.zipIdx.filter fun entry => entry.1.eventId = eventId).getLast? with
  | none => 1
  | some entry => entry.2 + 2

/-- `register_for_event_with_payment`; `declined` is what the wallet said where it did not pay.
It does not touch the counter of the tier. -/
def registerForEventWithPayment (t : EventTables) (now : ℤ) (order : RegistrationOrder)
    (declined : Option String) : Except RegisterError EventTables :=
  match t.events.findIdx? (·.slug = order.identifier) with
  | none => .error (.refused "Event not found")
  | some eventId =>
    match t.events[eventId]?, order.gateError with
    | none, _ => .error .failed
    | _, some message => .error (.refused message)
    | some event, none => do
        let ticketTypeId ← t.paymentTier eventId order
        match t.ticketTypes[ticketTypeId]? with
        | none => .error .failed
        | some tier =>
          let _ ← t.paymentCapacity eventId event ticketTypeId tier
          if t.registered eventId order.userId then
            .error (.refused "You are already registered for this event")
          else
            match declined.filter fun _ => 0 < tier.price with
            | some message => .error (.refused message)
            | none =>
              let row : Registration := {
                eventId := eventId
                ticketTypeId := ticketTypeId
                userId := some order.userId
                email := (strip order.email).toLower
                registrationRef := Events.registrationRef event.slug (t.nextSequence eventId)
                status := .confirmed
                paymentStatus := if 0 < tier.price then .paid else .free
                createdAt := now }
              match t.insertRegistration row with
              | none => .error .failed
              | some t => .ok t

/-! ## The three answers -/

/-- The snapshot says that the tier is available exactly when the inventory and the registration
with payment would take one more. -/
def AnswersAgree (t : EventTables) (windows : ℕ → SaleWindow) (now : ℤ) (eventId ticketTypeId : ℕ)
    (event : Event) (tier : TicketType) : Prop :=
  (t.availabilitySnapshot windows now eventId event).availableNow ticketTypeId = true ↔
    (∃ t', t.atomicDecrement eventId ticketTypeId 1 = .ok t') ∧
      t.paymentCapacity eventId event ticketTypeId tier = .ok ()

/-- The seats of a tier that are not for sale, when `extra` are still to be returned. -/
def taken (t : EventTables) (extra : ℕ → ℕ) (k : ℕ) : ℕ := t.held k + t.live k + extra k

/-- The seats of the limited tiers of an event that are not for sale. -/
def eventTaken (t : EventTables) (extra : ℕ → ℕ) (eventId : ℕ) : ℕ :=
  ((t.ticketTypes.zipIdx.filter fun entry =>
    entry.1.eventId = eventId ∧ 0 < entry.1.capacity).map fun entry => t.taken extra entry.2).sum

/-- One more seat in every count: the seats of the tier and of the event that are not for sale
leave one, and so do all registrations that were ever made. -/
def HasSeat (t : EventTables) (extra : ℕ → ℕ) (eventId ticketTypeId : ℕ) (event : Event)
    (tier : TicketType) : Prop :=
  (0 < tier.capacity → t.taken extra ticketTypeId < tier.capacity ∧
    t.registrations.countP (·.ticketTypeId = ticketTypeId) < tier.capacity) ∧
  (0 < event.maxCapacity → t.eventTaken extra eventId < event.maxCapacity ∧
    t.registrationCount eventId < event.maxCapacity)

/-- The condition, for an active tier: while it is on sale, what the confirmed registrations
leave of it is not used up by other seats or registrations; while it is not, there is no seat. -/
def SoldAlike (t : EventTables) (extra : ℕ → ℕ) (windows : ℕ → SaleWindow) (now : ℤ)
    (eventId ticketTypeId : ℕ) (event : Event) (tier : TicketType) : Prop :=
  tier.isActive = true →
    ((windows ticketTypeId).contains now = true →
      (0 < tier.capacity → t.ticketCount ticketTypeId < tier.capacity) →
      t.HasSeat extra eventId ticketTypeId event tier) ∧
    ((windows ticketTypeId).contains now = false →
      ¬ t.HasSeat extra eventId ticketTypeId event tier)

/-! ## Each answer by itself -/

section Answers

variable {t : EventTables} {extra : ℕ → ℕ} {windows : ℕ → SaleWindow} {now : ℤ}
  {eventId k : ℕ} {event : Event} {tier : TicketType}

theorem ticketSnapshot_available (window : SaleWindow) :
    (t.ticketSnapshot window now k tier).isAvailableNow = true ↔
      window.contains now = true ∧ (0 < tier.capacity → t.ticketCount k < tier.capacity) := by
  by_cases hcapacity : tier.capacity = 0
  · simp [ticketSnapshot, hcapacity]
  · simp [ticketSnapshot, hcapacity, Nat.pos_of_ne_zero hcapacity, Nat.sub_eq_zero_iff_le]

theorem availableNow_iff (hk : t.ticketTypes[k]? = some tier) (hevent : tier.eventId = eventId) :
    (t.availabilitySnapshot windows now eventId event).availableNow k = true ↔
      tier.isActive = true ∧ (windows k).contains now = true ∧
        (0 < tier.capacity → t.ticketCount k < tier.capacity) := by
  rw [← ticketSnapshot_available, AvailabilitySnapshot.availableNow, Option.any_eq_true]
  have hentry : ∀ row ∈ (t.availabilitySnapshot windows now eventId event).ticketTypes,
      row.id = k → tier.isActive = true ∧ row = t.ticketSnapshot (windows k) now k tier := by
    intro row hrow hid
    obtain ⟨⟨other, place⟩, hmem, rfl⟩ := List.mem_map.mp hrow
    obtain ⟨hmem, hcond⟩ := List.mem_filter.mp hmem
    obtain rfl : place = k := hid
    rw [List.mem_zipIdx_iff_getElem?] at hmem
    obtain rfl : tier = other := Option.some.inj (hk.symm.trans hmem)
    exact ⟨(of_decide_eq_true hcond).2, rfl⟩
  constructor
  · rintro ⟨row, hfound, havailable⟩
    have hid : row.id = k := by simpa using List.find?_some hfound
    obtain ⟨hactive, rfl⟩ := hentry row (List.mem_of_find?_eq_some hfound) hid
    exact ⟨hactive, havailable⟩
  · rintro ⟨hactive, havailable⟩
    have hmem : t.ticketSnapshot (windows k) now k tier ∈
        (t.availabilitySnapshot windows now eventId event).ticketTypes := by
      refine List.mem_map.mpr ⟨(tier, k), List.mem_filter.mpr ⟨?_, ?_⟩, rfl⟩
      · exact List.mem_zipIdx_iff_getElem?.mpr hk
      · exact decide_eq_true ⟨hevent, hactive⟩
    cases hfound : (t.availabilitySnapshot windows now eventId event).ticketTypes.find?
        (·.id = k) with
    | none =>
      have hnone := List.find?_eq_none.mp hfound _ hmem
      exact absurd (decide_eq_true rfl) hnone
    | some row =>
      have hid : row.id = k := by simpa using List.find?_some hfound
      obtain ⟨-, rfl⟩ := hentry row (List.mem_of_find?_eq_some hfound) hid
      exact ⟨_, rfl, havailable⟩

theorem paymentCapacity_iff :
    t.paymentCapacity eventId event k tier = .ok () ↔
      (0 < tier.capacity → t.registrations.countP (·.ticketTypeId = k) < tier.capacity) ∧
      (0 < event.maxCapacity → t.registrationCount eventId < event.maxCapacity) := by
  unfold paymentCapacity
  dsimp only
  split
  next hfull => exact iff_of_false nofun fun h => not_lt.2 hfull.2 (h.1 hfull.1)
  next htier =>
  split
  next hfull => exact iff_of_false nofun fun h => not_lt.2 hfull.2 (h.2 hfull.1)
  next hevent =>
  refine iff_of_true rfl ⟨fun hpos => ?_, fun hpos => ?_⟩
  · exact not_le.1 fun hle => htier ⟨hpos, hle⟩
  · exact not_le.1 fun hle => hevent ⟨hpos, hle⟩

/-- The seats that the inventory counts as sold are the ones in some other place. -/
theorem eventConsumedSeats_eq (h : t.Balanced extra) (eventId : ℕ) :
    t.eventConsumedSeats eventId = t.eventTaken extra eventId := by
  have hfst : t.ticketTypes.zipIdx.map Prod.fst = t.ticketTypes := List.zipIdx_map_fst 0 _
  have hsum : ∀ entry ∈ t.ticketTypes.zipIdx, 0 < entry.1.capacity →
      (entry.1.capacity : ℤ) - entry.1.availableSeats.getD entry.1.capacity =
        (t.taken extra entry.2 : ℤ) := by
    rintro ⟨tier, k⟩ hmem hpos
    rw [List.mem_zipIdx_iff_getElem?] at hmem
    obtain ⟨available, havailable, -, hseats⟩ := h k tier hmem hpos
    simp only [havailable, Option.getD_some, taken]
    omega
  unfold eventConsumedSeats eventTaken
  rw [Nat.cast_list_sum, List.map_map]
  nth_rewrite 1 [← hfst]
  rw [List.filter_map, List.map_map]
  refine congrArg List.sum (List.map_congr_left fun entry hentry => ?_)
  obtain ⟨hmem, hcond⟩ := List.mem_filter.mp hentry
  exact hsum entry hmem (of_decide_eq_true hcond).2

/-- The inventory sells one more seat of an active tier when one is left of the tier and of
the event. -/
theorem atomicDecrement_iff (h : t.Balanced extra) (he : t.events[eventId]? = some event)
    (hk : t.ticketTypes[k]? = some tier) (hevent : tier.eventId = eventId) :
    (∃ t', t.atomicDecrement eventId k 1 = .ok t') ↔
      tier.isActive = true ∧ (0 < tier.capacity → t.taken extra k < tier.capacity) ∧
        (0 < event.maxCapacity → t.eventTaken extra eventId < event.maxCapacity) := by
  have hconsumed := eventConsumedSeats_eq h eventId
  constructor
  · rintro ⟨t', hok⟩
    obtain ⟨-, ⟨event', he', hroom⟩, tier', hk', -, hactive, hseat⟩ := atomicDecrement_eq_ok hok
    obtain rfl : event' = event := Option.some.inj (he'.symm.trans he)
    obtain rfl : tier' = tier := Option.some.inj (hk'.symm.trans hk)
    refine ⟨hactive, fun hpos => ?_, fun hpos => ?_⟩
    · obtain ⟨available, havailable, -, hseats⟩ := h k _ hk hpos
      obtain ⟨hzero, -⟩ | ⟨left, hleft, hone, -⟩ := hseat
      · omega
      · obtain rfl : available = left := Option.some.inj (havailable.symm.trans hleft)
        unfold taken
        omega
    · have hle := not_lt.1 fun hlt => hroom ⟨hpos, hlt⟩
      omega
  · rintro ⟨hactive, htier, hroom⟩
    have hcap : ¬ (0 < event.maxCapacity ∧
        (event.maxCapacity : ℤ) < t.eventConsumedSeats eventId + (1 : ℕ)) := by
      rintro ⟨hpos, hlt⟩
      have hroom := hroom hpos
      omega
    unfold atomicDecrement
    simp only [he]
    rw [if_neg (by decide), if_neg hcap]
    split
    · exact ⟨_, rfl⟩
    next hnone =>
    have hzero : tier.capacity = 0 := by
      by_contra hne
      have hpos := Nat.pos_of_ne_zero hne
      obtain ⟨available, havailable, -, hseats⟩ := h k tier hk hpos
      have htier := htier hpos
      unfold taken at htier
      simp [sellable, hk, havailable, hevent, hactive] at hnone
      omega
    have hfilter : t.ticketTypes[k]?.filter (·.eventId = eventId) = some tier := by
      rw [hk, Option.filter_some, if_pos (decide_eq_true hevent)]
    simp only [unsellable, hfilter, hactive, hzero, Bool.true_eq_false, if_false, if_true]
    exact ⟨_, rfl⟩

/-- A tier that has a seat by every count has one by that of the confirmed registrations. -/
theorem HasSeat.ticketCount_lt (h : t.HasSeat extra eventId k event tier)
    (hpos : 0 < tier.capacity) : t.ticketCount k < tier.capacity := by
  refine lt_of_le_of_lt (List.countP_mono_left fun row _ hrow => ?_) (h.1 hpos).2
  exact decide_eq_true (of_decide_eq_true hrow).1

/-- Where every seat is in one place, the answers agree exactly under the condition. -/
theorem answersAgree_iff (h : t.Balanced extra) (he : t.events[eventId]? = some event)
    (hk : t.ticketTypes[k]? = some tier) (hevent : tier.eventId = eventId) :
    t.AnswersAgree windows now eventId k event tier ↔
      t.SoldAlike extra windows now eventId k event tier := by
  unfold AnswersAgree SoldAlike
  rw [availableNow_iff hk hevent, atomicDecrement_iff h he hk hevent, paymentCapacity_iff]
  have hseat : ((tier.isActive = true ∧
      (0 < tier.capacity → t.taken extra k < tier.capacity) ∧
      (0 < event.maxCapacity → t.eventTaken extra eventId < event.maxCapacity)) ∧
      (0 < tier.capacity → t.registrations.countP (·.ticketTypeId = k) < tier.capacity) ∧
      (0 < event.maxCapacity → t.registrationCount eventId < event.maxCapacity)) ↔
      tier.isActive = true ∧ t.HasSeat extra eventId k event tier := by
    unfold HasSeat
    tauto
  rw [hseat]
  cases hactive : tier.isActive with
  | false => simp
  | true =>
    cases hsale : (windows k).contains now with
    | false => simp
    | true =>
      have hcount := fun hseat : t.HasSeat extra eventId k event tier => hseat.ticketCount_lt
      simp only [true_and, forall_const, Bool.true_eq_false, false_imp_iff, and_true]
      exact ⟨fun h => h.1, fun h => ⟨h, hcount⟩⟩

end Answers

/-! ## Runs with registrations that are paid for -/

theorem registerForEventWithPayment_eq_ok {t t' : EventTables} {now : ℤ}
    {order : RegistrationOrder} {declined : Option String}
    (h : t.registerForEventWithPayment now order declined = .ok t') :
    ∃ row : Registration, t' = { t with registrations := t.registrations ++ [row] } ∧
      row.live = true ∧ row.ticketTypeId = order.ticketTypeId.getD order.first ∧
      t.sellsFor row.eventId row.ticketTypeId = true := by
  unfold registerForEventWithPayment at h
  split at h
  · cases h
  next eventId _ =>
  split at h
  · cases h
  · cases h
  obtain ⟨k, hchosen, h⟩ := bind_eq_ok.mp h
  split at h
  · cases h
  next tier htier =>
  obtain ⟨_, -, h⟩ := bind_eq_ok.mp h
  split at h
  · cases h
  split at h
  · cases h
  dsimp only at h
  split at h
  · cases h
  next after hinsert =>
  cases h
  obtain ⟨-, rfl⟩ := insertRegistration_eq_some hinsert
  refine ⟨_, rfl, rfl, ?_⟩
  unfold paymentTier at hchosen
  split at hchosen
  next id hid =>
    split at hchosen
    next hfound =>
      cases hchosen
      exact ⟨by rw [hid]; rfl, hfound⟩
    · cases hchosen
  next hid =>
    split at hchosen
    next hfound =>
      cases hchosen
      refine ⟨by rw [hid]; rfl, ?_⟩
      obtain ⟨found, hrow, hcond⟩ := (Option.any_eq_true _ _).mp hfound
      rw [sellsFor, hrow]
      exact decide_eq_true (of_decide_eq_true hcond).1
    · cases hchosen

end EventTables

inductive SaleAct
  | office (act : OfficeAct)
  /-- A registration with payment; the wallet may decline. -/
  | payment (order : RegistrationOrder) (declined : Option String)

namespace TicketOffice

variable {s t : TicketOffice}

def sell (s : TicketOffice) : SaleAct → TicketOffice
  | .office act => s.next act
  | .payment order declined =>
    s.commit (s.tables.registerForEventWithPayment s.now order declined)

/-- Orderly steps, and registrations with payment for unlimited tiers only. -/
def seated (s : TicketOffice) : SaleAct → Bool
  | .office act => s.orderly act
  | .payment order _ => !s.tables.limited (order.ticketTypeId.getD order.first)

theorem Sound.payment (sound : s.Sound) {order : RegistrationOrder} {declined : Option String}
    (may : s.seated (.payment order declined) = true) :
    (s.sell (.payment order declined)).Sound := by
  simp only [sell, TicketOffice.commit]
  split
  next tables hok =>
    obtain ⟨row, rfl, hlive, htier, hsells⟩ := EventTables.registerForEventWithPayment_eq_ok hok
    refine sound.commit (.appendRegistration _ hsells) (.appendRegistration hlive ?_)
    refine (EventTables.Balanced.plus_of_unlimited fun tier hk hpos => ?_).mpr sound.balanced
    simp [seated, EventTables.limited, ← htier, hk, hpos] at may
  · exact sound

theorem Sound.sell {act : SaleAct} (sound : s.Sound) (may : s.seated act = true) :
    (s.sell act).Sound := by
  cases act with
  | office act => exact sound.step may
  | payment order declined => exact sound.payment may

/-- One visitor registers for one of two free seats. -/
def freeSeats : TicketOffice :=
  { twoSeats with tables := ⟨[⟨"cup", 0, 0, none⟩], [.create 0 "Free" 0 2], [], []⟩ }

theorem freeSeats_begins : freeSeats.Begins where
  balanced := by
    intro k tier htier _
    cases k with
    | zero =>
      cases htier
      exact ⟨2, rfl, by decide, by decide⟩
    | succ k => simp [freeSeats] at htier
  placed := by simp [EventTables.Placed, freeSeats]
  calls := rfl
  lost _ := rfl

end TicketOffice

end Afcon360.Events
