import Afcon360.Events.Conservation
import Afcon360.Foundation.Run

/-!
# The ticket office

Committed transactions on the ticket tables in any order. A caller may hold an object that
was read in an earlier transaction and act on it; the reaper expires registrations in one
transaction and has their seats returned in later ones. An operation on an old object does
no harm as long as the row is still in a state from which its seats can be taken: this is
what `orderly` asks of a step.
-/

namespace Afcon360.Events

open Foundation

/-- The tier is one of the event. -/
def EventTables.sellsFor (t : EventTables) (eventId ticketTypeId : ℕ) : Bool :=
  t.ticketTypes[ticketTypeId]?.any fun tier => decide (tier.eventId = eventId)

/-- Work between two transactions. -/
inductive OfficeCall
  /-- The caller has a hold that it read as `seen`. -/
  | holding (place : ℕ) (seen : TicketHold)
  /-- `cancel_registration` has read the registration. -/
  | cancelling (userId place : ℕ) (seen : Registration)
  /-- The reaper has committed, and these signals are still to be handled. -/
  | reaping (released : List ((ℕ × ℕ) × ℕ))
  | done

/-- The seats of a tier that are still to be returned for expired registrations. -/
def OfficeCall.pending (k : ℕ) : OfficeCall → ℕ
  | .reaping released => EventTables.seatsOf released k
  | _ => 0

/-- What a call has read or is to return belongs to the tables. -/
def OfficeCall.Fits (t : EventTables) : OfficeCall → Prop
  | .holding place seen => ∃ row, t.holds[place]? = some row ∧
      row.ticketTypeId = seen.ticketTypeId ∧ row.quantity = seen.quantity
  | .cancelling _ place seen => ∃ row, t.registrations[place]? = some row ∧
      row.ticketTypeId = seen.ticketTypeId
  | .reaping released => ∀ entry ∈ released, t.sellsFor entry.1.1 entry.1.2 = true
  | .done => True

structure TicketOffice where
  tables : EventTables
  now : ℤ
  calls : List OfficeCall
  /-- The seats of expired registrations whose signal was lost. -/
  lost : ℕ → ℕ

inductive OfficeAct
  | reserve (eventId ticketTypeId quantity : ℕ) (userId : Option ℕ) (holdMinutes : ℕ)
      (idempotencyKey : Option String)
  | readHold (place : ℕ)
  | release (call : ℕ) (reason : Option String)
  | confirm (call : ℕ) (walletTxnId : Option String) (registrationId : Option ℕ)
  | register (order : RegistrationOrder)
  | readRegistration (registrationRef : String) (userId : ℕ)
  | cancel (call : ℕ) (today : ℤ)
  | expirePending (locked : ℕ → Bool) (after batch : ℕ)
  | signal (call : ℕ)
  | lose (call : ℕ)
  | releaseExpired (eventId ticketTypeId : ℕ) (seats : ℤ)
  | sweepHolds (locked : ℕ → Bool) (after batch : ℕ)
  | tick (seconds : ℕ)

/-! ## What stays -/

namespace EventTables

/-- Tiers stay with their event, holds with their seats, registrations with their tier. -/
structure Grows (t t' : EventTables) : Prop where
  tiers : ∀ eventId k, t.sellsFor eventId k = true → t'.sellsFor eventId k = true
  holds : ∀ (place : ℕ) (row : TicketHold), t.holds[place]? = some row →
    ∃ row' : TicketHold, t'.holds[place]? = some row' ∧
      row'.ticketTypeId = row.ticketTypeId ∧ row'.quantity = row.quantity
  registrations : ∀ (place : ℕ) (row : Registration), t.registrations[place]? = some row →
    ∃ row' : Registration, t'.registrations[place]? = some row' ∧
      row'.ticketTypeId = row.ticketTypeId
  back : ∀ row' ∈ t'.registrations, t'.sellsFor row'.eventId row'.ticketTypeId = true ∨
    ∃ row ∈ t.registrations, row.eventId = row'.eventId ∧ row.ticketTypeId = row'.ticketTypeId

/-- Every registration is for a tier of its event. -/
def Placed (t : EventTables) : Prop :=
  ∀ row ∈ t.registrations, t.sellsFor row.eventId row.ticketTypeId = true

variable {t t' u : EventTables} {k : ℕ} {tier new : TicketType}

theorem Grows.refl (t : EventTables) : t.Grows t :=
  ⟨fun _ _ h => h, fun _ row h => ⟨row, h, rfl, rfl⟩, fun _ row h => ⟨row, h, rfl⟩,
    fun row h => .inr ⟨row, h, rfl, rfl⟩⟩

theorem Placed.grows (placed : t.Placed) (grows : t.Grows t') : t'.Placed := by
  intro row' hrow'
  obtain hsells | ⟨row, hrow, hevent, htier⟩ := grows.back row' hrow'
  · exact hsells
  · rw [← hevent, ← htier]
    exact grows.tiers _ _ (placed row hrow)

theorem Grows.trans (first : t.Grows t') (second : t'.Grows u) : t.Grows u where
  tiers eventId k h := second.tiers eventId k (first.tiers eventId k h)
  holds place row h := by
    obtain ⟨row', h', htier, hquantity⟩ := first.holds place row h
    obtain ⟨row'', h'', htier', hquantity'⟩ := second.holds place row' h'
    exact ⟨row'', h'', htier'.trans htier, hquantity'.trans hquantity⟩
  registrations place row h := by
    obtain ⟨row', h', htier⟩ := first.registrations place row h
    obtain ⟨row'', h'', htier'⟩ := second.registrations place row' h'
    exact ⟨row'', h'', htier'.trans htier⟩
  back row'' hrow'' := by
    obtain hsells | ⟨row', hrow', hevent', htier'⟩ := second.back row'' hrow''
    · exact .inl hsells
    obtain hsells | ⟨row, hrow, hevent, htier⟩ := first.back row' hrow'
    · rw [← hevent', ← htier']
      exact .inl (second.tiers _ _ hsells)
    · exact .inr ⟨row, hrow, hevent.trans hevent', htier.trans htier'⟩

theorem Grows.of_tiers (hsells : ∀ eventId k, t.sellsFor eventId k = true →
    t'.sellsFor eventId k = true) (hholds : t'.holds = t.holds)
    (hregistrations : t'.registrations = t.registrations) : t.Grows t' where
  tiers := hsells
  holds _ row h := ⟨row, by rw [hholds]; exact h, rfl, rfl⟩
  registrations _ row h := ⟨row, by rw [hregistrations]; exact h, rfl⟩
  back row h := .inr ⟨row, by rw [← hregistrations]; exact h, rfl, rfl⟩

theorem sellsFor_set {eventId j : ℕ} (hk : t.ticketTypes[k]? = some tier)
    (hevent : new.eventId = tier.eventId) (h : t.sellsFor eventId j = true) :
    ({ t with ticketTypes := t.ticketTypes.set k new } : EventTables).sellsFor eventId j =
      true := by
  simp only [sellsFor] at h ⊢
  by_cases hj : k = j
  · subst hj
    have hlt := (List.getElem?_eq_some_iff.mp hk).1
    rw [hk] at h
    rw [List.getElem?_set_self hlt]
    simpa [hevent] using h
  · rw [List.getElem?_set_ne hj]
    exact h

theorem Grows.setTier (hk : t.ticketTypes[k]? = some tier) (hevent : new.eventId = tier.eventId) :
    t.Grows { t with ticketTypes := t.ticketTypes.set k new } :=
  .of_tiers (fun _ _ h => sellsFor_set hk hevent h) rfl rfl

theorem Grows.appendTier (t : EventTables) (new : TicketType) :
    t.Grows { t with ticketTypes := t.ticketTypes ++ [new] } := by
  refine .of_tiers (fun eventId k h => ?_) rfl rfl
  obtain ⟨tier, htier, hevent⟩ := (Option.any_eq_true _ _).mp h
  exact (Option.any_eq_true _ _).mpr ⟨tier,
    by rw [List.getElem?_append_left (List.getElem?_eq_some_iff.mp htier).1]; exact htier, hevent⟩

theorem Grows.appendHold (t : EventTables) (new : TicketHold) :
    t.Grows { t with holds := t.holds ++ [new] } where
  tiers _ _ h := h
  holds _ row h :=
    ⟨row, by rw [List.getElem?_append_left (List.getElem?_eq_some_iff.mp h).1]; exact h, rfl, rfl⟩
  registrations _ row h := ⟨row, h, rfl⟩
  back row h := .inr ⟨row, h, rfl, rfl⟩

theorem Grows.modifyHold (t : EventTables) (place : ℕ) {f : TicketHold → TicketHold}
    (htier : ∀ row, (f row).ticketTypeId = row.ticketTypeId)
    (hquantity : ∀ row, (f row).quantity = row.quantity) :
    t.Grows { t with holds := t.holds.modify place f } where
  tiers _ _ h := h
  holds q row h := by
    by_cases hq : place = q
    · subst hq
      exact ⟨f row, by simp [h], htier row, hquantity row⟩
    · exact ⟨row, by simp [List.getElem?_modify_ne _ _ hq, h], rfl, rfl⟩
  registrations _ row h := ⟨row, h, rfl⟩
  back row h := .inr ⟨row, h, rfl, rfl⟩

theorem Grows.appendRegistration (t : EventTables) {new : Registration}
    (hsells : t.sellsFor new.eventId new.ticketTypeId = true) :
    t.Grows { t with registrations := t.registrations ++ [new] } where
  tiers _ _ h := h
  holds _ row h := ⟨row, h, rfl, rfl⟩
  registrations _ row h :=
    ⟨row, by rw [List.getElem?_append_left (List.getElem?_eq_some_iff.mp h).1]; exact h, rfl⟩
  back row h := by
    obtain hold | hnew := List.mem_append.mp h
    · exact .inr ⟨row, hold, rfl, rfl⟩
    · rw [List.mem_singleton.mp hnew]
      exact .inl hsells

theorem Grows.modifyRegistration (t : EventTables) (place : ℕ) {f : Registration → Registration}
    (hevent : ∀ row, (f row).eventId = row.eventId)
    (htier : ∀ row, (f row).ticketTypeId = row.ticketTypeId) :
    t.Grows { t with registrations := t.registrations.modify place f } where
  tiers _ _ h := h
  holds _ row h := ⟨row, h, rfl, rfl⟩
  registrations q row h := by
    by_cases hq : place = q
    · subst hq
      exact ⟨f row, by simp [h], htier row⟩
    · exact ⟨row, by simp [List.getElem?_modify_ne _ _ hq, h], rfl⟩
  back row h := by
    obtain ⟨q, hq⟩ := List.mem_iff_getElem?.mp h
    obtain ⟨-, old, hold, rfl⟩ | ⟨-, hold⟩ := getElem?_modify_cases hq
    · exact .inr ⟨old, List.mem_of_getElem? hold, (hevent old).symm, (htier old).symm⟩
    · exact .inr ⟨row, List.mem_of_getElem? hold, rfl, rfl⟩

theorem Grows.incrementCapacity (t : EventTables) (k quantity : ℕ) :
    t.Grows (t.incrementCapacity k quantity) := by
  unfold EventTables.incrementCapacity
  split
  · exact .refl t
  split
  · exact .refl t
  · rename_i tier htier
    split
    · exact .setTier htier rfl
    · exact .refl t

theorem Grows.addSeats (t : EventTables) (eventId k : ℕ) (seats : ℤ) :
    t.Grows (t.addSeats eventId k seats) := by
  unfold EventTables.addSeats
  split
  · exact .refl t
  · rename_i tier hfound
    exact .setTier (Option.filter_eq_some_iff.mp hfound).1 rfl

theorem Grows.handleCapacityReleased (t : EventTables) (eventId k seats : ℕ) :
    t.Grows (t.handleCapacityReleased eventId k seats) := by
  unfold EventTables.handleCapacityReleased
  split
  · exact .refl t
  · rename_i tier hfound
    split
    · exact .setTier (Option.filter_eq_some_iff.mp hfound).1 rfl
    · exact .addSeats t eventId k seats

theorem Grows.atomicDecrement {eventId quantity : ℕ}
    (h : t.atomicDecrement eventId k quantity = .ok t') : t.Grows t' := by
  obtain ⟨-, -, tier, htier, -, -, ⟨-, rfl⟩ | ⟨available, -, -, rfl⟩⟩ := atomicDecrement_eq_ok h
  · exact .refl _
  · exact .setTier htier rfl

theorem Grows.reserveCapacity {now : ℤ} {eventId quantity holdMinutes : ℕ} {userId : Option ℕ}
    {key : Option String}
    (h : t.reserveCapacity now eventId k quantity userId holdMinutes key = .ok t') :
    t.Grows t' := by
  obtain ⟨u, row, hdec, -, -, -, rfl⟩ := reserveCapacity_eq_ok h
  exact (Grows.atomicDecrement hdec).trans (.appendHold u row)

theorem Grows.releaseHold (t : EventTables) (now : ℤ) (place : ℕ) (seen : TicketHold)
    (reason : Option String) : t.Grows (t.releaseHold now place seen reason).2 := by
  unfold EventTables.releaseHold
  split
  · exact .refl t
  · exact (Grows.incrementCapacity t _ _).trans
      (.modifyHold _ place (fun _ => rfl) (fun _ => rfl))

theorem Grows.confirmReservation {place : ℕ} {seen : TicketHold} {walletTxnId : Option String}
    {registrationId : Option ℕ}
    (h : t.confirmReservation place seen walletTxnId registrationId = .ok t') : t.Grows t' := by
  unfold EventTables.confirmReservation at h
  split at h <;> cases h
  · exact .refl _
  · exact .modifyHold _ place (fun _ => rfl) (fun _ => rfl)

theorem Grows.takeSeat {eventId : ℕ} (h : t.takeSeat eventId k tier = .ok t') : t.Grows t' := by
  obtain hdec | ⟨-, rfl⟩ := takeSeat_eq_ok h
  · exact .atomicDecrement hdec
  · exact .refl _

theorem Grows.chooseTier {event : Event} {eventId : ℕ} {order : RegistrationOrder}
    (h : t.chooseTier event eventId order = .ok (t', k)) : t.Grows t' := by
  obtain rfl | ⟨tier, -, rfl⟩ := (chooseTier_eq_ok h).1
  · exact .refl _
  · exact .appendTier t tier

theorem Grows.registerForEventOptimistic {now : ℤ} {order : RegistrationOrder}
    (h : t.registerForEventOptimistic now order = .ok t') : t.Grows t' := by
  obtain ⟨event, eventId, ticketTypeId, chosen, taken, tier, row, -, hchoose, -, htake,
    hinsert, hevent, hticket, -⟩ := registerForEventOptimistic_eq_ok h
  obtain ⟨-, rfl⟩ := insertRegistration_eq_some hinsert
  obtain ⟨-, new, hnew, hsells⟩ := chooseTier_eq_ok hchoose
  have hchosen : chosen.sellsFor row.eventId row.ticketTypeId = true := by
    simp [sellsFor, hticket, hnew, hsells, hevent]
  exact (Grows.chooseTier hchoose).trans ((Grows.takeSeat htake).trans
    (.appendRegistration _ ((Grows.takeSeat htake).tiers _ _ hchosen)))

theorem Grows.expireRows (t : EventTables) (rows : List (Registration × ℕ)) :
    t.Grows (t.expireRows rows) := by
  induction rows generalizing t with
  | nil => exact .refl t
  | cons entry rest ih =>
    exact (Grows.modifyRegistration t entry.2
      (f := fun row => { row with paymentStatus := .expired, status := .expired })
      (fun _ => rfl) (fun _ => rfl)).trans (ih _)

theorem Grows.releaseExpiredTicketHolds (t : EventTables) (now : ℤ) (locked : ℕ → Bool)
    (after batch : ℕ) : t.Grows (t.releaseExpiredTicketHolds now locked after batch) := by
  unfold EventTables.releaseExpiredTicketHolds
  generalize page t.holds _ locked after batch = rows
  induction rows generalizing t with
  | nil => exact .refl t
  | cons entry rest ih => exact (Grows.releaseHold t now entry.2 entry.1 _).trans (ih _)

theorem Grows.cancelRegistration {today : ℤ} {userId place : ℕ} {seen : Registration}
    (h : t.cancelRegistration today userId place seen = .ok t') : t.Grows t' := by
  unfold EventTables.cancelRegistration at h
  have hended : t.Grows { t with
      registrations := t.registrations.modify place fun row =>
        { row with status := .cancelled } } :=
    .modifyRegistration t place (fun _ => rfl) (fun _ => rfl)
  split at h
  · cases h
  split at h
  · cases h
  split at h
  · cases h
  split at h
  · cases h
  dsimp only at h
  split at h <;> cases h
  · exact hended
  · split
    · exact hended.trans (.incrementCapacity _ _ _)
    · exact hended

theorem mem_bump {key : ℕ × ℕ} {counts : List ((ℕ × ℕ) × ℕ)} {entry : (ℕ × ℕ) × ℕ}
    (h : entry ∈ bump key counts) : entry.1 = key ∨ ∃ old ∈ counts, old.1 = entry.1 := by
  induction counts with
  | nil =>
    rw [List.mem_singleton.mp h]
    exact .inl rfl
  | cons head rest ih =>
    obtain ⟨other, count⟩ := head
    unfold bump at h
    split at h
    · rename_i hkey
      obtain rfl | hrest := List.mem_cons.mp h
      · exact .inl hkey
      · exact .inr ⟨entry, List.mem_cons_of_mem _ hrest, rfl⟩
    · obtain rfl | hrest := List.mem_cons.mp h
      · exact .inr ⟨_, List.mem_cons_self, rfl⟩
      · obtain hnew | ⟨old, hold, hsame⟩ := ih hrest
        · exact .inl hnew
        · exact .inr ⟨old, List.mem_cons_of_mem _ hold, hsame⟩

/-- Seats are released for tiers that a row of the page has. -/
theorem mem_capacityReleased {rows : List (Registration × ℕ)} {entry : (ℕ × ℕ) × ℕ}
    (h : entry ∈ capacityReleased rows) :
    ∃ row ∈ rows, entry.1 = (row.1.eventId, row.1.ticketTypeId) := by
  have hfold : ∀ counts, entry ∈ rows.foldl (fun counts entry =>
      bump (entry.1.eventId, entry.1.ticketTypeId) counts) counts →
      (∃ old ∈ counts, old.1 = entry.1) ∨
        ∃ row ∈ rows, entry.1 = (row.1.eventId, row.1.ticketTypeId) := by
    clear h
    induction rows with
    | nil => exact fun counts hmem => .inl ⟨entry, hmem, rfl⟩
    | cons row rest ih =>
      intro counts hmem
      obtain ⟨old, hold, hsame⟩ | ⟨other, hother, hkey⟩ := ih _ hmem
      · obtain hnew | ⟨older, holder, hsame'⟩ := mem_bump hold
        · exact .inr ⟨row, List.mem_cons_self, hsame.symm.trans hnew⟩
        · exact .inl ⟨older, holder, hsame'.trans hsame⟩
      · exact .inr ⟨other, List.mem_cons_of_mem _ hother, hkey⟩
  obtain ⟨old, hold, -⟩ | hrow := hfold [] h
  · cases hold
  · exact hrow

end EventTables

theorem OfficeCall.Fits.grows {t t' : EventTables} {call : OfficeCall} (fits : call.Fits t)
    (grows : t.Grows t') : call.Fits t' := by
  cases call with
  | holding place seen =>
    obtain ⟨row, hrow, htier, hquantity⟩ := fits
    obtain ⟨row', hrow', htier', hquantity'⟩ := grows.holds place row hrow
    exact ⟨row', hrow', htier'.trans htier, hquantity'.trans hquantity⟩
  | cancelling userId place seen =>
    obtain ⟨row, hrow, htier⟩ := fits
    obtain ⟨row', hrow', htier'⟩ := grows.registrations place row hrow
    exact ⟨row', hrow', htier'.trans htier⟩
  | reaping released => exact fun entry hentry => grows.tiers _ _ (fits entry hentry)
  | done => trivial

namespace TicketOffice

def setCall (s : TicketOffice) (place : ℕ) (call : OfficeCall) : TicketOffice :=
  { s with calls := s.calls.set place call }

def addCall (s : TicketOffice) (call : OfficeCall) : TicketOffice :=
  { s with calls := s.calls ++ [call] }

/-- The tables after a transaction; one that raised leaves them. -/
def commit {ε : Type} (s : TicketOffice) (result : Except ε EventTables) : TicketOffice :=
  match result with
  | .ok tables => { s with tables := tables }
  | .error _ => s

def next (s : TicketOffice) : OfficeAct → TicketOffice
  | .reserve eventId ticketTypeId quantity userId holdMinutes key =>
    s.commit (s.tables.reserveCapacity s.now eventId ticketTypeId quantity userId holdMinutes key)
  | .readHold place =>
    match s.tables.holds[place]? with
    | some row => s.addCall (.holding place row)
    | none => s
  | .release call reason =>
    match s.calls[call]? with
    | some (.holding place seen) =>
      ({ s with tables := (s.tables.releaseHold s.now place seen reason).2 }).setCall call .done
    | _ => s
  | .confirm call walletTxnId registrationId =>
    match s.calls[call]? with
    | some (.holding place seen) =>
      (s.commit (s.tables.confirmReservation place seen walletTxnId registrationId)).setCall
        call .done
    | _ => s
  | .register order => s.commit (s.tables.registerForEventOptimistic s.now order)
  | .readRegistration ref userId =>
    match s.tables.registrations.findIdx? (·.registrationRef = ref) with
    | some place =>
      match s.tables.registrations[place]? with
      | some row => s.addCall (.cancelling userId place row)
      | none => s
    | none => s
  | .cancel call today =>
    match s.calls[call]? with
    | some (.cancelling userId place seen) =>
      (s.commit (s.tables.cancelRegistration today userId place seen)).setCall call .done
    | _ => s
  | .expirePending locked after batch =>
    let (tables, released) := s.tables.expirePendingRegistrations s.now locked after batch
    ({ s with tables := tables }).addCall (.reaping released)
  | .signal call =>
    match s.calls[call]? with
    | some (.reaping (((eventId, ticketTypeId), seats) :: rest)) =>
      ({ s with tables := s.tables.handleCapacityReleased eventId ticketTypeId seats }).setCall
        call (.reaping rest)
    | _ => s
  | .lose call =>
    match s.calls[call]? with
    | some (.reaping (((_, ticketTypeId), seats) :: rest)) =>
      ({ s with lost := EventTables.plus s.lost ticketTypeId seats }).setCall call
        (.reaping rest)
    | _ => s
  | .releaseExpired eventId ticketTypeId seats =>
    { s with tables := (s.tables.releaseExpiredCapacity eventId ticketTypeId seats).2 }
  | .sweepHolds locked after batch =>
    { s with tables := s.tables.releaseExpiredTicketHolds s.now locked after batch }
  | .tick seconds => { s with now := s.now + seconds }

theorem next_register (s : TicketOffice) (order : RegistrationOrder) :
    s.next (.register order) = s.commit (s.tables.registerForEventOptimistic s.now order) := by
  simp only [next]

/-! ## Orderly steps -/

/-- Objects are used only while their row still has the seats. Tiers that are unlimited do not
matter. -/
def orderly (s : TicketOffice) : OfficeAct → Bool
  | .release call _ | .confirm call _ _ =>
    match s.calls[call]? with
    | some (.holding place seen) =>
      decide (seen.status ≠ .reserved) || !s.tables.limited seen.ticketTypeId ||
        s.tables.holds[place]?.any TicketHold.holding
    | _ => true
  | .cancel call today =>
    match s.calls[call]? with
    | some (.cancelling userId place seen) =>
      decide ((s.tables.cancelRegistration today userId place seen).toOption = none) ||
        !s.tables.limited seen.ticketTypeId ||
        s.tables.registrations[place]?.any Registration.live
    | _ => true
  | _ => true

/-- The seats of expired registrations that have not been returned. -/
def outstanding (s : TicketOffice) (k : ℕ) : ℕ :=
  load (OfficeCall.pending k) (fun _ => true) s.calls + s.lost k

variable {s t : TicketOffice} {k place : ℕ} {call call' : OfficeCall}

theorem load_set_pending (k : ℕ) (call' : OfficeCall) (h : s.calls[place]? = some call) :
    load (OfficeCall.pending k) (fun _ => true) (s.calls.set place call') + call.pending k =
      load (OfficeCall.pending k) (fun _ => true) s.calls + call'.pending k := by
  have herase := load_eraseIdx (OfficeCall.pending k) (fun _ => true) h
  rw [load_set h]
  simp only [load_singleton, if_true] at herase ⊢
  omega

/-- The books of the office: every seat of a limited tier has its place, and what a call
holds belongs to the tables. -/
structure Sound (s : TicketOffice) : Prop where
  balanced : s.tables.Balanced s.outstanding
  placed : s.tables.Placed
  fits : ∀ call ∈ s.calls, call.Fits s.tables

theorem fits_set (h : ∀ c ∈ s.calls, c.Fits s.tables) {tables : EventTables}
    (grows : s.tables.Grows tables) (hcall : call'.Fits tables) :
    ∀ c ∈ s.calls.set place call', c.Fits tables := by
  intro c hc
  obtain hold | rfl := List.mem_or_eq_of_mem_set hc
  · exact (h c hold).grows grows
  · exact hcall

/-- A transaction of a call that had nothing pending and has nothing pending. -/
theorem Sound.setCall (sound : s.Sound) {tables : EventTables} (hcall : s.calls[place]? = some call)
    (hpending : ∀ k, call.pending k = call'.pending k) (grows : s.tables.Grows tables)
    (balanced : tables.Balanced s.outstanding) (hfits : call'.Fits tables) :
    (({ s with tables := tables } : TicketOffice).setCall place call').Sound where
  balanced := by
    refine balanced.congr fun k _ _ _ => ?_
    have hset := load_set_pending k call' hcall
    have hk := hpending k
    simp only [outstanding, TicketOffice.setCall]
    omega
  placed := sound.placed.grows grows
  fits := fits_set sound.fits grows hfits

theorem Sound.commit (sound : s.Sound) {tables : EventTables} (grows : s.tables.Grows tables)
    (balanced : tables.Balanced s.outstanding) :
    ({ s with tables := tables } : TicketOffice).Sound where
  balanced := balanced
  placed := sound.placed.grows grows
  fits call hcall := (sound.fits call hcall).grows grows

theorem Sound.addCall (sound : s.Sound) {tables : EventTables} (grows : s.tables.Grows tables)
    (balanced : tables.Balanced fun k => s.outstanding k + call.pending k)
    (hfits : call.Fits tables) :
    (({ s with tables := tables } : TicketOffice).addCall call).Sound where
  balanced := by
    refine balanced.congr fun k _ _ _ => ?_
    simp only [outstanding, TicketOffice.addCall, load_append, load_singleton, if_true]
    omega
  placed := sound.placed.grows grows
  fits c hc := by
    obtain hold | hnew := List.mem_append.mp hc
    · exact (sound.fits c hold).grows grows
    · rw [List.mem_singleton.mp hnew]
      exact hfits

theorem Sound.read (sound : s.Sound) (hpending : ∀ k, call.pending k = 0)
    (hfits : call.Fits s.tables) : (s.addCall call).Sound :=
  sound.addCall (.refl _) (sound.balanced.congr fun k _ _ _ => by simp [hpending k]) hfits

/-! ## One lemma for each transaction -/

theorem Sound.reserve (sound : s.Sound) (eventId ticketTypeId quantity : ℕ) (userId : Option ℕ)
    (holdMinutes : ℕ) (key : Option String) :
    (s.next (.reserve eventId ticketTypeId quantity userId holdMinutes key)).Sound := by
  simp only [next, TicketOffice.commit]
  split
  · rename_i tables hok
    refine sound.commit (.reserveCapacity hok) ?_
    obtain ⟨u, row, hdec, rfl, rfl, hholding, rfl⟩ := EventTables.reserveCapacity_eq_ok hok
    exact (sound.balanced.atomicDecrement hdec).appendHold hholding
  · exact sound

theorem Sound.release (sound : s.Sound) {reason : Option String}
    (may : s.orderly (.release place reason) = true) : (s.next (.release place reason)).Sound := by
  simp only [next]
  split
  · rename_i q seen hcall
    obtain ⟨row, hrow, htier, hquantity⟩ := sound.fits _ (List.mem_of_getElem? hcall)
    refine sound.setCall hcall (fun _ => rfl) (.releaseHold _ _ _ _ _) ?_ trivial
    refine sound.balanced.releaseHold hrow htier.symm hquantity.symm fun hreserved hlimited => ?_
    rw [htier] at hlimited
    simpa [orderly, hcall, hreserved, hlimited, hrow] using may
  · exact sound

theorem Sound.confirm (sound : s.Sound) {walletTxnId : Option String} {registrationId : Option ℕ}
    (may : s.orderly (.confirm place walletTxnId registrationId) = true) :
    (s.next (.confirm place walletTxnId registrationId)).Sound := by
  simp only [next]
  split
  · rename_i q seen hcall
    obtain ⟨row, hrow, htier, hquantity⟩ := sound.fits _ (List.mem_of_getElem? hcall)
    unfold TicketOffice.commit
    split
    · rename_i tables hok
      refine sound.setCall hcall (fun _ => rfl) (.confirmReservation hok) ?_ trivial
      unfold EventTables.confirmReservation at hok
      split at hok <;> cases hok
      · exact sound.balanced
      rename_i hreserved
      cases hlimited : s.tables.limited row.ticketTypeId with
      | false => exact sound.balanced.modifyHold_unlimited _ hrow rfl hlimited
      | true =>
        refine sound.balanced.markConfirmed hrow ?_
        rw [htier] at hlimited
        simpa [orderly, hcall, hreserved, hlimited, hrow] using may
    · exact sound.setCall hcall (fun _ => rfl) (.refl _) sound.balanced trivial
  · exact sound

theorem Sound.cancel (sound : s.Sound) {today : ℤ} (may : s.orderly (.cancel place today) = true) :
    (s.next (.cancel place today)).Sound := by
  simp only [next]
  split
  · rename_i userId q seen hcall
    obtain ⟨row, hrow, htier⟩ := sound.fits _ (List.mem_of_getElem? hcall)
    unfold TicketOffice.commit
    split
    · rename_i tables hok
      refine sound.setCall hcall (fun _ => rfl) (.cancelRegistration hok) ?_ trivial
      refine sound.balanced.cancelRegistration hrow htier.symm (fun hlimited => ?_) hok
      rw [htier] at hlimited
      simpa [orderly, hcall, hok, Except.toOption, hlimited, hrow] using may
    · exact sound.setCall hcall (fun _ => rfl) (.refl _) sound.balanced trivial
  · exact sound

theorem Sound.expirePending (sound : s.Sound) (locked : ℕ → Bool) (after batch : ℕ) :
    (s.next (.expirePending locked after batch)).Sound := by
  refine sound.addCall (.expireRows _ _)
    (sound.balanced.expirePendingRegistrations s.now locked after batch) ?_
  intro entry hentry
  obtain ⟨expired, hexpired, hkey⟩ := EventTables.mem_capacityReleased hentry
  have hrow := List.mem_of_getElem? (EventTables.mem_page hexpired).1
  refine (EventTables.Grows.expireRows _ _).tiers _ _ ?_
  rw [hkey]
  exact sound.placed _ hrow

/-- The next signal of the reaper has been handled or lost. -/
theorem Sound.released (sound : s.Sound) (lost : ℕ → ℕ) {eventId ticketTypeId seats : ℕ}
    {rest : List ((ℕ × ℕ) × ℕ)} {tables : EventTables}
    (hcall : s.calls[place]? = some (.reaping (((eventId, ticketTypeId), seats) :: rest)))
    (grows : s.tables.Grows tables)
    (balanced : ∀ extra, s.tables.Balanced (EventTables.plus extra ticketTypeId seats) →
      tables.Balanced fun k => extra k + (lost k - s.lost k))
    (hlost : ∀ k, s.lost k ≤ lost k) :
    (({ s with tables := tables, lost := lost } : TicketOffice).setCall place
      (.reaping rest)).Sound where
  balanced := by
    -- the seats of the signal are taken out of those in between, whoever gets them
    have hset : ∀ k, load (OfficeCall.pending k) (fun _ => true)
      (s.calls.set place (.reaping rest)) +
        EventTables.seatsOf (((eventId, ticketTypeId), seats) :: rest) k =
        load (OfficeCall.pending k) (fun _ => true) s.calls + EventTables.seatsOf rest k :=
      fun k => load_set_pending k _ hcall
    have hhead : ∀ k, EventTables.seatsOf (((eventId, ticketTypeId), seats) :: rest) k =
        (if ticketTypeId = k then seats else 0) + EventTables.seatsOf rest k := fun k => by
      rw [EventTables.seatsOf, load_cons, load_singleton]
      simp only [decide_eq_true_eq]
      rfl
    have hbefore : s.tables.Balanced (EventTables.plus (fun k =>
        load (OfficeCall.pending k) (fun _ => true) (s.calls.set place (.reaping rest)) + s.lost k)
        ticketTypeId seats) := by
      refine sound.balanced.congr fun k _ _ _ => ?_
      have hk := hset k
      rw [hhead] at hk
      simp only [outstanding]
      by_cases hne : ticketTypeId = k
      · subst hne
        rw [EventTables.plus_self]
        simp only [if_true] at hk
        omega
      · rw [EventTables.plus_other (Ne.symm hne)]
        simp only [hne, if_false] at hk
        omega
    refine (balanced _ hbefore).congr fun k _ _ _ => ?_
    have := hlost k
    simp only [outstanding, TicketOffice.setCall]
    omega
  placed := sound.placed.grows grows
  fits := fits_set sound.fits grows fun entry hentry =>
    grows.tiers _ _ (sound.fits _ (List.mem_of_getElem? hcall) entry
      (List.mem_cons_of_mem _ hentry))

theorem Sound.signal (sound : s.Sound) : (s.next (.signal place)).Sound := by
  simp only [next]
  split
  · rename_i eventId ticketTypeId seats rest hcall
    have hsells := sound.fits _ (List.mem_of_getElem? hcall) _ List.mem_cons_self
    refine sound.released s.lost hcall (.handleCapacityReleased _ _ _ _)
      (fun extra h => ?_) (fun _ => le_refl _)
    have hback := h.handleCapacityReleased eventId fun tier htier _ => by
      simpa [EventTables.sellsFor, htier] using hsells
    exact hback.congr fun k _ _ _ => by simp
  · exact sound

theorem Sound.lose (sound : s.Sound) : (s.next (.lose place)).Sound := by
  simp only [next]
  split
  · rename_i eventId ticketTypeId seats rest hcall
    have hlost : ∀ k, s.lost k ≤ EventTables.plus s.lost ticketTypeId seats k := fun k => by
      by_cases hne : k = ticketTypeId
      · subst hne
        simp
      · rw [EventTables.plus_other hne]
    refine sound.released _ hcall (.refl _) (fun extra h => ?_) hlost
    refine h.congr fun k _ _ _ => ?_
    by_cases hne : k = ticketTypeId
    · subst hne
      simp
    · rw [EventTables.plus_other hne, EventTables.plus_other hne]
      omega
  · exact sound

/-! ## Runs -/

theorem Sound.step {a : OfficeAct} (sound : s.Sound) (may : s.orderly a = true) :
    (s.next a).Sound := by
  cases a with
  | reserve eventId ticketTypeId quantity userId holdMinutes key =>
    exact sound.reserve eventId ticketTypeId quantity userId holdMinutes key
  | readHold place =>
    simp only [next]
    split
    · rename_i row hrow
      exact sound.read (fun _ => rfl) ⟨row, hrow, rfl, rfl⟩
    · exact sound
  | release call reason => exact sound.release may
  | confirm call walletTxnId registrationId => exact sound.confirm may
  | register order =>
    simp only [next_register, TicketOffice.commit]
    split
    · rename_i tables hok
      exact sound.commit (.registerForEventOptimistic hok)
        (sound.balanced.registerForEventOptimistic hok)
    · exact sound
  | readRegistration ref userId =>
    simp only [next]
    split
    · split
      · rename_i row hrow
        exact sound.read (fun _ => rfl) ⟨row, hrow, rfl⟩
      · exact sound
    · exact sound
  | cancel call today => exact sound.cancel may
  | expirePending locked after batch => exact sound.expirePending locked after batch
  | signal call => exact sound.signal
  | lose call => exact sound.lose
  | releaseExpired eventId ticketTypeId seats => exact sound
  | sweepHolds locked after batch =>
    exact sound.commit (.releaseExpiredTicketHolds _ _ _ _ _)
      (sound.balanced.releaseExpiredTicketHolds s.now locked after batch)
  | tick seconds => exact ⟨sound.balanced, sound.placed, sound.fits⟩

/-- No work is under way and the books are right. -/
structure Begins (s : TicketOffice) : Prop where
  balanced : s.tables.Balanced fun _ => 0
  placed : s.tables.Placed
  calls : s.calls = []
  lost : ∀ k, s.lost k = 0

theorem Begins.sound (begins : s.Begins) : s.Sound where
  balanced := begins.balanced.congr fun k _ _ _ => by
    simp [outstanding, begins.calls, begins.lost k]
  placed := begins.placed
  fits call hcall := by simp [begins.calls] at hcall

/-- The law of the seats of a limited tier. -/
def Conserved (s : TicketOffice) (k : ℕ) : Prop :=
  ∀ tier, s.tables.ticketTypes[k]? = some tier → 0 < tier.capacity →
    ∃ available : ℤ, tier.availableSeats = some available ∧ 0 ≤ available ∧
      available ≤ tier.capacity ∧
      (tier.capacity : ℤ) - available = s.tables.held k + s.tables.live k

/-- An event with one tier of two seats. -/
def twoSeats : TicketOffice where
  tables := ⟨[⟨"cup", 0, 0, none⟩], [.create 0 "VIP" 100 2], [], []⟩
  now := 0
  calls := []
  lost := fun _ => 0

theorem twoSeats_begins : twoSeats.Begins where
  balanced := by
    intro k tier htier _
    cases k with
    | zero =>
      cases htier
      exact ⟨2, rfl, by decide, by decide⟩
    | succ k => simp [twoSeats] at htier
  placed := by simp [EventTables.Placed, twoSeats]
  calls := rfl
  lost _ := rfl

def vip (userId : ℕ) (email : String) : RegistrationOrder :=
  ⟨"cup", userId, none, .self, some 0, email, none, none, 0⟩

/-- Two users register; the first registration expires and its seat is returned. -/
def expiring : List OfficeAct :=
  [.register (vip 7 "a@x"), .tick 7200, .register (vip 8 "b@x"),
    .expirePending (fun _ => false) 0 25, .signal 0]

end TicketOffice

end Afcon360.Events
