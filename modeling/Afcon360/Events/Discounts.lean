import Afcon360.Events.Registration
import Afcon360.Foundation.Run

/-!
# Discount codes

A registration with a discount code reads the code and counts its use in the session of the
caller, before anything else is decided; the count is committed together with the registration.
The transaction decorator does nothing in an active session, so a refusal leaves what the
session has changed, and the next commit of the session writes it. The decrement of the tier has
a decorator too, which does something: after a deadlock it rolls the session back, with the count
in it, and runs the decrement again on its own.

Statements read what is committed and what their own session has changed. An attempt of a
registration is two steps: until the use is counted, and from there to its end.
-/

namespace Afcon360.Events

open Foundation

inductive DiscountType
  | percentage | fixed
deriving DecidableEq, Repr

/-- A discount code without its count. -/
structure DiscountCode where
  eventId : ℕ
  code : String
  discountType : DiscountType
  discountValue : ℚ
  validFrom : ℤ
  validUntil : Option ℤ := none
  usageLimit : Option ℤ := none
  isActive : Bool := true
deriving DecidableEq

namespace DiscountCode

def isValid (code : DiscountCode) (usedCount now : ℤ) : Bool :=
  code.isActive && code.validFrom ≤ now && code.validUntil.all (now ≤ ·) &&
    code.usageLimit.all (usedCount < ·)

/-- The floats of the code are zero for the arguments for which this is. -/
def calculateDiscount (code : DiscountCode) (amount : ℚ) : ℚ :=
  if code.discountType = .percentage then amount * (code.discountValue / 100)
  else min code.discountValue amount

end DiscountCode

/-- What `validate_discount_code` has read and computed. -/
structure DiscountUse where
  place : ℕ
  code : DiscountCode
  seen : ℤ
  amount : ℚ
deriving DecidableEq

/-- `validate_discount_code` up to the new count; without a tier of its own an order is priced
at zero. -/
def validateDiscountCode (codes : List DiscountCode) (usedCount : ℕ → ℤ) (now : ℤ) (eventId : ℕ)
    (text : String) (price : Option ℚ) : Except String DiscountUse :=
  match codes.findIdx? (fun row =>
      row.eventId = eventId ∧ row.code = (strip text).toUpper ∧ row.isActive = true) with
  | none => .error "Invalid discount code"
  | some place =>
    match codes[place]? with
    | none => .error "Invalid discount code"
    | some code =>
      if ¬ code.isValid (usedCount place) now then
        .error "Discount code has expired or reached its usage limit"
      else
        let amount := code.calculateDiscount (price.getD 0)
        .ok { place, code, seen := usedCount place, amount }

/-! ## The attempt -/

/-- An attempt after the discount. A tier without an id is a new one of the session. -/
structure Checkout where
  order : RegistrationOrder
  eventId : ℕ
  event : Event
  ticketTypeId : Option ℕ
  tier : TicketType
  use : Option DiscountUse
deriving DecidableEq

/-- The rest of the attempt on the tables as they are then. -/
def Checkout.enrol (checkout : Checkout) (t : EventTables) (now : ℤ) :
    Except RegisterError EventTables :=
  match checkout.ticketTypeId with
  | some id => t.enrol now checkout.order checkout.eventId checkout.event id checkout.tier
  | none =>
    { t with ticketTypes := t.ticketTypes ++ [checkout.tier] }.enrol now checkout.order
      checkout.eventId checkout.event t.ticketTypes.length checkout.tier

/-- The price less the discount is not defined for a decimal and a float, and a discount that is
not zero is a float. -/
def Checkout.raises (checkout : Checkout) : Bool := checkout.use.any fun use => use.amount ≠ 0

/-- A deadlock in `decrement_capacity`, which an attempt on a limited tier reaches unless the
user is registered, has rolled the session back. -/
def Checkout.rolledBack (checkout : Checkout) (t : EventTables) (deadlock : Bool) : Bool :=
  deadlock ∧ 0 < checkout.tier.capacity ∧
    ¬ checkout.order.checkUserId.any (t.registered checkout.eventId)

/-! ## Sessions -/

/-- The counts that a session has written and not committed, and its attempt. -/
structure Session where
  written : ℕ → Option ℤ := fun _ => none
  checkout : Option Checkout := none

structure DiscountDesk where
  tables : EventTables
  codes : List DiscountCode
  usedCount : ℕ → ℤ
  /-- The fees of the registrations, in the order in which these were made. -/
  fees : List ℚ
  sessions : ℕ → Session

inductive DeskAct
  /-- An attempt begins: the first of a call, or one after a rollback. -/
  | validate (session : ℕ) (order : RegistrationOrder) (code : Option String) (now : ℤ)
  /-- The rest of the attempt, in which the decrement may meet deadlocks before it succeeds. -/
  | finish (session : ℕ) (now : ℤ) (deadlock : Bool)
  /-- The caller commits. -/
  | commit (session : ℕ)
  /-- The session ends, or the caller rolls back. -/
  | teardown (session : ℕ)

namespace DiscountDesk

/-- The count that a session reads. -/
def view (s : DiscountDesk) (session place : ℕ) : ℤ :=
  ((s.sessions session).written place).getD (s.usedCount place)

def setSession (s : DiscountDesk) (session : ℕ) (state : Session) : DiscountDesk :=
  { s with sessions := Function.update s.sessions session state }

/-- The counts that the session has written are committed. -/
def flush (s : DiscountDesk) (session : ℕ) : DiscountDesk :=
  { s with usedCount := s.view session }.setSession session {}

/-- The discount of an attempt. -/
def applyDiscount (s : DiscountDesk) (session : ℕ) (order : RegistrationOrder)
    (code : Option String) (now : ℤ) (eventId : ℕ) (event : Event) (ticketTypeId : Option ℕ)
    (tier : TicketType) : Except RegisterError Checkout :=
  match code.filter (· ≠ "") with
  | none => .ok ⟨order, eventId, event, ticketTypeId, tier, none⟩
  | some text =>
    match validateDiscountCode s.codes (s.view session) now eventId text
        (order.ticketTypeId.map fun _ => tier.price) with
    | .error message => .error (.refused s!"Discount code error: {message}")
    | .ok use => .ok ⟨order, eventId, event, ticketTypeId, tier, some use⟩

/-- `register_for_event_optimistic` up to and with the discount. -/
def openCheckout (s : DiscountDesk) (session : ℕ) (order : RegistrationOrder)
    (code : Option String) (now : ℤ) : Except RegisterError Checkout :=
  match s.tables.events.findIdx? (·.slug = order.identifier) with
  | none => .error (.refused "Event not found")
  | some eventId =>
    match s.tables.events[eventId]?, order.gateError with
    | none, _ => .error .failed
    | _, some message => .error (.refused message)
    | some event, none => do
        let (t, id) ← s.tables.chooseTier event eventId order
        match t.ticketTypes[id]? with
        | none => .error .failed
        | some tier =>
          let ticketTypeId := if id < s.tables.ticketTypes.length then some id else none
          s.applyDiscount session order code now eventId event ticketTypeId tier

/-- The session after the discount: the use is counted. -/
def begun (state : Session) (checkout : Checkout) : Session where
  written := match checkout.use with
    | none => state.written
    | some use => Function.update state.written use.place (some (use.seen + 1))
  checkout := some checkout

/-- The session after the decrement, with the counts that it still has to write. -/
def decremented (s : DiscountDesk) (session : ℕ) (checkout : Checkout) (deadlock : Bool) :
    DiscountDesk :=
  s.setSession session {
    written := if checkout.rolledBack s.tables deadlock then fun _ => none
      else (s.sessions session).written }

def next (s : DiscountDesk) : DeskAct → DiscountDesk
  | .validate session order code now =>
    match (s.sessions session).checkout, s.openCheckout session order code now with
    | none, .ok checkout => s.setSession session (begun (s.sessions session) checkout)
    | _, _ => s
  | .finish session now deadlock =>
    match (s.sessions session).checkout with
    | none => s
    | some checkout =>
      if checkout.raises then s.setSession session {}
      else
        match checkout.enrol s.tables now with
        | .ok tables =>
          { (s.decremented session checkout deadlock).flush session with
            tables := tables
            fees := s.fees ++ [checkout.tier.price] }
        | .error .failed => s.setSession session {}
        -- Refusals and sold out tiers are answers without a rollback.
        | .error _ => s.decremented session checkout deadlock
  | .commit session =>
    match (s.sessions session).checkout with
    | none => s.flush session
    | some _ => s
  | .teardown session => s.setSession session {}

def after (s : DiscountDesk) (acts : List DeskAct) : DiscountDesk := acts.foldl next s

/-! ## What is asked of a step -/

/-- The counts that are to be after a step: only a registration with a code raises one. -/
def counted (s : DiscountDesk) : DeskAct → ℕ → ℤ
  | .finish session now _ =>
    match (s.sessions session).checkout with
    | none => s.usedCount
    | some checkout =>
      match checkout.use, checkout.enrol s.tables now with
      | some use, .ok _ => Function.update s.usedCount use.place (s.usedCount use.place + 1)
      | _, _ => s.usedCount
  | _ => s.usedCount

/-- A registration that is otherwise accepted is made, at the price less the discount. -/
def Registers (s : DiscountDesk) : DeskAct → Prop
  | .finish session now deadlock =>
    ∀ checkout use tables, (s.sessions session).checkout = some checkout →
      checkout.use = some use → checkout.enrol s.tables now = .ok tables →
      let price := checkout.tier.price
      let discount := use.code.calculateDiscount price
      (s.next (.finish session now deadlock)).tables = tables ∧
        (s.next (.finish session now deadlock)).fees = s.fees ++ [max (price - discount) 0] ∧
        0 ≤ discount ∧ discount ≤ price
  | _ => True

structure Sound (s : DiscountDesk) (act : DeskAct) : Prop where
  registers : s.Registers act
  usedCount : (s.next act).usedCount = s.counted act

/-- The session has written no count other than the committed one, this place apart. -/
def Settled (s : DiscountDesk) (session : ℕ) (except : Option ℕ) : Prop :=
  ∀ place v, some place ≠ except → (s.sessions session).written place = some v →
    v = s.usedCount place

/-- The condition: a registration with a code is for a price that the code takes nothing off and
that is not negative, nobody has used the code since its count was read, no deadlock has rolled
the count back, and no refusal has left a count behind in a session that commits. -/
def Meets (s : DiscountDesk) : DeskAct → Prop
  | .validate _ _ _ _ => True
  | .finish session now deadlock =>
    ∀ checkout tables, (s.sessions session).checkout = some checkout →
      checkout.enrol s.tables now = .ok tables →
      match checkout.use with
      | none => checkout.rolledBack s.tables deadlock ∨ s.Settled session none
      | some use => use.code.calculateDiscount checkout.tier.price = 0 ∧
          0 ≤ checkout.tier.price ∧ ¬ checkout.rolledBack s.tables deadlock ∧
          use.seen = s.usedCount use.place ∧ s.Settled session (some use.place)
  | .commit session => (s.sessions session).checkout = none → s.Settled session none
  | .teardown _ => True

/-! ## Reading the code -/

section Validation

variable {codes : List DiscountCode} {usedCount : ℕ → ℤ} {now : ℤ} {eventId : ℕ} {text : String}
  {price : Option ℚ} {use : DiscountUse}

theorem validateDiscountCode_ok
    (h : validateDiscountCode codes usedCount now eventId text price = .ok use) :
    codes[use.place]? = some use.code ∧ use.seen = usedCount use.place ∧
      use.code.isValid use.seen now = true ∧
      use.amount = use.code.calculateDiscount (price.getD 0) := by
  unfold validateDiscountCode at h
  split at h
  · cases h
  next place _ =>
  split at h
  · cases h
  next code hcode =>
  split at h
  · cases h
  next hvalid =>
  cases h
  exact ⟨hcode, rfl, by simpa using hvalid, rfl⟩

/-- A discount that takes nothing off a price takes nothing off nothing. -/
theorem calculateDiscount_zero {code : DiscountCode} {amount : ℚ}
    (h : code.calculateDiscount amount = 0) : code.calculateDiscount 0 = 0 := by
  unfold DiscountCode.calculateDiscount at h ⊢
  split
  · exact zero_mul _
  next hfixed =>
  rw [if_neg hfixed] at h
  exact min_eq_right (h ▸ min_le_left _ _)

theorem isValid_lt {code : DiscountCode} {seen limit : ℤ} (h : code.isValid seen now = true)
    (hlimit : code.usageLimit = some limit) : seen < limit := by
  simp only [DiscountCode.isValid, hlimit, Option.all_some, Bool.and_eq_true,
    decide_eq_true_eq] at h
  exact h.2

end Validation

/-! ## What the steps keep -/

section Steps

variable {s : DiscountDesk}

/-- The attempt of a session goes with the count it has written. -/
structure Fits (state : Session) (checkout : Checkout) (use : DiscountUse) : Prop where
  written : state.written use.place = some (use.seen + 1)
  amount : use.code.calculateDiscount checkout.tier.price = 0 → use.amount = 0

/-- The attempts fit their sessions. -/
def Tracked (s : DiscountDesk) : Prop :=
  ∀ session checkout use, (s.sessions session).checkout = some checkout →
    checkout.use = some use → Fits (s.sessions session) checkout use

/-- No count is over the limit of its code, committed or not. -/
structure WithinLimits (s : DiscountDesk) : Prop where
  committed : ∀ place code limit, s.codes[place]? = some code → code.usageLimit = some limit →
    s.usedCount place ≤ limit
  written : ∀ place code limit session v, s.codes[place]? = some code →
    code.usageLimit = some limit → (s.sessions session).written place = some v → v ≤ limit

theorem WithinLimits.view (h : s.WithinLimits) {place : ℕ} {code : DiscountCode} {limit : ℤ}
    (hcode : s.codes[place]? = some code) (hlimit : code.usageLimit = some limit) (session : ℕ) :
    s.view session place ≤ limit := by
  unfold DiscountDesk.view
  cases hwritten : (s.sessions session).written place with
  | none => exact h.committed place code limit hcode hlimit
  | some v => exact h.written place code limit session v hcode hlimit hwritten

variable {session : ℕ} {order : RegistrationOrder} {code : Option String} {now : ℤ}
  {checkout : Checkout} {use : DiscountUse}

theorem applyDiscount_use {eventId : ℕ} {event : Event} {ticketTypeId : Option ℕ}
    {tier : TicketType}
    (h : s.applyDiscount session order code now eventId event ticketTypeId tier = .ok checkout)
    (huse : checkout.use = some use) :
    s.codes[use.place]? = some use.code ∧ use.seen = s.view session use.place ∧
      use.code.isValid use.seen now = true ∧
      (use.code.calculateDiscount checkout.tier.price = 0 → use.amount = 0) := by
  unfold applyDiscount at h
  split at h
  · cases h
    cases huse
  split at h
  · cases h
  next found hfound =>
  cases h
  cases huse
  obtain ⟨hcode, hseen, hvalid, hamount⟩ := validateDiscountCode_ok hfound
  refine ⟨hcode, hseen, hvalid, fun hzero => ?_⟩
  rw [hamount]
  cases order.ticketTypeId with
  | some _ => exact hzero
  | none => exact calculateDiscount_zero hzero

/-- What the discount of an attempt is about. -/
theorem openCheckout_use (h : s.openCheckout session order code now = .ok checkout)
    (huse : checkout.use = some use) :
    s.codes[use.place]? = some use.code ∧ use.seen = s.view session use.place ∧
      use.code.isValid use.seen now = true ∧
      (use.code.calculateDiscount checkout.tier.price = 0 → use.amount = 0) := by
  unfold openCheckout at h
  split at h
  · cases h
  split at h
  · cases h
  · cases h
  next _ eventId _ _ _ event _ _ =>
  cases htier : s.tables.chooseTier event eventId order with
  | error error =>
    rw [htier] at h
    cases h
  | ok chosen =>
    rw [htier] at h
    change (match chosen.1.ticketTypes[chosen.2]? with | none => _ | some tier => _) = _ at h
    split at h
    · cases h
    · exact applyDiscount_use h huse

theorem tracked_setSession (h : s.Tracked) {state : Session}
    (hstate : ∀ checkout use, state.checkout = some checkout → checkout.use = some use →
      Fits state checkout use) : (s.setSession session state).Tracked := by
  intro other checkout use hcheckout huse
  by_cases hother : other = session
  · subst hother
    simp only [setSession, Function.update_self] at hcheckout ⊢
    exact hstate checkout use hcheckout huse
  · simp only [setSession, Function.update_of_ne hother] at hcheckout ⊢
    exact h other checkout use hcheckout huse

theorem withinLimits_setSession (h : s.WithinLimits) {state : Session}
    (hstate : ∀ place code limit v, s.codes[place]? = some code → code.usageLimit = some limit →
      state.written place = some v → v ≤ limit) : (s.setSession session state).WithinLimits where
  committed := h.committed
  written place code limit other v hcode hlimit hv := by
    by_cases hother : other = session
    · subst hother
      simp only [setSession, Function.update_self] at hv
      exact hstate place code limit v hcode hlimit hv
    · simp only [setSession, Function.update_of_ne hother] at hv
      exact h.written place code limit other v hcode hlimit hv

theorem tracked_empty (h : s.Tracked) (session : ℕ) : (s.setSession session {}).Tracked :=
  tracked_setSession h fun _ _ hnone => by cases hnone

theorem withinLimits_empty (h : s.WithinLimits) (session : ℕ) :
    (s.setSession session {}).WithinLimits :=
  withinLimits_setSession h fun _ _ _ _ _ _ hnone => by cases hnone

theorem tracked_decremented (h : s.Tracked) (session : ℕ) (checkout : Checkout)
    (deadlock : Bool) : (s.decremented session checkout deadlock).Tracked :=
  tracked_setSession h fun _ _ hnone => by cases hnone

theorem withinLimits_decremented (h : s.WithinLimits) (session : ℕ) (checkout : Checkout)
    (deadlock : Bool) : (s.decremented session checkout deadlock).WithinLimits := by
  refine withinLimits_setSession h fun place code limit v hcode hlimit hv => ?_
  have hwritten : (s.sessions session).written place = some v := by
    split at hv
    · cases hv
    · exact hv
  exact h.written place code limit session v hcode hlimit hwritten

theorem withinLimits_flush (h : s.WithinLimits) (session : ℕ) : (s.flush session).WithinLimits := by
  have hcounts : ({ s with usedCount := s.view session } : DiscountDesk).WithinLimits :=
    ⟨fun _ _ _ hcode hlimit => h.view hcode hlimit session, h.written⟩
  exact withinLimits_empty hcounts session

theorem tracked_next (h : s.Tracked) (act : DeskAct) : (s.next act).Tracked := by
  cases act with
  | validate session order code now =>
    simp only [next]
    split
    next checkout _ hopen =>
      refine tracked_setSession h fun checkout' use hcheckout huse => ?_
      cases hcheckout
      obtain ⟨-, -, -, hamount⟩ := openCheckout_use hopen huse
      refine ⟨?_, hamount⟩
      simp only [begun, huse, Function.update_self]
    · exact h
  | finish session now deadlock =>
    simp only [next]
    split
    · exact h
    next checkout _ =>
    split
    · exact tracked_empty h session
    split
    · exact tracked_empty (tracked_decremented h session checkout deadlock) session
    · exact tracked_empty h session
    · exact tracked_decremented h session checkout deadlock
  | commit session =>
    simp only [next]
    split
    · exact tracked_empty h session
    · exact h
  | teardown session => exact tracked_empty h session

/-- What one step keeps: a count is raised only below the limit, so the counts that are written
without regard to each other are within it too. -/
theorem withinLimits_next (h : s.WithinLimits) (act : DeskAct) : (s.next act).WithinLimits := by
  cases act with
  | validate session order code now =>
    simp only [next]
    split
    next checkout _ hopen =>
      refine withinLimits_setSession h fun place code limit v hcode hlimit hv => ?_
      cases huse : checkout.use with
      | none =>
        simp only [begun, huse] at hv
        exact h.written place code limit session v hcode hlimit hv
      | some use =>
        simp only [begun, huse] at hv
        by_cases hplace : place = use.place
        · subst hplace
          obtain ⟨hrow, -, hvalid, -⟩ := openCheckout_use hopen huse
          obtain rfl : use.code = code := Option.some.inj (hrow.symm.trans hcode)
          rw [Function.update_self, Option.some.injEq] at hv
          have hbelow := isValid_lt hvalid hlimit
          omega
        · rw [Function.update_of_ne hplace] at hv
          exact h.written place code limit session v hcode hlimit hv
    · exact h
  | finish session now deadlock =>
    simp only [next]
    split
    · exact h
    next checkout _ =>
    have hdecremented := withinLimits_decremented h session checkout deadlock
    split
    · exact withinLimits_empty h session
    split
    · have hflushed := withinLimits_flush hdecremented session
      exact ⟨hflushed.committed, hflushed.written⟩
    · exact withinLimits_empty h session
    · exact hdecremented
  | commit session =>
    simp only [next]
    split
    · exact withinLimits_flush h session
    · exact h
  | teardown session => exact withinLimits_empty h session

theorem withinLimits_after (h : s.WithinLimits) (acts : List DeskAct) :
    (s.after acts).WithinLimits := by
  induction acts generalizing s with
  | nil => exact h
  | cons act rest ih => exact ih (withinLimits_next h act)

end Steps

/-! ## When a step is sound -/

section Sound

variable {s : DiscountDesk} {session : ℕ} {now : ℤ} {checkout : Checkout} {deadlock : Bool}

/-- The counts that a commit writes after the decrement. -/
theorem view_decremented :
    (s.decremented session checkout deadlock).view session =
      if checkout.rolledBack s.tables deadlock then s.usedCount else s.view session := by
  funext place
  simp only [view, decremented, setSession, Function.update_self]
  split <;> rfl

/-- A commit leaves the counts of a settled session. -/
theorem view_eq_iff (session : ℕ) : s.view session = s.usedCount ↔ s.Settled session none := by
  constructor
  · intro h place v _ hv
    have hplace := congrFun h place
    unfold view at hplace
    rwa [hv] at hplace
  · intro h
    funext place
    unfold view
    cases hv : (s.sessions session).written place with
    | none => rfl
    | some v => exact h place v nofun hv

/-- A commit raises the count of the code by one, and no other, if nobody has used the code
meanwhile and the session is settled elsewhere. -/
theorem view_eq_update_iff {use : DiscountUse} (hfits : Fits (s.sessions session) checkout use) :
    s.view session = Function.update s.usedCount use.place (s.usedCount use.place + 1) ↔
      use.seen = s.usedCount use.place ∧ s.Settled session (some use.place) := by
  have hown : s.view session use.place = use.seen + 1 := by
    unfold view
    rw [hfits.written]
    rfl
  constructor
  · intro h
    refine ⟨?_, fun place v hplace hv => ?_⟩
    · have hplace := congrFun h use.place
      rw [hown, Function.update_self] at hplace
      exact add_right_cancel hplace
    · have hplace' := congrFun h place
      rw [Function.update_of_ne fun heq => hplace (congrArg some heq)] at hplace'
      unfold view at hplace'
      rwa [hv] at hplace'
  · rintro ⟨hseen, hsettled⟩
    funext place
    by_cases hplace : place = use.place
    · subst hplace
      rw [hown, Function.update_self, hseen]
    · rw [Function.update_of_ne hplace]
      unfold view
      cases hv : (s.sessions session).written place with
      | none => rfl
      | some v => exact hsettled place v (fun heq => hplace (Option.some.inj heq)) hv

/-- The discount is taken off the price that is stored only if there is none. -/
theorem fee_right_iff (price discount : ℚ) :
    price = max (price - discount) 0 ∧ 0 ≤ discount ∧ discount ≤ price ↔
      discount = 0 ∧ 0 ≤ price := by
  constructor
  · rintro ⟨hfee, hnonneg, hle⟩
    rw [max_eq_left (sub_nonneg.2 hle)] at hfee
    exact ⟨sub_eq_self.1 hfee.symm, hnonneg.trans hle⟩
  · rintro ⟨rfl, hprice⟩
    rw [sub_zero, max_eq_left hprice]
    exact ⟨rfl, le_rfl, hprice⟩

theorem sound_of_refused (hcheckout : (s.sessions session).checkout = some checkout)
    {error : RegisterError} (herror : checkout.enrol s.tables now = .error error) :
    s.Sound (.finish session now deadlock) := by
  refine ⟨?_, ?_⟩
  · intro checkout' use tables hcheckout' _ haccepted
    obtain rfl : checkout' = checkout := Option.some.inj (hcheckout'.symm.trans hcheckout)
    rw [herror] at haccepted
    cases haccepted
  · have hcounted : s.counted (.finish session now deadlock) = s.usedCount := by
      simp only [counted, hcheckout, herror]
      cases checkout.use <;> rfl
    rw [hcounted]
    simp only [next, hcheckout, herror]
    split
    · rfl
    · cases error <;> rfl

/-- An attempt that is accepted and does not raise: the registration is made and the session
commits. -/
theorem next_finish (hcheckout : (s.sessions session).checkout = some checkout)
    {tables : EventTables} (haccepted : checkout.enrol s.tables now = .ok tables)
    (hraises : checkout.raises = false) :
    s.next (.finish session now deadlock) =
      { (s.decremented session checkout deadlock).flush session with
        tables := tables
        fees := s.fees ++ [checkout.tier.price] } := by
  simp only [next, hcheckout, hraises, haccepted, Bool.false_eq_true, if_false]

theorem usedCount_finish (hcheckout : (s.sessions session).checkout = some checkout)
    {tables : EventTables} (haccepted : checkout.enrol s.tables now = .ok tables)
    (hraises : checkout.raises = false) :
    (s.next (.finish session now deadlock)).usedCount =
      if checkout.rolledBack s.tables deadlock then s.usedCount else s.view session := by
  rw [next_finish hcheckout haccepted hraises, ← view_decremented]
  rfl

theorem finish_sound_iff (htracked : s.Tracked)
    (hcheckout : (s.sessions session).checkout = some checkout) {tables : EventTables}
    (haccepted : checkout.enrol s.tables now = .ok tables) :
    s.Sound (.finish session now deadlock) ↔
      match checkout.use with
      | none => checkout.rolledBack s.tables deadlock ∨ s.Settled session none
      | some use => use.code.calculateDiscount checkout.tier.price = 0 ∧
          0 ≤ checkout.tier.price ∧ ¬ checkout.rolledBack s.tables deadlock ∧
          use.seen = s.usedCount use.place ∧ s.Settled session (some use.place) := by
  cases huse : checkout.use with
  | none =>
    have hraises : checkout.raises = false := by simp [Checkout.raises, huse]
    have hcounted : s.counted (.finish session now deadlock) = s.usedCount := by
      simp only [counted, hcheckout, huse]
    have hkept : (s.next (.finish session now deadlock)).usedCount = s.usedCount ↔
        checkout.rolledBack s.tables deadlock ∨ s.view session = s.usedCount := by
      rw [usedCount_finish hcheckout haccepted hraises]
      split <;> simp_all
    dsimp only
    rw [← view_eq_iff, ← hkept]
    constructor
    · intro hsound
      rw [hsound.usedCount, hcounted]
    · intro hview
      refine ⟨?_, hview.trans hcounted.symm⟩
      intro checkout' use tables' hcheckout' huse' _
      obtain rfl : checkout' = checkout := Option.some.inj (hcheckout'.symm.trans hcheckout)
      rw [huse] at huse'
      cases huse'
  | some use =>
    have hfits := htracked session checkout use hcheckout huse
    have hcounted : s.counted (.finish session now deadlock) =
        Function.update s.usedCount use.place (s.usedCount use.place + 1) := by
      simp only [counted, hcheckout, huse, haccepted]
    have hregisters : s.Registers (.finish session now deadlock) ↔
        (s.next (.finish session now deadlock)).tables = tables ∧
          (s.next (.finish session now deadlock)).fees = s.fees ++
            [max (checkout.tier.price - use.code.calculateDiscount checkout.tier.price) 0] ∧
          0 ≤ use.code.calculateDiscount checkout.tier.price ∧
          use.code.calculateDiscount checkout.tier.price ≤ checkout.tier.price := by
      constructor
      · intro h
        exact h checkout use tables hcheckout huse haccepted
      · intro h checkout' use' tables' hcheckout' huse' haccepted'
        obtain rfl : checkout' = checkout := Option.some.inj (hcheckout'.symm.trans hcheckout)
        obtain rfl : use' = use := Option.some.inj (huse'.symm.trans huse)
        obtain rfl : tables' = tables := Except.ok.inj (haccepted'.symm.trans haccepted)
        exact h
    dsimp only
    cases hraises : checkout.raises with
    | true =>
      refine iff_of_false (fun hsound => ?_) fun h => ?_
      · have hfees := (hregisters.1 hsound.registers).2.1
        have hnext : s.next (.finish session now deadlock) = s.setSession session {} := by
          simp only [next, hcheckout, hraises, if_true]
        rw [hnext] at hfees
        simp [setSession] at hfees
      · simp [Checkout.raises, huse, hfits.amount h.1] at hraises
    | false =>
      have hnext : s.next (.finish session now deadlock) =
          { (s.decremented session checkout deadlock).flush session with
            tables := tables
            fees := s.fees ++ [checkout.tier.price] } := next_finish hcheckout haccepted hraises
      have hfee := fee_right_iff checkout.tier.price
        (use.code.calculateDiscount checkout.tier.price)
      -- a count that was rolled back is not raised
      have hraised : (s.next (.finish session now deadlock)).usedCount =
            Function.update s.usedCount use.place (s.usedCount use.place + 1) ↔
          ¬ checkout.rolledBack s.tables deadlock ∧
            s.view session = Function.update s.usedCount use.place
              (s.usedCount use.place + 1) := by
        rw [usedCount_finish hcheckout haccepted hraises]
        split
        next hlost =>
          refine iff_of_false (fun hsame => ?_) fun h => h.1 hlost
          have hplace := congrFun hsame use.place
          rw [Function.update_self] at hplace
          omega
        next hkept => simp [hkept]
      rw [← view_eq_update_iff hfits, ← hraised]
      constructor
      · rintro ⟨hsound, hcount⟩
        obtain ⟨-, hfees, hnonneg, hle⟩ := hregisters.1 hsound
        rw [hnext, List.append_cancel_left_eq, List.singleton_inj] at hfees
        obtain ⟨hzero, hprice⟩ := hfee.1 ⟨hfees, hnonneg, hle⟩
        exact ⟨hzero, hprice, hcount.trans hcounted⟩
      · rintro ⟨hzero, hprice, hcount⟩
        obtain ⟨hfees, hnonneg, hle⟩ := hfee.2 ⟨hzero, hprice⟩
        refine ⟨hregisters.2 ⟨?_, ?_, hnonneg, hle⟩, hcount.trans hcounted.symm⟩
        · rw [hnext]
        · rw [hnext, ← hfees]

theorem sound_iff_meets (htracked : s.Tracked) (act : DeskAct) : s.Sound act ↔ s.Meets act := by
  cases act with
  | validate session order code now =>
    refine iff_of_true ⟨trivial, ?_⟩ trivial
    simp only [next]
    split <;> rfl
  | finish session now deadlock =>
    cases hcheckout : (s.sessions session).checkout with
    | none =>
      refine iff_of_true ⟨?_, ?_⟩ ?_
      · intro checkout use tables h
        rw [hcheckout] at h
        cases h
      · simp only [next, counted, hcheckout]
      · intro checkout tables h
        rw [hcheckout] at h
        cases h
    | some checkout =>
      cases haccepted : checkout.enrol s.tables now with
      | error error =>
        refine iff_of_true (sound_of_refused hcheckout haccepted) fun checkout' tables h hok => ?_
        obtain rfl : checkout' = checkout := Option.some.inj (h.symm.trans hcheckout)
        rw [haccepted] at hok
        cases hok
      | ok tables =>
        rw [finish_sound_iff htracked hcheckout haccepted]
        constructor
        · intro h checkout' tables' hcheckout' _
          obtain rfl : checkout' = checkout := Option.some.inj (hcheckout'.symm.trans hcheckout)
          exact h
        · intro h
          exact h checkout tables hcheckout haccepted
  | commit session =>
    cases hcheckout : (s.sessions session).checkout with
    | none =>
      have hnext : s.next (.commit session) = s.flush session := by simp only [next, hcheckout]
      constructor
      · intro hsound _
        have hcount := hsound.usedCount
        rw [hnext] at hcount
        exact (view_eq_iff session).1 hcount
      · intro h
        refine ⟨trivial, ?_⟩
        rw [hnext]
        exact (view_eq_iff session).2 (h hcheckout)
    | some checkout =>
      refine iff_of_true ⟨trivial, ?_⟩ fun h => ?_
      · simp only [next, counted, hcheckout]
      · rw [hcheckout] at h
        cases h
  | teardown session => exact iff_of_true ⟨trivial, rfl⟩ trivial

end Sound

/-! ## Whole runs -/

/-- Sessions without changes, and no count over its limit. -/
structure Begins (s : DiscountDesk) : Prop where
  sessions : ∀ session, s.sessions session = {}
  usedCount : ∀ place code limit, s.codes[place]? = some code → code.usageLimit = some limit →
    s.usedCount place ≤ limit

theorem Begins.tracked {s : DiscountDesk} (h : s.Begins) : s.Tracked := by
  intro session checkout use hcheckout
  rw [h.sessions session] at hcheckout
  cases hcheckout

theorem Begins.withinLimits {s : DiscountDesk} (h : s.Begins) : s.WithinLimits where
  committed := h.usedCount
  written place code limit session v _ _ hv := by
    rw [h.sessions session] at hv
    cases hv

/-- In every interleaving of registrations no count is over its limit; and every registration
that is otherwise accepted is made at the price less the discount and counted once, and nothing
else is counted, exactly when every step meets the condition. -/
theorem discounted_registration (s : DiscountDesk) (acts : List DeskAct) (begins : s.Begins) :
    (∀ place code limit, (s.after acts).codes[place]? = some code →
      code.usageLimit = some limit → (s.after acts).usedCount place ≤ limit) ∧
    (Along next Sound s acts ↔ Along next Meets s acts) := by
  refine ⟨(withinLimits_after begins.withinLimits acts).committed, ?_⟩
  refine along_iff Tracked ?_ ?_ begins.tracked
  · intro s act htracked _
    exact tracked_next htracked act
  · intro s act htracked
    exact sound_iff_meets htracked act

end DiscountDesk

/-- One event with a tier at 100 and a free one, and a code for ten per cent. -/
def openDay : DiscountDesk where
  tables := {
    events := [⟨"open-day", 0, 0, none⟩]
    ticketTypes := [.create 0 "Standard" 100 50, .create 0 "Free" 0 50]
    holds := []
    registrations := [] }
  codes := [⟨0, "TEN", .percentage, 10, 0, none, some 5, true⟩]
  usedCount _ := 0
  fees := []
  sessions _ := {}

/-- A registration for oneself. -/
def visitor (userId tier : ℕ) (email : String) : RegistrationOrder :=
  ⟨"open-day", userId, none, .self, some tier, email, none, none, 0⟩

theorem openDay_begins : openDay.Begins where
  sessions _ := rfl
  usedCount place code limit hcode hlimit := by
    cases place with
    | zero =>
      cases hcode
      cases hlimit
      decide
    | succ place => cases hcode

theorem openDay_counted :
    (openDay.after [.validate 0 (visitor 1 1 "a@x") (some "ten") 1, .finish 0 1 false]).usedCount
      0 ≤ 5 :=
  (DiscountDesk.discounted_registration openDay _ openDay_begins).1 0
    ⟨0, "TEN", .percentage, 10, 0, none, some 5, true⟩ 5 (by decide +kernel) rfl

/-- The ten per cent of 100 make the attempt fail. A visitor who is refused for being registered
is counted with the next one of the same session. And one whose decrement met a deadlock is
registered and not counted. -/
theorem standard_not_registered :
    ¬ Along DiscountDesk.next DiscountDesk.Sound openDay
        [.validate 0 (visitor 1 0 "a@x") (some "ten") 1, .finish 0 1 false] ∧
    (openDay.after [.validate 0 (visitor 1 0 "a@x") (some "ten") 1, .finish 0 1 false]).fees = [] ∧
    (openDay.after [.validate 0 (visitor 1 1 "a@x") none 1, .finish 0 1 false,
      .validate 0 (visitor 1 1 "b@x") (some "ten") 1, .finish 0 1 false,
      .validate 0 (visitor 2 1 "c@x") (some "ten") 1, .finish 0 1 false]).fees = [0, 0] ∧
    (openDay.after [.validate 0 (visitor 1 1 "a@x") none 1, .finish 0 1 false,
      .validate 0 (visitor 1 1 "b@x") (some "ten") 1, .finish 0 1 false,
      .validate 0 (visitor 2 1 "c@x") (some "ten") 1, .finish 0 1 false]).usedCount 0 = 2 ∧
    (openDay.after [.validate 0 (visitor 1 1 "a@x") (some "ten") 1, .finish 0 1 true]).fees =
      [0] ∧
    (openDay.after [.validate 0 (visitor 1 1 "a@x") (some "ten") 1,
      .finish 0 1 true]).usedCount 0 = 0 := by
  refine ⟨fun h => ?_, by decide +kernel, by decide +kernel, by decide +kernel, by decide +kernel,
    by decide +kernel⟩
  have hcount := congrFun (h [_] _ [] rfl).usedCount 0
  exact absurd hcount (by decide +kernel)

end Afcon360.Events
