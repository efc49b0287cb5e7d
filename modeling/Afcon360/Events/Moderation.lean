import Afcon360.Foundation.Guard
import Afcon360.Foundation.Run
import Mathlib.Data.List.Sort

/-!
# The status of an event

`constants.ALLOWED_TRANSITIONS` says which changes of status there are, and every change is to
leave a row in the moderation log. `Event.transition_to` goes by that table. The methods of
`EventService` go by a table of their own, or by none.

The column holds texts, so what an event loaded from the database has for a status is a plain
string: it is equal to a member of the enumeration and found among the keys of a table, but it
has no `value`.
-/

namespace Afcon360.Events

open Foundation

inductive EventStatus
  | draft | pendingApproval | approved | rejected | published | suspended | paused | completed
  | cancelled | archived | deleted | active
deriving DecidableEq, Repr

namespace EventStatus

def value : EventStatus → String
  | .draft => "draft"
  | .pendingApproval => "pending_approval"
  | .approved => "approved"
  | .rejected => "rejected"
  | .published => "published"
  | .suspended => "suspended"
  | .paused => "paused"
  | .completed => "completed"
  | .cancelled => "cancelled"
  | .archived => "archived"
  | .deleted => "deleted"
  | .active => "active"

def members : List EventStatus :=
  [.draft, .pendingApproval, .approved, .rejected, .published, .suspended, .paused, .completed,
    .cancelled, .archived, .deleted, .active]

/-- `EventStatus(text)`; `none` is a `ValueError`. -/
def ofText? (text : String) : Option EventStatus :=
    members.find? (fun status => status.value = text)

/-- `constants.ALLOWED_TRANSITIONS`. -/
def allowedTransitions : EventStatus → List EventStatus
  | .draft => [.pendingApproval, .archived, .deleted]
  | .pendingApproval => [.approved, .rejected, .draft, .archived, .deleted]
  | .approved => [.published, .rejected, .draft, .archived, .deleted]
  | .rejected => [.draft, .archived, .deleted]
  | .published => [.suspended, .paused, .completed, .cancelled, .approved, .archived, .deleted]
  | .suspended => [.published, .cancelled, .archived, .deleted]
  | .paused => [.published, .cancelled, .archived, .deleted]
  | .completed => [.archived, .deleted]
  | .cancelled => [.archived, .deleted]
  | .archived => [.deleted]
  | .deleted => []
  | .active => [.published]

/-- `validate_transition` of a stored status and a text. -/
def validateTransition (current : EventStatus) (target : String) : Except String EventStatus :=
  if current.value = target then
    .error ("Event is already in status '" ++ current.value ++ "'.")
  else
    match current.allowedTransitions.find? (fun status => status.value = target) with
    | some status => .ok status
    | none =>
      let allowed := (current.allowedTransitions.map value).insertionSort (· ≤ ·)
      .error ("Cannot transition from '" ++ current.value ++ "' to '" ++ target ++
        "'. Allowed: " ++ if allowed = [] then "none (terminal)" else ", ".intercalate allowed)

/-- The table of `change_event_status`; `none` where the status is not a key of it. -/
def serviceTransitions : EventStatus → Option (List EventStatus)
  | .pendingApproval => some [.approved, .rejected]
  | .approved => some [.published]
  | .published => some [.suspended, .paused, .cancelled]
  | .suspended => some [.published]
  | .paused => some [.published]
  | .cancelled => some [.archived]
  | .rejected => some [.deleted]
  | .draft => some [.pendingApproval, .deleted]
  | .archived => some [.deleted]
  | .completed | .deleted | .active => none

/-- `ACTION_MAP`. -/
def action : EventStatus → EventStatus → String
  | .pendingApproval, .approved => "approve"
  | .pendingApproval, .rejected => "reject"
  | .published, .suspended => "suspend"
  | .suspended, .published => "reactivate"
  | .published, .paused => "pause"
  | .paused, .published => "resume"
  | .draft, .deleted => "delete"
  | .rejected, .deleted => "delete"
  | .archived, .deleted => "delete"
  | .approved, .published => "publish"
  | .published, .cancelled => "cancel"
  | .cancelled, .archived => "archive"
  | _, _ => "status_change"

/-- `transition_to` writes its actor into a column of the event. -/
def stampsActor : EventStatus → Bool
  | .approved | .suspended | .published | .archived | .deleted => true
  | _ => false

theorem value_injective {status other : EventStatus} (h : status.value = other.value) :
    status = other := by
  cases status <;> cases other <;> simp_all [value]

theorem not_mem_allowedTransitions (status : EventStatus) :
    status ∉ status.allowedTransitions := by
  cases status <;> decide

theorem validateTransition_ok_iff {current target : EventStatus} {text : String} :
    current.validateTransition text = .ok target ↔
      target ∈ current.allowedTransitions ∧ target.value = text := by
  unfold validateTransition
  constructor
  · intro h
    split at h
    · cases h
    · split at h
      · rename_i found hfound
        cases h
        exact ⟨List.mem_of_find?_eq_some hfound, by simpa using List.find?_some hfound⟩
      · cases h
  · rintro ⟨hmem, rfl⟩
    have hdiffer : current.value ≠ target.value := by
      intro hsame
      rw [value_injective hsame] at hmem
      exact target.not_mem_allowedTransitions hmem
    rw [if_neg hdiffer]
    split
    · rename_i found hfound
      have hsame : found.value = target.value := by simpa using List.find?_some hfound
      rw [value_injective hsame]
    · rename_i hnone
      have := List.find?_eq_none.mp hnone target hmem
      simp at this

end EventStatus

/-- What the database knows of users. -/
structure Users where
  exist : ℕ → Bool
  hasGlobalPermission : ℕ → String → Bool

structure ModeratedEvent where
  slug : String
  status : EventStatus
  /-- The open content flags of the event. -/
  openFlags : ℕ := 0
  /-- `auto_publish_on_approval` in the metadata. -/
  autoPublish : Bool := false
deriving DecidableEq

structure EventModerationLog where
  eventId : ℕ
  userId : ℕ
  action : String
  fromStatus : EventStatus
  toStatus : EventStatus
  reason : Option String
deriving DecidableEq

inductive Raised
  | attributeError (message : String)
  | nameError (message : String)
  | valueError (message : String)
  | integrityError
deriving DecidableEq, Repr

/-- What a call answers: a success, an error that it returns, or an exception. -/
inductive ModerationAnswer
  | done
  | refused (message : String)
  | raised (e : Raised)
deriving DecidableEq, Repr

/-- The events, with their positions as ids, and the moderation log. -/
structure EventDesk where
  events : List ModeratedEvent
  logs : List EventModerationLog := []
deriving DecidableEq

inductive EventCall
  | changeEventStatus (users : Users) (slug newStatus : String) (userId : ℕ)
      (reason : Option String)
  | approveEvent (users : Users) (slug : String) (adminId : ℕ)
  | rejectEvent (slug : String) (adminId : ℕ) (reason : Option String)
  | deleteEvent (slug : String) (userId : ℕ)
  /-- `Event.transition_to`, and the commit of its caller, who may add the log row before. -/
  | transitionTo (users : Users) (eventId : ℕ) (newStatus : String) (actorId : ℕ)
      (reason : Option String) (addsLog : Bool)
  /-- Others open and close content flags. -/
  | flag (eventId openFlags : ℕ)

namespace EventDesk

/-- `get_event_model`: the first event with this slug. -/
def getEventModel (s : EventDesk) (slug : String) : Option (ℕ × ModeratedEvent) :=
  (s.events.findIdx? (fun event => event.slug = slug)).bind fun id =>
    s.events[id]?.map fun event => (id, event)

def setStatus (s : EventDesk) (id : ℕ) (event : ModeratedEvent) (status : EventStatus) :
    EventDesk :=
  { s with events := s.events.set id { event with status } }

/-- `.value` of a plain string. -/
def noValue : Raised := .attributeError "'str' object has no attribute 'value'"

/-- The rights `change_event_status` asks for. `_is_event_owner` is not imported there. -/
def changeRights (users : Users) (userId : ℕ) (target : EventStatus) :
    Except ModerationAnswer Unit :=
  match target with
  | .approved | .rejected =>
    require (users.hasGlobalPermission userId "events.approve")
      (.refused "You do not have permission to approve or reject events")
  | .suspended | .deleted =>
    require (users.hasGlobalPermission userId "content.moderate")
      (.refused "You do not have permission to suspend or delete events")
  | .published => .error (.raised (.nameError "name '_is_event_owner' is not defined"))
  | _ => .ok ()

/-- `_assert_no_open_flags`. -/
def assertNoOpenFlags (id : ℕ) (event : ModeratedEvent) : Except ModerationAnswer Unit :=
  require (event.openFlags = 0) (.raised (.valueError ("Cannot publish event " ++ toString id ++
    ": " ++ toString event.openFlags ++ " open moderation flag(s) must be resolved first.")))

/-- The checks of `change_event_status` up to its writes. -/
def changeChecks (users : Users) (id : ℕ) (event : ModeratedEvent) (newStatus : String)
    (userId : ℕ) : Except ModerationAnswer EventStatus :=
  match EventStatus.ofText? newStatus with
  | none => .error (.refused ("Invalid status: " ++ newStatus))
  | some target => do
      -- The texts of both refusals read the value of the stored status.
      match event.status.serviceTransitions with
      | none => .error (.raised noValue)
      | some targets => require (target ∈ targets) (.raised noValue)
      require (users.exist userId) (.refused "User not found")
      changeRights users userId target
      if target = .published then assertNoOpenFlags id event
      pure (if event.status = .approved ∧ target = .approved ∧ event.autoPublish then .published
        else target)

/-- `change_event_status`. After the commit the text of the log message reads the value of the
old status, and the error of that is returned. -/
def changeEventStatus (s : EventDesk) (users : Users) (slug newStatus : String) (userId : ℕ)
    (reason : Option String) : EventDesk × ModerationAnswer :=
  match s.getEventModel slug with
  | none => (s, .refused "Event not found")
  | some (id, event) =>
    match changeChecks users id event newStatus userId with
    | .error answer => (s, answer)
    | .ok target =>
      ({ s.setStatus id event target with
          logs := s.logs ++
            [⟨id, userId, event.status.action target, event.status, target, reason⟩] },
        .refused "'str' object has no attribute 'value'")

/-- `approve_event`. The administrator is a foreign key of the event. -/
def approveEvent (s : EventDesk) (users : Users) (slug : String) (adminId : ℕ) :
    EventDesk × ModerationAnswer :=
  match s.getEventModel slug with
  | none => (s, .refused "Event not found")
  | some (id, event) =>
    match assertNoOpenFlags id event with
    | .error answer => (s, answer)
    | .ok () =>
      if users.exist adminId then (s.setStatus id event .published, .done)
      else (s, .raised .integrityError)

/-- `reject_event`. -/
def rejectEvent (s : EventDesk) (slug : String) : EventDesk × ModerationAnswer :=
  match s.getEventModel slug with
  | none => (s, .refused "Event not found")
  | some (id, event) => (s.setStatus id event .rejected, .done)

/-- `delete_event`. `User` is not imported there. -/
def deleteEvent (s : EventDesk) (slug : String) : EventDesk × ModerationAnswer :=
  match s.getEventModel slug with
  | none => (s, .refused "Event not found")
  | some _ => (s, .raised (.nameError "name 'User' is not defined"))

/-- `Event.transition_to` with the commit of its caller. -/
def transitionTo (s : EventDesk) (users : Users) (id : ℕ) (newStatus : String) (actorId : ℕ)
    (reason : Option String) (addsLog : Bool) : EventDesk × ModerationAnswer :=
  match s.events[id]? with
  | none => (s, .done)
  | some event =>
    match event.status.validateTransition newStatus with
    | .error message => (s, .raised (.valueError message))
    | .ok target =>
      if (addsLog ∨ target.stampsActor) ∧ ¬ users.exist actorId then
        (s, .raised .integrityError)
      else
        ({ s.setStatus id event target with
            logs := s.logs ++ if addsLog then
              [⟨id, actorId, event.status.value ++ "_to_" ++ newStatus, event.status, target,
                reason⟩]
            else [] },
          .done)

def perform (s : EventDesk) : EventCall → EventDesk × ModerationAnswer
  | .changeEventStatus users slug newStatus userId reason =>
    s.changeEventStatus users slug newStatus userId reason
  | .approveEvent users slug adminId => s.approveEvent users slug adminId
  | .rejectEvent slug _ _ => s.rejectEvent slug
  | .deleteEvent slug _ => s.deleteEvent slug
  | .transitionTo users eventId newStatus actorId reason addsLog =>
    s.transitionTo users eventId newStatus actorId reason addsLog
  | .flag eventId openFlags =>
    ({ s with events := s.events.modify eventId (fun event => { event with openFlags }) }, .done)

def Step (s : EventDesk) (call : EventCall) (t : EventDesk) : Prop := (s.perform call).1 = t

/-! ## What is asked of a call -/

/-- A change of a status is an edge of the table and in the log, and nothing else is; an event
with open flags is not published; and what is rejected is told, and changes nothing. -/
structure Right (s : EventDesk) (call : EventCall) : Prop where
  changed : ∀ (id : ℕ) (event later : ModeratedEvent), s.events[id]? = some event →
    (s.perform call).1.events[id]? = some later → event.status ≠ later.status →
    later.status ∈ event.status.allowedTransitions ∧
      (later.status = .published → event.openFlags = 0) ∧
      ∃ entry, (s.perform call).1.logs = s.logs ++ [entry] ∧ entry.eventId = id ∧
        entry.fromStatus = event.status ∧ entry.toStatus = later.status
  unchanged : (s.perform call).1.events.map ModeratedEvent.status =
      s.events.map ModeratedEvent.status → (s.perform call).1.logs = s.logs
  rejected : (s.perform call).2 ≠ .done →
    (s.perform call).1 = s ∧ ∃ message, (s.perform call).2 = .refused message

/-- The user lacks a right for this change that `change_event_status` asks for. -/
def Denied (users : Users) (userId : ℕ) (target : EventStatus) : Prop :=
  ((target = .approved ∨ target = .rejected) ∧
      users.hasGlobalPermission userId "events.approve" = false) ∨
    ((target = .suspended ∨ target = .deleted) ∧
      users.hasGlobalPermission userId "content.moderate" = false)

/-- The calls that do what is asked. Of those that change a status it is `transition_to` alone:
along an edge, not to publish an event with open flags, by a user, and with the log row added.
The others find no event, or a text that is no status, or turn away a change of their table, or
write the status that is there. -/
def Keeps (s : EventDesk) : EventCall → Prop
  | .changeEventStatus users slug newStatus userId _ =>
    ∀ id event, s.getEventModel slug = some (id, event) →
      ∀ target, EventStatus.ofText? newStatus = some target →
        (∃ targets, event.status.serviceTransitions = some targets ∧ target ∈ targets) ∧
          (users.exist userId = false ∨ Denied users userId target)
  | .approveEvent users slug adminId =>
    ∀ id event, s.getEventModel slug = some (id, event) →
      event.status = .published ∧ event.openFlags = 0 ∧ users.exist adminId = true
  | .rejectEvent slug _ _ =>
    ∀ id event, s.getEventModel slug = some (id, event) → event.status = .rejected
  | .deleteEvent slug _ => s.getEventModel slug = none
  | .transitionTo users eventId newStatus actorId _ addsLog =>
    ∀ event, s.events[eventId]? = some event →
      ∃ target ∈ event.status.allowedTransitions, target.value = newStatus ∧
        (target = .published → event.openFlags = 0) ∧ addsLog = true ∧
        users.exist actorId = true
  | .flag _ _ => True

/-- The rows of the log that are about one event lead from one status to another along the
edges of the table. -/
def Trail : EventStatus → List EventModerationLog → EventStatus → Prop
  | first, [], last => first = last
  | first, entry :: rest, last =>
    entry.fromStatus = first ∧ entry.toStatus ∈ first.allowedTransitions ∧
      Trail entry.toStatus rest last

variable {s t : EventDesk} {call : EventCall} {calls : List EventCall} {id : ℕ}
  {event : ModeratedEvent} {users : Users} {slug newStatus : String} {userId adminId : ℕ}

variable {reason : Option String} {status : EventStatus}

/-! ## Calls that are refused -/

theorem getEventModel_some (h : s.getEventModel slug = some (id, event)) :
    s.events[id]? = some event := by
  unfold getEventModel at h
  obtain ⟨found, -, h⟩ := Option.bind_eq_some_iff.mp h
  obtain ⟨row, hrow, hpair⟩ := Option.map_eq_some_iff.mp h
  cases hpair
  exact hrow

/-- A call that changes nothing is right unless it raises. -/
theorem right_of_same (hsame : (s.perform call).1 = s)
    (hanswer : ∀ e, (s.perform call).2 ≠ .raised e) : s.Right call where
  changed := by
    intro id event later hevent hlater hdiffer
    rw [hsame, hevent] at hlater
    cases hlater
    exact absurd rfl hdiffer
  unchanged := fun _ => congrArg EventDesk.logs hsame
  rejected := by
    intro hfailed
    refine ⟨hsame, ?_⟩
    cases hcase : (s.perform call).2 with
    | done => exact absurd hcase hfailed
    | refused message => exact ⟨message, rfl⟩
    | raised e => exact absurd hcase (hanswer e)

theorem not_right_of_raised (h : ∃ e, (s.perform call).2 = .raised e) : ¬ s.Right call := by
  obtain ⟨e, h⟩ := h
  intro right
  obtain ⟨-, message, hmessage⟩ := right.rejected (by rw [h]; simp)
  rw [h] at hmessage
  cases hmessage

theorem setStatus_self (h : s.events[id]? = some event) (status : EventStatus) :
    (s.setStatus id event status).events[id]? = some { event with status } := by
  have hlt := (List.getElem?_eq_some_iff.mp h).1
  simp [setStatus, hlt]

theorem setStatus_eq_self (h : s.events[id]? = some event)
    (hstatus : event.status = status) : s.setStatus id event status = s := by
  subst hstatus
  have hset : s.events.set id event = s.events := by
    apply List.ext_getElem?
    intro i
    rw [List.getElem?_set]
    split
    · rename_i hid
      subst hid
      rw [h, if_pos (List.getElem?_eq_some_iff.mp h).1]
    · rfl
  exact congrArg (fun events => { s with events }) hset

/-- A status that is written without a row in the log has to be the one that is there. -/
theorem right_of_silent_iff (h : s.events[id]? = some event)
    (hperform : s.perform call = (s.setStatus id event status, .done)) :
    s.Right call ↔ event.status = status := by
  constructor
  · intro right
    by_contra hdiffer
    have hlater : (s.perform call).1.events[id]? = some { event with status } := by
      rw [hperform]
      exact setStatus_self h status
    obtain ⟨-, -, entry, hlogs, -⟩ := right.changed id event _ h hlater hdiffer
    rw [hperform] at hlogs
    simp [setStatus] at hlogs
  · intro hstatus
    refine right_of_same ?_ ?_
    · rw [hperform]
      exact setStatus_eq_self h hstatus
    · rw [hperform]
      simp

/-- A change along an edge that is in the log is right unless it publishes a flagged event. -/
theorem right_of_logged_iff {entry : EventModerationLog}
    (h : s.events[id]? = some event) (hmem : status ∈ event.status.allowedTransitions)
    (hperform : s.perform call =
      ({ s.setStatus id event status with logs := s.logs ++ [entry] }, .done))
    (hid : entry.eventId = id) (hfrom : entry.fromStatus = event.status)
    (hto : entry.toStatus = status) :
    s.Right call ↔ (status = .published → event.openFlags = 0) := by
  have hlater : (s.perform call).1.events[id]? = some { event with status } := by
    rw [hperform]
    exact setStatus_self h status
  have hdiffer : event.status ≠ status := by
    rintro rfl
    exact event.status.not_mem_allowedTransitions hmem
  constructor
  · intro right
    exact (right.changed id event _ h hlater hdiffer).2.1
  · intro hflags
    refine ⟨?_, ?_, ?_⟩
    · intro other before later hbefore hafter hchanged
      by_cases hother : other = id
      · subst hother
        cases h.symm.trans hbefore
        cases hlater.symm.trans hafter
        refine ⟨hmem, hflags, entry, ?_, hid, hfrom, hto⟩
        rw [hperform]
      · rw [hperform] at hafter
        simp only [setStatus, List.getElem?_set_ne (Ne.symm hother)] at hafter
        cases hbefore.symm.trans hafter
        exact absurd rfl hchanged
    · intro hsame
      have hstatus := congrArg (fun statuses => statuses[id]?) hsame
      simp only [List.getElem?_map, hlater, h, Option.map_some, Option.some.injEq] at hstatus
      exact absurd hstatus.symm hdiffer
    · intro hfailed
      rw [hperform] at hfailed
      exact absurd rfl hfailed

/-! ## The service -/

/-- The service turns a change away that its table has. -/
def TurnedAway (users : Users) (event : ModeratedEvent) (userId : ℕ) (target : EventStatus) :
    Prop :=
  (∃ targets, event.status.serviceTransitions = some targets ∧ target ∈ targets) ∧
    (users.exist userId = false ∨ Denied users userId target)

/-- The rights are asked for as `Denied` says, except that a publication raises. -/
theorem changeRights_cases (users : Users) (userId : ℕ) (target : EventStatus) :
    (Denied users userId target ∧ ∃ message, changeRights users userId target =
        .error (.refused message)) ∨
      ¬ Denied users userId target ∧
        ((∃ e, changeRights users userId target = .error (.raised e)) ∨
          target ≠ .published ∧ changeRights users userId target = .ok ()) := by
  cases target with
  | approved | rejected =>
    cases hright : users.hasGlobalPermission userId "events.approve" with
    | true => exact .inr ⟨by simp [Denied, hright], .inr ⟨by simp, by simp [changeRights, hright]⟩⟩
    | false =>
      exact .inl ⟨by simp [Denied, hright], _, by simp [changeRights, hright, require]; rfl⟩
  | suspended | deleted =>
    cases hright : users.hasGlobalPermission userId "content.moderate" with
    | true => exact .inr ⟨by simp [Denied, hright], .inr ⟨by simp, by simp [changeRights, hright]⟩⟩
    | false =>
      exact .inl ⟨by simp [Denied, hright], _, by simp [changeRights, hright, require]; rfl⟩
  | published => exact .inr ⟨by simp [Denied], .inl ⟨_, rfl⟩⟩
  | _ => exact .inr ⟨by simp [Denied], .inr ⟨by simp, rfl⟩⟩

/-- The checks refuse a change where it is turned away; all else raises or goes on. -/
theorem changeChecks_cases (users : Users) (id : ℕ) (event : ModeratedEvent) (userId : ℕ)
    {target : EventStatus} (h : EventStatus.ofText? newStatus = some target) :
    (TurnedAway users event userId target ∧ ∃ message,
        changeChecks users id event newStatus userId = .error (.refused message)) ∨
      ¬ TurnedAway users event userId target ∧
        ((∃ e, changeChecks users id event newStatus userId = .error (.raised e)) ∨
          ∃ written, changeChecks users id event newStatus userId = .ok written) := by
  unfold changeChecks
  rw [h]
  dsimp only
  cases htable : event.status.serviceTransitions with
  | none => exact .inr ⟨by simp [TurnedAway, htable], .inl ⟨_, rfl⟩⟩
  | some targets =>
    by_cases hmem : target ∈ targets
    · have hlisted : ∃ targets, event.status.serviceTransitions = some targets ∧
          target ∈ targets := ⟨targets, htable, hmem⟩
      cases hexist : users.exist userId with
      | false => exact .inl ⟨⟨hlisted, .inl hexist⟩, _, by simp [hmem, require]; rfl⟩
      | true =>
        rcases changeRights_cases users userId target with ⟨hdenied, message, hrefused⟩ |
          ⟨hrights, ⟨e, hraises⟩ | ⟨hpublished, hpasses⟩⟩
        · exact .inl ⟨⟨hlisted, .inr hdenied⟩, message, by simp [hmem, hrefused, require]; rfl⟩
        · exact .inr ⟨by simp [TurnedAway, hexist, hrights], .inl ⟨e, by
            simp [hmem, hraises, require]; rfl⟩⟩
        · exact .inr ⟨by simp [TurnedAway, hexist, hrights], .inr ⟨_, by
            simp [hmem, hpasses, hpublished, require]; rfl⟩⟩
    · exact .inr ⟨by simp [TurnedAway, htable, hmem], .inl ⟨_, by simp [hmem, require]; rfl⟩⟩

theorem right_changeEventStatus_iff :
    s.Right (.changeEventStatus users slug newStatus userId reason) ↔
      s.Keeps (.changeEventStatus users slug newStatus userId reason) := by
  cases hfound : s.getEventModel slug with
  | none =>
    refine iff_of_true (right_of_same ?_ ?_) ?_
    · simp [perform, changeEventStatus, hfound]
    · simp [perform, changeEventStatus, hfound]
    · simp [Keeps, hfound]
  | some pair =>
    obtain ⟨id, event⟩ := pair
    cases htext : EventStatus.ofText? newStatus with
    | none =>
      have hchecks : changeChecks users id event newStatus userId =
          .error (.refused ("Invalid status: " ++ newStatus)) := by
        simp [changeChecks, htext]
      refine iff_of_true (right_of_same ?_ ?_) ?_
      · simp [perform, changeEventStatus, hfound, hchecks]
      · simp [perform, changeEventStatus, hfound, hchecks]
      · simp [Keeps, htext]
    | some target =>
      have hkeeps : s.Keeps (.changeEventStatus users slug newStatus userId reason) ↔
          TurnedAway users event userId target := by
        simp [Keeps, TurnedAway, hfound, htext]
      rw [hkeeps]
      rcases changeChecks_cases users id event userId htext with
        ⟨haway, message, hrefused⟩ | ⟨hnot, ⟨e, hraises⟩ | ⟨written, hwritten⟩⟩
      · refine iff_of_true (right_of_same ?_ ?_) haway
        · simp [perform, changeEventStatus, hfound, hrefused]
        · simp [perform, changeEventStatus, hfound, hrefused]
      · refine iff_of_false (not_right_of_raised ⟨e, ?_⟩) hnot
        simp [perform, changeEventStatus, hfound, hraises]
      · -- the change is committed, and an error is returned
        refine iff_of_false (fun right => ?_) hnot
        have hsame := (right.rejected (by
          simp [perform, changeEventStatus, hfound, hwritten])).1
        have hlogs := congrArg (fun desk => desk.logs.length) hsame
        simp [perform, changeEventStatus, hfound, hwritten] at hlogs

theorem assertNoOpenFlags_raises (id : ℕ) (h : event.openFlags ≠ 0) :
    ∃ e, assertNoOpenFlags id event = .error (.raised e) := by
  unfold assertNoOpenFlags require
  rw [if_neg h]
  exact ⟨_, rfl⟩

theorem right_approveEvent_iff :
    s.Right (.approveEvent users slug adminId) ↔ s.Keeps (.approveEvent users slug adminId) := by
  cases hfound : s.getEventModel slug with
  | none =>
    refine iff_of_true (right_of_same ?_ ?_) ?_
    · simp [perform, approveEvent, hfound]
    · simp [perform, approveEvent, hfound]
    · simp [Keeps, hfound]
  | some pair =>
    obtain ⟨id, event⟩ := pair
    have hkeeps : s.Keeps (.approveEvent users slug adminId) ↔
        event.status = .published ∧ event.openFlags = 0 ∧ users.exist adminId = true := by
      simp [Keeps, hfound]
    rw [hkeeps]
    by_cases hflags : event.openFlags = 0
    · cases hexist : users.exist adminId with
      | true =>
        have hperform : s.perform (.approveEvent users slug adminId) =
            (s.setStatus id event .published, .done) := by
          simp [perform, approveEvent, hfound, assertNoOpenFlags, hflags, require, hexist]
        rw [right_of_silent_iff (getEventModel_some hfound) hperform]
        simp [hflags]
      | false =>
        refine iff_of_false (not_right_of_raised ⟨.integrityError, ?_⟩) (by simp)
        simp [perform, approveEvent, hfound, assertNoOpenFlags, hflags, require, hexist]
    · obtain ⟨e, hraises⟩ := assertNoOpenFlags_raises id hflags
      refine iff_of_false (not_right_of_raised ⟨e, ?_⟩) (by simp [hflags])
      simp [perform, approveEvent, hfound, hraises]

theorem right_rejectEvent_iff :
    s.Right (.rejectEvent slug adminId reason) ↔ s.Keeps (.rejectEvent slug adminId reason) := by
  cases hfound : s.getEventModel slug with
  | none =>
    refine iff_of_true (right_of_same ?_ ?_) ?_
    · simp [perform, rejectEvent, hfound]
    · simp [perform, rejectEvent, hfound]
    · simp [Keeps, hfound]
  | some pair =>
    obtain ⟨id, event⟩ := pair
    have hperform : s.perform (.rejectEvent slug adminId reason) =
        (s.setStatus id event .rejected, .done) := by
      simp [perform, rejectEvent, hfound]
    rw [right_of_silent_iff (getEventModel_some hfound) hperform]
    simp [Keeps, hfound]

theorem right_deleteEvent_iff :
    s.Right (.deleteEvent slug userId) ↔ s.Keeps (.deleteEvent slug userId) := by
  cases hfound : s.getEventModel slug with
  | none =>
    refine iff_of_true (right_of_same ?_ ?_) hfound
    · simp [perform, deleteEvent, hfound]
    · simp [perform, deleteEvent, hfound]
  | some pair =>
    have hraises : (s.perform (.deleteEvent slug userId)).2 =
        .raised (.nameError "name 'User' is not defined") := by
      simp [perform, deleteEvent, hfound]
    exact iff_of_false (not_right_of_raised ⟨_, hraises⟩) (by simp [Keeps, hfound])

/-! ## `transition_to` -/

theorem right_transitionTo_iff {addsLog : Bool} :
    s.Right (.transitionTo users id newStatus userId reason addsLog) ↔
      s.Keeps (.transitionTo users id newStatus userId reason addsLog) := by
  cases hrow : s.events[id]? with
  | none =>
    refine iff_of_true (right_of_same ?_ ?_) ?_
    · simp [perform, transitionTo, hrow]
    · simp [perform, transitionTo, hrow]
    · simp [Keeps, hrow]
  | some event =>
    cases hvalid : event.status.validateTransition newStatus with
    | error message =>
      refine iff_of_false (not_right_of_raised ⟨.valueError message, ?_⟩) ?_
      · simp [perform, transitionTo, hrow, hvalid]
      · intro keeps
        obtain ⟨target, hmem, htext, -⟩ := keeps event hrow
        rw [EventStatus.validateTransition_ok_iff.mpr ⟨hmem, htext⟩] at hvalid
        cases hvalid
    | ok target =>
      obtain ⟨hmem, htext⟩ := EventStatus.validateTransition_ok_iff.mp hvalid
      have hkeeps : s.Keeps (.transitionTo users id newStatus userId reason addsLog) ↔
          (target = .published → event.openFlags = 0) ∧ addsLog = true ∧
            users.exist userId = true := by
        constructor
        · intro keeps
          obtain ⟨other, -, hother, hrest⟩ := keeps event hrow
          rwa [EventStatus.value_injective (hother.trans htext.symm)] at hrest
        · intro hrest other hother
          cases hrow.symm.trans hother
          exact ⟨target, hmem, htext, hrest⟩
      rw [hkeeps]
      have hdiffer : event.status ≠ target := by
        rintro rfl
        exact event.status.not_mem_allowedTransitions hmem
      cases addsLog with
      | true =>
        cases hexist : users.exist userId with
        | false =>
          refine iff_of_false (not_right_of_raised ⟨.integrityError, ?_⟩) (by simp)
          simp [perform, transitionTo, hrow, hvalid, hexist]
        | true =>
          have hperform : s.perform (.transitionTo users id newStatus userId reason true) =
              ({ s.setStatus id event target with
                logs := s.logs ++ [⟨id, userId, event.status.value ++ "_to_" ++ newStatus,
                  event.status, target, reason⟩] }, .done) := by
            simp [perform, transitionTo, hrow, hvalid, hexist]
          rw [right_of_logged_iff hrow hmem hperform rfl rfl rfl]
          simp
      | false =>
        refine iff_of_false (fun right => ?_) (by simp)
        by_cases hraises : target.stampsActor ∧ ¬ users.exist userId
        · refine not_right_of_raised ⟨.integrityError, ?_⟩ right
          simp [perform, transitionTo, hrow, hvalid, hraises]
        · have hperform : s.perform (.transitionTo users id newStatus userId reason false) =
              (s.setStatus id event target, .done) := by
            simp only [perform, transitionTo, hrow, hvalid, Bool.false_eq_true, false_or,
              if_neg hraises, if_false, List.append_nil]
            rfl
          exact hdiffer ((right_of_silent_iff hrow hperform).mp right)

/-! ## Runs -/

theorem right_iff (s : EventDesk) (call : EventCall) : s.Right call ↔ s.Keeps call := by
  cases call with
  | changeEventStatus users slug newStatus userId reason => exact right_changeEventStatus_iff
  | approveEvent users slug adminId => exact right_approveEvent_iff
  | rejectEvent slug adminId reason => exact right_rejectEvent_iff
  | deleteEvent slug userId => exact right_deleteEvent_iff
  | transitionTo users eventId newStatus actorId reason addsLog => exact right_transitionTo_iff
  | flag eventId openFlags =>
    refine iff_of_true ⟨?_, fun _ => rfl, fun hfailed => absurd rfl hfailed⟩ trivial
    intro id event later hevent hlater hdiffer
    refine absurd ?_ hdiffer
    simp only [perform, List.getElem?_modify] at hlater
    rw [hevent] at hlater
    split at hlater
    · cases hlater
      rfl
    · cases hlater
      rfl

theorem perform_length (s : EventDesk) (call : EventCall) :
    (s.perform call).1.events.length = s.events.length := by
  cases call with
  | changeEventStatus =>
    simp only [perform, changeEventStatus]
    split
    · rfl
    · split <;> simp [setStatus]
  | approveEvent =>
    simp only [perform, approveEvent]
    split
    · rfl
    · split
      · rfl
      · split <;> simp [setStatus]
  | rejectEvent =>
    simp only [perform, rejectEvent]
    split <;> simp [setStatus]
  | deleteEvent =>
    simp only [perform, deleteEvent]
    split <;> rfl
  | transitionTo =>
    simp only [perform, transitionTo]
    split
    · rfl
    · split
      · rfl
      · split <;> simp [setStatus]
  | flag => simp [perform]

/-- The log since one state leads every event to its status in another. -/
def Logged (s t : EventDesk) : Prop :=
  ∃ entries, t.logs = s.logs ++ entries ∧ ∀ (id : ℕ) (event : ModeratedEvent),
    s.events[id]? = some event → ∃ later, t.events[id]? = some later ∧
      Trail event.status (entries.filter (fun entry => entry.eventId = id)) later.status

theorem Trail.append {first middle last : EventStatus} {entries rest : List EventModerationLog}
    (h : Trail first entries middle) (hrest : Trail middle rest last) :
    Trail first (entries ++ rest) last := by
  induction entries generalizing first with
  | nil =>
    obtain rfl := h
    exact hrest
  | cons entry entries ih => exact ⟨h.1, h.2.1, ih h.2.2⟩

theorem Logged.refl (s : EventDesk) : Logged s s :=
  ⟨[], by simp, fun id event h => ⟨event, h, rfl⟩⟩

theorem Logged.trans {middle : EventDesk} (first : Logged s middle) (second : Logged middle t) :
    Logged s t := by
  obtain ⟨entries, hlogs, hevents⟩ := first
  obtain ⟨rest, hlogs', hevents'⟩ := second
  refine ⟨entries ++ rest, by rw [hlogs', hlogs, List.append_assoc], ?_⟩
  intro id event h
  obtain ⟨between, hbetween, htrail⟩ := hevents id event h
  obtain ⟨later, hlater, htrail'⟩ := hevents' id between hbetween
  refine ⟨later, hlater, ?_⟩
  rw [List.filter_append]
  exact htrail.append htrail'

theorem Right.logged (right : s.Right call) : Logged s (s.perform call).1 := by
  have hthere : ∀ (id : ℕ) (event : ModeratedEvent), s.events[id]? = some event →
      ∃ later, (s.perform call).1.events[id]? = some later := by
    intro id event h
    have hlt := (List.getElem?_eq_some_iff.mp h).1
    rw [← perform_length s call] at hlt
    exact ⟨_, List.getElem?_eq_getElem hlt⟩
  by_cases hsame : (s.perform call).1.events.map ModeratedEvent.status =
      s.events.map ModeratedEvent.status
  · refine ⟨[], by simp [right.unchanged hsame], ?_⟩
    intro id event h
    obtain ⟨later, hlater⟩ := hthere id event h
    have hstatus := congrArg (fun statuses => statuses[id]?) hsame
    simp only [List.getElem?_map, hlater, h, Option.map_some, Option.some.injEq] at hstatus
    exact ⟨later, hlater, hstatus.symm⟩
  · -- some status changed, and its row in the log is the only new one
    obtain ⟨place, before, after, hbefore, hafter, hdiffer⟩ : ∃ (place : ℕ)
        (before after : ModeratedEvent), s.events[place]? = some before ∧
          (s.perform call).1.events[place]? = some after ∧ before.status ≠ after.status := by
      by_contra hnone
      push Not at hnone
      refine hsame (List.ext_getElem? fun id => ?_)
      rw [List.getElem?_map, List.getElem?_map]
      cases hevent : s.events[id]? with
      | none =>
        rw [List.getElem?_eq_none_iff, ← perform_length s call,
          ← List.getElem?_eq_none_iff] at hevent
        rw [hevent]
      | some event =>
        obtain ⟨later, hlater⟩ := hthere id event hevent
        rw [hlater]
        exact congrArg some (hnone id event later hevent hlater).symm
    obtain ⟨hedge, -, entry, hlogs, hid, hfrom, hto⟩ :=
      right.changed place before after hbefore hafter hdiffer
    refine ⟨[entry], hlogs, ?_⟩
    intro id event h
    obtain ⟨later, hlater⟩ := hthere id event h
    refine ⟨later, hlater, ?_⟩
    by_cases hplace : id = place
    · subst hplace
      cases hbefore.symm.trans h
      cases hafter.symm.trans hlater
      rw [List.filter_cons_of_pos (by simpa using hid)]
      exact ⟨hfrom, by rw [hto]; exact hedge, hto⟩
    · have hkept : event.status = later.status := by
        by_contra hchanged
        obtain ⟨-, -, other, hlogs', hid', -⟩ := right.changed id event later h hlater hchanged
        have hentry : [entry] = [other] := List.append_cancel_left (hlogs.symm.trans hlogs')
        rw [← (List.cons.inj hentry).1, hid] at hid'
        exact hplace hid'.symm
      rw [List.filter_cons_of_neg (by simpa [hid] using Ne.symm hplace)]
      exact hkept

/-- Every call of a run is right exactly where every call keeps to the condition, and then the
log leads every event along the table to the status it has. -/
theorem event_life_cycle (s : EventDesk) (calls : List EventCall) (t : EventDesk) :
    (Run (Guarded Right Step) s calls t ↔ Run (Guarded Keeps Step) s calls t) ∧
      (Run (Guarded Keeps Step) s calls t → Logged s t) := by
  have hsame : Guarded Right Step = Guarded Keeps Step := by
    funext s call t
    rw [Guarded, Guarded, right_iff]
  refine ⟨by rw [hsame], fun run => ?_⟩
  refine run.relation Logged Logged.refl (fun _ _ _ => Logged.trans) ?_
  rintro s call _ ⟨keeps, rfl⟩
  exact ((right_iff s call).mpr keeps).logged

/-- A rejected event is published without a row in the log. A draft is submitted and the log has
the row, but the call reports an error. -/
theorem rejected_event_published :
    let users : Users := ⟨fun _ => true, fun _ _ => true⟩
    let desk : EventDesk := { events :=
      [⟨"gala", .rejected, 0, false⟩, ⟨"final", .draft, 0, false⟩] }
    let submit : EventCall := .changeEventStatus users "final" "pending_approval" 1 none
    ¬ desk.Right (.approveEvent users "gala" 1) ∧ ¬ desk.Right submit ∧
      ((desk.perform (.approveEvent users "gala" 1)).1.events.map ModeratedEvent.status,
        (desk.perform (.approveEvent users "gala" 1)).1.logs) = ([.published, .draft], []) ∧
      (desk.perform submit).1.events.map ModeratedEvent.status = [.rejected, .pendingApproval] ∧
      (desk.perform submit).2 = .refused "'str' object has no attribute 'value'" := by
  intro users desk submit
  have hsubmit : (desk.perform submit).1.events.map ModeratedEvent.status =
      [.rejected, .pendingApproval] := by decide +kernel
  have hanswer : (desk.perform submit).2 =
      .refused "'str' object has no attribute 'value'" := by decide +kernel
  have happroved : (desk.perform (.approveEvent users "gala" 1)).1.events.map
      ModeratedEvent.status = [.published, .draft] := by decide +kernel
  have hlogs : (desk.perform (.approveEvent users "gala" 1)).1.logs = [] := by decide +kernel
  refine ⟨?_, ?_, by rw [happroved, hlogs], hsubmit, hanswer⟩
  · intro right
    obtain ⟨-, -, entry, hentry, -⟩ := right.changed 0 ⟨"gala", .rejected, 0, false⟩
      ⟨"gala", .published, 0, false⟩ rfl (by decide +kernel) (by simp)
    rw [hlogs] at hentry
    simp at hentry
  · intro right
    obtain ⟨hsame, -⟩ := right.rejected (by rw [hanswer]; simp)
    rw [hsame] at hsubmit
    cases hsubmit

end EventDesk

end Afcon360.Events
