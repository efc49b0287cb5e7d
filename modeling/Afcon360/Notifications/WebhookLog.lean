import Afcon360.Notifications.Webhook

/-!
# What is logged of a delivery

Requests and answers count since the last replay of their delivery. A row is good when its
attempts, its limit and its status agree with the log; a request keeps it so when the row has
an attempt left.
-/

namespace Afcon360.Notifications

open Foundation

/-! ## What the log says -/

namespace WebhookEvent

def deliveryId : WebhookEvent → ℕ
  | requested deliveryId _ _ => deliveryId
  | replayed deliveryId => deliveryId

def isRequest (deliveryId : ℕ) : WebhookEvent → Bool
  | requested deliveryId' _ _ => deliveryId' = deliveryId
  | replayed _ => false

def isAnswer (deliveryId : ℕ) : WebhookEvent → Bool
  | requested deliveryId' _ ok => deliveryId' = deliveryId ∧ ok = true
  | replayed _ => false

end WebhookEvent

/-- What has happened since the last replay of a delivery. -/
def sinceReplay (deliveryId : ℕ) (log : List WebhookEvent) : List WebhookEvent :=
  log.takeWhile (· ≠ .replayed deliveryId)

/-- The requests for a delivery since its last replay. -/
def requests (deliveryId : ℕ) (log : List WebhookEvent) : ℕ :=
  (sinceReplay deliveryId log).countP (WebhookEvent.isRequest deliveryId)

/-- A 2xx response was received since the last replay. -/
def answered (deliveryId : ℕ) (log : List WebhookEvent) : Bool :=
  (sinceReplay deliveryId log).any (WebhookEvent.isAnswer deliveryId)

def replays (deliveryId : ℕ) (log : List WebhookEvent) : ℕ := log.count (.replayed deliveryId)

/-- No request was made for a suspended subscription, and none for a delivery that was
answered since its last replay. -/
def SoundLog : List WebhookEvent → Prop
  | [] => True
  | .requested deliveryId allowed _ :: log =>
    allowed = true ∧ answered deliveryId log = false ∧ SoundLog log
  | .replayed _ :: log => SoundLog log

section Log

variable {deliveryId other : ℕ} {allowed ok : Bool} {log : List WebhookEvent}

theorem sinceReplay_requested :
    sinceReplay deliveryId (.requested other allowed ok :: log) =
      .requested other allowed ok :: sinceReplay deliveryId log :=
  List.takeWhile_cons_of_pos (by simp)

theorem sinceReplay_replayed :
    sinceReplay deliveryId (.replayed deliveryId :: log) = [] :=
  List.takeWhile_cons_of_neg (by simp)

theorem sinceReplay_replayed_of_ne (h : other ≠ deliveryId) :
    sinceReplay deliveryId (.replayed other :: log) =
      .replayed other :: sinceReplay deliveryId log :=
  List.takeWhile_cons_of_pos (by simp [h])

@[simp] theorem requests_requested :
    requests deliveryId (.requested deliveryId allowed ok :: log) = requests deliveryId
      log + 1 := by
  rw [requests, sinceReplay_requested, List.countP_cons_of_pos (by simp [WebhookEvent.isRequest])]
  rfl

theorem requests_requested_of_ne (h : other ≠ deliveryId) :
    requests deliveryId (.requested other allowed ok :: log) = requests deliveryId log := by
  rw [requests, sinceReplay_requested,
    List.countP_cons_of_neg (by simp [WebhookEvent.isRequest, h])]
  rfl

@[simp] theorem requests_replayed : requests deliveryId (.replayed deliveryId :: log) = 0 := by
  rw [requests, sinceReplay_replayed]
  rfl

theorem requests_replayed_of_ne (h : other ≠ deliveryId) :
    requests deliveryId (.replayed other :: log) = requests deliveryId log := by
  rw [requests, sinceReplay_replayed_of_ne h,
    List.countP_cons_of_neg (by simp [WebhookEvent.isRequest])]
  rfl

@[simp] theorem answered_requested :
    answered deliveryId (.requested deliveryId allowed ok :: log) =
      (ok || answered deliveryId log) := by
  rw [answered, sinceReplay_requested, List.any_cons]
  simp [WebhookEvent.isAnswer, answered]

theorem answered_requested_of_ne (h : other ≠ deliveryId) :
    answered deliveryId (.requested other allowed ok :: log) = answered deliveryId log := by
  rw [answered, sinceReplay_requested, List.any_cons]
  simp [WebhookEvent.isAnswer, answered, h]

@[simp] theorem answered_replayed : answered deliveryId (.replayed deliveryId :: log) = false := by
  rw [answered, sinceReplay_replayed]
  rfl

theorem answered_replayed_of_ne (h : other ≠ deliveryId) :
    answered deliveryId (.replayed other :: log) = answered deliveryId log := by
  rw [answered, sinceReplay_replayed_of_ne h, List.any_cons]
  rfl

@[simp] theorem replays_requested :
    replays deliveryId (.requested other allowed ok :: log) = replays deliveryId log :=
  List.count_cons_of_ne (by simp)

@[simp] theorem replays_replayed :
    replays deliveryId (.replayed deliveryId :: log) = replays deliveryId log + 1 :=
  List.count_cons_self

theorem replays_replayed_of_ne (h : other ≠ deliveryId) :
    replays deliveryId (.replayed other :: log) = replays deliveryId log :=
  List.count_cons_of_ne (by simpa using h)

theorem requests_of_notMem (h : deliveryId ∉ log.map WebhookEvent.deliveryId) :
    requests deliveryId log = 0 ∧ answered deliveryId log = false := by
  induction log with
  | nil => exact ⟨rfl, rfl⟩
  | cons event log ih =>
    simp only [List.map_cons, List.mem_cons, not_or] at h
    obtain ⟨hfirst, hrest⟩ := h
    cases event with
    | requested other allowed ok =>
      have hne : other ≠ deliveryId := Ne.symm hfirst
      rw [requests_requested_of_ne hne, answered_requested_of_ne hne]
      exact ih hrest
    | replayed other =>
      have hne : other ≠ deliveryId := Ne.symm hfirst
      rw [requests_replayed_of_ne hne, answered_replayed_of_ne hne]
      exact ih hrest

end Log

/-! ## A delivery and the log -/

/-- The row of a delivery says what the log says. -/
structure Good (log : List WebhookEvent) (deliveryId : ℕ) (row : WebhookDelivery) : Prop where
  attempts : row.attempts = requests deliveryId log
  limit : 0 < row.attemptLimit
  within : (row.attempts : ℤ) ≤ row.attemptLimit
  left : row.unsettled = true → (row.attempts : ℤ) < row.attemptLimit
  answered : row.status = .delivered ↔ answered deliveryId log = true

section Good

variable {log log' : List WebhookEvent} {deliveryId : ℕ} {row : WebhookDelivery} {now : ℤ}
  {reply : WebhookReply} {allowed : Bool}

theorem Good.congr (h : Good log deliveryId row)
    (hrequests : requests deliveryId log' = requests deliveryId log)
    (hanswered : Notifications.answered deliveryId log' = Notifications.answered deliveryId log) :
    Good log' deliveryId row where
  attempts := h.attempts.trans hrequests.symm
  limit := h.limit
  within := h.within
  left := h.left
  answered := by rw [hanswered]; exact h.answered

theorem orSix_pos {maxAttempts : ℤ} (h : 0 ≤ maxAttempts) : 0 < orSix maxAttempts := by
  unfold orSix
  split <;> omega

/-- An unsettled delivery has not been answered. -/
theorem Good.not_answered (h : Good log deliveryId row) (hrow : row.unsettled = true) :
    Notifications.answered deliveryId log = false := by
  cases hanswered : Notifications.answered deliveryId log with
  | false => rfl
  | true =>
    have hstatus := h.answered.mpr hanswered
    simp [WebhookDelivery.unsettled, hstatus] at hrow

theorem good_cancel (h : Good log deliveryId row) (hrow : row.unsettled = true) :
    Good log deliveryId row.cancel where
  attempts := h.attempts
  limit := h.limit
  within := h.within
  left hcancel := by simp [WebhookDelivery.unsettled, WebhookDelivery.cancel] at hcancel
  answered := by simp [WebhookDelivery.cancel, h.not_answered hrow]

theorem good_replayed (h : 0 < row.attemptLimit) :
    Good (.replayed deliveryId :: log) deliveryId (row.replayed now) where
  attempts := requests_replayed.symm
  limit := h
  within := Int.le_of_lt h
  left _ := h
  answered := by simp [WebhookDelivery.replayed]

/-- What `_fail` leaves of a delivery with one more request. -/
theorem good_fail (error : String) (hlimit : 0 < row.attemptLimit)
    (hattempts : row.attempts = requests deliveryId log)
    (hwithin : (row.attempts : ℤ) ≤ row.attemptLimit)
    (hanswered : Notifications.answered deliveryId log = false) :
    Good log deliveryId (row.fail now error) := by
  unfold WebhookDelivery.fail
  split
  · refine ⟨hattempts, hlimit, hwithin, ?_, by simp [hanswered]⟩
    intro hunsettled
    simp [WebhookDelivery.unsettled] at hunsettled
  · rename_i hless
    exact ⟨hattempts, hlimit, hwithin, fun _ => Int.not_le.mp hless, by simp [hanswered]⟩

/-- A request, with its outcome on the row and in the log. -/
theorem good_requested (h : Good log deliveryId row) (hrow : row.unsettled = true) :
    Good (.requested deliveryId allowed reply.ok :: log) deliveryId (row.requested now reply) := by
  have hless := h.left hrow
  have hattempts : row.attempts + 1 =
      requests deliveryId (.requested deliveryId allowed reply.ok :: log) := by
    rw [requests_requested, h.attempts]
  have hanswered : Notifications.answered deliveryId
      (.requested deliveryId allowed reply.ok :: log) = reply.ok := by
    rw [answered_requested, h.not_answered hrow, Bool.or_false]
  have hwithin : ((row.attempts + 1 : ℕ) : ℤ) ≤ row.attemptLimit := by
    push_cast
    omega
  unfold WebhookDelivery.requested
  cases reply with
  | response statusCode text =>
    simp only
    split
    · rename_i hok
      refine ⟨hattempts, h.limit, hwithin, ?_, ?_⟩
      · intro hunsettled
        simp [WebhookDelivery.unsettled, WebhookDelivery.succeed] at hunsettled
      · rw [hanswered]
        exact ⟨fun _ => hok, fun _ => rfl⟩
    · rename_i hok
      rw [Bool.not_eq_true] at hok
      exact good_fail _ h.limit hattempts hwithin (hanswered.trans hok)
  | raised error => exact good_fail _ h.limit hattempts hwithin hanswered

theorem requested_same (row : WebhookDelivery) (now : ℤ) (reply : WebhookReply) :
    (row.requested now reply).subscriptionId = row.subscriptionId ∧
      (row.requested now reply).maxAttempts = row.maxAttempts := by
  have hfail : ∀ (row : WebhookDelivery) (error : String),
      (row.fail now error).subscriptionId = row.subscriptionId ∧
        (row.fail now error).maxAttempts = row.maxAttempts := by
    intro row error
    unfold WebhookDelivery.fail
    split <;> exact ⟨rfl, rfl⟩
  unfold WebhookDelivery.requested
  cases reply with
  | response statusCode text =>
    simp only
    split
    · exact ⟨rfl, rfl⟩
    · exact hfail _ _
  | raised error => exact hfail _ _

/-- On the row as it was loaded the update of a copy stores the copy. -/
theorem flush_delivery_loaded {copy : Copy WebhookDelivery}
    (hsubscription : copy.value.subscriptionId = copy.loaded.subscriptionId)
    (hlimit : copy.value.maxAttempts = copy.loaded.maxAttempts) :
    WebhookDelivery.flush copy copy.loaded = copy.value := by
  obtain ⟨loaded, value⟩ := copy
  simp only at hsubscription hlimit
  simp only [WebhookDelivery.flush, flushed_loaded]
  rw [← hsubscription, ← hlimit]

end Good

end Afcon360.Notifications
