import Afcon360.Foundation.Holdings
import Afcon360.Notifications.WebhookLog

/-!
# Deliveries under overlapping workers

`Careful` is what keeps the counts of webhook deliveries right: no delivery is selected while
a worker has it, and none of a subscription that is suspended; a breaker trips only where no
other delivery of its subscription waits in a batch; no worker dies with outcomes in hand.
`Kept` follows the outcomes that a worker has not committed, and is kept by every careful step.
-/

namespace Afcon360.Notifications

open Foundation

/-- The deliveries that a session has loaded. -/
def DispatchSession.held (session : DispatchSession) : List ℕ :=
  session.written.map Prod.fst ++ session.todo.map Prod.fst

def DispatchCall.held : DispatchCall → List ℕ
  | .delivering session => session.held
  | _ => []

/-- The subscriptions of the deliveries that are still to be requested. -/
def DispatchCall.waiting : DispatchCall → List ℕ
  | .delivering session => session.todo.map (·.2.subscriptionId)
  | _ => []

/-- A failure of the next request pauses the subscription. -/
def DispatchSession.trips (session : DispatchSession) (stored : List EventSubscription) : Bool :=
  (session.subscription? stored (Webhooks.nextSubscription session)).any
    (fun copy => circuitBreakerThreshold ≤ copy.value.consecutiveFailures + 1)

namespace Webhooks

def held (s : Webhooks) : List ℕ := s.workers.flatMap DispatchCall.held

def waiting (s : Webhooks) : List ℕ := s.workers.flatMap DispatchCall.waiting

/-- The condition on a step, as a test. -/
def careful (s : Webhooks) : WebhookAct → Bool
  | .subscribe maxAttempts => 0 ≤ maxAttempts
  | .runOnce _ batch => (s.loadBatch batch).all fun entry =>
    entry.1 ∉ s.held ∧ s.suspended entry.2.subscriptionId = false
  | .deliver place reply => s.workers[place]?.all fun call =>
    match call with
    | .delivering session =>
      reply.ok = true ∨ session.trips s.subscriptions = false ∨
        s.waiting.count (nextSubscription session) ≤ 1
    | _ => true
  | .die place => s.workers[place]?.all fun call =>
    match call with
    | .delivering session => session.written = []
    | _ => true
  | .adminCommit place => s.admins[place]?.all fun call =>
    match call with
    | .replaying deliveryId copy =>
      s.deliveries[deliveryId]? = some copy.loaded ∧ deliveryId ∉ s.held
    | .settingStatus subscriptionId copy =>
      copy.value.status = .active ∨ subscriptionId ∉ s.waiting
    | .done => true
  | _ => true

/-- The condition on a step. -/
def Careful (s : Webhooks) (a : WebhookAct) : Prop := s.careful a = true

instance (s : Webhooks) (a : WebhookAct) : Decidable (s.Careful a) :=
  inferInstanceAs (Decidable (_ = true))

/-- What a worker will write at the end. -/
structure Outcome (s : Webhooks) (deliveryId : ℕ) (copy : Copy WebhookDelivery) : Prop where
  loaded : s.deliveries[deliveryId]? = some copy.loaded
  unsettled : copy.loaded.unsettled = true
  subscription : copy.value.subscriptionId = copy.loaded.subscriptionId
  limit : copy.value.maxAttempts = copy.loaded.maxAttempts
  good : Good s.log deliveryId copy.value

structure Kept (s : Webhooks) : Prop where
  apart : s.held.Nodup
  todo : ∀ session, .delivering session ∈ s.workers → ∀ entry ∈ session.todo,
    s.deliveries[entry.1]? = some entry.2 ∧ entry.2.unsettled = true
  active : ∀ subscriptionId ∈ s.waiting, s.suspended subscriptionId = false
  written : ∀ session, .delivering session ∈ s.workers → ∀ entry ∈ session.written,
    s.Outcome entry.1 entry.2
  settled : ∀ deliveryId row, s.deliveries[deliveryId]? = some row →
    Good s.log deliveryId row ∨ ∃ session, .delivering session ∈ s.workers ∧
      deliveryId ∈ session.written.map Prod.fst
  loaded : ∀ session, .delivering session ∈ s.workers → ∀ entry ∈ session.subscriptions,
    entry.2.loaded.status = .active
  replaying : ∀ deliveryId copy, .replaying deliveryId copy ∈ s.admins →
    ∃ now, copy.value = copy.loaded.replayed now
  limits : ∀ subscription ∈ s.subscriptions, 0 ≤ subscription.maxAttempts
  known : ∀ event ∈ s.log, event.deliveryId < s.deliveries.length
  sound : SoundLog s.log

variable {s t : Webhooks} {place deliveryId subscriptionId : ℕ} {session : DispatchSession}
  {row : WebhookDelivery} {reply : WebhookReply}

/-! ## Facts about what is held -/

theorem mem_held (hcall : .delivering session ∈ s.workers) (h : deliveryId ∈ session.held) :
    deliveryId ∈ s.held :=
  List.mem_flatMap.mpr ⟨_, hcall, h⟩

theorem mem_held_of_written (hcall : .delivering session ∈ s.workers)
    (h : deliveryId ∈ session.written.map Prod.fst) : deliveryId ∈ s.held :=
  mem_held hcall (List.mem_append_left _ h)

theorem good_of_free (h : Kept s) (hrow : s.deliveries[deliveryId]? = some row)
    (hfree : deliveryId ∉ s.held) : Good s.log deliveryId row := by
  obtain hgood | ⟨session, hcall, hmem⟩ := h.settled deliveryId row hrow
  · exact hgood
  · exact absurd (mem_held_of_written hcall hmem) hfree

theorem held_nodup (h : Kept s) (hcall : .delivering session ∈ s.workers) : session.held.Nodup :=
  (List.nodup_flatMap.mp h.apart).1 _ hcall

/-- A delivery is in one batch only, and there once. -/
theorem notMem_written (h : Kept s) {second : DispatchSession}
    (hcall : s.workers[place]? = some (.delivering session))
    (htodo : deliveryId ∈ session.todo.map Prod.fst)
    (hsecond : .delivering second ∈ s.workers) : deliveryId ∉ second.written.map Prod.fst := by
  intro hmem
  obtain ⟨other, hother⟩ := List.mem_iff_getElem?.mp hsecond
  by_cases hplace : place = other
  · subst hplace
    obtain ⟨⟩ := Option.some.inj (hcall.symm.trans hother)
    have hnodup := held_nodup h hsecond
    exact (List.nodup_append.mp hnodup).2.2 _ hmem _ htodo rfl
  · exact not_mem_of_nodup_flatMap h.apart hplace hcall hother
      (List.mem_append_right _ htodo) (List.mem_append_left _ hmem)

theorem good_of_todo (h : Kept s) (hcall : s.workers[place]? = some (.delivering session))
    (hmem : (deliveryId, row) ∈ session.todo) : Good s.log deliveryId row := by
  have hrow := (h.todo session (List.mem_of_getElem? hcall) _ hmem).1
  obtain hgood | ⟨second, hsecond, hwritten⟩ := h.settled deliveryId row hrow
  · exact hgood
  · exact absurd hwritten
      (notMem_written h hcall (List.mem_map.mpr ⟨_, hmem, rfl⟩) hsecond)

/-! ## Suspended subscriptions -/

theorem suspended_iff :
    s.suspended subscriptionId = true ↔
      (∃ subscription, s.subscriptions[subscriptionId]? = some subscription ∧
        subscription.status ≠ .active) ∨
      ∃ session, .delivering session ∈ s.workers ∧
        ∃ copy, (subscriptionId, copy) ∈ session.subscriptions ∧ tripped copy = true := by
  unfold suspended
  rw [Bool.or_eq_true, Option.any_eq_true, List.any_eq_true]
  refine or_congr (by simp) ?_
  constructor
  · rintro ⟨call, hcall, hany⟩
    cases call with
    | delivering session =>
      obtain ⟨⟨id, copy⟩, hcopy, htripped⟩ := List.any_eq_true.mp hany
      simp only [Bool.and_eq_true, decide_eq_true_eq] at htripped
      obtain ⟨rfl, htripped⟩ := htripped
      exact ⟨session, hcall, copy, hcopy, htripped⟩
    | returned => cases hany
    | died => cases hany
  · rintro ⟨session, hcall, copy, hcopy, htripped⟩
    exact ⟨_, hcall, List.any_eq_true.mpr ⟨_, hcopy, by simp [htripped]⟩⟩

theorem active_of_not_suspended (h : s.suspended subscriptionId = false)
    {subscription : EventSubscription}
    (hrow : s.subscriptions[subscriptionId]? = some subscription) :
    subscription.status = .active := by
  by_contra hstatus
  rw [suspended_iff.mpr (.inl ⟨subscription, hrow, hstatus⟩)] at h
  cases h

theorem not_tripped_of_not_suspended (h : s.suspended subscriptionId = false)
    (hcall : .delivering session ∈ s.workers) {copy : Copy EventSubscription}
    (hcopy : (subscriptionId, copy) ∈ session.subscriptions) : tripped copy = false := by
  cases htripped : tripped copy with
  | false => rfl
  | true =>
    rw [suspended_iff.mpr (.inr ⟨session, hcall, copy, hcopy, htripped⟩)] at h
    cases h

/-- What a session without a tripped breaker writes leaves an active subscription active. -/
theorem flush_active {copy : Copy EventSubscription} {subscription : EventSubscription}
    (hloaded : copy.loaded.status = .active) (htripped : tripped copy = false)
    (h : subscription.status = .active) :
    (EventSubscription.flush copy subscription).status = .active := by
  have hvalue : copy.value.status = .active := by
    simpa [tripped, hloaded] using htripped
  simp only [EventSubscription.flush, hvalue, hloaded, flushed_same]
  exact h

/-! ## The steps -/

theorem kept_init : Kept {} where
  apart := List.nodup_nil
  todo session h := by cases h
  active subscriptionId h := by cases h
  written session h := by cases h
  settled deliveryId row h := by cases h
  loaded session h := by cases h
  replaying deliveryId copy h := by cases h
  limits subscription h := by cases h
  known event h := by cases h
  sound := trivial

theorem kept_subscribe (h : Kept s) {maxAttempts : ℤ} (hguard : 0 ≤ maxAttempts) :
    Kept { s with subscriptions := s.subscriptions ++ [{ maxAttempts := maxAttempts }] } where
  apart := h.apart
  todo := h.todo
  active subscriptionId hmem := by
    rw [← Bool.not_eq_true, suspended_iff]
    rintro (⟨subscription, hrow, hstatus⟩ | htripped)
    · obtain hold | ⟨-, rfl⟩ := getElem?_append_cases hrow
      · exact hstatus (active_of_not_suspended (h.active subscriptionId hmem) hold)
      · exact hstatus rfl
    · have hsuspended : s.suspended subscriptionId = true := suspended_iff.mpr (.inr htripped)
      rw [h.active subscriptionId hmem] at hsuspended
      cases hsuspended
  written session hcall entry hentry :=
    let outcome := h.written session hcall entry hentry
    ⟨outcome.loaded, outcome.unsettled, outcome.subscription, outcome.limit, outcome.good⟩
  settled := h.settled
  loaded := h.loaded
  replaying := h.replaying
  limits subscription hmem := by
    obtain hold | hnew := List.mem_append.mp hmem
    · exact h.limits subscription hold
    · obtain rfl := List.mem_singleton.mp hnew
      exact hguard
  known := h.known
  sound := h.sound

theorem kept_enqueue (h : Kept s) {subscription : EventSubscription}
    (hrow : s.subscriptions[subscriptionId]? = some subscription) :
    Kept { s with
      deliveries := s.deliveries ++ [{
        subscriptionId := subscriptionId
        maxAttempts := orSix subscription.maxAttempts
        nextAttemptAt := some s.now }] } := by
  have hold : ∀ {deliveryId : ℕ} {row new : WebhookDelivery},
      s.deliveries[deliveryId]? = some row → (s.deliveries ++ [new])[deliveryId]? = some row := by
    intro deliveryId row new hget
    rw [List.getElem?_append_left (List.getElem?_eq_some_iff.mp hget).1]
    exact hget
  refine {
    apart := h.apart
    todo := fun session hcall entry hentry =>
      ⟨hold (h.todo session hcall entry hentry).1, (h.todo session hcall entry hentry).2⟩
    active := h.active
    written := ?_
    settled := ?_
    loaded := h.loaded
    replaying := h.replaying
    limits := h.limits
    known := ?_
    sound := h.sound }
  · intro session hcall entry hentry
    have outcome := h.written session hcall entry hentry
    exact ⟨hold outcome.loaded, outcome.unsettled, outcome.subscription, outcome.limit,
      outcome.good⟩
  · intro deliveryId row hget
    obtain hbefore | ⟨rfl, rfl⟩ := getElem?_append_cases hget
    · exact h.settled deliveryId row hbefore
    · left
      have hnew : s.deliveries.length ∉ s.log.map WebhookEvent.deliveryId := by
        intro hmem
        obtain ⟨event, hevent, heq⟩ := List.mem_map.mp hmem
        have hlt := h.known event hevent
        omega
      obtain ⟨hrequests, hanswered⟩ := requests_of_notMem hnew
      have hlimit : 0 < orSix (orSix subscription.maxAttempts) :=
        orSix_pos (Int.le_of_lt (orSix_pos (h.limits _ (List.mem_of_getElem? hrow))))
      exact ⟨hrequests.symm, hlimit, Int.le_of_lt hlimit, fun _ => hlimit, by simp [hanswered]⟩
  · intro event hevent
    have hlt := h.known event hevent
    simp only [List.length_append, List.length_singleton]
    omega

theorem mem_loadBatch {batch : List ℕ} {entry : ℕ × WebhookDelivery}
    (h : entry ∈ s.loadBatch batch) :
    entry.1 ∈ batch ∧ s.deliveries[entry.1]? = some entry.2 := by
  obtain ⟨deliveryId, hmem, hget⟩ := List.mem_filterMap.mp h
  obtain ⟨row, hrow, rfl⟩ := Option.map_eq_some_iff.mp hget
  exact ⟨hmem, hrow⟩

theorem loadBatch_nodup {batch : List ℕ} (h : batch.Nodup) :
    ((s.loadBatch batch).map Prod.fst).Nodup := by
  rw [loadBatch, List.map_filterMap]
  apply List.Nodup.filterMap _ h
  intro first second found hfirst hsecond
  simp only [Option.map_map, Option.mem_def, Option.map_eq_some_iff] at hfirst hsecond
  obtain ⟨_, -, rfl⟩ := hfirst
  obtain ⟨_, -, heq⟩ := hsecond
  exact heq.symm

theorem unsettled_of_isDue (h : s.isDue deliveryId = true)
    (hrow : s.deliveries[deliveryId]? = some row) : row.unsettled = true := by
  unfold isDue at h
  rw [hrow] at h
  exact ((Bool.and_eq_true _ _).mp h).1

theorem kept_runOnce (h : Kept s) {limit : ℕ} {batch : List ℕ} (hdue : s.DueBatch limit batch)
    (hguard : ∀ entry ∈ s.loadBatch batch,
      entry.1 ∉ s.held ∧ s.suspended entry.2.subscriptionId = false) :
    Kept { s with
      workers := s.workers ++ [
        if batch = [] then .returned else .delivering { todo := s.loadBatch batch }] } := by
  have hheld : DispatchCall.held
      (if batch = [] then .returned else .delivering { todo := s.loadBatch batch }) =
        (s.loadBatch batch).map Prod.fst := by
    split
    · rename_i hnil
      subst hnil
      rfl
    · rfl
  have hcases : ∀ session, DispatchCall.delivering session ∈ s.workers ++ [
      if batch = [] then .returned else .delivering { todo := s.loadBatch batch }] →
      .delivering session ∈ s.workers ∨ session = { todo := s.loadBatch batch } := by
    intro session hmem
    obtain hold | hnew := List.mem_append.mp hmem
    · exact .inl hold
    · have heq := List.mem_singleton.mp hnew
      split at heq
      · cases heq
      · exact .inr (DispatchCall.delivering.inj heq)
  refine {
    apart := ?_
    todo := ?_
    active := ?_
    written := ?_
    settled := ?_
    loaded := ?_
    replaying := h.replaying
    limits := h.limits
    known := h.known
    sound := h.sound }
  · rw [held, List.flatMap_append, List.flatMap_singleton, hheld]
    refine List.nodup_append.mpr ⟨h.apart, loadBatch_nodup hdue.1, ?_⟩
    intro deliveryId hin other hother heq
    obtain ⟨entry, hentry, rfl⟩ := List.mem_map.mp hother
    exact (hguard entry hentry).1 (heq ▸ hin)
  · intro session hcall entry hentry
    obtain hold | rfl := hcases session hcall
    · exact h.todo session hold entry hentry
    · obtain ⟨hmem, hrow⟩ := mem_loadBatch hentry
      exact ⟨hrow, unsettled_of_isDue (hdue.2.1 _ hmem) hrow⟩
  · intro subscriptionId hmem
    have hbefore : s.suspended subscriptionId = false := by
      rw [waiting, List.flatMap_append, List.mem_append, List.flatMap_singleton] at hmem
      obtain hold | hnew := hmem
      · exact h.active subscriptionId hold
      · split at hnew
        · cases hnew
        · obtain ⟨entry, hentry, rfl⟩ := List.mem_map.mp hnew
          exact (hguard entry hentry).2
    rw [← Bool.not_eq_true, suspended_iff]
    rintro (⟨subscription, hrow, hstatus⟩ | ⟨session, hcall, copy, hcopy, htripped⟩)
    · exact hstatus (active_of_not_suspended hbefore hrow)
    · obtain hold | rfl := hcases session hcall
      · rw [not_tripped_of_not_suspended hbefore hold hcopy] at htripped
        cases htripped
      · cases hcopy
  · intro session hcall entry hentry
    obtain hold | rfl := hcases session hcall
    · have outcome := h.written session hold entry hentry
      exact ⟨outcome.loaded, outcome.unsettled, outcome.subscription, outcome.limit, outcome.good⟩
    · cases hentry
  · intro deliveryId row hrow
    refine (h.settled deliveryId row hrow).imp_right ?_
    rintro ⟨session, hcall, hmem⟩
    exact ⟨session, List.mem_append_left _ hcall, hmem⟩
  · intro session hcall entry hentry
    obtain hold | rfl := hcases session hcall
    · exact h.loaded session hold entry hentry
    · cases hentry

/-! ### A request -/

/-- What `deliver` does in a session. -/
theorem deliver_cases {stored : List EventSubscription} {now : ℤ} {allowed : Bool}
    {after : DispatchSession} {events : List WebhookEvent}
    (h : session.deliver stored now reply allowed = some (after, events)) :
    ∃ deliveryId row todo, session.todo = (deliveryId, row) :: todo ∧
      ((after = { session with
            written := session.written ++ [(deliveryId, ⟨row, row.cancel⟩)], todo := todo } ∧
          events = []) ∨
        ∃ copy, session.subscription? stored row.subscriptionId = some copy ∧
          after = {
            written := session.written ++ [(deliveryId, ⟨row, row.requested now reply⟩)]
            subscriptions := (row.subscriptionId, { copy with
                value := if reply.ok then copy.value.succeed now else copy.value.fail now }) ::
              session.subscriptions.filter (·.1 ≠ row.subscriptionId)
            todo := todo } ∧
          events = [.requested deliveryId allowed reply.ok]) := by
  unfold DispatchSession.deliver at h
  cases htodo : session.todo with
  | nil =>
    rw [htodo] at h
    cases h
  | cons entry todo =>
    obtain ⟨deliveryId, row⟩ := entry
    rw [htodo] at h
    simp only at h
    refine ⟨deliveryId, row, todo, rfl, ?_⟩
    cases hcopy : session.subscription? stored row.subscriptionId with
    | none =>
      rw [hcopy] at h
      cases h
      exact .inl ⟨rfl, rfl⟩
    | some copy =>
      rw [hcopy] at h
      cases h
      exact .inr ⟨copy, rfl, rfl, rfl⟩

/-- The copy of a subscription is the session's own, or fresh. -/
theorem subscription?_cases {stored : List EventSubscription} {copy : Copy EventSubscription}
    (h : session.subscription? stored subscriptionId = some copy) :
    (subscriptionId, copy) ∈ session.subscriptions ∨
      stored[subscriptionId]? = some copy.loaded ∧ copy.value = copy.loaded := by
  unfold DispatchSession.subscription? at h
  cases hlookup : session.subscriptions.lookup subscriptionId with
  | some found =>
    rw [hlookup] at h
    cases h
    obtain ⟨before, rest, heq, -⟩ := List.lookup_eq_some_iff.mp hlookup
    exact .inl (heq ▸ List.mem_append_right _ List.mem_cons_self)
  | none =>
    rw [hlookup] at h
    obtain ⟨row, hrow, rfl⟩ := Option.map_eq_some_iff.mp h
    exact .inr ⟨hrow, rfl⟩

/-- The copy that a request of an open subscription uses is active. -/
theorem copy_active (h : Kept s) (hcall : .delivering session ∈ s.workers)
    (hopen : s.suspended subscriptionId = false) {copy : Copy EventSubscription}
    (hcopy : session.subscription? s.subscriptions subscriptionId = some copy) :
    copy.loaded.status = .active ∧ copy.value.status = .active := by
  obtain hmem | ⟨hstored, hvalue⟩ := subscription?_cases hcopy
  · have hloaded : copy.loaded.status = .active := h.loaded session hcall _ hmem
    have htripped := not_tripped_of_not_suspended hopen hcall hmem
    exact ⟨hloaded, by simpa [tripped, hloaded] using htripped⟩
  · have hloaded := active_of_not_suspended hopen hstored
    exact ⟨hloaded, hvalue ▸ hloaded⟩

variable (reply) in
/-- The session after its next delivery, with the outcome in hand. -/
structure Delivered (s : Webhooks) (session after : DispatchSession) (events : List WebhookEvent)
    (deliveryId : ℕ) (copy : Copy WebhookDelivery) : Prop where
  todo : session.todo = (deliveryId, copy.loaded) :: after.todo
  written : after.written = session.written ++ [(deliveryId, copy)]
  subscription : copy.value.subscriptionId = copy.loaded.subscriptionId
  limit : copy.value.maxAttempts = copy.loaded.maxAttempts
  good : Good (events ++ s.log) deliveryId copy.value
  names : ∀ event ∈ events, event.deliveryId = deliveryId
  others : ∀ other ≠ deliveryId,
    requests other (events ++ s.log) = requests other s.log ∧
      answered other (events ++ s.log) = answered other s.log
  replays : ∀ other, replays other (events ++ s.log) = replays other s.log
  sound : SoundLog (events ++ s.log)
  loaded : ∀ entry ∈ after.subscriptions, entry.2.loaded.status = .active
  tripped : ∀ entry ∈ after.subscriptions, tripped entry.2 = true →
    entry ∈ session.subscriptions ∨
      (entry.1 = nextSubscription session ∧ reply.ok = false ∧
        session.trips s.subscriptions = true)

theorem deliver_spec (h : Kept s) (hcall : s.workers[place]? = some (.delivering session))
    {after : DispatchSession} {events : List WebhookEvent}
    (hdeliver : session.deliver s.subscriptions s.now reply
      (!s.suspended (nextSubscription session)) = some (after, events)) :
    ∃ deliveryId copy, s.Delivered reply session after events deliveryId copy := by
  have hmem := List.mem_of_getElem? hcall
  obtain ⟨deliveryId, row, todo, htodo, hafter⟩ := deliver_cases hdeliver
  have hnext : nextSubscription session = row.subscriptionId := by
    rw [nextSubscription, htodo]
  have hin : (deliveryId, row) ∈ session.todo := htodo ▸ List.mem_cons_self
  have hrow : row.unsettled = true := (h.todo session hmem _ hin).2
  have hgood := good_of_todo h hcall hin
  have hopen : s.suspended row.subscriptionId = false :=
    h.active _ (List.mem_flatMap.mpr ⟨_, hmem, List.mem_map.mpr ⟨_, hin, rfl⟩⟩)
  obtain ⟨rfl, rfl⟩ | ⟨copy, hcopy, rfl, rfl⟩ := hafter
  · exact ⟨deliveryId, ⟨row, row.cancel⟩, {
      todo := htodo
      written := rfl
      subscription := rfl
      limit := rfl
      good := good_cancel hgood hrow
      names := fun event hevent => by cases hevent
      others := fun other _ => ⟨rfl, rfl⟩
      replays := fun other => rfl
      sound := h.sound
      loaded := h.loaded session hmem
      tripped := fun entry hentry _ => .inl hentry }⟩
  · rw [hnext, hopen]
    obtain ⟨hloaded, hvalue⟩ := copy_active h hmem hopen hcopy
    obtain ⟨hsubscription, hlimit⟩ := requested_same row s.now reply
    exact ⟨deliveryId, ⟨row, row.requested s.now reply⟩, {
      todo := htodo
      written := rfl
      subscription := hsubscription
      limit := hlimit
      good := good_requested hgood hrow
      names := by
        intro event hevent
        obtain rfl := List.mem_singleton.mp hevent
        rfl
      others := fun other hne =>
        ⟨requests_requested_of_ne hne.symm, answered_requested_of_ne hne.symm⟩
      replays := fun other => replays_requested
      sound := ⟨rfl, hgood.not_answered hrow, h.sound⟩
      loaded := by
        intro entry hentry
        obtain rfl | hold := List.mem_cons.mp hentry
        · exact hloaded
        · exact h.loaded session hmem _ (List.mem_of_mem_filter hold)
      tripped := by
        intro entry hentry htripped
        obtain rfl | hold := List.mem_cons.mp hentry
        · right
          simp only [Notifications.tripped, hloaded] at htripped
          cases hok : reply.ok with
          | true => simp [hok, EventSubscription.succeed, hvalue] at htripped
          | false =>
            refine ⟨hnext.symm, rfl, ?_⟩
            rw [DispatchSession.trips, hnext, hcopy]
            by_contra hless
            simp only [Option.any_some, decide_eq_true_eq] at hless
            simp [hok, EventSubscription.fail, hless, hvalue] at htripped
        · exact .inl (List.mem_of_mem_filter hold) }⟩

theorem Outcome.log (h : s.Outcome deliveryId copy)
    {log : List WebhookEvent} (hdeliveries : t.deliveries = s.deliveries)
    (hlog : t.log = log) (hrequests : requests deliveryId log = requests deliveryId s.log)
    (hanswered : answered deliveryId log = answered deliveryId s.log) :
    t.Outcome deliveryId copy where
  loaded := by rw [hdeliveries]; exact h.loaded
  unsettled := h.unsettled
  subscription := h.subscription
  limit := h.limit
  good := by rw [hlog]; exact h.good.congr hrequests hanswered

theorem kept_deliver (h : Kept s) (hcall : s.workers[place]? = some (.delivering session))
    (hguard : reply.ok = true ∨ session.trips s.subscriptions = false ∨
      s.waiting.count (nextSubscription session) ≤ 1)
    {after : DispatchSession} {events : List WebhookEvent}
    (hdeliver : session.deliver s.subscriptions s.now reply
      (!s.suspended (nextSubscription session)) = some (after, events)) :
    Kept { s.setWorker place (.delivering after) with log := events ++ s.log } := by
  obtain ⟨deliveryId, copy, hafter⟩ := deliver_spec h hcall hdeliver
  have hmem := List.mem_of_getElem? hcall
  have hhead : (deliveryId, copy.loaded) ∈ session.todo := hafter.todo ▸ List.mem_cons_self
  obtain ⟨hstored, hunsettled⟩ := h.todo session hmem _ hhead
  have hcases : ∀ other, DispatchCall.delivering other ∈ s.workers.set place (.delivering after) →
      other = after ∨ .delivering other ∈ s.workers := by
    intro other hother
    obtain heq | ⟨j, -, hj⟩ := mem_set_cases hother
    · exact .inl (DispatchCall.delivering.inj heq)
    · exact .inr (List.mem_of_getElem? hj)
  have hnot : ∀ other, .delivering other ∈ s.workers → deliveryId ∉ other.written.map Prod.fst :=
    fun other => notMem_written h hcall (List.mem_map.mpr ⟨_, hhead, rfl⟩)
  have houtcome : ∀ other, .delivering other ∈ s.workers → ∀ entry ∈ other.written,
      Outcome { s.setWorker place (.delivering after) with log := events ++ s.log }
        entry.1 entry.2 := by
    intro other hother entry hentry
    have hne : entry.1 ≠ deliveryId := by
      intro heq
      exact hnot other hother (heq ▸ List.mem_map.mpr ⟨_, hentry, rfl⟩)
    obtain ⟨hrequests, hanswered⟩ := hafter.others _ hne
    exact (h.written other hother entry hentry).log rfl rfl hrequests hanswered
  have hwaiting : ((s.workers.set place (.delivering after)).flatMap DispatchCall.waiting ++
      [nextSubscription session]).Perm s.waiting := by
    have hperm := perm_flatMap_set DispatchCall.waiting (.delivering after) hcall
    have hold : DispatchCall.waiting (.delivering session) =
        [nextSubscription session] ++ DispatchCall.waiting (.delivering after) := by
      simp [DispatchCall.waiting, nextSubscription, hafter.todo]
    rw [hold, ← List.append_assoc] at hperm
    exact (List.perm_append_right_iff _).mp hperm
  refine {
    apart := ?_
    todo := ?_
    active := ?_
    written := ?_
    settled := ?_
    loaded := ?_
    replaying := h.replaying
    limits := h.limits
    known := ?_
    sound := hafter.sound }
  · refine nodup_flatMap_set_same h.apart hcall (List.Perm.of_eq ?_)
    simp [DispatchCall.held, DispatchSession.held, hafter.written, hafter.todo]
  · intro other hother entry hentry
    obtain rfl | hold := hcases other hother
    · exact h.todo session hmem entry (hafter.todo ▸ List.mem_cons_of_mem _ hentry)
    · exact h.todo other hold entry hentry
  · intro subscriptionId hsub
    have hbefore : s.suspended subscriptionId = false :=
      h.active _ (hwaiting.mem_iff.mp (List.mem_append_left _ hsub))
    rw [← Bool.not_eq_true, suspended_iff]
    rintro (⟨subscription, hrow, hstatus⟩ | ⟨other, hother, value, hvalue, htripped⟩)
    · exact hstatus (active_of_not_suspended hbefore hrow)
    · obtain rfl | hold := hcases other hother
      · obtain hin | ⟨rfl, hok, htrips⟩ := hafter.tripped _ hvalue htripped
        · rw [not_tripped_of_not_suspended hbefore hmem hin] at htripped
          cases htripped
        · -- the breaker trips only when this was the last delivery that waited
          have hcount := hwaiting.count_eq (nextSubscription session)
          have hpositive := List.count_pos_iff.mpr hsub
          simp only [List.count_append, List.count_singleton_self] at hcount
          simp only [waiting, setWorker] at hpositive
          rw [hok, htrips] at hguard
          simp only [Bool.false_eq_true, Bool.true_eq_false, false_or] at hguard
          omega
      · rw [not_tripped_of_not_suspended hbefore hold hvalue] at htripped
        cases htripped
  · intro other hother entry hentry
    obtain rfl | hold := hcases other hother
    · rw [hafter.written] at hentry
      obtain hbefore | hnew := List.mem_append.mp hentry
      · exact houtcome session hmem entry hbefore
      · obtain rfl := List.mem_singleton.mp hnew
        exact ⟨hstored, hunsettled, hafter.subscription, hafter.limit, hafter.good⟩
    · exact houtcome other hold entry hentry
  · intro other row hrow
    have hafterMem : DispatchCall.delivering after ∈ s.workers.set place (.delivering after) :=
      List.mem_set (List.getElem?_eq_some_iff.mp hcall).1 _
    obtain hgood | ⟨second, hsecond, hwritten⟩ := h.settled other row hrow
    · by_cases heq : other = deliveryId
      · refine .inr ⟨after, hafterMem, ?_⟩
        rw [hafter.written, heq]
        simp
      · obtain ⟨hrequests, hanswered⟩ := hafter.others other heq
        exact .inl (hgood.congr hrequests hanswered)
    · right
      obtain heq | hstays := eq_or_mem_set (.delivering after) hcall hsecond
      · cases heq
        refine ⟨after, hafterMem, ?_⟩
        rw [hafter.written, List.map_append]
        exact List.mem_append_left _ hwritten
      · exact ⟨second, hstays, hwritten⟩
  · intro other hother
    obtain rfl | hold := hcases other hother
    · exact hafter.loaded
    · exact h.loaded other hold
  · intro event hevent
    obtain hnew | hold := List.mem_append.mp hevent
    · rw [hafter.names event hnew]
      exact (List.getElem?_eq_some_iff.mp hstored).1
    · exact h.known event hold

/-! ### The commit of a session -/

/-- A delivery that the session has requested is stored as the session left it. -/
theorem flushAll_written (h : Kept s) (hcall : .delivering session ∈ s.workers)
    {entry : ℕ × Copy WebhookDelivery} (hentry : entry ∈ session.written) :
    (s.flushAll session).deliveries[entry.1]? = some entry.2.value := by
  have hnodup : (session.written.map Prod.fst).Nodup :=
    (List.nodup_append.mp (held_nodup h hcall)).1
  have outcome := h.written session hcall entry hentry
  have hget := getElem?_foldl_modify WebhookDelivery.flush s.deliveries hnodup hentry
  rw [flushAll, hget, outcome.loaded]
  exact congrArg some (flush_delivery_loaded outcome.subscription outcome.limit)

theorem flushAll_other (h : deliveryId ∉ session.written.map Prod.fst) :
    (s.flushAll session).deliveries[deliveryId]? = s.deliveries[deliveryId]? :=
  getElem?_foldl_modify_of_notMem h

theorem flushAll_active (h : Kept s) (hcall : .delivering session ∈ s.workers)
    (hopen : s.suspended subscriptionId = false) {subscription : EventSubscription}
    (hrow : (s.flushAll session).subscriptions[subscriptionId]? = some subscription) :
    subscription.status = .active := by
  refine foldl_modify_invariant (f := EventSubscription.flush) (·.status = .active) ?_ ?_
    subscription hrow
  · rintro ⟨other, copy⟩ hentry rfl row hactive
    exact flush_active (h.loaded session hcall _ hentry)
      (not_tripped_of_not_suspended hopen hcall hentry) hactive
  · intro row hstored
    exact active_of_not_suspended hopen hstored

theorem flushAll_limits (h : Kept s) :
    ∀ subscription ∈ (s.flushAll session).subscriptions, 0 ≤ subscription.maxAttempts := by
  intro subscription hmem
  obtain ⟨i, hi⟩ := List.mem_iff_getElem?.mp hmem
  refine foldl_modify_invariant (f := EventSubscription.flush) (0 ≤ ·.maxAttempts) ?_ ?_
    subscription hi
  · intro entry _ _ row hlimit
    exact hlimit
  · intro row hstored
    exact h.limits row (List.mem_of_getElem? hstored)

/-- A worker that lets go of everything. -/
theorem mem_workers_set {new : DispatchCall} (hnew : new = .returned ∨ new = .died)
    (h : .delivering session ∈ s.workers.set place new) :
    ∃ other, other ≠ place ∧ s.workers[other]? = some (.delivering session) := by
  obtain heq | hold := mem_set_cases h
  · obtain rfl | rfl := hnew
    · cases heq
    · cases heq
  · exact hold

theorem waiting_subset_set {new : DispatchCall} (hnew : new = .returned ∨ new = .died)
    (h : subscriptionId ∈ (s.workers.set place new).flatMap DispatchCall.waiting) :
    subscriptionId ∈ s.waiting := by
  obtain ⟨call, hcall, hmem⟩ := List.mem_flatMap.mp h
  cases call with
  | delivering session =>
    obtain ⟨other, -, hother⟩ := mem_workers_set hnew hcall
    exact mem_flatMap_of_getElem? hother hmem
  | returned => cases hmem
  | died => cases hmem

theorem kept_finish (h : Kept s) (hcall : s.workers[place]? = some (.delivering session)) :
    Kept ((s.flushAll session).setWorker place .returned) := by
  have hmem := List.mem_of_getElem? hcall
  have hcases : ∀ other, DispatchCall.delivering other ∈ s.workers.set place .returned →
      .delivering other ∈ s.workers ∧ ∀ deliveryId ∈ other.held,
        deliveryId ∉ session.written.map Prod.fst := by
    intro other hother
    obtain ⟨j, hne, hj⟩ := mem_workers_set (.inl rfl) hother
    refine ⟨List.mem_of_getElem? hj, ?_⟩
    intro deliveryId hheld hwritten
    exact not_mem_of_nodup_flatMap h.apart hne hj hcall hheld (List.mem_append_left _ hwritten)
  have hother : ∀ other, DispatchCall.delivering other ∈ s.workers.set place .returned →
      ∀ deliveryId ∈ other.held,
        (s.flushAll session).deliveries[deliveryId]? = s.deliveries[deliveryId]? :=
    fun other hmem deliveryId hheld => flushAll_other ((hcases other hmem).2 deliveryId hheld)
  refine {
    apart := nodup_flatMap_set_nil h.apart hcall rfl
    todo := ?_
    active := ?_
    written := ?_
    settled := ?_
    loaded := fun other hmem => h.loaded other (hcases other hmem).1
    replaying := h.replaying
    limits := flushAll_limits h
    known := ?_
    sound := h.sound }
  · intro other hin entry hentry
    obtain ⟨hstored, hunsettled⟩ := h.todo other (hcases other hin).1 entry hentry
    have hheld : entry.1 ∈ other.held :=
      List.mem_append_right _ (List.mem_map.mpr ⟨_, hentry, rfl⟩)
    exact ⟨(hother other hin _ hheld).trans hstored, hunsettled⟩
  · intro subscriptionId hsub
    have hbefore := h.active subscriptionId (waiting_subset_set (.inl rfl) hsub)
    rw [← Bool.not_eq_true, suspended_iff]
    rintro (⟨subscription, hrow, hstatus⟩ | ⟨other, hin, copy, hcopy, htripped⟩)
    · exact hstatus (flushAll_active h hmem hbefore hrow)
    · rw [not_tripped_of_not_suspended hbefore (hcases other hin).1 hcopy] at htripped
      cases htripped
  · intro other hin entry hentry
    have outcome := h.written other (hcases other hin).1 entry hentry
    have hheld : entry.1 ∈ other.held :=
      List.mem_append_left _ (List.mem_map.mpr ⟨_, hentry, rfl⟩)
    exact ⟨(hother other hin _ hheld).trans outcome.loaded, outcome.unsettled,
      outcome.subscription, outcome.limit, outcome.good⟩
  · intro deliveryId row hrow
    by_cases hwritten : deliveryId ∈ session.written.map Prod.fst
    · obtain ⟨entry, hentry, rfl⟩ := List.mem_map.mp hwritten
      obtain rfl := Option.some.inj ((flushAll_written h hmem hentry).symm.trans hrow)
      exact .inl (h.written session hmem entry hentry).good
    · have hstored : s.deliveries[deliveryId]? = some row :=
        (flushAll_other hwritten).symm.trans hrow
      refine (h.settled deliveryId row hstored).imp_right ?_
      rintro ⟨second, hsecond, hin⟩
      obtain heq | hstays := eq_or_mem_set .returned hcall hsecond
      · cases heq
        exact absurd hin hwritten
      · exact ⟨second, hstays, hin⟩
  · intro event hevent
    have hlt := h.known event hevent
    have hlength : (s.flushAll session).deliveries.length = s.deliveries.length :=
      length_foldl_modify
    simp only [setWorker, hlength]
    exact hlt

theorem kept_die (h : Kept s) (hcall : s.workers[place]? = some (.delivering session))
    (hguard : session.written = []) : Kept (s.setWorker place .died) := by
  have hcases : ∀ other, DispatchCall.delivering other ∈ s.workers.set place .died →
      .delivering other ∈ s.workers := by
    intro other hother
    obtain ⟨j, -, hj⟩ := mem_workers_set (.inr rfl) hother
    exact List.mem_of_getElem? hj
  refine {
    apart := nodup_flatMap_set_nil h.apart hcall rfl
    todo := fun other hin => h.todo other (hcases other hin)
    active := ?_
    written := ?_
    settled := ?_
    loaded := fun other hin => h.loaded other (hcases other hin)
    replaying := h.replaying
    limits := h.limits
    known := h.known
    sound := h.sound }
  · intro subscriptionId hsub
    have hbefore := h.active subscriptionId (waiting_subset_set (.inr rfl) hsub)
    rw [← Bool.not_eq_true, suspended_iff]
    rintro (⟨subscription, hrow, hstatus⟩ | ⟨other, hin, copy, hcopy, htripped⟩)
    · exact hstatus (active_of_not_suspended hbefore hrow)
    · rw [not_tripped_of_not_suspended hbefore (hcases other hin) hcopy] at htripped
      cases htripped
  · intro other hin entry hentry
    exact (h.written other (hcases other hin) entry hentry).log rfl rfl rfl rfl
  · intro deliveryId row hrow
    refine (h.settled deliveryId row hrow).imp_right ?_
    rintro ⟨second, hsecond, hin⟩
    obtain heq | hstays := eq_or_mem_set .died hcall hsecond
    · cases heq
      rw [hguard] at hin
      cases hin
    · exact ⟨second, hstays, hin⟩

/-! ### The administrator -/

theorem kept_admins (h : Kept s) (now : ℤ) (admins : List AdminCall)
    (hadmins : ∀ deliveryId copy, .replaying deliveryId copy ∈ admins →
      ∃ now, copy.value = copy.loaded.replayed now) :
    Kept { s with now := now, admins := admins } where
  apart := h.apart
  todo := h.todo
  active := h.active
  written other hin entry hentry := (h.written other hin entry hentry).log rfl rfl rfl rfl
  settled := h.settled
  loaded := h.loaded
  replaying := hadmins
  limits := h.limits
  known := h.known
  sound := h.sound

theorem kept_replay (h : Kept s) {copy : Copy WebhookDelivery}
    (hvalue : ∃ now, copy.value = copy.loaded.replayed now)
    (hstored : s.deliveries[deliveryId]? = some copy.loaded) (hfree : deliveryId ∉ s.held) :
    Kept { s with
      deliveries := s.deliveries.modify deliveryId (WebhookDelivery.flush copy)
      log := .replayed deliveryId :: s.log } := by
  obtain ⟨now, hvalue⟩ := hvalue
  have hgood := good_of_free h hstored hfree
  have hother : ∀ other ∈ s.held,
      (s.deliveries.modify deliveryId (WebhookDelivery.flush copy))[other]? =
        s.deliveries[other]? := by
    intro other hmem
    refine List.getElem?_modify_ne _ _ ?_
    rintro rfl
    exact hfree hmem
  refine {
    apart := h.apart
    todo := ?_
    active := h.active
    written := ?_
    settled := ?_
    loaded := h.loaded
    replaying := h.replaying
    limits := h.limits
    known := ?_
    sound := h.sound }
  · intro session hcall entry hentry
    obtain ⟨hrow, hunsettled⟩ := h.todo session hcall entry hentry
    have hheld := mem_held hcall (List.mem_append_right _ (List.mem_map.mpr ⟨_, hentry, rfl⟩))
    exact ⟨(hother _ hheld).trans hrow, hunsettled⟩
  · intro session hcall entry hentry
    have outcome := h.written session hcall entry hentry
    have hheld := mem_held_of_written hcall (List.mem_map.mpr ⟨_, hentry, rfl⟩)
    have hne : deliveryId ≠ entry.1 := by
      rintro rfl
      exact hfree hheld
    exact ⟨(hother _ hheld).trans outcome.loaded, outcome.unsettled, outcome.subscription,
      outcome.limit, outcome.good.congr (requests_replayed_of_ne hne) (answered_replayed_of_ne hne)⟩
  · intro other row hrow
    obtain ⟨rfl, before, hbefore, rfl⟩ | ⟨hne, hold⟩ := getElem?_modify_cases hrow
    · cases hstored.symm.trans hbefore
      left
      rw [flush_delivery_loaded (by rw [hvalue]; rfl) (by rw [hvalue]; rfl), hvalue]
      exact good_replayed hgood.limit
    · obtain hbefore | hwritten := h.settled other row hold
      · exact .inl (hbefore.congr (requests_replayed_of_ne hne.symm)
          (answered_replayed_of_ne hne.symm))
      · exact .inr hwritten
  · intro event hevent
    rw [List.length_modify]
    obtain rfl | hold := List.mem_cons.mp hevent
    · exact (List.getElem?_eq_some_iff.mp hstored).1
    · exact h.known event hold

theorem kept_setStatus (h : Kept s) {copy : Copy EventSubscription}
    (hguard : copy.value.status = .active ∨ subscriptionId ∉ s.waiting) :
    Kept { s with
      subscriptions := s.subscriptions.modify subscriptionId (EventSubscription.flush copy) } where
  apart := h.apart
  todo := h.todo
  active other hmem := by
    have hbefore := h.active other hmem
    rw [← Bool.not_eq_true, suspended_iff]
    rintro (⟨subscription, hrow, hstatus⟩ | ⟨session, hcall, value, hvalue, htripped⟩)
    · obtain ⟨rfl, row, hold, rfl⟩ | ⟨-, hold⟩ := getElem?_modify_cases hrow
      · obtain hactive | hnot := hguard
        · have hrowActive := active_of_not_suspended hbefore hold
          apply hstatus
          obtain heq | heq := flushed_cases copy.loaded.status copy.value.status row.status
          · exact heq.trans hrowActive
          · exact heq.trans hactive
        · exact hnot hmem
      · exact hstatus (active_of_not_suspended hbefore hold)
    · rw [not_tripped_of_not_suspended hbefore hcall hvalue] at htripped
      cases htripped
  written session hcall entry hentry := (h.written session hcall entry hentry).log rfl rfl rfl rfl
  settled := h.settled
  loaded := h.loaded
  replaying := h.replaying
  limits subscription hmem := by
    obtain ⟨i, hi⟩ := List.mem_iff_getElem?.mp hmem
    obtain ⟨-, row, hold, rfl⟩ | ⟨-, hold⟩ := getElem?_modify_cases hi
    · exact h.limits row (List.mem_of_getElem? hold)
    · exact h.limits _ (List.mem_of_getElem? hold)
  known := h.known
  sound := h.sound

end Webhooks

end Afcon360.Notifications
