import Mathlib.Data.Int.Notation
import Afcon360.Foundation.Flush
import Afcon360.Foundation.Run

/-!
# Partner webhooks

`WebhookDispatcher` sends the deliveries that are due to the endpoints of the subscribers. A
call of `run_once` selects a batch without a lock, makes one request after the other, and
commits all outcomes at the end. A failure counts on the subscription too, and enough of them
pause it. An administrator replays a delivery, or changes the status of a subscription.

Subscriptions and deliveries are named by their positions in the tables, times are in
microseconds. Of a request only its outcome is here.
-/

namespace Afcon360.Notifications

open Foundation

inductive SubscriptionStatus
  | active | paused | disabled
deriving DecidableEq, Repr

inductive DeliveryStatus
  | pending | retrying | delivered | deadLetter | cancelled
deriving DecidableEq, Repr

structure EventSubscription where
  status : SubscriptionStatus := .active
  maxAttempts : ℤ := 6
  consecutiveFailures : ℕ := 0
  lastSuccessAt : Option ℤ := none
  lastFailureAt : Option ℤ := none
deriving DecidableEq, Repr

structure WebhookDelivery where
  subscriptionId : ℕ
  status : DeliveryStatus := .pending
  attempts : ℕ := 0
  maxAttempts : ℤ := 6
  nextAttemptAt : Option ℤ
  responseCode : Option ℕ := none
  responseBody : Option String := none
  lastError : Option String := none
  deliveredAt : Option ℤ := none
deriving DecidableEq, Repr

/-- `BACKOFF_SCHEDULE`, in seconds. -/
def webhookBackoff : List ℕ := [10, 30, 120, 600, 3600]

/-- `_backoff_for`, in microseconds. -/
def webhookBackoffFor (attempt : ℕ) : ℤ := webhookBackoff.getD (min (attempt - 1) 4) 3600 * 1000000

/-- `CIRCUIT_BREAKER_THRESHOLD` -/
def circuitBreakerThreshold : ℕ := 20

/-- `… or 6` -/
def orSix (maxAttempts : ℤ) : ℤ := if maxAttempts = 0 then 6 else maxAttempts

def cut (length : ℕ) (text : String) : String := String.ofList (text.toList.take length)

/-- What comes of a request. -/
inductive WebhookReply
  | response (statusCode : ℕ) (text : String)
  | raised (error : String)
deriving DecidableEq, Repr

/-- A 2xx response. -/
def WebhookReply.ok : WebhookReply → Bool
  | .response statusCode _ => 200 ≤ statusCode ∧ statusCode < 300
  | .raised _ => false

namespace EventSubscription

/-- The part of `_succeed` that is about the subscription. -/
def succeed (subscription : EventSubscription) (now : ℤ) : EventSubscription :=
  { subscription with consecutiveFailures := 0, lastSuccessAt := some now }

/-- The part of `_fail` that is about the subscription, with the circuit breaker. -/
def fail (subscription : EventSubscription) (now : ℤ) : EventSubscription :=
  let failures := subscription.consecutiveFailures + 1
  { subscription with
    consecutiveFailures := failures
    lastFailureAt := some now
    status := if circuitBreakerThreshold ≤ failures then .paused else subscription.status }

/-- What `set_subscription_status` writes. -/
def setStatus (subscription : EventSubscription) (status : SubscriptionStatus) :
    EventSubscription :=
  { subscription with
    status := status
    consecutiveFailures := if status = .active then 0 else subscription.consecutiveFailures }

/-- The row after the update of a copy. -/
def flush (copy : Copy EventSubscription) (row : EventSubscription) : EventSubscription :=
  { row with
    status := flushed copy.loaded.status copy.value.status row.status
    consecutiveFailures := flushed copy.loaded.consecutiveFailures
      copy.value.consecutiveFailures row.consecutiveFailures
    lastSuccessAt := flushed copy.loaded.lastSuccessAt copy.value.lastSuccessAt row.lastSuccessAt
    lastFailureAt := flushed copy.loaded.lastFailureAt copy.value.lastFailureAt row.lastFailureAt }

end EventSubscription

namespace WebhookDelivery

/-- The deliveries that `due` looks for. -/
def unsettled (delivery : WebhookDelivery) : Bool :=
  delivery.status = .pending ∨ delivery.status = .retrying

def due (now : ℤ) (delivery : WebhookDelivery) : Bool :=
  delivery.unsettled && delivery.nextAttemptAt.any (· ≤ now)

/-- `delivery.max_attempts or 6` -/
def attemptLimit (delivery : WebhookDelivery) : ℤ := orSix delivery.maxAttempts

/-- The part of `_succeed` that is about the delivery. -/
def succeed (delivery : WebhookDelivery) (now : ℤ) : WebhookDelivery :=
  { delivery with
    status := .delivered, deliveredAt := some now, lastError := none, nextAttemptAt := none }

/-- The part of `_fail` that is about the delivery. -/
def fail (delivery : WebhookDelivery) (now : ℤ) (error : String) : WebhookDelivery :=
  if delivery.attemptLimit ≤ delivery.attempts then
    { delivery with
      lastError := some (cut 2000 error), status := .deadLetter, nextAttemptAt := none }
  else
    { delivery with
      lastError := some (cut 2000 error), status := .retrying
      nextAttemptAt := some (now + webhookBackoffFor delivery.attempts) }

/-- The delivery after a request. -/
def requested (delivery : WebhookDelivery) (now : ℤ) (reply : WebhookReply) : WebhookDelivery :=
  let delivery := { delivery with attempts := delivery.attempts + 1 }
  match reply with
  | .response statusCode text =>
    let delivery :=
      { delivery with responseCode := some statusCode, responseBody := some (cut 2000 text) }
    if reply.ok then delivery.succeed now
    else delivery.fail now ("HTTP " ++ toString statusCode ++ ": " ++ cut 200 (cut 2000 text))
  | .raised error => { delivery with responseCode := none }.fail now error

def cancel (delivery : WebhookDelivery) : WebhookDelivery :=
  { delivery with status := .cancelled, lastError := some "Subscription no longer exists" }

/-- What `replay` writes, whatever the status is. -/
def replayed (delivery : WebhookDelivery) (now : ℤ) : WebhookDelivery :=
  { delivery with status := .pending, attempts := 0, lastError := none, nextAttemptAt := some now }

/-- The row after the update of a copy. -/
def flush (copy : Copy WebhookDelivery) (row : WebhookDelivery) : WebhookDelivery :=
  { row with
    status := flushed copy.loaded.status copy.value.status row.status
    attempts := flushed copy.loaded.attempts copy.value.attempts row.attempts
    nextAttemptAt := flushed copy.loaded.nextAttemptAt copy.value.nextAttemptAt row.nextAttemptAt
    responseCode := flushed copy.loaded.responseCode copy.value.responseCode row.responseCode
    responseBody := flushed copy.loaded.responseBody copy.value.responseBody row.responseBody
    lastError := flushed copy.loaded.lastError copy.value.lastError row.lastError
    deliveredAt := flushed copy.loaded.deliveredAt copy.value.deliveredAt row.deliveredAt }

end WebhookDelivery

/-- The session of a call of `run_once`. -/
structure DispatchSession where
  written : List (ℕ × Copy WebhookDelivery) := []
  subscriptions : List (ℕ × Copy EventSubscription) := []
  todo : List (ℕ × WebhookDelivery)
deriving DecidableEq, Repr

inductive DispatchCall
  | delivering (session : DispatchSession)
  | returned
  | died
deriving DecidableEq, Repr

/-- A call of an administrator that has loaded its row. -/
inductive AdminCall
  | replaying (deliveryId : ℕ) (copy : Copy WebhookDelivery)
  | settingStatus (subscriptionId : ℕ) (copy : Copy EventSubscription)
  | done
deriving DecidableEq, Repr

/-- What the statements count: a request, with whether the subscription was open for it and
whether it got a 2xx response, and a replay. -/
inductive WebhookEvent
  | requested (deliveryId : ℕ) (allowed ok : Bool)
  | replayed (deliveryId : ℕ)
deriving DecidableEq, Repr

structure Webhooks where
  now : ℤ := 0
  subscriptions : List EventSubscription := []
  deliveries : List WebhookDelivery := []
  workers : List DispatchCall := []
  admins : List AdminCall := []
  /-- The latest event first. -/
  log : List WebhookEvent := []
deriving DecidableEq, Repr

inductive WebhookAct
  | subscribe (maxAttempts : ℤ)
  | enqueue (subscriptionId : ℕ)
  | runOnce (limit : ℕ) (batch : List ℕ)
  | deliver (place : ℕ) (reply : WebhookReply)
  | finish (place : ℕ)
  | die (place : ℕ)
  | replay (deliveryId : ℕ)
  | setStatus (subscriptionId : ℕ) (status : SubscriptionStatus)
  | adminCommit (place : ℕ)
  | tick (microseconds : ℕ)
deriving DecidableEq, Repr

namespace DispatchSession

/-- `db.session.get(EventSubscription, …)`: the session's copy, or what is stored. -/
def subscription? (session : DispatchSession) (stored : List EventSubscription)
    (subscriptionId : ℕ) : Option (Copy EventSubscription) :=
  match session.subscriptions.lookup subscriptionId with
  | some copy => some copy
  | none => stored[subscriptionId]?.map fun row => ⟨row, row⟩

/-- `deliver`, with what it logs; `allowed` says whether the subscription was open. -/
def deliver (session : DispatchSession) (stored : List EventSubscription) (now : ℤ)
    (reply : WebhookReply) (allowed : Bool) : Option (DispatchSession × List WebhookEvent) :=
  match session.todo with
  | [] => none
  | (deliveryId, row) :: todo =>
    match session.subscription? stored row.subscriptionId with
    | none =>
      some ({ session with
        written := session.written ++ [(deliveryId, ⟨row, row.cancel⟩)], todo := todo }, [])
    | some copy =>
      let value := if reply.ok then copy.value.succeed now else copy.value.fail now
      some ({
        written := session.written ++ [(deliveryId, ⟨row, row.requested now reply⟩)]
        subscriptions := (row.subscriptionId, { copy with value := value }) ::
          session.subscriptions.filter (·.1 ≠ row.subscriptionId)
        todo := todo }, [.requested deliveryId allowed reply.ok])

end DispatchSession

/-- The breaker has tripped in a session that has not committed. -/
def tripped (copy : Copy EventSubscription) : Bool :=
  copy.loaded.status = .active && copy.value.status ≠ .active

namespace Webhooks

/-- The subscription is paused or disabled, or a session has tripped its breaker. -/
def suspended (s : Webhooks) (subscriptionId : ℕ) : Bool :=
  s.subscriptions[subscriptionId]?.any (·.status ≠ .active) ||
    s.workers.any fun call =>
      match call with
      | .delivering session =>
        session.subscriptions.any fun entry => entry.1 = subscriptionId && tripped entry.2
      | _ => false

/-- The next delivery of a worker. -/
def nextSubscription (session : DispatchSession) : ℕ :=
  match session.todo with
  | [] => 0
  | (_, row) :: _ => row.subscriptionId

def isDue (s : Webhooks) (deliveryId : ℕ) : Bool :=
  s.deliveries[deliveryId]?.any (·.due s.now)

/-- A batch of `due`: the earliest due deliveries, in the order of their time. -/
def DueBatch (s : Webhooks) (limit : ℕ) (batch : List ℕ) : Prop :=
  batch.Nodup ∧ (∀ deliveryId ∈ batch, s.isDue deliveryId = true) ∧
    batch.length = min limit (s.deliveries.countP (·.due s.now)) ∧
    (batch.filterMap (s.deliveries[·]?)).Pairwise
      (fun first second => first.nextAttemptAt.getD 0 ≤ second.nextAttemptAt.getD 0) ∧
    ∀ first ∈ batch.filterMap (s.deliveries[·]?), ∀ entry ∈ s.deliveries.zipIdx,
      entry.1.due s.now = true → entry.2 ∉ batch →
        first.nextAttemptAt.getD 0 ≤ entry.1.nextAttemptAt.getD 0

instance (s : Webhooks) (limit : ℕ) (batch : List ℕ) : Decidable (s.DueBatch limit batch) :=
  inferInstanceAs (Decidable (_ ∧ _ ∧ _ ∧ _ ∧ _))

/-- The rows of a batch as the session loads them. -/
def loadBatch (s : Webhooks) (batch : List ℕ) : List (ℕ × WebhookDelivery) :=
  batch.filterMap fun deliveryId => s.deliveries[deliveryId]?.map (Prod.mk deliveryId)

def setWorker (s : Webhooks) (place : ℕ) (call : DispatchCall) : Webhooks :=
  { s with workers := s.workers.set place call }

/-- The final commit of a session. -/
def flushAll (s : Webhooks) (session : DispatchSession) : Webhooks :=
  { s with
    deliveries := session.written.foldl
      (fun rows entry => rows.modify entry.1 (WebhookDelivery.flush entry.2)) s.deliveries
    subscriptions := session.subscriptions.foldl
      (fun rows entry => rows.modify entry.1 (EventSubscription.flush entry.2)) s.subscriptions }

def next (s : Webhooks) : WebhookAct → Option Webhooks
  | .subscribe maxAttempts =>
    some { s with subscriptions := s.subscriptions ++ [{ maxAttempts := maxAttempts }] }
  | .enqueue subscriptionId =>
    s.subscriptions[subscriptionId]?.map fun subscription =>
      { s with
        deliveries := s.deliveries ++ [{
          subscriptionId := subscriptionId
          maxAttempts := orSix subscription.maxAttempts
          nextAttemptAt := some s.now }] }
  | .runOnce limit batch =>
    if s.DueBatch limit batch then
      some { s with
        workers := s.workers ++ [
          if batch = [] then .returned else .delivering { todo := s.loadBatch batch }] }
    else none
  | .deliver place reply =>
    match s.workers[place]? with
    | some (.delivering session) =>
      (session.deliver s.subscriptions s.now reply
        (!s.suspended (nextSubscription session))).map fun (after, events) =>
          { s.setWorker place (.delivering after) with log := events ++ s.log }
    | _ => none
  | .finish place =>
    match s.workers[place]? with
    | some (.delivering session) =>
      if session.todo = [] then some ((s.flushAll session).setWorker place .returned) else none
    | _ => none
  -- a crash, an exception that escapes, or a final commit that fails
  | .die place =>
    match s.workers[place]? with
    | some (.delivering _) => some (s.setWorker place .died)
    | _ => none
  | .replay deliveryId =>
    s.deliveries[deliveryId]?.map fun row =>
      { s with admins := s.admins ++ [.replaying deliveryId ⟨row, row.replayed s.now⟩] }
  | .setStatus subscriptionId status =>
    s.subscriptions[subscriptionId]?.map fun row =>
      { s with admins := s.admins ++ [.settingStatus subscriptionId ⟨row, row.setStatus status⟩] }
  | .adminCommit place =>
    match s.admins[place]? with
    | some (.replaying deliveryId copy) =>
      some { s with
        deliveries := s.deliveries.modify deliveryId (WebhookDelivery.flush copy)
        admins := s.admins.set place .done
        log := .replayed deliveryId :: s.log }
    | some (.settingStatus subscriptionId copy) =>
      some { s with
        subscriptions := s.subscriptions.modify subscriptionId (EventSubscription.flush copy)
        admins := s.admins.set place .done }
    | _ => none
  | .tick microseconds => some { s with now := s.now + microseconds }

def Step (s : Webhooks) (a : WebhookAct) (t : Webhooks) : Prop := s.next a = some t

end Webhooks

end Afcon360.Notifications
