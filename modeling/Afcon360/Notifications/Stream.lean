import Afcon360.Notifications.Webhook

/-!
# Consumers of the event stream

The messages of the firehose are read in batches by consumer processes, those that stay
unacknowledged are reclaimed, and `EventReplayer` dispatches events of the ledger again. A
dispatch calls one consumer after the other: each looks for its marker in `processed_events`,
commits what it has to write, and then commits the marker. `cleanup_ledger` prunes markers
and ledger.

Events, messages and subscriptions are named by numbers, times are in microseconds. A batch in
the memory of a process is a worker of its own.
-/

namespace Afcon360.Notifications

open Foundation

/-- `ConsumerRegistry`, in the order of registration. -/
inductive Consumer
  | notification | audit | analytics | webhook
deriving DecidableEq, Repr

def Consumer.all : List Consumer := [.notification, .audit, .analytics, .webhook]

/-- What the policies and the registry say about an event type. -/
structure EventRules where
  notified : String → Bool
  audited : String → Bool
  externallyVisible : String → Bool

structure PartnerSubscription where
  eventTypes : List String
  status : SubscriptionStatus := .active
deriving DecidableEq, Repr

/-- `matches` -/
def PartnerSubscription.accepts (subscription : PartnerSubscription) (eventType : String) : Bool :=
  subscription.eventTypes.any fun pattern =>
    pattern = "*" || pattern = eventType ||
      (pattern.toList.getLast? = some '*' &&
        pattern.toList.dropLast.isPrefixOf eventType.toList)

inductive LedgerStatus
  | pending | published | processing | processed | partly | deadLetter
deriving DecidableEq, Repr

structure LedgerEvent where
  eventId : ℕ
  occurredAt : ℤ
  status : LedgerStatus := .pending
deriving DecidableEq, Repr

/-- The rows with the status of one event set. -/
def LedgerEvent.mark (eventId : ℕ) (status : LedgerStatus) (ledger : List LedgerEvent) :
    List LedgerEvent :=
  ledger.map fun event => if event.eventId = eventId then { event with status := status } else event

inductive MarkerStatus
  | success | deadLetter
deriving DecidableEq, Repr

structure ProcessedEvent where
  consumer : Consumer
  eventId : ℕ
  status : MarkerStatus
  processedAt : ℤ
deriving DecidableEq, Repr

/-- A row that a consumer has committed: an inbox entry, an audit record, or the delivery row
of the subscription `key`. `attempt` names the call of `process` it comes from. -/
structure EffectRow where
  consumer : Consumer
  eventId : ℕ
  key : ℕ
  attempt : ℕ
deriving DecidableEq, Repr

structure Message where
  messageId : ℕ
  eventId : ℕ
deriving DecidableEq, Repr

/-- An entry of the group's pending list. -/
structure PendingEntry where
  message : Message
  deliveredAt : ℤ
deriving DecidableEq, Repr

inductive ConsumerStatus
  | skipped | duplicate | success | deadLetter | retry | error
deriving DecidableEq, Repr

/-- Where a call of `handle` stands once the marker was not found. -/
inductive Stage
  | checked
  | writing (attempt : ℕ) (work : List ℕ)
  | written (attempt : ℕ)
  | failing
deriving DecidableEq, Repr

inductive Phase
  | between
  | handling (consumer : Consumer) (stage : Stage)
  | settled
deriving DecidableEq, Repr

/-- A call of `dispatch`. `interested` collects the consumers that were interested. -/
structure Dispatch where
  eventId : ℕ
  message : Option Message
  todo : List Consumer
  statuses : List ConsumerStatus := []
  phase : Phase := .between
  interested : List Consumer := []
deriving DecidableEq, Repr

structure EventWorker where
  only : List Consumer := []
  batch : List (ℕ × Option Message) := []
  current : Option Dispatch := none
deriving DecidableEq, Repr

/-- What the statements count. -/
inductive StreamEvent
  /-- A call of `process` has these rows to write. -/
  | undertaken (consumer : Consumer) (eventId attempt : ℕ) (work : List ℕ)
  | deadLettered (consumer : Consumer) (eventId : ℕ)
  | acknowledged (eventId : ℕ) (interested : List Consumer)
deriving DecidableEq, Repr

structure EventStream where
  now : ℤ := 0
  /-- The type of each event that was emitted. -/
  types : List String := []
  ledger : List LedgerEvent := []
  published : ℕ := 0
  unread : List Message := []
  pendingEntries : List PendingEntry := []
  subscriptions : List PartnerSubscription := []
  markers : List ProcessedEvent := []
  rows : List EffectRow := []
  workers : List EventWorker := []
  attempts : ℕ := 0
  /-- The latest event first. -/
  log : List StreamEvent := []
deriving DecidableEq, Repr

/-- What comes of the queries before `process`. -/
inductive CheckOutcome
  | answered
  /-- The webhook consumer takes a failed query for no interest. -/
  | interestFails
  | markerFails
deriving DecidableEq, Repr

inductive ProcessOutcome
  | proceeds (sends : ℕ)
  /-- `PermanentConsumerError`, which the audit consumer raises. -/
  | permanent
  | raises
deriving DecidableEq, Repr

inductive StreamAct
  | emit (eventType : String)
  | publish (eventId : ℕ)
  /-- The relay commits what became of the row of the outbox. -/
  | relayed (eventId : ℕ) (status : LedgerStatus)
  | subscribe (eventTypes : List String)
  | setStatus (subscriptionId : ℕ) (status : SubscriptionStatus)
  | read (count : ℕ)
  | reclaim (count : ℕ)
  | replay (eventIds : List ℕ) (only : List Consumer)
  | start (place : ℕ)
  | skip (place : ℕ)
  | check (place : ℕ) (outcome : CheckOutcome)
  | process (place : ℕ) (outcome : ProcessOutcome)
  | commit (place : ℕ) (ok : Bool)
  | record (place : ℕ) (ok : Bool)
  | settle (place : ℕ) (ok : Bool)
  | acknowledge (place : ℕ) (ok : Bool)
  | die (place : ℕ)
  | cleanup (retentionDays : ℕ) (batch : ℕ)
  | tick (microseconds : ℕ)
deriving DecidableEq, Repr

def dayMicroseconds : ℤ := 86400000000

/-- `DEFAULT_MIN_IDLE_MS`, in microseconds. -/
def minIdle : ℤ := 300000000

/-- Delete the first rows that meet the condition, at most so many. -/
def prune {ρ : Type} (old : ρ → Bool) : ℕ → List ρ → List ρ
  | _, [] => []
  | 0, rows => rows
  | batch + 1, row :: rows =>
    if old row then prune old batch rows else row :: prune old (batch + 1) rows

/-- `batch = max(1, min(int(batch), 500))` -/
def clampBatch (batch : ℕ) : ℕ := max 1 (min batch 500)

namespace EventStream

def typeOf (s : EventStream) (eventId : ℕ) : String := s.types.getD eventId ""

/-- `interested_in`, where its query does not fail. -/
def interestedIn (rules : EventRules) (s : EventStream) (consumer : Consumer) (eventId : ℕ) :
    Bool :=
  match consumer with
  | .notification => rules.notified (s.typeOf eventId)
  | .audit => rules.audited (s.typeOf eventId)
  | .analytics => true
  | .webhook => rules.externallyVisible (s.typeOf eventId) &&
      s.subscriptions.any (·.status = .active)

def alreadyProcessed (s : EventStream) (consumer : Consumer) (eventId : ℕ) : Bool :=
  s.markers.any fun marker => marker.consumer = consumer && marker.eventId = eventId

/-- The active subscriptions that match the event. -/
def matching (s : EventStream) (eventId : ℕ) : List ℕ :=
  (s.subscriptions.zipIdx.filter fun entry =>
    entry.1.status = .active && entry.1.accepts (s.typeOf eventId)).map Prod.snd

/-- What `process` has to write. -/
def workOf (s : EventStream) (consumer : Consumer) (eventId sends : ℕ) : List ℕ :=
  match consumer with
  | .notification => List.range sends
  | .audit => [0]
  | .analytics => []
  | .webhook => s.matching eventId

def setWorker (s : EventStream) (place : ℕ) (worker : EventWorker) : EventStream :=
  { s with workers := s.workers.set place worker }

def setCurrent (s : EventStream) (place : ℕ) (worker : EventWorker) (dispatch : Dispatch) :
    EventStream :=
  s.setWorker place { worker with current := some dispatch }

end EventStream

namespace Dispatch

/-- The consumer has returned a status. -/
def returned (dispatch : Dispatch) (status : ConsumerStatus) : Dispatch :=
  { dispatch with statuses := dispatch.statuses ++ [status], phase := .between }

def stands (dispatch : Dispatch) (consumer : Consumer) (stage : Stage) : Dispatch :=
  { dispatch with phase := .handling consumer stage }

/-- The message stays in the pending list. -/
def retries (dispatch : Dispatch) : Bool :=
  dispatch.statuses.any fun status => status = .retry || status = .error

/-- `handle`, up to `already_processed`. -/
def check (rules : EventRules) (s : EventStream) (dispatch : Dispatch) (outcome : CheckOutcome) :
    Option Dispatch :=
  match dispatch.phase, dispatch.todo with
  | .between, consumer :: todo =>
    let dispatch := { dispatch with todo := todo }
    if s.interestedIn rules consumer dispatch.eventId then
      let dispatch := { dispatch with interested := consumer :: dispatch.interested }
      if outcome = .interestFails ∧ consumer = .webhook then some (dispatch.returned .skipped)
      else if outcome = .markerFails then some (dispatch.returned .error)
      else if s.alreadyProcessed consumer dispatch.eventId then
        some (dispatch.returned .duplicate)
      else some (dispatch.stands consumer .checked)
    else some (dispatch.returned .skipped)
  | _, _ => none

/-- The stage after work was found or done. -/
def after (dispatch : Dispatch) (consumer : Consumer) (attempt : ℕ) (work : List ℕ) : Dispatch :=
  dispatch.stands consumer (if work = [] then .written attempt else .writing attempt work)

/-- What `_update_ledger` writes. -/
def ledgerStatus (dispatch : Dispatch) : LedgerStatus :=
  if dispatch.retries then .processing
  else if .deadLetter ∈ dispatch.statuses then .partly
  else .processed

end Dispatch

namespace EventStream

/-- The start of `process`: what it has to write, or how it fails. -/
def process (s : EventStream) (place : ℕ) (worker : EventWorker) (dispatch : Dispatch)
    (outcome : ProcessOutcome) : Option EventStream :=
  match dispatch.phase with
  | .handling consumer .checked =>
    match outcome with
    | .proceeds sends =>
      let work := s.workOf consumer dispatch.eventId sends
      some { s.setCurrent place worker (dispatch.after consumer s.attempts work) with
        attempts := s.attempts + 1
        log := .undertaken consumer dispatch.eventId s.attempts work :: s.log }
    | .permanent =>
      if consumer = .audit then
        some (s.setCurrent place worker (dispatch.stands consumer .failing))
      else none
    | .raises => some (s.setCurrent place worker (dispatch.returned .retry))
  | _ => none

/-- A commit of `process`. The notification consumer commits each entry, and passes over
those that fail; the others commit all at once. -/
def commit (s : EventStream) (place : ℕ) (worker : EventWorker) (dispatch : Dispatch) (ok : Bool) :
    Option EventStream :=
  match dispatch.phase with
  | .handling .notification (.writing attempt (key :: work)) =>
    let s := s.setCurrent place worker (dispatch.after .notification attempt work)
    some (if ok then
      { s with rows := s.rows ++ [⟨.notification, dispatch.eventId, key, attempt⟩] } else s)
  | .handling consumer (.writing attempt work) =>
    -- the unique constraint on subscription and event
    if consumer = .webhook ∧ s.rows.any (fun row => row.consumer = .webhook &&
        row.eventId = dispatch.eventId && work.contains row.key) then
      some (s.setCurrent place worker (dispatch.stands consumer (.written attempt)))
    else if ok then
      some { s.setCurrent place worker (dispatch.stands consumer (.written attempt)) with
        rows := s.rows ++ work.map fun key => ⟨consumer, dispatch.eventId, key, attempt⟩ }
    else some (s.setCurrent place worker (dispatch.returned .retry))
  | _ => none

/-- `_record`: a marker that cannot be stored is passed over. -/
def recordMarker (s : EventStream) (consumer : Consumer) (eventId : ℕ) (status : MarkerStatus)
    (ok : Bool) : EventStream :=
  if ok ∧ ¬ s.alreadyProcessed consumer eventId then
    { s with markers := s.markers ++ [⟨consumer, eventId, status, s.now⟩] }
  else s

def record (s : EventStream) (place : ℕ) (worker : EventWorker) (dispatch : Dispatch) (ok : Bool) :
    Option EventStream :=
  match dispatch.phase with
  | .handling consumer (.written _) =>
    some ((s.recordMarker consumer dispatch.eventId .success ok).setCurrent place worker
      (dispatch.returned .success))
  | .handling consumer .failing =>
    let s := { s with
      log := if ok ∧ ¬ s.alreadyProcessed consumer dispatch.eventId then
        .deadLettered consumer dispatch.eventId :: s.log else s.log
      markers := (s.recordMarker consumer dispatch.eventId .deadLetter ok).markers }
    some (s.setCurrent place worker (dispatch.returned .deadLetter))
  | _ => none

/-- `_update_ledger` -/
def settle (s : EventStream) (place : ℕ) (worker : EventWorker) (dispatch : Dispatch) (ok : Bool) :
    Option EventStream :=
  match dispatch.phase, dispatch.todo with
  | .between, [] =>
    some { s.setCurrent place worker { dispatch with phase := .settled } with
      ledger := if ok then LedgerEvent.mark dispatch.eventId dispatch.ledgerStatus s.ledger
        else s.ledger }
  | _, _ => none

/-- The end of a message in `_dispatch_batch`; a replay has none. -/
def acknowledge (s : EventStream) (place : ℕ) (worker : EventWorker) (dispatch : Dispatch)
    (ok : Bool) : Option EventStream :=
  match dispatch.phase with
  | .settled =>
    let s := s.setWorker place { worker with current := none }
    match dispatch.message with
    | some message =>
      if ok ∧ dispatch.retries = false then
        some { s with
          pendingEntries := s.pendingEntries.filter (·.message ≠ message)
          log := .acknowledged dispatch.eventId dispatch.interested :: s.log }
      else some s
    | none => some s
  | _ => none

/-- `cleanup_ledger`; the outbox is not here. -/
def cleanup (s : EventStream) (retentionDays batch : ℕ) : EventStream :=
  { s with
    markers := prune (fun marker => marker.processedAt < s.now - 30 * dayMicroseconds)
      (clampBatch batch) s.markers
    ledger := prune (fun event => event.occurredAt < s.now - retentionDays * dayMicroseconds &&
      event.status = .processed) (clampBatch batch) s.ledger }

/-- A step of the worker at a place on its current dispatch. -/
def withCurrent (s : EventStream) (place : ℕ)
    (f : EventWorker → Dispatch → Option EventStream) : Option EventStream :=
  match s.workers[place]? with
  | some worker =>
    match worker.current with
    | some dispatch => f worker dispatch
    | none => none
  | none => none

def next (rules : EventRules) (s : EventStream) : StreamAct → Option EventStream
  | .emit eventType =>
    some { s with
      types := s.types ++ [eventType]
      ledger := s.ledger ++ [{ eventId := s.types.length, occurredAt := s.now }] }
  | .publish eventId =>
    if eventId < s.types.length then
      some { s with
        unread := s.unread ++ [⟨s.published, eventId⟩], published := s.published + 1 }
    else none
  | .relayed eventId status =>
    if status = .published ∨ status = .deadLetter then
      some { s with ledger := LedgerEvent.mark eventId status s.ledger }
    else none
  | .subscribe eventTypes =>
    some { s with subscriptions := s.subscriptions ++ [{ eventTypes := eventTypes }] }
  | .setStatus subscriptionId status =>
    some { s with
      subscriptions := s.subscriptions.modify subscriptionId ({ · with status := status }) }
  | .read count =>
    let messages := s.unread.take count
    some { s with
      unread := s.unread.drop count
      pendingEntries := s.pendingEntries ++ messages.map (⟨·, s.now⟩)
      workers := s.workers ++ [{ batch := messages.map fun message =>
        (message.eventId, some message) }] }
  | .reclaim count =>
    let entries := (s.pendingEntries.filter (·.deliveredAt ≤ s.now - minIdle)).take count
    some { s with
      pendingEntries := s.pendingEntries.map fun entry =>
        if entry ∈ entries then { entry with deliveredAt := s.now } else entry
      workers := s.workers ++ [{ batch := entries.map fun entry =>
        (entry.message.eventId, some entry.message) }] }
  | .replay eventIds only =>
    if eventIds ⊆ s.ledger.map LedgerEvent.eventId then
      some { s with workers := s.workers ++ [{
        only := only, batch := eventIds.map fun eventId => (eventId, none) }] }
    else none
  | .start place =>
    match s.workers[place]? with
    | some { only := only, batch := (eventId, message) :: batch, current := none } =>
      some (s.setWorker place {
        only := only
        batch := batch
        current := some {
          eventId := eventId
          message := message
          todo := if only = [] then Consumer.all else Consumer.all.filter (· ∈ only) } })
    | _ => none
  -- a replay that finds its event deleted
  | .skip place =>
    match s.workers[place]? with
    | some { only := only, batch := (eventId, none) :: batch, current := none } =>
      if eventId ∉ s.ledger.map LedgerEvent.eventId then
        some (s.setWorker place { only := only, batch := batch, current := none })
      else none
    | _ => none
  | .check place outcome => s.withCurrent place fun worker dispatch =>
    (dispatch.check rules s outcome).map (s.setCurrent place worker)
  | .process place outcome => s.withCurrent place fun worker dispatch =>
    s.process place worker dispatch outcome
  | .commit place ok => s.withCurrent place fun worker dispatch =>
    s.commit place worker dispatch ok
  | .record place ok => s.withCurrent place fun worker dispatch =>
    s.record place worker dispatch ok
  | .settle place ok => s.withCurrent place fun worker dispatch =>
    s.settle place worker dispatch ok
  | .acknowledge place ok => s.withCurrent place fun worker dispatch =>
    s.acknowledge place worker dispatch ok
  | .die place => some (s.setWorker place {})
  | .cleanup retentionDays batch => some (s.cleanup retentionDays batch)
  | .tick microseconds => some { s with now := s.now + microseconds }

def Step (rules : EventRules) (s : EventStream) (a : StreamAct) (t : EventStream) : Prop :=
  s.next rules a = some t

end EventStream

end Afcon360.Notifications
