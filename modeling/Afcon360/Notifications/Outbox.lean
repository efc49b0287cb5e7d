import Mathlib.Data.List.Sort
import Afcon360.Foundation.Flush
import Afcon360.Foundation.Run

/-!
# The outbox relay

A business transaction stages an event as a row of the outbox, which is there when the
transaction commits. `OutboxRelay` moves the rows to the event bus: a worker claims a batch
of rows that are due and commits the claim, appends each event to the stream of its type
and to the firehose, and commits all outcomes at the end. Rows that could not be published
wait longer and longer and are dead-lettered in the end; an administrator or a task puts
them back into the queue.

A claim locks the rows it has selected until it commits, and skips the rows that others
have locked. Events are named by the order in which they were staged, in error texts too; times
are in microseconds.
-/

namespace Afcon360.Notifications

open Foundation

inductive OutboxStatus
  | pending | publishing | published | failed | deadLetter
deriving DecidableEq, Repr

/-- `EventEnvelope`, as far as the bus looks at it. -/
structure EventEnvelope where
  eventId : ℕ
  eventType : String
deriving DecidableEq, Repr

/-- What `EventEnvelope.from_dict` makes of the stored JSON. -/
inductive StoredEnvelope
  | parsed (envelope : EventEnvelope)
  | malformed (error : String)
deriving DecidableEq, Repr

structure OutboxEvent where
  eventId : ℕ
  envelope : StoredEnvelope
  status : OutboxStatus := .pending
  attempts : ℕ := 0
  maxAttempts : ℕ := 8
  availableAt : ℤ
  lastError : Option String := none
  publishedAt : Option ℤ := none
  lockedAt : Option ℤ := none
  lockedBy : Option ℕ := none
deriving DecidableEq, Repr

/-- `BACKOFF_SCHEDULE`, in seconds. -/
def backoffSchedule : List ℕ := [10, 30, 120, 600, 3600]

/-- `_backoff_for`, in microseconds. -/
def backoffFor (attempt : ℕ) : ℤ :=
  min (backoffSchedule.getD (min (attempt - 1) 4) 3600) 3600 * 1000000

/-- `STALE_LOCK_SECONDS` -/
def staleLock : ℤ := 300 * 1000000

/-- The error texts are cut to the length of their column. -/
def shortened (error : String) : String := String.ofList (error.toList.take 2000)

/-- What the bus answers to the two `XADD`s of a publication. A command that raises may
have taken effect. -/
inductive BusReply
  | ok
  | firstFails (applied : Bool) (error : String)
  | secondFails (applied : Bool) (error : String)
deriving DecidableEq, Repr

namespace BusReply

/-- The event is on the stream of its type. -/
def onStream : BusReply → Bool
  | .firstFails applied _ => applied
  | _ => true

/-- The event is in the firehose. -/
def inFirehose : BusReply → Bool
  | .ok => true
  | .firstFails _ _ => false
  | .secondFails applied _ => applied

def error? : BusReply → Option String
  | .ok => none
  | .firstFails _ error => some error
  | .secondFails _ error => some error

end BusReply

/-- A row as a session has loaded it, and as it will write it. -/
structure Written where
  loaded : OutboxEvent
  copy : OutboxEvent
deriving DecidableEq, Repr

namespace OutboxEvent

/-- The part of the filter of `claim` that is about the lock. -/
def unlocked (now : ℤ) (row : OutboxEvent) : Bool :=
  match row.lockedAt with
  | none => true
  | some lockedAt => lockedAt < now - staleLock

/-- The filter of `claim`. -/
def eligible (now : ℤ) (row : OutboxEvent) : Bool :=
  (row.status = .pending ∨ row.status = .failed) && decide (row.availableAt ≤ now) &&
    row.unlocked now

/-- `order_by(available_at, id)` -/
def ClaimedBefore (row other : OutboxEvent) : Prop :=
  row.availableAt < other.availableAt ∨
    row.availableAt = other.availableAt ∧ row.eventId ≤ other.eventId

instance (row other : OutboxEvent) : Decidable (row.ClaimedBefore other) :=
  inferInstanceAs (Decidable (_ ∨ _))

/-- `row.max_attempts or 8` -/
def attemptLimit (row : OutboxEvent) : ℕ := if row.maxAttempts = 0 then 8 else row.maxAttempts

/-- What a claim writes on a row. -/
def claimedBy (worker : ℕ) (now : ℤ) (row : OutboxEvent) : OutboxEvent :=
  { row with status := .publishing, lockedAt := some now, lockedBy := some worker }

/-- `_dead_letter` -/
def dead (row : OutboxEvent) (error : String) : OutboxEvent :=
  { row with
    status := .deadLetter, lastError := some (shortened error), lockedAt := none, lockedBy := none }

/-- `_fail` -/
def fail (row : OutboxEvent) (now : ℤ) (error : String) : OutboxEvent :=
  let row :=
    { row with
      attempts := row.attempts + 1, lastError := some (shortened error), lockedAt := none
      lockedBy := none }
  if row.attemptLimit ≤ row.attempts then row.dead error
  else { row with status := .failed, availableAt := now + backoffFor row.attempts }

/-- What `publish_row` writes on a row. -/
def publishRow (row : OutboxEvent) (now : ℤ) (reply : BusReply) : OutboxEvent :=
  match row.envelope with
  | .malformed error => row.dead ("Malformed envelope: " ++ error)
  | .parsed envelope =>
    match reply.error? with
    | some error =>
      row.fail now ("Failed to publish " ++ toString envelope.eventId ++ ": " ++ error)
    | none =>
      { row with
        status := .published, publishedAt := some now, lockedAt := none, lockedBy := none
        lastError := none }

/-- What `requeue` writes on a row, whatever its status is. -/
def requeued (row : OutboxEvent) (now : ℤ) : OutboxEvent :=
  { row with
    status := .pending, attempts := 0, lastError := none, lockedAt := none, lockedBy := none
    availableAt := now }

/-- `~OutboxEvent.last_error.ilike('%Malformed envelope%')`, which no missing text meets. -/
def transportFailure (row : OutboxEvent) : Bool :=
  row.lastError.any fun error =>
    !(error.toLower.toList.tails.any ("malformed envelope".toList.isPrefixOf ·))

/-- The row after the update of a copy. -/
def flush (write : Written) (row : OutboxEvent) : OutboxEvent :=
  { row with
    status := flushed write.loaded.status write.copy.status row.status
    attempts := flushed write.loaded.attempts write.copy.attempts row.attempts
    availableAt := flushed write.loaded.availableAt write.copy.availableAt row.availableAt
    lastError := flushed write.loaded.lastError write.copy.lastError row.lastError
    publishedAt := flushed write.loaded.publishedAt write.copy.publishedAt row.publishedAt
    lockedAt := flushed write.loaded.lockedAt write.copy.lockedAt row.lockedAt
    lockedBy := flushed write.loaded.lockedBy write.copy.lockedBy row.lockedBy }

end OutboxEvent

/-- A business transaction with the rows it has staged. -/
inductive Business
  | active (staged : List OutboxEvent)
  | committed (staged : List OutboxEvent)
  | rolledBack (staged : List OutboxEvent)
deriving DecidableEq, Repr

/-- A call of `run_once`: it has selected its rows; it has committed the claim and has
written some of the rows; or it is over. -/
inductive RelayCall
  | claiming (worker : ℕ) (claimedAt : ℤ) (batch : List ℕ)
  | publishing (claimedAt : ℤ) (written : List Written) (todo : List ℕ)
  | returned
  | died
deriving DecidableEq, Repr

namespace RelayCall

/-- The rows that a selection has locked. -/
def selected : RelayCall → List ℕ
  | .claiming _ _ batch => batch
  | _ => []

/-- The rows that a live worker has claimed. -/
def batch : RelayCall → List ℕ
  | .publishing _ written todo => written.map (·.loaded.eventId) ++ todo
  | _ => []

/-- The time that a live worker writes on the rows it claims. -/
def claimedAt? : RelayCall → Option ℤ
  | .claiming _ claimedAt _ => some claimedAt
  | .publishing claimedAt _ _ => some claimedAt
  | _ => none

end RelayCall

/-- A call of `requeue` for some rows one after the other: it has loaded one, or is about to
load the next. -/
inductive RequeueCall
  | loaded (write : Written) (rest : List ℕ)
  | waiting (rest : List ℕ)
deriving DecidableEq, Repr

/-- Load the first row that there is. -/
def RequeueCall.load (rows : List OutboxEvent) (now : ℤ) : List ℕ → RequeueCall
  | [] => .waiting []
  | eventId :: rest =>
    match rows.find? (·.eventId = eventId) with
    | some row => .loaded ⟨row, row.requeued now⟩ rest
    | none => RequeueCall.load rows now rest

/-- What the statements about dead letters count. -/
inductive RelayEvent
  | failed (eventId : ℕ)
  | requeued (eventId : ℕ)
deriving DecidableEq, Repr

/-- The failures of an event since it was put into the queue, by the log of the latest
event first. -/
def failures (eventId : ℕ) : List RelayEvent → ℕ
  | [] => 0
  | .failed id :: log => failures eventId log + (if id = eventId then 1 else 0)
  | .requeued id :: log => if id = eventId then 0 else failures eventId log

structure Outbox where
  now : ℤ := 0
  rows : List OutboxEvent := []
  /-- The stream of each type. -/
  streams : List EventEnvelope := []
  firehose : List ℕ := []
  staged : ℕ := 0
  business : List Business := []
  workers : List RelayCall := []
  requeues : List RequeueCall := []
  log : List RelayEvent := []
deriving DecidableEq, Repr

inductive OutboxAct
  | begin
  | stage (place : ℕ) (eventType : String) (malformed : Option String)
  | commit (place : ℕ)
  | rollback (place : ℕ)
  | claim (worker limit : ℕ) (skipped : List ℕ)
  | claimCommit (place : ℕ)
  | publishRow (place : ℕ) (reply : BusReply)
  | finish (place : ℕ)
  | die (place : ℕ)
  | requeue (eventId : ℕ)
  | retryDeadLetters (limit : ℕ) (eventIds : List ℕ)
  | requeueCommit (place : ℕ)
  | requeueNext (place : ℕ)
  | tick (microseconds : ℕ)
deriving DecidableEq, Repr

namespace Outbox

/-- The rows that a claim selects when those in `skipped` are locked by others. -/
def claimBatch (s : Outbox) (limit : ℕ) (skipped : List ℕ) : List ℕ :=
  (((s.rows.filter fun row => row.eligible s.now && !skipped.contains row.eventId).insertionSort
    OutboxEvent.ClaimedBefore).take limit).map OutboxEvent.eventId

/-- The rows locked by selections that have not committed. -/
def selected (s : Outbox) : List ℕ := s.workers.flatMap RelayCall.selected

/-- The rows that may be locked by others: the selected ones for sure, and those that a
worker has written and flushed. -/
def skippable (s : Outbox) (skipped : List ℕ) : Bool :=
  s.selected.all skipped.contains &&
    skipped.all (s.selected ++ s.workers.flatMap RelayCall.batch).contains

/-- The update of the rows of a batch. -/
def markClaimed (s : Outbox) (worker : ℕ) (claimedAt : ℤ) (batch : List ℕ) : Outbox :=
  { s with
    rows := s.rows.map fun (row : OutboxEvent) =>
      if row.eventId ∈ batch then row.claimedBy worker claimedAt else row }

/-- Rewrite the row of an event. -/
def updateRow (s : Outbox) (eventId : ℕ) (f : OutboxEvent → OutboxEvent) : Outbox :=
  { s with rows := s.rows.map fun row => if row.eventId = eventId then f row else row }

/-- The commit of some written rows. -/
def flushAll (s : Outbox) (written : List Written) : Outbox :=
  written.foldl (fun s write => s.updateRow write.loaded.eventId (OutboxEvent.flush write)) s

def setWorker (s : Outbox) (place : ℕ) (call : RelayCall) : Outbox :=
  { s with workers := s.workers.set place call }

def setRequeue (s : Outbox) (place : ℕ) (call : RequeueCall) : Outbox :=
  { s with requeues := s.requeues.set place call }

def setBusiness (s : Outbox) (place : ℕ) (tx : Business) : Outbox :=
  { s with business := s.business.set place tx }

/-- `EventPublisher.stage` -/
def newRow (s : Outbox) (eventType : String) (malformed : Option String) : OutboxEvent where
  eventId := s.staged
  envelope :=
    match malformed with
    | none => .parsed ⟨s.staged, eventType⟩
    | some error => .malformed error
  availableAt := s.now

/-- What the two `XADD`s leave. -/
def xadd (s : Outbox) (row : OutboxEvent) (reply : BusReply) : Outbox :=
  match row.envelope with
  | .malformed _ => s
  | .parsed envelope =>
    { s with
      streams := if reply.onStream then s.streams ++ [envelope] else s.streams
      firehose := if reply.inFirehose then s.firehose ++ [envelope.eventId] else s.firehose
      log := if reply.error?.isSome then .failed row.eventId :: s.log else s.log }

def next (s : Outbox) : OutboxAct → Option Outbox
  | .begin => some { s with business := s.business ++ [.active []] }
  | .stage place eventType malformed =>
    match s.business[place]? with
    | some (.active staged) =>
      some { s with
        staged := s.staged + 1
        business :=
          s.business.set place (.active (staged ++ [s.newRow eventType malformed])) }
    | _ => none
  | .commit place =>
    match s.business[place]? with
    | some (.active staged) =>
      some { s with
        rows := s.rows ++ staged, business := s.business.set place (.committed staged) }
    | _ => none
  | .rollback place =>
    match s.business[place]? with
    | some (.active staged) => some (s.setBusiness place (.rolledBack staged))
    | _ => none
  | .claim worker limit skipped =>
    if s.skippable skipped then
      some { s with
        workers := s.workers ++ [
          match s.claimBatch limit skipped with
          | [] => .returned
          | batch => .claiming worker s.now batch] }
    else none
  | .claimCommit place =>
    match s.workers[place]? with
    | some (.claiming worker claimedAt batch) =>
      some ((s.markClaimed worker claimedAt batch).setWorker place
        (.publishing claimedAt [] batch))
    | _ => none
  -- the row is loaded when the worker comes to it
  | .publishRow place reply =>
    match s.workers[place]? with
    | some (.publishing claimedAt written (eventId :: todo)) =>
      (s.rows.find? (·.eventId = eventId)).map fun row =>
        (s.xadd row reply).setWorker place
          (.publishing claimedAt (written ++ [⟨row, row.publishRow s.now reply⟩]) todo)
    | _ => none
  -- the updates wait for the rows that a selection has locked
  | .finish place =>
    match s.workers[place]? with
    | some (.publishing _ written []) =>
      if written.all (fun write => !s.selected.contains write.loaded.eventId) then
        some ((s.flushAll written).setWorker place .returned)
      else none
    | _ => none
  -- a crash, or a final commit that fails
  | .die place =>
    match s.workers[place]? with
    | some (.claiming _ _ _) => some (s.setWorker place .died)
    | some (.publishing _ _ _) => some (s.setWorker place .died)
    | _ => none
  | .requeue eventId =>
    some { s with requeues := s.requeues ++ [.load s.rows s.now [eventId]] }
  | .retryDeadLetters limit eventIds =>
    if eventIds.length ≤ limit ∧ eventIds.Nodup ∧ ∀ eventId ∈ eventIds, ∃ row ∈ s.rows,
        row.eventId = eventId ∧ row.status = .deadLetter ∧ row.transportFailure = true then
      some { s with requeues := s.requeues ++ [.load s.rows s.now eventIds] }
    else none
  | .requeueCommit place =>
    match s.requeues[place]? with
    | some (.loaded write rest) =>
      if s.selected.contains write.loaded.eventId then none
      else
        some { (s.updateRow write.loaded.eventId (OutboxEvent.flush write)).setRequeue place
            (.waiting rest) with
          log := .requeued write.loaded.eventId :: s.log }
    | _ => none
  | .requeueNext place =>
    match s.requeues[place]? with
    | some (.waiting rest) => some (s.setRequeue place (.load s.rows s.now rest))
    | _ => none
  | .tick microseconds => some { s with now := s.now + microseconds }

def Step (s : Outbox) (a : OutboxAct) (t : Outbox) : Prop := s.next a = some t

end Outbox

end Afcon360.Notifications
