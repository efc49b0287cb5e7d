import Mathlib.Data.Rat.Defs
import Afcon360.Foundation.UnitOfWork

/-!
# Staging events

`emit_event` builds an envelope and stages it: the ledger row and the outbox row are added to
the caller's session, which is then flushed. Whatever is raised on the way is logged, and the
call answers `None`.

A business row is anything; what the database accepts of business rows is a parameter. The
columns of an event row have lengths, its documents must be encoded by `json.dumps`, and its
id is unique.
-/

namespace Afcon360.Notifications

open Foundation

/-- Values that a caller can pass. `object` is of any other type; it may refuse to be
copied. -/
inductive PyValue
  | none
  | bool (value : Bool)
  | int (value : ℤ)
  /-- `none` is not a number, or infinite. -/
  | float (value : Option ℚ)
  | str (value : String)
  | list (items : List PyValue)
  | tuple (items : List PyValue)
  | dict (entries : List (PyValue × PyValue))
  | object (copies : Bool)

namespace PyValue

abbrev Entries := List (PyValue × PyValue)

/-- What `json.dumps` takes for a key. -/
def isKey : PyValue → Bool
  | list _ | tuple _ | dict _ | object _ => false
  | _ => true

def isName (name : String) : PyValue → Bool
  | str value => value = name
  | _ => false

def isNone : PyValue → Bool
  | none => true
  | _ => false

mutual

/-- A JSON column takes the value: `json.dumps` encodes it, and the text is JSON. -/
def encodes : PyValue → Bool
  | object _ => false
  | float value => value.isSome
  | list items | tuple items => encodesAll items
  | dict entries => encodesEntries entries
  | none | bool _ | int _ | str _ => true

def encodesAll : List PyValue → Bool
  | [] => true
  | item :: items => encodes item && encodesAll items

def encodesEntries : List (PyValue × PyValue) → Bool
  | [] => true
  | (key, value) :: entries => isKey key && encodes value && encodesEntries entries

end

mutual

/-- `copy.deepcopy` -/
def copies : PyValue → Bool
  | object copies => copies
  | list items | tuple items => copiesAll items
  | dict entries => copiesEntries entries
  | none | bool _ | int _ | float _ | str _ => true

def copiesAll : List PyValue → Bool
  | [] => true
  | item :: items => copies item && copiesAll items

def copiesEntries : List (PyValue × PyValue) → Bool
  | [] => true
  | (key, value) :: entries => copies key && copies value && copiesEntries entries

end

end PyValue

/-- An argument that goes through `dict(… or {})`. -/
inductive DictArg
  | absent
  | dict (entries : PyValue.Entries)
  /-- A value that `dict` refuses. -/
  | refused

/-- An argument that goes through `str`. -/
inductive TextArg
  | absent
  | text (value : String)
  /-- Its `__str__` raises. -/
  | raising
deriving DecidableEq, Repr

/-- Why no envelope is built, or none is staged. -/
inductive EmitError
  | unknownEventType
  | missing (fields : List String)
  | validator
  | conversion
  | flush
deriving DecidableEq, Repr

structure EventDefinition where
  version : ℤ := 1
  aggregateType : Option String := none
  requiredFields : List String := []
  /-- The validator raises. -/
  rejects : PyValue.Entries → Bool := fun _ => false

structure EventRegistry where
  strict : Bool := false
  get : String → Option EventDefinition := fun _ => none

/-- What the request and the environment provide. -/
structure Ambient where
  newEventId : String
  correlationId : String
  causationId : Option String := none
  /-- The id of the authenticated user. -/
  currentUser : Option String := none
  /-- Host, client address and so on. -/
  diagnostics : List (String × String) := []

/-- The arguments of `emit_event`; those annotated as texts are texts. -/
structure EmitRequest where
  eventType : String
  payload : DictArg := .absent
  aggregateType : Option String := none
  aggregateId : TextArg := .absent
  actorType : Option String := none
  actorId : TextArg := .absent
  correlationId : Option String := none
  causationId : Option String := none
  eventVersion : ℤ := 1
  metadata : DictArg := .absent

structure Envelope where
  eventId : String
  eventType : String
  eventVersion : ℤ
  payload : PyValue.Entries
  aggregateType : Option String
  aggregateId : Option String
  actorType : Option String
  actorId : Option String
  correlationId : Option String
  causationId : Option String
  metadata : PyValue.Entries

/-- `domain_events` -/
structure DomainEvent where
  eventId : String
  eventType : String
  eventVersion : ℤ
  aggregateType : Option String
  aggregateId : Option String
  actorType : Option String
  actorId : Option String
  correlationId : Option String
  causationId : Option String
  payload : PyValue.Entries
  eventMetadata : PyValue.Entries

/-- `outbox_events`; of the stored envelope only its documents can be refused. -/
structure StagedEvent where
  eventId : String
  eventType : String
  eventVersion : ℤ
  envelope : Envelope

/-! ## The envelope -/

/-- `dict(argument or {})` -/
def DictArg.toDict : DictArg → Except EmitError PyValue.Entries
  | absent => .ok []
  | dict entries => .ok entries
  | refused => .error .conversion

/-- `str(argument) if argument is not None else None` -/
def TextArg.toText : TextArg → Except EmitError (Option String)
  | absent => .ok none
  | text value => .ok (some value)
  | raising => .error .conversion

/-- `left or right`, where an empty text does not count. -/
def orText (left right : Option String) : Option String :=
  if left.any (· ≠ "") then left else right

/-- `EventDefinition.validate` -/
def EventDefinition.validate (definition : EventDefinition) (payload : PyValue.Entries) :
    Except EmitError Unit :=
  let missing := definition.requiredFields.filter fun name => !payload.any (·.1.isName name)
  if missing ≠ [] then .error (.missing missing)
  else if definition.rejects payload then .error .validator
  else .ok ()

/-- `EventRegistry.validate`: the version to stamp on the event. -/
def EventRegistry.validate (registry : EventRegistry) (eventType : String)
    (payload : PyValue.Entries) (version : ℤ) : Except EmitError ℤ :=
  match registry.get eventType with
  | none => if registry.strict then .error .unknownEventType else .ok version
  | some definition => do
      definition.validate payload
      .ok (if version ≠ 0 ∧ version ≠ 1 then version else definition.version)

/-- `_resolve_actor` -/
def resolveActor (ambient : Ambient) (actorType : Option String) (actorId : TextArg) :
    Except EmitError (Option String × Option String) :=
  if actorType.any (· ≠ "") ∨ actorId ≠ .absent then do
    let actorId ← actorId.toText
    .ok (actorType, actorId)
  else
    match ambient.currentUser with
    | some userId => .ok (some "user", some userId)
    | none => .ok (some "system", none)

/-- `_build_metadata`: the caller's fields replace those of the environment, and fields without
a value are left out. -/
def buildMetadata (ambient : Ambient) (extra : PyValue.Entries) :
    Except EmitError PyValue.Entries :=
  if PyValue.copiesEntries extra then
    let own := ambient.diagnostics.filter fun field => !extra.any (·.1.isName field.1)
    .ok ((own.map (fun field => (PyValue.str field.1, PyValue.str field.2)) ++ extra).filter
      (!·.2.isNone))
  else .error .conversion

/-- `EventPublisher.build_envelope` -/
def buildEnvelope (registry : EventRegistry) (ambient : Ambient) (request : EmitRequest) :
    Except EmitError Envelope := do
  let payload ← request.payload.toDict
  let version ← registry.validate request.eventType payload request.eventVersion
  let (actorType, actorId) ← resolveActor ambient request.actorType request.actorId
  let aggregateId ← request.aggregateId.toText
  let extra ← request.metadata.toDict
  let metadata ← buildMetadata ambient extra
  .ok {
    eventId := ambient.newEventId
    eventType := request.eventType
    eventVersion := version
    payload := payload
    aggregateType := orText request.aggregateType
      ((registry.get request.eventType).bind EventDefinition.aggregateType)
    aggregateId := aggregateId
    actorType := actorType
    actorId := actorId
    correlationId := orText request.correlationId (some ambient.correlationId)
    causationId := orText request.causationId ambient.causationId
    metadata := metadata }

/-! ## The tables -/

/-- A column of so many characters; the driver refuses a NUL. -/
def fits (length : ℕ) (text : String) : Bool :=
  text.length ≤ length && !text.toList.contains (Char.ofNat 0)

def fitsInteger (value : ℤ) : Bool := -2147483648 ≤ value && value ≤ 2147483647

/-- The columns of the ledger row take their values. -/
def DomainEvent.fits (event : DomainEvent) : Bool :=
  Notifications.fits 64 event.eventId && Notifications.fits 128 event.eventType &&
    fitsInteger event.eventVersion &&
    event.aggregateType.all (Notifications.fits 64) &&
    event.aggregateId.all (Notifications.fits 128) &&
    event.actorType.all (Notifications.fits 32) && event.actorId.all (Notifications.fits 128) &&
    event.correlationId.all (Notifications.fits 64) &&
    event.causationId.all (Notifications.fits 64) &&
    PyValue.encodesEntries event.payload && PyValue.encodesEntries event.eventMetadata

def StagedEvent.fits (event : StagedEvent) : Bool :=
  Notifications.fits 64 event.eventId && Notifications.fits 128 event.eventType &&
    fitsInteger event.eventVersion &&
    PyValue.encodesEntries event.envelope.payload && PyValue.encodesEntries event.envelope.metadata

variable {ω : Type}

structure EventTables (ω : Type) where
  business : List ω := []
  ledger : List DomainEvent := []
  outbox : List StagedEvent := []

/-- A row that waits in the caller's session. -/
inductive PendingRow (ω : Type)
  | business (row : ω)
  | ledger (row : DomainEvent)
  | outbox (row : StagedEvent)

namespace PendingRow

def business? : PendingRow ω → Option ω
  | business row => some row
  | _ => none

def ledger? : PendingRow ω → Option DomainEvent
  | ledger row => some row
  | _ => none

def outbox? : PendingRow ω → Option StagedEvent
  | outbox row => some row
  | _ => none

end PendingRow

/-- The new ids are none of the old ones, and differ. -/
def freshIds (old new : List String) : Bool := new.Nodup ∧ ∀ eventId ∈ new, eventId ∉ old

/-- What the database does with the rows of a flush. `accepts` is what it says to the business
rows, given those that are there. -/
def storeRows (accepts : List ω → List ω → Bool) (tables : EventTables ω)
    (rows : List (PendingRow ω)) : Option (EventTables ω) :=
  let business := rows.filterMap PendingRow.business?
  let ledger := rows.filterMap PendingRow.ledger?
  let outbox := rows.filterMap PendingRow.outbox?
  if accepts tables.business business && ledger.all DomainEvent.fits &&
      outbox.all StagedEvent.fits &&
      freshIds (tables.ledger.map DomainEvent.eventId) (ledger.map DomainEvent.eventId) &&
      freshIds (tables.outbox.map StagedEvent.eventId) (outbox.map StagedEvent.eventId) then
    some {
      business := tables.business ++ business
      ledger := tables.ledger ++ ledger
      outbox := tables.outbox ++ outbox }
  else none

/-! ## Staging -/

def ledgerRow (envelope : Envelope) : DomainEvent where
  eventId := envelope.eventId
  eventType := envelope.eventType
  eventVersion := envelope.eventVersion
  aggregateType := envelope.aggregateType
  aggregateId := envelope.aggregateId
  actorType := envelope.actorType
  actorId := envelope.actorId
  correlationId := envelope.correlationId
  causationId := envelope.causationId
  payload := envelope.payload
  eventMetadata := envelope.metadata

def outboxRow (envelope : Envelope) : StagedEvent where
  eventId := envelope.eventId
  eventType := envelope.eventType
  eventVersion := envelope.eventVersion
  envelope := envelope

abbrev CallerSession (ω : Type) := UnitOfWork (EventTables ω) (PendingRow ω)

section

variable (accepts : List ω → List ω → Bool) (registry : EventRegistry)

/-- `session.add` of the two rows of an event. -/
def addEvent (session : CallerSession ω) (envelope : Envelope) : CallerSession ω :=
  session.add [.ledger (ledgerRow envelope), .outbox (outboxRow envelope)]

/-- `EventPublisher.stage` -/
def stage (session : CallerSession ω) (envelope : Envelope) :
    Except EmitError DomainEvent × CallerSession ω :=
  match (addEvent session envelope).flush (storeRows accepts) with
  | (true, left) => (.ok (ledgerRow envelope), left)
  | (false, left) => (.error .flush, left)

/-- The body of the `try` in `emit_event`. -/
def emitBody (ambient : Ambient) (request : EmitRequest) (session : CallerSession ω) :
    Except EmitError Envelope × CallerSession ω :=
  match buildEnvelope registry ambient request with
  | .error error => (.error error, session)
  | .ok envelope =>
    match stage accepts session envelope with
    | (.error error, left) => (.error error, left)
    | (.ok _, left) => (.ok envelope, left)

/-- `emit_event` -/
def emitEvent (ambient : Ambient) (request : EmitRequest) (session : CallerSession ω) :
    Except EmitError (Option Envelope) × CallerSession ω :=
  match emitBody accepts registry ambient request session with
  | (.ok envelope, left) => (.ok (some envelope), left)
  | (.error _, left) => (.ok none, left)

/-- What a caller does in its transaction. -/
inductive CallerOp (ω : Type)
  | write (rows : List ω)
  | flush
  | emit (ambient : Ambient) (request : EmitRequest)

/-- A step of the caller; nothing when an exception leaves it. -/
def callerStep (session : CallerSession ω) : CallerOp ω → Option (CallerSession ω)
  | .write rows => some (session.add (rows.map .business))
  | .flush =>
    match session.flush (storeRows accepts) with
    | (true, left) => some left
    | (false, _) => none
  | .emit ambient request =>
    match emitEvent accepts registry ambient request session with
    | (.ok _, left) => some left
    | (.error _, _) => none

def callerSteps (session : CallerSession ω) : List (CallerOp ω) → Option (CallerSession ω)
  | [] => some session
  | op :: ops => (callerStep accepts registry session op).bind (callerSteps · ops)

/-- The rest of the caller's transaction, with its commit: the tables it leaves, or nothing when
the transaction fails. -/
def finishTransaction (session : CallerSession ω) (ops : List (CallerOp ω)) :
    Option (EventTables ω) :=
  (callerSteps accepts registry session ops).bind (UnitOfWork.commit (storeRows accepts))

end

end Afcon360.Notifications
