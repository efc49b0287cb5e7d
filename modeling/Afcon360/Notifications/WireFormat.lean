import Afcon360.Foundation.IsoText
import Afcon360.Notifications.Publisher

/-!
# The wire format of events

An envelope is written as a JSON document: in its outbox row, and as the text of a stream
message. Its ledger row has the same values in columns. There are three decoders, and what they
put into a field is any value.

`json` writes a tuple as a list and the key of a dictionary as its text; of equal keys the last
one is read. A value comes back from a JSON column, or from its text, as `reload` says.
-/

namespace Afcon360.Notifications

open Foundation

namespace PyValue

def truthy : PyValue → Bool
  | none => false
  | bool value => value
  | int value => value ≠ 0
  | float value => value ≠ some 0
  | str value => value ≠ ""
  | list items | tuple items => !items.isEmpty
  | dict entries => !entries.isEmpty
  | object _ => true

def orElse (left right : PyValue) : PyValue := if left.truthy then left else right

def ofText : Option String → PyValue
  | .none => none
  | some value => str value

namespace Entries

def get? (entries : Entries) (name : String) : Option PyValue :=
  (entries.find? (·.1.isName name)).map (·.2)

def hasName (entries : Entries) (name : String) : Bool := entries.any (·.1.isName name)

/-- Write an entry in its place, or as the last one. -/
def put : Entries → String → PyValue → Entries
  | [], name, value => [(.str name, value)]
  | (key, old) :: rest, name, value =>
    if key.isName name then (key, value) :: rest else (key, old) :: put rest name value

/-- The dictionary of pairs: of equal names the last one counts. -/
def ofPairs (pairs : List (String × PyValue)) : Entries :=
  pairs.foldl (fun entries pair => put entries pair.1 pair.2) []

end Entries

/-- The text of a key. -/
def keyText (floatText : Option ℚ → String) : PyValue → String
  | str value => value
  | int value => toString value
  | float value => floatText value
  | bool true => "true"
  | bool false => "false"
  | none => "null"
  | list _ | tuple _ | dict _ | object _ => ""

mutual

/-- The value that `json.loads` makes of the text that `json.dumps` wrote. -/
def reload (floatText : Option ℚ → String) : PyValue → PyValue
  | list items => list (reloadAll floatText items)
  | tuple items => list (reloadAll floatText items)
  | dict entries => dict (Entries.ofPairs (reloadPairs floatText entries))
  | value => value

def reloadAll (floatText : Option ℚ → String) : List PyValue → List PyValue
  | [] => []
  | item :: items => reload floatText item :: reloadAll floatText items

def reloadPairs (floatText : Option ℚ → String) :
    List (PyValue × PyValue) → List (String × PyValue)
  | [] => []
  | (key, value) :: entries =>
    (keyText floatText key, reload floatText value) :: reloadPairs floatText entries

end

/-- The key is a text, and no key of the rest. -/
def isNewName (key : PyValue) (rest : Entries) : Bool :=
  match key with
  | str name => !rest.hasName name
  | _ => false

mutual

/-- A JSON value: no tuple in it, and all keys are texts, each one once. -/
def plain : PyValue → Bool
  | tuple _ | object _ => false
  | list items => plainAll items
  | dict entries => plainEntries entries
  | none | bool _ | int _ | float _ | str _ => true

def plainAll : List PyValue → Bool
  | [] => true
  | item :: items => plain item && plainAll items

def plainEntries : List (PyValue × PyValue) → Bool
  | [] => true
  | (key, value) :: entries => isNewName key entries && plain value && plainEntries entries

end

/-! ## Reloading -/

variable {floatText : Option ℚ → String} {entries rest : Entries} {value : PyValue}
  {key : PyValue} {name other : String}

@[simp] theorem isName_eq_true : key.isName name = true ↔ key = str name := by
  cases key <;> simp [isName]

namespace Entries

theorem put_of_new (h : entries.hasName name = false) :
    entries.put name value = entries ++ [(.str name, value)] := by
  induction entries with
  | nil => rfl
  | cons entry rest ih =>
    obtain ⟨key, old⟩ := entry
    simp only [hasName, List.any_cons, Bool.or_eq_false_iff] at h
    rw [put, if_neg (by simp [h.1]), ih h.2, List.cons_append]

@[simp] theorem hasName_append (entries rest : Entries) (name : String) :
    hasName (entries ++ rest) name = (entries.hasName name || rest.hasName name) := by
  simp [hasName]

@[simp] theorem hasName_put :
    (entries.put name value).hasName other = (entries.hasName other || decide (name = other)) := by
  induction entries with
  | nil => simp [put, hasName, isName]
  | cons entry rest ih =>
    obtain ⟨key, old⟩ := entry
    rw [put]
    split
    · rename_i hkey
      rw [isName_eq_true] at hkey
      by_cases hother : name = other <;> simp [hasName, hkey, isName, hother]
    · simp only [hasName, List.any_cons] at ih ⊢
      rw [ih, Bool.or_assoc]

theorem plainEntries_put (h : plainEntries entries = true) (hvalue : value.plain = true) :
    plainEntries (entries.put name value) = true := by
  induction entries with
  | nil => simp [put, plainEntries, isNewName, hasName, hvalue]
  | cons entry rest ih =>
    obtain ⟨key, old⟩ := entry
    simp only [plainEntries, Bool.and_eq_true] at h
    obtain ⟨⟨hkey, hold⟩, hrest⟩ := h
    rw [put]
    split
    · simp [plainEntries, hkey, hvalue, hrest]
    · rename_i hne
      rw [isName_eq_true] at hne
      cases key with
      | str text =>
        have htext : ¬name = text := fun heq => hne (heq ▸ rfl)
        simp only [isNewName, Bool.not_eq_true'] at hkey
        simp [plainEntries, isNewName, hkey, htext, hold, ih hrest]
      | _ => cases hkey

theorem plainEntries_foldl (pairs : List (String × PyValue)) (h : plainEntries entries = true)
    (hpairs : ∀ pair ∈ pairs, pair.2.plain = true) :
    plainEntries (pairs.foldl (fun entries pair => put entries pair.1 pair.2) entries) = true := by
  induction pairs generalizing entries with
  | nil => exact h
  | cons pair pairs ih =>
    exact ih (plainEntries_put h (hpairs pair List.mem_cons_self))
      fun later hlater => hpairs later (List.mem_cons_of_mem _ hlater)

end Entries

mutual

theorem plain_reload (value : PyValue) (h : value.encodes = true) :
    (value.reload floatText).plain = true := by
  cases value with
  | object copies => cases h
  | list items | tuple items =>
    simp only [encodes] at h
    simpa [reload, plain] using plainAll_reloadAll items h
  | dict entries =>
    simp only [encodes] at h
    rw [reload, plain]
    exact Entries.plainEntries_foldl _ rfl (plain_of_reloadPairs entries h)
  | none | bool value | int value | float value | str value => simp [reload, plain]

theorem plainAll_reloadAll (items : List PyValue) (h : encodesAll items = true) :
    plainAll (reloadAll floatText items) = true := by
  cases items with
  | nil => rfl
  | cons item items =>
    simp only [encodesAll, Bool.and_eq_true] at h
    simp [reloadAll, plainAll, plain_reload item h.1, plainAll_reloadAll items h.2]

theorem plain_of_reloadPairs (entries : Entries) (h : encodesEntries entries = true) :
    ∀ pair ∈ reloadPairs floatText entries, pair.2.plain = true := by
  cases entries with
  | nil => simp [reloadPairs]
  | cons entry entries =>
    obtain ⟨key, value⟩ := entry
    simp only [encodesEntries, Bool.and_eq_true] at h
    simp only [reloadPairs, List.forall_mem_cons]
    exact ⟨plain_reload value h.1.2, plain_of_reloadPairs entries h.2⟩

end

mutual

theorem reload_plain (value : PyValue) (h : value.plain = true) :
    value.reload floatText = value := by
  cases value with
  | object copies | tuple items => cases h
  | list items =>
    simp only [plain] at h
    rw [reload, reloadAll_plain items h]
  | dict entries =>
    simp only [plain] at h
    rw [reload, Entries.ofPairs, foldl_reloadPairs entries [] h (by simp [Entries.hasName]),
      List.nil_append]
  | none | bool value | int value | float value | str value => simp [reload]

theorem reloadAll_plain (items : List PyValue) (h : plainAll items = true) :
    reloadAll floatText items = items := by
  cases items with
  | nil => rfl
  | cons item items =>
    simp only [plainAll, Bool.and_eq_true] at h
    rw [reloadAll, reload_plain item h.1, reloadAll_plain items h.2]

/-- The entries follow those that were read before them. -/
theorem foldl_reloadPairs (entries before : Entries) (h : plainEntries entries = true)
    (hnew : ∀ name, entries.hasName name = true → before.hasName name = false) :
    (reloadPairs floatText entries).foldl (fun entries pair => Entries.put entries pair.1 pair.2)
      before = before ++ entries := by
  cases entries with
  | nil => simp [reloadPairs]
  | cons entry entries =>
    obtain ⟨key, value⟩ := entry
    simp only [plainEntries, Bool.and_eq_true] at h
    obtain ⟨⟨hkey, hvalue⟩, hrest⟩ := h
    cases key with
    | str name =>
      have hbefore : before.hasName name = false := hnew name (by simp [Entries.hasName, isName])
      rw [reloadPairs, List.foldl_cons, keyText, reload_plain value hvalue,
        Entries.put_of_new hbefore, foldl_reloadPairs entries _ hrest, List.append_assoc]
      · rfl
      · intro other hother
        have hne : other ≠ name := by
          rintro rfl
          simp [isNewName, hother] at hkey
        have hlast : before.hasName other = false :=
          hnew other (by simpa [Entries.hasName] using Or.inr hother)
        rw [Entries.hasName_append, hlast]
        simp [Entries.hasName, isName, Ne.symm hne]
    | _ => cases hkey

end

end PyValue

/-! ## Envelopes -/

namespace Wire

open PyValue

/-- `new_event_id`, of a random number in hexadecimal. -/
def newEventId (hex : String) : String := "evt_" ++ hex

/-- `datetime.now(timezone.utc)` -/
def utcnow (wall : Iso.DateTime) : Iso.DateTime :=
  ⟨{ wall.1 with offset := some 0 }, by
    obtain ⟨year, month, day, time, -⟩ := wall.2
    exact ⟨year, month, day, time, by simp⟩⟩

/-- `dt if dt.tzinfo else dt.replace(tzinfo=timezone.utc)` -/
def aware (d : Iso.DateTime) : Iso.DateTime := if d.1.offset.isSome then d else utcnow d

/-- `_iso` -/
def iso (d : Iso.DateTime) : String := Iso.isoformat (aware d)

/-- `value.replace('Z', '+00:00')` -/
def replaceZulu (text : String) : String :=
  String.ofList (text.toList.flatMap fun c => if c = 'Z' then "+00:00".toList else [c])

/-- `_parse_dt` of a decoded value. -/
def parseDt (now : Iso.DateTime) : PyValue → Iso.DateTime
  | .str text => ((Iso.fromisoformat (replaceZulu text)).map aware).getD now
  | _ => now

/-- `EventEnvelope` -/
@[ext] structure EventEnvelope where
  eventId : PyValue
  eventType : PyValue
  eventVersion : ℤ
  aggregateType : PyValue
  aggregateId : PyValue
  actorType : PyValue
  actorId : PyValue
  correlationId : PyValue
  causationId : PyValue
  occurredAt : Iso.DateTime
  payload : PyValue
  metadata : PyValue

end Wire

/-- An envelope that was built, with its time. -/
def Envelope.stamped (envelope : Envelope) (occurredAt : Iso.DateTime) : Wire.EventEnvelope where
  eventId := .str envelope.eventId
  eventType := .str envelope.eventType
  eventVersion := envelope.eventVersion
  aggregateType := .ofText envelope.aggregateType
  aggregateId := .ofText envelope.aggregateId
  actorType := .ofText envelope.actorType
  actorId := .ofText envelope.actorId
  correlationId := .ofText envelope.correlationId
  causationId := .ofText envelope.causationId
  occurredAt := occurredAt
  payload := .dict envelope.payload
  metadata := .dict envelope.metadata

namespace Wire

open PyValue

/-- The texts of the interpreter: `json.dumps`, `json.loads`, the texts of floats, and `int` of a
text. -/
structure Interpreter where
  dumps : PyValue → String
  loads : String → Option PyValue
  floatText : Option ℚ → String
  intText : String → Option ℤ

/-- The text of the value is read as `json` documents it. -/
def Interpreter.Reads (interpreter : Interpreter) (value : PyValue) : Prop :=
  interpreter.loads (interpreter.dumps value) = some (value.reload interpreter.floatText)

/-- `int(value)`; `none` is an exception. -/
def Interpreter.toInt (interpreter : Interpreter) : PyValue → Option ℤ
  | .int value => some value
  | .bool value => some (if value then 1 else 0)
  | .float (some value) => some (if 0 ≤ value then value.floor else value.ceil)
  | .str text => interpreter.intText text
  | _ => none

namespace EventEnvelope

def toDict (e : EventEnvelope) : Entries :=
  [(.str "event_id", e.eventId),
   (.str "event_type", e.eventType),
   (.str "event_version", .int e.eventVersion),
   (.str "aggregate_type", e.aggregateType),
   (.str "aggregate_id", e.aggregateId),
   (.str "actor_type", e.actorType),
   (.str "actor_id", e.actorId),
   (.str "correlation_id", e.correlationId),
   (.str "causation_id", e.causationId),
   (.str "occurred_at", .str (iso e.occurredAt)),
   (.str "payload", e.payload.orElse (.dict [])),
   (.str "metadata", e.metadata.orElse (.dict []))]

variable (interpreter : Interpreter)

def toJson (e : EventEnvelope) : String := interpreter.dumps (.dict e.toDict)

/-- `from_dict`; `fresh` is the next event id. An exception is `none`. -/
def fromDict (fresh : String) (now : Iso.DateTime) (data : Entries) : Option EventEnvelope := do
  let eventType ← data.get? "event_type"
  let eventVersion ← interpreter.toInt ((data.get? "event_version").getD (.int 1))
  some {
    eventId := ((data.get? "event_id").getD .none).orElse (.str fresh)
    eventType := eventType
    eventVersion := eventVersion
    aggregateType := (data.get? "aggregate_type").getD .none
    aggregateId := (data.get? "aggregate_id").getD .none
    actorType := (data.get? "actor_type").getD .none
    actorId := (data.get? "actor_id").getD .none
    correlationId := (data.get? "correlation_id").getD .none
    causationId := (data.get? "causation_id").getD .none
    occurredAt := parseDt now ((data.get? "occurred_at").getD .none)
    payload := ((data.get? "payload").getD .none).orElse (.dict [])
    metadata := ((data.get? "metadata").getD .none).orElse (.dict []) }

def fromJson (fresh : String) (now : Iso.DateTime) (raw : String) : Option EventEnvelope :=
  match interpreter.loads raw with
  | some (.dict data) => fromDict interpreter fresh now data
  | _ => none

/-- `from_model`; the row has a time. -/
def fromModel (event : DomainEvent) (occurredAt : Iso.DateTime) : EventEnvelope where
  eventId := .str event.eventId
  eventType := .str event.eventType
  eventVersion := if event.eventVersion = 0 then 1 else event.eventVersion
  aggregateType := .ofText event.aggregateType
  aggregateId := .ofText event.aggregateId
  actorType := .ofText event.actorType
  actorId := .ofText event.actorId
  correlationId := .ofText event.correlationId
  causationId := .ofText event.causationId
  occurredAt := occurredAt
  payload := (PyValue.dict event.payload).orElse (.dict [])
  metadata := (PyValue.dict event.eventMetadata).orElse (.dict [])

end EventEnvelope

/-! ## What the database returns -/

variable (interpreter : Interpreter)

/-- The dictionary that a JSON column returns. -/
def returned (entries : Entries) : Entries :=
  .ofPairs (reloadPairs interpreter.floatText entries)

/-- The ledger row as it is read. -/
def readRow (event : DomainEvent) : DomainEvent :=
  { event with
    payload := returned interpreter event.payload
    eventMetadata := returned interpreter event.eventMetadata }

/-- The decoders give the envelope back, and it is written as before. `row` is the ledger row. -/
structure RoundTrips (e : EventEnvelope) (row : DomainEvent) : Prop where
  outbox : ∀ fresh now,
    EventEnvelope.fromDict interpreter fresh now (returned interpreter e.toDict) = some e
  stream : ∀ relayed fresh now fresh' now',
    EventEnvelope.fromDict interpreter fresh now (returned interpreter e.toDict) = some relayed →
    EventEnvelope.fromJson interpreter fresh' now' (relayed.toJson interpreter) = some e
  ledger : EventEnvelope.fromModel (readRow interpreter row) e.occurredAt = e
  text : ∀ (decoded : EventEnvelope) fresh now,
    EventEnvelope.fromDict interpreter fresh now (returned interpreter e.toDict) = some decoded ∨
      EventEnvelope.fromJson interpreter fresh now (e.toJson interpreter) = some decoded ∨
      EventEnvelope.fromModel (readRow interpreter row) e.occurredAt = decoded →
    decoded.toJson interpreter = e.toJson interpreter

/-! ## Times -/

@[simp] theorem aware_utcnow (wall : Iso.DateTime) : aware (utcnow wall) = utcnow wall := rfl

theorem aware_aware (d : Iso.DateTime) : aware (aware d) = aware d := by
  unfold aware
  split
  · rfl
  · rfl

theorem replaceZulu_of_notMem {text : String} (h : 'Z' ∉ text.toList) :
    replaceZulu text = text := by
  have hchars : ∀ chars : List Char, 'Z' ∉ chars →
      (chars.flatMap fun c => if c = 'Z' then "+00:00".toList else [c]) = chars := by
    intro chars h
    induction chars with
    | nil => rfl
    | cons c rest ih =>
      rw [List.mem_cons, not_or] at h
      rw [List.flatMap_cons, if_neg (Ne.symm h.1), ih h.2, List.singleton_append]
  rw [replaceZulu, hchars _ h, String.ofList_toList]

theorem replaceZulu_iso (d : Iso.DateTime) : replaceZulu (iso d) = iso d := by
  refine replaceZulu_of_notMem ?_
  rw [iso, Iso.isoformat, String.toList_ofList]
  exact Iso.notMem_writeStamp (by decide) (by decide)

@[simp] theorem parseDt_iso (now d : Iso.DateTime) : parseDt now (.str (iso d)) = aware d := by
  rw [parseDt, replaceZulu_iso, iso, Iso.fromisoformat_isoformat, Option.map_some,
    Option.getD_some, aware_aware]

/-! ## Round trips -/

@[simp] theorem orElse_dict (entries : Entries) :
    (PyValue.dict entries).orElse (.dict []) = .dict entries := by
  cases entries <;> simp [PyValue.orElse, PyValue.truthy]

theorem plain_ofText (text : Option String) : (PyValue.ofText text).plain = true := by
  cases text <;> rfl

variable {interpreter} {envelope : Envelope} {wall now : Iso.DateTime} {fresh : String}

/-- The document of an envelope is a JSON value if its payload and its metadata are. -/
theorem plain_toDict (hpayload : plainEntries envelope.payload = true)
    (hmetadata : plainEntries envelope.metadata = true) :
    plainEntries (envelope.stamped (utcnow wall)).toDict = true := by
  simp [EventEnvelope.toDict, Envelope.stamped, plainEntries, isNewName, Entries.hasName, isName,
    plain, plain_ofText, hpayload, hmetadata]

theorem fromDict_toDict (hid : envelope.eventId ≠ "") :
    EventEnvelope.fromDict interpreter fresh now (envelope.stamped (utcnow wall)).toDict =
      some (envelope.stamped (utcnow wall)) := by
  have heventId : (PyValue.str envelope.eventId).orElse (.str fresh) = .str envelope.eventId := by
    simp [PyValue.orElse, PyValue.truthy, hid]
  simp [EventEnvelope.fromDict, EventEnvelope.toDict, Entries.get?, isName, Envelope.stamped,
    Interpreter.toInt, heventId]

theorem returned_plain {entries : Entries} (h : plainEntries entries = true) :
    returned interpreter entries = entries := by
  have hreload : (PyValue.dict entries).reload interpreter.floatText = .dict entries :=
    reload_plain _ (by rwa [plain])
  rw [reload] at hreload
  exact PyValue.dict.inj hreload

theorem plain_of_returned {entries : Entries} (h : encodesEntries entries = true)
    (hsame : returned interpreter entries = entries) : plainEntries entries = true := by
  have hplain : ((PyValue.dict entries).reload interpreter.floatText).plain = true :=
    plain_reload (.dict entries) (by rwa [encodes])
  rwa [reload, plain, ← returned, hsame] at hplain

theorem fromJson_toJson (hid : envelope.eventId ≠ "")
    (hreads : interpreter.Reads (.dict (envelope.stamped (utcnow wall)).toDict))
    (hpayload : plainEntries envelope.payload = true)
    (hmetadata : plainEntries envelope.metadata = true) :
    EventEnvelope.fromJson interpreter fresh now
        ((envelope.stamped (utcnow wall)).toJson interpreter) =
      some (envelope.stamped (utcnow wall)) := by
  have hplain : plainEntries (envelope.stamped (utcnow wall)).toDict = true :=
    plain_toDict hpayload hmetadata
  rw [EventEnvelope.fromJson, EventEnvelope.toJson, hreads, reload_plain _ (by rwa [plain])]
  exact fromDict_toDict hid

/-- The ledger keeps an envelope of a version that is not zero, with JSON values. -/
theorem fromModel_ledgerRow (hpayload : encodesEntries envelope.payload = true)
    (hmetadata : encodesEntries envelope.metadata = true) :
    EventEnvelope.fromModel (readRow interpreter (ledgerRow envelope)) (utcnow wall) =
        envelope.stamped (utcnow wall) ↔
      envelope.eventVersion ≠ 0 ∧ plainEntries envelope.payload = true ∧
        plainEntries envelope.metadata = true := by
  simp only [EventEnvelope.fromModel, Envelope.stamped, readRow, ledgerRow, orElse_dict,
    EventEnvelope.mk.injEq, PyValue.dict.injEq, true_and]
  constructor
  · rintro ⟨hversion, hsame, hsame'⟩
    refine ⟨?_, plain_of_returned hpayload hsame, plain_of_returned hmetadata hsame'⟩
    intro hzero
    simp [hzero] at hversion
  · rintro ⟨hversion, hplain, hplain'⟩
    exact ⟨if_neg hversion, returned_plain hplain, returned_plain hplain'⟩

/-! ## Staged events -/

section

variable {ω : Type} {accepts : List ω → List ω → Bool} {session : CallerSession ω}
  {registry : EventRegistry} {ambient : Ambient} {request : EmitRequest} {row : DomainEvent}

theorem buildEnvelope_eventId (h : buildEnvelope registry ambient request = .ok envelope) :
    envelope.eventId = ambient.newEventId := by
  simp only [buildEnvelope, bind, Except.bind] at h
  repeat (split at h; · cases h)
  cases h
  rfl

theorem stage_eq_ok (h : (stage accepts session envelope).1 = .ok row) :
    row = ledgerRow envelope ∧ encodesEntries envelope.payload = true ∧
      encodesEntries envelope.metadata = true := by
  by_cases hflushes : (addEvent session envelope).Flushes (storeRows accepts)
  · obtain ⟨working, hstore, hflush⟩ := UnitOfWork.flush_of_flushes hflushes
    simp only [stage, hflush, Except.ok.injEq] at h
    refine ⟨h.symm, ?_⟩
    simp only [storeRows] at hstore
    split at hstore
    · rename_i hfits
      simp only [Bool.and_eq_true] at hfits
      have hledger := List.all_eq_true.mp hfits.1.1.1.2 (ledgerRow envelope)
        (by simp [addEvent, UnitOfWork.add, PendingRow.ledger?])
      simp only [DomainEvent.fits, Bool.and_eq_true] at hledger
      exact ⟨hledger.1.2, hledger.2⟩
    · cases hstore
  · obtain ⟨left, hflush, -⟩ := UnitOfWork.flush_of_not_flushes hflushes
    simp [stage, hflush] at h

/-- A staged event comes back from its outbox row, from its stream message and from its ledger
row as it was, and is written as before, exactly if its version is not zero and its payload and
its metadata are JSON values. -/
theorem staged_round_trip (interpreter : Interpreter) (registry : EventRegistry)
    (ambient : Ambient) (request : EmitRequest) (envelope : Envelope)
    (accepts : List ω → List ω → Bool) (session : CallerSession ω) (row : DomainEvent)
    (hex : String) (wall : Iso.DateTime) (hid : ambient.newEventId = newEventId hex)
    (hreads : interpreter.Reads (.dict (envelope.stamped (utcnow wall)).toDict))
    (hbuild : buildEnvelope registry ambient request = .ok envelope)
    (hstage : (stage accepts session envelope).1 = .ok row) :
    RoundTrips interpreter (envelope.stamped (utcnow wall)) row ↔
      envelope.eventVersion ≠ 0 ∧ plainEntries envelope.payload = true ∧
        plainEntries envelope.metadata = true := by
  obtain ⟨rfl, hpayload, hmetadata⟩ := stage_eq_ok hstage
  have hnonempty : envelope.eventId ≠ "" := by
    rw [buildEnvelope_eventId hbuild, hid, newEventId]
    simp
  have hledger : EventEnvelope.fromModel (readRow interpreter (ledgerRow envelope)) (utcnow wall) =
      envelope.stamped (utcnow wall) ↔ _ := fromModel_ledgerRow hpayload hmetadata
  constructor
  · intro h
    exact hledger.mp h.ledger
  · intro h
    have houtbox : ∀ fresh now, EventEnvelope.fromDict interpreter fresh now
        (returned interpreter (envelope.stamped (utcnow wall)).toDict) =
          some (envelope.stamped (utcnow wall)) := by
      intro fresh now
      rw [returned_plain (plain_toDict h.2.1 h.2.2), fromDict_toDict hnonempty]
    have hstream : ∀ fresh now, EventEnvelope.fromJson interpreter fresh now
        ((envelope.stamped (utcnow wall)).toJson interpreter) =
          some (envelope.stamped (utcnow wall)) := fun fresh now =>
      fromJson_toJson hnonempty hreads h.2.1 h.2.2
    refine ⟨houtbox, ?_, hledger.mpr h, ?_⟩
    · intro relayed fresh now fresh' now' hrelayed
      obtain rfl := Option.some.inj ((houtbox fresh now).symm.trans hrelayed)
      exact hstream fresh' now'
    · rintro decoded fresh now (hdecoded | hdecoded | hdecoded)
      · rw [Option.some.inj ((houtbox fresh now).symm.trans hdecoded)]
      · rw [Option.some.inj ((hstream fresh now).symm.trans hdecoded)]
      · rw [← hdecoded]
        exact congrArg (EventEnvelope.toJson interpreter) (hledger.mpr h)

end

/-! ## A gift -/

def giftAmbient : Ambient where
  newEventId := "evt_0a"
  correlationId := "cor_1"

def giftRequest (version : ℤ) : EmitRequest where
  eventType := "gift.bought"
  payload := .dict [(.str "amount", .int 5)]
  eventVersion := version

def gift (version : ℤ) : Envelope where
  eventId := "evt_0a"
  eventType := "gift.bought"
  eventVersion := version
  payload := [(.str "amount", .int 5)]
  aggregateType := none
  aggregateId := none
  actorType := some "system"
  actorId := none
  correlationId := some "cor_1"
  causationId := none
  metadata := []

def giftTime : Iso.DateTime := ⟨⟨2026, 8, 8, 1, 11, 10, 0, some 0⟩, by decide⟩

def giftText : String :=
  "\x7b\"event_id\":\"evt_0a\",\"event_type\":\"gift.bought\",\"event_version\":1," ++
    "\"aggregate_type\":null,\"aggregate_id\":null,\"actor_type\":\"system\"," ++
    "\"actor_id\":null,\"correlation_id\":\"cor_1\",\"causation_id\":null," ++
    "\"occurred_at\":\"2026-08-08T01:11:10+00:00\",\"payload\":\x7b\"amount\":5\x7d," ++
    "\"metadata\":\x7b\x7d\x7d"

/-- It knows one document. -/
def giftInterpreter : Interpreter where
  dumps _ := giftText
  loads text :=
    if text = giftText then some (.dict ((gift 1).stamped (utcnow giftTime)).toDict) else .none
  floatText _ := ""
  intText _ := none

def idleSession : CallerSession ℕ where
  committed := {}
  working := {}

theorem gift_round_trip :
    RoundTrips giftInterpreter ((gift 1).stamped (utcnow giftTime)) (ledgerRow (gift 1)) := by
  refine (staged_round_trip giftInterpreter {} giftAmbient (giftRequest 1) (gift 1)
    (fun _ _ => true) idleSession (ledgerRow (gift 1)) "0a" giftTime rfl ?_ rfl rfl).mpr
    ⟨by decide, rfl, rfl⟩
  have hplain : (PyValue.dict ((gift 1).stamped (utcnow giftTime)).toDict).plain = true := by
    rw [plain]
    exact plain_toDict rfl rfl
  rw [Interpreter.Reads, reload_plain _ hplain]
  simp only [giftInterpreter, if_true]

/-- An event of an unregistered type may be of version zero. Its ledger row is replayed as version
one. -/
theorem zero_version_replayed :
    buildEnvelope {} giftAmbient (giftRequest 0) = .ok (gift 0) ∧
      (stage (fun _ _ => true) idleSession (gift 0)).1 = .ok (ledgerRow (gift 0)) ∧
      (EventEnvelope.fromModel (readRow giftInterpreter (ledgerRow (gift 0)))
        giftTime).eventVersion = 1 ∧
      ¬RoundTrips giftInterpreter ((gift 0).stamped (utcnow giftTime)) (ledgerRow (gift 0)) := by
  refine ⟨rfl, rfl, rfl, ?_⟩
  intro h
  have hversion := congrArg EventEnvelope.eventVersion h.ledger
  exact absurd hversion (by decide)

end Wire

end Afcon360.Notifications
