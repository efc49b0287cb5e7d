import Afcon360.Accommodation.Signatures
import Afcon360.Auth.StoreFallback

/-!
# Transaction intents

An intent that is kept in the session until its owner has logged in. It is signed, it expires,
and it names the session that it was created in.

The session is a dictionary: the marker, the intents by their keys, and whatever else it has. It
comes back from the store as it was put there. The encoder, the digest under the application's
key and the texts of instants are parameters.
-/

namespace Afcon360.Utils.Intents

open Foundation Json Accommodation

/-- What `datetime.fromisoformat` makes of a text. -/
inductive Moment
  | invalid
  | naive
  | aware (instant : ℤ)
deriving DecidableEq, Repr

/-- `json.dumps`, the HMAC under `SECRET_KEY` in hexadecimal, and the texts of instants in
microseconds. `parse` reads a text after `Z` was replaced by the offset. -/
structure Tools where
  dumps : Json → String
  hexdigest : String → String
  isoformat : ℤ → String
  parse : String → Moment
  dumps_injective : Function.Injective dumps
  hexdigest_injective : Function.Injective hexdigest
  hexdigest_plain : ∀ text, hexdigest text ≠ "" ∧ isAscii (hexdigest text) = true
  parse_isoformat : ∀ instant, parse (isoformat instant) = .aware instant

/-- `_sign_payload`: the fields are sorted. -/
def Tools.signPayload (tools : Tools) (payload : Fields) : String :=
  tools.hexdigest (tools.dumps (Json.obj payload).canonical)

/-- What the functions raise. -/
inductive Failure
  | noSession
  | invalidIntentType
  | typeError
  | attributeError
  | keyError
deriving DecidableEq, Repr

/-- Code and message of a `TransactionIntentError`. -/
def Failure.text : Failure → Option (String × String)
  | .noSession => some ("NO_SESSION", "Flask session not available")
  | .invalidIntentType => some ("INVALID_INTENT_TYPE", "intent_type must be one of " ++
      "('event_ticket', 'accommodation_booking', 'transport_booking')")
  | _ => none

/-- A random marker. -/
structure Marker where
  text : String
  ne_empty : text ≠ ""
deriving DecidableEq

@[ext] structure Session where
  sessionId : Option Marker := none
  intents : Option (String → Option Fields) := none
  others : Fields := []

namespace Session

/-- The session has a key. `_permanent`, which alone leaves it false, is not among `others`. -/
def truthy (s : Session) : Bool := s.sessionId.isSome || s.intents.isSome || !s.others.isEmpty

def intent (s : Session) (key : String) : Option Fields := s.intents.bind (· key)

def put (s : Session) (key : String) (intent : Fields) : Session :=
  { s with intents := s.intents.map (Function.update · key (some intent)) }

/-- `setdefault` of the intents, and a new one among them. -/
def store (s : Session) (key : String) (intent : Fields) : Session :=
  let intents := Function.update (s.intents.getD fun _ => none) key (some intent)
  { s with intents := some intents }

def remove (s : Session) (key : String) : Session :=
  { s with intents := s.intents.map (Function.update · key none) }

/-- `_get_session_id`; `marker` is the next random one. -/
def getSessionId (s : Session) (marker : Marker) : Session × Option Marker :=
  if s.truthy then
    match s.sessionId with
    | some id => (s, some id)
    | none => ({ s with sessionId := some marker }, some marker)
  else (s, none)

end Session

/-- The arguments of `create_transaction_intent`. -/
structure IntentData where
  intentType : String
  domainRefs : Option Fields := none
  dates : Option Fields := none
  quantity : ℤ := 1
  participantInfo : Option Fields := none
  returnRoute : Option String := none
  ttlMinutes : ℤ := 30

def validTypes : List String := ["event_ticket", "accommodation_booking", "transport_booking"]

def maxIntentTtlMinutes : ℤ := 120

def IntentData.expiresAt (data : IntentData) (now : ℤ) : ℤ :=
  now + max 1 (min data.ttlMinutes maxIntentTtlMinutes) * 60000000

/-- The intent before it is signed. -/
def IntentData.payload (data : IntentData) (tools : Tools) (now : ℤ) (key : String)
    (sessionId : Option Marker) : Fields :=
  [("intent_type", .str data.intentType),
   ("domain_refs", .obj (data.domainRefs.getD [])),
   ("dates", .obj (data.dates.getD [])),
   ("quantity", .num (max 1 data.quantity)),
   ("participant_info", .obj (data.participantInfo.getD [])),
   ("return_route", (data.returnRoute.map Json.str).getD .null),
   ("created_at", .str (tools.isoformat now)),
   ("expires_at", .str (tools.isoformat (data.expiresAt now))),
   ("idempotency_key", .str key),
   ("session_id", (sessionId.map fun id => Json.str id.text).getD .null)]

def signed (tools : Tools) (payload : Fields) : Fields :=
  payload.set "_signature" (.str (tools.signPayload payload))

/-- `create_transaction_intent`; `key` and `marker` are the next random ones. -/
def create (tools : Tools) (s : Session) (data : IntentData) (now : ℤ) (key : String)
    (marker : Marker) : Except Failure (Session × Fields) :=
  if !s.truthy then .error .noSession
  else if data.intentType ∉ validTypes then .error .invalidIntentType
  else
    let marked := s.getSessionId marker
    let intent := signed tools (data.payload tools now key marked.2)
    .ok (marked.1.store key intent, intent)

/-- The signature is there, and `_verify_signature`. -/
def checkSignature (tools : Tools) (stored : Option Json) (payload : Fields) :
    Except Failure Bool :=
  match stored with
  | none => .ok false
  | some value =>
    if !value.truthy then .ok false
    else
      match value with
      | .str text => (compareDigest (tools.signPayload payload) text).elim (.error .typeError) .ok
      | _ => .error .typeError

def checkExpiry (tools : Tools) (now : ℤ) (intent : Fields) : Except Failure Bool :=
  match intent.lookup "expires_at" with
  | none => .ok false
  | some (.str text) =>
    match tools.parse text with
    | .invalid => .ok false
    | .naive => .error .typeError
    | .aware expiresAt => .ok (now ≤ expiresAt)
  | some _ => .error .attributeError

def checkBinding (s : Session) (intent : Fields) (marker : Marker) : Session × Bool :=
  match intent.lookup "session_id" with
  | none => (s, true)
  | some value =>
    if !value.truthy then (s, true)
    else
      let current := s.getSessionId marker
      match value with
      | .str id => (current.1, current.2.map Marker.text == some id)
      | _ => (current.1, false)

/-- What `get_transaction_intent` does with a stored intent. The signature is taken out of the
stored object while it is verified. -/
def restore (tools : Tools) (s : Session) (now : ℤ) (key : String) (marker : Marker)
    (intent : Fields) : Session × Except Failure (Option Fields) :=
  let unsigned := intent.without "_signature"
  match checkSignature tools (intent.lookup "_signature") unsigned with
  | .error failure => (s.put key unsigned, .error failure)
  | .ok false => (s.remove key, .ok none)
  | .ok true =>
    let restored := unsigned.set "_signature" ((intent.lookup "_signature").getD .null)
    let s := s.put key restored
    match checkExpiry tools now restored with
    | .error failure => (s, .error failure)
    | .ok false => (s.remove key, .ok none)
    | .ok true =>
      let bound := checkBinding s restored marker
      if bound.2 then (bound.1, .ok (some restored)) else (bound.1.remove key, .ok none)

/-- `get_transaction_intent` -/
def get (tools : Tools) (s : Session) (now : ℤ) (key : String) (marker : Marker) :
    Session × Except Failure (Option Fields) :=
  if !s.truthy then (s, .ok none)
  else
    match s.intent key with
    | none => (s, .ok none)
    | some intent =>
      if intent.isEmpty then (s, .ok none) else restore tools s now key marker intent

/-- `consume_transaction_intent` -/
def consume (tools : Tools) (s : Session) (now : ℤ) (key : String) (marker : Marker) :
    Session × Except Failure (Option Fields) :=
  match get tools s now key marker with
  | (s, .ok (some intent)) =>
    if intent.isEmpty then (s, .ok (some intent)) else (s.remove key, .ok (some intent))
  | other => other

/-- `clear_transaction_intent` -/
def clear (s : Session) (key : String) : Session × Except Failure Bool :=
  if !s.truthy then (s, .ok false)
  else
    match s.intents with
    | none => (s, .error .keyError)
    | some intents => (s.remove key, .ok (intents key).isSome)

/-! ## Requests -/

/-- The operations on an intent. -/
inductive Op
  | create (data : IntentData)
  | get
  | consume
  | clear

def Op.isCreate : Op → Bool
  | .create _ => true
  | _ => false

def Op.isGet : Op → Bool
  | .get => true
  | _ => false

/-- An operation with its key, its time, and the marker it makes if there is none. -/
structure Request where
  op : Op
  key : String
  now : ℤ
  marker : Marker

/-- The session after an operation. -/
def next (tools : Tools) (s : Session) (request : Request) : Session :=
  match request.op with
  | .create data =>
    match create tools s data request.now request.key request.marker with
    | .ok (s, _) => s
    | .error _ => s
  | .get => (get tools s request.now request.key request.marker).1
  | .consume => (consume tools s request.now request.key request.marker).1
  | .clear => (clear s request.key).1

/-! ## What an operation leaves alone -/

namespace Session

variable {s s' s'' : Session} {key : String} {marker : Marker} {stored : Fields}

/-- The other intents are the same, and so is a marker. -/
structure Keeps (key : String) (s s' : Session) : Prop where
  intent : ∀ other, other ≠ key → s'.intent other = s.intent other
  sessionId : ∀ id, s.sessionId = some id → s'.sessionId = some id

theorem Keeps.refl (key : String) (s : Session) : Keeps key s s :=
  ⟨fun _ _ => rfl, fun _ h => h⟩

theorem Keeps.trans (h : Keeps key s s') (h' : Keeps key s' s'') : Keeps key s s'' :=
  ⟨fun other hne => (h'.intent other hne).trans (h.intent other hne),
    fun id hid => h'.sessionId id (h.sessionId id hid)⟩

theorem keeps_put : Keeps key s (s.put key stored) := by
  refine ⟨fun other h => ?_, fun _ h => h⟩
  cases hs : s.intents <;> simp [put, Session.intent, hs, h]

theorem keeps_store : Keeps key s (s.store key stored) := by
  refine ⟨fun other h => ?_, fun _ h => h⟩
  cases hs : s.intents <;> simp [store, Session.intent, hs, h]

@[simp] theorem intent_store : (s.store key stored).intent key = some stored := by
  simp [store, Session.intent]

theorem keeps_remove : Keeps key s (s.remove key) := by
  refine ⟨fun other h => ?_, fun _ h => h⟩
  cases hs : s.intents <;> simp [remove, Session.intent, hs, h]

@[simp] theorem intent_remove : (s.remove key).intent key = none := by
  cases hs : s.intents <;> simp [remove, Session.intent, hs]

theorem getSessionId_of_some {id : Marker} (h : s.sessionId = some id) :
    s.getSessionId marker = (s, some id) := by
  simp [getSessionId, truthy, h]

theorem keeps_getSessionId : Keeps key s (s.getSessionId marker).1 := by
  unfold getSessionId
  split
  · split
    · exact Keeps.refl key s
    · rename_i hnone
      exact ⟨fun _ _ => rfl, fun id h => absurd (hnone.symm.trans h) (by simp)⟩
  · exact Keeps.refl key s

theorem truthy_of_intent (h : s.intent key = some stored) : s.truthy = true := by
  cases hs : s.intents with
  | none => simp [Session.intent, hs] at h
  | some intents => simp [truthy, hs]

theorem put_of_intent (h : s.intent key = some stored) : s.put key stored = s := by
  cases hs : s.intents with
  | none => simp [Session.intent, hs] at h
  | some intents =>
    have hkey : intents key = some stored := by simpa [Session.intent, hs] using h
    ext1
    · rfl
    · simp only [put, hs, Option.map_some, ← hkey, Function.update_eq_self]
    · rfl

end Session

section

open Session

variable {tools : Tools} {s after : Session} {key : String} {marker owner : Marker} {now : ℤ}
  {stored changed intent : Fields} {data : IntentData}

variable {deadline : ℤ}

theorem keeps_checkBinding : Keeps key s (checkBinding s stored marker).1 := by
  unfold checkBinding
  split
  · exact Keeps.refl key s
  · split
    · exact Keeps.refl key s
    · simp only
      split
      · exact keeps_getSessionId
      · exact keeps_getSessionId

theorem keeps_restore : Keeps key s (restore tools s now key marker stored).1 := by
  simp only [restore]
  split
  · exact keeps_put
  · exact keeps_remove
  · split
    · exact keeps_put
    · exact keeps_put.trans keeps_remove
    · split
      · exact keeps_put.trans keeps_checkBinding
      · exact (keeps_put.trans keeps_checkBinding).trans keeps_remove

theorem keeps_get : Keeps key s (get tools s now key marker).1 := by
  unfold get
  split
  · exact Keeps.refl key s
  · split
    · exact Keeps.refl key s
    · split
      · exact Keeps.refl key s
      · exact keeps_restore

theorem keeps_consume : Keeps key s (consume tools s now key marker).1 := by
  have hget : Keeps key s (get tools s now key marker).1 := keeps_get
  unfold consume
  split
  · rename_i after intent h
    rw [h] at hget
    split
    · exact hget
    · exact hget.trans keeps_remove
  · exact hget

/-- A creation needs a session with a key in it and a known type. -/
theorem create_eq_ok {intent : Fields} :
    create tools s data now key marker = .ok (after, intent) ↔
      s.truthy = true ∧ data.intentType ∈ validTypes ∧
        intent = signed tools (data.payload tools now key (s.getSessionId marker).2) ∧
        after = (s.getSessionId marker).1.store key intent := by
  unfold create
  split
  · rename_i hempty
    have hfalse : s.truthy = false := by simpa using hempty
    simp [hfalse]
  · rename_i hfull
    have htrue : s.truthy = true := by simpa using hfull
    split
    · rename_i htype
      simp [htype]
    · rename_i htype
      have hvalid : data.intentType ∈ validTypes := by simpa using htype
      simp only [Except.ok.injEq, Prod.mk.injEq, htrue, hvalid, true_and]
      constructor
      · rintro ⟨hafter, rfl⟩
        exact ⟨rfl, hafter.symm⟩
      · rintro ⟨rfl, hafter⟩
        exact ⟨hafter.symm, rfl⟩

theorem keeps_create {intent : Fields}
    (h : create tools s data now key marker = .ok (after, intent)) : Keeps key s after := by
  obtain ⟨-, -, -, rfl⟩ := create_eq_ok.mp h
  exact keeps_getSessionId.trans keeps_store

/-- An operation touches its own key, and a marker stays. -/
theorem keeps_next (request : Request) : Keeps request.key s (next tools s request) := by
  obtain ⟨op, key, now, marker⟩ := request
  cases op with
  | create data =>
    simp only [next]
    split
    · rename_i h
      exact keeps_create h
    · exact Keeps.refl key s
  | get => exact keeps_get
  | consume => exact keeps_consume
  | clear =>
    simp only [next, clear]
    split
    · exact Keeps.refl key s
    · split
      · exact Keeps.refl key s
      · exact keeps_remove

/-! ## A created intent -/

/-- An intent that was created by the owner of a marker and expires at the deadline. -/
structure Genuine (tools : Tools) (owner : Marker) (deadline : ℤ) (intent : Fields) : Prop where
  signature : intent.lookup "_signature" =
    some (.str (tools.signPayload (intent.without "_signature")))
  /-- The signature is the last field. -/
  last : (intent.without "_signature").set "_signature"
    (.str (tools.signPayload (intent.without "_signature"))) = intent
  expiry : ∃ text, intent.lookup "expires_at" = some (.str text) ∧
    tools.parse text = .aware deadline
  binding : intent.lookup "session_id" = some (.str owner.text)

theorem without_payload {sessionId : Option Marker} :
    Fields.without (data.payload tools now key sessionId) "_signature" =
      data.payload tools now key sessionId := by
  simp [Fields.without, IntentData.payload]

theorem genuine_signed :
    Genuine tools owner (data.expiresAt now)
      (signed tools (data.payload tools now key (some owner))) := by
  have hpayload : Fields.without (signed tools (data.payload tools now key (some owner)))
      "_signature" = data.payload tools now key (some owner) := by
    rw [signed, Fields.without_set, without_payload]
  constructor
  · rw [hpayload, signed, Fields.lookup_set_self]
  · rw [hpayload, signed]
  · refine ⟨tools.isoformat (data.expiresAt now), ?_, tools.parse_isoformat _⟩
    rw [signed, Fields.lookup_set_other _ _ (by decide)]
    rfl
  · rw [signed, Fields.lookup_set_other _ _ (by decide)]
    rfl

theorem Genuine.ne_nil (h : Genuine tools owner deadline intent) :
    intent ≠ [] := by
  rintro rfl
  exact absurd h.binding (by simp)

theorem checkSignature_self :
    checkSignature tools (some (.str (tools.signPayload stored))) stored = .ok true := by
  have hplain := tools.hexdigest_plain (tools.dumps (Json.obj stored).canonical)
  simp [checkSignature, Tools.signPayload, Json.truthy, compareDigest, hplain.1, hplain.2]

theorem eq_of_checkSignature {signature : Option Json}
    (h : checkSignature tools signature stored = .ok true) :
    signature = some (.str (tools.signPayload stored)) := by
  unfold checkSignature at h
  split at h
  · cases h
  · split at h
    · cases h
    · split at h
      · rename_i text _
        unfold compareDigest at h
        split at h
        · simpa using (Eq.symm (by simpa using h) : text = tools.signPayload stored)
        · cases h
      · cases h

/-- The signature, if there is a true one, is a text of ASCII characters. -/
def PlainSignature (intent : Fields) : Prop :=
  ∀ value, intent.lookup "_signature" = some value → value.truthy = true →
    ∃ text, value = .str text ∧ isAscii text = true

/-- The comparison of signatures raises on all others. -/
theorem checkSignature_eq_ok :
    (∃ passed, checkSignature tools (intent.lookup "_signature") stored = .ok passed) ↔
      PlainSignature intent := by
  unfold PlainSignature
  cases intent.lookup "_signature" with
  | none => simp [checkSignature]
  | some value =>
    by_cases htruthy : value.truthy = true
    · have hplain := (tools.hexdigest_plain (tools.dumps (Json.obj stored).canonical)).2
      cases value with
      | str text =>
        by_cases hascii : isAscii text = true
        · simp [checkSignature, htruthy, compareDigest, Tools.signPayload, hplain, hascii]
        · simp [checkSignature, htruthy, compareDigest, hascii]
      | _ => simp [checkSignature, htruthy]
    · simp [checkSignature, htruthy]

theorem checkExpiry_genuine (h : Genuine tools owner deadline intent) :
    checkExpiry tools now intent = .ok (decide (now ≤ deadline)) := by
  obtain ⟨text, htext, hparse⟩ := h.expiry
  simp only [checkExpiry, htext, hparse]

theorem checkBinding_genuine (h : Genuine tools owner deadline intent) :
    checkBinding s intent marker =
      ((s.getSessionId marker).1,
        (s.getSessionId marker).2.map Marker.text == some owner.text) := by
  have htruthy : (Json.str owner.text).truthy = true := by simp [Json.truthy, owner.ne_empty]
  simp only [checkBinding, h.binding, htruthy]
  rfl

/-- A genuine intent is put back as it was; its deadline and its owner decide. -/
theorem get_genuine (h : Genuine tools owner deadline intent) (hheld : s.intent key = some intent) :
    get tools s now key marker =
      if deadline < now then (s.remove key, .ok none)
      else
        let bound := s.getSessionId marker
        if bound.2.map Marker.text == some owner.text then (bound.1, .ok (some intent))
        else (bound.1.remove key, .ok none) := by
  have hempty : intent.isEmpty = false := List.isEmpty_eq_false_iff.mpr h.ne_nil
  simp only [get, truthy_of_intent hheld, hheld, hempty, restore]
  rw [h.signature, checkSignature_self, Option.getD_some, h.last, put_of_intent hheld,
    checkExpiry_genuine h, checkBinding_genuine h]
  by_cases hlate : deadline < now
  · simp [hlate, not_le.mpr hlate]
  · simp [hlate, not_lt.mp hlate]

/-! ## Refusals -/

/-- Nothing is returned, and the intent is gone. -/
def Refused (key : String) (result : Session × Except Failure (Option Fields)) : Prop :=
  result.2 = .ok none ∧ result.1.intent key = none

/-- A field is changed, by somebody without the key: a signature that fits the fields is the one
that he found. -/
structure Tampered (tools : Tools) (intent changed : Fields) : Prop where
  differs : ∃ name, (changed.lookup name).map canonical ≠ (intent.lookup name).map canonical
  unforged : changed.lookup "_signature" =
      some (.str (tools.signPayload (changed.without "_signature"))) →
    changed.lookup "_signature" = intent.lookup "_signature"

/-- Fields with one signature are the same fields. -/
theorem signPayload_ne {fields fields' : Fields} {name : String}
    (h : (fields.lookup name).map canonical ≠ (fields'.lookup name).map canonical) :
    tools.signPayload fields ≠ tools.signPayload fields' := fun heq =>
  canonical_ne_of_field name h (tools.dumps_injective (tools.hexdigest_injective heq))

theorem Tampered.checkSignature_ne (h : Tampered tools intent changed)
    (hgenuine : Genuine tools owner deadline intent) :
    checkSignature tools (changed.lookup "_signature") (changed.without "_signature") ≠
      .ok true := by
  intro hpassed
  have hfits := eq_of_checkSignature hpassed
  have hsame := h.unforged hfits
  obtain ⟨name, hname⟩ := h.differs
  by_cases hsignature : name = "_signature"
  · rw [hsignature, hsame] at hname
    exact hname rfl
  · rw [← Fields.lookup_without changed hsignature, ← Fields.lookup_without intent hsignature]
      at hname
    rw [hfits, hgenuine.signature, Option.some_inj, Json.str.injEq] at hsame
    exact signPayload_ne hname hsame

/-- A changed intent is refused where the comparison of signatures does not raise and a field is
left. -/
theorem refused_changed (h : Tampered tools intent changed)
    (hgenuine : Genuine tools owner deadline intent) (hheld : s.intent key = some changed) :
    Refused key (get tools s now key marker) ↔ changed ≠ [] ∧ PlainSignature changed := by
  simp only [get, truthy_of_intent hheld, hheld]
  by_cases hempty : changed = []
  · subst hempty
    simp [Refused, hheld]
  · have hplain : (∃ passed, checkSignature tools (changed.lookup "_signature")
        (changed.without "_signature") = .ok passed) ↔ PlainSignature changed :=
      checkSignature_eq_ok
    rw [← hplain]
    simp only [List.isEmpty_eq_false_iff.mpr hempty, restore]
    cases hsignature : checkSignature tools (changed.lookup "_signature")
        (changed.without "_signature") with
    | error failure => simp [Refused]
    | ok passed =>
      cases passed with
      | false => simp [Refused, hempty]
      | true => exact absurd hsignature (h.checkSignature_ne hgenuine)

/-- A genuine intent is refused in a session without the marker of its owner. -/
theorem refused_moved (h : Genuine tools owner deadline intent)
    (hheld : s.intent key = some intent) (hother : s.sessionId ≠ some owner)
    (hfresh : marker ≠ owner) : Refused key (get tools s now key marker) := by
  have hbound : ((s.getSessionId marker).2.map Marker.text == some owner.text) = false := by
    have htext : ∀ id : Marker, id ≠ owner → id.text ≠ owner.text := by
      rintro ⟨text, _⟩ hne rfl
      exact hne rfl
    cases hid : s.sessionId with
    | none => simpa [getSessionId, truthy_of_intent hheld, hid] using htext marker hfresh
    | some id =>
      have hne : id ≠ owner := fun heq => hother (heq ▸ hid)
      simpa [getSessionId_of_some hid] using htext id hne
  rw [get_genuine h hheld]
  split
  · simp [Refused]
  · simp [hbound, Refused]

/-! ## An intent that is gone -/

theorem get_none (h : s.intent key = none) : get tools s now key marker = (s, .ok none) := by
  unfold get
  split
  · rfl
  · rw [h]

theorem consume_none (h : s.intent key = none) :
    consume tools s now key marker = (s, .ok none) := by
  rw [consume, get_none h]

/-- Only a creation under the key brings an intent back. -/
theorem next_none {request : Request} (h : s.intent key = none)
    (hcreate : request.op.isCreate = true → request.key ≠ key) :
    (next tools s request).intent key = none := by
  by_cases hkey : request.key = key
  · obtain ⟨op, requestKey, requestNow, requestMarker⟩ := request
    cases hkey
    cases op with
    | create data => exact absurd rfl (hcreate rfl)
    | get => simpa only [next, get_none h] using h
    | consume => simpa only [next, consume_none h] using h
    | clear =>
      simp only [next, clear]
      split
      · exact h
      · split
        · exact h
        · exact intent_remove
  · rw [(keeps_next request).intent key (Ne.symm hkey), h]

/-- Nothing is returned for the key, whatever is asked afterwards. -/
def Gone (tools : Tools) (key : String) (s : Session) : Prop :=
  ∀ requests : List Request,
    (∀ request ∈ requests, request.op.isCreate = true → request.key ≠ key) →
    ∀ now marker, (get tools (requests.foldl (next tools) s) now key marker).2 = .ok none

theorem gone_of_none (h : s.intent key = none) : Gone tools key s := by
  intro requests hrequests now marker
  suffices hnone : (requests.foldl (next tools) s).intent key = none by
    rw [get_none hnone]
  induction requests generalizing s with
  | nil => exact h
  | cons request rest ih =>
    exact ih (next_none h (hrequests request List.mem_cons_self))
      fun later hlater => hrequests later (List.mem_cons_of_mem _ hlater)

/-! ## The life of an intent -/

/-- An operation on another key, or a reading in time. -/
def Spares (key : String) (deadline : ℤ) (request : Request) : Prop :=
  request.key ≠ key ∨ request.op.isGet = true ∧ request.now ≤ deadline

/-- The session of the owner has the intent. -/
structure Holds (key : String) (owner : Marker) (intent : Fields) (s : Session) : Prop where
  intent : s.intent key = some intent
  sessionId : s.sessionId = some owner

variable {deadline : ℤ}

theorem get_late (h : Genuine tools owner deadline intent) (hheld : s.intent key = some intent)
    (hlate : deadline < now) : get tools s now key marker = (s.remove key, .ok none) := by
  rw [get_genuine h hheld, if_pos hlate]

theorem get_holds (h : Genuine tools owner deadline intent) (hs : Holds key owner intent s)
    (htime : now ≤ deadline) : get tools s now key marker = (s, .ok (some intent)) := by
  rw [get_genuine h hs.intent, if_neg (not_lt.mpr htime), getSessionId_of_some hs.sessionId]
  simp

theorem Holds.next {request : Request} (hs : Holds key owner intent s)
    (h : Genuine tools owner deadline intent) (hspares : Spares key deadline request) :
    Holds key owner intent (next tools s request) := by
  obtain hkey | ⟨hget, htime⟩ := hspares
  · have hkeeps : Keeps request.key s (Intents.next tools s request) := keeps_next request
    exact ⟨(hkeeps.intent key (Ne.symm hkey)).trans hs.intent,
      hkeeps.sessionId owner hs.sessionId⟩
  · by_cases hkey : request.key = key
    · obtain ⟨op, requestKey, requestNow, requestMarker⟩ := request
      cases hkey
      cases op with
      | get =>
        simp only [Intents.next]
        rw [get_holds h hs htime]
        exact hs
      | create | consume | clear => cases hget
    · have hkeeps : Keeps request.key s (Intents.next tools s request) := keeps_next request
      exact ⟨(hkeeps.intent key (Ne.symm hkey)).trans hs.intent,
        hkeeps.sessionId owner hs.sessionId⟩

theorem Holds.foldl {requests : List Request} (hs : Holds key owner intent s)
    (h : Genuine tools owner deadline intent)
    (hspares : ∀ request ∈ requests, Spares key deadline request) :
    Holds key owner intent (requests.foldl (Intents.next tools) s) := by
  induction requests generalizing s with
  | nil => exact hs
  | cons request rest ih =>
    exact ih (hs.next h (hspares request List.mem_cons_self))
      fun later hlater => hspares later (List.mem_cons_of_mem _ hlater)

theorem consume_holds (h : Genuine tools owner deadline intent) (hs : Holds key owner intent s) :
    (consume tools s now key marker).1.intent key = none := by
  obtain hlate | htime := lt_or_ge deadline now
  · rw [consume, get_late h hs.intent hlate]
    exact intent_remove
  · have hempty : intent.isEmpty = false := List.isEmpty_eq_false_iff.mpr h.ne_nil
    rw [consume, get_holds h hs htime]
    simp only [hempty]
    exact intent_remove

theorem clear_holds (hs : Holds key owner intent s) :
    clear s key = (s.remove key, .ok true) := by
  have htruthy := truthy_of_intent hs.intent
  have hheld := hs.intent
  unfold clear
  cases hintents : s.intents with
  | none => simp [Session.intent, hintents] at hheld
  | some intents =>
    have hkey : intents key = some intent := by simpa [Session.intent, hintents] using hheld
    simp [htruthy, hkey]

/-- What a session owes to the owner of an intent. -/
structure Kept (tools : Tools) (key : String) (owner : Marker) (deadline : ℤ) (intent : Fields)
    (s : Session) : Prop where
  returned : ∀ now marker, now ≤ deadline →
    get tools s now key marker = (s, .ok (some intent))
  expired : ∀ now marker, deadline < now → Refused key (get tools s now key marker)
  consumed : ∀ now marker, Gone tools key (consume tools s now key marker).1
  cleared : Gone tools key (clear s key).1
  changed : ∀ changed, Tampered tools intent changed → ∀ now marker,
    Refused key (get tools (s.put key changed) now key marker) ↔
      changed ≠ [] ∧ PlainSignature changed
  moved : ∀ other now marker, other.intent key = some intent → other.sessionId ≠ some owner →
    marker ≠ owner → Refused key (get tools other now key marker)

theorem intent_put (h : s.intent key = some stored) :
    (s.put key changed).intent key = some changed := by
  cases hs : s.intents with
  | none => simp [Session.intent, hs] at h
  | some intents => simp [put, Session.intent, hs]

theorem Holds.kept (hs : Holds key owner intent s) (h : Genuine tools owner deadline intent) :
    Kept tools key owner deadline intent s where
  returned _ _ htime := get_holds h hs htime
  expired now marker hlate := by
    rw [get_late h hs.intent hlate]
    exact ⟨rfl, intent_remove⟩
  consumed _ _ := gone_of_none (consume_holds h hs)
  cleared := by
    rw [clear_holds hs]
    exact gone_of_none intent_remove
  changed _ htampered _ _ := refused_changed htampered h (intent_put hs.intent)
  moved _ _ _ hheld hother hfresh := refused_moved h hheld hother hfresh

/-- A creation leaves the intent with a session that has a marker. -/
theorem holds_create (h : create tools s data now key marker = .ok (after, intent)) :
    ∃ owner, Holds key owner intent after ∧
      Genuine tools owner (data.expiresAt now) intent := by
  obtain ⟨htruthy, -, rfl, rfl⟩ := create_eq_ok.mp h
  obtain ⟨owner, hafter, hid⟩ : ∃ owner, (s.getSessionId marker).1.sessionId = some owner ∧
      (s.getSessionId marker).2 = some owner := by
    obtain hnone | ⟨id, hid⟩ := Option.eq_none_or_eq_some s.sessionId
    · exact ⟨marker, by simp [getSessionId, htruthy, hnone], by simp [getSessionId, htruthy, hnone]⟩
    · exact ⟨id, by simp [getSessionId_of_some hid, hid], by simp [getSessionId_of_some hid]⟩
  rw [hid]
  exact ⟨owner, ⟨intent_store, hafter⟩, genuine_signed⟩

/-- An intent is created in a session that has a key, and in no other. It is returned as it was
created until it expires, is consumed or is cleared, whatever happens to the other intents; an
expired or moved one is refused and removed, and so is a changed one unless the comparison of its
signature raises or no field is left. An operation on one intent does not touch the others. -/
theorem intent_kept (tools : Tools) (s : Session) (data : IntentData) (now : ℤ) (key : String)
    (marker : Marker) (htype : data.intentType ∈ validTypes) :
    ((∃ after intent, create tools s data now key marker = .ok (after, intent)) ↔
      s.truthy = true) ∧
    (∀ after intent, create tools s data now key marker = .ok (after, intent) →
      ∃ owner, after.sessionId = some owner ∧
        ∀ requests : List Request,
          (∀ request ∈ requests, Spares key (data.expiresAt now) request) →
          Kept tools key owner (data.expiresAt now) intent
            (requests.foldl (next tools) after)) ∧
    ∀ (s : Session) (request : Request) (other : String), other ≠ request.key →
      (next tools s request).intent other = s.intent other := by
  refine ⟨⟨?_, ?_⟩, ?_, fun s request => (keeps_next request).intent⟩
  · rintro ⟨after, intent, hcreate⟩
    exact (create_eq_ok.mp hcreate).1
  · intro htruthy
    exact ⟨_, _, create_eq_ok.mpr ⟨htruthy, htype, rfl, rfl⟩⟩
  · intro after intent hcreate
    obtain ⟨owner, hholds, hgenuine⟩ := holds_create hcreate
    exact ⟨owner, hholds.sessionId, fun requests hspares =>
      (hholds.foldl hgenuine hspares).kept hgenuine⟩

end

/-! ## A visitor -/

/-- The digest hides nothing. -/
def openTools : Tools where
  dumps := dumps
  hexdigest := codePoints
  isoformat := toString
  parse text := .aware (Auth.Fallback.Redis.digits text)
  dumps_injective := dumps_injective
  hexdigest_injective := codePoints_injective
  hexdigest_plain text := ⟨by simp [codePoints, ← String.toList_inj], codePoints_ascii text⟩
  parse_isoformat instant := congrArg Moment.aware (Auth.Fallback.digits_toString instant)

def visitor : Session := { others := [("csrf_token", .str "t")] }

def visitorMarker : Marker := ⟨"m", by decide⟩

def tickets : IntentData := { intentType := "event_ticket", quantity := 2 }

/-- An intent for two tickets comes back a minute later, does not come back after half an hour,
and is refused when it is for nine. -/
theorem visitor_intent : ∃ after intent,
    create openTools visitor tickets 0 "k" visitorMarker = .ok (after, intent) ∧
    get openTools after 60000000 "k" visitorMarker = (after, .ok (some intent)) ∧
    Refused "k" (get openTools after 1800000001 "k" visitorMarker) ∧
    Refused "k" (get openTools (after.put "k" (intent.set "quantity" (.num 9))) 60000000 "k"
      visitorMarker) := by
  obtain ⟨hcreates, hkept, -⟩ :=
    intent_kept openTools visitor tickets 0 "k" visitorMarker (by decide)
  obtain ⟨after, intent, hcreate⟩ := hcreates.mpr rfl
  obtain ⟨owner, -, hall⟩ := hkept after intent hcreate
  have hafter := hall [] (by simp)
  refine ⟨after, intent, hcreate, hafter.returned 60000000 visitorMarker (by decide),
    hafter.expired 1800000001 visitorMarker (by decide), (hafter.changed _ ?_ _ _).mpr ?_⟩
  all_goals
    obtain ⟨-, -, hintent, -⟩ := create_eq_ok.mp hcreate
    have hsignature : (intent.set "quantity" (.num 9)).lookup "_signature" =
        intent.lookup "_signature" := Fields.lookup_set_other _ _ (by decide)
  · refine ⟨⟨"quantity", ?_⟩, fun _ => hsignature⟩
    have hquantity : intent.lookup "quantity" = some (.num 2) := by
      rw [hintent, signed, Fields.lookup_set_other _ _ (by decide)]
      rfl
    rw [Fields.lookup_set_self, hquantity]
    simp [canonical]
  · constructor
    · intro hnil
      have hquantity := Fields.lookup_set_self intent "quantity" (.num 9)
      rw [hnil] at hquantity
      cases hquantity
    · intro value hvalue _
      rw [hsignature, hintent, signed, Fields.lookup_set_self] at hvalue
      exact ⟨_, (Option.some_inj.mp hvalue).symm, (openTools.hexdigest_plain _).2⟩

/-- The intent of a visitor with an empty session is refused, and a changed intent raises and
stays where its signature has a letter outside of ASCII. -/
theorem blank_visitor_refused :
    create openTools {} tickets 0 "k" visitorMarker = .error .noSession ∧
    ∃ after intent, create openTools visitor tickets 0 "k" visitorMarker = .ok (after, intent) ∧
      Tampered openTools intent (intent.set "_signature" (.str "é")) ∧
      ¬Refused "k" (get openTools (after.put "k" (intent.set "_signature" (.str "é"))) 0 "k"
        visitorMarker) := by
  have hforeign : ∀ text, Json.str "é" ≠ .str (openTools.hexdigest text) := by
    intro text heq
    have hascii := (openTools.hexdigest_plain text).2
    rw [← Json.str.inj heq] at hascii
    exact absurd hascii (by decide)
  obtain ⟨⟨after, intent⟩, hcreate⟩ : ∃ result,
      create openTools visitor tickets 0 "k" visitorMarker = .ok result := ⟨_, rfl⟩
  obtain ⟨owner, hholds, hgenuine⟩ := holds_create hcreate
  have htampered : Tampered openTools intent (intent.set "_signature" (.str "é")) := by
    refine ⟨⟨"_signature", ?_⟩, ?_⟩
    · rw [Fields.lookup_set_self, hgenuine.signature]
      simpa [canonical, Tools.signPayload] using hforeign _
    · rw [Fields.lookup_set_self]
      intro hfits
      exact absurd (Option.some_inj.mp hfits) (hforeign _)
  refine ⟨rfl, after, intent, hcreate, htampered, ?_⟩
  rw [refused_changed htampered hgenuine (intent_put hholds.intent)]
  rintro ⟨-, hplain⟩
  obtain ⟨text, htext, hascii⟩ := hplain _ (Fields.lookup_set_self _ _ _) rfl
  rw [← Json.str.inj htext] at hascii
  exact absurd hascii (by decide)

end Afcon360.Utils.Intents
