import Afcon360.Foundation.Run
import Afcon360.Transport.ReservationPolicy

/-!
# One transport booking for a key

`create_booking` looks its idempotency key up among the caller's bookings before it does
anything else. Who looks too early meets the unique index at the flush, is rolled back and
looks the winner up again. The lookups ask for the caller's bookings and the index for any
booking, so that the key of another user ends in an error; and the fingerprint that tells
trips apart does not see the coordinates.

The fingerprint is SHA-256 of a JSON text that its canonical fields determine, so it is
these fields here. A `Preparation` is everything between the lookup and the insert that reads
no booking: validation, location snapshots, the fare, the payment method. The last theorem
is about runs in which no key meets another user's and no two trips differ by coordinates
alone.
-/

namespace Afcon360.Transport

open Foundation

structure Coordinates where
  latitude : ℚ
  longitude : ℚ
deriving DecidableEq, Repr

/-- The fields of the booking data that decide about replays; coordinates as
`_extract_coords` reads them. -/
structure BookingRequest where
  idempotencyKey : Option String := none
  bookingMode : Option String := none
  pickupTime : Option String := none
  serviceType : Option String := none
  vehicleClass : Option String := none
  pickupAddress : Option String := none
  dropoffAddress : Option String := none
  passengerCount : Option String := none
  pickup : Option Coordinates := none
  dropoff : Option Coordinates := none
deriving DecidableEq, Repr

/-- What the fingerprint keeps of the pickup time. -/
inductive PickupStamp
  | instant
  | moment (utc : ℤ)
  | unreadable
deriving DecidableEq, Repr

structure TripFingerprint where
  bookingMode : String
  pickupTime : PickupStamp
  serviceType : String
  vehicleClass : String
  pickupAddress : String
  dropoffAddress : String
  passengerCount : String
deriving DecidableEq, Repr

/-- `str(value or absent)`. -/
def textOr (value : Option String) (absent : String) : String :=
  (value.filter fun text => text ≠ "").getD absent

/-- `str(value or absent).strip().lower()`. -/
def plainText (value : Option String) (absent : String) : String :=
  (strip (textOr value absent)).toLower

/-- The key of a call, if it has one. -/
def BookingRequest.key (request : BookingRequest) : Option String :=
  (some (strip (request.idempotencyKey.getD ""))).filter fun key => key ≠ ""

/-- `_trip_fingerprint`. -/
def tripFingerprint (fromisoformat : String → Option DateTime) (request : BookingRequest) :
    TripFingerprint where
  bookingMode := plainText request.bookingMode ""
  pickupTime :=
    if plainText request.bookingMode "" = "instant" then .instant
    else match request.pickupTime.bind fromisoformat with
      | some time => .moment time.instant
      | none => .unreadable
  serviceType := plainText request.serviceType ""
  vehicleClass := plainText request.vehicleClass "comfort"
  pickupAddress := plainText request.pickupAddress ""
  dropoffAddress := plainText request.dropoffAddress ""
  passengerCount := textOr request.passengerCount "1"

/-- A row of the bookings; the position is its id. -/
structure CreatedBooking where
  userId : ℕ
  idempotencyKey : Option String
  tripFingerprint : Option TripFingerprint
  pickup : Coordinates
  dropoff : Coordinates
  bookingReference : String
  isDeleted : Bool := false
deriving DecidableEq, Repr

structure BookingError where
  message : String
  field : Option String
deriving DecidableEq, Repr

inductive CreateOutcome
  | created (bookingId : ℕ) (bookingReference : String)
  | replayed (bookingId : ℕ) (bookingReference : String)
  /-- The key cannot be verified, or it was used for a different trip, or the data is bad. -/
  | invalid (error : BookingError)
  /-- `ServiceUnavailableError`. -/
  | unavailable
deriving DecidableEq, Repr

inductive CreatePhase
  /-- Before the flush, with the row to insert. -/
  | ready (row : CreatedBooking)
  /-- Flushed and not committed. -/
  | inserted (row : CreatedBooking)
  /-- Rolled back by the unique index. -/
  | rejected
  | finished (outcome : CreateOutcome)
deriving DecidableEq, Repr

/-- A call of `create_booking`. -/
structure CreateCall where
  userId : ℕ
  request : BookingRequest
  phase : CreatePhase
deriving DecidableEq, Repr

/-- The committed bookings and the calls made so far. -/
structure CreateDesk where
  rows : List CreatedBooking := []
  calls : List CreateCall := []
deriving DecidableEq, Repr

inductive CreateLabel
  | start (userId : ℕ) (request : BookingRequest)
  | insert (call : ℕ)
  | commit (call : ℕ)
  /-- A database error other than the unique index. -/
  | abort (call : ℕ)
  | recover (call : ℕ)
deriving DecidableEq, Repr

def unverifiedKey : BookingError :=
  ⟨"Idempotency key exists but cannot be verified. Refresh the page and try again.",
    some "idempotency_key"⟩

def reusedKey : BookingError :=
  ⟨"idempotency_key reused with a different trip", some "idempotency_key"⟩

def missingPickup : BookingError :=
  ⟨"pickup_location must include both 'latitude' and 'longitude'", some "pickup_location"⟩

def missingDropoff : BookingError :=
  ⟨"dropoff_location must include both 'latitude' and 'longitude'", some "dropoff_location"⟩

/-- What is done between the lookup and the insert and reads no booking. -/
structure Preparation where
  /-- `validate_booking_request`. -/
  validate : BookingRequest → Except BookingError Unit
  /-- What comes after the coordinates, and the reference of the booking. -/
  complete : ℕ → BookingRequest → Except BookingError String

section Calls

variable (fromisoformat : String → Option DateTime)
variable (prepare : Preparation)

/-- The caller's booking of the key. -/
def lookupKey (rows : List CreatedBooking) (userId : ℕ) (key : String) :
    Option (ℕ × CreatedBooking) :=
  (rows.findIdx? fun row =>
    row.idempotencyKey = some key ∧ row.userId = userId ∧ row.isDeleted = false).bind
      fun i => rows[i]?.map fun row => (i, row)

/-- The answer for a booking that has the key. -/
def replay (request : BookingRequest) (found : ℕ × CreatedBooking) : CreateOutcome :=
  match found.2.tripFingerprint with
  | none => .invalid unverifiedKey
  | some stored =>
    if stored ≠ tripFingerprint fromisoformat request then .invalid reusedKey
    else .replayed found.1 found.2.bookingReference

/-- The row of a request whose data is good. -/
def draftBooking (userId : ℕ) (request : BookingRequest) : Except BookingError CreatedBooking :=
  match prepare.validate request, request.pickup, request.dropoff with
  | .error error, _, _ => .error error
  | .ok _, none, _ => .error missingPickup
  | .ok _, some _, none => .error missingDropoff
  | .ok _, some pickup, some dropoff =>
    match prepare.complete userId request with
    | .error error => .error error
    | .ok bookingReference => .ok {
        userId := userId
        idempotencyKey := request.key
        tripFingerprint := some (tripFingerprint fromisoformat request)
        pickup := pickup
        dropoff := dropoff
        bookingReference := bookingReference }

/-- The lookup of a call and, where it finds nothing, the row to insert. -/
def startPhase (rows : List CreatedBooking) (userId : ℕ) (request : BookingRequest) :
    CreatePhase :=
  match request.key.bind (lookupKey rows userId) with
  | some found => .finished (replay fromisoformat request found)
  | none =>
    match draftBooking fromisoformat prepare userId request with
    | .error error => .finished (.invalid error)
    | .ok row => .ready row

/-- The winner of a race, or no way to recover. -/
def recoverPhase (rows : List CreatedBooking) (userId : ℕ) (request : BookingRequest) :
    CreatePhase :=
  match request.key.bind (lookupKey rows userId) with
  | some found => .finished (replay fromisoformat request found)
  | none => .finished .unavailable

/-- `ix_booking_idem` has the key already. -/
def keyTaken (rows : List CreatedBooking) (key : Option String) : Bool :=
  key.isSome && rows.any fun row => row.idempotencyKey = key

/-- Another transaction has inserted the key and not committed yet: the insert waits. -/
def keyPending (calls : List CreateCall) (key : Option String) : Bool :=
  key.isSome && calls.any fun call =>
    match call.phase with
    | .inserted row => row.idempotencyKey = key
    | _ => false

def CreateDesk.setPhase (desk : CreateDesk) (i : ℕ) (call : CreateCall) (phase : CreatePhase) :
    CreateDesk :=
  { desk with calls := desk.calls.set i { call with phase := phase } }

def CreateDesk.next (desk : CreateDesk) : CreateLabel → Option CreateDesk
  | .start userId request =>
    some { desk with calls := desk.calls ++
      [⟨userId, request, startPhase fromisoformat prepare desk.rows userId request⟩] }
  | .insert i => desk.calls[i]?.bind fun call =>
    match call.phase with
    | .ready row =>
      if keyTaken desk.rows row.idempotencyKey then some (desk.setPhase i call .rejected)
      else if keyPending desk.calls row.idempotencyKey then none
      else some (desk.setPhase i call (.inserted row))
    | _ => none
  | .commit i => desk.calls[i]?.bind fun call =>
    match call.phase with
    | .inserted row => some
        { desk.setPhase i call (.finished (.created desk.rows.length row.bookingReference)) with
          rows := desk.rows ++ [row] }
    | _ => none
  | .abort i => desk.calls[i]?.bind fun call =>
    match call.phase with
    | .ready _ => some (desk.setPhase i call (.finished .unavailable))
    | .inserted _ => some (desk.setPhase i call (.finished .unavailable))
    | _ => none
  | .recover i => desk.calls[i]?.bind fun call =>
    match call.phase with
    | .rejected =>
      some (desk.setPhase i call
        (recoverPhase fromisoformat desk.rows call.userId call.request))
    | _ => none

/-! ## Trips and keys that stay apart -/

/-- The booking is for the trip of the request. -/
def SameTrip (request : BookingRequest) (row : CreatedBooking) : Prop :=
  row.tripFingerprint = some (tripFingerprint fromisoformat request) ∧
    request.pickup = some row.pickup ∧ request.dropoff = some row.dropoff

instance (request : BookingRequest) (row : CreatedBooking) :
    Decidable (SameTrip fromisoformat request row) :=
  inferInstanceAs (Decidable (_ ∧ _ ∧ _))

/-- The fingerprint tells the trip of the request from that of the booking, if they differ. -/
def tellsApart (request : BookingRequest) (row : CreatedBooking) : Bool :=
  row.tripFingerprint = some (tripFingerprint fromisoformat request) →
    SameTrip fromisoformat request row

/-- What the caller's booking of the key, if there is one, must not be: the same to the
fingerprint with other coordinates. -/
def lookupApart (rows : List CreatedBooking) (userId : ℕ) (request : BookingRequest) : Bool :=
  (request.key.bind (lookupKey rows userId)).all fun found =>
    tellsApart fromisoformat request found.2

/-- No other user has the key of the row, committed or not. -/
def keyOwn (desk : CreateDesk) (row : CreatedBooking) : Bool :=
  row.idempotencyKey.isNone ||
    ((desk.rows.all fun other =>
        decide (other.idempotencyKey = row.idempotencyKey → other.userId = row.userId)) &&
      desk.calls.all fun other =>
        match other.phase with
        | .inserted pending =>
          decide (pending.idempotencyKey = row.idempotencyKey → pending.userId = row.userId)
        | _ => true)

/-- The condition on a step. -/
def CreateDesk.KeyApart (desk : CreateDesk) : CreateLabel → Bool
  | .start userId request => lookupApart fromisoformat desk.rows userId request
  | .insert i => desk.calls[i]?.all fun call =>
    match call.phase with
    | .ready row => keyOwn desk row
    | _ => true
  | .recover i => desk.calls[i]?.all fun call =>
    lookupApart fromisoformat desk.rows call.userId call.request
  | _ => true

/-- The steps of the desk. -/
def CreateDesk.Step (desk : CreateDesk) (label : CreateLabel) (after : CreateDesk) : Prop :=
  desk.next fromisoformat prepare label = some after

/-! ## What is found and what is drafted -/

variable {fromisoformat} {prepare}
variable {rows : List CreatedBooking} {userId i : ℕ} {key : String} {row : CreatedBooking}
variable {request : BookingRequest} {desk after : CreateDesk} {call : CreateCall}

theorem lookupKey_eq_some (h : lookupKey rows userId key = some (i, row)) :
    rows[i]? = some row ∧ row.idempotencyKey = some key ∧ row.userId = userId := by
  obtain ⟨j, hfind, hget⟩ := Option.bind_eq_some_iff.mp h
  obtain ⟨found, hfound, heq⟩ := Option.map_eq_some_iff.mp hget
  cases heq
  obtain ⟨hlt, hp, -⟩ := List.findIdx?_eq_some_iff_getElem.mp hfind
  rw [List.getElem?_eq_getElem hlt] at hfound
  cases hfound
  have hrow := of_decide_eq_true hp
  exact ⟨List.getElem?_eq_getElem hlt, hrow.1, hrow.2.1⟩

theorem lookupKey_isSome (hrow : row ∈ rows) (hkey : row.idempotencyKey = some key)
    (huser : row.userId = userId) (hlive : row.isDeleted = false) :
    ∃ found, lookupKey rows userId key = some found := by
  cases hfind : rows.findIdx? fun row =>
      row.idempotencyKey = some key ∧ row.userId = userId ∧ row.isDeleted = false with
  | none =>
    have hnone := List.findIdx?_eq_none_iff.mp hfind row hrow
    exact absurd ⟨hkey, huser, hlive⟩ (of_decide_eq_false hnone)
  | some i =>
    obtain ⟨hlt, -, -⟩ := List.findIdx?_eq_some_iff_getElem.mp hfind
    refine ⟨(i, rows[i]), ?_⟩
    rw [lookupKey, hfind]
    simp [hlt]

theorem draftBooking_eq_ok (h : draftBooking fromisoformat prepare userId request = .ok row) :
    row.userId = userId ∧ row.idempotencyKey = request.key ∧ row.isDeleted = false ∧
      SameTrip fromisoformat request row := by
  unfold draftBooking at h
  split at h
  · cases h
  · cases h
  · cases h
  · rename_i hpickup hdropoff
    split at h
    · cases h
    · cases h
      exact ⟨rfl, rfl, rfl, rfl, hpickup, hdropoff⟩

/-- An answer to a call that the committed bookings bear out. -/
def CreateCall.Answered (fromisoformat : String → Option DateTime)
    (prepare : Preparation) (rows : List CreatedBooking)
    (call : CreateCall) : CreateOutcome → Prop
  | .created id reference => ∃ row, rows[id]? = some row ∧ row.bookingReference = reference ∧
      draftBooking fromisoformat prepare call.userId call.request = .ok row
  | .replayed id reference => ∃ row key, rows[id]? = some row ∧ row.bookingReference = reference ∧
      call.request.key = some key ∧ row.idempotencyKey = some key ∧
      row.userId = call.userId ∧ SameTrip fromisoformat call.request row
  | .invalid error =>
    draftBooking fromisoformat prepare call.userId call.request = .error error ∨
    error = reusedKey ∧ ∃ row ∈ rows, ∃ key, call.request.key = some key ∧
      row.idempotencyKey = some key ∧ row.userId = call.userId ∧
      ¬ SameTrip fromisoformat call.request row
  | .unavailable => True

/-- What holds of a call in each phase. -/
def CreateCall.Sound (fromisoformat : String → Option DateTime)
    (prepare : Preparation) (rows : List CreatedBooking)
    (call : CreateCall) : Prop :=
  match call.phase with
  | .ready row => draftBooking fromisoformat prepare call.userId call.request = .ok row
  | .inserted row => draftBooking fromisoformat prepare call.userId call.request = .ok row ∧
      keyTaken rows row.idempotencyKey = false
  | .rejected => ∃ key, call.request.key = some key ∧ ∃ row ∈ rows,
      row.idempotencyKey = some key ∧ row.userId = call.userId
  | .finished outcome => call.Answered fromisoformat prepare rows outcome

/-- A call stays sound when another booking is committed, if that has no key it has flushed. -/
theorem CreateCall.Sound.append {new : CreatedBooking}
    (h : call.Sound fromisoformat prepare rows)
    (hother : ∀ row, call.phase = .inserted row → ∀ key, new.idempotencyKey = some key →
      row.idempotencyKey ≠ some key) :
    call.Sound fromisoformat prepare (rows ++ [new]) := by
  have hget : ∀ {id : ℕ} {row : CreatedBooking}, rows[id]? = some row →
      (rows ++ [new])[id]? = some row := by
    intro id row hrow
    rw [List.getElem?_append_left (List.getElem?_eq_some_iff.mp hrow).1]
    exact hrow
  unfold Sound at h ⊢
  cases hphase : call.phase with
  | ready row =>
    rw [hphase] at h
    exact h
  | inserted row =>
    rw [hphase] at h
    obtain ⟨hdraft, hfree⟩ := h
    refine ⟨hdraft, ?_⟩
    have hnew : keyTaken [new] row.idempotencyKey = false := by
      by_contra htaken
      obtain ⟨hsome, hany⟩ := Bool.and_eq_true_iff.mp (Bool.of_not_eq_false htaken)
      obtain ⟨key, hkey⟩ := Option.isSome_iff_exists.mp hsome
      obtain ⟨found, hmem, hfound⟩ := List.any_eq_true.mp hany
      rw [List.mem_singleton.mp hmem] at hfound
      exact hother row hphase key ((of_decide_eq_true hfound).trans hkey) hkey
    unfold keyTaken at hfree hnew ⊢
    rw [List.any_append, Bool.and_or_distrib_left, hfree, hnew]
    rfl
  | rejected =>
    rw [hphase] at h
    obtain ⟨key, hkey, row, hrow, hown⟩ := h
    exact ⟨key, hkey, row, List.mem_append_left _ hrow, hown⟩
  | finished outcome =>
    rw [hphase] at h
    cases outcome with
    | created id reference =>
      obtain ⟨row, hrow, hrest⟩ := h
      exact ⟨row, hget hrow, hrest⟩
    | replayed id reference =>
      obtain ⟨row, key, hrow, hrest⟩ := h
      exact ⟨row, key, hget hrow, hrest⟩
    | invalid error =>
      obtain hdraft | ⟨herror, row, hrow, hrest⟩ := h
      · exact .inl hdraft
      · exact .inr ⟨herror, row, List.mem_append_left _ hrow, hrest⟩
    | unavailable => exact trivial

/-- Keys are unique among the committed bookings and among the flushed ones, and every call
is sound. -/
structure CreateDesk.Sound (fromisoformat : String → Option DateTime)
    (prepare : Preparation) (desk : CreateDesk) : Prop where
  unique : ∀ (i j : ℕ) (row other : CreatedBooking) (key : String), desk.rows[i]? = some row →
    desk.rows[j]? = some other → row.idempotencyKey = some key →
    other.idempotencyKey = some key → i = j
  whole : ∀ row ∈ desk.rows, row.isDeleted = false ∧ row.tripFingerprint.isSome = true
  pending : ∀ (i j : ℕ) (call other : CreateCall) (row row' : CreatedBooking) (key : String),
    desk.calls[i]? = some call → desk.calls[j]? = some other → call.phase = .inserted row →
    other.phase = .inserted row' → row.idempotencyKey = some key →
    row'.idempotencyKey = some key → i = j
  calls : ∀ call ∈ desk.calls, call.Sound fromisoformat prepare desk.rows

/-! ## Every step keeps it -/

/-- The answer for the caller's booking of the key. -/
theorem replay_eq (hwhole : row.tripFingerprint.isSome = true)
    (hapart : tellsApart fromisoformat request row = true) :
    replay fromisoformat request (i, row) =
      if SameTrip fromisoformat request row then .replayed i row.bookingReference
      else .invalid reusedKey := by
  obtain ⟨stored, hstored⟩ := Option.isSome_iff_exists.mp hwhole
  have htells := of_decide_eq_true hapart
  unfold replay
  simp only [hstored]
  by_cases hfp : stored = tripFingerprint fromisoformat request
  · have hsame : SameTrip fromisoformat request row := htells (by rw [hstored, hfp])
    simp [hfp, hsame]
  · have hdiffers : ¬ SameTrip fromisoformat request row := by
      intro hsame
      exact hfp (Option.some.inj (hstored.symm.trans hsame.1))
    simp [hfp, hdiffers]

theorem answered_replay (hrow : rows[i]? = some row) (hkey : call.request.key = some key)
    (hrowKey : row.idempotencyKey = some key) (huser : row.userId = call.userId)
    (hwhole : row.tripFingerprint.isSome = true)
    (hapart : tellsApart fromisoformat call.request row = true) :
    call.Answered fromisoformat prepare rows (replay fromisoformat call.request (i, row)) := by
  rw [replay_eq hwhole hapart]
  split
  · rename_i hsame
    exact ⟨row, key, hrow, rfl, hkey, hrowKey, huser, hsame⟩
  · rename_i hdiffers
    exact .inr ⟨rfl, row, List.mem_of_getElem? hrow, key, hkey, hrowKey, huser, hdiffers⟩

namespace CreateDesk.Sound

/-- A lookup that finds something gets a sound answer. -/
theorem answered_lookup (h : desk.Sound fromisoformat prepare) {found : ℕ × CreatedBooking}
    (hfound : call.request.key.bind (lookupKey desk.rows call.userId) = some found)
    (hapart : lookupApart fromisoformat desk.rows call.userId call.request = true) :
    call.Answered fromisoformat prepare desk.rows
      (replay fromisoformat call.request found) := by
  obtain ⟨key, hkey, hlookup⟩ := Option.bind_eq_some_iff.mp hfound
  obtain ⟨id, row⟩ := found
  obtain ⟨hrow, hrowKey, huser⟩ := lookupKey_eq_some hlookup
  rw [lookupApart, hfound] at hapart
  exact answered_replay hrow hkey hrowKey huser (h.whole _ (List.mem_of_getElem? hrow)).2 hapart

theorem setPhase (h : desk.Sound fromisoformat prepare)
    {phase : CreatePhase} (hphase : ∀ row, phase ≠ .inserted row)
    (hsound : CreateCall.Sound fromisoformat prepare desk.rows { call with phase := phase }) :
    (desk.setPhase i call phase).Sound fromisoformat prepare where
  unique := h.unique
  whole := h.whole
  pending := by
    intro j k first second row row' key hj hk hfirst hsecond
    obtain ⟨-, rfl⟩ | ⟨-, hj⟩ := getElem?_set_cases hj
    · exact absurd hfirst (hphase row)
    · obtain ⟨-, rfl⟩ | ⟨-, hk⟩ := getElem?_set_cases hk
      · exact absurd hsecond (hphase row')
      · exact h.pending j k first second row row' key hj hk hfirst hsecond
  calls := by
    intro other hother
    obtain hold | rfl := List.mem_or_eq_of_mem_set hother
    · exact h.calls other hold
    · exact hsound

theorem start (h : desk.Sound fromisoformat prepare)
    (hapart : lookupApart fromisoformat desk.rows userId request = true) :
    CreateDesk.Sound fromisoformat prepare { desk with calls := desk.calls ++
      [⟨userId, request, startPhase fromisoformat prepare desk.rows userId request⟩] } := by
  generalize hnew : (⟨userId, request, startPhase fromisoformat prepare desk.rows userId request⟩ :
    CreateCall) = new
  have hsound : new.Sound fromisoformat prepare desk.rows ∧ ∀ row, new.phase ≠ .inserted row := by
    subst hnew
    simp only [CreateCall.Sound, startPhase]
    cases hfound : request.key.bind (lookupKey desk.rows userId) with
    | some found =>
      have hanswered : CreateCall.Answered fromisoformat prepare desk.rows
          ⟨userId, request, .rejected⟩ (replay fromisoformat request found) :=
        h.answered_lookup hfound hapart
      exact ⟨hanswered, fun row => by simp⟩
    | none =>
      cases hdraft : draftBooking fromisoformat prepare userId request with
      | error error => exact ⟨.inl hdraft, fun row => by simp⟩
      | ok row => exact ⟨rfl, fun row => by simp⟩
  refine ⟨h.unique, h.whole, ?_, ?_⟩
  · intro j k first second row row' key hj hk hfirst hsecond
    obtain hj | ⟨-, rfl⟩ := getElem?_append_cases hj
    · obtain hk | ⟨-, rfl⟩ := getElem?_append_cases hk
      · exact h.pending j k first second row row' key hj hk hfirst hsecond
      · exact absurd hsecond (hsound.2 row')
    · exact absurd hfirst (hsound.2 row)
  · intro other hother
    obtain hold | hlast := List.mem_append.mp hother
    · exact h.calls other hold
    · rw [List.mem_singleton.mp hlast]
      exact hsound.1

theorem insert (h : desk.Sound fromisoformat prepare) (hcall : desk.calls[i]? = some call)
    (hphase : call.phase = .ready row) (hfree : keyTaken desk.rows row.idempotencyKey = false)
    (hpending : keyPending desk.calls row.idempotencyKey = false) :
    (desk.setPhase i call (.inserted row)).Sound fromisoformat prepare := by
  have hready : draftBooking fromisoformat prepare call.userId call.request = .ok row := by
    have hsound := h.calls call (List.mem_of_getElem? hcall)
    rw [CreateCall.Sound, hphase] at hsound
    exact hsound
  -- a flushed row of the key would make the insert wait
  have hother : ∀ (other : CreateCall) (row' : CreatedBooking) (key : String),
      other ∈ desk.calls → other.phase = .inserted row' → row.idempotencyKey = some key →
      row'.idempotencyKey ≠ some key := by
    intro other row' key hmem hinserted hkey hkey'
    have hnone : (keyPending desk.calls row.idempotencyKey) = true := by
      rw [keyPending, hkey]
      refine Bool.and_eq_true_iff.mpr ⟨rfl, List.any_eq_true.mpr ⟨other, hmem, ?_⟩⟩
      rw [hinserted]
      exact decide_eq_true hkey'
    rw [hpending] at hnone
    cases hnone
  refine ⟨h.unique, h.whole, ?_, ?_⟩
  · intro j k first second row₁ row₂ key hj hk hfirst hsecond hkey₁ hkey₂
    obtain ⟨rfl, rfl⟩ | ⟨-, hold⟩ := getElem?_set_cases hj
    · obtain ⟨rfl, rfl⟩ | ⟨-, hold'⟩ := getElem?_set_cases hk
      · rfl
      · cases hfirst
        exact absurd hkey₂ (hother second row₂ key (List.mem_of_getElem? hold') hsecond hkey₁)
    · obtain ⟨rfl, rfl⟩ | ⟨-, hold'⟩ := getElem?_set_cases hk
      · cases hsecond
        exact absurd hkey₁ (hother first row₁ key (List.mem_of_getElem? hold) hfirst hkey₂)
      · exact h.pending j k first second row₁ row₂ key hold hold' hfirst hsecond hkey₁ hkey₂
  · intro other hmem
    obtain hold | rfl := List.mem_or_eq_of_mem_set hmem
    · exact h.calls other hold
    · exact ⟨hready, hfree⟩

theorem commit (h : desk.Sound fromisoformat prepare) (hcall : desk.calls[i]? = some call)
    (hphase : call.phase = .inserted row) :
    CreateDesk.Sound fromisoformat prepare
      { desk.setPhase i call (.finished (.created desk.rows.length row.bookingReference)) with
        rows := desk.rows ++ [row] } := by
  have hinserted := h.calls call (List.mem_of_getElem? hcall)
  rw [CreateCall.Sound, hphase] at hinserted
  obtain ⟨hdraft, hfree⟩ := hinserted
  obtain ⟨huser, hkey, hlive, hsame⟩ := draftBooking_eq_ok hdraft
  have hnew : ∀ (other : CreatedBooking) (key : String), other ∈ desk.rows →
      row.idempotencyKey = some key → other.idempotencyKey ≠ some key := by
    intro other key hmem hrowKey hother
    have htaken : keyTaken desk.rows row.idempotencyKey = true := by
      rw [keyTaken, hrowKey]
      exact Bool.and_eq_true_iff.mpr
        ⟨rfl, List.any_eq_true.mpr ⟨other, hmem, decide_eq_true hother⟩⟩
    rw [hfree] at htaken
    cases htaken
  refine ⟨?_, ?_, ?_, ?_⟩
  · intro j k first second key hj hk hfirst hsecond
    obtain hold | ⟨rfl, rfl⟩ := getElem?_append_cases hj
    · obtain hold' | ⟨rfl, rfl⟩ := getElem?_append_cases hk
      · exact h.unique j k first second key hold hold' hfirst hsecond
      · exact absurd hfirst (hnew first key (List.mem_of_getElem? hold) hsecond)
    · obtain hold' | ⟨rfl, rfl⟩ := getElem?_append_cases hk
      · exact absurd hsecond (hnew second key (List.mem_of_getElem? hold') hfirst)
      · rfl
  · intro other hmem
    obtain hold | hlast := List.mem_append.mp hmem
    · exact h.whole other hold
    · rw [List.mem_singleton.mp hlast]
      exact ⟨hlive, by rw [hsame.1]; rfl⟩
  · intro j k first second row₁ row₂ key hj hk hfirst hsecond
    obtain ⟨-, rfl⟩ | ⟨-, hj⟩ := getElem?_set_cases hj
    · cases hfirst
    · obtain ⟨-, rfl⟩ | ⟨-, hk⟩ := getElem?_set_cases hk
      · cases hsecond
      · exact h.pending j k first second row₁ row₂ key hj hk hfirst hsecond
  · intro other hmem
    obtain ⟨j, hj⟩ := List.mem_iff_getElem?.mp hmem
    obtain ⟨rfl, rfl⟩ | ⟨hne, hj⟩ := getElem?_set_cases hj
    · exact ⟨row, by simp, rfl, hdraft⟩
    · have hold := h.calls other (List.mem_of_getElem? hj)
      refine hold.append fun row' hphase' key hkey hkey' => ?_
      exact hne (h.pending j i other call row' row key hj hcall hphase' hphase hkey' hkey)

theorem step {label : CreateLabel} (h : desk.Sound fromisoformat prepare)
    (hapart : desk.KeyApart fromisoformat label = true)
    (hstep : desk.Step fromisoformat prepare label after) :
    after.Sound fromisoformat prepare := by
  cases label with
  | start userId request =>
    cases hstep
    exact h.start hapart
  | insert i =>
    obtain ⟨call, hcall, hstep⟩ := Option.bind_eq_some_iff.mp hstep
    split at hstep
    · rename_i row hphase
      split at hstep
      · rename_i htaken
        cases hstep
        have hdraft := h.calls call (List.mem_of_getElem? hcall)
        rw [CreateCall.Sound, hphase] at hdraft
        obtain ⟨huser, hkey, -, -⟩ := draftBooking_eq_ok hdraft
        obtain ⟨hsome, hany⟩ := Bool.and_eq_true_iff.mp htaken
        obtain ⟨key, hrowKey⟩ := Option.isSome_iff_exists.mp hsome
        obtain ⟨other, hmem, hother⟩ := List.any_eq_true.mp hany
        have hown : keyOwn desk row = true := by
          rw [CreateDesk.KeyApart, hcall] at hapart
          simpa [hphase] using hapart
        have hsame : other.userId = row.userId := by
          rw [keyOwn, hrowKey] at hown
          have hrows := (Bool.and_eq_true_iff.mp hown).1
          have hrow := of_decide_eq_true (List.all_eq_true.mp hrows other hmem)
          exact hrow ((of_decide_eq_true hother).trans hrowKey)
        refine h.setPhase (fun row => by simp) ⟨key, hkey ▸ hrowKey, other, hmem, ?_, ?_⟩
        · exact (of_decide_eq_true hother).trans hrowKey
        · exact hsame.trans huser
      · split at hstep
        · cases hstep
        · rename_i hfree hpending
          cases hstep
          exact h.insert hcall hphase (by simpa using hfree) (by simpa using hpending)
    · cases hstep
  | commit i =>
    obtain ⟨call, hcall, hstep⟩ := Option.bind_eq_some_iff.mp hstep
    split at hstep
    · rename_i row hphase
      cases hstep
      exact h.commit hcall hphase
    · cases hstep
  | abort i =>
    obtain ⟨call, hcall, hstep⟩ := Option.bind_eq_some_iff.mp hstep
    split at hstep
    · cases hstep
      exact h.setPhase (fun row => by simp) trivial
    · cases hstep
      exact h.setPhase (fun row => by simp) trivial
    · cases hstep
  | recover i =>
    obtain ⟨call, hcall, hstep⟩ := Option.bind_eq_some_iff.mp hstep
    split at hstep
    · cases hstep
      have hlookup : lookupApart fromisoformat desk.rows call.userId call.request = true := by
        rw [CreateDesk.KeyApart, hcall] at hapart
        exact hapart
      unfold recoverPhase
      cases hfound : call.request.key.bind (lookupKey desk.rows call.userId) with
      | some found =>
        exact h.setPhase (fun row => by simp) (h.answered_lookup hfound hlookup)
      | none => exact h.setPhase (fun row => by simp) trivial
    · cases hstep

theorem lookupKey_eq (h : desk.Sound fromisoformat prepare) (hrow : desk.rows[i]? = some row)
    (hkey : row.idempotencyKey = some key) :
    lookupKey desk.rows row.userId key = some (i, row) := by
  have hmem := List.mem_of_getElem? hrow
  obtain ⟨⟨j, other⟩, hfound⟩ := lookupKey_isSome hmem hkey rfl (h.whole row hmem).1
  obtain ⟨hother, hotherKey, -⟩ := lookupKey_eq_some hfound
  have hij := h.unique i j row other key hrow hother hkey hotherKey
  subst hij
  rw [hrow] at hother
  cases hother
  exact hfound

/-- The call that finds the caller's booking answers by its trip. -/
theorem replay_lookup (h : desk.Sound fromisoformat prepare) (hrow : desk.rows[i]? = some row)
    (hrowKey : row.idempotencyKey = some key) (huser : row.userId = userId)
    (hkey : request.key = some key)
    (hapart : lookupApart fromisoformat desk.rows userId request = true) :
    request.key.bind (lookupKey desk.rows userId) = some (i, row) ∧
      replay fromisoformat request (i, row) =
        if SameTrip fromisoformat request row then .replayed i row.bookingReference
        else .invalid reusedKey := by
  subst huser
  have hlookup : request.key.bind (lookupKey desk.rows row.userId) = some (i, row) := by
    rw [hkey]
    exact h.lookupKey_eq hrow hrowKey
  rw [lookupApart, hlookup] at hapart
  exact ⟨hlookup, replay_eq (h.whole row (List.mem_of_getElem? hrow)).2 hapart⟩

end CreateDesk.Sound

theorem sound_empty : CreateDesk.Sound fromisoformat prepare {} :=
  ⟨fun i j row other key h => by simp at h, fun row h => absurd h List.not_mem_nil,
    fun i j call other row row' key h => by simp at h, fun call h => absurd h List.not_mem_nil⟩

variable (fromisoformat) (prepare)

/-- In runs in which no insert meets another user's key and no lookup meets a trip that
differs by coordinates alone: a user has one booking for a key; every answer is borne out by
the bookings; whoever begins after the booking of his key is there reads it, or is told that
the trip differs; and so does whoever lost the race for it. -/
theorem booking_once {labels : List CreateLabel} {desk : CreateDesk}
    (run : Run (Guarded (fun desk label => desk.KeyApart fromisoformat label = true)
      (CreateDesk.Step fromisoformat prepare)) {} labels desk) :
    (∀ (i j : ℕ) (row other : CreatedBooking) (key : String), desk.rows[i]? = some row →
      desk.rows[j]? = some other → row.userId = other.userId → row.idempotencyKey = some key →
      other.idempotencyKey = some key → i = j) ∧
    (∀ call ∈ desk.calls, ∀ outcome, call.phase = .finished outcome →
      call.Answered fromisoformat prepare desk.rows outcome) ∧
    (∀ (request : BookingRequest) (key : String) (i : ℕ) (row : CreatedBooking)
        (after : CreateDesk), request.key = some key → desk.rows[i]? = some row →
      row.idempotencyKey = some key →
      desk.KeyApart fromisoformat (.start row.userId request) = true →
      desk.Step fromisoformat prepare (.start row.userId request) after →
      after = { desk with calls := desk.calls ++ [⟨row.userId, request, .finished
        (if SameTrip fromisoformat request row then .replayed i row.bookingReference
          else .invalid reusedKey)⟩] }) ∧
    ∀ (i : ℕ) (call : CreateCall) (after : CreateDesk), desk.calls[i]? = some call →
      desk.KeyApart fromisoformat (.recover i) = true →
      desk.Step fromisoformat prepare (.recover i) after →
      ∃ (key : String) (id : ℕ) (row : CreatedBooking), call.request.key = some key ∧
        desk.rows[id]? = some row ∧ row.idempotencyKey = some key ∧ row.userId = call.userId ∧
        after = desk.setPhase i call (.finished
          (if SameTrip fromisoformat call.request row then .replayed id row.bookingReference
            else .invalid reusedKey)) := by
  have hsound : desk.Sound fromisoformat prepare := by
    refine run.invariant (CreateDesk.Sound fromisoformat prepare) ?_ sound_empty
    rintro before label after h ⟨hapart, hstep⟩
    exact h.step hapart hstep
  refine ⟨?_, ?_, ?_, ?_⟩
  · intro i j row other key hi hj _ hrow hother
    exact hsound.unique i j row other key hi hj hrow hother
  · intro call hcall outcome hphase
    have hcallSound := hsound.calls call hcall
    rw [CreateCall.Sound, hphase] at hcallSound
    exact hcallSound
  · intro request key i row after hkey hrow hrowKey hapart hstep
    obtain ⟨hlookup, hreplay⟩ := hsound.replay_lookup hrow hrowKey rfl hkey hapart
    cases hstep
    rw [startPhase, hlookup, ← hreplay]
  · intro i call after hcall hapart hstep
    obtain ⟨found, hfound, hstep⟩ := Option.bind_eq_some_iff.mp hstep
    rw [hcall] at hfound
    cases hfound
    split at hstep
    · rename_i hphase
      cases hstep
      have hrejected := hsound.calls call (List.mem_of_getElem? hcall)
      rw [CreateCall.Sound, hphase] at hrejected
      obtain ⟨key, hkey, row, hmem, hrowKey, huser⟩ := hrejected
      obtain ⟨id, hrow⟩ := List.mem_iff_getElem?.mp hmem
      have hlookup : lookupApart fromisoformat desk.rows call.userId call.request = true := by
        rw [CreateDesk.KeyApart, hcall] at hapart
        exact hapart
      obtain ⟨hlookup, hreplay⟩ := hsound.replay_lookup hrow hrowKey huser hkey hlookup
      refine ⟨key, id, row, hkey, hrow, hrowKey, huser, ?_⟩
      rw [recoverPhase, hlookup, ← hreplay]
    · cases hstep

/-! ## Two users and two places -/

/-- A request with a key, picked up at the latitude. -/
def keyedRequest (latitude : ℚ) : BookingRequest where
  idempotencyKey := some "k1"
  bookingMode := some "instant"
  pickup := some ⟨latitude, 32⟩
  dropoff := some ⟨1, 33⟩

/-- A race of two calls and a later replay. -/
def raceLabels : List CreateLabel :=
  [.start 1 (keyedRequest 0), .start 1 (keyedRequest 0), .insert 0, .commit 0, .insert 1,
    .recover 1, .start 1 (keyedRequest 0)]

/-- The steps that meet the condition. -/
def CreateDesk.apartNext (desk : CreateDesk) (label : CreateLabel) : Option CreateDesk :=
  if desk.KeyApart fromisoformat label then desk.next fromisoformat prepare label else none

theorem run_of_apartNext {labels : List CreateLabel} {start finish : CreateDesk}
    (h : exec (CreateDesk.apartNext fromisoformat prepare) start labels = some finish) :
    Run (Guarded (fun desk label => desk.KeyApart fromisoformat label = true)
      (CreateDesk.Step fromisoformat prepare)) start labels finish := by
  refine Run.of_exec (fun desk label after hnext => ?_) h
  unfold CreateDesk.apartNext at hnext
  split at hnext
  · rename_i hapart
    exact ⟨hapart, hnext⟩
  · cases hnext

end Calls

/-- Good data, and a reference. -/
def goodData : Preparation := ⟨fun _ => .ok (), fun _ _ => .ok "TR1"⟩

/-- The bookings after the race. -/
def raceDesk : CreateDesk :=
  (exec (CreateDesk.apartNext (fun _ => none) goodData) {} raceLabels).getD {}

theorem booking_once_race :
    raceDesk.rows.length = 1 ∧ ∀ call ∈ raceDesk.calls, ∀ outcome,
      call.phase = .finished outcome →
        call.Answered (fun _ => none) goodData raceDesk.rows outcome := by
  refine ⟨by decide +kernel, ?_⟩
  have hsome : (exec (CreateDesk.apartNext (fun _ => none) goodData) {}
      raceLabels).isSome = true := by decide +kernel
  obtain ⟨desk, hdesk⟩ := Option.isSome_iff_exists.mp hsome
  have hrace : raceDesk = desk := by
    rw [raceDesk, hdesk]
    rfl
  rw [hrace]
  exact (booking_once (fun _ => none) goodData (run_of_apartNext _ _ hdesk)).2.1

/-- A second user with the key of the first is refused without having a booking, and the
first one gets his booking back for a pickup five degrees away. -/
theorem key_meets_other_user :
    ∃ desk, exec (CreateDesk.next (fun _ => none) goodData) {}
        [.start 1 (keyedRequest 0), .insert 0, .commit 0, .start 2 (keyedRequest 0), .insert 1,
          .recover 1, .start 1 (keyedRequest 5)] = some desk ∧
      desk.calls.map CreateCall.phase = [.finished (.created 0 "TR1"), .finished .unavailable,
        .finished (.replayed 0 "TR1")] ∧
      desk.rows.map CreatedBooking.userId = [1] ∧
      desk.rows.map CreatedBooking.pickup = [⟨0, 32⟩] := by
  refine ⟨_, Option.some_get (by decide +kernel) |>.symm, ?_, ?_, ?_⟩
  · decide +kernel
  · decide +kernel
  · decide +kernel

end Afcon360.Transport
