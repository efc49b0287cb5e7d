import Afcon360.Foundation.Guard
import Afcon360.Foundation.Floating

/-!
# Location snapshots

The builders of the canonical snapshot of a place. A snapshot exists only for a checked pair of
coordinates; everything else describes how the place was chosen and what it looks like. The
general builder takes whatever a request carries, and two special ones start from a geocode
result and from coordinates.

A payload is decoded JSON. What Python reads in a text and how it writes a value is given by the
helpers.
-/

namespace Afcon360.Transport.Location

open Foundation

/-! ## Values -/

/-- A timestamp as the snapshot writes it. -/
structure Moment where
  aware : Bool
  isoformat : String
deriving DecidableEq

inductive Value
  | none
  | bool (value : Bool)
  | int (value : ℤ)
  | float (value : Number)
  | str (value : String)
  | moment (value : Moment)
  | other (truthy : Bool)
deriving DecidableEq

structure Helpers where
  /-- `float(text)`; `none` where it raises. -/
  number : String → Option Number
  /-- The text of a float has digits and at most one point, so no exponent. -/
  plain : ℚ → Bool
  /-- `str(value)` -/
  text : Value → String
  /-- `repr(text)` -/
  quoted : String → String

namespace Value

def truthy : Value → Bool
  | none => false
  | bool value => value
  | int value => value ≠ 0
  | float value => value ≠ .finite 0
  | str value => value ≠ ""
  | moment _ => true
  | other truthy => truthy

/-- `float(value)` -/
def toFloat (helpers : Helpers) : Value → Except FloatError Number
  | bool value => .ok (.finite (if value then 1 else 0))
  | int value => floatOfInt value
  | float value => .ok value
  | str value =>
    match helpers.number value with
    | some number => .ok number
    | Option.none => .error .notNumeric
  | none | moment _ | other _ => .error .notNumeric

/-- `mapping.get(key)` -/
def get (items : List (String × Value)) (key : String) : Value := (items.lookup key).getD none

/-- The stripped text of a string that is not blank. -/
def text? : Value → Option String
  | str value => if strip value ≠ "" then some (strip value) else Option.none
  | _ => Option.none

end Value

/-- What a request says about a place. -/
inductive Payload
  | none
  | mapping (items : List (String × Value))
  | text (value : String)
  | other
deriving DecidableEq

/-- The items of a mapping; nothing else has items. -/
def Payload.items : Payload → List (String × Value)
  | .mapping items => items
  | _ => []

structure GeocodeResult where
  latitude : Value := .none
  longitude : Value := .none
  displayName : Value := .str ""
  raw : List (String × Value) := []
  provider : String := "unresolved"
  resolved : Bool := false
deriving DecidableEq

inductive Source
  | gps | map | search | curated
deriving DecidableEq, Repr

namespace Source

def value : Source → String
  | .gps => "gps"
  | .map => "map"
  | .search => "search"
  | .curated => "curated"

/-- `SOURCE_METHOD_PAIRS` -/
def method : Source → String
  | .gps => "browser_geolocation"
  | .map => "map_pin"
  | .search => "forward_geocode"
  | .curated => "registry_lookup"

/-- `SOURCE_DEFAULT_LABELS` -/
def defaultLabel : Source → String
  | .gps => "Current location"
  | .map => "Pinned location"
  | .search => "Selected place"
  | .curated => "Registry place"

/-- `DIRECT_SOURCES` -/
def direct : Source → Bool
  | .gps | .map => true
  | .search | .curated => false

def all : List Source := [.gps, .map, .search, .curated]

def ofText? (text : String) : Option Source := all.find? (·.value = text)

end Source

inductive IdentityStatus
  | none | unverified | enriched | verified
deriving DecidableEq, Repr

structure Provenance where
  authority : String
  reference : Option String
deriving DecidableEq, Repr

structure Snapshot where
  latitude : ℚ
  longitude : ℚ
  source : Source
  resolutionMethod : String
  provenance : Option Provenance
  label : String
  displayName : Option String
  identityStatus : IdentityStatus
  area : Option String
  accuracyM : Option ℚ
  confidence : Option ℚ
  observedAt : Option String
  resolvedAt : Moment
deriving DecidableEq

inductive LocationError
  | payloadRequired
  | halfCoordinates
  | noCoordinates
  | invalidCoordinates
  | numericCoordinates
  | finiteCoordinates
  | overflow
  | conflict
  | halfSource
  | unsupportedSource (source : String)
  | unsupportedMethod (method : String)
  | wrongPair (source : Source) (method : String)
  | directSource (source : Source)
  | unresolved (source : Source)
  | notCurated (provider : Option String)
  | noProvider
  | contradicts (given inferred : Source) (evidence : String)
  | typedText
  | resolvedRequired
  | blankLabel
  | accuracy
  | confidence
  | notMoment
  | naive
deriving DecidableEq, Repr

/-- Coordinates are refused with their field. -/
def LocationError.field : LocationError → Option String
  | .invalidCoordinates | .numericCoordinates | .finiteCoordinates => some "coordinates"
  | _ => none

def LocationError.message (helpers : Helpers) : LocationError → String
  | .payloadRequired => "location_payload is required"
  | .halfCoordinates => "location_payload must include both latitude and longitude"
  | .noCoordinates => "canonical location requires resolved coordinates"
  | .invalidCoordinates => "Invalid coordinates: latitude must be within [-90, 90] and " ++
      "longitude within [-180, 180]"
  | .numericCoordinates => "coordinates must be numeric"
  | .finiteCoordinates => "coordinates must be finite"
  | .overflow => "int too large to convert to float"
  | .conflict => "location coordinates conflict with the resolved GeocodeResult; refusing to " ++
      "combine coordinate truth from one source with identity/provenance from another"
  | .halfSource => "source and resolution_method must be supplied together"
  | .unsupportedSource source => "unsupported location source: " ++ helpers.quoted source
  | .unsupportedMethod method =>
    "unsupported location resolution method: " ++ helpers.quoted method
  | .wrongPair source method =>
    "invalid source/method pairing: " ++ helpers.quoted source.value ++ " requires " ++
      helpers.quoted source.method ++ ", got " ++ helpers.quoted method
  | .directSource source =>
    "source " ++ helpers.quoted source.value ++ " requires a resolved GeocodeResult; only " ++
      "'gps' and 'map' are permitted for direct coordinates"
  | .unresolved source =>
    "source " ++ helpers.quoted source.value ++ " requires a resolved GeocodeResult whose " ++
      "provider justifies the claim"
  | .notCurated provider => "source 'curated' requires a curated-registry provider; got " ++
      (provider.map helpers.quoted).getD "None"
  | .noProvider =>
    "source 'search' requires a provider identity on the resolved GeocodeResult"
  | .contradicts given inferred evidence =>
    "explicit source/method (" ++ helpers.quoted given.value ++ ", " ++
      helpers.quoted given.method ++ ") contradicts the " ++ evidence ++ " evidence (" ++
      helpers.quoted inferred.value ++ ", " ++ helpers.quoted inferred.method ++ ")"
  | .typedText => "unresolved typed text is not a canonical location until explicitly " ++
      "selected or resolved"
  | .resolvedRequired => "a resolved GeocodeResult is required"
  | .blankLabel => "label must be a non-empty string"
  | .accuracy => "accuracy_m must be positive and finite when present"
  | .confidence => "confidence must be finite and between 0 and 1 when present"
  | .notMoment => "observed_at must be a datetime or None"
  | .naive => "observed_at must be timezone-aware"

/-! ## Evidence -/

/-- `_provider_name` -/
def GeocodeResult.providerName (result : GeocodeResult) : Option String :=
  (Value.str result.provider).text?

/-- `_is_curated_provider`: exactly one authority is trusted. -/
def GeocodeResult.curated (result : GeocodeResult) : Bool :=
  result.providerName.any fun provider => (strip provider).toLower = "curated-registry"

/-- The result when it is resolved. -/
def resolvedResult (result : Option GeocodeResult) : Option GeocodeResult :=
  result.filter GeocodeResult.resolved

def validateSourceMethod (source method : String) : Except LocationError Source :=
  match Source.ofText? source with
  | none => .error (.unsupportedSource source)
  | some found =>
    if method ∉ Source.all.map Source.method then .error (.unsupportedMethod method)
    else if found.method ≠ method then .error (.wrongPair found method)
    else .ok found

/-- `_assert_direct_source_allowed` -/
def assertDirect (source : Source) : Except LocationError Unit :=
  require (source.direct = true) (.directSource source)

/-- `_assert_provider_source_matches` -/
def assertProvider (source : Source) (result : Option GeocodeResult) : Except LocationError Unit :=
  if source.direct then .ok ()
  else
    match resolvedResult result with
    | none => .error (.unresolved source)
    | some found =>
      if source = .curated then require (found.curated = true) (.notCurated found.providerName)
      else require (found.providerName ≠ none) .noProvider

/-! ## Coordinates -/

/-- The number lies between the bound and its negative, and its text is plain. -/
def isCoordinate (helpers : Helpers) (bound : ℚ) : Number → Bool
  | .finite value => -bound ≤ value && value ≤ bound && helpers.plain value
  | _ => false

def Value.isBool : Value → Bool
  | .bool _ => true
  | _ => false

/-- `TransportValidators.validate_coordinates` -/
def validCoordinates (helpers : Helpers) (latitude longitude : Value) :
    Except LocationError Bool :=
  if latitude.isBool || longitude.isBool then .ok false
  else
    match latitude.toFloat helpers, longitude.toFloat helpers with
    | .error .overflow, _ => .error .overflow
    | .error .notNumeric, _ => .ok false
    | _, .error .overflow => .error .overflow
    | _, .error .notNumeric => .ok false
    | .ok lat, .ok lng => .ok (isCoordinate helpers 90 lat && isCoordinate helpers 180 lng)

def validateCoordinates (helpers : Helpers) (latitude longitude : Value) :
    Except LocationError Unit := do
  let valid ← validCoordinates helpers latitude longitude
  require (valid = true) .invalidCoordinates

/-- `_to_float_pair`: the values are checked before and after they are read. -/
def toFloatPair (helpers : Helpers) (latitude longitude : Value) :
    Except LocationError (ℚ × ℚ) := do
  validateCoordinates helpers latitude longitude
  match latitude.toFloat helpers, longitude.toFloat helpers with
  | .ok (.finite lat), .ok (.finite lng) =>
    validateCoordinates helpers (.float (.finite lat)) (.float (.finite lng))
    .ok (lat, lng)
  | .ok _, .ok _ => .error .finiteCoordinates
  | _, _ => .error .numericCoordinates

/-! ## Fields -/

/-- `_resolve_label` -/
def resolveLabel (address : Option String) (payload : Payload) (displayName : Option String)
    (source : Source) : String :=
  let written := match payload with
    | .mapping items =>
      ["address", "name", "label"].findSome? fun key => (Value.get items key).text?
    | .text value => (Value.str value).text?
    | _ => none
  ((address.bind fun text => (Value.str text).text?) <|> written <|> displayName).getD
    source.defaultLabel

/-- `str(value)`; a text is its own. -/
def Value.shown (helpers : Helpers) : Value → String
  | .str value => value
  | value => helpers.text value

/-- `_build_provenance_from_geocode_result` -/
def buildProvenance (helpers : Helpers) (result : Option GeocodeResult) : Option Provenance :=
  (resolvedResult result).bind fun found =>
    (found.providerName.filter (· ≠ "unresolved")).map fun authority =>
      let osmType := Value.get found.raw "osm_type"
      let osmId := Value.get found.raw "osm_id"
      { authority
        reference :=
          if osmType.truthy && osmId.truthy then
            some (osmType.shown helpers ++ "/" ++ osmId.shown helpers)
          else none }

/-- `_infer_identity_status` -/
def inferIdentityStatus (result : Option GeocodeResult) (displayName : Option String) :
    IdentityStatus :=
  match resolvedResult result with
  | some found => if found.curated then .verified else .unverified
  | none => if displayName.isSome then .unverified else .none

/-- The area that the raw data of a result gives. -/
def GeocodeResult.area (result : GeocodeResult) : Option String :=
  ["city", "locality", "district", "county", "state"].findSome? fun key =>
    (Value.get result.raw key).text?

/-- `_extract_area_from_geocode_result`: unlike the other parts of a result it is taken whether
or not the result is resolved. -/
def extractArea (result : Option GeocodeResult) : Option String := result.bind GeocodeResult.area

/-- `_finite_float`: what is out of the bounds is unknown. -/
def finiteFloat (helpers : Helpers) (minimum maximum : Option ℚ) (strictlyPositive : Bool)
    (value : Value) : Except LocationError (Option ℚ) :=
  if value.isBool then .ok none
  else
    match value.toFloat helpers with
    | .error .overflow => .error .overflow
    | .ok (.finite number) =>
      .ok (if minimum.any (number < ·) || maximum.any (· < number) ||
          (strictlyPositive && decide (number ≤ 0)) then none else some number)
    | _ => .ok none

/-- `_extract_positive_accuracy` -/
def positiveAccuracy (helpers : Helpers) : Value → Except LocationError (Option ℚ) :=
  finiteFloat helpers (some 0) none true

def confidenceOf (helpers : Helpers) : Value → Except LocationError (Option ℚ) :=
  finiteFloat helpers (some 0) (some 1) false

/-- `_require_aware` -/
def requireAware : Value → Except LocationError (Option Moment)
  | .none => .ok none
  | .moment value => if value.aware then .ok (some value) else .error .naive
  | _ => .error .notMoment

/-- `_assemble_snapshot`; the status and the keys are given by the type. -/
def assembleSnapshot (snapshot : Snapshot) : Except LocationError Snapshot := do
  require (strip snapshot.label ≠ "") .blankLabel
  require (snapshot.accuracyM.all (0 < ·) = true) .accuracy
  require (snapshot.confidence.all (fun number => 0 ≤ number && number ≤ 1) = true) .confidence
  .ok { snapshot with
    label := strip snapshot.label
    displayName := snapshot.displayName.bind fun text => (Value.str text).text?
    area := snapshot.area.bind fun text => (Value.str text).text? }

/-! ## The general builder -/

/-- The coordinates of the payload, which a resolved result may not contradict, or those of the
result. -/
def chooseCoordinates (helpers : Helpers) (payload : Payload) (result : Option GeocodeResult) :
    Except LocationError (ℚ × ℚ) :=
  let latitude := Value.get payload.items "latitude"
  let longitude := Value.get payload.items "longitude"
  if latitude ≠ .none ∧ longitude ≠ .none then do
    let pair ← toFloatPair helpers latitude longitude
    match resolvedResult result with
    | none => .ok pair
    | some found => do
      let other ← toFloatPair helpers found.latitude found.longitude
      require (pair = other) .conflict
      .ok pair
  else if latitude ≠ .none ∨ longitude ≠ .none then .error .halfCoordinates
  else
    match resolvedResult result with
    | none => .error .noCoordinates
    | some found => toFloatPair helpers found.latitude found.longitude

/-- The source that a resolved result stands for. -/
def GeocodeResult.source (result : GeocodeResult) : Source :=
  if result.curated then .curated else .search

/-- `_infer_source_and_method` -/
def inferSource (helpers : Helpers) (payload : Payload) (result : Option GeocodeResult) :
    Except LocationError Source :=
  match resolvedResult result, payload with
  | some found, _ => .ok found.source
  | none, .mapping items =>
    let source := Value.get items "source"
    let method := Value.get items "resolution_method"
    if source = .none ∧ method = .none then .ok .map
    else if source = .none ∨ method = .none then .error .halfSource
    else do
      let found ← validateSourceMethod (strip (source.shown helpers)) (strip (method.shown helpers))
      assertDirect found
      .ok found
  | none, _ => .error .typedText

/-- The source that is asked for, or the inferred one. -/
def chooseSource (helpers : Helpers) (payload : Payload) (result : Option GeocodeResult)
    (source method : Option String) : Except LocationError Source :=
  match source, method with
  | none, none => inferSource helpers payload result
  | some source, some method => do
    let given ← validateSourceMethod (strip source) (strip method)
    match resolvedResult result with
    | none => .ok given
    | some found => do
      require (given = found.source) (.contradicts given found.source "resolved GeocodeResult")
      .ok given
  | _, _ => .error .halfSource

/-- The name that the provider gives, or without a resolved result that of the payload. -/
def shownName (payload : Payload) (result : Option GeocodeResult) : Option String :=
  match resolvedResult result with
  | some found => found.displayName.text?
  | none => (Value.get payload.items "display_name").text?

def resultAccuracy (helpers : Helpers) (result : Option GeocodeResult) :
    Except LocationError (Option ℚ) :=
  match resolvedResult result with
  | some found => positiveAccuracy helpers (Value.get found.raw "accuracy")
  | none => .ok none

/-- `_extract_confidence_from_geocode_result`, which only a resolved result is given to. -/
def resultConfidence (helpers : Helpers) (result : Option GeocodeResult) :
    Except LocationError (Option ℚ) :=
  match resolvedResult result with
  | some found => confidenceOf helpers (Value.get found.raw "confidence")
  | none => .ok none

/-- What is not known is read. -/
def orRead (known : Option ℚ) (read : Except LocationError (Option ℚ)) :
    Except LocationError (Option ℚ) :=
  match known with
  | some number => .ok (some number)
  | none => read

/-- `build_canonical_location_snapshot` -/
def buildCanonicalLocationSnapshot (helpers : Helpers) (now : Moment) (payload : Payload)
    (result : Option GeocodeResult) (address : Option String) (observedAt : Value)
    (source method : Option String) : Except LocationError Snapshot := do
  require (payload ≠ .none) .payloadRequired
  let (latitude, longitude) ← chooseCoordinates helpers payload result
  let finalSource ← chooseSource helpers payload result source method
  assertProvider finalSource result
  let displayName := shownName payload result
  let accuracy ← resultAccuracy helpers result
  let confidence ← resultConfidence helpers result
  let accuracy ← orRead accuracy (positiveAccuracy helpers (Value.get payload.items "accuracy_m"))
  let confidence ← orRead confidence (confidenceOf helpers (Value.get payload.items "confidence"))
  let observed ← requireAware
    (if observedAt ≠ .none then observedAt else Value.get payload.items "observed_at")
  assembleSnapshot {
    latitude := latitude
    longitude := longitude
    source := finalSource
    resolutionMethod := finalSource.method
    provenance := buildProvenance helpers result
    label := resolveLabel address payload displayName finalSource
    displayName := displayName
    identityStatus := inferIdentityStatus result displayName
    area := extractArea result
    accuracyM := accuracy
    confidence := confidence
    observedAt := observed.map Moment.isoformat
    resolvedAt := now }

/-! ## The special builders -/

/-- The source of the result, which the one that is asked for may not contradict. -/
def GeocodeResult.confirmSource (result : GeocodeResult) (source method : Option String) :
    Except LocationError Source :=
  match source, method with
  | none, none => .ok result.source
  | some source, some method => do
    let given ← validateSourceMethod (strip source) (strip method)
    require (given = result.source) (.contradicts given result.source "GeocodeResult provider")
    .ok given
  | _, _ => .error .halfSource

/-- `build_canonical_snapshot_from_geocode_result` -/
def buildFromGeocodeResult (helpers : Helpers) (now : Moment) (result : Option GeocodeResult)
    (address : Option String) (observedAt : Value) (source method : Option String) :
    Except LocationError Snapshot :=
  match resolvedResult result with
  | none => .error .resolvedRequired
  | some found => do
    let finalSource ← found.confirmSource source method
    assertProvider finalSource result
    let (latitude, longitude) ← toFloatPair helpers found.latitude found.longitude
    let displayName := found.displayName.text?
    let accuracy ← positiveAccuracy helpers (Value.get found.raw "accuracy")
    let confidence ← confidenceOf helpers (Value.get found.raw "confidence")
    let observed ← requireAware observedAt
    assembleSnapshot {
      latitude := latitude
      longitude := longitude
      source := finalSource
      resolutionMethod := finalSource.method
      provenance := buildProvenance helpers result
      label := resolveLabel address .none displayName finalSource
      displayName := displayName
      identityStatus := inferIdentityStatus result displayName
      area := extractArea result
      accuracyM := accuracy
      confidence := confidence
      observedAt := observed.map Moment.isoformat
      resolvedAt := now }

/-- `build_canonical_snapshot_from_coordinates` -/
def buildFromCoordinates (helpers : Helpers) (now : Moment) (latitude longitude : Value)
    (source method : String) (address : Option String) (observedAt accuracyM : Value) :
    Except LocationError Snapshot := do
  let finalSource ← validateSourceMethod (strip source) (strip method)
  assertDirect finalSource
  let (latitude, longitude) ← toFloatPair helpers latitude longitude
  let observed ← requireAware observedAt
  let accuracy ← positiveAccuracy helpers accuracyM
  assembleSnapshot {
    latitude := latitude
    longitude := longitude
    source := finalSource
    resolutionMethod := finalSource.method
    provenance := none
    label := resolveLabel address .none none finalSource
    displayName := none
    identityStatus := .none
    area := none
    accuracyM := accuracy
    confidence := none
    observedAt := observed.map Moment.isoformat
    resolvedAt := now }

/-! ## What a snapshot says -/

/-- The value is this number: an integer or a float is it, a text is read as it. -/
def Value.Is (helpers : Helpers) (x : ℚ) : Value → Prop
  | .int value => x = value
  | .float value => value = .finite x
  | .str value => helpers.number value = some (.finite x)
  | _ => False

/-- The provider of the result justifies the source. -/
def GeocodeResult.Justifies (result : GeocodeResult) (source : Source) : Prop :=
  if source = .curated then result.curated = true
  else result.providerName ≠ none ∧ result.curated = false

structure Truthful (helpers : Helpers) (payload : Payload) (result : Option GeocodeResult)
    (snapshot : Snapshot) : Prop where
  latitude : -90 ≤ snapshot.latitude ∧ snapshot.latitude ≤ 90
  longitude : -180 ≤ snapshot.longitude ∧ snapshot.longitude ≤ 180
  fromPayload : Value.get payload.items "latitude" ≠ .none →
    Value.get payload.items "longitude" ≠ .none →
    (Value.get payload.items "latitude").Is helpers snapshot.latitude ∧
      (Value.get payload.items "longitude").Is helpers snapshot.longitude
  fromResult : ∀ found, resolvedResult result = some found →
    found.latitude.Is helpers snapshot.latitude ∧ found.longitude.Is helpers snapshot.longitude
  evidence : snapshot.source.direct = false →
    ∃ found, resolvedResult result = some found ∧ found.Justifies snapshot.source
  verified : snapshot.identityStatus = .verified ↔
    ∃ found, resolvedResult result = some found ∧ found.curated = true

section Coordinates

variable {helpers : Helpers}

theorem coordinate_finite {number : Number} {bound : ℚ}
    (h : isCoordinate helpers bound number = true) :
    ∃ x, number = .finite x ∧ -bound ≤ x ∧ x ≤ bound := by
  cases number with
  | finite x =>
    simp only [isCoordinate, Bool.and_eq_true, decide_eq_true_eq] at h
    exact ⟨x, rfl, h.1.1, h.1.2⟩
  | infinite negative => cases h
  | nan => cases h

theorem is_of_toFloat {value : Value} {x : ℚ} (hbool : value.isBool = false)
    (h : value.toFloat helpers = .ok (.finite x)) (hx : |x| ≤ 180) : value.Is helpers x := by
  cases value with
  | bool value => cases hbool
  | int value =>
    exact floatOfInt_eq h (hx.trans_lt (by norm_num))
  | float value =>
    simp only [Value.toFloat, Except.ok.injEq] at h
    exact h
  | str value =>
    simp only [Value.toFloat] at h
    split at h
    next number hnumber =>
      cases h
      exact hnumber
    · cases h
  | none => cases h
  | moment value => cases h
  | other truthy => cases h

/-- What the checked pair says of the values it was read from. -/
theorem toFloatPair_ok {latitude longitude : Value} {pair : ℚ × ℚ}
    (h : toFloatPair helpers latitude longitude = .ok pair) :
    latitude.Is helpers pair.1 ∧ longitude.Is helpers pair.2 ∧
      (-90 ≤ pair.1 ∧ pair.1 ≤ 90) ∧ -180 ≤ pair.2 ∧ pair.2 ≤ 180 := by
  obtain ⟨hvalid, h⟩ := check_bind_eq_ok.mp h
  obtain ⟨valid, hcheck, hrequire⟩ := bind_eq_ok.mp hvalid
  obtain rfl : valid = true := require_eq_ok.mp hrequire
  unfold validCoordinates at hcheck
  split at hcheck
  · cases hcheck
  next hbool =>
  simp only [Bool.or_eq_true, not_or, Bool.not_eq_true] at hbool
  split at hcheck
  · cases hcheck
  · cases hcheck
  · cases hcheck
  · cases hcheck
  next lat lng hlat hlng =>
  simp only [Except.ok.injEq, Bool.and_eq_true] at hcheck
  obtain ⟨x, rfl, hx⟩ := coordinate_finite hcheck.1
  obtain ⟨y, rfl, hy⟩ := coordinate_finite hcheck.2
  simp only [hlat, hlng] at h
  obtain ⟨-, h⟩ := check_bind_eq_ok.mp h
  cases h
  refine ⟨is_of_toFloat hbool.1 hlat ?_, is_of_toFloat hbool.2 hlng ?_, hx, hy⟩
  · rw [abs_le]
    constructor <;> linarith [hx.1, hx.2]
  · rw [abs_le]
    exact hy

theorem chooseCoordinates_ok {payload : Payload} {result : Option GeocodeResult} {pair : ℚ × ℚ}
    (h : chooseCoordinates helpers payload result = .ok pair) :
    ((-90 ≤ pair.1 ∧ pair.1 ≤ 90) ∧ -180 ≤ pair.2 ∧ pair.2 ≤ 180) ∧
    (Value.get payload.items "latitude" ≠ .none → Value.get payload.items "longitude" ≠ .none →
      (Value.get payload.items "latitude").Is helpers pair.1 ∧
        (Value.get payload.items "longitude").Is helpers pair.2) ∧
    ∀ found, resolvedResult result = some found →
      found.latitude.Is helpers pair.1 ∧ found.longitude.Is helpers pair.2 := by
  unfold chooseCoordinates at h
  dsimp only at h
  split at h
  next hboth =>
    obtain ⟨own, hown, h⟩ := bind_eq_ok.mp h
    obtain ⟨hlat, hlng, hrange⟩ := toFloatPair_ok hown
    split at h
    next hnone =>
      cases h
      refine ⟨hrange, fun _ _ => ⟨hlat, hlng⟩, fun found hfound => ?_⟩
      rw [hnone] at hfound
      cases hfound
    next found hfound =>
      obtain ⟨other, hother, h⟩ := bind_eq_ok.mp h
      obtain ⟨hsame, h⟩ := check_bind_eq_ok.mp h
      obtain rfl := Except.ok.inj h
      obtain rfl : own = other := require_eq_ok.mp hsame
      refine ⟨hrange, fun _ _ => ⟨hlat, hlng⟩, fun found' hfound' => ?_⟩
      obtain rfl : found' = found := Option.some.inj (hfound'.symm.trans hfound)
      obtain ⟨hlat', hlng', -⟩ := toFloatPair_ok hother
      exact ⟨hlat', hlng'⟩
  next hneither =>
  split at h
  · cases h
  split at h
  · cases h
  next found hfound =>
  obtain ⟨hlat, hlng, hrange⟩ := toFloatPair_ok h
  refine ⟨hrange, fun hlat' hlng' => absurd ⟨hlat', hlng'⟩ hneither, fun found' hfound' => ?_⟩
  obtain rfl : found' = found := Option.some.inj (hfound'.symm.trans hfound)
  exact ⟨hlat, hlng⟩

end Coordinates

section Evidence

variable {helpers : Helpers} {payload : Payload} {result : Option GeocodeResult}

theorem assertProvider_ok {source : Source} (h : assertProvider source result = .ok ())
    (hdirect : source.direct = false) :
    ∃ found, resolvedResult result = some found ∧
      if source = .curated then found.curated = true else found.providerName ≠ none := by
  unfold assertProvider at h
  rw [if_neg (by simp [hdirect])] at h
  split at h
  · cases h
  next found hfound =>
  refine ⟨found, hfound, ?_⟩
  split at h
  next hcurated =>
    rw [if_pos hcurated]
    exact require_eq_ok.mp h
  next hsearch =>
    rw [if_neg hsearch]
    exact require_eq_ok.mp h

/-- Where there is a resolved result the source is the one it stands for. -/
theorem chooseSource_resolved {source method : Option String} {found : GeocodeResult}
    {chosen : Source} (hfound : resolvedResult result = some found)
    (h : chooseSource helpers payload result source method = .ok chosen) :
    chosen = found.source := by
  unfold chooseSource at h
  split at h
  · simp only [inferSource, hfound, Except.ok.injEq] at h
    exact h.symm
  · obtain ⟨given, -, h⟩ := bind_eq_ok.mp h
    rw [hfound] at h
    obtain ⟨hsame, h⟩ := check_bind_eq_ok.mp h
    cases h
    exact require_eq_ok.mp hsame
  · cases h

theorem justifies_of {found : GeocodeResult}
    (h : if found.source = .curated then found.curated = true else found.providerName ≠ none) :
    found.Justifies found.source := by
  unfold GeocodeResult.Justifies
  cases hcurated : found.curated with
  | true => simp [GeocodeResult.source, hcurated]
  | false =>
    have hsource : found.source = .search := by simp [GeocodeResult.source, hcurated]
    rw [hsource] at h ⊢
    simpa using h

theorem inferIdentityStatus_verified (displayName : Option String) :
    inferIdentityStatus result displayName = .verified ↔
      ∃ found, resolvedResult result = some found ∧ found.curated = true := by
  unfold inferIdentityStatus
  cases hresult : resolvedResult result with
  | none => cases displayName <;> simp
  | some found => cases hcurated : found.curated <;> simp [hcurated]

theorem assembleSnapshot_ok {snapshot assembled : Snapshot}
    (h : assembleSnapshot snapshot = .ok assembled) :
    assembled.latitude = snapshot.latitude ∧ assembled.longitude = snapshot.longitude ∧
      assembled.source = snapshot.source ∧ assembled.identityStatus = snapshot.identityStatus ∧
      assembled.area = snapshot.area.bind fun text => (Value.str text).text? := by
  obtain ⟨-, h⟩ := check_bind_eq_ok.mp h
  obtain ⟨-, h⟩ := check_bind_eq_ok.mp h
  obtain ⟨-, h⟩ := check_bind_eq_ok.mp h
  cases h
  exact ⟨rfl, rfl, rfl, rfl, rfl⟩

/-- A snapshot that the general builder returns is truthful. -/
theorem truthful_of_build {now : Moment} {address : Option String} {observedAt : Value}
    {source method : Option String} {snapshot : Snapshot}
    (h : buildCanonicalLocationSnapshot helpers now payload result address observedAt source
      method = .ok snapshot) : Truthful helpers payload result snapshot := by
  obtain ⟨-, h⟩ := check_bind_eq_ok.mp h
  obtain ⟨pair, hpair, h⟩ := bind_eq_ok.mp h
  obtain ⟨chosen, hchosen, h⟩ := bind_eq_ok.mp h
  obtain ⟨hprovider, h⟩ := check_bind_eq_ok.mp h
  obtain ⟨_, -, h⟩ := bind_eq_ok.mp h
  obtain ⟨_, -, h⟩ := bind_eq_ok.mp h
  obtain ⟨_, -, h⟩ := bind_eq_ok.mp h
  obtain ⟨_, -, h⟩ := bind_eq_ok.mp h
  obtain ⟨_, -, h⟩ := bind_eq_ok.mp h
  obtain ⟨hlatitude, hlongitude, hsource, hstatus, -⟩ := assembleSnapshot_ok h
  obtain ⟨⟨hlat, hlng⟩, hown, hother⟩ := chooseCoordinates_ok hpair
  dsimp only at hlatitude hlongitude hsource hstatus
  refine ⟨?_, ?_, ?_, ?_, ?_, ?_⟩
  · rwa [hlatitude]
  · rwa [hlongitude]
  · rwa [hlatitude, hlongitude]
  · rwa [hlatitude, hlongitude]
  · rw [hsource]
    intro hdirect
    obtain ⟨found, hfound, hevidence⟩ := assertProvider_ok hprovider hdirect
    obtain rfl := chooseSource_resolved hfound hchosen
    exact ⟨found, hfound, justifies_of hevidence⟩
  · rw [hstatus]
    exact inferIdentityStatus_verified _

end Evidence

section Agreement

variable {helpers : Helpers}

/-- The snapshot with another time of resolution. -/
def Snapshot.stamped (moment : Moment) (snapshot : Snapshot) : Snapshot :=
  { snapshot with resolvedAt := moment }

/-- The snapshot with another area. -/
def Snapshot.inArea (area : Option String) (snapshot : Snapshot) : Snapshot :=
  { snapshot with area := area }

theorem text?_text? {value : Value} {text : String} (h : value.text? = some text) :
    (Value.str text).text? = some text := by
  cases value with
  | str own =>
    simp only [Value.text?] at h ⊢
    split at h
    next hblank =>
      cases h
      rw [strip_strip, if_pos hblank]
    · cases h
  | _ => cases h

theorem area_text? (result : GeocodeResult) :
    result.area.bind (fun text => (Value.str text).text?) = result.area := by
  cases harea : result.area with
  | none => rfl
  | some text =>
    obtain ⟨key, -, hkey⟩ := List.exists_of_findSome?_eq_some harea
    exact text?_text? hkey

theorem assembleSnapshot_stamped (moment : Moment) (snapshot : Snapshot) :
    assembleSnapshot (snapshot.stamped moment) =
      Snapshot.stamped moment <$> assembleSnapshot snapshot := by
  simp only [assembleSnapshot, map_bind]
  rfl

theorem assembleSnapshot_inArea (result : GeocodeResult) (snapshot : Snapshot) :
    assembleSnapshot (snapshot.inArea result.area) =
      Snapshot.inArea result.area <$> assembleSnapshot snapshot := by
  simp only [assembleSnapshot, map_bind, Snapshot.inArea, area_text?]
  rfl

theorem build_stamped (now later : Moment) (payload : Payload) (result : Option GeocodeResult)
    (address : Option String) (observedAt : Value) (source method : Option String) :
    buildCanonicalLocationSnapshot helpers later payload result address observedAt source method =
      Snapshot.stamped later <$>
        buildCanonicalLocationSnapshot helpers now payload result address observedAt source
          method := by
  simp only [buildCanonicalLocationSnapshot, map_bind, ← assembleSnapshot_stamped]
  rfl

/-- Of a result that is not resolved only the area is taken. -/
theorem build_unresolved {ignored : GeocodeResult} (h : ignored.resolved = false) (now : Moment)
    (payload : Payload) (address : Option String) (observedAt : Value)
    (source method : Option String) :
    buildCanonicalLocationSnapshot helpers now payload (some ignored) address observedAt source
        method =
      Snapshot.inArea ignored.area <$>
        buildCanonicalLocationSnapshot helpers now payload none address observedAt source
          method := by
  have hnone : resolvedResult (some ignored) = resolvedResult none := by
    simp [resolvedResult, h]
  simp only [buildCanonicalLocationSnapshot, map_bind, ← assembleSnapshot_inArea,
    chooseCoordinates, chooseSource, inferSource, assertProvider, shownName, resultAccuracy,
    resultConfidence, buildProvenance, inferIdentityStatus, hnone]
  rfl

/-- For a resolved result the two builders take the same source; only the text of the refusal of
another one differs. -/
theorem chooseSource_confirmSource {payload : Payload} {result : Option GeocodeResult}
    {found : GeocodeResult} (h : resolvedResult result = some found)
    (source method : Option String) :
    (chooseSource helpers payload result source method).toOption =
      (found.confirmSource source method).toOption := by
  unfold chooseSource GeocodeResult.confirmSource
  cases source with
  | none =>
    cases method with
    | none => simp only [inferSource, h]
    | some method => rfl
  | some source =>
    cases method with
    | none => rfl
    | some method =>
      simp only [h, toOption_bind]
      congr 1
      funext given
      by_cases hsame : given = found.source
      · simp [require, hsame]
      · simp [require, hsame]
        rfl

theorem get_absent (key : String) : Value.get (Payload.mapping []).items key = .none := rfl

theorem positiveAccuracy_none : positiveAccuracy helpers .none = .ok none := rfl

theorem confidenceOf_none : confidenceOf helpers .none = .ok none := rfl

theorem orRead_none (known : Option ℚ) : orRead known (.ok none) = .ok known := by
  cases known <;> rfl

theorem observed_or_none (observedAt : Value) :
    (if observedAt ≠ .none then observedAt else .none) = observedAt := by
  by_cases hnone : observedAt = .none <;> simp [hnone]

theorem resolveLabel_bare (address displayName : Option String) (source : Source) :
    resolveLabel address (.mapping []) displayName source =
      resolveLabel address .none displayName source := rfl

theorem inArea_eq_iff {snapshot : Snapshot} (h : snapshot.area = none) {area : Option String} :
    snapshot.inArea area = snapshot ↔ area = none := by
  cases snapshot
  simp only at h
  subst h
  simp [Snapshot.inArea]

/-- Without a result no area is known. -/
theorem area_of_build {now : Moment} {payload : Payload} {address : Option String}
    {observedAt : Value} {source method : Option String} {snapshot : Snapshot}
    (h : buildCanonicalLocationSnapshot helpers now payload none address observedAt source method =
      .ok snapshot) : snapshot.area = none := by
  obtain ⟨-, h⟩ := check_bind_eq_ok.mp h
  obtain ⟨_, -, h⟩ := bind_eq_ok.mp h
  obtain ⟨_, -, h⟩ := bind_eq_ok.mp h
  obtain ⟨-, h⟩ := check_bind_eq_ok.mp h
  obtain ⟨_, -, h⟩ := bind_eq_ok.mp h
  obtain ⟨_, -, h⟩ := bind_eq_ok.mp h
  obtain ⟨_, -, h⟩ := bind_eq_ok.mp h
  obtain ⟨_, -, h⟩ := bind_eq_ok.mp h
  obtain ⟨_, -, h⟩ := bind_eq_ok.mp h
  exact (assembleSnapshot_ok h).2.2.2.2

/-- An empty payload with a resolved result is built as the result alone. -/
theorem build_resolved {found : GeocodeResult} (h : found.resolved = true) (now : Moment)
    (address : Option String) (observedAt : Value) (source method : Option String) :
    (buildCanonicalLocationSnapshot helpers now (.mapping []) (some found) address observedAt
        source method).toOption =
      (buildFromGeocodeResult helpers now (some found) address observedAt source
        method).toOption := by
  have hfound : resolvedResult (some found) = some found := by simp [resolvedResult, h]
  have hcoordinates : chooseCoordinates helpers (.mapping []) (some found) =
      toFloatPair helpers found.latitude found.longitude := by
    unfold chooseCoordinates
    rw [hfound]
    rfl
  have hsource : (chooseSource helpers (.mapping []) (some found) source method).toOption =
      (found.confirmSource source method).toOption :=
    chooseSource_confirmSource hfound source method
  simp only [buildCanonicalLocationSnapshot, buildFromGeocodeResult, hfound, toOption_bind,
    hcoordinates, hsource, shownName, resultAccuracy, resultConfidence, get_absent,
    positiveAccuracy_none, confidenceOf_none, orRead_none, observed_or_none, toOption_ok,
    Option.bind_some, resolveLabel_bare]
  -- the coordinates are read before the source is chosen here and after it there
  change (toFloatPair helpers found.latitude found.longitude).toOption.bind _ = _
  rw [Option.bind_comm]
  congr 1
  funext chosen
  rw [Option.bind_comm]

/-- The payload of a bare point. -/
def point (latitude longitude : Value) : Payload :=
  .mapping [("latitude", latitude), ("longitude", longitude)]

theorem toFloatPair_absent {latitude longitude : Value} (h : latitude = .none ∨ longitude = .none) :
    (toFloatPair helpers latitude longitude).toOption = none := by
  cases hpair : toFloatPair helpers latitude longitude with
  | error e => rfl
  | ok pair =>
    obtain ⟨hlat, hlng, -⟩ := toFloatPair_ok hpair
    obtain rfl | rfl := h
    · exact hlat.elim
    · exact hlng.elim

theorem chooseCoordinates_point (latitude longitude : Value) :
    (chooseCoordinates helpers (point latitude longitude) none).toOption =
      (toFloatPair helpers latitude longitude).toOption := by
  change Except.toOption (if latitude ≠ .none ∧ longitude ≠ .none then
      toFloatPair helpers latitude longitude >>= .ok
    else if latitude ≠ .none ∨ longitude ≠ .none then .error .halfCoordinates
    else .error .noCoordinates) = _
  by_cases hboth : latitude ≠ .none ∧ longitude ≠ .none
  · rw [if_pos hboth]
    exact congrArg Except.toOption (bind_pure _)
  · rw [if_neg hboth, toFloatPair_absent (by tauto)]
    split <;> rfl

theorem assertProvider_point (source : Source) :
    (assertProvider source none).toOption = (assertDirect source).toOption := by
  cases source <;> rfl

theorem get_point (latitude longitude : Value) :
    Value.get (point latitude longitude).items "accuracy_m" = .none ∧
      Value.get (point latitude longitude).items "confidence" = .none ∧
      Value.get (point latitude longitude).items "observed_at" = .none := ⟨rfl, rfl, rfl⟩

theorem shownName_point (latitude longitude : Value) :
    shownName (point latitude longitude) none = none := rfl

theorem resolveLabel_point (latitude longitude : Value) (address displayName : Option String)
    (source : Source) :
    resolveLabel address (point latitude longitude) displayName source =
      resolveLabel address .none displayName source := rfl

/-- Coordinates alone are built as coordinates, with the source that is chosen for them. -/
theorem build_point (now : Moment) (latitude longitude : Value) (address : Option String)
    (observedAt : Value) {source method : Option String} {given way : String}
    (h : chooseSource helpers (point latitude longitude) none source method =
      validateSourceMethod (strip given) (strip way)) :
    (buildCanonicalLocationSnapshot helpers now (point latitude longitude) none address observedAt
        source method).toOption =
      (buildFromCoordinates helpers now latitude longitude given way address observedAt
        .none).toOption := by
  simp only [buildCanonicalLocationSnapshot, buildFromCoordinates, toOption_bind, h,
    chooseCoordinates_point, assertProvider_point, get_point, shownName_point,
    resolveLabel_point, positiveAccuracy_none, confidenceOf_none, orRead_none, observed_or_none,
    toOption_ok, Option.bind_some]
  change (toFloatPair helpers latitude longitude).toOption.bind _ = _
  rw [Option.bind_comm]
  congr 1
  funext chosen
  rw [Option.bind_comm]
  rfl

end Agreement

section Canonical

/-- Every snapshot is truthful, and the three builders agree up to the time of resolution. A result
that is not resolved changes nothing exactly when its raw data names no area. -/
theorem canonical_snapshots (helpers : Helpers) (now later : Moment) (address : Option String)
    (observedAt : Value) :
    (∀ payload result source method snapshot,
      buildCanonicalLocationSnapshot helpers now payload result address observedAt source method =
        .ok snapshot → Truthful helpers payload result snapshot) ∧
    (∀ payload ignored source method, ignored.resolved = false →
      (∀ snapshot, buildCanonicalLocationSnapshot helpers now payload none address observedAt
          source method = .ok snapshot →
        (buildCanonicalLocationSnapshot helpers now payload (some ignored) address observedAt
          source method = .ok snapshot ↔ ignored.area = none)) ∧
      ∀ e, buildCanonicalLocationSnapshot helpers now payload none address observedAt source
          method = .error e ↔
        buildCanonicalLocationSnapshot helpers now payload (some ignored) address observedAt
          source method = .error e) ∧
    (∀ found source method, found.resolved = true →
      ((buildCanonicalLocationSnapshot helpers now (.mapping []) (some found) address observedAt
        source method).map (Snapshot.stamped later)).toOption =
        (buildFromGeocodeResult helpers later (some found) address observedAt source
          method).toOption) ∧
    (∀ latitude longitude source method,
      ((buildCanonicalLocationSnapshot helpers now (point latitude longitude) none address
        observedAt (some source) (some method)).map (Snapshot.stamped later)).toOption =
        (buildFromCoordinates helpers later latitude longitude source method address observedAt
          .none).toOption) ∧
    ∀ latitude longitude,
      ((buildCanonicalLocationSnapshot helpers now (point latitude longitude) none address
        observedAt none none).map (Snapshot.stamped later)).toOption =
        (buildFromCoordinates helpers later latitude longitude "map" "map_pin" address observedAt
          .none).toOption := by
  refine ⟨?_, ?_, ?_, ?_, ?_⟩
  · intro payload result source method snapshot h
    exact truthful_of_build h
  · intro payload ignored source method hunresolved
    rw [build_unresolved hunresolved]
    constructor
    · intro snapshot h
      have harea : snapshot.area = none := area_of_build h
      rw [h]
      change Except.ok (snapshot.inArea ignored.area) = Except.ok snapshot ↔ ignored.area = none
      rw [Except.ok.injEq]
      exact inArea_eq_iff harea
    · intro e
      cases buildCanonicalLocationSnapshot helpers now payload none address observedAt source
        method with
      | error own => exact Iff.rfl
      | ok snapshot => simp
  · intro found source method hresolved
    change Except.toOption (Snapshot.stamped later <$> _) = _
    rw [← build_stamped, build_resolved hresolved]
  · intro latitude longitude source method
    change Except.toOption (Snapshot.stamped later <$> _) = _
    rw [← build_stamped]
    exact build_point later latitude longitude address observedAt (bind_pure _)
  · intro latitude longitude
    change Except.toOption (Snapshot.stamped later <$> _) = _
    rw [← build_stamped]
    exact build_point later latitude longitude address observedAt (by rfl)

def plainHelpers : Helpers where
  number := fun _ => none
  plain := fun _ => true
  text := fun _ => ""
  quoted := id

/-- A point in Kampala as a phone sends it. -/
def kampalaPoint : Payload := point (.float (.finite (5 / 16))) (.float (.finite (65 / 2)))

/-- A geocode result that was not resolved. -/
def guessed : GeocodeResult := { raw := [("city", .str "Kampala")] }

/-- The area of an unresolved result is kept. -/
theorem unresolved_area_kept :
    let now : Moment := ⟨true, "2026-01-10T12:00:00+00:00"⟩
    let build := fun result => buildCanonicalLocationSnapshot plainHelpers now kampalaPoint result
      none .none none none
    guessed.resolved = false ∧
      (build none).toOption.map Snapshot.area = some none ∧
      (build (some guessed)).toOption.map Snapshot.area = some (some "Kampala") := by
  refine ⟨rfl, ?_, ?_⟩ <;> decide +kernel

end Canonical

end Afcon360.Transport.Location
